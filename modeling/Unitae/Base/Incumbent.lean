import Mathlib.Data.Set.Lattice
import Mathlib.Order.Lattice

/-!
# Searches that keep the best candidate so far

A search walks a space of candidates and carries one incumbent. Each part of it is described by the
candidates it was responsible for: the incumbent it leaves is the one it found or one of those, it
is no worse than the one it found, and no candidate of the part beats it. The rules say how parts
are skipped, visited and put one after the other.
-/

variable {α κ ι : Type*} [LinearOrder κ]

/-- What a part of the search answerable for `part` may do to the incumbent. -/
structure Improves (key : α → κ) (part : Set α) (before after : Option α) : Prop where
  source : ∀ a ∈ after, a ∈ before ∨ a ∈ part
  keeps : ∀ b ∈ before, ∃ a ∈ after, key b ≤ key a
  covers : ∀ x ∈ part, ∃ a ∈ after, key x ≤ key a

namespace Improves

variable {key : α → κ} {part rest : Set α} {before mid after : Option α}

/-- A part with no candidate that beats the incumbent can be skipped. -/
theorem prune {b : α} (hb : b ∈ before) (h : ∀ x ∈ part, key x ≤ key b) :
    Improves key part before before where
  source := fun _ ha => .inl ha
  keeps := fun b hb => ⟨b, hb, le_rfl⟩
  covers := fun x hx => ⟨b, hb, h x hx⟩

/-- A single candidate takes the incumbent's place when there is none or it is better. -/
theorem leaf (x : α) :
    Improves key {x} before (if ∀ b ∈ before, key b < key x then some x else before) := by
  by_cases hx : ∀ b ∈ before, key b < key x
  · rw [if_pos hx]
    refine ⟨fun a ha => ?_, fun b hb => ⟨x, rfl, (hx b hb).le⟩, fun y hy => ⟨x, rfl, ?_⟩⟩
    · exact .inr (Option.some.inj ha).symm
    · exact le_of_eq (congrArg key hy)
  · rw [if_neg hx]
    push Not at hx
    obtain ⟨b, hb, hle⟩ := hx
    refine prune hb fun y hy => ?_
    rw [Set.mem_singleton_iff.mp hy]
    exact hle

theorem trans (h : Improves key part before mid) (h' : Improves key rest mid after) :
    Improves key (part ∪ rest) before after where
  source := by
    intro a ha
    rcases h'.source a ha with hmid | hrest
    · exact (h.source a hmid).imp id Or.inl
    · exact .inr (.inr hrest)
  keeps := by
    intro b hb
    obtain ⟨m, hm, hbm⟩ := h.keeps b hb
    obtain ⟨a, ha, hma⟩ := h'.keeps m hm
    exact ⟨a, ha, hbm.trans hma⟩
  covers := by
    rintro x (hx | hx)
    · obtain ⟨m, hm, hxm⟩ := h.covers x hx
      obtain ⟨a, ha, hma⟩ := h'.keeps m hm
      exact ⟨a, ha, hxm.trans hma⟩
    · exact h'.covers x hx

theorem congr (h : Improves key part before after) (hrest : rest = part) :
    Improves key rest before after := hrest ▸ h

theorem mem_space {space : Set α} (h : Improves key part before after) (hpart : part ⊆ space)
    (hbefore : ∀ b ∈ before, b ∈ space) : ∀ a ∈ after, a ∈ space := by
  intro a ha
  rcases h.source a ha with hb | hx
  · exact hbefore a hb
  · exact hpart hx

/-- A loop over the branches of a node is answerable for the candidates of all of them. A branch may
rely on the incumbent being a candidate of the `space` the branches lie in. -/
theorem foldl {space : Set α} {branch : ι → Set α} {visit : Option α → ι → Option α} (is : List ι)
    (hspace : ∀ i ∈ is, branch i ⊆ space)
    (h : ∀ i ∈ is, ∀ b, (∀ a ∈ b, a ∈ space) → Improves key (branch i) b (visit b i))
    (before : Option α) (hbefore : ∀ a ∈ before, a ∈ space) :
    Improves key {x | ∃ i ∈ is, x ∈ branch i} before (is.foldl visit before) := by
  induction is generalizing before with
  | nil =>
    refine ⟨fun _ ha => .inl ha, fun b hb => ⟨b, hb, le_rfl⟩, fun x hx => ?_⟩
    obtain ⟨i, hi, -⟩ := hx
    exact absurd hi List.not_mem_nil
  | cons i is ih =>
    have hfirst := h i List.mem_cons_self before hbefore
    have hrest := ih (fun j hj => hspace j (List.mem_cons_of_mem i hj))
      (fun j hj => h j (List.mem_cons_of_mem i hj)) (visit before i)
      (hfirst.mem_space (hspace i List.mem_cons_self) hbefore)
    refine (hfirst.trans hrest).congr (Set.ext fun x => ?_)
    simp

/-- **A search from no incumbent** over a space with a candidate ends with a best one. -/
theorem best (h : Improves key part none after) (hne : part.Nonempty) :
    ∃ a, after = some a ∧ a ∈ part ∧ ∀ x ∈ part, key x ≤ key a := by
  obtain ⟨x, hx⟩ := hne
  obtain ⟨a, ha, -⟩ := h.covers x hx
  refine ⟨a, ha, (h.source a ha).resolve_left (by simp), fun y hy => ?_⟩
  obtain ⟨a', ha', hle⟩ := h.covers y hy
  obtain rfl : a = a' := Option.some.inj (ha.symm.trans ha')
  exact hle

end Improves
