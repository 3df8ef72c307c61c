import Mathlib.Order.Basic
import Mathlib.Order.Lattice
import Unitae.Base.Table

/-!
# Spans of time and chronologies

A `Span` runs from its start up to and including its stop; without a stop it runs for ever. Two
spans overlap when each starts no later than the other stops, which for spans that do not run
backwards says that they share an instant (`Span.overlaps_iff`).

`Apart key lane span rows` says of a table that no two rows of one lane overlap. The lemmas are the
ways a table of bookings is written: a row added under a check, a row rewritten under a check, rows
cut short.
-/

/-- From `start` to `stop`, both included; with no `stop`, without end. -/
structure Span (α : Type) where
  start : α
  stop : Option α
deriving DecidableEq, Repr

namespace Span

variable {α : Type} [LinearOrder α] {a b c : Span α}

/-- The span has not stopped before `t`. -/
def Reaches (a : Span α) (t : α) : Prop := ∀ e ∈ a.stop, t ≤ e

instance (a : Span α) (t : α) : Decidable (a.Reaches t) :=
  inferInstanceAs (Decidable (∀ e ∈ a.stop, t ≤ e))

/-- Each starts no later than the other stops. -/
def Overlaps (a b : Span α) : Prop := a.Reaches b.start ∧ b.Reaches a.start

instance (a b : Span α) : Decidable (a.Overlaps b) := inferInstanceAs (Decidable (_ ∧ _))

/-- The span does not stop before it starts. -/
def Forward (a : Span α) : Prop := a.Reaches a.start

instance (a : Span α) : Decidable a.Forward := inferInstanceAs (Decidable (a.Reaches _))

theorem Overlaps.symm (h : a.Overlaps b) : b.Overlaps a := ⟨h.2, h.1⟩

/-- What `Overlaps` is for: spans that run forward overlap exactly when they share an instant. -/
theorem overlaps_iff (ha : a.Forward) (hb : b.Forward) :
    a.Overlaps b ↔ ∃ t, (a.start ≤ t ∧ a.Reaches t) ∧ b.start ≤ t ∧ b.Reaches t := by
  constructor
  · intro h
    refine ⟨max a.start b.start, ⟨le_max_left _ _, ?_⟩, le_max_right _ _, ?_⟩
    · exact fun e he => max_le (ha e he) (h.1 e he)
    · exact fun e he => max_le (h.2 e he) (hb e he)
  · rintro ⟨t, ⟨hat, hta⟩, hbt, htb⟩
    exact ⟨fun e he => hbt.trans (hta e he), fun e he => hat.trans (htb e he)⟩

/-- `a` starts with `b` and stops no later. -/
structure Cuts (a b : Span α) : Prop where
  start : a.start = b.start
  stop : ∀ t, a.Reaches t → b.Reaches t

theorem Cuts.refl (a : Span α) : a.Cuts a := ⟨rfl, fun _ h => h⟩

/-- Stopping an open span. -/
theorem Cuts.of_open (hstart : a.start = b.start) (hopen : b.stop = none) : a.Cuts b :=
  ⟨hstart, fun _ _ e he => by rw [hopen] at he; exact absurd he (by simp)⟩

/-- Stopping a span where it has not stopped before. -/
theorem Cuts.of_reaches {t : α} (h : b.Reaches t) : Cuts ⟨b.start, some t⟩ b :=
  ⟨rfl, fun _ hreach e he => (hreach t rfl).trans (h e he)⟩

theorem Overlaps.of_cuts {a' b' : Span α} (h : a'.Overlaps b') (ha : a'.Cuts a) (hb : b'.Cuts b) :
    a.Overlaps b := by
  refine ⟨ha.stop _ ?_, hb.stop _ ?_⟩
  · rw [← hb.start]
    exact h.1
  · rw [← ha.start]
    exact h.2

/-- An open span overlaps what has not stopped before its start. -/
theorem overlaps_of_open (h : a.stop = none) : a.Overlaps b ↔ b.Reaches a.start := by
  refine ⟨fun h => h.2, fun hb => ⟨?_, hb⟩⟩
  intro e he
  rw [h] at he
  exact absurd he (by simp)

end Span

/-- No two rows of one lane overlap. -/
def Apart {α ρ κ ℓ : Type} [LinearOrder α] (key : ρ → κ) (lane : ρ → ℓ) (span : ρ → Span α)
    (rows : List ρ) : Prop :=
  ∀ a ∈ rows, ∀ b ∈ rows, key a ≠ key b → lane a = lane b → ¬(span a).Overlaps (span b)

instance {α ρ κ ℓ : Type} [LinearOrder α] [DecidableEq κ] [DecidableEq ℓ] (key : ρ → κ)
    (lane : ρ → ℓ) (span : ρ → Span α) (rows : List ρ) : Decidable (Apart key lane span rows) :=
  inferInstanceAs (Decidable (∀ _ ∈ _, ∀ _ ∈ _, _ → _ → ¬_))

namespace Apart

variable {α ρ κ ℓ : Type} [LinearOrder α] {key : ρ → κ} {lane : ρ → ℓ} {span : ρ → Span α}
  {rows : List ρ}

theorem filter (h : Apart key lane span rows) (p : ρ → Bool) :
    Apart key lane span (rows.filter p) :=
  fun a ha b hb => h a (List.mem_of_mem_filter ha) b (List.mem_of_mem_filter hb)

/-- A row added after a look at the rows of its lane. -/
theorem append_one (h : Apart key lane span rows) {b : ρ}
    (hb : ∀ a ∈ rows, lane a = lane b → ¬(span b).Overlaps (span a)) :
    Apart key lane span (rows ++ [b]) := by
  intro x hx y hy hkey hlane
  rcases List.mem_append.mp hx with hold | hnew <;> rcases List.mem_append.mp hy with hold' | hnew'
  · exact h x hold y hold' hkey hlane
  · rw [List.mem_singleton.mp hnew'] at hlane ⊢
    exact fun hover => hb x hold hlane hover.symm
  · rw [List.mem_singleton.mp hnew] at hlane ⊢
    exact hb y hold' hlane.symm
  · rw [List.mem_singleton.mp hnew, List.mem_singleton.mp hnew'] at hkey
    exact absurd rfl hkey

/-- Rows cut short where they stand. -/
theorem map_cuts (h : Apart key lane span rows) {f : ρ → ρ} (hkey : ∀ a, key (f a) = key a)
    (hlane : ∀ a, lane (f a) = lane a) (hcuts : ∀ a ∈ rows, (span (f a)).Cuts (span a)) :
    Apart key lane span (rows.map f) := by
  intro x hx y hy hne hsame
  obtain ⟨a, ha, rfl⟩ := List.mem_map.mp hx
  obtain ⟨b, hb, rfl⟩ := List.mem_map.mp hy
  rw [hkey, hkey] at hne
  rw [hlane, hlane] at hsame
  exact fun hover => h a ha b hb hne hsame (hover.of_cuts (hcuts a ha) (hcuts b hb))

/-- One row rewritten after a look at the other rows of its new lane. -/
theorem rewrite [DecidableEq κ] (h : Apart key lane span rows) {k : κ} {f : ρ → ρ}
    (hkey : ∀ a, key (f a) = key a)
    (hclear : ∀ a ∈ rows, key a = k → ∀ b ∈ rows, key b ≠ k → lane b = lane (f a) →
      ¬(span (f a)).Overlaps (span b)) :
    Apart key lane span (rows.map fun a => if key a = k then f a else a) := by
  intro x hx y hy hne hsame
  obtain ⟨a, ha, rfl⟩ := List.mem_map.mp hx
  obtain ⟨b, hb, rfl⟩ := List.mem_map.mp hy
  by_cases hak : key a = k <;> by_cases hbk : key b = k
  · simp only [hak, hbk, if_true, hkey] at hne
    exact absurd rfl hne
  · simp only [hak, hbk, if_true, if_false] at hsame ⊢
    exact hclear a ha hak b hb hbk hsame.symm
  · simp only [hak, hbk, if_true, if_false] at hsame ⊢
    exact fun hover => hclear b hb hbk a ha hak hsame hover.symm
  · simp only [hak, hbk, if_false] at hne hsame ⊢
    exact h a ha b hb hne hsame

end Apart
