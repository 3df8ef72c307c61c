import Mathlib.Data.List.Chain
import Mathlib.Data.List.Nodup

/-!
# Consecutive items of one key

Items in a row that have one key make a run. `Together x l` says that nothing else stands between two
occurrences of `x`; the runs of a list have distinct keys just when every key stands together
(`Runs.nodup_iff`), and then each run has all the items of its key.
-/

/-! ## Occurrences that stand together -/

section Together

variable {α : Type} {x y : α} {l r : List α}

/-- Nothing else stands between two occurrences. -/
def Together (x : α) (l : List α) : Prop := ∀ y, y ≠ x → ¬[x, y, x].Sublist l

theorem Together.of_sublist (h : Together x l) (hsub : r.Sublist l) : Together x r :=
  fun y hy hxyx => h y hy (hxyx.trans hsub)

theorem together_of_not_mem (h : x ∉ l) : Together x l := fun _ _ hsub =>
  h (hsub.subset List.mem_cons_self)

theorem together_cons_of_ne (h : y ≠ x) : Together x (y :: l) ↔ Together x l := by
  refine ⟨fun hl => hl.of_sublist (List.sublist_cons_self y l), fun hl z hz hsub => ?_⟩
  rcases List.sublist_cons_iff.mp hsub with hsub | ⟨rest, heq, -⟩
  · exact hl z hz hsub
  · exact h (List.cons.inj heq).1.symm

theorem together_append_left (h : x ∉ r) : Together x (l ++ r) ↔ Together x l := by
  refine ⟨fun hl => hl.of_sublist (List.sublist_append_left l r), fun hl z hz hsub => ?_⟩
  obtain ⟨front, back, heq, hfront, hback⟩ := List.sublist_append_iff.mp hsub
  rcases List.eq_nil_or_concat back with rfl | ⟨init, last, rfl⟩
  · rw [List.append_nil] at heq
    exact hl z hz (heq ▸ hfront)
  · -- the last of them is in the second part
    have hlast : last = x := by
      have hget := congrArg List.getLast? heq
      simpa using hget.symm
    exact h (hback.subset (by simp [hlast]))

theorem together_append_right (h : x ∉ l) : Together x (l ++ r) ↔ Together x r := by
  refine ⟨fun hl => hl.of_sublist (List.sublist_append_right l r), fun hl z hz hsub => ?_⟩
  obtain ⟨front, back, heq, hfront, hback⟩ := List.sublist_append_iff.mp hsub
  cases front with
  | nil => exact hl z hz (heq ▸ hback)
  | cons first front =>
    rw [List.cons_append] at heq
    exact h (hfront.subset ((List.cons.inj heq).1 ▸ List.mem_cons_self))

theorem together_append (h : x ∉ l ∨ x ∉ r) : Together x (l ++ r) ↔ Together x l ∧ Together x r := by
  rcases h with h | h
  · rw [together_append_right h]
    exact (and_iff_right (together_of_not_mem h)).symm
  · rw [together_append_left h]
    exact (and_iff_left (together_of_not_mem h)).symm

/-- Starting with `x` once more changes nothing. -/
theorem together_cons_cons : Together x (x :: x :: l) ↔ Together x (x :: l) := by
  refine ⟨fun hl => hl.of_sublist (List.sublist_cons_self x _), fun hl z hz hsub => ?_⟩
  rcases List.sublist_cons_iff.mp hsub with hsub | ⟨rest, heq, hrest⟩
  · exact hl z hz hsub
  · obtain rfl := (List.cons.inj heq).2
    refine hl z hz (List.Sublist.cons_cons x ?_)
    rcases List.sublist_cons_iff.mp hrest with hrest | ⟨rest', heq', -⟩
    · exact hrest
    · exact absurd (List.cons.inj heq').1 hz

/-- Something else after `x` ends its occurrences. -/
theorem together_cons_append (hl : x ∉ l) (hne : l ≠ []) : Together x (x :: (l ++ r)) ↔ x ∉ r := by
  constructor
  · intro htogether hr
    obtain ⟨y, hy⟩ := List.exists_mem_of_ne_nil l hne
    refine htogether y (fun heq => hl (heq ▸ hy)) (List.Sublist.cons_cons x ?_)
    exact (List.singleton_sublist.mpr hy).append (List.singleton_sublist.mpr hr)
  · intro hr y _ hsub
    rcases List.sublist_cons_iff.mp hsub with hsub | ⟨rest, heq, hrest⟩
    · exact absurd (hsub.subset List.mem_cons_self) (by simp [hl, hr])
    · obtain rfl := (List.cons.inj heq).2
      exact absurd (hrest.subset (by simp : x ∈ [y, x])) (by simp [hl, hr])

end Together

/-! ## Runs -/

/-- The runs of a list of keyed items. -/
structure Runs {σ κ β : Type} (key : σ → κ) (items : σ → List β) (runs : List σ) (l : List (κ × β)) : Prop where
  flat : runs.flatMap (fun run => (items run).map fun item => (key run, item)) = l
  nonempty : ∀ run ∈ runs, items run ≠ []
  apart : runs.IsChain fun a b => key a ≠ key b

section Runs

variable {σ κ β : Type} {key : σ → κ} {items : σ → List β} {runs : List σ} {run : σ} {l : List (κ × β)}

theorem Runs.nil : Runs key items [] [] := ⟨rfl, by simp, List.isChain_nil⟩

theorem Runs.of_cons (h : Runs key items (run :: runs) l) :
    Runs key items runs (runs.flatMap fun run => (items run).map fun item => (key run, item)) where
  flat := rfl
  nonempty := fun r hr => h.nonempty r (List.mem_cons_of_mem _ hr)
  apart := h.apart.tail

theorem mem_runKeys {k : κ} (h : Runs key items runs l) : k ∈ l.map Prod.fst ↔ k ∈ runs.map key := by
  rw [← h.flat, List.map_flatMap]
  simp only [List.mem_flatMap, List.map_map, List.mem_map, Function.comp_apply]
  constructor
  · rintro ⟨run, hrun, item, -, rfl⟩
    exact ⟨run, hrun, rfl⟩
  · rintro ⟨run, hrun, rfl⟩
    obtain ⟨item, hitem⟩ := List.exists_mem_of_ne_nil _ (h.nonempty run hrun)
    exact ⟨run, hrun, item, hitem, rfl⟩

/-- An item joins the last run. -/
theorem Runs.push_same {front : List σ} {last last' : σ} {item : β} (h : Runs key items (front ++ [last]) l)
    (hkey : key last' = key last) (hitems : items last' = items last ++ [item]) :
    Runs key items (front ++ [last']) (l ++ [(key last, item)]) where
  flat := by
    rw [← h.flat]
    simp [List.flatMap_append, hkey, hitems]
  nonempty := by
    intro run hrun
    rcases List.mem_append.mp hrun with hrun | hrun
    · exact h.nonempty run (List.mem_append_left _ hrun)
    · rw [List.mem_singleton.mp hrun, hitems]
      simp
  apart := by
    obtain ⟨hfront, -, hlast⟩ := List.isChain_append.mp h.apart
    refine List.isChain_append.mpr ⟨hfront, List.isChain_singleton _, fun run hrun next hnext => ?_⟩
    have hne := hlast run hrun last rfl
    obtain rfl : last' = next := by simpa using hnext
    rw [hkey]
    exact hne

/-- An item of another key starts a run. -/
theorem Runs.push_new (h : Runs key items runs l) (new : σ) {item : β}
    (hlast : ∀ last ∈ runs.getLast?, key last ≠ key new) (hitems : items new = [item]) :
    Runs key items (runs ++ [new]) (l ++ [(key new, item)]) where
  flat := by
    rw [← h.flat]
    simp [List.flatMap_append, hitems]
  nonempty := by
    intro run hrun
    rcases List.mem_append.mp hrun with hrun | hrun
    · exact h.nonempty run hrun
    · rw [List.mem_singleton.mp hrun, hitems]
      simp
  apart := by
    refine List.isChain_append.mpr ⟨h.apart, List.isChain_singleton _, fun run hrun next hnext => ?_⟩
    obtain rfl : new = next := by simpa using hnext
    exact hlast run hrun

/-- **The runs have distinct keys** just when every key stands together. -/
theorem Runs.nodup_iff (h : Runs key items runs l) :
    (runs.map key).Nodup ↔ ∀ k, Together k (l.map Prod.fst) := by
  induction runs generalizing l with
  | nil =>
    rw [← h.flat]
    exact iff_of_true List.nodup_nil fun k => together_of_not_mem List.not_mem_nil
  | cons run runs ih =>
    have hrest := h.of_cons
    have hsplit : l.map Prod.fst = (items run).map (fun _ => key run) ++
        (runs.flatMap fun run => (items run).map fun item => (key run, item)).map Prod.fst := by
      rw [← h.flat, List.flatMap_cons, List.map_append, List.map_map]
      rfl
    rw [List.map_cons, List.nodup_cons, ih hrest, hsplit, ← mem_runKeys hrest]
    have hfirst : ∀ k ∈ (items run).map fun _ => key run, k = key run := by
      intro k hk
      obtain ⟨_, _, rfl⟩ := List.mem_map.mp hk
      rfl
    constructor
    · rintro ⟨hnew, htogether⟩ k
      by_cases hk : k = key run
      · subst hk
        rw [together_append_left hnew]
        exact fun y hy hsub => hy (hfirst y (hsub.subset (by simp)))
      · rw [together_append_right fun hin => hk (hfirst k hin)]
        exact htogether k
    · intro htogether
      refine ⟨fun hagain => ?_, fun k => (htogether k).of_sublist (List.sublist_append_right _ _)⟩
      -- the run after this one has another key, and the key comes again after it
      rw [mem_runKeys hrest] at hagain
      cases runs with
      | nil => cases hagain
      | cons next runs =>
        have hne : key next ≠ key run := ((List.isChain_cons_cons.mp h.apart).1).symm
        have hlater : key run ∈ (runs.flatMap fun run => (items run).map fun item => (key run, item)).map
            Prod.fst := by
          rw [mem_runKeys hrest.of_cons]
          exact (List.mem_cons.mp hagain).resolve_left hne.symm
        obtain ⟨item, hitem⟩ := List.exists_mem_of_ne_nil _ (h.nonempty run List.mem_cons_self)
        obtain ⟨item', hitem'⟩ := List.exists_mem_of_ne_nil _
          (hrest.nonempty next List.mem_cons_self)
        have hhead : [key run].Sublist ((items run).map fun _ => key run) :=
          List.singleton_sublist.mpr (List.mem_map_of_mem hitem)
        have hnext : [key next].Sublist ((items next).map fun _ => key next) :=
          List.singleton_sublist.mpr (List.mem_map_of_mem hitem')
        refine htogether (key run) (key next) hne (hhead.append ?_)
        rw [List.flatMap_cons, List.map_append, List.map_map]
        exact hnext.append (List.singleton_sublist.mpr hlater)

/-- Where the keys are distinct, a run has all the items of its key. -/
theorem Runs.items_eq [DecidableEq κ] (h : Runs key items runs l) (hnodup : (runs.map key).Nodup)
    (hrun : run ∈ runs) : items run = (l.filter fun item => item.1 = key run).map Prod.snd := by
  rw [← h.flat]
  clear h
  induction runs with
  | nil => cases hrun
  | cons first runs ih =>
    obtain ⟨hnew, hrest⟩ := List.nodup_cons.mp hnodup
    have hown : ∀ other : σ, ((items other).map fun item => (key other, item)).filter
        (fun item => item.1 = key run) = if key other = key run then (items other).map fun item => (key other, item)
          else [] := by
      intro other
      rw [List.filter_map]
      split
      · next heq => simp [Function.comp_def, heq]
      · next hne => simp [Function.comp_def, hne]
    rw [List.flatMap_cons, List.filter_append, List.map_append, hown]
    rcases List.mem_cons.mp hrun with rfl | hin
    · have hnone : (runs.flatMap fun other => (items other).map fun item => (key other, item)).filter
          (fun item => item.1 = key run) = [] := by
        rw [List.filter_flatMap]
        refine List.flatMap_eq_nil_iff.mpr fun other hother => ?_
        have hne : key other ≠ key run := fun heq => hnew (List.mem_map.mpr ⟨other, hother, heq⟩)
        rw [hown, if_neg hne]
      rw [if_pos rfl, hnone, List.map_map, List.map_nil, List.append_nil]
      exact (List.map_id _).symm
    · have hne : key first ≠ key run := fun heq => hnew (List.mem_map.mpr ⟨run, hin, heq.symm⟩)
      rw [if_neg hne, List.map_nil, List.nil_append]
      exact ih hrest hin

end Runs
