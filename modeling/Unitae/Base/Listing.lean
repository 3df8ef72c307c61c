import Mathlib.Data.List.Basic
import Mathlib.Data.List.Perm.Basic

/-!
# The first rows of a listing

A query that lists the rows it selects and keeps the first `n` gives the rows that were wanted under
an exact condition: it listed no others, or as many as it keeps and those ahead of the others.
-/

section Listing

variable {α : Type} {p : α → Bool} {rows : List α} {n : Nat}

/-- Rows listed ahead of the others are the first ones. -/
theorem take_length_filter (h : rows.Pairwise fun x y => p y = true → p x = true) :
    rows.take (rows.filter p).length = rows.filter p := by
  induction rows with
  | nil => rfl
  | cons x rest ih =>
    obtain ⟨hahead, hrest⟩ := List.pairwise_cons.mp h
    by_cases hx : p x = true
    · rw [List.filter_cons_of_pos hx, List.length_cons, List.take_succ_cons, ih hrest]
    · -- Nothing after a row that is not wanted is.
      have hnone : rest.filter p = [] := by
        rw [List.filter_eq_nil_iff]
        intro y hy hpy
        exact hx (hahead y hy hpy)
      rw [List.filter_cons_of_neg hx, hnone]
      rfl

/-- Rows listed ahead of the others are followed by them. -/
theorem filter_append_filter_not (h : rows.Pairwise fun x y => p y = true → p x = true) :
    rows.filter p ++ rows.filter (fun x => !p x) = rows := by
  induction rows with
  | nil => rfl
  | cons x rest ih =>
    obtain ⟨hahead, hrest⟩ := List.pairwise_cons.mp h
    by_cases hx : p x = true
    · rw [List.filter_cons_of_pos hx, List.filter_cons_of_neg (by simp [hx]), List.cons_append, ih hrest]
    · have hnone : rest.filter p = [] := by
        rw [List.filter_eq_nil_iff]
        intro y hy hpy
        exact hx (hahead y hy hpy)
      have hrest' := ih hrest
      rw [hnone, List.nil_append] at hrest'
      rw [List.filter_cons_of_neg hx, hnone, List.filter_cons_of_pos (by simp [hx]), hrest']
      rfl

/-- **The first `n` rows are the wanted ones** just when no other is listed, or the wanted ones are
`n` and listed ahead of the others. -/
theorem take_perm_filter_iff (h : (rows.filter p).length ≤ n) :
    (rows.take n).Perm (rows.filter p) ↔
      (∀ x ∈ rows, p x = true) ∨
        ((rows.filter p).length = n ∧ rows.Pairwise fun x y => p y = true → p x = true) := by
  constructor
  · intro hperm
    have hfirst : ∀ x ∈ rows.take n, p x = true := by
      intro x hx
      exact (List.mem_filter.mp (hperm.mem_iff.mp hx)).2
    by_cases hshort : rows.length ≤ n
    · left
      rwa [List.take_of_length_le hshort] at hfirst
    · right
      have hlength : (rows.filter p).length = n := by
        rw [← hperm.length_eq, List.length_take]
        omega
      -- The first `n` rows take up all the wanted ones, so that none is left among the others.
      have hlast : ∀ y ∈ rows.drop n, ¬p y = true := by
        have hsplit : (rows.filter p).length =
            ((rows.take n).filter p).length + ((rows.drop n).filter p).length := by
          rw [← List.length_append, ← List.filter_append, List.take_append_drop]
        rw [List.filter_eq_self.mpr hfirst, hperm.length_eq] at hsplit
        have hnil : (rows.drop n).filter p = [] := List.eq_nil_of_length_eq_zero (by omega)
        intro y hy
        exact List.filter_eq_nil_iff.mp hnil y hy
      refine ⟨hlength, ?_⟩
      rw [← List.take_append_drop n rows, List.pairwise_append]
      refine ⟨?_, ?_, ?_⟩
      · exact List.pairwise_of_forall_mem_list fun x hx y _ _ => hfirst x hx
      · exact List.pairwise_of_forall_mem_list fun x _ y hy hpy => absurd hpy (hlast y hy)
      · exact fun x hx y _ _ => hfirst x hx
  · intro hcases
    cases hcases with
    | inl hall =>
      rw [List.filter_eq_self.mpr hall] at h ⊢
      rw [List.take_of_length_le h]
    | inr hahead =>
      rw [← hahead.1, take_length_filter hahead.2]

/-- Where no two rows are wanted, a row that is wanted is the only one. -/
theorem filter_eq_singleton {x : α} (hapart : rows.Pairwise fun a b => ¬(p a = true ∧ p b = true))
    (hx : x ∈ rows) (hp : p x = true) : rows.filter p = [x] := by
  have hmem : x ∈ rows.filter p := List.mem_filter.mpr ⟨hx, hp⟩
  have hkept := hapart.filter p
  have hall : ∀ y ∈ rows.filter p, p y = true := fun y hy => (List.mem_filter.mp hy).2
  revert hmem hkept hall
  generalize rows.filter p = kept
  intro hmem hkept hall
  cases kept with
  | nil => cases hmem
  | cons a rest =>
    obtain ⟨ha, -⟩ := List.pairwise_cons.mp hkept
    cases rest with
    | nil => rw [List.mem_singleton.mp hmem]
    | cons b rest =>
      have hboth := ha b List.mem_cons_self
      exact absurd ⟨hall a List.mem_cons_self, hall b (by simp)⟩ hboth

/-- Of two tests, the stricter one counts as many rows just when it passes what the other passes. -/
theorem countP_eq_countP_iff {q : α → Bool} (himp : ∀ x ∈ rows, p x = true → q x = true) :
    rows.countP p = rows.countP q ↔ ∀ x ∈ rows, q x = true → p x = true := by
  induction rows with
  | nil => simp
  | cons x rest ih =>
    have hrest := ih fun y hy => himp y (List.mem_cons_of_mem x hy)
    have hle : rest.countP p ≤ rest.countP q :=
      List.countP_mono_left fun y hy => himp y (List.mem_cons_of_mem x hy)
    rw [List.forall_mem_cons, ← hrest, List.countP_cons, List.countP_cons]
    by_cases hp : p x = true
    · have hq := himp x List.mem_cons_self hp
      simp [hp, hq]
    · by_cases hq : q x = true
      · simp only [hp, hq]
        simp
        omega
      · simp [hp, hq]

/-- Rows parted by a figure are the rows, when every row has one of the figures. -/
theorem flatMap_filter_perm {κ : Type} [BEq κ] [LawfulBEq κ] {ks : List κ} {b : α → κ} (hnodup : ks.Nodup)
    (h : ∀ x ∈ rows, b x ∈ ks) : (ks.flatMap fun k => rows.filter fun x => b x == k).Perm rows := by
  induction ks generalizing rows with
  | nil =>
    cases rows with
    | nil => exact List.Perm.refl _
    | cons x rest => exact absurd (h x List.mem_cons_self) List.not_mem_nil
  | cons k ks ih =>
    obtain ⟨hk, hks⟩ := List.nodup_cons.mp hnodup
    have hrest := ih hks fun x hx => by
      obtain ⟨hx, hne⟩ := List.mem_filter.mp (show x ∈ rows.filter fun x => !(b x == k) from hx)
      exact (List.mem_cons.mp (h x hx)).resolve_left (by simpa using hne)
    have hsame : (ks.flatMap fun k' => (rows.filter fun x => !(b x == k)).filter fun x => b x == k') =
        ks.flatMap fun k' => rows.filter fun x => b x == k' := by
      refine List.flatMap_congr fun k' hk' => ?_
      rw [List.filter_filter]
      refine List.filter_congr fun x _ => ?_
      by_cases hb : b x = k'
      · have hne : k' ≠ k := fun heq => hk (heq ▸ hk')
        simp [hb, hne]
      · simp [hb]
    rw [hsame] at hrest
    rw [List.flatMap_cons]
    exact (hrest.append_left _).trans (List.filter_append_perm _ rows)

/-- What stands once in all the lists together stands in one of them. -/
theorem length_filter_mem_eq_one {β : Type} [DecidableEq β] {f : α → List β} {x : β}
    (hnodup : (rows.flatMap f).Nodup) (hx : x ∈ rows.flatMap f) :
    (rows.filter fun a => (f a).contains x).length = 1 := by
  induction rows with
  | nil => cases hx
  | cons a rest ih =>
    rw [List.flatMap_cons, List.nodup_append] at hnodup
    rw [List.flatMap_cons, List.mem_append] at hx
    by_cases ha : x ∈ f a
    · have hnone : rest.filter (fun a => (f a).contains x) = [] := by
        rw [List.filter_eq_nil_iff]
        intro c hc hin
        exact hnodup.2.2 x ha x (List.mem_flatMap.mpr ⟨c, hc, List.contains_iff_mem.mp hin⟩) rfl
      rw [List.filter_cons, if_pos (List.contains_iff_mem.mpr ha), hnone]
      rfl
    · rw [List.filter_cons, if_neg (by simpa using ha), ih hnodup.2.1 (hx.resolve_left ha)]

/-- The separator stands in no part of what it splits. -/
theorem not_mem_of_mem_splitOn [BEq α] [LawfulBEq α] {sep : α} {part : List α} (h : part ∈ rows.splitOn sep) :
    sep ∉ part := by
  induction rows generalizing part with
  | nil =>
    obtain rfl : part = [] := by simpa using h
    exact List.not_mem_nil
  | cons x rest ih =>
    rw [List.splitOn_cons_eq_if_modifyHead] at h
    split at h
    · rcases List.mem_cons.mp h with rfl | hrest
      · exact List.not_mem_nil
      · exact ih hrest
    · next hx =>
      cases hparts : rest.splitOn sep with
      | nil => exact absurd hparts (List.splitOn_ne_nil sep rest)
      | cons first parts =>
        rw [hparts] at h ih
        rcases List.mem_cons.mp h with rfl | hrest
        · intro hmem
          rcases List.mem_cons.mp hmem with rfl | hfirst
          · exact hx (beq_self_eq_true _)
          · exact ih List.mem_cons_self hfirst
        · exact ih (List.mem_cons_of_mem _ hrest)

end Listing
