import Mathlib.Data.List.Pairwise
import Mathlib.Data.List.Sort

/-!
# Sorting by a comparator

`Array.prototype.sort` with a comparator: stable, and for a comparator that is a total preorder
(`Std.TransCmp`) the rows come out in its order.
-/

section Sorting

variable {α β : Type} {cmp : α → α → Ordering} {l : List α}

/-- `l.sort(cmp)`. -/
def sortBy (cmp : α → α → Ordering) (l : List α) : List α :=
  l.insertionSort fun a b => (cmp a b).isLE = true

theorem sortBy_perm : (sortBy cmp l).Perm l := List.perm_insertionSort _ l

@[simp] theorem mem_sortBy {x : α} : x ∈ sortBy cmp l ↔ x ∈ l := sortBy_perm.mem_iff

@[simp] theorem length_sortBy : (sortBy cmp l).length = l.length := sortBy_perm.length_eq

@[simp] theorem sortBy_nil : sortBy cmp [] = [] := rfl

/-- Comparing by a figure of the rows. -/
theorem transCmp_comap (cmp : α → α → Ordering) [Std.TransCmp cmp] (f : β → α) :
    Std.TransCmp fun a b => cmp (f a) (f b) where
  eq_swap := Std.OrientedCmp.eq_swap
  isLE_trans := Std.TransCmp.isLE_trans

theorem isLE_total [Std.OrientedCmp cmp] (a b : α) :
    (cmp a b).isLE = true ∨ (cmp b a).isLE = true := by
  have hswap : cmp b a = (cmp a b).swap := Std.OrientedCmp.eq_swap
  rw [hswap]
  cases cmp a b <;> simp

theorem sortBy_pairwise [Std.TransCmp cmp] : (sortBy cmp l).Pairwise fun a b => (cmp a b).isLE = true := by
  have htotal : Std.Total fun a b => (cmp a b).isLE = true := ⟨isLE_total⟩
  have htrans : IsTrans α fun a b => (cmp a b).isLE = true := ⟨fun _ _ _ => Std.TransCmp.isLE_trans⟩
  exact List.pairwise_insertionSort _ l

/-- A list in order stays as it is. -/
theorem sortBy_of_pairwise (h : l.Pairwise fun a b => (cmp a b).isLE = true) : sortBy cmp l = l :=
  h.insertionSort_eq

/-- Sorting is the same for comparators that agree on the rows. -/
theorem sortBy_congr {cmp' : α → α → Ordering}
    (h : ∀ a ∈ l, ∀ b ∈ l, cmp a b = cmp' a b) : sortBy cmp l = sortBy cmp' l := by
  have hmap := List.map_insertionSort (fun a b => (cmp a b).isLE = true)
    (fun a b => (cmp' a b).isLE = true) id l fun a ha b hb => by rw [h a ha b hb]; rfl
  rw [List.map_id, List.map_id] at hmap
  exact hmap

/-- Sorting images of rows is sorting the rows by what their images are compared by. -/
theorem sortBy_map (f : β → α) (l : List β) :
    sortBy cmp (l.map f) = (sortBy (fun a b => cmp (f a) (f b)) l).map f :=
  (List.map_insertionSort _ _ f l fun _ _ _ _ => Iff.rfl).symm

theorem filter_orderedInsert [Std.TransCmp cmp] {p : α → Bool} {x : α}
    (h : l.Pairwise fun a b => (cmp a b).isLE = true) :
    (l.orderedInsert (fun a b => (cmp a b).isLE = true) x).filter p =
      if p x then (l.filter p).orderedInsert (fun a b => (cmp a b).isLE = true) x else l.filter p := by
  induction l with
  | nil =>
    by_cases hx : p x = true
    · simp [hx]
    · simp [hx]
  | cons y l ih =>
    obtain ⟨hy, hl⟩ := List.pairwise_cons.mp h
    rw [List.orderedInsert_cons]
    by_cases hxy : (cmp x y).isLE = true
    · rw [if_pos hxy]
      by_cases hx : p x = true
      · -- what is kept of the list is still behind the new row
        rw [if_pos hx, List.filter_cons_of_pos hx]
        have hhead : ∀ b ∈ (y :: l).filter p, (cmp x b).isLE = true := by
          intro b hb
          rcases List.mem_cons.mp (List.mem_filter.mp hb).1 with rfl | hin
          · exact hxy
          · exact Std.TransCmp.isLE_trans hxy (hy b hin)
        cases hkept : (y :: l).filter p with
        | nil => rfl
        | cons b kept =>
          rw [List.orderedInsert_cons, if_pos (hhead b (by rw [hkept]; exact List.mem_cons_self))]
      · rw [if_neg hx, List.filter_cons_of_neg hx]
    · rw [if_neg hxy]
      by_cases hkeep : p y = true
      · rw [List.filter_cons_of_pos hkeep, ih hl, List.filter_cons_of_pos hkeep]
        split
        · rw [List.orderedInsert_cons, if_neg hxy]
        · rfl
      · rw [List.filter_cons_of_neg hkeep, ih hl, List.filter_cons_of_neg hkeep]

/-- Sorting what a filter keeps is keeping it of the sorted rows. -/
theorem sortBy_filter [Std.TransCmp cmp] (p : α → Bool) :
    sortBy cmp (l.filter p) = (sortBy cmp l).filter p := by
  induction l with
  | nil => rfl
  | cons x l ih =>
    have hsorted : (sortBy cmp l).Pairwise fun a b => (cmp a b).isLE = true := sortBy_pairwise
    show _ = ((sortBy cmp l).orderedInsert _ x).filter p
    rw [filter_orderedInsert hsorted, ← ih]
    by_cases hx : p x = true
    · rw [if_pos hx, List.filter_cons_of_pos hx]
      rfl
    · rw [if_neg hx, List.filter_cons_of_neg hx]

/-- Lists in order are equal when they list the rows of each rank alike. -/
theorem eq_of_ranks [Std.TransCmp cmp] {l' : List α} (hl : l.Pairwise fun a b => (cmp a b).isLE = true)
    (hl' : l'.Pairwise fun a b => (cmp a b).isLE = true)
    (hranks : ∀ a, l.filter (fun b => (cmp a b).isEq) = l'.filter fun b => (cmp a b).isEq) : l = l' := by
  have hrefl : ∀ a, cmp a a = .eq := fun a => Std.ReflCmp.compare_self
  have hself : ∀ {x : α} {rows : List α}, x ∈ rows ↔ x ∈ rows.filter fun b => (cmp x b).isEq := by
    intro x rows
    rw [List.mem_filter, hrefl]
    simp
  have hmem : ∀ x, x ∈ l ↔ x ∈ l' := fun x => by rw [hself, hranks, ← hself]
  induction l generalizing l' with
  | nil =>
    cases l' with
    | nil => rfl
    | cons y rest => exact absurd ((hmem y).mpr List.mem_cons_self) List.not_mem_nil
  | cons x l ih =>
    cases l' with
    | nil => exact absurd ((hmem x).mp List.mem_cons_self) List.not_mem_nil
    | cons y rest =>
      obtain ⟨hx, hl⟩ := List.pairwise_cons.mp hl
      obtain ⟨hy, hrest⟩ := List.pairwise_cons.mp hl'
      -- the two heads are of one rank, whose rows both lists start with
      have hxy : (cmp x y).isLE = true := by
        rcases List.mem_cons.mp ((hmem y).mpr List.mem_cons_self) with rfl | hin
        · rw [hrefl]
          rfl
        · exact hx y hin
      have hyx : (cmp y x).isLE = true := by
        rcases List.mem_cons.mp ((hmem x).mp List.mem_cons_self) with rfl | hin
        · rw [hrefl]
          rfl
        · exact hy x hin
      have heq : cmp x y = .eq := Std.OrientedCmp.isLE_antisymm hxy hyx
      have hfirst := hranks x
      rw [List.filter_cons_of_pos (by rw [hrefl]; rfl), List.filter_cons_of_pos (by rw [heq]; rfl),
        List.cons.injEq] at hfirst
      obtain ⟨rfl, -⟩ := hfirst
      have htail : ∀ a, l.filter (fun b => (cmp a b).isEq) = rest.filter fun b => (cmp a b).isEq := by
        intro a
        have ha := hranks a
        rw [List.filter_cons, List.filter_cons] at ha
        split at ha
        · exact (List.cons.inj ha).2
        · exact ha
      rw [ih hl hrest htail fun z => by rw [hself, htail, ← hself]]

/-- The rows of a rank come out as they went in. -/
theorem filter_rank_sortBy [Std.TransCmp cmp] {p : α → Bool}
    (h : ∀ x ∈ l, ∀ y ∈ l, p x = true → p y = true → cmp x y = .eq) : (sortBy cmp l).filter p = l.filter p := by
  rw [← sortBy_filter]
  refine sortBy_of_pairwise (List.pairwise_of_forall_mem_list fun x hx y hy => ?_)
  obtain ⟨hxl, hxp⟩ := List.mem_filter.mp hx
  obtain ⟨hyl, hyp⟩ := List.mem_filter.mp hy
  rw [h x hxl y hyl hxp hyp]
  rfl

theorem pair_sublist_sortBy [Std.TransCmp cmp] {a b : α} (hab : (cmp a b).isLE = true)
    (h : [a, b].Sublist l) : [a, b].Sublist (sortBy cmp l) := by
  have htotal : Std.Total fun a b => (cmp a b).isLE = true := ⟨isLE_total⟩
  have htrans : IsTrans α fun a b => (cmp a b).isLE = true := ⟨fun _ _ _ => Std.TransCmp.isLE_trans⟩
  exact List.pair_sublist_insertionSort hab h

/-- Rows of one rank came in the order they stand in. -/
theorem pair_sublist_of_rank [Std.TransCmp cmp] {a b : α} (hab : cmp a b = .eq)
    (h : [a, b].Sublist (sortBy cmp l)) : [a, b].Sublist l := by
  have hself : cmp a a = .eq := Std.ReflCmp.compare_self
  have hpair : [a, b].filter (fun x => (cmp a x).isEq) = [a, b] := by
    rw [List.filter_eq_self]
    simp [hself, hab]
  have hkept := h.filter fun x => (cmp a x).isEq
  rw [hpair, filter_rank_sortBy fun x _ y _ hx hy => ?_] at hkept
  · exact hkept.trans List.filter_sublist
  · rw [Ordering.isEq_iff_eq_eq] at hx hy
    exact Std.TransCmp.eq_trans (Std.OrientedCmp.eq_symm hx) hy

/-- **Sorting by a coarser comparator is enough** just when the rows of each of its ranks came in the
order of the finer one. -/
theorem sortBy_eq_sortBy_iff {ord : α → α → Ordering} [Std.TransCmp ord] [Std.TransCmp cmp]
    (hfiner : ∀ a b, ord a b = .lt → cmp a b = .lt) :
    sortBy ord l = sortBy cmp l ↔ l.Pairwise fun a b => ord a b = .eq → (cmp a b).isLE = true := by
  have hrank : ∀ a b, cmp a b = .eq → ord a b = .eq := by
    intro a b heq
    cases hord : ord a b with
    | eq => rfl
    | lt => rw [hfiner a b hord] at heq; cases heq
    | gt =>
      have hswap : cmp b a = .lt := hfiner b a (Std.OrientedCmp.lt_of_gt hord)
      rw [Std.OrientedCmp.gt_of_lt hswap] at heq
      cases heq
  constructor
  · intro heq
    refine List.pairwise_iff_forall_sublist.mpr fun {a b} hab hrankEq => ?_
    have hpair : [a, b].Sublist (sortBy ord l) := pair_sublist_sortBy (by rw [hrankEq]; rfl) hab
    rw [heq] at hpair
    exact List.pairwise_iff_forall_sublist.mp sortBy_pairwise hpair
  · intro hties
    have hsorted : (sortBy ord l).Pairwise fun a b => (cmp a b).isLE = true := by
      refine List.pairwise_iff_forall_sublist.mpr fun {a b} hab => ?_
      have hle := List.pairwise_iff_forall_sublist.mp sortBy_pairwise hab
      cases hord : ord a b with
      | lt => rw [hfiner a b hord]; rfl
      | gt => rw [hord] at hle; cases hle
      | eq =>
        exact List.pairwise_iff_forall_sublist.mp hties (pair_sublist_of_rank hord hab) hord
    refine eq_of_ranks hsorted sortBy_pairwise fun a => ?_
    have hclass : ∀ x ∈ l, ∀ y ∈ l, (cmp a x).isEq = true → (cmp a y).isEq = true → cmp x y = .eq := by
      intro x _ y _ hx hy
      rw [Ordering.isEq_iff_eq_eq] at hx hy
      exact Std.TransCmp.eq_trans (Std.OrientedCmp.eq_symm hx) hy
    rw [filter_rank_sortBy fun x hx y hy hax hay => hrank x y (hclass x hx y hy hax hay),
      filter_rank_sortBy hclass]

/-- Rows that can be put in strict order are put so. -/
theorem sortBy_eq_of_perm [Std.TransCmp cmp] {l' : List α} (hperm : l.Perm l')
    (h : l'.Pairwise fun a b => cmp a b = .lt) : sortBy cmp l = l' := by
  refine List.Perm.eq_of_pairwise ?_ sortBy_pairwise (h.imp fun hlt => by rw [hlt]; rfl)
    (sortBy_perm.trans hperm)
  intro a b ha hb hab hba
  have heq : cmp a b = .eq := Std.OrientedCmp.isLE_antisymm hab hba
  by_contra hne
  have hstrict : l'.Pairwise fun a b => cmp a b ≠ .eq := h.imp fun hlt heq => by rw [hlt] at heq; cases heq
  have hsymm : Std.Symm fun a b => cmp a b ≠ .eq := ⟨fun a b hab hba => hab (Std.OrientedCmp.eq_symm hba)⟩
  exact hstrict.forall (hperm.mem_iff.mp (mem_sortBy.mp ha)) hb hne heq

end Sorting
