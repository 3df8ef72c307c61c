import Mathlib.Data.List.Nodup
import Mathlib.Data.List.Perm.Basic
import Mathlib.Order.Lattice

/-!
# Pages of a listing whose ties are open

A query lists rows by a key and may list rows of one key in any order; each page is cut from a listing of
its own. A row stands at one of the indices from `before` to `upTo`, and at each of them in some listing.
The pages together are the rows just when no page ends among rows of one key: `pages_perm_iff`.
-/

namespace Paging

section Pages

variable {α κ : Type} [LinearOrder κ] {key : α → κ} {rows l : List α} {t : α}

/-- The rows in an order that the key allows. -/
structure Listed (key : α → κ) (rows l : List α) : Prop where
  perm : l.Perm rows
  sorted : l.Pairwise fun a b => key a ≤ key b

/-- How many rows come before `t` in every listing. -/
def before (key : α → κ) (rows : List α) (t : α) : Nat := rows.countP fun r => key r < key t

/-- How many rows come before the rows after `t` in every listing. -/
def upTo (key : α → κ) (rows : List α) (t : α) : Nat := rows.countP fun r => key r ≤ key t

/-! ## Where a row stands -/

theorem upTo_le_length : upTo key rows t ≤ rows.length := List.countP_le_length

theorem Listed.before_le (h : Listed key rows l) {i : Nat} (hi : l[i]? = some t) :
    before key rows t ≤ i := by
  obtain ⟨hlt, hget⟩ := List.getElem?_eq_some_iff.mp hi
  have hsplit : before key rows t =
      (l.take i).countP (fun r => key r < key t) + (l.drop i).countP fun r => key r < key t := by
    rw [← List.countP_append, List.take_append_drop]
    exact (h.perm.countP_eq _).symm
  -- from `t` on, no row comes before it
  have hnone : (l.drop i).countP (fun r => key r < key t) = 0 := by
    rw [List.countP_eq_zero]
    intro r hr
    rw [List.drop_eq_getElem_cons hlt, hget] at hr
    have hsorted := h.sorted
    rw [← List.take_append_drop i l, List.drop_eq_getElem_cons hlt, hget] at hsorted
    rcases List.mem_cons.mp hr with rfl | hr
    · simp
    · have hle := (List.pairwise_cons.mp (List.pairwise_append.mp hsorted).2.1).1 r hr
      simpa using hle
  have hshort : (l.take i).countP (fun r => key r < key t) ≤ (l.take i).length := List.countP_le_length
  rw [List.length_take] at hshort
  omega

theorem Listed.lt_upTo (h : Listed key rows l) {i : Nat} (hi : l[i]? = some t) :
    i < upTo key rows t := by
  obtain ⟨hlt, hget⟩ := List.getElem?_eq_some_iff.mp hi
  have hsplit : upTo key rows t =
      (l.take (i + 1)).countP (fun r => key r ≤ key t) +
        (l.drop (i + 1)).countP fun r => key r ≤ key t := by
    rw [← List.countP_append, List.take_append_drop]
    exact (h.perm.countP_eq _).symm
  -- up to `t`, no row comes after it
  have hall : (l.take (i + 1)).countP (fun r => key r ≤ key t) = (l.take (i + 1)).length := by
    rw [List.countP_eq_length]
    intro r hr
    rw [List.take_succ_eq_append_getElem hlt, hget] at hr
    have hsorted := h.sorted
    rw [← List.take_append_drop i l, List.drop_eq_getElem_cons hlt, hget] at hsorted
    rcases List.mem_append.mp hr with hr | hr
    · simpa using (List.pairwise_append.mp hsorted).2.2 r hr t List.mem_cons_self
    · rw [List.mem_singleton.mp hr]
      simp
  rw [List.length_take] at hall
  omega

theorem upTo_le_before {r : α} (h : key r < key t) : upTo key rows r ≤ before key rows t :=
  List.countP_mono_left fun _ _ hle => decide_eq_true (lt_of_le_of_lt (of_decide_eq_true hle) h)

/-- At all the indices between the two stand rows of the same key. -/
theorem Listed.key_eq (h : Listed key rows l) {i : Nat} {r : α} (hi : l[i]? = some r)
    (hbefore : before key rows t ≤ i) (hupTo : i < upTo key rows t) : key r = key t := by
  rcases lt_trichotomy (key r) (key t) with hlt | heq | hgt
  · have hle : upTo key rows r ≤ before key rows t := upTo_le_before hlt
    have hstands := h.lt_upTo hi
    omega
  · exact heq
  · have hle : upTo key rows t ≤ before key rows r := upTo_le_before hgt
    have hstands := h.before_le hi
    omega

theorem exists_listed (key : α → κ) (rows : List α) : ∃ l, Listed key rows l := by
  refine ⟨rows.mergeSort fun a b => key a ≤ key b, List.mergeSort_perm _ _, ?_⟩
  have hsorted := @List.pairwise_mergeSort α (fun a b => key a ≤ key b)
    (fun a b c hab hbc => decide_eq_true (le_trans (of_decide_eq_true hab) (of_decide_eq_true hbc)))
    (fun a b => by simpa using le_total (key a) (key b)) rows
  exact hsorted.imp of_decide_eq_true

/-- Two rows of one key that stand side by side may change places. -/
theorem Listed.swap {front back : List α} {x y : α} (h : Listed key rows (front ++ x :: y :: back))
    (hkey : key x = key y) : Listed key rows (front ++ y :: x :: back) := by
  refine ⟨((List.Perm.swap x y back).append_left front).trans h.perm, ?_⟩
  have hsorted := h.sorted
  rw [List.pairwise_append, List.pairwise_cons, List.pairwise_cons] at hsorted ⊢
  obtain ⟨hfront, ⟨hx, hy, hback⟩, hcross⟩ := hsorted
  refine ⟨hfront, ⟨?_, ?_, hback⟩, ?_⟩
  · intro r hr
    rcases List.mem_cons.mp hr with rfl | hr
    · exact le_of_eq hkey.symm
    · exact hy r hr
  · intro r hr
    exact hx r (List.mem_cons_of_mem _ hr)
  · intro a ha b hb
    refine hcross a ha b ?_
    rcases List.mem_cons.mp hb with rfl | hb
    · exact List.mem_cons_of_mem _ List.mem_cons_self
    · rcases List.mem_cons.mp hb with rfl | hb
      · exact List.mem_cons_self
      · exact List.mem_cons_of_mem _ (List.mem_cons_of_mem _ hb)

/-! ## Pages -/

/-- The page after `n` others. -/
def page (size n : Nat) (l : List α) : List α := (l.drop (n * size)).take size

theorem mem_page {size n : Nat} :
    t ∈ page size n l ↔ ∃ i, l[i]? = some t ∧ n * size ≤ i ∧ i < (n + 1) * size := by
  unfold page
  rw [List.mem_iff_getElem?]
  constructor
  · intro h
    obtain ⟨i, hi⟩ := h
    obtain ⟨hlt, _⟩ := List.getElem?_eq_some_iff.mp hi
    have hshort : i < size := Nat.lt_of_lt_of_le hlt (List.length_take_le _ _)
    rw [List.getElem?_take_of_lt hshort, List.getElem?_drop] at hi
    refine ⟨n * size + i, hi, Nat.le_add_right _ _, ?_⟩
    rw [Nat.succ_mul]
    omega
  · intro h
    obtain ⟨i, hi, hfrom, hto⟩ := h
    rw [Nat.succ_mul] at hto
    refine ⟨i - n * size, ?_⟩
    rw [List.getElem?_take_of_lt (by omega), List.getElem?_drop, Nat.add_sub_cancel' hfrom]
    exact hi

/-- No page ends among rows of one key. -/
def PagesApart (key : α → κ) (rows : List α) (size : Nat) : Prop :=
  ∀ t ∈ rows, ∀ n, n * size ≤ before key rows t ∨ upTo key rows t ≤ n * size

/-- Then a row is on the same page of every listing. -/
theorem PagesApart.mem_page_iff {size : Nat} (h : PagesApart key rows size) (hsize : 0 < size)
    (hl : Listed key rows l) (ht : t ∈ rows) {n : Nat} :
    t ∈ page size n l ↔ n = before key rows t / size := by
  obtain ⟨i, hi⟩ := List.mem_iff_getElem?.mp (hl.perm.mem_iff.mpr ht)
  have hsame : ∀ i, l[i]? = some t → i / size = before key rows t / size := by
    intro i hi
    have hfrom := hl.before_le hi
    have hto := hl.lt_upTo hi
    refine Nat.le_antisymm ?_ (Nat.div_le_div_right hfrom)
    rw [Nat.le_div_iff_mul_le hsize]
    have hpage : i / size * size ≤ i := Nat.div_mul_le_self i size
    rcases h t ht (i / size) with hle | hle
    · exact hle
    · omega
  rw [mem_page]
  constructor
  · intro hon
    obtain ⟨j, hj, hfrom, hto⟩ := hon
    rw [← hsame j hj]
    exact (Nat.div_eq_of_lt_le hfrom hto).symm
  · intro hn
    refine ⟨i, hi, ?_, ?_⟩
    · rw [hn, ← hsame i hi]
      exact Nat.div_mul_le_self i size
    · rw [hn, ← hsame i hi]
      rw [Nat.mul_comm]
      exact Nat.lt_mul_div_succ i hsize

/-- Two listings that put a row on both sides of the end of a page. -/
theorem exists_listed_across {size n : Nat} (hbefore : before key rows t < n * size)
    (hupTo : n * size < upTo key rows t) :
    ∃ r l l', Listed key rows l ∧ Listed key rows l' ∧ l[n * size - 1]? = some r ∧
      l'[n * size]? = some r := by
  obtain ⟨l, hl⟩ := exists_listed key rows
  obtain ⟨i, hi⟩ : ∃ i, n * size = i + 1 := Nat.exists_eq_succ_of_ne_zero (by omega)
  have hlength : i + 1 < l.length := by
    have hle : upTo key rows t ≤ rows.length := upTo_le_length
    rw [hl.perm.length_eq]
    omega
  have hsplit : l = l.take i ++ l[i] :: l[i + 1] :: l.drop (i + 2) := by
    rw [← List.drop_eq_getElem_cons hlength, ← List.drop_eq_getElem_cons, List.take_append_drop]
  have hfirst : key l[i] = key t := hl.key_eq (List.getElem?_eq_getElem _) (by omega) (by omega)
  have hsecond : key l[i + 1] = key t := hl.key_eq (List.getElem?_eq_getElem _) (by omega) (by omega)
  have hswap : Listed key rows (l.take i ++ l[i + 1] :: l[i] :: l.drop (i + 2)) :=
    (hsplit ▸ hl).swap (hfirst.trans hsecond.symm)
  refine ⟨l[i], l, _, hl, hswap, ?_, ?_⟩
  · rw [hi]
    exact List.getElem?_eq_getElem _
  · have hshort : (l.take i).length = i := List.length_take_of_le (by omega)
    rw [hi, List.getElem?_append_right (by omega), hshort, Nat.add_sub_cancel_left]
    rfl

/-- **The pages together are the rows**, whatever listing each is cut from, just when no page ends among
rows of one key. -/
theorem pages_perm_iff {size pages : Nat} (hsize : 0 < size) (hnodup : rows.Nodup)
    (hpages : ∀ n, n < pages ↔ n * size < rows.length) :
    (∀ listing : Nat → List α, (∀ n, Listed key rows (listing n)) →
      ((List.range pages).flatMap fun n => page size n (listing n)).Perm rows) ↔
        PagesApart key rows size := by
  constructor
  · intro hall t ht n
    by_contra hacross
    rw [not_or, Nat.not_le, Nat.not_le] at hacross
    obtain ⟨r, l, l', hl, hl', hbelow, habove⟩ := exists_listed_across hacross.1 hacross.2
    obtain ⟨m, rfl⟩ : ∃ m, n = m + 1 := Nat.exists_eq_succ_of_ne_zero (by rintro rfl; omega)
    -- the last row of one page and the first of the next
    have hperm := hall (fun i => if i = m + 1 then l' else l) fun i => by
      split
      · exact hl'
      · exact hl
    have hdisjoint := (List.nodup_flatMap.mp (hperm.nodup_iff.mpr hnodup)).2
    have hnext : m + 1 < pages := by
      rw [hpages]
      exact Nat.lt_of_lt_of_le hacross.2 upTo_le_length
    have hpair := List.pairwise_iff_getElem.mp hdisjoint m (m + 1) (by simp; omega)
      (by simpa using hnext) (Nat.lt_succ_self m)
    simp only [List.getElem_range] at hpair
    change List.Disjoint (page size m (if m = m + 1 then l' else l))
      (page size (m + 1) (if m + 1 = m + 1 then l' else l)) at hpair
    rw [if_neg (by omega), if_pos rfl] at hpair
    refine List.disjoint_left.mp hpair (mem_page.mpr ⟨_, hbelow, ?_, ?_⟩)
      (mem_page.mpr ⟨_, habove, Nat.le_refl _, Nat.mul_lt_mul_of_pos_right (Nat.lt_succ_self _) hsize⟩)
    · rw [Nat.succ_mul]
      omega
    · have hpos : 0 < (m + 1) * size := Nat.mul_pos (Nat.succ_pos m) hsize
      omega
  · intro hapart listing hlisting
    have hmem : ∀ n r, r ∈ page size n (listing n) → r ∈ rows := by
      intro n r hr
      exact (hlisting n).perm.mem_iff.mp (List.mem_of_mem_drop (List.mem_of_mem_take hr))
    refine (List.perm_ext_iff_of_nodup ?_ hnodup).mpr fun t => ?_
    · rw [List.nodup_flatMap]
      constructor
      · intro n _
        have hlisted : (listing n).Nodup := (hlisting n).perm.nodup_iff.mpr hnodup
        exact hlisted.sublist ((List.take_sublist _ _).trans (List.drop_sublist _ _))
      · refine List.nodup_range.imp fun {m n} hne => List.disjoint_left.mpr fun t hm hn => hne ?_
        have ht := hmem m t hm
        rw [hapart.mem_page_iff hsize (hlisting m) ht] at hm
        rw [hapart.mem_page_iff hsize (hlisting n) ht] at hn
        rw [hm, hn]
    · rw [List.mem_flatMap]
      constructor
      · intro hon
        obtain ⟨n, _, hn⟩ := hon
        exact hmem n t hn
      · intro ht
        refine ⟨before key rows t / size, List.mem_range.mpr ((hpages _).mpr ?_),
          (hapart.mem_page_iff hsize (hlisting _) ht).mpr rfl⟩
        obtain ⟨i, hi⟩ := List.mem_iff_getElem?.mp ((hlisting 0).perm.mem_iff.mpr ht)
        have hfrom := (hlisting 0).before_le hi
        have hto := (hlisting 0).lt_upTo hi
        have hlong : upTo key rows t ≤ rows.length := upTo_le_length
        have hpage : before key rows t / size * size ≤ before key rows t := Nat.div_mul_le_self _ _
        omega

/-- **Pages that are served each from an answer of its own** are the rows together under the same
condition, when each answer shows some listing and every listing is shown. -/
theorem served_perm_iff {size pages : Nat} {Answers : List α → Prop} {shown : List α → List α}
    {served : List α → Nat → Option (List α)} (hsize : 0 < size) (hnodup : rows.Nodup)
    (hpages : ∀ n, n < pages ↔ n * size < rows.length)
    (hshown : ∀ answer, Answers answer → Listed key rows (shown answer))
    (hlisted : ∀ l, Listed key rows l → Answers l ∧ shown l = l)
    (hserved : ∀ answer, Answers answer → ∀ n < pages,
      served answer n = some (page size n (shown answer))) :
    (∀ answers : Nat → List α, (∀ n, Answers (answers n)) → ∃ found : Nat → List α,
        (∀ n < pages, served (answers n) n = some (found n)) ∧
          ((List.range pages).flatMap found).Perm rows) ↔ PagesApart key rows size := by
  rw [← pages_perm_iff hsize hnodup hpages]
  constructor
  · intro hall listing hlisting
    obtain ⟨found, hfound, hperm⟩ := hall listing fun n => (hlisted _ (hlisting n)).1
    have hsame : (List.range pages).flatMap found =
        (List.range pages).flatMap fun n => page size n (listing n) := by
      refine List.flatMap_congr fun n hn => ?_
      have hpage := hserved _ (hlisted _ (hlisting n)).1 n (List.mem_range.mp hn)
      rw [hfound n (List.mem_range.mp hn), (hlisted _ (hlisting n)).2] at hpage
      exact Option.some.inj hpage
    rw [← hsame]
    exact hperm
  · intro hall answers hanswers
    exact ⟨fun n => page size n (shown (answers n)), fun n hn => hserved _ (hanswers n) n hn,
      hall _ fun n => hshown _ (hanswers n)⟩

end Pages

end Paging
