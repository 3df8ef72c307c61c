import Mathlib.Data.List.Perm.Basic
import Mathlib.Data.List.Rotate

/-!
# Unitae — closed paths and the parity of their crossings

A list of corners is a closed path: each corner beside the one before it, the first beside the last. A
parity toggled once for each pair that crosses something does not depend on where the path begins or on
the way it runs, nor on whether its first corner is repeated at the end.
-/

namespace Unitae.Base

variable {α : Type}

/-! ## Neighbours along a path -/

/-- Each element beside the one before it. -/
def pathPairs (l : List α) : List (α × α) := l.tail.zip l

/-- The same, with the first beside the last. -/
def cyclicPairs (l : List α) : List (α × α) := l.zip (l.getLast?.toList ++ l)

@[simp] theorem pathPairs_cons_cons (a b : α) (l : List α) :
    pathPairs (a :: b :: l) = (b, a) :: pathPairs (b :: l) := rfl

theorem cyclicPairs_cons (a : α) (l : List α) :
    cyclicPairs (a :: l) = (a, (a :: l).getLast (List.cons_ne_nil a l)) :: pathPairs (a :: l) := by
  unfold cyclicPairs pathPairs
  rw [List.getLast?_eq_getLast_of_ne_nil (List.cons_ne_nil a l)]
  rfl

theorem pathPairs_concat {l : List α} (hne : l ≠ []) (x : α) :
    pathPairs (l ++ [x]) = pathPairs l ++ [(x, l.getLast hne)] := by
  induction l with
  | nil => exact absurd rfl hne
  | cons a l ih =>
    cases l with
    | nil => rfl
    | cons b l =>
      have hrest := ih (List.cons_ne_nil b l)
      simp only [List.cons_append, pathPairs_cons_cons] at hrest ⊢
      rw [hrest, List.getLast_cons (List.cons_ne_nil b l)]

theorem pathPairs_reverse (l : List α) :
    pathPairs l.reverse = ((pathPairs l).map Prod.swap).reverse := by
  induction l with
  | nil => rfl
  | cons a l ih =>
    cases l with
    | nil => rfl
    | cons b l =>
      have hne : (b :: l).reverse ≠ [] := by simp
      have hlast : (b :: l).reverse.getLast hne = b := by simp
      rw [List.reverse_cons, pathPairs_concat hne, hlast, ih]
      simp

/-! ## Redrawing a closed path -/

theorem cyclicPairs_rotate_one (l : List α) : (cyclicPairs (l.rotate 1)).Perm (cyclicPairs l) := by
  cases l with
  | nil => exact .refl _
  | cons a l =>
    cases l with
    | nil => rw [List.rotate_singleton]
    | cons b l =>
      have hlast : (b :: (l ++ [a])).getLast (List.cons_ne_nil _ _) = a := by simp
      have hpath := pathPairs_concat (List.cons_ne_nil b l) a
      -- The pair of the old first corner and the last moves from the front to the back.
      calc cyclicPairs ((a :: b :: l).rotate 1)
          = (b, a) :: (pathPairs (b :: l) ++ [(a, (b :: l).getLast (List.cons_ne_nil b l))]) := by
            rw [List.rotate_cons_succ, List.rotate_zero, List.cons_append, cyclicPairs_cons, hlast,
              ← hpath, List.cons_append]
        List.Perm _ ((a, (b :: l).getLast (List.cons_ne_nil b l)) ::
            (b, a) :: pathPairs (b :: l)) := List.perm_append_singleton _ ((b, a) :: _)
        _ = cyclicPairs (a :: b :: l) := by
            rw [cyclicPairs_cons, pathPairs_cons_cons, List.getLast_cons (List.cons_ne_nil b l)]

theorem cyclicPairs_rotate (l : List α) (n : Nat) : (cyclicPairs (l.rotate n)).Perm (cyclicPairs l) := by
  induction n with
  | zero => rw [List.rotate_zero]
  | succ n ih =>
    rw [← List.rotate_rotate]
    exact (cyclicPairs_rotate_one _).trans ih

theorem cyclicPairs_reverse (l : List α) :
    (cyclicPairs l.reverse).Perm ((cyclicPairs l).map Prod.swap) := by
  cases l with
  | nil => exact .refl _
  | cons a l =>
    have hne : (a :: l).reverse ≠ [] := by simp
    obtain ⟨b, r, hbr⟩ := List.exists_cons_of_ne_nil hne
    have hfirst : b = (a :: l).getLast (List.cons_ne_nil a l) := by
      have h := List.head_reverse hne
      simp only [hbr, List.head_cons] at h
      exact h
    have hlast : (b :: r).getLast (List.cons_ne_nil b r) = a := by
      simp only [← hbr, List.getLast_reverse, List.head_cons]
    rw [hbr, cyclicPairs_cons, hlast, ← hbr, pathPairs_reverse, cyclicPairs_cons, List.map_cons, hfirst]
    exact (List.reverse_perm _).cons _

theorem cyclicPairs_close (a : α) (l : List α) :
    (cyclicPairs (a :: l ++ [a])).Perm ((a, a) :: cyclicPairs (a :: l)) := by
  have hlast : (a :: (l ++ [a])).getLast (List.cons_ne_nil _ _) = a := by simp
  have hpath := pathPairs_concat (List.cons_ne_nil a l) a
  rw [List.cons_append] at hpath ⊢
  rw [cyclicPairs_cons, hlast, hpath, cyclicPairs_cons]
  exact (List.perm_append_singleton _ _).cons _

/-! ## Parity -/

/-- Toggled by each pair that crosses. -/
def crossingParity (crosses : α × α → Bool) (l : List α) : Bool :=
  (cyclicPairs l).foldl (fun b pair => if crosses pair then !b else b) false

section Parity

variable {crosses : α × α → Bool}

theorem toggle_perm {pairs pairs' : List (α × α)} (h : pairs.Perm pairs') (b : Bool) :
    pairs.foldl (fun b pair => if crosses pair then !b else b) b =
      pairs'.foldl (fun b pair => if crosses pair then !b else b) b := by
  have : RightCommutative fun (b : Bool) pair => if crosses pair then !b else b :=
    ⟨fun b p q => by cases crosses p <;> cases crosses q <;> simp⟩
  exact h.foldl_eq b

theorem crossingParity_rotate (l : List α) (n : Nat) :
    crossingParity crosses (l.rotate n) = crossingParity crosses l :=
  toggle_perm (cyclicPairs_rotate l n) false

theorem crossingParity_reverse (hswap : ∀ a b, crosses (a, b) = crosses (b, a)) (l : List α) :
    crossingParity crosses l.reverse = crossingParity crosses l := by
  unfold crossingParity
  have hpair : ∀ pair : α × α, crosses pair.swap = crosses pair := fun pair => hswap pair.2 pair.1
  rw [toggle_perm (cyclicPairs_reverse l) false, List.foldl_map]
  simp only [hpair]

/-- A pair of one corner with itself crosses nothing. -/
theorem crossingParity_close (hself : ∀ a, crosses (a, a) = false) {l : List α} {first : α}
    (h : l.head? = some first) : crossingParity crosses (l ++ [first]) = crossingParity crosses l := by
  cases l with
  | nil => cases h
  | cons a l =>
    obtain rfl : a = first := by simpa using h
    unfold crossingParity
    rw [toggle_perm (cyclicPairs_close a l) false, List.foldl_cons, hself]
    rfl

end Parity

end Unitae.Base
