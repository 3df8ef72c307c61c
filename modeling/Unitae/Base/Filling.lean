import Mathlib.Algebra.BigOperators.Group.List.Basic
import Mathlib.Order.Lattice

/-!
# Sheets filled with rows

Rows are put on sheets in order, and how much a sheet holds depends on its position. A row that no
sheet could hold is marked oversized and has a sheet for itself.
-/

variable {ρ K : Type*} [AddCommMonoid K] [LinearOrder K]

/-- No sheet holds more than its capacity, except for the oversized rows, each alone on a sheet that
is too small for it. -/
structure Filled (capacity : ℕ → K) (tall : ρ → K) (oversized : ρ → Bool) (sheets : List (List ρ)) :
    Prop where
  fits : ∀ i sheet, sheets[i]? = some sheet → (∀ row ∈ sheet, oversized row = false) →
    (sheet.map tall).sum ≤ capacity i
  alone : ∀ i sheet, sheets[i]? = some sheet → ∀ row ∈ sheet, oversized row = true →
    sheet = [row] ∧ capacity i < tall row

namespace Filled

variable {capacity : ℕ → K} {tall : ρ → K} {oversized : ρ → Bool} {sheets : List (List ρ)}
  {sheet : List ρ}

theorem nil : Filled capacity tall oversized [] := by
  constructor <;> simp

theorem getElem?_push {i : ℕ} {s : List ρ} (h : (sheets ++ [sheet])[i]? = some s) :
    sheets[i]? = some s ∨ i = sheets.length ∧ s = sheet := by
  rcases Nat.lt_trichotomy i sheets.length with hlt | heq | hgt
  · rw [List.getElem?_append_left hlt] at h
    exact .inl h
  · subst heq
    simp at h
    exact .inr ⟨rfl, h.symm⟩
  · rw [List.getElem?_eq_none (by simp; omega)] at h
    exact absurd h (by simp)

/-- A sheet that its rows do not overfill can be put next. -/
theorem push (h : Filled capacity tall oversized sheets) (hrows : ∀ row ∈ sheet, oversized row = false)
    (hsum : (sheet.map tall).sum ≤ capacity sheets.length) :
    Filled capacity tall oversized (sheets ++ [sheet]) where
  fits i s hs hplain := by
    rcases getElem?_push hs with hs | ⟨rfl, rfl⟩
    · exact h.fits i s hs hplain
    · exact hsum
  alone i s hs row hrow hover := by
    rcases getElem?_push hs with hs | ⟨rfl, rfl⟩
    · exact h.alone i s hs row hrow hover
    · simp [hrows row hrow] at hover

/-- So can an oversized row, which the sheet could not hold. -/
theorem push_oversized (h : Filled capacity tall oversized sheets) {row : ρ}
    (hrow : oversized row = true) (htall : capacity sheets.length < tall row) :
    Filled capacity tall oversized (sheets ++ [[row]]) where
  fits i s hs hplain := by
    rcases getElem?_push hs with hs | ⟨rfl, rfl⟩
    · exact h.fits i s hs hplain
    · simp [hrow] at hplain
  alone i s hs r hr hover := by
    rcases getElem?_push hs with hs | ⟨rfl, rfl⟩
    · exact h.alone i s hs r hr hover
    · obtain rfl := List.mem_singleton.mp hr
      exact ⟨rfl, htall⟩

end Filled
