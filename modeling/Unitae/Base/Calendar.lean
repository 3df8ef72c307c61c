import Mathlib.Tactic.Common

/-!
# The civil calendar

Days since 1 January 1970 and the proleptic Gregorian date, both ways. A day number past the end
of its month runs on into the next one, as it does in `Date.UTC`.
-/

namespace Calendar

def msPerDay : Int := 86400000

/-- The day on which an instant, in milliseconds since the epoch, falls (UTC). -/
def dayOf (t : Int) : Int := t / msPerDay

/-- Days from the epoch to a civil date; months count from 1. -/
def daysFromCivil (year month day : Int) : Int :=
  let y := if month ≤ 2 then year - 1 else year
  let era := y / 400
  let yearOfEra := y - era * 400
  let monthFromMarch := if month > 2 then month - 3 else month + 9
  let dayOfYear := (153 * monthFromMarch + 2) / 5 + day - 1
  let dayOfEra := yearOfEra * 365 + yearOfEra / 4 - yearOfEra / 100 + dayOfYear
  era * 146097 + dayOfEra - 719468

/-- The civil date (year, month, day) of a day. -/
def civilFromDays (days : Int) : Int × Int × Int :=
  let z := days + 719468
  let era := z / 146097
  let dayOfEra := z - era * 146097
  let yearOfEra := (dayOfEra - dayOfEra / 1460 + dayOfEra / 36524 - dayOfEra / 146096) / 365
  let dayOfYear := dayOfEra - (365 * yearOfEra + yearOfEra / 4 - yearOfEra / 100)
  let monthFromMarch := (5 * dayOfYear + 2) / 153
  let day := dayOfYear - (153 * monthFromMarch + 2) / 5 + 1
  let month := if monthFromMarch < 10 then monthFromMarch + 3 else monthFromMarch - 9
  let year := yearOfEra + era * 400
  (if month ≤ 2 then year + 1 else year, month, day)

example : civilFromDays (daysFromCivil 2024 2 29) = (2024, 2, 29) := by decide

example : civilFromDays (daysFromCivil 2025 2 29) = (2025, 3, 1) := by decide

/-! ## The round trip from days -/

/-- Within one of the first three centuries of an era, or the start of the fourth: the year of the
era is `100` for each century, `4` for each whole leap cycle, and what is left. -/
theorem yearOfEra_of_century {dayOfEra k : Int} (hcentury : dayOfEra / 36524 = k) (hk₀ : 0 ≤ k)
    (hk : k ≤ 3) :
    let yearOfEra := (dayOfEra - dayOfEra / 1460 + dayOfEra / 36524 - dayOfEra / 146096) / 365
    let dayOfYear := dayOfEra - (365 * yearOfEra + yearOfEra / 4 - yearOfEra / 100)
    (0 ≤ yearOfEra ∧ yearOfEra ≤ 399) ∧ 0 ≤ dayOfYear ∧ dayOfYear ≤ 365 := by
  intro yearOfEra dayOfYear
  obtain ⟨m, hm⟩ : ∃ m, m = dayOfEra - 36524 * k := ⟨_, rfl⟩
  obtain ⟨p, hp⟩ : ∃ p, p = m / 1461 := ⟨_, rfl⟩
  have hera : dayOfEra / 146096 = 0 := by omega
  have hleap : dayOfEra / 1460 = 25 * k + p ∨ dayOfEra / 1460 = 25 * k + p + 1 := by omega
  have hyear : yearOfEra = (dayOfEra - dayOfEra / 1460 + k) / 365 := by
    simp only [yearOfEra, hcentury, hera]
    congr 1
    omega
  obtain ⟨v, hv⟩ : ∃ v, v = yearOfEra - (100 * k + 4 * p) := ⟨_, rfl⟩
  have hv₃ : 0 ≤ v ∧ v ≤ 3 := by omega
  have hp₂₄ : 0 ≤ p ∧ p ≤ 24 := by omega
  have hcycles : yearOfEra / 4 = 25 * k + p := by omega
  have hcenturies : yearOfEra / 100 = k := by omega
  have hday : dayOfYear = m - 1461 * p - 365 * v := by omega
  refine ⟨⟨by omega, by omega⟩, ?_, ?_⟩
  · rcases hleap with h | h <;> omega
  · rcases hleap with h | h <;> omega

theorem yearOfEra_bounds {dayOfEra : Int} (h₀ : 0 ≤ dayOfEra) (h₁ : dayOfEra ≤ 146096) :
    let yearOfEra := (dayOfEra - dayOfEra / 1460 + dayOfEra / 36524 - dayOfEra / 146096) / 365
    let dayOfYear := dayOfEra - (365 * yearOfEra + yearOfEra / 4 - yearOfEra / 100)
    (0 ≤ yearOfEra ∧ yearOfEra ≤ 399) ∧ 0 ≤ dayOfYear ∧ dayOfYear ≤ 365 := by
  by_cases hlast : dayOfEra = 146096
  · subst hlast
    decide
  · exact yearOfEra_of_century rfl (by omega) (by omega)

/-- **The civil date of a day names that day.** -/
theorem daysFromCivil_civilFromDays (days : Int) :
    daysFromCivil (civilFromDays days).1 (civilFromDays days).2.1 (civilFromDays days).2.2 =
      days := by
  have hbounds := @yearOfEra_bounds (days + 719468 - (days + 719468) / 146097 * 146097) (by omega)
    (by omega)
  unfold civilFromDays daysFromCivil
  simp only at hbounds ⊢
  generalize hera : (days + 719468) / 146097 = era at hbounds ⊢
  generalize hdoe : days + 719468 - era * 146097 = dayOfEra at hbounds ⊢
  generalize (dayOfEra - dayOfEra / 1460 + dayOfEra / 36524 - dayOfEra / 146096) / 365 = yearOfEra
    at hbounds ⊢
  generalize hdoy : dayOfEra - (365 * yearOfEra + yearOfEra / 4 - yearOfEra / 100) = dayOfYear
    at hbounds ⊢
  generalize hmonth : (5 * dayOfYear + 2) / 153 = month
  have hyear : (yearOfEra + era * 400) / 400 = era ∧
      yearOfEra + era * 400 - era * 400 = yearOfEra := by omega
  by_cases hspring : month < 10
  · have hfrom : ¬(month + 3 ≤ 2) ∧ month + 3 > 2 ∧ month + 3 - 3 = month := by omega
    simp only [hspring, hfrom, if_true, if_false]
    rw [hyear.1, hyear.2]
    omega
  · have hfrom : month - 9 ≤ 2 ∧ ¬(month - 9 > 2) ∧ month - 9 + 9 = month := by omega
    have hnext : yearOfEra + era * 400 + 1 - 1 = yearOfEra + era * 400 := by omega
    simp only [hspring, hfrom, if_true, if_false]
    rw [hnext, hyear.1, hyear.2]
    omega

end Calendar
