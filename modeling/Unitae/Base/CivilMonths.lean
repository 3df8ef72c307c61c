import Unitae.Base.IsoDate

/-!
# The months of the civil calendar

Months counted without a break, `12 * year + month` with months from 0, and the day each begins on. A
day falls in the month it is not before the first day of, and before the first day of the next, and its
day of the month counts from there.
-/

namespace Calendar

/-- The first day of a month. -/
def firstDay (n : Int) : Int := daysFromCivil (n / 12) (n % 12 + 1) 1

/-- The month of a day. -/
def monthOf (day : Int) : Int := 12 * (civilFromDays day).1 + ((civilFromDays day).2.1 - 1)

/-- The day of the month. -/
def dayInMonth (day : Int) : Int := (civilFromDays day).2.2

/-- Years that begin in March have their leap day last. -/
theorem firstDay_eq (n : Int) :
    firstDay n = 365 * ((n - 2) / 12) + (n - 2) / 12 / 4 - (n - 2) / 12 / 100 + (n - 2) / 12 / 400 +
      (153 * ((n - 2) % 12) + 2) / 5 - 719468 := by
  unfold firstDay daysFromCivil
  obtain ⟨year, hyear⟩ : ∃ year, year = n / 12 := ⟨_, rfl⟩
  by_cases hspring : n % 12 + 1 ≤ 2
  · have hfrom : ¬ n % 12 + 1 > 2 ∧ (n - 2) % 12 = n % 12 + 1 + 9 ∧ (n - 2) / 12 = n / 12 - 1 := by
      omega
    simp only [hspring, hfrom, if_true, if_false, ← hyear]
    omega
  · have hfrom : n % 12 + 1 > 2 ∧ (n - 2) % 12 = n % 12 + 1 - 3 ∧ (n - 2) / 12 = n / 12 := by omega
    simp only [hspring, hfrom, if_true, if_false, ← hyear]
    omega

/-- A month has 28 to 31 days. -/
theorem firstDay_succ_bounds (n : Int) :
    firstDay n + 28 ≤ firstDay (n + 1) ∧ firstDay (n + 1) ≤ firstDay n + 31 := by
  rw [firstDay_eq, firstDay_eq]
  obtain ⟨year, hyear⟩ : ∃ year, year = (n - 2) / 12 := ⟨_, rfl⟩
  by_cases hlast : (n - 2) % 12 = 11
  · have hnext : (n + 1 - 2) % 12 = 0 ∧ (n + 1 - 2) / 12 = year + 1 := by omega
    simp only [hlast, hnext, ← hyear]
    omega
  · have hnext : (n + 1 - 2) % 12 = (n - 2) % 12 + 1 ∧ (n + 1 - 2) / 12 = year := by omega
    simp only [hnext, ← hyear]
    omega

theorem firstDay_strictMono {m n : Int} (h : m < n) : firstDay m < firstDay n := by
  have hstep : ∀ k : Nat, firstDay m < firstDay (m + 1 + k) := by
    intro k
    induction k with
    | zero =>
      have := (firstDay_succ_bounds m).1
      rw [show m + 1 + ((0 : Nat) : Int) = m + 1 by omega]
      omega
    | succ k ih =>
      have := (firstDay_succ_bounds (m + 1 + k)).1
      have hnext : m + 1 + ((k + 1 : Nat) : Int) = m + 1 + k + 1 := by omega
      rw [hnext]
      omega
  have hn : m + 1 + ((n - m - 1).toNat : Int) = n := by omega
  rw [← hn]
  exact hstep _

theorem firstDay_le_iff {m n : Int} : firstDay m ≤ firstDay n ↔ m ≤ n := by
  constructor
  · intro h
    by_contra hlt
    have := firstDay_strictMono (show n < m by omega)
    omega
  · intro h
    by_cases heq : m = n
    · exact Int.le_of_eq (congrArg firstDay heq)
    · have := firstDay_strictMono (show m < n by omega)
      omega

/-! ## The month of a day -/

/-- The days of a March year come before the next one begins. -/
theorem dayOfYear_lt {dayOfEra : Int} (h₀ : 0 ≤ dayOfEra) (h₁ : dayOfEra ≤ 146096) :
    let yearOfEra := (dayOfEra - dayOfEra / 1460 + dayOfEra / 36524 - dayOfEra / 146096) / 365
    dayOfEra < 365 * (yearOfEra + 1) + (yearOfEra + 1) / 4 - (yearOfEra + 1) / 100 +
      (yearOfEra + 1) / 400 := by
  intro yearOfEra
  by_cases hlast : dayOfEra = 146096
  · subst hlast
    decide
  · obtain ⟨k, hk⟩ : ∃ k, k = dayOfEra / 36524 := ⟨_, rfl⟩
    obtain ⟨p, hp⟩ : ∃ p, p = (dayOfEra - 36524 * k) / 1461 := ⟨_, rfl⟩
    have hera : dayOfEra / 146096 = 0 := by omega
    have hleap : dayOfEra / 1460 = 25 * k + p ∨ dayOfEra / 1460 = 25 * k + p + 1 := by omega
    have hyear : yearOfEra = (dayOfEra - dayOfEra / 1460 + k) / 365 := by
      simp only [yearOfEra, ← hk, hera]
      congr 1
      omega
    obtain ⟨v, hv⟩ : ∃ v, v = yearOfEra - (100 * k + 4 * p) := ⟨_, rfl⟩
    have hv₃ : 0 ≤ v ∧ v ≤ 3 := by omega
    have hp₂₄ : 0 ≤ p ∧ p ≤ 24 := by omega
    have hk₃ : 0 ≤ k ∧ k ≤ 3 := by omega
    -- The last year of a leap cycle has its leap day, unless it ends a century.
    by_cases hcycle : v = 3
    · by_cases hcentury : p = 24
      · have hnext : (yearOfEra + 1) / 4 = 25 * k + 25 ∧ (yearOfEra + 1) / 100 = k + 1 := by omega
        rcases hleap with h | h <;> omega
      · have hnext : (yearOfEra + 1) / 4 = 25 * k + p + 1 ∧ (yearOfEra + 1) / 100 = k := by omega
        rcases hleap with h | h <;> omega
    · have hnext : (yearOfEra + 1) / 4 = 25 * k + p ∧ (yearOfEra + 1) / 100 = k := by omega
      rcases hleap with h | h <;> omega

/-- The fields of a day, and where they place it. -/
theorem civilFromDays_fields (day : Int) :
    (civilFromDays day).2.1 ≤ 12 ∧ day + 1 = firstDay (monthOf day) + dayInMonth day ∧
      day < firstDay (monthOf day + 1) := by
  have hbounds := @yearOfEra_bounds (day + 719468 - (day + 719468) / 146097 * 146097) (by omega)
    (by omega)
  have hyearEnd := @dayOfYear_lt (day + 719468 - (day + 719468) / 146097 * 146097) (by omega)
    (by omega)
  simp only [firstDay_eq]
  unfold monthOf dayInMonth civilFromDays
  simp only at hbounds hyearEnd ⊢
  generalize hera : (day + 719468) / 146097 = era at hbounds hyearEnd ⊢
  generalize hdoe : day + 719468 - era * 146097 = dayOfEra at hbounds hyearEnd ⊢
  generalize (dayOfEra - dayOfEra / 1460 + dayOfEra / 36524 - dayOfEra / 146096) / 365 = yearOfEra
    at hbounds hyearEnd ⊢
  generalize hdoy : dayOfEra - (365 * yearOfEra + yearOfEra / 4 - yearOfEra / 100) = dayOfYear
    at hbounds hyearEnd ⊢
  generalize hmonth : (5 * dayOfYear + 2) / 153 = month
  have hmonth₁₁ : 0 ≤ month ∧ month ≤ 11 := by omega
  obtain ⟨year, hyear⟩ : ∃ year, year = yearOfEra + era * 400 := ⟨_, rfl⟩
  have hparts : year / 4 = yearOfEra / 4 + 100 * era ∧ year / 100 = yearOfEra / 100 + 4 * era ∧
      year / 400 = era := by omega
  have hparts' : (year + 1) / 4 = (yearOfEra + 1) / 4 + 100 * era ∧
      (year + 1) / 100 = (yearOfEra + 1) / 100 + 4 * era ∧
      (year + 1) / 400 = (yearOfEra + 1) / 400 + era := by omega
  by_cases hspring : month < 10
  · have hfrom : ¬ (month + 3 ≤ 2) := by omega
    have hnumber : (12 * year + (month + 3 - 1) - 2) / 12 = year ∧
        (12 * year + (month + 3 - 1) - 2) % 12 = month := by omega
    have hnext : (12 * year + (month + 3 - 1) + 1 - 2) / 12 = year ∧
        (12 * year + (month + 3 - 1) + 1 - 2) % 12 = month + 1 := by omega
    simp only [hspring, hfrom, if_true, if_false, ← hyear, hnumber, hnext]
    refine ⟨by omega, by omega, ?_⟩
    omega
  · have hfrom : month - 9 ≤ 2 := by omega
    have hnumber : (12 * (year + 1) + (month - 9 - 1) - 2) / 12 = year ∧
        (12 * (year + 1) + (month - 9 - 1) - 2) % 12 = month := by omega
    simp only [hspring, hfrom, if_true, if_false, ← hyear, hnumber]
    refine ⟨by omega, by omega, ?_⟩
    by_cases hfebruary : month = 11
    · have hmarch : (12 * (year + 1) + (month - 9 - 1) + 1 - 2) / 12 = year + 1 ∧
          (12 * (year + 1) + (month - 9 - 1) + 1 - 2) % 12 = 0 := by omega
      simp only [hmarch]
      omega
    · have hnext : (12 * (year + 1) + (month - 9 - 1) + 1 - 2) / 12 = year ∧
          (12 * (year + 1) + (month - 9 - 1) + 1 - 2) % 12 = month + 1 := by omega
      simp only [hnext]
      omega

theorem firstDay_monthOf_le (day : Int) : firstDay (monthOf day) ≤ day := by
  have hpos := (IsoDate.civilFromDays_pos day).2
  have hplace := (civilFromDays_fields day).2.1
  unfold dayInMonth at hplace
  omega

/-- **The month of a day is the one it lies in.** -/
theorem monthOf_eq_iff {day n : Int} : monthOf day = n ↔ firstDay n ≤ day ∧ day < firstDay (n + 1) := by
  constructor
  · rintro rfl
    exact ⟨firstDay_monthOf_le day, (civilFromDays_fields day).2.2⟩
  · intro ⟨hle, hlt⟩
    have hle' := firstDay_monthOf_le day
    have hlt' := (civilFromDays_fields day).2.2
    by_contra hne
    -- A later month would begin after the day, an earlier one would have ended before it.
    rcases Int.lt_or_gt_of_ne hne with h | h
    · have := firstDay_le_iff.mpr (show monthOf day + 1 ≤ n by omega)
      omega
    · have := firstDay_le_iff.mpr (show n + 1 ≤ monthOf day by omega)
      omega

theorem monthOf_mono {day day' : Int} (h : day ≤ day') : monthOf day ≤ monthOf day' := by
  by_contra hlt
  have hfirst := firstDay_monthOf_le day
  have hlast := (civilFromDays_fields day').2.2
  have hmonths := firstDay_le_iff.mpr (show monthOf day' + 1 ≤ monthOf day by omega)
  omega

theorem monthOf_firstDay (n : Int) : monthOf (firstDay n) = n :=
  monthOf_eq_iff.mpr ⟨Int.le_refl _, firstDay_strictMono (by omega)⟩

/-- December is followed by the thirteenth month of the year. -/
theorem daysFromCivil_next (n : Int) : daysFromCivil (n / 12) (n % 12 + 2) 1 = firstDay (n + 1) := by
  by_cases hlast : n % 12 = 11
  · have hnext : (n + 1) / 12 = n / 12 + 1 ∧ (n + 1) % 12 = 0 := by omega
    rw [firstDay, hnext.1, hnext.2, hlast]
    unfold daysFromCivil
    simp only
    omega
  · have hnext : (n + 1) / 12 = n / 12 ∧ (n + 1) % 12 + 1 = n % 12 + 2 := by omega
    rw [firstDay, hnext.1, hnext.2]

theorem dayInMonth_eq (day : Int) : dayInMonth day = day - firstDay (monthOf day) + 1 := by
  have := (civilFromDays_fields day).2.1
  omega

theorem dayInMonth_bounds (day : Int) : 1 ≤ dayInMonth day ∧
    dayInMonth day ≤ firstDay (monthOf day + 1) - firstDay (monthOf day) := by
  have hfirst := firstDay_monthOf_le day
  have hlast := (civilFromDays_fields day).2.2
  rw [dayInMonth_eq]
  omega

/-- A date with a month out of the year and a day out of the month. -/
theorem daysFromCivil_month (n day : Int) :
    daysFromCivil (n / 12) (n % 12 + 1) day = firstDay n + day - 1 := by
  unfold firstDay daysFromCivil
  simp only
  split <;> omega

theorem civilFromDays_month (day : Int) :
    (civilFromDays day).1 = monthOf day / 12 ∧ (civilFromDays day).2.1 = monthOf day % 12 + 1 := by
  have hpos := (IsoDate.civilFromDays_pos day).1
  have hle := (civilFromDays_fields day).1
  unfold monthOf
  omega

/-- **A date of the calendar is read back from its day.** -/
theorem civilFromDays_daysFromCivil {n d : Int} (h₁ : 1 ≤ d)
    (h₂ : d ≤ firstDay (n + 1) - firstDay n) :
    civilFromDays (daysFromCivil (n / 12) (n % 12 + 1) d) = (n / 12, n % 12 + 1, d) := by
  have hday := daysFromCivil_month n d
  generalize daysFromCivil (n / 12) (n % 12 + 1) d = day at hday ⊢
  have hmonth : monthOf day = n := monthOf_eq_iff.mpr ⟨by omega, by omega⟩
  obtain ⟨hyear, hnumber⟩ := civilFromDays_month day
  have hd : (civilFromDays day).2.2 = d := by
    have := dayInMonth_eq day
    unfold dayInMonth at this
    rw [this, hmonth]
    omega
  rw [← hmonth, ← hyear, ← hnumber, ← hd]

end Calendar
