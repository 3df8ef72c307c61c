import Unitae.Base.CivilMonths
import Unitae.Settings.Anonymization

/-!
# Unitae — when a departure is old enough

The sweep moves today's date back by the retention and compares; what the retention means is the departure
moved forward, to the last day of a month that is too short. Moving back runs over at the end of a short
month instead, into the month after it. `selects_due_iff` says which departures the two tell apart.
-/

namespace Calendar

def daysInMonth (n : Int) : Int := firstDay (n + 1) - firstDay n

theorem daysInMonth_bounds (n : Int) : 28 ≤ daysInMonth n ∧ daysInMonth n ≤ 31 := by
  have := firstDay_succ_bounds n
  unfold daysInMonth
  omega

/-- The month of an instant, and its day in it. -/
def monthAt (t : Int) : Int := monthOf (dayOf t)

def dayAt (t : Int) : Int := dayInMonth (dayOf t)

/-- An instant is a day of a month and a time of day. -/
theorem instant_fields (t : Int) :
    t = msPerDay * (firstDay (monthAt t) + dayAt t - 1) + t % msPerDay ∧
      1 ≤ dayAt t ∧ dayAt t ≤ daysInMonth (monthAt t) ∧ 0 ≤ t % msPerDay ∧ t % msPerDay < msPerDay := by
  have hplace := dayInMonth_eq (dayOf t)
  have hbounds := dayInMonth_bounds (dayOf t)
  have hday : firstDay (monthOf (dayOf t)) + dayInMonth (dayOf t) - 1 = dayOf t := by omega
  have hsplit : t = msPerDay * dayOf t + t % msPerDay := by
    unfold dayOf
    have := Int.mul_ediv_add_emod t msPerDay
    omega
  unfold monthAt dayAt daysInMonth
  rw [hday]
  refine ⟨hsplit, hbounds.1, hbounds.2, Int.emod_nonneg t (by decide), Int.emod_lt_of_pos t (by decide)⟩

/-- Calendar months later, on the last day of a month too short for the day; the time of day stays. -/
def addMonths (months t : Int) : Int :=
  msPerDay * (firstDay (monthAt t + months) + min (dayAt t) (daysInMonth (monthAt t + months)) - 1) +
    t % msPerDay

/-- On an earlier day, or on the same day no later. -/
def NotAfter (day time day' time' : Int) : Prop := day < day' ∨ day = day' ∧ time ≤ time'

instance (day time day' time' : Int) : Decidable (NotAfter day time day' time') :=
  inferInstanceAs (Decidable (_ ∨ _))

/-- Instants are ordered by month, then day, then time. -/
theorem dated_le_iff {m n d e s u : Int} (hd : 1 ≤ d ∧ d ≤ daysInMonth m) (he : 1 ≤ e ∧ e ≤ daysInMonth n)
    (hs : 0 ≤ s ∧ s < msPerDay) (hu : 0 ≤ u ∧ u < msPerDay) :
    msPerDay * (firstDay m + d - 1) + s ≤ msPerDay * (firstDay n + e - 1) + u ↔
      m < n ∨ m = n ∧ NotAfter d s e u := by
  unfold daysInMonth at hd he
  unfold msPerDay at hs hu ⊢
  unfold NotAfter
  have hforward : m + 1 ≤ n → firstDay (m + 1) ≤ firstDay n := firstDay_le_iff.mpr
  have hbackward : n + 1 ≤ m → firstDay (n + 1) ≤ firstDay m := firstDay_le_iff.mpr
  by_cases hlt : m < n
  · have := hforward hlt
    omega
  · by_cases hgt : n < m
    · have := hbackward hgt
      omega
    · have hsame : m = n := by omega
      subst hsame
      omega

end Calendar

namespace Unitae.Settings

open Calendar

/-! ## The two cutoffs -/

/-- The departure is as old as the retention. -/
def Due (retentionMonths leftAt now : Int) : Prop := addMonths retentionMonths leftAt ≤ now

instance (retentionMonths leftAt now : Int) : Decidable (Due retentionMonths leftAt now) :=
  inferInstanceAs (Decidable (_ ≤ _))

theorem retentionCutoff_eq (retentionMonths : Int) (now : Instant) :
    retentionCutoff retentionMonths now =
      msPerDay * (firstDay (monthAt now - retentionMonths) + dayAt now - 1) + now % msPerDay := by
  obtain ⟨hyear, hmonth⟩ := civilFromDays_month (dayOf now)
  have hback : monthOf (dayOf now) / 12 + (monthOf (dayOf now) % 12 - retentionMonths) / 12 =
        (monthOf (dayOf now) - retentionMonths) / 12 ∧
      (monthOf (dayOf now) % 12 - retentionMonths) % 12 =
        (monthOf (dayOf now) - retentionMonths) % 12 := by omega
  unfold retentionCutoff setUTCMonth getUTCMonth
  simp only [hyear, hmonth, Int.add_sub_cancel, hback.1, hback.2, daysFromCivil_month]
  rfl

section Cutoffs

variable {retentionMonths leftAt now : Int}

/-- Counting forward: a month before the target, or its day where the clock has come to. -/
theorem due_iff : Due retentionMonths leftAt now ↔
    monthAt leftAt < monthAt now - retentionMonths ∨
      monthAt leftAt = monthAt now - retentionMonths ∧
        NotAfter (min (dayAt leftAt) (daysInMonth (monthAt now))) (leftAt % msPerDay)
          (dayAt now) (now % msPerDay) := by
  obtain ⟨hnow, hday₁, hday₂, htime⟩ := instant_fields now
  obtain ⟨-, hleft₁, -, hleftTime⟩ := instant_fields leftAt
  have hlong := daysInMonth_bounds (monthAt leftAt + retentionMonths)
  have horder := @dated_le_iff (monthAt leftAt + retentionMonths) _
    (min (dayAt leftAt) (daysInMonth (monthAt leftAt + retentionMonths))) _ _ _ (by omega)
    ⟨hday₁, hday₂⟩ hleftTime htime
  unfold Due addMonths
  rw [hnow.symm] at horder
  rw [horder]
  have hmonths : monthAt leftAt + retentionMonths = monthAt now ↔
      monthAt leftAt = monthAt now - retentionMonths := by omega
  rw [hmonths, show monthAt leftAt + retentionMonths < monthAt now ↔
    monthAt leftAt < monthAt now - retentionMonths by omega]
  refine or_congr_right (and_congr_right fun hsame => ?_)
  rw [hmonths.mpr hsame]

/-- Counting backward, where the target month has the day. -/
theorem le_cutoff_iff (hday : dayAt now ≤ daysInMonth (monthAt now - retentionMonths)) :
    leftAt ≤ retentionCutoff retentionMonths now ↔
      monthAt leftAt < monthAt now - retentionMonths ∨
        monthAt leftAt = monthAt now - retentionMonths ∧
          NotAfter (dayAt leftAt) (leftAt % msPerDay) (dayAt now) (now % msPerDay) := by
  obtain ⟨-, hday₁, -, htime⟩ := instant_fields now
  obtain ⟨hleft, hleft₁, hleft₂, hleftTime⟩ := instant_fields leftAt
  have horder := dated_le_iff ⟨hleft₁, hleft₂⟩ ⟨hday₁, hday⟩ hleftTime htime
  rw [← hleft] at horder
  rw [retentionCutoff_eq]
  exact horder

/-- Where it does not, the cutoff is in the month after. -/
theorem le_cutoff_iff_of_over (hday : daysInMonth (monthAt now - retentionMonths) < dayAt now) :
    leftAt ≤ retentionCutoff retentionMonths now ↔
      monthAt leftAt ≤ monthAt now - retentionMonths ∨
        monthAt leftAt = monthAt now - retentionMonths + 1 ∧
          NotAfter (dayAt leftAt) (leftAt % msPerDay)
            (dayAt now - daysInMonth (monthAt now - retentionMonths)) (now % msPerDay) := by
  obtain ⟨-, -, hday₂, htime⟩ := instant_fields now
  obtain ⟨hleft, hleft₁, hleft₂, hleftTime⟩ := instant_fields leftAt
  have hshort := daysInMonth_bounds (monthAt now - retentionMonths)
  have hlong := daysInMonth_bounds (monthAt now)
  have hnext := daysInMonth_bounds (monthAt now - retentionMonths + 1)
  have horder := @dated_le_iff _ (monthAt now - retentionMonths + 1) _
    (dayAt now - daysInMonth (monthAt now - retentionMonths)) _ _ ⟨hleft₁, hleft₂⟩ (by omega)
    hleftTime htime
  -- The days that are too many are the first days of the next month.
  have hcarried : firstDay (monthAt now - retentionMonths + 1) +
      (dayAt now - daysInMonth (monthAt now - retentionMonths)) - 1 =
        firstDay (monthAt now - retentionMonths) + dayAt now - 1 := by
    unfold daysInMonth
    omega
  rw [← hleft, hcarried] at horder
  rw [retentionCutoff_eq, horder, Int.lt_add_one_iff]

end Cutoffs

/-! ## Where they part -/

/-- The target month is too short for today, and he left in the month after it, on one of the days that
were carried into it. -/
def ErasedEarly (retentionMonths leftAt now : Int) : Prop :=
  monthAt leftAt = monthAt now - retentionMonths + 1 ∧
    daysInMonth (monthAt now - retentionMonths) < dayAt now ∧
    NotAfter (dayAt leftAt) (leftAt % msPerDay)
      (dayAt now - daysInMonth (monthAt now - retentionMonths)) (now % msPerDay)

/-- Today is the last day of its month, and he left on a later day of a longer one. -/
def KeptOver (retentionMonths leftAt now : Int) : Prop :=
  monthAt leftAt = monthAt now - retentionMonths ∧ dayAt now = daysInMonth (monthAt now) ∧
    dayAt now < dayAt leftAt ∧ leftAt % msPerDay ≤ now % msPerDay

instance (retentionMonths leftAt now : Int) : Decidable (ErasedEarly retentionMonths leftAt now) :=
  inferInstanceAs (Decidable (_ ∧ _))

instance (retentionMonths leftAt now : Int) : Decidable (KeptOver retentionMonths leftAt now) :=
  inferInstanceAs (Decidable (_ ∧ _))

/-- **Backward and forward agree** unless the departure is caught by an overrun, or falls on a day today's
month has not. -/
theorem le_cutoff_iff_due {retentionMonths leftAt now : Int} :
    (leftAt ≤ retentionCutoff retentionMonths now ↔ Due retentionMonths leftAt now) ↔
      ¬ErasedEarly retentionMonths leftAt now ∧ ¬KeptOver retentionMonths leftAt now := by
  obtain ⟨-, -, hday, -⟩ := instant_fields now
  obtain ⟨-, -, hleft, -⟩ := instant_fields leftAt
  rw [due_iff]
  unfold ErasedEarly KeptOver
  by_cases hover : daysInMonth (monthAt now - retentionMonths) < dayAt now
  · -- Every day of the short month is behind today's.
    rw [le_cutoff_iff_of_over hover]
    have hbehind : monthAt leftAt = monthAt now - retentionMonths → dayAt leftAt < dayAt now := by
      intro hsame
      rw [hsame] at hleft
      omega
    unfold NotAfter
    omega
  · rw [le_cutoff_iff (by omega)]
    unfold NotAfter
    omega

end Unitae.Settings
