import Unitae.Base.Calendar

/-!
# Wall clocks

A clock stands at a fixed offset from universal time, in minutes, east positive. `localDay` is the day
it shows at an instant, and `instantOf` the instant at which it shows a minute of a day. Two clocks show
the same minute of the same day at instants that differ by the difference of their offsets.
-/

namespace WallClock

open Calendar

def msPerMinute : Int := 60000

def minutesPerDay : Int := 1440

/-- The day the clock shows, counted from 1 January 1970. -/
def localDay (offset t : Int) : Int := dayOf (t + msPerMinute * offset)

/-- The instant at which the clock shows the minute of the day. -/
def instantOf (offset day minute : Int) : Int := msPerDay * day + msPerMinute * (minute - offset)

/-- The weekday of a day, Sunday first: 1 January 1970 was a Thursday. -/
def weekday (day : Int) : Int := (day + 4) % 7

theorem instantOf_eq (offset day minute : Int) :
    instantOf offset day minute = msPerMinute * (minutesPerDay * day + minute - offset) := by
  unfold instantOf msPerDay msPerMinute minutesPerDay
  omega

theorem instantOf_le_iff {offset offset' day day' minute minute' : Int} :
    instantOf offset day minute ≤ instantOf offset' day' minute' ↔
      minutesPerDay * day + minute - offset ≤ minutesPerDay * day' + minute' - offset' := by
  rw [instantOf_eq, instantOf_eq]
  unfold msPerMinute
  omega

/-- What another clock shows at a minute of a day. -/
theorem localDay_instantOf_other (offset offset' day minute : Int) :
    localDay offset' (instantOf offset day minute) =
      day + (minute + offset' - offset) / minutesPerDay := by
  unfold localDay instantOf dayOf msPerDay msPerMinute minutesPerDay
  omega

theorem localDay_instantOf {offset day minute : Int} (h : 0 ≤ minute ∧ minute < minutesPerDay) :
    localDay offset (instantOf offset day minute) = day := by
  rw [localDay_instantOf_other]
  unfold minutesPerDay at h ⊢
  omega

/-- The instants of a day are those from its midnight up to the next. -/
theorem localDay_eq_iff {offset t day : Int} :
    localDay offset t = day ↔ instantOf offset day 0 ≤ t ∧ t < instantOf offset (day + 1) 0 := by
  unfold localDay instantOf dayOf msPerDay msPerMinute
  omega

theorem localDay_add_days (offset t k : Int) :
    localDay offset (t + msPerDay * k) = localDay offset t + k := by
  unfold localDay dayOf msPerDay msPerMinute
  omega

theorem instantOf_add_days (offset day minute k : Int) :
    instantOf offset day minute + msPerDay * k = instantOf offset (day + k) minute := by
  unfold instantOf msPerDay msPerMinute
  omega

theorem weekday_bounds (day : Int) : 0 ≤ weekday day ∧ weekday day < 7 := by
  unfold weekday
  omega

theorem weekday_add_weeks (day weeks : Int) : weekday (day + 7 * weeks) = weekday day := by
  unfold weekday
  omega

end WallClock
