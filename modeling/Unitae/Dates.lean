import Mathlib.Data.List.Basic
import Mathlib.Data.Rat.Init
import Unitae.Base.Calendar

/-!
# Unitae — dates (`shared/utils/date.server.ts`)

Instants are milliseconds since the epoch. How the server's time zone turns a civil date into an
instant and back, and which numbers `Number(text)` reads, belong to the JavaScript runtime: they are
the parameter `LocalTime`, and every result holds whatever the zone.
-/

namespace Unitae

abbrev Instant := Int

/-- The runtime's numbers and local dates. Months count from 0, as JavaScript's do. -/
structure LocalTime where
  /-- `Number(text)`; `none` for `NaN` and the infinities. -/
  number : String → Option Rat
  /-- `new Date(year, month, day)`. -/
  newDate : Rat → Rat → Rat → Instant
  getFullYear : Instant → Int
  getMonth : Instant → Int
  getDate : Instant → Int
  /-- `date.setDate(day)`: the day of the month replaced, the time of day kept. -/
  setDate : Instant → Rat → Instant

/-- The values of a list of readings, unless one of the first `n` is missing. -/
def firstThree : List (Option Rat) → Option (Rat × Rat × Rat)
  | some a :: some b :: some c :: _ => some (a, b, c)
  | _ => none

/-- `YYYY-MM-DD` as local midnight; `none` is the invalid date, which the database refuses. -/
def parseLocalDate (tz : LocalTime) (value : String) : Option Instant :=
  let parts := (value.toList.splitOn '-').map fun part => tz.number (String.ofList part)
  (firstThree parts).map fun (year, month, day) => tz.newDate year (month - 1) day

/-- Local midnight of the day of `date`. -/
def startOfDay (tz : LocalTime) (date : Instant) : Instant :=
  tz.newDate (tz.getFullYear date) (tz.getMonth date) (tz.getDate date)

/-- Local midnight of the day after `date`. -/
def startOfNextDay (tz : LocalTime) (date : Instant) : Instant :=
  tz.newDate (tz.getFullYear date) (tz.getMonth date) (tz.getDate date + 1)

/-- `String(n).padStart(2, '0')`. -/
def padTwo (n : Int) : String :=
  let digits := toString n
  if digits.length < 2 then "0" ++ digits else digits

/-- `localDateString` of `campaign-lifecycle.workflow.ts`. -/
def localDateString (tz : LocalTime) (date : Instant) : String :=
  toString (tz.getFullYear date) ++ "-" ++ padTwo (tz.getMonth date + 1) ++ "-" ++
    padTwo (tz.getDate date)

/-- A number written in decimal digits. -/
def decimalNumber (text : String) : Option Rat :=
  if text.toList ≠ [] ∧ text.toList.all Char.isDigit then
    some (Rat.ofInt (text.toList.foldl (fun n c => 10 * n + (c.toNat - 48)) 0 : Nat))
  else none

/-- The runtime of a server on universal time, for whole days and numbers in decimal digits. -/
def LocalTime.utc : LocalTime where
  number := decimalNumber
  newDate := fun year month day =>
    Calendar.msPerDay * Calendar.daysFromCivil year.floor (month.floor + 1) day.floor
  getFullYear := fun t => (Calendar.civilFromDays (Calendar.dayOf t)).1
  getMonth := fun t => (Calendar.civilFromDays (Calendar.dayOf t)).2.1 - 1
  getDate := fun t => (Calendar.civilFromDays (Calendar.dayOf t)).2.2
  setDate := fun t day =>
    t + Calendar.msPerDay * (day.floor - (Calendar.civilFromDays (Calendar.dayOf t)).2.2)

/-- `date.getUTCMonth()`. -/
def getUTCMonth (date : Instant) : Int :=
  (Calendar.civilFromDays (Calendar.dayOf date)).2.1 - 1

/-- `date.setUTCMonth(month)`: a month outside the year runs into another one, a day past the end of the
month into the next, and the time of day is kept. -/
def setUTCMonth (date : Instant) (month : Int) : Instant :=
  let (year, _, day) := Calendar.civilFromDays (Calendar.dayOf date)
  Calendar.msPerDay * Calendar.daysFromCivil (year + month / 12) (month % 12 + 1) day +
    date % Calendar.msPerDay

/-- Dates are local midnights: one that has come is not after the start of today. -/
def LocalTime.DaysAlign (tz : LocalTime) : Prop :=
  ∀ text day now, parseLocalDate tz text = some day → day ≤ now → day ≤ startOfDay tz now

theorem LocalTime.utc_daysAlign : LocalTime.utc.DaysAlign := by
  intro text day now hparse hcome
  have hmidnight : ∃ k, day = Calendar.msPerDay * k := by
    obtain ⟨⟨year, month, d⟩, _, hday⟩ := Option.map_eq_some_iff.mp hparse
    exact ⟨_, hday.symm⟩
  have htoday : startOfDay .utc now = Calendar.msPerDay * Calendar.dayOf now := by
    have hmonth : ∀ m : Int, m - 1 + 1 = m := by intro m; omega
    simp only [startOfDay, LocalTime.utc, Rat.floor_intCast, hmonth,
      Calendar.daysFromCivil_civilFromDays]
  obtain ⟨k, rfl⟩ := hmidnight
  rw [htoday]
  have hbefore : (86400000 : Int) * k ≤ (now : Int) := hcome
  show (86400000 : Int) * k ≤ 86400000 * ((now : Int) / 86400000)
  omega

example : (parseLocalDate .utc "2025-03-09").map (localDateString .utc) = some "2025-03-09" := by
  decide +kernel

end Unitae
