import Unitae.Dates

/-!
# Unitae — event times (`shared/utils/event-time.ts`, `compute-dates.ts`)

An event's times are civil times in the congregation's time zone, its dates are counted in the
server's. What `Date` and `Intl.DateTimeFormat` answer is the parameter `Runtime`; the code around
them is written out.
-/

namespace Unitae.Events

/-- Dates and formats of the JavaScript runtime. Time zones and locales are their names. -/
structure Runtime where
  localTime : LocalTime
  /-- `date.getDay()`. -/
  getDay : Instant → Int
  /-- `date.setHours(hours, minutes, seconds, ms)`. -/
  setHours : Instant → Int → Int → Int → Int → Instant
  /-- `new Date(text)`; `none` for the invalid date. -/
  parseDate : String → Option Instant
  /-- `formatOffset`: the zone's offset at the instant, as `+01:00`. -/
  formatOffset : Instant → String → String
  /-- Year, month and day of the instant in the zone, as `Intl` spells them. -/
  dateParts : Instant → String → String × String × String
  /-- `formatEventDate`: the date in a time zone and a locale. -/
  formatEventDate : Instant → String → String → String

variable (rt : Runtime)

/-- A civil time of a zone as an instant. Formatting an invalid date throws, hence `none`. -/
def combineLocalDateTime (dateStr timeStr timezone : String) : Option Instant := do
  let utcGuess ← rt.parseDate (dateStr ++ "T" ++ timeStr ++ ":00Z")
  let offset := rt.formatOffset utcGuess timezone
  let candidate ← rt.parseDate (dateStr ++ "T" ++ timeStr ++ ":00" ++ offset)
  let refinedOffset := rt.formatOffset candidate timezone
  if refinedOffset = offset then return candidate
  rt.parseDate (dateStr ++ "T" ++ timeStr ++ ":00" ++ refinedOffset)

/-- `toDateString` of `event-template-generation.server.ts`, and the date of `setHoursInTimezone`. -/
def toDateString (date : Instant) (timezone : String) : String :=
  let (year, month, day) := rt.dateParts date timezone
  year ++ "-" ++ month ++ "-" ++ day

/-- `String(n)` of an hour or a minute, to two places. A fraction spells no time of day. -/
def padTime (n : Rat) : Option String := if n.den = 1 then some (padTwo n.num) else none

/-- `HH:MM`; an absent number is 0, and one that is none spells no time of day. -/
def parseTimeString (timeStr : String) : Option Rat × Option Rat :=
  match (timeStr.toList.splitOn ':').map fun part => rt.localTime.number (String.ofList part) with
  | hour :: minute :: _ => (hour, minute)
  | [hour] => (hour, some 0)
  | [] => (some 0, some 0)

def setHoursInTimezone (date : Instant) (hour minute : Option Rat) (timezone : String) :
    Option Instant := do
  let hours ← padTime (← hour)
  let minutes ← padTime (← minute)
  combineLocalDateTime rt (toDateString rt date timezone) (hours ++ ":" ++ minutes) timezone

/-- `startOfDay` of `event-template-generation.server.ts`. -/
def startOfLocalDay (date : Instant) : Instant := rt.setHours date 0 0 0 0

def endOfLocalDay (date : Instant) : Instant := rt.setHours date 23 59 59 999

/-- The date, and then a week later each. -/
def weeklyDates (current : Instant) : Nat → List Instant
  | 0 => []
  | count + 1 =>
    current :: weeklyDates (rt.localTime.setDate current (rt.localTime.getDate current + 7)) count

/-- The next `count` dates on the weekday, today's included. -/
def computeDatesForWeekdayCount (weekDay : Int) (count : Nat) (startFrom : Instant) : List Instant :=
  let base := startOfLocalDay rt startFrom
  let daysUntilTarget := (weekDay - rt.getDay base + 7).tmod 7
  weeklyDates rt (rt.localTime.setDate base (rt.localTime.getDate base + daysUntilTarget)) count

/-- A runtime on universal time, for times of day in decimal digits. -/
def Runtime.utc : Runtime where
  localTime := .utc
  getDay := fun t => (Calendar.dayOf t + 4) % 7
  setHours := fun t hours minutes seconds ms =>
    Calendar.msPerDay * Calendar.dayOf t + ((hours * 60 + minutes) * 60 + seconds) * 1000 + ms
  parseDate := fun text => do
    let day ← parseLocalDate .utc (String.ofList (text.toList.take 10))
    let hours ← decimalNumber (String.ofList ((text.toList.drop 11).take 2))
    let minutes ← decimalNumber (String.ofList ((text.toList.drop 14).take 2))
    return day + (hours.num * 60 + minutes.num) * 60 * 1000
  formatOffset := fun _ _ => "+00:00"
  dateParts := fun t _ =>
    (toString (LocalTime.utc.getFullYear t), padTwo (LocalTime.utc.getMonth t + 1),
      padTwo (LocalTime.utc.getDate t))
  formatEventDate := fun t _ _ => localDateString .utc t

example : combineLocalDateTime .utc "1970-01-02" "19:30" "UTC" = some ((24 + 19) * 3600000 + 1800000) := by
  decide +kernel

end Unitae.Events
