import Mathlib.Algebra.Group.Nat.Defs
import Unitae.Base.CivilMonths

/-!
# Civil times with an offset, as text

`YYYY-MM-DDTHH:mm:ss`, followed by `Z` or by the offset from universal time as `+HH:mm`: the text names an
instant. Fields have a fixed width. A field, an offset and a civil time that were written are read back:
`readFixed_padded`, `readUtcOffset_utcOffset`, `parseCivil_civilText`.
-/

namespace CivilText

open Calendar IsoDate

/-! ## Fields of a fixed width -/

/-- The number that the first `width` characters spell, and the text after them. -/
def readFixed (width : Nat) (cs : List Char) : Option (Nat × List Char) :=
  if (cs.take width).length = width ∧ (cs.take width).all Char.isDigit then
    some (Nat.ofDigitChars 10 (cs.take width) 0, cs.drop width)
  else none

/-- The text after the separator. -/
def readSep (sep : Char) : List Char → Option (List Char)
  | [] => none
  | c :: cs => if c = sep then some cs else none

theorem readSep_cons (sep : Char) (cs : List Char) : readSep sep (sep :: cs) = some cs := if_pos rfl

theorem length_padded {width n : Nat} (hwidth : 0 < width) (h : n < 10 ^ width) :
    (padded width n).length = width := by
  have hle : (Nat.toDigits 10 n).length ≤ width := (Nat.length_toDigits_le_iff (by decide) hwidth).mpr h
  unfold padded
  rw [List.length_append, List.length_replicate]
  omega

/-- A field that was written is read, whatever comes after it. -/
theorem readFixed_padded {width n : Nat} (hwidth : 0 < width) (h : n < 10 ^ width) (rest : List Char) :
    readFixed width (padded width n ++ rest) = some (n, rest) := by
  have hlength := length_padded hwidth h
  have hdigits : (padded width n).all Char.isDigit = true :=
    List.all_eq_true.mpr fun c hc => isDigit_of_mem_padded hc
  unfold readFixed
  rw [List.take_left' hlength, List.drop_left' hlength, if_pos ⟨hlength, hdigits⟩, ofDigitChars_padded]

/-! ## Offsets -/

/-- An offset in minutes, east positive. -/
def utcOffset (offset : Int) : List Char :=
  (if offset < 0 then '-' else '+') ::
    (padded 2 (offset.natAbs / 60) ++ ':' :: padded 2 (offset.natAbs % 60))

/-- Hours and minutes of an offset, to the end of the text. -/
def readUtcOffsetTime (cs : List Char) : Option Nat := do
  let (hour, cs) ← readFixed 2 cs
  let cs ← readSep ':' cs
  let (minute, cs) ← readFixed 2 cs
  if cs = [] ∧ hour ≤ 23 ∧ minute ≤ 59 then some (60 * hour + minute) else none

def readUtcOffset (cs : List Char) : Option Int :=
  match cs with
  | [] => none
  | sign :: rest =>
    if sign = 'Z' ∧ rest = [] then some 0
    else if sign = '+' then (readUtcOffsetTime rest).map fun minutes : Nat => (minutes : Int)
    else if sign = '-' then (readUtcOffsetTime rest).map fun minutes : Nat => -(minutes : Int)
    else none

theorem readUtcOffsetTime_padded {minutes : Nat} (h : minutes < 1440) :
    readUtcOffsetTime (padded 2 (minutes / 60) ++ ':' :: padded 2 (minutes % 60)) = some minutes := by
  have hsum : 60 * (minutes / 60) + minutes % 60 = minutes := by omega
  have hminutes : readFixed 2 (padded 2 (minutes % 60)) = some (minutes % 60, []) := by
    have := @readFixed_padded 2 (minutes % 60) (by decide) (by omega) []
    rwa [List.append_nil] at this
  unfold readUtcOffsetTime
  rw [readFixed_padded (by decide) (by omega)]
  simp only [Option.bind_eq_bind, Option.bind_some, readSep_cons, hminutes]
  rw [if_pos ⟨trivial, by omega, by omega⟩, hsum]

/-- An offset of less than a day is read back. -/
theorem readUtcOffset_utcOffset {offset : Int} (h : offset.natAbs < 1440) :
    readUtcOffset (utcOffset offset) = some offset := by
  have htime := readUtcOffsetTime_padded h
  unfold utcOffset readUtcOffset
  by_cases hneg : offset < 0
  · have hvalue : -(offset.natAbs : Int) = offset := by omega
    simp only [if_pos hneg, htime, Option.map_some, hvalue]
    rfl
  · have hvalue : (offset.natAbs : Int) = offset := by omega
    simp only [if_neg hneg, htime, Option.map_some, hvalue]
    rfl

theorem utcOffset_inj {offset offset' : Int} (h : offset.natAbs < 1440) (h' : offset'.natAbs < 1440)
    (heq : utcOffset offset = utcOffset offset') : offset = offset' := by
  have hread := readUtcOffset_utcOffset h
  rw [heq, readUtcOffset_utcOffset h'] at hread
  exact (Option.some.inj hread).symm

/-! ## Civil times -/

/-- The date of a day, of a year with four digits. -/
def dateText (day : Int) : List Char :=
  padded 4 (civilFromDays day).1.toNat ++ '-' :: (padded 2 (civilFromDays day).2.1.toNat ++
    '-' :: padded 2 (civilFromDays day).2.2.toNat)

/-- A minute of the day. -/
def timeText (minute : Nat) : List Char := padded 2 (minute / 60) ++ ':' :: padded 2 (minute % 60)

/-- Hours, minutes and seconds, and the text after them; midnight may be written as 24:00:00. -/
def readTime (cs : List Char) : Option (Nat × List Char) := do
  let (hour, cs) ← readFixed 2 cs
  let cs ← readSep ':' cs
  let (minute, cs) ← readFixed 2 cs
  let cs ← readSep ':' cs
  let (second, cs) ← readFixed 2 cs
  if minute ≤ 59 ∧ second ≤ 59 ∧ 3600 * hour + 60 * minute + second ≤ 86400 then
    some (3600 * hour + 60 * minute + second, cs)
  else none

/-- Year, month and day, and the text after them; a day the month has not runs over. -/
def readDate (cs : List Char) : Option (Int × List Char) := do
  let (year, cs) ← readFixed 4 cs
  let cs ← readSep '-' cs
  let (month, cs) ← readFixed 2 cs
  let cs ← readSep '-' cs
  let (day, cs) ← readFixed 2 cs
  if 1 ≤ month ∧ month ≤ 12 ∧ 1 ≤ day ∧ day ≤ 31 then some (daysFromCivil year month day, cs) else none

/-- The instant, in milliseconds since the epoch. -/
def parseCivil (text : String) : Option Int := do
  let (day, cs) ← readDate text.toList
  let cs ← readSep 'T' cs
  let (second, cs) ← readTime cs
  let offset ← readUtcOffset cs
  return msPerDay * day + 1000 * second - 60000 * offset

/-- A civil time: the day and the minute of it, with what says the offset. -/
def civilText (day : Int) (minute : Nat) (offset : List Char) : List Char :=
  dateText day ++ 'T' :: (timeText minute ++ ':' :: (padded 2 0 ++ offset))

section Civil

variable {day : Int} {minute : Nat}

theorem readDate_dateText (hyear : 0 ≤ (civilFromDays day).1 ∧ (civilFromDays day).1 ≤ 9999)
    (rest : List Char) : readDate (dateText day ++ rest) = some (day, rest) := by
  obtain ⟨hmonth₁, hday₁⟩ := civilFromDays_pos day
  have hmonth₂ := (civilFromDays_fields day).1
  have hday₂ := (dayInMonth_bounds day).2
  have hlong := firstDay_succ_bounds (monthOf day)
  unfold dayInMonth at hday₂
  have hback := daysFromCivil_civilFromDays day
  unfold dateText readDate
  simp only [List.append_assoc, List.cons_append]
  rw [readFixed_padded (by decide) (by omega)]
  simp only [Option.bind_eq_bind, Option.bind_some, readSep_cons]
  rw [readFixed_padded (by decide) (by omega)]
  simp only [Option.bind_some, readSep_cons]
  rw [readFixed_padded (by decide) (by omega)]
  simp only [Option.bind_some]
  rw [if_pos (by omega), Int.toNat_of_nonneg hyear.1, Int.toNat_of_nonneg (Int.le_of_lt hmonth₁),
    Int.toNat_of_nonneg (Int.le_of_lt hday₁), hback]

theorem readTime_timeText (hminute : minute < 1440) (rest : List Char) :
    readTime (timeText minute ++ ':' :: (padded 2 0 ++ rest)) = some (60 * minute, rest) := by
  have hsum : 3600 * (minute / 60) + 60 * (minute % 60) + 0 = 60 * minute := by omega
  unfold timeText readTime
  simp only [List.append_assoc, List.cons_append]
  rw [readFixed_padded (by decide) (by omega)]
  simp only [Option.bind_eq_bind, Option.bind_some, readSep_cons]
  rw [readFixed_padded (by decide) (by omega)]
  simp only [Option.bind_some, readSep_cons]
  rw [readFixed_padded (by decide) (by decide)]
  simp only [Option.bind_some]
  rw [if_pos (by omega), hsum]

/-- **A civil time is read as the instant at which a clock with the offset shows it.** -/
theorem parseCivil_civilText {offset : Int} {offsetChars : List Char}
    (hyear : 0 ≤ (civilFromDays day).1 ∧ (civilFromDays day).1 ≤ 9999) (hminute : minute < 1440)
    (hoffset : readUtcOffset offsetChars = some offset) :
    parseCivil (String.ofList (civilText day minute offsetChars)) =
      some (msPerDay * day + 60000 * (minute - offset)) := by
  have hms : msPerDay * day + 1000 * ((60 * minute : Nat) : Int) - 60000 * offset =
      msPerDay * day + 60000 * (minute - offset) := by
    push_cast
    omega
  unfold parseCivil civilText
  rw [String.toList_ofList, readDate_dateText hyear]
  simp only [Option.bind_eq_bind, Option.bind_some, readSep_cons]
  rw [readTime_timeText hminute]
  simp only [Option.bind_some, hoffset]
  rw [← hms]
  rfl

end Civil

end CivilText
