import Mathlib.Data.List.TakeWhile
import Unitae.Base.Calendar

/-!
# Dates as text

An instant, in milliseconds since the epoch, as the text `YYYY-MM-DDTHH:mm:ss.sssZ` of ISO 8601, with a
sign and six digits for a year outside 0 to 9999. A text that was written is read back as the same
instant: `parse_format`.
-/

namespace IsoDate

open Calendar

/-! ## Fields of digits -/

/-- A number in at least `width` digits. -/
def padded (width n : Nat) : List Char :=
  List.replicate (width - (Nat.toDigits 10 n).length) '0' ++ Nat.toDigits 10 n

/-- The number at the front, if the separator follows it, and the text after that. -/
def readField (sep : Char) (cs : List Char) : Option (Nat × List Char) :=
  match cs.dropWhile Char.isDigit with
  | [] => none
  | c :: rest =>
    if c = sep then some (Nat.ofDigitChars 10 (cs.takeWhile Char.isDigit) 0, rest) else none

theorem isDigit_of_mem_padded {width n : Nat} {c : Char} (h : c ∈ padded width n) :
    c.isDigit = true := by
  rcases List.mem_append.mp h with hzero | hdigit
  · rw [List.eq_of_mem_replicate hzero]
    decide
  · exact Nat.isDigit_of_mem_toDigits (by decide) (by decide) hdigit

theorem ofDigitChars_padded (width n : Nat) : Nat.ofDigitChars 10 (padded width n) 0 = n := by
  rw [padded, Nat.ofDigitChars_append, Nat.ofDigitChars_replicate_zero, Nat.mul_zero]
  exact Nat.ofDigitChars_ten_toDigits

/-- A field that was written is read, whatever comes after it. -/
theorem readField_padded {sep : Char} (hsep : sep.isDigit = false) (width n : Nat)
    (rest : List Char) : readField sep (padded width n ++ sep :: rest) = some (n, rest) := by
  have hdigits : ∀ c ∈ padded width n, c.isDigit = true := fun c hc => isDigit_of_mem_padded hc
  have hstop : ¬sep.isDigit = true := by
    rw [hsep]
    exact Bool.false_ne_true
  unfold readField
  rw [List.dropWhile_append_of_pos hdigits, List.takeWhile_append_of_pos hdigits,
    List.dropWhile_cons_of_neg hstop, List.takeWhile_cons_of_neg hstop, List.append_nil]
  show (if sep = sep then some (_, rest) else none) = _
  rw [if_pos rfl, ofDigitChars_padded]

theorem head_padded (width n : Nat) (rest : List Char) :
    ∃ c, (padded width n ++ rest).head? = some c ∧ c.isDigit = true := by
  cases hfield : padded width n with
  | nil =>
    have hempty : Nat.toDigits 10 n = [] := (List.append_eq_nil_iff.mp hfield).2
    exact absurd hempty Nat.toDigits_ne_nil
  | cons c cs =>
    have hmem : c ∈ padded width n := by
      rw [hfield]
      exact List.mem_cons_self
    exact ⟨c, rfl, isDigit_of_mem_padded hmem⟩

/-! ## The year -/

def yearText (year : Int) : List Char :=
  if 0 ≤ year ∧ year ≤ 9999 then padded 4 year.toNat
  else if year < 0 then '-' :: padded 6 year.natAbs
  else '+' :: padded 6 year.natAbs

def readYear (cs : List Char) : Option (Int × List Char) :=
  if cs.head? = some '-' then (readField '-' cs.tail).map fun r => (-(r.1 : Int), r.2)
  else if cs.head? = some '+' then (readField '-' cs.tail).map fun r => ((r.1 : Int), r.2)
  else (readField '-' cs).map fun r => ((r.1 : Int), r.2)

theorem readYear_yearText (year : Int) (rest : List Char) :
    readYear (yearText year ++ '-' :: rest) = some (year, rest) := by
  have hfield : ∀ width n, readField '-' (padded width n ++ '-' :: rest) = some (n, rest) :=
    fun width n => readField_padded (by decide) width n rest
  unfold yearText readYear
  by_cases hplain : 0 ≤ year ∧ year ≤ 9999
  · rw [if_pos hplain]
    -- four digits: neither sign is at the front
    obtain ⟨c, hc, hdigit⟩ := head_padded 4 year.toNat ('-' :: rest)
    have hsign : ∀ sign : Char, sign.isDigit = false → c ≠ sign := by
      intro sign hsign heq
      rw [heq, hsign] at hdigit
      exact Bool.false_ne_true hdigit
    have hminus := hsign '-' (by decide)
    have hplus := hsign '+' (by decide)
    rw [hc, if_neg (by simpa using hminus), if_neg (by simpa using hplus), hfield, Option.map_some,
      Int.toNat_of_nonneg hplain.1]
  · rw [if_neg hplain]
    by_cases hneg : year < 0
    · have hvalue : -(year.natAbs : Int) = year := by omega
      rw [if_pos hneg, List.cons_append, if_pos List.head?_cons, List.tail_cons, hfield,
        Option.map_some, hvalue]
    · have hvalue : (year.natAbs : Int) = year := by omega
      rw [if_neg hneg, List.cons_append, List.head?_cons, if_neg (by decide), if_pos rfl,
        List.tail_cons, hfield, Option.map_some, hvalue]

/-! ## Instants -/

/-- The fields of a day, which are positive. -/
theorem civilFromDays_pos (days : Int) :
    0 < (civilFromDays days).2.1 ∧ 0 < (civilFromDays days).2.2 := by
  have hbounds := @yearOfEra_bounds (days + 719468 - (days + 719468) / 146097 * 146097) (by omega)
    (by omega)
  unfold civilFromDays
  simp only at hbounds ⊢
  generalize hera : (days + 719468) / 146097 = era at hbounds ⊢
  generalize hdoe : days + 719468 - era * 146097 = dayOfEra at hbounds ⊢
  generalize (dayOfEra - dayOfEra / 1460 + dayOfEra / 36524 - dayOfEra / 146096) / 365 = yearOfEra
    at hbounds ⊢
  generalize hdoy : dayOfEra - (365 * yearOfEra + yearOfEra / 4 - yearOfEra / 100) = dayOfYear
    at hbounds ⊢
  constructor
  · split <;> omega
  · omega

def formatTime (ms : Nat) : List Char :=
  padded 2 (ms / 3600000) ++ ':' :: (padded 2 (ms / 60000 % 60) ++
    ':' :: (padded 2 (ms / 1000 % 60) ++ '.' :: (padded 3 (ms % 1000) ++ ['Z'])))

def format (t : Int) : String :=
  let date := civilFromDays (dayOf t)
  String.ofList (yearText date.1 ++ '-' :: (padded 2 date.2.1.toNat ++
    '-' :: (padded 2 date.2.2.toNat ++ 'T' :: formatTime (t % msPerDay).toNat)))

def parseTime (cs : List Char) : Option Nat := do
  let (hour, cs) ← readField ':' cs
  let (minute, cs) ← readField ':' cs
  let (second, cs) ← readField '.' cs
  let (ms, cs) ← readField 'Z' cs
  if cs = [] then some (3600000 * hour + 60000 * minute + 1000 * second + ms) else none

def parse (text : String) : Option Int := do
  let (year, cs) ← readYear text.toList
  let (month, cs) ← readField '-' cs
  let (day, cs) ← readField 'T' cs
  let time ← parseTime cs
  return msPerDay * daysFromCivil year month day + time

theorem parseTime_formatTime (ms : Nat) : parseTime (formatTime ms) = some ms := by
  have hsum : 3600000 * (ms / 3600000) + 60000 * (ms / 60000 % 60) + 1000 * (ms / 1000 % 60) +
      ms % 1000 = ms := by omega
  unfold parseTime formatTime
  rw [readField_padded (by decide)]
  show (readField ':' _ >>= _) = _
  rw [readField_padded (by decide)]
  show (readField '.' _ >>= _) = _
  rw [readField_padded (by decide)]
  show (readField 'Z' _ >>= _) = _
  rw [readField_padded (by decide)]
  show (if ([] : List Char) = [] then some _ else none) = _
  rw [if_pos rfl, hsum]

/-- **What is written is read back.** -/
theorem parse_format (t : Int) : parse (format t) = some t := by
  obtain ⟨hmonth, hday⟩ := civilFromDays_pos (dayOf t)
  have hmonth' : ((civilFromDays (dayOf t)).2.1.toNat : Int) = (civilFromDays (dayOf t)).2.1 := by
    omega
  have hday' : ((civilFromDays (dayOf t)).2.2.toNat : Int) = (civilFromDays (dayOf t)).2.2 := by
    omega
  have hsplit : msPerDay * dayOf t + ((t % msPerDay).toNat : Int) = t := by
    unfold msPerDay dayOf msPerDay
    omega
  unfold parse format
  dsimp only
  rw [String.toList_ofList, readYear_yearText]
  show (readField '-' _ >>= _) = _
  rw [readField_padded (by decide)]
  show (readField 'T' _ >>= _) = _
  rw [readField_padded (by decide)]
  show (parseTime _ >>= _) = _
  rw [parseTime_formatTime]
  show some _ = _
  rw [hmonth', hday', daysFromCivil_civilFromDays, hsplit]

theorem format_ne_empty (t : Int) : format t ≠ "" := by
  intro h
  have hread := parse_format t
  rw [h, show parse "" = none by decide] at hread
  cases hread

example : format 1735689600000 = "2025-01-01T00:00:00.000Z" := by decide +kernel

end IsoDate
