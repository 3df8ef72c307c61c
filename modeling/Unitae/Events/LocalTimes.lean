import Unitae.Base.CivilText
import Unitae.Events.Clock

/-!
# Unitae — local times of an event (`shared/utils/event-time.ts`)

An event's date and time are entered on the congregation's clock and shown on it again. The offset is read
at the entered time taken as universal time, and once more at the instant that gives: `combine_eq` says
which instant comes out. Around one change of the offset that is an instant at which the clock shows what
was entered (`local_time_round_trip`); a second change within the day can lead it astray.
-/

namespace Unitae.Events

open Calendar CivilText

/-! ## `Intl` on a time zone -/

/-- The offset in force at an instant, in minutes, east positive. -/
abbrev Zone := Int → Int

namespace Zone

/-- What the clock shows, as the instant at which a clock on universal time shows it. -/
def wall (zone : Zone) (t : Int) : Int := t + 60000 * zone t

/-- `timeZoneName: 'longOffset'`. -/
def timeZoneName (zone : Zone) (t : Int) : String :=
  if zone t = 0 then "GMT" else String.ofList ('G' :: 'M' :: 'T' :: utcOffset (zone t))

/-- Year, month and day; years before the first are counted back from it. -/
def dateParts (zone : Zone) (t : Int) : String × String × String :=
  let (year, month, day) := civilFromDays (dayOf (zone.wall t))
  (toString (if 0 < year then year else 1 - year), padTwo month, padTwo day)

/-- The minute of the day. -/
def minuteOfDay (zone : Zone) (t : Int) : Nat := ((zone.wall t % msPerDay) / 60000).toNat

/-- Hours and minutes, from `00:00` to `23:59`. -/
def timeText (zone : Zone) (t : Int) : String :=
  padTwo (zone.minuteOfDay t / 60 : Nat) ++ ":" ++ padTwo (zone.minuteOfDay t % 60 : Nat)

end Zone

/-! ## The code -/

/-- What follows the first `GMT`. -/
def afterGmt : List Char → Option (List Char)
  | 'G' :: 'M' :: 'T' :: rest => some rest
  | _ :: cs => afterGmt cs
  | [] => none

/-- `[+-]\d{2}:\d{2}`. -/
def isOffset (cs : List Char) : Bool :=
  match cs with
  | [sign, h₁, h₂, colon, m₁, m₂] =>
    (sign == '+' || sign == '-') && h₁.isDigit && h₂.isDigit && colon == ':' && m₁.isDigit && m₂.isDigit
  | _ => false

/-- `formatOffset`, on the name that `Intl` gives the offset: the group that `OFFSET_REGEX` captures. -/
def formatOffset (timeZoneName : String) : String :=
  match afterGmt timeZoneName.toList with
  | none => "+00:00"
  | some rest => if isOffset (rest.take 6) then String.ofList (rest.take 6) else "+00:00"

/-- The runtime, with the times of day of `Intl` in its British format. -/
structure InputRuntime extends Runtime where
  formatTime : Instant → String → String

def formatDateForInput (rt : Runtime) (date : Instant) (timezone : String) : String :=
  let (year, month, day) := rt.dateParts date timezone
  year ++ "-" ++ month ++ "-" ++ day

def formatTimeForInput (rt : InputRuntime) (date : Instant) (timezone : String) : String :=
  rt.formatTime date timezone

/-- A server whose `Intl` knows these time zones. -/
def runtimeInZones (server : Runtime) (zones : String → Zone) : InputRuntime :=
  { server with
    parseDate := parseCivil
    formatOffset := fun t timezone => formatOffset ((zones timezone).timeZoneName t)
    dateParts := fun t timezone => (zones timezone).dateParts t
    formatTime := fun t timezone => (zones timezone).timeText t }

/-- Entered and shown again. -/
def RoundTrips (rt : InputRuntime) (dateStr timeStr timezone : String) : Prop :=
  ∃ t, combineLocalDateTime rt.toRuntime dateStr timeStr timezone = some t ∧
    formatDateForInput rt.toRuntime t timezone = dateStr ∧ formatTimeForInput rt t timezone = timeStr

/-! ## The texts -/

theorem padTwo_natCast (n : Nat) : padTwo (n : Int) = String.ofList (IsoDate.padded 2 n) := by
  have hpos : 0 < (Nat.toDigits 10 n).length := Nat.length_toDigits_pos
  have hlength : (toString (n : Int)).length = (Nat.toDigits 10 n).length := by
    rw [show toString (n : Int) = String.ofList (Nat.toDigits 10 n) from rfl]
    exact String.length_ofList
  have htext : toString (n : Int) = String.ofList (Nat.toDigits 10 n) := rfl
  unfold IsoDate.padded
  show (if (toString (n : Int)).length < 2 then "0" ++ toString (n : Int) else toString (n : Int)) = _
  rw [hlength, htext]
  by_cases hone : (Nat.toDigits 10 n).length < 2
  · have hpad : 2 - (Nat.toDigits 10 n).length = 1 := by omega
    rw [if_pos hone, hpad, ← String.toList_inj]
    simp only [String.toList_append, String.toList_ofList]
    rfl
  · have hpad : 2 - (Nat.toDigits 10 n).length = 0 := by omega
    rw [if_neg hone, hpad]
    rfl

theorem toString_year {year : Int} (h : 1000 ≤ year ∧ year ≤ 9999) :
    toString year = String.ofList (IsoDate.padded 4 year.toNat) := by
  obtain ⟨n, rfl⟩ := Int.eq_ofNat_of_zero_le (show 0 ≤ year by omega)
  have hlong : ¬(Nat.toDigits 10 n).length ≤ 3 := by
    rw [Nat.length_toDigits_le_iff (by decide) (by decide)]
    omega
  have hnone : 4 - (Nat.toDigits 10 n).length = 0 := by omega
  unfold IsoDate.padded
  rw [Int.toNat_natCast, hnone, List.replicate_zero, List.nil_append]
  rfl

theorem padded_two {n : Nat} (h : n < 100) :
    ∃ a b, IsoDate.padded 2 n = [a, b] ∧ a.isDigit = true ∧ b.isDigit = true := by
  have hlength := @length_padded 2 n (by decide) h
  obtain ⟨a, b, hdigits⟩ := List.length_eq_two.mp hlength
  have hmem : ∀ c ∈ IsoDate.padded 2 n, c.isDigit = true := fun c hc => IsoDate.isDigit_of_mem_padded hc
  rw [hdigits] at hmem
  exact ⟨a, b, hdigits, hmem a (by simp), hmem b (by simp)⟩

theorem formatOffset_timeZoneName {zone : Zone} {t : Int} (h : (zone t).natAbs < 1440) :
    formatOffset (zone.timeZoneName t) = String.ofList (utcOffset (zone t)) := by
  unfold Zone.timeZoneName
  by_cases hzero : zone t = 0
  · rw [if_pos hzero, hzero]
    decide +kernel
  · rw [if_neg hzero]
    obtain ⟨h₁, h₂, hhour, hh₁, hh₂⟩ := @padded_two ((zone t).natAbs / 60) (by omega)
    obtain ⟨m₁, m₂, hminute, hm₁, hm₂⟩ := @padded_two ((zone t).natAbs % 60) (by omega)
    have hoffset : utcOffset (zone t) = [if zone t < 0 then '-' else '+', h₁, h₂, ':', m₁, m₂] := by
      unfold utcOffset
      rw [hhour, hminute]
      rfl
    have hcaptured : isOffset (utcOffset (zone t)) = true := by
      rw [hoffset]
      unfold isOffset
      by_cases hneg : zone t < 0 <;> simp [hneg, hh₁, hh₂, hm₁, hm₂]
    have hall : (utcOffset (zone t)).take 6 = utcOffset (zone t) := by rw [hoffset]; rfl
    unfold formatOffset
    rw [String.toList_ofList]
    show (if isOffset ((utcOffset (zone t)).take 6) then _ else _) = _
    rw [hall, if_pos hcaptured]

section Clock

variable {zones : String → Zone} {timezone : String} {server : Runtime} {t : Int}

/-- The day that the clock shows. -/
def Zone.localDay (zone : Zone) (t : Int) : Int := dayOf (zone.wall t)

/-- The clock shows a full minute. -/
def Zone.FullMinute (zone : Zone) (t : Int) : Prop := zone.wall t % 60000 = 0

instance (zone : Zone) (t : Int) : Decidable (zone.FullMinute t) := inferInstanceAs (Decidable (_ = _))

/-- The year that the clock shows has four digits. -/
def Zone.FourDigitYear (zone : Zone) (t : Int) : Prop :=
  1000 ≤ (civilFromDays (zone.localDay t)).1 ∧ (civilFromDays (zone.localDay t)).1 ≤ 9999

theorem Zone.minuteOfDay_lt (zone : Zone) (t : Int) : zone.minuteOfDay t < 1440 := by
  unfold Zone.minuteOfDay msPerDay
  omega

theorem Zone.wall_eq {zone : Zone} (h : zone.FullMinute t) :
    zone.wall t = msPerDay * zone.localDay t + 60000 * zone.minuteOfDay t := by
  unfold Zone.FullMinute at h
  unfold Zone.localDay Zone.minuteOfDay dayOf msPerDay
  omega

theorem formatDateForInput_eq (h : (zones timezone).FourDigitYear t) :
    formatDateForInput (runtimeInZones server zones).toRuntime t timezone =
      String.ofList (CivilText.dateText ((zones timezone).localDay t)) := by
  obtain ⟨hmonth, hday⟩ := IsoDate.civilFromDays_pos ((zones timezone).localDay t)
  have hyear : 0 < (civilFromDays ((zones timezone).localDay t)).1 := by
    have := h.1
    omega
  have htwo : ∀ n : Int, 0 < n → padTwo n = String.ofList (IsoDate.padded 2 n.toNat) := by
    intro n hn
    rw [← padTwo_natCast, Int.toNat_of_nonneg (Int.le_of_lt hn)]
  show toString (if 0 < (civilFromDays ((zones timezone).localDay t)).1 then
      (civilFromDays ((zones timezone).localDay t)).1
    else 1 - (civilFromDays ((zones timezone).localDay t)).1) ++ "-" ++
      padTwo (civilFromDays ((zones timezone).localDay t)).2.1 ++ "-" ++
        padTwo (civilFromDays ((zones timezone).localDay t)).2.2 = _
  rw [if_pos hyear, toString_year h, htwo _ hmonth, htwo _ hday, ← String.toList_inj]
  unfold CivilText.dateText
  simp only [String.toList_append, String.toList_ofList, List.append_assoc]
  rfl

theorem formatTimeForInput_eq :
    formatTimeForInput (runtimeInZones server zones) t timezone =
      String.ofList (CivilText.timeText ((zones timezone).minuteOfDay t)) := by
  show padTwo ((zones timezone).minuteOfDay t / 60 : Nat) ++ ":" ++
    padTwo ((zones timezone).minuteOfDay t % 60 : Nat) = _
  rw [padTwo_natCast, padTwo_natCast, ← String.toList_inj]
  unfold CivilText.timeText
  simp only [String.toList_append, String.toList_ofList, List.append_assoc]
  rfl

/-- What the clock shows decides what is shown. -/
theorem format_congr {t' : Int} (h : (zones timezone).wall t = (zones timezone).wall t') :
    formatDateForInput (runtimeInZones server zones).toRuntime t timezone =
        formatDateForInput (runtimeInZones server zones).toRuntime t' timezone ∧
      formatTimeForInput (runtimeInZones server zones) t timezone =
        formatTimeForInput (runtimeInZones server zones) t' timezone := by
  have hdate : (zones timezone).dateParts t = (zones timezone).dateParts t' := by
    unfold Zone.dateParts
    rw [h]
  have htime : (zones timezone).timeText t = (zones timezone).timeText t' := by
    unfold Zone.timeText Zone.minuteOfDay
    rw [h]
  constructor
  · show (let (year, month, day) := (zones timezone).dateParts t; year ++ "-" ++ month ++ "-" ++ day) = _
    rw [hdate]
    rfl
  · exact htime

/-! ## The instant that comes out -/

/-- The date and the time with an offset are read as the instant a clock with it shows them. -/
theorem parse_entered {offset : Int} {offsetChars : List Char} (hyear : (zones timezone).FourDigitYear t)
    (hfull : (zones timezone).FullMinute t) (hoffset : readUtcOffset offsetChars = some offset) :
    parseCivil (formatDateForInput (runtimeInZones server zones).toRuntime t timezone ++ "T" ++
        formatTimeForInput (runtimeInZones server zones) t timezone ++ ":00" ++
          String.ofList offsetChars) =
      some ((zones timezone).wall t - 60000 * offset) := by
  have hentered : formatDateForInput (runtimeInZones server zones).toRuntime t timezone ++ "T" ++
      formatTimeForInput (runtimeInZones server zones) t timezone ++ ":00" ++ String.ofList offsetChars =
        String.ofList (civilText ((zones timezone).localDay t) ((zones timezone).minuteOfDay t)
          offsetChars) := by
    have hseconds : ":00".toList = ':' :: IsoDate.padded 2 0 := by decide +kernel
    rw [formatDateForInput_eq hyear, formatTimeForInput_eq, ← String.toList_inj]
    unfold civilText
    simp only [String.toList_append, String.toList_ofList, List.append_assoc, hseconds, List.cons_append]
    rfl
  have hyear' : 0 ≤ (civilFromDays ((zones timezone).localDay t)).1 ∧
      (civilFromDays ((zones timezone).localDay t)).1 ≤ 9999 := ⟨by have := hyear.1; omega, hyear.2⟩
  rw [hentered, parseCivil_civilText hyear' (Zone.minuteOfDay_lt _ t) hoffset, Zone.wall_eq hfull]
  congr 1
  omega

/-- `combineLocalDateTime`, on what the clock shows: the offset there, once refined. -/
theorem combine_eq (hyear : (zones timezone).FourDigitYear t) (hfull : (zones timezone).FullMinute t)
    (hshort : ∀ u, (zones timezone u).natAbs < 1440) :
    combineLocalDateTime (runtimeInZones server zones).toRuntime
        (formatDateForInput (runtimeInZones server zones).toRuntime t timezone)
        (formatTimeForInput (runtimeInZones server zones) t timezone) timezone =
      some ((zones timezone).wall t - 60000 * zones timezone
        ((zones timezone).wall t - 60000 * zones timezone ((zones timezone).wall t))) := by
  have hguess : (runtimeInZones server zones).parseDate
      (formatDateForInput (runtimeInZones server zones).toRuntime t timezone ++ "T" ++
        formatTimeForInput (runtimeInZones server zones) t timezone ++ ":00Z") =
      some ((zones timezone).wall t) := by
    have hzulu := @parse_entered zones timezone server t 0 ['Z'] hyear hfull rfl
    rw [Int.mul_zero, Int.sub_zero, String.append_assoc] at hzulu
    exact hzulu
  have hoffset : ∀ u, (runtimeInZones server zones).formatOffset u timezone =
      String.ofList (utcOffset (zones timezone u)) := fun u => formatOffset_timeZoneName (hshort u)
  have hread : ∀ u, (runtimeInZones server zones).parseDate
      (formatDateForInput (runtimeInZones server zones).toRuntime t timezone ++ "T" ++
        formatTimeForInput (runtimeInZones server zones) t timezone ++ ":00" ++
          String.ofList (utcOffset (zones timezone u))) =
      some ((zones timezone).wall t - 60000 * zones timezone u) :=
    fun u => parse_entered hyear hfull (readUtcOffset_utcOffset (hshort u))
  unfold combineLocalDateTime
  simp only [hguess, hoffset, hread, Option.bind_eq_bind, Option.bind_some]
  split
  · next hsame =>
    -- the same text is the same offset
    have hequal := utcOffset_inj (hshort _) (hshort _) (String.ofList_injective hsame)
    rw [hequal]
    rfl
  · rfl

/-! ## Around a change -/

/-- Within a day of an instant the zone is at two offsets at most. -/
def Zone.TwoOffsetsNear (zone : Zone) (instant : Int) : Prop :=
  ∀ t u v, (instant - msPerDay < t ∧ t < instant + msPerDay) →
    (instant - msPerDay < u ∧ u < instant + msPerDay) →
      (instant - msPerDay < v ∧ v < instant + msPerDay) →
        zone t = zone u ∨ zone u = zone v ∨ zone t = zone v

/-- **What was entered is shown again**, where the clock shows it at all and the zone is at two offsets at
most within a day of it. -/
theorem local_time_round_trip (hyear : (zones timezone).FourDigitYear t)
    (hfull : (zones timezone).FullMinute t) (hshort : ∀ u, (zones timezone u).natAbs < 1440)
    (htwo : (zones timezone).TwoOffsetsNear ((zones timezone).wall t)) :
    RoundTrips (runtimeInZones server zones)
      (formatDateForInput (runtimeInZones server zones).toRuntime t timezone)
      (formatTimeForInput (runtimeInZones server zones) t timezone) timezone := by
  refine ⟨_, combine_eq hyear hfull hshort, format_congr ?_⟩
  generalize zones timezone = zone at *
  obtain ⟨entered, hentered⟩ : ∃ entered, entered = zone.wall t := ⟨_, rfl⟩
  obtain ⟨candidate, hcandidate⟩ : ∃ candidate, candidate = entered - 60000 * zone entered := ⟨_, rfl⟩
  rw [← hentered] at htwo ⊢
  rw [← hcandidate]
  have hwall : entered = t + 60000 * zone t := hentered
  have hday : ∀ u, -msPerDay < 60000 * zone u ∧ 60000 * zone u < msPerDay := by
    intro u
    have := hshort u
    unfold msPerDay
    omega
  have hnear := htwo entered candidate t (by have := hday t; omega) (by have := hday entered; omega)
    (by have := hday t; omega)
  suffices hsettled : zone (entered - 60000 * zone candidate) = zone candidate by
    show entered - 60000 * zone candidate + 60000 * zone (entered - 60000 * zone candidate) = entered
    rw [hsettled]
    omega
  -- The two readings of the offset, and the one in force when the clock shows what was entered.
  rcases hnear with hsame | hsame | hsame
  · rw [← hsame, ← hcandidate]
    exact hsame.symm
  · rw [hsame, show entered - 60000 * zone t = t by omega]
  · have hthere : candidate = t := by
      rw [hcandidate, hsame]
      omega
    rw [hthere, show entered - 60000 * zone t = t by omega]

end Clock

/-- A zone that changes from one offset to another once within a day is at two. -/
theorem twoOffsetsNear_of_change {zone : Zone} {instant change before after : Int}
    (hbefore : ∀ t, instant - msPerDay < t → t < change → zone t = before)
    (hafter : ∀ t, change ≤ t → t < instant + msPerDay → zone t = after) :
    zone.TwoOffsetsNear instant := by
  have hvalue : ∀ t, instant - msPerDay < t ∧ t < instant + msPerDay →
      zone t = before ∨ zone t = after := by
    intro t ht
    by_cases hchange : t < change
    · exact .inl (hbefore t ht.1 hchange)
    · exact .inr (hafter t (by omega) ht.2)
  intro t u v ht hu hv
  have := hvalue t ht
  have := hvalue u hu
  have := hvalue v hv
  omega

/-! ## Clocks that change -/

/-- An hour ahead, and two from 29 March 2026, 1:00, on. -/
def springForward : Zone := fun t =>
  if t < msPerDay * daysFromCivil 2026 3 29 + 3600000 then 60 else 120

/-- The first minute after the hour that is left out comes back as it was entered. -/
theorem springForward_round_trip :
    RoundTrips (runtimeInZones .utc fun _ => springForward)
      (formatDateForInput (runtimeInZones .utc fun _ => springForward).toRuntime
        (msPerDay * daysFromCivil 2026 3 29 + 3600000) "Europe/Paris")
      (formatTimeForInput (runtimeInZones .utc fun _ => springForward)
        (msPerDay * daysFromCivil 2026 3 29 + 3600000) "Europe/Paris") "Europe/Paris" := by
  refine local_time_round_trip ⟨by decide +kernel, by decide +kernel⟩ (by decide +kernel) ?_ ?_
  · intro u
    show (springForward u).natAbs < 1440
    unfold springForward
    split <;> decide
  · exact twoOffsetsNear_of_change (fun t _ hbefore => if_pos hbefore)
      fun t hafter _ => if_neg (Int.not_lt.mpr hafter)

/-- Three hours ahead, then two, and an hour later one. -/
def fallBackTwice : Zone := fun t =>
  if t < -5400000 then 180 else if t < -1800000 then 120 else 60

/-- Midnight is shown while the zone is three hours ahead; the offset found after the second change leads to
the hour between the two. -/
theorem fallBackTwice_lost :
    ¬RoundTrips (runtimeInZones .utc fun _ => fallBackTwice)
      (formatDateForInput (runtimeInZones .utc fun _ => fallBackTwice).toRuntime (-10800000) "Zone")
      (formatTimeForInput (runtimeInZones .utc fun _ => fallBackTwice) (-10800000) "Zone") "Zone" := by
  have hshort : ∀ u, (fallBackTwice u).natAbs < 1440 := by
    intro u
    unfold fallBackTwice
    split
    · decide
    · split <;> decide
  have hfull : fallBackTwice.FullMinute (-10800000) := by decide +kernel
  have hyear : fallBackTwice.FourDigitYear (-10800000) := ⟨by decide +kernel, by decide +kernel⟩
  intro htrip
  obtain ⟨t, hcombine, -, htime⟩ := htrip
  have hresult : fallBackTwice.wall (-10800000) - 60000 * fallBackTwice
      (fallBackTwice.wall (-10800000) - 60000 * fallBackTwice (fallBackTwice.wall (-10800000))) =
        -7200000 := by decide +kernel
  have hcombined := @combine_eq (fun _ => fallBackTwice) "Zone" .utc (-10800000) hyear hfull hshort
  rw [hcombine, hresult] at hcombined
  rw [Option.some.inj hcombined] at htime
  have hshown : fallBackTwice.timeText (-7200000) ≠ fallBackTwice.timeText (-10800000) := by
    decide +kernel
  exact hshown htime

theorem not_roundTrips_of_none {rt : InputRuntime} {dateStr timeStr timezone : String}
    (h : combineLocalDateTime rt.toRuntime dateStr timeStr timezone = none) :
    ¬RoundTrips rt dateStr timeStr timezone := by
  intro htrip
  obtain ⟨t, hcombine, -, -⟩ := htrip
  rw [h] at hcombine
  cases hcombine

/-- Two changes an hour apart, a year of three digits, and an offset of a day: each at a full minute that the
clock shows. -/
theorem entered_times_lost :
    (fallBackTwice.FullMinute (-10800000) ∧
      ¬RoundTrips (runtimeInZones .utc fun _ => fallBackTwice)
        (formatDateForInput (runtimeInZones .utc fun _ => fallBackTwice).toRuntime (-10800000) "Zone")
        (formatTimeForInput (runtimeInZones .utc fun _ => fallBackTwice) (-10800000) "Zone") "Zone") ∧
    (Zone.FullMinute (fun _ => 0) (msPerDay * daysFromCivil 999 1 1) ∧
      ¬RoundTrips (runtimeInZones .utc fun _ _ => 0)
        (formatDateForInput (runtimeInZones .utc fun _ _ => 0).toRuntime
          (msPerDay * daysFromCivil 999 1 1) "UTC")
        (formatTimeForInput (runtimeInZones .utc fun _ _ => 0) (msPerDay * daysFromCivil 999 1 1) "UTC")
        "UTC") ∧
    (Zone.FullMinute (fun _ => 1440) 0 ∧
      ¬RoundTrips (runtimeInZones .utc fun _ _ => 1440)
        (formatDateForInput (runtimeInZones .utc fun _ _ => 1440).toRuntime 0 "Zone")
        (formatTimeForInput (runtimeInZones .utc fun _ _ => 1440) 0 "Zone") "Zone") := by
  refine ⟨⟨by decide +kernel, fallBackTwice_lost⟩, ⟨by decide +kernel, ?_⟩, by decide +kernel, ?_⟩
  · exact not_roundTrips_of_none (by decide +kernel)
  · exact not_roundTrips_of_none (by decide +kernel)

end Unitae.Events
