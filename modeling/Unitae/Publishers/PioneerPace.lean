import Mathlib.Algebra.Order.Ring.Rat
import Unitae.Base.Sorting
import Unitae.Publishers.Enrolments

/-!
# Unitae — the pace of a pioneer (`pioneer-pace.ts`)

From the months a pioneer reported, the months he was not enrolled and today's date, the figures of the
pioneers' board: how many enrolled months are over, what they were to bring, and what is left. A service
year runs from September to August; its months have the indices 0 to 11 (`MonthRef.idx`).

Amounts are rational: hours and rates are whole numbers, their averages are not. A quotient by zero is
no number, and makes the whole pace none.
-/

namespace Unitae.Publishers

/-! ## The service year -/

/-- September. -/
def firstMonthOfTheocraticYear : Int := 8

def monthsInYear : Int := 12

structure MonthRef where
  month : Int
  year : Int
deriving DecidableEq, Repr

def MonthRef.abs (m : MonthRef) : Int := absMonth m.month m.year

def toServiceYear (month year : Int) : Int :=
  if firstMonthOfTheocraticYear ≤ month then year else year - 1

/-- `%` takes the sign of its left operand. -/
def monthOfAbs (abs : Int) : MonthRef := ⟨abs.tmod monthsInYear, abs / monthsInYear⟩

def serviceYearMonths (serviceYear : Int) : List MonthRef :=
  (List.range 12).map fun (i : Nat) =>
    monthOfAbs (serviceYear * monthsInYear + firstMonthOfTheocraticYear + i)

def firstAbs (serviceYear : Int) : Int := absMonth firstMonthOfTheocraticYear serviceYear

/-- The index of a month in the service year. -/
def MonthRef.idx (serviceYear : Int) (m : MonthRef) : Int := m.abs - firstAbs serviceYear

/-- `getFullYear`, `getMonth` and `getDate` of a time. -/
structure Today where
  year : Int
  month : Int
  date : Int
deriving DecidableEq, Repr

def Today.abs (now : Today) : Int := absMonth now.month now.year

/-- The last month that is over, August once the year is. -/
def currentExpectedMonth (serviceYear : Int) (now : Today) : Option MonthRef :=
  let start := firstAbs serviceYear
  let last := start + monthsInYear - 1
  let previousCompleted := now.abs - 1
  if previousCompleted < start then none else some (monthOfAbs (min previousCompleted last))

/-! ## The input and the figures -/

structure PioneerMonth extends MonthRef where
  hours : Option Rat
  studies : Option Rat
  credit : Option Rat
deriving DecidableEq, Repr

structure PaceInput where
  serviceYear : Int
  monthlyRate : Rat
  months : List PioneerMonth
  now : Today
  enrolledSinceYearStart : Option Bool
  concluded : Option Bool
  notEnrolledMonths : Option (List MonthRef)
deriving DecidableEq, Repr

inductive RiskBucket where
  | green
  | amber
  | red
deriving DecidableEq, Repr

inductive ReportingStatus where
  | filed
  | awaiting
  | overdue
deriving DecidableEq, Repr

structure PioneerPace where
  elapsedEnrolled : Int
  reportedMonths : Nat
  targetToDate : Rat
  actualToDate : Rat
  creditToDate : Rat
  achievedToDate : Rat
  paceDelta : Rat
  remainingMonths : Int
  fullYearTarget : Rat
  requiredAvgToFinish : Rat
  recentAvg : Rat
  projectedYearEnd : Rat
  outOfReach : Bool
  riskBucket : RiskBucket
  reportingStatus : ReportingStatus
  monthlyHours : List (Option Rat)
  monthlyStudies : List (Option Rat)
  monthlyCredits : List (Option Rat)
deriving DecidableEq, Repr

/-! ## Risk and reporting -/

def RiskBucket.escalate : RiskBucket → RiskBucket
  | .green => .amber
  | .amber => .red
  | .red => .red

def riskBucketFor (paceDelta monthlyRate : Rat) (reportingStatus : ReportingStatus) : RiskBucket :=
  let base : RiskBucket :=
    if 0 ≤ paceDelta then .green else if -monthlyRate ≤ paceDelta then .amber else .red
  if reportingStatus = .overdue ∧ paceDelta ≤ 0 then base.escalate else base

def reportOverdueAfterDays : Int := 10

def reportingStatusFor (input : PaceInput) : ReportingStatus :=
  match currentExpectedMonth input.serviceYear input.now with
  | none => .awaiting
  | some expected =>
    if input.months.any (·.toMonthRef == expected) then .filed
    else
      let isImmediatelyPrevious := input.now.abs - 1 == expected.abs
      let withinGrace := isImmediatelyPrevious && input.now.date ≤ reportOverdueAfterDays
      if withinGrace then .awaiting else .overdue

/-! ## The enrolled span -/

structure EnrollmentWindow where
  reportedToDate : List PioneerMonth
  elapsedEnrolled : Int
  remainingMonths : Int
  fullYearTarget : Rat
deriving DecidableEq, Repr

structure WindowInput where
  sorted : List PioneerMonth
  serviceYear : Int
  monthlyRate : Rat
  currentIndex : Int
  enrolledSinceYearStart : Bool
  concluded : Bool
  notEnrolledMonths : List MonthRef

namespace WindowInput

variable (input : WindowInput)

def lastServedIndex : Int :=
  (input.sorted.getLast?.map (·.idx input.serviceYear)).getD (-1)

/-- What counts ends at the current month, or at the last month served. -/
def referenceIndex : Int := if input.concluded then input.lastServedIndex else input.currentIndex

def reportedToDate : List PioneerMonth :=
  if input.referenceIndex < 0 then []
  else input.sorted.filter fun m => m.idx input.serviceYear ≤ input.referenceIndex

/-- What counts starts in September, or at the first month reported. -/
def startIndex : Option Int :=
  if input.enrolledSinceYearStart then some 0
  else input.reportedToDate.head?.map (·.idx input.serviceYear)

def gapsInSpan : Nat :=
  match input.startIndex with
  | none => 0
  | some start => (input.notEnrolledMonths.filter fun m =>
      start ≤ m.idx input.serviceYear && m.idx input.serviceYear ≤ input.referenceIndex).length

def spanLength : Int :=
  match input.startIndex with
  | none => 0
  | some start => if 0 ≤ input.referenceIndex then input.referenceIndex - start + 1 else 0

end WindowInput

def resolveEnrollmentWindow (input : WindowInput) : EnrollmentWindow :=
  let elapsedEnrolled := max 0 (input.spanLength - input.gapsInSpan)
  let remainingMonths :=
    if input.concluded then 0
    else if input.currentIndex < 0 then monthsInYear else monthsInYear - 1 - input.currentIndex
  { reportedToDate := input.reportedToDate
    elapsedEnrolled := elapsedEnrolled
    remainingMonths := remainingMonths
    fullYearTarget := match input.startIndex with
      | none => 0
      | some _ => input.monthlyRate * (elapsedEnrolled + remainingMonths) }

/-! ## The pace -/

/-- `x / y`; by zero it is `Infinity` or `NaN`. -/
def quotient (x y : Rat) : Option Rat := if y = 0 then none else some (x / y)

def recentMonthsWindow : Nat := 3

def outOfReachFactor : Rat := 3 / 2

/-- `rows.slice(-n)`. -/
def lastRows {α : Type} (n : Nat) (rows : List α) : List α := rows.drop (rows.length - n)

/-- `rows.reduce((sum, m) => sum + value(m), 0)`. -/
def totalOf (value : PioneerMonth → Rat) (rows : List PioneerMonth) : Rat :=
  rows.foldl (fun sum m => sum + value m) 0

/-- A figure a month of the service year; of a month reported twice, the later one. -/
def align (serviceYear : Int) (sorted : List PioneerMonth) (value : PioneerMonth → Rat) :
    List (Option Rat) :=
  (serviceYearMonths serviceYear).map fun m => (sorted.findRev? fun r => r.abs == m.abs).map value

namespace PaceInput

variable (input : PaceInput)

def sorted : List PioneerMonth := sortBy (fun a b => compare a.abs b.abs) input.months

def currentIndex : Int :=
  match currentExpectedMonth input.serviceYear input.now with
  | none => -1
  | some expected => absMonth expected.month expected.year - firstAbs input.serviceYear

def window : WindowInput where
  sorted := input.sorted
  serviceYear := input.serviceYear
  monthlyRate := input.monthlyRate
  currentIndex := input.currentIndex
  enrolledSinceYearStart := input.enrolledSinceYearStart.getD false
  concluded := input.concluded.getD false
  notEnrolledMonths := input.notEnrolledMonths.getD []

end PaceInput

/-- What each month left is to bring for the year's goal. -/
def requiredAverage (span : EnrollmentWindow) (achievedToDate : Rat) : Option Rat :=
  if span.remainingMonths = 0 then some 0
  else (quotient (span.fullYearTarget - achievedToDate) span.remainingMonths).map (max 0)

/-- What the last three months brought, on average. -/
def recentAverage (reportedToDate : List PioneerMonth) : Option Rat :=
  let recent := lastRows recentMonthsWindow reportedToDate
  if recent.length = 0 then some 0
  else quotient (totalOf (·.hours.getD 0) recent) recent.length

/-- The figures, once the averages are there. -/
def paceOf (input : PaceInput) (span : EnrollmentWindow)
    (actualToDate creditToDate requiredAvgToFinish recentAvg : Rat) : PioneerPace :=
  let achievedToDate := actualToDate + creditToDate
  let targetToDate := input.monthlyRate * span.elapsedEnrolled
  let paceDelta := achievedToDate - targetToDate
  let reportingStatus := if input.concluded.getD false then .filed else reportingStatusFor input
  { elapsedEnrolled := span.elapsedEnrolled
    reportedMonths := span.reportedToDate.length
    targetToDate := targetToDate
    actualToDate := actualToDate
    creditToDate := creditToDate
    achievedToDate := achievedToDate
    paceDelta := paceDelta
    remainingMonths := span.remainingMonths
    fullYearTarget := span.fullYearTarget
    requiredAvgToFinish := requiredAvgToFinish
    recentAvg := recentAvg
    projectedYearEnd := achievedToDate + recentAvg * span.remainingMonths
    outOfReach := input.monthlyRate * outOfReachFactor < requiredAvgToFinish
    riskBucket := riskBucketFor paceDelta input.monthlyRate reportingStatus
    reportingStatus := reportingStatus
    monthlyHours := align input.serviceYear input.sorted (·.hours.getD 0)
    monthlyStudies := align input.serviceYear input.sorted (·.studies.getD 0)
    monthlyCredits := align input.serviceYear input.sorted (·.credit.getD 0) }

def computePioneerPace (input : PaceInput) : Option PioneerPace := do
  let span := resolveEnrollmentWindow input.window
  let actualToDate := totalOf (·.hours.getD 0) span.reportedToDate
  let creditToDate := totalOf (·.credit.getD 0) span.reportedToDate
  let requiredAvgToFinish ← requiredAverage span (actualToDate + creditToDate)
  let recentAvg ← recentAverage span.reportedToDate
  return paceOf input span actualToDate creditToDate requiredAvgToFinish recentAvg

/-! ## The months of a service year -/

section Calendar

variable {serviceYear : Int} {now : Today}

theorem abs_monthOfAbs {abs : Int} (h : 0 ≤ abs) : (monthOfAbs abs).abs = abs := by
  show abs / 12 * 12 + abs.tmod 12 = abs
  rw [Int.tmod_eq_emod_of_nonneg h]
  omega

theorem idx_monthOfAbs {i : Nat} (h : 0 ≤ serviceYear) :
    (monthOfAbs (serviceYear * monthsInYear + firstMonthOfTheocraticYear + i)).idx serviceYear = i := by
  have hnonneg : 0 ≤ serviceYear * 12 + 8 + (i : Int) := by omega
  show (monthOfAbs (serviceYear * 12 + 8 + i)).abs - (serviceYear * 12 + 8) = i
  rw [abs_monthOfAbs hnonneg]
  omega

theorem idx_of_mem {m : MonthRef} (h : 0 ≤ serviceYear) (hm : m ∈ serviceYearMonths serviceYear) :
    0 ≤ m.idx serviceYear ∧ m.idx serviceYear ≤ 11 := by
  obtain ⟨i, hi, rfl⟩ := List.mem_map.mp hm
  rw [idx_monthOfAbs h]
  have hlt := List.mem_range.mp hi
  omega

/-- The months of a service year are the calendar months that the roster files under it. -/
theorem mem_serviceYearMonths_iff {m : MonthRef} (h : 0 ≤ serviceYear) :
    m ∈ serviceYearMonths serviceYear ↔
      0 ≤ m.month ∧ m.month < 12 ∧ toServiceYear m.month m.year = serviceYear := by
  have hmonth : ∀ i : Nat, i < 12 → monthOfAbs (serviceYear * monthsInYear + firstMonthOfTheocraticYear + i) = m →
      m.month = (serviceYear * 12 + 8 + i) % 12 ∧ m.year = (serviceYear * 12 + 8 + i) / 12 := by
    rintro i hi rfl
    have hnonneg : 0 ≤ serviceYear * 12 + 8 + (i : Int) := by omega
    exact ⟨Int.tmod_eq_emod_of_nonneg hnonneg, rfl⟩
  have hfiled : toServiceYear m.month m.year = if 8 ≤ m.month then m.year else m.year - 1 := rfl
  rw [hfiled]
  constructor
  · intro hm
    obtain ⟨i, hi, heq⟩ := List.mem_map.mp hm
    have hlt := List.mem_range.mp hi
    obtain ⟨hmonth, hyear⟩ := hmonth i hlt heq
    split <;> omega
  · intro ⟨hlow, hhigh, hfiledYear⟩
    refine List.mem_map.mpr ⟨(m.year * 12 + m.month - (serviceYear * 12 + 8)).toNat, ?_, ?_⟩
    · rw [List.mem_range]
      split at hfiledYear <;> omega
    · have hindex : serviceYear * 12 + 8 + ((m.year * 12 + m.month - (serviceYear * 12 + 8)).toNat : Int) =
          m.year * 12 + m.month := by
        split at hfiledYear <;> omega
      have hnonneg : 0 ≤ m.year * 12 + m.month := by omega
      show (⟨(serviceYear * 12 + 8 + _).tmod 12, (serviceYear * 12 + 8 + _) / 12⟩ : MonthRef) = m
      have hparts : (m.year * 12 + m.month) % 12 = m.month ∧ (m.year * 12 + m.month) / 12 = m.year := by
        omega
      rw [hindex, Int.tmod_eq_emod_of_nonneg hnonneg, hparts.1, hparts.2]

/-- Counting the months of a span is taking the difference of its ends. -/
theorem countP_span {first last : Int} (h : 0 ≤ serviceYear) (hfirst : 0 ≤ first)
    (hlast : last ≤ 11) (hle : first ≤ last + 1) :
    (((serviceYearMonths serviceYear).countP fun m =>
      first ≤ m.idx serviceYear && m.idx serviceYear ≤ last : Nat) : Int) = last - first + 1 := by
  have hrange : ∀ n : Nat, (((List.range n).countP fun (i : Nat) =>
      first ≤ (i : Int) && (i : Int) ≤ last : Nat) : Int) = max 0 (min (last + 1) n - first) := by
    intro n
    induction n with
    | zero =>
      rw [List.range_zero, List.countP_nil]
      omega
    | succ n ih =>
      rw [List.range_succ, List.countP_append, Nat.cast_add, ih, List.countP_singleton]
      by_cases hin : first ≤ (n : Int) ∧ (n : Int) ≤ last
      · rw [if_pos (by simpa using hin)]
        push_cast
        omega
      · rw [if_neg (by simpa using hin)]
        push_cast
        omega
  rw [serviceYearMonths, List.countP_map]
  have hmonths : ((fun m : MonthRef => decide (first ≤ m.idx serviceYear) && decide (m.idx serviceYear ≤ last)) ∘
      fun i : Nat => monthOfAbs (serviceYear * monthsInYear + firstMonthOfTheocraticYear + i)) =
      fun i : Nat => decide (first ≤ (i : Int)) && decide ((i : Int) ≤ last) := by
    funext i
    rw [Function.comp_apply, idx_monthOfAbs h]
  rw [hmonths, hrange]
  omega

/-- The index of the current month: -1 before October, 11 once the year is over. -/
theorem currentIndex_eq {input : PaceInput} (h : 0 ≤ input.serviceYear) :
    input.currentIndex = max (-1) (min 11 (input.now.abs - 1 - firstAbs input.serviceYear)) := by
  unfold PaceInput.currentIndex currentExpectedMonth
  by_cases hbefore : input.now.abs - 1 < firstAbs input.serviceYear
  · rw [if_pos hbefore]
    show (-1 : Int) = _
    omega
  · rw [if_neg hbefore]
    have hstart : firstAbs input.serviceYear = input.serviceYear * 12 + 8 := rfl
    have hnonneg : 0 ≤ min (input.now.abs - 1) (firstAbs input.serviceYear + monthsInYear - 1) := by
      show 0 ≤ min (input.now.abs - 1) (firstAbs input.serviceYear + 12 - 1)
      omega
    show (monthOfAbs (min (input.now.abs - 1) (firstAbs input.serviceYear + monthsInYear - 1))).abs -
      firstAbs input.serviceYear = _
    rw [abs_monthOfAbs hnonneg]
    show min (input.now.abs - 1) (firstAbs input.serviceYear + 12 - 1) - _ = _
    omega

/-- A month of the service year is over when it lies before today's. -/
theorem idx_le_currentIndex {input : PaceInput} {m : MonthRef} (h : 0 ≤ input.serviceYear)
    (hm : m ∈ serviceYearMonths input.serviceYear) :
    m.idx input.serviceYear ≤ input.currentIndex ↔ m.abs < input.now.abs := by
  have hidx := idx_of_mem h hm
  rw [currentIndex_eq h]
  unfold MonthRef.idx at hidx ⊢
  omega

end Calendar

/-! ## What the span counts -/

namespace WindowInput

variable {input : WindowInput} {m : MonthRef}

/-- What a window is given: a year, the months reported in it in order, and an index of a month. -/
structure Sound (input : WindowInput) : Prop where
  year : 0 ≤ input.serviceYear
  sorted : input.sorted.Pairwise fun a b => a.abs ≤ b.abs
  reported : ∀ r ∈ input.sorted, r.toMonthRef ∈ serviceYearMonths input.serviceYear
  current : -1 ≤ input.currentIndex ∧ input.currentIndex ≤ 11

/-- From the start of what counts to its reference month. -/
def inSpan (input : WindowInput) (m : MonthRef) : Bool :=
  (input.startIndex.any fun start => start ≤ m.idx input.serviceYear) &&
    m.idx input.serviceYear ≤ input.referenceIndex

theorem lastServedIndex_cases (h : input.Sound) :
    (input.sorted = [] ∧ input.lastServedIndex = -1) ∨
      ∃ r ∈ input.sorted, input.lastServedIndex = r.idx input.serviceYear ∧
        ∀ x ∈ input.sorted, x.idx input.serviceYear ≤ r.idx input.serviceYear := by
  unfold lastServedIndex
  rcases List.eq_nil_or_concat input.sorted with hnil | ⟨init, r, hsplit⟩
  · exact .inl ⟨hnil, by rw [hnil]; rfl⟩
  · right
    rw [List.concat_eq_append] at hsplit
    have hsorted := h.sorted
    rw [hsplit] at hsorted ⊢
    refine ⟨r, by simp, by simp, fun x hx => ?_⟩
    rcases List.mem_append.mp hx with hinit | hlast
    · have hle := (List.pairwise_append.mp hsorted).2.2 x hinit r List.mem_cons_self
      unfold MonthRef.idx
      omega
    · rw [List.mem_singleton.mp hlast]

theorem referenceIndex_bounds (h : input.Sound) :
    -1 ≤ input.referenceIndex ∧ input.referenceIndex ≤ 11 := by
  unfold referenceIndex
  split
  · rcases lastServedIndex_cases h with ⟨-, heq⟩ | ⟨r, hr, heq, -⟩
    · rw [heq]
      omega
    · have hidx := idx_of_mem h.year (h.reported r hr)
      rw [heq]
      omega
  · exact h.current

theorem le_referenceIndex (h : input.Sound) (hm : m ∈ serviceYearMonths input.serviceYear) :
    m.idx input.serviceYear ≤ input.referenceIndex ↔
      if input.concluded then ∃ r ∈ input.sorted, m.abs ≤ r.abs
      else m.idx input.serviceYear ≤ input.currentIndex := by
  unfold referenceIndex
  split
  · have hidx := idx_of_mem h.year hm
    rcases lastServedIndex_cases h with ⟨hnil, heq⟩ | ⟨r, hr, heq, hmax⟩
    · rw [heq, hnil]
      constructor
      · omega
      · rintro ⟨_, hmem, _⟩
        cases hmem
    · rw [heq]
      constructor
      · intro hle
        refine ⟨r, hr, ?_⟩
        unfold MonthRef.idx at hle
        omega
      · rintro ⟨x, hx, hle⟩
        have hlast := hmax x hx
        unfold MonthRef.idx at hlast ⊢
        omega
  · rfl

/-- The first month that counts: September, or the first one reported by the reference month. -/
theorem startIndex_cases (h : input.Sound) (href : 0 ≤ input.referenceIndex) :
    (input.enrolledSinceYearStart = true ∧ input.startIndex = some 0) ∨
    (input.enrolledSinceYearStart = false ∧ input.startIndex = none ∧
      ∀ r ∈ input.sorted, input.referenceIndex < r.idx input.serviceYear) ∨
    (input.enrolledSinceYearStart = false ∧ ∃ first ∈ input.sorted,
      first.idx input.serviceYear ≤ input.referenceIndex ∧
      input.startIndex = some (first.idx input.serviceYear) ∧
      ∀ r ∈ input.sorted, first.idx input.serviceYear ≤ r.idx input.serviceYear) := by
  unfold startIndex reportedToDate
  rw [if_neg (not_lt.mpr href)]
  cases hsince : input.enrolledSinceYearStart with
  | true => exact .inl ⟨rfl, rfl⟩
  | false =>
    right
    have hsorted := h.sorted
    revert hsorted
    generalize input.sorted = rows
    intro hsorted
    cases rows with
    | nil => exact .inl ⟨rfl, rfl, fun r hr => absurd hr List.not_mem_nil⟩
    | cons first rest =>
      obtain ⟨hfirst, -⟩ := List.pairwise_cons.mp hsorted
      have hmin : ∀ r ∈ first :: rest, first.idx input.serviceYear ≤ r.idx input.serviceYear := by
        intro r hr
        rcases List.mem_cons.mp hr with rfl | hlater
        · exact le_refl _
        · have hle := hfirst r hlater
          unfold MonthRef.idx
          omega
      by_cases hdue : first.idx input.serviceYear ≤ input.referenceIndex
      · refine .inr ⟨rfl, first, List.mem_cons_self, hdue, ?_, hmin⟩
        rw [List.filter_cons_of_pos (by simpa using hdue)]
        rfl
      · -- nothing is reported by then
        have hlate : ∀ r ∈ first :: rest, input.referenceIndex < r.idx input.serviceYear :=
          fun r hr => lt_of_lt_of_le (not_le.mp hdue) (hmin r hr)
        refine .inl ⟨rfl, ?_, hlate⟩
        rw [List.filter_eq_nil_iff.mpr fun r hr => by simpa using hlate r hr]
        rfl

/-- A month counts when it is neither before the first that counts nor after the last. -/
theorem inSpan_iff (h : input.Sound) (hm : m ∈ serviceYearMonths input.serviceYear) :
    input.inSpan m = true ↔
      (input.enrolledSinceYearStart = true ∨ ∃ r ∈ input.sorted, r.abs ≤ m.abs) ∧
      if input.concluded then ∃ r ∈ input.sorted, m.abs ≤ r.abs
      else m.idx input.serviceYear ≤ input.currentIndex := by
  have hidx := idx_of_mem h.year hm
  rw [← le_referenceIndex h hm, inSpan, Bool.and_eq_true, decide_eq_true_eq]
  refine and_congr_left fun hle => ?_
  have hcompare : ∀ r : MonthRef, r.idx input.serviceYear ≤ m.idx input.serviceYear ↔ r.abs ≤ m.abs := by
    intro r
    unfold MonthRef.idx
    omega
  rcases startIndex_cases h (hidx.1.trans hle) with
    ⟨hsince, hstart⟩ | ⟨hsince, hstart, hlate⟩ | ⟨hsince, first, hfirst, -, hstart, hmin⟩ <;>
    rw [hstart, hsince]
  · simpa using hidx.1
  · refine iff_of_false (by simp) ?_
    rintro (hcontra | ⟨r, hr, hrm⟩)
    · cases hcontra
    · exact absurd (((hcompare r.toMonthRef).mpr hrm).trans hle) (not_le.mpr (hlate r hr))
  · simp only [Option.any_some, decide_eq_true_eq, Bool.false_eq_true, false_or]
    constructor
    · intro hlow
      exact ⟨first, hfirst, (hcompare _).mp hlow⟩
    · rintro ⟨r, hr, hrm⟩
      exact (hmin r hr).trans ((hcompare _).mpr hrm)

/-- The length of the span is the number of its months. -/
theorem countP_inSpan (h : input.Sound) :
    (((serviceYearMonths input.serviceYear).countP input.inSpan : Nat) : Int) = input.spanLength := by
  have hbounds := referenceIndex_bounds h
  by_cases href : 0 ≤ input.referenceIndex
  · have hspan : ∀ start, input.startIndex = some start → input.spanLength = input.referenceIndex - start + 1 := by
      intro start hstart
      rw [spanLength, hstart]
      exact if_pos href
    have hcount : ∀ start, input.startIndex = some start → 0 ≤ start → start ≤ input.referenceIndex + 1 →
        (((serviceYearMonths input.serviceYear).countP input.inSpan : Nat) : Int) = input.spanLength := by
      intro start hstart hnonneg hle
      rw [hspan start hstart, ← countP_span h.year hnonneg hbounds.2 hle]
      congr 2
      funext m
      rw [inSpan, hstart]
      rfl
    rcases startIndex_cases h href with ⟨-, hstart⟩ | ⟨-, hstart, -⟩ | ⟨-, first, hfirst, hdue, hstart, -⟩
    · exact hcount 0 hstart (le_refl _) (by omega)
    · rw [spanLength, hstart]
      show _ = (0 : Int)
      rw [Nat.cast_eq_zero, List.countP_eq_zero]
      intro m _
      rw [inSpan, hstart]
      simp
    · have hidx := idx_of_mem h.year (h.reported first hfirst)
      exact hcount _ hstart hidx.1 (by omega)
  · -- before the first month is over nothing counts
    have hzero : input.spanLength = 0 := by
      unfold spanLength
      split
      · rfl
      · exact if_neg href
    rw [hzero, Nat.cast_eq_zero, List.countP_eq_zero]
    intro m hm
    have hidx := idx_of_mem h.year hm
    have hout : ¬m.idx input.serviceYear ≤ input.referenceIndex := by omega
    simp [inSpan, hout]

/-- **The elapsed enrolled months are the months of the span that are not gaps.** -/
theorem elapsedEnrolled_eq (h : input.Sound) {enrolled : MonthRef → Bool}
    (hgaps : input.notEnrolledMonths = (serviceYearMonths input.serviceYear).filter fun m => !enrolled m) :
    (resolveEnrollmentWindow input).elapsedEnrolled =
      (serviceYearMonths input.serviceYear).countP fun m => input.inSpan m && enrolled m := by
  have hbounds := referenceIndex_bounds h
  have hgapsInSpan : input.gapsInSpan =
      (serviceYearMonths input.serviceYear).countP fun m => input.inSpan m && !enrolled m := by
    unfold gapsInSpan
    split
    · next hstart =>
      refine (List.countP_eq_zero.mpr fun m _ => ?_).symm
      simp [inSpan, hstart]
    · next start hstart =>
      rw [hgaps, List.filter_filter, ← List.countP_eq_length_filter]
      refine List.countP_congr fun m _ => ?_
      simp [inSpan, hstart]
  have hsplit : (serviceYearMonths input.serviceYear).countP input.inSpan =
      ((serviceYearMonths input.serviceYear).countP fun m => input.inSpan m && enrolled m) +
        (serviceYearMonths input.serviceYear).countP fun m => input.inSpan m && !enrolled m := by
    induction serviceYearMonths input.serviceYear with
    | nil => rfl
    | cons m months ih =>
      rw [List.countP_cons, List.countP_cons, List.countP_cons, ih]
      cases input.inSpan m <;> cases enrolled m <;> simp <;> omega
  have hspan := countP_inSpan h
  show max 0 (input.spanLength - input.gapsInSpan) = _
  omega

end WindowInput

/-! ## The figures -/

theorem quotient_of_ne {x y : Rat} (h : y ≠ 0) : quotient x y = some (x / y) := if_neg h

theorem requiredAverage_total (span : EnrollmentWindow) (achievedToDate : Rat) :
    ∃ average, requiredAverage span achievedToDate = some average := by
  unfold requiredAverage
  split
  · exact ⟨0, rfl⟩
  · next hne =>
    have hcast : (span.remainingMonths : Rat) ≠ 0 := by simpa using hne
    exact ⟨_, by rw [quotient_of_ne hcast]; rfl⟩

theorem recentAverage_total (reportedToDate : List PioneerMonth) :
    ∃ average, recentAverage reportedToDate = some average := by
  by_cases hnone : (lastRows recentMonthsWindow reportedToDate).length = 0
  · exact ⟨0, if_pos hnone⟩
  · have hcast : ((lastRows recentMonthsWindow reportedToDate).length : Rat) ≠ 0 :=
      Nat.cast_ne_zero.mpr hnone
    exact ⟨_, (if_neg hnone).trans (quotient_of_ne hcast)⟩

/-- **Nothing is divided by zero**, whatever the input; the figures of the span are the window's. -/
theorem computePioneerPace_total (input : PaceInput) :
    ∃ pace, computePioneerPace input = some pace ∧
      pace.elapsedEnrolled = (resolveEnrollmentWindow input.window).elapsedEnrolled ∧
      pace.remainingMonths = (resolveEnrollmentWindow input.window).remainingMonths ∧
      pace.targetToDate = input.monthlyRate * pace.elapsedEnrolled := by
  let span := resolveEnrollmentWindow input.window
  let actualToDate := totalOf (·.hours.getD 0) span.reportedToDate
  let creditToDate := totalOf (·.credit.getD 0) span.reportedToDate
  obtain ⟨required, hrequired⟩ := requiredAverage_total span (actualToDate + creditToDate)
  obtain ⟨average, haverage⟩ := recentAverage_total span.reportedToDate
  refine ⟨paceOf input span actualToDate creditToDate required average, ?_, rfl, rfl, rfl⟩
  show (requiredAverage span (actualToDate + creditToDate)).bind (fun required =>
    (recentAverage span.reportedToDate).bind fun average =>
      some (paceOf input span actualToDate creditToDate required average)) = _
  rw [hrequired, Option.bind_some, haverage, Option.bind_some]

end Unitae.Publishers
