import Unitae.Base.Listing
import Unitae.Publishers.EnrolmentPeriods
import Unitae.Publishers.Stints

/-!
# Unitae — the plan of a pioneer's year (`pioneer-enrolment-pace.ts`)

The plan says from a member's stints which type he is listed under, which months of the year count for it
and whether he has concluded; the pace is computed from the plan. The enrolled months that are over are
the months over that a stint of the listed type covers, with two exceptions that the pace makes by
design: a pioneer who was not enrolled in September counts from his first report, and one who has
concluded counts up to his last (`pace_counts`). The roster passes a calendar year and the reports of its
service year (`mem_serviceYearMonths_iff`).
-/

namespace Unitae.Publishers

/-! ## The plan -/

/-- A reported month, one row a month. -/
structure EnrolmentActualMonth extends MonthRef where
  type : PublisherType
  hours : Option Rat
  studies : Option Rat
  creditHours : Option Rat
deriving DecidableEq, Repr

structure EnrolmentPlan where
  rosterType : PublisherType
  isAuxiliary : Bool
  ongoing : Bool
  months : List PioneerMonth
  enrolledMonths : List MonthRef
  enrolledSinceYearStart : Bool
  concluded : Bool
  notEnrolledMonths : List MonthRef
  currentMonthlyGoal : Option Int
deriving DecidableEq, Repr

/-- `none` is `-Infinity`. -/
def latestEnrolledAbs (stint : EnrolmentPeriod) (serviceYear : Int) : Option Int :=
  (enrolledMonthsInServiceYear stint.toMonthRange serviceYear).getLast?.map (·.abs)

/-- `a > b`, of numbers or `-Infinity`. -/
def exceeds : Option Int → Option Int → Bool
  | some a, some b => b < a
  | some _, none => true
  | none, _ => false

/-- The stint of the latest enrolled month, the first of several. -/
def currentStint (serviceYear : Int) (first : EnrolmentPeriod) (rest : List EnrolmentPeriod) :
    EnrolmentPeriod :=
  rest.foldl (fun acc e =>
    if exceeds (latestEnrolledAbs e serviceYear) (latestEnrolledAbs acc serviceYear) then e else acc)
    first

/-- `enrolledMonths` and `enrolledAbs`, as the loop fills them. -/
structure EnrolledMonths where
  months : List MonthRef
  abs : List Int
deriving DecidableEq, Repr

def EnrolledMonths.add (enrolled : EnrolledMonths) (m : MonthRef) : EnrolledMonths :=
  if enrolled.abs.contains m.abs then enrolled
  else ⟨enrolled.months ++ [m], enrolled.abs ++ [m.abs]⟩

def enrolledMonthsOf (serviceYear : Int) (rosterStints : List EnrolmentPeriod) : EnrolledMonths :=
  rosterStints.foldl (fun enrolled stint =>
    (enrolledMonthsInServiceYear stint.toMonthRange serviceYear).foldl EnrolledMonths.add enrolled)
    ⟨[], []⟩

/-- The plan of a member with a stint in the year. -/
def rosterPlan (stintsInSY : List EnrolmentPeriod) (current : EnrolmentPeriod)
    (activities : List EnrolmentActualMonth) (serviceYear : Int) : EnrolmentPlan :=
  let rosterType := current.type
  let rosterStints := stintsInSY.filter fun e => e.type == rosterType
  let enrolled := enrolledMonthsOf serviceYear rosterStints
  let rosterOngoing := rosterStints.any fun e => isOngoing e.toMonthRange
  let latestActivityAbs := (activities.map fun a => a.abs).max?
  { rosterType := rosterType
    isAuxiliary := isAuxiliaryType rosterType
    ongoing := rosterOngoing
    months := (activities.filter fun a => a.type == rosterType).map fun a =>
      { month := a.month, year := a.year, hours := a.hours, studies := a.studies, credit := a.creditHours }
    enrolledMonths := sortBy (fun a b => compare a.abs b.abs) enrolled.months
    enrolledSinceYearStart :=
      enrolled.abs.contains (absMonth firstMonthOfTheocraticYear serviceYear)
    concluded := !rosterOngoing && latestActivityAbs.any fun latest => !enrolled.abs.contains latest
    notEnrolledMonths := (serviceYearMonths serviceYear).filter fun m => !enrolled.abs.contains m.abs
    currentMonthlyGoal := current.monthlyGoal }

/-- A standing type without a stint this year. -/
def barePlan (memberType : PublisherType) : EnrolmentPlan where
  rosterType := memberType
  isAuxiliary := isAuxiliaryType memberType
  ongoing := true
  months := []
  enrolledMonths := []
  enrolledSinceYearStart := false
  concluded := false
  notEnrolledMonths := []
  currentMonthlyGoal := none

def planFromEnrolments (enrolments : List EnrolmentPeriod) (activities : List EnrolmentActualMonth)
    (serviceYear : Int) (memberType : PublisherType) : Option EnrolmentPlan :=
  let stintsInSY := enrolments.filter fun e =>
    0 < (enrolledMonthsInServiceYear e.toMonthRange serviceYear).length
  match stintsInSY with
  | [] => if isPioneerType memberType = false then none else some (barePlan memberType)
  | first :: rest =>
    some (rosterPlan stintsInSY (currentStint serviceYear first rest) activities serviceYear)

/-- The input of the pace, as the roster makes it of the plan. -/
def EnrolmentPlan.paceInput (plan : EnrolmentPlan) (serviceYear : Int) (monthlyRate : Rat)
    (now : Today) : PaceInput where
  serviceYear := serviceYear
  monthlyRate := monthlyRate
  months := plan.months
  now := now
  enrolledSinceYearStart := some plan.enrolledSinceYearStart
  concluded := some plan.concluded
  notEnrolledMonths := some plan.notEnrolledMonths

/-! ## The months of the listed type -/

/-- A stint of the type covers the month. -/
def coveredAs (enrolments : List EnrolmentPeriod) (type : PublisherType) (m : MonthRef) : Bool :=
  enrolments.any fun e => e.type == type && coversMonth e.toMonthRange m.month m.year

section Plan

variable {enrolments : List EnrolmentPeriod} {activities : List EnrolmentActualMonth}
  {serviceYear : Int} {memberType : PublisherType} {plan : EnrolmentPlan}

theorem mem_add {enrolled : EnrolledMonths} {m : MonthRef} {abs : Int} :
    abs ∈ (enrolled.add m).abs ↔ abs ∈ enrolled.abs ∨ abs = m.abs := by
  unfold EnrolledMonths.add
  split
  · next hseen =>
    refine ⟨.inl, fun h => h.elim id ?_⟩
    rintro rfl
    exact List.contains_iff_mem.mp hseen
  · rw [List.mem_append, List.mem_singleton]

theorem mem_foldl_add {months : List MonthRef} {enrolled : EnrolledMonths} {abs : Int} :
    abs ∈ (months.foldl EnrolledMonths.add enrolled).abs ↔
      abs ∈ enrolled.abs ∨ ∃ m ∈ months, m.abs = abs := by
  induction months generalizing enrolled with
  | nil => simp
  | cons m months ih =>
    rw [List.foldl_cons, ih, mem_add, List.exists_mem_cons_iff, or_assoc, @eq_comm _ abs]

theorem mem_enrolledMonthsOf {rosterStints : List EnrolmentPeriod} {abs : Int} :
    abs ∈ (enrolledMonthsOf serviceYear rosterStints).abs ↔
      ∃ e ∈ rosterStints, ∃ m ∈ enrolledMonthsInServiceYear e.toMonthRange serviceYear, m.abs = abs := by
  suffices hfrom : ∀ (stints : List EnrolmentPeriod) (enrolled : EnrolledMonths),
      abs ∈ (stints.foldl (fun enrolled stint =>
        (enrolledMonthsInServiceYear stint.toMonthRange serviceYear).foldl EnrolledMonths.add enrolled)
        enrolled).abs ↔ abs ∈ enrolled.abs ∨
          ∃ e ∈ stints, ∃ m ∈ enrolledMonthsInServiceYear e.toMonthRange serviceYear, m.abs = abs by
    rw [enrolledMonthsOf, hfrom]
    simp
  intro stints
  induction stints with
  | nil => intro enrolled; simp
  | cons e stints ih =>
    intro enrolled
    rw [List.foldl_cons, ih, mem_foldl_add, List.exists_mem_cons_iff, or_assoc]

/-- Whether a month is covered is a matter of its number. -/
theorem coversMonth_congr {period : MonthRange} {m m' : MonthRef} (h : m.abs = m'.abs) :
    coversMonth period m.month m.year = coversMonth period m'.month m'.year := by
  have habs : absMonth m.month m.year = absMonth m'.month m'.year := h
  unfold coversMonth
  rw [habs]

/-- A month of the year is in the set when a stint of the type covers it. -/
theorem contains_enrolled {type : PublisherType} {m : MonthRef}
    (hm : m ∈ serviceYearMonths serviceYear) :
    (enrolledMonthsOf serviceYear ((enrolments.filter fun e =>
      0 < (enrolledMonthsInServiceYear e.toMonthRange serviceYear).length).filter
        fun e => e.type == type)).abs.contains m.abs = coveredAs enrolments type m := by
  rw [Bool.eq_iff_iff, List.contains_iff_mem, mem_enrolledMonthsOf, coveredAs, List.any_eq_true]
  constructor
  · rintro ⟨e, he, m', hm', habs⟩
    obtain ⟨hin, htype⟩ := List.mem_filter.mp he
    refine ⟨e, List.mem_of_mem_filter hin, ?_⟩
    rw [htype, Bool.true_and, ← coversMonth_congr habs]
    exact (List.mem_filter.mp hm').2
  · rintro ⟨e, he, hcovers⟩
    rw [Bool.and_eq_true] at hcovers
    have hmem : m ∈ enrolledMonthsInServiceYear e.toMonthRange serviceYear :=
      List.mem_filter.mpr ⟨hm, hcovers.2⟩
    refine ⟨e, List.mem_filter.mpr ⟨List.mem_filter.mpr ⟨he, ?_⟩, hcovers.1⟩, m, hmem, rfl⟩
    exact decide_eq_true (List.length_pos_of_mem hmem)

theorem september_mem (h : 0 ≤ serviceYear) :
    (⟨firstMonthOfTheocraticYear, serviceYear⟩ : MonthRef) ∈ serviceYearMonths serviceYear := by
  refine List.mem_map.mpr ⟨0, by decide, ?_⟩
  have hnonneg : 0 ≤ serviceYear * 12 + 8 + ((0 : Nat) : Int) := by omega
  show (⟨(serviceYear * 12 + 8 + ((0 : Nat) : Int)).tmod 12, (serviceYear * 12 + 8 + ((0 : Nat) : Int)) / 12⟩ :
    MonthRef) = ⟨8, serviceYear⟩
  rw [Int.tmod_eq_emod_of_nonneg hnonneg, MonthRef.mk.injEq]
  omega

theorem mem_months {r : PioneerMonth} {stintsInSY : List EnrolmentPeriod} {current : EnrolmentPeriod}
    (h : r ∈ (rosterPlan stintsInSY current activities serviceYear).months) :
    ∃ a ∈ activities, a.type = current.type ∧ a.toMonthRef = r.toMonthRef := by
  obtain ⟨a, ha, rfl⟩ := List.mem_map.mp h
  obtain ⟨hin, htype⟩ := List.mem_filter.mp ha
  exact ⟨a, hin, beq_iff_eq.mp htype, rfl⟩

theorem exists_month {a : EnrolmentActualMonth} {stintsInSY : List EnrolmentPeriod}
    {current : EnrolmentPeriod} (ha : a ∈ activities) (htype : a.type = current.type) :
    ∃ r ∈ (rosterPlan stintsInSY current activities serviceYear).months,
      r.toMonthRef = a.toMonthRef :=
  ⟨_, List.mem_map_of_mem (List.mem_filter.mpr ⟨ha, beq_iff_eq.mpr htype⟩), rfl⟩

theorem window_sorted (input : PaceInput) :
    input.window.sorted.Pairwise fun a b => a.abs ≤ b.abs := by
  have hcmp : Std.TransCmp fun a b : PioneerMonth => compare a.abs b.abs :=
    transCmp_comap compare fun r : PioneerMonth => r.abs
  have hsorted : (sortBy (fun a b : PioneerMonth => compare a.abs b.abs) input.months).Pairwise
      fun a b => (compare a.abs b.abs).isLE = true := sortBy_pairwise
  exact hsorted.imp fun h => Std.isLE_compare.mp h

/-- The pace of a plan is computed from a sound window. -/
theorem window_sound {monthlyRate : Rat} {now : Today} (hyear : 0 ≤ serviceYear)
    (hmonths : ∀ r ∈ plan.months, r.toMonthRef ∈ serviceYearMonths serviceYear) :
    (plan.paceInput serviceYear monthlyRate now).window.Sound where
  year := hyear
  sorted := window_sorted _
  reported := fun r hr => hmonths r (mem_sortBy.mp hr)
  current := by
    have hindex : (plan.paceInput serviceYear monthlyRate now).currentIndex = _ := currentIndex_eq hyear
    show -1 ≤ (plan.paceInput serviceYear monthlyRate now).currentIndex ∧
      (plan.paceInput serviceYear monthlyRate now).currentIndex ≤ 11
    omega

end Plan

/-! ## What the pace counts -/

section Counts

variable (enrolments : List EnrolmentPeriod) (activities : List EnrolmentActualMonth)
  (serviceYear : Int) (now : Today) (plan : EnrolmentPlan)

/-- A stint of the listed type covers September, or a month of that type was reported by then. -/
def Started (m : MonthRef) : Prop :=
  coveredAs enrolments plan.rosterType ⟨firstMonthOfTheocraticYear, serviceYear⟩ = true ∨
    ∃ a ∈ activities, a.type = plan.rosterType ∧ a.abs ≤ m.abs

instance (m : MonthRef) : Decidable (Started enrolments activities serviceYear plan m) :=
  inferInstanceAs (Decidable (_ ∨ _))

/-- A month the pace counts: covered by a stint of the listed type, not before the first that counts,
and over; or, once the pioneer has concluded, not after the last month reported of that type. -/
def Counts (m : MonthRef) : Prop :=
  coveredAs enrolments plan.rosterType m = true ∧
  Started enrolments activities serviceYear plan m ∧
  if plan.concluded then ∃ a ∈ activities, a.type = plan.rosterType ∧ m.abs ≤ a.abs
  else m.abs < now.abs

instance (m : MonthRef) : Decidable (Counts enrolments activities serviceYear now plan m) :=
  inferInstanceAs (Decidable (_ ∧ _ ∧ if plan.concluded then _ else _))

/-- The months of the year that are over. -/
def monthsOver : Nat := (serviceYearMonths serviceYear).countP fun m => m.abs < now.abs

/-- The months over that a stint of the listed type covers. -/
def coveredOver : Nat :=
  (serviceYearMonths serviceYear).countP fun m =>
    m.abs < now.abs && coveredAs enrolments plan.rosterType m

/-- The figures stay inside the months over and count those that are covered. -/
structure CountsCovered (monthlyRate : Rat) (pace : PioneerPace) : Prop where
  nonneg : 0 ≤ pace.elapsedEnrolled
  bounded : pace.elapsedEnrolled ≤ monthsOver serviceYear now
  covered : pace.elapsedEnrolled = coveredOver enrolments serviceYear now plan
  year : pace.elapsedEnrolled + pace.remainingMonths ≤ 12
  target : pace.targetToDate = monthlyRate * pace.elapsedEnrolled

/-- The figures count the months the pace counts; while the pioneer has not concluded these are months
over, and all that are covered when none of them lies before the first that counts. -/
structure CountsEnrolled (monthlyRate : Rat) (pace : PioneerPace) : Prop where
  nonneg : 0 ≤ pace.elapsedEnrolled
  counts : pace.elapsedEnrolled = ((serviceYearMonths serviceYear).countP fun m =>
    Counts enrolments activities serviceYear now plan m : Nat)
  bounded : plan.concluded = false → pace.elapsedEnrolled ≤ monthsOver serviceYear now
  covered : plan.concluded = false →
    (pace.elapsedEnrolled = coveredOver enrolments serviceYear now plan ↔
      ∀ m ∈ serviceYearMonths serviceYear, m.abs < now.abs →
        coveredAs enrolments plan.rosterType m = true → Started enrolments activities serviceYear plan m)
  year : pace.elapsedEnrolled + pace.remainingMonths ≤ 12
  target : pace.targetToDate = monthlyRate * pace.elapsedEnrolled

end Counts

section Pace

variable {enrolments : List EnrolmentPeriod} {activities : List EnrolmentActualMonth}
  {serviceYear : Int} {memberType : PublisherType} {plan : EnrolmentPlan} {monthlyRate : Rat} {now : Today}

/-- The elapsed months of a plan made of the member's stints. -/
theorem elapsed_rosterPlan {current : EnrolmentPeriod} (hyear : 0 ≤ serviceYear)
    (hmonths : ∀ a ∈ activities, a.toMonthRef ∈ serviceYearMonths serviceYear)
    (hplan : plan = rosterPlan (enrolments.filter fun e =>
      0 < (enrolledMonthsInServiceYear e.toMonthRange serviceYear).length) current activities serviceYear) :
    (resolveEnrollmentWindow (plan.paceInput serviceYear monthlyRate now).window).elapsedEnrolled =
      ((serviceYearMonths serviceYear).countP fun m =>
        Counts enrolments activities serviceYear now plan m : Nat) := by
  subst hplan
  generalize hp : rosterPlan (enrolments.filter fun e =>
    0 < (enrolledMonthsInServiceYear e.toMonthRange serviceYear).length) current activities serviceYear = plan
  have htype : plan.rosterType = current.type := by rw [← hp]; rfl
  have hsound : (plan.paceInput serviceYear monthlyRate now).window.Sound := by
    refine window_sound hyear fun r hr => ?_
    rw [← hp] at hr
    obtain ⟨a, ha, -, heq⟩ := mem_months hr
    exact heq ▸ hmonths a ha
  have hgaps : (plan.paceInput serviceYear monthlyRate now).window.notEnrolledMonths =
      (serviceYearMonths serviceYear).filter fun m => !coveredAs enrolments plan.rosterType m := by
    rw [htype, ← hp]
    refine List.filter_congr fun m hm => ?_
    exact congrArg not (contains_enrolled hm)
  have hsince : (plan.paceInput serviceYear monthlyRate now).window.enrolledSinceYearStart =
      coveredAs enrolments plan.rosterType ⟨firstMonthOfTheocraticYear, serviceYear⟩ := by
    rw [htype, ← hp]
    exact contains_enrolled (september_mem hyear)
  have hreports : ∀ P : MonthRef → Prop,
      (∃ r ∈ (plan.paceInput serviceYear monthlyRate now).window.sorted, P r.toMonthRef) ↔
        ∃ a ∈ activities, a.type = plan.rosterType ∧ P a.toMonthRef := by
    intro P
    rw [htype]
    constructor
    · rintro ⟨r, hr, hP⟩
      have hr' : r ∈ plan.months := mem_sortBy.mp hr
      rw [← hp] at hr'
      obtain ⟨a, ha, htype', heq⟩ := mem_months hr'
      exact ⟨a, ha, htype', heq ▸ hP⟩
    · rintro ⟨a, ha, htype', hP⟩
      obtain ⟨r, hr, heq⟩ := exists_month ha htype'
      rw [hp] at hr
      exact ⟨r, mem_sortBy.mpr hr, heq ▸ hP⟩
  rw [WindowInput.elapsedEnrolled_eq hsound hgaps, Nat.cast_inj]
  refine List.countP_congr fun m hm => ?_
  have hover : m.idx serviceYear ≤ (plan.paceInput serviceYear monthlyRate now).currentIndex ↔
      m.abs < now.abs := @idx_le_currentIndex (plan.paceInput serviceYear monthlyRate now) m hyear hm
  have hspan := WindowInput.inSpan_iff hsound hm
  rw [hsince, hreports fun r => r.abs ≤ m.abs, hreports fun r => m.abs ≤ r.abs] at hspan
  rw [Bool.and_eq_true, hspan, decide_eq_true_eq, and_comm]
  refine and_congr_right fun _ => and_congr_right fun _ => ?_
  show (if plan.concluded then _ else m.idx serviceYear ≤ _) ↔ if plan.concluded then _ else _
  split
  · exact Iff.rfl
  · exact hover

theorem plan_cases (h : planFromEnrolments enrolments activities serviceYear memberType = some plan) :
    ((∀ e ∈ enrolments, enrolledMonthsInServiceYear e.toMonthRange serviceYear = []) ∧
      plan = barePlan memberType) ∨
    ∃ current, plan = rosterPlan (enrolments.filter fun e =>
      0 < (enrolledMonthsInServiceYear e.toMonthRange serviceYear).length) current activities serviceYear := by
  unfold planFromEnrolments at h
  simp only at h
  split at h
  · next hnone =>
    left
    split at h
    · cases h
    · refine ⟨fun e he => ?_, (Option.some.inj h).symm⟩
      have hout := List.filter_eq_nil_iff.mp hnone e he
      simpa using hout
  · next first rest hstints =>
    right
    exact ⟨currentStint serviceYear first rest, (Option.some.inj h).symm⟩

/-- A member without a stint this year has no elapsed months. -/
theorem elapsed_barePlan :
    (resolveEnrollmentWindow ((barePlan memberType).paceInput serviceYear monthlyRate now).window).elapsedEnrolled =
      0 := by
  have hstart : ((barePlan memberType).paceInput serviceYear monthlyRate now).window.startIndex = none := by
    have hnone : ((barePlan memberType).paceInput serviceYear monthlyRate now).window.reportedToDate = [] := by
      unfold WindowInput.reportedToDate
      split
      · rfl
      · rfl
    show ((barePlan memberType).paceInput serviceYear monthlyRate now).window.reportedToDate.head?.map _ = none
    rw [hnone]
    rfl
  show max 0 (_ - (_ : Int)) = 0
  rw [WindowInput.spanLength, WindowInput.gapsInSpan, hstart]
  rfl

theorem elapsed_eq (hyear : 0 ≤ serviceYear)
    (hmonths : ∀ a ∈ activities, a.toMonthRef ∈ serviceYearMonths serviceYear)
    (h : planFromEnrolments enrolments activities serviceYear memberType = some plan) :
    (resolveEnrollmentWindow (plan.paceInput serviceYear monthlyRate now).window).elapsedEnrolled =
      ((serviceYearMonths serviceYear).countP fun m =>
        Counts enrolments activities serviceYear now plan m : Nat) := by
  rcases plan_cases h with ⟨hnone, rfl⟩ | ⟨current, hplan⟩
  · rw [elapsed_barePlan, eq_comm, Nat.cast_eq_zero, List.countP_eq_zero]
    intro m hm hcounts
    have hcounts' := (of_decide_eq_true hcounts).1
    obtain ⟨e, he, hcovers⟩ := List.any_eq_true.mp hcounts'
    rw [Bool.and_eq_true] at hcovers
    have hin : m ∈ enrolledMonthsInServiceYear e.toMonthRange serviceYear :=
      List.mem_filter.mpr ⟨hm, hcovers.2⟩
    rw [hnone e he] at hin
    cases hin
  · exact elapsed_rosterPlan hyear hmonths hplan

theorem remaining_eq :
    (resolveEnrollmentWindow (plan.paceInput serviceYear monthlyRate now).window).remainingMonths =
      if plan.concluded then 0
      else if (plan.paceInput serviceYear monthlyRate now).currentIndex < 0 then 12
      else 11 - (plan.paceInput serviceYear monthlyRate now).currentIndex := rfl

/-- As many months are over as the current month's index says. -/
theorem monthsOver_eq (hyear : 0 ≤ serviceYear) :
    (monthsOver serviceYear now : Int) =
      (plan.paceInput serviceYear monthlyRate now).currentIndex + 1 := by
  have hindex : (plan.paceInput serviceYear monthlyRate now).currentIndex = _ := currentIndex_eq hyear
  have hcount := @countP_span serviceYear 0 (plan.paceInput serviceYear monthlyRate now).currentIndex
    hyear (le_refl _) (by omega) (by omega)
  rw [sub_zero] at hcount
  rw [← hcount, monthsOver, Nat.cast_inj]
  refine List.countP_congr fun m hm => ?_
  have hidx := idx_of_mem hyear hm
  have hover : m.idx serviceYear ≤ (plan.paceInput serviceYear monthlyRate now).currentIndex ↔
      m.abs < now.abs := @idx_le_currentIndex (plan.paceInput serviceYear monthlyRate now) m hyear hm
  rw [decide_eq_true_eq, Bool.and_eq_true, decide_eq_true_eq, decide_eq_true_eq, hover]
  exact (and_iff_right hidx.1).symm

/-- **The pace of a plan counts the enrolled months**: those that a stint of the listed type covers, from
September or the first report on, up to today or, for a pioneer who has concluded, the last report. -/
theorem pace_counts (hyear : 0 ≤ serviceYear)
    (hmonths : ∀ a ∈ activities, a.toMonthRef ∈ serviceYearMonths serviceYear)
    (h : planFromEnrolments enrolments activities serviceYear memberType = some plan) :
    ∃ pace, computePioneerPace (plan.paceInput serviceYear monthlyRate now) = some pace ∧
      CountsEnrolled enrolments activities serviceYear now plan monthlyRate pace := by
  obtain ⟨pace, hpace, helapsed, hremaining, htarget⟩ :=
    computePioneerPace_total (plan.paceInput serviceYear monthlyRate now)
  have hcounts := @elapsed_eq _ _ _ _ _ monthlyRate now hyear hmonths h
  rw [← helapsed] at hcounts
  rw [remaining_eq] at hremaining
  have hlength : ((serviceYearMonths serviceYear).countP fun m =>
      Counts enrolments activities serviceYear now plan m) ≤ 12 := List.countP_le_length
  have hover : plan.concluded = false → pace.elapsedEnrolled ≤ monthsOver serviceYear now := by
    intro hgoing
    rw [hcounts]
    refine Int.ofNat_le.mpr (List.countP_mono_left fun m _ hm => ?_)
    have hlast := (of_decide_eq_true hm).2.2
    rw [hgoing] at hlast
    exact decide_eq_true hlast
  refine ⟨pace, hpace, ⟨?_, hcounts, hover, fun hgoing => ?_, ?_, htarget⟩⟩
  · rw [hcounts]
    exact Int.natCast_nonneg _
  · have hiff : ∀ m, Counts enrolments activities serviceYear now plan m ↔
        coveredAs enrolments plan.rosterType m = true ∧
          Started enrolments activities serviceYear plan m ∧ m.abs < now.abs := by
      intro m
      unfold Counts
      rw [hgoing]
      rfl
    rw [hcounts, Nat.cast_inj, coveredOver, countP_eq_countP_iff]
    · refine forall₂_congr fun m _ => ?_
      rw [decide_eq_true_eq, Bool.and_eq_true, decide_eq_true_eq, hiff, and_imp]
      exact ⟨fun h hmover hcovered => (h hmover hcovered).2.1,
        fun h hmover hcovered => ⟨hcovered, h hmover hcovered, hmover⟩⟩
    · intro m _ hm
      obtain ⟨hcovered, -, hmover⟩ := (hiff m).mp (of_decide_eq_true hm)
      rw [Bool.and_eq_true, decide_eq_true_eq]
      exact ⟨hmover, hcovered⟩
  · cases hconcluded : plan.concluded with
    | true =>
      rw [hconcluded, if_pos rfl] at hremaining
      omega
    | false =>
      have hmax := hover hconcluded
      rw [@monthsOver_eq _ plan monthlyRate now hyear] at hmax
      rw [hconcluded, if_neg Bool.false_ne_true] at hremaining
      have hindex : (plan.paceInput serviceYear monthlyRate now).currentIndex = _ := currentIndex_eq hyear
      split at hremaining <;> omega

end Pace

/-! ## A late start -/

/-- Enrolled since November 2025. -/
def sinceNovember : EnrolmentPeriod :=
  ⟨⟨10, 2025, none, none⟩, .pionnierPermanant, none⟩

/-- The first report, of January. -/
def reportOfJanuary : EnrolmentActualMonth := ⟨⟨0, 2026⟩, .pionnierPermanant, some 40, some 1, none⟩

def lateStart : EnrolmentPlan where
  rosterType := .pionnierPermanant
  isAuxiliary := false
  ongoing := true
  months := [⟨⟨0, 2026⟩, some 40, some 1, none⟩]
  enrolledMonths := (serviceYearMonths 2025).drop 2
  enrolledSinceYearStart := false
  concluded := false
  notEnrolledMonths := (serviceYearMonths 2025).take 2
  currentMonthlyGoal := none

def inFebruary : Today := ⟨2026, 1, 15⟩

theorem planned_lateStart :
    planFromEnrolments [sinceNovember] [reportOfJanuary] 2025 .normal = some lateStart := by
  decide +kernel

/-- In February three enrolled months are over, and one counts. -/
theorem late_start_counts_from_report : ¬∀ (enrolments : List EnrolmentPeriod)
    (activities : List EnrolmentActualMonth) (serviceYear : Int) (memberType : PublisherType)
    (monthlyRate : Rat) (now : Today) (plan : EnrolmentPlan), 0 ≤ serviceYear →
    (enrolments.Pairwise fun a b => enrolmentsOverlap a.toMonthRange b.toMonthRange = false) →
    (activities.map (·.toMonthRef)).Nodup →
    (∀ a ∈ activities, a.toMonthRef ∈ serviceYearMonths serviceYear) →
    planFromEnrolments enrolments activities serviceYear memberType = some plan →
    ∃ pace, computePioneerPace (plan.paceInput serviceYear monthlyRate now) = some pace ∧
      CountsCovered enrolments serviceYear now plan monthlyRate pace := by
  intro hall
  obtain ⟨pace, hpace, hcounts⟩ := hall [sinceNovember] [reportOfJanuary] 2025 .normal 50 inFebruary
    lateStart (by decide) (by decide) (by decide) (by decide +kernel) planned_lateStart
  have hone : (computePioneerPace (lateStart.paceInput 2025 50 inFebruary)).map (·.elapsedEnrolled) =
      some 1 := by decide +kernel
  have hthree : coveredOver [sinceNovember] 2025 inFebruary lateStart = 3 := by decide +kernel
  rw [hpace, Option.map_some, hcounts.covered, hthree] at hone
  cases hone

theorem pace_counts_lateStart :
    ∃ pace, computePioneerPace (lateStart.paceInput 2025 50 inFebruary) = some pace ∧
      CountsEnrolled [sinceNovember] [reportOfJanuary] 2025 inFebruary lateStart 50 pace :=
  pace_counts (by decide) (by decide +kernel) planned_lateStart

/-- Concluded in October, with the reports of that month and the next filed ahead: October counts. -/
example :
    let enrolments := [⟨⟨8, 2025, some 9, some 2025⟩, .pionnierPermanant, none⟩]
    let activities : List EnrolmentActualMonth := [⟨⟨8, 2025⟩, .pionnierPermanant, some 50, none, none⟩,
      ⟨⟨9, 2025⟩, .pionnierPermanant, some 50, none, none⟩, ⟨⟨10, 2025⟩, .normal, none, none, none⟩]
    let now : Today := ⟨2025, 9, 20⟩
    ((planFromEnrolments enrolments activities 2025 .normal).bind fun plan =>
      (computePioneerPace (plan.paceInput 2025 50 now)).map (·.elapsedEnrolled)) = some 2 ∧
    monthsOver 2025 now = 1 := by
  decide +kernel

end Unitae.Publishers
