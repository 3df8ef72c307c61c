import Unitae.Publishers.PioneerPace

/-!
# Unitae — the months of a stint (`pioneer-enrolment.ts`)

Which calendar months an enrolment covers, read off its bounds alone. For a stint whose end is set as a
pair this is what its span says (`coversMonth_iff`), so that stints that do not overlap share no month.
-/

namespace Unitae.Publishers

/-- The columns of an enrolment that the plan reads. -/
structure EnrolmentPeriod extends MonthRange where
  type : PublisherType
  monthlyGoal : Option Int
deriving DecidableEq, Repr

def isOngoing (period : MonthRange) : Bool := period.endMonth.isNone && period.endYear.isNone

/-- Of an end that is half set, the missing half counts as 0. -/
def coversMonth (period : MonthRange) (month year : Int) : Bool :=
  let target := absMonth month year
  if target < absMonth period.startMonth period.startYear then false
  else if isOngoing period then true
  else target ≤ absMonth (period.endMonth.getD 0) (period.endYear.getD 0)

/-- The months from September to August that the stint covers. -/
def enrolledMonthsInServiceYear (period : MonthRange) (serviceYear : Int) : List MonthRef :=
  (serviceYearMonths serviceYear).filter fun m => coversMonth period m.month m.year

/-- The type of the ongoing stint. -/
def standingTypeFromEnrolments (enrolments : List EnrolmentPeriod) : PublisherType :=
  ((enrolments.find? fun e => isOngoing e.toMonthRange).map (·.type)).getD .normal

def enrolmentForMonth (enrolments : List EnrolmentPeriod) (month year : Int) :
    Option EnrolmentPeriod :=
  enrolments.find? fun e => coversMonth e.toMonthRange month year

section Covering

variable {a b period : MonthRange} {month year : Int}

theorem coversMonth_iff (hpaired : endBoundsArePaired period.endMonth period.endYear = true) :
    coversMonth period month year = true ↔
      period.span.start ≤ absMonth month year ∧ period.span.Reaches (absMonth month year) := by
  obtain ⟨startMonth, startYear, endMonth, endYear⟩ := period
  cases endMonth <;> cases endYear <;>
    simp_all [coversMonth, isOngoing, endBoundsArePaired, MonthRange.span, MonthRange.stop,
      Span.Reaches]

/-- Two stints that cover a month overlap. -/
theorem overlap_of_covers (ha : endBoundsArePaired a.endMonth a.endYear = true)
    (hb : endBoundsArePaired b.endMonth b.endYear = true) (hca : coversMonth a month year = true)
    (hcb : coversMonth b month year = true) : enrolmentsOverlap a b = true := by
  obtain ⟨hstart, hreach⟩ := (coversMonth_iff ha).mp hca
  obtain ⟨hstart', hreach'⟩ := (coversMonth_iff hb).mp hcb
  refine enrolmentsOverlap_iff.mpr ⟨fun t ht => ?_, fun t ht => ?_⟩
  · exact hstart'.trans (hreach t ht)
  · exact hstart.trans (hreach' t ht)

/-- **Of stints that do not overlap, at most one covers a month**, and it is the one found. -/
theorem enrolmentForMonth_iff {enrolments : List EnrolmentPeriod} {e : EnrolmentPeriod}
    (hpaired : ∀ e ∈ enrolments, endBoundsArePaired e.endMonth e.endYear = true)
    (hapart : enrolments.Pairwise fun a b =>
      enrolmentsOverlap a.toMonthRange b.toMonthRange = false) :
    enrolmentForMonth enrolments month year = some e ↔
      e ∈ enrolments ∧ coversMonth e.toMonthRange month year = true := by
  constructor
  · intro h
    have hfound : enrolments.find? (fun e => coversMonth e.toMonthRange month year) = some e := h
    have hcovers := List.find?_some hfound
    exact ⟨List.mem_of_find?_eq_some hfound, hcovers⟩
  · intro ⟨he, hcovers⟩
    unfold enrolmentForMonth
    induction enrolments with
    | nil => cases he
    | cons first rest ih =>
      obtain ⟨hfirst, hrest⟩ := List.pairwise_cons.mp hapart
      rcases List.mem_cons.mp he with rfl | hlater
      · rw [List.find?_cons, hcovers]
      · have hnot : coversMonth first.toMonthRange month year = false := by
          refine Bool.eq_false_iff.mpr fun hcovers' => ?_
          have hover := overlap_of_covers (hpaired first List.mem_cons_self) (hpaired e he)
            hcovers' hcovers
          rw [hfirst e hlater] at hover
          cases hover
        rw [List.find?_cons, hnot]
        exact ih (fun x hx => hpaired x (List.mem_cons_of_mem _ hx)) hrest hlater

end Covering

end Unitae.Publishers
