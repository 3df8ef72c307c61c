import Unitae.Base.Listing
import Unitae.Base.Sorting
import Unitae.Publishers.EnrolmentPeriods
import Unitae.Publishers.GroupLeaders

/-!
# Unitae — the pioneers on the board (`dynamic-documents.server.ts`)

The pioneers' document lists the stints that cover the current month, by a condition on the separate columns of
a stint's bounds. On calendar months the condition says what `coversMonth` says by arithmetic
(`currentEnrolmentWhere_eq`); of stints of one member that do not overlap at most one is current, so that each
current pioneer is listed once (`pioneers_listed_once`).
-/

namespace Unitae.Board

open Publishers

/-- `PIONEER_TYPE_RANK`, 99 where it has no entry. -/
def pioneerTypeRank : PublisherType → Nat
  | .pionnierAuxiliaires => 0
  | .pionnierPermanant => 1
  | .pionnierSpecial => 2
  | .missionnaire => 3
  | .normal => 99

/-- A comparison with a column that is null selects no row. -/
def currentEnrolmentWhere (month year : Int) (e : MonthRange) : Bool :=
  (e.startYear < year || e.startYear == year && e.startMonth ≤ month) &&
    (e.endMonth.isNone || (e.endYear.any fun y => year < y) ||
      e.endYear == some year && e.endMonth.any fun m => month ≤ m)

/-- `member: { leftAt: null, inactiveAt: null, anonymizedAt: null }`. -/
def isActivePublisher (m : Member) : Bool := m.leftAt.isNone && m.inactiveAt.isNone && m.anonymizedAt.isNone

structure BoardPioneer where
  id : Nat
  firstname : String
  lastname : String
  anonymizedAt : Option Instant
  type : PublisherType
deriving DecidableEq, Repr

/-- `{ ...row.member, type: row.type }`. -/
def boardPioneer (m : Member) (type : PublisherType) : BoardPioneer :=
  ⟨m.id, m.firstname, m.lastname, m.anonymizedAt, type⟩

/-- By rank, then by last name, then by first name. -/
def comparePioneers (localeCompare : String → String → Ordering) (a b : BoardPioneer) : Ordering :=
  (compare (pioneerTypeRank a.type) (pioneerTypeRank b.type)).then
    ((localeCompare a.lastname b.lastname).then (localeCompare a.firstname b.firstname))

/-- The row of a stint that `currentPioneerWhere` selects. -/
def currentPioneer (month year : Int) (db : MemberDb) (e : PioneerEnrolment) : Option BoardPioneer :=
  if currentEnrolmentWhere month year e.range then
    ((db.memberById e.memberId).filter isActivePublisher).map (boardPioneer · e.type)
  else none

def fetchPioneers (localeCompare : String → String → Ordering) (tz : LocalTime) (now : Instant) (db : MemberDb) :
    List BoardPioneer :=
  sortBy (comparePioneers localeCompare)
    (db.enrolments.filterMap (currentPioneer (tz.getMonth now) (tz.getFullYear now) db))

instance transCmp_comparePioneers {localeCompare : String → String → Ordering} [Std.TransCmp localeCompare] :
    Std.TransCmp (comparePioneers localeCompare) :=
  have := transCmp_comap localeCompare BoardPioneer.lastname
  have := transCmp_comap localeCompare BoardPioneer.firstname
  inferInstanceAs (Std.TransCmp (compareLex (compareOn fun a : BoardPioneer => pioneerTypeRank a.type)
    (compareLex (fun a b => localeCompare a.lastname b.lastname)
      fun a b => localeCompare a.firstname b.firstname)))

/-! ## The current month -/

/-- A calendar month, counted from 0. -/
def IsMonth (month : Int) : Prop := 0 ≤ month ∧ month ≤ 11

instance (month : Int) : Decidable (IsMonth month) := inferInstanceAs (Decidable (_ ∧ _))

/-- The bounds name calendar months, as the forms check. -/
def InCalendar (r : MonthRange) : Prop := IsMonth r.startMonth ∧ ∀ m ∈ r.endMonth, IsMonth m

instance (r : MonthRange) : Decidable (InCalendar r) := inferInstanceAs (Decidable (_ ∧ ∀ _ ∈ _, _))

section Current

variable {r : MonthRange} {month year : Int} {db : MemberDb} {e : PioneerEnrolment} {row : BoardPioneer}

/-- Months compare as their years do, unless these are the same. -/
theorem absMonth_le_iff {m m' y y' : Int} (hm : IsMonth m) (hm' : IsMonth m') :
    absMonth m y ≤ absMonth m' y' ↔ y < y' ∨ y = y' ∧ m ≤ m' := by
  unfold IsMonth at hm hm'
  unfold absMonth
  omega

/-- **The columns say what the arithmetic says.** -/
theorem currentEnrolmentWhere_eq (hmonth : IsMonth month) (hcalendar : InCalendar r)
    (hpaired : endBoundsArePaired r.endMonth r.endYear = true) :
    currentEnrolmentWhere month year r = coversMonth r month year := by
  obtain ⟨startMonth, startYear, endMonth, endYear⟩ := r
  have hstart := @absMonth_le_iff startMonth month startYear year hcalendar.1 hmonth
  rw [Bool.eq_iff_iff, coversMonth_iff hpaired]
  cases endMonth with
  | none =>
    cases endYear with
    | none => simp [currentEnrolmentWhere, MonthRange.span, MonthRange.stop, Span.Reaches, hstart]
    | some y => cases hpaired
  | some m =>
    cases endYear with
    | none => cases hpaired
    | some y =>
      have hend := @absMonth_le_iff month m year y hmonth (hcalendar.2 m rfl)
      simp [currentEnrolmentWhere, MonthRange.span, MonthRange.stop, Span.Reaches, hstart, hend]
      omega

theorem currentPioneer_iff : currentPioneer month year db e = some row ↔
    currentEnrolmentWhere month year e.range = true ∧ ∃ m, db.memberById e.memberId = some m ∧
      isActivePublisher m = true ∧ row = boardPioneer m e.type := by
  unfold currentPioneer
  split
  · next hcurrent =>
    rw [Option.map_eq_some_iff]
    constructor
    · intro ⟨m, hm, hrow⟩
      obtain ⟨hm, hactive⟩ := Option.filter_eq_some_iff.mp hm
      exact ⟨hcurrent, m, hm, hactive, hrow.symm⟩
    · intro ⟨_, m, hm, hactive, hrow⟩
      exact ⟨m, Option.filter_eq_some_iff.mpr ⟨hm, hactive⟩, hrow.symm⟩
  · next hpast =>
    simp [hpast]

end Current

/-! ## The document -/

section Listed

variable {localeCompare : String → String → Ordering} {tz : LocalTime} {now : Instant} {db : MemberDb}

/-- What is listed, row by row. -/
theorem mem_fetchPioneers (hmonth : IsMonth (tz.getMonth now))
    (hcalendar : ∀ e ∈ db.enrolments, InCalendar e.range)
    (hpaired : ∀ e ∈ db.enrolments, endBoundsArePaired e.endMonth e.endYear = true) {row : BoardPioneer} :
    row ∈ fetchPioneers localeCompare tz now db ↔
      ∃ e ∈ db.enrolments, coversMonth e.range (tz.getMonth now) (tz.getFullYear now) = true ∧
        ∃ m, db.memberById e.memberId = some m ∧ isActivePublisher m = true ∧ row = boardPioneer m e.type := by
  unfold fetchPioneers
  rw [mem_sortBy, List.mem_filterMap]
  refine exists_congr fun e => and_congr_right fun he => ?_
  rw [currentPioneer_iff, currentEnrolmentWhere_eq hmonth (hcalendar e he) (hpaired e he)]

/-- Stints that do not overlap are not both current. -/
theorem fetchPioneers_distinct (hmonth : IsMonth (tz.getMonth now))
    (hcalendar : ∀ e ∈ db.enrolments, InCalendar e.range)
    (hpaired : ∀ e ∈ db.enrolments, endBoundsArePaired e.endMonth e.endYear = true)
    (hapart : db.enrolments.Pairwise fun a b => a.memberId = b.memberId →
      enrolmentsOverlap a.range b.range = false) :
    (fetchPioneers localeCompare tz now db).Pairwise fun a b => a.id ≠ b.id := by
  have hrows : (db.enrolments.filterMap (currentPioneer (tz.getMonth now) (tz.getFullYear now) db)).Pairwise
      fun a b => a.id ≠ b.id := by
    refine List.pairwise_filterMap.mpr (hapart.imp_of_mem fun {a b} ha hb hclear row hrow row' hrow' hsame => ?_)
    obtain ⟨hcurrent, m, hm, -, rfl⟩ := currentPioneer_iff.mp hrow
    obtain ⟨hcurrent', m', hm', -, rfl⟩ := currentPioneer_iff.mp hrow'
    rw [currentEnrolmentWhere_eq hmonth (hcalendar a ha) (hpaired a ha)] at hcurrent
    rw [currentEnrolmentWhere_eq hmonth (hcalendar b hb) (hpaired b hb)] at hcurrent'
    have hmember : a.memberId = b.memberId := by
      rw [← (memberById_mem hm).2, ← (memberById_mem hm').2]
      exact hsame
    have hover := overlap_of_covers (hpaired a ha) (hpaired b hb) hcurrent hcurrent'
    rw [hclear hmember] at hover
    cases hover
  exact (sortBy_perm.pairwise_iff fun hne => Ne.symm hne).mpr hrows

end Listed

def boardMember (id : Nat) (firstname lastname : String) (inactiveAt : Option Instant) : Member where
  id := id
  firstname := firstname
  lastname := lastname
  isMale := none
  birthDate := none
  phone := ""
  address := ""
  email := ""
  isPublisher := true
  baptismDate := some 0
  isAnointed := false
  isHelder := false
  isServant := false
  publisherGroupId := none
  arrivedAt := none
  lastPastoralVisitAt := none
  leftAt := none
  inactiveAt := inactiveAt
  anonymizedAt := none

/-- Anne was an auxiliary pioneer in August 2025 and is a regular one since September. -/
def pioneersDb : MemberDb where
  members := [boardMember 1 "Paul" "Durand" none, boardMember 2 "Anne" "Martin" none]
  groups := []
  otherGroupIds := []
  enrolments := [⟨1, 2, .pionnierAuxiliaires, 7, 2025, some 7, some 2025, none⟩,
    ⟨2, 2, .pionnierPermanant, 8, 2025, none, none, none⟩, ⟨3, 1, .pionnierAuxiliaires, 0, 2026, some 0, some 2026, none⟩]
  activity := []
  roles := []
  memberRoleAssignments := []
  accounts := []
  userRoleAssignments := []
  nextMemberId := 3
  nextGroupId := 1
  nextEnrolmentId := 4

end Unitae.Board
