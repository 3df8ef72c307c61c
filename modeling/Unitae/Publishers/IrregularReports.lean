import Unitae.Base.CivilMonths
import Unitae.Publishers.InactiveStatus

/-!
# Unitae — the activity list and its header (`publisher-list.tsx`, `get-publisher-stats.server.ts`)

The list shows each publisher with one of four statuses. The figure of irregular publishers over it is
counted from the reports instead, by a query that leaves out the publishers inactive in the month but does
not ask whether hours were reported. `header_agrees_iff` says when the two are the same number.
-/

namespace Unitae.Publishers

structure ActivityReport extends MonthlyReport where
  id : Nat
  type : PublisherType
deriving DecidableEq, Repr

structure ActivityDb where
  people : MemberDb
  reports : List ActivityReport

/-! ## The header -/

/-- `inactiveAt` null, or not before the first of the next month. -/
def activeUntil (rt : LocalTime) (ym : YearMonth) (m : Member) : Bool :=
  m.inactiveAt.isNone || m.inactiveAt.any fun inactiveAt => firstDayAfter rt ym ≤ inactiveAt

def countIrregular (rt : LocalTime) (db : ActivityDb) (ym : YearMonth) : Nat :=
  (db.reports.filter fun r => r.toYearMonth = ym && !r.isPublisher &&
    (db.people.memberById r.publisherId).any (activeUntil rt ym)).length

/-! ## The list -/

/-- The month is at or after the one `inactiveAt` falls in. -/
def wasInactiveDuring (rt : LocalTime) (inactiveAt : Option Instant) (ym : YearMonth) : Bool :=
  match inactiveAt with
  | none => false
  | some inactiveAt =>
    let inactiveYear := rt.getFullYear inactiveAt
    let inactiveMonth := rt.getMonth inactiveAt
    if inactiveYear < ym.year then true
    else if ym.year < inactiveYear then false
    else inactiveMonth ≤ ym.month.val

/-- The member's reports of the month, newest first. -/
def ActivityDb.activitiesIn (db : ActivityDb) (ym : YearMonth) (memberId : Nat) : List ActivityReport :=
  (db.reports.filter fun r => r.publisherId == memberId && r.toYearMonth = ym).mergeSort
    fun a b => b.id ≤ a.id

/-- The publishers who have not left, and whoever reported in the month. -/
def getPublisherWithActivities (db : ActivityDb) (ym : YearMonth) : List (Member × List ActivityReport) :=
  (db.people.members.filter fun m => m.leftAt.isNone && m.isPublisher ||
      db.reports.any fun r => r.publisherId == m.id && r.toYearMonth = ym).map
    fun m => (m, db.activitiesIn ym m.id)

structure PublisherRow where
  member : Member
  lastActivity : Option ActivityReport
  wasInactive : Bool
  notRegular : Bool
deriving DecidableEq, Repr

/-- Missed, and no hours. -/
def isNotRegular (activity : ActivityReport) : Bool :=
  activity.isPublisher == false && (activity.hours.isNone || activity.hours == some 0)

/-- A row, as the loader makes it. -/
def publisherRow (rt : LocalTime) (ym : YearMonth) (m : Member) (activities : List ActivityReport) :
    PublisherRow where
  member := m
  lastActivity := activities.head?
  wasInactive := wasInactiveDuring rt m.inactiveAt ym
  notRegular := activities.head?.any isNotRegular

def publisherRows (rt : LocalTime) (db : ActivityDb) (ym : YearMonth) : List PublisherRow :=
  (getPublisherWithActivities db ym).map fun (m, activities) => publisherRow rt ym m activities

inductive ActivityStatusFilter where
  | all
  | filed
  | notFiled
  | irregular
  | inactive
deriving DecidableEq, Repr

def matchesStatus (publisher : PublisherRow) : ActivityStatusFilter → Bool
  | .all => true
  | .inactive => publisher.wasInactive
  | .irregular => !publisher.wasInactive && publisher.notRegular
  | .notFiled => !publisher.wasInactive && publisher.lastActivity.isNone
  | .filed => !publisher.wasInactive && !publisher.notRegular && publisher.lastActivity.isSome

/-! ## The statuses -/

/-- Each row has one of the four. -/
def StatusesPartition (rows : List PublisherRow) : Prop :=
  ∀ row ∈ rows, ∃! status, status ≠ .all ∧ matchesStatus row status = true

/-- The one status of a row: inactive comes first, then what became of the report. -/
def PublisherRow.status (row : PublisherRow) : ActivityStatusFilter :=
  if row.wasInactive then .inactive
  else if row.notRegular then .irregular
  else if row.lastActivity.isNone then .notFiled
  else .filed

theorem matchesStatus_iff {row : PublisherRow} {status : ActivityStatusFilter}
    (hreport : row.notRegular = true → row.lastActivity.isSome) (hstatus : status ≠ .all) :
    matchesStatus row status = true ↔ status = row.status := by
  obtain ⟨m, lastActivity, wasInactive, notRegular⟩ := row
  unfold PublisherRow.status
  cases wasInactive with
  | true => cases status <;> simp_all [matchesStatus]
  | false =>
    cases notRegular with
    | true =>
      obtain ⟨activity, rfl⟩ := Option.isSome_iff_exists.mp (hreport rfl)
      cases status <;> simp_all [matchesStatus]
    | false => cases lastActivity <;> cases status <;> simp_all [matchesStatus]

theorem notRegular_publisherRow {rt : LocalTime} {ym : YearMonth} {m : Member}
    {activities : List ActivityReport} (h : (publisherRow rt ym m activities).notRegular = true) :
    (publisherRow rt ym m activities).lastActivity.isSome := by
  obtain ⟨activity, hactivity, -⟩ := (Option.any_eq_true _ _).mp h
  exact Option.isSome_iff_exists.mpr ⟨activity, hactivity⟩

theorem statuses_partition (rt : LocalTime) (db : ActivityDb) (ym : YearMonth) :
    StatusesPartition (publisherRows rt db ym) := by
  intro row hrow
  obtain ⟨⟨m, activities⟩, -, rfl⟩ := List.mem_map.mp hrow
  have hreport := @notRegular_publisherRow rt ym m activities
  have hown : (publisherRow rt ym m activities).status ≠ .all := by
    unfold PublisherRow.status
    split
    · nofun
    · split
      · nofun
      · split <;> nofun
  refine ⟨_, ⟨hown, (matchesStatus_iff hreport hown).mpr rfl⟩, fun status hmatch => ?_⟩
  exact (matchesStatus_iff hreport hmatch.1).mp hmatch.2

/-! ## The months of `inactiveAt` -/

/-- On the runtime's dates the month ends where the next one begins. -/
structure MonthEnds (rt : LocalTime) (ym : YearMonth) : Prop where
  month : ∀ date, 0 ≤ rt.getMonth date ∧ rt.getMonth date < 12
  next : ∀ date, firstDayAfter rt ym ≤ date ↔ ym.number < 12 * rt.getFullYear date + rt.getMonth date

theorem utc_monthEnds (ym : YearMonth) : MonthEnds .utc ym := by
  constructor
  · intro date
    have hmonth := (Calendar.civilFromDays_month (Calendar.dayOf date)).2
    show 0 ≤ (Calendar.civilFromDays (Calendar.dayOf date)).2.1 - 1 ∧
      (Calendar.civilFromDays (Calendar.dayOf date)).2.1 - 1 < 12
    omega
  · intro date
    have hparts : ym.number / 12 = ym.year ∧ ym.number % 12 = (ym.month.val : Int) := by
      have := ym.month.isLt
      unfold YearMonth.number
      omega
    have hnext : firstDayAfter .utc ym = Calendar.msPerDay * Calendar.firstDay (ym.number + 1) := by
      have hmonth : ((ym.month.val + 1 : ℕ) : Rat) = ((ym.month.val + 1 : Int) : Rat) := by push_cast; rfl
      rw [← Calendar.daysFromCivil_next, hparts.1, hparts.2]
      unfold firstDayAfter
      show Calendar.msPerDay * Calendar.daysFromCivil (Rat.floor _) (Rat.floor _ + 1) (Rat.floor 1) = _
      rw [hmonth, Rat.floor_intCast, Rat.floor_intCast, add_assoc]
      rfl
    have hfirst : Calendar.firstDay (ym.number + 1) ≤ Calendar.dayOf date ↔
        ym.number + 1 ≤ Calendar.monthOf (Calendar.dayOf date) := by
      constructor
      · intro h
        rw [← Calendar.monthOf_firstDay (ym.number + 1)]
        exact Calendar.monthOf_mono h
      · exact fun h => (Calendar.firstDay_le_iff.mpr h).trans (Calendar.firstDay_monthOf_le _)
    have hday : Calendar.msPerDay * Calendar.firstDay (ym.number + 1) ≤ date ↔
        Calendar.firstDay (ym.number + 1) ≤ Calendar.dayOf date := by
      unfold Calendar.dayOf Calendar.msPerDay
      omega
    rw [hnext, hday, hfirst]
    rfl

section Counts

variable {rt : LocalTime} {db : ActivityDb} {ym : YearMonth}

theorem activeUntil_iff (hends : MonthEnds rt ym) {m : Member} :
    activeUntil rt ym m = true ↔ wasInactiveDuring rt m.inactiveAt ym = false := by
  unfold activeUntil wasInactiveDuring
  cases m.inactiveAt with
  | none => simp
  | some inactiveAt =>
    have hmonth := hends.month inactiveAt
    have hlt := ym.month.isLt
    have hnext := hends.next inactiveAt
    unfold YearMonth.number at hnext
    simp only [Option.isNone_some, Option.any_some, Bool.false_or, decide_eq_true_eq]
    rw [hnext]
    split
    · simp
      omega
    · split
      · simp
        omega
      · simp
        omega

/-- One report for a publisher and a month. -/
def OneReportEach (db : ActivityDb) : Prop :=
  Keyed (fun r : ActivityReport => (r.publisherId, r.toYearMonth)) db.reports

instance (db : ActivityDb) : Decidable (OneReportEach db) :=
  inferInstanceAs (Decidable (List.map _ _).Nodup)

theorem head?_activitiesIn (hone : OneReportEach db) {p : Nat} {r : ActivityReport} :
    (db.activitiesIn ym p).head? = some r ↔
      r ∈ db.reports ∧ r.publisherId = p ∧ r.toYearMonth = ym := by
  have hmem : ∀ r', r' ∈ db.activitiesIn ym p ↔
      r' ∈ db.reports ∧ r'.publisherId = p ∧ r'.toYearMonth = ym := by
    intro r'
    unfold ActivityDb.activitiesIn
    rw [List.mem_mergeSort, List.mem_filter, Bool.and_eq_true, beq_iff_eq, decide_eq_true_eq]
  constructor
  · exact fun h => (hmem r).mp (List.mem_of_head? h)
  · intro h
    cases hhead : (db.activitiesIn ym p).head? with
    | none =>
      have hr := (hmem r).mpr h
      rw [List.head?_eq_none_iff.mp hhead] at hr
      cases hr
    | some r' =>
      obtain ⟨hr', hp', hym'⟩ := (hmem r').mp (List.mem_of_head? hhead)
      have hsame : (r'.publisherId, r'.toYearMonth) = (r.publisherId, r.toYearMonth) := by
        rw [hp', hym', h.2.1, h.2.2]
      rw [hone.eq_of_key hr' h.1 hsame]

/-- The publishers the header counts. -/
def headerIds (rt : LocalTime) (db : ActivityDb) (ym : YearMonth) : List Nat :=
  (db.reports.filter fun r => r.toYearMonth = ym && !r.isPublisher &&
    (db.people.memberById r.publisherId).any (activeUntil rt ym)).map (·.publisherId)

/-- The publishers the list shows as irregular. -/
def irregularIds (rt : LocalTime) (db : ActivityDb) (ym : YearMonth) : List Nat :=
  ((publisherRows rt db ym).filter (matchesStatus · .irregular)).map (·.member.id)

theorem mem_headerIds (hends : MonthEnds rt ym) (hkeys : Keyed Member.id db.people.members) {p : Nat} :
    p ∈ headerIds rt db ym ↔
      ∃ r ∈ db.reports, r.publisherId = p ∧ r.toYearMonth = ym ∧ r.isPublisher = false ∧
        ∃ m ∈ db.people.members, m.id = p ∧ wasInactiveDuring rt m.inactiveAt ym = false := by
  have hmember : ∀ q, (db.people.memberById q).any (activeUntil rt ym) = true ↔
      ∃ m ∈ db.people.members, m.id = q ∧ wasInactiveDuring rt m.inactiveAt ym = false := by
    intro q
    rw [Option.any_eq_true]
    constructor
    · intro ⟨m, hfound, hactive⟩
      obtain ⟨hm, hid⟩ := hkeys.find?_eq_some.mp hfound
      exact ⟨m, hm, hid, (activeUntil_iff hends).mp hactive⟩
    · intro ⟨m, hm, hid, hactive⟩
      exact ⟨m, hkeys.find?_eq_some.mpr ⟨hm, hid⟩, (activeUntil_iff hends).mpr hactive⟩
  unfold headerIds
  simp only [List.mem_map, List.mem_filter, Bool.and_eq_true, decide_eq_true_eq, Bool.not_eq_true',
    hmember]
  constructor
  · rintro ⟨r, ⟨hr, ⟨hym, hmissed⟩, hactive⟩, rfl⟩
    exact ⟨r, hr, rfl, hym, hmissed, hactive⟩
  · rintro ⟨r, hr, rfl, hym, hmissed, hactive⟩
    exact ⟨r, ⟨hr, ⟨hym, hmissed⟩, hactive⟩, rfl⟩

/-- Whoever reported in the month is listed, so the list leaves nobody out. -/
theorem mem_irregularIds (hone : OneReportEach db) {p : Nat} :
    p ∈ irregularIds rt db ym ↔
      ∃ r ∈ db.reports, r.publisherId = p ∧ r.toYearMonth = ym ∧ isNotRegular r = true ∧
        ∃ m ∈ db.people.members, m.id = p ∧ wasInactiveDuring rt m.inactiveAt ym = false := by
  unfold irregularIds
  constructor
  · intro h
    obtain ⟨row, hrow, rfl⟩ := List.mem_map.mp h
    obtain ⟨hlisted, hstatus⟩ := List.mem_filter.mp hrow
    obtain ⟨listed, hmember, rfl⟩ := List.mem_map.mp hlisted
    obtain ⟨m, hm, rfl⟩ := List.mem_map.mp hmember
    obtain ⟨hactive, hirregular⟩ := Bool.and_eq_true_iff.mp hstatus
    have hactive : wasInactiveDuring rt m.inactiveAt ym = false := by
      rw [Bool.not_eq_true'] at hactive
      exact hactive
    obtain ⟨r, hlast, hnotRegular⟩ := (Option.any_eq_true _ _).mp hirregular
    obtain ⟨hr, hid, hym⟩ := (head?_activitiesIn hone).mp hlast
    exact ⟨r, hr, hid, hym, hnotRegular, m, (List.mem_filter.mp hm).1, rfl, hactive⟩
  · rintro ⟨r, hr, hid, hym, hnotRegular, m, hm, rfl, hactive⟩
    have hlisted : m ∈ db.people.members.filter fun m => m.leftAt.isNone && m.isPublisher ||
        db.reports.any fun r => r.publisherId == m.id && r.toYearMonth = ym := by
      refine List.mem_filter.mpr ⟨hm, Bool.or_eq_true_iff.mpr (.inr ?_)⟩
      exact List.any_eq_true.mpr ⟨r, hr, by simp [hid, hym]⟩
    have hlast := (head?_activitiesIn hone).mpr ⟨hr, hid, hym⟩
    refine List.mem_map.mpr ⟨publisherRow rt ym m (db.activitiesIn ym m.id), ?_, rfl⟩
    refine List.mem_filter.mpr ⟨List.mem_map_of_mem (List.mem_map_of_mem hlisted), ?_⟩
    unfold matchesStatus publisherRow
    simp only [hactive, hlast, Option.any_some, hnotRegular, Bool.not_false, Bool.and_self]

theorem nodup_headerIds (hone : OneReportEach db) : (headerIds rt db ym).Nodup := by
  refine List.Nodup.map_on ?_ ((List.Nodup.of_map _ hone).filter _)
  intro r hr r' hr' hid
  simp only [List.mem_filter, Bool.and_eq_true, decide_eq_true_eq] at hr hr'
  exact hone.eq_of_key hr.1 hr'.1 (Prod.ext hid (hr.2.1.1.trans hr'.2.1.1.symm))

theorem nodup_irregularIds (hkeys : Keyed Member.id db.people.members) :
    (irregularIds rt db ym).Nodup := by
  have hrows : ((publisherRows rt db ym).map (·.member.id)).Nodup := by
    unfold publisherRows getPublisherWithActivities
    rw [List.map_map, List.map_map]
    exact hkeys.filter _
  exact hrows.sublist (List.filter_sublist.map _)

/-- Every irregular report of the month by a publisher not inactive in it is one without hours. -/
def MissedWithoutHours (rt : LocalTime) (db : ActivityDb) (ym : YearMonth) : Prop :=
  ∀ r ∈ db.reports, r.toYearMonth = ym → r.isPublisher = false →
    ∀ m ∈ db.people.members, m.id = r.publisherId → wasInactiveDuring rt m.inactiveAt ym = false →
      r.hours = none ∨ r.hours = some 0

/-- **The header and the list count alike** exactly when no report counted as missed has hours; the four
statuses part the list in any case. -/
theorem header_agrees_iff (hends : MonthEnds rt ym) (hkeys : Keyed Member.id db.people.members)
    (hone : OneReportEach db) :
    countIrregular rt db ym =
          ((publisherRows rt db ym).filter (matchesStatus · .irregular)).length ∧
        StatusesPartition (publisherRows rt db ym) ↔
      MissedWithoutHours rt db ym := by
  rw [and_iff_left (statuses_partition rt db ym)]
  have hheader : countIrregular rt db ym = (headerIds rt db ym).length := (List.length_map _).symm
  have hlist : ((publisherRows rt db ym).filter (matchesStatus · .irregular)).length =
      (irregularIds rt db ym).length := (List.length_map _).symm
  have hnotRegular : ∀ r : ActivityReport, isNotRegular r = true ↔
      r.isPublisher = false ∧ (r.hours = none ∨ r.hours = some 0) := by
    intro r
    unfold isNotRegular
    simp
  -- What the list shows, the header counts; so they agree when the header counts no more.
  have hsub : irregularIds rt db ym ⊆ headerIds rt db ym := by
    intro p hp
    obtain ⟨r, hr, hid, hym, hirregular, hactive⟩ := (mem_irregularIds hone).mp hp
    exact (mem_headerIds hends hkeys).mpr
      ⟨r, hr, hid, hym, ((hnotRegular r).mp hirregular).1, hactive⟩
  have hperm : (irregularIds rt db ym).Subperm (headerIds rt db ym) :=
    List.subperm_of_subset (nodup_irregularIds hkeys) hsub
  rw [hheader, hlist]
  constructor
  · intro hlength r hr hym hmissed m hm hid hactive
    have hsame := hperm.perm_of_length_le hlength.le
    have hcounted : r.publisherId ∈ headerIds rt db ym :=
      (mem_headerIds hends hkeys).mpr ⟨r, hr, rfl, hym, hmissed, m, hm, hid, hactive⟩
    obtain ⟨r', hr', hid', hym', hirregular, -⟩ :=
      (mem_irregularIds hone).mp (hsame.mem_iff.mpr hcounted)
    have heq : r' = r := hone.eq_of_key hr' hr (Prod.ext hid' (hym'.trans hym.symm))
    rw [heq] at hirregular
    exact ((hnotRegular r).mp hirregular).2
  · intro h
    have hback : headerIds rt db ym ⊆ irregularIds rt db ym := by
      intro p hp
      obtain ⟨r, hr, hid, hym, hmissed, m, hm, hmid, hactive⟩ := (mem_headerIds hends hkeys).mp hp
      have hhours := h r hr hym hmissed m hm (hmid.trans hid.symm) hactive
      exact (mem_irregularIds hone).mpr
        ⟨r, hr, hid, hym, (hnotRegular r).mpr ⟨hmissed, hhours⟩, m, hm, hmid, hactive⟩
    have hle := (List.subperm_of_subset (@nodup_headerIds rt db ym hone) hback).length_le
    exact hle.antisymm hperm.length_le

end Counts

/-! ## A report restored with hours -/

def june2026 : YearMonth := ⟨2026, ⟨5, by decide⟩⟩

/-- One publisher, whose report of June 2026 is not ticked as preached. -/
def missedJune (hours : Option Int) : ActivityDb where
  people := {
    members := [{ blankMember 1 with isPublisher := true }]
    groups := []
    otherGroupIds := []
    enrolments := []
    activity := []
    roles := []
    memberRoleAssignments := []
    accounts := []
    userRoleAssignments := []
    nextMemberId := 2
    nextGroupId := 1
    nextEnrolmentId := 1 }
  reports := [
    { june2026 with isPublisher := false, hours := hours, publisherId := 1, id := 1, type := .normal }]

/-- Without hours he is irregular in the list and in the header. -/
theorem missedJune_agrees :
    countIrregular .utc (missedJune none) june2026 =
        ((publisherRows .utc (missedJune none) june2026).filter (matchesStatus · .irregular)).length ∧
      StatusesPartition (publisherRows .utc (missedJune none) june2026) := by
  refine (header_agrees_iff (utc_monthEnds june2026) (by decide) (by decide)).mpr ?_
  intro r hr _ _ _ _ _ _
  rw [List.mem_singleton.mp hr]
  exact .inl rfl

/-- With hours the header counts him and the list does not. -/
theorem missedJune_hours :
    MonthEnds .utc june2026 ∧ Keyed Member.id (missedJune (some 10)).people.members ∧
      OneReportEach (missedJune (some 10)) ∧
      countIrregular .utc (missedJune (some 10)) june2026 ≠
        ((publisherRows .utc (missedJune (some 10)) june2026).filter
          (matchesStatus · .irregular)).length := by
  have hone : OneReportEach (missedJune (some 10)) := by decide
  refine ⟨utc_monthEnds june2026, by decide, hone, ?_⟩
  have hheader : countIrregular .utc (missedJune (some 10)) june2026 = 1 := by decide +kernel
  have hlist : irregularIds .utc (missedJune (some 10)) june2026 = [] := by
    refine List.eq_nil_iff_forall_not_mem.mpr fun p hp => ?_
    obtain ⟨r, hr, -, -, hirregular, -⟩ := (mem_irregularIds hone).mp hp
    rw [List.mem_singleton.mp hr] at hirregular
    cases hirregular
  have hshown := congrArg List.length hlist
  unfold irregularIds at hshown
  rw [List.length_map] at hshown
  rw [hheader, hshown]
  nofun

end Unitae.Publishers
