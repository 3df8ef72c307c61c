import Mathlib.Tactic.Simps.Basic
import Unitae.Base.Run
import Unitae.Base.Span
import Unitae.Base.Transaction
import Unitae.Errors

/-!
# Unitae — pioneer enrolments (`pioneer-enrolment.aggregate.ts`)

A member's enrolments are stints: inclusive ranges of months, the last of which may have no end. The
aggregate promises that no two stints of a member share a month; that an end is not before its start
it leaves to the forms, closing apart.
-/

namespace Unitae.Publishers

inductive PublisherType where
  | normal
  | pionnierAuxiliaires
  | pionnierPermanant
  | pionnierSpecial
  | missionnaire
deriving DecidableEq, Repr

/-- Months count from 0. The end is there with both its columns or not at all. -/
structure PioneerEnrolment where
  id : Nat
  memberId : Nat
  type : PublisherType
  startMonth : Int
  startYear : Int
  endMonth : Option Int
  endYear : Option Int
  monthlyGoal : Option Int
deriving DecidableEq, Repr

/-- A monthly report, as far as the backfill reads it. -/
structure PublisherActivity where
  id : Nat
  publisherId : Nat
  month : Int
  year : Int
  type : PublisherType
deriving DecidableEq, Repr

structure PublisherDb where
  enrolments : List PioneerEnrolment
  activity : List PublisherActivity
  /-- The ids of the members. -/
  members : List Nat
  nextEnrolmentId : Nat
deriving DecidableEq, Repr

abbrev EnrolmentTx (α : Type) := Tx PublisherDb Failure α

def PublisherDb.enrolmentById (db : PublisherDb) (id : Nat) : Option PioneerEnrolment :=
  db.enrolments.find? (·.id == id)

@[simps]
def PublisherDb.createEnrolment (db : PublisherDb) (row : Nat → PioneerEnrolment) : PublisherDb :=
  { db with
    enrolments := db.enrolments ++ [row db.nextEnrolmentId]
    nextEnrolmentId := db.nextEnrolmentId + 1 }

/-- `pioneerEnrolment.update({ where: { id }, data })`, on a row that is there. -/
@[simps]
def PublisherDb.updateEnrolmentRow (db : PublisherDb) (id : Nat)
    (data : PioneerEnrolment → PioneerEnrolment) : PublisherDb :=
  { db with enrolments := db.enrolments.map fun e => if e.id = id then data e else e }

@[simps]
def PublisherDb.deleteEnrolmentRow (db : PublisherDb) (id : Nat) : PublisherDb :=
  { db with enrolments := db.enrolments.filter fun e => e.id != id }

/-! ## Months -/

structure MonthRange where
  startMonth : Int
  startYear : Int
  endMonth : Option Int
  endYear : Option Int
deriving DecidableEq, Repr

def absMonth (month year : Int) : Int := year * 12 + month

/-- The last month of a closed range; `none` is an ongoing one, which extends to +∞. -/
def MonthRange.stop (r : MonthRange) : Option Int :=
  match r.endMonth, r.endYear with
  | some endMonth, some endYear => some (absMonth endMonth endYear)
  | _, _ => none

def MonthRange.span (r : MonthRange) : Span Int := ⟨absMonth r.startMonth r.startYear, r.stop⟩

/-- Two inclusive month ranges overlap iff each starts on or before the other ends. -/
def enrolmentsOverlap (a b : MonthRange) : Bool :=
  let aStart := absMonth a.startMonth a.startYear
  let bStart := absMonth b.startMonth b.startYear
  (b.stop.all fun bEnd => aStart ≤ bEnd) && a.stop.all fun aEnd => bStart ≤ aEnd

theorem enrolmentsOverlap_iff {a b : MonthRange} :
    enrolmentsOverlap a b = true ↔ a.span.Overlaps b.span := by
  simp only [enrolmentsOverlap, Bool.and_eq_true, Option.all_eq_true, decide_eq_true_eq]
  exact and_comm

/-- Null together (ongoing) or set together (closed). -/
def endBoundsArePaired (endMonth endYear : Option Int) : Bool :=
  endMonth.isNone == endYear.isNone

def PioneerEnrolment.range (e : PioneerEnrolment) : MonthRange :=
  ⟨e.startMonth, e.startYear, e.endMonth, e.endYear⟩

def PioneerEnrolment.span (e : PioneerEnrolment) : Span Int := e.range.span

/-- `_assertEndBoundsPaired`. -/
def assertEndBoundsPaired (endMonth endYear : Option Int) : Except Failure Unit :=
  Tx.refuseWhen (endBoundsArePaired endMonth endYear = false)
    (.app (.conflict "pioneer_enrolment_end_bounds_unpaired"))

/-- `_assertNoOverlap`. -/
def assertNoOverlap (db : PublisherDb) (memberId : Nat) (candidate : MonthRange)
    (excludeId : Option Nat) : Except Failure Unit :=
  let existing := db.enrolments.filter fun stint =>
    stint.memberId == memberId && excludeId.all fun id => stint.id != id
  Tx.refuseWhen (existing.any fun stint => enrolmentsOverlap candidate stint.range)
    (.app (.conflict "pioneer_enrolment_overlap"))

theorem assertNoOverlap_ok {db : PublisherDb} {memberId : Nat} {candidate : MonthRange}
    {excludeId : Option Nat} :
    assertNoOverlap db memberId candidate excludeId = .ok () ↔
      ∀ e ∈ db.enrolments, e.memberId = memberId → (∀ id ∈ excludeId, e.id ≠ id) →
        ¬candidate.span.Overlaps e.span := by
  have hover : ∀ e : PioneerEnrolment, enrolmentsOverlap candidate e.range = true ↔
      candidate.span.Overlaps e.span := fun _ => enrolmentsOverlap_iff
  unfold assertNoOverlap
  rw [Tx.refuseWhen_ok]
  simp only [List.any_filter, List.any_eq_true, Bool.and_eq_true, beq_iff_eq, Option.all_eq_true,
    bne_iff_ne, hover, not_exists, not_and, and_imp]
  rfl

/-! ## The aggregate -/

structure OpenEnrolmentParams where
  type : PublisherType
  startMonth : Int
  startYear : Int
  endMonth : Option Int
  endYear : Option Int
  monthlyGoal : Option Int
deriving DecidableEq, Repr

def OpenEnrolmentParams.range (params : OpenEnrolmentParams) : MonthRange :=
  ⟨params.startMonth, params.startYear, params.endMonth, params.endYear⟩

/-- The row of a new stint. -/
def newEnrolment (memberId : Nat) (params : OpenEnrolmentParams) (id : Nat) :
    PioneerEnrolment where
  id := id
  memberId := memberId
  type := params.type
  startMonth := params.startMonth
  startYear := params.startYear
  endMonth := params.endMonth
  endYear := params.endYear
  monthlyGoal := params.monthlyGoal

def openChecks (db : PublisherDb) (memberId : Nat) (params : OpenEnrolmentParams) :
    Except Failure (Nat → PioneerEnrolment) := do
  assertEndBoundsPaired params.endMonth params.endYear
  assertNoOverlap db memberId params.range none
  Tx.refuseWhen (¬memberId ∈ db.members) (.database .foreignKey)
  return newEnrolment memberId params

def openEnrolment (memberId : Nat) (params : OpenEnrolmentParams) :
    EnrolmentTx PioneerEnrolment := do
  let db ← get
  let row ← Tx.check (openChecks db memberId params)
  modify (·.createEnrolment row)
  return row db.nextEnrolmentId

structure EndMonth where
  endMonth : Int
  endYear : Int
deriving DecidableEq, Repr

def EndMonth.abs (stop : EndMonth) : Int := absMonth stop.endMonth stop.endYear

/-- `data: { endMonth, endYear }`. -/
def PioneerEnrolment.closed (stop : EndMonth) (e : PioneerEnrolment) : PioneerEnrolment :=
  { e with endMonth := some stop.endMonth, endYear := some stop.endYear }

/-- The row a closing finds. Whether the stint is closed already is not asked. -/
def closeChecks (db : PublisherDb) (id : Nat) (stop : EndMonth) :
    Except Failure PioneerEnrolment :=
  match db.enrolmentById id with
  | none => .error (.app (.notFound "PioneerEnrolment" none))
  | some existing => do
    Tx.refuseWhen (stop.abs < absMonth existing.startMonth existing.startYear)
      (.app (.conflict "pioneer_enrolment_end_before_start"))
    return existing

def closeEnrolment (id : Nat) (stop : EndMonth) : EnrolmentTx PioneerEnrolment := do
  let db ← get
  let existing ← Tx.check (closeChecks db id stop)
  modify (·.updateEnrolmentRow id (·.closed stop))
  return existing.closed stop

/-- No end means an ongoing stint, so passing none is how a closed stint is reopened; no type and no
goal leave what is there. -/
structure UpdateEnrolmentParams where
  type : Option PublisherType
  startMonth : Int
  startYear : Int
  endMonth : Option Int
  endYear : Option Int
  monthlyGoal : Option Int
deriving DecidableEq, Repr

def UpdateEnrolmentParams.range (params : UpdateEnrolmentParams) : MonthRange :=
  ⟨params.startMonth, params.startYear, params.endMonth, params.endYear⟩

/-- The columns an edit writes. -/
def UpdateEnrolmentParams.data (params : UpdateEnrolmentParams) (e : PioneerEnrolment) :
    PioneerEnrolment :=
  { e with
    type := params.type.getD e.type
    startMonth := params.startMonth
    startYear := params.startYear
    endMonth := params.endMonth
    endYear := params.endYear
    monthlyGoal := params.monthlyGoal.orElse fun _ => e.monthlyGoal }

def updateChecks (db : PublisherDb) (id : Nat) (params : UpdateEnrolmentParams) :
    Except Failure PioneerEnrolment :=
  match db.enrolmentById id with
  | none => .error (.app (.notFound "PioneerEnrolment" none))
  | some existing => do
    assertEndBoundsPaired params.endMonth params.endYear
    assertNoOverlap db existing.memberId params.range (some id)
    return existing

def updateEnrolment (id : Nat) (params : UpdateEnrolmentParams) :
    EnrolmentTx PioneerEnrolment := do
  let db ← get
  let existing ← Tx.check (updateChecks db id params)
  modify (·.updateEnrolmentRow id params.data)
  return params.data existing

/-- `findFirst`, and the error when there is no such stint. -/
def PublisherDb.enrolmentOrRefuse (db : PublisherDb) (id : Nat) (e : Failure) :
    Except Failure PioneerEnrolment :=
  match db.enrolmentById id with
  | none => .error e
  | some existing => .ok existing

/-- The per-person goal alone; `none` drops it. -/
def setEnrolmentGoal (id : Nat) (monthlyGoal : Option Int) : EnrolmentTx PioneerEnrolment := do
  let db ← get
  let existing ← Tx.check (db.enrolmentOrRefuse id (.app (.notFound "PioneerEnrolment" none)))
  modify (·.updateEnrolmentRow id fun e => { e with monthlyGoal := monthlyGoal })
  return { existing with monthlyGoal := monthlyGoal }

def deleteEnrolment (id : Nat) : EnrolmentTx PioneerEnrolment := do
  let db ← get
  let existing ← Tx.check (db.enrolmentOrRefuse id (.database .recordNotFound))
  modify (·.deleteEnrolmentRow id)
  return existing

/-! ## The chronology of stints -/

/-- The keys, every stint forward, and the stints of a member apart. -/
structure Chronology (db : PublisherDb) : Prop where
  keyed : Keyed PioneerEnrolment.id db.enrolments
  id_lt : ∀ e ∈ db.enrolments, e.id < db.nextEnrolmentId
  forward : ∀ e ∈ db.enrolments, e.span.Forward
  apart : Apart PioneerEnrolment.id PioneerEnrolment.memberId PioneerEnrolment.span db.enrolments

instance (db : PublisherDb) : Decidable (Chronology db) :=
  decidable_of_iff (Keyed PioneerEnrolment.id db.enrolments ∧
      (∀ e ∈ db.enrolments, e.id < db.nextEnrolmentId) ∧
      (∀ e ∈ db.enrolments, e.span.Forward) ∧
      Apart PioneerEnrolment.id PioneerEnrolment.memberId PioneerEnrolment.span db.enrolments)
    ⟨fun ⟨h₁, h₂, h₃, h₄⟩ => ⟨h₁, h₂, h₃, h₄⟩, fun ⟨h₁, h₂, h₃, h₄⟩ => ⟨h₁, h₂, h₃, h₄⟩⟩

section Chronology

variable {db db' : PublisherDb} {id memberId : Nat} {stop : EndMonth}

theorem enrolmentById_mem {e : PioneerEnrolment} (h : db.enrolmentById id = some e) :
    e ∈ db.enrolments ∧ e.id = id :=
  ⟨List.mem_of_find?_eq_some h, by simpa using List.find?_some h⟩

theorem mem_updateEnrolmentRow {data : PioneerEnrolment → PioneerEnrolment}
    {e' : PioneerEnrolment} (h : e' ∈ (db.updateEnrolmentRow id data).enrolments) :
    e' ∈ db.enrolments ∧ e'.id ≠ id ∨ ∃ e ∈ db.enrolments, e.id = id ∧ e' = data e := by
  obtain ⟨e, he, rfl⟩ := List.mem_map.mp h
  split
  · next hid => exact .inr ⟨e, he, hid, rfl⟩
  · next hid => exact .inl ⟨he, hid⟩

theorem Chronology.open (h : Chronology db) {params : OpenEnrolmentParams}
    (hforward : params.range.span.Forward)
    (hover : assertNoOverlap db memberId params.range none = .ok ()) :
    Chronology (db.createEnrolment (newEnrolment memberId params)) := by
  refine ⟨h.keyed.append_next h.id_lt rfl, lt_append_next h.id_lt rfl, ?_, h.apart.append_one ?_⟩
  · intro e he
    rcases List.mem_append.mp he with hold | hnew
    · exact h.forward e hold
    · rw [List.mem_singleton.mp hnew]
      exact hforward
  · intro e he hlane
    exact assertNoOverlap_ok.mp hover e he hlane fun _ hid => by simp at hid

/-- A stint rewritten, after a look at the member's other stints. -/
theorem Chronology.rewrite (h : Chronology db) {data : PioneerEnrolment → PioneerEnrolment}
    (hid : ∀ e, (data e).id = e.id) (hmember : ∀ e, (data e).memberId = e.memberId)
    (hdata : ∀ e ∈ db.enrolments, e.id = id → (data e).span.Forward ∧
      ∀ b ∈ db.enrolments, b.id ≠ id → b.memberId = e.memberId →
        ¬(data e).span.Overlaps b.span) : Chronology (db.updateEnrolmentRow id data) := by
  have hsame : ∀ e : PioneerEnrolment, (if e.id = id then data e else e).id = e.id := fun e => column_ite (hid e)
  refine ⟨h.keyed.map hsame, ?_, ?_, h.apart.rewrite hid ?_⟩
  · intro e' he'
    obtain ⟨e, he, rfl⟩ := List.mem_map.mp he'
    rw [hsame]
    exact h.id_lt e he
  · intro e' he'
    rcases mem_updateEnrolmentRow he' with ⟨hold, _⟩ | ⟨e, he, hkey, rfl⟩
    · exact h.forward e' hold
    · exact (hdata e he hkey).1
  · intro e he hkey b hb hother hlane
    rw [hmember] at hlane
    exact (hdata e he hkey).2 b hb hother hlane

theorem closed_span (e : PioneerEnrolment) :
    (e.closed stop).span = ⟨e.span.start, some stop.abs⟩ := rfl

/-- A closing that moves no end later, or moves it over no other stint. -/
theorem Chronology.close (h : Chronology db) {existing : PioneerEnrolment}
    (hchecks : closeChecks db id stop = .ok existing)
    (hclear : ¬existing.span.Reaches stop.abs → ∀ b ∈ db.enrolments, b.id ≠ id →
      b.memberId = existing.memberId → ¬(existing.closed stop).span.Overlaps b.span) :
    Chronology (db.updateEnrolmentRow id (·.closed stop)) := by
  unfold closeChecks at hchecks
  cases hfound : db.enrolmentById id with
  | none => simp [hfound] at hchecks
  | some row =>
    rw [hfound] at hchecks
    obtain ⟨_, hbound, hret⟩ := Tx.bind_eq_ok.mp hchecks
    obtain rfl : row = existing := Except.ok.inj hret
    have hstart : row.span.start ≤ stop.abs := not_lt.mp (Tx.refuseWhen_ok.mp hbound)
    obtain ⟨hrow, hrowId⟩ := enrolmentById_mem hfound
    refine h.rewrite (fun _ => rfl) (fun _ => rfl) fun e he hkey => ?_
    obtain rfl : e = row := h.keyed.eq_of_key he hrow (hkey.trans hrowId.symm)
    refine ⟨fun t ht => ?_, fun b hb hother hmember => ?_⟩
    · rw [← Option.some.inj ht]
      exact hstart
    · by_cases hreaches : e.span.Reaches stop.abs
      · -- the stint is cut short, so what it was apart from it stays apart from
        have hcuts : (e.closed stop).span.Cuts e.span := Span.Cuts.of_reaches hreaches
        have hne : e.id ≠ b.id := by
          rw [hkey]
          exact fun hsame => hother hsame.symm
        exact fun hover => h.apart e he b hb hne hmember.symm (hover.of_cuts hcuts (.refl _))
      · exact hclear hreaches b hb hother hmember

theorem openEnrolment_keeps {params : OpenEnrolmentParams} (hforward : params.range.span.Forward) :
    Tx.Keeps Chronology (openEnrolment memberId params) := by
  refine Tx.keeps_checked_bind fun s row h hchecks => ?_
  unfold openChecks at hchecks
  simp only [Tx.bind_eq_ok, Tx.exists_unit] at hchecks
  obtain ⟨_, hover, _, hrow⟩ := hchecks
  obtain rfl : newEnrolment memberId params = row := Except.ok.inj hrow
  exact h.open hforward hover

theorem updateEnrolment_keeps {params : UpdateEnrolmentParams}
    (hforward : params.range.span.Forward) : Tx.Keeps Chronology (updateEnrolment id params) := by
  refine Tx.keeps_checked_bind fun s existing h hchecks => ?_
  unfold updateChecks at hchecks
  cases hfound : s.enrolmentById id with
  | none => simp [hfound] at hchecks
  | some row =>
    rw [hfound] at hchecks
    simp only [Tx.bind_eq_ok, Tx.exists_unit] at hchecks
    obtain ⟨_, hover, _⟩ := hchecks
    obtain ⟨hrow, hrowId⟩ := enrolmentById_mem hfound
    refine h.rewrite (fun _ => rfl) (fun _ => rfl) fun e he hkey => ⟨hforward, ?_⟩
    intro b hb hother hmember
    obtain rfl : e = row := h.keyed.eq_of_key he hrow (hkey.trans hrowId.symm)
    exact assertNoOverlap_ok.mp hover b hb hmember fun k hk => by
      rw [← Option.some.inj hk]
      exact hother

theorem setEnrolmentGoal_keeps {monthlyGoal : Option Int} :
    Tx.Keeps Chronology (setEnrolmentGoal id monthlyGoal) := by
  refine Tx.keeps_checked_bind fun s _ h _ => ?_
  refine h.rewrite (fun _ => rfl) (fun _ => rfl) fun e he hkey => ⟨h.forward e he, ?_⟩
  intro b hb hother hmember
  have hne : e.id ≠ b.id := by
    rw [hkey]
    exact fun hsame => hother hsame.symm
  exact h.apart e he b hb hne hmember.symm

theorem deleteEnrolment_keeps : Tx.Keeps Chronology (deleteEnrolment id) :=
  Tx.keeps_checked_bind fun _ _ h _ =>
    ⟨h.keyed.filter _, fun e he => h.id_lt e (List.mem_of_mem_filter he),
      fun e he => h.forward e (List.mem_of_mem_filter he), h.apart.filter _⟩

end Chronology

end Unitae.Publishers
