import Unitae.Publishers.Enrolments

/-!
# Unitae — a member's stints are a chronology

The enrolment workflow (`pioneer-enrolment.workflow.ts`) and the activity backfill
(`pioneer-enrolment-backfill.server.ts`) over the aggregate, as the steps of one system. The role
sync that ends each workflow writes other tables; when it refuses, the whole request is rolled back.

The backfill derives stints whose end is never before their start, because it walks the months in
order (`deriveStints_forward`), and opens each through the aggregate. Closing is the one write that
moves an end without a look at the other stints: a stint that is closed already can be closed again,
later. `stints_of_run` states the chronology for every run in which no closing does that.
-/

namespace Unitae.Publishers

/-! ## The backfill's derivation -/

def isPioneerType (type : PublisherType) : Bool := type != .normal

def isAuxiliaryType (type : PublisherType) : Bool := type == .pionnierAuxiliaires

def PublisherActivity.absMonth (r : PublisherActivity) : Int := Publishers.absMonth r.month r.year

/-- `byMonth.set(key, r)` unless a row with a later id holds the month. -/
def setLatest (byMonth : List PublisherActivity) (r : PublisherActivity) :
    List PublisherActivity :=
  match byMonth.find? (·.absMonth == r.absMonth) with
  | none => byMonth ++ [r]
  | some existing =>
    if existing.id < r.id then byMonth.map fun x => if x.absMonth = r.absMonth then r else x
    else byMonth

/-- One row per month, the latest id wins; the months in order. -/
def dedupeLatestPerMonth (rows : List PublisherActivity) : List PublisherActivity :=
  (rows.foldl setLatest []).mergeSort fun a b => a.absMonth ≤ b.absMonth

/-- Rows of one type, one after the other. -/
structure Run where
  type : PublisherType
  rows : List PublisherActivity
  rows_ne : rows ≠ []

/-- The row goes to the last run when that is of its type, else it starts one. -/
def groupRow (runs : List Run) (r : PublisherActivity) : List Run :=
  match runs.getLast? with
  | some current =>
    if current.type = r.type then
      runs.dropLast ++ [⟨current.type, current.rows ++ [r], by simp⟩]
    else runs ++ [⟨r.type, [r], by simp⟩]
  | none => runs ++ [⟨r.type, [r], by simp⟩]

/-- Maximal runs of the same type; a month without a row does not break one. -/
def groupRuns (deduped : List PublisherActivity) : List Run := deduped.foldl groupRow []

def annualStint (run : Run) (ongoing : Bool) : OpenEnrolmentParams where
  type := run.type
  startMonth := (run.rows.head run.rows_ne).month
  startYear := (run.rows.head run.rows_ne).year
  endMonth := if ongoing then none else some (run.rows.getLast run.rows_ne).month
  endYear := if ongoing then none else some (run.rows.getLast run.rows_ne).year
  monthlyGoal := none

def singleMonthStint (r : PublisherActivity) : OpenEnrolmentParams where
  type := r.type
  startMonth := r.month
  startYear := r.year
  endMonth := some r.month
  endYear := some r.year
  monthlyGoal := none

/-- What one run becomes: nothing, a stint a month, or a stint that only the last run, of a member
who is still a pioneer, leaves open. -/
def Run.stints (run : Run) (ongoing : Bool) : List OpenEnrolmentParams :=
  if isPioneerType run.type = false then []
  else if isAuxiliaryType run.type then run.rows.map singleMonthStint
  else [annualStint run ongoing]

def deriveStintsFromActivity (rows : List PublisherActivity) : List OpenEnrolmentParams :=
  let deduped := dedupeLatestPerMonth rows
  let standingType := (deduped.getLast?.map (·.type)).getD .normal
  let concluded := !isPioneerType standingType
  let runs := groupRuns deduped
  runs.zipIdx.flatMap fun (run, index) => run.stints (index == runs.length - 1 && !concluded)

section Derivation

variable {rows : List PublisherActivity}

theorem dedupe_sorted :
    (dedupeLatestPerMonth rows).Pairwise fun a b => a.absMonth ≤ b.absMonth := by
  have hsorted := @List.pairwise_mergeSort _ (fun a b => decide (a.absMonth ≤ b.absMonth))
    (fun a b c hab hbc => by
      rw [decide_eq_true_eq] at hab hbc ⊢
      exact hab.trans hbc)
    (fun a b => by
      rw [Bool.or_eq_true, decide_eq_true_eq, decide_eq_true_eq]
      exact le_total _ _) (rows.foldl setLatest [])
  exact hsorted.imp fun h => of_decide_eq_true h

theorem groupRow_rows {runs : List Run} {r : PublisherActivity} :
    (groupRow runs r).flatMap Run.rows = runs.flatMap Run.rows ++ [r] := by
  unfold groupRow
  split
  · next current hlast =>
    obtain ⟨before, rfl⟩ := List.getLast?_eq_some_iff.mp hlast
    split <;> simp
  · simp

/-- Grouping loses no row and changes no order. -/
theorem groupRuns_rows {deduped : List PublisherActivity} :
    (groupRuns deduped).flatMap Run.rows = deduped := by
  have hfrom : ∀ (rest : List PublisherActivity) (runs : List Run),
      (rest.foldl groupRow runs).flatMap Run.rows = runs.flatMap Run.rows ++ rest := by
    intro rest
    induction rest with
    | nil => intro runs; simp
    | cons r rest ih =>
      intro runs
      rw [List.foldl_cons, ih, groupRow_rows, List.append_assoc, List.singleton_append]
  rw [groupRuns, hfrom]
  rfl

/-- The rows of a run are in order of month. -/
theorem run_sorted {run : Run} (h : run ∈ groupRuns (dedupeLatestPerMonth rows)) :
    run.rows.Pairwise fun a b => a.absMonth ≤ b.absMonth := by
  have hsub : run.rows.Sublist ((groupRuns (dedupeLatestPerMonth rows)).flatMap Run.rows) := by
    rw [List.flatMap_def]
    exact List.sublist_flatten_of_mem (List.mem_map_of_mem h)
  rw [groupRuns_rows] at hsub
  exact dedupe_sorted.sublist hsub

theorem singleMonthStint_forward (r : PublisherActivity) :
    (singleMonthStint r).range.span.Forward := by
  intro t ht
  rw [← Option.some.inj ht]
  exact le_refl _

theorem annualStint_forward {run : Run} {ongoing : Bool}
    (h : run.rows.Pairwise fun a b => a.absMonth ≤ b.absMonth) :
    (annualStint run ongoing).range.span.Forward := by
  cases ongoing with
  | true => exact fun t ht => absurd ht (by simp [annualStint, OpenEnrolmentParams.range,
      MonthRange.span, MonthRange.stop])
  | false =>
    intro t ht
    rw [← Option.some.inj ht]
    show (run.rows.head run.rows_ne).absMonth ≤ (run.rows.getLast run.rows_ne).absMonth
    obtain ⟨type, rows, hne⟩ := run
    cases rows with
    | nil => exact absurd rfl hne
    | cons first rest =>
      rcases List.mem_cons.mp (List.getLast_mem hne) with hfirst | hlater
      · rw [hfirst]
        exact le_refl _
      · exact (List.pairwise_cons.mp h).1 _ hlater

theorem Run.stints_forward {run : Run} {ongoing : Bool} {params : OpenEnrolmentParams}
    (hsorted : run.rows.Pairwise fun a b => a.absMonth ≤ b.absMonth)
    (h : params ∈ run.stints ongoing) : params.range.span.Forward := by
  unfold Run.stints at h
  split at h
  · exact absurd h List.not_mem_nil
  · split at h
    · obtain ⟨r, _, rfl⟩ := List.mem_map.mp h
      exact singleMonthStint_forward r
    · rw [List.mem_singleton.mp h]
      exact annualStint_forward hsorted

/-- **No stint the backfill derives ends before it starts.** -/
theorem deriveStints_forward {params : OpenEnrolmentParams}
    (h : params ∈ deriveStintsFromActivity rows) : params.range.span.Forward := by
  obtain ⟨⟨run, index⟩, hrun, hparams⟩ := List.mem_flatMap.mp h
  have hmem : run ∈ groupRuns (dedupeLatestPerMonth rows) := by
    obtain ⟨_, _, hget⟩ := List.mem_zipIdx hrun
    rw [hget]
    exact List.getElem_mem _
  exact Run.stints_forward (run_sorted hmem) hparams

end Derivation

/-! ## The requests -/

/-- One member's derived stints, unless the member has any: how many were written. -/
def backfillMemberEnrolments (memberId : Nat) : EnrolmentTx Nat := do
  let db ← get
  if 0 < (db.enrolments.filter (·.memberId == memberId)).length then return 0
  else
    let activity := db.activity.filter (·.publisherId == memberId)
    let stints := deriveStintsFromActivity activity
    stints.forM fun stint => do
      let _ ← openEnrolment memberId stint
    return stints.length

structure Backfilled where
  members : Nat
  stints : Nat
deriving DecidableEq, Repr

def backfillCongregationEnrolments : EnrolmentTx Backfilled := do
  let db ← get
  let stints ← db.members.foldlM (fun stints memberId => do
    let written ← backfillMemberEnrolments memberId
    return stints + written) 0
  return ⟨db.members.length, stints⟩

structure Ended where
  closed : Nat
  skippedFutureDated : Nat
deriving DecidableEq, Repr

/-- The ongoing stints of a type. -/
def PublisherDb.ongoingOfType (db : PublisherDb) (type : PublisherType) : List PioneerEnrolment :=
  db.enrolments.filter fun e => e.type == type && e.endMonth.isNone && e.endYear.isNone

/-- Close every ongoing stint of one type that has started by then. -/
def endOngoingEnrolmentsOfType (type : PublisherType) (stop : EndMonth) : EnrolmentTx Ended := do
  let db ← get
  let allOngoing := db.ongoingOfType type
  let ongoing := allOngoing.filter fun s => absMonth s.startMonth s.startYear ≤ stop.abs
  ongoing.forM fun stint => do
    let _ ← closeEnrolment stint.id stop
  return ⟨ongoing.length, allOngoing.length - ongoing.length⟩

inductive Request where
  | enrolPioneer (memberId : Nat) (params : OpenEnrolmentParams)
  | endPioneerEnrolment (id : Nat) (stop : EndMonth)
  | updatePioneerEnrolment (id : Nat) (params : UpdateEnrolmentParams)
  | setEnrolmentGoal (id : Nat) (monthlyGoal : Option Int)
  | removePioneerEnrolment (id : Nat)
  | endOngoingEnrolmentsOfType (type : PublisherType) (stop : EndMonth)
  | backfillMemberEnrolments (memberId : Nat)
  | backfillCongregationEnrolments
  /-- The monthly reports change, however they do. -/
  | reportActivity (rows : List PublisherActivity)
deriving DecidableEq, Repr

def Request.run : Request → EnrolmentTx Unit
  | .enrolPioneer memberId params => do
    let _ ← openEnrolment memberId params
  | .endPioneerEnrolment id stop => do
    let _ ← closeEnrolment id stop
  | .updatePioneerEnrolment id params => do
    let _ ← updateEnrolment id params
  | .setEnrolmentGoal id monthlyGoal => do
    let _ ← Publishers.setEnrolmentGoal id monthlyGoal
  | .removePioneerEnrolment id => do
    let _ ← deleteEnrolment id
  | .endOngoingEnrolmentsOfType type stop => do
    let _ ← Publishers.endOngoingEnrolmentsOfType type stop
  | .backfillMemberEnrolments memberId => do
    let _ ← Publishers.backfillMemberEnrolments memberId
  | .backfillCongregationEnrolments => do
    let _ ← Publishers.backfillCongregationEnrolments
  | .reportActivity rows => modify fun db => { db with activity := rows }

/-- The stored state after a request: a refusal ends the transaction it was raised in. -/
def step (db : PublisherDb) (request : Request) : PublisherDb :=
  request.run.settle (fun _ => false) db

/-- The stint opened or edited does not end before it starts, as its form has checked; and a stint
that is closed already is not closed again, later, over another stint of the member. -/
def Request.KeepsStints (db : PublisherDb) : Request → Prop
  | .enrolPioneer _ params => params.range.span.Forward
  | .updatePioneerEnrolment _ params => params.range.span.Forward
  | .endPioneerEnrolment id stop => ∀ e ∈ db.enrolmentById id, ¬e.span.Reaches stop.abs →
      assertNoOverlap db e.memberId (e.closed stop).range (some id) = .ok ()
  | _ => True

instance (db : PublisherDb) (request : Request) : Decidable (request.KeepsStints db) := by
  cases request <;> unfold Request.KeepsStints <;> infer_instance

/-! ## Runs -/

section Runs

variable {db db' start s : PublisherDb}

theorem backfillMember_keeps (memberId : Nat) :
    Tx.Keeps Chronology (backfillMemberEnrolments memberId) := by
  refine .get_bind fun db => ?_
  split
  · exact Tx.keeps_pure _
  · refine Tx.Keeps.bind (.forM fun stint hstint => ?_) fun _ => Tx.keeps_pure _
    exact (openEnrolment_keeps (deriveStints_forward hstint)).bind fun _ => Tx.keeps_pure _

theorem backfillCongregation_keeps : Tx.Keeps Chronology backfillCongregationEnrolments :=
  .get_bind fun _ => Tx.Keeps.bind
    (.foldlM (fun memberId _ _ => (backfillMember_keeps memberId).bind fun _ => Tx.keeps_pure _) 0)
    fun _ => Tx.keeps_pure _

theorem closeEnrolment_ok {id : Nat} {stop : EndMonth} {row : PioneerEnrolment} :
    (closeEnrolment id stop).exec db = (.ok row, db') ↔ ∃ existing,
      closeChecks db id stop = .ok existing ∧ row = existing.closed stop ∧
        db' = db.updateEnrolmentRow id (·.closed stop) := by
  unfold closeEnrolment
  rw [Tx.exec_bind_get, Tx.exec_bind_check_ok]
  simp only [Tx.exec_bind_modify, Tx.exec_pure, Prod.mk.injEq, Except.ok.injEq]
  constructor
  · rintro ⟨existing, hchecks, rfl, rfl⟩
    exact ⟨existing, hchecks, rfl, rfl⟩
  · rintro ⟨existing, hchecks, rfl, rfl⟩
    exact ⟨existing, hchecks, rfl, rfl⟩

theorem closeChecks_found {id : Nat} {stop : EndMonth} {existing : PioneerEnrolment}
    (h : closeChecks db id stop = .ok existing) : db.enrolmentById id = some existing := by
  unfold closeChecks at h
  cases hfound : db.enrolmentById id with
  | none => simp [hfound] at h
  | some row =>
    rw [hfound] at h
    obtain ⟨_, _, hret⟩ := Tx.bind_eq_ok.mp h
    rw [Except.ok.inj hret]

/-- Closing what is ongoing moves no end later. In the loop each row is as it was, or closed at the
end that every turn sets. -/
theorem Chronology.endOngoing (h : Chronology db) {type : PublisherType} {stop : EndMonth}
    {ended : Ended}
    (hexec : (endOngoingEnrolmentsOfType type stop).exec db = (.ok ended, db')) :
    Chronology db' := by
  unfold endOngoingEnrolmentsOfType at hexec
  rw [Tx.exec_bind_get] at hexec
  obtain ⟨db₁, hloop, hret⟩ := Tx.exec_seq_ok.mp hexec
  obtain ⟨_, rfl⟩ := Tx.exec_pure_ok.mp hret
  have hkept : Chronology db' ∧ ∀ e ∈ db'.enrolments, e ∈ db.enrolments ∨
      e.span.stop = some stop.abs := by
    refine Tx.forM_invariant (I := fun _ s => Chronology s ∧
      ∀ e ∈ s.enrolments, e ∈ db.enrolments ∨ e.span.stop = some stop.abs) hloop
      ⟨h, fun e he => .inl he⟩ ?_
    rintro done stint rest hsplit s s' ⟨hs, hrows⟩ hturn
    have hstint : stint ∈ (db.ongoingOfType type).filter
        fun s => absMonth s.startMonth s.startYear ≤ stop.abs := by
      rw [hsplit]
      exact List.mem_append_right _ List.mem_cons_self
    obtain ⟨hmem, hopen⟩ := List.mem_filter.mp (List.mem_of_mem_filter hstint)
    obtain ⟨row, s₁, hclose, hret⟩ := Tx.exec_bind_ok.mp hturn
    obtain ⟨_, rfl⟩ := Tx.exec_pure_ok.mp hret
    obtain ⟨existing, hchecks, _, rfl⟩ := closeEnrolment_ok.mp hclose
    refine ⟨hs.close hchecks fun hnot => absurd ?_ hnot, ?_⟩
    · obtain ⟨hexisting, hid⟩ := enrolmentById_mem (closeChecks_found hchecks)
      rcases hrows existing hexisting with hold | hclosed
      · have hsame : existing = stint := h.keyed.eq_of_key hold hmem hid
        have hnone : stint.span.stop = none := by
          simp only [Bool.and_eq_true, Option.isNone_iff_eq_none] at hopen
          simp [PioneerEnrolment.span, PioneerEnrolment.range, MonthRange.span, MonthRange.stop,
            hopen.1.2]
        intro t ht
        rw [hsame, hnone] at ht
        exact absurd ht (by simp)
      · intro t ht
        rw [hclosed] at ht
        exact (Option.some.inj ht).le
    · intro e' he'
      rcases mem_updateEnrolmentRow he' with ⟨hold, _⟩ | ⟨e, _, _, rfl⟩
      · exact hrows e' hold
      · exact .inr rfl
  exact hkept.1

theorem Chronology.request (h : Chronology db) {request : Request}
    (hkeeps : request.KeepsStints db) (hexec : request.run.exec db = (.ok (), db')) :
    Chronology db' := by
  cases request with
  | enrolPioneer memberId params =>
    obtain ⟨_, _, hopen, hret⟩ := Tx.exec_bind_ok.mp hexec
    obtain ⟨_, rfl⟩ := Tx.exec_pure_ok.mp hret
    exact (openEnrolment_keeps hkeeps).of_ok hopen h
  | endPioneerEnrolment id stop =>
    obtain ⟨_, _, hclose, hret⟩ := Tx.exec_bind_ok.mp hexec
    obtain ⟨_, rfl⟩ := Tx.exec_pure_ok.mp hret
    obtain ⟨existing, hchecks, _, rfl⟩ := closeEnrolment_ok.mp hclose
    refine h.close hchecks fun hlater b hb hother hmember => ?_
    have hclear := hkeeps existing (closeChecks_found hchecks) hlater
    exact assertNoOverlap_ok.mp hclear b hb hmember fun k hk => by
      rw [← Option.some.inj hk]
      exact hother
  | updatePioneerEnrolment id params =>
    obtain ⟨_, _, hupdate, hret⟩ := Tx.exec_bind_ok.mp hexec
    obtain ⟨_, rfl⟩ := Tx.exec_pure_ok.mp hret
    exact (updateEnrolment_keeps hkeeps).of_ok hupdate h
  | setEnrolmentGoal id monthlyGoal =>
    obtain ⟨_, _, hset, hret⟩ := Tx.exec_bind_ok.mp hexec
    obtain ⟨_, rfl⟩ := Tx.exec_pure_ok.mp hret
    exact setEnrolmentGoal_keeps.of_ok hset h
  | removePioneerEnrolment id =>
    obtain ⟨_, _, hdelete, hret⟩ := Tx.exec_bind_ok.mp hexec
    obtain ⟨_, rfl⟩ := Tx.exec_pure_ok.mp hret
    exact deleteEnrolment_keeps.of_ok hdelete h
  | endOngoingEnrolmentsOfType type stop =>
    obtain ⟨_, _, hend, hret⟩ := Tx.exec_bind_ok.mp hexec
    obtain ⟨_, rfl⟩ := Tx.exec_pure_ok.mp hret
    exact h.endOngoing hend
  | backfillMemberEnrolments memberId =>
    obtain ⟨_, _, hfill, hret⟩ := Tx.exec_bind_ok.mp hexec
    obtain ⟨_, rfl⟩ := Tx.exec_pure_ok.mp hret
    exact (backfillMember_keeps memberId).of_ok hfill h
  | backfillCongregationEnrolments =>
    obtain ⟨_, _, hfill, hret⟩ := Tx.exec_bind_ok.mp hexec
    obtain ⟨_, rfl⟩ := Tx.exec_pure_ok.mp hret
    exact backfillCongregation_keeps.of_ok hfill h
  | reportActivity rows =>
    obtain rfl : _ = db' := congrArg Prod.snd hexec
    exact ⟨h.keyed, h.id_lt, h.forward, h.apart⟩

theorem step_cases (db : PublisherDb) (request : Request) :
    request.run.exec db = (.ok (), step db request) ∨ step db request = db := by
  rcases Tx.settle_uncaught request.run db with ⟨_, hexec⟩ | hsame
  · exact .inl hexec
  · exact .inr hsame

/-- Two ongoing stints share the later of their first months. -/
theorem ongoing_overlap {a b : PioneerEnrolment} (ha : a.endMonth = none)
    (hb : b.endMonth = none) : a.span.Overlaps b.span := by
  have hstop : ∀ e : PioneerEnrolment, e.endMonth = none → e.span.stop = none := by
    intro e he
    simp [PioneerEnrolment.span, PioneerEnrolment.range, MonthRange.span, MonthRange.stop, he]
  refine (Span.overlaps_of_open (hstop a ha)).mpr fun t ht => ?_
  rw [hstop b hb] at ht
  exact absurd ht (by simp)

/-- **A member's pioneer stints are always a chronology**, in every state reached by requests that
close no closed stint again over another one. -/
theorem stints_of_run (h₀ : Chronology start)
    (hrun : Reach step (fun db request => request.KeepsStints db) start s) :
    (∀ e ∈ s.enrolments, ∀ endMonth ∈ e.endMonth, ∀ endYear ∈ e.endYear,
      absMonth e.startMonth e.startYear ≤ absMonth endMonth endYear) ∧
    (∀ a ∈ s.enrolments, ∀ b ∈ s.enrolments, a.id ≠ b.id → a.memberId = b.memberId →
      enrolmentsOverlap a.range b.range = false) ∧
    ∀ a ∈ s.enrolments, ∀ b ∈ s.enrolments, a.memberId = b.memberId → a.endMonth = none →
      b.endMonth = none → a.id = b.id := by
  have hkept : Chronology s := by
    refine hrun.invariant (I := Chronology) h₀ fun db request h hkeeps => ?_
    rcases step_cases db request with hexec | hsame
    · exact h.request hkeeps hexec
    · rw [hsame]
      exact h
  refine ⟨fun e he endMonth hm endYear hy => ?_, fun a ha b hb hne hmember => ?_,
    fun a ha b hb hmember hopen hopen' => ?_⟩
  · have hstop : e.span.stop = some (absMonth endMonth endYear) := by
      simp [PioneerEnrolment.span, PioneerEnrolment.range, MonthRange.span, MonthRange.stop,
        Option.mem_def.mp hm, Option.mem_def.mp hy]
    exact hkept.forward e he _ hstop
  · have hover := hkept.apart a ha b hb hne hmember
    rw [Bool.eq_false_iff]
    exact fun htrue => hover (enrolmentsOverlap_iff.mp htrue)
  · by_contra hne
    exact hkept.apart a ha b hb hne hmember (ongoing_overlap hopen hopen')

end Runs

/-- One member, never enrolled. -/
def oneMember : PublisherDb := ⟨[], [], [7], 1⟩

def stintFrom (startMonth startYear : Int) : Request :=
  .enrolPioneer 7 ⟨.pionnierPermanant, startMonth, startYear, none, none, none⟩

/-- Enrolled in January, closed in March, enrolled again in May. -/
def restarted : List Request :=
  [stintFrom 0 2025, .endPioneerEnrolment 1 ⟨2, 2025⟩, stintFrom 4 2025]

def afterRestart (requests : List Request) : PublisherDb :=
  (restarted ++ requests).foldl step oneMember

/-- The first stint closed again, in June. -/
theorem stints_overlap :
    Reach step (fun _ _ => True) oneMember (afterRestart [.endPioneerEnrolment 1 ⟨5, 2025⟩]) ∧
      ∃ a ∈ (afterRestart [.endPioneerEnrolment 1 ⟨5, 2025⟩]).enrolments,
        ∃ b ∈ (afterRestart [.endPioneerEnrolment 1 ⟨5, 2025⟩]).enrolments,
          a.id ≠ b.id ∧ a.memberId = b.memberId ∧ enrolmentsOverlap a.range b.range = true :=
  ⟨.foldl (by decide +kernel), by decide +kernel⟩

/-- The second stint closed in June. -/
theorem stints_of_run_restarted :
    (∀ e ∈ (afterRestart [.endPioneerEnrolment 2 ⟨5, 2025⟩]).enrolments, ∀ endMonth ∈ e.endMonth,
      ∀ endYear ∈ e.endYear,
        absMonth e.startMonth e.startYear ≤ absMonth endMonth endYear) ∧
    (∀ a ∈ (afterRestart [.endPioneerEnrolment 2 ⟨5, 2025⟩]).enrolments,
      ∀ b ∈ (afterRestart [.endPioneerEnrolment 2 ⟨5, 2025⟩]).enrolments, a.id ≠ b.id →
        a.memberId = b.memberId → enrolmentsOverlap a.range b.range = false) ∧
    ∀ a ∈ (afterRestart [.endPioneerEnrolment 2 ⟨5, 2025⟩]).enrolments,
      ∀ b ∈ (afterRestart [.endPioneerEnrolment 2 ⟨5, 2025⟩]).enrolments, a.memberId = b.memberId →
        a.endMonth = none → b.endMonth = none → a.id = b.id :=
  stints_of_run (by decide) (.foldl (by decide +kernel))

end Unitae.Publishers
