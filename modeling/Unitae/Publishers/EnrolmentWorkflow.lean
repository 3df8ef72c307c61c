import Unitae.Publishers.Members
import Unitae.Publishers.Stints

/-!
# Unitae — the enrolment workflow (`pioneer-enrolment.workflow.ts`)

A stint is written through the aggregate, then the identity roles of its member are synced. What each
operation leaves when it completes is said of the rows (`…_ok`): the stints of one member, or of those
whose stints are closed together, and the roles of just these.
-/

namespace Unitae.Publishers

/-- The tables the enrolment aggregate sees. -/
def MemberDb.publisherDb (db : MemberDb) : PublisherDb :=
  ⟨db.enrolments, db.activity, db.members.map (·.id), db.nextEnrolmentId⟩

/-- What the aggregate writes. -/
@[simps]
def MemberDb.withStints (db : MemberDb) (stints : PublisherDb) : MemberDb :=
  { db with enrolments := stints.enrolments, nextEnrolmentId := stints.nextEnrolmentId }

/-- A transaction of the enrolment aggregate. -/
def inEnrolments {α : Type} (x : EnrolmentTx α) : MemberTx α :=
  x.on MemberDb.publisherDb MemberDb.withStints

def enrolPioneer (memberId : Nat) (params : OpenEnrolmentParams) : MemberTx PioneerEnrolment := do
  let enrolment ← inEnrolments (openEnrolment memberId params)
  modify (syncBuiltInRoleAssignments memberId)
  return enrolment

def endPioneerEnrolment (enrolmentId : Nat) (stop : EndMonth) : MemberTx PioneerEnrolment := do
  let enrolment ← inEnrolments (closeEnrolment enrolmentId stop)
  modify (syncBuiltInRoleAssignments enrolment.memberId)
  return enrolment

def updatePioneerEnrolment (enrolmentId : Nat) (params : UpdateEnrolmentParams) :
    MemberTx PioneerEnrolment := do
  let enrolment ← inEnrolments (updateEnrolment enrolmentId params)
  modify (syncBuiltInRoleAssignments enrolment.memberId)
  return enrolment

def removePioneerEnrolment (enrolmentId : Nat) : MemberTx PioneerEnrolment := do
  let removed ← inEnrolments (deleteEnrolment enrolmentId)
  modify (syncBuiltInRoleAssignments removed.memberId)
  return removed

/-- The ongoing stints of the type that have started by then. -/
def PublisherDb.startedOngoing (db : PublisherDb) (type : PublisherType) (stop : EndMonth) :
    List PioneerEnrolment :=
  (db.ongoingOfType type).filter fun s => absMonth s.startMonth s.startYear ≤ stop.abs

/-- All the closes first, then one sync for each member. -/
def endOngoingStints (type : PublisherType) (stop : EndMonth) : MemberTx Ended := do
  let db ← get
  let ended ← inEnrolments (endOngoingEnrolmentsOfType type stop)
  ((db.publisherDb.startedOngoing type stop).map (·.memberId)).eraseDups.forM fun memberId =>
    modify (syncBuiltInRoleAssignments memberId)
  return ended

/-! ## The stints of one member -/

def PublisherDb.stintsOf (db : PublisherDb) (memberId : Nat) : List PioneerEnrolment :=
  db.enrolments.filter (·.memberId == memberId)

/-- Their periods, in the order of the rows. -/
def PublisherDb.periodsOf (db : PublisherDb) (memberId : Nat) : List Roles.EnrolmentPeriod :=
  (db.stintsOf memberId).map (·.period)

/-- The keys of the stint table, and the members its rows refer to. -/
structure StintsKeyed (db : PublisherDb) : Prop where
  keyed : Keyed PioneerEnrolment.id db.enrolments
  id_lt : ∀ e ∈ db.enrolments, e.id < db.nextEnrolmentId
  known : ∀ e ∈ db.enrolments, e.memberId ∈ db.members

/-- The stints of one member alone were written. -/
structure WritesStintsOf (db : PublisherDb) (memberId : Nat) (db' : PublisherDb) : Prop where
  keyed : StintsKeyed db'
  members : db'.members = db.members
  activity : db'.activity = db.activity
  others : ∀ p, p ≠ memberId → db'.stintsOf p = db.stintsOf p

section Writes

variable {db db' : PublisherDb} {memberId : Nat}

theorem stintsOf_append_of_ne {rows : List PioneerEnrolment} {e : PioneerEnrolment} {p : Nat}
    (h : e.memberId ≠ p) : (rows ++ [e]).filter (·.memberId == p) = rows.filter (·.memberId == p) := by
  rw [List.filter_append, List.filter_cons_of_neg (by simpa using h), List.filter_nil, List.append_nil]

theorem StintsKeyed.open (h : StintsKeyed db) {params : OpenEnrolmentParams}
    (hmember : memberId ∈ db.members) :
    WritesStintsOf db memberId (db.createEnrolment (newEnrolment memberId params)) := by
  refine ⟨⟨h.keyed.append_next h.id_lt rfl, lt_append_next h.id_lt rfl, ?_⟩, rfl, rfl,
    fun p hp => stintsOf_append_of_ne hp.symm⟩
  · intro e he
    rcases List.mem_append.mp he with hold | hnew
    · exact h.known e hold
    · rw [List.mem_singleton.mp hnew]
      exact hmember

/-- A stint rewritten stays its member's. -/
theorem StintsKeyed.rewrite (h : StintsKeyed db) {existing : PioneerEnrolment} {id : Nat}
    (hfound : db.enrolmentById id = some existing) {data : PioneerEnrolment → PioneerEnrolment}
    (hid : ∀ e, (data e).id = e.id) (hmember : ∀ e, (data e).memberId = e.memberId) :
    WritesStintsOf db existing.memberId (db.updateEnrolmentRow id data) := by
  obtain ⟨hexisting, rfl⟩ := enrolmentById_mem hfound
  have hsame : ∀ e : PioneerEnrolment, (if e.id = existing.id then data e else e).id = e.id :=
    fun e => column_ite (hid e)
  have hsameMember : ∀ e : PioneerEnrolment,
      (if e.id = existing.id then data e else e).memberId = e.memberId := fun e => column_ite (hmember e)
  refine ⟨⟨h.keyed.map hsame, ?_, ?_⟩, rfl, rfl, ?_⟩
  · intro e' he'
    obtain ⟨e, he, rfl⟩ := List.mem_map.mp he'
    rw [hsame]
    exact h.id_lt e he
  · intro e' he'
    obtain ⟨e, he, rfl⟩ := List.mem_map.mp he'
    rw [hsameMember]
    exact h.known e he
  · intro p hp
    show (db.enrolments.map fun e => if e.id = existing.id then data e else e).filter _ = _
    have hlane : ((·.memberId == p) ∘ fun e : PioneerEnrolment => if e.id = existing.id then data e else e) =
        (·.memberId == p) := by
      funext e
      show ((if e.id = existing.id then data e else e).memberId == p) = _
      rw [hsameMember]
    rw [List.filter_map, hlane]
    refine (List.map_congr_left fun e he => ?_).trans (List.map_id _)
    obtain ⟨he, hep⟩ := List.mem_filter.mp he
    -- the row rewritten is another member's
    refine if_neg fun hkey => hp ?_
    rw [← h.keyed.eq_of_key he hexisting hkey]
    exact (beq_iff_eq.mp hep).symm

theorem StintsKeyed.delete (h : StintsKeyed db) {existing : PioneerEnrolment} {id : Nat}
    (hfound : db.enrolmentById id = some existing) :
    WritesStintsOf db existing.memberId (db.deleteEnrolmentRow id) := by
  obtain ⟨hexisting, rfl⟩ := enrolmentById_mem hfound
  refine ⟨⟨h.keyed.filter _, fun e he => h.id_lt e (List.mem_of_mem_filter he),
    fun e he => h.known e (List.mem_of_mem_filter he)⟩, rfl, rfl, ?_⟩
  intro p hp
  show (db.enrolments.filter _).filter _ = db.enrolments.filter _
  rw [List.filter_filter]
  refine List.filter_congr fun e he => ?_
  cases hep : e.memberId == p with
  | false => rfl
  | true =>
    rw [Bool.true_and, bne_iff_ne]
    intro hkey
    apply hp
    rw [← h.keyed.eq_of_key he hexisting hkey]
    exact (beq_iff_eq.mp hep).symm

/-! ## What the aggregate leaves -/

variable {enrolment : PioneerEnrolment}

/-- What an opening that completes does: it adds the row of a member who is there. -/
theorem openEnrolment_ok {params : OpenEnrolmentParams}
    (hexec : (openEnrolment memberId params).exec db = (.ok enrolment, db')) :
    memberId ∈ db.members ∧ db' = db.createEnrolment (newEnrolment memberId params) := by
  unfold openEnrolment at hexec
  rw [Tx.exec_bind_get, Tx.exec_bind_check_ok] at hexec
  obtain ⟨row, hchecks, hexec⟩ := hexec
  rw [Tx.exec_bind_modify] at hexec
  obtain ⟨-, rfl⟩ := Tx.exec_pure_ok.mp hexec
  unfold openChecks at hchecks
  simp only [Tx.bind_eq_ok, Tx.exists_unit] at hchecks
  obtain ⟨-, -, hmember, hrow⟩ := hchecks
  obtain rfl : newEnrolment memberId params = row := Except.ok.inj hrow
  exact ⟨not_not.mp (Tx.refuseWhen_ok.mp hmember), rfl⟩

theorem openEnrolment_writes (h : StintsKeyed db) {params : OpenEnrolmentParams}
    (hexec : (openEnrolment memberId params).exec db = (.ok enrolment, db')) :
    WritesStintsOf db memberId db' := by
  obtain ⟨hmember, rfl⟩ := openEnrolment_ok hexec
  exact h.open hmember

theorem closeEnrolment_writes (h : StintsKeyed db) {id : Nat} {stop : EndMonth}
    (hexec : (closeEnrolment id stop).exec db = (.ok enrolment, db')) :
    WritesStintsOf db enrolment.memberId db' := by
  obtain ⟨existing, hchecks, rfl, rfl⟩ := closeEnrolment_ok.mp hexec
  exact h.rewrite (closeChecks_found hchecks) (fun _ => rfl) fun _ => rfl

theorem updateEnrolment_writes (h : StintsKeyed db) {id : Nat} {params : UpdateEnrolmentParams}
    (hexec : (updateEnrolment id params).exec db = (.ok enrolment, db')) :
    WritesStintsOf db enrolment.memberId db' := by
  unfold updateEnrolment at hexec
  rw [Tx.exec_bind_get, Tx.exec_bind_check_ok] at hexec
  obtain ⟨existing, hchecks, hexec⟩ := hexec
  rw [Tx.exec_bind_modify] at hexec
  obtain ⟨rfl, rfl⟩ := Tx.exec_pure_ok.mp hexec
  have hfound : db.enrolmentById id = some existing := by
    unfold updateChecks at hchecks
    cases hrow : db.enrolmentById id with
    | none => simp [hrow] at hchecks
    | some row =>
      rw [hrow] at hchecks
      simp only [Tx.bind_eq_ok, Tx.exists_unit] at hchecks
      rw [Except.ok.inj hchecks.2.2]
  exact h.rewrite hfound (fun _ => rfl) fun _ => rfl

theorem deleteEnrolment_writes (h : StintsKeyed db) {id : Nat}
    (hexec : (deleteEnrolment id).exec db = (.ok enrolment, db')) :
    WritesStintsOf db enrolment.memberId db' := by
  unfold deleteEnrolment at hexec
  rw [Tx.exec_bind_get, Tx.exec_bind_check_ok] at hexec
  obtain ⟨existing, hchecks, hexec⟩ := hexec
  rw [Tx.exec_bind_modify] at hexec
  obtain ⟨rfl, rfl⟩ := Tx.exec_pure_ok.mp hexec
  have hfound : db.enrolmentById id = some existing := by
    unfold PublisherDb.enrolmentOrRefuse at hchecks
    cases hrow : db.enrolmentById id with
    | none => simp [hrow] at hchecks
    | some row =>
      rw [hrow] at hchecks
      rw [Except.ok.inj hchecks]
  exact h.delete hfound

/-- The stints of the members of `ids` alone were written. -/
structure WritesStintsAmong (db : PublisherDb) (ids : List Nat) (db' : PublisherDb) : Prop where
  keyed : StintsKeyed db'
  members : db'.members = db.members
  activity : db'.activity = db.activity
  others : ∀ p, p ∉ ids → db'.stintsOf p = db.stintsOf p

/-- The closes of the loop are of the stints it was given. -/
theorem endOngoing_writes (h : StintsKeyed db) {type : PublisherType} {stop : EndMonth} {ended : Ended}
    (hexec : (endOngoingEnrolmentsOfType type stop).exec db = (.ok ended, db')) :
    WritesStintsAmong db ((db.startedOngoing type stop).map (·.memberId)) db' := by
  unfold endOngoingEnrolmentsOfType at hexec
  rw [Tx.exec_bind_get] at hexec
  obtain ⟨db₁, hloop, hret⟩ := Tx.exec_seq_ok.mp hexec
  obtain ⟨-, rfl⟩ := Tx.exec_pure_ok.mp hret
  have hkept : WritesStintsAmong db ((db.startedOngoing type stop).map (·.memberId)) db' ∧
      ∀ e' ∈ db'.enrolments, ∃ e ∈ db.enrolments, e.id = e'.id ∧ e.memberId = e'.memberId := by
    refine Tx.forM_invariant (I := fun _ s =>
      WritesStintsAmong db ((db.startedOngoing type stop).map (·.memberId)) s ∧
        ∀ e' ∈ s.enrolments, ∃ e ∈ db.enrolments, e.id = e'.id ∧ e.memberId = e'.memberId) hloop
      ⟨⟨h, rfl, rfl, fun _ _ => rfl⟩, fun e he => ⟨e, he, rfl, rfl⟩⟩ ?_
    intro done stint rest hsplit s s' hI hturn
    obtain ⟨hs, hrows⟩ := hI
    have hstint : stint ∈ db.startedOngoing type stop := by
      unfold PublisherDb.startedOngoing
      rw [hsplit]
      exact List.mem_append_right _ List.mem_cons_self
    have hmem : stint ∈ db.enrolments := List.mem_of_mem_filter (List.mem_of_mem_filter hstint)
    obtain ⟨row, s₁, hclose, hret⟩ := Tx.exec_bind_ok.mp hturn
    obtain ⟨-, rfl⟩ := Tx.exec_pure_ok.mp hret
    have hwrites := closeEnrolment_writes hs.keyed hclose
    obtain ⟨existing, hchecks, rfl, rfl⟩ := closeEnrolment_ok.mp hclose
    obtain ⟨hexisting, hid⟩ := enrolmentById_mem (closeChecks_found hchecks)
    -- the row found under the id is still the member's of the stint
    obtain ⟨e, he, hsameId, hsameMember⟩ := hrows existing hexisting
    obtain rfl : e = stint := h.keyed.eq_of_key he hmem (hsameId.trans hid)
    have hlisted : existing.memberId ∈ (db.startedOngoing type stop).map (·.memberId) :=
      List.mem_map.mpr ⟨e, hstint, hsameMember⟩
    refine ⟨⟨hwrites.keyed, hwrites.members.trans hs.members, hwrites.activity.trans hs.activity, ?_⟩, ?_⟩
    · intro p hp
      have hne : p ≠ existing.memberId := by
        rintro rfl
        exact hp hlisted
      exact (hwrites.others p hne).trans (hs.others p hp)
    · intro e' he'
      rcases mem_updateEnrolmentRow he' with ⟨hold, -⟩ | ⟨e₀, he₀, -, rfl⟩
      · exact hrows e' hold
      · exact hrows e₀ he₀
  exact hkept.1

end Writes

end Unitae.Publishers
