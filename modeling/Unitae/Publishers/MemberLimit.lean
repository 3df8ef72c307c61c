import Unitae.Base.Run
import Unitae.Base.Table
import Unitae.Publishers.Members

/-!
# Unitae — the member limit under concurrent transactions

Transactions run at Postgres's default isolation: each reads what is committed when it checks, and its
writes are seen by the others once it commits. So a transaction here is two events, `start`, which reads
and decides, and `commit`, which writes into whatever has been committed meanwhile; between the two any
events of other transactions may fall. Only `createMember` counts the members, at its `start`.
-/

namespace Unitae.Publishers

/-! ## Transactions in two halves -/

inductive MemberOperation where
  | createMember (params : MemberFormFields)
  | createDirect (params : CreateDirectParams)
  | setLifecycle (memberId : Nat) (state : Roles.LifecycleState) (at_ : Option Instant) (now : Instant)
  | anonymize (memberId : Nat) (now : Instant)

/-- What a transaction that has made its checks is going to write. -/
inductive PendingWrite where
  | insert (row : Nat → Member)
  | lifecycle (seen : LifecycleRead) (state : Roles.LifecycleState) (date : Instant)
  | scrub (seen : Member) (now : Instant)

/-- The checks of an operation; `none` when it finds nothing to do. -/
def MemberOperation.read (rt : PersonText) (maxPublishers : Option Nat) (db : MemberDb) :
    MemberOperation → Except Failure (Option PendingWrite)
  | .createMember params => do
    let row ← createMemberChecks rt db maxPublishers params
    return some (.insert row)
  | .createDirect params => .ok (some (.insert params.row))
  | .setLifecycle memberId state at_ now => do
    let seen ← setLifecycleRead db memberId state
    return seen.map fun seen => .lifecycle seen state (at_.getD now)
  | .anonymize memberId now => do
    let seen ← anonymizeRead db memberId
    return seen.map fun seen => .scrub seen now

def PendingWrite.run : PendingWrite → MemberTx Unit
  | .insert row => do
    let _ ← insertMember row
    return ()
  | .lifecycle seen state date => enterLifecycle seen state date
  | .scrub seen now => scrubMember seen now

/-- The operation as the aggregate has it, in one piece. -/
def MemberOperation.service (rt : PersonText) (maxPublishers : Option Nat) :
    MemberOperation → MemberTx Unit
  | .createMember params => do
    let _ ← Publishers.createMember rt maxPublishers params
    return ()
  | .createDirect params => do
    let _ ← Publishers.createDirect params
    return ()
  | .setLifecycle memberId state at_ now => Publishers.setLifecycle memberId state at_ now
  | .anonymize memberId now => Publishers.anonymize memberId now

/-- The two halves, one right after the other. -/
def MemberOperation.whole (rt : PersonText) (maxPublishers : Option Nat) (op : MemberOperation) :
    MemberTx Unit := do
  let db ← get
  match ← Tx.check (op.read rt maxPublishers db) with
  | none => pure ()
  | some write => write.run

/-- The halves are those of the service: run together they do what it does. -/
theorem whole_eq_service (rt : PersonText) (maxPublishers : Option Nat) (op : MemberOperation)
    (db : MemberDb) :
    (op.whole rt maxPublishers).exec db = (op.service rt maxPublishers).exec db := by
  unfold MemberOperation.whole
  rw [Tx.exec_bind_get, Tx.exec_bind, Tx.exec_check]
  cases op with
  | createMember params =>
    unfold MemberOperation.service Publishers.createMember MemberOperation.read
    dsimp only
    rw [Tx.exec_bind, Tx.exec_bind_get, Tx.exec_bind, Tx.exec_check]
    cases createMemberChecks rt db maxPublishers params with
    | error e => rfl
    | ok row => exact Tx.exec_bind _ _ _
  | createDirect params => rfl
  | setLifecycle memberId state at_ now =>
    unfold MemberOperation.service Publishers.setLifecycle MemberOperation.read
    dsimp only
    rw [Tx.exec_bind_get, Tx.exec_bind, Tx.exec_check]
    cases setLifecycleRead db memberId state with
    | error e => rfl
    | ok seen => cases seen <;> rfl
  | anonymize memberId now =>
    unfold MemberOperation.service Publishers.anonymize MemberOperation.read
    dsimp only
    rw [Tx.exec_bind_get, Tx.exec_bind, Tx.exec_check]
    cases anonymizeRead db memberId with
    | error e => rfl
    | ok seen => cases seen <;> rfl

/-- The committed state, and the transactions between their checks and their commit. -/
structure Transactions where
  db : MemberDb
  inFlight : List PendingWrite

inductive TransactionEvent where
  | start (op : MemberOperation)
  | commit (i : Nat)

/-- A transaction whose checks pass goes into flight. -/
def Transactions.start (rt : PersonText) (max : Nat) (s : Transactions) (op : MemberOperation) :
    Transactions :=
  match op.read rt (some max) s.db with
  | .ok (some write) => { s with inFlight := s.inFlight ++ [write] }
  | _ => s

/-- A commit takes a transaction out of flight, wherever it stands; a write that the database refuses
leaves nothing. -/
def Transactions.commit (s : Transactions) (i : Nat) : Transactions :=
  match s.inFlight[i]? with
  | none => s
  | some write => ⟨write.run.settle (fun _ => false) s.db, s.inFlight.eraseIdx i⟩

def Transactions.step (rt : PersonText) (max : Nat) (s : Transactions) :
    TransactionEvent → Transactions
  | .start op => s.start rt max op
  | .commit i => s.commit i

/-! ## What a commit does to the count -/

/-- The keys of the member table. -/
structure MembersKeyed (db : MemberDb) : Prop where
  keyed : Keyed Member.id db.members
  id_lt : ∀ m ∈ db.members, m.id < db.nextMemberId

instance (db : MemberDb) : Decidable (MembersKeyed db) :=
  decidable_of_iff (Keyed Member.id db.members ∧ ∀ m ∈ db.members, m.id < db.nextMemberId)
    ⟨fun ⟨h₁, h₂⟩ => ⟨h₁, h₂⟩, fun ⟨h₁, h₂⟩ => ⟨h₁, h₂⟩⟩

/-- A row in flight takes the id it is given, and is that of an active member. -/
def PendingWrite.Sound : PendingWrite → Prop
  | .insert row => ∀ n, (row n).id = n ∧ (row n).counts = true
  | .lifecycle .. => True
  | .scrub .. => True

/-- The write, committed now, makes a member active: it creates one in a group that exists, or it brings
back one who has left and is not anonymized. -/
def PendingWrite.Activates (db : MemberDb) : PendingWrite → Prop
  | .insert row => db.GroupExists (row db.nextMemberId).publisherGroupId
  | .lifecycle seen state _ => state = .returned ∧
      ∃ m ∈ db.members, m.id = seen.memberId ∧ m.leftAt.isSome = true ∧ m.anonymizedAt.isNone = true
  | .scrub .. => False

instance (db : MemberDb) : (write : PendingWrite) → Decidable (write.Activates db)
  | .insert _ => inferInstanceAs (Decidable (db.GroupExists _))
  | .lifecycle .. => inferInstanceAs (Decidable (_ ∧ ∃ _ ∈ _, _))
  | .scrub .. => inferInstanceAs (Decidable False)

section Commit

variable {db db' : MemberDb} {write : PendingWrite}

theorem memberOrRefuse_cases (db : MemberDb) (p : Nat) (e : Failure) :
    (∃ m ∈ db.members, m.id = p ∧ db.memberOrRefuse p e = .ok m) ∨
      (∀ m ∈ db.members, m.id ≠ p) ∧ db.memberOrRefuse p e = .error e := by
  unfold MemberDb.memberOrRefuse MemberDb.memberById
  cases hfound : db.members.find? (·.id == p) with
  | some m =>
    exact .inl ⟨m, List.mem_of_find?_eq_some hfound, by simpa using List.find?_some hfound, rfl⟩
  | none => exact .inr ⟨by simpa using hfound, rfl⟩

/-- A rewrite by an id that is not there changes nothing. -/
theorem updateMember_absent {p : Nat} {data : Member → Member} (h : ∀ m ∈ db.members, m.id ≠ p) :
    (db.updateMember p data).members = db.members :=
  (List.map_congr_left (g := id) fun m hm => if_neg (h m hm)).trans (List.map_id _)

/-- The members a commit leaves: one more, or one rewritten. -/
def PendingWrite.membersAfter (db : MemberDb) : PendingWrite → List Member
  | .insert row =>
    if db.GroupExists (row db.nextMemberId).publisherGroupId then
      db.members ++ [row db.nextMemberId]
    else db.members
  | .lifecycle seen state date =>
    (db.updateMember seen.memberId (Member.enter state seen.leftAt date)).members
  | .scrub seen now => (db.updateMember seen.id (Member.scrub seen.leftAt now)).members

def PendingWrite.nextAfter (db : MemberDb) : PendingWrite → Nat
  | .insert row =>
    if db.GroupExists (row db.nextMemberId).publisherGroupId then db.nextMemberId + 1
    else db.nextMemberId
  | .lifecycle .. => db.nextMemberId
  | .scrub .. => db.nextMemberId

theorem syncWhen_exec_members (changed : Bool) (memberId : Nat) :
    ∃ s, (syncWhen changed memberId).exec db = (.ok (), s) ∧ s.members = db.members ∧
      s.nextMemberId = db.nextMemberId := by
  cases changed with
  | true => exact ⟨_, rfl, rfl, rfl⟩
  | false => exact ⟨_, rfl, rfl, rfl⟩

theorem deleteSeatsOf_members (account : Option Nat) :
    (deleteSeatsOf account db).members = db.members ∧
      (deleteSeatsOf account db).nextMemberId = db.nextMemberId := by
  cases account with
  | none => exact ⟨rfl, rfl⟩
  | some userId => exact ⟨rfl, rfl⟩

theorem insert_commits (row : Nat → Member) (db : MemberDb) :
    ((PendingWrite.insert row).run.settle (fun _ => false) db).members =
        (PendingWrite.insert row).membersAfter db ∧
      ((PendingWrite.insert row).run.settle (fun _ => false) db).nextMemberId =
        (PendingWrite.insert row).nextAfter db := by
  by_cases hexists : db.GroupExists (row db.nextMemberId).publisherGroupId
  · have hchecks : Tx.refuseWhen (¬db.GroupExists (row db.nextMemberId).publisherGroupId)
        (Failure.database .foreignKey) = .ok () := Tx.refuseWhen_ok.mpr (not_not.mpr hexists)
    have hexec : (PendingWrite.insert row).run.exec db = (.ok (),
        syncBuiltInRoleAssignments db.nextMemberId (db.createMember row)) := by
      show ((insertMember row >>= fun _ => pure ()) : MemberTx Unit).exec db = _
      unfold insertMember
      rw [Tx.exec_bind, Tx.exec_bind_get, Tx.exec_bind, Tx.exec_check, hchecks]
      rfl
    rw [Tx.settle_ok hexec]
    exact ⟨(if_pos hexists).symm, (if_pos hexists).symm⟩
  · have hchecks : Tx.refuseWhen (¬db.GroupExists (row db.nextMemberId).publisherGroupId)
        (Failure.database .foreignKey) = .error (.database .foreignKey) := if_pos hexists
    have hexec : (PendingWrite.insert row).run.exec db = (.error (.database .foreignKey), db) := by
      show ((insertMember row >>= fun _ => pure ()) : MemberTx Unit).exec db = _
      unfold insertMember
      rw [Tx.exec_bind, Tx.exec_bind_get, Tx.exec_bind, Tx.exec_check, hchecks]
    rw [Tx.settle, hexec]
    exact ⟨(if_neg hexists).symm, (if_neg hexists).symm⟩

theorem enterLifecycle_commits (seen : LifecycleRead) (state : Roles.LifecycleState) (date : Instant)
    (db : MemberDb) :
    ((enterLifecycle seen state date).settle (fun _ => false) db).members =
        (db.updateMember seen.memberId (Member.enter state seen.leftAt date)).members ∧
      ((enterLifecycle seen state date).settle (fun _ => false) db).nextMemberId =
        db.nextMemberId := by
  rcases memberOrRefuse_cases db seen.memberId (.database .recordNotFound) with
    ⟨m, _, _, hfound⟩ | ⟨habsent, hfound⟩
  · obtain ⟨s, hsync, hmembers, hnext⟩ :=
      @syncWhen_exec_members (db.updateMember seen.memberId (Member.enter state seen.leftAt date))
        state.syncsRoles seen.memberId
    have hexec : (enterLifecycle seen state date).exec db = (.ok (), deleteSeatsOf seen.account s) := by
      unfold enterLifecycle
      rw [Tx.exec_bind_get, Tx.exec_bind, Tx.exec_check, hfound]
      show ((modify _ >>= fun _ => syncWhen state.syncsRoles seen.memberId >>= fun _ =>
        modify (deleteSeatsOf seen.account)) : MemberTx Unit).exec db = _
      rw [Tx.exec_bind_modify, Tx.exec_bind, hsync]
      rfl
    obtain ⟨hseats, hseatsNext⟩ := @deleteSeatsOf_members s seen.account
    rw [Tx.settle_ok hexec, hseats, hseatsNext, hmembers, hnext]
    exact ⟨rfl, rfl⟩
  · have hexec : (enterLifecycle seen state date).exec db =
        (.error (.database .recordNotFound), db) := by
      unfold enterLifecycle
      rw [Tx.exec_bind_get, Tx.exec_bind, Tx.exec_check, hfound]
    rw [Tx.settle, hexec]
    exact ⟨(updateMember_absent habsent).symm, rfl⟩

theorem scrubMember_commits (seen : Member) (now : Instant) (db : MemberDb) :
    ((scrubMember seen now).settle (fun _ => false) db).members =
        (db.updateMember seen.id (Member.scrub seen.leftAt now)).members ∧
      ((scrubMember seen now).settle (fun _ => false) db).nextMemberId = db.nextMemberId := by
  rcases memberOrRefuse_cases db seen.id (.database .recordNotFound) with
    ⟨m, _, _, hfound⟩ | ⟨habsent, hfound⟩
  · have hexec : (scrubMember seen now).exec db = (.ok (), syncBuiltInRoleAssignments seen.id
        ((db.updateMember seen.id (Member.scrub seen.leftAt now)).updateGroups
          (·.deputyId == some seen.id) fun g => { g with deputyId := none })) := by
      unfold scrubMember
      rw [Tx.exec_bind_get, Tx.exec_bind, Tx.exec_check, hfound]
      rfl
    rw [Tx.settle_ok hexec]
    exact ⟨rfl, rfl⟩
  · have hexec : (scrubMember seen now).exec db = (.error (.database .recordNotFound), db) := by
      unfold scrubMember
      rw [Tx.exec_bind_get, Tx.exec_bind, Tx.exec_check, hfound]
    rw [Tx.settle, hexec]
    exact ⟨(updateMember_absent habsent).symm, rfl⟩

/-- **What a write leaves of the members**, when it goes through and when it is refused. -/
theorem commit_members (write : PendingWrite) (db : MemberDb) :
    (write.run.settle (fun _ => false) db).members = write.membersAfter db ∧
      (write.run.settle (fun _ => false) db).nextMemberId = write.nextAfter db := by
  cases write with
  | insert row => exact insert_commits row db
  | lifecycle seen state date => exact enterLifecycle_commits seen state date db
  | scrub seen now => exact scrubMember_commits seen now db

/-- Only a return lets a member who did not count count. -/
theorem counts_of_enter {m : Member} {state : Roles.LifecycleState} {leftAt : Option Instant}
    {date : Instant} (h : (m.enter state leftAt date).counts = true)
    (hno : ¬(state = .returned ∧ m.leftAt.isSome = true ∧ m.anonymizedAt.isNone = true)) :
    m.counts = true := by
  cases state with
  | left => simp [Member.enter, Member.counts] at h
  | returned =>
    simp only [Member.enter, Member.counts, Option.isNone_none, Bool.true_and] at h
    simp only [true_and, h, and_true, Bool.not_eq_true, Option.isSome_eq_false_iff] at hno
    simp only [Member.counts, hno, h, Bool.and_self]
  | active => exact h
  | inactive => exact h

theorem not_counts_scrub (m : Member) (leftAt : Option Instant) (now : Instant) :
    (m.scrub leftAt now).counts = false := by
  simp [Member.scrub, Member.counts]

/-- A commit that makes a member active adds one to the count, and no other adds to it. -/
theorem commit_count (hdb : MembersKeyed db) (hsound : write.Sound) :
    (write.Activates db →
      (write.run.settle (fun _ => false) db).countMembers = db.countMembers + 1) ∧
    (¬write.Activates db →
      (write.run.settle (fun _ => false) db).countMembers ≤ db.countMembers) := by
  unfold MemberDb.countMembers
  rw [(commit_members write db).1]
  cases write with
  | insert row =>
    constructor
    · intro hexists
      have hmembers : (PendingWrite.insert row).membersAfter db = db.members ++ [row db.nextMemberId] :=
        if_pos hexists
      rw [hmembers, List.filter_append, List.length_append,
        List.filter_cons_of_pos (hsound db.nextMemberId).2]
      rfl
    · intro hno
      have hmembers : (PendingWrite.insert row).membersAfter db = db.members := if_neg hno
      rw [hmembers]
  | lifecycle seen state date =>
    constructor
    · rintro ⟨rfl, m, hm, hid, hleft, halive⟩
      show ((db.updateMember seen.memberId _).members.filter Member.counts).length = _
      rw [← hid]
      refine hdb.keyed.length_filter_rewrite hm ?_ ?_
      · simp [Member.counts, Option.isNone_iff_eq_none, Option.isSome_iff_ne_none.mp hleft]
      · simp only [Member.enter, Member.counts, Option.isNone_none, halive, Bool.and_self]
    · intro hno
      refine length_filter_map_le fun m hm hcounts => ?_
      by_cases hid : m.id = seen.memberId
      · rw [if_pos hid] at hcounts
        exact counts_of_enter hcounts fun ⟨hstate, hleft⟩ => hno ⟨hstate, m, hm, hid, hleft⟩
      · rw [if_neg hid] at hcounts
        exact hcounts
  | scrub seen now =>
    refine ⟨fun h => h.elim, fun _ => length_filter_map_le fun m _ hcounts => ?_⟩
    split at hcounts
    · rw [not_counts_scrub] at hcounts
      cases hcounts
    · exact hcounts

theorem MembersKeyed.rewrite (hdb : MembersKeyed db) {p : Nat} {data : Member → Member}
    (hid : ∀ m, (data m).id = m.id) (hmembers : db'.members = (db.updateMember p data).members)
    (hnext : db'.nextMemberId = db.nextMemberId) : MembersKeyed db' := by
  have hsame : ∀ m : Member, (if m.id = p then data m else m).id = m.id := fun m => column_ite (hid m)
  constructor
  · rw [hmembers]
    exact hdb.keyed.map hsame
  · rw [hmembers, hnext]
    intro m' hm'
    obtain ⟨m, hm, rfl⟩ := List.mem_map.mp hm'
    rw [hsame]
    exact hdb.id_lt m hm

theorem MembersKeyed.commit (hdb : MembersKeyed db) (hsound : write.Sound) :
    MembersKeyed (write.run.settle (fun _ => false) db) := by
  obtain ⟨hmembers, hnext⟩ := commit_members write db
  cases write with
  | insert row =>
    by_cases hexists : db.GroupExists (row db.nextMemberId).publisherGroupId
    · have hafter := hmembers.trans (if_pos hexists)
      have hnextAfter := hnext.trans (if_pos hexists)
      constructor
      · rw [hafter]
        exact hdb.keyed.append_next hdb.id_lt (hsound db.nextMemberId).1
      · rw [hafter, hnextAfter]
        exact lt_append_next hdb.id_lt (hsound db.nextMemberId).1
    · have hafter := hmembers.trans (if_neg hexists)
      have hnextAfter := hnext.trans (if_neg hexists)
      constructor
      · rw [hafter]
        exact hdb.keyed
      · rw [hafter, hnextAfter]
        exact hdb.id_lt
  | lifecycle seen state date =>
    exact hdb.rewrite (Member.enter_id state seen.leftAt date) hmembers hnext
  | scrub seen now =>
    have hscrub : ∀ m, (Member.scrub seen.leftAt now m).id = m.id := fun _ => rfl
    exact hdb.rewrite hscrub hmembers hnext

end Commit

/-! ## Runs -/

/-- A commit that makes a member active finds the committed number below the maximum. -/
def Transactions.FindsRoom (max : Nat) (s : Transactions) : TransactionEvent → Prop
  | .start _ => True
  | .commit i => ∀ write ∈ s.inFlight[i]?, write.Activates s.db →
      checkWouldGoOverLimit s.db (some max) = false

instance (max : Nat) (s : Transactions) : (event : TransactionEvent) → Decidable (s.FindsRoom max event)
  | .start _ => inferInstanceAs (Decidable True)
  | .commit i => inferInstanceAs (Decidable (∀ _ ∈ s.inFlight[i]?, _ → _))

/-- The keys, and what is in flight. -/
structure Transactions.Sound (s : Transactions) : Prop where
  keyed : MembersKeyed s.db
  inFlight : ∀ write ∈ s.inFlight, write.Sound

def Transactions.Within (max : Nat) (s : Transactions) : Prop := s.db.countMembers ≤ max

section Runs

variable {rt : PersonText} {max : Nat} {s : Transactions}

/-- What the checks of an operation put in flight. -/
theorem read_sound {maxPublishers : Option Nat} {db : MemberDb} {op : MemberOperation}
    {write : PendingWrite} (h : op.read rt maxPublishers db = .ok (some write)) : write.Sound := by
  cases op with
  | createMember params =>
    obtain ⟨row, hchecks, hwrite⟩ := Tx.bind_eq_ok.mp h
    obtain rfl : PendingWrite.insert row = write := Option.some.inj (Except.ok.inj hwrite)
    obtain ⟨_, _, hchecks⟩ := Tx.bind_eq_ok.mp hchecks
    obtain ⟨data, _, hrow⟩ := Tx.bind_eq_ok.mp hchecks
    obtain rfl : newPublisher data = row := Except.ok.inj hrow
    exact fun _ => ⟨rfl, rfl⟩
  | createDirect params =>
    obtain rfl : PendingWrite.insert params.row = write := Option.some.inj (Except.ok.inj h)
    exact fun _ => ⟨rfl, rfl⟩
  | setLifecycle memberId state at_ now =>
    obtain ⟨seen, _, hwrite⟩ := Tx.bind_eq_ok.mp h
    obtain ⟨_, _, rfl⟩ := Option.map_eq_some_iff.mp (Except.ok.inj hwrite)
    trivial
  | anonymize memberId now =>
    obtain ⟨seen, _, hwrite⟩ := Tx.bind_eq_ok.mp h
    obtain ⟨_, _, rfl⟩ := Option.map_eq_some_iff.mp (Except.ok.inj hwrite)
    trivial

theorem Transactions.Sound.step (h : s.Sound) (event : TransactionEvent) :
    (s.step rt max event).Sound := by
  cases event with
  | start op =>
    show (s.start rt max op).Sound
    unfold Transactions.start
    split
    · next write hread =>
      refine ⟨h.keyed, fun w hw => ?_⟩
      rcases List.mem_append.mp hw with hold | hnew
      · exact h.inFlight w hold
      · rw [List.mem_singleton.mp hnew]
        exact read_sound hread
    · exact h
  | commit i =>
    show (s.commit i).Sound
    unfold Transactions.commit
    split
    · exact h
    · next write hwrite =>
      have hsound : write.Sound := h.inFlight write (List.mem_of_getElem? hwrite)
      exact ⟨h.keyed.commit hsound, fun w hw => h.inFlight w (List.mem_of_mem_eraseIdx hw)⟩

/-- The step lemma: a step from within the limit stays within it just when it finds room. -/
theorem within_step_iff (h : s.Sound) (hmax : s.Within max) (event : TransactionEvent) :
    (s.step rt max event).Within max ↔ s.FindsRoom max event := by
  cases event with
  | start op =>
    refine iff_of_true ?_ trivial
    show (s.start rt max op).Within max
    unfold Transactions.start
    split <;> exact hmax
  | commit i =>
    show (s.commit i).Within max ↔ ∀ write ∈ s.inFlight[i]?, write.Activates s.db →
      checkWouldGoOverLimit s.db (some max) = false
    unfold Transactions.commit
    split
    · next hnone => exact iff_of_true hmax fun write hwrite => by simp [hnone] at hwrite
    · next write hwrite =>
      have hsound : write.Sound := h.inFlight write (List.mem_of_getElem? hwrite)
      obtain ⟨hadds, hkeeps⟩ := commit_count h.keyed hsound
      have hroom : checkWouldGoOverLimit s.db (some max) = false ↔ s.db.countMembers < max := by
        simp [checkWouldGoOverLimit]
      rw [hwrite]
      show (write.run.settle (fun _ => false) s.db).countMembers ≤ max ↔ _
      by_cases hactive : write.Activates s.db
      · rw [hadds hactive]
        constructor
        · intro hlt w hw _
          exact hroom.mpr hlt
        · intro hall
          exact hroom.mp (hall write rfl hactive)
      · refine iff_of_true ((hkeeps hactive).trans hmax) fun w hw hactive' => ?_
        obtain rfl : write = w := Option.some.inj hw
        exact absurd hactive' hactive

/-- **The limit holds after every commit** of a run just when every commit that makes a member active
finds room in the state it commits into. -/
theorem limit_kept_iff {db : MemberDb} (hdb : MembersKeyed db) (hstart : db.countMembers ≤ max)
    (events : List TransactionEvent) :
    (∀ n, ((events.take n).foldl (Transactions.step rt max) ⟨db, []⟩).db.countMembers ≤ max) ↔
      Guarded (Transactions.step rt max) (Transactions.FindsRoom max) ⟨db, []⟩ events := by
  have hsound : Transactions.Sound ⟨db, []⟩ := ⟨hdb, fun w hw => absurd hw List.not_mem_nil⟩
  exact @guarded_iff_safe _ _ _ _ Transactions.Sound (Transactions.Within max)
    (fun _ event h => h.step event) (fun _ event h hmax => within_step_iff h hmax event) _ _ hsound
    hstart

/-- A creation that no other transaction overtakes finds the room its check saw. -/
theorem createMember_finds_room {params : MemberFormFields} {db : MemberDb} {write : PendingWrite}
    (h : (MemberOperation.createMember params).read rt (some max) db = .ok (some write)) {db' : MemberDb}
    (hsince : db'.countMembers ≤ db.countMembers) : checkWouldGoOverLimit db' (some max) = false := by
  obtain ⟨row, hchecks, _⟩ := Tx.bind_eq_ok.mp h
  obtain ⟨_, hlimit, _⟩ := Tx.bind_eq_ok.mp hchecks
  have hroom := Tx.refuseWhen_ok.mp hlimit
  simp only [checkWouldGoOverLimit, decide_eq_true_eq, not_le] at hroom
  simp only [checkWouldGoOverLimit, decide_eq_false_iff_not, not_le]
  omega

end Runs

/-! ## Two creations at once -/

/-- A congregation with no rows at all. -/
def noMembers : MemberDb where
  members := []
  groups := []
  otherGroupIds := []
  enrolments := []
  activity := []
  roles := []
  memberRoleAssignments := []
  accounts := []
  userRoleAssignments := []
  nextMemberId := 1
  nextGroupId := 1
  nextEnrolmentId := 1

def newMember (firstname : String) : TransactionEvent :=
  .start (.createMember ⟨firstname, "Martin", "male", none, none, false, false, false, none, "", "", "",
    none⟩)

theorem limit_kept_one :
    (([newMember "Paul", .commit 0, newMember "Luc"].take 3).foldl (Transactions.step .ascii 1)
      ⟨noMembers, []⟩).db.countMembers ≤ 1 :=
  (limit_kept_iff (by decide) (by decide) _).mpr (by decide +kernel) 3

/-- Both checks count before either creation commits. -/
theorem limit_exceeded :
    ¬∀ (rt : PersonText) (max : Nat) (db : MemberDb) (events : List TransactionEvent),
      MembersKeyed db → db.countMembers ≤ max →
        ∀ n, ((events.take n).foldl (Transactions.step rt max) ⟨db, []⟩).db.countMembers ≤ max := by
  intro hall
  have hafter := hall .ascii 1 noMembers [newMember "Paul", newMember "Luc", .commit 0, .commit 0]
    (by decide) (by decide) 4
  have htwo : (([newMember "Paul", newMember "Luc", .commit 0, .commit 0].take 4).foldl
      (Transactions.step .ascii 1) ⟨noMembers, []⟩).db.countMembers = 2 := by
    decide +kernel
  omega

end Unitae.Publishers
