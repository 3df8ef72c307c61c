import Unitae.Publishers.Members
import Unitae.Settings.Archive

/-!
# Unitae — importing members and accounts (`import-user-accounts.server.ts`)

Each archived member becomes a new member, whose identity roles are synced at once. An archived account is found
by its email or created; an email is held once among all congregations, so that an account of
another congregation stands in the way of one: it is passed over when the connection sees it, and
refused by the database when the row policies hide it.

Of an account the columns kept are those of `Roles/Schema.lean`; the two columns of a member about
emergencies are left out.
-/

namespace Unitae.Settings

open Publishers

structure PeopleDb where
  directory : MemberDb
  nextAccountId : Nat
  /-- The emails that accounts of other congregations hold. -/
  otherEmails : List String
deriving DecidableEq, Repr

abbrev PeopleTx (α : Type) := Tx PeopleDb Failure α

/-- A transaction over the congregation's own tables. -/
def inDirectory {α : Type} (x : MemberTx α) : PeopleTx α :=
  x.on PeopleDb.directory fun db directory => { db with directory := directory }

/-! ## Records -/

/-- A line of `members.ndjson`; older archives lack some columns. -/
structure MemberRecord where
  id : Int
  firstname : String
  lastname : String
  isPublisher : Bool
  isMale : Option Bool
  phone : String
  address : String
  email : Option String
  birthDate : Option String
  baptismDate : Option String
  isHelder : Bool
  isServant : Bool
  isAnointed : Bool
  leftAt : Option String
  inactiveAt : Option String
  anonymizedAt : Option String
  arrivedAt : Option String
  lastPastoralVisitAt : Option String
  publisherGroupId : Option Int
deriving DecidableEq, Repr

/-- A line of `user-accounts.ndjson`. -/
structure AccountRecord where
  id : Int
  memberId : Option Int
  firstname : Option String
  lastname : Option String
  email : String
  active : Bool
  emailVerifiedAt : Option String
  anonymizedAt : Option String
deriving DecidableEq, Repr

/-- The export step `members`. -/
def Member.record (rt : DateText) (m : Member) : MemberRecord where
  id := m.id
  firstname := m.firstname
  lastname := m.lastname
  isPublisher := m.isPublisher
  isMale := m.isMale
  phone := m.phone
  address := m.address
  email := some m.email
  birthDate := m.birthDate.map rt.toISOString
  baptismDate := m.baptismDate.map rt.toISOString
  isHelder := m.isHelder
  isServant := m.isServant
  isAnointed := m.isAnointed
  leftAt := m.leftAt.map rt.toISOString
  inactiveAt := m.inactiveAt.map rt.toISOString
  anonymizedAt := m.anonymizedAt.map rt.toISOString
  arrivedAt := m.arrivedAt.map rt.toISOString
  lastPastoralVisitAt := m.lastPastoralVisitAt.map rt.toISOString
  publisherGroupId := m.publisherGroupId.map fun g => (g : Int)

/-- The export step `user-accounts`; `emailVerifiedAt` is a column that is not kept here. -/
def UserAccount.record (rt : DateText) (a : Roles.UserAccount) : AccountRecord where
  id := a.id
  memberId := a.memberId.map fun m => (m : Int)
  firstname := a.firstname
  lastname := a.lastname
  email := a.email
  active := a.active
  emailVerifiedAt := none
  anonymizedAt := a.anonymizedAt.map rt.toISOString

/-! ## Members -/

/-- The row a record creates, in no group yet. -/
def MemberRecord.row (rt : DateText) (record : MemberRecord) : Except Failure (Nat → Member) := do
  let birthDate ← dateOrNull rt record.birthDate
  let baptismDate ← dateOrNull rt record.baptismDate
  let arrivedAt ← dateOrNull rt record.arrivedAt
  let lastPastoralVisitAt ← dateOrNull rt record.lastPastoralVisitAt
  let leftAt ← dateOrNull rt record.leftAt
  let inactiveAt ← dateOrNull rt record.inactiveAt
  let anonymizedAt ← dateOrNull rt record.anonymizedAt
  return fun id =>
    { id := id, firstname := record.firstname, lastname := record.lastname,
      isMale := record.isMale, birthDate := birthDate, phone := record.phone,
      address := record.address, email := record.email.getD "", isPublisher := record.isPublisher,
      baptismDate := baptismDate, isAnointed := record.isAnointed, isHelder := record.isHelder,
      isServant := record.isServant, publisherGroupId := none, arrivedAt := arrivedAt,
      lastPastoralVisitAt := lastPastoralVisitAt, leftAt := leftAt, inactiveAt := inactiveAt,
      anonymizedAt := anonymizedAt }

/-- One turn of `importMembers`. -/
def importMember (rt : DateText) (idMap : EntityIdMap) (record : MemberRecord) :
    MemberTx EntityIdMap := do
  let row ← Tx.check (record.row rt)
  let db ← get
  modify fun db => syncBuiltInRoleAssignments db.nextMemberId (db.createMember row)
  return idMap.set .members record.id db.nextMemberId

def importMembers (rt : DateText) (records : List MemberRecord) (idMap : EntityIdMap) :
    MemberTx EntityIdMap :=
  records.foldlM (importMember rt) idMap

/-- The turn, once the dates of the record are read. -/
theorem importMember_exec {rt : DateText} {idMap : EntityIdMap} {record : MemberRecord}
    {row : Nat → Member} {db : MemberDb} (hrow : record.row rt = .ok row) :
    (importMember rt idMap record).exec db =
      (.ok (idMap.set .members record.id db.nextMemberId),
        syncBuiltInRoleAssignments db.nextMemberId (db.createMember row)) := by
  unfold importMember
  rw [Tx.exec_bind, Tx.exec_check, hrow]
  rfl

theorem importMember_ok {rt : DateText} {idMap idMap' : EntityIdMap} {record : MemberRecord}
    {db db' : MemberDb} (h : (importMember rt idMap record).exec db = (.ok idMap', db')) :
    ∃ row, record.row rt = .ok row ∧ idMap' = idMap.set .members record.id db.nextMemberId ∧
      db' = syncBuiltInRoleAssignments db.nextMemberId (db.createMember row) := by
  cases hrow : record.row rt with
  | error e =>
    unfold importMember at h
    rw [hrow, Tx.exec_bind, Tx.exec_check] at h
    cases h
  | ok row =>
    rw [importMember_exec hrow] at h
    cases h
    exact ⟨row, rfl, rfl, rfl⟩

/-- A loop over members numbers them, and touches neither accounts nor seats. -/
theorem importMembers_ok {rt : DateText} {records : List MemberRecord} {idMap idMap' : EntityIdMap}
    {db db' : MemberDb} (h : (importMembers rt records idMap).exec db = (.ok idMap', db'))
    (hids : Keyed (·.id) records) :
    Numbers .members (records.map (·.id)) idMap idMap' db.nextMemberId db'.nextMemberId ∧
      db'.accounts = db.accounts := by
  refine Tx.foldlM_done (I := fun done m s =>
    Numbers .members (done.map (·.id)) idMap m db.nextMemberId s.nextMemberId ∧
      s.accounts = db.accounts) h ⟨Numbers.nil _ _ _, rfl⟩ ?_
  intro done record rest hrecords m s m' s' ⟨hnumbers, haccounts⟩ hturn
  obtain ⟨row, -, rfl, rfl⟩ := importMember_ok hturn
  rw [List.map_append, List.map_cons, List.map_nil]
  exact ⟨hnumbers.set (hids.not_mem_before hrecords), haccounts⟩

/-! ## Accounts -/

/-- `UserAccount.memberId` is unique; `except` is the row being written. -/
def MemberDb.memberTaken (db : MemberDb) (memberId except : Option Nat) : Bool :=
  memberId.isSome && db.accounts.any fun a => a.memberId == memberId && some a.id != except

/-- The account with the email is brought up to date. -/
def refreshAccount (idMap : EntityIdMap) (record : AccountRecord) (existing : Roles.UserAccount) :
    PeopleTx EntityIdMap := do
  let newMemberId := idMap.getOptional .members record.memberId
  let db ← get
  Tx.check (Tx.refuseWhen (MemberDb.memberTaken db.directory newMemberId (some existing.id) = true)
    (.database .uniqueConstraint))
  modify fun db => { db with directory := { db.directory with
    accounts := db.directory.accounts.map fun a =>
      if a.id = existing.id then
        { a with firstname := record.firstname, lastname := record.lastname,
                 active := record.active, memberId := newMemberId }
      else a } }
  return idMap.set .userAccounts record.id existing.id

/-- A new account, which cannot log in until it has a password. -/
def createAccount (rt : DateText) (idMap : EntityIdMap) (record : AccountRecord) :
    PeopleTx EntityIdMap := do
  let newMemberId := idMap.getOptional .members record.memberId
  let _ ← Tx.check (dateOrNull rt record.emailVerifiedAt)
  let anonymizedAt ← Tx.check (dateOrNull rt record.anonymizedAt)
  let db ← get
  Tx.check (Tx.refuseWhen (db.otherEmails.contains record.email = true ∨
    MemberDb.memberTaken db.directory newMemberId none = true) (.database .uniqueConstraint))
  modify fun db => { db with
    directory := { db.directory with
      accounts := db.directory.accounts ++
        [{ id := db.nextAccountId, memberId := newMemberId, firstname := record.firstname,
           lastname := record.lastname, email := record.email, active := record.active,
           anonymizedAt := anonymizedAt }] }
    nextAccountId := db.nextAccountId + 1 }
  return idMap.set .userAccounts record.id db.nextAccountId

/-- One turn of `importUserAccounts`. `seesAll`: the connection sees the accounts of other
congregations. -/
def importUserAccount (rt : DateText) (seesAll : Bool) (idMap : EntityIdMap)
    (record : AccountRecord) : PeopleTx EntityIdMap := do
  let db ← get
  match db.directory.accounts.find? (·.email == record.email) with
  | some existing => refreshAccount idMap record existing
  | none =>
    if (seesAll && db.otherEmails.contains record.email) = true then return idMap
    else createAccount rt idMap record

def importUserAccounts (rt : DateText) (seesAll : Bool) (records : List AccountRecord)
    (idMap : EntityIdMap) : PeopleTx EntityIdMap :=
  records.foldlM (importUserAccount rt seesAll) idMap

section Accounts

variable {rt : DateText} {seesAll : Bool} {idMap idMap' : EntityIdMap} {record : AccountRecord}
  {records : List AccountRecord} {db db' : PeopleDb}

/-- No account of the congregation holds an email that another congregation's holds. -/
def PeopleDb.EmailsOwn (db : PeopleDb) : Prop :=
  ∀ a ∈ db.directory.accounts, a.email ∉ db.otherEmails

/-- What a turn that completes does: it maps the record, unless its email is held elsewhere. -/
structure AccountTurn (record : AccountRecord) (idMap : EntityIdMap) (db : PeopleDb)
    (idMap' : EntityIdMap) (db' : PeopleDb) : Prop where
  otherEmails : db'.otherEmails = db.otherEmails
  members : db'.directory.members = db.directory.members
  own : db'.EmailsOwn
  mapped : record.email ∈ db.otherEmails ∧ idMap' = idMap ∨
    record.email ∉ db.otherEmails ∧ ∃ newId, idMap' = idMap.set .userAccounts record.id newId

theorem refreshAccount_turn {existing : Roles.UserAccount} (hown : db.EmailsOwn)
    (hexisting : existing ∈ db.directory.accounts) (hemail : existing.email = record.email)
    (h : (refreshAccount idMap record existing).exec db = (.ok idMap', db')) :
    AccountTurn record idMap db idMap' db' := by
  unfold refreshAccount at h
  rw [Tx.exec_bind_get, Tx.exec_bind_check_ok] at h
  obtain ⟨_, _, hrest⟩ := h
  rw [Tx.exec_bind_modify] at hrest
  obtain ⟨rfl, rfl⟩ := Tx.exec_pure_ok.mp hrest
  refine ⟨rfl, rfl, ?_, .inr ⟨?_, _, rfl⟩⟩
  · intro a ha
    obtain ⟨a₀, ha₀, rfl⟩ := List.mem_map.mp ha
    have hsame : ∀ b : Roles.UserAccount, (if a₀.id = existing.id then
        { b with firstname := record.firstname, lastname := record.lastname,
                 active := record.active,
                 memberId := idMap.getOptional .members record.memberId } else b).email = b.email := by
      intro b
      split <;> rfl
    rw [hsame]
    exact hown a₀ ha₀
  · rw [← hemail]
    exact hown existing hexisting

theorem createAccount_turn (hown : db.EmailsOwn)
    (h : (createAccount rt idMap record).exec db = (.ok idMap', db')) :
    AccountTurn record idMap db idMap' db' := by
  unfold createAccount at h
  rw [Tx.exec_bind_check_ok] at h
  obtain ⟨_, _, h⟩ := h
  rw [Tx.exec_bind_check_ok] at h
  obtain ⟨anonymizedAt, _, h⟩ := h
  rw [Tx.exec_bind_get, Tx.exec_bind_check_ok] at h
  obtain ⟨_, hchecks, h⟩ := h
  rw [Tx.exec_bind_modify] at h
  obtain ⟨rfl, rfl⟩ := Tx.exec_pure_ok.mp h
  have hfree : record.email ∉ db.otherEmails := by
    intro hmem
    exact Tx.refuseWhen_ok.mp hchecks (.inl (List.contains_iff_mem.mpr hmem))
  refine ⟨rfl, rfl, ?_, .inr ⟨hfree, _, rfl⟩⟩
  intro a ha
  rcases List.mem_append.mp ha with hold | hnew
  · exact hown a hold
  · rw [List.mem_singleton.mp hnew]
    exact hfree

theorem importUserAccount_turn (hown : db.EmailsOwn)
    (h : (importUserAccount rt seesAll idMap record).exec db = (.ok idMap', db')) :
    AccountTurn record idMap db idMap' db' := by
  unfold importUserAccount at h
  rw [Tx.exec_bind_get] at h
  cases hfound : db.directory.accounts.find? (·.email == record.email) with
  | some existing =>
    rw [hfound] at h
    have hemail : existing.email = record.email := by simpa using List.find?_some hfound
    exact refreshAccount_turn hown (List.mem_of_find?_eq_some hfound) hemail h
  | none =>
    rw [hfound] at h
    dsimp only at h
    by_cases hseen : (seesAll && db.otherEmails.contains record.email) = true
    · rw [if_pos hseen] at h
      obtain ⟨rfl, rfl⟩ := Tx.exec_pure_ok.mp h
      have hmem : record.email ∈ db'.otherEmails := by
        rw [Bool.and_eq_true] at hseen
        exact List.contains_iff_mem.mp hseen.2
      exact ⟨rfl, rfl, hown, .inl ⟨hmem, rfl⟩⟩
    · rw [if_neg hseen] at h
      exact createAccount_turn hown h

/-- What the turns so far have mapped, in a map that had no account at first. -/
structure AccountsMapped (idMap : EntityIdMap) (db : PeopleDb) (done : List AccountRecord)
    (m : EntityIdMap) (s : PeopleDb) : Prop where
  other : ∀ entity, entity ≠ .userAccounts → ∀ oldId, m.find entity oldId = idMap.find entity oldId
  mapped : ∀ record ∈ done,
    (m.find .userAccounts record.id).isSome ↔ record.email ∉ db.otherEmails
  missing : ∀ oldId, oldId ∉ done.map (·.id) → m.find .userAccounts oldId = none
  otherEmails : s.otherEmails = db.otherEmails
  members : s.directory.members = db.directory.members
  own : s.EmailsOwn

theorem AccountsMapped.turn {done : List AccountRecord} {m m' : EntityIdMap} {s s' : PeopleDb}
    (h : AccountsMapped idMap db done m s) (hturn : AccountTurn record m s m' s')
    (hnew : record.id ∉ done.map (·.id)) : AccountsMapped idMap db (done ++ [record]) m' s' := by
  have hmapped := hturn.mapped
  rw [h.otherEmails] at hmapped
  have hne : ∀ r ∈ done, record.id ≠ r.id :=
    fun r hr hsame => hnew (hsame ▸ List.mem_map.mpr ⟨r, hr, rfl⟩)
  have hnot : ∀ oldId, oldId ∉ (done ++ [record]).map (·.id) →
      oldId ∉ done.map (·.id) ∧ oldId ≠ record.id := by simp
  rcases hmapped with ⟨hheld, rfl⟩ | ⟨hfree, newId, rfl⟩
  · refine ⟨h.other, fun r hr => ?_, fun oldId hold => h.missing oldId (hnot oldId hold).1,
      hturn.otherEmails.trans h.otherEmails, hturn.members.trans h.members, hturn.own⟩
    rcases List.mem_append.mp hr with hold | hlast
    · exact h.mapped r hold
    · rw [List.mem_singleton.mp hlast, h.missing _ hnew]
      simpa using hheld
  · refine ⟨fun entity hentity oldId => ?_, fun r hr => ?_, fun oldId hold => ?_,
      hturn.otherEmails.trans h.otherEmails, hturn.members.trans h.members, hturn.own⟩
    · rw [EntityIdMap.find_set_of_ne fun heq => hentity heq.symm]
      exact h.other entity hentity oldId
    · rcases List.mem_append.mp hr with hold | hlast
      · rw [EntityIdMap.find_set, if_neg fun hsame => hne r hold hsame.2]
        exact h.mapped r hold
      · rw [List.mem_singleton.mp hlast, EntityIdMap.find_set_self]
        exact iff_of_true rfl hfree
    · rw [EntityIdMap.find_set, if_neg fun hsame => (hnot oldId hold).2 hsame.2.symm]
      exact h.missing oldId (hnot oldId hold).1

/-- The accounts that the map has at the end are those whose email no other congregation holds. -/
theorem importUserAccounts_ok (hown : db.EmailsOwn) (hids : Keyed (·.id) records)
    (hnone : ∀ oldId, idMap.find .userAccounts oldId = none)
    (h : (importUserAccounts rt seesAll records idMap).exec db = (.ok idMap', db')) :
    AccountsMapped idMap db records idMap' db' := by
  refine Tx.foldlM_done h
    ⟨fun _ _ _ => rfl, fun _ h => absurd h List.not_mem_nil, fun oldId _ => hnone oldId, rfl, rfl,
      hown⟩ fun done record rest hrecords m s m' s' hmapped hturn => ?_
  exact hmapped.turn (importUserAccount_turn hmapped.own hturn) (hids.not_mem_before hrecords)

end Accounts

end Unitae.Settings
