import Unitae.Dates
import Unitae.Publishers.Enrolments
import Unitae.Roles.Accounts

/-!
# Unitae — the member aggregate (`member.aggregate.ts`)

The rows of the members, the field service groups and the logins of one congregation, and the
operations that create a member, edit one and take one through leaving, returning and anonymization.
Each operation reads, decides, and then writes; what stands between the two is split off (`…Read`,
`…Checks`) so that the interleavings of transactions can be told apart from one run after another.

The search columns (`firstnameNormalized`, `lastnameNormalized`), the emergency contacts, the record of a
deletion and the audit log are read by nothing here and are left out.
-/

namespace Unitae.Publishers

structure Member where
  id : Nat
  firstname : String
  lastname : String
  isMale : Option Bool
  birthDate : Option Instant
  phone : String
  address : String
  email : String
  isPublisher : Bool
  baptismDate : Option Instant
  isAnointed : Bool
  isHelder : Bool
  isServant : Bool
  publisherGroupId : Option Nat
  arrivedAt : Option Instant
  lastPastoralVisitAt : Option Instant
  leftAt : Option Instant
  inactiveAt : Option Instant
  anonymizedAt : Option Instant
deriving DecidableEq, Repr

structure PublisherGroup where
  id : Nat
  name : String
  adress : String
  responsibleId : Nat
  deputyId : Option Nat
deriving DecidableEq, Repr

structure MemberDb where
  members : List Member
  groups : List PublisherGroup
  /-- The groups of other congregations: no query sees them, but a foreign key does. -/
  otherGroupIds : List Nat
  enrolments : List PioneerEnrolment
  activity : List PublisherActivity
  roles : List Roles.Role
  memberRoleAssignments : List Roles.MemberRoleAssignment
  accounts : List Roles.UserAccount
  userRoleAssignments : List Roles.UserRoleAssignment
  nextMemberId : Nat
  nextGroupId : Nat
  nextEnrolmentId : Nat
deriving DecidableEq, Repr

abbrev MemberTx (α : Type) := Tx MemberDb Failure α

/-! ## Queries and writes -/

def MemberDb.memberById (db : MemberDb) (memberId : Nat) : Option Member :=
  db.members.find? (·.id == memberId)

def MemberDb.groupById (db : MemberDb) (groupId : Nat) : Option PublisherGroup :=
  db.groups.find? (·.id == groupId)

/-- `member.responsibleFor`. -/
def MemberDb.responsibleFor (db : MemberDb) (memberId : Nat) : Option PublisherGroup :=
  db.groups.find? (·.responsibleId == memberId)

/-- `member.deputyFor`. -/
def MemberDb.deputyFor (db : MemberDb) (memberId : Nat) : Option PublisherGroup :=
  db.groups.find? (·.deputyId == some memberId)

/-- The group a member leads, `responsibleFor ?? deputyFor`. -/
def MemberDb.led (db : MemberDb) (memberId : Nat) : Option PublisherGroup :=
  (db.responsibleFor memberId).orElse fun _ => db.deputyFor memberId

/-- `findFirst`, and the error when there is no such member. -/
def MemberDb.memberOrRefuse (db : MemberDb) (memberId : Nat) (e : Failure) :
    Except Failure Member :=
  match db.memberById memberId with
  | none => .error e
  | some member => .ok member

/-- The foreign key `Member.publisherGroupId`. -/
def MemberDb.GroupExists (db : MemberDb) (groupId : Option Nat) : Prop :=
  ∀ g ∈ groupId, g ∈ db.otherGroupIds ∨ g ∈ db.groups.map (·.id)

instance (db : MemberDb) (groupId : Option Nat) : Decidable (db.GroupExists groupId) :=
  inferInstanceAs (Decidable (∀ _ ∈ _, _))

@[simps]
def MemberDb.createMember (db : MemberDb) (row : Nat → Member) : MemberDb :=
  { db with members := db.members ++ [row db.nextMemberId], nextMemberId := db.nextMemberId + 1 }

/-- `db.member.update`. -/
@[simps]
def MemberDb.updateMember (db : MemberDb) (memberId : Nat) (data : Member → Member) : MemberDb :=
  { db with members := db.members.map fun m => if m.id = memberId then data m else m }

/-- `db.publisherGroup.update` and `updateMany`. -/
@[simps]
def MemberDb.updateGroups (db : MemberDb) (sel : PublisherGroup → Bool)
    (data : PublisherGroup → PublisherGroup) : MemberDb :=
  { db with groups := db.groups.map fun g => if sel g then data g else g }

@[simps]
def MemberDb.createGroup (db : MemberDb) (row : Nat → PublisherGroup) : MemberDb :=
  { db with groups := db.groups ++ [row db.nextGroupId], nextGroupId := db.nextGroupId + 1 }

/-- `db.publisherGroup.delete`: its members are left in no group (`ON DELETE SET NULL`). -/
@[simps]
def MemberDb.deleteGroup (db : MemberDb) (groupId : Nat) : MemberDb :=
  { db with
    groups := db.groups.filter fun g => g.id != groupId
    members := db.members.map fun m =>
      if m.publisherGroupId = some groupId then { m with publisherGroupId := none } else m }

/-- `db.userRoleAssignment.deleteMany({ where: { userId } })`. -/
@[simps]
def MemberDb.deleteSeatsOf (db : MemberDb) (userId : Nat) : MemberDb :=
  { db with userRoleAssignments := db.userRoleAssignments.filter fun a => a.userId != userId }

/-! ## Identity roles -/

def PublisherType.toRoles : PublisherType → Roles.PublisherType
  | .normal => .normal
  | .pionnierAuxiliaires => .pionnierAuxiliaires
  | .pionnierPermanant => .pionnierPermanant
  | .pionnierSpecial => .pionnierSpecial
  | .missionnaire => .missionnaire

def PioneerEnrolment.period (e : PioneerEnrolment) : Roles.EnrolmentPeriod where
  type := e.type.toRoles
  startMonth := e.startMonth
  startYear := e.startYear
  endMonth := e.endMonth
  endYear := e.endYear
  monthlyGoal := e.monthlyGoal

/-- The member as the identity roles read it, with the stints of the nested select. -/
def MemberDb.identity (db : MemberDb) (m : Member) : Roles.Member where
  id := m.id
  firstname := m.firstname
  lastname := m.lastname
  isMale := m.isMale
  isPublisher := m.isPublisher
  baptismDate := m.baptismDate
  isAnointed := m.isAnointed
  isHelder := m.isHelder
  isServant := m.isServant
  leftAt := m.leftAt
  inactiveAt := m.inactiveAt
  arrivedAt := m.arrivedAt
  pioneerEnrolments := (db.enrolments.filter fun e => e.memberId == m.id).map (·.period)

/-- The tables the role services see. -/
def MemberDb.roleDb (db : MemberDb) : Roles.RoleDb where
  roles := db.roles
  rolePermissions := []
  userRoleAssignments := db.userRoleAssignments
  memberRoleAssignments := db.memberRoleAssignments
  accounts := db.accounts
  members := db.members.map db.identity
  permissions := []
  nextRoleId := 0

@[simps]
def syncBuiltInRoleAssignments (memberId : Nat) (db : MemberDb) : MemberDb :=
  { db with memberRoleAssignments :=
      (Roles.syncBuiltInRoleAssignments memberId db.roleDb).memberRoleAssignments }

def syncWhen (changed : Bool) (memberId : Nat) : MemberTx Unit :=
  if changed then modify (syncBuiltInRoleAssignments memberId) else pure ()

/-! ## The member limit (`limits.server.ts`) -/

/-- Neither left nor anonymized. -/
def Member.counts (m : Member) : Bool := m.leftAt.isNone && m.anonymizedAt.isNone

/-- `LIMIT_COUNTERS.members`. -/
def MemberDb.countMembers (db : MemberDb) : Nat := (db.members.filter Member.counts).length

/-- `checkWouldGoOverLimit('members')`; a plan without a maximum has no limit. -/
def checkWouldGoOverLimit (db : MemberDb) (maxPublishers : Option Nat) : Bool :=
  match maxPublishers with
  | none => false
  | some max => max ≤ db.countMembers

def errorIfWouldGoOverLimit (db : MemberDb) (maxPublishers : Option Nat) : Except Failure Unit :=
  Tx.refuseWhen (checkWouldGoOverLimit db maxPublishers = true) (.app (.limitReached "members"))

/-! ## The form (`member-identity.ts`) -/

/-- What the runtime reads dates and writes names with. -/
structure PersonText where
  /-- `new Date(text)`; `none` is the invalid date, which the database refuses. -/
  newDate : String → Option Instant
  /-- `text.toLocaleUpperCase('fr')`. -/
  toLocaleUpperCase : String → String

/-- The runtime on names in ASCII, where no date has to be read. -/
def PersonText.ascii : PersonText := ⟨fun _ => none, String.toUpper⟩

/-- A submitted number; text that is none is `NaN`. -/
inductive SubmittedNumber where
  | nan
  | number (n : Nat)
deriving DecidableEq, Repr

structure MemberFormFields where
  firstname : String
  lastname : String
  gender : String
  birthDate : Option String
  baptismDate : Option String
  isHelder : Bool
  isServant : Bool
  isAnointed : Bool
  groupId : Option SubmittedNumber
  phone : String
  address : String
  email : String
  /-- Left out, the stored date is kept. -/
  arrivedAt : Option (Option String)
deriving DecidableEq, Repr

/-- The columns a form writes. -/
structure MemberData where
  firstname : String
  lastname : String
  isMale : Bool
  baptismDate : Option Instant
  birthDate : Option Instant
  isHelder : Bool
  isServant : Bool
  isAnointed : Bool
  publisherGroupId : Option Nat
  address : String
  phone : String
  email : String
  arrivedAt : Option (Option Instant)
deriving DecidableEq, Repr

/-- `text ? new Date(text) : null`. -/
def formDate (rt : PersonText) (text : Option String) : Except Failure (Option Instant) :=
  match text with
  | none => .ok none
  | some text =>
    if text = "" then .ok none
    else match rt.newDate text with
      | none => .error (.database .invalidDate)
      | some date => .ok (some date)

/-- `Number.isNaN(groupId) ? null : groupId`. -/
def writtenGroup (groupId : Option SubmittedNumber) : Option Nat :=
  match groupId with
  | some (.number n) => some n
  | some .nan => none
  | none => none

def arrivedAtFromForm (rt : PersonText) (arrivedAt : Option (Option String)) :
    Except Failure (Option (Option Instant)) :=
  match arrivedAt with
  | none => .ok none
  | some text => do
    let date ← formDate rt text
    return some date

def memberDataFromForm (rt : PersonText) (params : MemberFormFields) :
    Except Failure MemberData := do
  let baptismDate ← formDate rt params.baptismDate
  let birthDate ← formDate rt params.birthDate
  let arrivedAt ← arrivedAtFromForm rt params.arrivedAt
  return {
    firstname := params.firstname
    lastname := params.lastname
    isMale := params.gender == "male"
    baptismDate := baptismDate
    birthDate := birthDate
    isHelder := params.isHelder
    isServant := params.isServant
    isAnointed := params.isAnointed
    publisherGroupId := writtenGroup params.groupId
    address := params.address
    phone := params.phone
    email := params.email
    arrivedAt := arrivedAt }

def MemberData.write (data : MemberData) (m : Member) : Member :=
  { m with
    firstname := data.firstname
    lastname := data.lastname
    isMale := some data.isMale
    baptismDate := data.baptismDate
    birthDate := data.birthDate
    isHelder := data.isHelder
    isServant := data.isServant
    isAnointed := data.isAnointed
    publisherGroupId := data.publisherGroupId
    address := data.address
    phone := data.phone
    email := data.email
    arrivedAt := data.arrivedAt.getD m.arrivedAt }

/-- The defaults of the schema. -/
def blankMember (id : Nat) : Member where
  id := id
  firstname := ""
  lastname := ""
  isMale := none
  birthDate := none
  phone := ""
  address := ""
  email := ""
  isPublisher := false
  baptismDate := none
  isAnointed := false
  isHelder := false
  isServant := false
  publisherGroupId := none
  arrivedAt := none
  lastPastoralVisitAt := none
  leftAt := none
  inactiveAt := none
  anonymizedAt := none

/-- The identity flags whose change asks for a sync. -/
def haveIdentityFlagsChanged (before after : Member) : Bool :=
  before.isPublisher != after.isPublisher ||
  before.isMale != after.isMale ||
  before.baptismDate != after.baptismDate ||
  before.isAnointed != after.isAnointed ||
  before.isHelder != after.isHelder ||
  before.isServant != after.isServant ||
  before.leftAt != after.leftAt

/-! ## Creating a member -/

/-- `db.member.create`, and the sync of the new member. -/
def insertMember (row : Nat → Member) : MemberTx Member := do
  let db ← get
  Tx.check (Tx.refuseWhen (¬db.GroupExists (row db.nextMemberId).publisherGroupId)
    (.database .foreignKey))
  modify fun db => syncBuiltInRoleAssignments db.nextMemberId (db.createMember row)
  return row db.nextMemberId

/-- The row of a new publisher. -/
def newPublisher (data : MemberData) (id : Nat) : Member :=
  data.write { blankMember id with isPublisher := true }

def createMemberChecks (rt : PersonText) (db : MemberDb) (maxPublishers : Option Nat)
    (params : MemberFormFields) : Except Failure (Nat → Member) := do
  errorIfWouldGoOverLimit db maxPublishers
  let data ← memberDataFromForm rt params
  return newPublisher data

def createMember (rt : PersonText) (maxPublishers : Option Nat) (params : MemberFormFields) :
    MemberTx Member := do
  let db ← get
  let row ← Tx.check (createMemberChecks rt db maxPublishers params)
  insertMember row

/-- The member made for an account that has none. -/
structure CreateDirectParams where
  firstname : String
  lastname : String
  isMale : Option Bool
  birthDate : Option Instant
  baptismDate : Option Instant
  isPublisher : Bool
  isHelder : Bool
  isServant : Bool
  isAnointed : Bool
  publisherGroupId : Option Nat
  phone : String
  address : String
deriving DecidableEq, Repr

def CreateDirectParams.row (params : CreateDirectParams) (id : Nat) : Member :=
  { blankMember id with
    firstname := params.firstname
    lastname := params.lastname
    isMale := params.isMale
    birthDate := params.birthDate
    baptismDate := params.baptismDate
    isPublisher := params.isPublisher
    isHelder := params.isHelder
    isServant := params.isServant
    isAnointed := params.isAnointed
    publisherGroupId := params.publisherGroupId
    phone := params.phone
    address := params.address }

def createDirect (params : CreateDirectParams) : MemberTx Member := insertMember params.row

/-! ## Editing a member -/

def updateIdentityChecks (rt : PersonText) (db : MemberDb) (memberId : Nat)
    (params : MemberFormFields) : Except Failure (Member × MemberData) := do
  let before ← db.memberOrRefuse memberId (.app (.notFound "Member" none))
  let data ← memberDataFromForm rt params
  Tx.refuseWhen (¬db.GroupExists data.publisherGroupId) (.database .foreignKey)
  return (before, data)

/-- Nothing here asks whether the member leads a group. -/
def updateIdentity (rt : PersonText) (memberId : Nat) (params : MemberFormFields) :
    MemberTx Member := do
  let db ← get
  let (before, data) ← Tx.check (updateIdentityChecks rt db memberId params)
  modify (·.updateMember memberId data.write)
  syncWhen (haveIdentityFlagsChanged before (data.write before)) memberId
  return data.write before

def togglePublisher (memberId : Nat) (isPublisher : Bool) : MemberTx Member := do
  let db ← get
  let existing ← Tx.check (db.memberOrRefuse memberId (.app (.notFound "Member" none)))
  modify (·.updateMember memberId fun m => { m with isPublisher := isPublisher })
  modify (syncBuiltInRoleAssignments memberId)
  return { existing with isPublisher := isPublisher }

/-! ## Leaving and returning -/

/-- The member is in the state already. -/
def Member.isIn (m : Member) : Roles.LifecycleState → Bool
  | .left => m.leftAt.isSome
  | .returned => m.leftAt.isNone
  | .inactive => m.inactiveAt.isSome
  | .active => m.inactiveAt.isNone

/-- The columns the transition writes, when `leftAt` is what its read found. -/
def Member.enter (state : Roles.LifecycleState) (leftAt : Option Instant) (date : Instant)
    (m : Member) : Member :=
  match state with
  | .left => { m with leftAt := some date }
  | .returned =>
    { m with
      leftAt := none
      arrivedAt := (Roles.arrivalOnReturn leftAt date).orElse fun _ => m.arrivedAt }
  | .inactive => { m with inactiveAt := some date }
  | .active => { m with inactiveAt := none }

theorem Member.enter_id (state : Roles.LifecycleState) (leftAt : Option Instant) (date : Instant)
    (m : Member) : (m.enter state leftAt date).id = m.id := by
  cases state <;> rfl

/-- What the transition read: the member, and the account when it is a leave. -/
structure LifecycleRead where
  memberId : Nat
  leftAt : Option Instant
  account : Option Nat
deriving DecidableEq, Repr

/-- `none` when the member is in the state already. -/
def setLifecycleRead (db : MemberDb) (memberId : Nat) (state : Roles.LifecycleState) :
    Except Failure (Option LifecycleRead) := do
  let current ← db.memberOrRefuse memberId (.app (.notFound "Member" none))
  let account := db.accounts.find? (·.memberId == some memberId)
  return if current.isIn state then none
    else some ⟨memberId, current.leftAt, if state = .left then account.map (·.id) else none⟩

/-- The account loses its seats when its member leaves. -/
def deleteSeatsOf (account : Option Nat) (db : MemberDb) : MemberDb :=
  match account with
  | none => db
  | some userId => db.deleteSeatsOf userId

def enterLifecycle (seen : LifecycleRead) (state : Roles.LifecycleState) (date : Instant) :
    MemberTx Unit := do
  let db ← get
  let _ ← Tx.check (db.memberOrRefuse seen.memberId (.database .recordNotFound))
  modify (·.updateMember seen.memberId (Member.enter state seen.leftAt date))
  syncWhen state.syncsRoles seen.memberId
  modify (deleteSeatsOf seen.account)

def setLifecycle (memberId : Nat) (state : Roles.LifecycleState) (at_ : Option Instant)
    (now : Instant) : MemberTx Unit := do
  let db ← get
  match ← Tx.check (setLifecycleRead db memberId state) with
  | none => pure ()
  | some seen => enterLifecycle seen state (at_.getD now)

/-! ## Groups -/

/-- `formatPersonName`. -/
def formatPersonName (rt : PersonText) (firstname lastname : String) : String :=
  let first := trim firstname
  let last := rt.toLocaleUpperCase (trim lastname)
  if first ≠ "" ∧ last ≠ "" then first ++ " " ++ last
  else if first ≠ "" then first
  else if last ≠ "" then last
  else "—"

/-- `groups_members_error_leads_group`. -/
def leadsGroup (person name : String) : String :=
  person ++ " dirige le groupe " ++ name ++
    " et doit en rester membre : changez d'abord le responsable ou l'adjoint de ce groupe"

/-- The leader of another group is refused. -/
def refuseLeader (rt : PersonText) (db : MemberDb) (member : Member) (groupId : Option Nat) :
    Except Failure Unit :=
  match db.led member.id with
  | none => .ok ()
  | some led =>
    Tx.refuseWhen (some led.id ≠ groupId) (.app (.conflict
      (leadsGroup (formatPersonName rt member.firstname member.lastname) led.name)))

/-- Whether there is anything to write: not for a member who is in the group already. -/
def setGroupChecks (rt : PersonText) (db : MemberDb) (memberId : Nat) (groupId : Option Nat) :
    Except Failure Bool := do
  let member ← db.memberOrRefuse memberId (.app (.notFound "Member" none))
  if member.publisherGroupId = groupId then return false
  refuseLeader rt db member groupId
  Tx.refuseWhen (¬db.GroupExists groupId) (.database .foreignKey)
  return true

/-- `db.member.update({ data: { publisherGroupId } })`. -/
def MemberDb.place (db : MemberDb) (memberId : Nat) (groupId : Option Nat) : MemberDb :=
  db.updateMember memberId fun m => { m with publisherGroupId := groupId }

def placeWhen (needed : Bool) (memberId : Nat) (groupId : Option Nat) : MemberTx Unit :=
  if needed then modify (·.place memberId groupId) else pure ()

/-- Put a member in a group, or in none. A group's overseer and deputy stay in the group they lead. -/
def setGroup (rt : PersonText) (memberId : Nat) (groupId : Option Nat) : MemberTx Unit := do
  let db ← get
  let needed ← Tx.check (setGroupChecks rt db memberId groupId)
  placeWhen needed memberId groupId

/-! ## Anonymization -/

/-- `_ensureMemberIsNotGroupResponsible`. -/
def ensureMemberIsNotGroupResponsible (db : MemberDb) (memberId : Nat) : Except Failure Unit :=
  match db.responsibleFor memberId with
  | none => .ok ()
  | some group => .error (.app (.conflict ("Cannot anonymize a group responsible — reassign \"" ++
      group.name ++ "\" (group #" ++ toString group.id ++ ") first")))

/-- `none` when the member is anonymized already. -/
def anonymizeRead (db : MemberDb) (memberId : Nat) : Except Failure (Option Member) := do
  let member ← db.memberOrRefuse memberId (.app (.notFound "Member" none))
  if member.anonymizedAt.isSome then return none
  ensureMemberIsNotGroupResponsible db memberId
  return some member

/-- The row with nothing personal left; `leftAt` is what the read found. -/
def Member.scrub (leftAt : Option Instant) (now : Instant) (m : Member) : Member :=
  { m with
    firstname := "Utilisateur"
    lastname := "supprime"
    phone := ""
    address := ""
    email := ""
    birthDate := none
    baptismDate := none
    arrivedAt := none
    lastPastoralVisitAt := none
    isMale := none
    isHelder := false
    isServant := false
    isAnointed := false
    publisherGroupId := none
    anonymizedAt := some now
    leftAt := if leftAt.isNone then some now else m.leftAt }

def scrubMember (seen : Member) (now : Instant) : MemberTx Unit := do
  let db ← get
  let _ ← Tx.check (db.memberOrRefuse seen.id (.database .recordNotFound))
  modify (·.updateMember seen.id (Member.scrub seen.leftAt now))
  modify (·.updateGroups (·.deputyId == some seen.id) fun g => { g with deputyId := none })
  modify (syncBuiltInRoleAssignments seen.id)

def anonymize (memberId : Nat) (now : Instant) : MemberTx Unit := do
  let db ← get
  match ← Tx.check (anonymizeRead db memberId) with
  | none => pure ()
  | some seen => scrubMember seen now

end Unitae.Publishers
