import Unitae.Publishers.EnrolmentWorkflow
import Unitae.Publishers.Groups
import Unitae.Roles.Setup
import Unitae.Settings.ImportPeople
import Unitae.Settings.ImportRoles

/-!
# Unitae — a congregation import (`import-congregation.server.ts`, `import-publishers.server.ts`)

The steps of an import that write roles, members, accounts, seats, groups, reports and stints, in the order in
which `runImport` takes them, and the backfill that ends it. The identity roles of a member are synced when the
member is created; stints are written verbatim, and by the backfill, after that, and an archived seat is
written whatever its role is.

The steps in between write other tables.
-/

namespace Unitae.Settings

open Publishers

/-- The tables of a congregation that an import of its people writes. -/
structure CongregationDb where
  people : PeopleDb
  nextRoleId : Nat
  nextActivityId : Nat
  /-- The keys of the `Permission` table. -/
  permissions : List String
deriving DecidableEq, Repr

abbrev CongregationTx (α : Type) := Tx CongregationDb Failure α

def CongregationDb.directory (db : CongregationDb) : MemberDb := db.people.directory

def CongregationDb.withDirectory (db : CongregationDb) (directory : MemberDb) : CongregationDb :=
  { db with people := { db.people with directory := directory } }

/-- The tables that the importer of roles sees. -/
def CongregationDb.roleDb (db : CongregationDb) : Roles.RoleDb :=
  { db.directory.roleDb with nextRoleId := db.nextRoleId }

def CongregationDb.withRoles (db : CongregationDb) (roles : Roles.RoleDb) : CongregationDb :=
  { db with
    people := { db.people with directory := { db.people.directory with roles := roles.roles } }
    nextRoleId := roles.nextRoleId }

def onRoles {α : Type} (x : RolesTx α) : CongregationTx α := x.on CongregationDb.roleDb CongregationDb.withRoles

def onAccounts {α : Type} (x : PeopleTx α) : CongregationTx α :=
  x.on CongregationDb.people fun db people => { db with people := people }

def onDirectory {α : Type} (x : MemberTx α) : CongregationTx α :=
  x.on CongregationDb.directory CongregationDb.withDirectory

/-! ## Records -/

/-- A line of `user-role-assignments.ndjson`; archives older than the seats lack the kind. -/
structure SeatRecord where
  userId : Int
  roleId : Int
  kind : Option Roles.SeatKind
deriving DecidableEq, Repr

/-- A line of `congregation-user-permissions.ndjson`, which archives older than the roles have. -/
structure LegacyGrantRecord where
  userId : Int
  permissionKey : String
deriving DecidableEq, Repr

structure PublisherGroupRecord where
  id : Int
  name : String
  adress : String
  responsibleId : Int
  deputyId : Option Int
deriving DecidableEq, Repr

/-- A line of `publisher-activities.ndjson`, as far as the backfill reads its row. -/
structure PublisherActivityRecord where
  id : Int
  publisherId : Int
  month : Int
  year : Int
  type : PublisherType
deriving DecidableEq, Repr

structure PioneerEnrolmentRecord where
  id : Int
  memberId : Int
  type : PublisherType
  startMonth : Int
  startYear : Int
  endMonth : Option Int
  endYear : Option Int
  monthlyGoal : Option Int
deriving DecidableEq, Repr

structure PeopleArchive where
  roles : List RoleRecord
  members : List MemberRecord
  accounts : List AccountRecord
  seats : List SeatRecord
  legacyGrants : List LegacyGrantRecord
  groups : List PublisherGroupRecord
  activities : List PublisherActivityRecord
  enrolments : List PioneerEnrolmentRecord
deriving DecidableEq, Repr

/-! ## Seats -/

/-- The seat of a line, when both its account and its role were imported. -/
def SeatRecord.row (idMap : EntityIdMap) (record : SeatRecord) : Option Roles.UserRoleAssignment :=
  match idMap.getOptional .userAccounts (some record.userId), idMap.getOptional .roles (some record.roleId) with
  | some userId, some roleId => some ⟨userId, roleId, record.kind.getD .member⟩
  -- the account was passed over, or the archive lacks the role
  | _, _ => none

/-- `userRoleAssignment.createMany({ data: [row], skipDuplicates: true })`. -/
def MemberDb.createSeat (row : Roles.UserRoleAssignment) (db : MemberDb) : MemberDb :=
  if db.userRoleAssignments.any fun a => a.userId == row.userId && a.roleId == row.roleId then db
  else { db with userRoleAssignments := db.userRoleAssignments ++ [row] }

/-- Whether the role is an identity role is not asked. -/
def importUserRoleAssignments (records : List SeatRecord) (idMap : EntityIdMap) : MemberTx Unit :=
  modify fun db => (records.filterMap (SeatRecord.row idMap)).foldl (fun db row => MemberDb.createSeat row db) db

/-- The key under which archives older than the capabilities grant everything. -/
def legacyAdminPermissionKey : String := "admin"

/-- `ensureAdminRole`: the role that `admin` keys, made when the congregation has none. What it then grants to the
role is in a table that is not kept here. -/
def ensureAdminRole : CongregationTx (Option Nat) := do
  let db ← get
  if db.permissions.contains "can-do-anything" = false then return none
  match db.roleDb.roleByKey "admin" with
  | some role => return some role.id
  | none => do
    modify fun db => db.withRoles (db.roleDb.createRole (Roles.builtInRole "admin"))
    return some db.nextRoleId

/-- One turn of `importCongregationUserPermissions`. A role that is there is found again, so that asking once is
asking each time. -/
def importCongregationUserPermission (idMap : EntityIdMap) (record : LegacyGrantRecord) : CongregationTx PUnit :=
  match idMap.getOptional .userAccounts (some record.userId) with
  -- a grant of an account that was passed over is dropped, with a warning
  | none => pure ()
  | some userId =>
    if record.permissionKey = legacyAdminPermissionKey then do
      match ← ensureAdminRole with
      | none => pure ()
      | some roleId =>
        modify fun db => db.withDirectory (MemberDb.createSeat ⟨userId, roleId, .member⟩ db.directory)
    -- no role carries any other legacy grant
    else pure ()

def importCongregationUserPermissions (records : List LegacyGrantRecord) (idMap : EntityIdMap) :
    CongregationTx PUnit :=
  records.forM (importCongregationUserPermission idMap)

/-! ## Groups -/

/-- `responsibleId` and `deputyId` are unique. -/
def MemberDb.leaderTaken (db : MemberDb) (responsibleId : Nat) (deputyId : Option Nat) : Bool :=
  db.groups.any fun g => g.responsibleId == responsibleId || deputyId.isSome && g.deputyId == deputyId

/-- One turn of `importPublisherGroups`: a group without its overseer is passed over. -/
def importPublisherGroup (idMap : EntityIdMap) (record : PublisherGroupRecord) : MemberTx EntityIdMap :=
  match idMap.getOptional .members (some record.responsibleId) with
  | none => pure idMap
  | some responsibleId => do
    let deputyId := idMap.getOptional .members record.deputyId
    let db ← get
    Tx.check (Tx.refuseWhen (MemberDb.leaderTaken db responsibleId deputyId = true)
      (.database .uniqueConstraint))
    modify (·.createGroup fun id => ⟨id, record.name, record.adress, responsibleId, deputyId⟩)
    return idMap.set .publisherGroups record.id db.nextGroupId

def importPublisherGroups (records : List PublisherGroupRecord) (idMap : EntityIdMap) : MemberTx EntityIdMap :=
  records.foldlM importPublisherGroup idMap

/-- One turn of `updateMemberPublisherGroups`. -/
def updateMemberPublisherGroup (idMap : EntityIdMap) (record : MemberRecord) : MemberTx PUnit :=
  match idMap.getOptional .members (some record.id),
    idMap.getOptional .publisherGroups record.publisherGroupId with
  | some memberId, some groupId => modify (·.place memberId (some groupId))
  | _, _ => pure ()

def updateMemberPublisherGroups (records : List MemberRecord) (idMap : EntityIdMap) : MemberTx PUnit :=
  records.forM (updateMemberPublisherGroup idMap)

/-! ## Reports and stints -/

def PublisherActivityRecord.row (record : PublisherActivityRecord) (publisherId id : Nat) :
    PublisherActivity where
  id := id
  publisherId := publisherId
  month := record.month
  year := record.year
  type := record.type

/-- One turn of `importPublisherActivities`. -/
def importPublisherActivity (idMap : EntityIdMap) (record : PublisherActivityRecord) : CongregationTx PUnit :=
  match idMap.getOptional .members (some record.publisherId) with
  | none => pure ()
  | some publisherId =>
    modify fun db =>
      { db.withDirectory { db.directory with
          activity := db.directory.activity ++ [record.row publisherId db.nextActivityId] } with
        nextActivityId := db.nextActivityId + 1 }

def importPublisherActivities (records : List PublisherActivityRecord) (idMap : EntityIdMap) :
    CongregationTx PUnit :=
  records.forM (importPublisherActivity idMap)

def PioneerEnrolmentRecord.params (record : PioneerEnrolmentRecord) : OpenEnrolmentParams where
  type := record.type
  startMonth := record.startMonth
  startYear := record.startYear
  endMonth := record.endMonth
  endYear := record.endYear
  monthlyGoal := record.monthlyGoal

/-- One turn of `importPioneerEnrolments`: verbatim, and not through the aggregate. -/
def importPioneerEnrolment (idMap : EntityIdMap) (record : PioneerEnrolmentRecord) : EnrolmentTx PUnit :=
  match idMap.getOptional .members (some record.memberId) with
  -- rather skipped than orphaned
  | none => pure ()
  | some memberId => modify (·.createEnrolment (newEnrolment memberId record.params))

def importPioneerEnrolments (records : List PioneerEnrolmentRecord) (idMap : EntityIdMap) : EnrolmentTx PUnit :=
  records.forM (importPioneerEnrolment idMap)

/-! ## The import -/

/-- The first steps of `runImport`: everyone, before the reports and the stints. -/
def importPeople (rt : DateText) (seesAll : Bool) (archive : PeopleArchive) : CongregationTx EntityIdMap := do
  let idMap ← onRoles (importRoles archive.roles .empty)
  -- each member is synced as it is created, and by no later step
  let idMap ← onDirectory (importMembers rt archive.members idMap)
  let idMap ← onAccounts (importUserAccounts rt seesAll archive.accounts idMap)
  onDirectory (importUserRoleAssignments archive.seats idMap)
  importCongregationUserPermissions archive.legacyGrants idMap
  let idMap ← onDirectory (importPublisherGroups archive.groups idMap)
  onDirectory (updateMemberPublisherGroups archive.members idMap)
  return idMap

/-- `runImport`, over these tables; nothing catches what a step throws. -/
def runCongregationImport (rt : DateText) (seesAll : Bool) (archive : PeopleArchive) : CongregationTx Unit := do
  let idMap ← importPeople rt seesAll archive
  importPublisherActivities archive.activities idMap
  onDirectory (inEnrolments (importPioneerEnrolments archive.enrolments idMap))
  -- older archives have no stints, and newer ones leave nothing to derive
  let _ ← onDirectory (inEnrolments backfillCongregationEnrolments)

end Unitae.Settings
