import Mathlib.Tactic.Simps.Basic
import Unitae.Base.Table
import Unitae.Errors

/-!
# Unitae — the tables behind roles, seats and accounts

One congregation's slice of the database (`app/database/schema.prisma`): every query of the
modelled services carries the congregation's id and runs under row-level security, so the rows of
other congregations are never in sight. A table is the list of its rows. A `Permission` row is
its unique `key`. Instants are milliseconds since the epoch.

What the database itself enforces on these rows (primary keys, unique and foreign keys) is stated
where it is used: a write that would break a constraint refuses with a `DatabaseError`, and the
invariants of the results below carry the constraints the stored rows already meet.
-/

namespace Unitae.Roles

/-- Seat a person occupies within a node: `UserRoleAssignment.kind`, pinned by a check constraint. -/
inductive SeatKind where
  | leader
  | deputy
  | member
deriving DecidableEq, Repr

structure Role where
  id : Nat
  key : String
  name : Option String
  description : Option String
  isBuiltIn : Bool
  parentRoleId : Option Nat
  showInOrganigram : Bool
  organigramOrder : Option Int
  isSinglePerson : Bool
deriving DecidableEq, Repr

structure RolePermission where
  roleId : Nat
  permission : String
deriving DecidableEq, Repr

/-- Account-bound grant of a role: a management role or a seat in the organigram. -/
structure UserRoleAssignment where
  userId : Nat
  roleId : Nat
  kind : SeatKind
deriving DecidableEq, Repr

/-- Member-bound identity role, synced from the member's flags. -/
structure MemberRoleAssignment where
  memberId : Nat
  roleId : Nat
deriving DecidableEq, Repr

structure UserAccount where
  id : Nat
  memberId : Option Nat
  firstname : Option String
  lastname : Option String
  email : String
  active : Bool
  anonymizedAt : Option Int
deriving DecidableEq, Repr

inductive PublisherType where
  | normal
  | pionnierAuxiliaires
  | pionnierPermanant
  | pionnierSpecial
  | missionnaire
deriving DecidableEq, Repr

/-- A pioneer stint; the end fields are null together while it is ongoing. -/
structure EnrolmentPeriod where
  type : PublisherType
  startMonth : Int
  startYear : Int
  endMonth : Option Int
  endYear : Option Int
  monthlyGoal : Option Int
deriving DecidableEq, Repr

structure Member where
  id : Nat
  firstname : String
  lastname : String
  isMale : Option Bool
  isPublisher : Bool
  baptismDate : Option Int
  isAnointed : Bool
  isHelder : Bool
  isServant : Bool
  leftAt : Option Int
  inactiveAt : Option Int
  arrivedAt : Option Int
  pioneerEnrolments : List EnrolmentPeriod
deriving DecidableEq, Repr

structure RoleDb where
  roles : List Role
  rolePermissions : List RolePermission
  userRoleAssignments : List UserRoleAssignment
  memberRoleAssignments : List MemberRoleAssignment
  accounts : List UserAccount
  members : List Member
  /-- The keys of the `Permission` table. -/
  permissions : List String
  /-- What the `Role.id` sequence hands out next. -/
  nextRoleId : Nat
deriving DecidableEq, Repr

/-! ## Queries by id and by key -/

/-- `db.role.findFirst({ where: { id } })`. -/
def RoleDb.roleById (db : RoleDb) (roleId : Nat) : Option Role :=
  db.roles.find? (·.id == roleId)

/-- `db.role.findFirst({ where: { key } })`. -/
def RoleDb.roleByKey (db : RoleDb) (key : String) : Option Role :=
  db.roles.find? (·.key == key)

/-- `db.member.findFirst({ where: { id } })`. -/
def RoleDb.memberById (db : RoleDb) (memberId : Nat) : Option Member :=
  db.members.find? (·.id == memberId)

/-- `db.userAccount.findFirst({ where: { id } })`. -/
def RoleDb.accountById (db : RoleDb) (accountId : Nat) : Option UserAccount :=
  db.accounts.find? (·.id == accountId)

/-- The account behind `member.account`. -/
def RoleDb.accountOfMember (db : RoleDb) (memberId : Nat) : Option UserAccount :=
  db.accounts.find? (·.memberId == some memberId)

/-- `db.userRoleAssignment.findFirst({ where: { userId, roleId } })`. -/
def RoleDb.seat (db : RoleDb) (userId roleId : Nat) : Option UserRoleAssignment :=
  db.userRoleAssignments.find? fun a => a.userId == userId && a.roleId == roleId

/-- The account has a seat in the role, of whatever kind. -/
def RoleDb.Seated (db : RoleDb) (userId roleId : Nat) : Prop :=
  ∃ a ∈ db.userRoleAssignments, a.userId = userId ∧ a.roleId = roleId

instance (db : RoleDb) (userId roleId : Nat) : Decidable (db.Seated userId roleId) :=
  inferInstanceAs (Decidable (∃ _ ∈ _, _))

theorem RoleDb.roleById_mem {db : RoleDb} {roleId : Nat} {role : Role}
    (h : db.roleById roleId = some role) : role ∈ db.roles ∧ role.id = roleId :=
  ⟨List.mem_of_find?_eq_some h, by simpa using List.find?_some h⟩

theorem RoleDb.roleByKey_mem {db : RoleDb} {key : String} {role : Role}
    (h : db.roleByKey key = some role) : role ∈ db.roles ∧ role.key = key :=
  ⟨List.mem_of_find?_eq_some h, by simpa using List.find?_some h⟩

theorem RoleDb.seat_eq_none {db : RoleDb} {userId roleId : Nat} :
    db.seat userId roleId = none ↔ ¬db.Seated userId roleId := by
  simp only [RoleDb.seat, List.find?_eq_none, RoleDb.Seated, Bool.and_eq_true, beq_iff_eq,
    not_exists, not_and]

theorem RoleDb.seat_mem {db : RoleDb} {userId roleId : Nat} {a : UserRoleAssignment}
    (h : db.seat userId roleId = some a) :
    a ∈ db.userRoleAssignments ∧ a.userId = userId ∧ a.roleId = roleId := by
  have hfound := List.find?_some h
  simp only [Bool.and_eq_true, beq_iff_eq] at hfound
  exact ⟨List.mem_of_find?_eq_some h, hfound⟩

/-! ## Writes

One definition per statement the services run. A statement that selects by id is written as the
statement over every matching row: an id is the primary key, so there is at most one. -/

/-- `db.role.updateMany({ where, data })`; `db.role.update` is the case of one id. -/
@[simps] def RoleDb.updateRoles (sel : Role → Bool) (data : Role → Role) (db : RoleDb) : RoleDb :=
  { db with roles := db.roles.map fun r => if sel r then data r else r }

/-- An update that leaves the keys alone is seen by a lookup on the row it finds. -/
theorem RoleDb.roleByKey_updateRoles {db : RoleDb} {sel : Role → Bool} {data : Role → Role}
    (hkey : ∀ r, (data r).key = r.key) {key : String} :
    (db.updateRoles sel data).roleByKey key =
      (db.roleByKey key).map fun r => if sel r then data r else r := by
  unfold RoleDb.roleByKey
  rw [RoleDb.updateRoles_roles, List.find?_map]
  congr 2
  exact funext fun r => congrArg (· == key) (column_ite (hkey r))

theorem RoleDb.roleByKey_id_updateRoles {db : RoleDb} {sel : Role → Bool} {data : Role → Role}
    (hid : ∀ r, (data r).id = r.id) (hkey : ∀ r, (data r).key = r.key) {key : String} :
    ((db.updateRoles sel data).roleByKey key).map (·.id) = (db.roleByKey key).map (·.id) := by
  rw [RoleDb.roleByKey_updateRoles hkey, Option.map_map]
  congr 1
  exact funext fun r => column_ite (hid r)

/-- `db.role.create`: the row takes the next id of the sequence. -/
@[simps] def RoleDb.createRole (row : Nat → Role) (db : RoleDb) : RoleDb :=
  { db with roles := db.roles ++ [row db.nextRoleId], nextRoleId := db.nextRoleId + 1 }

/-- `db.role.delete`: the grants and the assignments of the role go with it (`onDelete: Cascade`). -/
@[simps] def RoleDb.deleteRole (roleId : Nat) (db : RoleDb) : RoleDb :=
  { db with
    roles := db.roles.filter fun r => r.id != roleId
    rolePermissions := db.rolePermissions.filter fun p => p.roleId != roleId
    userRoleAssignments := db.userRoleAssignments.filter fun a => a.roleId != roleId
    memberRoleAssignments := db.memberRoleAssignments.filter fun a => a.roleId != roleId }

/-- `db.userRoleAssignment.createMany`. -/
@[simps] def RoleDb.createSeats (rows : List UserRoleAssignment) (db : RoleDb) : RoleDb :=
  { db with userRoleAssignments := db.userRoleAssignments ++ rows }

/-- `db.userRoleAssignment.deleteMany({ where })`. -/
@[simps] def RoleDb.deleteSeats (sel : UserRoleAssignment → Bool) (db : RoleDb) : RoleDb :=
  { db with userRoleAssignments := db.userRoleAssignments.filter fun a => !sel a }

/-- `db.userRoleAssignment.update({ where: { userId_roleId }, data: { kind } })`. -/
@[simps] def RoleDb.updateSeat (userId roleId : Nat) (kind : SeatKind) (db : RoleDb) : RoleDb :=
  { db with
    userRoleAssignments := db.userRoleAssignments.map fun a =>
      if a.userId == userId && a.roleId == roleId then { a with kind := kind } else a }

/-- `db.rolePermission.createMany({ skipDuplicates: true })`. -/
@[simps] def RoleDb.createRolePermissions (roleId : Nat) (keys : List String) (db : RoleDb) :
    RoleDb :=
  { db with
    rolePermissions := db.rolePermissions ++
      (keys.filter fun k => !db.rolePermissions.contains ⟨roleId, k⟩).map fun k => ⟨roleId, k⟩ }

/-- `db.rolePermission.deleteMany({ where: { roleId, permissionId: { in } } })`. -/
@[simps] def RoleDb.deleteRolePermissions (roleId : Nat) (keys : List String) (db : RoleDb) :
    RoleDb :=
  { db with
    rolePermissions := db.rolePermissions.filter fun p =>
      !(p.roleId == roleId && keys.contains p.permission) }

/-- `db.memberRoleAssignment.createMany` for one member. -/
@[simps] def RoleDb.createIdentities (memberId : Nat) (roleIds : List Nat) (db : RoleDb) : RoleDb :=
  { db with
    memberRoleAssignments := db.memberRoleAssignments ++ roleIds.map fun id => ⟨memberId, id⟩ }

/-- `db.memberRoleAssignment.deleteMany({ where: { memberId, roleId: { in } } })`. -/
@[simps] def RoleDb.deleteIdentities (memberId : Nat) (roleIds : List Nat) (db : RoleDb) : RoleDb :=
  { db with
    memberRoleAssignments := db.memberRoleAssignments.filter fun a =>
      !(a.memberId == memberId && roleIds.contains a.roleId) }

/-- `db.userAccount.update`. -/
@[simps] def RoleDb.updateAccount (accountId : Nat) (data : UserAccount → UserAccount)
    (db : RoleDb) : RoleDb :=
  { db with accounts := db.accounts.map fun acc => if acc.id = accountId then data acc else acc }

/-- `db.userAccount.delete`: the account's seats go with it (`onDelete: Cascade`). -/
@[simps] def RoleDb.deleteAccount (accountId : Nat) (db : RoleDb) : RoleDb :=
  { db with
    accounts := db.accounts.filter fun acc => acc.id != accountId
    userRoleAssignments := db.userRoleAssignments.filter fun a => a.userId != accountId }

/-- `db.member.update`. -/
@[simps] def RoleDb.updateMember (memberId : Nat) (data : Member → Member) (db : RoleDb) : RoleDb :=
  { db with members := db.members.map fun m => if m.id = memberId then data m else m }

end Unitae.Roles
