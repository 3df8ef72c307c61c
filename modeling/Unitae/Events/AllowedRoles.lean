import Unitae.Events.Schema

/-!
# Unitae — which members may fill a slot (`allowed-roles.server.ts`)

A slot's allowed roles are the rows of the part itself. No row means any member: the holders of the
built-in role `member`, so that school students count. A role reaches a member directly or through the
linked account.
-/

namespace Unitae.Events

open Roles

/-! ## Eligibility -/

/-- `membersWithAnyRoleFilter`, for one current member. -/
def EventDb.holdsAnyRole (db : EventDb) (roleIds : List Nat) (memberId : Nat) : Bool :=
  (db.directory.memberRoleAssignments.any fun a =>
    a.memberId == memberId && roleIds.contains a.roleId) ||
  (db.directory.accounts.any fun account => account.memberId == some memberId &&
    db.directory.userRoleAssignments.any fun a =>
      a.userId == account.id && roleIds.contains a.roleId)

def findMembersWithAnyRole (db : EventDb) (roleIds : List Nat) : List Nat :=
  if roleIds = [] then []
  else (db.directory.members.map (·.id)).filter fun memberId =>
    db.isCurrentMember memberId && db.holdsAnyRole roleIds memberId

/-- The built-in role `member`. -/
def EventDb.memberRole (db : EventDb) : Option Role :=
  db.directory.roles.find? fun role => role.key == "member" && role.isBuiltIn

def resolveEligibleUserIds (db : EventDb) (allowedRoleIds : List Nat) : List Nat :=
  if allowedRoleIds = [] then
    match db.memberRole with
    | none => []
    | some memberRole =>
      ((db.directory.memberRoleAssignments.filter fun a =>
        a.roleId == memberRole.id && db.isCurrentMember a.memberId).map (·.memberId)).eraseDups
  else findMembersWithAnyRole db allowedRoleIds

def getPartAssignmentAllowedRoleIds (db : EventDb) (eventPartId : Nat) (asKind : PartRoleKind) :
    List Nat :=
  (db.eventPartAllowedRoles.filter fun r =>
    r.eventPartId == eventPartId && r.asKind == asKind).map (·.roleId)

def getServicePartAssignmentAllowedRoleIds (db : EventDb) (eventServicePartId : Nat) : List Nat :=
  (db.eventServicePartAllowedRoles.filter (·.eventServicePartId == eventServicePartId)).map (·.roleId)

/-! ## Writing the allowed roles of a slot -/

/-- The roles added and removed between two selections. -/
structure DiffResult where
  added : List Nat
  removed : List Nat
deriving DecidableEq, Repr

def diffRoleIds (previous desired : List Nat) : DiffResult where
  added := desired.filter fun id => !previous.contains id
  removed := previous.filter fun id => !desired.contains id

/-- The foreign key of the added rows. -/
def requireRoles (db : EventDb) (roleIds : List Nat) : Except Failure Unit :=
  Tx.refuseWhen (∃ id ∈ roleIds, db.directory.roleById id = none) (.database .foreignKey)

def setPartAssignmentAllowedRoles (eventPartId : Nat) (asKind : PartRoleKind)
    (desiredRoleIds : List Nat) : Tx EventDb Failure Unit := do
  let db ← get
  let diff := diffRoleIds (getPartAssignmentAllowedRoleIds db eventPartId asKind) desiredRoleIds
  Tx.check (requireRoles db diff.added)
  modify (·.deletePartAllowedRoles fun r =>
    r.eventPartId == eventPartId && r.asKind == asKind && diff.removed.contains r.roleId)
  modify (·.createPartAllowedRoles (diff.added.map fun roleId => ⟨eventPartId, roleId, asKind⟩))

def setServicePartAssignmentAllowedRoles (eventServicePartId : Nat) (desiredRoleIds : List Nat) :
    Tx EventDb Failure Unit := do
  let db ← get
  let diff := diffRoleIds (getServicePartAssignmentAllowedRoleIds db eventServicePartId)
    desiredRoleIds
  Tx.check (requireRoles db diff.added)
  modify (·.deleteServicePartAllowedRoles fun r =>
    r.eventServicePartId == eventServicePartId && diff.removed.contains r.roleId)
  modify (·.createServicePartAllowedRoles (diff.added.map fun roleId => ⟨eventServicePartId, roleId⟩))

/-! ## Allowed roles are rows of a table of their own -/

section Keeps

variable {I : EventDb → Prop}

theorem setPartAssignmentAllowedRoles_keeps (hdelete : ∀ db sel, I db → I (db.deletePartAllowedRoles sel))
    (hcreate : ∀ db rows, I db → I (db.createPartAllowedRoles rows)) (eventPartId : Nat)
    (asKind : PartRoleKind) (roleIds : List Nat) :
    Tx.Keeps I (setPartAssignmentAllowedRoles eventPartId asKind roleIds) := by
  unfold setPartAssignmentAllowedRoles
  refine Tx.Keeps.get_bind fun _ => (Tx.keeps_check _).bind fun _ => Tx.Keeps.bind ?_ fun _ => ?_
  · exact Tx.keeps_modify fun db h => hdelete db _ h
  · exact Tx.keeps_modify fun db h => hcreate db _ h

theorem setServicePartAssignmentAllowedRoles_keeps
    (hdelete : ∀ db sel, I db → I (db.deleteServicePartAllowedRoles sel))
    (hcreate : ∀ db rows, I db → I (db.createServicePartAllowedRoles rows)) (eventServicePartId : Nat)
    (roleIds : List Nat) :
    Tx.Keeps I (setServicePartAssignmentAllowedRoles eventServicePartId roleIds) := by
  unfold setServicePartAssignmentAllowedRoles
  refine Tx.Keeps.get_bind fun _ => (Tx.keeps_check _).bind fun _ => Tx.Keeps.bind ?_ fun _ => ?_
  · exact Tx.keeps_modify fun db h => hdelete db _ h
  · exact Tx.keeps_modify fun db h => hcreate db _ h

end Keeps

end Unitae.Events
