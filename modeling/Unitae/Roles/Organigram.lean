import Mathlib.Data.List.Sort
import Unitae.Roles.RoleService
import Unitae.Roles.Seats
import Unitae.Roles.TreePolicy

/-!
# Unitae — arranging the chart (`organigram.server.ts`)

The write side of the organigram: structure lives on `Role`, and nothing here touches permissions
or seats. The composite foreign key on `parentRoleId` is checked by Postgres, after the policy.
-/

namespace Unitae.Roles

/-- Siblings are spaced 5 apart. -/
def orderStep : Int := 5

/-- Every flagged role, flat. -/
def RoleDb.treeLinks (db : RoleDb) : List TreeLink :=
  (db.roles.filter (·.showInOrganigram)).map fun r => ⟨r.id, r.parentRoleId⟩

def RoleDb.siblingsUnder (db : RoleDb) (parentRoleId : Option Nat) : List Role :=
  db.roles.filter fun r => r.showInOrganigram && r.parentRoleId == parentRoleId

def RoleDb.nextOrderUnder (db : RoleDb) (parentRoleId : Option Nat) : Int :=
  ((db.siblingsUnder parentRoleId).map fun r => r.organigramOrder.getD 0).foldl max 0 + orderStep

/-- What the policy is asked about putting a role under a parent. -/
def RoleDb.setParentInput (db : RoleDb) (roleId : Nat) (roleKey : String)
    (parentRoleId : Option Nat) : SetParentInput where
  roleId := roleId
  roleKey := roleKey
  parentChainIds := ancestorChainIds db.treeLinks parentRoleId
  subtreeHeight := subtreeHeight db.treeLinks roleId

/-- The foreign key of `parentRoleId`. -/
def requireParentRow (db : RoleDb) (parentRoleId : Option Nat) : Except Failure Unit :=
  match parentRoleId with
  | none => .ok ()
  | some parentId => Tx.refuseWhen (db.roleById parentId = none) (.database .foreignKey)

/-! ## The statements that move a node -/

/-- Flag a role and give it its place. -/
def RoleDb.place (roleId : Nat) (parentRoleId : Option Nat) (order : Int) (db : RoleDb) : RoleDb :=
  db.updateRoles (·.id == roleId) fun r =>
    { r with showInOrganigram := true, parentRoleId := parentRoleId, organigramOrder := some order }

/-- Give a role its place, flagged or not. -/
def RoleDb.hang (roleId : Nat) (parentRoleId : Option Nat) (order : Int) (db : RoleDb) : RoleDb :=
  db.updateRoles (·.id == roleId) fun r =>
    { r with parentRoleId := parentRoleId, organigramOrder := some order }

/-- Re-hang every child of one role under another, or at the top. -/
def RoleDb.rehangChildren (roleId : Nat) (parentRoleId : Option Nat) (db : RoleDb) : RoleDb :=
  db.updateRoles (·.parentRoleId == some roleId) fun r => { r with parentRoleId := parentRoleId }

/-- Unflag a role and drop its place. -/
def RoleDb.takeOffChart (roleId : Nat) (db : RoleDb) : RoleDb :=
  db.updateRoles (·.id == roleId) fun r =>
    { r with showInOrganigram := false, parentRoleId := none, organigramOrder := none }

/-! ## The services -/

def addRoleToOrganigramChecks (db : RoleDb) (roleId : Nat) (parentRoleId : Option Nat) :
    Except Failure Unit := do
  let role ← requireRole db roleId
  assertCanShowInOrganigram role.key
  assertCanSetParent (db.setParentInput roleId role.key parentRoleId)
  requireParentRow db parentRoleId

/-- Put an existing role into the chart. -/
def addRoleToOrganigram (roleId : Nat) (parentRoleId : Option Nat) : Tx RoleDb Failure Unit := do
  let db ← get
  Tx.check (addRoleToOrganigramChecks db roleId parentRoleId)
  modify (·.place roleId parentRoleId (db.nextOrderUnder parentRoleId))

/-- Create a service and put it in the chart, in one step: the role is written before the second
half is checked. -/
def createServiceInOrganigram (u : Unicode) (name : String) (parentRoleId : Option Nat)
    (isSinglePerson : Bool) : Tx RoleDb Failure Nat := do
  let id ← createRole u
    { name := name, description := none, permissionKeys := [], isSinglePerson := isSinglePerson }
  addRoleToOrganigram id parentRoleId
  return id

def severalLeaders : String :=
  "Ce service a plusieurs responsables. Retirez-en pour n’en garder qu’un avant d’en faire un " ++
    "rôle personnel."

def RoleDb.leaders (db : RoleDb) (roleId : Nat) : List UserRoleAssignment :=
  db.userRoleAssignments.filter fun a => a.roleId == roleId && a.kind == .leader

def setRoleSinglePersonChecks (db : RoleDb) (roleId : Nat) (isSinglePerson : Bool) :
    Except Failure Unit := do
  let role ← requireRole db roleId
  Tx.refuseWhen role.isBuiltIn
    (.app (.forbidden "Les rôles intégrés gardent leur forme : elle ne se change pas ici."))
  Tx.checkWhen (role.isSinglePerson ≠ isSinglePerson)
    (Tx.refuseWhen (isSinglePerson = true ∧ (db.leaders roleId).length > 1)
      (.app (.conflict severalLeaders)))

/-- Flag a node as a personal role, or back. -/
def setRoleSinglePerson (roleId : Nat) (isSinglePerson : Bool) : Tx RoleDb Failure Unit := do
  let db ← get
  Tx.check (setRoleSinglePersonChecks db roleId isSinglePerson)
  modify (·.updateRoles (·.id == roleId) fun r => { r with isSinglePerson := isSinglePerson })

def removeRoleFromOrganigramChecks (db : RoleDb) (roleId : Nat) : Except Failure Role := do
  let role ← requireRole db roleId
  assertCanLeaveOrganigram role.key
  return role

/-- Take a role out of the chart without deleting it; its children are lifted to its parent. -/
def removeRoleFromOrganigram (roleId : Nat) : Tx RoleDb Failure Unit := do
  let db ← get
  let role ← Tx.check (removeRoleFromOrganigramChecks db roleId)
  modify (·.rehangChildren roleId role.parentRoleId)
  modify (·.takeOffChart roleId)

def setOrganigramParentChecks (db : RoleDb) (roleId : Nat) (parentRoleId : Option Nat) :
    Except Failure Unit := do
  let role ← requireRole db roleId
  Tx.refuseWhen (role.showInOrganigram = false)
    (.app (.validation "roleId" "Ce service n’est pas dans l’organigramme."))
  assertCanSetParent (db.setParentInput roleId role.key parentRoleId)
  requireParentRow db parentRoleId

/-- Move a node under a different parent, or to the top with `none`. -/
def setOrganigramParent (roleId : Nat) (parentRoleId : Option Nat) : Tx RoleDb Failure Unit := do
  let db ← get
  Tx.check (setOrganigramParentChecks db roleId parentRoleId)
  modify (·.hang roleId parentRoleId (db.nextOrderUnder parentRoleId))

inductive MoveDirection where
  | up
  | down
deriving DecidableEq, Repr

/-- The row of siblings after the swap, or `none` when the node has nowhere to go. -/
def swapSibling (ordered : List Role) (roleId : Nat) (direction : MoveDirection) :
    Option (List Role) :=
  match ordered.findIdx? (·.id == roleId), direction with
  | none, _ => none
  | some 0, .up => none
  | some (index + 1), .up =>
    (ordered[index + 1]?).map fun moved => (ordered.eraseIdx (index + 1)).insertIdx index moved
  | some index, .down =>
    if index + 1 < ordered.length then
      (ordered[index]?).map fun moved => (ordered.eraseIdx index).insertIdx (index + 1) moved
    else none

/-- Renumber a row of siblings, `orderStep` apart. -/
def RoleDb.renumber (siblings : List Role) (db : RoleDb) : RoleDb :=
  siblings.zipIdx.foldl
    (fun db (sibling, position) => db.updateRoles (·.id == sibling.id) fun r =>
      { r with organigramOrder := some ((position + 1 : Int) * orderStep) })
    db

/-- Swap a node with the sibling above or below it, then renormalise the whole row. -/
def moveOrganigramNode (roleId : Nat) (direction : MoveDirection) : Tx RoleDb Failure Unit := do
  let db ← get
  let role ← Tx.check (requireRole db roleId)
  let ordered := (db.siblingsUnder role.parentRoleId).insertionSort fun a b =>
    a.organigramOrder.getD 0 ≤ b.organigramOrder.getD 0
  modify fun db =>
    match swapSibling ordered roleId direction with
    | none => db
    | some swapped => db.renumber swapped

/-! ## What a success says -/

section Success

variable {db db' : RoleDb} {roleId : Nat} {parentRoleId : Option Nat}

/-- The parent asked for is a row of the table. -/
theorem requireParentRow_ok {u : Unit} :
    requireParentRow db parentRoleId = .ok u ↔
      ∀ parentId, parentRoleId = some parentId → ∃ parent, db.roleById parentId = some parent := by
  unfold requireParentRow
  cases parentRoleId with
  | none => simp
  | some parentId => simp [Option.ne_none_iff_exists']

theorem addRoleToOrganigram_ok
    (h : (addRoleToOrganigram roleId parentRoleId).exec db = (.ok (), db')) :
    ∃ role, db.roleById roleId = some role ∧ canShowInOrganigram role.key = true ∧
      assertCanSetParent (db.setParentInput roleId role.key parentRoleId) = .ok () ∧
      requireParentRow db parentRoleId = .ok () ∧
      db' = db.place roleId parentRoleId (db.nextOrderUnder parentRoleId) := by
  unfold addRoleToOrganigram addRoleToOrganigramChecks assertCanShowInOrganigram at h
  simp only [Tx.exec_bind_get, Tx.exec_bind_check_ok, Tx.exec_modify, Prod.mk.injEq, true_and,
    Tx.bind_eq_ok, Tx.exists_unit, Tx.refuseWhen_ok, requireRole_ok] at h
  obtain ⟨⟨role, hrole, hshow, hpolicy, hparent⟩, rfl⟩ := h
  exact ⟨role, hrole, by simpa using hshow, hpolicy, hparent, rfl⟩

theorem setRoleSinglePerson_ok {isSinglePerson : Bool}
    (h : (setRoleSinglePerson roleId isSinglePerson).exec db = (.ok (), db')) :
    ∃ role, db.roleById roleId = some role ∧ role.isBuiltIn = false ∧
      (role.isSinglePerson ≠ isSinglePerson → isSinglePerson = true →
        (db.leaders roleId).length ≤ 1) ∧
      setRoleSinglePersonChecks db roleId isSinglePerson = .ok () ∧
      db' = db.updateRoles (·.id == roleId) fun r => { r with isSinglePerson := isSinglePerson } := by
  unfold setRoleSinglePerson at h
  simp only [Tx.exec_bind_get, Tx.exec_bind_check_ok, Tx.exec_modify, Prod.mk.injEq, true_and,
    Tx.exists_unit] at h
  obtain ⟨hpassed, rfl⟩ := h
  have hchecks := hpassed
  unfold setRoleSinglePersonChecks at hchecks
  simp only [Tx.bind_eq_ok, Tx.exists_unit, Tx.refuseWhen_ok, Tx.checkWhen_ok, requireRole_ok]
    at hchecks
  obtain ⟨role, hrole, hcustom, hleaders⟩ := hchecks
  refine ⟨role, hrole, by simpa using hcustom, ?_, hpassed, rfl⟩
  intro hchanges hsingle
  exact Nat.le_of_not_lt fun hmany => hleaders hchanges ⟨hsingle, hmany⟩

theorem removeRoleFromOrganigram_ok
    (h : (removeRoleFromOrganigram roleId).exec db = (.ok (), db')) :
    ∃ role, db.roleById roleId = some role ∧ isAppointedRoleKey role.key = false ∧
      db' = (db.rehangChildren roleId role.parentRoleId).takeOffChart roleId := by
  unfold removeRoleFromOrganigram removeRoleFromOrganigramChecks assertCanLeaveOrganigram at h
  simp only [Tx.exec_bind_get, Tx.exec_bind_check_ok, Tx.exec_bind_modify, Tx.exec_modify,
    Prod.mk.injEq, true_and, Tx.bind_eq_ok, Tx.exists_unit, Tx.refuseWhen_ok, requireRole_ok, pure,
    Except.pure, Except.ok.injEq] at h
  obtain ⟨_, ⟨role, hrole, hleave, rfl⟩, rfl⟩ := h
  exact ⟨role, hrole, by simpa using hleave, rfl⟩

theorem setOrganigramParent_ok
    (h : (setOrganigramParent roleId parentRoleId).exec db = (.ok (), db')) :
    ∃ role, db.roleById roleId = some role ∧ role.showInOrganigram = true ∧
      assertCanSetParent (db.setParentInput roleId role.key parentRoleId) = .ok () ∧
      requireParentRow db parentRoleId = .ok () ∧
      db' = db.hang roleId parentRoleId (db.nextOrderUnder parentRoleId) := by
  unfold setOrganigramParent setOrganigramParentChecks at h
  simp only [Tx.exec_bind_get, Tx.exec_bind_check_ok, Tx.exec_modify, Prod.mk.injEq, true_and,
    Tx.bind_eq_ok, Tx.exists_unit, Tx.refuseWhen_ok, requireRole_ok] at h
  obtain ⟨⟨role, hrole, hshown, hpolicy, hparent⟩, rfl⟩ := h
  exact ⟨role, hrole, by simpa using hshown, hpolicy, hparent, rfl⟩

theorem moveOrganigramNode_ok {direction : MoveDirection}
    (h : (moveOrganigramNode roleId direction).exec db = (.ok (), db')) :
    db' = db ∨ ∃ siblings, db' = db.renumber siblings := by
  unfold moveOrganigramNode at h
  simp only [Tx.exec_bind_get, Tx.exec_bind_check_ok, Tx.exec_modify, Prod.mk.injEq, true_and] at h
  obtain ⟨role, _, rfl⟩ := h
  split
  · exact .inl rfl
  · exact .inr ⟨_, rfl⟩

end Success

end Unitae.Roles
