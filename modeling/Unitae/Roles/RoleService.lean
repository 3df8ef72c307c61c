import Unitae.Base.Table
import Unitae.Roles.BuiltInRoles
import Unitae.Roles.GrantLimits
import Unitae.Text

/-!
# Unitae — roles and their grants (`roles.server.ts`)

Creating, renaming and deleting roles, the permissions they carry, and the hand-made assignments
of accounts to them. As in `Seats.lean`, a service is its checks followed by its writes.
-/

namespace Unitae.Roles

/-! ## Permissions of a role -/

def RoleDb.permissionKeys (db : RoleDb) (roleId : Nat) : List String :=
  (db.rolePermissions.filter fun p => p.roleId == roleId).map (·.permission)

/-- The keys of `xs` that are not in `ys`, each once (`[...new Set(xs)].filter(!ys.has)`). -/
def keysNotIn (xs ys : List String) : List String := xs.eraseDups.filter fun k => !ys.contains k

/-- Keys with no `Permission` row are dropped. -/
def syncRolePermissions (roleId : Nat) (previousKeys desiredKeys : List String) (db : RoleDb) :
    RoleDb :=
  let added := (keysNotIn desiredKeys previousKeys).filter fun k => db.permissions.contains k
  let removed := (keysNotIn previousKeys desiredKeys).filter fun k => db.permissions.contains k
  (db.createRolePermissions roleId added).deleteRolePermissions roleId removed

/-- Built-in roles shape everyone's access: their permissions are an admin's call alone. -/
def updateRolePermissionsChecks (role : Role) (previousKeys permissionKeys : List String)
    (actorPermissions : List String) : Except Failure Unit :=
  let changed := keysNotIn permissionKeys previousKeys ++ keysNotIn previousKeys permissionKeys
  Tx.checkWhen (changed ≠ []) do
    Tx.refuseWhen (role.isBuiltIn && !isAdminActor actorPermissions)
      (.app (.grantBeyondActor "Only an admin can change a built-in role's permissions"))
    assertActorHolds actorPermissions changed

def updateRolePermissions (roleId : Nat) (permissionKeys actorPermissions : List String) :
    Tx RoleDb Failure Unit := do
  let db ← get
  match db.roleById roleId with
  | none => pure ()
  | some role =>
    let previousKeys := db.permissionKeys role.id
    Tx.check (updateRolePermissionsChecks role previousKeys permissionKeys actorPermissions)
    modify (syncRolePermissions role.id previousKeys permissionKeys)

/-! ## Creating, renaming and deleting roles -/

structure CreateRoleParams where
  name : String
  description : Option String
  permissionKeys : List String
  isSinglePerson : Bool
deriving DecidableEq, Repr

/-- `description?.trim() || null`. -/
def trimDescription (description : Option String) : Option String :=
  (description.map trim).filter fun d => d != ""

/-- The trimmed name and the key of a role that may be created under this name. -/
def createRoleChecks (u : Unicode) (db : RoleDb) (name : String) :
    Except Failure (String × String) := do
  let trimmedName := trim name
  Tx.refuseWhen (trimmedName = "") (.app (.validation "name" "Name is required"))
  let key := slugifyRoleKey u trimmedName
  Tx.refuseWhen (key = "")
    (.app (.validation "name" "Name must contain at least one alphanumeric character"))
  Tx.refuseWhen (db.roleByKey key).isSome
    (.app (.conflict ("A role with key \"" ++ key ++ "\" already exists")))
  return (trimmedName, key)

/-- The row of a new role: a custom role, off the chart. -/
def newRole (name key : String) (description : Option String) (isSinglePerson : Bool) (id : Nat) :
    Role where
  id := id
  key := key
  name := some name
  description := description
  isBuiltIn := false
  parentRoleId := none
  showInOrganigram := false
  organigramOrder := none
  isSinglePerson := isSinglePerson

def createRole (u : Unicode) (params : CreateRoleParams) : Tx RoleDb Failure Nat := do
  let db ← get
  let (name, key) ← Tx.check (createRoleChecks u db params.name)
  modify (·.createRole (newRole name key (trimDescription params.description) params.isSinglePerson))
  modify (syncRolePermissions db.nextRoleId [] params.permissionKeys)
  return db.nextRoleId

/-- Renaming: `none` in a field of the request leaves it alone. -/
def updateRoleIdentityChecks (role : Role) (name : Option String) : Except Failure Unit := do
  Tx.refuseWhen role.isBuiltIn
    (.app (.forbidden "Built-in role identity is sourced from i18n and cannot be edited"))
  match name with
  | none => .ok ()
  | some name => Tx.refuseWhen (trim name = "") (.app (.validation "name" "Name is required"))

/-- The row after a rename: trimmed texts, and only where the request changes something. -/
def Role.withIdentity (role : Role) (name : Option String) (description : Option (Option String)) :
    Role :=
  { role with
    name := (name.map trim).orElse fun _ => role.name
    description := match description with
      | none => role.description
      | some description =>
        if trimDescription description = trimDescription role.description then role.description
        else trimDescription description }

def updateRoleIdentity (roleId : Nat) (name : Option String) (description : Option (Option String)) :
    Tx RoleDb Failure Unit := do
  let db ← get
  match db.roleById roleId with
  | none => pure ()
  | some role =>
    Tx.check (updateRoleIdentityChecks role name)
    modify (·.updateRoles (·.id == role.id) (·.withIdentity name description))

/-- A role that others report to stays: the refusal names them. -/
def deleteRoleChecks (db : RoleDb) (role : Role) : Except Failure Unit := do
  Tx.refuseWhen role.isBuiltIn (.app (.forbidden "Built-in roles cannot be deleted"))
  let children := db.roles.filter fun r => r.parentRoleId == some role.id
  let names := ", ".intercalate (children.map fun child => child.name.getD child.key)
  Tx.refuseWhen (children ≠ [])
    (.app (.conflict ("Des services de l’organigramme lui sont rattachés : " ++ names ++
      ". Déplacez-les avant de supprimer ce rôle.")))

def deleteRole (roleId : Nat) : Tx RoleDb Failure Unit := do
  let db ← get
  match db.roleById roleId with
  | none => pure ()
  | some role =>
    Tx.check (deleteRoleChecks db role)
    modify (·.deleteRole role.id)

/-! ## Assignments by hand -/

/-- The foreign key of a new assignment. -/
def requireAccountRow (db : RoleDb) (userId : Nat) : Except Failure Unit :=
  Tx.refuseWhen (db.accountById userId = none) (.database .foreignKey)

def addUserToRoleChecks (db : RoleDb) (userId : Nat) (role : Role)
    (actorPermissions : List String) : Except Failure Bool := do
  Tx.refuseWhen (isIdentityRoleKey role.key)
    (.app (.forbidden "Identity role memberships are managed automatically"))
  Tx.refuseWhen role.isSinglePerson
    (.app (.forbidden "Personal roles are seated from the organigram"))
  match db.seat userId role.id with
  | some _ => return false
  | none =>
    assertMayChangeAccountAccess db userId actorPermissions
    assertActorHoldsRolePermissions db [role.id] actorPermissions
    requireAccountRow db userId
    return true

def addUserToRole (userId roleId : Nat) (actorPermissions : List String) :
    Tx RoleDb Failure Unit := do
  let db ← get
  match db.roleById roleId with
  | none => pure ()
  | some role =>
    let added ← Tx.check (addUserToRoleChecks db userId role actorPermissions)
    modify fun db => if added then db.createSeats [⟨userId, role.id, .member⟩] else db

def removeUserFromRoleChecks (db : RoleDb) (userId : Nat) (role : Role)
    (actorPermissions : List String) : Except Failure Bool := do
  Tx.refuseWhen (isIdentityRoleKey role.key)
    (.app (.forbidden "Identity role memberships are managed automatically"))
  match db.seat userId role.id with
  | none => return false
  | some existing =>
    Tx.refuseWhen (existing.kind = .leader ∨ existing.kind = .deputy)
      (.app (.forbidden "Leadership seats are managed from the organigram"))
    assertMayChangeAccountAccess db userId actorPermissions
    assertActorHoldsRolePermissions db [role.id] actorPermissions
    Tx.checkWhen (roleGrantsAdmin db role.id) (requireNotLastAdmin db userId)
    return true

def removeUserFromRole (userId roleId : Nat) (actorPermissions : List String) :
    Tx RoleDb Failure Unit := do
  let db ← get
  match db.roleById roleId with
  | none => pure ()
  | some role =>
    let removed ← Tx.check (removeUserFromRoleChecks db userId role actorPermissions)
    modify fun db =>
      if removed then db.deleteSeats fun a => a.userId == userId && a.roleId == role.id else db

/-- Roles granted from a checkbox list: custom and system roles, never a personal one. -/
def accountAssignableRole (role : Role) : Bool :=
  !role.isSinglePerson && (!role.isBuiltIn || systemRoleKeys.contains role.key)

def RoleDb.assignableIds (db : RoleDb) : List Nat :=
  (db.roles.filter accountAssignableRole).map (·.id)

/-- The assignable roles to add to the account and to take from it. -/
def customRoleDiff (db : RoleDb) (userId : Nat) (customRoleIds : List Nat) : List Nat × List Nat :=
  let desired := (customRoleIds.filter fun id => db.assignableIds.contains id).eraseDups
  let existing := ((db.userRoleAssignments.filter fun a =>
    a.userId == userId && db.assignableIds.contains a.roleId).map (·.roleId)).eraseDups
  (desired.filter fun id => !existing.contains id, existing.filter fun id => !desired.contains id)

def setUserCustomRoleAssignmentsChecks (db : RoleDb) (userId : Nat) (added removed : List Nat)
    (actorPermissions : List String) : Except Failure Unit :=
  Tx.checkWhen (added ++ removed ≠ []) do
    assertMayChangeAccountAccess db userId actorPermissions
    assertActorHoldsRolePermissions db (added ++ removed) actorPermissions
    Tx.checkWhen (removed.any (roleGrantsAdmin db)) (requireNotLastAdmin db userId)
    Tx.checkWhen (added ≠ []) (requireAccountRow db userId)

def setUserCustomRoleAssignments (userId : Nat) (customRoleIds : List Nat)
    (actorPermissions : List String) : Tx RoleDb Failure Unit := do
  let db ← get
  let (added, removed) := customRoleDiff db userId customRoleIds
  Tx.check (setUserCustomRoleAssignmentsChecks db userId added removed actorPermissions)
  modify fun db => (db.createSeats (added.map fun id => ⟨userId, id, .member⟩)).deleteSeats
    fun a => a.userId == userId && removed.contains a.roleId

/-! ## What a success says -/

section Success

variable {u : Unicode} {db db' : RoleDb} {role : Role} {userId roleId : Nat} {keys : List String}
  {actorPermissions : List String}

theorem updateRolePermissions_ok
    (h : (updateRolePermissions roleId keys actorPermissions).exec db = (.ok (), db')) :
    (db.roleById roleId = none ∧ db' = db) ∨ ∃ role, db.roleById roleId = some role ∧
      updateRolePermissionsChecks role (db.permissionKeys role.id) keys actorPermissions = .ok () ∧
      db' = syncRolePermissions role.id (db.permissionKeys role.id) keys db := by
  unfold updateRolePermissions at h
  rw [Tx.exec_bind_get] at h
  cases hrole : db.roleById roleId with
  | none =>
    simp only [hrole, Tx.exec_pure, Prod.mk.injEq, true_and] at h
    exact .inl ⟨rfl, h.symm⟩
  | some role =>
    simp only [hrole, Tx.exec_bind_check_ok, Tx.exec_modify, Prod.mk.injEq, true_and] at h
    obtain ⟨_, hchecks, rfl⟩ := h
    exact .inr ⟨role, rfl, hchecks, rfl⟩

theorem createRoleChecks_ok {name trimmedName key : String}
    (h : createRoleChecks u db name = .ok (trimmedName, key)) :
    key = slugifyRoleKey u trimmedName ∧ db.roleByKey key = none := by
  unfold createRoleChecks at h
  simp only [Tx.bind_eq_ok, Tx.exists_unit, Tx.refuseWhen_ok, pure, Except.pure, Except.ok.injEq,
    Prod.mk.injEq] at h
  obtain ⟨_, _, hfree, rfl, rfl⟩ := h
  exact ⟨rfl, by simpa using hfree⟩

theorem createRole_ok {params : CreateRoleParams} {id : Nat}
    (h : (createRole u params).exec db = (.ok id, db')) :
    id = db.nextRoleId ∧ ∃ name key, createRoleChecks u db params.name = .ok (name, key) ∧
      db' = syncRolePermissions db.nextRoleId [] params.permissionKeys
        (db.createRole
          (newRole name key (trimDescription params.description) params.isSinglePerson)) := by
  unfold createRole at h
  rw [Tx.exec_bind_get] at h
  obtain ⟨⟨name, key⟩, hchecks, hwrites⟩ := Tx.exec_bind_check_ok.mp h
  rw [Tx.exec_bind_modify, Tx.exec_bind_modify, Tx.exec_pure, Prod.mk.injEq] at hwrites
  obtain ⟨hid, rfl⟩ := hwrites
  obtain rfl := Except.ok.inj hid
  exact ⟨rfl, name, key, hchecks, rfl⟩

theorem updateRoleIdentity_ok {name : Option String} {description : Option (Option String)}
    (h : (updateRoleIdentity roleId name description).exec db = (.ok (), db')) :
    db' = db ∨ ∃ role, db.roleById roleId = some role ∧
      db' = db.updateRoles (·.id == role.id) (·.withIdentity name description) := by
  unfold updateRoleIdentity at h
  rw [Tx.exec_bind_get] at h
  cases hrole : db.roleById roleId with
  | none =>
    simp only [hrole, Tx.exec_pure, Prod.mk.injEq, true_and] at h
    exact .inl h.symm
  | some role =>
    simp only [hrole, Tx.exec_bind_check_ok, Tx.exec_modify, Prod.mk.injEq, true_and] at h
    obtain ⟨_, _, rfl⟩ := h
    exact .inr ⟨role, rfl, rfl⟩

theorem deleteRole_ok (h : (deleteRole roleId).exec db = (.ok (), db')) :
    (db.roleById roleId = none ∧ db' = db) ∨
      ∃ role, db.roleById roleId = some role ∧ role.isBuiltIn = false ∧
        (∀ r ∈ db.roles, r.parentRoleId ≠ some role.id) ∧ db' = db.deleteRole role.id := by
  unfold deleteRole at h
  rw [Tx.exec_bind_get] at h
  cases hrole : db.roleById roleId with
  | none =>
    simp only [hrole, Tx.exec_pure, Prod.mk.injEq, true_and] at h
    exact .inl ⟨rfl, h.symm⟩
  | some role =>
    simp only [hrole, Tx.exec_bind_check_ok, Tx.exec_modify, Prod.mk.injEq, true_and] at h
    obtain ⟨_, hchecks, rfl⟩ := h
    unfold deleteRoleChecks at hchecks
    simp only [Tx.bind_eq_ok, Tx.exists_unit, Tx.refuseWhen_ok, ne_eq, Decidable.not_not,
      List.filter_eq_nil_iff, beq_iff_eq] at hchecks
    exact .inr ⟨role, rfl, by simpa using hchecks.1, hchecks.2, rfl⟩

theorem addUserToRole_ok (h : (addUserToRole userId roleId actorPermissions).exec db = (.ok (), db')) :
    db' = db ∨ ∃ role, db.roleById roleId = some role ∧ isIdentityRoleKey role.key = false ∧
      role.isSinglePerson = false ∧ ¬db.Seated userId role.id ∧
      assertActorHoldsRolePermissions db [role.id] actorPermissions = .ok () ∧
      addUserToRoleChecks db userId role actorPermissions = .ok true ∧
      db' = db.createSeats [⟨userId, role.id, .member⟩] := by
  unfold addUserToRole at h
  rw [Tx.exec_bind_get] at h
  cases hrole : db.roleById roleId with
  | none =>
    simp only [hrole, Tx.exec_pure, Prod.mk.injEq, true_and] at h
    exact .inl h.symm
  | some role =>
    simp only [hrole, Tx.exec_bind_check_ok, Tx.exec_modify, Prod.mk.injEq, true_and] at h
    obtain ⟨added, hpassed, rfl⟩ := h
    have hchecks := hpassed
    unfold addUserToRoleChecks at hchecks
    cases hseat : db.seat userId role.id with
    | some existing =>
      simp only [hseat, Tx.bind_eq_ok, Tx.exists_unit, Tx.refuseWhen_ok, pure, Except.pure,
        Except.ok.injEq] at hchecks
      obtain ⟨_, _, rfl⟩ := hchecks
      exact .inl rfl
    | none =>
      simp only [hseat, Tx.bind_eq_ok, Tx.exists_unit, Tx.refuseWhen_ok, pure, Except.pure,
        Except.ok.injEq] at hchecks
      obtain ⟨hidentity, hsingle, _, hlimits, _, rfl⟩ := hchecks
      exact .inr ⟨role, rfl, by simpa using hidentity, by simpa using hsingle,
        RoleDb.seat_eq_none.mp hseat, hlimits, hpassed, rfl⟩

theorem removeUserFromRole_ok
    (h : (removeUserFromRole userId roleId actorPermissions).exec db = (.ok (), db')) :
    ((∀ role, db.roleById roleId = some role → ¬db.Seated userId role.id) ∧ db' = db) ∨
      ∃ role existing, db.roleById roleId = some role ∧
      db.seat userId role.id = some existing ∧ existing.kind = .member ∧
      assertActorHoldsRolePermissions db [role.id] actorPermissions = .ok () ∧
      removeUserFromRoleChecks db userId role actorPermissions = .ok true ∧
      db' = db.deleteSeats fun a => a.userId == userId && a.roleId == role.id := by
  unfold removeUserFromRole at h
  rw [Tx.exec_bind_get] at h
  cases hrole : db.roleById roleId with
  | none =>
    simp only [hrole, Tx.exec_pure, Prod.mk.injEq, true_and] at h
    exact .inl ⟨by simp, h.symm⟩
  | some role =>
    simp only [hrole, Tx.exec_bind_check_ok, Tx.exec_modify, Prod.mk.injEq, true_and] at h
    obtain ⟨removed, hpassed, rfl⟩ := h
    have hchecks := hpassed
    unfold removeUserFromRoleChecks at hchecks
    cases hseat : db.seat userId role.id with
    | none =>
      simp only [hseat, Tx.bind_eq_ok, Tx.exists_unit, Tx.refuseWhen_ok, pure, Except.pure,
        Except.ok.injEq] at hchecks
      obtain ⟨_, rfl⟩ := hchecks
      refine .inl ⟨fun role' hsome => ?_, rfl⟩
      rw [← Option.some.inj hsome]
      exact RoleDb.seat_eq_none.mp hseat
    | some existing =>
      simp only [hseat, Tx.bind_eq_ok, Tx.exists_unit, Tx.refuseWhen_ok, Tx.checkWhen_ok, pure,
        Except.pure, Except.ok.injEq, not_or] at hchecks
      obtain ⟨_, ⟨hleader, hdeputy⟩, _, hlimits, _, rfl⟩ := hchecks
      have hkind : existing.kind = .member := by
        cases hk : existing.kind with
        | leader => exact absurd hk hleader
        | deputy => exact absurd hk hdeputy
        | member => rfl
      exact .inr ⟨role, existing, rfl, hseat, hkind, hlimits, hpassed, rfl⟩

theorem setUserCustomRoleAssignments_ok {ids : List Nat}
    (h : (setUserCustomRoleAssignments userId ids actorPermissions).exec db = (.ok (), db')) :
    ∃ added removed, customRoleDiff db userId ids = (added, removed) ∧
      setUserCustomRoleAssignmentsChecks db userId added removed actorPermissions = .ok () ∧
      db' = (db.createSeats (added.map fun id => ⟨userId, id, .member⟩)).deleteSeats
        fun a => a.userId == userId && removed.contains a.roleId := by
  unfold setUserCustomRoleAssignments at h
  rw [Tx.exec_bind_get] at h
  rcases hdiff : customRoleDiff db userId ids with ⟨added, removed⟩
  rw [hdiff] at h
  obtain ⟨_, hchecks, hwrites⟩ := Tx.exec_bind_check_ok.mp h
  rw [Tx.exec_modify, Prod.mk.injEq] at hwrites
  exact ⟨added, removed, rfl, hchecks, hwrites.2.symm⟩

end Success

/-! ## What the writes leave -/

section Writes

variable {db : RoleDb} {userId roleId : Nat} {keys : List String} {key : String}

theorem mem_permissionKeys : key ∈ db.permissionKeys roleId ↔ db.Carries roleId key := by
  simp only [RoleDb.permissionKeys, RoleDb.Carries, List.mem_map, List.mem_filter, beq_iff_eq]
  constructor
  · rintro ⟨p, ⟨hp, hrole⟩, hkey⟩
    exact ⟨p, hp, hrole, hkey⟩
  · rintro ⟨p, hp, hrole, hkey⟩
    exact ⟨p, ⟨hp, hrole⟩, hkey⟩

@[simp] theorem mem_keysNotIn {xs ys : List String} : key ∈ keysNotIn xs ys ↔ key ∈ xs ∧ key ∉ ys := by
  simp [keysNotIn]

/-- The permissions are written to `rolePermissions` only. -/
theorem syncRolePermissions_frame (roleId : Nat) (previous desired : List String) (db : RoleDb) :
    ∃ rows, syncRolePermissions roleId previous desired db = { db with rolePermissions := rows } :=
  ⟨_, rfl⟩

/-- After the sync a role carries a known permission exactly when it is desired; keys the
`Permission` table does not know stay as they were. Other roles are untouched. -/
theorem syncRolePermissions_carries {r : Nat} :
    (syncRolePermissions roleId (db.permissionKeys roleId) keys db).Carries r key ↔
      if r = roleId ∧ key ∈ db.permissions then key ∈ keys else db.Carries r key := by
  unfold syncRolePermissions RoleDb.Carries
  simp only [RoleDb.deleteRolePermissions_rolePermissions,
    RoleDb.createRolePermissions_rolePermissions, List.mem_filter, List.mem_append, List.mem_map,
    mem_keysNotIn, mem_permissionKeys, Bool.not_eq_true', Bool.and_eq_false_iff,
    beq_eq_false_iff_ne, List.contains_eq_mem, decide_eq_false_iff_not, decide_eq_true_eq]
  constructor
  · rintro ⟨p, ⟨hp | ⟨k, ⟨⟨⟨hdesired, _⟩, hknown⟩, _⟩, rfl⟩, hkept⟩, rfl, rfl⟩
    · split
      · next hsynced =>
        rcases hkept with hne | hkept
        · exact absurd hsynced.1 hne
        · by_cases hdesired : p.permission ∈ keys
          · exact hdesired
          · exact absurd ⟨⟨⟨p, hp, hsynced.1, rfl⟩, hdesired⟩, hsynced.2⟩ hkept
      · exact ⟨p, hp, rfl, rfl⟩
    · rw [if_pos ⟨rfl, hknown⟩]
      exact hdesired
  · intro h
    by_cases hsynced : r = roleId ∧ key ∈ db.permissions
    · obtain ⟨rfl, hknown⟩ := hsynced
      rw [if_pos ⟨rfl, hknown⟩] at h
      refine ⟨⟨r, key⟩, ⟨?_, .inr fun hremoved => hremoved.1.2 h⟩, rfl, rfl⟩
      by_cases hcarried : (⟨r, key⟩ : RolePermission) ∈ db.rolePermissions
      · exact .inl hcarried
      · refine .inr ⟨key, ⟨⟨⟨h, ?_⟩, hknown⟩, hcarried⟩, rfl⟩
        rintro ⟨p, hp, rfl, rfl⟩
        exact hcarried hp
    · rw [if_neg hsynced] at h
      obtain ⟨p, hp, rfl, rfl⟩ := h
      refine ⟨p, ⟨.inl hp, ?_⟩, rfl, rfl⟩
      by_cases hrole : p.roleId = roleId
      · exact .inr fun hremoved => hsynced ⟨hrole, hremoved.2⟩
      · exact .inl hrole

theorem mem_assignableIds : roleId ∈ db.assignableIds ↔
    ∃ r ∈ db.roles, accountAssignableRole r = true ∧ r.id = roleId := by
  simp only [RoleDb.assignableIds, List.mem_map, List.mem_filter]
  constructor
  · rintro ⟨r, ⟨hr, hassignable⟩, hid⟩
    exact ⟨r, hr, hassignable, hid⟩
  · rintro ⟨r, hr, hassignable, hid⟩
    exact ⟨r, ⟨hr, hassignable⟩, hid⟩

/-- The difference between the boxes checked and the seats held, over the assignable roles. -/
theorem customRoleDiff_spec {ids added removed : List Nat}
    (h : customRoleDiff db userId ids = (added, removed)) :
    added.Nodup ∧
      (∀ id, id ∈ added ↔ id ∈ ids ∧ id ∈ db.assignableIds ∧ ¬db.Seated userId id) ∧
      (∀ id, id ∈ removed ↔ db.Seated userId id ∧ id ∈ db.assignableIds ∧ id ∉ ids) := by
  unfold customRoleDiff at h
  simp only [Prod.mk.injEq] at h
  obtain ⟨rfl, rfl⟩ := h
  refine ⟨(List.nodup_eraseDups _).filter _, ?_, ?_⟩
  · intro id
    simp only [List.mem_filter, List.mem_eraseDups, List.contains_eq_mem, decide_eq_true_eq,
      Bool.not_eq_true', decide_eq_false_iff_not, List.mem_map, Bool.and_eq_true, beq_iff_eq,
      RoleDb.Seated]
    constructor
    · rintro ⟨⟨hid, hassignable⟩, hnew⟩
      refine ⟨hid, hassignable, ?_⟩
      rintro ⟨a, ha, huser, rfl⟩
      exact hnew ⟨a, ⟨ha, huser, hassignable⟩, rfl⟩
    · rintro ⟨hid, hassignable, hnew⟩
      refine ⟨⟨hid, hassignable⟩, ?_⟩
      rintro ⟨a, ⟨ha, huser, _⟩, hrole⟩
      exact hnew ⟨a, ha, huser, hrole⟩
  · intro id
    simp only [List.mem_filter, List.mem_eraseDups, List.contains_eq_mem, decide_eq_true_eq,
      Bool.not_eq_true', decide_eq_false_iff_not, List.mem_map, Bool.and_eq_true, beq_iff_eq,
      RoleDb.Seated]
    constructor
    · rintro ⟨⟨a, ⟨ha, huser, hassignable⟩, rfl⟩, hunchecked⟩
      exact ⟨⟨a, ha, huser, rfl⟩, hassignable, fun hid => hunchecked ⟨hid, hassignable⟩⟩
    · rintro ⟨⟨a, ha, huser, rfl⟩, hassignable, hunchecked⟩
      exact ⟨⟨a, ⟨ha, huser, hassignable⟩, rfl⟩, fun h => hunchecked h.1⟩

end Writes

end Unitae.Roles
