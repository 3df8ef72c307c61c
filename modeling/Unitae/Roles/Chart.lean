import Unitae.Roles.SinglePerson

/-!
# Unitae — the chart a state draws

A state of the role tables draws a chart: where each role's pointer leads (`parentOf`), which roles
are shown (`shownAt`), and which ids the built-in keys have (`idOfKey`). This module says what each
write does to these three functions, so that the forest below is reasoned about on them alone.
-/

namespace Unitae.Roles

/-- Where the role's `parentRoleId` leads. -/
def RoleDb.parentOf (db : RoleDb) (roleId : Nat) : Option Nat :=
  (db.roleById roleId).bind (·.parentRoleId)

/-- The role is flagged in the organigram. -/
def RoleDb.shownAt (db : RoleDb) (roleId : Nat) : Bool :=
  (db.roleById roleId).any (·.showInOrganigram)

def RoleDb.idOfKey (db : RoleDb) (key : String) : Option Nat := (db.roleByKey key).map (·.id)

section Writes

variable {db db' : RoleDb} {roleId y : Nat} {parentRoleId : Option Nat} {key : String}

theorem parentOf_congr (h : db'.roles = db.roles) : db'.parentOf y = db.parentOf y := by
  unfold RoleDb.parentOf RoleDb.roleById
  rw [h]

theorem shownAt_congr (h : db'.roles = db.roles) : db'.shownAt y = db.shownAt y := by
  unfold RoleDb.shownAt RoleDb.roleById
  rw [h]

theorem roleById_updateRoles {sel : Role → Bool} {data : Role → Role}
    (hid : ∀ r, (data r).id = r.id) :
    (db.updateRoles sel data).roleById y =
      (db.roleById y).map fun r => if sel r then data r else r := by
  unfold RoleDb.roleById
  rw [RoleDb.updateRoles_roles, List.find?_map]
  congr 2
  exact funext fun r => congrArg (· == y) (column_ite (hid r))

theorem roleById_updateRole_self {role : Role} (hrole : db.roleById roleId = some role)
    {data : Role → Role} (hid : ∀ r, (data r).id = r.id) :
    (db.updateRoles (·.id == roleId) data).roleById roleId = some (data role) := by
  rw [roleById_updateRoles hid, hrole, Option.map_some, if_pos]
  exact beq_iff_eq.mpr (RoleDb.roleById_mem hrole).2

theorem roleById_updateRole_of_ne {data : Role → Role} (hid : ∀ r, (data r).id = r.id)
    (hne : y ≠ roleId) : (db.updateRoles (·.id == roleId) data).roleById y = db.roleById y := by
  rw [roleById_updateRoles hid]
  refine (Option.map_congr fun r hr => if_neg ?_).trans Option.map_id'
  rw [(RoleDb.roleById_mem hr).2, beq_iff_eq]
  exact hne

/-- An update that keeps the rows' parents moves no role. -/
theorem parentOf_updateRoles {sel : Role → Bool} {data : Role → Role} (hid : ∀ r, (data r).id = r.id)
    (hkeeps : ∀ r, (data r).parentRoleId = r.parentRoleId) :
    (db.updateRoles sel data).parentOf y = db.parentOf y := by
  unfold RoleDb.parentOf
  rw [roleById_updateRoles hid, Option.bind_map]
  congr 1
  exact funext fun r => column_ite (hkeeps r)

/-- An update that keeps the rows' flags shows no other role. -/
theorem shownAt_updateRoles {sel : Role → Bool} {data : Role → Role} (hid : ∀ r, (data r).id = r.id)
    (hkeeps : ∀ r, (data r).showInOrganigram = r.showInOrganigram) :
    (db.updateRoles sel data).shownAt y = db.shownAt y := by
  unfold RoleDb.shownAt
  rw [roleById_updateRoles hid, Option.any_map]
  congr 1
  exact funext fun r => column_ite (hkeeps r)

/-- An update of the one row of an id moves that role and no other. -/
theorem parentOf_updateRole {role : Role} (hrole : db.roleById roleId = some role)
    {data : Role → Role} (hid : ∀ r, (data r).id = r.id) :
    (db.updateRoles (·.id == roleId) data).parentOf y =
      if y = roleId then (data role).parentRoleId else db.parentOf y := by
  unfold RoleDb.parentOf
  by_cases hy : y = roleId
  · rw [if_pos hy, hy, roleById_updateRole_self hrole hid]
    rfl
  · rw [if_neg hy, roleById_updateRole_of_ne hid hy]

theorem shownAt_updateRole {role : Role} (hrole : db.roleById roleId = some role)
    {data : Role → Role} (hid : ∀ r, (data r).id = r.id) :
    (db.updateRoles (·.id == roleId) data).shownAt y =
      if y = roleId then (data role).showInOrganigram else db.shownAt y := by
  unfold RoleDb.shownAt
  by_cases hy : y = roleId
  · rw [if_pos hy, hy, roleById_updateRole_self hrole hid]
    rfl
  · rw [if_neg hy, roleById_updateRole_of_ne hid hy]

theorem shownAt_place {order : Int} {role : Role} (hrole : db.roleById roleId = some role) :
    (db.place roleId parentRoleId order).shownAt y = (y == roleId || db.shownAt y) := by
  unfold RoleDb.place
  rw [shownAt_updateRole hrole]
  swap
  · exact fun _ => rfl
  by_cases hy : y = roleId <;> simp [hy]

/-- A role already shown stays shown wherever it is hung. -/
theorem shownAt_hang {order : Int} {role : Role} (hrole : db.roleById roleId = some role)
    (hshown : role.showInOrganigram = true) :
    (db.hang roleId parentRoleId order).shownAt y = (y == roleId || db.shownAt y) := by
  unfold RoleDb.hang
  rw [shownAt_updateRole hrole]
  swap
  · exact fun _ => rfl
  by_cases hy : y = roleId <;> simp [hy, hshown]

theorem parentOf_rehangChildren :
    (db.rehangChildren roleId parentRoleId).parentOf y =
      if db.parentOf y = some roleId then parentRoleId else db.parentOf y := by
  unfold RoleDb.parentOf RoleDb.rehangChildren
  rw [roleById_updateRoles]
  swap
  · exact fun _ => rfl
  cases db.roleById y with
  | none => rfl
  | some r =>
    simp only [Option.map_some, Option.bind_some, beq_iff_eq]
    split <;> rfl

theorem shownAt_rehangChildren :
    (db.rehangChildren roleId parentRoleId).shownAt y = db.shownAt y := by
  unfold RoleDb.rehangChildren
  exact shownAt_updateRoles (fun _ => rfl) fun _ => rfl

/-- Taking a role off the chart leaves it with no parent, whether or not it exists. -/
theorem parentOf_takeOffChart :
    (db.takeOffChart roleId).parentOf y = if y = roleId then none else db.parentOf y := by
  cases hrole : db.roleById roleId with
  | some role =>
    unfold RoleDb.takeOffChart
    rw [parentOf_updateRole hrole]
    exact fun _ => rfl
  | none =>
    unfold RoleDb.parentOf RoleDb.takeOffChart
    by_cases hy : y = roleId
    · rw [if_pos hy, hy, roleById_updateRoles, hrole]
      · rfl
      · exact fun _ => rfl
    · rw [if_neg hy, roleById_updateRole_of_ne _ hy]
      exact fun _ => rfl

theorem shownAt_takeOffChart :
    (db.takeOffChart roleId).shownAt y = (db.shownAt y && y != roleId) := by
  unfold RoleDb.shownAt RoleDb.takeOffChart
  rw [roleById_updateRoles]
  swap
  · exact fun _ => rfl
  cases hfound : db.roleById y with
  | none => rfl
  | some r =>
    rw [← (RoleDb.roleById_mem hfound).2]
    by_cases hy : r.id = roleId <;> simp [hy]

/-- Re-hanging the children of a role and taking it off. -/
theorem parentOf_lifted :
    ((db.rehangChildren roleId parentRoleId).takeOffChart roleId).parentOf y =
      if y = roleId then none
      else if db.parentOf y = some roleId then parentRoleId else db.parentOf y := by
  rw [parentOf_takeOffChart, parentOf_rehangChildren]

theorem shownAt_lifted :
    ((db.rehangChildren roleId parentRoleId).takeOffChart roleId).shownAt y =
      (db.shownAt y && y != roleId) := by
  rw [shownAt_takeOffChart, shownAt_rehangChildren]

theorem parentOf_renumber (siblings : List Role) : (db.renumber siblings).parentOf y = db.parentOf y := by
  refine List.foldlRecOn (motive := fun placed : RoleDb => placed.parentOf y = db.parentOf y) _ _ rfl ?_
  intro placed hplaced entry _
  obtain ⟨sibling, position⟩ := entry
  rw [← hplaced]
  exact parentOf_updateRoles (fun _ => rfl) fun _ => rfl

theorem shownAt_renumber (siblings : List Role) : (db.renumber siblings).shownAt y = db.shownAt y := by
  refine List.foldlRecOn (motive := fun placed : RoleDb => placed.shownAt y = db.shownAt y) _ _ rfl ?_
  intro placed hplaced entry _
  obtain ⟨sibling, position⟩ := entry
  rw [← hplaced]
  exact shownAt_updateRoles (fun _ => rfl) fun _ => rfl

theorem roleById_createRole {row : Nat → Role} :
    (db.createRole row).roleById y =
      (db.roleById y).or (Option.guard (fun r => r.id == y) (row db.nextRoleId)) := by
  unfold RoleDb.roleById
  rw [RoleDb.createRole_roles, List.find?_append, List.find?_singleton]
  rfl

/-- A new role, off the chart, draws nothing. -/
theorem parentOf_createRole {row : Nat → Role} (hrow : ∀ n, (row n).parentRoleId = none) :
    (db.createRole row).parentOf y = db.parentOf y := by
  unfold RoleDb.parentOf
  rw [roleById_createRole]
  cases db.roleById y with
  | some r => rfl
  | none =>
    rw [Option.none_or, Option.guard]
    split
    · exact hrow _
    · rfl

theorem shownAt_createRole {row : Nat → Role} (hrow : ∀ n, (row n).showInOrganigram = false) :
    (db.createRole row).shownAt y = db.shownAt y := by
  unfold RoleDb.shownAt
  rw [roleById_createRole]
  cases db.roleById y with
  | some r => rfl
  | none =>
    rw [Option.none_or, Option.guard]
    split
    · exact hrow _
    · rfl

theorem roleById_deleteRole :
    (db.deleteRole roleId).roleById y = if y = roleId then none else db.roleById y := by
  unfold RoleDb.roleById
  rw [RoleDb.deleteRole_roles, List.find?_filter]
  by_cases hy : y = roleId
  · rw [if_pos hy, List.find?_eq_none]
    intro r _
    simp [hy]
  · rw [if_neg hy]
    congr 1
    funext r
    by_cases hr : r.id = y <;> simp [hr, hy]

theorem parentOf_deleteRole :
    (db.deleteRole roleId).parentOf y = if y = roleId then none else db.parentOf y := by
  unfold RoleDb.parentOf
  rw [roleById_deleteRole]
  split <;> rfl

theorem shownAt_deleteRole :
    (db.deleteRole roleId).shownAt y = (db.shownAt y && y != roleId) := by
  unfold RoleDb.shownAt
  rw [roleById_deleteRole]
  by_cases hy : y = roleId <;> simp [hy]

/-- Nobody's pointer leads to a role that has no child. -/
theorem parentOf_ne_of_leaf (hleaf : ∀ r ∈ db.roles, r.parentRoleId ≠ some roleId) :
    db.parentOf y ≠ some roleId := by
  unfold RoleDb.parentOf
  cases hfound : db.roleById y with
  | none => simp
  | some r => exact hleaf r (RoleDb.roleById_mem hfound).1

theorem SameRoles.idOfKey (h : SameRoles db db') (hdb : db.Valid) (hseeded : Seeded db)
    (hkey : key ∈ seededRoleKeys) : db'.idOfKey key = db.idOfKey key := by
  obtain ⟨role, hrole, _⟩ := hseeded.roleByKey hdb hkey
  obtain ⟨role', hrole', hsame⟩ := h.roleByKey hdb hrole
  unfold RoleDb.idOfKey
  rw [hrole, hrole', Option.map_some, Option.map_some, Role.id_eq_of_offChart hsame]

theorem idOfKey_createRole (hdb : db.Valid) (hseeded : Seeded db) (hkey : key ∈ seededRoleKeys)
    (row : Nat → Role) : (db.createRole row).idOfKey key = db.idOfKey key := by
  obtain ⟨role, hrole, _⟩ := hseeded.roleByKey hdb hkey
  unfold RoleDb.idOfKey
  rw [hrole]
  unfold RoleDb.roleByKey at hrole ⊢
  rw [RoleDb.createRole_roles, List.find?_append, hrole]
  rfl

theorem idOfKey_deleteRole {role : Role} (hdb : db.Valid) (hseeded : Seeded db)
    (hrole : role ∈ db.roles) (hcustom : role.isBuiltIn = false) (hkey : key ∈ seededRoleKeys) :
    (db.deleteRole role.id).idOfKey key = db.idOfKey key := by
  unfold RoleDb.idOfKey
  rw [hseeded.roleByKey_deleteRole hdb hrole hcustom hkey]

end Writes

end Unitae.Roles
