import Unitae.Base.Transaction
import Unitae.Roles.Schema

/-!
# Unitae — effective permissions (`permissions.server.ts`)

A permission reaches an account through two paths and no third: a role the account is seated in,
and a role the account's member holds. `resolveEffectivePermissions` is what a request runs with;
`requireNotLastAdmin` is the guard of the paths that may take can-do-anything away.

The guard queries run outside the request's transaction (`unscopedDb`), on the committed rows.
Every modelled service calls them before its first write, where the committed rows are the ones
the request started from.
-/

namespace Unitae.Roles

/-! ## The permission enumeration (`permission.ts`) -/

def canDoAnything : String := "can-do-anything"

/-- `Object.values(Permission)`. -/
def permissionValues : List String :=
  [canDoAnything, "can-view-board", "can-upload-board-documents", "can-review-board-documents",
    "can-organise-board-documents", "can-configure-board-sections",
    "can-manage-dynamic-board-documents", "can-view-territories", "can-manage-territories",
    "can-view-territory-attributions", "can-manage-territory-attributions",
    "can-manage-territory-campaigns", "can-plan-territory-splits",
    "can-configure-territory-settings", "can-view-prospection", "can-record-prospection",
    "can-manage-buildings", "can-view-publishers", "can-manage-publishers",
    "can-manage-publisher-lifecycle", "can-manage-publisher-groups", "can-view-activity",
    "can-record-activity", "can-correct-activity", "can-set-pioneer-goals",
    "can-view-emergency-info", "can-manage-emergency-info", "can-view-programs",
    "can-manage-programs", "can-assign-program-parts", "can-publish-programs",
    "can-manage-program-templates", "can-view-absences", "can-view-external-speakers",
    "can-manage-external-speakers", "can-view-users", "can-manage-users", "can-view-roles",
    "can-manage-roles", "can-configure-permissions", "can-configure-congregation",
    "can-export-congregation-data", "can-import-congregation-data", "can-delete-user-accounts",
    "can-anonymise-people"]

/-! ## Paths from an account to a role -/

/-- The account's member holds the role (`member: { roleAssignments: { some: { roleId } } }`). -/
def RoleDb.HoldsAsMember (db : RoleDb) (account : UserAccount) (roleId : Nat) : Prop :=
  ∃ a ∈ db.memberRoleAssignments, account.memberId = some a.memberId ∧ a.roleId = roleId

/-- `rolesAssignedToAccount`: the account reaches the role by one of the two paths. -/
def RoleDb.Assigned (db : RoleDb) (userId roleId : Nat) : Prop :=
  db.Seated userId roleId ∨ ∃ acc ∈ db.accounts, acc.id = userId ∧ db.HoldsAsMember acc roleId

/-- The role carries the permission. -/
def RoleDb.Carries (db : RoleDb) (roleId : Nat) (key : String) : Prop :=
  ∃ p ∈ db.rolePermissions, p.roleId = roleId ∧ p.permission = key

instance (db : RoleDb) (account : UserAccount) (roleId : Nat) :
    Decidable (db.HoldsAsMember account roleId) :=
  inferInstanceAs (Decidable (∃ _ ∈ _, _))

instance (db : RoleDb) (userId roleId : Nat) : Decidable (db.Assigned userId roleId) :=
  inferInstanceAs (Decidable (_ ∨ _))

instance (db : RoleDb) (roleId : Nat) (key : String) : Decidable (db.Carries roleId key) :=
  inferInstanceAs (Decidable (∃ _ ∈ _, _))

/-! ## Effective permissions -/

/-- The keys of the roles assigned to the account, each once. -/
def RoleDb.grantedKeys (db : RoleDb) (userId : Nat) : List String :=
  ((db.rolePermissions.filter fun p => db.Assigned userId p.roleId).map (·.permission)).eraseDups

/-- An admin's set is every permission of the enumeration; anyone else's is what was granted. -/
def resolveEffectivePermissions (db : RoleDb) (userId : Nat) : List String :=
  let granted := db.grantedKeys userId
  if granted.contains canDoAnything then permissionValues else granted

/-- `accountsWithPermissionFilter`, read as a predicate on one account. -/
def RoleDb.accountHasPermission (db : RoleDb) (account : UserAccount) (key : String) : Prop :=
  ∃ p ∈ db.rolePermissions,
    p.permission = key ∧ (db.Seated account.id p.roleId ∨ db.HoldsAsMember account p.roleId)

instance (db : RoleDb) (account : UserAccount) (key : String) :
    Decidable (db.accountHasPermission account key) :=
  inferInstanceAs (Decidable (∃ _ ∈ _, _))

def findAccountsWithPermission (db : RoleDb) (key : String) : List UserAccount :=
  db.accounts.filter fun acc => db.accountHasPermission acc key

def isAccountAdmin (db : RoleDb) (accountId : Nat) : Bool :=
  (findAccountsWithPermission db canDoAnything).any (·.id == accountId)

/-- Refuse to strip the last admin of the congregation. The query counts every account row,
deactivated ones included. -/
def requireNotLastAdmin (db : RoleDb) (accountId : Nat) : Except Failure Unit :=
  let admins := findAccountsWithPermission db canDoAnything
  if admins.any (·.id == accountId) then
    Tx.refuseWhen ((admins.filter (·.id != accountId)).length = 0)
      (.app (.conflict "Cannot remove the last admin from the congregation."))
  else .ok ()

/-! ## What the account holds, as a proposition -/

/-- The account is granted the permission by a role it reaches. -/
def RoleDb.Grants (db : RoleDb) (userId : Nat) (key : String) : Prop :=
  ∃ roleId, db.Carries roleId key ∧ db.Assigned userId roleId

theorem mem_grantedKeys {db : RoleDb} {userId : Nat} {key : String} :
    key ∈ db.grantedKeys userId ↔ db.Grants userId key := by
  unfold RoleDb.grantedKeys
  rw [List.mem_eraseDups, List.mem_map]
  constructor
  · rintro ⟨p, hp, rfl⟩
    rw [List.mem_filter, decide_eq_true_eq] at hp
    exact ⟨p.roleId, ⟨p, hp.1, rfl, rfl⟩, hp.2⟩
  · rintro ⟨roleId, ⟨p, hp, rfl, rfl⟩, hassigned⟩
    exact ⟨p, List.mem_filter.mpr ⟨hp, decide_eq_true hassigned⟩, rfl⟩

/-- **Holding a permission.** An account holds what its roles grant, and an admin holds exactly
the enumeration. -/
theorem mem_resolveEffectivePermissions {db : RoleDb} {userId : Nat} {key : String} :
    key ∈ resolveEffectivePermissions db userId ↔
      (db.Grants userId canDoAnything ∧ key ∈ permissionValues) ∨
        (¬db.Grants userId canDoAnything ∧ db.Grants userId key) := by
  unfold resolveEffectivePermissions
  by_cases hadmin : db.Grants userId canDoAnything
  · have hmem : (db.grantedKeys userId).contains canDoAnything = true := by
      rw [List.contains_iff_mem]
      exact mem_grantedKeys.mpr hadmin
    simp only [hmem, hadmin, if_true, true_and, not_true_eq_false, false_and, or_false]
  · have hmem : ¬(db.grantedKeys userId).contains canDoAnything = true := by
      rw [List.contains_iff_mem]
      exact fun h => hadmin (mem_grantedKeys.mp h)
    simp only [hmem, hadmin, Bool.false_eq_true, if_false, false_and, not_false_eq_true, true_and,
      false_or]
    exact mem_grantedKeys

theorem canDoAnything_mem_permissionValues : canDoAnything ∈ permissionValues := by
  simp [permissionValues]

/-- Being an admin is being granted can-do-anything. -/
theorem canDoAnything_mem_iff {db : RoleDb} {userId : Nat} :
    canDoAnything ∈ resolveEffectivePermissions db userId ↔ db.Grants userId canDoAnything := by
  rw [mem_resolveEffectivePermissions]
  constructor
  · rintro (⟨h, _⟩ | ⟨hnot, h⟩)
    · exact h
    · exact absurd h hnot
  · exact fun h => .inl ⟨h, canDoAnything_mem_permissionValues⟩

end Unitae.Roles
