import Unitae.Roles.Permissions

/-!
# Unitae — limits on what an actor may grant (`role-grant-limits.server.ts`)

An actor may hand out, or take away, only permissions they hold, and only an admin may change an
admin's account or access. can-do-anything stands for every permission.
-/

namespace Unitae.Roles

def isAdminActor (actorPermissions : List String) : Bool := actorPermissions.contains canDoAnything

/-- The first key the actor does not hold refuses the change. -/
def assertActorHolds (actorPermissions keys : List String) : Except Failure Unit :=
  if isAdminActor actorPermissions then .ok ()
  else
    match keys.find? fun key => !actorPermissions.contains key with
    | some key =>
      .error (.app (.grantBeyondActor ("Cannot grant or revoke " ++ key ++ ": not held by the actor")))
    | none => .ok ()

def assertActorHoldsRolePermissions (db : RoleDb) (roleIds : List Nat)
    (actorPermissions : List String) : Except Failure Unit :=
  if isAdminActor actorPermissions || roleIds.isEmpty then .ok ()
  else
    assertActorHolds actorPermissions
      ((db.rolePermissions.filter fun p => roleIds.contains p.roleId).map (·.permission))

/-- Only an admin may change an admin's account or access. -/
def assertMayChangeAccountAccess (db : RoleDb) (accountId : Nat) (actorPermissions : List String) :
    Except Failure Unit :=
  if isAdminActor actorPermissions then .ok ()
  else
    Tx.refuseWhen (isAccountAdmin db accountId)
      (.app (.grantBeyondActor "Only an admin can change an admin's account or access"))

def roleGrantsAdmin (db : RoleDb) (roleId : Nat) : Bool :=
  db.rolePermissions.any fun p => p.roleId == roleId && p.permission == canDoAnything

/-! ## What a passed check says -/

variable {db : RoleDb} {actorPermissions : List String}

theorem isAdminActor_iff : isAdminActor actorPermissions = true ↔ canDoAnything ∈ actorPermissions :=
  List.contains_iff_mem

theorem roleGrantsAdmin_iff {roleId : Nat} :
    roleGrantsAdmin db roleId = true ↔ db.Carries roleId canDoAnything := by
  simp [roleGrantsAdmin, RoleDb.Carries]

/-- A non-admin actor who passes holds every key. -/
theorem assertActorHolds_ok {keys : List String} {u : Unit}
    (hactor : canDoAnything ∉ actorPermissions) :
    assertActorHolds actorPermissions keys = .ok u ↔ ∀ key ∈ keys, key ∈ actorPermissions := by
  unfold assertActorHolds
  rw [if_neg (by rwa [isAdminActor_iff])]
  cases hfind : keys.find? fun key => !actorPermissions.contains key with
  | none =>
    rw [List.find?_eq_none] at hfind
    simp only [true_iff]
    intro key hkey
    simpa using hfind key hkey
  | some key =>
    have hmem := List.mem_of_find?_eq_some hfind
    have hmissing := List.find?_some hfind
    simp only [reduceCtorEq, false_iff, not_forall]
    exact ⟨key, hmem, by simpa using hmissing⟩

/-- A non-admin actor who passes holds every permission of the roles. -/
theorem assertActorHoldsRolePermissions_ok {roleIds : List Nat} {u : Unit}
    (hactor : canDoAnything ∉ actorPermissions) :
    assertActorHoldsRolePermissions db roleIds actorPermissions = .ok u ↔
      ∀ roleId ∈ roleIds, ∀ key, db.Carries roleId key → key ∈ actorPermissions := by
  unfold assertActorHoldsRolePermissions
  have hnot : isAdminActor actorPermissions = false := by
    rw [← Bool.not_eq_true, isAdminActor_iff]
    exact hactor
  rw [hnot, Bool.false_or]
  cases roleIds with
  | nil => simp
  | cons r rs =>
    rw [List.isEmpty_cons, if_neg (by simp), assertActorHolds_ok hactor]
    constructor
    · intro h roleId hroleId key hcarries
      obtain ⟨p, hp, rfl, rfl⟩ := hcarries
      refine h p.permission (List.mem_map.mpr ⟨p, List.mem_filter.mpr ⟨hp, ?_⟩, rfl⟩)
      rwa [List.contains_iff_mem]
    · intro h key hkey
      obtain ⟨p, hp, rfl⟩ := List.mem_map.mp hkey
      rw [List.mem_filter, List.contains_iff_mem] at hp
      exact h p.roleId hp.2 p.permission ⟨p, hp.1, rfl, rfl⟩

end Unitae.Roles
