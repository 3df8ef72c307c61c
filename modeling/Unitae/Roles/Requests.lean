import Unitae.Base.Run
import Unitae.Roles.Accounts
import Unitae.Roles.Setup

/-!
# Unitae — the role services as one system

Every service of the role tables is a request; a request runs inside one transaction, and its
caller commits what was written when the service succeeds or refuses with an `AppError`, and rolls
it back on any other error (`withScope`, with the `catch` of the route actions inside it).
-/

namespace Unitae.Roles

inductive Request where
  | seatMember (roleId memberId : Nat) (kind : SeatKind) (actorPermissions : List String)
  | unseatMember (roleId memberId : Nat) (actorPermissions : List String)
  | addUserToRole (userId roleId : Nat) (actorPermissions : List String)
  | removeUserFromRole (userId roleId : Nat) (actorPermissions : List String)
  | setUserCustomRoleAssignments (userId : Nat) (customRoleIds : List Nat)
      (actorPermissions : List String)
  | updateRolePermissions (roleId : Nat) (permissionKeys actorPermissions : List String)
  | createRole (params : CreateRoleParams)
  | updateRoleIdentity (roleId : Nat) (name : Option String)
      (description : Option (Option String))
  | deleteRole (roleId : Nat)
  | addRoleToOrganigram (roleId : Nat) (parentRoleId : Option Nat)
  | createServiceInOrganigram (name : String) (parentRoleId : Option Nat) (isSinglePerson : Bool)
  | setRoleSinglePerson (roleId : Nat) (isSinglePerson : Bool)
  | removeRoleFromOrganigram (roleId : Nat)
  | setOrganigramParent (roleId : Nat) (parentRoleId : Option Nat)
  | moveOrganigramNode (roleId : Nat) (direction : MoveDirection)
  | adoptServiceCommittee (choices : List AdoptionChoice) (actorPermissions : List String)
  | updateAccount (userId : Nat) (params : UpdateAccountParams) (actorPermissions : List String)
  | deleteAccount (accountId : Nat)
  | anonymizeAccount (accountId : Nat) (uuid : String) (now : Int)
  | unlinkAccountFromMember (memberId : Nat)
  | setLifecycle (memberId : Nat) (state : LifecycleState) (at_ : Option Int) (now : Int)
deriving DecidableEq, Repr

/-- The service a request calls. -/
def Request.run (u : Unicode) : Request → Tx RoleDb Failure Unit
  | .seatMember roleId memberId kind actor => Roles.seatMember roleId memberId kind actor
  | .unseatMember roleId memberId actor => Roles.unseatMember roleId memberId actor
  | .addUserToRole userId roleId actor => Roles.addUserToRole userId roleId actor
  | .removeUserFromRole userId roleId actor => Roles.removeUserFromRole userId roleId actor
  | .setUserCustomRoleAssignments userId ids actor =>
    Roles.setUserCustomRoleAssignments userId ids actor
  | .updateRolePermissions roleId keys actor => Roles.updateRolePermissions roleId keys actor
  | .createRole params => do
    let _ ← Roles.createRole u params
  | .updateRoleIdentity roleId name description => Roles.updateRoleIdentity roleId name description
  | .deleteRole roleId => Roles.deleteRole roleId
  | .addRoleToOrganigram roleId parentRoleId => Roles.addRoleToOrganigram roleId parentRoleId
  | .createServiceInOrganigram name parentRoleId single => do
    let _ ← Roles.createServiceInOrganigram u name parentRoleId single
  | .setRoleSinglePerson roleId single => Roles.setRoleSinglePerson roleId single
  | .removeRoleFromOrganigram roleId => Roles.removeRoleFromOrganigram roleId
  | .setOrganigramParent roleId parentRoleId => Roles.setOrganigramParent roleId parentRoleId
  | .moveOrganigramNode roleId direction => Roles.moveOrganigramNode roleId direction
  | .adoptServiceCommittee choices actor => Roles.adoptServiceCommittee choices actor
  | .updateAccount userId params actor => Roles.updateAccount u userId params actor
  | .deleteAccount accountId => Roles.deleteAccount accountId
  | .anonymizeAccount accountId uuid now => Roles.anonymizeAccount accountId uuid now
  | .unlinkAccountFromMember memberId => Roles.unlinkAccountFromMember memberId
  | .setLifecycle memberId state at_ now => Roles.setLifecycle memberId state at_ now

/-- The stored state after a request: committed on success and after an `AppError`. -/
def step (u : Unicode) (db : RoleDb) (request : Request) : RoleDb :=
  (request.run u).settle Failure.isAppError db

end Unitae.Roles
