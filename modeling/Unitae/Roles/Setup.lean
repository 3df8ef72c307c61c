import Unitae.Roles.Adoption

/-!
# Unitae — a new congregation (`setup.server.ts`)

`seedBuiltInRoles` gives every congregation its undeletable roles, and `placeDefaultOrganigram`
lays down the chart it starts with.
-/

namespace Unitae.Roles

/-- The keys `seedBuiltInRoles` upserts. -/
def seededRoleKeys : List String := builtInRoleKeys ++ systemRoleKeys ++ appointedRoleKeys

/-- A built-in role carries no name: its label is resolved per locale. -/
def builtInRole (key : String) (id : Nat) : Role where
  id := id
  key := key
  name := none
  description := none
  isBuiltIn := true
  parentRoleId := none
  showInOrganigram := false
  organigramOrder := none
  isSinglePerson := isServiceCommitteePostKey key

def upsertBuiltInRole (db : RoleDb) (key : String) : RoleDb :=
  match db.roleByKey key with
  | some role =>
    db.updateRoles (·.id == role.id) fun r =>
      { r with isBuiltIn := true, isSinglePerson := isServiceCommitteePostKey key }
  | none => db.createRole (builtInRole key)

/-- Publishers keep access to the board by default. -/
def grantBoardViewer (db : RoleDb) : RoleDb :=
  match db.roleByKey "publisher" with
  | some role =>
    if db.permissions.contains "can-view-board" then
      db.createRolePermissions role.id ["can-view-board"]
    else db
  | none => db

def seedBuiltInRoles (db : RoleDb) : RoleDb :=
  grantBoardViewer (seededRoleKeys.foldl upsertBuiltInRole db)

/-- Place the role of a key, if the congregation has one. -/
def RoleDb.placeKey (key : String) (parentRoleId : Option Nat) (order : Int) (db : RoleDb) :
    RoleDb :=
  match db.roleByKey key with
  | some role => db.place role.id parentRoleId order
  | none => db

/-- The chart every congregation starts with; nothing happens when one is arranged already. -/
def placeDefaultOrganigram (db : RoleDb) : RoleDb :=
  if db.roles.any (·.showInOrganigram) then db
  else
    let elderId := (db.roleByKey "elder").map (·.id)
    let committeeId := (db.roleByKey serviceCommitteeKey).map (·.id)
    ((((db.placeKey "elder" none orderStep).placeKey "assistant-servant" none
      (orderStep * 2)).placeKey serviceCommitteeKey elderId orderStep).placePosts committeeId)

end Unitae.Roles
