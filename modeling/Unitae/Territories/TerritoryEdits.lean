import Unitae.Base.IsoDate
import Unitae.Base.Run
import Unitae.Territories.MapSchema
import Unitae.Territories.Schema

/-!
# Unitae — creating, editing and deleting territories

`create-territory.server.ts`, `create-territory-from-split.server.ts`, `update-territory.server.ts` and
`delete-territory.server.ts`: the territories of one congregation and the entrances each of them has.
`territoryEntrances` is the relation table. Of the entrances the services read that they exist, of the
attributions that they refer to a territory.
-/

namespace Unitae.Territories

structure TerritoryDetails where
  id : Nat
  /-- Shown to the publishers. It is not unique. -/
  number : String
  type : TerritoryKindKey
  notes : String
deriving DecidableEq, Repr

structure TerritoryEditDb where
  territories : List TerritoryDetails
  /-- The ids of the entrances. -/
  entrances : List Nat
  /-- A territory and one of its entrances. -/
  territoryEntrances : List (Nat × Nat)
  /-- The territories that an attribution refers to. -/
  attributed : List Nat
  nextTerritoryId : Nat
deriving DecidableEq, Repr

abbrev TerritoryEditTx (α : Type) := Tx TerritoryEditDb Failure α

def TerritoryEditDb.territoryById (db : TerritoryEditDb) (id : Nat) : Option TerritoryDetails :=
  db.territories.find? (·.id == id)

/-- The territory, and the error when there is none. -/
def TerritoryEditDb.territoryOrRefuse (db : TerritoryEditDb) (id : Nat) (e : Failure) :
    Except Failure TerritoryDetails :=
  match db.territoryById id with
  | none => .error e
  | some territory => .ok territory

/-! ## Creating -/

/-- `PREFIX`. -/
def numberPrefix : TerritoryKindKey → Char
  | .classical => 'D'
  | .hotel => 'H'
  | .univ => 'U'
  | .commerces => 'C'
  | .phone => 'P'

/-- The prefix of the kind, and the number in at least three digits. -/
def territoryNumber (kind : TerritoryKindKey) (n : Nat) : String :=
  String.ofList (numberPrefix kind :: IsoDate.padded 3 n)

/-- `db.territory.count({ where: { type } })`. -/
def TerritoryEditDb.countOfKind (db : TerritoryEditDb) (kind : TerritoryKindKey) : Nat :=
  (db.territories.filter (·.type == kind)).length

def computeNextTerritoryNumber (db : TerritoryEditDb) (kind : TerritoryKindKey) : String :=
  territoryNumber kind (db.countOfKind kind + 1)

structure CreateTerritoryParams where
  number : String
  type : TerritoryKindKey
  entranceIds : List Nat
deriving DecidableEq, Repr

/-- The row of a new territory, which has no notes. -/
def newTerritory (params : CreateTerritoryParams) (id : Nat) : TerritoryDetails :=
  ⟨id, params.number, params.type, ""⟩

def TerritoryEditDb.insertTerritory (db : TerritoryEditDb) (params : CreateTerritoryParams) :
    TerritoryEditDb :=
  { db with
    territories := db.territories ++ [newTerritory params db.nextTerritoryId]
    territoryEntrances := db.territoryEntrances ++
      params.entranceIds.eraseDups.map fun id => (db.nextTerritoryId, id)
    nextTerritoryId := db.nextTerritoryId + 1 }

/-- `entrances: { connect }` asks that every entrance is there. -/
def createTerritory (params : CreateTerritoryParams) : TerritoryEditTx TerritoryDetails := do
  let db ← get
  Tx.check (Tx.refuseWhen (¬∀ id ∈ params.entranceIds, id ∈ db.entrances) (.database .recordNotFound))
  modify (·.insertTerritory params)
  return newTerritory params db.nextTerritoryId

structure CreateTerritoryFromSplitParams where
  type : TerritoryKindKey
  entranceIds : List Nat
deriving DecidableEq, Repr

def createTerritoryFromSplit (params : CreateTerritoryFromSplitParams) :
    TerritoryEditTx TerritoryDetails := do
  let db ← get
  let number := computeNextTerritoryNumber db params.type
  createTerritory ⟨number, params.type, params.entranceIds⟩

/-! ## Deleting -/

def TerritoryEditDb.removeTerritory (db : TerritoryEditDb) (id : Nat) : TerritoryEditDb :=
  { db with
    territories := db.territories.filter (·.id != id)
    territoryEntrances := db.territoryEntrances.filter (·.1 != id) }

/-- A territory with an attribution stays: the foreign key is in the way. -/
def deleteTerritory (id : Nat) : TerritoryEditTx TerritoryDetails := do
  let db ← get
  let territory ← Tx.check (db.territoryOrRefuse id (.database .recordNotFound))
  Tx.check (Tx.refuseWhen (id ∈ db.attributed) (.database .foreignKey))
  modify (·.removeTerritory id)
  return territory

/-! ## Updating -/

/-- The entrance is taken from the territory `fromTerritoryId` for the one that is updated. -/
structure ReassignmentInput where
  entranceId : Nat
  fromTerritoryId : Nat
deriving DecidableEq, Repr

structure UpdateTerritoryParams where
  entranceIds : List Nat
  reassignments : List ReassignmentInput
  notes : String
deriving DecidableEq, Repr

/-- The name of the kind in the database client. -/
def TerritoryKindKey.name : TerritoryKindKey → String
  | .classical => "Classical"
  | .univ => "Univ"
  | .commerces => "Commerces"
  | .phone => "Phone"
  | .hotel => "Hotel"

def territoryNotFound (id : Nat) : Failure :=
  .app (.validation "territoryId" ("Territory not found: " ++ toString id))

def reassignmentRefused (message : String) : Failure := .app (.validation "reassignments" message)

/-- What a reassignment is refused for, in this order. -/
def reassignmentChecks (db : TerritoryEditDb) (target : TerritoryDetails) (reassignment : ReassignmentInput) :
    Except Failure Unit := do
  Tx.refuseWhen (reassignment.fromTerritoryId = target.id)
    (reassignmentRefused ("Reassignment source must differ from target territory " ++ toString target.id))
  let source ← db.territoryOrRefuse reassignment.fromTerritoryId
    (reassignmentRefused ("Source territory not found: " ++ toString reassignment.fromTerritoryId))
  Tx.refuseWhen (source.type ≠ target.type) (reassignmentRefused
    ("Source territory type " ++ source.type.name ++ " differs from target " ++ target.type.name))
  Tx.refuseWhen
    (¬(reassignment.entranceId ∈ db.entrances ∧ (source.id, reassignment.entranceId) ∈ db.territoryEntrances))
    (reassignmentRefused ("Entrance " ++ toString reassignment.entranceId ++ " is not linked to territory " ++
      toString source.id))

/-- `territories: { disconnect: { id } }`. -/
def TerritoryEditDb.disconnect (db : TerritoryEditDb) (territoryId entranceId : Nat) : TerritoryEditDb :=
  { db with territoryEntrances := db.territoryEntrances.filter (· != (territoryId, entranceId)) }

/-- One turn of the loop: the entrance leaves its source. -/
def reassign (target : TerritoryDetails) (reassignment : ReassignmentInput) : TerritoryEditTx PUnit := do
  let db ← get
  Tx.check (reassignmentChecks db target reassignment)
  modify (·.disconnect reassignment.fromTerritoryId reassignment.entranceId)

/-- `entrances: { set }` and `notes`. The set links the entrances it finds, and unlinks the others. -/
def TerritoryEditDb.setEntrances (db : TerritoryEditDb) (id : Nat) (entranceIds : List Nat) (notes : String) :
    TerritoryEditDb :=
  { db with
    territories := db.territories.map fun t => if t.id = id then { t with notes := notes } else t
    territoryEntrances := db.territoryEntrances.filter (·.1 != id) ++
      (entranceIds.eraseDups.filter (· ∈ db.entrances)).map fun entranceId => (id, entranceId) }

def updateTerritory (id : Nat) (params : UpdateTerritoryParams) : TerritoryEditTx TerritoryDetails := do
  let db ← get
  let target ← Tx.check (db.territoryOrRefuse id (territoryNotFound id))
  params.reassignments.forM (reassign target)
  modify (·.setEntrances id params.entranceIds params.notes)
  return { target with notes := params.notes }

end Unitae.Territories
