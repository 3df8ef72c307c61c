import Unitae.Base.Run
import Unitae.Territories.MapEdits

/-!
# Unitae — shared entrances and prospection (`update-buildings-in-entrance`, `set-building-prospection-data`)

Which buildings an entrance serves, and what the prospection form says of a building: its homes, its
shops, whether it has a hotel, a campus or a laundromat. Unchecking a box deletes the entrance behind it.
-/

namespace Unitae.Territories

/-! ## `updateBuildingsInEntrance` -/

section UpdateBuildings

variable (db : MapDb) (entrance : BuildingEntrance)

/-- The ids of `entrance.buildings`. -/
def attachedIds : List Nat := (db.buildingsOf entrance.id).map (·.id)

def newBuildingIds (buildingIds : List Nat) : List Nat :=
  buildingIds.filter (· ∉ attachedIds db entrance)

def disconnectBuildingIds (buildingIds : List Nat) : List Nat :=
  (attachedIds db entrance).filter (· ∉ buildingIds)

/-- `buildings: { connect, disconnect }`. -/
def reconnect (connected disconnected : List Nat) : MapDb :=
  { db with links :=
      (db.links ++ connected.eraseDups.map fun id => (id, entrance.id)).filter fun link =>
        !(link.2 == entrance.id && link.1 ∈ disconnected) }

/-- What a new entrance takes from the one a building leaves. -/
def likeEntrance : BuildingEntrance :=
  { entranceOfKind entrance.kind with
    access := entrance.access
    isMailboxOpen := entrance.isMailboxOpen
    isPMR := entrance.isPMR
    isOpenEarly := entrance.isOpenEarly }

/-- A disconnected building gets an entrance of its own; its residential data go with it. -/
def moveOut (accesses : List BuildingAccess) (buildingId : Nat) : MapDb :=
  let newEntranceId := db.nextEntranceId
  let db := db.createEntrance (likeEntrance entrance) buildingId
  { db with
    accesses := db.accesses ++ accesses.map fun a => { a with entranceId := newEntranceId }
    residentialData := db.residentialData.map fun r =>
      if r.buildingId = buildingId then { r with entranceId := newEntranceId } else r }

def splitOff (accesses : List BuildingAccess) (buildingId : Nat) : MapDb :=
  let newEntranceId := db.nextEntranceId
  let db := moveOut db entrance accesses buildingId
  (db.recalculateEntranceAggregates newEntranceId).recalculateEntranceCentroid newEntranceId

/-- The body of the `try`. -/
def writeBuildings (connected disconnected : List Nat) : MapDb :=
  let accesses := db.accesses.filter (·.entranceId == entrance.id)
  let db := reconnect db entrance connected disconnected
  let db := disconnected.foldl (fun db id => splitOff db entrance accesses id) db
  (db.recalculateEntranceAggregates entrance.id).recalculateEntranceCentroid entrance.id

/-- `deleteMany({ where: { buildings: { none: {} } } })`. -/
def deleteEmptyEntrances : MapDb :=
  db.deleteEntrances fun id => db.links.all (·.2 != id)

def updateBuildingsInEntrance (entranceId : Nat) (buildingIds : List Nat) : MapDb :=
  match db.entranceById entranceId with
  | none => db
  | some entrance =>
    let connected := newBuildingIds db entrance buildingIds
    let disconnected := disconnectBuildingIds db entrance buildingIds
    -- Nothing is connected when one of them does not exist; the error is logged.
    deleteEmptyEntrances <|
      if connected.all fun id => db.buildings.any (·.id == id) then
        writeBuildings db entrance connected disconnected
      else db

end UpdateBuildings

/-! ## `setBuildingProspectionData` -/

/-- `buildingProspectionSchema`. -/
structure BuildingProspectionInput where
  prospectionDate : String
  hasResidential : String
  homes : String
  phones : String
  liberals : String
  access : String
  pmr : Option String
  doors : Option String
  mailboxes : Option String
  residentialNotes : String
  hotel : Option String
  campus : Option String
  landromat : Option String
  shopkinds : List String
  commerceNotes : List String
deriving DecidableEq, Repr

/-- `Boolean(value)`. -/
def checked (value : Option String) : Bool := value.any (· != "")

/-- `text ? Number(text) : null`, as a column of integers takes it. -/
def MapRuntime.integerOrNull (rt : MapRuntime) (text : String) : Option (Option Int) :=
  if text = "" then some none else (rt.integer text).map some

namespace BuildingProspectionInput

variable (rt : MapRuntime) (input : BuildingProspectionInput)

/-- `prospectionDate ? new Date(prospectionDate) : null`; `none` when the column refuses it. -/
def date : Option (Option Instant) :=
  if input.prospectionDate = "" then some none else (rt.date input.prospectionDate).map some

def residential : Bool := input.hasResidential != ""

def figures : Option Figures := do
  let homes ← rt.integerOrNull input.homes
  let phones ← rt.integerOrNull input.phones
  let liberals ← rt.integerOrNull input.liberals
  return ⟨homes, phones, liberals⟩

/-- `input.shopkinds.filter(Boolean)`. -/
def commerceShopKinds : List String := input.shopkinds.filter (· != "")

end BuildingProspectionInput

section Prospection

variable (rt : MapRuntime) (db : MapDb) (buildingId : Nat)

/-- The entrances of a kind, of a building. -/
def MapDb.entrancesOfKind (kind : EntranceKind) : List BuildingEntrance :=
  (db.entrancesOf buildingId).filter (·.kind == kind)

def updateResidentialData (figures : Figures) : MapDb :=
  { db with residentialData := db.residentialData.map fun r =>
      if r.buildingId = buildingId then
        { r with homes := figures.homes, phones := figures.phones, liberals := figures.liberals }
      else r }

/-- A building's data stay with the entrance they point to. -/
def upsertResidentialData (entranceId : Nat) (figures : Figures) : MapDb :=
  if db.residentialData.any (·.buildingId == buildingId) then
    updateResidentialData db buildingId figures
  else db.createResidentialData buildingId entranceId figures

/-- What the form says of the homes. A refusal leaves what was written before it: the route catches the
error and goes on to commit. -/
def writeResidential (input : BuildingProspectionInput) (entranceId : Nat) : Except MapDb MapDb :=
  match rt.integerOrNull input.access with
  | none => .error db
  | some accessType =>
    let db := db.updateEntrance entranceId fun e =>
      { e with
        access := accessType
        isPMR := some (checked input.pmr)
        isOpenEarly := some (checked input.doors)
        isMailboxOpen := some (checked input.mailboxes)
        notes := input.residentialNotes }
    match input.figures rt with
    | none => .error db
    | some figures =>
      let db := upsertResidentialData db buildingId entranceId figures
      let db : MapDb := { db with
        accesses := db.accesses.filter (·.entranceId != entranceId) ++
          accessType.toList.map fun type => ⟨entranceId, type, 0⟩ }
      .ok (db.recalculateEntranceAggregates entranceId)

def setResidential (input : BuildingProspectionInput) : Except MapDb MapDb :=
  match (db.entrancesOfKind buildingId .residential).head? with
  | some entrance =>
    if input.residential then writeResidential rt db buildingId input entrance.id
    else .ok (db.deleteEntrance entrance.id)
  | none =>
    if input.residential then
      writeResidential rt (db.createEntrance (entranceOfKind .residential) buildingId) buildingId
        input db.nextEntranceId
    else .ok db

/-- The commerces of a building by id. -/
def existingCommerces : List BuildingEntrance :=
  (db.entrancesOfKind buildingId .commerce).mergeSort (·.id ≤ ·.id)

/-- An existing commerce takes the shop kind of its place; one too many goes. -/
def syncCommerce (shopKinds notes : List String) (db : MapDb) (place : BuildingEntrance × Nat) :
    MapDb :=
  match shopKinds[place.2]? with
  | some shopKind =>
    db.updateEntrance place.1.id fun e =>
      { e with shopKind := shopKind, notes := (notes[place.2]?).getD "" }
  | none => db.deleteEntrance place.1.id

def createCommerce (notes : List String) (db : MapDb) (shop : String × Nat) : MapDb :=
  db.createEntrance
    { entranceOfKind .commerce with
      shopKind := shop.1
      notes := (notes[shop.2]?).getD "" } buildingId

def syncCommerceEntrances (shopKinds notes : List String) : MapDb :=
  let existing := existingCommerces db buildingId
  let db := existing.zipIdx.foldl (syncCommerce shopKinds notes) db
  (shopKinds.zipIdx.drop existing.length).foldl (createCommerce buildingId notes) db

def syncUniqueEntrance (kind : EntranceKind) (shouldExist : Bool) : MapDb :=
  match (db.entrancesOfKind buildingId kind).head?, shouldExist with
  | none, true => db.createEntrance (entranceOfKind kind) buildingId
  | some existing, false => db.deleteEntrance existing.id
  | _, _ => db

/-- What follows the homes: the shops, and the kinds a building has one entrance of. -/
def setOtherKinds (input : BuildingProspectionInput) : MapDb :=
  let db := syncCommerceEntrances db buildingId input.commerceShopKinds input.commerceNotes
  let db := syncUniqueEntrance db buildingId .hotel (checked input.hotel)
  let db := syncUniqueEntrance db buildingId .campus (checked input.campus)
  syncUniqueEntrance db buildingId .laundromat (checked input.landromat)

def setProspectionDate (prospectionDate : Option Instant) : MapDb :=
  db.updateBuilding buildingId fun b => { b with prospectionDate := prospectionDate }

def setBuildingProspectionData (input : BuildingProspectionInput) : MapDb :=
  match input.date rt with
  | none => db
  | some prospectionDate =>
    if db.buildings.all (·.id != buildingId) then db
    else
      match setResidential rt (setProspectionDate db buildingId prospectionDate) buildingId input with
      | .error db => db
      | .ok db => setOtherKinds db buildingId input

end Prospection

/-! ## Runs -/

inductive MapOp where
  | createBuilding (perimeter : Perimeter) (address : Address) (coordinates : Coordinates)
  | editBuilding (perimeter : Perimeter) (buildingId : Nat) (address : Address)
      (coordinates : Coordinates)
  | deleteBuilding (buildingId : Nat)
  | importOpenData (perimeter : Perimeter) (rows : List OpenDataRow)
  | updateBuildingsInEntrance (entranceId : Nat) (buildingIds : List Nat)
  | setBuildingProspectionData (buildingId : Nat) (input : BuildingProspectionInput)

def MapDb.step (rt : MapRuntime) (db : MapDb) : MapOp → MapDb
  | .createBuilding perimeter address coordinates =>
    Territories.createBuilding rt db perimeter address coordinates
  | .editBuilding perimeter buildingId address coordinates =>
    Territories.editBuilding rt db perimeter buildingId address coordinates
  | .deleteBuilding buildingId => Territories.deleteBuilding db buildingId
  | .importOpenData perimeter rows => applyOpenData rt db perimeter rows
  | .updateBuildingsInEntrance entranceId buildingIds =>
    Territories.updateBuildingsInEntrance db entranceId buildingIds
  | .setBuildingProspectionData buildingId input =>
    Territories.setBuildingProspectionData rt db buildingId input

end Unitae.Territories
