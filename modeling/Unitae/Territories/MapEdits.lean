import Unitae.Territories.MapSchema

/-!
# Unitae — the edits of buildings and entrances

What creates, moves, shares and deletes buildings and their entrances (`create-building`,
`edit-building`, `delete-building`, `import-open-data`, `update-buildings-in-entrance`,
`set-building-prospection-data`). An entrance stores the middle of its buildings and, a residential one,
the sums over the residential data that point to it; each of these functions sees for itself to what it
recomputes.
-/

namespace Unitae.Territories

/-! ## Places -/

/-- `pointInPolygon([lat, long], polygon)`. -/
def pointInPolygon (lat long : Rat) (polygon : List (Rat × Rat)) : Bool :=
  -- Each corner beside the one before it, the first beside the last.
  let edges := polygon.zip (polygon.getLast?.toList ++ polygon)
  edges.foldl (fun isInside edge =>
    let xi := edge.1.1
    let yi := edge.1.2
    let xj := edge.2.1
    let yj := edge.2.2
    let intersect := (decide (long < yi) != decide (long < yj)) &&
      decide (lat < (xj - xi) * (long - yi) / (yj - yi) + xi)
    if intersect then !isInside else isInside) false

/-- The congregation's perimeter, when it has drawn one. -/
abbrev Perimeter := Option (List (Rat × Rat))

structure Coordinates where
  latitude : Option Rat
  longitude : Option Rat
deriving DecidableEq, Repr

def isInTerritory (perimeter : Perimeter) (coordinates : Coordinates) : Bool :=
  match coordinates.latitude, coordinates.longitude, perimeter with
  | some lat, some long, some polygon => pointInPolygon lat long polygon
  | _, _, _ => true

def Building.coordinates (b : Building) : Coordinates := ⟨b.latitude, b.longitude⟩

def BuildingEntrance.coordinates (e : BuildingEntrance) : Coordinates := ⟨e.latitude, e.longitude⟩

/-- Both coordinates. -/
def Coordinates.both : Coordinates → Option (Rat × Rat)
  | ⟨some latitude, some longitude⟩ => some (latitude, longitude)
  | _ => none

/-- `computeEntranceCentroid`: the mean of the coordinates, of the buildings that have both. -/
def computeEntranceCentroid (buildings : List Building) : Option (Rat × Rat) :=
  let valid := buildings.filterMap (·.coordinates.both)
  if valid.length = 0 then none
  else some ((valid.map (·.1)).sum / valid.length, (valid.map (·.2)).sum / valid.length)

/-- What an entrance stores of its centroid. -/
def MapDb.centroid (db : MapDb) (entranceId : Nat) : Coordinates :=
  let centroid := computeEntranceCentroid (db.buildingsOf entranceId)
  ⟨centroid.map (·.1), centroid.map (·.2)⟩

/-! ## Figures -/

structure Figures where
  homes : Option Int
  phones : Option Int
  liberals : Option Int
deriving DecidableEq, Repr

def BuildingResidentialData.figures (r : BuildingResidentialData) : Figures :=
  ⟨r.homes, r.phones, r.liberals⟩

def BuildingEntrance.figures (e : BuildingEntrance) : Figures := ⟨e.homes, e.phones, e.liberals⟩

/-- `_sum`: null when there is no value. -/
def sumColumn (column : List (Option Int)) : Option Int :=
  match column.reduceOption with
  | [] => none
  | values => some values.sum

def Figures.sum (rows : List Figures) : Figures :=
  ⟨sumColumn (rows.map (·.homes)), sumColumn (rows.map (·.phones)),
    sumColumn (rows.map (·.liberals))⟩

/-- `buildingResidentialData.aggregate`. -/
def MapDb.aggregates (db : MapDb) (entranceId : Nat) : Figures :=
  Figures.sum ((db.residentialData.filter (·.entranceId == entranceId)).map (·.figures))

/-! ## Writes -/

namespace MapDb

variable (db : MapDb)

def updateBuilding (id : Nat) (f : Building → Building) : MapDb :=
  { db with buildings := db.buildings.map fun b => if b.id = id then f b else b }

def updateEntrance (id : Nat) (f : BuildingEntrance → BuildingEntrance) : MapDb :=
  { db with entrances := db.entrances.map fun e => if e.id = id then f e else e }

def insertBuilding (b : Building) : MapDb :=
  { db with
    buildings := db.buildings ++ [{ b with id := db.nextBuildingId }]
    nextBuildingId := db.nextBuildingId + 1 }

/-- `buildingEntrance.create({ data: { …, buildings: { connect: { id: buildingId } } } })`. -/
def createEntrance (e : BuildingEntrance) (buildingId : Nat) : MapDb :=
  { db with
    entrances := db.entrances ++ [{ e with id := db.nextEntranceId }]
    links := db.links ++ [(buildingId, db.nextEntranceId)]
    nextEntranceId := db.nextEntranceId + 1 }

def createResidentialData (buildingId entranceId : Nat) (figures : Figures) : MapDb :=
  { db with
    residentialData := db.residentialData ++
      [⟨db.nextResidentialDataId, buildingId, entranceId, figures.homes, figures.phones,
        figures.liberals⟩]
    nextResidentialDataId := db.nextResidentialDataId + 1 }

/-- The entrances go, and with them their links, their residential data and their accesses. -/
def deleteEntrances (gone : Nat → Bool) : MapDb :=
  { db with
    entrances := db.entrances.filter fun e => !gone e.id
    links := db.links.filter fun link => !gone link.2
    residentialData := db.residentialData.filter fun r => !gone r.entranceId
    accesses := db.accesses.filter fun a => !gone a.entranceId }

def deleteEntrance (id : Nat) : MapDb := db.deleteEntrances (· == id)

def recalculateEntranceAggregates (entranceId : Nat) : MapDb :=
  let aggregates := db.aggregates entranceId
  db.updateEntrance entranceId fun e =>
    { e with homes := aggregates.homes, phones := aggregates.phones, liberals := aggregates.liberals }

def recalculateEntranceCentroid (entranceId : Nat) : MapDb :=
  let centroid := db.centroid entranceId
  db.updateEntrance entranceId fun e =>
    { e with latitude := centroid.latitude, longitude := centroid.longitude }

end MapDb

/-- An entrance with the columns' defaults. -/
def entranceOfKind (kind : EntranceKind) : BuildingEntrance where
  id := 0
  kind := kind
  shopKind := ""
  homes := none
  phones := none
  liberals := none
  latitude := none
  longitude := none
  access := none
  isPMR := none
  isOpenEarly := none
  isMailboxOpen := none
  notes := ""

/-! ## Buildings -/

structure Address where
  number : String
  street : String
  zip : String
deriving DecidableEq, Repr

def Building.address (b : Building) : Address := ⟨b.number, b.street, b.zip⟩

/-- What the runtime makes of texts. -/
structure MapRuntime where
  stripDiacritics : String → String
  /-- `new Date(text)`; `none` for an invalid date. -/
  date : String → Option Instant
  /-- `Number(text)` for a column of integers; `none` when the client refuses it. -/
  integer : String → Option Int
  /-- `Number(text)` for a column of coordinates; `none` when the client refuses it. -/
  number : String → Option Rat

section Buildings

variable (rt : MapRuntime) (db : MapDb) (perimeter : Perimeter)

def createBuilding (address : Address) (coordinates : Coordinates) : MapDb :=
  -- The address is unique.
  if db.buildings.any (·.address == address) then db
  else
    let buildingId := db.nextBuildingId
    let entranceId := db.nextEntranceId
    let db := db.insertBuilding
      { id := 0
        number := address.number
        street := address.street
        streetNormalized := rt.stripDiacritics address.street
        zip := address.zip
        latitude := coordinates.latitude
        longitude := coordinates.longitude
        active := true
        inTerritory := isInTerritory perimeter coordinates
        inOpenData := false
        prospectionDate := none }
    let db := db.createEntrance
      { entranceOfKind .residential with
        latitude := coordinates.latitude
        longitude := coordinates.longitude } buildingId
    db.createResidentialData buildingId entranceId ⟨none, none, none⟩

def editBuilding (buildingId : Nat) (address : Address) (coordinates : Coordinates) : MapDb :=
  if db.buildings.all (·.id != buildingId) then db
  else if db.buildings.any fun b => b.id != buildingId && b.address == address then db
  else
    let db := db.updateBuilding buildingId fun b =>
      { b with
        number := address.number
        street := address.street
        streetNormalized := rt.stripDiacritics address.street
        zip := address.zip
        -- `undefined` leaves a column as it is.
        latitude := coordinates.latitude.or b.latitude
        longitude := coordinates.longitude.or b.longitude
        inTerritory := isInTerritory perimeter coordinates }
    (db.entrancesOf buildingId).foldl (fun db e => db.recalculateEntranceCentroid e.id) db

/-- The residential data of a building restrict its deletion. -/
def deleteBuilding (buildingId : Nat) : MapDb :=
  if db.residentialData.any (·.buildingId == buildingId) then db
  else
    { db with
      buildings := db.buildings.filter (·.id != buildingId)
      links := db.links.filter (·.1 != buildingId) }

/-! ## Open data -/

/-- A row of the open data. -/
structure OpenDataRow where
  number : String
  street : String
  zip : String
  lat : String
  long : String
deriving DecidableEq, Repr

def OpenDataRow.address (row : OpenDataRow) : Address := ⟨row.number, row.street, row.zip⟩

/-- `building.upsert({ where: { address } })`. -/
def upsertOpenData (row : OpenDataRow) : MapDb :=
  match rt.number row.lat, rt.number row.long with
  | some lat, some long =>
    let isActive := match perimeter with
      | some polygon => pointInPolygon lat long polygon
      | none => true
    if db.buildings.any (·.address == row.address) then
      { db with buildings := db.buildings.map fun b =>
          if b.address = row.address then { b with inTerritory := isActive, inOpenData := true }
          else b }
    else
      let buildingId := db.nextBuildingId
      let db := db.insertBuilding
        { id := 0
          number := row.number
          street := row.street
          streetNormalized := rt.stripDiacritics row.street
          zip := row.zip
          latitude := some lat
          longitude := some long
          active := isActive
          inTerritory := isActive
          inOpenData := true
          prospectionDate := none }
      db.createEntrance
        { entranceOfKind .residential with
          latitude := some lat
          longitude := some long } buildingId
  -- Refused before anything is written.
  | _, _ => db

def resetOpenData : MapDb :=
  { db with buildings := db.buildings.map fun b =>
      if b.inOpenData then { b with inOpenData := false } else b }

/-- The writes of an import that went through: the rows it wrote, in their order. -/
def applyOpenData (rows : List OpenDataRow) : MapDb :=
  rows.foldl (fun db row => upsertOpenData rt db perimeter row) (resetOpenData db)

end Buildings

end Unitae.Territories
