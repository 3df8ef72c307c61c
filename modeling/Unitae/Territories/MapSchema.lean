import Mathlib.Algebra.Ring.Int.Defs
import Mathlib.Algebra.Ring.Rat
import Mathlib.Tactic.Simps.Basic
import Unitae.Base.Table
import Unitae.Dates
import Unitae.Errors

/-!
# Unitae — buildings and entrances

One congregation's slice of `schema.prisma`: the buildings, their entrances, and what hangs off both.
A building has several entrances (a home, a shop) and an entrance may serve several buildings: `links`
is the relation table. Coordinates are exact numbers here.
-/

namespace Unitae.Territories

inductive EntranceKind where
  | residential
  | commerce
  | hotel
  | laundromat
  | campus
deriving DecidableEq, Repr

structure Building where
  id : Nat
  number : String
  street : String
  /-- The street in lower case and without accents, for searches. -/
  streetNormalized : String
  zip : String
  latitude : Option Rat
  longitude : Option Rat
  active : Bool
  inTerritory : Bool
  inOpenData : Bool
  prospectionDate : Option Instant
deriving DecidableEq, Repr

structure BuildingEntrance where
  id : Nat
  kind : EntranceKind
  shopKind : String
  /-- The sums over the entrance's residential data. -/
  homes : Option Int
  phones : Option Int
  liberals : Option Int
  /-- The centroid of the entrance's buildings. -/
  latitude : Option Rat
  longitude : Option Rat
  access : Option Int
  isPMR : Option Bool
  isOpenEarly : Option Bool
  isMailboxOpen : Option Bool
  notes : String
deriving DecidableEq, Repr

/-- At most one a building (`buildingId @unique`); it goes when its entrance goes. -/
structure BuildingResidentialData where
  id : Nat
  buildingId : Nat
  entranceId : Nat
  homes : Option Int
  phones : Option Int
  liberals : Option Int
deriving DecidableEq, Repr

structure BuildingAccess where
  entranceId : Nat
  type : Int
  position : Nat
deriving DecidableEq, Repr

structure MapDb where
  buildings : List Building
  entrances : List BuildingEntrance
  /-- A building and one of its entrances. -/
  links : List (Nat × Nat)
  residentialData : List BuildingResidentialData
  accesses : List BuildingAccess
  nextBuildingId : Nat
  nextEntranceId : Nat
  nextResidentialDataId : Nat
deriving DecidableEq, Repr

/-! ## Queries -/

def MapDb.buildingById (db : MapDb) (id : Nat) : Option Building :=
  db.buildings.find? (·.id == id)

def MapDb.entranceById (db : MapDb) (id : Nat) : Option BuildingEntrance :=
  db.entrances.find? (·.id == id)

/-- The rows of a join table are compared as pairs of ids. -/
instance instLawfulBEqLink : LawfulBEq (Nat × Nat) := Prod.instLawfulBEq

/-- `entrance.buildings`. -/
def MapDb.buildingsOf (db : MapDb) (entranceId : Nat) : List Building :=
  db.buildings.filter fun b => (b.id, entranceId) ∈ db.links

/-- `building.entrances`. -/
def MapDb.entrancesOf (db : MapDb) (buildingId : Nat) : List BuildingEntrance :=
  db.entrances.filter fun e => (buildingId, e.id) ∈ db.links

end Unitae.Territories
