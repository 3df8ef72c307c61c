import Mathlib.Data.Finset.Insert
import Unitae.Base.WhereObject
import Unitae.Publishers.Members
import Unitae.Territories.Attribution

/-!
# Unitae — querying attributions

What the statistics, the attribution list and the S-13 register read: territories by number, their
attributions, the campaigns and the publishers. `AttributionWhere` is the query layer's
`AttributionWhereInput`, with the keys these queries write.
-/

namespace Unitae.Territories

/-- A row of `Territory`, as far as it is listed and exported. -/
structure TerritoryRow where
  id : Nat
  number : String
  type : TerritoryKindKey
deriving DecidableEq, Repr

structure RegisterDb where
  territories : List TerritoryRow
  attributions : List Attribution
  campaigns : List Campaign
  members : List Publishers.Member
  territories_keyed : Keyed TerritoryRow.id territories
deriving DecidableEq, Repr

/-- `attribution.territory`; the foreign key promises the row. -/
def RegisterDb.territoryOf (db : RegisterDb) (a : Attribution) : Option TerritoryRow :=
  db.territories.find? (·.id == a.territoryId)

/-- `attribution.publisher`. -/
def RegisterDb.publisherOf (db : RegisterDb) (a : Attribution) : Option Publishers.Member :=
  db.members.find? (·.id == a.publisherId)

/-- `attribution.campaign`. -/
def RegisterDb.campaignOf (db : RegisterDb) (a : Attribution) : Option Campaign :=
  a.campaignId.bind fun id => db.campaigns.find? (·.id == id)

/-! ## Where objects over attributions -/

inductive AttributionKey where
  | territory
  | type
  | publisher
  | startDate
  | lateDate
  | campaignId
  | pausedAt
  | OR
deriving DecidableEq, Repr

instance : Fintype AttributionKey where
  elems := {.territory, .type, .publisher, .startDate, .lateDate, .campaignId, .pausedAt, .OR}
  complete := by
    intro key
    cases key <;> decide

/-- What a query writes about the publisher of an attribution. -/
structure MemberWhere where
  publisherGroupId : Option (Option Nat → Bool)
  OR : Option (List (Publishers.Member → Bool))

def MemberWhere.selects (w : MemberWhere) (m : Publishers.Member) : Bool :=
  (w.publisherGroupId.all fun condition => condition m.publisherGroupId) &&
    w.OR.all fun clauses => clauses.any fun clause => clause m

/-- The condition a key takes: on the column or the relation it is named after. -/
abbrev AttributionKey.Condition : AttributionKey → Type
  | .territory => TerritoryRow → Bool
  | .type => TerritoryAttributionKind → Bool
  | .publisher => MemberWhere
  | .startDate => Instant → Bool
  | .lateDate => Instant → Bool
  | .campaignId => Option Nat → Bool
  | .pausedAt => Option Instant → Bool
  | .OR => List (Attribution → Bool)

abbrev AttributionWhere := WhereObject AttributionKey AttributionKey.Condition

def RegisterDb.meets (db : RegisterDb) (a : Attribution) :
    (key : AttributionKey) → key.Condition → Bool
  | .territory, condition => (db.territoryOf a).any condition
  | .type, condition => condition a.type
  | .publisher, condition => (db.publisherOf a).any condition.selects
  | .startDate, condition => condition a.startDate
  | .lateDate, condition => condition a.lateDate
  | .campaignId, condition => condition a.campaignId
  | .pausedAt, condition => condition a.pausedAt
  | .OR, clauses => clauses.any fun clause => clause a

/-- The rows a where object selects. -/
def RegisterDb.Selected (db : RegisterDb) (w : AttributionWhere) (a : Attribution) : Prop :=
  w.Selects (fun key condition a => db.meets a key condition = true) a

instance (db : RegisterDb) (w : AttributionWhere) (a : Attribution) :
    Decidable (db.Selected w a) :=
  inferInstanceAs (Decidable (∀ key, ∀ value ∈ w key, db.meets a key value = true))

/-- `attribution.findMany({ where })`. -/
def RegisterDb.findMany (db : RegisterDb) (w : AttributionWhere) : List Attribution :=
  db.attributions.filter fun a => db.Selected w a

end Unitae.Territories
