import Mathlib.Tactic.Simps.Basic
import Unitae.Base.Table
import Unitae.Base.Transaction
import Unitae.Dates
import Unitae.Errors

/-!
# Unitae — the tables behind attributions and campaigns

One congregation's slice of `schema.prisma`, as in `Roles/Schema.lean`. The rows of
`CampaignTerritory` that belong to a campaign are its `scope`; an empty scope means every territory.
Of members and territories the services below read that they exist and a territory's kind.
-/

namespace Unitae.Territories

inductive TerritoryKindKey where
  | classical
  | univ
  | commerces
  | phone
  | hotel
deriving DecidableEq, Repr

inductive TerritoryAttributionKind where
  | default
  | phone
deriving DecidableEq, Repr

inductive CampaignRegularStartAction where
  | pause
  | close
  | leave
deriving DecidableEq, Repr

inductive CampaignRegularEndAction where
  | resume
  | keepPaused
  | close
deriving DecidableEq, Repr

/-- The settings that give an attribution its duration (`territory-setting-key.ts`). -/
inductive TerritorySettingKey where
  | attributionDefaultDurationMonths
  | attributionDefaultDurationDays
  | attributionPhoneDurationDays
  | attributionCommerceDurationDays
deriving DecidableEq, Repr

structure Territory where
  id : Nat
  type : TerritoryKindKey
deriving DecidableEq, Repr

/-- `campaignId` is the layer: `none` for regular work. A paused row is still open, but inactive. -/
structure Attribution where
  id : Nat
  type : TerritoryAttributionKind
  publisherId : Nat
  territoryId : Nat
  startDate : Instant
  endDate : Option Instant
  lateDate : Instant
  notes : String
  campaignId : Option Nat
  pausedAt : Option Instant
  pausedByCampaignId : Option Nat
deriving DecidableEq, Repr

structure Campaign where
  id : Nat
  name : String
  notes : String
  startDate : Instant
  /-- Inclusive: the last day the campaign runs. -/
  endDate : Instant
  restPeriodDays : Option Nat
  startRegularAction : CampaignRegularStartAction
  startAutoReassign : Bool
  endCloseCampaign : Bool
  endRegularAction : CampaignRegularEndAction
  activatedAt : Option Instant
  endedAt : Option Instant
  scope : List Nat
deriving DecidableEq, Repr

structure TerritoryDb where
  attributions : List Attribution
  campaigns : List Campaign
  territories : List Territory
  /-- The ids of the members. -/
  members : List Nat
  settings : List (TerritorySettingKey × String)
  /-- What the id sequences hand out next. -/
  nextAttributionId : Nat
  nextCampaignId : Nat
deriving DecidableEq, Repr

abbrev TerritoryTx (α : Type) := Tx TerritoryDb Failure α

/-! ## Queries -/

def TerritoryDb.attributionById (db : TerritoryDb) (id : Nat) : Option Attribution :=
  db.attributions.find? (·.id == id)

/-- `getCampaign`: one campaign with its scope. -/
def TerritoryDb.getCampaign (db : TerritoryDb) (id : Nat) : Option Campaign :=
  db.campaigns.find? (·.id == id)

def TerritoryDb.territoryById (db : TerritoryDb) (id : Nat) : Option Territory :=
  db.territories.find? (·.id == id)

def TerritoryDb.getSetting (db : TerritoryDb) (key : TerritorySettingKey) : Option String :=
  (db.settings.find? (·.1 == key)).map (·.2)

/-- `listAllTerritoryIds`. -/
def TerritoryDb.listAllTerritoryIds (db : TerritoryDb) : List Nat := db.territories.map (·.id)

/-- `status = 'active'` of `getCampaignStatus`: derived from the stamps, never from the clock. -/
def Campaign.active (c : Campaign) : Bool := c.activatedAt.isSome && c.endedAt.isNone

/-- The single source of truth for "is campaign mode on?". -/
def TerritoryDb.getActiveCampaign (db : TerritoryDb) : Option Campaign :=
  db.campaigns.find? (·.active)

/-- Campaigns whose scheduled start has passed and were never activated. -/
def TerritoryDb.getCampaignsDueToActivate (db : TerritoryDb) (now : Instant) : List Campaign :=
  db.campaigns.filter fun c => c.activatedAt.isNone && c.endedAt.isNone && c.startDate ≤ now

/-- Campaigns still running whose inclusive `endDate` is fully past. -/
def TerritoryDb.getCampaignsDueToEnd (tz : LocalTime) (db : TerritoryDb) (now : Instant) :
    List Campaign :=
  db.campaigns.filter fun c => c.active && c.endDate < startOfDay tz now

/-! ## Writes -/

/-- `attribution.updateMany({ where: sel, data })`: a read of the ids and the update by id, as the
services write it, are one update of the rows selected. -/
def TerritoryDb.updateAttributions (db : TerritoryDb) (sel : Attribution → Bool)
    (data : Attribution → Attribution) : TerritoryDb :=
  { db with attributions := db.attributions.map fun a => if sel a then data a else a }

@[simps]
def TerritoryDb.createAttribution (db : TerritoryDb) (row : Nat → Attribution) : TerritoryDb :=
  { db with
    attributions := db.attributions ++ [row db.nextAttributionId]
    nextAttributionId := db.nextAttributionId + 1 }

def TerritoryDb.updateCampaigns (db : TerritoryDb) (sel : Campaign → Bool)
    (data : Campaign → Campaign) : TerritoryDb :=
  { db with campaigns := db.campaigns.map fun c => if sel c then data c else c }

@[simps]
def TerritoryDb.createCampaignRow (db : TerritoryDb) (row : Nat → Campaign) : TerritoryDb :=
  { db with
    campaigns := db.campaigns ++ [row db.nextCampaignId]
    nextCampaignId := db.nextCampaignId + 1 }

/-- `db.attribution.update({ where: { id }, data })`. -/
def updateAttributionRow (id : Nat) (data : Attribution → Attribution) : TerritoryTx Unit := do
  let db ← get
  Tx.check (Tx.refuseWhen (db.attributionById id).isNone (.database .recordNotFound))
  modify (·.updateAttributions (·.id == id) data)

/-- `db.campaign.update({ where: { id }, data })`. -/
def updateCampaignRow (id : Nat) (data : Campaign → Campaign) : TerritoryTx Unit := do
  let db ← get
  Tx.check (Tx.refuseWhen (db.getCampaign id).isNone (.database .recordNotFound))
  modify (·.updateCampaigns (·.id == id) data)

/-! ## What the keys promise -/

/-- The primary keys of the two tables, and the sequences past them. -/
structure TerritoryDb.Valid (db : TerritoryDb) : Prop where
  attributions : Keyed Attribution.id db.attributions
  campaigns : Keyed Campaign.id db.campaigns
  attributions_lt : ∀ a ∈ db.attributions, a.id < db.nextAttributionId
  campaigns_lt : ∀ c ∈ db.campaigns, c.id < db.nextCampaignId

instance (db : TerritoryDb) : Decidable db.Valid :=
  decidable_of_iff (Keyed Attribution.id db.attributions ∧ Keyed Campaign.id db.campaigns ∧
      (∀ a ∈ db.attributions, a.id < db.nextAttributionId) ∧
      ∀ c ∈ db.campaigns, c.id < db.nextCampaignId)
    ⟨fun ⟨h₁, h₂, h₃, h₄⟩ => ⟨h₁, h₂, h₃, h₄⟩, fun ⟨h₁, h₂, h₃, h₄⟩ => ⟨h₁, h₂, h₃, h₄⟩⟩

end Unitae.Territories
