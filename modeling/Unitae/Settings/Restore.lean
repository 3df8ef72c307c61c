import Unitae.Events.Schema
import Unitae.Settings.ImportPeople
import Unitae.Territories.Attribution

/-!
# Unitae — restoring the field work and the programme (`import-territories.server.ts`, `import-events.server.ts`)

The export and import steps of a congregation's members, accounts, territories, attributions, event
templates and events, in the order in which an import runs them. The importers write rows as they read
them: no aggregate is asked. What an archive has no column for takes the default of the schema, which
is how an attribution loses its campaign and its pause, and an event its status.

The steps in between write other tables and number other kinds of records; the columns of templates
and events are those of `Events/Schema.lean`.
-/

namespace Unitae.Settings

open Territories Events

/-! ## The tables -/

/-- A territory. Its number is not unique. -/
structure TerritoryRow where
  id : Nat
  number : String
  type : TerritoryKindKey
  notes : String
deriving DecidableEq, Repr

structure RestoreDb where
  people : PeopleDb
  territories : List TerritoryRow
  attributions : List Attribution
  templates : List EventTemplate
  events : List Event
  nextTerritoryId : Nat
  nextAttributionId : Nat
  nextTemplateId : Nat
  nextEventId : Nat
deriving DecidableEq, Repr

abbrev RestoreTx (α : Type) := Tx RestoreDb Failure α

/-- A transaction over members and accounts. -/
def inPeople {α : Type} (x : PeopleTx α) : RestoreTx α :=
  x.on RestoreDb.people fun db people => { db with people := people }

def RestoreDb.members (db : RestoreDb) : List Publishers.Member := db.people.directory.members

def RestoreDb.accounts (db : RestoreDb) : List Roles.UserAccount := db.people.directory.accounts

@[simps]
def RestoreDb.createTerritory (db : RestoreDb) (row : Nat → TerritoryRow) : RestoreDb :=
  { db with
    territories := db.territories ++ [row db.nextTerritoryId]
    nextTerritoryId := db.nextTerritoryId + 1 }

@[simps]
def RestoreDb.createAttribution (db : RestoreDb) (row : Nat → Attribution) : RestoreDb :=
  { db with
    attributions := db.attributions ++ [row db.nextAttributionId]
    nextAttributionId := db.nextAttributionId + 1 }

@[simps]
def RestoreDb.createTemplate (db : RestoreDb) (row : Nat → EventTemplate) : RestoreDb :=
  { db with
    templates := db.templates ++ [row db.nextTemplateId]
    nextTemplateId := db.nextTemplateId + 1 }

@[simps]
def RestoreDb.createEvent (db : RestoreDb) (row : Nat → Event) : RestoreDb :=
  { db with events := db.events ++ [row db.nextEventId], nextEventId := db.nextEventId + 1 }

/-! ## The archive -/

structure TerritoryRecord where
  id : Int
  number : String
  type : TerritoryKindKey
  notes : String
deriving DecidableEq, Repr

structure AttributionRecord where
  id : Int
  type : TerritoryAttributionKind
  publisherId : Int
  territoryId : Int
  startDate : String
  endDate : Option String
  lateDate : String
  notes : String
deriving DecidableEq, Repr

structure TemplateRecord where
  id : Int
  name : String
  key : String
  weekDay : Option Int
deriving DecidableEq, Repr

structure EventRecord where
  id : Int
  name : String
  startDate : String
  endDate : String
  templateId : Option Int
  createdById : Int
deriving DecidableEq, Repr

structure CongregationArchive where
  members : List MemberRecord
  accounts : List AccountRecord
  territories : List TerritoryRecord
  attributions : List AttributionRecord
  templates : List TemplateRecord
  events : List EventRecord
deriving DecidableEq, Repr

def TerritoryRow.record (t : TerritoryRow) : TerritoryRecord where
  id := t.id
  number := t.number
  type := t.type
  notes := t.notes

/-- Neither the campaign nor the pause is selected. -/
def Attribution.record (rt : DateText) (a : Attribution) : AttributionRecord where
  id := a.id
  type := a.type
  publisherId := a.publisherId
  territoryId := a.territoryId
  startDate := rt.toISOString a.startDate
  endDate := a.endDate.map rt.toISOString
  lateDate := rt.toISOString a.lateDate
  notes := a.notes

def EventTemplate.record (t : EventTemplate) : TemplateRecord where
  id := t.id
  name := t.name
  key := t.key
  weekDay := t.weekDay

/-- The status is not selected. -/
def Event.record (rt : DateText) (e : Event) : EventRecord where
  id := e.id
  name := e.name
  startDate := rt.toISOString e.startDate
  endDate := rt.toISOString e.endDate
  templateId := e.templateId.map fun t => (t : Int)
  createdById := e.createdById

/-- The export steps of these tables. -/
def exportCongregation (rt : DateText) (db : RestoreDb) : CongregationArchive where
  members := db.members.map (Member.record rt)
  accounts := db.accounts.map (UserAccount.record rt)
  territories := db.territories.map TerritoryRow.record
  attributions := db.attributions.map (Attribution.record rt)
  templates := db.templates.map EventTemplate.record
  events := db.events.map (Event.record rt)

/-! ## Territories and attributions -/

def TerritoryRecord.row (record : TerritoryRecord) (id : Nat) : TerritoryRow where
  id := id
  number := record.number
  type := record.type
  notes := record.notes

/-- What a record writes on the territory that has its number. -/
def TerritoryRecord.refresh (record : TerritoryRecord) (t : TerritoryRow) : TerritoryRow :=
  { t with type := record.type, notes := record.notes }

/-- One turn of `importTerritories`: a territory is found by its number. -/
def importTerritory (idMap : EntityIdMap) (record : TerritoryRecord) : RestoreTx EntityIdMap := do
  let db ← get
  match db.territories.find? (·.number == record.number) with
  | some existing =>
    modify fun db => { db with
      territories := db.territories.map fun t => if t.id = existing.id then record.refresh t else t }
    return idMap.set .territories record.id existing.id
  | none =>
    modify (·.createTerritory record.row)
    return idMap.set .territories record.id db.nextTerritoryId

def importTerritories (records : List TerritoryRecord) (idMap : EntityIdMap) :
    RestoreTx EntityIdMap :=
  records.foldlM importTerritory idMap

/-- The row of a record, on the defaults: regular work, not paused. -/
def AttributionRecord.row (rt : DateText) (record : AttributionRecord)
    (publisherId territoryId : Nat) : Except Failure (Nat → Attribution) := do
  let startDate ← newDate rt record.startDate
  let endDate ← dateOrNull rt record.endDate
  let lateDate ← newDate rt record.lateDate
  return fun id =>
    { id := id, type := record.type, publisherId := publisherId, territoryId := territoryId,
      startDate := startDate, endDate := endDate, lateDate := lateDate, notes := record.notes,
      campaignId := none, pausedAt := none, pausedByCampaignId := none }

/-- The foreign keys of an attribution. -/
def RestoreDb.HasLane (db : RestoreDb) (publisherId territoryId : Nat) : Prop :=
  publisherId ∈ db.members.map (·.id) ∧ territoryId ∈ db.territories.map (·.id)

instance (db : RestoreDb) (publisherId territoryId : Nat) :
    Decidable (db.HasLane publisherId territoryId) :=
  inferInstanceAs (Decidable (_ ∧ _))

/-- One turn of `importAttributions`. -/
def importAttribution (rt : DateText) (idMap : EntityIdMap) (record : AttributionRecord) :
    RestoreTx EntityIdMap :=
  match idMap.getOptional .members (some record.publisherId),
    idMap.getOptional .territories (some record.territoryId) with
  | some publisherId, some territoryId => do
    let row ← Tx.check (record.row rt publisherId territoryId)
    let db ← get
    Tx.check (Tx.refuseWhen (¬db.HasLane publisherId territoryId) (.database .foreignKey))
    modify (·.createAttribution row)
    return idMap.set .attributions record.id db.nextAttributionId
  | _, _ => pure idMap

def importAttributions (rt : DateText) (records : List AttributionRecord) (idMap : EntityIdMap) :
    RestoreTx EntityIdMap :=
  records.foldlM (importAttribution rt) idMap

/-! ## Templates and events -/

def TemplateRecord.row (record : TemplateRecord) (id : Nat) : EventTemplate where
  id := id
  name := record.name
  key := record.key
  weekDay := record.weekDay
  startTime := "19:00"
  endTime := "21:00"

/-- One turn of `importEventTemplates`: a template is found by its key. -/
def importEventTemplate (idMap : EntityIdMap) (record : TemplateRecord) :
    RestoreTx EntityIdMap := do
  let db ← get
  match db.templates.find? (·.key == record.key) with
  | some existing =>
    modify fun db => { db with
      templates := db.templates.map fun t =>
        if t.id = existing.id then { t with name := record.name, weekDay := record.weekDay } else t }
    return idMap.set .programmeTemplates record.id existing.id
  | none =>
    modify (·.createTemplate record.row)
    return idMap.set .programmeTemplates record.id db.nextTemplateId

def importEventTemplates (records : List TemplateRecord) (idMap : EntityIdMap) :
    RestoreTx EntityIdMap :=
  records.foldlM importEventTemplate idMap

/-- The row of a record; the default of `status` is `draft`. -/
def EventRecord.row (rt : DateText) (record : EventRecord) (templateId : Option Nat)
    (createdById : Nat) : Except Failure (Nat → Event) := do
  let startDate ← newDate rt record.startDate
  let endDate ← newDate rt record.endDate
  return fun id =>
    { id := id, name := record.name, startDate := startDate, endDate := endDate, status := .draft,
      templateId := templateId, createdById := createdById }

/-- The foreign keys of an event. -/
def RestoreDb.HasOrigin (db : RestoreDb) (templateId : Option Nat) (createdById : Nat) : Prop :=
  (∀ t ∈ templateId, t ∈ db.templates.map (·.id)) ∧ createdById ∈ db.accounts.map (·.id)

instance (db : RestoreDb) (templateId : Option Nat) (createdById : Nat) :
    Decidable (db.HasOrigin templateId createdById) :=
  inferInstanceAs (Decidable ((∀ _ ∈ _, _) ∧ _))

/-- One turn of `importEvents`: an event whose author was not imported is passed over. -/
def importEvent (rt : DateText) (idMap : EntityIdMap) (record : EventRecord) :
    RestoreTx EntityIdMap :=
  match idMap.getOptional .userAccounts (some record.createdById) with
  | none => pure idMap
  | some createdById => do
    let templateId := idMap.getOptional .programmeTemplates record.templateId
    let row ← Tx.check (record.row rt templateId createdById)
    let db ← get
    Tx.check (Tx.refuseWhen (¬db.HasOrigin templateId createdById) (.database .foreignKey))
    modify (·.createEvent row)
    return idMap.set .events record.id db.nextEventId

def importEvents (rt : DateText) (records : List EventRecord) (idMap : EntityIdMap) :
    RestoreTx EntityIdMap :=
  records.foldlM (importEvent rt) idMap

/-- The import steps of these tables, as `runImport` orders them. -/
def importCongregation (rt : DateText) (seesAll : Bool) (archive : CongregationArchive) :
    RestoreTx EntityIdMap := do
  let idMap ← inPeople (inDirectory (importMembers rt archive.members .empty))
  let idMap ← inPeople (importUserAccounts rt seesAll archive.accounts idMap)
  let idMap ← importTerritories archive.territories idMap
  let idMap ← importAttributions rt archive.attributions idMap
  let idMap ← importEventTemplates archive.templates idMap
  importEvents rt archive.events idMap

end Unitae.Settings
