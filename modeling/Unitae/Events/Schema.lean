import Mathlib.Tactic.Simps.Basic
import Unitae.Base.Table
import Unitae.Base.Transaction
import Unitae.Dates
import Unitae.Roles.Schema

/-!
# Unitae — the tables behind programmes and absences

One congregation's slice of `schema.prisma`, as in `Roles/Schema.lean`, whose tables are the
`directory` of this one. `Member.anonymizedAt`, a column that no role service reads, is the list of
the members it is set for. A day off is an event whose template has the key `day-off`; it makes
absent the member of the account that created it.

The column `section` is `sectionName` here. Free-text columns that the services below neither read
nor copy (descriptions, notes, colours) are left out.
-/

namespace Unitae.Events

open Unitae.Roles

/-- `Event.status`: a draft is the manager's scratch space, a released event is public. -/
inductive EventStatus where
  | draft
  | released
deriving DecidableEq, Repr

/-- The two slots of a programme part. -/
inductive PartRoleKind where
  | speaker
  | reader
deriving DecidableEq, Repr

inductive ProgrammeRole where
  | speaker
  | reader
  | servant
deriving DecidableEq, Repr

/-- Which slice of an event a `TemplateResponsible` row delegates. -/
inductive ResponsibilityScope where
  | programme
  | service
deriving DecidableEq, Repr

structure Event where
  id : Nat
  name : String
  startDate : Instant
  endDate : Instant
  status : EventStatus
  templateId : Option Nat
  createdById : Nat
deriving DecidableEq, Repr

structure EventPart where
  id : Nat
  eventId : Nat
  partId : Option Nat
  name : String
  sectionName : String
  track : String
  trackOrder : Option Int
  order : Int
  durationMin : Option Int
  allowExternalSpeaker : Bool
  speakerLabel : Option String
  readerLabel : Option String
  presetId : Option Nat
  assigneeId : Option Nat
  assistantId : Option Nat
  externalSpeakerId : Option Nat
  topic : String
  hasConflict : Bool
deriving DecidableEq, Repr

/-- Who fills the two slots of a part. -/
structure PartAssignees where
  assigneeId : Option Nat
  assistantId : Option Nat
deriving DecidableEq, Repr

structure EventServicePart where
  id : Nat
  eventId : Nat
  servicePartId : Option Nat
  name : String
  presetId : Option Nat
  assigneeId : Option Nat
  hasConflict : Bool
deriving DecidableEq, Repr

structure EventTemplate where
  id : Nat
  name : String
  key : String
  weekDay : Option Int
  startTime : String
  endTime : String
deriving DecidableEq, Repr

structure TemplatePart where
  id : Nat
  templateId : Nat
  name : String
  sectionName : String
  track : String
  trackOrder : Option Int
  order : Int
  durationMin : Option Int
  allowExternalSpeaker : Bool
  speakerLabel : Option String
  readerLabel : Option String
  presetId : Option Nat
deriving DecidableEq, Repr

structure TemplateServicePart where
  id : Nat
  templateId : Nat
  name : String
  presetId : Option Nat
deriving DecidableEq, Repr

structure EventPartAllowedRole where
  eventPartId : Nat
  roleId : Nat
  asKind : PartRoleKind
deriving DecidableEq, Repr

structure EventServicePartAllowedRole where
  eventServicePartId : Nat
  roleId : Nat
deriving DecidableEq, Repr

structure TemplatePartAllowedRole where
  partId : Nat
  roleId : Nat
  asKind : PartRoleKind
deriving DecidableEq, Repr

structure TemplateServicePartAllowedRole where
  servicePartId : Nat
  roleId : Nat
deriving DecidableEq, Repr

structure TemplateResponsible where
  templateId : Nat
  roleId : Nat
  scope : ResponsibilityScope
deriving DecidableEq, Repr

structure ExternalSpeaker where
  id : Nat
  archivedAt : Option Instant
deriving DecidableEq, Repr

/-- `dynamicConfig` as it parses: `none` for a null column, `some none` for a malformed one, and the
ids of the templates it names otherwise. -/
structure BoardDynamicDocument where
  id : Nat
  dynamicType : String
  dynamicRef : Option String
  dynamicConfig : Option (Option (List Nat))
deriving DecidableEq, Repr

structure EventDb where
  directory : RoleDb
  anonymizedMembers : List Nat
  events : List Event
  eventParts : List EventPart
  eventServiceParts : List EventServicePart
  eventPartAllowedRoles : List EventPartAllowedRole
  eventServicePartAllowedRoles : List EventServicePartAllowedRole
  templates : List EventTemplate
  templateParts : List TemplatePart
  templateServiceParts : List TemplateServicePart
  templatePartAllowedRoles : List TemplatePartAllowedRole
  templateServicePartAllowedRoles : List TemplateServicePartAllowedRole
  templateResponsibles : List TemplateResponsible
  /-- The ids of the `PartPreset` table. -/
  presets : List Nat
  externalSpeakers : List ExternalSpeaker
  dynamicDocuments : List BoardDynamicDocument
  nextEventId : Nat
  nextEventPartId : Nat
  nextEventServicePartId : Nat
deriving DecidableEq, Repr

/-- No rows at all. -/
def EventDb.empty : EventDb where
  directory := ⟨[], [], [], [], [], [], [], 1⟩
  anonymizedMembers := []
  events := []
  eventParts := []
  eventServiceParts := []
  eventPartAllowedRoles := []
  eventServicePartAllowedRoles := []
  templates := []
  templateParts := []
  templateServiceParts := []
  templatePartAllowedRoles := []
  templateServicePartAllowedRoles := []
  templateResponsibles := []
  presets := []
  externalSpeakers := []
  dynamicDocuments := []
  nextEventId := 1
  nextEventPartId := 1
  nextEventServicePartId := 1

/-! ## Queries -/

def EventDb.eventById (db : EventDb) (eventId : Nat) : Option Event :=
  db.events.find? (·.id == eventId)

def EventDb.partById (db : EventDb) (partId : Nat) : Option EventPart :=
  db.eventParts.find? (·.id == partId)

def EventDb.servicePartById (db : EventDb) (servicePartId : Nat) : Option EventServicePart :=
  db.eventServiceParts.find? (·.id == servicePartId)

def EventDb.templateById (db : EventDb) (templateId : Nat) : Option EventTemplate :=
  db.templates.find? (·.id == templateId)

def EventDb.templateByKey (db : EventDb) (key : String) : Option EventTemplate :=
  db.templates.find? (·.key == key)

/-- `EventTemplateKey.DayOff`. -/
def dayOffKey : String := "day-off"

/-- `template: { key: 'day-off' }`. -/
def EventDb.isDayOff (db : EventDb) (e : Event) : Bool :=
  db.templates.any fun template => e.templateId == some template.id && template.key == dayOffKey

/-- `createdBy: { memberId }`: the member the account behind the event is linked to. -/
def EventDb.creatorMemberId (db : EventDb) (e : Event) : Option Nat :=
  (db.directory.accountById e.createdById).bind (·.memberId)

/-- `member: { leftAt: null, anonymizedAt: null }`. -/
def EventDb.isCurrentMember (db : EventDb) (memberId : Nat) : Bool :=
  !db.anonymizedMembers.contains memberId &&
    db.directory.members.any fun m => m.id == memberId && m.leftAt.isNone

/-! ## Writes

One definition per statement, as in `Roles/Schema.lean`. -/

/-- `createMany({ data: rows, skipDuplicates: true })`. -/
def insertMissing {α : Type} [BEq α] (table rows : List α) : List α :=
  rows.foldl (fun table row => if table.contains row then table else table ++ [row]) table

/-- `db.event.update`. -/
@[simps] def EventDb.updateEvents (sel : Event → Bool) (data : Event → Event) (db : EventDb) :
    EventDb :=
  { db with events := db.events.map fun e => if sel e then data e else e }

/-- `db.event.create`. -/
@[simps] def EventDb.createEvent (row : Nat → Event) (db : EventDb) : EventDb :=
  { db with events := db.events ++ [row db.nextEventId], nextEventId := db.nextEventId + 1 }

/-- `db.eventPart.update` and `updateMany`. -/
@[simps] def EventDb.updateParts (sel : EventPart → Bool) (data : EventPart → EventPart)
    (db : EventDb) : EventDb :=
  { db with eventParts := db.eventParts.map fun p => if sel p then data p else p }

/-- `db.eventPart.create`. -/
@[simps] def EventDb.createPart (row : Nat → EventPart) (db : EventDb) : EventDb :=
  { db with
    eventParts := db.eventParts ++ [row db.nextEventPartId]
    nextEventPartId := db.nextEventPartId + 1 }

/-- `db.eventPart.delete`: its allowed roles go with it (`onDelete: Cascade`). -/
@[simps] def EventDb.deleteParts (sel : EventPart → Bool) (db : EventDb) : EventDb :=
  let gone := (db.eventParts.filter sel).map (·.id)
  { db with
    eventParts := db.eventParts.filter fun p => !sel p
    eventPartAllowedRoles := db.eventPartAllowedRoles.filter fun r => !gone.contains r.eventPartId }

/-- `db.eventServicePart.update` and `updateMany`. -/
@[simps] def EventDb.updateServiceParts (sel : EventServicePart → Bool)
    (data : EventServicePart → EventServicePart) (db : EventDb) : EventDb :=
  { db with eventServiceParts := db.eventServiceParts.map fun s => if sel s then data s else s }

/-- `db.eventServicePart.create`. -/
@[simps] def EventDb.createServicePart (row : Nat → EventServicePart) (db : EventDb) : EventDb :=
  { db with
    eventServiceParts := db.eventServiceParts ++ [row db.nextEventServicePartId]
    nextEventServicePartId := db.nextEventServicePartId + 1 }

/-- `db.eventServicePart.delete`. -/
@[simps] def EventDb.deleteServiceParts (sel : EventServicePart → Bool) (db : EventDb) : EventDb :=
  let gone := (db.eventServiceParts.filter sel).map (·.id)
  { db with
    eventServiceParts := db.eventServiceParts.filter fun s => !sel s
    eventServicePartAllowedRoles :=
      db.eventServicePartAllowedRoles.filter fun r => !gone.contains r.eventServicePartId }

/-- `db.event.deleteMany({ where: sel })`: the rows of the events go with them. -/
def EventDb.deleteEvents (sel : Event → Bool) (db : EventDb) : EventDb :=
  let gone := (db.events.filter sel).map (·.id)
  let db := db.deleteParts fun p => gone.contains p.eventId
  let db := db.deleteServiceParts fun s => gone.contains s.eventId
  { db with events := db.events.filter fun e => !sel e }

/-- `createMany({ skipDuplicates: true })` on `EventPartAllowedRole`. -/
@[simps] def EventDb.createPartAllowedRoles (rows : List EventPartAllowedRole) (db : EventDb) :
    EventDb :=
  { db with eventPartAllowedRoles := insertMissing db.eventPartAllowedRoles rows }

@[simps] def EventDb.createServicePartAllowedRoles (rows : List EventServicePartAllowedRole)
    (db : EventDb) : EventDb :=
  { db with eventServicePartAllowedRoles := insertMissing db.eventServicePartAllowedRoles rows }

/-- `deleteMany` on `EventPartAllowedRole`. -/
@[simps] def EventDb.deletePartAllowedRoles (sel : EventPartAllowedRole → Bool) (db : EventDb) :
    EventDb :=
  { db with eventPartAllowedRoles := db.eventPartAllowedRoles.filter fun r => !sel r }

@[simps] def EventDb.deleteServicePartAllowedRoles (sel : EventServicePartAllowedRole → Bool)
    (db : EventDb) : EventDb :=
  { db with eventServicePartAllowedRoles := db.eventServicePartAllowedRoles.filter fun r => !sel r }

/-! ## Inserting without duplicates -/

section InsertMissing

variable {α β : Type} [BEq α] [LawfulBEq α] [BEq β] [LawfulBEq β] {table rows : List α} {p : α → Bool}

theorem mem_insertMissing {a : α} : a ∈ insertMissing table rows ↔ a ∈ table ∨ a ∈ rows := by
  unfold insertMissing
  induction rows generalizing table with
  | nil => simp
  | cons row rows ih =>
    rw [List.foldl_cons, ih, List.mem_cons]
    split
    · next hin =>
      have hrow : row ∈ table := List.contains_iff_mem.mp hin
      refine ⟨fun h => h.imp_right .inr, fun h => ?_⟩
      rcases h with h | rfl | h
      · exact .inl h
      · exact .inl hrow
      · exact .inr h
    · rw [List.mem_append, List.mem_singleton, or_assoc]

/-- Inserting rows of a kind is inserting them among the rows of the kind. -/
theorem filter_insertMissing (h : ∀ row ∈ rows, p row = true) :
    (insertMissing table rows).filter p = insertMissing (table.filter p) rows := by
  unfold insertMissing
  induction rows generalizing table with
  | nil => rfl
  | cons row rows ih =>
    have hrow := h row List.mem_cons_self
    have hsame : (table.filter p).contains row = table.contains row := by
      rw [Bool.eq_iff_iff, List.contains_iff_mem, List.contains_iff_mem, List.mem_filter]
      exact ⟨fun h => h.1, fun h => ⟨h, hrow⟩⟩
    rw [List.foldl_cons, List.foldl_cons, ih fun r hr => h r (List.mem_cons_of_mem row hr), hsame]
    split
    · rfl
    · rw [List.filter_append, List.filter_cons_of_pos hrow, List.filter_nil]

omit [LawfulBEq α] in
/-- Inserting rows of another kind leaves the rows of the kind. -/
theorem filter_insertMissing_of_not (h : ∀ row ∈ rows, p row = false) :
    (insertMissing table rows).filter p = table.filter p := by
  unfold insertMissing
  induction rows generalizing table with
  | nil => rfl
  | cons row rows ih =>
    have hrow := h row List.mem_cons_self
    rw [List.foldl_cons, ih fun r hr => h r (List.mem_cons_of_mem row hr)]
    split
    · rfl
    · rw [List.filter_append, List.filter_cons_of_neg (by rw [hrow]; exact Bool.false_ne_true),
        List.filter_nil, List.append_nil]

theorem map_insertMissing {f : α → β}
    (hf : ∀ a ∈ table ++ rows, ∀ b ∈ table ++ rows, f a = f b → a = b) :
    (insertMissing table rows).map f = insertMissing (table.map f) (rows.map f) := by
  unfold insertMissing
  induction rows generalizing table with
  | nil => rfl
  | cons row rows ih =>
    have hrow : row ∈ table ++ row :: rows := List.mem_append_right _ List.mem_cons_self
    have hsame : (table.map f).contains (f row) = table.contains row := by
      rw [Bool.eq_iff_iff, List.contains_iff_mem, List.contains_iff_mem, List.mem_map]
      refine ⟨fun ⟨a, ha, h⟩ => ?_, fun h => ⟨row, h, rfl⟩⟩
      rw [← hf a (List.mem_append_left _ ha) row hrow h]
      exact ha
    rw [List.map_cons, List.foldl_cons, List.foldl_cons, hsame]
    split
    · refine ih fun a ha b hb => hf a ?_ b ?_
      · exact List.mem_append.mpr ((List.mem_append.mp ha).imp_right (List.mem_cons_of_mem row))
      · exact List.mem_append.mpr ((List.mem_append.mp hb).imp_right (List.mem_cons_of_mem row))
    · rw [← List.map_singleton, ← List.map_append]
      refine ih fun a ha b hb => hf a ?_ b ?_
      · rwa [List.append_assoc, List.singleton_append] at ha
      · rwa [List.append_assoc, List.singleton_append] at hb

end InsertMissing

end Unitae.Events
