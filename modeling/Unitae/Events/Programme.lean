import Unitae.Events.AllowedRoles
import Unitae.Events.Generation

/-!
# Unitae — editing events and their rows (`event-parts.server.ts`)

The writers select a row by its id alone; whether the row belongs to the event the caller was
authorised on is the routes' business. A row that is not there is refused by the database.
-/

namespace Unitae.Events

open Roles

/-! ## Events -/

def requireEvent (db : EventDb) (eventId : Nat) : Except Failure Unit :=
  Tx.refuseWhen (db.eventById eventId = none) (.database .recordNotFound)

def createFreeformEvent (name : String) (startDate endDate : Instant) (createdById : Nat) :
    Tx EventDb Failure Event := do
  let db ← get
  match db.templateByKey "freeform" with
  | none => throw (.app (.notFound "Freeform template" none))
  | some freeformTemplate =>
    let event : Event := ⟨db.nextEventId, name, startDate, endDate, .draft, some freeformTemplate.id,
      createdById⟩
    modify (·.createEvent fun _ => event)
    return event

def bulkDeleteEvents (ids : List Nat) : Tx EventDb Failure Unit :=
  modify (·.deleteEvents fun e => ids.contains e.id)

def deleteEvent (id : Nat) : Tx EventDb Failure Unit := do
  let db ← get
  Tx.check (requireEvent db id)
  modify (·.deleteEvents fun e => e.id == id)

structure UpdateEventFields where
  name : Option String
  startDate : Option Instant
  endDate : Option Instant
deriving DecidableEq, Repr

def UpdateEventFields.apply (data : UpdateEventFields) (e : Event) : Event :=
  { e with
    name := data.name.getD e.name
    startDate := data.startDate.getD e.startDate
    endDate := data.endDate.getD e.endDate }

def updateEvent (id : Nat) (data : UpdateEventFields) : Tx EventDb Failure Unit := do
  let db ← get
  Tx.check (requireEvent db id)
  modify (·.updateEvents (fun e => e.id == id) data.apply)

/-! ## Parts -/

structure PartFields where
  name : String
  sectionName : String
  track : String
  trackOrder : Option Int
  order : Int
  durationMin : Option Int
  allowExternalSpeaker : Bool
  speakerLabel : Option String
  readerLabel : Option String
  presetId : Option Nat
deriving DecidableEq, Repr

def PartFields.apply (data : PartFields) (p : EventPart) : EventPart :=
  { p with
    name := data.name
    sectionName := data.sectionName
    track := data.track
    trackOrder := data.trackOrder
    order := data.order
    durationMin := data.durationMin
    allowExternalSpeaker := data.allowExternalSpeaker
    speakerLabel := data.speakerLabel
    readerLabel := data.readerLabel
    presetId := data.presetId }

/-- A part as its defaults leave it. -/
def blankPart (eventId id : Nat) : EventPart :=
  ⟨id, eventId, none, "", "", "", none, 0, none, false, none, none, none, none, none, none, "", false⟩

/-- `none` leaves a slot alone, an empty selection clears it. -/
structure PartRoleSelection where
  speaker : Option (List Nat)
  reader : Option (List Nat)
deriving DecidableEq, Repr

def writePartAllowedRoles (eventPartId : Nat) (desired : PartRoleSelection) :
    Tx EventDb Failure Unit := do
  match desired.speaker with
  | some roleIds => setPartAssignmentAllowedRoles eventPartId .speaker roleIds
  | none => pure ()
  match desired.reader with
  | some roleIds => setPartAssignmentAllowedRoles eventPartId .reader roleIds
  | none => pure ()

theorem writePartAllowedRoles_keeps {I : EventDb → Prop}
    (hdelete : ∀ db sel, I db → I (db.deletePartAllowedRoles sel))
    (hcreate : ∀ db rows, I db → I (db.createPartAllowedRoles rows)) (eventPartId : Nat)
    (desired : PartRoleSelection) : Tx.Keeps I (writePartAllowedRoles eventPartId desired) := by
  have hslot := setPartAssignmentAllowedRoles_keeps hdelete hcreate eventPartId
  obtain ⟨speaker, reader⟩ := desired
  unfold writePartAllowedRoles
  cases speaker with
  | none =>
    cases reader with
    | none => exact Tx.keeps_pure _
    | some reader => exact hslot .reader reader
  | some speaker =>
    cases reader with
    | none => exact (hslot .speaker speaker).bind fun _ => Tx.keeps_pure _
    | some reader => exact (hslot .speaker speaker).bind fun _ => hslot .reader reader

/-- The foreign key of a part's preset. -/
def requirePreset (db : EventDb) (presetId : Option Nat) : Except Failure Unit :=
  Tx.refuseWhen (presetId.any (fun id => !db.presets.contains id) = true) (.database .foreignKey)

def addPartAssignment (eventId : Nat) (data : PartFields) (roles : PartRoleSelection) :
    Tx EventDb Failure Unit := do
  let db ← get
  Tx.check (Tx.refuseWhen (db.eventById eventId = none) (.database .foreignKey))
  Tx.check (requirePreset db data.presetId)
  modify (·.createPart fun id => data.apply (blankPart eventId id))
  writePartAllowedRoles db.nextEventPartId roles

def requirePart (db : EventDb) (id : Nat) : Except Failure Unit :=
  Tx.refuseWhen (db.partById id = none) (.database .recordNotFound)

def deletePartAssignment (id : Nat) : Tx EventDb Failure Unit := do
  let db ← get
  Tx.check (requirePart db id)
  modify (·.deleteParts fun p => p.id == id)

def updatePartAssignment (id : Nat) (data : PartFields) (roles : PartRoleSelection) :
    Tx EventDb Failure Unit := do
  let db ← get
  Tx.check (requirePart db id)
  Tx.check (requirePreset db data.presetId)
  modify (·.updateParts (fun p => p.id == id) data.apply)
  writePartAllowedRoles id roles

theorem updatePartAssignment_writes {id : Nat} {data : PartFields} {roles : PartRoleSelection}
    {db db' : EventDb} (h : (updatePartAssignment id data roles).exec db = (.ok (), db')) :
    (writePartAllowedRoles id roles).exec (db.updateParts (fun p => p.id == id) data.apply) =
      (.ok (), db') := by
  unfold updatePartAssignment at h
  rw [Tx.exec_bind_get, Tx.exec_bind_check_ok] at h
  obtain ⟨_, _, h⟩ := h
  rw [Tx.exec_bind_check_ok] at h
  obtain ⟨_, _, h⟩ := h
  rwa [Tx.exec_bind_modify] at h

/-- Each id takes five times its place in the list, one update after the other. -/
def reorderPartAssignments (orderedIds : List Nat) : Tx EventDb Failure Unit :=
  orderedIds.zipIdx.forM fun (id, i) => do
    let db ← get
    Tx.check (requirePart db id)
    modify (·.updateParts (fun p => p.id == id) fun p => { p with order := i * 5 })

/-! ## Service parts -/

def addServicePartAssignment (eventId : Nat) (name : String) (allowedRoleIds : List Nat) :
    Tx EventDb Failure Unit := do
  let db ← get
  Tx.check (Tx.refuseWhen (db.eventById eventId = none) (.database .foreignKey))
  modify (·.createServicePart fun id => ⟨id, eventId, none, name, none, none, false⟩)
  setServicePartAssignmentAllowedRoles db.nextEventServicePartId allowedRoleIds

def requireServicePart (db : EventDb) (id : Nat) : Except Failure Unit :=
  Tx.refuseWhen (db.servicePartById id = none) (.database .recordNotFound)

def updateServicePartAssignment (id : Nat) (name : String) (allowedRoleIds : List Nat) :
    Tx EventDb Failure Unit := do
  let db ← get
  Tx.check (requireServicePart db id)
  modify (·.updateServiceParts (fun s => s.id == id) fun s => { s with name := name })
  setServicePartAssignmentAllowedRoles id allowedRoleIds

def deleteServicePartAssignment (id : Nat) : Tx EventDb Failure Unit := do
  let db ← get
  Tx.check (requireServicePart db id)
  modify (·.deleteServiceParts fun s => s.id == id)

/-! ## Applying a template -/

/-- The row that applying a template makes of a template part. -/
def appliedPart (eventId : Nat) (part : TemplatePart) (id : Nat) : EventPart :=
  { blankPart eventId id with
    partId := some part.id
    name := part.name
    sectionName := part.sectionName
    track := part.track
    order := part.order
    durationMin := part.durationMin
    allowExternalSpeaker := part.allowExternalSpeaker
    speakerLabel := part.speakerLabel
    readerLabel := part.readerLabel
    presetId := part.presetId }

def appliedServicePart (eventId : Nat) (role : TemplateServicePart) (id : Nat) : EventServicePart where
  id := id
  eventId := eventId
  servicePartId := some role.id
  name := role.name
  presetId := role.presetId
  assigneeId := none
  hasConflict := false

/-- A template that is not there changes nothing. The rows already there stay. -/
def applyTemplateToEvent (eventId templateId : Nat) : Tx EventDb Failure (Option EventTemplate) := do
  let db ← get
  match db.loadTemplate templateId with
  | none => return none
  | some template =>
    Tx.check (requireEvent db eventId)
    modify (·.updateEvents (fun e => e.id == eventId) fun e => { e with templateId := some templateId })
    modify fun db => template.parts.foldl (·.copyPart (appliedPart eventId)) db
    modify fun db => template.serviceParts.foldl (·.copyServicePart (appliedServicePart eventId)) db
    return some template.template

section Spec

variable {db db' : EventDb} {eventId templateId : Nat} {t : EventTemplate}

theorem applyTemplateToEvent_ok
    (h : (applyTemplateToEvent eventId templateId).exec db = (.ok (some t), db')) :
    ∃ template, db.loadTemplate templateId = some template ∧ db.eventById eventId ≠ none ∧
      db' = (db.updateEvents (fun e => e.id == eventId)
          fun e => { e with templateId := some templateId }).instantiate template
        (appliedPart eventId) (appliedServicePart eventId) := by
  unfold applyTemplateToEvent at h
  rw [Tx.exec_bind_get] at h
  cases hload : db.loadTemplate templateId with
  | none =>
    simp only [hload, Tx.exec_pure, Prod.mk.injEq, Except.ok.injEq, reduceCtorEq, false_and] at h
  | some template =>
    simp only [hload, Tx.exec_bind_check_ok, Tx.exec_bind_modify] at h
    obtain ⟨_, hevent, h⟩ := h
    obtain ⟨_, rfl⟩ := Tx.exec_pure_ok.mp h
    exact ⟨template, rfl, Tx.refuseWhen_ok.mp hevent, rfl⟩

theorem applyTemplateToEvent_none
    (h : (applyTemplateToEvent eventId templateId).exec db = (.ok none, db')) : db' = db := by
  unfold applyTemplateToEvent at h
  rw [Tx.exec_bind_get] at h
  cases hload : db.loadTemplate templateId with
  | none =>
    rw [hload] at h
    exact (Tx.exec_pure_ok.mp h).2
  | some template =>
    simp only [hload, Tx.exec_bind_check_ok, Tx.exec_bind_modify] at h
    obtain ⟨_, _, h⟩ := h
    cases (Tx.exec_pure_ok.mp h).1

end Spec

end Unitae.Events
