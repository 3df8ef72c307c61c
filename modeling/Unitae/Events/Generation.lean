import Unitae.Events.Clock
import Unitae.Events.Schema

/-!
# Unitae — events from a template (`event-template-generation.server.ts`)

A template is copied onto a new event, its parts in their order and with the roles allowed for them.
Rows that share an order have none, and keep the table's here.
-/

namespace Unitae.Events

open Roles

/-! ## The template and its relations -/

/-- A template with what `loadTemplate` includes. The roles allowed for a part are read with it. -/
structure TemplateWithRelations where
  template : EventTemplate
  parts : List TemplatePart
  serviceParts : List TemplateServicePart
deriving DecidableEq, Repr

def EventDb.loadTemplate (db : EventDb) (templateId : Nat) : Option TemplateWithRelations :=
  (db.templateById templateId).map fun template =>
    { template := template
      parts := (db.templateParts.filter (·.templateId == template.id)).mergeSort
        fun a b => a.order ≤ b.order
      serviceParts := db.templateServiceParts.filter (·.templateId == template.id) }

/-! ## Copying -/

/-- One turn of a copy loop: the row, and the roles allowed for it. -/
def EventDb.copyPart (row : TemplatePart → Nat → EventPart) (db : EventDb) (part : TemplatePart) :
    EventDb :=
  let allowedRoles := db.templatePartAllowedRoles.filter (·.partId == part.id)
  (db.createPart (row part)).createPartAllowedRoles
    (allowedRoles.map fun r => ⟨db.nextEventPartId, r.roleId, r.asKind⟩)

def EventDb.copyServicePart (row : TemplateServicePart → Nat → EventServicePart) (db : EventDb)
    (role : TemplateServicePart) : EventDb :=
  let allowedRoles := db.templateServicePartAllowedRoles.filter (·.servicePartId == role.id)
  (db.createServicePart (row role)).createServicePartAllowedRoles
    (allowedRoles.map fun r => ⟨db.nextEventServicePartId, r.roleId⟩)

/-- The row that generation makes of a template part. -/
def generatedPart (eventId : Nat) (part : TemplatePart) (id : Nat) : EventPart where
  id := id
  eventId := eventId
  partId := some part.id
  name := part.name
  sectionName := part.sectionName
  track := part.track
  trackOrder := part.trackOrder
  order := part.order
  durationMin := part.durationMin
  allowExternalSpeaker := part.allowExternalSpeaker
  speakerLabel := part.speakerLabel
  readerLabel := part.readerLabel
  presetId := part.presetId
  assigneeId := none
  assistantId := none
  externalSpeakerId := none
  topic := ""
  hasConflict := false

/-- The row that generation makes of a service part. -/
def generatedServicePart (eventId : Nat) (role : TemplateServicePart) (id : Nat) :
    EventServicePart where
  id := id
  eventId := eventId
  servicePartId := some role.id
  name := role.name
  presetId := none
  assigneeId := none
  hasConflict := false

/-- The rows of a template, made by the two loops. -/
def EventDb.instantiate (db : EventDb) (template : TemplateWithRelations)
    (row : TemplatePart → Nat → EventPart) (serviceRow : TemplateServicePart → Nat → EventServicePart) :
    EventDb :=
  template.serviceParts.foldl (·.copyServicePart serviceRow)
    (template.parts.foldl (·.copyPart row) db)

/-! ## New events -/

def requireDate (date : Option Instant) : Except Failure Instant :=
  match date with
  | some date => .ok date
  | none => .error (.database .invalidDate)

def createEventWithAssignments (rt : Runtime) (template : TemplateWithRelations) (date : Instant)
    (createdById : Nat) (timezone : String) : Tx EventDb Failure Event := do
  let start := parseTimeString rt template.template.startTime
  let finish := parseTimeString rt template.template.endTime
  let startDate ← Tx.check (requireDate (setHoursInTimezone rt date start.1 start.2 timezone))
  let endDate ← Tx.check (requireDate (setHoursInTimezone rt date finish.1 finish.2 timezone))
  let db ← get
  let event : Event := ⟨db.nextEventId, template.template.name, startDate, endDate, .draft,
    some template.template.id, createdById⟩
  modify (·.createEvent fun _ => event)
  modify fun db => template.parts.foldl (·.copyPart (generatedPart event.id)) db
  modify fun db => template.serviceParts.foldl (·.copyServicePart (generatedServicePart event.id)) db
  return event

/-- A date that already has an event of the template is skipped. -/
def generateEventsFromTemplate (rt : Runtime) (now : Instant) (templateId occurrences createdById : Nat)
    (timezone : String) (startFrom : Option Instant) : Tx EventDb Failure (List Event) := do
  let db ← get
  match db.loadTemplate templateId with
  | none => return []
  | some template =>
    match template.template.weekDay with
    | none => return []
    | some weekDay =>
      let dates := computeDatesForWeekdayCount rt weekDay occurrences (startFrom.getD now)
      let existingEvents := db.events.filter fun e =>
        e.templateId == some templateId && dates.head?.getD now ≤ e.startDate
      let existingDateStrings := existingEvents.map fun e => toDateString rt e.startDate timezone
      dates.foldlM (fun createdEvents date => do
        if existingDateStrings.contains (toDateString rt date timezone) then
          return createdEvents
        let event ← createEventWithAssignments rt template date createdById timezone
        return createdEvents ++ [event]) []

def createSingleEventFromTemplate (rt : Runtime) (templateId : Nat) (date : Instant)
    (createdById : Nat) (timezone : String) : Tx EventDb Failure (Option Event) := do
  let db ← get
  match db.loadTemplate templateId with
  | none => return none
  | some template =>
    if db.events.any fun e => e.templateId == some templateId &&
        startOfLocalDay rt date ≤ e.startDate && e.startDate ≤ endOfLocalDay rt date then
      return none
    let event ← createEventWithAssignments rt template date createdById timezone
    return some event

/-! ## What generation leaves -/

section Spec

variable {rt : Runtime} {db db' : EventDb} {template : TemplateWithRelations} {date : Instant}
  {createdById : Nat} {timezone : String} {event : Event}

theorem requireDate_ok {date : Option Instant} {t : Instant} :
    requireDate date = .ok t ↔ date = some t := by
  cases date with
  | none => simp [requireDate]
  | some t' => rw [requireDate, Except.ok.injEq, Option.some.injEq]

/-- A generated event takes the next id, is a draft of its template, and gets the rows of the loops. -/
theorem createEventWithAssignments_ok
    (h : (createEventWithAssignments rt template date createdById timezone).exec db =
      (.ok event, db')) :
    event.id = db.nextEventId ∧
      (event.status = .draft ∧ event.templateId = some template.template.id ∧
        event.createdById = createdById) ∧
      db' = (db.createEvent fun _ => event).instantiate template (generatedPart event.id)
        (generatedServicePart event.id) := by
  unfold createEventWithAssignments at h
  simp only [Tx.exec_bind_check_ok, Tx.exec_bind_get, Tx.exec_bind_modify] at h
  obtain ⟨startDate, _, endDate, _, h⟩ := h
  obtain ⟨rfl, rfl⟩ := Tx.exec_pure_ok.mp h
  exact ⟨rfl, ⟨rfl, rfl, rfl⟩, rfl⟩

/-- The times of a generated event are the template's, on the date. -/
theorem createEventWithAssignments_times
    (h : (createEventWithAssignments rt template date createdById timezone).exec db =
      (.ok event, db')) :
    setHoursInTimezone rt date (parseTimeString rt template.template.startTime).1
        (parseTimeString rt template.template.startTime).2 timezone = some event.startDate ∧
      setHoursInTimezone rt date (parseTimeString rt template.template.endTime).1
        (parseTimeString rt template.template.endTime).2 timezone = some event.endDate := by
  unfold createEventWithAssignments at h
  simp only [Tx.exec_bind_check_ok, Tx.exec_bind_get, Tx.exec_bind_modify] at h
  obtain ⟨startDate, hstart, endDate, hend, h⟩ := h
  obtain ⟨rfl, _⟩ := Tx.exec_pure_ok.mp h
  exact ⟨requireDate_ok.mp hstart, requireDate_ok.mp hend⟩

/-- **Instantiating only adds rows**, each made from a row of the template. -/
theorem instantiate_adds (row : TemplatePart → Nat → EventPart)
    (serviceRow : TemplateServicePart → Nat → EventServicePart) :
    ∃ parts services,
      (db.instantiate template row serviceRow).eventParts = db.eventParts ++ parts ∧
      (db.instantiate template row serviceRow).eventServiceParts = db.eventServiceParts ++ services ∧
      (∀ p ∈ parts, ∃ part id, p = row part id) ∧ (∀ s ∈ services, ∃ role id, s = serviceRow role id) ∧
      (db.instantiate template row serviceRow).events = db.events ∧
      (db.instantiate template row serviceRow).directory = db.directory ∧
      (db.instantiate template row serviceRow).templates = db.templates := by
  have hparts : ∀ (xs : List TemplatePart) (s : EventDb), ∃ parts,
      (xs.foldl (·.copyPart row) s).eventParts = s.eventParts ++ parts ∧
        (∀ p ∈ parts, ∃ part id, p = row part id) ∧
        (xs.foldl (·.copyPart row) s).eventServiceParts = s.eventServiceParts ∧
        (xs.foldl (·.copyPart row) s).events = s.events ∧
        (xs.foldl (·.copyPart row) s).directory = s.directory ∧
        (xs.foldl (·.copyPart row) s).templates = s.templates := by
    intro xs
    induction xs with
    | nil => exact fun s => ⟨[], (List.append_nil _).symm, by simp, rfl, rfl, rfl, rfl⟩
    | cons x xs ih =>
      intro s
      obtain ⟨parts, hadded, hmade, hsame⟩ := ih (s.copyPart row x)
      refine ⟨row x s.nextEventPartId :: parts, ?_, fun p hp => ?_, hsame⟩
      · rw [List.foldl_cons, hadded]
        show (s.eventParts ++ [row x s.nextEventPartId]) ++ parts = _
        rw [List.append_assoc, List.singleton_append]
      · rcases List.mem_cons.mp hp with rfl | hp
        · exact ⟨x, _, rfl⟩
        · exact hmade p hp
  have hservices : ∀ (xs : List TemplateServicePart) (s : EventDb), ∃ services,
      (xs.foldl (·.copyServicePart serviceRow) s).eventServiceParts =
          s.eventServiceParts ++ services ∧
        (∀ p ∈ services, ∃ role id, p = serviceRow role id) ∧
        (xs.foldl (·.copyServicePart serviceRow) s).eventParts = s.eventParts ∧
        (xs.foldl (·.copyServicePart serviceRow) s).events = s.events ∧
        (xs.foldl (·.copyServicePart serviceRow) s).directory = s.directory ∧
        (xs.foldl (·.copyServicePart serviceRow) s).templates = s.templates := by
    intro xs
    induction xs with
    | nil => exact fun s => ⟨[], (List.append_nil _).symm, by simp, rfl, rfl, rfl, rfl⟩
    | cons x xs ih =>
      intro s
      obtain ⟨services, hadded, hmade, hsame⟩ := ih (s.copyServicePart serviceRow x)
      refine ⟨serviceRow x s.nextEventServicePartId :: services, ?_, fun p hp => ?_, hsame⟩
      · rw [List.foldl_cons, hadded]
        show (s.eventServiceParts ++ [serviceRow x s.nextEventServicePartId]) ++ services = _
        rw [List.append_assoc, List.singleton_append]
      · rcases List.mem_cons.mp hp with rfl | hp
        · exact ⟨x, _, rfl⟩
        · exact hmade p hp
  obtain ⟨parts, hp, hpmade, hpservices, hpevents, hpdirectory, hptemplates⟩ :=
    hparts template.parts db
  obtain ⟨services, hs, hsmade, hsparts, hsevents, hsdirectory, hstemplates⟩ :=
    hservices template.serviceParts (template.parts.foldl (·.copyPart row) db)
  exact ⟨parts, services, hsparts.trans hp, by rw [EventDb.instantiate, hs, hpservices], hpmade, hsmade,
    hsevents.trans hpevents, hsdirectory.trans hpdirectory, hstemplates.trans hptemplates⟩

end Spec

end Unitae.Events
