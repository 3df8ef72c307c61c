import Unitae.Events.Programme

/-!
# Unitae — the two ways of instantiating a template

Generating an event and applying a template to an empty one are two copy loops over the same rows.
`programme` and `services` read what they leave on an event, up to the identity of the rows. They leave
the same but for two columns: applying a template drops the `trackOrder` of a part, generating drops
the `presetId` of a service part.
-/

namespace Unitae.Events

/-! ## What an event carries -/

/-- A part row without its identity. -/
def EventPart.content (p : EventPart) : EventPart := { p with id := 0, eventId := 0 }

def EventServicePart.content (s : EventServicePart) : EventServicePart :=
  { s with id := 0, eventId := 0 }

/-- Rows of a table, each with what hangs from it. -/
def attached {α β γ δ : Type} (id : α → Nat) (parent : β → Nat) (content : α → γ) (value : β → δ)
    (mine : α → Bool) (rows : List α) (children : List β) : List (γ × List δ) :=
  (rows.filter mine).map fun a =>
    (content a, (children.filter fun b => parent b == id a).map value)

/-- The part rows of the event, each with the roles allowed for its slots. -/
def EventDb.programme (db : EventDb) (eventId : Nat) :
    List (EventPart × List (Nat × PartRoleKind)) :=
  attached (·.id) (·.eventPartId) EventPart.content (fun r => (r.roleId, r.asKind))
    (·.eventId == eventId) db.eventParts db.eventPartAllowedRoles

/-- The service rows of the event, each with the roles allowed for it. -/
def EventDb.services (db : EventDb) (eventId : Nat) : List (EventServicePart × List Nat) :=
  attached (·.id) (·.eventServicePartId) EventServicePart.content (·.roleId)
    (·.eventId == eventId) db.eventServiceParts db.eventServicePartAllowedRoles

/-- The roles a template part allows, each once. -/
def EventDb.templateRoles (db : EventDb) (part : TemplatePart) : List (Nat × PartRoleKind) :=
  insertMissing [] ((db.templatePartAllowedRoles.filter (·.partId == part.id)).map fun r =>
    (r.roleId, r.asKind))

def EventDb.templateServiceRoles (db : EventDb) (role : TemplateServicePart) : List Nat :=
  insertMissing [] ((db.templateServicePartAllowedRoles.filter (·.servicePartId == role.id)).map
    (·.roleId))

/-! ## One turn of a copy loop -/

section Attached

variable {α β γ δ : Type} [BEq β] [LawfulBEq β] [BEq δ] [LawfulBEq δ] {id : α → Nat}
  {parent : β → Nat} {content : α → γ} {value : β → δ} {mine : α → Bool} {rows : List α}
  {children added : List β} {row : α}

/-- A new row comes last, with what was added for it; the rows that were there keep what hangs from
them, for none of it carries the new row's id. -/
theorem attached_append (hmine : mine row = true) (hids : ∀ a ∈ rows, id a ≠ id row)
    (hparents : ∀ b ∈ children, parent b ≠ id row) (hadded : ∀ b ∈ added, parent b = id row)
    (hvalue : ∀ a ∈ added, ∀ b ∈ added, value a = value b → a = b) :
    attached id parent content value mine (rows ++ [row]) (insertMissing children added) =
      attached id parent content value mine rows children ++
        [(content row, insertMissing [] (added.map value))] := by
  unfold attached
  have hlast : [row].filter mine = [row] := by rw [List.filter_cons_of_pos hmine, List.filter_nil]
  rw [List.filter_append, hlast, List.map_append, List.map_singleton]
  congr 1
  · refine List.map_congr_left fun a ha => ?_
    have hkept : (insertMissing children added).filter (fun b => parent b == id a) =
        children.filter fun b => parent b == id a := by
      refine filter_insertMissing_of_not fun b hb => ?_
      rw [hadded b hb]
      exact beq_false_of_ne (hids a (List.mem_filter.mp ha).1).symm
    rw [hkept]
  · have hnone : children.filter (fun b => parent b == id row) = [] := by
      rw [List.filter_eq_nil_iff]
      intro b hb hsame
      exact hparents b hb (beq_iff_eq.mp hsame)
    have hnew : (insertMissing children added).filter (fun b => parent b == id row) =
        insertMissing [] added := by
      rw [← hnone]
      refine filter_insertMissing fun b hb => ?_
      rw [hadded b hb]
      exact beq_self_eq_true _
    rw [hnew, map_insertMissing (by simpa using hvalue), List.map_nil]

end Attached

/-! ## The copy loops -/

/-- The part tables: no row and no allowed role carries an id that is still to come. -/
structure EventDb.PartSequence (db : EventDb) : Prop where
  ids : ∀ p ∈ db.eventParts, p.id < db.nextEventPartId
  roles : ∀ r ∈ db.eventPartAllowedRoles, r.eventPartId < db.nextEventPartId

structure EventDb.ServiceSequence (db : EventDb) : Prop where
  ids : ∀ s ∈ db.eventServiceParts, s.id < db.nextEventServicePartId
  roles : ∀ r ∈ db.eventServicePartAllowedRoles, r.eventServicePartId < db.nextEventServicePartId

/-- A copy loop puts the row of a template part on the event, under the id it is given. -/
structure CopiesParts (eventId : Nat) (row : TemplatePart → Nat → EventPart) : Prop where
  id : ∀ part n, (row part n).id = n
  event : ∀ part n, (row part n).eventId = eventId
  content : ∀ part n, (row part n).content = (row part 0).content

structure CopiesServices (eventId : Nat) (row : TemplateServicePart → Nat → EventServicePart) :
    Prop where
  id : ∀ role n, (row role n).id = n
  event : ∀ role n, (row role n).eventId = eventId
  content : ∀ role n, (row role n).content = (row role 0).content

section Loops

variable {db : EventDb} {eventId : Nat} {row : TemplatePart → Nat → EventPart}
  {serviceRow : TemplateServicePart → Nat → EventServicePart}

theorem copyPart_programme (hrow : CopiesParts eventId row) (hdb : db.PartSequence)
    (part : TemplatePart) :
    (db.copyPart row part).programme eventId =
      db.programme eventId ++ [((row part 0).content, db.templateRoles part)] := by
  have hid := hrow.id part db.nextEventPartId
  rw [← hrow.content part db.nextEventPartId]
  refine (attached_append ?_ ?_ ?_ ?_ ?_).trans ?_
  · rw [hrow.event]
    exact beq_self_eq_true _
  · intro p hp
    rw [hid]
    exact Nat.ne_of_lt (hdb.ids p hp)
  · intro r hr
    rw [hid]
    exact Nat.ne_of_lt (hdb.roles r hr)
  · intro r hr
    obtain ⟨_, _, rfl⟩ := List.mem_map.mp hr
    exact hid.symm
  · -- the roles of one row differ in the role or the slot
    intro a ha b hb hsame
    obtain ⟨x, _, rfl⟩ := List.mem_map.mp ha
    obtain ⟨y, _, rfl⟩ := List.mem_map.mp hb
    obtain ⟨hrole, hkind⟩ := Prod.mk.inj hsame
    simp only at hrole hkind
    rw [hrole, hkind]
  · rw [List.map_map]
    rfl

theorem copyPart_sequence (hrow : CopiesParts eventId row) (hdb : db.PartSequence)
    (part : TemplatePart) : (db.copyPart row part).PartSequence where
  ids := lt_append_next hdb.ids (hrow.id _ _)
  roles := by
    intro r hr
    show r.eventPartId < db.nextEventPartId + 1
    rcases mem_insertMissing.mp hr with hold | hnew
    · exact Nat.lt_succ_of_lt (hdb.roles r hold)
    · obtain ⟨_, _, rfl⟩ := List.mem_map.mp hnew
      exact Nat.lt_succ_self _

/-- **The loop over the parts** puts their rows after the event's, in the template's order. -/
theorem copyParts_programme (hrow : CopiesParts eventId row) (hdb : db.PartSequence)
    (parts : List TemplatePart) :
    (parts.foldl (·.copyPart row) db).programme eventId = db.programme eventId ++
      parts.map fun part => ((row part 0).content, db.templateRoles part) := by
  induction parts generalizing db with
  | nil => simp
  | cons part parts ih =>
    rw [List.foldl_cons, ih (copyPart_sequence hrow hdb part), copyPart_programme hrow hdb,
      List.append_assoc]
    rfl

theorem copyServicePart_services (hrow : CopiesServices eventId serviceRow)
    (hdb : db.ServiceSequence) (role : TemplateServicePart) :
    (db.copyServicePart serviceRow role).services eventId =
      db.services eventId ++ [((serviceRow role 0).content, db.templateServiceRoles role)] := by
  have hid := hrow.id role db.nextEventServicePartId
  rw [← hrow.content role db.nextEventServicePartId]
  refine (attached_append ?_ ?_ ?_ ?_ ?_).trans ?_
  · rw [hrow.event]
    exact beq_self_eq_true _
  · intro s hs
    rw [hid]
    exact Nat.ne_of_lt (hdb.ids s hs)
  · intro r hr
    rw [hid]
    exact Nat.ne_of_lt (hdb.roles r hr)
  · intro r hr
    obtain ⟨_, _, rfl⟩ := List.mem_map.mp hr
    exact hid.symm
  · intro a ha b hb hsame
    obtain ⟨x, _, rfl⟩ := List.mem_map.mp ha
    obtain ⟨y, _, rfl⟩ := List.mem_map.mp hb
    simp only at hsame
    rw [hsame]
  · rw [List.map_map]
    rfl

theorem copyServicePart_sequence (hrow : CopiesServices eventId serviceRow)
    (hdb : db.ServiceSequence) (role : TemplateServicePart) :
    (db.copyServicePart serviceRow role).ServiceSequence where
  ids := lt_append_next hdb.ids (hrow.id _ _)
  roles := by
    intro r hr
    show r.eventServicePartId < db.nextEventServicePartId + 1
    rcases mem_insertMissing.mp hr with hold | hnew
    · exact Nat.lt_succ_of_lt (hdb.roles r hold)
    · obtain ⟨_, _, rfl⟩ := List.mem_map.mp hnew
      exact Nat.lt_succ_self _

/-- **The loop over the service parts**, in the table's order. -/
theorem copyServiceParts_services (hrow : CopiesServices eventId serviceRow)
    (hdb : db.ServiceSequence) (roles : List TemplateServicePart) :
    (roles.foldl (·.copyServicePart serviceRow) db).services eventId = db.services eventId ++
      roles.map fun role => ((serviceRow role 0).content, db.templateServiceRoles role) := by
  induction roles generalizing db with
  | nil => simp
  | cons role roles ih =>
    rw [List.foldl_cons, ih (copyServicePart_sequence hrow hdb role),
      copyServicePart_services hrow hdb, List.append_assoc]
    rfl

end Loops

/-! ## Both ways -/

/-- No row, and no allowed role, carries an id that is still to come. -/
structure EventDb.Sequences (db : EventDb) : Prop where
  parts : db.PartSequence
  services : db.ServiceSequence
  partEvents : ∀ p ∈ db.eventParts, p.eventId < db.nextEventId
  serviceEvents : ∀ s ∈ db.eventServiceParts, s.eventId < db.nextEventId

/-- The event has no rows. -/
def EventDb.Bare (db : EventDb) (eventId : Nat) : Prop :=
  (∀ p ∈ db.eventParts, p.eventId ≠ eventId) ∧ ∀ s ∈ db.eventServiceParts, s.eventId ≠ eventId

section Both

variable {rt : Runtime} {db generated applied : EventDb} {template : TemplateWithRelations}
  {templateId createdById eventId : Nat} {date : Instant} {timezone : String} {event : Event}
  {row : TemplatePart → Nat → EventPart} {serviceRow : TemplateServicePart → Nat → EventServicePart}

theorem Bare.programme (h : db.Bare eventId) : db.programme eventId = [] := by
  have hnone : db.eventParts.filter (·.eventId == eventId) = [] := by
    rw [List.filter_eq_nil_iff]
    intro p hp hsame
    exact h.1 p hp (beq_iff_eq.mp hsame)
  unfold EventDb.programme attached
  rw [hnone, List.map_nil]

theorem Bare.services (h : db.Bare eventId) : db.services eventId = [] := by
  have hnone : db.eventServiceParts.filter (·.eventId == eventId) = [] := by
    rw [List.filter_eq_nil_iff]
    intro s hs hsame
    exact h.2 s hs (beq_iff_eq.mp hsame)
  unfold EventDb.services attached
  rw [hnone, List.map_nil]

/-- The loop over the parts leaves the service tables, and the other way round. -/
theorem copyParts_services (parts : List TemplatePart) :
    (parts.foldl (·.copyPart row) db).services eventId = db.services eventId ∧
      ((parts.foldl (·.copyPart row) db).ServiceSequence ↔ db.ServiceSequence) ∧
      ∀ role, (parts.foldl (·.copyPart row) db).templateServiceRoles role =
        db.templateServiceRoles role := by
  induction parts generalizing db with
  | nil => exact ⟨rfl, Iff.rfl, fun _ => rfl⟩
  | cons part parts ih =>
    obtain ⟨hservices, hsequence, hroles⟩ := @ih (db.copyPart row part)
    exact ⟨hservices.trans rfl, hsequence.trans ⟨fun h => ⟨h.ids, h.roles⟩, fun h => ⟨h.ids, h.roles⟩⟩,
      fun role => (hroles role).trans rfl⟩

theorem copyServiceParts_programme (roles : List TemplateServicePart) :
    (roles.foldl (·.copyServicePart serviceRow) db).programme eventId = db.programme eventId := by
  induction roles generalizing db with
  | nil => rfl
  | cons role roles ih => exact (@ih (db.copyServicePart serviceRow role)).trans rfl

/-- What instantiating leaves on a bare event. -/
theorem instantiate_rows (hrow : CopiesParts eventId row) (hservice : CopiesServices eventId serviceRow)
    (hparts : db.PartSequence) (hservices : db.ServiceSequence) (hbare : db.Bare eventId) :
    (db.instantiate template row serviceRow).programme eventId =
        template.parts.map (fun part => ((row part 0).content, db.templateRoles part)) ∧
      (db.instantiate template row serviceRow).services eventId =
        template.serviceParts.map fun role =>
          ((serviceRow role 0).content, db.templateServiceRoles role) := by
  obtain ⟨hsame, hsequence, hroles⟩ := @copyParts_services db eventId row template.parts
  unfold EventDb.instantiate
  constructor
  · rw [copyServiceParts_programme, copyParts_programme hrow hparts, Bare.programme hbare,
      List.nil_append]
  · rw [copyServiceParts_services hservice (hsequence.mpr hservices), hsame, Bare.services hbare,
      List.nil_append]
    exact List.map_congr_left fun role _ => by rw [hroles]

theorem generatedPart_copies : CopiesParts eventId (generatedPart eventId) :=
  ⟨fun _ _ => rfl, fun _ _ => rfl, fun _ _ => rfl⟩

theorem appliedPart_copies : CopiesParts eventId (appliedPart eventId) :=
  ⟨fun _ _ => rfl, fun _ _ => rfl, fun _ _ => rfl⟩

theorem generatedServicePart_copies : CopiesServices eventId (generatedServicePart eventId) :=
  ⟨fun _ _ => rfl, fun _ _ => rfl, fun _ _ => rfl⟩

theorem appliedServicePart_copies : CopiesServices eventId (appliedServicePart eventId) :=
  ⟨fun _ _ => rfl, fun _ _ => rfl, fun _ _ => rfl⟩

/-- The two rows of a template part differ in the track order alone. -/
theorem part_content_eq_iff {newId : Nat} {part : TemplatePart} :
    (generatedPart newId part 0).content = (appliedPart eventId part 0).content ↔
      part.trackOrder = none := by
  simp [generatedPart, appliedPart, blankPart, EventPart.content]

/-- The two rows of a service part differ in the preset alone. -/
theorem service_content_eq_iff {newId : Nat} {role : TemplateServicePart} :
    (generatedServicePart newId role 0).content = (appliedServicePart eventId role 0).content ↔
      role.presetId = none := by
  simp [generatedServicePart, appliedServicePart, EventServicePart.content, eq_comm]

/-- **Generating an event and applying its template to a bare one leave the same rows** if and only if
no part of the template has a track order and no service part a preset. -/
theorem instantiations_agree_iff (hdb : db.Sequences)
    (hload : db.loadTemplate templateId = some template)
    (hgenerated : (createEventWithAssignments rt template date createdById timezone).exec db =
      (.ok event, generated))
    (hbare : db.Bare eventId)
    (happlied : (applyTemplateToEvent eventId templateId).exec db =
      (.ok (some template.template), applied)) :
    (generated.programme event.id = applied.programme eventId ∧
        generated.services event.id = applied.services eventId) ↔
      (∀ part ∈ template.parts, part.trackOrder = none) ∧
        ∀ role ∈ template.serviceParts, role.presetId = none := by
  obtain ⟨hid, _, hgen⟩ := createEventWithAssignments_ok hgenerated
  obtain ⟨_, hloaded, _, happ⟩ := applyTemplateToEvent_ok happlied
  rw [hload, Option.some.injEq] at hloaded
  subst hloaded
  -- the event to come has no rows yet
  have hnew : (db.createEvent fun _ => event).Bare event.id := by
    rw [hid]
    exact ⟨fun p hp => Nat.ne_of_lt (hdb.partEvents p hp),
      fun s hs => Nat.ne_of_lt (hdb.serviceEvents s hs)⟩
  obtain ⟨hprogramme, hservices⟩ := @instantiate_rows (db.createEvent fun _ => event) template event.id
    _ _ generatedPart_copies generatedServicePart_copies ⟨hdb.parts.ids, hdb.parts.roles⟩
    ⟨hdb.services.ids, hdb.services.roles⟩ hnew
  obtain ⟨hprogramme', hservices'⟩ := @instantiate_rows (db.updateEvents (fun e => e.id == eventId)
    fun e => { e with templateId := some templateId }) template eventId _ _ appliedPart_copies
    appliedServicePart_copies ⟨hdb.parts.ids, hdb.parts.roles⟩ ⟨hdb.services.ids, hdb.services.roles⟩
    hbare
  rw [hgen, happ, hprogramme, hservices, hprogramme', hservices', List.map_inj_left, List.map_inj_left]
  refine and_congr (forall₂_congr fun part _ => ?_) (forall₂_congr fun role _ => ?_)
  · rw [Prod.mk.injEq, part_content_eq_iff]
    exact and_iff_left rfl
  · rw [Prod.mk.injEq, service_content_eq_iff]
    exact and_iff_left rfl

end Both

/-! ## One template, both ways -/

/-- A meeting with one part and one service part, and an event without rows to apply it to. -/
def hallMeeting (trackOrder : Option Int) (presetId : Option Nat) : EventDb :=
  { EventDb.empty with
    events := [⟨1, "Meeting", 0, 7200000, .draft, none, 33⟩]
    templates := [⟨7, "Weekend meeting", "weekend-meeting", some 0, "19:00", "21:00"⟩]
    templateParts := [⟨4, 7, "Public talk", "", "Main hall", trackOrder, 0, some 30, true, none, none,
      none⟩]
    templateServiceParts := [⟨5, 7, "Sound", presetId⟩]
    templatePartAllowedRoles := [⟨4, 9, .speaker⟩]
    presets := [3]
    nextEventId := 2 }

def hallMeetingTemplate (trackOrder : Option Int) (presetId : Option Nat) : TemplateWithRelations :=
  ⟨⟨7, "Weekend meeting", "weekend-meeting", some 0, "19:00", "21:00"⟩,
    [⟨4, 7, "Public talk", "", "Main hall", trackOrder, 0, some 30, true, none, none, none⟩],
    [⟨5, 7, "Sound", presetId⟩]⟩

def hallMeetingEvent : Event :=
  ⟨2, "Weekend meeting", 19 * 3600000, 21 * 3600000, .draft, some 7, 33⟩

/-- The template generated on the first of January 1970. -/
def generateHallMeeting (trackOrder : Option Int) (presetId : Option Nat) :
    Except Failure Event × EventDb :=
  (createEventWithAssignments .utc (hallMeetingTemplate trackOrder presetId) 0 33 "UTC").exec
    (hallMeeting trackOrder presetId)

def applyHallMeeting (trackOrder : Option Int) (presetId : Option Nat) :
    Except Failure (Option EventTemplate) × EventDb :=
  (applyTemplateToEvent 1 7).exec (hallMeeting trackOrder presetId)

/-- Both ways succeed, and a part keeps its place on its track in the first only, a service part its
kind in the second only. -/
theorem instantiations_differ :
    ((generateHallMeeting (some 2) none).1 = .ok hallMeetingEvent ∧
      (applyHallMeeting (some 2) none).1 = .ok (some (hallMeetingTemplate (some 2) none).template) ∧
      (generateHallMeeting (some 2) none).2.programme 2 ≠
        (applyHallMeeting (some 2) none).2.programme 1) ∧
    ((generateHallMeeting none (some 3)).1 = .ok hallMeetingEvent ∧
      (applyHallMeeting none (some 3)).1 = .ok (some (hallMeetingTemplate none (some 3)).template) ∧
      (generateHallMeeting none (some 3)).2.services 2 ≠
        (applyHallMeeting none (some 3)).2.services 1) := by
  decide +kernel

theorem instantiations_agree_plain :
    ((generateHallMeeting none none).2.programme 2 = (applyHallMeeting none none).2.programme 1 ∧
        (generateHallMeeting none none).2.services 2 = (applyHallMeeting none none).2.services 1) ↔
      (∀ part ∈ (hallMeetingTemplate none none).parts, part.trackOrder = none) ∧
        ∀ role ∈ (hallMeetingTemplate none none).serviceParts, role.presetId = none :=
  have hgenerated : (generateHallMeeting none none).1 = .ok hallMeetingEvent := by decide +kernel
  have happlied : (applyHallMeeting none none).1 =
      .ok (some (hallMeetingTemplate none none).template) := by decide +kernel
  instantiations_agree_iff
    ⟨⟨by decide, by decide⟩, ⟨by decide, by decide⟩, by decide, by decide⟩
    (by decide +kernel : (hallMeeting none none).loadTemplate 7 = some (hallMeetingTemplate none none))
    (Prod.ext hgenerated rfl) ⟨by decide, by decide⟩ (Prod.ext happlied rfl)

end Unitae.Events
