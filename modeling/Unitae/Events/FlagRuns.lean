import Unitae.Base.Run
import Unitae.Events.ConflictFlags

/-!
# Unitae — the conflict flags in every run

The steps that write an assignment, an absence or an event. `FlagStep.Kept` says what a step must be
given so that the rows it leaves alone still mean what their flag says; `flags_true` is about every run of
such steps, and about the release at its end.
-/

namespace Unitae.Events

open Roles

/-! ## The steps -/

/-- One call of an operation that writes an assignment, an absence or an event. -/
inductive FlagStep where
  | assignPart (assignmentId : Nat) (params : AssignPartParams)
  | assignServicePart (assignmentId : Nat) (assigneeId : Option Nat)
  | unassignPart (assignmentId : Nat)
  | unassignServicePart (assignmentId : Nat)
  | createDayOff (accountId : Nat) (startDate endDate : Option Instant)
  | deleteDayOff (accountId eventId : Nat)
  | updateEvent (id : Nat) (data : UpdateEventFields)
  | deleteEvent (id : Nat)
  | bulkDeleteEvents (ids : List Nat)
  | applyTemplateToEvent (eventId templateId : Nat)
  | generateEvents (now : Instant) (templateId occurrences createdById : Nat)
      (startFrom : Option Instant)
  | createSingleEvent (templateId : Nat) (date : Instant) (createdById : Nat)
  | releaseEvent (eventId : Nat)
  | unreleaseEvent (eventId : Nat)

/-- The route of `days-off/delete.tsx`: the event is deleted for the account that created it. -/
def deleteOwnDayOff (accountId eventId : Nat) (db : EventDb) : Tx EventDb Failure Unit :=
  match db.eventById eventId with
  | none => pure ()
  | some event =>
    if event.createdById = accountId then do
      let _ ← deleteDayOff eventId (db.accountMember accountId)
    else pure ()

/-- The store after a call: a transaction that fails is rolled back. -/
def FlagStep.apply (rt : Runtime) (timezone : String) (db : EventDb) : FlagStep → EventDb
  | .assignPart id params =>
    match Events.assignPart db id params with
    | .ok (_, db') => db'
    | .error _ => db
  | .assignServicePart id assigneeId =>
    match Events.assignServicePart db id assigneeId with
    | .ok (_, db') => db'
    | .error _ => db
  | .unassignPart id => ((Events.unassignPart db id).map (·.2)).getD db
  | .unassignServicePart id => ((Events.unassignServicePart db id).map (·.2)).getD db
  | .createDayOff accountId startDate endDate =>
    (Events.createDayOff accountId (db.accountMember accountId) startDate endDate).settle
      (fun _ => false) db
  | .deleteDayOff accountId eventId => (deleteOwnDayOff accountId eventId db).settle (fun _ => false) db
  | .updateEvent id data => (Events.updateEvent id data).settle (fun _ => false) db
  | .deleteEvent id => (Events.deleteEvent id).settle (fun _ => false) db
  | .bulkDeleteEvents ids => (Events.bulkDeleteEvents ids).settle (fun _ => false) db
  | .applyTemplateToEvent eventId templateId =>
    (Events.applyTemplateToEvent eventId templateId).settle (fun _ => false) db
  | .generateEvents now templateId occurrences createdById startFrom =>
    (generateEventsFromTemplate rt now templateId occurrences createdById timezone startFrom).settle
      (fun _ => false) db
  | .createSingleEvent templateId date createdById =>
    (createSingleEventFromTemplate rt templateId date createdById timezone).settle (fun _ => false) db
  | .releaseEvent eventId =>
    match Events.releaseEvent db eventId with
    | some (.ok db') => db'
    | _ => db
  | .unreleaseEvent eventId => (Events.unreleaseEvent db eventId).getD db

/-! ## What a step must be given -/

/-- `template: { key: 'day-off' }`, of the template itself. -/
def EventDb.isDayOffTemplate (db : EventDb) (templateId : Nat) : Bool :=
  db.templates.any fun t => t.id == templateId && t.key == dayOffKey

/-- The dates at which a template's event on the date is held. -/
def eventTimes (rt : Runtime) (timezone : String) (template : EventTemplate) (date startDate endDate : Instant) :
    Prop :=
  setHoursInTimezone rt date (parseTimeString rt template.startTime).1
      (parseTimeString rt template.startTime).2 timezone = some startDate ∧
    setHoursInTimezone rt date (parseTimeString rt template.endTime).1
      (parseTimeString rt template.endTime).2 timezone = some endDate

/-- The days off that generating from the day-off template may add are harmless. -/
def EventDb.HarmlessFrom (rt : Runtime) (timezone : String) (db : EventDb) (template : EventTemplate)
    (createdById : Nat) (date : Instant) : Prop :=
  db.isDayOffTemplate template.id = true → ∀ startDate endDate,
    eventTimes rt timezone template date startDate endDate →
      ∀ r ∈ db.flagRows, db.Harmless createdById startDate endDate r

/-- The rows that a step leaves alone are in conflict after it exactly when they were before. The
assignments and the release change no such row; creating and deleting a day off concern the rows of
other days off only, since the rest is refreshed. -/
def FlagStep.Kept (rt : Runtime) (timezone : String) (db : EventDb) : FlagStep → Prop
  | .createDayOff accountId (some startDate) (some endDate) =>
    startDate ≤ endDate → ∀ r ∈ db.flagRows, db.OnDayOff r → db.Harmless accountId startDate endDate r
  | .deleteDayOff accountId eventId =>
    (∃ event, db.eventById eventId = some event ∧ event.createdById = accountId) →
      ∀ r ∈ db.flagRows, r.eventId ≠ eventId → db.OnDayOff r →
        (db.withEvents (db.events.filter fun e => !(e.id == eventId))).inConflict r = db.inConflict r
  | .updateEvent id data => ∀ r ∈ db.flagRows,
      (db.withEvents (db.events.map fun e => if e.id == id then data.apply e else e)).inConflict r =
        db.inConflict r
  | .deleteEvent id => ∀ r ∈ db.flagRows, r.eventId ≠ id →
      (db.withEvents (db.events.filter fun e => !(e.id == id))).inConflict r = db.inConflict r
  | .bulkDeleteEvents ids => ∀ r ∈ db.flagRows, r.eventId ∉ ids →
      (db.withEvents (db.events.filter fun e => !ids.contains e.id)).inConflict r = db.inConflict r
  | .applyTemplateToEvent eventId templateId => db.templateById templateId ≠ none → ∀ r ∈ db.flagRows,
      (db.withEvents (db.events.map fun e =>
        if e.id == eventId then { e with templateId := some templateId } else e)).inConflict r =
          db.inConflict r
  | .generateEvents now templateId occurrences createdById startFrom =>
    ∀ template weekDay, db.templateById templateId = some template → template.weekDay = some weekDay →
      let dates := computeDatesForWeekdayCount rt weekDay occurrences (startFrom.getD now)
      ∀ date ∈ dates, (∀ e ∈ db.events, e.templateId = some templateId →
          dates.head?.getD now ≤ e.startDate →
            toDateString rt e.startDate timezone ≠ toDateString rt date timezone) →
        db.HarmlessFrom rt timezone template createdById date
  | .createSingleEvent templateId date createdById =>
    ∀ template, db.templateById templateId = some template →
      (∀ e ∈ db.events, e.templateId = some templateId →
        ¬(startOfLocalDay rt date ≤ e.startDate ∧ e.startDate ≤ endOfLocalDay rt date)) →
      db.HarmlessFrom rt timezone template createdById date
  | _ => True

/-! ## New events and rows -/

section Growth

variable {rt : Runtime} {timezone : String} {db s s' : EventDb} {eventId createdById : Nat}
  {template : TemplateWithRelations} {date : Instant} {event : Event}

theorem EventDb.WellFormed.copyPart (h : s.WellFormed) {row : TemplatePart → Nat → EventPart}
    (hid : ∀ part n, (row part n).id = n) (hrow : ∀ part n, (row part n).eventId = eventId)
    (hevent : ∃ e ∈ s.events, e.id = eventId) (part : TemplatePart) :
    (s.copyPart row part).WellFormed where
  events := h.events
  parts := h.parts.append_next h.partIds (hid _ _)
  services := h.services
  eventIds := h.eventIds
  partIds := lt_append_next h.partIds (hid _ _)
  serviceIds := h.serviceIds
  partEvents := by
    intro p hp
    rcases List.mem_append.mp hp with hold | hnew
    · exact h.partEvents p hold
    · rw [List.mem_singleton.mp hnew, hrow]
      exact hevent
  serviceEvents := h.serviceEvents

theorem EventDb.WellFormed.copyServicePart (h : s.WellFormed)
    {row : TemplateServicePart → Nat → EventServicePart} (hid : ∀ role n, (row role n).id = n)
    (hrow : ∀ role n, (row role n).eventId = eventId) (hevent : ∃ e ∈ s.events, e.id = eventId)
    (role : TemplateServicePart) : (s.copyServicePart row role).WellFormed where
  events := h.events
  parts := h.parts
  services := h.services.append_next h.serviceIds (hid _ _)
  eventIds := h.eventIds
  partIds := h.partIds
  serviceIds := lt_append_next h.serviceIds (hid _ _)
  partEvents := h.partEvents
  serviceEvents := by
    intro x hx
    rcases List.mem_append.mp hx with hold | hnew
    · exact h.serviceEvents x hold
    · rw [List.mem_singleton.mp hnew, hrow]
      exact hevent

/-- The two loops keep the keys. -/
theorem EventDb.WellFormed.instantiate (h : s.WellFormed) {row : TemplatePart → Nat → EventPart}
    {serviceRow : TemplateServicePart → Nat → EventServicePart}
    (hid : ∀ part n, (row part n).id = n) (hrow : ∀ part n, (row part n).eventId = eventId)
    (hserviceId : ∀ role n, (serviceRow role n).id = n)
    (hserviceRow : ∀ role n, (serviceRow role n).eventId = eventId)
    (hevent : ∃ e ∈ s.events, e.id = eventId) : (s.instantiate template row serviceRow).WellFormed := by
  have hparts : ∀ (xs : List TemplatePart) (s : EventDb), s.WellFormed →
      (∃ e ∈ s.events, e.id = eventId) → (xs.foldl (·.copyPart row) s).WellFormed ∧
        ∃ e ∈ (xs.foldl (·.copyPart row) s).events, e.id = eventId := by
    intro xs
    induction xs with
    | nil => exact fun s h hevent => ⟨h, hevent⟩
    | cons x xs ih => exact fun s h hevent => ih _ (h.copyPart hid hrow hevent x) hevent
  have hservices : ∀ (xs : List TemplateServicePart) (s : EventDb), s.WellFormed →
      (∃ e ∈ s.events, e.id = eventId) → (xs.foldl (·.copyServicePart serviceRow) s).WellFormed := by
    intro xs
    induction xs with
    | nil => exact fun s h _ => h
    | cons x xs ih =>
      exact fun s h hevent => ih _ (h.copyServicePart hserviceId hserviceRow hevent x) hevent
  obtain ⟨hmiddle, hevent⟩ := hparts template.parts s h hevent
  exact hservices template.serviceParts _ hmiddle hevent

/-- A row nobody fills. -/
def FlagRow.Blank (r : FlagRow) : Prop := r.participants = [] ∧ r.hasConflict = false

/-- A new row is blank, or an old one. -/
theorem rows_instantiate {row : TemplatePart → Nat → EventPart}
    {serviceRow : TemplateServicePart → Nat → EventServicePart}
    (hrow : ∀ part n, (row part n).flagRow.Blank) (hserviceRow : ∀ role n, (serviceRow role n).flagRow.Blank)
    {r : FlagRow} (hr : r ∈ (s.instantiate template row serviceRow).flagRows) :
    r.Blank ∨ r ∈ s.flagRows := by
  obtain ⟨parts, services, hparts, hservices, hmade, hserviceMade, _⟩ :=
    @instantiate_adds s template row serviceRow
  rcases mem_flagRows.mp hr with ⟨p, hp, rfl⟩ | ⟨x, hx, rfl⟩
  · rw [hparts] at hp
    rcases List.mem_append.mp hp with hold | hnew
    · exact .inr (mem_flagRows.mpr (.inl ⟨p, hold, rfl⟩))
    · obtain ⟨part, n, rfl⟩ := hmade p hnew
      exact .inl (hrow part n)
  · rw [hservices] at hx
    rcases List.mem_append.mp hx with hold | hnew
    · exact .inr (mem_flagRows.mpr (.inr ⟨x, hold, rfl⟩))
    · obtain ⟨role, n, rfl⟩ := hserviceMade x hnew
      exact .inl (hserviceRow role n)

/-- The store has grown by events that put no row into conflict, and by blank rows. -/
structure Grows (db s : EventDb) : Prop where
  absences : SameAbsences db s
  wellFormed : s.WellFormed
  events : ∃ added, s.events = db.events ++ added ∧ ∀ x ∈ added, ∀ r ∈ db.flagRows,
    db.Harmless x.createdById x.startDate x.endDate r ∨ db.isDayOff x = false
  rows : ∀ r ∈ s.flagRows, r.Blank ∨ r ∈ db.flagRows

theorem Grows.refl (h : db.WellFormed) : Grows db db :=
  ⟨⟨rfl, rfl⟩, h, ⟨[], (List.append_nil _).symm, by simp⟩, fun _ hr => .inr hr⟩

theorem Grows.truthful (hgrows : Grows db s) (h : db.WellFormed) (ht : db.Truthful) : s.Truthful := by
  obtain ⟨added, hevents, hharmless⟩ := hgrows.events
  refine truthful_of ht fun r hr => ?_
  rcases hgrows.rows r hr with hblank | hold
  · refine .inl ?_
    rw [hblank.2, inConflict_nobody hblank.1]
  · obtain ⟨ev, hev⟩ := h.event hold
    refine .inr ⟨hold, inConflict_append hgrows.absences hevents hev fun x hx m hm habsent => ?_⟩
    obtain ⟨hcreator, hdayOff, hstart, hend⟩ := makesAbsent_iff.mp habsent
    rcases hharmless x hx r hold with hharmless | hno
    · exact hharmless ev hev m hm hcreator hstart hend
    · rw [hno] at hdayOff
      exact absurd hdayOff Bool.false_ne_true

/-- **One generated event.** -/
theorem Grows.generate (hgrows : Grows db s)
    (h : (createEventWithAssignments rt template date createdById timezone).exec s = (.ok event, s'))
    (hharmless : db.HarmlessFrom rt timezone template.template createdById date) : Grows db s' := by
  obtain ⟨hid, ⟨_, htemplate, hcreator⟩, rfl⟩ := createEventWithAssignments_ok h
  have htimes := createEventWithAssignments_times h
  have hcreated := hgrows.wellFormed.createEvent hid
  obtain ⟨parts, services, _, _, _, _, hevents, hdirectory, htemplates⟩ :=
    @instantiate_adds (s.createEvent fun _ => event) template (generatedPart event.id)
      (generatedServicePart event.id)
  refine ⟨⟨hdirectory.trans hgrows.absences.directory, htemplates.trans hgrows.absences.templates⟩,
    hcreated.instantiate (fun _ _ => rfl) (fun _ _ => rfl) (fun _ _ => rfl) (fun _ _ => rfl)
      ⟨event, List.mem_append_right _ (List.mem_singleton_self _), rfl⟩, ?_, fun r hr => ?_⟩
  · obtain ⟨added, hadded, hall⟩ := hgrows.events
    refine ⟨added ++ [event], ?_, fun x hx r hr => ?_⟩
    · rw [hevents]
      show s.events ++ [event] = _
      rw [hadded, List.append_assoc]
    · rcases List.mem_append.mp hx with hold | hnew
      · exact hall x hold r hr
      · rw [List.mem_singleton.mp hnew]
        cases hdayOff : db.isDayOff event with
        | false => exact .inr rfl
        | true =>
          refine .inl ?_
          rw [hcreator]
          refine hharmless ?_ _ _ htimes r hr
          obtain ⟨t, ht, hboth⟩ := List.any_eq_true.mp hdayOff
          obtain ⟨hsame, hkey⟩ := (Bool.and_eq_true _ _).mp hboth
          rw [htemplate, beq_iff_eq, Option.some.injEq] at hsame
          refine List.any_eq_true.mpr ⟨t, ht, ?_⟩
          rw [← hsame, beq_self_eq_true, hkey]
          rfl
  · rcases rows_instantiate (fun _ _ => ⟨rfl, rfl⟩) (fun _ _ => ⟨rfl, rfl⟩) hr with hblank | hold
    · exact .inl hblank
    · exact hgrows.rows r hold

theorem loadTemplate_some {templateId : Nat} (h : db.loadTemplate templateId = some template) :
    db.templateById templateId = some template.template := by
  obtain ⟨t, ht, rfl⟩ := Option.map_eq_some_iff.mp h
  exact ht

/-- **The generation loop.** -/
theorem generateEvents_grows (hdb : db.WellFormed) {now : Instant} {templateId occurrences : Nat}
    {startFrom : Option Instant} {created : List Event}
    (h : (generateEventsFromTemplate rt now templateId occurrences createdById timezone startFrom).exec
      db = (.ok created, s))
    (hkept : (FlagStep.generateEvents now templateId occurrences createdById startFrom).Kept rt
      timezone db) : Grows db s := by
  unfold generateEventsFromTemplate at h
  rw [Tx.exec_bind_get] at h
  cases hload : db.loadTemplate templateId with
  | none =>
    rw [hload] at h
    rw [(Tx.exec_pure_ok.mp h).2]
    exact Grows.refl hdb
  | some template =>
    simp only [hload] at h
    cases hweekDay : template.template.weekDay with
    | none =>
      rw [hweekDay] at h
      rw [(Tx.exec_pure_ok.mp h).2]
      exact Grows.refl hdb
    | some weekDay =>
      simp only [hweekDay] at h
      have hguard := hkept template.template weekDay (loadTemplate_some hload) hweekDay
      refine Tx.foldlM_invariant (I := fun _ s => Grows db s) h (Grows.refl hdb) ?_
      intro date hdate created s created' s' hgrows hturn
      split at hturn
      · rw [(Tx.exec_pure_ok.mp hturn).2]
        exact hgrows
      · next hnew =>
        obtain ⟨event, s₁, hcreate, hdone⟩ := Tx.exec_bind_ok.mp hturn
        rw [(Tx.exec_pure_ok.mp hdone).2]
        refine hgrows.generate hcreate (hguard date hdate fun e he htemplate hfrom hsame => hnew ?_)
        rw [List.contains_iff_mem, List.mem_map]
        refine ⟨e, List.mem_filter.mpr ⟨he, ?_⟩, hsame⟩
        simp only [htemplate, beq_self_eq_true, Bool.true_and, decide_eq_true_iff]
        exact hfrom

theorem createSingleEvent_grows (hdb : db.WellFormed) {templateId : Nat} {created : Option Event}
    (h : (createSingleEventFromTemplate rt templateId date createdById timezone).exec db =
      (.ok created, s))
    (hkept : (FlagStep.createSingleEvent templateId date createdById).Kept rt timezone db) :
    Grows db s := by
  unfold createSingleEventFromTemplate at h
  rw [Tx.exec_bind_get] at h
  cases hload : db.loadTemplate templateId with
  | none =>
    rw [hload] at h
    rw [(Tx.exec_pure_ok.mp h).2]
    exact Grows.refl hdb
  | some template =>
    simp only [hload] at h
    split at h
    · rw [(Tx.exec_pure_ok.mp h).2]
      exact Grows.refl hdb
    · next hnew =>
      obtain ⟨event, s₁, hcreate, hdone⟩ := Tx.exec_bind_ok.mp h
      rw [(Tx.exec_pure_ok.mp hdone).2]
      refine (Grows.refl hdb).generate hcreate (hkept template.template (loadTemplate_some hload) ?_)
      intro e he htemplate hday
      refine hnew (List.any_eq_true.mpr ⟨e, he, ?_⟩)
      simp only [htemplate, beq_self_eq_true, Bool.true_and, hday.1, hday.2, decide_true]

/-- What a template applied to an event leaves. -/
theorem applyTemplate_truthful (hdb : db.WellFormed) (ht : db.Truthful) {templateId : Nat}
    {applied : Option EventTemplate}
    (h : (applyTemplateToEvent eventId templateId).exec db = (.ok applied, s))
    (hkept : (FlagStep.applyTemplateToEvent eventId templateId).Kept rt timezone db) :
    s.WellFormed ∧ s.Truthful := by
  cases applied with
  | none =>
    rw [applyTemplateToEvent_none h]
    exact ⟨hdb, ht⟩
  | some t =>
    obtain ⟨template, hload, hevent, rfl⟩ := applyTemplateToEvent_ok h
    have hpresent : db.templateById templateId ≠ none := by
      rw [loadTemplate_some hload]
      exact Option.some_ne_none _
    have hupdated : (db.updateEvents (fun e => e.id == eventId)
        fun e => { e with templateId := some templateId }).WellFormed :=
      hdb.updateEvents _ fun _ => rfl
    have htrue : EventDb.Truthful _ := truthful_updateEvents ht (hkept hpresent)
    obtain ⟨parts, services, _, _, _, _, hevents, hdirectory, htemplates⟩ :=
      @instantiate_adds (db.updateEvents (fun e => e.id == eventId)
        fun e => { e with templateId := some templateId }) template (appliedPart eventId)
        (appliedServicePart eventId)
    refine ⟨hupdated.instantiate (fun _ _ => rfl) (fun _ _ => rfl) (fun _ _ => rfl) (fun _ _ => rfl) ?_,
      truthful_of htrue fun r hr => ?_⟩
    · obtain ⟨e, he⟩ := Option.ne_none_iff_exists'.mp hevent
      obtain ⟨hmem, hid⟩ := hdb.events.find?_eq_some.mp he
      refine ⟨_, List.mem_map_of_mem hmem, ?_⟩
      show (if e.id == eventId then _ else e).id = eventId
      split
      · exact hid
      · exact hid
    · rcases rows_instantiate (fun _ _ => ⟨rfl, rfl⟩) (fun _ _ => ⟨rfl, rfl⟩) hr with hblank | hold
      · refine .inl ?_
        rw [hblank.2, inConflict_nobody hblank.1]
      · exact .inr ⟨hold, inConflict_congr ⟨hdirectory, htemplates⟩ hevents⟩

end Growth

/-! ## One step -/

section Step

variable {rt : Runtime} {timezone : String} {db s s' : EventDb} {accountId eventId : Nat}

/-- What a day off that goes through writes. -/
theorem createDayOff_ok {memberId : Option Nat} {startDate endDate : Option Instant}
    {out : Option Event} (h : (createDayOff accountId memberId startDate endDate).exec db = (.ok out, s)) :
    s = db ∨ ∃ start finish x, startDate = some start ∧ endDate = some finish ∧ start ≤ finish ∧
      x.id = db.nextEventId ∧ x.startDate = start ∧ x.endDate = finish ∧ x.createdById = accountId ∧
      s = memberId.elim (db.createEvent fun _ => x) fun memberId =>
        refreshConflictFlags memberId start finish (db.createEvent fun _ => x) := by
  unfold createDayOff at h
  rw [Tx.exec_bind_get] at h
  cases startDate with
  | none => exact .inl (Tx.exec_pure_ok.mp h).2
  | some start =>
    cases endDate with
    | none => exact .inl (Tx.exec_pure_ok.mp h).2
    | some finish =>
      simp only at h
      split at h
      · exact .inl (Tx.exec_pure_ok.mp h).2
      · next hle =>
        cases htemplate : db.templateByKey dayOffKey with
        | none =>
          rw [htemplate] at h
          cases congrArg Prod.fst h
        | some dayOffTemplate =>
          simp only [htemplate] at h
          rw [Tx.exec_bind_check_ok] at h
          obtain ⟨_, _, h⟩ := h
          rw [Tx.exec_bind_modify, Tx.exec_bind_modify] at h
          have hs := (Tx.exec_pure_ok.mp h).2
          exact .inr ⟨start, finish, _, rfl, rfl, Int.not_lt.mp hle, rfl, rfl, rfl, rfl, hs⟩

theorem deleteDayOff_ok {memberId : Option Nat} {x : Event}
    (h : (deleteDayOff eventId memberId).exec db = (.ok x, s)) :
    db.eventById eventId = some x ∧
      s = memberId.elim (db.deleteEvents fun e => e.id == eventId) fun memberId =>
        refreshConflictFlags memberId x.startDate x.endDate (db.deleteEvents fun e => e.id == eventId) := by
  unfold deleteDayOff at h
  rw [Tx.exec_bind_get] at h
  cases hevent : db.eventById eventId with
  | none =>
    rw [hevent] at h
    cases congrArg Prod.fst h
  | some event =>
    simp only [hevent] at h
    rw [Tx.exec_bind_modify, Tx.exec_bind_modify] at h
    obtain ⟨rfl, hs⟩ := Tx.exec_pure_ok.mp h
    exact ⟨rfl, hs⟩

/-- The policy lets through only an event none of whose rows is flagged. -/
theorem releases_clear
    (h : (do
      assertCanRelease (db.eventParts.filter (·.eventId == eventId))
        (db.eventServiceParts.filter (·.eventId == eventId))
      return s) = (.ok s' : Except String EventDb)) :
    ∀ r ∈ db.flagRows, r.eventId = eventId → r.hasConflict = false := by
  intro r hr hevent
  rw [Tx.bind_eq_ok, Tx.exists_unit] at h
  have hclear := h.1
  unfold assertCanRelease at hclear
  rw [Tx.refuseWhen_ok, Bool.or_eq_true, List.any_eq_true, List.any_eq_true] at hclear
  cases hflag : r.hasConflict with
  | false => rfl
  | true =>
    refine absurd ?_ hclear
    rcases mem_flagRows.mp hr with ⟨p, hp, rfl⟩ | ⟨x, hx, rfl⟩
    · exact .inl ⟨p, List.mem_filter.mpr ⟨hp, beq_iff_eq.mpr hevent⟩, hflag⟩
    · exact .inr ⟨x, List.mem_filter.mpr ⟨hx, beq_iff_eq.mpr hevent⟩, hflag⟩

/-- A release writes the status, or nothing. -/
theorem releaseEvent_ok (h : releaseEvent db eventId = some (.ok s)) :
    s = db ∨ s = db.updateEvents (fun e => e.id == eventId) fun e => { e with status := .released } := by
  obtain ⟨event, _, hrelease⟩ := Option.map_eq_some_iff.mp h
  split at hrelease
  · exact .inl (Except.ok.inj hrelease).symm
  · rw [Tx.bind_eq_ok, Tx.exists_unit] at hrelease
    exact .inr (Except.ok.inj hrelease.2).symm

/-- The keys, and the truth of the flags. -/
def EventDb.Sound (db : EventDb) : Prop := db.WellFormed ∧ db.Truthful

theorem EventDb.Sound.createDayOff (h : db.Sound) {startDate endDate : Option Instant}
    (hkept : (FlagStep.createDayOff accountId startDate endDate).Kept rt timezone db) :
    (FlagStep.apply rt timezone db (.createDayOff accountId startDate endDate)).Sound := by
  rcases Tx.settle_uncaught (Events.createDayOff accountId (db.accountMember accountId) startDate endDate)
    db with ⟨out, hexec⟩ | hsame
  · rcases createDayOff_ok hexec with hsame | ⟨start, finish, x, rfl, rfl, hle, hid, hstart, hend, hby, hs⟩
    · show EventDb.Sound (Tx.settle _ _ _)
      rw [hsame]
      exact h
    · show EventDb.Sound (Tx.settle _ _ _)
      rw [hs]
      have hcreated := h.1.createEvent hid
      cases hmember : db.accountMember accountId with
      | none =>
        rw [← hby] at hmember
        refine ⟨hcreated, truthful_of h.2 fun r hr => .inr ⟨hr, ?_⟩⟩
        obtain ⟨ev, hev⟩ := h.1.event (show r ∈ db.flagRows from hr)
        have hevents : (db.createEvent fun _ => x).events = db.events ++ [x] := rfl
        refine inConflict_append ⟨rfl, rfl⟩ hevents hev fun y hy m _ habsent => ?_
        rw [List.mem_singleton.mp hy, makesAbsent_nobody hmember] at habsent
        exact absurd habsent Bool.false_ne_true
      | some memberId =>
        have hreflags := @refreshConflictFlags_reflags _ memberId start finish hcreated
        refine ⟨hcreated.reflag hreflags, truthful_createDayOff h.1 h.2 hid ⟨hstart, hend⟩ ?_ ?_⟩
        · rw [hby]
          exact hmember
        · rw [hby]
          exact hkept hle
  · show EventDb.Sound (Tx.settle _ _ _)
    rw [hsame]
    exact h

theorem EventDb.Sound.deleteDayOff (h : db.Sound)
    (hkept : (FlagStep.deleteDayOff accountId eventId).Kept rt timezone db) :
    (FlagStep.apply rt timezone db (.deleteDayOff accountId eventId)).Sound := by
  show EventDb.Sound (Tx.settle _ _ _)
  rcases Tx.settle_uncaught (deleteOwnDayOff accountId eventId db) db with ⟨out, hexec⟩ | hsame
  · revert hexec
    generalize (deleteOwnDayOff accountId eventId db).settle _ db = s
    intro hexec
    unfold deleteOwnDayOff at hexec
    cases hevent : db.eventById eventId with
    | none =>
      rw [hevent] at hexec
      rw [(Tx.exec_pure_ok.mp hexec).2]
      exact h
    | some event =>
      simp only [hevent] at hexec
      split at hexec
      · next howner =>
        obtain ⟨x, s₁, hdelete, hdone⟩ := Tx.exec_bind_ok.mp hexec
        rw [(Tx.exec_pure_ok.mp hdone).2]
        obtain ⟨hx, hs⟩ := deleteDayOff_ok hdelete
        rw [hevent] at hx
        rw [← Option.some.inj hx] at hs
        obtain ⟨hmem, hid⟩ := h.1.events.find?_eq_some.mp hevent
        have hguard := hkept ⟨event, hevent, howner⟩
        rw [← hid] at hs hguard
        rw [hs]
        have hdeleted := h.1.deleteEvents fun e => e.id == event.id
        cases hmember : db.accountMember accountId with
        | none =>
          rw [← howner] at hmember
          refine ⟨hdeleted, truthful_of h.2 fun r hr => ?_⟩
          obtain ⟨hin, hother⟩ := @survives_iff _ h.1 (fun id => id == event.id) r hr
          obtain ⟨ev, hev⟩ := h.1.event hin
          refine .inr ⟨hin, inConflict_deleteEvent h.1 hmem hev (ne_of_beq_false hother) fun m _ => ?_⟩
          exact makesAbsent_nobody hmember m _ _
        | some memberId =>
          have hreflags := @refreshConflictFlags_reflags _ memberId event.startDate event.endDate hdeleted
          refine ⟨hdeleted.reflag hreflags, truthful_deleteDayOff h.1 h.2 hmem ?_ hguard⟩
          rw [howner]
          exact hmember
      · rw [(Tx.exec_pure_ok.mp hexec).2]
        exact h
  · rw [hsame]
    exact h

/-- A release or its withdrawal leaves the flags and their meaning. -/
theorem EventDb.Sound.status (h : db.Sound) (id : Nat) (status : EventStatus) :
    (db.updateEvents (fun e => e.id == id) fun e => { e with status := status }).Sound :=
  ⟨h.1.updateEvents _ fun _ => rfl, truthful_of h.2 fun r hr => .inr ⟨hr, inConflict_status r⟩⟩

/-- Clearing the slots of a row clears its flag. -/
theorem EventDb.Sound.clearPart (h : db.Sound) {id : Nat} {data : EventPart → EventPart}
    (hid : ∀ p, (data p).id = p.id) (hevent : ∀ p, (data p).eventId = p.eventId)
    (hblank : ∀ p, (data p).flagRow.Blank) : (db.updateParts (fun p => p.id == id) data).Sound := by
  refine ⟨h.1.updateParts _ hid hevent, truthful_updateParts h.2 fun p _ _ => ?_⟩
  rw [inConflict_nobody (hblank p).1]
  exact (hblank p).2

theorem EventDb.Sound.clearService (h : db.Sound) {id : Nat} {data : EventServicePart → EventServicePart}
    (hid : ∀ s, (data s).id = s.id) (hevent : ∀ s, (data s).eventId = s.eventId)
    (hblank : ∀ s, (data s).flagRow.Blank) :
    (db.updateServiceParts (fun s => s.id == id) data).Sound := by
  refine ⟨h.1.updateServiceParts _ hid hevent, truthful_updateServiceParts h.2 fun s _ _ => ?_⟩
  rw [inConflict_nobody (hblank s).1]
  exact (hblank s).2

/-- **The assignment check decides the flag of its row.** -/
theorem EventDb.Sound.assignPart (h : db.Sound) {id : Nat} {params : AssignPartParams} {previous : PartAssignees}
    (hassign : Events.assignPart db id params = .ok (previous, s)) : s.Sound := by
  obtain ⟨part, event, data, hrow, rfl, hdata⟩ := assignPart_ok hassign
  refine ⟨h.1.updateParts _ (fun p => (hdata p).1) fun p => (hdata p).2.1,
    truthful_updateParts h.2 fun p hp hid => ?_⟩
  have hev := partWithEvent_some h.1 hrow p hp hid
  rw [← (hdata p).2.1] at hev
  rw [(hdata p).2.2, inConflict_part hev]
  simp only [List.any_cons, List.any_nil, Bool.or_false]

theorem EventDb.Sound.assignServicePart (h : db.Sound) {id : Nat} {assigneeId previous : Option Nat}
    (hassign : Events.assignServicePart db id assigneeId = .ok (previous, s)) : s.Sound := by
  obtain ⟨service, event, data, hrow, rfl, hdata⟩ := assignServicePart_ok hassign
  refine ⟨h.1.updateServiceParts _ (fun s => (hdata s).1) fun s => (hdata s).2.1,
    truthful_updateServiceParts h.2 fun x hx hid => ?_⟩
  have hev := servicePartWithEvent_some h.1 hrow x hx hid
  rw [← (hdata x).2.1] at hev
  rw [(hdata x).2.2, inConflict_service hev]

/-- **One step** keeps the keys and the truth of the flags. -/
theorem FlagStep.sound (step : FlagStep) (h : db.Sound) (hkept : step.Kept rt timezone db) :
    (step.apply rt timezone db).Sound := by
  cases step with
  | assignPart id params =>
    unfold FlagStep.apply
    simp only
    cases hassign : Events.assignPart db id params with
    | error message => exact h
    | ok outcome => exact h.assignPart hassign
  | assignServicePart id assigneeId =>
    unfold FlagStep.apply
    simp only
    cases hassign : Events.assignServicePart db id assigneeId with
    | error message => exact h
    | ok outcome => exact h.assignServicePart hassign
  | unassignPart id =>
    show EventDb.Sound (((Option.map _ (db.partById id)).map _).getD db)
    cases db.partById id with
    | none => exact h
    | some existing => exact h.clearPart (fun _ => rfl) (fun _ => rfl) fun _ => ⟨rfl, rfl⟩
  | unassignServicePart id =>
    show EventDb.Sound (((Option.map _ (db.servicePartById id)).map _).getD db)
    cases db.servicePartById id with
    | none => exact h
    | some existing => exact h.clearService (fun _ => rfl) (fun _ => rfl) fun _ => ⟨rfl, rfl⟩
  | createDayOff accountId startDate endDate => exact h.createDayOff hkept
  | deleteDayOff accountId eventId => exact h.deleteDayOff hkept
  | updateEvent id data =>
    show EventDb.Sound (Tx.settle _ _ _)
    rcases Tx.settle_uncaught (Events.updateEvent id data) db with ⟨out, hexec⟩ | hsame
    · obtain ⟨_, hs⟩ := Tx.exec_check_modify_ok.mp hexec
      rw [hs]
      exact ⟨h.1.updateEvents _ fun _ => rfl, truthful_updateEvents h.2 hkept⟩
    · rw [hsame]
      exact h
  | deleteEvent id =>
    show EventDb.Sound (Tx.settle _ _ _)
    rcases Tx.settle_uncaught (Events.deleteEvent id) db with ⟨out, hexec⟩ | hsame
    · obtain ⟨_, hs⟩ := Tx.exec_check_modify_ok.mp hexec
      rw [hs]
      refine ⟨h.1.deleteEvents _, @truthful_deleteEvents db h.1 h.2 (fun e => e == id) fun r hr hother => ?_⟩
      exact hkept r hr (ne_of_beq_false hother)
    · rw [hsame]
      exact h
  | bulkDeleteEvents ids =>
    refine ⟨h.1.deleteEvents _, @truthful_deleteEvents db h.1 h.2 ids.contains fun r hr hother => ?_⟩
    refine hkept r hr fun hin => ?_
    rw [List.contains_iff_mem.mpr hin] at hother
    exact Bool.false_ne_true hother.symm
  | applyTemplateToEvent eventId templateId =>
    show EventDb.Sound (Tx.settle _ _ _)
    rcases Tx.settle_uncaught (Events.applyTemplateToEvent eventId templateId) db with ⟨out, hexec⟩ | hsame
    · exact applyTemplate_truthful h.1 h.2 hexec hkept
    · rw [hsame]
      exact h
  | generateEvents now templateId occurrences createdById startFrom =>
    show EventDb.Sound (Tx.settle _ _ _)
    rcases Tx.settle_uncaught (generateEventsFromTemplate rt now templateId occurrences createdById timezone
      startFrom) db with ⟨out, hexec⟩ | hsame
    · have hgrows := generateEvents_grows h.1 hexec hkept
      exact ⟨hgrows.wellFormed, hgrows.truthful h.1 h.2⟩
    · rw [hsame]
      exact h
  | createSingleEvent templateId date createdById =>
    show EventDb.Sound (Tx.settle _ _ _)
    rcases Tx.settle_uncaught (createSingleEventFromTemplate rt templateId date createdById timezone) db with
      ⟨out, hexec⟩ | hsame
    · have hgrows := createSingleEvent_grows h.1 hexec hkept
      exact ⟨hgrows.wellFormed, hgrows.truthful h.1 h.2⟩
    · rw [hsame]
      exact h
  | releaseEvent eventId =>
    unfold FlagStep.apply
    simp only
    split
    · next hrelease =>
      rcases releaseEvent_ok hrelease with hsame | hs
      · rw [hsame]
        exact h
      · rw [hs]
        exact h.status eventId .released
    · exact h
  | unreleaseEvent eventId =>
    show EventDb.Sound ((Option.map _ (db.eventById eventId)).getD db)
    cases db.eventById eventId with
    | none => exact h
    | some event =>
      show EventDb.Sound (if event.status = .draft then db else _)
      split
      · exact h
      · exact h.status eventId .draft

end Step

/-! ## Runs -/

section Runs

variable {rt : Runtime} {timezone : String} {start s : EventDb}

/-- **The flags tell the truth in every run** whose steps leave what the unrefreshed rows mean, and so
no release lets an event through with an absent participant. -/
theorem flags_true (hkeys : start.WellFormed) (hstart : start.Truthful)
    (hreach : Reach (FlagStep.apply rt timezone) (fun db step => step.Kept rt timezone db) start s) :
    (∀ r ∈ s.flagRows, r.hasConflict = s.inConflict r) ∧
      ∀ eventId event s', s.eventById eventId = some event → event.status = .draft →
        releaseEvent s eventId = some (.ok s') →
          ∀ r ∈ s.flagRows, r.eventId = eventId → s.inConflict r = false := by
  have hsound : s.Sound := by
    refine hreach.invariant (I := EventDb.Sound) ⟨hkeys, hstart⟩ ?_
    intro db step h hkept
    exact step.sound h hkept
  refine ⟨hsound.2, fun eventId event s' hevent hdraft hrelease r hr hrow => ?_⟩
  rw [← hsound.2 r hr]
  unfold releaseEvent at hrelease
  rw [hevent, Option.map_some, hdraft, if_neg (by decide)] at hrelease
  exact (releases_clear (Option.some.inj hrelease)) r hr hrow

end Runs

/-! ## A meeting moved onto an absence -/

/-- Member 7, whose account is 1, takes part in the meeting of day 0 and is away on day 1. -/
def awayTomorrow : EventDb :=
  { EventDb.empty with
    directory := { EventDb.empty.directory with
      accounts := [⟨1, some 7, none, none, "a", true, none⟩] }
    templates := [⟨1, "Absence", dayOffKey, none, "00:00", "00:00"⟩,
      ⟨2, "Meeting", "midweek", none, "00:00", "00:00"⟩]
    events := [⟨1, "Absence", 100, 200, .released, some 1, 1⟩, ⟨2, "Meeting", 10, 20, .draft, some 2, 1⟩]
    eventParts := [{ blankPart 2 1 with assigneeId := some 7 }]
    nextEventId := 3
    nextEventPartId := 2 }

/-- Its dates are changed; the flag is not. -/
def moveMeeting : FlagStep := .updateEvent 2 ⟨none, some 110, some 120⟩

/-- Moved onto the absence, the meeting is released with its speaker away. -/
theorem moveMeeting_hides_absence :
    ¬∀ s, Reach (FlagStep.apply .utc "UTC") (fun _ _ => True) awayTomorrow s →
      (∀ r ∈ s.flagRows, r.hasConflict = s.inConflict r) ∧
        ∀ eventId event s', s.eventById eventId = some event → event.status = .draft →
          releaseEvent s eventId = some (.ok s') →
            ∀ r ∈ s.flagRows, r.eventId = eventId → s.inConflict r = false := by
  intro h
  have hflags := (h _ (Reach.one (a := moveMeeting) trivial)).1
  revert hflags
  decide +kernel

/-- An absence over the meeting: the refresh flags the part. -/
def newAbsence : FlagStep := .createDayOff 1 (some 15) (some 16)

theorem awayTomorrow_wellFormed : awayTomorrow.WellFormed := by
  constructor <;> decide

/-- No row is on a day off, so the refresh reaches all of them. -/
theorem newAbsence_kept : newAbsence.Kept .utc "UTC" awayTomorrow := by
  intro _ r hr honDayOff
  obtain ⟨ev, hev, hdayOff⟩ := honDayOff
  rw [List.mem_singleton.mp hr] at hev
  rw [← Option.some.inj hev] at hdayOff
  exact absurd hdayOff (by decide +kernel)

/-- The run of that one step. -/
theorem flags_true_newAbsence :
    (∀ r ∈ (newAbsence.apply .utc "UTC" awayTomorrow).flagRows,
        r.hasConflict = (newAbsence.apply .utc "UTC" awayTomorrow).inConflict r) ∧
      ∀ eventId event s', (newAbsence.apply .utc "UTC" awayTomorrow).eventById eventId = some event →
        event.status = .draft →
          releaseEvent (newAbsence.apply .utc "UTC" awayTomorrow) eventId = some (.ok s') →
            ∀ r ∈ (newAbsence.apply .utc "UTC" awayTomorrow).flagRows, r.eventId = eventId →
              (newAbsence.apply .utc "UTC" awayTomorrow).inConflict r = false :=
  flags_true awayTomorrow_wellFormed (by unfold EventDb.Truthful; decide +kernel)
    (Reach.one (a := newAbsence) newAbsence_kept)

end Unitae.Events
