import Unitae.Events.Routes

/-!
# Unitae — template delegation stays inside its events

Someone who may act on an event only as the responsible of its template should change no other event.
The assignment routes pair the submitted row with the event of the URL, as the comment on
`assignmentBelongsToEvent` asks; the edit intents and the reordering select rows by id alone.
`delegated_iff` says what they must be given for a call to stay inside.
-/

namespace Unitae.Events

open Roles

/-! ## The law -/

/-- The caller is responsible for the template of the event. -/
def EventDb.isResponsible (db : EventDb) (userId : Nat) (scope : ResponsibilityScope) (eventId : Nat) :
    Bool :=
  (db.eventById eventId).any fun event => event.templateId.any fun templateId =>
    (isTemplateResponsible db templateId userId scope).isSome

/-- Between the two states the event, its part rows and its service rows are the same. -/
structure Untouched (db db' : EventDb) (eventId : Nat) : Prop where
  event : (db'.events.filter (·.id == eventId)) = db.events.filter (·.id == eventId)
  parts : (db'.eventParts.filter (·.eventId == eventId)) =
    db.eventParts.filter (·.eventId == eventId)
  services : (db'.eventServiceParts.filter (·.eventId == eventId)) =
    db.eventServiceParts.filter (·.eventId == eventId)

/-- Only events whose template the caller was responsible for have changed. -/
def OnlyDelegated (db db' : EventDb) (caller : Caller) (scope : ResponsibilityScope) : Prop :=
  ∀ eventId, db.isResponsible caller.id scope eventId = false → Untouched db db' eventId

/-! ## What a call writes -/

/-- From `db` to `db'` events other than `eventId` stay, part and service rows are rewritten or dropped
as the two functions say, and the rows added are the event's. -/
structure Rewrites (db db' : EventDb) (eventId : Nat) (part : EventPart → Option EventPart)
    (service : EventServicePart → Option EventServicePart) : Prop where
  partEvent : ∀ p q, part p = some q → q.eventId = p.eventId
  serviceEvent : ∀ s t, service s = some t → t.eventId = s.eventId
  events : ∀ other, other ≠ eventId →
    (db'.events.filter (·.id == other)) = db.events.filter (·.id == other)
  parts : ∃ added, db'.eventParts = db.eventParts.filterMap part ++ added ∧
    ∀ p ∈ added, p.eventId = eventId
  services : ∃ added, db'.eventServiceParts = db.eventServiceParts.filterMap service ++ added ∧
    ∀ s ∈ added, s.eventId = eventId

section Rewrites

variable {db db' : EventDb} {eventId : Nat} {part : EventPart → Option EventPart}
  {service : EventServicePart → Option EventServicePart} {caller : Caller} {scope : ResponsibilityScope}

theorem filter_added {α : Type} {key : α → Nat} {added : List α} {other : Nat}
    (hadded : ∀ a ∈ added, key a = eventId) (hother : other ≠ eventId) :
    added.filter (fun a => key a == other) = [] := by
  rw [List.filter_eq_nil_iff]
  intro a ha hsame
  exact hother ((beq_iff_eq.mp hsame).symm.trans (hadded a ha))

/-- **Another event is untouched exactly when the call rewrites none of its rows.** -/
theorem Rewrites.untouched_iff (h : Rewrites db db' eventId part service) {other : Nat}
    (hother : other ≠ eventId) : Untouched db db' other ↔
      (∀ p ∈ db.eventParts, p.eventId = other → part p = some p) ∧
        ∀ s ∈ db.eventServiceParts, s.eventId = other → service s = some s := by
  obtain ⟨parts, hparts, hpartsEvent⟩ := h.parts
  obtain ⟨services, hservices, hservicesEvent⟩ := h.services
  have hp : (db'.eventParts.filter (·.eventId == other)) =
      (db.eventParts.filterMap part).filter (·.eventId == other) := by
    rw [hparts, List.filter_append, filter_added hpartsEvent hother, List.append_nil]
  have hs : (db'.eventServiceParts.filter (·.eventId == other)) =
      (db.eventServiceParts.filterMap service).filter (·.eventId == other) := by
    rw [hservices, List.filter_append, filter_added hservicesEvent hother, List.append_nil]
  rw [← filter_filterMap_eq_iff h.partEvent, ← filter_filterMap_eq_iff h.serviceEvent, ← hp, ← hs]
  exact ⟨fun hsame => ⟨hsame.parts, hsame.services⟩,
    fun hsame => ⟨h.events other hother, hsame.1, hsame.2⟩⟩

/-- A call on an event the caller is responsible for stays inside exactly when every row it rewrites
belongs to such an event. -/
theorem Rewrites.onlyDelegated_iff (h : Rewrites db db' eventId part service)
    (hresponsible : db.isResponsible caller.id scope eventId = true) :
    OnlyDelegated db db' caller scope ↔
      (∀ p ∈ db.eventParts, db.isResponsible caller.id scope p.eventId = true ∨ part p = some p) ∧
        ∀ s ∈ db.eventServiceParts,
          db.isResponsible caller.id scope s.eventId = true ∨ service s = some s := by
  have hother : ∀ other, db.isResponsible caller.id scope other = false → other ≠ eventId := by
    intro other hnot hsame
    rw [hsame, hresponsible] at hnot
    exact Bool.noConfusion hnot
  constructor
  · intro honly
    refine ⟨fun p hp => ?_, fun s hs => ?_⟩
    · cases hcase : db.isResponsible caller.id scope p.eventId with
      | true => exact .inl rfl
      | false =>
        have huntouched := (h.untouched_iff (hother _ hcase)).mp (honly _ hcase)
        exact .inr (huntouched.1 p hp rfl)
    · cases hcase : db.isResponsible caller.id scope s.eventId with
      | true => exact .inl rfl
      | false =>
        have huntouched := (h.untouched_iff (hother _ hcase)).mp (honly _ hcase)
        exact .inr (huntouched.2 s hs rfl)
  · intro ⟨hparts, hservices⟩ other hnot
    refine (h.untouched_iff (hother other hnot)).mpr ⟨fun p hp hevent => ?_, fun s hs hevent => ?_⟩
    · refine (hparts p hp).resolve_left ?_
      rw [hevent, hnot]
      exact Bool.false_ne_true
    · refine (hservices s hs).resolve_left ?_
      rw [hevent, hnot]
      exact Bool.false_ne_true

end Rewrites

/-! ## The writers -/

/-- The event, part and service tables are the same. -/
structure SameRows (db db' : EventDb) : Prop where
  events : db'.events = db.events
  parts : db'.eventParts = db.eventParts
  services : db'.eventServiceParts = db.eventServiceParts

section Writers

variable {db db' s : EventDb} {eventId : Nat} {part : EventPart → Option EventPart}
  {service : EventServicePart → Option EventServicePart}

theorem SameRows.refl (db : EventDb) : SameRows db db := ⟨rfl, rfl, rfl⟩

theorem setServicePartAssignmentAllowedRoles_sameRows (eventServicePartId : Nat)
    (roleIds : List Nat) :
    Tx.Keeps (SameRows db) (setServicePartAssignmentAllowedRoles eventServicePartId roleIds) :=
  setServicePartAssignmentAllowedRoles_keeps (fun _ _ h => ⟨h.events, h.parts, h.services⟩)
    (fun _ _ h => ⟨h.events, h.parts, h.services⟩) eventServicePartId roleIds

theorem writePartAllowedRoles_sameRows (eventPartId : Nat) (desired : PartRoleSelection) :
    Tx.Keeps (SameRows db) (writePartAllowedRoles eventPartId desired) :=
  writePartAllowedRoles_keeps (fun _ _ h => ⟨h.events, h.parts, h.services⟩)
    (fun _ _ h => ⟨h.events, h.parts, h.services⟩) eventPartId desired

/-- Writing allowed roles afterwards rewrites no row. -/
theorem Rewrites.trans_same (h : Rewrites db s eventId part service) (hsame : SameRows s db') :
    Rewrites db db' eventId part service where
  partEvent := h.partEvent
  serviceEvent := h.serviceEvent
  events := by
    rw [hsame.events]
    exact h.events
  parts := by
    rw [hsame.parts]
    exact h.parts
  services := by
    rw [hsame.services]
    exact h.services

theorem Rewrites.refl (db : EventDb) (eventId : Nat) : Rewrites db db eventId some some where
  partEvent := fun _ _ h => by rw [Option.some.inj h]
  serviceEvent := fun _ _ h => by rw [Option.some.inj h]
  events := fun _ _ => rfl
  parts := ⟨[], by rw [List.filterMap_some, List.append_nil], by simp⟩
  services := ⟨[], by rw [List.filterMap_some, List.append_nil], by simp⟩

theorem rewrites_updateEvents (data : Event → Event) (hid : ∀ e, (data e).id = e.id) :
    Rewrites db (db.updateEvents (fun e => e.id == eventId) data) eventId some some where
  partEvent := (Rewrites.refl db eventId).partEvent
  serviceEvent := (Rewrites.refl db eventId).serviceEvent
  events := by
    intro other hother
    show (db.events.map _).filter _ = _
    rw [← List.filterMap_eq_map, filter_filterMap_eq_iff]
    · intro e _ hsame
      have hnot : ¬(e.id == eventId) = true := by
        rw [hsame]
        exact fun h => hother (beq_iff_eq.mp h)
      simp only [Function.comp, if_neg hnot]
    · intro e e' h
      rw [← Option.some.inj h]
      exact column_ite (hid e)
  parts := (Rewrites.refl db eventId).parts
  services := (Rewrites.refl db eventId).services

/-- New rows of the event after it was updated, or not. -/
theorem Rewrites.add (h : Rewrites db s eventId some some) {parts : List EventPart}
    {services : List EventServicePart} (hevents : db'.events = s.events)
    (hparts : db'.eventParts = s.eventParts ++ parts)
    (hservices : db'.eventServiceParts = s.eventServiceParts ++ services)
    (hpartsEvent : ∀ p ∈ parts, p.eventId = eventId)
    (hservicesEvent : ∀ x ∈ services, x.eventId = eventId) : Rewrites db db' eventId some some where
  partEvent := h.partEvent
  serviceEvent := h.serviceEvent
  events := by
    rw [hevents]
    exact h.events
  parts := by
    obtain ⟨added, hs, hadded⟩ := h.parts
    refine ⟨added ++ parts, by rw [hparts, hs, List.append_assoc], fun p hp => ?_⟩
    exact (List.mem_append.mp hp).elim (hadded p) (hpartsEvent p)
  services := by
    obtain ⟨added, hs, hadded⟩ := h.services
    refine ⟨added ++ services, by rw [hservices, hs, List.append_assoc], fun x hx => ?_⟩
    exact (List.mem_append.mp hx).elim (hadded x) (hservicesEvent x)

theorem rewrites_updateParts (sel : EventPart → Bool) (data : EventPart → EventPart)
    (hevent : ∀ p, (data p).eventId = p.eventId) :
    Rewrites db (db.updateParts sel data) eventId (fun p => some (if sel p then data p else p))
      some where
  partEvent := by
    intro p q h
    rw [← Option.some.inj h]
    exact column_ite (hevent p)
  serviceEvent := (Rewrites.refl db eventId).serviceEvent
  events := fun _ _ => rfl
  parts := by
    refine ⟨[], ?_, by simp⟩
    rw [List.append_nil]
    exact (congrFun List.filterMap_eq_map _).symm
  services := (Rewrites.refl db eventId).services

theorem rewrites_updateServiceParts (sel : EventServicePart → Bool)
    (data : EventServicePart → EventServicePart) (hevent : ∀ x, (data x).eventId = x.eventId) :
    Rewrites db (db.updateServiceParts sel data) eventId some
      (fun x => some (if sel x then data x else x)) where
  partEvent := (Rewrites.refl db eventId).partEvent
  serviceEvent := by
    intro x y h
    rw [← Option.some.inj h]
    exact column_ite (hevent x)
  events := fun _ _ => rfl
  parts := (Rewrites.refl db eventId).parts
  services := by
    refine ⟨[], ?_, by simp⟩
    rw [List.append_nil]
    exact (congrFun List.filterMap_eq_map _).symm

theorem rewrites_deleteParts (sel : EventPart → Bool) :
    Rewrites db (db.deleteParts sel) eventId (Option.guard fun p => !sel p) some where
  partEvent := by
    intro p q h
    rw [(Option.guard_eq_some_iff.mp h).1]
  serviceEvent := (Rewrites.refl db eventId).serviceEvent
  events := fun _ _ => rfl
  parts := by
    refine ⟨[], ?_, by simp⟩
    rw [List.append_nil, List.filterMap_eq_filter]
    rfl
  services := (Rewrites.refl db eventId).services

theorem rewrites_deleteServiceParts (sel : EventServicePart → Bool) :
    Rewrites db (db.deleteServiceParts sel) eventId some (Option.guard fun x => !sel x) where
  partEvent := (Rewrites.refl db eventId).partEvent
  serviceEvent := by
    intro x y h
    rw [(Option.guard_eq_some_iff.mp h).1]
  events := fun _ _ => rfl
  parts := (Rewrites.refl db eventId).parts
  services := by
    refine ⟨[], ?_, by simp⟩
    rw [List.append_nil, List.filterMap_eq_filter]
    rfl

end Writers

/-! ## Reordering -/

/-- The last place an id has in the order. -/
def lastPlace (places : List (Nat × Nat)) (id : Nat) : Option Nat :=
  (places.reverse.find? (·.1 == id)).map (·.2)

/-- A part after the reordering: a listed one takes five times its last place. -/
def reorderedPart (places : List (Nat × Nat)) (p : EventPart) : EventPart :=
  match lastPlace places p.id with
  | some i => { p with order := i * 5 }
  | none => p

section Reorder

variable {db db' : EventDb} {eventId : Nat}

theorem reorderedPart_id (places : List (Nat × Nat)) (p : EventPart) :
    (reorderedPart places p).id = p.id := by
  unfold reorderedPart
  split <;> rfl

theorem reorderedPart_eventId (places : List (Nat × Nat)) (p : EventPart) :
    (reorderedPart places p).eventId = p.eventId := by
  unfold reorderedPart
  split <;> rfl

theorem reorderedPart_eq_iff {places : List (Nat × Nat)} {p : EventPart} :
    reorderedPart places p = p ↔ ∀ i, lastPlace places p.id = some i → p.order = i * 5 := by
  unfold reorderedPart
  cases lastPlace places p.id with
  | none => simp
  | some i =>
    refine ⟨fun h j hj => ?_, fun h => ?_⟩
    · rw [← Option.some.inj hj]
      exact (congrArg EventPart.order h).symm
    · simp only
      rw [← h i rfl]

/-- One more turn of the loop writes the place it is at. -/
theorem reorderedPart_append (places : List (Nat × Nat)) (id i : Nat) (p : EventPart) :
    reorderedPart (places ++ [(id, i)]) p =
      if (reorderedPart places p).id == id then { reorderedPart places p with order := i * 5 }
      else reorderedPart places p := by
  rw [reorderedPart_id]
  unfold reorderedPart lastPlace
  rw [List.reverse_append, List.reverse_singleton, List.singleton_append, List.find?_cons]
  cases hid : id == p.id with
  | true =>
    rw [if_pos (by simpa using (beq_iff_eq.mp hid).symm)]
    simp only [Option.map_some]
    split <;> rfl
  | false =>
    have hne : ¬(p.id == id) = true := by
      rw [beq_iff_eq]
      exact fun h => by simp [h] at hid
    rw [if_neg hne]

/-- The reordering rewrites the parts it lists, and nothing else. -/
theorem reorderPartAssignments_ok {orderedIds : List Nat}
    (h : (reorderPartAssignments orderedIds).exec db = (.ok (), db')) :
    db'.events = db.events ∧ db'.eventServiceParts = db.eventServiceParts ∧
      db'.eventParts = db.eventParts.map (reorderedPart orderedIds.zipIdx) := by
  refine Tx.forM_invariant (I := fun places s => s.events = db.events ∧
    s.eventServiceParts = db.eventServiceParts ∧
      s.eventParts = db.eventParts.map (reorderedPart places)) h ?_ ?_
  · refine ⟨rfl, rfl, ?_⟩
    have hnone : reorderedPart [] = id := funext fun _ => rfl
    rw [hnone, List.map_id]
  · intro places place rest _ s s' hs hturn
    rw [Tx.exec_bind_get, Tx.exec_check_modify_ok] at hturn
    obtain ⟨_, rfl⟩ := hturn
    refine ⟨hs.1, hs.2.1, ?_⟩
    show s.eventParts.map _ = _
    rw [hs.2.2, List.map_map]
    exact List.map_congr_left fun p _ => (reorderedPart_append places place.1 place.2 p).symm

theorem rewrites_reorder {orderedIds : List Nat}
    (h : (reorderPartAssignments orderedIds).exec db = (.ok (), db')) :
    Rewrites db db' eventId (fun p => some (reorderedPart orderedIds.zipIdx p)) some := by
  obtain ⟨hevents, hservices, hparts⟩ := reorderPartAssignments_ok h
  exact {
    partEvent := fun p q hq => by
      rw [← Option.some.inj hq]
      exact reorderedPart_eventId _ p
    serviceEvent := (Rewrites.refl db eventId).serviceEvent
    events := fun _ _ => by rw [hevents]
    parts := by
      refine ⟨[], ?_, by simp⟩
      rw [List.append_nil, hparts]
      exact (congrFun List.filterMap_eq_map _).symm
    services := by
      rw [hservices]
      exact (Rewrites.refl db eventId).services }

end Reorder

/-! ## What the submitted ids must be -/

/-- What the editor submits of a part. -/
def EventPart.fields (p : EventPart) : PartFields where
  name := p.name
  sectionName := p.sectionName
  track := p.track
  trackOrder := p.trackOrder
  order := p.order
  durationMin := p.durationMin
  allowExternalSpeaker := p.allowExternalSpeaker
  speakerLabel := p.speakerLabel
  readerLabel := p.readerLabel
  presetId := p.presetId

/-- A submitted id selects rows of delegated events only, or writes what they already hold. The
assignment routes, and what adds rows to the event of the URL, ask nothing. -/
def Request.Confined (db : EventDb) (caller : Caller) : Request → Prop
  | .edit _ (.updatePart id form) => ∀ p ∈ db.eventParts, p.id = id →
      db.isResponsible caller.id .programme p.eventId = true ∨ p.fields = form.fields
  | .edit _ (.deletePart id) => ∀ p ∈ db.eventParts, p.id = id →
      db.isResponsible caller.id .programme p.eventId = true
  | .edit _ (.updateService id name _) => ∀ s ∈ db.eventServiceParts, s.id = id →
      db.isResponsible caller.id .programme s.eventId = true ∨ s.name = name
  | .edit _ (.deleteService id) => ∀ s ∈ db.eventServiceParts, s.id = id →
      db.isResponsible caller.id .programme s.eventId = true
  | .reorderParts _ orderedIds => ∀ p ∈ db.eventParts,
      db.isResponsible caller.id .programme p.eventId = true ∨
        ∀ i, lastPlace orderedIds.zipIdx p.id = some i → p.order = i * 5
  | _ => True

section Routes

variable {rt : Runtime} {timezone : String} {db db' : EventDb} {caller : Caller} {request : Request}
  {eventId : Nat} {scope : ResponsibilityScope} {part : EventPart → Option EventPart}
  {service : EventServicePart → Option EventServicePart}

theorem apply_eq_self_iff {data : PartFields} {p : EventPart} :
    data.apply p = p ↔ p.fields = data := by
  refine ⟨fun h => ?_, fun h => ?_⟩
  · rw [← h]
    rfl
  · rw [← h]
    rfl

/-- A rewrite of the rows with one id, said of the rows. -/
theorem selected_iff {α : Type} {rows : List α} {key : α → Nat} {data : α → α} {id : Nat}
    {delegated : α → Prop} {same : α → Prop} (hsame : ∀ a, data a = a ↔ same a) :
    (∀ a ∈ rows, delegated a ∨ some (if key a == id then data a else a) = some a) ↔
      ∀ a ∈ rows, key a = id → delegated a ∨ same a := by
  refine forall₂_congr fun a _ => ?_
  by_cases hkey : key a = id
  · rw [if_pos (beq_iff_eq.mpr hkey), Option.some.injEq, hsame]
    exact ⟨fun h _ => h, fun h => h hkey⟩
  · rw [if_neg (mt beq_iff_eq.mp hkey)]
    exact ⟨fun _ h => absurd h hkey, fun _ => .inr rfl⟩

/-- Likewise for the rows a deletion drops. -/
theorem dropped_iff {α : Type} {rows : List α} {key : α → Nat} {id : Nat} {delegated : α → Prop} :
    (∀ a ∈ rows, delegated a ∨ Option.guard (fun a => !(key a == id)) a = some a) ↔
      ∀ a ∈ rows, key a = id → delegated a := by
  refine forall₂_congr fun a _ => ?_
  rw [Option.guard_eq_some_iff]
  by_cases hkey : key a = id
  · simp [hkey]
  · simp [hkey]

/-- Leaving every row alone asks nothing. -/
theorem kept_iff {α : Type} {rows : List α} {delegated : α → Prop} :
    (∀ a ∈ rows, delegated a ∨ some a = some a) ↔ True :=
  iff_of_true (fun _ _ => .inr rfl) trivial

/-- What a call rewrites, with its `Confined` read off the rows. -/
def Written (db db' : EventDb) (caller : Caller) (request : Request) : Prop :=
  ∃ part service, Rewrites db db' request.eventId part service ∧
    (((∀ p ∈ db.eventParts, db.isResponsible caller.id request.scope p.eventId = true ∨
        part p = some p) ∧
      ∀ s ∈ db.eventServiceParts, db.isResponsible caller.id request.scope s.eventId = true ∨
        service s = some s) ↔ request.Confined db caller)

/-- A call that only adds rows to its event is confined. -/
theorem written_of_adds (h : Rewrites db db' request.eventId some some)
    (hconfined : request.Confined db caller) : Written db db' caller request :=
  ⟨some, some, h, iff_of_true ⟨kept_iff.mpr trivial, kept_iff.mpr trivial⟩ hconfined⟩

theorem written_addPart {form : PartForm}
    (h : (addPartAssignment eventId form.fields (partAllowedRolesToWrite form)).exec db =
      (.ok (), db')) : Written db db' caller (.edit eventId (.addPart form)) := by
  unfold addPartAssignment at h
  rw [Tx.exec_bind_get, Tx.exec_bind_check_ok] at h
  obtain ⟨_, _, h⟩ := h
  rw [Tx.exec_bind_check_ok] at h
  obtain ⟨_, _, h⟩ := h
  rw [Tx.exec_bind_modify] at h
  have hsame := (writePartAllowedRoles_sameRows _ _).of_ok h (SameRows.refl _)
  refine written_of_adds (Rewrites.trans_same ?_ hsame) trivial
  exact (Rewrites.refl db eventId).add rfl rfl (List.append_nil _).symm
    (fun p hp => by rw [List.mem_singleton.mp hp]; rfl) (by simp)

theorem written_addService {name : String} {allowedRoleIds : List Nat}
    (h : (addServicePartAssignment eventId name allowedRoleIds).exec db = (.ok (), db')) :
    Written db db' caller (.edit eventId (.addService name allowedRoleIds)) := by
  unfold addServicePartAssignment at h
  rw [Tx.exec_bind_get, Tx.exec_bind_check_ok] at h
  obtain ⟨_, _, h⟩ := h
  rw [Tx.exec_bind_modify] at h
  have hsame := (setServicePartAssignmentAllowedRoles_sameRows _ _).of_ok h (SameRows.refl _)
  refine written_of_adds (Rewrites.trans_same ?_ hsame) trivial
  exact (Rewrites.refl db eventId).add rfl (List.append_nil _).symm rfl (by simp)
    (fun x hx => by rw [List.mem_singleton.mp hx])

theorem written_updatePart {id : Nat} {form : PartForm}
    (h : (updatePartAssignment id form.fields (partAllowedRolesToWrite form)).exec db =
      (.ok (), db')) : Written db db' caller (.edit eventId (.updatePart id form)) := by
  have hsame := (writePartAllowedRoles_sameRows _ _).of_ok (updatePartAssignment_writes h) (SameRows.refl _)
  refine ⟨_, _, (rewrites_updateParts _ form.fields.apply fun _ => rfl).trans_same hsame, ?_⟩
  rw [selected_iff fun _ => apply_eq_self_iff, kept_iff, and_true]
  rfl

theorem written_updateService {id : Nat} {name : String} {allowedRoleIds : List Nat}
    (h : (updateServicePartAssignment id name allowedRoleIds).exec db = (.ok (), db')) :
    Written db db' caller (.edit eventId (.updateService id name allowedRoleIds)) := by
  unfold updateServicePartAssignment at h
  rw [Tx.exec_bind_get, Tx.exec_bind_check_ok] at h
  obtain ⟨_, _, h⟩ := h
  rw [Tx.exec_bind_modify] at h
  have hsame := (setServicePartAssignmentAllowedRoles_sameRows _ _).of_ok h (SameRows.refl _)
  have hname : ∀ s : EventServicePart, { s with name := name } = s ↔ s.name = name :=
    fun s => ⟨fun h => by rw [← h], fun h => by rw [← h]⟩
  refine ⟨_, _, (rewrites_updateServiceParts _ (fun s => { s with name := name }) fun _ => rfl).trans_same
    hsame, ?_⟩
  rw [selected_iff hname, kept_iff, true_and]
  rfl

theorem written_deletePart {id : Nat} (h : (deletePartAssignment id).exec db = (.ok (), db')) :
    Written db db' caller (.edit eventId (.deletePart id)) := by
  unfold deletePartAssignment at h
  rw [Tx.exec_bind_get, Tx.exec_check_modify_ok] at h
  obtain ⟨_, rfl⟩ := h
  refine ⟨_, _, rewrites_deleteParts _, ?_⟩
  rw [dropped_iff, kept_iff, and_true]
  rfl

theorem written_deleteService {id : Nat}
    (h : (deleteServicePartAssignment id).exec db = (.ok (), db')) :
    Written db db' caller (.edit eventId (.deleteService id)) := by
  unfold deleteServicePartAssignment at h
  rw [Tx.exec_bind_get, Tx.exec_check_modify_ok] at h
  obtain ⟨_, rfl⟩ := h
  refine ⟨_, _, rewrites_deleteServiceParts _, ?_⟩
  rw [dropped_iff, kept_iff, true_and]
  rfl

theorem written_applyTemplate {templateId : Nat} {t : Option EventTemplate}
    (h : (applyTemplateToEvent eventId templateId).exec db = (.ok t, db')) :
    Written db db' caller (.edit eventId (.applyTemplate templateId)) := by
  refine written_of_adds ?_ trivial
  cases t with
  | none =>
    rw [applyTemplateToEvent_none h]
    exact Rewrites.refl db eventId
  | some t =>
    obtain ⟨template, _, _, rfl⟩ := applyTemplateToEvent_ok h
    obtain ⟨parts, services, hparts, hservices, hmade, hserviceMade, hevents, _⟩ :=
      @instantiate_adds (db.updateEvents (fun e => e.id == eventId)
        fun e => { e with templateId := some templateId }) template
        (appliedPart eventId) (appliedServicePart eventId)
    have hevent : Rewrites db _ eventId some some :=
      rewrites_updateEvents (fun e => { e with templateId := some templateId }) fun _ => rfl
    refine hevent.add hevents hparts hservices ?_ ?_
    · intro p hp
      obtain ⟨_, _, rfl⟩ := hmade p hp
      rfl
    · intro s hs
      obtain ⟨_, _, rfl⟩ := hserviceMade s hs
      rfl

theorem written_updateEvent {form : EventForm}
    (h : (handleUpdateEvent rt eventId form timezone).exec db = (.ok (), db')) :
    Written db db' caller (.edit eventId (.updateEvent form)) := by
  unfold handleUpdateEvent updateEvent at h
  simp only [Tx.exec_bind_check_ok, Tx.exec_bind_get] at h
  obtain ⟨_, _, _, _, _, _, h⟩ := h
  rw [← (Prod.mk.inj h).2]
  exact written_of_adds (rewrites_updateEvents _ fun _ => rfl) trivial

theorem written_edit {intent : EditIntent}
    (h : (handleEditIntent rt eventId timezone intent).exec db = (.ok (), db')) :
    Written db db' caller (.edit eventId intent) := by
  cases intent with
  | updateEvent form => exact written_updateEvent h
  | addPart form => exact written_addPart h
  | updatePart id form => exact written_updatePart h
  | deletePart id => exact written_deletePart h
  | addService name allowedRoleIds => exact written_addService h
  | updateService id name allowedRoleIds => exact written_updateService h
  | deleteService id => exact written_deleteService h
  | applyTemplate templateId =>
    obtain ⟨t, s, h, hdone⟩ := Tx.exec_bind_ok.mp h
    rw [(Tx.exec_pure_ok.mp hdone).2]
    exact written_applyTemplate h

theorem written_reorder {orderedIds : List Nat}
    (h : (reorderPartAssignments orderedIds).exec db = (.ok (), db')) :
    Written db db' caller (.reorderParts eventId orderedIds) := by
  refine ⟨_, _, rewrites_reorder h, ?_⟩
  rw [kept_iff, and_true]
  refine forall₂_congr fun p _ => or_congr_right ?_
  rw [Option.some.injEq]
  exact reorderedPart_eq_iff

/-- Rewriting one row of the event of the URL is confined: the caller is responsible for it. -/
theorem written_selected (hconfined : request.Confined db caller)
    (hresponsible : db.isResponsible caller.id request.scope request.eventId = true)
    (h : Rewrites db db' request.eventId part service)
    (hparts : ∀ p ∈ db.eventParts, p.eventId = request.eventId ∨ part p = some p)
    (hservices : ∀ s ∈ db.eventServiceParts, s.eventId = request.eventId ∨ service s = some s) :
    Written db db' caller request := by
  have hmine : ∀ {event}, event = request.eventId →
      db.isResponsible caller.id request.scope event = true := by
    intro event hevent
    rw [hevent]
    exact hresponsible
  exact ⟨part, service, h, iff_of_true
    ⟨fun p hp => (hparts p hp).imp_left hmine, fun s hs => (hservices s hs).imp_left hmine⟩
    hconfined⟩

/-- The pairing check of the assignment routes. -/
theorem assignmentBelongsToEvent_part {id : Nat} (hkeyed : Keyed (·.id) db.eventParts)
    (h : assignmentBelongsToEvent db .part (some id) eventId = true) :
    ∀ p ∈ db.eventParts, p.id = id → p.eventId = eventId := by
  intro p hp hid
  obtain ⟨q, hq, hboth⟩ := List.any_eq_true.mp h
  obtain ⟨hqid, hevent⟩ := (Bool.and_eq_true _ _).mp hboth
  rw [hkeyed.eq_of_key hp hq (hid.trans (Option.some.inj (beq_iff_eq.mp hqid)).symm)]
  exact beq_iff_eq.mp hevent

theorem assignmentBelongsToEvent_service {id : Nat} (hkeyed : Keyed (·.id) db.eventServiceParts)
    (h : assignmentBelongsToEvent db .service (some id) eventId = true) :
    ∀ s ∈ db.eventServiceParts, s.id = id → s.eventId = eventId := by
  intro s hs hid
  obtain ⟨q, hq, hboth⟩ := List.any_eq_true.mp h
  obtain ⟨hqid, hevent⟩ := (Bool.and_eq_true _ _).mp hboth
  rw [hkeyed.eq_of_key hs hq (hid.trans (Option.some.inj (beq_iff_eq.mp hqid)).symm)]
  exact beq_iff_eq.mp hevent

theorem selected_mine {α : Type} {rows : List α} {key event : α → Nat} {data : α → α} {id : Nat}
    (h : ∀ a ∈ rows, key a = id → event a = eventId) :
    ∀ a ∈ rows, event a = eventId ∨ some (if key a == id then data a else a) = some a := by
  intro a ha
  by_cases hkey : key a = id
  · exact .inl (h a ha hkey)
  · rw [if_neg (mt beq_iff_eq.mp hkey)]
    exact .inr rfl

theorem settle_done {α : Type} {outcome : Except String (α × EventDb)} {s : EventDb}
    (h : (Request.settle outcome).exec s = (.ok .done, db')) : ∃ a, outcome = .ok (a, db') := by
  unfold Request.settle at h
  cases outcome with
  | error message => cases (Tx.exec_pure_ok.mp h).1
  | ok outcome =>
    refine ⟨outcome.1, ?_⟩
    rw [← (Prod.mk.inj h).2]

theorem settle_found {α : Type} {outcome : Option (α × EventDb)} {s : EventDb}
    (h : (Request.settle (outcome.elim (.error "") .ok)).exec s = (.ok .done, db')) :
    ∃ a, outcome = some (a, db') := by
  obtain ⟨a, hdone⟩ := settle_done h
  cases outcome with
  | none => cases hdone
  | some outcome => exact ⟨a, congrArg some (Except.ok.inj hdone)⟩

/-- Writing the part row of the URL's event. -/
theorem written_part {id : Nat} {data : EventPart → EventPart}
    (hkeyed : Keyed (·.id) db.eventParts) (hconfined : request.Confined db caller)
    (hresponsible : db.isResponsible caller.id request.scope request.eventId = true)
    (hbelongs : assignmentBelongsToEvent db .part (some id) request.eventId = true)
    (hevent : ∀ p, (data p).eventId = p.eventId) :
    Written db (db.updateParts (fun p => p.id == id) data) caller request :=
  written_selected hconfined hresponsible (rewrites_updateParts _ data hevent)
    (selected_mine (assignmentBelongsToEvent_part hkeyed hbelongs)) fun _ _ => .inr rfl

/-- Writing the service row of the URL's event. -/
theorem written_service {id : Nat} {data : EventServicePart → EventServicePart}
    (hkeyed : Keyed (·.id) db.eventServiceParts) (hconfined : request.Confined db caller)
    (hresponsible : db.isResponsible caller.id request.scope request.eventId = true)
    (hbelongs : assignmentBelongsToEvent db .service (some id) request.eventId = true)
    (hevent : ∀ s, (data s).eventId = s.eventId) :
    Written db (db.updateServiceParts (fun s => s.id == id) data) caller request :=
  written_selected hconfined hresponsible (rewrites_updateServiceParts _ data hevent)
    (fun _ _ => .inr rfl) (selected_mine (assignmentBelongsToEvent_service hkeyed hbelongs))

theorem written_unassignPart {id : Nat} (hkeyed : Keyed (·.id) db.eventParts)
    (hconfined : request.Confined db caller)
    (hresponsible : db.isResponsible caller.id request.scope request.eventId = true)
    (hbelongs : assignmentBelongsToEvent db .part (some id) request.eventId = true)
    (h : (Request.settle ((unassignPart db id).elim (.error "") .ok)).exec db = (.ok .done, db')) :
    Written db db' caller request := by
  obtain ⟨_, hrow⟩ := settle_found h
  obtain ⟨existing, _, hout⟩ := Option.map_eq_some_iff.mp hrow
  rw [← (Prod.mk.inj hout).2]
  exact written_part hkeyed hconfined hresponsible hbelongs fun _ => rfl

theorem written_unassignService {id : Nat} (hkeyed : Keyed (·.id) db.eventServiceParts)
    (hconfined : request.Confined db caller)
    (hresponsible : db.isResponsible caller.id request.scope request.eventId = true)
    (hbelongs : assignmentBelongsToEvent db .service (some id) request.eventId = true)
    (h : (Request.settle ((unassignServicePart db id).elim (.error "") .ok)).exec db =
      (.ok .done, db')) : Written db db' caller request := by
  obtain ⟨_, hrow⟩ := settle_found h
  obtain ⟨existing, _, hout⟩ := Option.map_eq_some_iff.mp hrow
  rw [← (Prod.mk.inj hout).2]
  exact written_service hkeyed hconfined hresponsible hbelongs fun _ => rfl

theorem written_removeAssignment {type : String} {id : Option Nat}
    (hparts : Keyed (·.id) db.eventParts) (hservices : Keyed (·.id) db.eventServiceParts)
    (hresponsible : db.isResponsible caller.id (Request.removeAssignment eventId type id).scope
      eventId = true)
    (h : ((Request.removeAssignment eventId type id).body rt timezone db).exec db =
      (.ok .done, db')) : Written db db' caller (.removeAssignment eventId type id) := by
  simp only [Request.body] at h
  by_cases htype : type = "service"
  · subst htype
    rw [if_pos rfl] at h
    split at h
    · next hbelongs =>
      cases id with
      | none => cases (Tx.exec_pure_ok.mp h).1
      | some id => exact written_unassignService hservices trivial hresponsible hbelongs h
    · cases (Tx.exec_pure_ok.mp h).1
  · rw [if_neg htype] at h
    split at h
    · next hbelongs =>
      split at h
      · exact written_unassignPart hparts trivial hresponsible hbelongs h
      · exact absurd rfl htype
      · cases (Tx.exec_pure_ok.mp h).1
    · cases (Tx.exec_pure_ok.mp h).1

/-- What the route of a delegated caller writes. -/
theorem written_body (hparts : Keyed (·.id) db.eventParts)
    (hservices : Keyed (·.id) db.eventServiceParts)
    (hresponsible : db.isResponsible caller.id request.scope request.eventId = true)
    (h : (request.body rt timezone db).exec db = (.ok .done, db')) :
    Written db db' caller request := by
  cases request with
  | edit eventId intent =>
    obtain ⟨_, s, hintent, hdone⟩ := Tx.exec_bind_ok.mp h
    rw [(Tx.exec_pure_ok.mp hdone).2]
    exact written_edit hintent
  | reorderParts eventId orderedIds =>
    obtain ⟨_, s, horder, hdone⟩ := Tx.exec_bind_ok.mp h
    rw [(Tx.exec_pure_ok.mp hdone).2]
    exact written_reorder horder
  | assignPart eventId id params =>
    simp only [Request.body] at h
    split at h
    · next hbelongs =>
      obtain ⟨_, hassign⟩ := settle_done h
      obtain ⟨_, _, data, _, rfl, hdata⟩ := assignPart_ok hassign
      exact written_part hparts trivial hresponsible hbelongs fun p => (hdata p).2.1
    · cases (Tx.exec_pure_ok.mp h).1
  | assignService eventId id assigneeId =>
    simp only [Request.body] at h
    split at h
    · next hbelongs =>
      obtain ⟨_, hassign⟩ := settle_done h
      obtain ⟨_, _, data, _, rfl, hdata⟩ := assignServicePart_ok hassign
      exact written_service hservices trivial hresponsible hbelongs fun s => (hdata s).2.1
    · cases (Tx.exec_pure_ok.mp h).1
  | removeAssignment eventId type id =>
    exact written_removeAssignment hparts hservices hresponsible h

/-- A caller without the capability who gets through is responsible for the event of the URL. -/
theorem action_delegated (hcan : caller.can request.required = false)
    (h : (request.action rt timezone caller).exec db = (.ok .done, db')) :
    db.isResponsible caller.id request.scope request.eventId = true ∧
      (request.body rt timezone db).exec db = (.ok .done, db') := by
  unfold Request.action at h
  rw [Tx.exec_bind_get] at h
  split at h
  · cases (Tx.exec_pure_ok.mp h).1
  · split at h
    · cases (Tx.exec_pure_ok.mp h).1
    · next event hevent =>
      split at h
      · next hedit =>
        refine ⟨?_, h⟩
        unfold EventDb.isResponsible
        rw [hevent]
        unfold canEditEvent at hedit
        rw [hcan, Bool.false_or] at hedit
        exact hedit
      · cases (Tx.exec_pure_ok.mp h).1

/-- **When a delegated call stays inside its events.** Of every call that goes through for a caller
without the capability the route asks for: it changes only events, part rows and service rows of
events whose template the caller is responsible for exactly when the submitted ids select such rows
or write what is there. -/
theorem delegated_iff (hparts : Keyed (·.id) db.eventParts)
    (hservices : Keyed (·.id) db.eventServiceParts)
    (hcan : caller.can request.required = false)
    (h : (request.action rt timezone caller).exec db = (.ok .done, db')) :
    OnlyDelegated db db' caller request.scope ↔ request.Confined db caller := by
  obtain ⟨hresponsible, hbody⟩ := action_delegated hcan h
  obtain ⟨part, service, hwrites, hconfined⟩ := written_body hparts hservices hresponsible hbody
  rw [hwrites.onlyDelegated_iff hresponsible, hconfined]

end Routes

/-! ## A responsible of one template -/

/-- Account 1 holds a role responsible for template 1, whose event 1 has part 1. Event 2 is of template
2, and has part 2. -/
def twoTemplates : EventDb :=
  { EventDb.empty with
    directory := { EventDb.empty.directory with
      roles := [⟨1, "programme", none, none, false, none, false, none, false⟩]
      userRoleAssignments := [⟨1, 1, .member⟩] }
    templates := [⟨1, "Midweek", "midweek", none, "19:00", "21:00"⟩,
      ⟨2, "Weekend", "weekend", none, "10:00", "12:00"⟩]
    templateResponsibles := [⟨1, 1, .programme⟩]
    events := [⟨1, "Midweek", 0, 10, .draft, some 1, 1⟩, ⟨2, "Weekend", 0, 10, .draft, some 2, 1⟩]
    eventParts := [blankPart 1 1, blankPart 2 2] }

/-- The responsible of template 1 deletes the part of template 2. -/
theorem delegation_escapes :
    ¬∀ (request : Request) (db' : EventDb), Caller.can ⟨1, []⟩ request.required = false →
      (request.action .utc "UTC" ⟨1, []⟩).exec twoTemplates = (.ok .done, db') →
        OnlyDelegated twoTemplates db' ⟨1, []⟩ request.scope := by
  intro h
  have honly := h (.edit 1 (.deletePart 2)) (twoTemplates.deleteParts fun p => p.id == 2) rfl
    (by decide +kernel)
  have hgone := (honly 2 (by decide +kernel)).parts
  revert hgone
  decide +kernel

/-- On part 1 the same call stays inside. -/
theorem delegated_iff_own :
    OnlyDelegated twoTemplates (twoTemplates.deleteParts fun p => p.id == 1) ⟨1, []⟩ .programme ↔
      Request.Confined twoTemplates ⟨1, []⟩ (.edit 1 (.deletePart 1)) :=
  @delegated_iff .utc "UTC" _ _ ⟨1, []⟩ (.edit 1 (.deletePart 1)) (by decide) (by decide) rfl
    (by decide +kernel)

end Unitae.Events
