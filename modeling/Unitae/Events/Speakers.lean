import Unitae.Base.Run
import Unitae.Events.Assignments
import Unitae.Events.Programme

/-!
# Unitae — the external speaker of a part

A part says whether it may carry an external speaker, by its preset where it has one. The editor writes
that permission and the assignment writes the speaker, each on the same row and neither with an eye
on the other: the form alone leaves the choice out. `speakers_consistent` is about the runs in which
the two agree.
-/

namespace Unitae.Events

/-! ## What a part can do (`part-capability.ts`) -/

/-- A preset, as far as external speakers go. -/
structure PresetCapability where
  id : Nat
  allowExternalSpeaker : Bool
deriving DecidableEq, Repr

/-- `resolvePartCapability`: the preset is the authority whenever the part has one. -/
def allowsExternalSpeaker (presets : List PresetCapability) (p : EventPart) : Bool :=
  match p.presetId.bind fun presetId => presets.find? (·.id == presetId) with
  | some preset => preset.allowExternalSpeaker
  | none => p.allowExternalSpeaker

/-- Without presets it is the part's own column. -/
@[simp] theorem allowsExternalSpeaker_nil (p : EventPart) :
    allowsExternalSpeaker [] p = p.allowExternalSpeaker := by
  cases hpreset : p.presetId <;> simp [allowsExternalSpeaker, hpreset]

/-- The speaker fields of a part agree. -/
structure SpeakerConsistent (presets : List PresetCapability) (speakers : List ExternalSpeaker)
    (p : EventPart) : Prop where
  allowed : p.externalSpeakerId ≠ none → allowsExternalSpeaker presets p = true
  alone : p.externalSpeakerId ≠ none → p.assigneeId = none ∧ p.assistantId = none
  registered : ∀ id, p.externalSpeakerId = some id → ∃ s ∈ speakers, s.id = id
  distinct : ∀ memberId, p.assigneeId = some memberId → p.assistantId ≠ some memberId

/-- Of every part. The speakers are those of the congregation. -/
def EventDb.SpeakersConsistent (presets : List PresetCapability) (db : EventDb) : Prop :=
  ∀ p ∈ db.eventParts, SpeakerConsistent presets db.externalSpeakers p

/-! ## The steps -/

inductive SpeakerStep where
  | addPartAssignment (eventId : Nat) (data : PartFields) (roles : PartRoleSelection)
  | updatePartAssignment (id : Nat) (data : PartFields) (roles : PartRoleSelection)
  | applyTemplateToEvent (eventId templateId : Nat)
  | generateEvents (now : Instant) (templateId occurrences createdById : Nat)
      (startFrom : Option Instant)
  | createSingleEvent (templateId : Nat) (date : Instant) (createdById : Nat)
  | assignPart (assignmentId : Nat) (params : AssignPartParams)
  | unassignPart (assignmentId : Nat)
deriving DecidableEq, Repr

/-- The store after a call: a transaction that fails is rolled back. -/
def SpeakerStep.apply (rt : Runtime) (timezone : String) (db : EventDb) : SpeakerStep → EventDb
  | .addPartAssignment eventId data roles =>
    (Events.addPartAssignment eventId data roles).settle (fun _ => false) db
  | .updatePartAssignment id data roles =>
    (Events.updatePartAssignment id data roles).settle (fun _ => false) db
  | .applyTemplateToEvent eventId templateId =>
    (Events.applyTemplateToEvent eventId templateId).settle (fun _ => false) db
  | .generateEvents now templateId occurrences createdById startFrom =>
    (generateEventsFromTemplate rt now templateId occurrences createdById timezone startFrom).settle
      (fun _ => false) db
  | .createSingleEvent templateId date createdById =>
    (createSingleEventFromTemplate rt templateId date createdById timezone).settle (fun _ => false) db
  | .assignPart id params =>
    match Events.assignPart db id params with
    | .ok (_, db') => db'
    | .error _ => db
  | .unassignPart id => ((Events.unassignPart db id).map (·.2)).getD db

/-- A speaker that may be assigned goes to a part that allows one, and an edited part that carries a
speaker still allows it. -/
def SpeakerStep.Kept (presets : List PresetCapability) (db : EventDb) : SpeakerStep → Prop
  | .assignPart id params => ∀ speakerId ∈ params.externalSpeakerId,
      checkExternalSpeakerValid db speakerId = .ok () → db.partWithEvent id ≠ none →
        ∀ p ∈ db.eventParts, p.id = id → allowsExternalSpeaker presets p = true
  | .updatePartAssignment id data _ => ∀ p ∈ db.eventParts, p.id = id → p.externalSpeakerId ≠ none →
      allowsExternalSpeaker presets (data.apply p) = true
  | _ => True

/-! ## Writes that leave the speakers alone -/

section Writes

variable {presets : List PresetCapability} {db s : EventDb} {rt : Runtime} {timezone : String}

/-- A row without anybody. -/
theorem SpeakerConsistent.of_bare {speakers : List ExternalSpeaker} {p : EventPart}
    (hspeaker : p.externalSpeakerId = none) (hassignee : p.assigneeId = none) :
    SpeakerConsistent presets speakers p where
  allowed h := absurd hspeaker h
  alone h := absurd hspeaker h
  registered id h := by simp [hspeaker] at h
  distinct memberId h := by simp [hassignee] at h

/-- Only the parts and the registry matter. -/
theorem EventDb.SpeakersConsistent.congr (h : db.SpeakersConsistent presets)
    (hparts : s.eventParts = db.eventParts) (hspeakers : s.externalSpeakers = db.externalSpeakers) :
    s.SpeakersConsistent presets := by
  intro p hp
  rw [hspeakers]
  exact h p (hparts ▸ hp)

/-- A new part starts without anybody. -/
theorem EventDb.SpeakersConsistent.createPart (h : db.SpeakersConsistent presets) {row : Nat → EventPart}
    (hspeaker : ∀ id, (row id).externalSpeakerId = none) (hassignee : ∀ id, (row id).assigneeId = none) :
    (db.createPart row).SpeakersConsistent presets := by
  intro p hp
  rcases List.mem_append.mp hp with hold | hnew
  · exact h p hold
  · rw [List.mem_singleton.mp hnew]
    exact .of_bare (hspeaker _) (hassignee _)

theorem addPartAssignment_speakers (eventId : Nat) (data : PartFields) (roles : PartRoleSelection) :
    Tx.Keeps (EventDb.SpeakersConsistent presets) (addPartAssignment eventId data roles) := by
  unfold addPartAssignment
  refine Tx.Keeps.get_bind fun _ => (Tx.keeps_check _).bind fun _ => (Tx.keeps_check _).bind fun _ => ?_
  refine (Tx.keeps_modify fun _ h => ?_).bind fun _ =>
    writePartAllowedRoles_keeps (fun _ _ h => h.congr rfl rfl) (fun _ _ h => h.congr rfl rfl) _ roles
  exact h.createPart (fun _ => rfl) fun _ => rfl

/-- The loop over the parts of a template, whose rows start without anybody. -/
theorem EventDb.SpeakersConsistent.copyParts (h : db.SpeakersConsistent presets)
    {row : TemplatePart → Nat → EventPart} (hspeaker : ∀ part id, (row part id).externalSpeakerId = none)
    (hassignee : ∀ part id, (row part id).assigneeId = none) (parts : List TemplatePart) :
    (parts.foldl (·.copyPart row) db).SpeakersConsistent presets := by
  induction parts generalizing db with
  | nil => exact h
  | cons part parts ih =>
    apply ih
    exact (h.createPart (hspeaker part) (hassignee part)).congr rfl rfl

/-- The loop over the service parts writes no part. -/
theorem EventDb.SpeakersConsistent.copyServiceParts (h : db.SpeakersConsistent presets)
    (serviceRow : TemplateServicePart → Nat → EventServicePart) (roles : List TemplateServicePart) :
    (roles.foldl (·.copyServicePart serviceRow) db).SpeakersConsistent presets := by
  induction roles generalizing db with
  | nil => exact h
  | cons role roles ih =>
    apply ih
    exact h.congr rfl rfl

theorem createEventWithAssignments_speakers (template : TemplateWithRelations) (date : Instant)
    (createdById : Nat) :
    Tx.Keeps (EventDb.SpeakersConsistent presets)
      (createEventWithAssignments rt template date createdById timezone) := by
  unfold createEventWithAssignments
  refine (Tx.keeps_check _).bind fun _ => (Tx.keeps_check _).bind fun _ => Tx.Keeps.get_bind fun _ => ?_
  refine (Tx.keeps_modify fun _ h => h.congr rfl rfl).bind fun _ => ?_
  refine (Tx.keeps_modify fun _ h => h.copyParts (fun _ _ => rfl) (fun _ _ => rfl) _).bind fun _ => ?_
  exact (Tx.keeps_modify fun _ h => h.copyServiceParts _ _).bind fun _ => Tx.keeps_pure _

theorem applyTemplateToEvent_speakers (eventId templateId : Nat) :
    Tx.Keeps (EventDb.SpeakersConsistent presets) (applyTemplateToEvent eventId templateId) := by
  unfold applyTemplateToEvent
  refine Tx.Keeps.get_bind fun db => ?_
  cases db.loadTemplate templateId with
  | none => exact Tx.keeps_pure _
  | some template =>
    refine (Tx.keeps_check _).bind fun _ => (Tx.keeps_modify fun _ h => h.congr rfl rfl).bind fun _ => ?_
    refine (Tx.keeps_modify fun _ h => h.copyParts (fun _ _ => rfl) (fun _ _ => rfl) _).bind fun _ => ?_
    exact (Tx.keeps_modify fun _ h => h.copyServiceParts _ _).bind fun _ => Tx.keeps_pure _

theorem generateEvents_speakers (now : Instant) (templateId occurrences createdById : Nat)
    (startFrom : Option Instant) :
    Tx.Keeps (EventDb.SpeakersConsistent presets)
      (generateEventsFromTemplate rt now templateId occurrences createdById timezone startFrom) := by
  unfold generateEventsFromTemplate
  refine Tx.Keeps.get_bind fun db => ?_
  cases db.loadTemplate templateId with
  | none => exact Tx.keeps_pure _
  | some template =>
    simp only
    cases template.template.weekDay with
    | none => exact Tx.keeps_pure _
    | some weekDay =>
      refine Tx.Keeps.foldlM (fun date _ created => ?_) []
      split
      · exact Tx.keeps_pure _
      · exact (createEventWithAssignments_speakers template date createdById).bind fun _ => Tx.keeps_pure _

theorem createSingleEvent_speakers (templateId : Nat) (date : Instant) (createdById : Nat) :
    Tx.Keeps (EventDb.SpeakersConsistent presets)
      (createSingleEventFromTemplate rt templateId date createdById timezone) := by
  unfold createSingleEventFromTemplate
  refine Tx.Keeps.get_bind fun db => ?_
  cases db.loadTemplate templateId with
  | none => exact Tx.keeps_pure _
  | some template =>
    simp only
    split
    · exact Tx.keeps_pure _
    · exact (createEventWithAssignments_speakers template date createdById).bind fun _ => Tx.keeps_pure _

/-- An update of the rows of one id, asked for each row it changes. -/
theorem speakersConsistent_updateParts_iff {id : Nat} {f : EventPart → EventPart}
    (h : db.SpeakersConsistent presets) :
    (db.updateParts (fun p => p.id == id) f).SpeakersConsistent presets ↔
      ∀ p ∈ db.eventParts, p.id = id → SpeakerConsistent presets db.externalSpeakers (f p) := by
  constructor
  · intro hafter p hp hid
    have hmem : f p ∈ (db.updateParts (fun p => p.id == id) f).eventParts :=
      List.mem_map.mpr ⟨p, hp, by rw [if_pos (beq_iff_eq.mpr hid)]⟩
    exact hafter (f p) hmem
  · intro hrows p hp
    obtain ⟨q, hq, rfl⟩ := List.mem_map.mp hp
    by_cases hid : q.id = id
    · rw [if_pos (beq_iff_eq.mpr hid)]
      exact hrows q hq hid
    · rw [if_neg (by simpa using hid)]
      exact h q hq

end Writes

/-! ## One step -/

section Step

variable {presets : List PresetCapability} {db s : EventDb} {rt : Runtime} {timezone : String}

/-- What an edit that goes through leaves of the parts. -/
theorem updatePartAssignment_ok {id : Nat} {data : PartFields} {roles : PartRoleSelection}
    (h : (updatePartAssignment id data roles).exec db = (.ok (), s)) :
    s.eventParts = (db.updateParts (fun p => p.id == id) data.apply).eventParts ∧
      s.externalSpeakers = db.externalSpeakers := by
  refine Tx.Keeps.of_ok (I := fun s => s.eventParts = (db.updateParts _ data.apply).eventParts ∧
    s.externalSpeakers = db.externalSpeakers) ?_ (updatePartAssignment_writes h) ⟨rfl, rfl⟩
  exact writePartAllowedRoles_keeps (fun _ _ h => h) (fun _ _ h => h) id roles

/-- The fields an edit writes, beside the permission, are none of the four. -/
theorem speakerConsistent_edited_iff {p : EventPart} {data : PartFields}
    (h : SpeakerConsistent presets db.externalSpeakers p) :
    SpeakerConsistent presets db.externalSpeakers (data.apply p) ↔
      (p.externalSpeakerId ≠ none → allowsExternalSpeaker presets (data.apply p) = true) :=
  ⟨fun hafter => hafter.allowed, fun hallowed => ⟨hallowed, h.alone, h.registered, h.distinct⟩⟩

/-- **What an edit that goes through leaves consistent.** -/
theorem updatePartAssignment_consistent_iff {id : Nat} {data : PartFields} {roles : PartRoleSelection}
    (hdb : db.SpeakersConsistent presets) (h : (updatePartAssignment id data roles).exec db = (.ok (), s)) :
    s.SpeakersConsistent presets ↔ (SpeakerStep.updatePartAssignment id data roles).Kept presets db := by
  obtain ⟨hparts, hspeakers⟩ := updatePartAssignment_ok h
  have hrows : s.SpeakersConsistent presets ↔
      (db.updateParts (fun p => p.id == id) data.apply).SpeakersConsistent presets :=
    ⟨fun hs => hs.congr hparts.symm hspeakers.symm, fun hs => hs.congr hparts hspeakers⟩
  rw [hrows, speakersConsistent_updateParts_iff hdb]
  exact forall₂_congr fun p hp => forall_congr' fun _ => speakerConsistent_edited_iff (hdb p hp)

theorem checkParticipantsDistinct_ok {assignees : PartAssignees} :
    checkParticipantsDistinct assignees = .ok () ↔
      ∀ memberId, assignees.assigneeId = some memberId → assignees.assistantId ≠ some memberId := by
  rw [checkParticipantsDistinct, Tx.refuseWhen_ok]
  cases assignees.assigneeId with
  | none => simp
  | some memberId =>
    simp only [Option.isSome_some, true_and, Option.some.injEq, ne_eq, forall_eq']
    exact ⟨fun h heq => h heq.symm, fun h heq => h heq.symm⟩

/-- **What an assignment that goes through leaves consistent.** -/
theorem assignPart_consistent_iff {id : Nat} {params : AssignPartParams} {previous : PartAssignees}
    (hdb : db.SpeakersConsistent presets) (h : assignPart db id params = .ok (previous, s)) :
    s.SpeakersConsistent presets ↔ (SpeakerStep.assignPart id params).Kept presets db := by
  unfold assignPart at h
  cases hrow : db.partWithEvent id with
  | none =>
    rw [hrow] at h
    cases h
  | some row =>
    rw [hrow] at h
    simp only at h
    cases hexternal : params.externalSpeakerId with
    | some speakerId =>
      simp only [hexternal, Tx.bind_eq_ok, Tx.exists_unit] at h
      obtain ⟨hvalid, hdone⟩ := h
      obtain ⟨_, rfl⟩ := Prod.mk.inj (Except.ok.inj hdone)
      obtain ⟨speaker, hfind⟩ := Option.ne_none_iff_exists'.mp (Tx.refuseWhen_ok.mp hvalid)
      have hregistered : ∃ speaker ∈ db.externalSpeakers, speaker.id = speakerId := by
        refine ⟨speaker, List.mem_of_find?_eq_some hfind, ?_⟩
        have hfound := List.find?_some hfind
        simp only [Bool.and_eq_true, beq_iff_eq] at hfound
        exact hfound.1
      rw [speakersConsistent_updateParts_iff hdb]
      have hkept : (SpeakerStep.assignPart id params).Kept presets db ↔
          ∀ p ∈ db.eventParts, p.id = id → allowsExternalSpeaker presets p = true := by
        refine ⟨fun hk => hk speakerId hexternal hvalid (by simp [hrow]), fun hall k _ _ _ => hall⟩
      rw [hkept]
      refine forall₂_congr fun p hp => forall_congr' fun hid => ⟨fun hafter => ?_, fun hallowed => ?_⟩
      · exact hafter.allowed (Option.some_ne_none speakerId)
      · refine ⟨fun _ => hallowed, fun _ => ⟨rfl, rfl⟩, fun k hk => ?_, fun k hk => ?_⟩
        · exact Option.some.inj hk ▸ hregistered
        · cases hk
    | none =>
      simp only [hexternal, Tx.bind_eq_ok, Tx.exists_unit] at h
      obtain ⟨hdistinct, _, _, _, _, hdone⟩ := h
      obtain ⟨_, rfl⟩ := Prod.mk.inj (Except.ok.inj hdone)
      -- without an external speaker nothing is asked of the part
      refine iff_of_true ?_ fun k hk => by simp [hexternal] at hk
      rw [speakersConsistent_updateParts_iff hdb]
      intro p hp hid
      refine ⟨fun hno => absurd rfl hno, fun hno => absurd rfl hno, fun k hk => ?_, ?_⟩
      · cases hk
      · exact checkParticipantsDistinct_ok.mp hdistinct

theorem unassignPart_speakers {id : Nat} {previous : PartAssignees} (hdb : db.SpeakersConsistent presets)
    (h : unassignPart db id = some (previous, s)) : s.SpeakersConsistent presets := by
  obtain ⟨part, _, heq⟩ := Option.map_eq_some_iff.mp h
  obtain ⟨_, rfl⟩ := Prod.mk.inj heq
  rw [speakersConsistent_updateParts_iff hdb]
  exact fun p _ _ => .of_bare rfl rfl

/-- The step lemma. -/
theorem SpeakerStep.consistent (hdb : db.SpeakersConsistent presets) {step : SpeakerStep}
    (hkept : step.Kept presets db) : (step.apply rt timezone db).SpeakersConsistent presets := by
  cases step with
  | addPartAssignment eventId data roles => exact (addPartAssignment_speakers eventId data roles).settle hdb
  | updatePartAssignment id data roles =>
    rcases Tx.settle_uncaught (Events.updatePartAssignment id data roles) db with ⟨_, hok⟩ | hsame
    · exact (updatePartAssignment_consistent_iff hdb hok).mpr hkept
    · show ((Events.updatePartAssignment id data roles).settle _ db).SpeakersConsistent presets
      rw [hsame]
      exact hdb
  | applyTemplateToEvent eventId templateId =>
    exact (applyTemplateToEvent_speakers eventId templateId).settle hdb
  | generateEvents now templateId occurrences createdById startFrom =>
    exact (generateEvents_speakers now templateId occurrences createdById startFrom).settle hdb
  | createSingleEvent templateId date createdById =>
    exact (createSingleEvent_speakers templateId date createdById).settle hdb
  | assignPart id params =>
    cases hassign : Events.assignPart db id params with
    | error message =>
      simp only [SpeakerStep.apply, hassign]
      exact hdb
    | ok out =>
      simp only [SpeakerStep.apply, hassign]
      exact (assignPart_consistent_iff hdb hassign).mpr hkept
  | unassignPart id =>
    cases hunassign : Events.unassignPart db id with
    | none =>
      simp only [SpeakerStep.apply, hunassign]
      exact hdb
    | some out =>
      simp only [SpeakerStep.apply, hunassign]
      exact unassignPart_speakers hdb hunassign

end Step

/-! ## Runs -/

/-- **The speaker fields of every part agree** in every run of steps that keep the permission and the speaker
together. -/
theorem speakers_consistent {rt : Runtime} {timezone : String} {presets : List PresetCapability}
    {start db : EventDb} (hstart : start.SpeakersConsistent presets)
    (hrun : Reach (SpeakerStep.apply rt timezone) (SpeakerStep.Kept presets) start db) :
    db.SpeakersConsistent presets :=
  hrun.invariant hstart fun _ _ h hkept => SpeakerStep.consistent h hkept

/-- A draft event with one part, which allows no external speaker, and one speaker on the registry. -/
def onePart : EventDb :=
  { EventDb.empty with
    events := [⟨1, "Réunion", 0, 1, .draft, none, 1⟩]
    eventParts := [blankPart 1 1]
    externalSpeakers := [⟨1, none⟩]
    nextEventId := 2
    nextEventPartId := 2 }

theorem onePart_consistent : onePart.SpeakersConsistent [] := by
  intro p hp
  rw [List.mem_singleton.mp hp]
  exact .of_bare rfl rfl

def assignSpeaker : SpeakerStep := .assignPart 1 ⟨⟨none, none⟩, some 1, "", none⟩

/-- The part as an editor that ticks the permission submits it. -/
def allowSpeaker : SpeakerStep :=
  .updatePartAssignment 1 ⟨"Discours", "", "", none, 0, none, true, none, none, none⟩ ⟨none, none⟩

theorem speakers_consistent_allowed :
    ([allowSpeaker, assignSpeaker].foldl (SpeakerStep.apply .utc "UTC") onePart).SpeakersConsistent [] := by
  refine speakers_consistent onePart_consistent (.foldl ⟨?_, ?_, trivial⟩)
  · intro p hp _ hspeaker
    rw [List.mem_singleton.mp hp] at hspeaker
    exact absurd rfl hspeaker
  · intro speakerId _ _ _ p hp _
    have hparts : (allowSpeaker.apply .utc "UTC" onePart).eventParts =
        [{ blankPart 1 1 with name := "Discours", allowExternalSpeaker := true }] := by decide +kernel
    rw [hparts] at hp
    rw [List.mem_singleton.mp hp, allowsExternalSpeaker_nil]

/-- The writer does not ask whether the part allows the speaker it is given. -/
theorem speaker_unallowed :
    ¬∀ (rt : Runtime) (timezone : String) (start db : EventDb), start.SpeakersConsistent [] →
      Reach (SpeakerStep.apply rt timezone) (fun _ _ => True) start db → db.SpeakersConsistent [] := by
  intro hall
  have hafter := hall .utc "UTC" onePart (assignSpeaker.apply .utc "UTC" onePart) onePart_consistent
    (.one trivial)
  have hparts : (assignSpeaker.apply .utc "UTC" onePart).eventParts =
      [{ blankPart 1 1 with externalSpeakerId := some 1 }] := by decide +kernel
  have hpart := hafter { blankPart 1 1 with externalSpeakerId := some 1 }
    (hparts ▸ List.mem_singleton_self _)
  have hallowed := hpart.allowed (Option.some_ne_none 1)
  rw [allowsExternalSpeaker_nil] at hallowed
  exact Bool.false_ne_true hallowed

end Unitae.Events
