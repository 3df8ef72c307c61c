import Unitae.Events.AllowedRoles

/-!
# Unitae — assigning parts and service roles (`event-part-assignments.server.ts`)

A participant must be eligible for the slot and, on a released event, free; on a draft an absence is
noted in `hasConflict`, which the release looks at. The policy's messages are those of
`event-part.policy.ts`. The writers answer an error or the previous assignment, and refuse nothing.
-/

namespace Unitae.Events

open Roles

/-! ## The policy -/

def assignmentNotFound : String := "L'attribution n'existe pas."

def externalSpeakerInvalid : String := "Cet orateur externe n'existe pas ou a été archivé."

def participantsNotDistinct : String :=
  "L'orateur et le lecteur ne peuvent pas être la même personne."

/-- `INELIGIBLE_MESSAGE`. -/
def ineligibleMessage : ProgrammeRole → String
  | .speaker => "L'orateur sélectionné ne fait pas partie des rôles autorisés pour cette partie."
  | .reader => "Le deuxième orateur sélectionné ne fait pas partie des rôles autorisés pour cette partie."
  | .servant => "Le proclamateur sélectionné ne fait pas partie des rôles autorisés pour ce service."

/-- `DAY_OFF_MESSAGE`. -/
def dayOffMessage : ProgrammeRole → String
  | .speaker => "Ce proclamateur a une absence durant cette date."
  | .reader => "Le deuxième orateur a une absence durant cette date."
  | .servant => "Ce proclamateur a une absence durant cette date."

def checkExternalSpeakerValid (db : EventDb) (externalSpeakerId : Nat) : Except String Unit :=
  Tx.refuseWhen ((db.externalSpeakers.find? fun s => s.id == externalSpeakerId &&
    s.archivedAt.isNone) = none) externalSpeakerInvalid

def checkParticipantsDistinct (assignees : PartAssignees) : Except String Unit :=
  Tx.refuseWhen (assignees.assigneeId.isSome ∧ assignees.assigneeId = assignees.assistantId)
    participantsNotDistinct

/-! ## Absences -/

/-- A day off of the member overlaps the dates. -/
def checkDayOffConflict (db : EventDb) (memberId : Nat) (startDate endDate : Instant) : Bool :=
  db.events.any fun e => db.creatorMemberId e == some memberId && db.isDayOff e &&
    e.startDate ≤ endDate && startDate ≤ e.endDate

/-- What a participant of a slot adds to `hasConflict`, or why it may not be assigned. -/
def checkParticipant (db : EventDb) (allowed : List Nat) (participantId : Option Nat)
    (role : ProgrammeRole) (event : Event) : Except String Bool :=
  match participantId with
  | none => .ok false
  | some memberId => do
    Tx.refuseWhen (memberId ∉ resolveEligibleUserIds db allowed) (ineligibleMessage role)
    let absent := checkDayOffConflict db memberId event.startDate event.endDate
    Tx.refuseWhen (absent = true ∧ event.status = .released) (dayOffMessage role)
    return absent

/-- `checkPartParticipant`, on the roles allowed for the slot. -/
def checkPartParticipant (db : EventDb) (assignmentId : Nat) (participantId : Option Nat)
    (kind : PartRoleKind) (event : Event) : Except String Bool :=
  checkParticipant db (getPartAssignmentAllowedRoleIds db assignmentId kind) participantId
    (match kind with | .speaker => .speaker | .reader => .reader) event

/-! ## The writers -/

/-- The invisible formatting characters of `sanitizeText`. -/
def isInvisible (c : Char) : Bool :=
  [0xAD, 0x34F, 0x180E, 0x2060, 0xFEFF].contains c.toNat ||
    (0x200B ≤ c.toNat && c.toNat ≤ 0x200D) || (0x202A ≤ c.toNat && c.toNat ≤ 0x202E) ||
    (0x2066 ≤ c.toNat && c.toNat ≤ 0x2069)

def sanitizeText (input : String) : String :=
  String.ofList (input.toList.filter fun c => !isInvisible c)

structure AssignPartParams where
  assignees : PartAssignees
  externalSpeakerId : Option Nat
  topic : String
  durationMin : Option Int
deriving DecidableEq, Repr

/-- The part row and its event, as the writer reads them. -/
def EventDb.partWithEvent (db : EventDb) (assignmentId : Nat) : Option (EventPart × Event) :=
  (db.partById assignmentId).bind fun part => (db.eventById part.eventId).map (part, ·)

def EventDb.servicePartWithEvent (db : EventDb) (assignmentId : Nat) :
    Option (EventServicePart × Event) :=
  (db.servicePartById assignmentId).bind fun service =>
    (db.eventById service.eventId).map (service, ·)

/-- An external speaker takes the place of both members. -/
def assignPart (db : EventDb) (assignmentId : Nat) (params : AssignPartParams) :
    Except String (PartAssignees × EventDb) :=
  match db.partWithEvent assignmentId with
  | none => .error assignmentNotFound
  | some (existing, event) => do
    let previous : PartAssignees := ⟨existing.assigneeId, existing.assistantId⟩
    match params.externalSpeakerId with
    | some externalSpeakerId =>
      checkExternalSpeakerValid db externalSpeakerId
      return (previous, db.updateParts (fun p => p.id == assignmentId) fun p =>
        { p with
          assigneeId := none
          assistantId := none
          externalSpeakerId := some externalSpeakerId
          topic := sanitizeText params.topic
          hasConflict := false
          durationMin := params.durationMin })
    | none =>
      checkParticipantsDistinct params.assignees
      let speakerConflict ←
        checkPartParticipant db assignmentId params.assignees.assigneeId .speaker event
      let readerConflict ←
        checkPartParticipant db assignmentId params.assignees.assistantId .reader event
      return (previous, db.updateParts (fun p => p.id == assignmentId) fun p =>
        { p with
          assigneeId := params.assignees.assigneeId
          assistantId := params.assignees.assistantId
          externalSpeakerId := none
          topic := sanitizeText params.topic
          hasConflict := speakerConflict || readerConflict
          durationMin := params.durationMin })

def assignServicePart (db : EventDb) (assignmentId : Nat) (assigneeId : Option Nat) :
    Except String (Option Nat × EventDb) :=
  match db.servicePartWithEvent assignmentId with
  | none => .error assignmentNotFound
  | some (existing, event) => do
    let hasConflict ← checkParticipant db (getServicePartAssignmentAllowedRoleIds db assignmentId)
      assigneeId .servant event
    return (existing.assigneeId, db.updateServiceParts (fun s => s.id == assignmentId) fun s =>
      { s with assigneeId := assigneeId, hasConflict := hasConflict })

/-- `none` when there is no such row. -/
def unassignPart (db : EventDb) (assignmentId : Nat) : Option (PartAssignees × EventDb) :=
  (db.partById assignmentId).map fun existing =>
    (⟨existing.assigneeId, existing.assistantId⟩,
      db.updateParts (fun p => p.id == assignmentId) fun p =>
        { p with assigneeId := none, assistantId := none, externalSpeakerId := none
                 hasConflict := false })

def unassignServicePart (db : EventDb) (assignmentId : Nat) : Option (Option Nat × EventDb) :=
  (db.servicePartById assignmentId).map fun existing =>
    (existing.assigneeId, db.updateServiceParts (fun s => s.id == assignmentId) fun s =>
      { s with assigneeId := none, hasConflict := false })

/-! ## What a successful assignment writes -/

section Spec

variable {db db' : EventDb} {assignmentId memberId : Nat} {allowed : List Nat}
  {participantId : Option Nat} {role : ProgrammeRole} {event : Event} {absent : Bool}

/-- A participant that passes adds exactly its absence. -/
theorem checkParticipant_ok (h : checkParticipant db allowed participantId role event = .ok absent) :
    absent = participantId.any fun memberId =>
      checkDayOffConflict db memberId event.startDate event.endDate := by
  cases participantId with
  | none => exact (Except.ok.inj h).symm
  | some memberId =>
    simp only [checkParticipant, Tx.bind_eq_ok, Tx.exists_unit, Tx.refuseWhen_ok] at h
    exact (Except.ok.inj h.2.2).symm

/-- **What an assignment of a part writes:** its two slots, and whether one of the two is absent. -/
theorem assignPart_ok {params : AssignPartParams} {previous : PartAssignees}
    (h : assignPart db assignmentId params = .ok (previous, db')) :
    ∃ part event f, db.partWithEvent assignmentId = some (part, event) ∧
      db' = db.updateParts (fun p => p.id == assignmentId) f ∧
      ∀ p, (f p).id = p.id ∧ (f p).eventId = p.eventId ∧
        (f p).hasConflict = ([(f p).assigneeId, (f p).assistantId].any fun slot => slot.any
          fun memberId => checkDayOffConflict db memberId event.startDate event.endDate) := by
  unfold assignPart at h
  cases hrow : db.partWithEvent assignmentId with
  | none =>
    rw [hrow] at h
    cases h
  | some row =>
    obtain ⟨part, event⟩ := row
    rw [hrow] at h
    simp only at h
    cases hexternal : params.externalSpeakerId with
    | some externalSpeakerId =>
      simp only [hexternal, Tx.bind_eq_ok, Tx.exists_unit] at h
      obtain ⟨_, hdb⟩ := Prod.mk.inj (Except.ok.inj h.2)
      exact ⟨part, event, _, rfl, hdb.symm, fun p => ⟨rfl, rfl, rfl⟩⟩
    | none =>
      simp only [hexternal, Tx.bind_eq_ok, Tx.exists_unit] at h
      obtain ⟨_, speaker, hspeaker, reader, hreader, hdone⟩ := h
      obtain ⟨_, hdb⟩ := Prod.mk.inj (Except.ok.inj hdone)
      refine ⟨part, event, _, rfl, hdb.symm, fun p => ⟨rfl, rfl, ?_⟩⟩
      rw [checkParticipant_ok hspeaker, checkParticipant_ok hreader]
      simp

theorem assignServicePart_ok {assigneeId previous : Option Nat}
    (h : assignServicePart db assignmentId assigneeId = .ok (previous, db')) :
    ∃ service event f, db.servicePartWithEvent assignmentId = some (service, event) ∧
      db' = db.updateServiceParts (fun s => s.id == assignmentId) f ∧
      ∀ s, (f s).id = s.id ∧ (f s).eventId = s.eventId ∧
        (f s).hasConflict = (f s).assigneeId.any fun memberId =>
          checkDayOffConflict db memberId event.startDate event.endDate := by
  unfold assignServicePart at h
  cases hrow : db.servicePartWithEvent assignmentId with
  | none =>
    rw [hrow] at h
    cases h
  | some row =>
    obtain ⟨service, event⟩ := row
    rw [hrow] at h
    simp only [Tx.bind_eq_ok] at h
    obtain ⟨conflict, hconflict, hdone⟩ := h
    obtain ⟨_, hdb⟩ := Prod.mk.inj (Except.ok.inj hdone)
    exact ⟨service, event, _, rfl, hdb.symm, fun s => ⟨rfl, rfl, checkParticipant_ok hconflict⟩⟩

end Spec

end Unitae.Events
