import Unitae.Events.Assignments
import Unitae.Events.Programme

/-!
# Unitae — absences, the conflict flags they refresh, and the release

`days-off.server.ts`, `refresh-conflict-flags.server.ts` and `event-status.server.ts`. An absence is
written as a released event of the day-off template. The refresh recomputes the flag of the member's rows
on the events that overlap the absence; the release trusts the flags.

Where the refresh returns early it would write nothing. The notifications of a release are sent after
it, and are left out.
-/

namespace Unitae.Events

open Roles

/-! ## Refreshing the flags -/

/-- Programme events overlapping the range, whether or not they have a template. -/
def EventDb.overlappingEvents (db : EventDb) (startDate endDate : Instant) : List Event :=
  db.events.filter fun e => !db.isDayOff e && e.startDate ≤ endDate && startDate ≤ e.endDate

def participantIds (parts : List EventPart) (services : List EventServicePart) : List Nat :=
  parts.flatMap (fun p => p.assigneeId.toList ++ p.assistantId.toList) ++
    services.flatMap fun s => s.assigneeId.toList

/-- The days off of the participants within the window that the events span. -/
def EventDb.dayOffsWithin (db : EventDb) (participants : List Nat) (windowStart windowEnd : Instant) :
    List Event :=
  db.events.filter fun e => db.isDayOff e && participants.any (fun m => db.creatorMemberId e == some m) &&
    e.startDate ≤ windowEnd && windowStart ≤ e.endDate

/-- `isAbsent`, over the days off and the events that were read. -/
def EventDb.isAbsentIn (db : EventDb) (dayOffs overlapping : List Event) (participantId : Option Nat)
    (eventId : Nat) : Bool :=
  match participantId, overlapping.find? (·.id == eventId) with
  | some memberId, some event => dayOffs.any fun range =>
      db.creatorMemberId range == some memberId && range.startDate ≤ event.endDate &&
        event.startDate ≤ range.endDate
  | _, _ => false

/-- The rows of one table are written in two statements at most. -/
def EventDb.writePartFlags (parts : List EventPart) (conflict : EventPart → Bool) (db : EventDb) :
    EventDb :=
  let partsInConflict := (parts.filter conflict).map (·.id)
  let partsClear := (parts.filter fun p => !conflict p).map (·.id)
  (db.updateParts (fun p => partsInConflict.contains p.id) fun p => { p with hasConflict := true }).updateParts
    (fun p => partsClear.contains p.id) fun p => { p with hasConflict := false }

def EventDb.writeServiceFlags (services : List EventServicePart) (conflict : EventServicePart → Bool)
    (db : EventDb) : EventDb :=
  let servicesInConflict := (services.filter conflict).map (·.id)
  let servicesClear := (services.filter fun s => !conflict s).map (·.id)
  (db.updateServiceParts (fun s => servicesInConflict.contains s.id)
    fun s => { s with hasConflict := true }).updateServiceParts
      (fun s => servicesClear.contains s.id) fun s => { s with hasConflict := false }

def refreshConflictFlags (memberId : Nat) (startDate endDate : Instant) (db : EventDb) : EventDb :=
  let overlapping := db.overlappingEvents startDate endDate
  let eventIds := overlapping.map (·.id)
  let parts := db.eventParts.filter fun p => eventIds.contains p.eventId &&
    (p.assigneeId == some memberId || p.assistantId == some memberId)
  let services := db.eventServiceParts.filter fun s =>
    eventIds.contains s.eventId && s.assigneeId == some memberId
  let windowStart := overlapping.foldl (fun bound e => min e.startDate bound) startDate
  let windowEnd := overlapping.foldl (fun bound e => max e.endDate bound) endDate
  let dayOffs := db.dayOffsWithin (participantIds parts services) windowStart windowEnd
  let absent := db.isAbsentIn dayOffs overlapping
  (db.writePartFlags parts fun p => absent p.assigneeId p.eventId || absent p.assistantId p.eventId).writeServiceFlags
    services fun s => absent s.assigneeId s.eventId

/-! ## Days off -/

/-- `m.seed_template_day_off()`. -/
def dayOffName : String := "Absence"

def createDayOff (accountId : Nat) (memberId : Option Nat) (startDate endDate : Option Instant) :
    Tx EventDb Failure (Option Event) := do
  let db ← get
  match startDate, endDate with
  | some startDate, some endDate =>
    if startDate > endDate then return none
    match db.templateByKey dayOffKey with
    | none => throw (.app (.notFound "Day-off template" none))
    | some dayOffTemplate =>
      Tx.check (Tx.refuseWhen (db.directory.accountById accountId = none) (.database .recordNotFound))
      let event : Event := ⟨db.nextEventId, dayOffName, startDate, endDate, .released,
        some dayOffTemplate.id, accountId⟩
      modify (·.createEvent fun _ => event)
      modify fun db => memberId.elim db fun memberId => refreshConflictFlags memberId startDate endDate db
      return some event
  | _, _ => return none

/-- Whatever the event is. -/
def deleteDayOff (eventId : Nat) (memberId : Option Nat) : Tx EventDb Failure Event := do
  let db ← get
  match db.eventById eventId with
  | none => throw (.database .recordNotFound)
  | some event =>
    modify (·.deleteEvents fun e => e.id == eventId)
    modify fun db => memberId.elim db fun memberId =>
      refreshConflictFlags memberId event.startDate event.endDate db
    return event

/-! ## Release -/

def releaseBlockedByConflicts : String :=
  "Impossible de publier : cet événement a des conflits d'absence à résoudre."

def assertCanRelease (parts : List EventPart) (services : List EventServicePart) :
    Except String Unit :=
  Tx.refuseWhen ((parts.any (·.hasConflict) || services.any (·.hasConflict)) = true)
    releaseBlockedByConflicts

/-- `none` when there is no such event, the message of the policy, or the store after the release. -/
def releaseEvent (db : EventDb) (eventId : Nat) : Option (Except String EventDb) :=
  (db.eventById eventId).map fun event =>
    if event.status = .released then .ok db
    else do
      assertCanRelease (db.eventParts.filter (·.eventId == eventId))
        (db.eventServiceParts.filter (·.eventId == eventId))
      return db.updateEvents (fun e => e.id == eventId) fun e => { e with status := .released }

def unreleaseEvent (db : EventDb) (eventId : Nat) : Option EventDb :=
  (db.eventById eventId).map fun event =>
    if event.status = .draft then db
    else db.updateEvents (fun e => e.id == eventId) fun e => { e with status := .draft }

end Unitae.Events
