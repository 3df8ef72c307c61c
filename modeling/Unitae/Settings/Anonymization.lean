import Unitae.Publishers.GroupLeaders
import Unitae.Territories.Attribution

/-!
# Unitae — anonymizing people

`anonymize-member.workflow.ts`, `anonymize-retention.server.ts` and `emergency-info.aggregate.ts`, over the
members, the attributions and the emergency contacts together. Two paths anonymize: the workflow an
administrator starts, which first closes the member's attributions, and the sweep of the members who left
long ago, which calls the member aggregate alone.
-/

namespace Unitae.Settings

open Publishers (Member MemberDb MemberTx PersonText MemberFormFields UpdateGroupParams)
open Territories (TerritoryDb TerritoryTx CreateAttributionParams UpdateAttributionParams)

structure EmergencyContact where
  id : Nat
  memberId : Nat
  name : String
  relationship : String
  phone : String
deriving DecidableEq, Repr

/-- The two columns of a member's row that the emergency form writes. -/
structure EmergencyFlags where
  memberId : Nat
  dpaCardUpToDate : Bool
  survivalBackpackReady : Bool
deriving DecidableEq, Repr

structure PersonDb where
  people : MemberDb
  territories : TerritoryDb
  emergencyFlags : List EmergencyFlags
  emergencyContacts : List EmergencyContact
  nextContactId : Nat
deriving DecidableEq, Repr

abbrev PersonTx (α : Type) := Tx PersonDb Failure α

def onPeople {α : Type} (x : MemberTx α) : PersonTx α :=
  x.on PersonDb.people fun db people => { db with people := people }

/-- The attributions, whose publishers are the members of the congregation. -/
def PersonDb.territoryDb (db : PersonDb) : TerritoryDb :=
  { db.territories with members := db.people.members.map (·.id) }

def onTerritories {α : Type} (x : TerritoryTx α) : PersonTx α :=
  x.on PersonDb.territoryDb fun db territories => { db with territories := territories }

/-! ## Emergency information -/

structure EmergencyContactInput where
  name : String
  relationship : String
  phone : String
deriving DecidableEq, Repr

structure UpdateEmergencyInfoParams where
  dpaCardUpToDate : Bool
  survivalBackpackReady : Bool
  contacts : List EmergencyContactInput
deriving DecidableEq, Repr

/-- `db.emergencyContact.deleteMany({ where: { memberId } })`. -/
def purgeEmergencyContacts (memberId : Nat) (db : PersonDb) : PersonDb :=
  { db with emergencyContacts := db.emergencyContacts.filter fun c => c.memberId != memberId }

def EmergencyContactInput.row (memberId id : Nat) (contact : EmergencyContactInput) :
    EmergencyContact where
  id := id
  memberId := memberId
  name := contact.name
  relationship := contact.relationship
  phone := contact.phone

/-- `db.emergencyContact.createMany`. -/
def createContacts (memberId : Nat) (contacts : List EmergencyContactInput) (db : PersonDb) :
    PersonDb :=
  { db with
    emergencyContacts := db.emergencyContacts ++
      (contacts.zipIdx db.nextContactId).map fun (contact, id) => contact.row memberId id
    nextContactId := db.nextContactId + contacts.length }

def UpdateEmergencyInfoParams.flags (params : UpdateEmergencyInfoParams) (memberId : Nat) :
    EmergencyFlags where
  memberId := memberId
  dpaCardUpToDate := params.dpaCardUpToDate
  survivalBackpackReady := params.survivalBackpackReady

def updateEmergencyFlags (memberId : Nat) (params : UpdateEmergencyInfoParams) (db : PersonDb) :
    PersonDb :=
  { db with emergencyFlags := db.emergencyFlags.map fun flags =>
      if flags.memberId = memberId then params.flags memberId else flags }

/-- Replace the whole contact set: the form submits the complete desired list. -/
def updateEmergencyInfo (memberId : Nat) (params : UpdateEmergencyInfoParams) : PersonTx Unit := do
  let db ← get
  let _ ← Tx.check (db.people.memberOrRefuse memberId (.database .recordNotFound))
  modify (updateEmergencyFlags memberId params)
  modify (purgeEmergencyContacts memberId)
  modify (createContacts memberId params.contacts)

/-! ## Anonymizing one member -/

/-- `memberAggregate.anonymize`. The contacts are removed by hand: the row is updated, so the foreign key
never cascades. -/
def anonymize (memberId : Nat) (now : Instant) : PersonTx Unit := do
  let db ← get
  match ← Tx.check (Publishers.anonymizeRead db.people memberId) with
  | none => pure ()
  | some seen =>
    onPeople (Publishers.scrubMember seen now)
    modify (purgeEmergencyContacts memberId)

/-- Territories handed back, then the person left the roster. -/
def anonymizeMemberWorkflow (memberId : Nat) (now : Instant) : PersonTx Unit := do
  onTerritories (Territories.markReturnedForPublisher memberId now)
  anonymize memberId now

/-! ## The retention sweep -/

def retentionCutoff (retentionMonths : Int) (now : Instant) : Instant :=
  setUTCMonth now (getUTCMonth now - retentionMonths)

/-- Left on or before the cutoff, and not anonymized yet. -/
def isRetentionCandidate (cutoff : Instant) (m : Member) : Bool :=
  m.anonymizedAt.isNone && m.leftAt.any fun leftAt => leftAt ≤ cutoff

def findRetentionCandidates (db : MemberDb) (retentionMonths : Int) (now : Instant) : List Nat :=
  (db.members.filter (isRetentionCandidate (retentionCutoff retentionMonths now))).map (·.id)

structure RetentionTally where
  anonymized : Nat
  skipped : Nat
deriving DecidableEq, Repr

/-- A candidate whose anonymization throws is skipped. -/
def anonymizeOrSkip (clock : Instant) (tally : RetentionTally) (memberId : Nat) :
    PersonTx RetentionTally :=
  tryCatch
    (do
      anonymize memberId clock
      return { tally with anonymized := tally.anonymized + 1 })
    fun _ => return { tally with skipped := tally.skipped + 1 }

/-- `now` fixes the cutoff; `clock` is what `new Date()` reads when a row is scrubbed. -/
def autoAnonymizeRetentionCandidates (retentionMonths : Int) (now clock : Instant) :
    PersonTx RetentionTally := do
  let db ← get
  (findRetentionCandidates db.people retentionMonths now).foldlM (anonymizeOrSkip clock) ⟨0, 0⟩

/-- The cutoff keeps the day of the month where it can: half a year before 1 July is 1 January. -/
example : retentionCutoff 6 (Calendar.msPerDay * Calendar.daysFromCivil 2026 7 1) =
    Calendar.msPerDay * Calendar.daysFromCivil 2026 1 1 := by decide

/-! ## Operations -/

/-- What may happen to a member, before and after the anonymization. -/
inductive PersonOp where
  | anonymizeMember (memberId : Nat) (now : Instant)
  | autoAnonymizeRetentionCandidates (retentionMonths : Int) (now clock : Instant)
  | setLifecycle (memberId : Nat) (state : Roles.LifecycleState) (at_ : Option Instant)
      (now : Instant)
  | updateIdentity (memberId : Nat) (params : MemberFormFields)
  | togglePublisher (memberId : Nat) (isPublisher : Bool)
  | setGroup (memberId : Nat) (groupId : Option Nat)
  | updateEmergencyInfo (memberId : Nat) (params : UpdateEmergencyInfoParams)
  | assign (params : CreateAttributionParams)
  | updateAttribution (id : Nat) (params : UpdateAttributionParams)
  | createPublisherGroup (params : UpdateGroupParams)
  | updateGroup (groupId : Nat) (params : UpdateGroupParams)
  | deletePublisherGroup (groupId : Nat)
  | addGroupMember (groupId memberId : Nat)
  | removeGroupMember (groupId memberId : Nat)

def PersonOp.run (rt : PersonText) (tz : LocalTime) : PersonOp → PersonTx Unit
  | .anonymizeMember memberId now => anonymizeMemberWorkflow memberId now
  | .autoAnonymizeRetentionCandidates retentionMonths now clock => do
    let _ ← Settings.autoAnonymizeRetentionCandidates retentionMonths now clock
    return ()
  | .setLifecycle memberId state at_ now => onPeople (Publishers.setLifecycle memberId state at_ now)
  | .updateIdentity memberId params =>
    onPeople (Publishers.discard (Publishers.updateIdentity rt memberId params))
  | .togglePublisher memberId isPublisher =>
    onPeople (Publishers.discard (Publishers.togglePublisher memberId isPublisher))
  | .setGroup memberId groupId => onPeople (Publishers.setGroup rt memberId groupId)
  | .updateEmergencyInfo memberId params => Settings.updateEmergencyInfo memberId params
  | .assign params => onTerritories (Territories.assign tz params)
  | .updateAttribution id params => onTerritories (Territories.update id params)
  | .createPublisherGroup params =>
    onPeople (Publishers.discard (Publishers.createPublisherGroup rt params))
  | .updateGroup groupId params =>
    onPeople (Publishers.discard (Publishers.updateGroup rt groupId params))
  | .deletePublisherGroup groupId => onPeople (Publishers.deletePublisherGroup groupId)
  | .addGroupMember groupId memberId =>
    onPeople (Publishers.discard (Publishers.addGroupMember rt groupId memberId))
  | .removeGroupMember groupId memberId =>
    onPeople (Publishers.discard (Publishers.removeGroupMember rt groupId memberId))

/-- One request; its caller commits what it left when it catches the refusal, and rolls back otherwise. -/
def PersonDb.step (rt : PersonText) (tz : LocalTime) (caught : Failure → Bool) (db : PersonDb)
    (op : PersonOp) : PersonDb :=
  (op.run rt tz).settle caught db

end Unitae.Settings
