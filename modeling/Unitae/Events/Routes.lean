import Unitae.Events.Assignments
import Unitae.Events.Programme
import Unitae.Roles.Permissions

/-!
# Unitae — who may edit an event (`events-auth.server.ts`) and what the routes do then

A caller acts on an event with a congregation-wide permission, or as the responsible of the event's
template. `canEditEvent` answers for the event of the URL. The assignment routes then pair the submitted
row with that event; the edit intents and the reordering pass the submitted ids on.

A form is taken as its schema parses it. Redirects leave the transaction without a write.
-/

namespace Unitae.Events

open Roles

/-! ## Responsibility for a template -/

structure Caller where
  id : Nat
  permissions : List String
deriving DecidableEq, Repr

def Caller.can (caller : Caller) (permission : String) : Bool :=
  caller.permissions.contains permission

def canManagePrograms : String := "can-manage-programs"

def canAssignProgramParts : String := "can-assign-program-parts"

/-- `resolveEffectiveRoleIds`. -/
def EventDb.effectiveRoleIds (db : EventDb) (userId : Nat) : List Nat :=
  ((db.directory.roles.map (·.id)).filter fun roleId => db.directory.Assigned userId roleId).eraseDups

/-- The scopes whose holders satisfy a request for the scope. -/
def scopesCovering : ResponsibilityScope → List ResponsibilityScope
  | .service => [.programme, .service]
  | .programme => [.programme]

def isTemplateResponsible (db : EventDb) (templateId userId : Nat) (scope : ResponsibilityScope) :
    Option TemplateResponsible :=
  let roleIds := db.effectiveRoleIds userId
  db.templateResponsibles.find? fun r => r.templateId == templateId && roleIds.contains r.roleId &&
    (scopesCovering scope).contains r.scope

def canEditEvent (db : EventDb) (caller : Caller) (templateId : Option Nat) (required : String)
    (scope : ResponsibilityScope) : Bool :=
  caller.can required ||
    templateId.any fun templateId => (isTemplateResponsible db templateId caller.id scope).isSome

inductive AssignmentKind where
  | part
  | service
deriving DecidableEq, Repr

/-- The row belongs to the event. An id that is no number, `none` here, belongs to none. -/
def assignmentBelongsToEvent (db : EventDb) (kind : AssignmentKind) (assignmentId : Option Nat)
    (eventId : Nat) : Bool :=
  match kind with
  | .part => db.eventParts.any fun p => some p.id == assignmentId && p.eventId == eventId
  | .service => db.eventServiceParts.any fun s => some s.id == assignmentId && s.eventId == eventId

/-! ## The edit intents (`_edit-event-intents.server.ts`) -/

structure PartForm where
  fields : PartFields
  allowedSpeakerRoleIds : List Nat
  allowedReaderRoleIds : List Nat
  managedRoleSlots : List String
deriving DecidableEq, Repr

/-- A slot that the editor did not draw is left alone. -/
def partAllowedRolesToWrite (form : PartForm) : PartRoleSelection where
  speaker := if form.managedRoleSlots.contains "speaker" then some form.allowedSpeakerRoleIds else none
  reader := if form.managedRoleSlots.contains "reader" then some form.allowedReaderRoleIds else none

structure EventForm where
  name : String
  date : String
  startTime : String
  endTime : String
deriving DecidableEq, Repr

inductive EditIntent where
  | updateEvent (form : EventForm)
  | addPart (form : PartForm)
  | updatePart (partAssignmentId : Nat) (form : PartForm)
  | deletePart (partAssignmentId : Nat)
  | addService (serviceName : String) (allowedRoleIds : List Nat)
  | updateService (serviceAssignmentId : Nat) (serviceName : String) (allowedRoleIds : List Nat)
  | deleteService (serviceAssignmentId : Nat)
  | applyTemplate (templateId : Nat)
deriving DecidableEq, Repr

def handleUpdateEvent (rt : Runtime) (eventId : Nat) (form : EventForm) (timezone : String) :
    Tx EventDb Failure Unit := do
  let startDate ← Tx.check (requireDate (combineLocalDateTime rt form.date form.startTime timezone))
  let endDate ← Tx.check (requireDate (combineLocalDateTime rt form.date form.endTime timezone))
  updateEvent eventId ⟨some form.name, some startDate, some endDate⟩

def handleEditIntent (rt : Runtime) (eventId : Nat) (timezone : String) :
    EditIntent → Tx EventDb Failure Unit
  | .updateEvent form => handleUpdateEvent rt eventId form timezone
  | .addPart form => addPartAssignment eventId form.fields (partAllowedRolesToWrite form)
  | .updatePart id form => updatePartAssignment id form.fields (partAllowedRolesToWrite form)
  | .deletePart id => deletePartAssignment id
  | .addService name allowedRoleIds => addServicePartAssignment eventId name allowedRoleIds
  | .updateService id name allowedRoleIds => updateServicePartAssignment id name allowedRoleIds
  | .deleteService id => deleteServicePartAssignment id
  | .applyTemplate templateId => do let _ ← applyTemplateToEvent eventId templateId

/-! ## The routes -/

inductive Request where
  | edit (eventId : Nat) (intent : EditIntent)
  | reorderParts (eventId : Nat) (orderedIds : List Nat)
  | assignPart (eventId assignmentId : Nat) (params : AssignPartParams)
  | assignService (eventId assignmentId : Nat) (assigneeId : Option Nat)
  /-- `type` and `id` of the query string. -/
  | removeAssignment (eventId : Nat) (type : String) (assignmentId : Option Nat)
deriving DecidableEq, Repr

/-- How a route answers: with a redirect, with a message, or having done what was asked. -/
inductive Answer where
  | redirected
  | rejected (message : String)
  | done
deriving DecidableEq, Repr

def Request.eventId : Request → Nat
  | .edit eventId _ => eventId
  | .reorderParts eventId _ => eventId
  | .assignPart eventId _ _ => eventId
  | .assignService eventId _ _ => eventId
  | .removeAssignment eventId _ _ => eventId

/-- The congregation-wide capability the route asks for. -/
def Request.required : Request → String
  | .edit _ _ => canManagePrograms
  | _ => canAssignProgramParts

/-- The scope of a delegation the route asks for. -/
def Request.scope : Request → ResponsibilityScope
  | .assignService _ _ _ => .service
  | .removeAssignment _ type _ => if type = "service" then .service else .programme
  | _ => .programme

/-- Write the outcome of an assignment. -/
def Request.settle {α : Type} (outcome : Except String (α × EventDb)) : Tx EventDb Failure Answer :=
  match outcome with
  | .error message => return .rejected message
  | .ok (_, db) => do
    set db
    return .done

/-- What the route does once the caller may act on the event. -/
def Request.body (rt : Runtime) (timezone : String) (db : EventDb) :
    Request → Tx EventDb Failure Answer
  | .edit eventId intent => do
    handleEditIntent rt eventId timezone intent
    return .done
  | .reorderParts _ orderedIds => do
    reorderPartAssignments orderedIds
    return .done
  | .assignPart eventId assignmentId params =>
    if assignmentBelongsToEvent db .part (some assignmentId) eventId then
      Request.settle (Events.assignPart db assignmentId params)
    else return .redirected
  | .assignService eventId assignmentId assigneeId =>
    if assignmentBelongsToEvent db .service (some assignmentId) eventId then
      Request.settle (assignServicePart db assignmentId assigneeId)
    else return .redirected
  | .removeAssignment eventId type assignmentId =>
    let kind : AssignmentKind := if type = "service" then .service else .part
    if assignmentBelongsToEvent db kind assignmentId eventId then
      match type, assignmentId with
      | "part", some id => Request.settle ((unassignPart db id).elim (.error "") .ok)
      | "service", some id => Request.settle ((unassignServicePart db id).elim (.error "") .ok)
      | _, _ => return .rejected ""
    else return .redirected

/-- An empty order is turned down before anything is read. -/
def Request.isEmptyOrder : Request → Bool
  | .reorderParts _ [] => true
  | _ => false

/-- The action of the route. -/
def Request.action (rt : Runtime) (timezone : String) (caller : Caller) (request : Request) :
    Tx EventDb Failure Answer := do
  let db ← get
  if request.isEmptyOrder then return .rejected ""
  match db.eventById request.eventId with
  | none => return .redirected
  | some event =>
    if canEditEvent db caller event.templateId request.required request.scope then
      request.body rt timezone db
    else return .redirected

end Unitae.Events
