import Mathlib.Tactic.Simps.Basic
import Unitae.Base.Log
import Unitae.Dates

/-!
# Unitae — the notification pipeline (`notify.server.ts`, `flush-settled.server.ts`)

A notification waits in `NotificationEvent` until its debounce is over and a flush puts it in the
email queue; instant ones go there at once. A type that cancels others takes a waiting one back, or
goes out itself when none waits.

The payload is what the callers make it: the pipeline stores it and never looks inside. The email
queue keeps what it is given; delivery from there is the worker's. `sent` is a history variable: who
is told what by the jobs of `queue`, in the order they were added.
-/

namespace Unitae.Notifications

inductive NotificationStatus where
  | pending
  | cancelled
  | sent
  | failed
deriving DecidableEq, Repr

structure DebouncedNotificationType where
  debounceMinutes : Nat
  recipientRole : Option String
deriving DecidableEq, Repr

inductive NotificationTypeConfig where
  | debounced (config : DebouncedNotificationType)
  | cancellation (cancels : List String) (fallback : DebouncedNotificationType)
deriving DecidableEq, Repr

def canReviewBoardDocuments : String := "can-review-board-documents"

/-- The routing of every registered type (`NOTIFICATION_TYPES`). -/
def notificationTypes : List (String × NotificationTypeConfig) :=
  [("board.document.created", .debounced ⟨10, some canReviewBoardDocuments⟩),
    ("board.document.updated", .debounced ⟨10, some canReviewBoardDocuments⟩),
    ("board.document.deleted", .cancellation ["board.document.created", "board.document.updated"]
      ⟨0, some canReviewBoardDocuments⟩),
    ("board.document.expiring", .debounced ⟨0, some canReviewBoardDocuments⟩),
    ("programme.assignment.assigned", .debounced ⟨30, none⟩),
    ("programme.assignment.unassigned", .cancellation ["programme.assignment.assigned"] ⟨0, none⟩),
    ("territory.sync.completed", .debounced ⟨0, none⟩)]

def configOf (type : String) : Option NotificationTypeConfig := notificationTypes.lookup type

structure NotifyParams (π : Type) where
  type : String
  entityType : String
  entityId : Nat
  congregationId : Nat
  recipientId : Option Nat
  recipientRole : Option String
  actorId : Option Nat
  payload : Option π
deriving DecidableEq, Repr

structure NotificationEvent (π : Type) where
  id : Nat
  type : String
  status : NotificationStatus
  entityType : String
  entityId : Nat
  recipientId : Option Nat
  recipientRole : Option String
  actorId : Option Nat
  payload : Option π
  debounceKey : String
  debounceUntil : Option Instant
  processedAt : Option Instant
  createdAt : Instant
  congregationId : Nat
deriving DecidableEq, Repr

/-- One notification of a digest. -/
structure DigestEvent (π : Type) where
  type : String
  entityType : String
  entityId : Nat
  payload : Option π
deriving DecidableEq, Repr

inductive EmailJob (π : Type) where
  | instant (congregationId : Nat) (notificationType : String) (recipientId : Option Nat)
      (recipientRole : Option String) (payload : Option π)
  /-- `recipientId` is 0 for the recipients of a role. -/
  | digest (congregationId recipientId : Nat) (events : List (DigestEvent π))
      (notificationEventIds : List Nat)
deriving DecidableEq, Repr

/-- Who is told what: the entity and the recipient, as their debounce key, and the type. -/
structure Sent where
  key : String
  type : String
deriving DecidableEq, Repr

structure NotificationDb (π : Type) where
  events : List (NotificationEvent π)
  nextEventId : Nat
  queue : List (EmailJob π)
  sent : List Sent
deriving DecidableEq, Repr

variable {π : Type}

/-! ## Keys -/

def recipientPart (recipientId : Option Nat) (recipientRole : Option String) : String :=
  match recipientId with
  | some recipientId => "user:" ++ toString recipientId
  | none => "role:" ++ recipientRole.getD ""

theorem toList_toString (n : Nat) : (toString n).toList = Nat.toDigits 10 n := by
  rw [show toString n = n.repr from rfl, Nat.toList_repr]

/-- A key names its numbers. -/
theorem number_inj {m n : Nat} (h : (toString m).toList = (toString n).toList) : m = n := by
  rw [toList_toString, toList_toString] at h
  have hread := congrArg (Nat.ofDigitChars 10 · 0) h
  simpa only [Nat.ofDigitChars_ten_toDigits] using hread

/-- `buildDebounceKey`: the entity and the recipient. -/
def NotifyParams.debounceKey (params : NotifyParams π) : String :=
  params.entityType ++ ":" ++ toString params.entityId ++ ":" ++
    recipientPart params.recipientId params.recipientRole

/-- A role counts when it is there and not the empty text. -/
def roleText (role : Option String) : Option String := role.filter fun text => text != ""

def NotificationTypeConfig.recipientRole : NotificationTypeConfig → Option String
  | .debounced config => config.recipientRole
  | .cancellation _ fallback => fallback.recipientRole

/-- The role comes from the type's routing when the caller gives none. -/
def NotifyParams.resolved (params : NotifyParams π) (config : NotificationTypeConfig) :
    NotifyParams π :=
  if (roleText params.recipientRole).isNone ∧ (roleText config.recipientRole).isSome then
    { params with recipientRole := config.recipientRole }
  else params

/-! ## Writes -/

/-- `notificationEvent.updateMany({ where: sel, data })`. -/
@[simps]
def NotificationDb.updateEvents (db : NotificationDb π) (sel : NotificationEvent π → Bool)
    (data : NotificationEvent π → NotificationEvent π) : NotificationDb π :=
  { db with events := db.events.map fun e => if sel e then data e else e }

@[simps]
def NotificationDb.createEvent (db : NotificationDb π) (row : Nat → NotificationEvent π) :
    NotificationDb π :=
  { db with events := db.events ++ [row db.nextEventId], nextEventId := db.nextEventId + 1 }

/-- `data: { status: 'cancelled', processedAt: now }`. -/
def NotificationEvent.cancelled (now : Instant) (e : NotificationEvent π) : NotificationEvent π :=
  { e with status := .cancelled, processedAt := some now }

/-- The pending events of a key whose type is among `types`. -/
def pendingOf (key : String) (types : List String) (e : NotificationEvent π) : Bool :=
  e.debounceKey == key && e.status == .pending && types.contains e.type

/-! ## `notify` -/

/-- The row of a debounced notification. -/
def newEvent (params : NotifyParams π) (debounceMinutes : Nat) (now : Instant) (id : Nat) :
    NotificationEvent π where
  id := id
  type := params.type
  status := .pending
  entityType := params.entityType
  entityId := params.entityId
  recipientId := params.recipientId
  recipientRole := params.recipientRole
  actorId := params.actorId
  payload := params.payload
  debounceKey := params.debounceKey
  debounceUntil := some (now + debounceMinutes * 60 * 1000)
  processedAt := none
  createdAt := now
  congregationId := params.congregationId

/-- A pending event of the same key and type is replaced. -/
def queueDebounced (now : Instant) (params : NotifyParams π) (debounceMinutes : Nat)
    (db : NotificationDb π) : NotificationDb π :=
  (db.updateEvents (pendingOf params.debounceKey [params.type]) (·.cancelled now)).createEvent
    (newEvent params debounceMinutes now)

def pushToEmailQueue (params : NotifyParams π) (db : NotificationDb π) : NotificationDb π :=
  { db with
    queue := db.queue ++ [.instant params.congregationId params.type params.recipientId
      params.recipientRole params.payload]
    sent := db.sent ++ [⟨params.debounceKey, params.type⟩] }

/-- A type that is not a cancellation: debounced, or at once. -/
def announce (now : Instant) (params : NotifyParams π) (debounceMinutes : Nat)
    (db : NotificationDb π) : NotificationDb π :=
  if 0 < debounceMinutes then queueDebounced now params debounceMinutes db
  else pushToEmailQueue params db

/-- Take back what is still pending; only when nothing was, tell the recipient. -/
def handleCancellation (now : Instant) (params : NotifyParams π) (cancels : List String)
    (fallback : DebouncedNotificationType) (db : NotificationDb π) : NotificationDb π :=
  let sel := pendingOf params.debounceKey cancels
  if 0 < (db.events.filter sel).length then db.updateEvents sel (·.cancelled now)
  else announce now params fallback.debounceMinutes db

/-- An unknown type is skipped. -/
def notify (now : Instant) (params : NotifyParams π) (db : NotificationDb π) : NotificationDb π :=
  match configOf params.type with
  | none => db
  | some config => match config with
    | .cancellation cancels fallback =>
      handleCancellation now (params.resolved config) cancels fallback db
    | .debounced routing => announce now (params.resolved config) routing.debounceMinutes db

/-! ## The flush -/

/-- The order in which a flush takes the settled events. -/
def flushOrder (a b : NotificationEvent π) : Bool :=
  a.congregationId < b.congregationId ||
    a.congregationId == b.congregationId && a.createdAt ≤ b.createdAt

/-- `event.type.split('.')[0]`. -/
def typeFamily (type : String) : String := String.ofList (type.toList.takeWhile (· != '.'))

def groupKey (e : NotificationEvent π) : String :=
  toString e.congregationId ++ ":" ++ recipientPart e.recipientId e.recipientRole ++ ":" ++
    typeFamily e.type

/-- The event goes to the group of its key, which comes last when it is new. -/
def addToGroups (groups : List (String × List (NotificationEvent π))) (e : NotificationEvent π) :
    List (String × List (NotificationEvent π)) :=
  if groups.any (·.1 == groupKey e) then
    groups.map fun group => if group.1 = groupKey e then (group.1, group.2 ++ [e]) else group
  else groups ++ [(groupKey e, [e])]

def groupEvents (events : List (NotificationEvent π)) : List (String × List (NotificationEvent π)) :=
  events.foldl addToGroups []

def digestJob (events : List (NotificationEvent π)) : EmailJob π :=
  .digest ((events.head?.map (·.congregationId)).getD 0)
    ((events.head?.bind (·.recipientId)).getD 0)
    (events.map fun e => ⟨e.type, e.entityType, e.entityId, e.payload⟩) (events.map (·.id))

/-- At most 500 pending events whose debounce is over; rows locked by another transaction are
skipped. -/
def NotificationDb.settledEvents (db : NotificationDb π) (now : Instant) (locked : List Nat) :
    List (NotificationEvent π) :=
  let due := db.events.filter fun e =>
    e.status == .pending && (e.debounceUntil.any fun t => t ≤ now) && !locked.contains e.id
  (due.mergeSort flushOrder).take 500

/-- `flushSettledNotifications`. -/
def flush (now : Instant) (locked : List Nat) (db : NotificationDb π) : NotificationDb π :=
  let settled := db.settledEvents now locked
  let groups := (groupEvents settled).map (·.2)
  let ids := settled.map (·.id)
  let db := db.updateEvents (fun e => ids.contains e.id)
    fun e => { e with status := .sent, processedAt := some now }
  { db with
    queue := db.queue ++ groups.map digestJob
    sent := db.sent ++ groups.flatten.map fun e => ⟨e.debounceKey, e.type⟩ }

/-- What un-releasing an event does to the notifications of its rows. -/
def cancelForEntities (now : Instant) (congregationId : Nat) (partIds serviceIds : List Nat)
    (db : NotificationDb π) : NotificationDb π :=
  if partIds ≠ [] ∨ serviceIds ≠ [] then
    db.updateEvents (fun e => e.congregationId == congregationId && e.status == .pending &&
      (e.entityType == "EventPart" && partIds.contains e.entityId ||
        e.entityType == "EventServicePart" && serviceIds.contains e.entityId))
      (·.cancelled now)
  else db

/-! ## What the pieces leave -/

section Spec

variable {db : NotificationDb π} {sel : NotificationEvent π → Bool}
  {data : NotificationEvent π → NotificationEvent π} {now : Instant}

theorem mem_updateEvents {e' : NotificationEvent π} (h : e' ∈ (db.updateEvents sel data).events) :
    e' ∈ db.events ∧ sel e' = false ∨ ∃ e ∈ db.events, sel e = true ∧ e' = data e := by
  obtain ⟨e, he, rfl⟩ := List.mem_map.mp h
  split
  · next hsel => exact .inr ⟨e, he, hsel, rfl⟩
  · next hsel => exact .inl ⟨he, by simpa using hsel⟩

/-- No pending event appears by cancelling. -/
theorem pending_of_cancelled {e' : NotificationEvent π}
    (h : e' ∈ (db.updateEvents sel (·.cancelled now)).events) (hpending : e'.status = .pending) :
    e' ∈ db.events ∧ sel e' = false := by
  rcases mem_updateEvents h with hkept | ⟨e, _, _, rfl⟩
  · exact hkept
  · exact absurd hpending (by simp [NotificationEvent.cancelled])

theorem pendingOf_iff {key : String} {types : List String} {e : NotificationEvent π} :
    pendingOf key types e = true ↔ e.debounceKey = key ∧ e.status = .pending ∧ e.type ∈ types := by
  simp [pendingOf, and_assoc]

theorem mem_settledEvents {locked : List Nat} {e : NotificationEvent π}
    (h : e ∈ db.settledEvents now locked) : e ∈ db.events ∧ e.status = .pending := by
  have hdue := List.mem_mergeSort.mp (List.mem_of_mem_take h)
  obtain ⟨hmem, hsel⟩ := List.mem_filter.mp hdue
  simp only [Bool.and_eq_true, beq_iff_eq] at hsel
  exact ⟨hmem, hsel.1.1⟩

/-- Grouping invents no event. -/
theorem mem_groupEvents {events : List (NotificationEvent π)} {e : NotificationEvent π}
    (h : e ∈ ((groupEvents events).map (·.2)).flatten) : e ∈ events := by
  have hfrom : ∀ (rest : List (NotificationEvent π)) groups,
      e ∈ ((rest.foldl addToGroups groups).map (·.2)).flatten →
        e ∈ (groups.map (·.2)).flatten ∨ e ∈ rest := by
    intro rest
    induction rest with
    | nil => exact fun _ h => .inl h
    | cons x rest ih =>
      intro groups h
      rcases ih _ h with hadded | hrest
      · unfold addToGroups at hadded
        split at hadded
        · obtain ⟨group, hgroup, he⟩ := List.mem_flatten.mp hadded
          obtain ⟨_, hmap, rfl⟩ := List.mem_map.mp hgroup
          obtain ⟨old, hold, rfl⟩ := List.mem_map.mp hmap
          have hmembers : e ∈ old.2 → e ∈ (groups.map (·.2)).flatten := fun he =>
            List.mem_flatten.mpr ⟨old.2, List.mem_map.mpr ⟨old, hold, rfl⟩, he⟩
          split at he
          · rcases List.mem_append.mp he with he | he
            · exact .inl (hmembers he)
            · exact .inr (List.mem_cons.mpr (.inl (List.mem_singleton.mp he)))
          · exact .inl (hmembers he)
        · rw [List.map_append, List.flatten_append] at hadded
          rcases List.mem_append.mp hadded with hold | hnew
          · exact .inl hold
          · have hsame : e = x := by simpa using hnew
            exact .inr (List.mem_cons.mpr (.inl hsame))
      · exact .inr (List.mem_cons_of_mem x hrest)
  exact (hfrom events [] h).resolve_left (by simp)

/-- A flush tells of pending events only, and leaves none pending that was not. -/
theorem flush_spec {locked : List Nat} :
    (∃ added, (flush now locked db).sent = db.sent ++ added ∧ ∀ x ∈ added, ∃ e ∈ db.events,
      e.status = .pending ∧ x = ⟨e.debounceKey, e.type⟩) ∧
    ∀ e ∈ (flush now locked db).events, e.status = .pending → e ∈ db.events := by
  refine ⟨⟨_, rfl, fun x hx => ?_⟩, fun e he hpending => ?_⟩
  · obtain ⟨e, he, rfl⟩ := List.mem_map.mp hx
    obtain ⟨hmem, hpending⟩ := mem_settledEvents (mem_groupEvents he)
    exact ⟨e, hmem, hpending, rfl⟩
  · rcases mem_updateEvents he with ⟨hold, _⟩ | ⟨e₀, _, _, rfl⟩
    · exact hold
    · exact absurd hpending (by simp)

end Spec

end Unitae.Notifications
