import Mathlib.Data.List.Induction
import Mathlib.Data.List.Nodup
import Unitae.Events.Clock
import Unitae.Events.Schema
import Unitae.Notifications.Corrections

/-!
# Unitae — who hears of a changed assignment (`notify-assignment.server.ts`)

An edit of a part or of a service role is handed over as one diff a slot; each diff takes back from
the member who lost the slot and announces to the one who gained it, speaker slot first. The debounce
key knows the entity and the account, not the slot: a member who moves from the reader slot to the
speaker slot is announced and then taken back. `tellsRight_iff` says that this is the only edit that
goes wrong for a member with a reachable account.
-/

namespace Unitae.Events

open Roles Notifications

/-! ## The public link (`event-link.server.ts`) -/

def startOfCurrentMonth (tz : LocalTime) (now : Instant) : Instant :=
  tz.newDate (tz.getFullYear now) (tz.getMonth now) 1

/-- The event as a programme document would show it: released, and of this month at the earliest. -/
def EventDb.readRenderableEvent (tz : LocalTime) (now : Instant) (db : EventDb) (eventId : Nat) :
    Option Event :=
  (db.eventById eventId).filter fun row =>
    row.status == .released && startOfCurrentMonth tz now ≤ row.startDate

def viewerLink (documentId eventId : Nat) : String :=
  "/board/dynamic/" ++ toString documentId ++ "/viewer?eventId=" ++ toString eventId

/-- A document that names the template, with how many it names. -/
def BoardDynamicDocument.breadth (templateId : Nat) (document : BoardDynamicDocument) :
    Option (Nat × Nat) :=
  match document.dynamicConfig with
  | some (some templates) =>
    if templates.contains templateId then some (templates.length, document.id) else none
  | _ => none

/-- The narrowest document that names the template, else a legacy one that carries its key. -/
def resolveProgrammeLink (tz : LocalTime) (now : Instant) (db : EventDb) (eventId : Nat)
    (templateId : Option Nat) : String :=
  match templateId, db.readRenderableEvent tz now eventId with
  | some templateId, some row =>
    let candidates := (db.dynamicDocuments.filter (·.dynamicType == "programme")).mergeSort
      fun a b => a.id ≤ b.id
    let matching := (candidates.filterMap (·.breadth templateId)).mergeSort
      fun a b => a.1 < b.1 || a.1 == b.1 && a.2 ≤ b.2
    match matching.head? with
    | some (_, documentId) => viewerLink documentId eventId
    | none =>
      let key := ((row.templateId.bind db.templateById).map (·.key)).filter (· != "")
      match candidates.find? fun c => c.dynamicConfig.isNone && key.isSome && c.dynamicRef == key with
      | some document => viewerLink document.id eventId
      | none => "/board"
  | _, _ => "/board"

/-! ## Diffs -/

inductive AssignmentChangeType where
  | assigned
  | unassigned
deriving DecidableEq, Repr

/-- `PROGRAMME_ASSIGNMENT_TYPE`. -/
def AssignmentChangeType.notificationType : AssignmentChangeType → String
  | .assigned => "programme.assignment.assigned"
  | .unassigned => "programme.assignment.unassigned"

inductive AssignmentEntity where
  | eventPart
  | eventServicePart
deriving DecidableEq, Repr

def AssignmentEntity.entityType : AssignmentEntity → String
  | .eventPart => "EventPart"
  | .eventServicePart => "EventServicePart"

structure AssignmentPayload where
  eventId : Nat
  eventName : String
  eventDate : String
  assignmentName : String
  role : ProgrammeRole
  link : String
deriving DecidableEq, Repr

structure AssignmentNotificationContext where
  event : Event
  assignmentName : String
  entity : AssignmentEntity
  entityId : Nat
  congregationId : Nat
  actorId : Nat
  locale : String
  timezone : String
deriving DecidableEq, Repr

structure AssignmentDiff where
  role : ProgrammeRole
  previousMemberId : Option Nat
  newMemberId : Option Nat
deriving DecidableEq, Repr

structure AssignmentChange where
  type : AssignmentChangeType
  memberId : Nat
  role : ProgrammeRole
deriving DecidableEq, Repr

def partAssignmentDiffs (before after : PartAssignees) : List AssignmentDiff :=
  [⟨.speaker, before.assigneeId, after.assigneeId⟩,
    ⟨.reader, before.assistantId, after.assistantId⟩]

def servicePartAssignmentDiffs (before after : Option Nat) : List AssignmentDiff :=
  [⟨.servant, before, after⟩]

/-- What the dispatcher sends for one slot: a disappearing member first, then an appearing one. -/
def AssignmentDiff.changes (diff : AssignmentDiff) : List AssignmentChange :=
  let unassigned := diff.previousMemberId.filter fun m => diff.newMemberId != some m
  let assigned := diff.newMemberId.filter fun m => diff.previousMemberId != some m
  (unassigned.map fun m => ⟨.unassigned, m, diff.role⟩).toList ++
    (assigned.map fun m => ⟨.assigned, m, diff.role⟩).toList

/-! ## The notification of one change -/

/-- `notificationRecipientFilter`. -/
def EventDb.mayNotify (db : EventDb) (account : UserAccount) : Bool :=
  account.active && account.memberId.all db.isCurrentMember

/-- The account that hears for the member, if one may. -/
def EventDb.recipientAccount (db : EventDb) (memberId : Nat) : Option UserAccount :=
  db.directory.accounts.find? fun account =>
    account.memberId == some memberId && db.mayNotify account

def AssignmentNotificationContext.payload (rt : Runtime) (now : Instant) (db : EventDb)
    (ctx : AssignmentNotificationContext) (role : ProgrammeRole) : AssignmentPayload where
  eventId := ctx.event.id
  eventName := ctx.event.name
  eventDate := rt.formatEventDate ctx.event.startDate ctx.timezone ctx.locale
  assignmentName := ctx.assignmentName
  role := role
  link := resolveProgrammeLink rt.localTime now db ctx.event.id ctx.event.templateId

def AssignmentNotificationContext.notice (ctx : AssignmentNotificationContext)
    (type : AssignmentChangeType) (accountId : Nat) (payload : AssignmentPayload) :
    NotifyParams AssignmentPayload where
  type := type.notificationType
  entityType := ctx.entity.entityType
  entityId := ctx.entityId
  congregationId := ctx.congregationId
  recipientId := some accountId
  recipientRole := none
  actorId := some ctx.actorId
  payload := some payload

/-- A member without a reachable account hears nothing. -/
def notifyAssignment (rt : Runtime) (now : Instant) (db : EventDb)
    (ctx : AssignmentNotificationContext) (change : AssignmentChange)
    (queue : NotificationDb AssignmentPayload) : NotificationDb AssignmentPayload :=
  match db.recipientAccount change.memberId with
  | none => queue
  | some account =>
    notify now (ctx.notice change.type account.id (ctx.payload rt now db change.role)) queue

/-- Only a released event notifies. -/
def dispatchAssignmentDiffs (rt : Runtime) (now : Instant) (db : EventDb)
    (ctx : AssignmentNotificationContext) (diffs : List AssignmentDiff)
    (queue : NotificationDb AssignmentPayload) : NotificationDb AssignmentPayload :=
  if ctx.event.status = .released then
    (diffs.flatMap (·.changes)).foldl (fun queue change =>
      notifyAssignment rt now db ctx change queue) queue
  else queue

/-! ## What waits for an account -/

def AssignmentNotificationContext.key (ctx : AssignmentNotificationContext) (accountId : Nat) :
    String :=
  ctx.entity.entityType ++ ":" ++ toString ctx.entityId ++ ":" ++ recipientPart (some accountId) none

/-- The payloads of the announcements of this entity that wait for the account. -/
def AssignmentNotificationContext.waiting (ctx : AssignmentNotificationContext) (accountId : Nat)
    (queue : NotificationDb AssignmentPayload) : List (Option AssignmentPayload) :=
  (queue.events.filter
    (pendingOf (ctx.key accountId) [AssignmentChangeType.assigned.notificationType])).map (·.payload)

section Queue

variable {rt : Runtime} {now : Instant} {db : EventDb} {ctx : AssignmentNotificationContext}
  {queue : NotificationDb AssignmentPayload} {accountId other : Nat} {payload : AssignmentPayload}

@[simp] theorem notice_debounceKey (type : AssignmentChangeType) :
    (ctx.notice type accountId payload).debounceKey = ctx.key accountId := rfl

theorem key_injective (h : ctx.key accountId = ctx.key other) : accountId = other := by
  have hparts : recipientPart (some accountId) none = recipientPart (some other) none :=
    String.append_right_inj _ |>.mp h
  have hids : toString accountId = toString other := String.append_right_inj _ |>.mp hparts
  exact Notifications.number_inj (congrArg String.toList hids)

/-- An announcement takes the place of the one that waited. -/
theorem notify_assigned :
    notify now (ctx.notice .assigned accountId payload) queue =
      queueDebounced now (ctx.notice .assigned accountId payload) 30 queue := rfl

/-- A correction takes back what waits, and only when nothing does goes out itself. -/
theorem notify_unassigned :
    notify now (ctx.notice .unassigned accountId payload) queue =
      handleCancellation now (ctx.notice .unassigned accountId payload)
        [AssignmentChangeType.assigned.notificationType] ⟨0, none⟩ queue := rfl

/-- Cancelling by key and type leaves what waits under another key. -/
theorem waiting_updateEvents {key : String} {types : List String} (hother : key ≠ ctx.key accountId) :
    ctx.waiting accountId (queue.updateEvents (pendingOf key types) (·.cancelled now)) =
      ctx.waiting accountId queue := by
  unfold AssignmentNotificationContext.waiting NotificationDb.updateEvents
  rw [List.filter_map, List.map_map]
  have hsel : (pendingOf (ctx.key accountId) [AssignmentChangeType.assigned.notificationType] ∘
      fun e : NotificationEvent AssignmentPayload =>
        if pendingOf key types e then e.cancelled now else e) =
      pendingOf (ctx.key accountId) [AssignmentChangeType.assigned.notificationType] := by
    funext e
    simp only [Function.comp]
    split
    · next hpending =>
      have hkey : (e.debounceKey == ctx.key accountId) = false := by
        rw [(pendingOf_iff.mp hpending).1]
        exact beq_false_of_ne hother
      simp [pendingOf, NotificationEvent.cancelled, hkey]
    · rfl
  rw [hsel]
  refine List.map_congr_left fun e he => ?_
  have hwaits := (pendingOf_iff.mp (List.mem_filter.mp he).2).1
  simp only [Function.comp]
  split
  · next hpending => exact absurd ((pendingOf_iff.mp hpending).1.symm.trans hwaits) hother
  · rfl

/-- Cancelling the announcements of the key leaves none of them waiting. -/
theorem waiting_cancelled :
    ctx.waiting accountId (queue.updateEvents (pendingOf (ctx.key accountId)
      [AssignmentChangeType.assigned.notificationType]) (·.cancelled now)) = [] := by
  unfold AssignmentNotificationContext.waiting
  rw [List.map_eq_nil_iff, List.filter_eq_nil_iff]
  intro e he hpending
  have hnot := (pending_of_cancelled he (pendingOf_iff.mp hpending).2.1).2
  rw [hnot] at hpending
  exact Bool.noConfusion hpending

theorem waiting_createEvent (row : Nat → NotificationEvent AssignmentPayload) :
    ctx.waiting accountId (queue.createEvent row) = ctx.waiting accountId queue ++
      if pendingOf (ctx.key accountId) [AssignmentChangeType.assigned.notificationType]
        (row queue.nextEventId) then [(row queue.nextEventId).payload] else [] := by
  unfold AssignmentNotificationContext.waiting NotificationDb.createEvent
  rw [List.filter_append, List.map_append, List.filter_singleton]
  split <;> next h => simp [h]

theorem waiting_notify_assigned :
    ctx.waiting accountId (notify now (ctx.notice .assigned accountId payload) queue) =
      [some payload] := by
  have hwaits : ∀ id, pendingOf (ctx.key accountId)
      [AssignmentChangeType.assigned.notificationType]
      (newEvent (ctx.notice .assigned accountId payload) 30 now id) = true :=
    fun _ => pendingOf_iff.mpr ⟨rfl, rfl, List.mem_singleton.mpr rfl⟩
  rw [notify_assigned, queueDebounced, waiting_createEvent, if_pos (hwaits _)]
  show ctx.waiting accountId (queue.updateEvents (pendingOf (ctx.key accountId)
    [AssignmentChangeType.assigned.notificationType]) (·.cancelled now)) ++ [some payload] = _
  rw [waiting_cancelled, List.nil_append]

theorem waiting_notify_unassigned :
    ctx.waiting accountId (notify now (ctx.notice .unassigned accountId payload) queue) = [] := by
  rw [notify_unassigned]
  rcases handleCancellation_cases [AssignmentChangeType.assigned.notificationType] ⟨0, none⟩ with
    ⟨_, hcancelled⟩ | ⟨hnone, hnow⟩
  · rw [hcancelled]
    exact waiting_cancelled
  · rw [hnow]
    show ctx.waiting accountId (pushToEmailQueue _ queue) = []
    unfold AssignmentNotificationContext.waiting
    rw [List.map_eq_nil_iff, List.filter_eq_nil_iff]
    intro e he hpending
    have hnot := hnone e he
    rw [notice_debounceKey, hpending] at hnot
    exact Bool.noConfusion hnot

/-- What waits for one account is not touched by a notice to another. -/
theorem waiting_notify_other (type : AssignmentChangeType) (hother : other ≠ accountId) :
    ctx.waiting accountId (notify now (ctx.notice type other payload) queue) =
      ctx.waiting accountId queue := by
  have hkey : ctx.key other ≠ ctx.key accountId := fun h => hother (key_injective h)
  cases type with
  | assigned =>
    have hnot : ∀ id, ¬pendingOf (ctx.key accountId)
        [AssignmentChangeType.assigned.notificationType]
        (newEvent (ctx.notice .assigned other payload) 30 now id) = true :=
      fun _ hpending => hkey (pendingOf_iff.mp hpending).1
    rw [notify_assigned, queueDebounced, waiting_createEvent, if_neg (hnot _), List.append_nil]
    exact waiting_updateEvents hkey
  | unassigned =>
    rw [notify_unassigned]
    rcases handleCancellation_cases [AssignmentChangeType.assigned.notificationType] ⟨0, none⟩ with
      ⟨_, hcancelled⟩ | ⟨_, hnow⟩
    · rw [hcancelled]
      exact waiting_updateEvents hkey
    · rw [hnow]
      rfl

end Queue

/-! ## The last word on a member -/

/-- The last of the changes that is about the member. -/
def lastAbout (memberId : Nat) (changes : List AssignmentChange) : Option AssignmentChange :=
  changes.reverse.find? (·.memberId == memberId)

/-- `UserAccount` has unique ids, and at most one account for a member. -/
structure AccountKeys (db : RoleDb) : Prop where
  ids : Keyed (·.id) db.accounts
  memberIds : ∀ a ∈ db.accounts, ∀ b ∈ db.accounts, ∀ memberId,
    a.memberId = some memberId → b.memberId = some memberId → a = b

/-- What a change leaves waiting for its member's account. -/
def AssignmentChange.heard (rt : Runtime) (now : Instant) (db : EventDb)
    (ctx : AssignmentNotificationContext) (change : AssignmentChange) :
    List (Option AssignmentPayload) :=
  match change.type with
  | .assigned => [some (ctx.payload rt now db change.role)]
  | .unassigned => []

section Changes

variable {rt : Runtime} {now : Instant} {db : EventDb} {ctx : AssignmentNotificationContext}
  {queue : NotificationDb AssignmentPayload} {changes : List AssignmentChange}
  {account : UserAccount} {memberId : Nat}

@[simp] theorem lastAbout_nil : lastAbout memberId [] = none := rfl

theorem lastAbout_append_one (change : AssignmentChange) :
    lastAbout memberId (changes ++ [change]) =
      if change.memberId = memberId then some change else lastAbout memberId changes := by
  unfold lastAbout
  rw [List.reverse_append, List.reverse_singleton, List.singleton_append, List.find?_cons]
  by_cases hmember : change.memberId = memberId
  · rw [if_pos hmember, hmember, beq_self_eq_true]
  · rw [if_neg hmember, beq_false_of_ne hmember]

theorem recipientAccount_mem (h : db.recipientAccount memberId = some account) :
    account ∈ db.directory.accounts ∧ account.memberId = some memberId ∧
      db.mayNotify account = true := by
  have hfound := List.find?_some h
  simp only [Bool.and_eq_true, beq_iff_eq] at hfound
  exact ⟨List.mem_of_find?_eq_some h, hfound⟩

/-- The recipient of a member is its one account, where that account may be notified. -/
theorem recipientAccount_eq (hkeys : AccountKeys db.directory)
    (hmem : account ∈ db.directory.accounts) (hmember : account.memberId = some memberId) :
    db.recipientAccount memberId = if db.mayNotify account then some account else none := by
  cases hfind : db.recipientAccount memberId with
  | some found =>
    obtain ⟨hfound, hsame, hmay⟩ := recipientAccount_mem hfind
    rw [hkeys.memberIds account hmem found hfound memberId hmember hsame, if_pos hmay]
  | none =>
    have hnot := List.find?_eq_none.mp hfind account hmem
    simp only [hmember, beq_self_eq_true, Bool.true_and] at hnot
    rw [if_neg hnot]

/-- **One change touches what waits for its own member's account only.** -/
theorem waiting_notifyAssignment (hkeys : AccountKeys db.directory)
    (hmem : account ∈ db.directory.accounts) (hmember : account.memberId = some memberId)
    (change : AssignmentChange) :
    ctx.waiting account.id (notifyAssignment rt now db ctx change queue) =
      if db.mayNotify account ∧ change.memberId = memberId then change.heard rt now db ctx
      else ctx.waiting account.id queue := by
  unfold notifyAssignment
  by_cases hsame : change.memberId = memberId
  · rw [hsame, recipientAccount_eq hkeys hmem hmember]
    by_cases hmay : db.mayNotify account = true
    · rw [if_pos hmay, if_pos ⟨hmay, rfl⟩]
      unfold AssignmentChange.heard
      cases change.type with
      | assigned => exact waiting_notify_assigned
      | unassigned => exact waiting_notify_unassigned
    · rw [if_neg hmay, if_neg fun h => hmay h.1]
  · rw [if_neg fun h => hsame h.2]
    cases hrecipient : db.recipientAccount change.memberId with
    | none => rfl
    | some recipient =>
      obtain ⟨hrow, hother, _⟩ := recipientAccount_mem hrecipient
      refine waiting_notify_other _ fun hid => hsame ?_
      have hrows : recipient = account := hkeys.ids.eq_of_key hrow hmem hid
      rw [hrows, hmember] at hother
      exact (Option.some.inj hother).symm

/-- **The last change about a member decides what waits for its account.** -/
theorem waiting_changes (hkeys : AccountKeys db.directory)
    (hmem : account ∈ db.directory.accounts) (hmember : account.memberId = some memberId)
    (changes : List AssignmentChange) :
    ctx.waiting account.id (changes.foldl (fun queue change =>
        notifyAssignment rt now db ctx change queue) queue) =
      if db.mayNotify account then
        ((lastAbout memberId changes).map (·.heard rt now db ctx)).getD
          (ctx.waiting account.id queue)
      else ctx.waiting account.id queue := by
  induction changes using List.reverseRecOn with
  | nil => simp
  | append_singleton changes change ih =>
    rw [List.foldl_append, List.foldl_cons, List.foldl_nil,
      waiting_notifyAssignment hkeys hmem hmember, ih, lastAbout_append_one]
    by_cases hmay : db.mayNotify account = true
    · by_cases hsame : change.memberId = memberId
      · rw [if_pos ⟨hmay, hsame⟩, if_pos hmay, if_pos hsame]
        rfl
      · rw [if_neg fun h => hsame h.2, if_neg hsame]
    · rw [if_neg fun h => hmay h.1, if_neg hmay, if_neg hmay]

theorem lastAbout_append_option (change : Option AssignmentChange) :
    lastAbout memberId (changes ++ change.toList) =
      (change.filter (·.memberId == memberId)).or (lastAbout memberId changes) := by
  cases change with
  | none => simp
  | some change =>
    rw [Option.toList_some, lastAbout_append_one]
    by_cases hmember : change.memberId = memberId
    · simp [Option.filter, hmember]
    · simp [Option.filter, hmember]

/-- The last word on a member after one more slot. -/
theorem lastAbout_append_changes (diff : AssignmentDiff) :
    lastAbout memberId (changes ++ diff.changes) =
      if diff.newMemberId = some memberId ∧ diff.previousMemberId ≠ some memberId then
        some ⟨.assigned, memberId, diff.role⟩
      else if diff.previousMemberId = some memberId ∧ diff.newMemberId ≠ some memberId then
        some ⟨.unassigned, memberId, diff.role⟩
      else lastAbout memberId changes := by
  have hslot : ∀ (type : AssignmentChangeType) (old new : Option Nat),
      ((old.filter fun m => new != some m).map fun m =>
        (⟨type, m, diff.role⟩ : AssignmentChange)).filter (·.memberId == memberId) =
      if old = some memberId ∧ new ≠ some memberId then some ⟨type, memberId, diff.role⟩
      else none := by
    intro type old new
    cases old with
    | none => rfl
    | some m =>
      by_cases hm : m = memberId
      · by_cases hnew : new = some memberId <;> simp [Option.filter, hm, hnew]
      · by_cases hnew : new = some m <;> simp [Option.filter, hm, hnew]
  unfold AssignmentDiff.changes
  rw [← List.append_assoc, lastAbout_append_option, lastAbout_append_option, hslot, hslot]
  split
  · rfl
  · split <;> rfl

end Changes

/-! ## Edits -/

/-- An edit of one part or of one service role, whatever its old and new assignment. -/
inductive AssignmentEdit where
  | part (before after : PartAssignees)
  | service (before after : Option Nat)
deriving DecidableEq, Repr

def AssignmentEdit.diffs : AssignmentEdit → List AssignmentDiff
  | .part before after => partAssignmentDiffs before after
  | .service before after => servicePartAssignmentDiffs before after

def PartAssignees.slot (assignees : PartAssignees) : ProgrammeRole → Option Nat
  | .speaker => assignees.assigneeId
  | .reader => assignees.assistantId
  | .servant => none

def serviceSlot (assigneeId : Option Nat) : ProgrammeRole → Option Nat
  | .servant => assigneeId
  | _ => none

/-- Who held the slot. -/
def AssignmentEdit.before : AssignmentEdit → ProgrammeRole → Option Nat
  | .part before _ => before.slot
  | .service before _ => serviceSlot before

/-- Who holds it now. -/
def AssignmentEdit.after : AssignmentEdit → ProgrammeRole → Option Nat
  | .part _ after => after.slot
  | .service _ after => serviceSlot after

/-- The member holds a slot it did not hold. -/
def AssignmentEdit.Gains (edit : AssignmentEdit) (memberId : Nat) : Prop :=
  ∃ role, edit.after role = some memberId ∧ edit.before role ≠ some memberId

/-- The member held a slot and holds none. -/
def AssignmentEdit.LosesEvery (edit : AssignmentEdit) (memberId : Nat) : Prop :=
  (∃ role, edit.before role = some memberId) ∧ ∀ role, edit.after role ≠ some memberId

/-- The member leaves the reader slot of a part for its speaker slot. -/
def AssignmentEdit.MovesToSpeaker (edit : AssignmentEdit) (memberId : Nat) : Prop :=
  edit.after .speaker = some memberId ∧ edit.before .speaker ≠ some memberId ∧
    edit.before .reader = some memberId ∧ edit.after .reader ≠ some memberId

/-- The queue tells the member what the edit did: an announcement of a slot it holds waits when it
gained one, and none waits when it lost them all. -/
def TellsRight (db : EventDb) (ctx : AssignmentNotificationContext) (edit : AssignmentEdit)
    (queue : NotificationDb AssignmentPayload) (memberId : Nat) : Prop :=
  (edit.Gains memberId → ∃ account ∈ db.directory.accounts, account.memberId = some memberId ∧
    ∃ payload, some payload ∈ ctx.waiting account.id queue ∧ payload.eventId = ctx.event.id ∧
      edit.after payload.role = some memberId) ∧
  (edit.LosesEvery memberId → ∀ account ∈ db.directory.accounts,
    account.memberId = some memberId → ctx.waiting account.id queue = [])

section Edits

variable {rt : Runtime} {now : Instant} {db : EventDb} {ctx : AssignmentNotificationContext}
  {queue : NotificationDb AssignmentPayload} {edit : AssignmentEdit} {memberId : Nat}

/-- The last word of an edit on a member: of the reader slot, else of the speaker slot. -/
theorem lastAbout_diffs :
    lastAbout memberId (edit.diffs.flatMap (·.changes)) = match edit with
      | .part before after =>
        if after.assistantId = some memberId ∧ before.assistantId ≠ some memberId then
          some ⟨.assigned, memberId, .reader⟩
        else if before.assistantId = some memberId ∧ after.assistantId ≠ some memberId then
          some ⟨.unassigned, memberId, .reader⟩
        else if after.assigneeId = some memberId ∧ before.assigneeId ≠ some memberId then
          some ⟨.assigned, memberId, .speaker⟩
        else if before.assigneeId = some memberId ∧ after.assigneeId ≠ some memberId then
          some ⟨.unassigned, memberId, .speaker⟩
        else none
      | .service before after =>
        if after = some memberId ∧ before ≠ some memberId then some ⟨.assigned, memberId, .servant⟩
        else if before = some memberId ∧ after ≠ some memberId then
          some ⟨.unassigned, memberId, .servant⟩
        else none := by
  cases edit with
  | part before after =>
    have hfirst := @lastAbout_append_changes [] memberId ⟨.speaker, before.assigneeId, after.assigneeId⟩
    rw [List.nil_append, lastAbout_nil] at hfirst
    simp only [AssignmentEdit.diffs, partAssignmentDiffs, List.flatMap_cons, List.flatMap_nil,
      List.append_nil, lastAbout_append_changes, hfirst]
  | service before after =>
    have hfirst := @lastAbout_append_changes [] memberId ⟨.servant, before, after⟩
    rw [List.nil_append, lastAbout_nil] at hfirst
    simp only [AssignmentEdit.diffs, servicePartAssignmentDiffs, List.flatMap_cons,
      List.flatMap_nil, List.append_nil, hfirst]

theorem gains_iff : edit.Gains memberId ↔ match edit with
    | .part before after =>
      after.assigneeId = some memberId ∧ before.assigneeId ≠ some memberId ∨
        after.assistantId = some memberId ∧ before.assistantId ≠ some memberId
    | .service before after => after = some memberId ∧ before ≠ some memberId := by
  cases edit with
  | part before after =>
    refine ⟨fun ⟨role, hgains⟩ => ?_, fun h => ?_⟩
    · cases role with
      | speaker => exact .inl hgains
      | reader => exact .inr hgains
      | servant => exact absurd hgains.1 nofun
    · rcases h with hspeaker | hreader
      · exact ⟨.speaker, hspeaker⟩
      · exact ⟨.reader, hreader⟩
  | service before after =>
    refine ⟨fun ⟨role, hgains⟩ => ?_, fun h => ⟨.servant, h⟩⟩
    cases role with
    | servant => exact hgains
    | speaker => exact absurd hgains.1 nofun
    | reader => exact absurd hgains.1 nofun

theorem not_movesToSpeaker_service {before after : Option Nat} :
    ¬(AssignmentEdit.service before after).MovesToSpeaker memberId := nofun

/-- An announcement that is the last word is about a slot the member holds, and no later slot took
it back. -/
theorem last_assigned {m : Nat} {role : ProgrammeRole}
    (h : lastAbout memberId (edit.diffs.flatMap (·.changes)) = some ⟨.assigned, m, role⟩) :
    edit.after role = some memberId ∧ ¬edit.MovesToSpeaker memberId := by
  rw [lastAbout_diffs] at h
  cases edit with
  | part before after =>
    simp only at h
    split at h
    · next hreader =>
      cases h
      exact ⟨hreader.1, fun hmoves => hmoves.2.2.2 hreader.1⟩
    · split at h
      · cases h
      · next hkept =>
        split at h
        · next hspeaker =>
          cases h
          exact ⟨hspeaker.1, fun hmoves => hkept ⟨hmoves.2.2.1, hmoves.2.2.2⟩⟩
        · split at h <;> cases h
  | service before after =>
    simp only at h
    split at h
    · next hservant =>
      cases h
      exact ⟨hservant.1, not_movesToSpeaker_service⟩
    · split at h <;> cases h

/-- When the last word takes back, the member gains a slot only by moving from reader to speaker. -/
theorem last_unassigned {m : Nat} {role : ProgrammeRole}
    (h : lastAbout memberId (edit.diffs.flatMap (·.changes)) = some ⟨.unassigned, m, role⟩) :
    edit.Gains memberId ↔ edit.MovesToSpeaker memberId := by
  rw [lastAbout_diffs] at h
  rw [gains_iff]
  cases edit with
  | part before after =>
    simp only at h ⊢
    split at h
    · cases h
    · next hreader =>
      split at h
      · next hleft =>
        refine ⟨fun hgains => ?_, fun hmoves => .inl ⟨hmoves.1, hmoves.2.1⟩⟩
        have hspeaker := hgains.resolve_right hreader
        exact ⟨hspeaker.1, hspeaker.2, hleft⟩
      · next hkept =>
        split at h
        · cases h
        · next hspeaker =>
          exact iff_of_false (fun hgains => hgains.elim hspeaker hreader)
            fun hmoves => hspeaker ⟨hmoves.1, hmoves.2.1⟩
  | service before after =>
    simp only at h ⊢
    split at h
    · cases h
    · next hservant => exact iff_of_false hservant not_movesToSpeaker_service

/-- A member the edit is not about gains nothing, and has not lost everything. -/
theorem last_none (h : lastAbout memberId (edit.diffs.flatMap (·.changes)) = none) :
    ¬edit.Gains memberId ∧ ¬edit.LosesEvery memberId ∧ ¬edit.MovesToSpeaker memberId := by
  rw [lastAbout_diffs] at h
  rw [gains_iff]
  cases edit with
  | part before after =>
    simp only at h ⊢
    split at h
    · cases h
    · next hreader =>
      split at h
      · cases h
      · next hleftReader =>
        split at h
        · cases h
        · next hspeaker =>
          split at h
          · cases h
          · next hleftSpeaker =>
            refine ⟨fun hgains => hgains.elim hspeaker hreader, fun ⟨⟨role, hheld⟩, hnow⟩ => ?_,
              fun hmoves => hspeaker ⟨hmoves.1, hmoves.2.1⟩⟩
            cases role with
            | speaker => exact hleftSpeaker ⟨hheld, hnow .speaker⟩
            | reader => exact hleftReader ⟨hheld, hnow .reader⟩
            | servant => cases hheld
  | service before after =>
    simp only at h ⊢
    split at h
    · cases h
    · next hservant =>
      split at h
      · cases h
      · next hleft =>
        refine ⟨hservant, fun ⟨⟨role, hheld⟩, hnow⟩ => ?_, not_movesToSpeaker_service⟩
        cases role with
        | servant => exact hleft ⟨hheld, hnow .servant⟩
        | speaker => cases hheld
        | reader => cases hheld

/-- **Everyone whose slot changed is told**, for a member with a reachable account, exactly when it
does not move from the reader slot of the part to its speaker slot: the speaker diff announces it, and
the reader diff, which comes after, takes that announcement back. For a member without a reachable
account nothing is written, and the queue tells what it told before. -/
theorem tellsRight_iff (hkeys : AccountKeys db.directory) (hreleased : ctx.event.status = .released) :
    TellsRight db ctx edit (dispatchAssignmentDiffs rt now db ctx edit.diffs queue) memberId ↔
      match db.recipientAccount memberId with
      | some _ => ¬edit.MovesToSpeaker memberId
      | none => TellsRight db ctx edit queue memberId := by
  have hdispatch : dispatchAssignmentDiffs rt now db ctx edit.diffs queue =
      (edit.diffs.flatMap (·.changes)).foldl (fun queue change =>
        notifyAssignment rt now db ctx change queue) queue := by
    rw [dispatchAssignmentDiffs, if_pos hreleased]
  rw [hdispatch]
  cases hrecipient : db.recipientAccount memberId with
  | none =>
    -- no account of the member may be notified, so nothing waiting for one changes
    have hsame : ∀ account ∈ db.directory.accounts, account.memberId = some memberId →
        ctx.waiting account.id ((edit.diffs.flatMap (·.changes)).foldl (fun queue change =>
          notifyAssignment rt now db ctx change queue) queue) = ctx.waiting account.id queue := by
      intro account hmem hmember
      have hnot := recipientAccount_eq hkeys hmem hmember
      rw [hrecipient] at hnot
      rw [waiting_changes hkeys hmem hmember, if_neg fun hmay => by simp [hmay] at hnot]
    unfold TellsRight
    refine and_congr (forall_congr' fun _ => ?_) (forall_congr' fun _ => ?_)
    · refine exists_congr fun account => and_congr_right fun hmem => and_congr_right fun hmember => ?_
      rw [hsame account hmem hmember]
    · refine forall_congr' fun account => forall_congr' fun hmem => forall_congr' fun hmember => ?_
      rw [hsame account hmem hmember]
  | some account =>
    obtain ⟨hmem, hmember, hmay⟩ := recipientAccount_mem hrecipient
    have honly : ∀ other ∈ db.directory.accounts, other.memberId = some memberId → other = account :=
      fun other hother hsame => hkeys.memberIds other hother account hmem memberId hsame hmember
    have hwaits := @waiting_changes rt now db ctx queue account memberId hkeys hmem hmember
      (edit.diffs.flatMap (·.changes))
    rw [if_pos hmay] at hwaits
    cases hlast : lastAbout memberId (edit.diffs.flatMap (·.changes)) with
    | none =>
      obtain ⟨hgains, hloses, hmoves⟩ := last_none hlast
      exact iff_of_true ⟨fun h => absurd h hgains, fun h => absurd h hloses⟩ hmoves
    | some change =>
      obtain ⟨type, m, role⟩ := change
      rw [hlast] at hwaits
      cases type with
      | assigned =>
        obtain ⟨hholds, hmoves⟩ := last_assigned hlast
        refine iff_of_true ⟨fun _ => ⟨account, hmem, hmember, ctx.payload rt now db role, ?_, rfl,
          hholds⟩, fun hloses => absurd hholds (hloses.2 role)⟩ hmoves
        rw [hwaits]
        exact List.mem_singleton.mpr rfl
      | unassigned =>
        have hempty : ctx.waiting account.id _ = [] := hwaits
        rw [← last_unassigned hlast]
        refine ⟨fun htells hgains => ?_, fun hgains => ⟨fun h => absurd h hgains, fun _ other hother
          hsame => ?_⟩⟩
        · obtain ⟨other, hother, hsame, payload, hpayload, _⟩ := htells.1 hgains
          rw [honly other hother hsame, hempty] at hpayload
          exact List.not_mem_nil hpayload
        · rw [honly other hother hsame]
          exact hempty

end Edits

/-! ## The swap -/

/-- A publisher, and an account linked to it. -/
def publisher (id : Nat) : Member :=
  ⟨id, "", "", none, true, none, false, false, false, none, none, none, []⟩

def publisherAccount (id memberId : Nat) : UserAccount :=
  ⟨id, some memberId, none, none, "", true, none⟩

/-- Publishers 55 and 56, with the accounts 33 and 34. -/
def twoPublishers : EventDb :=
  { EventDb.empty with
    directory := ⟨[], [], [], [], [publisherAccount 33 55, publisherAccount 34 56],
      [publisher 55, publisher 56], [], 1⟩ }

/-- Part 100 of a released meeting. -/
def releasedPart : AssignmentNotificationContext :=
  ⟨⟨1, "Weekly meeting", 0, 7200000, .released, none, 33⟩, "Watchtower", .eventPart, 100, 42, 33,
    "fr", "UTC"⟩

def emptyQueue : NotificationDb AssignmentPayload := ⟨[], 1, [], []⟩

/-- The speaker 55 and the reader 56 change places. -/
def swap : AssignmentEdit := .part ⟨some 55, some 56⟩ ⟨some 56, some 55⟩

/-- The reader who becomes the speaker is left without an announcement. -/
theorem swap_untold :
    ¬∀ memberId, TellsRight twoPublishers releasedPart swap
      (dispatchAssignmentDiffs .utc 0 twoPublishers releasedPart swap.diffs emptyQueue)
      memberId := by
  intro h
  obtain ⟨account, hmem, hmember, payload, hwaits, _⟩ := (h 56).1 ⟨.speaker, rfl, by decide⟩
  have hnone : ∀ account ∈ twoPublishers.directory.accounts, account.memberId = some 56 →
      releasedPart.waiting account.id (dispatchAssignmentDiffs .utc 0 twoPublishers
        releasedPart swap.diffs emptyQueue) = [] := by decide +kernel
  rw [hnone account hmem hmember] at hwaits
  exact List.not_mem_nil hwaits

/-- The speaker who becomes the reader is told. -/
theorem swap_tellsRight_iff :
    TellsRight twoPublishers releasedPart swap
      (dispatchAssignmentDiffs .utc 0 twoPublishers releasedPart swap.diffs emptyQueue) 55 ↔
      match twoPublishers.recipientAccount 55 with
      | some _ => ¬swap.MovesToSpeaker 55
      | none => TellsRight twoPublishers releasedPart swap emptyQueue 55 :=
  tellsRight_iff ⟨by decide, by decide⟩ rfl

end Unitae.Events
