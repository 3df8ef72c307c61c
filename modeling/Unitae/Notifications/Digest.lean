import Mathlib.Data.List.Induction
import Unitae.Base.Transaction
import Unitae.Errors
import Unitae.Notifications.Queue
import Unitae.Text

/-!
# Unitae — the worker that mails a digest (`handle-notification-email.server.ts`)

A digest is worked off event by event, and an event of a role recipient by recipient, each in a loop that catches
what the turn throws. How an event is rendered and what becomes of a mail that is handed to the mailer are a
`MailService`; the mailer may refuse any mail, whatever it was handed before.

`sendEventEmail_exec` and `handleDigestEmail_exec` say what the loops come to: the mails of all the events, in
order and whatever is refused on the way, and the mark on the events of which the send failed.
-/

namespace Unitae.Notifications

/-! ## Recipients (`permissions.server.ts`, `resolve-recipients.server.ts`) -/

structure CongregationInfo where
  id : Nat
  displayName : String
  locale : String
  timezone : String
  emailFrom : String
  baseUrl : String
  suspendedAt : Option Instant
deriving DecidableEq, Repr

structure RecipientMember where
  firstname : String
  leftAt : Option Instant
  anonymizedAt : Option Instant
deriving DecidableEq, Repr

/-- `permissions` are the keys that the roles of the account and of its member give. -/
structure RecipientAccount where
  id : Nat
  congregationId : Nat
  email : String
  firstname : Option String
  active : Bool
  locale : Option String
  member : Option RecipientMember
  permissions : List String
deriving DecidableEq, Repr

structure NotificationPreference where
  userId : Nat
  congregationId : Nat
  notificationType : String
  enabled : Bool
deriving DecidableEq, Repr

/-- What the worker reads beside the events. -/
structure WorkerDb where
  congregations : List CongregationInfo
  accounts : List RecipientAccount
  preferences : List NotificationPreference
deriving DecidableEq, Repr

structure ResolvedRecipient where
  userId : Nat
  email : String
  firstname : Option String
  locale : Option String
deriving DecidableEq, Repr

def resolveCongregation (tables : WorkerDb) (congregationId : Nat) : Except Failure CongregationInfo :=
  match tables.congregations.find? (·.id == congregationId) with
  | none => .error (.unexpected ("Congregation " ++ toString congregationId ++ " not found"))
  | some congregation => .ok congregation

def notificationRecipientFilter (a : RecipientAccount) : Bool :=
  a.active && a.member.all fun m => m.leftAt.isNone && m.anonymizedAt.isNone

def findNotificationRecipientsWithPermission (tables : WorkerDb) (congregationId : Nat)
    (permissionKey : String) : List RecipientAccount :=
  tables.accounts.filter fun a => a.congregationId == congregationId &&
    (a.permissions.contains permissionKey && notificationRecipientFilter a)

/-- The member's first name, else the account's. -/
def displayFirstname (a : RecipientAccount) : Option String :=
  let memberName := a.member.map fun m => trim m.firstname
  let accountName := a.firstname.map trim
  if isTruthy memberName then memberName else if isTruthy accountName then accountName else none

def RecipientAccount.resolved (a : RecipientAccount) : ResolvedRecipient :=
  ⟨a.id, a.email, displayFirstname a, a.locale⟩

/-- `'board.document.created'` gives `'board.*'`. -/
def categoryWildcard (notificationType : String) : String := typeFamily notificationType ++ ".*"

/-- The user has disabled the type or its category. -/
def isNotificationDisabledForUser (tables : WorkerDb) (userId congregationId : Nat)
    (notificationType : String) : Bool :=
  tables.preferences.any fun p => p.userId == userId && p.congregationId == congregationId && !p.enabled &&
    (p.notificationType == notificationType || p.notificationType == categoryWildcard notificationType)

def resolveRecipients (tables : WorkerDb) (congregationId : Nat) (recipientRole notificationType : String) :
    List ResolvedRecipient :=
  let users := findNotificationRecipientsWithPermission tables congregationId recipientRole
  (users.filter fun u => !isNotificationDisabledForUser tables u.id congregationId notificationType).map
    (·.resolved)

/-! ## Sending -/

structure Mail where
  recipient : String
  sender : String
  subject : String
deriving DecidableEq, Repr

structure MailService (π : Type) where
  /-- `JSON.parse` takes the text of the payload. -/
  parses : Option π → Bool
  /-- The subject of the mail; `none` for a type that is not registered and for a payload that its schema
  refuses. A template may throw. -/
  render : String → Option π → ResolvedRecipient → CongregationInfo → Except Failure (Option String)
  /-- What the mailer does with a mail, after those it was handed before. -/
  deliver : List Mail → Mail → Except Failure Unit

inductive EventSendResult where
  | delivered
  | permanentFailure
deriving DecidableEq, Repr

/-- The events, and the mails handed to the mailer. -/
structure Outbox (π : Type) where
  db : NotificationDb π
  mails : List Mail

abbrev MailTx (π α : Type) := Tx (Outbox π) Failure α

variable {π : Type}

@[simps] def Outbox.hand (mails : List Mail) (s : Outbox π) : Outbox π := { s with mails := s.mails ++ mails }

def sendEmail (svc : MailService π) (mail : Mail) : MailTx π Unit := do
  let s ← get
  modify (·.hand [mail])
  Tx.check (svc.deliver s.mails mail)

def renderAndSend (svc : MailService π) (notificationType : String) (payload : Option π)
    (recipient : ResolvedRecipient) (congregation : CongregationInfo) : MailTx π EventSendResult := do
  if svc.parses payload = false then return .permanentFailure
  let rendered ← Tx.check (svc.render notificationType payload recipient congregation)
  match rendered with
  | none => return .permanentFailure
  | some subject => do
    sendEmail svc ⟨recipient.email, congregation.emailFrom, subject⟩
    return .delivered

/-- The role a type is sent to; a cancellation has none of its own. -/
def directRole (type : String) : Option String :=
  match configOf type with
  | some (.debounced config) => roleText config.recipientRole
  | _ => none

/-- One recipient of a role: a failure of any of them is the event's, and stops none. -/
def sendToRecipient (svc : MailService π) (event : DigestEvent π) (congregation : CongregationInfo)
    (result : EventSendResult) (recipient : ResolvedRecipient) : MailTx π EventSendResult :=
  tryCatch
    (do
      let status ← renderAndSend svc event.type event.payload recipient congregation
      return if status = .permanentFailure then .permanentFailure else result)
    fun _ => return .permanentFailure

/-- `recipientId` is 0 for the recipients of the type's role. -/
def sendEventEmail (svc : MailService π) (tables : WorkerDb) (event : DigestEvent π) (recipientId : Nat)
    (congregation : CongregationInfo) (congregationId : Nat) : MailTx π EventSendResult :=
  if recipientId = 0 then
    match directRole event.type with
    | none => return .permanentFailure
    | some role =>
      (resolveRecipients tables congregationId role event.type).foldlM
        (sendToRecipient svc event congregation) .delivered
  else
    match tables.accounts.find? fun a => a.id == recipientId && a.congregationId == congregationId &&
        notificationRecipientFilter a with
    | none => return .delivered
    | some user =>
      if isNotificationDisabledForUser tables user.id congregationId event.type then return .delivered
      else renderAndSend svc event.type event.payload user.resolved congregation

/-- One event of the digest: what it throws is a failure of its own. -/
def digestTurn (svc : MailService π) (tables : WorkerDb) (congregation : CongregationInfo)
    (congregationId recipientId : Nat) (notificationEventIds : List Nat) (failedEventIds : List Nat)
    (turn : DigestEvent π × Nat) : MailTx π (List Nat) := do
  let result ← tryCatch (sendEventEmail svc tables turn.1 recipientId congregation congregationId)
    fun _ => return .permanentFailure
  if result = .permanentFailure then return failedEventIds ++ notificationEventIds[turn.2]?.toList
  else return failedEventIds

/-- `updateMany({ where: { id: { in: ids } }, data: { status: 'failed', processedAt: now } })`. -/
def NotificationDb.markFailed (now : Instant) (ids : List Nat) (db : NotificationDb π) : NotificationDb π :=
  db.updateEvents (fun e => ids.contains e.id) fun e => { e with status := .failed, processedAt := some now }

/-- A suspended congregation sends nothing, and its rows stay as they are. -/
def handleDigestEmail (svc : MailService π) (tables : WorkerDb) (now : Instant)
    (congregationId recipientId : Nat) (events : List (DigestEvent π)) (notificationEventIds : List Nat) :
    MailTx π Unit := do
  let congregation ← Tx.check (resolveCongregation tables congregationId)
  if congregation.suspendedAt.isSome then return ()
  let failedEventIds ← events.zipIdx.foldlM
    (digestTurn svc tables congregation congregationId recipientId notificationEventIds) []
  if failedEventIds ≠ [] then
    modify fun s => { s with db := s.db.markFailed now failedEventIds }

/-! ## What is sent, and what fails -/

/-- The mail to one recipient, where the event can be rendered. -/
def mailTo (svc : MailService π) (congregation : CongregationInfo) (event : DigestEvent π)
    (recipient : ResolvedRecipient) : Option Mail :=
  if svc.parses event.payload = false then none
  else match svc.render event.type event.payload recipient congregation with
    | .ok (some subject) => some ⟨recipient.email, congregation.emailFrom, subject⟩
    | _ => none

/-- Whom an event is sent to. -/
def recipientsOf (tables : WorkerDb) (congregationId recipientId : Nat) (event : DigestEvent π) :
    List ResolvedRecipient :=
  if recipientId = 0 then
    match directRole event.type with
    | none => []
    | some role => resolveRecipients tables congregationId role event.type
  else
    match tables.accounts.find? fun a => a.id == recipientId && a.congregationId == congregationId &&
        notificationRecipientFilter a with
    | none => []
    | some user =>
      if isNotificationDisabledForUser tables user.id congregationId event.type then [] else [user.resolved]

/-- One mail to each recipient. -/
def eventMails (svc : MailService π) (tables : WorkerDb) (congregation : CongregationInfo)
    (congregationId recipientId : Nat) (event : DigestEvent π) : List Mail :=
  (recipientsOf tables congregationId recipientId event).filterMap (mailTo svc congregation event)

/-- The mailer refuses one of the mails, when it was handed `before`. -/
def anyRefused (svc : MailService π) (before : List Mail) : List Mail → Bool
  | [] => false
  | mail :: mails => !(svc.deliver before mail).isOk || anyRefused svc (before ++ [mail]) mails

/-- The send fails: no role to send to, a recipient for whom the event cannot be rendered, or a mail refused. -/
def sendFails (svc : MailService π) (tables : WorkerDb) (congregation : CongregationInfo)
    (congregationId recipientId : Nat) (before : List Mail) (event : DigestEvent π) : Bool :=
  (recipientId == 0 && (directRole event.type).isNone) ||
    ((recipientsOf tables congregationId recipientId event).any fun recipient =>
      (mailTo svc congregation event recipient).isNone) ||
    anyRefused svc before (eventMails svc tables congregation congregationId recipientId event)

/-! ## What the loops do -/

section Loops

variable {svc : MailService π} {tables : WorkerDb} {congregation : CongregationInfo}
  {congregationId recipientId : Nat} {event : DigestEvent π} {notificationEventIds : List Nat}

/-- The result of a send counts as a failure. -/
def failed : Except Failure EventSendResult → Bool
  | .ok .delivered => false
  | _ => true

/-- The send to one recipient fails: there is no mail to hand over, or it is refused. -/
def turnFails (svc : MailService π) (congregation : CongregationInfo) (event : DigestEvent π)
    (before : List Mail) (recipient : ResolvedRecipient) : Bool :=
  (mailTo svc congregation event recipient).isNone ||
    anyRefused svc before (mailTo svc congregation event recipient).toList

@[simp] theorem hand_nil (s : Outbox π) : s.hand [] = s := by
  unfold Outbox.hand
  rw [List.append_nil]

theorem hand_hand (s : Outbox π) (a b : List Mail) : (s.hand a).hand b = s.hand (a ++ b) := by
  unfold Outbox.hand
  rw [List.append_assoc]

theorem anyRefused_append (before a b : List Mail) :
    anyRefused svc before (a ++ b) = (anyRefused svc before a || anyRefused svc (before ++ a) b) := by
  induction a generalizing before with
  | nil => simp [anyRefused]
  | cons mail a ih =>
    rw [List.cons_append, anyRefused, anyRefused, ih, Bool.or_assoc, List.append_assoc, List.singleton_append]

theorem mails_cons (recipient : ResolvedRecipient) (recipients : List ResolvedRecipient) :
    (recipient :: recipients).filterMap (mailTo svc congregation event) =
      (mailTo svc congregation event recipient).toList ++
        recipients.filterMap (mailTo svc congregation event) := by
  cases h : mailTo svc congregation event recipient <;> simp [h]

/-- A mail that there is to send is handed over, whatever comes of it. -/
theorem renderAndSend_exec (recipient : ResolvedRecipient) (s : Outbox π) :
    ∃ r, (renderAndSend svc event.type event.payload recipient congregation).exec s =
        (r, s.hand (mailTo svc congregation event recipient).toList) ∧
      failed r = turnFails svc congregation event s.mails recipient := by
  unfold renderAndSend turnFails mailTo
  by_cases hparses : svc.parses event.payload = false
  · rw [if_pos hparses, if_pos hparses]
    exact ⟨.ok .permanentFailure, by simp, rfl⟩
  · rw [if_neg hparses, if_neg hparses]
    simp only [Tx.exec_bind, Tx.exec_check]
    cases hrender : svc.render event.type event.payload recipient congregation with
    | error e => exact ⟨.error e, by simp, rfl⟩
    | ok rendered =>
      cases rendered with
      | none => exact ⟨.ok .permanentFailure, by simp, rfl⟩
      | some subject =>
        set mail : Mail := ⟨recipient.email, congregation.emailFrom, subject⟩
        simp only [sendEmail, Tx.exec_bind, Tx.exec_get, Tx.exec_modify, Tx.exec_check]
        cases hdeliver : svc.deliver s.mails mail with
        | error e =>
          have hrefused : anyRefused svc s.mails [mail] = true := by
            rw [anyRefused, hdeliver]
            rfl
          exact ⟨.error e, rfl, hrefused.symm⟩
        | ok u =>
          have htaken : anyRefused svc s.mails [mail] = false := by
            rw [anyRefused, hdeliver]
            rfl
          exact ⟨.ok .delivered, rfl, htaken.symm⟩

/-- What is caught becomes a failure. -/
theorem caught_exec {x : MailTx π EventSendResult} {s s' : Outbox π} {r : Except Failure EventSendResult}
    (h : x.exec s = (r, s')) :
    (tryCatch x fun _ => return .permanentFailure).exec s =
      (.ok (if failed r then .permanentFailure else .delivered), s') := by
  rw [Tx.exec_tryCatch, h]
  cases r with
  | error e => rfl
  | ok result => cases result <;> rfl

theorem sendToRecipient_exec (result : EventSendResult) (recipient : ResolvedRecipient) (s : Outbox π) :
    (sendToRecipient svc event congregation result recipient).exec s =
      (.ok (if turnFails svc congregation event s.mails recipient then .permanentFailure else result),
        s.hand (mailTo svc congregation event recipient).toList) := by
  obtain ⟨r, hexec, hfailed⟩ := @renderAndSend_exec π svc congregation event recipient s
  unfold sendToRecipient
  rw [Tx.exec_tryCatch, Tx.exec_bind, hexec, ← hfailed]
  cases r with
  | error e => rfl
  | ok status => cases status <;> rfl

/-- Over the recipients of a role: each is handed a mail, and one failure is the event's. -/
theorem sendToRecipients_exec (recipients : List ResolvedRecipient) (result : EventSendResult) (s : Outbox π) :
    (recipients.foldlM (sendToRecipient svc event congregation) result).exec s =
      (.ok (if (recipients.any fun recipient => (mailTo svc congregation event recipient).isNone) ||
          anyRefused svc s.mails (recipients.filterMap (mailTo svc congregation event))
        then .permanentFailure else result),
        s.hand (recipients.filterMap (mailTo svc congregation event))) := by
  induction recipients generalizing result s with
  | nil => simp [anyRefused]
  | cons recipient recipients ih =>
    rw [List.foldlM_cons, Tx.exec_bind, sendToRecipient_exec]
    show ((recipients.foldlM (sendToRecipient svc event congregation) _).exec _) = _
    rw [ih, hand_hand, mails_cons, anyRefused_append, List.any_cons, Outbox.hand_mails]
    unfold turnFails
    congr 2
    -- the failure of one recipient is kept by the turns after it
    cases (mailTo svc congregation event recipient).isNone <;>
      cases anyRefused svc s.mails (mailTo svc congregation event recipient).toList <;> simp

/-- **An event is sent to each of its recipients**, and what comes of it is `sendFails`. -/
theorem sendEventEmail_exec (s : Outbox π) :
    ∃ r, (sendEventEmail svc tables event recipientId congregation congregationId).exec s =
        (r, s.hand (eventMails svc tables congregation congregationId recipientId event)) ∧
      failed r = sendFails svc tables congregation congregationId recipientId s.mails event := by
  unfold sendEventEmail eventMails sendFails eventMails recipientsOf
  by_cases hrole : recipientId = 0
  · rw [if_pos hrole, if_pos hrole]
    cases hdirect : directRole event.type with
    | none => exact ⟨.ok .permanentFailure, by simp, by simp [failed, hrole]⟩
    | some role =>
      refine ⟨_, sendToRecipients_exec _ _ _, ?_⟩
      simp only [Option.isNone_some, Bool.and_false, Bool.false_or]
      split <;> simp_all [failed]
  · rw [if_neg hrole, if_neg hrole]
    simp only [beq_eq_false_iff_ne.mpr hrole, Bool.false_and, Bool.false_or]
    cases hfound : tables.accounts.find? fun a => a.id == recipientId && a.congregationId == congregationId &&
        notificationRecipientFilter a with
    | none => exact ⟨.ok .delivered, by simp, rfl⟩
    | some user =>
      by_cases hdisabled : isNotificationDisabledForUser tables user.id congregationId event.type = true
      · simp only [if_pos hdisabled]
        exact ⟨.ok .delivered, by simp, rfl⟩
      · simp only [if_neg hdisabled]
        obtain ⟨r, hexec, hfailed⟩ := @renderAndSend_exec π svc congregation event user.resolved s
        refine ⟨r, ?_, ?_⟩
        · rw [hexec, mails_cons, List.filterMap_nil, List.append_nil]
        · rw [hfailed, turnFails, mails_cons, List.filterMap_nil, List.append_nil, List.any_cons,
            List.any_nil, Bool.or_false]

/-- The send of the event at a place of the digest fails, made after the sends before it. -/
def sendFailsAt (svc : MailService π) (tables : WorkerDb) (congregation : CongregationInfo)
    (congregationId recipientId : Nat) (before : List Mail) (events : List (DigestEvent π)) (i : Nat) : Bool :=
  events[i]?.any <| sendFails svc tables congregation congregationId recipientId
    (before ++ (events.take i).flatMap (eventMails svc tables congregation congregationId recipientId))

theorem sendFailsAt_append {before : List Mail} {events : List (DigestEvent π)} {i : Nat} :
    sendFailsAt svc tables congregation congregationId recipientId before (events ++ [event]) i = true ↔
      sendFailsAt svc tables congregation congregationId recipientId before events i = true ∨
        i = events.length ∧ sendFails svc tables congregation congregationId recipientId
          (before ++ events.flatMap (eventMails svc tables congregation congregationId recipientId)) event =
            true := by
  unfold sendFailsAt
  rcases Nat.lt_trichotomy i events.length with hlt | rfl | hlt
  · rw [List.getElem?_append_left hlt, List.take_append_of_le_length (Nat.le_of_lt hlt)]
    simp [Nat.ne_of_lt hlt]
  · rw [List.getElem?_concat_length, List.getElem?_length, List.take_left]
    simp
  · rw [List.getElem?_append_right (Nat.le_of_lt hlt), List.getElem?_eq_none (by simp; omega),
      List.getElem?_eq_none (Nat.le_of_lt hlt)]
    simp [Nat.ne_of_gt hlt]

theorem digestTurn_exec (failedEventIds : List Nat) (i : Nat) (s : Outbox π) :
    (digestTurn svc tables congregation congregationId recipientId notificationEventIds failedEventIds
        (event, i)).exec s =
      (.ok (failedEventIds ++
          if sendFails svc tables congregation congregationId recipientId s.mails event
          then notificationEventIds[i]?.toList else []),
        s.hand (eventMails svc tables congregation congregationId recipientId event)) := by
  obtain ⟨r, hexec, hfailed⟩ := @sendEventEmail_exec π svc tables congregation congregationId recipientId event s
  unfold digestTurn
  rw [Tx.exec_bind, caught_exec hexec, hfailed]
  cases sendFails svc tables congregation congregationId recipientId s.mails event <;> simp

theorem digestLoop_exec (events : List (DigestEvent π)) (s : Outbox π) :
    ∃ failedEventIds,
      (events.zipIdx.foldlM (digestTurn svc tables congregation congregationId recipientId
          notificationEventIds) []).exec s =
        (.ok failedEventIds,
          s.hand (events.flatMap (eventMails svc tables congregation congregationId recipientId))) ∧
      ∀ id, id ∈ failedEventIds ↔ ∃ i, notificationEventIds[i]? = some id ∧
        sendFailsAt svc tables congregation congregationId recipientId s.mails events i = true := by
  -- the last event is sent after all those before it, whatever came of them
  induction events using List.reverseRecOn with
  | nil => exact ⟨[], by simp, by simp [sendFailsAt]⟩
  | append_singleton events event ih =>
    obtain ⟨failedEventIds, hexec, hfailed⟩ := ih
    refine ⟨failedEventIds ++
      if sendFails svc tables congregation congregationId recipientId (s.mails ++
        events.flatMap (eventMails svc tables congregation congregationId recipientId)) event
      then notificationEventIds[events.length]?.toList else [], ?_, fun id => ?_⟩
    · rw [List.zipIdx_append, List.foldlM_append, Tx.exec_bind, hexec, List.zipIdx_singleton]
      show (digestTurn _ _ _ _ _ _ failedEventIds (event, 0 + events.length) >>= pure).exec _ = _
      rw [bind_pure, digestTurn_exec, Nat.zero_add, hand_hand, List.flatMap_append, List.flatMap_singleton,
        Outbox.hand_mails]
    · simp only [List.mem_append, hfailed, sendFailsAt_append, and_or_left, exists_or]
      refine or_congr Iff.rfl ?_
      split
      · next hfails => simp [hfails]
      · next hfails => simp [hfails]

/-- No id, no row. -/
theorem markFailed_nil (now : Instant) (db : NotificationDb π) : db.markFailed now [] = db := by
  unfold NotificationDb.markFailed NotificationDb.updateEvents
  simp

/-- **A digest sends each of its events once**, whatever fails on the way, and marks those of which the send
failed. -/
theorem handleDigestEmail_exec {now : Instant} {events : List (DigestEvent π)}
    (hfound : resolveCongregation tables congregationId = .ok congregation)
    (hactive : congregation.suspendedAt = none) (s : Outbox π) :
    ∃ failedEventIds,
      (handleDigestEmail svc tables now congregationId recipientId events notificationEventIds).exec s =
        (.ok (), {
          db := s.db.markFailed now failedEventIds
          mails := s.mails ++
            events.flatMap (eventMails svc tables congregation congregationId recipientId) }) ∧
      ∀ id, id ∈ failedEventIds ↔ ∃ i, notificationEventIds[i]? = some id ∧
        sendFailsAt svc tables congregation congregationId recipientId s.mails events i = true := by
  obtain ⟨failedEventIds, hexec, hfailed⟩ := @digestLoop_exec π svc tables congregation congregationId
    recipientId notificationEventIds events s
  refine ⟨failedEventIds, ?_, hfailed⟩
  unfold handleDigestEmail
  rw [Tx.exec_bind, Tx.exec_check, hfound]
  simp only [hactive, Option.isSome_none, Bool.false_eq_true, if_false]
  rw [Tx.exec_bind, hexec]
  by_cases hnone : failedEventIds = []
  · subst hnone
    rw [markFailed_nil]
    rfl
  · simp only [ne_eq, hnone, not_false_eq_true, if_true]
    rfl

/-- A digest of a congregation that is suspended, or no longer there, changes nothing. -/
theorem handleDigestEmail_idle {now : Instant} {events : List (DigestEvent π)}
    (hidle : ∀ congregation, resolveCongregation tables congregationId = .ok congregation →
      congregation.suspendedAt ≠ none) (s : Outbox π) :
    ((handleDigestEmail svc tables now congregationId recipientId events notificationEventIds).exec s).2 = s := by
  unfold handleDigestEmail
  rw [Tx.exec_bind, Tx.exec_check]
  cases hfound : resolveCongregation tables congregationId with
  | error e => rfl
  | ok congregation =>
    have hsuspended := Option.isSome_iff_ne_none.mpr (hidle congregation hfound)
    simp only [hsuspended, if_true]
    rfl

end Loops

end Unitae.Notifications
