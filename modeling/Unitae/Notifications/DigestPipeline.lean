import Mathlib.Data.List.Nodup
import Unitae.Base.Grouping
import Unitae.Base.Run
import Unitae.Base.Table
import Unitae.Notifications.Corrections
import Unitae.Notifications.Digest

/-!
# Unitae — the digest pipeline, from `notify` to the mails

A notification waits, is taken by a flush into the digest of its group, and the worker mails the digest. The
requests of the callers, the flushes, the worker and the cleanup take turns in any order. `QueuedOnce` is what
every turn keeps: of a debounce key and type at most one notification waits, and the digests in the queue carry
no id twice and just those of the notifications that no longer wait and were not cancelled.

`digest_pipeline` reads it off for every state reached. Two gates are the pipeline's own: a flush takes 500
notifications at most and none that another transaction holds, and a suspended congregation is sent nothing.
-/

namespace Unitae.Notifications

variable {π : Type}

/-! ## The groups of a flush -/

/-- Whom an event is for: an account, or the holders of a role. -/
def NotificationEvent.recipient (e : NotificationEvent π) : Nat ⊕ String :=
  match e.recipientId with
  | some recipientId => .inl recipientId
  | none => .inr (e.recipientRole.getD "")

section Groups

variable {a b : NotificationEvent π}

/-- Two texts of one reading up to the first separator. -/
theorem cut_eq {sep : Char} {l l' r r' : List Char} (hl : sep ∉ l) (hl' : sep ∉ l')
    (h : l ++ sep :: r = l' ++ sep :: r') : l = l' ∧ r = r' := by
  have htake : ∀ {l r : List Char}, sep ∉ l → (l ++ sep :: r).takeWhile (· != sep) = l := by
    intro l r hnot
    have hall : ∀ c ∈ l, (c != sep) = true := fun c hc => bne_iff_ne.mpr fun heq => hnot (heq ▸ hc)
    rw [List.takeWhile_append_of_pos hall, List.takeWhile_cons_of_neg (by simp), List.append_nil]
  have hfirst : l = l' := by rw [← @htake l r hl, h, htake hl']
  subst hfirst
  exact ⟨rfl, (List.cons.inj (List.append_cancel_left h)).2⟩

theorem colon_not_mem_number (n : Nat) : ':' ∉ (toString n).toList := by
  intro h
  rw [toList_toString] at h
  exact absurd (Nat.isDigit_of_mem_toDigits (by decide) (by decide) h) (by decide)

/-- An account's part never reads as a role's. -/
theorem recipientPart_inj
    (h : recipientPart a.recipientId a.recipientRole = recipientPart b.recipientId b.recipientRole) :
    a.recipient = b.recipient := by
  have huser : "user:".toList = 'u' :: "ser:".toList := by decide
  have hrole : "role:".toList = 'r' :: "ole:".toList := by decide
  have hchars := congrArg String.toList h
  unfold NotificationEvent.recipient
  unfold recipientPart at hchars
  cases ha : a.recipientId with
  | none =>
    cases hb : b.recipientId with
    | none =>
      simp only [ha, hb, String.toList_append] at hchars
      exact congrArg _ (String.toList_inj.mp (List.append_cancel_left hchars))
    | some recipientId =>
      simp only [ha, hb, String.toList_append, huser, hrole, List.cons_append, List.cons.injEq] at hchars
      exact absurd hchars.1 (by decide)
  | some recipientId =>
    cases hb : b.recipientId with
    | none =>
      simp only [ha, hb, String.toList_append, huser, hrole, List.cons_append, List.cons.injEq] at hchars
      exact absurd hchars.1 (by decide)
    | some recipientId' =>
      simp only [ha, hb, String.toList_append] at hchars
      exact congrArg _ (number_inj (List.append_cancel_left hchars))

/-- The key of a group names its congregation, its recipient and its family, where no family holds a colon. -/
theorem groupKey_inj (ha : ':' ∉ (typeFamily a.type).toList) (hb : ':' ∉ (typeFamily b.type).toList)
    (h : groupKey a = groupKey b) :
    a.congregationId = b.congregationId ∧ a.recipient = b.recipient ∧
      typeFamily a.type = typeFamily b.type := by
  have hcolon : ":".toList = [':'] := by decide
  have hchars := congrArg String.toList h
  unfold groupKey at hchars
  simp only [String.toList_append, hcolon, List.append_assoc, List.cons_append,
    List.nil_append] at hchars
  obtain ⟨hcongregation, hrest⟩ := cut_eq (colon_not_mem_number _) (colon_not_mem_number _) hchars
  -- the text of a role may hold colons, so the family is cut off from the end
  have hbackwards := congrArg List.reverse hrest
  simp only [List.reverse_append, List.reverse_cons, List.append_assoc, List.cons_append,
    List.nil_append] at hbackwards
  obtain ⟨hfamily, hpart⟩ := cut_eq (mt List.mem_reverse.mp ha) (mt List.mem_reverse.mp hb) hbackwards
  exact ⟨number_inj hcongregation, recipientPart_inj (String.toList_inj.mp (List.reverse_inj.mp hpart)),
    String.toList_inj.mp (List.reverse_inj.mp hfamily)⟩

/-- No registered type holds a colon. -/
theorem colon_not_mem_family {type : String} (h : (configOf type).isSome) :
    ':' ∉ (typeFamily type).toList := by
  have hmem : type ∈ notificationTypes.map (·.1) := by
    obtain ⟨config, hconfig⟩ := Option.isSome_iff_exists.mp h
    obtain ⟨before, rest, hsplit, _⟩ := List.lookup_eq_some_iff.mp hconfig
    rw [hsplit]
    simp
  have hall : ∀ type ∈ notificationTypes.map (·.1), ':' ∉ type.toList := by decide +kernel
  unfold typeFamily
  rw [String.toList_ofList]
  exact fun hin => hall type hmem (List.takeWhile_subset _ hin)

theorem groupEvents_eq (events : List (NotificationEvent π)) : groupEvents events = groupOn groupKey events := rfl

end Groups

/-! ## Turns -/

/-- The rows a digest is of. -/
def EmailJob.eventIds : EmailJob π → List Nat
  | .digest _ _ _ notificationEventIds => notificationEventIds
  | .instant .. => []

/-- A digest carries an id for each of its events. -/
def EmailJob.Paired : EmailJob π → Prop
  | .digest _ _ events notificationEventIds => notificationEventIds.length = events.length
  | .instant .. => True

/-- The ids that the digests of the queue carry. -/
def NotificationDb.digested (db : NotificationDb π) : List Nat := db.queue.flatMap (·.eventIds)

/-- The event has left in a digest. -/
def NotificationEvent.Flushed (e : NotificationEvent π) : Prop := e.status = .sent ∨ e.status = .failed

/-- `cleanupNotificationEvents`, with its two dates. -/
def cleanupNotificationEvents (sevenDaysAgo thirtyDaysAgo : Instant) (db : NotificationDb π) :
    NotificationDb π :=
  let kept := db.events.filter fun e =>
    !((e.status == .sent || e.status == .cancelled) && e.processedAt.any fun t => t < sevenDaysAgo)
  { db with events := kept.filter fun e => !(e.status == .failed && e.processedAt.any fun t => t < thirtyDaysAgo) }

inductive PipelineTurn (π : Type) where
  | request (request : Request π)
  /-- The worker, with a digest of the queue. -/
  | work (svc : MailService π) (tables : WorkerDb) (now : Instant) (congregationId recipientId : Nat)
      (events : List (DigestEvent π)) (notificationEventIds : List Nat)
  | cleanup (sevenDaysAgo thirtyDaysAgo : Instant)

def Outbox.turn (s : Outbox π) : PipelineTurn π → Outbox π
  | .request request => { s with db := step s.db request }
  | .work svc tables now congregationId recipientId events notificationEventIds =>
    ((handleDigestEmail svc tables now congregationId recipientId events notificationEventIds).exec s).2
  | .cleanup sevenDaysAgo thirtyDaysAgo =>
    { s with db := cleanupNotificationEvents sevenDaysAgo thirtyDaysAgo s.db }

/-- The worker takes its digests from the queue. -/
def Outbox.Takes (s : Outbox π) : PipelineTurn π → Prop
  | .work _ _ _ congregationId recipientId events notificationEventIds =>
    .digest congregationId recipientId events notificationEventIds ∈ s.db.queue
  | _ => True

def Outbox.empty : Outbox π := ⟨⟨[], 1, [], []⟩, []⟩

/-! ## What every turn keeps -/

/-- Two events of one key and type wait. -/
def Doubles (a b : NotificationEvent π) : Prop :=
  a.status = .pending ∧ b.status = .pending ∧ a.debounceKey = b.debounceKey ∧ a.type = b.type

structure QueuedOnce (db : NotificationDb π) : Prop where
  ids_nodup : (db.events.map (·.id)).Nodup
  ids_lt : ∀ e ∈ db.events, e.id < db.nextEventId
  registered : ∀ e ∈ db.events, (configOf e.type).isSome
  apart : db.events.Pairwise fun a b => ¬Doubles a b
  digested_nodup : db.digested.Nodup
  digested_lt : ∀ id ∈ db.digested, id < db.nextEventId
  digested_iff : ∀ e ∈ db.events, e.id ∈ db.digested ↔ e.Flushed
  paired : ∀ job ∈ db.queue, job.Paired

section Kept

variable {db db' : NotificationDb π} {sel : NotificationEvent π → Bool}
  {data : NotificationEvent π → NotificationEvent π} {jobs : List (EmailJob π)}

/-- Events that stop waiting, and the digests that they leave in. -/
theorem QueuedOnce.moved (h : QueuedOnce db)
    (hevents : db'.events = db.events.map fun e => if sel e then data e else e)
    (hqueue : db'.queue = db.queue ++ jobs) (hnext : db'.nextEventId = db.nextEventId)
    (hdata : ∀ e ∈ db.events, sel e = true →
      (data e).id = e.id ∧ (data e).type = e.type ∧ (data e).status ≠ .pending ∧
      ((data e).Flushed ↔ e.id ∈ db.digested ∨ e.id ∈ jobs.flatMap (·.eventIds)))
    (hothers : ∀ e ∈ db.events, sel e = false → e.id ∉ jobs.flatMap (·.eventIds))
    (hnodup : (jobs.flatMap (·.eventIds)).Nodup)
    (hfresh : ∀ id ∈ jobs.flatMap (·.eventIds), id ∉ db.digested ∧ id < db.nextEventId)
    (hpaired : ∀ job ∈ jobs, job.Paired) : QueuedOnce db' := by
  have hdigested : db'.digested = db.digested ++ jobs.flatMap (·.eventIds) := by
    unfold NotificationDb.digested
    rw [hqueue, List.flatMap_append]
  have hid : ∀ e ∈ db.events, (if sel e then data e else e).id = e.id := by
    intro e he
    split
    · next hsel => exact (hdata e he hsel).1
    · rfl
  have hmem : ∀ e' ∈ db'.events, ∃ e ∈ db.events, e' = if sel e then data e else e := by
    intro e' he'
    rw [hevents] at he'
    obtain ⟨e, he, heq⟩ := List.mem_map.mp he'
    exact ⟨e, he, heq.symm⟩
  constructor
  case ids_nodup =>
    rw [hevents, List.map_map, List.map_congr_left (g := (·.id)) hid]
    exact h.ids_nodup
  case ids_lt =>
    intro e' he'
    obtain ⟨e, he, rfl⟩ := hmem e' he'
    rw [hid e he, hnext]
    exact h.ids_lt e he
  case registered =>
    intro e' he'
    obtain ⟨e, he, rfl⟩ := hmem e' he'
    split
    · next hsel =>
      rw [(hdata e he hsel).2.1]
      exact h.registered e he
    · exact h.registered e he
  case apart =>
    rw [hevents, List.pairwise_map]
    refine h.apart.imp_of_mem fun {a b} ha hb hapart => ?_
    -- an event that was moved does not wait, so two that wait are two that waited
    split
    · next hsel => exact fun hdouble => (hdata a ha hsel).2.2.1 hdouble.1
    · split
      · next hsel => exact fun hdouble => (hdata b hb hsel).2.2.1 hdouble.2.1
      · exact hapart
  case digested_nodup =>
    rw [hdigested]
    exact List.nodup_append.mpr ⟨h.digested_nodup, hnodup,
      fun id hold id' hnew heq => (hfresh id' hnew).1 (heq ▸ hold)⟩
  case digested_lt =>
    intro id hid
    rw [hdigested] at hid
    rw [hnext]
    rcases List.mem_append.mp hid with hold | hnew
    · exact h.digested_lt id hold
    · exact (hfresh id hnew).2
  case digested_iff =>
    intro e' he'
    obtain ⟨e, he, rfl⟩ := hmem e' he'
    rw [hid e he, hdigested, List.mem_append]
    split
    · next hsel => exact (hdata e he hsel).2.2.2.symm
    · next hsel =>
      rw [or_iff_left (hothers e he (by simpa using hsel))]
      exact h.digested_iff e he
  case paired =>
    intro job hjob
    rw [hqueue] at hjob
    rcases List.mem_append.mp hjob with hold | hnew
    · exact h.paired job hold
    · exact hpaired job hnew

/-- Waiting events are taken back. -/
theorem QueuedOnce.cancelled (h : QueuedOnce db) {now : Instant}
    (hpending : ∀ e, sel e = true → e.status = .pending) :
    QueuedOnce (db.updateEvents sel (·.cancelled now)) := by
  refine @QueuedOnce.moved π db _ sel (·.cancelled now) [] h rfl (List.append_nil _).symm rfl
    (fun e he hsel => ?_) (by simp) (by simp) (by simp) (by simp)
  refine ⟨rfl, rfl, by simp [NotificationEvent.cancelled], ?_⟩
  have hwaits : ¬e.Flushed := by simp [NotificationEvent.Flushed, hpending e hsel]
  have hcancelled : ¬(e.cancelled now).Flushed := by simp [NotificationEvent.Flushed, NotificationEvent.cancelled]
  simp [hcancelled, mt (h.digested_iff e he).mp hwaits]

/-- What goes out at once is no digest. -/
theorem QueuedOnce.pushed (h : QueuedOnce db) (params : NotifyParams π) :
    QueuedOnce (pushToEmailQueue params db) :=
  @QueuedOnce.moved π db _ (fun _ => false) id _ h (by simp [pushToEmailQueue]) rfl rfl (by simp)
    (by simp [EmailJob.eventIds]) (by simp [EmailJob.eventIds]) (by simp [EmailJob.eventIds])
    (by simp [EmailJob.Paired])

/-- A new event waits, where none of its key and type does. -/
theorem QueuedOnce.created (h : QueuedOnce db) {row : Nat → NotificationEvent π}
    (hid : (row db.nextEventId).id = db.nextEventId) (hpending : (row db.nextEventId).status = .pending)
    (htype : (configOf (row db.nextEventId).type).isSome)
    (hfree : ∀ e ∈ db.events, ¬Doubles e (row db.nextEventId)) : QueuedOnce (db.createEvent row) := by
  have hfresh : db.nextEventId ∉ db.digested := fun hin => Nat.lt_irrefl _ (h.digested_lt _ hin)
  constructor
  case ids_nodup =>
    have hkeyed : Keyed NotificationEvent.id db.events := h.ids_nodup
    exact hkeyed.append_next h.ids_lt hid
  case ids_lt => exact lt_append_next h.ids_lt hid
  case registered =>
    intro e he
    rcases List.mem_append.mp he with hold | hnew
    · exact h.registered e hold
    · rw [List.mem_singleton.mp hnew]
      exact htype
  case apart =>
    refine List.pairwise_append.mpr ⟨h.apart, List.pairwise_singleton _ _, fun e he e' he' => ?_⟩
    rw [List.mem_singleton.mp he']
    exact hfree e he
  case digested_nodup => exact h.digested_nodup
  case digested_lt => exact fun id hin => Nat.lt_succ_of_lt (h.digested_lt id hin)
  case digested_iff =>
    intro e he
    rcases List.mem_append.mp he with hold | hnew
    · exact h.digested_iff e hold
    · rw [List.mem_singleton.mp hnew, hid]
      exact iff_of_false hfresh (by simp [NotificationEvent.Flushed, hpending])
  case paired => exact h.paired

/-- Rows that are deleted. -/
theorem QueuedOnce.deleted (h : QueuedOnce db) (hevents : db'.events.Sublist db.events)
    (hqueue : db'.queue = db.queue) (hnext : db'.nextEventId = db.nextEventId) : QueuedOnce db' := by
  have hdigested : db'.digested = db.digested := by
    unfold NotificationDb.digested
    rw [hqueue]
  constructor
  case ids_nodup => exact h.ids_nodup.sublist (hevents.map _)
  case ids_lt => exact fun e he => hnext ▸ h.ids_lt e (hevents.subset he)
  case registered => exact fun e he => h.registered e (hevents.subset he)
  case apart => exact h.apart.sublist hevents
  case digested_nodup => exact hdigested ▸ h.digested_nodup
  case digested_lt => exact fun id hid => hnext ▸ h.digested_lt id (hdigested ▸ hid)
  case digested_iff => exact fun e he => hdigested ▸ h.digested_iff e (hevents.subset he)
  case paired => exact fun job hjob => h.paired job (hqueue ▸ hjob)

theorem QueuedOnce.queueDebounced (h : QueuedOnce db) {now : Instant} {params : NotifyParams π} {minutes : Nat}
    (htype : (configOf params.type).isSome) : QueuedOnce (queueDebounced now params minutes db) := by
  have hcancelled : QueuedOnce
      (db.updateEvents (pendingOf params.debounceKey [params.type]) (·.cancelled now)) :=
    h.cancelled fun e hsel => (pendingOf_iff.mp hsel).2.1
  refine hcancelled.created rfl rfl htype fun e he hdouble => ?_
  -- what waited under the key and type was taken back just before
  obtain ⟨-, hsel⟩ := pending_of_cancelled he hdouble.1
  have hwaits : pendingOf params.debounceKey [params.type] e = true :=
    pendingOf_iff.mpr ⟨hdouble.2.2.1, hdouble.1, List.mem_singleton.mpr hdouble.2.2.2⟩
  exact Bool.false_ne_true (hsel.symm.trans hwaits)

theorem QueuedOnce.announce (h : QueuedOnce db) {now : Instant} {params : NotifyParams π} {minutes : Nat}
    (htype : (configOf params.type).isSome) : QueuedOnce (announce now params minutes db) := by
  unfold Notifications.announce
  split
  · exact h.queueDebounced htype
  · exact h.pushed params

theorem QueuedOnce.notify (h : QueuedOnce db) {now : Instant} {params : NotifyParams π} :
    QueuedOnce (notify now params db) := by
  unfold Notifications.notify
  cases hconfig : configOf params.type with
  | none => exact h
  | some config =>
    have htype : (configOf (params.resolved config).type).isSome := by
      rw [resolved_type, hconfig]
      rfl
    cases config with
    | debounced routing => exact h.announce htype
    | cancellation cancels fallback =>
      show QueuedOnce (handleCancellation now _ cancels fallback db)
      rcases handleCancellation_cases cancels fallback with ⟨-, hcancelled⟩ | ⟨-, hfallback⟩
      · rw [hcancelled]
        exact h.cancelled fun e hsel => (pendingOf_iff.mp hsel).2.1
      · rw [hfallback]
        exact h.announce htype

end Kept

/-! ## A flush -/

section Flush

variable {db : NotificationDb π} {now : Instant} {locked : List Nat}

/-- The ids of the digests of a flush are those of the events it took. -/
theorem flat_digestJobs (groups : List (String × List (NotificationEvent π))) :
    ((groups.map (·.2)).map digestJob).flatMap (·.eventIds) = (groups.flatMap (·.2)).map (·.id) := by
  rw [List.map_map, List.flatMap_map, List.map_flatMap]
  rfl

theorem QueuedOnce.settled_nodup (h : QueuedOnce db) : ((db.settledEvents now locked).map (·.id)).Nodup := by
  have hsorted := (List.mergeSort_perm (db.events.filter fun e =>
    e.status == .pending && (e.debounceUntil.any fun t => t ≤ now) && !locked.contains e.id) flushOrder)
  have hdue := (hsorted.map (·.id)).nodup_iff.mpr (h.ids_nodup.sublist (List.filter_sublist.map _))
  exact hdue.sublist ((List.take_sublist 500 _).map _)

theorem groups_perm : (((groupEvents (db.settledEvents now locked)).flatMap (·.2)).map (·.id)).Perm
    ((db.settledEvents now locked).map (·.id)) :=
  (groupEvents_eq (db.settledEvents now locked) ▸ groupOn_perm).map _

theorem QueuedOnce.flush (h : QueuedOnce db) : QueuedOnce (flush now locked db) := by
  have hperm := @groups_perm π db now locked
  have hids : ∀ id, id ∈ (((groupEvents (db.settledEvents now locked)).map (·.2)).map digestJob).flatMap
      (·.eventIds) ↔ ∃ e ∈ db.settledEvents now locked, e.id = id := by
    intro id
    rw [flat_digestJobs, hperm.mem_iff, List.mem_map]
  refine @QueuedOnce.moved π db (Notifications.flush now locked db)
    (fun e => ((db.settledEvents now locked).map (·.id)).contains e.id)
    (fun e => { e with status := .sent, processedAt := some now }) _ h rfl rfl rfl
    (fun e he hsel => ?_) (fun e he hsel hin => ?_) ?_ (fun id hid => ?_) fun job hjob => ?_
  · obtain ⟨e', he', hid⟩ := List.mem_map.mp (List.contains_iff_mem.mp hsel)
    refine ⟨rfl, rfl, by simp, iff_of_true (.inl rfl) (.inr ((hids _).mpr ⟨e', he', hid⟩))⟩
  · obtain ⟨e', he', hid⟩ := (hids _).mp hin
    have hsel' := List.contains_iff_mem.mpr (List.mem_map.mpr ⟨e', he', hid⟩)
    rw [hsel] at hsel'
    exact Bool.false_ne_true hsel'
  · rw [flat_digestJobs]
    exact hperm.nodup_iff.mpr h.settled_nodup
  · obtain ⟨e, he, rfl⟩ := (hids id).mp hid
    obtain ⟨hmem, hpending⟩ := mem_settledEvents he
    have hwaits : ¬e.Flushed := by simp [NotificationEvent.Flushed, hpending]
    exact ⟨mt (h.digested_iff e hmem).mp hwaits, h.ids_lt e hmem⟩
  · obtain ⟨group, -, rfl⟩ := List.mem_map.mp hjob
    show (group.map (·.id)).length = (group.map _).length
    rw [List.length_map, List.length_map]

end Flush

/-! ## A run -/

section Runs

variable {s : Outbox π}

/-- The worker marks rows of its own digest. -/
theorem QueuedOnce.markFailed {db : NotificationDb π} (h : QueuedOnce db) {now : Instant} {ids : List Nat}
    (hids : ∀ id ∈ ids, id ∈ db.digested) : QueuedOnce (db.markFailed now ids) := by
  refine @QueuedOnce.moved π db _ (fun e => ids.contains e.id)
    (fun e => { e with status := .failed, processedAt := some now }) [] h rfl (List.append_nil _).symm rfl
    (fun e he hsel => ?_) (by simp) (by simp) (by simp) (by simp)
  exact ⟨rfl, rfl, by simp, iff_of_true (.inr rfl) (.inl (hids _ (List.contains_iff_mem.mp hsel)))⟩

theorem turn_queuedOnce (h : QueuedOnce s.db) {turn : PipelineTurn π} (htakes : s.Takes turn) :
    QueuedOnce (s.turn turn).db := by
  cases turn with
  | request request =>
    cases request with
    | notify now params => exact h.notify
    | flush now locked => exact h.flush
    | unrelease now congregationId partIds serviceIds =>
      show QueuedOnce (cancelForEntities now congregationId partIds serviceIds s.db)
      unfold cancelForEntities
      split
      · refine h.cancelled fun e hsel => ?_
        simp only [Bool.and_eq_true, beq_iff_eq] at hsel
        exact hsel.1.2
      · exact h
  | work svc tables now congregationId recipientId events notificationEventIds =>
    show QueuedOnce ((handleDigestEmail svc tables now congregationId recipientId events
      notificationEventIds).exec s).2.db
    by_cases hidle : ∀ congregation, resolveCongregation tables congregationId = .ok congregation →
        congregation.suspendedAt ≠ none
    · rw [handleDigestEmail_idle hidle]
      exact h
    · push Not at hidle
      obtain ⟨congregation, hfound, hactive⟩ := hidle
      obtain ⟨failedEventIds, hexec, hfailed⟩ := @handleDigestEmail_exec π svc tables congregation congregationId
        recipientId notificationEventIds now events hfound hactive s
      rw [hexec]
      refine h.markFailed fun id hid => ?_
      obtain ⟨i, hi, -⟩ := (hfailed id).mp hid
      exact List.mem_flatMap.mpr ⟨_, htakes, List.mem_of_getElem? hi⟩
  | cleanup sevenDaysAgo thirtyDaysAgo =>
    exact h.deleted (List.filter_sublist.trans List.filter_sublist) rfl rfl

theorem queuedOnce_empty : QueuedOnce (Outbox.empty : Outbox π).db := by
  constructor <;> simp [Outbox.empty, NotificationDb.digested]

theorem reach_queuedOnce (h : Reach Outbox.turn Outbox.Takes Outbox.empty s) : QueuedOnce s.db :=
  Reach.invariant (I := fun s => QueuedOnce s.db) queuedOnce_empty
    (fun _ _ hs htakes => turn_queuedOnce hs htakes) h

/-- Of a key and type one event waits at most. -/
theorem QueuedOnce.pending_le_one {db : NotificationDb π} (h : QueuedOnce db) (key type : String) :
    (db.events.filter (pendingOf key [type])).length ≤ 1 := by
  have hapart := h.apart.sublist (List.filter_sublist (p := pendingOf key [type]))
  have hwaits : ∀ e ∈ db.events.filter (pendingOf key [type]), e.debounceKey = key ∧ e.status = .pending ∧
      e.type = type := by
    intro e he
    simpa using pendingOf_iff.mp (List.mem_filter.mp he).2
  cases hfilter : db.events.filter (pendingOf key [type]) with
  | nil => exact Nat.zero_le 1
  | cons a rest =>
    cases rest with
    | nil => exact Nat.le_refl 1
    | cons b rest =>
      rw [hfilter] at hapart hwaits
      obtain ⟨hkey, hpending, htype⟩ := hwaits a (by simp)
      obtain ⟨hkey', hpending', htype'⟩ := hwaits b (by simp)
      exact absurd ⟨hpending, hpending', hkey.trans hkey'.symm, htype.trans htype'.symm⟩
        ((List.pairwise_cons.mp hapart).1 b (by simp))

end Runs

/-! ## The pipeline -/

/-- The events that a flush may take: their debounce is over, and no other transaction holds them. -/
def NotificationDb.due (db : NotificationDb π) (now : Instant) (locked : List Nat) : List (NotificationEvent π) :=
  db.events.filter fun e =>
    e.status == .pending && (e.debounceUntil.any fun t => t ≤ now) && !locked.contains e.id

/-- What a flush does to the events: to each it takes, and to the others. -/
structure FlushedOnce (db : NotificationDb π) (now : Instant) (locked : List Nat) : Prop where
  /-- As many of the due events as a flush takes. -/
  settled_length : (db.settledEvents now locked).length = min 500 (db.due now locked).length
  /-- They are due, and come before the due events it does not take. -/
  settled_first : ∀ e ∈ db.settledEvents now locked, e ∈ db.due now locked ∧
    ∀ d ∈ db.due now locked, d ∉ db.settledEvents now locked → flushOrder e d = true
  /-- Each stands in one group. -/
  one_group : ∀ e ∈ db.settledEvents now locked,
    ((groupEvents (db.settledEvents now locked)).filter fun group =>
      (group.2.map (·.id)).contains e.id).length = 1
  /-- And there once: the groups together are the events taken. -/
  groups : ((groupEvents (db.settledEvents now locked)).flatMap (·.2)).Perm (db.settledEvents now locked)
  shared : ∀ group ∈ groupEvents (db.settledEvents now locked), ∀ a ∈ group.2, ∀ b ∈ group.2,
    a.congregationId = b.congregationId ∧ a.recipient = b.recipient ∧ typeFamily a.type = typeFamily b.type
  /-- A digest for each group. -/
  queue : (flush now locked db).queue =
    db.queue ++ (groupEvents (db.settledEvents now locked)).map fun group => digestJob group.2
  sent : ∀ e ∈ db.settledEvents now locked,
    { e with status := .sent, processedAt := some now } ∈ (flush now locked db).events
  /-- What was not taken is as it was. -/
  others : ∀ e ∈ db.events, e ∉ db.settledEvents now locked → e ∈ (flush now locked db).events

/-- What the worker does with a digest. -/
structure WorkedOnce (svc : MailService π) (tables : WorkerDb) (now : Instant)
    (congregationId recipientId : Nat) (events : List (DigestEvent π)) (notificationEventIds : List Nat)
    (s : Outbox π) : Prop where
  /-- Each event is sent to each of its recipients, and those of which the send failed are marked. -/
  active : ∀ congregation, resolveCongregation tables congregationId = .ok congregation →
    congregation.suspendedAt = none → ∃ failedEventIds,
      (handleDigestEmail svc tables now congregationId recipientId events notificationEventIds).exec s =
        (.ok (), {
          db := s.db.markFailed now failedEventIds
          mails := s.mails ++
            events.flatMap (eventMails svc tables congregation congregationId recipientId) }) ∧
      ∀ id, id ∈ failedEventIds ↔ ∃ i, notificationEventIds[i]? = some id ∧
        sendFailsAt svc tables congregation congregationId recipientId s.mails events i = true
  /-- Of a congregation that is suspended or gone, none is sent and none marked. -/
  idle : (∀ congregation, resolveCongregation tables congregationId = .ok congregation →
      congregation.suspendedAt ≠ none) →
    ((handleDigestEmail svc tables now congregationId recipientId events notificationEventIds).exec s).2 = s

section Pipeline

variable {db : NotificationDb π} {s : Outbox π} {now : Instant} {locked : List Nat}

theorem flushOrder_iff {a b : NotificationEvent π} : flushOrder a b = true ↔
    a.congregationId < b.congregationId ∨ a.congregationId = b.congregationId ∧ a.createdAt ≤ b.createdAt := by
  simp [flushOrder]

theorem flushOrder_total (a b : NotificationEvent π) : (flushOrder a b || flushOrder b a) = true := by
  rw [Bool.or_eq_true, flushOrder_iff, flushOrder_iff]
  rcases Nat.lt_trichotomy a.congregationId b.congregationId with hlt | heq | hlt
  · exact .inl (.inl hlt)
  · rcases Int.le_total a.createdAt b.createdAt with hle | hle
    · exact .inl (.inr ⟨heq, hle⟩)
    · exact .inr (.inr ⟨heq.symm, hle⟩)
  · exact .inr (.inl hlt)

theorem flushOrder_trans (a b c : NotificationEvent π) (h : flushOrder a b = true)
    (h' : flushOrder b c = true) : flushOrder a c = true := by
  rw [flushOrder_iff] at *
  rcases h with hlt | ⟨heq, hle⟩
  · exact .inl (h'.elim (Nat.lt_trans hlt) fun h' => h'.1 ▸ hlt)
  · rcases h' with hlt | ⟨heq', hle'⟩
    · exact .inl (heq ▸ hlt)
    · exact .inr ⟨heq.trans heq', Int.le_trans hle hle'⟩

/-- The events taken come before those left. -/
theorem settled_before {e d : NotificationEvent π} (he : e ∈ db.settledEvents now locked)
    (hd : d ∈ db.due now locked) (hleft : d ∉ db.settledEvents now locked) : flushOrder e d = true := by
  have hsorted := List.pairwise_mergeSort flushOrder_trans flushOrder_total (db.due now locked)
  rw [← List.take_append_drop 500 ((db.due now locked).mergeSort flushOrder)] at hsorted
  have hin : d ∈ (db.due now locked).mergeSort flushOrder := List.mem_mergeSort.mpr hd
  rw [← List.take_append_drop 500 ((db.due now locked).mergeSort flushOrder)] at hin
  exact (List.pairwise_append.mp hsorted).2.2 e he d ((List.mem_append.mp hin).resolve_left hleft)

theorem QueuedOnce.flushedOnce (h : QueuedOnce db) : FlushedOnce db now locked := by
  have hgroups : ((groupEvents (db.settledEvents now locked)).flatMap (·.2)).Perm
      (db.settledEvents now locked) := groupOn_perm
  have hrow : ∀ e ∈ db.events, e ∈ db.settledEvents now locked ↔
      ((db.settledEvents now locked).map (·.id)).contains e.id = true := by
    intro e he
    rw [List.contains_iff_mem, List.mem_map]
    refine ⟨fun hin => ⟨e, hin, rfl⟩, fun ⟨e', he', hid⟩ => ?_⟩
    rwa [← List.inj_on_of_nodup_map h.ids_nodup (mem_settledEvents he').1 he hid]
  constructor
  case settled_length =>
    show (((db.due now locked).mergeSort flushOrder).take 500).length = _
    rw [List.length_take, List.length_mergeSort]
  case settled_first =>
    intro e he
    have hdue : e ∈ db.due now locked := List.mem_mergeSort.mp (List.mem_of_mem_take he)
    exact ⟨hdue, fun d hd hleft => settled_before he hd hleft⟩
  case one_group =>
    intro e he
    have hids : ((groupEvents (db.settledEvents now locked)).flatMap fun group => group.2.map (·.id)) =
        ((groupEvents (db.settledEvents now locked)).flatMap (·.2)).map (·.id) := by
      rw [List.map_flatMap]
    refine length_filter_mem_eq_one ?_ ?_
    · rw [hids]
      exact groups_perm.nodup_iff.mpr h.settled_nodup
    · rw [hids]
      exact groups_perm.mem_iff.mpr (List.mem_map_of_mem he)
  case groups => exact hgroups
  case shared =>
    intro group hgroup a ha b hb
    have hfamily : ∀ e ∈ group.2, ':' ∉ (typeFamily e.type).toList := by
      intro e he
      have hin : e ∈ db.settledEvents now locked :=
        hgroups.mem_iff.mp (List.mem_flatMap.mpr ⟨group, hgroup, he⟩)
      exact colon_not_mem_family (h.registered e (mem_settledEvents hin).1)
    refine groupKey_inj (hfamily a ha) (hfamily b hb) ?_
    rw [key_eq_of_group hgroup ha, key_eq_of_group hgroup hb]
  case queue =>
    show db.queue ++ ((groupEvents _).map (·.2)).map digestJob = _
    rw [List.map_map]
    rfl
  case sent =>
    intro e he
    have hmem := (mem_settledEvents he).1
    refine List.mem_map.mpr ⟨e, hmem, ?_⟩
    rw [if_pos ((hrow e hmem).mp he)]
  case others =>
    intro e he hleft
    refine List.mem_map.mpr ⟨e, he, ?_⟩
    rw [if_neg (mt (hrow e he).mpr hleft)]

/-- **The digest pipeline neither loses nor repeats a notification**, in every state that the requests, the
flushes, the worker and the cleanup reach: what a flush takes stands in one group, with its like, and what it does
not take stays; of a key and type one notification waits at most; an id is in one digest at most, and in one just
when its notification has left; and a digest is sent event by event, with a mark on those of which the send
failed. -/
theorem digest_pipeline (hs : Reach Outbox.turn Outbox.Takes Outbox.empty s) :
    (∀ now locked, FlushedOnce s.db now locked) ∧
      (∀ key type, (s.db.events.filter (pendingOf key [type])).length ≤ 1) ∧
      (s.db.digested.Nodup ∧ ∀ e ∈ s.db.events, e.id ∈ s.db.digested ↔ e.Flushed) ∧
      ∀ congregationId recipientId events notificationEventIds,
        EmailJob.digest congregationId recipientId events notificationEventIds ∈ s.db.queue →
        notificationEventIds.length = events.length ∧ ∀ svc tables now,
          WorkedOnce svc tables now congregationId recipientId events notificationEventIds s := by
  have h : QueuedOnce s.db := reach_queuedOnce hs
  refine ⟨fun now locked => h.flushedOnce, h.pending_le_one, ⟨h.digested_nodup, h.digested_iff⟩, ?_⟩
  intro congregationId recipientId events notificationEventIds hjob
  refine ⟨h.paired _ hjob, fun svc tables now => ⟨fun congregation hfound hactive => ?_, fun hidle => ?_⟩⟩
  · exact handleDigestEmail_exec hfound hactive s
  · exact handleDigestEmail_idle hidle s

/-- The assignment of a part, told to account 7. -/
def announcement (partId : Nat) : NotifyParams Unit where
  type := "programme.assignment.assigned"
  entityType := "EventPart"
  entityId := partId
  congregationId := 1
  recipientId := some 7
  recipientRole := none
  actorId := none
  payload := none

/-- A part is assigned, and half an hour later the flush takes it. -/
theorem digest_pipeline_announced :
    FlushedOnce ((Outbox.empty : Outbox Unit).turn (.request (.notify 0 (announcement 3)))).db 1800000 [] := by
  have htakes : Outbox.empty.Takes (.request (.notify 0 (announcement 3))) := trivial
  exact (digest_pipeline (Reach.one htakes)).1 1800000 []

end Pipeline

/-! ## The two gates -/

/-- So many parts are assigned at once. -/
def crowd : Nat → Outbox Unit
  | 0 => .empty
  | n + 1 => (crowd n).turn (.request (.notify 0 (announcement n)))

theorem announcement_key_inj {m n : Nat}
    (h : (announcement m).debounceKey = (announcement n).debounceKey) : m = n := by
  have hchars := congrArg String.toList h
  have hcolon : ":".toList = [':'] := by decide
  simp only [NotifyParams.debounceKey, announcement, String.toList_append, hcolon, List.append_assoc] at hchars
  have hrest := List.append_cancel_left (List.append_cancel_left hchars)
  exact number_inj (cut_eq (colon_not_mem_number m) (colon_not_mem_number n) hrest).1

theorem notify_announcement (partId : Nat) (db : NotificationDb Unit) :
    notify 0 (announcement partId) db = queueDebounced 0 (announcement partId) 30 db := by
  have hconfig : configOf (announcement partId).type = some (.debounced ⟨30, none⟩) := by
    show configOf "programme.assignment.assigned" = _
    decide
  unfold notify
  rw [hconfig]
  rfl

theorem crowd_spec (n : Nat) : Reach Outbox.turn Outbox.Takes Outbox.empty (crowd n) ∧
    (crowd n).db.events = (List.range n).map (fun i => newEvent (announcement i) 30 0 (i + 1)) ∧
    (crowd n).db.nextEventId = n + 1 := by
  induction n with
  | zero => exact ⟨.refl, rfl, rfl⟩
  | succ n ih =>
    obtain ⟨hreach, hevents, hnext⟩ := ih
    refine ⟨.step _ hreach trivial, ?_, ?_⟩
    · show (notify 0 (announcement n) (crowd n).db).events = _
      rw [notify_announcement]
      show (((crowd n).db.events.map _) ++ [newEvent (announcement n) 30 0 (crowd n).db.nextEventId]) = _
      rw [hevents, hnext, List.range_succ, List.map_append, List.map_singleton, List.map_map]
      congr 1
      -- no part is assigned twice, so nothing is taken back
      refine List.map_congr_left fun i hi => ?_
      refine if_neg fun hsel => ?_
      have hkey := (pendingOf_iff.mp hsel).1
      exact Nat.ne_of_lt (List.mem_range.mp hi) (announcement_key_inj hkey)
    · show (notify 0 (announcement n) (crowd n).db).nextEventId = _
      rw [notify_announcement]
      exact congrArg (· + 1) hnext

/-- A mailer that takes every mail. -/
def mailer : MailService Unit := ⟨fun _ => true, fun _ _ _ _ => .ok (some "Programme"), fun _ _ => .ok ()⟩

def suspendedCongregation : CongregationInfo :=
  ⟨1, "Paris", "fr", "Europe/Paris", "noreply@example.org", "https://example.org", some 0⟩

def suspendedTables : WorkerDb :=
  ⟨[suspendedCongregation], [⟨7, 1, "anne@example.org", some "Anne", true, none, none, []⟩], []⟩

def suspendedEvent : DigestEvent Unit := ⟨"programme.assignment.assigned", "EventPart", 3, none⟩

/-- Of 501 events that are due, a flush leaves one; and the digest of a suspended congregation sends none of its
events. -/
theorem flush_leaves_one_and_suspension_sends_none :
    ¬(∀ s : Outbox Unit, Reach Outbox.turn Outbox.Takes Outbox.empty s → ∀ now, ∀ e ∈ s.db.due now [],
        ((groupEvents (s.db.settledEvents now [])).filter fun group =>
          (group.2.map (·.id)).contains e.id).length = 1) ∧
      eventMails mailer suspendedTables suspendedCongregation 1 7 suspendedEvent ≠ [] ∧
      ((handleDigestEmail mailer suspendedTables 0 1 7 [suspendedEvent] [1]).exec Outbox.empty).2.mails = [] := by
  refine ⟨fun hall => ?_, by decide +kernel, by decide +kernel⟩
  obtain ⟨hreach, hevents, -⟩ := crowd_spec 501
  have hdue : (crowd 501).db.due 1800000 [] = (crowd 501).db.events := by
    refine List.filter_eq_self.mpr fun e he => ?_
    rw [hevents] at he
    obtain ⟨i, -, rfl⟩ := List.mem_map.mp he
    rfl
  have hsub : (crowd 501).db.events.map (·.id) ⊆ ((crowd 501).db.settledEvents 1800000 []).map (·.id) := by
    intro id hid
    obtain ⟨e, he, rfl⟩ := List.mem_map.mp hid
    have hone := hall _ hreach 1800000 e (hdue ▸ he)
    obtain ⟨group, hgroup⟩ := List.exists_mem_of_length_pos (hone ▸ Nat.one_pos)
    obtain ⟨hgroup, hin⟩ := List.mem_filter.mp hgroup
    refine groups_perm.mem_iff.mp ?_
    rw [List.map_flatMap]
    exact List.mem_flatMap.mpr ⟨group, hgroup, List.contains_iff_mem.mp hin⟩
  have hle := (List.subperm_of_subset (reach_queuedOnce hreach).ids_nodup hsub).length_le
  have htaken : ((crowd 501).db.settledEvents 1800000 []).length ≤ 500 := List.length_take_le _ _
  rw [List.length_map, List.length_map, hevents, List.length_map, List.length_range] at hle
  exact absurd (Nat.le_trans hle htaken) (by decide)

end Unitae.Notifications
