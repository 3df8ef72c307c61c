import Unitae.Notifications.Queue

/-!
# Unitae — a correction follows a delivered announcement

`programme.assignment.unassigned` and `board.document.deleted` take back an announcement that still
waits and, as the comments beside them say, go out themselves when the mail has already left. What
they look at is only whether one still waits. An announcement that is repeated before it is taken
back hides the one that has left: `correction_iff` mayTell exactly when the recipient is told.
-/

namespace Unitae.Notifications

variable {π : Type}

/-! ## Runs of the pipeline -/

inductive Request (π : Type) where
  | notify (now : Instant) (params : NotifyParams π)
  | flush (now : Instant) (locked : List Nat)
  /-- `unreleaseEvent`, over the parts and services of the event. -/
  | unrelease (now : Instant) (congregationId : Nat) (partIds serviceIds : List Nat)
deriving DecidableEq, Repr

def step (db : NotificationDb π) : Request π → NotificationDb π
  | .notify now params => notify now params db
  | .flush now locked => flush now locked db
  | .unrelease now congregationId partIds serviceIds =>
    cancelForEntities now congregationId partIds serviceIds db

def run (db : NotificationDb π) (requests : List (Request π)) : NotificationDb π :=
  requests.foldl step db

/-- The entry tells this entity's recipient something of one of the types. -/
def tells (key : String) (types : List String) (x : Sent) : Bool :=
  x.key == key && types.contains x.type

/-- The request notifies this entity's recipient, with one of the types. -/
def Request.concerns (key : String) (types : List String) : Request π → Bool
  | .notify _ params => match configOf params.type with
    | none => false
    | some config => (params.resolved config).debounceKey == key && types.contains params.type
  | _ => false

/-- The type is not a cancellation: what it announces waits, when it does not go out at once. -/
def Announcing (type : String) : Prop :=
  ∀ cancels fallback, configOf type ≠ some (.cancellation cancels fallback)

/-- Only announcements wait, as everything `notify` stores does. -/
def Debounces (db : NotificationDb π) : Prop :=
  ∀ e ∈ db.events, e.status = .pending → Announcing e.type

/-- Nothing waits for this entity's recipient, of these types. -/
def Waitless (key : String) (types : List String) (db : NotificationDb π) : Prop :=
  ∀ e ∈ db.events, pendingOf key types e = false

/-! ## The registry -/

/-- Every registered cancellation goes out at once when it goes out, and cancels announcements. -/
theorem cancellation_instant {type : String} {cancels : List String}
    {fallback : DebouncedNotificationType}
    (h : configOf type = some (.cancellation cancels fallback)) :
    fallback.debounceMinutes = 0 ∧ type ∉ cancels := by
  have hmem : (type, NotificationTypeConfig.cancellation cancels fallback) ∈ notificationTypes := by
    obtain ⟨before, rest, hsplit, _⟩ := List.lookup_eq_some_iff.mp h
    rw [hsplit]
    exact List.mem_append_right _ List.mem_cons_self
  simp only [notificationTypes, List.mem_cons, List.not_mem_nil, or_false, Prod.mk.injEq,
    NotificationTypeConfig.cancellation.injEq, reduceCtorEq, and_false, false_or] at hmem
  rcases hmem with ⟨rfl, rfl, rfl⟩ | ⟨rfl, rfl, rfl⟩
  · exact ⟨rfl, by decide⟩
  · exact ⟨rfl, by decide⟩

/-! ## What one request does -/

/-- From `db` to `db'` nothing is told but what waited or what `mayTell` allows, and nothing new waits
but announcements that `mayTell` allows. -/
structure Moves (mayTell : Sent → Prop) (db db' : NotificationDb π) : Prop where
  told : ∃ added, db'.sent = db.sent ++ added ∧ ∀ x ∈ added, mayTell x ∨
    ∃ e ∈ db.events, e.status = .pending ∧ x = ⟨e.debounceKey, e.type⟩
  waits : ∀ e ∈ db'.events, e.status = .pending →
    e ∈ db.events ∨ mayTell ⟨e.debounceKey, e.type⟩ ∧ Announcing e.type

/-- What a request may tell or leave waiting. -/
def Request.mayTell : Request π → Sent → Prop
  | .notify _ params, x => ∃ config, configOf params.type = some config ∧
      x = ⟨(params.resolved config).debounceKey, params.type⟩
  | _, _ => False

section Steps

variable {db : NotificationDb π} {key : String} {types : List String} {now : Instant}
  {params : NotifyParams π}

@[simp] theorem resolved_type (config : NotificationTypeConfig) :
    (params.resolved config).type = params.type := by
  unfold NotifyParams.resolved
  split <;> rfl

theorem Moves.refl (mayTell : Sent → Prop) : Moves mayTell db db :=
  ⟨⟨[], (List.append_nil _).symm, by simp⟩, fun _ he _ => .inl he⟩

theorem Moves.cancelled (mayTell : Sent → Prop) {sel : NotificationEvent π → Bool} :
    Moves mayTell db (db.updateEvents sel (·.cancelled now)) :=
  ⟨⟨[], (List.append_nil _).symm, by simp⟩,
    fun _ he hpending => .inl (pending_of_cancelled he hpending).1⟩

theorem pushToEmailQueue_moves {mayTell : Sent → Prop} (htells : mayTell ⟨params.debounceKey, params.type⟩) :
    Moves mayTell db (pushToEmailQueue params db) :=
  ⟨⟨_, rfl, fun x hx => .inl (by rw [List.mem_singleton.mp hx]; exact htells)⟩,
    fun _ he _ => .inl he⟩

theorem announce_moves {mayTell : Sent → Prop} {minutes : Nat}
    (htells : mayTell ⟨params.debounceKey, params.type⟩)
    (hannouncing : 0 < minutes → Announcing params.type) :
    Moves mayTell db (announce now params minutes db) := by
  unfold announce
  split
  · next hlate =>
    refine ⟨⟨[], (List.append_nil _).symm, by simp⟩, fun e he hpending => ?_⟩
    rcases List.mem_append.mp he with hold | hnew
    · exact .inl (pending_of_cancelled hold hpending).1
    · rw [List.mem_singleton.mp hnew]
      exact .inr ⟨htells, hannouncing hlate⟩
  · exact pushToEmailQueue_moves htells

theorem handleCancellation_cases (cancels : List String) (fallback : DebouncedNotificationType) :
    (∃ e ∈ db.events, pendingOf params.debounceKey cancels e = true) ∧
        handleCancellation now params cancels fallback db =
          db.updateEvents (pendingOf params.debounceKey cancels) (·.cancelled now) ∨
      Waitless params.debounceKey cancels db ∧
        handleCancellation now params cancels fallback db =
          announce now params fallback.debounceMinutes db := by
  simp only [handleCancellation, List.length_pos_iff, ne_eq, List.filter_eq_nil_iff, ite_not]
  by_cases hwaitless : ∀ e ∈ db.events, ¬pendingOf params.debounceKey cancels e = true
  · refine .inr ⟨fun e he => by simpa using hwaitless e he, if_pos hwaitless⟩
  · refine .inl ⟨?_, if_neg hwaitless⟩
    simpa using hwaitless

theorem notify_moves :
    Moves (Request.mayTell (.notify now params)) db (notify now params db) := by
  unfold notify
  cases hconfig : configOf params.type with
  | none => exact Moves.refl _
  | some config =>
    have htells : Request.mayTell (.notify now params)
        ⟨(params.resolved config).debounceKey, (params.resolved config).type⟩ :=
      ⟨config, hconfig, by rw [resolved_type]⟩
    cases config with
    | debounced routing =>
      refine announce_moves htells fun _ => ?_
      rw [resolved_type]
      intro cancels fallback h
      rw [hconfig] at h
      simp at h
    | cancellation cancels fallback =>
      show Moves _ _ (handleCancellation now _ cancels fallback db)
      rcases handleCancellation_cases cancels fallback with ⟨_, hcancelled⟩ | ⟨_, hfallback⟩
      · rw [hcancelled]
        exact Moves.cancelled _
      · -- the registered fallbacks go out at once, so none of them waits
        rw [hfallback]
        refine announce_moves htells fun hlate => ?_
        rw [(cancellation_instant hconfig).1] at hlate
        exact absurd hlate (Nat.lt_irrefl 0)

theorem step_moves (request : Request π) : Moves request.mayTell db (step db request) := by
  cases request with
  | notify now params => exact notify_moves
  | flush now locked =>
    obtain ⟨⟨added, hsent, htold⟩, hrows⟩ := @flush_spec π db now locked
    exact ⟨⟨added, hsent, fun x hx => .inr (htold x hx)⟩, fun e he hpending =>
      .inl (hrows e he hpending)⟩
  | unrelease now congregationId partIds serviceIds =>
    show Moves _ _ (cancelForEntities now congregationId partIds serviceIds db)
    unfold cancelForEntities
    split
    · exact Moves.cancelled _
    · exact Moves.refl _

theorem not_mayTell {request : Request π} (h : request.concerns key types = false) {x : Sent}
    (htells : request.mayTell x) : tells key types x = false := by
  cases request with
  | notify now params =>
    obtain ⟨config, hconfig, rfl⟩ := htells
    simp only [Request.concerns, hconfig] at h
    exact h
  | flush => exact htells.elim
  | unrelease => exact htells.elim

theorem tells_pending {e : NotificationEvent π} (hpending : e.status = .pending) :
    tells key types ⟨e.debounceKey, e.type⟩ = pendingOf key types e := by
  simp [tells, pendingOf, hpending]

/-- Where nothing waits, a request about something else tells nothing and leaves nothing waiting. -/
theorem step_quiet {request : Request π} (hwaitless : Waitless key types db)
    (h : request.concerns key types = false) :
    Waitless key types (step db request) ∧ ∃ added, (step db request).sent = db.sent ++ added ∧
      ∀ x ∈ added, tells key types x = false := by
  obtain ⟨⟨added, hsent, htold⟩, hwaits⟩ := @step_moves π db request
  refine ⟨fun e he => ?_, added, hsent, fun x hx => ?_⟩
  · by_contra hnot
    have hsel : pendingOf key types e = true := by simpa using hnot
    have hpending := (pendingOf_iff.mp hsel).2.1
    rcases hwaits e he hpending with hold | ⟨htells, _⟩
    · rw [hwaitless e hold] at hsel
      exact Bool.noConfusion hsel
    · rw [← tells_pending hpending, not_mayTell h htells] at hsel
      exact Bool.noConfusion hsel
  · rcases htold x hx with htells | ⟨e, he, hpending, rfl⟩
    · exact not_mayTell h htells
    · rw [tells_pending hpending]
      exact hwaitless e he

theorem step_debounces (h : Debounces db) (request : Request π) : Debounces (step db request) := by
  intro e he hpending
  rcases (step_moves request).waits e he hpending with hold | ⟨_, hannouncing⟩
  · exact h e hold hpending
  · exact hannouncing

end Steps

/-! ## Runs -/

section Runs

variable {start : NotificationDb π} {before after : List (Request π)} {now : Instant}
  {params : NotifyParams π} {cancels : List String} {fallback : DebouncedNotificationType}

theorem run_debounces (h : Debounces start) (requests : List (Request π)) :
    Debounces (run start requests) := by
  induction requests generalizing start with
  | nil => exact h
  | cons request requests ih => exact ih (step_debounces h request)

theorem run_quiet {key : String} {types : List String} (hwaitless : Waitless key types start)
    {requests : List (Request π)} (h : ∀ r ∈ requests, r.concerns key types = false) :
    ∃ added, (run start requests).sent = start.sent ++ added ∧
      ∀ x ∈ added, tells key types x = false := by
  induction requests generalizing start with
  | nil => exact ⟨[], (List.append_nil _).symm, by simp⟩
  | cons request requests ih =>
    obtain ⟨hwaits, first, hfirst, hquiet⟩ := step_quiet hwaitless (h request List.mem_cons_self)
    obtain ⟨rest, hrest, hquiet'⟩ := ih hwaits fun r hr => h r (List.mem_cons_of_mem request hr)
    refine ⟨first ++ rest, ?_, fun x hx => ?_⟩
    · show (run (step start request) requests).sent = _
      rw [hrest, hfirst, List.append_assoc]
    · rcases List.mem_append.mp hx with hx | hx
      · exact hquiet x hx
      · exact hquiet' x hx

/-- The key of a cancelling call: the entity and the recipient it is about. -/
def NotifyParams.cancellationKey (params : NotifyParams π) (cancels : List String)
    (fallback : DebouncedNotificationType) : String :=
  (params.resolved (.cancellation cancels fallback)).debounceKey

/-- What a cancelling call leaves in the log, and that nothing it cancels waits after it. -/
theorem notify_cancellation {db : NotificationDb π}
    (htype : configOf params.type = some (.cancellation cancels fallback)) :
    Waitless (params.cancellationKey cancels fallback) cancels (notify now params db) ∧
      ((∃ e ∈ db.events, pendingOf (params.cancellationKey cancels fallback) cancels e = true) ∧
          (notify now params db).sent = db.sent ∨
        Waitless (params.cancellationKey cancels fallback) cancels db ∧
          (notify now params db).sent =
            db.sent ++ [⟨params.cancellationKey cancels fallback, params.type⟩]) := by
  have hnotify : notify now params db = handleCancellation now
      (params.resolved (.cancellation cancels fallback)) cancels fallback db := by
    simp only [notify, htype]
  rw [hnotify]
  rcases handleCancellation_cases cancels fallback with ⟨hwaits, hcancelled⟩ | ⟨hwaitless, hnow⟩
  · rw [hcancelled]
    refine ⟨fun e he => ?_, .inl ⟨hwaits, rfl⟩⟩
    by_contra hnot
    have hsel : pendingOf (params.cancellationKey cancels fallback) cancels e = true := by
      simpa using hnot
    have hunselected := (pending_of_cancelled he (pendingOf_iff.mp hsel).2.1).2
    exact absurd hsel (by rw [NotifyParams.cancellationKey, hunselected]; exact Bool.false_ne_true)
  · have hpush : handleCancellation now (params.resolved (.cancellation cancels fallback)) cancels
        fallback db = pushToEmailQueue (params.resolved (.cancellation cancels fallback)) db := by
      rw [hnow, announce, if_neg (by rw [(cancellation_instant htype).1]; exact Nat.lt_irrefl 0)]
    rw [hpush]
    refine ⟨hwaitless, .inr ⟨hwaitless, ?_⟩⟩
    show db.sent ++ [⟨_, (params.resolved (.cancellation cancels fallback)).type⟩] = _
    rw [resolved_type]
    rfl

/-- **A correction follows every announcement delivered before a cancellation** if and only if, when
the cancelling call is made, no announcement is waiting or none is outstanding: the call takes back
what waits, and then does not ask whether an earlier announcement has left. `after` is the rest of
the run, in which the entity is not announced to the recipient again. -/
theorem correction_iff (htype : configOf params.type = some (.cancellation cancels fallback))
    (hstart : Debounces start)
    (hlast : ∀ r ∈ after, r.concerns (params.cancellationKey cancels fallback)
      (params.type :: cancels) = false) :
    (∀ earlier a later,
      (run start (before ++ .notify now params :: after)).sent = earlier ++ a :: later →
        tells (params.cancellationKey cancels fallback) cancels a = true →
        ∃ c ∈ later, tells (params.cancellationKey cancels fallback) [params.type] c = true) ↔
      ¬((∃ e ∈ (run start before).events,
          pendingOf (params.cancellationKey cancels fallback) cancels e = true) ∧
        Log.Outstanding (tells (params.cancellationKey cancels fallback) cancels)
          (tells (params.cancellationKey cancels fallback) [params.type])
          (run start before).sent) := by
  set key := params.cancellationKey cancels fallback with hkey
  set s := run start before with hs
  have hsplit : run start (before ++ .notify now params :: after) =
      run (notify now params s) after := by
    rw [run, List.foldl_append]
    rfl
  obtain ⟨hcancelled, hcases⟩ := @notify_cancellation π now params cancels fallback s htype
  have htold := (cancellation_instant htype).2
  -- nothing waits for the key after the call, of the cancelling type either
  have hdebounces : Debounces (notify now params s) :=
    step_debounces (run_debounces hstart before) (.notify now params)
  have hwaitless : Waitless key (params.type :: cancels) (notify now params s) := by
    intro e he
    by_contra hnot
    obtain ⟨hkeyed, hpending, hmem⟩ := pendingOf_iff.mp (by simpa using hnot)
    rcases List.mem_cons.mp hmem with hsame | hcancels
    · exact hdebounces e he hpending cancels fallback (by rw [hsame]; exact htype)
    · have hsel : pendingOf key cancels e = true := pendingOf_iff.mpr ⟨hkeyed, hpending, hcancels⟩
      rw [hcancelled e he] at hsel
      exact Bool.noConfusion hsel
  obtain ⟨added, hsent, hquiet⟩ := run_quiet hwaitless hlast
  have hlastWord : Log.lastWord (tells key cancels) (tells key [params.type])
      (run (notify now params s) after).sent =
        Log.lastWord (tells key cancels) (tells key [params.type]) (notify now params s).sent := by
    rw [hsent]
    refine Log.lastWord_append fun x hx => ?_
    have hother := hquiet x hx
    simp only [tells, List.contains_eq_mem, List.mem_cons, Bool.decide_or, Bool.and_eq_false_iff,
      Bool.or_eq_false_iff, decide_eq_false_iff_not] at hother ⊢
    rcases hother with hother | hother
    · exact ⟨.inl hother, .inl hother⟩
    · exact ⟨.inr hother.2, .inr (by simpa using hother.1)⟩
  have hproperty : (∀ earlier a later,
      (run start (before ++ .notify now params :: after)).sent = earlier ++ a :: later →
        tells key cancels a = true → ∃ c ∈ later, tells key [params.type] c = true) ↔
      ¬Log.Outstanding (tells key cancels) (tells key [params.type])
        (run (notify now params s) after).sent := by
    rw [hsplit]
    simp only [Log.Outstanding, not_exists, not_and, not_forall, Bool.not_eq_false]
    exact ⟨fun h earlier a later he ha => by simpa using h earlier a later he ha,
      fun h earlier a later he ha => by simpa using h earlier a later he ha⟩
  rw [hproperty, ← Log.lastWord_iff, hlastWord, ← Log.lastWord_iff]
  rcases hcases with ⟨hwaits, hsame⟩ | ⟨hnone, hcorrected⟩
  · rw [hsame]
    exact not_congr ⟨fun h => ⟨hwaits, h⟩, fun h => h.2⟩
  · rw [hcorrected, Log.lastWord_correct (by simp [tells, hkey]) (by simp [tells, htold])]
    have hnowait : ¬∃ e ∈ s.events, pendingOf key cancels e = true := by
      rintro ⟨e, he, hsel⟩
      rw [hnone e he] at hsel
      exact Bool.noConfusion hsel
    exact iff_of_true Bool.false_ne_true fun h => hnowait h.1

end Runs

/-- A call about part 3 and account 7. -/
def notice (type : String) : NotifyParams Unit :=
  ⟨type, "EventPart", 3, 1, some 7, none, none, none⟩

def assigned : String := "programme.assignment.assigned"

def unassigned : String := "programme.assignment.unassigned"

def noticeKey : String := (notice unassigned).cancellationKey [assigned] ⟨0, none⟩

def noNotifications : NotificationDb Unit := ⟨[], 1, [], []⟩

def minute (n : Int) : Instant := n * 60 * 1000

/-- Announced, and the mail has left. -/
def announced : List (Request Unit) :=
  [.notify (minute 0) (notice assigned), .flush (minute 30) []]

/-- Unassigned, and flushed once more. -/
def afterUnassigned (before : List (Request Unit)) : NotificationDb Unit :=
  run noNotifications (before ++ .notify (minute 40) (notice unassigned) :: [.flush (minute 80) []])

/-- Announced once more, and unassigned before that mail leaves: no correction. -/
theorem correction_missing :
    ¬∀ earlier a later,
      (afterUnassigned (announced ++ [.notify (minute 35) (notice assigned)])).sent =
        earlier ++ a :: later →
      tells noticeKey [assigned] a = true → ∃ c ∈ later, tells noticeKey [unassigned] c = true := by
  intro h
  obtain ⟨c, hc, _⟩ := h [] ⟨noticeKey, assigned⟩ [] (by decide +kernel) (by decide +kernel)
  exact List.not_mem_nil hc

/-- Unassigned when nothing waits. -/
theorem correction_iff_unassigned :
    (∀ earlier a later, (afterUnassigned announced).sent = earlier ++ a :: later →
      tells noticeKey [assigned] a = true → ∃ c ∈ later, tells noticeKey [unassigned] c = true) ↔
      ¬((∃ e ∈ (run noNotifications announced).events, pendingOf noticeKey [assigned] e = true) ∧
        Log.Outstanding (tells noticeKey [assigned]) (tells noticeKey [unassigned])
          (run noNotifications announced).sent) :=
  correction_iff (by decide) (fun _ he => absurd he List.not_mem_nil) (by decide)

end Unitae.Notifications
