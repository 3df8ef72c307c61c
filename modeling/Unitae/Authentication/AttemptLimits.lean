import Mathlib.Data.Rat.Defs
import Mathlib.Algebra.Order.Ring.Rat
import Mathlib.Logic.Function.Basic
import Unitae.Base.Run

/-!
# Unitae — the attempt limiters (`rate-limit.server.ts`)

Logins are counted in Redis by client and globally, second factors by account. A guard counts an
attempt before it is checked and a successful one gives its counts back. Requests run side by side:
a step is one script or command, and between any two steps other requests run and keys expire.

A counter lives for a window, from the hit that creates it to its expiry. Nothing ties a release to
the window its attempt was counted in. `limited_of_fresh` says what holds while no release is late;
`late_release_lets_through` what a late one does.
-/

namespace Unitae.Authentication

/-! ## Redis -/

/-- `login_fail:ip:<ip>`, `login_fail:global` and `two_factor_fail:user:<id>`. -/
inductive LimitKey where
  | loginIp (ip : String)
  | loginGlobal
  | twoFactor (userId : Nat)
deriving DecidableEq, Repr

structure Counter where
  value : Int
  /-- The seconds to live it was given; without them it never expires. -/
  expiry : Option Nat
deriving DecidableEq, Repr

abbrev Redis := LimitKey → Option Counter

/-- `INCR`: a missing key counts from 0 and is created without an expiry. -/
def Redis.incr (redis : Redis) (key : LimitKey) : Int × Redis :=
  let count := ((redis key).map (·.value)).getD 0 + 1
  (count, Function.update redis key (some ⟨count, (redis key).bind (·.expiry)⟩))

/-- `DECR`, likewise. -/
def Redis.decr (redis : Redis) (key : LimitKey) : Int × Redis :=
  let count := ((redis key).map (·.value)).getD 0 - 1
  (count, Function.update redis key (some ⟨count, (redis key).bind (·.expiry)⟩))

def Redis.expire (redis : Redis) (key : LimitKey) (seconds : Nat) : Redis :=
  Function.update redis key ((redis key).map fun c => { c with expiry := some seconds })

def Redis.del (redis : Redis) (key : LimitKey) : Redis := Function.update redis key none

def windowSeconds : Nat := 15 * 60

/-- `INCREMENT_SCRIPT`: the first hit of a window sets its end. -/
def incrementScript (redis : Redis) (key : LimitKey) (ttlSeconds : Nat) : Int × Redis :=
  let (count, redis) := redis.incr key
  (count, if count = 1 then redis.expire key ttlSeconds else redis)

/-- `DECREMENT_SCRIPT`: a counter that reaches zero is removed. -/
def decrementScript (redis : Redis) (key : LimitKey) : Int × Redis :=
  let (count, redis) := redis.decr key
  (count, if count ≤ 0 then redis.del key else redis)

/-- How many hits a key counts. -/
def Redis.hits (redis : Redis) (key : LimitKey) : Int := ((redis key).map (·.value)).getD 0

theorem incrementScript_fst {redis : Redis} {key : LimitKey} {ttlSeconds : Nat} :
    (incrementScript redis key ttlSeconds).1 = redis.hits key + 1 := rfl

theorem incrementScript_snd {redis : Redis} {key : LimitKey} {ttlSeconds : Nat} :
    (incrementScript redis key ttlSeconds).2 = Function.update redis key (some
      ⟨redis.hits key + 1, if redis.hits key + 1 = 1 then some ttlSeconds
        else (redis key).bind (·.expiry)⟩) := by
  show (if redis.hits key + 1 = 1 then _ else _) = _
  by_cases hfirst : redis.hits key + 1 = 1
  · rw [if_pos hfirst, if_pos hfirst]
    simp [Redis.expire, ← Redis.hits.eq_1]
  · rw [if_neg hfirst, if_neg hfirst]
    rfl

theorem decrementScript_snd {redis : Redis} {key : LimitKey} :
    (decrementScript redis key).2 = Function.update redis key
      (if redis.hits key - 1 ≤ 0 then none
      else some ⟨redis.hits key - 1, (redis key).bind (·.expiry)⟩) := by
  show (if redis.hits key - 1 ≤ 0 then _ else _) = _
  by_cases hlast : redis.hits key - 1 ≤ 0
  · rw [if_pos hlast, if_pos hlast]
    simp [Redis.del]
  · rw [if_neg hlast, if_neg hlast]
    rfl

/-! ## Requests -/

/-- The maxima: what the environment sets, or the defaults. -/
structure Limits where
  loginIpMax : Rat
  loginGlobalMax : Rat
  twoFactorMax : Rat

def Limits.default : Limits := ⟨10, 100, 5⟩

def Limits.maxOf (limits : Limits) : LimitKey → Rat
  | .loginIp _ => limits.loginIpMax
  | .loginGlobal => limits.loginGlobalMax
  | .twoFactor _ => limits.twoFactorMax

/-- Where the request of a login stands. The numbers are the windows in which it passed a counter
and has not been given back. -/
inductive LoginStage where
  | guardIp
  | guardGlobal (ipWindow : Nat)
  | admitted (ipWindow globalWindow : Nat)
  | releaseIp (ipWindow globalWindow : Nat)
  | releaseGlobal (globalWindow : Nat)
  | ended (ipWindow globalWindow : Option Nat)
deriving DecidableEq, Repr

inductive TwoFactorStage where
  | guard
  | admitted (window : Nat)
  | release (window : Nat)
  | ended (window : Option Nat)
deriving DecidableEq, Repr

inductive Call where
  | login (ip : String) (stage : LoginStage)
  | twoFactor (userId : Nat) (stage : TwoFactorStage)
deriving DecidableEq, Repr

/-- The counters the request has passed and not released, each with the window it passed it in. -/
def Call.passes : Call → List (LimitKey × Nat)
  | .login ip stage => match stage with
    | .guardIp => []
    | .guardGlobal ipWindow => [(.loginIp ip, ipWindow)]
    | .admitted ipWindow globalWindow => [(.loginIp ip, ipWindow), (.loginGlobal, globalWindow)]
    | .releaseIp ipWindow globalWindow => [(.loginIp ip, ipWindow), (.loginGlobal, globalWindow)]
    | .releaseGlobal globalWindow => [(.loginGlobal, globalWindow)]
    | .ended ipWindow globalWindow =>
      (ipWindow.toList.map fun w => (.loginIp ip, w)) ++
        globalWindow.toList.map fun w => (.loginGlobal, w)
  | .twoFactor userId stage => match stage with
    | .guard => []
    | .admitted window => [(.twoFactor userId, window)]
    | .release window => [(.twoFactor userId, window)]
    | .ended window => window.toList.map fun w => (.twoFactor userId, w)

structure Limiter where
  redis : Redis
  /-- How often each key has been created. -/
  windows : LimitKey → Nat
  calls : List Call

def Limiter.start : Limiter := ⟨fun _ => none, fun _ => 0, []⟩

/-- The passes of a counter in a window that have not been released. -/
def Limiter.held (s : Limiter) (pass : LimitKey × Nat) : Nat :=
  (s.calls.flatMap Call.passes).count pass

/-- The attempts let through on a key since it was last created, and not yet released. -/
def Limiter.letThrough (s : Limiter) (key : LimitKey) : Nat := s.held (key, s.windows key)

/-! ## Steps -/

inductive LimitEvent where
  | guardLoginAttempt (ip : Option String)
  | guardTwoFactorAttempt (userId : Nat)
  /-- The attempt let through was a success: its request goes on to release it. -/
  | release (call : Nat)
  /-- The next script or command of a request; its reply may be lost. -/
  | run (call : Nat) (replied : Bool)
  /-- A request finds Redis unreachable. -/
  | unreachable (call : Nat)
  | expire (key : LimitKey)
deriving DecidableEq, Repr

/-- `incrementAndCount`, and a new window when it creates the key. -/
def Limiter.increment (s : Limiter) (key : LimitKey) : Int × Limiter :=
  let (count, redis) := incrementScript s.redis key windowSeconds
  (count, { s with
    redis := redis
    windows := if (s.redis key).isNone then
      Function.update s.windows key (s.windows key + 1) else s.windows })

def Limiter.decrement (s : Limiter) (key : LimitKey) : Limiter :=
  { s with redis := (decrementScript s.redis key).2 }

def Limiter.setCall (s : Limiter) (i : Nat) (call : Call) : Limiter :=
  { s with calls := s.calls.set i call }

/-- The next step of a request: it fails closed when a reply is lost. -/
def Limiter.runCall (limits : Limits) (s : Limiter) (i : Nat) (replied : Bool) : Call → Limiter
  | .login ip .guardIp =>
    let (ipCount, s) := s.increment (.loginIp ip)
    s.setCall i (.login ip
      (if replied = false ∨ limits.loginIpMax < ipCount then .ended none none
      else .guardGlobal (s.windows (.loginIp ip))))
  | .login ip (.guardGlobal ipWindow) =>
    let (globalCount, s) := s.increment .loginGlobal
    s.setCall i (.login ip
      (if replied = false ∨ limits.loginGlobalMax < globalCount then .ended (some ipWindow) none
      else .admitted ipWindow (s.windows .loginGlobal)))
  | .login ip (.releaseIp _ globalWindow) =>
    (s.decrement (.loginIp ip)).setCall i (.login ip
      (if replied then .releaseGlobal globalWindow else .ended none (some globalWindow)))
  | .login ip (.releaseGlobal _) =>
    (s.decrement .loginGlobal).setCall i (.login ip (.ended none none))
  | .twoFactor userId .guard =>
    let (count, s) := s.increment (.twoFactor userId)
    s.setCall i (.twoFactor userId
      (if replied = false ∨ limits.twoFactorMax < count then .ended none
      else .admitted (s.windows (.twoFactor userId))))
  | .twoFactor userId (.release _) =>
    { s with redis := s.redis.del (.twoFactor userId) }.setCall i (.twoFactor userId (.ended none))
  | _ => s

/-- A request that cannot reach Redis denies its attempt, or leaves it unreleased. -/
def Call.abandoned : Call → Call
  | .login ip stage => .login ip (match stage with
    | .guardIp => .ended none none
    | .guardGlobal ipWindow => .ended (some ipWindow) none
    | .releaseIp ipWindow globalWindow => .ended (some ipWindow) (some globalWindow)
    | .releaseGlobal globalWindow => .ended none (some globalWindow)
    | stage => stage)
  | .twoFactor userId stage => .twoFactor userId (match stage with
    | .guard => .ended none
    | .release window => .ended (some window)
    | stage => stage)

/-- `releaseLoginAttempt` and `releaseTwoFactorAttempts` follow an attempt that was let through. -/
def Call.released : Call → Call
  | .login ip (.admitted ipWindow globalWindow) => .login ip (.releaseIp ipWindow globalWindow)
  | .twoFactor userId (.admitted window) => .twoFactor userId (.release window)
  | call => call

def Limiter.step (limits : Limits) (s : Limiter) : LimitEvent → Limiter
  | .guardLoginAttempt ip =>
    { s with calls := s.calls ++ [.login (ip.getD "unknown") .guardIp] }
  | .guardTwoFactorAttempt userId => { s with calls := s.calls ++ [.twoFactor userId .guard] }
  | .release i => match s.calls[i]? with
    | none => s
    | some call => s.setCall i call.released
  | .run i replied => match s.calls[i]? with
    | none => s
    | some call => s.runCall limits i replied call
  | .unreachable i => match s.calls[i]? with
    | none => s
    | some call => s.setCall i call.abandoned
  | .expire key => { s with redis := s.redis.del key }

/-! ## The condition -/

/-- The counter a release is about to take from is that of the attempt's window, or gone. -/
def Limiter.Current (s : Limiter) (key : LimitKey) (window : Nat) : Prop :=
  s.redis key = none ∨ window = s.windows key

instance (s : Limiter) (key : LimitKey) (window : Nat) : Decidable (s.Current key window) :=
  inferInstanceAs (Decidable (_ ∨ _))

/-- No release takes from a window its attempt was not counted in. -/
def Limiter.Fresh (s : Limiter) : LimitEvent → Prop
  | .run i _ => match s.calls[i]? with
    | some (.login ip (.releaseIp ipWindow _)) => s.Current (.loginIp ip) ipWindow
    | some (.login _ (.releaseGlobal globalWindow)) => s.Current .loginGlobal globalWindow
    | _ => True
  | _ => True

instance (s : Limiter) (event : LimitEvent) : Decidable (s.Fresh event) := by
  unfold Limiter.Fresh
  split
  · split <;> infer_instance
  · infer_instance

/-! ## What a step does to the counters -/

/-- Counters and passes move together, in one of five ways. -/
inductive Move (limits : Limits) (s s' : Limiter) : Prop where
  | drop (hredis : s'.redis = s.redis) (hwindows : s'.windows = s.windows)
      (hheld : ∀ pass, s'.held pass ≤ s.held pass)
  | hit (key : LimitKey) (hredis : s'.redis = (s.increment key).2.redis)
      (hwindows : s'.windows = (s.increment key).2.windows) (hheld : s'.held = s.held)
  | passed (key : LimitKey) (hmax : ((s.increment key).1 : Rat) ≤ limits.maxOf key)
      (hredis : s'.redis = (s.increment key).2.redis)
      (hwindows : s'.windows = (s.increment key).2.windows)
      (hheld : ∀ pass, s'.held pass =
        s.held pass + if pass = (key, s'.windows key) then 1 else 0)
  | release (key : LimitKey) (window : Nat) (hcurrent : s.Current key window)
      (hredis : s'.redis = (s.decrement key).redis) (hwindows : s'.windows = s.windows)
      (hheld : ∀ pass, s'.held pass + (if pass = (key, window) then 1 else 0) = s.held pass)
  | delete (key : LimitKey) (hredis : s'.redis = s.redis.del key)
      (hwindows : s'.windows = s.windows) (hheld : ∀ pass, s'.held pass ≤ s.held pass)

section Steps

variable {limits : Limits} {s : Limiter} {i : Nat} {call : Call}

@[simp] theorem setCall_redis {call' : Call} : (s.setCall i call').redis = s.redis := rfl
@[simp] theorem setCall_windows {call' : Call} : (s.setCall i call').windows = s.windows := rfl
@[simp] theorem increment_calls {key : LimitKey} : (s.increment key).2.calls = s.calls := rfl
@[simp] theorem decrement_calls {key : LimitKey} : (s.decrement key).calls = s.calls := rfl

theorem held_of_calls {s' : Limiter} (h : s'.calls = s.calls) : s'.held = s.held := by
  funext pass
  unfold Limiter.held
  rw [h]

/-- A request that takes a step trades the passes it had for those it has. -/
theorem held_setCall (call' : Call) (h : s.calls[i]? = some call) (pass : LimitKey × Nat) :
    (s.setCall i call').held pass + call.passes.count pass =
      s.held pass + call'.passes.count pass := by
  unfold Limiter.held Limiter.setCall
  dsimp only
  generalize s.calls = calls at h
  induction calls generalizing i with
  | nil => exact absurd h (by simp)
  | cons c rest ih =>
    cases i with
    | zero =>
      have hc : c = call := by simpa using h
      simp only [List.set_cons_zero, List.flatMap_cons, List.count_append, hc]
      omega
    | succ i =>
      have hrest := ih (by simpa using h)
      simp only [List.set_cons_succ, List.flatMap_cons, List.count_append]
      omega

theorem count_one (pass other : LimitKey × Nat) :
    [other].count pass = if pass = other then 1 else 0 := by
  by_cases h : pass = other
  · simp [h]
  · simp [h, Ne.symm h]

theorem released_passes : call.released.passes = call.passes := by
  cases call with
  | login ip stage => cases stage <;> rfl
  | twoFactor userId stage => cases stage <;> rfl

theorem abandoned_passes : call.abandoned.passes = call.passes := by
  cases call with
  | login ip stage => cases stage <;> rfl
  | twoFactor userId stage => cases stage <;> rfl

/-- A request that changes no counter and no passes. -/
theorem Move.of_passes_eq {call' : Call} (h : s.calls[i]? = some call)
    (hpasses : call'.passes = call.passes) : Move limits s (s.setCall i call') := by
  refine Move.drop (by rfl) (by rfl) ?_
  intro pass
  have hheld := held_setCall call' h pass
  rw [hpasses] at hheld
  omega

/-- A guard's hit: the attempt is denied, or it passes the counter at a count within its maximum. -/
theorem Move.of_hit {key : LimitKey} {after denied passed : Call} {replied : Bool}
    (h : s.calls[i]? = some call) (hafter : after =
      if replied = false ∨ limits.maxOf key < (s.increment key).1 then denied else passed)
    (hdenied : denied.passes = call.passes)
    (hpassed : passed.passes = call.passes ++ [(key, (s.increment key).2.windows key)]) :
    Move limits s ((s.increment key).2.setCall i after) := by
  have hi : (s.increment key).2.calls[i]? = some call := h
  have hcalls : (s.increment key).2.held = s.held := held_of_calls increment_calls
  rw [hafter]
  split
  next hover =>
    refine Move.hit key (by rfl) (by rfl) ?_
    funext pass
    have hheld := held_setCall denied hi pass
    rw [hdenied, hcalls] at hheld
    omega
  next hunder =>
    have hmax : ¬limits.maxOf key < (s.increment key).1 := fun hlt => hunder (.inr hlt)
    refine Move.passed key (not_lt.mp hmax) (by rfl) (by rfl) ?_
    intro pass
    have hheld := held_setCall passed hi pass
    rw [hpassed, List.count_append, count_one, hcalls] at hheld
    show _ = s.held pass + if pass = (key, (s.increment key).2.windows key) then 1 else 0
    omega

/-- A release's decrement, in a window the condition allows. -/
theorem Move.of_release {key : LimitKey} {window : Nat} {call' : Call}
    (h : s.calls[i]? = some call) (hcurrent : s.Current key window)
    (hpasses : call.passes = (key, window) :: call'.passes) :
    Move limits s ((s.decrement key).setCall i call') := by
  have hi : (s.decrement key).calls[i]? = some call := h
  have hcalls : (s.decrement key).held = s.held := held_of_calls decrement_calls
  refine Move.release key window hcurrent (by rfl) (by rfl) ?_
  intro pass
  have hheld := held_setCall call' hi pass
  rw [hpasses, ← List.singleton_append, List.count_append, count_one, hcalls] at hheld
  omega

/-- The scripts of a request, one by one. -/
theorem runCall_move {replied : Bool} (h : s.calls[i]? = some call)
    (hfresh : s.Fresh (.run i replied)) : Move limits s (s.runCall limits i replied call) := by
  dsimp only [Limiter.Fresh] at hfresh
  rw [h] at hfresh
  cases call with
  | login ip stage =>
    cases stage with
    | guardIp =>
      show Move limits s ((s.increment (.loginIp ip)).2.setCall i _)
      exact Move.of_hit h (apply_ite (Call.login ip) _ _ _) rfl rfl
    | guardGlobal ipWindow =>
      show Move limits s ((s.increment .loginGlobal).2.setCall i _)
      exact Move.of_hit h (apply_ite (Call.login ip) _ _ _) rfl rfl
    | releaseIp ipWindow globalWindow =>
      apply Move.of_release h hfresh
      cases replied <;> rfl
    | releaseGlobal globalWindow => exact Move.of_release h hfresh rfl
    | admitted ipWindow globalWindow => exact .drop rfl rfl fun _ => le_rfl
    | ended ipWindow globalWindow => exact .drop rfl rfl fun _ => le_rfl
  | twoFactor userId stage =>
    cases stage with
    | guard =>
      show Move limits s ((s.increment (.twoFactor userId)).2.setCall i _)
      exact Move.of_hit h (apply_ite (Call.twoFactor userId) _ _ _) rfl rfl
    | release window =>
      refine Move.delete (.twoFactor userId) (by rfl) (by rfl) ?_
      intro pass
      have hheld := held_setCall (.twoFactor userId (.ended none)) h pass
      have hnone : (Call.twoFactor userId (.ended none)).passes.count pass = 0 := rfl
      show (s.setCall i (.twoFactor userId (.ended none))).held pass ≤ s.held pass
      omega
    | admitted window => exact .drop rfl rfl fun _ => le_rfl
    | ended window => exact .drop rfl rfl fun _ => le_rfl

theorem step_move {event : LimitEvent} (hfresh : s.Fresh event) :
    Move limits s (s.step limits event) := by
  have hadded : ∀ call : Call, call.passes = [] → Move limits s { s with calls := s.calls ++ [call] } := by
    intro call hnone
    refine Move.drop (by rfl) (by rfl) ?_
    intro pass
    simp [Limiter.held, hnone]
  cases event with
  | guardLoginAttempt ip => exact hadded _ rfl
  | guardTwoFactorAttempt userId => exact hadded _ rfl
  | release i =>
    dsimp only [Limiter.step]
    split
    · exact .drop rfl rfl fun _ => le_rfl
    next call hcall => exact .of_passes_eq hcall released_passes
  | run i replied =>
    dsimp only [Limiter.step]
    split
    · exact .drop rfl rfl fun _ => le_rfl
    next call hcall => exact runCall_move hcall hfresh
  | unreachable i =>
    dsimp only [Limiter.step]
    split
    · exact .drop rfl rfl fun _ => le_rfl
    next call hcall => exact .of_passes_eq hcall abandoned_passes
  | expire key => exact .delete key rfl rfl fun _ => le_rfl

end Steps

/-! ## The invariant -/

/-- What every state reached by fresh steps keeps. -/
structure Limiter.Sound (limits : Limits) (s : Limiter) : Prop where
  counters : ∀ key, ∀ c ∈ s.redis key, 0 < c.value ∧ c.expiry.isSome
  /-- A counter counts at least the attempts let through in its window. -/
  backed : ∀ key, (s.redis key).isSome → (s.letThrough key : Int) ≤ s.redis.hits key
  bounded : ∀ key, (s.letThrough key : Rat) ≤ max 0 (limits.maxOf key)
  /-- No attempt has passed a counter in a window to come. -/
  known : ∀ key window, 0 < s.held (key, window) → window ≤ s.windows key

section Invariant

variable {limits : Limits} {s s' : Limiter}

theorem Limiter.Sound.hits_nonneg (h : s.Sound limits) (key : LimitKey) : 0 ≤ s.redis.hits key := by
  unfold Redis.hits
  cases hc : s.redis key with
  | none => simp
  | some c => simpa using (h.counters key c hc).1.le

/-- Passes given up leave the rest as it was. -/
theorem Limiter.Sound.drop (h : s.Sound limits) (hwindows : s'.windows = s.windows)
    (hheld : ∀ pass, s'.held pass ≤ s.held pass)
    (hredis : ∀ key, s'.redis key = s.redis key ∨ s'.redis key = none) : s'.Sound limits := by
  have hless : ∀ key, s'.letThrough key ≤ s.letThrough key := by
    intro key
    unfold Limiter.letThrough
    rw [hwindows]
    exact hheld _
  constructor
  · intro key c hc
    cases hredis key with
    | inl hsame => exact h.counters key c (by rwa [← hsame])
    | inr hgone => exact absurd hc (by simp [hgone])
  · intro key hsome
    cases hredis key with
    | inl hsame =>
      have hbacked := h.backed key (by rwa [← hsame])
      have hhits : s'.redis.hits key = s.redis.hits key := by rw [Redis.hits, Redis.hits, hsame]
      have := hless key
      omega
    | inr hgone => exact absurd hsome (by simp [hgone])
  · intro key
    exact le_trans (by exact_mod_cast hless key) (h.bounded key)
  · intro key window hpos
    rw [hwindows]
    exact h.known key window (lt_of_lt_of_le hpos (hheld _))

/-- **A hit keeps the counters positive and expiring.** -/
theorem Limiter.Sound.increment_counters (h : s.Sound limits) (hit : LimitKey) :
    ∀ key, ∀ c ∈ (s.increment hit).2.redis key, 0 < c.value ∧ c.expiry.isSome := by
  intro key c hc
  have hredis : (s.increment hit).2.redis = (incrementScript s.redis hit windowSeconds).2 := rfl
  rw [hredis, incrementScript_snd] at hc
  by_cases hkey : key = hit
  · subst hkey
    have hnonneg := h.hits_nonneg key
    rw [Function.update_self, Option.mem_some_iff] at hc
    subst hc
    refine ⟨by dsimp only; omega, ?_⟩
    dsimp only
    split
    · rfl
    next hnotFirst =>
      -- Not the first hit of a window, so the key was there, and expiring.
      cases hold : s.redis key with
      | none => exact absurd (by simp [Redis.hits, hold]) hnotFirst
      | some c => simpa using (h.counters key c hold).2
  · rw [Function.update_of_ne hkey] at hc
    exact h.counters key c hc

theorem increment_hits {hit key : LimitKey} :
    (s.increment hit).2.redis.hits key =
      if key = hit then s.redis.hits hit + 1 else s.redis.hits key := by
  have hredis : (s.increment hit).2.redis = (incrementScript s.redis hit windowSeconds).2 := rfl
  rw [Redis.hits, hredis, incrementScript_snd]
  by_cases hkey : key = hit
  · simp [hkey]
  · simp [hkey, Redis.hits]

theorem increment_windows {hit : LimitKey} : (s.increment hit).2.windows =
    if (s.redis hit).isNone then Function.update s.windows hit (s.windows hit + 1)
    else s.windows := rfl

theorem increment_windows_of_ne {hit key : LimitKey} (h : key ≠ hit) :
    (s.increment hit).2.windows key = s.windows key := by
  rw [increment_windows]
  split
  · exact Function.update_of_ne h _ _
  · rfl

/-- In the window a hit counts in, it finds no more passes than the counter had counted. -/
theorem Limiter.Sound.held_increment_le (h : s.Sound limits) (key : LimitKey) :
    (s.held (key, (s.increment key).2.windows key) : Int) ≤ s.redis.hits key ∧
      s.held (key, (s.increment key).2.windows key) ≤ s.letThrough key := by
  cases hold : s.redis key with
  | none =>
    -- The window is new: nothing has passed in it.
    have hwindow : (s.increment key).2.windows key = s.windows key + 1 := by
      simp [increment_windows, hold]
    have hzero : s.held (key, s.windows key + 1) = 0 := by
      by_contra hne
      have := h.known key _ (Nat.pos_of_ne_zero hne)
      omega
    have hnonneg := h.hits_nonneg key
    rw [hwindow, hzero]
    omega
  | some c =>
    have hwindow : (s.increment key).2.windows key = s.windows key := by
      simp [increment_windows, hold]
    rw [hwindow]
    exact ⟨h.backed key (by simp [hold]), le_rfl⟩

theorem windows_le_increment (hit key : LimitKey) :
    s.windows key ≤ (s.increment hit).2.windows key := by
  rw [increment_windows]
  split
  · by_cases hkey : key = hit
    · subst hkey
      simp
    · rw [Function.update_of_ne hkey]
  · exact le_rfl

/-- **A hit is kept account of**, whether its attempt passes (`extra = 1`) or not. -/
theorem Limiter.Sound.hit (h : s.Sound limits) {hit : LimitKey} {extra : Nat} (hone : extra ≤ 1)
    (hmax : extra = 0 ∨ ((s.increment hit).1 : Rat) ≤ limits.maxOf hit)
    (hredis : s'.redis = (s.increment hit).2.redis)
    (hwindows : s'.windows = (s.increment hit).2.windows)
    (hheld : ∀ pass, s'.held pass = s.held pass + if pass = (hit, s'.windows hit) then extra else 0) :
    s'.Sound limits := by
  have hat : s'.letThrough hit = s.held (hit, (s.increment hit).2.windows hit) + extra := by
    unfold Limiter.letThrough
    rw [hheld, hwindows, if_pos rfl]
  have hother : ∀ key, key ≠ hit → s'.letThrough key = s.letThrough key := by
    intro key hkey
    unfold Limiter.letThrough
    rw [hheld, hwindows, increment_windows_of_ne hkey, if_neg fun heq => hkey (congrArg Prod.fst heq),
      Nat.add_zero]
  obtain ⟨hbacked, hless⟩ := h.held_increment_le hit
  constructor
  · rw [hredis]
    exact h.increment_counters hit
  · intro key hsome
    rw [hredis, increment_hits]
    by_cases hkey : key = hit
    · subst hkey
      rw [hat, if_pos rfl]
      push_cast
      omega
    · rw [hother key hkey, if_neg hkey]
      apply h.backed key
      rw [hredis] at hsome
      have hsame : (s.increment hit).2.redis key = s.redis key := by
        show (incrementScript s.redis hit windowSeconds).2 key = _
        rw [incrementScript_snd, Function.update_of_ne hkey]
      rwa [hsame] at hsome
  · intro key
    by_cases hkey : key = hit
    · subst hkey
      rw [hat]
      cases hmax with
      | inl hzero =>
        rw [hzero, Nat.add_zero]
        exact le_trans (by exact_mod_cast hless) (h.bounded key)
      | inr hle =>
        have hcount : ((s.held (key, (s.increment key).2.windows key) + extra : Nat) : Int) ≤
            (s.increment key).1 := by
          show _ ≤ s.redis.hits key + 1
          push_cast
          omega
        have hrat : ((s.held (key, (s.increment key).2.windows key) + extra : Nat) : Rat) ≤
            ((s.increment key).1 : Rat) := by exact_mod_cast hcount
        exact le_trans (hrat.trans hle) (le_max_right _ _)
    · rw [hother key hkey]
      exact h.bounded key
  · intro key window hpos
    rw [hheld] at hpos
    split at hpos
    next heq =>
      have hkey := congrArg Prod.fst heq
      have hwindow := congrArg Prod.snd heq
      dsimp only at hkey hwindow
      rw [hwindow, hkey]
    next =>
      rw [hwindows]
      exact (h.known key window hpos).trans (windows_le_increment hit key)

/-- **A release that takes from its own window is kept account of.** -/
theorem Limiter.Sound.release (h : s.Sound limits) {key : LimitKey} {window : Nat}
    (hcurrent : s.Current key window) (hredis : s'.redis = (s.decrement key).redis)
    (hwindows : s'.windows = s.windows)
    (hheld : ∀ pass, s'.held pass + (if pass = (key, window) then 1 else 0) = s.held pass) :
    s'.Sound limits := by
  have hscript : s'.redis = Function.update s.redis key
      (if s.redis.hits key - 1 ≤ 0 then none
      else some ⟨s.redis.hits key - 1, (s.redis key).bind (·.expiry)⟩) := by
    rw [hredis, ← decrementScript_snd]
    rfl
  cases hold : s.redis key with
  | none =>
    -- The counter is gone: the script creates it at -1 and removes it again.
    have hsame : s'.redis = s.redis := by
      have hhits : s.redis.hits key = 0 := by simp [Redis.hits, hold]
      rw [hscript, hhits, if_pos (by decide), ← hold, Function.update_eq_self]
    exact h.drop hwindows (fun pass => by have := hheld pass; omega) fun other => .inl (by rw [hsame])
  | some c =>
    have hwindow : window = s.windows key := hcurrent.resolve_left (by simp [hold])
    have hless : ∀ pass, s'.held pass ≤ s.held pass := fun pass => by have := hheld pass; omega
    have hlet : s'.letThrough key + 1 = s.letThrough key := by
      unfold Limiter.letThrough
      rw [hwindows, ← hheld, if_pos (by rw [hwindow])]
    have hmono : ∀ other, s'.letThrough other ≤ s.letThrough other := by
      intro other
      unfold Limiter.letThrough
      rw [hwindows]
      exact hless _
    constructor
    · intro other d hd
      rw [hscript] at hd
      by_cases hkey : other = key
      · subst hkey
        rw [Function.update_self] at hd
        split at hd
        · exact absurd hd (by simp)
        next hpos =>
          rw [Option.mem_some_iff] at hd
          subst hd
          refine ⟨by dsimp only; omega, ?_⟩
          simpa [hold] using (h.counters other c hold).2
      · rw [Function.update_of_ne hkey] at hd
        exact h.counters other d hd
    · intro other hsome
      by_cases hkey : other = key
      · subst hkey
        have hbacked := h.backed other (by simp [hold])
        have hhits : s'.redis.hits other = s.redis.hits other - 1 := by
          rw [hscript, Function.update_self] at hsome
          rw [Redis.hits, hscript, Function.update_self]
          split at hsome
          · exact absurd hsome (by simp)
          next hpos => simp [hpos]
        omega
      · have hsame : s'.redis other = s.redis other := by
          rw [hscript, Function.update_of_ne hkey]
        have hbacked := h.backed other (by rwa [← hsame])
        have hhits : s'.redis.hits other = s.redis.hits other := by rw [Redis.hits, Redis.hits, hsame]
        have := hmono other
        omega
    · intro other
      exact le_trans (by exact_mod_cast hmono other) (h.bounded other)
    · intro other w hpos
      rw [hwindows]
      exact h.known other w (lt_of_lt_of_le hpos (hless _))

theorem Limiter.Sound.move (h : s.Sound limits) (hmove : Move limits s s') : s'.Sound limits := by
  cases hmove with
  | drop hredis hwindows hheld => exact h.drop hwindows hheld fun key => .inl (by rw [hredis])
  | delete key hredis hwindows hheld =>
    apply h.drop hwindows hheld
    intro other
    rw [hredis, Redis.del]
    by_cases hkey : other = key
    · exact .inr (by simp [hkey])
    · exact .inl (Function.update_of_ne hkey _ _)
  | hit key hredis hwindows hheld =>
    apply h.hit (Nat.zero_le 1) (.inl rfl) hredis hwindows
    intro pass
    rw [hheld, ite_self, Nat.add_zero]
  | passed key hmax hredis hwindows hheld => exact h.hit le_rfl (.inr hmax) hredis hwindows hheld
  | release key window hcurrent hredis hwindows hheld =>
    exact h.release hcurrent hredis hwindows hheld

end Invariant

theorem Limiter.start_sound (limits : Limits) : Limiter.start.Sound limits where
  counters := by
    intro key c hc
    exact absurd hc (by simp [Limiter.start])
  backed := by
    intro key hsome
    exact absurd hsome (by simp [Limiter.start])
  bounded := fun key => by simp [Limiter.letThrough, Limiter.held, Limiter.start]
  known := by
    intro key window hpos
    exact absurd hpos (by simp [Limiter.held, Limiter.start])

/-! ## Results -/

/-- **While no release is late the limits hold.** In every state reached by steps whose releases
take from the window of their attempt, every counter is positive and expires, and the attempts let
through on a key and not released are within its maximum. -/
theorem limited_of_fresh (limits : Limits) (s : Limiter)
    (hs : Reach (Limiter.step limits) Limiter.Fresh .start s) :
    (∀ key, ∀ c ∈ s.redis key, 0 < c.value ∧ c.expiry.isSome) ∧
      ∀ key, (s.letThrough key : Rat) ≤ max 0 (limits.maxOf key) := by
  have hsound : s.Sound limits := by
    apply hs.invariant (Limiter.start_sound limits)
    intro s event h hfresh
    exact h.move (step_move hfresh)
  exact ⟨hsound.counters, hsound.bounded⟩

/-- The `i`-th request is a login that is let through. -/
def login (i : Nat) : List LimitEvent :=
  [.guardLoginAttempt (some "10.0.0.1"), .run i true, .run i true]

def signedIn (i : Nat) : List LimitEvent := [.release i, .run i true, .run i true]

/-- A login is released in its window, and the next one is let through. -/
def releasedInTime : List LimitEvent := login 0 ++ signedIn 0 ++ login 1

theorem limited_of_fresh_in_time :
    let s := releasedInTime.foldl (Limiter.step .default) .start
    (∀ key, ∀ c ∈ s.redis key, 0 < c.value ∧ c.expiry.isSome) ∧
      ∀ key, (s.letThrough key : Rat) ≤ max 0 (Limits.default.maxOf key) :=
  limited_of_fresh .default _ (Reach.foldl (by decide +kernel))

/-- A login's window ends before its release; ten more are let through, and then the release. -/
def releasedLate : List LimitEvent :=
  login 0 ++ [.expire (.loginIp "10.0.0.1"), .expire .loginGlobal] ++
    (List.range 10).flatMap (fun i => login (i + 1)) ++ signedIn 0 ++ login 11

theorem late_release_lets_through :
    let s := releasedLate.foldl (Limiter.step .default) .start
    s.letThrough (.loginIp "10.0.0.1") = 11 ∧
      ¬(s.letThrough (.loginIp "10.0.0.1") : Rat) ≤
        max 0 (Limits.default.maxOf (.loginIp "10.0.0.1")) := by
  decide +kernel

end Unitae.Authentication
