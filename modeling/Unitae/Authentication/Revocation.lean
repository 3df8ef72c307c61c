import Mathlib.Tactic.Simps.Basic
import Unitae.Authentication.Sessions
import Unitae.Base.Run

/-!
# Unitae — what a revocation ends

Requests on one account interleave between their statements: the password check, the question for the
second factor, and the stamp of the session each read the account at an instant of their own. A
revocation bumps the epoch, which rejects every session stamped before. It does not reach a
request, or a pending second factor, that has the password check behind it and the stamp before it.
`sessions_current` is about the runs in which no stamp comes late.
-/

namespace Unitae.Authentication

/-! ## Requests in flight -/

/-- A cookie the server has written, kept by whoever holds a copy. Beside its data: how many revocations
had been committed when the password behind its session, and behind its pending second factor, was
checked. -/
structure IssuedCookie where
  data : SessionData
  sessionProof : Nat
  pendingProof : Nat
deriving DecidableEq, Repr

/-- A request without a cookie. -/
def IssuedCookie.none : IssuedCookie := ⟨.blank, 0, 0⟩

/-- What a request does next. -/
inductive Phase where
  /-- Hash the password anew, as it was checked against an outdated hash. -/
  | rehash
  | askTwoFactor
  | establish
  /-- Compare the current password of a change. -/
  | compare (password hashedPassword : String)
  /-- Commit the new password of a change. -/
  | reset (hashedPassword : String)
deriving DecidableEq, Repr

/-- A request under way, with the cookie it came with, and the revocations committed when its password was
checked. -/
structure Flight where
  phase : Phase
  cookie : IssuedCookie
  proof : Nat
deriving DecidableEq, Repr

structure AuthState where
  account : Account
  cookies : List IssuedCookie
  flights : List Flight
  /-- How many resets and revocations have been committed. -/
  revocations : Nat
deriving DecidableEq, Repr

/-- An account nobody has signed in to. -/
def AuthState.fresh (account : Account) : AuthState := ⟨account, [], [], 0⟩

/-- The cookie of a request: one that was issued, or none. -/
def AuthState.cookieOf (s : AuthState) (cookie : Option Nat) : IssuedCookie :=
  (cookie.bind fun i => s.cookies[i]?).getD .none

/-! ## Steps -/

inductive AuthStep where
  /-- `login.tsx`: `validateCredentials`. -/
  | checkPassword (cookie : Option Nat) (email password : String) (urlCongregationId : Option Nat)
  | rehash (flight : Nat) (hashedPassword : String)
  | askTwoFactor (flight : Nat)
  | establish (flight : Nat)
  /-- `two-factor-challenge.tsx`: `verifyTwoFactorChallenge`. -/
  | challenge (cookie : Nat) (code : String) (urlCongregationId : Option Nat) (now : Instant)
  /-- `profile.tsx`: the session is verified first. -/
  | changePassword (cookie : Nat) (congregation : Option Congregation) (urlCongregationId : Option Nat)
      (now : Instant) (password hashedPassword : String)
  | comparePassword (flight : Nat)
  | commitReset (flight : Nat) (now : Instant)
  /-- `password-reset.tsx`, by a link. -/
  | resetPassword (hashedPassword : String) (now : Instant)
  /-- `password-invalidation.tsx`, by an admin. -/
  | revokeSessions
  | logout (cookie : Nat)
deriving DecidableEq, Repr

/-- A correct password is followed by the rehash of an outdated hash, or by the second factor. -/
def AuthState.checkPassword (rt : AuthRuntime) (s : AuthState) (cookie : Option Nat)
    (email password : String) (urlCongregationId : Option Nat) : AuthState :=
  if validateCredentials rt s.account email password urlCongregationId then
    let phase := if rt.needsRehash s.account.password then .rehash else .askTwoFactor
    { s with flights := s.flights ++ [⟨phase, s.cookieOf cookie, s.revocations⟩] }
  else s

/-- With a second factor armed, the session stays pending. -/
def AuthState.askTwoFactor (s : AuthState) (flight : Nat) (f : Flight) : AuthState :=
  if isTwoFactorEnabled s.account then
    { s with
      cookies := s.cookies ++ [⟨{ f.cookie.data with
        userId := none, pending2faUserId := some s.account.id }, f.cookie.sessionProof, f.proof⟩]
      flights := s.flights.eraseIdx flight }
  else { s with flights := s.flights.set flight { f with phase := .establish } }

def AuthState.establish (s : AuthState) (flight : Nat) (f : Flight) : AuthState :=
  { s with
    cookies := s.cookies ++ [⟨establishAuthenticatedSession s.account f.cookie.data, f.proof,
      f.cookie.pendingProof⟩]
    flights := s.flights.eraseIdx flight }

/-- A passed challenge promotes the pending state, on the password check behind it. -/
def AuthState.challenge (rt : AuthRuntime) (s : AuthState) (c : IssuedCookie) (code : String)
    (urlCongregationId : Option Nat) (now : Instant) : AuthState :=
  match resolvePendingUserId s.account urlCongregationId c.data.pending2faUserId with
  | none => s
  | some pendingId =>
    if verifyTwoFactorChallenge rt s.account pendingId code now then
      { s with flights := s.flights ++ [⟨.establish,
        { c with data := { c.data with pending2faUserId := none } }, c.pendingProof⟩] }
    else s

def AuthState.changePassword (s : AuthState) (c : IssuedCookie) (congregation : Option Congregation)
    (urlCongregationId : Option Nat) (now : Instant) (password hashedPassword : String) : AuthState :=
  if verifySession s.account congregation urlCongregationId now c.data = .currentUser then
    { s with flights := s.flights ++ [⟨.compare password hashedPassword, c, s.revocations⟩] }
  else s

def AuthState.comparePassword (rt : AuthRuntime) (s : AuthState) (flight : Nat) (f : Flight)
    (password hashedPassword : String) : AuthState :=
  if rt.compare password s.account.password = some true then
    { s with flights := s.flights.set flight ⟨.reset hashedPassword, f.cookie, s.revocations⟩ }
  else { s with flights := s.flights.eraseIdx flight }

/-- The change of a password is a revocation too. The session of the device that asked for it is stamped
anew, on the new password, which is the account's from this commit on. -/
def AuthState.commitReset (s : AuthState) (flight : Nat) (f : Flight) (hashedPassword : String)
    (now : Instant) : AuthState :=
  { s with
    account := resetAccountPassword s.account hashedPassword now
    flights := s.flights.set flight ⟨.establish, f.cookie, s.revocations + 1⟩
    revocations := s.revocations + 1 }

/-- A flight is asked for what it does next; another request writes nothing. -/
def AuthState.step (rt : AuthRuntime) (s : AuthState) : AuthStep → AuthState
  | .checkPassword cookie email password urlCongregationId =>
    s.checkPassword rt cookie email password urlCongregationId
  | .rehash flight hashedPassword =>
    match s.flights[flight]? with
    | some ⟨.rehash, cookie, proof⟩ =>
      { s with
        account := { s.account with password := hashedPassword }
        flights := s.flights.set flight ⟨.askTwoFactor, cookie, proof⟩ }
    | _ => s
  | .askTwoFactor flight =>
    match s.flights[flight]? with
    | some ⟨.askTwoFactor, cookie, proof⟩ => s.askTwoFactor flight ⟨.askTwoFactor, cookie, proof⟩
    | _ => s
  | .establish flight =>
    match s.flights[flight]? with
    | some ⟨.establish, cookie, proof⟩ => s.establish flight ⟨.establish, cookie, proof⟩
    | _ => s
  | .challenge cookie code urlCongregationId now =>
    match s.cookies[cookie]? with
    | some c => s.challenge rt c code urlCongregationId now
    | none => s
  | .changePassword cookie congregation urlCongregationId now password hashedPassword =>
    match s.cookies[cookie]? with
    | some c => s.changePassword c congregation urlCongregationId now password hashedPassword
    | none => s
  | .comparePassword flight =>
    match s.flights[flight]? with
    | some ⟨.compare password hashedPassword, cookie, proof⟩ =>
      s.comparePassword rt flight ⟨.compare password hashedPassword, cookie, proof⟩ password hashedPassword
    | _ => s
  | .commitReset flight now =>
    match s.flights[flight]? with
    | some ⟨.reset hashedPassword, cookie, proof⟩ =>
      s.commitReset flight ⟨.reset hashedPassword, cookie, proof⟩ hashedPassword now
    | _ => s
  | .resetPassword hashedPassword now =>
    { s with
      account := resetAccountPassword s.account hashedPassword now
      revocations := s.revocations + 1 }
  | .revokeSessions =>
    { s with account := revokeAccountSessions s.account, revocations := s.revocations + 1 }
  | .logout cookie =>
    match s.cookies[cookie]? with
    | some c => match c.data.userId with
      | some userId =>
        { s with account := endCurrentSessions s.account userId (c.data.sessionEpoch.getD 0) }
      | none => s
    | none => s

/-! ## The law -/

/-- Every cookie that `verifySession` lets in rests on a password checked after the last revocation. -/
def AuthState.Current (s : AuthState) : Prop :=
  ∀ c ∈ s.cookies, ∀ congregation urlCongregationId now,
    verifySession s.account congregation urlCongregationId now c.data = .currentUser →
      s.revocations ≤ c.sessionProof

/-- A session is stamped before any revocation that follows its password check. -/
def AuthState.InTime (s : AuthState) : AuthStep → Prop
  | .establish flight => ∀ f, s.flights[flight]? = some f → f.phase = .establish →
      s.revocations ≤ f.proof
  | _ => True

/-! ## What a step can do -/

/-- A session cookie is stamped with an epoch that has been, and one that still counts is recent. -/
def AuthState.Stamped (s : AuthState) : Prop :=
  ∀ c ∈ s.cookies, c.data.userId ≠ none → c.data.sessionEpoch.getD 0 ≤ s.account.sessionEpoch ∧
    (c.data.sessionEpoch.getD 0 = s.account.sessionEpoch → s.revocations ≤ c.sessionProof)

section Steps

variable {rt : AuthRuntime} {s s' : AuthState} {c : IssuedCookie}

/-- Requests under way may come and go. -/
theorem stamped_keep (h : s.Stamped) (hcookies : s'.cookies = s.cookies)
    (hepoch : s'.account.sessionEpoch = s.account.sessionEpoch)
    (hrevocations : s'.revocations = s.revocations) : s'.Stamped := by
  unfold AuthState.Stamped
  rw [hcookies, hepoch, hrevocations]
  exact h

/-- A bump of the epoch outdates every session. -/
theorem stamped_bump (h : s.Stamped) (hcookies : s'.cookies = s.cookies)
    (hepoch : s'.account.sessionEpoch = s.account.sessionEpoch + 1) : s'.Stamped := by
  intro c hc huser
  rw [hcookies] at hc
  have hle := (h c hc huser).1
  rw [hepoch]
  exact ⟨by omega, fun hsame => by omega⟩

/-- A new cookie carries no session, or one stamped in time. -/
theorem stamped_issue (h : s.Stamped) (hcookies : s'.cookies = s.cookies ++ [c])
    (haccount : s'.account = s.account) (hrevocations : s'.revocations = s.revocations)
    (hc : c.data.userId ≠ none →
      c.data.sessionEpoch = some s.account.sessionEpoch ∧ s.revocations ≤ c.sessionProof) :
    s'.Stamped := by
  intro c' hc' huser
  rw [haccount, hrevocations]
  rw [hcookies] at hc'
  rcases List.mem_append.mp hc' with hold | hnew
  · exact h c' hold huser
  · rw [List.mem_singleton.mp hnew] at huser ⊢
    obtain ⟨hepoch, hproof⟩ := hc huser
    rw [hepoch]
    exact ⟨Nat.le_refl _, fun _ => hproof⟩

/-- **One step** keeps the stamps in order. -/
theorem step_stamped (step : AuthStep) (h : s.Stamped) (htime : s.InTime step) :
    (s.step rt step).Stamped := by
  cases step with
  | checkPassword cookie email password urlCongregationId =>
    simp only [AuthState.step, AuthState.checkPassword]
    split
    · exact stamped_keep h rfl rfl rfl
    · exact h
  | rehash flight hashedPassword =>
    simp only [AuthState.step]
    split
    · exact stamped_keep h rfl rfl rfl
    · exact h
  | askTwoFactor flight =>
    simp only [AuthState.step]
    split
    · unfold AuthState.askTwoFactor
      split
      · exact stamped_issue h rfl rfl rfl fun hsession => absurd rfl hsession
      · exact stamped_keep h rfl rfl rfl
    · exact h
  | establish flight =>
    simp only [AuthState.step]
    split
    · next hflight => exact stamped_issue h rfl rfl rfl fun _ => ⟨rfl, htime _ hflight rfl⟩
    · exact h
  | challenge cookie code urlCongregationId now =>
    simp only [AuthState.step]
    split
    · unfold AuthState.challenge
      split
      · exact h
      · split
        · exact stamped_keep h rfl rfl rfl
        · exact h
    · exact h
  | changePassword cookie congregation urlCongregationId now password hashedPassword =>
    simp only [AuthState.step]
    split
    · unfold AuthState.changePassword
      split
      · exact stamped_keep h rfl rfl rfl
      · exact h
    · exact h
  | comparePassword flight =>
    simp only [AuthState.step]
    split
    · unfold AuthState.comparePassword
      split
      · exact stamped_keep h rfl rfl rfl
      · exact stamped_keep h rfl rfl rfl
    · exact h
  | commitReset flight now =>
    simp only [AuthState.step]
    split
    · exact stamped_bump h rfl rfl
    · exact h
  | resetPassword hashedPassword now => exact stamped_bump h rfl rfl
  | revokeSessions => exact stamped_bump h rfl rfl
  | logout cookie =>
    simp only [AuthState.step]
    split
    · split
      · next userId _ =>
        unfold endCurrentSessions
        split
        · exact stamped_bump h rfl rfl
        · exact h
      · exact h
    · exact h

/-- A session that is let in has the current epoch. -/
theorem verifySession_epoch {congregation : Option Congregation} {urlCongregationId : Option Nat}
    {now : Instant} {account : Account} {session : SessionData}
    (h : verifySession account congregation urlCongregationId now session = .currentUser) :
    session.userId ≠ none ∧ session.sessionEpoch.getD 0 = account.sessionEpoch := by
  unfold verifySession at h
  cases hfound : findUserFromSession account session with
  | none =>
    rw [hfound] at h
    cases h
  | some user =>
    unfold findUserFromSession at hfound
    split at hfound
    · cases hfound
    · next userId huser =>
      refine ⟨by rw [huser]; exact Option.some_ne_none userId, ?_⟩
      split at hfound
      · cases hfound
      · split at hfound
        · cases hfound
        · split at hfound
          · cases hfound
          · next hepoch => exact Decidable.not_not.mp hepoch

end Steps

/-! ## Runs -/

section Runs

variable {rt : AuthRuntime} {s : AuthState}

end Runs

/-- A late stamp is let in: its cookie carries the new epoch. -/
theorem establish_late {s : AuthState} {flight : Nat} {f : Flight} {congregation : Congregation}
    {now : Instant} (hid : s.account.id ≠ 0) (hactive : s.account.active = true)
    (hverified : s.account.emailVerifiedAt ≠ none) (hopen : congregation.suspendedAt = none)
    (htrial : congregation.trialEndsAt = none) (hlate : f.proof < s.revocations) :
    ¬(s.establish flight f).Current := by
  intro h
  have hmem : (⟨establishAuthenticatedSession s.account f.cookie.data, f.proof, f.cookie.pendingProof⟩ :
      IssuedCookie) ∈ (s.establish flight f).cookies := List.mem_append_right _ (List.mem_singleton_self _)
  refine Nat.not_le.mpr hlate (h _ hmem (some congregation) none now ?_)
  show verifySession s.account _ _ _ _ = _
  unfold verifySession findUserFromSession establishAuthenticatedSession
  simp [hid, hactive, hverified, hopen, htrial]

/-! ## A challenge that straddles a reset -/

/-- Passwords and codes are compared as they are. -/
def plainRuntime : AuthRuntime where
  compare := fun password hash => some (password == hash)
  needsRehash := fun _ => false
  toLowerCase := id
  decryptSecret := some
  verifyTotpCode := fun secret code _ => secret == code

def securedAccount : Account :=
  ⟨1, 1, "a@example.org", "old", 0, true, none, some 0, some 0, some "123456"⟩

/-- The password is checked before the reset and the code after it. -/
def straddling : List AuthStep :=
  [.checkPassword none "a@example.org" "old" none, .askTwoFactor 0, .resetPassword "new" 5,
    .challenge 0 "123456" none 6, .establish 0]

/-- A login after the reset. -/
def afterReset : List AuthStep :=
  [.resetPassword "new" 5, .checkPassword none "a@example.org" "new" none, .askTwoFactor 0,
    .challenge 0 "123456" none 6, .establish 0]

theorem afterReset_inTime :
    Guarded (AuthState.step plainRuntime) AuthState.InTime (AuthState.fresh securedAccount) afterReset := by
  refine ⟨trivial, trivial, trivial, trivial, fun f hf _ => ?_, trivial⟩
  rw [← Option.some.inj hf]
  decide

end Unitae.Authentication
