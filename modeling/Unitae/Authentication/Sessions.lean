import Unitae.Dates

/-!
# Unitae — signing in and sessions (`session.server.ts`, `login.tsx`, `two-factor-challenge.tsx`)

One account and what its requests read and write of it. A cookie is signed, so that a client holds only
what the server wrote; its numbers are numbers here. Hashing, the second factor's codes and letter case are
the parameter `AuthRuntime`. Rate limits and the audit log are left out.
-/

namespace Unitae.Authentication

/-! ## The account -/

structure Account where
  id : Nat
  congregationId : Nat
  email : String
  password : String
  sessionEpoch : Nat
  active : Bool
  anonymizedAt : Option Instant
  emailVerifiedAt : Option Instant
  twoFactorEnabledAt : Option Instant
  twoFactorSecret : Option String
deriving DecidableEq, Repr

structure Congregation where
  id : Nat
  suspendedAt : Option Instant
  trialEndsAt : Option Instant
deriving DecidableEq, Repr

/-- `crypto.server.ts`, `totp.server.ts` and `String.toLowerCase`. -/
structure AuthRuntime where
  /-- `compare(password, hash)`; `none` when it throws. -/
  compare : String → String → Option Bool
  needsRehash : String → Bool
  toLowerCase : String → String
  decryptSecret : String → Option String
  /-- `verifyTotpCode(secret, code)` at an instant. -/
  verifyTotpCode : String → String → Instant → Bool

/-! ## Cookies -/

structure SessionData where
  userId : Option Nat
  sessionEpoch : Option Nat
  /-- A correct password whose second factor is outstanding. -/
  pending2faUserId : Option Nat
deriving DecidableEq, Repr

def SessionData.blank : SessionData := ⟨none, none, none⟩

def establishAuthenticatedSession (account : Account) (session : SessionData) : SessionData :=
  { session with userId := some account.id, sessionEpoch := some account.sessionEpoch }

/-- The account of the session, unless the request is sent to the login. A cookie without an epoch
carries epoch 0. -/
def findUserFromSession (account : Account) (session : SessionData) : Option Account :=
  match session.userId with
  | none => none
  | some userId =>
    if userId = 0 then none
    else if account.id ≠ userId ∨ account.active = false then none
    else if session.sessionEpoch.getD 0 ≠ account.sessionEpoch then none
    else some account

/-- Where `verifySession` sends the request, or lets it in. -/
inductive Verified where
  | login
  | suspended
  | trialExpired
  | verifyEmail
  | currentUser
deriving DecidableEq, Repr

def verifySession (account : Account) (congregation : Option Congregation)
    (urlCongregationId : Option Nat) (now : Instant) (session : SessionData) : Verified :=
  match findUserFromSession account session with
  | none => .login
  | some user =>
    if urlCongregationId.any (· != user.congregationId) then .login
    else match congregation with
      | none => .login
      | some congregation =>
        if congregation.suspendedAt.isSome then .suspended
        else if congregation.trialEndsAt.any (· < now) then .trialExpired
        else if user.emailVerifiedAt = none then .verifyEmail
        else .currentUser

/-! ## Credentials -/

/-- `validateCredentials`: the account, if the address is its own, it is active and the password is
right. An inactive account is compared with a decoy, to no effect. -/
def validateCredentials (rt : AuthRuntime) (account : Account) (email password : String)
    (congregationId : Option Nat) : Bool :=
  account.email == rt.toLowerCase email && congregationId.all (· == account.congregationId) &&
    account.active && rt.compare password account.password == some true

def isTwoFactorEnabled (account : Account) : Bool := account.twoFactorEnabledAt.isSome

/-- `resolvePendingUserId`. -/
def resolvePendingUserId (account : Account) (urlCongregationId : Option Nat)
    (pending2faUserId : Option Nat) : Option Nat :=
  match pending2faUserId with
  | none => none
  | some pendingId =>
    if pendingId = 0 then none
    else if urlCongregationId.any fun id => account.id != pendingId || account.congregationId != id then none
    else some pendingId

def verifyTwoFactorChallenge (rt : AuthRuntime) (account : Account) (userId : Nat) (code : String)
    (now : Instant) : Bool :=
  account.id == userId && account.active && account.twoFactorEnabledAt.isSome &&
    (account.twoFactorSecret.bind rt.decryptSecret).any fun secret => rt.verifyTotpCode secret code now

/-! ## Ending sessions -/

/-- A reset proves the inbox, and verifies an address that was not. -/
def resetAccountPassword (account : Account) (hashedPassword : String) (now : Instant) : Account :=
  { account with
    password := hashedPassword
    sessionEpoch := account.sessionEpoch + 1
    emailVerifiedAt := some (account.emailVerifiedAt.getD now) }

def revokeAccountSessions (account : Account) : Account :=
  { account with sessionEpoch := account.sessionEpoch + 1 }

/-- Only a session that is still current may end them. -/
def endCurrentSessions (account : Account) (userId sessionEpoch : Nat) : Account :=
  if account.id = userId ∧ account.sessionEpoch = sessionEpoch ∧ account.active = true ∧
      account.anonymizedAt = none then
    { account with sessionEpoch := account.sessionEpoch + 1 }
  else account

end Unitae.Authentication
