import Unitae.Authentication.Sessions
import Unitae.Base.Links
import Unitae.Base.Run
import Unitae.Base.Table

/-!
# Unitae — the links an account is sent (`invalidate-account-password.server.ts`,
`email-verification.server.ts`)

Two kinds of link are mailed: one resets the password, one verifies the address. Of each only the hash of
its token is stored. Requests interleave between their statements: a token is stored some time after the
older ones were dropped, a new password some time after its link was checked.

`verifyToken_iff_live` is about every run of them: a link opens just for the account it was issued to, until
it expires or something ends it. The reset of a password and the loss of the account end every reset link.
Rate limits and the mails themselves are left out.
-/

namespace Unitae.Authentication

open Links

/-! ## Tables of tokens -/

/-- `crypto.server.ts` and the runtime's dates and letters. -/
structure LinkRuntime where
  hashToken : String → String
  /-- `date.setHours(date.getHours() + 24)`. -/
  expiryOf : Instant → Instant
  toLowerCase : String → String

/-- A row of `PasswordResetToken` or of `EmailVerificationToken`. -/
structure MailedToken where
  id : Nat
  token : String
  userId : Nat
  expiresAt : Instant
deriving DecidableEq, Repr

def MailedToken.link (row : MailedToken) : Link String Nat Instant := ⟨row.token, row.userId, row.expiresAt⟩

/-- `log` is a history variable: what became of the links of this kind. -/
structure TokenTable where
  rows : List MailedToken
  nextId : Nat
  log : List (Entry String Nat Instant)
deriving DecidableEq, Repr

def TokenTable.empty : TokenTable := ⟨[], 1, []⟩

namespace TokenTable

/-- `deleteMany({ where: { userId } })`, and what the cascade of an account does. -/
def deleteOfUser (table : TokenTable) (userId : Nat) : TokenTable :=
  { table with
    rows := table.rows.filter fun row => row.userId != userId
    log := table.log ++ [.ended userId] }

/-- `deleteMany({ where: { userId, expiresAt: { lt: now } } })`. -/
def deleteExpiredOfUser (table : TokenTable) (userId : Nat) (now : Instant) : TokenTable :=
  { table with rows := table.rows.filter fun row => !(row.userId == userId && row.expiresAt < now) }

/-- `delete({ where: { id } })`. -/
def deleteRow (table : TokenTable) (id : Nat) : TokenTable :=
  { table with rows := table.rows.filter fun row => row.id != id }

/-- `findUnique({ where: { token: hashToken(token) } })`. -/
def findToken (rt : LinkRuntime) (table : TokenTable) (token : String) : Option MailedToken :=
  table.rows.find? fun row => row.token == rt.hashToken token

/-- `create`, unless the unique constraint of the column refuses. -/
def create (rt : LinkRuntime) (table : TokenTable) (token : String) (userId : Nat) (expiresAt : Instant) :
    TokenTable :=
  if (table.findToken rt token).isSome then table
  else
    { rows := table.rows ++ [⟨table.nextId, rt.hashToken token, userId, expiresAt⟩]
      nextId := table.nextId + 1
      log := table.log ++ [.issued token userId expiresAt] }

/-- The row of a token is deleted as it is used. -/
def useRow (table : TokenTable) (row : MailedToken) (token : String) : TokenTable :=
  let deleted := table.deleteRow row.id
  { deleted with log := deleted.log ++ [.used token] }

end TokenTable

/-! ## The services -/

/-- `verifyPasswordResetToken` and `verifyEmailVerificationToken`: the account of the link. An expired row
is deleted; the deletion comes after the read, and fails to no effect when the row has gone between. -/
def verifyToken (rt : LinkRuntime) (accounts : List Account) (table : TokenTable) (token : String)
    (now : Instant) : Option Account × TokenTable :=
  match table.findToken rt token with
  | none => (none, table)
  | some row =>
    if row.expiresAt < now then (none, table.deleteRow row.id)
    else (accounts.find? (·.id == row.userId), table)

/-- What a request has in hand between two statements. -/
inductive LinkFlight where
  /-- `createPasswordResetToken`, its deletions behind it. -/
  | storeReset (userId : Nat) (token : String) (expiresAt : Instant)
  /-- `createEmailVerificationToken`, its deletions behind it. -/
  | storeVerification (userId : Nat) (token : String) (expiresAt : Instant)
  /-- `resetAccountPassword`, once the new password is hashed. -/
  | reset (userId : Nat) (hashedPassword : String)
  /-- `consumeEmailVerificationToken`, once the link was checked. -/
  | consume (token : String)
deriving DecidableEq, Repr

structure LinkState where
  accounts : List Account
  passwordResetTokens : TokenTable
  emailVerificationTokens : TokenTable
  flights : List LinkFlight
  clock : Instant
deriving DecidableEq, Repr

/-- Accounts to which nothing has been sent yet. -/
def LinkState.fresh (accounts : List Account) (clock : Instant) : LinkState :=
  ⟨accounts, .empty, .empty, [], clock⟩

inductive LinkAction where
  /-- `requestPasswordReset`: earlier links stay (`keepPending`). -/
  | requestPasswordReset (email token : String)
  /-- `password-invalidation.tsx`: sessions are revoked and earlier links replaced. -/
  | invalidatePassword (userId : Nat) (token : String)
  /-- `linkAccountToMember` and `createAccount`, in one transaction. -/
  | createAccount (account : Account) (token : String)
  /-- `verify-email.tsx`. -/
  | requestVerification (userId : Nat) (token : String)
  /-- The loader of `password-reset.tsx`. -/
  | openReset (token : String)
  /-- Its action, up to the hash of the new password. -/
  | submitReset (token email hashedPassword : String)
  /-- `changeAccountPassword`, once the current password was right. -/
  | changePassword (userId : Nat) (hashedPassword : String)
  /-- The loader of `verify-email-confirm.tsx`. -/
  | openVerification (token : String)
  /-- Its action. -/
  | submitVerification (token : String)
  /-- The next statement of a request. -/
  | advance (flight : Nat)
  | updateAccount (userId : Nat) (email : String) (active : Bool)
  | anonymizeAccount (userId : Nat) (email : String)
  | deleteAccount (userId : Nat)
deriving DecidableEq, Repr

/-- `userAccount.update({ where: { id } })`. -/
def updateAccountRow (accounts : List Account) (userId : Nat) (data : Account → Account) : List Account :=
  accounts.map fun account => if account.id = userId then data account else account

/-- A row that has been checked is consumed with the stamp of the address, in one transaction. -/
def LinkState.consume (rt : LinkRuntime) (s : LinkState) (token : String) (now : Instant) : LinkState :=
  match s.emailVerificationTokens.findToken rt token with
  | none => s
  | some row =>
    { s with
      accounts := updateAccountRow s.accounts row.userId ({ · with emailVerifiedAt := some now })
      emailVerificationTokens := s.emailVerificationTokens.useRow row token }

/-- The statement a request has before it. -/
def LinkState.advance (rt : LinkRuntime) (s : LinkState) (now : Instant) : LinkFlight → LinkState
  | .storeReset userId token expiresAt =>
    -- the foreign key of the row
    if s.accounts.any (·.id == userId) then
      { s with passwordResetTokens := s.passwordResetTokens.create rt token userId expiresAt }
    else s
  | .storeVerification userId token expiresAt =>
    if s.accounts.any (·.id == userId) then
      { s with emailVerificationTokens := s.emailVerificationTokens.create rt token userId expiresAt }
    else s
  | .reset userId hashedPassword =>
    -- the update and the end of the links commit together; without the account neither does
    if s.accounts.any (·.id == userId) then
      { s with
        accounts := updateAccountRow s.accounts userId (resetAccountPassword · hashedPassword now)
        passwordResetTokens := s.passwordResetTokens.deleteOfUser userId }
    else s
  | .consume token => s.consume rt token now

def LinkState.act (rt : LinkRuntime) (s : LinkState) (now : Instant) : LinkAction → LinkState
  | .requestPasswordReset email token =>
    match s.accounts.find? (·.email == rt.toLowerCase email) with
    | none => s
    | some account =>
      { s with
        passwordResetTokens := s.passwordResetTokens.deleteExpiredOfUser account.id now
        flights := s.flights ++ [.storeReset account.id token (rt.expiryOf now)] }
  | .invalidatePassword userId token =>
    if s.accounts.any (·.id == userId) then
      { s with
        accounts := updateAccountRow s.accounts userId revokeAccountSessions
        passwordResetTokens := s.passwordResetTokens.deleteOfUser userId
        flights := s.flights ++ [.storeReset userId token (rt.expiryOf now)] }
    else s
  | .createAccount account token =>
    if s.accounts.any (fun a => a.id == account.id || a.email == account.email) ∨
        (s.passwordResetTokens.findToken rt token).isSome then s
    else
      { s with
        accounts := s.accounts ++ [account]
        passwordResetTokens :=
          (s.passwordResetTokens.deleteOfUser account.id).create rt token account.id (rt.expiryOf now) }
  | .requestVerification userId token =>
    if s.accounts.any (·.id == userId) then
      { s with
        emailVerificationTokens := s.emailVerificationTokens.deleteOfUser userId
        flights := s.flights ++ [.storeVerification userId token (rt.expiryOf now)] }
    else s
  | .openReset token =>
    { s with passwordResetTokens := (verifyToken rt s.accounts s.passwordResetTokens token now).2 }
  | .submitReset token email hashedPassword =>
    let verified := verifyToken rt s.accounts s.passwordResetTokens token now
    { s with
      passwordResetTokens := verified.2
      flights := s.flights ++ ((verified.1.filter (·.email == email)).map fun account =>
        LinkFlight.reset account.id hashedPassword).toList }
  | .changePassword userId hashedPassword =>
    { s with flights := s.flights ++ [.reset userId hashedPassword] }
  | .openVerification token =>
    { s with emailVerificationTokens := (verifyToken rt s.accounts s.emailVerificationTokens token now).2 }
  | .submitVerification token =>
    let verified := verifyToken rt s.accounts s.emailVerificationTokens token now
    { s with
      emailVerificationTokens := verified.2
      flights := s.flights ++ (verified.1.map fun _ => LinkFlight.consume token).toList }
  | .advance flight =>
    match s.flights[flight]? with
    | none => s
    | some f => { s with flights := s.flights.eraseIdx flight }.advance rt now f
  | .updateAccount userId email active =>
    { s with accounts := updateAccountRow s.accounts userId fun account =>
        { account with email := rt.toLowerCase email, active := active } }
  | .anonymizeAccount userId email =>
    { s with
      accounts := updateAccountRow s.accounts userId fun account =>
        { account with email := email, password := "", active := false, anonymizedAt := some now }
      passwordResetTokens := s.passwordResetTokens.deleteOfUser userId }
  | .deleteAccount userId =>
    { s with
      accounts := s.accounts.filter fun account => account.id != userId
      passwordResetTokens := s.passwordResetTokens.deleteOfUser userId
      emailVerificationTokens := s.emailVerificationTokens.deleteOfUser userId }

/-- An action at an instant. -/
structure LinkStep where
  now : Instant
  action : LinkAction
deriving DecidableEq, Repr

def LinkState.step (rt : LinkRuntime) (s : LinkState) (step : LinkStep) : LinkState :=
  { s with clock := step.now }.act rt step.now step.action

/-- The clock does not run backwards. -/
def onTime (s : LinkState) (step : LinkStep) : Prop := s.clock ≤ step.now

instance (s : LinkState) (step : LinkStep) : Decidable (onTime s step) :=
  inferInstanceAs (Decidable (s.clock ≤ step.now))

/-! ## The tables keep track of the links -/

/-- The keys of the table, and its rows as the links that are live. -/
structure TokenTable.Sound (rt : LinkRuntime) (table : TokenTable) (now : Instant) : Prop where
  ids : Keyed (·.id) table.rows
  below : ∀ row ∈ table.rows, row.id < table.nextId
  tokens : Keyed (·.token) table.rows
  tracks : Tracks rt.hashToken MailedToken.link table.rows table.log now

namespace TokenTable

variable {rt : LinkRuntime} {table : TokenTable} {now t : Instant} {row : MailedToken} {token : String}
  {userId : Nat} {expiresAt : Instant}

theorem sound_empty : Sound rt .empty now :=
  ⟨Keyed.nil, fun _ h => absurd h List.not_mem_nil, Keyed.nil, Tracks.nil⟩

theorem Sound.later (h : table.Sound rt now) (hlater : now ≤ t) : table.Sound rt t :=
  { h with tracks := h.tracks.later hlater }

/-- The rows that are left keep their keys. -/
theorem Sound.filter (h : table.Sound rt now) {p : MailedToken → Bool}
    {log : List (Entry String Nat Instant)}
    (htracks : Tracks rt.hashToken MailedToken.link (table.rows.filter p) log now) :
    Sound rt ⟨table.rows.filter p, table.nextId, log⟩ now where
  ids := h.ids.filter p
  below := fun row hrow => h.below row (List.mem_of_mem_filter hrow)
  tokens := h.tokens.filter p
  tracks := htracks

theorem Sound.deleteOfUser (h : table.Sound rt now) : (table.deleteOfUser userId).Sound rt now := by
  refine h.filter (h.tracks.close Entry.ended_ne_issued ?_)
  intro row secret owner expiresAt hlink
  have howner : row.userId = owner := congrArg Link.owner hlink
  have hends : Entry.ends (ι := Instant) secret owner (.ended userId) = (userId == owner) := rfl
  rw [List.mem_filter, hends, howner, bne, Bool.not_eq_true', BEq.comm]

theorem Sound.deleteExpiredOfUser (h : table.Sound rt now) :
    (table.deleteExpiredOfUser userId now).Sound rt now := by
  refine h.filter (h.tracks.purge (fun row hrow => List.mem_of_mem_filter hrow) ?_)
  intro row hrow hgone
  have hsel : (row.userId == userId && decide (row.expiresAt < now)) = true := by
    by_contra hkept
    exact hgone (List.mem_filter.mpr ⟨hrow, by rw [Bool.not_eq_true', Bool.eq_false_iff]; exact hkept⟩)
  simp only [Bool.and_eq_true, decide_eq_true_iff] at hsel
  exact hsel.2

theorem Sound.deleteRow (h : table.Sound rt now) (hrow : row ∈ table.rows) (hexpired : row.expiresAt < now) :
    (table.deleteRow row.id).Sound rt now := by
  refine h.filter (h.tracks.purge (fun row hrow => List.mem_of_mem_filter hrow) ?_)
  intro other hother hgone
  have hid : other.id = row.id := by
    by_contra hne
    exact hgone (List.mem_filter.mpr ⟨hother, by simpa using hne⟩)
  rw [h.ids.eq_of_key hother hrow hid]
  exact hexpired

theorem findToken_eq_some (h : table.Sound rt now) : table.findToken rt token = some row ↔
    row ∈ table.rows ∧ row.token = rt.hashToken token := h.tokens.find?_eq_some

theorem Sound.useRow (hhash : Function.Injective rt.hashToken) (h : table.Sound rt now)
    (hfind : table.findToken rt token = some row) : (table.useRow row token).Sound rt now := by
  obtain ⟨hrow, htoken⟩ := (findToken_eq_some h).mp hfind
  refine h.filter (h.tracks.close Entry.used_ne_issued ?_)
  intro other secret owner expiresAt hlink
  have hdigest : other.token = rt.hashToken secret := congrArg Link.digest hlink
  have hends : Entry.ends (ι := Instant) secret owner (.used token) = (token == secret) := rfl
  rw [List.mem_filter, hends]
  refine and_congr_right fun hother => ?_
  -- the row of the token is the one with its hash
  have hsame : other.id = row.id ↔ token = secret := by
    refine ⟨fun hid => ?_, fun heq => ?_⟩
    · rw [h.ids.eq_of_key hother hrow hid, htoken] at hdigest
      exact hhash hdigest
    · rw [h.tokens.eq_of_key hother hrow (by rw [hdigest, htoken, heq])]
  rw [bne_iff_ne, beq_eq_false_iff_ne, Ne, hsame]

theorem Sound.create (hhash : Function.Injective rt.hashToken) (h : table.Sound rt now) :
    (table.create rt token userId expiresAt).Sound rt now := by
  unfold TokenTable.create
  split
  · exact h
  · next hnew =>
    refine ⟨h.ids.append_next h.below rfl, lt_append_next h.below rfl, h.tokens.append_one ?_,
      h.tracks.issue hhash rfl⟩
    intro row hrow heq
    have hnone : table.findToken rt token = none := by simpa using hnew
    exact List.find?_eq_none.mp hnone row hrow (beq_iff_eq.mpr heq)

theorem Sound.verifyToken (h : table.Sound rt now) {accounts : List Account} :
    (verifyToken rt accounts table token now).2.Sound rt now := by
  unfold Authentication.verifyToken
  split
  · exact h
  · next row hfind =>
    split
    · next hexpired => exact h.deleteRow ((findToken_eq_some h).mp hfind).1 hexpired
    · exact h

end TokenTable

/-! ## Every run -/

/-- Both tables. -/
structure LinkState.Sound (rt : LinkRuntime) (s : LinkState) : Prop where
  reset : s.passwordResetTokens.Sound rt s.clock
  verification : s.emailVerificationTokens.Sound rt s.clock

section Run

variable {rt : LinkRuntime} {s : LinkState} {start : List Account} {clock now : Instant} {token : String}
  {account : Account}

theorem consume_sound (hhash : Function.Injective rt.hashToken) (h : s.Sound rt) :
    (s.consume rt token now).Sound rt := by
  unfold LinkState.consume
  split
  · exact h
  · next row hfind => exact { h with verification := h.verification.useRow hhash hfind }

theorem advance_sound (hhash : Function.Injective rt.hashToken) (h : s.Sound rt) (f : LinkFlight) :
    (s.advance rt now f).Sound rt := by
  cases f with
  | storeReset userId token expiresAt =>
    simp only [LinkState.advance]
    split
    · exact { h with reset := h.reset.create hhash }
    · exact h
  | storeVerification userId token expiresAt =>
    simp only [LinkState.advance]
    split
    · exact { h with verification := h.verification.create hhash }
    · exact h
  | reset userId hashedPassword =>
    simp only [LinkState.advance]
    split
    · exact { h with reset := h.reset.deleteOfUser }
    · exact h
  | consume token => exact consume_sound hhash h

/-- **What one action does** to the tables keeps them sound. -/
theorem act_sound (hhash : Function.Injective rt.hashToken) (h : s.Sound rt) (hnow : s.clock = now)
    (action : LinkAction) : (s.act rt now action).Sound rt := by
  subst hnow
  cases action with
  | requestPasswordReset email token =>
    simp only [LinkState.act]
    split
    · exact h
    · exact { h with reset := h.reset.deleteExpiredOfUser }
  | invalidatePassword userId token =>
    simp only [LinkState.act]
    split
    · exact { h with reset := h.reset.deleteOfUser }
    · exact h
  | createAccount account token =>
    simp only [LinkState.act]
    split
    · exact h
    · exact { h with reset := h.reset.deleteOfUser.create hhash }
  | requestVerification userId token =>
    simp only [LinkState.act]
    split
    · exact { h with verification := h.verification.deleteOfUser }
    · exact h
  | openReset token => exact { h with reset := h.reset.verifyToken }
  | submitReset token email hashedPassword => exact { h with reset := h.reset.verifyToken }
  | changePassword userId hashedPassword => exact ⟨h.reset, h.verification⟩
  | openVerification token => exact { h with verification := h.verification.verifyToken }
  | submitVerification token => exact { h with verification := h.verification.verifyToken }
  | advance flight =>
    simp only [LinkState.act]
    split
    · exact h
    · have hrest : LinkState.Sound rt { s with flights := s.flights.eraseIdx flight } :=
        ⟨h.reset, h.verification⟩
      exact advance_sound hhash hrest _
  | updateAccount userId email active => exact ⟨h.reset, h.verification⟩
  | anonymizeAccount userId email => exact { h with reset := h.reset.deleteOfUser }
  | deleteAccount userId => exact ⟨h.reset.deleteOfUser, h.verification.deleteOfUser⟩

theorem sound_of_run (hhash : Function.Injective rt.hashToken)
    (h : Reach (LinkState.step rt) onTime (.fresh start clock) s) : s.Sound rt := by
  refine h.invariant ⟨TokenTable.sound_empty, TokenTable.sound_empty⟩ fun s step hs hstep => ?_
  have hlater : LinkState.Sound rt { s with clock := step.now } :=
    ⟨hs.reset.later hstep, hs.verification.later hstep⟩
  exact act_sound hhash hlater rfl step.action

/-- What a sound table lets in: the account of a live link. -/
theorem verifyToken_eq_some {table : TokenTable} {accounts : List Account} (h : table.Sound rt clock)
    (hnow : clock ≤ now) : (verifyToken rt accounts table token now).1 = some account ↔
      accounts.find? (·.id == account.id) = some account ∧
        ∃ expiresAt, now ≤ expiresAt ∧ Live table.log token account.id expiresAt := by
  have hsound := h.later hnow
  -- live links are rows
  have hlive : (∃ expiresAt, now ≤ expiresAt ∧ Live table.log token account.id expiresAt) ↔
      ∃ row, table.findToken rt token = some row ∧ row.userId = account.id ∧ now ≤ row.expiresAt := by
    constructor
    · rintro ⟨expiresAt, hexpires, hlive⟩
      obtain ⟨row, hrow, hlink⟩ := (hsound.tracks token account.id expiresAt hexpires).mpr hlive
      have htoken : row.token = rt.hashToken token := congrArg Link.digest hlink
      have hexpiry : row.expiresAt = expiresAt := congrArg Link.expiresAt hlink
      refine ⟨row, (TokenTable.findToken_eq_some h).mpr ⟨hrow, htoken⟩, congrArg Link.owner hlink, ?_⟩
      rw [hexpiry]
      exact hexpires
    · rintro ⟨row, hfind, howner, hexpires⟩
      obtain ⟨hrow, htoken⟩ := (TokenTable.findToken_eq_some h).mp hfind
      refine ⟨row.expiresAt, hexpires, (hsound.tracks _ _ _ hexpires).mp ⟨row, hrow, ?_⟩⟩
      show Link.mk row.token row.userId row.expiresAt = _
      rw [htoken, howner]
  rw [hlive]
  unfold verifyToken
  split
  · next hfind => simp [hfind]
  · next row hfind =>
    have hown : accounts.find? (·.id == row.userId) = some account → account.id = row.userId :=
      fun hacc => by simpa using List.find?_some hacc
    split
    · next hexpired =>
      refine iff_of_false nofun ?_
      rintro ⟨-, row', hfind', -, hexpires⟩
      rw [hfind] at hfind'
      cases hfind'
      exact absurd hexpires (Int.not_le.mpr hexpired)
    · next hvalid =>
      constructor
      · intro hacc
        have hid := hown hacc
        exact ⟨by rw [hid]; exact hacc, row, hfind, hid.symm, Int.not_lt.mp hvalid⟩
      · rintro ⟨hacc, row', hfind', howner, -⟩
        rw [hfind] at hfind'
        cases hfind'
        show accounts.find? (·.id == row.userId) = some account
        rw [howner]
        exact hacc

/-- **A mailed link opens just while it is live.** In every interleaving of the requests, and however many
links an account has been sent, a token leads to an account when it was issued to this account, has not
expired, and nothing has ended it since: no reset of the password, no link that replaced it, no
anonymization or deletion, no use of it for a verification. -/
theorem verifyToken_iff_live (hhash : Function.Injective rt.hashToken)
    (h : Reach (LinkState.step rt) onTime (.fresh start clock) s) (hnow : s.clock ≤ now) :
    ((verifyToken rt s.accounts s.passwordResetTokens token now).1 = some account ↔
      s.accounts.find? (·.id == account.id) = some account ∧
        ∃ expiresAt, now ≤ expiresAt ∧ Live s.passwordResetTokens.log token account.id expiresAt) ∧
    ((verifyToken rt s.accounts s.emailVerificationTokens token now).1 = some account ↔
      s.accounts.find? (·.id == account.id) = some account ∧
        ∃ expiresAt, now ≤ expiresAt ∧ Live s.emailVerificationTokens.log token account.id expiresAt) :=
  have hsound := sound_of_run hhash h
  ⟨verifyToken_eq_some hsound.reset hnow, verifyToken_eq_some hsound.verification hnow⟩

end Run

/-! A link that is asked for twice: both open, for a day, until one of them is used. -/

section Asked

def mailRuntime : LinkRuntime := ⟨fun token => "#" ++ token, (· + 86400000), id⟩

def anna : Account := ⟨7, 1, "anna@example.org", "old", 0, true, none, some 0, none, none⟩

def askedTwice : LinkState :=
  [LinkStep.mk 1000 (.requestPasswordReset "anna@example.org" "first"), ⟨1000, .advance 0⟩,
    ⟨5000, .requestPasswordReset "anna@example.org" "second"⟩, ⟨5001, .advance 0⟩].foldl
      (LinkState.step mailRuntime) (.fresh [anna] 0)

theorem mailRuntime_injective : Function.Injective mailRuntime.hashToken :=
  fun _ _ h => String.append_right_inj _ |>.mp h

theorem askedTwice_reached : Reach (LinkState.step mailRuntime) onTime (.fresh [anna] 0) askedTwice :=
  Reach.foldl (by decide)

/-- The first link is live beside the second, so that it opens too. -/
theorem verifyToken_first_live :
    (verifyToken mailRuntime askedTwice.accounts askedTwice.passwordResetTokens "first" 6000).1 =
      some anna := by
  have hlive : Live askedTwice.passwordResetTokens.log "first" anna.id 86401000 :=
    Log.lastWord_iff.mp (by decide)
  exact (verifyToken_iff_live mailRuntime_injective askedTwice_reached (by decide)).1.mpr
    ⟨by decide, 86401000, by decide, hlive⟩

end Asked

end Unitae.Authentication
