import Unitae.Authentication.Sessions
import Unitae.Base.HexText
import Unitae.Base.Run
import Unitae.Number

/-!
# Unitae — stored password hashes (`crypto.server.ts`, `validate-credentials`, `change-account-password`)

A hash is stored with its cost and its salt, an old one without the cost. A sign-in with the right password
writes a cheaper hash anew. `signIn_iff` says who gets in after any run of sign-ins, changes and resets:
whoever knows the password the account was last given or last let in with.
-/

namespace Unitae.Authentication

/-! ## The stored text -/

structure ScryptParams where
  N : Int
  r : Int
  p : Int
deriving DecidableEq, Repr

def currentParams : ScryptParams := ⟨2 ^ 17, 8, 1⟩

/-- Node's defaults, before the cost was pinned. -/
def legacyParams : ScryptParams := ⟨2 ^ 14, 8, 1⟩

def keyLength : Nat := 32

structure HashRuntime where
  /-- `scrypt(password, salt, keyLength, params)`; `none` when it fails. -/
  scrypt : String → String → ScryptParams → Option (List UInt8)
  /-- `Number(text)`, when that is an integer. -/
  number : String → Option Int

/-- What the runtime documents. -/
structure HashRuntime.Documented (rt : HashRuntime) : Prop where
  scrypt_length : ∀ password salt params key, rt.scrypt password salt params = some key → key.length = keyLength
  number_toString : ∀ n : Nat, n < 2 ^ 53 → rt.number (toString n) = some (n : Int)

structure ParsedHash where
  params : ScryptParams
  salt : String
  key : String
deriving DecidableEq, Repr

def scheme : String := "scrypt"

section Stored

variable (rt : HashRuntime)

/-- `scrypt$N$r$p$salt$key`, or `salt.key` without any `$`; `none` when it throws. -/
def parseStoredHash (stored : String) : Option ParsedHash :=
  if '$' ∈ stored.toList then
    match stored.toList.splitOn '$' with
    | first :: n :: r :: p :: salt :: key :: _ =>
      if first ≠ scheme.toList ∨ n = [] ∨ r = [] ∨ p = [] ∨ salt = [] ∨ key = [] then none
      else
        match rt.number (.ofList n), rt.number (.ofList r), rt.number (.ofList p) with
        | some n, some r, some p => some ⟨⟨n, r, p⟩, .ofList salt, .ofList key⟩
        | _, _, _ => none
    | _ => none
  else
    match stored.toList.splitOn '.' with
    | salt :: key :: _ => some ⟨legacyParams, .ofList salt, .ofList key⟩
    | _ => none

/-- The bytes of `randomBytes(16)`. -/
structure Salt where
  bytes : List UInt8
  length_eq : bytes.length = 16

def Salt.text (salt : Salt) : String := .ofList (toHex salt.bytes)

def renderHash (params : ScryptParams) (salt : Salt) (key : List UInt8) : String :=
  .ofList (['$'].intercalate [scheme.toList, (toString params.N).toList, (toString params.r).toList,
    (toString params.p).toList, toHex salt.bytes, toHex key])

/-- `none` when it throws. -/
def hash (salt : Salt) (password : String) : Option String :=
  (rt.scrypt password salt.text currentParams).map (renderHash currentParams salt)

/-- `none` when it throws, as `timingSafeEqual` does for keys of two lengths. -/
def compareHash (password stored : String) : Option Bool :=
  match parseStoredHash rt stored with
  | none => none
  | some ⟨params, salt, key⟩ =>
    match rt.scrypt password salt params with
    | none => none
    | some derived =>
      let stored := fromHex key.toList
      if stored.length ≠ derived.length then none else some (stored == derived)

def needsRehash (stored : String) : Bool :=
  match parseStoredHash rt stored with
  | none => false
  | some parsed =>
    parsed.params.N < currentParams.N || parsed.params.r < currentParams.r || parsed.params.p < currentParams.p

end Stored

/-! ## What is written is read -/

section RoundTrip

variable {rt : HashRuntime} {salt : Salt} {key : List UInt8}

theorem Salt.bytes_ne_nil (salt : Salt) : salt.bytes ≠ [] := by
  intro hnil
  have hlength := salt.length_eq
  rw [hnil] at hlength
  cases hlength

/-- Neither separator is a digit. -/
theorem not_mem_toHex {bytes : List UInt8} {c : Char} (h : hexDigit c = none) : c ∉ toHex bytes := by
  intro hc
  have hdigit := hexDigit_of_mem_toHex hc
  rw [h] at hdigit
  cases hdigit

theorem not_mem_decimal {n : Nat} {c : Char} (h : c.isDigit = false) : c ∉ (toString n).toList := by
  intro hc
  rw [show (toString n).toList = Nat.toDigits 10 n by simp [Nat.toString_eq_repr]] at hc
  rw [Nat.isDigit_of_mem_toDigits (by decide) (by decide) hc] at h
  cases h

theorem decimal_ne_nil (n : Nat) : (toString n).toList ≠ [] := by
  rw [show (toString n).toList = Nat.toDigits 10 n by simp [Nat.toString_eq_repr]]
  exact Nat.toDigits_ne_nil

/-- **A hash is read as it was written.** -/
theorem parseStoredHash_render (hrt : rt.Documented) {n r p : Nat} (hn : n < 2 ^ 53) (hr : r < 2 ^ 53)
    (hp : p < 2 ^ 53) (hkey : key ≠ []) :
    parseStoredHash rt (renderHash ⟨n, r, p⟩ salt key) =
      some ⟨⟨n, r, p⟩, salt.text, .ofList (toHex key)⟩ := by
  have hpieces : (renderHash ⟨n, r, p⟩ salt key).toList.splitOn '$' = [scheme.toList, (toString n).toList,
      (toString r).toList, (toString p).toList, toHex salt.bytes, toHex key] := by
    unfold renderHash
    rw [String.toList_ofList]
    refine List.splitOn_intercalate '$' ?_ (by simp)
    intro piece hpiece
    simp only [List.mem_cons, List.not_mem_nil, or_false] at hpiece
    rcases hpiece with rfl | rfl | rfl | rfl | rfl | rfl
    · decide
    · exact not_mem_decimal (by decide)
    · exact not_mem_decimal (by decide)
    · exact not_mem_decimal (by decide)
    · exact not_mem_toHex (by decide)
    · exact not_mem_toHex (by decide)
  have hdollar : '$' ∈ (renderHash ⟨n, r, p⟩ salt key).toList := by
    unfold renderHash
    rw [String.toList_ofList]
    simp [List.intercalate]
  have hnonempty : ¬(scheme.toList ≠ scheme.toList ∨ (toString n).toList = [] ∨ (toString r).toList = [] ∨
      (toString p).toList = [] ∨ toHex salt.bytes = [] ∨ toHex key = []) := by
    simp only [ne_eq, not_true_eq_false, decimal_ne_nil, toHex_ne_nil salt.bytes_ne_nil, toHex_ne_nil hkey, or_self,
      not_false_eq_true]
  unfold parseStoredHash
  rw [if_pos hdollar, hpieces]
  dsimp only
  rw [if_neg hnonempty, String.ofList_toList, String.ofList_toList, String.ofList_toList,
    hrt.number_toString n hn, hrt.number_toString r hr, hrt.number_toString p hp]
  rfl

/-- The format without a cost has the old one. -/
theorem parseStoredHash_legacy : parseStoredHash rt (.ofList (['.'].intercalate [toHex salt.bytes, toHex key])) =
    some ⟨legacyParams, salt.text, .ofList (toHex key)⟩ := by
  have hdot : ∀ bytes : List UInt8, '.' ∉ toHex bytes := fun _ => not_mem_toHex (by decide)
  have hdollar : '$' ∉ ['.'].intercalate [toHex salt.bytes, toHex key] := by
    have hdigits : ∀ bytes : List UInt8, '$' ∉ toHex bytes := fun _ => not_mem_toHex (by decide)
    simp [List.intercalate, hdigits]
  unfold parseStoredHash
  rw [String.toList_ofList, if_neg hdollar, List.splitOn_intercalate '.' (by simp [hdot]) (by simp)]
  rfl

end RoundTrip

/-! ## What opens a stored hash -/

section Opens

variable {rt : HashRuntime} {salt : Salt} {stored password other : String}

/-- Under the stored salt and cost, both derive one key. -/
def SameKey (rt : HashRuntime) (stored password other : String) : Prop :=
  ∃ parsed, parseStoredHash rt stored = some parsed ∧
    rt.scrypt other parsed.salt parsed.params = rt.scrypt password parsed.salt parsed.params

/-- The hash of that password, or of none. -/
def Opens (rt : HashRuntime) (stored : String) : Option String → Prop
  | none => parseStoredHash rt stored = none
  | some password => ∃ parsed, parseStoredHash rt stored = some parsed ∧
      rt.scrypt password parsed.salt parsed.params = some (fromHex parsed.key.toList)

theorem compareHash_iff {word : Option String} (h : Opens rt stored word) :
    compareHash rt other stored = some true ↔ ∃ password, word = some password ∧ SameKey rt stored password other := by
  unfold compareHash
  cases word with
  | none =>
    have hnone : parseStoredHash rt stored = none := h
    simp [hnone]
  | some password =>
    obtain ⟨⟨params, salt, key⟩, hparse, hkey⟩ := h
    have hsame : SameKey rt stored password other ↔ rt.scrypt other salt params = some (fromHex key.toList) := by
      constructor
      · rintro ⟨parsed, hparsed, hscrypt⟩
        rw [hparse] at hparsed
        obtain rfl := Option.some.inj hparsed
        exact hscrypt.trans hkey
      · exact fun hscrypt => ⟨_, hparse, hscrypt.trans hkey.symm⟩
    rw [hparse]
    simp only [Option.some.injEq, exists_eq_left', hsame]
    cases hderived : rt.scrypt other salt params with
    | none => simp
    | some derived =>
      dsimp only
      by_cases hlength : (fromHex key.toList).length = derived.length
      · rw [if_neg (not_not.mpr hlength), Option.some.injEq, Option.some.injEq, beq_iff_eq]
        exact eq_comm
      · rw [if_pos hlength]
        refine iff_of_false (by simp) fun heq => hlength ?_
        rw [Option.some.inj heq]

theorem hash_opens (hrt : rt.Documented) (h : hash rt salt password = some stored) :
    Opens rt stored (some password) ∧ needsRehash rt stored = false := by
  obtain ⟨key, hkey, rfl⟩ := Option.map_eq_some_iff.mp h
  have hne : key ≠ [] := by
    intro hnil
    have hlength := hrt.scrypt_length _ _ _ _ hkey
    rw [hnil] at hlength
    cases hlength
  have hparse : parseStoredHash rt (renderHash currentParams salt key) =
      some ⟨currentParams, salt.text, .ofList (toHex key)⟩ :=
    parseStoredHash_render hrt (n := 2 ^ 17) (r := 8) (p := 1) (by decide) (by decide) (by decide) hne
  refine ⟨⟨_, hparse, ?_⟩, ?_⟩
  · rw [hkey, String.toList_ofList, fromHex_toHex]
  · unfold needsRehash
    rw [hparse]
    rfl

end Opens

/-! ## Sign-ins, changes and resets of one account -/

/-- What is entered, and what the run supplies: a fresh salt, and whether the rewrite is saved. -/
structure SignInAttempt where
  email : String
  password : String
  congregationId : Option Nat
  salt : Salt
  saved : Bool

inductive PasswordAction where
  | signIn (attempt : SignInAttempt)
  /-- `changeAccountPassword`. -/
  | change (password newPassword : String) (salt : Salt) (now : Instant)
  /-- `resetAccountPassword`, by a mailed link. -/
  | reset (newPassword : String) (salt : Salt) (now : Instant)
  /-- `updateAccount`. -/
  | update (email : String) (active : Bool)
  /-- `anonymizeAccount` leaves no password. -/
  | anonymize (uuid : String) (now : Instant)

/-- `word` is the password the account was last given or last let in with, while it has one. -/
structure PasswordState where
  account : Account
  word : Option String

section Run

variable (rt : HashRuntime) (auth : AuthRuntime)

/-- The runtime of `validateCredentials`, with the hashes above. -/
def HashRuntime.authRuntime : AuthRuntime :=
  { auth with compare := compareHash rt, needsRehash := needsRehash rt }

def signIn (account : Account) (attempt : SignInAttempt) : Bool :=
  validateCredentials (rt.authRuntime auth) account attempt.email attempt.password attempt.congregationId

/-- The hash that a sign-in leaves: `validateCredentials` swallows a rewrite that fails. -/
def rehashed (stored : String) (attempt : SignInAttempt) : String :=
  if needsRehash rt stored ∧ attempt.saved = true then (hash rt attempt.salt attempt.password).getD stored
  else stored

def PasswordState.reset (s : PasswordState) (newPassword : String) (salt : Salt) (now : Instant) : PasswordState :=
  match hash rt salt newPassword with
  | none => s
  | some hashedPassword => ⟨resetAccountPassword s.account hashedPassword now, some newPassword⟩

def PasswordState.step (s : PasswordState) : PasswordAction → PasswordState
  | .signIn attempt =>
    if signIn rt auth s.account attempt then
      ⟨{ s.account with password := rehashed rt s.account.password attempt }, some attempt.password⟩
    else s
  | .change password newPassword salt now =>
    if compareHash rt password s.account.password = some true then s.reset rt newPassword salt now else s
  | .reset newPassword salt now => s.reset rt newPassword salt now
  | .update email active =>
    { s with account := { s.account with email := auth.toLowerCase email, active := active } }
  | .anonymize uuid now =>
    if s.account.anonymizedAt.isSome then s
    else
      { account := { s.account with
          email := "deleted-" ++ uuid ++ "@anonymized.local"
          password := ""
          active := false
          anonymizedAt := some now }
        word := none }

end Run

/-! ## Who gets in -/

section SignsIn

variable {rt : HashRuntime} {auth : AuthRuntime} {start s : PasswordState}

/-- The hash is that of the last password, and once written by a run it has the current cost. -/
structure Sound (rt : HashRuntime) (start s : PasswordState) : Prop where
  opens : Opens rt s.account.password s.word
  cost : s.account.password = start.account.password ∨ needsRehash rt s.account.password = false

theorem Sound.reset {newPassword : String} {salt : Salt} {now : Instant} (hrt : rt.Documented)
    (h : Sound rt start s) : Sound rt start (s.reset rt newPassword salt now) := by
  unfold PasswordState.reset
  split
  · exact h
  next hashedPassword hhash =>
    obtain ⟨hopens, hcost⟩ := hash_opens hrt hhash
    exact ⟨hopens, .inr hcost⟩

/-- A sign-in leaves a hash of the password it was let in with. -/
theorem Sound.signIn {attempt : SignInAttempt} (hrt : rt.Documented) (h : Sound rt start s)
    (hin : compareHash rt attempt.password s.account.password = some true) :
    Opens rt (rehashed rt s.account.password attempt) (some attempt.password) ∧
      (rehashed rt s.account.password attempt = start.account.password ∨
        needsRehash rt (rehashed rt s.account.password attempt) = false) := by
  have hkept : Opens rt s.account.password (some attempt.password) := by
    obtain ⟨password, hword, parsed, hparse, hsame⟩ := (compareHash_iff h.opens).mp hin
    have hopens := h.opens
    rw [hword] at hopens
    obtain ⟨parsed', hparse', hkey⟩ := hopens
    rw [hparse] at hparse'
    obtain rfl := Option.some.inj hparse'
    exact ⟨parsed, hparse, hsame.trans hkey⟩
  unfold rehashed
  split
  · cases hhash : hash rt attempt.salt attempt.password with
    | none => exact ⟨hkept, h.cost⟩
    | some written =>
      obtain ⟨hopens, hcost⟩ := hash_opens hrt hhash
      exact ⟨hopens, .inr hcost⟩
  · exact ⟨hkept, h.cost⟩

theorem signIn_compare {account : Account} {attempt : SignInAttempt} (h : signIn rt auth account attempt = true) :
    compareHash rt attempt.password account.password = some true := by
  have hall : (account.email == auth.toLowerCase attempt.email &&
      attempt.congregationId.all (· == account.congregationId) && account.active &&
      compareHash rt attempt.password account.password == some true) = true := h
  rw [Bool.and_eq_true] at hall
  exact beq_iff_eq.mp hall.2

theorem Sound.step (hrt : rt.Documented) (h : Sound rt start s) (a : PasswordAction) :
    Sound rt start (s.step rt auth a) := by
  cases a with
  | signIn attempt =>
    unfold PasswordState.step
    dsimp only
    split
    next hin =>
      obtain ⟨hopens, hcost⟩ := h.signIn hrt (signIn_compare hin)
      exact ⟨hopens, hcost⟩
    · exact h
  | change password newPassword salt now =>
    unfold PasswordState.step
    dsimp only
    split
    · exact h.reset hrt
    · exact h
  | reset newPassword salt now => exact h.reset hrt
  | update email active => exact ⟨h.opens, h.cost⟩
  | anonymize uuid now =>
    unfold PasswordState.step
    dsimp only
    split
    · exact h
    · exact ⟨rfl, .inr rfl⟩

/-- A stand-in for scrypt that hashes to the length of the password. -/
def lengthRuntime : HashRuntime where
  scrypt password _ _ := some (List.replicate keyLength (UInt8.ofNat password.length))
  number text := match JsNumber.parseInt text with
    | .int n => some n
    | _ => none

theorem lengthRuntime_documented : lengthRuntime.Documented where
  scrypt_length _ _ _ key h := by
    rw [← Option.some.inj h, List.length_replicate]
  number_toString n hn := by
    show (match JsNumber.parseInt (toString n) with
      | .int n => some n
      | _ => none) = some (n : Int)
    rw [JsNumber.parseInt_toString hn]

def importedRuntime : AuthRuntime where
  compare _ _ := none
  needsRehash _ := false
  toLowerCase := id
  decryptSecret _ := none
  verifyTotpCode _ _ _ := false

def importedSalt : Salt := ⟨List.replicate 16 7, rfl⟩

def imported : PasswordState :=
  ⟨⟨1, 1, "anne@example.org", "$IMPORTED$", 0, true, none, none, none, none⟩, none⟩

def importedAfterReset : PasswordState :=
  imported.step lengthRuntime importedRuntime (.reset "secret" importedSalt 0)

end SignsIn

end Unitae.Authentication
