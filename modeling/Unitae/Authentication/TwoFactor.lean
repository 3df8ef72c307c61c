import Unitae.Authentication.Sessions
import Unitae.Base.HexText
import Unitae.Base.Run
import Unitae.Base.Utf8
import Unitae.Text

/-!
# Unitae — the second factor (`totp-encryption`, `security.tsx`, `reset-2fa.tsx`, `verify-two-factor-challenge`)

The seed of an account is stored encrypted under the session secret of the day, and read with any secret that is
still configured (`challenge_iff`). The handlers of the security page read, then write, each in a transaction of
its own, so that those of several requests interleave: `armed_survives_iff` says when nobody without a code
switches an armed second factor off.
-/

namespace Unitae.Authentication

/-! ## Seeds at rest -/

/-- `node:crypto`, the `base64` of `Buffer`, and the validation of `otpauth`. -/
structure CipherRuntime where
  /-- `scryptSync(secret, KEY_SALT, KEY_LENGTH)`. -/
  deriveKey : String → List UInt8
  /-- The authentication tag and the ciphertext of a text, under a key and an initialisation vector. -/
  encrypt : List UInt8 → List UInt8 → String → List UInt8 × List UInt8
  /-- `none` when it throws. -/
  decrypt : List UInt8 → List UInt8 → List UInt8 → List UInt8 → Option String
  toBase64 : List UInt8 → List Char
  fromBase64 : List Char → List UInt8
  /-- `validate({ token: code, window: 1 })` at an instant. -/
  validate : String → String → Instant → Bool
  toLowerCase : String → String

/-- What is documented of them: the tag tells the key, and base64 has no colon. -/
structure CipherRuntime.Documented (rt : CipherRuntime) : Prop where
  decrypt_encrypt : ∀ key iv plain, rt.decrypt key iv (rt.encrypt key iv plain).1 (rt.encrypt key iv plain).2 = some plain
  decrypt_other : ∀ key key' iv plain, key ≠ key' →
    rt.decrypt key' iv (rt.encrypt key iv plain).1 (rt.encrypt key iv plain).2 = none
  tag_ne : ∀ key iv plain, (rt.encrypt key iv plain).1 ≠ []
  text_ne : ∀ key iv plain, plain ≠ "" → (rt.encrypt key iv plain).2 ≠ []
  fromBase64_toBase64 : ∀ bytes, rt.fromBase64 (rt.toBase64 bytes) = bytes
  colon : ∀ bytes, ':' ∉ rt.toBase64 bytes
  toBase64_ne : ∀ bytes, bytes ≠ [] → rt.toBase64 bytes ≠ []

/-- The bytes of `randomBytes(12)`. -/
structure InitVector where
  bytes : List UInt8
  length_eq : bytes.length = 12
deriving DecidableEq

/-- `generateTotpSecret`: some base32 text. -/
structure TotpSeed where
  text : String
  ne_empty : text ≠ ""
deriving DecidableEq

/-- `UNITAE_SESSION_SECRET`: the current secret, then previous ones. -/
def getSessionSecrets (sessionSecret : Option String) : List String :=
  (((sessionSecret.getD "").toList.splitOn ',').map fun secret => trim (String.ofList secret)).filter (· ≠ "")

section Seeds

variable (rt : CipherRuntime)

/-- `getKeys`; none when it throws. -/
def getKeys (sessionSecret : Option String) : List (List UInt8) := (getSessionSecrets sessionSecret).map rt.deriveKey

/-- `iv:authTag:ciphertext`. -/
def encodeSeed (key : List UInt8) (iv : InitVector) (seed : TotpSeed) : String :=
  let sealed := rt.encrypt key iv.bytes seed.text
  .ofList ([':'].intercalate [rt.toBase64 iv.bytes, rt.toBase64 sealed.1, rt.toBase64 sealed.2])

/-- `none` when it throws. -/
def encryptSecret (sessionSecret : Option String) (iv : InitVector) (seed : TotpSeed) : Option String :=
  (getKeys rt sessionSecret).head?.map fun key => encodeSeed rt key iv seed

def decryptSecret (sessionSecret : Option String) (payload : String) : Option String :=
  match payload.toList.splitOn ':' with
  | iv :: authTag :: ciphertext :: _ =>
    if iv = [] ∨ authTag = [] ∨ ciphertext = [] then none
    else (getKeys rt sessionSecret).findSome? fun key =>
      rt.decrypt key (rt.fromBase64 iv) (rt.fromBase64 authTag) (rt.fromBase64 ciphertext)
  | _ => none

/-- `CODE_PATTERN`, `^\d{6}$`. -/
def isCode (code : String) : Bool := code.toList.length == 6 && code.toList.all Char.isDigit

def verifyTotpCode (seed code : String) (now : Instant) : Bool := isCode code && rt.validate seed code now

/-- The runtime of `verifyTwoFactorChallenge`. -/
def CipherRuntime.authRuntime (sessionSecret : Option String) : AuthRuntime where
  compare _ _ := none
  needsRehash _ := false
  toLowerCase := rt.toLowerCase
  decryptSecret := decryptSecret rt sessionSecret
  verifyTotpCode := verifyTotpCode rt

end Seeds

/-! ## The requests of the security page -/

/-- What a request has still to do after its last read. -/
inductive Pending where
  /-- A start that found the second factor armed, before it checks its code. -/
  | proving
  /-- A start that may write. -/
  | enrolling
  | confirming
  | disabling
deriving DecidableEq, Repr

/-- A code and when it is checked. -/
structure ShownCode where
  code : String
  now : Instant
deriving DecidableEq, Repr

inductive GateAction where
  /-- `handleStart` reads the status. -/
  | startStatus
  /-- It checks the current factor. -/
  | startProof (shown : ShownCode)
  /-- `startTwoFactorEnrollment`. -/
  | startWrite (seed : TotpSeed) (iv : InitVector)
  /-- `confirmTwoFactorEnrollment` reads the seed and checks the code. -/
  | confirmRead (shown : ShownCode)
  | confirmWrite (now : Instant)
  /-- `handleDisable` checks the code. -/
  | disableProof (shown : ShownCode)
  | disableWrite
  /-- `reset-2fa.tsx`, by an administrator. -/
  | adminReset
  /-- The server starts again with other secrets. -/
  | rotate (sessionSecret : Option String)
  /-- `updateAccount`. -/
  | setActive (active : Bool)

/-- `enrolled` is the seed that was written last, with its key. -/
structure GateState where
  account : Account
  sessionSecret : Option String
  pending : List Pending
  enrolled : Option (TotpSeed × List UInt8)

def disableTwoFactor (account : Account) : Account :=
  { account with twoFactorSecret := none, twoFactorEnabledAt := none }

section Gate

variable (rt : CipherRuntime)

/-- `verifyTwoFactorChallenge`. -/
def GateState.passes (s : GateState) (shown : ShownCode) : Bool :=
  verifyTwoFactorChallenge (rt.authRuntime s.sessionSecret) s.account s.account.id shown.code shown.now

/-- `confirmTwoFactorEnrollment` up to its write. A seed it cannot read makes it throw. -/
def GateState.confirms (s : GateState) (shown : ShownCode) : Bool :=
  (s.account.twoFactorSecret.bind (decryptSecret rt s.sessionSecret)).any fun seed =>
    verifyTotpCode rt seed shown.code shown.now

def GateState.disable (s : GateState) : GateState :=
  { s with account := disableTwoFactor s.account, enrolled := none }

def GateState.step (s : GateState) : GateAction → GateState
  | .startStatus =>
    if isTwoFactorEnabled s.account then { s with pending := .proving :: s.pending }
    else { s with pending := .enrolling :: s.pending }
  | .startProof shown =>
    if .proving ∈ s.pending then
      let waiting := s.pending.erase .proving
      if s.passes rt shown then { s with pending := .enrolling :: waiting } else { s with pending := waiting }
    else s
  | .startWrite seed iv =>
    if .enrolling ∈ s.pending then
      let s := { s with pending := s.pending.erase .enrolling }
      match (getKeys rt s.sessionSecret).head? with
      | none => s
      | some key =>
        { s with
          account := { s.account with
            twoFactorSecret := some (encodeSeed rt key iv seed)
            twoFactorEnabledAt := none }
          enrolled := some (seed, key) }
    else s
  | .confirmRead shown => if s.confirms rt shown then { s with pending := .confirming :: s.pending } else s
  | .confirmWrite now =>
    if .confirming ∈ s.pending then
      { s with
        pending := s.pending.erase .confirming
        account := { s.account with twoFactorEnabledAt := some now } }
    else s
  | .disableProof shown => if s.passes rt shown then { s with pending := .disabling :: s.pending } else s
  | .disableWrite =>
    if .disabling ∈ s.pending then { s with pending := s.pending.erase .disabling }.disable else s
  | .adminReset => s.disable
  | .rotate sessionSecret => { s with sessionSecret := sessionSecret }
  | .setActive active => { s with account := { s.account with active := active } }

end Gate

/-! ## A seed is read while its key is configured -/

section Reading

variable {rt : CipherRuntime} {key : List UInt8} {iv : InitVector} {seed : TotpSeed} {sessionSecret : Option String}

theorem decryptSecret_encodeSeed (hrt : rt.Documented) : decryptSecret rt sessionSecret (encodeSeed rt key iv seed) =
    if key ∈ getKeys rt sessionSecret then some seed.text else none := by
  have hiv : iv.bytes ≠ [] := by
    intro hnil
    have hlength := iv.length_eq
    rw [hnil] at hlength
    cases hlength
  have hsplit : (encodeSeed rt key iv seed).toList.splitOn ':' = [rt.toBase64 iv.bytes,
      rt.toBase64 (rt.encrypt key iv.bytes seed.text).1, rt.toBase64 (rt.encrypt key iv.bytes seed.text).2] := by
    unfold encodeSeed
    rw [String.toList_ofList]
    exact List.splitOn_intercalate ':' (by simp [hrt.colon]) (by simp)
  have hparts : ¬(rt.toBase64 iv.bytes = [] ∨ rt.toBase64 (rt.encrypt key iv.bytes seed.text).1 = [] ∨
      rt.toBase64 (rt.encrypt key iv.bytes seed.text).2 = []) := by
    simp only [not_or]
    exact ⟨hrt.toBase64_ne _ hiv, hrt.toBase64_ne _ (hrt.tag_ne _ _ _),
      hrt.toBase64_ne _ (hrt.text_ne _ _ _ seed.ne_empty)⟩
  unfold decryptSecret
  rw [hsplit]
  dsimp only
  rw [if_neg hparts, hrt.fromBase64_toBase64, hrt.fromBase64_toBase64, hrt.fromBase64_toBase64]
  -- the keys before the right one are refused by the tag
  induction getKeys rt sessionSecret with
  | nil => rfl
  | cons k keys ih =>
    rw [List.findSome?_cons]
    by_cases hk : key = k
    · rw [← hk, hrt.decrypt_encrypt, if_pos List.mem_cons_self]
    · rw [hrt.decrypt_other key k iv.bytes seed.text hk]
      dsimp only
      rw [ih]
      simp [hk]

end Reading

/-! ## Who passes the challenge -/

section Challenge

variable {rt : CipherRuntime} {start s : GateState}

/-- The stored seed is the one that was written last. -/
def Stored (rt : CipherRuntime) (s : GateState) : Prop :=
  match s.enrolled with
  | none => s.account.twoFactorSecret = none
  | some (seed, key) => ∃ iv, s.account.twoFactorSecret = some (encodeSeed rt key iv seed)

theorem Stored.step (h : Stored rt s) (a : GateAction) : Stored rt (s.step rt a) := by
  cases a with
  | startStatus =>
    unfold GateState.step
    dsimp only
    split
    · exact h
    · exact h
  | startProof shown =>
    unfold GateState.step
    dsimp only
    split
    · split
      · exact h
      · exact h
    · exact h
  | startWrite seed iv =>
    unfold GateState.step
    dsimp only
    split
    · split
      · exact h
      · exact ⟨iv, rfl⟩
    · exact h
  | confirmRead shown =>
    unfold GateState.step
    dsimp only
    split
    · exact h
    · exact h
  | confirmWrite now =>
    unfold GateState.step
    dsimp only
    split
    · exact h
    · exact h
  | disableProof shown =>
    unfold GateState.step
    dsimp only
    split
    · exact h
    · exact h
  | disableWrite =>
    unfold GateState.step
    dsimp only
    split
    · exact rfl
    · exact h
  | adminReset => exact rfl
  | rotate sessionSecret => exact h
  | setActive active => exact h

/-- **Who passes the challenge**, after any interleaving of requests and any rotation of secrets: a code of the
seed that was written last, while the account is active, its second factor is armed and the secret the seed was
encrypted under is still configured. -/
theorem challenge_iff (hrt : rt.Documented) (hsecret : start.account.twoFactorSecret = none)
    (henrolled : start.enrolled = none) (hrun : Reach (GateState.step rt) (fun _ _ => True) start s)
    (shown : ShownCode) :
    s.passes rt shown = true ↔ s.account.active = true ∧ isTwoFactorEnabled s.account = true ∧
      ∃ seed key, s.enrolled = some (seed, key) ∧ key ∈ getKeys rt s.sessionSecret ∧
        verifyTotpCode rt seed.text shown.code shown.now = true := by
  have hstored : Stored rt s := by
    refine hrun.invariant ?_ fun s a h _ => h.step a
    unfold Stored
    rw [henrolled]
    exact hsecret
  have hpasses : s.passes rt shown = true ↔ s.account.active = true ∧ isTwoFactorEnabled s.account = true ∧
      ∃ seed, s.account.twoFactorSecret.bind (decryptSecret rt s.sessionSecret) = some seed ∧
        verifyTotpCode rt seed shown.code shown.now = true := by
    unfold GateState.passes verifyTwoFactorChallenge isTwoFactorEnabled
    simp [CipherRuntime.authRuntime, Option.any_eq_true, and_assoc]
  rw [hpasses]
  refine and_congr_right fun _ => and_congr_right fun _ => ?_
  unfold Stored at hstored
  cases hlast : s.enrolled with
  | none =>
    rw [hlast] at hstored
    dsimp only at hstored
    rw [hstored]
    simp
  | some last =>
    obtain ⟨seed, key⟩ := last
    rw [hlast] at hstored
    obtain ⟨iv, hpayload⟩ := hstored
    rw [hpayload, Option.bind_some, decryptSecret_encodeSeed hrt]
    by_cases hkey : key ∈ getKeys rt s.sessionSecret
    · rw [if_pos hkey]
      constructor
      · rintro ⟨text, htext, hcode⟩
        exact ⟨seed, key, rfl, hkey, Option.some.inj htext ▸ hcode⟩
      · rintro ⟨seed', key', hsame, _, hcode⟩
        obtain ⟨rfl, rfl⟩ := Prod.mk.inj (Option.some.inj hsame)
        exact ⟨seed.text, rfl, hcode⟩
    · rw [if_neg hkey]
      refine iff_of_false (by simp) ?_
      rintro ⟨seed', key', hsame, hin, _⟩
      obtain ⟨rfl, rfl⟩ := Prod.mk.inj (Option.some.inj hsame)
      exact hkey hin

/-! ### An enrolment and a rotation -/

/-- A stand-in that puts the key into the tag and leaves the text as it is. -/
def openRuntime : CipherRuntime where
  deriveKey secret := (Utf8.encode secret.toList).map UInt8.ofNat
  encrypt key _ plain := (0 :: key, (Utf8.encode plain.toList).map UInt8.ofNat)
  decrypt key _ tag text :=
    if tag = 0 :: key then some (.ofList (Utf8.decode (text.map UInt8.toNat))) else none
  toBase64 := toHex
  fromBase64 := fromHex
  validate _ code _ := code == "123456"
  toLowerCase := id

theorem openRuntime_documented : openRuntime.Documented where
  decrypt_encrypt key iv plain := by
    have hbytes : ((Utf8.encode plain.toList).map UInt8.ofNat).map UInt8.toNat = Utf8.encode plain.toList := by
      rw [List.map_map]
      refine (List.map_congr_left fun b hb => ?_).trans (List.map_id _)
      exact UInt8.toNat_ofNat_of_lt' (Utf8.lt_of_mem_encode hb)
    show (if 0 :: key = 0 :: key then some (String.ofList (Utf8.decode
      (((Utf8.encode plain.toList).map UInt8.ofNat).map UInt8.toNat))) else none) = _
    rw [if_pos rfl, hbytes, Utf8.decode_encode, String.ofList_toList]
  decrypt_other key key' iv plain hne := if_neg fun h => hne (List.cons.inj h).2
  tag_ne key iv plain := List.cons_ne_nil _ _
  text_ne key iv plain hplain := by
    intro hnil
    have hcode : Utf8.encode plain.toList = [] := List.map_eq_nil_iff.mp hnil
    have hread := Utf8.decode_encode plain.toList
    rw [hcode] at hread
    exact hplain (String.toList_inj.mp hread.symm)
  fromBase64_toBase64 := fromHex_toHex
  colon bytes hc := by
    have hdigit := hexDigit_of_mem_toHex hc
    revert hdigit
    decide
  toBase64_ne bytes h := toHex_ne_nil h

def enrolling : GateState where
  account := ⟨1, 1, "anne@example.org", "", 0, true, none, none, none, none⟩
  sessionSecret := some "old"
  pending := []
  enrolled := none

def enrolment : List GateAction :=
  [.startStatus, .startWrite ⟨"JBSWY3DP", by decide⟩ ⟨List.replicate 12 7, rfl⟩, .confirmRead ⟨"123456", 0⟩,
    .confirmWrite 0, .rotate (some "new, old")]

/-- A code passes after a rotation that keeps the old secret. -/
theorem challenge_iff_rotated :
    (enrolment.foldl (GateState.step openRuntime) enrolling).passes openRuntime ⟨"123456", 9⟩ = true := by
  have hrun : Reach (GateState.step openRuntime) (fun _ _ => True) enrolling
      (enrolment.foldl (GateState.step openRuntime) enrolling) := Reach.foldl (guarded_true _ _ _)
  refine (challenge_iff openRuntime_documented rfl rfl hrun ⟨"123456", 9⟩).mpr ?_
  refine ⟨by decide +kernel, by decide +kernel, ⟨"JBSWY3DP", by decide⟩, openRuntime.deriveKey "old", ?_, ?_, ?_⟩
  · decide +kernel
  · decide +kernel
  · decide +kernel

end Challenge

/-! ## Who switches it off -/

section Armed

variable {rt : CipherRuntime} {payload : String} {s : GateState}

/-- The second factor is on, with that seed. -/
def Armed (payload : String) (s : GateState) : Prop :=
  s.account.twoFactorSecret = some payload ∧ isTwoFactorEnabled s.account = true

/-- No administrator steps in, and no code passes a start or a switching off. -/
def WithoutCode (rt : CipherRuntime) (s : GateState) : GateAction → Prop
  | .startProof shown => s.passes rt shown = false
  | .disableProof shown => s.passes rt shown = false
  | .adminReset => False
  | _ => True

/-- On, and no request may change that any more without a code. -/
structure Guards (payload : String) (s : GateState) : Prop where
  armed : Armed payload s
  enrolling : .enrolling ∉ s.pending
  disabling : .disabling ∉ s.pending

theorem Guards.step (h : Guards payload s) {a : GateAction} (ha : WithoutCode rt s a) :
    Guards payload (s.step rt a) := by
  have hdropped : ∀ p q : Pending, p ∉ s.pending → p ∉ s.pending.erase q := fun p q hp hin =>
    hp (List.mem_of_mem_erase hin)
  cases a with
  | startStatus =>
    unfold GateState.step
    dsimp only
    rw [if_pos h.armed.2]
    exact ⟨h.armed, by simpa using h.enrolling, by simpa using h.disabling⟩
  | startProof shown =>
    unfold GateState.step
    dsimp only
    split
    · have hrefused : s.passes rt shown = false := ha
      rw [hrefused]
      exact ⟨h.armed, hdropped _ _ h.enrolling, hdropped _ _ h.disabling⟩
    · exact h
  | startWrite seed iv =>
    unfold GateState.step
    dsimp only
    rw [if_neg h.enrolling]
    exact h
  | confirmRead shown =>
    unfold GateState.step
    dsimp only
    split
    · exact ⟨h.armed, by simpa using h.enrolling, by simpa using h.disabling⟩
    · exact h
  | confirmWrite now =>
    unfold GateState.step
    dsimp only
    split
    · exact ⟨⟨h.armed.1, rfl⟩, hdropped _ _ h.enrolling, hdropped _ _ h.disabling⟩
    · exact h
  | disableProof shown =>
    unfold GateState.step
    dsimp only
    have hrefused : s.passes rt shown = false := ha
    rw [hrefused]
    exact h
  | disableWrite =>
    unfold GateState.step
    dsimp only
    rw [if_neg h.disabling]
    exact h
  | adminReset => exact absurd ha id
  | rotate sessionSecret => exact ⟨h.armed, h.enrolling, h.disabling⟩
  | setActive active => exact ⟨h.armed, h.enrolling, h.disabling⟩

/-- **An armed second factor stays armed without a code**, whatever requests interleave, just when no start and
no switching off had passed its check before: such a start may have read the status when nothing was armed. -/
theorem armed_survives_iff (h : Armed payload s) :
    (∀ actions, Guarded (GateState.step rt) (WithoutCode rt) s actions →
      Armed payload (actions.foldl (GateState.step rt) s)) ↔
      .enrolling ∉ s.pending ∧ .disabling ∉ s.pending := by
  constructor
  · intro hstays
    constructor
    · intro hin
      -- a server with a secret at hand lets the start write its seed, which disarms
      have hguarded : Guarded (GateState.step rt) (WithoutCode rt) s
          [.rotate (some "k"), .startWrite ⟨"A", by decide⟩ ⟨List.replicate 12 0, rfl⟩] := ⟨trivial, trivial, trivial⟩
      have hend := (hstays _ hguarded).2
      have hkeys : (getKeys rt (some "k")).head? = some (rt.deriveKey "k") := by
        have hsecrets : getSessionSecrets (some "k") = ["k"] := by decide +kernel
        unfold getKeys
        rw [hsecrets]
        rfl
      simp only [List.foldl_cons, List.foldl_nil, GateState.step, hin, if_true, hkeys] at hend
      cases hend
    · intro hin
      have hguarded : Guarded (GateState.step rt) (WithoutCode rt) s [.disableWrite] := ⟨trivial, trivial⟩
      have hend := (hstays _ hguarded).2
      simp only [List.foldl_cons, List.foldl_nil, GateState.step, hin, if_true] at hend
      cases hend
  · rintro ⟨henrolling, hdisabling⟩ actions hguarded
    have hrun := Reach.foldl hguarded
    exact (hrun.invariant ⟨h, henrolling, hdisabling⟩ fun _ _ hs ha => hs.step ha : Guards payload _).armed

/-- Nobody in flight, the second factor stays on. -/
theorem armed_survives_iff_enrolled :
    (enrolment.foldl (GateState.step openRuntime) enrolling).pending = [] ∧
    ∀ actions, Guarded (GateState.step openRuntime) (WithoutCode openRuntime)
        (enrolment.foldl (GateState.step openRuntime) enrolling) actions →
      Armed (encodeSeed openRuntime (openRuntime.deriveKey "old") ⟨List.replicate 12 7, rfl⟩ ⟨"JBSWY3DP", by decide⟩)
        (actions.foldl (GateState.step openRuntime) (enrolment.foldl (GateState.step openRuntime) enrolling)) :=
  ⟨by decide +kernel,
    (armed_survives_iff ⟨by decide +kernel, by decide +kernel⟩).mpr ⟨by decide +kernel, by decide +kernel⟩⟩

end Armed

end Unitae.Authentication
