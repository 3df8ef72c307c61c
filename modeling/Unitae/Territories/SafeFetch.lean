import Mathlib.Data.List.Chain
import Unitae.Errors
import Unitae.Text
import Unitae.Territories.BlockedAddress
import Unitae.Territories.OpenDataSync

/-!
# Unitae — what an open-data fetch reaches (`open-data-allowlist`, `safe-open-data-fetch`)

Name servers and web servers answer as they like, and differently each time; the fetch is traced by what
it asks of them. `safeOpenDataFetch_vetted` says that every request goes to an allowed host whose addresses
were all public when it was looked up, redirect after redirect.
-/

namespace Unitae.Territories

/-! ## The allowlist -/

/-- `URL` and `toLowerCase` of the runtime. -/
structure UrlRuntime (U : Type) where
  /-- `new URL(value)`; `none` when it throws. -/
  parse : String → Option U
  /-- `new URL(location, target)`. -/
  resolve : String → U → Option U
  href : U → String
  protocol : U → String
  hostname : U → String
  port : U → String
  toLowerCase : String → String

/-- The allowlist of the environment, `UNITAE_OPEN_DATA_ALLOWLIST`. -/
structure OpenDataEnv (U : Type) where
  url : UrlRuntime U
  allowlist : Option String

def openDataDefaultHosts : List String := ["bano.openstreetmap.fr", "adresse.data.gouv.fr", "data.gouv.fr"]

section Allowlist

variable {U : Type} (env : OpenDataEnv U)

def getOpenDataAllowedHosts : List String :=
  let extra := (((env.allowlist.getD "").toList.splitOn ',').map fun host =>
    env.url.toLowerCase (trim (String.ofList host))).filter (· ≠ "")
  openDataDefaultHosts ++ extra

def banoUrlError (message : String) : Failure := .app (.validation "bano-url" message)

def assertAllowedOpenDataUrl (value : String) : Except Failure U :=
  match env.url.parse value with
  | none => .error (banoUrlError "URL invalide")
  | some url =>
    if env.url.protocol url ≠ "https:" then .error (banoUrlError "URL invalide (https requis)")
    else if env.url.toLowerCase (env.url.hostname url) ∉ getOpenDataAllowedHosts env then
      .error (banoUrlError "Hôte non autorisé pour la synchronisation des données ouvertes")
    else if env.url.port url ≠ "" ∧ env.url.port url ≠ "443" then
      .error (banoUrlError "Port non autorisé pour la synchronisation des données ouvertes")
    else .ok url

/-- The field error of the setting, when its value is refused. -/
def banoUrlWriteError (value : String) : Option String :=
  if value = "" then none
  else match assertAllowedOpenDataUrl env value with
    | .ok _ => none
    | .error (.app (.validation _ message)) => some message
    | .error _ => some "URL invalide"

/-! ## The fetch -/

/-- Name servers and web servers, in a state of their own. -/
structure Outside (W U : Type) where
  /-- `lookup(hostname, { all: true })`; `none` when it throws. -/
  lookup : W → String → Option (List String) × W
  /-- `fetch(target, { redirect: 'manual' })`; `none` when it throws. -/
  fetch : W → U → Option OpenDataResponse × W

/-- What is asked of the outside, with its answer. -/
inductive Contact (U : Type) where
  | lookup (hostname : String) (addresses : Option (List String))
  | request (target : U) (response : Option OpenDataResponse)
deriving DecidableEq, Repr

structure Fetched (W U : Type) where
  outcome : Except Failure OpenDataResponse
  contacts : List (Contact U)
  world : W

def assertPublicHost (addresses : Option (List String)) : Except Failure Unit :=
  match addresses with
  | none => .error (banoUrlError "Résolution DNS impossible pour l'hôte des données ouvertes")
  | some addresses =>
    if addresses.length = 0 ∨ addresses.any isBlockedAddress = true then
      .error (banoUrlError "L'hôte des données ouvertes résout vers une adresse interne")
    else .ok ()

def tooManyRedirects : Failure := banoUrlError "Trop de redirections pour les données ouvertes"

/-- The target of a redirect, vetted like the first. -/
def redirectTarget (location : String) (target : U) : Except Failure U :=
  match env.url.resolve location target with
  | none => .error (.unexpected "Invalid URL")
  | some url => assertAllowedOpenDataUrl env (env.url.href url)

/-- The location of a redirect; `none` for a response that is returned. -/
def OpenDataResponse.redirect (response : OpenDataResponse) : Option String :=
  if response.status ∉ redirectStatuses then none
  else match response.location with
    | none => none
    | some "" => none
    | some location => some location

variable {W : Type} (out : Outside W U)

/-- The loop, with the hops it may still take. -/
def followRedirects : Nat → U → W → Fetched W U
  | 0, _, world => ⟨.error tooManyRedirects, [], world⟩
  | hops + 1, target, world =>
    let looked := out.lookup world (env.url.hostname target)
    let lookup := Contact.lookup (env.url.hostname target) looked.1
    match assertPublicHost looked.1 with
    | .error e => ⟨.error e, [lookup], looked.2⟩
    | .ok () =>
      let fetched := out.fetch looked.2 target
      let contacts := [lookup, .request target fetched.1]
      match fetched.1 with
      | none => ⟨.error (.unexpected "fetch failed"), contacts, fetched.2⟩
      | some response =>
        match response.redirect with
        | none => ⟨.ok response, contacts, fetched.2⟩
        | some location =>
          match redirectTarget env location target with
          | .error e => ⟨.error e, contacts, fetched.2⟩
          | .ok next =>
            let rest := followRedirects hops next fetched.2
            ⟨rest.outcome, contacts ++ rest.contacts, rest.world⟩

def Outside.safeOpenDataFetch (value : String) (world : W) : Fetched W U :=
  match assertAllowedOpenDataUrl env value with
  | .error e => ⟨.error e, [], world⟩
  | .ok target => followRedirects env out (maxRedirects + 1) target world

end Allowlist

/-! ## What is reached -/

section Reached

variable {U W : Type} {env : OpenDataEnv U} {out : Outside W U} {value : String}

/-- An https address of an allowed host, on the standard port. -/
structure AllowedTarget (env : OpenDataEnv U) (target : U) : Prop where
  https : env.url.protocol target = "https:"
  host : env.url.toLowerCase (env.url.hostname target) ∈ getOpenDataAllowedHosts env
  port : env.url.port target = "" ∨ env.url.port target = "443"

theorem assertAllowedOpenDataUrl_ok {target : U} (h : assertAllowedOpenDataUrl env value = .ok target) :
    env.url.parse value = some target ∧ AllowedTarget env target := by
  unfold assertAllowedOpenDataUrl at h
  cases hparse : env.url.parse value with
  | none =>
    rw [hparse] at h
    cases h
  | some url =>
    rw [hparse] at h
    dsimp only at h
    split at h
    · cases h
    next hprotocol =>
      split at h
      · cases h
      next hhost =>
        split at h
        · cases h
        next hport =>
          obtain rfl := Except.ok.inj h
          refine ⟨rfl, not_not.mp hprotocol, not_not.mp hhost, ?_⟩
          by_contra hneither
          exact hport (not_or.mp hneither)

/-- One turn of the loop that gets as far as a request. -/
structure Hop (U : Type) where
  target : U
  addresses : List String
  response : Option OpenDataResponse

def Hop.contacts (env : OpenDataEnv U) (hop : Hop U) : List (Contact U) :=
  [.lookup (env.url.hostname hop.target) (some hop.addresses), .request hop.target hop.response]

/-- The host is allowed, and has addresses, which are all public. -/
structure Hop.Vetted (env : OpenDataEnv U) (hop : Hop U) : Prop where
  allowed : AllowedTarget env hop.target
  resolves : hop.addresses ≠ []
  isPublic : ∀ address ∈ hop.addresses, isBlockedAddress address = false

/-- The second goes where the answer of the first sends it. -/
def Hop.RedirectsTo (env : OpenDataEnv U) (hop hop' : Hop U) : Prop :=
  ∃ response location, hop.response = some response ∧ response.redirect = some location ∧
    redirectTarget env location hop.target = .ok hop'.target

/-- A fetch that may take some hops: its contacts, hop by hop, and how it ends. -/
structure Trace (env : OpenDataEnv U) (limit : Nat) (run : Fetched W U) (hops : List (Hop U)) : Prop where
  contacts : ∃ tail, run.contacts = hops.flatMap (Hop.contacts env) ++ tail ∧
    (tail = [] ∨ ∃ hostname addresses, tail = [.lookup hostname addresses] ∧ ∃ e, run.outcome = .error e)
  bounded : hops.length ≤ limit
  vetted : ∀ hop ∈ hops, hop.Vetted env
  redirects : hops.IsChain (Hop.RedirectsTo env)
  answered : ∀ response, run.outcome = .ok response →
    ∃ hop, hops.getLast? = some hop ∧ hop.response = some response ∧ response.redirect = none
  exhausted : run.outcome = .error tooManyRedirects → hops.length = limit

theorem assertPublicHost_ok {addresses : Option (List String)} (h : assertPublicHost addresses = .ok ()) :
    ∃ known, addresses = some known ∧ known ≠ [] ∧ ∀ address ∈ known, isBlockedAddress address = false := by
  cases addresses with
  | none => cases h
  | some known =>
    unfold assertPublicHost at h
    dsimp only at h
    split at h
    · cases h
    next hpublic =>
      obtain ⟨hsome, hnone⟩ := not_or.mp hpublic
      refine ⟨known, rfl, fun hempty => hsome (by rw [hempty]; rfl), fun address haddress => ?_⟩
      by_contra hblocked
      exact hnone (List.any_eq_true.mpr ⟨address, haddress, eq_true_of_ne_false hblocked⟩)

theorem assertPublicHost_ne_tooMany {addresses : Option (List String)} :
    assertPublicHost addresses ≠ .error tooManyRedirects := by
  unfold assertPublicHost
  split
  · decide
  · split
    · decide
    · exact fun h => by cases h

theorem assertAllowedOpenDataUrl_ne_tooMany : assertAllowedOpenDataUrl env value ≠ .error tooManyRedirects := by
  intro h
  unfold assertAllowedOpenDataUrl at h
  split at h
  · exact absurd (Except.error.inj h) (by decide)
  · split at h
    · exact absurd (Except.error.inj h) (by decide)
    · split at h
      · exact absurd (Except.error.inj h) (by decide)
      · split at h
        · exact absurd (Except.error.inj h) (by decide)
        · cases h

theorem redirectTarget_ne_tooMany {location : String} {target : U} :
    redirectTarget env location target ≠ .error tooManyRedirects := by
  unfold redirectTarget
  split
  · exact fun h => absurd (Except.error.inj h) (by decide)
  · exact assertAllowedOpenDataUrl_ne_tooMany

theorem redirectTarget_ok {location : String} {target next : U}
    (h : redirectTarget env location target = .ok next) : AllowedTarget env next := by
  unfold redirectTarget at h
  split at h
  · cases h
  · exact (assertAllowedOpenDataUrl_ok h).2

/-- A fetch that ends with a hop. -/
theorem Trace.single {hop : Hop U} {hops : Nat} {world : W} {outcome : Except Failure OpenDataResponse}
    (hvetted : hop.Vetted env) (herror : outcome ≠ .error tooManyRedirects)
    (hanswer : ∀ response, outcome = .ok response → hop.response = some response ∧ response.redirect = none) :
    Trace env (hops + 1) ⟨outcome, hop.contacts env, world⟩ [hop] where
  contacts := ⟨[], by simp, .inl rfl⟩
  bounded := Nat.le_add_left 1 hops
  vetted := List.forall_mem_singleton.mpr hvetted
  redirects := List.isChain_singleton hop
  answered response h := ⟨hop, rfl, hanswer response h⟩
  exhausted h := absurd h herror

/-- A hop before a fetch from where it is redirected. -/
theorem Trace.cons {hop : Hop U} {hops : Nat} {rest : Fetched W U} {turns : List (Hop U)}
    (hvetted : hop.Vetted env) (h : Trace env hops rest turns)
    (hredirects : ∀ first ∈ turns.head?, hop.RedirectsTo env first) :
    Trace env (hops + 1) ⟨rest.outcome, hop.contacts env ++ rest.contacts, rest.world⟩ (hop :: turns) where
  contacts := by
    obtain ⟨tail, hcontacts, htail⟩ := h.contacts
    refine ⟨tail, ?_, htail⟩
    rw [List.flatMap_cons, List.append_assoc, ← hcontacts]
  bounded := Nat.succ_le_succ h.bounded
  vetted := List.forall_mem_cons.mpr ⟨hvetted, h.vetted⟩
  redirects := List.isChain_cons.mpr ⟨hredirects, h.redirects⟩
  answered response hok := by
    obtain ⟨last, hlast, hresponse⟩ := h.answered response hok
    refine ⟨last, ?_, hresponse⟩
    rw [List.getLast?_cons, hlast]
    rfl
  exhausted herror := congrArg Nat.succ (h.exhausted herror)

/-- Every turn of the loop looks its host up and asks it, from an allowed target on. -/
theorem followRedirects_trace {hops : Nat} {target : U} {world : W} (htarget : AllowedTarget env target) :
    ∃ turns, Trace env hops (followRedirects env out hops target world) turns ∧
      ∀ first ∈ turns.head?, first.target = target := by
  induction hops generalizing target world with
  | zero =>
    refine ⟨[], ⟨⟨[], rfl, .inl rfl⟩, Nat.le_refl 0, by simp, List.isChain_nil, ?_, fun _ => rfl⟩, by simp⟩
    exact fun response h => by cases h
  | succ hops ih =>
    unfold followRedirects
    dsimp only
    cases hpublic : assertPublicHost (out.lookup world (env.url.hostname target)).1 with
    | error e =>
      refine ⟨[], ⟨⟨_, rfl, .inr ⟨_, _, rfl, e, rfl⟩⟩, Nat.zero_le _, by simp, List.isChain_nil, ?_, fun h => ?_⟩,
        by simp⟩
      · exact fun response h => by cases h
      · rw [Except.error.inj h] at hpublic
        exact absurd hpublic assertPublicHost_ne_tooMany
    | ok _ =>
      obtain ⟨known, hknown, hsome, hpublics⟩ := assertPublicHost_ok hpublic
      generalize out.lookup world (env.url.hostname target) = looked at hknown ⊢
      obtain ⟨addresses, world⟩ := looked
      obtain rfl : addresses = some known := hknown
      generalize out.fetch world target = fetched
      obtain ⟨answer, world⟩ := fetched
      let hop : Hop U := ⟨target, known, answer⟩
      have hvetted : hop.Vetted env := ⟨htarget, hsome, hpublics⟩
      cases answer with
      | none =>
        refine ⟨[hop], Trace.single hvetted (fun h => ?_) fun response h => ?_, by simp [hop]⟩
        · exact absurd (Except.error.inj h) (by decide)
        · cases h
      | some response =>
        dsimp only
        cases hredirect : response.redirect with
        | none =>
          refine ⟨[hop], Trace.single hvetted (fun h => ?_) fun answered h => ?_, by simp [hop]⟩
          · cases h
          · obtain rfl := Except.ok.inj h
            exact ⟨rfl, hredirect⟩
        | some location =>
          dsimp only
          cases hnext : redirectTarget env location target with
          | error e =>
            refine ⟨[hop], Trace.single hvetted (fun h => ?_) fun response h => ?_, by simp [hop]⟩
            · rw [Except.error.inj h] at hnext
              exact redirectTarget_ne_tooMany hnext
            · cases h
          | ok next =>
            obtain ⟨turns, htrace, hfirst⟩ : ∃ turns, Trace env hops
                (followRedirects env out hops next world) turns ∧ ∀ first ∈ turns.head?, first.target = next :=
              ih (redirectTarget_ok hnext)
            refine ⟨hop :: turns, Trace.cons hvetted htrace fun first hin => ?_, by simp [hop]⟩
            refine ⟨response, location, rfl, hredirect, ?_⟩
            rw [hfirst first hin]
            exact hnext

/-- **An open-data fetch reaches allowed public hosts alone**, whatever name servers and web servers answer:
its contacts are turns of a lookup and a request, at most six, each to an https address of the allowlist whose
addresses were found public just before, each after the first where the answer before it redirects to. What it
returns is the last answer, which redirects nowhere, and it gives up on redirects after six. -/
theorem safeOpenDataFetch_vetted (value : String) (world : W) :
    ∃ hops, Trace env (maxRedirects + 1) (out.safeOpenDataFetch env value world) hops ∧
      ∀ first ∈ hops.head?, env.url.parse value = some first.target := by
  unfold Outside.safeOpenDataFetch
  cases htarget : assertAllowedOpenDataUrl env value with
  | error e =>
    refine ⟨[], ⟨⟨[], rfl, .inl rfl⟩, Nat.zero_le _, by simp, List.isChain_nil, ?_, fun h => ?_⟩, by simp⟩
    · exact fun response h => by cases h
    · rw [Except.error.inj h] at htarget
      exact absurd htarget assertAllowedOpenDataUrl_ne_tooMany
  | ok target =>
    obtain ⟨hparse, hallowed⟩ := assertAllowedOpenDataUrl_ok htarget
    obtain ⟨hops, htrace, hfirst⟩ : ∃ hops, Trace env (maxRedirects + 1)
        (followRedirects env out (maxRedirects + 1) target world) hops ∧
          ∀ first ∈ hops.head?, first.target = target := followRedirects_trace hallowed
    refine ⟨hops, htrace, fun first hin => ?_⟩
    rw [hfirst first hin]
    exact hparse

/-- The setting is accepted when it is empty or the fetch gets as far as looking its host up. -/
theorem banoUrlWriteError_iff {world : W} : banoUrlWriteError env value = none ↔
    value = "" ∨ (out.safeOpenDataFetch env value world).contacts ≠ [] := by
  unfold banoUrlWriteError
  by_cases hempty : value = ""
  · simp [hempty]
  · rw [if_neg hempty, or_iff_right hempty]
    unfold Outside.safeOpenDataFetch
    cases htarget : assertAllowedOpenDataUrl env value with
    | ok target =>
      refine iff_of_true rfl ?_
      unfold followRedirects
      dsimp only
      split
      · exact List.cons_ne_nil _ _
      · split
        · exact List.cons_ne_nil _ _
        · split
          · exact List.cons_ne_nil _ _
          · split
            · exact List.cons_ne_nil _ _
            · exact List.append_ne_nil_of_left_ne_nil (List.cons_ne_nil _ _) _
    | error e =>
      refine iff_of_false ?_ (fun h => h rfl)
      split <;> simp_all

end Reached

end Unitae.Territories
