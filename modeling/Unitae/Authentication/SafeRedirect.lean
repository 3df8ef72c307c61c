import Unitae.Base.UrlReference

/-!
# Unitae — redirect targets (`shared/utils/safe-redirect.server.ts`)

Where the browser is sent after signing in. A target is resolved as a browser does, and kept when it stays
on the site; then the decoration of React Router's single fetch is taken off. `URL` is `UrlReference.resolve`
and `URLSearchParams` is `UrlEncoded.parse`, on texts without lone surrogates, which both replace. What is
sent stays on the site (`safeRedirectUrl_stays`), and `redirect_target_iff` says when a decorated page keeps
its parameters. The warning in the log is left out.
-/

namespace Unitae.Authentication

open UrlEncoded UrlReference

/-- `/\.data$/`. -/
def dataSuffix : List Char := ['.', 'd', 'a', 't', 'a']

/-- What a path ends with for which `/_\.data$/` is used. -/
def rootDataSuffix : List Char := ['/', '_', '.', 'd', 'a', 't', 'a']

def routesParam : List Char := ['_', 'r', 'o', 'u', 't', 'e', 's']

/-- The path of `normalizeRedirectPath`: only a decorated one is rewritten. -/
def stripData (rawPath : List Char) : List Char :=
  if dataSuffix.isSuffixOf rawPath then
    let stripped := if rootDataSuffix.isSuffixOf rawPath then rawPath.rdrop 6 else rawPath.rdrop 5
    let pathname :=
      if 1 < stripped.length ∧ ['/'].isSuffixOf stripped then stripped.dropLast else stripped
    if pathname = [] then ['/'] else pathname
  else rawPath

/-- The constructor drops one `?` in front. -/
def newURLSearchParams (init : List Char) : List (List Char × List Char) :=
  match init with
  | '?' :: rest => parse rest
  | _ => parse init

def normalizeRedirectPath (url : List Char) : List Char :=
  let pathname := stripData (cut '?' url).1
  match (cut '?' url).2 with
  | none => pathname
  | some rawSearch =>
    let params := newURLSearchParams rawSearch
    if params.any (·.1 == routesParam) then
      let search := serialize (params.filter (·.1 != routesParam))
      if search = [] then pathname else pathname ++ '?' :: search
    else pathname ++ '?' :: rawSearch

def sentinelOrigin : String := "https://redirect-target.invalid"

def resolveOnSitePath (originOf : List Char → Option String) (url : Option (List Char)) :
    Option (List Char) :=
  match url with
  | some ('/' :: rest) =>
    match resolve originOf sentinelOrigin ('/' :: rest) with
    | none => none
    | some resolved =>
      if resolved.origin ≠ sentinelOrigin then none
      else
        let target := resolved.pathname ++ resolved.search ++ resolved.hash
        if ['/', '/'].isPrefixOf target then none else some target
  | _ => none

def safeRedirectUrl (originOf : List Char → Option String) (url : Option (List Char))
    (fallback : List Char) : List Char :=
  match resolveOnSitePath originOf url with
  | some target => normalizeRedirectPath target
  | none => fallback

/-! ## What is sent stays on the site -/

/-- It begins with a single slash, and on every origin it is of that origin. -/
def StaysOnSite (originOf : List Char → Option String) (target : List Char) : Prop :=
  (∃ rest, target = '/' :: rest ∧ rest.head? ≠ some '/') ∧
    ∀ base, ∃ resolved, resolve originOf base target = some resolved ∧ resolved.origin = base

/-- What may follow the slash a target begins with. -/
structure OnSite (rest : List Char) : Prop where
  visible : ∀ c ∈ rest, 0x20 < c.toNat
  single : rest.head?.any isSlash = false

theorem OnSite.staysOnSite {rest : List Char} (h : OnSite rest) (originOf : List Char → Option String) :
    StaysOnSite originOf ('/' :: rest) := by
  constructor
  · refine ⟨rest, rfl, ?_⟩
    intro hslash
    have hsingle := h.single
    rw [hslash] at hsingle
    exact absurd hsingle (by decide)
  · intro base
    exact ⟨address base rest, resolve_path originOf base h.visible h.single, rfl⟩

theorem OnSite.of_isPrefix {rest start : List Char} (h : OnSite rest) (hstart : start <+: rest) :
    OnSite start where
  visible := fun c hc => h.visible c (hstart.subset hc)
  single := by
    obtain ⟨tail, rfl⟩ := hstart
    cases start with
    | nil => rfl
    | cons c start => exact h.single

theorem OnSite.append_query {start query : List Char} (h : OnSite start)
    (hquery : ∀ c ∈ query, 0x20 < c.toNat) : OnSite (start ++ '?' :: query) where
  visible := by
    intro c hc
    rcases List.mem_append.mp hc with hc | hc
    · exact h.visible c hc
    · rcases List.mem_cons.mp hc with rfl | hc
      · decide
      · exact hquery c hc
  single := by
    cases start with
    | nil => rfl
    | cons c start => exact h.single

/-- Stripping only shortens a path, and leaves its first slash. -/
theorem stripData_isPrefix (rest : List Char) : ∃ start, stripData ('/' :: rest) = '/' :: start ∧
    start <+: rest := by
  have hnonempty : ∀ path : List Char, path <+: '/' :: rest →
      ∃ start, (if path = [] then ['/'] else path) = '/' :: start ∧ start <+: rest := by
    intro path hpath
    rcases List.prefix_cons_iff.mp hpath with rfl | ⟨start, rfl, hstart⟩
    · exact ⟨[], rfl, List.nil_prefix⟩
    · exact ⟨start, if_neg (List.cons_ne_nil _ _), hstart⟩
  have hpathname : ∀ path : List Char, path <+: '/' :: rest →
      (if 1 < path.length ∧ ['/'].isSuffixOf path then path.dropLast else path) <+: '/' :: rest := by
    intro path hpath
    split
    · exact (List.dropLast_prefix path).trans hpath
    · exact hpath
  have hstripped : ∀ n, List.rdrop ('/' :: rest) n <+: '/' :: rest := fun n => List.take_prefix _ _
  unfold stripData
  split
  · apply hnonempty
    apply hpathname
    split
    · exact hstripped 6
    · exact hstripped 5
  · exact ⟨rest, rfl, List.prefix_rfl⟩

theorem normalizeRedirectPath_path {url : List Char} (h : cut '?' url = (url, none)) :
    normalizeRedirectPath url = stripData url := by
  unfold normalizeRedirectPath
  rw [h]

theorem normalizeRedirectPath_query {url rawPath rawSearch : List Char}
    (h : cut '?' url = (rawPath, some rawSearch)) : normalizeRedirectPath url =
      if (newURLSearchParams rawSearch).any (·.1 == routesParam) then
        if serialize ((newURLSearchParams rawSearch).filter (·.1 != routesParam)) = [] then stripData rawPath
        else stripData rawPath ++
          '?' :: serialize ((newURLSearchParams rawSearch).filter (·.1 != routesParam))
      else stripData rawPath ++ '?' :: rawSearch := by
  unfold normalizeRedirectPath
  rw [h]

theorem OnSite.normalized {rest : List Char} (h : OnSite rest) :
    ∃ sent, normalizeRedirectPath ('/' :: rest) = '/' :: sent ∧ OnSite sent := by
  rcases cut_cases '?' ('/' :: rest) with hcut | ⟨rawPath, rawSearch, hurl, hcut⟩
  · obtain ⟨start, hstrip, hstart⟩ := stripData_isPrefix rest
    rw [normalizeRedirectPath_path hcut, hstrip]
    exact ⟨start, rfl, h.of_isPrefix hstart⟩
  · cases rawPath with
    | nil =>
      rw [List.nil_append] at hurl
      exact absurd (List.cons.inj hurl).1 (by decide)
    | cons c path =>
      rw [List.cons_append] at hurl
      obtain ⟨rfl, rfl⟩ := List.cons.inj hurl
      obtain ⟨start, hstrip, hstart⟩ := stripData_isPrefix path
      have hsite : OnSite start := h.of_isPrefix (hstart.trans (List.prefix_append path _))
      have hsearch : ∀ d ∈ rawSearch, 0x20 < d.toNat := fun d hd =>
        h.visible d (List.mem_append.mpr (.inr (List.mem_cons_of_mem '?' hd)))
      rw [normalizeRedirectPath_query hcut, hstrip]
      split
      · split
        · exact ⟨start, rfl, hsite⟩
        · exact ⟨_, rfl, hsite.append_query fun d hd => (mem_serialize hd).1⟩
      · exact ⟨_, rfl, hsite.append_query hsearch⟩

/-- The parts of an address, put together again, hold nothing to be read as a host but a second slash. -/
theorem onSite_of_address (origin : String) (text : List Char)
    (hsingle : ¬['/', '/'].isPrefixOf ((address origin text).pathname ++ (address origin text).search ++
      (address origin text).hash) = true) :
    ∃ rest, (address origin text).pathname ++ (address origin text).search ++ (address origin text).hash =
      '/' :: rest ∧ OnSite rest := by
  have hvisible : ∀ c ∈ (address origin text).pathname ++ (address origin text).search ++
      (address origin text).hash, 0x20 < c.toNat := by
    intro c hc
    rcases List.mem_append.mp hc with hc | hc
    · rcases List.mem_append.mp hc with hc | hc
      · exact visible_pathname hc
      · exact visible_search hc
    · exact visible_hash hc
  have hmem : ∀ segment ∈ (address origin text).path, ∀ c ∈ segment, isSlash c = false :=
    fun segment hsegment c hc => (mem_pathSegments hsegment hc).slash
  have hpathname : (address origin text).pathname = (address origin text).path.flatMap ('/' :: ·) := rfl
  obtain ⟨segment, segments, hpath⟩ :
      ∃ segment segments, (address origin text).path = segment :: segments :=
    List.exists_cons_of_ne_nil (pathSegments_ne_nil _)
  rw [hpathname, hpath, List.flatMap_cons, List.cons_append, List.cons_append, List.cons_append]
    at hsingle hvisible ⊢
  refine ⟨_, rfl, fun c hc => hvisible c (List.mem_cons_of_mem '/' hc), ?_⟩
  cases segment with
  | cons c segment => exact hmem (c :: segment) (by rw [hpath]; exact List.mem_cons_self) c List.mem_cons_self
  | nil =>
    cases segments with
    | cons next segments => exact absurd rfl hsingle
    | nil =>
      rcases search_cases (address origin text) with hsearch | ⟨query, -, hsearch⟩
      · rcases hash_cases (address origin text) with hhash | ⟨fragment, -, hhash⟩
        · rw [hsearch, hhash]
          rfl
        · rw [hsearch, hhash]
          rfl
      · rw [hsearch]
        rfl

theorem onSite_of_resolveOnSitePath {originOf : List Char → Option String} {url : Option (List Char)}
    {target : List Char} (h : resolveOnSitePath originOf url = some target) :
    ∃ rest, target = '/' :: rest ∧ OnSite rest := by
  unfold resolveOnSitePath at h
  split at h
  · split at h
    · cases h
    · next resolved hresolve =>
      split at h
      · cases h
      · dsimp only at h
        split at h
        · cases h
        · next hsingle =>
          cases h
          obtain ⟨text, hresolved⟩ := eq_address_of_resolve hresolve
          rw [hresolved] at hsingle ⊢
          exact onSite_of_address resolved.origin text hsingle
  · cases h

theorem safeRedirectUrl_stays (originOf : List Char → Option String) (url : Option (List Char))
    (fallback : List Char) : safeRedirectUrl originOf url fallback = fallback ∨
      StaysOnSite originOf (safeRedirectUrl originOf url fallback) := by
  unfold safeRedirectUrl
  cases htarget : resolveOnSitePath originOf url with
  | none => exact .inl rfl
  | some target =>
    obtain ⟨rest, rfl, hrest⟩ := onSite_of_resolveOnSitePath htarget
    obtain ⟨sent, hsent, honsite⟩ := hrest.normalized
    show normalizeRedirectPath _ = _ ∨ StaysOnSite _ (normalizeRedirectPath _)
    rw [hsent]
    exact .inr (honsite.staysOnSite originOf)

/-! ## Decorated pages -/

/-- The root, or a path with a last segment that is not `_` and does not end in `.data`. -/
structure RoutePath (path : List Char) : Prop where
  rooted : path.head? = some '/'
  single : path.tail.head?.any isSlash = false
  chars : ∀ c ∈ path, 0x20 < c.toNat ∧ c ≠ '?' ∧ c ≠ '#'
  page : path = ['/'] ∨ ¬dataSuffix <:+ path ∧ ¬['/'] <:+ path ∧ ¬['/', '_'] <:+ path

/-- `decorated` is the query that the single fetch sends for `query`, with parameters `_routes` or without. -/
structure Decorates (query : List Char) (decorated : Option (List Char)) : Prop where
  chars : ∀ c ∈ decorated.getD [], 0x20 < c.toNat ∧ c ≠ '#'
  params : (parse (decorated.getD [])).filter (·.1 != routesParam) = parse query

/-- What a client-side navigation fetches. -/
def decorate (path : List Char) (query : Option (List Char)) : List Char :=
  (if path = ['/'] then rootDataSuffix else path ++ dataSuffix) ++
    match query with
    | none => []
    | some query => '?' :: query

/-- On every origin it is the address of `path` itself, but for the query, which has the parameters. -/
def ResolvesTo (originOf : List Char → Option String) (target path : List Char)
    (params : List (List Char × List Char)) : Prop :=
  ∀ base, ∃ page resolved, resolve originOf base path = some page ∧
    resolve originOf base target = some resolved ∧ resolved = { page with query := resolved.query } ∧
    resolved.origin = base ∧ resolved.searchParams = params

/-- A second `?`, and a `_routes` after it. -/
def routesBehindMark (query : Option (List Char)) : Bool :=
  match query with
  | some ('?' :: rest) => (parse rest).any (·.1 == routesParam)
  | _ => false

/-- The parameters that are sent. -/
def sentParams (query : Option (List Char)) : List (List Char × List Char) :=
  match query with
  | none => []
  | some query =>
    if (newURLSearchParams query).any (·.1 == routesParam) then
      (newURLSearchParams query).filter (·.1 != routesParam)
    else parse query

theorem RoutePath.exists_rest {path : List Char} (h : RoutePath path) : ∃ rest, path = '/' :: rest ∧
    OnSite rest ∧ '?' ∉ rest ∧ '#' ∉ rest := by
  match path, h with
  | c :: rest, h =>
    obtain rfl : c = '/' := Option.some.inj h.rooted
    exact ⟨rest, rfl, ⟨fun c hc => (h.chars c (List.mem_cons_of_mem '/' hc)).1, h.single⟩,
      fun hmem => (h.chars '?' (List.mem_cons_of_mem '/' hmem)).2.1 rfl,
      fun hmem => (h.chars '#' (List.mem_cons_of_mem '/' hmem)).2.2 rfl⟩

theorem isSuffix_append_iff {start path suffix : List Char} :
    start ++ suffix <:+ path ++ suffix ↔ start <:+ path := by
  constructor
  · rintro ⟨front, hfront⟩
    rw [← List.append_assoc] at hfront
    exact ⟨front, List.append_cancel_right hfront⟩
  · rintro ⟨front, rfl⟩
    exact ⟨front, by rw [List.append_assoc]⟩

/-- The decoration comes off. -/
theorem stripData_decorated {path : List Char} (h : RoutePath path) :
    stripData (if path = ['/'] then rootDataSuffix else path ++ dataSuffix) = path := by
  by_cases hroot : path = ['/']
  · rw [if_pos hroot, hroot]
    decide
  · obtain ⟨rest, hrest, -⟩ := h.exists_rest
    obtain ⟨-, hslash, hlast⟩ := h.page.resolve_left hroot
    have hdata : dataSuffix.isSuffixOf (path ++ dataSuffix) = true :=
      List.isSuffixOf_iff_suffix.mpr (List.suffix_append path dataSuffix)
    have hrootData : ¬rootDataSuffix.isSuffixOf (path ++ dataSuffix) = true := by
      rw [List.isSuffixOf_iff_suffix]
      exact fun hsuffix => hlast (isSuffix_append_iff.mp hsuffix)
    have hstripped : (path ++ dataSuffix).rdrop 5 = path := by
      unfold List.rdrop
      rw [List.length_append]
      exact List.take_left
    have htrailing : ¬(1 < path.length ∧ ['/'].isSuffixOf path = true) := by
      rw [List.isSuffixOf_iff_suffix]
      exact fun hboth => hslash hboth.2
    have hnonempty : path ≠ [] := by
      rw [hrest]
      exact List.cons_ne_nil '/' rest
    rw [if_neg hroot]
    unfold stripData
    rw [if_pos hdata, if_neg hrootData, hstripped]
    dsimp only
    rw [if_neg htrailing, if_neg hnonempty]

theorem not_mem_decorated {path : List Char} (h : RoutePath path) :
    '?' ∉ (if path = ['/'] then rootDataSuffix else path ++ dataSuffix) := by
  split
  · decide
  · rw [List.mem_append]
    rintro (hmem | hmem)
    · exact (h.chars '?' hmem).2.1 rfl
    · exact absurd hmem (by decide)

theorem resolvesTo_path (originOf : List Char → Option String) {path : List Char} (h : RoutePath path) :
    ResolvesTo originOf path path [] := by
  obtain ⟨rest, rfl, hsite, hquestion, hhash⟩ := h.exists_rest
  intro base
  have hresolve := resolve_path originOf base hsite.visible hsite.single
  rw [address_path base hquestion hhash] at hresolve
  exact ⟨_, _, hresolve, hresolve, rfl, rfl, rfl⟩

theorem resolvesTo_query (originOf : List Char → Option String) {path query : List Char}
    (h : RoutePath path) (hquery : ∀ c ∈ query, 0x20 < c.toNat ∧ c ≠ '#') :
    ResolvesTo originOf (path ++ '?' :: query) path (parse query) := by
  obtain ⟨rest, rfl, hsite, hquestion, hhash⟩ := h.exists_rest
  intro base
  have hpage := resolve_path originOf base hsite.visible hsite.single
  have hwhole := hsite.append_query fun c hc => (hquery c hc).1
  have htarget := resolve_path originOf base hwhole.visible hwhole.single
  rw [address_path base hquestion hhash] at hpage
  rw [address_query base hquestion hhash fun hmem => (hquery '#' hmem).2 rfl] at htarget
  exact ⟨_, _, hpage, htarget, rfl, rfl, parse_percentEncode keepsForms query⟩

theorem ResolvesTo.params_eq {originOf : List Char → Option String} {target path : List Char}
    {params params' : List (List Char × List Char)} (h : ResolvesTo originOf target path params)
    (h' : ResolvesTo originOf target path params') : params = params' := by
  obtain ⟨-, resolved, -, hresolve, -, -, hparams⟩ := h sentinelOrigin
  obtain ⟨-, resolved', -, hresolve', -, -, hparams'⟩ := h' sentinelOrigin
  obtain rfl : resolved = resolved' := Option.some.inj (hresolve.symm.trans hresolve')
  exact hparams.symm.trans hparams'

/-- A path as `URL.pathname` writes it is the pathname that comes out. -/
theorem ResolvesTo.pathname_eq {originOf : List Char → Option String} {target path : List Char}
    {params : List (List Char × List Char)} (h : ResolvesTo originOf target path params)
    (hpath : RoutePath path) (hwritten : (pathSegments path.tail).flatMap ('/' :: ·) = path)
    (base : String) :
    ∃ resolved, resolve originOf base target = some resolved ∧ resolved.pathname = path := by
  obtain ⟨page, resolved, hpage, hresolved, heq, -, -⟩ := h base
  obtain ⟨rest, rfl, hsite, hquestion, hhash⟩ := hpath.exists_rest
  rw [resolve_path originOf base hsite.visible hsite.single, address_path base hquestion hhash] at hpage
  refine ⟨resolved, hresolved, ?_⟩
  rw [heq, ← Option.some.inj hpage]
  exact hwritten

/-- What becomes of a decorated page, whatever its query. -/
theorem resolvesTo_decorated (originOf : List Char → Option String) {path : List Char}
    {query : Option (List Char)} (h : RoutePath path)
    (hquery : ∀ c ∈ query.getD [], 0x20 < c.toNat ∧ c ≠ '#') :
    ResolvesTo originOf (normalizeRedirectPath (decorate path query)) path (sentParams query) := by
  unfold decorate
  cases query with
  | none =>
    dsimp only
    rw [List.append_nil, normalizeRedirectPath_path (cut_of_not_mem (not_mem_decorated h)),
      stripData_decorated h]
    exact resolvesTo_path originOf h
  | some query =>
    rw [normalizeRedirectPath_query (cut_append (not_mem_decorated h) query), stripData_decorated h]
    unfold sentParams
    dsimp only
    split
    · have hparse := parse_serialize ((newURLSearchParams query).filter (·.1 != routesParam))
      split
      · next hnone =>
        rw [hnone] at hparse
        rw [← hparse]
        exact resolvesTo_path originOf h
      · have hchars : ∀ c ∈ serialize ((newURLSearchParams query).filter (·.1 != routesParam)),
            0x20 < c.toNat ∧ c ≠ '#' := fun c hc => ⟨(mem_serialize hc).1, (mem_serialize hc).2.1⟩
        have hsent := resolvesTo_query originOf h hchars
        rw [hparse] at hsent
        exact hsent
    · exact resolvesTo_query originOf h hquery

theorem newURLSearchParams_eq_parse {query : List Char} (h : query.head? ≠ some '?') :
    newURLSearchParams query = parse query := by
  unfold newURLSearchParams
  split
  · exact absurd rfl h
  · rfl

theorem routesBehindMark_eq_false {query : List Char} (h : query.head? ≠ some '?') :
    routesBehindMark (some query) = false := by
  unfold routesBehindMark
  split
  · next heq =>
    cases heq
    exact absurd rfl h
  · rfl

theorem filter_routes_of_not_any {params : List (List Char × List Char)}
    (h : params.any (·.1 == routesParam) = false) : params.filter (·.1 != routesParam) = params := by
  rw [List.filter_eq_self]
  intro pair hpair
  rw [List.any_eq_false] at h
  rw [bne_iff_ne]
  exact fun heq => h pair hpair (beq_iff_eq.mpr heq)

/-- The constructor's `?` costs a parameter its first character, or goes with the parameter. -/
theorem filter_question_ne {name value : List Char} {params rest : List (List Char × List Char)}
    (h : params = (name, value) :: rest ∨ params = rest) :
    params.filter (·.1 != routesParam) ≠ (('?' :: name, value) :: rest).filter (·.1 != routesParam) := by
  have hkeep : ('?' :: name != routesParam) = true := by
    rw [bne_iff_ne]
    exact fun heq => absurd (List.cons.inj heq).1 (by decide)
  have hlonger : rest.filter (·.1 != routesParam) ≠
      ('?' :: name, value) :: rest.filter (·.1 != routesParam) := by
    intro heq
    have hlength := congrArg List.length heq
    rw [List.length_cons] at hlength
    omega
  have hwhole : (('?' :: name, value) :: rest).filter (·.1 != routesParam) =
      ('?' :: name, value) :: rest.filter (·.1 != routesParam) := List.filter_cons_of_pos hkeep
  rw [hwhole]
  rcases h with rfl | rfl
  · by_cases hname : (name != routesParam) = true
    · have hkept : ((name, value) :: rest).filter (·.1 != routesParam) =
          (name, value) :: rest.filter (·.1 != routesParam) := List.filter_cons_of_pos hname
      rw [hkept]
      intro heq
      have hpair := (List.cons.inj heq).1
      have hlength := congrArg (fun pair => pair.1.length) hpair
      simp only [List.length_cons] at hlength
      omega
    · have hdropped : ((name, value) :: rest).filter (·.1 != routesParam) =
          rest.filter (·.1 != routesParam) := List.filter_cons_of_neg hname
      rw [hdropped]
      exact hlonger
  · exact hlonger

theorem sentParams_eq_iff {query : List Char} {decorated : Option (List Char)}
    (h : Decorates query decorated) : sentParams decorated = parse query ↔
      routesBehindMark decorated = false := by
  have hparams := h.params
  rw [← hparams]
  cases decorated with
  | none => exact ⟨fun _ => rfl, fun _ => rfl⟩
  | some text =>
    show (if (newURLSearchParams text).any (·.1 == routesParam) then
      (newURLSearchParams text).filter (·.1 != routesParam) else parse text) =
        (parse text).filter (·.1 != routesParam) ↔ _
    by_cases hmark : text.head? = some '?'
    · match text, hmark with
      | c :: rest, hmark =>
        obtain rfl : c = '?' := Option.some.inj hmark
        obtain ⟨name, value, tail, hwhole, hrest⟩ := parse_question rest
        show (if (parse rest).any (·.1 == routesParam) then _ else _) = _ ↔
          (parse rest).any (·.1 == routesParam) = false
        show (if (parse rest).any (·.1 == routesParam) then (parse rest).filter (·.1 != routesParam)
          else parse ('?' :: rest)) = _ ↔ _
        rw [hwhole]
        cases hany : (parse rest).any (·.1 == routesParam) with
        | true =>
          -- `_routes` is found without the `?`, and the rest is written again.
          rw [if_pos rfl]
          exact ⟨fun heq => absurd heq (filter_question_ne hrest),
            fun hfalse => absurd hfalse (by decide)⟩
        | false =>
          have htail : ((('?' :: name, value) :: tail).any (·.1 == routesParam)) = false := by
            rw [List.any_eq_false] at hany ⊢
            intro pair hpair
            rcases List.mem_cons.mp hpair with rfl | hpair
            · rw [beq_iff_eq]
              exact fun heq => absurd (List.cons.inj heq).1 (by decide)
            · apply hany pair
              rcases hrest with hrest | hrest
              · rw [hrest]
                exact List.mem_cons_of_mem _ hpair
              · rw [hrest]
                exact hpair
          rw [if_neg Bool.false_ne_true, filter_routes_of_not_any htail]
          exact ⟨fun _ => rfl, fun _ => rfl⟩
    · rw [newURLSearchParams_eq_parse hmark, routesBehindMark_eq_false hmark]
      cases hany : (parse text).any (·.1 == routesParam) with
      | true =>
        rw [if_pos rfl]
        exact ⟨fun _ => rfl, fun _ => rfl⟩
      | false =>
        rw [if_neg Bool.false_ne_true, filter_routes_of_not_any hany]
        exact ⟨fun _ => rfl, fun _ => rfl⟩

/-! ## The query as the client sends it -/

/-- Without `_routes`, as it is. -/
theorem decorates_self {query : List Char} (hchars : ∀ c ∈ query, 0x20 < c.toNat ∧ c ≠ '#')
    (hroutes : (parse query).any (·.1 == routesParam) = false) : Decorates query (some query) where
  chars := hchars
  params := filter_routes_of_not_any hroutes

/-- `searchParams.set('_routes', ids)` writes all parameters again. -/
theorem decorates_set {query : List Char} (hroutes : (parse query).any (·.1 == routesParam) = false)
    (ids : List Char) : Decorates query (some (serialize (parse query ++ [(routesParam, ids)]))) where
  chars := fun _ hc => ⟨(mem_serialize hc).1, (mem_serialize hc).2.1⟩
  params := by
    show (parse (serialize _)).filter _ = _
    rw [parse_serialize, List.filter_append, filter_routes_of_not_any hroutes,
      show [(routesParam, ids)].filter (·.1 != routesParam) = [] from rfl, List.append_nil]

/-- So only a query sent as it is can hide a `_routes`. -/
theorem routesBehindMark_serialize (params : List (List Char × List Char)) :
    routesBehindMark (some (serialize params)) = false := by
  apply routesBehindMark_eq_false
  intro hhead
  exact (mem_serialize (List.mem_of_mem_head? hhead)).2.2 rfl

/-- **What is sent stays on the site, and a decorated page keeps its parameters** exactly when no `_routes`
stands behind a second `?`: there the parameters are written again without that `?`. -/
theorem redirect_target_iff (originOf : List Char → Option String) {path query : List Char}
    {decorated : Option (List Char)} (hpath : RoutePath path) (hquery : Decorates query decorated) :
    ((∀ url fallback, safeRedirectUrl originOf url fallback = fallback ∨
        StaysOnSite originOf (safeRedirectUrl originOf url fallback)) ∧
      ResolvesTo originOf (normalizeRedirectPath (decorate path decorated)) path (parse query)) ↔
      routesBehindMark decorated = false := by
  have hsent := resolvesTo_decorated originOf hpath hquery.chars
  rw [← sentParams_eq_iff hquery]
  constructor
  · intro h
    exact hsent.params_eq h.2
  · intro heq
    rw [← heq]
    exact ⟨safeRedirectUrl_stays originOf, hsent⟩

theorem forall_mem_of_all {p : Char → Prop} [DecidablePred p] {text : List Char}
    (h : text.all (fun c => decide (p c)) = true) : ∀ c ∈ text, p c :=
  fun c hc => of_decide_eq_true (List.all_eq_true.mp h c hc)

theorem programs_redirect :
    normalizeRedirectPath "/programs.data?from=2026-09-01&_routes=root".toList =
        "/programs?from=2026-09-01".toList ∧
      ResolvesTo (fun _ => none)
        (normalizeRedirectPath (decorate "/programs".toList
          (some (serialize (parse "from=2026-09-01".toList ++ [(routesParam, "root".toList)])))))
        "/programs".toList (parse "from=2026-09-01".toList) := by
  have hpath : RoutePath "/programs".toList :=
    ⟨by decide, by decide, forall_mem_of_all (by decide), .inr (by decide)⟩
  have hquery := @decorates_set "from=2026-09-01".toList (by decide +kernel) "root".toList
  exact ⟨by decide +kernel, ((redirect_target_iff _ hpath hquery).mpr (routesBehindMark_serialize _)).2⟩

/-- `/p??_routes=1` has the parameter `?_routes`, and the page it leads to after signing in has none. -/
theorem marked_routes_lost :
    RoutePath "/p".toList ∧ Decorates "?_routes=1".toList (some "?_routes=1".toList) ∧
      parse "?_routes=1".toList = [("?_routes".toList, "1".toList)] ∧
      normalizeRedirectPath "/p.data??_routes=1".toList = "/p".toList ∧
      ∀ originOf, ¬ResolvesTo originOf
        (normalizeRedirectPath (decorate "/p".toList (some "?_routes=1".toList))) "/p".toList
        (parse "?_routes=1".toList) := by
  have hpath : RoutePath "/p".toList :=
    ⟨by decide, by decide, forall_mem_of_all (by decide), .inr (by decide)⟩
  have hquery : Decorates "?_routes=1".toList (some "?_routes=1".toList) :=
    decorates_self (forall_mem_of_all (by decide)) (by decide +kernel)
  refine ⟨hpath, hquery, by decide +kernel, by decide +kernel, ?_⟩
  intro originOf hresolves
  have hsent := resolvesTo_decorated originOf hpath hquery.chars
  exact absurd (hsent.params_eq hresolves) (by decide +kernel)

end Unitae.Authentication
