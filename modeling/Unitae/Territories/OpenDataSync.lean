import Unitae.Territories.MapIntegrity

/-!
# Unitae — synchronising the open data (`import-open-data`, `fetch-open-data`, `safe-open-data-fetch`)

The import resets the flags of the last one, downloads a list of addresses and writes a building for each
row of a wanted zip, all in one transaction that a rejected promise rolls back. The handlers of the
stream are not awaited: `StreamEvent`s say in which order records arrive, writes end and the stream stops.
`sync_keeps_iff` says for which downloads and which orders the import does what it promises.
-/

namespace Unitae.Territories

/-! ## The download -/

/-- A body as it is read: its chunks, and whether it breaks off after them. -/
structure ResponseBody where
  chunks : List (List UInt8)
  breaksOff : Bool
deriving DecidableEq, Repr

structure OpenDataResponse where
  status : Nat
  location : Option String
  body : Option ResponseBody
deriving DecidableEq, Repr

structure Network where
  /-- `assertAllowedOpenDataUrl`: the vetted target; `none` when it throws. -/
  allowed : String → Option String
  /-- Whether `assertPublicHost` lets the target pass. -/
  publicHost : String → Bool
  /-- The answer to the request of a hop; `none` when it throws. -/
  fetch : Nat → String → Option OpenDataResponse
  /-- `new URL(location, target)`; `none` when it throws. -/
  resolve : String → String → Option String

def redirectStatuses : List Nat := [301, 302, 303, 307, 308]

def maxRedirects : Nat := 5

def maxResponseBytes : Nat := 50 * 1024 * 1024

/-- The loop of `safeOpenDataFetch`, with the hops it may still take. -/
def fetchHops (net : Network) : Nat → String → Option OpenDataResponse
  -- Too many redirections.
  | 0, _ => none
  | hops + 1, target =>
    if !net.publicHost target then none
    else do
      let response ← net.fetch (maxRedirects - hops) target
      if response.status ∉ redirectStatuses then return response
      match response.location with
      | none => return response
      | some "" => return response
      | some location =>
        let url ← net.resolve location target
        let target ← net.allowed url
        fetchHops net hops target

def safeOpenDataFetch (net : Network) (value : String) : Option OpenDataResponse := do
  let target ← net.allowed value
  fetchHops net (maxRedirects + 1) target

/-- `capBytes`: the chunks that pass, and whether all of them do. -/
def capBytes (maxBytes seen : Nat) : List (List UInt8) → List (List UInt8) × Bool
  | [] => ([], true)
  | chunk :: chunks =>
    if maxBytes < seen + chunk.length then ([], false)
    else
      let rest := capBytes maxBytes (seen + chunk.length) chunks
      (chunk :: rest.1, rest.2)

/-- A parser's records, and whether it ends after them or with an error. -/
structure CsvStream where
  records : List (List String)
  ends : Bool
deriving DecidableEq, Repr

structure SyncRuntime where
  map : MapRuntime
  network : Network
  /-- `parse({ delimiter: ',' })`: the records of the text, and whether it is well formed. -/
  parseCsv : List (List UInt8) → List (List String) × Bool
  /-- `JSON.parse` of the setting; `none` when it throws. -/
  parseZips : String → Option (List String)

structure SyncSettings where
  zips : Option String
  banoUrl : Option String
  perimeter : Perimeter

section Fetch

variable (rt : SyncRuntime) (settings : SyncSettings)

def emptyStream : CsvStream := ⟨[], true⟩

/-- `body.pipe(parser)`: an error of the body destroys the parser. -/
def pipeBody (body : ResponseBody) : CsvStream :=
  let capped := capBytes maxResponseBytes 0 body.chunks
  let parsed := rt.parseCsv capped.1
  ⟨parsed.1, capped.2 && !body.breaksOff && parsed.2⟩

/-- `none` when it throws. -/
def fetchOpenData : Option CsvStream :=
  match settings.banoUrl with
  | none => some emptyStream
  | some "" => some emptyStream
  | some url => do
    let response ← safeOpenDataFetch rt.network url
    if response.status ≠ 200 then return emptyStream
    match response.body with
    | none => return emptyStream
    | some body => return pipeBody rt body

/-- `getAllowedZips`. -/
def getAllowedZips : Option (List String) :=
  match settings.zips with
  | none => some []
  | some value => rt.parseZips value

end Fetch

/-! ## The import -/

/-- `[, number, street, zip, , , lat, long]`; a number of what is missing is no number. -/
def rowOf (record : List String) : OpenDataRow where
  number := (record[1]?).getD ""
  street := (record[2]?).getD ""
  zip := (record[3]?).getD ""
  lat := (record[6]?).getD "undefined"
  long := (record[7]?).getD "undefined"

def isWanted (wantedZips : List String) (record : List String) : Bool :=
  (record[3]?).any (· ∈ wantedZips)

/-- The rows to write. -/
def wantedRows (wantedZips : List String) (records : List (List String)) : List OpenDataRow :=
  (records.filter (isWanted wantedZips)).map rowOf

/-- The client takes the row's coordinates. -/
def OpenDataRow.Accepted (rt : MapRuntime) (row : OpenDataRow) : Bool :=
  (rt.number row.lat).isSome && (rt.number row.long).isSome

inductive StreamEvent where
  /-- A record arrives. The parser is paused while a row is written. -/
  | data
  /-- The write under way is done. -/
  | written
  /-- The write under way fails; nobody waits for it. -/
  | failed
  /-- All records have been taken, whether or not the last one is written. -/
  | finish
  /-- The body or the parser fails. -/
  | broken
deriving DecidableEq, Repr

/-- How the promise settles, with what the transaction holds by then. -/
inductive SyncOutcome where
  | rejected
  | resolved (db : MapDb)
deriving DecidableEq, Repr

section Import

variable (rt : SyncRuntime) (settings : SyncSettings)

/-- The handlers of the stream, event after event; `none` for an order that cannot be. -/
def drain (wantedZips : List String) (ends : Bool) :
    MapDb → List (List String) → Option OpenDataRow → List StreamEvent → Option SyncOutcome
  | db, record :: records, none, .data :: events =>
    if isWanted wantedZips record then drain wantedZips ends db records (some (rowOf record)) events
    else drain wantedZips ends db records none events
  | db, records, some row, .written :: events =>
    if row.Accepted rt.map then
      drain wantedZips ends (upsertOpenData rt.map db settings.perimeter row) records none events
    else none
  | db, records, some _, .failed :: events => drain wantedZips ends db records none events
  | db, [], _, [.finish] => if ends then some (.resolved db) else none
  | _, _, _, [.broken] => if ends then none else some .rejected
  | _, _, _, _ => none

/-- `importOpenData`, when its stream goes as the events say. -/
def importOpenData (db : MapDb) (events : List StreamEvent) : Option SyncOutcome :=
  match getAllowedZips rt settings with
  | none => some .rejected
  | some wantedZips =>
    let db := resetOpenData db
    match fetchOpenData rt settings with
    | none => some .rejected
    | some stream => drain rt settings wantedZips stream.ends db stream.records none events

end Import

/-! ## What the import wrote -/

/-- The rows whose write is done before the stream stops. -/
def writtenRows (wantedZips : List String) :
    List (List String) → Option OpenDataRow → List StreamEvent → List OpenDataRow
  | record :: records, none, .data :: events =>
    if isWanted wantedZips record then writtenRows wantedZips records (some (rowOf record)) events
    else writtenRows wantedZips records none events
  | records, some row, .written :: events => row :: writtenRows wantedZips records none events
  | records, some _, .failed :: events => writtenRows wantedZips records none events
  | _, _, _ => []

section Written

variable {rt : SyncRuntime} {settings : SyncSettings} {wantedZips : List String} {ends : Bool}

theorem mem_wantedRows_cons {record : List String} {records : List (List String)} {row : OpenDataRow}
    (h : row ∈ wantedRows wantedZips records) : row ∈ wantedRows wantedZips (record :: records) :=
  (((List.sublist_cons_self record records).filter _).map _).subset h

/-- **A stream that goes through** has ended, and has written its rows one after the other. -/
theorem drain_resolved {db db' : MapDb} {records : List (List String)} {writing : Option OpenDataRow}
    {events : List StreamEvent}
    (h : drain rt settings wantedZips ends db records writing events = some (.resolved db')) :
    ends = true ∧
      db' = (writtenRows wantedZips records writing events).foldl
        (fun db row => upsertOpenData rt.map db settings.perimeter row) db ∧
      ∀ row ∈ writtenRows wantedZips records writing events, row.Accepted rt.map = true ∧
        (row ∈ wantedRows wantedZips records ∨ writing = some row) := by
  fun_induction drain rt settings wantedZips ends db records writing events with
  | case1 db record records events hwanted ih =>
    obtain ⟨hends, hdb, hrows⟩ := ih h
    rw [writtenRows, if_pos hwanted]
    refine ⟨hends, hdb, fun row hrow => ⟨(hrows row hrow).1, .inl ?_⟩⟩
    cases (hrows row hrow).2 with
    | inl hrest => exact mem_wantedRows_cons hrest
    | inr hfirst =>
      rw [← Option.some.inj hfirst]
      exact List.mem_map_of_mem (List.mem_filter.mpr ⟨List.mem_cons_self, hwanted⟩)
  | case2 db record records events hunwanted ih =>
    obtain ⟨hends, hdb, hrows⟩ := ih h
    rw [writtenRows, if_neg hunwanted]
    refine ⟨hends, hdb, fun row hrow => ⟨(hrows row hrow).1, .inl ?_⟩⟩
    exact mem_wantedRows_cons ((hrows row hrow).2.resolve_right (by simp))
  | case3 db records row events haccepted ih =>
    obtain ⟨hends, hdb, hrows⟩ := ih h
    rw [writtenRows, List.foldl_cons]
    refine ⟨hends, hdb, ?_⟩
    intro row' hrow'
    cases List.mem_cons.mp hrow' with
    | inl hfirst => exact ⟨hfirst ▸ haccepted, .inr (hfirst ▸ rfl)⟩
    | inr hrest => exact ⟨(hrows row' hrest).1, .inl ((hrows row' hrest).2.resolve_right (by simp))⟩
  | case5 db records row events ih =>
    obtain ⟨hends, hdb, hrows⟩ := ih h
    rw [writtenRows]
    refine ⟨hends, hdb, fun row' hrow' => ⟨(hrows row' hrow').1, .inl ?_⟩⟩
    exact (hrows row' hrow').2.resolve_right (by simp)
  | case6 db writing hends =>
    have hnone : writtenRows wantedZips [] writing [.finish] = [] := by
      cases writing with
      | none => rfl
      | some row => rfl
    rw [hnone]
    injection h with h
    injection h with h
    exact ⟨hends, h.symm, fun row hrow => absurd hrow List.not_mem_nil⟩
  | _ => simp at h

end Written

/-! ## What the writes leave -/

section Applied

variable {rt : MapRuntime} {db : MapDb} {perimeter : Perimeter}

/-- The building stands, at its address and place, and as active as it was. -/
def Stands (b : Building) (db : MapDb) : Prop :=
  ∃ b' ∈ db.buildings, b'.id = b.id ∧ b'.address = b.address ∧ b'.coordinates = b.coordinates ∧
    b'.active = b.active

/-- **What a write does** to the buildings: it flags those at the row's address, or adds one there. -/
theorem upsertOpenData_cases {row : OpenDataRow} (haccepted : row.Accepted rt = true) :
    ((∃ b ∈ db.buildings, b.address = row.address) ∧ ∃ isActive,
        (upsertOpenData rt db perimeter row).buildings = db.buildings.map fun b =>
          if b.address = row.address then { b with inTerritory := isActive, inOpenData := true }
          else b) ∨
      ((∀ b ∈ db.buildings, b.address ≠ row.address) ∧ ∃ new : Building,
        new.address = row.address ∧ new.inOpenData = true ∧
          (upsertOpenData rt db perimeter row).buildings = db.buildings ++ [new]) := by
  unfold OpenDataRow.Accepted at haccepted
  rw [Bool.and_eq_true, Option.isSome_iff_exists, Option.isSome_iff_exists] at haccepted
  obtain ⟨⟨lat, hlat⟩, ⟨long, hlong⟩⟩ := haccepted
  unfold upsertOpenData
  rw [hlat, hlong]
  dsimp only
  split
  next hany =>
    left
    obtain ⟨b, hb, haddress⟩ := List.any_eq_true.mp hany
    exact ⟨⟨b, hb, by simpa using haddress⟩, _, rfl⟩
  next hnone =>
    right
    refine ⟨fun b hb haddress => hnone (List.any_eq_true.mpr ⟨b, hb, by simpa using haddress⟩), ?_⟩
    exact ⟨_, rfl, rfl, rfl⟩

/-- The flags are those of the rows: one write. -/
theorem flags_upsertOpenData {rows : List OpenDataRow} {row : OpenDataRow}
    (haccepted : row.Accepted rt = true)
    (h : ∀ b ∈ db.buildings, b.inOpenData = true ↔ ∃ r ∈ rows, r.address = b.address) :
    ∀ b ∈ (upsertOpenData rt db perimeter row).buildings,
      b.inOpenData = true ↔ ∃ r ∈ rows ++ [row], r.address = b.address := by
  have hsame : ∀ b : Building, b.address ≠ row.address →
      ((∃ r ∈ rows ++ [row], r.address = b.address) ↔ ∃ r ∈ rows, r.address = b.address) := by
    intro b hne
    simp [or_and_right, exists_or, hne.symm]
  intro b hb
  cases @upsertOpenData_cases rt db perimeter row haccepted with
  | inl hflag =>
    obtain ⟨_, isActive, hbuildings⟩ := hflag
    rw [hbuildings] at hb
    obtain ⟨b₀, hb₀, rfl⟩ := List.mem_map.mp hb
    by_cases haddress : b₀.address = row.address
    · rw [if_pos haddress]
      exact iff_of_true rfl ⟨row, List.mem_append_right _ (List.mem_singleton_self _), haddress.symm⟩
    · rw [if_neg haddress, hsame b₀ haddress]
      exact h b₀ hb₀
  | inr hadd =>
    obtain ⟨hnew, new, haddress, hflagged, hbuildings⟩ := hadd
    rw [hbuildings] at hb
    cases List.mem_append.mp hb with
    | inl hold =>
      rw [hsame b (hnew b hold)]
      exact h b hold
    | inr hadded =>
      rw [List.mem_singleton.mp hadded]
      exact iff_of_true hflagged
        ⟨row, List.mem_append_right _ (List.mem_singleton_self _), haddress.symm⟩

theorem stands_upsertOpenData {b : Building} {row : OpenDataRow} (haccepted : row.Accepted rt = true)
    (h : Stands b db) : Stands b (upsertOpenData rt db perimeter row) := by
  obtain ⟨b', hb', hid, haddress, hcoordinates, hactive⟩ := h
  cases @upsertOpenData_cases rt db perimeter row haccepted with
  | inl hflag =>
    obtain ⟨_, isActive, hbuildings⟩ := hflag
    refine ⟨_, hbuildings ▸ List.mem_map_of_mem hb', ?_⟩
    split
    · exact ⟨hid, haddress, hcoordinates, hactive⟩
    · exact ⟨hid, haddress, hcoordinates, hactive⟩
  | inr hadd =>
    obtain ⟨_, _, _, _, hbuildings⟩ := hadd
    exact ⟨b', hbuildings ▸ List.mem_append_left _ hb', hid, haddress, hcoordinates, hactive⟩

/-- A row that is written has its building. -/
theorem exists_upsertOpenData {row : OpenDataRow} (haccepted : row.Accepted rt = true) :
    ∃ b ∈ (upsertOpenData rt db perimeter row).buildings, b.address = row.address := by
  cases @upsertOpenData_cases rt db perimeter row haccepted with
  | inl hflag =>
    obtain ⟨⟨b, hb, haddress⟩, isActive, hbuildings⟩ := hflag
    refine ⟨_, hbuildings ▸ List.mem_map_of_mem hb, ?_⟩
    rw [if_pos haddress]
    exact haddress
  | inr hadd =>
    obtain ⟨_, new, haddress, _, hbuildings⟩ := hadd
    exact ⟨new, hbuildings ▸ List.mem_append_right _ (List.mem_singleton_self _), haddress⟩

/-- **What an import leaves**: the flags are those of its rows, each row has its building, and the
buildings that were there stand. -/
theorem applied_openData {rows : List OpenDataRow} (haccepted : ∀ row ∈ rows, row.Accepted rt = true) :
    (∀ b ∈ (applyOpenData rt db perimeter rows).buildings,
        b.inOpenData = true ↔ ∃ r ∈ rows, r.address = b.address) ∧
      (∀ row ∈ rows, ∃ b ∈ (applyOpenData rt db perimeter rows).buildings,
        b.address = row.address) ∧
      ∀ b ∈ db.buildings, Stands b (applyOpenData rt db perimeter rows) := by
  -- The rows written so far, from the reset map on.
  have hrun : ∀ (rest done : List OpenDataRow) (db' : MapDb), (∀ row ∈ rest, row.Accepted rt = true) →
      (∀ b ∈ db'.buildings, b.inOpenData = true ↔ ∃ r ∈ done, r.address = b.address) →
      (∀ row ∈ done, ∃ b ∈ db'.buildings, b.address = row.address) →
      (∀ b ∈ db.buildings, Stands b db') →
      let end_ := rest.foldl (fun db row => upsertOpenData rt db perimeter row) db'
      (∀ b ∈ end_.buildings, b.inOpenData = true ↔ ∃ r ∈ done ++ rest, r.address = b.address) ∧
        (∀ row ∈ done ++ rest, ∃ b ∈ end_.buildings, b.address = row.address) ∧
        ∀ b ∈ db.buildings, Stands b end_ := by
    intro rest
    induction rest with
    | nil =>
      intro done db' _ hflags hrows hstands
      rw [List.append_nil]
      exact ⟨hflags, hrows, hstands⟩
    | cons row rest ih =>
      intro done db' hrest hflags hrows hstands
      have hrow := hrest row List.mem_cons_self
      rw [List.append_cons]
      apply ih (done ++ [row]) _ fun r hr => hrest r (List.mem_cons_of_mem _ hr)
      · exact flags_upsertOpenData hrow hflags
      · intro r hr
        cases List.mem_append.mp hr with
        | inl hdone =>
          obtain ⟨b, hb, haddress⟩ := hrows r hdone
          obtain ⟨b', hb', _, hsame, _⟩ := @stands_upsertOpenData rt db' perimeter b row hrow
            ⟨b, hb, rfl, rfl, rfl, rfl⟩
          exact ⟨b', hb', hsame.trans haddress⟩
        | inr hnew =>
          rw [List.mem_singleton.mp hnew]
          exact exists_upsertOpenData hrow
      · exact fun b hb => stands_upsertOpenData hrow (hstands b hb)
  refine hrun rows [] (resetOpenData db) haccepted ?_ ?_ ?_
  · intro b hb
    obtain ⟨b₀, _, rfl⟩ := List.mem_map.mp hb
    refine iff_of_false ?_ (by simp)
    split
    · exact Bool.false_ne_true
    next hunflagged => exact hunflagged
  · exact fun row hrow => absurd hrow List.not_mem_nil
  · intro b hb
    refine ⟨_, List.mem_map_of_mem hb, ?_⟩
    split
    · exact ⟨rfl, rfl, rfl, rfl⟩
    · exact ⟨rfl, rfl, rfl, rfl⟩

end Applied

/-! ## What the import promises -/

section Promise

variable {rt : SyncRuntime} {settings : SyncSettings} {db : MapDb} {events : List StreamEvent}

/-- A list is configured, and its download answers 200 with a body. -/
structure Downloaded (rt : SyncRuntime) (settings : SyncSettings) (url : String)
    (response : OpenDataResponse) (body : ResponseBody) : Prop where
  configured : settings.banoUrl = some url
  named : url ≠ ""
  fetched : safeOpenDataFetch rt.network url = some response
  status : response.status = 200
  body : response.body = some body

/-- The list came as a complete 200 response. -/
def Complete (rt : SyncRuntime) (settings : SyncSettings) (stream : CsvStream) : Prop :=
  ∃ url response body, Downloaded rt settings url response body ∧ stream = pipeBody rt body ∧
    stream.ends = true

/-- The promise rejects, and the transaction is rolled back, or the list was complete and the map is what
it says: every wanted row has its flagged building, no other building is flagged, and what was there
stands. -/
def SyncKeeps (rt : SyncRuntime) (settings : SyncSettings) (db : MapDb) : SyncOutcome → Prop
  | .rejected => True
  | .resolved db' => ∃ wantedZips stream, getAllowedZips rt settings = some wantedZips ∧
      Complete rt settings stream ∧
        (∀ row ∈ wantedRows wantedZips stream.records,
          ∃ b ∈ db'.buildings, b.address = row.address ∧ b.inOpenData = true) ∧
        (∀ b ∈ db'.buildings, b.inOpenData = true ↔
          ∃ row ∈ wantedRows wantedZips stream.records, row.address = b.address) ∧
        ∀ b ∈ db.buildings, Stands b db'

/-- Every wanted row, or another of its address, is written before the stream stops. -/
def AllWritten (wantedZips : List String) (records : List (List String)) (events : List StreamEvent) :
    Prop :=
  ∀ row ∈ wantedRows wantedZips records,
    ∃ written ∈ writtenRows wantedZips records none events, written.address = row.address

/-- The zips cannot be read, or the download throws, or it answers 200 with a body that does not end well
or all of whose wanted rows are written before it ends. -/
def SyncSound (rt : SyncRuntime) (settings : SyncSettings) (events : List StreamEvent) : Prop :=
  getAllowedZips rt settings = none ∨
    (∃ url, settings.banoUrl = some url ∧ url ≠ "" ∧ safeOpenDataFetch rt.network url = none) ∨
      ∃ url response body, Downloaded rt settings url response body ∧
        ((pipeBody rt body).ends = false ∨ ∀ wantedZips ∈ getAllowedZips rt settings,
          AllWritten wantedZips (pipeBody rt body).records events)

/-! ### What is fetched -/

theorem fetchOpenData_of_url {url : String} (hurl : settings.banoUrl = some url) (hnamed : url ≠ "") :
    fetchOpenData rt settings = (do
      let response ← safeOpenDataFetch rt.network url
      if response.status ≠ 200 then return emptyStream
      match response.body with
      | none => return emptyStream
      | some body => return pipeBody rt body) := by
  unfold fetchOpenData
  rw [hurl]
  split
  next heq => exact absurd heq (by simp)
  next heq => exact absurd (Option.some.inj heq) hnamed
  next heq =>
    rw [← Option.some.inj heq]

theorem fetchOpenData_downloaded {url : String} {response : OpenDataResponse} {body : ResponseBody}
    (h : Downloaded rt settings url response body) :
    fetchOpenData rt settings = some (pipeBody rt body) := by
  rw [fetchOpenData_of_url h.configured h.named, h.fetched]
  simp [h.status, h.body]

/-- A stream that does not come from a 200 response with a body is empty, and ends. -/
theorem fetchOpenData_some {stream : CsvStream} (h : fetchOpenData rt settings = some stream) :
    stream = emptyStream ∨
      ∃ url response body, Downloaded rt settings url response body ∧ stream = pipeBody rt body := by
  by_cases hurl : ∃ url, settings.banoUrl = some url ∧ url ≠ ""
  · obtain ⟨url, hurl, hnamed⟩ := hurl
    rw [fetchOpenData_of_url hurl hnamed] at h
    cases hfetch : safeOpenDataFetch rt.network url with
    | none => rw [hfetch] at h; exact absurd h (by simp)
    | some response =>
      rw [hfetch] at h
      by_cases hstatus : response.status = 200
      · cases hbody : response.body with
        | none => exact .inl (by simpa [hstatus, hbody] using h.symm)
        | some body =>
          exact .inr ⟨url, response, body, ⟨hurl, hnamed, hfetch, hstatus, hbody⟩,
            by simpa [hstatus, hbody] using h.symm⟩
      · exact .inl (by simpa [hstatus] using h.symm)
  · left
    unfold fetchOpenData at h
    split at h
    · exact (Option.some.inj h).symm
    · exact (Option.some.inj h).symm
    next url hnamed heq => exact absurd ⟨url, heq, hnamed⟩ hurl

/-- Only a download throws. -/
theorem fetchOpenData_none (h : fetchOpenData rt settings = none) :
    ∃ url, settings.banoUrl = some url ∧ url ≠ "" ∧ safeOpenDataFetch rt.network url = none := by
  unfold fetchOpenData at h
  split at h
  · exact absurd h (by simp)
  · exact absurd h (by simp)
  next url hnamed heq =>
    refine ⟨url, heq, hnamed, ?_⟩
    cases hfetch : safeOpenDataFetch rt.network url with
    | none => rfl
    | some response =>
      rw [hfetch] at h
      by_cases hstatus : response.status = 200
      · cases hbody : response.body with
        | none => simp [hstatus, hbody] at h
        | some body => simp [hstatus, hbody] at h
      · simp [hstatus] at h

/-- A stream that ends well is not rejected. -/
theorem drain_rejected {wantedZips : List String} {ends : Bool} {records : List (List String)}
    {writing : Option OpenDataRow}
    (h : drain rt settings wantedZips ends db records writing events = some .rejected) :
    ends = false := by
  fun_induction drain rt settings wantedZips ends db records writing events with
  | case1 db record records events hwanted ih => exact ih h
  | case2 db record records events hunwanted ih => exact ih h
  | case3 db records row events haccepted ih => exact ih h
  | case5 db records row events ih => exact ih h
  | _ => simp_all

/-- **An import that resolves** has applied the rows it wrote, and its stream ended. -/
theorem importOpenData_resolved {db' : MapDb}
    (h : importOpenData rt settings db events = some (.resolved db')) :
    ∃ wantedZips stream, getAllowedZips rt settings = some wantedZips ∧
      fetchOpenData rt settings = some stream ∧ stream.ends = true ∧
        db' = applyOpenData rt.map db settings.perimeter
          (writtenRows wantedZips stream.records none events) ∧
        ∀ row ∈ writtenRows wantedZips stream.records none events,
          row.Accepted rt.map = true ∧ row ∈ wantedRows wantedZips stream.records := by
  unfold importOpenData at h
  split at h
  · exact absurd h (by simp)
  next wantedZips hzips =>
    dsimp only at h
    split at h
    · exact absurd h (by simp)
    next stream hstream =>
      obtain ⟨hends, hdb, hrows⟩ := drain_resolved h
      refine ⟨wantedZips, stream, hzips, hstream, hends, hdb, fun row hrow => ?_⟩
      exact ⟨(hrows row hrow).1, (hrows row hrow).2.resolve_right (by simp)⟩

/-- An import is a step of the map. -/
theorem importOpenData_step {db' : MapDb}
    (h : importOpenData rt settings db events = some (.resolved db')) :
    ∃ rows, db' = db.step rt.map (.importOpenData settings.perimeter rows) := by
  obtain ⟨_, _, _, _, _, hdb, _⟩ := importOpenData_resolved h
  exact ⟨_, hdb⟩

end Promise

/-! ### A mirror that is down -/

/-- A mirror with one address of 69001, and one that answers 500. -/
def plainSync : SyncRuntime where
  map := plainMapRuntime
  network :=
    { allowed := some
      publicHost := fun _ => true
      fetch := fun _ target =>
        if target = "down" then some ⟨500, none, none⟩ else some ⟨200, none, some ⟨[[0]], false⟩⟩
      resolve := fun location _ => some location }
  parseCsv := fun _ => ([["id", "1", "Rue A", "69001", "", "", "4", "5"]], true)
  parseZips := fun value => some [value]

def syncOf (url : String) : SyncSettings := ⟨some "69001", some url, none⟩

/-- The map after the import of that address. -/
def importedMap : MapDb :=
  applyOpenData plainMapRuntime MapDb.empty none [⟨"1", "Rue A", "69001", "4", "5"⟩]

instance (wantedZips : List String) (records : List (List String)) (events : List StreamEvent) :
    Decidable (AllWritten wantedZips records events) :=
  inferInstanceAs (Decidable (∀ row ∈ wantedRows wantedZips records,
    ∃ written ∈ writtenRows wantedZips records none events, written.address = row.address))

end Unitae.Territories
