import Unitae.Board.Versions
import Unitae.Settings.Archive

/-!
# Unitae — importing the display board (`import-board.server.ts`)

A record names its files by the keys of the congregation it was taken from. The importer stores each file that
the archive holds under a key of the target and writes that key. What it writes for a file that the
archive does not hold decides whether a row of one congregation can name a file of another:
`import_contained_iff`.
-/

namespace Unitae.Settings

open Board

/-! ## Records -/

structure BoardDocumentRecord where
  id : Int
  title : String
  uri : Option String
  thumbnailUri : Option String
  sectionId : Int
  order : Option Int
  type : Option String
  visibleFrom : Option String
  visibleUntil : Option String
  isHighlighted : Bool
deriving DecidableEq, Repr

structure BoardDocumentVersionRecord where
  id : Int
  documentId : Int
  uri : String
  thumbnailUri : Option String
  versionNumber : Int
  uploadedById : Option Int
deriving DecidableEq, Repr

/-- What the two importers read of the archive; `files` are the names of its entries. -/
structure BoardArchive where
  documents : List BoardDocumentRecord
  versions : List BoardDocumentVersionRecord
  files : List String
deriving DecidableEq, Repr

/-! ## Files -/

/-- `originalUri.split('/').pop()`. -/
def filenameOf (uri : String) : String :=
  String.ofList (uri.toList.reverse.takeWhile (· ≠ '/')).reverse

example : filenameOf "1/board/a.pdf" = "a.pdf" := by decide

/-- The key `importBoardFile` stores a file under: none without a name, or without the file. -/
def BoardArchive.importedKey (zip : BoardArchive) (congregationId : Nat) (originalUri : String) :
    Option String :=
  let filename := filenameOf originalUri
  if filename = "" then none
  else if zip.files.contains ("files/board/" ++ filename) then
    some (buildStorageKey congregationId "board" filename)
  else none

def importBoardFile (zip : BoardArchive) (originalUri : String) : BoardTx (Option String) := do
  let s ← get
  match zip.importedKey s.congregationId originalUri with
  | none => return none
  | some newKey =>
    modify (·.putFile newKey)
    return some newKey

/-- A key that the record may lack; an empty one is left as it is. -/
def importOptionalFile (zip : BoardArchive) (uri : Option String) : BoardTx (Option String) :=
  if isTruthy uri then importBoardFile zip (uri.getD "") else pure uri

/-! ## Importers -/

/-- One turn of `importBoardDocuments`. -/
def importBoardDocument (rt : DateText) (zip : BoardArchive) (idMap : EntityIdMap)
    (record : BoardDocumentRecord) : BoardTx EntityIdMap :=
  match idMap.getOptional .boardSections record.sectionId with
  | none => pure idMap
  | some sectionId => do
    let newUri ← importOptionalFile zip record.uri
    let newThumbnailUri ← importOptionalFile zip record.thumbnailUri
    let visibleFrom ← Tx.check (dateOrNull rt record.visibleFrom)
    let visibleUntil ← Tx.check (dateOrNull rt record.visibleUntil)
    let s ← get
    Tx.check (Tx.refuseWhen (s.db.sectionById sectionId = none) (.database .foreignKey))
    modify (·.write (·.createDocument fun id =>
      { id := id, title := record.title, uri := newUri, thumbnailUri := newThumbnailUri,
        sectionId := sectionId, order := record.order, type := record.type,
        visibleFrom := visibleFrom, visibleUntil := visibleUntil,
        isHighlighted := record.isHighlighted }))
    return idMap.set .boardDocuments record.id s.db.nextDocumentId

def importBoardDocuments (rt : DateText) (zip : BoardArchive) (idMap : EntityIdMap) :
    BoardTx EntityIdMap :=
  zip.documents.foldlM (importBoardDocument rt zip) idMap

/-- One turn of `importBoardDocumentVersions`. A file that is not in the archive keeps the key of the record. -/
def importBoardDocumentVersion (zip : BoardArchive) (idMap : EntityIdMap)
    (record : BoardDocumentVersionRecord) : BoardTx PUnit :=
  match idMap.getOptional .boardDocuments record.documentId with
  | none => pure ()
  | some documentId => do
    let imported ← importBoardFile zip record.uri
    let newThumbnailUri ← importOptionalFile zip record.thumbnailUri
    let s ← get
    Tx.check (Tx.refuseWhen (s.db.documentById documentId = none) (.database .foreignKey))
    modify (·.write (·.createVersion fun id =>
      { id := id, documentId := documentId, uri := imported.getD record.uri,
        thumbnailUri := newThumbnailUri, versionNumber := record.versionNumber,
        uploadedById := idMap.getOptional .userAccounts record.uploadedById }))

def importBoardDocumentVersions (zip : BoardArchive) (idMap : EntityIdMap) : BoardTx PUnit :=
  zip.versions.forM (importBoardDocumentVersion zip idMap)

/-- The two steps of `runImport`, one after the other. -/
def importBoard (rt : DateText) (zip : BoardArchive) (idMap : EntityIdMap) : BoardTx EntityIdMap := do
  let idMap ← importBoardDocuments rt zip idMap
  importBoardDocumentVersions zip idMap
  return idMap

/-! ## What is asked of the new rows -/

/-- A storage key that `buildStorageKey` builds for the congregation. -/
def IsStorageKey (congregationId : Nat) (key : String) : Prop :=
  ∃ feature filename, key = buildStorageKey congregationId feature filename

/-- No key, or one of the congregation's own. -/
def OwnKey (congregationId : Nat) (key : Option String) : Prop :=
  ∀ k, key = some k → IsStorageKey congregationId k

/-- Every row that was not there before names files of its own congregation alone. -/
structure NewRowsOwn (s s' : BoardStore) : Prop where
  document : ∀ d ∈ s'.db.documents, d ∉ s.db.documents →
    OwnKey s.congregationId d.uri ∧ OwnKey s.congregationId d.thumbnailUri
  version : ∀ v ∈ s'.db.versions, v ∉ s.db.versions →
    OwnKey s.congregationId (some v.uri) ∧ OwnKey s.congregationId v.thumbnailUri

/-- The document records that become rows. -/
def EntityIdMap.ImportsDocument (m : EntityIdMap) (record : BoardDocumentRecord) : Prop :=
  m.getOptional .boardSections record.sectionId ≠ none

/-- The version records that do: those of a document that was imported, now or before. -/
def BoardArchive.ImportsVersion (zip : BoardArchive) (m : EntityIdMap)
    (record : BoardDocumentVersionRecord) : Prop :=
  m.getOptional .boardDocuments record.documentId ≠ none ∨
    ∃ d ∈ zip.documents, m.ImportsDocument d ∧ d.id = record.documentId

/-- No imported record names an empty key, and the file of each imported version is in the archive unless its
key is the congregation's own already. -/
structure BoardArchive.Contained (zip : BoardArchive) (congregationId : Nat) (m : EntityIdMap) : Prop where
  document : ∀ record ∈ zip.documents, m.ImportsDocument record →
    record.uri ≠ some "" ∧ record.thumbnailUri ≠ some ""
  version : ∀ record ∈ zip.versions, zip.ImportsVersion m record → record.thumbnailUri ≠ some "" ∧
    (zip.importedKey congregationId record.uri = none → IsStorageKey congregationId record.uri)

/-- Ids are drawn from a sequence. -/
structure Numbered (s : BoardStore) : Prop where
  document : ∀ d ∈ s.db.documents, d.id < s.db.nextDocumentId
  version : ∀ v ∈ s.db.versions, v.id < s.db.nextVersionId

/-! ## What one record becomes -/

section Files

variable {zip : BoardArchive} {s s' : BoardStore}

/-- The key `importOptionalFile` gives. -/
def BoardArchive.importedUri (zip : BoardArchive) (congregationId : Nat) (uri : Option String) :
    Option String :=
  if isTruthy uri then zip.importedKey congregationId (uri.getD "") else uri

theorem importedKey_own {congregationId : Nat} {uri key : String}
    (h : zip.importedKey congregationId uri = some key) : IsStorageKey congregationId key := by
  rw [BoardArchive.importedKey] at h
  split at h
  · cases h
  · split at h
    · exact ⟨"board", filenameOf uri, (Option.some.inj h).symm⟩
    · cases h

/-- A storage key is not empty. -/
theorem IsStorageKey.ne_empty {congregationId : Nat} (h : IsStorageKey congregationId "") : False := by
  obtain ⟨feature, filename, heq⟩ := h
  have hlen := congrArg String.length heq
  have hslash : "/".length = 1 := rfl
  simp only [buildStorageKey, String.length_append, String.length_empty] at hlen
  omega

/-- An optional key ends up the congregation's own unless it is the empty one. -/
theorem importedUri_own_iff {congregationId : Nat} {uri : Option String} :
    OwnKey congregationId (zip.importedUri congregationId uri) ↔ uri ≠ some "" := by
  rw [BoardArchive.importedUri]
  cases uri with
  | none => simp [isTruthy, OwnKey]
  | some u =>
    by_cases hu : u = ""
    · subst hu
      refine iff_of_false (fun h => ?_) (by simp)
      exact IsStorageKey.ne_empty (h "" rfl)
    · have htruthy : isTruthy (some u) = true := by simp [isTruthy, hu]
      rw [if_pos htruthy]
      exact iff_of_true (fun key hkey => importedKey_own hkey) (by simpa using hu)

theorem importBoardFile_exec (zip : BoardArchive) (uri : String) (s : BoardStore) :
    ∃ files, (importBoardFile zip uri).exec s =
      (.ok (zip.importedKey s.congregationId uri), { s with files := files }) := by
  rw [importBoardFile, Tx.exec_bind_get]
  cases hkey : zip.importedKey s.congregationId uri with
  | none => exact ⟨s.files, rfl⟩
  | some key => exact ⟨key :: s.files, rfl⟩

theorem importOptionalFile_exec (zip : BoardArchive) (uri : Option String) (s : BoardStore) :
    ∃ files, (importOptionalFile zip uri).exec s =
      (.ok (zip.importedUri s.congregationId uri), { s with files := files }) := by
  rw [importOptionalFile, BoardArchive.importedUri]
  cases htruthy : isTruthy uri with
  | false => exact ⟨s.files, rfl⟩
  | true => exact importBoardFile_exec zip (uri.getD "") s

end Files

/-! ## What one turn does -/

section Turns

variable {rt : DateText} {zip : BoardArchive} {m m' : EntityIdMap} {s s' : BoardStore}

/-- The row of a record, as far as its files go. -/
def BoardArchive.DocumentRow (zip : BoardArchive) (congregationId : Nat) (record : BoardDocumentRecord)
    (d : BoardDocument) : Prop :=
  d.uri = zip.importedUri congregationId record.uri ∧
    d.thumbnailUri = zip.importedUri congregationId record.thumbnailUri

def BoardArchive.VersionRow (zip : BoardArchive) (congregationId : Nat)
    (record : BoardDocumentVersionRecord) (v : BoardDocumentVersion) : Prop :=
  v.uri = (zip.importedKey congregationId record.uri).getD record.uri ∧
    v.thumbnailUri = zip.importedUri congregationId record.thumbnailUri

theorem importBoardDocument_skips {record : BoardDocumentRecord} (h : ¬m.ImportsDocument record) :
    (importBoardDocument rt zip m record).exec s = (.ok m, s) := by
  rw [importBoardDocument, not_not.mp h]
  rfl

/-- An imported record becomes one row, under the next id. -/
theorem importBoardDocument_adds {record : BoardDocumentRecord} (h : m.ImportsDocument record)
    (hexec : (importBoardDocument rt zip m record).exec s = (.ok m', s')) :
    ∃ d, d.id = s.db.nextDocumentId ∧ zip.DocumentRow s.congregationId record d ∧
      m' = m.set .boardDocuments record.id s.db.nextDocumentId ∧
      s'.congregationId = s.congregationId ∧ s'.db = s.db.createDocument fun _ => d := by
  obtain ⟨sectionId, hsection⟩ := Option.ne_none_iff_exists'.mp h
  rw [importBoardDocument, hsection] at hexec
  obtain ⟨newUri, s₁, huri, hexec⟩ := Tx.exec_bind_ok.mp hexec
  obtain ⟨newThumbnailUri, s₂, hthumb, hexec⟩ := Tx.exec_bind_ok.mp hexec
  obtain ⟨files, hfile⟩ := importOptionalFile_exec zip record.uri s
  obtain ⟨files', hfile'⟩ := importOptionalFile_exec zip record.thumbnailUri { s with files := files }
  rw [huri, Prod.mk.injEq, Except.ok.injEq] at hfile
  rw [hfile.2, hfile'] at hthumb
  rw [Prod.mk.injEq, Except.ok.injEq] at hthumb
  rw [← hthumb.2] at hexec
  obtain ⟨visibleFrom, -, hexec⟩ := Tx.exec_bind_check_ok.mp hexec
  obtain ⟨visibleUntil, -, hexec⟩ := Tx.exec_bind_check_ok.mp hexec
  rw [Tx.exec_bind_get] at hexec
  obtain ⟨-, -, hexec⟩ := Tx.exec_bind_check_ok.mp hexec
  rw [Tx.exec_bind_modify] at hexec
  obtain ⟨hm, hs⟩ := Tx.exec_pure_ok.mp hexec
  refine ⟨⟨s.db.nextDocumentId, record.title, newUri, newThumbnailUri, sectionId, record.order,
    record.type, visibleFrom, visibleUntil, record.isHighlighted⟩, rfl, ⟨hfile.1, hthumb.1.symm⟩,
    hm.symm, ?_, ?_⟩
  · rw [hs]
    rfl
  · rw [hs]
    rfl

theorem importBoardDocumentVersion_skips {record : BoardDocumentVersionRecord}
    (h : m.getOptional .boardDocuments record.documentId = none) :
    (importBoardDocumentVersion zip m record).exec s = (.ok (), s) := by
  rw [importBoardDocumentVersion, h]
  rfl

theorem importBoardDocumentVersion_adds {record : BoardDocumentVersionRecord}
    (h : m.getOptional .boardDocuments record.documentId ≠ none)
    (hexec : (importBoardDocumentVersion zip m record).exec s = (.ok (), s')) :
    ∃ v, v.id = s.db.nextVersionId ∧ zip.VersionRow s.congregationId record v ∧
      s'.congregationId = s.congregationId ∧ s'.db = s.db.createVersion fun _ => v := by
  obtain ⟨documentId, hdocument⟩ := Option.ne_none_iff_exists'.mp h
  rw [importBoardDocumentVersion, hdocument] at hexec
  obtain ⟨imported, s₁, huri, hexec⟩ := Tx.exec_bind_ok.mp hexec
  obtain ⟨newThumbnailUri, s₂, hthumb, hexec⟩ := Tx.exec_bind_ok.mp hexec
  obtain ⟨files, hfile⟩ := importBoardFile_exec zip record.uri s
  obtain ⟨files', hfile'⟩ := importOptionalFile_exec zip record.thumbnailUri { s with files := files }
  rw [huri, Prod.mk.injEq, Except.ok.injEq] at hfile
  rw [hfile.2, hfile'] at hthumb
  rw [Prod.mk.injEq, Except.ok.injEq] at hthumb
  rw [← hthumb.2, Tx.exec_bind_get] at hexec
  obtain ⟨-, hs⟩ := Tx.exec_check_modify_ok.mp hexec
  refine ⟨⟨s.db.nextVersionId, documentId, imported.getD record.uri, newThumbnailUri,
    record.versionNumber, m.getOptional .userAccounts record.uploadedById⟩, rfl,
    ⟨by rw [hfile.1], hthumb.1.symm⟩, ?_, ?_⟩
  · rw [hs]
    rfl
  · rw [hs]
    rfl

end Turns

/-! ## Lines and the rows they add -/

section Rows

variable {ρ α : Type} {imports : ρ → Prop} {Row : ρ → α → Prop} {records : List ρ} {added : List α}
  {record : ρ} {row : α}

/-- Each line that is imported has its row: one line more, and its row. -/
theorem exists_row_cons (h : ∀ r ∈ records, imports r → ∃ e ∈ added, Row r e) (hrow : Row record row) :
    ∀ r ∈ record :: records, imports r → ∃ e ∈ row :: added, Row r e := by
  intro r hr hr'
  rcases List.mem_cons.mp hr with rfl | hlast
  · exact ⟨row, List.mem_cons_self, hrow⟩
  · obtain ⟨e, he, herow⟩ := h r hlast hr'
    exact ⟨e, List.mem_cons_of_mem _ he, herow⟩

theorem exists_row_skip (h : ∀ r ∈ records, imports r → ∃ e ∈ added, Row r e) (hskip : ¬imports record) :
    ∀ r ∈ record :: records, imports r → ∃ e ∈ added, Row r e := by
  intro r hr hr'
  rcases List.mem_cons.mp hr with rfl | hlast
  · exact absurd hr' hskip
  · exact h r hlast hr'

theorem exists_record_skip (h : ∀ e ∈ added, ∃ r ∈ records, imports r ∧ Row r e) :
    ∀ e ∈ added, ∃ r ∈ record :: records, imports r ∧ Row r e := by
  intro e he
  obtain ⟨r, hr, hrow⟩ := h e he
  exact ⟨r, List.mem_cons_of_mem _ hr, hrow⟩

/-- Each row has its line: one line more, and its row. -/
theorem exists_record_cons (h : ∀ e ∈ added, ∃ r ∈ records, imports r ∧ Row r e) (himports : imports record)
    (hrow : Row record row) : ∀ e ∈ row :: added, ∃ r ∈ record :: records, imports r ∧ Row r e := by
  intro e he
  rcases List.mem_cons.mp he with rfl | hlast
  · exact ⟨record, List.mem_cons_self, himports, hrow⟩
  · exact exists_record_skip h e hlast

end Rows

/-! ## What a whole loop does -/

section Loops

variable {rt : DateText} {zip : BoardArchive} {m m' : EntityIdMap} {s s' : BoardStore}

/-- The rows that a list of document records adds, and the ids it maps. -/
structure DocumentsAdded (zip : BoardArchive) (records : List BoardDocumentRecord) (m m' : EntityIdMap)
    (s s' : BoardStore) (added : List BoardDocument) : Prop where
  congregationId : s'.congregationId = s.congregationId
  documents : s'.db.documents = s.db.documents ++ added
  versions : s'.db.versions = s.db.versions
  nextVersionId : s'.db.nextVersionId = s.db.nextVersionId
  later : s.db.nextDocumentId ≤ s'.db.nextDocumentId
  fresh : ∀ d ∈ added, s.db.nextDocumentId ≤ d.id
  of_record : ∀ record ∈ records, m.ImportsDocument record →
    ∃ d ∈ added, zip.DocumentRow s.congregationId record d
  to_record : ∀ d ∈ added, ∃ record ∈ records, m.ImportsDocument record ∧
    zip.DocumentRow s.congregationId record d
  sections : ∀ oldId, m'.find .boardSections oldId = m.find .boardSections oldId
  mapped : ∀ oldId, m'.find .boardDocuments oldId ≠ none ↔ m.find .boardDocuments oldId ≠ none ∨
    ∃ record ∈ records, m.ImportsDocument record ∧ record.id = oldId

theorem importBoardDocuments_adds {records : List BoardDocumentRecord}
    (h : (records.foldlM (importBoardDocument rt zip) m).exec s = (.ok m', s')) :
    ∃ added, DocumentsAdded zip records m m' s s' added := by
  induction records generalizing m s with
  | nil =>
    obtain ⟨rfl, rfl⟩ := Tx.exec_pure_ok.mp h
    exact ⟨[], rfl, by simp, rfl, rfl, Nat.le_refl _, by simp, by simp, by simp, fun _ => rfl, by simp⟩
  | cons record records ih =>
    rw [List.foldlM_cons, Tx.exec_bind_ok] at h
    obtain ⟨m₁, s₁, hturn, hrest⟩ := h
    obtain ⟨added, hadded⟩ := ih hrest
    by_cases himports : m.ImportsDocument record
    · obtain ⟨d, hid, hrow, hm₁, hcong, hdb⟩ := importBoardDocument_adds himports hturn
      have hsections : ∀ oldId, m₁.find .boardSections oldId = m.find .boardSections oldId := by
        intro oldId
        rw [hm₁]
        exact EntityIdMap.find_set_of_ne (by decide)
      have hsame : ∀ record, m₁.ImportsDocument record ↔ m.ImportsDocument record := by
        intro record
        show m₁.find .boardSections record.sectionId ≠ none ↔ m.find .boardSections record.sectionId ≠ none
        rw [hsections]
      refine ⟨d :: added, hadded.congregationId.trans hcong, ?_, ?_, ?_, ?_, ?_, ?_, ?_, ?_, ?_⟩
      · rw [hadded.documents, hdb]
        simp
      · rw [hadded.versions, hdb]
        rfl
      · rw [hadded.nextVersionId, hdb]
        rfl
      · have hlater := hadded.later
        rw [hdb, BoardDb.createDocument_nextDocumentId] at hlater
        omega
      · intro e he
        rcases List.mem_cons.mp he with rfl | hlast
        · exact Nat.le_of_eq hid.symm
        · have hfresh := hadded.fresh e hlast
          rw [hdb, BoardDb.createDocument_nextDocumentId] at hfresh
          omega
      · refine exists_row_cons (fun r hr hr' => ?_) hrow
        exact hcong ▸ hadded.of_record r hr ((hsame r).mpr hr')
      · refine exists_record_cons (fun e he => ?_) himports hrow
        obtain ⟨r, hr, hr', herow⟩ := hadded.to_record e he
        exact ⟨r, hr, (hsame r).mp hr', hcong ▸ herow⟩
      · exact fun oldId => (hadded.sections oldId).trans (hsections oldId)
      · intro oldId
        rw [hadded.mapped, hm₁, EntityIdMap.find_set]
        simp only [← hm₁, hsame, List.mem_cons, true_and]
        by_cases hold : record.id = oldId
        · rw [if_pos hold]
          exact iff_of_true (.inl (Option.some_ne_none _)) (.inr ⟨record, .inl rfl, himports, hold⟩)
        · rw [if_neg hold]
          refine or_congr_right ⟨?_, ?_⟩
          · exact fun ⟨r, hr, hr'⟩ => ⟨r, .inr hr, hr'⟩
          · rintro ⟨r, rfl | hr, hr'⟩
            · exact absurd hr'.2 hold
            · exact ⟨r, hr, hr'⟩
    · rw [importBoardDocument_skips himports, Prod.mk.injEq, Except.ok.injEq] at hturn
      obtain ⟨rfl, rfl⟩ := hturn
      refine ⟨added, { hadded with of_record := ?_, to_record := ?_, mapped := ?_ }⟩
      · exact exists_row_skip hadded.of_record himports
      · exact exists_record_skip hadded.to_record
      · intro oldId
        rw [hadded.mapped]
        refine or_congr_right ⟨?_, ?_⟩
        · exact fun ⟨r, hr, hr'⟩ => ⟨r, List.mem_cons_of_mem _ hr, hr'⟩
        · rintro ⟨r, hr, hr'⟩
          rcases List.mem_cons.mp hr with rfl | hlast
          · exact absurd hr'.1 himports
          · exact ⟨r, hlast, hr'⟩

/-- The rows that a list of version records adds. -/
structure VersionsAdded (zip : BoardArchive) (records : List BoardDocumentVersionRecord)
    (m : EntityIdMap) (s s' : BoardStore) (added : List BoardDocumentVersion) : Prop where
  congregationId : s'.congregationId = s.congregationId
  documents : s'.db.documents = s.db.documents
  versions : s'.db.versions = s.db.versions ++ added
  fresh : ∀ v ∈ added, s.db.nextVersionId ≤ v.id
  of_record : ∀ record ∈ records, m.getOptional .boardDocuments record.documentId ≠ none →
    ∃ v ∈ added, zip.VersionRow s.congregationId record v
  to_record : ∀ v ∈ added, ∃ record ∈ records,
    m.getOptional .boardDocuments record.documentId ≠ none ∧ zip.VersionRow s.congregationId record v

theorem importBoardDocumentVersions_adds {records : List BoardDocumentVersionRecord}
    (h : (records.forM (importBoardDocumentVersion zip m)).exec s = (.ok (), s')) :
    ∃ added, VersionsAdded zip records m s s' added := by
  induction records generalizing s with
  | nil =>
    obtain ⟨-, rfl⟩ := Tx.exec_pure_ok.mp h
    exact ⟨[], rfl, rfl, by simp, by simp, by simp, by simp⟩
  | cons record records ih =>
    have hturns : (importBoardDocumentVersion zip m record >>= fun _ =>
        records.forM (importBoardDocumentVersion zip m)).exec s = (.ok (), s') := h
    obtain ⟨s₁, hturn, hrest⟩ := Tx.exec_seq_ok.mp hturns
    obtain ⟨added, hadded⟩ := ih hrest
    by_cases himports : m.getOptional .boardDocuments record.documentId = none
    · rw [importBoardDocumentVersion_skips himports, Prod.mk.injEq] at hturn
      obtain ⟨-, rfl⟩ := hturn
      refine ⟨added, { hadded with of_record := ?_, to_record := ?_ }⟩
      · exact exists_row_skip hadded.of_record (not_not.mpr himports)
      · exact exists_record_skip hadded.to_record
    · obtain ⟨v, hid, hrow, hcong, hdb⟩ := importBoardDocumentVersion_adds himports hturn
      refine ⟨v :: added, hadded.congregationId.trans hcong, ?_, ?_, ?_, ?_, ?_⟩
      · rw [hadded.documents, hdb]
        rfl
      · rw [hadded.versions, hdb]
        simp
      · intro e he
        rcases List.mem_cons.mp he with rfl | hlast
        · exact Nat.le_of_eq hid.symm
        · have hfresh := hadded.fresh e hlast
          rw [hdb, BoardDb.createVersion_nextVersionId] at hfresh
          omega
      · exact exists_row_cons (hcong ▸ hadded.of_record) hrow
      · exact exists_record_cons (hcong ▸ hadded.to_record) himports hrow

end Loops

/-! ## Another congregation's files -/

section Contained

variable {rt : DateText} {zip : BoardArchive} {m m' : EntityIdMap} {s s' : BoardStore}

/-- A version row names a file of its own congregation unless the record's own key stays and is another's. -/
theorem VersionRow.own_iff {congregationId : Nat} {record : BoardDocumentVersionRecord}
    {v : BoardDocumentVersion} (hrow : zip.VersionRow congregationId record v) :
    OwnKey congregationId (some v.uri) ∧ OwnKey congregationId v.thumbnailUri ↔
      record.thumbnailUri ≠ some "" ∧
        (zip.importedKey congregationId record.uri = none → IsStorageKey congregationId record.uri) := by
  rw [hrow.2, importedUri_own_iff, and_comm, hrow.1]
  refine and_congr_right fun _ => ?_
  cases hkey : zip.importedKey congregationId record.uri with
  | none => exact ⟨fun h _ => h record.uri rfl, fun h k hk => Option.some.inj hk ▸ h rfl⟩
  | some key =>
    refine iff_of_true (fun k hk => ?_) fun hnone => absurd hnone (Option.some_ne_none key)
    rw [← Option.some.inj hk]
    exact importedKey_own hkey

/-- **An import names its own congregation's files alone** exactly when the archive holds the file of each
version it imports, or names a key of the congregation for it, and holds no empty key. -/
theorem import_contained_iff (hs : Numbered s)
    (himport : (importBoard rt zip m).exec s = (.ok m', s')) :
    NewRowsOwn s s' ↔ zip.Contained s.congregationId m := by
  obtain ⟨m₁, s₁, hdocuments, hrest⟩ := Tx.exec_bind_ok.mp himport
  obtain ⟨s₂, hversions, hlast⟩ := Tx.exec_seq_ok.mp hrest
  obtain ⟨-, rfl⟩ := Tx.exec_pure_ok.mp hlast
  obtain ⟨documents, hdocs⟩ := importBoardDocuments_adds hdocuments
  obtain ⟨versions, hvers⟩ := importBoardDocumentVersions_adds hversions
  -- the new rows are the added ones
  have hnewDocument : ∀ d, d ∈ documents → d ∉ s.db.documents := by
    intro d hd hold
    have hfresh := hdocs.fresh d hd
    have hbound := hs.document d hold
    omega
  have hnewVersion : ∀ v, v ∈ versions → v ∉ s.db.versions := by
    intro v hv hold
    have hfresh := hvers.fresh v hv
    have hbound := hs.version v hold
    rw [hdocs.nextVersionId] at hfresh
    omega
  have hdocumentRows : s'.db.documents = s.db.documents ++ documents := by
    rw [hvers.documents, hdocs.documents]
  have hversionRows : s'.db.versions = s.db.versions ++ versions := by
    rw [hvers.versions, hdocs.versions]
  have himports : ∀ record : BoardDocumentVersionRecord,
      m₁.getOptional .boardDocuments record.documentId ≠ none ↔ zip.ImportsVersion m record :=
    fun record => hdocs.mapped record.documentId
  constructor
  · intro hown
    refine ⟨fun record hrecord himported => ?_, fun record hrecord himported => ?_⟩
    · obtain ⟨d, hd, hrow⟩ := hdocs.of_record record hrecord himported
      have hkeys := hown.document d (hdocumentRows ▸ List.mem_append_right _ hd) (hnewDocument d hd)
      rw [hrow.1, hrow.2, importedUri_own_iff, importedUri_own_iff] at hkeys
      exact hkeys
    · obtain ⟨v, hv, hrow⟩ := hvers.of_record record hrecord ((himports record).mpr himported)
      rw [hdocs.congregationId] at hrow
      apply (VersionRow.own_iff hrow).mp
      exact hown.version v (hversionRows ▸ List.mem_append_right _ hv) (hnewVersion v hv)
  · intro hcontained
    refine ⟨fun d hd hnew => ?_, fun v hv hnew => ?_⟩
    · rw [hdocumentRows] at hd
      obtain ⟨record, hrecord, himported, hrow⟩ :=
        hdocs.to_record d ((List.mem_append.mp hd).resolve_left hnew)
      rw [hrow.1, hrow.2, importedUri_own_iff, importedUri_own_iff]
      exact hcontained.document record hrecord himported
    · rw [hversionRows] at hv
      obtain ⟨record, hrecord, himported, hrow⟩ :=
        hvers.to_record v ((List.mem_append.mp hv).resolve_left hnew)
      rw [hdocs.congregationId] at hrow
      apply (VersionRow.own_iff hrow).mpr
      exact hcontained.version record hrecord ((himports record).mp himported)

end Contained

/-- A runtime that reads no date. -/
def DateText.blank : DateText := ⟨fun _ => none, fun _ => ""⟩

/-- A document record without a file, of the section archived under 7. -/
def bareDocument : BoardDocumentRecord := ⟨3, "Programme", none, none, 7, none, some "pdf", none, none, false⟩

/-- The archived section is the one section of the target. -/
def oneSectionMap : EntityIdMap := EntityIdMap.empty.set .boardSections 7 1

def versionArchive (uri : String) (files : List String) : BoardArchive :=
  ⟨[bareDocument], [⟨4, 3, uri, none, 1, none⟩], files⟩

theorem oneSection_numbered : Numbered oneSection := ⟨by decide, by decide⟩

theorem import_contained_iff_archived :
    NewRowsOwn oneSection ((importBoard .blank (versionArchive "2/board/a.pdf" ["files/board/a.pdf"])
        oneSectionMap).exec oneSection).2 ↔
      (versionArchive "2/board/a.pdf" ["files/board/a.pdf"]).Contained 1 oneSectionMap :=
  @import_contained_iff .blank _ _ (oneSectionMap.set .boardDocuments 3 1) _ _ oneSection_numbered
    (by decide +kernel)

/-- A version whose file is not in the archive keeps the key it came with. -/
theorem import_reaches_other_congregation :
    ¬∀ (rt : DateText) (zip : BoardArchive) (m m' : EntityIdMap) (s s' : BoardStore), Numbered s →
      (importBoard rt zip m).exec s = (.ok m', s') → NewRowsOwn s s' := by
  intro hall
  have hown := hall .blank (versionArchive "2/board/secret.pdf" []) oneSectionMap
    (oneSectionMap.set .boardDocuments 3 1) oneSection
    ((importBoard .blank (versionArchive "2/board/secret.pdf" []) oneSectionMap).exec oneSection).2
    oneSection_numbered (by decide +kernel)
  have hkeys := hown.version ⟨1, 1, "2/board/secret.pdf", none, 1, none⟩ (by decide +kernel)
    (by decide +kernel)
  obtain ⟨feature, filename, heq⟩ := hkeys.1 _ rfl
  have hhead := congrArg (fun key => key.toList.head?) heq
  have hdigits : Nat.toDigits 10 1 = ['1'] := by decide
  simp [buildStorageKey, String.toList_append, oneSection, hdigits] at hhead

end Unitae.Settings
