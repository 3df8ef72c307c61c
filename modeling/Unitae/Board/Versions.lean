import Unitae.Base.Run
import Unitae.Base.Table
import Unitae.Board.Documents

/-!
# Unitae — whether a stored version can be opened

Each version of a document names a file, and so does the document. The services write rows and files
apart: a restored version shares its file with an older one, a deleted document takes its files with
it, and a replaced one takes the file that its history still names. `versions_openable` is about the
runs in which that last case does not arise.
-/

namespace Unitae.Board

/-! ## What is asked of the rows -/

/-- `v` is the version of the document with the highest number, and the only one. -/
structure BoardDb.Latest (db : BoardDb) (documentId : Nat) (v : BoardDocumentVersion) : Prop where
  mem : v ∈ db.versions
  documentId_eq : v.documentId = documentId
  highest : ∀ w ∈ db.versions, w.documentId = documentId → w ≠ v → w.versionNumber < v.versionNumber

/-- Every row names a stored file, and a document names the file of its last version. -/
structure BoardStore.Openable (s : BoardStore) : Prop where
  document : ∀ d ∈ s.db.documents, ∃ uri, d.uri = some uri ∧ uri ∈ s.files
  version : ∀ v ∈ s.db.versions, v.uri ∈ s.files
  current : ∀ d ∈ s.db.documents, ∃ v, s.db.Latest d.id v ∧ d.uri = some v.uri

/-- What the services keep of the rows: beside what a document shows, no file is named by the versions of two
documents, or as a thumbnail too. -/
structure BoardDb.Coherent (db : BoardDb) : Prop where
  documentIds : Keyed (·.id) db.documents
  bounded : ∀ d ∈ db.documents, d.id < db.nextDocumentId
  owned : ∀ v ∈ db.versions, ∃ d ∈ db.documents, d.id = v.documentId
  current : ∀ d ∈ db.documents, ∃ v, db.Latest d.id v ∧ d.uri = some v.uri
  apart : ∀ v ∈ db.versions, ∀ w ∈ db.versions, v.uri = w.uri → v.documentId = w.documentId
  bare : ∀ v ∈ db.versions, v.thumbnailUri = none
  pictures : ∀ d ∈ db.documents, ∀ v ∈ db.versions, d.thumbnailUri ≠ some v.uri

structure BoardStore.Sound (s : BoardStore) : Prop where
  rows : s.db.Coherent
  stored : ∀ v ∈ s.db.versions, v.uri ∈ s.files

theorem BoardStore.Sound.openable {s : BoardStore} (h : s.Sound) : s.Openable where
  document := by
    intro d hd
    obtain ⟨v, hv, huri⟩ := h.rows.current d hd
    exact ⟨v.uri, huri, h.stored v hv.mem⟩
  version := h.stored
  current := h.rows.current

/-- Nothing knows the key, as nothing does know a random one. -/
structure BoardStore.Unused (s : BoardStore) (key : String) : Prop where
  file : key ∉ s.files
  document : ∀ d ∈ s.db.documents, d.uri ≠ some key ∧ d.thumbnailUri ≠ some key
  version : ∀ v ∈ s.db.versions, v.uri ≠ key ∧ v.thumbnailUri ≠ some key

instance (s : BoardStore) (key : String) : Decidable (s.Unused key) :=
  decidable_of_iff (key ∉ s.files ∧ (∀ d ∈ s.db.documents, d.uri ≠ some key ∧ d.thumbnailUri ≠ some key) ∧
      ∀ v ∈ s.db.versions, v.uri ≠ key ∧ v.thumbnailUri ≠ some key)
    ⟨fun h => ⟨h.1, h.2.1, h.2.2⟩, fun h => ⟨h.file, h.document, h.version⟩⟩

/-- The keys `deleteDocumentFiles` deletes. -/
def fileKeys (uri thumbnailUri : Option String) : List String :=
  uri.getD "" :: if isTruthy thumbnailUri then [thumbnailUri.getD ""] else []

theorem mem_fileKeys {uri thumbnailUri : Option String} {key : String} :
    key ∈ fileKeys uri thumbnailUri ↔
      key = uri.getD "" ∨ isTruthy thumbnailUri = true ∧ some key = thumbnailUri := by
  cases thumbnailUri with
  | none => simp [fileKeys, isTruthy]
  | some t =>
    rw [fileKeys, List.mem_cons]
    split
    · rename_i htruthy
      simp [htruthy]
    · rename_i htruthy
      simp [htruthy]

/-! ## Writes that keep the rows coherent -/

namespace BoardDb

variable {db : BoardDb}

theorem documentById_mem {documentId : Nat} {d : BoardDocument}
    (h : db.documentById documentId = some d) : d ∈ db.documents ∧ d.id = documentId :=
  ⟨List.mem_of_find?_eq_some h, by simpa using List.find?_some h⟩

theorem documentById_ne_none {d : BoardDocument} (hd : d ∈ db.documents) :
    db.documentById d.id ≠ none := by
  intro hnone
  have hno := List.find?_eq_none.mp hnone d hd
  simp at hno

/-- The number `createVersionForUpload` counts up from. -/
theorem le_lastVersion {documentId : Nat} {v : BoardDocumentVersion} (hv : v ∈ db.versions)
    (hdoc : v.documentId = documentId) :
    v.versionNumber ≤ ((db.lastVersion documentId).map (·.versionNumber)).getD 0 := by
  have hmem : v ∈ db.versions.filter (·.documentId == documentId) := by simp [hv, hdoc]
  cases hlast : db.lastVersion documentId with
  | none =>
    rw [lastVersion, List.argmax_eq_none] at hlast
    rw [hlast] at hmem
    exact absurd hmem List.not_mem_nil
  | some w => exact List.le_of_mem_argmax hmem hlast

theorem mem_deleteDocuments_versions {sel : BoardDocument → Bool} {v : BoardDocumentVersion} :
    v ∈ (db.deleteDocuments sel).versions ↔
      v ∈ db.versions ∧ ∀ d ∈ db.documents, sel d = true → d.id ≠ v.documentId := by
  simp [deleteDocuments, List.mem_filter]

/-- What an upload and a restore write: the next version of a document, and its file as the document's. -/
def showVersion (documentId uploadedById : Nat) (uri : String) (db : BoardDb) : BoardDb :=
  (db.createVersion fun id => ⟨id, documentId, uri, none,
      ((db.lastVersion documentId).map (·.versionNumber)).getD 0 + 1, uploadedById⟩).updateDocuments
    (·.id == documentId) fun d => { d with uri := some uri, thumbnailUri := none }

namespace Coherent

/-- Only the documents and their versions matter. -/
theorem congr {db' : BoardDb} (h : db.Coherent) (hdocs : db'.documents = db.documents)
    (hversions : db'.versions = db.versions) (hnext : db'.nextDocumentId = db.nextDocumentId) :
    db'.Coherent where
  documentIds := hdocs ▸ h.documentIds
  bounded := by rw [hdocs, hnext]; exact h.bounded
  owned := by rw [hdocs, hversions]; exact h.owned
  current := by
    rw [hdocs]
    intro d hd
    obtain ⟨v, hv, huri⟩ := h.current d hd
    exact ⟨v, ⟨hversions ▸ hv.mem, hv.documentId_eq, hversions ▸ hv.highest⟩, huri⟩
  apart := by rw [hversions]; exact h.apart
  bare := by rw [hversions]; exact h.bare
  pictures := by rw [hdocs, hversions]; exact h.pictures

/-- A new document, and its first version. -/
theorem createDocument (h : db.Coherent) {row : Nat → BoardDocument}
    {version : Nat → BoardDocumentVersion} {uri : String} (hid : ∀ id, (row id).id = id)
    (huri : ∀ id, (row id).uri = some uri) (hthumb : ∀ id, (row id).thumbnailUri = none)
    (hversion : ∀ id, (version id).documentId = db.nextDocumentId ∧ (version id).uri = uri ∧
      (version id).thumbnailUri = none)
    (hunused : ∀ v ∈ db.versions, v.uri ≠ uri)
    (hpictures : ∀ d ∈ db.documents, d.thumbnailUri ≠ some uri) :
    ((db.createDocument row).createVersion version).Coherent := by
  have hnew : ∀ v ∈ db.versions, v.documentId ≠ db.nextDocumentId := by
    intro v hv heq
    obtain ⟨d, hd, hdid⟩ := h.owned v hv
    have := h.bounded d hd
    omega
  have hdocs : ∀ d, d ∈ ((db.createDocument row).createVersion version).documents ↔
      d ∈ db.documents ∨ d = row db.nextDocumentId := by simp
  have hversions : ∀ v, v ∈ ((db.createDocument row).createVersion version).versions ↔
      v ∈ db.versions ∨ v = version db.nextVersionId := by simp
  refine ⟨?_, ?_, ?_, ?_, ?_, ?_, ?_⟩
  · exact h.documentIds.append_next h.bounded (hid _)
  · exact lt_append_next h.bounded (hid _)
  · intro v hv
    rcases (hversions v).mp hv with hold | rfl
    · obtain ⟨d, hd, hdid⟩ := h.owned v hold
      exact ⟨d, (hdocs d).mpr (.inl hd), hdid⟩
    · exact ⟨_, (hdocs _).mpr (.inr rfl), by rw [hid, (hversion _).1]⟩
  · intro d hd
    rcases (hdocs d).mp hd with hold | rfl
    · -- the new version is of another document
      obtain ⟨v, hv, hduri⟩ := h.current d hold
      refine ⟨v, ⟨(hversions v).mpr (.inl hv.mem), hv.documentId_eq, fun w hw hdoc hne => ?_⟩, hduri⟩
      rcases (hversions w).mp hw with hwold | rfl
      · exact hv.highest w hwold hdoc hne
      · have := h.bounded d hold
        rw [(hversion _).1] at hdoc
        omega
    · refine ⟨version db.nextVersionId, ⟨(hversions _).mpr (.inr rfl), ?_, fun w hw hdoc hne => ?_⟩, ?_⟩
      · rw [hid, (hversion _).1]
      · rcases (hversions w).mp hw with hwold | rfl
        · rw [hid] at hdoc
          exact absurd hdoc (hnew w hwold)
        · exact absurd rfl hne
      · rw [huri, (hversion _).2.1]
  · intro v hv w hw heq
    rcases (hversions v).mp hv with hvold | rfl <;> rcases (hversions w).mp hw with hwold | rfl
    · exact h.apart v hvold w hwold heq
    · exact absurd (heq.trans (hversion _).2.1) (hunused v hvold)
    · exact absurd (heq.symm.trans (hversion _).2.1) (hunused w hwold)
    · rfl
  · intro v hv
    rcases (hversions v).mp hv with hold | rfl
    · exact h.bare v hold
    · exact (hversion _).2.2
  · intro d hd v hv
    rcases (hdocs d).mp hd with hold | rfl
    · rcases (hversions v).mp hv with hvold | rfl
      · exact h.pictures d hold v hvold
      · rw [(hversion _).2.1]
        exact hpictures d hold
    · rw [hthumb]
      exact fun hnone => Option.some_ne_none _ hnone.symm

/-- The next version of a document, which the document then shows. The file may be one of its own. -/
theorem showVersion (h : db.Coherent) {documentId uploadedById : Nat} {uri : String} {d₀ : BoardDocument}
    (hd₀ : db.documentById documentId = some d₀)
    (hown : ∀ v ∈ db.versions, v.uri = uri → v.documentId = documentId)
    (hpictures : ∀ d ∈ db.documents, d.thumbnailUri ≠ some uri) :
    (db.showVersion documentId uploadedById uri).Coherent := by
  rw [BoardDb.showVersion]
  obtain ⟨hmem₀, hid₀⟩ := documentById_mem hd₀
  generalize hlast : ((db.lastVersion documentId).map (·.versionNumber)).getD 0 = last
  have hle : ∀ v ∈ db.versions, v.documentId = documentId → v.versionNumber ≤ last :=
    fun v hv hdoc => hlast ▸ le_lastVersion hv hdoc
  let added : BoardDocumentVersion := ⟨db.nextVersionId, documentId, uri, none, last + 1, uploadedById⟩
  let f : BoardDocument → BoardDocument := fun d =>
    if d.id == documentId then { d with uri := some uri, thumbnailUri := none } else d
  have hfid : ∀ d, (f d).id = d.id := by
    intro d
    show (if d.id == documentId then _ else d).id = d.id
    split <;> rfl
  suffices hkept : BoardDb.Coherent { db with
      documents := db.documents.map f
      versions := db.versions ++ [added] } from hkept.congr rfl rfl rfl
  refine ⟨h.documentIds.map hfid, ?_, ?_, ?_, ?_, ?_, ?_⟩
  · intro d hd
    obtain ⟨d₁, hd₁, rfl⟩ := List.mem_map.mp hd
    rw [hfid]
    exact h.bounded d₁ hd₁
  · intro v hv
    rcases List.mem_append.mp hv with hold | hnew
    · obtain ⟨d, hd, hdid⟩ := h.owned v hold
      exact ⟨f d, List.mem_map_of_mem hd, (hfid d).trans hdid⟩
    · rw [List.mem_singleton.mp hnew]
      exact ⟨f d₀, List.mem_map_of_mem hmem₀, (hfid d₀).trans hid₀⟩
  · intro d hd
    obtain ⟨d₁, hd₁, rfl⟩ := List.mem_map.mp hd
    by_cases hsame : d₁.id = documentId
    · -- the document itself shows the version just added
      refine ⟨added, ⟨by simp, by rw [hfid, hsame], fun w hw hdoc hne => ?_⟩, by simp [f, hsame, added]⟩
      rw [hfid, hsame] at hdoc
      rcases List.mem_append.mp hw with hold | hnew
      · have := hle w hold hdoc
        show w.versionNumber < last + 1
        omega
      · exact absurd (List.mem_singleton.mp hnew) hne
    · obtain ⟨v, hv, huri⟩ := h.current d₁ hd₁
      have hf : f d₁ = d₁ := by simp [f, hsame]
      rw [hf]
      refine ⟨v, ⟨List.mem_append_left _ hv.mem, hv.documentId_eq, fun w hw hdoc hne => ?_⟩, huri⟩
      rcases List.mem_append.mp hw with hold | hnew
      · exact hv.highest w hold hdoc hne
      · rw [List.mem_singleton.mp hnew] at hdoc
        exact absurd hdoc.symm hsame
  · intro v hv w hw heq
    rcases List.mem_append.mp hv with hvold | hvnew <;> rcases List.mem_append.mp hw with hwold | hwnew
    · exact h.apart v hvold w hwold heq
    · rw [List.mem_singleton.mp hwnew] at heq ⊢
      exact hown v hvold heq
    · rw [List.mem_singleton.mp hvnew] at heq ⊢
      exact (hown w hwold heq.symm).symm
    · rw [List.mem_singleton.mp hvnew, List.mem_singleton.mp hwnew]
  · intro v hv
    rcases List.mem_append.mp hv with hold | hnew
    · exact h.bare v hold
    · rw [List.mem_singleton.mp hnew]
  · intro d hd v hv
    obtain ⟨d₁, hd₁, rfl⟩ := List.mem_map.mp hd
    by_cases hsame : d₁.id = documentId
    · simp [f, hsame]
    · have hf : f d₁ = d₁ := by simp [f, hsame]
      rw [hf]
      rcases List.mem_append.mp hv with hold | hnew
      · exact h.pictures d₁ hd₁ v hold
      · rw [List.mem_singleton.mp hnew]
        exact hpictures d₁ hd₁

/-- Documents that go take all their versions along. -/
theorem deleteDocuments (h : db.Coherent) (sel : BoardDocument → Bool) :
    (db.deleteDocuments sel).Coherent := by
  have hdocs : ∀ d, d ∈ (db.deleteDocuments sel).documents ↔ d ∈ db.documents ∧ sel d = false := by
    simp [BoardDb.deleteDocuments]
  refine ⟨h.documentIds.filter _, ?_, ?_, ?_, ?_, ?_, ?_⟩
  · exact fun d hd => h.bounded d ((hdocs d).mp hd).1
  · intro v hv
    obtain ⟨hvold, hkept⟩ := mem_deleteDocuments_versions.mp hv
    obtain ⟨d, hd, hdid⟩ := h.owned v hvold
    refine ⟨d, (hdocs d).mpr ⟨hd, ?_⟩, hdid⟩
    by_contra hsel
    exact hkept d hd (by simpa using hsel) hdid
  · intro d hd
    obtain ⟨hdold, hsel⟩ := (hdocs d).mp hd
    obtain ⟨v, hv, huri⟩ := h.current d hdold
    refine ⟨v, ⟨mem_deleteDocuments_versions.mpr ⟨hv.mem, fun d' hd' hsel' heq => ?_⟩,
      hv.documentId_eq, fun w hw => hv.highest w (mem_deleteDocuments_versions.mp hw).1⟩, huri⟩
    -- two documents of one id are the same
    rw [h.documentIds.eq_of_key hd' hdold (heq.trans hv.documentId_eq), hsel] at hsel'
    exact Bool.false_ne_true hsel'
  · intro v hv w hw
    exact h.apart v (mem_deleteDocuments_versions.mp hv).1 w (mem_deleteDocuments_versions.mp hw).1
  · exact fun v hv => h.bare v (mem_deleteDocuments_versions.mp hv).1
  · intro d hd v hv
    exact h.pictures d ((hdocs d).mp hd).1 v (mem_deleteDocuments_versions.mp hv).1

/-- A new picture of a document. -/
theorem setThumbnail (h : db.Coherent) (documentId : Nat) {key : String}
    (hunused : ∀ v ∈ db.versions, v.uri ≠ key) :
    (db.updateDocuments (·.id == documentId) fun d => { d with thumbnailUri := some key }).Coherent := by
  have hdocs : ∀ d ∈ (db.updateDocuments (·.id == documentId)
      fun d => { d with thumbnailUri := some key }).documents, ∃ d₁ ∈ db.documents, d.id = d₁.id ∧
        d.uri = d₁.uri ∧ (d.thumbnailUri = d₁.thumbnailUri ∨ d.thumbnailUri = some key) := by
    intro d hd
    obtain ⟨d₁, hd₁, rfl⟩ := List.mem_map.mp hd
    refine ⟨d₁, hd₁, ?_⟩
    split <;> simp
  refine ⟨h.documentIds.map fun d => ?_, ?_, ?_, ?_, h.apart, h.bare, ?_⟩
  · split <;> rfl
  · intro d hd
    obtain ⟨d₁, hd₁, hid, -, -⟩ := hdocs d hd
    rw [hid]
    exact h.bounded d₁ hd₁
  · intro v hv
    obtain ⟨d, hd, hdid⟩ := h.owned v hv
    refine ⟨_, List.mem_map_of_mem hd, ?_⟩
    split <;> exact hdid
  · intro d hd
    obtain ⟨d₁, hd₁, hid, huri, -⟩ := hdocs d hd
    obtain ⟨v, hv, hv'⟩ := h.current d₁ hd₁
    rw [hid, huri]
    exact ⟨v, ⟨hv.mem, hv.documentId_eq, hv.highest⟩, hv'⟩
  · intro d hd v hv
    obtain ⟨d₁, hd₁, -, -, hsame | hnew⟩ := hdocs d hd
    · rw [hsame]
      exact h.pictures d₁ hd₁ v hv
    · rw [hnew]
      exact fun heq => hunused v hv (Option.some.inj heq).symm

end Coherent

/-- What a deleted document names, no row that stays does. -/
theorem Coherent.fileKeys_unnamed (h : db.Coherent) {sel : BoardDocument → Bool} {d : BoardDocument}
    (hd : d ∈ db.documents) (hsel : sel d = true) :
    ∀ v ∈ (db.deleteDocuments sel).versions, v.uri ∉ fileKeys d.uri d.thumbnailUri := by
  intro v hv hmem
  obtain ⟨hvold, hkept⟩ := mem_deleteDocuments_versions.mp hv
  obtain ⟨last, hlast, huri⟩ := h.current d hd
  rcases mem_fileKeys.mp hmem with heq | ⟨-, heq⟩
  · rw [huri, Option.getD_some] at heq
    have hdoc := h.apart v hvold last hlast.mem heq
    exact hkept d hd hsel (hdoc.trans hlast.documentId_eq).symm
  · exact h.pictures d hd v hvold heq.symm

end BoardDb

/-! ## What each service does -/

section Services

variable {s : BoardStore}

@[simp] theorem deleteFile_exec (uri : Option String) (s : BoardStore) :
    (deleteFile uri).exec s = (.ok (), s.removeFiles [uri.getD ""]) := rfl

theorem removeFiles_append (keys keys' : List String) (s : BoardStore) :
    (s.removeFiles keys).removeFiles keys' = s.removeFiles (keys ++ keys') := by
  have hfiles : (s.removeFiles keys).files.filter (fun f => !keys'.contains f) =
      s.files.filter fun f => !(keys ++ keys').contains f := by
    rw [BoardStore.removeFiles_files, List.filter_filter]
    refine List.filter_congr fun f _ => ?_
    simp [List.contains_eq_mem, Bool.and_comm]
  exact congrArg (fun files => { s with files := files }) hfiles

theorem removeFiles_nil (s : BoardStore) : s.removeFiles [] = s := by
  simp [BoardStore.removeFiles]

theorem deleteDocumentFiles_exec (uri thumbnailUri : Option String) (s : BoardStore) :
    (deleteDocumentFiles uri thumbnailUri).exec s =
      (.ok (), s.removeFiles (fileKeys uri thumbnailUri)) := by
  rw [deleteDocumentFiles, Tx.exec_bind, deleteFile_exec, fileKeys]
  cases isTruthy thumbnailUri with
  | false => rfl
  | true =>
    show (deleteFile thumbnailUri).exec (s.removeFiles [uri.getD ""]) = _
    rw [deleteFile_exec, removeFiles_append]
    rfl

/-- A loop that only deletes files. -/
theorem forM_deletes {α : Type} {f : α → BoardTx PUnit} {keys : α → List String}
    (hf : ∀ a s, (f a).exec s = (.ok (), s.removeFiles (keys a))) (xs : List α) (s : BoardStore) :
    (xs.forM f).exec s = (.ok (), s.removeFiles (xs.flatMap keys)) := by
  induction xs generalizing s with
  | nil =>
    rw [List.flatMap_nil, removeFiles_nil]
    rfl
  | cons x xs ih =>
    show (f x >>= fun _ => xs.forM f).exec s = _
    rw [Tx.exec_bind, hf]
    show (xs.forM f).exec (s.removeFiles (keys x)) = _
    rw [ih, removeFiles_append, List.flatMap_cons]

theorem createVersionForUpload_none {documentId uploadedById : Nat} {uri : String}
    {thumbnailUri : Option String} (h : s.db.documentById documentId = none) :
    (createVersionForUpload documentId uploadedById uri thumbnailUri).exec s =
      (.error (.database .foreignKey), s) := by
  rw [createVersionForUpload, Tx.exec_bind_get, Tx.exec_bind, Tx.exec_check, Tx.refuseWhen, if_pos h]

theorem createVersionForUpload_some {documentId uploadedById : Nat} {uri : String}
    {thumbnailUri : Option String} (h : s.db.documentById documentId ≠ none) :
    (createVersionForUpload documentId uploadedById uri thumbnailUri).exec s =
      (.ok (), s.write (·.createVersion fun id => ⟨id, documentId, uri, thumbnailUri,
        ((s.db.lastVersion documentId).map (·.versionNumber)).getD 0 + 1, uploadedById⟩)) := by
  rw [createVersionForUpload, Tx.exec_bind_get, Tx.exec_bind, Tx.exec_check, Tx.refuseWhen, if_neg h]
  rfl

theorem updateBoardDocumentRow_none {documentId : Nat} {data : BoardDocument → BoardDocument}
    (h : s.db.documentById documentId = none) :
    (updateBoardDocumentRow documentId data).exec s = (.error (.database .recordNotFound), s) := by
  rw [updateBoardDocumentRow, Tx.exec_bind_get, Tx.exec_bind, Tx.exec_check, Tx.refuseWhen, if_pos h]

theorem updateBoardDocumentRow_some {documentId : Nat} {data : BoardDocument → BoardDocument}
    (h : s.db.documentById documentId ≠ none) :
    (updateBoardDocumentRow documentId data).exec s =
      (.ok (), s.write (·.updateDocuments (·.id == documentId) data)) := by
  rw [updateBoardDocumentRow, Tx.exec_bind_get, Tx.exec_bind, Tx.exec_check, Tx.refuseWhen, if_neg h]
  rfl

/-- Both writes of an upload or a restore. -/
theorem showVersion_exec {α : Type} {documentId uploadedById : Nat} {uri : String}
    (h : s.db.documentById documentId ≠ none) (rest : BoardTx α) :
    (createVersionForUpload documentId uploadedById uri none >>= fun _ =>
        updateBoardDocumentRow documentId
          (fun d => { d with uri := some uri, thumbnailUri := none }) >>= fun _ => rest).exec s =
      rest.exec (s.write (·.showVersion documentId uploadedById uri)) := by
  rw [Tx.exec_bind, createVersionForUpload_some h]
  show (updateBoardDocumentRow documentId _ >>= fun _ => rest).exec (s.write fun db =>
    db.createVersion _) = _
  have hstill : (s.write fun db => db.createVersion fun id => ⟨id, documentId, uri, none,
      ((s.db.lastVersion documentId).map (·.versionNumber)).getD 0 + 1,
      uploadedById⟩).db.documentById documentId ≠ none := h
  rw [Tx.exec_bind, updateBoardDocumentRow_some hstill]
  rfl

/-- `saveFile`, then the rest. -/
theorem saveFile_exec {α : Type} (uuid : String) (rest : String → BoardTx α) (s : BoardStore) :
    (saveFile uuid >>= rest).exec s =
      (rest (getStorageKey s.congregationId uuid)).exec
        (s.putFile (getStorageKey s.congregationId uuid)) := by
  rw [saveFile, Tx.exec_bind]
  rfl

theorem replaceDocumentFile_refused {documentId uploadedById : Nat} {file : File} {uuid : String}
    {e : AppError} (h : validateBoardFile file = .error e) :
    (replaceDocumentFile documentId uploadedById file uuid).exec s = (.ok (.refused e), s) := by
  rw [replaceDocumentFile, h]
  rfl

theorem replaceDocumentFile_none {documentId uploadedById : Nat} {file : File} {uuid : String}
    (h : validateBoardFile file = .ok ()) (hdoc : s.db.documentById documentId = none) :
    (replaceDocumentFile documentId uploadedById file uuid).exec s =
      (.error (.database .foreignKey), s.putFile (getStorageKey s.congregationId uuid)) := by
  have hstill : (s.putFile (getStorageKey s.congregationId uuid)).db.documentById documentId = none :=
    hdoc
  rw [replaceDocumentFile, h]
  show (saveFile uuid >>= _).exec s = _
  rw [saveFile_exec, Tx.exec_bind_get, Tx.exec_bind, createVersionForUpload_none hstill]

theorem replaceDocumentFile_some {documentId uploadedById : Nat} {file : File} {uuid : String}
    {d : BoardDocument} (h : validateBoardFile file = .ok ())
    (hdoc : s.db.documentById documentId = some d) :
    (replaceDocumentFile documentId uploadedById file uuid).exec s =
      (.ok (.replaced (getStorageKey s.congregationId uuid) none),
        ((s.putFile (getStorageKey s.congregationId uuid)).write
          (·.showVersion documentId uploadedById (getStorageKey s.congregationId uuid))).removeFiles
            (if isTruthy d.uri then fileKeys d.uri d.thumbnailUri else [])) := by
  have hstill : (s.putFile (getStorageKey s.congregationId uuid)).db.documentById documentId = some d :=
    hdoc
  rw [replaceDocumentFile, h]
  show (saveFile uuid >>= _).exec s = _
  rw [saveFile_exec, Tx.exec_bind_get, showVersion_exec (by simp [hdoc]), hstill, cleanUpOldFiles]
  cases isTruthy d.uri with
  | false =>
    rw [if_neg Bool.false_ne_true, if_neg Bool.false_ne_true, removeFiles_nil]
    rfl
  | true =>
    rw [if_pos rfl, if_pos rfl, Tx.exec_bind, deleteDocumentFiles_exec]
    rfl

theorem restoreDocumentVersion_none {documentId versionId uploadedById : Nat}
    (h : ∀ v, s.db.versionById versionId = some v → v.documentId ≠ documentId) :
    (restoreDocumentVersion documentId versionId uploadedById).exec s = (.ok none, s) := by
  rw [restoreDocumentVersion, Tx.exec_bind_get]
  cases hversion : s.db.versionById versionId with
  | none => rfl
  | some v => simp only [h v hversion, ne_eq, not_false_eq_true, if_true, Tx.exec_pure]

theorem restoreDocumentVersion_some {documentId versionId uploadedById : Nat}
    {v : BoardDocumentVersion} {d : BoardDocument} (h : s.db.versionById versionId = some v)
    (hown : v.documentId = documentId) (hdoc : s.db.documentById documentId = some d) :
    (restoreDocumentVersion documentId versionId uploadedById).exec s =
      (.ok (some v.versionNumber), (s.write (·.showVersion documentId uploadedById v.uri)).removeFiles
        (if isTruthy d.thumbnailUri then [d.thumbnailUri.getD ""] else [])) := by
  rw [restoreDocumentVersion, Tx.exec_bind_get, h]
  show Tx.exec (if v.documentId ≠ documentId then _ else _) s = _
  rw [if_neg (not_not_intro hown), showVersion_exec (by simp [hdoc]), hdoc, cleanUpOldThumbnail]
  cases isTruthy d.thumbnailUri with
  | false =>
    rw [if_neg Bool.false_ne_true, if_neg Bool.false_ne_true, removeFiles_nil]
    rfl
  | true =>
    rw [if_pos rfl, if_pos rfl, Tx.exec_bind, deleteFile_exec]
    rfl

/-- The keys of all the versions of a document. -/
def BoardDb.versionKeys (db : BoardDb) (documentId : Nat) : List String :=
  (db.versions.filter (·.documentId == documentId)).flatMap fun v => fileKeys (some v.uri) v.thumbnailUri

theorem deleteAllVersionFiles_exec (documentId : Nat) (s : BoardStore) :
    (deleteAllVersionFiles documentId).exec s = (.ok (), s.removeFiles (s.db.versionKeys documentId)) := by
  rw [deleteAllVersionFiles, Tx.exec_bind_get]
  exact forM_deletes (fun v s => deleteDocumentFiles_exec (some v.uri) v.thumbnailUri s) _ s

theorem deleteBoardDocument_none {documentId : Nat} (h : s.db.documentById documentId = none) :
    (deleteBoardDocument documentId).exec s = (.error (.database .recordNotFound), s) := by
  rw [deleteBoardDocument, Tx.exec_bind_get, h]
  rfl

theorem deleteBoardDocument_some {documentId : Nat} {d : BoardDocument}
    (h : s.db.documentById documentId = some d) :
    (deleteBoardDocument documentId).exec s =
      (.ok (d.id, d.title), (s.write (·.deleteDocuments (·.id == documentId))).removeFiles
        (fileKeys d.uri d.thumbnailUri)) := by
  rw [deleteBoardDocument, Tx.exec_bind_get, h]
  show (deleteDocumentFiles d.uri d.thumbnailUri >>= fun _ => pure _).exec _ = _
  rw [Tx.exec_bind, deleteDocumentFiles_exec]
  rfl

/-- The keys of some documents. -/
def documentKeys (documents : List BoardDocument) : List String :=
  documents.flatMap fun d => fileKeys d.uri d.thumbnailUri

theorem forM_documentFiles (documents : List BoardDocument) (s : BoardStore) :
    (documents.forM fun d => deleteDocumentFiles d.uri d.thumbnailUri).exec s =
      (.ok (), s.removeFiles (documentKeys documents)) :=
  forM_deletes (fun d s => deleteDocumentFiles_exec d.uri d.thumbnailUri s) documents s

theorem bulkDeleteDocuments_exec (pdfIds : List Nat) (s : BoardStore) :
    ∃ count, (bulkDeleteDocuments pdfIds).exec s =
      (.ok count, (s.write (·.deleteDocuments fun d => pdfIds.contains d.id)).removeFiles
        (documentKeys (s.db.documents.filter fun d => pdfIds.contains d.id))) := by
  rw [bulkDeleteDocuments]
  cases hpdf : pdfIds.isEmpty with
  | true =>
    -- nothing is selected, and nothing is done
    refine ⟨0, ?_⟩
    rw [if_pos rfl, List.isEmpty_iff.mp hpdf]
    simp [BoardStore.write, BoardStore.removeFiles, BoardDb.deleteDocuments, documentKeys]
  | false =>
    refine ⟨(s.db.documents.filter fun d => pdfIds.contains d.id).length, ?_⟩
    rw [if_neg Bool.false_ne_true, Tx.exec_bind_get, Tx.exec_bind_modify]
    show Tx.exec (List.forM _ _ >>= fun _ => _) _ = _
    rw [Tx.exec_bind, forM_documentFiles]
    rfl

theorem bulkDeleteDynamicDocuments_exec (dynIds : List Nat) (s : BoardStore) :
    ∃ count, (bulkDeleteDynamicDocuments dynIds).exec s =
      (.ok count, s.write (·.deleteDynamicDocuments fun d => dynIds.contains d.id)) := by
  rw [bulkDeleteDynamicDocuments]
  cases hdyn : dynIds.isEmpty with
  | true =>
    refine ⟨0, ?_⟩
    rw [if_pos rfl, List.isEmpty_iff.mp hdyn]
    simp [BoardStore.write, BoardDb.deleteDynamicDocuments]
  | false => exact ⟨_, rfl⟩

theorem bulkDeleteBoardItems_exec (pdfIds dynIds : List Nat) (s : BoardStore) :
    ∃ counts, (bulkDeleteBoardItems pdfIds dynIds).exec s =
      (.ok counts, ((s.write (·.deleteDocuments fun d => pdfIds.contains d.id)).removeFiles
        (documentKeys (s.db.documents.filter fun d => pdfIds.contains d.id))).write
          (·.deleteDynamicDocuments fun d => dynIds.contains d.id)) := by
  obtain ⟨pdfDeleted, hpdf⟩ := bulkDeleteDocuments_exec pdfIds s
  obtain ⟨dynDeleted, hdyn⟩ := bulkDeleteDynamicDocuments_exec dynIds
    ((s.write (·.deleteDocuments fun d => pdfIds.contains d.id)).removeFiles
      (documentKeys (s.db.documents.filter fun d => pdfIds.contains d.id)))
  refine ⟨(pdfDeleted, dynDeleted), ?_⟩
  rw [bulkDeleteBoardItems, Tx.exec_bind, hpdf]
  show Tx.exec (bulkDeleteDynamicDocuments dynIds >>= fun _ => _) _ = _
  rw [Tx.exec_bind, hdyn]
  rfl

theorem deleteSectionWithFiles_refused {sectionId : Nat}
    (h : s.db.sectionById sectionId = none ∨
      s.db.dynamicDocuments.any (·.sectionId == sectionId) = true) :
    ∃ e, (deleteSectionWithFiles sectionId).exec s =
      (.error e, s.write (·.deleteDocuments (·.sectionId == sectionId))) := by
  rw [deleteSectionWithFiles, Tx.exec_bind_get, Tx.exec_bind_modify]
  cases hrow : s.db.sectionById sectionId with
  | none => exact ⟨_, rfl⟩
  | some row =>
    have hdynamic : s.db.dynamicDocuments.any (·.sectionId == sectionId) = true :=
      h.resolve_left (by simp [hrow])
    refine ⟨.database .foreignKey, ?_⟩
    show Tx.exec (Tx.check _ >>= fun _ => _) _ = _
    rw [Tx.exec_bind, Tx.exec_check, Tx.refuseWhen, if_pos hdynamic]

theorem deleteSectionWithFiles_done {sectionId : Nat} {row : BoardSection}
    (hrow : s.db.sectionById sectionId = some row)
    (hdynamic : s.db.dynamicDocuments.any (·.sectionId == sectionId) = false) :
    (deleteSectionWithFiles sectionId).exec s =
      (.ok row.name, ((s.write (·.deleteDocuments (·.sectionId == sectionId))).write
        (·.deleteSection sectionId)).removeFiles
          (documentKeys (s.db.documents.filter (·.sectionId == sectionId)))) := by
  rw [deleteSectionWithFiles, Tx.exec_bind_get, Tx.exec_bind_modify, hrow]
  show Tx.exec (Tx.check _ >>= fun _ => _) _ = _
  rw [Tx.exec_bind, Tx.exec_check, Tx.refuseWhen, if_neg (by simp [hdynamic])]
  show Tx.exec (List.forM _ _ >>= fun _ => _) _ = _
  rw [Tx.exec_bind, forM_documentFiles]
  rfl

theorem createBoardDocument_none {data : NewDocument} {uri : String}
    (h : s.db.sectionById data.sectionId = none) :
    (createBoardDocument data uri).exec s = (.error (.database .foreignKey), s) := by
  rw [createBoardDocument, Tx.exec_bind_get, Tx.exec_bind, Tx.exec_check, Tx.refuseWhen, if_pos h]

theorem createBoardDocument_some {data : NewDocument} {uri : String}
    (h : s.db.sectionById data.sectionId ≠ none) :
    (createBoardDocument data uri).exec s = (.ok s.db.nextDocumentId, s.write fun db =>
      (db.createDocument fun id =>
        { id := id, title := data.title, type := some "pdf", uri := some uri, thumbnailUri := none,
          sectionId := data.sectionId, order := some 0, visibleFrom := data.visibleFrom,
          visibleUntil := data.visibleUntil, isHighlighted := data.isHighlighted.getD false }).createVersion
        fun id => ⟨id, s.db.nextDocumentId, uri, none, 1, data.actorId⟩) := by
  rw [createBoardDocument, Tx.exec_bind_get, Tx.exec_bind, Tx.exec_check, Tx.refuseWhen, if_neg h]
  rfl

end Services

/-! ## The steps of a run -/

/-- The services, each with its arguments, and beside them the thumbnail worker. The `uuid` is the random id of
the file the step stores. -/
inductive BoardStep where
  | createBoardDocument (data : NewDocument) (file : File) (uuid : String)
  | replaceDocumentFile (documentId uploadedById : Nat) (file : File) (uuid : String)
  | restoreDocumentVersion (documentId versionId uploadedById : Nat)
  | deleteBoardDocument (documentId : Nat)
  /-- The route, which deletes the files of the history first. -/
  | deleteDocumentAndVersions (documentId : Nat)
  | bulkDeleteBoardItems (pdfIds dynIds : List Nat)
  | deleteSectionWithFiles (sectionId : Nat)
  | handleThumbnailWork (documentId : Nat) (pdfStorageKey : String) (rendered : Bool) (uuid : String)
deriving DecidableEq, Repr

def BoardStore.apply (s : BoardStore) : BoardStep → BoardStore
  | .createBoardDocument data file uuid => s.commit (uploadNewDocument data file uuid)
  | .replaceDocumentFile documentId uploadedById file uuid =>
    s.commit (Board.replaceDocumentFile documentId uploadedById file uuid)
  | .restoreDocumentVersion documentId versionId uploadedById =>
    s.commit (Board.restoreDocumentVersion documentId versionId uploadedById)
  | .deleteBoardDocument documentId => s.commit (Board.deleteBoardDocument documentId)
  | .deleteDocumentAndVersions documentId => s.commit (Board.deleteDocumentAndVersions documentId)
  | .bulkDeleteBoardItems pdfIds dynIds => s.commit (Board.bulkDeleteBoardItems pdfIds dynIds)
  | .deleteSectionWithFiles sectionId => s.commit (Board.deleteSectionWithFiles sectionId)
  | .handleThumbnailWork documentId pdfStorageKey rendered uuid =>
    s.commit (Board.handleThumbnailWork documentId pdfStorageKey rendered uuid)

/-- An upload gets a fresh storage key. -/
def BoardStep.Fresh (s : BoardStore) : BoardStep → Prop
  | .createBoardDocument _ _ uuid | .replaceDocumentFile _ _ _ uuid =>
    s.Unused (getStorageKey s.congregationId uuid)
  | .handleThumbnailWork _ _ _ uuid => s.Unused (getThumbnailStorageKey s.congregationId uuid)
  | _ => True

/-- No valid file takes the place of one that a version names. -/
def BoardStep.SparesHistory (s : BoardStore) : BoardStep → Prop
  | .replaceDocumentFile documentId _ file _ => validateBoardFile file = .ok () →
    ∀ d ∈ s.db.documents, d.id = documentId → ∀ v ∈ s.db.versions, d.uri ≠ some v.uri
  | _ => True

/-- The steps of the theorem. -/
def BoardStep.Kept (s : BoardStore) (step : BoardStep) : Prop := step.Fresh s ∧ step.SparesHistory s

instance (s : BoardStore) (step : BoardStep) : Decidable (step.Fresh s) := by
  cases step <;> unfold BoardStep.Fresh <;> infer_instance

instance (s : BoardStore) (step : BoardStep) : Decidable (step.SparesHistory s) := by
  cases step <;> unfold BoardStep.SparesHistory <;> infer_instance

instance (s : BoardStore) (step : BoardStep) : Decidable (step.Kept s) :=
  inferInstanceAs (Decidable (_ ∧ _))

/-! ## What one step keeps -/

namespace BoardStore

variable {s : BoardStore}

theorem commit_ok {α : Type} {x : BoardTx α} {a : α} {s' : BoardStore} (h : x.exec s = (.ok a, s')) :
    s.commit x = s' := by
  rw [commit, h]

theorem commit_error {α : Type} {x : BoardTx α} {e : Failure} {s' : BoardStore}
    (h : x.exec s = (.error e, s')) : s.commit x = { s' with db := s.db } := by
  rw [commit, h]

namespace Sound

/-- A refused request may leave a file behind, never take one. -/
theorem rollback (h : s.Sound) {α : Type} {x : BoardTx α} {e : Failure} {s' : BoardStore}
    (hexec : x.exec s = (.error e, s')) (hfiles : ∀ f ∈ s.files, f ∈ s'.files) : (s.commit x).Sound := by
  rw [commit_error hexec]
  exact ⟨h.rows, fun v hv => hfiles v.uri (h.stored v hv)⟩

/-- Files that no version names may go. -/
theorem removeFiles (h : s.Sound) {keys : List String} (hkeys : ∀ v ∈ s.db.versions, v.uri ∉ keys) :
    (s.removeFiles keys).Sound := by
  refine ⟨h.rows, fun v hv => List.mem_filter.mpr ⟨h.stored v hv, ?_⟩⟩
  simpa using hkeys v hv

theorem createBoardDocument (h : s.Sound) {data : NewDocument} {file : File} {uuid : String}
    (hfresh : s.Unused (getStorageKey s.congregationId uuid)) :
    (s.commit (uploadNewDocument data file uuid)).Sound := by
  cases hvalid : validateBoardFile file with
  | error e =>
    have hexec : (uploadNewDocument data file uuid).exec s = (.error (.app e), s) := by
      rw [uploadNewDocument, hvalid]
      rfl
    exact h.rollback hexec fun f hf => hf
  | ok _ =>
    have hsave : (uploadNewDocument data file uuid).exec s =
        (Board.createBoardDocument data (getStorageKey s.congregationId uuid)).exec
          (s.putFile (getStorageKey s.congregationId uuid)) := by
      rw [uploadNewDocument, hvalid]
      exact saveFile_exec uuid (fun uri => Board.createBoardDocument data uri) s
    by_cases hsection : s.db.sectionById data.sectionId = none
    · refine h.rollback (hsave.trans (createBoardDocument_none ?_)) fun f hf => List.mem_cons_of_mem _ hf
      exact hsection
    · rw [commit_ok (hsave.trans (createBoardDocument_some ?_))]
      · refine ⟨?_, fun v hv => ?_⟩
        · rw [write_db, putFile_db]
          apply h.rows.createDocument (fun _ => rfl) (fun _ => rfl) (fun _ => rfl)
            (fun _ => ⟨rfl, rfl, rfl⟩)
          · exact fun v hv => (hfresh.version v hv).1
          · exact fun d hd => (hfresh.document d hd).2
        · rcases List.mem_append.mp hv with hold | hnew
          · exact List.mem_cons_of_mem _ (h.stored v hold)
          · rw [List.mem_singleton.mp hnew]
            exact List.mem_cons_self
      · exact hsection

/-- A file that is not to take the place of one a version names is not taken at all. -/
theorem replaceDocumentFile (h : s.Sound) {documentId uploadedById : Nat} {file : File} {uuid : String}
    (hspares : (BoardStep.replaceDocumentFile documentId uploadedById file uuid).SparesHistory s) :
    (s.commit (Board.replaceDocumentFile documentId uploadedById file uuid)).Sound := by
  cases hvalid : validateBoardFile file with
  | error e =>
    rw [commit_ok (replaceDocumentFile_refused hvalid)]
    exact h
  | ok _ =>
    cases hdoc : s.db.documentById documentId with
    | none =>
      refine h.rollback (replaceDocumentFile_none hvalid hdoc) fun f hf => ?_
      exact List.mem_cons_of_mem _ hf
    | some d =>
      -- the document shows its last version
      obtain ⟨hd, hid⟩ := BoardDb.documentById_mem hdoc
      obtain ⟨v, hv, huri⟩ := h.rows.current d hd
      exact absurd huri (hspares hvalid d hd hid v hv.mem)

theorem restoreDocumentVersion (h : s.Sound) {documentId versionId uploadedById : Nat} :
    (s.commit (Board.restoreDocumentVersion documentId versionId uploadedById)).Sound := by
  by_cases hown : ∃ v, s.db.versionById versionId = some v ∧ v.documentId = documentId
  · obtain ⟨v, hversion, hdocid⟩ := hown
    have hv : v ∈ s.db.versions := List.mem_of_find?_eq_some hversion
    cases hdoc : s.db.documentById documentId with
    | none =>
      -- a version has its document
      obtain ⟨d, hd, hid⟩ := h.rows.owned v hv
      have hthere := BoardDb.documentById_ne_none hd
      rw [hid, hdocid] at hthere
      exact absurd hdoc hthere
    | some d =>
      have hd := (BoardDb.documentById_mem hdoc).1
      rw [commit_ok (restoreDocumentVersion_some hversion hdocid hdoc)]
      have hshown : (s.write (·.showVersion documentId uploadedById v.uri)).Sound := by
        refine ⟨?_, fun w hw => ?_⟩
        · apply h.rows.showVersion hdoc
          · exact fun w hw heq => (h.rows.apart w hw v hv heq).trans hdocid
          · exact fun d hd => h.rows.pictures d hd v hv
        · rcases List.mem_append.mp hw with hold | hnew
          · exact h.stored w hold
          · rw [List.mem_singleton.mp hnew]
            exact h.stored v hv
      apply hshown.removeFiles
      -- the old picture is no version's file
      intro w hw hmem
      split at hmem
      · rename_i htruthy
        have hpicture : ∀ w ∈ s.db.versions, d.thumbnailUri ≠ some w.uri := h.rows.pictures d hd
        cases hthumb : d.thumbnailUri with
        | none =>
          rw [hthumb] at htruthy
          exact Bool.false_ne_true htruthy
        | some t =>
          rw [hthumb, Option.getD_some, List.mem_singleton] at hmem
          rcases List.mem_append.mp hw with hold | hnew
          · exact hpicture w hold (by rw [hthumb, hmem])
          · rw [List.mem_singleton.mp hnew] at hmem
            exact hpicture v hv (by rw [hthumb, hmem])
      · exact absurd hmem List.not_mem_nil
  · have hnone : ∀ v, s.db.versionById versionId = some v → v.documentId ≠ documentId :=
      fun v hversion hdocid => hown ⟨v, hversion, hdocid⟩
    rw [commit_ok (restoreDocumentVersion_none hnone)]
    exact h

/-- Some documents go, with files that no row names any more. -/
theorem deleteDocuments (h : s.Sound) (sel : BoardDocument → Bool) {keys : List String}
    (hkeys : ∀ v ∈ (s.db.deleteDocuments sel).versions, v.uri ∉ keys) :
    ((s.write (·.deleteDocuments sel)).removeFiles keys).Sound := by
  have hrows : (s.write (·.deleteDocuments sel)).Sound :=
    ⟨h.rows.deleteDocuments sel,
      fun v hv => h.stored v (BoardDb.mem_deleteDocuments_versions.mp hv).1⟩
  exact hrows.removeFiles hkeys

/-- The files that the documents themselves name. -/
theorem deleteSelected (h : s.Sound) (sel : BoardDocument → Bool) :
    ((s.write (·.deleteDocuments sel)).removeFiles (documentKeys (s.db.documents.filter sel))).Sound := by
  apply h.deleteDocuments
  intro v hv hmem
  obtain ⟨d, hd, hkey⟩ := List.mem_flatMap.mp hmem
  obtain ⟨hold, hsel⟩ := List.mem_filter.mp hd
  exact h.rows.fileKeys_unnamed hold hsel v hv hkey

theorem deleteBoardDocument (h : s.Sound) {documentId : Nat} :
    (s.commit (Board.deleteBoardDocument documentId)).Sound := by
  cases hdoc : s.db.documentById documentId with
  | none => exact h.rollback (deleteBoardDocument_none hdoc) fun f hf => hf
  | some d =>
    obtain ⟨hd, hid⟩ := BoardDb.documentById_mem hdoc
    rw [commit_ok (deleteBoardDocument_some hdoc)]
    exact h.deleteDocuments _ (h.rows.fileKeys_unnamed hd (by simpa using hid))

theorem deleteDocumentAndVersions (h : s.Sound) {documentId : Nat} :
    (s.commit (Board.deleteDocumentAndVersions documentId)).Sound := by
  have hfirst : (Board.deleteDocumentAndVersions documentId).exec s =
      (Board.deleteBoardDocument documentId).exec (s.removeFiles (s.db.versionKeys documentId)) := by
    rw [Board.deleteDocumentAndVersions, Tx.exec_bind, deleteAllVersionFiles_exec]
  cases hdoc : s.db.documentById documentId with
  | none =>
    -- without the document there is no version either
    have hnone : s.db.versionKeys documentId = [] := by
      rw [BoardDb.versionKeys, List.filter_eq_nil_iff.mpr, List.flatMap_nil]
      intro v hv hmine
      obtain ⟨d, hd, hid⟩ := h.rows.owned v hv
      have hthere := BoardDb.documentById_ne_none hd
      rw [hid, beq_iff_eq.mp hmine] at hthere
      exact hthere hdoc
    rw [hnone, removeFiles_nil, deleteBoardDocument_none hdoc] at hfirst
    exact h.rollback hfirst fun f hf => hf
  | some d =>
    obtain ⟨hd, hid⟩ := BoardDb.documentById_mem hdoc
    have hstill : (s.removeFiles (s.db.versionKeys documentId)).db.documentById documentId = some d := hdoc
    rw [deleteBoardDocument_some hstill] at hfirst
    rw [commit_ok hfirst]
    have hswap : ((s.removeFiles (s.db.versionKeys documentId)).write
          (·.deleteDocuments (·.id == documentId))).removeFiles (fileKeys d.uri d.thumbnailUri) =
        (s.write (·.deleteDocuments (·.id == documentId))).removeFiles
          (s.db.versionKeys documentId ++ fileKeys d.uri d.thumbnailUri) :=
      removeFiles_append _ _ (s.write (·.deleteDocuments (·.id == documentId)))
    rw [hswap]
    apply h.deleteDocuments
    intro v hv hmem
    rcases List.mem_append.mp hmem with hversion | hown
    · -- the file of one of the deleted versions
      obtain ⟨hvold, hkept⟩ := BoardDb.mem_deleteDocuments_versions.mp hv
      obtain ⟨w, hw, hkey⟩ := List.mem_flatMap.mp hversion
      obtain ⟨hwold, hmine⟩ := List.mem_filter.mp hw
      rcases mem_fileKeys.mp hkey with heq | ⟨htruthy, -⟩
      · have hsame := h.rows.apart v hvold w hwold heq
        rw [beq_iff_eq.mp hmine] at hsame
        exact hkept d hd (by simpa using hid) (hid.trans hsame.symm)
      · rw [h.rows.bare w hwold] at htruthy
        exact Bool.false_ne_true htruthy
    · exact h.rows.fileKeys_unnamed hd (by simpa using hid) v hv hown

theorem bulkDeleteBoardItems (h : s.Sound) {pdfIds dynIds : List Nat} :
    (s.commit (Board.bulkDeleteBoardItems pdfIds dynIds)).Sound := by
  obtain ⟨counts, hexec⟩ := bulkDeleteBoardItems_exec pdfIds dynIds s
  rw [commit_ok hexec]
  have hgone := h.deleteSelected fun d => pdfIds.contains d.id
  exact ⟨hgone.rows.congr rfl rfl rfl, hgone.stored⟩

theorem deleteSectionWithFiles (h : s.Sound) {sectionId : Nat} :
    (s.commit (Board.deleteSectionWithFiles sectionId)).Sound := by
  by_cases hdynamic : s.db.dynamicDocuments.any (·.sectionId == sectionId) = true
  · obtain ⟨e, hexec⟩ := deleteSectionWithFiles_refused (s := s) (.inr hdynamic)
    exact h.rollback hexec fun f hf => hf
  · cases hrow : s.db.sectionById sectionId with
    | none =>
      obtain ⟨e, hexec⟩ := deleteSectionWithFiles_refused (.inl hrow)
      exact h.rollback hexec fun f hf => hf
    | some row =>
      rw [commit_ok (deleteSectionWithFiles_done hrow (by simpa using hdynamic))]
      have hgone := h.deleteSelected (·.sectionId == sectionId)
      exact ⟨hgone.rows.congr rfl rfl rfl, hgone.stored⟩

theorem handleThumbnailWork (h : s.Sound) {documentId : Nat} {pdfStorageKey : String} {rendered : Bool}
    {uuid : String} (hfresh : s.Unused (getThumbnailStorageKey s.congregationId uuid)) :
    (s.commit (Board.handleThumbnailWork documentId pdfStorageKey rendered uuid)).Sound := by
  by_cases hgen : s.files.contains pdfStorageKey = true ∧ rendered = true
  · have hexec : (Board.handleThumbnailWork documentId pdfStorageKey rendered uuid).exec s =
        (updateBoardDocumentRow documentId fun d =>
          { d with thumbnailUri := some (getThumbnailStorageKey s.congregationId uuid) }).exec
            (s.putFile (getThumbnailStorageKey s.congregationId uuid)) := by
      rw [Board.handleThumbnailWork, Tx.exec_bind_get, if_pos hgen, Tx.exec_bind_modify]
    by_cases hdoc : s.db.documentById documentId = none
    · refine h.rollback (hexec.trans (updateBoardDocumentRow_none ?_)) fun f hf => ?_
      · exact hdoc
      · exact List.mem_cons_of_mem _ hf
    · rw [commit_ok (hexec.trans (updateBoardDocumentRow_some ?_))]
      · refine ⟨h.rows.setThumbnail documentId fun v hv => (hfresh.version v hv).1, fun v hv => ?_⟩
        exact List.mem_cons_of_mem _ (h.stored v hv)
      · exact hdoc
  · have hexec : (Board.handleThumbnailWork documentId pdfStorageKey rendered uuid).exec s = (.ok (), s) := by
      rw [Board.handleThumbnailWork, Tx.exec_bind_get, if_neg hgen, Tx.exec_pure]
    rw [commit_ok hexec]
    exact h

/-- The step lemma. -/
theorem apply (h : s.Sound) {step : BoardStep} (hkept : step.Kept s) : (s.apply step).Sound := by
  cases step with
  | createBoardDocument data file uuid => exact h.createBoardDocument hkept.1
  | replaceDocumentFile documentId uploadedById file uuid => exact h.replaceDocumentFile hkept.2
  | restoreDocumentVersion documentId versionId uploadedById => exact h.restoreDocumentVersion
  | deleteBoardDocument documentId => exact h.deleteBoardDocument
  | deleteDocumentAndVersions documentId => exact h.deleteDocumentAndVersions
  | bulkDeleteBoardItems pdfIds dynIds => exact h.bulkDeleteBoardItems
  | deleteSectionWithFiles sectionId => exact h.deleteSectionWithFiles
  | handleThumbnailWork documentId pdfStorageKey rendered uuid => exact h.handleThumbnailWork hkept.1

/-- A board without documents. -/
theorem of_empty (hdocs : s.db.documents = []) (hversions : s.db.versions = []) : s.Sound := by
  refine ⟨⟨?_, ?_, ?_, ?_, ?_, ?_, ?_⟩, ?_⟩ <;> simp [hdocs, hversions, Keyed.nil]

end Sound

end BoardStore

/-! ## Runs -/

/-- **A stored version can be opened** in every state reached from a board without documents by steps that
spare the history. -/
theorem versions_openable {start s : BoardStore} (hdocs : start.db.documents = [])
    (hversions : start.db.versions = []) (hrun : Reach BoardStore.apply BoardStep.Kept start s) :
    s.Openable := by
  have hsound : s.Sound := hrun.invariant (.of_empty hdocs hversions) fun _ _ h hkept => h.apply hkept
  exact hsound.openable

/-- The one excluded step is rightly so: from a sound board it leaves a version without its file. -/
theorem replaceDocumentFile_forgets {s : BoardStore} {documentId uploadedById : Nat} {file : File}
    {uuid : String} {d : BoardDocument} {v : BoardDocumentVersion} (hvalid : validateBoardFile file = .ok ())
    (hdoc : s.db.documentById documentId = some d) (hv : v ∈ s.db.versions) (huri : d.uri = some v.uri)
    (hkey : v.uri ≠ "") :
    ¬(s.apply (.replaceDocumentFile documentId uploadedById file uuid)).Openable := by
  intro hopen
  have htruthy : isTruthy d.uri = true := by simp [huri, isTruthy, hkey]
  have happly : s.apply (.replaceDocumentFile documentId uploadedById file uuid) = _ :=
    BoardStore.commit_ok (replaceDocumentFile_some hvalid hdoc)
  rw [happly, if_pos htruthy] at hopen
  have hstored := hopen.version v (List.mem_append_left _ hv)
  have hgone := (List.mem_filter.mp hstored).2
  simp [fileKeys, huri] at hgone

/-- A board with one section. -/
def oneSection : BoardStore := ⟨1, { BoardDb.empty with sections := [⟨1, "Annonces", none⟩] }, []⟩

/-- The shortest file that is taken for a PDF. -/
def emptyPdf : File := ⟨"application/pdf", pdfMagicBytes⟩

def announcement : NewDocument := ⟨"Programme", 1, none, none, none, 1⟩

theorem versions_openable_restored :
    ([.createBoardDocument announcement emptyPdf "a", .handleThumbnailWork 1 "1/board/a.pdf" true "t",
      .restoreDocumentVersion 1 1 1, .createBoardDocument announcement emptyPdf "b",
      .deleteBoardDocument 2].foldl BoardStore.apply oneSection).Openable :=
  @versions_openable oneSection _ rfl rfl (.foldl (by decide +kernel))

/-- The second upload deletes the file of the first version. -/
theorem replaced_version_gone :
    ¬∀ start s : BoardStore, start.db.documents = [] → start.db.versions = [] →
      Reach BoardStore.apply BoardStep.Fresh start s → s.Openable := by
  intro hall
  have hopen := hall oneSection
    ([.createBoardDocument announcement emptyPdf "a",
      .replaceDocumentFile 1 1 emptyPdf "b"].foldl BoardStore.apply oneSection) rfl rfl
    (.foldl (by decide +kernel))
  have hgone : ¬∀ v ∈ ([.createBoardDocument announcement emptyPdf "a",
      .replaceDocumentFile 1 1 emptyPdf "b"].foldl BoardStore.apply oneSection).db.versions,
      v.uri ∈ ([.createBoardDocument announcement emptyPdf "a",
        .replaceDocumentFile 1 1 emptyPdf "b"].foldl BoardStore.apply oneSection).files := by
    decide +kernel
  exact hgone hopen.version

end Unitae.Board
