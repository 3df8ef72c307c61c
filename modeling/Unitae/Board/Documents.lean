import Mathlib.Algebra.Order.Ring.Int
import Mathlib.Data.List.MinMax
import Unitae.Base.Transaction
import Unitae.Board.Schema
import Unitae.Errors
import Unitae.Text

/-!
# Unitae — the files of the display board

`document.server.ts`, `document-versions.server.ts` and `board-document.server.ts`: the services that
write the rows of a document and of its versions, and the files that these rows name. The store is the
board with the keys of its stored files beside it. A service that throws takes its rows back, and
leaves the files as they then are.
-/

namespace Unitae.Board

/-! ## The storage -/

/-- `file-storage.server.ts`. -/
def buildStorageKey (congregationId : Nat) (feature filename : String) : String :=
  toString congregationId ++ "/" ++ feature ++ "/" ++ filename

/-- `getStorageKey`, under the random id it draws. -/
def getStorageKey (congregationId : Nat) (uuid : String) : String :=
  buildStorageKey congregationId "board" (uuid ++ ".pdf")

/-- `getThumbnailStorageKey`. -/
def getThumbnailStorageKey (congregationId : Nat) (uuid : String) : String :=
  buildStorageKey congregationId "board" (uuid ++ ".thumb.png")

/-- A congregation's board, and the keys under which the storage holds a file. -/
structure BoardStore where
  congregationId : Nat
  db : BoardDb
  files : List String
deriving DecidableEq, Repr

abbrev BoardTx := Tx BoardStore Failure

@[simps] def BoardStore.putFile (key : String) (s : BoardStore) : BoardStore :=
  { s with files := key :: s.files }

@[simps] def BoardStore.removeFiles (keys : List String) (s : BoardStore) : BoardStore :=
  { s with files := s.files.filter fun f => !keys.contains f }

@[simps] def BoardStore.write (f : BoardDb → BoardDb) (s : BoardStore) : BoardStore :=
  { s with db := f s.db }

/-- `deleteFile`: deleting a file that is not there does nothing. -/
def deleteFile (uri : Option String) : BoardTx PUnit :=
  modify (·.removeFiles [uri.getD ""])

/-- `deleteFile(document)`, and its thumbnail where it has one. -/
def deleteDocumentFiles (uri thumbnailUri : Option String) : BoardTx PUnit := do
  deleteFile uri
  if isTruthy thumbnailUri then deleteFile thumbnailUri

/-! ## Uploads -/

structure File where
  type : String
  content : List UInt8
deriving DecidableEq, Repr

/-- `%PDF-`. -/
def pdfMagicBytes : List UInt8 := [0x25, 0x50, 0x44, 0x46, 0x2d]

/-- 20 MB. -/
def maxFileSizeBytes : Nat := 20 * 1024 * 1024

def allowedMimeTypes : List String := ["application/pdf"]

/-- `FileValidationError`. -/
def fileValidationError (messageKey : String) : AppError :=
  .validation "file" ("File validation failed: " ++ messageKey)

def validateBoardFile (file : File) : Except AppError Unit := do
  Tx.refuseWhen (allowedMimeTypes.contains file.type = false) (fileValidationError "invalid_type")
  Tx.refuseWhen (maxFileSizeBytes < file.content.length) (fileValidationError "file_too_large")
  let headerBytes := file.content.take pdfMagicBytes.length
  Tx.refuseWhen (headerBytes.length < pdfMagicBytes.length) (fileValidationError "invalid_content")
  Tx.refuseWhen (headerBytes ≠ pdfMagicBytes) (fileValidationError "invalid_content")

/-- `saveBoardFile`. -/
def saveFile (uuid : String) : BoardTx String := do
  let s ← get
  let key := getStorageKey s.congregationId uuid
  modify (·.putFile key)
  return key

/-- The version of a document with the highest number. -/
def BoardDb.lastVersion (db : BoardDb) (documentId : Nat) : Option BoardDocumentVersion :=
  @List.argmax _ Int Int.instLinearOrder.toPreorder _ (·.versionNumber)
    (db.versions.filter (·.documentId == documentId))

def createVersionForUpload (documentId uploadedById : Nat) (uri : String)
    (thumbnailUri : Option String) : BoardTx PUnit := do
  let s ← get
  let last := ((s.db.lastVersion documentId).map (·.versionNumber)).getD 0
  Tx.check (Tx.refuseWhen (s.db.documentById documentId = none) (.database .foreignKey))
  modify (·.write (·.createVersion fun id => ⟨id, documentId, uri, thumbnailUri, last + 1, uploadedById⟩))

/-- `db.boardDocument.update` of one row, which must be there. -/
def updateBoardDocumentRow (documentId : Nat) (data : BoardDocument → BoardDocument) :
    BoardTx PUnit := do
  let s ← get
  Tx.check (Tx.refuseWhen (s.db.documentById documentId = none) (.database .recordNotFound))
  modify (·.write (·.updateDocuments (·.id == documentId) data))

/-! ## Services -/

/-- The `data` argument of `createBoardDocument`, but for the key of the file. -/
structure NewDocument where
  title : String
  sectionId : Nat
  visibleFrom : Option Instant
  visibleUntil : Option Instant
  isHighlighted : Option Bool
  actorId : Nat
deriving DecidableEq, Repr

def createBoardDocument (data : NewDocument) (uri : String) : BoardTx Nat := do
  let s ← get
  Tx.check (Tx.refuseWhen (s.db.sectionById data.sectionId = none) (.database .foreignKey))
  let documentId := s.db.nextDocumentId
  modify (·.write (·.createDocument fun id =>
    { id := id, title := data.title, type := some "pdf", uri := some uri, thumbnailUri := none,
      sectionId := data.sectionId, order := some 0, visibleFrom := data.visibleFrom,
      visibleUntil := data.visibleUntil, isHighlighted := data.isHighlighted.getD false }))
  modify (·.write (·.createVersion fun id => ⟨id, documentId, uri, none, 1, data.actorId⟩))
  return documentId

/-- The action of `documents/new.tsx`, past its permissions and its form. -/
def uploadNewDocument (data : NewDocument) (file : File) (uuid : String) : BoardTx Nat := do
  Tx.check ((validateBoardFile file).mapError .app)
  let uri ← saveFile uuid
  createBoardDocument data uri

inductive FileReplacementResult where
  | replaced (uri : String) (thumbnailUri : Option String)
  | refused (error : AppError)
deriving DecidableEq, Repr

/-- « Clean up old files », the file before its thumbnail. -/
def cleanUpOldFiles : Option BoardDocument → BoardTx PUnit
  | none => pure ()
  | some d => if isTruthy d.uri then deleteDocumentFiles d.uri d.thumbnailUri else pure ()

/-- « Clean up old thumbnail if it was replaced ». -/
def cleanUpOldThumbnail : Option BoardDocument → BoardTx PUnit
  | none => pure ()
  | some d => if isTruthy d.thumbnailUri then deleteFile d.thumbnailUri else pure ()

def replaceDocumentFile (documentId uploadedById : Nat) (file : File) (uuid : String) :
    BoardTx FileReplacementResult :=
  match validateBoardFile file with
  | .error e => pure (.refused e)
  | .ok _ => do
    let uri ← saveFile uuid
    let s ← get
    let oldDocument := s.db.documentById documentId
    createVersionForUpload documentId uploadedById uri none
    updateBoardDocumentRow documentId fun d => { d with uri := some uri, thumbnailUri := none }
    cleanUpOldFiles oldDocument
    return .replaced uri none

def restoreDocumentVersion (documentId versionId uploadedById : Nat) : BoardTx (Option Int) := do
  let s ← get
  match s.db.versionById versionId with
  | none => return none
  | some version =>
    if version.documentId ≠ documentId then return none
    else
      let currentDoc := s.db.documentById documentId
      createVersionForUpload documentId uploadedById version.uri none
      updateBoardDocumentRow documentId fun d =>
        { d with uri := some version.uri, thumbnailUri := none }
      cleanUpOldThumbnail currentDoc
      return some version.versionNumber

def deleteAllVersionFiles (documentId : Nat) : BoardTx PUnit := do
  let s ← get
  (s.db.versions.filter (·.documentId == documentId)).forM fun version =>
    deleteDocumentFiles (some version.uri) version.thumbnailUri

def deleteBoardDocument (documentId : Nat) : BoardTx (Nat × String) := do
  let s ← get
  match s.db.documentById documentId with
  | none => throw (.database .recordNotFound)
  | some document =>
    modify (·.write (·.deleteDocuments (·.id == documentId)))
    deleteDocumentFiles document.uri document.thumbnailUri
    return (document.id, document.title)

/-- The action of `documents/delete.tsx`, past its permissions. -/
def deleteDocumentAndVersions (documentId : Nat) : BoardTx (Nat × String) := do
  deleteAllVersionFiles documentId
  deleteBoardDocument documentId

/-- The PDF half of `bulkDeleteBoardItems`, and how many rows it deletes. -/
def bulkDeleteDocuments (pdfIds : List Nat) : BoardTx Nat :=
  if pdfIds.isEmpty then pure 0
  else do
    let s ← get
    let documents := s.db.documents.filter fun d => pdfIds.contains d.id
    modify (·.write (·.deleteDocuments fun d => pdfIds.contains d.id))
    documents.forM fun d => deleteDocumentFiles d.uri d.thumbnailUri
    return documents.length

/-- Its other half. -/
def bulkDeleteDynamicDocuments (dynIds : List Nat) : BoardTx Nat :=
  if dynIds.isEmpty then pure 0
  else do
    let s ← get
    modify (·.write (·.deleteDynamicDocuments fun d => dynIds.contains d.id))
    return (s.db.dynamicDocuments.filter fun d => dynIds.contains d.id).length

def bulkDeleteBoardItems (pdfIds dynIds : List Nat) : BoardTx (Nat × Nat) := do
  let pdfDeleted ← bulkDeleteDocuments pdfIds
  let dynDeleted ← bulkDeleteDynamicDocuments dynIds
  return (pdfDeleted, dynDeleted)

/-- The database refuses to drop a section that a dynamic document still shows in. -/
def deleteSectionWithFiles (sectionId : Nat) : BoardTx String := do
  let s ← get
  let documents := s.db.documents.filter (·.sectionId == sectionId)
  modify (·.write (·.deleteDocuments (·.sectionId == sectionId)))
  match s.db.sectionById sectionId with
  | none => throw (.database .recordNotFound)
  | some boardSection =>
    Tx.check (Tx.refuseWhen (s.db.dynamicDocuments.any (·.sectionId == sectionId) = true)
      (.database .foreignKey))
    modify (·.write (·.deleteSection sectionId))
    documents.forM fun d => deleteDocumentFiles d.uri d.thumbnailUri
    return boardSection.name

/-- `handleThumbnailWork`, where `rendered` says whether `pdftoppm` made a picture. -/
def handleThumbnailWork (documentId : Nat) (pdfStorageKey : String) (rendered : Bool)
    (uuid : String) : BoardTx PUnit := do
  let s ← get
  if s.files.contains pdfStorageKey = true ∧ rendered = true then
    let thumbnailUri := getThumbnailStorageKey s.congregationId uuid
    modify (·.putFile thumbnailUri)
    updateBoardDocumentRow documentId fun d => { d with thumbnailUri := some thumbnailUri }

/-- What a request leaves: its rows are taken back when it throws, its files are not. -/
def BoardStore.commit {α : Type} (s : BoardStore) (x : BoardTx α) : BoardStore :=
  match x.exec s with
  | (.ok _, s') => s'
  | (.error _, s') => { s' with db := s.db }

end Unitae.Board
