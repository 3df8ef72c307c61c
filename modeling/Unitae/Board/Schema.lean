import Unitae.Events.Schema

/-!
# Unitae — the tables behind the display board

One congregation's slice of `schema.prisma`, as in `Events/Schema.lean`. A section shows PDF documents,
each with the versions of its file, and dynamic documents, of which only the section is read here. The
`uri` of a row is the key under which the storage holds the file.
-/

namespace Unitae.Board

structure BoardSection where
  id : Nat
  name : String
  order : Option Int
deriving DecidableEq, Repr

structure BoardSectionVisibilityRole where
  sectionId : Nat
  roleId : Nat
deriving DecidableEq, Repr

structure BoardDocument where
  id : Nat
  title : String
  uri : Option String
  thumbnailUri : Option String
  sectionId : Nat
  order : Option Int
  type : Option String
  visibleFrom : Option Instant
  visibleUntil : Option Instant
  isHighlighted : Bool
deriving DecidableEq, Repr

structure BoardDocumentVersion where
  id : Nat
  documentId : Nat
  uri : String
  thumbnailUri : Option String
  versionNumber : Int
  uploadedById : Option Nat
deriving DecidableEq, Repr

structure BoardDynamicDocumentSettings where
  id : Nat
  sectionId : Nat
deriving DecidableEq, Repr

structure BoardDb where
  sections : List BoardSection
  visibilityRoles : List BoardSectionVisibilityRole
  documents : List BoardDocument
  versions : List BoardDocumentVersion
  dynamicDocuments : List BoardDynamicDocumentSettings
  nextDocumentId : Nat
  nextVersionId : Nat
deriving DecidableEq, Repr

/-- No rows at all. -/
def BoardDb.empty : BoardDb := ⟨[], [], [], [], [], 1, 1⟩

/-! ## Queries -/

def BoardDb.sectionById (db : BoardDb) (sectionId : Nat) : Option BoardSection :=
  db.sections.find? (·.id == sectionId)

def BoardDb.documentById (db : BoardDb) (documentId : Nat) : Option BoardDocument :=
  db.documents.find? (·.id == documentId)

def BoardDb.versionById (db : BoardDb) (versionId : Nat) : Option BoardDocumentVersion :=
  db.versions.find? (·.id == versionId)

/-! ## Writes -/

/-- `db.boardDocument.create`. -/
@[simps] def BoardDb.createDocument (row : Nat → BoardDocument) (db : BoardDb) : BoardDb :=
  { db with
    documents := db.documents ++ [row db.nextDocumentId]
    nextDocumentId := db.nextDocumentId + 1 }

/-- `db.boardDocument.update`. -/
@[simps] def BoardDb.updateDocuments (sel : BoardDocument → Bool)
    (data : BoardDocument → BoardDocument) (db : BoardDb) : BoardDb :=
  { db with documents := db.documents.map fun d => if sel d then data d else d }

/-- `db.boardDocumentVersion.create`. -/
@[simps] def BoardDb.createVersion (row : Nat → BoardDocumentVersion) (db : BoardDb) : BoardDb :=
  { db with
    versions := db.versions ++ [row db.nextVersionId]
    nextVersionId := db.nextVersionId + 1 }

/-- `db.boardDocument.delete` and `deleteMany`: the versions go with the document
(`onDelete: Cascade`). -/
@[simps] def BoardDb.deleteDocuments (sel : BoardDocument → Bool) (db : BoardDb) : BoardDb :=
  let gone := (db.documents.filter sel).map (·.id)
  { db with
    documents := db.documents.filter fun d => !sel d
    versions := db.versions.filter fun v => !gone.contains v.documentId }

/-- `db.boardDynamicDocumentSettings.deleteMany`. -/
@[simps] def BoardDb.deleteDynamicDocuments (sel : BoardDynamicDocumentSettings → Bool)
    (db : BoardDb) : BoardDb :=
  { db with dynamicDocuments := db.dynamicDocuments.filter fun d => !sel d }

/-- `db.boardSection.delete`: the visibility rows of the section go with it. -/
@[simps] def BoardDb.deleteSection (sectionId : Nat) (db : BoardDb) : BoardDb :=
  { db with
    sections := db.sections.filter fun s => s.id != sectionId
    visibilityRoles := db.visibilityRoles.filter fun r => r.sectionId != sectionId }

end Unitae.Board
