import Mathlib.Data.Set.Basic
import Unitae.Base.Table
import Unitae.Events.Schema

/-!
# Unitae — copying a template (`duplicate-template.server.ts`)

A template is copied with its parts and services, and then the roles allowed for each of them. The
rows of the copy are created first; a new part finds the part it is to take its roles from by
`order`, a new service by `name`. Neither column is a key: parts on parallel tracks share an order, and
all of them take the roles of the last.
-/

namespace Unitae.Events

/-! ## The tables -/

/-- A template with all the columns that a copy reads. -/
structure TemplateRow extends EventTemplate where
  description : String
  isRecurring : Bool
  color : String
deriving DecidableEq, Repr

structure TemplateServiceRow extends TemplateServicePart where
  key : String
deriving DecidableEq, Repr

structure TemplateDb where
  templates : List TemplateRow
  parts : List TemplatePart
  serviceParts : List TemplateServiceRow
  partAllowedRoles : List TemplatePartAllowedRole
  servicePartAllowedRoles : List TemplateServicePartAllowedRole
  nextTemplateId : Nat
  nextPartId : Nat
  nextServicePartId : Nat
deriving DecidableEq, Repr

/-- Foreign keys name rows that are there, and ids come from a sequence. -/
structure TemplateDb.Sound (db : TemplateDb) : Prop where
  part_template : ∀ p ∈ db.parts, p.templateId < db.nextTemplateId
  service_template : ∀ s ∈ db.serviceParts, s.templateId < db.nextTemplateId
  role_part : ∀ r ∈ db.partAllowedRoles, r.partId < db.nextPartId
  role_service : ∀ r ∈ db.servicePartAllowedRoles, r.servicePartId < db.nextServicePartId

/-- `@default("#cfcfcf")` on `EventTemplate.color`. -/
def defaultTemplateColor : String := "#cfcfcf"

/-- `SYSTEM_TEMPLATE_KEYS` are `day-off` and `freeform`. -/
def isSystemTemplate (key : String) : Bool := [dayOffKey, "freeform"].contains key

/-! ## The copy -/

/-- A template with the rows that the query includes. -/
structure TemplateWithRows where
  template : TemplateRow
  parts : List TemplatePart
  serviceParts : List TemplateServiceRow
deriving DecidableEq, Repr

def TemplateDb.templateById (db : TemplateDb) (templateId : Nat) : Option TemplateRow :=
  db.templates.find? (·.id == templateId)

/-- `include: { parts: { orderBy: { order: 'asc' } }, serviceParts }`. -/
def TemplateDb.withRows (db : TemplateDb) (template : TemplateRow) : TemplateWithRows where
  template := template
  parts := (db.parts.filter (·.templateId == template.id)).mergeSort fun a b => a.order ≤ b.order
  serviceParts := db.serviceParts.filter (·.templateId == template.id)

/-- The colour is not named and takes its default. -/
def copiedTemplate (now : Instant) (source : TemplateRow) (id : Nat) : TemplateRow where
  id := id
  name := source.name ++ " (copie)"
  key := source.key ++ "-copy-" ++ toString now
  description := source.description
  weekDay := source.weekDay
  isRecurring := source.isRecurring
  startTime := source.startTime
  endTime := source.endTime
  color := defaultTemplateColor

def copiedPart (templateId : Nat) (part : TemplatePart) (id : Nat) : TemplatePart where
  id := id
  templateId := templateId
  name := part.name
  sectionName := part.sectionName
  track := part.track
  trackOrder := part.trackOrder
  order := part.order
  durationMin := part.durationMin
  allowExternalSpeaker := part.allowExternalSpeaker
  speakerLabel := part.speakerLabel
  readerLabel := part.readerLabel
  presetId := part.presetId

/-- `presetId` is not named and stays null. -/
def copiedServicePart (now : Instant) (templateId : Nat) (role : TemplateServiceRow) (id : Nat) :
    TemplateServiceRow where
  id := id
  templateId := templateId
  name := role.name
  key := role.key ++ "-copy-" ++ toString now
  presetId := none

/-- `db.eventTemplate.create` with the rows nested in it. -/
def TemplateDb.createCopy (now : Instant) (source : TemplateWithRows) (db : TemplateDb) : TemplateDb :=
  { db with
    templates := db.templates ++ [copiedTemplate now source.template db.nextTemplateId]
    parts := db.parts ++ numbered (copiedPart db.nextTemplateId) db.nextPartId source.parts
    serviceParts := db.serviceParts ++
      numbered (copiedServicePart now db.nextTemplateId) db.nextServicePartId source.serviceParts
    nextTemplateId := db.nextTemplateId + 1
    nextPartId := db.nextPartId + source.parts.length
    nextServicePartId := db.nextServicePartId + source.serviceParts.length }

/-- One turn of the loop over the new parts. `read` is the database the source was read from. -/
def copyPartRoles (read : TemplateDb) (source : List TemplatePart)
    (table : List TemplatePartAllowedRole) (newPart : TemplatePart) : List TemplatePartAllowedRole :=
  match lastByKey (·.order) source newPart.order with
  | none => table
  | some sourcePart =>
    let allowedRoles := read.partAllowedRoles.filter (·.partId == sourcePart.id)
    let speakerRoleIds := (allowedRoles.filter (·.asKind == .speaker)).map (·.roleId)
    let readerRoleIds := (allowedRoles.filter (·.asKind == .reader)).map (·.roleId)
    let table := insertMissing table (speakerRoleIds.map fun roleId => ⟨newPart.id, roleId, .speaker⟩)
    insertMissing table (readerRoleIds.map fun roleId => ⟨newPart.id, roleId, .reader⟩)

def copyServiceRoles (read : TemplateDb) (source : List TemplateServiceRow)
    (table : List TemplateServicePartAllowedRole) (newRole : TemplateServiceRow) :
    List TemplateServicePartAllowedRole :=
  match lastByKey (·.name) source newRole.name with
  | none => table
  | some sourceRole =>
    let allowedRoles := read.servicePartAllowedRoles.filter (·.servicePartId == sourceRole.id)
    insertMissing table (allowedRoles.map fun r => ⟨newRole.id, r.roleId⟩)

/-- The two loops that give the new rows their roles. -/
def TemplateDb.attachRoles (read : TemplateDb) (source duplicated : TemplateWithRows)
    (db : TemplateDb) : TemplateDb :=
  { db with
    partAllowedRoles :=
      duplicated.parts.foldl (copyPartRoles read source.parts) db.partAllowedRoles
    servicePartAllowedRoles :=
      duplicated.serviceParts.foldl (copyServiceRoles read source.serviceParts)
        db.servicePartAllowedRoles }

/-- `include` of `create`: the parts by `order`, the services by `name`. -/
def TemplateDb.duplicatedRows (db : TemplateDb) (copy : TemplateRow) : TemplateWithRows :=
  { db.withRows copy with
    serviceParts := (db.withRows copy).serviceParts.mergeSort fun a b => a.name ≤ b.name }

/-- A system template is not duplicated. One reading of the clock stands for all of `Date.now()`. -/
def duplicateTemplate (now : Instant) (templateId : Nat) :
    Tx TemplateDb Failure (Option TemplateWithRows) := do
  let db ← get
  match db.templateById templateId with
  | none => return none
  | some template =>
    if isSystemTemplate template.key then
      return none
    else
      let source := db.withRows template
      let copy := copiedTemplate now template db.nextTemplateId
      Tx.check (Tx.refuseWhen (∃ t ∈ db.templates, t.key = copy.key) (.database .uniqueConstraint))
      modify (·.createCopy now source)
      let created ← get
      let duplicated := created.duplicatedRows copy
      modify (db.attachRoles source duplicated)
      return some duplicated

/-! ## What a copy keeps -/

/-- The roles allowed for a part, each with its slot. -/
def TemplateDb.allowedRoles (db : TemplateDb) (partId : Nat) : Set (Nat × PartRoleKind) :=
  {r | ⟨partId, r.1, r.2⟩ ∈ db.partAllowedRoles}

def TemplateDb.allowedServiceRoles (db : TemplateDb) (servicePartId : Nat) : Set Nat :=
  {roleId | ⟨servicePartId, roleId⟩ ∈ db.servicePartAllowedRoles}

/-- `copy` is in `db'` what `part` is in `db`, but for its identity. -/
structure PartPreserved (db db' : TemplateDb) (part copy : TemplatePart) : Prop where
  columns : copy = { part with id := copy.id, templateId := copy.templateId }
  roles : db'.allowedRoles copy.id = db.allowedRoles part.id

/-- The key is the identity of a service beside its id. -/
structure ServicePreserved (db db' : TemplateDb) (role copy : TemplateServiceRow) : Prop where
  columns : copy = { role with id := copy.id, templateId := copy.templateId, key := copy.key }
  roles : db'.allowedServiceRoles copy.id = db.allowedServiceRoles role.id

/-- The parts and services of `copy` are, one by one, those of `source`. -/
structure Preserves (db db' : TemplateDb) (source copy : TemplateRow) : Prop where
  created : copy ∈ db'.templates
  parts : List.Forall₂ (PartPreserved db db') (db.withRows source).parts (db'.withRows copy).parts
  services : List.Forall₂ (ServicePreserved db db') (db.withRows source).serviceParts
    (db'.withRows copy).serviceParts

/-- `copy` has the columns of `source` but for identity and name. -/
def SameColumns (source copy : TemplateRow) : Prop :=
  copy = { source with id := copy.id, key := copy.key, name := copy.name }

/-- What a template must be like to be copied whole. -/
structure Copyable (db : TemplateDb) (now : Instant) (source : TemplateRow) : Prop where
  ordinary : isSystemTemplate source.key = false
  key_free : ∀ t ∈ db.templates, t.key ≠ source.key ++ "-copy-" ++ toString now
  roles_by_order : ∀ p ∈ (db.withRows source).parts, ∀ q ∈ (db.withRows source).parts,
    p.order = q.order → db.allowedRoles p.id = db.allowedRoles q.id
  roles_by_name : ∀ s ∈ (db.withRows source).serviceParts, ∀ t ∈ (db.withRows source).serviceParts,
    s.name = t.name → db.allowedServiceRoles s.id = db.allowedServiceRoles t.id
  unclassified : ∀ s ∈ (db.withRows source).serviceParts, s.presetId = none

section Copies

variable {db db' : TemplateDb} {now : Instant} {source : TemplateRow} {templateId : Nat}

/-! ## The rows of the copy -/

theorem createCopy_parts (hdb : db.Sound) :
    ((db.createCopy now (db.withRows source)).withRows
        (copiedTemplate now source db.nextTemplateId)).parts =
      numbered (copiedPart db.nextTemplateId) db.nextPartId (db.withRows source).parts := by
  have hsorted : (db.withRows source).parts.Pairwise fun a b => a.order ≤ b.order := by
    have hsort := @List.pairwise_mergeSort TemplatePart (fun a b => decide (a.order ≤ b.order))
      (by simp; omega) (by simp; omega) (db.parts.filter (·.templateId == source.id))
    exact hsort.imp (fun h => of_decide_eq_true h)
  show ((db.parts ++ _).filter (·.templateId == db.nextTemplateId)).mergeSort _ = _
  rw [filter_append_numbered (fun p hp => Nat.ne_of_lt (hdb.part_template p hp)) fun _ _ => rfl]
  -- the copies keep the order of the parts, so that sorting them again changes nothing
  refine List.mergeSort_of_pairwise ?_
  exact pairwise_numbered (fun a b _ _ h => decide_eq_true h) hsorted

theorem createCopy_services (hdb : db.Sound) :
    ((db.createCopy now (db.withRows source)).withRows
        (copiedTemplate now source db.nextTemplateId)).serviceParts =
      numbered (copiedServicePart now db.nextTemplateId) db.nextServicePartId
        (db.withRows source).serviceParts :=
  filter_append_numbered (fun s hs => Nat.ne_of_lt (hdb.service_template s hs)) fun _ _ => rfl

/-! ## The roles of the copy -/

/-- The rows that the copy of a slot inserts. -/
theorem mem_slotRows {rows : List TemplatePartAllowedRole} {sourceId newId : Nat}
    {kind : PartRoleKind} {r : TemplatePartAllowedRole} :
    r ∈ (((rows.filter (·.partId == sourceId)).filter (·.asKind == kind)).map (·.roleId)).map
        (fun roleId => (⟨newId, roleId, kind⟩ : TemplatePartAllowedRole)) ↔
      r.partId = newId ∧ r.asKind = kind ∧ ⟨sourceId, r.roleId, r.asKind⟩ ∈ rows := by
  simp only [List.map_map, List.mem_map, List.mem_filter, beq_iff_eq, Function.comp_apply]
  constructor
  · rintro ⟨a, ⟨⟨ha, rfl⟩, rfl⟩, rfl⟩
    exact ⟨rfl, rfl, ha⟩
  · rintro ⟨rfl, rfl, hr⟩
    exact ⟨_, ⟨⟨hr, rfl⟩, rfl⟩, rfl⟩

theorem mem_copyPartRoles {parts : List TemplatePart} (table : List TemplatePartAllowedRole)
    (newPart : TemplatePart) (r : TemplatePartAllowedRole) :
    r ∈ copyPartRoles db parts table newPart ↔ r ∈ table ∨ r.partId = newPart.id ∧
      ∃ part, lastByKey (·.order) parts newPart.order = some part ∧
        (r.roleId, r.asKind) ∈ db.allowedRoles part.id := by
  unfold copyPartRoles
  cases lastByKey (·.order) parts newPart.order with
  | none => simp
  | some part =>
    simp only [mem_insertMissing, mem_slotRows, or_assoc, Option.some.injEq, exists_eq_left']
    refine or_congr_right ?_
    -- a row is of the one slot or of the other
    cases hkind : r.asKind <;> simp [TemplateDb.allowedRoles]

theorem mem_copyServiceRoles {services : List TemplateServiceRow}
    (table : List TemplateServicePartAllowedRole) (newRole : TemplateServiceRow)
    (r : TemplateServicePartAllowedRole) :
    r ∈ copyServiceRoles db services table newRole ↔ r ∈ table ∨ r.servicePartId = newRole.id ∧
      ∃ role, lastByKey (·.name) services newRole.name = some role ∧
        r.roleId ∈ db.allowedServiceRoles role.id := by
  unfold copyServiceRoles
  cases lastByKey (·.name) services newRole.name with
  | none => simp
  | some role =>
    simp only [mem_insertMissing, List.mem_map, List.mem_filter, beq_iff_eq, Option.some.injEq,
      exists_eq_left']
    refine or_congr_right ⟨?_, ?_⟩
    · rintro ⟨a, ⟨ha, hid⟩, rfl⟩
      exact ⟨rfl, show _ ∈ db.servicePartAllowedRoles from hid ▸ ha⟩
    · rintro ⟨hid, hr⟩
      exact ⟨_, ⟨hr, rfl⟩, by rw [← hid]⟩

/-- The database that a copy leaves. -/
def TemplateDb.afterCopy (db : TemplateDb) (now : Instant) (source : TemplateRow) : TemplateDb :=
  let created := db.createCopy now (db.withRows source)
  db.attachRoles (db.withRows source)
    (created.duplicatedRows (copiedTemplate now source db.nextTemplateId)) created

/-- A new part ends up with the roles of the last part of its order. -/
theorem allowedRoles_afterCopy (hdb : db.Sound) {part copy : TemplatePart}
    (hcopy : (part, copy) ∈ (db.withRows source).parts.zip
      (numbered (copiedPart db.nextTemplateId) db.nextPartId (db.withRows source).parts)) :
    (db.afterCopy now source).allowedRoles copy.id =
      {r | ∃ last, lastByKey (·.order) (db.withRows source).parts part.order = some last ∧
        r ∈ db.allowedRoles last.id} := by
  obtain ⟨_, i, hle, _, rfl⟩ := mem_zip_numbered hcopy
  have hparts : ((db.createCopy now (db.withRows source)).duplicatedRows
      (copiedTemplate now source db.nextTemplateId)).parts = _ := createCopy_parts hdb
  have hkeyed : Keyed (·.id) (numbered (copiedPart db.nextTemplateId) db.nextPartId
      (db.withRows source).parts) := keyed_numbered fun _ _ => rfl
  ext r
  show (⟨i, r.1, r.2⟩ : TemplatePartAllowedRole) ∈ (((db.createCopy now
    (db.withRows source)).duplicatedRows (copiedTemplate now source db.nextTemplateId)).parts.foldl
      (copyPartRoles db (db.withRows source).parts) db.partAllowedRoles) ↔ _
  rw [hparts]
  refine mem_foldl_adds_own (x := copiedPart db.nextTemplateId part i)
    (fun table x r => mem_copyPartRoles table x r) hkeyed (List.of_mem_zip hcopy).2 (fun r hr => ?_) rfl
  have hlt : r.partId < db.nextPartId := hdb.role_part r hr
  show r.partId ≠ i
  omega

/-- A new service ends up with the roles of the last service of its name. -/
theorem allowedServiceRoles_afterCopy (hdb : db.Sound) {role copy : TemplateServiceRow}
    (hcopy : (role, copy) ∈ (db.withRows source).serviceParts.zip
      (numbered (copiedServicePart now db.nextTemplateId) db.nextServicePartId
        (db.withRows source).serviceParts)) :
    (db.afterCopy now source).allowedServiceRoles copy.id =
      {r | ∃ last, lastByKey (·.name) (db.withRows source).serviceParts role.name = some last ∧
        r ∈ db.allowedServiceRoles last.id} := by
  obtain ⟨_, i, hle, _, rfl⟩ := mem_zip_numbered hcopy
  have hservices : ((db.createCopy now (db.withRows source)).duplicatedRows
      (copiedTemplate now source db.nextTemplateId)).serviceParts.Perm
        (numbered (copiedServicePart now db.nextTemplateId) db.nextServicePartId
          (db.withRows source).serviceParts) :=
    (List.mergeSort_perm _ _).trans (.of_eq (createCopy_services hdb))
  have hkeyed : Keyed (·.id) ((db.createCopy now (db.withRows source)).duplicatedRows
      (copiedTemplate now source db.nextTemplateId)).serviceParts := by
    refine (hservices.map _).nodup_iff.mpr ?_
    exact keyed_numbered fun _ _ => rfl
  ext r
  refine mem_foldl_adds_own (x := copiedServicePart now db.nextTemplateId role i)
    (fun table x r => mem_copyServiceRoles table x r) hkeyed
    (hservices.mem_iff.mpr (List.of_mem_zip hcopy).2) (fun r hr => ?_) rfl
  have hlt : r.servicePartId < db.nextServicePartId := hdb.role_service r hr
  show r.servicePartId ≠ i
  omega

/-! ## When the copy is whole -/

theorem partPreserved_iff (hdb : db.Sound) {part copy : TemplatePart}
    (hcopy : (part, copy) ∈ (db.withRows source).parts.zip
      (numbered (copiedPart db.nextTemplateId) db.nextPartId (db.withRows source).parts)) :
    PartPreserved db (db.afterCopy now source) part copy ↔
      ∀ last, lastByKey (·.order) (db.withRows source).parts part.order = some last →
        db.allowedRoles last.id = db.allowedRoles part.id := by
  obtain ⟨hpart, i, _, _, hrow⟩ := mem_zip_numbered hcopy
  rw [← lastByKey_assigns_iff (f := fun p => db.allowedRoles p.id) hpart,
    ← @allowedRoles_afterCopy db now source hdb part copy hcopy]
  refine ⟨fun h => h.roles, fun h => ⟨?_, h⟩⟩
  rw [hrow]
  rfl

theorem servicePreserved_iff (hdb : db.Sound) {role copy : TemplateServiceRow}
    (hcopy : (role, copy) ∈ (db.withRows source).serviceParts.zip
      (numbered (copiedServicePart now db.nextTemplateId) db.nextServicePartId
        (db.withRows source).serviceParts)) :
    ServicePreserved db (db.afterCopy now source) role copy ↔
      (∀ last, lastByKey (·.name) (db.withRows source).serviceParts role.name = some last →
        db.allowedServiceRoles last.id = db.allowedServiceRoles role.id) ∧ role.presetId = none := by
  obtain ⟨hrole, i, _, _, hrow⟩ := mem_zip_numbered hcopy
  rw [← lastByKey_assigns_iff (f := fun s => db.allowedServiceRoles s.id) hrole,
    ← @allowedServiceRoles_afterCopy db now source hdb role copy hcopy]
  have hcolumns : copy = { role with id := copy.id, templateId := copy.templateId, key := copy.key } ↔
      role.presetId = none := by
    rw [hrow]
    simp [copiedServicePart, eq_comm]
  exact ⟨fun h => ⟨h.roles, hcolumns.mp h.columns⟩, fun h => ⟨hcolumns.mpr h.2, h.1⟩⟩

/-- The parts and services of the copy are those of the source exactly when no lookup finds another
row's roles, and no service has a kind. -/
theorem preserves_afterCopy_iff (hdb : db.Sound) :
    Preserves db (db.afterCopy now source) source (copiedTemplate now source db.nextTemplateId) ↔
      (∀ p ∈ (db.withRows source).parts, ∀ q ∈ (db.withRows source).parts,
        p.order = q.order → db.allowedRoles p.id = db.allowedRoles q.id) ∧
      (∀ s ∈ (db.withRows source).serviceParts, ∀ t ∈ (db.withRows source).serviceParts,
        s.name = t.name → db.allowedServiceRoles s.id = db.allowedServiceRoles t.id) ∧
      ∀ s ∈ (db.withRows source).serviceParts, s.presetId = none := by
  have hparts : ((db.afterCopy now source).withRows
      (copiedTemplate now source db.nextTemplateId)).parts = _ := createCopy_parts hdb
  have hservices : ((db.afterCopy now source).withRows
      (copiedTemplate now source db.nextTemplateId)).serviceParts = _ := createCopy_services hdb
  have hcreated : copiedTemplate now source db.nextTemplateId ∈ (db.afterCopy now source).templates :=
    List.mem_append_right _ List.mem_cons_self
  have hp := forall₂_numbered_iff (R := PartPreserved db (db.afterCopy now source))
    fun part copy => @partPreserved_iff db now source hdb part copy
  have hs := forall₂_numbered_iff (R := ServicePreserved db (db.afterCopy now source))
    fun role copy => @servicePreserved_iff db now source hdb role copy
  rw [← hparts] at hp
  rw [← hservices, forall₂_and] at hs
  rw [← lastByKey_agrees_iff (f := fun p : TemplatePart => db.allowedRoles p.id),
    ← lastByKey_agrees_iff (f := fun s : TemplateServiceRow => db.allowedServiceRoles s.id), ← hp, ← hs]
  exact ⟨fun h => ⟨h.parts, h.services⟩, fun h => ⟨hcreated, h.1, h.2⟩⟩

theorem duplicateTemplate_ok_iff {rows : TemplateWithRows}
    (hsource : db.templateById templateId = some source) :
    (duplicateTemplate now templateId).exec db = (.ok (some rows), db') ↔
      (isSystemTemplate source.key = false ∧
        ∀ t ∈ db.templates, t.key ≠ source.key ++ "-copy-" ++ toString now) ∧
      rows = (db.createCopy now (db.withRows source)).duplicatedRows
        (copiedTemplate now source db.nextTemplateId) ∧ db' = db.afterCopy now source := by
  have hfree : (¬∃ t ∈ db.templates, t.key = source.key ++ "-copy-" ++ toString now) ↔
      ∀ t ∈ db.templates, t.key ≠ source.key ++ "-copy-" ++ toString now := by
    push Not
    rfl
  unfold duplicateTemplate
  rw [Tx.exec_bind_get]
  simp only [hsource]
  cases hsystem : isSystemTemplate source.key with
  | true => simp
  | false =>
    simp only [Bool.false_eq_true, if_false, Tx.exec_bind_check_ok, Tx.refuseWhen_ok,
      Tx.exec_bind_modify, Tx.exec_bind_get, Tx.exec_pure_ok, exists_const, Option.some.injEq]
    rw [← hfree]
    simp only [true_and, eq_comm]
    rfl

/-- **A copy is the template's whole exactly when** the template may be copied, parts of one order
and services of one name have the same roles, and no service has a kind. The template's own columns come
over as well when its colour is the default. -/
theorem duplicateTemplate_preserves_iff (hdb : db.Sound)
    (hsource : db.templateById templateId = some source) :
    ((∃ rows db', (duplicateTemplate now templateId).exec db = (.ok (some rows), db') ∧
        Preserves db db' source rows.template) ↔ Copyable db now source) ∧
      ((∃ rows db', (duplicateTemplate now templateId).exec db = (.ok (some rows), db') ∧
        Preserves db db' source rows.template ∧ SameColumns source rows.template) ↔
          Copyable db now source ∧ source.color = defaultTemplateColor) := by
  have hcolumns : SameColumns source (copiedTemplate now source db.nextTemplateId) ↔
      source.color = defaultTemplateColor := by
    simp [SameColumns, copiedTemplate, eq_comm]
  have hcopyable : ((isSystemTemplate source.key = false ∧
        ∀ t ∈ db.templates, t.key ≠ source.key ++ "-copy-" ++ toString now) ∧
      Preserves db (db.afterCopy now source) source (copiedTemplate now source db.nextTemplateId)) ↔
        Copyable db now source := by
    rw [preserves_afterCopy_iff hdb]
    exact ⟨fun ⟨⟨h1, h2⟩, h3, h4, h5⟩ => ⟨h1, h2, h3, h4, h5⟩,
      fun h => ⟨⟨h.1, h.2⟩, h.3, h.4, h.5⟩⟩
  rw [← hcopyable, ← hcolumns]
  simp only [duplicateTemplate_ok_iff hsource]
  refine ⟨⟨?_, fun ⟨h, hkept⟩ => ⟨_, _, ⟨h, rfl, rfl⟩, hkept⟩⟩,
    ⟨?_, fun ⟨⟨h, hkept⟩, hsame⟩ => ⟨_, _, ⟨h, rfl, rfl⟩, hkept, hsame⟩⟩⟩
  · rintro ⟨_, _, ⟨h, rfl, rfl⟩, hkept⟩
    exact ⟨h, hkept⟩
  · rintro ⟨_, _, ⟨h, rfl, rfl⟩, hkept, hsame⟩
    exact ⟨⟨h, hkept⟩, hsame⟩

end Copies

/-! ## A template with parallel tracks -/

def assembly : TemplateRow where
  id := 1
  name := "Assemblée"
  key := "assembly"
  weekDay := none
  startTime := "09:30"
  endTime := "16:00"
  description := ""
  isRecurring := false
  color := defaultTemplateColor

def assemblyPart (id : Nat) (track : String) : TemplatePart where
  id := id
  templateId := 1
  name := "Discours"
  sectionName := ""
  track := track
  trackOrder := some id
  order := 3
  durationMin := some 30
  allowExternalSpeaker := false
  speakerLabel := none
  readerLabel := none
  presetId := none

/-- Two parts of one order on parallel tracks, each with the speakers that `roles` allows. -/
def parallelTracks (roles : List TemplatePartAllowedRole) : TemplateDb where
  templates := [assembly]
  parts := [assemblyPart 1 "A", assemblyPart 2 "B"]
  serviceParts := []
  partAllowedRoles := roles
  servicePartAllowedRoles := []
  nextTemplateId := 2
  nextPartId := 3
  nextServicePartId := 1

theorem parallelTracks_parts {roles : List TemplatePartAllowedRole} {p : TemplatePart} :
    p ∈ ((parallelTracks roles).withRows assembly).parts ↔
      p = assemblyPart 1 "A" ∨ p = assemblyPart 2 "B" := by
  simp [TemplateDb.withRows, parallelTracks, assemblyPart, assembly]

theorem parallelTracks_sound {roles : List TemplatePartAllowedRole}
    (h : ∀ r ∈ roles, r.partId < 3) : (parallelTracks roles).Sound where
  part_template := by simp [parallelTracks, assemblyPart]
  service_template := by simp [parallelTracks]
  role_part := h
  role_service := by simp [parallelTracks]

/-- The speakers of one hall replace those of the other. -/
theorem parallelTracks_not_preserved :
    ¬∃ rows db', (duplicateTemplate 0 1).exec (parallelTracks [⟨1, 10, .speaker⟩, ⟨2, 20, .speaker⟩]) =
        (.ok (some rows), db') ∧
      Preserves (parallelTracks [⟨1, 10, .speaker⟩, ⟨2, 20, .speaker⟩]) db' assembly rows.template := by
  rintro ⟨rows, db', hrun, hkept⟩
  obtain ⟨_, rfl, rfl⟩ := (duplicateTemplate_ok_iff rfl).mp hrun
  have hroles := ((preserves_afterCopy_iff (parallelTracks_sound (by simp))).mp hkept).1
    _ (parallelTracks_parts.mpr (.inl rfl)) _ (parallelTracks_parts.mpr (.inr rfl)) rfl
  have hother : (10, .speaker) ∈
      (parallelTracks [⟨1, 10, .speaker⟩, ⟨2, 20, .speaker⟩]).allowedRoles 2 :=
    hroles ▸ (List.mem_cons_self : (⟨1, 10, .speaker⟩ : TemplatePartAllowedRole) ∈ _)
  simp [TemplateDb.allowedRoles, parallelTracks] at hother

theorem parallelTracks_preserved :
    ∃ rows db', (duplicateTemplate 0 1).exec (parallelTracks [⟨1, 10, .speaker⟩, ⟨2, 10, .speaker⟩]) =
        (.ok (some rows), db') ∧
      Preserves (parallelTracks [⟨1, 10, .speaker⟩, ⟨2, 10, .speaker⟩]) db' assembly
        rows.template := by
  refine (duplicateTemplate_preserves_iff (parallelTracks_sound (by simp)) rfl).1.mpr
    ⟨by decide, ?_, fun p hp q hq _ => ?_, ?_, ?_⟩
  · intro t ht
    rw [List.mem_singleton.mp ht]
    decide
  · have hroles : ∀ p ∈ ((parallelTracks [⟨1, 10, .speaker⟩, ⟨2, 10, .speaker⟩]).withRows assembly).parts,
        (parallelTracks [⟨1, 10, .speaker⟩, ⟨2, 10, .speaker⟩]).allowedRoles p.id =
          {(10, .speaker)} := by
      intro p hp
      ext r
      rcases parallelTracks_parts.mp hp with rfl | rfl <;>
        simp [TemplateDb.allowedRoles, parallelTracks, assemblyPart, Prod.ext_iff]
    rw [hroles p hp, hroles q hq]
  · simp [TemplateDb.withRows, parallelTracks]
  · simp [TemplateDb.withRows, parallelTracks]

end Unitae.Events
