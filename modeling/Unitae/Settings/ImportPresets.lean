import Unitae.Base.Run
import Unitae.Events.PartPresets
import Unitae.Settings.Archive

/-!
# Unitae — restoring part presets (`import-part-presets.server.ts`)

The importer creates a row for each archived preset. A congregation is provisioned with nine presets before
anything can be imported into it, none of which can be deleted, so that every archive of a
congregation carries nine keys that every target has already: `import_refused`, over the runs of
the services that write presets, and `never_restored` for an import as a whole.
-/

namespace Unitae.Settings

open Events

/-! ## The archive -/

/-- A line of `part-presets.ndjson`. -/
structure PartPresetRecord where
  id : Int
  key : String
  name : Option String
  scope : String
  hasReaderSlot : Bool
  speakerLabel : Option String
  readerLabel : Option String
  allowExternalSpeaker : Bool
  shareMessage : Option String
  isSystem : Bool
deriving DecidableEq, Repr

def PartPreset.record (preset : PartPreset) : PartPresetRecord where
  id := preset.id
  key := preset.key
  name := preset.name
  scope := preset.scope
  hasReaderSlot := preset.hasReaderSlot
  speakerLabel := preset.speakerLabel
  readerLabel := preset.readerLabel
  allowExternalSpeaker := preset.allowExternalSpeaker
  shareMessage := preset.shareMessage
  isSystem := preset.isSystem

/-- The export step `part-presets`. -/
def exportPartPresets (db : PresetDb) : List PartPresetRecord := db.presets.map PartPreset.record

def PartPresetRecord.row (record : PartPresetRecord) (id : Nat) : PartPreset where
  id := id
  key := record.key
  name := record.name
  scope := record.scope
  hasReaderSlot := record.hasReaderSlot
  speakerLabel := record.speakerLabel
  readerLabel := record.readerLabel
  allowExternalSpeaker := record.allowExternalSpeaker
  shareMessage := record.shareMessage
  isSystem := record.isSystem

/-! ## The importer -/

/-- `LEGACY_MIDWEEK_KEYS`: the three kinds that became `midweek-talk`. -/
def legacyMidweekKeys : List String := ["spiritual-gems", "spiritual-pearls", "christian-life-talk"]

def PartPresetRecord.isLegacyMidweek (record : PartPresetRecord) : Bool :=
  record.isSystem && legacyMidweekKeys.contains record.key

/-- The one row the three become, on the defaults of the catalogue. -/
def PartPresetRecord.midweekTalk (record : PartPresetRecord) (id : Nat) : PartPreset where
  id := id
  key := "midweek-talk"
  name := none
  scope := record.scope
  hasReaderSlot := false
  speakerLabel := none
  readerLabel := none
  allowExternalSpeaker := true
  shareMessage := none
  isSystem := true

/-- What the loop carries: the id map and the row of `midweek-talk`, once it has made one. -/
abbrev PresetPass := EntityIdMap × Option Nat

/-- One turn. The row `midweek-talk` is made for the first legacy record. -/
def importPartPreset (pass : PresetPass) (record : PartPresetRecord) : PresetTx PresetPass :=
  if record.isLegacyMidweek then
    match pass.2 with
    | some midweekTalkId => pure (pass.1.set .partPresets record.id midweekTalkId, some midweekTalkId)
    | none => do
      let merged ← insertPartPreset record.midweekTalk
      return (pass.1.set .partPresets record.id merged.id, some merged.id)
  else do
    let created ← insertPartPreset record.row
    return (pass.1.set .partPresets record.id created.id, pass.2)

def importPartPresets (records : List PartPresetRecord) (idMap : EntityIdMap) :
    PresetTx EntityIdMap := do
  let pass ← records.foldlM importPartPreset (idMap, none)
  return pass.1

/-- `runImport`, from the step of the presets on. The steps before it write other tables, `ρ`, and
fill the id map; those after it may write any. -/
def runImport {ρ : Type} (earlier : Tx ρ Failure EntityIdMap) (records : List PartPresetRecord)
    (later : EntityIdMap → Tx (ρ × PresetDb) Failure EntityIdMap) :
    Tx (ρ × PresetDb) Failure EntityIdMap := do
  let idMap ← earlier.on Prod.fst fun s rest => (rest, s.2)
  let idMap ← (importPartPresets records idMap).on Prod.snd fun s presets => (s.1, presets)
  later idMap

/-! ## What a turn can do -/

section Turn

variable {db db' : PresetDb} {pass pass' : PresetPass} {record : PartPresetRecord}

/-- A turn refuses on a taken key or adds one row at most. -/
theorem importPartPreset_cases (pass : PresetPass) (record : PartPresetRecord) (db : PresetDb) :
    ((importPartPreset pass record).exec db = (.error (.database .uniqueConstraint), db) ∨
      ∃ pass' db', (importPartPreset pass record).exec db = (.ok pass', db') ∧
        (db' = db ∨ ∃ row : Nat → PartPreset, (∀ n, (row n).id = n) ∧ db' = db.createPreset row)) := by
  have hinsert : ∀ (row : Nat → PartPreset) (f : PartPreset → PresetPass), (∀ n, (row n).id = n) →
      (((insertPartPreset row >>= fun p => pure (f p)).exec db =
          (.error (.database .uniqueConstraint), db)) ∨
        ∃ pass' db', (insertPartPreset row >>= fun p => pure (f p)).exec db = (.ok pass', db') ∧
          (db' = db ∨ ∃ row : Nat → PartPreset, (∀ n, (row n).id = n) ∧ db' = db.createPreset row)) := by
    intro row f hid
    rw [Tx.exec_bind, insertPartPreset_exec]
    by_cases htaken : db.keyTaken (row db.nextPresetId).key = true
    · rw [if_pos htaken]
      exact .inl rfl
    · rw [if_neg htaken]
      exact .inr ⟨_, _, rfl, .inr ⟨row, hid, rfl⟩⟩
  unfold importPartPreset
  by_cases hlegacy : record.isLegacyMidweek = true
  · rw [if_pos hlegacy]
    cases pass.2 with
    | some midweekTalkId => exact .inr ⟨_, _, rfl, .inl rfl⟩
    | none => exact hinsert record.midweekTalk _ fun _ => rfl
  · rw [if_neg hlegacy]
    exact hinsert record.row _ fun _ => rfl

/-- A record whose key is taken, and is none of the legacy ones, stops the loop. -/
theorem importPartPreset_refused (hlegacy : record.isLegacyMidweek = false)
    (htaken : db.keyTaken record.key = true) :
    (importPartPreset pass record).exec db = (.error (.database .uniqueConstraint), db) := by
  have hkey : (record.row db.nextPresetId).key = record.key := rfl
  unfold importPartPreset
  rw [hlegacy, if_neg Bool.false_ne_true, Tx.exec_bind, insertPartPreset_exec, hkey, if_pos htaken]

/-- No turn frees a key. -/
theorem keyTaken_importPartPreset {key : String} (h : db.keyTaken key = true)
    (hturn : (importPartPreset pass record).exec db = (.ok pass', db')) : db'.keyTaken key = true := by
  rcases importPartPreset_cases pass record db with hrefused | ⟨pass₁, db₁, hok, hdb⟩
  · rw [hrefused] at hturn
    cases hturn
  · rw [hok] at hturn
    cases hturn
    rcases hdb with rfl | ⟨row, _, rfl⟩
    · exact h
    · obtain ⟨p, hp, hkey⟩ := keyTaken_iff.mp h
      exact keyTaken_iff.mpr ⟨p, List.mem_append_left _ hp, hkey⟩

/-- The loop stops at such a record, if it has not stopped before. -/
theorem importPartPresets_refused {records : List PartPresetRecord} (hmem : record ∈ records)
    (hlegacy : record.isLegacyMidweek = false) (htaken : db.keyTaken record.key = true) :
    ((records.foldlM importPartPreset pass).exec db).1 = .error (.database .uniqueConstraint) := by
  induction records generalizing pass db with
  | nil => exact absurd hmem List.not_mem_nil
  | cons first rest ih =>
    rw [List.foldlM_cons, Tx.exec_bind]
    rcases importPartPreset_cases pass first db with hrefused | ⟨pass', db', hok, -⟩
    · rw [hrefused]
    · rw [hok]
      rcases List.mem_cons.mp hmem with rfl | hrest
      · rw [importPartPreset_refused hlegacy htaken] at hok
        cases hok
      · exact ih hrest (keyTaken_importPartPreset htaken hok)

theorem importPartPresets_keeps (records : List PartPresetRecord) (idMap : EntityIdMap) :
    Tx.Keeps PresetDb.Sound (importPartPresets records idMap) := by
  refine Tx.Keeps.bind (Tx.Keeps.foldlM (fun record _ pass => ?_) (idMap, none)) fun pass =>
    Tx.keeps_pure _
  intro db h
  rcases importPartPreset_cases pass record db with hrefused | ⟨pass', db', hok, hdb⟩
  · rw [hrefused]
    exact h
  · rw [hok]
    rcases hdb with rfl | ⟨row, hid, rfl⟩
    · exact h
    · exact h.createPreset hid

end Turn

/-! ## The life of a congregation's presets -/

/-- What writes presets, or the parts that refer to them. -/
inductive PresetEvent where
  | seed
  | create (data : PartPresetInput)
  | update (id : Nat) (data : PartPresetInput)
  | delete (id : Nat)
  | restore (records : List PartPresetRecord)
  | programme (templateParts eventParts : List (Option Nat))
deriving DecidableEq, Repr

/-- One transaction: a refusal rolls it back. -/
def PresetEvent.step (u : Unicode) (db : PresetDb) : PresetEvent → PresetDb
  | .seed => seedDefaultPartPresets.settle (fun _ => false) db
  | .create data => (createPartPreset u data).settle (fun _ => false) db
  | .update id data => (updatePartPreset id data).settle (fun _ => false) db
  | .delete id => (deletePartPreset id).settle (fun _ => false) db
  | .restore records => (importPartPresets records .empty).settle (fun _ => false) db
  | .programme templateParts eventParts =>
    { db with templateParts := templateParts, eventParts := eventParts }

/-- The presets that the congregation can come to have. -/
def Reachable (u : Unicode) (n : Nat) (db : PresetDb) : Prop :=
  Reach (PresetEvent.step u) (fun _ _ => True) (provisionedPresets n) db

theorem PresetEvent.step_sound (u : Unicode) {db : PresetDb} (h : db.Sound) (event : PresetEvent) :
    (event.step u db).Sound := by
  cases event with
  | seed => exact (Tx.Keeps.forM fun preset _ => seedPartPreset_keeps preset).settle h
  | create data => exact (createPartPreset_keeps u data).settle h
  | update id data => exact (updatePartPreset_keeps id data).settle h
  | delete id => exact (deletePartPreset_keeps id).settle h
  | restore records => exact (importPartPresets_keeps records .empty).settle h
  | programme templateParts eventParts => exact ⟨h.ids, h.ids_lt, h.seeded⟩

theorem reachable_sound {u : Unicode} {n : Nat} {db : PresetDb} (h : Reachable u n db) : db.Sound :=
  h.invariant (provisionedPresets_sound n) fun _ event hs _ => event.step_sound u hs

/-- Whatever a congregation has done, importing its presets into a sound one breaks a unique key. -/
theorem import_refused {source target : PresetDb} (hsource : source.Sound) (htarget : target.Sound)
    (idMap : EntityIdMap) :
    ((importPartPresets (exportPartPresets source) idMap).exec target).1 =
      .error (.database .uniqueConstraint) := by
  obtain ⟨p, hp, hkey, -⟩ := hsource.seeded .prayer
  obtain ⟨q, hq, hkey', -⟩ := htarget.seeded .prayer
  have hmem : PartPreset.record p ∈ exportPartPresets source := List.mem_map.mpr ⟨p, hp, rfl⟩
  have hrecord : (PartPreset.record p).key = "prayer" := hkey
  have hlegacy : (PartPreset.record p).isLegacyMidweek = false := by
    rw [PartPresetRecord.isLegacyMidweek, hrecord]
    exact Bool.and_false _
  have htaken : target.keyTaken (PartPreset.record p).key = true :=
    keyTaken_iff.mpr ⟨q, hq, hkey'.trans hrecord.symm⟩
  have hloop : (((exportPartPresets source).foldlM importPartPreset (idMap, none)).exec target).1 =
      .error (.database .uniqueConstraint) := importPartPresets_refused hmem hlegacy htaken
  unfold importPartPresets
  rw [Tx.exec_bind]
  rcases hfold : ((exportPartPresets source).foldlM importPartPreset (idMap, none)).exec target with
    ⟨outcome, after⟩
  rw [hfold] at hloop
  subst hloop
  rfl

/-! ## Restoring a backup -/

/-- The presets are there again: a row of the target for each, no row for two, with its fields. -/
structure PresetsRestored (source : PresetDb) (idMap : EntityIdMap) (target : PresetDb) : Prop where
  injective : ∀ p ∈ source.presets, ∀ q ∈ source.presets,
    idMap.find .partPresets p.id = idMap.find .partPresets q.id → p.id = q.id
  found : ∀ p ∈ source.presets, ∃ newId, idMap.find .partPresets p.id = some newId ∧
    target.presetById newId = some ((PartPreset.record p).row newId)

/-- The import completes, the presets are restored, and so are the other tables, as `agrees` has it. -/
def Restores {ρ : Type} (earlier : Tx ρ Failure EntityIdMap)
    (later : EntityIdMap → Tx (ρ × PresetDb) Failure EntityIdMap) (agrees : EntityIdMap → ρ → Prop)
    (source : PresetDb) (rest : ρ) (target : PresetDb) : Prop :=
  ∃ idMap s', (runImport earlier (exportPartPresets source) later).exec (rest, target) =
    (.ok idMap, s') ∧ agrees idMap s'.1 ∧ PresetsRestored source idMap s'.2

/-- **No backup can be restored.** Whatever the other steps do, and whatever is asked of their
tables, the archive of a congregation is refused by every congregation that has just been provisioned. -/
theorem never_restored {ρ : Type} (u : Unicode) {source : PresetDb} {m : Nat}
    (hsource : Reachable u m source) (earlier : Tx ρ Failure EntityIdMap)
    (later : EntityIdMap → Tx (ρ × PresetDb) Failure EntityIdMap) (agrees : EntityIdMap → ρ → Prop)
    (rest : ρ) (n : Nat) :
    ¬Restores earlier later agrees source rest (provisionedPresets n) := by
  intro ⟨idMap, s', hexec, _, _⟩
  unfold runImport at hexec
  obtain ⟨idMap₁, s₁, hearlier, hexec⟩ := Tx.exec_bind_ok.mp hexec
  obtain ⟨idMap₂, s₂, hpresets, -⟩ := Tx.exec_bind_ok.mp hexec
  -- the steps before left the presets as they were seeded
  obtain ⟨rest', -, rfl⟩ := Tx.exec_on_ok.mp hearlier
  obtain ⟨presets', himport, -⟩ := Tx.exec_on_ok.mp hpresets
  have hrefused := import_refused (reachable_sound hsource) (provisionedPresets_sound n) idMap₁
  rw [himport] at hrefused
  cases hrefused

/-- The source has added a kind of its own. -/
def visitPreset : PartPresetInput where
  name := some "visite"
  hasReaderSlot := false
  speakerLabel := none
  readerLabel := none
  allowExternalSpeaker := true
  shareMessage := none

theorem never_restored_visit :
    ¬Restores (pure .empty : Tx Unit Failure EntityIdMap) pure (fun _ _ => True)
      ((PresetEvent.create visitPreset).step .lowerAscii (provisionedPresets 1)) ()
      (provisionedPresets 20) :=
  never_restored .lowerAscii (Reach.one trivial) _ _ _ _ 20

/-- A congregation that has changed nothing is refused at its first preset. -/
theorem seeded_backup_refused :
    ((runImport (pure .empty : Tx Unit Failure EntityIdMap)
      (exportPartPresets (provisionedPresets 1)) pure).exec ((), provisionedPresets 20)).1 =
      .error (.database .uniqueConstraint) := by
  decide +kernel

end Unitae.Settings
