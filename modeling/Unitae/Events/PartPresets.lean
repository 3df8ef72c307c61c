import Mathlib.Data.List.Perm.Subperm
import Mathlib.Data.List.Range
import Mathlib.Tactic.Simps.Basic
import Unitae.Base.Table
import Unitae.Base.Transaction
import Unitae.Errors
import Unitae.Text

/-!
# Unitae — part presets (`part-presets.server.ts`, `seed-part-presets.server.ts`)

The kinds of programme part of one congregation. Nine of them are seeded when a congregation is
provisioned, each under a key of its own; a congregation adds others, renames any, and deletes those
that no part refers to, but never a seeded one.

Of the parts only their `presetId` is read here.
-/

namespace Unitae.Events

inductive PartPresetKey where
  | prayer
  | chairman
  | midweekTalk
  | bibleReading
  | schoolDemonstration
  | schoolTalk
  | publicTalk
  | watchtowerStudy
  | congregationBibleStudy
deriving DecidableEq, Repr

def PartPresetKey.value : PartPresetKey → String
  | .prayer => "prayer"
  | .chairman => "chairman"
  | .midweekTalk => "midweek-talk"
  | .bibleReading => "bible-reading"
  | .schoolDemonstration => "school-demonstration"
  | .schoolTalk => "school-talk"
  | .publicTalk => "public-talk"
  | .watchtowerStudy => "watchtower-study"
  | .congregationBibleStudy => "congregation-bible-study"

/-- `PartPresetScope.Part`. -/
def partScope : String := "part"

/-- A null name, label or message stands for the built-in wording. -/
structure PartPreset where
  id : Nat
  key : String
  name : Option String
  scope : String
  hasReaderSlot : Bool
  speakerLabel : Option String
  readerLabel : Option String
  allowExternalSpeaker : Bool
  shareMessage : Option String
  isSystem : Bool
deriving DecidableEq, Repr

structure PresetDb where
  presets : List PartPreset
  /-- The `presetId` of each template part, and of each part of an event. -/
  templateParts : List (Option Nat)
  eventParts : List (Option Nat)
  nextPresetId : Nat
deriving DecidableEq, Repr

abbrev PresetTx (α : Type) := Tx PresetDb Failure α

/-- A congregation without presets, next in line for the id `n`. -/
def PresetDb.blank (n : Nat) : PresetDb := ⟨[], [], [], n⟩

def PresetDb.presetById (db : PresetDb) (id : Nat) : Option PartPreset :=
  db.presets.find? (·.id == id)

def PresetDb.presetByKey (db : PresetDb) (key : String) : Option PartPreset :=
  db.presets.find? (·.key == key)

def PresetDb.keyTaken (db : PresetDb) (key : String) : Bool := db.presets.any (·.key == key)

@[simps]
def PresetDb.createPreset (db : PresetDb) (row : Nat → PartPreset) : PresetDb :=
  { db with presets := db.presets ++ [row db.nextPresetId], nextPresetId := db.nextPresetId + 1 }

@[simps]
def PresetDb.updatePreset (db : PresetDb) (id : Nat) (data : PartPreset → PartPreset) : PresetDb :=
  { db with presets := db.presets.map fun p => if p.id = id then data p else p }

/-- The foreign keys of the parts are `ON DELETE SET NULL`. -/
@[simps]
def PresetDb.deletePreset (db : PresetDb) (id : Nat) : PresetDb :=
  { db with
    presets := db.presets.filter fun p => p.id != id
    templateParts := db.templateParts.map fun p => if p = some id then none else p
    eventParts := db.eventParts.map fun p => if p = some id then none else p }

/-- `db.partPreset.create`; a key stands once in a congregation (`@@unique([key, congregationId])`). -/
def insertPartPreset (row : Nat → PartPreset) : PresetTx PartPreset := do
  let db ← get
  Tx.check (Tx.refuseWhen (db.keyTaken (row db.nextPresetId).key = true)
    (.database .uniqueConstraint))
  modify (·.createPreset row)
  return row db.nextPresetId

/-! ## Seeding -/

/-- `PresetCapability` of the seed. -/
structure SeedPreset where
  key : PartPresetKey
  hasReaderSlot : Bool
  allowExternalSpeaker : Bool
deriving DecidableEq, Repr

/-- `PRESETS`. -/
def seededPresets : List SeedPreset :=
  [⟨.prayer, false, true⟩, ⟨.chairman, false, false⟩, ⟨.midweekTalk, false, true⟩,
    ⟨.bibleReading, false, false⟩, ⟨.schoolDemonstration, true, false⟩,
    ⟨.schoolTalk, false, false⟩, ⟨.publicTalk, false, true⟩, ⟨.watchtowerStudy, true, false⟩,
    ⟨.congregationBibleStudy, true, false⟩]

/-- Every key has its preset. -/
theorem exists_seeded (key : PartPresetKey) : ∃ preset ∈ seededPresets, preset.key = key := by
  cases key <;> decide

def SeedPreset.row (preset : SeedPreset) (id : Nat) : PartPreset where
  id := id
  key := preset.key.value
  name := none
  scope := partScope
  hasReaderSlot := preset.hasReaderSlot
  speakerLabel := none
  readerLabel := none
  allowExternalSpeaker := preset.allowExternalSpeaker
  shareMessage := none
  isSystem := true

def seedPartPreset (preset : SeedPreset) : PresetTx PUnit := do
  let db ← get
  match db.presetByKey preset.key.value with
  | some _ => return ()
  | none =>
    let _ ← insertPartPreset preset.row
    return ()

def seedDefaultPartPresets : PresetTx PUnit := seededPresets.forM seedPartPreset

/-- The presets of a congregation that `registerCongregation` has just provisioned. -/
def provisionedPresets (n : Nat) : PresetDb := (seedDefaultPartPresets.exec (.blank n)).2

/-! ## The services -/

structure PartPresetInput where
  name : Option String
  hasReaderSlot : Bool
  speakerLabel : Option String
  readerLabel : Option String
  allowExternalSpeaker : Bool
  shareMessage : Option String
deriving DecidableEq, Repr

/-- `normalize`: a reader label only means something when there is a reader slot to label. -/
def PartPresetInput.normalize (data : PartPresetInput) (preset : PartPreset) : PartPreset :=
  { preset with
    name := data.name
    hasReaderSlot := data.hasReaderSlot
    speakerLabel := data.speakerLabel
    readerLabel := if data.hasReaderSlot then data.readerLabel else none
    allowExternalSpeaker := data.allowExternalSpeaker
    shareMessage := data.shareMessage }

/-- The folding is `toLocaleLowerCase` here; the regular expressions are those of a role's key. -/
def slugify (u : Unicode) (name : String) : String := slugifyRoleKey u name

/-- `base-suffix`. -/
def suffixed (base : String) (suffix : Nat) : String := base ++ "-" ++ toString suffix

/-- `while (taken.has(…)) suffix += 1`. -/
def freeSuffix (taken : List String) (base : String) : Nat → Nat → Nat
  | 0, suffix => suffix
  | fuel + 1, suffix =>
    if suffixed base suffix ∈ taken then freeSuffix taken base fuel (suffix + 1) else suffix

def buildKey (u : Unicode) (db : PresetDb) (name : String) : String :=
  let base := if slugify u name = "" then "preset" else slugify u name
  let taken := db.presets.map (·.key)
  if base ∈ taken then suffixed base (freeSuffix taken base (taken.length + 1) 2) else base

def PartPresetInput.row (data : PartPresetInput) (key : String) (id : Nat) : PartPreset :=
  data.normalize
    { id := id, key := key, name := none, scope := partScope, hasReaderSlot := false,
      speakerLabel := none, readerLabel := none, allowExternalSpeaker := false,
      shareMessage := none, isSystem := false }

/-- One attempt: the taken keys are read, then the row is written. -/
def createAttempt (u : Unicode) (data : PartPresetInput) : PresetTx PartPreset := do
  let db ← get
  insertPartPreset (data.row (buildKey u db (data.name.getD "")))

/-- A unique violation is met with one more attempt. -/
def createPartPreset (u : Unicode) (data : PartPresetInput) : PresetTx PartPreset :=
  tryCatch (createAttempt u data) fun e =>
    if e = .database .uniqueConstraint then createAttempt u data else throw e

/-- The key is absent from the update. `none` when there is no such preset. -/
def updatePartPreset (id : Nat) (data : PartPresetInput) : PresetTx (Option PartPreset) := do
  let db ← get
  match db.presetById id with
  | none => return none
  | some existing =>
    modify (·.updatePreset id data.normalize)
    return some (data.normalize existing)

/-- On success, the row whose name the caller shows. -/
inductive DeletePartPresetResult where
  | ok (preset : PartPreset)
  | notFound
  | system
  | inUse (partCount : Nat)
deriving DecidableEq, Repr

/-- `templateParts + eventParts` of the nested count. -/
def PresetDb.partCount (db : PresetDb) (id : Nat) : Nat :=
  db.templateParts.count (some id) + db.eventParts.count (some id)

def deletePartPreset (id : Nat) : PresetTx DeletePartPresetResult := do
  let db ← get
  match db.presetById id with
  | none => return .notFound
  | some preset =>
    if preset.isSystem then return .system
    else if 0 < db.partCount id then return .inUse (db.partCount id)
    else
      modify (·.deletePreset id)
      return .ok preset

/-! ## The key of a new preset -/

section FreeKey

variable {taken : List String} {base : String}

theorem suffixed_injective : Function.Injective (suffixed base) := by
  intro a b h
  have hrepr : a.repr = b.repr := (String.append_right_inj (base ++ "-")).mp h
  have hdigits : Nat.toDigits 10 a = Nat.toDigits 10 b := by
    rw [← Nat.toList_repr, ← Nat.toList_repr, hrepr]
  rw [← Nat.ofDigitChars_toDigits (n := a) (by decide) (Nat.le_refl 10), hdigits]
  exact Nat.ofDigitChars_toDigits (by decide) (Nat.le_refl 10)

/-- The loop ends on a free key, or has seen all its candidates taken. -/
theorem freeSuffix_or (fuel suffix : Nat) :
    suffixed base (freeSuffix taken base fuel suffix) ∉ taken ∨
      ∀ i < fuel, suffixed base (suffix + i) ∈ taken := by
  induction fuel generalizing suffix with
  | zero => exact .inr fun i hi => absurd hi (Nat.not_lt_zero i)
  | succ fuel ih =>
    rw [freeSuffix]
    by_cases htaken : suffixed base suffix ∈ taken
    · rw [if_pos htaken]
      rcases ih (suffix + 1) with hfree | hall
      · exact .inl hfree
      · refine .inr fun i hi => ?_
        cases i with
        | zero => exact htaken
        | succ i =>
          have hnext := hall i (by omega)
          rwa [Nat.add_right_comm] at hnext
    · rw [if_neg htaken]
      exact .inl htaken

/-- One candidate more than there are keys: one of them is free. -/
theorem freeSuffix_free :
    suffixed base (freeSuffix taken base (taken.length + 1) 2) ∉ taken := by
  refine (freeSuffix_or (taken.length + 1) 2).resolve_right fun hall => ?_
  let candidates := (List.range (taken.length + 1)).map fun i => suffixed base (2 + i)
  have hnodup : candidates.Nodup := by
    refine List.Nodup.map ?_ List.nodup_range
    intro i j h
    have := suffixed_injective h
    omega
  have hsub : candidates ⊆ taken := by
    intro key hkey
    obtain ⟨i, hi, rfl⟩ := List.mem_map.mp hkey
    exact hall i (List.mem_range.mp hi)
  have hle := (hnodup.subperm hsub).length_le
  rw [List.length_map, List.length_range] at hle
  omega

theorem buildKey_free (u : Unicode) (db : PresetDb) (name : String) :
    db.keyTaken (buildKey u db name) = false := by
  have hfree : buildKey u db name ∉ db.presets.map (·.key) := by
    unfold buildKey
    by_cases htaken : (if slugify u name = "" then "preset" else slugify u name) ∈
        db.presets.map (·.key)
    · rw [if_pos htaken]
      exact freeSuffix_free
    · rw [if_neg htaken]
      exact htaken
  rw [PresetDb.keyTaken, List.any_eq_false]
  intro p hp hkey
  exact hfree (List.mem_map.mpr ⟨p, hp, beq_iff_eq.mp hkey⟩)

end FreeKey

/-! ## What each service does -/

section Exec

variable {db : PresetDb} {row : Nat → PartPreset}

theorem insertPartPreset_exec : (insertPartPreset row).exec db =
    if db.keyTaken (row db.nextPresetId).key = true then (.error (.database .uniqueConstraint), db)
    else (.ok (row db.nextPresetId), db.createPreset row) := by
  unfold insertPartPreset
  rw [Tx.exec_bind_get, Tx.exec_bind, Tx.exec_check, Tx.refuseWhen]
  by_cases htaken : db.keyTaken (row db.nextPresetId).key = true
  · rw [if_pos htaken, if_pos htaken]
  · rw [if_neg htaken, if_neg htaken]
    rfl

/-- A new preset is always taken in at the first attempt. -/
theorem createPartPreset_exec (u : Unicode) (data : PartPresetInput) :
    (createPartPreset u data).exec db =
      (.ok (data.row (buildKey u db (data.name.getD "")) db.nextPresetId),
        db.createPreset (data.row (buildKey u db (data.name.getD "")))) := by
  have hattempt : (createAttempt u data).exec db =
      (.ok (data.row (buildKey u db (data.name.getD "")) db.nextPresetId),
        db.createPreset (data.row (buildKey u db (data.name.getD "")))) := by
    unfold createAttempt
    rw [Tx.exec_bind_get, insertPartPreset_exec, if_neg]
    rw [show (data.row (buildKey u db (data.name.getD "")) db.nextPresetId).key =
      buildKey u db (data.name.getD "") from rfl, buildKey_free]
    exact Bool.false_ne_true
  unfold createPartPreset
  rw [Tx.exec_tryCatch, hattempt]

theorem keyTaken_iff {key : String} : db.keyTaken key = true ↔ ∃ p ∈ db.presets, p.key = key := by
  simp [PresetDb.keyTaken]

theorem seedPartPreset_exec (preset : SeedPreset) : (seedPartPreset preset).exec db =
    (.ok (), if db.keyTaken preset.key.value = true then db else db.createPreset preset.row) := by
  unfold seedPartPreset
  rw [Tx.exec_bind_get]
  cases hfound : db.presetByKey preset.key.value with
  | some p =>
    have hkey : p.key = preset.key.value := by simpa using List.find?_some hfound
    have htaken : db.keyTaken preset.key.value = true :=
      keyTaken_iff.mpr ⟨p, List.mem_of_find?_eq_some hfound, hkey⟩
    rw [if_pos htaken]
    rfl
  | none =>
    have hfree : ¬db.keyTaken (preset.row db.nextPresetId).key = true := by
      intro htaken
      obtain ⟨p, hp, hkey⟩ := keyTaken_iff.mp htaken
      exact List.find?_eq_none.mp hfound p hp (beq_iff_eq.mpr hkey)
    have hkey : (preset.row db.nextPresetId).key = preset.key.value := rfl
    show ((insertPartPreset preset.row) >>= fun _ => pure ()).exec db = _
    rw [Tx.exec_bind, insertPartPreset_exec, if_neg hfree, ← hkey, if_neg hfree]
    rfl

end Exec

/-! ## The seeded presets stay -/

/-- The keys of the table, and the nine presets that every congregation has. -/
structure PresetDb.Sound (db : PresetDb) : Prop where
  ids : Keyed PartPreset.id db.presets
  ids_lt : ∀ p ∈ db.presets, p.id < db.nextPresetId
  seeded : ∀ key : PartPresetKey, ∃ p ∈ db.presets, p.key = key.value ∧ p.isSystem = true

section Sound

variable {db : PresetDb}

theorem PresetDb.Sound.createPreset (h : db.Sound) {row : Nat → PartPreset}
    (hid : ∀ n, (row n).id = n) : (db.createPreset row).Sound := by
  refine ⟨h.ids.append_next h.ids_lt (hid _), lt_append_next h.ids_lt (hid _), ?_⟩
  · intro key
    obtain ⟨p, hp, hkey, hsystem⟩ := h.seeded key
    exact ⟨p, List.mem_append_left _ hp, hkey, hsystem⟩

/-- Editing a preset changes neither its key nor whether it was seeded. -/
theorem PresetDb.Sound.updatePreset (h : db.Sound) (id : Nat) (data : PartPresetInput) :
    (db.updatePreset id data.normalize).Sound := by
  have hid : ∀ p : PartPreset, (if p.id = id then data.normalize p else p).id = p.id := by
    intro p
    split <;> rfl
  refine ⟨h.ids.map hid, ?_, ?_⟩
  · intro p hp
    obtain ⟨q, hq, rfl⟩ := List.mem_map.mp hp
    rw [hid]
    exact h.ids_lt q hq
  · intro key
    obtain ⟨p, hp, hkey, hsystem⟩ := h.seeded key
    refine ⟨_, List.mem_map.mpr ⟨p, hp, rfl⟩, ?_, ?_⟩
    · split
      · exact hkey
      · exact hkey
    · split
      · exact hsystem
      · exact hsystem

/-- A seeded preset is never the one deleted. -/
theorem PresetDb.Sound.deletePreset (h : db.Sound) {id : Nat} {preset : PartPreset}
    (hfound : db.presetById id = some preset) (hcustom : preset.isSystem = false) :
    (db.deletePreset id).Sound := by
  obtain ⟨hmem, hpid⟩ := h.ids.find?_eq_some.mp hfound
  refine ⟨h.ids.filter _, fun p hp => h.ids_lt p (List.mem_of_mem_filter hp), ?_⟩
  intro key
  obtain ⟨p, hp, hkey, hsystem⟩ := h.seeded key
  refine ⟨p, List.mem_filter.mpr ⟨hp, bne_iff_ne.mpr fun hsame => ?_⟩, hkey, hsystem⟩
  -- the row with the id is `preset`, which is not a system preset
  have heq : p = preset := h.ids.eq_of_key hp hmem (hsame.trans hpid.symm)
  rw [heq, hcustom] at hsystem
  exact Bool.false_ne_true hsystem

theorem createPartPreset_keeps (u : Unicode) (data : PartPresetInput) :
    Tx.Keeps PresetDb.Sound (createPartPreset u data) := by
  intro db h
  rw [createPartPreset_exec]
  exact h.createPreset fun _ => rfl

theorem updatePartPreset_keeps (id : Nat) (data : PartPresetInput) :
    Tx.Keeps PresetDb.Sound (updatePartPreset id data) := by
  intro db h
  unfold updatePartPreset
  rw [Tx.exec_bind_get]
  cases db.presetById id with
  | none => exact h
  | some existing => exact h.updatePreset id data

theorem deletePartPreset_keeps (id : Nat) :
    Tx.Keeps PresetDb.Sound (deletePartPreset id) := by
  intro db h
  unfold deletePartPreset
  rw [Tx.exec_bind_get]
  cases hfound : db.presetById id with
  | none => exact h
  | some preset =>
    cases hsystem : preset.isSystem with
    | true =>
      dsimp only
      rw [hsystem, if_pos rfl]
      exact h
    | false =>
      dsimp only
      rw [hsystem, if_neg Bool.false_ne_true]
      split
      · exact h
      · exact h.deletePreset hfound hsystem

theorem seedPartPreset_keeps (preset : SeedPreset) :
    Tx.Keeps PresetDb.Sound (seedPartPreset preset) := by
  intro db h
  rw [seedPartPreset_exec]
  split
  · exact h
  · exact h.createPreset fun _ => rfl

/-- A table under way from nothing: all of its rows are seeded ones. -/
structure Seeding (done : List SeedPreset) (db : PresetDb) : Prop where
  ids : Keyed PartPreset.id db.presets
  ids_lt : ∀ p ∈ db.presets, p.id < db.nextPresetId
  system : ∀ p ∈ db.presets, p.isSystem = true
  seeded : ∀ preset ∈ done, ∃ p ∈ db.presets, p.key = preset.key.value

theorem Seeding.turn {done : List SeedPreset} (h : Seeding done db) (preset : SeedPreset) :
    Seeding (done ++ [preset]) ((seedPartPreset preset).exec db).2 := by
  rw [seedPartPreset_exec]
  have hdone : ∀ q ∈ done ++ [preset], q ∈ done ∨ q = preset := by simp
  by_cases htaken : db.keyTaken preset.key.value = true
  · rw [if_pos htaken]
    refine ⟨h.ids, h.ids_lt, h.system, fun q hq => ?_⟩
    rcases hdone q hq with hold | rfl
    · exact h.seeded q hold
    · exact keyTaken_iff.mp htaken
  · rw [if_neg htaken]
    refine ⟨h.ids.append_next h.ids_lt rfl, lt_append_next h.ids_lt rfl, ?_, ?_⟩
    · intro p hp
      rcases List.mem_append.mp hp with hold | hnew
      · exact h.system p hold
      · rw [List.mem_singleton.mp hnew]
        rfl
    · intro q hq
      rcases hdone q hq with hold | rfl
      · obtain ⟨p, hp, hkey⟩ := h.seeded q hold
        exact ⟨p, List.mem_append_left _ hp, hkey⟩
      · exact ⟨_, List.mem_append_right _ (List.mem_singleton_self _), rfl⟩

theorem seedDefaultPartPresets_seeding (n : Nat) :
    Seeding seededPresets (provisionedPresets n) := by
  have hexec : (seedDefaultPartPresets.exec (.blank n)) = (.ok (), provisionedPresets n) := by
    unfold provisionedPresets seedDefaultPartPresets
    rw [Tx.exec_forM_total fun preset db => seedPartPreset_exec preset]
  refine Tx.forM_invariant hexec ⟨Keyed.nil, ?_, ?_, ?_⟩ ?_
  · exact fun p hp => absurd hp List.not_mem_nil
  · exact fun p hp => absurd hp List.not_mem_nil
  · exact fun q hq => absurd hq List.not_mem_nil
  · intro done preset rest _ s s' hseeding hturn
    have hs' : s' = ((seedPartPreset preset).exec s).2 := by rw [hturn]
    rw [hs']
    exact hseeding.turn preset

theorem provisionedPresets_sound (n : Nat) : (provisionedPresets n).Sound := by
  have h := seedDefaultPartPresets_seeding n
  refine ⟨h.ids, h.ids_lt, fun key => ?_⟩
  obtain ⟨preset, hpreset, rfl⟩ := exists_seeded key
  obtain ⟨p, hp, hkey⟩ := h.seeded preset hpreset
  exact ⟨p, hp, hkey, h.system p hp⟩

end Sound

end Unitae.Events
