import Unitae.Base.IsoDate
import Unitae.Dates
import Unitae.Errors
import Unitae.Text

/-!
# Unitae — the archive of a congregation (`data-transfer.type.ts`)

An archive holds the records of each table under the ids of the congregation it was taken from. The
importer keeps, for each kind of record, which row of the target stands for which archived id.
-/

namespace Unitae.Settings

/-- The kinds of records whose ids are translated. -/
inductive EntityFile where
  | roles
  | members
  | userAccounts
  | publisherGroups
  | externalSpeakers
  | territories
  | territoryKinds
  | attributions
  | partPresets
  | programmeTemplates
  | programmeTemplateParts
  | programmeTemplateServiceRoles
  | events
  | programmePartAssignments
  | programmeServiceRoleAssignments
  | boardSections
  | boardDocuments
deriving DecidableEq, Repr

/-- The name of the kind in the archive. -/
def EntityFile.name : EntityFile → String
  | .roles => "roles"
  | .members => "members"
  | .userAccounts => "user-accounts"
  | .publisherGroups => "publisher-groups"
  | .externalSpeakers => "external-speakers"
  | .territories => "territories"
  | .territoryKinds => "territory-kinds"
  | .attributions => "attributions"
  | .partPresets => "part-presets"
  | .programmeTemplates => "programme-templates"
  | .programmeTemplateParts => "programme-template-parts"
  | .programmeTemplateServiceRoles => "programme-template-service-roles"
  | .events => "events"
  | .programmePartAssignments => "programme-part-assignments"
  | .programmeServiceRoleAssignments => "programme-service-role-assignments"
  | .boardSections => "board-sections"
  | .boardDocuments => "board-documents"

/-- Old id to new id, for each kind of record: the last entry comes first. -/
structure EntityIdMap where
  entries : List (EntityFile × Int × Nat)
deriving DecidableEq, Repr

namespace EntityIdMap

def empty : EntityIdMap := ⟨[]⟩

def set (m : EntityIdMap) (entity : EntityFile) (oldId : Int) (newId : Nat) : EntityIdMap :=
  ⟨(entity, oldId, newId) :: m.entries⟩

/-- `maps.get(entity)?.get(oldId)`. -/
def find (m : EntityIdMap) (entity : EntityFile) (oldId : Int) : Option Nat :=
  (m.entries.find? fun e => e.1 == entity && e.2.1 == oldId).map (·.2.2)

/-- `none` is the error « Missing ID mapping », which nothing catches. -/
def get (m : EntityIdMap) (entity : EntityFile) (oldId : Int) : Option Nat := m.find entity oldId

/-- `get`, with its error. -/
def getOrThrow (m : EntityIdMap) (entity : EntityFile) (oldId : Int) : Except Failure Nat :=
  match m.get entity oldId with
  | none => .error (.unexpected ("Missing ID mapping for " ++ entity.name ++ "#" ++ toString oldId))
  | some newId => .ok newId

/-- New ids count from 1, so that an importer's `!newId` holds of a missing one alone. -/
def getOptional (m : EntityIdMap) (entity : EntityFile) (oldId : Option Int) : Option Nat :=
  oldId.bind (m.find entity)

@[simp] theorem find_empty (entity : EntityFile) (oldId : Int) : empty.find entity oldId = none := rfl

@[simp] theorem find_set_self (m : EntityIdMap) (entity : EntityFile) (oldId : Int) (newId : Nat) :
    (m.set entity oldId newId).find entity oldId = some newId := by
  simp [find, set]

/-- An entry is found under its own kind and id alone. -/
theorem find_set (m : EntityIdMap) (entity entity' : EntityFile) (oldId oldId' : Int) (newId : Nat) :
    (m.set entity oldId newId).find entity' oldId' =
      if entity = entity' ∧ oldId = oldId' then some newId else m.find entity' oldId' := by
  rw [find, set, List.find?_cons]
  by_cases hsame : entity = entity' ∧ oldId = oldId'
  · rw [if_pos hsame, hsame.1, hsame.2]
    simp
  · have hmiss : (entity == entity' && oldId == oldId') = false := by
      rw [Bool.and_eq_false_iff, beq_eq_false_iff_ne, beq_eq_false_iff_ne]
      exact not_and_or.mp hsame
    rw [if_neg hsame, hmiss]
    rfl

theorem find_set_of_ne {m : EntityIdMap} {entity entity' : EntityFile} {oldId oldId' : Int} {newId : Nat}
    (h : entity ≠ entity') : (m.set entity oldId newId).find entity' oldId' = m.find entity' oldId' := by
  rw [find_set, if_neg fun hsame => h hsame.1]

end EntityIdMap

/-- What a loop that creates rows leaves in the map: the old ids of one kind, each with a new id of its
own among those handed out from `n` to `n'`. -/
structure Numbers (entity : EntityFile) (done : List Int) (m₀ m : EntityIdMap) (n n' : Nat) :
    Prop where
  other : ∀ entity', entity' ≠ entity → ∀ oldId, m.find entity' oldId = m₀.find entity' oldId
  le : n ≤ n'
  found : ∀ oldId ∈ done, ∃ newId, m.find entity oldId = some newId ∧ n ≤ newId ∧ newId < n'
  injective : ∀ a ∈ done, ∀ b ∈ done, m.find entity a = m.find entity b → a = b
  missing : ∀ oldId, oldId ∉ done → m.find entity oldId = m₀.find entity oldId

namespace Numbers

variable {entity : EntityFile} {done : List Int} {m₀ m : EntityIdMap} {n n' : Nat} {oldId : Int}

theorem nil (entity : EntityFile) (m₀ : EntityIdMap) (n : Nat) : Numbers entity [] m₀ m₀ n n where
  other := fun _ _ _ => rfl
  le := Nat.le_refl n
  found := fun _ h => absurd h List.not_mem_nil
  injective := fun _ h => absurd h List.not_mem_nil
  missing := fun _ _ => rfl

/-- The next row. -/
theorem set (h : Numbers entity done m₀ m n n') (hnew : oldId ∉ done) :
    Numbers entity (done ++ [oldId]) m₀ (m.set entity oldId n') n (n' + 1) := by
  have hold : ∀ a ∈ done, (m.set entity oldId n').find entity a = m.find entity a := by
    intro a ha
    rw [EntityIdMap.find_set, if_neg]
    intro hsame
    exact hnew (hsame.2 ▸ ha)
  -- the ids found before are below the new one
  have hlt : ∀ a ∈ done, m.find entity a ≠ some n' := by
    intro a ha hsame
    obtain ⟨newId, hfound, _, hbelow⟩ := h.found a ha
    rw [hfound, Option.some.injEq] at hsame
    omega
  refine ⟨fun entity' hne a => ?_, Nat.le_succ_of_le h.le, fun a ha => ?_, fun a ha b hb hsame => ?_,
    fun a ha => ?_⟩
  · rw [EntityIdMap.find_set_of_ne (fun heq => hne heq.symm)]
    exact h.other entity' hne a
  · rcases List.mem_append.mp ha with hdone | hlast
    · obtain ⟨newId, hfound, hle, hbelow⟩ := h.found a hdone
      exact ⟨newId, (hold a hdone).trans hfound, hle, Nat.lt_succ_of_lt hbelow⟩
    · rw [List.mem_singleton.mp hlast]
      exact ⟨n', EntityIdMap.find_set_self _ _ _ _, h.le, Nat.lt_succ_self n'⟩
  · rcases List.mem_append.mp ha with hdone | hlast <;>
      rcases List.mem_append.mp hb with hdone' | hlast'
    · rw [hold a hdone, hold b hdone'] at hsame
      exact h.injective a hdone b hdone' hsame
    · rw [List.mem_singleton.mp hlast', EntityIdMap.find_set_self, hold a hdone] at hsame
      exact absurd hsame (hlt a hdone)
    · rw [List.mem_singleton.mp hlast, EntityIdMap.find_set_self, hold b hdone'] at hsame
      exact absurd hsame.symm (hlt b hdone')
    · rw [List.mem_singleton.mp hlast, List.mem_singleton.mp hlast']
  · have hboth : a ∉ done ∧ a ≠ oldId := by simpa using ha
    rw [EntityIdMap.find_set, if_neg fun hsame => hboth.2 hsame.2.symm]
    exact h.missing a hboth.1

end Numbers

/-- What the JavaScript runtime reads dates with: `new Date(text)`, where `none` is the invalid date, and
`date.toISOString()`. -/
structure DateText where
  parse : String → Option Instant
  toISOString : Instant → String

/-- A date survives the archive. -/
structure DateText.RoundTrips (rt : DateText) : Prop where
  ne_empty : ∀ t, rt.toISOString t ≠ ""
  parse_toISOString : ∀ t, rt.parse (rt.toISOString t) = some t

/-- The texts that `toISOString` writes, and no others. -/
def DateText.iso : DateText := ⟨IsoDate.parse, IsoDate.format⟩

theorem DateText.iso_roundTrips : DateText.iso.RoundTrips :=
  ⟨IsoDate.format_ne_empty, IsoDate.parse_format⟩

/-- `text ? new Date(text) : null`; the database refuses an invalid date. -/
def dateOrNull (rt : DateText) (text : Option String) : Except Failure (Option Instant) :=
  if isTruthy text then
    match rt.parse (text.getD "") with
    | none => .error (.database .invalidDate)
    | some date => .ok (some date)
  else .ok none

/-- `new Date(text)`, of a text that the record has. -/
def newDate (rt : DateText) (text : String) : Except Failure Instant :=
  match rt.parse text with
  | none => .error (.database .invalidDate)
  | some date => .ok date

theorem newDate_toISOString {rt : DateText} (hrt : rt.RoundTrips) (t : Instant) :
    newDate rt (rt.toISOString t) = .ok t := by
  rw [newDate, hrt.parse_toISOString]

theorem dateOrNull_toISOString {rt : DateText} (hrt : rt.RoundTrips) (date : Option Instant) :
    dateOrNull rt (date.map rt.toISOString) = .ok date := by
  cases date with
  | none => rfl
  | some t =>
    have htruthy : isTruthy (some (rt.toISOString t)) = true := bne_iff_ne.mpr (hrt.ne_empty t)
    rw [Option.map_some, dateOrNull, if_pos htruthy, Option.getD_some, hrt.parse_toISOString]

end Unitae.Settings
