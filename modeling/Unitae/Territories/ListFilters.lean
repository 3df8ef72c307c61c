import Unitae.Territories.MapSchema
import Unitae.Territories.Register
import Unitae.Text

/-!
# Unitae — the filters of the lists (`building-filters`, `territory-filters`, `attribution-filters`)

Each list turns its query parameters into a where object, one step a parameter. A row that a
combination of parameters selects should be selected by each of them alone. The steps of the
territory and the attribution list extend what earlier steps wrote; three steps of the building list
each write `entrances` over: `filters_combine_iff` says for which parameters that shows.
-/

namespace Unitae.Territories

open WhereObject

/-! ## Parameters and text -/

/-- `URLSearchParams`. -/
abbrev SearchParams := List (String × String)

def SearchParams.get (params : SearchParams) (name : String) : Option String :=
  (params.find? (·.1 == name)).map (·.2)

/-- The parameters of one name alone. -/
def SearchParams.only (params : SearchParams) (name : String) : SearchParams :=
  params.filter (·.1 == name)

/-- `params.has(name) && params.get(name) !== 'none'`. -/
def SearchParams.chosen (params : SearchParams) (name : String) : Option String :=
  (params.get name).filter (· != "none")

/-- What the runtime and the database do with text. -/
structure FilterRuntime where
  stripDiacritics : String → String
  /-- The folding of `mode: 'insensitive'`. -/
  foldCase : String → String
  /-- `text.match(addressRegex)`: its number and its street. -/
  matchAddress : String → Option (String × String)
  /-- `Number(text)`, when it is a whole number; a column of integers equals no other. -/
  integer : String → Option Int

/-- `contains`. -/
def containsText (text part : String) : Bool := part.toList <:+: text.toList

def FilterRuntime.containsInsensitive (rt : FilterRuntime) (text part : String) : Bool :=
  containsText (rt.foldCase text) (rt.foldCase part)

/-- `raw?.replace(proximityPrefix, '').trim() ?? ''`. -/
def searchText (params : SearchParams) : String :=
  match params.get "search" with
  | none => ""
  | some raw => trim (match raw.toList with
    | '@' :: rest => String.ofList rest
    | _ => raw)

/-- `{ equals: Number(value) }` of a nullable integer column. -/
def FilterRuntime.equalsNumber (rt : FilterRuntime) (value : String) (column : Option Int) : Bool :=
  (rt.integer value).any fun n => column == some n

/-! ## What the lists read -/

/-- The search aids of a member's names. -/
structure MemberNames where
  memberId : Nat
  firstnameNormalized : String
  lastnameNormalized : String
deriving DecidableEq, Repr

structure ListDb where
  register : RegisterDb
  map : MapDb
  /-- A territory and one of its entrances. -/
  territoryEntrances : List (Nat × Nat)
  names : List MemberNames
deriving DecidableEq, Repr

def ListDb.entrancesOfTerritory (db : ListDb) (territoryId : Nat) : List BuildingEntrance :=
  db.map.entrances.filter fun e => (territoryId, e.id) ∈ db.territoryEntrances

/-- `entrances: { some: { buildings: { some } } }`, of a territory. -/
def ListDb.hasBuilding (db : ListDb) (territoryId : Nat) (clause : Building → Bool) : Bool :=
  (db.entrancesOfTerritory territoryId).any fun e => (db.map.buildingsOf e.id).any clause

/-- `OR: [{ firstnameNormalized: { contains } }, { lastnameNormalized: { contains } }]`. -/
def ListDb.nameContains (db : ListDb) (memberId : Nat) (normalized : String) : Bool :=
  (db.names.find? (·.memberId == memberId)).any fun names =>
    containsText names.firstnameNormalized normalized ||
      containsText names.lastnameNormalized normalized

/-- `AND: [{ number: { contains } }, { streetNormalized: { contains } }]`, of an address looked for. -/
def addressClause (rt : FilterRuntime) (address : String × String) (b : Building) : Bool :=
  rt.containsInsensitive b.number address.1 &&
    containsText b.streetNormalized (rt.stripDiacritics address.2)

/-- The building clause of a search: the address it holds, or `other` when it holds none. -/
def addressSearch (rt : FilterRuntime) (trimmed : String) (other : Building → Bool) :
    Building → Bool :=
  match rt.matchAddress trimmed with
  | none => other
  | some address => addressClause rt address

/-! ## Where objects -/

inductive EntranceKey where
  | kind
  | shopKind
  | homes
  | phones
  | access
  | buildings
deriving DecidableEq, Repr

/-- `buildings: { some: { zip } }`. -/
structure BuildingSome where
  zip : Option (String → Bool)

abbrev EntranceKey.Condition : EntranceKey → Type
  | .kind => EntranceKind → Bool
  | .shopKind => String → Bool
  | .homes => Option Int → Bool
  | .phones => Option Int → Bool
  | .access => Option Int → Bool
  | .buildings => BuildingSome

abbrev EntranceWhere := WhereObject EntranceKey EntranceKey.Condition

def MapDb.entranceMeets (db : MapDb) (e : BuildingEntrance) :
    (key : EntranceKey) → key.Condition → Prop
  | .kind, condition => condition e.kind = true
  | .shopKind, condition => condition e.shopKind = true
  | .homes, condition => condition e.homes = true
  | .phones, condition => condition e.phones = true
  | .access, condition => condition e.access = true
  | .buildings, condition => ∃ b ∈ db.buildingsOf e.id, ∀ zip ∈ condition.zip, zip b.zip = true

/-- The entrance meets the object under `some`. -/
def MapDb.EntranceSelected (db : MapDb) (w : EntranceWhere) (e : BuildingEntrance) : Prop :=
  w.Selects (fun key condition e => db.entranceMeets e key condition) e

inductive BuildingKey where
  | zip
  | entrances
  | OR
deriving DecidableEq, Repr

abbrev BuildingKey.Condition : BuildingKey → Type
  | .zip => String → Bool
  | .entrances => EntranceWhere
  | .OR => List (Building → Bool)

abbrev BuildingWhere := WhereObject BuildingKey BuildingKey.Condition

def MapDb.buildingMeets (db : MapDb) (b : Building) : (key : BuildingKey) → key.Condition → Prop
  | .zip, condition => condition b.zip = true
  | .entrances, condition => ∃ e ∈ db.entrancesOf b.id, db.EntranceSelected condition e
  | .OR, clauses => ∃ clause ∈ clauses, clause b = true

def MapDb.BuildingSelected (db : MapDb) (w : BuildingWhere) (b : Building) : Prop :=
  w.Selects (fun key condition b => db.buildingMeets b key condition) b

inductive TerritoryKey where
  | entrances
  | type
  | OR
  | AND
deriving DecidableEq, Repr

abbrev TerritoryKey.Condition : TerritoryKey → Type
  | .entrances => EntranceWhere
  | .type => TerritoryKindKey → Bool
  | .OR => List (TerritoryRow → Bool)
  | .AND => List (TerritoryRow → Bool)

abbrev TerritoryWhere := WhereObject TerritoryKey TerritoryKey.Condition

def ListDb.territoryMeets (db : ListDb) (t : TerritoryRow) :
    (key : TerritoryKey) → key.Condition → Prop
  | .entrances, condition => ∃ e ∈ db.entrancesOfTerritory t.id, db.map.EntranceSelected condition e
  | .type, condition => condition t.type = true
  | .OR, clauses => ∃ clause ∈ clauses, clause t = true
  | .AND, clauses => ∀ clause ∈ clauses, clause t = true

def ListDb.TerritorySelected (db : ListDb) (w : TerritoryWhere) (t : TerritoryRow) : Prop :=
  w.Selects (fun key condition t => db.territoryMeets t key condition) t

/-! ## The building list (`building-filters.server.ts`) -/

section Buildings

variable (rt : FilterRuntime) (filters : BuildingWhere) (params : SearchParams)

def applyBuildingZip : BuildingWhere :=
  match params.chosen "zip" with
  | none => filters
  | some zip => filters.set .zip (· == zip)

/-- What each type asks of an entrance; another value is no filter. -/
def buildingTypeWhere (type : String) : Option EntranceWhere :=
  if type = "Classical" then
    some ((empty.set .kind (· == .residential)).set .homes fun homes => homes.any (0 < ·))
  else if type = "Phone" then
    some ((empty.set .kind (· == .residential)).set .phones fun phones => phones.any (0 < ·))
  else if type = "Commerces" then some (empty.set .kind (· == .commerce))
  else if type = "Hotel" then some (empty.set .kind (· == .hotel))
  else if type = "Univ" then some (empty.set .kind (· == .campus))
  else none

def applyBuildingType : BuildingWhere :=
  match (params.chosen "type").bind buildingTypeWhere with
  | none => filters
  | some w => filters.set .entrances w

def applyBuildingAccess : BuildingWhere :=
  match params.chosen "access" with
  | none => filters
  | some access => filters.set .entrances (empty.set .access (rt.equalsNumber access))

def shopWhere (type : String) : EntranceWhere :=
  (empty.set .kind (· == .commerce)).set .shopKind (· == type)

def applyBuildingShop : BuildingWhere :=
  match params.chosen "shops" with
  | none => filters
  | some type => filters.set .entrances (shopWhere type)

def applyBuildingSearch : BuildingWhere :=
  let trimmed := searchText params
  if trimmed = "" then filters
  else
    let normalized := rt.stripDiacritics trimmed
    filters.set .OR
      [addressSearch rt trimmed fun b => containsText b.streetNormalized normalized,
       fun b => rt.containsInsensitive b.number trimmed]

/-- `computeFilters`. -/
def buildingFilters : BuildingWhere :=
  let filters := empty
  let filters := applyBuildingZip filters params
  let filters := applyBuildingType filters params
  let filters := applyBuildingAccess rt filters params
  let filters := applyBuildingShop filters params
  applyBuildingSearch rt filters params

end Buildings

/-! ## The territory list (`territory-filters.server.ts`) -/

/-- The names the client gives the kinds. -/
def TerritoryKindKey.text : TerritoryKindKey → String
  | .classical => "Classical"
  | .univ => "Univ"
  | .commerces => "Commerces"
  | .phone => "Phone"
  | .hotel => "Hotel"

inductive PmrStatus where
  | full
  | partial_
  | not
deriving DecidableEq, Repr

def pmrStatus (value : Option String) : Option PmrStatus :=
  if value = some "full" then some .full
  else if value = some "partial" then some .partial_
  else if value = some "not" then some .not
  else none

section Territories

variable (rt : FilterRuntime) (db : ListDb) (filters : TerritoryWhere) (params : SearchParams)

/-- The object under `entrances.some`, if an earlier step wrote one. -/
def entrancesSome : EntranceWhere := (filters .entrances).getD empty

def applyTerritoryZip : TerritoryWhere :=
  match params.chosen "zip" with
  | none => filters
  | some zip =>
    let buildings := ((entrancesSome filters) .buildings).getD ⟨none⟩
    filters.set .entrances (empty.set .buildings { buildings with zip := some (· == zip) })

def applyTerritoryType : TerritoryWhere :=
  match params.chosen "type" with
  | none => filters
  | some type => filters.set .type fun kind => kind.text == type

def applyTerritoryAccess : TerritoryWhere :=
  match params.chosen "access" with
  | none => filters
  | some access =>
    filters.set .entrances ((entrancesSome filters).set .access (rt.equalsNumber access))

def hasEntrance (clause : BuildingEntrance → Bool) (t : TerritoryRow) : Bool :=
  (db.entrancesOfTerritory t.id).any clause

def notPmrResidential (e : BuildingEntrance) : Bool :=
  e.kind == .residential && (e.isPMR == some false || e.isPMR == none)

def pmrResidential (e : BuildingEntrance) : Bool := e.kind == .residential && e.isPMR == some true

def hasResidential : TerritoryRow → Bool := hasEntrance db (·.kind == .residential)

def pmrClauses : PmrStatus → List (TerritoryRow → Bool)
  | .full => [hasResidential db, fun t => !hasEntrance db notPmrResidential t]
  | .partial_ => [hasEntrance db pmrResidential, hasEntrance db notPmrResidential]
  | .not => [hasResidential db, fun t => !hasEntrance db pmrResidential t]

/-- Only door-to-door territories have a PMR status. -/
def applyTerritoryPmr : TerritoryWhere :=
  match pmrStatus (params.get "pmr") with
  | none => filters
  | some status => filters.set .AND ((fun t => t.type == .classical) :: pmrClauses db status)

def applyTerritorySearch : TerritoryWhere :=
  let trimmed := searchText params
  if trimmed = "" then filters
  else
    let normalized := rt.stripDiacritics trimmed
    filters.set .OR (((filters .OR).getD []) ++
      [fun t => rt.containsInsensitive t.number trimmed,
       fun t => db.hasBuilding t.id
        (addressSearch rt trimmed fun b => containsText b.streetNormalized normalized),
       fun t => db.register.attributions.any fun a =>
        a.territoryId == t.id && db.nameContains a.publisherId normalized])

/-- `computeFilters`. -/
def territoryFilters : TerritoryWhere :=
  let filters := empty
  let filters := applyTerritoryZip filters params
  let filters := applyTerritoryType filters params
  let filters := applyTerritoryAccess rt filters params
  let filters := applyTerritorySearch rt db filters params
  applyTerritoryPmr db filters params

end Territories

/-! ## The attribution list (`attribution-filters.server.ts`) -/

def TerritoryAttributionKind.text : TerritoryAttributionKind → String
  | .default => "Default"
  | .phone => "Phone"

section Attributions

variable (rt : FilterRuntime) (db : ListDb) (now : Instant) (filters : AttributionWhere)
  (params : SearchParams)

def applyAttributionGroup : AttributionWhere :=
  match params.chosen "group" with
  | none => filters
  | some group => filters.set .publisher
    ⟨some fun publisherGroupId => rt.equalsNumber group (publisherGroupId.map Int.ofNat), none⟩

def applyAttributionType : AttributionWhere :=
  match params.chosen "type" with
  | none => filters
  | some type => filters.set .type fun kind => kind.text == type

def applyAttributionCampaign : AttributionWhere :=
  match params.chosen "campaign" with
  | none => filters
  | some value =>
    if value = "any" then filters.set .campaignId fun campaignId => campaignId.isSome
    else filters.set .campaignId fun campaignId => rt.equalsNumber value (campaignId.map Int.ofNat)

def applyAttributionPaused : AttributionWhere :=
  if params.get "paused" = some "true" then filters.set .pausedAt fun pausedAt => pausedAt.isSome
  else if params.get "paused" = some "false" then filters.set .pausedAt fun pausedAt => pausedAt.isNone
  else filters

/-- The publisher has left or has been anonymized. -/
def orphaned : List (Publishers.Member → Bool) :=
  [fun m => m.leftAt.isSome, fun m => m.anonymizedAt.isSome]

def applyAttributionStatus : AttributionWhere :=
  match params.chosen "status" with
  | none => filters
  | some status =>
    if status = "orphaned" then
      filters.set .publisher { ((filters .publisher).getD ⟨none, none⟩) with OR := some orphaned }
    else if status = "late" then filters.set .lateDate (· < now)
    else filters.set .lateDate (now < ·)

def applyAttributionSearch : AttributionWhere :=
  let trimmed := searchText params
  if trimmed = "" then filters
  else
    let normalized := rt.stripDiacritics trimmed
    filters.set .OR
      [fun a => db.nameContains a.publisherId normalized,
       fun a => (db.register.territoryOf a).any fun t => rt.containsInsensitive t.number trimmed,
       fun a => db.hasBuilding a.territoryId (addressSearch rt trimmed fun b =>
        containsText b.streetNormalized normalized || rt.containsInsensitive b.number trimmed ||
          rt.containsInsensitive b.zip trimmed)]

/-- `computeFilters`. -/
def attributionFilters : AttributionWhere :=
  let filters := empty
  let filters := applyAttributionGroup rt filters params
  let filters := applyAttributionType filters params
  let filters := applyAttributionCampaign rt filters params
  let filters := applyAttributionPaused filters params
  let filters := applyAttributionStatus now filters params
  applyAttributionSearch rt db filters params

end Attributions

/-! ## Steps read one parameter each -/

section Params

variable {params : SearchParams} {name other : String}

theorem get_only_self : (params.only name).get name = params.get name := by
  unfold SearchParams.get SearchParams.only
  rw [List.find?_filter]
  simp [beq_eq_decide]

theorem get_only_of_ne (h : other ≠ name) : (params.only name).get other = none := by
  unfold SearchParams.get SearchParams.only
  rw [Option.map_eq_none_iff, List.find?_eq_none]
  intro entry hentry
  have hname : entry.1 = name := by simpa using (List.mem_filter.mp hentry).2
  simpa [hname] using h.symm

theorem chosen_only : (params.only name).chosen other =
    if name = other then params.chosen other else none := by
  unfold SearchParams.chosen
  by_cases h : name = other
  · subst h
    rw [get_only_self, if_pos rfl]
  · rw [get_only_of_ne (Ne.symm h), if_neg h]
    rfl

theorem searchText_only : searchText (params.only name) =
    if name = "search" then searchText params else "" := by
  unfold searchText
  by_cases h : name = "search"
  · subst h
    rw [get_only_self, if_pos rfl]
  · rw [get_only_of_ne (Ne.symm h), if_neg h]

end Params

/-- A step of `computeFilters`, with the parameter it reads. -/
structure FilterStep (W : Type) where
  name : String
  run : SearchParams → W → W
  reads : ∀ params other w, run (params.only other) w = if other = name then run params w else w

theorem reads_chosen {W : Type} {name : String} {run : SearchParams → W → W} {g : String → W → W}
    (h : ∀ params w, run params w = match params.chosen name with
      | none => w
      | some value => g value w)
    (params : SearchParams) (other : String) (w : W) :
    run (params.only other) w = if other = name then run params w else w := by
  rw [h, h, chosen_only]
  by_cases hname : other = name <;> simp [hname]

/-- With one parameter alone, one step acts. -/
theorem foldl_only {W : Type} {steps : List (FilterStep W)} (hnames : (steps.map (·.name)).Nodup)
    (params : SearchParams) (name : String) (w : W) :
    steps.foldl (fun w step => step.run (params.only name) w) w =
      match steps.find? (·.name == name) with
      | none => w
      | some step => step.run params w := by
  induction steps generalizing w with
  | nil => rfl
  | cons step rest ih =>
    rw [List.map_cons, List.nodup_cons] at hnames
    rw [List.foldl_cons, step.reads, ih hnames.2]
    by_cases hname : name = step.name
    · -- No other step reads this parameter.
      have hrest : rest.find? (·.name == name) = none := by
        rw [List.find?_eq_none]
        intro other hother hsame
        apply hnames.1
        rw [← hname]
        exact List.mem_map.mpr ⟨other, hother, by simpa using hsame⟩
      rw [hrest, List.find?_cons_of_pos (by simp [hname]), if_pos hname]
    · rw [if_neg hname, List.find?_cons_of_neg (by simpa using Ne.symm hname)]

section Combine

variable {κ α : Type} {V : κ → Type} {means : (k : κ) → V k → α → Prop} {x : α}

/-- A step that writes a key no earlier step wrote. -/
theorem extends_of_fresh [DecidableEq κ] {w : WhereObject κ V} {key : κ} {value : V key}
    (hfree : w key = none) (h : Selects means (w.set key value) x) :
    Selects means w x ∧ Selects means (empty.set key value) x := by
  obtain ⟨hearlier, hwritten⟩ := (selects_set_of_fresh hfree).mp h
  exact ⟨hearlier, selects_set_empty.mpr hwritten⟩

/-- A step leaves a key it does not write. -/
theorem chosen_other {chosen : Option String} {w : WhereObject κ V} {key : κ}
    {written : String → WhereObject κ V} (h : ∀ value, written value key = w key) :
    (match chosen with
      | none => w
      | some value => written value) key = w key := by
  cases chosen with
  | none => rfl
  | some value => exact h value

/-- What a combination selects, each parameter alone selects, when each step extends. -/
theorem selects_only {steps : List (FilterStep (WhereObject κ V))} {params : SearchParams}
    (hnames : (steps.map (·.name)).Nodup)
    (hsteps : EachExtends means x (steps.map fun step => step.run params) empty)
    (h : Selects means (steps.foldl (fun w step => step.run params w) empty) x) (name : String) :
    Selects means (steps.foldl (fun w step => step.run (params.only name) w) empty) x := by
  rw [foldl_only hnames]
  have halone := (selects_alone hsteps (by rwa [List.foldl_map])).2
  cases hfind : steps.find? (·.name == name) with
  | none => exact selects_empty
  | some step =>
    exact halone _ (List.mem_map.mpr ⟨step, List.mem_of_find?_eq_some hfind, rfl⟩)

end Combine

/-! ## The laws -/

/-- A row a combination selects is selected by each of its parameters alone. -/
def BuildingFiltersCombine (rt : FilterRuntime) (params : SearchParams) : Prop :=
  ∀ (db : MapDb), ∀ b ∈ db.buildings, db.BuildingSelected (buildingFilters rt params) b →
    ∀ name, db.BuildingSelected (buildingFilters rt (params.only name)) b

def TerritoryFiltersCombine (rt : FilterRuntime) (params : SearchParams) : Prop :=
  ∀ (db : ListDb), ∀ t ∈ db.register.territories,
    db.TerritorySelected (territoryFilters rt db params) t →
      ∀ name, db.TerritorySelected (territoryFilters rt db (params.only name)) t

def AttributionFiltersCombine (rt : FilterRuntime) (params : SearchParams) : Prop :=
  ∀ (db : ListDb) (now : Instant), ∀ a ∈ db.register.attributions,
    db.register.Selected (attributionFilters rt db now params) a →
      ∀ name, db.register.Selected (attributionFilters rt db now (params.only name)) a

/-! ### The territory list -/

def territorySteps (rt : FilterRuntime) (db : ListDb) : List (FilterStep TerritoryWhere) :=
  [⟨"zip", fun params w => applyTerritoryZip w params, reads_chosen fun _ _ => rfl⟩,
   ⟨"type", fun params w => applyTerritoryType w params, reads_chosen fun _ _ => rfl⟩,
   ⟨"access", fun params w => applyTerritoryAccess rt w params, reads_chosen fun _ _ => rfl⟩,
   ⟨"search", fun params w => applyTerritorySearch rt db w params, by
      intro params other w
      unfold applyTerritorySearch
      rw [searchText_only]
      by_cases h : other = "search" <;> simp [h]⟩,
   ⟨"pmr", fun params w => applyTerritoryPmr db w params, by
      intro params other w
      unfold applyTerritoryPmr
      by_cases h : other = "pmr"
      · rw [h, get_only_self, if_pos rfl]
      · rw [get_only_of_ne (Ne.symm h), if_neg h]
        rfl⟩]

theorem territoryFilters_eq (rt : FilterRuntime) (db : ListDb) (params : SearchParams) :
    territoryFilters rt db params =
      (territorySteps rt db).foldl (fun w step => step.run params w) empty := rfl

section TerritorySteps

variable {rt : FilterRuntime} {db : ListDb} {params : SearchParams} {t : TerritoryRow}
  {w : TerritoryWhere}

/-- The zip leaves the access of the entrance it speaks of free. -/
theorem entrancesSome_zip : entrancesSome (applyTerritoryZip empty params) .access = none := by
  unfold applyTerritoryZip
  split
  · rfl
  · simp [entrancesSome]
    rfl

/-- The access narrows the entrance an earlier step speaks of. -/
theorem access_extends (hfree : entrancesSome w .access = none)
    (h : db.TerritorySelected (applyTerritoryAccess rt w params) t) :
    db.TerritorySelected w t ∧ db.TerritorySelected (applyTerritoryAccess rt empty params) t := by
  unfold applyTerritoryAccess at h ⊢
  split at h
  next => exact ⟨h, selects_empty⟩
  next access _ =>
    obtain ⟨⟨e, he, hmeets⟩, _⟩ := selects_set.mp h
    obtain ⟨hearlier, haccess⟩ := (selects_set_of_fresh hfree).mp hmeets
    constructor
    · apply selects_of_set h
      intro u hu _
      have hsome : entrancesSome w = u := by simp [entrancesSome, Option.mem_def.mp hu]
      exact ⟨e, he, by rwa [← hsome]⟩
    · unfold ListDb.TerritorySelected
      rw [selects_set_empty]
      refine ⟨e, he, ?_⟩
      show db.map.EntranceSelected (empty.set .access (rt.equalsNumber access)) e
      unfold MapDb.EntranceSelected
      rw [selects_set_empty]
      exact haccess

/-- The type, the search and the PMR status each write a key of their own. -/
theorem type_extends (hfree : w .type = none)
    (h : db.TerritorySelected (applyTerritoryType w params) t) :
    db.TerritorySelected w t ∧ db.TerritorySelected (applyTerritoryType empty params) t := by
  unfold applyTerritoryType at h ⊢
  split at h
  · exact ⟨h, selects_empty⟩
  · exact extends_of_fresh hfree h

theorem search_extends (hfree : w .OR = none)
    (h : db.TerritorySelected (applyTerritorySearch rt db w params) t) :
    db.TerritorySelected w t ∧ db.TerritorySelected (applyTerritorySearch rt db empty params) t := by
  unfold applyTerritorySearch at h ⊢
  by_cases hblank : searchText params = ""
  · simp only [hblank, if_true] at h ⊢
    exact ⟨h, selects_empty⟩
  · simp only [hblank, if_false, hfree] at h ⊢
    exact extends_of_fresh hfree h

theorem pmr_extends (hfree : w .AND = none)
    (h : db.TerritorySelected (applyTerritoryPmr db w params) t) :
    db.TerritorySelected w t ∧ db.TerritorySelected (applyTerritoryPmr db empty params) t := by
  unfold applyTerritoryPmr at h ⊢
  split at h
  · exact ⟨h, selects_empty⟩
  · exact extends_of_fresh hfree h

theorem applyTerritoryZip_other {key : TerritoryKey} (h : key ≠ .entrances) :
    applyTerritoryZip w params key = w key :=
  chosen_other fun _ => set_of_ne h

theorem applyTerritoryType_other {key : TerritoryKey} (h : key ≠ .type) :
    applyTerritoryType w params key = w key :=
  chosen_other fun _ => set_of_ne h

theorem applyTerritoryAccess_other {key : TerritoryKey} (h : key ≠ .entrances) :
    applyTerritoryAccess rt w params key = w key :=
  chosen_other fun _ => set_of_ne h

theorem applyTerritorySearch_other {key : TerritoryKey} (h : key ≠ .OR) :
    applyTerritorySearch rt db w params key = w key := by
  unfold applyTerritorySearch
  by_cases hblank : searchText params = ""
  · rw [if_pos hblank]
  · rw [if_neg hblank]
    exact set_of_ne h

end TerritorySteps

/-- **The territory list combines its filters.** -/
theorem territoryFilters_combine (rt : FilterRuntime) (params : SearchParams) :
    TerritoryFiltersCombine rt params := by
  intro db t _ h name
  let zip := applyTerritoryZip empty params
  let type := applyTerritoryType zip params
  let access := applyTerritoryAccess rt type params
  let search := applyTerritorySearch rt db access params
  have hnames : ((territorySteps rt db).map (·.name)).Nodup := by
    show ["zip", "type", "access", "search", "pmr"].Nodup
    decide
  -- Each step finds the key it writes free, but the access, which narrows the zip's entrance.
  have htype : zip .type = none := applyTerritoryZip_other (by decide)
  have haccess : entrancesSome type .access = none := by
    have hsame : entrancesSome type = entrancesSome zip := by
      unfold entrancesSome
      rw [show type .entrances = zip .entrances from applyTerritoryType_other (by decide)]
    rw [hsame]
    exact entrancesSome_zip
  have hsearch : access .OR = none :=
    (applyTerritoryAccess_other (by decide)).trans <|
      (applyTerritoryType_other (by decide)).trans (applyTerritoryZip_other (by decide))
  have hpmr : search .AND = none :=
    (applyTerritorySearch_other (by decide)).trans <|
      (applyTerritoryAccess_other (by decide)).trans <|
        (applyTerritoryType_other (by decide)).trans (applyTerritoryZip_other (by decide))
  exact selects_only hnames ⟨fun h => ⟨selects_empty, h⟩, type_extends htype,
    access_extends haccess, search_extends hsearch, pmr_extends hpmr, trivial⟩ h name

/-! ### The attribution list -/

def attributionSteps (rt : FilterRuntime) (db : ListDb) (now : Instant) :
    List (FilterStep AttributionWhere) :=
  [⟨"group", fun params w => applyAttributionGroup rt w params, reads_chosen fun _ _ => rfl⟩,
   ⟨"type", fun params w => applyAttributionType w params, reads_chosen fun _ _ => rfl⟩,
   ⟨"campaign", fun params w => applyAttributionCampaign rt w params, reads_chosen fun _ _ => rfl⟩,
   ⟨"paused", fun params w => applyAttributionPaused w params, by
      intro params other w
      unfold applyAttributionPaused
      by_cases h : other = "paused"
      · rw [h, get_only_self, if_pos rfl]
      · rw [get_only_of_ne (Ne.symm h), if_neg h]
        rfl⟩,
   ⟨"status", fun params w => applyAttributionStatus now w params, reads_chosen fun _ _ => rfl⟩,
   ⟨"search", fun params w => applyAttributionSearch rt db w params, by
      intro params other w
      unfold applyAttributionSearch
      rw [searchText_only]
      by_cases h : other = "search" <;> simp [h]⟩]

section AttributionSteps

variable {rt : FilterRuntime} {db : ListDb} {now : Instant} {params : SearchParams}
  {a : Attribution} {w : AttributionWhere}

theorem attributionType_extends (hfree : w .type = none)
    (h : db.register.Selected (applyAttributionType w params) a) :
    db.register.Selected w a ∧ db.register.Selected (applyAttributionType empty params) a := by
  unfold applyAttributionType at h ⊢
  split at h
  · exact ⟨h, selects_empty⟩
  · exact extends_of_fresh hfree h

theorem campaign_extends (hfree : w .campaignId = none)
    (h : db.register.Selected (applyAttributionCampaign rt w params) a) :
    db.register.Selected w a ∧
      db.register.Selected (applyAttributionCampaign rt empty params) a := by
  unfold applyAttributionCampaign at h ⊢
  split at h
  next => exact ⟨h, selects_empty⟩
  next value _ =>
    by_cases hany : value = "any"
    · simp only [hany, if_true] at h ⊢
      exact extends_of_fresh hfree h
    · simp only [hany, if_false] at h ⊢
      exact extends_of_fresh hfree h

theorem paused_extends (hfree : w .pausedAt = none)
    (h : db.register.Selected (applyAttributionPaused w params) a) :
    db.register.Selected w a ∧ db.register.Selected (applyAttributionPaused empty params) a := by
  unfold applyAttributionPaused at h ⊢
  by_cases htrue : params.get "paused" = some "true"
  · rw [if_pos htrue] at h ⊢
    exact extends_of_fresh hfree h
  · rw [if_neg htrue] at h ⊢
    by_cases hfalse : params.get "paused" = some "false"
    · rw [if_pos hfalse] at h ⊢
      exact extends_of_fresh hfree h
    · rw [if_neg hfalse] at h ⊢
      exact ⟨h, selects_empty⟩

theorem attributionSearch_extends (hfree : w .OR = none)
    (h : db.register.Selected (applyAttributionSearch rt db w params) a) :
    db.register.Selected w a ∧
      db.register.Selected (applyAttributionSearch rt db empty params) a := by
  unfold applyAttributionSearch at h ⊢
  by_cases hblank : searchText params = ""
  · simp only [hblank, if_true] at h ⊢
    exact ⟨h, selects_empty⟩
  · simp only [hblank, if_false] at h ⊢
    exact extends_of_fresh hfree h

/-- The orphans are looked for among the publishers of the group. -/
theorem status_extends (hlate : w .lateDate = none)
    (horphan : ∀ publisher ∈ w .publisher, publisher.OR = none)
    (h : db.register.Selected (applyAttributionStatus now w params) a) :
    db.register.Selected w a ∧
      db.register.Selected (applyAttributionStatus now empty params) a := by
  unfold applyAttributionStatus at h ⊢
  split at h
  next => exact ⟨h, selects_empty⟩
  next status _ =>
    by_cases horphaned : status = "orphaned"
    · rw [if_pos horphaned] at h ⊢
      obtain ⟨publisher, hpublisher, hboth⟩ := (Option.any_eq_true _ _).mp (selects_set.mp h).1
      simp only [MemberWhere.selects, Bool.and_eq_true] at hboth
      constructor
      · apply selects_of_set h
        intro earlier hearlier _
        have hsame : (w .publisher).getD ⟨none, none⟩ = earlier := by
          rw [Option.mem_def.mp hearlier]
          rfl
        rw [hsame] at hboth
        refine (Option.any_eq_true _ _).mpr ⟨publisher, hpublisher, ?_⟩
        simp [MemberWhere.selects, hboth.1, horphan earlier hearlier]
      · unfold RegisterDb.Selected
        rw [selects_set_empty]
        refine (Option.any_eq_true _ _).mpr ⟨publisher, hpublisher, ?_⟩
        simpa [MemberWhere.selects, empty] using hboth.2
    · rw [if_neg horphaned] at h ⊢
      by_cases hstatus : status = "late"
      · rw [if_pos hstatus] at h ⊢
        exact extends_of_fresh hlate h
      · rw [if_neg hstatus] at h ⊢
        exact extends_of_fresh hlate h

theorem applyAttributionGroup_other {key : AttributionKey} (h : key ≠ .publisher) :
    applyAttributionGroup rt w params key = w key :=
  chosen_other fun _ => set_of_ne h

theorem applyAttributionType_other {key : AttributionKey} (h : key ≠ .type) :
    applyAttributionType w params key = w key :=
  chosen_other fun _ => set_of_ne h

theorem applyAttributionCampaign_other {key : AttributionKey} (h : key ≠ .campaignId) :
    applyAttributionCampaign rt w params key = w key := by
  apply chosen_other
  intro value
  split <;> exact set_of_ne h

theorem applyAttributionPaused_other {key : AttributionKey} (h : key ≠ .pausedAt) :
    applyAttributionPaused w params key = w key := by
  unfold applyAttributionPaused
  split
  · exact set_of_ne h
  · split
    · exact set_of_ne h
    · rfl

theorem applyAttributionStatus_other {key : AttributionKey} (hpublisher : key ≠ .publisher)
    (hlate : key ≠ .lateDate) : applyAttributionStatus now w params key = w key := by
  apply chosen_other
  intro status
  split
  · exact set_of_ne hpublisher
  · split <;> exact set_of_ne hlate

/-- The group names a publisher's group and nothing else. -/
theorem applyAttributionGroup_publisher :
    ∀ publisher ∈ applyAttributionGroup rt empty params .publisher, publisher.OR = none := by
  intro publisher hpublisher
  unfold applyAttributionGroup at hpublisher
  cases hchosen : params.chosen "group" with
  | none =>
    rw [hchosen] at hpublisher
    exact absurd hpublisher (by simp [empty])
  | some group =>
    rw [hchosen] at hpublisher
    have heq : _ = publisher := Option.some.inj (set_self.symm.trans hpublisher)
    rw [← heq]

end AttributionSteps

/-- **The attribution list combines its filters.** -/
theorem attributionFilters_combine (rt : FilterRuntime) (params : SearchParams) :
    AttributionFiltersCombine rt params := by
  intro db now a _ h name
  let group := applyAttributionGroup rt empty params
  let type := applyAttributionType group params
  let campaign := applyAttributionCampaign rt type params
  let paused := applyAttributionPaused campaign params
  let status := applyAttributionStatus now paused params
  have hnames : ((attributionSteps rt db now).map (·.name)).Nodup := by
    show ["group", "type", "campaign", "paused", "status", "search"].Nodup
    decide
  -- No step writes the key of another, but the status, which narrows the group's publisher.
  have hgroup : ∀ key, key ≠ .publisher → group key = none := fun key hkey =>
    applyAttributionGroup_other hkey
  have htype : ∀ key, key ≠ .type → type key = group key := fun key hkey =>
    applyAttributionType_other hkey
  have hcampaign : ∀ key, key ≠ .campaignId → campaign key = type key := fun key hkey =>
    applyAttributionCampaign_other hkey
  have hpaused : ∀ key, key ≠ .pausedAt → paused key = campaign key := fun key hkey =>
    applyAttributionPaused_other hkey
  have horphan : ∀ publisher ∈ paused .publisher, publisher.OR = none := by
    rw [hpaused _ (by decide), hcampaign _ (by decide), htype _ (by decide)]
    exact applyAttributionGroup_publisher
  have hlate : paused .lateDate = none := by
    rw [hpaused _ (by decide), hcampaign _ (by decide), htype _ (by decide), hgroup _ (by decide)]
  have hsearch : status .OR = none := by
    rw [show status .OR = paused .OR from applyAttributionStatus_other (by decide) (by decide),
      hpaused _ (by decide), hcampaign _ (by decide), htype _ (by decide), hgroup _ (by decide)]
  refine selects_only hnames ⟨fun h => ⟨selects_empty, h⟩,
    attributionType_extends (hgroup _ (by decide)), campaign_extends ?_, paused_extends ?_,
    status_extends hlate horphan, attributionSearch_extends hsearch, trivial⟩ h name
  · exact (htype _ (by decide)).trans (hgroup _ (by decide))
  · exact (hcampaign _ (by decide)).trans ((htype _ (by decide)).trans (hgroup _ (by decide)))

end Unitae.Territories
