import Unitae.Territories.ListFilters

/-!
# Unitae — the building list loses filters (`building-filters.server.ts`)

The type, the access and the shop of the building list are each a condition on an entrance, and each
step writes `entrances` over. The last one chosen is the one that counts. `filters_combine_iff` says
for which parameters all three lists keep every filter.
-/

namespace Unitae.Territories

open WhereObject

def buildingSteps (rt : FilterRuntime) : List (FilterStep BuildingWhere) :=
  [⟨"zip", fun params w => applyBuildingZip w params, reads_chosen fun _ _ => rfl⟩,
   ⟨"type", fun params w => applyBuildingType w params, by
      intro params other w
      unfold applyBuildingType
      rw [chosen_only]
      by_cases h : other = "type" <;> simp [h]⟩,
   ⟨"access", fun params w => applyBuildingAccess rt w params, reads_chosen fun _ _ => rfl⟩,
   ⟨"shops", fun params w => applyBuildingShop w params, reads_chosen fun _ _ => rfl⟩,
   ⟨"search", fun params w => applyBuildingSearch rt w params, by
      intro params other w
      unfold applyBuildingSearch
      rw [searchText_only]
      by_cases h : other = "search" <;> simp [h]⟩]

/-- What the type chosen asks of an entrance. -/
def chosenTypeWhere (params : SearchParams) : Option EntranceWhere :=
  (params.chosen "type").bind buildingTypeWhere

/-- The parameters that leave no two of the three conditions on an entrance: a shop goes with the
commerces alone, and an access with no type. (An access that is no whole number selects nothing.) -/
def EntranceFiltersAgree (rt : FilterRuntime) (params : SearchParams) : Prop :=
  match params.chosen "shops", params.chosen "access" with
  | some _, access => access = none ∧
      (chosenTypeWhere params = none ∨ params.chosen "type" = some "Commerces")
  | none, some access => chosenTypeWhere params = none ∨ rt.integer access = none
  | none, none => True

section Steps

variable {rt : FilterRuntime} {db : MapDb} {params : SearchParams} {b : Building}
  {w : BuildingWhere}

theorem buildingType_extends (hfree : w .entrances = none)
    (h : db.BuildingSelected (applyBuildingType w params) b) :
    db.BuildingSelected w b ∧ db.BuildingSelected (applyBuildingType empty params) b := by
  unfold applyBuildingType at h ⊢
  split at h
  · exact ⟨h, selects_empty⟩
  · exact extends_of_fresh hfree h

theorem buildingSearch_extends (hfree : w .OR = none)
    (h : db.BuildingSelected (applyBuildingSearch rt w params) b) :
    db.BuildingSelected w b ∧ db.BuildingSelected (applyBuildingSearch rt empty params) b := by
  unfold applyBuildingSearch at h ⊢
  by_cases hblank : searchText params = ""
  · simp only [hblank, if_true] at h ⊢
    exact ⟨h, selects_empty⟩
  · simp only [hblank, if_false] at h ⊢
    exact extends_of_fresh hfree h

/-- A number that no column equals selects nothing. -/
theorem not_selected_of_not_integer {access : String} (h : rt.integer access = none) :
    ¬db.BuildingSelected (w.set .entrances (empty.set .access (rt.equalsNumber access))) b := by
  intro hselected
  obtain ⟨⟨e, _, he⟩, _⟩ := selects_set.mp hselected
  have haccess : rt.equalsNumber access e.access = true := (selects_set.mp he).1
  simp [FilterRuntime.equalsNumber, h] at haccess

theorem buildingAccess_extends
    (hfree : params.chosen "access" = none ∨ w .entrances = none ∨
      ∃ access, params.chosen "access" = some access ∧ rt.integer access = none)
    (h : db.BuildingSelected (applyBuildingAccess rt w params) b) :
    db.BuildingSelected w b ∧ db.BuildingSelected (applyBuildingAccess rt empty params) b := by
  unfold applyBuildingAccess at h ⊢
  cases hchosen : params.chosen "access" with
  | none =>
    rw [hchosen] at h
    exact ⟨h, selects_empty⟩
  | some access =>
    rw [hchosen] at h
    obtain hnone | hempty | ⟨text, htext, hnumber⟩ := hfree
    · exact absurd hchosen (by simp [hnone])
    · exact extends_of_fresh hempty h
    · rw [hchosen, Option.some.injEq] at htext
      exact absurd h (not_selected_of_not_integer (by rwa [htext]))

/-- A shop is a commerce. -/
theorem buildingShop_extends
    (hcommerce : params.chosen "shops" = none ∨
      ∀ u ∈ w .entrances, u = empty.set .kind (· == .commerce))
    (h : db.BuildingSelected (applyBuildingShop w params) b) :
    db.BuildingSelected w b ∧ db.BuildingSelected (applyBuildingShop empty params) b := by
  unfold applyBuildingShop at h ⊢
  cases hchosen : params.chosen "shops" with
  | none =>
    rw [hchosen] at h
    exact ⟨h, selects_empty⟩
  | some shop =>
    rw [hchosen] at h
    constructor
    · apply selects_of_set h
      intro u hu hmeets
      obtain ⟨e, he, hselected⟩ := hmeets
      rw [(hcommerce.resolve_left (by simp [hchosen])) u hu]
      refine ⟨e, he, ?_⟩
      -- The shop step wrote the kind first, and the shop over it.
      exact ((selects_set_of_fresh (by rw [set_of_ne (by decide)]; rfl)).mp hselected).1
    · unfold MapDb.BuildingSelected
      rw [selects_set_empty]
      exact (selects_set.mp h).1

theorem applyBuildingZip_other {key : BuildingKey} (h : key ≠ .zip) :
    applyBuildingZip w params key = w key :=
  chosen_other fun _ => set_of_ne h

theorem applyBuildingType_other {key : BuildingKey} (h : key ≠ .entrances) :
    applyBuildingType w params key = w key := by
  unfold applyBuildingType
  cases (params.chosen "type").bind buildingTypeWhere with
  | none => rfl
  | some u => exact set_of_ne h

theorem applyBuildingAccess_other {key : BuildingKey} (h : key ≠ .entrances) :
    applyBuildingAccess rt w params key = w key :=
  chosen_other fun _ => set_of_ne h

theorem applyBuildingShop_other {key : BuildingKey} (h : key ≠ .entrances) :
    applyBuildingShop w params key = w key :=
  chosen_other fun _ => set_of_ne h

/-- What the type step writes. -/
theorem applyBuildingType_entrances (hfree : w .entrances = none) :
    applyBuildingType w params .entrances = chosenTypeWhere params := by
  unfold applyBuildingType chosenTypeWhere
  cases (params.chosen "type").bind buildingTypeWhere with
  | none => exact hfree
  | some u => exact set_self

end Steps

/-- **With parameters that agree the building list combines its filters.** -/
theorem buildingFilters_combine {rt : FilterRuntime} {params : SearchParams}
    (hagree : EntranceFiltersAgree rt params) : BuildingFiltersCombine rt params := by
  intro db b _ h name
  let zip := applyBuildingZip empty params
  let type := applyBuildingType zip params
  let access := applyBuildingAccess rt type params
  let shop := applyBuildingShop access params
  have hnames : ((buildingSteps rt).map (·.name)).Nodup := by
    show ["zip", "type", "access", "shops", "search"].Nodup
    decide
  have hzip : zip .entrances = none := applyBuildingZip_other (by decide)
  have htype : type .entrances = chosenTypeWhere params := applyBuildingType_entrances hzip
  have hsearch : shop .OR = none :=
    (applyBuildingShop_other (by decide)).trans <|
      (applyBuildingAccess_other (by decide)).trans <|
        (applyBuildingType_other (by decide)).trans (applyBuildingZip_other (by decide))
  unfold EntranceFiltersAgree at hagree
  -- The access: not chosen with a shop, and no whole number with a type.
  have haccess : params.chosen "access" = none ∨ type .entrances = none ∨
      ∃ text, params.chosen "access" = some text ∧ rt.integer text = none := by
    cases haccess : params.chosen "access" with
    | none => exact .inl rfl
    | some text =>
      cases hshops : params.chosen "shops" with
      | some shop =>
        rw [hshops, haccess] at hagree
        exact absurd hagree.1 (by simp)
      | none =>
        rw [hshops, haccess] at hagree
        cases hagree with
        | inl hnone => exact .inr (.inl (htype.trans hnone))
        | inr hnumber => exact .inr (.inr ⟨text, rfl, hnumber⟩)
  -- The shop: with no access, and with no type but the commerces.
  have hshop : params.chosen "shops" = none ∨
      ∀ u ∈ access .entrances, u = empty.set .kind (· == .commerce) := by
    cases hshops : params.chosen "shops" with
    | none => exact .inl rfl
    | some text =>
      right
      rw [hshops] at hagree
      obtain ⟨hnoAccess, hkind⟩ := hagree
      have hsame : access = type := by
        show applyBuildingAccess rt type params = _
        unfold applyBuildingAccess
        rw [hnoAccess]
      intro u hu
      rw [hsame, htype] at hu
      cases hkind with
      | inl hnone => exact absurd hu (by simp [hnone])
      | inr hcommerces =>
        have hwhere : chosenTypeWhere params = some (empty.set .kind (· == .commerce)) := by
          unfold chosenTypeWhere
          rw [hcommerces]
          rfl
        rw [hwhere] at hu
        exact (Option.some.inj hu).symm
  exact selects_only hnames ⟨fun h => ⟨selects_empty, h⟩, buildingType_extends hzip,
    buildingAccess_extends haccess, buildingShop_extends hshop, buildingSearch_extends hsearch,
    trivial⟩ h name

/-! ## Parameters that do not agree -/

section Clash

variable {rt : FilterRuntime} {params : SearchParams}

/-- The condition on an entrance that is left at the end: the last one written. -/
def finalEntrances (rt : FilterRuntime) (params : SearchParams) : Option EntranceWhere :=
  match params.chosen "shops", params.chosen "access" with
  | some shop, _ => some (shopWhere shop)
  | none, some access => some (empty.set .access (rt.equalsNumber access))
  | none, none => chosenTypeWhere params

theorem applyBuildingSearch_other {w : BuildingWhere} {key : BuildingKey} (h : key ≠ .OR) :
    applyBuildingSearch rt w params key = w key := by
  unfold applyBuildingSearch
  by_cases hblank : searchText params = ""
  · rw [if_pos hblank]
  · rw [if_neg hblank]
    exact set_of_ne h

theorem buildingFilters_entrances :
    buildingFilters rt params .entrances = finalEntrances rt params := by
  unfold buildingFilters finalEntrances
  rw [applyBuildingSearch_other (by decide)]
  unfold applyBuildingShop
  cases params.chosen "shops" with
  | some shop => exact set_self
  | none =>
    dsimp only
    unfold applyBuildingAccess
    cases params.chosen "access" with
    | some access => exact set_self
    | none => exact applyBuildingType_entrances (applyBuildingZip_other (by decide))

/-- A building made to meet every other filter, with one entrance. -/
def clashBuilding (params : SearchParams) : Building where
  id := 1
  number := searchText params
  street := ""
  streetNormalized := ""
  zip := (params.chosen "zip").getD ""
  latitude := none
  longitude := none
  active := true
  inTerritory := true
  inOpenData := false
  prospectionDate := none

def clashEntrance (kind : EntranceKind) (shopKind : String) (access : Option Int) :
    BuildingEntrance where
  id := 1
  kind := kind
  shopKind := shopKind
  homes := none
  phones := none
  liberals := none
  latitude := none
  longitude := none
  access := access
  isPMR := none
  isOpenEarly := none
  isMailboxOpen := none
  notes := ""

def clashDb (params : SearchParams) (e : BuildingEntrance) : MapDb where
  buildings := [clashBuilding params]
  entrances := [e]
  links := [(1, 1)]
  residentialData := []
  accesses := []
  nextBuildingId := 2
  nextEntranceId := 2
  nextResidentialDataId := 1

theorem containsInsensitive_self (text : String) : rt.containsInsensitive text text = true := by
  simp [FilterRuntime.containsInsensitive, containsText]

/-- The building is selected as soon as its entrance meets what is left of the conditions on it. -/
theorem clash_selected {e : BuildingEntrance} (hid : e.id = 1)
    (h : ∀ u ∈ finalEntrances rt params, (clashDb params e).EntranceSelected u e) :
    (clashDb params e).BuildingSelected (buildingFilters rt params) (clashBuilding params) := by
  intro key value hvalue
  cases key with
  | entrances =>
    rw [buildingFilters_entrances] at hvalue
    have hentrance : e ∈ (clashDb params e).entrancesOf (clashBuilding params).id := by
      simp [MapDb.entrancesOf, clashDb, clashBuilding, hid]
    exact ⟨e, hentrance, h value hvalue⟩
  | zip =>
    have hzip : buildingFilters rt params .zip = applyBuildingZip empty params .zip :=
      (applyBuildingSearch_other (by decide)).trans <|
        (applyBuildingShop_other (by decide)).trans <|
          (applyBuildingAccess_other (by decide)).trans (applyBuildingType_other (by decide))
    rw [hzip] at hvalue
    show value (clashBuilding params).zip = true
    unfold applyBuildingZip at hvalue
    cases hchosen : params.chosen "zip" with
    | none =>
      rw [hchosen] at hvalue
      exact absurd hvalue (by simp [empty])
    | some zip =>
      rw [hchosen] at hvalue
      have heq : _ = value := Option.some.inj (set_self.symm.trans hvalue)
      rw [← heq]
      simp [clashBuilding, hchosen]
  | OR =>
    show ∃ clause ∈ value, clause (clashBuilding params) = true
    have hsearch : value ∈ applyBuildingSearch rt (applyBuildingShop (applyBuildingAccess rt
        (applyBuildingType (applyBuildingZip empty params) params) params) params) params .OR := hvalue
    unfold applyBuildingSearch at hsearch
    by_cases hblank : searchText params = ""
    · rw [if_pos hblank, applyBuildingShop_other (by decide), applyBuildingAccess_other (by decide),
        applyBuildingType_other (by decide), applyBuildingZip_other (by decide)] at hsearch
      exact absurd hsearch (by simp [empty])
    · rw [if_neg hblank] at hsearch
      have heq : _ = value := Option.some.inj (set_self.symm.trans hsearch)
      rw [← heq]
      exact ⟨_, List.mem_cons_of_mem _ (List.mem_singleton_self _), containsInsensitive_self _⟩

/-- Where the filters combine, the entrance meets what any parameter alone asks of it. -/
theorem entrance_alone (hcombine : BuildingFiltersCombine rt params) {e : BuildingEntrance}
    (hid : e.id = 1)
    (h : ∀ u ∈ finalEntrances rt params, (clashDb params e).EntranceSelected u e)
    (name : String) {u : EntranceWhere} (hu : finalEntrances rt (params.only name) = some u) :
    (clashDb params e).EntranceSelected u e := by
  have halone := hcombine (clashDb params e) (clashBuilding params) (by simp [clashDb])
    (clash_selected hid h) name
  obtain ⟨e', he', hmeets⟩ := halone .entrances u (by rw [buildingFilters_entrances, hu]; rfl)
  have hsame : e' = e := by
    have hmem := (List.mem_filter.mp he').1
    simpa [clashDb] using hmem
  rwa [hsame] at hmeets

/-- No type asks for a laundromat, and only the commerces ask for a commerce. -/
theorem typeWhere_kind {type : String} {u : EntranceWhere} (hu : buildingTypeWhere type = some u)
    {db : MapDb} {e : BuildingEntrance} (h : db.EntranceSelected u e) :
    e.kind ≠ .laundromat ∧ (type ≠ "Commerces" → e.kind ≠ .commerce) := by
  have hkind : ∀ {kind : EntranceKind}, u .kind = some (· == kind) → e.kind = kind := by
    intro kind hset
    have hmeets : (e.kind == kind) = true := h .kind _ hset
    simpa using hmeets
  unfold buildingTypeWhere at hu
  split at hu
  · rw [hkind (by rw [← Option.some.inj hu, set_of_ne (by decide), set_self])]
    exact ⟨by decide, fun _ => by decide⟩
  split at hu
  · rw [hkind (by rw [← Option.some.inj hu, set_of_ne (by decide), set_self])]
    exact ⟨by decide, fun _ => by decide⟩
  split at hu
  next hcommerces =>
    rw [hkind (by rw [← Option.some.inj hu, set_self])]
    exact ⟨by decide, fun hother => absurd hcommerces hother⟩
  split at hu
  · rw [hkind (by rw [← Option.some.inj hu, set_self])]
    exact ⟨by decide, fun _ => by decide⟩
  split at hu
  · rw [hkind (by rw [← Option.some.inj hu, set_self])]
    exact ⟨by decide, fun _ => by decide⟩
  · exact absurd hu (by simp)

end Clash

/-- A runtime that folds nothing and knows no addresses. -/
def plainRuntime : FilterRuntime where
  stripDiacritics := id
  foldCase := id
  matchAddress := fun _ => none
  integer := String.toInt?

/-- The hotels with a bakery: a bakery that is no hotel is listed. -/
theorem shop_drops_type :
    ¬BuildingFiltersCombine plainRuntime [("type", "Hotel"), ("shops", "bakery")] := by
  intro hcombine
  let e := clashEntrance .commerce "bakery" none
  let params : SearchParams := [("type", "Hotel"), ("shops", "bakery")]
  have hlisted : ∀ u ∈ finalEntrances plainRuntime params,
      (clashDb params e).EntranceSelected u e := by
    intro u hu
    have hshop : some (shopWhere "bakery") = some u := hu
    rw [← Option.some.inj hshop]
    unfold MapDb.EntranceSelected shopWhere
    rw [selects_set_of_fresh (by rw [set_of_ne (by decide)]; rfl), selects_set_empty]
    show (EntranceKind.commerce == .commerce) = true ∧ ("bakery" == "bakery") = true
    decide
  have hhotel : (clashDb params e).EntranceSelected (empty.set .kind (· == .hotel)) e :=
    entrance_alone hcombine rfl hlisted "type" rfl
  have hkind : (EntranceKind.commerce == EntranceKind.hotel) = true := (selects_set.mp hhotel).1
  exact absurd hkind (by decide)

/-- **The parameters have to agree**: for any others there is a building to show it. -/
theorem agree_of_combine {rt : FilterRuntime} {params : SearchParams}
    (hcombine : BuildingFiltersCombine rt params) : EntranceFiltersAgree rt params := by
  have htypeAlone : finalEntrances rt (params.only "type") = chosenTypeWhere params := by
    unfold finalEntrances chosenTypeWhere
    simp only [chosen_only]
    rfl
  have haccessAlone : ∀ access, params.chosen "access" = some access →
      finalEntrances rt (params.only "access") =
        some (empty.set .access (rt.equalsNumber access)) := by
    intro access haccess
    unfold finalEntrances
    simp only [chosen_only, haccess]
    rfl
  unfold EntranceFiltersAgree
  cases hshops : params.chosen "shops" with
  | some shop =>
    -- A shop that no number of an access is known of.
    let e := clashEntrance .commerce shop none
    have hmeets : ∀ u ∈ finalEntrances rt params, (clashDb params e).EntranceSelected u e := by
      intro u hu
      have hfinal : finalEntrances rt params = some (shopWhere shop) := by
        unfold finalEntrances
        rw [hshops]
      rw [hfinal] at hu
      rw [← Option.some.inj hu]
      unfold MapDb.EntranceSelected shopWhere
      rw [selects_set_of_fresh (by rw [set_of_ne (by decide)]; rfl), selects_set_empty]
      constructor
      · rfl
      · exact beq_self_eq_true shop
    constructor
    · cases haccess : params.chosen "access" with
      | none => rfl
      | some access =>
        have halone := entrance_alone hcombine rfl hmeets "access" (haccessAlone access haccess)
        have hnone : rt.equalsNumber access none = true := (selects_set.mp halone).1
        simp [FilterRuntime.equalsNumber] at hnone
    · cases hwhere : chosenTypeWhere params with
      | none => exact .inl rfl
      | some u =>
        right
        have halone := entrance_alone hcombine rfl hmeets "type" (htypeAlone.trans hwhere)
        obtain ⟨type, htype, hu⟩ := Option.bind_eq_some_iff.mp hwhere
        rw [htype]
        by_contra hother
        exact (typeWhere_kind hu halone).2 (fun heq => hother (by rw [heq])) rfl
  | none =>
    cases haccess : params.chosen "access" with
    | none => trivial
    | some access =>
      cases hnumber : rt.integer access with
      | none => exact .inr hnumber
      | some n =>
        left
        -- An entrance of the access that no type asks for.
        let e := clashEntrance .laundromat "" (some n)
        have hmeets : ∀ u ∈ finalEntrances rt params, (clashDb params e).EntranceSelected u e := by
          intro u hu
          have hfinal : finalEntrances rt params =
              some (empty.set .access (rt.equalsNumber access)) := by
            unfold finalEntrances
            rw [hshops, haccess]
          rw [hfinal] at hu
          rw [← Option.some.inj hu]
          unfold MapDb.EntranceSelected
          rw [selects_set_empty]
          show rt.equalsNumber access (some n) = true
          simp [FilterRuntime.equalsNumber, hnumber]
        cases hwhere : chosenTypeWhere params with
        | none => rfl
        | some u =>
          have halone := entrance_alone hcombine rfl hmeets "type" (htypeAlone.trans hwhere)
          obtain ⟨type, _, hu⟩ := Option.bind_eq_some_iff.mp hwhere
          exact absurd rfl (typeWhere_kind hu halone).1

/-! ## The three lists -/

/-- **The lists combine their filters exactly when the building list's agree.** The territory and
the attribution list always do; the building list when its parameters leave one condition on an
entrance, or a shop among the commerces. -/
theorem filters_combine_iff (rt : FilterRuntime) (params : SearchParams) :
    (BuildingFiltersCombine rt params ∧ TerritoryFiltersCombine rt params ∧
        AttributionFiltersCombine rt params) ↔
      EntranceFiltersAgree rt params :=
  ⟨fun h => agree_of_combine h.1, fun h =>
    ⟨buildingFilters_combine h, territoryFilters_combine rt params,
      attributionFilters_combine rt params⟩⟩

end Unitae.Territories
