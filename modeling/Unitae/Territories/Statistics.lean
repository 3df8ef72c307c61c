import Mathlib.Data.List.Sort
import Unitae.Territories.Register

/-!
# Unitae — which attributions the statistics count (`fetch-attributions-for-stats.server.ts`)

The statistics and the two coverages filter by kind of territory, by category of attribution, by
range of dates and by group. Each filter is a where object of its own, spread into one. The category
and the range both write the key `OR`, and the range is spread last: `stats_honour_filters_iff` says
when the statistics still count what the filters ask for.
-/

namespace Unitae.Territories

open WhereObject

/-- Users think in three buckets: campaign work is a category whatever its method. -/
inductive AttributionCategory where
  | default
  | phone
  | campaign
deriving DecidableEq, Repr

/-- `category as TerritoryAttributionKind`. -/
def AttributionCategory.method : AttributionCategory → Option TerritoryAttributionKind
  | .default => some .default
  | .phone => some .phone
  | .campaign => none

structure StatsFilterParams where
  territoryKind : List TerritoryKindKey
  attributionKind : List AttributionCategory
  startDate : Instant
  endDate : Instant
  groupId : Option Nat
deriving DecidableEq, Repr

structure StatsAttribution where
  id : Nat
  territoryId : Nat
  territoryNumber : String
  territoryType : TerritoryKindKey
  type : TerritoryAttributionKind
  campaignId : Option Nat
  campaignRestPeriodDays : Option Nat
  startDate : Instant
  endDate : Option Instant
  lateDate : Instant
deriving DecidableEq, Repr

/-! ## The fragments -/

/-- `buildAttributionCategoryWhere`. -/
def buildAttributionCategoryWhere (categories : List AttributionCategory) : AttributionWhere :=
  if categories = [] then empty
  else empty.set .OR (categories.map fun category a =>
    if category = .campaign then a.campaignId.isSome
    else a.campaignId.isNone && category.method == some a.type)

/-- `buildAttributionDateOverlapWhere`: strictly before the day after `endDate`, so that the picked
day is included. -/
def buildAttributionDateOverlapWhere (tz : LocalTime) (startDate endDate : Instant) :
    AttributionWhere :=
  (empty.set .startDate fun date => date < startOfNextDay tz endDate).set .OR
    [fun a => a.endDate.isNone, fun a => a.endDate.any fun date => startDate ≤ date]

/-- `{ territory: { type: { in: territoryKind } } }`, or nothing. -/
def kindWhere (territoryKind : List TerritoryKindKey) : AttributionWhere :=
  if territoryKind = [] then empty
  else empty.set .territory fun territory => territoryKind.contains territory.type

/-- `{ publisher: { publisherGroupId: groupId } }`, or nothing. -/
def groupWhere (groupId : Option Nat) : AttributionWhere :=
  match groupId with
  | none => empty
  | some groupId =>
    empty.set .publisher ⟨some fun publisherGroupId => publisherGroupId == some groupId, none⟩

/-! ## The three queries -/

/-- `orderBy: [{ territoryId: 'asc' }, { startDate: 'asc' }]`. -/
def byTerritoryThenStart (a b : Attribution) : Bool :=
  a.territoryId < b.territoryId || (a.territoryId == b.territoryId && a.startDate ≤ b.startDate)

def RegisterDb.statsAttribution (db : RegisterDb) (a : Attribution) : StatsAttribution where
  id := a.id
  territoryId := a.territoryId
  -- The defaults stand for a territory that is missing, which the foreign key rules out.
  territoryNumber := ((db.territoryOf a).map (·.number)).getD ""
  territoryType := ((db.territoryOf a).map (·.type)).getD .classical
  type := a.type
  campaignId := a.campaignId
  campaignRestPeriodDays := (db.campaignOf a).bind (·.restPeriodDays)
  startDate := a.startDate
  endDate := a.endDate
  lateDate := a.lateDate

def statsWhere (tz : LocalTime) (params : StatsFilterParams) : AttributionWhere :=
  (((kindWhere params.territoryKind).spread
    (buildAttributionCategoryWhere params.attributionKind)).spread
    (buildAttributionDateOverlapWhere tz params.startDate params.endDate)).spread
    (groupWhere params.groupId)

def fetchAttributionsForStats (tz : LocalTime) (db : RegisterDb) (params : StatsFilterParams) :
    List StatsAttribution :=
  ((db.findMany (statsWhere tz params)).mergeSort byTerritoryThenStart).map db.statsAttribution

/-- `db.territory.count({ where: kindWhere })`. -/
def RegisterDb.countTerritories (db : RegisterDb) (territoryKind : List TerritoryKindKey) : Nat :=
  (db.territories.filter fun territory =>
    territoryKind.isEmpty || territoryKind.contains territory.type).length

/-- `total === 0 ? 0 : (count / total) * 100`. -/
def percentage (count total : Nat) : Rat := if total = 0 then 0 else (count : Rat) / total * 100

def computeTerritoryCoverage (tz : LocalTime) (db : RegisterDb) (territoryKind : List TerritoryKindKey)
    (attributionKind : List AttributionCategory) (startDate endDate : Instant)
    (groupId : Option Nat) : Rat :=
  let total := db.countTerritories territoryKind
  let count := (db.findMany (((
    (kindWhere territoryKind).spread
    (buildAttributionCategoryWhere attributionKind)).spread
    (buildAttributionDateOverlapWhere tz startDate endDate)).spread
    (groupWhere groupId))).length
  percentage count total

/-- The territories of the kinds with an attribution that meets the rest. -/
def computeTerritoryCoverageTotal (tz : LocalTime) (db : RegisterDb)
    (territoryKind : List TerritoryKindKey) (attributionKind : List AttributionCategory)
    (startDate endDate : Instant) (groupId : Option Nat) : Rat :=
  let total := db.countTerritories territoryKind
  let attributionsWhere :=
    ((buildAttributionCategoryWhere attributionKind).spread
    (buildAttributionDateOverlapWhere tz startDate endDate)).spread
    (groupWhere groupId)
  let count := (db.territories.filter fun territory =>
    (territoryKind.isEmpty || territoryKind.contains territory.type) &&
      (db.findMany attributionsWhere).any fun a => a.territoryId == territory.id).length
  percentage count total

/-! ## What the filters ask for -/

def Attribution.category (a : Attribution) : AttributionCategory :=
  if a.campaignId.isSome then .campaign
  else match a.type with
    | .default => .default
    | .phone => .phone

/-- The days picked, from the start of the first to the last instant of the last. -/
def statsRange (tz : LocalTime) (params : StatsFilterParams) : Span Instant :=
  ⟨params.startDate, some (startOfNextDay tz params.endDate - 1)⟩

/-- The attribution passes every filter but the one on its category. -/
structure StatsFilterParams.InScope (params : StatsFilterParams) (tz : LocalTime) (db : RegisterDb)
    (a : Attribution) : Prop where
  kind : params.territoryKind = [] ∨
    ∃ territory ∈ db.territoryOf a, territory.type ∈ params.territoryKind
  range : a.span.Overlaps (statsRange tz params)
  group : ∀ groupId ∈ params.groupId,
    ∃ publisher ∈ db.publisherOf a, publisher.publisherGroupId = some groupId

/-- The attribution passes the filter on its category. -/
def StatsFilterParams.Listed (params : StatsFilterParams) (a : Attribution) : Prop :=
  params.attributionKind = [] ∨ a.category ∈ params.attributionKind

/-! ## What the queries select -/

/-- **The category is lost.** Both fragments write the key `OR`, and the dates are spread last. -/
theorem category_lost (tz : LocalTime) (w : AttributionWhere) (categories : List AttributionCategory)
    (startDate endDate : Instant) :
    (w.spread (buildAttributionCategoryWhere categories)).spread
        (buildAttributionDateOverlapWhere tz startDate endDate) =
      w.spread (buildAttributionDateOverlapWhere tz startDate endDate) := by
  apply spread_spread_of_covered
  intro key hkey
  -- The range leaves `OR` free only if it is not the key asked about.
  have hor : key ≠ .OR := by
    intro heq
    subst heq
    exact absurd hkey (by simp [buildAttributionDateOverlapWhere, WhereObject.set])
  unfold buildAttributionCategoryWhere
  split
  · rfl
  · simp [WhereObject.set, WhereObject.empty, Function.update_of_ne hor]

section Fragments

variable {tz : LocalTime} {db : RegisterDb} {a : Attribution}

theorem kindWhere_other {kinds : List TerritoryKindKey} {key : AttributionKey}
    (h : key ≠ .territory) : kindWhere kinds key = none := by
  unfold kindWhere
  split
  · rfl
  · rw [set_of_ne h]
    rfl

theorem dateOverlapWhere_other {startDate endDate : Instant} {key : AttributionKey}
    (hstart : key ≠ .startDate) (hor : key ≠ .OR) :
    buildAttributionDateOverlapWhere tz startDate endDate key = none := by
  unfold buildAttributionDateOverlapWhere
  rw [set_of_ne hor, set_of_ne hstart]
  rfl

theorem groupWhere_other {groupId : Option Nat} {key : AttributionKey} (h : key ≠ .publisher) :
    groupWhere groupId key = none := by
  cases groupId with
  | none => rfl
  | some g => exact (set_of_ne h).trans rfl

theorem selected_kindWhere {kinds : List TerritoryKindKey} :
    db.Selected (kindWhere kinds) a ↔
      kinds = [] ∨ ∃ territory ∈ db.territoryOf a, territory.type ∈ kinds := by
  unfold kindWhere
  split
  next hnone => simp [RegisterDb.Selected, hnone]
  next hsome =>
    unfold RegisterDb.Selected
    rw [selects_set_of_fresh rfl]
    simp [RegisterDb.meets, hsome, Option.any_eq_true]

theorem selected_groupWhere {groupId : Option Nat} :
    db.Selected (groupWhere groupId) a ↔
      ∀ g ∈ groupId, ∃ publisher ∈ db.publisherOf a, publisher.publisherGroupId = some g := by
  cases groupId with
  | none => simp [RegisterDb.Selected, groupWhere]
  | some g =>
    unfold RegisterDb.Selected groupWhere
    rw [selects_set_of_fresh rfl]
    simp [RegisterDb.meets, MemberWhere.selects, Option.any_eq_true]

/-- The two keys of the range say that the attribution overlaps it. -/
theorem selected_dateOverlapWhere {startDate endDate : Instant} :
    db.Selected (buildAttributionDateOverlapWhere tz startDate endDate) a ↔
      a.span.Overlaps ⟨startDate, some (startOfNextDay tz endDate - 1)⟩ := by
  have hor : ∀ condition, (empty.set .startDate condition : AttributionWhere) .OR = none := by
    intro condition
    rw [set_of_ne (by decide)]
    rfl
  unfold RegisterDb.Selected buildAttributionDateOverlapWhere
  rw [selects_set_of_fresh (hor _), selects_set_of_fresh rfl]
  simp only [RegisterDb.meets, Span.Overlaps, Span.Reaches, Attribution.span]
  have hday : ∀ t : Int, t ≤ startOfNextDay tz endDate - 1 ↔ t < startOfNextDay tz endDate := by
    intro t
    omega
  cases hend : a.endDate <;> simp [hend, hday, and_comm]

end Fragments

/-! ## When the filters are honoured -/

instance (tz : LocalTime) (db : RegisterDb) (params : StatsFilterParams) (a : Attribution) :
    Decidable (params.InScope tz db a) :=
  decidable_of_iff (_ ∧ _ ∧ _)
    ⟨fun ⟨kind, range, group⟩ => ⟨kind, range, group⟩, fun h => ⟨h.kind, h.range, h.group⟩⟩

instance (params : StatsFilterParams) (a : Attribution) : Decidable (params.Listed a) :=
  inferInstanceAs (Decidable (_ ∨ _))

/-- The attributions the filters ask for. -/
def wantedAttributions (tz : LocalTime) (db : RegisterDb) (params : StatsFilterParams) :
    List Attribution :=
  db.attributions.filter fun a => params.InScope tz db a ∧ params.Listed a

/-- The territories with an attribution the filters ask for. -/
def wantedTerritories (tz : LocalTime) (db : RegisterDb) (params : StatsFilterParams) :
    List TerritoryRow :=
  db.territories.filter fun territory =>
    (wantedAttributions tz db params).any fun a => a.territoryId == territory.id

section Honoured

variable {tz : LocalTime} {db : RegisterDb} {params : StatsFilterParams} {a : Attribution}

/-- The range and the group, whatever the category, select what they ask for together. -/
theorem selected_rangeAndGroup {w : AttributionWhere}
    (hw : ∀ key, w key = none ∨ key = .territory) {startDate endDate : Instant}
    {groupId : Option Nat} {categories : List AttributionCategory} :
    db.Selected (((w.spread (buildAttributionCategoryWhere categories)).spread
        (buildAttributionDateOverlapWhere tz startDate endDate)).spread (groupWhere groupId)) a ↔
      (db.Selected w a ∧ db.Selected (buildAttributionDateOverlapWhere tz startDate endDate) a) ∧
        db.Selected (groupWhere groupId) a := by
  have hdate : ∀ key, buildAttributionDateOverlapWhere tz startDate endDate key = none ∨
      w key = none := by
    intro key
    cases hw key with
    | inl hfree => exact .inr hfree
    | inr hkey =>
      subst hkey
      exact .inl (dateOverlapWhere_other (by decide) (by decide))
  have hgroup : ∀ key, groupWhere groupId key = none ∨
      w.spread (buildAttributionDateOverlapWhere tz startDate endDate) key = none := by
    intro key
    by_cases hkey : key = .publisher
    · subst hkey
      have hfree : w .publisher = none := (hw _).resolve_right (by decide)
      exact .inr (by simp [spread, dateOverlapWhere_other, hfree])
    · exact .inl (groupWhere_other hkey)
  rw [category_lost]
  unfold RegisterDb.Selected
  rw [selects_spread_of_disjoint hgroup, selects_spread_of_disjoint hdate]

theorem selected_statsWhere : db.Selected (statsWhere tz params) a ↔ params.InScope tz db a := by
  have hkind : ∀ key, kindWhere params.territoryKind key = none ∨ key = .territory := by
    intro key
    by_cases hkey : key = .territory
    · exact .inr hkey
    · exact .inl (kindWhere_other hkey)
  unfold statsWhere
  rw [selected_rangeAndGroup hkind, selected_kindWhere, selected_dateOverlapWhere,
    selected_groupWhere]
  constructor
  · intro ⟨⟨kind, range⟩, group⟩
    exact ⟨kind, range, group⟩
  · intro h
    exact ⟨⟨h.kind, h.range⟩, h.group⟩

theorem findMany_statsWhere :
    db.findMany (statsWhere tz params) = db.attributions.filter fun a => params.InScope tz db a := by
  unfold RegisterDb.findMany
  simp only [selected_statsWhere]

/-- Without a category, and for rows of listed categories alone, nothing is lost. -/
def StatsFilterParams.CategoryIdle (params : StatsFilterParams) (tz : LocalTime) (db : RegisterDb) :
    Prop :=
  params.attributionKind = [] ∨ ∀ a ∈ db.attributions, params.InScope tz db a → params.Listed a

theorem StatsFilterParams.CategoryIdle.listed (h : params.CategoryIdle tz db)
    (ha : a ∈ db.attributions) (hscope : params.InScope tz db a) : params.Listed a := by
  cases h with
  | inl hnone => exact .inl hnone
  | inr hall => exact hall a ha hscope

theorem findMany_eq_wanted (h : params.CategoryIdle tz db) :
    db.findMany (statsWhere tz params) = wantedAttributions tz db params := by
  rw [findMany_statsWhere]
  apply List.filter_congr
  intro a ha
  rw [decide_eq_decide]
  exact ⟨fun hscope => ⟨hscope, h.listed ha hscope⟩, And.left⟩

/-- Territory by territory: its kind is asked of the territory, the rest of its attributions. -/
theorem counted_iff_fetched {territory : TerritoryRow} (hterritory : territory ∈ db.territories) :
    ((params.territoryKind.isEmpty || params.territoryKind.contains territory.type) &&
      (db.findMany (((buildAttributionCategoryWhere params.attributionKind).spread
        (buildAttributionDateOverlapWhere tz params.startDate params.endDate)).spread
        (groupWhere params.groupId))).any fun a => a.territoryId == territory.id) =
      (db.findMany (statsWhere tz params)).any fun a => a.territoryId == territory.id := by
  have hof : ∀ a : Attribution, a.territoryId = territory.id → db.territoryOf a = some territory := by
    intro a ha
    exact (db.territories_keyed.find?_eq_some).mpr ⟨hterritory, ha.symm⟩
  have hselected : ∀ a, db.Selected
      (((buildAttributionCategoryWhere params.attributionKind).spread
        (buildAttributionDateOverlapWhere tz params.startDate params.endDate)).spread
        (groupWhere params.groupId)) a ↔
      a.span.Overlaps (statsRange tz params) ∧ ∀ g ∈ params.groupId,
        ∃ publisher ∈ db.publisherOf a, publisher.publisherGroupId = some g := by
    intro a
    have hempty : db.Selected empty a := selects_empty
    have hfree : ∀ key, (empty : AttributionWhere) key = none ∨ key = .territory :=
      fun _ => .inl rfl
    rw [← @empty_spread _ _ (buildAttributionCategoryWhere params.attributionKind),
      selected_rangeAndGroup hfree, selected_dateOverlapWhere, selected_groupWhere]
    simp only [hempty, true_and, statsRange]
  rw [Bool.eq_iff_iff, findMany_statsWhere]
  simp only [Bool.and_eq_true, Bool.or_eq_true, List.isEmpty_iff, List.contains_iff_mem,
    List.any_eq_true, beq_iff_eq, RegisterDb.findMany, List.mem_filter, decide_eq_true_eq, hselected]
  constructor
  · intro ⟨hkind, a, ⟨ha, hrange, hgroup⟩, hat⟩
    exact ⟨a, ⟨ha, hkind.imp_right fun hmem => ⟨territory, hof a hat, hmem⟩, hrange, hgroup⟩, hat⟩
  · intro ⟨a, ⟨ha, hscope⟩, hat⟩
    have hkind : params.territoryKind = [] ∨ territory.type ∈ params.territoryKind := by
      apply hscope.kind.imp_right
      intro ⟨t, ht, hmem⟩
      rwa [Option.some.inj ((hof a hat).symm.trans ht)]
    exact ⟨hkind, a, ⟨ha, hscope.range, hscope.group⟩, hat⟩

theorem counted_iff_wanted (h : params.CategoryIdle tz db) {territory : TerritoryRow}
    (hterritory : territory ∈ db.territories) :
    ((params.territoryKind.isEmpty || params.territoryKind.contains territory.type) &&
      (db.findMany (((buildAttributionCategoryWhere params.attributionKind).spread
        (buildAttributionDateOverlapWhere tz params.startDate params.endDate)).spread
        (groupWhere params.groupId))).any fun a => a.territoryId == territory.id) =
      (wantedAttributions tz db params).any fun a => a.territoryId == territory.id := by
  rw [counted_iff_fetched hterritory, findMany_eq_wanted h]

end Honoured

/-- **The statistics honour the filters exactly when the category has nothing left to drop.** The
rows fetched, the rows counted and the territories counted are those asked for when no category is
picked, or when every row that passes the other filters is of a category picked. -/
theorem stats_honour_filters_iff (tz : LocalTime) (db : RegisterDb) (params : StatsFilterParams) :
    (fetchAttributionsForStats tz db params =
        ((wantedAttributions tz db params).mergeSort byTerritoryThenStart).map db.statsAttribution ∧
      computeTerritoryCoverage tz db params.territoryKind params.attributionKind params.startDate
          params.endDate params.groupId =
        percentage (wantedAttributions tz db params).length
          (db.countTerritories params.territoryKind) ∧
      computeTerritoryCoverageTotal tz db params.territoryKind params.attributionKind
          params.startDate params.endDate params.groupId =
        percentage (wantedTerritories tz db params).length
          (db.countTerritories params.territoryKind)) ↔
      (params.attributionKind = [] ∨
        ∀ a ∈ db.attributions, params.InScope tz db a → params.Listed a) := by
  constructor
  · intro ⟨hfetch, _⟩
    apply Or.inr
    -- The lists have as many rows, so dropping the unlisted ones drops none.
    have hlength := congrArg List.length hfetch
    unfold fetchAttributionsForStats wantedAttributions at hlength
    rw [List.length_map, List.length_map, List.length_mergeSort, List.length_mergeSort,
      findMany_statsWhere] at hlength
    have hall : ∀ a ∈ db.attributions.filter fun a => params.InScope tz db a,
        decide (params.Listed a) = true := by
      rw [← List.length_filter_eq_length_iff, List.filter_filter, hlength]
      simp only [Bool.decide_and, Bool.and_comm]
    intro a ha hscope
    exact of_decide_eq_true (hall a (by simp [ha, hscope]))
  · intro h
    have hidle : params.CategoryIdle tz db := h
    refine ⟨?_, ?_, ?_⟩
    · unfold fetchAttributionsForStats
      rw [findMany_eq_wanted hidle]
    · show percentage (db.findMany (statsWhere tz params)).length _ = _
      rw [findMany_eq_wanted hidle]
    · unfold computeTerritoryCoverageTotal wantedTerritories
      dsimp only
      rw [List.filter_congr fun territory hterritory => counted_iff_wanted hidle hterritory]

theorem regularWork_keyed : Keyed TerritoryRow.id [⟨1, "12", .classical⟩] := by decide

/-- One territory in regular work; the statistics of campaign work alone. -/
def regularWork : RegisterDb where
  territories := [⟨1, "12", .classical⟩]
  attributions := [⟨1, .default, 1, 1, 0, none, 1000, "", none, none, none⟩]
  campaigns := []
  members := []
  territories_keyed := regularWork_keyed

def campaignOnly : StatsFilterParams := ⟨[], [.campaign], 0, 0, none⟩

theorem campaign_filter_ignored :
    ((fetchAttributionsForStats .utc regularWork campaignOnly).map (·.campaignId) = [none] ∧
      wantedAttributions .utc regularWork campaignOnly = []) ∧
    (computeTerritoryCoverage .utc regularWork [] [.campaign] 0 0 none = 100 ∧
      computeTerritoryCoverageTotal .utc regularWork [] [.campaign] 0 0 none = 100 ∧
      wantedTerritories .utc regularWork campaignOnly = []) := by
  decide +kernel

end Unitae.Territories
