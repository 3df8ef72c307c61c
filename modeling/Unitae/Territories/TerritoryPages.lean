import Mathlib.Algebra.Group.Nat.Defs
import Mathlib.Algebra.Order.Ring.Unbundled.Rat
import Mathlib.Order.WithBot
import Unitae.Base.Listing
import Unitae.Base.Pages
import Unitae.Number
import Unitae.Territories.ListFilters

/-!
# Unitae — the pages of the territory lists (`pagination`, `proximity-sort`, `territories`)

Each page is a query of its own, and the database lists rows that `ORDER BY` leaves tied as it likes. By
number, the list of all territories has no `ORDER BY` and that of the available ones counts attributions;
by proximity, all rows are fetched, in any order, and sorted here. `pages_partition_iff` says for which
page sizes the pages are a partition all the same.
-/

namespace Unitae.Territories

open JsNumber Paging

/-! ## `paginationFromUrl` -/

structure Pagination where
  total : Nat
  previous : Option JsNumber
  page : JsNumber
  next : Option JsNumber
  pages : JsNumber
  size : JsNumber
  offset : JsNumber
deriving DecidableEq, Repr

/-- `url.searchParams.get(name) || otherwise`. -/
def SearchParams.getOr (params : SearchParams) (name otherwise : String) : String :=
  ((params.get name).filter (· != "")).getD otherwise

def SearchParams.pageSize (params : SearchParams) : JsNumber := parseInt (params.getOr "pageSize" "25")

def paginationFromUrl (params : SearchParams) (count : Nat) : Pagination :=
  let rawPage := parseInt (params.getOr "page" "1")
  let size := params.pageSize
  let pages := ceilDiv count size
  let maxPage := JsNumber.max (int 1) pages
  let page := if rawPage.isFinite then JsNumber.min (JsNumber.max (int 1) rawPage) maxPage else int 1
  { total := count
    previous := if (int 1).lt page then some page.pred else none
    page := page
    next := if page.lt pages then some (page.add (int 1)) else none
    pages := pages
    size := size
    offset := page.pred.mul size }

/-! ## Cuts -/

section Cuts

variable {α : Type} (rows : List α)

/-- `findMany({ skip, take })`: a negative `take` counts from the end, and what is no number of rows is
refused. -/
def findMany (skip take : JsNumber) : Option (List α) :=
  if skip.isFinite && take.isFinite && 0 ≤ skip.value then
    if 0 ≤ take.value then some ((rows.drop skip.value.toNat).take take.value.toNat)
    else some ((rows.reverse.drop skip.value.toNat).take take.value.natAbs).reverse
  else none

/-- The index that an argument of `slice` stands for. -/
def sliceIndex : JsNumber → Nat
  | .infinity => rows.length
  | .int n => if n < 0 then (rows.length + n).toNat else Nat.min n.toNat rows.length
  | _ => 0

/-- `rows.slice(start, stop)`. -/
def slice (start stop : JsNumber) : List α :=
  (rows.drop (sliceIndex rows start)).take (sliceIndex rows stop - sliceIndex rows start)

end Cuts

/-! ## `proximity-sort` -/

structure LatLng where
  lat : Rat
  lng : Rat
deriving DecidableEq, Repr

structure ProximityPagination (α δ : Type) where
  items : List α
  distances : List (α × Option δ)
  pagination : Pagination
  withCoordsCount : Nat
  withoutCoordsCount : Nat

def usablePoint (latitude longitude : Option Rat) : Option LatLng := do
  let lat ← latitude
  let lng ← longitude
  return ⟨lat, lng⟩

section Proximity

-- `haversineMeters`: whatever it says, distances are numbers that compare.
variable {α δ : Type} [LinearOrder δ] (haversineMeters : LatLng → LatLng → δ) (origin : LatLng)

/-- The closer of the best point so far and another. -/
def closer (best : Option (LatLng × δ)) (point : Option LatLng) : Option (LatLng × δ) :=
  match point, best with
  | none, _ => best
  | some point, none => some (point, haversineMeters origin point)
  | some point, some (_, distance) =>
    if haversineMeters origin point < distance then some (point, haversineMeters origin point) else best

def closestTerritoryPoint (entrances : List (BuildingEntrance × List Building)) : Option LatLng :=
  let best := entrances.foldl (fun best entrance =>
    entrance.2.foldl
      (fun best b => closer haversineMeters origin best (usablePoint b.latitude b.longitude))
      (closer haversineMeters origin best (usablePoint entrance.1.latitude entrance.1.longitude))) none
  best.map (·.1)

variable (getCoords : α → Option LatLng)

def distanceOf (item : α) : Option δ := (getCoords item).map (haversineMeters origin)

/-- The rows that have coordinates, by distance, and the others after them. -/
def byProximity (items : List α) : List α :=
  let withCoords := items.filterMap fun item =>
    (distanceOf haversineMeters origin getCoords item).map fun distance => (item, distance)
  let withoutCoords := items.filter fun item =>
    (distanceOf haversineMeters origin getCoords item).isNone
  (withCoords.mergeSort fun a b => a.2 ≤ b.2).map (·.1) ++ withoutCoords

def paginateByProximity (items : List α) (params : SearchParams) : ProximityPagination α δ :=
  let ordered := byProximity haversineMeters origin getCoords items
  let pagination := paginationFromUrl params ordered.length
  { items := slice ordered pagination.offset (pagination.offset.add pagination.size)
    distances := items.map fun item => (item, distanceOf haversineMeters origin getCoords item)
    pagination := pagination
    withCoordsCount := items.countP fun item =>
      (distanceOf haversineMeters origin getCoords item).isSome
    withoutCoordsCount := items.countP fun item =>
      (distanceOf haversineMeters origin getCoords item).isNone }

end Proximity

/-! ## The two lists -/

structure TerritoriesPage (δ : Type) where
  territories : List TerritoryRow
  pagination : Pagination
  /-- The distances, and how many rows have coordinates and have none; by proximity only. -/
  proximity : Option (List (TerritoryRow × Option δ) × Nat × Nat)

section Lists

variable {δ : Type} [LinearOrder δ] (haversineMeters : LatLng → LatLng → δ) (db : ListDb)
  (selectors : TerritoryRow → Bool)

/-- The rows that the `where` object selects. -/
def ListDb.selected : List TerritoryRow := db.register.territories.filter selectors

/-- The entrances of a territory with those of their buildings that are fetched. -/
def ListDb.entrancesWith (included : Building → Bool) (t : TerritoryRow) :
    List (BuildingEntrance × List Building) :=
  (db.entrancesOfTerritory t.id).map fun e => (e, (db.map.buildingsOf e.id).filter included)

/-- A page, when the database answers the query with `answer`. -/
def findPaginated (included : Building → Bool) (answer : List TerritoryRow) (params : SearchParams)
    (proximity : Option LatLng) : Option (TerritoriesPage δ) :=
  match proximity with
  | some origin =>
    let result := paginateByProximity haversineMeters origin
      (fun t => closestTerritoryPoint haversineMeters origin (db.entrancesWith included t)) answer params
    some ⟨result.items, result.pagination,
      some (result.distances, result.withCoordsCount, result.withoutCoordsCount)⟩
  | none => do
    let total := (db.selected selectors).length
    let pagination := paginationFromUrl params total
    let territories ← findMany answer pagination.offset pagination.size
    return ⟨territories, pagination, none⟩

def findTerritoriesWithDetailsPaginated : List TerritoryRow → SearchParams → Option LatLng →
    Option (TerritoriesPage δ) :=
  findPaginated haversineMeters db selectors (·.active)

def findAvailableTerritoriesPaginated : List TerritoryRow → SearchParams → Option LatLng →
    Option (TerritoriesPage δ) :=
  findPaginated haversineMeters db selectors fun _ => true

end Lists

/-! ## What is asked for -/

section Parameters

variable {params : SearchParams} {count n : Nat} {size : Int}

/-- `url.searchParams.set('page', n)`. -/
def SearchParams.withPage (params : SearchParams) (n : Nat) : SearchParams :=
  ("page", toString n) :: params.filter (·.1 != "page")

theorem pageSize_withPage : (params.withPage n).pageSize = params.pageSize := by
  have hget : (params.withPage n).get "pageSize" = params.get "pageSize" := by
    unfold SearchParams.get SearchParams.withPage
    rw [List.find?_cons_of_neg (by simp), List.find?_filter]
    congr 2
    funext param
    by_cases hname : param.1 = "pageSize"
    · simp [hname]
    · simp [hname]
  unfold SearchParams.pageSize SearchParams.getOr
  rw [hget]

theorem page_withPage (h : n < 2 ^ 53) : parseInt ((params.withPage n).getOr "page" "1") = int n := by
  have hget : (params.withPage n).get "page" = some (toString n) := rfl
  have hfull : (toString n != "") = true := by
    rw [bne_iff_ne]
    intro hempty
    have hdigits : Nat.toDigits 10 n = [] := by
      rw [← Nat.toList_repr, ← Nat.toString_eq_repr, hempty]
      rfl
    exact Nat.toDigits_ne_nil hdigits
  unfold SearchParams.getOr
  rw [hget, Option.filter_some, if_pos hfull]
  exact parseInt_toString h

theorem page_of_maxPage {m : Int} (hm : 1 ≤ m)
    (hmax : JsNumber.max (int 1) (ceilDiv count params.pageSize) = int m) :
    ∃ p : Int, 1 ≤ p ∧ p ≤ m ∧ (paginationFromUrl params count).page = int p ∧
      ∀ raw, parseInt (params.getOr "page" "1") = int raw → 1 ≤ raw → raw ≤ m → p = raw := by
  unfold paginationFromUrl
  dsimp only
  rw [hmax]
  split
  next hfinite =>
    obtain ⟨raw, hraw, hmaxRaw⟩ := max_one_of_isFinite hfinite
    rw [hmaxRaw, min_int]
    refine ⟨_, ?_, ?_, rfl, ?_⟩
    · split
      · exact hm
      · exact hraw
    · split
      · exact Int.le_refl m
      next hle => exact Int.not_lt.mp hle
    · intro asked hasked hfrom hto
      rw [hasked, max_int] at hmaxRaw
      have hsame : (if 1 < asked then asked else 1) = raw := JsNumber.int.inj hmaxRaw
      split at hsame
      · rw [← hsame, if_neg (Int.not_lt.mpr hto)]
      · rw [← hsame, if_neg (by omega)]
        omega
  next hnot =>
    refine ⟨1, Int.le_refl 1, hm, rfl, ?_⟩
    intro asked hasked
    rw [hasked] at hnot
    exact absurd rfl hnot

theorem offset_eq : (paginationFromUrl params count).offset =
    (paginationFromUrl params count).page.pred.mul params.pageSize := rfl

theorem ceilDiv_of_pos (hsize : 0 < size) :
    ceilDiv count (int size) = int ((count + size.toNat - 1) / size.toNat : Nat) := by
  dsimp only [ceilDiv]
  rw [if_neg (by omega), if_pos hsize]

/-- How many pages there are of rows so many on a page. -/
def pageCount (count size : Nat) : Nat := (count + size - 1) / size

theorem lt_pageCount {m size : Nat} (hsize : 0 < size) :
    m < pageCount count size ↔ m * size < count := by
  unfold pageCount
  rw [Nat.lt_iff_add_one_le, Nat.le_div_iff_mul_le hsize, Nat.succ_mul]
  omega

theorem pageCount_le {size : Nat} (hsize : 0 < size) : pageCount count size ≤ count := by
  by_contra hmore
  have hlast := (lt_pageCount hsize).mp (Nat.not_le.mp hmore)
  have hgrows : count ≤ count * size := Nat.le_mul_of_pos_right count hsize
  omega

theorem maxPage_of_pos {size : Nat} (hpositive : 0 < size) (hsize : params.pageSize = int size) :
    ∃ m : Int, 1 ≤ m ∧ (pageCount count size : Int) ≤ m ∧
      JsNumber.max (int 1) (ceilDiv count params.pageSize) = int m := by
  rw [hsize, ceilDiv_of_pos (by omega), max_int]
  refine ⟨_, ?_, ?_, rfl⟩
  · split
    · omega
    · omega
  · unfold pageCount
    split
    · simp
    next hle => simpa using hle

theorem offset_of_pos {size : Nat} (hpositive : 0 < size) (hsize : params.pageSize = int size) :
    ∃ offset : Nat, (paginationFromUrl params count).offset = int offset := by
  obtain ⟨m, hm, _, hmax⟩ := @maxPage_of_pos params count size hpositive hsize
  obtain ⟨p, hp, _, hpage, _⟩ := page_of_maxPage hm hmax
  refine ⟨(p - 1).toNat * size, ?_⟩
  rw [offset_eq, hpage, hsize]
  unfold pred
  rw [mul_int (by omega) (by omega)]
  congr 1
  push_cast
  rw [Int.toNat_of_nonneg (by omega)]

/-- The offset of a page that there is. -/
theorem offset_withPage {size : Nat} (hpositive : 0 < size) (hsize : params.pageSize = int size)
    (hn : n < pageCount count size) (hexact : n + 1 < 2 ^ 53) :
    (paginationFromUrl (params.withPage (n + 1)) count).offset = int (n * size : Nat) := by
  have hsame : (params.withPage (n + 1)).pageSize = int size := pageSize_withPage.trans hsize
  obtain ⟨m, hm, hpages, hmax⟩ := @maxPage_of_pos _ count size hpositive hsame
  obtain ⟨p, hp, _, hpage, hasked⟩ := page_of_maxPage hm hmax
  have hpn : p = (n + 1 : Nat) := hasked _ (page_withPage hexact) (by omega) (by omega)
  rw [offset_eq, hpage, hsame, hpn]
  unfold pred
  rw [mul_int (by omega) (by omega)]
  push_cast
  rw [Int.add_sub_cancel]

theorem maxPage_of_neg (hnegative : size < 0) (hsize : params.pageSize = int size) :
    JsNumber.max (int 1) (ceilDiv count params.pageSize) = int 1 := by
  rw [hsize]
  dsimp only [ceilDiv]
  rw [if_neg (by omega), if_neg (by omega)]
  split
  · decide
  · have hquotient : 0 ≤ ((count / size.natAbs : Nat) : Int) := Int.natCast_nonneg _
    rw [max_int, if_neg (by omega)]

theorem offset_of_neg (hnegative : size < 0) (hsize : params.pageSize = int size) :
    (paginationFromUrl params count).offset = negZero := by
  obtain ⟨p, hfrom, hto, hpage, _⟩ :=
    page_of_maxPage (Int.le_refl 1) (@maxPage_of_neg params count size hnegative hsize)
  rw [offset_eq, hpage, hsize, Int.le_antisymm hto hfrom]
  simp [pred, mul, isNegative, isFinite, isZero, zero, hnegative]

/-- No division by zero, and an offset that is a number of rows. -/
structure OffsetDefined (params : SearchParams) (count : Nat) : Prop where
  divides : params.pageSize.isZero = false
  finite : (paginationFromUrl params count).offset.isFinite = true
  nonneg : 0 ≤ (paginationFromUrl params count).offset.value

theorem offsetDefined_iff :
    OffsetDefined params count ↔ ∃ size : Int, size ≠ 0 ∧ params.pageSize = int size := by
  constructor
  · intro h
    -- an infinite size makes a single page of all rows, at an offset of `0 * Infinity`
    have hsingle : ∀ {a : JsNumber}, JsNumber.max (int 1) (ceilDiv count a) = int 1 →
        (int 0).mul a = nan → params.pageSize ≠ a := by
      intro a hmax hproduct hsize
      rw [← hsize] at hmax
      obtain ⟨p, hfrom, hto, hpage, _⟩ := page_of_maxPage (Int.le_refl 1) hmax
      have hfinite := h.finite
      have hnan : (paginationFromUrl params count).offset = nan := by
        rw [offset_eq, hpage, hsize, Int.le_antisymm hto hfrom]
        exact hproduct
      rw [hnan] at hfinite
      exact absurd hfinite (by decide)
    cases hsize : params.pageSize with
    | nan =>
      have hfinite := h.finite
      rw [offset_eq, hsize, mul, if_pos (.inr rfl)] at hfinite
      exact absurd hfinite (by decide)
    | infinity => exact absurd hsize (hsingle (by simp only [ceilDiv]; decide) (by decide))
    | negInfinity => exact absurd hsize (hsingle (by simp only [ceilDiv]; decide) (by decide))
    | negZero =>
      have hdivides := h.divides
      rw [hsize] at hdivides
      exact absurd hdivides (by decide)
    | int size =>
      refine ⟨size, ?_, rfl⟩
      rintro rfl
      have hdivides := h.divides
      rw [hsize] at hdivides
      exact absurd hdivides (by decide)
  · intro h
    obtain ⟨size, hne, hsize⟩ := h
    have hdivides : params.pageSize.isZero = false := by
      rw [hsize]
      simpa [isZero] using hne
    rcases Int.lt_or_gt_of_ne hne with hnegative | hpositive
    · have hoffset := @offset_of_neg params count size hnegative hsize
      exact ⟨hdivides, by rw [hoffset]; rfl, by rw [hoffset]; exact Int.le_refl 0⟩
    · obtain ⟨whole, rfl⟩ := Int.eq_ofNat_of_zero_le hpositive.le
      obtain ⟨offset, hoffset⟩ := @offset_of_pos params count whole (by omega) hsize
      exact ⟨hdivides, by rw [hoffset]; rfl, by rw [hoffset]; exact Int.natCast_nonneg _⟩

end Parameters

/-! ## Cuts are pages -/

section Cuts

variable {α : Type} {rows : List α} {size n : Nat}

theorem findMany_page : findMany rows (int (n * size : Nat)) (int size) = some (page size n rows) := by
  have hskip : ((int (n * size : Nat)).isFinite && (int size).isFinite &&
      decide (0 ≤ (int (n * size : Nat)).value)) = true := decide_eq_true (Int.natCast_nonneg (n * size))
  have htake : 0 ≤ (int size).value := Int.natCast_nonneg _
  unfold findMany
  rw [if_pos hskip, if_pos htake]
  rfl

theorem slice_page :
    slice rows (int (n * size : Nat)) ((int (n * size : Nat)).add (int size)) = page size n rows := by
  have hstop : (int (n * size : Nat)).add (int size) = int ((n * size + size : Nat) : Int) := by
    simp [add, value]
  have hindex : ∀ i : Nat, sliceIndex rows (int i) = Min.min i rows.length := by
    intro i
    dsimp only [sliceIndex]
    rw [if_neg (by omega), Int.toNat_natCast]
  rw [hstop]
  unfold slice page
  rw [hindex, hindex]
  by_cases hlong : n * size ≤ rows.length
  · rw [Nat.min_eq_left hlong]
    apply List.take_eq_take_iff.mpr
    rw [List.length_drop]
    omega
  · rw [List.drop_of_length_le (by omega), List.drop_of_length_le (by omega), List.take_nil,
      List.take_nil]

end Cuts

/-! ## By proximity -/

section Coordinates

variable {α δ : Type} {haversineMeters : LatLng → LatLng → δ} {origin : LatLng}
  {getCoords : α → Option LatLng} {items : List α}

theorem map_withCoords :
    ((items.filterMap fun item => (distanceOf haversineMeters origin getCoords item).map fun distance =>
      (item, distance)).map (·.1)) =
        items.filter fun item => (distanceOf haversineMeters origin getCoords item).isSome := by
  induction items with
  | nil => rfl
  | cons item items ih =>
    cases hdistance : distanceOf haversineMeters origin getCoords item with
    | none =>
      rw [List.filterMap_cons_none (by rw [hdistance]; rfl),
        List.filter_cons_of_neg (by simp [hdistance]), ih]
    | some distance =>
      rw [List.filterMap_cons_some (by rw [hdistance]; rfl),
        List.filter_cons_of_pos (by simp [hdistance]), List.map_cons, ih]

end Coordinates

section Proximity

variable {α δ : Type} [LinearOrder δ] {haversineMeters : LatLng → LatLng → δ} {origin : LatLng}
  {getCoords : α → Option LatLng} {rows items : List α}

/-- The distance; rows without coordinates come last. -/
def proximityKey (haversineMeters : LatLng → LatLng → δ) (origin : LatLng)
    (getCoords : α → Option LatLng) (item : α) : WithTop δ :=
  match distanceOf haversineMeters origin getCoords item with
  | some distance => distance
  | none => ⊤

theorem listed_byProximity (h : items.Perm rows) :
    Listed (proximityKey haversineMeters origin getCoords) rows
      (byProximity haversineMeters origin getCoords items) := by
  obtain ⟨sorted, hsorted⟩ : ∃ sorted, sorted = (items.filterMap fun item =>
    (distanceOf haversineMeters origin getCoords item).map fun distance => (item, distance)).mergeSort
      fun a b => a.2 ≤ b.2 := ⟨_, rfl⟩
  have hkey : ∀ pair ∈ sorted, proximityKey haversineMeters origin getCoords pair.1 = pair.2 := by
    intro pair hpair
    rw [hsorted, List.mem_mergeSort, List.mem_filterMap] at hpair
    obtain ⟨item, _, hitem⟩ := hpair
    obtain ⟨distance, hdistance, rfl⟩ := Option.map_eq_some_iff.mp hitem
    unfold proximityKey
    rw [hdistance]
  have hlast : ∀ item ∈ items.filter (fun item =>
      (distanceOf haversineMeters origin getCoords item).isNone),
        proximityKey haversineMeters origin getCoords item = ⊤ := by
    intro item hitem
    have hnone := Option.isNone_iff_eq_none.mp (List.mem_filter.mp hitem).2
    unfold proximityKey
    rw [hnone]
  have hordered : byProximity haversineMeters origin getCoords items = sorted.map (·.1) ++
      items.filter fun item => (distanceOf haversineMeters origin getCoords item).isNone := by
    rw [hsorted]
    rfl
  rw [hordered]
  refine ⟨?_, List.pairwise_append.mpr ⟨?_, ?_, ?_⟩⟩
  · have hfirst : (sorted.map (·.1)).Perm (items.filter fun item =>
        (distanceOf haversineMeters origin getCoords item).isSome) := by
      rw [hsorted, ← map_withCoords]
      exact (List.mergeSort_perm _ _).map _
    have hsplit := List.filter_append_perm (fun item =>
      (distanceOf haversineMeters origin getCoords item).isSome) items
    simp only [Option.not_isSome] at hsplit
    exact ((hfirst.append_right _).trans hsplit).trans h
  · rw [List.pairwise_map]
    have hdistances := @List.pairwise_mergeSort (α × δ) (fun a b => a.2 ≤ b.2)
      (fun a b c hab hbc => decide_eq_true (le_trans (of_decide_eq_true hab) (of_decide_eq_true hbc)))
      (fun a b => by simpa using le_total a.2 b.2) (items.filterMap fun item =>
        (distanceOf haversineMeters origin getCoords item).map fun distance => (item, distance))
    rw [← hsorted] at hdistances
    refine hdistances.imp_of_mem fun {a b} ha hb hle => ?_
    rw [hkey a ha, hkey b hb]
    exact WithTop.coe_le_coe.mpr (of_decide_eq_true hle)
  · exact List.pairwise_of_forall_mem_list fun a ha b hb =>
      le_of_eq ((hlast a ha).trans (hlast b hb).symm)
  · intro a _ b hb
    rw [hlast b hb]
    exact le_top

theorem byProximity_of_listed
    (h : Listed (proximityKey haversineMeters origin getCoords) rows items) :
    byProximity haversineMeters origin getCoords items = items := by
  have hsorted : (items.filterMap fun item => (distanceOf haversineMeters origin getCoords item).map
      fun distance => (item, distance)).Pairwise fun a b => decide (a.2 ≤ b.2) = true := by
    rw [List.pairwise_filterMap]
    refine h.sorted.imp fun {a b} hle pair hpair pair' hpair' => ?_
    obtain ⟨distance, hdistance, rfl⟩ := Option.map_eq_some_iff.mp hpair
    obtain ⟨distance', hdistance', rfl⟩ := Option.map_eq_some_iff.mp hpair'
    unfold proximityKey at hle
    rw [hdistance, hdistance'] at hle
    exact decide_eq_true (WithTop.coe_le_coe.mp hle)
  have hahead : items.Pairwise fun a b =>
      (distanceOf haversineMeters origin getCoords b).isSome = true →
        (distanceOf haversineMeters origin getCoords a).isSome = true := by
    refine h.sorted.imp fun {a b} hle hb => ?_
    obtain ⟨distance, hdistance⟩ := Option.isSome_iff_exists.mp hb
    unfold proximityKey at hle
    rw [hdistance] at hle
    cases ha : distanceOf haversineMeters origin getCoords a with
    | some distance' => rfl
    | none =>
      rw [ha] at hle
      exact absurd (top_le_iff.mp hle) (WithTop.coe_ne_top)
  have hwhole := filter_append_filter_not hahead
  simp only [Option.not_isSome] at hwhole
  unfold byProximity
  dsimp only
  rw [List.mergeSort_of_pairwise hsorted, map_withCoords, hwhole]

end Proximity

/-! ## When the pages are a partition -/

/-- The two lists. -/
inductive Listing where
  | details
  | available
deriving DecidableEq, Repr

/-- How many pages there are, when that is a number. -/
def Pagination.count (pagination : Pagination) : Nat :=
  match pagination.pages with
  | .int n => n.toNat
  | _ => 0

section Partition

variable {δ : Type} [LinearOrder δ] (haversineMeters : LatLng → LatLng → δ) (db : ListDb)
  (selectors : TerritoryRow → Bool) (listing : Listing) (params : SearchParams)
  (proximity : Option LatLng)

def Listing.find : List TerritoryRow → SearchParams → Option LatLng → Option (TerritoriesPage δ) :=
  match listing with
  | .details => findTerritoriesWithDetailsPaginated haversineMeters db selectors
  | .available => findAvailableTerritoriesPaginated haversineMeters db selectors

def Listing.included : Building → Bool :=
  match listing with
  | .details => (·.active)
  | .available => fun _ => true

/-- The `ORDER BY` of a list by number: none, or the count of attributions. -/
def Listing.orderBy (t : TerritoryRow) : Nat :=
  match listing with
  | .details => 0
  | .available => db.register.attributions.countP (·.territoryId == t.id)

/-- The orders in which the database may list the rows. -/
def Listing.Answers (answer : List TerritoryRow) : Prop :=
  match proximity with
  | some _ => answer.Perm (db.selected selectors)
  | none => Listed (listing.orderBy db) (db.selected selectors) answer

/-- The distance of a territory, as the list by proximity takes it. -/
def Listing.proximityKey (origin : LatLng) : TerritoryRow → WithTop δ :=
  Territories.proximityKey haversineMeters origin fun t =>
    closestTerritoryPoint haversineMeters origin (db.entrancesWith listing.included t)

/-- The rows of the page after `n` others. -/
def Listing.pageOf (answer : List TerritoryRow) (n : Nat) : Option (List TerritoryRow) :=
  (listing.find haversineMeters db selectors answer (params.withPage (n + 1)) proximity).map
    (·.territories)

/-- The pages 1 to `pages`, each of a query that the database answers as it likes, are the rows. -/
structure PagesPartition : Prop where
  offset : OffsetDefined params (db.selected selectors).length
  pages : ∀ answers : Nat → List TerritoryRow,
    (∀ n, listing.Answers db selectors proximity (answers n)) →
      ∃ found : Nat → List TerritoryRow,
        (∀ n < (paginationFromUrl params (db.selected selectors).length).count,
          listing.pageOf haversineMeters db selectors params proximity (answers n) n =
            some (found n)) ∧
        ((List.range (paginationFromUrl params (db.selected selectors).length).count).flatMap
          found).Perm (db.selected selectors)

/-- No page ends among rows that the order leaves tied. -/
def Listing.PagesApart (size : Nat) : Prop :=
  match proximity with
  | some origin =>
    Paging.PagesApart (listing.proximityKey haversineMeters db origin) (db.selected selectors) size
  | none => Paging.PagesApart (listing.orderBy db) (db.selected selectors) size

end Partition

section Main

variable {δ : Type} [LinearOrder δ] {haversineMeters : LatLng → LatLng → δ} {db : ListDb}
  {selectors : TerritoryRow → Bool} {listing : Listing} {params : SearchParams}
  {proximity : Option LatLng}

theorem find_eq (answer : List TerritoryRow) :
    listing.find haversineMeters db selectors answer params proximity =
      findPaginated haversineMeters db selectors listing.included answer params proximity := by
  cases listing with
  | details => rfl
  | available => rfl

theorem nodup_selected : (db.selected selectors).Nodup :=
  (List.Nodup.of_map _ db.register.territories_keyed).filter _

/-- Ids are 32-bit integers in the database. -/
def RegisterDb.Int4 (db : RegisterDb) : Prop := ∀ t ∈ db.territories, t.id < 2 ^ 31

instance (db : RegisterDb) : Decidable db.Int4 :=
  inferInstanceAs (Decidable (∀ t ∈ db.territories, t.id < 2 ^ 31))

theorem length_selected_le (hids : db.register.Int4) : (db.selected selectors).length ≤ 2 ^ 31 := by
  have hkeyed : (db.register.territories.map (·.id)).Nodup := db.register.territories_keyed
  have hsub : db.register.territories.map (·.id) ⊆ List.range (2 ^ 31) := by
    intro id hid
    obtain ⟨t, ht, rfl⟩ := List.mem_map.mp hid
    exact List.mem_range.mpr (hids t ht)
  have hlength := (hkeyed.subperm hsub).length_le
  rw [List.length_map, List.length_range] at hlength
  exact (List.length_filter_le _ _).trans hlength

theorem count_of_pos {size count : Nat} (hpositive : 0 < size) (hsize : params.pageSize = int size) :
    (paginationFromUrl params count).count = pageCount count size := by
  have hpages : (paginationFromUrl params count).pages = int (pageCount count size) := by
    show ceilDiv count params.pageSize = _
    rw [hsize, ceilDiv_of_pos (by omega)]
    rfl
  unfold Pagination.count
  rw [hpages]
  rfl

theorem count_of_neg {size : Int} {count : Nat} (hnegative : size < 0)
    (hsize : params.pageSize = int size) : (paginationFromUrl params count).count = 0 := by
  have hpages : (paginationFromUrl params count).pages = ceilDiv count (int size) := by
    rw [← hsize]
    rfl
  have hquotient : 0 ≤ ((count / size.natAbs : Nat) : Int) := Int.natCast_nonneg _
  unfold Pagination.count
  rw [hpages]
  dsimp only [ceilDiv]
  rw [if_neg (by omega), if_neg (by omega)]
  split
  next n hn =>
    split at hn
    · exact absurd hn (by simp)
    · rw [← JsNumber.int.inj hn]
      omega
  · rfl

/-- A page that there is, of an answer. -/
theorem pageOf_eq {size n : Nat} {answer : List TerritoryRow} (hids : db.register.Int4)
    (hpositive : 0 < size) (hsize : params.pageSize = int size)
    (hn : n < pageCount (db.selected selectors).length size)
    (hanswer : answer.Perm (db.selected selectors)) :
    listing.pageOf haversineMeters db selectors params proximity answer n =
      some (page size n (match proximity with
        | some origin => byProximity haversineMeters origin (fun t =>
            closestTerritoryPoint haversineMeters origin (db.entrancesWith listing.included t)) answer
        | none => answer)) := by
  have hexact : n + 1 < 2 ^ 53 := by
    have hcount : pageCount (db.selected selectors).length size ≤ (db.selected selectors).length :=
      pageCount_le hpositive
    have hshort : (db.selected selectors).length ≤ 2 ^ 31 := length_selected_le hids
    omega
  have hoffset := offset_withPage hpositive hsize hn hexact
  have hsame : ∀ count, (paginationFromUrl (params.withPage (n + 1)) count).size = int size :=
    fun _ => pageSize_withPage.trans hsize
  unfold Listing.pageOf
  rw [find_eq]
  cases proximity with
  | none =>
    unfold findPaginated
    dsimp only
    rw [hoffset, hsame, findMany_page]
    rfl
  | some origin =>
    have hlength : (byProximity haversineMeters origin (fun t => closestTerritoryPoint haversineMeters
        origin (db.entrancesWith listing.included t)) answer).length = (db.selected selectors).length :=
      (listed_byProximity hanswer).perm.length_eq
    unfold findPaginated paginateByProximity
    dsimp only
    rw [hlength, hoffset, hsame, slice_page]
    rfl

theorem pages_iff_apart {size : Nat} (hids : db.register.Int4) (hpositive : 0 < size)
    (hsize : params.pageSize = int size) :
    PagesPartition haversineMeters db selectors listing params proximity ↔
      listing.PagesApart haversineMeters db selectors proximity size := by
  have hoffset : OffsetDefined params (db.selected selectors).length :=
    offsetDefined_iff.mpr ⟨size, by omega, hsize⟩
  have hcount := @count_of_pos params size (db.selected selectors).length hpositive hsize
  have hpages : ∀ n, n < pageCount (db.selected selectors).length size ↔
      n * size < (db.selected selectors).length := fun n => lt_pageCount hpositive
  have hpartition : PagesPartition haversineMeters db selectors listing params proximity ↔ _ :=
    ⟨fun h => h.pages, fun h => ⟨hoffset, h⟩⟩
  rw [hpartition, hcount]
  cases proximity with
  | none =>
    exact @served_perm_iff TerritoryRow Nat _ _ _ size _ (listing.Answers db selectors none) id
      (listing.pageOf haversineMeters db selectors params none) hpositive nodup_selected hpages
      (fun answer hanswer => hanswer) (fun l hl => ⟨hl, rfl⟩)
      fun answer hanswer n hn => pageOf_eq hids hpositive hsize hn (Listed.perm hanswer)
  | some origin =>
    exact @served_perm_iff TerritoryRow (WithTop δ) _ _ _ size _
      (listing.Answers db selectors (some origin))
      (byProximity haversineMeters origin fun t =>
        closestTerritoryPoint haversineMeters origin (db.entrancesWith listing.included t))
      (listing.pageOf haversineMeters db selectors params (some origin)) hpositive nodup_selected hpages
      (fun answer hanswer => listed_byProximity hanswer)
      (fun l hl => ⟨hl.perm, byProximity_of_listed hl⟩)
      fun answer hanswer n hn => pageOf_eq hids hpositive hsize hn hanswer

/-- The list of all territories by number has no order: it takes a single page. -/
theorem apart_details_iff {size : Nat} (hpositive : 0 < size) :
    Listing.details.PagesApart haversineMeters db selectors none size ↔
      (db.selected selectors).length ≤ size := by
  have hbefore : ∀ t, before (Listing.details.orderBy db) (db.selected selectors) t = 0 :=
    fun _ => List.countP_eq_zero.mpr fun _ _ => by simp [Listing.orderBy]
  have hupTo : ∀ t, upTo (Listing.details.orderBy db) (db.selected selectors) t =
      (db.selected selectors).length :=
    fun _ => List.countP_eq_length.mpr fun _ _ => by simp [Listing.orderBy]
  constructor
  · intro h
    cases hrows : db.selected selectors with
    | nil => exact Nat.zero_le size
    | cons t rest =>
      have hfirst := h t (hrows ▸ List.mem_cons_self) 1
      rw [hbefore, hupTo, hrows, Nat.one_mul] at hfirst
      exact hfirst.resolve_left (Nat.not_le.mpr hpositive)
  · intro hshort t _ n
    rw [hbefore, hupTo]
    cases n with
    | zero => exact .inl (by simp)
    | succ n =>
      right
      exact hshort.trans (Nat.le_mul_of_pos_left size (Nat.succ_pos n))

end Main

/-! ### Two territories -/

def twoTerritories : ListDb where
  register :=
    { territories := [⟨1, "1", .classical⟩, ⟨2, "2", .classical⟩]
      attributions := []
      campaigns := []
      members := []
      territories_keyed := by decide }
  map := ⟨[], [], [], [], [], 1, 1, 1⟩
  territoryEntrances := []
  names := []

def planarDistance (a b : LatLng) : Rat := (a.lat - b.lat) ^ 2 + (a.lng - b.lng) ^ 2

end Unitae.Territories
