import Mathlib.Algebra.BigOperators.Group.List.Lemmas
import Mathlib.Data.Rat.Floor
import Mathlib.Data.List.Dedup
import Mathlib.Tactic.Linarith
import Unitae.Base.CivilMonths
import Unitae.Territories.Statistics

/-!
# Unitae — the coverage of the territories, chart by chart

The share of the territories touched in a range is worked out by the database
(`territory-coverage-total.server.ts`), month by month in memory
(`compute-monthly-coverage-evolution.server.ts`), and kind by kind
(`compute-coverage-by-territory-type.server.ts`). The monthly series ends at the first day of the month after
the range, which is no earlier than the day after it, so its last point counts every attribution fetched.
-/

namespace Unitae.Territories

/-! ## The filter -/

/-- `parseStatsFilterParams`, once the texts of the query are read: a range the wrong way round is
turned. -/
def parseStatsFilterParams (territoryKind : List TerritoryKindKey)
    (attributionKind : List AttributionCategory) (startDate endDate : Instant) (groupId : Option Nat) :
    StatsFilterParams :=
  if startDate > endDate then ⟨territoryKind, attributionKind, endDate, startDate, groupId⟩
  else ⟨territoryKind, attributionKind, startDate, endDate, groupId⟩

theorem parseStatsFilterParams_ordered (kinds : List TerritoryKindKey)
    (categories : List AttributionCategory) (startDate endDate : Instant) (groupId : Option Nat) :
    (parseStatsFilterParams kinds categories startDate endDate groupId).startDate ≤
      (parseStatsFilterParams kinds categories startDate endDate groupId).endDate := by
  unfold parseStatsFilterParams
  by_cases hswap : startDate > endDate
  · rw [if_pos hswap]
    exact hswap.le
  · rw [if_neg hswap]
    exact not_lt.mp hswap

/-! ## Territory counts -/

structure TerritoryCountByType where
  type : TerritoryKindKey
  count : Nat
deriving DecidableEq, Repr

/-- `db.territory.groupBy({ by: ['type'] })`. -/
def fetchTerritoryCounts (db : RegisterDb) : List TerritoryCountByType :=
  let types := db.territories.map (·.type)
  types.dedup.map fun type => ⟨type, types.count type⟩

def getTotalTerritoryCount (counts : List TerritoryCountByType) : Nat :=
  counts.foldl (fun sum c => sum + c.count) 0

/-- The counts of the kinds picked, as the loader filters them. -/
def territoryCounts (territoryKind : List TerritoryKindKey) (counts : List TerritoryCountByType) :
    List TerritoryCountByType :=
  if territoryKind.length > 0 then counts.filter fun c => territoryKind.contains c.type else counts

/-! ## The charts -/

/-- `Math.round(x * 100) / 100`. -/
def roundTwo (x : Rat) : Rat := (⌊x * 100 + 1 / 2⌋ : Int) / 100

/-- `new Set(attributions.map(a => a.territoryId)).size`. -/
def touchedTerritories (attributions : List StatsAttribution) : Nat :=
  (attributions.map (·.territoryId)).dedup.length

/-- The runtime's dates, with `date.setMonth(month)`. -/
structure MonthClock extends LocalTime where
  setMonth : Instant → Int → Instant

structure MonthlyCoverage where
  month : String
  coverage : Rat
deriving DecidableEq, Repr

/-- Overlaps what is left of the range before `startOfNextMonth`. -/
def touchedBefore (startDate startOfNextMonth : Instant) (a : StatsAttribution) : Bool :=
  a.startDate < startOfNextMonth && (a.endDate.isNone || a.endDate.any fun date => startDate ≤ date)

/-- One turn of the loop. -/
def monthCoverage (clock : MonthClock) (attributions : List StatsAttribution) (total : Nat)
    (startDate current : Instant) : MonthlyCoverage :=
  let startOfNextMonth := clock.newDate (clock.getFullYear current) (clock.getMonth current + 1) 1
  let touched := touchedTerritories (attributions.filter (touchedBefore startDate startOfNextMonth))
  ⟨toString (clock.getFullYear current) ++ "-" ++ padTwo (clock.getMonth current + 1),
    roundTwo ((touched : Rat) / total * 100)⟩

/-- `while (current <= end)`, for as many turns as the fuel allows. -/
def monthlyCoverageLoop (clock : MonthClock) (attributions : List StatsAttribution) (total : Nat)
    (startDate lastMonth : Instant) : Nat → Instant → List MonthlyCoverage
  | 0, _ => []
  | fuel + 1, current =>
    if current ≤ lastMonth then
      monthCoverage clock attributions total startDate current ::
        monthlyCoverageLoop clock attributions total startDate lastMonth fuel
          (clock.setMonth current (clock.getMonth current + 1))
    else []

/-- Each turn goes forward, so there are no more of them than milliseconds. -/
def computeMonthlyCoverageEvolution (clock : MonthClock) (attributions : List StatsAttribution)
    (counts : List TerritoryCountByType) (startDate endDate : Instant) : List MonthlyCoverage :=
  let total := getTotalTerritoryCount counts
  if total = 0 then []
  else
    let current := clock.newDate (clock.getFullYear startDate) (clock.getMonth startDate) 1
    let lastMonth := clock.newDate (clock.getFullYear endDate) (clock.getMonth endDate) 1
    monthlyCoverageLoop clock attributions total startDate lastMonth
      ((lastMonth - current).toNat + 1) current

structure CoverageByType where
  kind : TerritoryKindKey
  label : String
  coverage : Rat
  totalCoverage : Rat
deriving DecidableEq, Repr

def coverageOfKind (territoryKindLabels : TerritoryKindKey → String)
    (attributions : List StatsAttribution) (c : TerritoryCountByType) : CoverageByType :=
  if c.count = 0 then ⟨c.type, territoryKindLabels c.type, 0, 0⟩
  else
    let typeAttributions := attributions.filter (·.territoryType == c.type)
    let coverage : Rat := (typeAttributions.length : Rat) / c.count * 100
    let totalCoverage : Rat := (touchedTerritories typeAttributions : Rat) / c.count * 100
    ⟨c.type, territoryKindLabels c.type, roundTwo coverage, roundTwo totalCoverage⟩

def computeCoverageByTerritoryType (territoryKindLabels : TerritoryKindKey → String)
    (attributions : List StatsAttribution) (counts : List TerritoryCountByType) :
    List CoverageByType :=
  counts.map (coverageOfKind territoryKindLabels attributions)

/-! ## Counting -/

theorem roundTwo_mono {x y : Rat} (h : x ≤ y) : roundTwo x ≤ roundTwo y := by
  unfold roundTwo
  have hfloor : ⌊x * 100 + 1 / 2⌋ ≤ ⌊y * 100 + 1 / 2⌋ := Int.floor_le_floor (by linarith)
  have hcast : ((⌊x * 100 + 1 / 2⌋ : Int) : Rat) ≤ (⌊y * 100 + 1 / 2⌋ : Int) := by exact_mod_cast hfloor
  linarith

theorem roundTwo_hundred : roundTwo 100 = 100 := by decide +kernel

theorem getTotalTerritoryCount_eq (counts : List TerritoryCountByType) :
    getTotalTerritoryCount counts = (counts.map (·.count)).sum := by
  unfold getTotalTerritoryCount
  rw [List.sum_eq_foldl, List.foldl_map]

/-- The counts of the kinds picked add up to the territories of these kinds. -/
theorem total_territoryCounts (db : RegisterDb) (kinds : List TerritoryKindKey) :
    getTotalTerritoryCount (territoryCounts kinds (fetchTerritoryCounts db)) =
      db.countTerritories kinds := by
  rw [getTotalTerritoryCount_eq]
  unfold territoryCounts fetchTerritoryCounts RegisterDb.countTerritories
  simp only
  cases kinds with
  | nil =>
    simp only [List.length_nil, gt_iff_lt, Nat.lt_irrefl, if_false, List.map_map, List.isEmpty_nil,
      Bool.true_or, List.filter_true, Function.comp_def]
    rw [List.sum_map_count_dedup_eq_length, List.length_map]
  | cons kind kinds =>
    rw [if_pos (by simp), List.filter_map, List.map_map]
    simp only [Function.comp_def, List.isEmpty_cons, Bool.false_or]
    rw [List.sum_map_count_dedup_filter_eq_countP, List.countP_map, List.countP_eq_length_filter]
    rfl

theorem touchedTerritories_mono {xs ys : List StatsAttribution} (h : xs ⊆ ys) :
    touchedTerritories xs ≤ touchedTerritories ys := by
  unfold touchedTerritories
  refine ((List.nodup_dedup _).subperm fun id hid => ?_).length_le
  rw [List.mem_dedup] at hid ⊢
  exact List.map_subset _ h hid

/-! ## The months of the series -/

namespace MonthClock

/-- Months without a break. -/
def monthNumber (clock : MonthClock) (date : Instant) : Int :=
  12 * clock.getFullYear date + clock.getMonth date

/-- The first instant of a month. -/
def monthStart (clock : MonthClock) (n : Int) : Int :=
  clock.newDate ((n / 12 : Int) : Rat) ((n % 12 : Int) : Rat) 1

/-- From the month of one date to that of another the runtime's dates go month by month: a month begins at
the midnight asked for, the next one follows, and the day after the second date is no later than the
month after it. -/
structure Runs (clock : MonthClock) (startDate endDate : Instant) : Prop where
  month : ∀ date, date = startDate ∨ date = endDate →
    0 ≤ clock.getMonth date ∧ clock.getMonth date < 12
  ordered : startDate ≤ endDate → clock.monthNumber startDate ≤ clock.monthNumber endDate
  fields : ∀ n, clock.monthNumber startDate ≤ n → n ≤ clock.monthNumber endDate →
    clock.getFullYear (clock.monthStart n) = n / 12 ∧ clock.getMonth (clock.monthStart n) = n % 12
  newDate : ∀ n, clock.monthNumber startDate ≤ n → n ≤ clock.monthNumber endDate →
    clock.newDate ((n / 12 : Int) : Rat) ((n % 12 : Int) + 1) 1 = clock.monthStart (n + 1)
  setMonth : ∀ n, clock.monthNumber startDate ≤ n → n ≤ clock.monthNumber endDate →
    clock.setMonth (clock.monthStart n) (n % 12 + 1) = clock.monthStart (n + 1)
  later : ∀ n, clock.monthNumber startDate ≤ n → n ≤ clock.monthNumber endDate →
    clock.monthStart n < clock.monthStart (n + 1)
  nextDay : startOfNextDay clock.toLocalTime endDate ≤ clock.monthStart (clock.monthNumber endDate + 1)

section Loop

variable {clock : MonthClock} {startDate endDate : Instant}

theorem monthStart_monthNumber {date : Instant}
    (h : 0 ≤ clock.getMonth date ∧ clock.getMonth date < 12) :
    clock.newDate (clock.getFullYear date) (clock.getMonth date) 1 =
      clock.monthStart (clock.monthNumber date) := by
  have hparts : clock.monthNumber date / 12 = clock.getFullYear date ∧
      clock.monthNumber date % 12 = clock.getMonth date := by
    unfold monthNumber
    omega
  rw [monthStart, hparts.1, hparts.2]

/-- A later month begins later, by a millisecond a month at least. -/
theorem Runs.monthStart_le (h : clock.Runs startDate endDate) {n : Int}
    (hn : clock.monthNumber startDate ≤ n) :
    ∀ k : Nat, n + k ≤ clock.monthNumber endDate + 1 →
      clock.monthStart n + k ≤ clock.monthStart (n + k)
  | 0, _ => by simp
  | k + 1, hk => by
    have hprev := h.monthStart_le hn k (by omega)
    have hstep := h.later (n + k) (by omega) (by omega)
    have hnext : n + ((k + 1 : Nat) : Int) = n + k + 1 := by omega
    rw [hnext]
    omega

/-- The point of a month: what was touched before the next one began. -/
def point (clock : MonthClock) (attributions : List StatsAttribution) (total : Nat)
    (startDate : Instant) (n : Int) : MonthlyCoverage :=
  monthCoverage clock attributions total startDate (clock.monthStart n)

theorem Runs.point_coverage (h : clock.Runs startDate endDate) {n : Int}
    (hfirst : clock.monthNumber startDate ≤ n) (hlast : n ≤ clock.monthNumber endDate)
    (attributions : List StatsAttribution) (total : Nat) :
    (clock.point attributions total startDate n).coverage =
      roundTwo ((touchedTerritories
        (attributions.filter (touchedBefore startDate (clock.monthStart (n + 1)))) : Rat) / total *
          100) := by
  obtain ⟨hyear, hmonth⟩ := h.fields n hfirst hlast
  unfold point monthCoverage
  simp only [hyear, hmonth, h.newDate n hfirst hlast]

/-- The loop goes through the months that are left. -/
theorem Runs.loop_eq (h : clock.Runs startDate endDate)
    (hrange : clock.monthNumber startDate ≤ clock.monthNumber endDate)
    (attributions : List StatsAttribution) (total : Nat) :
    ∀ (k fuel : Nat) (n : Int), clock.monthNumber startDate ≤ n →
      n + k = clock.monthNumber endDate + 1 → k ≤ fuel →
      monthlyCoverageLoop clock attributions total startDate
          (clock.monthStart (clock.monthNumber endDate)) fuel (clock.monthStart n) =
        (List.range k).map fun i : Nat => clock.point attributions total startDate (n + i)
  | 0, 0, _, _, _, _ => rfl
  | 0, fuel + 1, n, hn, hk, _ => by
    -- The month after the last one is over it.
    have hlater : clock.monthStart (clock.monthNumber endDate) < clock.monthStart n := by
      have hstep := h.later (clock.monthNumber endDate) hrange (by omega)
      rwa [show clock.monthNumber endDate + 1 = n by omega] at hstep
    rw [monthlyCoverageLoop, if_neg (not_le.mpr hlater)]
    rfl
  | k + 1, fuel + 1, n, hn, hk, hfuel => by
    have hle : clock.monthStart n ≤ clock.monthStart (clock.monthNumber endDate) := by
      have := h.monthStart_le hn k (by omega)
      rw [show n + k = clock.monthNumber endDate by omega] at this
      omega
    have hnext : clock.setMonth (clock.monthStart n) (clock.getMonth (clock.monthStart n) + 1) =
        clock.monthStart (n + 1) := by
      rw [(h.fields n hn (by omega)).2]
      exact h.setMonth n hn (by omega)
    rw [monthlyCoverageLoop, if_pos hle, hnext,
      h.loop_eq hrange attributions total k fuel (n + 1) (by omega) (by omega) (by omega),
      List.range_succ_eq_map, List.map_cons, List.map_map]
    congr 1
    · rw [point, Nat.cast_zero, add_zero]
    · apply List.map_congr_left
      intro i _
      rw [Function.comp_apply, show n + 1 + (i : Int) = n + (i.succ : Nat) by omega]

/-- **The series has a point for each month of the range.** -/
theorem Runs.series_eq (h : clock.Runs startDate endDate) (hle : startDate ≤ endDate)
    (attributions : List StatsAttribution) {counts : List TerritoryCountByType}
    (htotal : getTotalTerritoryCount counts ≠ 0) :
    computeMonthlyCoverageEvolution clock attributions counts startDate endDate =
      (List.range (clock.monthNumber endDate - clock.monthNumber startDate + 1).toNat).map
        fun i : Nat => clock.point attributions (getTotalTerritoryCount counts) startDate
          (clock.monthNumber startDate + i) := by
  have hrange := h.ordered hle
  -- As many milliseconds as months at least.
  have hfuel := h.monthStart_le le_rfl (clock.monthNumber endDate - clock.monthNumber startDate).toNat
    (by omega)
  rw [show clock.monthNumber startDate +
    ((clock.monthNumber endDate - clock.monthNumber startDate).toNat : Int) =
      clock.monthNumber endDate by omega] at hfuel
  unfold computeMonthlyCoverageEvolution
  simp only [htotal, if_false, monthStart_monthNumber (h.month _ (.inl rfl)),
    monthStart_monthNumber (h.month _ (.inr rfl))]
  exact h.loop_eq hrange attributions _ _ _ _ le_rfl (by omega) (by omega)

end Loop

end MonthClock

/-! ## A server on universal time -/

/-- The runtime of such a server. -/
def MonthClock.utc : MonthClock := { LocalTime.utc with setMonth := setUTCMonth }

namespace MonthClock

open Calendar

theorem utc_monthStart (n : Int) : utc.monthStart n = msPerDay * firstDay n := by
  simp only [monthStart, utc, LocalTime.utc, Rat.floor_intCast, firstDay]
  rfl

theorem dayOf_firstDay (n : Int) : dayOf (msPerDay * firstDay n) = firstDay n := by
  unfold dayOf msPerDay
  omega

theorem utc_monthNumber (date : Instant) : utc.monthNumber date = monthOf (dayOf date) := rfl

/-- **On universal time the months run.** -/
theorem utc_runs (startDate endDate : Instant) : utc.Runs startDate endDate where
  month date _ := by
    have hmonth := (civilFromDays_month (dayOf date)).2
    show 0 ≤ (civilFromDays (dayOf date)).2.1 - 1 ∧ (civilFromDays (dayOf date)).2.1 - 1 < 12
    omega
  ordered h := by
    rw [utc_monthNumber, utc_monthNumber]
    exact monthOf_mono (Int.ediv_le_ediv (by decide) h)
  fields n _ _ := by
    obtain ⟨hyear, hmonth⟩ := civilFromDays_month (firstDay n)
    rw [monthOf_firstDay] at hyear hmonth
    rw [utc_monthStart]
    show (civilFromDays (dayOf (msPerDay * firstDay n))).1 = _ ∧
      (civilFromDays (dayOf (msPerDay * firstDay n))).2.1 - 1 = _
    rw [dayOf_firstDay]
    omega
  newDate n _ _ := by
    have hmonth : ((n % 12 : Int) : Rat) + 1 = ((n % 12 + 1 : Int) : Rat) := by push_cast; rfl
    rw [utc_monthStart, ← daysFromCivil_next]
    show msPerDay * daysFromCivil (Rat.floor _) (Rat.floor _ + 1) (Rat.floor 1) = _
    rw [hmonth, Rat.floor_intCast, Rat.floor_intCast, add_assoc]
    rfl
  setMonth n _ _ := by
    have hfields := @civilFromDays_daysFromCivil n 1 le_rfl (by have := firstDay_succ_bounds n; omega)
    change civilFromDays (firstDay n) = _ at hfields
    have hnext : n / 12 + (n % 12 + 1) / 12 = (n + 1) / 12 ∧ (n % 12 + 1) % 12 = (n + 1) % 12 := by
      omega
    rw [utc_monthStart, utc_monthStart]
    show setUTCMonth (msPerDay * firstDay n) (n % 12 + 1) = _
    unfold setUTCMonth
    rw [dayOf_firstDay, hfields]
    simp only [hnext.1, hnext.2]
    rw [show msPerDay * firstDay n % msPerDay = 0 by unfold msPerDay; omega, add_zero]
    rfl
  later n _ _ := by
    have := firstDay_strictMono (show n < n + 1 by omega)
    rw [utc_monthStart, utc_monthStart]
    unfold msPerDay
    omega
  nextDay := by
    obtain ⟨_, hplace, hlast⟩ := civilFromDays_fields (dayOf endDate)
    obtain ⟨hyear, hmonth⟩ := civilFromDays_month (dayOf endDate)
    have hnextDay : startOfNextDay utc.toLocalTime endDate = msPerDay * (dayOf endDate + 1) := by
      have hday : ((dayInMonth (dayOf endDate) : Int) : Rat) + 1 =
          ((dayInMonth (dayOf endDate) + 1 : Int) : Rat) := by push_cast; rfl
      show msPerDay * daysFromCivil (Rat.floor ((civilFromDays (dayOf endDate)).1 : Int))
        (Rat.floor (((civilFromDays (dayOf endDate)).2.1 - 1 : Int) : Rat) + 1)
        (Rat.floor ((dayInMonth (dayOf endDate) : Int) + 1)) = _
      rw [hday, Rat.floor_intCast, Rat.floor_intCast, Rat.floor_intCast, hyear, hmonth,
        add_sub_cancel_right, daysFromCivil_month]
      have hday' : firstDay (monthOf (dayOf endDate)) + (dayInMonth (dayOf endDate) + 1) - 1 =
          dayOf endDate + 1 := by omega
      rw [hday']
    rw [hnextDay, utc_monthStart, utc_monthNumber]
    exact Int.mul_le_mul_of_nonneg_left (by omega) (by decide)

end MonthClock

/-! ## What is fetched -/

/-- The foreign key: an attribution's territory exists. -/
def RegisterDb.Linked (db : RegisterDb) : Prop :=
  ∀ a ∈ db.attributions, ∃ territory, db.territoryOf a = some territory

section Fetched

variable {tz : LocalTime} {db : RegisterDb} {params : StatsFilterParams}

theorem mem_fetchAttributionsForStats {s : StatsAttribution} :
    s ∈ fetchAttributionsForStats tz db params ↔
      ∃ a ∈ db.attributions, params.InScope tz db a ∧ db.statsAttribution a = s := by
  unfold fetchAttributionsForStats
  simp only [List.mem_map, List.mem_mergeSort, findMany_statsWhere, List.mem_filter, decide_eq_true_eq,
    and_assoc]

/-- What is fetched was touched before any instant from the day after the range on. -/
theorem touchedBefore_of_fetched {s : StatsAttribution} (h : s ∈ fetchAttributionsForStats tz db params)
    {bound : Int} (hbound : startOfNextDay tz params.endDate ≤ bound) :
    touchedBefore params.startDate bound s = true := by
  obtain ⟨a, _, hscope, rfl⟩ := mem_fetchAttributionsForStats.mp h
  have hbefore : a.startDate ≤ startOfNextDay tz params.endDate - 1 := hscope.range.2 _ rfl
  have hstart : a.startDate < bound := (Int.lt_of_le_sub_one hbefore).trans_le hbound
  have hreaches : ∀ date ∈ a.endDate, params.startDate ≤ date := hscope.range.1
  unfold touchedBefore RegisterDb.statsAttribution
  simp only [hstart, decide_true, Bool.true_and]
  cases hend : a.endDate with
  | none => rfl
  | some date => simpa using hreaches date hend

theorem territory_of_linked (hlinked : db.Linked) {a : Attribution} (ha : a ∈ db.attributions) :
    ∃ territory ∈ db.territories, territory.id = a.territoryId ∧ db.territoryOf a = some territory := by
  obtain ⟨territory, hof⟩ := hlinked a ha
  exact ⟨territory, List.mem_of_find?_eq_some hof, by simpa using List.find?_some hof, hof⟩

/-- A territory touched is a territory counted. -/
theorem touchedTerritories_fetch (hlinked : db.Linked) :
    touchedTerritories (fetchAttributionsForStats tz db params) =
      (db.territories.filter fun territory =>
        (db.findMany (statsWhere tz params)).any fun a => a.territoryId == territory.id).length := by
  have hnodup : ((db.territories.filter fun territory =>
      (db.findMany (statsWhere tz params)).any fun a => a.territoryId == territory.id).map
        TerritoryRow.id).Nodup :=
    db.territories_keyed.sublist (List.filter_sublist.map _)
  unfold touchedTerritories
  rw [← List.length_map TerritoryRow.id]
  refine ((List.perm_ext_iff_of_nodup (List.nodup_dedup _) hnodup).mpr fun id => ?_).length_eq
  simp only [List.mem_dedup, List.mem_map, List.mem_filter, List.any_eq_true, beq_iff_eq,
    findMany_statsWhere, decide_eq_true_eq, mem_fetchAttributionsForStats]
  constructor
  · rintro ⟨_, ⟨a, ha, hscope, rfl⟩, rfl⟩
    obtain ⟨territory, hmem, hid, _⟩ := territory_of_linked hlinked ha
    exact ⟨territory, ⟨hmem, a, ⟨ha, hscope⟩, hid.symm⟩, hid⟩
  · rintro ⟨territory, ⟨_, a, ⟨ha, hscope⟩, hid⟩, rfl⟩
    exact ⟨_, ⟨a, ha, hscope, rfl⟩, hid⟩

/-- **The database counts the territories touched.** -/
theorem computeTerritoryCoverageTotal_eq (hlinked : db.Linked) :
    computeTerritoryCoverageTotal tz db params.territoryKind params.attributionKind params.startDate
        params.endDate params.groupId =
      percentage (touchedTerritories (fetchAttributionsForStats tz db params))
        (db.countTerritories params.territoryKind) := by
  rw [touchedTerritories_fetch hlinked]
  unfold computeTerritoryCoverageTotal
  dsimp only
  rw [List.filter_congr fun territory hterritory => counted_iff_fetched hterritory]

theorem touched_le_count (hlinked : db.Linked) :
    touchedTerritories (fetchAttributionsForStats tz db params) ≤
      db.countTerritories params.territoryKind := by
  rw [touchedTerritories_fetch hlinked, RegisterDb.countTerritories, ← List.countP_eq_length_filter,
    ← List.countP_eq_length_filter]
  refine List.countP_mono_left fun territory hmem htouched => ?_
  rw [← counted_iff_fetched hmem, Bool.and_eq_true] at htouched
  exact htouched.1

/-! ## Kind by kind -/

theorem statsAttribution_type {a : Attribution} {territory : TerritoryRow}
    (h : db.territoryOf a = some territory) : (db.statsAttribution a).territoryType = territory.type := by
  simp [RegisterDb.statsAttribution, h]

theorem StatsFilterParams.inScope_kind {kinds : List TerritoryKindKey} {a : Attribution} :
    ({ params with territoryKind := kinds } : StatsFilterParams).InScope tz db a ↔
      (kinds = [] ∨ ∃ territory ∈ db.territoryOf a, territory.type ∈ kinds) ∧
        ({ params with territoryKind := [] } : StatsFilterParams).InScope tz db a :=
  ⟨fun h => ⟨h.kind, .inl rfl, h.range, h.group⟩, fun h => ⟨h.1, h.2.range, h.2.group⟩⟩

/-- The rows of one kind among those of every kind are those fetched for it. -/
theorem mem_fetch_of_kind (hlinked : db.Linked) {kind : TerritoryKindKey} {s : StatsAttribution} :
    s ∈ (fetchAttributionsForStats tz db { params with territoryKind := [] }).filter
        (·.territoryType == kind) ↔
      s ∈ fetchAttributionsForStats tz db { params with territoryKind := [kind] } := by
  rw [List.mem_filter, beq_iff_eq, mem_fetchAttributionsForStats, mem_fetchAttributionsForStats]
  constructor
  · rintro ⟨⟨a, ha, hscope, rfl⟩, hkind⟩
    obtain ⟨territory, _, _, hof⟩ := territory_of_linked hlinked ha
    have htype : territory.type ∈ [kind] := by
      rw [← hkind, statsAttribution_type hof]
      exact List.mem_singleton.mpr rfl
    exact ⟨a, ha, StatsFilterParams.inScope_kind.mpr ⟨.inr ⟨territory, hof, htype⟩, hscope⟩, rfl⟩
  · rintro ⟨a, ha, hscope, rfl⟩
    obtain ⟨hkind, hscope⟩ := StatsFilterParams.inScope_kind.mp hscope
    obtain ⟨territory, hof, htype⟩ := hkind.resolve_left (List.cons_ne_nil _ _)
    exact ⟨⟨a, ha, hscope, rfl⟩, by rw [statsAttribution_type hof, List.mem_singleton.mp htype]⟩

theorem count_type (db : RegisterDb) (kind : TerritoryKindKey) :
    (db.territories.map (·.type)).count kind = db.countTerritories [kind] := by
  unfold RegisterDb.countTerritories
  rw [List.count, List.countP_map, List.countP_eq_length_filter]
  congr 1
  apply List.filter_congr
  intro territory _
  rw [Bool.eq_iff_iff]
  simp

end Fetched

/-! ## The charts of the page -/

/-- `monthlyCoverage` of the loader. -/
def monthlyCoverage (clock : MonthClock) (db : RegisterDb) (params : StatsFilterParams) :
    List MonthlyCoverage :=
  computeMonthlyCoverageEvolution clock (fetchAttributionsForStats clock.toLocalTime db params)
    (territoryCounts params.territoryKind (fetchTerritoryCounts db)) params.startDate params.endDate

/-- `percentageTotallyCovered` of the loader, in two decimals. -/
def totallyCovered (clock : MonthClock) (db : RegisterDb) (params : StatsFilterParams) : Rat :=
  roundTwo (computeTerritoryCoverageTotal clock.toLocalTime db params.territoryKind
    params.attributionKind params.startDate params.endDate params.groupId)

section Charts

variable {clock : MonthClock} {db : RegisterDb} {params : StatsFilterParams}

theorem totallyCovered_eq (hlinked : db.Linked) (hscope : db.countTerritories params.territoryKind ≠ 0) :
    totallyCovered clock db params =
      roundTwo ((touchedTerritories (fetchAttributionsForStats clock.toLocalTime db params) : Rat) /
        db.countTerritories params.territoryKind * 100) := by
  rw [totallyCovered, computeTerritoryCoverageTotal_eq hlinked, percentage, if_neg hscope]

/-- A share of the territories grows with what was touched. -/
theorem share_le {m n total : Nat} (h : m ≤ n) :
    roundTwo ((m : Rat) / total * 100) ≤ roundTwo ((n : Rat) / total * 100) := by
  refine roundTwo_mono (mul_le_mul_of_nonneg_right ?_ (by norm_num))
  exact div_le_div_of_nonneg_right (by exact_mod_cast h) (Nat.cast_nonneg total)

theorem share_le_hundred {m total : Nat} (h : m ≤ total) (htotal : total ≠ 0) :
    roundTwo ((m : Rat) / total * 100) ≤ 100 := by
  have hself : (total : Rat) / total * 100 = 100 := by
    rw [div_self (Nat.cast_ne_zero.mpr htotal), one_mul]
  calc roundTwo ((m : Rat) / total * 100)
      ≤ roundTwo ((total : Rat) / total * 100) := share_le h
    _ = 100 := by rw [hself, roundTwo_hundred]

theorem coverageOfKind_totalCoverage {labels : TerritoryKindKey → String}
    {attributions : List StatsAttribution} {c : TerritoryCountByType} (hc : c.count ≠ 0) :
    (coverageOfKind labels attributions c).totalCoverage =
      roundTwo ((touchedTerritories (attributions.filter (·.territoryType == c.type)) : Rat) /
        c.count * 100) := by
  unfold coverageOfKind
  rw [if_neg hc]

theorem mem_fetchTerritoryCounts {c : TerritoryCountByType} :
    c ∈ fetchTerritoryCounts db ↔
      (∃ territory ∈ db.territories, territory.type = c.type) ∧
        c.count = db.countTerritories [c.type] := by
  unfold fetchTerritoryCounts
  simp only [List.mem_map, List.mem_dedup, count_type]
  constructor
  · rintro ⟨_, htype, rfl⟩
    exact ⟨htype, rfl⟩
  · intro ⟨htype, hcount⟩
    exact ⟨c.type, htype, by rw [← hcount]⟩

/-- A kind has one row. -/
theorem fetchTerritoryCounts_of_kind {kind : TerritoryKindKey} (h : db.countTerritories [kind] ≠ 0) :
    (fetchTerritoryCounts db).filter (·.type == kind) = [⟨kind, db.countTerritories [kind]⟩] := by
  have hmem : kind ∈ (db.territories.map (·.type)).dedup := by
    rw [List.mem_dedup, ← List.count_pos_iff, count_type]
    exact Nat.pos_of_ne_zero h
  have hone : ((db.territories.map (·.type)).dedup.filter fun type => type == kind) = [kind] := by
    rw [List.filter_beq, List.count_eq_one_of_mem (List.nodup_dedup _) hmem]
    rfl
  unfold fetchTerritoryCounts
  rw [List.filter_map]
  simp only [Function.comp_def, hone, List.map_cons, List.map_nil, count_type]

theorem mem_territoryCounts {kinds : List TerritoryKindKey} {counts : List TerritoryCountByType}
    {c : TerritoryCountByType} :
    c ∈ territoryCounts kinds counts ↔ c ∈ counts ∧ (kinds = [] ∨ c.type ∈ kinds) := by
  unfold territoryCounts
  cases kinds with
  | nil => simp
  | cons kind kinds => simp [List.mem_filter]

/-- With one kind in scope its row counts all that is fetched. -/
theorem totalCoverage_of_single {labels : TerritoryKindKey → String} (hlinked : db.Linked)
    (hscope : db.countTerritories params.territoryKind ≠ 0) {c : TerritoryCountByType}
    (hsingle : territoryCounts params.territoryKind (fetchTerritoryCounts db) = [c]) :
    (coverageOfKind labels (fetchAttributionsForStats clock.toLocalTime db params) c).totalCoverage =
      totallyCovered clock db params := by
  have hcount : c.count = db.countTerritories params.territoryKind := by
    rw [← total_territoryCounts, hsingle, getTotalTerritoryCount_eq]
    simp
  have hall : (fetchAttributionsForStats clock.toLocalTime db params).filter
      (·.territoryType == c.type) = fetchAttributionsForStats clock.toLocalTime db params := by
    refine List.filter_eq_self.mpr fun s hs => ?_
    obtain ⟨a, ha, hscope, rfl⟩ := mem_fetchAttributionsForStats.mp hs
    obtain ⟨territory, hmem, _, hof⟩ := territory_of_linked hlinked ha
    have hkind : params.territoryKind = [] ∨ territory.type ∈ params.territoryKind :=
      hscope.kind.imp_right fun ⟨t, ht, htype⟩ => by rwa [Option.some.inj (hof.symm.trans ht)]
    -- The kind of its territory is counted, so it is the one kind there is.
    have hcounted : (⟨territory.type, db.countTerritories [territory.type]⟩ : TerritoryCountByType) ∈
        territoryCounts params.territoryKind (fetchTerritoryCounts db) :=
      mem_territoryCounts.mpr ⟨mem_fetchTerritoryCounts.mpr ⟨⟨territory, hmem, rfl⟩, rfl⟩, hkind⟩
    rw [hsingle, List.mem_singleton] at hcounted
    rw [statsAttribution_type hof, ← hcounted, beq_self_eq_true]
  rw [coverageOfKind_totalCoverage (by rwa [hcount]), hall, hcount, totallyCovered_eq hlinked hscope]

/-- The row of a kind in the chart of every kind is what the filter on this kind gives. -/
theorem totalCoverage_of_kind {labels : TerritoryKindKey → String} (hlinked : db.Linked)
    {kind : TerritoryKindKey} (hkind : params.territoryKind = [kind])
    (hscope : db.countTerritories params.territoryKind ≠ 0) {c : TerritoryCountByType}
    (hc : c ∈ fetchTerritoryCounts db) (htype : c.type = kind) :
    (coverageOfKind labels (fetchAttributionsForStats clock.toLocalTime db
      { params with territoryKind := [] }) c).totalCoverage = totallyCovered clock db params := by
  have hcount : c.count = db.countTerritories params.territoryKind := by
    rw [(mem_fetchTerritoryCounts.mp hc).2, htype, hkind]
  have hparams : ({ params with territoryKind := [kind] } : StatsFilterParams) = params := by
    rw [← hkind]
  have htouched : touchedTerritories ((fetchAttributionsForStats clock.toLocalTime db
      { params with territoryKind := [] }).filter (·.territoryType == kind)) =
        touchedTerritories (fetchAttributionsForStats clock.toLocalTime db params) := by
    have hmem := fun s => @mem_fetch_of_kind clock.toLocalTime db params hlinked kind s
    rw [hparams] at hmem
    exact le_antisymm (touchedTerritories_mono fun s hs => (hmem s).mp hs)
      (touchedTerritories_mono fun s hs => (hmem s).mpr hs)
  rw [coverageOfKind_totalCoverage (by rwa [hcount]), htype, htouched, hcount,
    totallyCovered_eq hlinked hscope]

variable (hclock : clock.Runs params.startDate params.endDate)
include hclock

/-- A later month touches no fewer territories. -/
theorem point_mono (attributions : List StatsAttribution) (total : Nat) {n : Int} {k : Nat}
    (hfirst : clock.monthNumber params.startDate ≤ n)
    (hlast : n + k ≤ clock.monthNumber params.endDate) :
    (clock.point attributions total params.startDate n).coverage ≤
      (clock.point attributions total params.startDate (n + k)).coverage := by
  rw [hclock.point_coverage hfirst (by omega), hclock.point_coverage (by omega) hlast]
  refine share_le (touchedTerritories_mono fun s hs => ?_)
  rw [List.mem_filter] at hs ⊢
  refine ⟨hs.1, ?_⟩
  -- The bound is no earlier.
  have hbound := hclock.monthStart_le (show clock.monthNumber params.startDate ≤ n + 1 by omega) k
    (by omega)
  rw [show n + 1 + (k : Int) = n + k + 1 by omega] at hbound
  have hearlier := hs.2
  unfold touchedBefore at hearlier ⊢
  rw [Bool.and_eq_true, decide_eq_true_eq] at hearlier ⊢
  refine ⟨hearlier.1.trans_le ?_, hearlier.2⟩
  show clock.monthStart (n + 1) ≤ clock.monthStart (n + k + 1)
  omega

/-- The last point counts all that is fetched. -/
theorem point_last (hle : params.startDate ≤ params.endDate) (total : Nat) :
    (clock.point (fetchAttributionsForStats clock.toLocalTime db params) total params.startDate
        (clock.monthNumber params.endDate)).coverage =
      roundTwo ((touchedTerritories (fetchAttributionsForStats clock.toLocalTime db params) : Rat) /
        total * 100) := by
  have hall : (fetchAttributionsForStats clock.toLocalTime db params).filter
      (touchedBefore params.startDate (clock.monthStart (clock.monthNumber params.endDate + 1))) =
        fetchAttributionsForStats clock.toLocalTime db params :=
    List.filter_eq_self.mpr fun s hs => touchedBefore_of_fetched hs hclock.nextDay
  rw [hclock.point_coverage (hclock.ordered hle) le_rfl, hall]

end Charts

/-- **Coverage figures agree between the charts.** For every state, filter and clock whose months run over
the range, with a territory in scope. -/
theorem coverage_charts_agree (clock : MonthClock) (db : RegisterDb) (labels : TerritoryKindKey → String)
    (kinds : List TerritoryKindKey) (categories : List AttributionCategory)
    (startDate endDate : Instant) (groupId : Option Nat) (params : StatsFilterParams)
    (hparams : params = parseStatsFilterParams kinds categories startDate endDate groupId)
    (hclock : clock.Runs params.startDate params.endDate) (hlinked : db.Linked)
    (hscope : db.countTerritories params.territoryKind ≠ 0) :
    ((monthlyCoverage clock db params).map (·.coverage)).Pairwise (· ≤ ·) ∧
    (∀ point ∈ monthlyCoverage clock db params, point.coverage ≤ 100) ∧
    (monthlyCoverage clock db params).getLast?.map (·.coverage) =
      some (totallyCovered clock db params) ∧
    (∀ c, territoryCounts params.territoryKind (fetchTerritoryCounts db) = [c] →
      (computeCoverageByTerritoryType labels (fetchAttributionsForStats clock.toLocalTime db params)
        (territoryCounts params.territoryKind (fetchTerritoryCounts db))).map (·.totalCoverage) =
          [totallyCovered clock db params]) ∧
    (∀ kind, params.territoryKind = [kind] →
      ((computeCoverageByTerritoryType labels (fetchAttributionsForStats clock.toLocalTime db
        { params with territoryKind := [] }) (fetchTerritoryCounts db)).filter
          (·.kind == kind)).map (·.totalCoverage) = [totallyCovered clock db params]) := by
  have hle : params.startDate ≤ params.endDate := by
    rw [hparams]
    exact parseStatsFilterParams_ordered ..
  have htotal := total_territoryCounts db params.territoryKind
  have hseries := hclock.series_eq hle (fetchAttributionsForStats clock.toLocalTime db params)
    (by rwa [htotal])
  rw [htotal] at hseries
  have hseries : monthlyCoverage clock db params = _ := hseries
  have hrange := hclock.ordered hle
  have hlast := fun total => @point_last clock db params hclock hle total
  refine ⟨?_, ?_, ?_, ?_, ?_⟩
  · rw [hseries, List.map_map, List.pairwise_map]
    refine List.pairwise_lt_range.imp_of_mem fun {i j} hi hj hij => ?_
    rw [List.mem_range] at hi hj
    -- From one month to a later one.
    have hmono := point_mono hclock (fetchAttributionsForStats clock.toLocalTime db params)
      (db.countTerritories params.territoryKind)
      (show clock.monthNumber params.startDate ≤ clock.monthNumber params.startDate + (i : Int) by omega)
      (show clock.monthNumber params.startDate + (i : Int) + ((j - i : Nat) : Int) ≤ _ by omega)
    rwa [show clock.monthNumber params.startDate + (i : Int) + ((j - i : Nat) : Int) =
      clock.monthNumber params.startDate + j by omega] at hmono
  · intro point hpoint
    rw [hseries, List.mem_map] at hpoint
    obtain ⟨i, hi, rfl⟩ := hpoint
    rw [List.mem_range] at hi
    rw [hclock.point_coverage (by omega) (by omega)]
    refine share_le_hundred ?_ hscope
    exact (touchedTerritories_mono List.filter_sublist.subset).trans (touched_le_count hlinked)
  · have hmonths : (clock.monthNumber params.endDate - clock.monthNumber params.startDate + 1).toNat ≠ 0 := by
      omega
    have hend : clock.monthNumber params.startDate +
        (((clock.monthNumber params.endDate - clock.monthNumber params.startDate + 1).toNat - 1 : Nat) :
          Int) = clock.monthNumber params.endDate := by omega
    rw [hseries, List.getLast?_map, List.getLast?_range, if_neg hmonths, Option.map_some,
      Option.map_some, hend, hlast, totallyCovered_eq hlinked hscope]
  · intro c hsingle
    rw [hsingle]
    exact congrArg (fun x => [x]) (totalCoverage_of_single hlinked hscope hsingle)
  · intro kind hkind
    have hrow := fetchTerritoryCounts_of_kind (by rwa [hkind] at hscope)
    have hmem : (⟨kind, db.countTerritories [kind]⟩ : TerritoryCountByType) ∈
        (fetchTerritoryCounts db).filter (·.type == kind) := by
      rw [hrow]
      exact List.mem_singleton.mpr rfl
    have hkindOf : ∀ c, (coverageOfKind labels (fetchAttributionsForStats clock.toLocalTime db
        { params with territoryKind := [] }) c).kind = c.type := by
      intro c
      unfold coverageOfKind
      split <;> rfl
    unfold computeCoverageByTerritoryType
    rw [List.filter_map]
    simp only [Function.comp_def, hkindOf]
    rw [hrow]
    exact congrArg (fun x => [x])
      (totalCoverage_of_kind hlinked hkind hscope (List.mem_filter.mp hmem).1 rfl)

theorem spring_keyed : Keyed TerritoryRow.id [⟨1, "1", .classical⟩, ⟨2, "2", .classical⟩] := by decide

/-- Two territories of one kind; one was worked in January, the other is out since March. -/
def spring : RegisterDb where
  territories := [⟨1, "1", .classical⟩, ⟨2, "2", .classical⟩]
  attributions := [
    ⟨1, .default, 1, 1, 0, some (5 * Calendar.msPerDay), 1000, "", none, none, none⟩,
    ⟨2, .default, 1, 2, 70 * Calendar.msPerDay, none, 1000, "", none, none, none⟩]
  campaigns := []
  members := []
  territories_keyed := spring_keyed

theorem spring_charts_agree :
    (monthlyCoverage .utc spring ⟨[.classical], [], 0, 80 * Calendar.msPerDay, none⟩).getLast?.map
        (·.coverage) =
      some (totallyCovered .utc spring ⟨[.classical], [], 0, 80 * Calendar.msPerDay, none⟩) := by
  refine (coverage_charts_agree .utc spring (fun _ => "") [.classical] [] (80 * Calendar.msPerDay) 0
    none _ ?_ (MonthClock.utc_runs _ _) ?_ (by decide)).2.2.1
  · rfl
  · intro a ha
    simp only [spring, List.mem_cons, List.not_mem_nil, or_false] at ha
    obtain rfl | rfl := ha
    · exact ⟨_, rfl⟩
    · exact ⟨_, rfl⟩

example : (computeMonthlyCoverageEvolution .utc (spring.attributions.map spring.statsAttribution)
    (fetchTerritoryCounts spring) 0 (80 * Calendar.msPerDay)).map (fun p => (p.month, p.coverage)) =
      [("1970-01", 50), ("1970-02", 50), ("1970-03", 100)] := by decide +kernel

end Unitae.Territories
