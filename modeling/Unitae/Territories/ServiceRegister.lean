import Mathlib.Logic.Function.Basic
import Mathlib.Tactic.Order
import Unitae.Base.Listing
import Unitae.Territories.Register

/-!
# Unitae — the S-13 register (`territories-export-data.server.ts`, `s13-export.server.ts`)

The register of a theocratic year, 1 September to 31 August, lists each territory with the work done
on it. Which attributions belong to the year is spelled out in four cases over two years;
`s13_complete_iff` says which dates fall in none. The sheet then gives every attribution it is handed
a pair of columns. Borders, fills and widths are left out.
-/

namespace Unitae.Territories

/-! ## The year (`theocratic-year.server.ts`) -/

/-- The runtime's dates, with `setFullYear` and `toLocaleDateString('fr-FR')`. -/
structure YearTime extends LocalTime where
  setFullYear : Instant → Int → Instant
  toLocaleDateString : Instant → String

section Year

variable (rt : YearTime) (now : Instant) (theocraticYear : Option Int)

/-- November of the year asked about, or today. -/
def dayOfTheocraticYear : Instant :=
  match theocraticYear with
  | some year => rt.newDate year 10 1
  | none => now

def getBeginingDateOfTheocraticYear : Instant :=
  let today := dayOfTheocraticYear rt now theocraticYear
  if 7 < rt.getMonth today then rt.newDate (rt.getFullYear today) 8 1
  else rt.newDate (rt.getFullYear today - 1) 8 1

def getEndDateOfTheocraticYear : Instant :=
  let today := dayOfTheocraticYear rt now theocraticYear
  if 7 < rt.getMonth today then rt.newDate (rt.getFullYear today + 1) 7 31
  else rt.newDate (rt.getFullYear today) 7 31

/-- The dates the cases are told apart by: local midnights. -/
structure ExportYear where
  startDate : Instant
  endDate : Instant
  startDatePreviousYear : Instant
  endDatePreviousYear : Instant
deriving DecidableEq, Repr

def exportYear : ExportYear :=
  let startDate := getBeginingDateOfTheocraticYear rt now theocraticYear
  let endDate := getEndDateOfTheocraticYear rt now theocraticYear
  { startDate := startDate
    endDate := endDate
    startDatePreviousYear := rt.setFullYear startDate (rt.getFullYear startDate - 1)
    endDatePreviousYear := rt.setFullYear endDate (rt.getFullYear endDate - 1) }

end Year

/-! ## The data -/

def recentAttributionsLimit : Nat := 5

/-- The four cases of the query's `OR`. -/
def ExportYear.cases (year : ExportYear) : List (Attribution → Bool) :=
  [fun a => year.startDate ≤ a.startDate && a.startDate ≤ year.endDate,
   fun a => (year.startDatePreviousYear ≤ a.startDate && a.startDate ≤ year.endDatePreviousYear) &&
     a.endDate.any fun endDate => year.startDate ≤ endDate && endDate ≤ year.endDate,
   fun a => (year.startDatePreviousYear ≤ a.startDate && a.startDate ≤ year.endDatePreviousYear) &&
     a.endDate.isNone,
   fun a => a.startDate < year.startDatePreviousYear && a.endDate.isNone]

def ExportYear.selects (year : ExportYear) (a : Attribution) : Bool :=
  year.cases.any fun clause => clause a

/-- A territory with the attributions the query includes, each with its publisher. -/
structure ExportedTerritory where
  territory : TerritoryRow
  attributions : List (Attribution × Option Publishers.Member)
deriving DecidableEq, Repr

/-- `territory.attributions`. -/
def RegisterDb.attributionsOf (db : RegisterDb) (territory : TerritoryRow) : List Attribution :=
  db.attributions.filter fun a => a.territoryId == territory.id

/-- `orderBy: { startDate: 'desc' }`. -/
def byLatestStart (a b : Attribution) : Bool := b.startDate ≤ a.startDate

/-- The rows of the cases, latest first. -/
def listedAttributions (db : RegisterDb) (year : ExportYear) (territory : TerritoryRow) :
    List Attribution :=
  ((db.attributionsOf territory).filter year.selects).mergeSort byLatestStart

def exportTerritory (db : RegisterDb) (year : ExportYear) (territory : TerritoryRow) :
    ExportedTerritory where
  territory := territory
  attributions := ((listedAttributions db year territory).take recentAttributionsLimit).map fun a =>
    (a, db.publisherOf a)

def getTerritoriesExportData (rt : YearTime) (now : Instant) (db : RegisterDb)
    (theocraticYear : Option Int) : List ExportedTerritory :=
  db.territories.map (exportTerritory db (exportYear rt now theocraticYear))

/-! ## The sheet -/

/-- The cells of a territory's two rows, by column from 1. -/
structure RowPair where
  first : Nat → String
  last : Nat → String
  /-- The columns of the first row that are merged with the one before. -/
  merged : List Nat

structure S13Sheet where
  serviceYear : String
  attributionMaxCount : Nat
  territories : List RowPair

def formulaTriggers : List Char := ['=', '+', '-', '@', '\t', '\r']

def escapeSpreadsheetFormula (value : String) : String :=
  match value.toList.head? with
  | none => value
  | some c => if formulaTriggers.contains c then "'" ++ value else value

/-- `addRowsForTerritory`. -/
def addRowsForTerritory (territory : TerritoryRow) : RowPair where
  first := Function.update (fun _ => "") 1 (escapeSpreadsheetFormula territory.number)
  last := fun _ => ""
  merged := []

/-- `value || ''` of a name. -/
def publisherName (publisher : Option Publishers.Member) : String :=
  escapeSpreadsheetFormula
    ((publisher.map (·.firstname)).getD "" ++ " " ++ (publisher.map (·.lastname)).getD "")

/-- What one attribution writes: the name over its two dates. -/
def attributionCells (rt : YearTime) (item : Attribution × Option Publishers.Member) :
    String × String × String :=
  (publisherName item.2, rt.toLocaleDateString item.1.startDate,
    (item.1.endDate.map rt.toLocaleDateString).getD "")

/-- The body of the loop of `addAttributionColumns`, at the column it has come to. -/
def addAttribution (rt : YearTime) (state : RowPair × Nat)
    (item : Attribution × Option Publishers.Member) : RowPair × Nat :=
  let (pair, colIndex) := state
  let (name, startDate, endDate) := attributionCells rt item
  ({ first := Function.update pair.first colIndex name
     last := Function.update (Function.update pair.last colIndex startDate) (colIndex + 1) endDate
     merged := pair.merged ++ [colIndex + 1] }, colIndex + 2)

/-- `(a, b) => a.startDate.getTime() - b.startDate.getTime()`. -/
def byStart (a b : Attribution × Option Publishers.Member) : Bool :=
  a.1.startDate ≤ b.1.startDate

def addAttributionColumns (rt : YearTime) (pair : RowPair) (item : ExportedTerritory) :
    RowPair × Nat :=
  (item.attributions.mergeSort byStart).foldl (addAttribution rt) (pair, 3)

/-- The columns left over keep their pairs, merged above and blank. -/
def addEmptyAttributionColumns (nextColIndex : Nat) (pair : RowPair) (attributionMaxCount : Nat) :
    RowPair :=
  let lastColIndex := 2 + attributionMaxCount * 2
  { pair with merged := pair.merged ++
      (List.range' nextColIndex ((lastColIndex + 2 - nextColIndex) / 2) 2).map (· + 1) }

def territoryRows (rt : YearTime) (attributionMaxCount : Nat) (item : ExportedTerritory) : RowPair :=
  let (pair, nextColIndex) := addAttributionColumns rt (addRowsForTerritory item.territory) item
  addEmptyAttributionColumns nextColIndex pair attributionMaxCount

/-- The pairs of columns the headers stand over. -/
def attributionMaxCount (data : List ExportedTerritory) : Nat :=
  data.foldl (fun count item =>
    if item.attributions.length < count then count else item.attributions.length) 0

def generateS13ExportExcel (rt : YearTime) (data : List ExportedTerritory) (serviceYear : String) :
    S13Sheet where
  serviceYear := escapeSpreadsheetFormula serviceYear
  attributionMaxCount := attributionMaxCount data
  territories := data.map (territoryRows rt (attributionMaxCount data))

/-! ## What the sheet shows -/

/-- The cells of the `k`-th pair of columns. -/
def RowPair.read (pair : RowPair) (col : Nat) : String × String × String :=
  (pair.first col, pair.last col, pair.last (col + 1))

section Columns

variable {rt : YearTime} {pair : RowPair} {col : Nat}

theorem addAttribution_read (item : Attribution × Option Publishers.Member) :
    (addAttribution rt (pair, col) item).1.read col = attributionCells rt item := by
  simp [addAttribution, RowPair.read]

/-- Writing a pair of columns leaves the others alone. -/
theorem addAttribution_read_other (item : Attribution × Option Publishers.Member) {other : Nat}
    (h : other + 1 < col ∨ col + 1 < other) :
    (addAttribution rt (pair, col) item).1.read other = pair.read other := by
  have hfirst : other ≠ col := by omega
  have hlast : other ≠ col + 1 := by omega
  have hnext : other + 1 ≠ col := by omega
  have hnextLast : other ≠ col := by omega
  simp [addAttribution, RowPair.read, Function.update_of_ne, hfirst, hlast, hnext]

/-- Columns before the one the loop has come to are not written again. -/
theorem read_before_column (items : List (Attribution × Option Publishers.Member)) (pair : RowPair)
    (col : Nat) {other : Nat} (h : other + 1 < col) :
    (items.foldl (addAttribution rt) (pair, col)).1.read other = pair.read other := by
  induction items generalizing pair col with
  | nil => rfl
  | cons item rest ih =>
    have hrest := ih (addAttribution rt (pair, col) item).1 (col + 2) (by omega)
    rw [addAttribution_read_other item (.inl h)] at hrest
    exact hrest

/-- **The loop gives each attribution its own pair of columns**, one after the other. -/
theorem read_addAttributions (items : List (Attribution × Option Publishers.Member))
    (pair : RowPair) (col k : Nat) :
    (items.foldl (addAttribution rt) (pair, col)).1.read (col + 2 * k) =
      ((items[k]?).map (attributionCells rt)).getD (pair.read (col + 2 * k)) := by
  induction items generalizing pair col k with
  | nil => rfl
  | cons item rest ih =>
    cases k with
    | zero =>
      exact (read_before_column rest _ (col + 2) (by omega)).trans (addAttribution_read item)
    | succ k =>
      have hnext : col + 2 * (k + 1) = col + 2 + 2 * k := by omega
      have hrest := ih (addAttribution rt (pair, col) item).1 (col + 2) k
      rw [addAttribution_read_other item (.inr (by omega))] at hrest
      rw [hnext]
      exact hrest

end Columns

/-- The attributions of a territory stand in the sheet in order of start date, each in its own pair
of columns under the headers, and the pairs after them are blank. -/
def WrittenInOrder (rt : YearTime) (headerPairs : Nat) (pair : RowPair)
    (attributions : List (Attribution × Option Publishers.Member)) : Prop :=
  ∃ order : List (Attribution × Option Publishers.Member), order.Perm attributions ∧
    order.Pairwise (fun a b => a.1.startDate ≤ b.1.startDate) ∧ order.length ≤ headerPairs ∧
    ∀ k, pair.read (3 + 2 * k) = ((order[k]?).map (attributionCells rt)).getD ("", "", "")

theorem territoryRows_written (rt : YearTime) {headerPairs : Nat} (item : ExportedTerritory)
    (h : item.attributions.length ≤ headerPairs) :
    WrittenInOrder rt headerPairs (territoryRows rt headerPairs item) item.attributions := by
  refine ⟨item.attributions.mergeSort byStart, List.mergeSort_perm _ _, ?_, ?_, ?_⟩
  · have htrans : ∀ a b c, byStart a b = true → byStart b c = true → byStart a c = true := by
      intro a b c hab hbc
      exact decide_eq_true ((of_decide_eq_true hab).trans (of_decide_eq_true hbc))
    have htotal : ∀ a b, (byStart a b || byStart b a) = true := by
      intro a b
      simpa [byStart] using le_total a.1.startDate b.1.startDate
    exact (List.pairwise_mergeSort htrans htotal _).imp fun hab => of_decide_eq_true hab
  · rwa [List.length_mergeSort]
  · intro k
    have hblank : (addRowsForTerritory item.territory).read (3 + 2 * k) = ("", "", "") := by
      have hcol : 3 + 2 * k ≠ 1 := by omega
      simp [addRowsForTerritory, RowPair.read, hcol]
    rw [← hblank]
    exact read_addAttributions _ _ 3 k

theorem length_le_attributionMaxCount {data : List ExportedTerritory} {item : ExportedTerritory}
    (h : item ∈ data) : item.attributions.length ≤ attributionMaxCount data := by
  -- The count never falls, and covers each item it has seen.
  have hfold : ∀ (data : List ExportedTerritory) (count : Nat),
      count ≤ data.foldl (fun count item =>
          if item.attributions.length < count then count else item.attributions.length) count ∧
        ∀ item ∈ data, item.attributions.length ≤ data.foldl (fun count item =>
          if item.attributions.length < count then count else item.attributions.length) count := by
    intro data
    induction data with
    | nil => exact fun count => ⟨le_rfl, fun item hitem => absurd hitem (by simp)⟩
    | cons first rest ih =>
      intro count
      obtain ⟨hgrows, hcovers⟩ :=
        ih (if first.attributions.length < count then count else first.attributions.length)
      rw [List.foldl_cons]
      constructor
      · refine le_trans ?_ hgrows
        split <;> omega
      · intro item hitem
        cases List.mem_cons.mp hitem with
        | inl heq =>
          subst heq
          refine le_trans ?_ hgrows
          split <;> omega
        | inr hrest => exact hcovers item hrest
  exact (hfold data 0).2 item h

/-! ## Which attributions belong to the year -/

/-- From the first instant of 1 September to the last of 31 August. -/
def ExportYear.span (year : ExportYear) (tz : LocalTime) : Span Instant :=
  ⟨year.startDate, some (startOfNextDay tz year.endDate - 1)⟩

/-- The attributions of a territory that meet the year. -/
def yearAttributions (tz : LocalTime) (db : RegisterDb) (year : ExportYear)
    (territory : TerritoryRow) : List Attribution :=
  (db.attributionsOf territory).filter fun a => a.span.Overlaps (year.span tz)

/-- The runtime's dates come in the order of the calendar. -/
structure ExportYear.Ordered (year : ExportYear) (tz : LocalTime) : Prop where
  previous : year.startDatePreviousYear ≤ year.endDatePreviousYear
  next : year.endDatePreviousYear < year.startDate
  inside : year.startDate ≤ year.endDate
  day : year.endDate < startOfNextDay tz year.endDate

/-- Dates that meet the year and are in none of its cases. -/
inductive ExportYear.FallsThrough (year : ExportYear) (tz : LocalTime) (a : Attribution) : Prop where
  | long (hstart : a.startDate < year.startDatePreviousYear)
      (hend : ∃ endDate ∈ a.endDate, year.startDate ≤ endDate)
  | returnedAfter (hstart : year.startDatePreviousYear ≤ a.startDate)
      (hbefore : a.startDate ≤ year.endDatePreviousYear)
      (hend : ∃ endDate ∈ a.endDate, year.endDate < endDate)
  | eveOfYear (hstart : year.endDatePreviousYear < a.startDate)
      (hbefore : a.startDate < year.startDate) (hreaches : a.span.Reaches year.startDate)
  | lastDay (hstart : year.endDate < a.startDate)
      (hbefore : a.startDate < startOfNextDay tz year.endDate)
      (hreaches : a.span.Reaches year.startDate)

/-- Dates in a case that do not meet the year: given back before they start. -/
def ExportYear.EndsBefore (year : ExportYear) (a : Attribution) : Prop :=
  (year.startDate ≤ a.startDate ∧ a.startDate ≤ year.endDate) ∧
    ∃ endDate ∈ a.endDate, endDate < year.startDate

section Cases

variable {tz : LocalTime} {year : ExportYear} {a : Attribution}

theorem selects_iff : year.selects a = true ↔
    (year.startDate ≤ a.startDate ∧ a.startDate ≤ year.endDate) ∨
    (year.startDatePreviousYear ≤ a.startDate ∧ a.startDate ≤ year.endDatePreviousYear) ∧
      (∃ endDate ∈ a.endDate, year.startDate ≤ endDate ∧ endDate ≤ year.endDate) ∨
    (year.startDatePreviousYear ≤ a.startDate ∧ a.startDate ≤ year.endDatePreviousYear) ∧
      a.endDate = none ∨
    a.startDate < year.startDatePreviousYear ∧ a.endDate = none := by
  simp [ExportYear.selects, ExportYear.cases, Option.any_eq_true]

theorem overlaps_year_iff : a.span.Overlaps (year.span tz) ↔
    a.span.Reaches year.startDate ∧ a.startDate < startOfNextDay tz year.endDate := by
  have hday : ∀ t : Int, t ≤ startOfNextDay tz year.endDate - 1 ↔
      t < startOfNextDay tz year.endDate := by
    intro t
    omega
  simp [Span.Overlaps, Span.Reaches, ExportYear.span, Attribution.span, hday]

theorem reaches_iff {t : Instant} :
    a.span.Reaches t ↔ a.endDate = none ∨ ∃ endDate ∈ a.endDate, t ≤ endDate := by
  cases hend : a.endDate <;> simp [Span.Reaches, Attribution.span, hend]

/-- What the cases leave out. -/
theorem missed_iff (hyear : year.Ordered tz) :
    a.span.Overlaps (year.span tz) ∧ ¬year.selects a = true ↔ year.FallsThrough tz a := by
  obtain ⟨hprevious, hnext, hinside, hday⟩ := hyear
  rw [overlaps_year_iff, selects_iff]
  constructor
  · intro ⟨⟨hreaches, hstarts⟩, hcases⟩
    -- The start tells the cases apart: the four stretches of the two years, and what is between.
    by_cases hlong : a.startDate < year.startDatePreviousYear
    · cases reaches_iff.mp hreaches with
      | inl hopen => exact absurd (.inr (.inr (.inr ⟨hlong, hopen⟩))) hcases
      | inr hend => exact .long hlong hend
    · have hprev := not_lt.mp hlong
      by_cases hbefore : a.startDate ≤ year.endDatePreviousYear
      · cases reaches_iff.mp hreaches with
        | inl hopen => exact absurd (.inr (.inr (.inl ⟨⟨hprev, hbefore⟩, hopen⟩))) hcases
        | inr hend =>
          obtain ⟨endDate, hmem, hfrom⟩ := hend
          apply ExportYear.FallsThrough.returnedAfter hprev hbefore
          by_contra hnone
          have hto : endDate ≤ year.endDate :=
            not_lt.mp fun hafter => hnone ⟨endDate, hmem, hafter⟩
          exact hcases (.inr (.inl ⟨⟨hprev, hbefore⟩, endDate, hmem, hfrom, hto⟩))
      · have heve := not_le.mp hbefore
        by_cases hyearStart : a.startDate < year.startDate
        · exact .eveOfYear heve hyearStart hreaches
        · have hlast : year.endDate < a.startDate := by
            by_contra hin
            exact hcases (.inl ⟨not_lt.mp hyearStart, not_lt.mp hin⟩)
          exact .lastDay hlast hstarts hreaches
  · intro hfalls
    cases hfalls with
    | long hstart hend =>
      obtain ⟨endDate, hmem, hfrom⟩ := hend
      refine ⟨⟨reaches_iff.mpr (.inr ⟨endDate, hmem, hfrom⟩), by order⟩, ?_⟩
      rw [Option.mem_def.mp hmem]
      rintro (hin | ⟨hin, _⟩ | ⟨_, hopen⟩ | ⟨_, hopen⟩)
      · order
      · order
      · exact absurd hopen (by simp)
      · exact absurd hopen (by simp)
    | returnedAfter hstart hbefore hend =>
      obtain ⟨endDate, hmem, hafter⟩ := hend
      refine ⟨⟨reaches_iff.mpr (.inr ⟨endDate, hmem, by order⟩), by order⟩, ?_⟩
      rw [Option.mem_def.mp hmem]
      rintro (hin | ⟨_, endDate', hmem', hin⟩ | ⟨_, hopen⟩ | ⟨_, hopen⟩)
      · order
      · have heq : endDate = endDate' := by simpa using hmem'
        order
      · exact absurd hopen (by simp)
      · exact absurd hopen (by simp)
    | eveOfYear hstart hbefore hreaches =>
      refine ⟨⟨hreaches, by order⟩, ?_⟩
      rintro (hin | ⟨hin, _⟩ | ⟨hin, _⟩ | ⟨hin, _⟩) <;> order
    | lastDay hstart hbefore hreaches =>
      refine ⟨⟨hreaches, hbefore⟩, ?_⟩
      rintro (hin | ⟨hin, _⟩ | ⟨hin, _⟩ | ⟨hin, _⟩) <;> order

/-- What they let in. -/
theorem extra_iff (hyear : year.Ordered tz) :
    year.selects a = true ∧ ¬a.span.Overlaps (year.span tz) ↔ year.EndsBefore a := by
  obtain ⟨hprevious, hnext, hinside, hday⟩ := hyear
  rw [overlaps_year_iff, selects_iff, reaches_iff]
  constructor
  · intro ⟨hcases, hmisses⟩
    obtain hin | ⟨⟨_, hbefore⟩, endDate, hmem, hfrom, _⟩ | ⟨⟨_, hbefore⟩, hopen⟩ |
      ⟨hlong, hopen⟩ := hcases
    · refine ⟨hin, ?_⟩
      cases hend : a.endDate with
      | none => exact absurd ⟨.inl hend, by order⟩ hmisses
      | some endDate =>
        refine ⟨endDate, rfl, ?_⟩
        by_contra hfrom
        exact hmisses ⟨.inr ⟨endDate, hend, not_lt.mp hfrom⟩, by order⟩
    · exact absurd ⟨.inr ⟨endDate, hmem, hfrom⟩, by order⟩ hmisses
    · exact absurd ⟨.inl hopen, by order⟩ hmisses
    · exact absurd ⟨.inl hopen, by order⟩ hmisses
  · intro ⟨hin, endDate, hmem, hends⟩
    refine ⟨.inl hin, ?_⟩
    rintro ⟨hopen | ⟨endDate', hmem', hfrom⟩, _⟩
    · exact absurd hmem (by simp [hopen])
    · have heq : endDate = endDate' := Option.some.inj (hmem.symm.trans hmem')
      order

end Cases

/-! ## The register of a year -/

instance (year : ExportYear) (tz : LocalTime) (a : Attribution) :
    Decidable (year.FallsThrough tz a) :=
  decidable_of_iff
    ((a.startDate < year.startDatePreviousYear ∧ ∃ endDate ∈ a.endDate, year.startDate ≤ endDate) ∨
      (year.startDatePreviousYear ≤ a.startDate ∧ a.startDate ≤ year.endDatePreviousYear ∧
        ∃ endDate ∈ a.endDate, year.endDate < endDate) ∨
      (year.endDatePreviousYear < a.startDate ∧ a.startDate < year.startDate ∧
        a.span.Reaches year.startDate) ∨
      year.endDate < a.startDate ∧ a.startDate < startOfNextDay tz year.endDate ∧
        a.span.Reaches year.startDate)
    ⟨fun
      | .inl ⟨h₁, h₂⟩ => .long h₁ h₂
      | .inr (.inl ⟨h₁, h₂, h₃⟩) => .returnedAfter h₁ h₂ h₃
      | .inr (.inr (.inl ⟨h₁, h₂, h₃⟩)) => .eveOfYear h₁ h₂ h₃
      | .inr (.inr (.inr ⟨h₁, h₂, h₃⟩)) => .lastDay h₁ h₂ h₃,
    fun
      | .long h₁ h₂ => .inl ⟨h₁, h₂⟩
      | .returnedAfter h₁ h₂ h₃ => .inr (.inl ⟨h₁, h₂, h₃⟩)
      | .eveOfYear h₁ h₂ h₃ => .inr (.inr (.inl ⟨h₁, h₂, h₃⟩))
      | .lastDay h₁ h₂ h₃ => .inr (.inr (.inr ⟨h₁, h₂, h₃⟩))⟩

instance (year : ExportYear) (a : Attribution) : Decidable (year.EndsBefore a) :=
  inferInstanceAs (Decidable (_ ∧ ∃ _ ∈ _, _))

/-- The dates the register of a year is made for: none falls through the cases, and none that ends
before the year is kept with those that meet it. -/
structure RegisterTakes (tz : LocalTime) (db : RegisterDb) (year : ExportYear)
    (territory : TerritoryRow) : Prop where
  covered : ∀ a ∈ db.attributionsOf territory, ¬year.FallsThrough tz a
  kept : (∀ a ∈ db.attributionsOf territory, ¬year.EndsBefore a) ∨
    (yearAttributions tz db year territory).length = recentAttributionsLimit ∧
      (listedAttributions db year territory).Pairwise fun a b =>
        ¬year.EndsBefore b → ¬year.EndsBefore a

section Register

variable {rt : YearTime} {now : Instant} {db : RegisterDb} {year : ExportYear}
  {territory : TerritoryRow}

/-- The rows selected are those that meet the year just when the dates of the territory leave no row
out, and no row that ends before the year takes the place of another or is handed over with them. -/
theorem selected_iff (hyear : year.Ordered rt.toLocalTime)
    (hlimit : (yearAttributions rt.toLocalTime db year territory).length ≤ recentAttributionsLimit) :
    ((listedAttributions db year territory).take recentAttributionsLimit).Perm
        (yearAttributions rt.toLocalTime db year territory) ↔
      RegisterTakes rt.toLocalTime db year territory := by
  let meets : Attribution → Bool := fun a => a.span.Overlaps (year.span rt.toLocalTime)
  have hlisted : ∀ a, a ∈ listedAttributions db year territory ↔
      a ∈ db.attributionsOf territory ∧ year.selects a = true := by
    intro a
    rw [listedAttributions, List.mem_mergeSort, List.mem_filter]
  have hends : ∀ a, year.selects a = true → (meets a = true ↔ ¬year.EndsBefore a) := by
    intro a hselects
    rw [← extra_iff hyear, not_and_not_right, decide_eq_true_eq]
    exact ⟨fun hmeets _ => hmeets, fun h => h hselects⟩
  -- With no row left out, the listed rows that meet the year are all that do.
  have hmeeting : (∀ a ∈ db.attributionsOf territory, ¬year.FallsThrough rt.toLocalTime a) →
      ((listedAttributions db year territory).filter meets).Perm
        (yearAttributions rt.toLocalTime db year territory) := by
    intro hnone
    refine ((List.mergeSort_perm _ _).filter meets).trans ?_
    rw [List.filter_filter]
    apply List.Perm.of_eq
    apply List.filter_congr
    intro a ha
    cases hselects : year.selects a with
    | true => simp [meets]
    | false =>
      have hmisses : ¬meets a = true := by
        intro hmeets
        apply hnone a ha
        rw [← missed_iff hyear]
        exact ⟨of_decide_eq_true hmeets, by simp [hselects]⟩
      simpa [meets] using hmisses
  constructor
  · intro hperm
    have hnone : ∀ a ∈ db.attributionsOf territory, ¬year.FallsThrough rt.toLocalTime a := by
      intro a ha hfalls
      obtain ⟨hmeets, hmissed⟩ := (missed_iff hyear).mpr hfalls
      have hin : a ∈ yearAttributions rt.toLocalTime db year territory :=
        List.mem_filter.mpr ⟨ha, decide_eq_true hmeets⟩
      exact hmissed ((hlisted a).mp (List.mem_of_mem_take (hperm.mem_iff.mpr hin))).2
    refine ⟨hnone, ?_⟩
    have hfilter := hmeeting hnone
    have hcases := (take_perm_filter_iff (by rwa [hfilter.length_eq])).mp (hperm.trans hfilter.symm)
    cases hcases with
    | inl hall =>
      left
      intro a ha hbefore
      have hselects : year.selects a = true := ((extra_iff hyear).mpr hbefore).1
      exact (hends a hselects).mp (hall a ((hlisted a).mpr ⟨ha, hselects⟩)) hbefore
    | inr hahead =>
      right
      refine ⟨by rw [← hfilter.length_eq]; exact hahead.1, ?_⟩
      apply hahead.2.imp_of_mem
      intro a b ha hb hab hkept
      exact (hends a ((hlisted a).mp ha).2).mp (hab ((hends b ((hlisted b).mp hb).2).mpr hkept))
  · intro ⟨hnone, hcases⟩
    have hfilter := hmeeting hnone
    refine ((take_perm_filter_iff (by rwa [hfilter.length_eq])).mpr ?_).trans hfilter
    cases hcases with
    | inl hall =>
      left
      intro a ha
      obtain ⟨hmem, hselects⟩ := (hlisted a).mp ha
      exact (hends a hselects).mpr (hall a hmem)
    | inr hahead =>
      right
      refine ⟨by rw [hfilter.length_eq]; exact hahead.1, ?_⟩
      apply hahead.2.imp_of_mem
      intro a b ha hb hab hkept
      exact (hends a ((hlisted a).mp ha).2).mpr (hab ((hends b ((hlisted b).mp hb).2).mp hkept))

/-- The register of a year is complete for a territory: what is selected is what meets the year, and
the sheet shows it in order. -/
def RegisterComplete (rt : YearTime) (now : Instant) (db : RegisterDb) (theocraticYear : Option Int)
    (serviceYear : String) (i : Nat) (territory : TerritoryRow) : Prop :=
  let year := exportYear rt now theocraticYear
  let data := getTerritoriesExportData rt now db theocraticYear
  let sheet := generateS13ExportExcel rt data serviceYear
  ∃ item pair, data[i]? = some item ∧ sheet.territories[i]? = some pair ∧
    (item.attributions.map (·.1)).Perm (yearAttributions rt.toLocalTime db year territory) ∧
    WrittenInOrder rt sheet.attributionMaxCount pair item.attributions

/-- **The register is complete exactly when no date falls through its cases.** For a territory with
at most as many attributions in the year as the register keeps: none started before the year before
and was returned since, none was returned after the year, none started in the course of a 31 August;
and none that ended before it started is kept with the others. -/
theorem s13_complete_iff (rt : YearTime) (now : Instant) (db : RegisterDb)
    (theocraticYear : Option Int) (serviceYear : String) {i : Nat} {territory : TerritoryRow}
    (hterritory : db.territories[i]? = some territory)
    (hyear : (exportYear rt now theocraticYear).Ordered rt.toLocalTime)
    (hlimit : (yearAttributions rt.toLocalTime db (exportYear rt now theocraticYear)
      territory).length ≤ recentAttributionsLimit) :
    RegisterComplete rt now db theocraticYear serviceYear i territory ↔
      RegisterTakes rt.toLocalTime db (exportYear rt now theocraticYear) territory := by
  rw [← selected_iff hyear hlimit]
  have hitem : (getTerritoriesExportData rt now db theocraticYear)[i]? =
      some (exportTerritory db (exportYear rt now theocraticYear) territory) := by
    rw [getTerritoriesExportData, List.getElem?_map, hterritory]
    rfl
  have hrows : (exportTerritory db (exportYear rt now theocraticYear) territory).attributions.map
      (·.1) = (listedAttributions db (exportYear rt now theocraticYear) territory).take
        recentAttributionsLimit := by
    simp [exportTerritory, Function.comp_def]
  constructor
  · intro ⟨item, pair, hdata, _, hperm, _⟩
    rw [hitem, Option.some.injEq] at hdata
    rwa [← hdata, hrows] at hperm
  · intro hperm
    have hpair : (generateS13ExportExcel rt (getTerritoriesExportData rt now db theocraticYear)
        serviceYear).territories[i]? = some (territoryRows rt
          (attributionMaxCount (getTerritoriesExportData rt now db theocraticYear))
          (exportTerritory db (exportYear rt now theocraticYear) territory)) := by
      show (List.map _ _)[i]? = _
      rw [List.getElem?_map, hitem]
      rfl
    refine ⟨_, _, hitem, hpair, by rwa [hrows], ?_⟩
    exact territoryRows_written rt _ (length_le_attributionMaxCount (List.mem_of_getElem? hitem))

end Register

/-! ## A register in universal time -/

def YearTime.utc : YearTime where
  toLocalTime := .utc
  setFullYear := fun t year =>
    let (_, month, day) := Calendar.civilFromDays (Calendar.dayOf t)
    t + Calendar.msPerDay * (Calendar.daysFromCivil year month day - Calendar.dayOf t)
  toLocaleDateString := localDateString .utc

/-- The day of a civil date. -/
def dayAt (year month day : Int) : Instant := LocalTime.utc.newDate year (month - 1 : Int) day

/-- One territory, worked from one day to another. -/
def workedFromTo (startDate : Instant) (endDate : Option Instant) : RegisterDb where
  territories := [⟨1, "12", .classical⟩]
  attributions := [⟨1, .default, 1, 1, startDate, endDate, startDate, "", none, none, none⟩]
  campaigns := []
  members := []
  territories_keyed := by decide

/-- Worked in the autumn of the year. -/
def autumn : RegisterDb := workedFromTo (dayAt 2024 10 1) (some (dayAt 2024 11 1))

theorem s13_complete_autumn :
    RegisterComplete .utc 0 autumn (some 2024) "2024" 0 ⟨1, "12", .classical⟩ :=
  (s13_complete_iff .utc 0 autumn (some 2024) "2024" rfl
    ⟨by decide +kernel, by decide +kernel, by decide +kernel, by decide +kernel⟩
    (by decide +kernel)).mpr ⟨by decide +kernel, .inl (by decide +kernel)⟩

/-- Taken in the spring before the year before, and returned in the year. -/
def longWork : RegisterDb := workedFromTo (dayAt 2023 3 1) (some (dayAt 2024 10 1))

theorem long_work_missing :
    (yearAttributions .utc longWork (exportYear .utc 0 (some 2024))
        ⟨1, "12", .classical⟩).length = 1 ∧
      ¬RegisterComplete .utc 0 longWork (some 2024) "2024" 0 ⟨1, "12", .classical⟩ := by
  refine ⟨by decide +kernel, ?_⟩
  intro ⟨item, pair, hdata, _, hperm, _⟩
  have hitem : item.attributions = [] := by
    have hnone : (getTerritoriesExportData .utc 0 longWork (some 2024))[0]?.map
        (·.attributions) = some [] := by decide +kernel
    rw [hdata] at hnone
    exact Option.some.inj hnone
  rw [hitem] at hperm
  exact absurd hperm.length_eq (by decide +kernel)

end Unitae.Territories
