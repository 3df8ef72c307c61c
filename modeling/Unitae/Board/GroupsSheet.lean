import Mathlib.Data.List.Nodup
import Unitae.Base.Filling
import Unitae.Board.BalancedColumns
import Unitae.Board.SheetText

/-!
# Unitae — the sheet of the service groups (`publisher-groups-sheet.ts`)

How the printable list of groups chooses its text size and lays the groups on pages: `planDirectory`
takes the longest run of groups that two columns hold, `planRows` puts rows of groups one under the
other, and a row that no page could hold is kept and flows over. `fitGroupsSheet` tries the sizes
from the largest down.
-/

namespace Unitae.Board

/-! ## Geometry -/

inductive GroupsLayout where
  | directory | columns | bands
deriving DecidableEq, Repr

/-- Where a group's head is set. -/
structure HeadGeometry where
  size : ℚ
  width : ℚ
  address : ℚ

structure GroupsGeometry where
  layout : GroupsLayout
  orientation : SheetOrientation
  page : Box
  k : ℚ
  line : ℚ
  gap : ℚ
  perRow : ℕ
  index : ℚ
  head : HeadGeometry
  role : ℚ
  leaderName : ℚ
  nameColumns : ℕ
  nameGap : ℚ
  nameColumn : ℚ

def groupsLineHeight : ℚ := 1.2

def groupGap : ℚ := 9

/-- The source's figure is not a number when there are no groups, and no row is planned then. -/
def perRowFor (count : ℕ) : ℕ := max 1 ⌈(count : ℚ) / (⌈(count : ℚ) / 6⌉ : ℚ)⌉₊

def leadersLabels (locale : SheetLocale) : List String := [locale.responsibleLabel, locale.deputyLabel]

def groupsGeometry (layout : GroupsLayout) (locale : SheetLocale) (measurer : TextMeasurer) (s : ℚ)
    (groupCount : ℕ) : GroupsGeometry :=
  let k := s / 10
  let line := s * groupsLineHeight
  match layout with
  | .directory =>
    let page := sheetContentBox .portrait
    let column := (page.width - 18) / 2
    let labels := (leadersLabels locale).map fun label => measurer.width label .regular * s
    let role := maxOf labels + 6
    { layout, orientation := .portrait, page, k, line, gap := 18, perRow := 2, index := 0,
      head := { size := 1.4 * s, width := column * 0.74, address := column },
      role, leaderName := column - role, nameColumns := 2, nameGap := 8,
      nameColumn := (column - 8) / 2 }
  | .columns =>
    let page := sheetContentBox .landscape
    let perRow := perRowFor groupCount
    let column := (page.width - 14 * ((perRow : ℚ) - 1)) / perRow
    { layout, orientation := .landscape, page, k, line, gap := 14, perRow, index := 0,
      head := { size := 1.25 * s, width := column, address := column },
      role := 0, leaderName := column, nameColumns := 1, nameGap := 0, nameColumn := column }
  | .bands =>
    let page := sheetContentBox .portrait
    let index := 130
    let names := page.width - index - 14
    { layout, orientation := .portrait, page, k, line, gap := 14, perRow := 1, index,
      head := { size := 1.25 * s, width := index, address := index },
      role := 0, leaderName := index, nameColumns := 3, nameGap := 10,
      nameColumn := (names - 2 * 10) / 3 }

/-! ## Estimating -/

/-- What the estimate needs at one size, with the groups it is asked about in board order. -/
structure Fit where
  locale : SheetLocale
  measurer : TextMeasurer
  s : ℚ
  geometry : GroupsGeometry
  groups : List SheetPublisherGroup

section Estimate

variable (fit : Fit)

def runsHeight (runs : List TextRun) (size width : ℚ) : ℚ :=
  lineCount runs fit.measurer size width * size * groupsLineHeight

def nameHeight (person : BoardPerson) : ℚ :=
  runsHeight fit (boardPersonNameRuns fit.locale person) fit.s fit.geometry.nameColumn

/-- The source keeps the columns in a map by the group's id, filled in board order: a group is given
those of the first group with its id. -/
def nameColumnsOf (group : SheetPublisherGroup) : List (List BoardPerson) :=
  let asked := (fit.groups.find? (·.id = group.id)).getD group
  balancedColumns (membersOf fit.locale asked) fit.geometry.nameColumns (nameHeight fit)

/-- Everything above the list of names. -/
def headHeight (group : SheetPublisherGroup) : ℚ :=
  let g := fit.geometry
  let name := runsHeight fit [⟨groupSheetName fit.locale group, .bold⟩] g.head.size g.head.width
  let address := runsHeight fit [⟨sanitizeText group.adress, .regular⟩] fit.s g.head.address
  let leaders := (leadersOf fit.locale group).foldl (fun total leader =>
    total + (if g.role ≠ 0 then 0 else g.line)
      + runsHeight fit (boardPersonNameRuns fit.locale leader.2) fit.s g.leaderName) 0
  match g.layout with
  | .bands => name + g.line + address + 5 * g.k + leaders
  | .columns => name + g.line + address + 11 * g.k + 0.75 + leaders
  | .directory => name + 0 + address + 11 * g.k + 0.75 + leaders

def namesHeight (group : SheetPublisherGroup) : ℚ :=
  maxOf (0 :: (nameColumnsOf fit group).map fun column => (column.map (nameHeight fit)).sum)

def groupHeight (group : SheetPublisherGroup) : ℚ :=
  if fit.geometry.layout = .bands then max (headHeight fit group) (namesHeight fit group)
  else headHeight fit group + namesHeight fit group

/-- In columns, every list starts under the row's tallest head. -/
def rowHeadHeight (row : List SheetPublisherGroup) : ℚ := maxOf (0 :: row.map (headHeight fit))

/-- A row on the page, its rule and the gap under it included. -/
def rowHeight (row : List SheetPublisherGroup) : ℚ :=
  let content :=
    if fit.geometry.layout = .columns then
      rowHeadHeight fit row + maxOf (0 :: row.map (namesHeight fit))
    else maxOf (0 :: row.map (groupHeight fit))
  entryRuleHeight + content + groupGap * fit.geometry.k

def wordsFit (runs : List TextRun) (size width : ℚ) : Bool :=
  widestWord runs fit.measurer size ≤ width

def everyWordFits (groups : List SheetPublisherGroup) : Bool :=
  let g := fit.geometry
  groups.all fun group =>
    wordsFit fit [⟨groupSheetName fit.locale group, .bold⟩] g.head.size g.head.width
      && wordsFit fit [⟨sanitizeText group.adress, .regular⟩] fit.s g.head.address
      && (leadersOf fit.locale group).all (fun leader =>
        wordsFit fit (boardPersonNameRuns fit.locale leader.2) fit.s g.leaderName)
      && (membersOf fit.locale group).all fun person =>
        wordsFit fit (boardPersonNameRuns fit.locale person) fit.s g.nameColumn

end Estimate

/-! ## Planning the sheets -/

/-- A row across the page. An oversized row is taller than its page and flows over the next ones. -/
structure GroupsRow where
  columns : List (List SheetPublisherGroup)
  oversized : Bool
  /-- In columns: the height of the row's tallest head. -/
  headHeight : ℚ

structure SheetPlan where
  size : ℚ
  geometry : GroupsGeometry
  sheets : List (List GroupsRow)
  /-- The pages the sheets take, oversized rows counted for every page they flow over. -/
  pages : ℤ
  nameColumns : SheetPublisherGroup → List (List BoardPerson)

structure GroupsSheetPlan extends SheetPlan where
  /-- Some word is wider than its column even at the smallest size. -/
  fallback : Bool

section Planning

variable (fit : Fit)

def capacity (sheet : ℕ) : ℚ :=
  (fit.geometry.page.height - (if sheet = 0 then mastheadHeight else 0)) * safeFill

/-- A group in a column of the directory, its rule and the gap under it included. -/
def entryHeight (group : SheetPublisherGroup) : ℚ :=
  entryRuleHeight + groupHeight fit group + groupGap * fit.geometry.k

/-- The first group of a column has no rule above it. -/
def stack (column : List SheetPublisherGroup) : ℚ :=
  (column.map (entryHeight fit)).sum - (if column.length > 0 then entryRuleHeight else 0)

structure TwoColumns where
  columns : List (List SheetPublisherGroup)
  tallest : ℚ

def splitInTwo (groups : List SheetPublisherGroup) : TwoColumns :=
  let columns := balancedColumns groups 2 (entryHeight fit)
  { columns, tallest := maxOf (columns.map (stack fit)) }

/-- The loop that takes groups off the end of `rest` until two columns hold them. -/
def shrink (rest : List SheetPublisherGroup) (room : ℚ) : ℕ → ℕ
  | 0 => 0
  | count + 1 =>
    if 0 < count ∧ room < (splitInTwo fit (rest.take (count + 1))).tallest then shrink rest room count
    else count + 1

theorem shrink_pos (rest : List SheetPublisherGroup) (room : ℚ) (count : ℕ) :
    0 < shrink fit rest room (count + 1) := by
  induction count with
  | zero => simp [shrink]
  | succ count ih =>
    rw [shrink]
    split
    · exact ih
    · exact Nat.succ_pos _

/-- The `while` loop of the directory: each turn takes at least one group off `rest`. -/
def directorySheets (rest : List SheetPublisherGroup) (sheets : List (List GroupsRow)) (pages : ℤ) :
    List (List GroupsRow) × ℤ :=
  if h : rest = [] then (sheets, pages)
  else
    let room := capacity fit sheets.length
    let count := shrink fit rest room rest.length
    let split := splitInTwo fit (rest.take count)
    let oversized : Bool := room < split.tallest
    directorySheets (rest.drop count) (sheets ++ [[⟨split.columns, oversized, 0⟩]])
      (pages + if oversized then ⌈split.tallest / capacity fit 1⌉ else 1)
termination_by rest.length
decreasing_by
  obtain ⟨n, hn⟩ : ∃ n, rest.length = n + 1 :=
    Nat.exists_eq_add_one.mpr (List.length_pos_of_ne_nil h)
  have hpos := shrink_pos fit rest (capacity fit sheets.length) n
  rw [List.length_drop, hn]
  omega

def planDirectory (groups : List SheetPublisherGroup) : List (List GroupsRow) × ℤ :=
  directorySheets fit groups [] 0

/-- Where `planRows` stands: the sheets closed, the rows of the one being filled, their height. -/
structure RowPlan where
  sheets : List (List GroupsRow)
  current : List GroupsRow
  used : ℚ
  pages : ℤ

def RowPlan.close (p : RowPlan) : RowPlan :=
  if p.current.isEmpty then p
  else { sheets := p.sheets ++ [p.current], current := [], used := 0, pages := p.pages + 1 }

def RowPlan.push (p : RowPlan) (row : GroupsRow) (rowTall : ℚ) : RowPlan :=
  { p with current := p.current ++ [row], used := p.used + rowTall }

def RowPlan.addRow (p : RowPlan) (groupsInRow : List SheetPublisherGroup) : RowPlan :=
  let row : GroupsRow :=
    { columns := groupsInRow.map ([·]), oversized := false, headHeight := rowHeadHeight fit groupsInRow }
  let rowTall := rowHeight fit groupsInRow
  let opensSheet := p.sheets.isEmpty && p.current.isEmpty
  -- taller than a page, or than the room under the masthead when it comes first
  if capacity fit (if opensSheet then 0 else 1) < rowTall then
    let p := p.close
    let sheets := p.sheets ++ [[{ row with oversized := true }]]
    let before := if sheets.length = 1 then mastheadHeight else 0
    { p with sheets, pages := p.pages + ⌈(before + rowTall) / capacity fit 1⌉ }
  else
    let p := if !p.current.isEmpty ∧ capacity fit p.sheets.length < p.used + rowTall then p.close else p
    p.push row rowTall

/-- `groups.slice(index, index + perRow)` for `index` in steps of `perRow`. -/
def groupRows (perRow : ℕ) (groups : List SheetPublisherGroup) : List (List SheetPublisherGroup) :=
  if _h : groups = [] ∨ perRow = 0 then []
  else groups.take perRow :: groupRows perRow (groups.drop perRow)
termination_by groups.length
decreasing_by
  have hpos := List.length_pos_of_ne_nil (not_or.mp _h).1
  rw [List.length_drop]
  omega

def planRows (groups : List SheetPublisherGroup) : List (List GroupsRow) × ℤ :=
  let p := ((groupRows fit.geometry.perRow groups).foldl (RowPlan.addRow fit) ⟨[], [], 0, 0⟩).close
  (p.sheets, p.pages)

end Planning

/-! ## Choosing the size -/

section Choosing

variable (locale : SheetLocale) (layout : GroupsLayout) (groups : List SheetPublisherGroup)
  (measurer : TextMeasurer)

/-- What a plan at `size` measures with. -/
def fitAt (size : ℚ) : Fit :=
  { locale, measurer, s := size, geometry := groupsGeometry layout locale measurer size groups.length,
    groups }

def plan (size : ℚ) (strict : Bool) : Option SheetPlan :=
  let fit := fitAt locale layout groups measurer size
  if strict && !everyWordFits fit groups then none
  else
    let planned := if layout = .directory then planDirectory fit groups else planRows fit groups
    some { size, geometry := fit.geometry, sheets := planned.1, pages := planned.2,
           nameColumns := nameColumnsOf fit }

/-- `AUTO_FIT_SIZES[AUTO_FIT_SIZES.length - 1]`. -/
def smallestSize : ℚ := autoFitSizes.getLastD 0

/-- The pages at the smallest size; `Infinity`, which is no bound, when some word does not fit even
there. -/
def fewestPages : Option ℤ :=
  (plan locale layout groups measurer smallestSize true).map (·.pages)

def fitGroupsSheet : Except String GroupsSheetPlan :=
  let fewest := fewestPages locale layout groups measurer
  let chosen := autoFitSizes.findSome? fun size =>
    (plan locale layout groups measurer size true).filter fun candidate =>
      fewest.all (candidate.pages ≤ ·)
  match chosen with
  | some candidate => .ok { candidate with fallback := false }
  | none =>
    match plan locale layout groups measurer smallestSize false with
    | none => .error "A groups sheet planned without the word check cannot be refused"
    | some forced => .ok { forced with fallback := true }

end Choosing

/-! ## Heights are not negative -/

structure GroupsGeometry.Sound (g : GroupsGeometry) : Prop where
  k_nonneg : 0 ≤ g.k
  line_nonneg : 0 ≤ g.line
  head_nonneg : 0 ≤ g.head.size
  perRow_pos : 0 < g.perRow
  nameColumns_pos : 1 ≤ g.nameColumns

structure Fit.Sound (fit : Fit) : Prop where
  s_nonneg : 0 ≤ fit.s
  geometry : fit.geometry.Sound

theorem groupsGeometry_sound (layout : GroupsLayout) (locale : SheetLocale) (measurer : TextMeasurer)
    {s : ℚ} (groupCount : ℕ) (hs : 0 ≤ s) :
    (groupsGeometry layout locale measurer s groupCount).Sound := by
  have hk : 0 ≤ s / 10 := div_nonneg hs (by norm_num)
  have hline : 0 ≤ s * groupsLineHeight := mul_nonneg hs (by norm_num [groupsLineHeight])
  have hlarge : (0 : ℚ) ≤ 1.4 * s := mul_nonneg (by norm_num) hs
  have hsmall : (0 : ℚ) ≤ 1.25 * s := mul_nonneg (by norm_num) hs
  cases layout with
  | directory => exact ⟨hk, hline, hlarge, Nat.succ_pos 1, Nat.le_succ 1⟩
  | columns => exact ⟨hk, hline, hsmall, lt_max_of_lt_left Nat.one_pos, le_rfl⟩
  | bands => exact ⟨hk, hline, hsmall, Nat.one_pos, Nat.le_add_left 1 2⟩

section Nonneg

variable {fit : Fit}

theorem runsHeight_nonneg (runs : List TextRun) {size width : ℚ} (hsize : 0 ≤ size) :
    0 ≤ runsHeight fit runs size width := by
  have hcount : (0 : ℚ) ≤ lineCount runs fit.measurer size width := Nat.cast_nonneg _
  exact mul_nonneg (mul_nonneg hcount hsize) (by norm_num [groupsLineHeight])

theorem nameHeight_nonneg (h : fit.Sound) (person : BoardPerson) : 0 ≤ nameHeight fit person :=
  runsHeight_nonneg _ h.s_nonneg

theorem headHeight_nonneg (h : fit.Sound) (group : SheetPublisherGroup) :
    0 ≤ headHeight fit group := by
  have hleaders : ∀ (leaders : List (String × BoardPerson)) (total : ℚ), 0 ≤ total →
      0 ≤ leaders.foldl (fun total leader =>
        total + (if fit.geometry.role ≠ 0 then 0 else fit.geometry.line)
          + runsHeight fit (boardPersonNameRuns fit.locale leader.2) fit.s fit.geometry.leaderName)
        total := by
    intro leaders
    induction leaders with
    | nil => exact fun total htotal => htotal
    | cons leader leaders ih =>
      intro total htotal
      have hline : 0 ≤ (if fit.geometry.role ≠ 0 then 0 else fit.geometry.line) := by
        split
        · exact le_rfl
        · exact h.geometry.line_nonneg
      exact ih _ (add_nonneg (add_nonneg htotal hline) (runsHeight_nonneg _ h.s_nonneg))
  have hname : 0 ≤ runsHeight fit [⟨groupSheetName fit.locale group, .bold⟩] fit.geometry.head.size
      fit.geometry.head.width := runsHeight_nonneg _ h.geometry.head_nonneg
  have haddress : 0 ≤ runsHeight fit [⟨sanitizeText group.adress, .regular⟩] fit.s
      fit.geometry.head.address := runsHeight_nonneg _ h.s_nonneg
  have hsum := hleaders (leadersOf fit.locale group) 0 le_rfl
  have hk := h.geometry.k_nonneg
  have hline := h.geometry.line_nonneg
  simp only [headHeight]
  split <;> linarith

theorem groupHeight_nonneg (h : fit.Sound) (group : SheetPublisherGroup) :
    0 ≤ groupHeight fit group := by
  have hhead := headHeight_nonneg h group
  have hnames : 0 ≤ namesHeight fit group := maxOf_zero_nonneg _
  rw [groupHeight]
  split
  · exact hhead.trans (le_max_left _ _)
  · exact add_nonneg hhead hnames

theorem entryHeight_nonneg (h : fit.Sound) (group : SheetPublisherGroup) :
    0 ≤ entryHeight fit group := by
  have hgap : 0 ≤ groupGap * fit.geometry.k :=
    mul_nonneg (by norm_num [groupGap]) h.geometry.k_nonneg
  have hrule : (0 : ℚ) ≤ entryRuleHeight := by norm_num [entryRuleHeight]
  exact add_nonneg (add_nonneg hrule (groupHeight_nonneg h group)) hgap

theorem splitInTwo_flatten (h : fit.Sound) (groups : List SheetPublisherGroup) :
    (splitInTwo fit groups).columns.flatten = groups :=
  (isSplit_balancedColumns (by decide) fun group _ => entryHeight_nonneg h group).flatten_eq

end Nonneg

/-! ## What a plan puts on its sheets -/

/-- The height a row takes. A row of the directory is as tall as its taller column. -/
def printedHeight (fit : Fit) (row : GroupsRow) : ℚ :=
  if fit.geometry.layout = .directory then maxOf (row.columns.map (stack fit))
  else rowHeight fit row.columns.flatten

def GroupsRow.groups (row : GroupsRow) : List SheetPublisherGroup := row.columns.flatten

/-- The sheets hold the groups in order and no sheet is overfilled. -/
structure Planned (fit : Fit) (groups : List SheetPublisherGroup) (sheets : List (List GroupsRow)) :
    Prop where
  inOrder : sheets.flatten.flatMap GroupsRow.groups = groups
  filled : Filled (capacity fit) (printedHeight fit) (·.oversized) sheets

section Plans

variable {fit : Fit} {groups rest : List SheetPublisherGroup} {sheets : List (List GroupsRow)}

theorem Planned.nil : Planned fit [] [] := ⟨rfl, .nil⟩

theorem Planned.push {sheet : List GroupsRow} (h : Planned fit groups sheets)
    (hfilled : Filled (capacity fit) (printedHeight fit) (·.oversized) (sheets ++ [sheet])) :
    Planned fit (groups ++ sheet.flatMap GroupsRow.groups) (sheets ++ [sheet]) := by
  refine ⟨?_, hfilled⟩
  rw [List.flatten_append, List.flatMap_append, h.inOrder]
  simp

/-- One turn of the directory loop: the two columns take what was taken off `rest`. -/
theorem Planned.push_directory (h : fit.Sound) (hlayout : fit.geometry.layout = .directory)
    (hsheets : Planned fit groups sheets) (taken : List SheetPublisherGroup) :
    Planned fit (groups ++ taken) (sheets ++ [[⟨(splitInTwo fit taken).columns,
      capacity fit sheets.length < (splitInTwo fit taken).tallest, 0⟩]]) := by
  have htall : ∀ oversized, printedHeight fit ⟨(splitInTwo fit taken).columns, oversized, 0⟩
      = (splitInTwo fit taken).tallest := by
    intro oversized
    rw [printedHeight, if_pos hlayout]
    rfl
  have hgroups : ∀ oversized, [(⟨(splitInTwo fit taken).columns, oversized, 0⟩ : GroupsRow)].flatMap
      GroupsRow.groups = taken := by
    intro oversized
    simp [GroupsRow.groups, splitInTwo_flatten h]
  by_cases hover : capacity fit sheets.length < (splitInTwo fit taken).tallest
  · simp only [hover, decide_true]
    have hpush := hsheets.push (hsheets.filled.push_oversized rfl ((htall true).symm ▸ hover))
    rwa [hgroups] at hpush
  · simp only [hover, decide_false]
    have hfits : ([(⟨(splitInTwo fit taken).columns, false, 0⟩ : GroupsRow)].map
        (printedHeight fit)).sum ≤ capacity fit sheets.length := by
      rw [List.map_singleton, List.sum_singleton, htall]
      exact not_lt.mp hover
    have hpush := hsheets.push (hsheets.filled.push (by simp) hfits)
    rwa [hgroups] at hpush

theorem directorySheets_planned (h : fit.Sound) (hlayout : fit.geometry.layout = .directory)
    (pages : ℤ) (hsheets : Planned fit groups sheets) :
    Planned fit (groups ++ rest) (directorySheets fit rest sheets pages).1 := by
  induction hn : rest.length using Nat.strong_induction_on generalizing rest groups sheets pages with
  | _ n ih =>
    rw [directorySheets]
    split
    · next hrest => simpa [hrest] using hsheets
    · next hrest =>
      obtain ⟨m, hm⟩ : ∃ m, rest.length = m + 1 :=
        Nat.exists_eq_add_one.mpr (List.length_pos_of_ne_nil hrest)
      let count := shrink fit rest (capacity fit sheets.length) rest.length
      have hless : (rest.drop count).length < n := by
        have hpos : 0 < count := by
          show 0 < shrink fit rest (capacity fit sheets.length) rest.length
          rw [hm]
          exact shrink_pos fit rest _ m
        rw [List.length_drop]
        omega
      have hgroups : groups ++ rest.take count ++ rest.drop count = groups ++ rest := by
        rw [List.append_assoc, List.take_append_drop]
      rw [← hgroups]
      exact ih _ hless _ (hsheets.push_directory h hlayout (rest.take count)) rfl

theorem planDirectory_planned (h : fit.Sound) (hlayout : fit.geometry.layout = .directory) :
    Planned fit groups (planDirectory fit groups).1 :=
  directorySheets_planned h hlayout 0 Planned.nil

/-! ### Rows of groups -/

/-- While `planRows` runs: the closed sheets are planned, and the rows on the open one fit it. -/
structure RowPlan.Sound (fit : Fit) (groups : List SheetPublisherGroup) (p : RowPlan) : Prop where
  inOrder : (p.sheets.flatten ++ p.current).flatMap GroupsRow.groups = groups
  filled : Filled (capacity fit) (printedHeight fit) (·.oversized) p.sheets
  plain : ∀ row ∈ p.current, row.oversized = false
  used_eq : p.used = (p.current.map (printedHeight fit)).sum
  fits : p.current ≠ [] → p.used ≤ capacity fit p.sheets.length

namespace RowPlan

variable {p : RowPlan}

theorem Sound.start : Sound fit [] ⟨[], [], 0, 0⟩ where
  inOrder := rfl
  filled := .nil
  plain := by simp
  used_eq := rfl
  fits h := absurd rfl h

theorem close_current : p.close.current = [] := by
  rw [close]
  split
  · next h => exact List.isEmpty_iff.mp h
  · rfl

theorem Sound.close (h : Sound fit groups p) : Sound fit groups p.close := by
  by_cases hempty : p.current = []
  · have hclose : p.close = p := if_pos (List.isEmpty_iff.mpr hempty)
    rwa [hclose]
  · have hclose : p.close = ⟨p.sheets ++ [p.current], [], 0, p.pages + 1⟩ :=
      if_neg fun h => hempty (List.isEmpty_iff.mp h)
    rw [hclose]
    refine ⟨?_, h.filled.push h.plain (h.used_eq ▸ h.fits hempty), by simp, rfl, fun h => absurd rfl h⟩
    simpa using h.inOrder

theorem Sound.planned (h : Sound fit groups p) : Planned fit groups p.close.sheets := by
  have hclosed := h.close
  refine ⟨?_, hclosed.filled⟩
  have horder := hclosed.inOrder
  rwa [close_current, List.append_nil] at horder

/-- The room a row is first compared with is that of the sheet it would have for itself. -/
theorem capacity_close :
    capacity fit (if p.sheets.isEmpty && p.current.isEmpty then 0 else 1)
      = capacity fit p.close.sheets.length := by
  by_cases hcurrent : p.current = []
  · have hclose : p.close = p := if_pos (List.isEmpty_iff.mpr hcurrent)
    rw [hclose]
    cases hsheets : p.sheets with
    | nil => simp [hcurrent]
    | cons sheet sheets => simp [capacity]
  · have hclose : p.close = ⟨p.sheets ++ [p.current], [], 0, p.pages + 1⟩ :=
      if_neg fun h => hcurrent (List.isEmpty_iff.mp h)
    simp [hclose, hcurrent, capacity]

theorem Sound.push (h : Sound fit groups p) {row : GroupsRow} {rowTall : ℚ}
    (hrow : row.oversized = false) (htall : printedHeight fit row = rowTall)
    (hfits : p.used + rowTall ≤ capacity fit p.sheets.length) :
    Sound fit (groups ++ row.groups) (p.push row rowTall) where
  inOrder := by
    rw [RowPlan.push, ← List.append_assoc, List.flatMap_append, h.inOrder]
    simp
  filled := h.filled
  plain := by
    intro r hr
    rcases List.mem_append.mp hr with hr | hr
    · exact h.plain r hr
    · rwa [List.mem_singleton.mp hr]
  used_eq := by
    simp [RowPlan.push, h.used_eq, htall]
  fits _ := hfits

theorem Sound.addRow (h : Sound fit groups p) (hlayout : fit.geometry.layout ≠ .directory)
    (groupsInRow : List SheetPublisherGroup) :
    Sound fit (groups ++ groupsInRow) (p.addRow fit groupsInRow) := by
  have hcolumns : (groupsInRow.map ([·])).flatten = groupsInRow := by
    rw [← List.flatMap_def]
    simp
  have htall : ∀ oversized tallHead, printedHeight fit ⟨groupsInRow.map ([·]), oversized, tallHead⟩
      = rowHeight fit groupsInRow := by
    intro oversized tallHead
    rw [printedHeight, if_neg hlayout, hcolumns]
  simp only [RowPlan.addRow]
  rw [@capacity_close fit p]
  split
  · next hover =>
    let row : GroupsRow := ⟨groupsInRow.map ([·]), true, rowHeadHeight fit groupsInRow⟩
    have hroom : capacity fit p.close.sheets.length < printedHeight fit row := by
      rw [htall]
      exact hover
    have hclosed := h.planned.push (h.planned.filled.push_oversized rfl hroom)
    refine ⟨?_, hclosed.filled, by simp [close_current], ?_, fun hne => absurd close_current hne⟩
    · rw [close_current, List.append_nil, hclosed.inOrder]
      simp only [List.flatMap_cons, List.flatMap_nil, List.append_nil, GroupsRow.groups]
      exact congrArg (groups ++ ·) hcolumns
    · show p.close.used = _
      rw [h.close.used_eq]
  · next hover =>
    have hroom : rowHeight fit groupsInRow ≤ capacity fit p.close.sheets.length := not_lt.mp hover
    have hrow : ∀ q : RowPlan, Sound fit groups q →
        q.used + rowHeight fit groupsInRow ≤ capacity fit q.sheets.length →
        Sound fit (groups ++ groupsInRow)
          (q.push ⟨groupsInRow.map ([·]), false, rowHeadHeight fit groupsInRow⟩
            (rowHeight fit groupsInRow)) := by
      intro q hq hfits
      have hpush := hq.push rfl (htall false (rowHeadHeight fit groupsInRow)) hfits
      rwa [GroupsRow.groups, hcolumns] at hpush
    have hclosedUsed : p.close.used = 0 := by
      rw [h.close.used_eq, close_current]
      rfl
    split
    · exact hrow _ h.close (by rw [hclosedUsed, zero_add]; exact hroom)
    · next hstay =>
      refine hrow _ h ?_
      by_cases hcurrent : p.current = []
      · have hclose : p.close = p := if_pos (List.isEmpty_iff.mpr hcurrent)
        rw [hclose] at hclosedUsed hroom
        rw [hclosedUsed, zero_add]
        exact hroom
      · exact not_lt.mp fun hlt => hstay ⟨by simp [hcurrent], hlt⟩

theorem Sound.addRows (h : Sound fit groups p) (hlayout : fit.geometry.layout ≠ .directory)
    (rows : List (List SheetPublisherGroup)) :
    Sound fit (groups ++ rows.flatten) (rows.foldl (RowPlan.addRow fit) p) := by
  induction rows generalizing groups p with
  | nil => simpa using h
  | cons row rows ih =>
    rw [List.flatten_cons, ← List.append_assoc]
    exact ih (h.addRow hlayout row)

end RowPlan

theorem groupRows_flatten {perRow : ℕ} (hpos : 0 < perRow) (groups : List SheetPublisherGroup) :
    (groupRows perRow groups).flatten = groups := by
  induction hn : groups.length using Nat.strong_induction_on generalizing groups with
  | _ n ih =>
    rw [groupRows]
    split
    · next h => simp [h.resolve_right (by omega)]
    · next h =>
      have hne := List.length_pos_of_ne_nil (not_or.mp h).1
      have hless : (groups.drop perRow).length < n := by
        rw [List.length_drop]
        omega
      rw [List.flatten_cons, ih _ hless _ rfl, List.take_append_drop]

theorem planRows_planned (h : fit.Sound) (hlayout : fit.geometry.layout ≠ .directory) :
    Planned fit groups (planRows fit groups).1 := by
  have hrows := RowPlan.Sound.start.addRows hlayout (groupRows fit.geometry.perRow groups)
  rw [List.nil_append, groupRows_flatten h.geometry.perRow_pos] at hrows
  exact hrows.planned

end Plans

/-! ## The size chosen -/

section Sizes

variable {locale : SheetLocale} {layout : GroupsLayout} {groups : List SheetPublisherGroup}
  {measurer : TextMeasurer}

theorem fitAt_sound {size : ℚ} (hsize : 0 ≤ size) : (fitAt locale layout groups measurer size).Sound :=
  ⟨hsize, groupsGeometry_sound layout locale measurer groups.length hsize⟩

theorem fitAt_layout (size : ℚ) :
    (fitAt locale layout groups measurer size).geometry.layout = layout := by
  cases layout <;> rfl

variable (locale layout groups measurer) in
/-- The plan at a size, whether or not every word fits. -/
def planAt (size : ℚ) : SheetPlan :=
  let fit := fitAt locale layout groups measurer size
  let planned := if layout = .directory then planDirectory fit groups else planRows fit groups
  { size, geometry := fit.geometry, sheets := planned.1, pages := planned.2,
    nameColumns := nameColumnsOf fit }

variable (locale layout groups measurer) in
/-- A size at which every word fits, on no more pages than the smallest size takes. The smallest size
sets no bound when some word does not fit there. -/
def Suits (size : ℚ) : Prop :=
  everyWordFits (fitAt locale layout groups measurer size) groups = true ∧
    (everyWordFits (fitAt locale layout groups measurer smallestSize) groups = true →
      (planAt locale layout groups measurer size).pages
        ≤ (planAt locale layout groups measurer smallestSize).pages)

theorem plan_forced (size : ℚ) :
    plan locale layout groups measurer size false = some (planAt locale layout groups measurer size) :=
  rfl

theorem plan_strict (size : ℚ) : plan locale layout groups measurer size true
    = if everyWordFits (fitAt locale layout groups measurer size) groups
      then some (planAt locale layout groups measurer size) else none := by
  cases hfits : everyWordFits (fitAt locale layout groups measurer size) groups <;>
    simp [plan, planAt, hfits]

theorem pages_le_fewest (size : ℚ) :
    (fewestPages locale layout groups measurer).all
        ((planAt locale layout groups measurer size).pages ≤ ·) = true ↔
      (everyWordFits (fitAt locale layout groups measurer smallestSize) groups = true →
        (planAt locale layout groups measurer size).pages
          ≤ (planAt locale layout groups measurer smallestSize).pages) := by
  rw [fewestPages, plan_strict]
  cases hfits : everyWordFits (fitAt locale layout groups measurer smallestSize) groups <;> simp

theorem candidate_eq_some {size : ℚ} {candidate : SheetPlan} :
    (plan locale layout groups measurer size true).filter (fun candidate =>
        (fewestPages locale layout groups measurer).all (candidate.pages ≤ ·)) = some candidate ↔
      Suits locale layout groups measurer size ∧
        candidate = planAt locale layout groups measurer size := by
  rw [plan_strict, Suits, ← pages_le_fewest]
  cases hfits : everyWordFits (fitAt locale layout groups measurer size) groups with
  | false => simp
  | true =>
    rw [if_pos rfl, Option.filter_eq_some_iff]
    constructor
    · rintro ⟨hplan, hpages⟩
      obtain rfl := Option.some.inj hplan
      exact ⟨⟨rfl, by simpa using hpages⟩, rfl⟩
    · rintro ⟨⟨-, hpages⟩, rfl⟩
      exact ⟨rfl, by simpa using hpages⟩

/-- The sizes are tried from the largest down, so the first that suits is the largest. -/
theorem findSome?_greatest {sizes : List ℚ} (hsorted : sizes.Pairwise (· > ·))
    {f : ℚ → Option SheetPlan} {suits : ℚ → Prop} {planned : ℚ → SheetPlan}
    (hf : ∀ size candidate, f size = some candidate ↔ suits size ∧ candidate = planned size) :
    (∃ size, sizes.findSome? f = some (planned size) ∧ IsGreatest {s | s ∈ sizes ∧ suits s} size) ∨
      sizes.findSome? f = none ∧ ∀ size ∈ sizes, ¬suits size := by
  induction sizes with
  | nil => exact .inr ⟨rfl, by simp⟩
  | cons size sizes ih =>
    obtain ⟨hsize, hsizes⟩ := List.pairwise_cons.mp hsorted
    rw [List.findSome?_cons]
    by_cases hsuits : suits size
    · have hcandidate : f size = some (planned size) := (hf size _).mpr ⟨hsuits, rfl⟩
      rw [hcandidate]
      refine .inl ⟨size, rfl, ⟨List.mem_cons_self, hsuits⟩, fun s hs => ?_⟩
      rcases List.mem_cons.mp hs.1 with rfl | hmem
      · exact le_rfl
      · exact (hsize s hmem).le
    · have hnone : f size = none := by
        cases hcandidate : f size with
        | none => rfl
        | some candidate => exact absurd ((hf size candidate).mp hcandidate).1 hsuits
      rw [hnone]
      rcases ih hsizes with ⟨s, hfind, hmem, hbest⟩ | ⟨hfind, hall⟩
      · refine .inl ⟨s, hfind, ⟨List.mem_cons_of_mem size hmem.1, hmem.2⟩, fun t ht => ?_⟩
        rcases List.mem_cons.mp ht.1 with rfl | hmem'
        · exact absurd ht.2 hsuits
        · exact hbest ⟨hmem', ht.2⟩
      · refine .inr ⟨hfind, fun s hs => ?_⟩
        rcases List.mem_cons.mp hs with rfl | hmem'
        · exact hsuits
        · exact hall s hmem'

theorem autoFitSizes_sorted : autoFitSizes.Pairwise (· > ·) := by
  decide +kernel

theorem autoFitSizes_nonneg {size : ℚ} (h : size ∈ autoFitSizes) : 0 ≤ size := by
  have hall : ∀ s ∈ autoFitSizes, (0 : ℚ) ≤ s := by decide +kernel
  exact hall size h

theorem smallestSize_mem : smallestSize ∈ autoFitSizes := by
  decide +kernel

theorem smallestSize_le {size : ℚ} (h : size ∈ autoFitSizes) : smallestSize ≤ size := by
  have hall : ∀ s ∈ autoFitSizes, smallestSize ≤ s := by decide +kernel
  exact hall size h

/-- A plan is returned, at the largest size that suits or else at the smallest. -/
theorem fitGroupsSheet_cases :
    ∃ p, fitGroupsSheet locale layout groups measurer = .ok p ∧ p.size ∈ autoFitSizes ∧
      p.toSheetPlan = planAt locale layout groups measurer p.size ∧
      (p.fallback = false ∧
          IsGreatest {s | s ∈ autoFitSizes ∧ Suits locale layout groups measurer s} p.size ∨
        p.fallback = true ∧ p.size = smallestSize ∧
          ∀ s ∈ autoFitSizes, ¬Suits locale layout groups measurer s) := by
  rw [fitGroupsSheet]
  have hfind := findSome?_greatest autoFitSizes_sorted fun size candidate =>
    @candidate_eq_some locale layout groups measurer size candidate
  rcases hfind with ⟨size, hfind, hbest⟩ | ⟨hfind, hnone⟩
  · simp only [hfind]
    exact ⟨_, rfl, hbest.1.1, rfl, .inl ⟨rfl, hbest⟩⟩
  · simp only [hfind, plan_forced]
    exact ⟨_, rfl, smallestSize_mem, rfl, .inr ⟨rfl, rfl, hnone⟩⟩

/-! ### Typefaces without negative widths -/

theorem role_mono (hwidths : ∀ text weight, 0 ≤ measurer.width text weight) {small large : ℚ}
    (hsize : small ≤ large) :
    maxOf ((leadersLabels locale).map fun label => measurer.width label .regular * small)
      ≤ maxOf ((leadersLabels locale).map fun label => measurer.width label .regular * large) := by
  have hlabel : ∀ label, measurer.width label .regular * small ≤ measurer.width label .regular * large :=
    fun label => mul_le_mul_of_nonneg_left hsize (hwidths label .regular)
  show max _ _ ≤ max _ _
  exact max_le_max (hlabel _) (hlabel _)

/-- Smaller letters fit wherever larger ones do. -/
theorem wordsFit_mono (hwidths : ∀ text weight, 0 ≤ measurer.width text weight) {small large : ℚ}
    {runs : List TextRun} {size size' width room : ℚ} (hsize : size ≤ size') (hroom : width ≤ room)
    (h : wordsFit (fitAt locale layout groups measurer large) runs size' width = true) :
    wordsFit (fitAt locale layout groups measurer small) runs size room = true :=
  decide_eq_true (widestWord_mono hwidths hsize hroom (of_decide_eq_true h))

theorem everyWordFits_mono (hwidths : ∀ text weight, 0 ≤ measurer.width text weight) {small large : ℚ}
    (hsize : small ≤ large)
    (h : everyWordFits (fitAt locale layout groups measurer large) groups = true) :
    everyWordFits (fitAt locale layout groups measurer small) groups = true := by
  have hhead : (fitAt locale layout groups measurer small).geometry.head.size
      ≤ (fitAt locale layout groups measurer large).geometry.head.size := by
    cases layout <;> exact mul_le_mul_of_nonneg_left hsize (by norm_num)
  have hheadRoom : (fitAt locale layout groups measurer large).geometry.head
      = { (fitAt locale layout groups measurer small).geometry.head with
          size := (fitAt locale layout groups measurer large).geometry.head.size } := by
    cases layout <;> rfl
  -- a label in smaller letters leaves the leaders' names more room
  have hleader : (fitAt locale layout groups measurer large).geometry.leaderName
      ≤ (fitAt locale layout groups measurer small).geometry.leaderName := by
    cases layout with
    | directory =>
      have hrole := @role_mono locale measurer hwidths small large hsize
      exact sub_le_sub_left (add_le_add_left hrole 6) _
    | columns => exact le_rfl
    | bands => exact le_rfl
  have hcolumn : (fitAt locale layout groups measurer large).geometry.nameColumn
      = (fitAt locale layout groups measurer small).geometry.nameColumn := by
    cases layout <;> rfl
  simp only [everyWordFits, List.all_eq_true, Bool.and_eq_true] at h ⊢
  intro group hgroup
  obtain ⟨⟨⟨hname, haddress⟩, hleaders⟩, hmembers⟩ := h group hgroup
  rw [hheadRoom] at hname haddress
  refine ⟨⟨⟨?_, ?_⟩, fun leader hl => ?_⟩, fun person hp => ?_⟩
  · exact wordsFit_mono hwidths hhead le_rfl hname
  · exact wordsFit_mono hwidths hsize le_rfl haddress
  · exact wordsFit_mono hwidths hsize hleader (hleaders leader hl)
  · exact wordsFit_mono hwidths hsize hcolumn.le (hmembers person hp)

end Sizes

/-! ## The printed sheet -/

theorem nameColumnsOf_flatten {fit : Fit} (h : fit.Sound) (hids : (fit.groups.map (·.id)).Nodup)
    {group : SheetPublisherGroup} (hgroup : group ∈ fit.groups) :
    (nameColumnsOf fit group).flatten = membersOf fit.locale group := by
  have hfind : fit.groups.find? (·.id = group.id) = some group := by
    cases hasked : fit.groups.find? (·.id = group.id) with
    | none => exact absurd (List.find?_eq_none.mp hasked group hgroup) (by simp)
    | some asked =>
      have hid : asked.id = group.id := by simpa using List.find?_some hasked
      rw [List.inj_on_of_nodup_map hids (List.mem_of_find?_eq_some hasked) hgroup hid]
  rw [nameColumnsOf, hfind]
  exact (isSplit_balancedColumns h.geometry.nameColumns_pos fun person _ =>
    nameHeight_nonneg h person).flatten_eq

/-- **The sheet prints every group once and overfills no page.** Whatever the layout, the typeface and
the groups, a plan is returned: its sheets hold the groups in board order, each with its own people,
and no more than fits the page each begins on, except for an oversized row, which is alone. The size is
the largest that suits. In a typeface without negative widths every word fits at the smallest size
as soon as it does at another, so that size then sets the bound. -/
theorem groups_printed_once (locale : SheetLocale) (layout : GroupsLayout)
    (groups : List SheetPublisherGroup) (measurer : TextMeasurer)
    (hids : (groups.map (·.id)).Nodup) :
    ∃ p, fitGroupsSheet locale layout groups measurer = .ok p ∧
      Planned (fitAt locale layout groups measurer p.size) groups p.sheets ∧
      (∀ group ∈ groups, (p.nameColumns group).flatten = membersOf locale group) ∧
      (p.fallback = false ∧
          IsGreatest {s | s ∈ autoFitSizes ∧ Suits locale layout groups measurer s} p.size ∨
        p.fallback = true ∧ p.size = smallestSize ∧
          ∀ s ∈ autoFitSizes, ¬Suits locale layout groups measurer s) ∧
      ((∀ text weight, 0 ≤ measurer.width text weight) → ∀ s ∈ autoFitSizes,
        everyWordFits (fitAt locale layout groups measurer s) groups = true →
        everyWordFits (fitAt locale layout groups measurer smallestSize) groups = true) := by
  obtain ⟨p, hp, hmem, hplan, hsize⟩ :=
    @fitGroupsSheet_cases locale layout groups measurer
  have hsound : (fitAt locale layout groups measurer p.size).Sound :=
    fitAt_sound (autoFitSizes_nonneg hmem)
  refine ⟨p, hp, ?_, fun group hgroup => ?_, hsize, fun hwidths s hs hfits => ?_⟩
  · have hsheets : p.sheets = (planAt locale layout groups measurer p.size).sheets :=
      congrArg SheetPlan.sheets hplan
    rw [hsheets]
    by_cases hlayout : layout = .directory
    · rw [planAt, if_pos hlayout]
      exact planDirectory_planned hsound ((fitAt_layout p.size).trans hlayout)
    · rw [planAt, if_neg hlayout]
      exact planRows_planned hsound fun h => hlayout ((fitAt_layout p.size).symm.trans h)
  · have hcolumns : p.nameColumns = (planAt locale layout groups measurer p.size).nameColumns :=
      congrArg SheetPlan.nameColumns hplan
    rw [hcolumns]
    exact nameColumnsOf_flatten hsound hids hgroup
  · exact everyWordFits_mono hwidths (smallestSize_le hs) hfits

/-! ### A sheet of two groups -/

def plainLocale : SheetLocale where
  responsibleLabel := "Responsable"
  deputyLabel := "Adjoint"
  anonymizedUser := "Utilisateur anonymisé"
  toUpperCase := String.toUpper
  toLocaleUpperCase := String.toUpper
  localeCompare := compare

/-- Half a point per character, a little more in bold. -/
def evenMeasurer : TextMeasurer where
  width text weight := text.length * (if weight = .bold then 0.58 else 0.5)

def groupOf (id responsible : ℕ) : SheetPublisherGroup where
  id := id
  name := "Groupe Centre"
  adress := "15 avenue Victor Hugo, 75017"
  responsible := ⟨responsible, some "Jean", some "Martin", none⟩
  deputy := none
  members := [⟨responsible + 1, some "Jean", some "Durand", none⟩]

theorem two_groups_printed : ∃ p, fitGroupsSheet plainLocale .bands [groupOf 1 1, groupOf 2 3] evenMeasurer
      = .ok p ∧ p.sheets.flatten.flatMap GroupsRow.groups = [groupOf 1 1, groupOf 2 3] := by
  obtain ⟨p, hp, hplanned, -⟩ := groups_printed_once plainLocale .bands [groupOf 1 1, groupOf 2 3]
    evenMeasurer (by decide)
  exact ⟨p, hp, hplanned.inOrder⟩

end Unitae.Board
