import Mathlib.Algebra.Order.Ring.Rat
import Mathlib.Data.Rat.Floor
import Mathlib.Order.Defs.LinearOrder
import Unitae.Dates
import Unitae.Text

/-!
# Unitae — names on the printable sheets

The text a sheet prints and how much room it takes (`sheet-text.ts`, `sheet-page.ts`,
`board-roster.ts`). Sizes and widths are exact. The typeface is a `TextMeasurer`; the messages of the
interface, the tables behind upper case and the collation of names are a `SheetLocale`.
-/

namespace Unitae.Board

/-! ## Measuring text -/

inductive TextWeight where
  | regular | bold
deriving DecidableEq, Repr

structure TextRun where
  text : String
  weight : TextWeight

/-- The width of a text at one point. -/
structure TextMeasurer where
  width : String → TextWeight → ℚ

/-- `Math.max` of numbers; the sheets never ask for it of none. -/
def maxOf : List ℚ → ℚ
  | [] => 0
  | x :: xs => xs.foldl max x

/-- The spaces a line may break at. -/
def isBreak (c : Char) : Bool := c = ' ' || c = '\t' || c = '\n'

/-- `run.text.split(BREAKS).filter(Boolean)`. -/
def words (run : TextRun) : List String :=
  ((run.text.toList.splitOnP isBreak).filter (· ≠ [])).map String.ofList

structure WrappedLine where
  text : String
  width : ℚ

/-- Where `wrapLines` stands: the full lines, the words of the current one and its width. -/
structure Wrapping where
  lines : List WrappedLine
  current : List String
  x : ℚ

def Wrapping.addWord (w : Wrapping) (space width wordWidth : ℚ) (word : String) : Wrapping :=
  if 0 < w.x ∧ width < w.x + space + wordWidth then
    { lines := w.lines ++ [⟨String.intercalate " " w.current, w.x⟩], current := [word], x := wordWidth }
  else
    { w with current := w.current ++ [word], x := w.x + (if 0 < w.x then space else 0) + wordWidth }

def wrapLines (runs : List TextRun) (measurer : TextMeasurer) (size width : ℚ) : List WrappedLine :=
  let space := measurer.width " " .regular * size
  let start : Wrapping := { lines := [], current := [], x := 0 }
  let w := runs.foldl (fun w run => (words run).foldl (fun w word =>
    w.addWord space width (measurer.width word run.weight * size) word) w) start
  w.lines ++ [⟨String.intercalate " " w.current, w.x⟩]

def lineCount (runs : List TextRun) (measurer : TextMeasurer) (size width : ℚ) : ℕ :=
  (wrapLines runs measurer size width).length

def widestWord (runs : List TextRun) (measurer : TextMeasurer) (size : ℚ) : ℚ :=
  maxOf (0 :: runs.flatMap fun run => (words run).map fun word =>
    measurer.width word run.weight * size)

/-! ## The people of a group -/

/-- The messages in the reader's language and the runtime's tables for case and collation. -/
structure SheetLocale where
  responsibleLabel : String
  deputyLabel : String
  anonymizedUser : String
  toUpperCase : String → String
  toLocaleUpperCase : String → String
  /-- `left.localeCompare(right, undefined, { sensitivity: 'base' })`. -/
  localeCompare : String → String → Ordering

/-- The invisible code points of `INVISIBLE_RE`. -/
def isInvisible (c : Char) : Bool :=
  let n := c.toNat
  n = 0xAD || n = 0x180E || (0x200B ≤ n && n ≤ 0x200D) || n = 0x2060 || (0x202A ≤ n && n ≤ 0x202E)
    || (0x2066 ≤ n && n ≤ 0x2069) || n = 0xFEFF || n = 0x34F

def sanitizeText (input : String) : String := String.ofList (input.toList.filter (!isInvisible ·))

def formatGroupName (locale : SheetLocale) (name : String) : String := locale.toLocaleUpperCase name

structure BoardPerson where
  id : ℕ
  firstname : Option String
  lastname : Option String
  anonymizedAt : Option Instant
deriving DecidableEq

inductive BoardPersonName where
  | named (firstname lastname : Option String) (plain : String)
  | anonymized (plain : String)
  | empty (plain : String)

def formatBoardPersonName (locale : SheetLocale) (person : BoardPerson) : BoardPersonName :=
  if person.anonymizedAt.isSome then .anonymized locale.anonymizedUser
  else if !isTruthy person.firstname && !isTruthy person.lastname then .empty "—"
  else
    let lastname := person.lastname.map locale.toUpperCase
    .named person.firstname lastname (String.intercalate " "
      (([person.firstname, lastname].filter isTruthy).map (·.getD "")))

def boardPersonNameRuns (locale : SheetLocale) (person : BoardPerson) : List TextRun :=
  match formatBoardPersonName locale person with
  | .anonymized plain | .empty plain => [⟨sanitizeText plain, .regular⟩]
  | .named firstname lastname _ =>
    (if isTruthy firstname then [⟨sanitizeText (firstname.getD ""), .regular⟩] else [])
      ++ (if isTruthy lastname then [⟨sanitizeText (lastname.getD ""), .bold⟩] else [])

structure SheetPublisherGroup where
  id : ℕ
  name : String
  adress : String
  responsible : BoardPerson
  deputy : Option BoardPerson
  members : List BoardPerson
deriving DecidableEq

/-- `byId.set(person.id, person)`: a key keeps the place it was first set at. -/
def setById (byId : List BoardPerson) (person : BoardPerson) : List BoardPerson :=
  if byId.any (·.id = person.id) then byId.map fun p => if p.id = person.id then person else p
  else byId ++ [person]

/-- By last name, then by first name. -/
def comparePeople (locale : SheetLocale) (a b : BoardPerson) : Ordering :=
  (locale.localeCompare (a.lastname.getD "") (b.lastname.getD "")).then
    (locale.localeCompare (a.firstname.getD "") (b.firstname.getD ""))

def buildGroupRoster (locale : SheetLocale) (group : SheetPublisherGroup) : List BoardPerson :=
  (((group.responsible :: group.deputy.toList) ++ group.members).foldl setById []).mergeSort
    fun a b => (comparePeople locale a b).isLE

def leadersOf (locale : SheetLocale) (group : SheetPublisherGroup) : List (String × BoardPerson) :=
  (locale.responsibleLabel, group.responsible)
    :: (group.deputy.map (locale.deputyLabel, ·)).toList

/-- Everyone in the group but its leaders. -/
def membersOf (locale : SheetLocale) (group : SheetPublisherGroup) : List BoardPerson :=
  let leaderIds := (leadersOf locale group).map (·.2.id)
  (buildGroupRoster locale group).filter fun person => !leaderIds.contains person.id

def groupSheetName (locale : SheetLocale) (group : SheetPublisherGroup) : String :=
  sanitizeText (formatGroupName locale group.name)

/-! ## The page -/

structure Box where
  width : ℚ
  height : ℚ

inductive SheetOrientation where
  | portrait | landscape
deriving DecidableEq, Repr

/-- The printable area of an A4 page, inside margins of 28 above, 30 below and 36 beside. -/
def sheetContentBox : SheetOrientation → Box
  | .portrait => ⟨595.28 - 2 * 36, 841.89 - 28 - 30⟩
  | .landscape => ⟨841.89 - 2 * 36, 595.28 - 28 - 30⟩

/-- The text sizes a sheet may take, largest first. -/
def autoFitSizes : List ℚ := [12, 11.5, 11, 10.5, 10, 9.5, 9]

def safeFill : ℚ := 0.97

/-- Congregation at 10 points, title at 20, padding, rule and gap. -/
def mastheadHeight : ℚ := 10 * 1.2 + 1 + 20 * 1.2 + 6 + 2.5 + 10

/-- The rule above an entry, padding included. -/
def entryRuleHeight : ℚ := 1 + 6

/-! ## Bounds -/

theorem le_foldl_max {a : ℚ} {xs : List ℚ} {x : ℚ} (h : a ≤ x) : a ≤ xs.foldl max x := by
  induction xs generalizing x with
  | nil => exact h
  | cons y ys ih => exact ih (h.trans (le_max_left x y))

theorem maxOf_zero_nonneg (xs : List ℚ) : 0 ≤ maxOf (0 :: xs) := le_foldl_max le_rfl

theorem foldl_max_le {b : ℚ} {xs : List ℚ} {x : ℚ} :
    xs.foldl max x ≤ b ↔ x ≤ b ∧ ∀ y ∈ xs, y ≤ b := by
  induction xs generalizing x with
  | nil => simp
  | cons y ys ih => simp [ih, and_assoc]

/-- The widest word is no wider than `width` when none of the words is. -/
theorem widestWord_le {runs : List TextRun} {measurer : TextMeasurer} {size width : ℚ} :
    widestWord runs measurer size ≤ width ↔ 0 ≤ width ∧
      ∀ run ∈ runs, ∀ word ∈ words run, measurer.width word run.weight * size ≤ width := by
  rw [widestWord, maxOf, foldl_max_le]
  simp only [List.mem_flatMap, List.mem_map, forall_exists_index, and_imp]
  constructor
  · intro h
    exact ⟨h.1, fun run hrun word hword => h.2 _ run hrun word hword rfl⟩
  · intro h
    refine ⟨h.1, fun y run hrun word hword hy => ?_⟩
    rw [← hy]
    exact h.2 run hrun word hword

/-- Smaller letters are no wider, in a typeface without negative widths. -/
theorem widestWord_mono {runs : List TextRun} {measurer : TextMeasurer} {small large width room : ℚ}
    (hwidths : ∀ text weight, 0 ≤ measurer.width text weight) (hsize : small ≤ large)
    (hroom : width ≤ room) (h : widestWord runs measurer large ≤ width) :
    widestWord runs measurer small ≤ room := by
  obtain ⟨h₀, hwords⟩ := widestWord_le.mp h
  refine widestWord_le.mpr ⟨h₀.trans hroom, fun run hrun word hword => ?_⟩
  calc measurer.width word run.weight * small
      ≤ measurer.width word run.weight * large :=
        mul_le_mul_of_nonneg_left hsize (hwidths word run.weight)
    _ ≤ width := hwords run hrun word hword
    _ ≤ room := hroom

end Unitae.Board
