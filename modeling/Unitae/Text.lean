import Mathlib.Logic.Basic

/-!
# Unitae — the string operations of the services

JavaScript's `trim` and the slug regular expressions are written out. What rests on the Unicode
tables of the JavaScript runtime (`normalize('NFD')`, `\p{Diacritic}`, `toLowerCase`) is a
parameter, so that every result holds whatever those tables say.
-/

namespace Unitae

/-- A string that JavaScript takes for true. -/
def isTruthy : Option String → Bool
  | none => false
  | some s => s != ""

/-- The table-driven string functions of the runtime. -/
structure Unicode where
  normalizeNFD : String → String
  stripDiacritic : String → String
  toLowerCase : String → String

/-- The tables as they act on lower-case ASCII text, which they leave alone. -/
def Unicode.lowerAscii : Unicode where
  normalizeNFD := id
  stripDiacritic := id
  toLowerCase := id

/-- The white space and line terminators that `String.prototype.trim` strips. -/
def isTrimmed (c : Char) : Bool :=
  [0x9, 0xA, 0xB, 0xC, 0xD, 0x20, 0xA0, 0x1680, 0x2028, 0x2029, 0x202F, 0x205F, 0x3000,
    0xFEFF].contains c.toNat || (0x2000 ≤ c.toNat && c.toNat ≤ 0x200A)

/-- Drop from both ends what satisfies `p`. -/
def stripEnds (p : Char → Bool) (cs : List Char) : List Char :=
  ((cs.dropWhile p).reverse.dropWhile p).reverse

/-- `String.prototype.trim`. -/
def trim (s : String) : String := String.ofList (stripEnds isTrimmed s.toList)

/-- `[a-z0-9]`. -/
def isSlugChar (c : Char) : Bool := ('a' ≤ c && c ≤ 'z') || ('0' ≤ c && c ≤ '9')

/-- `.replace(/[^a-z0-9]+/g, '-')`: each run of other characters becomes one dash. -/
def dashRuns : Bool → List Char → List Char
  | _, [] => []
  | inRun, c :: cs =>
    if isSlugChar c then c :: dashRuns false cs
    else if inRun then dashRuns true cs
    else '-' :: dashRuns true cs

/-- `slugifyRoleKey`. -/
def slugifyRoleKey (u : Unicode) (name : String) : String :=
  let folded := u.toLowerCase (u.stripDiacritic (u.normalizeNFD name))
  String.ofList (stripEnds (· == '-') (dashRuns false folded.toList))

example : slugifyRoleKey .lowerAscii (trim "  sono (salle 2) ") = "sono-salle-2" := by decide

end Unitae
