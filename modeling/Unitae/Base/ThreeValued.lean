import Mathlib.Data.List.Basic

/-!
# Conditions of three values

What a database makes of a condition on a row: a comparison with a null column is neither true nor
false, and a row is selected when its condition is true. The connectives are the strong ones, by which
an unknown part decides nothing.

Quantifiers over related rows are sub-queries, and sub-queries select rows: `someRow` asks for one of
which the condition is true, `noneRow` for no such row, and `everyRow` for no row of which its negation
is true, so that a row of which it is unknown passes.
-/

inductive Truth where
  | yes
  | no
  | unknown
deriving DecidableEq, Repr

namespace Truth

variable {α ρ : Type} {a b : Truth} {l : List Truth}

def ofBool (b : Bool) : Truth := if b then .yes else .no

/-- `NOT`. -/
def neg : Truth → Truth
  | .yes => .no
  | .no => .yes
  | .unknown => .unknown

/-- `AND`. -/
def conj : Truth → Truth → Truth
  | .no, _ => .no
  | _, .no => .no
  | .yes, .yes => .yes
  | _, _ => .unknown

/-- `OR`. -/
def disj : Truth → Truth → Truth
  | .yes, _ => .yes
  | _, .yes => .yes
  | .no, .no => .no
  | _, _ => .unknown

def allOf (l : List Truth) : Truth := l.foldr conj .yes

def anyOf (l : List Truth) : Truth := l.foldr disj .no

/-! ## Columns -/

/-- A comparison with a column that may be null. -/
def compare (column : Option α) (test : α → Bool) : Truth :=
  match column with
  | none => .unknown
  | some value => ofBool (test value)

/-- `column = value`. -/
def equals [DecidableEq α] (column : Option α) (value : α) : Truth := compare column (· == value)

def isNull (column : Option α) : Truth := ofBool column.isNone

def isNotNull (column : Option α) : Truth := ofBool column.isSome

/-! ## Related rows -/

def someRow (rows : List ρ) (condition : ρ → Truth) : Truth :=
  ofBool (rows.any fun row => condition row == .yes)

def noneRow (rows : List ρ) (condition : ρ → Truth) : Truth :=
  ofBool (!rows.any fun row => condition row == .yes)

def everyRow (rows : List ρ) (condition : ρ → Truth) : Truth :=
  ofBool (!rows.any fun row => (condition row).neg == .yes)

/-! ## When a condition is true, and when it is false -/

@[simp] theorem ofBool_eq_yes {b : Bool} : ofBool b = .yes ↔ b = true := by cases b <;> decide

@[simp] theorem ofBool_eq_no {b : Bool} : ofBool b = .no ↔ b = false := by cases b <;> decide

@[simp] theorem neg_eq_yes : a.neg = .yes ↔ a = .no := by cases a <;> decide

@[simp] theorem neg_eq_no : a.neg = .no ↔ a = .yes := by cases a <;> decide

@[simp] theorem conj_eq_yes : a.conj b = .yes ↔ a = .yes ∧ b = .yes := by cases a <;> cases b <;> decide

@[simp] theorem conj_eq_no : a.conj b = .no ↔ a = .no ∨ b = .no := by cases a <;> cases b <;> decide

@[simp] theorem disj_eq_yes : a.disj b = .yes ↔ a = .yes ∨ b = .yes := by cases a <;> cases b <;> decide

@[simp] theorem disj_eq_no : a.disj b = .no ↔ a = .no ∧ b = .no := by cases a <;> cases b <;> decide

theorem allOf_eq_yes : allOf l = .yes ↔ ∀ x ∈ l, x = .yes := by
  induction l with
  | nil => simp [allOf]
  | cons x l ih => rw [List.forall_mem_cons, ← ih, ← conj_eq_yes]; rfl

theorem allOf_eq_no : allOf l = .no ↔ ∃ x ∈ l, x = .no := by
  induction l with
  | nil => simp [allOf]
  | cons x l ih => rw [List.exists_mem_cons_iff, ← ih, ← conj_eq_no]; rfl

theorem anyOf_eq_yes : anyOf l = .yes ↔ ∃ x ∈ l, x = .yes := by
  induction l with
  | nil => simp [anyOf]
  | cons x l ih => rw [List.exists_mem_cons_iff, ← ih, ← disj_eq_yes]; rfl

theorem anyOf_eq_no : anyOf l = .no ↔ ∀ x ∈ l, x = .no := by
  induction l with
  | nil => simp [anyOf]
  | cons x l ih => rw [List.forall_mem_cons, ← ih, ← disj_eq_no]; rfl

theorem compare_eq_yes {column : Option α} {test : α → Bool} :
    compare column test = .yes ↔ ∃ value, column = some value ∧ test value = true := by
  cases column with
  | none => simp [compare]
  | some value => simp [compare]

theorem compare_eq_no {column : Option α} {test : α → Bool} :
    compare column test = .no ↔ ∃ value, column = some value ∧ test value = false := by
  cases column with
  | none => simp [compare]
  | some value => simp [compare]

theorem someRow_eq_yes {rows : List ρ} {condition : ρ → Truth} :
    someRow rows condition = .yes ↔ ∃ row ∈ rows, condition row = .yes := by
  simp [someRow]

theorem noneRow_eq_yes {rows : List ρ} {condition : ρ → Truth} :
    noneRow rows condition = .yes ↔ ∀ row ∈ rows, condition row ≠ .yes := by
  simp [noneRow]

theorem everyRow_eq_yes {rows : List ρ} {condition : ρ → Truth} :
    everyRow rows condition = .yes ↔ ∀ row ∈ rows, condition row ≠ .no := by
  simp [everyRow]

end Truth
