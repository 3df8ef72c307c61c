import Mathlib.Algebra.Field.Rat

/-!
# Unitae — reading a shape out of JSON

A document after `JSON.parse`, and readers that ask a shape of it: a literal, a number, a string, a list, a
tuple of two, a key that may be missing or null. A reader that gets back what a writer wrote does so under
a list as well.
-/

namespace Unitae.Base

/-- What `JSON.parse` returns. An object has a key once. -/
inductive Json where
  | null
  | bool (b : Bool)
  | number (n : Rat)
  | string (s : String)
  | array (items : List Json)
  | object (fields : List (String × Json))

namespace Json

variable {α β : Type}

/-! ## Readers -/

def literal? (expected : String) : Json → Option Unit
  | .string s => if s = expected then some () else none
  | _ => none

def number? : Json → Option Rat
  | .number n => some n
  | _ => none

def string? : Json → Option String
  | .string s => some s
  | _ => none

def object? : Json → Option (List (String × Json))
  | .object fields => some fields
  | _ => none

def array? (read : Json → Option α) : Json → Option (List α)
  | .array items => items.mapM read
  | _ => none

/-- A list of exactly two values. -/
def pair? (read : Json → Option α) : Json → Option (α × α)
  | .array [first, second] =>
    match read first, read second with
    | some a, some b => some (a, b)
    | _, _ => none
  | _ => none

/-- A list of one value at least. -/
def arrayMin1? (read : Json → Option α) (j : Json) : Option { items : List α // items ≠ [] } :=
  match array? read j with
  | none => none
  | some items => if h : items ≠ [] then some ⟨items, h⟩ else none

def get (fields : List (String × Json)) (key : String) : Option Json := fields.lookup key

/-- A key that must be there. -/
def required? (read : Json → Option α) (key : String) (fields : List (String × Json)) : Option α :=
  match get fields key with
  | none => none
  | some j => read j

/-- A key that may be missing. -/
def optional? (read : Json → Option α) (key : String) (fields : List (String × Json)) :
    Option (Option α) :=
  match get fields key with
  | none => some none
  | some j => (read j).map some

/-- A key that may be missing or null. -/
def nullish? (read : Json → Option α) (key : String) (fields : List (String × Json)) :
    Option (Option α) :=
  match get fields key with
  | none => some none
  | some .null => some none
  | some j => (read j).map some

/-! ## Reading back what was written -/

theorem mapM_written {read : Json → Option α} {write : β → Json} {f : β → α} {xs : List β}
    (h : ∀ x ∈ xs, read (write x) = some (f x)) : (xs.map write).mapM read = some (xs.map f) := by
  induction xs with
  | nil => rfl
  | cons x xs ih =>
    have hx : read (write x) = some (f x) := h x (List.mem_cons_self ..)
    have hxs : (xs.map write).mapM read = some (xs.map f) :=
      ih fun y hy => h y (List.mem_cons_of_mem _ hy)
    rw [List.map_cons, List.mapM_cons, hx, hxs]
    rfl

theorem array?_written {read : Json → Option α} {write : β → Json} {f : β → α} {xs : List β}
    (h : ∀ x ∈ xs, read (write x) = some (f x)) :
    array? read (.array (xs.map write)) = some (xs.map f) :=
  mapM_written h

theorem arrayMin1?_written {read : Json → Option α} {j : Json} {items : List α}
    (h : array? read j = some items) (hne : items ≠ []) : arrayMin1? read j = some ⟨items, hne⟩ := by
  unfold arrayMin1?
  simp only [h, hne, ne_eq, not_false_eq_true, dite_true]

end Json

end Unitae.Base
