import Mathlib.Data.Fintype.Defs
import Mathlib.Logic.Function.Basic

/-!
# Where objects

A where object gives some of a query's keys a condition, and selects the rows that meet the
condition of every key it has. Objects are put together by writing one key
(`{ ...w, [key]: value }`, `set`) and by spreading one object over another (`{ ...w, ...v }`,
`spread`). Either way a key holds one condition: what is written last replaces what was there.

The lemmas say what a row selected by the result is known to meet. Nothing is lost where the keys
differ, nor where the condition written implies the one it replaces.
-/

/-- For each key, the condition the object has for it. -/
abbrev WhereObject (κ : Type) (V : κ → Type) := (k : κ) → Option (V k)

namespace WhereObject

variable {κ α : Type} {V : κ → Type} {means : (k : κ) → V k → α → Prop}
  {w v : WhereObject κ V} {x : α}

def empty : WhereObject κ V := fun _ => none

/-- `{ ...w, [key]: value }`. -/
def set [DecidableEq κ] (w : WhereObject κ V) (key : κ) (value : V key) : WhereObject κ V :=
  Function.update w key (some value)

/-- `{ ...w, ...v }`. -/
def spread (w v : WhereObject κ V) : WhereObject κ V := fun key => (v key).orElse fun _ => w key

/-- The row meets every condition of the object; `means` says what a condition asks of a row. -/
def Selects (means : (k : κ) → V k → α → Prop) (w : WhereObject κ V) (x : α) : Prop :=
  ∀ key, ∀ value ∈ w key, means key value x

instance [Fintype κ] [∀ k value x, Decidable (means k value x)] :
    Decidable (Selects means w x) :=
  inferInstanceAs (Decidable (∀ key, ∀ value ∈ w key, means key value x))

@[simp] theorem selects_empty : Selects means empty x := by
  intro key value hvalue
  exact absurd hvalue (by simp [empty])

/-! ## Writing a key -/

variable [DecidableEq κ]

@[simp] theorem set_self {key : κ} {value : V key} : w.set key value key = some value := by
  simp [set]

@[simp] theorem set_of_ne {key other : κ} {value : V key} (h : other ≠ key) :
    w.set key value other = w other := by
  simp [set, h]

/-- The condition written is met, and so is every other. -/
theorem selects_set {key : κ} {value : V key} :
    Selects means (w.set key value) x ↔
      means key value x ∧ ∀ other, other ≠ key → ∀ u ∈ w other, means other u x := by
  constructor
  · intro h
    constructor
    · exact h key value (by simp)
    · intro other hne u hu
      exact h other u (by simpa [hne] using hu)
  · intro ⟨hwritten, hrest⟩ other u hu
    by_cases heq : other = key
    · subst heq
      have hvalue : value = u := by simpa using hu
      rwa [← hvalue]
    · exact hrest other heq u (by simpa [heq] using hu)

/-- A key the object did not have adds its condition. -/
theorem selects_set_of_fresh {key : κ} {value : V key} (hfresh : w key = none) :
    Selects means (w.set key value) x ↔ Selects means w x ∧ means key value x := by
  rw [selects_set, and_comm]
  apply and_congr_left
  intro _
  constructor
  · intro hrest other u hu
    apply hrest other ?_ u hu
    intro heq
    subst heq
    exact absurd hu (by simp [hfresh])
  · intro h other _
    exact h other

@[simp] theorem selects_set_empty {key : κ} {value : V key} :
    Selects means (empty.set key value) x ↔ means key value x := by
  rw [selects_set_of_fresh rfl]
  exact and_iff_right selects_empty

/-- Nothing is lost where the condition written implies the one it replaces. -/
theorem selects_of_set {key : κ} {value : V key} (h : Selects means (w.set key value) x)
    (himp : ∀ u ∈ w key, means key value x → means key u x) : Selects means w x := by
  obtain ⟨hwritten, hrest⟩ := selects_set.mp h
  intro other u hu
  by_cases heq : other = key
  · subst heq
    exact himp u hu hwritten
  · exact hrest other heq u hu

/-! ## Steps -/

omit [DecidableEq κ] in
/-- Each step selects only what the object before it selects, and what it would select alone. -/
def EachExtends (means : (k : κ) → V k → α → Prop) (x : α) :
    List (WhereObject κ V → WhereObject κ V) → WhereObject κ V → Prop
  | [], _ => True
  | step :: steps, w =>
    (Selects means (step w) x → Selects means w x ∧ Selects means (step empty) x) ∧
      EachExtends means x steps (step w)

omit [DecidableEq κ] in
/-- **Steps that extend lose nothing**: what all of them select, each selects alone. -/
theorem selects_alone {steps : List (WhereObject κ V → WhereObject κ V)}
    (hsteps : EachExtends means x steps w)
    (h : Selects means (steps.foldl (fun w step => step w) w) x) :
    Selects means w x ∧ ∀ step ∈ steps, Selects means (step empty) x := by
  induction steps generalizing w with
  | nil => exact ⟨h, fun _ hstep => absurd hstep (by simp)⟩
  | cons step rest ih =>
    obtain ⟨hfirst, hrest⟩ := hsteps
    obtain ⟨hafter, hothers⟩ := ih hrest h
    obtain ⟨hbefore, halone⟩ := hfirst hafter
    refine ⟨hbefore, ?_⟩
    intro other hother
    cases List.mem_cons.mp hother with
    | inl heq => rwa [heq]
    | inr hmem => exact hothers other hmem

/-! ## Spreading -/

omit [DecidableEq κ]

/-- What is spread last is met; of the other, what it did not overwrite. -/
theorem selects_spread :
    Selects means (w.spread v) x ↔
      Selects means v x ∧ ∀ key, v key = none → ∀ value ∈ w key, means key value x := by
  constructor
  · intro h
    constructor
    · intro key value hvalue
      exact h key value (by simp [spread, Option.mem_def.mp hvalue])
    · intro key hkey value hvalue
      exact h key value (by simpa [spread, hkey] using hvalue)
  · intro ⟨hlast, hfirst⟩ key value hvalue
    cases hkey : v key with
    | none => exact hfirst key hkey value (by simpa [spread, hkey] using hvalue)
    | some written => exact hlast key value (by simpa [spread, hkey] using hvalue)

/-- Objects that share no key are both kept. -/
theorem selects_spread_of_disjoint (h : ∀ key, v key = none ∨ w key = none) :
    Selects means (w.spread v) x ↔ Selects means w x ∧ Selects means v x := by
  rw [selects_spread, and_comm]
  apply and_congr_left
  intro hlast
  constructor
  · intro hfirst key value hvalue
    cases h key with
    | inl hfree => exact hfirst key hfree value hvalue
    | inr hfree => exact absurd hvalue (by simp [hfree])
  · intro hfirst key _
    exact hfirst key

@[simp] theorem empty_spread : empty.spread w = w := by
  funext key
  cases hkey : w key <;> simp [spread, empty, hkey]

/-- An object is lost when the one spread over it writes all its keys. -/
theorem spread_spread_of_covered {u : WhereObject κ V} (h : ∀ key, v key = none → u key = none) :
    (w.spread u).spread v = w.spread v := by
  funext key
  cases hkey : v key with
  | none => simp [spread, hkey, h key hkey]
  | some written => simp [spread, hkey]

end WhereObject
