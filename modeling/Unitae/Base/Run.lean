import Mathlib.Logic.Basic

/-!
# Runs of a step function

The states a system reaches when its steps are taken in any order, each step under a guard
`ok state action`. `Reach.invariant` is the one induction every safety result rests on: what holds
at the start and is kept by each guarded step holds in every state reached.
-/

/-- The states reached from `start` by steps that meet the guard `ok` in the state they start from. -/
inductive Reach {σ α : Type} (step : σ → α → σ) (ok : σ → α → Prop) (start : σ) : σ → Prop where
  | refl : Reach step ok start start
  | step {s : σ} (a : α) (hs : Reach step ok start s) (ha : ok s a) : Reach step ok start (step s a)

/-- Each of the steps meets its guard where it is taken. -/
def Guarded {σ α : Type} (step : σ → α → σ) (ok : σ → α → Prop) : σ → List α → Prop
  | _, [] => True
  | s, a :: as => ok s a ∧ Guarded step ok (step s a) as

instance Guarded.decidable {σ α : Type} (step : σ → α → σ) (ok : σ → α → Prop)
    [∀ s a, Decidable (ok s a)] : ∀ s as, Decidable (Guarded step ok s as)
  | _, [] => inferInstanceAs (Decidable True)
  | s, a :: as =>
    have := Guarded.decidable step ok (step s a) as
    inferInstanceAs (Decidable (_ ∧ _))

/-- **The guard is exact** when, from a state that is safe, a step that may be taken is safe just when its
guard holds: then a run of such steps stays safe throughout just when each of them meets the guard. -/
theorem guarded_iff_safe_of {σ α : Type} {step : σ → α → σ} {given ok : σ → α → Prop} {inv safe : σ → Prop}
    (hinv : ∀ s a, inv s → given s a → inv (step s a))
    (hsafe : ∀ s a, inv s → safe s → given s a → (safe (step s a) ↔ ok s a)) {s : σ} {as : List α}
    (hs : inv s) (h₀ : safe s) (hgiven : Guarded step given s as) :
    (∀ n, safe ((as.take n).foldl step s)) ↔ Guarded step ok s as := by
  induction as generalizing s with
  | nil =>
    refine iff_of_true (fun n => ?_) trivial
    rw [List.take_nil]
    exact h₀
  | cons a as ih =>
    obtain ⟨hfirst, hrest⟩ := hgiven
    constructor
    · intro h
      have ha : safe (step s a) := h 1
      exact ⟨(hsafe s a hs h₀ hfirst).mp ha, (ih (hinv s a hs hfirst) ha hrest).mp fun n => h (n + 1)⟩
    · intro h n
      have ha : safe (step s a) := (hsafe s a hs h₀ hfirst).mpr h.1
      cases n with
      | zero => exact h₀
      | succ n => exact (ih (hinv s a hs hfirst) ha hrest).mpr h.2 n

theorem guarded_true {σ α : Type} (step : σ → α → σ) (s : σ) (as : List α) :
    Guarded step (fun _ _ => True) s as := by
  induction as generalizing s with
  | nil => trivial
  | cons a as ih => exact ⟨trivial, ih (step s a)⟩

/-- The same of a system whose steps may be taken at any time. -/
theorem guarded_iff_safe {σ α : Type} {step : σ → α → σ} {ok : σ → α → Prop} {inv safe : σ → Prop}
    (hinv : ∀ s a, inv s → inv (step s a))
    (hsafe : ∀ s a, inv s → safe s → (safe (step s a) ↔ ok s a)) {s : σ} {as : List α} (hs : inv s)
    (h₀ : safe s) : (∀ n, safe ((as.take n).foldl step s)) ↔ Guarded step ok s as :=
  guarded_iff_safe_of (fun s a hs _ => hinv s a hs) (fun s a hs h₀ _ => hsafe s a hs h₀) hs h₀
    (guarded_true step s as)

namespace Reach

variable {σ α : Type} {step : σ → α → σ} {ok ok' : σ → α → Prop} {start s : σ}

/-- **The invariant rule.** -/
theorem invariant {I : σ → Prop} (h₀ : I start)
    (hstep : ∀ s a, I s → ok s a → I (step s a)) (h : Reach step ok start s) : I s := by
  induction h with
  | refl => exact h₀
  | step a _ ha ih => exact hstep _ a ih ha

/-- Two steps whose guards hold where they are taken. -/
theorem two {a b : α} (ha : ok start a) (hb : ok (step start a) b) :
    Reach step ok start (step (step start a) b) :=
  .step b (.step a .refl ha) hb

theorem one {a : α} (ha : ok start a) : Reach step ok start (step start a) :=
  .step a .refl ha

theorem trans {t : σ} (h : Reach step ok start s) (h' : Reach step ok s t) :
    Reach step ok start t := by
  induction h' with
  | refl => exact h
  | step a _ ha ih => exact .step a ih ha

/-- A list of steps, each under its guard. -/
theorem foldl {as : List α} (h : Guarded step ok start as) :
    Reach step ok start (as.foldl step start) := by
  induction as generalizing start with
  | nil => exact .refl
  | cons a as ih => exact (Reach.one h.1).trans (ih h.2)

end Reach
