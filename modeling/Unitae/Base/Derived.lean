import Mathlib.Logic.Basic
import Mathlib.Data.List.Basic

/-!
# Columns kept up to date

A column of a table that is computed from other rows and stored: a cache. `UpToDate … stale` says that
each row the cache is kept for, its key not among the `stale` ones, holds what is computed for it now. A
write to the other rows adds the keys it touches to `stale`, a recomputation takes its key out; the
cache is right when no stale key is left.
-/

section Derived

variable {α κ γ : Type}

/-- The rows of `kept` whose key is not stale hold what is computed for their key. -/
def UpToDate (key : α → κ) (cached : α → γ) (kept : α → Prop) (computed : κ → γ) (rows : List α)
    (stale : κ → Prop) : Prop :=
  ∀ a ∈ rows, kept a → ¬stale (key a) → cached a = computed (key a)

namespace UpToDate

variable {key : α → κ} {cached : α → γ} {kept : α → Prop} {computed computed' : κ → γ}
  {rows rows' : List α} {stale stale' : κ → Prop}

/-- More keys may be stale. -/
theorem mono (h : UpToDate key cached kept computed rows stale)
    (hstale : ∀ a ∈ rows, kept a → stale (key a) → stale' (key a)) :
    UpToDate key cached kept computed rows stale' :=
  fun a ha hkept hnot => h a ha hkept fun hold => hnot (hstale a ha hkept hold)

/-- A write to what is computed from: the keys it changes something for are stale. -/
theorem of_computed (h : UpToDate key cached kept computed rows stale)
    (hsame : ∀ a ∈ rows, kept a → ¬stale' (key a) →
      ¬stale (key a) ∧ computed' (key a) = computed (key a)) :
    UpToDate key cached kept computed' rows stale' := by
  intro a ha hkept hnot
  have hfresh := hsame a ha hkept hnot
  rw [hfresh.2]
  exact h a ha hkept hfresh.1

/-- Rows are dropped. -/
theorem subset (h : UpToDate key cached kept computed rows stale) (hrows : ∀ a ∈ rows', a ∈ rows) :
    UpToDate key cached kept computed rows' stale :=
  fun a ha => h a (hrows a ha)

/-- Rows are added: they are right, or their key is stale. -/
theorem append (h : UpToDate key cached kept computed rows stale)
    (hnew : UpToDate key cached kept computed rows' stale) :
    UpToDate key cached kept computed (rows ++ rows') stale := by
  intro a ha
  cases List.mem_append.mp ha with
  | inl hold => exact h a hold
  | inr hnew' => exact hnew a hnew'

theorem append_one (h : UpToDate key cached kept computed rows stale) {a : α}
    (hnew : kept a → ¬stale (key a) → cached a = computed (key a)) :
    UpToDate key cached kept computed (rows ++ [a]) stale := by
  apply h.append
  intro a' ha'
  rw [List.mem_singleton.mp ha']
  exact hnew

/-- A rewrite of other columns. -/
theorem rewrite (h : UpToDate key cached kept computed rows stale) {sel : α → Prop} [DecidablePred sel]
    {f : α → α} (hkey : ∀ a, key (f a) = key a) (hcached : ∀ a, cached (f a) = cached a)
    (hkept : ∀ a, kept (f a) → kept a) :
    UpToDate key cached kept computed (rows.map fun a => if sel a then f a else a) stale := by
  intro b hb hkeptb hnot
  obtain ⟨a, ha, rfl⟩ := List.mem_map.mp hb
  by_cases hsel : sel a
  · rw [if_pos hsel] at hkeptb hnot ⊢
    rw [hkey, hcached]
    exact h a ha (hkept a hkeptb) (by rwa [hkey] at hnot)
  · rw [if_neg hsel] at hkeptb hnot ⊢
    exact h a ha hkeptb hnot

/-- **A recomputation** takes its key out of the stale ones. -/
theorem refresh [DecidableEq κ] (h : UpToDate key cached kept computed rows stale) {f : α → α} {k : κ}
    (hkey : ∀ a, key (f a) = key a) (hvalue : ∀ a, cached (f a) = computed k) :
    UpToDate key cached kept computed (rows.map fun a => if key a = k then f a else a)
      fun k' => stale k' ∧ k' ≠ k := by
  intro b hb hkeptb hnot
  obtain ⟨a, ha, rfl⟩ := List.mem_map.mp hb
  by_cases hk : key a = k
  · rw [if_pos hk, hkey, hk]
    exact hvalue a
  · rw [if_neg hk] at hkeptb hnot ⊢
    exact h a ha hkeptb fun hstale => hnot ⟨hstale, hk⟩

end UpToDate

end Derived
