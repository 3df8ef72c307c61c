import Mathlib.Data.Int.LeastGreatest
import Mathlib.Order.Bounds.Basic
import Mathlib.Tactic.Common

/-!
# Runs that end at the newest position

Positions on a line carry marks, some of them good; the positions between may carry none. A run goes
down from `top` through good marks and through unmarked positions that have a good mark on either
side within the run. `RunStart` names where the longest run starts, and says how far a walk gets that
fills an unmarked position as soon as some good mark lies anywhere below.
-/

variable {good marked : ℤ → Prop} {top : ℤ}

/-- The `n` positions down from `top` are a run. -/
def IsRun (good marked : ℤ → Prop) (top : ℤ) (n : ℕ) : Prop :=
  ∀ i < n, good (top - i) ∨
    ¬marked (top - i) ∧ (∃ j < i, good (top - j)) ∧ ∃ j < n, i < j ∧ good (top - j)

/-- A walk down from `top` takes `n` positions. -/
def WalkTakes (takes : ℤ → Prop) (top : ℤ) (n : ℕ) : Prop :=
  (∀ i < n, takes (top - i)) ∧ ¬takes (top - n)

theorem WalkTakes.unique {takes : ℤ → Prop} {m n : ℕ} (hm : WalkTakes takes top m)
    (hn : WalkTakes takes top n) : m = n := by
  rcases Nat.lt_trichotomy m n with hlt | heq | hgt
  · exact absurd (hn.1 m hlt) hm.2
  · exact heq
  · exact absurd (hm.1 n hgt) hn.2

/-- A good mark, or no mark while `lowest` is further down. -/
def Fills (good marked : ℤ → Prop) (lowest c : ℤ) : Prop :=
  (marked c → good c) ∧ (¬marked c → lowest < c)

/-- `start` is good, only good marks lie from there to `top`, and another mark parts it from every good
one below. -/
structure RunStart (good marked : ℤ → Prop) (top start : ℤ) : Prop where
  good_start : good start
  le_top : start ≤ top
  clear : ∀ c, start ≤ c → c ≤ top → marked c → good c
  parted : ∀ c < start, good c → ∃ other, c < other ∧ other < start ∧ marked other ∧ ¬good other

/-- A run starts somewhere, when the marks have a lowest good one. -/
theorem exists_runStart {lowest : ℤ} (htop : good top) (hlowest : ∀ c, good c → lowest ≤ c) :
    ∃ start, RunStart good marked top start := by
  obtain ⟨start, ⟨hgood, hle, hclear⟩, hleast⟩ := Int.exists_least_of_bdd
    (P := fun c => good c ∧ c ≤ top ∧ ∀ d, c ≤ d → d ≤ top → marked d → good d)
    ⟨lowest, fun c hc => hlowest c hc.1⟩
    ⟨top, htop, le_rfl, fun d hd hd' _ => le_antisymm hd hd' ▸ htop⟩
  refine ⟨start, hgood, hle, hclear, fun c hc hgoodc => ?_⟩
  -- otherwise the run could start at `c`
  by_contra hno
  push Not at hno
  refine absurd (hleast c ⟨hgoodc, by omega, fun d hcd hdtop hmarked => ?_⟩) (by omega)
  rcases lt_or_ge d start with hlt | hge
  · rcases eq_or_lt_of_le hcd with rfl | hcd
    · exact hgoodc
    · exact hno d hcd hlt hmarked
  · exact hclear d hge hdtop hmarked

namespace RunStart

variable {start lowest : ℤ}

theorem isRun (h : RunStart good marked top start) (htop : good top) :
    IsRun good marked top (top - start + 1).toNat := by
  intro i hi
  have hle := h.le_top
  by_cases hgood : good (top - i)
  · exact .inl hgood
  · have hi₀ : i ≠ 0 := by
      rintro rfl
      exact hgood (by simpa using htop)
    have hi' : (i : ℤ) ≠ top - start := by
      intro heq
      exact hgood (by rw [heq, sub_sub_cancel]; exact h.good_start)
    refine .inr ⟨fun hm => hgood (h.clear _ (by omega) (by omega) hm), ⟨0, by omega, by simpa using htop⟩,
      (top - start).toNat, by omega, by omega, ?_⟩
    rw [Int.toNat_of_nonneg (by omega), sub_sub_cancel]
    exact h.good_start

/-- **The longest run** goes down to where it starts. -/
theorem isGreatest (h : RunStart good marked top start) (htop : good top) :
    IsGreatest {n | IsRun good marked top n} (top - start + 1).toNat := by
  refine ⟨h.isRun htop, fun n hn => ?_⟩
  by_contra hlong
  push Not at hlong
  -- the lowest position of a run is good, and below `start` another mark parts it from there
  have hlast : good (top - (n - 1 : ℕ)) := by
    rcases hn (n - 1) (by omega) with hgood | ⟨-, -, j, hj, hlt, -⟩
    · exact hgood
    · omega
  obtain ⟨other, hlow, hhigh, hmarked, hother⟩ := h.parted _ (by omega) hlast
  have hle := h.le_top
  obtain ⟨i, rfl⟩ : ∃ i : ℕ, other = top - i := ⟨(top - other).toNat, by omega⟩
  rcases hn i (by omega) with hgood | ⟨hunmarked, -⟩
  · exact hother hgood
  · exact hunmarked hmarked

/-- With no good mark below the run the walk stops where the run starts. -/
theorem walk_stops (h : RunStart good marked top start) (hmarked : ∀ c, good c → marked c)
    (hlowest : ∀ c, good c → lowest ≤ c) (hgood : good lowest) (hnone : ∀ c < start, ¬good c) :
    WalkTakes (Fills good marked lowest) top (top - start + 1).toNat := by
  have hle := h.le_top
  obtain rfl : lowest = start := by
    have hge := hlowest start h.good_start
    by_contra hne
    exact hnone lowest (by omega) hgood
  refine ⟨fun i hi => ⟨fun hm => h.clear _ (by omega) (by omega) hm, fun hm => ?_⟩, fun hfills => ?_⟩
  · have hne : top - (i : ℤ) ≠ lowest := fun heq => hm (heq ▸ hmarked lowest hgood)
    omega
  · have hbelow : top - ((top - lowest + 1).toNat : ℤ) < lowest := by omega
    by_cases hm : marked (top - ((top - lowest + 1).toNat : ℤ))
    · exact hnone _ hbelow (hfills.1 hm)
    · exact absurd (hfills.2 hm) (by omega)

/-- With a good mark below, the highest other mark under the run has only unmarked positions between. -/
theorem exists_other (h : RunStart good marked top start) {c : ℤ} (hc : c < start) (hgood : good c) :
    ∃ other, c < other ∧ other < start ∧ marked other ∧ ¬good other ∧
      ∀ d, other < d → d < start → ¬marked d := by
  obtain ⟨first, hfirst, hlt, hm, hng⟩ := h.parted c hc hgood
  obtain ⟨other, ⟨hbelow, hmark, hother⟩, hgreatest⟩ := Int.exists_greatest_of_bdd
    (P := fun d => d < start ∧ marked d ∧ ¬good d) ⟨start, fun d hd => hd.1.le⟩ ⟨first, hlt, hm, hng⟩
  have hge := hgreatest first ⟨hlt, hm, hng⟩
  refine ⟨other, by omega, hbelow, hmark, hother, fun d hd hds hmd => ?_⟩
  by_cases hgd : good d
  · obtain ⟨e, hde, hes, hme, hge'⟩ := h.parted d hds hgd
    exact absurd (hgreatest e ⟨hes, hme, hge'⟩) (by omega)
  · exact absurd (hgreatest d ⟨hds, hmd, hgd⟩) (by omega)

/-- With a good mark below, the walk goes on to that other mark. -/
theorem walk_past (h : RunStart good marked top start) {c other : ℤ} (hc : lowest ≤ c)
    (hco : c < other) (hother : other < start) (hm : marked other) (hng : ¬good other)
    (hgap : ∀ d, other < d → d < start → ¬marked d) :
    WalkTakes (Fills good marked lowest) top (top - other).toNat := by
  have hle := h.le_top
  refine ⟨fun i hi => ⟨fun hmi => ?_, fun _ => by omega⟩, fun hfills => ?_⟩
  · rcases lt_or_ge (top - (i : ℤ)) start with hlt | hge
    · exact absurd hmi (hgap _ (by omega) hlt)
    · exact h.clear _ hge (by omega) hmi
  · have hend : top - ((top - other).toNat : ℤ) = other := by omega
    rw [hend] at hfills
    exact hng (hfills.1 hm)

end RunStart
