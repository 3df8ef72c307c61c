import Mathlib.Data.List.Basic

/-!
# Logs of announcements and corrections

A log only grows. Some of its entries announce, some correct, the others are about something else.
An announcement is `Outstanding` while no correction has come after it; which one there is can be
read off the last word of the log (`lastWord_iff`).
-/

namespace Log

variable {α : Type}

/-- Some announcement has no correction after it. -/
def Outstanding (announces corrects : α → Bool) (log : List α) : Prop :=
  ∃ earlier a later, log = earlier ++ a :: later ∧ announces a = true ∧
    ∀ c ∈ later, corrects c = false

/-- The last entry that announces or corrects is an announcement. -/
def lastWord (announces corrects : α → Bool) (log : List α) : Bool :=
  (log.reverse.find? fun x => announces x || corrects x).any announces

variable {announces corrects : α → Bool} {log added : List α} {a : α}

@[simp] theorem lastWord_nil : lastWord announces corrects [] = false := rfl

/-- Entries about something else change nothing. -/
theorem lastWord_append (h : ∀ x ∈ added, announces x = false ∧ corrects x = false) :
    lastWord announces corrects (log ++ added) = lastWord announces corrects log := by
  have hnone : added.reverse.find? (fun x => announces x || corrects x) = none := by
    rw [List.find?_eq_none]
    intro x hx
    obtain ⟨hannounces, hcorrects⟩ := h x (List.mem_reverse.mp hx)
    simp [hannounces, hcorrects]
  unfold lastWord
  rw [List.reverse_append, List.find?_append, hnone, Option.none_or]

/-- A correction at the end settles what came before. -/
theorem lastWord_correct (hcorrects : corrects a = true) (hannounces : announces a = false) :
    lastWord announces corrects (log ++ [a]) = false := by
  unfold lastWord
  rw [List.reverse_append, List.reverse_singleton, List.singleton_append,
    List.find?_cons_of_pos (by simp [hcorrects])]
  simp [hannounces]

theorem lastWord_announce (hannounces : announces a = true) :
    lastWord announces corrects (log ++ [a]) = true := by
  unfold lastWord
  rw [List.reverse_append, List.reverse_singleton, List.singleton_append,
    List.find?_cons_of_pos (by simp [hannounces])]
  simp [hannounces]

/-- **The last word tells whether an announcement is outstanding.** -/
theorem lastWord_iff : lastWord announces corrects log = true ↔
    Outstanding announces corrects log := by
  unfold lastWord Outstanding
  constructor
  · intro h
    obtain ⟨a, hfind, hannounces⟩ := (Option.any_eq_true _ _).mp h
    obtain ⟨_, later, earlier, hsplit, hothers⟩ := List.find?_eq_some_iff_append.mp hfind
    refine ⟨earlier.reverse, a, later.reverse, ?_, hannounces, ?_⟩
    · rw [← List.reverse_reverse log, hsplit]
      simp
    · intro c hc
      have hneither := hothers c (List.mem_reverse.mp hc)
      simp only [Bool.not_eq_true', Bool.or_eq_false_iff] at hneither
      exact hneither.2
  · rintro ⟨earlier, a, later, rfl, hannounces, hlater⟩
    rw [List.reverse_append, List.reverse_cons, List.append_assoc, List.find?_append]
    cases hfind : later.reverse.find? fun x => announces x || corrects x with
    | some x =>
      have hx : x ∈ later := List.mem_reverse.mp (List.mem_of_find?_eq_some hfind)
      have hsome := List.find?_some hfind
      rw [hlater x hx, Bool.or_false] at hsome
      exact hsome
    | none =>
      rw [Option.none_or, List.singleton_append,
        List.find?_cons_of_pos (by simp [hannounces])]
      exact hannounces

end Log
