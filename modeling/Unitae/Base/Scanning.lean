import Mathlib.Data.List.Infix

/-!
# Occurrences of a pattern in a text

What a global regular expression finds: reading from the left, an occurrence where one starts, and a character
where none does. Any text is read as one list of pieces and no other (`text_pieces`, `pieces_text`), and where
occurrences do not overlap every one of them is found (`mem_pieces`).
-/

/-- A pattern that reads one value off the head of a text. -/
structure Matcher (α β : Type) where
  spell : β → List α
  run : List α → Option (β × List α)
  run_iff : ∀ {xs b rest}, run xs = some (b, rest) ↔ xs = spell b ++ rest
  spell_ne_nil : ∀ b, spell b ≠ []

namespace Matcher

variable {α β : Type} (m : Matcher α β)

/-- The pieces of a text that is no longer than the fuel. -/
def scan : ℕ → List α → List (α ⊕ β)
  | 0, _ => []
  | fuel + 1, xs =>
    match m.run xs with
    | some (b, rest) => .inr b :: scan fuel rest
    | none =>
      match xs with
      | [] => []
      | x :: xs => .inl x :: scan fuel xs

def pieces (xs : List α) : List (α ⊕ β) := m.scan xs.length xs

def spelling : α ⊕ β → List α
  | .inl x => [x]
  | .inr b => m.spell b

def text (ps : List (α ⊕ β)) : List α := ps.flatMap m.spelling

/-- No occurrence starts at a character. -/
inductive Scanned : List (α ⊕ β) → Prop where
  | nil : Scanned []
  | found (b : β) {ps : List (α ⊕ β)} (h : Scanned ps) : Scanned (.inr b :: ps)
  | char {x : α} {ps : List (α ⊕ β)} (hx : m.run (x :: m.text ps) = none) (h : Scanned ps) : Scanned (.inl x :: ps)

/-- An occurrence starts inside no other one. -/
def Apart : Prop := ∀ b b' before rest rest', m.spell b ++ rest = before ++ m.spell b' ++ rest' →
  before = [] ∨ (m.spell b).length ≤ before.length

section Scan

variable {m} {xs rest : List α} {b : β} {x : α} {ps : List (α ⊕ β)}

theorem run_spell : m.run (m.spell b ++ rest) = some (b, rest) := m.run_iff.mpr rfl

theorem run_nil : m.run [] = none := by
  cases h : m.run [] with
  | none => rfl
  | some found =>
    have hspell := m.run_iff.mp h
    exact absurd (List.append_eq_nil_iff.mp hspell.symm).1 (m.spell_ne_nil found.1)

theorem length_lt_of_run (h : m.run xs = some (b, rest)) : rest.length < xs.length := by
  have hpos := List.length_pos_iff.mpr (m.spell_ne_nil b)
  rw [m.run_iff.mp h, List.length_append]
  omega

theorem scan_nil (fuel : ℕ) : m.scan fuel [] = [] := by
  cases fuel with
  | zero => rfl
  | succ fuel => simp only [scan, run_nil]

theorem scan_run {fuel : ℕ} (h : m.run xs = some (b, rest)) : m.scan (fuel + 1) xs = .inr b :: m.scan fuel rest := by
  simp only [scan, h]

theorem scan_char {fuel : ℕ} (h : m.run (x :: xs) = none) :
    m.scan (fuel + 1) (x :: xs) = .inl x :: m.scan fuel xs := by
  simp only [scan, h]

/-- More fuel than the text is long changes nothing. -/
theorem scan_eq {fuel fuel' : ℕ} (h : xs.length ≤ fuel) (h' : xs.length ≤ fuel') :
    m.scan fuel xs = m.scan fuel' xs := by
  induction fuel generalizing fuel' xs with
  | zero =>
    obtain rfl := List.length_eq_zero_iff.mp (Nat.le_zero.mp h)
    rw [scan_nil, scan_nil]
  | succ fuel ih =>
    cases xs with
    | nil => rw [scan_nil, scan_nil]
    | cons x xs =>
      obtain ⟨fuel', rfl⟩ : ∃ k, fuel' = k + 1 := ⟨fuel' - 1, by rw [List.length_cons] at h'; omega⟩
      rw [List.length_cons] at h h'
      cases hrun : m.run (x :: xs) with
      | none =>
        rw [scan_char hrun, scan_char hrun]
        exact congrArg _ (ih (by omega) (by omega))
      | some found =>
        have hlt := length_lt_of_run hrun
        rw [List.length_cons] at hlt
        rw [scan_run hrun, scan_run hrun]
        exact congrArg _ (ih (by omega) (by omega))

theorem pieces_run (h : m.run xs = some (b, rest)) : m.pieces xs = .inr b :: m.pieces rest := by
  have hlt := length_lt_of_run h
  calc m.pieces xs = m.scan (xs.length - 1 + 1) xs := scan_eq le_rfl (by omega)
    _ = .inr b :: m.scan (xs.length - 1) rest := scan_run h
    _ = .inr b :: m.pieces rest := congrArg _ (scan_eq (by omega) le_rfl)

theorem pieces_char (h : m.run (x :: xs) = none) : m.pieces (x :: xs) = .inl x :: m.pieces xs := scan_char h

/-- The pieces of a text, from its head on. -/
theorem pieces_induct {motive : List α → Prop} (nil : motive [])
    (found : ∀ b rest, motive rest → motive (m.spell b ++ rest))
    (char : ∀ x xs, m.run (x :: xs) = none → motive xs → motive (x :: xs)) (xs : List α) : motive xs := by
  induction hn : xs.length using Nat.strong_induction_on generalizing xs with
  | _ n ih =>
    cases xs with
    | nil => exact nil
    | cons x xs =>
      cases hrun : m.run (x :: xs) with
      | none => exact char x xs hrun (ih xs.length (by rw [← hn, List.length_cons]; omega) xs rfl)
      | some read =>
        have hlt := length_lt_of_run hrun
        rw [m.run_iff.mp hrun]
        exact found read.1 read.2 (ih read.2.length (by omega) read.2 rfl)

/-! ### Reading and spelling -/

@[simp] theorem text_char : m.text (.inl x :: ps) = x :: m.text ps := rfl

@[simp] theorem text_found : m.text (.inr b :: ps) = m.spell b ++ m.text ps := rfl

/-- Nothing of the text is lost. -/
theorem text_pieces (xs : List α) : m.text (m.pieces xs) = xs := by
  induction xs using m.pieces_induct with
  | nil => rfl
  | found b rest ih => rw [pieces_run run_spell, text_found, ih]
  | char x xs hx ih => rw [pieces_char hx, text_char, ih]

theorem pieces_scanned (xs : List α) : m.Scanned (m.pieces xs) := by
  induction xs using m.pieces_induct with
  | nil => exact .nil
  | found b rest ih =>
    rw [pieces_run run_spell]
    exact .found b ih
  | char x xs hx ih =>
    rw [pieces_char hx]
    exact .char (by rwa [text_pieces]) ih

theorem pieces_text (h : m.Scanned ps) : m.pieces (m.text ps) = ps := by
  induction h with
  | nil => rfl
  | found b _ ih => rw [text_found, pieces_run run_spell, ih]
  | char hx _ ih => rw [text_char, pieces_char hx, ih]

/-- **An occurrence is found wherever it stands.** -/
theorem mem_pieces (hapart : m.Apart) (before after : List α) : .inr b ∈ m.pieces (before ++ m.spell b ++ after) := by
  induction hn : before.length using Nat.strong_induction_on generalizing before with
  | _ n ih =>
    cases before with
    | nil =>
      rw [List.nil_append, pieces_run run_spell]
      exact List.mem_cons_self
    | cons x before =>
      cases hrun : m.run (x :: before ++ m.spell b ++ after) with
      | none =>
        rw [List.cons_append, List.cons_append, pieces_char (by simpa using hrun)]
        exact List.mem_cons_of_mem _ (ih before.length (by rw [← hn, List.length_cons]; omega) before rfl)
      | some read =>
        obtain ⟨b', rest⟩ := read
        have hspell := m.run_iff.mp hrun
        have hpos := List.length_pos_iff.mpr (m.spell_ne_nil b')
        -- what is read there ends before the occurrence starts
        have hends : (m.spell b').length ≤ (x :: before).length :=
          (hapart b' b (x :: before) rest after hspell.symm).resolve_left (List.cons_ne_nil _ _)
        have hread : m.spell b' <+: x :: before ++ m.spell b ++ after := ⟨rest, hspell.symm⟩
        have hstart : x :: before <+: x :: before ++ m.spell b ++ after :=
          ⟨m.spell b ++ after, (List.append_assoc _ _ _).symm⟩
        obtain ⟨between, hbefore⟩ := List.prefix_of_prefix_length_le hread hstart hends
        have hrest : rest = between ++ m.spell b ++ after := by
          rw [← hbefore, List.append_assoc, List.append_assoc] at hspell
          rw [List.append_assoc]
          exact (List.append_cancel_left hspell).symm
        rw [pieces_run hrun, hrest]
        refine List.mem_cons_of_mem _ (ih between.length ?_ between rfl)
        rw [← hn, ← hbefore, List.length_append]
        omega

end Scan

end Matcher
