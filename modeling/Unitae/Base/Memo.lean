import Mathlib.Data.List.Basic

/-!
# Answers kept by key

A loop asks the same question again and again and keeps the answers it has been given, each under a key
of its question. `Memo.ask` answers from what is kept, and computes and keeps what is not. When questions
of one key have one answer, keeping the answers changes nothing (`Memo.ask_fst`).
-/

/-- The answers kept so far. -/
structure Memo (κ β : Type) where
  entries : List (κ × β)
deriving DecidableEq, Repr

namespace Memo

variable {α κ β : Type}

def empty : Memo κ β := ⟨[]⟩

section Ask

variable [BEq κ]

def get? (memo : Memo κ β) (k : κ) : Option β := memo.entries.lookup k

/-- The answer to `a`, and what is kept afterwards. -/
def ask (key : α → κ) (compute : α → β) (memo : Memo κ β) (a : α) : β × Memo κ β :=
  match memo.get? (key a) with
  | some b => (b, memo)
  | none => (compute a, ⟨(key a, compute a) :: memo.entries⟩)

end Ask

/-- What is kept under the key of a question is its answer. -/
def Sound (key : α → κ) (compute : α → β) (memo : Memo κ β) : Prop :=
  ∀ a b, (key a, b) ∈ memo.entries → b = compute a

variable {key : α → κ} {compute : α → β} {memo : Memo κ β} {a : α}

theorem sound_empty : (empty : Memo κ β).Sound key compute := fun _ _ h => absurd h List.not_mem_nil

variable [BEq κ] [LawfulBEq κ]

theorem get?_mem {k : κ} {b : β} (h : memo.get? k = some b) : (k, b) ∈ memo.entries := by
  unfold get? at h
  obtain ⟨before, after, hsplit, -⟩ := List.lookup_eq_some_iff.mp h
  rw [hsplit]
  exact List.mem_append_right _ List.mem_cons_self

/-- **Keeping answers changes none of them.** -/
theorem ask_fst (h : memo.Sound key compute) : (memo.ask key compute a).1 = compute a := by
  unfold ask
  cases hget : memo.get? (key a) with
  | some b => exact h a b (get?_mem hget)
  | none => rfl

omit [LawfulBEq κ] in
theorem ask_sound (hkey : ∀ a a', key a = key a' → compute a = compute a') (h : memo.Sound key compute) :
    (memo.ask key compute a).2.Sound key compute := by
  unfold ask
  cases memo.get? (key a) with
  | some b => exact h
  | none =>
    intro a' b hmem
    rcases List.mem_cons.mp hmem with hnew | hold
    · obtain ⟨hsame, rfl⟩ := Prod.mk.inj hnew
      exact (hkey a' a hsame).symm
    · exact h a' b hold

omit [BEq κ] [LawfulBEq κ] in
/-- A loop that asks as it goes ends with what it would have computed without asking. -/
theorem foldl_asks {γ : Type} {turn : List γ × Memo κ β → α → List γ × Memo κ β} {plain : α → γ}
    {Inv : Memo κ β → Prop}
    (hturn : ∀ acc a, Inv acc.2 → (turn acc a).1 = acc.1 ++ [plain a] ∧ Inv (turn acc a).2)
    (items : List α) (acc : List γ × Memo κ β) (h : Inv acc.2) :
    (items.foldl turn acc).1 = acc.1 ++ items.map plain ∧ Inv (items.foldl turn acc).2 := by
  induction items generalizing acc with
  | nil => exact ⟨(List.append_nil _).symm, h⟩
  | cons a items ih =>
    obtain ⟨hout, hinv⟩ := hturn acc a h
    obtain ⟨hrest, hend⟩ := ih (turn acc a) hinv
    refine ⟨?_, hend⟩
    rw [List.foldl_cons, hrest, hout, List.append_assoc, List.map_cons, List.singleton_append]

end Memo
