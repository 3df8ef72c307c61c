import Mathlib.Data.List.Basic

/-!
# UTF-8

Bytes are numbers below 256. `decode` never fails: bytes that are no character are replaced, each longest
start of one by a single replacement character. What was encoded is decoded again: `decode_encode`.
-/

namespace Utf8

def encodeChar (c : Char) : List Nat :=
  if c.toNat < 0x80 then [c.toNat]
  else if c.toNat < 0x800 then [0xC0 + c.toNat / 0x40, 0x80 + c.toNat % 0x40]
  else if c.toNat < 0x10000 then
    [0xE0 + c.toNat / 0x1000, 0x80 + c.toNat / 0x40 % 0x40, 0x80 + c.toNat % 0x40]
  else
    [0xF0 + c.toNat / 0x40000, 0x80 + c.toNat / 0x1000 % 0x40, 0x80 + c.toNat / 0x40 % 0x40,
      0x80 + c.toNat % 0x40]

def encode (cs : List Char) : List Nat := cs.flatMap encodeChar

/-! ## The decoder -/

def replacement : Char := '\uFFFD'

/-- A character that has begun: its bits so far, how many bytes are missing, and the range of the next. -/
structure Pending where
  codePoint : Nat
  missing : Nat
  lower : Nat
  upper : Nat
deriving DecidableEq, Repr

/-- A byte where no character has begun. -/
def first (b : Nat) : List Char × Option Pending :=
  if b ≤ 0x7F then ([Char.ofNat b], none)
  else if 0xC2 ≤ b ∧ b ≤ 0xDF then ([], some ⟨b - 0xC0, 1, 0x80, 0xBF⟩)
  else if 0xE0 ≤ b ∧ b ≤ 0xEF then
    ([], some ⟨b - 0xE0, 2, if b = 0xE0 then 0xA0 else 0x80, if b = 0xED then 0x9F else 0xBF⟩)
  else if 0xF0 ≤ b ∧ b ≤ 0xF4 then
    ([], some ⟨b - 0xF0, 3, if b = 0xF0 then 0x90 else 0x80, if b = 0xF4 then 0x8F else 0xBF⟩)
  else ([replacement], none)

/-- A byte out of range ends the character begun and is looked at again. -/
def next (pending : Option Pending) (b : Nat) : List Char × Option Pending :=
  match pending with
  | none => first b
  | some p =>
    if p.lower ≤ b ∧ b ≤ p.upper then
      if p.missing ≤ 1 then ([Char.ofNat (0x40 * p.codePoint + (b - 0x80))], none)
      else ([], some ⟨0x40 * p.codePoint + (b - 0x80), p.missing - 1, 0x80, 0xBF⟩)
    else (replacement :: (first b).1, (first b).2)

def decodeFrom : Option Pending → List Nat → List Char
  | none, [] => []
  | some _, [] => [replacement]
  | pending, b :: bs => (next pending b).1 ++ decodeFrom (next pending b).2 bs

def decode (bs : List Nat) : List Char := decodeFrom none bs

theorem decodeFrom_cons (pending : Option Pending) (b : Nat) (bs : List Nat) :
    decodeFrom pending (b :: bs) = (next pending b).1 ++ decodeFrom (next pending b).2 bs := by
  cases pending <;> rfl

/-! ## What a byte does -/

theorem first_ascii {b : Nat} (h : b < 0x80) : first b = ([Char.ofNat b], none) :=
  if_pos (Nat.le_of_lt_succ h)

theorem first_two {b : Nat} (h : 0xC2 ≤ b ∧ b ≤ 0xDF) :
    first b = ([], some ⟨b - 0xC0, 1, 0x80, 0xBF⟩) := by
  unfold first
  rw [if_neg (show ¬b ≤ 0x7F by omega), if_pos h]

theorem first_three {b : Nat} (h : 0xE0 ≤ b ∧ b ≤ 0xEF) : first b =
    ([], some ⟨b - 0xE0, 2, if b = 0xE0 then 0xA0 else 0x80, if b = 0xED then 0x9F else 0xBF⟩) := by
  unfold first
  rw [if_neg (show ¬b ≤ 0x7F by omega), if_neg (show ¬(0xC2 ≤ b ∧ b ≤ 0xDF) by omega), if_pos h]

theorem first_four {b : Nat} (h : 0xF0 ≤ b ∧ b ≤ 0xF4) : first b =
    ([], some ⟨b - 0xF0, 3, if b = 0xF0 then 0x90 else 0x80, if b = 0xF4 then 0x8F else 0xBF⟩) := by
  unfold first
  rw [if_neg (show ¬b ≤ 0x7F by omega), if_neg (show ¬(0xC2 ≤ b ∧ b ≤ 0xDF) by omega),
    if_neg (show ¬(0xE0 ≤ b ∧ b ≤ 0xEF) by omega), if_pos h]

theorem next_last {p : Pending} {b : Nat} (hrange : p.lower ≤ b ∧ b ≤ p.upper) (hlast : p.missing = 1) :
    next (some p) b = ([Char.ofNat (0x40 * p.codePoint + (b - 0x80))], none) := by
  have hle : p.missing ≤ 1 := by omega
  simp only [next, if_pos hrange, if_pos hle]

theorem next_more {p : Pending} {b : Nat} (hrange : p.lower ≤ b ∧ b ≤ p.upper) (hmore : 1 < p.missing) :
    next (some p) b =
      ([], some ⟨0x40 * p.codePoint + (b - 0x80), p.missing - 1, 0x80, 0xBF⟩) := by
  have hgt : ¬p.missing ≤ 1 := by omega
  simp only [next, if_pos hrange, if_neg hgt]

/-- An ASCII byte stands for itself. -/
theorem decode_ascii {b : Nat} (h : b < 0x80) (bs : List Nat) :
    decode (b :: bs) = Char.ofNat b :: decode bs := by
  show decodeFrom none (b :: bs) = _
  rw [decodeFrom_cons]
  show (first b).1 ++ decodeFrom (first b).2 bs = _
  rw [first_ascii h]
  rfl

/-! ## Round trip -/

/-- A code point is no surrogate. -/
theorem toNat_valid (c : Char) : c.toNat < 0xD800 ∨ 0xDFFF < c.toNat ∧ c.toNat < 0x110000 := c.valid

theorem decodeFrom_encodeChar (c : Char) (bs : List Nat) :
    decodeFrom none (encodeChar c ++ bs) = c :: decodeFrom none bs := by
  have hvalid := toNat_valid c
  have hc : Char.ofNat c.toNat = c := Char.ofNat_toNat c
  unfold encodeChar
  generalize c.toNat = n at hvalid hc ⊢
  by_cases h₁ : n < 0x80
  · rw [if_pos h₁, List.singleton_append, decodeFrom_cons]
    show (first n).1 ++ decodeFrom (first n).2 bs = _
    rw [first_ascii h₁, hc]
    rfl
  by_cases h₂ : n < 0x800
  · have hbits : 0x40 * (0xC0 + n / 0x40 - 0xC0) + (0x80 + n % 0x40 - 0x80) = n := by omega
    rw [if_neg h₁, if_pos h₂, List.cons_append, List.cons_append, List.nil_append, decodeFrom_cons]
    show (first _).1 ++ decodeFrom (first _).2 _ = _
    rw [first_two (by omega), List.nil_append, decodeFrom_cons, next_last (by simp; omega) rfl]
    simp only [hbits, hc]
    rfl
  by_cases h₃ : n < 0x10000
  · have hbits : 0x40 * (0x40 * (0xE0 + n / 0x1000 - 0xE0) + (0x80 + n / 0x40 % 0x40 - 0x80)) +
        (0x80 + n % 0x40 - 0x80) = n := by omega
    -- After 0xE0 the short forms are out, after 0xED the surrogates.
    have hrange : (if 0xE0 + n / 0x1000 = 0xE0 then 0xA0 else 0x80) ≤ 0x80 + n / 0x40 % 0x40 ∧
        0x80 + n / 0x40 % 0x40 ≤ (if 0xE0 + n / 0x1000 = 0xED then 0x9F else 0xBF) := by
      constructor <;> split <;> omega
    rw [if_neg h₁, if_neg h₂, if_pos h₃]
    simp only [List.cons_append, List.nil_append]
    rw [decodeFrom_cons]
    show (first _).1 ++ decodeFrom (first _).2 _ = _
    rw [first_three (by omega), List.nil_append, decodeFrom_cons, next_more hrange (show 1 < _ by simp),
      List.nil_append, decodeFrom_cons, next_last (by simp; omega) rfl]
    simp only [hbits, hc]
    rfl
  · have hbits : 0x40 * (0x40 * (0x40 * (0xF0 + n / 0x40000 - 0xF0) + (0x80 + n / 0x1000 % 0x40 - 0x80)) +
        (0x80 + n / 0x40 % 0x40 - 0x80)) + (0x80 + n % 0x40 - 0x80) = n := by omega
    have hrange : (if 0xF0 + n / 0x40000 = 0xF0 then 0x90 else 0x80) ≤ 0x80 + n / 0x1000 % 0x40 ∧
        0x80 + n / 0x1000 % 0x40 ≤ (if 0xF0 + n / 0x40000 = 0xF4 then 0x8F else 0xBF) := by
      constructor <;> split <;> omega
    rw [if_neg h₁, if_neg h₂, if_neg h₃]
    simp only [List.cons_append, List.nil_append]
    rw [decodeFrom_cons]
    show (first _).1 ++ decodeFrom (first _).2 _ = _
    rw [first_four (by omega), List.nil_append, decodeFrom_cons, next_more hrange (show 1 < _ by simp),
      List.nil_append, decodeFrom_cons, next_more (by simp; omega) (show 1 < _ by simp), List.nil_append,
      decodeFrom_cons, next_last (by simp; omega) rfl]
    simp only [hbits, hc]
    rfl

/-- **What is encoded is decoded again.** -/
theorem decode_encode (cs : List Char) : decode (encode cs) = cs := by
  induction cs with
  | nil => rfl
  | cons c cs ih =>
    show decodeFrom none (encodeChar c ++ encode cs) = _
    rw [decodeFrom_encodeChar]
    exact congrArg (c :: ·) ih

theorem encode_cons (c : Char) (cs : List Char) : encode (c :: cs) = encodeChar c ++ encode cs := rfl

theorem encodeChar_ascii {c : Char} (h : c.toNat < 0x80) : encodeChar c = [c.toNat] := if_pos h

theorem lt_of_mem_encodeChar {c : Char} {b : Nat} (h : b ∈ encodeChar c) : b < 0x100 := by
  have hvalid := toNat_valid c
  unfold encodeChar at h
  split at h
  · rw [List.mem_singleton.mp h]
    omega
  · split at h
    · simp at h
      omega
    · split at h <;> simp at h <;> omega

theorem lt_of_mem_encode {cs : List Char} {b : Nat} (h : b ∈ encode cs) : b < 0x100 := by
  obtain ⟨c, -, hb⟩ := List.mem_flatMap.mp h
  exact lt_of_mem_encodeChar hb

/-- Below 0x80 only the characters that stand for themselves. -/
theorem mem_of_mem_encode {cs : List Char} {b : Nat} (h : b ∈ encode cs) (hb : b < 0x80) :
    Char.ofNat b ∈ cs := by
  obtain ⟨c, hc, hbyte⟩ := List.mem_flatMap.mp h
  have hcode : b = c.toNat := by
    unfold encodeChar at hbyte
    split at hbyte
    · exact List.mem_singleton.mp hbyte
    · split at hbyte
      · simp at hbyte
        omega
      · split at hbyte <;> simp at hbyte <;> omega
  rw [hcode, Char.ofNat_toNat]
  exact hc

theorem toNat_ofNat_ascii : ∀ b : Fin 0x80, (Char.ofNat b).toNat = b := by decide

/-- Characters below 0x80 are their own bytes. -/
theorem encode_map_ofNat {bs : List Nat} (h : ∀ b ∈ bs, b < 0x80) : encode (bs.map Char.ofNat) = bs := by
  induction bs with
  | nil => rfl
  | cons b bs ih =>
    have hb : b < 0x80 := h b List.mem_cons_self
    have hnat : (Char.ofNat b).toNat = b := toNat_ofNat_ascii ⟨b, hb⟩
    rw [List.map_cons, encode_cons, encodeChar_ascii (by omega), hnat,
      ih fun b' hb' => h b' (List.mem_cons_of_mem b hb')]
    rfl

end Utf8
