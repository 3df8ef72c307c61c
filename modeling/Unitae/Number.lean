import Mathlib.Algebra.Group.Nat.Defs
import Mathlib.Data.List.TakeWhile
import Unitae.Text

/-!
# Unitae — JavaScript's whole numbers

The numbers the services count with: whole ones, and what a division by zero, a text that is no number or
one too large leaves. `parseInt` rounds as doubles do from `2 ^ 53` on; sums and products are exact, the
operands of those that follow being smaller.
-/

namespace Unitae

inductive JsNumber where
  | nan
  | infinity
  | negInfinity
  | negZero
  | int (n : Int)
deriving DecidableEq, Repr

namespace JsNumber

/-- The whole number it is, or zero. -/
def value : JsNumber → Int
  | int n => n
  | _ => 0

/-- `Number.isFinite`. -/
def isFinite : JsNumber → Bool
  | int _ => true
  | negZero => true
  | _ => false

def isZero : JsNumber → Bool
  | int n => n == 0
  | negZero => true
  | _ => false

def isNegative : JsNumber → Bool
  | int n => n < 0
  | negZero => true
  | negInfinity => true
  | _ => false

/-- A zero of each sign. -/
def zero (negative : Bool) : JsNumber := if negative then negZero else int 0

def neg : JsNumber → JsNumber
  | nan => nan
  | infinity => negInfinity
  | negInfinity => infinity
  | negZero => int 0
  | int n => if n = 0 then negZero else int (-n)

/-- `a < b`, which no `NaN` is part of. -/
def lt : JsNumber → JsNumber → Bool
  | nan, _ => false
  | _, nan => false
  | infinity, _ => false
  | _, negInfinity => false
  | negInfinity, _ => true
  | _, infinity => true
  | a, b => a.value < b.value

/-- `Math.max(a, b)`. -/
def max (a b : JsNumber) : JsNumber :=
  if a = nan ∨ b = nan then nan else if a.lt b || (a = negZero && b.isZero) then b else a

/-- `Math.min(a, b)`. -/
def min (a b : JsNumber) : JsNumber :=
  if a = nan ∨ b = nan then nan else if b.lt a || (b = negZero && a.isZero) then b else a

/-- `a - 1`. -/
def pred : JsNumber → JsNumber
  | negZero => int (-1)
  | int n => int (n - 1)
  | a => a

def add : JsNumber → JsNumber → JsNumber
  | nan, _ => nan
  | _, nan => nan
  | infinity, negInfinity => nan
  | negInfinity, infinity => nan
  | infinity, _ => infinity
  | _, infinity => infinity
  | negInfinity, _ => negInfinity
  | _, negInfinity => negInfinity
  | negZero, negZero => negZero
  | a, b => int (a.value + b.value)

def mul (a b : JsNumber) : JsNumber :=
  let negative := a.isNegative != b.isNegative
  if a = nan ∨ b = nan then nan
  else if a.isFinite && b.isFinite then
    if a.isZero || b.isZero then zero negative else int (a.value * b.value)
  else if a.isZero || b.isZero then nan
  else if negative then negInfinity
  else infinity

/-- `Math.ceil(count / size)`. -/
def ceilDiv (count : Nat) : JsNumber → JsNumber
  | nan => nan
  | infinity => int 0
  | negInfinity => negZero
  | negZero => if count = 0 then nan else negInfinity
  | int n =>
    if n = 0 then if count = 0 then nan else infinity
    else if 0 < n then int ((count + n.toNat - 1) / n.toNat : Nat)
    else if count < n.natAbs then negZero
    else int (-(count / n.natAbs : Nat))

/-- The double nearest to a whole number, the even one of two. -/
def ofNat (n : Nat) : JsNumber :=
  if n < 2 ^ 53 then int n
  else
    let unit := 2 ^ (n.log2 - 52)
    let low := n / unit
    let roundsUp := unit < 2 * (n % unit) || (unit == 2 * (n % unit) && low % 2 == 1)
    let rounded := (if roundsUp then low + 1 else low) * unit
    if rounded < 2 ^ 1024 then int rounded else infinity

/-- `Number.parseInt(text, 10)`. -/
def parseInt (text : String) : JsNumber :=
  let unsigned := fun cs : List Char =>
    let digits := cs.takeWhile Char.isDigit
    if digits = [] then nan else ofNat (Nat.ofDigitChars 10 digits 0)
  match text.toList.dropWhile isTrimmed with
  | '-' :: rest => (unsigned rest).neg
  | '+' :: rest => unsigned rest
  | cs => unsigned cs

theorem ofNat_of_lt {n : Nat} (h : n < 2 ^ 53) : ofNat n = int n := if_pos h

theorem toNat_of_isDigit {c : Char} (h : c.isDigit = true) : 48 ≤ c.toNat ∧ c.toNat ≤ 57 := by
  rw [Char.isDigit, Bool.and_eq_true, decide_eq_true_iff, decide_eq_true_iff] at h
  exact ⟨UInt32.le_iff_toNat_le.mp h.1, UInt32.le_iff_toNat_le.mp h.2⟩

/-- A number that was written is read. -/
theorem parseInt_toString {n : Nat} (h : n < 2 ^ 53) : parseInt (toString n) = int n := by
  have hlist : (toString n).toList = Nat.toDigits 10 n := by
    simp [Nat.toString_eq_repr]
  have hdigit : ∀ c ∈ Nat.toDigits 10 n, c.isDigit = true :=
    fun c hc => Nat.isDigit_of_mem_toDigits (by decide) (by decide) hc
  cases hdigits : Nat.toDigits 10 n with
  | nil => exact absurd hdigits Nat.toDigits_ne_nil
  | cons c cs =>
    obtain ⟨hlow, hhigh⟩ := toNat_of_isDigit (hdigit c (hdigits ▸ List.mem_cons_self))
    have hkept : ¬isTrimmed c = true := by
      simp [isTrimmed]
      omega
    unfold parseInt
    rw [hlist, hdigits, List.dropWhile_cons_of_neg hkept]
    have hall : (c :: cs).takeWhile Char.isDigit = c :: cs := by
      rw [← hdigits]
      exact List.takeWhile_eq_self_iff.mpr hdigit
    split
    next rest heq =>
      rw [(List.cons.inj heq).1] at hlow
      exact absurd hlow (by decide)
    next rest heq =>
      rw [(List.cons.inj heq).1] at hlow
      exact absurd hlow (by decide)
    · dsimp only
      rw [hall, if_neg (List.cons_ne_nil c cs), ← hdigits, Nat.ofDigitChars_ten_toDigits, ofNat_of_lt h]

/-! ## Whole numbers among themselves -/

theorem max_int (a b : Int) : max (int a) (int b) = int (if a < b then b else a) := by
  by_cases h : a < b
  · simp [max, lt, value, h]
  · simp [max, lt, value, h]

theorem min_int (a b : Int) : min (int a) (int b) = int (if b < a then b else a) := by
  by_cases h : b < a
  · simp [min, lt, value, h]
  · simp [min, lt, value, h]

/-- A finite number is one or more, or comes to one. -/
theorem max_one_of_isFinite {a : JsNumber} (h : a.isFinite = true) :
    ∃ n : Int, 1 ≤ n ∧ max (int 1) a = int n := by
  cases a with
  | nan => exact absurd h (by decide)
  | infinity => exact absurd h (by decide)
  | negInfinity => exact absurd h (by decide)
  | negZero => exact ⟨1, by decide, by decide⟩
  | int n =>
    refine ⟨_, ?_, max_int 1 n⟩
    split
    · omega
    · omega

theorem mul_int {a b : Int} (ha : 0 ≤ a) (hb : 0 ≤ b) : mul (int a) (int b) = int (a * b) := by
  have hsigns : ((int a).isNegative != (int b).isNegative) = false := by
    simp [isNegative, Int.not_lt.mpr ha, Int.not_lt.mpr hb]
  unfold mul
  rw [hsigns]
  by_cases hzero : a = 0 ∨ b = 0
  · have hproduct : a * b = 0 := Int.mul_eq_zero.mpr hzero
    simp [isFinite, isZero, zero, hzero, hproduct]
  · simp [isFinite, isZero, value, hzero]

example : parseInt " -12px" = int (-12) := by decide
example : parseInt "9007199254740993" = int 9007199254740992 := by decide +kernel

end JsNumber

end Unitae
