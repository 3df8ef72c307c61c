import Mathlib.Data.List.Infix
import Unitae.Base.Utf8

/-!
# Percent-encoding and form-encoded pairs

Text is percent-encoded byte by byte. A form is a list of names and values, joined by `&` and `=`, with a
space as `+`. What was serialized is parsed again (`parse_serialize`), and percent-encoding the text of a
form leaves its pairs alone (`parse_percentEncode`).
-/

namespace UrlEncoded

/-! ## Percent-encoding -/

def hexDigit (n : Nat) : Nat := if n < 10 then 0x30 + n else 0x41 + (n - 10)

def hexValue (b : Nat) : Option Nat :=
  if 0x30 ≤ b ∧ b ≤ 0x39 then some (b - 0x30)
  else if 0x41 ≤ b ∧ b ≤ 0x46 then some (b - 0x37)
  else if 0x61 ≤ b ∧ b ≤ 0x66 then some (b - 0x57)
  else none

/-- `%`, and two digits. -/
def percentByte (b : Nat) : List Nat := [0x25, hexDigit (b / 16), hexDigit (b % 16)]

def encodeByte (set : Nat → Bool) (b : Nat) : List Nat := if set b then percentByte b else [b]

/-- The bytes of the text, those of the set percent-encoded. -/
def percentEncode (set : Nat → Bool) (cs : List Char) : List Char :=
  ((Utf8.encode cs).flatMap (encodeByte set)).map Char.ofNat

/-- A `%` that two digits do not follow stands for itself. -/
def percentDecode : List Nat → List Nat
  | [] => []
  | [a] => [a]
  | [a, b] => [a, b]
  | a :: b :: c :: rest =>
    if a = 0x25 then
      match hexValue b, hexValue c with
      | some high, some low => (16 * high + low) :: percentDecode rest
      | _, _ => a :: percentDecode (b :: c :: rest)
    else a :: percentDecode (b :: c :: rest)

/-! ## Forms -/

def plusToSpace (b : Nat) : Nat := if b = 0x2B then 0x20 else b

def decodeField (bs : List Nat) : List Char := Utf8.decode (percentDecode (bs.map plusToSpace))

/-- Name and value, on the two sides of the first `=`. -/
def parseField (bs : List Nat) : List Char × List Char :=
  (decodeField (bs.takeWhile (· != 0x3D)), decodeField ((bs.dropWhile (· != 0x3D)).drop 1))

def parseBytes (bs : List Nat) : List (List Char × List Char) :=
  ((bs.splitOn 0x26).filter (· != [])).map parseField

def parse (text : List Char) : List (List Char × List Char) := parseBytes (Utf8.encode text)

def isAlphanumeric (b : Nat) : Bool :=
  0x30 ≤ b && b ≤ 0x39 || 0x41 ≤ b && b ≤ 0x5A || 0x61 ≤ b && b ≤ 0x7A

/-- All but letters, digits, `*`, `-`, `.` and `_`. -/
def formSet (b : Nat) : Bool := !(isAlphanumeric b || [0x2A, 0x2D, 0x2E, 0x5F].contains b)

def fieldByte (b : Nat) : List Nat := if b = 0x20 then [0x2B] else encodeByte formSet b

def fieldBytes (cs : List Char) : List Nat := (Utf8.encode cs).flatMap fieldByte

def pairBytes (pair : List Char × List Char) : List Nat := fieldBytes pair.1 ++ 0x3D :: fieldBytes pair.2

def serialize (pairs : List (List Char × List Char)) : List Char :=
  ([0x26].intercalate (pairs.map pairBytes)).map Char.ofNat

/-! ## One byte at a time -/

theorem hexDigit_cases {n : Nat} (h : n < 16) :
    0x30 ≤ hexDigit n ∧ hexDigit n ≤ 0x39 ∨ 0x41 ≤ hexDigit n ∧ hexDigit n ≤ 0x46 := by
  unfold hexDigit
  split <;> omega

theorem hexValue_hexDigit {n : Nat} (h : n < 16) : hexValue (hexDigit n) = some n := by
  unfold hexValue hexDigit
  by_cases hten : n < 10
  · rw [if_pos hten, if_pos (by omega)]
    congr 1
    omega
  · rw [if_neg hten, if_neg (by omega), if_pos (by omega)]
    congr 1
    omega

theorem percentDecode_digits {b c high low : Nat} (hb : hexValue b = some high) (hc : hexValue c = some low)
    (rest : List Nat) : percentDecode (0x25 :: b :: c :: rest) = (16 * high + low) :: percentDecode rest := by
  rw [percentDecode, if_pos rfl, hb, hc]

theorem percentDecode_percentByte {b : Nat} (hb : b < 0x100) (rest : List Nat) :
    percentDecode (percentByte b ++ rest) = b :: percentDecode rest := by
  have hsum : 16 * (b / 16) + b % 16 = b := by omega
  show percentDecode (0x25 :: hexDigit (b / 16) :: hexDigit (b % 16) :: rest) = _
  rw [percentDecode_digits (hexValue_hexDigit (by omega)) (hexValue_hexDigit (by omega)), hsum]

theorem percentDecode_cons {b : Nat} (hb : b ≠ 0x25) (rest : List Nat) :
    percentDecode (b :: rest) = b :: percentDecode rest := by
  match rest with
  | [] => rfl
  | [_] => rfl
  | _ :: _ :: _ =>
    rw [percentDecode, if_neg hb]

/-- The two digits a `%` asks for. -/
def digitsFirst : List Nat → Bool
  | b :: c :: _ => (hexValue b).isSome && (hexValue c).isSome
  | _ => false

theorem percentDecode_percent {rest : List Nat} (h : digitsFirst rest = false) :
    percentDecode (0x25 :: rest) = 0x25 :: percentDecode rest := by
  match rest with
  | [] => rfl
  | [_] => rfl
  | b :: c :: tail =>
    have hdigits : ((hexValue b).isSome && (hexValue c).isSome) = false := h
    rw [percentDecode, if_pos rfl]
    cases hb : hexValue b with
    | none => rfl
    | some high =>
      cases hc : hexValue c with
      | none => rfl
      | some low =>
        rw [hb, hc] at hdigits
        exact absurd hdigits.symm Bool.false_ne_true

/-! ## Round trip -/

theorem alphanumeric_iff {b : Nat} : isAlphanumeric b = true ↔
    0x30 ≤ b ∧ b ≤ 0x39 ∨ 0x41 ≤ b ∧ b ≤ 0x5A ∨ 0x61 ≤ b ∧ b ≤ 0x7A := by
  unfold isAlphanumeric
  simp only [Bool.or_eq_true, Bool.and_eq_true, decide_eq_true_eq, or_assoc]

theorem formSet_eq_false {b : Nat} : formSet b = false ↔
    (0x30 ≤ b ∧ b ≤ 0x39 ∨ 0x41 ≤ b ∧ b ≤ 0x5A ∨ 0x61 ≤ b ∧ b ≤ 0x7A) ∨
      b = 0x2A ∨ b = 0x2D ∨ b = 0x2E ∨ b = 0x5F := by
  unfold formSet
  rw [Bool.not_eq_false', Bool.or_eq_true, alphanumeric_iff]
  simp

/-- What a field is written with. -/
theorem mem_fieldByte {b c : Nat} (hb : b < 0x100) (h : c ∈ fieldByte b) :
    c = 0x2B ∨ c = 0x25 ∨ formSet c = false := by
  have hdigit : ∀ n, n < 16 → formSet (hexDigit n) = false := by
    intro n hn
    have := hexDigit_cases hn
    rw [formSet_eq_false]
    omega
  unfold fieldByte at h
  split at h
  · exact .inl (List.mem_singleton.mp h)
  · unfold encodeByte at h
    split at h
    · unfold percentByte at h
      simp only [List.mem_cons, List.not_mem_nil, or_false] at h
      rcases h with rfl | rfl | rfl
      · exact .inr (.inl rfl)
      · exact .inr (.inr (hdigit _ (by omega)))
      · exact .inr (.inr (hdigit _ (by omega)))
    · next hset =>
      rw [List.mem_singleton.mp h]
      exact .inr (.inr (by simpa using hset))

theorem map_plusToSpace_percentByte {b : Nat} (hb : b < 0x100) :
    (percentByte b).map plusToSpace = percentByte b := by
  have hdigit : ∀ n, n < 16 → plusToSpace (hexDigit n) = hexDigit n := by
    intro n hn
    have := hexDigit_cases hn
    exact if_neg (by omega)
  unfold percentByte
  rw [List.map_cons, List.map_cons, List.map_cons, hdigit _ (by omega), hdigit _ (by omega)]
  rfl

theorem percentDecode_fieldByte {b : Nat} (hb : b < 0x100) (rest : List Nat) :
    percentDecode ((fieldByte b).map plusToSpace ++ rest) = b :: percentDecode rest := by
  unfold fieldByte encodeByte
  by_cases hspace : b = 0x20
  · rw [if_pos hspace, hspace]
    exact percentDecode_cons (by decide) rest
  · rw [if_neg hspace]
    cases hset : formSet b with
    | true => rw [if_pos rfl, map_plusToSpace_percentByte hb, percentDecode_percentByte hb]
    | false =>
      have hplain := formSet_eq_false.mp hset
      have hplus : plusToSpace b = b := if_neg (by omega)
      rw [if_neg Bool.false_ne_true, List.map_singleton, hplus]
      exact percentDecode_cons (by omega) rest

theorem decodeField_fieldBytes (cs : List Char) : decodeField (fieldBytes cs) = cs := by
  have hbytes : ∀ bs : List Nat, (∀ b ∈ bs, b < 0x100) →
      percentDecode ((bs.flatMap fieldByte).map plusToSpace) = bs := by
    intro bs
    induction bs with
    | nil => exact fun _ => rfl
    | cons b bs ih =>
      intro h
      rw [List.flatMap_cons, List.map_append, percentDecode_fieldByte (h b List.mem_cons_self),
        ih fun b' hb' => h b' (List.mem_cons_of_mem b hb')]
  unfold decodeField fieldBytes
  rw [hbytes _ fun b hb => Utf8.lt_of_mem_encode hb, Utf8.decode_encode]

theorem mem_fieldBytes {cs : List Char} {c : Nat} (h : c ∈ fieldBytes cs) :
    c = 0x2B ∨ c = 0x25 ∨ formSet c = false := by
  obtain ⟨b, hb, hc⟩ := List.mem_flatMap.mp h
  exact mem_fieldByte (Utf8.lt_of_mem_encode hb) hc

theorem mem_pairBytes {pair : List Char × List Char} {c : Nat} (h : c ∈ pairBytes pair) :
    c = 0x3D ∨ c = 0x2B ∨ c = 0x25 ∨ formSet c = false := by
  unfold pairBytes at h
  rw [List.mem_append, List.mem_cons] at h
  rcases h with h | h | h
  · exact .inr (mem_fieldBytes h)
  · exact .inl h
  · exact .inr (mem_fieldBytes h)

theorem parseField_pairBytes (pair : List Char × List Char) : parseField (pairBytes pair) = pair := by
  have hname : ∀ c ∈ fieldBytes pair.1, (c != 0x3D) = true := by
    intro c hc
    have hcases := mem_fieldBytes hc
    rw [formSet_eq_false] at hcases
    rw [bne_iff_ne]
    omega
  unfold parseField pairBytes
  rw [List.takeWhile_append_of_pos hname, List.dropWhile_append_of_pos hname,
    List.takeWhile_cons_of_neg (by decide), List.dropWhile_cons_of_neg (by decide), List.append_nil]
  show (decodeField _, decodeField _) = pair
  rw [decodeField_fieldBytes, List.drop_one, List.tail_cons, decodeField_fieldBytes]

theorem mem_intercalate {α : Type} {a c : α} {ls : List (List α)} (h : c ∈ [a].intercalate ls) :
    c = a ∨ ∃ l ∈ ls, c ∈ l := by
  induction ls with
  | nil => exact absurd h (by simp)
  | cons l ls ih =>
    cases ls with
    | nil =>
      rw [List.intercalate_singleton] at h
      exact .inr ⟨l, List.mem_cons_self, h⟩
    | cons l' ls =>
      rw [List.intercalate_cons_cons, List.mem_append, List.mem_append, List.mem_singleton] at h
      rcases h with (h | h) | h
      · exact .inr ⟨l, List.mem_cons_self, h⟩
      · exact .inl h
      · rcases ih h with hsep | ⟨k, hk, hmem⟩
        · exact .inl hsep
        · exact .inr ⟨k, List.mem_cons_of_mem l hk, hmem⟩

theorem mem_pairs {pairs : List (List Char × List Char)} {c : Nat}
    (h : c ∈ [0x26].intercalate (pairs.map pairBytes)) :
    c = 0x26 ∨ c = 0x3D ∨ c = 0x2B ∨ c = 0x25 ∨ formSet c = false := by
  rcases mem_intercalate h with hsep | ⟨bs, hbs, hmem⟩
  · exact .inl hsep
  · obtain ⟨pair, -, rfl⟩ := List.mem_map.mp hbs
    exact .inr (mem_pairBytes hmem)

/-- No white space, no `#` and no `?` in what is serialized. -/
theorem mem_serialize {pairs : List (List Char × List Char)} {c : Char} (h : c ∈ serialize pairs) :
    0x20 < c.toNat ∧ c ≠ '#' ∧ c ≠ '?' := by
  obtain ⟨b, hb, rfl⟩ := List.mem_map.mp h
  have hcases := mem_pairs hb
  rw [formSet_eq_false] at hcases
  have hnat : (Char.ofNat b).toNat = b := Utf8.toNat_ofNat_ascii ⟨b, by omega⟩
  refine ⟨by omega, ?_, ?_⟩
  · intro heq
    have hhash : b = 0x23 := by rw [← hnat, heq]; rfl
    omega
  · intro heq
    have hquestion : b = 0x3F := by rw [← hnat, heq]; rfl
    omega

/-- **What is serialized is parsed again**, in its order. -/
theorem parse_serialize (pairs : List (List Char × List Char)) : parse (serialize pairs) = pairs := by
  have hascii : ∀ c ∈ [0x26].intercalate (pairs.map pairBytes), c < 0x80 := by
    intro c hc
    have hcases := mem_pairs hc
    rw [formSet_eq_false] at hcases
    omega
  unfold parse parseBytes serialize
  rw [Utf8.encode_map_ofNat hascii]
  cases pairs with
  | nil => rfl
  | cons pair pairs =>
    have hapart : ∀ bs ∈ (pair :: pairs).map pairBytes, 0x26 ∉ bs := by
      intro bs hbs hmem
      obtain ⟨p, -, rfl⟩ := List.mem_map.mp hbs
      have hcases := mem_pairBytes hmem
      rw [formSet_eq_false] at hcases
      omega
    have hkept : ∀ bs ∈ (pair :: pairs).map pairBytes, (bs != []) = true := by
      intro bs hbs
      obtain ⟨p, -, rfl⟩ := List.mem_map.mp hbs
      unfold pairBytes
      simp
    rw [List.splitOn_intercalate 0x26 hapart (by simp), List.filter_eq_self.mpr hkept, List.map_map]
    have hpairs : parseField ∘ pairBytes = id := funext parseField_pairBytes
    rw [hpairs, List.map_id]

/-! ## A form in an address -/

theorem mem_of_mem_splitOnP {α : Type} {p : α → Bool} {xs l : List α} {x : α} (hl : l ∈ xs.splitOnP p)
    (hx : x ∈ l) : x ∈ xs ∧ p x = false := by
  induction xs generalizing l with
  | nil =>
    rw [List.splitOnP_nil, List.mem_singleton] at hl
    exact absurd hx (by simp [hl])
  | cons y ys ih =>
    rw [List.splitOnP_cons_eq_if_modifyHead] at hl
    cases hy : p y with
    | true =>
      rw [hy, if_pos rfl] at hl
      rcases List.mem_cons.mp hl with rfl | htail
      · exact absurd hx (by simp)
      · exact (ih htail hx).imp (List.mem_cons_of_mem y) id
    | false =>
      rw [hy, if_neg Bool.false_ne_true] at hl
      obtain ⟨head, tail, hsplit⟩ := List.exists_cons_of_ne_nil (List.splitOnP_ne_nil p ys)
      rw [hsplit, List.modifyHead_cons] at hl
      rcases List.mem_cons.mp hl with rfl | htail
      · rcases List.mem_cons.mp hx with rfl | hmem
        · exact ⟨List.mem_cons_self, hy⟩
        · exact (ih (by rw [hsplit]; exact List.mem_cons_self) hmem).imp (List.mem_cons_of_mem y) id
      · exact (ih (by rw [hsplit]; exact List.mem_cons_of_mem head htail) hx).imp
          (List.mem_cons_of_mem y) id

/-- What no separator is in goes to the first piece. -/
theorem splitOn_append_of_not_mem {a : Nat} {xs : List Nat} (h : a ∉ xs) (ys : List Nat) :
    (xs ++ ys).splitOn a = (ys.splitOn a).modifyHead (xs ++ ·) := by
  induction xs with
  | nil =>
    obtain ⟨head, tail, hsplit⟩ := List.exists_cons_of_ne_nil (List.splitOn_ne_nil a ys)
    rw [List.nil_append, hsplit]
    rfl
  | cons x xs ih =>
    have hx : ¬(x == a) = true := by
      rw [beq_iff_eq]
      exact fun heq => h (heq ▸ List.mem_cons_self)
    rw [List.cons_append, List.splitOn_cons_eq_if_modifyHead, if_neg hx,
      ih fun hmem => h (List.mem_cons_of_mem x hmem), List.modifyHead_modifyHead]
    rfl

/-- A percent-encode set that leaves the form's own characters alone, and takes all above 0x7F. -/
structure KeepsForms (set : Nat → Bool) : Prop where
  percent : set 0x25 = false
  ampersand : set 0x26 = false
  plus : set 0x2B = false
  equals : set 0x3D = false
  digit : ∀ b, (hexValue b).isSome = true → set b = false
  high : ∀ b, 0x80 ≤ b → set b = true

theorem hexDigit_lt {n : Nat} (h : n < 16) : hexDigit n < 0x80 := by
  have := hexDigit_cases h
  omega

theorem mem_encodeByte {set : Nat → Bool} {b c : Nat} (hb : b < 0x100) (h : c ∈ encodeByte set b) :
    c = b ∧ set b = false ∨
      c = 0x25 ∨ 0x30 ≤ c ∧ c ≤ 0x39 ∨ 0x41 ≤ c ∧ c ≤ 0x46 := by
  unfold encodeByte at h
  cases hset : set b with
  | true =>
    rw [hset, if_pos rfl] at h
    unfold percentByte at h
    simp only [List.mem_cons, List.not_mem_nil, or_false] at h
    rcases h with rfl | rfl | rfl
    · exact .inr (.inl rfl)
    · exact .inr (.inr (hexDigit_cases (by omega)))
    · exact .inr (.inr (hexDigit_cases (by omega)))
  | false =>
    rw [hset, if_neg Bool.false_ne_true] at h
    exact .inl ⟨List.mem_singleton.mp h, rfl⟩

theorem encodeByte_ne_nil (set : Nat → Bool) (b : Nat) : encodeByte set b ≠ [] := by
  unfold encodeByte percentByte
  split <;> simp

theorem not_mem_encodeByte {set : Nat → Bool} {a b : Nat} (ha : a = 0x26 ∨ a = 0x3D)
    (hb : b < 0x100) (hne : b ≠ a) :
    a ∉ encodeByte set b := by
  intro hmem
  rcases mem_encodeByte hb hmem with ⟨heq, -⟩ | hcode
  · exact hne heq.symm
  · omega

theorem splitOn_flatMap {set : Nat → Bool} (hset : KeepsForms set) {bs : List Nat}
    (hbs : ∀ b ∈ bs, b < 0x100) :
    (bs.flatMap (encodeByte set)).splitOn 0x26 = (bs.splitOn 0x26).map (·.flatMap (encodeByte set)) := by
  induction bs with
  | nil => rfl
  | cons b bs ih =>
    have hrest := ih fun b' hb' => hbs b' (List.mem_cons_of_mem b hb')
    rw [List.flatMap_cons, List.splitOn_cons_eq_if_modifyHead]
    by_cases hb : b = 0x26
    · have hkeep : encodeByte set b = [0x26] := by
        rw [hb]
        exact if_neg (by rw [hset.ampersand]; exact Bool.false_ne_true)
      rw [hkeep, List.singleton_append, List.splitOn_cons_eq_if_modifyHead, if_pos (by rfl),
        if_pos (by rw [hb]; rfl), hrest]
      rfl
    · rw [splitOn_append_of_not_mem
        (not_mem_encodeByte (.inl rfl) (hbs b List.mem_cons_self) hb), if_neg (by simpa using hb), hrest]
      cases bs.splitOn 0x26 <;> rfl

/-- The two sides of the first `=`. -/
theorem sides_flatMap {set : Nat → Bool} (hset : KeepsForms set) {bs : List Nat}
    (hbs : ∀ b ∈ bs, b < 0x100) :
    (bs.flatMap (encodeByte set)).takeWhile (· != 0x3D) =
        (bs.takeWhile (· != 0x3D)).flatMap (encodeByte set) ∧
      ((bs.flatMap (encodeByte set)).dropWhile (· != 0x3D)).drop 1 =
        ((bs.dropWhile (· != 0x3D)).drop 1).flatMap (encodeByte set) := by
  induction bs with
  | nil => exact ⟨rfl, rfl⟩
  | cons b bs ih =>
    have hrest := ih fun b' hb' => hbs b' (List.mem_cons_of_mem b hb')
    rw [List.flatMap_cons]
    by_cases hb : b = 0x3D
    · have hkeep : encodeByte set b = [0x3D] := by
        rw [hb]
        exact if_neg (by rw [hset.equals]; exact Bool.false_ne_true)
      rw [hkeep, hb]
      exact ⟨rfl, rfl⟩
    · have hbytes : ∀ c ∈ encodeByte set b, (c != 0x3D) = true := by
        intro c hc
        rw [bne_iff_ne]
        intro heq
        exact not_mem_encodeByte (.inr rfl) (hbs b List.mem_cons_self) hb (heq ▸ hc)
      have hcond : (b != 0x3D) = true := bne_iff_ne.mpr hb
      rw [List.takeWhile_append_of_pos hbytes, List.dropWhile_append_of_pos hbytes,
        @List.takeWhile_cons_of_pos _ (· != 0x3D) _ _ hcond,
        @List.dropWhile_cons_of_pos _ (· != 0x3D) _ _ hcond, List.flatMap_cons, hrest.1]
      exact ⟨rfl, hrest.2⟩

theorem isSome_hexValue_plusToSpace (b : Nat) : (hexValue (plusToSpace b)).isSome = (hexValue b).isSome := by
  unfold plusToSpace
  split
  · next h => rw [h]; rfl
  · rfl

theorem digitsFirst_map_plusToSpace (bs : List Nat) : digitsFirst (bs.map plusToSpace) = digitsFirst bs := by
  match bs with
  | [] => rfl
  | [_] => rfl
  | b :: c :: _ =>
    show ((hexValue (plusToSpace b)).isSome && (hexValue (plusToSpace c)).isSome) = _
    rw [isSome_hexValue_plusToSpace, isSome_hexValue_plusToSpace]
    rfl

theorem plusToSpace_digit {b : Nat} (h : (hexValue b).isSome = true) : plusToSpace b = b := by
  unfold plusToSpace
  rw [if_neg]
  rintro rfl
  exact absurd h (by decide)

theorem encodeByte_digit {set : Nat → Bool} (hset : KeepsForms set) {b : Nat}
    (h : (hexValue b).isSome = true) : encodeByte set b = [b] := by
  unfold encodeByte
  rw [hset.digit b h]
  rfl

/-- What begins with no digit still begins with none. -/
theorem head_encodeByte {set : Nat → Bool} {b : Nat} (h : (hexValue b).isSome = false) :
    ∃ c tail, encodeByte set b = c :: tail ∧ (hexValue c).isSome = false := by
  unfold encodeByte
  split
  · exact ⟨0x25, _, rfl, rfl⟩
  · exact ⟨b, [], rfl, h⟩

theorem digitsFirst_flatMap {set : Nat → Bool} (hset : KeepsForms set) (bs : List Nat) :
    digitsFirst (bs.flatMap (encodeByte set)) = digitsFirst bs := by
  cases bs with
  | nil => rfl
  | cons b bs =>
    rw [List.flatMap_cons]
    cases hb : (hexValue b).isSome with
    | false =>
      obtain ⟨c, tail, hbytes, hc⟩ := @head_encodeByte set b hb
      rw [hbytes, List.cons_append]
      cases htail : tail ++ bs.flatMap (encodeByte set) <;> cases bs <;> simp [digitsFirst, hb, hc]
    | true =>
      rw [encodeByte_digit hset hb, List.singleton_append]
      cases bs with
      | nil => rfl
      | cons c bs =>
        rw [List.flatMap_cons]
        cases hc : (hexValue c).isSome with
        | false =>
          obtain ⟨d, tail, hbytes, hd⟩ := @head_encodeByte set c hc
          rw [hbytes, List.cons_append]
          simp [digitsFirst, hc, hd]
        | true =>
          rw [encodeByte_digit hset hc]
          rfl

/-- **Percent-decoding undoes the percent-encoding of an address**, before the form's own. -/
theorem percentDecode_flatMap {set : Nat → Bool} (hset : KeepsForms set) (bs : List Nat)
    (hbs : ∀ b ∈ bs, b < 0x100) :
    percentDecode ((bs.flatMap (encodeByte set)).map plusToSpace) = percentDecode (bs.map plusToSpace) := by
  match bs with
  | [] => rfl
  | b :: bs =>
    have hrest : ∀ b' ∈ bs, b' < 0x100 := fun b' hb' => hbs b' (List.mem_cons_of_mem b hb')
    have ih := percentDecode_flatMap hset bs hrest
    rw [List.flatMap_cons, List.map_append, List.map_cons]
    by_cases hpercent : b = 0x25
    · have hkeep : (encodeByte set b).map plusToSpace = [0x25] := by
        unfold encodeByte
        rw [hpercent, hset.percent]
        rfl
      rw [hkeep, hpercent, List.singleton_append]
      show percentDecode (0x25 :: _) = percentDecode (0x25 :: _)
      -- Two digits are kept and read with the `%`; anything else leaves it alone on both sides.
      cases hdigits : digitsFirst bs with
      | false =>
        rw [percentDecode_percent (by rw [digitsFirst_map_plusToSpace, digitsFirst_flatMap hset, hdigits]),
          percentDecode_percent (by rw [digitsFirst_map_plusToSpace, hdigits]), ih]
      | true =>
        match bs with
        | high :: low :: tail =>
          have htail := percentDecode_flatMap hset tail fun b' hb' =>
            hrest b' (List.mem_cons_of_mem high (List.mem_cons_of_mem low hb'))
          rw [digitsFirst, Bool.and_eq_true] at hdigits
          obtain ⟨h, hh⟩ := Option.isSome_iff_exists.mp hdigits.1
          obtain ⟨l, hl⟩ := Option.isSome_iff_exists.mp hdigits.2
          rw [List.flatMap_cons, List.flatMap_cons, encodeByte_digit hset hdigits.1,
            encodeByte_digit hset hdigits.2, List.singleton_append, List.singleton_append,
            List.map_cons, List.map_cons, List.map_cons, List.map_cons, plusToSpace_digit hdigits.1,
            plusToSpace_digit hdigits.2, percentDecode_digits hh hl, percentDecode_digits hh hl, htail]
    · have hplus : plusToSpace b ≠ 0x25 := by
        unfold plusToSpace
        split <;> omega
      rw [percentDecode_cons hplus]
      cases hb : set b with
      | true =>
        have hcoded : encodeByte set b = percentByte b := if_pos hb
        have hne : b ≠ 0x2B := by
          rintro rfl
          rw [hset.plus] at hb
          exact Bool.false_ne_true hb
        rw [hcoded, map_plusToSpace_percentByte (hbs b List.mem_cons_self),
          percentDecode_percentByte (hbs b List.mem_cons_self), ih]
        exact congrArg (· :: _) (if_neg hne).symm
      | false =>
        have hkeep : encodeByte set b = [b] := if_neg (by rw [hb]; exact Bool.false_ne_true)
        rw [hkeep, List.map_singleton, List.singleton_append, percentDecode_cons hplus, ih]
termination_by bs.length

theorem parseField_flatMap {set : Nat → Bool} (hset : KeepsForms set) {bs : List Nat}
    (hbs : ∀ b ∈ bs, b < 0x100) : parseField (bs.flatMap (encodeByte set)) = parseField bs := by
  have hsides := sides_flatMap hset hbs
  have hname : ∀ b ∈ bs.takeWhile (· != 0x3D), b < 0x100 :=
    fun b hb => hbs b ((List.takeWhile_prefix _).subset hb)
  have hvalue : ∀ b ∈ (bs.dropWhile (· != 0x3D)).drop 1, b < 0x100 :=
    fun b hb => hbs b ((List.dropWhile_suffix _).subset (List.mem_of_mem_drop hb))
  unfold parseField decodeField
  rw [hsides.1, hsides.2, percentDecode_flatMap hset _ hname, percentDecode_flatMap hset _ hvalue]

theorem parseBytes_flatMap {set : Nat → Bool} (hset : KeepsForms set) {bs : List Nat}
    (hbs : ∀ b ∈ bs, b < 0x100) : parseBytes (bs.flatMap (encodeByte set)) = parseBytes bs := by
  have hempty : ∀ field : List Nat, (field.flatMap (encodeByte set) != []) = (field != []) := by
    intro field
    cases field with
    | nil => rfl
    | cons b field =>
      obtain ⟨c, tail, hbytes⟩ := List.exists_cons_of_ne_nil (encodeByte_ne_nil set b)
      rw [List.flatMap_cons, hbytes]
      rfl
  unfold parseBytes
  rw [splitOn_flatMap hset hbs, List.filter_map, List.map_map]
  have hfilter : (bs.splitOn 0x26).filter ((· != []) ∘ (·.flatMap (encodeByte set))) =
      (bs.splitOn 0x26).filter (· != []) := List.filter_congr fun field _ => hempty field
  rw [hfilter]
  apply List.map_congr_left
  intro field hfield
  apply parseField_flatMap hset
  intro b hb
  exact hbs b (mem_of_mem_splitOnP (List.mem_of_mem_filter hfield) hb).1

/-- What is percent-encoded keeps what is not in the set, and adds a `%` and digits. -/
theorem mem_percentEncode {set : Nat → Bool} (hhigh : ∀ b, 0x80 ≤ b → set b = true) {text : List Char}
    {c : Char} (h : c ∈ percentEncode set text) :
    c ∈ text ∧ set c.toNat = false ∨
      c.toNat = 0x25 ∨ 0x30 ≤ c.toNat ∧ c.toNat ≤ 0x39 ∨ 0x41 ≤ c.toNat ∧ c.toNat ≤ 0x46 := by
  obtain ⟨code, hcode, rfl⟩ := List.mem_map.mp h
  obtain ⟨b, hb, hmem⟩ := List.mem_flatMap.mp hcode
  have hnat : ∀ n, n < 0x80 → (Char.ofNat n).toNat = n := fun n hn => Utf8.toNat_ofNat_ascii ⟨n, hn⟩
  rcases mem_encodeByte (Utf8.lt_of_mem_encode hb) hmem with ⟨rfl, hkeep⟩ | hdigits
  · have hlow : code < 0x80 := by
      by_contra hge
      rw [hhigh code (by omega)] at hkeep
      exact Bool.false_ne_true hkeep.symm
    exact .inl ⟨Utf8.mem_of_mem_encode hb hlow, by rw [hnat code hlow]; exact hkeep⟩
  · rw [hnat code (by omega)]
    exact .inr hdigits

/-- **The pairs of a form are those of the form in an address.** -/
theorem parse_percentEncode {set : Nat → Bool} (hset : KeepsForms set) (text : List Char) :
    parse (percentEncode set text) = parse text := by
  have hascii : ∀ c ∈ (Utf8.encode text).flatMap (encodeByte set), c < 0x80 := by
    intro c hc
    obtain ⟨b, hb, hmem⟩ := List.mem_flatMap.mp hc
    rcases mem_encodeByte (Utf8.lt_of_mem_encode hb) hmem with ⟨rfl, hkeep⟩ | hcode
    · by_contra hhigh
      rw [hset.high c (by omega)] at hkeep
      exact Bool.false_ne_true hkeep.symm
    · omega
  unfold parse percentEncode
  rw [Utf8.encode_map_ofNat hascii, parseBytes_flatMap hset fun b hb => Utf8.lt_of_mem_encode hb]

/-- A `?` in front goes to the first name. -/
theorem parse_question (text : List Char) : ∃ name value rest,
    parse ('?' :: text) = ('?' :: name, value) :: rest ∧
      (parse text = (name, value) :: rest ∨ parse text = rest) := by
  obtain ⟨field, fields, hsplit⟩ :=
    List.exists_cons_of_ne_nil (List.splitOn_ne_nil 0x26 (Utf8.encode text))
  have hquestion : (0x3F :: Utf8.encode text).splitOn 0x26 = (0x3F :: field) :: fields := by
    rw [List.splitOn_cons_eq_if_modifyHead, if_neg (by decide), hsplit]
    rfl
  have hname : ∀ bs : List Nat, decodeField (0x3F :: bs) = '?' :: decodeField bs := by
    intro bs
    unfold decodeField
    rw [List.map_cons]
    show Utf8.decode (percentDecode (0x3F :: _)) = _
    exact (congrArg Utf8.decode (percentDecode_cons (by decide) _)).trans (Utf8.decode_ascii (by decide) _)
  have hfield : parseField (0x3F :: field) = ('?' :: (parseField field).1, (parseField field).2) :=
    Prod.ext (hname _) rfl
  refine ⟨(parseField field).1, (parseField field).2, (fields.filter (· != [])).map parseField, ?_, ?_⟩
  · show parseBytes (0x3F :: Utf8.encode text) = _
    unfold parseBytes
    rw [hquestion, List.filter_cons_of_pos (by rfl), List.map_cons, hfield]
  · unfold parse parseBytes
    rw [hsplit]
    cases field with
    | nil => exact .inr rfl
    | cons b field => exact .inl rfl

end UrlEncoded
