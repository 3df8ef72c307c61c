import Mathlib.Data.List.Basic
import Mathlib.Tactic.IntervalCases

/-!
# Addresses and their texts

The texts of IPv4 and IPv6 addresses: four decimal numbers without leading zeros; eight groups of one
to four hexadecimal digits, a run of zero groups left out as `::`, the last two groups in decimal.
A zone is not part of the text.

`parseIpv6_toLower` is that the case of the digits does not matter, and `parseIpv6_double` says what a
text that starts with `::` is read as.
-/

structure Ipv4 where
  a : Fin 256
  b : Fin 256
  c : Fin 256
  d : Fin 256
deriving DecidableEq, Repr

/-- The groups of an address are written as numerals. -/
instance neZeroGroup : NeZero 65536 := ⟨by decide⟩

/-- Eight groups of sixteen bits. -/
structure Ipv6 where
  groups : List (Fin 65536)
  eight : groups.length = 8
deriving DecidableEq, Repr

theorem Ipv6.ext_groups {x y : Ipv6} (h : x.groups = y.groups) : x = y := by
  cases x
  cases y
  cases h
  rfl

/-- Two octets as one group. -/
def octetPair (high low : Fin 256) : Fin 65536 := ⟨256 * high.val + low.val, by omega⟩

/-- The two groups an IPv4 address takes in an IPv6 one. -/
def Ipv4.groups (a : Ipv4) : List (Fin 65536) := [octetPair a.a a.b, octetPair a.c a.d]

/-- The octets of two groups. -/
def Ipv4.ofGroups (high low : Fin 65536) : Ipv4 where
  a := ⟨high.val / 256, by omega⟩
  b := ⟨high.val % 256, by omega⟩
  c := ⟨low.val / 256, by omega⟩
  d := ⟨low.val % 256, by omega⟩

theorem Ipv4.ofGroups_groups (high low : Fin 65536) : (Ipv4.ofGroups high low).groups = [high, low] := by
  have hpair : ∀ g : Fin 65536, 256 * (g.val / 256) + g.val % 256 = g.val := fun g =>
    Nat.div_add_mod g.val 256
  unfold groups ofGroups octetPair
  simp only [hpair]

/-- The IPv4-mapped address. -/
def Ipv4.mapped (a : Ipv4) : Ipv6 := ⟨[0, 0, 0, 0, 0, 65535] ++ a.groups, rfl⟩

theorem Ipv4.mapped_inj {a b : Ipv4} (h : a.mapped = b.mapped) : a = b := by
  have hgroups : a.groups = b.groups := List.append_cancel_left (congrArg Ipv6.groups h)
  have hpair : ∀ {w x y z : Fin 256}, octetPair w x = octetPair y z → w = y ∧ x = z := by
    intro w x y z hpair
    have hval : 256 * w.val + x.val = 256 * y.val + z.val := congrArg Fin.val hpair
    constructor <;> omega
  obtain ⟨hhigh, hlow⟩ := List.cons.inj hgroups
  obtain ⟨ha, hb⟩ := hpair hhigh
  obtain ⟨hc, hd⟩ := hpair (List.cons.inj hlow).1
  cases a
  cases b
  cases ha
  cases hb
  cases hc
  cases hd
  rfl

/-- The number that the octets are the digits of. -/
def Ipv4.value (a : Ipv4) : Nat := ((a.a.val * 256 + a.b.val) * 256 + a.c.val) * 256 + a.d.val

/-- The number that the groups are the digits of. -/
def Ipv6.value (x : Ipv6) : Nat := x.groups.foldl (fun n g => n * 65536 + g.val) 0

/-! ## Reading -/

def decimalText (n : Nat) : List Char := (Nat.repr n).toList

/-- The octet whose decimal digits these are. -/
def parseOctet (text : List Char) : Option (Fin 256) :=
  (List.finRange 256).find? fun n => decimalText n.val == text

def parseIpv4 (text : List Char) : Option Ipv4 :=
  match (text.splitOn '.').map parseOctet with
  | [some a, some b, some c, some d] => some ⟨a, b, c, d⟩
  | _ => none

def Ipv4.text (a : Ipv4) : List Char :=
  ['.'].intercalate [decimalText a.a.val, decimalText a.b.val, decimalText a.c.val,
    decimalText a.d.val]

def hexDigit (c : Char) : Option Nat :=
  if '0' ≤ c ∧ c ≤ '9' then some (c.toNat - '0'.toNat)
  else if 'a' ≤ c ∧ c ≤ 'f' then some (c.toNat - 'a'.toNat + 10)
  else if 'A' ≤ c ∧ c ≤ 'F' then some (c.toNat - 'A'.toNat + 10)
  else none

def hexNumber (text : List Char) : Option Nat :=
  text.foldlM (fun n c => (hexDigit c).map (16 * n + ·)) 0

/-- One to four hexadecimal digits. -/
def hexGroup (text : List Char) : Option (Fin 65536) :=
  if 1 ≤ text.length ∧ text.length ≤ 4 then (hexNumber text).map (Fin.ofNat 65536) else none

/-- The groups of the pieces, the last of which may be an IPv4 address. -/
def lastGroups : List (List Char) → Option (List (Fin 65536))
  | [] => none
  | [piece] => ((hexGroup piece).map fun g => [g]).orElse fun _ => (parseIpv4 piece).map Ipv4.groups
  | piece :: pieces => (hexGroup piece).bind fun g => (lastGroups pieces).map (g :: ·)

/-- The groups of the pieces. -/
def firstGroups : List (List Char) → Option (List (Fin 65536))
  | [] => some []
  | piece :: pieces => (hexGroup piece).bind fun g => (firstGroups pieces).map (g :: ·)

/-- A side of `::`, which may be empty. -/
def sideGroups (read : List (List Char) → Option (List (Fin 65536))) (text : List Char) :
    Option (List (Fin 65536)) :=
  if text = [] then some [] else read (text.splitOn ':')

/-- The text before the first `::` and the text after it. -/
def splitDouble : List Char → Option (List Char × List Char)
  | [] => none
  | [_] => none
  | c :: c' :: text =>
    if c = ':' ∧ c' = ':' then some ([], text)
    else (splitDouble (c' :: text)).map fun sides => (c :: sides.1, sides.2)

def ofGroups (groups : List (Fin 65536)) : Option Ipv6 :=
  if h : groups.length = 8 then some ⟨groups, h⟩ else none

/-- `::` stands for at least one group. -/
def fillGroups (left right : List (Fin 65536)) : Option Ipv6 :=
  if left.length + right.length < 8 then
    ofGroups (left ++ List.replicate (8 - (left.length + right.length)) 0 ++ right)
  else none

def parseIpv6 (text : List Char) : Option Ipv6 :=
  match splitDouble text with
  | none => (lastGroups (text.splitOn ':')).bind ofGroups
  | some (left, right) =>
    (sideGroups firstGroups left).bind fun left =>
      (sideGroups lastGroups right).bind fun right => fillGroups left right

/-! ## Decimal -/

theorem decimalText_inj {m n : Nat} (h : decimalText m = decimalText n) : m = n := by
  have hrepr : Nat.toDigits 10 m = Nat.toDigits 10 n := by
    simpa [decimalText, Nat.repr] using h
  rw [← @Nat.ofDigitChars_ten_toDigits m, ← @Nat.ofDigitChars_ten_toDigits n, hrepr]

theorem parseOctet_iff {text : List Char} {n : Fin 256} :
    parseOctet text = some n ↔ decimalText n.val = text := by
  constructor
  · intro h
    simpa using List.find?_some h
  · intro h
    cases hfound : parseOctet text with
    | none =>
      have hmiss := List.find?_eq_none.mp hfound n (List.mem_finRange n)
      exact absurd (beq_iff_eq.mpr h) hmiss
    | some m =>
      have hm : decimalText m.val = text := by simpa using List.find?_some hfound
      rw [Fin.ext (decimalText_inj (hm.trans h.symm))]

theorem decimalText_isDigit {n : Nat} {c : Char} (h : c ∈ decimalText n) : c.isDigit = true := by
  have hc : c ∈ Nat.toDigits 10 n := by simpa [decimalText, Nat.repr] using h
  exact Nat.isDigit_of_mem_toDigits (by decide) (by decide) hc

theorem decimalText_ne_nil (n : Nat) : decimalText n ≠ [] := by
  intro h
  simp [decimalText, Nat.repr] at h


theorem parseIpv4_iff {text : List Char} {a : Ipv4} : parseIpv4 text = some a ↔ text = a.text := by
  constructor
  · intro h
    unfold parseIpv4 at h
    split at h
    · next o₁ o₂ o₃ o₄ hpieces =>
      obtain ⟨p₁, rest, hsplit, h₁, hrest⟩ := List.map_eq_cons_iff.mp hpieces
      obtain ⟨p₂, rest, rfl, h₂, hrest⟩ := List.map_eq_cons_iff.mp hrest
      obtain ⟨p₃, rest, rfl, h₃, hrest⟩ := List.map_eq_cons_iff.mp hrest
      obtain ⟨p₄, rest, rfl, h₄, hrest⟩ := List.map_eq_cons_iff.mp hrest
      rw [List.map_eq_nil_iff.mp hrest] at hsplit
      rw [← Option.some.inj h, Ipv4.text, parseOctet_iff.mp h₁, parseOctet_iff.mp h₂,
        parseOctet_iff.mp h₃, parseOctet_iff.mp h₄, ← hsplit, List.intercalate_splitOn]
    · cases h
  · intro h
    have hdot : ∀ piece ∈ [decimalText a.a.val, decimalText a.b.val, decimalText a.c.val,
        decimalText a.d.val], '.' ∉ piece := by
      intro piece hpiece hmem
      simp only [List.mem_cons, List.not_mem_nil, or_false] at hpiece
      rcases hpiece with rfl | rfl | rfl | rfl <;> exact absurd (decimalText_isDigit hmem) (by decide)
    rw [h, Ipv4.text, parseIpv4, List.splitOn_intercalate _ hdot (by simp)]
    simp only [List.map_cons, List.map_nil, parseOctet_iff.mpr rfl]

theorem parseIpv4_text (a : Ipv4) : parseIpv4 a.text = some a := parseIpv4_iff.mpr rfl

/-- The text of an IPv4 address is digits and dots. -/
theorem mem_text {a : Ipv4} {c : Char} (h : c ∈ a.text) : c = '.' ∨ c.isDigit = true := by
  have hall : ∀ c ∈ ['.'].intercalate [decimalText a.a.val, decimalText a.b.val,
      decimalText a.c.val, decimalText a.d.val], c = '.' ∨ c.isDigit = true := by
    intro c hc
    simp only [List.intercalate, List.intersperse, List.flatten_cons, List.flatten_nil,
      List.append_nil, List.mem_append, List.mem_singleton] at hc
    rcases hc with hc | hc | hc | hc | hc | hc | hc
    all_goals first | exact .inl hc | exact .inr (decimalText_isDigit hc)
  exact hall c h

/-! ## Upper and lower case -/

def upperLetters : List Char := "ABCDEFGHIJKLMNOPQRSTUVWXYZ".toList

theorem mem_upperLetters {c : Char} (hlow : 65 ≤ c.toNat) (hhigh : c.toNat ≤ 90) : c ∈ upperLetters := by
  rw [← Char.ofNat_toNat c]
  generalize c.toNat = n at hlow hhigh
  interval_cases n <;> decide

theorem toLower_or (c : Char) : c.toLower = c ∨ c ∈ upperLetters := by
  by_cases h : c.val ≥ 'A'.val ∧ c.val ≤ 'Z'.val
  · exact .inr (mem_upperLetters h.1 h.2)
  · left
    unfold Char.toLower
    exact dif_neg h

/-- The letters are gone through one by one. -/
theorem forall_upperLetters {p : Char → Prop} [DecidablePred p]
    (h : upperLetters.all (fun c => decide (p c)) = true) : ∀ c ∈ upperLetters, p c :=
  fun c hc => of_decide_eq_true (List.all_eq_true.mp h c hc)

theorem toLower_not_upper (c : Char) : c.toLower ∉ upperLetters := by
  by_cases hc : c ∈ upperLetters
  · have hall : ∀ c ∈ upperLetters, c.toLower ∉ upperLetters := forall_upperLetters (by decide)
    exact hall c hc
  · rw [(toLower_or c).resolve_right hc]
    exact hc

theorem hexDigit_toLower (c : Char) : hexDigit c.toLower = hexDigit c := by
  rcases toLower_or c with h | h
  · rw [h]
  · have hall : ∀ c ∈ upperLetters, hexDigit c.toLower = hexDigit c :=
      forall_upperLetters (by decide)
    exact hall c h

/-- What is not a letter is no other character's lower case. -/
theorem toLower_eq_iff {c sep : Char}
    (hsep : sep.toLower = sep ∧ ∀ c ∈ upperLetters, c ≠ sep ∧ c.toLower ≠ sep) :
    c.toLower = sep ↔ c = sep := by
  rcases toLower_or c with h | h
  · rw [h]
  · exact iff_of_false (hsep.2 c h).2 (hsep.2 c h).1

theorem colon_toLower : ':'.toLower = ':' ∧ ∀ c ∈ upperLetters, c ≠ ':' ∧ c.toLower ≠ ':' :=
  ⟨by decide, forall_upperLetters (by decide)⟩

theorem dot_toLower : '.'.toLower = '.' ∧ ∀ c ∈ upperLetters, c ≠ '.' ∧ c.toLower ≠ '.' :=
  ⟨by decide, forall_upperLetters (by decide)⟩

theorem toLower_of_isDigit {c : Char} (h : c.toLower.isDigit = true) : c.toLower = c := by
  rcases toLower_or c with hsame | hupper
  · exact hsame
  · have hall : ∀ c ∈ upperLetters, c.toLower.isDigit = false :=
      forall_upperLetters (by decide)
    rw [hall c hupper] at h
    cases h

theorem splitOn_map_toLower {sep : Char} (hsep : ∀ c : Char, c.toLower = sep ↔ c = sep)
    (text : List Char) :
    (text.map Char.toLower).splitOn sep = (text.splitOn sep).map (List.map Char.toLower) := by
  induction text with
  | nil => rfl
  | cons c text ih =>
    rw [List.map_cons, List.splitOn_cons_eq_if_modifyHead, List.splitOn_cons_eq_if_modifyHead, ih]
    by_cases hc : c = sep
    · rw [if_pos (beq_iff_eq.mpr ((hsep c).mpr hc)), if_pos (beq_iff_eq.mpr hc)]
      rfl
    · rw [if_neg fun h => hc ((hsep c).mp (beq_iff_eq.mp h)), if_neg fun h => hc (beq_iff_eq.mp h)]
      cases text.splitOn sep with
      | nil => rfl
      | cons piece pieces => rfl

theorem hexNumber_toLower (text : List Char) : hexNumber (text.map Char.toLower) = hexNumber text := by
  unfold hexNumber
  rw [List.foldlM_map]
  simp only [hexDigit_toLower]

theorem hexGroup_toLower (text : List Char) : hexGroup (text.map Char.toLower) = hexGroup text := by
  unfold hexGroup
  rw [List.length_map, hexNumber_toLower]

theorem parseIpv4_toLower (text : List Char) : parseIpv4 (text.map Char.toLower) = parseIpv4 text := by
  have hall : ∀ a : Ipv4, text.map Char.toLower = a.text ↔ text = a.text := by
    intro a
    constructor
    · intro h
      -- a character whose lower case is a digit or a dot is that character
      have hsame : text.map Char.toLower = text.map id := by
        refine List.map_congr_left fun c hc => ?_
        have hmem : c.toLower ∈ a.text := h ▸ List.mem_map.mpr ⟨c, hc, rfl⟩
        rcases mem_text hmem with hdot | hdigit
        · rw [hdot]
          exact ((toLower_eq_iff dot_toLower).mp hdot).symm
        · exact toLower_of_isDigit hdigit
      rw [← h, hsame, List.map_id]
    · intro h
      rw [h]
      refine (List.map_congr_left (g := id) fun c hc => ?_).trans (List.map_id _)
      rcases mem_text hc with rfl | hdigit
      · rfl
      · rcases toLower_or c with hsame | hupper
        · exact hsame
        · have hletters : ∀ c ∈ upperLetters, c.isDigit = false :=
            forall_upperLetters (by decide)
          rw [hletters c hupper] at hdigit
          cases hdigit
  refine Option.ext fun a => ?_
  rw [parseIpv4_iff, parseIpv4_iff, hall]

theorem lastGroups_cons {piece : List Char} {pieces : List (List Char)} (h : pieces ≠ []) :
    lastGroups (piece :: pieces) =
      (hexGroup piece).bind fun g => (lastGroups pieces).map (g :: ·) := by
  cases pieces with
  | nil => exact absurd rfl h
  | cons piece' pieces => rfl

theorem lastGroups_toLower (pieces : List (List Char)) :
    lastGroups (pieces.map (List.map Char.toLower)) = lastGroups pieces := by
  induction pieces with
  | nil => rfl
  | cons piece pieces ih =>
    cases pieces with
    | nil =>
      rw [List.map_cons, List.map_nil, lastGroups, lastGroups, hexGroup_toLower, parseIpv4_toLower]
    | cons piece' pieces =>
      rw [List.map_cons, lastGroups_cons (by simp), lastGroups_cons (by simp), hexGroup_toLower, ih]

theorem firstGroups_toLower (pieces : List (List Char)) :
    firstGroups (pieces.map (List.map Char.toLower)) = firstGroups pieces := by
  induction pieces with
  | nil => rfl
  | cons piece pieces ih => rw [List.map_cons, firstGroups, firstGroups, hexGroup_toLower, ih]

theorem sideGroups_toLower {read : List (List Char) → Option (List (Fin 65536))}
    (hread : ∀ pieces, read (pieces.map (List.map Char.toLower)) = read pieces) (text : List Char) :
    sideGroups read (text.map Char.toLower) = sideGroups read text := by
  unfold sideGroups
  rw [splitOn_map_toLower (fun c => toLower_eq_iff colon_toLower), hread]
  simp only [List.map_eq_nil_iff]

theorem splitDouble_toLower (text : List Char) :
    splitDouble (text.map Char.toLower) =
      (splitDouble text).map fun sides => (sides.1.map Char.toLower, sides.2.map Char.toLower) := by
  induction text using splitDouble.induct with
  | case1 => rfl
  | case2 c => rfl
  | case3 c c' text hcolons =>
    rw [List.map_cons, List.map_cons, splitDouble, splitDouble, if_pos hcolons,
      if_pos ⟨(toLower_eq_iff colon_toLower).mpr hcolons.1, (toLower_eq_iff colon_toLower).mpr hcolons.2⟩]
    rfl
  | case4 c c' text hcolons ih =>
    have hlower : ¬(c.toLower = ':' ∧ c'.toLower = ':') := fun h =>
      hcolons ⟨(toLower_eq_iff colon_toLower).mp h.1, (toLower_eq_iff colon_toLower).mp h.2⟩
    rw [List.map_cons] at ih
    rw [List.map_cons, List.map_cons, splitDouble, splitDouble, if_neg hcolons, if_neg hlower, ih,
      Option.map_map, Option.map_map]
    rfl

/-- **The case of the digits does not matter.** -/
theorem parseIpv6_toLower (text : List Char) : parseIpv6 (text.map Char.toLower) = parseIpv6 text := by
  unfold parseIpv6
  rw [splitDouble_toLower]
  cases splitDouble text with
  | none =>
    simp only [Option.map_none, splitOn_map_toLower (fun c => toLower_eq_iff colon_toLower),
      lastGroups_toLower]
  | some sides =>
    simp only [Option.map_some, sideGroups_toLower firstGroups_toLower,
      sideGroups_toLower lastGroups_toLower]

/-! ## Pieces -/

theorem hexDigit_lt {c : Char} {d : Nat} (h : hexDigit c = some d) : d < 16 := by
  unfold hexDigit at h
  split at h
  · next hc =>
    have hhigh : c.toNat ≤ 57 := hc.2
    have hd : c.toNat - 48 = d := Option.some.inj h
    omega
  · split at h
    · next hc =>
      have hhigh : c.toNat ≤ 102 := hc.2
      have hd : c.toNat - 97 + 10 = d := Option.some.inj h
      omega
    · split at h
      · next hc =>
        have hhigh : c.toNat ≤ 70 := hc.2
        have hd : c.toNat - 65 + 10 = d := Option.some.inj h
        omega
      · cases h

/-- A number is read of digits alone, and has no more of them. -/
theorem hexNumber_digits {text : List Char} {n : Nat} (h : hexNumber text = some n) :
    n < 16 ^ text.length ∧ ∀ c ∈ text, (hexDigit c).isSome = true := by
  have hfrom : ∀ (text : List Char) (n n' : Nat),
      text.foldlM (fun n c => (hexDigit c).map (16 * n + ·)) n = some n' →
        n' < (n + 1) * 16 ^ text.length ∧ ∀ c ∈ text, (hexDigit c).isSome = true := by
    intro text
    induction text with
    | nil =>
      intro n n' h
      refine ⟨?_, fun c hc => absurd hc List.not_mem_nil⟩
      rw [← Option.some.inj h]
      simp
    | cons c text ih =>
      intro n n' h
      rw [List.foldlM_cons] at h
      cases hc : hexDigit c with
      | none =>
        rw [hc] at h
        cases h
      | some d =>
        rw [hc] at h
        obtain ⟨hlt, hall⟩ := ih _ _ h
        refine ⟨?_, List.forall_mem_cons.mpr ⟨by rw [hc]; rfl, hall⟩⟩
        calc n' < (16 * n + d + 1) * 16 ^ text.length := hlt
          _ ≤ (n + 1) * 16 * 16 ^ text.length := by
            have hd := hexDigit_lt hc
            exact Nat.mul_le_mul_right _ (by omega)
          _ = (n + 1) * 16 ^ (c :: text).length := by
            rw [List.length_cons, Nat.pow_succ, Nat.mul_assoc, Nat.mul_comm 16]
  have hread := hfrom text 0 n h
  rw [Nat.zero_add, Nat.one_mul] at hread
  exact hread

theorem hexGroup_iff {text : List Char} {g : Fin 65536} :
    hexGroup text = some g ↔ (1 ≤ text.length ∧ text.length ≤ 4) ∧ hexNumber text = some g.val := by
  unfold hexGroup
  by_cases hlen : 1 ≤ text.length ∧ text.length ≤ 4
  · rw [if_pos hlen, and_iff_right hlen]
    cases hnumber : hexNumber text with
    | none => simp
    | some n =>
      have hlt : n < 65536 :=
        lt_of_lt_of_le (hexNumber_digits hnumber).1 (Nat.pow_le_pow_right (by decide) hlen.2)
      rw [Option.map_some, Option.some.injEq, Option.some.injEq]
      constructor
      · intro h
        rw [← h]
        exact (Nat.mod_eq_of_lt hlt).symm
      · intro h
        exact Fin.ext ((Nat.mod_eq_of_lt hlt).trans h)
  · rw [if_neg hlen]
    exact iff_of_false (fun h => by cases h) fun h => hlen h.1

theorem hexDigit_of_hexGroup {text : List Char} {g : Fin 65536} (h : hexGroup text = some g) :
    ∀ c ∈ text, (hexDigit c).isSome = true := (hexNumber_digits (hexGroup_iff.mp h).2).2

/-- A group is not an IPv4 address, which has dots. -/
theorem parseIpv4_of_hexGroup {text : List Char} {g : Fin 65536} (h : hexGroup text = some g) :
    parseIpv4 text = none := by
  cases hparse : parseIpv4 text with
  | none => rfl
  | some a =>
    have hdot : '.' ∈ text := by
      rw [parseIpv4_iff.mp hparse, Ipv4.text]
      simp [List.intercalate, List.intersperse]
    exact absurd (hexDigit_of_hexGroup h '.' hdot) (by decide)

/-- Nor is a text of several pieces. -/
theorem parseIpv4_of_colon {text : List Char} (h : ':' ∈ text) : parseIpv4 text = none := by
  cases hparse : parseIpv4 text with
  | none => rfl
  | some a =>
    rw [parseIpv4_iff.mp hparse] at h
    rcases mem_text h with hdot | hdigit
    · exact absurd hdot (by decide)
    · exact absurd hdigit (by decide)

theorem colon_mem_of_pieces {text piece piece' : List Char} {pieces : List (List Char)}
    (h : text.splitOn ':' = piece :: piece' :: pieces) : ':' ∈ text := by
  by_contra hmem
  rw [List.splitOn_eq_singleton hmem] at h
  cases h

theorem lastGroups_length_pos {pieces : List (List Char)} {gs : List (Fin 65536)}
    (h : lastGroups pieces = some gs) : pieces.length ≤ gs.length := by
  induction pieces generalizing gs with
  | nil => cases h
  | cons piece pieces ih =>
    cases pieces with
    | nil =>
      rw [lastGroups] at h
      cases hgroup : hexGroup piece with
      | some g =>
        rw [hgroup] at h
        rw [← Option.some.inj h]
        exact Nat.le_refl 1
      | none =>
        rw [hgroup] at h
        obtain ⟨a, -, ha⟩ := Option.map_eq_some_iff.mp h
        rw [← ha]
        exact Nat.one_le_ofNat
    | cons piece' pieces =>
      rw [lastGroups_cons (by simp)] at h
      obtain ⟨g, -, hrest⟩ := Option.bind_eq_some_iff.mp h
      obtain ⟨gs', hgs, hcons⟩ := Option.map_eq_some_iff.mp hrest
      rw [← hcons, List.length_cons, List.length_cons]
      exact Nat.succ_le_succ (ih hgs)

/-! ## Texts that start with `::` -/

theorem ofGroups_iff {groups : List (Fin 65536)} {x : Ipv6} :
    ofGroups groups = some x ↔ x.groups = groups := by
  unfold ofGroups
  constructor
  · intro h
    split at h
    · rw [← Option.some.inj h]
    · cases h
  · intro h
    rw [dif_pos (h ▸ x.eight)]
    exact congrArg some (Ipv6.ext_groups h.symm)

theorem parseIpv6_double {right : List Char} (hright : right ≠ []) :
    parseIpv6 (':' :: ':' :: right) = (lastGroups (right.splitOn ':')).bind (fillGroups []) := by
  rw [parseIpv6, splitDouble, if_pos ⟨rfl, rfl⟩]
  show ((sideGroups lastGroups right).bind fun right => fillGroups [] right) = _
  rw [sideGroups, if_neg hright]

/-- What `::` and `gs` fill up to. -/
theorem fillGroups_iff {gs : List (Fin 65536)} {x : Ipv6} :
    fillGroups [] gs = some x ↔
      gs.length < 8 ∧ x.groups = List.replicate (8 - gs.length) 0 ++ gs := by
  unfold fillGroups
  rw [List.length_nil, Nat.zero_add]
  by_cases hlt : gs.length < 8
  · rw [if_pos hlt, List.nil_append, ofGroups_iff, and_iff_right hlt]
  · rw [if_neg hlt]
    simp [hlt]

/-! ## The two families -/

theorem splitDouble_of_not_mem {text : List Char} (h : ':' ∉ text) : splitDouble text = none := by
  induction text using splitDouble.induct with
  | case1 => rfl
  | case2 c => rfl
  | case3 c c' text hcolons => exact absurd (hcolons.1 ▸ List.mem_cons_self) h
  | case4 c c' text hcolons ih =>
    rw [splitDouble, if_neg hcolons, ih fun hmem => h (List.mem_cons_of_mem c hmem)]
    rfl

/-- No text is an address of both families. -/
theorem parseIpv4_of_parseIpv6 {text : List Char} {x : Ipv6} (h : parseIpv6 text = some x) :
    parseIpv4 text = none := by
  by_cases hcolon : ':' ∈ text
  · exact parseIpv4_of_colon hcolon
  · rw [parseIpv6, splitDouble_of_not_mem hcolon, List.splitOn_eq_singleton hcolon] at h
    obtain ⟨gs, hgs, hx⟩ := Option.bind_eq_some_iff.mp h
    have height : gs.length = 8 := by rw [← ofGroups_iff.mp hx, x.eight]
    -- one piece makes one group, or the two of an IPv4 address
    rw [lastGroups] at hgs
    cases hgroup : hexGroup text with
    | some g => exact parseIpv4_of_hexGroup hgroup
    | none =>
      rw [hgroup] at hgs
      obtain ⟨a, -, ha⟩ := Option.map_eq_some_iff.mp hgs
      rw [← ha] at height
      exact absurd height (by simp [Ipv4.groups])
