import Unitae.Base.IpText

/-!
# Unitae — addresses an open-data fetch may not reach (`safe-open-data-fetch.server.ts`)

`isBlockedAddress` compares numbers, except that an IPv4-mapped address is recognised by its text, which
has to start with `::ffff:`. `net.isIP` accepts the texts of `Base/IpText.lean`, and a `BlockList`
compares an address with subnets of its family by value.
-/

namespace Unitae.Territories

/-- Subnets of one family: the value of the network and how many bits count. -/
structure BlockList where
  width : Nat
  subnets : List (Nat × Nat)
deriving DecidableEq, Repr

def BlockList.covers (list : BlockList) (value : Nat) : Bool :=
  list.subnets.any fun (network, bits) =>
    value / 2 ^ (list.width - bits) == network / 2 ^ (list.width - bits)

def ipv4BlockList : BlockList where
  width := 32
  subnets :=
    [((⟨0, 0, 0, 0⟩ : Ipv4).value, 8),
     ((⟨10, 0, 0, 0⟩ : Ipv4).value, 8),
     ((⟨127, 0, 0, 0⟩ : Ipv4).value, 8),
     ((⟨169, 254, 0, 0⟩ : Ipv4).value, 16),
     ((⟨172, 16, 0, 0⟩ : Ipv4).value, 12),
     ((⟨192, 168, 0, 0⟩ : Ipv4).value, 16),
     ((⟨100, 64, 0, 0⟩ : Ipv4).value, 10)]

/-- `addAddress` is a subnet of one. -/
def ipv6BlockList : BlockList where
  width := 128
  subnets :=
    [((⟨[0, 0, 0, 0, 0, 0, 0, 0], rfl⟩ : Ipv6).value, 128),
     ((⟨[0, 0, 0, 0, 0, 0, 0, 1], rfl⟩ : Ipv6).value, 128),
     ((⟨[0xfe80, 0, 0, 0, 0, 0, 0, 0], rfl⟩ : Ipv6).value, 10),
     ((⟨[0xfc00, 0, 0, 0, 0, 0, 0, 0], rfl⟩ : Ipv6).value, 7)]

/-- `ipv4BlockList.check(ip, 'ipv4')`. -/
def checkIpv4 (ip : List Char) : Bool := (parseIpv4 ip).any fun a => ipv4BlockList.covers a.value

/-- `ipv6BlockList.check(ip, 'ipv6')`. -/
def checkIpv6 (ip : List Char) : Bool := (parseIpv6 ip).any fun x => ipv6BlockList.covers x.value

/-- `net.isIP`. -/
def isIP (ip : List Char) : Nat :=
  if (parseIpv4 ip).isSome then 4 else if (parseIpv6 ip).isSome then 6 else 0

def mappedPrefix : List Char := "::ffff:".toList

def isLowerHex (c : Char) : Bool := ('0' ≤ c && c ≤ '9') || ('a' ≤ c && c ≤ 'f')

/-- The two groups of `IPV4_MAPPED_HEX`, `^([0-9a-f]{1,4}):([0-9a-f]{1,4})$`. -/
def mappedHexGroup (text : List Char) : Option Nat :=
  if 1 ≤ text.length ∧ text.length ≤ 4 ∧ text.all isLowerHex = true then hexNumber text else none

def ipv4MappedHex (rest : List Char) : Option (Nat × Nat) :=
  match rest.splitOn ':' with
  | [high, low] => (mappedHexGroup high).bind fun high => (mappedHexGroup low).map fun low => (high, low)
  | _ => none

/-- The embedded IPv4 of an IPv4-mapped address, in the dotted and in the hex form. -/
def mappedIpv4 (ip : List Char) : Option (List Char) :=
  let lower := ip.map Char.toLower
  if mappedPrefix.isPrefixOf lower = false then none
  else
    let rest := lower.drop mappedPrefix.length
    if isIP rest = 4 then some rest
    else (ipv4MappedHex rest).map fun (high, low) =>
      ['.'].intercalate [decimalText (high >>> 8), decimalText (high &&& 0xff), decimalText (low >>> 8),
        decimalText (low &&& 0xff)]

/-- What is no address is blocked. -/
def isBlockedAddress (ip : String) : Bool :=
  let kind := isIP ip.toList
  if kind = 4 then checkIpv4 ip.toList
  else if kind ≠ 6 then true
  else match mappedIpv4 ip.toList with
    | some mapped => checkIpv4 mapped
    | none => checkIpv6 ip.toList

/-! ## The text of a mapped address -/

/-- The spelling starts with `::ffff:`, in either case. -/
def HasMappedPrefix (ip : List Char) : Prop := mappedPrefix.isPrefixOf (ip.map Char.toLower) = true

instance (ip : List Char) : Decidable (HasMappedPrefix ip) := inferInstanceAs (Decidable (_ = true))

theorem decide_and_eq_false {p q : Prop} [Decidable p] [Decidable q] (h : ¬(p ∧ q)) :
    (decide p && decide q) = false := by
  rw [← Bool.decide_and]
  exact decide_eq_false h

theorem isLowerHex_toLower (c : Char) : isLowerHex c.toLower = (hexDigit c.toLower).isSome := by
  have hupper : ¬('A' ≤ c.toLower ∧ c.toLower ≤ 'F') := by
    intro ⟨hlow, hhigh⟩
    exact toLower_not_upper c (mem_upperLetters hlow (Nat.le_trans hhigh (by decide)))
  unfold isLowerHex hexDigit
  rw [if_neg hupper]
  by_cases hdigit : '0' ≤ c.toLower ∧ c.toLower ≤ '9'
  · simp [hdigit]
  · by_cases hlower : 'a' ≤ c.toLower ∧ c.toLower ≤ 'f'
    · rw [if_neg hdigit, if_pos hlower]
      simp [hlower]
    · rw [if_neg hdigit, if_neg hlower, decide_and_eq_false hdigit, decide_and_eq_false hlower]
      rfl

theorem mappedHexGroup_toLower (text : List Char) :
    mappedHexGroup (text.map Char.toLower) = (hexGroup (text.map Char.toLower)).map Fin.val := by
  have hall : (text.map Char.toLower).all isLowerHex = true ↔
      ∀ c ∈ text.map Char.toLower, (hexDigit c).isSome = true := by
    simp only [List.all_eq_true, List.forall_mem_map, isLowerHex_toLower]
  refine Option.ext fun n => ?_
  unfold mappedHexGroup
  constructor
  · intro h
    split at h
    · next hlen =>
      have hlt : n < 65536 :=
        lt_of_lt_of_le (hexNumber_digits h).1 (Nat.pow_le_pow_right (by decide) hlen.2.1)
      exact Option.map_eq_some_iff.mpr ⟨⟨n, hlt⟩, hexGroup_iff.mpr ⟨⟨hlen.1, hlen.2.1⟩, h⟩, rfl⟩
    · cases h
  · intro h
    obtain ⟨g, hg, hval⟩ := Option.map_eq_some_iff.mp h
    obtain ⟨hlen, hnumber⟩ := hexGroup_iff.mp hg
    rw [if_pos ⟨hlen.1, hlen.2, hall.mpr (hexDigit_of_hexGroup hg)⟩, hnumber, hval]

/-- The octets a hexadecimal tail is rewritten to. -/
theorem ofGroups_text (high low : Fin 65536) :
    ['.'].intercalate [decimalText (high.val >>> 8), decimalText (high.val &&& 0xff),
      decimalText (low.val >>> 8), decimalText (low.val &&& 0xff)] = (Ipv4.ofGroups high low).text := by
  have hlow : ∀ n : Nat, n &&& 0xff = n % 256 := fun n => Nat.and_two_pow_sub_one_eq_mod n 8
  have hhigh : ∀ n : Nat, n >>> 8 = n / 256 := fun n => Nat.shiftRight_eq_div_pow n 8
  rw [hlow, hlow, hhigh, hhigh]
  rfl

theorem isIP_eq_four {text : List Char} : isIP text = 4 ↔ ∃ a, parseIpv4 text = some a := by
  unfold isIP
  cases parseIpv4 text with
  | some a => simp
  | none =>
    simp only [Option.isSome_none, Bool.false_eq_true, if_false, reduceCtorEq, exists_false, iff_false]
    split <;> decide

/-- What `mappedIpv4` makes of the text after the prefix. -/
def mappedTail (rest : List Char) : Option (List Char) :=
  if isIP rest = 4 then some rest
  else (ipv4MappedHex rest).map fun (high, low) =>
    ['.'].intercalate [decimalText (high >>> 8), decimalText (high &&& 0xff), decimalText (low >>> 8),
      decimalText (low &&& 0xff)]

/-- A tail is two groups just when it is made an address of, which is the address of these groups. -/
theorem mappedTail_groups {rest : List Char} {gs : List (Fin 65536)}
    (h : lastGroups ((rest.map Char.toLower).splitOn ':') = some gs) :
    (∃ a : Ipv4, gs = a.groups ∧ mappedTail (rest.map Char.toLower) = some a.text) ∨
      gs.length ≠ 2 ∧ mappedTail (rest.map Char.toLower) = none := by
  have hpieces := splitOn_map_toLower (fun c => toLower_eq_iff colon_toLower) rest
  generalize hlower : rest.map Char.toLower = lower at h hpieces ⊢
  have htext : lower = [':'].intercalate (lower.splitOn ':') := (List.intercalate_splitOn ':').symm
  -- a text with a colon in it is no IPv4 address
  have hcolon : ∀ piece piece' pieces, lower.splitOn ':' = piece :: piece' :: pieces →
      ¬isIP lower = 4 := by
    intro piece piece' pieces hsplit hkind
    obtain ⟨a, ha⟩ := isIP_eq_four.mp hkind
    rw [parseIpv4_of_colon (colon_mem_of_pieces hsplit)] at ha
    cases ha
  unfold mappedTail
  match hsplit : lower.splitOn ':' with
  | [] => exact absurd hsplit (List.splitOn_ne_nil _ _)
  | [piece] =>
    have hsame : lower = piece := by
      rw [htext, hsplit]
      simp [List.intercalate]
    rw [hsplit, lastGroups, ← hsame] at h
    cases hparse : parseIpv4 lower with
    | some a =>
      left
      have hnot : hexGroup lower = none := by
        cases hgroup : hexGroup lower with
        | none => rfl
        | some g =>
          rw [parseIpv4_of_hexGroup hgroup] at hparse
          cases hparse
      rw [hnot, hparse] at h
      rw [if_pos (isIP_eq_four.mpr ⟨a, hparse⟩)]
      exact ⟨a, (Option.some.inj h).symm, congrArg some (parseIpv4_iff.mp hparse)⟩
    | none =>
      right
      cases hgroup : hexGroup lower with
      | none =>
        rw [hgroup, hparse] at h
        cases h
      | some g =>
        rw [hgroup] at h
        have hkind : ¬isIP lower = 4 := by
          intro hkind
          obtain ⟨a, ha⟩ := isIP_eq_four.mp hkind
          rw [hparse] at ha
          cases ha
        rw [← Option.some.inj h, if_neg hkind, ipv4MappedHex, hsplit]
        exact ⟨Nat.succ_ne_succ_iff.mpr Nat.zero_ne_one, rfl⟩
  | [piece, piece'] =>
    rw [if_neg (hcolon _ _ _ hsplit), ipv4MappedHex, hsplit]
    rw [hsplit] at h hpieces
    obtain ⟨p, ps, -, rfl, hps⟩ := List.map_eq_cons_iff.mp hpieces.symm
    obtain ⟨p', ps', rfl, rfl, -⟩ := List.map_eq_cons_iff.mp hps
    rw [lastGroups_cons (by simp)] at h
    obtain ⟨high, hhigh, hrest⟩ := Option.bind_eq_some_iff.mp h
    obtain ⟨gs', hgs', rfl⟩ := Option.map_eq_some_iff.mp hrest
    simp only [mappedHexGroup_toLower, hhigh, Option.map_some, Option.bind_some]
    rw [lastGroups] at hgs'
    cases hlow : hexGroup (p'.map Char.toLower) with
    | some low =>
      rw [hlow] at hgs'
      left
      refine ⟨Ipv4.ofGroups high low, ?_, ?_⟩
      · rw [Ipv4.ofGroups_groups, ← Option.some.inj hgs']
      · rw [Option.map_some, Option.map_some, Option.map_some, ofGroups_text]
    | none =>
      -- a dotted last piece makes three groups
      rw [hlow] at hgs'
      obtain ⟨a, -, ha⟩ := Option.map_eq_some_iff.mp hgs'
      rw [← ha]
      exact .inr ⟨by simp [Ipv4.groups], rfl⟩
  | piece :: piece' :: piece'' :: pieces =>
    right
    rw [if_neg (hcolon _ _ _ hsplit), ipv4MappedHex, hsplit]
    rw [hsplit] at h
    have hlen := lastGroups_length_pos h
    simp only [List.length_cons] at hlen
    exact ⟨by omega, rfl⟩

/-- Groups that follow `ffff` and zeros up to eight make a mapped address when they are two. -/
theorem groups_eq_mapped {gs : List (Fin 65536)} {a : Ipv4} (hlen : gs.length < 7)
    (h : List.replicate (7 - gs.length) 0 ++ 65535 :: gs = a.mapped.groups) : gs.length = 2 := by
  have hat : ∀ k : Nat, (List.replicate (7 - gs.length) (0 : Fin 65536) ++ 65535 :: gs)[k]? =
      a.mapped.groups[k]? := fun k => by rw [h]
  have hffff : a.mapped.groups[7 - gs.length]? = some 65535 := by
    rw [← hat, List.getElem?_append_right (by simp)]
    simp
  have hfive := hat 5
  have hmapped : a.mapped.groups = [0, 0, 0, 0, 0, 65535, octetPair a.a a.b, octetPair a.c a.d] := rfl
  rw [hmapped] at hffff hfive
  by_contra hne
  rcases Nat.lt_or_ge 2 gs.length with hmore | hless
  · -- `ffff` would stand where the mapped address has a zero
    have hbelow : 7 - gs.length < 5 := by omega
    generalize 7 - gs.length = k at hffff hbelow
    interval_cases k <;> exact absurd (Option.some.inj hffff) (by decide)
  · rw [List.getElem?_append_left (by rw [List.length_replicate]; omega),
      List.getElem?_replicate_of_lt (by omega)] at hfive
    exact absurd (Option.some.inj hfive) (by decide)

theorem mappedIpv4_cases {ip : List Char} {x : Ipv6} (h : parseIpv6 ip = some x)
    (hstart : HasMappedPrefix ip) :
    (∃ a : Ipv4, x = a.mapped ∧ mappedIpv4 ip = some a.text) ∨
      (∀ a : Ipv4, x ≠ a.mapped) ∧ mappedIpv4 ip = none := by
  have hrest : (ip.map Char.toLower).drop mappedPrefix.length =
      (ip.drop mappedPrefix.length).map Char.toLower := List.map_drop.symm
  have htail : mappedIpv4 ip = mappedTail ((ip.drop mappedPrefix.length).map Char.toLower) := by
    rw [mappedIpv4, if_neg (by rw [hstart]; decide), hrest]
    rfl
  have hlower : ip.map Char.toLower =
      mappedPrefix ++ (ip.drop mappedPrefix.length).map Char.toLower := by
    obtain ⟨tail, htail⟩ := List.isPrefixOf_iff_prefix.mp hstart
    rw [← hrest, ← htail, List.drop_left]
  rw [← parseIpv6_toLower, hlower] at h
  rw [htail]
  generalize ip.drop mappedPrefix.length = rest at h ⊢
  -- what the text is read as: zeros, `ffff` and the groups of the tail
  have hright : ∀ tail : List Char, mappedPrefix ++ tail = ':' :: ':' :: ("ffff".toList ++ ':' :: tail) :=
    fun _ => rfl
  rw [hright, parseIpv6_double (by simp),
    List.splitOn_append_cons_self_of_not_mem (by decide), lastGroups_cons (List.splitOn_ne_nil _ _)] at h
  obtain ⟨all, hall, hfill⟩ := Option.bind_eq_some_iff.mp h
  obtain ⟨g, hg, hcons⟩ := Option.bind_eq_some_iff.mp hall
  obtain ⟨gs, hgs, rfl⟩ := Option.map_eq_some_iff.mp hcons
  have hffff : hexGroup "ffff".toList = some 65535 := by decide
  obtain rfl : 65535 = g := Option.some.inj (hffff.symm.trans hg)
  obtain ⟨hlen, hx⟩ := fillGroups_iff.mp hfill
  rw [List.length_cons] at hlen hx
  have hzeros : 8 - (gs.length + 1) = 7 - gs.length := by omega
  rw [hzeros] at hx
  rcases mappedTail_groups hgs with ⟨a, rfl, htext⟩ | ⟨hne, hnone⟩
  · exact .inl ⟨a, Ipv6.ext_groups hx, htext⟩
  · refine .inr ⟨fun a hmapped => hne ?_, hnone⟩
    rw [hmapped] at hx
    exact groups_eq_mapped (by omega) hx.symm

/-! ## What is blocked -/

theorem isIP_eq_six {ip : List Char} {x : Ipv6} (h : parseIpv6 ip = some x) : isIP ip = 6 := by
  rw [isIP, parseIpv4_of_parseIpv6 h, h]
  rfl

/-- No mapped address is in an IPv6 subnet of the list. -/
theorem covers_mapped (a : Ipv4) : ipv6BlockList.covers a.mapped.value = false := by
  have hvalue : a.mapped.value = 65535 * 2 ^ 32 + a.value := by
    simp only [Ipv6.value, Ipv4.mapped, Ipv4.groups, octetPair, Ipv4.value, List.cons_append,
      List.nil_append, List.foldl_cons, List.foldl_nil, Fin.val_zero]
    omega
  have hlt : a.value < 2 ^ 32 := by
    unfold Ipv4.value
    omega
  have hpos : 1 < 65535 * 2 ^ 32 + a.value := by omega
  have hsmall : 65535 * 2 ^ 32 + a.value < 2 ^ 118 := by omega
  have hsubnets : ipv6BlockList.subnets =
      [(0, 128), (1, 128), (0xfe80 * 2 ^ 112, 10), (0xfc00 * 2 ^ 112, 7)] := by decide
  rw [hvalue, BlockList.covers, hsubnets]
  generalize 65535 * 2 ^ 32 + a.value = n at hpos hsmall
  have hlinkLocal : n / 2 ^ 118 = 0 := Nat.div_eq_of_lt hsmall
  have huniqueLocal : n / 2 ^ 121 = 0 := Nat.div_eq_of_lt (Nat.lt_trans hsmall (by decide))
  simp only [List.any_cons, List.any_nil, Bool.or_false, Bool.or_eq_false_iff, beq_eq_false_iff_ne]
  refine ⟨?_, ?_, ?_, ?_⟩
  · show n / 1 ≠ 0
    omega
  · show n / 1 ≠ 1
    omega
  · show n / 2 ^ 118 ≠ 0xfe80 * 2 ^ 112 / 2 ^ 118
    rw [hlinkLocal]
    decide
  · show n / 2 ^ 121 ≠ 0xfc00 * 2 ^ 112 / 2 ^ 121
    rw [huniqueLocal]
    decide

theorem isBlockedAddress_ipv4 {s : String} {a : Ipv4} (h : parseIpv4 s.toList = some a) :
    isBlockedAddress s = ipv4BlockList.covers a.value := by
  unfold isBlockedAddress
  rw [if_pos (isIP_eq_four.mpr ⟨a, h⟩), checkIpv4, h]
  rfl

/-- An address that is no mapped one is compared by value. -/
theorem isBlockedAddress_of_not_mapped {s : String} {x : Ipv6} (h : parseIpv6 s.toList = some x)
    (hx : ∀ a : Ipv4, x ≠ a.mapped) : isBlockedAddress s = ipv6BlockList.covers x.value := by
  have hnone : mappedIpv4 s.toList = none := by
    by_cases hstart : HasMappedPrefix s.toList
    · rcases mappedIpv4_cases h hstart with ⟨a, hmapped, -⟩ | ⟨-, hnone⟩
      · exact absurd hmapped (hx a)
      · exact hnone
    · rw [mappedIpv4, if_pos (eq_false_of_ne_true hstart)]
  unfold isBlockedAddress
  rw [isIP_eq_six h, hnone, checkIpv6, h]
  rfl

/-- A mapped address is compared with the IPv4 list when it is recognised, and else passes. -/
theorem isBlockedAddress_mapped {s : String} {a : Ipv4} (h : parseIpv6 s.toList = some a.mapped) :
    isBlockedAddress s = (decide (HasMappedPrefix s.toList) && ipv4BlockList.covers a.value) := by
  unfold isBlockedAddress
  rw [isIP_eq_six h]
  by_cases hstart : HasMappedPrefix s.toList
  · rw [decide_eq_true hstart, Bool.true_and]
    rcases mappedIpv4_cases h hstart with ⟨b, hmapped, hsome⟩ | ⟨hnot, -⟩
    · rw [hsome, ← Ipv4.mapped_inj hmapped]
      show checkIpv4 a.text = _
      rw [checkIpv4, parseIpv4_text, Option.any_some]
    · exact absurd rfl (hnot a)
  · have hnone : mappedIpv4 s.toList = none := by
      rw [mappedIpv4, if_pos (eq_false_of_ne_true hstart)]
    rw [decide_eq_false hstart, Bool.false_and, hnone]
    show checkIpv6 s.toList = false
    rw [checkIpv6, h, Option.any_some]
    exact covers_mapped a

/-- **The spelling matters for the mapped addresses of blocked ones alone**: of these, a spelling is
blocked when it starts with `::ffff:`. -/
theorem blocked_spellings_iff (a : Ipv4) (x : Ipv6) (s t : String) :
    (parseIpv6 s.toList = some a.mapped → parseIpv4 t.toList = some a →
      (isBlockedAddress s = isBlockedAddress t ↔
        (ipv4BlockList.covers a.value = true → HasMappedPrefix s.toList))) ∧
    (parseIpv6 s.toList = some x → parseIpv6 t.toList = some x →
      (isBlockedAddress s = isBlockedAddress t ↔
        ∀ a : Ipv4, x = a.mapped → ipv4BlockList.covers a.value = true →
          (HasMappedPrefix s.toList ↔ HasMappedPrefix t.toList))) := by
  constructor
  · intro hs ht
    rw [isBlockedAddress_mapped hs, isBlockedAddress_ipv4 ht]
    cases ipv4BlockList.covers a.value <;> simp
  · intro hs ht
    by_cases hmapped : ∃ a : Ipv4, x = a.mapped
    · obtain ⟨a, rfl⟩ := hmapped
      rw [isBlockedAddress_mapped hs, isBlockedAddress_mapped ht]
      constructor
      · intro hsame b hb hcovers
        rw [← Ipv4.mapped_inj hb] at hcovers
        rw [hcovers, Bool.and_true, Bool.and_true, decide_eq_decide] at hsame
        exact hsame
      · intro hprefixes
        cases hcovers : ipv4BlockList.covers a.value with
        | false => rw [Bool.and_false, Bool.and_false]
        | true => rw [decide_eq_decide.mpr (hprefixes a rfl hcovers)]
    · -- both are compared by the one value
      have hnot : ∀ a : Ipv4, x ≠ a.mapped := fun a ha => hmapped ⟨a, ha⟩
      rw [isBlockedAddress_of_not_mapped hs hnot, isBlockedAddress_of_not_mapped ht hnot]
      exact iff_of_true rfl fun a ha => absurd ha (hnot a)

/-- Loopback, in the one spelling that is looked for and in another. -/
theorem blocked_spellings_loopback :
    (isBlockedAddress "::ffff:7f00:1" = isBlockedAddress "127.0.0.1" ↔
      (ipv4BlockList.covers (⟨127, 0, 0, 1⟩ : Ipv4).value = true →
        HasMappedPrefix "::ffff:7f00:1".toList)) ∧
    (isBlockedAddress "::FFFF:7f00:1" = isBlockedAddress "::ffff:127.0.0.1" ↔
      ∀ a : Ipv4, (⟨127, 0, 0, 1⟩ : Ipv4).mapped = a.mapped → ipv4BlockList.covers a.value = true →
        (HasMappedPrefix "::FFFF:7f00:1".toList ↔ HasMappedPrefix "::ffff:127.0.0.1".toList)) :=
  ⟨(blocked_spellings_iff ⟨127, 0, 0, 1⟩ (⟨127, 0, 0, 1⟩ : Ipv4).mapped _ _).1 (by decide +kernel)
      (by decide +kernel),
    (blocked_spellings_iff ⟨127, 0, 0, 1⟩ (⟨127, 0, 0, 1⟩ : Ipv4).mapped _ _).2 (by decide +kernel)
      (by decide +kernel)⟩

/-- The expanded spelling of a mapped loopback passes. -/
theorem expanded_loopback_passes :
    parseIpv6 "0:0:0:0:0:ffff:127.0.0.1".toList = some (⟨127, 0, 0, 1⟩ : Ipv4).mapped ∧
      isBlockedAddress "127.0.0.1" = true ∧ isBlockedAddress "0:0:0:0:0:ffff:127.0.0.1" = false := by
  decide +kernel

end Unitae.Territories
