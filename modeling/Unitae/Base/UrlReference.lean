import Mathlib.Data.List.DropRight
import Unitae.Base.UrlEncoded

/-!
# References that begin with a slash

How a reference is resolved against an `https` origin: white space at the ends and all tabs and line breaks
are dropped, a backslash is a slash, two slashes name another host, dots in the path are worked off. Hosts
are read by `originOf`; a reference that does not begin with a slash is not read here.
-/

namespace UrlReference

open UrlEncoded

/-! ## What is percent-encoded where -/

def controlSet (b : Nat) : Bool := b < 0x20 || 0x7E < b

def fragmentSet (b : Nat) : Bool := controlSet b || [0x20, 0x22, 0x3C, 0x3E, 0x60].contains b

def querySet (b : Nat) : Bool := controlSet b || [0x20, 0x22, 0x23, 0x3C, 0x3E].contains b

def specialQuerySet (b : Nat) : Bool := querySet b || b == 0x27

def pathSet (b : Nat) : Bool := querySet b || [0x3F, 0x5E, 0x60, 0x7B, 0x7D].contains b

/-! ## Paths -/

def isSlash (c : Char) : Bool := c == '/' || c == '\\'

/-- A dot may be written `%2e`. -/
def isSingleDot (segment : List Char) : Bool :=
  [['.'], ['%', '2', 'e']].contains (segment.map Char.toLower)

def isDoubleDot (segment : List Char) : Bool :=
  [['.', '.'], ['.', '%', '2', 'e'], ['%', '2', 'e', '.'], ['%', '2', 'e', '%', '2', 'e']].contains
    (segment.map Char.toLower)

/-- A segment that another follows. -/
def addInner (path : List (List Char)) (segment : List Char) : List (List Char) :=
  if isDoubleDot segment then path.dropLast
  else if isSingleDot segment then path
  else path ++ [segment]

/-- In the last place dots leave an empty segment. -/
def addLast (path : List (List Char)) (segment : List Char) : List (List Char) :=
  if isDoubleDot segment then path.dropLast ++ [[]]
  else if isSingleDot segment then path ++ [[]]
  else path ++ [segment]

def walk : List (List Char) → List (List Char) → List (List Char)
  | path, [] => path
  | path, [segment] => addLast path segment
  | path, segment :: next :: rest => walk (addInner path segment) (next :: rest)

/-- The segments of a path, of which `text` is what follows the first slash. -/
def pathSegments (text : List Char) : List (List Char) :=
  walk [] ((text.splitOnP isSlash).map (percentEncode pathSet))

/-! ## Addresses -/

structure Address where
  origin : String
  path : List (List Char)
  query : Option (List Char)
  fragment : Option (List Char)
deriving DecidableEq, Repr

namespace Address

def pathname (a : Address) : List Char := a.path.flatMap ('/' :: ·)

def search (a : Address) : List Char :=
  match a.query with
  | none => []
  | some [] => []
  | some (c :: text) => '?' :: c :: text

def hash (a : Address) : List Char :=
  match a.fragment with
  | none => []
  | some [] => []
  | some (c :: text) => '#' :: c :: text

def searchParams (a : Address) : List (List Char × List Char) := parse (a.query.getD [])

end Address

/-- What stands before the first separator, and what follows it. -/
def cut (separator : Char) (text : List Char) : List Char × Option (List Char) :=
  match text.dropWhile (· != separator) with
  | [] => (text, none)
  | _ :: rest => (text.takeWhile (· != separator), some rest)

/-- Path, query and fragment; `text` is what follows the slash after the origin. -/
def address (origin : String) (text : List Char) : Address where
  origin := origin
  path := pathSegments (cut '?' (cut '#' text).1).1
  query := (cut '?' (cut '#' text).1).2.map (percentEncode specialQuerySet)
  fragment := (cut '#' text).2.map (percentEncode fragmentSet)

def isBlank (c : Char) : Bool := c.toNat ≤ 0x20

def isBreak (c : Char) : Bool := c == '\t' || c == '\n' || c == '\r'

def cleaned (input : List Char) : List Char :=
  ((input.dropWhile isBlank).rdropWhile isBlank).filter (!isBreak ·)

def endsAuthority (c : Char) : Bool := isSlash c || c == '?' || c == '#'

def dropSlash : List Char → List Char
  | [] => []
  | c :: rest => if isSlash c then rest else c :: rest

def resolve (originOf : List Char → Option String) (base : String) (input : List Char) : Option Address :=
  match cleaned input with
  | '/' :: text =>
    if text.head?.any isSlash then
      let authority := text.dropWhile isSlash
      (originOf (authority.takeWhile (!endsAuthority ·))).map fun origin =>
        address origin (dropSlash (authority.dropWhile (!endsAuthority ·)))
    else some (address base text)
  | _ => none

/-! ## What the parts are made of -/

theorem controlSet_high {b : Nat} (h : 0x80 ≤ b) : controlSet b = true := by
  unfold controlSet
  rw [decide_eq_true (show 0x7E < b by omega), Bool.or_true]

theorem querySet_high {b : Nat} (h : 0x80 ≤ b) : querySet b = true := by
  unfold querySet
  rw [controlSet_high h, Bool.true_or]

theorem specialQuerySet_high {b : Nat} (h : 0x80 ≤ b) : specialQuerySet b = true := by
  unfold specialQuerySet
  rw [querySet_high h, Bool.true_or]

theorem pathSet_high {b : Nat} (h : 0x80 ≤ b) : pathSet b = true := by
  unfold pathSet
  rw [querySet_high h, Bool.true_or]

theorem fragmentSet_high {b : Nat} (h : 0x80 ≤ b) : fragmentSet b = true := by
  unfold fragmentSet
  rw [controlSet_high h, Bool.true_or]

/-- A form keeps its pairs in an address. -/
theorem keepsForms : KeepsForms specialQuerySet where
  percent := by decide
  ampersand := by decide
  plus := by decide
  equals := by decide
  digit := by
    intro b hb
    have hbound : b < 0x80 := by
      by_contra hge
      have hnone : hexValue b = none := by
        unfold hexValue
        rw [if_neg (by omega), if_neg (by omega), if_neg (by omega)]
      rw [hnone] at hb
      exact Bool.false_ne_true hb
    have hall : ∀ d : Fin 0x80, (hexValue d).isSome = true → specialQuerySet d = false := by decide
    exact hall ⟨b, hbound⟩ hb
  high := fun _ => specialQuerySet_high

/-- Blanks are in every set. -/
theorem blank_of_le : ∀ b : Fin 0x21,
    pathSet b = true ∧ specialQuerySet b = true ∧ fragmentSet b = true := by
  decide

theorem ne_of_toNat {c d : Char} (h : c.toNat ≠ d.toNat) : c ≠ d := fun heq => h (congrArg Char.toNat heq)

theorem mem_query {text : List Char} {c : Char} (h : c ∈ percentEncode specialQuerySet text) :
    0x20 < c.toNat ∧ c ≠ '#' := by
  rcases mem_percentEncode (fun _ => specialQuerySet_high) h with ⟨-, hkeep⟩ | hcode
  · constructor
    · by_contra hle
      rw [(blank_of_le ⟨c.toNat, by omega⟩).2.1] at hkeep
      exact Bool.false_ne_true hkeep.symm
    · rintro rfl
      exact absurd hkeep (by decide)
  · have hhash : '#'.toNat = 0x23 := rfl
    exact ⟨by omega, ne_of_toNat (by omega)⟩

theorem mem_fragment {text : List Char} {c : Char} (h : c ∈ percentEncode fragmentSet text) :
    0x20 < c.toNat := by
  rcases mem_percentEncode (fun _ => fragmentSet_high) h with ⟨-, hkeep⟩ | hcode
  · by_contra hle
    rw [(blank_of_le ⟨c.toNat, by omega⟩).2.2] at hkeep
    exact Bool.false_ne_true hkeep.symm
  · omega

/-- What may stand in the segment of a path. -/
structure SegmentChar (c : Char) : Prop where
  visible : 0x20 < c.toNat
  question : c ≠ '?'
  hash : c ≠ '#'
  slash : isSlash c = false

theorem isSlash_eq_false {c : Char} (h₁ : c ≠ '/') (h₂ : c ≠ '\\') : isSlash c = false := by
  unfold isSlash
  rw [beq_eq_false_iff_ne.mpr h₁, beq_eq_false_iff_ne.mpr h₂]
  rfl

theorem segmentChar_of_mem {text : List Char} (htext : ∀ c ∈ text, isSlash c = false) {c : Char}
    (h : c ∈ percentEncode pathSet text) : SegmentChar c := by
  rcases mem_percentEncode (fun _ => pathSet_high) h with ⟨hmem, hkeep⟩ | hcode
  · refine ⟨?_, ?_, ?_, htext c hmem⟩
    · by_contra hle
      rw [(blank_of_le ⟨c.toNat, by omega⟩).1] at hkeep
      exact Bool.false_ne_true hkeep.symm
    · rintro rfl
      exact absurd hkeep (by decide)
    · rintro rfl
      exact absurd hkeep (by decide)
  · have hquestion : '?'.toNat = 0x3F := rfl
    have hhash : '#'.toNat = 0x23 := rfl
    have hslash : '/'.toNat = 0x2F := rfl
    have hback : '\\'.toNat = 0x5C := rfl
    exact ⟨by omega, ne_of_toNat (by omega), ne_of_toNat (by omega),
      isSlash_eq_false (ne_of_toNat (by omega)) (ne_of_toNat (by omega))⟩

/-! ## Walking a path -/

theorem mem_addInner {path : List (List Char)} {segment s : List Char} (h : s ∈ addInner path segment) :
    s ∈ path ∨ s = segment := by
  unfold addInner at h
  split at h
  · exact .inl (List.dropLast_subset path h)
  · split at h
    · exact .inl h
    · exact (List.mem_append.mp h).imp id List.mem_singleton.mp

theorem mem_addLast {path : List (List Char)} {segment s : List Char} (h : s ∈ addLast path segment) :
    s ∈ path ∨ s = segment ∨ s = [] := by
  unfold addLast at h
  split at h
  · rcases List.mem_append.mp h with h | h
    · exact .inl (List.dropLast_subset path h)
    · exact .inr (.inr (List.mem_singleton.mp h))
  · split at h
    · exact (List.mem_append.mp h).imp id fun h => .inr (List.mem_singleton.mp h)
    · exact (List.mem_append.mp h).imp id fun h => .inl (List.mem_singleton.mp h)

theorem addLast_ne_nil (path : List (List Char)) (segment : List Char) : addLast path segment ≠ [] := by
  unfold addLast
  split
  · simp
  · split <;> simp

theorem mem_walk {path segments : List (List Char)} {s : List Char} (h : s ∈ walk path segments) :
    s ∈ path ∨ s ∈ segments ∨ s = [] := by
  induction segments generalizing path with
  | nil => exact .inl h
  | cons segment rest ih =>
    cases rest with
    | nil => exact (mem_addLast h).imp id (Or.imp List.mem_singleton.mpr id)
    | cons next rest =>
      rcases ih h with hpath | hrest
      · exact (mem_addInner hpath).imp id fun heq => .inl (by rw [heq]; exact List.mem_cons_self)
      · exact .inr (hrest.imp (List.mem_cons_of_mem segment) id)

theorem walk_ne_nil (path : List (List Char)) {segments : List (List Char)} (h : segments ≠ []) :
    walk path segments ≠ [] := by
  induction segments generalizing path with
  | nil => exact absurd rfl h
  | cons segment rest ih =>
    cases rest with
    | nil => exact addLast_ne_nil path segment
    | cons next rest => exact ih (addInner path segment) (List.cons_ne_nil next rest)

theorem pathSegments_ne_nil (text : List Char) : pathSegments text ≠ [] := by
  apply walk_ne_nil
  intro hnil
  exact List.splitOnP_ne_nil isSlash text (List.map_eq_nil_iff.mp hnil)

theorem mem_pathSegments {text s : List Char} (hs : s ∈ pathSegments text) {c : Char} (hc : c ∈ s) :
    SegmentChar c := by
  rcases mem_walk hs with hnil | hsplit | rfl
  · exact absurd hnil List.not_mem_nil
  · obtain ⟨piece, hpiece, rfl⟩ := List.mem_map.mp hsplit
    exact segmentChar_of_mem (fun d hd => (mem_of_mem_splitOnP hpiece hd).2) hc
  · exact absurd hc List.not_mem_nil

/-! ## Cutting -/

theorem cut_of_not_mem {separator : Char} {text : List Char} (h : separator ∉ text) :
    cut separator text = (text, none) := by
  have hdrop : text.dropWhile (· != separator) = [] := by
    rw [List.dropWhile_eq_nil_iff]
    intro c hc
    rw [bne_iff_ne]
    rintro rfl
    exact h hc
  unfold cut
  rw [hdrop]

theorem cut_append {separator : Char} {text : List Char} (h : separator ∉ text) (rest : List Char) :
    cut separator (text ++ separator :: rest) = (text, some rest) := by
  have hpos : ∀ c ∈ text, (c != separator) = true := by
    intro c hc
    rw [bne_iff_ne]
    rintro rfl
    exact h hc
  have hsep : ¬(separator != separator) = true := by simp
  unfold cut
  rw [List.dropWhile_append_of_pos hpos, @List.dropWhile_cons_of_neg _ (· != separator) _ _ hsep,
    List.takeWhile_append_of_pos hpos, @List.takeWhile_cons_of_neg _ (· != separator) _ _ hsep,
    List.append_nil]

/-- Nothing is lost in between. -/
theorem cut_cases (separator : Char) (text : List Char) :
    cut separator text = (text, none) ∨
      ∃ start rest, text = start ++ separator :: rest ∧ cut separator text = (start, some rest) := by
  by_cases h : separator ∈ text
  · right
    obtain ⟨start, rest, rfl, hstart⟩ := List.eq_append_cons_of_mem h
    exact ⟨start, rest, rfl, cut_append hstart rest⟩
  · exact .inl (cut_of_not_mem h)

/-! ## Resolving a path of the site -/

theorem cleaned_of_visible {input : List Char} (h : ∀ c ∈ input, 0x20 < c.toNat) :
    cleaned input = input := by
  have hblank : ∀ c ∈ input, ¬isBlank c = true := by
    intro c hc
    have := h c hc
    unfold isBlank
    simp only [decide_eq_true_eq]
    omega
  have hbreak : ∀ c ∈ input, (!isBreak c) = true := by
    intro c hc
    have hvisible := h c hc
    unfold isBreak
    have htab : c ≠ '\t' := ne_of_toNat (by show c.toNat ≠ 9; omega)
    have hline : c ≠ '\n' := ne_of_toNat (by show c.toNat ≠ 10; omega)
    have hreturn : c ≠ '\r' := ne_of_toNat (by show c.toNat ≠ 13; omega)
    simp [htab, hline, hreturn]
  have hstart : input.dropWhile isBlank = input := by
    cases input with
    | nil => rfl
    | cons c input => exact List.dropWhile_cons_of_neg (hblank c List.mem_cons_self)
  have hend : input.rdropWhile isBlank = input := by
    rw [List.rdropWhile_eq_self_iff]
    exact fun hne => hblank _ (List.getLast_mem hne)
  unfold cleaned
  rw [hstart, hend, List.filter_eq_self.mpr hbreak]

/-- **A single slash stays on the site.** -/
theorem resolve_path (originOf : List Char → Option String) (base : String) {text : List Char}
    (hvisible : ∀ c ∈ text, 0x20 < c.toNat) (hslash : text.head?.any isSlash = false) :
    resolve originOf base ('/' :: text) = some (address base text) := by
  have hclean : cleaned ('/' :: text) = '/' :: text := by
    apply cleaned_of_visible
    intro c hc
    rcases List.mem_cons.mp hc with rfl | hc
    · decide
    · exact hvisible c hc
  unfold resolve
  rw [hclean]
  show (if text.head?.any isSlash then _ else some (address base text)) = _
  rw [hslash]
  rfl

/-- Whatever the origin, path, query and fragment are read alike. -/
theorem eq_address_of_resolve {originOf : List Char → Option String} {base : String} {input : List Char}
    {a : Address} (h : resolve originOf base input = some a) : ∃ text, a = address a.origin text := by
  unfold resolve at h
  split at h
  · next text _ =>
    split at h
    · obtain ⟨origin, -, rfl⟩ := Option.map_eq_some_iff.mp h
      exact ⟨_, rfl⟩
    · cases h
      exact ⟨text, rfl⟩
  · cases h

theorem search_cases (a : Address) :
    a.search = [] ∨ ∃ text, a.query = some text ∧ a.search = '?' :: text := by
  unfold Address.search
  split
  · exact .inl rfl
  · exact .inl rfl
  · next c text h => exact .inr ⟨c :: text, h, rfl⟩

theorem hash_cases (a : Address) :
    a.hash = [] ∨ ∃ text, a.fragment = some text ∧ a.hash = '#' :: text := by
  unfold Address.hash
  split
  · exact .inl rfl
  · exact .inl rfl
  · next c text h => exact .inr ⟨c :: text, h, rfl⟩

theorem visible_pathname {origin : String} {text : List Char} {c : Char}
    (h : c ∈ (address origin text).pathname) : 0x20 < c.toNat := by
  obtain ⟨segment, hsegment, hc⟩ := List.mem_flatMap.mp h
  rcases List.mem_cons.mp hc with rfl | hc
  · decide
  · exact (mem_pathSegments hsegment hc).visible

theorem visible_search {origin : String} {text : List Char} {c : Char}
    (h : c ∈ (address origin text).search) : 0x20 < c.toNat := by
  rcases search_cases (address origin text) with hnone | ⟨query, hquery, hsearch⟩
  · rw [hnone] at h
    exact absurd h List.not_mem_nil
  · rw [hsearch] at h
    obtain ⟨source, -, rfl⟩ := Option.map_eq_some_iff.mp hquery
    rcases List.mem_cons.mp h with rfl | hc
    · decide
    · exact (mem_query hc).1

theorem visible_hash {origin : String} {text : List Char} {c : Char}
    (h : c ∈ (address origin text).hash) : 0x20 < c.toNat := by
  rcases hash_cases (address origin text) with hnone | ⟨fragment, hfragment, hhash⟩
  · rw [hnone] at h
    exact absurd h List.not_mem_nil
  · rw [hhash] at h
    obtain ⟨source, -, rfl⟩ := Option.map_eq_some_iff.mp hfragment
    rcases List.mem_cons.mp h with rfl | hc
    · decide
    · exact mem_fragment hc

theorem address_path (origin : String) {text : List Char} (hquestion : '?' ∉ text) (hhash : '#' ∉ text) :
    address origin text = ⟨origin, pathSegments text, none, none⟩ := by
  unfold address
  rw [cut_of_not_mem hhash, cut_of_not_mem hquestion]
  rfl

theorem address_query (origin : String) {text query : List Char} (hquestion : '?' ∉ text)
    (hhash : '#' ∉ text) (hquery : '#' ∉ query) :
    address origin (text ++ '?' :: query) =
      ⟨origin, pathSegments text, some (percentEncode specialQuerySet query), none⟩ := by
  have hnone : '#' ∉ text ++ '?' :: query := by
    rw [List.mem_append, List.mem_cons]
    rintro (h | h | h)
    · exact hhash h
    · exact absurd h (by decide)
    · exact hquery h
  unfold address
  rw [cut_of_not_mem hnone, cut_append hquestion]
  rfl

end UrlReference
