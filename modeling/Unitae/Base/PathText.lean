import Mathlib.Data.List.Infix
import Unitae.Base.Listing

/-!
# Paths and their texts

A path is the list of its segments. `resolvePath` goes along a text from a base: blank segments and single dots
stand still, two dots go back up, an absolute text starts afresh. What comes out has proper segments only
(`resolvePath_proper`), and of proper paths the texts say which is below which (`pathText_below_iff`).
-/

abbrev Segment := List Char

/-- A segment that names something. -/
structure Segment.Proper (s : Segment) : Prop where
  ne_nil : s ≠ []
  no_slash : '/' ∉ s
  ne_dot : s ≠ ['.']
  ne_dots : s ≠ ['.', '.']

def pathStep (path : List Segment) (part : Segment) : List Segment :=
  if part = [] ∨ part = ['.'] then path
  else if part = ['.', '.'] then path.dropLast
  else path ++ [part]

def resolvePath (base : List Segment) (text : List Char) : List Segment :=
  (text.splitOn '/').foldl pathStep (if text.head? = some '/' then [] else base)

def pathText (path : List Segment) : List Char :=
  if path = [] then ['/'] else path.flatMap ('/' :: ·)

section Paths

variable {base path root : List Segment} {text : List Char} {part : Segment}

/-! ## Where a text leads -/

theorem pathStep_proper (hpath : ∀ s ∈ path, Segment.Proper s) (hpart : '/' ∉ part) :
    ∀ s ∈ pathStep path part, Segment.Proper s := by
  unfold pathStep
  split
  · exact hpath
  · next hstill =>
    split
    · exact fun s hs => hpath s (List.dropLast_subset path hs)
    · next hup =>
      intro s hs
      rcases List.mem_append.mp hs with hs | hs
      · exact hpath s hs
      · rw [List.mem_singleton.mp hs]
        exact ⟨fun h => hstill (.inl h), hpart, fun h => hstill (.inr h), hup⟩

theorem resolvePath_proper (hbase : ∀ s ∈ base, Segment.Proper s) : ∀ s ∈ resolvePath base text, Segment.Proper s := by
  have hfold : ∀ (parts : List Segment) (path : List Segment), (∀ part ∈ parts, '/' ∉ part) →
      (∀ s ∈ path, Segment.Proper s) → ∀ s ∈ parts.foldl pathStep path, Segment.Proper s := by
    intro parts
    induction parts with
    | nil => exact fun path _ hpath => hpath
    | cons part parts ih =>
      intro path hparts hpath
      exact ih _ (fun p hp => hparts p (List.mem_cons_of_mem _ hp))
        (pathStep_proper hpath (hparts part List.mem_cons_self))
  refine hfold _ _ (fun part => not_mem_of_mem_splitOn) ?_
  split
  · exact fun s hs => absurd hs List.not_mem_nil
  · exact hbase

/-- Proper segments lead down from the base. -/
theorem resolvePath_intercalate {parts : List Segment} (hparts : ∀ s ∈ parts, Segment.Proper s) (hne : parts ≠ []) :
    resolvePath base (['/'].intercalate parts) = base ++ parts := by
  have hfold : ∀ (parts path : List Segment), (∀ s ∈ parts, Segment.Proper s) →
      parts.foldl pathStep path = path ++ parts := by
    intro parts
    induction parts with
    | nil => exact fun path _ => (List.append_nil path).symm
    | cons part parts ih =>
      intro path hproper
      have hpart := hproper part List.mem_cons_self
      have hdown : pathStep path part = path ++ [part] := by
        rw [pathStep, if_neg (not_or.mpr ⟨hpart.ne_nil, hpart.ne_dot⟩), if_neg hpart.ne_dots]
      rw [List.foldl_cons, hdown, ih _ fun s hs => hproper s (List.mem_cons_of_mem _ hs), List.append_assoc]
      rfl
  have hhead : (['/'].intercalate parts).head? ≠ some '/' := by
    cases parts with
    | nil => exact absurd rfl hne
    | cons part parts =>
      obtain ⟨hnil, hslash, -, -⟩ := hparts part List.mem_cons_self
      cases part with
      | nil => exact absurd rfl hnil
      | cons c part =>
        have hc : c ≠ '/' := fun hc => hslash (hc ▸ List.mem_cons_self)
        cases parts with
        | nil => simpa using hc
        | cons next parts => simpa [List.intercalate_cons_cons] using hc
  rw [resolvePath, if_neg hhead, List.splitOn_intercalate '/' (fun s hs => (hparts s hs).no_slash) hne]
  exact hfold parts base hparts

/-! ## Texts of paths -/

theorem splitOn_flatMap (hpart : '/' ∉ part) (hpath : ∀ s ∈ path, Segment.Proper s) :
    (part ++ path.flatMap ('/' :: ·)).splitOn '/' = part :: path := by
  induction path generalizing part with
  | nil => rw [List.flatMap_nil, List.append_nil, List.splitOn_eq_singleton hpart]
  | cons s path ih =>
    have hs := hpath s List.mem_cons_self
    rw [List.flatMap_cons, List.cons_append, List.splitOn_append_cons_self, List.splitOn_eq_singleton hpart,
      ih hs.no_slash fun s hs => hpath s (List.mem_cons_of_mem _ hs)]
    rfl

theorem splitOn_pathText (hne : path ≠ []) (hpath : ∀ s ∈ path, Segment.Proper s) :
    (pathText path).splitOn '/' = [] :: path := by
  rw [pathText, if_neg hne]
  exact splitOn_flatMap List.not_mem_nil hpath

theorem pathText_injective (hpath : ∀ s ∈ path, Segment.Proper s) (hroot : ∀ s ∈ root, Segment.Proper s)
    (h : pathText path = pathText root) : path = root := by
  have hslash : ∀ p : List Segment, (∀ s ∈ p, Segment.Proper s) → pathText p = ['/'] → p = [] := by
    intro p hp htext
    by_contra hne
    have hsplit := splitOn_pathText hne hp
    rw [htext] at hsplit
    have hempty : p = [[]] := (List.cons.inj hsplit).2.symm
    exact (hp [] (hempty ▸ List.mem_singleton_self _)).ne_nil rfl
  by_cases hnil : path = []
  · rw [hnil]
    exact (hslash root hroot (by rw [← h, hnil]; rfl)).symm
  · have hne : root ≠ [] := fun hroot' => hnil (hslash path hpath (by rw [h, hroot']; rfl))
    have hsplit := splitOn_pathText hnil hpath
    rw [h, splitOn_pathText hne hroot] at hsplit
    exact (List.cons.inj hsplit).2.symm

/-- **The text of a path goes on from another's, after a separator, where the path is below it.** -/
theorem pathText_below_iff (hne : root ≠ []) (hpath : ∀ s ∈ path, Segment.Proper s)
    (hroot : ∀ s ∈ root, Segment.Proper s) :
    pathText root ++ ['/'] <+: pathText path ↔ ∃ rest ≠ [], path = root ++ rest := by
  constructor
  · rintro ⟨tail, htail⟩
    have hsplit : (pathText path).splitOn '/' = ([] :: root) ++ tail.splitOn '/' := by
      rw [← htail, List.append_assoc, List.singleton_append, List.splitOn_append_cons_self, splitOn_pathText hne hroot]
    by_cases hnil : path = []
    · -- the text of the root of all paths is one separator, and nothing follows it
      rw [hnil] at hsplit
      have hempty : [[]] = root ++ tail.splitOn '/' := (List.cons.inj hsplit).2
      cases root with
      | nil => exact absurd rfl hne
      | cons s root => exact absurd (List.cons.inj hempty).1.symm (hroot s List.mem_cons_self).ne_nil
    · rw [splitOn_pathText hnil hpath] at hsplit
      exact ⟨tail.splitOn '/', List.splitOn_ne_nil _ _, (List.cons.inj hsplit).2⟩
  · rintro ⟨rest, hrest, rfl⟩
    cases rest with
    | nil => exact absurd rfl hrest
    | cons s rest =>
      refine ⟨s ++ rest.flatMap ('/' :: ·), ?_⟩
      rw [pathText, pathText, if_neg hne, if_neg (List.append_ne_nil_of_left_ne_nil hne _), List.flatMap_append,
        List.flatMap_cons, List.append_assoc]
      rfl

end Paths
