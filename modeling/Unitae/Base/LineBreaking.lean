import Mathlib.Algebra.BigOperators.Group.List.Basic
import Mathlib.Algebra.Order.BigOperators.Group.List
import Mathlib.Algebra.Order.Monoid.Unbundled.Pow
import Mathlib.Tactic.Abel

/-!
# Greedy line breaking

Items of given sizes are put on lines in order, with a gap between two of a line. An item starts a new line when
the line being filled has something on it and no room for the item; a line of one item may be too wide.

A line that fits is passed with at most one break (`length_run_full_le`): after a break inside it, what is left
of it fits on the line begun there. Hence no split into lines that fit has fewer of them (`breakLines_le`).
-/

section LineBreaking

variable {α K : Type*} [AddCommMonoid K]

/-- The items of a line and the gaps between them. -/
def lineWidth (size : α → K) (gap : K) (line : List α) : K :=
  (line.map size).sum + (line.length - 1) • gap

section Width

variable {size : α → K} {gap : K} {line : List α} {item : α}

@[simp] theorem lineWidth_nil : lineWidth size gap [] = 0 := by simp [lineWidth]

@[simp] theorem lineWidth_singleton : lineWidth size gap [item] = size item := by simp [lineWidth]

theorem lineWidth_concat (h : line ≠ []) :
    lineWidth size gap (line ++ [item]) = lineWidth size gap line + gap + size item := by
  obtain ⟨n, hn⟩ := Nat.exists_eq_succ_of_ne_zero (List.length_pos_iff.mpr h).ne'
  simp only [lineWidth, List.map_append, List.map_cons, List.map_nil, List.sum_append, List.sum_singleton,
    List.length_append, List.length_singleton, hn, Nat.add_sub_cancel, Nat.succ_eq_add_one, succ_nsmul]
  abel

end Width

/-! ## Filling -/

/-- The full lines, and the one being filled. -/
structure Lines (α : Type*) where
  full : List (List α)
  current : List α

def Lines.all (lines : Lines α) : List (List α) := lines.full ++ [lines.current]

variable [LinearOrder K]

def Lines.add (size : α → K) (gap room : K) (lines : Lines α) (item : α) : Lines α :=
  if lines.current ≠ [] ∧ room < lineWidth size gap (lines.current ++ [item]) then
    ⟨lines.full ++ [lines.current], [item]⟩
  else ⟨lines.full, lines.current ++ [item]⟩

def Lines.run (size : α → K) (gap room : K) (lines : Lines α) (items : List α) : Lines α :=
  items.foldl (Lines.add size gap room) lines

def breakLines (size : α → K) (gap room : K) (items : List α) : List (List α) :=
  (Lines.run size gap room ⟨[], []⟩ items).all

/-- Several items are no wider than the room. -/
def LineFits (size : α → K) (gap room : K) (line : List α) : Prop :=
  1 < line.length → lineWidth size gap line ≤ room

section Filling

variable {size : α → K} {gap room : K} {lines : Lines α} {items line line' : List α} {item : α}

theorem add_flatten : (Lines.add size gap room lines item).all.flatten = lines.all.flatten ++ [item] := by
  unfold Lines.add
  split <;> simp [Lines.all]

/-- The lines are the items, in order. -/
theorem breakLines_flatten : (breakLines size gap room items).flatten = items := by
  have hrun : ∀ lines : Lines α, (Lines.run size gap room lines items).all.flatten = lines.all.flatten ++ items := by
    induction items with
    | nil => exact fun _ => (List.append_nil _).symm
    | cons item items ih =>
      intro lines
      show (Lines.run size gap room (Lines.add size gap room lines item) items).all.flatten = _
      rw [ih, add_flatten, List.append_assoc, List.singleton_append]
  exact hrun ⟨[], []⟩

/-- The lines fit, and only the one being filled may be empty. -/
structure Lines.Filled (size : α → K) (gap room : K) (lines : Lines α) : Prop where
  fits : ∀ line ∈ lines.all, LineFits size gap room line
  full_ne : ∀ line ∈ lines.full, line ≠ []

theorem Lines.Filled.add (h : lines.Filled size gap room) :
    (Lines.add size gap room lines item).Filled size gap room ∧ (Lines.add size gap room lines item).current ≠ [] := by
  have hfull : ∀ line ∈ lines.full, LineFits size gap room line := fun line hline =>
    h.fits line (List.mem_append_left _ hline)
  unfold Lines.add
  split
  · next hbreak =>
    refine ⟨⟨fun line hline => ?_, fun line hline => ?_⟩, List.cons_ne_nil _ _⟩
    · rcases List.mem_append.mp hline with hline | hline
      · exact h.fits line hline
      · rw [List.mem_singleton.mp hline]
        exact fun hlong => absurd hlong (lt_irrefl 1)
    · rcases List.mem_append.mp hline with hline | hline
      · exact h.full_ne line hline
      · rw [List.mem_singleton.mp hline]
        exact hbreak.1
  · next hjoin =>
    refine ⟨⟨fun line hline => ?_, h.full_ne⟩, List.concat_ne_nil _ _⟩
    rcases List.mem_append.mp hline with hline | hline
    · exact hfull line hline
    · rw [List.mem_singleton.mp hline]
      intro hlong
      have hcurrent : lines.current ≠ [] := by
        intro hnil
        rw [hnil] at hlong
        exact absurd hlong (lt_irrefl 1)
      exact not_lt.mp fun hwide => hjoin ⟨hcurrent, hwide⟩

theorem run_filled (h : lines.Filled size gap room) (hcurrent : items = [] → lines.current ≠ []) :
    (Lines.run size gap room lines items).Filled size gap room ∧
      (Lines.run size gap room lines items).current ≠ [] := by
  induction items generalizing lines with
  | nil => exact ⟨h, hcurrent rfl⟩
  | cons item items ih => exact ih h.add.1 fun _ => h.add.2

theorem filled_nil : (⟨[], []⟩ : Lines α).Filled size gap room where
  fits line hline := by
    rw [List.mem_singleton.mp hline]
    exact fun hlong => absurd hlong (Nat.not_lt_zero 1)
  full_ne := by simp

theorem breakLines_fits (hline : line ∈ breakLines size gap room items) : LineFits size gap room line := by
  cases items with
  | nil => exact filled_nil.fits line hline
  | cons item items => exact (run_filled filled_nil (by simp)).1.fits line hline

/-- No line is empty where there is something to put on it. -/
theorem breakLines_ne (hitems : items ≠ []) (hline : line ∈ breakLines size gap room items) : line ≠ [] := by
  have hrun : (Lines.run size gap room ⟨[], []⟩ items).Filled size gap room ∧
      (Lines.run size gap room ⟨[], []⟩ items).current ≠ [] := run_filled filled_nil fun hnil => absurd hnil hitems
  rcases List.mem_append.mp hline with hline | hline
  · exact hrun.1.full_ne line hline
  · rw [List.mem_singleton.mp hline]
    exact hrun.2

end Filling

/-! ## No split has fewer lines -/

variable [IsOrderedAddMonoid K]

section Fewest

variable {size : α → K} {gap room : K} {lines : Lines α} {items line line' : List α} {item : α}

theorem lineWidth_mono (hsize : ∀ item ∈ line', 0 ≤ size item) (hgap : 0 ≤ gap) (h : line.Sublist line') :
    lineWidth size gap line ≤ lineWidth size gap line' := by
  have hitems : (line.map size).sum ≤ (line'.map size).sum :=
    (h.map size).sum_le_sum (by simpa using hsize)
  have hgaps : (line.length - 1) • gap ≤ (line'.length - 1) • gap :=
    nsmul_le_nsmul_left hgap (Nat.sub_le_sub_right h.length_le 1)
  exact add_le_add hitems hgaps

/-- What is left of a line that fits does. -/
theorem LineFits.sublist (hfits : LineFits size gap room line') (hsize : ∀ item ∈ line', 0 ≤ size item)
    (hgap : 0 ≤ gap) (h : line.Sublist line') : LineFits size gap room line := fun hlong =>
  (lineWidth_mono hsize hgap h).trans (hfits (hlong.trans_le h.length_le))

/-- What fits on the line being filled is put there. -/
theorem run_of_fits (hsize : ∀ item ∈ lines.current ++ line, 0 ≤ size item) (hgap : 0 ≤ gap)
    (hfits : LineFits size gap room (lines.current ++ line)) :
    Lines.run size gap room lines line = ⟨lines.full, lines.current ++ line⟩ := by
  induction line generalizing lines with
  | nil => rw [List.append_nil]; rfl
  | cons item line ih =>
    have hsplit : lines.current ++ item :: line = (lines.current ++ [item]) ++ line := by simp
    rw [hsplit] at hsize hfits ⊢
    have hjoin : Lines.add size gap room lines item = ⟨lines.full, lines.current ++ [item]⟩ := by
      refine if_neg fun hbreak => not_lt.mpr ?_ hbreak.2
      refine hfits.sublist hsize hgap (List.sublist_append_left _ _) ?_
      have hpos := List.length_pos_iff.mpr hbreak.1
      rw [List.length_append, List.length_singleton]
      omega
    show Lines.run size gap room (Lines.add size gap room lines item) line = _
    rw [hjoin]
    exact ih hsize hfits

/-- A line that fits is passed with one break at most. -/
theorem length_run_full_le (hsize : ∀ item ∈ line, 0 ≤ size item) (hgap : 0 ≤ gap)
    (hfits : LineFits size gap room line) :
    (Lines.run size gap room lines line).full.length ≤ lines.full.length + 1 := by
  induction line generalizing lines with
  | nil => exact Nat.le_succ _
  | cons item line ih =>
    show (Lines.run size gap room (Lines.add size gap room lines item) line).full.length ≤ _
    unfold Lines.add
    split
    · -- the rest goes on the line that the break begins
      rw [run_of_fits hsize hgap hfits, List.length_append, List.length_singleton]
    · exact ih (fun x hx => hsize x (List.mem_cons_of_mem _ hx))
        (hfits.sublist hsize hgap (List.sublist_cons_self _ _))

/-- **No split into lines that fit has fewer lines.** -/
theorem breakLines_le {split : List (List α)} (hne : split ≠ []) (hgap : 0 ≤ gap)
    (hsize : ∀ item ∈ split.flatten, 0 ≤ size item) (hfits : ∀ line ∈ split, LineFits size gap room line) :
    (breakLines size gap room split.flatten).length ≤ split.length := by
  have hrun : ∀ (split : List (List α)) (lines : Lines α), (∀ item ∈ split.flatten, 0 ≤ size item) →
      (∀ line ∈ split, LineFits size gap room line) →
      (Lines.run size gap room lines split.flatten).full.length ≤ lines.full.length + split.length := by
    intro split
    induction split with
    | nil => exact fun _ _ _ => le_rfl
    | cons line split ih =>
      intro lines hsize hfits
      rw [List.flatten_cons] at hsize ⊢
      have hline := @length_run_full_le _ _ _ _ _ size gap room lines line
        (fun x hx => hsize x (List.mem_append_left _ hx)) hgap (hfits line List.mem_cons_self)
      have hrest := ih (Lines.run size gap room lines line) (fun x hx => hsize x (List.mem_append_right _ hx))
        fun l hl => hfits l (List.mem_cons_of_mem _ hl)
      rw [List.length_cons]
      unfold Lines.run at hline hrest ⊢
      rw [List.foldl_append]
      omega
  cases split with
  | nil => exact absurd rfl hne
  | cons line split =>
    -- the first line of the split starts on an empty line
    rw [List.flatten_cons] at hsize ⊢
    have hfirst : Lines.run size gap room ⟨[], []⟩ line = ⟨[], line⟩ :=
      run_of_fits (fun x hx => hsize x (List.mem_append_left _ hx)) hgap (hfits line List.mem_cons_self)
    have hrest := hrun split ⟨[], line⟩ (fun x hx => hsize x (List.mem_append_right _ hx))
      fun l hl => hfits l (List.mem_cons_of_mem _ hl)
    unfold breakLines Lines.all
    unfold Lines.run at hfirst hrest ⊢
    rw [List.foldl_append, hfirst, List.length_append, List.length_singleton, List.length_cons]
    simpa using hrest

end Fewest

end LineBreaking
