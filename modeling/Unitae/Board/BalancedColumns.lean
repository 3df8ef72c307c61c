import Mathlib.Algebra.Order.BigOperators.Group.List
import Mathlib.Algebra.Order.Group.Int
import Mathlib.Data.List.Chain
import Mathlib.Data.List.GetD
import Mathlib.Data.List.Lex
import Mathlib.Data.List.MinMax
import Mathlib.Data.Prod.Lex
import Mathlib.Order.Lex
import Unitae.Base.Incumbent

/-!
# Unitae — splitting a list into columns

`balancedColumns` cuts a list into columns that read in order and end as evenly as possible. Its
search visits the cut points depth first and leaves a branch whose tallest column already exceeds
the tallest of the best split found. Heights are taken exactly, in any ordered group.
-/

namespace Unitae.Board

variable {T K : Type} [AddCommGroup K] [LinearOrder K]

/-! ## The source's functions -/

def prefixSums (heights : List K) : List K :=
  heights.foldl (fun sums height => sums ++ [sums.getLastD 0 + height]) [0]

def span (sums : List K) (start stop : ℕ) : K := sums.getD stop 0 - sums.getD start 0

/-- `items.slice(start, stop)`. -/
def slice (items : List T) (start stop : ℕ) : List T := (items.drop start).take (stop - start)

/-- `bounds.slice(1).map((end, index) => f(bounds[index], end))`. -/
def overColumns {β : Type} (f : ℕ → ℕ → β) (bounds : List ℕ) : List β := bounds.zipWith f bounds.tail

/-- Shortest tallest column first, then the tallest shortest one, then the first columns the fuller
ones. `Math.max` of no heights is `⊥`. -/
def better (heights than : List K) : Bool :=
  if heights.maximum ≠ than.maximum then heights.maximum < than.maximum
  else if heights.minimum ≠ than.minimum then than.minimum < heights.minimum
  else match (heights.zip than).find? fun p => p.1 ≠ p.2 with
    | some (height, other) => other < height
    | none => false

/-- The source's `best` and `bestHeights`, which are set together. -/
structure ColumnCuts (K : Type) where
  cuts : List ℕ
  heights : List K
deriving DecidableEq

/-- `remaining` is `count - 1 - cuts.length`, and `length` is `items.length`. -/
def search (length : ℕ) (sums : List K) :
    (remaining start : ℕ) → List ℕ → K → Option (ColumnCuts K) → Option (ColumnCuts K)
  | remaining, start, cuts, tallest, best =>
    if best.any fun b => b.heights.maximum < (tallest : WithBot K) then best
    else match remaining with
      | 0 =>
        let bounds := 0 :: (cuts ++ [length])
        let heights := overColumns (span sums) bounds
        if best.all fun b => better heights b.heights then some ⟨cuts, heights⟩ else best
      | remaining + 1 =>
        (List.range' start (length + 1 - start)).foldl (fun best cut =>
          search length sums remaining cut (cuts ++ [cut]) (max tallest (span sums start cut)) best)
          best

/-- The count is at least one: with none the source's search does not end. -/
def balancedColumns (items : List T) (count : ℕ) (heightOf : T → K) : List (List T) :=
  let sums := prefixSums (items.map heightOf)
  let best := (search items.length sums (count - 1) 0 [] 0 none).elim [] (·.cuts)
  overColumns (slice items) (0 :: (best ++ [items.length]))

/-! ## Columns between bounds -/

section Bounds

variable {β : Type} (f : ℕ → ℕ → β)

@[simp] theorem overColumns_cons (a b : ℕ) (bounds : List ℕ) :
    overColumns f (a :: b :: bounds) = f a b :: overColumns f (b :: bounds) := rfl

@[simp] theorem overColumns_one (a : ℕ) : overColumns f [a] = [] := rfl

@[simp] theorem length_overColumns (bounds : List ℕ) :
    (overColumns f bounds).length = bounds.length - 1 := by
  simp [overColumns]

/-- Two bounds that follow each other give a column. -/
theorem mem_overColumns (front : List ℕ) (a b : ℕ) (back : List ℕ) :
    f a b ∈ overColumns f (front ++ a :: b :: back) := by
  induction front with
  | nil => exact List.mem_cons_self
  | cons c front ih =>
    cases front with
    | nil => exact List.mem_cons_of_mem _ ih
    | cons d front => exact List.mem_cons_of_mem _ ih

end Bounds

/-- The bounds of the columns: they rise from `start` to the end of the list. -/
def Rising (start : ℕ) (cuts : List ℕ) (length : ℕ) : Prop :=
  (start :: (cuts ++ [length])).IsChain (· ≤ ·)

section Rising

variable {start cut length : ℕ} {cuts : List ℕ}

theorem rising_nil : Rising start [] length ↔ start ≤ length := by
  simp [Rising]

theorem rising_cons : Rising start (cut :: cuts) length ↔ start ≤ cut ∧ Rising cut cuts length := by
  simp [Rising]

theorem Rising.le (h : Rising start cuts length) : start ≤ length := by
  induction cuts generalizing start with
  | nil => exact rising_nil.mp h
  | cons cut cuts ih =>
    obtain ⟨hcut, hrest⟩ := rising_cons.mp h
    have := ih hrest
    omega

/-- The slices of rising bounds put back together are the list from the first bound on. -/
theorem Rising.flatten_slices {items : List T} (h : Rising start cuts items.length) :
    (overColumns (slice items) (start :: (cuts ++ [items.length]))).flatten = items.drop start := by
  induction cuts generalizing start with
  | nil =>
    have htake : (items.drop start).take (items.length - start) = items.drop start :=
      List.take_of_length_le (by simp)
    simp [slice, htake]
  | cons cut cuts ih =>
    obtain ⟨hcut, hrest⟩ := rising_cons.mp h
    have hdrop : items.drop cut = (items.drop start).drop (cut - start) := by
      rw [List.drop_drop]
      congr 1
      omega
    rw [List.cons_append, overColumns_cons, List.flatten_cons, ih hrest, hdrop, slice]
    exact List.take_append_drop _ _

/-- Every split in order is given by rising bounds. -/
theorem exists_rising (done : List T) (column : List T) (columns : List (List T)) :
    ∃ cuts : List ℕ, cuts.length = columns.length ∧
      Rising done.length cuts (done ++ (column :: columns).flatten).length ∧
      overColumns (slice (done ++ (column :: columns).flatten))
        (done.length :: (cuts ++ [(done ++ (column :: columns).flatten).length]))
        = column :: columns := by
  induction columns generalizing done column with
  | nil => exact ⟨[], rfl, rising_nil.mpr (by simp), by simp [slice]⟩
  | cons next columns ih =>
    obtain ⟨cuts, hlength, hrising, hcolumns⟩ := ih (done ++ column) next
    have hitems : done ++ column ++ (next :: columns).flatten
        = done ++ (column :: next :: columns).flatten := by
      simp
    rw [hitems] at hrising hcolumns
    refine ⟨(done ++ column).length :: cuts, by simp [hlength], ?_, ?_⟩
    · exact rising_cons.mpr ⟨by simp, hrising⟩
    · have hfirst : slice (done ++ (column :: next :: columns).flatten) done.length
          (done ++ column).length = column := by
        simp [slice]
      rw [List.cons_append, overColumns_cons, hcolumns, hfirst]

end Rising

/-! ## Heights of columns -/

section Heights

omit [LinearOrder K] in
theorem getD_prefixSums (heights : List K) {i : ℕ} (hi : i ≤ heights.length) :
    (prefixSums heights).getD i 0 = (heights.take i).sum := by
  suffices h : ∀ hs : List K, (prefixSums hs).length = hs.length + 1
      ∧ ∀ j ≤ hs.length, (prefixSums hs).getD j 0 = (hs.take j).sum from (h heights).2 i hi
  -- the sums are pushed at the end, so the list is taken from its end
  intro hs
  induction hs using List.reverseRecOn with
  | nil => simp [prefixSums]
  | append_singleton hs height ih =>
    obtain ⟨hlength, hsums⟩ := ih
    have hlast : (prefixSums hs).getLastD 0 = hs.sum := by
      have hget := hsums hs.length le_rfl
      rw [List.take_length] at hget
      rw [← hget, List.getLastD_eq_getLast?, List.getLast?_eq_getElem?, hlength,
        Nat.add_sub_cancel, List.getD_eq_getElem?_getD]
    have hpush : prefixSums (hs ++ [height]) = prefixSums hs ++ [hs.sum + height] := by
      conv_lhs => rw [prefixSums, List.foldl_append]
      show prefixSums hs ++ [(prefixSums hs).getLastD 0 + height] = _
      rw [hlast]
    rw [hpush]
    refine ⟨by simp [hlength], fun j hj => ?_⟩
    rcases Nat.lt_or_ge j (hs.length + 1) with hlt | hge
    · rw [List.getD_append _ _ _ _ (by omega), hsums j (by omega),
        List.take_append_of_le_length (by omega)]
    · have hj' : j = hs.length + 1 := by
        simp at hj
        omega
      subst hj'
      rw [List.getD_append_right _ _ _ _ (by omega), hlength]
      simp

/-- The height of a column in the order it is printed. -/
def columnHeight (heightOf : T → K) (column : List T) : K := (column.map heightOf).sum

omit [LinearOrder K] in
theorem span_eq (items : List T) (heightOf : T → K) {start stop : ℕ} (h : start ≤ stop)
    (hstop : stop ≤ items.length) :
    span (prefixSums (items.map heightOf)) start stop
      = columnHeight heightOf (slice items start stop) := by
  have hsplit : items.take stop = items.take start ++ slice items start stop := by
    rw [slice, ← List.take_add]
    congr 1
    omega
  rw [span, getD_prefixSums _ (by simpa using hstop), getD_prefixSums _ (by simp; omega),
    ← List.map_take, ← List.map_take, hsplit, List.map_append, List.sum_append, columnHeight, add_sub_cancel_left]

omit [LinearOrder K] in
theorem Rising.spans {items : List T} {start : ℕ} {cuts : List ℕ}
    (h : Rising start cuts items.length) (heightOf : T → K) :
    overColumns (span (prefixSums (items.map heightOf))) (start :: (cuts ++ [items.length]))
      = (overColumns (slice items) (start :: (cuts ++ [items.length]))).map
          (columnHeight heightOf) := by
  induction cuts generalizing start with
  | nil => simp [span_eq items heightOf (rising_nil.mp h) le_rfl]
  | cons cut cuts ih =>
    obtain ⟨hcut, hrest⟩ := rising_cons.mp h
    rw [List.cons_append, overColumns_cons, overColumns_cons, List.map_cons, ih hrest,
      span_eq items heightOf hcut hrest.le]

theorem columnHeight_nonneg [IsOrderedAddMonoid K] {heightOf : T → K}
    {column : List T} (h : ∀ x ∈ column, 0 ≤ heightOf x) : 0 ≤ columnHeight heightOf column := by
  apply List.sum_nonneg
  intro height hheight
  obtain ⟨x, hx, rfl⟩ := List.mem_map.mp hheight
  exact h x hx

end Heights

/-! ## The order of the candidates -/

/-- `Lex` order in which a later candidate takes the place of the best one: a smaller maximum, a
larger minimum, then the first heights the larger ones. -/
def rank (heights : List K) : (WithBot K)ᵒᵈ ×ₗ WithTop K ×ₗ List K :=
  toLex (OrderDual.toDual heights.maximum, toLex (heights.minimum, heights))

omit [AddCommGroup K] in
theorem firstDifference_iff {heights than : List K} (h : heights.length = than.length) :
    (match (heights.zip than).find? fun p => p.1 ≠ p.2 with
      | some (height, other) => decide (other < height)
      | none => false) = true ↔ than < heights := by
  induction heights generalizing than with
  | nil =>
    cases than with
    | nil => simp
    | cons => simp at h
  | cons height heights ih =>
    cases than with
    | nil => simp at h
    | cons other than =>
      by_cases hne : height = other
      · subst hne
        simpa [List.cons_lt_cons_iff] using ih (by simpa using h)
      · simp [List.cons_lt_cons_iff, hne, Ne.symm hne]

omit [AddCommGroup K] in
theorem rank_lt {heights than : List K} : rank than < rank heights ↔
    heights.maximum < than.maximum ∨ than.maximum = heights.maximum ∧
      (than.minimum < heights.minimum ∨ than.minimum = heights.minimum ∧ than < heights) := by
  simp only [rank, Prod.Lex.toLex_lt_toLex, OrderDual.toDual_lt_toDual, OrderDual.toDual_inj]

omit [AddCommGroup K] in
theorem better_iff {heights than : List K} (h : heights.length = than.length) :
    better heights than = true ↔ rank than < rank heights := by
  rw [rank_lt, ← firstDifference_iff h, better]
  by_cases hmax : heights.maximum = than.maximum
  · by_cases hmin : heights.minimum = than.minimum
    · simp [hmax, hmin]
    · simp [hmax, hmin, Ne.symm hmin]
  · simp [hmax, Ne.symm hmax]

/-! ## The search -/

section Search

variable {length width : ℕ} {sums : List K}

/-- The split with these cut points. -/
def splitAt (length : ℕ) (sums : List K) (cuts : List ℕ) : ColumnCuts K :=
  ⟨cuts, overColumns (span sums) (0 :: (cuts ++ [length]))⟩

/-- The splits a call of the search is answerable for: those that go on from the cuts it is given. -/
def splitsFrom (length : ℕ) (sums : List K) (remaining start : ℕ) (cuts : List ℕ) :
    Set (ColumnCuts K) :=
  {c | ∃ rest, rest.length = remaining ∧ Rising start rest length ∧
    c = splitAt length sums (cuts ++ rest)}

omit [LinearOrder K] in
theorem splitsFrom_zero {start : ℕ} {cuts : List ℕ} (h : start ≤ length) :
    splitsFrom length sums 0 start cuts = {splitAt length sums cuts} := by
  ext c
  constructor
  · rintro ⟨rest, hlength, -, rfl⟩
    obtain rfl := List.length_eq_zero_iff.mp hlength
    simp
  · rintro rfl
    exact ⟨[], rfl, rising_nil.mpr h, by simp⟩

omit [LinearOrder K] in
theorem splitsFrom_succ (remaining start : ℕ) (cuts : List ℕ) :
    splitsFrom length sums (remaining + 1) start cuts
      = {c | ∃ cut ∈ List.range' start (length + 1 - start),
          c ∈ splitsFrom length sums remaining cut (cuts ++ [cut])} := by
  ext c
  constructor
  · rintro ⟨rest, hlength, hrising, rfl⟩
    cases rest with
    | nil => simp at hlength
    | cons cut rest =>
      obtain ⟨hcut, hrest⟩ := rising_cons.mp hrising
      have hle := hrest.le
      refine ⟨cut, List.mem_range'_1.mpr (by omega), rest, by simpa using hlength, hrest, ?_⟩
      simp
  · rintro ⟨cut, hcut, rest, hlength, hrest, rfl⟩
    have hcut' := List.mem_range'_1.mp hcut
    exact ⟨cut :: rest, by simp [hlength], rising_cons.mpr ⟨hcut'.1, hrest⟩, by simp⟩

/-- The candidates with as many columns as asked for. -/
def ofWidth (width : ℕ) : Set (ColumnCuts K) := {c | c.heights.length = width}

omit [LinearOrder K] in
theorem splitsFrom_subset {remaining start : ℕ} {cuts : List ℕ}
    (hwidth : cuts.length + remaining + 1 = width) :
    splitsFrom length sums remaining start cuts ⊆ ofWidth width := by
  rintro c ⟨rest, rfl, -, rfl⟩
  show (overColumns _ _).length = width
  simp
  omega

omit [AddCommGroup K] in
/-- The search leaves a branch only when the best split beats every split of it. -/
theorem improves_of_pruned {part : Set (ColumnCuts K)} {tallest : K} {best : Option (ColumnCuts K)}
    (hprune : (best.any fun b => b.heights.maximum < (tallest : WithBot K)) = true)
    (htallest : ∀ c ∈ part, (tallest : WithBot K) ≤ c.heights.maximum) :
    Improves (fun c => rank c.heights) part best best := by
  cases best with
  | none => simp at hprune
  | some b =>
    have hlt : b.heights.maximum < (tallest : WithBot K) := by simpa using hprune
    refine Improves.prune rfl fun c hc => le_of_lt ?_
    exact rank_lt.mpr (.inl (hlt.trans_le (htallest c hc)))

omit [AddCommGroup K] in
/-- A full set of cuts is compared as `rank` says, for all candidates have the same width. -/
theorem improves_of_leaf {x : ColumnCuts K} {best : Option (ColumnCuts K)} (hx : x ∈ ofWidth width)
    (hbest : ∀ b ∈ best, b ∈ ofWidth width) :
    Improves (fun c => rank c.heights) {x} best
      (if best.all fun b => better x.heights b.heights then some x else best) := by
  have hiff : (best.all fun b => better x.heights b.heights) = true
      ↔ ∀ b ∈ best, rank b.heights < rank x.heights := by
    cases best with
    | none => simp
    | some b =>
      have hb : x.heights.length = b.heights.length := Eq.trans hx (hbest b rfl).symm
      simpa using better_iff hb
  simp only [hiff]
  exact Improves.leaf x

/-- **The search keeps a best split.** Whatever it found before, a call accounts for every split that
goes on from its cuts. The bound it prunes with holds of each of them: `tallest` is no more than the
tallest of their columns. -/
theorem search_improves {remaining start : ℕ} {cuts front : List ℕ} {tallest : K}
    {best : Option (ColumnCuts K)} (hstart : 0 :: cuts = front ++ [start]) (hle : start ≤ length)
    (hwidth : cuts.length + remaining + 1 = width) (hbest : ∀ b ∈ best, b ∈ ofWidth width)
    (htallest : ∀ c ∈ splitsFrom length sums remaining start cuts,
      (tallest : WithBot K) ≤ c.heights.maximum) :
    Improves (fun c => rank c.heights) (splitsFrom length sums remaining start cuts) best
      (search length sums remaining start cuts tallest best) := by
  induction remaining generalizing start cuts front tallest best with
  | zero =>
    rw [search]
    split
    · next hprune => exact improves_of_pruned hprune htallest
    · rw [splitsFrom_zero hle]
      have hx : splitAt length sums cuts ∈ ofWidth width := by
        show (overColumns _ _).length = width
        simp
        omega
      exact improves_of_leaf hx hbest
  | succ remaining ih =>
    rw [search]
    split
    · next hprune => exact improves_of_pruned hprune htallest
    · rw [splitsFrom_succ] at htallest ⊢
      refine Improves.foldl _ (fun cut _ => splitsFrom_subset (by simp; omega)) ?_ best hbest
      intro cut hcut b hb
      have hcut' := List.mem_range'_1.mp hcut
      refine @ih cut (cuts ++ [cut]) (0 :: cuts) _ b (by simp) (by omega) (by simp; omega) hb ?_
      -- the new cut closes a column that every split of the branch has
      intro c hc
      have hold := htallest c ⟨cut, hcut, hc⟩
      obtain ⟨rest, -, -, rfl⟩ := hc
      have hnew : span sums start cut ∈ (splitAt length sums (cuts ++ [cut] ++ rest)).heights := by
        have hbounds : 0 :: (cuts ++ [cut] ++ rest ++ [length])
            = front ++ start :: cut :: (rest ++ [length]) := by
          have := congrArg (· ++ cut :: (rest ++ [length])) hstart
          simpa using this
        show _ ∈ overColumns _ _
        rw [hbounds]
        exact mem_overColumns _ front start cut _
      rw [WithBot.coe_max]
      exact max_le hold (List.le_maximum_of_mem' hnew)

end Search

/-! ## The columns returned -/

/-- The columns read in order, and there are as many as asked for. -/
structure IsSplit (items : List T) (count : ℕ) (columns : List (List T)) : Prop where
  length_eq : columns.length = count
  flatten_eq : columns.flatten = items

/-- `columns` ends more evenly than `other`: its tallest column is shorter, or with equal tallest ones
its shortest column is taller, or with both equal its heights come first from the fuller one. -/
def MoreEven (heightOf : T → K) (columns other : List (List T)) : Prop :=
  let heights := columns.map (columnHeight heightOf)
  let otherHeights := other.map (columnHeight heightOf)
  heights.maximum < otherHeights.maximum ∨ heights.maximum = otherHeights.maximum ∧
    (otherHeights.minimum < heights.minimum ∨ heights.minimum = otherHeights.minimum ∧
      List.Lex (· < ·) otherHeights heights)

theorem MoreEven.rank_lt {heightOf : T → K} {columns other : List (List T)}
    (h : MoreEven heightOf columns other) :
    rank (other.map (columnHeight heightOf)) < rank (columns.map (columnHeight heightOf)) := by
  refine Board.rank_lt.mpr (h.imp id fun ⟨hmax, h⟩ => ⟨hmax.symm, h.imp id fun ⟨hmin, h⟩ => ?_⟩)
  exact ⟨hmin.symm, h⟩

section Columns

variable {items : List T} {count : ℕ} {heightOf : T → K}

omit [LinearOrder K] in
theorem splitAt_heights {cuts : List ℕ} (h : Rising 0 cuts items.length) :
    (splitAt items.length (prefixSums (items.map heightOf)) cuts).heights
      = (overColumns (slice items) (0 :: (cuts ++ [items.length]))).map (columnHeight heightOf) :=
  h.spans heightOf

omit [AddCommGroup K] [LinearOrder K] in
theorem IsSplit.exists_cuts {other : List (List T)} (hcount : 1 ≤ count)
    (h : IsSplit items count other) : ∃ cuts : List ℕ, cuts.length = count - 1 ∧
      Rising 0 cuts items.length ∧
      overColumns (slice items) (0 :: (cuts ++ [items.length])) = other := by
  obtain ⟨rfl, rfl⟩ := h
  cases other with
  | nil => simp at hcount
  | cons column columns =>
    obtain ⟨cuts, hlength, hrising, hcolumns⟩ := exists_rising [] column columns
    exact ⟨cuts, by simpa using hlength, hrising, hcolumns⟩

/-- The search finds cuts, and none with as many columns ranks above them. -/
theorem exists_best_cuts [IsOrderedAddMonoid K] (hcount : 1 ≤ count)
    (hheights : ∀ x ∈ items, 0 ≤ heightOf x) :
    ∃ cuts : List ℕ, cuts.length = count - 1 ∧ Rising 0 cuts items.length ∧
      balancedColumns items count heightOf
        = overColumns (slice items) (0 :: (cuts ++ [items.length])) ∧
      ∀ c ∈ splitsFrom items.length (prefixSums (items.map heightOf)) (count - 1) 0 [],
        rank c.heights
          ≤ rank (splitAt items.length (prefixSums (items.map heightOf)) cuts).heights := by
  have hbound : ∀ c ∈ splitsFrom items.length (prefixSums (items.map heightOf)) (count - 1) 0 [],
      ((0 : K) : WithBot K) ≤ c.heights.maximum := by
    rintro c ⟨rest, -, hrising, rfl⟩
    rw [List.nil_append, splitAt_heights hrising]
    cases hcolumns : overColumns (slice items) (0 :: (rest ++ [items.length])) with
    | nil =>
      have := congrArg List.length hcolumns
      simp at this
    | cons column columns =>
      have hflat := hrising.flatten_slices
      rw [hcolumns] at hflat
      have hcolumn : 0 ≤ columnHeight heightOf column := by
        refine columnHeight_nonneg fun x hx => hheights x ?_
        rw [← List.drop_zero (l := items), ← hflat]
        simp [hx]
      exact (WithBot.coe_le_coe.mpr hcolumn).trans (List.le_maximum_of_mem' (by simp))
  have hsearch : Improves (fun c => rank c.heights)
      (splitsFrom items.length (prefixSums (items.map heightOf)) (count - 1) 0 []) none
      (search items.length (prefixSums (items.map heightOf)) (count - 1) 0 [] 0 none) := by
    have hwidth : ([] : List ℕ).length + (count - 1) + 1 = count := by
      simp
      omega
    have hstart : 0 :: ([] : List ℕ) = [] ++ [0] := rfl
    exact search_improves hstart (Nat.zero_le _) hwidth (by simp) hbound
  have hne : (splitsFrom items.length (prefixSums (items.map heightOf)) (count - 1) 0 []).Nonempty := by
    have hsplit : IsSplit items count (items :: List.replicate (count - 1) []) :=
      ⟨by simp; omega, by simp⟩
    obtain ⟨cuts, hlength, hrising, -⟩ := hsplit.exists_cuts hcount
    exact ⟨_, cuts, hlength, hrising, rfl⟩
  obtain ⟨c, hc, ⟨cuts, hlength, hrising, rfl⟩, hbest⟩ := hsearch.best hne
  refine ⟨cuts, hlength, hrising, ?_, hbest⟩
  rw [balancedColumns, hc]
  rfl

/-- The columns are the items in order, cut into `count` columns. -/
theorem isSplit_balancedColumns [IsOrderedAddMonoid K] (hcount : 1 ≤ count)
    (hheights : ∀ x ∈ items, 0 ≤ heightOf x) :
    IsSplit items count (balancedColumns items count heightOf) := by
  obtain ⟨cuts, hlength, hrising, hcolumns, -⟩ := exists_best_cuts hcount hheights
  constructor
  · rw [hcolumns, length_overColumns]
    simp
    omega
  · rw [hcolumns, hrising.flatten_slices, List.drop_zero]

end Columns

/-- Three columns of seven names hold three, two and two. -/
example : balancedColumns (List.range 7) 3 (fun _ => (1 : ℤ)) = [[0, 1, 2], [3, 4], [5, 6]] := by
  decide +kernel

end Unitae.Board
