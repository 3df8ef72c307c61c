import Mathlib.Algebra.Order.Ring.Rat
import Mathlib.Data.List.Nodup
import Mathlib.Logic.Equiv.Basic
import Mathlib.Tactic.Linarith
import Unitae.Base.Sorting

/-!
# Unitae — moving an item of the board (`document.server.ts`)

Sections, and the documents of a section, are moved by one place: the items are spread five apart, the one that
moves gets a key one and a half places off, and the items are sorted and numbered again. The key lies between
those of the neighbour and of the item behind it, wherever the item stands, so that the two are exchanged and
nothing else moves (`reorder_exchanges`).
-/

namespace Unitae.Board

inductive ReorderDirection where
  | up
  | down
deriving DecidableEq, Repr

def ReorderDirection.offset : ReorderDirection → ℚ
  | .up => -7.5
  | .down => 7.5

def ReorderDirection.opposite : ReorderDirection → ReorderDirection
  | .up => .down
  | .down => .up

structure OrderedItem where
  id : Nat
  order : Option Int
deriving DecidableEq, Repr

/-- What the items are sorted by. -/
structure SpreadItem where
  id : Nat
  order : ℚ

structure ReorderedItem where
  id : Nat
  order : Int
deriving DecidableEq, Repr

/-- `index * 5 + (item.id === targetId ? offset : 0)`. -/
def spreadItem (targetId : Nat) (direction : ReorderDirection) (item : OrderedItem) (index : Nat) : SpreadItem where
  id := item.id
  order := index * 5 + if item.id = targetId then direction.offset else 0

def computeReorderedItems (items : List OrderedItem) (targetId : Nat) (direction : ReorderDirection) :
    List ReorderedItem :=
  let spread := items.zipIdx.map fun (item, index) => spreadItem targetId direction item index
  let sorted := sortBy (fun a b => compare a.order b.order) spread
  sorted.zipIdx.map fun (item, index) => ⟨item.id, index * 5⟩

/-- A result read as items again, as from the table it is written to. -/
def ReorderedItem.item (item : ReorderedItem) : OrderedItem := ⟨item.id, some item.order⟩

/-! ## The keys -/

instance transCmp_spreadItem : Std.TransCmp fun a b : SpreadItem => compare a.order b.order :=
  transCmp_comap compare SpreadItem.order

section Keys

variable {items before after : List OrderedItem} {targetId n : Nat} {direction : ReorderDirection}

/-- The keys of items of which the first stands at `n`. -/
def spreadFrom (targetId : Nat) (direction : ReorderDirection) (n : Nat) (items : List OrderedItem) :
    List SpreadItem :=
  (items.zipIdx n).map fun (item, index) => spreadItem targetId direction item index

@[simp] theorem spreadFrom_nil : spreadFrom targetId direction n [] = [] := rfl

@[simp] theorem spreadFrom_cons {item : OrderedItem} : spreadFrom targetId direction n (item :: items) =
    spreadItem targetId direction item n :: spreadFrom targetId direction (n + 1) items := rfl

theorem spreadFrom_append : spreadFrom targetId direction n (before ++ after) =
    spreadFrom targetId direction n before ++ spreadFrom targetId direction (n + before.length) after := by
  unfold spreadFrom
  rw [List.zipIdx_append, List.map_append]

theorem spreadFrom_ids : (spreadFrom targetId direction n items).map (·.id) = items.map (·.id) := by
  induction items generalizing n with
  | nil => rfl
  | cons item items ih => rw [spreadFrom_cons, List.map_cons, ih]; rfl

/-- The orders that the items had are not read. -/
theorem spreadFrom_congr {items' : List OrderedItem} (h : items.map (·.id) = items'.map (·.id)) :
    spreadFrom targetId direction n items = spreadFrom targetId direction n items' := by
  have hread : ∀ items : List OrderedItem, spreadFrom targetId direction n items =
      ((items.map (·.id)).zipIdx n).map fun (id, index) =>
        ⟨id, index * 5 + if id = targetId then direction.offset else 0⟩ := by
    intro items
    rw [List.zipIdx_map, List.map_map]
    rfl
  rw [hread, hread, h]

theorem spreadItem_of_ne {item : OrderedItem} (h : item.id ≠ targetId) :
    (spreadItem targetId direction item n).order = n * 5 := by
  simp [spreadItem, h]

theorem spreadItem_target {item : OrderedItem} (h : item.id = targetId) :
    (spreadItem targetId direction item n).order = n * 5 + direction.offset := by
  simp [spreadItem, h]

/-- Items that do not move keep to their places. -/
theorem spreadFrom_bounds (h : ∀ item ∈ items, item.id ≠ targetId) {k : SpreadItem}
    (hk : k ∈ spreadFrom targetId direction n items) :
    (n : ℚ) * 5 ≤ k.order ∧ k.order ≤ ((n + items.length : Nat) : ℚ) * 5 - 5 := by
  induction items generalizing n with
  | nil => cases hk
  | cons item items ih =>
    have hlength : (0 : ℚ) ≤ items.length := Nat.cast_nonneg _
    rw [spreadFrom_cons] at hk
    rcases List.mem_cons.mp hk with rfl | hk
    · rw [spreadItem_of_ne (h item List.mem_cons_self), List.length_cons]
      push_cast
      constructor <;> linarith
    · have hrest := ih (fun x hx => h x (List.mem_cons_of_mem _ hx)) hk
      rw [List.length_cons]
      push_cast at hrest ⊢
      constructor <;> linarith [hrest.1, hrest.2]

theorem spreadFrom_pairwise (h : ∀ item ∈ items, item.id ≠ targetId) :
    (spreadFrom targetId direction n items).Pairwise fun a b => a.order < b.order := by
  induction items generalizing n with
  | nil => exact List.Pairwise.nil
  | cons item items ih =>
    have hrest : ∀ x ∈ items, x.id ≠ targetId := fun x hx => h x (List.mem_cons_of_mem _ hx)
    rw [spreadFrom_cons, List.pairwise_cons]
    refine ⟨fun k hk => ?_, ih hrest⟩
    have hbounds := (spreadFrom_bounds hrest hk).1
    rw [spreadItem_of_ne (h item List.mem_cons_self)]
    push_cast at hbounds
    linarith

/-- Keys between those of the items before and of the items after. -/
theorem spread_around {middle : List SpreadItem} (hbefore : ∀ item ∈ before, item.id ≠ targetId)
    (hafter : ∀ item ∈ after, item.id ≠ targetId)
    (hmiddle : middle.Pairwise fun a b => a.order < b.order) (hle : before.length ≤ n)
    (hlow : ∀ k ∈ middle, (before.length : ℚ) * 5 - 5 < k.order) (hhigh : ∀ k ∈ middle, k.order < (n : ℚ) * 5) :
    (spreadFrom targetId direction 0 before ++ (middle ++ spreadFrom targetId direction n after)).Pairwise
      fun a b => a.order < b.order := by
  have hle' : (before.length : ℚ) ≤ n := Nat.cast_le.mpr hle
  have hfirst : ∀ k ∈ spreadFrom targetId direction 0 before, k.order ≤ (before.length : ℚ) * 5 - 5 := by
    intro k hk
    have hbounds := (spreadFrom_bounds hbefore hk).2
    rwa [Nat.zero_add] at hbounds
  have hlast : ∀ k ∈ spreadFrom targetId direction n after, (n : ℚ) * 5 ≤ k.order :=
    fun k hk => (spreadFrom_bounds hafter hk).1
  rw [List.pairwise_append, List.pairwise_append]
  refine ⟨spreadFrom_pairwise hbefore, ⟨hmiddle, spreadFrom_pairwise hafter, ?_⟩, ?_⟩
  · exact fun a ha b hb => (hhigh a ha).trans_le (hlast b hb)
  · intro a ha b hb
    rcases List.mem_append.mp hb with hb | hb
    · exact (hfirst a ha).trans_lt (hlow b hb)
    · have hgap := hlast b hb
      have hfirst := hfirst a ha
      linarith

end Keys

/-! ## What the sort leaves -/

section Sorted

variable {items before after : List OrderedItem} {targetId : Nat} {direction : ReorderDirection}
  {p q : OrderedItem}

/-- The ids come out as the keys can be put in strict order. -/
theorem reordered_ids (sorted : List SpreadItem) (hperm : (spreadFrom targetId direction 0 items).Perm sorted)
    (h : sorted.Pairwise fun a b => a.order < b.order) :
    (computeReorderedItems items targetId direction).map (·.id) = sorted.map (·.id) := by
  have hsorted : sortBy (fun a b => compare a.order b.order) (spreadFrom targetId direction 0 items) = sorted :=
    sortBy_eq_of_perm hperm (h.imp compare_lt_iff_lt.mpr)
  show ((sortBy _ (spreadFrom targetId direction 0 items)).zipIdx.map fun (item, index) =>
    (⟨item.id, index * 5⟩ : ReorderedItem)).map (·.id) = _
  rw [hsorted, List.map_map]
  have hfst : sorted.zipIdx.map (fun x => x.1.id) = (sorted.zipIdx.map Prod.fst).map (·.id) := by
    rw [List.map_map]; rfl
  rw [List.zipIdx_map_fst] at hfst
  exact hfst

/-- Whatever moves, the orders are 0, 5, 10 and so on. -/
theorem reordered_orders :
    (computeReorderedItems items targetId direction).Pairwise fun a b => a.order < b.order := by
  have hplaces : ∀ l : List SpreadItem, l.zipIdx.Pairwise fun a b => a.2 < b.2 := by
    intro l
    refine List.pairwise_map.mp ?_
    rw [List.zipIdx_map_snd]
    exact List.pairwise_lt_range'
  refine List.pairwise_map.mpr ((hplaces _).imp fun {a b} hlt => ?_)
  show ((a.2 : Int) * 5) < (b.2 : Int) * 5
  omega

/-- **The target changes places with its neighbour**, which lies behind it or ahead of it. -/
theorem reordered_exchanged (hbefore : ∀ item ∈ before, item.id ≠ targetId)
    (hafter : ∀ item ∈ after, item.id ≠ targetId)
    (hpair : direction = .up ∧ p.id ≠ targetId ∧ q.id = targetId ∨
      direction = .down ∧ p.id = targetId ∧ q.id ≠ targetId) :
    (computeReorderedItems (before ++ p :: q :: after) targetId direction).map (·.id) =
      (before ++ q :: p :: after).map (·.id) := by
  have hkeys : spreadFrom targetId direction 0 (before ++ p :: q :: after) =
      spreadFrom targetId direction 0 before ++
        ([spreadItem targetId direction p before.length, spreadItem targetId direction q (before.length + 1)] ++
          spreadFrom targetId direction (before.length + 2) after) := by
    rw [spreadFrom_append, Nat.zero_add]; rfl
  have hbounds : (before.length : ℚ) * 5 - 5 < (spreadItem targetId direction q (before.length + 1)).order ∧
      (spreadItem targetId direction q (before.length + 1)).order <
        (spreadItem targetId direction p before.length).order ∧
      (spreadItem targetId direction p before.length).order < ((before.length + 2 : Nat) : ℚ) * 5 := by
    rcases hpair with ⟨rfl, hp, hq⟩ | ⟨rfl, hp, hq⟩
    · rw [spreadItem_of_ne hp, spreadItem_target hq]
      push_cast
      refine ⟨?_, ?_, ?_⟩ <;> norm_num [ReorderDirection.offset] <;> linarith
    · rw [spreadItem_target hp, spreadItem_of_ne hq]
      push_cast
      refine ⟨?_, ?_, ?_⟩ <;> norm_num [ReorderDirection.offset] <;> linarith
  obtain ⟨hlow, hlt, hhigh⟩ := hbounds
  refine (reordered_ids (spreadFrom targetId direction 0 before ++
      ([spreadItem targetId direction q (before.length + 1), spreadItem targetId direction p before.length] ++
        spreadFrom targetId direction (before.length + 2) after)) ?_ ?_).trans ?_
  · rw [hkeys]
    exact ((List.Perm.swap _ _ _).append_right _).append_left _
  · refine spread_around hbefore hafter (List.pairwise_pair.mpr hlt) (Nat.le_add_right _ 2) ?_ ?_
    · intro k hk
      rcases List.mem_pair.mp hk with rfl | rfl
      · exact hlow
      · exact hlow.trans hlt
    · intro k hk
      rcases List.mem_pair.mp hk with rfl | rfl
      · exact hlt.trans hhigh
      · exact hhigh
  · rw [List.map_append, List.map_append, List.map_append, spreadFrom_ids, spreadFrom_ids]
    rfl

theorem reordered_congr {items' : List OrderedItem} (h : items.map (·.id) = items'.map (·.id)) :
    computeReorderedItems items targetId direction = computeReorderedItems items' targetId direction := by
  have hspread : spreadFrom targetId direction 0 items = spreadFrom targetId direction 0 items' :=
    spreadFrom_congr h
  show (sortBy _ (spreadFrom targetId direction 0 items)).zipIdx.map _ = _
  rw [hspread]
  rfl

/-- Keys that are in order already stay so. -/
theorem reordered_kept (h : (spreadFrom targetId direction 0 items).Pairwise fun a b => a.order < b.order) :
    (computeReorderedItems items targetId direction).map (·.id) = items.map (·.id) :=
  (reordered_ids _ (List.Perm.refl _) h).trans spreadFrom_ids

theorem reordered_absent (h : ∀ item ∈ items, item.id ≠ targetId) :
    (computeReorderedItems items targetId direction).map (·.id) = items.map (·.id) :=
  reordered_kept (spreadFrom_pairwise h)

theorem reordered_first (hp : p.id = targetId) (hafter : ∀ item ∈ after, item.id ≠ targetId) :
    (computeReorderedItems (p :: after) targetId .up).map (·.id) = (p :: after).map (·.id) := by
  refine reordered_kept ?_
  rw [spreadFrom_cons, List.pairwise_cons]
  refine ⟨fun k hk => ?_, spreadFrom_pairwise hafter⟩
  have hbounds := (spreadFrom_bounds hafter hk).1
  rw [spreadItem_target hp]
  norm_num [ReorderDirection.offset] at hbounds ⊢
  linarith

theorem reordered_last (hbefore : ∀ item ∈ before, item.id ≠ targetId) (hp : p.id = targetId) :
    (computeReorderedItems (before ++ [p]) targetId .down).map (·.id) = (before ++ [p]).map (·.id) := by
  refine reordered_kept ?_
  rw [spreadFrom_append, Nat.zero_add]
  have haround := @spread_around before [] targetId (before.length + 2) .down
    [spreadItem targetId .down p before.length] hbefore (by simp) (List.pairwise_singleton _ _)
    (Nat.le_add_right _ 2)
  refine haround ?_ ?_
  · intro k hk
    rw [List.mem_singleton.mp hk, spreadItem_target hp]
    norm_num [ReorderDirection.offset]
    linarith
  · intro k hk
    rw [List.mem_singleton.mp hk, spreadItem_target hp]
    push_cast
    norm_num [ReorderDirection.offset]
    linarith

end Sorted

/-! ## The exchange -/

/-- Up is one place nearer to the head, down one further from it. -/
def ReorderDirection.Leads : ReorderDirection → Nat → Nat → Prop
  | .up, i, j => j + 1 = i
  | .down, i, j => i + 1 = j

/-- The target stands at `i`, and its neighbour in the direction at `j`. -/
structure Neighbours (direction : ReorderDirection) (ids : List Nat) (targetId i j : Nat) : Prop where
  target : ids[i]? = some targetId
  within : j < ids.length
  leads : direction.Leads i j

section Exchange

variable {items : List OrderedItem} {targetId i j : Nat} {direction : ReorderDirection}

/-- Two rows that stand side by side. -/
theorem exists_split_pair {α : Type} {l : List α} {n : Nat} (h : n + 1 < l.length) :
    ∃ before p q after, l = before ++ p :: q :: after ∧ before.length = n :=
  ⟨l.take n, l[n], l[n + 1], l.drop (n + 2), by simp, by simp; omega⟩

/-- What stands where after two neighbours are exchanged. -/
theorem getElem?_exchanged {α : Type} {before after : List α} {p q : α} (k : Nat) :
    (before ++ q :: p :: after)[k]? =
      (before ++ p :: q :: after)[Equiv.swap before.length (before.length + 1) k]? := by
  rcases Nat.lt_or_ge k before.length with hk | hk
  · rw [Equiv.swap_apply_of_ne_of_ne (by omega) (by omega), List.getElem?_append_left hk,
      List.getElem?_append_left hk]
  · obtain ⟨n, rfl⟩ := Nat.exists_eq_add_of_le hk
    match n with
    | 0 => simp
    | 1 => simp
    | n + 2 =>
      rw [Equiv.swap_apply_of_ne_of_ne (by omega) (by omega), List.getElem?_append_right hk,
        List.getElem?_append_right hk]
      simp

/-- The two places, in the order of the list. -/
theorem Neighbours.split (h : Neighbours direction (items.map (·.id)) targetId i j) :
    ∃ before p q after, items = before ++ p :: q :: after ∧
      (direction = .up ∧ q.id = targetId ∧ j = before.length ∧ i = before.length + 1 ∨
        direction = .down ∧ p.id = targetId ∧ i = before.length ∧ j = before.length + 1) := by
  have hi : i < (items.map (·.id)).length := (List.getElem?_eq_some_iff.mp h.target).1
  have hj := h.within
  have htarget := h.target
  have hleads := h.leads
  rw [List.length_map] at hi hj
  cases direction with
  | up =>
    obtain rfl : j + 1 = i := hleads
    obtain ⟨before, p, q, after, rfl, rfl⟩ := exists_split_pair hi
    refine ⟨before, p, q, after, rfl, .inl ⟨rfl, ?_, rfl, rfl⟩⟩
    simpa using htarget
  | down =>
    obtain rfl : i + 1 = j := hleads
    obtain ⟨before, p, q, after, rfl, rfl⟩ := exists_split_pair hj
    refine ⟨before, p, q, after, rfl, .inr ⟨rfl, ?_, rfl, rfl⟩⟩
    simpa using htarget

/-- Beside a target that stands once, nothing is the target. -/
theorem others_of_nodup {before after : List OrderedItem} {p : OrderedItem}
    (hids : ((before ++ p :: after).map (·.id)).Nodup) (hp : p.id = targetId) :
    (∀ item ∈ before, item.id ≠ targetId) ∧ ∀ item ∈ after, item.id ≠ targetId := by
  rw [List.map_append, List.map_cons, List.nodup_append, List.nodup_cons] at hids
  obtain ⟨-, ⟨hafter, -⟩, hapart⟩ := hids
  refine ⟨fun item hitem heq => ?_, fun item hitem heq => ?_⟩
  · exact hapart item.id (List.mem_map_of_mem hitem) p.id List.mem_cons_self (heq.trans hp.symm)
  · exact hafter (List.mem_map.mpr ⟨item, hitem, heq.trans hp.symm⟩)

/-- What a target that has a neighbour does, in both directions. -/
theorem reordered_neighbours {before after : List OrderedItem} {p q : OrderedItem}
    (hids : ((before ++ p :: q :: after).map (·.id)).Nodup)
    (hpair : direction = .up ∧ q.id = targetId ∨ direction = .down ∧ p.id = targetId) :
    (computeReorderedItems (before ++ p :: q :: after) targetId direction).map (·.id) =
      (before ++ q :: p :: after).map (·.id) := by
  have hsplit : before ++ p :: q :: after = (before ++ [p]) ++ q :: after := by simp
  rcases hpair with ⟨rfl, hq⟩ | ⟨rfl, hp⟩
  · rw [hsplit] at hids
    obtain ⟨hbefore, hafter⟩ := others_of_nodup hids hq
    refine reordered_exchanged (fun item hitem => hbefore item (List.mem_append_left _ hitem)) hafter
      (.inl ⟨rfl, hbefore p (List.mem_append_right _ List.mem_cons_self), hq⟩)
  · obtain ⟨hbefore, hafter⟩ := others_of_nodup hids hp
    exact reordered_exchanged hbefore (fun item hitem => hafter item (List.mem_cons_of_mem _ hitem))
      (.inr ⟨rfl, hp, hafter q List.mem_cons_self⟩)

theorem Neighbours.exchanged (hids : (items.map (·.id)).Nodup)
    (h : Neighbours direction (items.map (·.id)) targetId i j) :
    ∃ before p q after, items = before ++ p :: q :: after ∧
      (direction = .up ∧ q.id = targetId ∧ j = before.length ∧ i = before.length + 1 ∨
        direction = .down ∧ p.id = targetId ∧ i = before.length ∧ j = before.length + 1) ∧
      (computeReorderedItems items targetId direction).map (·.id) = (before ++ q :: p :: after).map (·.id) := by
  obtain ⟨before, p, q, after, rfl, hpair⟩ := h.split
  refine ⟨before, p, q, after, rfl, hpair, reordered_neighbours hids ?_⟩
  exact hpair.imp (fun h => ⟨h.1, h.2.1⟩) fun h => ⟨h.1, h.2.1⟩

/-- Without a neighbour to change places with, nothing moves. -/
theorem reordered_alone (hids : (items.map (·.id)).Nodup)
    (halone : ∀ i j, ¬Neighbours direction (items.map (·.id)) targetId i j) :
    (computeReorderedItems items targetId direction).map (·.id) = items.map (·.id) := by
  by_cases hin : ∃ p ∈ items, p.id = targetId
  · obtain ⟨p, hp, htarget⟩ := hin
    obtain ⟨before, after, rfl⟩ := List.append_of_mem hp
    obtain ⟨hbefore, hafter⟩ := others_of_nodup hids htarget
    cases direction with
    | up =>
      rcases List.eq_nil_or_concat before with rfl | ⟨before, q, rfl⟩
      · exact reordered_first htarget hafter
      · refine absurd ⟨?_, ?_, ?_⟩ (halone (before.length + 1) before.length)
        · simp [htarget]
        · simp
        · exact rfl
    | down =>
      cases after with
      | nil => exact reordered_last hbefore htarget
      | cons q after =>
        refine absurd ⟨?_, ?_, ?_⟩ (halone before.length (before.length + 1))
        · simp [htarget]
        · simp
        · exact rfl
  · exact reordered_absent fun item hitem htarget => hin ⟨item, hitem, htarget⟩

end Exchange

/-- **Moving an item exchanges it with its neighbour** in the direction and moves nothing else; the orders
increase, and the opposite move takes it back. -/
theorem reorder_exchanges {items : List OrderedItem} (hids : (items.map (·.id)).Nodup) (targetId : Nat)
    (direction : ReorderDirection) :
    ((computeReorderedItems items targetId direction).map (·.id)).Perm (items.map (·.id)) ∧
    (∀ i j, Neighbours direction (items.map (·.id)) targetId i j →
      ∀ k, ((computeReorderedItems items targetId direction).map (·.id))[k]? =
        (items.map (·.id))[Equiv.swap i j k]?) ∧
    ((∀ i j, ¬Neighbours direction (items.map (·.id)) targetId i j) →
      (computeReorderedItems items targetId direction).map (·.id) = items.map (·.id)) ∧
    (computeReorderedItems items targetId direction).Pairwise (fun a b => a.order < b.order) ∧
    (∀ i j, Neighbours direction (items.map (·.id)) targetId i j →
      (computeReorderedItems ((computeReorderedItems items targetId direction).map ReorderedItem.item) targetId
        direction.opposite).map (·.id) = items.map (·.id)) := by
  refine ⟨?_, ?_, reordered_alone hids, reordered_orders, ?_⟩
  · by_cases halone : ∀ i j, ¬Neighbours direction (items.map (·.id)) targetId i j
    · rw [reordered_alone hids halone]
    · push Not at halone
      obtain ⟨i, j, hneighbours⟩ := halone
      obtain ⟨before, p, q, after, rfl, -, hmoved⟩ := hneighbours.exchanged hids
      rw [hmoved]
      exact ((List.Perm.swap p q after).append_left before).map _
  · intro i j hneighbours k
    obtain ⟨before, p, q, after, rfl, hpair, hmoved⟩ := hneighbours.exchanged hids
    have hplaces := @getElem?_exchanged _ (before.map (·.id)) (after.map (·.id)) p.id q.id k
    rw [List.length_map] at hplaces
    rw [hmoved, List.map_append, List.map_append, List.map_cons, List.map_cons, List.map_cons, List.map_cons,
      hplaces]
    rcases hpair with ⟨-, -, rfl, rfl⟩ | ⟨-, -, rfl, rfl⟩
    · rw [Equiv.swap_comm]
    · rfl
  · intro i j hneighbours
    obtain ⟨before, p, q, after, rfl, hpair, hmoved⟩ := hneighbours.exchanged hids
    have hread : ((computeReorderedItems (before ++ p :: q :: after) targetId direction).map
        ReorderedItem.item).map (·.id) = (before ++ q :: p :: after).map (·.id) := by
      rw [← hmoved, List.map_map]
      rfl
    have hids' : ((before ++ q :: p :: after).map (·.id)).Nodup :=
      (((List.Perm.swap p q after).append_left before).map _).nodup_iff.mpr hids
    rw [reordered_congr hread]
    refine reordered_neighbours hids' ?_
    rcases hpair with ⟨rfl, hq, -, -⟩ | ⟨rfl, hp, -, -⟩
    · exact .inr ⟨rfl, hq⟩
    · exact .inl ⟨rfl, hp⟩

def threeItems : List OrderedItem := [⟨1, some 0⟩, ⟨2, some 5⟩, ⟨3, none⟩]

theorem second_moves_up :
    ((computeReorderedItems threeItems 2 .up).map (·.id)).Perm [1, 2, 3] ∧
    (∀ k, ((computeReorderedItems threeItems 2 .up).map (·.id))[k]? = [1, 2, 3][Equiv.swap 1 0 k]?) ∧
    (computeReorderedItems ((computeReorderedItems threeItems 2 .up).map ReorderedItem.item) 2 .down).map
      (·.id) = [1, 2, 3] := by
  obtain ⟨hperm, hplaces, -, -, hback⟩ := @reorder_exchanges threeItems (by decide) 2 .up
  exact ⟨hperm, hplaces 1 0 ⟨rfl, by decide, rfl⟩, hback 1 0 ⟨rfl, by decide, rfl⟩⟩

end Unitae.Board
