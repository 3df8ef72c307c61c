import Mathlib.Algebra.Order.Field.Basic
import Mathlib.Tactic.FieldSimp
import Mathlib.Tactic.Linarith
import Mathlib.Tactic.LinearCombination
import Mathlib.Tactic.NormNum
import Mathlib.Tactic.Ring
import Unitae.Base.ClosedPath
import Unitae.Territories.CardOverlays
import Unitae.Territories.MapEdits

/-!
# Unitae — inside the perimeter

`pointInPolygon` toggles an answer for each edge that a line through the point crosses on one side of it. An
edge crosses the same whichever of its ends comes first, so the answer is a parity of the closed path. In
a triangle one corner lies on one side of the line and two on the other, and the line enters and leaves
through the edges of the lone one.
-/

namespace Unitae.Territories

open Unitae.Base

/-! ## The edges crossed -/

/-- `yi > long !== yj > long`. -/
def straddles (long : Rat) (i j : Rat × Rat) : Bool := decide (long < i.2) != decide (long < j.2)

/-- Where the edge meets the line, for the edges that straddle it. -/
def crossing (long : Rat) (i j : Rat × Rat) : Rat :=
  (j.1 - i.1) * (long - i.2) / (j.2 - i.2) + i.1

def intersects (lat long : Rat) (edge : (Rat × Rat) × (Rat × Rat)) : Bool :=
  straddles long edge.1 edge.2 && decide (lat < crossing long edge.1 edge.2)

theorem pointInPolygon_eq (lat long : Rat) (polygon : List (Rat × Rat)) :
    pointInPolygon lat long polygon = crossingParity (intersects lat long) polygon := rfl

section Edges

variable {lat long : Rat} {i j : Rat × Rat}

theorem straddles_comm (long : Rat) (i j : Rat × Rat) : straddles long i j = straddles long j i := by
  unfold straddles
  cases decide (long < i.2) <;> cases decide (long < j.2) <;> rfl

theorem straddles_iff :
    straddles long i j = true ↔ (long < i.2 ∧ j.2 ≤ long) ∨ (i.2 ≤ long ∧ long < j.2) := by
  rw [← not_lt, ← not_lt, straddles, bne_iff_ne, Ne, decide_eq_decide]
  tauto

/-- The division of an edge that straddles the line is by no zero. -/
theorem straddles_ne (h : straddles long i j = true) : j.2 - i.2 ≠ 0 := by
  intro heq
  obtain ⟨h1, h2⟩ | ⟨h1, h2⟩ := straddles_iff.mp h <;> linarith

/-- The line is met at the same place from either end. -/
theorem crossing_comm (h : straddles long i j = true) : crossing long i j = crossing long j i := by
  have hij := straddles_ne h
  have hji : i.2 - j.2 ≠ 0 := straddles_ne (by rwa [straddles_comm])
  unfold crossing
  field_simp
  ring

theorem intersects_swap (lat long : Rat) (i j : Rat × Rat) :
    intersects lat long (i, j) = intersects lat long (j, i) := by
  unfold intersects
  rw [straddles_comm long j i]
  cases h : straddles long i j with
  | false => rfl
  | true => rw [crossing_comm h]

theorem intersects_self (lat long : Rat) (i : Rat × Rat) : intersects lat long (i, i) = false := by
  simp [intersects, straddles]

end Edges

/-! ## No division by zero -/

def divide? (a b : Rat) : Option Rat := if b = 0 then none else some (a / b)

/-- The condition of the loop where a division by zero has no result. The second half is looked at only
where the first holds. -/
def intersects? (lat long : Rat) (edge : (Rat × Rat) × (Rat × Rat)) : Option Bool :=
  if straddles long edge.1 edge.2 then
    (divide? ((edge.2.1 - edge.1.1) * (long - edge.1.2)) (edge.2.2 - edge.1.2)).map fun quotient =>
      decide (lat < quotient + edge.1.1)
  else some false

def pointInPolygon? (lat long : Rat) (polygon : List (Rat × Rat)) : Option Bool :=
  (cyclicPairs polygon).foldlM (fun isInside edge =>
    (intersects? lat long edge).map fun intersect => if intersect then !isInside else isInside) false

theorem intersects?_eq (lat long : Rat) (edge : (Rat × Rat) × (Rat × Rat)) :
    intersects? lat long edge = some (intersects lat long edge) := by
  unfold intersects? intersects
  cases h : straddles long edge.1 edge.2 with
  | false => rfl
  | true =>
    rw [if_pos rfl, divide?, if_neg (straddles_ne h)]
    rfl

/-- **It divides by no zero.** -/
theorem pointInPolygon?_eq (lat long : Rat) (polygon : List (Rat × Rat)) :
    pointInPolygon? lat long polygon = some (pointInPolygon lat long polygon) := by
  rw [pointInPolygon_eq]
  unfold pointInPolygon? crossingParity
  generalize false = isInside
  induction cyclicPairs polygon generalizing isInside with
  | nil => rfl
  | cons edge edges ih =>
    rw [List.foldlM_cons, intersects?_eq, List.foldl_cons]
    exact ih _

/-! ## Triangles -/

/-- `p` is the mean of the corners under these weights. -/
structure IsMean (p a b c : Rat × Rat) (u v w : Rat) : Prop where
  sum : u + v + w = 1
  lat : p.1 = u * a.1 + v * b.1 + w * c.1
  long : p.2 = u * a.2 + v * b.2 + w * c.2

def doubledArea (a b c : Rat × Rat) : Rat :=
  (b.1 - a.1) * (c.2 - a.2) - (c.1 - a.1) * (b.2 - a.2)

/-- A mean of all three corners, which are not in line. -/
def StrictlyInside (p a b c : Rat × Rat) : Prop :=
  doubledArea a b c ≠ 0 ∧ ∃ u v w, 0 < u ∧ 0 < v ∧ 0 < w ∧ IsMean p a b c u v w

/-- No mean of the corners: neither inside nor on the border. -/
def StrictlyOutside (p a b c : Rat × Rat) : Prop :=
  ¬ ∃ u v w, 0 ≤ u ∧ 0 ≤ v ∧ 0 ≤ w ∧ IsMean p a b c u v w

section Triangle

variable {p a b c : Rat × Rat}

theorem IsMean.rotate {u v w : Rat} (h : IsMean p a b c u v w) : IsMean p b c a v w u :=
  ⟨by linarith [h.sum], by linarith [h.lat], by linarith [h.long]⟩

theorem IsMean.swap {u v w : Rat} (h : IsMean p a b c u v w) : IsMean p a c b u w v :=
  ⟨by linarith [h.sum], by linarith [h.lat], by linarith [h.long]⟩

theorem StrictlyInside.rotate (h : StrictlyInside p a b c) : StrictlyInside p b c a := by
  obtain ⟨harea, u, v, w, hu, hv, hw, hmean⟩ := h
  refine ⟨fun heq => harea ?_, v, w, u, hv, hw, hu, hmean.rotate⟩
  unfold doubledArea at heq ⊢
  linarith

theorem StrictlyOutside.rotate (h : StrictlyOutside p a b c) : StrictlyOutside p b c a := by
  rintro ⟨v, w, u, hv, hw, hu, hmean⟩
  exact h ⟨u, v, w, hu, hv, hw, hmean.rotate.rotate⟩

/-- The corner is alone on its side of the line. -/
def Alone (long : Rat) (a b c : Rat × Rat) : Prop :=
  straddles long a b = true ∧ straddles long a c = true

/-- All on one side, or one of them alone. -/
theorem alone_cases (long : Rat) (a b c : Rat × Rat) :
    (straddles long a b = false ∧ straddles long b c = false ∧ straddles long c a = false) ∨
      Alone long a b c ∨ Alone long b c a ∨ Alone long c a b := by
  unfold Alone straddles
  cases decide (long < a.2) <;> cases decide (long < b.2) <;> cases decide (long < c.2) <;> simp

theorem pointInPolygon_triangle (p a b c : Rat × Rat) :
    pointInPolygon p.1 p.2 [a, b, c] =
      (intersects p.1 p.2 (a, b) ^^ intersects p.1 p.2 (b, c) ^^ intersects p.1 p.2 (c, a)) := by
  have hpairs : cyclicPairs [a, b, c] = [(a, c), (b, a), (c, b)] := rfl
  rw [intersects_swap _ _ a b, intersects_swap _ _ b c, intersects_swap _ _ c a, pointInPolygon_eq,
    crossingParity, hpairs]
  simp only [List.foldl_cons, List.foldl_nil]
  cases intersects p.1 p.2 (a, c) <;> cases intersects p.1 p.2 (b, a) <;>
    cases intersects p.1 p.2 (c, b) <;> rfl

theorem pointInPolygon_triangle_rotate (p a b c : Rat × Rat) :
    pointInPolygon p.1 p.2 [b, c, a] = pointInPolygon p.1 p.2 [a, b, c] :=
  crossingParity_rotate [a, b, c] 1

/-- The line enters and leaves through the two edges of the corner that is alone. -/
theorem Alone.pointInPolygon (h : Alone p.2 a b c) :
    pointInPolygon p.1 p.2 [a, b, c] =
      (decide (p.1 < crossing p.2 a b) ^^ decide (p.1 < crossing p.2 a c)) := by
  have hbc : straddles p.2 b c = false := by
    obtain ⟨hab, hac⟩ := h
    revert hab hac
    unfold straddles
    cases decide (p.2 < a.2) <;> cases decide (p.2 < b.2) <;> cases decide (p.2 < c.2) <;> simp
  rw [pointInPolygon_triangle, intersects_swap _ _ c a]
  simp [intersects, h.1, h.2, hbc]

/-- The share `s` of the way from `a` to `b` at which the edge meets the line. -/
structure MeetsAt (long : Rat) (a b : Rat × Rat) (s : Rat) : Prop where
  nonneg : 0 ≤ s
  le_one : s ≤ 1
  height : s * (b.2 - a.2) = long - a.2
  place : crossing long a b = a.1 + s * (b.1 - a.1)

theorem exists_meetsAt {long : Rat} (h : straddles long a b = true) : ∃ s, MeetsAt long a b s := by
  have hne := straddles_ne h
  refine ⟨(long - a.2) / (b.2 - a.2), ?_, ?_, div_mul_cancel₀ _ hne, ?_⟩
  · obtain ⟨h1, h2⟩ | ⟨h1, h2⟩ := straddles_iff.mp h
    · exact div_nonneg_of_nonpos (by linarith) (by linarith)
    · exact div_nonneg (by linarith) (by linarith)
  · obtain ⟨h1, h2⟩ | ⟨h1, h2⟩ := straddles_iff.mp h
    · rw [div_le_one_of_neg (by linarith)]
      linarith
    · rw [div_le_one (by linarith)]
      linarith
  · unfold crossing
    ring

theorem MeetsAt.pos {long s : Rat} (h : MeetsAt long a b s) (hne : long ≠ a.2) : 0 < s := by
  refine h.nonneg.lt_of_ne fun heq => hne ?_
  have hheight := h.height
  rw [← heq, zero_mul] at hheight
  linarith

/-- Two places on the edges of the lone corner with the point between them make it a mean. -/
theorem mean_of_between {s t l m : Rat} (hs : MeetsAt p.2 a b s) (ht : MeetsAt p.2 a c t)
    (hl : 0 ≤ l) (hm : 0 ≤ m) (hsum : l + m = 1)
    (hplace : p.1 = l * crossing p.2 a b + m * crossing p.2 a c) :
    ∃ u v w, 0 ≤ u ∧ 0 ≤ v ∧ 0 ≤ w ∧ IsMean p a b c u v w := by
  have hu : 0 ≤ l * (1 - s) + m * (1 - t) :=
    add_nonneg (mul_nonneg hl (sub_nonneg.mpr hs.le_one)) (mul_nonneg hm (sub_nonneg.mpr ht.le_one))
  refine ⟨_, l * s, m * t, hu, mul_nonneg hl hs.nonneg, mul_nonneg hm ht.nonneg, ?_, ?_, ?_⟩
  · linear_combination hsum
  · rw [hplace, hs.place, ht.place]
    ring
  · linear_combination (-l) * hs.height + (-m) * ht.height + (-p.2) * hsum

/-- Crossing one of the two edges only is being between the places where they are met. -/
theorem Alone.outside (h : Alone p.2 a b c) (hout : StrictlyOutside p a b c) :
    (decide (p.1 < crossing p.2 a b) ^^ decide (p.1 < crossing p.2 a c)) = false := by
  obtain ⟨s, hs⟩ := exists_meetsAt h.1
  obtain ⟨t, ht⟩ := exists_meetsAt h.2
  by_contra hne
  have hsplit : (p.1 < crossing p.2 a b ∧ crossing p.2 a c ≤ p.1) ∨
      (crossing p.2 a b ≤ p.1 ∧ p.1 < crossing p.2 a c) := by
    rw [Bool.not_eq_false, Bool.xor_iff_ne, Ne, decide_eq_decide] at hne
    rw [← not_lt, ← not_lt]
    tauto
  refine hout ?_
  -- The weights are the distances to the two places over the distance between them.
  obtain ⟨h1, h2⟩ | ⟨h1, h2⟩ := hsplit
  · have hpos : 0 < crossing p.2 a b - crossing p.2 a c := by linarith
    refine mean_of_between hs ht
      (div_nonneg (sub_nonneg.mpr h2) hpos.le) (div_nonneg (sub_nonneg.mpr h1.le) hpos.le) ?_ ?_
    · rw [← add_div, div_eq_one_iff_eq hpos.ne']
      ring
    · field_simp
      ring
  · have hpos : 0 < crossing p.2 a c - crossing p.2 a b := by linarith
    refine mean_of_between hs ht
      (div_nonneg (sub_nonneg.mpr h2.le) hpos.le) (div_nonneg (sub_nonneg.mpr h1) hpos.le) ?_ ?_
    · rw [← add_div, div_eq_one_iff_eq hpos.ne']
      ring
    · field_simp
      ring

theorem Alone.inside (h : Alone p.2 a b c) (hin : StrictlyInside p a b c) :
    (decide (p.1 < crossing p.2 a b) ^^ decide (p.1 < crossing p.2 a c)) = true := by
  obtain ⟨s, hs⟩ := exists_meetsAt h.1
  obtain ⟨t, ht⟩ := exists_meetsAt h.2
  obtain ⟨harea, u, v, w, hu, hv, hw, hmean⟩ := hin
  have hlong : p.2 - a.2 = v * (b.2 - a.2) + w * (c.2 - a.2) := by
    linear_combination hmean.long + a.2 * hmean.sum
  -- On the line through the lone corner the other two would lie on both sides.
  have hne : p.2 ≠ a.2 := by
    intro heq
    obtain ⟨h1, h2⟩ | ⟨h1, h2⟩ := straddles_iff.mp h.1
    · linarith
    · obtain ⟨h3, h4⟩ | ⟨h3, h4⟩ := straddles_iff.mp h.2
      · linarith
      · have := mul_pos hv (show 0 < b.2 - a.2 by linarith)
        have := mul_pos hw (show 0 < c.2 - a.2 by linarith)
        linarith
  have hspos := hs.pos hne
  have htpos := ht.pos hne
  -- The point divides the way between the two places as `v / s` to `w / t`.
  obtain ⟨l, hlpos, hl⟩ : ∃ l, 0 < l ∧ l * s = v :=
    ⟨v / s, div_pos hv hspos, div_mul_cancel₀ _ hspos.ne'⟩
  obtain ⟨m, hmpos, hm⟩ : ∃ m, 0 < m ∧ m * t = w :=
    ⟨w / t, div_pos hw htpos, div_mul_cancel₀ _ htpos.ne'⟩
  have hsum : l + m = 1 := by
    refine mul_right_cancel₀ (sub_ne_zero.mpr hne) ?_
    linear_combination (-l) * hs.height + (-m) * ht.height - hlong + (b.2 - a.2) * hl + (c.2 - a.2) * hm
  have hplace : p.1 = l * crossing p.2 a b + m * crossing p.2 a c := by
    rw [hs.place, ht.place]
    linear_combination hmean.lat + a.1 * hmean.sum - a.1 * hsum + (a.1 - b.1) * hl + (a.1 - c.1) * hm
  have hapart : crossing p.2 a b ≠ crossing p.2 a c := by
    intro heq
    rw [hs.place, ht.place] at heq
    refine harea (mul_left_cancel₀ hspos.ne' ?_)
    unfold doubledArea
    linear_combination (c.2 - a.2) * heq - (c.1 - a.1) * (hs.height - ht.height)
  rw [Bool.xor_iff_ne, Ne, decide_eq_decide]
  obtain hlt | hlt := hapart.lt_or_gt
  · have h1 := mul_pos hmpos (sub_pos.mpr hlt)
    have h2 := mul_pos hlpos (sub_pos.mpr hlt)
    have hleft : crossing p.2 a b < p.1 := by linear_combination h1 - hplace - crossing p.2 a b * hsum
    have hright : p.1 < crossing p.2 a c := by
      linear_combination h2 + hplace + crossing p.2 a c * hsum
    exact fun heq => absurd (heq.mpr hright) hleft.not_gt
  · have h1 := mul_pos hmpos (sub_pos.mpr hlt)
    have h2 := mul_pos hlpos (sub_pos.mpr hlt)
    have hleft : crossing p.2 a c < p.1 := by linear_combination h2 - hplace - crossing p.2 a c * hsum
    have hright : p.1 < crossing p.2 a b := by
      linear_combination h1 + hplace + crossing p.2 a b * hsum
    exact fun heq => absurd (heq.mp hright) hleft.not_gt

/-- The line through a point inside has corners on both sides. -/
theorem StrictlyInside.straddled (h : StrictlyInside p a b c) :
    ¬ (straddles p.2 a b = false ∧ straddles p.2 b c = false ∧ straddles p.2 c a = false) := by
  obtain ⟨harea, u, v, w, hu, hv, hw, hmean⟩ := h
  intro hnone
  have hzero : u * (a.2 - p.2) + v * (b.2 - p.2) + w * (c.2 - p.2) = 0 := by
    linear_combination (-1) * hmean.long - p.2 * hmean.sum
  have hsame : (p.2 < a.2 ↔ p.2 < b.2) ∧ (p.2 < a.2 ↔ p.2 < c.2) := by
    simp only [straddles, bne_eq_false_iff_eq, decide_eq_decide] at hnone
    tauto
  by_cases habove : p.2 < a.2
  · have h1 := mul_pos hu (sub_pos.mpr habove)
    have h2 := mul_pos hv (sub_pos.mpr (hsame.1.mp habove))
    have h3 := mul_pos hw (sub_pos.mpr (hsame.2.mp habove))
    linarith
  · -- None is above the line, so all are on it.
    have ha : a.2 ≤ p.2 := not_lt.mp habove
    have hb : b.2 ≤ p.2 := not_lt.mp fun hb => habove (hsame.1.mpr hb)
    have hc : c.2 ≤ p.2 := not_lt.mp fun hc => habove (hsame.2.mpr hc)
    have h1 := mul_nonneg hu.le (sub_nonneg.mpr ha)
    have h2 := mul_nonneg hv.le (sub_nonneg.mpr hb)
    have h3 := mul_nonneg hw.le (sub_nonneg.mpr hc)
    have ha0 : p.2 - a.2 = 0 := (mul_eq_zero_iff_left hu.ne').mp (by linarith)
    have hb0 : p.2 - b.2 = 0 := (mul_eq_zero_iff_left hv.ne').mp (by linarith)
    have hc0 : p.2 - c.2 = 0 := (mul_eq_zero_iff_left hw.ne').mp (by linarith)
    refine harea ?_
    unfold doubledArea
    linear_combination (b.1 - a.1) * (ha0 - hc0) - (c.1 - a.1) * (ha0 - hb0)

theorem pointInPolygon_inside (h : StrictlyInside p a b c) :
    pointInPolygon p.1 p.2 [a, b, c] = true := by
  obtain hnone | halone | halone | halone := alone_cases p.2 a b c
  · exact absurd hnone h.straddled
  · rw [halone.pointInPolygon, halone.inside h]
  · rw [← pointInPolygon_triangle_rotate, halone.pointInPolygon, halone.inside h.rotate]
  · rw [← pointInPolygon_triangle_rotate, ← pointInPolygon_triangle_rotate, halone.pointInPolygon,
      halone.inside h.rotate.rotate]

theorem pointInPolygon_outside (h : StrictlyOutside p a b c) :
    pointInPolygon p.1 p.2 [a, b, c] = false := by
  obtain ⟨hab, hbc, hca⟩ | halone | halone | halone := alone_cases p.2 a b c
  · rw [pointInPolygon_triangle]
    simp [intersects, hab, hbc, hca]
  · rw [halone.pointInPolygon, halone.outside h]
  · rw [← pointInPolygon_triangle_rotate, halone.pointInPolygon, halone.outside h.rotate]
  · rw [← pointInPolygon_triangle_rotate, ← pointInPolygon_triangle_rotate, halone.pointInPolygon,
      halone.outside h.rotate.rotate]

end Triangle

/-! ## However it was drawn -/

/-- A corner of the perimeter as the callers pass it. -/
def CardOverlayPath.pair (corner : CardOverlayPath) : Rat × Rat := (corner.lat, corner.lng)

theorem pointInPolygon_closeRing (lat long : Rat) (ring : List CardOverlayPath) :
    pointInPolygon lat long ((closeRing ring).map CardOverlayPath.pair) =
      pointInPolygon lat long (ring.map CardOverlayPath.pair) := by
  obtain h | ⟨first, hfirst, h⟩ := closeRing_cases ring
  · rw [h]
  · rw [h, List.map_append, List.map_singleton]
    refine crossingParity_close (intersects_self lat long) ?_
    rw [List.head?_map, hfirst]
    rfl

/-- **Being inside the perimeter does not depend on how it was drawn**, and means what it should for a
triangle. -/
theorem pointInPolygon_drawing (lat long : Rat) (polygon : List (Rat × Rat)) :
    pointInPolygon? lat long polygon = some (pointInPolygon lat long polygon) ∧
    (∀ n, pointInPolygon lat long (polygon.rotate n) = pointInPolygon lat long polygon) ∧
    pointInPolygon lat long polygon.reverse = pointInPolygon lat long polygon ∧
    (∀ first, polygon.head? = some first →
      pointInPolygon lat long (polygon ++ [first]) = pointInPolygon lat long polygon) ∧
    (∀ texts ring closed, cardOverlayPathsSchema texts ring = .ok closed →
      pointInPolygon lat long (closed.map CardOverlayPath.pair) =
        pointInPolygon lat long (ring.map CardOverlayPath.pair)) ∧
    (∀ a b c, StrictlyInside (lat, long) a b c → pointInPolygon lat long [a, b, c] = true) ∧
    (∀ a b c, StrictlyOutside (lat, long) a b c → pointInPolygon lat long [a, b, c] = false) := by
  refine ⟨pointInPolygon?_eq lat long polygon, ?_, ?_, ?_, ?_, ?_, ?_⟩
  · exact fun n => crossingParity_rotate polygon n
  · exact crossingParity_reverse (intersects_swap lat long) polygon
  · exact fun first hfirst => crossingParity_close (intersects_self lat long) hfirst
  · intro texts ring closed hclosed
    obtain ⟨_, _, rfl⟩ := cardOverlayPathsSchema_eq_ok.mp hclosed
    exact pointInPolygon_closeRing lat long ring
  · exact fun a b c h => @pointInPolygon_inside (lat, long) a b c h
  · exact fun a b c h => @pointInPolygon_outside (lat, long) a b c h

theorem pointInPolygon_corner_triangle :
    StrictlyInside (1, 1) (0, 0) (4, 0) (0, 4) ∧ pointInPolygon 1 1 [(0, 0), (4, 0), (0, 4)] = true ∧
      pointInPolygon 1 1 ([(0, 0), (4, 0), (0, 4)] ++ [(0, 0)]) =
        pointInPolygon 1 1 [(0, 0), (4, 0), (0, 4)] := by
  obtain ⟨_, _, _, hclose, _, hinside, _⟩ := pointInPolygon_drawing 1 1 [(0, 0), (4, 0), (0, 4)]
  have hin : StrictlyInside (1, 1) (0, 0) (4, 0) (0, 4) := by
    refine ⟨by norm_num [doubledArea], 1 / 2, 1 / 4, 1 / 4, by norm_num, by norm_num, by norm_num, ?_⟩
    exact ⟨by norm_num, by norm_num, by norm_num⟩
  exact ⟨hin, hinside _ _ _ hin, hclose (0, 0) rfl⟩

end Unitae.Territories
