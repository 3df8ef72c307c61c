import Mathlib.Data.List.Nodup
import Mathlib.Data.List.Perm.Subperm
import Mathlib.Order.WellFoundedSet

/-!
# Forests of parent pointers

A forest is a function `parent : K → Option K`; a node with no parent is a root. `RootPath parent x
path` says that following the pointers from `x` reaches a root, and that `path` is what was passed,
`x` first. A path determines its node's ancestors, so it repeats nothing (`RootPath.nodup`).

The second half is about *moving* nodes. `FirstCut parent cut x k z` says that the climb from `x`
meets its first `cut` node `z` after `k` steps. When the pointers change only at cut nodes, the new
path of `x` is the old one up to `z` and the new one from there (`RootPath.relocate`); every way of
editing a forest below is an instance.
-/

/-- Following `parent` from `x` reaches a root; `path` lists the nodes passed, nearest first. -/
inductive RootPath {K : Type} (parent : K → Option K) : K → List K → Prop where
  | root {x : K} (hx : parent x = none) : RootPath parent x [x]
  | child {x y : K} {path : List K} (hx : parent x = some y) (hy : RootPath parent y path) :
      RootPath parent x (x :: path)

namespace RootPath

variable {K : Type} {parent parent' : K → Option K} {x y : K} {path path' : List K}

theorem head (h : RootPath parent x path) : ∃ rest, path = x :: rest := by
  cases h with
  | root hx => exact ⟨[], rfl⟩
  | child hx hy => exact ⟨_, rfl⟩

theorem self_mem (h : RootPath parent x path) : x ∈ path := by
  obtain ⟨rest, rfl⟩ := h.head
  exact List.mem_cons_self

theorem length_pos (h : RootPath parent x path) : 0 < path.length := by
  obtain ⟨rest, rfl⟩ := h.head
  simp

/-- The climb is deterministic. -/
theorem unique (h : RootPath parent x path) (h' : RootPath parent x path') : path = path' := by
  induction h generalizing path' with
  | root hx =>
    cases h' with
    | root _ => rfl
    | child hx' _ => simp [hx] at hx'
  | child hx hy ih =>
    cases h' with
    | root hx' => simp [hx] at hx'
    | child hx' hy' =>
      rw [hx, Option.some.injEq] at hx'
      subst hx'
      rw [ih hy']

/-- Every node passed has its own path, a tail of the first. -/
theorem of_mem (h : RootPath parent x path) (hy : y ∈ path) :
    ∃ path', RootPath parent y path' ∧ path' <:+ path := by
  induction h with
  | root hx =>
    rw [List.mem_singleton] at hy
    subst hy
    exact ⟨[y], .root hx, List.suffix_rfl⟩
  | @child x z path hx hz ih =>
    rcases List.mem_cons.mp hy with rfl | hy
    · exact ⟨_, .child hx hz, List.suffix_rfl⟩
    · obtain ⟨path', hpath', hsuffix⟩ := ih hy
      exact ⟨path', hpath', hsuffix.trans (List.suffix_cons x path)⟩

/-- **A path to a root repeats no node**: a node met twice would have two paths of different
lengths. -/
theorem nodup (h : RootPath parent x path) : path.Nodup := by
  induction h with
  | root hx => exact List.nodup_singleton _
  | @child x y path hx hy ih =>
    refine List.nodup_cons.mpr ⟨?_, ih⟩
    intro hmem
    obtain ⟨path', hpath', hsuffix⟩ := hy.of_mem hmem
    have heq : x :: path = path' := (RootPath.child hx hy).unique hpath'
    have hle := hsuffix.length_le
    rw [← heq, List.length_cons] at hle
    omega

/-- A path survives any change that leaves its nodes' pointers alone. -/
theorem congr (h : RootPath parent x path) (hsame : ∀ z ∈ path, parent' z = parent z) :
    RootPath parent' x path := by
  induction h with
  | root hx => exact .root (by rw [hsame _ List.mem_cons_self]; exact hx)
  | child hx hy ih =>
    refine .child (by rw [hsame _ List.mem_cons_self]; exact hx) (ih ?_)
    exact fun z hz => hsame z (List.mem_cons_of_mem _ hz)

/-- Every node passed but the last has a parent. -/
theorem dropLast_parent (h : RootPath parent x path) : ∀ z ∈ path.dropLast, parent z ≠ none := by
  induction h with
  | root hx => simp
  | @child x y path hx hy ih =>
    obtain ⟨rest, rfl⟩ := hy.head
    rw [List.dropLast_cons_cons]
    intro z hz
    rcases List.mem_cons.mp hz with rfl | hz
    · simp [hx]
    · exact ih z hz

/-- **Unhooking a node**: when the children of `s` are hung from the parent of `s`, and nobody else
moves, no other node climbs further than before. -/
theorem unhook {s : K}
    (hsame : ∀ y, y ≠ s → parent y ≠ some s → parent' y = parent y)
    (hchild : ∀ y, y ≠ s → parent y = some s → parent' y = parent s) (h : RootPath parent x path) :
    (x ≠ s → ∃ path', RootPath parent' x path' ∧ path'.length ≤ path.length) ∧
      (x = s → ∀ w, parent' w = parent s →
        ∃ path', RootPath parent' w path' ∧ path'.length ≤ path.length) := by
  induction h with
  | @root x hx =>
    refine ⟨fun hne => ?_, ?_⟩
    · exact ⟨[x], .root (by rw [hsame x hne (by simp [hx]), hx]), by simp⟩
    · rintro rfl w hw
      exact ⟨[w], .root (by rw [hw, hx]), by simp⟩
  | @child x y path hx hy ih =>
    -- a node is not its own parent
    have hloop : x ≠ y := by
      rintro rfl
      exact (List.nodup_cons.mp (RootPath.child hx hy).nodup).1 hy.self_mem
    refine ⟨fun hne => ?_, ?_⟩
    · by_cases hys : y = s
      · obtain ⟨path', hpath', hlength⟩ := ih.2 hys x (hchild x hne (by rw [hx, hys]))
        exact ⟨path', hpath', by rw [List.length_cons]; omega⟩
      · obtain ⟨path', hpath', hlength⟩ := ih.1 hys
        have hx' : parent' x = some y := by
          rw [hsame x hne (by rw [hx]; simpa using hys), hx]
        exact ⟨x :: path', .child hx' hpath', by simp only [List.length_cons]; omega⟩
    · rintro rfl w hw
      obtain ⟨path', hpath', hlength⟩ := ih.1 hloop.symm
      exact ⟨w :: path', .child (by rw [hw, hx]) hpath', by simp only [List.length_cons]; omega⟩

end RootPath

/-- `below` descends from `x`: each node's parent is the one before it, the first node's is `x`. -/
def Descends {K : Type} (parent : K → Option K) : K → List K → Prop
  | _, [] => True
  | x, y :: below => parent y = some x ∧ Descends parent y below

theorem Descends.snoc {K : Type} {parent : K → Option K} {x y : K} {below : List K}
    (h : Descends parent x below) (hy : parent y = some (below.getLast?.getD x)) :
    Descends parent x (below ++ [y]) := by
  induction below generalizing x with
  | nil => exact ⟨hy, trivial⟩
  | cons z below ih =>
    refine ⟨h.1, ih h.2 ?_⟩
    rw [hy, List.getLast?_cons, Option.getD_some]

theorem Descends.exists_parent {K : Type} {parent : K → Option K} {x : K} {below : List K}
    (h : Descends parent x below) : ∀ z ∈ below, ∃ y, parent z = some y := by
  induction below generalizing x with
  | nil => exact fun z hz => absurd hz List.not_mem_nil
  | cons y below ih =>
    intro z hz
    rcases List.mem_cons.mp hz with rfl | hz
    · exact ⟨x, h.1⟩
    · exact ih h.2 z hz

/-- The climb from `x` meets its first `cut` node, `z`, after `k` steps. -/
inductive FirstCut {K : Type} (parent : K → Option K) (cut : K → Prop) : K → Nat → K → Prop where
  | here {x : K} (hx : cut x) : FirstCut parent cut x 0 x
  | up {x y z : K} {k : Nat} (hx : ¬cut x) (hy : parent x = some y)
      (h : FirstCut parent cut y k z) : FirstCut parent cut x (k + 1) z

namespace FirstCut

variable {K : Type} {parent : K → Option K} {cut : K → Prop} {x z : K} {k : Nat}

theorem cut_last (h : FirstCut parent cut x k z) : cut z := by
  induction h with
  | here hx => exact hx
  | up _ _ _ ih => exact ih

/-- The part of the path below the cut node: `k` nodes that, read from the top, descend from it,
then the cut node's own path. -/
theorem split (h : FirstCut parent cut x k z) {path : List K} (hpath : RootPath parent x path) :
    ∃ below above, path = below ++ above ∧ below.length = k ∧ RootPath parent z above ∧
      Descends parent z below.reverse := by
  suffices hsplit : ∃ below above, path = below ++ above ∧ below.length = k ∧
      RootPath parent z above ∧ Descends parent z below.reverse ∧ below.head?.getD z = x by
    obtain ⟨below, above, hpath, hlength, habove, hdescends, _⟩ := hsplit
    exact ⟨below, above, hpath, hlength, habove, hdescends⟩
  induction h generalizing path with
  | here hx => exact ⟨[], path, rfl, rfl, hpath, trivial, rfl⟩
  | @up x y z k hx hy h ih =>
    cases hpath with
    | root hroot => simp [hroot] at hy
    | child hparent hrest =>
      rw [hparent, Option.some.injEq] at hy
      subst hy
      obtain ⟨below, above, rfl, hlength, habove, hdescends, hhead⟩ := ih hrest
      refine ⟨x :: below, above, rfl, by simp [hlength], habove, ?_, rfl⟩
      rw [List.reverse_cons]
      refine hdescends.snoc ?_
      rw [List.getLast?_reverse, hhead, hparent]

/-- Cutting at parents instead: when the first cut node is the child of a node of a smaller kind,
the climb goes on to that parent. -/
theorem extend {cut' : K → Prop} {s : K} (h : FirstCut parent cut x k z)
    (hsub : ∀ w, cut' w → cut w) (hz : ¬cut' z) (hparent : parent z = some s) (hs : cut' s) :
    FirstCut parent cut' x (k + 1) s := by
  induction h with
  | here hx => exact .up hz hparent (.here hs)
  | up hx hy _ ih => exact .up (fun h => hx (hsub _ h)) hy (ih hz hparent)

/-- Past the start, the cut node is the parent of a node that is not cut. -/
theorem cases_parent (h : FirstCut parent cut x k z) :
    k = 0 ∧ x = z ∨ ∃ y, ¬cut y ∧ parent y = some z := by
  induction h with
  | here hx => exact .inl ⟨rfl, rfl⟩
  | @up x y z k hx hy h ih =>
    rcases ih with ⟨_, rfl⟩ | hparent
    · exact .inr ⟨x, hx, hy⟩
    · exact .inr hparent

end FirstCut

section Relocate

variable {K : Type} {parent parent' : K → Option K} {cut : K → Prop} {x : K} {path : List K}

/-- **Moving nodes.** When the pointers change at `cut` nodes only, a node either keeps its path or
climbs as before up to its first cut node, and from there takes that node's new path. -/
theorem RootPath.relocate (hsame : ∀ y, ¬cut y → parent' y = parent y)
    (h : RootPath parent x path) :
    RootPath parent' x path ∨
      ∃ k z, FirstCut parent cut x k z ∧
        ∀ above, RootPath parent' z above →
          ∃ path', RootPath parent' x path' ∧ path'.length = k + above.length := by
  induction h with
  | @root x hx =>
    by_cases hcut : cut x
    · exact .inr ⟨0, x, .here hcut, fun above h => ⟨above, h, by omega⟩⟩
    · exact .inl (.root (by rw [hsame x hcut, hx]))
  | @child x y path hx hy ih =>
    by_cases hcut : cut x
    · exact .inr ⟨0, x, .here hcut, fun above h => ⟨above, h, by omega⟩⟩
    · have hx' : parent' x = some y := by rw [hsame x hcut, hx]
      rcases ih with hkept | ⟨k, z, hfirst, hmoved⟩
      · exact .inl (.child hx' hkept)
      · refine .inr ⟨k + 1, z, .up hcut hx hfirst, ?_⟩
        intro above habove
        obtain ⟨path', hpath', hlength⟩ := hmoved above habove
        exact ⟨x :: path', .child hx' hpath', by simp only [List.length_cons]; omega⟩

end Relocate

/-! ## Relations without cycles -/

/-- **Induction along a finite relation without cycles**: what holds of a node whenever it holds of its
successors holds of every node. -/
theorem acyclic_induction {K : Type} {R : K → K → Prop} {s : Set K} (hfinite : s.Finite)
    (hacyclic : ∀ x, ¬Relation.TransGen R x x) {P : K → Prop}
    (hstep : ∀ x ∈ s, (∀ y ∈ s, R x y → P y) → P x) : ∀ x ∈ s, P x := by
  have htrans : IsTrans K (Relation.TransGen (flip R)) := ⟨fun _ _ _ => Relation.TransGen.trans⟩
  have hirrefl : Std.Irrefl (Relation.TransGen (flip R)) :=
    ⟨fun x h => hacyclic x (Relation.transGen_swap.mp h)⟩
  have hstrict : IsStrictOrder K (Relation.TransGen (flip R)) := {}
  have hwf : s.WellFoundedOn (Relation.TransGen (flip R)) := hfinite.wellFoundedOn
  intro x hx
  refine hwf.induction hx fun y hy ih => ?_
  exact hstep y hy fun z hz hyz => ih z hz (.single hyz)
