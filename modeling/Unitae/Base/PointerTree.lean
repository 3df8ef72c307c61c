import Mathlib.Data.List.Nodup
import Mathlib.Data.List.Perm.Basic
import Unitae.Base.Forest
import Unitae.Base.Table

/-!
# Trees grown from parent pointers

Rows that point at a parent are grown into trees by a walk that remembers the ids it has visited: a row
takes those of its children that are not visited yet, and each of them in turn its own
(`grow`). The pointers are arbitrary: they may dangle, and they may form cycles.

`grow_grown` is what growing one row gives, and `exists_forest` what growing the roots does, and then
whatever no root reaches: the trees have every row exactly once, and below each row stand the rows that
point at it, other than those the forest starts at.
-/

/-! ## Trees -/

inductive Rose (α : Type) where
  | node (value : α) (children : List (Rose α))

namespace Rose

variable {α N M : Type}

def value : Rose α → α
  | node a _ => a

def children : Rose α → List (Rose α)
  | node _ ts => ts

mutual

/-- The tree and every tree below it, a parent before its children. -/
def subtrees : Rose α → List (Rose α)
  | node a ts => node a ts :: allSubtrees ts

def allSubtrees : List (Rose α) → List (Rose α)
  | [] => []
  | t :: ts => subtrees t ++ allSubtrees ts

end

/-- The values, a parent's before its children's. -/
def preorder (ts : List (Rose α)) : List α := (allSubtrees ts).map value

mutual

/-- A tree whose nodes are made from a value and the nodes below it. -/
def fold (mk : α → List N → N) : Rose α → N
  | node a ts => mk a (foldAll mk ts)

def foldAll (mk : α → List N → N) : List (Rose α) → List N
  | [] => []
  | t :: ts => fold mk t :: foldAll mk ts

end

@[simp] theorem allSubtrees_nil : allSubtrees ([] : List (Rose α)) = [] := by
  rw [allSubtrees]

@[simp] theorem allSubtrees_cons (t : Rose α) (ts : List (Rose α)) :
    allSubtrees (t :: ts) = t :: allSubtrees t.children ++ allSubtrees ts := by
  cases t with
  | node a below => rw [allSubtrees, subtrees, children]

theorem allSubtrees_append (ts us : List (Rose α)) :
    allSubtrees (ts ++ us) = allSubtrees ts ++ allSubtrees us := by
  induction ts with
  | nil => simp
  | cons t ts ih => simp [ih]

@[simp] theorem preorder_nil : preorder ([] : List (Rose α)) = [] := by
  simp [preorder]

@[simp] theorem preorder_cons (t : Rose α) (ts : List (Rose α)) :
    preorder (t :: ts) = t.value :: preorder t.children ++ preorder ts := by
  simp [preorder]

theorem preorder_append (ts us : List (Rose α)) : preorder (ts ++ us) = preorder ts ++ preorder us := by
  simp [preorder, allSubtrees_append]

theorem mem_allSubtrees_of_mem {t : Rose α} {ts : List (Rose α)} (h : t ∈ ts) : t ∈ allSubtrees ts := by
  induction ts with
  | nil => cases h
  | cons u us ih =>
    rw [allSubtrees_cons]
    rcases List.mem_cons.mp h with rfl | hin
    · exact List.mem_append_left _ List.mem_cons_self
    · exact List.mem_append_right _ (ih hin)

theorem mem_preorder {x : α} {ts : List (Rose α)} :
    x ∈ preorder ts ↔ ∃ t ∈ allSubtrees ts, t.value = x := List.mem_map

theorem mem_preorder_of_mem {t : Rose α} {ts : List (Rose α)} (h : t ∈ allSubtrees ts) :
    t.value ∈ preorder ts := List.mem_map_of_mem h

/-- What holds of no tree, and of a tree before others whenever it holds below the tree and of the
others, holds of every list of trees. -/
theorem forestInduction {P : List (Rose α) → Prop} (nil : P [])
    (cons : ∀ a below rest, P below → P rest → P (node a below :: rest)) : ∀ ts, P ts
  | [] => nil
  | node a below :: rest =>
    cons a below rest (forestInduction nil cons below) (forestInduction nil cons rest)

/-- A value is a root's, or a child's. -/
theorem mem_preorder_cases {x : α} {ts : List (Rose α)} (h : x ∈ preorder ts) :
    x ∈ ts.map value ∨ ∃ t ∈ allSubtrees ts, x ∈ t.children.map value := by
  induction ts using forestInduction with
  | nil => simp at h
  | cons a below rest ihbelow ihrest =>
    rw [preorder_cons, List.cons_append, List.mem_cons, List.mem_append] at h
    simp only [allSubtrees_cons, children, List.map_cons, List.mem_cons, List.mem_append] at h ⊢
    rcases h with rfl | hbelow | hrest
    · exact .inl (.inl rfl)
    · rcases ihbelow hbelow with hroot | ⟨t, ht, hx⟩
      · exact .inr ⟨node a below, .inl (.inl rfl), hroot⟩
      · exact .inr ⟨t, .inl (.inr ht), hx⟩
    · rcases ihrest hrest with hroot | ⟨t, ht, hx⟩
      · exact .inl (.inr hroot)
      · exact .inr ⟨t, .inr ht, hx⟩

/-- A child's value is passed. -/
theorem mem_preorder_of_child {x : α} {t : Rose α} {ts : List (Rose α)} (ht : t ∈ allSubtrees ts)
    (hx : x ∈ t.children.map value) : x ∈ preorder ts := by
  induction ts using forestInduction with
  | nil => simp at ht
  | cons a below rest ihbelow ihrest =>
    rw [preorder_cons, List.cons_append, List.mem_cons, List.mem_append]
    simp only [allSubtrees_cons, children, List.cons_append, List.mem_cons, List.mem_append] at ht
    rcases ht with rfl | hbelow | hrest
    · obtain ⟨c, hc, rfl⟩ := List.mem_map.mp hx
      exact .inr (.inl (mem_preorder_of_mem (mem_allSubtrees_of_mem hc)))
    · exact .inr (.inl (ihbelow hbelow))
    · exact .inr (.inr (ihrest hrest))

@[simp] theorem foldAll_eq_map (mk : α → List N → N) (ts : List (Rose α)) :
    foldAll mk ts = ts.map (fold mk) := by
  induction ts with
  | nil => rw [foldAll, List.map_nil]
  | cons t ts ih => rw [foldAll, ih, List.map_cons]

theorem fold_eq (mk : α → List N → N) (t : Rose α) :
    t.fold mk = mk t.value (t.children.map (fold mk)) := by
  cases t with
  | node a ts => rw [fold, foldAll_eq_map, value, children]

end Rose

/-! ## Growing -/

section Grow

variable {α K N M : Type} [DecidableEq K]

/-- A row, and below it its children that are not visited yet. Each nested call visits a row that was
not, so as many levels as there are rows are enough (`grow_grown`). -/
def grow (id : α → K) (kids : α → List α) (sort : List α → List α) (mk : α → List N → N) :
    Nat → α → StateT (List K) Option N
  | 0, _ => failure
  | fuel + 1, row => do
    modify (id row :: ·)
    let visited ← get
    let children ← (sort ((kids row).filter fun child => !visited.contains (id child))).mapM
      (grow id kids sort mk fuel)
    return mk row children

/-- The rows, one after the other, each with what is below it. -/
def growAll (id : α → K) (kids : α → List α) (sort : List α → List α) (mk : α → List N → N) (fuel : Nat)
    (rows : List α) : StateT (List K) Option (List N) := rows.mapM (grow id kids sort mk fuel)

/-- The rows no tree has yet. -/
def growRest (id : α → K) (kids : α → List α) (sort : List α → List α) (mk : α → List N → N) (fuel : Nat)
    (rows : List α) : StateT (List K) Option (List N) :=
  rows.filterMapM fun row => do
    if (← get).contains (id row) then return none
    else return some (← grow id kids sort mk fuel row)

variable {id : α → K} {kids : α → List α} {sort : List α → List α} {mk : α → List N → N} {fuel : Nat}
  {row : α} {rows : List α} {visited visited' : List K}

theorem grow_succ : (grow id kids sort mk (fuel + 1) row).run visited =
    ((growAll id kids sort mk fuel
      (sort ((kids row).filter fun child => !(id row :: visited).contains (id child)))).run
        (id row :: visited)).map fun (children, visited') => (mk row children, visited') := by
  rw [grow]
  simp only [StateT.run_bind, StateT.run_modify, StateT.run_get, growAll, StateT.run_pure,
    Option.pure_def, Option.bind_eq_bind, Option.bind_some, Option.map_eq_bind]
  rfl

@[simp] theorem growAll_nil : (growAll id kids sort mk fuel []).run visited = some ([], visited) := by
  simp [growAll]

theorem growAll_cons : (growAll id kids sort mk fuel (row :: rows)).run visited =
    ((grow id kids sort mk fuel row).run visited).bind fun (n, visited') =>
      ((growAll id kids sort mk fuel rows).run visited').map fun (ns, visited'') => (n :: ns, visited'') := by
  simp only [growAll, List.mapM_cons, StateT.run_bind, StateT.run_pure, Option.pure_def,
    Option.bind_eq_bind, Option.map_eq_bind]
  rfl

@[simp] theorem growRest_nil : (growRest id kids sort mk fuel []).run visited = some ([], visited) := by
  simp [growRest]

theorem growRest_cons_of_mem (h : id row ∈ visited) :
    (growRest id kids sort mk fuel (row :: rows)).run visited =
      (growRest id kids sort mk fuel rows).run visited := by
  simp [growRest, List.filterMapM_cons, h]

theorem growRest_cons_of_not_mem (h : id row ∉ visited) :
    (growRest id kids sort mk fuel (row :: rows)).run visited =
      ((grow id kids sort mk fuel row).run visited).bind fun (n, visited') =>
        ((growRest id kids sort mk fuel rows).run visited').map fun (ns, visited'') =>
          (n :: ns, visited'') := by
  cases hgrow : (grow id kids sort mk fuel row).run visited with
  | none => simp [growRest, List.filterMapM_cons, h, hgrow]
  | some p =>
    simp only [growRest, List.filterMapM_cons, StateT.run_bind, StateT.run_get, Option.pure_def,
      Option.bind_eq_bind, Option.bind_some, List.contains_iff_mem, h, if_false, hgrow, StateT.run_pure,
      Option.map_eq_bind]
    rfl

/-! ### Nodes of another type -/

theorem growAll_fold_of (h : ∀ (row : α) (visited : List K), (grow id kids sort mk fuel row).run visited =
      ((grow id kids sort Rose.node fuel row).run visited).map fun (t, visited') =>
        (t.fold mk, visited')) :
    (growAll id kids sort mk fuel rows).run visited =
      ((growAll id kids sort Rose.node fuel rows).run visited).map fun (ts, visited') =>
        (ts.map (Rose.fold mk), visited') := by
  induction rows generalizing visited with
  | nil => simp
  | cons row rows ih =>
    rw [growAll_cons, growAll_cons, h]
    rcases (grow id kids sort Rose.node fuel row).run visited with - | ⟨t, visited'⟩
    · rfl
    · simp only [Option.map_some, Option.bind_some, ih, Option.map_map]
      rfl

/-- Growing nodes of a type is growing trees and folding them. -/
theorem grow_fold : (grow id kids sort mk fuel row).run visited =
    ((grow id kids sort Rose.node fuel row).run visited).map fun (t, visited') => (t.fold mk, visited') := by
  induction fuel generalizing row visited with
  | zero => rfl
  | succ fuel ih =>
    rw [grow_succ, grow_succ, growAll_fold_of fun row visited => ih, Option.map_map, Option.map_map]
    congr 1
    funext p
    show (mk row (p.1.map (Rose.fold mk)), p.2) = ((Rose.node row p.1).fold mk, p.2)
    rw [Rose.fold_eq, Rose.value, Rose.children]

theorem growAll_fold : (growAll id kids sort mk fuel rows).run visited =
    ((growAll id kids sort Rose.node fuel rows).run visited).map fun (ts, visited') =>
      (ts.map (Rose.fold mk), visited') := growAll_fold_of fun _ _ => grow_fold

theorem growRest_fold : (growRest id kids sort mk fuel rows).run visited =
    ((growRest id kids sort Rose.node fuel rows).run visited).map fun (ts, visited') =>
      (ts.map (Rose.fold mk), visited') := by
  induction rows generalizing visited with
  | nil => simp
  | cons row rows ih =>
    by_cases hrow : id row ∈ visited
    · rw [growRest_cons_of_mem hrow, growRest_cons_of_mem hrow, ih]
    · rw [growRest_cons_of_not_mem hrow, growRest_cons_of_not_mem hrow, grow_fold]
      rcases (grow id kids sort Rose.node fuel row).run visited with - | ⟨t, visited'⟩
      · rfl
      · simp only [Option.map_some, Option.bind_some, ih, Option.map_map]
        rfl

/-! ### Rows of another type -/

variable {β : Type} {f : β → α} {id' : β → K} {kids' : β → List β} {sort' : List β → List β}
  {b : β} {bs : List β}

theorem growAll_comap_of (h : ∀ (b : β) (visited : List K), (grow id kids sort mk fuel (f b)).run visited =
      (grow id' kids' sort' (fun b => mk (f b)) fuel b).run visited) :
    (growAll id kids sort mk fuel (bs.map f)).run visited =
      (growAll id' kids' sort' (fun b => mk (f b)) fuel bs).run visited := by
  induction bs generalizing visited with
  | nil => simp
  | cons b bs ih =>
    rw [List.map_cons, growAll_cons, growAll_cons, h]
    congr 1
    funext ⟨n, visited'⟩
    dsimp only
    rw [ih]

/-- Growing images of rows is growing the rows. -/
theorem grow_comap (hid : ∀ b, id (f b) = id' b) (hkids : ∀ b, kids (f b) = (kids' b).map f)
    (hsort : ∀ l, sort (l.map f) = (sort' l).map f) :
    (grow id kids sort mk fuel (f b)).run visited =
      (grow id' kids' sort' (fun b => mk (f b)) fuel b).run visited := by
  induction fuel generalizing b visited with
  | zero => rfl
  | succ fuel ih =>
    have hunvisited : (fun child => !(id' b :: visited).contains (id child)) ∘ f =
        fun child => !(id' b :: visited).contains (id' child) := by
      funext child
      rw [Function.comp_apply, hid]
    rw [grow_succ, grow_succ, hkids, hid, List.filter_map, hunvisited, hsort,
      growAll_comap_of fun b visited => ih]

theorem growAll_comap (hid : ∀ b, id (f b) = id' b) (hkids : ∀ b, kids (f b) = (kids' b).map f)
    (hsort : ∀ l, sort (l.map f) = (sort' l).map f) :
    (growAll id kids sort mk fuel (bs.map f)).run visited =
      (growAll id' kids' sort' (fun b => mk (f b)) fuel bs).run visited :=
  growAll_comap_of fun _ _ => grow_comap hid hkids hsort

theorem growRest_comap (hid : ∀ b, id (f b) = id' b) (hkids : ∀ b, kids (f b) = (kids' b).map f)
    (hsort : ∀ l, sort (l.map f) = (sort' l).map f) :
    (growRest id kids sort mk fuel (bs.map f)).run visited =
      (growRest id' kids' sort' (fun b => mk (f b)) fuel bs).run visited := by
  induction bs generalizing visited with
  | nil => simp
  | cons b bs ih =>
    rw [List.map_cons]
    by_cases hb : id' b ∈ visited
    · rw [growRest_cons_of_mem hb, growRest_cons_of_mem (by rw [hid]; exact hb), ih]
    · rw [growRest_cons_of_not_mem hb, growRest_cons_of_not_mem (by rw [hid]; exact hb),
        grow_comap hid hkids hsort]
      congr 1
      funext ⟨n, visited'⟩
      dsimp only
      rw [ih]

end Grow

/-! ## What growing gives -/

/-- Rows with distinct ids, and of each of them the rows that point at it. -/
structure Pointers {α K : Type} (id : α → K) (parent : α → Option K) (rows : List α)
    (kids : α → List α) (sort : List α → List α) : Prop where
  keyed : Keyed id rows
  mem_kids : ∀ {row}, row ∈ rows → ∀ {x}, x ∈ kids row ↔ x ∈ rows ∧ parent x = some (id row)
  nodup_kids : ∀ row, (kids row).Nodup
  sort_perm : ∀ l, (sort l).Perm l

/-- Trees of rows that were not visited, each of them once. Below a row stand the rows that point at it,
but those that are cut. -/
structure Grown {α K : Type} [DecidableEq K] (id : α → K) (rows : List α) (kids : α → List α)
    (sort : List α → List α) (visited cut : List K) (ts : List (Rose α)) : Prop where
  within : ∀ x ∈ Rose.preorder ts, x ∈ rows
  keyed : Keyed id (Rose.preorder ts)
  fresh : ∀ x ∈ Rose.preorder ts, id x ∉ visited
  below : ∀ t ∈ Rose.allSubtrees ts,
    t.children.map Rose.value = sort ((kids t.value).filter fun x => !cut.contains (id x))

section Grown

variable {α K : Type} [DecidableEq K] {id : α → K} {parent : α → Option K} {rows cs : List α}
  {kids : α → List α} {sort : List α → List α} {visited cut : List K} {ts us : List (Rose α)}
  {fuel : Nat} {row x : α}

/-- How many rows are not visited yet. -/
def unvisited (id : α → K) (rows : List α) (visited : List K) : Nat :=
  (rows.filter fun x => !visited.contains (id x)).length

theorem unvisited_mono {visited' : List K} (h : ∀ k ∈ visited, k ∈ visited') :
    unvisited id rows visited' ≤ unvisited id rows visited := by
  refine (List.monotone_filter_right rows fun x hx => ?_).length_le
  have hnew : id x ∉ visited' := by simpa using hx
  simpa using fun hin => hnew (h _ hin)

theorem unvisited_cons_lt (hrow : row ∈ rows) (hnew : id row ∉ visited) :
    unvisited id rows (id row :: visited) < unvisited id rows visited := by
  have hsplit : rows.filter (fun x => !(id row :: visited).contains (id x)) =
      (rows.filter fun x => !visited.contains (id x)).filter fun x => id x != id row := by
    rw [List.filter_filter]
    refine List.filter_congr fun x _ => ?_
    rw [List.contains_cons, Bool.not_or, bne]
  unfold unvisited
  rw [hsplit]
  refine List.length_filter_lt_length_iff_exists.mpr ⟨row, ?_, by simp⟩
  simp [hrow, hnew]

/-- The parent of the row is visited, or no row at all. -/
def Loose (id : α → K) (parent : α → Option K) (rows : List α) (visited : List K) (x : α) : Prop :=
  ∀ y ∈ rows, parent x = some (id y) → id y ∈ visited

/-- A row that was passed is a root, or its parent was passed. -/
theorem Grown.hangs (hp : Pointers id parent rows kids sort)
    (h : Grown id rows kids sort visited cut ts) (hx : x ∈ Rose.preorder ts) :
    x ∈ ts.map Rose.value ∨ ∃ y ∈ Rose.preorder ts, parent x = some (id y) := by
  rcases Rose.mem_preorder_cases hx with hroot | ⟨t, ht, hchild⟩
  · exact .inl hroot
  · rw [h.below t ht, (hp.sort_perm _).mem_iff, List.mem_filter,
      hp.mem_kids (h.within _ (Rose.mem_preorder_of_mem ht))] at hchild
    exact .inr ⟨t.value, Rose.mem_preorder_of_mem ht, hchild.1.2⟩

omit [DecidableEq K] in
/-- The ids visited once the trees are grown. -/
theorem mem_visited {k : K} : k ∈ ((Rose.preorder ts).map id).reverse ++ visited ↔
    (∃ x ∈ Rose.preorder ts, id x = k) ∨ k ∈ visited := by
  rw [List.mem_append, List.mem_reverse, List.mem_map]

/-- A row that is passed below another is not loose. -/
theorem Grown.not_loose (hp : Pointers id parent rows kids sort)
    (h : Grown id rows kids sort visited cut ts) (hx : x ∈ Rose.preorder ts)
    (hroot : x ∉ ts.map Rose.value) : ¬Loose id parent rows visited x := by
  intro hloose
  rcases h.hangs hp hx with hvalue | ⟨y, hy, hparent⟩
  · exact hroot hvalue
  · exact h.fresh y hy (hloose y (h.within y hy) hparent)

/-- A loose row that is not the tree's root is not passed below it. -/
theorem Grown.keeps_unvisited {t : Rose α} (hp : Pointers id parent rows kids sort)
    (ht : Grown id rows kids sort visited cut [t]) (hx : x ∈ rows) (hne : x ≠ t.value)
    (hloose : Loose id parent rows visited x) (hnew : id x ∉ visited) :
    id x ∉ ((Rose.preorder [t]).map id).reverse ++ visited := by
  intro hin
  rcases mem_visited.mp hin with ⟨y, hy, heq⟩ | hold
  · have hsame := hp.keyed.eq_of_key (ht.within y hy) hx heq
    subst hsame
    refine ht.not_loose hp hy (fun hroot => hne ?_) hloose
    rwa [List.map_cons, List.map_nil, List.mem_singleton] at hroot
  · exact hnew hold

theorem Grown.cons {t : Rose α} (hp : Pointers id parent rows kids sort)
    (ht : Grown id rows kids sort visited (id t.value :: visited) [t])
    (hts : Grown id rows kids sort (((Rose.preorder [t]).map id).reverse ++ visited)
      (((Rose.preorder [t]).map id).reverse ++ visited) ts)
    (hloose : ∀ c ∈ t.value :: ts.map Rose.value, Loose id parent rows visited c) :
    Grown id rows kids sort visited visited (t :: ts) := by
  have hsingle : Rose.preorder (t :: ts) = Rose.preorder [t] ++ Rose.preorder ts :=
    Rose.preorder_append [t] ts
  have hpassed : ∀ x ∈ Rose.preorder ts, ∀ y ∈ Rose.preorder [t], id y ≠ id x := fun x hx y hy heq =>
    hts.fresh x hx (mem_visited.mpr (.inl ⟨y, hy, heq⟩))
  constructor
  · intro x hx
    rw [hsingle, List.mem_append] at hx
    exact hx.elim (ht.within x) (hts.within x)
  · rw [hsingle]
    exact ht.keyed.append hts.keyed fun y hy x hx => hpassed x hx y hy
  · intro x hx
    rw [hsingle, List.mem_append] at hx
    rcases hx with hx | hx
    · exact ht.fresh x hx
    · exact fun hin => hts.fresh x hx (mem_visited.mpr (.inr hin))
  · intro s hs
    rw [show t :: ts = [t] ++ ts from rfl, Rose.allSubtrees_append, List.mem_append] at hs
    rcases hs with hs | hs
    · -- the root of the tree is loose, so that it is no child of one in the tree
      rw [ht.below s hs]
      congr 1
      refine List.filter_congr fun x hx => ?_
      have hne : id x ≠ id t.value := by
        intro heq
        have hsval := Rose.mem_preorder_of_mem hs
        obtain ⟨hxrow, hparent⟩ := (hp.mem_kids (ht.within _ hsval)).mp hx
        have hsame := hp.keyed.eq_of_key hxrow
          (ht.within t.value (Rose.mem_preorder_of_mem (Rose.mem_allSubtrees_of_mem List.mem_cons_self)))
          heq
        subst hsame
        exact ht.fresh s.value hsval
          (hloose t.value List.mem_cons_self s.value (ht.within _ hsval) hparent)
      rw [List.contains_cons, beq_false_of_ne hne, Bool.false_or]
    · -- a row of the first tree is no child of one in the others
      rw [hts.below s hs]
      congr 1
      refine List.filter_congr fun x hx => ?_
      have hsval := Rose.mem_preorder_of_mem hs
      obtain ⟨hxrow, hparent⟩ := (hp.mem_kids (hts.within _ hsval)).mp hx
      have hnot : ∀ y ∈ Rose.preorder [t], id y ≠ id x := by
        intro y hy heq
        have hsame := hp.keyed.eq_of_key (ht.within y hy) hxrow heq
        subst hsame
        rcases ht.hangs hp hy with hroot | ⟨z, hz, hzparent⟩
        · rw [List.map_cons, List.map_nil, List.mem_singleton] at hroot
          subst hroot
          exact hts.fresh s.value hsval (mem_visited.mpr
            (.inr (hloose t.value List.mem_cons_self s.value (hts.within _ hsval) hparent)))
        · rw [hparent, Option.some.injEq] at hzparent
          exact hpassed s.value hsval z hz hzparent.symm
      rw [Bool.eq_iff_iff]
      simp only [Bool.not_eq_true', ← Bool.not_eq_true, List.contains_iff_mem, mem_visited]
      exact ⟨fun h hin => h (.inr hin), fun h hin => hin.elim (fun ⟨y, hy, heq⟩ => hnot y hy heq) h⟩

/-- Loose rows are grown one after the other, none below another. -/
theorem growAll_grown (cs : List α) (hp : Pointers id parent rows kids sort)
    (htree : ∀ {row visited}, row ∈ rows → id row ∉ visited → unvisited id rows visited ≤ fuel →
      ∃ t, (grow id kids sort Rose.node fuel row).run visited =
          some (t, ((Rose.preorder [t]).map id).reverse ++ visited) ∧
        t.value = row ∧ Grown id rows kids sort visited (id row :: visited) [t])
    (hrows : ∀ c ∈ cs, c ∈ rows) (hnew : ∀ c ∈ cs, id c ∉ visited) (hkeyed : Keyed id cs)
    (hloose : ∀ c ∈ cs, Loose id parent rows visited c) (hfuel : unvisited id rows visited ≤ fuel) :
    ∃ ts, (growAll id kids sort Rose.node fuel cs).run visited =
        some (ts, ((Rose.preorder ts).map id).reverse ++ visited) ∧
      ts.map Rose.value = cs ∧ Grown id rows kids sort visited visited ts := by
  induction cs generalizing visited with
  | nil => exact ⟨[], by simp, rfl, by simp, by simp [Keyed], by simp, by simp⟩
  | cons c cs ih =>
    obtain ⟨t, hgrow, rfl, ht⟩ := htree (hrows c List.mem_cons_self) (hnew c List.mem_cons_self) hfuel
    obtain ⟨hfirst, hrest⟩ := List.nodup_cons.mp hkeyed
    have hfresh : ∀ d ∈ cs, id d ∉ ((Rose.preorder [t]).map id).reverse ++ visited := fun d hd =>
      ht.keeps_unvisited hp (hrows d (List.mem_cons_of_mem _ hd))
        (fun heq => hfirst (heq ▸ List.mem_map_of_mem hd)) (hloose d (List.mem_cons_of_mem _ hd))
        (hnew d (List.mem_cons_of_mem _ hd))
    obtain ⟨ts, hgrowAll, rfl, hts⟩ := ih (fun d hd => hrows d (List.mem_cons_of_mem _ hd)) hfresh hrest
      (fun d hd y hy hparent =>
        mem_visited.mpr (.inr (hloose d (List.mem_cons_of_mem _ hd) y hy hparent)))
      (Nat.le_trans (unvisited_mono fun k hk => mem_visited.mpr (.inr hk)) hfuel)
    refine ⟨t :: ts, ?_, rfl, ht.cons hp hts hloose⟩
    rw [growAll_cons, hgrow, Option.bind_some]
    dsimp only
    rw [hgrowAll, Option.map_some, show t :: ts = [t] ++ ts from rfl, Rose.preorder_append,
      List.map_append, List.reverse_append, List.append_assoc]

/-- **A row that is not visited grows into a tree**, and the walk returns. -/
theorem grow_grown (hp : Pointers id parent rows kids sort) (hrow : row ∈ rows) (hnew : id row ∉ visited)
    (hfuel : unvisited id rows visited ≤ fuel) :
    ∃ t, (grow id kids sort Rose.node fuel row).run visited =
        some (t, ((Rose.preorder [t]).map id).reverse ++ visited) ∧
      t.value = row ∧ Grown id rows kids sort visited (id row :: visited) [t] := by
  induction fuel generalizing row visited with
  | zero => exact absurd (unvisited_cons_lt hrow hnew) (by omega)
  | succ fuel ih =>
    set cs := sort ((kids row).filter fun child => !(id row :: visited).contains (id child)) with hcs
    have hmem : ∀ {c}, c ∈ cs ↔ (c ∈ rows ∧ parent c = some (id row)) ∧ id c ∉ id row :: visited := by
      intro c
      rw [hcs, (hp.sort_perm _).mem_iff, List.mem_filter, hp.mem_kids hrow]
      simp
    have hkeyed : Keyed id cs := List.Nodup.map_on
      (fun x hx y hy => hp.keyed.eq_of_key (hmem.mp hx).1.1 (hmem.mp hy).1.1)
      ((hp.sort_perm _).nodup_iff.mpr ((hp.nodup_kids row).filter _))
    obtain ⟨ts, hgrowAll, hvalues, hts⟩ := growAll_grown cs hp ih (fun c hc => (hmem.mp hc).1.1)
      (fun c hc => (hmem.mp hc).2) hkeyed
      (fun c hc y hy hparent => by
        rw [(hmem.mp hc).1.2, Option.some.injEq] at hparent
        exact hparent ▸ List.mem_cons_self)
      (by have := unvisited_cons_lt hrow hnew; omega)
    have hpreorder : Rose.preorder [Rose.node row ts] = row :: Rose.preorder ts := by
      simp [Rose.value, Rose.children]
    refine ⟨.node row ts, ?_, rfl, ?_, ?_, ?_, ?_⟩
    · rw [grow_succ, ← hcs, hgrowAll, Option.map_some, hpreorder, List.map_cons, List.reverse_cons,
        List.append_assoc]
      rfl
    · rw [hpreorder]
      intro x hx
      rcases List.mem_cons.mp hx with rfl | hx
      · exact hrow
      · exact hts.within x hx
    · rw [hpreorder]
      refine List.nodup_cons.mpr ⟨fun hin => ?_, hts.keyed⟩
      obtain ⟨x, hx, heq⟩ := List.mem_map.mp hin
      exact hts.fresh x hx (heq ▸ List.mem_cons_self)
    · rw [hpreorder]
      intro x hx
      rcases List.mem_cons.mp hx with rfl | hx
      · exact hnew
      · exact fun hin => hts.fresh x hx (List.mem_cons_of_mem _ hin)
    · intro s hs
      rw [Rose.allSubtrees_cons, Rose.allSubtrees_nil, List.append_nil, List.mem_cons] at hs
      rcases hs with rfl | hs
      · exact hvalues
      · exact hts.below s hs

/-! ## The forest -/

/-- Trees in which every row stands once, and below each row those that point at it, but for the
roots. -/
structure Forest (id : α → K) (rows : List α) (kids : α → List α) (sort : List α → List α)
    (ts : List (Rose α)) : Prop where
  within : ∀ x ∈ Rose.preorder ts, x ∈ rows
  keyed : Keyed id (Rose.preorder ts)
  below : ∀ t ∈ Rose.allSubtrees ts, t.children.map Rose.value =
    sort ((kids t.value).filter fun x => !(ts.map fun root => id root.value).contains (id x))

/-- The trees of rows whose parent is no row. -/
theorem Grown.forest (hp : Pointers id parent rows kids sort) (h : Grown id rows kids sort [] [] ts)
    (hloose : ∀ c ∈ ts.map Rose.value, Loose id parent rows [] c) : Forest id rows kids sort ts where
  within := h.within
  keyed := h.keyed
  below := by
    intro t ht
    rw [h.below t ht]
    congr 1
    refine List.filter_congr fun x hx => ?_
    have hval := h.within _ (Rose.mem_preorder_of_mem ht)
    obtain ⟨hxrow, hparent⟩ := (hp.mem_kids hval).mp hx
    rw [Bool.eq_iff_iff]
    simp only [Bool.not_eq_true', ← Bool.not_eq_true, List.contains_iff_mem, List.not_mem_nil,
      not_false_eq_true, true_iff, List.mem_map, not_exists, not_and]
    intro root hroot heq
    have hsame := hp.keyed.eq_of_key
      (h.within _ (Rose.mem_preorder_of_mem (Rose.mem_allSubtrees_of_mem hroot))) hxrow heq
    have hnone := hloose x (hsame ▸ List.mem_map_of_mem hroot) t.value hval hparent
    cases hnone

/-- One more tree, of a row no tree has. -/
theorem Forest.snoc {t : Rose α} (hp : Pointers id parent rows kids sort) (h : Forest id rows kids sort ts)
    (hvisited : ∀ k, k ∈ visited ↔ ∃ x ∈ Rose.preorder ts, id x = k)
    (ht : Grown id rows kids sort visited (id t.value :: visited) [t]) :
    Forest id rows kids sort (ts ++ [t]) := by
  have hroot : t.value ∈ Rose.preorder [t] :=
    Rose.mem_preorder_of_mem (Rose.mem_allSubtrees_of_mem List.mem_cons_self)
  constructor
  · intro x hx
    rw [Rose.preorder_append, List.mem_append] at hx
    exact hx.elim (h.within x) (ht.within x)
  · rw [Rose.preorder_append]
    exact h.keyed.append ht.keyed fun y hy x hx heq => ht.fresh x hx ((hvisited _).mpr ⟨y, hy, heq⟩)
  · intro s hs
    rw [Rose.allSubtrees_append, List.mem_append] at hs
    rcases hs with hs | hs
    · -- the new root is no child of a row that was passed
      rw [h.below s hs]
      congr 1
      refine List.filter_congr fun x hx => ?_
      have hne : id x ∈ (ts.map fun root => id root.value) ∨ id x ≠ id t.value := by
        by_cases hin : id x ∈ ts.map fun root => id root.value
        · exact .inl hin
        · refine .inr fun heq => ht.fresh t.value hroot ((hvisited _).mpr ⟨x, ?_, heq⟩)
          refine Rose.mem_preorder_of_child hs ?_
          rw [h.below s hs, (hp.sort_perm _).mem_iff, List.mem_filter]
          exact ⟨hx, by simpa using hin⟩
      rw [Bool.eq_iff_iff, List.map_append, List.map_cons, List.map_nil]
      simp only [Bool.not_eq_true', ← Bool.not_eq_true, List.contains_iff_mem, List.mem_append,
        List.mem_singleton, not_or]
      exact ⟨fun hin => ⟨hin, hne.resolve_left hin⟩, fun hin => hin.1⟩
    · -- a row that was passed and points into the tree is a root
      rw [ht.below s hs]
      congr 1
      refine List.filter_congr fun x hx => ?_
      obtain ⟨hxrow, hparent⟩ := (hp.mem_kids (ht.within _ (Rose.mem_preorder_of_mem hs))).mp hx
      have hpassed : id x ∈ visited ↔ id x ∈ ts.map fun root => id root.value := by
        constructor
        · intro hin
          obtain ⟨y, hy, heq⟩ := (hvisited _).mp hin
          have hsame := hp.keyed.eq_of_key (h.within y hy) hxrow heq
          subst hsame
          rcases Rose.mem_preorder_cases hy with hvalue | ⟨u, hu, hchild⟩
          · obtain ⟨root, hmem, rfl⟩ := List.mem_map.mp hvalue
            exact List.mem_map.mpr ⟨root, hmem, rfl⟩
          · rw [h.below u hu, (hp.sort_perm _).mem_iff, List.mem_filter,
              hp.mem_kids (h.within _ (Rose.mem_preorder_of_mem hu)), hparent, Option.some.injEq] at hchild
            exact absurd ((hvisited _).mpr ⟨u.value, Rose.mem_preorder_of_mem hu, hchild.1.2.symm⟩)
              (ht.fresh s.value (Rose.mem_preorder_of_mem hs))
        · intro hin
          obtain ⟨root, hmem, heq⟩ := List.mem_map.mp hin
          exact (hvisited _).mpr
            ⟨root.value, Rose.mem_preorder_of_mem (Rose.mem_allSubtrees_of_mem hmem), heq⟩
      rw [Bool.eq_iff_iff, List.map_append, List.map_cons, List.map_nil]
      simp only [Bool.not_eq_true', ← Bool.not_eq_true, List.contains_iff_mem, List.mem_append,
        List.mem_cons, List.not_mem_nil, or_false, not_or, hpassed]
      exact and_comm

/-- Growing what no tree has yet. -/
theorem growRest_forest (order : List α) (hp : Pointers id parent rows kids sort)
    (h : Forest id rows kids sort ts) (hvisited : ∀ k, k ∈ visited ↔ ∃ x ∈ Rose.preorder ts, id x = k)
    (horder : ∀ x ∈ order, x ∈ rows) (hfuel : rows.length ≤ fuel) :
    ∃ us visited', (growRest id kids sort Rose.node fuel order).run visited = some (us, visited') ∧
      Forest id rows kids sort (ts ++ us) ∧ (∀ x ∈ order, x ∈ Rose.preorder (ts ++ us)) ∧
      ∀ u ∈ us, u.value ∈ rows ∧ u.value ∉ Rose.preorder ts := by
  induction order generalizing ts visited with
  | nil => exact ⟨[], visited, by simp, by simpa using h, by simp, by simp⟩
  | cons row order ih =>
    have hrow := horder row List.mem_cons_self
    have hrest : ∀ x ∈ order, x ∈ rows := fun x hx => horder x (List.mem_cons_of_mem _ hx)
    by_cases hin : id row ∈ visited
    · obtain ⟨us, visited', hgrow, hforest, hall, hnew⟩ := ih h hvisited hrest
      refine ⟨us, visited', by rw [growRest_cons_of_mem hin, hgrow], hforest, ?_, hnew⟩
      intro x hx
      rcases List.mem_cons.mp hx with rfl | hx
      · obtain ⟨y, hy, heq⟩ := (hvisited _).mp hin
        have hsame := hp.keyed.eq_of_key (h.within y hy) hrow heq
        subst hsame
        rw [Rose.preorder_append]
        exact List.mem_append_left _ hy
      · exact hall x hx
    · have hroom : unvisited id rows visited ≤ fuel :=
        Nat.le_trans List.filter_sublist.length_le hfuel
      obtain ⟨t, hgrow, rfl, ht⟩ := grow_grown hp hrow hin hroom
      have hsnoc := h.snoc hp hvisited ht
      have hvisited' : ∀ k, k ∈ ((Rose.preorder [t]).map id).reverse ++ visited ↔
          ∃ x ∈ Rose.preorder (ts ++ [t]), id x = k := by
        intro k
        rw [mem_visited, hvisited, Rose.preorder_append]
        simp only [List.mem_append, or_and_right, exists_or]
        exact or_comm
      obtain ⟨us, visited'', hrun, hforest, hall, hnew⟩ := ih hsnoc hvisited' hrest
      rw [List.append_assoc, List.singleton_append] at hforest hall
      refine ⟨t :: us, visited'', ?_, hforest, ?_, ?_⟩
      · rw [growRest_cons_of_not_mem hin, hgrow, Option.bind_some]
        dsimp only
        rw [hrun, Option.map_some]
      · intro x hx
        rcases List.mem_cons.mp hx with rfl | hx
        · exact Rose.mem_preorder_of_mem (Rose.mem_allSubtrees_of_mem (by simp))
        · exact hall x hx
      · intro u hu
        rcases List.mem_cons.mp hu with rfl | hu
        · exact ⟨hrow, fun hpassed => hin ((hvisited _).mpr ⟨_, hpassed, rfl⟩)⟩
        · refine ⟨(hnew u hu).1, fun hpassed => (hnew u hu).2 ?_⟩
          rw [Rose.preorder_append]
          exact List.mem_append_left _ hpassed

/-- Where no root has a parent, below each row stand all that point at it. -/
theorem Forest.below_all (hp : Pointers id parent rows kids sort) (h : Forest id rows kids sort ts)
    (hroots : ∀ root ∈ ts, ∀ y ∈ rows, parent root.value ≠ some (id y)) {t : Rose α}
    (ht : t ∈ Rose.allSubtrees ts) : t.children.map Rose.value = sort (kids t.value) := by
  rw [h.below t ht, List.filter_eq_self.mpr]
  intro x hx
  have hval := h.within _ (Rose.mem_preorder_of_mem ht)
  obtain ⟨hxrow, hparent⟩ := (hp.mem_kids hval).mp hx
  simp only [Bool.not_eq_true', ← Bool.not_eq_true, List.contains_iff_mem, List.mem_map, not_exists, not_and]
  intro root hroot heq
  have hsame := hp.keyed.eq_of_key
    (h.within _ (Rose.mem_preorder_of_mem (Rose.mem_allSubtrees_of_mem hroot))) hxrow heq
  exact hroots root hroot t.value hval (hsame ▸ hparent)

/-- No row is above itself. -/
def AcyclicRows (id : α → K) (parent : α → Option K) (rows : List α) : Prop :=
  ∀ x, ¬Relation.TransGen (fun x y => (x ∈ rows ∧ y ∈ rows) ∧ parent x = some (id y)) x x

/-- **Every list of rows grows into a forest**: first the rows whose parent is no row, and then those
that no tree has, which are on a cycle or below one. -/
theorem exists_forest (roots order : List α) (hp : Pointers id parent rows kids sort)
    (hroots : ∀ x, x ∈ roots ↔ x ∈ rows ∧ ∀ y ∈ rows, parent x ≠ some (id y)) (hnodup : roots.Nodup)
    (horder : ∀ x, x ∈ order ↔ x ∈ rows) (hfuel : rows.length ≤ fuel) :
    ∃ ts us visited', (growAll id kids sort Rose.node fuel roots).run [] =
        some (ts, ((Rose.preorder ts).map id).reverse) ∧
      (growRest id kids sort Rose.node fuel order).run ((Rose.preorder ts).map id).reverse =
        some (us, visited') ∧
      ts.map Rose.value = roots ∧ Forest id rows kids sort (ts ++ us) ∧
      (Rose.preorder (ts ++ us)).Perm rows ∧ (AcyclicRows id parent rows → us = []) := by
  have hloose : ∀ c ∈ roots, Loose id parent rows [] c := fun c hc y hy hparent =>
    absurd hparent (((hroots c).mp hc).2 y hy)
  have hroom : unvisited id rows [] ≤ fuel := Nat.le_trans List.filter_sublist.length_le hfuel
  obtain ⟨ts, hgrow, hvalues, hts⟩ := growAll_grown roots hp
    (fun hrow hnew hroom => grow_grown hp hrow hnew hroom) (fun c hc => ((hroots c).mp hc).1)
    (fun c _ => List.not_mem_nil)
    (List.Nodup.map_on (fun x hx y hy => hp.keyed.eq_of_key ((hroots x).mp hx).1 ((hroots y).mp hy).1)
      hnodup) hloose hroom
  rw [List.append_nil] at hgrow
  have hforest := hts.forest hp (hvalues ▸ hloose)
  have hvisited : ∀ k, k ∈ ((Rose.preorder ts).map id).reverse ↔ ∃ x ∈ Rose.preorder ts, id x = k := by
    simp
  obtain ⟨us, visited', hrest, hwhole, hall, hnew⟩ :=
    growRest_forest order hp hforest hvisited (fun x hx => (horder x).mp hx) hfuel
  refine ⟨ts, us, visited', hgrow, hrest, hvalues, hwhole, ?_, ?_⟩
  · refine (List.perm_ext_iff_of_nodup hwhole.keyed.of_map hp.keyed.of_map).mpr fun x => ?_
    exact ⟨hwhole.within x, fun hx => hall x ((horder x).mpr hx)⟩
  · -- from the roots down, every row is passed
    intro hacyclic
    have hpassed : ∀ x ∈ {x | x ∈ rows}, x ∈ Rose.preorder ts := by
      refine acyclic_induction (List.finite_toSet rows) hacyclic fun x hx ih => ?_
      by_cases hroot : x ∈ roots
      · obtain ⟨t, ht, rfl⟩ := List.mem_map.mp (hvalues ▸ hroot)
        exact Rose.mem_preorder_of_mem (Rose.mem_allSubtrees_of_mem ht)
      · have hparent : ∃ y ∈ rows, parent x = some (id y) := by
          by_contra hnone
          refine hroot ((hroots x).mpr ⟨hx, fun y hy heq => hnone ⟨y, hy, heq⟩⟩)
        obtain ⟨y, hy, hparent⟩ := hparent
        obtain ⟨t, ht, rfl⟩ := Rose.mem_preorder.mp (ih y hy ⟨⟨hx, hy⟩, hparent⟩)
        refine Rose.mem_preorder_of_child ht ?_
        rw [hts.below t ht, (hp.sort_perm _).mem_iff, List.mem_filter, hp.mem_kids hy]
        exact ⟨⟨hx, hparent⟩, by simp⟩
    cases us with
    | nil => rfl
    | cons u us => exact absurd (hpassed _ (hnew u List.mem_cons_self).1) (hnew u List.mem_cons_self).2

end Grown
