import Unitae.Base.PointerTree

/-!
# Walking parent pointers in preorder

The walk that checks a row when it arrives there, instead of before the row's siblings are entered, and
lists what it passes. It passes the rows of the forest that `grow` makes, in the same order
(`walkForest_eq`): a row that is not visited when its siblings are chosen is not visited when its turn
comes either, because only its parent leads to it.
-/

section Visit

variable {α K : Type} [DecidableEq K]

/-- List the row, mark it, and go on with its children, unless it is marked. -/
def visit (id : α → K) (kids : α → List α) (sort : List α → List α) :
    Nat → α → StateT (List α × List K) Option Unit
  | 0, _ => failure
  | fuel + 1, row => do
    let (preorder, visited) ← get
    if visited.contains (id row) then return ()
    else
      set (preorder ++ [row], id row :: visited)
      (sort (kids row)).forM (visit id kids sort fuel)

variable {id : α → K} {parent : α → Option K} {rows ds : List α} {kids : α → List α}
  {sort : List α → List α} {fuel : Nat} {row : α} {listed : List α} {visited : List K}

theorem visit_of_mem (h : id row ∈ visited) :
    (visit id kids sort (fuel + 1) row).run (listed, visited) = some ((), listed, visited) := by
  simp [visit, h]

theorem visit_of_not_mem (h : id row ∉ visited) :
    (visit id kids sort (fuel + 1) row).run (listed, visited) =
      ((sort (kids row)).forM (visit id kids sort fuel)).run (listed ++ [row], id row :: visited) := by
  simp [visit, h]

omit [DecidableEq K] in
theorem run_forM_cons {f : α → StateT (List α × List K) Option Unit} {s : List α × List K} :
    ((row :: rows).forM f).run s = ((f row).run s).bind fun (_, s') => (rows.forM f).run s' := by
  show (f row >>= fun _ => rows.forM f).run s = _
  rw [StateT.run_bind]
  rfl

/-- The walk over rows passes what growing those of them that are not visited makes. -/
theorem visitAll_grown (ds listed : List α) (visited : List K) (hp : Pointers id parent rows kids sort)
    (hmarked : ∀ {row listed visited}, id row ∈ visited → unvisited id rows visited ≤ fuel →
      (visit id kids sort (fuel + 1) row).run (listed, visited) = some ((), listed, visited))
    (htree : ∀ {row visited} listed, row ∈ rows → id row ∉ visited → unvisited id rows visited ≤ fuel →
      ∃ t, (grow id kids sort Rose.node fuel row).run visited =
          some (t, ((Rose.preorder [t]).map id).reverse ++ visited) ∧
        (visit id kids sort (fuel + 1) row).run (listed, visited) =
          some ((), listed ++ Rose.preorder [t], ((Rose.preorder [t]).map id).reverse ++ visited))
    (hrows : ∀ d ∈ ds, d ∈ rows) (hkeyed : Keyed id ds)
    (hloose : ∀ d ∈ ds, id d ∉ visited → Loose id parent rows visited d)
    (hfuel : unvisited id rows visited ≤ fuel) :
    ∃ ts, (growAll id kids sort Rose.node fuel (ds.filter fun d => !visited.contains (id d))).run visited =
        some (ts, ((Rose.preorder ts).map id).reverse ++ visited) ∧
      (ds.forM (visit id kids sort (fuel + 1))).run (listed, visited) =
        some ((), listed ++ Rose.preorder ts, ((Rose.preorder ts).map id).reverse ++ visited) := by
  induction ds generalizing listed visited with
  | nil => exact ⟨[], by simp, by simp⟩
  | cons d ds ih =>
    obtain ⟨hfirst, hrest⟩ := List.nodup_cons.mp hkeyed
    have hrows' : ∀ e ∈ ds, e ∈ rows := fun e he => hrows e (List.mem_cons_of_mem _ he)
    by_cases hd : id d ∈ visited
    · obtain ⟨ts, hgrow, hvisit⟩ := ih listed visited hrows' hrest
        (fun e he => hloose e (List.mem_cons_of_mem _ he)) hfuel
      refine ⟨ts, ?_, ?_⟩
      · rw [List.filter_cons_of_neg (by simpa using hd), hgrow]
      · rw [run_forM_cons, hmarked hd hfuel, Option.bind_some]
        exact hvisit
    · obtain ⟨t, hgrow, hvisit⟩ := htree listed (hrows d List.mem_cons_self) hd hfuel
      obtain ⟨t', hgrow', rfl, ht⟩ := grow_grown hp (hrows d List.mem_cons_self) hd hfuel
      rw [hgrow, Option.some.injEq, Prod.mk.injEq] at hgrow'
      obtain ⟨rfl, -⟩ := hgrow'
      -- a row after it, not visited before, is not visited now
      have hsame : ∀ e ∈ ds, (id e ∈ ((Rose.preorder [t]).map id).reverse ++ visited ↔ id e ∈ visited) := by
        intro e he
        refine ⟨fun hin => ?_, fun hold => mem_visited.mpr (.inr hold)⟩
        by_contra hnew
        exact ht.keeps_unvisited hp (hrows' e he) (fun heq => hfirst (heq ▸ List.mem_map_of_mem he))
          (hloose e (List.mem_cons_of_mem _ he) hnew) hnew hin
      obtain ⟨ts, hgrowAll, hvisitAll⟩ := ih (listed ++ Rose.preorder [t]) _ hrows' hrest
        (fun e he hnew y hy hparent => mem_visited.mpr (.inr (hloose e (List.mem_cons_of_mem _ he)
          (fun hold => hnew ((hsame e he).mpr hold)) y hy hparent)))
        (Nat.le_trans (unvisited_mono fun k hk => mem_visited.mpr (.inr hk)) hfuel)
      have hfilter : ds.filter (fun e => !(((Rose.preorder [t]).map id).reverse ++ visited).contains (id e)) =
          ds.filter fun e => !visited.contains (id e) := by
        refine List.filter_congr fun e he => ?_
        rw [Bool.eq_iff_iff]
        simp only [Bool.not_eq_true', ← Bool.not_eq_true, List.contains_iff_mem, hsame e he]
      have hsplit : Rose.preorder (t :: ts) = Rose.preorder [t] ++ Rose.preorder ts :=
        Rose.preorder_append [t] ts
      refine ⟨t :: ts, ?_, ?_⟩
      · rw [List.filter_cons_of_pos (by simpa using hd), growAll_cons, hgrow, Option.bind_some]
        dsimp only
        rw [← hfilter, hgrowAll, Option.map_some, hsplit, List.map_append, List.reverse_append,
          List.append_assoc]
      · rw [run_forM_cons, hvisit, Option.bind_some]
        dsimp only
        rw [hvisitAll, hsplit, List.map_append, List.reverse_append, List.append_assoc, List.append_assoc]

/-- **The walk from a row passes the row's tree.** -/
theorem visit_grown (listed : List α) (hp : Pointers id parent rows kids sort)
    (hsort : ∀ (p : α → Bool) l, sort (l.filter p) = (sort l).filter p) (hrow : row ∈ rows)
    (hnew : id row ∉ visited) (hfuel : unvisited id rows visited ≤ fuel) :
    ∃ t, (grow id kids sort Rose.node fuel row).run visited =
        some (t, ((Rose.preorder [t]).map id).reverse ++ visited) ∧
      (visit id kids sort (fuel + 1) row).run (listed, visited) =
        some ((), listed ++ Rose.preorder [t], ((Rose.preorder [t]).map id).reverse ++ visited) := by
  induction fuel generalizing row listed visited with
  | zero => exact absurd (unvisited_cons_lt hrow hnew) (by omega)
  | succ fuel ih =>
    have hkids : ∀ {c}, c ∈ sort (kids row) ↔ c ∈ rows ∧ parent c = some (id row) := by
      intro c
      rw [(hp.sort_perm _).mem_iff, hp.mem_kids hrow]
    have hkeyed : Keyed id (sort (kids row)) := List.Nodup.map_on
      (fun x hx y hy => hp.keyed.eq_of_key (hkids.mp hx).1 (hkids.mp hy).1)
      ((hp.sort_perm _).nodup_iff.mpr (hp.nodup_kids row))
    obtain ⟨ts, hgrow, hvisit⟩ := visitAll_grown (sort (kids row)) (listed ++ [row])
      (id row :: visited) hp (fun hin _ => visit_of_mem hin)
      (fun listed hrow hnew hroom => ih listed hrow hnew hroom)
      (fun c hc => (hkids.mp hc).1) hkeyed
      (fun c hc _ y hy hparent => by
        rw [(hkids.mp hc).2, Option.some.injEq] at hparent
        exact hparent ▸ List.mem_cons_self)
      (by have := unvisited_cons_lt hrow hnew; omega)
    have hpreorder : Rose.preorder [Rose.node row ts] = row :: Rose.preorder ts := by
      simp [Rose.value, Rose.children]
    refine ⟨.node row ts, ?_, ?_⟩
    · rw [grow_succ, hsort, hgrow, Option.map_some, hpreorder, List.map_cons, List.reverse_cons,
        List.append_assoc]
      rfl
    · rw [visit_of_not_mem hnew, hvisit, hpreorder, List.map_cons, List.reverse_cons, List.append_assoc,
        List.append_assoc]
      rfl

/-- The walk over any rows passes what growing the rest of them makes. -/
theorem visitRest_grown (ds listed : List α) (visited : List K) (hp : Pointers id parent rows kids sort)
    (hsort : ∀ (p : α → Bool) l, sort (l.filter p) = (sort l).filter p) (hrows : ∀ d ∈ ds, d ∈ rows)
    (hfuel : rows.length ≤ fuel) :
    ∃ us visited', (growRest id kids sort Rose.node fuel ds).run visited = some (us, visited') ∧
      (ds.forM (visit id kids sort (fuel + 1))).run (listed, visited) =
        some ((), listed ++ Rose.preorder us, visited') := by
  induction ds generalizing listed visited with
  | nil => exact ⟨[], visited, by simp, by simp⟩
  | cons d ds ih =>
    have hrest : ∀ e ∈ ds, e ∈ rows := fun e he => hrows e (List.mem_cons_of_mem _ he)
    by_cases hd : id d ∈ visited
    · obtain ⟨us, visited', hgrow, hvisit⟩ := ih listed visited hrest
      refine ⟨us, visited', by rw [growRest_cons_of_mem hd, hgrow], ?_⟩
      rw [run_forM_cons, visit_of_mem hd, Option.bind_some]
      exact hvisit
    · obtain ⟨t, hgrow, hvisit⟩ := visit_grown listed hp hsort (hrows d List.mem_cons_self) hd
        (Nat.le_trans List.filter_sublist.length_le hfuel)
      obtain ⟨us, visited', hgrowRest, hvisitRest⟩ := ih (listed ++ Rose.preorder [t])
        (((Rose.preorder [t]).map id).reverse ++ visited) hrest
      refine ⟨t :: us, visited', ?_, ?_⟩
      · rw [growRest_cons_of_not_mem hd, hgrow, Option.bind_some]
        dsimp only
        rw [hgrowRest, Option.map_some]
      · rw [run_forM_cons, hvisit, Option.bind_some]
        dsimp only
        rw [hvisitRest, List.append_assoc, ← Rose.preorder_append]
        rfl

/-- **The walk over the roots and then over all rows lists the forest in preorder.** -/
theorem walkForest_eq {roots order : List α} {ts us : List (Rose α)} {visited' : List K}
    (hp : Pointers id parent rows kids sort)
    (hsort : ∀ (p : α → Bool) l, sort (l.filter p) = (sort l).filter p)
    (hroots : ∀ x, x ∈ roots ↔ x ∈ rows ∧ ∀ y ∈ rows, parent x ≠ some (id y)) (hnodup : roots.Nodup)
    (horder : ∀ x, x ∈ order ↔ x ∈ rows) (hfuel : rows.length ≤ fuel)
    (hgrow : (growAll id kids sort Rose.node fuel roots).run [] = some (ts, visited))
    (hrest : (growRest id kids sort Rose.node fuel order).run visited = some (us, visited')) :
    ∃ s, (roots.forM (visit id kids sort (fuel + 1))).run ([], []) = some ((), s) ∧
      (order.forM (visit id kids sort (fuel + 1))).run s = some ((), Rose.preorder (ts ++ us), visited') := by
  obtain ⟨ts', hgrow', hvisit⟩ := visitAll_grown roots [] [] hp
    (fun hin _ => visit_of_mem hin) (fun listed hrow hnew hroom => visit_grown listed hp hsort hrow hnew hroom)
    (fun d hd => ((hroots d).mp hd).1)
    (List.Nodup.map_on (fun x hx y hy => hp.keyed.eq_of_key ((hroots x).mp hx).1 ((hroots y).mp hy).1)
      hnodup)
    (fun d hd _ y hy hparent => absurd hparent (((hroots d).mp hd).2 y hy))
    (Nat.le_trans List.filter_sublist.length_le hfuel)
  rw [List.filter_eq_self.mpr (by simp), hgrow, Option.some.injEq, Prod.mk.injEq] at hgrow'
  obtain ⟨rfl, rfl⟩ := hgrow'
  obtain ⟨us', visited'', hgrowRest, hvisitRest⟩ := visitRest_grown order
    ([] ++ Rose.preorder ts) (((Rose.preorder ts).map id).reverse ++ []) hp hsort
    (fun d hd => (horder d).mp hd) hfuel
  rw [hrest, Option.some.injEq, Prod.mk.injEq] at hgrowRest
  obtain ⟨rfl, rfl⟩ := hgrowRest
  refine ⟨_, hvisit, ?_⟩
  rw [hvisitRest, List.nil_append, ← Rose.preorder_append]

end Visit
