import Unitae.Roles.ChartTree
import Unitae.Roles.Organigram

/-!
# Unitae — moving a node among its siblings (`organigram.server.ts`)

`moveOrganigramNode` orders the siblings by `organigramOrder` alone, in the order the database returns
those it does not tell apart; the chart orders them by `compareRoles`, which goes on to their names.
`moveAgrees_iff` is when the move swaps what the chart shows.
-/

/-! ## A row and its neighbour -/

namespace Unitae.Roles

section Adjacent

variable {α β : Type} {direction : MoveDirection} {x n n' : α} {before after before' after' l : List α}

def MoveDirection.opposite : MoveDirection → MoveDirection
  | .up => .down
  | .down => .up

/-- Which of two neighbours moves past the other. -/
def MoveDirection.mover (direction : MoveDirection) (a b : α) : α :=
  match direction with
  | .up => b
  | .down => a

/-- A list in which a row has a neighbour in a direction. -/
def adjacent (direction : MoveDirection) (x n : α) (before after : List α) : List α :=
  match direction with
  | .up => before ++ n :: x :: after
  | .down => before ++ x :: n :: after

/-- The row is the list's last in a direction. -/
def AtEnd (direction : MoveDirection) (x : α) (l : List α) : Prop :=
  match direction with
  | .up => l.head? = some x
  | .down => l.getLast? = some x

instance decidableAtEnd [DecidableEq α] (direction : MoveDirection) (x : α) (l : List α) :
    Decidable (AtEnd direction x l) :=
  match direction with
  | .up => inferInstanceAs (Decidable (l.head? = some x))
  | .down => inferInstanceAs (Decidable (l.getLast? = some x))

theorem map_adjacent (direction : MoveDirection) (f : α → β) : (adjacent direction x n before after).map f =
    adjacent direction (f x) (f n) (before.map f) (after.map f) := by
  cases direction <;> simp [adjacent]

theorem adjacent_opposite_perm :
    (adjacent direction.opposite x n before after).Perm (adjacent direction x n before after) := by
  cases direction
  · exact (List.Perm.swap n x after).append_left before
  · exact (List.Perm.swap x n after).append_left before

/-- A row is at the end, or it has a neighbour. -/
theorem atEnd_or_adjacent (direction : MoveDirection) (hx : x ∈ l) :
    AtEnd direction x l ∨ ∃ n before after, l = adjacent direction x n before after := by
  obtain ⟨before, after, rfl⟩ := List.append_of_mem hx
  cases direction with
  | up =>
    rcases List.eq_nil_or_concat before with rfl | ⟨front, n, rfl⟩
    · exact .inl rfl
    · exact .inr ⟨n, front, after, by simp [adjacent]⟩
  | down =>
    cases after with
    | nil => exact .inl (by simp [AtEnd])
    | cons n rest => exact .inr ⟨n, before, rest, rfl⟩

/-- The place of a row in a list without repetitions. -/
theorem append_cons_inj_of_nodup (hnodup : (before ++ x :: after).Nodup)
    (h : before ++ x :: after = before' ++ x :: after') : before = before' ∧ after = after' := by
  obtain ⟨-, hxafter, hout⟩ := List.nodup_append.mp hnodup
  have hinj := (List.append_cons_inj_of_notMem (fun hin => hout x hin x List.mem_cons_self rfl)
    (List.nodup_cons.mp hxafter).1).mp h
  exact ⟨hinj.1, hinj.2.2⟩

/-- A row has one neighbour. -/
theorem adjacent_inj (hnodup : (adjacent direction x n before after).Nodup)
    (h : adjacent direction x n before after = adjacent direction x n' before' after') :
    n = n' ∧ before = before' ∧ after = after' := by
  cases direction with
  | up =>
    have hparts : (before ++ [n]) ++ x :: after = (before' ++ [n']) ++ x :: after' := by
      simpa [adjacent] using h
    obtain ⟨hfront, rfl⟩ := append_cons_inj_of_nodup (by simpa [adjacent] using hnodup) hparts
    obtain ⟨rfl, hlast⟩ := List.append_inj' hfront rfl
    exact ⟨List.cons.inj hlast |>.1, rfl, rfl⟩
  | down =>
    obtain ⟨rfl, hback⟩ := append_cons_inj_of_nodup hnodup h
    obtain ⟨rfl, rfl⟩ := List.cons.inj hback
    exact ⟨rfl, rfl, rfl⟩

theorem opposite_opposite : direction.opposite.opposite = direction := by cases direction <;> rfl

/-- The swap can be read back. -/
theorem adjacent_opposite_inj (hnodup : (adjacent direction x n before after).Nodup)
    (h : adjacent direction.opposite x n before after = adjacent direction.opposite x n' before' after') :
    adjacent direction x n before after = adjacent direction x n' before' after' := by
  obtain ⟨rfl, rfl, rfl⟩ := adjacent_inj (adjacent_opposite_perm.nodup_iff.mpr hnodup) h
  rfl

/-- A row with a neighbour in a direction is not the last in it. -/
theorem not_atEnd_adjacent (hnodup : (adjacent direction x n before after).Nodup) :
    ¬AtEnd direction x (adjacent direction x n before after) := by
  intro hend
  cases direction with
  | up =>
    cases before with
    | nil =>
      have hn : n = x := by simpa [AtEnd, adjacent] using hend
      exact (List.nodup_cons.mp hnodup).1 (hn ▸ List.mem_cons_self)
    | cons y before =>
      have hy : y = x := by simpa [AtEnd, adjacent] using hend
      exact (List.nodup_cons.mp hnodup).1 (hy ▸ by simp)
  | down =>
    have hlast : x ∈ (n :: after).getLast? := by
      have hsplit := hend
      simp only [AtEnd, adjacent, List.getLast?_append_cons, List.getLast?_cons_cons] at hsplit
      exact hsplit
    have hin : x ∈ n :: after := List.mem_of_getLast? hlast
    exact (List.nodup_cons.mp (List.nodup_append.mp hnodup).2.1).1 hin

/-- A swap changes the row. -/
theorem adjacent_ne_opposite (hnodup : (adjacent direction x n before after).Nodup) :
    adjacent direction x n before after ≠ adjacent direction.opposite x n before after := by
  intro heq
  cases direction with
  | up =>
    have hhead := List.cons.inj (List.append_cancel_left heq)
    exact (List.nodup_cons.mp (List.nodup_append.mp hnodup).2.1).1 (hhead.1 ▸ List.mem_cons_self)
  | down =>
    have hhead := List.cons.inj (List.append_cancel_left heq)
    exact (List.nodup_cons.mp (List.nodup_append.mp hnodup).2.1).1 (hhead.1 ▸ List.mem_cons_self)

/-- A row and one that stands on a side of it. -/
def facing (direction : MoveDirection) (x n : α) : List α := adjacent direction x n [] []

theorem atEnd_iff (hnodup : l.Nodup) (hx : x ∈ l) :
    AtEnd direction x l ↔ ∀ n, ¬(facing direction x n).Sublist l := by
  constructor
  · intro hend n hsub
    cases direction with
    | up =>
      obtain ⟨rest, rfl⟩ := List.head?_eq_some_iff.mp hend
      have hin : x ∈ rest := by
        have htail := hsub.tail
        exact htail.subset List.mem_cons_self
      exact (List.nodup_cons.mp hnodup).1 hin
    | down =>
      obtain ⟨front, rfl⟩ := List.getLast?_eq_some_iff.mp hend
      have hin : x ∈ front := by
        have hrev := hsub.reverse
        rw [List.reverse_append] at hrev
        exact List.mem_reverse.mp (hrev.tail.subset List.mem_cons_self)
      exact (List.nodup_append.mp hnodup).2.2 x hin x List.mem_cons_self rfl
  · intro hnone
    rcases atEnd_or_adjacent direction hx with hend | ⟨n, before, after, rfl⟩
    · exact hend
    · refine absurd ?_ (hnone n)
      cases direction
      · exact List.sublist_append_of_sublist_right (by simp [facing, adjacent])
      · exact List.sublist_append_of_sublist_right (by simp [facing, adjacent])

end Adjacent

/-! ## What the chart shows of the siblings -/

/-- The row of a role in the chart. -/
def Role.organigramRole (note : Option String) (r : Role) : OrganigramRole where
  id := r.id
  key := r.key
  name := r.name
  isBuiltIn := r.isBuiltIn
  parentRoleId := r.parentRoleId
  organigramOrder := r.organigramOrder
  organigramNote := note
  isSinglePerson := r.isSinglePerson

/-- The rows `getOrganigram` reads; the notes are in a column that no service here uses. -/
def RoleDb.chartRows (notes : Nat → Option String) (db : RoleDb) : List OrganigramRole :=
  (db.roles.filter (·.showInOrganigram)).map fun r => r.organigramRole (notes r.id)

def compareShown (locale : ChartLocale) (a b : Role) : Ordering :=
  compareRoles locale (a.organigramRole none) (b.organigramRole none)

/-- `a.organigramOrder ?? 0`. -/
def Role.order (r : Role) : Int := r.organigramOrder.getD 0

/-- The siblings under a parent, as the chart lists them. -/
def RoleDb.shownSiblings (locale : ChartLocale) (parentRoleId : Option Nat) (db : RoleDb) : List Role :=
  sortBy (compareShown locale) (db.siblingsUnder parentRoleId)

def RoleDb.shownIds (locale : ChartLocale) (parentRoleId : Option Nat) (db : RoleDb) : List Nat :=
  (db.shownSiblings locale parentRoleId).map (·.id)

/-- The siblings under a parent, as a move lists them. -/
def RoleDb.orderedSiblings (parentRoleId : Option Nat) (db : RoleDb) : List Role :=
  sortBy (fun a b => compare a.order b.order) (db.siblingsUnder parentRoleId)

section Shown

variable {locale : ChartLocale} {db : RoleDb} {parentRoleId : Option Nat} {a b role : Role}

theorem compareShown_eq : compareShown locale a b = (compare a.order b.order).then
    (locale.localeCompare (getRoleDisplayName locale a.key a.name)
      (getRoleDisplayName locale b.key b.name)) := rfl

instance transCmp_compareShown [Std.TransCmp locale.localeCompare] : Std.TransCmp (compareShown locale) :=
  transCmp_comap (compareRoles locale) (Role.organigramRole none)

instance transCmp_order : Std.TransCmp fun a b : Role => compare a.order b.order :=
  transCmp_comap compare Role.order

theorem orderedSiblings_eq :
    (db.siblingsUnder parentRoleId).insertionSort (fun a b =>
      a.organigramOrder.getD 0 ≤ b.organigramOrder.getD 0) = db.orderedSiblings parentRoleId := by
  have hmap := List.map_insertionSort (fun a b : Role => a.organigramOrder.getD 0 ≤ b.organigramOrder.getD 0)
    (fun a b => (compare a.order b.order).isLE = true) id (db.siblingsUnder parentRoleId)
    fun a _ b _ => Std.isLE_compare.symm
  rw [List.map_id, List.map_id] at hmap
  exact hmap

theorem mem_siblingsUnder : role ∈ db.siblingsUnder parentRoleId ↔
    role ∈ db.roles ∧ role.showInOrganigram = true ∧ role.parentRoleId = parentRoleId := by
  unfold RoleDb.siblingsUnder
  rw [List.mem_filter]
  simp

/-- Below a node of the chart stand its siblings as they are shown here. -/
theorem rolesByParent_eq (notes : Nat → Option String) {parent : Role} (hparent : parent ∈ db.roles)
    (hshown : parent.showInOrganigram = true) :
    sortBy (compareRoles locale) (rolesByParent (db.chartRows notes) parent.id) =
      (db.shownSiblings locale (some parent.id)).map fun r => r.organigramRole (notes r.id) := by
  have hknown : parent.organigramRole (notes parent.id) ∈ db.chartRows notes :=
    List.mem_map_of_mem (List.mem_filter.mpr ⟨hparent, hshown⟩)
  have hsel : rolesByParent (db.chartRows notes) parent.id =
      (db.siblingsUnder (some parent.id)).map fun r => r.organigramRole (notes r.id) := by
    unfold rolesByParent RoleDb.siblingsUnder
    nth_rewrite 2 [RoleDb.chartRows]
    rw [List.filter_map, List.filter_filter]
    congr 1
    refine List.filter_congr fun r _ => ?_
    have hpointer : (r.organigramRole (notes r.id)).parentRoleId = r.parentRoleId := rfl
    rw [Bool.eq_iff_iff]
    simp only [Function.comp_apply, Bool.and_eq_true, Bool.not_eq_true', beq_iff_eq, hpointer]
    constructor
    · exact fun h => ⟨h.2, h.1.2⟩
    · rintro ⟨hflag, hr⟩
      exact ⟨⟨Bool.eq_false_iff.mpr fun h => isRootRole_iff.mp h _ hknown hr, hr⟩, hflag⟩
  rw [hsel, sortBy_map]
  rfl

end Shown

/-! ## The renumbered row -/

/-- What a renumbering leaves of a row. -/
def placeAt (places : List (Role × Nat)) (r : Role) : Role :=
  match places.find? (fun place => place.1.id == r.id) with
  | none => r
  | some place => { r with organigramOrder := some ((place.2 + 1 : Int) * orderStep) }

section Renumber

variable {db : RoleDb} {places : List (Role × Nat)} {parentRoleId : Option Nat} {r : Role}

@[simp] theorem placeAt_id : (placeAt places r).id = r.id := by unfold placeAt; split <;> rfl

@[simp] theorem placeAt_shown : (placeAt places r).showInOrganigram = r.showInOrganigram := by
  unfold placeAt; split <;> rfl

@[simp] theorem placeAt_parent : (placeAt places r).parentRoleId = r.parentRoleId := by
  unfold placeAt; split <;> rfl

theorem placeAt_order {place : Role × Nat} (hplaces : Keyed (·.1.id) places) (hplace : place ∈ places)
    (hr : place.1.id = r.id) : (placeAt places r).order = (place.2 + 1 : Int) * orderStep := by
  have hfind : places.find? (fun place => place.1.id == r.id) = some place :=
    hplaces.find?_eq_some.mpr ⟨hplace, hr⟩
  unfold placeAt Role.order
  rw [hfind]
  rfl

/-- The updates one after the other. -/
theorem foldl_place_roles (hplaces : (places.map (·.1.id)).Nodup) :
    (places.foldl (fun (db : RoleDb) (sibling, position) => db.updateRoles (·.id == sibling.id) fun r =>
      { r with organigramOrder := some ((position + 1 : Int) * orderStep) }) db).roles =
      db.roles.map (placeAt places) := by
  induction places generalizing db with
  | nil => exact (List.map_id _).symm
  | cons place places ih =>
    obtain ⟨hnew, hrest⟩ := List.nodup_cons.mp hplaces
    rw [List.foldl_cons, ih hrest, RoleDb.updateRoles_roles, List.map_map]
    refine List.map_congr_left fun r _ => ?_
    by_cases hr : r.id = place.1.id
    · -- no later update is about this row
      have hlater : places.find? (fun later => later.1.id == place.1.id) = none := by
        rw [List.find?_eq_none]
        intro later hlater heq
        exact hnew (List.mem_map.mpr ⟨later, hlater, beq_iff_eq.mp heq⟩)
      simp [placeAt, hr, hlater]
    · simp [placeAt, hr, Ne.symm hr]

theorem zipIdx_ids {siblings : List Role} : siblings.zipIdx.map (·.1.id) = siblings.map (·.id) := by
  have hfst := congrArg (List.map (·.id)) (List.zipIdx_map_fst 0 siblings)
  rwa [List.map_map] at hfst

theorem renumber_roles {siblings : List Role} (hids : Keyed Role.id siblings) :
    (db.renumber siblings).roles = db.roles.map (placeAt siblings.zipIdx) := by
  refine foldl_place_roles ?_
  rw [zipIdx_ids]
  exact hids

theorem siblingsUnder_renumber {siblings : List Role} (hids : Keyed Role.id siblings) :
    (db.renumber siblings).siblingsUnder parentRoleId =
      (db.siblingsUnder parentRoleId).map (placeAt siblings.zipIdx) := by
  unfold RoleDb.siblingsUnder
  rw [renumber_roles hids, List.filter_map]
  congr 1
  exact List.filter_congr fun r _ => by simp

/-- The rows numbered one after the other stand in strict order. -/
theorem placeAt_pairwise {siblings : List Role} (hids : Keyed Role.id siblings) :
    (siblings.map (placeAt siblings.zipIdx)).Pairwise fun a b => a.order < b.order := by
  have hplaced : ∀ i (hi : i < siblings.length),
      (placeAt siblings.zipIdx siblings[i]).order = (i + 1 : Int) * orderStep := by
    intro i hi
    have hplaces : Keyed (·.1.id) siblings.zipIdx := by
      unfold Keyed
      rw [zipIdx_ids]
      exact hids
    have hplace : (siblings[i], i) ∈ siblings.zipIdx :=
      List.mem_zipIdx_iff_getElem?.mpr (List.getElem?_eq_getElem hi)
    exact placeAt_order hplaces hplace rfl
  rw [List.pairwise_map, List.pairwise_iff_getElem]
  intro i j hi hj hij
  rw [hplaced i hi, hplaced j hj]
  unfold orderStep
  omega

end Renumber

/-! ## A move -/

section Move

variable {locale : ChartLocale} {db db' : RoleDb} {direction : MoveDirection} {role neighbour : Role}
  {before after : List Role}

theorem findIdx?_of_split (hids : Keyed Role.id (before ++ role :: after)) :
    (before ++ role :: after).findIdx? (·.id == role.id) = some before.length := by
  have hfront : before.findIdx? (·.id == role.id) = none := by
    rw [List.findIdx?_eq_none_iff]
    intro r hr
    rw [beq_eq_false_iff_ne]
    exact fun heq => hids.not_mem_before rfl (heq ▸ List.mem_map_of_mem hr)
  rw [List.findIdx?_append, hfront]
  simp [List.findIdx?_cons]

theorem insertIdx_append {place : Nat} :
    (before ++ after).insertIdx (before.length + place) role = before ++ after.insertIdx place role := by
  induction before with
  | nil => simp
  | cons r before ih =>
    rw [List.cons_append, List.length_cons, Nat.add_right_comm, List.insertIdx_succ_cons, ih]
    rfl

/-- The move swaps the node with its neighbour. -/
theorem swapSibling_adjacent (hids : Keyed Role.id (adjacent direction role neighbour before after)) :
    swapSibling (adjacent direction role neighbour before after) role.id direction =
      some (adjacent direction.opposite role neighbour before after) := by
  cases direction with
  | up =>
    have hsplit : adjacent .up role neighbour before after = (before ++ [neighbour]) ++ role :: after := by
      simp [adjacent]
    rw [hsplit] at hids ⊢
    unfold swapSibling
    rw [findIdx?_of_split hids]
    have hmoved : ((before ++ neighbour :: role :: after).eraseIdx (before.length + 1)).insertIdx
        before.length role = before ++ role :: neighbour :: after := by
      rw [List.eraseIdx_append_of_length_le (by omega), ← Nat.add_zero before.length, insertIdx_append]
      simp
    simpa [MoveDirection.opposite, adjacent] using hmoved
  | down =>
    unfold swapSibling adjacent
    rw [findIdx?_of_split hids]
    have hmoved : ((before ++ role :: neighbour :: after).eraseIdx before.length).insertIdx
        (before.length + 1) role = before ++ neighbour :: role :: after := by
      rw [List.eraseIdx_append_of_length_le (by omega), insertIdx_append]
      simp
    simpa [MoveDirection.opposite] using hmoved

/-- At the end of the row there is nothing to swap with. -/
theorem swapSibling_atEnd {ordered : List Role} (hids : Keyed Role.id ordered)
    (hend : AtEnd direction role ordered) : swapSibling ordered role.id direction = none := by
  cases direction with
  | up =>
    obtain ⟨rest, rfl⟩ := List.head?_eq_some_iff.mp hend
    simp [swapSibling, List.findIdx?_cons]
  | down =>
    obtain ⟨front, rfl⟩ := List.getLast?_eq_some_iff.mp hend
    have hfound : (front ++ [role]).findIdx? (·.id == role.id) = some front.length := findIdx?_of_split hids
    unfold swapSibling
    simp [hfound]

theorem moveOrganigramNode_exec (hrole : db.roleById role.id = some role) :
    (moveOrganigramNode role.id direction).exec db =
      (.ok (), match swapSibling (db.orderedSiblings role.parentRoleId) role.id direction with
        | none => db
        | some swapped => db.renumber swapped) := by
  unfold moveOrganigramNode requireRole
  rw [Tx.exec_bind_get, hrole, ← orderedSiblings_eq]
  rfl

/-! ### The two orders of the siblings -/

/-- Siblings of one order come from the database in the order of their names. -/
def TiesInNameOrder (locale : ChartLocale) (siblings : List Role) : Prop :=
  siblings.Pairwise fun a b => a.order = b.order → (locale.localeCompare
    (getRoleDisplayName locale a.key a.name) (getRoleDisplayName locale b.key b.name)).isLE = true

/-- No sibling that comes on that side of the node from the database has its order. -/
def NoTieBeyond (direction : MoveDirection) (role : Role) (siblings : List Role) : Prop :=
  siblings.Pairwise fun a b => direction.mover a b = role → a.order ≠ b.order

instance decidableTiesInNameOrder (locale : ChartLocale) (siblings : List Role) :
    Decidable (TiesInNameOrder locale siblings) :=
  inferInstanceAs (Decidable (siblings.Pairwise fun a b => a.order = b.order → (locale.localeCompare
    (getRoleDisplayName locale a.key a.name) (getRoleDisplayName locale b.key b.name)).isLE = true))

instance decidableNoTieBeyond (direction : MoveDirection) (role : Role) (siblings : List Role) :
    Decidable (NoTieBeyond direction role siblings) :=
  inferInstanceAs (Decidable (siblings.Pairwise fun a b => direction.mover a b = role → a.order ≠ b.order))

theorem orderedSiblings_eq_shown_iff [Std.TransCmp locale.localeCompare] {parentRoleId : Option Nat} :
    db.orderedSiblings parentRoleId = db.shownSiblings locale parentRoleId ↔
      TiesInNameOrder locale (db.siblingsUnder parentRoleId) := by
  have hfiner : ∀ a b : Role, compare a.order b.order = .lt → compareShown locale a b = .lt := by
    intro a b hlt
    rw [compareShown_eq, hlt]
    rfl
  unfold RoleDb.orderedSiblings RoleDb.shownSiblings TiesInNameOrder
  rw [sortBy_eq_sortBy_iff hfiner]
  have hpair : ∀ a b : Role, (compare a.order b.order = .eq → (compareShown locale a b).isLE = true) ↔
      (a.order = b.order → (locale.localeCompare (getRoleDisplayName locale a.key a.name)
        (getRoleDisplayName locale b.key b.name)).isLE = true) := by
    intro a b
    rw [Std.compare_eq_iff_eq, compareShown_eq]
    refine forall_congr' fun heq => ?_
    rw [heq, Std.compare_eq_iff_eq.mpr rfl]
    rfl
  simp only [hpair]

theorem noTieBeyond_iff {siblings : List Role} : NoTieBeyond direction role siblings ↔
    ∀ n, (facing direction role n).Sublist siblings → n.order ≠ role.order := by
  unfold NoTieBeyond
  rw [List.pairwise_iff_forall_sublist]
  cases direction with
  | up =>
    refine ⟨fun h n hsub => h hsub rfl, ?_⟩
    rintro h a b hsub rfl
    exact h a hsub
  | down =>
    refine ⟨fun h n hsub => (h hsub rfl).symm, ?_⟩
    rintro h a b hsub rfl
    exact (h b hsub).symm

theorem nodup_siblingsUnder {parentRoleId : Option Nat} (hids : Keyed Role.id db.roles) :
    (db.siblingsUnder parentRoleId).Nodup := (hids.filter _).of_map

/-- No sibling is shown beyond a node at the end. -/
theorem order_of_atEnd [Std.TransCmp locale.localeCompare] {parentRoleId : Option Nat} {n : Role}
    (hend : AtEnd direction role (db.shownSiblings locale parentRoleId))
    (hn : n ∈ db.siblingsUnder parentRoleId) :
    (direction.mover n role).order ≤ (direction.mover role n).order := by
  have hsorted : (db.shownSiblings locale parentRoleId).Pairwise fun a b => a.order ≤ b.order := by
    have hcmp : (db.shownSiblings locale parentRoleId).Pairwise fun a b =>
        (compareShown locale a b).isLE = true := sortBy_pairwise
    refine hcmp.imp fun {a b} hle => ?_
    rw [compareShown_eq] at hle
    rw [← Std.isLE_compare]
    exact (Ordering.isLE_then_iff_and.mp hle).1
  have hin : n ∈ db.shownSiblings locale parentRoleId := mem_sortBy.mpr hn
  cases direction with
  | up =>
    obtain ⟨rest, hsplit⟩ := List.head?_eq_some_iff.mp hend
    rw [hsplit] at hsorted hin
    rcases List.mem_cons.mp hin with rfl | hrest
    · exact le_rfl
    · exact (List.pairwise_cons.mp hsorted).1 n hrest
  | down =>
    obtain ⟨front, hsplit⟩ := List.getLast?_eq_some_iff.mp hend
    rw [hsplit] at hsorted hin
    rcases List.mem_append.mp hin with hfront | hlast
    · exact (List.pairwise_append.mp hsorted).2.2 n hfront role List.mem_cons_self
    · exact (List.mem_singleton.mp hlast).symm ▸ le_rfl

theorem orderedSiblings_pairwise {parentRoleId : Option Nat} :
    (db.orderedSiblings parentRoleId).Pairwise fun a b => a.order ≤ b.order := by
  have hcmp : (db.orderedSiblings parentRoleId).Pairwise fun a b =>
      (compare a.order b.order).isLE = true := sortBy_pairwise
  exact hcmp.imp fun hle => Std.isLE_compare.mp hle

/-- A node at the end of what is shown is at the end of what is moved unless a tie hides it. -/
theorem atEnd_ordered_iff [Std.TransCmp locale.localeCompare] {parentRoleId : Option Nat}
    (hids : Keyed Role.id db.roles) (hrole : role ∈ db.siblingsUnder parentRoleId)
    (hend : AtEnd direction role (db.shownSiblings locale parentRoleId)) :
    AtEnd direction role (db.orderedSiblings parentRoleId) ↔
      NoTieBeyond direction role (db.siblingsUnder parentRoleId) := by
  have hord : (db.orderedSiblings parentRoleId).Nodup :=
    sortBy_perm.nodup_iff.mpr (nodup_siblingsUnder hids)
  rw [atEnd_iff hord (mem_sortBy.mpr hrole), noTieBeyond_iff]
  refine forall_congr' fun n => ?_
  have htie : n.order = role.order → compare n.order role.order = .eq := Std.compare_eq_iff_eq.mpr
  constructor
  · intro hfree hsub heq
    refine hfree ?_
    cases direction with
    | up => exact pair_sublist_sortBy (by rw [htie heq]; rfl) hsub
    | down => exact pair_sublist_sortBy (by rw [heq, Std.compare_eq_iff_eq.mpr rfl]; rfl) hsub
  · intro hfree hsub
    have hn : n ∈ db.siblingsUnder parentRoleId :=
      mem_sortBy.mp (hsub.subset (by cases direction <;> simp [facing, adjacent]))
    have hbeyond := order_of_atEnd hend hn
    have hle : ∀ {a b : Role}, [a, b].Sublist (db.orderedSiblings parentRoleId) → a.order ≤ b.order :=
      List.pairwise_iff_forall_sublist.mp orderedSiblings_pairwise
    cases direction with
    | up =>
      have heq : n.order = role.order := le_antisymm (hle hsub) hbeyond
      exact hfree (pair_sublist_of_rank (htie heq) hsub) heq
    | down =>
      have heq : n.order = role.order := le_antisymm hbeyond (hle hsub)
      exact hfree (pair_sublist_of_rank (by rw [heq]; exact Std.compare_eq_iff_eq.mpr rfl) hsub) heq

/-! ### What the chart shows after a move -/

theorem shownSiblings_renumber [Std.TransCmp locale.localeCompare] {parentRoleId : Option Nat}
    {siblings : List Role} (hids : Keyed Role.id siblings)
    (hperm : (db.siblingsUnder parentRoleId).Perm siblings) :
    (db.renumber siblings).shownSiblings locale parentRoleId = siblings.map (placeAt siblings.zipIdx) := by
  unfold RoleDb.shownSiblings
  rw [siblingsUnder_renumber hids]
  refine sortBy_eq_of_perm (hperm.map _) ((placeAt_pairwise hids).imp fun {a b} hlt => ?_)
  rw [compareShown_eq, compare_lt_iff_lt.mpr hlt]
  rfl

theorem shownIds_renumber (locale : ChartLocale) [Std.TransCmp locale.localeCompare] {parentRoleId : Option Nat}
    {siblings : List Role} (hids : Keyed Role.id siblings)
    (hperm : (db.siblingsUnder parentRoleId).Perm siblings) :
    (db.renumber siblings).shownIds locale parentRoleId = siblings.map (·.id) := by
  unfold RoleDb.shownIds
  rw [shownSiblings_renumber hids hperm, List.map_map]
  exact List.map_congr_left fun r _ => placeAt_id

end Move

/-! ## When a move is what the chart shows -/

/-- Moving a node swaps it, in what the chart shows, with the neighbour it has there, and changes
nothing at the end of the row. -/
def MoveAgrees (locale : ChartLocale) (db : RoleDb) (role : Role) (direction : MoveDirection) : Prop :=
  ∃ db', (moveOrganigramNode role.id direction).exec db = (.ok (), db') ∧
    (AtEnd direction role.id (db.shownIds locale role.parentRoleId) → db' = db) ∧
    ∀ neighbour before after,
      db.shownIds locale role.parentRoleId = adjacent direction role.id neighbour before after →
      db'.shownIds locale role.parentRoleId = adjacent direction.opposite role.id neighbour before after

/-- No tie of the siblings' orders gets in the way of the move. -/
def MoveFits (locale : ChartLocale) (db : RoleDb) (role : Role) (direction : MoveDirection) : Prop :=
  if AtEnd direction role.id (db.shownIds locale role.parentRoleId) then
    NoTieBeyond direction role (db.siblingsUnder role.parentRoleId)
  else TiesInNameOrder locale (db.siblingsUnder role.parentRoleId)

instance decidableMoveFits (locale : ChartLocale) (db : RoleDb) (role : Role) (direction : MoveDirection) :
    Decidable (MoveFits locale db role direction) :=
  inferInstanceAs (Decidable (if AtEnd direction role.id (db.shownIds locale role.parentRoleId) then
    NoTieBeyond direction role (db.siblingsUnder role.parentRoleId)
  else TiesInNameOrder locale (db.siblingsUnder role.parentRoleId)))

section Agrees

variable {locale : ChartLocale} {db : RoleDb} {role : Role} {direction : MoveDirection}

/-- The end of the row of ids is the end of the row. -/
theorem atEnd_map_id (direction : MoveDirection) (hids : Keyed Role.id db.roles) {l : List Role} (hl : ∀ r ∈ l, r ∈ db.roles)
    (hrole : role ∈ db.roles) : AtEnd direction role.id (l.map (·.id)) ↔ AtEnd direction role l := by
  have hsame : ∀ r ∈ l, r.id = role.id ↔ r = role := fun r hr =>
    ⟨fun heq => hids.eq_of_key (hl r hr) hrole heq, fun heq => heq ▸ rfl⟩
  cases direction with
  | up =>
    cases l with
    | nil => simp [AtEnd]
    | cons r rest => simpa [AtEnd] using hsame r List.mem_cons_self
  | down =>
    rcases List.eq_nil_or_concat l with rfl | ⟨front, r, rfl⟩
    · simp [AtEnd]
    · simpa [AtEnd] using hsame r (by simp)

/-- Rows are told apart by their ids. -/
theorem filterMap_roleById (hids : Keyed Role.id db.roles) {l : List Role} (hl : ∀ r ∈ l, r ∈ db.roles) :
    (l.map (·.id)).filterMap db.roleById = l := by
  rw [List.filterMap_map]
  have hfound : l.filterMap (db.roleById ∘ fun r => r.id) = l.filterMap some :=
    List.filterMap_congr fun r hr => hids.find?_eq_some.mpr ⟨hl r hr, rfl⟩
  rw [hfound, List.filterMap_some]

theorem nodup_shownIds (hids : Keyed Role.id db.roles) {parentRoleId : Option Nat} :
    (db.shownIds locale parentRoleId).Nodup :=
  (sortBy_perm.map Role.id).nodup_iff.mpr (hids.filter _)

theorem mem_roles_of_shown {parentRoleId : Option Nat} :
    ∀ r ∈ db.shownSiblings locale parentRoleId, r ∈ db.roles := fun _ hr =>
  (mem_siblingsUnder.mp (mem_sortBy.mp hr)).1

theorem atEnd_shownIds (direction : MoveDirection) (hids : Keyed Role.id db.roles) (hrole : role ∈ db.roles)
    {parentRoleId : Option Nat} :
    AtEnd direction role.id (db.shownIds locale parentRoleId) ↔
      AtEnd direction role (db.shownSiblings locale parentRoleId) :=
  atEnd_map_id direction hids mem_roles_of_shown hrole

/-- The orders are the chart's when they list the same ids. -/
theorem orderedSiblings_of_ids (hids : Keyed Role.id db.roles) {parentRoleId : Option Nat}
    (hsame : (db.orderedSiblings parentRoleId).map (·.id) = db.shownIds locale parentRoleId) :
    db.orderedSiblings parentRoleId = db.shownSiblings locale parentRoleId := by
  have hrows : ∀ r ∈ db.orderedSiblings parentRoleId, r ∈ db.roles := fun r hr =>
    (mem_siblingsUnder.mp (mem_sortBy.mp hr)).1
  rw [← filterMap_roleById hids hrows, hsame]
  exact filterMap_roleById hids mem_roles_of_shown

theorem shownIds_adjacent {parentRoleId : Option Nat} {n : Role} {before after : List Role}
    (hsplit : db.shownSiblings locale parentRoleId = adjacent direction role n before after) :
    db.shownIds locale parentRoleId =
      adjacent direction role.id n.id (before.map (·.id)) (after.map (·.id)) := by
  unfold RoleDb.shownIds
  rw [hsplit, map_adjacent]

theorem moveAgrees_iff_of_exec {db' : RoleDb}
    (h : (moveOrganigramNode role.id direction).exec db = (.ok (), db')) :
    MoveAgrees locale db role direction ↔
      (AtEnd direction role.id (db.shownIds locale role.parentRoleId) → db' = db) ∧
      ∀ neighbour before after,
        db.shownIds locale role.parentRoleId = adjacent direction role.id neighbour before after →
        db'.shownIds locale role.parentRoleId =
          adjacent direction.opposite role.id neighbour before after := by
  constructor
  · rintro ⟨after, hexec, hagrees⟩
    rw [h] at hexec
    obtain ⟨-, rfl⟩ := Prod.mk.inj hexec
    exact hagrees
  · exact fun hagrees => ⟨db', h, hagrees⟩

/-- A swap of two ids is the one the chart promises when the chart lists the ids as the swap found
them. -/
theorem swapAgrees_iff (hids : Keyed Role.id db.roles) (hrole : role ∈ db.roles)
    (hflag : role.showInOrganigram = true) {db' : RoleDb} {n : Role} {before after : List Role}
    (hsplit : db.orderedSiblings role.parentRoleId = adjacent direction role n before after)
    (hafter : db'.shownIds locale role.parentRoleId = adjacent direction.opposite role.id n.id
      (before.map (·.id)) (after.map (·.id)))
    (hend : ¬AtEnd direction role.id (db.shownIds locale role.parentRoleId)) :
    (∀ neighbour before after,
      db.shownIds locale role.parentRoleId = adjacent direction role.id neighbour before after →
      db'.shownIds locale role.parentRoleId =
        adjacent direction.opposite role.id neighbour before after) ↔
      db.orderedSiblings role.parentRoleId = db.shownSiblings locale role.parentRoleId := by
  have hordered : Keyed Role.id (adjacent direction role n before after) :=
    hsplit ▸ (sortBy_perm.map Role.id).nodup_iff.mpr (hids.filter _)
  have hin : role ∈ db.shownSiblings locale role.parentRoleId :=
    mem_sortBy.mpr (mem_siblingsUnder.mpr ⟨hrole, hflag, rfl⟩)
  have hends := @atEnd_shownIds locale _ _ direction hids hrole role.parentRoleId
  refine ⟨fun hagrees => orderedSiblings_of_ids hids ?_, fun hsame n' before' after' hshown => ?_⟩
  · -- the swap can be read backwards: one row of ids has one swap
    rcases atEnd_or_adjacent direction hin with hfirst | ⟨n', before', after', hshown⟩
    · exact absurd (hends.mpr hfirst) hend
    · have hboth := hagrees _ _ _ (shownIds_adjacent hshown)
      rw [hafter] at hboth
      have hback := adjacent_opposite_inj (map_adjacent direction Role.id ▸ hordered) hboth
      rw [hsplit, map_adjacent, hback]
      exact (shownIds_adjacent hshown).symm
  · have hsplit' := shownIds_adjacent (hsame.symm.trans hsplit)
    have hnodup : (db.shownIds locale role.parentRoleId).Nodup := nodup_shownIds hids
    obtain ⟨rfl, rfl, rfl⟩ := adjacent_inj (hsplit' ▸ hnodup) (hsplit'.symm.trans hshown)
    exact hafter

variable [Std.TransCmp locale.localeCompare]

/-- The move has nowhere to go: it agrees when the chart shows the node at the end too. -/
theorem moveAgrees_of_atEnd (hids : Keyed Role.id db.roles) (hrole : role ∈ db.roles)
    (hflag : role.showInOrganigram = true)
    (hlast : AtEnd direction role (db.orderedSiblings role.parentRoleId)) :
    MoveAgrees locale db role direction ↔ MoveFits locale db role direction := by
  have hmem : role ∈ db.siblingsUnder role.parentRoleId := mem_siblingsUnder.mpr ⟨hrole, hflag, rfl⟩
  have hordered : Keyed Role.id (db.orderedSiblings role.parentRoleId) :=
    (sortBy_perm.map Role.id).nodup_iff.mpr (hids.filter _)
  have hnodup : (db.shownIds locale role.parentRoleId).Nodup := nodup_shownIds hids
  have hends := @atEnd_shownIds locale _ _ direction hids hrole role.parentRoleId
  have hexec : (moveOrganigramNode role.id direction).exec db = (.ok (), db) := by
    rw [moveOrganigramNode_exec (hids.find?_eq_some.mpr ⟨hrole, rfl⟩), swapSibling_atEnd hordered hlast]
  rw [moveAgrees_iff_of_exec hexec]
  unfold MoveFits
  by_cases hend : AtEnd direction role.id (db.shownIds locale role.parentRoleId)
  · rw [if_pos hend]
    have hfree := (atEnd_ordered_iff hids hmem (hends.mp hend)).mp hlast
    refine iff_of_true ⟨fun _ => rfl, fun n before after hsplit => ?_⟩ hfree
    exact absurd (hsplit ▸ hend) (not_atEnd_adjacent (hsplit ▸ hnodup))
  · rw [if_neg hend, ← orderedSiblings_eq_shown_iff]
    refine iff_of_false (fun hagrees => ?_) fun heq => hend (hends.mpr (heq ▸ hlast))
    have hin : role.id ∈ db.shownIds locale role.parentRoleId :=
      List.mem_map_of_mem (mem_sortBy.mpr hmem)
    rcases atEnd_or_adjacent direction hin with hfirst | ⟨n, before, after, hsplit⟩
    · exact hend hfirst
    · exact adjacent_ne_opposite (hsplit ▸ hnodup) (hsplit ▸ hagrees.2 n before after hsplit)

/-- A renumbering that changes nothing found the siblings numbered, so that nothing is tied. -/
theorem orderedSiblings_of_renumbered {parentRoleId : Option Nat} {siblings : List Role}
    (hsiblings : Keyed Role.id siblings) (hperm : (db.siblingsUnder parentRoleId).Perm siblings)
    (hsame : db.renumber siblings = db) :
    db.orderedSiblings parentRoleId = db.shownSiblings locale parentRoleId := by
  have hstrict : (db.shownSiblings locale parentRoleId).Pairwise fun a b =>
      compare a.order b.order = .lt := by
    rw [← hsame, shownSiblings_renumber hsiblings (hsame ▸ hperm)]
    exact (placeAt_pairwise hsiblings).imp compare_lt_iff_lt.mpr
  exact sortBy_eq_of_perm sortBy_perm.symm hstrict

/-- The move swaps the node with the neighbour it has by its order: it agrees when that is the one
the chart shows. -/
theorem moveAgrees_of_adjacent (hids : Keyed Role.id db.roles) (hrole : role ∈ db.roles)
    (hflag : role.showInOrganigram = true) {n : Role} {before after : List Role}
    (hsplit : db.orderedSiblings role.parentRoleId = adjacent direction role n before after) :
    MoveAgrees locale db role direction ↔ MoveFits locale db role direction := by
  have hmem : role ∈ db.siblingsUnder role.parentRoleId := mem_siblingsUnder.mpr ⟨hrole, hflag, rfl⟩
  have hordered : Keyed Role.id (adjacent direction role n before after) :=
    hsplit ▸ (sortBy_perm.map Role.id).nodup_iff.mpr (hids.filter _)
  have hswapped : Keyed Role.id (adjacent direction.opposite role n before after) :=
    (adjacent_opposite_perm.map Role.id).nodup_iff.mpr hordered
  have hfull : (adjacent direction role n before after).Perm (db.siblingsUnder role.parentRoleId) :=
    hsplit ▸ sortBy_perm
  have hperm : (db.siblingsUnder role.parentRoleId).Perm (adjacent direction.opposite role n before after) :=
    hfull.symm.trans adjacent_opposite_perm.symm
  have hends := @atEnd_shownIds locale _ _ direction hids hrole role.parentRoleId
  have hexec : (moveOrganigramNode role.id direction).exec db =
      (.ok (), db.renumber (adjacent direction.opposite role n before after)) := by
    rw [moveOrganigramNode_exec (hids.find?_eq_some.mpr ⟨hrole, rfl⟩), hsplit,
      swapSibling_adjacent hordered]
  have hinner : ¬AtEnd direction role (db.orderedSiblings role.parentRoleId) :=
    hsplit ▸ not_atEnd_adjacent hordered.of_map
  rw [moveAgrees_iff_of_exec hexec]
  unfold MoveFits
  by_cases hend : AtEnd direction role.id (db.shownIds locale role.parentRoleId)
  · rw [if_pos hend]
    refine iff_of_false (fun hagrees => hinner ?_) fun hfree =>
      hinner ((atEnd_ordered_iff hids hmem (hends.mp hend)).mpr hfree)
    have hsame : db.orderedSiblings role.parentRoleId = db.shownSiblings locale role.parentRoleId :=
      orderedSiblings_of_renumbered hswapped hperm (hagrees.1 hend)
    exact hsame ▸ hends.mp hend
  · have hafter := shownIds_renumber locale hswapped hperm
    rw [map_adjacent] at hafter
    rw [if_neg hend, ← orderedSiblings_eq_shown_iff, ← swapAgrees_iff hids hrole hflag hsplit hafter hend]
    exact and_iff_right fun hfirst => absurd hfirst hend

/-- **A move agrees with the chart** just when no tie of the siblings' orders gets in its way: the
move lists tied siblings as the database returns them, the chart by their names. -/
theorem moveAgrees_iff (hids : Keyed Role.id db.roles) (hrole : role ∈ db.roles)
    (hflag : role.showInOrganigram = true) :
    MoveAgrees locale db role direction ↔ MoveFits locale db role direction := by
  have hmem : role ∈ db.orderedSiblings role.parentRoleId :=
    mem_sortBy.mpr (mem_siblingsUnder.mpr ⟨hrole, hflag, rfl⟩)
  rcases atEnd_or_adjacent direction hmem with hlast | ⟨n, before, after, hsplit⟩
  · exact moveAgrees_of_atEnd hids hrole hflag hlast
  · exact moveAgrees_of_adjacent hids hrole hflag hsplit

end Agrees

/-- Two services of one order, as a removal leaves them when it lifts the one to the other. -/
def tiedService (id : Nat) (name : String) : Role :=
  ⟨id, name, some name, none, false, none, true, some orderStep, false⟩

def tiedServices (roles : List Role) : RoleDb := ⟨roles, [], [], [], [], [], [], 4⟩

/-- The database returns the tied services in the order of their names. -/
theorem moveAgrees_named : MoveAgrees plainLocale
    (tiedServices [tiedService 3 "Accueil", tiedService 2 "Sono"]) (tiedService 3 "Accueil") .down :=
  (@moveAgrees_iff plainLocale _ _ _ _ (by decide) (by decide) rfl).mpr (by decide +kernel)

/-- The database returns the tied services the other way: the chart shows `Sono` below `Accueil`,
and moving `Accueil` down does nothing. -/
theorem tied_move_does_nothing : ¬∀ (locale : ChartLocale), Std.TransCmp locale.localeCompare →
    ∀ (db : RoleDb) (role : Role) (direction : MoveDirection), Keyed Role.id db.roles → role ∈ db.roles →
      role.showInOrganigram = true → MoveAgrees locale db role direction := by
  intro h
  obtain ⟨db', hexec, -, hswap⟩ := h plainLocale transCmp_plainLocale
    (tiedServices [tiedService 2 "Sono", tiedService 3 "Accueil"]) (tiedService 3 "Accueil") .down
    (by decide) (by decide) rfl
  have hshown := hswap 2 [] [] (by decide +kernel)
  have hsame : (moveOrganigramNode 3 .down).exec
      (tiedServices [tiedService 2 "Sono", tiedService 3 "Accueil"]) =
      (.ok (), tiedServices [tiedService 2 "Sono", tiedService 3 "Accueil"]) := rfl
  obtain ⟨-, rfl⟩ := Prod.mk.inj (hexec.symm.trans hsame)
  revert hshown
  decide +kernel

end Unitae.Roles
