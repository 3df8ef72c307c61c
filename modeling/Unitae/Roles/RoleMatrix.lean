import Unitae.Base.Listing
import Unitae.Base.PointerWalk
import Unitae.Roles.ChartTree

/-!
# Unitae — the role matrix (`role-matrix.server.ts`)

The columns of the matrix, banded by who answers for them: each committee post heads the services of its
branch, the other roles of the chart follow, and the roles outside the chart close the table.

`matrix_follows_chart` compares the bands with the chart that `buildOrganigramTree` makes of the same
rows.
-/

namespace Unitae.Roles

structure MatrixRoleRow where
  id : Nat
  key : String
  name : Option String
  isBuiltIn : Bool
  isSinglePerson : Bool
  showInOrganigram : Bool
  parentRoleId : Option Nat
  organigramOrder : Option Int
deriving DecidableEq, Repr

structure MatrixColumn where
  id : Nat
  name : String
  isSinglePerson : Bool
deriving DecidableEq, Repr

structure MatrixGroup where
  key : String
  label : Option String
  columns : List MatrixColumn
  collapsed : Bool
deriving DecidableEq, Repr

def compareRows (locale : ChartLocale) (a b : MatrixRoleRow) : Ordering :=
  (compare (a.organigramOrder.getD 0) (b.organigramOrder.getD 0)).then
    (locale.localeCompare (getRoleDisplayName locale a.key a.name) (getRoleDisplayName locale b.key b.name))

/-! ## Columns -/

/-- `chart`. -/
def chartRows (roles : List MatrixRoleRow) : List MatrixRoleRow := roles.filter (·.showInOrganigram)

/-- `chartParents`. -/
def chartParents (roles : List MatrixRoleRow) : List Nat :=
  (chartRows roles).filterMap fun row =>
    row.parentRoleId.filter fun parentId => ((chartRows roles).map (·.id)).contains parentId

def isColumn (roles : List MatrixRoleRow) (rolesWithPlainMembers : List Nat) (row : MatrixRoleRow) : Bool :=
  if rolesWithPlainMembers.contains row.id then true
  else if row.isSinglePerson then false
  else if !row.showInOrganigram then true
  else !(chartParents roles).contains row.id

def toColumn (locale : ChartLocale) (row : MatrixRoleRow) : MatrixColumn where
  id := row.id
  name := getRoleDisplayName locale row.key row.name
  isSinglePerson := row.isSinglePerson

/-! ## The walk -/

/-- `row.parentRoleId == null || !chartIds.has(row.parentRoleId)`. -/
def isRootRow (chart : List MatrixRoleRow) (row : MatrixRoleRow) : Bool :=
  match row.parentRoleId with
  | none => true
  | some parentId => !(chart.map (·.id)).contains parentId

/-- `childrenOf.get(parentId)`. -/
def rowsByParent (chart : List MatrixRoleRow) (parentId : Nat) : List MatrixRoleRow :=
  chart.filter fun row => !isRootRow chart row && row.parentRoleId == some parentId

/-- `walk`, with the rows in preorder and the ids visited so far. -/
def walk (locale : ChartLocale) (chart : List MatrixRoleRow) :
    Nat → MatrixRoleRow → StateT (List MatrixRoleRow × List Nat) Option Unit
  | 0, _ => failure
  | fuel + 1, row => do
    let (preorder, visited) ← get
    if visited.contains row.id then return ()
    else
      set (preorder ++ [row], row.id :: visited)
      (sortBy (compareRows locale) (rowsByParent chart row.id)).forM (walk locale chart fuel)

def matrixPreorder (locale : ChartLocale) (chart : List MatrixRoleRow) : Option (List MatrixRoleRow) :=
  let walkAll : StateT (List MatrixRoleRow × List Nat) Option Unit := do
    (sortBy (compareRows locale) (chart.filter (isRootRow chart))).forM
      (walk locale chart (chart.length + 1))
    -- anything a root cannot reach is walked afterwards
    (sortBy (compareRows locale) chart).forM (walk locale chart (chart.length + 1))
  (walkAll.run ([], [])).map fun (_, preorder, _) => preorder

/-! ## Bands -/

def rowById (roles : List MatrixRoleRow) (id : Nat) : Option MatrixRoleRow := roles.find? (·.id == id)

/-- The loop of `branchOf`. Each turn but the last consumes a row whose id was not seen
(`branchFrom_fuel`). -/
def branchFrom (roles : List MatrixRoleRow) : Nat → List Nat → Option MatrixRoleRow → Option String
  | 0, _, _ => none
  | _ + 1, _, none => none
  | fuel + 1, seen, some current =>
    if seen.contains current.id then none
    else if isServiceCommitteePostKey current.key then some current.key
    else branchFrom roles fuel (current.id :: seen) (current.parentRoleId.bind (rowById roles))

/-- The committee post this row reports under, however deep, or nothing. -/
def branchOf (roles : List MatrixRoleRow) (row : MatrixRoleRow) : Option String :=
  branchFrom roles (roles.length + 1) [] (some row)

def pushGroup (collapsedKeys : List String) (key : String) (label : Option String)
    (columns : List MatrixColumn) : List MatrixGroup :=
  if columns.isEmpty then [] else [⟨key, label, columns, collapsedKeys.contains key⟩]

def buildMatrixGroups (locale : ChartLocale) (roles : List MatrixRoleRow) (collapsedKeys : List String)
    (rolesWithPlainMembers : List Nat) : Option (List MatrixGroup) := do
  let preorder ← matrixPreorder locale (chartRows roles)
  let customPreorder := preorder.filter fun row => !row.isBuiltIn && isColumn roles rolesWithPlainMembers row
  let posts := serviceCommitteePostKeys.flatMap fun postKey =>
    let label := match roles.find? (·.key == postKey) with
      | some post => getRoleDisplayName locale post.key post.name
      | none => postKey
    pushGroup collapsedKeys postKey (some label)
      ((customPreorder.filter fun row => branchOf roles row == some postKey).map (toColumn locale))
  let others := pushGroup collapsedKeys "others" none
    ((customPreorder.filter fun row => branchOf roles row == none).map (toColumn locale))
  let offChart := roles.filter fun row =>
    !row.isBuiltIn && !row.showInOrganigram && isColumn roles rolesWithPlainMembers row
  return posts ++ others ++ pushGroup collapsedKeys "off-chart" none
    ((sortBy (fun a b => locale.localeCompare (getRoleDisplayName locale a.key a.name)
      (getRoleDisplayName locale b.key b.name)) offChart).map (toColumn locale))

/-- The row as the chart's query reads it; the notes are a column the matrix leaves out. -/
def MatrixRoleRow.organigramRole (notes : Nat → Option String) (row : MatrixRoleRow) : OrganigramRole :=
  ⟨row.id, row.key, row.name, row.isBuiltIn, row.parentRoleId, row.organigramOrder, notes row.id,
    row.isSinglePerson⟩

/-- The chart of the rows. -/
def chartOf (locale : ChartLocale) (notes : Nat → Option String) (holders : List OrganigramHolder)
    (roles : List MatrixRoleRow) : Option (List OrganigramNode) :=
  buildOrganigramTree locale ((chartRows roles).map (MatrixRoleRow.organigramRole notes)) holders

section Matrix

variable {locale : ChartLocale} {roles chart : List MatrixRoleRow} {notes : Nat → Option String}
  {holders : List OrganigramHolder}

/-! ## The branch of a row -/

theorem branchFrom_fuel {fuel : Nat} {seen : List Nat} {current : Option MatrixRoleRow}
    (hcurrent : ∀ row ∈ current, row ∈ roles)
    (h : unvisited MatrixRoleRow.id roles seen < fuel) :
    branchFrom roles (fuel + 1) seen current = branchFrom roles fuel seen current := by
  induction fuel generalizing seen current with
  | zero => omega
  | succ fuel ih =>
    cases current with
    | none => rfl
    | some row =>
      rw [branchFrom, branchFrom.eq_3]
      by_cases hseen : row.id ∈ seen
      · simp only [List.contains_iff_mem, hseen, if_true]
      · simp only [List.contains_iff_mem, hseen, if_false]
        split
        · rfl
        · refine ih (fun r hr => ?_) ?_
          · obtain ⟨parentId, -, hfind⟩ := Option.bind_eq_some_iff.mp hr
            exact List.mem_of_find?_eq_some hfind
          · have hless : unvisited MatrixRoleRow.id roles (row.id :: seen) < unvisited MatrixRoleRow.id roles seen :=
              unvisited_cons_lt (hcurrent row rfl) hseen
            omega

/-- A branch is a post's, or none. -/
theorem branchFrom_mem {fuel : Nat} {seen : List Nat} {current : Option MatrixRoleRow} :
    branchFrom roles fuel seen current ∈ serviceCommitteePostKeys.map some ++ [none] := by
  induction fuel generalizing seen current with
  | zero => rw [branchFrom]; simp
  | succ fuel ih =>
    cases current with
    | none => rw [branchFrom]; simp
    | some row =>
      rw [branchFrom]
      split
      · simp
      · split
        · rename_i hpost
          refine List.mem_append_left _ (List.mem_map_of_mem ?_)
          exact List.contains_iff_mem.mp hpost
        · exact ih

theorem branchOf_mem {row : MatrixRoleRow} :
    branchOf roles row ∈ serviceCommitteePostKeys.map some ++ [none] := branchFrom_mem

/-! ## The walk lists the chart -/

theorem isRootRow_iff {row : MatrixRoleRow} :
    isRootRow chart row = true ↔ ∀ r ∈ chart, row.parentRoleId ≠ some r.id := by
  unfold isRootRow
  cases row.parentRoleId with
  | none => simp
  | some parentId =>
    simp only [Bool.not_eq_true', ← Bool.not_eq_true, List.contains_iff_mem, List.mem_map, not_exists,
      not_and, ne_eq, Option.some.injEq]
    exact ⟨fun h r hr heq => h r hr heq.symm, fun h r hr heq => h r hr heq.symm⟩

theorem mem_rowsByParent {row child : MatrixRoleRow} (hrow : row ∈ chart) :
    child ∈ rowsByParent chart row.id ↔ child ∈ chart ∧ child.parentRoleId = some row.id := by
  unfold rowsByParent
  rw [List.mem_filter, Bool.and_eq_true, Bool.not_eq_true', ← Bool.not_eq_true, isRootRow_iff, beq_iff_eq]
  exact ⟨fun h => ⟨h.1, h.2.2⟩, fun h => ⟨h.1, fun hroot => hroot row hrow h.2, h.2⟩⟩

theorem rowPointers (locale : ChartLocale) (hids : Keyed MatrixRoleRow.id chart) :
    Pointers MatrixRoleRow.id MatrixRoleRow.parentRoleId chart (fun row => rowsByParent chart row.id)
      (sortBy (compareRows locale)) where
  keyed := hids
  mem_kids := fun hrow _ => mem_rowsByParent hrow
  nodup_kids := fun _ => hids.of_map.filter _
  sort_perm := fun _ => sortBy_perm

theorem walk_eq_visit {fuel : Nat} : walk locale chart fuel =
    visit MatrixRoleRow.id (fun row => rowsByParent chart row.id) (sortBy (compareRows locale)) fuel := by
  induction fuel with
  | zero => rfl
  | succ fuel ih =>
    funext row
    rw [walk, visit, ih]

instance transCmp_compareRows [Std.TransCmp locale.localeCompare] : Std.TransCmp (compareRows locale) :=
  have := transCmp_comap locale.localeCompare
    fun row : MatrixRoleRow => getRoleDisplayName locale row.key row.name
  inferInstanceAs (Std.TransCmp (compareLex
    (compareOn fun row : MatrixRoleRow => row.organigramOrder.getD 0)
    (fun a b => locale.localeCompare (getRoleDisplayName locale a.key a.name)
      (getRoleDisplayName locale b.key b.name))))

theorem isRootRole_map {row : MatrixRoleRow} :
    isRootRole (chart.map (MatrixRoleRow.organigramRole notes)) (row.organigramRole notes) =
      isRootRow chart row := by
  unfold isRootRole isRootRow
  rw [List.map_map]
  rfl

theorem rolesByParent_map {id : Nat} :
    rolesByParent (chart.map (MatrixRoleRow.organigramRole notes)) id =
      (rowsByParent chart id).map (MatrixRoleRow.organigramRole notes) := by
  unfold rolesByParent rowsByParent
  rw [List.filter_map]
  congr 1
  refine List.filter_congr fun row _ => ?_
  rw [Function.comp_apply, isRootRole_map]
  rfl

/-- **The matrix walks the chart**: the rows in preorder are the nodes of the chart, in order. -/
theorem matrixPreorder_eq (locale : ChartLocale) [Std.TransCmp locale.localeCompare]
    (notes : Nat → Option String) (holders : List OrganigramHolder) (hids : Keyed MatrixRoleRow.id chart) :
    ∃ tree preorder, buildOrganigramTree locale (chart.map (MatrixRoleRow.organigramRole notes)) holders
        = some tree ∧
      matrixPreorder locale chart = some preorder ∧
      preorder.map (·.id) = (flattenTree 0 none tree).map (·.node.id) ∧ preorder.Perm chart := by
  have hroots : ∀ row, row ∈ sortBy (compareRows locale) (chart.filter (isRootRow chart)) ↔
      row ∈ chart ∧ ∀ r ∈ chart, row.parentRoleId ≠ some r.id := fun row => by
    rw [mem_sortBy, List.mem_filter, isRootRow_iff]
  have hnodup : (sortBy (compareRows locale) (chart.filter (isRootRow chart))).Nodup :=
    sortBy_perm.nodup_iff.mpr (hids.of_map.filter _)
  have hp := rowPointers locale hids
  obtain ⟨ts, us, visited', hgrow, hrest, -, -, hperm, -⟩ := exists_forest _
    (sortBy (compareRows locale) chart) hp hroots hnodup (fun row => mem_sortBy) (Nat.le_refl chart.length)
  obtain ⟨s, hwalkRoots, hwalkRest⟩ := walkForest_eq hp (fun p l => sortBy_filter p) hroots hnodup
    (fun row => mem_sortBy) (Nat.le_refl chart.length) hgrow hrest
  have hsortMap : ∀ rows : List MatrixRoleRow,
      sortBy (compareRoles locale) (rows.map (MatrixRoleRow.organigramRole notes)) =
        (sortBy (compareRows locale) rows).map (MatrixRoleRow.organigramRole notes) := fun rows =>
    sortBy_map _ rows
  have hrootsMap : sortBy (compareRoles locale) ((chart.map (MatrixRoleRow.organigramRole notes)).filter
      (isRootRole (chart.map (MatrixRoleRow.organigramRole notes)))) =
        (sortBy (compareRows locale) (chart.filter (isRootRow chart))).map
          (MatrixRoleRow.organigramRole notes) := by
    rw [← hsortMap, List.filter_map]
    congr 2
    exact List.filter_congr fun row _ => isRootRole_map
  refine ⟨(ts ++ us).map (Rose.fold fun row => roleNode locale holders (row.organigramRole notes)),
    Rose.preorder (ts ++ us), ?_, ?_, ?_, hperm⟩
  · -- the chart's rows are images of the matrix's, so that both passes run over the same rows
    have hids : ∀ row : MatrixRoleRow, (row.organigramRole notes).id = row.id := fun row => rfl
    have hkids : ∀ row : MatrixRoleRow,
        rolesByParent (chart.map (MatrixRoleRow.organigramRole notes)) (row.organigramRole notes).id =
          (rowsByParent chart row.id).map (MatrixRoleRow.organigramRole notes) := fun row => rolesByParent_map
    rw [List.map_append]
    refine buildOrganigramTree_of_runs (?_ : _ = some (_, ((Rose.preorder ts).map MatrixRoleRow.id).reverse))
      (?_ : _ = some (_, visited'))
    · rw [hrootsMap, List.length_map, growAll_comap hids hkids hsortMap, growAll_fold, hgrow,
        Option.map_some]
    · rw [hsortMap, List.length_map, growRest_comap hids hkids hsortMap, growRest_fold, hrest,
        Option.map_some]
  · unfold matrixPreorder
    rw [walk_eq_visit]
    dsimp only
    rw [StateT.run_bind, hwalkRoots]
    simp only [Option.bind_eq_bind, Option.bind_some, hwalkRest, Option.map_some]
  · rw [show (fun entry : FlatEntry => entry.node.id) = OrganigramNode.id ∘ FlatEntry.node from rfl,
      ← List.map_map (f := FlatEntry.node), map_node_flattenTree (fun _ _ => rfl), Rose.preorder,
      List.map_map, List.map_map]
    refine List.map_congr_left fun t _ => ?_
    rw [Function.comp_apply, Function.comp_apply, Rose.fold_eq]
    rfl

/-! ## The bands -/

/-- The custom roles of the walk that qualify. -/
def customPreorder (roles : List MatrixRoleRow) (plain : List Nat) (preorder : List MatrixRoleRow) :
    List MatrixRoleRow := preorder.filter fun row => !row.isBuiltIn && isColumn roles plain row

/-- The roles outside the chart that qualify. -/
def offChartRows (roles : List MatrixRoleRow) (plain : List Nat) : List MatrixRoleRow :=
  roles.filter fun row => !row.isBuiltIn && !row.showInOrganigram && isColumn roles plain row

theorem mem_pushGroup {collapsedKeys : List String} {key : String} {label : Option String}
    {columns : List MatrixColumn} {group : MatrixGroup}
    (h : group ∈ pushGroup collapsedKeys key label columns) : group.key = key ∧ group.columns = columns := by
  unfold pushGroup at h
  split at h
  · cases h
  · rw [List.mem_singleton] at h
    subst h
    exact ⟨rfl, rfl⟩

@[simp] theorem flatMap_columns_pushGroup {collapsedKeys : List String} {key : String}
    {label : Option String} {columns : List MatrixColumn} :
    (pushGroup collapsedKeys key label columns).flatMap (·.columns) = columns := by
  unfold pushGroup
  split
  · rename_i hempty
    rw [List.isEmpty_iff.mp hempty]
    rfl
  · simp

variable {collapsedKeys : List String} {plain : List Nat} {groups : List MatrixGroup}
  {preorder : List MatrixRoleRow}

/-- The columns of a band of the chart are rows of the walk, in its order. -/
theorem band_sublist (hpreorder : matrixPreorder locale (chartRows roles) = some preorder)
    (h : buildMatrixGroups locale roles collapsedKeys plain = some groups) {group : MatrixGroup}
    (hgroup : group ∈ groups) (hkey : group.key ≠ "off-chart") :
    (group.columns.map (·.id)).Sublist (preorder.map (·.id)) := by
  have hband : ∀ p : MatrixRoleRow → Bool,
      ((((customPreorder roles plain preorder).filter p).map (toColumn locale)).map (·.id)).Sublist
        (preorder.map (·.id)) := by
    intro p
    rw [List.map_map]
    exact (List.filter_sublist.trans List.filter_sublist).map _
  unfold buildMatrixGroups at h
  rw [hpreorder] at h
  simp only [Option.bind_eq_bind, Option.bind_some, Option.pure_def, Option.some.injEq] at h
  subst h
  rw [List.mem_append, List.mem_append, List.mem_flatMap] at hgroup
  rcases hgroup with (⟨postKey, -, hpost⟩ | hothers) | hoff
  · rw [(mem_pushGroup hpost).2]
    exact hband _
  · rw [(mem_pushGroup hothers).2]
    exact hband _
  · exact absurd (mem_pushGroup hoff).1 hkey

/-- The columns of all bands are the custom roles that qualify. -/
theorem columns_perm (hpreorder : matrixPreorder locale (chartRows roles) = some preorder)
    (hperm : preorder.Perm (chartRows roles))
    (h : buildMatrixGroups locale roles collapsedKeys plain = some groups) :
    ((groups.flatMap (·.columns)).map (·.id)).Perm
      ((roles.filter fun row => !row.isBuiltIn && isColumn roles plain row).map (·.id)) := by
  have hcolumns : ∀ rows : List MatrixRoleRow,
      (rows.map (toColumn locale)).map (·.id) = rows.map (·.id) := fun rows => by
    rw [List.map_map]
    rfl
  have hbranches : (serviceCommitteePostKeys.map some ++ [none]).Nodup := by decide
  have hparted : ((serviceCommitteePostKeys.map some ++ [none]).flatMap fun branch =>
      (customPreorder roles plain preorder).filter fun row => branchOf roles row == branch).Perm
        (customPreorder roles plain preorder) :=
    flatMap_filter_perm hbranches fun row _ => branchOf_mem
  have hwalked : (customPreorder roles plain preorder).Perm ((roles.filter fun row =>
      !row.isBuiltIn && isColumn roles plain row).filter (·.showInOrganigram)) := by
    refine (hperm.filter _).trans (List.Perm.of_eq ?_)
    rw [chartRows, List.filter_filter, List.filter_filter]
    exact List.filter_congr fun row _ => Bool.and_comm _ _
  have hoff : offChartRows roles plain = (roles.filter fun row =>
      !row.isBuiltIn && isColumn roles plain row).filter fun row => !row.showInOrganigram := by
    rw [offChartRows, List.filter_filter]
    refine List.filter_congr fun row _ => ?_
    rw [Bool.and_right_comm, Bool.and_comm]
  have hall := (List.filter_append_perm (·.showInOrganigram)
    (roles.filter fun row => !row.isBuiltIn && isColumn roles plain row))
  rw [← hoff] at hall
  refine List.Perm.trans ?_ ((((hparted.trans hwalked).append_right _).trans hall).map _)
  unfold buildMatrixGroups at h
  rw [hpreorder] at h
  simp only [Option.bind_eq_bind, Option.bind_some, Option.pure_def, Option.some.injEq] at h
  subst h
  simp only [List.flatMap_append, List.flatMap_assoc, flatMap_columns_pushGroup, List.map_append,
    hcolumns, List.map_flatMap, List.flatMap_cons, List.flatMap_nil, List.flatMap_map, List.append_nil]
  exact List.Perm.append (List.Perm.refl _) (sortBy_perm.map _)

end Matrix

/-! ## The matrix and the chart -/

/-- **The bands of the matrix follow the chart**: each lists its columns in the order of the chart made of
the same rows, every custom role that qualifies as a column stands in one band, and no custom role with
plain members is dropped. -/
theorem matrix_follows_chart (locale : ChartLocale) [Std.TransCmp locale.localeCompare]
    (notes : Nat → Option String) (holders : List OrganigramHolder) (roles : List MatrixRoleRow)
    (collapsedKeys : List String) (rolesWithPlainMembers : List Nat)
    (hids : Keyed MatrixRoleRow.id roles) :
    ∃ tree groups, chartOf locale notes holders roles = some tree ∧
      buildMatrixGroups locale roles collapsedKeys rolesWithPlainMembers = some groups ∧
      (∀ group ∈ groups, group.key ≠ "off-chart" →
        (group.columns.map (·.id)).Sublist ((flattenTree 0 none tree).map (·.node.id))) ∧
      (∀ row ∈ roles, row.isBuiltIn = false → isColumn roles rolesWithPlainMembers row = true →
        (groups.filter fun group => (group.columns.map (·.id)).contains row.id).length = 1) ∧
      (∀ row ∈ roles, row.isBuiltIn = false → row.id ∈ rolesWithPlainMembers →
        ∃ group ∈ groups, row.id ∈ group.columns.map (·.id)) := by
  have hchart : Keyed MatrixRoleRow.id (chartRows roles) := hids.filter _
  obtain ⟨tree, preorder, htree, hpreorder, horder, hperm⟩ := matrixPreorder_eq locale notes holders hchart
  obtain ⟨groups, hgroups⟩ : ∃ groups,
      buildMatrixGroups locale roles collapsedKeys rolesWithPlainMembers = some groups := by
    unfold buildMatrixGroups
    rw [hpreorder]
    exact ⟨_, rfl⟩
  have hcolumns := columns_perm hpreorder hperm hgroups
  have hnodup : ((groups.flatMap (·.columns)).map (·.id)).Nodup := hcolumns.nodup_iff.mpr (hids.filter _)
  rw [List.map_flatMap] at hcolumns hnodup
  have hin : ∀ row ∈ roles, row.isBuiltIn = false → isColumn roles rolesWithPlainMembers row = true →
      row.id ∈ groups.flatMap fun group => group.columns.map (·.id) := by
    intro row hrow hcustom hcolumn
    refine hcolumns.mem_iff.mpr (List.mem_map_of_mem (List.mem_filter.mpr ⟨hrow, ?_⟩))
    rw [hcustom, hcolumn]
    rfl
  refine ⟨tree, groups, htree, hgroups, ?_, ?_, ?_⟩
  · intro group hgroup hkey
    rw [← horder]
    exact band_sublist hpreorder hgroups hgroup hkey
  · intro row hrow hcustom hcolumn
    exact length_filter_mem_eq_one hnodup (hin row hrow hcustom hcolumn)
  · intro row hrow hcustom hplain
    have hcolumn : isColumn roles rolesWithPlainMembers row = true := by
      unfold isColumn
      rw [if_pos (List.contains_iff_mem.mpr hplain)]
    exact List.mem_flatMap.mp (hin row hrow hcustom hcolumn)

/-- A row of the chart, or of none. -/
def matrixRow (id : Nat) (key : String) (isBuiltIn showInOrganigram : Bool) (parentRoleId : Option Nat)
    (organigramOrder : Option Int) : MatrixRoleRow :=
  ⟨id, key, some key, isBuiltIn, false, showInOrganigram, parentRoleId, organigramOrder⟩

/-- The secretary's branch stands before the coordinator's; the administrators are outside the chart. -/
def reorderedPosts : List MatrixRoleRow :=
  [matrixRow 1 "elder" true true none none, matrixRow 2 "service-committee" true true (some 1) none,
    matrixRow 3 "coordinator" true true (some 2) (some 10),
    matrixRow 4 "secretary" true true (some 2) (some 5), matrixRow 5 "Accueil" false true (some 3) (some 5),
    matrixRow 6 "Comptes" false true (some 4) (some 5), matrixRow 7 "admin" true false none none]

theorem matrix_follows_chart_posts :
    ∃ tree groups, chartOf plainLocale (fun _ => none) [] reorderedPosts = some tree ∧
      buildMatrixGroups plainLocale reorderedPosts [] [5] = some groups ∧
      (∀ group ∈ groups, group.key ≠ "off-chart" →
        (group.columns.map (·.id)).Sublist ((flattenTree 0 none tree).map (·.node.id))) := by
  obtain ⟨tree, groups, htree, hgroups, horder, -, -⟩ := matrix_follows_chart plainLocale (fun _ => none) []
    reorderedPosts [] [5] (by decide)
  exact ⟨tree, groups, htree, hgroups, horder⟩

/-- The bands stand in the order of the posts, not of the chart; and a built-in role that qualifies has no
column. -/
theorem bands_not_in_chart_order :
    ((chartOf plainLocale (fun _ => none) [] reorderedPosts).map fun tree =>
        (flattenTree 0 none tree).map (·.node.id)) = some [1, 2, 4, 6, 3, 5] ∧
      ((buildMatrixGroups plainLocale reorderedPosts [] []).map fun groups =>
        (groups.flatMap (·.columns)).map (·.id)) = some [5, 6] ∧
      ¬[5, 6].Sublist [1, 2, 4, 6, 3, 5] ∧
      isColumn reorderedPosts [] (matrixRow 7 "admin" true false none none) = true := by
  decide +kernel

end Unitae.Roles
