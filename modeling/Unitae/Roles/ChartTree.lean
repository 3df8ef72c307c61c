import Unitae.Base.PointerTree
import Unitae.Base.Sorting
import Unitae.Dates
import Unitae.Roles.TreePolicy

/-!
# Unitae — assembling the chart (`organigram.queries.ts`)

`buildOrganigramTree` makes the flat rows of the chart into a forest, and `flattenTree`
(`organigram-layout.ts`) lists the forest's nodes, a node before what is below it.

The names of the built-in roles and the collation of names are the runtime's: a `ChartLocale`.
-/

namespace Unitae.Roles

/-! ## The rows -/

structure OrganigramRole where
  id : Nat
  key : String
  name : Option String
  isBuiltIn : Bool
  parentRoleId : Option Nat
  organigramOrder : Option Int
  organigramNote : Option String
  isSinglePerson : Bool
deriving DecidableEq, Repr

structure OrganigramHolder where
  roleId : Nat
  memberId : Nat
  firstname : Option String
  lastname : Option String
  anonymizedAt : Option Instant
  kind : SeatKind
  isElder : Bool
deriving DecidableEq, Repr

structure ChartLocale where
  /-- `BUILT_IN_NAMES[key]?.()`. -/
  builtInName : String → Option String
  /-- `left.localeCompare(right)`. -/
  localeCompare : String → String → Ordering

/-- `getRoleDisplayName`. -/
def getRoleDisplayName (locale : ChartLocale) (key : String) (name : Option String) : String :=
  match name.filter (· ≠ "") with
  | some name => name
  | none => (locale.builtInName key).getD key

/-- `SEAT_RANK`. -/
def SeatKind.rank : SeatKind → Nat
  | .leader => 0
  | .deputy => 1
  | .member => 2

def compareHolders (locale : ChartLocale) (a b : OrganigramHolder) : Ordering :=
  (compare a.kind.rank b.kind.rank).then
    (locale.localeCompare (a.lastname.getD "") (b.lastname.getD ""))

def compareRoles (locale : ChartLocale) (a b : OrganigramRole) : Ordering :=
  (compare (a.organigramOrder.getD 0) (b.organigramOrder.getD 0)).then
    (locale.localeCompare (getRoleDisplayName locale a.key a.name) (getRoleDisplayName locale b.key b.name))

/-! ## The tree -/

structure OrganigramNode where
  id : Nat
  key : String
  name : String
  note : Option String
  isRoster : Bool
  isSinglePerson : Bool
  holders : List OrganigramHolder
  children : List OrganigramNode

/-- `parentId == null || !known.has(parentId)`. -/
def isRootRole (roles : List OrganigramRole) (role : OrganigramRole) : Bool :=
  match role.parentRoleId with
  | none => true
  | some parentId => !(roles.map (·.id)).contains parentId

/-- `byParent.get(parentId)`. -/
def rolesByParent (roles : List OrganigramRole) (parentId : Nat) : List OrganigramRole :=
  roles.filter fun role => !isRootRole roles role && role.parentRoleId == some parentId

/-- `holdersByRole.get(roleId)`. -/
def holdersByRole (holders : List OrganigramHolder) (roleId : Nat) : List OrganigramHolder :=
  holders.filter (·.roleId == roleId)

/-- The node of a role above the nodes below it. -/
def roleNode (locale : ChartLocale) (holders : List OrganigramHolder) (role : OrganigramRole)
    (children : List OrganigramNode) : OrganigramNode where
  id := role.id
  key := role.key
  name := getRoleDisplayName locale role.key role.name
  note := role.organigramNote
  isRoster := organigramRosterKeys.contains role.key
  isSinglePerson := role.isSinglePerson
  holders := sortBy (compareHolders locale) (holdersByRole holders role.id)
  children := children

/-- `buildNode`, with the ids visited so far. A nested call visits a role that was not, so as many
levels as there are roles are enough (`buildOrganigramTree_eq`). -/
def buildNode (locale : ChartLocale) (roles : List OrganigramRole) (holders : List OrganigramHolder) :
    Nat → OrganigramRole → StateT (List Nat) Option OrganigramNode
  | 0, _ => failure
  | fuel + 1, role => do
    modify (role.id :: ·)
    let visited ← get
    let children ← (sortBy (compareRoles locale)
      ((rolesByParent roles role.id).filter fun child => !visited.contains child.id)).mapM
        (buildNode locale roles holders fuel)
    return roleNode locale holders role children

def buildOrganigramTree (locale : ChartLocale) (roles : List OrganigramRole)
    (holders : List OrganigramHolder) : Option (List OrganigramNode) :=
  let build : StateT (List Nat) Option (List OrganigramNode) := do
    let tree ← (sortBy (compareRoles locale) (roles.filter (isRootRole roles))).mapM
      (buildNode locale roles holders roles.length)
    -- what is not visited yet sits in a cycle, so no root reaches it
    let surfaced ← (sortBy (compareRoles locale) roles).filterMapM fun role => do
      if (← get).contains role.id then return none
      else return some (← buildNode locale roles holders roles.length role)
    return tree ++ surfaced
  build.run' []

/-! ## The nodes in order -/

structure FlatEntry where
  id : Nat
  label : String
  node : OrganigramNode
  parentId : Option Nat
  parentName : Option String

/-- Two non-breaking spaces a level. -/
def indentation (depth : Nat) : String := String.join (List.replicate depth "\u00a0\u00a0")

mutual

def flattenTree (depth : Nat) (parent : Option OrganigramNode) : List OrganigramNode → List FlatEntry
  | [] => []
  | node :: tree => flattenNode depth parent node ++ flattenTree depth parent tree

def flattenNode (depth : Nat) (parent : Option OrganigramNode) : OrganigramNode → List FlatEntry
  | node@⟨_, _, _, _, _, _, _, children⟩ =>
    { id := node.id
      label := indentation depth ++ node.name
      node := node
      parentId := parent.map (·.id)
      parentName := parent.map (·.name) } :: flattenTree (depth + 1) (some node) children

end

@[simp] theorem flattenTree_nil {depth : Nat} {parent : Option OrganigramNode} :
    flattenTree depth parent [] = [] := by
  rw [flattenTree]

theorem flattenTree_cons {depth : Nat} {parent : Option OrganigramNode} {node : OrganigramNode}
    {tree : List OrganigramNode} : flattenTree depth parent (node :: tree) =
      ⟨node.id, indentation depth ++ node.name, node, parent.map (·.id), parent.map (·.name)⟩
        :: flattenTree (depth + 1) (some node) node.children ++ flattenTree depth parent tree := by
  cases node
  rw [flattenTree, flattenNode]

section Tree

variable {locale : ChartLocale} {roles : List OrganigramRole} {holders : List OrganigramHolder}

/-! ## The tree as a forest of pointers -/

/-- The nodes of the chart, listed, are its trees' nodes. -/
theorem map_node_flattenTree {α : Type} {mk : α → List OrganigramNode → OrganigramNode}
    (hmk : ∀ a nodes, (mk a nodes).children = nodes) {depth : Nat} {parent : Option OrganigramNode}
    {ts : List (Rose α)} : (flattenTree depth parent (ts.map (Rose.fold mk))).map (·.node) =
      (Rose.allSubtrees ts).map (Rose.fold mk) := by
  induction ts using Rose.forestInduction generalizing depth parent with
  | nil => simp
  | cons a below rest ihbelow ihrest =>
    have hnode : (Rose.node a below).fold mk = mk a (below.map (Rose.fold mk)) := Rose.fold_eq _ _
    rw [List.map_cons, flattenTree_cons, Rose.allSubtrees_cons, Rose.children, List.map_append,
      List.map_cons, List.map_append, List.map_cons, ihrest, hnode, hmk, ihbelow]

theorem isRootRole_iff {role : OrganigramRole} :
    isRootRole roles role = true ↔ ∀ r ∈ roles, role.parentRoleId ≠ some r.id := by
  unfold isRootRole
  cases role.parentRoleId with
  | none => simp
  | some parentId =>
    simp only [Bool.not_eq_true', ← Bool.not_eq_true, List.contains_iff_mem, List.mem_map, not_exists,
      not_and, ne_eq, Option.some.injEq]
    exact ⟨fun h r hr heq => h r hr heq.symm, fun h r hr heq => h r hr heq.symm⟩

theorem mem_rolesByParent {role child : OrganigramRole} (hrole : role ∈ roles) :
    child ∈ rolesByParent roles role.id ↔ child ∈ roles ∧ child.parentRoleId = some role.id := by
  unfold rolesByParent
  rw [List.mem_filter, Bool.and_eq_true, Bool.not_eq_true', ← Bool.not_eq_true, isRootRole_iff, beq_iff_eq]
  exact ⟨fun h => ⟨h.1, h.2.2⟩, fun h => ⟨h.1, fun hroot => hroot role hrole h.2, h.2⟩⟩

theorem pointers (locale : ChartLocale) (hids : Keyed OrganigramRole.id roles) :
    Pointers OrganigramRole.id OrganigramRole.parentRoleId roles (fun role => rolesByParent roles role.id)
      (sortBy (compareRoles locale)) where
  keyed := hids
  mem_kids := fun hrow _ => mem_rolesByParent hrow
  nodup_kids := fun _ => hids.of_map.filter _
  sort_perm := fun _ => sortBy_perm

theorem buildNode_eq_grow {fuel : Nat} : buildNode locale roles holders fuel =
    grow OrganigramRole.id (fun role => rolesByParent roles role.id) (sortBy (compareRoles locale))
      (roleNode locale holders) fuel := by
  induction fuel with
  | zero => rfl
  | succ fuel ih =>
    funext role
    rw [buildNode, grow, ih]

/-- The chart is what its two passes grow. -/
theorem buildOrganigramTree_of_runs {tree surfaced : List OrganigramNode} {visited visited' : List Nat}
    (htree : (growAll OrganigramRole.id (fun role => rolesByParent roles role.id)
      (sortBy (compareRoles locale)) (roleNode locale holders) roles.length
      (sortBy (compareRoles locale) (roles.filter (isRootRole roles)))).run [] = some (tree, visited))
    (hsurfaced : (growRest OrganigramRole.id (fun role => rolesByParent roles role.id)
      (sortBy (compareRoles locale)) (roleNode locale holders) roles.length
      (sortBy (compareRoles locale) roles)).run visited = some (surfaced, visited')) :
    buildOrganigramTree locale roles holders = some (tree ++ surfaced) := by
  unfold growAll at htree
  unfold growRest at hsurfaced
  unfold buildOrganigramTree
  rw [buildNode_eq_grow]
  dsimp only
  rw [StateT.run'_eq, StateT.run_bind, htree]
  simp only [Option.bind_eq_bind, Option.bind_some, StateT.run_bind, hsurfaced, StateT.run_pure,
    Option.pure_def, Option.map_eq_map, Option.map_some]

/-- **The chart is always built**, and it is the forest of the roles' pointers. -/
theorem buildOrganigramTree_eq (locale : ChartLocale) (holders : List OrganigramHolder)
    (hids : Keyed OrganigramRole.id roles) :
    ∃ ts us, buildOrganigramTree locale roles holders =
        some ((ts ++ us).map (Rose.fold (roleNode locale holders))) ∧
      ts.map Rose.value = sortBy (compareRoles locale) (roles.filter (isRootRole roles)) ∧
      Forest OrganigramRole.id roles (fun role => rolesByParent roles role.id)
        (sortBy (compareRoles locale)) (ts ++ us) ∧
      (Rose.preorder (ts ++ us)).Perm roles ∧
      (AcyclicRows OrganigramRole.id OrganigramRole.parentRoleId roles → us = []) := by
  obtain ⟨ts, us, visited', hgrow, hrest, hvalues, hforest, hperm, hacyclic⟩ :=
    exists_forest (sortBy (compareRoles locale) (roles.filter (isRootRole roles)))
      (sortBy (compareRoles locale) roles) (pointers locale hids)
      (fun role => by rw [mem_sortBy, List.mem_filter, isRootRole_iff])
      (sortBy_perm.nodup_iff.mpr (hids.of_map.filter _)) (fun role => mem_sortBy) (Nat.le_refl roles.length)
  refine ⟨ts, us, ?_, hvalues, hforest, hperm, hacyclic⟩
  rw [List.map_append]
  have htree := growAll_fold.trans (congrArg (Option.map fun (ts, visited') =>
    (ts.map (Rose.fold (roleNode locale holders)), visited')) hgrow)
  have hsurfaced := growRest_fold.trans (congrArg (Option.map fun (us, visited') =>
    (us.map (Rose.fold (roleNode locale holders)), visited')) hrest)
  exact buildOrganigramTree_of_runs htree hsurfaced

instance transCmp_compareRoles [Std.TransCmp locale.localeCompare] : Std.TransCmp (compareRoles locale) :=
  have := transCmp_comap locale.localeCompare
    fun role : OrganigramRole => getRoleDisplayName locale role.key role.name
  inferInstanceAs (Std.TransCmp (compareLex
    (compareOn fun role : OrganigramRole => role.organigramOrder.getD 0)
    (fun a b => locale.localeCompare (getRoleDisplayName locale a.key a.name)
      (getRoleDisplayName locale b.key b.name))))

/-- What a node shows of its role. -/
structure Shows (locale : ChartLocale) (holders : List OrganigramHolder) (role : OrganigramRole)
    (node : OrganigramNode) : Prop where
  id : node.id = role.id
  key : node.key = role.key
  name : node.name = getRoleDisplayName locale role.key role.name
  note : node.note = role.organigramNote
  isRoster : node.isRoster = organigramRosterKeys.contains role.key
  isSinglePerson : node.isSinglePerson = role.isSinglePerson
  holders : node.holders.Perm (holdersByRole holders role.id)

theorem shows_fold {t : Rose OrganigramRole} :
    Shows locale holders t.value (t.fold (roleNode locale holders)) := by
  rw [Rose.fold_eq]
  exact ⟨rfl, rfl, rfl, rfl, rfl, rfl, sortBy_perm⟩

theorem ids_flattenTree {depth : Nat} {parent : Option OrganigramNode} {ts : List (Rose OrganigramRole)} :
    (flattenTree depth parent (ts.map (Rose.fold (roleNode locale holders)))).map (·.node.id) =
      (Rose.preorder ts).map OrganigramRole.id := by
  have hmk : ∀ a nodes, (roleNode locale holders a nodes).children = nodes := fun _ _ => rfl
  rw [show (fun entry : FlatEntry => entry.node.id) = OrganigramNode.id ∘ FlatEntry.node from rfl,
    ← List.map_map, map_node_flattenTree hmk, Rose.preorder, List.map_map, List.map_map]
  exact List.map_congr_left fun t _ => shows_fold.id

end Tree

/-! ## The chart loses nobody -/

/-- **Building the chart loses nobody**, whatever the parents of the roles are; and where no role is
above itself, below each stand the roles whose parent it is, in the order of `compareRoles`. -/
theorem organigram_complete (locale : ChartLocale) [Std.TransCmp locale.localeCompare]
    (roles : List OrganigramRole) (holders : List OrganigramHolder)
    (hids : Keyed OrganigramRole.id roles) :
    ∃ tree, buildOrganigramTree locale roles holders = some tree ∧
      ((flattenTree 0 none tree).map (·.node.id)).Perm (roles.map (·.id)) ∧
      (∀ entry ∈ flattenTree 0 none tree, ∃ role ∈ roles, Shows locale holders role entry.node) ∧
      (AcyclicRows OrganigramRole.id OrganigramRole.parentRoleId roles →
        ∀ entry ∈ flattenTree 0 none tree, ∃ children : List OrganigramRole,
          List.Forall₂ (Shows locale holders) children entry.node.children ∧
            children.Perm (roles.filter (·.parentRoleId == some entry.node.id)) ∧
            children.Pairwise fun a b => (compareRoles locale a b).isLE = true) := by
  obtain ⟨ts, us, hbuild, hvalues, hforest, hperm, hacyclic⟩ :=
    buildOrganigramTree_eq locale holders hids
  have hnodes : (flattenTree 0 none ((ts ++ us).map (Rose.fold (roleNode locale holders)))).map
      (·.node) = (Rose.allSubtrees (ts ++ us)).map (Rose.fold (roleNode locale holders)) :=
    map_node_flattenTree fun _ _ => rfl
  have hentry : ∀ entry ∈ flattenTree 0 none ((ts ++ us).map (Rose.fold (roleNode locale holders))),
      ∃ t ∈ Rose.allSubtrees (ts ++ us), t.fold (roleNode locale holders) = entry.node := by
    intro entry hin
    have hnode := List.mem_map_of_mem (f := fun entry : FlatEntry => entry.node) hin
    rw [hnodes] at hnode
    exact List.mem_map.mp hnode
  refine ⟨_, hbuild, ?_, ?_, ?_⟩
  · rw [ids_flattenTree]
    exact hperm.map _
  · intro entry hin
    obtain ⟨t, ht, hnode⟩ := hentry entry hin
    exact ⟨t.value, hforest.within _ (Rose.mem_preorder_of_mem ht), hnode ▸ shows_fold⟩
  · -- no role is left for the second pass, so that the roots have no parent
    intro hall entry hin
    obtain ⟨t, ht, hnode⟩ := hentry entry hin
    obtain rfl := hacyclic hall
    rw [List.append_nil] at hforest ht
    have hval := hforest.within _ (Rose.mem_preorder_of_mem ht)
    have hbelow := hforest.below_all (pointers locale hids) (fun root hroot => by
      have hmem := List.mem_map_of_mem (f := Rose.value) hroot
      rw [hvalues, mem_sortBy, List.mem_filter, isRootRole_iff] at hmem
      exact hmem.2) ht
    refine ⟨t.children.map Rose.value, ?_, ?_, ?_⟩
    · rw [← hnode, Rose.fold_eq]
      show List.Forall₂ _ _ (t.children.map (Rose.fold (roleNode locale holders)))
      rw [List.forall₂_map_left_iff, List.forall₂_map_right_iff, List.forall₂_same]
      exact fun c _ => shows_fold
    · rw [hbelow, ← hnode, shows_fold.id]
      refine sortBy_perm.trans (List.Perm.of_eq ?_)
      refine List.filter_congr fun r hr => ?_
      rw [Bool.eq_iff_iff]
      have hiff : r ∈ rolesByParent roles t.value.id ↔ r ∈ roles ∧ r.parentRoleId = some t.value.id :=
        mem_rolesByParent hval
      unfold rolesByParent at hiff
      rw [List.mem_filter] at hiff
      rw [beq_iff_eq]
      exact ⟨fun h => (hiff.mp ⟨hr, h⟩).2, fun h => (hiff.mpr ⟨hr, h⟩).2⟩
    · rw [hbelow]
      exact sortBy_pairwise

/-- The names as the database has them, compared by their letters. -/
def plainLocale : ChartLocale where
  builtInName := fun _ => none
  localeCompare := compare

instance transCmp_plainLocale : Std.TransCmp plainLocale.localeCompare :=
  inferInstanceAs (Std.TransCmp (compare : String → _))

def chartRole (id : Nat) (key : String) (parentRoleId : Option Nat) (organigramOrder : Option Int) :
    OrganigramRole := ⟨id, key, some key, false, parentRoleId, organigramOrder, none, false⟩

/-- Two roles above each other and one under a role that is gone. -/
theorem organigram_complete_cycle :
    ∃ tree, buildOrganigramTree plainLocale
        [chartRole 1 "Sono" (some 2) none, chartRole 2 "Accueil" (some 1) none,
          chartRole 3 "Estrade" (some 9) none] [⟨2, 7, none, some "Martin", none, .leader, false⟩] = some tree ∧
      ((flattenTree 0 none tree).map (·.node.id)).Perm [1, 2, 3] := by
  obtain ⟨tree, hbuild, hall, -, -⟩ := organigram_complete plainLocale
    [chartRole 1 "Sono" (some 2) none, chartRole 2 "Accueil" (some 1) none,
      chartRole 3 "Estrade" (some 9) none] [⟨2, 7, none, some "Martin", none, .leader, false⟩] (by decide)
  exact ⟨tree, hbuild, hall⟩

/-- The cycle is cut above the first of its roles. -/
example : (buildOrganigramTree plainLocale
    [chartRole 1 "Sono" (some 2) none, chartRole 2 "Accueil" (some 1) none,
      chartRole 3 "Estrade" (some 9) none] []).map (fun tree =>
        (flattenTree 0 none tree).map fun entry => (entry.id, entry.parentId)) =
    some [(3, none), (2, none), (1, some 2)] := by
  decide +kernel

end Unitae.Roles
