import Unitae.Base.Reach
import Unitae.Roles.ChartTree
import Unitae.Roles.SiblingOrder

/-!
# Unitae — where a node may be moved (`organigram-panel.server.ts`, `organigram.queries.ts`)

`buildMoveTargets` offers every node of the chart but the selected one and what is below it. The service
asks the stored rows: it refuses a target that has the node above it, and one so deep that the node's
branch would pass the chart's depth.
-/

namespace Unitae.Roles

/-! ## The picker -/

/-- Every node below this one, at any depth. A turn takes a link whose parent was not passed, so as many
turns as there are links are enough (`mem_descendantIds`). -/
def descendantIds (links : List TreeLink) (rootId : Nat) : List Nat :=
  walkQueue (childrenOf links) links.length [rootId] (childrenOf links rootId)

structure MoveTarget where
  id : Nat
  label : String
deriving DecidableEq, Repr

def entryLinks (flat : List FlatEntry) : List TreeLink := flat.map fun entry => ⟨entry.id, entry.parentId⟩

def buildMoveTargets (flat : List FlatEntry) (selected : Option FlatEntry) : List MoveTarget :=
  let forbidden := match selected with
    | some selected => selected.id :: descendantIds (entryLinks flat) selected.id
    | none => []
  (flat.filter fun entry => !forbidden.contains entry.id).map fun entry => ⟨entry.id, entry.label⟩

/-! ## What is above and below a node of links -/

section Links

variable {links : List TreeLink} {seen : List Nat} {fuel x rootId : Nat}

/-- How many links have a parent that was not passed. -/
def unpassed (links : List TreeLink) (passed : List Nat) : Nat :=
  links.countP fun link => link.parentRoleId.any fun parentId => !passed.contains parentId

theorem unpassed_cons (hnew : x ∉ seen) :
    unpassed links (x :: seen) + (childrenOf links x).length ≤ unpassed links seen := by
  unfold unpassed childrenOf
  rw [List.length_map, ← List.countP_eq_length_filter]
  induction links with
  | nil => simp
  | cons link links ih =>
    -- a link below `x` is counted once before, and not any more
    have hlink : (if link.parentRoleId.any fun parentId => !(x :: seen).contains parentId then 1 else 0) +
        (if link.parentRoleId == some x then 1 else 0) ≤
        if link.parentRoleId.any fun parentId => !seen.contains parentId then 1 else 0 := by
      cases link.parentRoleId with
      | none => simp
      | some parentId =>
        by_cases hx : parentId = x
        · subst hx
          simp [hnew]
        · by_cases hin : parentId ∈ seen
          · simp [hx, hin]
          · simp [hx, hin]
    simp only [List.countP_cons]
    omega

theorem mem_descendantIds : x ∈ descendantIds links rootId ↔
    x ≠ rootId ∧ Relation.ReflTransGen (fun a b => b ∈ childrenOf links a) rootId x :=
  mem_walkQueue_iff (fun _ _ hnew => unpassed_cons hnew) List.countP_le_length

/-! ### The chain of parents -/

theorem chainFrom_sound {current : Option Nat} (h : x ∈ chainFrom links fuel seen current) :
    ∃ id, current = some id ∧ Relation.ReflTransGen (fun a b => linkParent links a = some b) id x := by
  induction fuel generalizing seen current with
  | zero => cases h
  | succ fuel ih =>
    cases current with
    | none => cases h
    | some id =>
      rw [chainFrom] at h
      by_cases hid : seen.contains id = true
      · rw [if_pos hid] at h
        cases h
      · rw [if_neg hid] at h
        refine ⟨id, rfl, ?_⟩
        rcases List.mem_cons.mp h with rfl | h
        · exact .refl
        · obtain ⟨parentId, hparent, hreach⟩ := ih h
          exact .head hparent hreach

theorem chainFrom_closed (seen : List Nat) (current : Option Nat)
    (hfuel : (unseen links seen).length < fuel) :
    (∀ id, current = some id → id ∈ seen ∨ id ∈ chainFrom links fuel seen current) ∧
      ∀ id ∈ chainFrom links fuel seen current, ∀ parentId, linkParent links id = some parentId →
        parentId ∈ seen ∨ parentId ∈ chainFrom links fuel seen current := by
  induction fuel generalizing seen current with
  | zero => omega
  | succ fuel ih =>
    cases current with
    | none => simp [chainFrom]
    | some id =>
      rw [chainFrom]
      by_cases hid : seen.contains id = true
      · rw [if_pos hid]
        refine ⟨fun id' heq => .inl ?_, by simp⟩
        rw [← Option.some.inj heq]
        exact List.contains_iff_mem.mp hid
      · rw [if_neg hid]
        refine ⟨fun id' heq => .inr (Option.some.inj heq ▸ List.mem_cons_self), ?_⟩
        intro y hy z hz
        cases hparent : linkParent links id with
        | none =>
          have hend : chainFrom links fuel (id :: seen) none = [] := by cases fuel <;> rfl
          rw [hparent, hend, List.mem_singleton] at hy
          rw [hy, hparent] at hz
          cases hz
        | some parentId =>
          rw [hparent] at hy
          obtain ⟨link, hlink, hlinkId, -⟩ := linkParent_mem hparent
          have hlt := unseen_lt ⟨link, hlink, hlinkId⟩ (by simpa using hid)
          obtain ⟨hstart, hclosed⟩ := ih (id :: seen) (some parentId) (by omega)
          have hnext : z ∈ id :: seen ∨ z ∈ chainFrom links fuel (id :: seen) (some parentId) := by
            rcases List.mem_cons.mp hy with rfl | hy
            · rw [hparent] at hz
              exact hstart z hz
            · exact hclosed y hy z hz
          rcases hnext with hz | hz
          · rcases List.mem_cons.mp hz with rfl | hz
            · exact .inr List.mem_cons_self
            · exact .inl hz
          · exact .inr (List.mem_cons_of_mem _ hz)

/-- **The chain of a node** is what following the parents reaches, cycles included. -/
theorem mem_ancestorChainIds {id : Nat} : x ∈ ancestorChainIds links (some id) ↔
    Relation.ReflTransGen (fun a b => linkParent links a = some b) id x := by
  constructor
  · intro h
    obtain ⟨id', heq, hreach⟩ := chainFrom_sound h
    exact Option.some.inj heq ▸ hreach
  · intro hreach
    have hfuel : (unseen links []).length < links.length + 1 :=
      Nat.lt_succ_of_le (List.length_filter_le _ _)
    obtain ⟨hstart, hclosed⟩ := chainFrom_closed [] (some id) hfuel
    have hmem : ∀ y, y ∈ ([] : List Nat) ∨ y ∈ ancestorChainIds links (some id) →
        y ∈ ancestorChainIds links (some id) := fun y hy => hy.resolve_left List.not_mem_nil
    induction hreach with
    | refl => exact hmem _ (hstart id rfl)
    | tail _ hstep ih => exact hmem _ (hclosed _ ih _ hstep)

end Links

/-! ## The chart as it is listed -/

section Listed

variable {α : Type} {mk : α → List OrganigramNode → OrganigramNode} {depth : Nat}
  {parent : Option OrganigramNode} {ts : List (Rose α)} {entry : FlatEntry} {t : Rose α}

theorem entry_id (h : entry ∈ flattenTree depth parent (ts.map (Rose.fold mk)))
    (hmk : ∀ a nodes, (mk a nodes).children = nodes) : entry.id = entry.node.id := by
  induction ts using Rose.forestInduction generalizing depth parent with
  | nil => simp at h
  | cons a below rest ihbelow ihrest =>
    have hnode : (Rose.node a below).fold mk = mk a (below.map (Rose.fold mk)) := Rose.fold_eq _ _
    rw [List.map_cons, flattenTree_cons, hnode, hmk, List.cons_append, List.mem_cons, List.mem_append] at h
    rcases h with rfl | hbelow | hrest
    · rfl
    · exact ihbelow hbelow
    · exact ihrest hrest

/-- An entry is a root's, or it stands below the node that is listed as its parent. -/
theorem entry_parent (h : entry ∈ flattenTree depth parent (ts.map (Rose.fold mk)))
    (hmk : ∀ a nodes, (mk a nodes).children = nodes) :
    (entry.parentId = parent.map (·.id) ∧ ∃ t ∈ ts, entry.id = (t.fold mk).id) ∨
      ∃ t ∈ Rose.allSubtrees ts, entry.parentId = some (t.fold mk).id ∧
        ∃ c ∈ t.children, entry.id = (c.fold mk).id := by
  induction ts using Rose.forestInduction generalizing depth parent with
  | nil => simp at h
  | cons a below rest ihbelow ihrest =>
    have hnode : (Rose.node a below).fold mk = mk a (below.map (Rose.fold mk)) := Rose.fold_eq _ _
    have hfirst : Rose.node a below ∈ Rose.allSubtrees (Rose.node a below :: rest) := by simp
    have hrest' : ∀ u ∈ Rose.allSubtrees rest, u ∈ Rose.allSubtrees (Rose.node a below :: rest) := by
      simp +contextual
    have hbelow' : ∀ u ∈ Rose.allSubtrees below, u ∈ Rose.allSubtrees (Rose.node a below :: rest) := by
      simp +contextual [Rose.children]
    rw [List.map_cons, flattenTree_cons, hnode, hmk, List.cons_append, List.mem_cons, List.mem_append] at h
    rcases h with rfl | hbelow | hrest
    · exact .inl ⟨rfl, _, List.mem_cons_self, by rw [hnode]⟩
    · rcases ihbelow hbelow with ⟨hparent, c, hc, hid⟩ | ⟨t, ht, hparent, hchild⟩
      · exact .inr ⟨_, hfirst, by rw [hparent, hnode]; rfl, c, hc, hid⟩
      · exact .inr ⟨t, hbelow' t ht, hparent, hchild⟩
    · rcases ihrest hrest with ⟨hparent, t, ht, hid⟩ | ⟨t, ht, hparent, hchild⟩
      · exact .inl ⟨hparent, t, List.mem_cons_of_mem _ ht, hid⟩
      · exact .inr ⟨t, hrest' t ht, hparent, hchild⟩

theorem exists_root_entry (depth : Nat) (parent : Option OrganigramNode) {node : OrganigramNode} {tree : List OrganigramNode} (hnode : node ∈ tree) :
    ∃ entry ∈ flattenTree depth parent tree, entry.id = node.id ∧ entry.parentId = parent.map (·.id) := by
  induction tree with
  | nil => cases hnode
  | cons first tree ih =>
    rw [flattenTree_cons]
    rcases List.mem_cons.mp hnode with rfl | hin
    · exact ⟨_, List.mem_append_left _ List.mem_cons_self, rfl, rfl⟩
    · obtain ⟨entry, hentry, hid⟩ := ih hin
      exact ⟨entry, List.mem_append_right _ hentry, hid⟩

/-- Every entry is reached from a root. -/
theorem entry_reached (flat : List FlatEntry)
    (h : entry ∈ flattenTree depth parent (ts.map (Rose.fold mk)))
    (hflat : ∀ e ∈ flattenTree depth parent (ts.map (Rose.fold mk)), e ∈ flat)
    (hmk : ∀ a nodes, (mk a nodes).children = nodes) :
    ∃ t ∈ ts, Relation.ReflTransGen (fun a b => b ∈ childrenOf (entryLinks flat) a) (t.fold mk).id entry.id := by
  induction ts using Rose.forestInduction generalizing depth parent with
  | nil => simp at h
  | cons a below rest ihbelow ihrest =>
    have hnode : (Rose.node a below).fold mk = mk a (below.map (Rose.fold mk)) := Rose.fold_eq _ _
    rw [List.map_cons, flattenTree_cons, hnode, hmk, List.cons_append] at h hflat
    rcases List.mem_cons.mp h with rfl | h
    · exact ⟨_, List.mem_cons_self, by rw [hnode]⟩
    · rcases List.mem_append.mp h with hbelow | hrest
      · have hall := fun e he => hflat e (List.mem_cons_of_mem _ (List.mem_append_left _ he))
        obtain ⟨c, hc, hreach⟩ := ihbelow hbelow hall
        obtain ⟨child, hchild, hid, hparent⟩ :=
          exists_root_entry _ _ (List.mem_map_of_mem (f := Rose.fold mk) hc)
        refine ⟨_, List.mem_cons_self, .head (b := (c.fold mk).id) ?_ hreach⟩
        rw [hnode, ← hid]
        exact mem_childrenOf.mpr ⟨⟨child.id, child.parentId⟩, List.mem_map.mpr ⟨child, hall child hchild, rfl⟩,
          rfl, hparent⟩
      · obtain ⟨t, ht, hreach⟩ := ihrest hrest fun e he =>
          hflat e (List.mem_cons_of_mem _ (List.mem_append_right _ he))
        exact ⟨t, List.mem_cons_of_mem _ ht, hreach⟩

end Listed

/-! ## The chart of a state -/

/-- What the page lists of a state's chart. -/
structure Charted (db : RoleDb) (tree : List OrganigramNode) : Prop where
  ids : ((flattenTree 0 none tree).map (·.id)).Perm ((db.roles.filter (·.showInOrganigram)).map (·.id))
  parent : ∀ entry ∈ flattenTree 0 none tree, ∀ parentId, entry.parentId = some parentId →
    linkParent db.treeLinks entry.id = some parentId
  reached : ∀ entry ∈ flattenTree 0 none tree, ∃ root ∈ tree, Relation.ReflTransGen
    (fun a b => b ∈ childrenOf (entryLinks (flattenTree 0 none tree)) a) root.id entry.id

section Charted

variable {locale : ChartLocale} {notes : Nat → Option String} {holders : List OrganigramHolder}
  {db : RoleDb} {tree : List OrganigramNode} {role r : Role} {x y : Nat}

theorem linkParent_flagged (hids : Keyed Role.id db.roles) (hr : r ∈ db.roles)
    (hflag : r.showInOrganigram = true) : linkParent db.treeLinks r.id = r.parentRoleId := by
  have hkeyed : Keyed TreeLink.id db.treeLinks := by
    unfold Keyed RoleDb.treeLinks
    rw [List.map_map]
    exact hids.filter _
  have hlink : (⟨r.id, r.parentRoleId⟩ : TreeLink) ∈ db.treeLinks :=
    List.mem_map.mpr ⟨r, List.mem_filter.mpr ⟨hr, hflag⟩, rfl⟩
  unfold linkParent
  rw [hkeyed.find?_eq_some.mpr ⟨hlink, rfl⟩]
  rfl

theorem keyed_chartRows (notes : Nat → Option String) (hids : Keyed Role.id db.roles) :
    Keyed OrganigramRole.id (db.chartRows notes) := by
  unfold Keyed RoleDb.chartRows
  rw [List.map_map]
  exact hids.filter _

/-- The page lists the chart of every state. -/
theorem exists_charted (locale : ChartLocale) (notes : Nat → Option String)
    (holders : List OrganigramHolder) (hids : Keyed Role.id db.roles) :
    ∃ tree, buildOrganigramTree locale (db.chartRows notes) holders = some tree ∧ Charted db tree := by
  obtain ⟨ts, us, hbuild, -, hforest, hperm, -⟩ :=
    buildOrganigramTree_eq locale holders (keyed_chartRows notes hids)
  have hmk : ∀ a nodes, (roleNode locale holders a nodes).children = nodes := fun _ _ => rfl
  have hfold : ∀ t : Rose OrganigramRole, (t.fold (roleNode locale holders)).id = t.value.id :=
    fun t => shows_fold.id
  refine ⟨_, hbuild, ?_, ?_, ?_⟩
  · have hnodes : (flattenTree 0 none ((ts ++ us).map (Rose.fold (roleNode locale holders)))).map (·.id) =
        (Rose.preorder (ts ++ us)).map OrganigramRole.id :=
      (List.map_congr_left fun entry hentry => entry_id hentry hmk).trans ids_flattenTree
    rw [hnodes]
    have hrows := hperm.map OrganigramRole.id
    unfold RoleDb.chartRows at hrows
    rw [List.map_map] at hrows
    exact hrows
  · intro entry hentry parentId hparent
    rcases entry_parent hentry hmk with ⟨hroot, -⟩ | ⟨t, ht, habove, c, hc, hid⟩
    · rw [hroot] at hparent
      cases hparent
    · have hchild : c.value ∈ t.children.map Rose.value := List.mem_map_of_mem hc
      rw [hforest.below t ht, mem_sortBy, List.mem_filter,
        mem_rolesByParent (hforest.within _ (Rose.mem_preorder_of_mem ht))] at hchild
      obtain ⟨r, hr, hrow⟩ := List.mem_map.mp hchild.1.1
      obtain ⟨hrole, hflag⟩ := List.mem_filter.mp hr
      rw [hid, hfold, ← hrow]
      show linkParent db.treeLinks r.id = _
      rw [linkParent_flagged hids hrole hflag, ← hparent, habove, hfold, ← hchild.1.2, ← hrow]
      rfl
  · intro entry hentry
    obtain ⟨t, ht, hreach⟩ := entry_reached _ hentry (fun e he => he) hmk
    exact ⟨_, List.mem_map_of_mem ht, hreach⟩

theorem Charted.row (h : Charted db tree) {entry : FlatEntry} (hentry : entry ∈ flattenTree 0 none tree) :
    ∃ r ∈ db.roles, r.showInOrganigram = true ∧ r.id = entry.id := by
  obtain ⟨r, hr, hid⟩ := List.mem_map.mp (h.ids.subset (List.mem_map_of_mem hentry))
  obtain ⟨hmem, hflag⟩ := List.mem_filter.mp hr
  exact ⟨r, hmem, hflag, hid⟩

theorem Charted.listed (h : Charted db tree) (hr : r ∈ db.roles) (hflag : r.showInOrganigram = true) :
    ∃ entry ∈ flattenTree 0 none tree, entry.id = r.id :=
  List.mem_map.mp (h.ids.symm.subset (List.mem_map_of_mem (List.mem_filter.mpr ⟨hr, hflag⟩)))

/-- A link of the listed chart is a stored one. -/
theorem Charted.stored (h : Charted db tree)
    (hxy : y ∈ childrenOf (entryLinks (flattenTree 0 none tree)) x) :
    linkParent db.treeLinks y = some x := by
  obtain ⟨link, hlink, rfl, hparent⟩ := mem_childrenOf.mp hxy
  obtain ⟨entry, hentry, rfl⟩ := List.mem_map.mp hlink
  exact h.parent entry hentry x hparent

/-- What the chart lists below a node has it above it. -/
theorem Charted.chain_of_below (h : Charted db tree) (hbelow : Relation.ReflTransGen
      (fun a b => b ∈ childrenOf (entryLinks (flattenTree 0 none tree)) a) x y) :
    x ∈ ancestorChainIds db.treeLinks (some y) := by
  rw [mem_ancestorChainIds]
  induction hbelow with
  | refl => exact .refl
  | tail _ hstep ih => exact .head (h.stored hstep) ih

/-- A stored link is read back. -/
theorem mem_childrenOf_treeLinks (hids : Keyed Role.id db.roles) :
    y ∈ childrenOf db.treeLinks x ↔ linkParent db.treeLinks y = some x := by
  rw [mem_childrenOf]
  constructor
  · rintro ⟨link, hlink, rfl, hparent⟩
    obtain ⟨r, hr, rfl⟩ := List.mem_map.mp hlink
    obtain ⟨hmem, hflag⟩ := List.mem_filter.mp hr
    exact (linkParent_flagged hids hmem hflag).trans hparent
  · exact linkParent_mem

/-- The stored links below a node have it above them. -/
theorem mem_descendantIds_treeLinks (hids : Keyed Role.id db.roles) :
    y ∈ descendantIds db.treeLinks x ↔ y ≠ x ∧ x ∈ ancestorChainIds db.treeLinks (some y) := by
  rw [mem_descendantIds, mem_ancestorChainIds, ← Relation.reflTransGen_swap]
  refine and_congr_right fun _ => ?_
  have hswap : (fun a b => b ∈ childrenOf db.treeLinks a) =
      Function.swap fun a b => linkParent db.treeLinks a = some b := by
    funext a b
    exact propext (mem_childrenOf_treeLinks hids)
  rw [hswap]

/-- An entry without a parent is below no other. -/
theorem Charted.eq_of_root (h : Charted db tree) (hids : Keyed Role.id db.roles) {entry : FlatEntry}
    (hentry : entry ∈ flattenTree 0 none tree) (hroot : entry.parentId = none)
    (hbelow : Relation.ReflTransGen (fun a b => b ∈ childrenOf (entryLinks (flattenTree 0 none tree)) a)
      x entry.id) : x = entry.id := by
  have hkeyed : Keyed FlatEntry.id (flattenTree 0 none tree) := h.ids.nodup_iff.mpr (hids.filter _)
  rcases hbelow.cases_tail with heq | ⟨y, -, hstep⟩
  · exact heq.symm
  · obtain ⟨link, hlink, hid, hparent⟩ := mem_childrenOf.mp hstep
    obtain ⟨other, hother, rfl⟩ := List.mem_map.mp hlink
    obtain rfl := hkeyed.eq_of_key hother hentry hid
    exact absurd (hparent.symm.trans hroot) (by simp)

/-- Where no other root of the chart has the node above it, the chart lists below the node whatever has
it above. -/
theorem Charted.below_of_chain (h : Charted db tree) {entry : FlatEntry}
    (hentry : entry ∈ flattenTree 0 none tree)
    (hroots : ∀ root ∈ tree, root.id ≠ x → x ∉ ancestorChainIds db.treeLinks (some root.id))
    (hchain : x ∈ ancestorChainIds db.treeLinks (some entry.id)) :
    Relation.ReflTransGen (fun a b => b ∈ childrenOf (entryLinks (flattenTree 0 none tree)) a)
      x entry.id := by
  obtain ⟨root, hroot, hreach⟩ := h.reached entry hentry
  generalize entry.id = y at hchain hreach
  induction hreach with
  | refl =>
    by_cases heq : root.id = x
    · rw [heq]
    · exact absurd hchain (hroots root hroot heq)
  | @tail z y _ hstep ih =>
    rw [mem_ancestorChainIds] at hchain
    rcases hchain.cases_head with rfl | ⟨z', hz', habove⟩
    · exact .refl
    · rw [h.stored hstep, Option.some.injEq] at hz'
      subst hz'
      exact (ih (mem_ancestorChainIds.mpr habove)).tail hstep

end Charted

/-! ## The picker and the service -/

/-- The service moves the role under the target. -/
def Accepts (db : RoleDb) (roleId targetId : Nat) : Prop :=
  ∃ db', (setOrganigramParent roleId (some targetId)).exec db = (.ok (), db')

/-- The roles the panel offers to move: not the rosters, which are the roots, nor the committee and its
posts, whose places are fixed. -/
structure Movable (db : RoleDb) (role : Role) : Prop where
  mem : role ∈ db.roles
  flagged : role.showInOrganigram = true
  notRoster : organigramRosterKeys.contains role.key = false
  notFixed : isAppointedRoleKey role.key = false

/-- The service takes what the picker offers, and the picker withholds the node, what is below it and
what the service would refuse. -/
def PickerAgrees (locale : ChartLocale) (notes : Nat → Option String) (holders : List OrganigramHolder)
    (db : RoleDb) (role : Role) : Prop :=
  ∃ tree selected, buildOrganigramTree locale (db.chartRows notes) holders = some tree ∧
    (flattenTree 0 none tree).find? (·.id == role.id) = some selected ∧
    (∀ target ∈ buildMoveTargets (flattenTree 0 none tree) (some selected), Accepts db role.id target.id) ∧
    ∀ entry ∈ flattenTree 0 none tree,
      entry.id ∉ (buildMoveTargets (flattenTree 0 none tree) (some selected)).map (·.id) ↔
        entry.id = role.id ∨ entry.id ∈ descendantIds db.treeLinks role.id ∨ ¬Accepts db role.id entry.id

/-- No other root of the chart has the node above it, which takes a cycle of parents, and every role
that does not leaves room for the node's branch below it. -/
def PickerFits (locale : ChartLocale) (notes : Nat → Option String) (holders : List OrganigramHolder)
    (db : RoleDb) (role : Role) : Prop :=
  (∀ tree, buildOrganigramTree locale (db.chartRows notes) holders = some tree → ∀ root ∈ tree,
    root.id ≠ role.id → role.id ∉ ancestorChainIds db.treeLinks (some root.id)) ∧
  ∀ target ∈ db.roles, target.showInOrganigram = true →
    role.id ∉ ancestorChainIds db.treeLinks (some target.id) →
    (ancestorChainIds db.treeLinks (some target.id)).length + 1 + subtreeHeight db.treeLinks role.id ≤
      maxOrganigramDepth

section Picker

variable {locale : ChartLocale} {notes : Nat → Option String} {holders : List OrganigramHolder}
  {db : RoleDb} {tree : List OrganigramNode} {role target : Role}

theorem accepts_iff (hids : Keyed Role.id db.roles) (hrole : Movable db role) (htarget : target ∈ db.roles) :
    Accepts db role.id target.id ↔
      role.id ∉ ancestorChainIds db.treeLinks (some target.id) ∧
        (ancestorChainIds db.treeLinks (some target.id)).length + 1 + subtreeHeight db.treeLinks role.id ≤
          maxOrganigramDepth := by
  have hfound : db.roleById role.id = some role := hids.find?_eq_some.mpr ⟨hrole.mem, rfl⟩
  have hparent : db.roleById target.id = some target := hids.find?_eq_some.mpr ⟨htarget, rfl⟩
  have hself : target.id ∈ ancestorChainIds db.treeLinks (some target.id) := mem_ancestorChainIds.mpr .refl
  have hchain : (ancestorChainIds db.treeLinks (some target.id)).isEmpty = false :=
    List.isEmpty_eq_false_iff.mpr (List.ne_nil_of_mem hself)
  have hroster : role.key ∉ organigramRosterKeys := by simpa using hrole.notRoster
  unfold Accepts setOrganigramParent setOrganigramParentChecks requireRole assertCanSetParent
    requireParentRow RoleDb.setParentInput
  simp only [Tx.exec_bind_get, Tx.exec_bind_check_ok, Tx.exec_modify, Prod.mk.injEq, true_and, hfound,
    hparent, Tx.bind_eq_ok, Tx.exists_unit, Tx.refuseWhen_ok, hchain]
  simp [hrole.flagged, hroster, hrole.notFixed]

/-- What the picker offers is what the chart does not list at or below the node. -/
theorem mem_buildMoveTargets {flat : List FlatEntry} {selected : FlatEntry} {id : Nat} :
    id ∈ (buildMoveTargets flat (some selected)).map (·.id) ↔ (∃ entry ∈ flat, entry.id = id) ∧
      ¬Relation.ReflTransGen (fun a b => b ∈ childrenOf (entryLinks flat) a) selected.id id := by
  have hforbidden : (selected.id :: descendantIds (entryLinks flat) selected.id).contains id = true ↔
      Relation.ReflTransGen (fun a b => b ∈ childrenOf (entryLinks flat) a) selected.id id := by
    rw [List.contains_iff_mem, List.mem_cons, mem_descendantIds]
    constructor
    · rintro (rfl | ⟨-, hreach⟩)
      · exact .refl
      · exact hreach
    · intro hreach
      by_cases heq : id = selected.id
      · exact .inl heq
      · exact .inr ⟨heq, hreach⟩
  unfold buildMoveTargets
  simp only [List.map_map, List.mem_map, List.mem_filter, Function.comp_apply]
  rw [← hforbidden]
  constructor
  · rintro ⟨entry, ⟨hentry, hnot⟩, rfl⟩
    exact ⟨⟨entry, hentry, rfl⟩, by simpa using hnot⟩
  · rintro ⟨⟨entry, hentry, rfl⟩, hnot⟩
    exact ⟨entry, ⟨hentry, by simpa using hnot⟩, rfl⟩

/-- The picker agrees with the service when the service takes everything the chart does not list at or
below the node. -/
theorem pickerAgrees_of_charted (hids : Keyed Role.id db.roles) (hrole : Movable db role)
    (hbuild : buildOrganigramTree locale (db.chartRows notes) holders = some tree) (hchart : Charted db tree) :
    PickerAgrees locale notes holders db role ↔ ∀ entry ∈ flattenTree 0 none tree,
      ¬Relation.ReflTransGen (fun a b => b ∈ childrenOf (entryLinks (flattenTree 0 none tree)) a)
        role.id entry.id → Accepts db role.id entry.id := by
  constructor
  · rintro ⟨tree', selected, hbuild', hfind, htargets, -⟩ entry hentry hfree
    obtain rfl := Option.some.inj (hbuild.symm.trans hbuild')
    have hid : selected.id = role.id := by simpa using List.find?_some hfind
    obtain ⟨target, htarget, heq⟩ := List.mem_map.mp
      (mem_buildMoveTargets.mpr ⟨⟨entry, hentry, rfl⟩, hid ▸ hfree⟩)
    exact heq ▸ htargets target htarget
  · intro haccepts
    obtain ⟨node, hnode, hnodeId⟩ := hchart.listed hrole.mem hrole.flagged
    cases hfind : (flattenTree 0 none tree).find? (·.id == role.id) with
    | none => exact absurd (beq_iff_eq.mpr hnodeId) (List.find?_eq_none.mp hfind node hnode)
    | some selected =>
      have hid : selected.id = role.id := by simpa using List.find?_some hfind
      refine ⟨tree, selected, hbuild, hfind, fun target htarget => ?_, fun entry hentry => ?_⟩
      · obtain ⟨⟨entry, hentry, heq⟩, hfree⟩ := mem_buildMoveTargets.mp (List.mem_map_of_mem htarget)
        rw [hid, ← heq] at hfree
        exact heq ▸ haccepts entry hentry hfree
      · rw [mem_buildMoveTargets, hid, mem_descendantIds_treeLinks hids]
        constructor
        · intro hwithheld
          have hbelow := not_not.mp fun hfree => hwithheld ⟨⟨entry, hentry, rfl⟩, hfree⟩
          by_cases heq : entry.id = role.id
          · exact .inl heq
          · exact .inr (.inl ⟨heq, hchart.chain_of_below hbelow⟩)
        · rintro hwithheld ⟨-, hfree⟩
          have htaken := haccepts entry hentry hfree
          obtain ⟨target, hmem, -, htarget⟩ := hchart.row hentry
          rcases hwithheld with heq | ⟨-, habove⟩ | hrefused
          · exact hfree (heq ▸ .refl)
          · exact ((accepts_iff hids hrole hmem).mp (htarget ▸ htaken)).1 (htarget ▸ habove)
          · exact hrefused htaken

/-- **The picker agrees with the service** just when every role it may offer leaves room for the node's
branch: the service asks how deep the branch would reach, the picker only what is below the node. -/
theorem pickerAgrees_iff (hids : Keyed Role.id db.roles) (hrole : Movable db role) :
    PickerAgrees locale notes holders db role ↔ PickerFits locale notes holders db role := by
  obtain ⟨tree, hbuild, hchart⟩ := exists_charted locale notes holders hids
  rw [pickerAgrees_of_charted hids hrole hbuild hchart]
  constructor
  · intro haccepts
    constructor
    · intro tree' hbuild' root hroot hne hchain
      obtain rfl := Option.some.inj (hbuild.symm.trans hbuild')
      obtain ⟨entry, hin, hid, hfirst⟩ := exists_root_entry 0 none hroot
      have hfree := haccepts entry hin fun hbelow =>
        hne (hid ▸ (hchart.eq_of_root hids hin hfirst hbelow).symm)
      obtain ⟨target, hmem, -, htarget⟩ := hchart.row hin
      rw [← hid, ← htarget] at hchain
      exact ((accepts_iff hids hrole hmem).mp (htarget ▸ hfree)).1 hchain
    · intro target hmem hflag hchain
      obtain ⟨entry, hin, hid⟩ := hchart.listed hmem hflag
      have hfree := haccepts entry hin fun hbelow => hchain (hid ▸ hchart.chain_of_below hbelow)
      exact ((accepts_iff hids hrole hmem).mp (hid ▸ hfree)).2
  · rintro ⟨hroots, hroom⟩ entry hin hfree
    obtain ⟨target, hmem, hflag, hid⟩ := hchart.row hin
    have hchain : role.id ∉ ancestorChainIds db.treeLinks (some target.id) := fun habove =>
      hfree (hchart.below_of_chain hin (hroots tree hbuild) (hid ▸ habove))
    exact hid ▸ (accepts_iff hids hrole hmem).mpr ⟨hchain, hroom target hmem hflag hchain⟩

end Picker

def placedRole (id : Nat) (key : String) (parentRoleId : Option Nat) : Role :=
  ⟨id, key, some key, none, false, parentRoleId, true, some orderStep, false⟩

def placedRoles (roles : List Role) : RoleDb := ⟨roles, [], [], [], [], [], [], 12⟩

/-- Two services below the elders. -/
theorem pickerAgrees_shallow : PickerAgrees plainLocale (fun _ => none) []
    (placedRoles [placedRole 1 "elder" none, placedRole 2 "Accueil" (some 1), placedRole 3 "Sono" (some 1)])
    (placedRole 3 "Sono" (some 1)) := by
  refine (pickerAgrees_iff (by decide) ⟨by decide, rfl, by decide, by decide⟩).mpr ⟨?_, by decide +kernel⟩
  intro tree hbuild root hroot _
  have hroots : (buildOrganigramTree plainLocale (RoleDb.chartRows (fun _ => none) (placedRoles
      [placedRole 1 "elder" none, placedRole 2 "Accueil" (some 1), placedRole 3 "Sono" (some 1)]))
      []).map (fun tree => tree.map (·.id)) = some [1] := by decide +kernel
  rw [hbuild, Option.map_some, Option.some.injEq] at hroots
  have hone : root.id ∈ [1] := hroots ▸ List.mem_map_of_mem hroot
  rw [List.mem_singleton.mp hone]
  decide +kernel

/-- A chart of ten levels, and a service that may be moved below the last of them by the picker alone. -/
def deepChart : RoleDb := placedRoles [placedRole 1 "elder" none, placedRole 2 "Réunions" (some 1),
  placedRole 3 "Audio" (some 2), placedRole 4 "Sono" (some 3), placedRole 5 "Estrade" (some 4),
  placedRole 6 "Micros" (some 5), placedRole 7 "Régie" (some 6), placedRole 8 "Vidéo" (some 7),
  placedRole 9 "Zoom" (some 8), placedRole 10 "Relais" (some 9), placedRole 11 "Accueil" (some 1)]

theorem deep_target_refused : ¬∀ (locale : ChartLocale) (notes : Nat → Option String)
    (holders : List OrganigramHolder) (db : RoleDb) (role : Role), Keyed Role.id db.roles →
      Movable db role → PickerAgrees locale notes holders db role := by
  intro h
  obtain ⟨tree, selected, hbuild, hfind, htargets, -⟩ := h plainLocale (fun _ => none) [] deepChart
    (placedRole 11 "Accueil" (some 1)) (by decide) ⟨by decide, rfl, by decide, by decide⟩
  have hoffered : (buildOrganigramTree plainLocale (deepChart.chartRows fun _ => none) []).map (fun tree =>
      ((flattenTree 0 none tree).find? (·.id == 11)).map fun selected =>
        (buildMoveTargets (flattenTree 0 none tree) (some selected)).map (·.id)) =
      some (some [1, 2, 3, 4, 5, 6, 7, 8, 9, 10]) := by decide +kernel
  rw [hbuild, Option.map_some, Option.some.injEq] at hoffered
  have hselected : (flattenTree 0 none tree).find? (·.id == 11) = some selected := hfind
  rw [hselected, Option.map_some, Option.some.injEq] at hoffered
  obtain ⟨target, htarget, hid⟩ := List.mem_map.mp (hoffered ▸ by decide :
    10 ∈ (buildMoveTargets (flattenTree 0 none tree) (some selected)).map (·.id))
  obtain ⟨db', hexec⟩ := htargets target htarget
  rw [hid] at hexec
  have hrefused : ((setOrganigramParent 11 (some 10)).exec deepChart).1 =
      .error (.app (.validation "parentRoleId" tooDeepError)) := rfl
  have hok : ((setOrganigramParent 11 (some 10)).exec deepChart).1 = .ok () := congrArg Prod.fst hexec
  rw [hrefused] at hok
  cases hok

end Unitae.Roles
