import Unitae.Base.Listing
import Unitae.Roles.ChartTree

/-!
# Unitae — the printed sheet (`organigram-layout.ts`)

`toLayout` turns the forest of the chart into the blocks of the « Organisation des services » sheet, and
`groupLayout`, `bandEntries` and `serviceParts` are how the screen and the PDF read them.
-/

namespace Unitae.Roles

/-! ## The blocks -/

/-- `COMMITTEE_KEY`, mirrored from the server's module. -/
def committeeKey : String := "service-committee"

/-- `POST_KEYS`, in canonical order. -/
def postKeys : List String := ["coordinator", "secretary", "service-overseer"]

structure RosterBlock where
  id : Nat
  title : String
  node : OrganigramNode

structure CommitteeBlock where
  id : Nat
  node : OrganigramNode
  posts : List OrganigramNode

structure BandBlock where
  id : Nat
  /-- `none` for a collector band: the leaf services of a branch, which have no container. -/
  node : Option OrganigramNode
  /-- Whose responsibility the band falls under. -/
  under : Option String
  rows : List OrganigramNode

structure RowBlock where
  id : Nat
  node : OrganigramNode

inductive LayoutBlock where
  | roster (block : RosterBlock)
  | committee (block : CommitteeBlock)
  | band (block : BandBlock)
  | row (block : RowBlock)

/-- `node.children.length === 0`. -/
def OrganigramNode.isLeaf (node : OrganigramNode) : Bool := node.children.isEmpty

/-- A node earns a band when something below it is itself a container. -/
def hasChildUnits (node : OrganigramNode) : Bool := node.children.any fun child => !child.isLeaf

mutual

/-- A container and everything below it, as sibling bands. -/
def walkContainer (under : Option String) : OrganigramNode → List LayoutBlock
  | node@⟨_, _, name, _, _, _, _, children⟩ =>
    if hasChildUnits node then
      .band ⟨node.id, some node, under, children.filter (·.isLeaf)⟩ :: walkContainers (some name) children
    else [.band ⟨node.id, some node, under, children⟩]

/-- `walkContainer` for each of the nodes that is a container. -/
def walkContainers (under : Option String) : List OrganigramNode → List LayoutBlock
  | [] => []
  | node :: rest => if node.isLeaf then walkContainers under rest
    else walkContainer under node ++ walkContainers under rest

end

/-- The leaves of a branch: plain rows where there is nothing to hang a header on. -/
def collectLeaves : Option String → List OrganigramNode → List LayoutBlock
  | none, leaves => leaves.map fun leaf => .row ⟨leaf.id, leaf⟩
  | some _, [] => []
  | some under, first :: rest => [.band ⟨first.id, none, some under, first :: rest⟩]

/-- One branch of the sheet: the leaves share a collector band, the containers band themselves. -/
def emitBranch (under : Option String) (nodes : List OrganigramNode) : List LayoutBlock :=
  collectLeaves under (nodes.filter (·.isLeaf)) ++ walkContainers under nodes

def rostersOf (tree : List OrganigramNode) : List OrganigramNode := tree.filter (·.isRoster)

def othersOf (tree : List OrganigramNode) : List OrganigramNode := tree.filter (!·.isRoster)

def committeeOf (tree : List OrganigramNode) : Option OrganigramNode :=
  ((rostersOf tree).flatMap (·.children)).find? (·.key == committeeKey)

/-- The committee's posts, in canonical order. -/
def postsOf (committee : OrganigramNode) : List OrganigramNode :=
  postKeys.flatMap fun key => committee.children.filter (·.key == key)

/-- The services attached to the committee itself rather than to a post. -/
def attachedTo (committee : OrganigramNode) : List OrganigramNode :=
  committee.children.filter fun child => !postKeys.contains child.key

/-- What the branch of a roster falls under: the body of elders, not their list. -/
def rosterHeading (roster : OrganigramNode) : String :=
  if roster.key = "elder" then "Collège des anciens" else roster.name

/-- The services a roster keeps for itself. -/
def keptBy (roster : OrganigramNode) : List OrganigramNode :=
  roster.children.filter (·.key != committeeKey)

def committeeBlocks (committee : OrganigramNode) : List LayoutBlock :=
  .committee ⟨committee.id, committee, postsOf committee⟩ ::
    (postsOf committee).flatMap (fun post => emitBranch (some post.name) post.children) ++
    emitBranch (some committee.name) (attachedTo committee)

def toLayout (tree : List OrganigramNode) : List LayoutBlock :=
  (rostersOf tree).map (fun roster => .roster ⟨roster.id, roster.name, roster⟩) ++
    ((committeeOf tree).map committeeBlocks).getD [] ++
    (rostersOf tree).flatMap (fun roster => emitBranch (some (rosterHeading roster)) (keptBy roster)) ++
    emitBranch none (othersOf tree)

/-! ## How the sheet is read -/

structure SheetSection where
  under : String
  bands : List BandBlock

inductive LegacyBlock where
  | band (block : BandBlock)
  | row (block : RowBlock)

structure GroupedLayout where
  rosters : List RosterBlock
  committee : Option CommitteeBlock
  sections : List SheetSection
  legacy : List LegacyBlock

/-- A band joins the last section when it falls under the same responsibility. -/
def pushBand (sections : List SheetSection) (under : String) (band : BandBlock) : List SheetSection :=
  match sections.getLast? with
  | some current =>
    if current.under = under then sections.dropLast ++ [⟨current.under, current.bands ++ [band]⟩]
    else sections ++ [⟨under, [band]⟩]
  | none => [⟨under, [band]⟩]

def groupBlock (grouped : GroupedLayout) : LayoutBlock → GroupedLayout
  | .roster block => { grouped with rosters := grouped.rosters ++ [block] }
  | .committee block => { grouped with committee := some block }
  | .band block =>
    match block.under with
    | some under => { grouped with sections := pushBand grouped.sections under block }
    | none => { grouped with legacy := grouped.legacy ++ [.band block] }
  | .row block => { grouped with legacy := grouped.legacy ++ [.row block] }

def groupLayout (blocks : List LayoutBlock) : GroupedLayout := blocks.foldl groupBlock ⟨[], none, [], []⟩

structure ServiceEntry where
  node : OrganigramNode
  rows : Option (List OrganigramNode)

def bandEntries (bands : List BandBlock) : List ServiceEntry :=
  bands.flatMap fun band =>
    match band.node with
    | some node => [⟨node, some band.rows⟩]
    | none => band.rows.map fun row => ⟨row, none⟩

/-- The rows that a band names on its « ÉQUIPES » line. -/
def teamRows (rows : List OrganigramNode) : List OrganigramNode := rows.filter (!·.isSinglePerson)

/-- The filter of `bandAdjoints`: nobody who was seen, and everybody once. -/
def keepUnseen (seen : List Nat) : List OrganigramHolder → List OrganigramHolder
  | [] => []
  | adjoint :: rest =>
    if seen.contains adjoint.memberId then keepUnseen seen rest
    else adjoint :: keepUnseen (adjoint.memberId :: seen) rest

def leadersOf (node : OrganigramNode) : List OrganigramHolder := node.holders.filter (·.kind == .leader)

def deputiesOf (node : OrganigramNode) : List OrganigramHolder := node.holders.filter (·.kind == .deputy)

/-- The people a band prints as its adjoints. -/
def bandAdjoints (node : OrganigramNode) (rows : List OrganigramNode) : List OrganigramHolder :=
  keepUnseen ((leadersOf node).map (·.memberId)) (deputiesOf node ++ rows.flatMap leadersOf)

structure ServiceParts where
  holders : List OrganigramHolder
  teams : List OrganigramNode

def serviceParts (node : OrganigramNode) : Option (List OrganigramNode) → ServiceParts
  | none => ⟨node.holders.filter fun holder => holder.kind == .leader || holder.kind == .deputy, []⟩
  | some rows =>
    ⟨leadersOf node ++ (bandAdjoints node rows).map fun deputy => { deputy with kind := .deputy }, teamRows rows⟩

/-- The entries of a block outside the sheet's order. -/
def LegacyBlock.entries : LegacyBlock → List ServiceEntry
  | .band block => bandEntries [block]
  | .row block => [⟨block.node, none⟩]

/-- The service lines of the sheet, in reading order. -/
def GroupedLayout.entries (grouped : GroupedLayout) : List ServiceEntry :=
  grouped.sections.flatMap (fun part => bandEntries part.bands) ++ grouped.legacy.flatMap LegacyBlock.entries

/-- The nodes an entry prints: its own, and those on the rows beneath it. -/
def ServiceEntry.nodes (entry : ServiceEntry) : List OrganigramNode := entry.node :: entry.rows.getD []

/-- Every node the sheet prints. -/
def GroupedLayout.nodes (grouped : GroupedLayout) : List OrganigramNode :=
  grouped.rosters.map (·.node) ++ (grouped.committee.map fun block => block.node :: block.posts).getD [] ++
    grouped.entries.flatMap ServiceEntry.nodes

/-! ## The nodes of a forest -/

mutual

/-- Every node of the forest, a node before what is below it. -/
def allNodes : List OrganigramNode → List OrganigramNode
  | [] => []
  | node :: tree => nodesFrom node ++ allNodes tree

def nodesFrom : OrganigramNode → List OrganigramNode
  | node@⟨_, _, _, _, _, _, _, children⟩ => node :: allNodes children

end

section Forest

variable {tree nodes rest : List OrganigramNode} {node : OrganigramNode} {under : Option String}

@[simp] theorem allNodes_nil : allNodes [] = [] := by
  rw [allNodes]

@[simp] theorem allNodes_cons : allNodes (node :: rest) = node :: allNodes node.children ++ allNodes rest := by
  cases node
  rw [allNodes, nodesFrom]

/-- What holds of no node, and of a node before others whenever it holds below the node and of the
others, holds of every forest. -/
theorem chartInduction {P : List OrganigramNode → Prop} (nil : P [])
    (cons : ∀ node rest, P node.children → P rest → P (node :: rest)) : ∀ nodes, P nodes
  | [] => nil
  | ⟨id, key, name, note, isRoster, isSinglePerson, holders, children⟩ :: rest =>
    cons ⟨id, key, name, note, isRoster, isSinglePerson, holders, children⟩ rest
      (chartInduction nil cons children) (chartInduction nil cons rest)

/-- The nodes that the page's list of the chart has. -/
theorem map_node_flattenTree_eq {depth : Nat} {parent : Option OrganigramNode} :
    (flattenTree depth parent tree).map (·.node) = allNodes tree := by
  induction tree using chartInduction generalizing depth parent with
  | nil => simp
  | cons node rest ihbelow ihrest =>
    rw [flattenTree_cons, List.map_append, List.map_cons, ihbelow, ihrest, allNodes_cons]

theorem allNodes_append : allNodes (nodes ++ rest) = allNodes nodes ++ allNodes rest := by
  induction nodes with
  | nil => simp
  | cons node nodes ih => simp [ih]

theorem allNodes_perm (h : nodes.Perm rest) : (allNodes nodes).Perm (allNodes rest) := by
  induction h with
  | nil => exact List.Perm.refl _
  | cons node _ ih =>
    rw [allNodes_cons, allNodes_cons]
    exact ih.append_left _
  | swap a b l =>
    simp only [allNodes_cons, ← List.append_assoc]
    exact List.perm_append_comm.append_right _
  | trans _ _ ih ih' => exact ih.trans ih'

@[simp] theorem walkContainers_nil : walkContainers under [] = [] := by
  rw [walkContainers]

theorem walkContainers_of_leaves (h : ∀ node ∈ nodes, node.isLeaf = true) : walkContainers under nodes = [] := by
  induction nodes with
  | nil => simp
  | cons node nodes ih =>
    rw [walkContainers, if_pos (h node List.mem_cons_self)]
    exact ih fun n hn => h n (List.mem_cons_of_mem _ hn)

/-- A container is one band, and then the containers below it whether there are any or not. -/
theorem walkContainer_eq : walkContainer under node =
    .band ⟨node.id, some node, under, node.children.filter (·.isLeaf)⟩ ::
      walkContainers (some node.name) node.children := by
  cases node with
  | mk id key name note isRoster isSinglePerson holders children =>
    rw [walkContainer]
    split
    · rfl
    · next hunits =>
      have hleaves : ∀ child ∈ children, child.isLeaf = true := by
        simpa [hasChildUnits] using hunits
      rw [walkContainers_of_leaves hleaves, List.filter_eq_self.mpr hleaves]

theorem walkContainers_cons_of_leaf (h : node.isLeaf = true) :
    walkContainers under (node :: rest) = walkContainers under rest := by
  rw [walkContainers, if_pos h]

theorem walkContainers_cons (h : node.isLeaf = false) :
    walkContainers under (node :: rest) =
      .band ⟨node.id, some node, under, node.children.filter (·.isLeaf)⟩ ::
        walkContainers (some node.name) node.children ++ walkContainers under rest := by
  rw [walkContainers, if_neg (by simp [h]), walkContainer_eq]

theorem allNodes_leaf (h : node.isLeaf = true) : allNodes [node] = [node] := by
  have hnone : node.children = [] := List.isEmpty_iff.mp h
  simp [hnone]

end Forest

/-! ## What a block prints -/

def LayoutBlock.nodes : LayoutBlock → List OrganigramNode
  | .roster block => [block.node]
  | .committee block => block.node :: block.posts
  | .band block => (bandEntries [block]).flatMap ServiceEntry.nodes
  | .row block => [block.node]

def LayoutBlock.isCommittee : LayoutBlock → Bool
  | .committee _ => true
  | _ => false

section Blocks

variable {grouped : GroupedLayout} {blocks : List LayoutBlock} {block : LayoutBlock} {band : BandBlock}
  {under : Option String} {nodes leaves : List OrganigramNode}

theorem bandEntries_append {bands bands' : List BandBlock} :
    bandEntries (bands ++ bands') = bandEntries bands ++ bandEntries bands' := List.flatMap_append

/-- The bands of the sections, however they are grouped. -/
theorem entries_pushBand {sections : List SheetSection} {under : String} :
    (pushBand sections under band).flatMap (fun part => bandEntries part.bands) =
      sections.flatMap (fun part => bandEntries part.bands) ++ bandEntries [band] := by
  unfold pushBand
  rcases List.eq_nil_or_concat sections with rfl | ⟨front, current, rfl⟩
  · simp
  · rw [List.concat_eq_append, List.getLast?_concat, List.dropLast_concat]
    dsimp only
    split
    · simp [List.flatMap_append, bandEntries_append]
    · simp [List.flatMap_append]

/-- A block that is read adds its nodes to the sheet's. -/
theorem nodes_groupBlock (h : block.isCommittee = true → grouped.committee = none) :
    (groupBlock grouped block).nodes.Perm (grouped.nodes ++ block.nodes) := by
  unfold GroupedLayout.nodes GroupedLayout.entries
  cases block with
  | roster b =>
    simp only [groupBlock, LayoutBlock.nodes, List.map_append, List.append_assoc]
    refine List.Perm.append_left _ ?_
    rw [List.map_cons, List.map_nil]
    exact List.perm_append_comm.trans (by simp)
  | committee b =>
    have hnone := h rfl
    simp only [groupBlock, LayoutBlock.nodes, hnone, Option.map_some, Option.getD_some, Option.map_none,
      Option.getD_none, List.append_nil, List.append_assoc]
    exact List.Perm.append_left _ List.perm_append_comm
  | band b =>
    cases hunder : b.under with
    | some under =>
      simp only [groupBlock, hunder, entries_pushBand, LayoutBlock.nodes, List.append_assoc, List.flatMap_append]
      refine List.Perm.append_left _ (List.Perm.append_left _ (List.Perm.append_left _ ?_))
      exact List.perm_append_comm
    | none =>
      simp [groupBlock, hunder, LayoutBlock.nodes, LegacyBlock.entries, List.flatMap_append]
  | row b =>
    simp [groupBlock, LayoutBlock.nodes, LegacyBlock.entries, ServiceEntry.nodes, List.flatMap_append]

theorem committee_groupBlock (h : block.isCommittee = false) :
    (groupBlock grouped block).committee = grouped.committee := by
  cases block with
  | committee b => cases h
  | band b => cases hunder : b.under <;> simp [groupBlock, hunder]
  | _ => rfl

/-- Blocks among which there is one committee at most. -/
theorem nodes_foldl_groupBlock
    (h : (blocks.filter LayoutBlock.isCommittee).length + grouped.committee.toList.length ≤ 1) :
    (blocks.foldl groupBlock grouped).nodes.Perm (grouped.nodes ++ blocks.flatMap LayoutBlock.nodes) := by
  induction blocks generalizing grouped with
  | nil => simp
  | cons block blocks ih =>
    rw [List.foldl_cons, List.flatMap_cons, ← List.append_assoc]
    by_cases hblock : block.isCommittee = true
    · rw [List.filter_cons_of_pos hblock, List.length_cons] at h
      have hnone : grouped.committee = none := by
        cases hcommittee : grouped.committee with
        | none => rfl
        | some b =>
          rw [hcommittee, Option.toList_some, List.length_singleton] at h
          omega
      have hone : (groupBlock grouped block).committee.toList.length ≤ 1 := Option.length_toList_le
      exact (ih (by omega)).trans ((nodes_groupBlock fun _ => hnone).append_right _)
    · rw [List.filter_cons_of_neg hblock] at h
      have hsame : (groupBlock grouped block).committee = grouped.committee :=
        committee_groupBlock (by simpa using hblock)
      exact (ih (by rw [hsame]; exact h)).trans
        ((nodes_groupBlock fun hcommittee => absurd hcommittee hblock).append_right _)

/-! ### The branches -/

theorem nodes_collectLeaves : (collectLeaves under leaves).flatMap LayoutBlock.nodes = leaves := by
  have hrows : ∀ rows : List OrganigramNode,
      (rows.map fun row => (⟨row, none⟩ : ServiceEntry)).flatMap ServiceEntry.nodes = rows := by
    intro rows
    rw [List.flatMap_map]
    exact List.flatMap_pure_eq_map id rows |>.trans (List.map_id rows)
  cases under with
  | none =>
    unfold collectLeaves
    rw [List.flatMap_map]
    exact List.flatMap_pure_eq_map id leaves |>.trans (List.map_id leaves)
  | some under =>
    cases leaves with
    | nil => rfl
    | cons first rest =>
      rw [collectLeaves, List.flatMap_cons, List.flatMap_nil, List.append_nil]
      simpa [LayoutBlock.nodes, bandEntries] using hrows (first :: rest)

/-- The bands of a branch print what the containers stand for. -/
theorem nodes_walkContainers :
    (nodes.filter (·.isLeaf) ++ (walkContainers under nodes).flatMap LayoutBlock.nodes).Perm (allNodes nodes) := by
  induction nodes using chartInduction generalizing under with
  | nil => simp
  | cons node rest ihbelow ihrest =>
    rw [allNodes_cons]
    by_cases hleaf : node.isLeaf = true
    · have hnone : node.children = [] := List.isEmpty_iff.mp hleaf
      rw [List.filter_cons_of_pos hleaf, walkContainers_cons_of_leaf hleaf, hnone, allNodes_nil]
      exact (ihrest).cons node
    · have hband : LayoutBlock.nodes (.band ⟨node.id, some node, under, node.children.filter (·.isLeaf)⟩) =
          node :: node.children.filter (·.isLeaf) := by
        simp [LayoutBlock.nodes, bandEntries, ServiceEntry.nodes]
      rw [List.filter_cons_of_neg hleaf, walkContainers_cons (by simpa using hleaf), List.cons_append,
        List.flatMap_cons, hband, List.flatMap_append, List.cons_append, ← List.append_assoc _ _ (List.flatMap _ _)]
      have hmove := List.perm_append_comm_assoc (rest.filter (·.isLeaf))
        (node :: (node.children.filter (·.isLeaf) ++
          (walkContainers (some node.name) node.children).flatMap LayoutBlock.nodes))
        ((walkContainers under rest).flatMap LayoutBlock.nodes)
      exact hmove.trans ((ihbelow.cons node).append ihrest)

theorem nodes_emitBranch (under : Option String) (nodes : List OrganigramNode) :
    ((emitBranch under nodes).flatMap LayoutBlock.nodes).Perm (allNodes nodes) := by
  unfold emitBranch
  rw [List.flatMap_append, nodes_collectLeaves]
  exact nodes_walkContainers

end Blocks

/-! ## The sheet of a forest -/

/-- Children of the rosters with the committee's key, other than the committee: the sheet drops them. -/
def droppedOf (tree : List OrganigramNode) : List OrganigramNode :=
  (((rostersOf tree).flatMap (·.children)).filter (·.key == committeeKey)).tail

/-- The branches of the sheet, in order, each with what it falls under. -/
def sheetBranches (tree : List OrganigramNode) : List (Option String × List OrganigramNode) :=
  ((committeeOf tree).map fun committee =>
    (postsOf committee).map (fun post => (some post.name, post.children)) ++
      [(some committee.name, attachedTo committee)]).getD [] ++
    (rostersOf tree).map (fun roster => (some (rosterHeading roster), keptBy roster)) ++
    [(none, othersOf tree)]

section Sheet

variable {tree nodes : List OrganigramNode} {committee : OrganigramNode}

/-- The sheet is the masthead, the committee and the branches. -/
theorem toLayout_eq (tree : List OrganigramNode) : toLayout tree =
    (rostersOf tree).map (fun roster => .roster ⟨roster.id, roster.name, roster⟩) ++
      ((committeeOf tree).map fun committee =>
        LayoutBlock.committee ⟨committee.id, committee, postsOf committee⟩).toList ++
      (sheetBranches tree).flatMap fun branch => emitBranch branch.1 branch.2 := by
  unfold toLayout sheetBranches
  cases committeeOf tree with
  | none => simp [List.flatMap_map]
  | some committee => simp [committeeBlocks, List.flatMap_map]

theorem allNodes_flatMap {l : List OrganigramNode} {f : OrganigramNode → List OrganigramNode} :
    allNodes (l.flatMap f) = l.flatMap fun node => allNodes (f node) := by
  induction l with
  | nil => simp
  | cons node l ih => rw [List.flatMap_cons, allNodes_append, ih, List.flatMap_cons]

/-- The nodes of a list, and then those below them. -/
theorem allNodes_below_perm : (nodes ++ nodes.flatMap fun node => allNodes node.children).Perm (allNodes nodes) := by
  induction nodes with
  | nil => simp
  | cons node nodes ih =>
    rw [List.flatMap_cons, allNodes_cons, List.cons_append, List.cons_append]
    exact ((List.perm_append_comm_assoc _ _ _).trans (ih.append_left _)).cons node

/-- The posts and what is attached to the committee itself. -/
theorem posts_append_attached : (postsOf committee ++ attachedTo committee).Perm committee.children := by
  have hposts : (postsOf committee).Perm (committee.children.filter fun child => postKeys.contains child.key) := by
    have hsplit : (postKeys.flatMap fun key => (committee.children.filter fun child =>
        postKeys.contains child.key).filter fun child => child.key == key).Perm
          (committee.children.filter fun child => postKeys.contains child.key) :=
      flatMap_filter_perm (by decide) fun child hchild =>
        List.contains_iff_mem.mp (List.mem_filter.mp hchild).2
    refine List.Perm.trans (List.Perm.of_eq ?_) hsplit
    unfold postsOf
    refine List.flatMap_congr fun key hkey => ?_
    rw [List.filter_filter]
    refine List.filter_congr fun child _ => ?_
    by_cases heq : child.key = key
    · simp [heq, hkey]
    · simp [heq]
  exact (hposts.append_right _).trans (List.filter_append_perm _ _)

/-- The posts, what is below them and what is attached to the committee itself. -/
theorem below_committee : (postsOf committee ++ ((postsOf committee).flatMap (fun post => allNodes post.children) ++
    allNodes (attachedTo committee))).Perm (allNodes committee.children) := by
  rw [← List.append_assoc]
  refine (allNodes_below_perm.append_right _).trans ?_
  exact (List.Perm.of_eq allNodes_append.symm).trans (allNodes_perm posts_append_attached)

/-- What the rosters have below them: the committee, what the sheet drops and what they keep. -/
theorem below_rosters (tree : List OrganigramNode) : ((rostersOf tree).flatMap fun roster => allNodes roster.children).Perm
    (((committeeOf tree).map fun committee => committee :: allNodes committee.children).getD [] ++
      allNodes (droppedOf tree) ++ (rostersOf tree).flatMap fun roster => allNodes (keptBy roster)) := by
  have hsplit : ∀ roster ∈ rostersOf tree, (allNodes roster.children).Perm
      (allNodes (roster.children.filter (·.key == committeeKey)) ++ allNodes (keptBy roster)) := by
    intro roster _
    rw [← allNodes_append]
    exact allNodes_perm (List.filter_append_perm _ _).symm
  refine (List.Perm.flatMap_left _ hsplit).trans ((List.flatMap_append_perm _ _ _).symm.trans ?_)
  refine List.Perm.append_right _ (List.Perm.of_eq ?_)
  rw [← allNodes_flatMap, ← List.filter_flatMap]
  unfold committeeOf droppedOf
  cases hkeyed : ((rostersOf tree).flatMap (·.children)).filter (·.key == committeeKey) with
  | nil =>
    rw [← List.head?_filter, hkeyed]
    rfl
  | cons committee rest =>
    rw [← List.head?_filter, hkeyed]
    simp

/-- **The sheet takes the forest apart**: the rosters, the committee with its posts, the branches and
what is dropped. -/
theorem sheet_perm (tree : List OrganigramNode) :
    (rostersOf tree ++ ((committeeOf tree).map fun committee => committee :: postsOf committee).getD [] ++
      (sheetBranches tree).flatMap (fun branch => allNodes branch.2) ++ allNodes (droppedOf tree)).Perm
        (allNodes tree) := by
  have hcommittee : (((committeeOf tree).map fun committee => committee :: postsOf committee).getD [] ++
      (sheetBranches tree).flatMap fun branch => allNodes branch.2).Perm
        (((committeeOf tree).map fun committee => committee :: allNodes committee.children).getD [] ++
          ((rostersOf tree).flatMap (fun roster => allNodes (keptBy roster)) ++ allNodes (othersOf tree))) := by
    unfold sheetBranches
    cases committeeOf tree with
    | none => simp [List.flatMap_map]
    | some committee =>
      simp only [Option.map_some, Option.getD_some, List.flatMap_append, List.flatMap_map, List.flatMap_cons,
        List.flatMap_nil, List.append_nil, List.cons_append]
      rw [← List.append_assoc, ← List.append_assoc, List.append_assoc]
      exact (below_committee.append_right _).cons committee
  have htree : (allNodes (rostersOf tree) ++ allNodes (othersOf tree)).Perm (allNodes tree) := by
    rw [← allNodes_append]
    exact allNodes_perm (List.filter_append_perm _ _)
  have hroom := ((below_rosters tree).symm.append_left (rostersOf tree)).trans allNodes_below_perm
  rw [List.append_assoc (rostersOf tree)]
  refine ((hcommittee.append_left (rostersOf tree)).append_right _).trans
    (List.Perm.trans ?_ ((hroom.append_right _).trans htree))
  -- what is dropped stands beside what the rosters keep
  simp only [List.append_assoc]
  refine List.Perm.append_left _ (List.Perm.append_left _ ?_)
  rw [← List.append_assoc]
  exact List.perm_append_comm

/-- **The blocks print every node of the forest once**, but for what the sheet drops. -/
theorem nodes_toLayout (tree : List OrganigramNode) :
    ((toLayout tree).flatMap LayoutBlock.nodes ++ allNodes (droppedOf tree)).Perm (allNodes tree) := by
  have hrosters : ((rostersOf tree).map fun roster => LayoutBlock.roster ⟨roster.id, roster.name, roster⟩).flatMap
      LayoutBlock.nodes = rostersOf tree := by
    rw [List.flatMap_map]
    exact List.flatMap_pure_eq_map id _ |>.trans (List.map_id _)
  have hcommittee : ((committeeOf tree).map fun committee =>
      LayoutBlock.committee ⟨committee.id, committee, postsOf committee⟩).toList.flatMap LayoutBlock.nodes =
        ((committeeOf tree).map fun committee => committee :: postsOf committee).getD [] := by
    cases committeeOf tree with
    | none => rfl
    | some committee => exact List.append_nil _
  have hbranches : (((sheetBranches tree).flatMap fun branch => emitBranch branch.1 branch.2).flatMap
      LayoutBlock.nodes).Perm ((sheetBranches tree).flatMap fun branch => allNodes branch.2) := by
    rw [List.flatMap_assoc]
    exact List.Perm.flatMap_left _ fun branch _ => nodes_emitBranch _ _
  rw [toLayout_eq, List.flatMap_append, List.flatMap_append, hrosters, hcommittee]
  exact ((hbranches.append_left _).append_right _).trans (sheet_perm tree)

theorem isCommittee_walkContainers {under : Option String} :
    ∀ block ∈ walkContainers under nodes, block.isCommittee = false := by
  induction nodes using chartInduction generalizing under with
  | nil => simp
  | cons node rest ihbelow ihrest =>
    by_cases hleaf : node.isLeaf = true
    · rw [walkContainers_cons_of_leaf hleaf]
      exact ihrest
    · rw [walkContainers_cons (by simpa using hleaf)]
      intro block hblock
      rcases List.mem_append.mp hblock with hbelow | hrest
      · rcases List.mem_cons.mp hbelow with rfl | hbelow
        · rfl
        · exact ihbelow block hbelow
      · exact ihrest block hrest

theorem isCommittee_emitBranch {under : Option String} :
    ∀ block ∈ emitBranch under nodes, block.isCommittee = false := by
  intro block hblock
  rcases List.mem_append.mp hblock with hleaves | hcontainers
  · cases under with
    | none =>
      obtain ⟨leaf, -, rfl⟩ := List.mem_map.mp hleaves
      rfl
    | some under =>
      cases hfilter : nodes.filter (·.isLeaf) with
      | nil =>
        rw [hfilter] at hleaves
        cases hleaves
      | cons first rest =>
        rw [hfilter, collectLeaves, List.mem_singleton] at hleaves
        rw [hleaves]
        rfl
  · exact isCommittee_walkContainers block hcontainers

/-- The sheet is read as it is laid out. -/
theorem nodes_groupLayout (tree : List OrganigramNode) :
    (groupLayout (toLayout tree)).nodes.Perm ((toLayout tree).flatMap LayoutBlock.nodes) := by
  have hrosters : ((rostersOf tree).map fun roster => LayoutBlock.roster ⟨roster.id, roster.name, roster⟩).filter
      LayoutBlock.isCommittee = [] := by
    rw [List.filter_map]
    simp [LayoutBlock.isCommittee]
  have hbranches : ((sheetBranches tree).flatMap fun branch => emitBranch branch.1 branch.2).filter
      LayoutBlock.isCommittee = [] := by
    refine List.filter_eq_nil_iff.mpr fun block hblock => ?_
    obtain ⟨branch, -, hin⟩ := List.mem_flatMap.mp hblock
    rw [isCommittee_emitBranch block hin]
    simp
  have hone : ((toLayout tree).filter LayoutBlock.isCommittee).length ≤ 1 := by
    rw [toLayout_eq, List.filter_append, List.filter_append, hrosters, hbranches, List.nil_append, List.append_nil]
    exact (List.length_filter_le _ _).trans Option.length_toList_le
  exact nodes_foldl_groupBlock hone

end Sheet

/-! ## Who an entry prints -/

section People

variable {node : OrganigramNode} {rows : List OrganigramNode} {holders : List OrganigramHolder}
  {seen : List Nat} {holder : OrganigramHolder}

theorem keepUnseen_sublist : (keepUnseen seen holders).Sublist holders := by
  induction holders generalizing seen with
  | nil => exact List.Sublist.refl _
  | cons adjoint rest ih =>
    rw [keepUnseen]
    split
    · exact ih.cons adjoint
    · exact ih.cons_cons adjoint

theorem not_mem_of_keepUnseen (h : holder ∈ keepUnseen seen holders) : holder.memberId ∉ seen := by
  induction holders generalizing seen with
  | nil => cases h
  | cons adjoint rest ih =>
    rw [keepUnseen] at h
    split at h
    · exact ih h
    · next hnew =>
      rcases List.mem_cons.mp h with rfl | h
      · simpa using hnew
      · exact fun hin => ih h (List.mem_cons_of_mem _ hin)

theorem nodup_keepUnseen : ((keepUnseen seen holders).map (·.memberId)).Nodup := by
  induction holders generalizing seen with
  | nil => exact List.nodup_nil
  | cons adjoint rest ih =>
    rw [keepUnseen]
    split
    · exact ih
    · refine List.nodup_cons.mpr ⟨fun hin => ?_, ih⟩
      obtain ⟨later, hlater, heq⟩ := List.mem_map.mp hin
      exact not_mem_of_keepUnseen hlater (heq ▸ List.mem_cons_self)

theorem mem_keepUnseen_of_mem (seen : List Nat) (h : holder ∈ holders) :
    holder.memberId ∈ seen ∨ holder.memberId ∈ (keepUnseen seen holders).map (·.memberId) := by
  induction holders generalizing seen with
  | nil => cases h
  | cons adjoint rest ih =>
    rw [keepUnseen]
    rcases List.mem_cons.mp h with rfl | h
    · split
      · next hseen => exact .inl (by simpa using hseen)
      · exact .inr List.mem_cons_self
    · split
      · exact ih seen h
      · rcases ih (adjoint.memberId :: seen) h with hin | hin
        · rcases List.mem_cons.mp hin with heq | hin
          · exact .inr (List.mem_map.mpr ⟨adjoint, List.mem_cons_self, heq.symm⟩)
          · exact .inl hin
        · exact .inr (List.mem_cons_of_mem _ hin)

/-- What `serviceParts` prints of the people of an entry. -/
structure PrintsPeople (entry : ServiceEntry) : Prop where
  /-- The leaders of the entry's own node, seat by seat. -/
  leaders : (serviceParts entry.node entry.rows).holders.filter (·.kind == .leader) = leadersOf entry.node
  /-- A plain row prints its leaders and deputies, and nobody else. -/
  alone : entry.rows = none → (serviceParts entry.node entry.rows).holders =
    entry.node.holders.filter fun holder => holder.kind == .leader || holder.kind == .deputy
  /-- Beneath a band, a deputy of the node or a leader of a row leads the node or is one adjoint. -/
  folded : ∀ rows, entry.rows = some rows → ∀ seat ∈ deputiesOf entry.node ++ rows.flatMap leadersOf,
    seat.memberId ∈ (leadersOf entry.node).map (·.memberId) ∨
      (((serviceParts entry.node entry.rows).holders.filter (·.kind == .deputy)).map (·.memberId)).count
        seat.memberId = 1
  /-- Nobody leads a band and is its adjoint, or is its adjoint twice. -/
  once : ∀ rows, entry.rows = some rows →
    (((serviceParts entry.node entry.rows).holders.filter (·.kind == .deputy)).map (·.memberId)).Nodup ∧
      ∀ adjoint ∈ (serviceParts entry.node entry.rows).holders.filter (·.kind == .deputy),
        adjoint.memberId ∉ (leadersOf entry.node).map (·.memberId)
  /-- Whoever is printed holds a seat of the entry's node or of one of its rows. -/
  seated : ∀ holder ∈ (serviceParts entry.node entry.rows).holders, ∃ node ∈ entry.nodes,
    ∃ seat ∈ node.holders, seat.memberId = holder.memberId ∧ seat.kind ≠ .member
  /-- The group roles among the rows are the teams. -/
  teams : (serviceParts entry.node entry.rows).teams = teamRows (entry.rows.getD [])

theorem adjoints_of_band : (serviceParts node (some rows)).holders.filter (·.kind == .deputy) =
    (bandAdjoints node rows).map fun deputy => { deputy with kind := .deputy } := by
  unfold serviceParts leadersOf
  rw [List.filter_append, List.filter_filter, List.filter_eq_nil_iff.mpr, List.nil_append,
    List.filter_eq_self.mpr]
  · intro deputy hdeputy
    obtain ⟨_, _, rfl⟩ := List.mem_map.mp hdeputy
    rfl
  · intro holder _
    cases holder.kind <;> simp

theorem adjointIds_of_band : ((serviceParts node (some rows)).holders.filter (·.kind == .deputy)).map
    (·.memberId) = (bandAdjoints node rows).map (·.memberId) := by
  rw [adjoints_of_band, List.map_map]
  rfl

theorem printsPeople (entry : ServiceEntry) : PrintsPeople entry := by
  obtain ⟨node, rows⟩ := entry
  cases rows with
  | none =>
    constructor
    · show (node.holders.filter _).filter _ = _
      rw [List.filter_filter]
      refine List.filter_congr fun holder _ => ?_
      cases holder.kind <;> rfl
    · exact fun _ => rfl
    · intro rows h
      cases h
    · intro rows h
      cases h
    · intro holder hholder
      obtain ⟨hin, hkind⟩ := List.mem_filter.mp hholder
      refine ⟨node, List.mem_cons_self, holder, hin, rfl, ?_⟩
      rintro heq
      simp [heq] at hkind
    · rfl
  | some rows =>
    constructor
    · have hleaders : (leadersOf node).filter (·.kind == .leader) = leadersOf node :=
        List.filter_eq_self.mpr fun leader hleader => (List.mem_filter.mp hleader).2
      show (leadersOf node ++ (bandAdjoints node rows).map _).filter _ = _
      rw [List.filter_append, hleaders, List.filter_eq_nil_iff.mpr, List.append_nil]
      intro deputy hdeputy
      obtain ⟨_, _, rfl⟩ := List.mem_map.mp hdeputy
      simp
    · intro h
      cases h
    · rintro rows ⟨⟩ seat hseat
      refine (mem_keepUnseen_of_mem _ hseat).imp_right fun hin => ?_
      rw [adjointIds_of_band]
      exact List.count_eq_one_of_mem nodup_keepUnseen hin
    · rintro rows ⟨⟩
      refine ⟨adjointIds_of_band ▸ nodup_keepUnseen, fun adjoint hadjoint => ?_⟩
      rw [adjoints_of_band] at hadjoint
      obtain ⟨holder, hholder, rfl⟩ := List.mem_map.mp hadjoint
      have hnew : holder.memberId ∉ (leadersOf node).map (·.memberId) := not_mem_of_keepUnseen hholder
      exact hnew
    · intro holder hholder
      rcases List.mem_append.mp hholder with hleader | hadjoint
      · obtain ⟨hin, hkind⟩ := List.mem_filter.mp hleader
        exact ⟨node, List.mem_cons_self, holder, hin, rfl, by rw [beq_iff_eq.mp hkind]; decide⟩
      · obtain ⟨seat, hseat, rfl⟩ := List.mem_map.mp hadjoint
        rcases List.mem_append.mp (keepUnseen_sublist.subset hseat) with hdeputy | hbeneath
        · obtain ⟨hin, hkind⟩ := List.mem_filter.mp hdeputy
          exact ⟨node, List.mem_cons_self, seat, hin, rfl, by rw [beq_iff_eq.mp hkind]; decide⟩
        · obtain ⟨row, hrow, hleads⟩ := List.mem_flatMap.mp hbeneath
          obtain ⟨hin, hkind⟩ := List.mem_filter.mp hleads
          exact ⟨row, List.mem_cons_of_mem _ hrow, seat, hin, rfl, by rw [beq_iff_eq.mp hkind]; decide⟩
    · rfl

end People

/-! ## The sheet loses nobody -/

/-- **The sheet prints every node once**, when the rosters have one committee at most, and of each entry
the people that its parts stand for. -/
theorem sheet_complete (tree : List OrganigramNode)
    (hcommittee : (((rostersOf tree).flatMap (·.children)).filter (·.key == committeeKey)).length ≤ 1) :
    (groupLayout (toLayout tree)).nodes.Perm (allNodes tree) ∧
      ∀ entry ∈ (groupLayout (toLayout tree)).entries, PrintsPeople entry := by
  refine ⟨?_, fun entry _ => printsPeople entry⟩
  have hnone : droppedOf tree = [] := List.length_eq_zero_iff.mp (by
    rw [droppedOf, List.length_tail]
    omega)
  have hall := nodes_toLayout tree
  rw [hnone, allNodes_nil, List.append_nil] at hall
  exact (nodes_groupLayout tree).trans hall

def sheetNode (id : Nat) (name : String) (holders : List OrganigramHolder) (children : List OrganigramNode) :
    OrganigramNode := ⟨id, name, name, none, false, false, holders, children⟩

def leaderSeat (roleId memberId : Nat) : OrganigramHolder :=
  ⟨roleId, memberId, none, none, none, .leader, false⟩

/-- The elders, their committee with its coordinator, and a service of two teams. -/
theorem sheet_complete_elders :
    (groupLayout (toLayout [{ sheetNode 1 "elder" [] [sheetNode 2 "service-committee" []
      [sheetNode 3 "coordinator" [] [sheetNode 4 "Audio" [] [sheetNode 5 "Sono" [] []]]]] with
        isRoster := true }])).nodes.Perm
      (allNodes [{ sheetNode 1 "elder" [] [sheetNode 2 "service-committee" []
        [sheetNode 3 "coordinator" [] [sheetNode 4 "Audio" [] [sheetNode 5 "Sono" [] []]]]] with
          isRoster := true }]) :=
  (sheet_complete _ (by decide)).1

/-- The seats that the entries print, by role and member. -/
def GroupedLayout.printedSeats (grouped : GroupedLayout) : List (Nat × Nat) :=
  grouped.entries.flatMap fun entry =>
    (serviceParts entry.node entry.rows).holders.map fun holder => (holder.roleId, holder.memberId)

/-- A leader of a service leads its team too: the sheet names him once. -/
theorem folded_seat_not_printed : ¬∀ tree : List OrganigramNode,
    (groupLayout (toLayout tree)).nodes.Perm (allNodes tree) ∧
      ∀ node ∈ allNodes tree, ∀ seat ∈ node.holders, seat.kind ≠ .member →
        (groupLayout (toLayout tree)).printedSeats.count (seat.roleId, seat.memberId) = 1 := by
  intro h
  have hall := (h [sheetNode 1 "Audio" [leaderSeat 1 7] [sheetNode 2 "Sono" [leaderSeat 2 7] []]]).2
  have hteam := hall (sheetNode 2 "Sono" [leaderSeat 2 7] []) (by simp [sheetNode]) (leaderSeat 2 7)
    List.mem_cons_self (by decide)
  revert hteam
  decide +kernel

end Unitae.Roles
