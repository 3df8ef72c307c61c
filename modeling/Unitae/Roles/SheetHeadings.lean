import Unitae.Base.Runs
import Unitae.Roles.SheetLayout

/-!
# Unitae — the headings of the printed sheet (`organigram-layout.ts`)

`groupLayout` makes a section of the bands that follow each other under one heading. `walkContainer` emits
a container under its branch's heading, then what is below it under its own name, and then the branch's
next container, under the branch's heading again. `headingsOnce_iff` is when a heading is printed once.
-/

namespace Unitae.Roles

/-! ## The sections are runs -/

/-- A band with its responsibility header. -/
def LayoutBlock.headed : LayoutBlock → Option (String × BandBlock)
  | .band block => block.under.map fun under => (under, block)
  | _ => none

def headedBands (blocks : List LayoutBlock) : List (String × BandBlock) := blocks.filterMap LayoutBlock.headed

/-- The headings of the bands, in order. -/
def headings (blocks : List LayoutBlock) : List String := (headedBands blocks).map Prod.fst

def LayoutBlock.bandUnder (under : String) : LayoutBlock → Option BandBlock
  | .band block => if block.under = some under then some block else none
  | _ => none

/-- The blocks that are bands under a heading. -/
def bandsUnder (under : String) (blocks : List LayoutBlock) : List BandBlock :=
  blocks.filterMap (LayoutBlock.bandUnder under)

/-- Every heading has one section, of all the bands under it. -/
def HeadingsOnce (tree : List OrganigramNode) : Prop :=
  ((groupLayout (toLayout tree)).sections.map (·.under)).Nodup ∧
    ∀ part ∈ (groupLayout (toLayout tree)).sections, part.bands = bandsUnder part.under (toLayout tree)

section Sections

variable {blocks blocks' : List LayoutBlock} {under : String} {tree : List OrganigramNode}

@[simp] theorem headings_nil : headings [] = [] := rfl

theorem headings_append : headings (blocks ++ blocks') = headings blocks ++ headings blocks' := by
  unfold headings headedBands
  rw [List.filterMap_append, List.map_append]

theorem headings_band {block : BandBlock} : headings (.band block :: blocks) = block.under.toList ++ headings blocks := by
  unfold headings headedBands
  cases hunder : block.under with
  | none => simp [LayoutBlock.headed, hunder]
  | some under => simp [LayoutBlock.headed, hunder]

theorem bandsUnder_eq : bandsUnder under blocks =
    ((headedBands blocks).filter fun item => item.1 = under).map Prod.snd := by
  unfold bandsUnder headedBands
  induction blocks with
  | nil => rfl
  | cons block blocks ih =>
    cases block with
    | band b =>
      cases hunder : b.under with
      | none => simp [LayoutBlock.headed, LayoutBlock.bandUnder, hunder, ih]
      | some other =>
        by_cases heq : other = under
        · simp [LayoutBlock.headed, LayoutBlock.bandUnder, hunder, heq, ih]
        · simp [LayoutBlock.headed, LayoutBlock.bandUnder, hunder, heq, ih]
    | _ =>
      rw [List.filterMap_cons_none rfl, List.filterMap_cons_none rfl]
      exact ih

/-- The sections of the sheet are the runs of its headed bands. -/
theorem sections_runs (blocks : List LayoutBlock) :
    Runs SheetSection.under SheetSection.bands (groupLayout blocks).sections (headedBands blocks) := by
  induction blocks using List.reverseRecOn with
  | nil => exact Runs.nil
  | append_singleton blocks block ih =>
    have hstep : groupLayout (blocks ++ [block]) = groupBlock (groupLayout blocks) block :=
      List.foldl_concat _ _ _ _
    have hsame : block.headed = none → Runs SheetSection.under SheetSection.bands
        (groupLayout blocks).sections (headedBands (blocks ++ [block])) := by
      intro hnone
      unfold headedBands
      rw [List.filterMap_append, List.filterMap_cons, hnone, List.filterMap_nil, List.append_nil]
      exact ih
    rw [hstep]
    cases block with
    | band b =>
      cases hunder : b.under with
      | none =>
        rw [groupBlock, hunder]
        exact hsame (by rw [LayoutBlock.headed, hunder]; rfl)
      | some under =>
        have hlist : headedBands (blocks ++ [.band b]) = headedBands blocks ++ [(under, b)] := by
          simp [headedBands, LayoutBlock.headed, hunder]
        rw [groupBlock, hunder, hlist]
        show Runs _ _ (pushBand (groupLayout blocks).sections under b) _
        unfold pushBand
        rcases List.eq_nil_or_concat (groupLayout blocks).sections with hnone | ⟨front, current, hsplit⟩
        · rw [hnone] at ih ⊢
          exact ih.push_new ⟨under, [b]⟩ (by simp) rfl
        · rw [List.concat_eq_append] at hsplit
          rw [hsplit] at ih ⊢
          rw [List.getLast?_concat, List.dropLast_concat]
          dsimp only
          by_cases heq : current.under = under
          · rw [if_pos heq, ← heq]
            exact ih.push_same rfl rfl
          · rw [if_neg heq]
            refine ih.push_new ⟨under, [b]⟩ (fun last hlast => ?_) rfl
            obtain rfl : current = last := by simpa using hlast
            exact heq
    | roster b => exact hsame rfl
    | committee b => exact hsame rfl
    | row b => exact hsame rfl

/-- Headings are printed once when the bands of each stand together. -/
theorem headingsOnce_iff_together : HeadingsOnce tree ↔ ∀ under, Together under (headings (toLayout tree)) := by
  have hruns := sections_runs (toLayout tree)
  refine Iff.trans ?_ hruns.nodup_iff
  refine and_iff_left_of_imp fun hnodup part hpart => ?_
  rw [bandsUnder_eq]
  exact hruns.items_eq hnodup hpart

end Sections

/-! ## The branches of the sheet -/

/-- Of the containers that are printed under one heading, only the last has units of its own. -/
def OnlyLastNests (nodes : List OrganigramNode) : Prop :=
  ∀ node ∈ (nodes.filter (!·.isLeaf)).dropLast, hasChildUnits node = false

instance decidableOnlyLastNests (nodes : List OrganigramNode) : Decidable (OnlyLastNests nodes) :=
  inferInstanceAs (Decidable (∀ node ∈ (nodes.filter (!·.isLeaf)).dropLast, hasChildUnits node = false))

mutual

/-- The branches that containers make of the units below them, each with its heading. -/
def unitBranches : List OrganigramNode → List (String × List OrganigramNode)
  | [] => []
  | node :: rest => unitBranchesFrom node ++ unitBranches rest

def unitBranchesFrom : OrganigramNode → List (String × List OrganigramNode)
  | node@⟨_, _, name, _, _, _, _, children⟩ =>
    (if hasChildUnits node then [(name, children)] else []) ++ unitBranches children

end

/-- A branch of the sheet and those below it, but for what falls under nobody's responsibility. -/
def headedBranch (branch : Option String × List OrganigramNode) : List (String × List OrganigramNode) :=
  (if branch.2.isEmpty then [] else branch.1.toList.map fun under => (under, branch.2)) ++ unitBranches branch.2

/-- Every list of nodes that is printed under a heading. -/
def headedBranches (tree : List OrganigramNode) : List (String × List OrganigramNode) :=
  (sheetBranches tree).flatMap headedBranch

section Walk

variable {nodes rest : List OrganigramNode} {node : OrganigramNode} {under : Option String} {heading : String}

@[simp] theorem unitBranches_nil : unitBranches [] = [] := by
  rw [unitBranches]

@[simp] theorem unitBranches_cons : unitBranches (node :: rest) =
    (if hasChildUnits node then [(node.name, node.children)] else []) ++ unitBranches node.children ++
      unitBranches rest := by
  cases node
  rw [unitBranches, unitBranchesFrom]

theorem unitBranches_of_leaves (h : ∀ node ∈ nodes, node.isLeaf = true) : unitBranches nodes = [] := by
  induction nodes with
  | nil => simp
  | cons node nodes ih =>
    have hnone : node.children = [] := List.isEmpty_iff.mp (h node List.mem_cons_self)
    rw [unitBranches_cons, ih fun n hn => h n (List.mem_cons_of_mem _ hn), hnone]
    simp [hasChildUnits, hnone]

theorem headings_of_leaves (h : ∀ node ∈ nodes, node.isLeaf = true) : headings (walkContainers under nodes) = [] := by
  rw [walkContainers_of_leaves h]
  rfl

theorem leaves_of_noUnits (h : hasChildUnits node = false) : ∀ child ∈ node.children, child.isLeaf = true := by
  simpa [hasChildUnits] using h

theorem headings_walk_leaf (h : node.isLeaf = true) :
    headings (walkContainers under (node :: rest)) = headings (walkContainers under rest) := by
  rw [walkContainers_cons_of_leaf h]

theorem headings_walk (h : node.isLeaf = false) : headings (walkContainers under (node :: rest)) =
    under.toList ++ (headings (walkContainers (some node.name) node.children) ++
      headings (walkContainers under rest)) := by
  rw [walkContainers_cons h, List.cons_append, headings_band, headings_append]

/-- A branch's containers start with its heading. -/
theorem headings_walk_start (heading : String) (nodes : List OrganigramNode) :
    (headings (walkContainers (some heading) nodes) = [] ∧
      ∀ node ∈ nodes, node.isLeaf = true) ∨
    ((∃ node ∈ nodes, node.isLeaf = false) ∧
      ∃ later, headings (walkContainers (some heading) nodes) = heading :: later) := by
  induction nodes with
  | nil => exact .inl ⟨headings_of_leaves (by simp), by simp⟩
  | cons node nodes ih =>
    by_cases hleaf : node.isLeaf = true
    · rw [headings_walk_leaf hleaf]
      rcases ih with ⟨hnone, hall⟩ | ⟨⟨n, hn, hcontainer⟩, later, heq⟩
      · exact .inl ⟨hnone, by simpa [hleaf] using hall⟩
      · exact .inr ⟨⟨n, List.mem_cons_of_mem _ hn, hcontainer⟩, later, heq⟩
    · rw [headings_walk (by simpa using hleaf)]
      exact .inr ⟨⟨node, List.mem_cons_self, by simpa using hleaf⟩, _, rfl⟩

/-- The headings below a container are its own units'. -/
theorem mem_headings_walk (h : heading ∈ headings (walkContainers under nodes)) :
    under = some heading ∨ heading ∈ (unitBranches nodes).map Prod.fst := by
  induction nodes using chartInduction generalizing under with
  | nil => simp at h
  | cons node rest ihbelow ihrest =>
    rw [unitBranches_cons, List.map_append, List.mem_append]
    by_cases hleaf : node.isLeaf = true
    · rw [headings_walk_leaf hleaf] at h
      exact (ihrest h).imp_right .inr
    · rw [headings_walk (by simpa using hleaf)] at h
      rcases List.mem_append.mp h with hown | h
      · exact .inl (by simpa using hown)
      · rcases List.mem_append.mp h with hbelow | hrest
        · refine .inr (.inl ?_)
          rw [List.map_append, List.mem_append]
          rcases ihbelow hbelow with hname | hunits
          · by_cases hunits : hasChildUnits node = true
            · exact .inl (by simpa [hunits] using (Option.some.inj hname).symm)
            · rw [headings_of_leaves (leaves_of_noUnits (by simpa using hunits))] at hbelow
              cases hbelow
          · exact .inr hunits
        · exact (ihrest hrest).imp_right .inr

/-- The bands of a branch under its own heading. -/
theorem together_own (h : heading ∉ (unitBranches nodes).map Prod.fst) :
    Together heading (headings (walkContainers (some heading) nodes)) ↔ OnlyLastNests nodes := by
  induction nodes with
  | nil => simp [OnlyLastNests, together_of_not_mem]
  | cons node nodes ih =>
    rw [unitBranches_cons, List.map_append, List.map_append, List.mem_append, List.mem_append, not_or, not_or] at h
    obtain ⟨⟨hname, hbelow⟩, hrest⟩ := h
    unfold OnlyLastNests
    by_cases hleaf : node.isLeaf = true
    · rw [headings_walk_leaf hleaf, List.filter_cons_of_neg (by simp [hleaf])]
      exact ih hrest
    · have hcontainer : node.isLeaf = false := by simpa using hleaf
      rw [headings_walk hcontainer, List.filter_cons_of_pos (by simp [hcontainer]), Option.toList_some,
        List.singleton_append]
      have hnext := headings_walk_start heading nodes
      by_cases hunits : hasChildUnits node = true
      · -- its units come between it and the branch's next container
        have hother : heading ∉ headings (walkContainers (some node.name) node.children) := by
          intro hin
          rcases mem_headings_walk hin with heq | hin
          · exact hname (by simpa [hunits] using (Option.some.inj heq).symm)
          · exact hbelow hin
        have hsome : headings (walkContainers (some node.name) node.children) ≠ [] := by
          obtain ⟨child, hchild, hnest⟩ : ∃ child ∈ node.children, child.isLeaf = false := by
            simpa [hasChildUnits] using hunits
          rcases headings_walk_start node.name node.children with ⟨-, hall⟩ | ⟨-, later, heq⟩
          · rw [hall child hchild] at hnest
            cases hnest
          · rw [heq]
            exact List.cons_ne_nil _ _
        rw [together_cons_append hother hsome]
        rcases hnext with ⟨hnone, hall⟩ | ⟨⟨n, hn, hnest⟩, later, heq⟩
        · rw [hnone, List.filter_eq_nil_iff.mpr (by simpa using hall)]
          simp
        · have hkept : n ∈ nodes.filter (!·.isLeaf) := List.mem_filter.mpr ⟨hn, by simp [hnest]⟩
          rw [heq]
          refine iff_of_false (by simp) fun honly => ?_
          cases hfilter : nodes.filter (!·.isLeaf) with
          | nil => rw [hfilter] at hkept; cases hkept
          | cons first others =>
            rw [hfilter, List.dropLast_cons_cons] at honly
            rw [honly node List.mem_cons_self] at hunits
            cases hunits
      · have hflat := leaves_of_noUnits (by simpa using hunits)
        rw [headings_of_leaves hflat, List.nil_append]
        have hown : hasChildUnits node = false := by simpa using hunits
        rcases hnext with ⟨hnone, hall⟩ | ⟨⟨n, hn, hnest⟩, later, heq⟩
        · rw [hnone, List.filter_eq_nil_iff.mpr (by simpa using hall)]
          refine iff_of_true (fun y hy hsub => ?_) (by simp)
          exact hy (List.mem_singleton.mp (hsub.subset (by simp)))
        · have hkept : n ∈ nodes.filter (!·.isLeaf) := List.mem_filter.mpr ⟨hn, by simp [hnest]⟩
          rw [heq, together_cons_cons, ← heq, ih hrest]
          unfold OnlyLastNests
          cases hfilter : nodes.filter (!·.isLeaf) with
          | nil => rw [hfilter] at hkept; cases hkept
          | cons first others =>
            rw [List.dropLast_cons_cons]
            simp [hown]

/-- The bands below a branch that is not under the heading. -/
theorem together_inner (hunder : under ≠ some heading)
    (hcount : ((unitBranches nodes).map Prod.fst).count heading ≤ 1) :
    Together heading (headings (walkContainers under nodes)) ↔
      ∀ branch ∈ unitBranches nodes, branch.1 = heading → OnlyLastNests branch.2 := by
  induction nodes using chartInduction generalizing under with
  | nil => simp [together_of_not_mem]
  | cons node rest ihbelow ihrest =>
    rw [unitBranches_cons, List.map_append, List.map_append, List.count_append, List.count_append] at hcount
    rw [unitBranches_cons]
    by_cases hleaf : node.isLeaf = true
    · have hnone : node.children = [] := List.isEmpty_iff.mp hleaf
      rw [headings_walk_leaf hleaf, ihrest hunder (by omega)]
      simp [hasChildUnits, hnone]
    · have hskip : ∀ l, Together heading (under.toList ++ l) ↔ Together heading l := by
        intro l
        cases under with
        | none => rfl
        | some other => exact together_cons_of_ne fun heq => hunder (heq ▸ rfl)
      rw [headings_walk (by simpa using hleaf), hskip]
      by_cases hunits : hasChildUnits node = true
      · rw [if_pos hunits] at hcount ⊢
        by_cases hname : node.name = heading
        · -- the heading is this container's: no other branch has it
          have hown : ([(node.name, node.children)].map Prod.fst).count heading = 1 := by simp [hname]
          have hbelow : heading ∉ (unitBranches node.children).map Prod.fst :=
            List.count_eq_zero.mp (by omega)
          have hrest : heading ∉ (unitBranches rest).map Prod.fst := List.count_eq_zero.mp (by omega)
          have hlater : heading ∉ headings (walkContainers under rest) := fun hin =>
            (mem_headings_walk hin).elim hunder hrest
          rw [together_append_left hlater, hname, together_own hbelow]
          constructor
          · intro honly branch hbranch heq
            rcases List.mem_append.mp hbranch with hbranch | hin
            · rcases List.mem_append.mp hbranch with hin | hin
              · rw [List.mem_singleton.mp hin]
                exact honly
              · exact absurd (List.mem_map.mpr ⟨branch, hin, heq⟩) hbelow
            · exact absurd (List.mem_map.mpr ⟨branch, hin, heq⟩) hrest
          · exact fun hall => hall (heading, node.children) (by simp) rfl
        · have hboth : heading ∉ headings (walkContainers (some node.name) node.children) ∨
              heading ∉ headings (walkContainers under rest) := by
            by_contra hin
            rw [not_or, not_not, not_not] at hin
            have hbelow := (mem_headings_walk hin.1).resolve_left fun heq => hname (Option.some.inj heq)
            have hrest := (mem_headings_walk hin.2).resolve_left hunder
            have hbelow' := List.count_pos_iff.mpr hbelow
            have hrest' := List.count_pos_iff.mpr hrest
            omega
          rw [together_append hboth, ihbelow (fun heq => hname (Option.some.inj heq)) (by omega),
            ihrest hunder (by omega)]
          simp only [List.mem_append, List.mem_singleton, or_imp, forall_and]
          have hother : ∀ branch, branch = (node.name, node.children) → branch.1 = heading →
              OnlyLastNests branch.2 := by
            rintro branch rfl hkey
            exact absurd hkey hname
          exact ⟨fun h => ⟨⟨hother, h.1⟩, h.2⟩, fun h => ⟨h.1.2, h.2⟩⟩
      · have hflat := leaves_of_noUnits (by simpa using hunits)
        rw [if_neg hunits] at hcount ⊢
        rw [headings_of_leaves hflat, List.nil_append, ihrest hunder (by omega), unitBranches_of_leaves hflat]
        simp

end Walk

/-! ## The headings of a sheet -/

section Sheet

variable {tree : List OrganigramNode} {branch : Option String × List OrganigramNode}
  {branches : List (Option String × List OrganigramNode)} {heading : String}

/-- The leaves of a branch add its heading in front, if they add anything. -/
theorem headings_emitBranch (branch : Option String × List OrganigramNode) :
    headings (emitBranch branch.1 branch.2) =
      (if branch.2.any (·.isLeaf) then branch.1.toList else []) ++
        headings (walkContainers branch.1 branch.2) := by
  obtain ⟨under, nodes⟩ := branch
  unfold emitBranch
  rw [headings_append]
  congr 1
  cases under with
  | none =>
    have hrows : ∀ leaves : List OrganigramNode, headings (collectLeaves none leaves) = [] := by
      intro leaves
      induction leaves with
      | nil => rfl
      | cons leaf leaves ih => exact ih
    simp [hrows]
  | some under =>
    cases hfilter : nodes.filter (·.isLeaf) with
    | nil =>
      have hnone : nodes.any (·.isLeaf) = false := by
        rw [List.any_eq_false]
        exact List.filter_eq_nil_iff.mp hfilter
      rw [if_neg (by simp [hnone])]
      rfl
    | cons first others =>
      have hsome : nodes.any (·.isLeaf) = true := by
        have hin := List.mem_filter.mp (hfilter ▸ List.mem_cons_self : first ∈ nodes.filter (·.isLeaf))
        exact List.any_eq_true.mpr ⟨first, hin⟩
      rw [if_pos hsome]
      rfl

@[simp] theorem headedBranch_nil {under : Option String} : headedBranch (under, []) = [] := by
  simp [headedBranch]

theorem headedBranch_cons {under : Option String} {node : OrganigramNode} {nodes : List OrganigramNode} :
    headedBranch (under, node :: nodes) =
      (under.toList.map fun heading => (heading, node :: nodes)) ++ unitBranches (node :: nodes) := rfl

theorem mem_headings_emitBranch (h : heading ∈ headings (emitBranch branch.1 branch.2)) :
    heading ∈ (headedBranch branch).map Prod.fst := by
  obtain ⟨under, nodes⟩ := branch
  rw [headings_emitBranch] at h
  cases nodes with
  | nil => simp at h
  | cons node nodes =>
    rw [headedBranch_cons, List.map_append, List.mem_append]
    have hown : under = some heading → heading ∈ (under.toList.map fun heading => (heading, node :: nodes)).map
        Prod.fst := by
      rintro rfl
      simp
    rcases List.mem_append.mp h with hfirst | hwalk
    · refine .inl (hown ?_)
      split at hfirst
      · simpa using hfirst
      · cases hfirst
    · exact (mem_headings_walk hwalk).imp_left hown

/-- A heading of one branch at most, in a branch of the sheet. -/
theorem together_emitBranch (hcount : ((headedBranch branch).map Prod.fst).count heading ≤ 1) :
    Together heading (headings (emitBranch branch.1 branch.2)) ↔
      ∀ b ∈ headedBranch branch, b.1 = heading → OnlyLastNests b.2 := by
  obtain ⟨under, nodes⟩ := branch
  rw [headings_emitBranch]
  cases nodes with
  | nil => simp [together_of_not_mem]
  | cons node nodes =>
    rw [headedBranch_cons, List.map_append, List.count_append] at hcount
    rw [headedBranch_cons]
    dsimp only
    by_cases hunder : under = some heading
    · subst hunder
      have hinner : heading ∉ (unitBranches (node :: nodes)).map Prod.fst := by
        refine List.count_eq_zero.mp ?_
        simp only [Option.toList_some, List.map_cons, List.map_nil, List.count_singleton, beq_self_eq_true,
          if_true] at hcount
        omega
      have hfirst : Together heading ((if (node :: nodes).any (·.isLeaf) then (some heading).toList else []) ++
          headings (walkContainers (some heading) (node :: nodes))) ↔
          Together heading (headings (walkContainers (some heading) (node :: nodes))) := by
        split
        · rcases headings_walk_start heading (node :: nodes) with ⟨hnone, -⟩ | ⟨-, later, heq⟩
          · rw [hnone]
            refine iff_of_true (fun y hy hsub => ?_) (together_of_not_mem List.not_mem_nil)
            exact hy (List.mem_singleton.mp (hsub.subset (by simp)))
          · rw [heq]
            exact together_cons_cons
        · rfl
      rw [hfirst, together_own hinner]
      constructor
      · intro honly b hb heq
        rcases List.mem_append.mp hb with hin | hin
        · rw [Option.toList_some, List.map_singleton, List.mem_singleton] at hin
          rw [hin]
          exact honly
        · exact absurd (List.mem_map.mpr ⟨b, hin, heq⟩) hinner
      · exact fun hall => hall (heading, node :: nodes) (by simp) rfl
    · have hskip : ∀ l, Together heading ((if (node :: nodes).any (·.isLeaf) then under.toList else []) ++ l) ↔
          Together heading l := by
        intro l
        refine together_append_right fun hin => hunder ?_
        split at hin
        · simpa using hin
        · cases hin
      rw [hskip, together_inner hunder (by omega)]
      refine forall_congr' fun b => ?_
      rw [List.mem_append]
      constructor
      · rintro hinner (hin | hin) heq
        · obtain ⟨other, hother, rfl⟩ := List.mem_map.mp hin
          obtain rfl : other = heading := heq
          exact absurd (by simpa using hother) hunder
        · exact hinner hin heq
      · exact fun hall hin => hall (.inr hin)

theorem mem_headings_branches
    (h : heading ∈ headings (branches.flatMap fun branch => emitBranch branch.1 branch.2)) :
    heading ∈ (branches.flatMap headedBranch).map Prod.fst := by
  induction branches with
  | nil => cases h
  | cons branch branches ih =>
    rw [List.flatMap_cons, headings_append, List.mem_append] at h
    rw [List.flatMap_cons, List.map_append, List.mem_append]
    exact h.imp mem_headings_emitBranch ih

/-- A heading of one branch at most stands together when its branch's containers nest in the last one. -/
theorem together_branches (hcount : ((branches.flatMap headedBranch).map Prod.fst).count heading ≤ 1) :
    Together heading (headings (branches.flatMap fun branch => emitBranch branch.1 branch.2)) ↔
      ∀ b ∈ branches.flatMap headedBranch, b.1 = heading → OnlyLastNests b.2 := by
  induction branches with
  | nil => simp [together_of_not_mem]
  | cons branch branches ih =>
    rw [List.flatMap_cons, List.map_append, List.count_append] at hcount
    rw [List.flatMap_cons, List.flatMap_cons, headings_append]
    have hone : heading ∉ headings (emitBranch branch.1 branch.2) ∨
        heading ∉ headings (branches.flatMap fun branch => emitBranch branch.1 branch.2) := by
      by_contra hboth
      rw [not_or, not_not, not_not] at hboth
      have hfirst := List.count_pos_iff.mpr (mem_headings_emitBranch hboth.1)
      have hlater := List.count_pos_iff.mpr (mem_headings_branches hboth.2)
      omega
    rw [together_append hone, together_emitBranch (by omega), ih (by omega)]
    simp only [List.mem_append, or_imp, forall_and]

/-! ### Headings and names -/

theorem count_unitBranches (heading : String) (nodes : List OrganigramNode) :
    ((unitBranches nodes).map Prod.fst).count heading ≤ ((allNodes nodes).map (·.name)).count heading := by
  induction nodes using chartInduction with
  | nil => simp
  | cons node rest ihbelow ihrest =>
    rw [unitBranches_cons, allNodes_cons]
    simp only [List.map_append, List.count_append, List.cons_append, List.map_cons, List.count_cons]
    have hown : ((if hasChildUnits node then [(node.name, node.children)] else []).map Prod.fst).count heading ≤
        if node.name == heading then 1 else 0 := by
      by_cases hunits : hasChildUnits node = true
      · simp [hunits, List.count_singleton]
      · simp [hunits]
    omega

theorem count_branches (heading : String) (branches : List (Option String × List OrganigramNode)) :
    ((branches.flatMap headedBranch).map Prod.fst).count heading ≤
      (branches.map Prod.fst).count (some heading) +
        ((branches.flatMap fun branch => allNodes branch.2).map (·.name)).count heading := by
  induction branches with
  | nil => simp
  | cons branch branches ih =>
    obtain ⟨under, nodes⟩ := branch
    rw [List.flatMap_cons, List.flatMap_cons, List.map_append, List.map_append, List.count_append,
      List.count_append, List.map_cons, List.count_cons]
    have hinner := count_unitBranches heading nodes
    have hbranch : ((headedBranch (under, nodes)).map Prod.fst).count heading ≤
        (if under == some heading then 1 else 0) + ((unitBranches nodes).map Prod.fst).count heading := by
      cases nodes with
      | nil => simp
      | cons node nodes =>
        rw [headedBranch_cons, List.map_append, List.count_append]
        cases under with
        | none => simp
        | some other => simp [List.count_singleton]
    dsimp only
    omega

/-- What the branch of the elders' roster falls under. -/
def eldersHeading : String := "Collège des anciens"

theorem count_rosterHeading (hheading : heading ≠ eldersHeading) (rosters : List OrganigramNode) :
    (rosters.map fun roster => some (rosterHeading roster)).count (some heading) ≤
      (rosters.map (·.name)).count heading := by
  induction rosters with
  | nil => simp
  | cons roster rosters ih =>
    rw [List.map_cons, List.map_cons, List.count_cons, List.count_cons]
    have hroster : (if some (rosterHeading roster) == some heading then 1 else 0) ≤
        if roster.name == heading then 1 else 0 := by
      unfold rosterHeading
      by_cases helder : roster.key = "elder"
      · rw [if_pos helder, if_neg (by simpa [eldersHeading] using Ne.symm hheading)]
        exact Nat.zero_le _
      · rw [if_neg helder]
        simp
    omega

/-- Where the nodes have distinct names, so have the branches, but for the elders' heading. -/
theorem count_headedBranches (hnames : ((allNodes tree).map (·.name)).Nodup) (hheading : heading ≠ eldersHeading) :
    ((headedBranches tree).map Prod.fst).count heading ≤ 1 := by
  have hall := (List.nodup_iff_count_le_one.mp hnames) heading
  rw [← ((sheet_perm tree).map (·.name)).count_eq] at hall
  simp only [List.map_append, List.count_append] at hall
  have hbranches := count_branches heading (sheetBranches tree)
  have hrosters := count_rosterHeading hheading (rostersOf tree)
  have hsome : ∀ nodes : List OrganigramNode,
      (nodes.map fun node => some node.name).count (some heading) = (nodes.map (·.name)).count heading := by
    intro nodes
    rw [← List.count_map_of_injective _ _ (Option.some_injective String), List.map_map]
    rfl
  have hfirst : ((sheetBranches tree).map Prod.fst).count (some heading) ≤
      ((((committeeOf tree).map fun committee => committee :: postsOf committee).getD []).map (·.name)).count
        heading + ((rostersOf tree).map (·.name)).count heading := by
    unfold sheetBranches
    rw [List.map_append, List.map_append, List.count_append, List.count_append, List.map_map]
    have hlegacy : (List.map Prod.fst [((none : Option String), othersOf tree)]).count (some heading) = 0 := by
      simp
    have hcommittee : ((((committeeOf tree).map fun committee =>
        (postsOf committee).map (fun post => (some post.name, post.children)) ++
          [(some committee.name, attachedTo committee)]).getD []).map Prod.fst).count (some heading) =
        ((((committeeOf tree).map fun committee => committee :: postsOf committee).getD []).map (·.name)).count
          heading := by
      cases committeeOf tree with
      | none => rfl
      | some committee =>
        rw [← hsome]
        simp only [Option.map_some, Option.getD_some, List.map_append, List.map_map, List.map_cons,
          List.map_nil, List.count_append, List.count_cons, List.count_nil]
        have hposts : (postsOf committee).map (Prod.fst ∘ fun post => (some post.name, post.children)) =
            (postsOf committee).map fun post => some post.name := rfl
        rw [hposts]
        omega
    rw [hlegacy, hcommittee]
    exact Nat.add_le_add_left hrosters _
  unfold headedBranches
  omega

/-- The headed bands of a sheet are its branches'. -/
theorem headings_toLayout (tree : List OrganigramNode) : headings (toLayout tree) =
    headings ((sheetBranches tree).flatMap fun branch => emitBranch branch.1 branch.2) := by
  have hrosters : headings ((rostersOf tree).map fun roster => .roster ⟨roster.id, roster.name, roster⟩) = [] := by
    induction rostersOf tree with
    | nil => rfl
    | cons roster rosters ih => exact ih
  rw [toLayout_eq, headings_append, headings_append, hrosters]
  cases committeeOf tree <;> rfl

/-- A heading that one branch of the sheet has at most. -/
theorem together_sheet (hcount : ((headedBranches tree).map Prod.fst).count heading ≤ 1) :
    Together heading (headings (toLayout tree)) ↔
      ∀ branch ∈ headedBranches tree, branch.1 = heading → OnlyLastNests branch.2 := by
  rw [headings_toLayout]
  exact together_branches hcount

end Sheet

/-! ## When a heading is printed once -/

/-- Under each heading only the last container has units of its own. Another branch may be called what
the elders' is printed under; then all the bands of the two must stand together. -/
def SheetFits (tree : List OrganigramNode) : Prop :=
  (∀ branch ∈ headedBranches tree, branch.1 ≠ eldersHeading → OnlyLastNests branch.2) ∧
    if ((headedBranches tree).map Prod.fst).count eldersHeading ≤ 1 then
      ∀ branch ∈ headedBranches tree, branch.1 = eldersHeading → OnlyLastNests branch.2
    else Together eldersHeading (headings (toLayout tree))

def elderRoster (children : List OrganigramNode) : OrganigramNode :=
  { sheetNode 1 "elder" [] children with isRoster := true }

end Unitae.Roles
