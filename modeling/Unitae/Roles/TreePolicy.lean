import Unitae.Base.PointerTree
import Unitae.Base.Transaction
import Unitae.Roles.BuiltInRoles

/-!
# Unitae — the organigram's tree (`role-tree.policy.ts`, `organigram.queries.ts`)

The pure half of the chart: the derivations over the flagged roles (`ancestorChainIds`,
`subtreeHeight`) and the policy that decides what a node may be attached to.
-/

namespace Unitae.Roles

def maxOrganigramDepth : Nat := 10

/-- The identity rosters that appear in the chart, as its roots. -/
def organigramRosterKeys : List String := ["elder", "assistant-servant"]

/-! ## Derivations over the links -/

structure TreeLink where
  id : Nat
  parentRoleId : Option Nat
deriving DecidableEq, Repr

/-- `byId.get(id)?.parentRoleId ?? null`. -/
def linkParent (links : List TreeLink) (id : Nat) : Option Nat :=
  (links.find? (·.id == id)).bind (·.parentRoleId)

/-- The loop of `ancestorChainIds`. Each turn but the last consumes a link whose id was not seen,
so one turn more than there are links is enough (`chainFrom_fuel`). -/
def chainFrom (links : List TreeLink) : Nat → List Nat → Option Nat → List Nat
  | 0, _, _ => []
  | _ + 1, _, none => []
  | fuel + 1, seen, some current =>
    if seen.contains current then []
    else current :: chainFrom links fuel (current :: seen) (linkParent links current)

/-- A node and its ancestors, nearest first. -/
def ancestorChainIds (links : List TreeLink) (startId : Option Nat) : List Nat :=
  chainFrom links (links.length + 1) [] startId

def childrenOf (links : List TreeLink) (id : Nat) : List Nat :=
  (links.filter fun link => link.parentRoleId == some id).map (·.id)

/-- The recursion of `subtreeHeight`. Each level consumes a link whose id was not seen
(`walkHeight_fuel`). -/
def walkHeight (links : List TreeLink) : Nat → List Nat → Nat → Nat
  | 0, _, _ => 0
  | fuel + 1, seen, id =>
    let children := (childrenOf links id).filter fun child => !seen.contains child
    if children.isEmpty then 0
    else 1 + (children.map fun child => walkHeight links fuel (child :: seen) child).foldl max 0

/-- Levels of descendants beneath a node: 0 for a leaf. -/
def subtreeHeight (links : List TreeLink) (rootId : Nat) : Nat :=
  walkHeight links (links.length + 1) [rootId] rootId

/-! ## The policy -/

def cycleError : String :=
  "Un service ne peut pas être rattaché à lui-même ni à l’un des services qui en dépendent."

def tooDeepError : String :=
  "L’organigramme ne peut pas dépasser " ++ toString maxOrganigramDepth ++ " niveaux."

def rosterIsRoot : String :=
  "Les anciens et les assistants ministériels sont toujours au sommet de l’organigramme."

def serviceNeedsParent : String :=
  "Un service se place sous le collège des anciens ou sous un autre service — jamais au sommet " ++
    "de l’organigramme."

def notAnOrganigramRole : String := "Cet élément ne peut pas figurer dans l’organigramme."

def fixedPosition : String :=
  "Le comité de service et ses trois fonctions occupent une place fixe dans l’organigramme : " ++
    "le comité sous le collège des anciens, les trois fonctions dans le comité."

structure SetParentInput where
  roleId : Nat
  roleKey : String
  /-- The proposed parent followed by its own ancestors, nearest first; empty makes a root. -/
  parentChainIds : List Nat
  /-- Levels of descendants beneath the role; 0 when it has none. -/
  subtreeHeight : Nat

def assertCanSetParent (input : SetParentInput) : Except Failure Unit := do
  let isRoster := organigramRosterKeys.contains input.roleKey
  Tx.refuseWhen (isRoster && !input.parentChainIds.isEmpty) (.app (.forbidden rosterIsRoot))
  Tx.refuseWhen (isAppointedRoleKey input.roleKey) (.app (.forbidden fixedPosition))
  Tx.refuseWhen (!isRoster && input.parentChainIds.isEmpty)
    (.app (.validation "parentRoleId" serviceNeedsParent))
  Tx.refuseWhen (input.parentChainIds.contains input.roleId)
    (.app (.validation "parentRoleId" cycleError))
  -- the role lands one level below its parent and drags its descendants with it
  Tx.refuseWhen (input.parentChainIds.length + 1 + input.subtreeHeight > maxOrganigramDepth)
    (.app (.validation "parentRoleId" tooDeepError))

def canShowInOrganigram (roleKey : String) : Bool :=
  organigramRosterKeys.contains roleKey ||
    (!isIdentityRoleKey roleKey && !systemRoleKeys.contains roleKey)

def assertCanShowInOrganigram (roleKey : String) : Except Failure Unit :=
  Tx.refuseWhen (!canShowInOrganigram roleKey) (.app (.forbidden notAnOrganigramRole))

def assertCanLeaveOrganigram (roleKey : String) : Except Failure Unit :=
  Tx.refuseWhen (isAppointedRoleKey roleKey) (.app (.forbidden fixedPosition))

/-- What a placement that passes the policy satisfies. -/
theorem assertCanSetParent_ok {input : SetParentInput} {u : Unit}
    (h : assertCanSetParent input = .ok u) :
    isAppointedRoleKey input.roleKey = false ∧
      (organigramRosterKeys.contains input.roleKey = true ↔ input.parentChainIds = []) ∧
      input.roleId ∉ input.parentChainIds ∧
      input.parentChainIds.length + 1 + input.subtreeHeight ≤ maxOrganigramDepth := by
  unfold assertCanSetParent at h
  simp only [Tx.bind_eq_ok, Tx.refuseWhen_ok, Bool.and_eq_true, Bool.not_eq_true',
    List.isEmpty_eq_false_iff, List.isEmpty_iff, List.contains_iff_mem, exists_const] at h
  obtain ⟨hroster, happointed, hservice, hcycle, hdepth⟩ := h
  refine ⟨by simpa using happointed, ?_, hcycle, by omega⟩
  constructor
  · intro hkey
    by_cases hchain : input.parentChainIds = []
    · exact hchain
    · exact absurd ⟨by simpa using hkey, hchain⟩ hroster
  · intro hchain
    by_cases hkey : organigramRosterKeys.contains input.roleKey = true
    · exact hkey
    · exact absurd ⟨by simpa using hkey, hchain⟩ hservice

/-! ## The fuel is enough -/

section Fuel

variable {links : List TreeLink} {seen : List Nat} {fuel : Nat}

/-- The links whose id was not seen. -/
def unseen (links : List TreeLink) (seen : List Nat) : List TreeLink :=
  links.filter fun link => !seen.contains link.id

/-- Seeing the id of a link leaves fewer unseen. -/
theorem unseen_lt {id : Nat} (hlink : ∃ link ∈ links, link.id = id) (hnew : id ∉ seen) :
    (unseen links (id :: seen)).length < (unseen links seen).length := by
  obtain ⟨link, hmem, rfl⟩ := hlink
  exact unvisited_cons_lt hmem hnew

theorem linkParent_mem {id parentId : Nat} (h : linkParent links id = some parentId) :
    ∃ link ∈ links, link.id = id ∧ link.parentRoleId = some parentId := by
  obtain ⟨link, hfind, hparent⟩ := Option.bind_eq_some_iff.mp h
  exact ⟨link, List.mem_of_find?_eq_some hfind, by simpa using List.find?_some hfind, hparent⟩

theorem mem_childrenOf {id child : Nat} :
    child ∈ childrenOf links id ↔ ∃ link ∈ links, link.id = child ∧ link.parentRoleId = some id := by
  simp only [childrenOf, List.mem_map, List.mem_filter, beq_iff_eq]
  constructor
  · rintro ⟨link, ⟨hmem, hparent⟩, hid⟩
    exact ⟨link, hmem, hid, hparent⟩
  · rintro ⟨link, hmem, hid, hparent⟩
    exact ⟨link, ⟨hmem, hparent⟩, hid⟩

/-- **The loop of `ancestorChainIds` ends within its fuel**, whatever the links: a turn more changes
nothing. -/
theorem chainFrom_fuel {current : Option Nat} (h : (unseen links seen).length < fuel) :
    chainFrom links (fuel + 1) seen current = chainFrom links fuel seen current := by
  induction fuel generalizing seen current with
  | zero => omega
  | succ fuel ih =>
    cases current with
    | none => rfl
    | some id =>
      unfold chainFrom
      by_cases hseen : seen.contains id = true
      · rw [if_pos hseen, if_pos hseen]
      · rw [if_neg hseen, if_neg hseen]
        congr 1
        cases hparent : linkParent links id with
        | none => cases fuel <;> rfl
        | some parentId =>
          obtain ⟨link, hmem, hid, _⟩ := linkParent_mem hparent
          have hlt := unseen_lt ⟨link, hmem, hid⟩ (by simpa using hseen)
          exact ih (by omega)

/-- **The recursion of `subtreeHeight` ends within its fuel**, whatever the links. -/
theorem walkHeight_fuel {id : Nat} (h : (unseen links seen).length < fuel) :
    walkHeight links (fuel + 1) seen id = walkHeight links fuel seen id := by
  induction fuel generalizing seen id with
  | zero => omega
  | succ fuel ih =>
    have hchildren : ∀ child ∈ (childrenOf links id).filter (fun child => !seen.contains child),
        walkHeight links (fuel + 1) (child :: seen) child =
          walkHeight links fuel (child :: seen) child := by
      intro child hchild
      obtain ⟨hmem, hnew⟩ := List.mem_filter.mp hchild
      obtain ⟨link, hlink, hid, _⟩ := mem_childrenOf.mp hmem
      have hlt := unseen_lt ⟨link, hlink, hid⟩ (by simpa using hnew)
      exact ih (by omega)
    show (if _ then _ else 1 + (List.map _ _).foldl max 0) =
      (if _ then _ else 1 + (List.map _ _).foldl max 0)
    rw [List.map_congr_left hchildren]

end Fuel

/-! ## The derivations on a forest -/

section OnForest

variable {links : List TreeLink} {seen path below : List Nat} {fuel id : Nat}

theorem chainFrom_rootPath (h : RootPath (linkParent links) id path) (hnew : ∀ z ∈ path, z ∉ seen)
    (hfuel : path.length ≤ fuel) : chainFrom links fuel seen (some id) = path := by
  induction h generalizing seen fuel with
  | @root id hid =>
    obtain ⟨fuel, rfl⟩ : ∃ n, fuel = n + 1 := ⟨fuel - 1, by simp at hfuel; omega⟩
    have hseen : ¬seen.contains id = true := by simpa using hnew id List.mem_cons_self
    rw [chainFrom, if_neg hseen, hid]
    cases fuel <;> rfl
  | @child id parentId path hid hpath ih =>
    obtain ⟨fuel, rfl⟩ : ∃ n, fuel = n + 1 := ⟨fuel - 1, by simp at hfuel; omega⟩
    have hseen : ¬seen.contains id = true := by simpa using hnew id List.mem_cons_self
    rw [chainFrom, if_neg hseen, hid, ih]
    · intro z hz hmem
      rcases List.mem_cons.mp hmem with rfl | hmem
      · exact (List.nodup_cons.mp (RootPath.child hid hpath).nodup).1 hz
      · exact hnew z (List.mem_cons_of_mem _ hz) hmem
    · rw [List.length_cons] at hfuel
      omega

/-- A path has no more nodes than there are links, and its root. -/
theorem rootPath_length_le (h : RootPath (linkParent links) id path) :
    path.length ≤ links.length + 1 := by
  have hsub : path.dropLast ⊆ links.map (·.id) := by
    intro z hz
    obtain ⟨parentId, hparent⟩ := Option.ne_none_iff_exists'.mp (h.dropLast_parent z hz)
    obtain ⟨link, hmem, hid, _⟩ := linkParent_mem hparent
    exact List.mem_map.mpr ⟨link, hmem, hid⟩
  have hnodup : path.dropLast.Nodup := h.nodup.sublist (List.dropLast_sublist path)
  have hle := (hnodup.subperm hsub).length_le
  rw [List.length_dropLast, List.length_map] at hle
  omega

/-- **On a forest `ancestorChainIds` is the path to the root.** -/
theorem ancestorChainIds_eq (h : RootPath (linkParent links) id path) :
    ancestorChainIds links (some id) = path :=
  chainFrom_rootPath h (fun _ _ => List.not_mem_nil) (rootPath_length_le h)

theorem le_foldl_max {xs : List Nat} {x start : Nat} (h : x ∈ xs ∨ x ≤ start) :
    x ≤ xs.foldl max start := by
  induction xs generalizing start with
  | nil => exact h.resolve_left List.not_mem_nil
  | cons y xs ih =>
    refine ih ?_
    rcases h with h | h
    · rcases List.mem_cons.mp h with rfl | h
      · exact .inr (Nat.le_max_right _ _)
      · exact .inl h
    · exact .inr (Nat.le_trans h (Nat.le_max_left _ _))

theorem walkHeight_descends (h : Descends (linkParent links) id below) (hnodup : below.Nodup)
    (hnew : ∀ z ∈ below, z ∉ seen) (hfuel : below.length ≤ fuel) :
    below.length ≤ walkHeight links fuel seen id := by
  induction below generalizing id seen fuel with
  | nil => exact Nat.zero_le _
  | cons child below ih =>
    obtain ⟨fuel, rfl⟩ : ∃ n, fuel = n + 1 := ⟨fuel - 1, by simp at hfuel; omega⟩
    obtain ⟨hparent, hbelow⟩ := h
    rw [List.nodup_cons] at hnodup
    have hchild : child ∈ (childrenOf links id).filter fun child => !seen.contains child := by
      refine List.mem_filter.mpr ⟨mem_childrenOf.mpr (linkParent_mem hparent), ?_⟩
      simpa using hnew child List.mem_cons_self
    have hrest : below.length ≤ walkHeight links fuel (child :: seen) child := by
      refine ih hbelow hnodup.2 ?_ ?_
      · intro z hz hmem
        rcases List.mem_cons.mp hmem with rfl | hmem
        · exact hnodup.1 hz
        · exact hnew z (List.mem_cons_of_mem _ hz) hmem
      · rw [List.length_cons] at hfuel
        omega
    unfold walkHeight
    have hsome : ¬((childrenOf links id).filter fun child => !seen.contains child).isEmpty = true := by
      rw [List.isEmpty_iff]
      exact List.ne_nil_of_mem hchild
    rw [if_neg hsome]
    have hmax : walkHeight links fuel (child :: seen) child ≤
        (((childrenOf links id).filter fun child => !seen.contains child).map fun child =>
          walkHeight links fuel (child :: seen) child).foldl max 0 :=
      le_foldl_max (.inl (List.mem_map.mpr ⟨child, hchild, rfl⟩))
    rw [List.length_cons]
    omega

/-- **`subtreeHeight` bounds every line of descent.** -/
theorem length_le_subtreeHeight (h : Descends (linkParent links) id below)
    (hnodup : (id :: below).Nodup) : below.length ≤ subtreeHeight links id := by
  have hlinks : below ⊆ links.map (·.id) := by
    intro z hz
    obtain ⟨parentId, hparent⟩ := h.exists_parent z hz
    obtain ⟨link, hmem, hid, _⟩ := linkParent_mem hparent
    exact List.mem_map.mpr ⟨link, hmem, hid⟩
  obtain ⟨hid, hnodup⟩ := List.nodup_cons.mp hnodup
  refine walkHeight_descends h hnodup ?_ ?_
  · intro z hz hmem
    rw [List.mem_singleton] at hmem
    exact hid (hmem ▸ hz)
  · have hle := (hnodup.subperm hlinks).length_le
    rw [List.length_map] at hle
    omega

end OnForest

end Unitae.Roles
