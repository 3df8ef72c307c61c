import Unitae.Roles.Chart

/-!
# Unitae — the organigram is a forest

`role-tree.policy.ts` refuses a placement that would close a loop or pass the tenth level. The chart
it reads is the roles already shown; where a request may still break it is the parent it names,
which nobody asks to be shown, and the adoption of the committee, which re-hangs whole subtrees
without asking the policy.

The invariant is `ChartForm`: every climb ends within ten levels, and pointers run between shown
roles. It is kept by each request that names a shown parent, and by each adoption that finds the
elders in the chart and leaves every subtree room (`Request.Fits`).
-/

namespace Unitae.Roles

/-- Every climb ends within the depth allowed, pointers run between shown roles, the elders are at
the top, and no post is shown without the committee. -/
structure ChartForm (db : RoleDb) : Prop where
  paths : ∀ roleId, ∃ path, RootPath db.parentOf roleId path ∧ path.length ≤ maxOrganigramDepth
  parents : ∀ roleId parentId, db.parentOf roleId = some parentId →
    db.shownAt roleId = true ∧ db.shownAt parentId = true
  eldersOnTop : ∀ elderId, db.idOfKey "elder" = some elderId → db.parentOf elderId = none
  postsUnder : ∀ key ∈ serviceCommitteePostKeys, ∀ postId committeeId,
    db.idOfKey key = some postId → db.idOfKey serviceCommitteeKey = some committeeId →
    db.shownAt postId = true → db.shownAt committeeId = true

/-! ## What the policy sees -/

section Policy

variable {db db' : RoleDb} {roleId : Nat} {parentRoleId : Option Nat} {key : String}

theorem mem_treeLinks {link : TreeLink} :
    link ∈ db.treeLinks ↔ ∃ r ∈ db.roles, r.showInOrganigram = true ∧
      link = ⟨r.id, r.parentRoleId⟩ := by
  simp only [RoleDb.treeLinks, List.mem_map, List.mem_filter]
  constructor
  · rintro ⟨r, ⟨hr, hshown⟩, rfl⟩
    exact ⟨r, hr, hshown, rfl⟩
  · rintro ⟨r, hr, hshown, rfl⟩
    exact ⟨r, ⟨hr, hshown⟩, rfl⟩

/-- The ids of the links are the shown roles. -/
theorem mem_treeLinks_ids (hdb : db.Valid) {id : Nat} :
    id ∈ db.treeLinks.map (·.id) ↔ db.shownAt id = true := by
  rw [List.mem_map]
  constructor
  · rintro ⟨link, hlink, rfl⟩
    obtain ⟨r, hr, hshown, rfl⟩ := mem_treeLinks.mp hlink
    rw [RoleDb.shownAt, hdb.roleById_iff.mpr ⟨hr, rfl⟩]
    exact hshown
  · intro h
    unfold RoleDb.shownAt at h
    cases hfound : db.roleById id with
    | none => simp [hfound] at h
    | some r =>
      obtain ⟨hr, hid⟩ := RoleDb.roleById_mem hfound
      rw [hfound] at h
      exact ⟨_, mem_treeLinks.mpr ⟨r, hr, h, rfl⟩, hid⟩

/-- **The links the policy reads are the pointers of the chart.** A role off the chart has no link,
and no pointer. -/
theorem linkParent_treeLinks (hdb : db.Valid) (h : ChartForm db) :
    linkParent db.treeLinks = db.parentOf := by
  funext id
  have hkeyed : Keyed (·.id) db.treeLinks := by
    unfold Keyed RoleDb.treeLinks
    rw [List.map_map]
    exact hdb.roleIds.filter _
  cases hshown : db.shownAt id with
  | true =>
    unfold RoleDb.shownAt at hshown
    cases hfound : db.roleById id with
    | none => simp [hfound] at hshown
    | some r =>
      rw [hfound] at hshown
      obtain ⟨hr, hid⟩ := RoleDb.roleById_mem hfound
      have hlink : db.treeLinks.find? (·.id == id) = some ⟨r.id, r.parentRoleId⟩ :=
        hkeyed.find?_eq_some.mpr ⟨mem_treeLinks.mpr ⟨r, hr, hshown, rfl⟩, hid⟩
      unfold linkParent RoleDb.parentOf
      rw [hlink, hfound]
      rfl
  | false =>
    have hnone : linkParent db.treeLinks id = none := by
      rw [Option.eq_none_iff_forall_ne_some]
      intro parentId hparent
      obtain ⟨link, hlink, hid, _⟩ := linkParent_mem hparent
      have hmem := (mem_treeLinks_ids hdb).mp (List.mem_map.mpr ⟨link, hlink, hid⟩)
      rw [hshown] at hmem
      exact Bool.noConfusion hmem
    rw [hnone]
    cases hparent : db.parentOf id with
    | none => rfl
    | some parentId =>
      rw [(h.parents id parentId hparent).1] at hshown
      exact Bool.noConfusion hshown

/-- The nodes above a place: its path, or nothing at the top. -/
def RoleDb.Above (db : RoleDb) : Option Nat → List Nat → Prop
  | none, above => above = []
  | some parentId, above => RootPath db.parentOf parentId above

/-- On the chart `ancestorChainIds` lists the nodes above a place. -/
theorem above_ancestorChainIds (hdb : db.Valid) (h : ChartForm db) :
    db.Above parentRoleId (ancestorChainIds db.treeLinks parentRoleId) := by
  cases parentRoleId with
  | none => rfl
  | some parentId =>
    obtain ⟨path, hpath, _⟩ := h.paths parentId
    have hchain : ancestorChainIds db.treeLinks (some parentId) = path :=
      ancestorChainIds_eq (by rwa [linkParent_treeLinks hdb h])
    show RootPath db.parentOf parentId (ancestorChainIds db.treeLinks (some parentId))
    rw [hchain]
    exact hpath

theorem above_nil (h : db.Above parentRoleId []) : parentRoleId = none := by
  cases parentRoleId with
  | none => rfl
  | some parentId =>
    have hpos := RootPath.length_pos h
    exact absurd hpos (by simp)

/-- **What a placement that passes the policy may rely on**: the place is not below the role, and
the role's subtree fits under it. -/
theorem policy_fits (hdb : db.Valid) (h : ChartForm db)
    (hpolicy : assertCanSetParent (db.setParentInput roleId key parentRoleId) = .ok ()) :
    isAppointedRoleKey key = false ∧ (key = "elder" → parentRoleId = none) ∧
      ∃ above, db.Above parentRoleId above ∧ roleId ∉ above ∧
        ∀ below, Descends db.parentOf roleId below → (roleId :: below).Nodup →
          below.length + 1 + above.length ≤ maxOrganigramDepth := by
  have hok : isAppointedRoleKey key = false ∧
      (organigramRosterKeys.contains key = true ↔
        ancestorChainIds db.treeLinks parentRoleId = []) ∧
      roleId ∉ ancestorChainIds db.treeLinks parentRoleId ∧
      (ancestorChainIds db.treeLinks parentRoleId).length + 1 + subtreeHeight db.treeLinks roleId
        ≤ maxOrganigramDepth := assertCanSetParent_ok hpolicy
  obtain ⟨hfree, hroster, hcycle, hdepth⟩ := hok
  have habove : db.Above parentRoleId (ancestorChainIds db.treeLinks parentRoleId) :=
    above_ancestorChainIds hdb h
  refine ⟨hfree, ?_, _, habove, hcycle, ?_⟩
  · intro hkey
    rw [hroster.mp (by rw [hkey]; decide)] at habove
    exact above_nil habove
  · intro below hbelow hnodup
    rw [← linkParent_treeLinks hdb h] at hbelow
    have hle := length_le_subtreeHeight hbelow hnodup
    omega

end Policy

/-! ## Moving one role -/

section Moving

variable {db db' : RoleDb} {roleId : Nat} {parentRoleId : Option Nat} {key : String}

/-- The writes below keep the ids of the built-in keys. -/
def SameIds (db db' : RoleDb) : Prop := ∀ key ∈ seededRoleKeys, db'.idOfKey key = db.idOfKey key

theorem post_mem_seededRoleKeys {key : String} (h : key ∈ serviceCommitteePostKeys) :
    key ∈ seededRoleKeys :=
  appointed_mem_seededRoleKeys (isAppointedRoleKey_of_post (mem_postKeys_iff.mp h))

/-- A chart that draws the same functions. -/
theorem ChartForm.congr (h : ChartForm db) (hparent : ∀ y, db'.parentOf y = db.parentOf y)
    (hshown : ∀ y, db'.shownAt y = db.shownAt y) (hids : SameIds db db') : ChartForm db' := by
  have hfun : db'.parentOf = db.parentOf := funext hparent
  refine ⟨?_, ?_, ?_, ?_⟩
  · rw [hfun]
    exact h.paths
  · intro y parentId hy
    rw [hshown, hshown]
    exact h.parents y parentId (by rw [← hparent]; exact hy)
  · intro elderId helder
    rw [hparent]
    exact h.eldersOnTop elderId (by rw [← hids "elder" (by decide)]; exact helder)
  · intro key hkey postId committeeId hpost hcommittee
    rw [hshown, hshown]
    refine h.postsUnder key hkey postId committeeId ?_ ?_
    · rw [← hids key (post_mem_seededRoleKeys hkey)]
      exact hpost
    · rw [← hids serviceCommitteeKey (by decide)]
      exact hcommittee

/-- **Hanging a role** under a shown parent, where the policy lets it, keeps the form: whoever is
below the role goes with it, and the policy has counted them. -/
theorem ChartForm.hung (h : ChartForm db) (hdb : db.Valid)
    (hpolicy : assertCanSetParent (db.setParentInput roleId key parentRoleId) = .ok ())
    (hrole : ∀ k, db.idOfKey k = some roleId → k = key)
    (hshown : ∀ parentId, parentRoleId = some parentId → db.shownAt parentId = true)
    (hparent' : ∀ y, db'.parentOf y = if y = roleId then parentRoleId else db.parentOf y)
    (hshown' : ∀ y, db'.shownAt y = (y == roleId || db.shownAt y)) (hids : SameIds db db') :
    ChartForm db' := by
  obtain ⟨hfree, hroster, above, habove, hcycle, hfits⟩ := policy_fits hdb h hpolicy
  have hself : db'.parentOf roleId = parentRoleId := by rw [hparent', if_pos rfl]
  have hother : ∀ y, ¬y = roleId → db'.parentOf y = db.parentOf y := by
    intro y hy
    rw [hparent', if_neg hy]
  -- the role's own new path
  have hpath : RootPath db'.parentOf roleId (roleId :: above) := by
    cases parentRoleId with
    | none =>
      rw [show above = [] from habove]
      exact .root hself
    | some parentId =>
      refine .child hself (RootPath.congr habove fun z hz => hother z ?_)
      rintro rfl
      exact hcycle hz
  refine ⟨?_, ?_, ?_, ?_⟩
  · intro y
    obtain ⟨path, hy, hlength⟩ := h.paths y
    rcases hy.relocate hother with hkept | ⟨k, z, hfirst, hmoved⟩
    · exact ⟨path, hkept, hlength⟩
    · have hz : z = roleId := hfirst.cut_last
      subst hz
      obtain ⟨path', hpath', hlength'⟩ := hmoved _ hpath
      obtain ⟨below, rest, rfl, hbelow, hrest, hdescends⟩ := hfirst.split hy
      have hnodup : (z :: below.reverse).Nodup := by
        obtain ⟨_, rfl⟩ := hrest.head
        have hall := hy.nodup
        rw [List.nodup_append] at hall
        refine List.nodup_cons.mpr ⟨?_, List.nodup_reverse.mpr hall.1⟩
        rw [List.mem_reverse]
        exact fun hmem => hall.2.2 z hmem z List.mem_cons_self rfl
      have hdepth := hfits below.reverse hdescends hnodup
      rw [List.length_reverse, hbelow] at hdepth
      rw [List.length_cons] at hlength'
      exact ⟨path', hpath', by omega⟩
  · intro y parentId hy
    rw [hparent'] at hy
    rw [hshown', hshown']
    by_cases hsame : y = roleId
    · rw [if_pos hsame] at hy
      simp [hsame, hshown parentId hy]
    · rw [if_neg hsame] at hy
      obtain ⟨hyShown, hparentShown⟩ := h.parents y parentId hy
      simp [hyShown, hparentShown]
  · intro elderId helder
    rw [hids "elder" (by decide)] at helder
    rw [hparent']
    split
    · next hsame =>
      -- the role placed is the elder roster, which the policy keeps at the top
      exact hroster (hrole "elder" (hsame ▸ helder)).symm
    · exact h.eldersOnTop elderId helder
  · intro k hk postId committeeId hpost hcommittee hpostShown
    rw [hids k (post_mem_seededRoleKeys hk)] at hpost
    rw [hids serviceCommitteeKey (by decide)] at hcommittee
    have hne : postId ≠ roleId := by
      rintro rfl
      have hkey := hrole k hpost
      have happointed := isAppointedRoleKey_of_post (mem_postKeys_iff.mp hk)
      rw [hkey, hfree] at happointed
      exact Bool.noConfusion happointed
    rw [hshown'] at hpostShown ⊢
    have hold : db.shownAt postId = true := by simpa [hne] using hpostShown
    simp [h.postsUnder k hk postId committeeId hpost hcommittee hold]

/-- **Taking a role off**, its children lifted to its parent, keeps the form. -/
theorem ChartForm.unhooked (h : ChartForm db)
    (hcommittee : db.idOfKey serviceCommitteeKey ≠ some roleId)
    (hparent' : ∀ y, db'.parentOf y = if y = roleId then none
      else if db.parentOf y = some roleId then db.parentOf roleId else db.parentOf y)
    (hshown' : ∀ y, db'.shownAt y = (db.shownAt y && y != roleId)) (hids : SameIds db db') :
    ChartForm db' := by
  have hsame : ∀ y, y ≠ roleId → db.parentOf y ≠ some roleId → db'.parentOf y = db.parentOf y := by
    intro y hy hparent
    rw [hparent', if_neg hy, if_neg hparent]
  have hchild : ∀ y, y ≠ roleId → db.parentOf y = some roleId →
      db'.parentOf y = db.parentOf roleId := by
    intro y hy hparent
    rw [hparent', if_neg hy, if_pos hparent]
  refine ⟨?_, ?_, ?_, ?_⟩
  · intro y
    obtain ⟨path, hpath, hlength⟩ := h.paths y
    by_cases hy : y = roleId
    · refine ⟨[y], .root (by rw [hparent', if_pos hy]), ?_⟩
      have hpos := hpath.length_pos
      rw [List.length_singleton]
      omega
    · obtain ⟨path', hpath', hle⟩ := (hpath.unhook hsame hchild).1 hy
      exact ⟨path', hpath', by omega⟩
  · intro y parentId hy
    rw [hparent'] at hy
    rw [hshown', hshown']
    by_cases hself : y = roleId
    · simp [hself] at hy
    · rw [if_neg hself] at hy
      by_cases hlifted : db.parentOf y = some roleId
      · rw [if_pos hlifted] at hy
        -- the parent of the role is not the role itself
        have hne : parentId ≠ roleId := by
          rintro rfl
          obtain ⟨path, hpath, _⟩ := h.paths parentId
          cases hpath with
          | root hroot => simp [hroot] at hy
          | child hp hrest =>
            have hnodup := (RootPath.child hp hrest).nodup
            rw [hy, Option.some.injEq] at hp
            subst hp
            exact (List.nodup_cons.mp hnodup).1 hrest.self_mem
        simp [hself, hne, (h.parents y roleId hlifted).1, (h.parents roleId parentId hy).2]
      · rw [if_neg hlifted] at hy
        have hne : parentId ≠ roleId := by
          rintro rfl
          exact hlifted hy
        obtain ⟨hyShown, hparentShown⟩ := h.parents y parentId hy
        simp [hself, hne, hyShown, hparentShown]
  · intro elderId helder
    rw [hids "elder" (by decide)] at helder
    have htop := h.eldersOnTop elderId helder
    rw [hparent', htop]
    simp
  · intro k hk postId committeeId hpost hcommittee' hpostShown
    rw [hids k (post_mem_seededRoleKeys hk)] at hpost
    rw [hids serviceCommitteeKey (by decide)] at hcommittee'
    rw [hshown', Bool.and_eq_true] at hpostShown
    have hne : committeeId ≠ roleId := by
      rintro rfl
      exact hcommittee hcommittee'
    rw [hshown']
    simp [hne, h.postsUnder k hk postId committeeId hpost hcommittee' hpostShown.1]

end Moving

/-! ## The adoption moves whole subtrees -/

/-- The role is one the mappings replace. -/
def TakenOver (mappings : List Mapping) (roleId : Nat) : Prop := ∃ m ∈ mappings, m.source.id = roleId

instance (mappings : List Mapping) (roleId : Nat) : Decidable (TakenOver mappings roleId) :=
  inferInstanceAs (Decidable (∃ _ ∈ _, _))

/-- Where a pointer to the role leads once the mappings are carried over. -/
def rerouted (mappings : List Mapping) (roleId : Nat) : Nat :=
  ((mappings.find? (·.source.id == roleId)).map (·.target.id)).getD roleId

/-- The level of an appointed role: the elders, the committee, its posts. -/
def targetLevel (key : String) : Nat := if key = serviceCommitteeKey then 2 else 3

/-- The elders are in the chart and stay, and nobody who hangs below a role taken over comes to
stand below the last level under its replacement. -/
def AdoptionFits (db : RoleDb) (mappings : List Mapping) : Prop :=
  (∃ elderId, db.idOfKey "elder" = some elderId ∧ db.shownAt elderId = true ∧
      ¬TakenOver mappings elderId) ∧
    ∀ roleId k sourceId, FirstCut db.parentOf (TakenOver mappings) roleId (k + 1) sourceId →
      ∀ m, mappings.find? (·.source.id == sourceId) = some m →
        k + 1 + targetLevel m.target.key ≤ maxOrganigramDepth

section Adoption

variable {db db' : RoleDb} {committee : Role} {mappings done : List Mapping} {m : Mapping}

theorem find?_takenOver {roleId : Nat} :
    TakenOver mappings roleId ↔ ∃ m, mappings.find? (·.source.id == roleId) = some m := by
  rw [← Option.isSome_iff_exists, List.find?_isSome]
  simp [TakenOver]

theorem rerouted_of_not_takenOver {roleId : Nat} (h : ¬TakenOver mappings roleId) :
    rerouted mappings roleId = roleId := by
  cases hfind : mappings.find? (·.source.id == roleId) with
  | none => simp [rerouted, hfind]
  | some m => exact absurd (find?_takenOver.mpr ⟨m, hfind⟩) h

/-- One more mapping reroutes the pointers to its own role, unless an earlier one did. -/
theorem rerouted_append {roleId : Nat} :
    rerouted (done ++ [m]) roleId =
      if TakenOver done roleId then rerouted done roleId
      else if roleId = m.source.id then m.target.id else roleId := by
  unfold rerouted
  rw [List.find?_append]
  by_cases htaken : TakenOver done roleId
  · obtain ⟨n, hfind⟩ := find?_takenOver.mp htaken
    simp [htaken, hfind]
  · have hnone : done.find? (·.source.id == roleId) = none := by
      cases hfind : done.find? (·.source.id == roleId) with
      | none => rfl
      | some n => exact absurd (find?_takenOver.mpr ⟨n, hfind⟩) htaken
    rw [if_neg htaken, hnone, Option.none_or, List.find?_singleton]
    by_cases hid : roleId = m.source.id
    · simp [hid]
    · simp [hid, Ne.symm hid]

/-- **The chart after the mappings**: the roles taken over are off it, and a pointer to one of them
leads to what replaced it first. -/
theorem carries_chart (hdb : db.Valid) (htargets : ∀ m ∈ mappings, ∃ r ∈ db.roles, r.id = m.target.id)
    (hdisjoint : ∀ m ∈ mappings, ¬TakenOver mappings m.target.id)
    (h : (mappings.forM Mapping.carry).exec db = (.ok (), db')) :
    (∀ y, db'.parentOf y =
      if TakenOver mappings y then none else (db.parentOf y).map (rerouted mappings)) ∧
      ∀ y, db'.shownAt y = (db.shownAt y && !decide (TakenOver mappings y)) := by
  suffices hinv : (db'.Valid ∧ SameRoles db db') ∧
      (∀ y, db'.parentOf y =
        if TakenOver mappings y then none else (db.parentOf y).map (rerouted mappings)) ∧
      ∀ y, db'.shownAt y = (db.shownAt y && !decide (TakenOver mappings y)) from hinv.2
  refine Tx.forM_invariant (I := fun done s => (s.Valid ∧ SameRoles db s) ∧
      (∀ y, s.parentOf y = if TakenOver done y then none else (db.parentOf y).map (rerouted done)) ∧
      ∀ y, s.shownAt y = (db.shownAt y && !decide (TakenOver done y))) h
    ⟨⟨hdb, .refl db⟩, ?_, ?_⟩ ?_
  · intro y
    cases db.parentOf y <;> simp [TakenOver, rerouted]
  · intro y
    simp [TakenOver]
  rintro done m rest hmappings s s' ⟨⟨hvalid, hsame⟩, hparent, hshown⟩ hcarry
  have hm : m ∈ mappings := by simp [hmappings]
  have htarget : ∃ r ∈ s.roles, r.id = m.target.id :=
    (hsame.exists_role (p := fun r => r.id = m.target.id) fun _ => Iff.rfl).mpr (htargets m hm)
  obtain ⟨rfl, _, hvalid', hsame'⟩ := carry_spec hvalid htarget hcarry
  have htaken : ∀ y, TakenOver (done ++ [m]) y ↔ TakenOver done y ∨ y = m.source.id := by
    intro y
    simp only [TakenOver, List.mem_append, List.mem_singleton]
    constructor
    · rintro ⟨n, hn | rfl, hid⟩
      · exact .inl ⟨n, hn, hid⟩
      · exact .inr hid.symm
    · rintro (⟨n, hn, hid⟩ | hid)
      · exact ⟨n, .inl hn, hid⟩
      · exact ⟨m, .inr rfl, hid.symm⟩
  refine ⟨⟨hvalid', hsame.trans hsame'⟩, ?_, ?_⟩
  · intro y
    have hcarried : (s.carried m).parentOf y =
        if y = m.source.id then none
        else if s.parentOf y = some m.source.id then some m.target.id else s.parentOf y := by
      rw [← parentOf_congr (handedOver_roles m s)]
      exact parentOf_lifted
    rw [hcarried, hparent]
    by_cases hself : y = m.source.id
    · rw [if_pos hself, if_pos ((htaken y).mpr (.inr hself))]
    · by_cases hdone : TakenOver done y
      · rw [if_neg hself, if_pos hdone, if_pos ((htaken y).mpr (.inl hdone))]
        simp
      · have hnot : ¬TakenOver (done ++ [m]) y := by
          rw [htaken]
          exact fun h => h.elim hdone hself
        rw [if_neg hself, if_neg hdone, if_neg hnot]
        cases hold : db.parentOf y with
        | none => simp
        | some p =>
          rw [Option.map_some, Option.map_some, rerouted_append]
          by_cases hp : TakenOver done p
          · -- rerouted before: to a post, which is nobody's source
            obtain ⟨n, hfind⟩ := find?_takenOver.mp hp
            have hn : n ∈ mappings := by
              rw [hmappings]
              exact List.mem_append_left _ (List.mem_of_find?_eq_some hfind)
            have hrerouted : rerouted done p = n.target.id := by simp [rerouted, hfind]
            have hne : ¬some n.target.id = some m.source.id := by
              rw [Option.some.injEq]
              exact fun hid => hdisjoint n hn ⟨m, hm, hid.symm⟩
            rw [if_pos hp, hrerouted, if_neg hne]
          · rw [if_neg hp, rerouted_of_not_takenOver hp]
            by_cases hsource : p = m.source.id <;> simp [hsource]
  · intro y
    have hcarried : (s.carried m).shownAt y = (s.shownAt y && y != m.source.id) := by
      rw [← shownAt_congr (handedOver_roles m s)]
      exact shownAt_lifted
    rw [hcarried, hshown]
    by_cases hself : y = m.source.id
    · simp [htaken, hself]
    · by_cases hdone : TakenOver done y <;> simp [htaken, hself, hdone]

/-- The committee and its posts in place: what hangs where, and what is shown. -/
theorem placeCommittee_chart (hdb : db.Valid) {elder : Role} (helder : db.roleByKey "elder" = some elder)
    (hcommittee : db.roleByKey serviceCommitteeKey = some committee) (y : Nat) :
    (db.placeCommittee committee).parentOf y =
        (if y = committee.id then some elder.id
        else if y ∈ db.committeePostIds then some committee.id else db.parentOf y) ∧
      (db.placeCommittee committee).shownAt y =
        (y == committee.id || decide (y ∈ db.committeePostIds) || db.shownAt y) := by
  have hplace := Redrawn.place db committee.id (some elder.id) orderStep
  have hvalid := hplace.valid hdb
  have hspec := placePosts_spec hvalid (some committee.id)
  have hredrawn := Redrawn.placeCommittee db committee
  have hdef : db.placeCommittee committee =
      (db.place committee.id (some elder.id) orderStep).placePosts (some committee.id) := by
    rw [RoleDb.placeCommittee, helder]
    rfl
  obtain ⟨hcommitteeMem, hcommitteeKey⟩ := RoleDb.roleByKey_mem hcommittee
  cases hfound : db.roleById y with
  | none =>
    -- no such role, before or after
    have hnone : (db.placeCommittee committee).roleById y = none := by
      rw [RoleDb.roleById, List.find?_eq_none]
      intro r hr hid
      obtain ⟨r₀, hr₀, hid₀⟩ := (hredrawn.exists_role (p := fun r₀ => r₀.id = y) fun _ => Iff.rfl).mp
        ⟨r, hr, by simpa using hid⟩
      rw [hdb.roleById_iff.mpr ⟨hr₀, hid₀⟩] at hfound
      cases hfound
    have hnotCommittee : y ≠ committee.id := by
      rintro rfl
      rw [hdb.roleById_iff.mpr ⟨hcommitteeMem, rfl⟩] at hfound
      cases hfound
    have hnotPost : y ∉ db.committeePostIds := by
      intro hmem
      obtain ⟨key, _, post, hpost, hid⟩ := mem_committeePostIds.mp hmem
      rw [hdb.roleById_iff.mpr ⟨(RoleDb.roleByKey_mem hpost).1, hid⟩] at hfound
      cases hfound
    unfold RoleDb.parentOf RoleDb.shownAt
    rw [hnone, hfound]
    simp [hnotCommittee, hnotPost]
  | some r =>
    obtain ⟨hr, rfl⟩ := RoleDb.roleById_mem hfound
    have hkey : db.roleByKey r.key = some r := hdb.roleByKey_iff.mpr ⟨hr, rfl⟩
    have hpost : r.id ∈ db.committeePostIds ↔ r.key ∈ serviceCommitteePostKeys.reverse := by
      rw [mem_committeePostIds, List.mem_reverse]
      constructor
      · rintro ⟨key, hkey', post, hpost, hid⟩
        obtain ⟨hpostMem, hpostKey⟩ := RoleDb.roleByKey_mem hpost
        rw [← hdb.eq_of_id hpostMem hr hid, hpostKey]
        exact hkey'
      · exact fun hkey' => ⟨r.key, hkey', r, hkey, rfl⟩
    have hat : ∀ role', (db.placeCommittee committee).roleByKey r.key = some role' →
        role'.id = r.id → (db.placeCommittee committee).roleById r.id = some role' := by
      intro role' hrole' hid
      exact (hredrawn.valid hdb).roleById_iff.mpr ⟨(RoleDb.roleByKey_mem hrole').1, hid⟩
    by_cases hself : r.id = committee.id
    · have hsame : r = committee := hdb.eq_of_id hr hcommitteeMem hself
      subst hsame
      obtain ⟨role', hrole', hid, hparent, hshown⟩ := hspec _ _ (roleByKey_place_self hkey)
      have hnotPost : r.key ∉ serviceCommitteePostKeys.reverse := by
        rw [hcommitteeKey]
        decide
      rw [← hdef] at hrole'
      unfold RoleDb.parentOf RoleDb.shownAt
      rw [hat role' hrole' hid]
      rw [if_neg hnotPost] at hparent hshown
      simp [hparent, hshown]
    · have hne : committee.key ≠ r.key := fun hk =>
        hself (by rw [hdb.eq_of_key hcommitteeMem hr hk])
      obtain ⟨role', hrole', hid, hparent, hshown⟩ := hspec _ _
        (roleByKey_place_of_ne hdb hcommitteeMem hkey hne)
      rw [← hdef] at hrole'
      unfold RoleDb.parentOf RoleDb.shownAt
      rw [hat role' hrole' hid, hfound]
      by_cases hmem : r.id ∈ db.committeePostIds
      · rw [if_pos (hpost.mp hmem)] at hparent hshown
        simp [hself, hmem, hparent, hshown]
      · rw [if_neg fun h => hmem (hpost.mpr h)] at hparent hshown
        simp [hself, hmem, hparent, hshown]

/-- A role taken over is neither the committee nor a post. -/
theorem AdoptionPlan.not_takenOver {choices : List AdoptionChoice}
    (hplan : AdoptionPlan db choices committee mappings) (hdb : db.Valid) {role : Role}
    (hrole : role ∈ db.roles) (happointed : isAppointedRoleKey role.key = true) :
    ¬TakenOver mappings role.id := by
  rintro ⟨m, hm, hid⟩
  have hsame := hdb.eq_of_id (RoleDb.roleById_mem (hplan.sources m hm)).1 hrole hid
  have hfree := hplan.handMade m hm
  rw [hsame, happointed] at hfree
  exact Bool.noConfusion hfree

/-- What the chart is after an adoption that fits, drawn from the chart before it. -/
structure Adopted (db db' : RoleDb) (mappings : List Mapping) (elderId committeeId : Nat) :
    Prop where
  elder : db'.parentOf elderId = none
  committee : db'.parentOf committeeId = some elderId
  post : ∀ y ∈ db.committeePostIds, db'.parentOf y = some committeeId
  taken : ∀ y, TakenOver mappings y → db'.parentOf y = none
  other : ∀ y, y ≠ committeeId → y ∉ db.committeePostIds → ¬TakenOver mappings y →
    db'.parentOf y = (db.parentOf y).map (rerouted mappings)
  shown : ∀ y, db'.shownAt y = true ↔
    (y = committeeId ∨ y ∈ db.committeePostIds ∨ db.shownAt y = true) ∧ ¬TakenOver mappings y
  elderStays : db.shownAt elderId = true ∧ ¬TakenOver mappings elderId
  committeeStays : ¬TakenOver mappings committeeId
  postStays : ∀ y ∈ db.committeePostIds, ¬TakenOver mappings y

theorem adopted_of_carries {choices : List AdoptionChoice} {actor : List String} {carried : RoleDb}
    (hdb : db.Valid) (h : ChartForm db)
    (hchecks : adoptChecks db choices actor = .ok (committee, mappings))
    (hcarried : (mappings.forM Mapping.carry).exec (db.placeCommittee committee) = (.ok (), carried))
    {elder : Role} (helder : db.roleByKey "elder" = some elder) (hshown : db.shownAt elder.id = true)
    (hstays : ¬TakenOver mappings elder.id) : Adopted db carried mappings elder.id committee.id := by
  have hplan := adoptChecks_ok hchecks
  have hredrawn := Redrawn.placeCommittee db committee
  have hplaced := placeCommittee_chart hdb helder hplan.found
  obtain ⟨hcommitteeMem, hcommitteeKey⟩ := RoleDb.roleByKey_mem hplan.found
  obtain ⟨helderMem, helderKey⟩ := RoleDb.roleByKey_mem helder
  have htargetMem := fun m hm => RoleDb.roleByKey_mem (hplan.targets m hm)
  have hcommitteeStays : ¬TakenOver mappings committee.id :=
    hplan.not_takenOver hdb hcommitteeMem (by rw [hcommitteeKey]; exact isAppointedRoleKey_committee)
  have hpostStays : ∀ y ∈ db.committeePostIds, ¬TakenOver mappings y := by
    intro y hy
    obtain ⟨key, hkey, post, hpost, rfl⟩ := mem_committeePostIds.mp hy
    obtain ⟨hpostMem, hpostKey⟩ := RoleDb.roleByKey_mem hpost
    refine hplan.not_takenOver hdb hpostMem ?_
    rw [hpostKey]
    exact isAppointedRoleKey_of_post (mem_postKeys_iff.mp hkey)
  have helderPost : elder.id ∉ db.committeePostIds := by
    refine fun hmem => ne_of_post hdb helderMem ?_ hmem rfl
    rw [helderKey]
    decide
  have helderCommittee : elder.id ≠ committee.id := by
    intro hid
    have hkeys := congrArg Role.key (hdb.eq_of_id helderMem hcommitteeMem hid)
    rw [helderKey, hcommitteeKey] at hkeys
    exact absurd hkeys (by decide)
  have helderTop : db.parentOf elder.id = none :=
    h.eldersOnTop elder.id (by rw [RoleDb.idOfKey, helder]; rfl)
  obtain ⟨hparent, hshown'⟩ := carries_chart (hredrawn.valid hdb)
    (fun m hm => (hredrawn.exists_role (p := fun r => r.id = m.target.id) fun _ => Iff.rfl).mpr
      ⟨m.target, (htargetMem m hm).1, rfl⟩)
    (fun m hm => hplan.not_takenOver hdb (htargetMem m hm).1 (hplan.appointed m hm)) hcarried
  refine ⟨?_, ?_, ?_, ?_, ?_, ?_, ⟨hshown, hstays⟩, hcommitteeStays, hpostStays⟩
  · rw [hparent, if_neg hstays, (hplaced _).1, if_neg helderCommittee, if_neg helderPost, helderTop]
    rfl
  · rw [hparent, if_neg hcommitteeStays, (hplaced _).1, if_pos rfl, Option.map_some,
      rerouted_of_not_takenOver hstays]
  · intro y hy
    have hne : y ≠ committee.id := by
      rintro rfl
      exact committee_not_post hdb hplan.found hy
    rw [hparent, if_neg (hpostStays y hy), (hplaced _).1, if_neg hne, if_pos hy, Option.map_some,
      rerouted_of_not_takenOver hcommitteeStays]
  · intro y hy
    rw [hparent, if_pos hy]
  · intro y hcommittee hpost hy
    rw [hparent, if_neg hy, (hplaced _).1, if_neg hcommittee, if_neg hpost]
  · intro y
    rw [hshown', (hplaced _).2]
    simp [or_assoc]

/-! ### The climbs after an adoption -/

/-- A target is the committee or one of its posts. -/
def TargetsPlaced (db : RoleDb) (mappings : List Mapping) (committeeId : Nat) : Prop :=
  ∀ m ∈ mappings, (m.target.key = serviceCommitteeKey ∧ m.target.id = committeeId) ∨
    (m.target.key ≠ serviceCommitteeKey ∧ m.target.id ∈ db.committeePostIds)

/-- Before the adoption nothing hangs from the committee or from a post. -/
theorem ChartForm.bare (h : ChartForm db) {committeeId : Nat}
    (hcommittee : db.idOfKey serviceCommitteeKey = some committeeId)
    (hhidden : db.shownAt committeeId = false) {y z : Nat} (hy : db.parentOf y = some z) :
    z ≠ committeeId ∧ z ∉ db.committeePostIds := by
  have hz := (h.parents y z hy).2
  refine ⟨?_, ?_⟩
  · rintro rfl
    rw [hhidden] at hz
    exact Bool.noConfusion hz
  · intro hpost
    obtain ⟨key, hkey, post, hfound, rfl⟩ := mem_committeePostIds.mp hpost
    have hshown := h.postsUnder key hkey post.id committeeId (by rw [RoleDb.idOfKey, hfound]; rfl)
      hcommittee hz
    rw [hhidden] at hshown
    exact Bool.noConfusion hshown

namespace Adopted

variable {elderId committeeId : Nat}

theorem committeePath (hadopted : Adopted db db' mappings elderId committeeId) :
    RootPath db'.parentOf committeeId [committeeId, elderId] :=
  .child hadopted.committee (.root hadopted.elder)

theorem postPath (hadopted : Adopted db db' mappings elderId committeeId) {y : Nat}
    (hy : y ∈ db.committeePostIds) : RootPath db'.parentOf y [y, committeeId, elderId] :=
  .child (hadopted.post y hy) hadopted.committeePath

theorem targetPath (hadopted : Adopted db db' mappings elderId committeeId)
    (htargets : TargetsPlaced db mappings committeeId) {m : Mapping} (hm : m ∈ mappings) :
    ∃ above, RootPath db'.parentOf m.target.id above ∧ above.length = targetLevel m.target.key := by
  rcases htargets m hm with ⟨hkey, hid⟩ | ⟨hkey, hpost⟩
  · exact ⟨_, hid ▸ hadopted.committeePath, by simp [targetLevel, hkey]⟩
  · exact ⟨_, hadopted.postPath hpost, by simp [targetLevel, hkey]⟩

/-- A climb that met no role taken over is as it was; one that did turns, below that role, to the post
that replaced it, two or three levels down. -/
theorem climbs (hadopted : Adopted db db' mappings elderId committeeId) (h : ChartForm db)
    (hcommittee : db.idOfKey serviceCommitteeKey = some committeeId)
    (hhidden : db.shownAt committeeId = false) (htargets : TargetsPlaced db mappings committeeId)
    (hfits : AdoptionFits db mappings) (y : Nat) :
    ∃ path, RootPath db'.parentOf y path ∧ path.length ≤ maxOrganigramDepth := by
  obtain ⟨path, hpath, hlength⟩ := h.paths y
  have hsame : ∀ z, ¬(z = committeeId ∨ z ∈ db.committeePostIds ∨ TakenOver mappings z ∨
      ∃ s, db.parentOf z = some s ∧ TakenOver mappings s) → db'.parentOf z = db.parentOf z := by
    intro z hz
    simp only [not_or, not_exists, not_and] at hz
    obtain ⟨hc, hp, ht, hs⟩ := hz
    rw [hadopted.other z hc hp ht]
    cases hparent : db.parentOf z with
    | none => rfl
    | some s => rw [Option.map_some, rerouted_of_not_takenOver (hs s hparent)]
  rcases hpath.relocate hsame with hkept | ⟨k, z, hfirst, hmoved⟩
  · exact ⟨path, hkept, hlength⟩
  -- a cut node that is somebody's parent can only be the child of a role taken over
  have hstart : z = committeeId ∨ z ∈ db.committeePostIds ∨ TakenOver mappings z → k = 0 := by
    intro hz
    rcases hfirst.cases_parent with ⟨hk, _⟩ | ⟨w, hw, hparent⟩
    · exact hk
    · have hfree := h.bare hcommittee hhidden hparent
      rcases hz with hz | hz | hz
      · exact absurd hz hfree.1
      · exact absurd hz hfree.2
      · exact absurd (.inr (.inr (.inr ⟨z, hparent, hz⟩))) hw
  by_cases hc : z = committeeId
  · obtain ⟨path', hpath', hlength'⟩ := hmoved _ (hc ▸ hadopted.committeePath)
    have hk := hstart (.inl hc)
    refine ⟨path', hpath', ?_⟩
    rw [hlength', hk, List.length_cons, List.length_singleton]
    decide
  by_cases hp : z ∈ db.committeePostIds
  · obtain ⟨path', hpath', hlength'⟩ := hmoved _ (hadopted.postPath hp)
    have hk := hstart (.inr (.inl hp))
    refine ⟨path', hpath', ?_⟩
    rw [hlength', hk, List.length_cons, List.length_cons, List.length_singleton]
    decide
  by_cases ht : TakenOver mappings z
  · obtain ⟨path', hpath', hlength'⟩ := hmoved [z] (.root (hadopted.taken z ht))
    have hk := hstart (.inr (.inr ht))
    refine ⟨path', hpath', ?_⟩
    rw [hlength', hk, List.length_singleton]
    decide
  · have hcut := hfirst.cut_last
    obtain ⟨s, hparent, hs⟩ := (((hcut.resolve_left hc).resolve_left hp).resolve_left ht)
    obtain ⟨m, hfind⟩ := find?_takenOver.mp hs
    obtain ⟨above, habove, hlevel⟩ := hadopted.targetPath htargets (List.mem_of_find?_eq_some hfind)
    have hturn : db'.parentOf z = some m.target.id := by
      rw [hadopted.other z hc hp ht, hparent]
      simp [rerouted, hfind]
    obtain ⟨path', hpath', hlength'⟩ := hmoved _ (.child hturn habove)
    have hroom := hfits.2 y k s
      (hfirst.extend (fun w hw => .inr (.inr (.inl hw))) ht hparent hs) m hfind
    rw [List.length_cons, hlevel] at hlength'
    exact ⟨path', hpath', by omega⟩

/-- A pointer leads from a shown role to a shown role. -/
theorem shownParents (hadopted : Adopted db db' mappings elderId committeeId) (h : ChartForm db)
    (htargets : TargetsPlaced db mappings committeeId) {y parentId : Nat}
    (hy : db'.parentOf y = some parentId) :
    db'.shownAt y = true ∧ db'.shownAt parentId = true := by
  rw [hadopted.shown, hadopted.shown]
  by_cases ht : TakenOver mappings y
  · rw [hadopted.taken y ht] at hy
    cases hy
  by_cases hc : y = committeeId
  · rw [hc, hadopted.committee, Option.some.injEq] at hy
    rw [← hy]
    exact ⟨⟨.inl hc, ht⟩, .inr (.inr hadopted.elderStays.1), hadopted.elderStays.2⟩
  by_cases hp : y ∈ db.committeePostIds
  · rw [hadopted.post y hp, Option.some.injEq] at hy
    rw [← hy]
    exact ⟨⟨.inr (.inl hp), ht⟩, .inl rfl, hadopted.committeeStays⟩
  rw [hadopted.other y hc hp ht] at hy
  obtain ⟨q, hq, rfl⟩ := Option.map_eq_some_iff.mp hy
  obtain ⟨hyShown, hqShown⟩ := h.parents y q hq
  refine ⟨⟨.inr (.inr hyShown), ht⟩, ?_⟩
  by_cases hqt : TakenOver mappings q
  · obtain ⟨m, hfind⟩ := find?_takenOver.mp hqt
    have hto : rerouted mappings q = m.target.id := by simp [rerouted, hfind]
    rw [hto]
    rcases htargets m (List.mem_of_find?_eq_some hfind) with ⟨_, hid⟩ | ⟨_, hpost⟩
    · exact ⟨.inl hid, hid ▸ hadopted.committeeStays⟩
    · exact ⟨.inr (.inl hpost), hadopted.postStays _ hpost⟩
  · rw [rerouted_of_not_takenOver hqt]
    exact ⟨.inr (.inr hqShown), hqt⟩

/-- **An adoption that fits keeps the form.** -/
theorem chartForm (hadopted : Adopted db db' mappings elderId committeeId) (h : ChartForm db)
    (helder : db.idOfKey "elder" = some elderId)
    (hcommittee : db.idOfKey serviceCommitteeKey = some committeeId)
    (hhidden : db.shownAt committeeId = false) (htargets : TargetsPlaced db mappings committeeId)
    (hfits : AdoptionFits db mappings) (hids : SameIds db db') : ChartForm db' where
  paths := hadopted.climbs h hcommittee hhidden htargets hfits
  parents _ _ hy := hadopted.shownParents h htargets hy
  eldersOnTop elderId' helder' := by
    rw [hids "elder" (by decide), helder, Option.some.injEq] at helder'
    rw [← helder']
    exact hadopted.elder
  postsUnder key _ postId committeeId' _ hcommittee' _ := by
    rw [hids serviceCommitteeKey (by decide), hcommittee, Option.some.injEq] at hcommittee'
    rw [← hcommittee', hadopted.shown]
    exact ⟨.inl rfl, hadopted.committeeStays⟩

end Adopted

end Adoption

/-! ## Runs -/

/-- The requests that draw the chart. -/
def Request.DrawsChart : Request → Prop
  | .addRoleToOrganigram .. | .createServiceInOrganigram .. | .setOrganigramParent ..
  | .moveOrganigramNode .. | .removeRoleFromOrganigram .. | .createRole .. | .deleteRole ..
  | .adoptServiceCommittee .. => True
  | _ => False

/-- The request, if it goes through, hangs a role from a shown parent, or adopts a committee that
fits. -/
def Request.Fits (u : Unicode) (db : RoleDb) : Request → Prop
  | .addRoleToOrganigram roleId (some parentId) =>
    ∀ db', (Roles.addRoleToOrganigram roleId (some parentId)).exec db = (.ok (), db') →
      db.shownAt parentId = true
  | .setOrganigramParent roleId (some parentId) =>
    ∀ db', (Roles.setOrganigramParent roleId (some parentId)).exec db = (.ok (), db') →
      db.shownAt parentId = true
  | .createServiceInOrganigram name (some parentId) single =>
    ∀ id db', (Roles.createServiceInOrganigram u name (some parentId) single).exec db
      = (.ok id, db') → db.shownAt parentId = true
  | .adoptServiceCommittee choices actor =>
    ∀ db' mappings, (Roles.adoptServiceCommittee choices actor).exec db = (.ok (), db') →
      resolveMappings db choices = .ok mappings → AdoptionFits db mappings
  | _ => True

section Runs

variable {u : Unicode} {db db' start s : RoleDb} {request : Request} {role : Role}

theorem key_of_idOfKey (hdb : db.Valid) (hrole : role ∈ db.roles) {key : String}
    (h : db.idOfKey key = some role.id) : key = role.key := by
  obtain ⟨r, hr, hid⟩ := Option.map_eq_some_iff.mp h
  obtain ⟨hmem, hkey⟩ := RoleDb.roleByKey_mem hr
  rw [← hkey, hdb.eq_of_id hmem hrole hid]

theorem idOfKey_ne (hdb : db.Valid) (hrole : role ∈ db.roles)
    (hfree : isAppointedRoleKey role.key = false) :
    db.idOfKey serviceCommitteeKey ≠ some role.id := by
  intro h
  rw [← key_of_idOfKey hdb hrole h, isAppointedRoleKey_committee] at hfree
  exact Bool.noConfusion hfree

/-- A role created off the chart. -/
theorem ChartForm.createRole (h : ChartForm db) (hdb : db.Valid) (hseeded : Seeded db)
    {row : Nat → Role} (hparent : ∀ n, (row n).parentRoleId = none)
    (hshown : ∀ n, (row n).showInOrganigram = false) : ChartForm (db.createRole row) :=
  h.congr (fun _ => parentOf_createRole hparent) (fun _ => shownAt_createRole hshown)
    fun _ hkey => idOfKey_createRole hdb hseeded hkey row

/-- The adoption, from its checks to its last sync. -/
theorem adopt_chartForm {choices : List AdoptionChoice} {actor : List String} {committee : Role}
    {mappings : List Mapping} {carried : RoleDb} (hdb : db.Valid) (hseeded : Seeded db)
    (hform : ChartForm db) (hchecks : adoptChecks db choices actor = .ok (committee, mappings))
    (hcarried : (mappings.forM Mapping.carry).exec (db.placeCommittee committee) = (.ok (), carried))
    (hfits : AdoptionFits db mappings) : ChartForm carried := by
  have hplan := adoptChecks_ok hchecks
  obtain ⟨elder, helder, _⟩ := hseeded.roleByKey hdb (show "elder" ∈ seededRoleKeys by decide)
  have helderId : db.idOfKey "elder" = some elder.id := by
    rw [RoleDb.idOfKey, helder]
    rfl
  obtain ⟨elderId, hfound, hshown, hstays⟩ := hfits.1
  rw [helderId, Option.some.injEq] at hfound
  subst hfound
  obtain ⟨_, hsame⟩ := adopt_valid hdb hchecks hcarried
  have hhidden : db.shownAt committee.id = false := by
    have hmem := (RoleDb.roleByKey_mem hplan.found).1
    rw [RoleDb.shownAt, hdb.roleById_iff.mpr ⟨hmem, rfl⟩]
    exact hplan.hidden
  refine (adopted_of_carries hdb hform hchecks hcarried helder hshown hstays).chartForm hform
    helderId (by rw [RoleDb.idOfKey, hplan.found]; rfl) hhidden ?_ hfits
    fun key hkey => hsame.idOfKey hdb hseeded hkey
  intro m hm
  have htarget := hplan.targets m hm
  by_cases hkey : m.target.key = serviceCommitteeKey
  · left
    rw [hkey, hplan.found, Option.some.injEq] at htarget
    exact ⟨hkey, by rw [htarget]⟩
  · right
    have hpost := (isAppointedRoleKey_iff.mp (hplan.appointed m hm)).resolve_left hkey
    exact ⟨hkey, mem_committeePostIds.mpr ⟨m.target.key, mem_postKeys_iff.mpr hpost, m.target,
      htarget, rfl⟩⟩

/-- **Each request keeps the form**, when it fits. -/
theorem Effect.chartForm (h : Effect u db request db') (hdb : db.Valid) (hseeded : Seeded db)
    (hform : ChartForm db) (hdraws : request.DrawsChart) (hfits : request.Fits u db) :
    ChartForm db' := by
  cases h with
  | createRole hchecks =>
    exact (hform.createRole hdb hseeded (fun _ => rfl) fun _ => rfl).congr
      (fun _ => rfl) (fun _ => rfl) fun _ _ => rfl
  | createService hchecks => exact hform.createRole hdb hseeded (fun _ => rfl) fun _ => rfl
  | @deleteRole _ role hrole hcustom hleaf =>
    obtain ⟨hmem, _⟩ := RoleDb.roleById_mem hrole
    have hfree := custom_not_appointed hdb hseeded hmem hcustom
    -- nobody hangs from the role, so nobody moves
    refine hform.unhooked (idOfKey_ne hdb hmem hfree) (fun y => ?_) (fun y => shownAt_deleteRole)
      fun key hkey => ?_
    · rw [parentOf_deleteRole, if_neg (parentOf_ne_of_leaf hleaf)]
    · exact idOfKey_deleteRole hdb hseeded hmem hcustom hkey
  | @addRoleToOrganigram roleId parentRoleId role hrole hshow hpolicy hparent hok =>
    obtain ⟨hmem, rfl⟩ := RoleDb.roleById_mem hrole
    refine hform.hung hdb hpolicy (fun key => key_of_idOfKey hdb hmem) ?_
      (fun y => parentOf_updateRole hrole fun _ => rfl) (fun y => ?_)
      fun key hkey => (Redrawn.place ..).toSameRoles.idOfKey hdb hseeded hkey
    · rintro parentId rfl
      exact hfits _ hok
    · exact shownAt_place hrole
  | @createServiceInOrganigram _ trimmedName key parentRoleId single hchecks hplace hparent order
      id hok =>
    have hcreated : (db.createRole (newRole trimmedName key none single)).Valid :=
      hdb.createRole (fun _ => rfl) (createRoleChecks_free hchecks)
    have hcreatedSeeded := hseeded.createRole (newRole trimmedName key none single)
    have hcreatedForm : ChartForm (db.createRole (newRole trimmedName key none single)) :=
      hform.createRole hdb hseeded (fun _ => rfl) fun _ => rfl
    have hmem : newRole trimmedName key none single db.nextRoleId ∈
        (db.createRole (newRole trimmedName key none single)).roles :=
      List.mem_append_right _ List.mem_cons_self
    have hrole := hcreated.roleById_iff.mpr ⟨hmem, rfl⟩
    unfold placementChecks at hplace
    simp only [Tx.bind_eq_ok, Tx.exists_unit] at hplace
    -- the policy saw the chart without the new role, which was not in it anyway
    have hpolicy : assertCanSetParent ((db.createRole (newRole trimmedName key none
        single)).setParentInput db.nextRoleId key parentRoleId) = .ok () := by
      unfold RoleDb.setParentInput
      rw [treeLinks_createRole]
      exact hplace.2
    refine hcreatedForm.hung hcreated hpolicy (fun key => key_of_idOfKey hcreated hmem) ?_
      (fun y => parentOf_updateRole hrole fun _ => rfl) (fun y => shownAt_place hrole)
      fun key hkey => (Redrawn.place ..).toSameRoles.idOfKey hcreated hcreatedSeeded hkey
    rintro parentId rfl
    rw [shownAt_createRole fun _ => rfl]
    exact hfits _ _ hok
  | @setOrganigramParent roleId parentRoleId role hrole hshown hpolicy hparent hok =>
    obtain ⟨hmem, rfl⟩ := RoleDb.roleById_mem hrole
    refine hform.hung hdb hpolicy (fun key => key_of_idOfKey hdb hmem) ?_
      (fun y => parentOf_updateRole hrole fun _ => rfl) (fun y => ?_)
      fun key hkey => (Redrawn.hang ..).toSameRoles.idOfKey hdb hseeded hkey
    · rintro parentId rfl
      exact hfits _ hok
    · exact shownAt_hang hrole hshown
  | @removeRoleFromOrganigram roleId role hrole hleave =>
    obtain ⟨hmem, rfl⟩ := RoleDb.roleById_mem hrole
    have hparent : db.parentOf role.id = role.parentRoleId := by
      rw [RoleDb.parentOf, hrole, Option.bind_some]
    refine hform.unhooked (idOfKey_ne hdb hmem hleave) (fun y => ?_) (fun y => shownAt_lifted)
      fun key hkey => ((Redrawn.rehangChildren ..).trans (Redrawn.takeOffChart ..)).toSameRoles.idOfKey
        hdb hseeded hkey
    rw [parentOf_lifted, hparent]
  | moveOrganigramNode siblings =>
    exact hform.congr (fun _ => parentOf_renumber siblings) (fun _ => shownAt_renumber siblings)
      fun _ hkey => (Redrawn.renumber db siblings).toSameRoles.idOfKey hdb hseeded hkey
  | adoptServiceCommittee hchecks hcarried hok =>
    have hplan := adoptChecks_ok hchecks
    have hcarriedForm := adopt_chartForm hdb hseeded hform hchecks hcarried
      (hfits _ _ hok hplan.resolved)
    obtain ⟨rows, hframe⟩ := sync_frame _
    rw [hframe]
    exact hcarriedForm.congr (fun _ => rfl) (fun _ => rfl) fun _ _ => rfl
  | _ => exact absurd hdraws id

/-- A congregation with no chart: no role is flagged, and no role has a parent. -/
def RoleDb.NoChart (db : RoleDb) : Prop :=
  ∀ r ∈ db.roles, r.showInOrganigram = false ∧ r.parentRoleId = none

instance (db : RoleDb) : Decidable db.NoChart := inferInstanceAs (Decidable (∀ _ ∈ _, _))

/-- The organigram is a forest of flagged roles, at most ten levels deep. -/
structure WellFormedForest (db : RoleDb) : Prop where
  climbs : ∀ role ∈ db.roles, role.showInOrganigram = true →
    ∃ path, RootPath db.parentOf role.id path ∧ path.Nodup ∧ path.length ≤ maxOrganigramDepth
  parents : ∀ role ∈ db.roles, role.showInOrganigram = true →
    ∀ parentId, role.parentRoleId = some parentId →
      ∃ parent ∈ db.roles, parent.id = parentId ∧ parent.showInOrganigram = true
  hidden : ∀ role ∈ db.roles, role.showInOrganigram = false → role.parentRoleId = none

theorem parentOf_of_noChart (h : start.NoChart) (y : Nat) : start.parentOf y = none := by
  unfold RoleDb.parentOf
  cases hfound : start.roleById y with
  | none => rfl
  | some r => exact (h r (RoleDb.roleById_mem hfound).1).2

theorem ChartForm.of_noChart (h : start.NoChart) : ChartForm start where
  paths roleId := ⟨[roleId], .root (parentOf_of_noChart h roleId), Nat.succ_le_of_lt (by decide)⟩
  parents roleId parentId hparent := by
    rw [parentOf_of_noChart h] at hparent
    cases hparent
  eldersOnTop elderId _ := parentOf_of_noChart h elderId
  postsUnder key _ postId committeeId _ _ hshown := by
    unfold RoleDb.shownAt at hshown
    cases hfound : start.roleById postId with
    | none => simp [hfound] at hshown
    | some r =>
      rw [hfound, Option.any_some, (h r (RoleDb.roleById_mem hfound).1).1] at hshown
      exact Bool.noConfusion hshown

theorem ChartForm.wellFormed (h : ChartForm db) (hdb : db.Valid) : WellFormedForest db := by
  have hrow : ∀ role ∈ db.roles, db.parentOf role.id = role.parentRoleId ∧
      db.shownAt role.id = role.showInOrganigram := by
    intro role hrole
    have hfound := hdb.roleById_iff.mpr ⟨hrole, rfl⟩
    unfold RoleDb.parentOf RoleDb.shownAt
    rw [hfound]
    exact ⟨rfl, rfl⟩
  refine ⟨?_, ?_, ?_⟩
  · intro role _ _
    obtain ⟨path, hpath, hlength⟩ := h.paths role.id
    exact ⟨path, hpath, hpath.nodup, hlength⟩
  · intro role hrole _ parentId hparent
    rw [← (hrow role hrole).1] at hparent
    have hshown := (h.parents role.id parentId hparent).2
    unfold RoleDb.shownAt at hshown
    cases hfound : db.roleById parentId with
    | none => simp [hfound] at hshown
    | some parent =>
      rw [hfound] at hshown
      obtain ⟨hmem, hid⟩ := RoleDb.roleById_mem hfound
      exact ⟨parent, hmem, hid, hshown⟩
  · intro role hrole hhidden
    rw [← (hrow role hrole).1]
    cases hparent : db.parentOf role.id with
    | none => rfl
    | some parentId =>
      have hshown := (h.parents role.id parentId hparent).1
      rw [(hrow role hrole).2, hhidden] at hshown
      exact Bool.noConfusion hshown

/-- **The organigram is a forest** in every run from a congregation with no chart, when each request
that goes through hangs its role from a shown parent, and each adoption fits. -/
theorem forest_of_run (hstart : start.Valid) (hseeded : Seeded start) (hnew : start.NoChart)
    (hrun : Reach (step u) (fun db request => request.DrawsChart ∧ request.Fits u db) start s) :
    WellFormedForest s := by
  suffices hinv : (s.Valid ∧ Seeded s) ∧ ChartForm s from hinv.2.wellFormed hinv.1.1
  refine hrun.invariant (I := fun s => (s.Valid ∧ Seeded s) ∧ ChartForm s)
    ⟨⟨hstart, hseeded⟩, .of_noChart hnew⟩ ?_
  rintro s request ⟨hkept, hform⟩ ⟨hdraws, hfits⟩
  refine ⟨step_keeps u request hkept, ?_⟩
  rcases step_effect u hkept.1 request with hsame | heffect
  · rw [hsame]
    exact hform
  · exact heffect.chartForm hkept.1 hkept.2 hform hdraws hfits

end Runs

/-! ## Where the form is lost -/

/-- A role shown under a role that is not. -/
theorem not_wellFormed_of_orphan {db : RoleDb} {parentId : Nat}
    (h : ∃ role ∈ db.roles, role.showInOrganigram = true ∧ role.parentRoleId = some parentId ∧
      ∀ parent ∈ db.roles, parent.id = parentId → parent.showInOrganigram = false) :
    ¬WellFormedForest db := by
  intro hform
  obtain ⟨role, hrole, hshown, hparent, hhidden⟩ := h
  obtain ⟨parent, hmem, hid, hparentShown⟩ := hform.parents role hrole hshown parentId hparent
  rw [hhidden parent hmem hid] at hparentShown
  exact Bool.noConfusion hparentShown

/-- A climb that meets itself has no path to a root. -/
theorem not_wellFormed_of_loop {db : RoleDb} {parentId : Nat}
    (h : ∃ role ∈ db.roles, role.showInOrganigram = true ∧ db.parentOf role.id = some parentId ∧
      db.parentOf parentId = some role.id) : ¬WellFormedForest db := by
  intro hform
  obtain ⟨role, hrole, hshown, hup, hback⟩ := h
  obtain ⟨path, hpath, hnodup, _⟩ := hform.climbs role hrole hshown
  cases hpath with
  | root hroot => simp [hroot] at hup
  | child hx hy =>
    rw [hup, Option.some.injEq] at hx
    subst hx
    cases hy with
    | root hroot => simp [hroot] at hback
    | child hx' hy' =>
      rw [hback, Option.some.injEq] at hx'
      subst hx'
      exact (List.nodup_cons.mp hnodup).1 (List.mem_cons_of_mem _ hy'.self_mem)

theorem seededCongregation_valid : seededCongregation.Valid ∧ Seeded seededCongregation :=
  seedBuiltInRoles_seeded emptyCongregation_valid

set_option maxRecDepth 4000 in
/-- A service hung from the elder roster while the roster is off the chart is a flagged role with an
unflagged parent; and the adoption that takes the elder roster over as the coordinator's post hangs
the committee and that post from each other. -/
theorem forest_broken :
    seededCongregation.Valid ∧ Seeded seededCongregation ∧ seededCongregation.NoChart ∧
      (Reach (step .lowerAscii) (fun _ request => request.DrawsChart) seededCongregation
          (step .lowerAscii seededCongregation
            (.createServiceInOrganigram "accueil" (some 8) false)) ∧
        ¬WellFormedForest (step .lowerAscii seededCongregation
          (.createServiceInOrganigram "accueil" (some 8) false))) ∧
      Reach (step .lowerAscii) (fun _ request => request.DrawsChart) seededCongregation
          (step .lowerAscii seededCongregation
            (.adoptServiceCommittee [⟨"coordinator", some 8⟩] [canDoAnything])) ∧
        ¬WellFormedForest (step .lowerAscii seededCongregation
          (.adoptServiceCommittee [⟨"coordinator", some 8⟩] [canDoAnything])) := by
  refine ⟨seededCongregation_valid.1, seededCongregation_valid.2, by decide, ⟨.one trivial, ?_⟩,
    .one trivial, ?_⟩
  · exact @not_wellFormed_of_orphan _ 8 (by decide)
  · exact @not_wellFormed_of_loop _ 13 (by decide)

set_option maxRecDepth 4000 in
/-- With the elder roster put in the chart first, the service hangs from a shown role. -/
theorem forest_of_run_service :
    WellFormedForest (step .lowerAscii
      (step .lowerAscii seededCongregation (.addRoleToOrganigram 8 none))
      (.createServiceInOrganigram "accueil" (some 8) false)) :=
  forest_of_run seededCongregation_valid.1 seededCongregation_valid.2 (by decide)
    (.two ⟨trivial, trivial⟩ ⟨trivial, fun _ _ _ => by decide⟩)

end Unitae.Roles
