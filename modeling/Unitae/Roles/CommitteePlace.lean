import Unitae.Roles.Invariants

/-!
# Unitae — the service committee's place in the chart

`role-tree.policy.ts` fixes the position of the committee and of its posts: nobody moves them, and
nobody takes them off. What they hang from is not protected the same way. Removing the elder roster
lifts its children, and an adoption that takes the elder roster over re-hangs them.

`committeePlaced_of_run` is the position as an invariant, of every run that leaves the elder roster
in the chart.
-/

namespace Unitae.Roles

/-- The committee hangs from the elder roster, and each of its posts from the committee. -/
def CommitteePlaced (db : RoleDb) : Prop :=
  ∃ elder committee, db.roleByKey "elder" = some elder ∧
    db.roleByKey serviceCommitteeKey = some committee ∧ committee.parentRoleId = some elder.id ∧
    ∀ key ∈ serviceCommitteePostKeys,
      ∃ post, db.roleByKey key = some post ∧ post.parentRoleId = some committee.id

/-! ## Writes that keep the position -/

section Writes

variable {db db' : RoleDb}

/-- A lookup that finds the same id and, for an appointed role, the same parent. -/
theorem CommitteePlaced.congr (h : CommitteePlaced db)
    (hsame : ∀ key role, db.roleByKey key = some role →
      key = "elder" ∨ isAppointedRoleKey key = true →
      ∃ role', db'.roleByKey key = some role' ∧ role'.id = role.id ∧
        (isAppointedRoleKey key = true → role'.parentRoleId = role.parentRoleId)) :
    CommitteePlaced db' := by
  obtain ⟨elder, committee, helder, hcommittee, hparent, hposts⟩ := h
  obtain ⟨elder', helder', helderId, _⟩ := hsame _ _ helder (.inl rfl)
  obtain ⟨committee', hcommittee', hcommitteeId, hcommitteeParent⟩ :=
    hsame _ _ hcommittee (.inr isAppointedRoleKey_committee)
  refine ⟨elder', committee', helder', hcommittee', ?_, ?_⟩
  · rw [hcommitteeParent isAppointedRoleKey_committee, hparent, helderId]
  · intro key hkey
    have happointed := isAppointedRoleKey_of_post (mem_postKeys_iff.mp hkey)
    obtain ⟨post, hpost, hpostParent⟩ := hposts key hkey
    obtain ⟨post', hpost', _, hsameParent⟩ := hsame _ _ hpost (.inr happointed)
    exact ⟨post', hpost', by rw [hsameParent happointed, hpostParent, hcommitteeId]⟩

/-- An update that moves no appointed role. -/
theorem CommitteePlaced.updateRoles (h : CommitteePlaced db) {sel : Role → Bool}
    {data : Role → Role} (hid : ∀ r, (data r).id = r.id) (hkey : ∀ r, (data r).key = r.key)
    (hparent : ∀ r ∈ db.roles, isAppointedRoleKey r.key = true → sel r = true →
      (data r).parentRoleId = r.parentRoleId) :
    CommitteePlaced (db.updateRoles sel data) := by
  refine h.congr fun key role hrole _ => ?_
  obtain ⟨hmem, hrolekey⟩ := RoleDb.roleByKey_mem hrole
  refine ⟨if sel role then data role else role,
    by rw [RoleDb.roleByKey_updateRoles hkey, hrole]; rfl, ?_, ?_⟩
  · split
    · exact hid role
    · rfl
  · intro happointed
    split
    · next hsel => exact hparent role hmem (by rwa [hrolekey]) hsel
    · rfl

/-- An appointed role hangs from the elder roster or from the committee. -/
theorem CommitteePlaced.parent_of_appointed (h : CommitteePlaced db) (hdb : db.Valid) {r : Role}
    (hr : r ∈ db.roles) (happointed : isAppointedRoleKey r.key = true) :
    ∃ above ∈ db.roles, r.parentRoleId = some above.id ∧
      (above.key = "elder" ∨ isAppointedRoleKey above.key = true) := by
  obtain ⟨elder, committee, helder, hcommittee, hparent, hposts⟩ := h
  obtain ⟨helderMem, helderKey⟩ := RoleDb.roleByKey_mem helder
  obtain ⟨hcommitteeMem, hcommitteeKey⟩ := RoleDb.roleByKey_mem hcommittee
  rcases isAppointedRoleKey_iff.mp happointed with hkey | hpost
  · have hsame : r = committee := hdb.eq_of_key hr hcommitteeMem (hkey.trans hcommitteeKey.symm)
    exact ⟨elder, helderMem, by rw [hsame, hparent], .inl helderKey⟩
  · obtain ⟨post, hfound, hpostParent⟩ := hposts r.key (mem_postKeys_iff.mpr hpost)
    obtain ⟨hpostMem, hpostKey⟩ := RoleDb.roleByKey_mem hfound
    have hsame : r = post := hdb.eq_of_key hr hpostMem hpostKey.symm
    refine ⟨committee, hcommitteeMem, by rw [hsame, hpostParent], .inr ?_⟩
    rw [hcommitteeKey]
    exact isAppointedRoleKey_committee

/-- Taking a role off the chart, its children lifted or handed on, keeps the position when the role
is neither appointed nor the elder roster. -/
theorem CommitteePlaced.lift (h : CommitteePlaced db) (hdb : db.Valid) {role : Role}
    (hrole : role ∈ db.roles) (hleave : isAppointedRoleKey role.key = false)
    (helder : role.key ≠ "elder") (parentRoleId : Option Nat) :
    CommitteePlaced ((db.rehangChildren role.id parentRoleId).takeOffChart role.id) := by
  have hrehung : CommitteePlaced (db.rehangChildren role.id parentRoleId) := by
    refine h.updateRoles (fun _ => rfl) (fun _ => rfl) fun r hr happointed hsel => ?_
    -- a child of the role would hang from the elders or the committee
    obtain ⟨above, habove, hparent, hkind⟩ := h.parent_of_appointed hdb hr happointed
    rw [hparent, beq_iff_eq, Option.some.injEq] at hsel
    rw [hdb.eq_of_id habove hrole hsel, hleave] at hkind
    rcases hkind with hkey | hkey
    · exact absurd hkey helder
    · exact Bool.noConfusion hkey
  refine hrehung.updateRoles (fun _ => rfl) (fun _ => rfl) fun r hr happointed hsel => ?_
  obtain ⟨r₀, hr₀, hsame⟩ := List.mem_map.mp hr
  have hkeys : r₀.id = r.id ∧ r₀.key = r.key := by
    rw [← hsame]
    split <;> exact ⟨rfl, rfl⟩
  rw [beq_iff_eq, ← hkeys.1] at hsel
  rw [← hkeys.2, hdb.eq_of_id hr₀ hrole hsel, hleave] at happointed
  exact Bool.noConfusion happointed

/-- A placement of a role the policy allows to be placed. -/
theorem CommitteePlaced.updateRole (h : CommitteePlaced db) (hdb : db.Valid) {role : Role}
    (hrole : role ∈ db.roles) (hfree : isAppointedRoleKey role.key = false) {data : Role → Role}
    (hid : ∀ r, (data r).id = r.id) (hkey : ∀ r, (data r).key = r.key) :
    CommitteePlaced (db.updateRoles (·.id == role.id) data) := by
  refine h.updateRoles hid hkey fun r hr happointed hsel => ?_
  rw [hdb.eq_of_id hr hrole (by simpa using hsel), hfree] at happointed
  exact Bool.noConfusion happointed

theorem CommitteePlaced.renumber (h : CommitteePlaced db) (siblings : List Role) :
    CommitteePlaced (db.renumber siblings) :=
  List.foldlRecOn _ _ h fun _ hplaced _ _ =>
    hplaced.updateRoles (fun _ => rfl) (fun _ => rfl) fun _ _ _ _ => rfl

theorem CommitteePlaced.createRole (h : CommitteePlaced db) (row : Nat → Role) :
    CommitteePlaced (db.createRole row) := by
  refine h.congr fun key role hrole _ => ⟨role, ?_, rfl, fun _ => rfl⟩
  unfold RoleDb.roleByKey at hrole ⊢
  rw [RoleDb.createRole_roles, List.find?_append, hrole]
  rfl

/-- A custom role is neither the elder roster nor appointed, so deleting it moves nothing. -/
theorem CommitteePlaced.deleteRole (h : CommitteePlaced db) (hdb : db.Valid) (hseeded : Seeded db)
    {role : Role} (hrole : role ∈ db.roles) (hcustom : role.isBuiltIn = false) :
    CommitteePlaced (db.deleteRole role.id) := by
  refine h.congr fun key r hr hkind => ⟨r, ?_, rfl, fun _ => rfl⟩
  rw [hseeded.roleByKey_deleteRole hdb hrole hcustom]
  · exact hr
  · rcases hkind with rfl | happointed
    · decide
    · exact appointed_mem_seededRoleKeys happointed

end Writes

/-! ## Where the committee is placed -/

section Placing

variable {db : RoleDb}

theorem roleByKey_place {roleId : Nat} {parentRoleId : Option Nat} {order : Int} {key : String} :
    (db.place roleId parentRoleId order).roleByKey key =
      (db.roleByKey key).map fun r => if r.id == roleId then
        { r with showInOrganigram := true, parentRoleId := parentRoleId, organigramOrder := some order }
      else r := by
  unfold RoleDb.place
  rw [RoleDb.roleByKey_updateRoles]
  exact fun _ => rfl

/-- Placing the role of a key leaves the roles of the other keys where they are. -/
theorem roleByKey_place_of_ne (hdb : db.Valid) {role other : Role} {key : String}
    (hrole : role ∈ db.roles) (hother : db.roleByKey key = some other) (hne : role.key ≠ key)
    {parentRoleId : Option Nat} {order : Int} :
    (db.place role.id parentRoleId order).roleByKey key = some other := by
  obtain ⟨hmem, hkey⟩ := RoleDb.roleByKey_mem hother
  rw [roleByKey_place, hother, Option.map_some, if_neg]
  rw [beq_iff_eq]
  intro hid
  exact hne (by rw [← hdb.eq_of_id hmem hrole hid, hkey])

theorem roleByKey_place_self {role : Role} {key : String} (hrole : db.roleByKey key = some role)
    {parentRoleId : Option Nat} {order : Int} :
    (db.place role.id parentRoleId order).roleByKey key = some
      { role with
        showInOrganigram := true, parentRoleId := parentRoleId, organigramOrder := some order } := by
  rw [roleByKey_place, hrole, Option.map_some, if_pos (beq_self_eq_true _)]

/-- The roles of `db`, but that those of the keys `done` are shown in `placed`, under
`parentRoleId`. -/
def PlacedUnder (db placed : RoleDb) (parentRoleId : Option Nat) (done : List String) : Prop :=
  ∀ key role, db.roleByKey key = some role →
    ∃ role', placed.roleByKey key = some role' ∧ role'.id = role.id ∧
      role'.parentRoleId = (if key ∈ done then parentRoleId else role.parentRoleId) ∧
      role'.showInOrganigram = if key ∈ done then true else role.showInOrganigram

theorem PlacedUnder.place (hdb : db.Valid) {placed : RoleDb} {parentRoleId : Option Nat}
    {done : List String} (h : PlacedUnder db placed parentRoleId done) {first : String}
    {order : Int} :
    PlacedUnder db
      (match db.roleByKey first with
        | some post => placed.place post.id parentRoleId order
        | none => placed) parentRoleId (first :: done) := by
  intro key role hrole
  obtain ⟨role', hrole', hid, hparent, hshown⟩ := h key role hrole
  cases hfirst : db.roleByKey first with
  | none =>
    have hne : key ≠ first := by
      rintro rfl
      simp [hfirst] at hrole
    exact ⟨role', hrole', hid, by simpa [hne] using hparent, by simpa [hne] using hshown⟩
  | some post =>
    obtain ⟨hmem, hkey⟩ := RoleDb.roleByKey_mem hrole
    obtain ⟨hpostMem, hpostKey⟩ := RoleDb.roleByKey_mem hfirst
    refine ⟨_, by rw [roleByKey_place, hrole', Option.map_some], ?_⟩
    by_cases hsame : key = first
    · have hpost : role = post := by
        rw [hsame, hfirst, Option.some.injEq] at hrole
        exact hrole.symm
      rw [if_pos (by rw [hid, hpost]; exact beq_self_eq_true _),
        if_pos (by rw [hsame]; exact List.mem_cons_self),
        if_pos (by rw [hsame]; exact List.mem_cons_self)]
      exact ⟨hid, rfl, rfl⟩
    · have hne : ¬(role'.id == post.id) = true := by
        rw [beq_iff_eq, hid]
        intro hids
        exact hsame (by rw [← hkey, hdb.eq_of_id hmem hpostMem hids, hpostKey])
      rw [if_neg hne]
      exact ⟨hid, by simpa [hsame] using hparent, by simpa [hsame] using hshown⟩

/-- Each post that exists hangs from `parentRoleId` once the posts are placed. -/
theorem placePosts_spec (hdb : db.Valid) (parentRoleId : Option Nat) :
    PlacedUnder db (db.placePosts parentRoleId) parentRoleId
      (serviceCommitteePostKeys.reverse) := by
  have hnone : PlacedUnder db db parentRoleId [] := by
    intro key role hrole
    exact ⟨role, hrole, rfl, by rw [if_neg List.not_mem_nil], by rw [if_neg List.not_mem_nil]⟩
  exact ((hnone.place hdb).place hdb).place hdb

/-- **Placing the committee and its posts** under the elder roster gives them their position. -/
theorem committeePlaced_place (hdb : db.Valid) (hseeded : Seeded db) {elder committee : Role}
    (helder : db.roleByKey "elder" = some elder)
    (hcommittee : db.roleByKey serviceCommitteeKey = some committee) (order : Int) :
    CommitteePlaced ((db.place committee.id (some elder.id) order).placePosts
      (some committee.id)) := by
  have hmem := (RoleDb.roleByKey_mem hcommittee).1
  have hkey := (RoleDb.roleByKey_mem hcommittee).2
  have hplaced : (db.place committee.id (some elder.id) order).Valid :=
    (Redrawn.place ..).valid hdb
  have hspec := placePosts_spec hplaced (some committee.id)
  obtain ⟨elder', helder', helderId, _⟩ := hspec "elder" elder
    (roleByKey_place_of_ne hdb hmem helder (by rw [hkey]; decide))
  obtain ⟨committee', hcommittee', hcommitteeId, hcommitteeParent, _⟩ := hspec serviceCommitteeKey _
    (roleByKey_place_self hcommittee)
  refine ⟨elder', committee', helder', hcommittee', ?_, ?_⟩
  · rw [hcommitteeParent, if_neg (by decide), helderId]
  · intro key hpost
    obtain ⟨post, hfound, _⟩ := hseeded.roleByKey hdb
      (List.mem_append_right _ (List.mem_cons_of_mem _ hpost))
    have hne : committee.key ≠ key := by
      rw [hkey]
      exact (ne_committee_of_post (mem_postKeys_iff.mp hpost)).symm
    obtain ⟨post', hpost', _, hparent, _⟩ := hspec key post
      (roleByKey_place_of_ne hdb hmem hfound hne)
    refine ⟨post', hpost', ?_⟩
    rw [hparent, if_pos (List.mem_reverse.mpr hpost), hcommitteeId]

end Placing

/-! ## Runs -/

/-- The requests that arrange the chart. -/
def Request.Arranges : Request → Prop
  | .addRoleToOrganigram .. | .createServiceInOrganigram .. | .setOrganigramParent ..
  | .moveOrganigramNode .. | .removeRoleFromOrganigram .. | .deleteRole .. => True
  | _ => False

/-- The request takes the elder roster off the chart. -/
def Request.RemovesElders (db : RoleDb) : Request → Prop
  | .removeRoleFromOrganigram roleId => ∃ elder, db.roleByKey "elder" = some elder ∧ elder.id = roleId
  | _ => False

/-- The adoption is asked to take the elder roster over. -/
def TakesOverElders (db : RoleDb) (choices : List AdoptionChoice) : Prop :=
  ∃ mappings, resolveMappings db choices = .ok mappings ∧ ∃ m ∈ mappings, m.source.key = "elder"

/-- The committee has just been placed: by an adoption of the kind `adoptable`, or by the setup of a
new congregation. -/
inductive JustPlaced (adoptable : RoleDb → List AdoptionChoice → Prop) : RoleDb → Prop where
  | adopted {db db' : RoleDb} {choices : List AdoptionChoice} {actor : List String}
      (hdb : db.Valid) (hseeded : Seeded db) (hadoptable : adoptable db choices)
      (hok : (adoptServiceCommittee choices actor).exec db = (.ok (), db')) :
      JustPlaced adoptable db'
  | setUp {db : RoleDb} (hdb : db.Valid) (hnew : ∀ r ∈ db.roles, r.showInOrganigram = false) :
      JustPlaced adoptable (placeDefaultOrganigram (seedBuiltInRoles db))

section Runs

variable {u : Unicode} {db db' start s : RoleDb} {request : Request}

/-- **Each request keeps the position**, unless it takes the elder roster off the chart. -/
theorem Effect.committeePlaced (h : Effect u db request db') (hdb : db.Valid) (hseeded : Seeded db)
    (hplaced : CommitteePlaced db) (harranges : request.Arranges)
    (helders : ¬request.RemovesElders db) : CommitteePlaced db' := by
  cases h with
  | addRoleToOrganigram hrole hshow hpolicy hparent _ =>
    obtain ⟨hmem, rfl⟩ := RoleDb.roleById_mem hrole
    have hfree := (assertCanSetParent_ok hpolicy).1
    exact hplaced.updateRole hdb hmem hfree (fun _ => rfl) fun _ => rfl
  | createService hchecks => exact hplaced.createRole _
  | @createServiceInOrganigram _ trimmedName key _ single hchecks hplace hparent order _ _ =>
    have hcreated : (db.createRole (newRole trimmedName key none single)).Valid :=
      hdb.createRole (fun _ => rfl) (createRoleChecks_free hchecks)
    unfold placementChecks at hplace
    simp only [Tx.bind_eq_ok, Tx.exists_unit] at hplace
    have hfree := (assertCanSetParent_ok hplace.2).1
    exact (hplaced.createRole _).updateRole hcreated (List.mem_append_right _ List.mem_cons_self)
      hfree (fun _ => rfl) fun _ => rfl
  | setOrganigramParent hrole hshown hpolicy hparent _ =>
    obtain ⟨hmem, rfl⟩ := RoleDb.roleById_mem hrole
    have hfree := (assertCanSetParent_ok hpolicy).1
    exact hplaced.updateRole hdb hmem hfree (fun _ => rfl) fun _ => rfl
  | moveOrganigramNode siblings => exact hplaced.renumber siblings
  | @removeRoleFromOrganigram roleId role hrole hleave =>
    obtain ⟨hmem, rfl⟩ := RoleDb.roleById_mem hrole
    refine hplaced.lift hdb hmem hleave ?_ _
    intro hkey
    exact helders ⟨role, hdb.roleByKey_iff.mpr ⟨hmem, hkey⟩, rfl⟩
  | deleteRole hrole hcustom hleaf =>
    exact hplaced.deleteRole hdb hseeded (RoleDb.roleById_mem hrole).1 hcustom
  | _ => exact absurd harranges id

/-- Carrying hand-made roles over keeps the position when the elder roster is not one of them. -/
theorem carries_committeePlaced {mappings : List Mapping} (hdb : db.Valid)
    (hplaced : CommitteePlaced db) (htargets : ∀ m ∈ mappings, ∃ r ∈ db.roles, r.id = m.target.id)
    (hsources : ∀ m ∈ mappings, ∃ r ∈ db.roles, r.id = m.source.id ∧
      isAppointedRoleKey r.key = false ∧ r.key ≠ "elder")
    (h : (mappings.forM Mapping.carry).exec db = (.ok (), db')) : CommitteePlaced db' := by
  suffices hinv : (db'.Valid ∧ SameRoles db db') ∧ CommitteePlaced db' from hinv.2
  refine Tx.forM_invariant (I := fun _ s => (s.Valid ∧ SameRoles db s) ∧ CommitteePlaced s) h
    ⟨⟨hdb, .refl db⟩, hplaced⟩ ?_
  rintro done m rest hmappings s s' ⟨⟨hvalid, hsame⟩, hs⟩ hcarry
  have hm : m ∈ mappings := by simp [hmappings]
  have htarget : ∃ r ∈ s.roles, r.id = m.target.id :=
    (hsame.exists_role (p := fun r => r.id = m.target.id) fun _ => Iff.rfl).mpr (htargets m hm)
  obtain ⟨r, hr, hid, hleave, helder⟩ :=
    (hsame.exists_role (p := fun r => r.id = m.source.id ∧ isAppointedRoleKey r.key = false ∧
      r.key ≠ "elder") fun _ => Iff.rfl).mpr (hsources m hm)
  obtain ⟨rfl, hgiven, hvalid', hsame'⟩ := carry_spec hvalid htarget hcarry
  refine ⟨⟨hvalid', hsame.trans hsame'⟩, ?_⟩
  have hsgiven : CommitteePlaced (s.handedOver m) :=
    hs.congr fun key role hrole _ =>
      ⟨role, by rw [RoleDb.roleByKey, handedOver_roles]; exact hrole, rfl, fun _ => rfl⟩
  have hlifted := hsgiven.lift hgiven (by rw [handedOver_roles]; exact hr) hleave helder
    (some m.target.id)
  rw [hid] at hlifted
  exact hlifted

/-- An adoption that does not take the elder roster over leaves the committee in its position. -/
theorem adopt_committeePlaced {choices : List AdoptionChoice} {actor : List String}
    (hdb : db.Valid) (hseeded : Seeded db) (helders : ¬TakesOverElders db choices)
    (h : (adoptServiceCommittee choices actor).exec db = (.ok (), db')) : CommitteePlaced db' := by
  obtain ⟨committee, mappings, carried, hchecks, hcarried, rfl⟩ := adoptServiceCommittee_ok h
  have hplan := adoptChecks_ok hchecks
  obtain ⟨elder, helder, _⟩ := hseeded.roleByKey hdb (show "elder" ∈ seededRoleKeys by decide)
  have hredrawn := Redrawn.placeCommittee db committee
  have hplaced : CommitteePlaced (db.placeCommittee committee) := by
    unfold RoleDb.placeCommittee
    rw [helder]
    exact committeePlaced_place hdb hseeded helder hplan.found orderStep
  have hcarriedPlaced : CommitteePlaced carried := by
    refine carries_committeePlaced (hredrawn.valid hdb) hplaced ?_ ?_ hcarried
    · intro m hm
      exact (hredrawn.exists_role (p := fun r => r.id = m.target.id) fun _ => Iff.rfl).mpr
        ⟨m.target, (RoleDb.roleByKey_mem (hplan.targets m hm)).1, rfl⟩
    · intro m hm
      refine (hredrawn.exists_role (p := fun r => r.id = m.source.id ∧
        isAppointedRoleKey r.key = false ∧ r.key ≠ "elder") fun _ => Iff.rfl).mpr ?_
      exact ⟨m.source, (RoleDb.roleById_mem (hplan.sources m hm)).1, rfl, hplan.handMade m hm,
        fun hkey => helders ⟨mappings, hplan.resolved, m, hm, hkey⟩⟩
  obtain ⟨rows, hsync⟩ := sync_frame carried
  rw [hsync]
  exact hcarriedPlaced

/-- Setting a new congregation up places the committee. -/
theorem setUp_committeePlaced (hdb : db.Valid) (hnew : ∀ r ∈ db.roles, r.showInOrganigram = false) :
    CommitteePlaced (placeDefaultOrganigram (seedBuiltInRoles db)) := by
  obtain ⟨hvalid, hseeded⟩ := seedBuiltInRoles_seeded hdb
  have hhidden := seedBuiltInRoles_hidden hnew
  generalize seedBuiltInRoles db = seeded at hvalid hseeded hhidden ⊢
  obtain ⟨elder, helder, _⟩ := hseeded.roleByKey hvalid (show "elder" ∈ seededRoleKeys by decide)
  obtain ⟨committee, hcommittee, _⟩ :=
    hseeded.roleByKey hvalid (show serviceCommitteeKey ∈ seededRoleKeys by decide)
  have hrosters : Redrawn seeded ((seeded.placeKey "elder" none orderStep).placeKey
      "assistant-servant" none (orderStep * 2)) :=
    (placeKey_redrawn ..).trans (placeKey_redrawn ..)
  obtain ⟨elder', helder', hsameElder⟩ := hrosters.roleByKey hvalid helder
  obtain ⟨committee', hcommittee', hsameCommittee⟩ := hrosters.roleByKey hvalid hcommittee
  have helderId : elder'.id = elder.id := Role.id_eq_of_offChart hsameElder
  have hcommitteeId : committee'.id = committee.id := Role.id_eq_of_offChart hsameCommittee
  have hplaced := committeePlaced_place (hrosters.valid hvalid) (hseeded.sameRoles hrosters.toSameRoles)
    helder' hcommittee' orderStep
  have hempty : ¬seeded.roles.any (·.showInOrganigram) = true := by
    rw [List.any_eq_true]
    rintro ⟨r, hr, hshown⟩
    rw [hhidden r hr] at hshown
    exact Bool.noConfusion hshown
  rw [helderId] at hplaced
  unfold placeDefaultOrganigram
  rw [if_neg hempty]
  simp only [helder, hcommittee, Option.map_some]
  rw [RoleDb.placeKey, hcommittee', ← hcommitteeId]
  exact hplaced

theorem justPlaced_keeps {adoptable : RoleDb → List AdoptionChoice → Prop}
    (h : JustPlaced adoptable start) : start.Valid ∧ Seeded start := by
  cases h with
  | @adopted db _ choices actor hdb hseeded hadoptable hok =>
    have hrun : ((Request.adoptServiceCommittee choices actor).run .lowerAscii).exec db
        = (.ok (), start) := hok
    rcases effect_of_ok hdb hrun with rfl | heffect
    · exact ⟨hdb, hseeded⟩
    · exact ⟨heffect.valid hdb, heffect.seeded hdb hseeded⟩
  | @setUp db hdb hnew =>
    obtain ⟨hvalid, hseeded⟩ := seedBuiltInRoles_seeded hdb
    have hredrawn := placeDefaultOrganigram_redrawn (seedBuiltInRoles db)
    exact ⟨hredrawn.valid hvalid, hseeded.sameRoles hredrawn.toSameRoles⟩

/-- **The committee's position is fixed** in every run that leaves the elder roster alone: it is
neither taken over by the adoption nor removed from the chart. -/
theorem committeePlaced_of_run
    (hstart : JustPlaced (fun db choices => ¬TakesOverElders db choices) start)
    (hrun : Reach (step u) (fun db request => request.Arranges ∧ ¬request.RemovesElders db) start s) :
    CommitteePlaced s := by
  suffices hinv : (s.Valid ∧ Seeded s) ∧ CommitteePlaced s from hinv.2
  refine hrun.invariant (I := fun s => (s.Valid ∧ Seeded s) ∧ CommitteePlaced s) ?_ ?_
  · refine ⟨justPlaced_keeps hstart, ?_⟩
    cases hstart with
    | adopted hdb hseeded hadoptable hok => exact adopt_committeePlaced hdb hseeded hadoptable hok
    | setUp hdb hnew => exact setUp_committeePlaced hdb hnew
  · rintro s request ⟨hkept, hplaced⟩ ⟨harranges, helders⟩
    refine ⟨step_keeps u request hkept, ?_⟩
    rcases step_effect u hkept.1 request with hsame | heffect
    · rw [hsame]
      exact hplaced
    · exact heffect.committeePlaced hkept.1 hkept.2 hplaced harranges helders

end Runs

/-- A congregation with no roles yet, and as set up: the elder roster is role 8, the committee
role 12. -/
def emptyCongregation : RoleDb where
  roles := []
  rolePermissions := []
  userRoleAssignments := []
  memberRoleAssignments := []
  accounts := []
  members := []
  permissions := []
  nextRoleId := 1

def seededCongregation : RoleDb := seedBuiltInRoles emptyCongregation

def defaultChart : RoleDb := placeDefaultOrganigram seededCongregation

theorem emptyCongregation_valid : emptyCongregation.Valid := by decide

/-- A committee with no parent is not in its position. -/
theorem not_committeePlaced {db : RoleDb}
    (h : ((db.roleByKey serviceCommitteeKey).bind (·.parentRoleId)) ≠
      (db.roleByKey "elder").map (·.id)) : ¬CommitteePlaced db := by
  rintro ⟨elder, committee, helder, hcommittee, hparent, _⟩
  rw [helder, hcommittee] at h
  exact h hparent

set_option maxRecDepth 4000 in
/-- Removing the elder roster lifts the committee to the top; taking the elder roster over as the
coordinator's post hangs the committee from its own post. -/
theorem committee_displaced :
    (JustPlaced (fun _ _ => True) defaultChart ∧
      Reach (step .lowerAscii) (fun _ request => request.Arranges) defaultChart
        (step .lowerAscii defaultChart (.removeRoleFromOrganigram 8)) ∧
      ¬CommitteePlaced (step .lowerAscii defaultChart (.removeRoleFromOrganigram 8))) ∧
    ∃ db', (adoptServiceCommittee [⟨"coordinator", some 8⟩] [canDoAnything]).exec seededCongregation
        = (.ok (), db') ∧ JustPlaced (fun _ _ => True) db' ∧ ¬CommitteePlaced db' := by
  have hadopt : ((adoptServiceCommittee [⟨"coordinator", some 8⟩] [canDoAnything]).exec
      seededCongregation).1 = .ok () := by decide
  refine ⟨⟨.setUp emptyCongregation_valid (by decide), .one trivial,
    not_committeePlaced (by decide)⟩, _, Prod.ext hadopt rfl, ?_, not_committeePlaced (by decide)⟩
  exact .adopted (seedBuiltInRoles_seeded emptyCongregation_valid).1
    (seedBuiltInRoles_seeded emptyCongregation_valid).2 trivial (Prod.ext hadopt rfl)

set_option maxRecDepth 4000 in
/-- Removing the other roster, the ministerial servants, leaves the committee in its position. -/
theorem committeePlaced_of_run_removal :
    CommitteePlaced (step .lowerAscii defaultChart (.removeRoleFromOrganigram 9)) :=
  committeePlaced_of_run (.setUp emptyCongregation_valid (by decide))
    (.one ⟨trivial, by
      rintro ⟨elder, helder, hid⟩
      have hfound : ((placeDefaultOrganigram (seedBuiltInRoles emptyCongregation)).roleByKey
          "elder").map (·.id) = some 8 := by decide
      rw [helder, Option.map_some, hid] at hfound
      exact absurd hfound (by decide)⟩)

end Unitae.Roles
