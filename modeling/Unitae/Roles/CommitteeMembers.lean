import Unitae.Roles.CommitteePlace

/-!
# Unitae — who sits on the service committee

The committee's rows are derived from the seats of its three posts (`Committee.lean`), and every
service that touches a post re-derives them. The rows are nevertheless ordinary seats of an ordinary
role, and the services that seat and unseat by role id take the committee's id like any other.

`committeeMembers_of_run` is the law over every run whose requests do not put an account on the
committee, or take one off it, by hand.
-/

namespace Unitae.Roles

/-- The committee is the leaders of its posts. -/
def CommitteeIsLeaders (db : RoleDb) : Prop :=
  ∀ committee, db.roleByKey serviceCommitteeKey = some committee →
    ∀ userId, db.Seated userId committee.id ↔ db.LeadsPost userId

/-! ## The rows the law reads -/

section Rows

variable {db db' : RoleDb}

theorem mem_committeePostIds {roleId : Nat} :
    roleId ∈ db.committeePostIds ↔ ∃ key ∈ serviceCommitteePostKeys, ∃ post,
      db.roleByKey key = some post ∧ post.id = roleId := by
  simp only [RoleDb.committeePostIds, List.mem_filterMap, Option.map_eq_some_iff]

/-- The post ids depend on the ids of the appointed roles only. -/
theorem committeePostIds_congr
    (hids : ∀ key, isAppointedRoleKey key = true →
      (db'.roleByKey key).map (·.id) = (db.roleByKey key).map (·.id)) :
    db'.committeePostIds = db.committeePostIds := by
  unfold RoleDb.committeePostIds
  refine List.filterMap_congr fun key hkey => ?_
  exact hids key (isAppointedRoleKey_of_post (mem_postKeys_iff.mp hkey))

/-- **The law reads the committee's seats and the leaders of the posts**, and nothing else. -/
theorem CommitteeIsLeaders.congr (h : CommitteeIsLeaders db)
    (hids : ∀ key, isAppointedRoleKey key = true →
      (db'.roleByKey key).map (·.id) = (db.roleByKey key).map (·.id))
    (hcommittee : ∀ committee, db.roleByKey serviceCommitteeKey = some committee →
      ∀ userId, db'.Seated userId committee.id ↔ db.Seated userId committee.id)
    (hposts : ∀ a, a.kind = .leader → a.roleId ∈ db.committeePostIds →
      (a ∈ db'.userRoleAssignments ↔ a ∈ db.userRoleAssignments)) : CommitteeIsLeaders db' := by
  intro committee' hfound' userId
  have hid := hids serviceCommitteeKey isAppointedRoleKey_committee
  rw [hfound', Option.map_some] at hid
  obtain ⟨committee, hfound, hsame⟩ := Option.map_eq_some_iff.mp hid.symm
  rw [← hsame, hcommittee committee hfound, h committee hfound]
  unfold RoleDb.LeadsPost
  rw [committeePostIds_congr hids]
  constructor
  · rintro ⟨a, ha, huser, hleader, hpost⟩
    exact ⟨a, (hposts a hleader hpost).mpr ha, huser, hleader, hpost⟩
  · rintro ⟨a, ha, huser, hleader, hpost⟩
    exact ⟨a, (hposts a hleader hpost).mp ha, huser, hleader, hpost⟩

/-- A write that leaves every row of the appointed roles alone. -/
theorem CommitteeIsLeaders.of_rows (h : CommitteeIsLeaders db)
    (hids : ∀ key, isAppointedRoleKey key = true →
      (db'.roleByKey key).map (·.id) = (db.roleByKey key).map (·.id))
    (hrows : ∀ a key role, isAppointedRoleKey key = true → db.roleByKey key = some role →
      a.roleId = role.id → (a ∈ db'.userRoleAssignments ↔ a ∈ db.userRoleAssignments)) :
    CommitteeIsLeaders db' := by
  refine h.congr hids ?_ ?_
  · intro committee hfound userId
    constructor
    · rintro ⟨a, ha, huser, hrole⟩
      exact ⟨a, (hrows a _ _ isAppointedRoleKey_committee hfound hrole).mp ha, huser, hrole⟩
    · rintro ⟨a, ha, huser, hrole⟩
      exact ⟨a, (hrows a _ _ isAppointedRoleKey_committee hfound hrole).mpr ha, huser, hrole⟩
  · intro a _ hpost
    obtain ⟨key, hkey, post, hfound, hid⟩ := mem_committeePostIds.mp hpost
    exact hrows a key post (isAppointedRoleKey_of_post (mem_postKeys_iff.mp hkey)) hfound hid.symm

/-- The committee is not one of its posts. -/
theorem committee_not_post (hdb : db.Valid) {committee : Role}
    (hfound : db.roleByKey serviceCommitteeKey = some committee) :
    committee.id ∉ db.committeePostIds := by
  intro hmem
  obtain ⟨key, hkey, post, hpost, hid⟩ := mem_committeePostIds.mp hmem
  obtain ⟨hcommitteeMem, hcommitteeKey⟩ := RoleDb.roleByKey_mem hfound
  obtain ⟨hpostMem, hpostKey⟩ := RoleDb.roleByKey_mem hpost
  have hsame : key = serviceCommitteeKey := by
    rw [← hpostKey, hdb.eq_of_id hpostMem hcommitteeMem hid, hcommitteeKey]
  exact ne_committee_of_post (mem_postKeys_iff.mp hkey) hsame

/-- **The sync establishes the law.** -/
theorem sync_committeeIsLeaders (hdb : db.Valid) (hseeded : Seeded db) :
    CommitteeIsLeaders (syncServiceCommitteeMembers db) := by
  obtain ⟨rows, hframe⟩ := sync_frame db
  have hroles : ∀ key, (syncServiceCommitteeMembers db).roleByKey key = db.roleByKey key := by
    intro key
    rw [hframe]
    rfl
  intro committee hfound userId
  rw [hroles] at hfound
  have hposts : db.committeePostIds ≠ [] := by
    obtain ⟨post, hpost, _⟩ := hseeded.roleByKey hdb
      (show "coordinator" ∈ seededRoleKeys by decide)
    exact List.ne_nil_of_mem (mem_committeePostIds.mpr ⟨"coordinator", by decide, post, hpost, rfl⟩)
  rw [sync_committee hfound hposts]
  have hids : (syncServiceCommitteeMembers db).committeePostIds = db.committeePostIds :=
    committeePostIds_congr fun key _ => by rw [hroles]
  unfold RoleDb.LeadsPost
  rw [hids]
  constructor
  · rintro ⟨a, ha, huser, hleader, hpost⟩
    refine ⟨a, (mem_sync_of_ne ?_).mpr ha, huser, hleader, hpost⟩
    intro c hc hid
    exact committee_not_post hdb hc (hid ▸ hpost)
  · rintro ⟨a, ha, huser, hleader, hpost⟩
    refine ⟨a, (mem_sync_of_ne ?_).mp ha, huser, hleader, hpost⟩
    intro c hc hid
    exact committee_not_post hdb hc (hid ▸ hpost)

/-- A sync after a seat of a post establishes the law; after any other seat it does nothing. -/
theorem syncAfter_committeeIsLeaders (hdb : db.Valid) (hseeded : Seeded db) {role : Role}
    (h : isServiceCommitteePostKey role.key = false → CommitteeIsLeaders db) :
    CommitteeIsLeaders (db.syncAfter role) := by
  unfold RoleDb.syncAfter
  split
  · exact sync_committeeIsLeaders hdb hseeded
  · next hpost => exact h (by simpa using hpost)

end Rows

/-! ## Requests -/

/-- The requests that seat, unseat and reshape. -/
def Request.Staffs : Request → Prop
  | .seatMember .. | .unseatMember .. | .addUserToRole .. | .removeUserFromRole ..
  | .setUserCustomRoleAssignments .. | .setRoleSinglePerson .. | .deleteRole ..
  | .adoptServiceCommittee .. => True
  | _ => False

/-- The request puts nobody on the committee, and takes nobody off it, by hand: when it passes its
checks on the committee role, the account is already where it is asked to be. -/
def Request.SparesCommittee (db : RoleDb) : Request → Prop
  | .seatMember roleId memberId kind actor =>
    ∀ role userId, seatMemberChecks db roleId memberId kind actor = .ok (role, userId) →
      role.key = serviceCommitteeKey → db.Seated userId role.id
  | .addUserToRole userId roleId actor =>
    ∀ role added, db.roleById roleId = some role → role.key = serviceCommitteeKey →
      addUserToRoleChecks db userId role actor = .ok added → db.Seated userId role.id
  | .unseatMember roleId memberId actor =>
    ∀ role userId, unseatMemberChecks db roleId memberId actor = .ok (role, userId) →
      role.key = serviceCommitteeKey → ¬db.Seated userId role.id
  | .removeUserFromRole userId roleId actor =>
    ∀ role removed, db.roleById roleId = some role → role.key = serviceCommitteeKey →
      removeUserFromRoleChecks db userId role actor = .ok removed → ¬db.Seated userId role.id
  | _ => True

section Runs

variable {u : Unicode} {db db' start s : RoleDb} {request : Request} {role : Role}

/-- A role that is not appointed is none of the appointed roles. -/
theorem ne_of_not_appointed (hdb : db.Valid) (hrole : role ∈ db.roles)
    (hfree : isAppointedRoleKey role.key = false) {key : String} {other : Role}
    (hkey : isAppointedRoleKey key = true) (hfound : db.roleByKey key = some other) :
    other.id ≠ role.id := by
  obtain ⟨hmem, hotherKey⟩ := RoleDb.roleByKey_mem hfound
  intro hid
  rw [← hotherKey, hdb.eq_of_id hmem hrole hid, hfree] at hkey
  exact Bool.noConfusion hkey

/-- A post is not a row of any other role. -/
theorem ne_of_post (hdb : db.Valid) (hrole : role ∈ db.roles)
    (hpost : isServiceCommitteePostKey role.key = false) {roleId : Nat}
    (hmem : roleId ∈ db.committeePostIds) : roleId ≠ role.id := by
  obtain ⟨key, hkey, post, hfound, rfl⟩ := mem_committeePostIds.mp hmem
  obtain ⟨hpostMem, hpostKey⟩ := RoleDb.roleByKey_mem hfound
  intro hid
  rw [← hdb.eq_of_id hpostMem hrole hid, hpostKey, mem_postKeys_iff.mp hkey] at hpost
  exact Bool.noConfusion hpost

theorem committee_key (hdb : db.Valid) {committee : Role}
    (hfound : db.roleByKey serviceCommitteeKey = some committee) (hrole : role ∈ db.roles)
    (hid : committee.id = role.id) : role.key = serviceCommitteeKey := by
  obtain ⟨hmem, hkey⟩ := RoleDb.roleByKey_mem hfound
  rw [← hdb.eq_of_id hmem hrole hid, hkey]

/-- Seating someone in a role that is not a post keeps the law, unless the role is the committee and
the account is new to it. -/
theorem placeSeat_committeeIsLeaders (hdb : db.Valid) (hseeded : Seeded db)
    (h : CommitteeIsLeaders db) (hrole : role ∈ db.roles)
    (hpost : isServiceCommitteePostKey role.key = false) {userId : Nat} {kind : SeatKind}
    (hcommittee : role.key = serviceCommitteeKey → db.Seated userId role.id) :
    CommitteeIsLeaders (db.placeSeat role userId kind) := by
  refine h.congr (fun key _ => by rw [roleByKey_placeSeat]) ?_ ?_
  · intro committee hfound account
    obtain ⟨hmem, hkey⟩ := RoleDb.roleByKey_mem hfound
    by_cases hid : committee.id = role.id
    · -- the committee itself, which has no single titulaire to sweep
      have hsame : committee = role := hdb.eq_of_id hmem hrole hid
      have hsingle : role.isSingle = false := by
        obtain ⟨c, hc, _, hshape⟩ := hseeded.roleByKey hdb
          (show serviceCommitteeKey ∈ seededRoleKeys by decide)
        rw [hfound, Option.some.injEq] at hc
        rw [Role.isSingle, hpost, ← hsame, hc, hshape]
        rfl
      rw [hid]
      constructor
      · rintro ⟨a, ha, huser, hrow⟩
        rcases (mem_placeSeat hdb).mp ha with rfl | ⟨ha, _⟩
        · rw [← huser]
          exact hcommittee (by rw [← hsame, hkey])
        · exact ⟨a, ha, huser, hrow⟩
      · rintro ⟨a, ha, huser, hrow⟩
        by_cases hpair : a.userId = userId ∧ a.roleId = role.id
        · exact ⟨_, (mem_placeSeat hdb).mpr (.inl rfl), by rw [← huser, hpair.1], rfl⟩
        · refine ⟨a, (mem_placeSeat hdb).mpr (.inr ⟨ha, hpair, ?_⟩), huser, hrow⟩
          rintro ⟨hcontra, _⟩
          rw [hsingle] at hcontra
          exact Bool.noConfusion hcontra
    · exact seated_placeSeat_of_ne hdb hid
  · intro a _ hmem
    have hne := ne_of_post hdb hrole hpost hmem
    rw [mem_placeSeat hdb]
    constructor
    · rintro (rfl | ⟨ha, _⟩)
      · exact absurd rfl hne
      · exact ha
    · intro ha
      exact .inr ⟨ha, fun hpair => hne hpair.2, fun hsweep => hne hsweep.2.2.1⟩

/-- Removing seats of a role that is not a post keeps the law, unless they were the committee's. -/
theorem deleteSeats_committeeIsLeaders (h : CommitteeIsLeaders db)
    {sel : UserRoleAssignment → Bool}
    (hcommittee : ∀ a ∈ db.userRoleAssignments, sel a = true →
      ∀ committee, db.roleByKey serviceCommitteeKey = some committee → a.roleId ≠ committee.id)
    (hposts : ∀ a ∈ db.userRoleAssignments, sel a = true → a.kind = .leader →
      a.roleId ∉ db.committeePostIds) : CommitteeIsLeaders (db.deleteSeats sel) := by
  refine h.congr (fun key _ => rfl) ?_ ?_
  · intro committee hfound userId
    rw [seated_deleteSeats]
    constructor
    · rintro ⟨a, ha, _, huser, hrole⟩
      exact ⟨a, ha, huser, hrole⟩
    · rintro ⟨a, ha, huser, hrole⟩
      refine ⟨a, ha, ?_, huser, hrole⟩
      rw [← Bool.not_eq_true]
      exact fun hsel => hcommittee a ha hsel committee hfound hrole
  · intro a hleader hpost
    rw [RoleDb.deleteSeats_userRoleAssignments, List.mem_filter, Bool.not_eq_true',
      ← Bool.not_eq_true]
    exact ⟨fun h => h.1, fun ha => ⟨ha, fun hsel => hposts a ha hsel hleader hpost⟩⟩

/-- A custom role is not appointed: the appointed ones are built in. -/
theorem custom_not_appointed (hdb : db.Valid) (hseeded : Seeded db) (hrole : role ∈ db.roles)
    (hcustom : role.isBuiltIn = false) : isAppointedRoleKey role.key = false := by
  rw [← Bool.not_eq_true]
  intro happointed
  have hbuiltIn := (hseeded.of_mem hdb hrole (appointed_mem_seededRoleKeys happointed)).1
  rw [hcustom] at hbuiltIn
  exact Bool.noConfusion hbuiltIn

/-- A checkbox offers no appointed role: those are built in, and not system roles. -/
theorem assignable_not_appointed (hdb : db.Valid) (hseeded : Seeded db) (hrole : role ∈ db.roles)
    (hassignable : accountAssignableRole role = true) : isAppointedRoleKey role.key = false := by
  unfold accountAssignableRole at hassignable
  simp only [Bool.and_eq_true, Bool.or_eq_true, Bool.not_eq_true'] at hassignable
  rcases hassignable.2 with hcustom | hsystem
  · exact custom_not_appointed hdb hseeded hrole hcustom
  · have hkey : role.key = "admin" := by simpa [systemRoleKeys] using hsystem
    rw [hkey]
    decide

/-- **Each request keeps the law**, unless it puts an account on the committee, or takes one off it,
by hand. -/
theorem Effect.committeeIsLeaders (h : Effect u db request db') (hdb : db.Valid)
    (hseeded : Seeded db) (hlaw : CommitteeIsLeaders db) (hstaffs : request.Staffs)
    (hspares : request.SparesCommittee db) : CommitteeIsLeaders db' := by
  cases h with
  | @seatMember roleId memberId userId kind actor role hchecks =>
    have hmem := (RoleDb.roleById_mem (seatMemberChecks_ok hchecks).1).1
    refine syncAfter_committeeIsLeaders (hdb.placeSeat hmem)
      (hseeded.sameRoles (.of_seats (placeSeat_frame ..))) fun hpost => ?_
    exact placeSeat_committeeIsLeaders hdb hseeded hlaw hmem hpost (hspares role userId hchecks)
  | @unseatMember roleId memberId userId actor role hchecks =>
    have hmem := (RoleDb.roleById_mem (unseatMemberChecks_ok hchecks).1).1
    refine syncAfter_committeeIsLeaders (hdb.deleteSeats _) hseeded fun hpost => ?_
    refine deleteSeats_committeeIsLeaders hlaw ?_ ?_
    · intro a ha hsel committee hfound hrow
      simp only [Bool.and_eq_true, beq_iff_eq] at hsel
      have hkey := committee_key hdb hfound hmem (hrow.symm.trans hsel.2)
      exact hspares role userId hchecks hkey ⟨a, ha, hsel⟩
    · intro a ha hsel _ hpostRow
      simp only [Bool.and_eq_true, beq_iff_eq] at hsel
      exact ne_of_post hdb hmem hpost hpostRow hsel.2
  | @addUserToRole userId roleId actor role hrole hidentity hsingle hnew hchecks =>
    have hmem := (RoleDb.roleById_mem hrole).1
    have hfree : isAppointedRoleKey role.key = false := by
      rw [← Bool.not_eq_true]
      intro happointed
      rcases isAppointedRoleKey_iff.mp happointed with hkey | hpost
      · exact hnew (hspares role true hrole hkey hchecks)
      · have hshape := (hseeded.of_mem hdb hmem (appointed_mem_seededRoleKeys happointed)).2
        rw [hsingle, hpost] at hshape
        exact Bool.noConfusion hshape
    refine hlaw.of_rows (fun _ _ => rfl) fun a key other hkey hfound hrow => ?_
    have hne := ne_of_not_appointed hdb hmem hfree hkey hfound
    rw [RoleDb.createSeats_userRoleAssignments, List.mem_append, List.mem_singleton]
    refine or_iff_left ?_
    rintro rfl
    exact hne hrow.symm
  | @removeUserFromRole userId roleId actor role existing hrole hseat hkind hchecks =>
    have hmem := (RoleDb.roleById_mem hrole).1
    obtain ⟨hexisting, huser, hexistingRole⟩ := RoleDb.seat_mem hseat
    refine deleteSeats_committeeIsLeaders hlaw ?_ ?_
    · intro a ha hsel committee hfound hrow
      simp only [Bool.and_eq_true, beq_iff_eq] at hsel
      have hkey := committee_key hdb hfound hmem (hrow.symm.trans hsel.2)
      exact hspares role true hrole hkey hchecks ⟨a, ha, hsel⟩
    · intro a ha hsel hleader _
      simp only [Bool.and_eq_true, beq_iff_eq] at hsel
      have hsame := hdb.seat_unique ha hexisting (hsel.1.trans huser.symm)
        (hsel.2.trans hexistingRole.symm)
      rw [hsame, hkind] at hleader
      cases hleader
  | @setUserCustomRoleAssignments userId ids added removed actor hdiff =>
    obtain ⟨_, hadded, hremoved⟩ := customRoleDiff_spec hdiff
    refine hlaw.of_rows (fun _ _ => rfl) fun a key other hkey hfound hrow => ?_
    have hassignable : a.roleId ∉ db.assignableIds := by
      intro hmem
      obtain ⟨r, hr, hr', hid⟩ := mem_assignableIds.mp hmem
      exact ne_of_not_appointed hdb hr (assignable_not_appointed hdb hseeded hr hr') hkey hfound
        (hrow.symm.trans hid.symm)
    simp only [RoleDb.deleteSeats_userRoleAssignments, RoleDb.createSeats_userRoleAssignments,
      List.mem_filter, List.mem_append, List.mem_map, Bool.not_eq_true', Bool.and_eq_false_iff,
      List.contains_eq_mem, decide_eq_false_iff_not]
    constructor
    · rintro ⟨ha | ⟨id, hid, rfl⟩, _⟩
      · exact ha
      · exact absurd ((hadded id).mp hid).2.1 hassignable
    · exact fun ha => ⟨.inl ha, .inr fun h => hassignable ((hremoved _).mp h).2.1⟩
  | setRoleSinglePerson hrole hcustom hleaders _ =>
    refine hlaw.of_rows (fun key _ => ?_) fun _ _ _ _ _ _ => Iff.rfl
    refine RoleDb.roleByKey_id_updateRoles ?_ ?_
    · exact fun _ => rfl
    · exact fun _ => rfl
  | deleteRole hrole hcustom hleaf =>
    obtain ⟨hmem, _⟩ := RoleDb.roleById_mem hrole
    refine hlaw.of_rows (fun key hkey => ?_) fun a key other hkey hfound hrow => ?_
    · rw [hseeded.roleByKey_deleteRole hdb hmem hcustom (appointed_mem_seededRoleKeys hkey)]
    · have hne := ne_of_not_appointed hdb hmem (custom_not_appointed hdb hseeded hmem hcustom) hkey
        hfound
      rw [RoleDb.deleteRole_userRoleAssignments, List.mem_filter, bne_iff_ne, hrow]
      exact and_iff_left hne
  | adoptServiceCommittee hchecks hcarried _ =>
    obtain ⟨hvalid, hsame⟩ := adopt_valid hdb hchecks hcarried
    exact sync_committeeIsLeaders hvalid (hseeded.sameRoles hsame)
  | _ => exact absurd hstaffs id

/-- **Committee membership is the leaders of its posts** in every run of requests that leave the
committee's own seats to the sync. -/
theorem committeeMembers_of_run (hstart : start.Valid) (hseeded : Seeded start)
    (hlaw : CommitteeIsLeaders start)
    (hrun : Reach (step u) (fun db request => request.Staffs ∧ request.SparesCommittee db) start s) :
    CommitteeIsLeaders s := by
  suffices hinv : (s.Valid ∧ Seeded s) ∧ CommitteeIsLeaders s from hinv.2
  refine hrun.invariant (I := fun s => (s.Valid ∧ Seeded s) ∧ CommitteeIsLeaders s)
    ⟨⟨hstart, hseeded⟩, hlaw⟩ ?_
  rintro s request ⟨hkept, hs⟩ ⟨hstaffs, hspares⟩
  refine ⟨step_keeps u request hkept, ?_⟩
  rcases step_effect u hkept.1 request with hsame | heffect
  · rw [hsame]
    exact hs
  · exact heffect.committeeIsLeaders hkept.1 hkept.2 hs hstaffs hspares

end Runs

/-- A new congregation with one elder, member 30, who signs in as account 20. The committee is
role 12, the coordinator's post role 13. -/
def oneElder : RoleDb :=
  { seededCongregation with
    accounts := [⟨20, some 30, none, none, "elder", true, none⟩]
    members := [⟨30, "", "", some true, true, some 0, false, true, false, none, none, none, []⟩]
    memberRoleAssignments := [⟨30, 8⟩] }

set_option maxRecDepth 4000 in
theorem oneElder_kept : oneElder.Valid ∧ Seeded oneElder := by decide

theorem oneElder_law : CommitteeIsLeaders oneElder := by
  intro committee _ userId
  constructor
  · rintro ⟨a, ha, _⟩
    exact absurd ha List.not_mem_nil
  · rintro ⟨a, ha, _⟩
    exact absurd ha List.not_mem_nil

set_option maxRecDepth 4000 in
/-- Seating someone in the committee role itself puts on the committee an account that leads no
post. -/
theorem committee_seated_by_hand :
    (oneElder.Valid ∧ Seeded oneElder ∧ CommitteeIsLeaders oneElder) ∧
      Reach (step .lowerAscii) (fun _ request => request.Staffs) oneElder
        (step .lowerAscii oneElder (.seatMember 12 30 .member [canDoAnything])) ∧
      ¬CommitteeIsLeaders (step .lowerAscii oneElder (.seatMember 12 30 .member [canDoAnything])) := by
  refine ⟨⟨oneElder_kept.1, oneElder_kept.2, oneElder_law⟩, .one trivial, ?_⟩
  intro hlaw
  have hfound : (step .lowerAscii oneElder (.seatMember 12 30 .member [canDoAnything])).roleByKey
      serviceCommitteeKey = some (builtInRole serviceCommitteeKey 12) := by decide
  exact absurd ((hlaw _ hfound 20).mp (by decide)) (by decide)

set_option maxRecDepth 4000 in
/-- Seating the elder as coordinator keeps the law. -/
theorem committeeMembers_of_run_coordinator :
    CommitteeIsLeaders (step .lowerAscii oneElder (.seatMember 13 30 .leader [canDoAnything])) :=
  committeeMembers_of_run oneElder_kept.1 oneElder_kept.2 oneElder_law
    (.one ⟨trivial, by
      intro role userId hchecks hkey
      obtain ⟨hmem, hid⟩ := RoleDb.roleById_mem (seatMemberChecks_ok hchecks).1
      have hpost : ∀ r ∈ oneElder.roles, r.id = 13 → r.key ≠ serviceCommitteeKey := by decide
      exact absurd hkey (hpost role hmem hid)⟩)

end Unitae.Roles
