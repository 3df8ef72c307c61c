import Unitae.Base.Run
import Unitae.Base.Table
import Unitae.Publishers.Groups

/-!
# Unitae — group leaders belong to the group they lead

Leadership is written on the group, membership on the member. The group services move the leaders they
write, and `setGroup` refuses to take a leader away; the identity form writes the group of a member with no
such question. So the two sides agree in every run in which that form leaves each leader where the group is.
-/

namespace Unitae.Publishers

/-- The member is the group's overseer or its deputy. -/
def PublisherGroup.Leads (g : PublisherGroup) (p : Nat) : Prop :=
  g.responsibleId = p ∨ g.deputyId = some p

instance (g : PublisherGroup) (p : Nat) : Decidable (g.Leads p) :=
  inferInstanceAs (Decidable (_ ∨ _))

/-- The leaders of a group are two people, members of it, and lead no other. -/
structure LeadersBelong (db : MemberDb) : Prop where
  distinct : ∀ g ∈ db.groups, g.deputyId ≠ some g.responsibleId
  joined : ∀ g ∈ db.groups, ∀ p, g.Leads p →
    ∃ m ∈ db.members, m.id = p ∧ m.publisherGroupId = some g.id
  one : ∀ g ∈ db.groups, ∀ g' ∈ db.groups, ∀ p, g.Leads p → g'.Leads p → g.id = g'.id

/-- The primary keys and their sequences, and the leaders. -/
structure GroupsSound (db : MemberDb) : Prop where
  members_keyed : Keyed Member.id db.members
  members_lt : ∀ m ∈ db.members, m.id < db.nextMemberId
  groups_keyed : Keyed PublisherGroup.id db.groups
  groups_lt : ∀ g ∈ db.groups, g.id < db.nextGroupId
  leaders : LeadersBelong db

/-! ## The writes -/

section Writes

variable {db db' : MemberDb} {p groupId : Nat}

theorem memberById_mem {m : Member} (h : db.memberById p = some m) : m ∈ db.members ∧ m.id = p :=
  ⟨List.mem_of_find?_eq_some h, by simpa using List.find?_some h⟩

theorem memberOrRefuse_ok {m : Member} {e : Failure} (h : db.memberOrRefuse p e = .ok m) :
    m ∈ db.members ∧ m.id = p := by
  unfold MemberDb.memberOrRefuse at h
  cases hfound : db.memberById p with
  | none => simp [hfound] at h
  | some member =>
    rw [hfound] at h
    rw [← Except.ok.inj h]
    exact memberById_mem hfound

/-- The group a leader leads is the leader's group. -/
theorem GroupsSound.group_of_leader (h : GroupsSound db) {g : PublisherGroup} {m : Member}
    (hg : g ∈ db.groups) (hm : m ∈ db.members) (hlead : g.Leads m.id) :
    m.publisherGroupId = some g.id := by
  obtain ⟨m', hm', hid, hgroup⟩ := h.leaders.joined g hg m.id hlead
  rw [← h.members_keyed.eq_of_key hm' hm hid]
  exact hgroup

/-- The tables that matter, unchanged. -/
theorem GroupsSound.congr (h : GroupsSound db) (hmembers : db'.members = db.members)
    (hgroups : db'.groups = db.groups) (hnextMember : db'.nextMemberId = db.nextMemberId)
    (hnextGroup : db'.nextGroupId = db.nextGroupId) : GroupsSound db' := by
  refine ⟨?_, ?_, ?_, ?_, ?_, ?_, ?_⟩
  · rw [hmembers]
    exact h.members_keyed
  · rw [hmembers, hnextMember]
    exact h.members_lt
  · rw [hgroups]
    exact h.groups_keyed
  · rw [hgroups, hnextGroup]
    exact h.groups_lt
  · rw [hgroups]
    exact h.leaders.distinct
  · rw [hgroups, hmembers]
    exact h.leaders.joined
  · rw [hgroups]
    exact h.leaders.one

theorem GroupsSound.sync (h : GroupsSound db) (memberId : Nat) :
    GroupsSound (syncBuiltInRoleAssignments memberId db) :=
  h.congr rfl rfl rfl rfl

/-- A rewrite of one member that leaves a leader in the group. -/
theorem GroupsSound.rewriteMember (h : GroupsSound db) {data : Member → Member}
    (hid : ∀ m, (data m).id = m.id)
    (hgroup : ∀ m ∈ db.members, m.id = p → ∀ g ∈ db.groups, g.Leads p →
      (data m).publisherGroupId = some g.id) : GroupsSound (db.updateMember p data) := by
  have hsame : ∀ m : Member, (if m.id = p then data m else m).id = m.id := fun m => column_ite (hid m)
  refine ⟨h.members_keyed.map hsame, ?_, h.groups_keyed, h.groups_lt, h.leaders.distinct, ?_,
    h.leaders.one⟩
  · intro m' hm'
    obtain ⟨m, hm, rfl⟩ := List.mem_map.mp hm'
    rw [hsame]
    exact h.members_lt m hm
  · intro g hg q hlead
    obtain ⟨m, hm, hmid, hmgroup⟩ := h.leaders.joined g hg q hlead
    refine ⟨_, List.mem_map_of_mem hm, (hsame m).trans hmid, ?_⟩
    by_cases hp : m.id = p
    · rw [if_pos hp]
      exact hgroup m hm hp g hg (by rw [← hp, hmid]; exact hlead)
    · rw [if_neg hp]
      exact hmgroup

/-- A rewrite that does not touch the group of the member. -/
theorem GroupsSound.rewriteOther (h : GroupsSound db) {data : Member → Member}
    (hid : ∀ m, (data m).id = m.id) (hgroup : ∀ m, (data m).publisherGroupId = m.publisherGroupId) :
    GroupsSound (db.updateMember p data) := by
  refine h.rewriteMember hid fun m hm hmid g hg hlead => ?_
  rw [hgroup]
  exact h.group_of_leader hg hm (by rw [hmid]; exact hlead)

/-- A new member leads nothing yet. -/
theorem GroupsSound.insert (h : GroupsSound db) {row : Nat → Member} (hid : ∀ n, (row n).id = n) :
    GroupsSound (db.createMember row) := by
  refine ⟨h.members_keyed.append_next h.members_lt (hid _), lt_append_next h.members_lt (hid _), h.groups_keyed,
    h.groups_lt, h.leaders.distinct, ?_, h.leaders.one⟩
  · intro g hg q hlead
    obtain ⟨m, hm, hmine⟩ := h.leaders.joined g hg q hlead
    exact ⟨m, List.mem_append_left _ hm, hmine⟩

theorem GroupsSound.deleteGroup (h : GroupsSound db) : GroupsSound (db.deleteGroup groupId) := by
  have hsame : ∀ m : Member, (if m.publisherGroupId = some groupId then
      { m with publisherGroupId := none } else m).id = m.id := by
    intro m
    split <;> rfl
  refine ⟨h.members_keyed.map hsame, ?_, h.groups_keyed.filter _, ?_, ?_, ?_, ?_⟩
  · intro m' hm'
    obtain ⟨m, hm, rfl⟩ := List.mem_map.mp hm'
    rw [hsame]
    exact h.members_lt m hm
  · exact fun g hg => h.groups_lt g (List.mem_of_mem_filter hg)
  · exact fun g hg => h.leaders.distinct g (List.mem_of_mem_filter hg)
  · intro g hg p hlead
    obtain ⟨hgroup, hother⟩ := List.mem_filter.mp hg
    obtain ⟨m, hm, hmid, hmgroup⟩ := h.leaders.joined g hgroup p hlead
    refine ⟨_, List.mem_map_of_mem hm, (hsame m).trans hmid, ?_⟩
    -- a leader of another group is in that group, so the deletion passes the leader by
    rw [if_neg fun hdeleted => ?_]
    · exact hmgroup
    · rw [hmgroup] at hdeleted
      simp [Option.some.inj hdeleted] at hother
  · exact fun g hg g' hg' => h.leaders.one g (List.mem_of_mem_filter hg) g' (List.mem_of_mem_filter hg')

/-- A deputy steps down. -/
theorem GroupsSound.clearDeputy (h : GroupsSound db) :
    GroupsSound (db.updateGroups (·.deputyId == some p) fun g => { g with deputyId := none }) := by
  have hrow : ∀ g' ∈ (db.updateGroups (·.deputyId == some p)
      fun g => { g with deputyId := none }).groups, ∃ g ∈ db.groups, g'.id = g.id ∧
        g'.responsibleId = g.responsibleId ∧ (g'.deputyId = none ∨ g' = g) := by
    intro g' hg'
    obtain ⟨g, hg, rfl⟩ := List.mem_map.mp hg'
    refine ⟨g, hg, ?_⟩
    split
    · exact ⟨rfl, rfl, .inl rfl⟩
    · exact ⟨rfl, rfl, .inr rfl⟩
  have hleads : ∀ g g' : PublisherGroup, g'.responsibleId = g.responsibleId →
      (g'.deputyId = none ∨ g' = g) → ∀ q, g'.Leads q → g.Leads q := by
    intro g g' hresp hdeputy q hlead
    rcases hdeputy with hnone | rfl
    · rcases hlead with hlead | hlead
      · exact .inl (hresp.symm.trans hlead)
      · rw [hnone] at hlead
        cases hlead
    · exact hlead
  refine ⟨h.members_keyed, h.members_lt, h.groups_keyed.map ?_, ?_, ?_, ?_, ?_⟩
  · intro g
    split <;> rfl
  · intro g' hg'
    obtain ⟨g, hg, hid, _⟩ := hrow g' hg'
    rw [hid]
    exact h.groups_lt g hg
  · intro g' hg'
    obtain ⟨g, hg, _, _, hnone | rfl⟩ := hrow g' hg'
    · rw [hnone]
      exact (Option.some_ne_none _).symm
    · exact h.leaders.distinct g' hg
  · intro g' hg' q hlead
    obtain ⟨g, hg, hid, hresp, hdeputy⟩ := hrow g' hg'
    rw [hid]
    exact h.leaders.joined g hg q (hleads g g' hresp hdeputy q hlead)
  · intro g₁' hg₁' g₂' hg₂' q hlead₁ hlead₂
    obtain ⟨g₁, hg₁, hid₁, hresp₁, hdeputy₁⟩ := hrow g₁' hg₁'
    obtain ⟨g₂, hg₂, hid₂, hresp₂, hdeputy₂⟩ := hrow g₂' hg₂'
    rw [hid₁, hid₂]
    exact h.leaders.one g₁ hg₁ g₂ hg₂ q (hleads g₁ g₁' hresp₁ hdeputy₁ q hlead₁)
      (hleads g₂ g₂' hresp₂ hdeputy₂ q hlead₂)

/-- The group `row` is written, its leaders being in it already and free of any other. -/
theorem GroupsSound.writeGroup (h : GroupsSound db) {row : PublisherGroup}
    (hmembers : db'.members = db.members) (hnext : db'.nextMemberId = db.nextMemberId)
    (hkeyed : Keyed PublisherGroup.id db'.groups) (hlt : ∀ g ∈ db'.groups, g.id < db'.nextGroupId)
    (hgroups : ∀ g ∈ db'.groups, g ∈ db.groups ∧ g.id ≠ row.id ∨ g = row)
    (hdistinct : row.deputyId ≠ some row.responsibleId)
    (hjoined : ∀ p, row.Leads p → ∃ m ∈ db.members, m.id = p ∧ m.publisherGroupId = some row.id)
    (hfree : ∀ p, row.Leads p → ∀ g ∈ db.groups, g.Leads p → g.id = row.id) : GroupsSound db' := by
  refine ⟨?_, ?_, hkeyed, hlt, ?_, ?_, ?_⟩
  · rw [hmembers]
    exact h.members_keyed
  · rw [hmembers, hnext]
    exact h.members_lt
  · intro g hg
    rcases hgroups g hg with ⟨hold, _⟩ | rfl
    · exact h.leaders.distinct g hold
    · exact hdistinct
  · intro g hg p hlead
    rw [hmembers]
    rcases hgroups g hg with ⟨hold, _⟩ | rfl
    · exact h.leaders.joined g hold p hlead
    · exact hjoined p hlead
  · intro g hg g' hg' p hlead hlead'
    rcases hgroups g hg with ⟨hold, hother⟩ | rfl
    · rcases hgroups g' hg' with ⟨hold', _⟩ | rfl
      · exact h.leaders.one g hold g' hold' p hlead hlead'
      · exact absurd (hfree p hlead' g hold hlead) hother
    · rcases hgroups g' hg' with ⟨hold', hother⟩ | rfl
      · exact absurd (hfree p hlead g' hold' hlead') hother
      · rfl

end Writes

/-! ## Placing a member in a group -/

section Place

variable {rt : PersonText} {db db' : MemberDb} {p q gid : Nat} {groupId : Option Nat}

/-- The member is in the group. -/
def MemberDb.InGroup (db : MemberDb) (p gid : Nat) : Prop :=
  ∃ m ∈ db.members, m.id = p ∧ m.publisherGroupId = some gid

theorem inGroup_place (h : ∃ m ∈ db.members, m.id = p) : (db.place p (some gid)).InGroup p gid := by
  obtain ⟨m, hm, hid⟩ := h
  refine ⟨_, List.mem_map_of_mem hm, ?_, ?_⟩
  · rw [if_pos hid]
    exact hid
  · rw [if_pos hid]

theorem InGroup.place (h : db.InGroup q gid) : (db.place p (some gid)).InGroup q gid := by
  obtain ⟨m, hm, hid, hgroup⟩ := h
  refine ⟨_, List.mem_map_of_mem hm, ?_, ?_⟩
  · split <;> exact hid
  · split
    · rfl
    · exact hgroup

theorem exists_place (h : ∃ m ∈ db.members, m.id = q) :
    ∃ m ∈ (db.place p groupId).members, m.id = q := by
  obtain ⟨m, hm, hid⟩ := h
  refine ⟨_, List.mem_map_of_mem hm, ?_⟩
  split <;> exact hid

/-- A member whose every group led is `gid` may be placed there. -/
theorem GroupsSound.place (h : GroupsSound db)
    (hled : ∀ g ∈ db.groups, g.Leads p → some g.id = groupId) : GroupsSound (db.place p groupId) :=
  h.rewriteMember (fun _ => rfl) fun _ _ _ g hg hlead => (hled g hg hlead).symm

theorem place_same (hkeyed : Keyed Member.id db.members) {m : Member} (hm : m ∈ db.members)
    (hid : m.id = p) (hgroup : m.publisherGroupId = groupId) : db.place p groupId = db := by
  have hrows : (db.members.map fun r =>
      if r.id = p then { r with publisherGroupId := groupId } else r) = db.members := by
    refine (List.map_congr_left (g := id) fun r hr => ?_).trans (List.map_id _)
    split
    · next hrid =>
      obtain rfl : r = m := hkeyed.eq_of_key hr hm (hrid.trans hid.symm)
      rw [← hgroup]
      rfl
    · rfl
  unfold MemberDb.place MemberDb.updateMember
  rw [hrows]

/-! ### Who leads what -/

theorem led_leads {led : PublisherGroup} (h : db.led p = some led) :
    led ∈ db.groups ∧ led.Leads p := by
  unfold MemberDb.led at h
  cases hresp : db.responsibleFor p with
  | some g =>
    rw [hresp] at h
    obtain rfl : g = led := Option.some.inj h
    exact ⟨List.mem_of_find?_eq_some hresp, .inl (by simpa using List.find?_some hresp)⟩
  | none =>
    rw [hresp] at h
    have hdeputy : db.deputyFor p = some led := h
    exact ⟨List.mem_of_find?_eq_some hdeputy, .inr (by simpa using List.find?_some hdeputy)⟩

theorem led_none (h : db.led p = none) {g : PublisherGroup} (hg : g ∈ db.groups) : ¬g.Leads p := by
  unfold MemberDb.led at h
  cases hresp : db.responsibleFor p with
  | some g' => simp [hresp] at h
  | none =>
    rw [hresp] at h
    have hdeputy : db.deputyFor p = none := h
    intro hlead
    rcases hlead with hlead | hlead
    · exact absurd (List.find?_eq_none.mp hresp g hg) (by simp [hlead])
    · exact absurd (List.find?_eq_none.mp hdeputy g hg) (by simp [hlead])

/-- What the guard of `setGroup` says of every group the member leads. -/
theorem GroupsSound.refuseLeader_ok (h : GroupsSound db) {m : Member}
    (hchecked : refuseLeader rt db m groupId = .ok ()) {g : PublisherGroup} (hg : g ∈ db.groups)
    (hlead : g.Leads m.id) : some g.id = groupId := by
  unfold refuseLeader at hchecked
  cases hled : db.led m.id with
  | none => exact absurd hlead (led_none hled hg)
  | some led =>
    rw [hled] at hchecked
    have hsame : some led.id = groupId := not_not.mp (Tx.refuseWhen_ok.mp hchecked)
    obtain ⟨hmem, hleads⟩ := led_leads hled
    rw [← hsame, h.leaders.one g hg led hmem m.id hlead hleads]

theorem setGroupChecks_ok {needed : Bool} (h : setGroupChecks rt db p groupId = .ok needed) :
    ∃ m ∈ db.members, m.id = p ∧
      (needed = false ∨ needed = true ∧ refuseLeader rt db m groupId = .ok ()) := by
  unfold setGroupChecks at h
  obtain ⟨m, hfound, h⟩ := Tx.bind_eq_ok.mp h
  obtain ⟨hm, hid⟩ := memberOrRefuse_ok hfound
  refine ⟨m, hm, hid, ?_⟩
  split at h
  · exact .inl (Except.ok.inj h).symm
  · obtain ⟨_, hled, h⟩ := Tx.bind_eq_ok.mp h
    obtain ⟨_, _, h⟩ := Tx.bind_eq_ok.mp h
    exact .inr ⟨(Except.ok.inj h).symm, hled⟩

theorem setGroup_keeps : Tx.Keeps GroupsSound (setGroup rt p groupId) := by
  refine Tx.keeps_checked_bind fun s needed h hchecks => ?_
  obtain ⟨m, _, hid, hno | ⟨hyes, hled⟩⟩ := setGroupChecks_ok hchecks
  · rw [hno]
    exact h
  · rw [hyes]
    subst hid
    exact h.place fun g hg hlead => h.refuseLeader_ok hled hg hlead

/-- A leader of the group alone is let in. -/
theorem setGroup_joins (hkeyed : Keyed Member.id db.members) (hp : ∃ m ∈ db.members, m.id = p)
    (hled : ∀ g ∈ db.groups, g.Leads p → g.id = gid) (hgid : gid ∈ db.groups.map (·.id)) :
    (setGroup rt p (some gid)).exec db = (.ok (), db.place p (some gid)) := by
  obtain ⟨m, hm, hid⟩ := hp
  have hfound : db.memberOrRefuse p (.app (.notFound "Member" none)) = .ok m := by
    have hfind : db.memberById p = some m := hkeyed.find?_eq_some.mpr ⟨hm, hid⟩
    rw [MemberDb.memberOrRefuse, hfind]
  have hfree : refuseLeader rt db m (some gid) = .ok () := by
    unfold refuseLeader
    cases hl : db.led m.id with
    | none => rfl
    | some led =>
      obtain ⟨hmem, hlead⟩ := led_leads hl
      rw [hid] at hlead
      exact Tx.refuseWhen_ok.mpr (not_not.mpr (congrArg some (hled led hmem hlead)))
  have hexists : Tx.refuseWhen (¬db.GroupExists (some gid)) (Failure.database .foreignKey) = .ok () := by
    refine Tx.refuseWhen_ok.mpr (not_not.mpr fun g hg => .inr ?_)
    rw [← Option.some.inj hg]
    exact hgid
  unfold setGroup
  rw [Tx.exec_bind_get, Tx.exec_bind, Tx.exec_check]
  by_cases hgroup : m.publisherGroupId = some gid
  · have hchecks : setGroupChecks rt db p (some gid) = .ok false := by
      unfold setGroupChecks
      rw [hfound]
      exact if_pos hgroup
    rw [hchecks, place_same hkeyed hm hid hgroup]
    rfl
  · have hchecks : setGroupChecks rt db p (some gid) = .ok true := by
      unfold setGroupChecks
      rw [hfound]
      refine (if_neg hgroup).trans ?_
      rw [hfree]
      show (Tx.refuseWhen _ _ >>= fun _ => Except.ok true) = Except.ok true
      rw [hexists]
      rfl
    rw [hchecks]
    rfl

end Place

/-! ## The group services -/

section Services

variable {rt : PersonText} {db db' : MemberDb} {groupId memberId : Nat} {params : UpdateGroupParams}

/-- A leader chosen for the group: a member, who leads no other. -/
structure Free (db : MemberDb) (editing : Option Nat) (p : Nat) : Prop where
  member : ∃ m ∈ db.members, m.id = p
  alone : ∀ g ∈ db.groups, g.Leads p → some g.id = editing

theorem refuseLeading_ok {led : Option PublisherGroup} {editing : Option Nat} {field : String}
    {message : String → String} (h : refuseLeading led editing field message = .ok ()) :
    ∀ g ∈ led, some g.id = editing := by
  intro g hg
  rw [hg] at h
  exact not_not.mp (Tx.refuseWhen_ok.mp h)

theorem assertLeader_ok (hdb : GroupsSound db) {editing : Option Nat} {field : String} {p : Nat}
    (h : assertLeader db editing field p = .ok ()) : Free db editing p := by
  unfold assertLeader at h
  obtain ⟨_, heligible, h⟩ := Tx.bind_eq_ok.mp h
  obtain ⟨_, hresp, hdeputy⟩ := Tx.bind_eq_ok.mp h
  obtain ⟨m, hm, hid, _⟩ := not_not.mp (Tx.refuseWhen_ok.mp heligible)
  refine ⟨⟨m, hm, hid⟩, fun g hg hlead => ?_⟩
  -- the group the check finds first is the only one
  cases hled : db.led p with
  | none => exact absurd hlead (led_none hled hg)
  | some led =>
    obtain ⟨hmem, hleads⟩ := led_leads hled
    rw [hdb.leaders.one g hg led hmem p hlead hleads]
    unfold MemberDb.led at hled
    cases hfound : db.responsibleFor p with
    | some g' =>
      rw [hfound] at hled
      exact refuseLeading_ok hresp led (hfound.trans hled)
    | none =>
      rw [hfound] at hled
      exact refuseLeading_ok hdeputy led hled

/-- What the checks find of the leaders of a form. -/
structure LeadersFree (db : MemberDb) (params : UpdateGroupParams) (editing : Option Nat) : Prop where
  distinct : params.deputyId ≠ some params.responsibleId
  responsible : Free db editing params.responsibleId
  deputy : ∀ d ∈ params.deputyId, Free db editing d

theorem assertGroupLeaders_ok (hdb : GroupsSound db) {editing : Option Nat}
    (h : assertGroupLeaders db (params.leaders editing) = .ok ()) :
    LeadersFree db params editing := by
  unfold assertGroupLeaders UpdateGroupParams.leaders at h
  obtain ⟨_, hdistinct, h⟩ := Tx.bind_eq_ok.mp h
  obtain ⟨_, hresp, h⟩ := Tx.bind_eq_ok.mp h
  refine ⟨Tx.refuseWhen_ok.mp hdistinct, assertLeader_ok hdb hresp, fun d hd => ?_⟩
  have hdeputy : params.deputyId = some d := hd
  simp only [hdeputy] at h
  exact assertLeader_ok hdb h

/-- The members after both leaders joined. -/
def MemberDb.placeLeaders (db : MemberDb) (params : UpdateGroupParams) (gid : Nat) : MemberDb :=
  let joined := db.place params.responsibleId (some gid)
  match params.deputyId with
  | none => joined
  | some d => joined.place d (some gid)

theorem placeLeaders_frame (db : MemberDb) (params : UpdateGroupParams) (gid : Nat) :
    ∃ members, db.placeLeaders params gid = { db with members := members } := by
  unfold MemberDb.placeLeaders
  cases params.deputyId with
  | none => exact ⟨(db.place params.responsibleId (some gid)).members, rfl⟩
  | some d => exact ⟨((db.place params.responsibleId (some gid)).place d (some gid)).members, rfl⟩

/-- Where the leaders go does not depend on the groups written meanwhile. -/
theorem placeLeaders_members (h : db'.members = db.members) (gid : Nat) :
    (db'.placeLeaders params gid).members = (db.placeLeaders params gid).members := by
  unfold MemberDb.placeLeaders MemberDb.place
  cases params.deputyId with
  | none => simp only [MemberDb.updateMember_members, h]
  | some d => simp only [MemberDb.updateMember_members, h]

/-- The leaders of a group just written join it; nothing refuses them. -/
theorem joinLedGroup_joins (hkeyed : Keyed Member.id db.members)
    (hfree : LeadersFree db params (some groupId)) (hgroup : groupId ∈ db.groups.map (·.id)) :
    (joinLedGroup rt groupId params).exec db = (.ok (), db.placeLeaders params groupId) := by
  have halone : ∀ p, Free db (some groupId) p → ∀ g ∈ db.groups, g.Leads p → g.id = groupId :=
    fun p hp g hg hlead => Option.some.inj (hp.alone g hg hlead)
  unfold joinLedGroup MemberDb.placeLeaders
  rw [Tx.exec_bind, setGroup_joins hkeyed hfree.responsible.member
    (halone _ hfree.responsible) hgroup]
  cases hdeputy : params.deputyId with
  | none => rfl
  | some d =>
    have hd : Free db (some groupId) d := hfree.deputy d hdeputy
    refine setGroup_joins (hkeyed.map fun m => ?_) (exists_place hd.member) (halone d hd) hgroup
    split <;> rfl

/-- The state with the leaders placed, before the group names them. -/
theorem GroupsSound.placeLeaders (h : GroupsSound db) (hfree : LeadersFree db params (some groupId)) :
    GroupsSound (db.placeLeaders params groupId) := by
  have hjoined : GroupsSound (db.place params.responsibleId (some groupId)) :=
    h.place hfree.responsible.alone
  unfold MemberDb.placeLeaders
  cases hdeputy : params.deputyId with
  | none => exact hjoined
  | some d => exact hjoined.place (hfree.deputy d hdeputy).alone

theorem inGroup_placeLeaders (hfree : LeadersFree db params (some groupId)) {p : Nat}
    (hp : (params.row groupId).Leads p) : (db.placeLeaders params groupId).InGroup p groupId := by
  have hresp : (db.place params.responsibleId (some groupId)).InGroup params.responsibleId groupId :=
    inGroup_place hfree.responsible.member
  unfold MemberDb.placeLeaders
  cases hdeputy : params.deputyId with
  | none =>
    rcases hp with hp | hp
    · rw [← hp]
      exact hresp
    · have hnone : params.deputyId = some p := hp
      rw [hdeputy] at hnone
      cases hnone
  | some d =>
    rcases hp with hp | hp
    · rw [← hp]
      exact InGroup.place hresp
    · have hsome : params.deputyId = some p := hp
      rw [← Option.some.inj (hdeputy.symm.trans hsome)]
      exact inGroup_place (exists_place (hfree.deputy d hdeputy).member)

/-- A group written with its leaders, whichever of the two was written first. -/
theorem GroupsSound.writeLed (h : GroupsSound db) (hfree : LeadersFree db params (some groupId))
    {groups : List PublisherGroup} {nextGroupId : Nat} (hkeyed : Keyed PublisherGroup.id groups)
    (hlt : ∀ g ∈ groups, g.id < nextGroupId)
    (hgroups : ∀ g ∈ groups, g ∈ db.groups ∧ g.id ≠ groupId ∨ g = params.row groupId) :
    GroupsSound
      (({ db with groups := groups, nextGroupId := nextGroupId } : MemberDb).placeLeaders params
        groupId) := by
  have hplaced : GroupsSound (db.placeLeaders params groupId) := h.placeLeaders hfree
  obtain ⟨members, hframe⟩ := placeLeaders_frame db params groupId
  obtain ⟨_, hframe'⟩ := placeLeaders_frame
    { db with groups := groups, nextGroupId := nextGroupId } params groupId
  have hsame : (({ db with groups := groups, nextGroupId := nextGroupId } : MemberDb).placeLeaders
      params groupId).members = (db.placeLeaders params groupId).members :=
    @placeLeaders_members db { db with groups := groups, nextGroupId := nextGroupId } params rfl groupId
  refine @GroupsSound.writeGroup (db.placeLeaders params groupId) _ hplaced (params.row groupId) hsame
    ?_ ?_ ?_ ?_ hfree.distinct ?_ ?_
  · rw [hframe, hframe']
  · rw [hframe']
    exact hkeyed
  · rw [hframe']
    exact hlt
  · rw [hframe, hframe']
    exact hgroups
  · exact fun p hp => inGroup_placeLeaders hfree hp
  · intro p hp g hg hlead
    rw [hframe] at hg
    have hfreeP : Free db (some groupId) p := by
      rcases hp with hp | hp
      · rw [← hp]
        exact hfree.responsible
      · exact hfree.deputy p hp
    exact Option.some.inj (hfreeP.alone g hg hlead)

/-- A row update of the keyed group table, as a list of rows. -/
theorem mem_updateGroup {g : PublisherGroup}
    (hg : g ∈ (db.updateGroups (·.id == groupId) fun g => params.row g.id).groups) :
    g ∈ db.groups ∧ g.id ≠ groupId ∨ g = params.row groupId := by
  obtain ⟨row, hrow, rfl⟩ := List.mem_map.mp hg
  cases hid : row.id == groupId with
  | true =>
    refine .inr ?_
    rw [if_pos hid]
    show params.row row.id = params.row groupId
    rw [beq_iff_eq.mp hid]
  | false =>
    refine .inl ?_
    rw [if_neg (by simp [hid])]
    exact ⟨hrow, by simpa using hid⟩

theorem createPublisherGroup_keeps : Tx.Keeps GroupsSound (createPublisherGroup rt params) := by
  refine Tx.keeps_checked_bind fun db _ h hchecks => ?_
  obtain ⟨_, hleaders, _⟩ := Tx.bind_eq_ok.mp hchecks
  have hfree : LeadersFree db params none := assertGroupLeaders_ok h hleaders
  -- the new group has no leader in the old state, so the leaders, who lead nothing, are free for it
  have hnothing : ∀ {p}, Free db none p → ∀ g ∈ db.groups, ¬g.Leads p :=
    fun hp g hg hlead => Option.some_ne_none _ (hp.alone g hg hlead)
  have hfree₀ : LeadersFree db params (some db.nextGroupId) :=
    ⟨hfree.distinct, ⟨hfree.responsible.member, fun g hg hl => absurd hl (hnothing hfree.responsible g hg)⟩,
      fun d hd => ⟨(hfree.deputy d hd).member, fun g hg hl => absurd hl (hnothing (hfree.deputy d hd) g hg)⟩⟩
  have hfree₁ : LeadersFree (db.createGroup params.row) params (some db.nextGroupId) := by
    have halone : ∀ p, Free db none p → Free (db.createGroup params.row) (some db.nextGroupId) p := by
      refine fun p hp => ⟨hp.member, fun g hg hlead => ?_⟩
      rcases List.mem_append.mp hg with hold | hnew
      · exact absurd hlead (hnothing hp g hold)
      · rw [List.mem_singleton.mp hnew]
        rfl
    exact ⟨hfree.distinct, halone _ hfree.responsible, fun d hd => halone d (hfree.deputy d hd)⟩
  have hjoin : (joinLedGroup rt db.nextGroupId params).exec (db.createGroup params.row) = _ :=
    joinLedGroup_joins h.members_keyed hfree₁ (List.mem_map.mpr ⟨_, List.mem_append_right _
      (List.mem_singleton_self _), rfl⟩)
  rw [Tx.exec_bind_modify, Tx.exec_bind, hjoin]
  refine h.writeLed hfree₀ (h.groups_keyed.append_next h.groups_lt rfl) (lt_append_next h.groups_lt rfl) ?_
  · intro g hg
    rcases List.mem_append.mp hg with hold | hnew
    · exact .inl ⟨hold, Nat.ne_of_lt (h.groups_lt g hold)⟩
    · exact .inr (List.mem_singleton.mp hnew)

theorem updateGroup_keeps : Tx.Keeps GroupsSound (updateGroup rt groupId params) := by
  refine Tx.keeps_checked_bind fun db _ h hchecks => ?_
  obtain ⟨_, hleaders, hchecks⟩ := Tx.bind_eq_ok.mp hchecks
  obtain ⟨_, hfound, _⟩ := Tx.bind_eq_ok.mp hchecks
  have hfree : LeadersFree db params (some groupId) := assertGroupLeaders_ok h hleaders
  have hthere : ∃ g ∈ db.groups, g.id = groupId := by
    obtain ⟨g, hg⟩ := Option.ne_none_iff_exists'.mp (Tx.refuseWhen_ok.mp hfound)
    exact ⟨g, List.mem_of_find?_eq_some hg, by simpa using List.find?_some hg⟩
  have hfree₁ : LeadersFree (db.updateGroups (·.id == groupId) fun g => params.row g.id) params
      (some groupId) := by
    have halone : ∀ p, Free db (some groupId) p →
        Free (db.updateGroups (·.id == groupId) fun g => params.row g.id) (some groupId) p := by
      refine fun p hp => ⟨hp.member, fun g hg hlead => ?_⟩
      rcases mem_updateGroup hg with ⟨hold, _⟩ | rfl
      · exact hp.alone g hold hlead
      · rfl
    exact ⟨hfree.distinct, halone _ hfree.responsible, fun d hd => halone d (hfree.deputy d hd)⟩
  have hkept : ∀ g : PublisherGroup,
      (if (g.id == groupId) = true then params.row g.id else g).id = g.id := by
    intro g
    split <;> rfl
  have hwritten : groupId ∈
      (db.updateGroups (·.id == groupId) fun g => params.row g.id).groups.map (·.id) := by
    obtain ⟨g, hg, hid⟩ := hthere
    exact List.mem_map.mpr ⟨_, List.mem_map_of_mem hg, (hkept g).trans hid⟩
  have hjoin : (joinLedGroup rt groupId params).exec
      (db.updateGroups (·.id == groupId) fun g => params.row g.id) = _ :=
    joinLedGroup_joins h.members_keyed hfree₁ hwritten
  rw [Tx.exec_bind_modify, Tx.exec_bind, hjoin]
  refine h.writeLed hfree (h.groups_keyed.map hkept) ?_ fun g hg => mem_updateGroup hg
  intro g' hg'
  obtain ⟨g, hg, rfl⟩ := List.mem_map.mp hg'
  rw [hkept]
  exact h.groups_lt g hg

theorem deletePublisherGroup_keeps : Tx.Keeps GroupsSound (deletePublisherGroup groupId) :=
  Tx.keeps_checked_bind fun _ _ h _ => h.deleteGroup

theorem addGroupMember_keeps : Tx.Keeps GroupsSound (addGroupMember rt groupId memberId) := by
  refine Tx.Keeps.get_bind fun _ => (Tx.keeps_check _).bind fun _ => ?_
  exact setGroup_keeps.bind fun _ => Tx.keeps_pure _

theorem removeGroupMember_keeps : Tx.Keeps GroupsSound (removeGroupMember rt groupId memberId) := by
  refine Tx.Keeps.get_bind fun _ => (Tx.keeps_check _).bind fun _ => ?_
  exact setGroup_keeps.bind fun _ => Tx.keeps_pure _

end Services

/-! ## The member operations -/

section Members

variable {rt : PersonText} {db : MemberDb} {memberId : Nat}

theorem syncWhen_keeps {changed : Bool} : Tx.Keeps GroupsSound (syncWhen changed memberId) := by
  unfold syncWhen
  split
  · exact Tx.keeps_modify fun _ h => h.sync memberId
  · exact Tx.keeps_pure _

theorem insertMember_keeps {row : Nat → Member} (hid : ∀ n, (row n).id = n) :
    Tx.Keeps GroupsSound (insertMember row) := by
  refine Tx.Keeps.get_bind fun _ => (Tx.keeps_check _).bind fun _ => ?_
  refine (Tx.keeps_modify fun s h => ?_).bind fun _ => Tx.keeps_pure _
  exact (h.insert hid).sync s.nextMemberId

theorem createMember_keeps {maxPublishers : Option Nat} {params : MemberFormFields} :
    Tx.Keeps GroupsSound (createMember rt maxPublishers params) := by
  refine Tx.keeps_checked_bind fun s row h hchecks => ?_
  unfold createMemberChecks at hchecks
  obtain ⟨_, _, hchecks⟩ := Tx.bind_eq_ok.mp hchecks
  obtain ⟨data, _, hrow⟩ := Tx.bind_eq_ok.mp hchecks
  obtain rfl : newPublisher data = row := Except.ok.inj hrow
  exact insertMember_keeps (fun _ => rfl) s h

theorem togglePublisher_keeps {isPublisher : Bool} :
    Tx.Keeps GroupsSound (togglePublisher memberId isPublisher) := by
  refine Tx.keeps_checked_bind fun db _ h _ => ?_
  have hwritten : GroupsSound
      (db.updateMember memberId fun m => { m with isPublisher := isPublisher }) :=
    h.rewriteOther (fun _ => rfl) fun _ => rfl
  exact hwritten.sync memberId

theorem enter_publisherGroupId (state : Roles.LifecycleState) (leftAt : Option Instant)
    (date : Instant) (m : Member) :
    (m.enter state leftAt date).publisherGroupId = m.publisherGroupId := by
  cases state <;> rfl

theorem enterLifecycle_keeps {seen : LifecycleRead} {state : Roles.LifecycleState} {date : Instant} :
    Tx.Keeps GroupsSound (enterLifecycle seen state date) := by
  refine Tx.Keeps.get_bind fun _ => (Tx.keeps_check _).bind fun _ => ?_
  refine (Tx.keeps_modify fun s h => ?_).bind fun _ => syncWhen_keeps.bind fun _ => ?_
  · exact h.rewriteOther (Member.enter_id state seen.leftAt date) (enter_publisherGroupId state seen.leftAt date)
  · refine Tx.keeps_modify fun s h => ?_
    unfold deleteSeatsOf
    split
    · exact h
    · exact h.congr rfl rfl rfl rfl

theorem setLifecycle_keeps {state : Roles.LifecycleState} {at_ : Option Instant} {now : Instant} :
    Tx.Keeps GroupsSound (setLifecycle memberId state at_ now) := by
  refine Tx.Keeps.get_bind fun _ => (Tx.keeps_check _).bind fun seen => ?_
  cases seen with
  | none => exact Tx.keeps_pure _
  | some seen => exact enterLifecycle_keeps

theorem anonymizeRead_ok {seen : Member} (h : anonymizeRead db memberId = .ok (some seen)) :
    seen ∈ db.members ∧ seen.id = memberId ∧ db.responsibleFor memberId = none := by
  unfold anonymizeRead at h
  obtain ⟨m, hfound, h⟩ := Tx.bind_eq_ok.mp h
  obtain ⟨hm, hid⟩ := memberOrRefuse_ok hfound
  split at h
  · cases Except.ok.inj h
  · obtain ⟨_, hresp, h⟩ := Tx.bind_eq_ok.mp h
    obtain rfl : m = seen := Option.some.inj (Except.ok.inj h)
    refine ⟨hm, hid, ?_⟩
    unfold ensureMemberIsNotGroupResponsible at hresp
    cases hled : db.responsibleFor memberId with
    | none => rfl
    | some g => simp [hled] at hresp

theorem GroupsSound.scrub (h : GroupsSound db) {seen : Member} {now : Instant}
    (hresp : db.responsibleFor seen.id = none) :
    GroupsSound ((db.updateMember seen.id (Member.scrub seen.leftAt now)).updateGroups
      (·.deputyId == some seen.id) fun g => { g with deputyId := none }) := by
  -- the two writes are to different tables: take the groups first, after which the member leads none
  have hcleared : GroupsSound (db.updateGroups (·.deputyId == some seen.id)
      fun g => { g with deputyId := none }) := h.clearDeputy
  have hscrubbed : ∀ m, (Member.scrub seen.leftAt now m).id = m.id := fun _ => rfl
  refine hcleared.rewriteMember hscrubbed fun m _ _ g' hg' hlead => ?_
  obtain ⟨g, hg, rfl⟩ := List.mem_map.mp hg'
  have hnot : g.responsibleId ≠ seen.id := by simpa using List.find?_eq_none.mp hresp g hg
  cases hdeputy : g.deputyId == some seen.id with
  | true =>
    rw [if_pos hdeputy] at hlead
    rcases hlead with hlead | hlead
    · exact absurd hlead hnot
    · cases hlead
  | false =>
    rw [if_neg (by simp [hdeputy])] at hlead
    rcases hlead with hlead | hlead
    · exact absurd hlead hnot
    · simp [hlead] at hdeputy

theorem anonymize_keeps {now : Instant} : Tx.Keeps GroupsSound (anonymize memberId now) := by
  refine Tx.keeps_checked_bind fun db seen h hread => ?_
  cases seen with
  | none => exact h
  | some seen =>
    obtain ⟨hmem, hid, hresp⟩ := anonymizeRead_ok hread
    subst hid
    have hfound : db.memberOrRefuse seen.id (.database .recordNotFound) = .ok seen := by
      have hfind : db.memberById seen.id = some seen := h.members_keyed.find?_eq_some.mpr ⟨hmem, rfl⟩
      rw [MemberDb.memberOrRefuse, hfind]
    show GroupsSound ((scrubMember seen now).exec db).2
    unfold scrubMember
    rw [Tx.exec_bind_get, Tx.exec_bind, Tx.exec_check, hfound]
    exact (h.scrub hresp).sync seen.id

/-- The edit leaves a leader in the group it leads. -/
def LeavesLeader (rt : PersonText) (db : MemberDb) (memberId : Nat) (params : MemberFormFields) :
    Prop :=
  ∀ data, memberDataFromForm rt params = .ok data → db.GroupExists data.publisherGroupId →
    ∀ g ∈ db.groups, g.Leads memberId → data.publisherGroupId = some g.id

theorem updateIdentityChecks_ok {params : MemberFormFields} {out : Member × MemberData}
    (h : updateIdentityChecks rt db memberId params = .ok out) :
    db.memberOrRefuse memberId (.app (.notFound "Member" none)) = .ok out.1 ∧
      memberDataFromForm rt params = .ok out.2 ∧ db.GroupExists out.2.publisherGroupId := by
  unfold updateIdentityChecks at h
  obtain ⟨before, hbefore, h⟩ := Tx.bind_eq_ok.mp h
  obtain ⟨data, hdata, h⟩ := Tx.bind_eq_ok.mp h
  obtain ⟨_, hexists, h⟩ := Tx.bind_eq_ok.mp h
  obtain rfl : (before, data) = out := Except.ok.inj h
  exact ⟨hbefore, hdata, not_not.mp (Tx.refuseWhen_ok.mp hexists)⟩

theorem syncWhen_exec {changed : Bool} : (syncWhen changed memberId).exec db =
    (.ok (), if changed then syncBuiltInRoleAssignments memberId db else db) := by
  cases changed <;> rfl

theorem updateIdentity_exec {params : MemberFormFields} {before : Member} {data : MemberData}
    (h : updateIdentityChecks rt db memberId params = .ok (before, data)) :
    (updateIdentity rt memberId params).exec db = (.ok (data.write before),
      if haveIdentityFlagsChanged before (data.write before) then
        syncBuiltInRoleAssignments memberId (db.updateMember memberId data.write)
      else db.updateMember memberId data.write) := by
  unfold updateIdentity
  rw [Tx.exec_bind_get, Tx.exec_bind, Tx.exec_check, h]
  show ((modify (·.updateMember memberId data.write) >>= fun _ =>
    syncWhen (haveIdentityFlagsChanged before (data.write before)) memberId >>= fun _ =>
      pure (data.write before)) : MemberTx Member).exec db = _
  rw [Tx.exec_bind_modify, Tx.exec_bind, syncWhen_exec]
  rfl

theorem updateIdentity_sound {params : MemberFormFields} (h : GroupsSound db)
    (hleaves : LeavesLeader rt db memberId params) :
    GroupsSound ((updateIdentity rt memberId params).exec db).2 := by
  unfold updateIdentity
  rw [Tx.exec_bind_get, Tx.exec_bind, Tx.exec_check]
  cases hchecks : updateIdentityChecks rt db memberId params with
  | error e => exact h
  | ok out =>
    obtain ⟨_, hdata, hexists⟩ := updateIdentityChecks_ok hchecks
    have hwritten : GroupsSound (db.updateMember memberId out.2.write) :=
      h.rewriteMember (fun _ => rfl) fun _ _ _ g hg hlead => hleaves out.2 hdata hexists g hg hlead
    exact (syncWhen_keeps.bind fun _ => Tx.keeps_pure _) _ hwritten

end Members

/-! ## Runs -/

/-- The requests that write a member or a group. -/
inductive GroupRequest where
  | createPublisherGroup (params : UpdateGroupParams)
  | updateGroup (groupId : Nat) (params : UpdateGroupParams)
  | deletePublisherGroup (groupId : Nat)
  | addGroupMember (groupId memberId : Nat)
  | removeGroupMember (groupId memberId : Nat)
  | setGroup (memberId : Nat) (groupId : Option Nat)
  | createMember (maxPublishers : Option Nat) (params : MemberFormFields)
  | createDirect (params : CreateDirectParams)
  | updateIdentity (memberId : Nat) (params : MemberFormFields)
  | togglePublisher (memberId : Nat) (isPublisher : Bool)
  | setLifecycle (memberId : Nat) (state : Roles.LifecycleState) (at_ : Option Instant) (now : Instant)
  | anonymize (memberId : Nat) (now : Instant)

def discard {α : Type} (x : MemberTx α) : MemberTx Unit := do
  let _ ← x
  return ()

def GroupRequest.run (rt : PersonText) : GroupRequest → MemberTx Unit
  | .createPublisherGroup params => discard (Publishers.createPublisherGroup rt params)
  | .updateGroup groupId params => discard (Publishers.updateGroup rt groupId params)
  | .deletePublisherGroup groupId => Publishers.deletePublisherGroup groupId
  | .addGroupMember groupId memberId => discard (Publishers.addGroupMember rt groupId memberId)
  | .removeGroupMember groupId memberId => discard (Publishers.removeGroupMember rt groupId memberId)
  | .setGroup memberId groupId => Publishers.setGroup rt memberId groupId
  | .createMember maxPublishers params => discard (Publishers.createMember rt maxPublishers params)
  | .createDirect params => discard (Publishers.createDirect params)
  | .updateIdentity memberId params => discard (Publishers.updateIdentity rt memberId params)
  | .togglePublisher memberId isPublisher => discard (Publishers.togglePublisher memberId isPublisher)
  | .setLifecycle memberId state at_ now => Publishers.setLifecycle memberId state at_ now
  | .anonymize memberId now => Publishers.anonymize memberId now

/-- One request; its caller commits what it left when it catches the refusal, and rolls back otherwise. -/
def GroupRequest.apply (rt : PersonText) (caught : Failure → Bool) (db : MemberDb)
    (request : GroupRequest) : MemberDb :=
  (request.run rt).settle caught db

/-- An edit of a leader leaves the leader in the group; of any other request nothing is asked. -/
def GroupRequest.LeavesLeaders (rt : PersonText) (db : MemberDb) : GroupRequest → Prop
  | .updateIdentity memberId params => LeavesLeader rt db memberId params
  | _ => True

section Runs

variable {rt : PersonText} {caught : Failure → Bool} {db : MemberDb}

theorem discard_keeps {α : Type} {x : MemberTx α} (hx : Tx.Keeps GroupsSound x) :
    Tx.Keeps GroupsSound (discard x) :=
  hx.bind fun _ => Tx.keeps_pure _

/-- The step lemma. -/
theorem GroupRequest.sound (h : GroupsSound db) {request : GroupRequest}
    (hleaves : request.LeavesLeaders rt db) : GroupsSound (request.apply rt caught db) := by
  cases request with
  | createPublisherGroup params => exact (discard_keeps createPublisherGroup_keeps).settle h
  | updateGroup groupId params => exact (discard_keeps updateGroup_keeps).settle h
  | deletePublisherGroup groupId => exact deletePublisherGroup_keeps.settle h
  | addGroupMember groupId memberId => exact (discard_keeps addGroupMember_keeps).settle h
  | removeGroupMember groupId memberId => exact (discard_keeps removeGroupMember_keeps).settle h
  | setGroup memberId groupId => exact setGroup_keeps.settle h
  | createMember maxPublishers params => exact (discard_keeps createMember_keeps).settle h
  | createDirect params => exact (discard_keeps (insertMember_keeps fun _ => rfl)).settle h
  | updateIdentity memberId params =>
    refine Tx.settle_invariant h ?_
    have hedited := updateIdentity_sound h hleaves
    show GroupsSound ((discard (Publishers.updateIdentity rt memberId params)).exec db).2
    unfold discard
    rw [Tx.exec_discard]
    exact hedited
  | togglePublisher memberId isPublisher => exact (discard_keeps togglePublisher_keeps).settle h
  | setLifecycle memberId state at_ now => exact setLifecycle_keeps.settle h
  | anonymize memberId now => exact anonymize_keeps.settle h

/-- An edit that is not such takes its leader out of the group. -/
theorem updateIdentity_leaders_iff (h : GroupsSound db) {memberId : Nat} {params : MemberFormFields} :
    LeadersBelong ((GroupRequest.updateIdentity memberId params).apply rt caught db) ↔
      LeavesLeader rt db memberId params := by
  refine ⟨fun hafter data hdata hexists g hg hlead => ?_, fun hleaves =>
    (@GroupRequest.sound rt caught db h (.updateIdentity memberId params) hleaves).leaders⟩
  obtain ⟨m, hm, hid, _⟩ := h.leaders.joined g hg memberId hlead
  have hfound : db.memberOrRefuse memberId (.app (.notFound "Member" none)) = .ok m := by
    have hfind : db.memberById memberId = some m := h.members_keyed.find?_eq_some.mpr ⟨hm, hid⟩
    rw [MemberDb.memberOrRefuse, hfind]
  have hchecks : updateIdentityChecks rt db memberId params = .ok (m, data) := by
    unfold updateIdentityChecks
    rw [hfound, hdata]
    show (Tx.refuseWhen (¬db.GroupExists data.publisherGroupId) (Failure.database .foreignKey) >>=
      fun _ => Except.ok (m, data)) = _
    rw [(Tx.refuseWhen_ok (u := ())).mpr (not_not.mpr hexists)]
    rfl
  -- the edit goes through, and writes the submitted group
  have hwritten : ∃ s, (discard (updateIdentity rt memberId params)).exec db = (.ok (), s) ∧
      s.members = (db.updateMember memberId data.write).members ∧ s.groups = db.groups := by
    unfold discard
    rw [Tx.exec_bind, updateIdentity_exec hchecks]
    refine ⟨_, rfl, ?_, ?_⟩ <;> split <;> rfl
  obtain ⟨s, hexec, hmembers, hgroups⟩ := hwritten
  have hstep : (GroupRequest.updateIdentity memberId params).apply rt caught db = s :=
    Tx.settle_ok hexec
  rw [hstep] at hafter
  obtain ⟨m', hm', hid', hgroup⟩ := hafter.joined g (hgroups ▸ hg) memberId hlead
  rw [hmembers] at hm'
  obtain ⟨r, _, rfl⟩ := List.mem_map.mp hm'
  split at hgroup
  · exact hgroup
  · next hother =>
    rw [if_neg hother] at hid'
    exact absurd hid' hother

end Runs

/-! ## A leader taken away -/

/-- Two brothers, the overseers of two groups. -/
def twoGroups : MemberDb where
  members := [
    { blankMember 1 with
      firstname := "Paul", lastname := "Martin", isMale := some true, isHelder := true,
      publisherGroupId := some 1 },
    { blankMember 2 with
      firstname := "Luc", lastname := "Petit", isMale := some true, isHelder := true,
      publisherGroupId := some 2 }]
  groups := [⟨1, "Nord", "1 rue du Nord", 1, none⟩, ⟨2, "Sud", "2 rue du Sud", 2, none⟩]
  otherGroupIds := []
  enrolments := []
  activity := []
  roles := []
  memberRoleAssignments := []
  accounts := []
  userRoleAssignments := []
  nextMemberId := 3
  nextGroupId := 3
  nextEnrolmentId := 1

theorem twoGroups_sound : GroupsSound twoGroups := by
  refine ⟨by decide, by decide, by decide, by decide, by decide, ?_, ?_⟩
  · intro g hg p hlead
    simp only [twoGroups, List.mem_cons, List.not_mem_nil, or_false] at hg
    rcases hg with rfl | rfl
    · rcases hlead with hlead | hlead
      · exact ⟨_, List.mem_cons_self, hlead, rfl⟩
      · cases hlead
    · rcases hlead with hlead | hlead
      · exact ⟨_, List.mem_cons_of_mem _ List.mem_cons_self, hlead, rfl⟩
      · cases hlead
  · intro g hg g' hg' p hlead hlead'
    simp only [twoGroups, List.mem_cons, List.not_mem_nil, or_false] at hg hg'
    rcases hg with rfl | rfl <;> rcases hg' with rfl | rfl <;> rcases hlead with hlead | hlead <;>
      rcases hlead' with hlead' | hlead' <;> simp_all

/-- The form of the first brother, with the group chosen in it. -/
def paulIn (groupId : Option SubmittedNumber) : GroupRequest :=
  .updateIdentity 1 ⟨"Paul", "Martin", "male", none, none, true, false, false, groupId, "", "", "", none⟩

end Unitae.Publishers
