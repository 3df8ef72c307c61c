import Mathlib.Data.Set.Insert
import Unitae.Publishers.GroupLeaders

/-!
# Unitae — erased members stay erased

A set of members is erased: their rows are blank, they lead nothing and they hold no identity role. No
operation of the member aggregate looks at `anonymizedAt`, so each one is given what its caller has to
spare; the group services need nothing, for only a brother who has neither left nor been anonymized leads
a group or is added to one.
-/

namespace Unitae.Publishers

/-- Nothing personal is left in the row. -/
structure Member.Blank (m : Member) : Prop where
  firstname : m.firstname = "Utilisateur"
  lastname : m.lastname = "supprime"
  phone : m.phone = ""
  address : m.address = ""
  email : m.email = ""
  birthDate : m.birthDate = none
  baptismDate : m.baptismDate = none
  arrivedAt : m.arrivedAt = none
  lastPastoralVisitAt : m.lastPastoralVisitAt = none
  publisherGroupId : m.publisherGroupId = none
  leftAt : m.leftAt.isSome

/-- The role with this id is no identity role. -/
def MemberDb.NoIdentityRole (db : MemberDb) (roleId : Nat) : Prop :=
  ∀ role ∈ db.roles, role.id = roleId → Roles.isIdentityRoleKey role.key = false

/-- The members of the set have nothing left, and whoever is anonymized is one of them. -/
structure MemberDb.Erases (db : MemberDb) (erased : Set Nat) : Prop where
  members_keyed : Keyed Member.id db.members
  roles_keyed : Keyed Roles.Role.id db.roles
  known : ∀ m ∈ db.members, m.anonymizedAt.isSome → m.id ∈ erased
  blank : ∀ m ∈ db.members, m.id ∈ erased → m.Blank
  leads : ∀ g ∈ db.groups, ∀ p ∈ erased, ¬g.Leads p
  identity : ∀ a ∈ db.memberRoleAssignments, a.memberId ∈ erased → db.NoIdentityRole a.roleId

/-! ## Writes -/

section Writes

variable {db : MemberDb} {erased : Set Nat} {p : Nat}

/-- Whoever has left has no identity role: every predicate asks for it first. -/
theorem builtInRolePredicate_left {key : String} {m : Roles.Member} (h : m.leftAt.isSome) :
    Roles.builtInRolePredicate key m = false := by
  have hleft : m.leftAt.isNone = false := by simpa using h
  unfold Roles.builtInRolePredicate
  simp only [hleft, Bool.false_and, ite_self]

/-- After a sync of one member: an erased member has left, so the sync takes the identity roles of the one
it is for, and those of the others are as they were. -/
theorem identity_synced {memberId : Nat} (hroles : Keyed Roles.Role.id db.roles)
    (hleft : ∀ m ∈ db.members, m.id ∈ erased → m.leftAt.isSome)
    (hbefore : ∀ a ∈ db.memberRoleAssignments, a.memberId ∈ erased →
      a.memberId = memberId ∧ memberId ∈ db.members.map (·.id) ∨ db.NoIdentityRole a.roleId) :
    ∀ a ∈ (syncBuiltInRoleAssignments memberId db).memberRoleAssignments, a.memberId ∈ erased →
      db.NoIdentityRole a.roleId := by
  intro a ha herased role hrole hid
  have hsynced : (⟨a.memberId, a.roleId⟩ : Roles.MemberRoleAssignment) ∈
      (Roles.syncBuiltInRoleAssignments memberId db.roleDb).memberRoleAssignments := ha
  cases hfound : db.roleDb.memberById memberId with
  | none =>
    -- no such member: the sync writes nothing
    unfold Roles.syncBuiltInRoleAssignments at hsynced
    rw [hfound] at hsynced
    cases hbefore a hsynced herased with
    | inl hhere =>
      obtain ⟨m, hm, hmid⟩ := List.mem_map.mp hhere.2
      have hnone := List.find?_eq_none.mp hfound (db.identity m) (List.mem_map_of_mem hm)
      have hthere : (db.identity m).id = memberId := hmid
      exact absurd hthere (by simpa using hnone)
    | inr hno => exact hno role hrole hid
  | some member =>
    have hmember : member ∈ db.members.map db.identity := List.mem_of_find?_eq_some hfound
    have hmemberId : member.id = memberId := by simpa using List.find?_some hfound
    subst hmemberId
    rw [Roles.mem_synced hroles hfound] at hsynced
    cases hrow : db.roleDb.identityRole a.roleId with
    | none =>
      have hnone := List.find?_eq_none.mp hrow role hrole
      simpa [hid, Roles.isIdentityRoleKey] using hnone
    | some identity =>
      simp only [hrow] at hsynced
      split at hsynced
      · next hsame =>
        obtain ⟨m, hm, rfl⟩ := List.mem_map.mp hmember
        have hgone : (db.identity m).leftAt.isSome :=
          hleft m hm (by rw [hsame] at herased; exact herased)
        rw [builtInRolePredicate_left hgone] at hsynced
        cases hsynced
      · next hother =>
        cases hbefore a hsynced herased with
        | inl hhere => exact absurd hhere.1 hother
        | inr hno => exact hno role hrole hid

theorem MemberDb.Erases.sync (h : db.Erases erased) (memberId : Nat) :
    (syncBuiltInRoleAssignments memberId db).Erases erased where
  members_keyed := h.members_keyed
  roles_keyed := h.roles_keyed
  known := h.known
  blank := h.blank
  leads := h.leads
  identity := identity_synced h.roles_keyed (fun m hm herased => (h.blank m hm herased).leftAt)
    fun a ha herased => .inr (h.identity a ha herased)

theorem MemberDb.Erases.syncWhen (changed : Bool) (memberId : Nat) :
    Tx.Keeps (MemberDb.Erases · erased) (syncWhen changed memberId) := by
  unfold Publishers.syncWhen
  cases changed with
  | true => exact Tx.keeps_modify fun _ h => MemberDb.Erases.sync h memberId
  | false => exact Tx.keeps_pure _

/-- A rewrite of one member: it anonymizes only a member of the set, and leaves that one blank. -/
theorem MemberDb.Erases.updateMember (h : db.Erases erased) {data : Member → Member}
    (hid : ∀ m, (data m).id = m.id)
    (hknown : ∀ m ∈ db.members, m.id = p → (data m).anonymizedAt.isSome → p ∈ erased)
    (hblank : p ∈ erased → ∀ m ∈ db.members, m.id = p → m.Blank → (data m).Blank) :
    (db.updateMember p data).Erases erased := by
  have hsame : ∀ m : Member, (if m.id = p then data m else m).id = m.id := fun m => column_ite (hid m)
  refine ⟨h.members_keyed.map hsame, h.roles_keyed, ?_, ?_, h.leads, h.identity⟩
  · intro m' hm' hanonymized
    obtain ⟨m, hm, rfl⟩ := List.mem_map.mp hm'
    rw [hsame]
    by_cases hp : m.id = p
    · rw [if_pos hp] at hanonymized
      rw [hp]
      exact hknown m hm hp hanonymized
    · rw [if_neg hp] at hanonymized
      exact h.known m hm hanonymized
  · intro m' hm' herased
    obtain ⟨m, hm, rfl⟩ := List.mem_map.mp hm'
    rw [hsame] at herased
    have hbefore := h.blank m hm herased
    split
    · next hp => exact hblank (hp ▸ herased) m hm hp hbefore
    · exact hbefore

/-- A rewrite that leaves `anonymizedAt` alone, and a blank row blank. -/
theorem MemberDb.Erases.edit (h : db.Erases erased) {data : Member → Member}
    (hid : ∀ m, (data m).id = m.id) (hstamp : ∀ m, (data m).anonymizedAt = m.anonymizedAt)
    (hblank : p ∈ erased → ∀ m, m.Blank → (data m).Blank) :
    (db.updateMember p data).Erases erased := by
  apply h.updateMember hid
  · intro m hm hp hanonymized
    rw [hstamp] at hanonymized
    rw [← hp]
    exact h.known m hm hanonymized
  · intro herased m _ _
    exact hblank herased m

/-- A write of the groups that makes no erased member a leader. -/
theorem MemberDb.Erases.regroup (h : db.Erases erased) {groups : List PublisherGroup}
    {nextGroupId : Nat} (hleads : ∀ g ∈ groups, ∀ p ∈ erased, ¬g.Leads p) :
    ({ db with groups := groups, nextGroupId := nextGroupId } : MemberDb).Erases erased :=
  { h with leads := hleads }

theorem MemberDb.Erases.deleteGroup (h : db.Erases erased) (groupId : Nat) :
    (db.deleteGroup groupId).Erases erased := by
  have hsame : ∀ m : Member, (if m.publisherGroupId = some groupId then
      { m with publisherGroupId := none } else m).id = m.id := by
    intro m
    split <;> rfl
  refine ⟨h.members_keyed.map hsame, h.roles_keyed, ?_, ?_, ?_, h.identity⟩
  · intro m' hm' hanonymized
    obtain ⟨m, hm, rfl⟩ := List.mem_map.mp hm'
    rw [hsame]
    split at hanonymized <;> exact h.known m hm hanonymized
  · intro m' hm' herased
    obtain ⟨m, hm, rfl⟩ := List.mem_map.mp hm'
    rw [hsame] at herased
    have hbefore := h.blank m hm herased
    split
    · exact { hbefore with publisherGroupId := rfl }
    · exact hbefore
  · intro g hg
    exact h.leads g (List.mem_filter.mp hg).1

end Writes

/-! ## The member operations -/

/-- The form a blank row would submit: the placeholder, and nothing in the other fields. -/
def MemberFormFields.Placeholder (params : MemberFormFields) : Prop :=
  params.firstname = "Utilisateur" ∧ params.lastname = "supprime" ∧ params.phone = "" ∧
    params.address = "" ∧ params.email = "" ∧ params.birthDate.getD "" = "" ∧
    params.baptismDate.getD "" = "" ∧ (∀ text ∈ params.arrivedAt, text.getD "" = "") ∧
    writtenGroup params.groupId = none

instance (params : MemberFormFields) : Decidable params.Placeholder :=
  inferInstanceAs (Decidable (_ ∧ _))

section Operations

variable {rt : PersonText} {db : MemberDb} {erased : Set Nat} {memberId groupId : Nat}

theorem formDate_empty {text : Option String} (h : text.getD "" = "") :
    formDate rt text = .ok none := by
  cases text with
  | none => rfl
  | some text => exact if_pos h

theorem blank_write {params : MemberFormFields} {data : MemberData} {m : Member}
    (hparams : params.Placeholder) (hdata : memberDataFromForm rt params = .ok data)
    (hm : m.Blank) : (data.write m).Blank := by
  obtain ⟨hfirst, hlast, hphone, haddress, hemail, hbirth, hbaptism, harrived, hgroup⟩ := hparams
  have harrivedAt : ∃ arrivedAt, arrivedAtFromForm rt params.arrivedAt = .ok arrivedAt ∧
      arrivedAt.getD m.arrivedAt = none := by
    unfold arrivedAtFromForm
    cases hsubmitted : params.arrivedAt with
    | none => exact ⟨none, rfl, hm.arrivedAt⟩
    | some text =>
      have hempty := @formDate_empty rt text (harrived text hsubmitted)
      exact ⟨some none, by simp only [hempty]; rfl, rfl⟩
  obtain ⟨arrivedAt, harrivedAt, hkept⟩ := harrivedAt
  unfold memberDataFromForm at hdata
  rw [formDate_empty hbaptism, formDate_empty hbirth, harrivedAt] at hdata
  have hdata : _ = data := Except.ok.inj hdata
  subst hdata
  exact ⟨hfirst, hlast, hphone, haddress, hemail, rfl, rfl, hkept, hm.lastPastoralVisitAt, hgroup,
    hm.leftAt⟩

theorem erases_updateIdentity {params : MemberFormFields}
    (hspared : memberId ∈ erased → params.Placeholder) :
    Tx.Keeps (MemberDb.Erases · erased) (updateIdentity rt memberId params) := by
  refine Tx.keeps_checked_bind fun db out h hchecks => ?_
  obtain ⟨_, hdata, _⟩ := updateIdentityChecks_ok hchecks
  have hwritten : (db.updateMember memberId out.2.write).Erases erased :=
    MemberDb.Erases.edit h (fun _ => rfl) (fun _ => rfl)
      fun herased _ hm => blank_write (hspared herased) hdata hm
  exact (((MemberDb.Erases.syncWhen _ memberId).bind fun _ => Tx.keeps_pure _) _ hwritten :)

/-- A ministry-school student or a publisher: an erased member is neither before nor after. -/
theorem erases_togglePublisher {isPublisher : Bool} :
    Tx.Keeps (MemberDb.Erases · erased) (togglePublisher memberId isPublisher) := by
  refine Tx.keeps_checked_bind fun db _ h _ => ?_
  have hwritten : (db.updateMember memberId fun m => { m with isPublisher := isPublisher }).Erases
      erased :=
    MemberDb.Erases.edit h (fun _ => rfl) (fun _ => rfl) fun _ _ hm => { hm with }
  exact MemberDb.Erases.sync hwritten memberId

/-- Only a return takes the leaving date away, and may bring an arrival. -/
theorem blank_enter {state : Roles.LifecycleState} {leftAt : Option Instant} {date : Instant}
    {m : Member} (hstate : state ≠ .returned) (hm : m.Blank) :
    (m.enter state leftAt date).Blank := by
  cases state with
  | left => exact { hm with leftAt := rfl }
  | returned => exact absurd rfl hstate
  | inactive => exact { hm with }
  | active => exact { hm with }

theorem erases_enterLifecycle {seen : LifecycleRead} {state : Roles.LifecycleState} {date : Instant}
    (hspared : seen.memberId ∈ erased → state ≠ .returned) :
    Tx.Keeps (MemberDb.Erases · erased) (enterLifecycle seen state date) := by
  refine Tx.Keeps.get_bind fun _ => (Tx.keeps_check _).bind fun _ => ?_
  refine (Tx.keeps_modify fun db h => ?_).bind fun _ =>
    (MemberDb.Erases.syncWhen _ _).bind fun _ => Tx.keeps_modify fun db h => ?_
  · apply MemberDb.Erases.edit h (Member.enter_id state seen.leftAt date)
    · intro m
      cases state <;> rfl
    · exact fun herased m hm => blank_enter (hspared herased) hm
  · -- the seats of the account are no identity roles of the member
    unfold deleteSeatsOf
    cases seen.account with
    | none => exact h
    | some userId => exact { h with }

theorem erases_setLifecycle {state : Roles.LifecycleState} {at_ : Option Instant} {now : Instant}
    (hspared : memberId ∈ erased → state ≠ .returned) :
    Tx.Keeps (MemberDb.Erases · erased) (setLifecycle memberId state at_ now) := by
  refine Tx.keeps_checked_bind fun db seen h hread => ?_
  cases seen with
  | none => exact h
  | some seen =>
    have hid : seen.memberId = memberId := by
      unfold setLifecycleRead at hread
      obtain ⟨member, _, hread⟩ := Tx.bind_eq_ok.mp hread
      have hseen := Except.ok.inj hread
      split at hseen
      · cases hseen
      · rw [← Option.some.inj hseen]
    have hkeeps : Tx.Keeps (MemberDb.Erases · erased) (enterLifecycle seen state (at_.getD now)) :=
      erases_enterLifecycle (by rw [hid]; exact hspared)
    exact hkeeps db h

theorem erases_place {groupId : Option Nat} (h : db.Erases erased)
    (hspared : memberId ∈ erased → groupId = none) : (db.place memberId groupId).Erases erased :=
  MemberDb.Erases.edit h (fun _ => rfl) (fun _ => rfl)
    fun herased _ hm => { hm with publisherGroupId := hspared herased }

theorem erases_setGroup {groupId : Option Nat} (hspared : memberId ∈ erased → groupId = none) :
    Tx.Keeps (MemberDb.Erases · erased) (setGroup rt memberId groupId) := by
  refine Tx.keeps_checked_bind fun db needed h _ => ?_
  cases needed with
  | true => exact erases_place h hspared
  | false => exact h

/-! ### Anonymizing -/

theorem blank_scrub (m : Member) (now : Instant) : (m.scrub m.leftAt now).Blank := by
  refine ⟨rfl, rfl, rfl, rfl, rfl, rfl, rfl, rfl, rfl, rfl, ?_⟩
  show (if m.leftAt.isNone then some now else m.leftAt).isSome
  cases m.leftAt <;> rfl

theorem leads_cleared {g' : PublisherGroup} {p : Nat} (hresp : db.responsibleFor p = none)
    (hg' : g' ∈ (db.updateGroups (·.deputyId == some p) fun g => { g with deputyId := none }).groups) :
    ¬g'.Leads p ∧ ∃ g ∈ db.groups, ∀ q, g'.Leads q → g.Leads q := by
  obtain ⟨g, hg, rfl⟩ := List.mem_map.mp hg'
  have hnot : g.responsibleId ≠ p := by simpa using List.find?_eq_none.mp hresp g hg
  cases hdeputy : g.deputyId == some p with
  | true =>
    rw [if_pos hdeputy]
    have honly : ∀ q, PublisherGroup.Leads { g with deputyId := none } q → g.responsibleId = q :=
      fun q hleads => hleads.elim id fun hdep => by cases hdep
    exact ⟨fun hleads => hnot (honly p hleads), g, hg, fun q hleads => .inl (honly q hleads)⟩
  | false =>
    rw [if_neg (by simp [hdeputy])]
    have hother : g.deputyId ≠ some p := by simpa using hdeputy
    exact ⟨fun hleads => hleads.elim hnot hother, g, hg, fun q hleads => hleads⟩

/-- **The member scrubbed joins the erased.** The deputies are cleared by hand, and whoever is a group's
overseer has been refused before. -/
theorem erases_scrubMember (h : db.Erases erased) {seen : Member} {now : Instant}
    (hmem : seen ∈ db.members) (hresp : db.responsibleFor seen.id = none) :
    ∃ db', (scrubMember seen now).exec db = (.ok (), db') ∧ db'.Erases (insert seen.id erased) := by
  have hfound : db.memberOrRefuse seen.id (.database .recordNotFound) = .ok seen := by
    have hfind : db.memberById seen.id = some seen := h.members_keyed.find?_eq_some.mpr ⟨hmem, rfl⟩
    rw [MemberDb.memberOrRefuse, hfind]
  let scrubbed := db.updateMember seen.id (Member.scrub seen.leftAt now)
  let cleared := scrubbed.updateGroups (·.deputyId == some seen.id) fun g => { g with deputyId := none }
  refine ⟨syncBuiltInRoleAssignments seen.id cleared, ?_, ?_⟩
  · unfold scrubMember
    rw [Tx.exec_bind_get, Tx.exec_bind, Tx.exec_check, hfound]
    rfl
  have hsame : ∀ m : Member, (if m.id = seen.id then m.scrub seen.leftAt now else m).id = m.id := by
    intro m
    split <;> rfl
  have hblank : ∀ m ∈ cleared.members, m.id ∈ insert seen.id erased → m.Blank := by
    intro m' hm' herased
    obtain ⟨m, hm, rfl⟩ := List.mem_map.mp hm'
    rw [hsame] at herased
    split
    · next hid =>
      rw [← h.members_keyed.eq_of_key hmem hm hid.symm]
      exact blank_scrub seen now
    · next hid => exact h.blank m hm (Set.mem_of_mem_insert_of_ne herased hid)
  have hhere : seen.id ∈ cleared.members.map (·.id) := by
    have hrow : _ ∈ cleared.members := List.mem_map_of_mem hmem
    rw [← hsame seen]
    exact List.mem_map_of_mem hrow
  refine ⟨h.members_keyed.map hsame, h.roles_keyed, ?_, hblank, ?_, ?_⟩
  · intro m' hm' hanonymized
    obtain ⟨m, hm, rfl⟩ := List.mem_map.mp hm'
    rw [hsame]
    split at hanonymized
    · next hid => exact Set.mem_insert_iff.mpr (.inl hid)
    · exact Set.mem_insert_of_mem _ (h.known m hm hanonymized)
  · intro g' hg' q hq
    obtain ⟨hnone, g, hg, hfewer⟩ := leads_cleared hresp hg'
    cases hq with
    | inl hseen => rw [hseen]; exact hnone
    | inr herased => exact fun hleads => h.leads g hg q herased (hfewer q hleads)
  · apply @identity_synced cleared _ seen.id h.roles_keyed
      fun m hm herased => (hblank m hm herased).leftAt
    intro a ha herased
    cases herased with
    | inl hseen => exact .inl ⟨hseen, hhere⟩
    | inr hold => exact .inr (h.identity a ha hold)

/-- A group keeps its overseer through it. -/
theorem responsibleFor_scrubMember {seen : Member} {now : Instant} {p : Nat} :
    Tx.Keeps (fun db => db.responsibleFor p ≠ none) (scrubMember seen now) := by
  refine Tx.Keeps.get_bind fun _ => (Tx.keeps_check _).bind fun _ => ?_
  have hclears : ∀ db : MemberDb, db.responsibleFor p ≠ none →
      (db.updateGroups (·.deputyId == some seen.id) fun g => { g with deputyId := none }).responsibleFor p ≠
        none := by
    intro db h hnone
    apply h
    refine List.find?_eq_none.mpr fun g hg => ?_
    have hwritten := List.find?_eq_none.mp hnone _ (List.mem_map_of_mem hg)
    split at hwritten <;> exact hwritten
  refine (Tx.keeps_modify ?_).bind fun _ => (Tx.keeps_modify hclears).bind fun _ => Tx.keeps_modify ?_
  · exact fun db h => h
  · exact fun db h => h

/-! ### Groups -/

/-- Whoever may lead has not left. -/
theorem MemberDb.Erases.not_mem_of_mayLead (h : db.Erases erased) {m : Member} (hm : m ∈ db.members)
    (hlead : m.mayLead = true) : m.id ∉ erased := by
  intro herased
  have hleft := (h.blank m hm herased).leftAt
  have hhere : m.leftAt.isNone = true := by
    unfold Member.mayLead at hlead
    simp only [Bool.and_eq_true] at hlead
    exact hlead.1.1.1
  rw [Option.isSome_iff_ne_none] at hleft
  exact hleft (Option.isNone_iff_eq_none.mp hhere)

theorem MemberDb.Erases.leader_not_mem (h : db.Erases erased) {editing : Option Nat} {field : String}
    {p : Nat} (hchecks : assertLeader db editing field p = .ok ()) : p ∉ erased := by
  unfold assertLeader at hchecks
  obtain ⟨_, heligible, _⟩ := Tx.bind_eq_ok.mp hchecks
  obtain ⟨m, hm, hid, hlead⟩ := not_not.mp (Tx.refuseWhen_ok.mp heligible)
  rw [← hid]
  exact h.not_mem_of_mayLead hm hlead

/-- The leaders the checks let through are none of the erased. -/
theorem MemberDb.Erases.leaders_not_mem (h : db.Erases erased) {params : UpdateGroupParams}
    {editing : Option Nat} (hchecks : assertGroupLeaders db (params.leaders editing) = .ok ()) :
    params.responsibleId ∉ erased ∧ ∀ p ∈ params.deputyId, p ∉ erased := by
  unfold assertGroupLeaders at hchecks
  obtain ⟨_, _, hchecks⟩ := Tx.bind_eq_ok.mp hchecks
  obtain ⟨_, hresp, hdeputy⟩ := Tx.bind_eq_ok.mp hchecks
  refine ⟨h.leader_not_mem hresp, fun p hp => ?_⟩
  have hchosen : (params.leaders editing).deputyId = some p := hp
  rw [hchosen] at hdeputy
  exact h.leader_not_mem hdeputy

theorem not_leads_row {params : UpdateGroupParams} {gid q : Nat}
    (hfree : params.responsibleId ∉ erased ∧ ∀ p ∈ params.deputyId, p ∉ erased) (hq : q ∈ erased) :
    ¬(params.row gid).Leads q := by
  intro hleads
  cases hleads with
  | inl hresp =>
    have hsame : params.responsibleId = q := hresp
    exact hfree.1 (hsame ▸ hq)
  | inr hdeputy => exact hfree.2 q hdeputy hq

theorem erases_joinLedGroup {params : UpdateGroupParams}
    (hfree : params.responsibleId ∉ erased ∧ ∀ p ∈ params.deputyId, p ∉ erased) :
    Tx.Keeps (MemberDb.Erases · erased) (joinLedGroup rt groupId params) := by
  unfold joinLedGroup
  refine (erases_setGroup fun herased => absurd herased hfree.1).bind fun _ => ?_
  cases hdeputy : params.deputyId with
  | none => exact Tx.keeps_pure _
  | some p => exact erases_setGroup fun herased => absurd herased (hfree.2 p hdeputy)

theorem erases_createPublisherGroup {params : UpdateGroupParams} :
    Tx.Keeps (MemberDb.Erases · erased) (createPublisherGroup rt params) := by
  refine Tx.keeps_checked_bind fun db _ h hchecks => ?_
  unfold createGroupChecks at hchecks
  obtain ⟨_, hleaders, _⟩ := Tx.bind_eq_ok.mp hchecks
  have hfree := h.leaders_not_mem hleaders
  have hcreated : (db.createGroup params.row).Erases erased := by
    apply MemberDb.Erases.regroup h
    intro g hg q hq
    cases List.mem_append.mp hg with
    | inl hold => exact h.leads g hold q hq
    | inr hnew =>
      rw [List.mem_singleton.mp hnew]
      exact not_leads_row hfree hq
  rw [Tx.exec_bind_modify]
  exact ((erases_joinLedGroup hfree).bind fun _ => Tx.keeps_pure _) _ hcreated

theorem erases_updateGroup {params : UpdateGroupParams} :
    Tx.Keeps (MemberDb.Erases · erased) (updateGroup rt groupId params) := by
  refine Tx.keeps_checked_bind fun db _ h hchecks => ?_
  unfold updateGroupChecks at hchecks
  obtain ⟨_, hleaders, _⟩ := Tx.bind_eq_ok.mp hchecks
  have hfree := h.leaders_not_mem hleaders
  have hwritten : (db.updateGroups (·.id == groupId) fun g => params.row g.id).Erases erased := by
    apply MemberDb.Erases.regroup h
    intro g' hg' q hq
    obtain ⟨g, hg, rfl⟩ := List.mem_map.mp hg'
    split
    · exact not_leads_row hfree hq
    · exact h.leads g hg q hq
  rw [Tx.exec_bind_modify]
  exact ((erases_joinLedGroup hfree).bind fun _ => Tx.keeps_pure _) _ hwritten

theorem erases_deletePublisherGroup :
    Tx.Keeps (MemberDb.Erases · erased) (deletePublisherGroup groupId) :=
  Tx.keeps_checked_bind fun _ _ h _ => MemberDb.Erases.deleteGroup h groupId

/-- Only an active publisher is added to a group. -/
theorem erases_addGroupMember :
    Tx.Keeps (MemberDb.Erases · erased) (addGroupMember rt groupId memberId) := by
  refine Tx.keeps_checked_bind fun db name h hchecks => ?_
  have hactive : memberId ∉ erased := by
    unfold addGroupMemberChecks at hchecks
    cases hgroup : db.groupById groupId with
    | none => simp [hgroup] at hchecks
    | some group =>
      cases hfound : db.members.find? fun m => m.id == memberId && m.isPublisher && m.counts with
      | none => simp [hgroup, hfound] at hchecks
      | some m =>
        have hm := List.mem_of_find?_eq_some hfound
        have hsel := List.find?_some hfound
        simp only [Bool.and_eq_true, beq_iff_eq, Member.counts, Option.isNone_iff_eq_none] at hsel
        intro herased
        have hleft := (h.blank m hm (by rw [hsel.1.1]; exact herased)).leftAt
        rw [hsel.2.1] at hleft
        cases hleft
  exact ((erases_setGroup fun herased => absurd herased hactive).bind fun _ => Tx.keeps_pure _) db h

theorem erases_removeGroupMember :
    Tx.Keeps (MemberDb.Erases · erased) (removeGroupMember rt groupId memberId) := by
  refine Tx.Keeps.get_bind fun _ => (Tx.keeps_check _).bind fun _ => ?_
  exact (erases_setGroup fun _ => rfl).bind fun _ => Tx.keeps_pure _

end Operations

end Unitae.Publishers
