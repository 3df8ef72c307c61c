import Unitae.Publishers.EnrolmentWorkflow
import Unitae.Publishers.ErasedMembers
import Unitae.Publishers.MemberLimit

/-!
# Unitae — identity roles mirror the member's facts

A member is mirrored when the identity rows are those that the predicates ask for, on the member's flags and
stints. Members whose facts were written since their last sync are stale: a write makes its member stale, a
sync makes a member fresh. Each operation of the member aggregate and of the enrolment workflow ends with the
syncs of those it made stale, or has changed nothing that a predicate reads.
-/

namespace Unitae.Publishers

/-- The identity roles of the member are those asked for. -/
def MemberDb.Mirrored (db : MemberDb) (m : Member) : Prop :=
  ∀ role ∈ db.roles, Roles.isIdentityRoleKey role.key = true →
    ((⟨m.id, role.id⟩ : Roles.MemberRoleAssignment) ∈ db.memberRoleAssignments ↔
      Roles.builtInRolePredicate role.key (db.identity m) = true)

/-- All but the stale members are mirrored, and no account holds an identity role. No member operation writes
roles or accounts, of which more may be `asked`. -/
structure IdentitySound (asked : List Roles.Role → List Roles.UserAccount → Prop) (stale : Nat → Prop)
    (db : MemberDb) : Prop where
  members : MembersKeyed db
  roles : Keyed Roles.Role.id db.roles
  stints : StintsKeyed db.publisherDb
  reports : ∀ r ∈ db.activity, r.publisherId ∈ db.members.map (·.id)
  unwritten : asked db.roles db.accounts
  mirrored : ∀ m ∈ db.members, ¬stale m.id → db.Mirrored m
  seats : ∀ a ∈ db.userRoleAssignments, db.NoIdentityRole a.roleId

/-! ## What the predicates read -/

/-- The flags of the predicates. -/
structure Member.SameFlags (m m' : Member) : Prop where
  isMale : m'.isMale = m.isMale
  isPublisher : m'.isPublisher = m.isPublisher
  baptismDate : m'.baptismDate = m.baptismDate
  isAnointed : m'.isAnointed = m.isAnointed
  isHelder : m'.isHelder = m.isHelder
  isServant : m'.isServant = m.isServant
  leftAt : m'.leftAt = m.leftAt

/-- The standing type that a member's stints give. -/
def MemberDb.standingType (db : MemberDb) (memberId : Nat) : Roles.PublisherType :=
  Roles.standingTypeFromEnrolments (db.publisherDb.periodsOf memberId)

/-- The flags a pioneer has, whatever the stints. -/
def Member.mayPioneer (m : Member) : Bool := m.leftAt.isNone && m.isPublisher && m.baptismDate.isSome

section Predicates

variable {db db' : MemberDb} {m m' : Member}

theorem Member.SameFlags.mayPioneer (h : m.SameFlags m') : m'.mayPioneer = m.mayPioneer := by
  unfold Member.mayPioneer
  rw [h.leftAt, h.isPublisher, h.baptismDate]

/-- Of the stints the predicates read no more than whether they make a pioneer of one who may be one. -/
theorem builtInRolePredicate_congr (hflags : m.SameFlags m')
    (hstanding : m.mayPioneer = true →
      ((db'.standingType m'.id != .normal) = (db.standingType m.id != .normal))) (key : String) :
    Roles.builtInRolePredicate key (db'.identity m') = Roles.builtInRolePredicate key (db.identity m) := by
  have hpioneer : (m'.leftAt.isNone && m'.isPublisher && m'.baptismDate.isSome &&
      (db'.standingType m'.id != .normal)) =
        (m.leftAt.isNone && m.isPublisher && m.baptismDate.isSome && (db.standingType m.id != .normal)) := by
    rw [hflags.leftAt, hflags.isPublisher, hflags.baptismDate]
    cases hmay : m.leftAt.isNone && m.isPublisher && m.baptismDate.isSome with
    | false => rfl
    | true => rw [hstanding hmay]
  have hflags' : (db'.identity m').leftAt = m.leftAt ∧ (db'.identity m').isPublisher = m.isPublisher ∧
      (db'.identity m').baptismDate = m.baptismDate ∧ (db'.identity m').isMale = m.isMale ∧
      (db'.identity m').isAnointed = m.isAnointed ∧ (db'.identity m').isHelder = m.isHelder ∧
      (db'.identity m').isServant = m.isServant :=
    ⟨hflags.leftAt, hflags.isPublisher, hflags.baptismDate, hflags.isMale, hflags.isAnointed, hflags.isHelder,
      hflags.isServant⟩
  obtain ⟨hleft, hpublisher, hbaptism, hmale, hanointed, helder, hservant⟩ := hflags'
  rw [hflags.leftAt, hflags.isPublisher, hflags.baptismDate] at hpioneer
  unfold Roles.builtInRolePredicate
  simp only [hleft, hpublisher, hbaptism, hmale, hanointed, helder, hservant]
  by_cases hkey : key = "pioneer"
  · subst hkey
    exact hpioneer
  · simp only [if_neg hkey]
    rfl

end Predicates

/-! ## Writes and syncs -/

section Writes

variable {asked asked' : List Roles.Role → List Roles.UserAccount → Prop} {stale stale' : Nat → Prop}
  {db db' : MemberDb} {p : Nat}

theorem IdentitySound.mono (h : IdentitySound asked stale db) (hle : ∀ q, stale q → stale' q) :
    IdentitySound asked stale' db :=
  { h with mirrored := fun m hm hfresh => h.mirrored m hm fun hstale => hfresh (hle _ hstale) }

/-- The tables that matter, unchanged. -/
theorem IdentitySound.congr (h : IdentitySound asked stale db) (hmembers : db'.members = db.members)
    (hnext : db'.nextMemberId = db.nextMemberId) (hroles : db'.roles = db.roles)
    (haccounts : db'.accounts = db.accounts) (henrolments : db'.enrolments = db.enrolments)
    (hnextEnrolment : db'.nextEnrolmentId = db.nextEnrolmentId) (hactivity : db'.activity = db.activity)
    (hidentity : db'.memberRoleAssignments = db.memberRoleAssignments)
    (hseats : ∀ a ∈ db'.userRoleAssignments, a ∈ db.userRoleAssignments) : IdentitySound asked stale db' := by
  have hstints : db'.publisherDb = db.publisherDb := by
    unfold MemberDb.publisherDb
    rw [henrolments, hactivity, hmembers, hnextEnrolment]
  have hident : ∀ m, db'.identity m = db.identity m := by
    intro m
    unfold MemberDb.identity
    rw [henrolments]
  refine ⟨⟨?_, ?_⟩, ?_, ?_, ?_, ?_, ?_, ?_⟩
  · rw [hmembers]
    exact h.members.keyed
  · rw [hmembers, hnext]
    exact h.members.id_lt
  · rw [hroles]
    exact h.roles
  · rw [hstints]
    exact h.stints
  · rw [hactivity, hmembers]
    exact h.reports
  · rw [hroles, haccounts]
    exact h.unwritten
  · rw [hmembers]
    intro m hm hfresh role hrole hkey
    rw [hroles] at hrole
    rw [hidentity, hident]
    exact h.mirrored m hm hfresh role hrole hkey
  · intro a ha role hrole
    rw [hroles] at hrole
    exact h.seats a (hseats a ha) role hrole

/-- **A sync makes its member fresh**, and touches no other. -/
theorem IdentitySound.sync (h : IdentitySound asked stale db) :
    IdentitySound asked (fun q => stale q ∧ q ≠ p) (syncBuiltInRoleAssignments p db) := by
  refine ⟨⟨h.members.keyed, h.members.id_lt⟩, h.roles, h.stints, h.reports, h.unwritten,
    fun m hm hfresh role hrole hkey => ?_, h.seats⟩
  show (⟨m.id, role.id⟩ : Roles.MemberRoleAssignment) ∈
    (Roles.syncBuiltInRoleAssignments p db.roleDb).memberRoleAssignments ↔ _
  have hidentity : db.roleDb.identityRole role.id = some role := by
    cases hfound : db.roleDb.identityRole role.id with
    | none =>
      have hnone := List.find?_eq_none.mp hfound role hrole
      simp only [beq_self_eq_true, Bool.true_and] at hnone
      exact absurd hkey hnone
    | some found =>
      have hid := List.find?_some hfound
      rw [Bool.and_eq_true, beq_iff_eq] at hid
      rw [h.roles.eq_of_key (List.mem_of_find?_eq_some hfound) hrole hid.1]
  cases hfound : db.roleDb.memberById p with
  | none =>
    -- no such member, and nothing is written
    have hother : m.id ≠ p := by
      intro hsame
      have hnone := List.find?_eq_none.mp hfound (db.identity m) (List.mem_map_of_mem hm)
      exact hnone (beq_iff_eq.mpr hsame)
    unfold Roles.syncBuiltInRoleAssignments
    rw [hfound]
    exact h.mirrored m hm (fun hstale => hfresh ⟨hstale, hother⟩) role hrole hkey
  | some member =>
    have hmem : member ∈ db.members.map db.identity := List.mem_of_find?_eq_some hfound
    have hmemberId : member.id = p := by simpa using List.find?_some hfound
    subst hmemberId
    rw [Roles.mem_synced h.roles hfound, hidentity]
    show (if m.id = member.id then _ else _) ↔ _
    by_cases hsame : m.id = member.id
    · obtain ⟨m', hm', rfl⟩ := List.mem_map.mp hmem
      obtain rfl : m = m' := h.members.keyed.eq_of_key hm hm' hsame
      rw [if_pos hsame]
      exact Iff.rfl
    · rw [if_neg hsame]
      exact h.mirrored m hm (fun hstale => hfresh ⟨hstale, hsame⟩) role hrole hkey

/-- A write and the sync of its member. -/
theorem IdentitySound.synced (h : IdentitySound asked (fun q => stale q ∨ q = p) db) :
    IdentitySound asked stale (syncBuiltInRoleAssignments p db) :=
  h.sync.mono fun _ hq => hq.1.resolve_right hq.2

/-- The rewrite of a member makes the member stale. -/
theorem IdentitySound.updateMember (h : IdentitySound asked stale db) {data : Member → Member}
    (hid : ∀ m, (data m).id = m.id) :
    IdentitySound asked (fun q => stale q ∨ q = p) (db.updateMember p data) := by
  have hsame : ∀ m : Member, (if m.id = p then data m else m).id = m.id := fun m => column_ite (hid m)
  have hids : (db.updateMember p data).members.map (·.id) = db.members.map (·.id) := by
    rw [MemberDb.updateMember_members, List.map_map]
    exact List.map_congr_left fun m _ => hsame m
  have hstints : (db.updateMember p data).publisherDb = db.publisherDb := by
    unfold MemberDb.publisherDb
    rw [hids]
    rfl
  refine ⟨⟨h.members.keyed.map hsame, ?_⟩, h.roles, hstints ▸ h.stints, ?_, h.unwritten, ?_, h.seats⟩
  · intro m' hm'
    obtain ⟨m, hm, rfl⟩ := List.mem_map.mp hm'
    rw [hsame]
    exact h.members.id_lt m hm
  · rw [hids]
    exact h.reports
  · intro m' hm' hfresh
    obtain ⟨m, hm, rfl⟩ := List.mem_map.mp hm'
    rw [hsame] at hfresh
    rw [if_neg fun hp => hfresh (.inr hp)]
    exact h.mirrored m hm fun hstale => hfresh (.inl hstale)

/-- A rewrite that leaves the flags is none for the predicates. -/
theorem IdentitySound.updateOther (h : IdentitySound asked stale db) {data : Member → Member}
    (hid : ∀ m, (data m).id = m.id) (hflags : ∀ m ∈ db.members, m.id = p → m.SameFlags (data m)) :
    IdentitySound asked stale (db.updateMember p data) := by
  refine { h.updateMember hid with mirrored := ?_ }
  intro m' hm' hfresh role hrole hkey
  obtain ⟨m, hm, rfl⟩ := List.mem_map.mp hm'
  have hsame : (if m.id = p then data m else m).id = m.id := column_ite (hid m)
  have hread : Roles.builtInRolePredicate role.key ((db.updateMember p data).identity
      (if m.id = p then data m else m)) = Roles.builtInRolePredicate role.key (db.identity m) := by
    refine builtInRolePredicate_congr ?_ (fun _ => ?_) _
    · split
      · next hp => exact hflags m hm hp
      · exact ⟨rfl, rfl, rfl, rfl, rfl, rfl, rfl⟩
    · unfold MemberDb.standingType
      rw [hsame]
      rfl
  rw [hsame] at hfresh
  rw [hread, hsame]
  exact h.mirrored m hm hfresh role hrole hkey

/-- A new member is stale. -/
theorem IdentitySound.createMember (h : IdentitySound asked stale db) {row : Nat → Member}
    (hid : ∀ n, (row n).id = n) :
    IdentitySound asked (fun q => stale q ∨ q = db.nextMemberId) (db.createMember row) := by
  have hids : (db.createMember row).members.map (·.id) = db.members.map (·.id) ++ [db.nextMemberId] := by
    rw [MemberDb.createMember_members, List.map_append, List.map_singleton, hid]
  refine ⟨⟨h.members.keyed.append_next h.members.id_lt (hid _), lt_append_next h.members.id_lt (hid _)⟩, h.roles,
    ⟨h.stints.keyed, h.stints.id_lt, fun e he => ?_⟩, fun r hr => ?_, h.unwritten, ?_, h.seats⟩
  · show e.memberId ∈ (db.createMember row).members.map (·.id)
    rw [hids]
    exact List.mem_append_left _ (h.stints.known e he)
  · rw [hids]
    exact List.mem_append_left _ (h.reports r hr)
  · intro m hm hfresh
    rcases List.mem_append.mp hm with hold | hnew
    · exact h.mirrored m hold fun hstale => hfresh (.inl hstale)
    · rw [List.mem_singleton.mp hnew, hid] at hfresh
      exact absurd (.inr rfl) hfresh

/-- The stints written are the ones seen. -/
theorem withStints_publisherDb {stints : PublisherDb} (hmembers : stints.members = db.publisherDb.members)
    (hactivity : stints.activity = db.publisherDb.activity) : (db.withStints stints).publisherDb = stints := by
  unfold MemberDb.publisherDb at hmembers hactivity ⊢
  cases stints
  simp only at hmembers hactivity
  simp [MemberDb.withStints, hmembers, hactivity]

/-- Other stints, under which the members that are not stale are standing pioneers as before, if they may be. -/
theorem IdentitySound.restint (h : IdentitySound asked stale db) {stints : PublisherDb} (hkeyed : StintsKeyed stints)
    (hmembers : stints.members = db.publisherDb.members) (hactivity : stints.activity = db.publisherDb.activity)
    (hle : ∀ q, stale q → stale' q)
    (hstanding : ∀ m ∈ db.members, ¬stale' m.id → m.mayPioneer = true →
      ((Roles.standingTypeFromEnrolments (stints.periodsOf m.id) != .normal) =
        (db.standingType m.id != .normal))) :
    IdentitySound asked stale' (db.withStints stints) := by
  have hstints := withStints_publisherDb hmembers hactivity
  refine ⟨⟨h.members.keyed, h.members.id_lt⟩, h.roles, hstints ▸ hkeyed, h.reports, h.unwritten,
    fun m hm hfresh role hrole hkey => ?_, h.seats⟩
  have hread : Roles.builtInRolePredicate role.key ((db.withStints stints).identity m) =
      Roles.builtInRolePredicate role.key (db.identity m) := by
    refine builtInRolePredicate_congr ⟨rfl, rfl, rfl, rfl, rfl, rfl, rfl⟩ (fun hmay => ?_) _
    have hthere := hstanding m hm hfresh hmay
    unfold MemberDb.standingType at hthere ⊢
    rw [hstints]
    exact hthere
  rw [hread]
  exact h.mirrored m hm (fun hstale => hfresh (hle _ hstale)) role hrole hkey

/-- The writes of stints make their members stale. -/
theorem IdentitySound.withStints (h : IdentitySound asked stale db) {ids : List Nat} {stints : PublisherDb}
    (hwrites : WritesStintsAmong db.publisherDb ids stints) :
    IdentitySound asked (fun q => stale q ∨ q ∈ ids) (db.withStints stints) := by
  refine h.restint hwrites.keyed hwrites.members hwrites.activity (fun _ => .inl) fun m _ hfresh _ => ?_
  unfold MemberDb.standingType PublisherDb.periodsOf
  rw [hwrites.others m.id fun hin => hfresh (.inr hin)]

/-- Other roles, of which none is an identity role that was not there. -/
theorem IdentitySound.withRoles (h : IdentitySound asked stale db) {roles : List Roles.Role}
    (hkeyed : Keyed Roles.Role.id roles)
    (hidentity : ∀ role ∈ roles, Roles.isIdentityRoleKey role.key = true →
      ∃ role₀ ∈ db.roles, role₀.id = role.id ∧ role₀.key = role.key)
    (hasked : asked' roles db.accounts) : IdentitySound asked' stale { db with roles := roles } := by
  refine ⟨⟨h.members.keyed, h.members.id_lt⟩, hkeyed, h.stints, h.reports, hasked,
    fun m hm hfresh role hrole hkey => ?_, fun a ha role hrole hid => ?_⟩
  · obtain ⟨role₀, hrole₀, hid₀, hkey₀⟩ := hidentity role hrole hkey
    rw [← hid₀, ← hkey₀]
    rw [← hkey₀] at hkey
    exact h.mirrored m hm hfresh role₀ hrole₀ hkey
  · rw [Bool.eq_false_iff]
    intro hkey
    obtain ⟨role₀, hrole₀, hid₀, hkey₀⟩ := hidentity role hrole hkey
    have hnone := h.seats a ha role₀ hrole₀ (hid₀.trans hid)
    rw [hkey₀, hkey] at hnone
    cases hnone

/-- Other reports, of members who are there. -/
theorem IdentitySound.withReports (h : IdentitySound asked stale db) {activity : List PublisherActivity}
    (hknown : ∀ r ∈ activity, r.publisherId ∈ db.members.map (·.id)) :
    IdentitySound asked stale { db with activity := activity } :=
  ⟨⟨h.members.keyed, h.members.id_lt⟩, h.roles, ⟨h.stints.keyed, h.stints.id_lt, h.stints.known⟩, hknown,
    h.unwritten, h.mirrored, h.seats⟩

/-- Other accounts. -/
theorem IdentitySound.withAccounts (h : IdentitySound asked stale db) {accounts : List Roles.UserAccount}
    (hasked : asked' db.roles accounts) : IdentitySound asked' stale { db with accounts := accounts } :=
  ⟨⟨h.members.keyed, h.members.id_lt⟩, h.roles, h.stints, h.reports, hasked, h.mirrored, h.seats⟩

end Writes

/-! ## The operations -/

/-- No member is stale. -/
def nobody : Nat → Prop := fun _ => False

section Operations

variable {asked : List Roles.Role → List Roles.UserAccount → Prop} {rt : PersonText} {db db' : MemberDb}
  {memberId : Nat}

theorem insertMember_mirrors {row : Nat → Member} (hid : ∀ n, (row n).id = n) :
    Tx.Keeps (IdentitySound asked nobody) (insertMember row) := by
  refine Tx.keeps_checked_bind fun db _ h _ => ?_
  exact (h.createMember hid).synced

theorem createMember_mirrors {maxPublishers : Option Nat} {params : MemberFormFields} :
    Tx.Keeps (IdentitySound asked nobody) (createMember rt maxPublishers params) := by
  refine Tx.keeps_checked_bind fun db row h hchecks => ?_
  unfold createMemberChecks at hchecks
  obtain ⟨_, -, hchecks⟩ := Tx.bind_eq_ok.mp hchecks
  obtain ⟨data, -, hchecks⟩ := Tx.bind_eq_ok.mp hchecks
  obtain rfl : newPublisher data = row := Except.ok.inj hchecks
  exact insertMember_mirrors (fun _ => rfl) db h

theorem createDirect_mirrors {params : CreateDirectParams} :
    Tx.Keeps (IdentitySound asked nobody) (createDirect params) :=
  insertMember_mirrors fun _ => rfl

/-- The flags that are compared before a sync are those that the predicates read. -/
theorem sameFlags_of_unchanged {before after : Member} (h : haveIdentityFlagsChanged before after = false) :
    before.SameFlags after := by
  simp only [haveIdentityFlagsChanged, Bool.or_eq_false_iff, bne_eq_false_iff_eq] at h
  obtain ⟨⟨⟨⟨⟨⟨hpublisher, hmale⟩, hbaptism⟩, hanointed⟩, helder⟩, hservant⟩, hleft⟩ := h
  exact ⟨hmale.symm, hpublisher.symm, hbaptism.symm, hanointed.symm, helder.symm, hservant.symm, hleft.symm⟩

theorem updateIdentity_mirrors {params : MemberFormFields} :
    Tx.Keeps (IdentitySound asked nobody) (updateIdentity rt memberId params) := by
  refine Tx.keeps_checked_bind fun db out h hchecks => ?_
  obtain ⟨hfound, -, -⟩ := updateIdentityChecks_ok hchecks
  obtain ⟨hbefore, hid⟩ := memberOrRefuse_ok hfound
  show IdentitySound asked nobody ((syncWhen (haveIdentityFlagsChanged out.1 (out.2.write out.1)) memberId >>=
    fun _ => pure (out.2.write out.1) : MemberTx Member).exec (db.updateMember memberId out.2.write)).2
  rw [Tx.exec_bind, syncWhen_exec]
  cases hchanged : haveIdentityFlagsChanged out.1 (out.2.write out.1) with
  | true =>
    have hwritten := @IdentitySound.updateMember asked nobody db memberId h out.2.write fun _ => rfl
    exact hwritten.synced
  | false =>
    refine IdentitySound.updateOther h (fun _ => rfl) fun m hm hmid => ?_
    obtain rfl : out.1 = m := h.members.keyed.eq_of_key hbefore hm (hid.trans hmid.symm)
    exact sameFlags_of_unchanged hchanged

theorem togglePublisher_mirrors {isPublisher : Bool} :
    Tx.Keeps (IdentitySound asked nobody) (togglePublisher memberId isPublisher) := by
  refine Tx.keeps_checked_bind fun db _ h _ => ?_
  have hwritten := @IdentitySound.updateMember asked nobody db memberId h
    (fun m => { m with isPublisher := isPublisher }) fun _ => rfl
  exact hwritten.synced

theorem IdentitySound.deleteSeatsOf (h : IdentitySound asked nobody db) (account : Option Nat) :
    IdentitySound asked nobody (deleteSeatsOf account db) := by
  cases account with
  | none => exact h
  | some userId =>
    exact h.congr rfl rfl rfl rfl rfl rfl rfl rfl fun a ha => List.mem_of_mem_filter ha

theorem enterLifecycle_mirrors {seen : LifecycleRead} {state : Roles.LifecycleState} {date : Instant} :
    Tx.Keeps (IdentitySound asked nobody) (enterLifecycle seen state date) := by
  refine Tx.keeps_checked_bind fun db _ h _ => ?_
  show IdentitySound asked nobody ((syncWhen state.syncsRoles seen.memberId >>=
    fun _ => modify (Publishers.deleteSeatsOf seen.account) : MemberTx Unit).exec
      (db.updateMember seen.memberId (Member.enter state seen.leftAt date))).2
  rw [Tx.exec_bind, syncWhen_exec]
  refine IdentitySound.deleteSeatsOf ?_ seen.account
  cases hsyncs : state.syncsRoles with
  | true => exact (IdentitySound.updateMember h (Member.enter_id state seen.leftAt date)).synced
  | false =>
    -- a state that asks for no sync moves `inactiveAt` alone
    refine IdentitySound.updateOther h (Member.enter_id state seen.leftAt date) fun m _ _ => ?_
    cases state with
    | left => cases hsyncs
    | returned => cases hsyncs
    | inactive => exact ⟨rfl, rfl, rfl, rfl, rfl, rfl, rfl⟩
    | active => exact ⟨rfl, rfl, rfl, rfl, rfl, rfl, rfl⟩

theorem setLifecycle_mirrors {state : Roles.LifecycleState} {at_ : Option Instant} {now : Instant} :
    Tx.Keeps (IdentitySound asked nobody) (setLifecycle memberId state at_ now) := by
  refine Tx.keeps_checked_bind fun db seen h _ => ?_
  cases seen with
  | none => exact h
  | some seen => exact enterLifecycle_mirrors db h

theorem anonymize_mirrors {now : Instant} : Tx.Keeps (IdentitySound asked nobody) (anonymize memberId now) := by
  refine Tx.keeps_checked_bind fun db seen h _ => ?_
  cases seen with
  | none => exact h
  | some seen =>
    have hscrub : Tx.Keeps (IdentitySound asked nobody) (scrubMember seen now) := by
      refine Tx.keeps_checked_bind fun db _ h _ => ?_
      have hwritten := @IdentitySound.updateMember asked nobody db seen.id h (Member.scrub seen.leftAt now)
        fun _ => rfl
      have hcleared : IdentitySound asked (fun q => nobody q ∨ q = seen.id)
          ((db.updateMember seen.id (Member.scrub seen.leftAt now)).updateGroups (·.deputyId == some seen.id)
            fun g => { g with deputyId := none }) :=
        hwritten.congr rfl rfl rfl rfl rfl rfl rfl rfl fun _ ha => ha
      exact hcleared.synced
    exact hscrub db h

/-! ### The enrolment workflow -/

theorem inEnrolments_ok {α : Type} {x : EnrolmentTx α} {a : α}
    (h : (inEnrolments x).exec db = (.ok a, db')) :
    ∃ stints, x.exec db.publisherDb = (.ok a, stints) ∧ db' = db.withStints stints :=
  Tx.exec_on_ok.mp h

theorem WritesStintsOf.among {stints stints' : PublisherDb} (h : WritesStintsOf stints memberId stints') :
    WritesStintsAmong stints [memberId] stints' :=
  ⟨h.keyed, h.members, h.activity, fun p hp => h.others p fun heq => hp (heq ▸ List.mem_singleton_self p)⟩

/-- A stint of one member written, and the member synced. -/
theorem workflow_mirrors {x : EnrolmentTx PioneerEnrolment} {member : PioneerEnrolment → Nat}
    (hwrites : ∀ (stints stints' : PublisherDb) (e : PioneerEnrolment), StintsKeyed stints →
      x.exec stints = (.ok e, stints') → WritesStintsOf stints (member e) stints')
    {e : PioneerEnrolment} (h : IdentitySound asked nobody db)
    (hexec : ((do
      let enrolment ← inEnrolments x
      modify (syncBuiltInRoleAssignments (member enrolment))
      return enrolment) : MemberTx PioneerEnrolment).exec db = (.ok e, db')) :
    IdentitySound asked nobody db' := by
  obtain ⟨e', db₁, hstints, hrest⟩ := Tx.exec_bind_ok.mp hexec
  obtain ⟨stints, hx, rfl⟩ := inEnrolments_ok hstints
  rw [Tx.exec_bind_modify] at hrest
  obtain ⟨-, rfl⟩ := Tx.exec_pure_ok.mp hrest
  have hwritten := h.withStints (hwrites _ _ _ h.stints hx).among
  exact (hwritten.mono fun q hq => hq.imp_right List.mem_singleton.mp).synced

theorem enrolPioneer_mirrors {params : OpenEnrolmentParams} {e : PioneerEnrolment}
    (h : IdentitySound asked nobody db) (hexec : (enrolPioneer memberId params).exec db = (.ok e, db')) :
    IdentitySound asked nobody db' :=
  workflow_mirrors (fun _ _ _ hs hx => openEnrolment_writes hs hx) h hexec

theorem endPioneerEnrolment_mirrors {enrolmentId : Nat} {stop : EndMonth} {e : PioneerEnrolment}
    (h : IdentitySound asked nobody db) (hexec : (endPioneerEnrolment enrolmentId stop).exec db = (.ok e, db')) :
    IdentitySound asked nobody db' :=
  workflow_mirrors (fun _ _ _ hs hx => closeEnrolment_writes hs hx) h hexec

theorem updatePioneerEnrolment_mirrors {enrolmentId : Nat} {params : UpdateEnrolmentParams}
    {e : PioneerEnrolment} (h : IdentitySound asked nobody db)
    (hexec : (updatePioneerEnrolment enrolmentId params).exec db = (.ok e, db')) :
    IdentitySound asked nobody db' :=
  workflow_mirrors (fun _ _ _ hs hx => updateEnrolment_writes hs hx) h hexec

theorem removePioneerEnrolment_mirrors {enrolmentId : Nat} {e : PioneerEnrolment}
    (h : IdentitySound asked nobody db)
    (hexec : (removePioneerEnrolment enrolmentId).exec db = (.ok e, db')) : IdentitySound asked nobody db' :=
  workflow_mirrors (fun _ _ _ hs hx => deleteEnrolment_writes hs hx) h hexec

/-- One sync for each of the members makes them all fresh. -/
theorem IdentitySound.syncAll {stale : Nat → Prop} {ids : List Nat}
    (h : IdentitySound asked (fun q => stale q ∨ q ∈ ids) db)
    (hexec : (ids.forM fun p => (modify (syncBuiltInRoleAssignments p) : MemberTx PUnit)).exec db =
      (.ok (), db')) : IdentitySound asked stale db' := by
  induction ids generalizing db with
  | nil =>
    obtain ⟨-, rfl⟩ := Tx.exec_pure_ok.mp hexec
    exact h.mono fun q hq => hq.resolve_right List.not_mem_nil
  | cons p ids ih =>
    have hsynced : IdentitySound asked (fun q => stale q ∨ q ∈ ids) (syncBuiltInRoleAssignments p db) :=
      h.sync.mono fun q hq => hq.1.imp_right fun hin => (List.mem_cons.mp hin).resolve_left hq.2
    exact ih hsynced hexec

theorem endOngoingStints_mirrors {type : PublisherType} {stop : EndMonth} {ended : Ended}
    (h : IdentitySound asked nobody db) (hexec : (endOngoingStints type stop).exec db = (.ok ended, db')) :
    IdentitySound asked nobody db' := by
  unfold endOngoingStints at hexec
  rw [Tx.exec_bind_get] at hexec
  obtain ⟨ended', db₁, hstints, hrest⟩ := Tx.exec_bind_ok.mp hexec
  obtain ⟨stints, hx, rfl⟩ := inEnrolments_ok hstints
  obtain ⟨db₂, hsyncs, hret⟩ := Tx.exec_seq_ok.mp hrest
  obtain ⟨-, rfl⟩ := Tx.exec_pure_ok.mp hret
  have hwritten := h.withStints (endOngoing_writes h.stints hx)
  exact (hwritten.mono fun q hq => hq.imp_right List.mem_eraseDups.mpr).syncAll hsyncs

end Operations

end Unitae.Publishers
