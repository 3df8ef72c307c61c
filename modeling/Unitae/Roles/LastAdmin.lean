import Unitae.Roles.Grants

/-!
# Unitae — the last administrator

`requireNotLastAdmin` is called « from any path that may remove can-do-anything ». It counts account
rows, deactivated and anonymized ones among them, and half of the paths do not call it. What a call
leaves of the ways to can-do-anything is read off the state before it (`Request.KeepsAnAdmin`);
`admin_kept_iff` says that this is exactly when an administrator who can sign in is left.
-/

namespace Unitae.Roles

/-- The account can sign in. -/
def UserAccount.Usable (acc : UserAccount) : Prop := acc.active = true ∧ acc.anonymizedAt = none

instance (acc : UserAccount) : Decidable acc.Usable := inferInstanceAs (Decidable (_ ∧ _))

/-- Someone can administer the congregation. -/
def RoleDb.AdminExists (db : RoleDb) : Prop :=
  ∃ acc ∈ db.accounts, acc.Usable ∧ canDoAnything ∈ resolveEffectivePermissions db acc.id

instance (db : RoleDb) : Decidable db.AdminExists := inferInstanceAs (Decidable (∃ _ ∈ _, _))

/-- An account that is `usable` reaches a role that is a `carrier`, by a seat or through its member. -/
def SomeAdmin (accounts : List UserAccount) (usable : UserAccount → Prop) (carrier : Nat → Prop)
    (seated : Nat → Nat → Prop) (holds : UserAccount → Nat → Prop) : Prop :=
  ∃ acc ∈ accounts, usable acc ∧ ∃ r, carrier r ∧ (seated acc.id r ∨ holds acc r)

theorem SomeAdmin.congr {accounts : List UserAccount} {usable usable' : UserAccount → Prop}
    {carrier carrier' : Nat → Prop} {seated seated' : Nat → Nat → Prop}
    {holds holds' : UserAccount → Nat → Prop} (husable : ∀ acc, usable acc ↔ usable' acc)
    (hcarrier : ∀ r, carrier r ↔ carrier' r)
    (hseated : ∀ account r, seated account r ↔ seated' account r)
    (hholds : ∀ acc r, holds acc r ↔ holds' acc r) :
    SomeAdmin accounts usable carrier seated holds ↔
      SomeAdmin accounts usable' carrier' seated' holds' := by
  unfold SomeAdmin
  simp only [husable, hcarrier, hseated, hholds]

/-! ## What a call leaves -/

section Leaves

variable (db : RoleDb)

def RoleDb.GrantsAdmin (roleId : Nat) : Prop := db.Carries roleId canDoAnything

/-- The committee follows the post, and this is the committee. -/
def RoleDb.FollowsPost (role : Role) (roleId : Nat) : Prop :=
  isServiceCommitteePostKey role.key = true ∧
    (db.roleByKey serviceCommitteeKey).map (·.id) = some roleId

instance (role : Role) (roleId : Nat) : Decidable (db.FollowsPost role roleId) :=
  inferInstanceAs (Decidable (_ ∧ _))

/-- The seats once `userId` is seated: the leaders a new titulaire sweeps are gone, and the committee
is the leaders of the posts. -/
def RoleDb.SeatedOnceSeated (role : Role) (userId : Nat) (kind : SeatKind) (account r : Nat) : Prop :=
  if r = role.id then
    account = userId ∨ ∃ a ∈ db.userRoleAssignments, a.userId = account ∧ a.roleId = r ∧
      ¬(role.isSingle = true ∧ kind = .leader ∧ a.kind = .leader)
  else if db.FollowsPost role r then
    (account = userId ∧ kind = .leader) ∨
      ∃ a ∈ db.userRoleAssignments, a.userId = account ∧ a.kind = .leader ∧
        a.roleId ∈ db.committeePostIds ∧ ¬(a.userId = userId ∧ a.roleId = role.id) ∧
        ¬(kind = .leader ∧ a.roleId = role.id)
  else db.Seated account r

/-- The seats once `userId` is taken out of the role. -/
def RoleDb.SeatedOnceUnseated (role : Role) (userId account r : Nat) : Prop :=
  if db.FollowsPost role r then db.LeadsPostBeside userId role.id account
  else db.Seated account r ∧ ¬(account = userId ∧ r = role.id)

/-- The identity roles once those of `member` are synced with the member's flags. -/
def RoleDb.HoldsOnceSynced (member : Member) (acc : UserAccount) (r : Nat) : Prop :=
  match db.identityRole r with
  | some role =>
    if acc.memberId = some member.id then builtInRolePredicate role.key member = true
    else db.HoldsAsMember acc r
  | none => db.HoldsAsMember acc r

/-- An administrator is left by these seats, everything else as before. -/
def RoleDb.AdminBySeats (seated : Nat → Nat → Prop) : Prop :=
  SomeAdmin db.accounts UserAccount.Usable db.GrantsAdmin seated db.HoldsAsMember

/-- An administrator is left among these accounts, everything else as before. -/
def RoleDb.AdminAmong (usable : UserAccount → Prop) : Prop :=
  SomeAdmin db.accounts usable db.GrantsAdmin db.Seated db.HoldsAsMember

/-- An administrator is left by these carriers, everything else as before. -/
def RoleDb.AdminByCarriers (carrier : Nat → Prop) : Prop :=
  SomeAdmin db.accounts UserAccount.Usable carrier db.Seated db.HoldsAsMember

end Leaves

/-- The calls that may take the last way to can-do-anything. -/
def Request.TouchesAdmins : Request → Prop
  | .seatMember .. | .unseatMember .. | .addUserToRole .. | .removeUserFromRole ..
  | .setUserCustomRoleAssignments .. | .updateRolePermissions .. | .deleteRole ..
  | .updateAccount .. | .deleteAccount .. | .anonymizeAccount .. | .unlinkAccountFromMember ..
  | .setLifecycle .. => True
  | _ => False

/-- Some account that can sign in keeps a way to can-do-anything that the call does not take, or gets
one from it. -/
def Request.KeepsAnAdmin (db : RoleDb) : Request → Prop
  | .seatMember roleId memberId kind _ =>
    ∀ role userId, db.roleById roleId = some role → requireSeatableAccount db memberId = .ok userId →
      db.AdminBySeats (db.SeatedOnceSeated role userId (role.seatKindFor kind))
  | .unseatMember roleId memberId _ =>
    ∀ role userId, db.roleById roleId = some role → requireSeatableAccount db memberId = .ok userId →
      db.AdminBySeats (db.SeatedOnceUnseated role userId)
  | .removeUserFromRole userId roleId _ =>
    db.AdminBySeats fun account r => db.Seated account r ∧ ¬(account = userId ∧ r = roleId)
  | .setUserCustomRoleAssignments userId ids _ =>
    db.AdminBySeats fun account r =>
      if account = userId ∧ r ∈ db.assignableIds then r ∈ ids else db.Seated account r
  | .updateRolePermissions roleId keys _ =>
    ∀ role, db.roleById roleId = some role → db.AdminByCarriers fun r =>
      if r = roleId ∧ canDoAnything ∈ db.permissions then canDoAnything ∈ keys else db.GrantsAdmin r
  | .deleteRole roleId =>
    ∀ role, db.roleById roleId = some role →
      db.AdminByCarriers fun r => db.GrantsAdmin r ∧ r ≠ roleId
  | .updateAccount userId params _ =>
    ∀ existing, db.accountById userId = some existing →
      SomeAdmin db.accounts
        (fun acc => if acc.id = userId then params.active = true ∧ acc.anonymizedAt = none
          else acc.Usable)
        db.GrantsAdmin db.Seated
        (match existing.memberId.bind db.memberById with
          | none => db.HoldsAsMember
          | some member => db.HoldsOnceSynced member)
  | .deleteAccount accountId => db.AdminAmong fun acc => acc.Usable ∧ acc.id ≠ accountId
  | .anonymizeAccount accountId _ _ => db.AdminAmong fun acc => acc.Usable ∧ acc.id ≠ accountId
  | .unlinkAccountFromMember memberId =>
    ∀ account, db.accountOfMember memberId = some account →
      db.AdminAmong fun acc => acc.Usable ∧ acc.id ≠ account.id
  | .setLifecycle memberId state at_ now =>
    ∀ current, db.memberById memberId = some current → current.isIn state = false →
      SomeAdmin db.accounts UserAccount.Usable db.GrantsAdmin
        (fun account r => db.Seated account r ∧
          ¬(state = .left ∧ (db.accountOfMember memberId).map (·.id) = some account))
        (if state.syncsRoles then db.HoldsOnceSynced (current.enter state (at_.getD now))
          else db.HoldsAsMember)
  | _ => True

/-! ## What each call leaves, proved -/

section Calls

variable {u : Unicode} {db db' : RoleDb} {role : Role} {userId roleId : Nat} {kind : SeatKind}

/-- With account ids unique, an administrator is an account with a way to can-do-anything. -/
theorem adminExists_iff (haccounts : Keyed (·.id) db.accounts) :
    db.AdminExists ↔
      SomeAdmin db.accounts UserAccount.Usable db.GrantsAdmin db.Seated db.HoldsAsMember := by
  unfold RoleDb.AdminExists SomeAdmin
  refine exists_congr fun acc => and_congr_right fun hacc => and_congr_right fun _ => ?_
  rw [canDoAnything_mem_iff]
  unfold RoleDb.Grants RoleDb.GrantsAdmin RoleDb.Assigned
  refine exists_congr fun r => and_congr_right fun _ => or_congr_right ?_
  constructor
  · rintro ⟨acc', hacc', hid, hholds⟩
    rw [haccounts.eq_of_key hacc' hacc hid] at hholds
    exact hholds
  · exact fun hholds => ⟨acc, hacc, rfl, hholds⟩

/-- A write that leaves the accounts alone. -/
theorem adminExists_iff_of_accounts (haccounts : Keyed (·.id) db.accounts)
    (hsame : db'.accounts = db.accounts) {carrier : Nat → Prop} {seated : Nat → Nat → Prop}
    {holds : UserAccount → Nat → Prop} (hcarrier : ∀ r, db'.GrantsAdmin r ↔ carrier r)
    (hseated : ∀ account r, db'.Seated account r ↔ seated account r)
    (hholds : ∀ acc r, db'.HoldsAsMember acc r ↔ holds acc r) :
    db'.AdminExists ↔ SomeAdmin db.accounts UserAccount.Usable carrier seated holds := by
  rw [adminExists_iff (by rw [hsame]; exact haccounts), hsame]
  exact SomeAdmin.congr (fun _ => Iff.rfl) hcarrier hseated hholds

/-- A write to the seats alone. -/
theorem adminExists_iff_of_seats (haccounts : Keyed (·.id) db.accounts)
    (hframe : ∃ rows, db' = { db with userRoleAssignments := rows }) {seated : Nat → Nat → Prop}
    (hseated : ∀ account r, db'.Seated account r ↔ seated account r) :
    db'.AdminExists ↔ db.AdminBySeats seated := by
  refine adminExists_iff_of_accounts haccounts ?_ (fun r => ?_) hseated fun acc r => ?_ <;>
    obtain ⟨rows, rfl⟩ := hframe <;> rfl

/-- A write to the grants alone. -/
theorem adminExists_iff_of_grants (haccounts : Keyed (·.id) db.accounts)
    (hframe : ∃ rows, db' = { db with rolePermissions := rows }) {carrier : Nat → Prop}
    (hcarrier : ∀ r, db'.GrantsAdmin r ↔ carrier r) :
    db'.AdminExists ↔ db.AdminByCarriers carrier := by
  refine adminExists_iff_of_accounts haccounts ?_ hcarrier (fun account r => ?_) fun acc r => ?_ <;>
    obtain ⟨rows, rfl⟩ := hframe <;> rfl

/-- A write to one account row that keeps its id and member. -/
theorem adminExists_iff_of_accountWrite (haccounts : Keyed (·.id) db.accounts)
    {data : UserAccount → UserAccount}
    (hsame : db'.accounts = (db.updateAccount userId data).accounts)
    (hid : ∀ acc, (data acc).id = acc.id) (hmember : ∀ acc, (data acc).memberId = acc.memberId)
    {seated : Nat → Nat → Prop} {holds : UserAccount → Nat → Prop}
    (hcarrier : ∀ r, db'.GrantsAdmin r ↔ db.GrantsAdmin r)
    (hseated : ∀ account r, db'.Seated account r ↔ seated account r)
    (hholds : ∀ acc r, db'.HoldsAsMember acc r ↔ holds acc r) :
    db'.AdminExists ↔
      SomeAdmin db.accounts (fun acc => if acc.id = userId then (data acc).Usable else acc.Usable)
        db.GrantsAdmin seated holds := by
  have hrow : ∀ acc : UserAccount, (if acc.id = userId then data acc else acc).id = acc.id ∧
      (if acc.id = userId then data acc else acc).memberId = acc.memberId := by
    intro acc
    split
    · exact ⟨hid acc, hmember acc⟩
    · exact ⟨rfl, rfl⟩
  have hkeyed : Keyed (·.id) db'.accounts := by
    rw [hsame]
    exact haccounts.map fun acc => (hrow acc).1
  rw [adminExists_iff hkeyed]
  unfold SomeAdmin
  have hdata : ∀ acc r, db'.HoldsAsMember (if acc.id = userId then data acc else acc) r ↔
      holds acc r := by
    intro acc r
    rw [← hholds]
    unfold RoleDb.HoldsAsMember
    rw [(hrow acc).2]
  have husable : ∀ acc : UserAccount, (if acc.id = userId then data acc else acc).Usable ↔
      if acc.id = userId then (data acc).Usable else acc.Usable := by
    intro acc
    split <;> rfl
  rw [hsame]
  simp only [RoleDb.updateAccount_accounts, List.mem_map, exists_exists_and_eq_and,
    fun acc => (hrow acc).1, hcarrier, hseated, hdata, husable]

/-! ### The seats -/

theorem followsPost_iff {r : Nat} : db.FollowsPost role r ↔
    isServiceCommitteePostKey role.key = true ∧
      ∃ c, db.roleByKey serviceCommitteeKey = some c ∧ c.id = r := by
  unfold RoleDb.FollowsPost
  rw [Option.map_eq_some_iff]

/-- A post is not the committee. -/
theorem not_followsPost_self (hdb : db.Valid) (hrole : role ∈ db.roles) :
    ¬db.FollowsPost role role.id := by
  rw [followsPost_iff]
  rintro ⟨hpost, c, hc, hid⟩
  obtain ⟨hmem, hkey⟩ := RoleDb.roleByKey_mem hc
  have hsame : c = role := hdb.eq_of_id hmem hrole hid
  exact ne_committee_of_post hpost (hsame ▸ hkey)

/-- Who leads a post once `userId` is seated in one. -/
theorem leadsPost_placeSeat (hdb : db.Valid) (hrole : role ∈ db.roles)
    (hpost : isServiceCommitteePostKey role.key = true) {account : Nat} :
    (db.placeSeat role userId kind).LeadsPost account ↔
      (account = userId ∧ kind = .leader) ∨
        ∃ a ∈ db.userRoleAssignments, a.userId = account ∧ a.kind = .leader ∧
          a.roleId ∈ db.committeePostIds ∧ ¬(a.userId = userId ∧ a.roleId = role.id) ∧
          ¬(kind = .leader ∧ a.roleId = role.id) := by
  have hsingle : role.isSingle = true := by
    unfold Role.isSingle
    rw [hpost, Bool.or_true]
  unfold RoleDb.LeadsPost
  simp only [committeePostIds_placeSeat, mem_placeSeat hdb]
  constructor
  · rintro ⟨a, rfl | ⟨ha, hpair, hkept⟩, huser, hleader, hposted⟩
    · exact .inl ⟨huser.symm, hleader⟩
    · exact .inr ⟨a, ha, huser, hleader, hposted, hpair,
        fun h => hkept ⟨hsingle, h.1, h.2, hleader⟩⟩
  · rintro (⟨rfl, rfl⟩ | ⟨a, ha, huser, hleader, hposted, hpair, hkept⟩)
    · exact ⟨_, .inl rfl, rfl, rfl, post_mem_committeePostIds hdb hrole hpost⟩
    · exact ⟨a, .inr ⟨ha, hpair, fun h => hkept ⟨h.2.1, h.2.2.1⟩⟩, huser, hleader, hposted⟩

/-- **The seats after seating**, read off the state before. -/
theorem seatedOnceSeated_iff (hdb : db.Valid) (hrole : role ∈ db.roles) {account r : Nat} :
    ((db.placeSeat role userId kind).syncAfter role).Seated account r ↔
      db.SeatedOnceSeated role userId kind account r := by
  unfold RoleDb.SeatedOnceSeated
  by_cases hself : r = role.id
  · rw [if_pos hself]
    subst hself
    -- the sync does not reach the role itself
    rw [seated_syncAfter_of_ne]
    · simp only [RoleDb.Seated, mem_placeSeat hdb]
      constructor
      · rintro ⟨a, rfl | ⟨ha, _, hkept⟩, huser, hid⟩
        · exact .inl huser.symm
        · exact .inr ⟨a, ha, huser, hid, fun h => hkept ⟨h.1, h.2.1, hid, h.2.2⟩⟩
      · rintro (rfl | ⟨a, ha, huser, hid, hkept⟩)
        · exact ⟨_, .inl rfl, rfl, rfl⟩
        · by_cases hpair : a.userId = userId
          · exact ⟨_, .inl rfl, hpair.symm.trans huser, rfl⟩
          · exact ⟨a, .inr ⟨ha, fun h => hpair h.1, fun h => hkept ⟨h.1, h.2.1, h.2.2.2⟩⟩, huser, hid⟩
    · intro c hpost hc hid
      rw [roleByKey_placeSeat] at hc
      exact not_followsPost_self hdb hrole (followsPost_iff.mpr ⟨hpost, c, hc, hid.symm⟩)
  · rw [if_neg hself]
    by_cases hfollows : db.FollowsPost role r
    · rw [if_pos hfollows]
      obtain ⟨hpost, c, hc, rfl⟩ := followsPost_iff.mp hfollows
      have hposts : (db.placeSeat role userId kind).committeePostIds ≠ [] := by
        rw [committeePostIds_placeSeat]
        exact List.ne_nil_of_mem (post_mem_committeePostIds hdb hrole hpost)
      unfold RoleDb.syncAfter
      rw [if_pos hpost, sync_committee (by rwa [roleByKey_placeSeat]) hposts,
        leadsPost_placeSeat hdb hrole hpost]
    · rw [if_neg hfollows]
      refine seated_seat_of_ne hdb hself ?_
      exact fun c hpost hc hid => hfollows (followsPost_iff.mpr ⟨hpost, c, hc, hid.symm⟩)

/-- **The seats after unseating**, read off the state before. -/
theorem seatedOnceUnseated_iff (hdb : db.Valid) (hrole : role ∈ db.roles) {account r : Nat} :
    ((db.deleteSeats fun a => a.userId == userId && a.roleId == role.id).syncAfter role).Seated
        account r ↔ db.SeatedOnceUnseated role userId account r := by
  unfold RoleDb.SeatedOnceUnseated
  by_cases hfollows : db.FollowsPost role r
  · rw [if_pos hfollows]
    obtain ⟨hpost, c, hc, rfl⟩ := followsPost_iff.mp hfollows
    have hposts := List.ne_nil_of_mem (post_mem_committeePostIds hdb hrole hpost)
    unfold RoleDb.syncAfter
    rw [if_pos hpost]
    refine (sync_committee (by exact hc) (by exact hposts)).trans ?_
    unfold RoleDb.LeadsPost RoleDb.LeadsPostBeside
    simp only [RoleDb.deleteSeats_userRoleAssignments, List.mem_filter, Bool.not_eq_true',
      Bool.and_eq_false_iff, beq_eq_false_iff_ne]
    constructor
    · rintro ⟨a, ⟨ha, hkept⟩, huser, hleader, hposted⟩
      exact ⟨a, ha, huser, hleader, hposted, fun h => hkept.elim (· h.1) (· h.2)⟩
    · rintro ⟨a, ha, huser, hleader, hposted, hpair⟩
      refine ⟨a, ⟨ha, ?_⟩, huser, hleader, hposted⟩
      by_cases huserId : a.userId = userId
      · exact .inr fun hid => hpair ⟨huserId, hid⟩
      · exact .inl huserId
  · rw [if_neg hfollows, seated_syncAfter_of_ne, seated_unseat]
    exact fun c hpost hc hid => hfollows (followsPost_iff.mpr ⟨hpost, c, hc, hid.symm⟩)

/-- The seats after a list of checkboxes: on the assignable roles, the boxes checked. -/
theorem seated_customRoles {ids added removed : List Nat} {account r : Nat}
    (hdiff : customRoleDiff db userId ids = (added, removed)) :
    ((db.createSeats (added.map fun id => ⟨userId, id, .member⟩)).deleteSeats
        fun a => a.userId == userId && removed.contains a.roleId).Seated account r ↔
      if account = userId ∧ r ∈ db.assignableIds then r ∈ ids else db.Seated account r := by
  obtain ⟨_, hadded, hremoved⟩ := customRoleDiff_spec hdiff
  rw [seated_deleteSeats]
  simp only [RoleDb.createSeats_userRoleAssignments, List.mem_append, List.mem_map,
    Bool.and_eq_false_iff, beq_eq_false_iff_ne, List.contains_eq_mem, decide_eq_false_iff_not]
  by_cases hbox : account = userId ∧ r ∈ db.assignableIds
  · rw [if_pos hbox]
    obtain ⟨rfl, hassignable⟩ := hbox
    constructor
    · rintro ⟨a, ha | ⟨id, hid, rfl⟩, hkept, huser, rfl⟩
      · by_contra hunchecked
        rcases hkept with hne | hkept
        · exact hne huser
        · exact hkept ((hremoved _).mpr ⟨⟨a, ha, huser, rfl⟩, hassignable, hunchecked⟩)
      · exact ((hadded id).mp hid).1
    · intro hchecked
      have hkept : r ∉ removed := fun h => ((hremoved r).mp h).2.2 hchecked
      by_cases hseated : db.Seated account r
      · obtain ⟨a, ha, huser, rfl⟩ := hseated
        exact ⟨a, .inl ha, .inr hkept, huser, rfl⟩
      · exact ⟨_, .inr ⟨r, (hadded r).mpr ⟨hchecked, hassignable, hseated⟩, rfl⟩, .inr hkept, rfl,
          rfl⟩
  · rw [if_neg hbox]
    constructor
    · rintro ⟨a, ha | ⟨id, hid, rfl⟩, _, rfl, rfl⟩
      · exact ⟨a, ha, rfl, rfl⟩
      · exact absurd ⟨rfl, ((hadded id).mp hid).2.1⟩ hbox
    · rintro ⟨a, ha, rfl, rfl⟩
      refine ⟨a, .inl ha, ?_, rfl, rfl⟩
      by_cases huser : a.userId = userId
      · exact .inr fun h => hbox ⟨huser, ((hremoved _).mp h).2.1⟩
      · exact .inl huser

/-! ### The identity roles -/

theorem holdsAsMember_iff {acc : UserAccount} {r : Nat} : db.HoldsAsMember acc r ↔
    ∃ memberId, acc.memberId = some memberId ∧
      (⟨memberId, r⟩ : MemberRoleAssignment) ∈ db.memberRoleAssignments := by
  unfold RoleDb.HoldsAsMember
  constructor
  · rintro ⟨a, ha, hmember, rfl⟩
    exact ⟨a.memberId, hmember, ha⟩
  · rintro ⟨memberId, hmember, ha⟩
    exact ⟨_, ha, hmember, rfl⟩

theorem holdsOnceSynced_iff (hdb : db.Valid) {member : Member}
    (hmember : db.memberById member.id = some member) {acc : UserAccount} {r : Nat} :
    (syncBuiltInRoleAssignments member.id db).HoldsAsMember acc r ↔
      db.HoldsOnceSynced member acc r := by
  rw [holdsAsMember_iff]
  simp only [mem_synced hdb.roleIds hmember]
  unfold RoleDb.HoldsOnceSynced
  cases db.identityRole r with
  | none => rw [holdsAsMember_iff]
  | some role =>
    simp only
    rw [holdsAsMember_iff]
    cases acc.memberId with
    | none => simp
    | some memberId => simp

theorem memberById_updateMember {memberId : Nat} {data : Member → Member}
    (hid : ∀ m, (data m).id = m.id) :
    (db.updateMember memberId data).memberById memberId = (db.memberById memberId).map data := by
  unfold RoleDb.memberById
  rw [RoleDb.updateMember_members, List.find?_map]
  have hsel : ((fun m : Member => m.id == memberId) ∘ fun m => if m.id = memberId then data m else m) =
      fun m => m.id == memberId := by
    funext m
    show ((if m.id = memberId then data m else m).id == memberId) = (m.id == memberId)
    split
    · rw [hid]
    · rfl
  rw [hsel]
  cases hfind : db.members.find? fun m => m.id == memberId with
  | none => rfl
  | some m =>
    have hfound : m.id = memberId := by simpa using List.find?_some hfind
    rw [Option.map_some, Option.map_some, if_pos hfound]

/-- The sync that follows a write to the member reads the member as written. -/
theorem holds_syncedUpdate_iff (hdb : db.Valid) {memberId : Nat} {member : Member}
    {data : Member → Member} (hid : ∀ m, (data m).id = m.id)
    (hmember : db.memberById memberId = some member) {acc : UserAccount} {r : Nat} :
    (syncBuiltInRoleAssignments memberId (db.updateMember memberId data)).HoldsAsMember acc r ↔
      db.HoldsOnceSynced (data member) acc r := by
  have hmemberId : member.id = memberId := by simpa using List.find?_some hmember
  have hvalid : (db.updateMember memberId data).Valid := hdb.congr rfl rfl rfl
  have hwritten : (db.updateMember memberId data).memberById (data member).id = some (data member) := by
    rw [hid, hmemberId, memberById_updateMember hid, hmember, Option.map_some]
  have hsynced := @holdsOnceSynced_iff _ hvalid _ hwritten acc r
  rw [hid, hmemberId] at hsynced
  exact hsynced

/-- Deleting a role takes its grants, and the seats and identity rows that reach them. -/
theorem adminExists_deleteRole (haccounts : Keyed (·.id) db.accounts) (roleId : Nat) :
    (db.deleteRole roleId).AdminExists ↔
      db.AdminByCarriers fun r => db.GrantsAdmin r ∧ r ≠ roleId := by
  rw [adminExists_iff (show Keyed (·.id) (db.deleteRole roleId).accounts from haccounts)]
  unfold RoleDb.AdminByCarriers SomeAdmin RoleDb.GrantsAdmin
  refine exists_congr fun acc => and_congr_right fun _ => and_congr_right fun _ => ?_
  refine exists_congr fun r => ?_
  rw [carries_deleteRole]
  refine and_congr_right fun hcarrier => or_congr ?_ ?_
  · unfold RoleDb.Seated
    simp only [RoleDb.deleteRole_userRoleAssignments, List.mem_filter, bne_iff_ne]
    constructor
    · rintro ⟨a, ⟨ha, _⟩, huser, hrole⟩
      exact ⟨a, ha, huser, hrole⟩
    · rintro ⟨a, ha, huser, rfl⟩
      exact ⟨a, ⟨ha, hcarrier.2⟩, huser, rfl⟩
  · unfold RoleDb.HoldsAsMember
    simp only [RoleDb.deleteRole_memberRoleAssignments, List.mem_filter, bne_iff_ne]
    constructor
    · rintro ⟨a, ⟨ha, _⟩, hmember, hrole⟩
      exact ⟨a, ha, hmember, hrole⟩
    · rintro ⟨a, ha, hmember, rfl⟩
      exact ⟨a, ⟨ha, hcarrier.2⟩, hmember, rfl⟩

/-! ### The accounts -/

/-- Deleting an account leaves the administrators among the others. -/
theorem adminExists_deleteAccount (haccounts : Keyed (·.id) db.accounts) (accountId : Nat) :
    (db.deleteAccount accountId).AdminExists ↔
      db.AdminAmong fun acc => acc.Usable ∧ acc.id ≠ accountId := by
  rw [adminExists_iff (haccounts.filter _)]
  unfold RoleDb.AdminAmong SomeAdmin
  constructor
  · rintro ⟨acc, hacc, husable, r, hcarries, hpath⟩
    obtain ⟨hmem, hne⟩ := List.mem_filter.mp hacc
    refine ⟨acc, hmem, ⟨husable, by simpa using hne⟩, r, hcarries, hpath.imp ?_ id⟩
    rintro ⟨a, ha, huser, hrole⟩
    exact ⟨a, (List.mem_filter.mp ha).1, huser, hrole⟩
  · rintro ⟨acc, hacc, ⟨husable, hne⟩, r, hcarries, hpath⟩
    refine ⟨acc, List.mem_filter.mpr ⟨hacc, by simpa using hne⟩, husable, r, hcarries, hpath.imp ?_ id⟩
    rintro ⟨a, ha, huser, hrole⟩
    exact ⟨a, List.mem_filter.mpr ⟨ha, by rw [huser]; simpa using hne⟩, huser, hrole⟩

/-- So does anonymizing one. -/
theorem adminExists_anonymizeAccount (haccounts : Keyed (·.id) db.accounts) (accountId : Nat)
    (uuid : String) (now : Int) :
    ((db.scrubAccount accountId uuid now).deleteSeats fun a => a.userId == accountId).AdminExists ↔
      db.AdminAmong fun acc => acc.Usable ∧ acc.id ≠ accountId := by
  refine Iff.trans (adminExists_iff_of_accountWrite haccounts (by exact rfl) (by exact fun _ => rfl)
    (by exact fun _ => rfl) (fun _ => Iff.rfl) (fun _ _ => Iff.rfl) fun _ _ => Iff.rfl) ?_
  unfold RoleDb.AdminAmong SomeAdmin
  refine exists_congr fun acc => and_congr_right fun _ => ?_
  by_cases hid : acc.id = accountId
  · -- the account scrubbed cannot sign in
    simp [hid, UserAccount.Usable]
  · simp only [ne_eq, hid, not_false_eq_true, and_true]
    refine and_congr_right fun _ => exists_congr fun r => and_congr_right fun _ => ?_
    refine or_congr ?_ Iff.rfl
    rw [seated_deleteSeats]
    constructor
    · rintro ⟨a, ha, _, huser, hrole⟩
      exact ⟨a, ha, huser, hrole⟩
    · rintro ⟨a, ha, huser, hrole⟩
      exact ⟨a, ha, by rw [huser]; simpa using hid, huser, hrole⟩

/-- The account updated signs in as asked, and a linked member's identity roles are synced. -/
theorem adminExists_accountUpdated (hdb : db.Valid) (haccounts : Keyed (·.id) db.accounts)
    (userId : Nat) (existing : UserAccount) (params : UpdateAccountParams) :
    (db.accountUpdated u userId existing params).AdminExists ↔
      SomeAdmin db.accounts
        (fun acc => if acc.id = userId then params.active = true ∧ acc.anonymizedAt = none
          else acc.Usable)
        db.GrantsAdmin db.Seated
        (match existing.memberId.bind db.memberById with
          | none => db.HoldsAsMember
          | some member => db.HoldsOnceSynced member) := by
  unfold RoleDb.accountUpdated
  cases hlinked : existing.memberId with
  | none =>
    show (db.writeAccount u userId existing params).AdminExists ↔ _
    refine Iff.trans (adminExists_iff_of_accountWrite haccounts (by exact rfl)
      (by exact fun _ => rfl) (by exact fun _ => rfl) (fun _ => Iff.rfl) (fun _ _ => Iff.rfl)
      fun _ _ => Iff.rfl) ?_
    exact Iff.rfl
  | some memberId =>
    simp only [Option.bind_some]
    obtain ⟨members, rows, hname⟩ := updateAccountName_frame memberId params.firstname params.lastname
      (db.writeAccount u userId existing params)
    have hholds : ∀ acc r, (updateAccountName memberId params.firstname params.lastname
        (db.writeAccount u userId existing params)).HoldsAsMember acc r ↔
          (match db.memberById memberId with
            | none => db.HoldsAsMember
            | some member => db.HoldsOnceSynced member) acc r := by
      intro acc r
      unfold updateAccountName
      have hwritten : (db.writeAccount u userId existing params).Valid := hdb.congr rfl rfl rfl
      cases hmember : db.memberById memberId with
      | none =>
        -- no row to sync
        have hnone : ((db.writeAccount u userId existing params).updateMember memberId fun m =>
            { m with firstname := params.firstname, lastname := params.lastname }).memberById memberId
              = none := by
          rw [memberById_updateMember]
          swap
          · exact fun _ => rfl
          show (db.memberById memberId).map _ = none
          rw [hmember, Option.map_none]
        unfold syncBuiltInRoleAssignments
        rw [hnone]
        exact Iff.rfl
      | some member =>
        exact holds_syncedUpdate_iff hwritten (by exact fun _ => rfl) hmember
    have haccountRows : (updateAccountName memberId params.firstname params.lastname
        (db.writeAccount u userId existing params)).accounts =
          (db.writeAccount u userId existing params).accounts := by rw [hname]
    refine adminExists_iff_of_accountWrite haccounts haccountRows (by exact fun _ => rfl)
      (by exact fun _ => rfl)
      (fun r => ?_) (fun account r => ?_) hholds
    · rw [hname]
      rfl
    · rw [hname]
      rfl

/-- A transition syncs the identity roles, and takes the seats of a member who leaves. -/
theorem adminExists_enterLifecycle (hdb : db.Valid) (haccounts : Keyed (·.id) db.accounts)
    {memberId : Nat} {current : Member} (hmember : db.memberById memberId = some current)
    (state : LifecycleState) (date : Int) :
    (db.enterLifecycle memberId state date).AdminExists ↔
      SomeAdmin db.accounts UserAccount.Usable db.GrantsAdmin
        (fun account r => db.Seated account r ∧
          ¬(state = .left ∧ (db.accountOfMember memberId).map (·.id) = some account))
        (if state.syncsRoles then db.HoldsOnceSynced (current.enter state date)
          else db.HoldsAsMember) := by
  have hsynced : ∀ acc r, (syncBuiltInRoleAssignments memberId
      (db.updateMember memberId fun m => m.enter state date)).HoldsAsMember acc r ↔
        db.HoldsOnceSynced (current.enter state date) acc r := by
    refine fun acc r => holds_syncedUpdate_iff hdb (fun m => ?_) hmember
    cases state <;> rfl
  obtain ⟨rows, hframe⟩ := syncBuiltInRoleAssignments_frame memberId
    (db.updateMember memberId fun m => m.enter state date)
  -- nobody but a member who leaves loses seats
  have hstays : ∀ account r, state ≠ .left → (db.Seated account r ↔ db.Seated account r ∧
      ¬(state = .left ∧ (db.accountOfMember memberId).map (·.id) = some account)) :=
    fun account r hne => (and_iff_left fun h => hne h.1).symm
  cases state with
  | left =>
    unfold RoleDb.enterLifecycle
    cases haccount : db.accountOfMember memberId with
    | none =>
      simp only [LifecycleState.syncsRoles, if_true]
      refine adminExists_iff_of_accounts haccounts ?_ (fun r => ?_) (fun account r => ?_) hsynced
      · rw [hframe]
        rfl
      · rw [hframe]
        exact Iff.rfl
      · rw [hframe, Option.map_none]
        exact (and_iff_left (by simp)).symm
    | some account =>
      simp only [LifecycleState.syncsRoles, if_true]
      refine adminExists_iff_of_accounts haccounts ?_ (fun r => ?_) (fun other r => ?_) hsynced
      · rw [hframe]
        rfl
      · rw [hframe]
        exact Iff.rfl
      · rw [hframe, Option.map_some, seated_deleteSeats]
        simp only [beq_eq_false_iff_ne, true_and, Option.some.injEq]
        constructor
        · rintro ⟨a, ha, hne, rfl, hrole⟩
          exact ⟨⟨a, ha, rfl, hrole⟩, Ne.symm hne⟩
        · rintro ⟨⟨a, ha, rfl, hrole⟩, hne⟩
          exact ⟨a, ha, Ne.symm hne, rfl, hrole⟩
  | returned =>
    show (syncBuiltInRoleAssignments memberId (db.updateMember memberId fun m =>
      m.enter .returned date)).AdminExists ↔ _
    refine adminExists_iff_of_accounts haccounts ?_ (fun r => ?_) (fun account r => ?_) hsynced
    · rw [hframe]
      rfl
    · rw [hframe]
      exact Iff.rfl
    · rw [hframe]
      exact hstays account r (by decide)
  | active =>
    exact adminExists_iff_of_accounts haccounts rfl (fun _ => Iff.rfl)
      (fun account r => hstays account r (by decide)) fun _ _ => Iff.rfl
  | inactive =>
    exact adminExists_iff_of_accounts haccounts rfl (fun _ => Iff.rfl)
      (fun account r => hstays account r (by decide)) fun _ _ => Iff.rfl

end Calls

/-! ## The last administrator -/

/-- **When the congregation keeps an administrator.** After a successful call that may take
can-do-anything from someone, an account that can sign in still holds it, if and only if the call
leaves or makes such an account a way to it. -/
theorem admin_kept_iff (u : Unicode) {db db' : RoleDb} (hdb : db.Valid)
    (haccounts : Keyed (·.id) db.accounts) (request : Request) (htouches : request.TouchesAdmins)
    (hadmin : db.AdminExists) (hok : (request.run u).exec db = (.ok (), db')) :
    db'.AdminExists ↔ request.KeepsAnAdmin db := by
  have hbefore := (adminExists_iff haccounts).mp hadmin
  cases request with
  | seatMember roleId memberId kind actor =>
    obtain ⟨role, userId, hchecks, rfl⟩ := seatMember_ok hok
    obtain ⟨hrole, _, haccount, _⟩ := seatMemberChecks_ok hchecks
    have hmem := (RoleDb.roleById_mem hrole).1
    rw [adminExists_iff_of_seats haccounts (placeSeat_syncAfter_frame ..)
      fun account r => seatedOnceSeated_iff hdb hmem]
    constructor
    · intro h role' userId' hrole' haccount'
      rw [hrole, Option.some.injEq] at hrole'
      rw [haccount, Except.ok.injEq] at haccount'
      rw [← hrole', ← haccount']
      exact h
    · exact fun h => h role userId hrole haccount
  | unseatMember roleId memberId actor =>
    obtain ⟨role, userId, hchecks, rfl⟩ := unseatMember_ok hok
    obtain ⟨hrole, haccount, _⟩ := unseatMemberChecks_ok hchecks
    have hmem := (RoleDb.roleById_mem hrole).1
    obtain ⟨rows, hframe⟩ := syncAfter_frame
      (db.deleteSeats fun a => a.userId == userId && a.roleId == role.id) role
    have hseats : ∃ rows, (db.deleteSeats fun a => a.userId == userId && a.roleId == role.id).syncAfter
        role = { db with userRoleAssignments := rows } := ⟨rows, by rw [hframe]; rfl⟩
    rw [adminExists_iff_of_seats haccounts hseats fun account r => seatedOnceUnseated_iff hdb hmem]
    constructor
    · intro h role' userId' hrole' haccount'
      rw [hrole, Option.some.injEq] at hrole'
      rw [haccount, Except.ok.injEq] at haccount'
      rw [← hrole', ← haccount']
      exact h
    · exact fun h => h role userId hrole haccount
  | addUserToRole userId roleId actor =>
    refine iff_of_true ?_ trivial
    rcases addUserToRole_ok hok with rfl | ⟨role, _, _, _, _, _, _, rfl⟩
    · exact hadmin
    · refine (adminExists_iff_of_seats haccounts ⟨_, rfl⟩ fun account r => seated_createSeats).mpr ?_
      obtain ⟨acc, hacc, husable, r, hcarries, hpath⟩ := hbefore
      exact ⟨acc, hacc, husable, r, hcarries, hpath.imp .inl id⟩
  | removeUserFromRole userId roleId actor =>
    rcases removeUserFromRole_ok hok with ⟨hunseated, rfl⟩ | ⟨role, _, hrole, _, _, _, _, rfl⟩
    · refine iff_of_true hadmin ?_
      -- nothing to take away: the pair is not seated
      have hpair : ¬db'.Seated userId roleId := by
        rintro ⟨a, ha, huser, hid⟩
        obtain ⟨role, hmem, hroleId⟩ := hdb.seatRoles a ha
        have hfound := hdb.roleById_iff.mpr ⟨hmem, hroleId.trans hid⟩
        exact hunseated role hfound ⟨a, ha, huser, hroleId.symm⟩
      obtain ⟨acc, hacc, husable, r, hcarries, hpath⟩ := hbefore
      refine ⟨acc, hacc, husable, r, hcarries, hpath.imp (fun hseated => ⟨hseated, ?_⟩) id⟩
      rintro ⟨rfl, rfl⟩
      exact hpair hseated
    · rw [(RoleDb.roleById_mem hrole).2]
      refine adminExists_iff_of_seats haccounts ⟨_, rfl⟩ fun account r => ?_
      rw [← (RoleDb.roleById_mem hrole).2]
      exact seated_unseat
  | setUserCustomRoleAssignments userId ids actor =>
    obtain ⟨added, removed, hdiff, _, rfl⟩ := setUserCustomRoleAssignments_ok hok
    exact adminExists_iff_of_seats haccounts ⟨_, rfl⟩ fun account r => seated_customRoles hdiff
  | updateRolePermissions roleId keys actor =>
    rcases updateRolePermissions_ok hok with ⟨hmissing, rfl⟩ | ⟨role, hrole, _, rfl⟩
    · refine iff_of_true hadmin ?_
      intro role hrole
      simp [hmissing] at hrole
    · have hid : role.id = roleId := (RoleDb.roleById_mem hrole).2
      have hkept : (syncRolePermissions role.id (db.permissionKeys role.id) keys db).AdminExists ↔
          db.AdminByCarriers fun r => if r = roleId ∧ canDoAnything ∈ db.permissions
            then canDoAnything ∈ keys else db.GrantsAdmin r := by
        refine adminExists_iff_of_grants haccounts (syncRolePermissions_frame ..) fun r => ?_
        rw [← hid]
        exact syncRolePermissions_carries
      rw [hkept]
      exact ⟨fun h _ _ => h, fun h => h role hrole⟩
  | deleteRole roleId =>
    rcases deleteRole_ok hok with ⟨hmissing, rfl⟩ | ⟨role, hrole, _, _, rfl⟩
    · refine iff_of_true hadmin ?_
      intro role hrole
      simp [hmissing] at hrole
    · have hkept : (db.deleteRole role.id).AdminExists ↔
          db.AdminByCarriers fun r => db.GrantsAdmin r ∧ r ≠ roleId := by
        rw [← (RoleDb.roleById_mem hrole).2]
        exact adminExists_deleteRole haccounts role.id
      rw [hkept]
      exact ⟨fun h _ _ => h, fun h => h role hrole⟩
  | updateAccount userId params actor =>
    obtain ⟨existing, hchecks, rfl⟩ := updateAccount_ok hok
    have haccount := updateAccountChecks_ok hchecks
    rw [adminExists_accountUpdated hdb haccounts]
    constructor
    · intro h existing' haccount'
      rw [haccount, Option.some.injEq] at haccount'
      rw [← haccount']
      exact h
    · exact fun h => h existing haccount
  | deleteAccount accountId =>
    obtain ⟨_, rfl⟩ := deleteAccount_ok hok
    exact adminExists_deleteAccount haccounts accountId
  | anonymizeAccount accountId uuid now =>
    obtain ⟨_, rfl⟩ := anonymizeAccount_ok hok
    exact adminExists_anonymizeAccount haccounts accountId uuid now
  | unlinkAccountFromMember memberId =>
    rcases unlinkAccountFromMember_ok hok with ⟨hnone, rfl⟩ | ⟨account, haccount, rfl⟩
    · refine iff_of_true hadmin ?_
      intro account haccount
      simp [hnone] at haccount
    · rw [adminExists_deleteAccount haccounts account.id]
      constructor
      · intro h account' haccount'
        rw [haccount, Option.some.injEq] at haccount'
        rw [← haccount']
        exact h
      · exact fun h => h account haccount
  | setLifecycle memberId state at_ now =>
    rcases setLifecycle_ok hok with ⟨hin, rfl⟩ | ⟨current, hmember, hnew, rfl⟩
    · refine iff_of_true hadmin ?_
      intro current hmember hnew
      rw [hin current hmember] at hnew
      cases hnew
    · rw [adminExists_enterLifecycle hdb haccounts hmember]
      constructor
      · intro h current' hmember' _
        rw [hmember, Option.some.injEq] at hmember'
        rw [← hmember']
        exact h
      · exact fun h => h current hmember hnew
  | _ => exact absurd htouches id

/-- Two accounts in the one role that carries can-do-anything, the second of them deactivated. -/
def adminSample : RoleDb where
  roles := [newRole "administrators" "administrators" none false 2]
  rolePermissions := [⟨2, canDoAnything⟩]
  userRoleAssignments := [⟨10, 2, .member⟩, ⟨11, 2, .member⟩]
  memberRoleAssignments := []
  accounts := [⟨10, some 20, none, none, "first", true, none⟩,
    ⟨11, none, none, none, "second", false, none⟩]
  members := [⟨20, "", "", none, true, none, false, false, false, none, none, none, []⟩]
  permissions := [canDoAnything]
  nextRoleId := 3

theorem adminSample_valid : adminSample.Valid ∧ Keyed (·.id) adminSample.accounts := by decide

/-- A call that goes through and leaves nobody who can administer. -/
def Request.LosesAdmins (db : RoleDb) (request : Request) : Prop :=
  request.TouchesAdmins ∧
    ∃ db', (request.run .lowerAscii).exec db = (.ok (), db') ∧ ¬db'.AdminExists

/-- The guard counts the deactivated account: deleting, anonymizing or deactivating the first one,
or taking it out of the role, goes through. Four paths have no guard: deleting the role, emptying it, unlinking the login of the
member, and marking the member as having left. -/
theorem last_admin_lost :
    adminSample.Valid ∧ Keyed (·.id) adminSample.accounts ∧ adminSample.AdminExists ∧
      Request.LosesAdmins adminSample (.deleteAccount 10) ∧
      Request.LosesAdmins adminSample (.anonymizeAccount 10 "uuid" 0) ∧
      Request.LosesAdmins adminSample (.updateAccount 10 ⟨"", "", "first", false⟩ [canDoAnything]) ∧
      Request.LosesAdmins adminSample (.removeUserFromRole 10 2 [canDoAnything]) ∧
      Request.LosesAdmins adminSample (.deleteRole 2) ∧
      Request.LosesAdmins adminSample (.updateRolePermissions 2 [] [canDoAnything]) ∧
      Request.LosesAdmins adminSample (.unlinkAccountFromMember 20) ∧
      Request.LosesAdmins adminSample (.setLifecycle 20 .left none 0) := by
  refine ⟨adminSample_valid.1, adminSample_valid.2, by decide, ⟨trivial, _, rfl, by decide⟩,
    ⟨trivial, _, rfl, by decide⟩, ⟨trivial, _, rfl, by decide⟩, ⟨trivial, _, rfl, by decide⟩,
    ⟨trivial, _, rfl, by decide⟩, ⟨trivial, _, rfl, by decide⟩, ⟨trivial, _, rfl, by decide⟩,
    trivial, _, rfl, by decide⟩

/-- Taking the deactivated account out of the role leaves the first. -/
theorem admin_kept_iff_removal :
    (adminSample.deleteSeats fun a => a.userId == 11 && a.roleId == 2).AdminExists ↔
      Request.KeepsAnAdmin adminSample (.removeUserFromRole 11 2 [canDoAnything]) :=
  admin_kept_iff .lowerAscii adminSample_valid.1 adminSample_valid.2
    (.removeUserFromRole 11 2 [canDoAnything]) trivial (by decide) rfl

end Unitae.Roles
