import Unitae.Roles.Requests

/-!
# Unitae — no role operation moves a permission its actor does not hold

`role-grant-limits.server.ts` states the rule; the operations check it role by role. What changes
for an account, though, is the set of paths to a permission, and two operations change paths they
do not check: `deleteRole` takes a role from everyone who has it, and seating a deputy in a
committee post recomputes the committee. `privilegeChanges_within_iff` says exactly when a call
stays within what its actor holds.
-/

namespace Unitae.Roles

/-- Every effective permission that a write gives to, or takes from, an account is one of `actor`'s. -/
def ChangesWithin (db db' : RoleDb) (actor : List String) : Prop :=
  ∀ account key,
    ¬(key ∈ resolveEffectivePermissions db' account ↔ key ∈ resolveEffectivePermissions db account) →
      key ∈ actor

/-! ## From grants to effective permissions -/

section Resolve

variable {db db' : RoleDb} {actor : List String}

/-- Comparing grants compares effective permissions, on the keys a non-admin actor lacks: an
account whose grants move is either an admin on both sides or changes only keys the actor holds. -/
theorem resolve_within (hactor : canDoAnything ∉ actor)
    (h : ∀ account key, key ∉ actor →
      (db'.Grants account key ↔ db.Grants account key) ∨
        (db.Grants account canDoAnything ∧ db'.Grants account canDoAnything)) :
    ChangesWithin db db' actor := by
  intro account key hchanged
  have hadmin : db'.Grants account canDoAnything ↔ db.Grants account canDoAnything := by
    rcases h account canDoAnything hactor with hsame | ⟨hbefore, hafter⟩
    · exact hsame
    · exact ⟨fun _ => hbefore, fun _ => hafter⟩
  by_cases hkey : key ∈ actor
  · exact hkey
  · refine absurd ?_ hchanged
    rw [mem_resolveEffectivePermissions, mem_resolveEffectivePermissions, hadmin]
    rcases h account key hkey with hsame | ⟨hbefore, _⟩
    · rw [hsame]
    · constructor <;>
      · rintro (⟨_, hvalue⟩ | ⟨hnot, _⟩)
        · exact .inl ⟨hbefore, hvalue⟩
        · exact absurd hbefore hnot

/-- An account with neither the key nor can-do-anything on one side and the key on the other
differs at one of the two. -/
theorem resolve_differs {account : Nat} {key : String} (hkey : ¬db.Grants account key)
    (hadmin : ¬db.Grants account canDoAnything) (hgranted : db'.Grants account key) :
    ∃ k, (k = key ∨ k = canDoAnything) ∧ k ∈ resolveEffectivePermissions db' account ∧
      k ∉ resolveEffectivePermissions db account := by
  by_cases hadmin' : db'.Grants account canDoAnything
  · exact ⟨canDoAnything, .inr rfl, canDoAnything_mem_iff.mpr hadmin',
      fun h => hadmin (canDoAnything_mem_iff.mp h)⟩
  · refine ⟨key, .inl rfl, mem_resolveEffectivePermissions.mpr (.inr ⟨hadmin', hgranted⟩), ?_⟩
    rw [mem_resolveEffectivePermissions]
    rintro (⟨h, _⟩ | ⟨_, h⟩)
    · exact hadmin h
    · exact hkey h

theorem ChangesWithin.symm (h : ChangesWithin db db' actor) : ChangesWithin db' db actor :=
  fun account key hchanged => h account key fun hiff => hchanged hiff.symm

/-- A key the actor lacks, gained by an account that has no other way to it, breaks the rule. -/
theorem ChangesWithin.not_gained (h : ChangesWithin db db' actor) (hactor : canDoAnything ∉ actor)
    {account : Nat} {key : String} (hlacks : key ∉ actor) (hkey : ¬db.Grants account key)
    (hadmin : ¬db.Grants account canDoAnything) : ¬db'.Grants account key := by
  intro hgranted
  obtain ⟨k, hk, hafter, hbefore⟩ := resolve_differs hkey hadmin hgranted
  have hheld : k ∈ actor := h account k fun hiff => hbefore (hiff.mp hafter)
  rcases hk with rfl | rfl
  · exact hlacks hheld
  · exact hactor hheld

end Resolve

/-! ## Paths that survive a write -/

/-- The account is granted the key, or can-do-anything, by a path other than its seat in the role:
another seat, or any role of its member. -/
def RoleDb.GrantsBeyondSeat (db : RoleDb) (account roleId : Nat) (key : String) : Prop :=
  ∃ r, ((r ≠ roleId ∧ db.Seated account r) ∨
      ∃ acc ∈ db.accounts, acc.id = account ∧ db.HoldsAsMember acc r) ∧
    (db.Carries r key ∨ db.Carries r canDoAnything)

/-- Without such a path, the key or can-do-anything can only come through the seat. -/
theorem RoleDb.seated_of_not_grantsBeyondSeat {db : RoleDb} {account roleId : Nat} {key k : String}
    (hnone : ¬db.GrantsBeyondSeat account roleId key) (hk : k = key ∨ k = canDoAnything)
    (h : db.Grants account k) : db.Seated account roleId := by
  obtain ⟨r, hcarries, hassigned⟩ := h
  have hcarries' : db.Carries r key ∨ db.Carries r canDoAnything := by
    rcases hk with rfl | rfl
    · exact .inl hcarries
    · exact .inr hcarries
  rcases hassigned with hseated | hmember
  · by_cases hr : r = roleId
    · exact hr ▸ hseated
    · exact absurd ⟨r, .inl ⟨hr, hseated⟩, hcarries'⟩ hnone
  · exact absurd ⟨r, .inr hmember, hcarries'⟩ hnone

/-- The account is granted the key, or can-do-anything, by another role. -/
def RoleDb.GrantsElsewhere (db : RoleDb) (account roleId : Nat) (key : String) : Prop :=
  ∃ r, r ≠ roleId ∧ db.Assigned account r ∧ (db.Carries r key ∨ db.Carries r canDoAnything)

/-- The account leads a post otherwise than through the seat of `userId` in `roleId`. -/
def RoleDb.LeadsPostBeside (db : RoleDb) (userId roleId account : Nat) : Prop :=
  ∃ a ∈ db.userRoleAssignments, a.userId = account ∧ a.kind = .leader ∧
    a.roleId ∈ db.committeePostIds ∧ ¬(a.userId = userId ∧ a.roleId = roleId)

section Seats

variable {db db' : RoleDb} {actor : List String}

/-- What a write to the seats changes for one key is decided by the roles that carry it. -/
theorem grants_iff_of_seats (hframe : ∃ rows, db' = { db with userRoleAssignments := rows })
    {account : Nat} {key : String}
    (h : ∀ r, db.Carries r key → (db'.Seated account r ↔ db.Seated account r)) :
    db'.Grants account key ↔ db.Grants account key := by
  obtain ⟨rows, rfl⟩ := hframe
  constructor
  · rintro ⟨r, hcarries, hseated | hmember⟩
    · exact ⟨r, hcarries, .inl ((h r hcarries).mp hseated)⟩
    · exact ⟨r, hcarries, .inr hmember⟩
  · rintro ⟨r, hcarries, hseated | hmember⟩
    · exact ⟨r, hcarries, .inl ((h r hcarries).mpr hseated)⟩
    · exact ⟨r, hcarries, .inr hmember⟩

/-- **A write to the seats stays within the actor** when every role whose seats it changes carries
only permissions the actor holds. -/
theorem changesWithin_of_seats (hframe : ∃ rows, db' = { db with userRoleAssignments := rows })
    (hactor : canDoAnything ∉ actor)
    (h : ∀ account r, ¬(db'.Seated account r ↔ db.Seated account r) →
      ∀ key, db.Carries r key → key ∈ actor) :
    ChangesWithin db db' actor := by
  refine resolve_within hactor ?_
  intro account key hlacks
  refine .inl (grants_iff_of_seats hframe ?_)
  intro r hcarries
  by_cases hsame : db'.Seated account r ↔ db.Seated account r
  · exact hsame
  · exact absurd (h account r hsame key hcarries) hlacks

end Seats

/-! ## Which seats an operation changes -/

section Changed

variable {db : RoleDb} {role : Role} {kind : SeatKind} {userId account r : Nat}

theorem mem_rolesGrantedBySeat : role.id ∈ rolesGrantedBySeat db role kind := by
  unfold rolesGrantedBySeat
  split
  · exact List.mem_cons_self
  · split <;> exact List.mem_cons_self

/-- A leader's seat in a post also grants the committee. -/
theorem committee_mem_rolesGrantedBySeat {c : Role}
    (hpost : isServiceCommitteePostKey role.key = true)
    (hc : db.roleByKey serviceCommitteeKey = some c) :
    c.id ∈ rolesGrantedBySeat db role .leader := by
  simp [rolesGrantedBySeat, hpost, hc]

/-- A post is a personal role, so a request for anything but a deputy seats its leader. -/
theorem seatKindFor_post (hpost : isServiceCommitteePostKey role.key = true) (hkind : kind ≠ .deputy) :
    role.seatKindFor kind = .leader := by
  simp [Role.seatKindFor, Role.isSingle, hpost, hkind]

theorem seatKindFor_deputy : role.seatKindFor .deputy = .deputy := by
  simp [Role.seatKindFor]

end Changed

/-! ## The calls of the rule -/

/-- The operations that hand roles and permissions out or take them away. -/
inductive RoleCall where
  | seatMember (roleId memberId : Nat) (kind : SeatKind)
  | unseatMember (roleId memberId : Nat)
  | addUserToRole (userId roleId : Nat)
  | removeUserFromRole (userId roleId : Nat)
  | setUserCustomRoleAssignments (userId : Nat) (customRoleIds : List Nat)
  | updateRolePermissions (roleId : Nat) (permissionKeys : List String)
  | deleteRole (roleId : Nat)
deriving DecidableEq, Repr

/-- The request the call makes on behalf of an actor with these permissions. -/
def RoleCall.request (actor : List String) : RoleCall → Request
  | .seatMember roleId memberId kind => .seatMember roleId memberId kind actor
  | .unseatMember roleId memberId => .unseatMember roleId memberId actor
  | .addUserToRole userId roleId => .addUserToRole userId roleId actor
  | .removeUserFromRole userId roleId => .removeUserFromRole userId roleId actor
  | .setUserCustomRoleAssignments userId ids => .setUserCustomRoleAssignments userId ids actor
  | .updateRolePermissions roleId keys => .updateRolePermissions roleId keys actor
  | .deleteRole roleId => .deleteRole roleId

/-- Seating `userId` as a deputy of the post `roleId` changes whether the account sits on the
committee. -/
def RoleDb.DeputyMovesCommittee (db : RoleDb) (userId roleId : Nat) (committee : Role)
    (account : Nat) : Prop :=
  ¬(db.LeadsPostBeside userId roleId account ↔ db.Seated account committee.id)

/-- When a call stays within its actor, read off the state before it. Deleting a role must leave
each holder another way to what the actor lacks; seating a deputy in a committee post must do so
for each account that joins or leaves the committee by it. -/
def RoleCall.StaysWithin (db : RoleDb) (actor : List String) : RoleCall → Prop
  | .deleteRole roleId =>
    ∀ role, db.roleById roleId = some role → ∀ account key, db.Assigned account roleId →
      db.Carries roleId key → key ∈ actor ∨ db.GrantsElsewhere account roleId key
  | .seatMember roleId memberId .deputy =>
    ∀ role userId committee, db.roleById roleId = some role →
      isServiceCommitteePostKey role.key = true →
      requireSeatableAccount db memberId = .ok userId →
      db.roleByKey serviceCommitteeKey = some committee →
      ∀ account key, db.DeputyMovesCommittee userId roleId committee account →
        db.Carries committee.id key → key ∈ actor ∨ db.GrantsBeyondSeat account committee.id key
  | _ => True

section Calls

variable {db db' : RoleDb} {actor : List String} {role : Role} {userId roleId memberId : Nat}
  {kind : SeatKind}

/-- Seating changes the seats of the node and, for a post, of the committee. -/
theorem seated_seat_of_ne (hdb : db.Valid) {account r : Nat} (hrole : r ≠ role.id)
    (hcommittee : ∀ c, isServiceCommitteePostKey role.key = true →
      db.roleByKey serviceCommitteeKey = some c → r ≠ c.id) :
    ((db.placeSeat role userId kind).syncAfter role).Seated account r ↔ db.Seated account r := by
  rw [seated_syncAfter_of_ne, seated_placeSeat_of_ne hdb hrole]
  intro c hpost hc
  rw [roleByKey_placeSeat] at hc
  exact hcommittee c hpost hc

/-- A seat that is checked for everything it can move: any node but a post, or a post's leader. -/
theorem seatMember_changesWithin (hdb : db.Valid) (hactor : canDoAnything ∉ actor)
    (hchecks : seatMemberChecks db roleId memberId kind actor = .ok (role, userId))
    (hkind : isServiceCommitteePostKey role.key = true → kind ≠ .deputy) :
    ChangesWithin db ((db.placeSeat role userId (role.seatKindFor kind)).syncAfter role) actor := by
  obtain ⟨_, _, _, hlimits, _⟩ := seatMemberChecks_ok hchecks
  have hholds := (assertActorHoldsRolePermissions_ok hactor).mp hlimits
  refine changesWithin_of_seats (placeSeat_syncAfter_frame ..) hactor ?_
  intro account r hmoved key hcarries
  by_cases hrole : r = role.id
  · exact hholds r (hrole ▸ mem_rolesGrantedBySeat) key hcarries
  · -- not the node: it must be the committee, which a post's leader is checked for
    by_cases hcommittee : ∃ c, isServiceCommitteePostKey role.key = true ∧
        db.roleByKey serviceCommitteeKey = some c ∧ r = c.id
    · obtain ⟨c, hpost, hc, rfl⟩ := hcommittee
      rw [seatKindFor_post hpost (hkind hpost)] at hholds
      exact hholds c.id (committee_mem_rolesGrantedBySeat hpost hc) key hcarries
    · refine absurd (seated_seat_of_ne hdb hrole ?_) hmoved
      exact fun c hpost hc heq => hcommittee ⟨c, hpost, hc, heq⟩

theorem unseatMember_changesWithin (hactor : canDoAnything ∉ actor)
    (hchecks : unseatMemberChecks db roleId memberId actor = .ok (role, userId)) :
    ChangesWithin db
      ((db.deleteSeats fun a => a.userId == userId && a.roleId == role.id).syncAfter role)
      actor := by
  obtain ⟨_, _, hlimits, _⟩ := unseatMemberChecks_ok hchecks
  have hholds := (assertActorHoldsRolePermissions_ok hactor).mp hlimits
  refine changesWithin_of_seats (syncAfter_frame ..) hactor ?_
  intro account r hmoved key hcarries
  by_cases hrole : r = role.id
  · exact hholds r (hrole ▸ mem_rolesGrantedBySeat) key hcarries
  · by_cases hcommittee : ∃ c, isServiceCommitteePostKey role.key = true ∧
        db.roleByKey serviceCommitteeKey = some c ∧ r = c.id
    · obtain ⟨c, hpost, hc, rfl⟩ := hcommittee
      exact hholds c.id (committee_mem_rolesGrantedBySeat hpost hc) key hcarries
    · refine absurd ?_ hmoved
      rw [seated_syncAfter_of_ne, seated_unseat]
      · exact and_iff_left fun h => hrole h.2
      · exact fun c hpost hc heq => hcommittee ⟨c, hpost, hc, heq⟩

theorem addUserToRole_changesWithin (hactor : canDoAnything ∉ actor)
    (hlimits : assertActorHoldsRolePermissions db [role.id] actor = .ok ()) :
    ChangesWithin db (db.createSeats [⟨userId, role.id, .member⟩]) actor := by
  have hholds := (assertActorHoldsRolePermissions_ok hactor).mp hlimits
  refine changesWithin_of_seats ⟨_, rfl⟩ hactor ?_
  intro account r hmoved key hcarries
  by_cases hrole : r = role.id
  · exact hholds r (hrole ▸ List.mem_cons_self) key hcarries
  · refine absurd ?_ hmoved
    rw [seated_createSeats]
    refine or_iff_left ?_
    rintro ⟨a, ha, _, harole⟩
    rw [List.mem_singleton.mp ha] at harole
    exact hrole harole.symm

theorem removeUserFromRole_changesWithin (hactor : canDoAnything ∉ actor)
    (hlimits : assertActorHoldsRolePermissions db [role.id] actor = .ok ()) :
    ChangesWithin db (db.deleteSeats fun a => a.userId == userId && a.roleId == role.id) actor := by
  have hholds := (assertActorHoldsRolePermissions_ok hactor).mp hlimits
  refine changesWithin_of_seats ⟨_, rfl⟩ hactor ?_
  intro account r hmoved key hcarries
  by_cases hrole : r = role.id
  · exact hholds r (hrole ▸ List.mem_cons_self) key hcarries
  · refine absurd ?_ hmoved
    rw [seated_unseat]
    exact and_iff_left fun h => hrole h.2

theorem customRoles_changesWithin (hactor : canDoAnything ∉ actor) {added removed : List Nat}
    (hchecks : setUserCustomRoleAssignmentsChecks db userId added removed actor = .ok ()) :
    ChangesWithin db
      ((db.createSeats (added.map fun id => ⟨userId, id, .member⟩)).deleteSeats
        fun a => a.userId == userId && removed.contains a.roleId) actor := by
  refine changesWithin_of_seats ⟨_, rfl⟩ hactor ?_
  intro account r hmoved key hcarries
  by_cases hr : r ∈ added ++ removed
  · unfold setUserCustomRoleAssignmentsChecks at hchecks
    simp only [Tx.checkWhen_ok, Tx.bind_eq_ok, Tx.exists_unit] at hchecks
    obtain ⟨_, hlimits, _⟩ := hchecks (List.ne_nil_of_mem hr)
    exact (assertActorHoldsRolePermissions_ok hactor).mp hlimits r hr key hcarries
  · refine absurd ?_ hmoved
    rw [List.mem_append, not_or] at hr
    simp only [seated_deleteSeats, RoleDb.createSeats_userRoleAssignments, List.mem_append,
      Bool.and_eq_false_iff, beq_eq_false_iff_ne, List.contains_eq_mem, decide_eq_false_iff_not]
    constructor
    · rintro ⟨a, ha | ha, _, huser, hrole⟩
      · exact ⟨a, ha, huser, hrole⟩
      · obtain ⟨id, hid, rfl⟩ := List.mem_map.mp ha
        exact absurd (show r ∈ added from hrole ▸ hid) hr.1
    · rintro ⟨a, ha, huser, hrole⟩
      exact ⟨a, .inl ha, .inr (hrole.symm ▸ hr.2), huser, hrole⟩

/-- A permission moves only if its key is among the changed ones, which the actor must hold. -/
theorem updateRolePermissions_changesWithin (hactor : canDoAnything ∉ actor) {keys : List String}
    (hchecks : updateRolePermissionsChecks role (db.permissionKeys role.id) keys actor = .ok ()) :
    ChangesWithin db (syncRolePermissions role.id (db.permissionKeys role.id) keys db) actor := by
  refine resolve_within hactor ?_
  intro account key hlacks
  have hcarries : ∀ r, (syncRolePermissions role.id (db.permissionKeys role.id) keys db).Carries r key ↔
      db.Carries r key := by
    intro r
    rw [syncRolePermissions_carries]
    split
    · next hsynced =>
      obtain ⟨rfl, _⟩ := hsynced
      -- a key that changes is in one of the two differences
      unfold updateRolePermissionsChecks at hchecks
      simp only [Tx.checkWhen_ok, Tx.bind_eq_ok, Tx.exists_unit,
        assertActorHolds_ok hactor] at hchecks
      have hunchanged : key ∉ keysNotIn keys (db.permissionKeys role.id) ++
          keysNotIn (db.permissionKeys role.id) keys := by
        intro hchanged
        exact hlacks ((hchecks (List.ne_nil_of_mem hchanged)).2 key hchanged)
      simp only [List.mem_append, mem_keysNotIn, mem_permissionKeys, not_or, not_and_not_right]
        at hunchanged
      exact ⟨hunchanged.1, hunchanged.2⟩
    · exact Iff.rfl
  left
  constructor
  · rintro ⟨r, hr, hassigned⟩
    exact ⟨r, (hcarries r).mp hr, hassigned⟩
  · rintro ⟨r, hr, hassigned⟩
    exact ⟨r, (hcarries r).mpr hr, hassigned⟩

/-! ### The two calls that move more than they check -/

theorem assigned_deleteRole {account r : Nat} :
    (db.deleteRole roleId).Assigned account r ↔ db.Assigned account r ∧ r ≠ roleId := by
  simp only [RoleDb.Assigned, RoleDb.Seated, RoleDb.HoldsAsMember, RoleDb.deleteRole_accounts,
    RoleDb.deleteRole_userRoleAssignments, RoleDb.deleteRole_memberRoleAssignments, List.mem_filter,
    bne_iff_ne, ne_eq]
  constructor
  · rintro (⟨a, ⟨ha, hne⟩, huser, rfl⟩ | ⟨acc, hacc, hid, a, ⟨ha, hne⟩, hmember, rfl⟩)
    · exact ⟨.inl ⟨a, ha, huser, rfl⟩, hne⟩
    · exact ⟨.inr ⟨acc, hacc, hid, a, ha, hmember, rfl⟩, hne⟩
  · rintro ⟨⟨a, ha, huser, rfl⟩ | ⟨acc, hacc, hid, a, ha, hmember, rfl⟩, hne⟩
    · exact .inl ⟨a, ⟨ha, hne⟩, huser, rfl⟩
    · exact .inr ⟨acc, hacc, hid, a, ⟨ha, hne⟩, hmember, rfl⟩

theorem carries_deleteRole {r : Nat} {key : String} :
    (db.deleteRole roleId).Carries r key ↔ db.Carries r key ∧ r ≠ roleId := by
  simp only [RoleDb.Carries, RoleDb.deleteRole_rolePermissions, List.mem_filter, bne_iff_ne, ne_eq]
  constructor
  · rintro ⟨p, ⟨hp, hne⟩, rfl, rfl⟩
    exact ⟨⟨p, hp, rfl, rfl⟩, hne⟩
  · rintro ⟨⟨p, hp, rfl, rfl⟩, hne⟩
    exact ⟨p, ⟨hp, hne⟩, rfl, rfl⟩

theorem grants_deleteRole {account : Nat} {key : String} :
    (db.deleteRole roleId).Grants account key ↔
      ∃ r, r ≠ roleId ∧ db.Carries r key ∧ db.Assigned account r := by
  simp only [RoleDb.Grants, carries_deleteRole, assigned_deleteRole]
  constructor
  · rintro ⟨r, ⟨hcarries, hne⟩, hassigned, _⟩
    exact ⟨r, hne, hcarries, hassigned⟩
  · rintro ⟨r, hne, hcarries, hassigned⟩
    exact ⟨r, ⟨hcarries, hne⟩, hassigned, hne⟩

/-- Deleting a role stays within the actor exactly when every holder keeps what the actor lacks. -/
theorem deleteRole_changesWithin_iff (hactor : canDoAnything ∉ actor) :
    ChangesWithin db (db.deleteRole roleId) actor ↔
      ∀ account key, db.Assigned account roleId → db.Carries roleId key →
        key ∈ actor ∨ db.GrantsElsewhere account roleId key := by
  constructor
  · intro hwithin account key hassigned hcarries
    by_cases hlacks : key ∈ actor
    · exact .inl hlacks
    · right
      -- otherwise the account loses the key with the role
      by_contra helsewhere
      have hafter : ∀ k, (k = key ∨ k = canDoAnything) → ¬(db.deleteRole roleId).Grants account k := by
        rintro k hk hgrants
        obtain ⟨r, hne, hr, hassigned'⟩ := grants_deleteRole.mp hgrants
        refine helsewhere ⟨r, hne, hassigned', ?_⟩
        rcases hk with rfl | rfl
        · exact .inl hr
        · exact .inr hr
      exact hwithin.symm.not_gained hactor hlacks (hafter key (.inl rfl))
        (hafter canDoAnything (.inr rfl)) ⟨roleId, hcarries, hassigned⟩
  · intro hkeeps
    refine resolve_within hactor ?_
    intro account key hlacks
    have hshrinks : ∀ k, (db.deleteRole roleId).Grants account k → db.Grants account k := by
      intro k hk
      obtain ⟨r, _, hcarries, hassigned⟩ := grants_deleteRole.mp hk
      exact ⟨r, hcarries, hassigned⟩
    by_cases hgrants : db.Grants account key
    · obtain ⟨r, hcarries, hassigned⟩ := hgrants
      by_cases hr : r = roleId
      · subst hr
        rcases hkeeps account key hassigned hcarries with hheld | ⟨r', hne, hassigned', hr' | hr'⟩
        · exact absurd hheld hlacks
        · have hkept := grants_deleteRole.mpr ⟨r', hne, hr', hassigned'⟩
          exact .inl ⟨hshrinks key, fun _ => hkept⟩
        · have hkept := grants_deleteRole.mpr ⟨r', hne, hr', hassigned'⟩
          exact .inr ⟨hshrinks canDoAnything hkept, hkept⟩
      · exact .inl ⟨hshrinks key, fun _ => grants_deleteRole.mpr ⟨r, hr, hcarries, hassigned⟩⟩
    · exact .inl ⟨hshrinks key, fun h => absurd h hgrants⟩

/-- A post's id is in the list the sync reads. -/
theorem post_mem_committeePostIds (hdb : db.Valid) (hrole : role ∈ db.roles)
    (hpost : isServiceCommitteePostKey role.key = true) : role.id ∈ db.committeePostIds := by
  unfold RoleDb.committeePostIds
  rw [List.mem_filterMap]
  refine ⟨role.key, mem_postKeys_iff.mpr hpost, ?_⟩
  rw [hdb.roleByKey_iff.mpr ⟨hrole, rfl⟩, Option.map_some]

theorem committeePostIds_placeSeat :
    (db.placeSeat role userId kind).committeePostIds = db.committeePostIds := by
  unfold RoleDb.committeePostIds
  simp only [roleByKey_placeSeat]

/-- A deputy's seat leaves the post's other leaders on the committee, and takes the account's own
leadership of it away. -/
theorem leadsPost_deputy (hdb : db.Valid) {account : Nat} :
    (db.placeSeat role userId .deputy).LeadsPost account ↔ db.LeadsPostBeside userId role.id account := by
  unfold RoleDb.LeadsPost RoleDb.LeadsPostBeside
  simp only [committeePostIds_placeSeat, mem_placeSeat hdb]
  constructor
  · rintro ⟨a, rfl | ⟨ha, hpair, _⟩, huser, hleader, hpost⟩
    · exact absurd hleader (by simp)
    · exact ⟨a, ha, huser, hleader, hpost, hpair⟩
  · rintro ⟨a, ha, huser, hleader, hpost, hpair⟩
    exact ⟨a, .inr ⟨ha, hpair, by simp⟩, huser, hleader, hpost⟩

/-- The committee after a deputy is seated in a post. -/
theorem seated_committee_deputy (hdb : db.Valid) (hrole : role ∈ db.roles)
    (hpost : isServiceCommitteePostKey role.key = true) {c : Role}
    (hc : db.roleByKey serviceCommitteeKey = some c) {account : Nat} :
    ((db.placeSeat role userId .deputy).syncAfter role).Seated account c.id ↔
      db.LeadsPostBeside userId role.id account := by
  unfold RoleDb.syncAfter
  rw [if_pos hpost, sync_committee (by rwa [roleByKey_placeSeat]), leadsPost_deputy hdb]
  rw [committeePostIds_placeSeat]
  exact List.ne_nil_of_mem (post_mem_committeePostIds hdb hrole hpost)

/-- **A write to the seats of two roles**, the permissions of the first all held by the actor, stays
within the actor exactly when whoever it seats in or takes out of the second has another way to
what the actor lacks. -/
theorem changesWithin_iff_of_two_roles
    (hframe : ∃ rows, db' = { db with userRoleAssignments := rows }) (hactor : canDoAnything ∉ actor)
    {held moved : Nat} (hheld : ∀ key, db.Carries held key → key ∈ actor)
    (hother : ∀ account r, r ≠ held → r ≠ moved → (db'.Seated account r ↔ db.Seated account r)) :
    ChangesWithin db db' actor ↔
      ∀ account key, ¬(db'.Seated account moved ↔ db.Seated account moved) →
        db.Carries moved key → key ∈ actor ∨ db.GrantsBeyondSeat account moved key := by
  have hcarriesIff : ∀ r k, db'.Carries r k ↔ db.Carries r k := by
    obtain ⟨rows, rfl⟩ := hframe
    exact fun _ _ => Iff.rfl
  have hmemberIff : ∀ account r, (∃ acc ∈ db'.accounts, acc.id = account ∧ db'.HoldsAsMember acc r) ↔
      ∃ acc ∈ db.accounts, acc.id = account ∧ db.HoldsAsMember acc r := by
    obtain ⟨rows, rfl⟩ := hframe
    exact fun _ _ => Iff.rfl
  -- for what the actor lacks, the paths beside the moved seat are the same on both sides
  have hbeyond : ∀ account r key, key ∉ actor → db.Carries r key →
      (((r ≠ moved ∧ db'.Seated account r) ∨
          ∃ acc ∈ db'.accounts, acc.id = account ∧ db'.HoldsAsMember acc r) ↔
        (r ≠ moved ∧ db.Seated account r) ∨
          ∃ acc ∈ db.accounts, acc.id = account ∧ db.HoldsAsMember acc r) := by
    intro account r key hlacks hcarries
    have hnotHeld : r ≠ held := fun h => hlacks (hheld key (h ▸ hcarries))
    rw [hmemberIff]
    by_cases hne : r = moved
    · simp [hne]
    · rw [hother account r hnotHeld hne]
  constructor
  · intro hwithin account key hmoved hcarries
    by_cases hlacks : key ∈ actor
    · exact .inl hlacks
    · right
      by_contra hnone
      have hnone' : ¬db'.GrantsBeyondSeat account moved key := by
        rintro ⟨r, hpath, hr | hr⟩
        · rw [hcarriesIff] at hr
          exact hnone ⟨r, (hbeyond account r key hlacks hr).mp hpath, .inl hr⟩
        · rw [hcarriesIff] at hr
          exact hnone ⟨r, (hbeyond account r canDoAnything hactor hr).mp hpath, .inr hr⟩
      -- so the key, or can-do-anything, comes and goes with the moved seat
      by_cases hseated : db.Seated account moved
      · have hgone : ∀ k, (k = key ∨ k = canDoAnything) → ¬db'.Grants account k := by
          intro k hk hgrants
          have hafter := RoleDb.seated_of_not_grantsBeyondSeat hnone' hk hgrants
          exact hmoved ⟨fun _ => hseated, fun _ => hafter⟩
        exact hwithin.symm.not_gained hactor hlacks (hgone key (.inl rfl))
          (hgone canDoAnything (.inr rfl)) ⟨moved, hcarries, .inl hseated⟩
      · have hjoined : db'.Seated account moved := by
          by_contra h
          exact hmoved ⟨fun h' => absurd h' h, fun h' => absurd h' hseated⟩
        have hnew : ∀ k, (k = key ∨ k = canDoAnything) → ¬db.Grants account k :=
          fun k hk hgrants => hseated (RoleDb.seated_of_not_grantsBeyondSeat hnone hk hgrants)
        exact hwithin.not_gained hactor hlacks (hnew key (.inl rfl))
          (hnew canDoAnything (.inr rfl))
          ⟨moved, (hcarriesIff moved key).mpr hcarries, .inl hjoined⟩
  · intro hkeeps
    refine resolve_within hactor ?_
    intro account key hlacks
    -- a path beside the moved seat grants on both sides
    have hboth : ∀ r k, k ∉ actor → db.Carries r k →
        ((r ≠ moved ∧ db.Seated account r) ∨
          ∃ acc ∈ db.accounts, acc.id = account ∧ db.HoldsAsMember acc r) →
        db.Grants account k ∧ db'.Grants account k := by
      intro r k hk hr hpath
      refine ⟨⟨r, hr, hpath.imp And.right id⟩, r, (hcarriesIff r k).mpr hr, ?_⟩
      exact ((hbeyond account r k hk hr).mpr hpath).imp And.right id
    by_cases hshift : db.Carries moved key ∧ ¬(db'.Seated account moved ↔ db.Seated account moved)
    · rcases hkeeps account key hshift.2 hshift.1 with hheldKey | ⟨r, hpath, hr | hr⟩
      · exact absurd hheldKey hlacks
      · obtain ⟨hbefore, hafter⟩ := hboth r key hlacks hr hpath
        exact .inl ⟨fun _ => hbefore, fun _ => hafter⟩
      · exact .inr (hboth r canDoAnything hactor hr hpath)
    · refine .inl (grants_iff_of_seats hframe ?_)
      intro r hcarries
      by_cases hr : r = moved
      · subst hr
        by_contra hchanged
        exact hshift ⟨hcarries, hchanged⟩
      · exact hother account r (fun h => hlacks (hheld key (h ▸ hcarries))) hr

/-- Seating a deputy in a post stays within the actor exactly when the accounts it moves on or off
the committee have another way to what the actor lacks. -/
theorem seatDeputy_changesWithin_iff (hdb : db.Valid) (hactor : canDoAnything ∉ actor)
    (hrole : role ∈ db.roles) (hpost : isServiceCommitteePostKey role.key = true) {c : Role}
    (hc : db.roleByKey serviceCommitteeKey = some c)
    (hholds : ∀ key, db.Carries role.id key → key ∈ actor) :
    ChangesWithin db ((db.placeSeat role userId .deputy).syncAfter role) actor ↔
      ∀ account key, db.DeputyMovesCommittee userId role.id c account →
        db.Carries c.id key → key ∈ actor ∨ db.GrantsBeyondSeat account c.id key := by
  have hother : ∀ account r, r ≠ role.id → r ≠ c.id →
      (((db.placeSeat role userId .deputy).syncAfter role).Seated account r ↔
        db.Seated account r) := by
    intro account r hne hnec
    refine seated_seat_of_ne hdb hne ?_
    intro c' _ hc'
    rw [hc, Option.some.injEq] at hc'
    rwa [← hc']
  rw [changesWithin_iff_of_two_roles (placeSeat_syncAfter_frame ..) hactor hholds hother]
  unfold RoleDb.DeputyMovesCommittee
  simp only [seated_committee_deputy hdb hrole hpost hc]

end Calls

/-- **Which calls stay within their actor.** For a non-admin actor and a call that succeeds on the
actor's behalf, every effective permission that some account gains or loses is one the actor holds,
if and only if the call `StaysWithin`: always, but for deleting a role and for seating a deputy in
a committee post. -/
theorem privilegeChanges_within_iff (u : Unicode) {db db' : RoleDb} (hdb : db.Valid) (actorId : Nat)
    (call : RoleCall) (hactor : canDoAnything ∉ resolveEffectivePermissions db actorId)
    (hok : ((call.request (resolveEffectivePermissions db actorId)).run u).exec db = (.ok (), db')) :
    ChangesWithin db db' (resolveEffectivePermissions db actorId) ↔
      call.StaysWithin db (resolveEffectivePermissions db actorId) := by
  generalize resolveEffectivePermissions db actorId = actor at hactor hok ⊢
  have hunchanged : ChangesWithin db db actor := fun _ _ h => absurd Iff.rfl h
  cases call with
  | seatMember roleId memberId kind =>
    obtain ⟨role, userId, hchecks, rfl⟩ := seatMember_ok hok
    obtain ⟨hrole, _, haccount, hlimits, _⟩ := seatMemberChecks_ok hchecks
    obtain ⟨hmem, hid⟩ := RoleDb.roleById_mem hrole
    by_cases hside : isServiceCommitteePostKey role.key = true ∧ kind = .deputy
    · -- a deputy in a post: only the post itself was checked
      obtain ⟨hpost, rfl⟩ := hside
      rw [seatKindFor_deputy] at hlimits ⊢
      have hholds : ∀ key, db.Carries role.id key → key ∈ actor :=
        (assertActorHoldsRolePermissions_ok hactor).mp hlimits role.id mem_rolesGrantedBySeat
      cases hc : db.roleByKey serviceCommitteeKey with
      | none =>
        have hwithin : ChangesWithin db ((db.placeSeat role userId .deputy).syncAfter role) actor := by
          refine changesWithin_of_seats (placeSeat_syncAfter_frame ..) hactor ?_
          intro account r hmoved key hcarries
          by_cases hr : r = role.id
          · exact hholds key (hr ▸ hcarries)
          · refine absurd (seated_seat_of_ne hdb hr ?_) hmoved
            intro c _ hc'
            simp [hc] at hc'
        refine iff_of_true hwithin ?_
        intro role' userId' c _ _ _ hc'
        simp [hc] at hc'
      | some c =>
        rw [seatDeputy_changesWithin_iff hdb hactor hmem hpost hc hholds, hid]
        constructor
        · intro h role' userId' c' hrole' _ haccount' hc'
          rw [haccount, Except.ok.injEq] at haccount'
          rw [hc, Option.some.injEq] at hc'
          subst haccount' hc'
          exact h
        · exact fun h => h role userId c hrole hpost haccount hc
    · have hkind : isServiceCommitteePostKey role.key = true → kind ≠ .deputy :=
        fun hpost hdeputy => hside ⟨hpost, hdeputy⟩
      refine iff_of_true (seatMember_changesWithin hdb hactor hchecks hkind) ?_
      cases kind with
      | deputy =>
        intro role' _ _ hrole' hpost _ _
        rw [hrole, Option.some.injEq] at hrole'
        exact absurd rfl (hkind (hrole' ▸ hpost))
      | leader => trivial
      | member => trivial
  | unseatMember roleId memberId =>
    obtain ⟨role, userId, hchecks, rfl⟩ := unseatMember_ok hok
    exact iff_of_true (unseatMember_changesWithin hactor hchecks) trivial
  | addUserToRole userId roleId =>
    rcases addUserToRole_ok hok with rfl | ⟨role, _, _, _, _, hlimits, _, rfl⟩
    · exact iff_of_true hunchanged trivial
    · exact iff_of_true (addUserToRole_changesWithin hactor hlimits) trivial
  | removeUserFromRole userId roleId =>
    rcases removeUserFromRole_ok hok with ⟨_, rfl⟩ | ⟨role, _, _, _, _, hlimits, _, rfl⟩
    · exact iff_of_true hunchanged trivial
    · exact iff_of_true (removeUserFromRole_changesWithin hactor hlimits) trivial
  | setUserCustomRoleAssignments userId ids =>
    obtain ⟨added, removed, _, hchecks, rfl⟩ := setUserCustomRoleAssignments_ok hok
    exact iff_of_true (customRoles_changesWithin hactor hchecks) trivial
  | updateRolePermissions roleId keys =>
    rcases updateRolePermissions_ok hok with ⟨_, rfl⟩ | ⟨role, _, hchecks, rfl⟩
    · exact iff_of_true hunchanged trivial
    · exact iff_of_true (updateRolePermissions_changesWithin hactor hchecks) trivial
  | deleteRole roleId =>
    rcases deleteRole_ok hok with ⟨hmissing, rfl⟩ | ⟨role, hrole, _, _, rfl⟩
    · refine iff_of_true hunchanged ?_
      intro role' hrole'
      simp [hmissing] at hrole'
    · have hid : role.id = roleId := (RoleDb.roleById_mem hrole).2
      rw [hid, deleteRole_changesWithin_iff hactor]
      constructor
      · exact fun h _ _ => h
      · exact fun h => h role hrole

/-- A coordinator (account 10) who sits on the committee, and a roles manager (account 11). The
committee's permission is not the manager's. -/
def grantSample : RoleDb where
  roles := [builtInRole serviceCommitteeKey 1, builtInRole "coordinator" 2,
    newRole "managers" "managers" none false 3, newRole "archivists" "archivists" none false 4]
  rolePermissions := [⟨1, "can-manage-users"⟩, ⟨3, "can-manage-roles"⟩, ⟨4, "can-view-roles"⟩]
  userRoleAssignments := [⟨10, 2, .leader⟩, ⟨10, 1, .member⟩, ⟨11, 3, .member⟩, ⟨10, 4, .member⟩]
  memberRoleAssignments := []
  accounts := [⟨10, some 20, none, none, "coordinator", true, none⟩,
    ⟨11, none, none, none, "manager", true, none⟩]
  members := [⟨20, "", "", none, true, none, false, false, false, none, none, none, []⟩]
  permissions := ["can-manage-users", "can-manage-roles", "can-view-roles"]
  nextRoleId := 5

theorem grantSample_valid : grantSample.Valid := by decide

/-- Deleting the archivists takes « can-view-roles » from account 10, for a manager who does not
hold it; seating account 10 as the coordinator's deputy takes « can-manage-users » from it. -/
theorem privilegeChanges_beyond_actor :
    grantSample.Valid ∧ canDoAnything ∉ resolveEffectivePermissions grantSample 11 ∧
      (∃ db', (((RoleCall.deleteRole 4).request
          (resolveEffectivePermissions grantSample 11)).run .lowerAscii).exec grantSample
            = (.ok (), db') ∧
        ¬ChangesWithin grantSample db' (resolveEffectivePermissions grantSample 11)) ∧
      ∃ db', (((RoleCall.seatMember 2 20 .deputy).request
          (resolveEffectivePermissions grantSample 11)).run .lowerAscii).exec grantSample
            = (.ok (), db') ∧
        ¬ChangesWithin grantSample db' (resolveEffectivePermissions grantSample 11) := by
  refine ⟨grantSample_valid, by decide, ⟨_, rfl, ?_⟩, _, rfl, ?_⟩
  · intro h
    exact absurd (h 10 "can-view-roles" (by decide)) (by decide)
  · intro h
    exact absurd (h 10 "can-manage-users" (by decide)) (by decide)

/-- The manager may take account 11 out of the managers: the call stays within. -/
theorem privilegeChanges_within_iff_removal :
    ChangesWithin grantSample (grantSample.deleteSeats fun a => a.userId == 11 && a.roleId == 3)
        (resolveEffectivePermissions grantSample 11) ↔
      (RoleCall.removeUserFromRole 11 3).StaysWithin grantSample
        (resolveEffectivePermissions grantSample 11) :=
  privilegeChanges_within_iff .lowerAscii grantSample_valid 11 (.removeUserFromRole 11 3) (by decide)
    rfl

end Unitae.Roles
