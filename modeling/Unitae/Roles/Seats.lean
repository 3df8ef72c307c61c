import Unitae.Roles.GrantLimits
import Unitae.Roles.Integrity

/-!
# Unitae — who sits in a node (`organigram-seats.server.ts`)

Each service is its checks, read-only and in source order, followed by its writes. A refusal
therefore never leaves a write behind, which the calculus of `Base/Transaction` turns into a
theorem for all of them at once.
-/

namespace Unitae.Roles

def memberHasNoAccount : String :=
  "Cette personne n’a pas de compte : elle ne peut pas encore être placée dans l’organigramme."

def postRequiresElder : String :=
  "Le comité de service est composé de trois anciens : cette personne n’est pas ancien."

def rosterIsSynced : String :=
  "Cette liste est synchronisée automatiquement : on n’y place personne à la main."

def requireRole (db : RoleDb) (roleId : Nat) : Except Failure Role :=
  match db.roleById roleId with
  | some role => .ok role
  | none => .error (.app (.notFound "Role" (some roleId)))

def requireSeatableAccount (db : RoleDb) (memberId : Nat) : Except Failure Nat :=
  match db.memberById memberId with
  | none => .error (.app (.notFound "Member" (some memberId)))
  | some _ =>
    match db.accountOfMember memberId with
    | none => .error (.app (.validation "memberId" memberHasNoAccount))
    | some account => .ok account.id

/-- The roles a seat grants: the node, plus the committee for a post's titulaire. -/
def rolesGrantedBySeat (db : RoleDb) (role : Role) (seatKind : SeatKind) : List Nat :=
  if !isServiceCommitteePostKey role.key || seatKind != .leader then [role.id]
  else
    match db.roleByKey serviceCommitteeKey with
    | some committee => [role.id, committee.id]
    | none => [role.id]

/-! ## seatMember -/

/-- One titulaire and, optionally, adjoints: a personal role, or a committee post. -/
def Role.isSingle (role : Role) : Bool := role.isSinglePerson || isServiceCommitteePostKey role.key

/-- The seat a request really asks for: a plain seat does not exist on a personal role. -/
def Role.seatKindFor (role : Role) (kind : SeatKind) : SeatKind :=
  if role.isSingle && kind != .deputy then .leader else kind

/-- The leaders a new titulaire of the role unseats. -/
def RoleDb.outgoing (db : RoleDb) (userId roleId : Nat) : List Nat :=
  (db.userRoleAssignments.filter fun a =>
    a.roleId == roleId && a.kind == .leader && a.userId != userId).map (·.userId)

/-- A handover is a revocation for each outgoing titulaire. -/
def handoverChecks (db : RoleDb) (userId roleId : Nat) (actorPermissions : List String) :
    Except Failure Unit :=
  let outgoing := db.outgoing userId roleId
  let grantsAdmin := !outgoing.isEmpty && roleGrantsAdmin db roleId
  outgoing.forM fun holder => do
    assertMayChangeAccountAccess db holder actorPermissions
    Tx.checkWhen grantsAdmin (requireNotLastAdmin db holder)

def isElder (db : RoleDb) (memberId : Nat) : Bool :=
  db.memberRoleAssignments.any fun a =>
    a.memberId == memberId && db.roles.any fun r => r.id == a.roleId && r.key == "elder"

/-- Every refusal of `seatMember`, in order; what is left is the node and the account. -/
def seatMemberChecks (db : RoleDb) (roleId memberId : Nat) (kind : SeatKind)
    (actorPermissions : List String) : Except Failure (Role × Nat) := do
  let role ← requireRole db roleId
  Tx.refuseWhen (isIdentityRoleKey role.key) (.app (.forbidden rosterIsSynced))
  let userId ← requireSeatableAccount db memberId
  let seatKind := role.seatKindFor kind
  assertMayChangeAccountAccess db userId actorPermissions
  assertActorHoldsRolePermissions db (rolesGrantedBySeat db role seatKind) actorPermissions
  Tx.checkWhen (role.isSingle && seatKind == .leader)
    (handoverChecks db userId roleId actorPermissions)
  Tx.refuseWhen
    (isServiceCommitteePostKey role.key && seatKind == .leader && !isElder db memberId)
    (.app (.validation "memberId" postRequiresElder))
  return (role, userId)

/-- Create the seat, or give it its new kind; an unchanged seat writes nothing. -/
def RoleDb.writeSeat (userId roleId : Nat) (seatKind : SeatKind) (db : RoleDb) : RoleDb :=
  match db.seat userId roleId with
  | some existing => if existing.kind = seatKind then db else db.updateSeat userId roleId seatKind
  | none => db.createSeats [⟨userId, roleId, seatKind⟩]

/-- Seating a new titulaire is the handover: the other leaders leave, the adjoints stay. -/
def RoleDb.placeSeat (role : Role) (userId : Nat) (seatKind : SeatKind) (db : RoleDb) : RoleDb :=
  let seated := db.writeSeat userId role.id seatKind
  if role.isSingle && seatKind == .leader then
    seated.deleteSeats fun a => a.roleId == role.id && a.kind == .leader && a.userId != userId
  else seated

/-- The committee's membership follows the posts, seat unchanged or not. -/
def RoleDb.syncAfter (role : Role) (db : RoleDb) : RoleDb :=
  if isServiceCommitteePostKey role.key then syncServiceCommitteeMembers db else db

/-- Put someone in a node, or change the seat they already occupy there. -/
def seatMember (roleId memberId : Nat) (kind : SeatKind) (actorPermissions : List String) :
    Tx RoleDb Failure Unit := do
  let db ← get
  let (role, userId) ← Tx.check (seatMemberChecks db roleId memberId kind actorPermissions)
  modify fun db => (db.placeSeat role userId (role.seatKindFor kind)).syncAfter role

/-! ## unseatMember -/

def unseatMemberChecks (db : RoleDb) (roleId memberId : Nat) (actorPermissions : List String) :
    Except Failure (Role × Nat) := do
  let role ← requireRole db roleId
  let userId ← requireSeatableAccount db memberId
  assertMayChangeAccountAccess db userId actorPermissions
  assertActorHoldsRolePermissions db (rolesGrantedBySeat db role .leader) actorPermissions
  Tx.checkWhen (roleGrantsAdmin db roleId) (requireNotLastAdmin db userId)
  return (role, userId)

/-- Take someone out of one node, leaving every other seat they hold untouched. -/
def unseatMember (roleId memberId : Nat) (actorPermissions : List String) :
    Tx RoleDb Failure Unit := do
  let db ← get
  let (role, userId) ← Tx.check (unseatMemberChecks db roleId memberId actorPermissions)
  modify fun db =>
    (db.deleteSeats fun a => a.userId == userId && a.roleId == role.id).syncAfter role

/-! ## What a success says -/

section Success

variable {db db' : RoleDb} {role : Role} {roleId memberId userId : Nat} {kind : SeatKind}
  {actorPermissions : List String}

theorem requireRole_ok : requireRole db roleId = .ok role ↔ db.roleById roleId = some role := by
  unfold requireRole
  cases db.roleById roleId with
  | none => simp
  | some r => simp

theorem seatMemberChecks_ok
    (h : seatMemberChecks db roleId memberId kind actorPermissions = .ok (role, userId)) :
    db.roleById roleId = some role ∧ isIdentityRoleKey role.key = false ∧
      requireSeatableAccount db memberId = .ok userId ∧
      assertActorHoldsRolePermissions db (rolesGrantedBySeat db role (role.seatKindFor kind))
        actorPermissions = .ok () ∧
      (role.isSingle = true ∧ role.seatKindFor kind = .leader →
        handoverChecks db userId roleId actorPermissions = .ok ()) := by
  unfold seatMemberChecks at h
  simp only [Tx.bind_eq_ok, Tx.exists_unit, Tx.refuseWhen_ok, Tx.checkWhen_ok, requireRole_ok, pure,
    Except.pure, Except.ok.injEq, Prod.mk.injEq, Bool.and_eq_true, beq_iff_eq] at h
  obtain ⟨_, hrole, hidentity, _, haccount, _, hlimits, hhandover, _, rfl, rfl⟩ := h
  exact ⟨hrole, by simpa using hidentity, haccount, hlimits, hhandover⟩

theorem seatMember_ok
    (h : (seatMember roleId memberId kind actorPermissions).exec db = (.ok (), db')) :
    ∃ role userId, seatMemberChecks db roleId memberId kind actorPermissions = .ok (role, userId) ∧
      db' = (db.placeSeat role userId (role.seatKindFor kind)).syncAfter role := by
  unfold seatMember at h
  simp only [Tx.exec_bind_get, Tx.exec_bind_check_ok, Tx.exec_modify, Prod.mk.injEq, true_and,
    Prod.exists] at h
  obtain ⟨role, userId, hchecks, rfl⟩ := h
  exact ⟨role, userId, hchecks, rfl⟩

theorem unseatMemberChecks_ok
    (h : unseatMemberChecks db roleId memberId actorPermissions = .ok (role, userId)) :
    db.roleById roleId = some role ∧ requireSeatableAccount db memberId = .ok userId ∧
      assertActorHoldsRolePermissions db (rolesGrantedBySeat db role .leader) actorPermissions
        = .ok () ∧
      (roleGrantsAdmin db roleId = true → requireNotLastAdmin db userId = .ok ()) := by
  unfold unseatMemberChecks at h
  simp only [Tx.bind_eq_ok, Tx.exists_unit, Tx.checkWhen_ok, requireRole_ok, pure, Except.pure,
    Except.ok.injEq, Prod.mk.injEq] at h
  obtain ⟨_, hrole, _, haccount, _, hlimits, hlast, rfl, rfl⟩ := h
  exact ⟨hrole, haccount, hlimits, hlast⟩

theorem unseatMember_ok
    (h : (unseatMember roleId memberId actorPermissions).exec db = (.ok (), db')) :
    ∃ role userId, unseatMemberChecks db roleId memberId actorPermissions = .ok (role, userId) ∧
      db' = (db.deleteSeats fun a => a.userId == userId && a.roleId == role.id).syncAfter role := by
  unfold unseatMember at h
  simp only [Tx.exec_bind_get, Tx.exec_bind_check_ok, Tx.exec_modify, Prod.mk.injEq, true_and,
    Prod.exists] at h
  obtain ⟨role, userId, hchecks, rfl⟩ := h
  exact ⟨role, userId, hchecks, rfl⟩

end Success

/-! ## The rows a seat leaves -/

section Rows

variable {db : RoleDb} {role : Role} {userId : Nat} {kind : SeatKind}

/-- A seat is written to `userRoleAssignments` only. -/
theorem placeSeat_frame (db : RoleDb) (role : Role) (userId : Nat) (kind : SeatKind) :
    ∃ rows, db.placeSeat role userId kind = { db with userRoleAssignments := rows } := by
  unfold RoleDb.placeSeat RoleDb.writeSeat
  split <;> split <;> (try split) <;> exact ⟨_, rfl⟩

theorem syncAfter_frame (db : RoleDb) (role : Role) :
    ∃ rows, db.syncAfter role = { db with userRoleAssignments := rows } := by
  unfold RoleDb.syncAfter
  split
  · exact sync_frame db
  · exact ⟨_, rfl⟩

theorem placeSeat_syncAfter_frame (db : RoleDb) (role : Role) (userId : Nat) (kind : SeatKind) :
    ∃ rows, (db.placeSeat role userId kind).syncAfter role =
      { db with userRoleAssignments := rows } := by
  obtain ⟨rows, hseat⟩ := placeSeat_frame db role userId kind
  obtain ⟨rows', hsync⟩ := syncAfter_frame (db.placeSeat role userId kind) role
  exact ⟨rows', by rw [hsync, hseat]⟩

theorem roleByKey_placeSeat {key : String} :
    (db.placeSeat role userId kind).roleByKey key = db.roleByKey key := by
  obtain ⟨rows, h⟩ := placeSeat_frame db role userId kind
  rw [h]
  rfl

theorem mem_writeSeat (hdb : db.Valid) {roleId : Nat} {a : UserRoleAssignment} :
    a ∈ (db.writeSeat userId roleId kind).userRoleAssignments ↔
      a = ⟨userId, roleId, kind⟩ ∨
        (a ∈ db.userRoleAssignments ∧ ¬(a.userId = userId ∧ a.roleId = roleId)) := by
  unfold RoleDb.writeSeat
  cases hseat : db.seat userId roleId with
  | none =>
    -- no row yet: the new one is added
    have hnone := RoleDb.seat_eq_none.mp hseat
    simp only [RoleDb.createSeats_userRoleAssignments, List.mem_append, List.mem_singleton]
    constructor
    · rintro (ha | ha)
      · exact .inr ⟨ha, fun h => hnone ⟨a, ha, h⟩⟩
      · exact .inl ha
    · rintro (ha | ⟨ha, _⟩)
      · exact .inr ha
      · exact .inl ha
  | some existing =>
    obtain ⟨hexisting, huser, hrole⟩ := RoleDb.seat_mem hseat
    -- the row of the pair is `existing` and no other
    have honly : ∀ b ∈ db.userRoleAssignments, b.userId = userId → b.roleId = roleId →
        b = existing := by
      intro b hb hbuser hbrole
      exact hdb.seat_unique hb hexisting (hbuser.trans huser.symm) (hbrole.trans hrole.symm)
    have hrow : existing = ⟨userId, roleId, existing.kind⟩ := by rw [← huser, ← hrole]
    simp only
    split
    · next hkind =>
      constructor
      · intro ha
        by_cases hpair : a.userId = userId ∧ a.roleId = roleId
        · left
          rw [honly a ha hpair.1 hpair.2, hrow, hkind]
        · exact .inr ⟨ha, hpair⟩
      · rintro (rfl | ⟨ha, _⟩)
        · rw [hrow, hkind] at hexisting
          exact hexisting
        · exact ha
    · simp only [RoleDb.updateSeat_userRoleAssignments, List.mem_map]
      constructor
      · rintro ⟨b, hb, rfl⟩
        by_cases hpair : b.userId = userId ∧ b.roleId = roleId
        · left
          simp [hpair.1, hpair.2]
        · right
          have hnot : ¬((b.userId == userId && b.roleId == roleId) = true) := by simpa using hpair
          rw [if_neg hnot]
          exact ⟨hb, hpair⟩
      · rintro (rfl | ⟨ha, hpair⟩)
        · exact ⟨existing, hexisting, by simp [huser, hrole]⟩
        · have hnot : ¬((a.userId == userId && a.roleId == roleId) = true) := by simpa using hpair
          exact ⟨a, ha, if_neg hnot⟩

/-- **The rows after seating**: the seat itself, and every other row but the leaders a new
titulaire sweeps. -/
theorem mem_placeSeat (hdb : db.Valid) {a : UserRoleAssignment} :
    a ∈ (db.placeSeat role userId kind).userRoleAssignments ↔
      a = ⟨userId, role.id, kind⟩ ∨
        (a ∈ db.userRoleAssignments ∧ ¬(a.userId = userId ∧ a.roleId = role.id) ∧
          ¬(role.isSingle = true ∧ kind = .leader ∧ a.roleId = role.id ∧ a.kind = .leader)) := by
  unfold RoleDb.placeSeat
  simp only [Bool.and_eq_true, beq_iff_eq]
  split
  · next hsweep =>
    obtain ⟨hsingle, rfl⟩ := hsweep
    simp only [RoleDb.deleteSeats_userRoleAssignments, List.mem_filter, mem_writeSeat hdb,
      Bool.not_eq_true', Bool.and_eq_false_iff, beq_eq_false_iff_ne, bne_eq_false_iff_eq]
    constructor
    · rintro ⟨rfl | ⟨ha, hpair⟩, hkept⟩
      · exact .inl rfl
      · refine .inr ⟨ha, hpair, ?_⟩
        rintro ⟨_, _, hrole, hleader⟩
        rcases hkept with (hne | hne) | heq
        · exact hne hrole
        · exact hne hleader
        · exact hpair ⟨heq, hrole⟩
    · rintro (rfl | ⟨ha, hpair, hkept⟩)
      · exact ⟨.inl rfl, .inr rfl⟩
      · refine ⟨.inr ⟨ha, hpair⟩, .inl ?_⟩
        by_cases hrole : a.roleId = role.id
        · exact .inr fun hleader => hkept ⟨hsingle, trivial, hrole, hleader⟩
        · exact .inl hrole
  · next hsweep =>
    rw [mem_writeSeat hdb]
    constructor
    · rintro (rfl | ⟨ha, hpair⟩)
      · exact .inl rfl
      · exact .inr ⟨ha, hpair, fun h => hsweep ⟨h.1, h.2.1⟩⟩
    · rintro (rfl | ⟨ha, hpair, _⟩)
      · exact .inl rfl
      · exact .inr ⟨ha, hpair⟩

/-! ## Which pairs are seated -/

variable {account r : Nat}

theorem seated_createSeats {added : List UserRoleAssignment} :
    (db.createSeats added).Seated account r ↔
      db.Seated account r ∨ ∃ a ∈ added, a.userId = account ∧ a.roleId = r := by
  simp only [RoleDb.Seated, RoleDb.createSeats_userRoleAssignments, List.mem_append]
  constructor
  · rintro ⟨a, ha | ha, h⟩
    · exact .inl ⟨a, ha, h⟩
    · exact .inr ⟨a, ha, h⟩
  · rintro (⟨a, ha, h⟩ | ⟨a, ha, h⟩)
    · exact ⟨a, .inl ha, h⟩
    · exact ⟨a, .inr ha, h⟩

theorem seated_deleteSeats {sel : UserRoleAssignment → Bool} :
    (db.deleteSeats sel).Seated account r ↔
      ∃ a ∈ db.userRoleAssignments, sel a = false ∧ a.userId = account ∧ a.roleId = r := by
  simp only [RoleDb.Seated, RoleDb.deleteSeats_userRoleAssignments, List.mem_filter,
    Bool.not_eq_true']
  constructor
  · rintro ⟨a, ⟨ha, hsel⟩, h⟩
    exact ⟨a, ha, hsel, h⟩
  · rintro ⟨a, ha, hsel, h⟩
    exact ⟨a, ⟨ha, hsel⟩, h⟩

/-- Taking one account out of one role leaves every other pair seated as it was. -/
theorem seated_unseat :
    (db.deleteSeats fun a => a.userId == userId && a.roleId == role.id).Seated account r ↔
      db.Seated account r ∧ ¬(account = userId ∧ r = role.id) := by
  simp only [seated_deleteSeats, Bool.and_eq_false_iff, beq_eq_false_iff_ne]
  constructor
  · rintro ⟨a, ha, hne, rfl, rfl⟩
    refine ⟨⟨a, ha, rfl, rfl⟩, ?_⟩
    rintro ⟨huser, hrole⟩
    rcases hne with hne | hne
    · exact hne huser
    · exact hne hrole
  · rintro ⟨⟨a, ha, rfl, rfl⟩, hpair⟩
    refine ⟨a, ha, ?_, rfl, rfl⟩
    by_cases huser : a.userId = userId
    · exact .inr fun hrole => hpair ⟨huser, hrole⟩
    · exact .inl huser

theorem seated_placeSeat_of_ne (hdb : db.Valid) (hr : r ≠ role.id) :
    (db.placeSeat role userId kind).Seated account r ↔ db.Seated account r := by
  simp only [RoleDb.Seated, mem_placeSeat hdb]
  constructor
  · rintro ⟨a, rfl | ⟨ha, _⟩, huser, hrole⟩
    · exact absurd hrole.symm hr
    · exact ⟨a, ha, huser, hrole⟩
  · rintro ⟨a, ha, huser, hrole⟩
    refine ⟨a, .inr ⟨ha, ?_, ?_⟩, huser, hrole⟩
    · exact fun h => hr (hrole.symm.trans h.2)
    · exact fun h => hr (hrole.symm.trans h.2.2.1)

/-- The sync after a seat changes the committee's seats only, and only for a post. -/
theorem seated_syncAfter_of_ne
    (hr : ∀ c, isServiceCommitteePostKey role.key = true →
      db.roleByKey serviceCommitteeKey = some c → r ≠ c.id) :
    (db.syncAfter role).Seated account r ↔ db.Seated account r := by
  unfold RoleDb.syncAfter
  split
  · next hpost =>
    simp only [RoleDb.Seated]
    constructor
    · rintro ⟨a, ha, huser, rfl⟩
      exact ⟨a, (mem_sync_of_ne fun c hc => hr c hpost hc).mp ha, huser, rfl⟩
    · rintro ⟨a, ha, huser, rfl⟩
      exact ⟨a, (mem_sync_of_ne fun c hc => hr c hpost hc).mpr ha, huser, rfl⟩
  · exact Iff.rfl

theorem RoleDb.Valid.placeSeat (hdb : db.Valid) (hrole : role ∈ db.roles) :
    (db.placeSeat role userId kind).Valid := by
  have hwritten : (db.writeSeat userId role.id kind).Valid := by
    unfold RoleDb.writeSeat
    cases hseat : db.seat userId role.id with
    | none => exact hdb.createSeat (RoleDb.seat_eq_none.mp hseat) hrole rfl
    | some existing =>
      simp only
      split
      · exact hdb
      · exact hdb.updateSeat _ _ _
  unfold RoleDb.placeSeat
  simp only
  split
  · exact hwritten.deleteSeats _
  · exact hwritten

theorem RoleDb.Valid.syncAfter (hdb : db.Valid) : (db.syncAfter role).Valid := by
  unfold RoleDb.syncAfter
  split
  · exact hdb.sync
  · exact hdb

end Rows

end Unitae.Roles
