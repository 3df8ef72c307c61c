import Unitae.Roles.Integrity
import Unitae.Roles.RoleService

/-!
# Unitae — the bulk role editors and the organigram's seats

The matrix removes an account from one role, the account form sets the roles of one account from a checkbox
list. Both work on the table the organigram keeps its seats in. The matrix refuses to take a leader's or a
deputy's seat; the form asks for the kind of an assignment nowhere.
-/

namespace Unitae.Roles

/-- Leaders and deputies keep what they had: the seats are given and taken in the organigram. -/
def KeepsLeadership (db db' : RoleDb) : Prop :=
  ∀ a ∈ db.userRoleAssignments, a.kind = .leader ∨ a.kind = .deputy → a ∈ db'.userRoleAssignments

/-- What the form promises of an edit of one account, by its outcome and the store it leaves. -/
structure EditsRoles (db : RoleDb) (userId : Nat) (customRoleIds : List Nat)
    (result : Except Failure Unit × RoleDb) : Prop where
  desired : result.1 = .ok () → ∀ r ∈ db.assignableIds, result.2.Seated userId r ↔ r ∈ customRoleIds
  others : ∀ a, ¬(a.userId = userId ∧ a.roleId ∈ db.assignableIds) →
    (a ∈ result.2.userRoleAssignments ↔ a ∈ db.userRoleAssignments)
  leadership : KeepsLeadership db result.2

/-- Every leader's and deputy's seat the form can see is among the boxes checked. -/
def ChecksLeadership (db : RoleDb) (userId : Nat) (customRoleIds : List Nat) : Prop :=
  ∀ a ∈ db.userRoleAssignments, a.userId = userId → a.kind = .leader ∨ a.kind = .deputy →
    a.roleId ∈ db.assignableIds → a.roleId ∈ customRoleIds

section Edits

variable {db db' : RoleDb} {userId roleId : Nat} {customRoleIds : List Nat}
  {actorPermissions : List String}

/-- An edit that goes through adds the boxes newly checked and takes every assignment of those unchecked. -/
theorem mem_setUserCustomRoleAssignments {a : UserRoleAssignment}
    (h : (setUserCustomRoleAssignments userId customRoleIds actorPermissions).exec db =
      (.ok (), db')) :
    a ∈ db'.userRoleAssignments ↔
      (a ∈ db.userRoleAssignments ∧
        ¬(a.userId = userId ∧ a.roleId ∈ db.assignableIds ∧ a.roleId ∉ customRoleIds)) ∨
      (a.userId = userId ∧ a.kind = .member ∧ a.roleId ∈ customRoleIds ∧
        a.roleId ∈ db.assignableIds ∧ ¬db.Seated userId a.roleId) := by
  obtain ⟨added, removed, hdiff, _, rfl⟩ := setUserCustomRoleAssignments_ok h
  obtain ⟨_, hadded, hremoved⟩ := customRoleDiff_spec hdiff
  have hnew : a ∈ added.map (fun id => (⟨userId, id, .member⟩ : UserRoleAssignment)) ↔
      a.userId = userId ∧ a.kind = .member ∧ a.roleId ∈ added := by
    rw [List.mem_map]
    constructor
    · rintro ⟨id, hid, rfl⟩
      exact ⟨rfl, rfl, hid⟩
    · intro ⟨huser, hkind, hid⟩
      exact ⟨a.roleId, hid, by rw [← huser, ← hkind]⟩
  have hmem : a ∈ ((db.createSeats (added.map fun id => ⟨userId, id, .member⟩)).deleteSeats
      fun a => a.userId == userId && removed.contains a.roleId).userRoleAssignments ↔
      (a ∈ db.userRoleAssignments ∨ a.userId = userId ∧ a.kind = .member ∧ a.roleId ∈ added) ∧
        ¬(a.userId = userId ∧ a.roleId ∈ removed) := by
    rw [← hnew]
    simp only [RoleDb.deleteSeats_userRoleAssignments, RoleDb.createSeats_userRoleAssignments,
      List.mem_filter, List.mem_append, Bool.not_eq_true', Bool.and_eq_false_iff,
      beq_eq_false_iff_ne, List.contains_eq_mem, decide_eq_false_iff_not, not_and_or, ne_eq]
  rw [hmem, hadded, hremoved]
  -- an assignment of the account in a role is what being seated there means
  have hseated : a ∈ db.userRoleAssignments → a.userId = userId → db.Seated userId a.roleId :=
    fun ha huser => ⟨a, ha, huser, rfl⟩
  grind

/-- Of the roles the form may assign, the account ends with those checked. -/
theorem seated_setUserCustomRoleAssignments {r : Nat}
    (h : (setUserCustomRoleAssignments userId customRoleIds actorPermissions).exec db =
      (.ok (), db')) (hr : r ∈ db.assignableIds) : db'.Seated userId r ↔ r ∈ customRoleIds := by
  constructor
  · intro ⟨a, ha, huser, hrole⟩
    subst hrole
    cases (mem_setUserCustomRoleAssignments h).mp ha with
    | inl hkept =>
      by_contra hunchecked
      exact hkept.2 ⟨huser, hr, hunchecked⟩
    | inr hadded => exact hadded.2.2.1
  · intro hchecked
    by_cases hseated : db.Seated userId r
    · obtain ⟨a, ha, huser, hrole⟩ := hseated
      refine ⟨a, (mem_setUserCustomRoleAssignments h).mpr (.inl ⟨ha, fun hremoved => ?_⟩), huser, hrole⟩
      exact hremoved.2.2 (by rw [hrole]; exact hchecked)
    · exact ⟨⟨userId, r, .member⟩, (mem_setUserCustomRoleAssignments h).mpr
        (.inr ⟨rfl, rfl, hchecked, hr, hseated⟩), rfl, rfl⟩

theorem removeUserFromRole_error {e : Failure}
    (h : (removeUserFromRole userId roleId actorPermissions).exec db = (.error e, db')) :
    db' = db := by
  unfold removeUserFromRole at h
  rw [Tx.exec_bind_get] at h
  cases hrole : db.roleById roleId with
  | none =>
    rw [hrole, Tx.exec_pure] at h
    cases h
  | some role =>
    rw [hrole] at h
    dsimp only at h
    rw [Tx.exec_bind, Tx.exec_check] at h
    cases hchecks : removeUserFromRoleChecks db userId role actorPermissions with
    | error e' =>
      rw [hchecks] at h
      exact (Prod.mk.inj h).2.symm
    | ok removed =>
      rw [hchecks] at h
      cases h

/-- The form refuses before it writes. -/
theorem setUserCustomRoleAssignments_outcome :
    ((setUserCustomRoleAssignments userId customRoleIds actorPermissions).exec db).1 =
        setUserCustomRoleAssignmentsChecks db userId (customRoleDiff db userId customRoleIds).1
          (customRoleDiff db userId customRoleIds).2 actorPermissions ∧
      (((setUserCustomRoleAssignments userId customRoleIds actorPermissions).exec db).1 ≠ .ok () →
        ((setUserCustomRoleAssignments userId customRoleIds actorPermissions).exec db).2 = db) := by
  unfold setUserCustomRoleAssignments
  rw [Tx.exec_bind_get]
  dsimp only
  rw [Tx.exec_bind, Tx.exec_check]
  cases setUserCustomRoleAssignmentsChecks db userId (customRoleDiff db userId customRoleIds).1
      (customRoleDiff db userId customRoleIds).2 actorPermissions with
  | error e => exact ⟨rfl, fun _ => rfl⟩
  | ok _ => exact ⟨rfl, fun hrefused => absurd rfl hrefused⟩

/-- **The matrix never unseats a leader or a deputy**: it finds the one assignment the account has in the
role, and refuses a seat of either kind. -/
theorem removeUserFromRole_keepsLeadership (hdb : db.Valid) :
    KeepsLeadership db ((removeUserFromRole userId roleId actorPermissions).exec db).2 := by
  intro a ha hkind
  cases hexec : (removeUserFromRole userId roleId actorPermissions).exec db with
  | mk r db' =>
    show a ∈ db'.userRoleAssignments
    cases r with
    | error e =>
      have hsame : db' = db := removeUserFromRole_error hexec
      rw [hsame]
      exact ha
    | ok u =>
      cases removeUserFromRole_ok hexec with
      | inl hnone =>
        rw [hnone.2]
        exact ha
      | inr hremoved =>
        obtain ⟨role, existing, _, hseat, hmember, _, _, rfl⟩ := hremoved
        obtain ⟨hexisting, huser, hrole⟩ := RoleDb.seat_mem hseat
        simp only [RoleDb.deleteSeats_userRoleAssignments, List.mem_filter, Bool.not_eq_true',
          Bool.and_eq_false_iff, beq_eq_false_iff_ne]
        refine ⟨ha, ?_⟩
        -- otherwise it is the seat found, whose kind is neither
        by_contra hboth
        rw [not_or, not_not, not_not] at hboth
        have hsame : a = existing := by
          apply hdb.seats.eq_of_key ha hexisting
          rw [hboth.1, hboth.2, huser, hrole]
        rw [hsame, hmember] at hkind
        cases hkind <;> contradiction

/-- **The bulk editors leave the organigram's seats alone** just when the form is refused or every leader's
and deputy's seat it can see is checked; the matrix always does. -/
theorem bulkEditors_iff (hdb : db.Valid) :
    (EditsRoles db userId customRoleIds
        ((setUserCustomRoleAssignments userId customRoleIds actorPermissions).exec db) ∧
      ∀ roleId, KeepsLeadership db
        ((removeUserFromRole userId roleId actorPermissions).exec db).2) ↔
      setUserCustomRoleAssignmentsChecks db userId (customRoleDiff db userId customRoleIds).1
          (customRoleDiff db userId customRoleIds).2 actorPermissions ≠ .ok () ∨
        ChecksLeadership db userId customRoleIds := by
  obtain ⟨houtcome, hrefused⟩ :=
    @setUserCustomRoleAssignments_outcome db userId customRoleIds actorPermissions
  rw [← houtcome]
  cases hexec : (setUserCustomRoleAssignments userId customRoleIds actorPermissions).exec db with
  | mk r db' =>
    rw [hexec] at hrefused
    cases r with
    | error e =>
      have hsame : db' = db := hrefused (by simp)
      subst hsame
      refine iff_of_true ⟨⟨fun h => (by cases h), fun _ _ => Iff.rfl, fun _ ha _ => ha⟩, fun roleId => ?_⟩
        (.inl (by simp))
      exact removeUserFromRole_keepsLeadership hdb
    | ok u =>
      have hmem := fun a => @mem_setUserCustomRoleAssignments db db' userId customRoleIds
        actorPermissions a hexec
      constructor
      · intro h
        refine .inr fun a ha huser hkind hassignable => ?_
        by_contra hunchecked
        cases (hmem a).mp (h.1.leadership a ha hkind) with
        | inl hkept => exact hkept.2 ⟨huser, hassignable, hunchecked⟩
        | inr hadded =>
          rw [hadded.2.1] at hkind
          cases hkind <;> contradiction
      · intro h
        have hchecks : ChecksLeadership db userId customRoleIds := h.resolve_left (by simp)
        refine ⟨⟨fun _ r hr => ?_, fun a ha => ?_, fun a ha hkind => ?_⟩, fun roleId => ?_⟩
        · exact seated_setUserCustomRoleAssignments hexec hr
        · rw [hmem a]
          grind
        · refine (hmem a).mpr (.inl ⟨ha, fun hremoved => ?_⟩)
          exact hremoved.2.2 (hchecks a ha hremoved.1 hkind hremoved.2.1)
        · exact removeUserFromRole_keepsLeadership hdb

end Edits

/-! ### The leader of a team -/

/-- A custom role shown in the organigram, and the account that leads it. -/
def soundTeam : RoleDb where
  roles := [newRole "sound" "Sonorisation" none false 1]
  rolePermissions := []
  userRoleAssignments := [⟨10, 1, .leader⟩]
  memberRoleAssignments := []
  accounts := [⟨10, none, none, none, "leader", true, none⟩]
  members := []
  permissions := []
  nextRoleId := 2

theorem bulkEditors_leader_checked :
    (EditsRoles soundTeam 10 [1]
        ((setUserCustomRoleAssignments 10 [1] [canDoAnything]).exec soundTeam) ∧
      ∀ roleId, KeepsLeadership soundTeam
        ((removeUserFromRole 10 roleId [canDoAnything]).exec soundTeam).2) ↔
      setUserCustomRoleAssignmentsChecks soundTeam 10 (customRoleDiff soundTeam 10 [1]).1
          (customRoleDiff soundTeam 10 [1]).2 [canDoAnything] ≠ .ok () ∨
        ChecksLeadership soundTeam 10 [1] :=
  bulkEditors_iff (by decide)

/-- One box unchecked, and the team has lost its leader. -/
theorem leader_unchecked :
    soundTeam.Valid ∧
      ((setUserCustomRoleAssignments 10 [] [canDoAnything]).exec soundTeam).1 = .ok () ∧
      ¬EditsRoles soundTeam 10 [] ((setUserCustomRoleAssignments 10 [] [canDoAnything]).exec soundTeam) := by
  refine ⟨by decide, rfl, fun h => ?_⟩
  have hkept := h.leadership ⟨10, 1, .leader⟩ List.mem_cons_self (.inl rfl)
  exact absurd hkept (by decide)

end Unitae.Roles
