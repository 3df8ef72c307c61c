import Unitae.Base.Table
import Unitae.Board.Schema
import Unitae.Events.Routes
import Unitae.Roles.RoleService

/-!
# Unitae — what deleting a role opens

A section, or a slot of the programme, names the roles it is kept for. With no row it is open: the section to
every account (`section-visibility.server.ts`), the slot to every member (`allowed-roles.server.ts`).
The rows of a deleted role go by cascade, so that what named that role alone is open afterwards.
`deleteRole_shut_iff` says when nobody gains by it.
-/

namespace Unitae.Board

open Roles Events

/-! ## The store -/

structure TerritoryKindAllowedRole where
  kindId : Nat
  roleId : Nat
deriving DecidableEq, Repr

/-- The tables that refer to a role. -/
structure CongregationDb where
  programme : EventDb
  board : BoardDb
  territoryKindAllowedRoles : List TerritoryKindAllowedRole
deriving DecidableEq, Repr

def CongregationDb.directory (db : CongregationDb) : RoleDb := db.programme.directory

/-- `db.role.delete`, with every `onDelete: Cascade` of the schema. -/
def CongregationDb.deleteRole (roleId : Nat) (db : CongregationDb) : CongregationDb where
  programme :=
    { db.programme with
      directory := db.programme.directory.deleteRole roleId
      eventPartAllowedRoles := db.programme.eventPartAllowedRoles.filter fun r => r.roleId != roleId
      eventServicePartAllowedRoles :=
        db.programme.eventServicePartAllowedRoles.filter fun r => r.roleId != roleId
      templatePartAllowedRoles :=
        db.programme.templatePartAllowedRoles.filter fun r => r.roleId != roleId
      templateServicePartAllowedRoles :=
        db.programme.templateServicePartAllowedRoles.filter fun r => r.roleId != roleId
      templateResponsibles := db.programme.templateResponsibles.filter fun r => r.roleId != roleId }
  board := { db.board with visibilityRoles := db.board.visibilityRoles.filter fun r => r.roleId != roleId }
  territoryKindAllowedRoles := db.territoryKindAllowedRoles.filter fun r => r.roleId != roleId

/-- The service of `Roles/RoleService.lean`, on all the tables. -/
def deleteRole (roleId : Nat) : Tx CongregationDb Failure Unit := do
  let db ← get
  match db.directory.roleById roleId with
  | none => pure ()
  | some role =>
    Tx.check (deleteRoleChecks db.directory role)
    modify (·.deleteRole role.id)

/-! ## The two access rules -/

/-- The roles of the visibility rows of a section. -/
def getSectionVisibilityRoleIds (db : BoardDb) (sectionId : Nat) : List Nat :=
  (db.visibilityRoles.filter (·.sectionId == sectionId)).map (·.roleId)

/-- `buildSectionVisibilityFilter`, on one section. -/
def CongregationDb.sees (db : CongregationDb) (userId sectionId : Nat) : Bool :=
  let viewerRoleIds := db.programme.effectiveRoleIds userId
  let roleIds := getSectionVisibilityRoleIds db.board sectionId
  roleIds.isEmpty || roleIds.any fun roleId => viewerRoleIds.contains roleId

/-- A slot that a member may fill. -/
inductive Slot where
  | part (eventPartId : Nat) (kind : PartRoleKind)
  | service (eventServicePartId : Nat)
deriving DecidableEq, Repr

def Slot.allowedRoleIds (db : EventDb) : Slot → List Nat
  | .part eventPartId kind => getPartAssignmentAllowedRoleIds db eventPartId kind
  | .service eventServicePartId => getServicePartAssignmentAllowedRoleIds db eventServicePartId

def CongregationDb.eligible (db : CongregationDb) (slot : Slot) : List Nat :=
  resolveEligibleUserIds db.programme (slot.allowedRoleIds db.programme)

/-! ## The law and its condition -/

/-- No account sees a section, and no member may fill a slot, that it could not before. -/
structure Shut (db db' : CongregationDb) : Prop where
  sections : ∀ account ∈ db'.directory.accounts, ∀ s ∈ db'.board.sections,
    db'.sees account.id s.id = true → db.sees account.id s.id = true
  slots : ∀ slot, db'.eligible slot ⊆ db.eligible slot

/-- The restriction consists of the role and nothing else. -/
def OnlyRole (roleId : Nat) (roleIds : List Nat) : Prop := roleIds ≠ [] ∧ ∀ id ∈ roleIds, id = roleId

/-- Whoever the deletion lets in held the role: every account, if a section is kept for the role alone,
and every current member, if a slot is. -/
structure Redundant (db : CongregationDb) (roleId : Nat) : Prop where
  sections : ∀ s ∈ db.board.sections, OnlyRole roleId (getSectionVisibilityRoleIds db.board s.id) →
    ∀ account ∈ db.directory.accounts, db.directory.Assigned account.id roleId
  slots : ∀ slot : Slot, OnlyRole roleId (slot.allowedRoleIds db.programme) →
    ∀ memberId ∈ resolveEligibleUserIds db.programme [],
      db.programme.holdsAnyRole [roleId] memberId = true

/-! ## Restrictions after the deletion -/

theorem filter_ne_eq_nil_iff {roleId : Nat} {roleIds : List Nat} (h : roleIds ≠ []) :
    roleIds.filter (· != roleId) = [] ↔ OnlyRole roleId roleIds := by
  rw [List.filter_eq_nil_iff]
  refine ⟨fun hall => ⟨h, fun id hid => ?_⟩, fun honly id hid => ?_⟩
  · simpa using hall id hid
  · simpa using honly.2 id hid

section Deletion

variable {db db' : CongregationDb} {roleId : Nat} {role : Role}

theorem deleteRole_ok (h : (deleteRole roleId).exec db = (.ok (), db')) :
    (db.directory.roleById roleId = none ∧ db' = db) ∨
      ∃ role, db.directory.roleById roleId = some role ∧ role.isBuiltIn = false ∧
        db' = db.deleteRole role.id := by
  unfold deleteRole at h
  rw [Tx.exec_bind_get] at h
  cases hrole : db.directory.roleById roleId with
  | none =>
    rw [hrole] at h
    exact .inl ⟨rfl, (Tx.exec_pure_ok.mp h).2⟩
  | some role =>
    simp only [hrole, Tx.exec_check_modify_ok] at h
    obtain ⟨hchecks, rfl⟩ := h
    unfold deleteRoleChecks at hchecks
    simp only [Tx.bind_eq_ok, Tx.exists_unit, Tx.refuseWhen_ok] at hchecks
    exact .inr ⟨role, rfl, by simpa using hchecks.1, rfl⟩

/-- On the tables of the roles the deletion is that of `Roles/RoleService.lean`. -/
theorem deleteRole_directory (h : (deleteRole roleId).exec db = (.ok (), db')) :
    (Roles.deleteRole roleId).exec db.directory = (.ok (), db'.directory) := by
  unfold deleteRole at h
  unfold Roles.deleteRole
  rw [Tx.exec_bind_get] at h ⊢
  cases hrole : db.directory.roleById roleId with
  | none =>
    rw [hrole] at h
    rw [(Tx.exec_pure_ok.mp h).2]
    rfl
  | some role =>
    simp only [hrole, Tx.exec_check_modify_ok] at h ⊢
    obtain ⟨hchecks, rfl⟩ := h
    exact ⟨hchecks, rfl⟩

theorem visibilityRoleIds_deleteRole (sectionId : Nat) :
    getSectionVisibilityRoleIds (db.deleteRole roleId).board sectionId =
      (getSectionVisibilityRoleIds db.board sectionId).filter (· != roleId) := by
  unfold getSectionVisibilityRoleIds
  rw [List.filter_map]
  show ((db.board.visibilityRoles.filter _).filter _).map _ = _
  rw [List.filter_filter, List.filter_filter]
  congr 1
  exact List.filter_congr fun r _ => Bool.and_comm _ _

theorem allowedRoleIds_deleteRole (slot : Slot) :
    slot.allowedRoleIds (db.deleteRole roleId).programme =
      (slot.allowedRoleIds db.programme).filter (· != roleId) := by
  cases slot with
  | part eventPartId kind =>
    show (List.filter _ (db.programme.eventPartAllowedRoles.filter _)).map _ = List.filter _ (List.map _ _)
    rw [List.filter_map, List.filter_filter, List.filter_filter]
    congr 1
    exact List.filter_congr fun r _ => Bool.and_comm _ _
  | service eventServicePartId =>
    show (List.filter _ (db.programme.eventServicePartAllowedRoles.filter _)).map _ =
      List.filter _ (List.map _ _)
    rw [List.filter_map, List.filter_filter, List.filter_filter]
    congr 1
    exact List.filter_congr fun r _ => Bool.and_comm _ _

/-! ## Who holds a role after the deletion -/

theorem assigned_of_deleteRole {userId id : Nat}
    (h : (db.deleteRole roleId).directory.Assigned userId id) : db.directory.Assigned userId id := by
  refine h.imp (fun hseated => ?_) fun hmember => ?_
  · obtain ⟨a, ha, hboth⟩ := hseated
    exact ⟨a, (List.mem_filter.mp ha).1, hboth⟩
  · obtain ⟨account, haccount, hid, a, ha, hboth⟩ := hmember
    exact ⟨account, haccount, hid, a, (List.mem_filter.mp ha).1, hboth⟩

theorem mem_effectiveRoleIds {db : EventDb} {userId id : Nat} :
    id ∈ db.effectiveRoleIds userId ↔
      (∃ role ∈ db.directory.roles, role.id = id) ∧ db.directory.Assigned userId id := by
  unfold EventDb.effectiveRoleIds
  rw [List.mem_eraseDups, List.mem_filter, List.mem_map, decide_eq_true_iff]

theorem effectiveRoleIds_deleteRole {userId id : Nat}
    (h : id ∈ (db.deleteRole roleId).programme.effectiveRoleIds userId) :
    id ∈ db.programme.effectiveRoleIds userId := by
  obtain ⟨⟨role, hrole, hid⟩, hassigned⟩ := mem_effectiveRoleIds.mp h
  exact mem_effectiveRoleIds.mpr
    ⟨⟨role, (List.mem_filter.mp hrole).1, hid⟩, assigned_of_deleteRole hassigned⟩

theorem holdsAnyRole_iff {db : EventDb} {roleIds : List Nat} {memberId : Nat} :
    db.holdsAnyRole roleIds memberId = true ↔
      (∃ a ∈ db.directory.memberRoleAssignments, a.memberId = memberId ∧ a.roleId ∈ roleIds) ∨
        ∃ account ∈ db.directory.accounts, account.memberId = some memberId ∧
          ∃ a ∈ db.directory.userRoleAssignments, a.userId = account.id ∧ a.roleId ∈ roleIds := by
  unfold EventDb.holdsAnyRole
  simp only [Bool.or_eq_true, List.any_eq_true, Bool.and_eq_true, beq_iff_eq, List.contains_iff_mem]

theorem holdsAnyRole_deleteRole {kept roleIds : List Nat} {memberId : Nat} (hsub : kept ⊆ roleIds)
    (h : (db.deleteRole roleId).programme.holdsAnyRole kept memberId = true) :
    db.programme.holdsAnyRole roleIds memberId = true := by
  refine holdsAnyRole_iff.mpr ((holdsAnyRole_iff.mp h).imp (fun hmember => ?_) fun haccount => ?_)
  · obtain ⟨a, ha, hid, hrole⟩ := hmember
    exact ⟨a, (List.mem_filter.mp ha).1, hid, hsub hrole⟩
  · obtain ⟨account, haccount, hid, a, ha, huser, hrole⟩ := haccount
    exact ⟨account, haccount, hid, a, (List.mem_filter.mp ha).1, huser, hsub hrole⟩

theorem holdsAnyRole_only {db : EventDb} {roleIds : List Nat} {memberId : Nat}
    (honly : OnlyRole roleId roleIds) :
    db.holdsAnyRole roleIds memberId = true ↔ db.holdsAnyRole [roleId] memberId = true := by
  have hmem : ∀ id, id ∈ roleIds ↔ id ∈ [roleId] := by
    intro id
    rw [List.mem_singleton]
    refine ⟨honly.2 id, fun h => ?_⟩
    obtain ⟨first, hfirst⟩ := List.exists_mem_of_ne_nil roleIds honly.1
    rw [h, ← honly.2 first hfirst]
    exact hfirst
  simp only [holdsAnyRole_iff, hmem]

/-! ## Eligible members after the deletion -/

theorem mem_findMembersWithAnyRole {db : EventDb} {roleIds : List Nat} {memberId : Nat}
    (h : roleIds ≠ []) : memberId ∈ findMembersWithAnyRole db roleIds ↔
      db.isCurrentMember memberId = true ∧ db.holdsAnyRole roleIds memberId = true := by
  unfold findMembersWithAnyRole
  rw [if_neg h, List.mem_filter, Bool.and_eq_true, List.mem_map]
  refine ⟨fun hin => hin.2, fun hin => ⟨?_, hin⟩⟩
  obtain ⟨m, hm, hcurrent⟩ := List.any_eq_true.mp ((Bool.and_eq_true _ _).mp hin.1).2
  exact ⟨m, hm, beq_iff_eq.mp ((Bool.and_eq_true _ _).mp hcurrent).1⟩

/-- The deletion of a custom role leaves the role `member` and its holders. -/
theorem openSlot_deleteRole (hkeyed : Keyed (·.id) db.directory.roles) (hrole : role ∈ db.directory.roles)
    (hcustom : role.isBuiltIn = false) :
    resolveEligibleUserIds (db.deleteRole role.id).programme [] =
      resolveEligibleUserIds db.programme [] := by
  have hother : ∀ r ∈ db.directory.roles, (r.key == "member" && r.isBuiltIn) = true →
      r.id ≠ role.id := by
    intro r hr hmember hsame
    rw [hkeyed.eq_of_key hr hrole hsame, hcustom, Bool.and_false] at hmember
    exact Bool.false_ne_true hmember
  have hfind : (db.deleteRole role.id).programme.memberRole = db.programme.memberRole :=
    find?_filter_of_imp fun r hr hmember => bne_iff_ne.mpr (hother r hr hmember)
  unfold resolveEligibleUserIds
  rw [if_pos rfl, if_pos rfl, hfind]
  cases hmember : db.programme.memberRole with
  | none => rfl
  | some memberRole =>
    have hne : memberRole.id ≠ role.id := by
      refine hother memberRole (List.mem_of_find?_eq_some hmember) ?_
      exact List.find?_some (p := fun role : Role => role.key == "member" && role.isBuiltIn) hmember
    show ((List.filter _ (List.filter _ db.directory.memberRoleAssignments)).map _).eraseDups = _
    rw [List.filter_filter]
    congr 2
    refine List.filter_congr fun a _ => ?_
    by_cases hid : a.roleId = memberRole.id
    · rw [hid, bne_iff_ne.mpr hne, Bool.and_true]
      rfl
    · rw [beq_false_of_ne hid, Bool.false_and, Bool.false_and, Bool.false_and]

theorem current_of_openSlot {db : EventDb} {memberId : Nat}
    (h : memberId ∈ resolveEligibleUserIds db []) : db.isCurrentMember memberId = true := by
  unfold resolveEligibleUserIds at h
  rw [if_pos rfl] at h
  split at h
  · exact absurd h List.not_mem_nil
  · obtain ⟨a, ha, rfl⟩ := List.mem_map.mp (List.mem_eraseDups.mp h)
    exact ((Bool.and_eq_true _ _).mp (List.mem_filter.mp ha).2).2

/-- A slot admits nobody new exactly when it is not kept for the role alone, or every member held it. -/
theorem eligible_deleteRole_iff (hkeyed : Keyed (·.id) db.directory.roles)
    (hrole : role ∈ db.directory.roles) (hcustom : role.isBuiltIn = false) (slot : Slot) :
    (db.deleteRole role.id).eligible slot ⊆ db.eligible slot ↔
      (OnlyRole role.id (slot.allowedRoleIds db.programme) →
        ∀ memberId ∈ resolveEligibleUserIds db.programme [],
          db.programme.holdsAnyRole [role.id] memberId = true) := by
  unfold CongregationDb.eligible
  rw [allowedRoleIds_deleteRole]
  generalize slot.allowedRoleIds db.programme = roleIds
  by_cases hopen : roleIds = []
  · rw [hopen, List.filter_nil, openSlot_deleteRole hkeyed hrole hcustom]
    exact iff_of_true (List.Subset.refl _) fun honly => absurd rfl honly.1
  by_cases honly : OnlyRole role.id roleIds
  · rw [(filter_ne_eq_nil_iff hopen).mpr honly, openSlot_deleteRole hkeyed hrole hcustom]
    refine ⟨fun hsub _ memberId hmember => ?_, fun h memberId hmember => ?_⟩
    · have hin := hsub hmember
      unfold resolveEligibleUserIds at hin
      rw [if_neg hopen, mem_findMembersWithAnyRole hopen] at hin
      exact (holdsAnyRole_only honly).mp hin.2
    · have hholds := (holdsAnyRole_only honly).mpr (h honly memberId hmember)
      unfold resolveEligibleUserIds
      rw [if_neg hopen, mem_findMembersWithAnyRole hopen]
      exact ⟨current_of_openSlot hmember, hholds⟩
  · refine iff_of_true (fun memberId hmember => ?_) fun h => absurd h honly
    have hkept := mt (filter_ne_eq_nil_iff hopen).mp honly
    unfold resolveEligibleUserIds at hmember ⊢
    rw [if_neg hkept, mem_findMembersWithAnyRole hkept] at hmember
    rw [if_neg hopen, mem_findMembersWithAnyRole hopen]
    exact ⟨hmember.1, holdsAnyRole_deleteRole List.filter_sublist.subset hmember.2⟩

/-- A section shows itself to nobody new exactly when it is not kept for the role alone, or every account
held it. -/
theorem sees_deleteRole_iff (hrole : role ∈ db.directory.roles) (userId sectionId : Nat) :
    ((db.deleteRole role.id).sees userId sectionId = true → db.sees userId sectionId = true) ↔
      (OnlyRole role.id (getSectionVisibilityRoleIds db.board sectionId) →
        db.directory.Assigned userId role.id) := by
  have hany : ∀ (db : CongregationDb) (roleIds : List Nat),
      (roleIds.isEmpty || roleIds.any fun id => (db.programme.effectiveRoleIds userId).contains id) =
        true ↔ roleIds = [] ∨ ∃ id ∈ roleIds, id ∈ db.programme.effectiveRoleIds userId := by
    intro db roleIds
    rw [Bool.or_eq_true, List.isEmpty_iff, List.any_eq_true]
    simp only [List.contains_iff_mem]
  unfold CongregationDb.sees
  rw [hany, hany, visibilityRoleIds_deleteRole]
  generalize getSectionVisibilityRoleIds db.board sectionId = roleIds
  by_cases hopen : roleIds = []
  · exact iff_of_true (fun _ => .inl hopen) fun honly => absurd hopen honly.1
  by_cases honly : OnlyRole role.id roleIds
  · refine ⟨fun h _ => ?_, fun h _ => .inr ?_⟩
    · have hbefore := h (.inl ((filter_ne_eq_nil_iff hopen).mpr honly))
      obtain ⟨id, hid, hviewer⟩ := hbefore.resolve_left hopen
      rw [honly.2 id hid] at hviewer
      exact (mem_effectiveRoleIds.mp hviewer).2
    · obtain ⟨id, hid⟩ := List.exists_mem_of_ne_nil roleIds hopen
      refine ⟨id, hid, ?_⟩
      rw [honly.2 id hid]
      exact mem_effectiveRoleIds.mpr ⟨⟨role, hrole, rfl⟩, h honly⟩
  · refine iff_of_true (fun h => .inr ?_) fun h => absurd h honly
    obtain ⟨id, hid, hviewer⟩ := h.resolve_left (mt (filter_ne_eq_nil_iff hopen).mp honly)
    exact ⟨id, (List.mem_filter.mp hid).1, effectiveRoleIds_deleteRole hviewer⟩

/-- **When deleting a role opens nothing.** After a deletion that goes through, no account sees a section and
no member may fill a slot that was closed to it, exactly when whoever is let in held the role. -/
theorem deleteRole_shut_iff (hkeyed : Keyed (·.id) db.directory.roles)
    (h : (deleteRole roleId).exec db = (.ok (), db')) :
    Shut db db' ↔ (db.directory.roleById roleId ≠ none → Redundant db roleId) := by
  rcases deleteRole_ok h with ⟨habsent, rfl⟩ | ⟨role, hfound, hcustom, rfl⟩
  · refine iff_of_true ⟨fun _ _ _ _ hsees => hsees, fun _ => List.Subset.refl _⟩ fun hpresent => ?_
    exact absurd habsent hpresent
  · obtain ⟨hrole, hid⟩ := hkeyed.find?_eq_some.mp hfound
    have hpresent : db.directory.roleById roleId ≠ none := by
      rw [hfound]
      exact Option.some_ne_none role
    rw [← hid] at hpresent ⊢
    refine ⟨fun hshut _ => ⟨fun s hs honly account haccount => ?_, fun slot => ?_⟩,
      fun hredundant => ⟨fun account haccount s hs => ?_, fun slot => ?_⟩⟩
    · exact (sees_deleteRole_iff hrole _ _).mp (hshut.sections account haccount s hs) honly
    · exact (eligible_deleteRole_iff hkeyed hrole hcustom slot).mp (hshut.slots slot)
    · refine (sees_deleteRole_iff hrole _ _).mpr fun honly => ?_
      exact (hredundant hpresent).sections s hs honly account haccount
    · exact (eligible_deleteRole_iff hkeyed hrole hcustom slot).mpr ((hredundant hpresent).slots slot)

end Deletion

/-! ## A section kept for one role -/

/-- Section 1 is kept for role 2 alone, which account 10 holds and account 11 does not. -/
def keptSection : CongregationDb where
  programme :=
    { EventDb.empty with
      directory := { EventDb.empty.directory with
        roles := [⟨2, "helpers", some "Helpers", none, false, none, false, none, false⟩]
        userRoleAssignments := [⟨10, 2, .member⟩]
        accounts := [⟨10, none, none, none, "a", true, none⟩, ⟨11, none, none, none, "b", true, none⟩] } }
  board := { BoardDb.empty with sections := [⟨1, "Helpers", none⟩], visibilityRoles := [⟨1, 2⟩] }
  territoryKindAllowedRoles := []

/-- Account 11 sees the section once the role is gone. -/
theorem keptSection_opens :
    ¬∀ (roleId : Nat) (db' : CongregationDb),
      (deleteRole roleId).exec keptSection = (.ok (), db') → Shut keptSection db' := by
  intro h
  have hshut := h 2 (keptSection.deleteRole 2) (by decide +kernel)
  have hsees := hshut.sections ⟨11, none, none, none, "b", true, none⟩ (by decide) ⟨1, "Helpers", none⟩
    (by decide) (by decide +kernel)
  revert hsees
  decide +kernel

/-- There the condition fails at account 11. -/
theorem deleteRole_shut_iff_kept :
    Shut keptSection (keptSection.deleteRole 2) ↔
      (keptSection.directory.roleById 2 ≠ none → Redundant keptSection 2) :=
  deleteRole_shut_iff (by decide) (by decide +kernel)

end Unitae.Board
