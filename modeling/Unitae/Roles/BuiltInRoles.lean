import Unitae.Base.Table
import Unitae.Roles.Schema

/-!
# Unitae — built-in roles (`built-in-roles.server.ts`)

The keys that make a role structure rather than the congregation's choice, and the sync that
keeps a member's identity roles equal to what the member's flags say.
-/

namespace Unitae.Roles

/-! ## Keys -/

def builtInRoleKeys : List String :=
  ["member", "ministry-school-student", "publisher", "baptized", "brother", "sister", "anointed",
    "elder", "assistant-servant", "pioneer"]

def systemRoleKeys : List String := ["admin"]

def serviceCommitteeKey : String := "service-committee"

def serviceCommitteePostKeys : List String := ["coordinator", "secretary", "service-overseer"]

def appointedRoleKeys : List String := serviceCommitteeKey :: serviceCommitteePostKeys

/-- True for the committee and its three posts: the roles whose place in the chart is fixed. -/
def isAppointedRoleKey (key : String) : Bool := appointedRoleKeys.contains key

/-- True for the three posts only. -/
def isServiceCommitteePostKey (key : String) : Bool := serviceCommitteePostKeys.contains key

/-- True for the roles derived from member flags. -/
def isIdentityRoleKey (key : String) : Bool := builtInRoleKeys.contains key

theorem isAppointedRoleKey_iff {key : String} :
    isAppointedRoleKey key = true ↔
      key = serviceCommitteeKey ∨ isServiceCommitteePostKey key = true := by
  simp [isAppointedRoleKey, appointedRoleKeys, isServiceCommitteePostKey]

@[simp] theorem isServiceCommitteePostKey_committee :
    isServiceCommitteePostKey serviceCommitteeKey = false := by decide

@[simp] theorem isAppointedRoleKey_committee : isAppointedRoleKey serviceCommitteeKey = true := by
  decide

theorem isAppointedRoleKey_of_post {key : String} (h : isServiceCommitteePostKey key = true) :
    isAppointedRoleKey key = true :=
  isAppointedRoleKey_iff.mpr (.inr h)

theorem ne_committee_of_post {key : String} (h : isServiceCommitteePostKey key = true) :
    key ≠ serviceCommitteeKey := by
  rintro rfl
  simp at h

theorem mem_postKeys_iff {key : String} :
    key ∈ serviceCommitteePostKeys ↔ isServiceCommitteePostKey key = true := by
  simp [isServiceCommitteePostKey]

/-! ## Identity roles from member flags -/

/-- An ongoing stint has no end. -/
def isOngoing (period : EnrolmentPeriod) : Bool :=
  period.endMonth.isNone && period.endYear.isNone

/-- The member's standing pioneer status: the type of the first ongoing stint. -/
def standingTypeFromEnrolments (enrolments : List EnrolmentPeriod) : PublisherType :=
  ((enrolments.find? isOngoing).map (·.type)).getD .normal

/-- `BUILT_IN_ROLE_PREDICATES`; a key with no predicate is not desired (`predicate?.(m) ?? false`). -/
def builtInRolePredicate (key : String) (m : Member) : Bool :=
  let standingType := standingTypeFromEnrolments m.pioneerEnrolments
  if key = "member" then m.leftAt.isNone
  else if key = "ministry-school-student" then m.leftAt.isNone && !m.isPublisher
  else if key = "publisher" then m.leftAt.isNone && m.isPublisher
  else if key = "baptized" then m.leftAt.isNone && m.isPublisher && m.baptismDate.isSome
  else if key = "brother" then m.leftAt.isNone && m.baptismDate.isSome && m.isMale == some true
  else if key = "sister" then m.leftAt.isNone && m.baptismDate.isSome && m.isMale == some false
  else if key = "anointed" then
    m.leftAt.isNone && m.isPublisher && m.baptismDate.isSome && m.isAnointed
  else if key = "elder" then
    m.leftAt.isNone && m.baptismDate.isSome && m.isMale == some true && m.isHelder
  else if key = "assistant-servant" then
    m.leftAt.isNone && m.baptismDate.isSome && m.isMale == some true && m.isServant
  else if key = "pioneer" then
    m.leftAt.isNone && m.isPublisher && m.baptismDate.isSome && standingType != .normal
  else false

/-- `diffBuiltInAssignments`: the built-in roles to add to and to remove from the assignments. -/
def diffBuiltInAssignments (builtInRoles : List Role) (existingRoleIds : List Nat)
    (member : Member) : List Nat × List Nat :=
  ((builtInRoles.filter fun role =>
      builtInRolePredicate role.key member && !existingRoleIds.contains role.id).map (·.id),
    (builtInRoles.filter fun role =>
      !builtInRolePredicate role.key member && existingRoleIds.contains role.id).map (·.id))

/-- Reconcile a member's identity assignments with the member's flags. -/
def syncBuiltInRoleAssignments (memberId : Nat) (db : RoleDb) : RoleDb :=
  match db.memberById memberId with
  | none => db
  | some member =>
    let builtInRoles := db.roles.filter fun role => builtInRoleKeys.contains role.key
    let existingRoleIds :=
      (db.memberRoleAssignments.filter (·.memberId == memberId)).map (·.roleId)
    let (added, removed) := diffBuiltInAssignments builtInRoles existingRoleIds member
    (db.createIdentities memberId added).deleteIdentities memberId removed

/-- The sync writes `memberRoleAssignments` only. -/
theorem syncBuiltInRoleAssignments_frame (memberId : Nat) (db : RoleDb) :
    ∃ rows, syncBuiltInRoleAssignments memberId db = { db with memberRoleAssignments := rows } := by
  unfold syncBuiltInRoleAssignments
  split <;> exact ⟨_, rfl⟩

/-! ## What a sync leaves -/

/-- The identity role of this id, if it is one. -/
def RoleDb.identityRole (db : RoleDb) (r : Nat) : Option Role :=
  db.roles.find? fun role => role.id == r && builtInRoleKeys.contains role.key

theorem diffBuiltInAssignments_spec {roles : List Role} {existing : List Nat} {member : Member}
    {r : Nat} :
    (r ∈ (diffBuiltInAssignments roles existing member).1 ↔ r ∉ existing ∧
        ∃ role ∈ roles, role.id = r ∧ builtInRolePredicate role.key member = true) ∧
      (r ∈ (diffBuiltInAssignments roles existing member).2 ↔ r ∈ existing ∧
        ∃ role ∈ roles, role.id = r ∧ builtInRolePredicate role.key member = false) := by
  unfold diffBuiltInAssignments
  simp only [List.mem_map, List.mem_filter, Bool.and_eq_true, Bool.not_eq_true',
    List.contains_eq_mem, decide_eq_true_eq, decide_eq_false_iff_not]
  constructor
  · constructor
    · rintro ⟨role, ⟨hrole, hwanted, hnew⟩, rfl⟩
      exact ⟨hnew, role, hrole, rfl, hwanted⟩
    · rintro ⟨hnew, role, hrole, rfl, hwanted⟩
      exact ⟨role, ⟨hrole, hwanted, hnew⟩, rfl⟩
  · constructor
    · rintro ⟨role, ⟨hrole, hunwanted, hheld⟩, rfl⟩
      exact ⟨hheld, role, hrole, rfl, hunwanted⟩
    · rintro ⟨hheld, role, hrole, rfl, hunwanted⟩
      exact ⟨role, ⟨hrole, hunwanted, hheld⟩, rfl⟩

/-- **The identity rows after a sync**: for the member synced and a built-in role, the flags; the
row as it was for anyone and anything else. -/
theorem mem_synced {db : RoleDb} (hids : Keyed Role.id db.roles) {member : Member}
    (hmember : db.memberById member.id = some member) {memberId r : Nat} :
    (⟨memberId, r⟩ : MemberRoleAssignment) ∈
        (syncBuiltInRoleAssignments member.id db).memberRoleAssignments ↔
      match db.identityRole r with
      | some role =>
        if memberId = member.id then builtInRolePredicate role.key member = true
        else (⟨memberId, r⟩ : MemberRoleAssignment) ∈ db.memberRoleAssignments
      | none => (⟨memberId, r⟩ : MemberRoleAssignment) ∈ db.memberRoleAssignments := by
  have hspec := @diffBuiltInAssignments_spec
    (db.roles.filter fun role => builtInRoleKeys.contains role.key)
    ((db.memberRoleAssignments.filter (·.memberId == member.id)).map (·.roleId)) member r
  have hheld : r ∈ (db.memberRoleAssignments.filter (·.memberId == member.id)).map (·.roleId) ↔
      (⟨member.id, r⟩ : MemberRoleAssignment) ∈ db.memberRoleAssignments := by
    simp only [List.mem_map, List.mem_filter, beq_iff_eq]
    constructor
    · rintro ⟨a, ⟨ha, hid⟩, rfl⟩
      rw [← hid]
      exact ha
    · exact fun h => ⟨_, ⟨h, rfl⟩, rfl⟩
  rw [hheld] at hspec
  -- the rows after the writes
  have hrows : (⟨memberId, r⟩ : MemberRoleAssignment) ∈
      (syncBuiltInRoleAssignments member.id db).memberRoleAssignments ↔
      ((⟨memberId, r⟩ : MemberRoleAssignment) ∈ db.memberRoleAssignments ∨
        memberId = member.id ∧ r ∈ (diffBuiltInAssignments
          (db.roles.filter fun role => builtInRoleKeys.contains role.key)
          ((db.memberRoleAssignments.filter (·.memberId == member.id)).map (·.roleId)) member).1) ∧
      ¬(memberId = member.id ∧ r ∈ (diffBuiltInAssignments
          (db.roles.filter fun role => builtInRoleKeys.contains role.key)
          ((db.memberRoleAssignments.filter (·.memberId == member.id)).map (·.roleId)) member).2) := by
    unfold syncBuiltInRoleAssignments
    simp only [hmember, RoleDb.deleteIdentities_memberRoleAssignments,
      RoleDb.createIdentities_memberRoleAssignments, List.mem_filter, List.mem_append, List.mem_map,
      MemberRoleAssignment.mk.injEq, Bool.not_eq_true', Bool.and_eq_false_iff,
      beq_eq_false_iff_ne, List.contains_eq_mem, decide_eq_false_iff_not]
    grind
  rw [hrows, hspec.1, hspec.2]
  simp only [List.mem_filter]
  cases hfind : db.identityRole r with
  | none =>
    unfold RoleDb.identityRole at hfind
    rw [List.find?_eq_none] at hfind
    grind
  | some role =>
    have hmem := List.mem_of_find?_eq_some hfind
    have hfound := List.find?_some hfind
    rw [Bool.and_eq_true, beq_iff_eq] at hfound
    have honly : ∀ role' ∈ db.roles, role'.id = r → role' = role :=
      fun role' hrole' hid => hids.eq_of_key hrole' hmem (hid.trans hfound.1.symm)
    simp only
    grind

end Unitae.Roles
