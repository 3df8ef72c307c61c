import Unitae.Roles.BuiltInRoles

/-!
# Unitae — the service committee's membership (`service-committee.server.ts`)

The committee *is* the leaders of its three posts: its rows are derived, and
`syncServiceCommitteeMembers` is the one place that derives them.
-/

namespace Unitae.Roles

/-- The ids of the posts that exist, in the canonical post order. -/
def RoleDb.committeePostIds (db : RoleDb) : List Nat :=
  serviceCommitteePostKeys.filterMap fun key => (db.roleByKey key).map (·.id)

/-- Who should sit on the committee: the titulaires of the posts, each once. -/
def RoleDb.committeeDesired (db : RoleDb) : List Nat :=
  ((db.userRoleAssignments.filter fun a =>
    db.committeePostIds.contains a.roleId && a.kind == .leader).map (·.userId)).eraseDups

def RoleDb.occupants (db : RoleDb) (roleId : Nat) : List Nat :=
  ((db.userRoleAssignments.filter fun a => a.roleId == roleId).map (·.userId)).eraseDups

/-- Reconcile the committee's members with whoever holds its posts. Nothing happens in a
congregation that has no committee role, or none of the posts. -/
def syncServiceCommitteeMembers (db : RoleDb) : RoleDb :=
  match db.roleByKey serviceCommitteeKey with
  | none => db
  | some committee =>
    if db.committeePostIds.isEmpty then db
    else
      let desired := db.committeeDesired
      let existing := db.occupants committee.id
      let added := desired.filter fun userId => !existing.contains userId
      let removed := existing.filter fun userId => !desired.contains userId
      (db.createSeats (added.map fun userId => ⟨userId, committee.id, .member⟩)).deleteSeats
        fun a => a.roleId == committee.id && removed.contains a.userId

/-! ## What the sync leaves -/

/-- The account is the leader of one of the posts. -/
def RoleDb.LeadsPost (db : RoleDb) (userId : Nat) : Prop :=
  ∃ a ∈ db.userRoleAssignments,
    a.userId = userId ∧ a.kind = .leader ∧ a.roleId ∈ db.committeePostIds

instance (db : RoleDb) (userId : Nat) : Decidable (db.LeadsPost userId) :=
  inferInstanceAs (Decidable (∃ _ ∈ _, _))

theorem mem_committeeDesired {db : RoleDb} {userId : Nat} :
    userId ∈ db.committeeDesired ↔ db.LeadsPost userId := by
  unfold RoleDb.committeeDesired RoleDb.LeadsPost
  simp only [List.mem_eraseDups, List.mem_map, List.mem_filter, Bool.and_eq_true,
    List.contains_iff_mem, beq_iff_eq]
  constructor
  · rintro ⟨a, ⟨ha, hpost, hkind⟩, rfl⟩
    exact ⟨a, ha, rfl, hkind, hpost⟩
  · rintro ⟨a, ha, rfl, hkind, hpost⟩
    exact ⟨a, ⟨ha, hpost, hkind⟩, rfl⟩

theorem mem_occupants {db : RoleDb} {roleId userId : Nat} :
    userId ∈ db.occupants roleId ↔ db.Seated userId roleId := by
  unfold RoleDb.occupants RoleDb.Seated
  simp only [List.mem_eraseDups, List.mem_map, List.mem_filter, beq_iff_eq]
  constructor
  · rintro ⟨a, ⟨ha, hrole⟩, rfl⟩
    exact ⟨a, ha, rfl, hrole⟩
  · rintro ⟨a, ha, rfl, hrole⟩
    exact ⟨a, ⟨ha, hrole⟩, rfl⟩

section Sync

variable {db : RoleDb}

/-- The sync writes `userRoleAssignments` only. -/
theorem sync_frame (db : RoleDb) :
    ∃ rows, syncServiceCommitteeMembers db = { db with userRoleAssignments := rows } := by
  unfold syncServiceCommitteeMembers
  split
  · exact ⟨_, rfl⟩
  · split <;> exact ⟨_, rfl⟩

/-- The sync touches the committee's rows only. -/
theorem mem_sync_of_ne {a : UserRoleAssignment}
    (ha : ∀ c, db.roleByKey serviceCommitteeKey = some c → a.roleId ≠ c.id) :
    a ∈ (syncServiceCommitteeMembers db).userRoleAssignments ↔ a ∈ db.userRoleAssignments := by
  unfold syncServiceCommitteeMembers
  cases hc : db.roleByKey serviceCommitteeKey with
  | none => rfl
  | some c =>
    have hne : a.roleId ≠ c.id := ha c hc
    simp only
    split
    · rfl
    · simp only [RoleDb.deleteSeats_userRoleAssignments, RoleDb.createSeats_userRoleAssignments,
        List.mem_filter, List.mem_append, List.mem_map]
      constructor
      · rintro ⟨h | ⟨userId, _, rfl⟩, _⟩
        · exact h
        · exact absurd rfl hne
      · intro h
        exact ⟨.inl h, by simp [hne]⟩

/-- **After the sync the committee is its posts' leaders**, whatever its rows were before. -/
theorem sync_committee {c : Role} (hc : db.roleByKey serviceCommitteeKey = some c)
    (hposts : db.committeePostIds ≠ []) {userId : Nat} :
    (syncServiceCommitteeMembers db).Seated userId c.id ↔ db.LeadsPost userId := by
  have hempty : db.committeePostIds.isEmpty = false := by simp [hposts]
  unfold syncServiceCommitteeMembers RoleDb.Seated
  simp only [hc, hempty, Bool.false_eq_true, if_false, RoleDb.deleteSeats_userRoleAssignments,
    RoleDb.createSeats_userRoleAssignments, List.mem_filter, List.mem_append, List.mem_map,
    Bool.not_eq_true', Bool.and_eq_false_iff, beq_eq_false_iff_ne, List.contains_eq_mem,
    decide_eq_false_iff_not, mem_committeeDesired, mem_occupants]
  constructor
  · rintro ⟨a, ⟨hmem, hkept⟩, rfl, hrole⟩
    rcases hmem with hmem | ⟨u, ⟨hdesired, _⟩, rfl⟩
    · -- a row that was there and was not removed
      rcases hkept with hne | hkept
      · exact absurd hrole hne
      · by_cases hlead : db.LeadsPost a.userId
        · exact hlead
        · exact absurd ⟨⟨a, hmem, rfl, hrole⟩, hlead⟩ hkept
    · exact hdesired
  · intro hdesired
    by_cases hexists : db.Seated userId c.id
    · obtain ⟨a, ha, rfl, hrole⟩ := hexists
      exact ⟨a, ⟨.inl ha, .inr fun h => h.2 hdesired⟩, rfl, hrole⟩
    · refine ⟨⟨userId, c.id, .member⟩, ⟨.inr ⟨userId, ⟨hdesired, hexists⟩, rfl⟩, ?_⟩, rfl, rfl⟩
      exact .inr fun h => hexists h.1

end Sync

end Unitae.Roles
