import Unitae.Base.Table
import Unitae.Roles.Committee

/-!
# Unitae — what the database keeps true of the role tables

`RoleDb.Valid` collects the constraints of `schema.prisma` that the results rest on: the primary
and unique keys of `Role`, its id sequence, and the primary key and role reference of
`UserRoleAssignment`. Each write of `Schema.lean` keeps them, under the condition Postgres checks.
-/

namespace Unitae.Roles

structure RoleDb.Valid (db : RoleDb) : Prop where
  roleIds : Keyed (·.id) db.roles
  roleKeys : Keyed (·.key) db.roles
  roleIds_lt : ∀ r ∈ db.roles, r.id < db.nextRoleId
  seats : Keyed (fun a => (a.userId, a.roleId)) db.userRoleAssignments
  seatRoles : ∀ a ∈ db.userRoleAssignments, ∃ r ∈ db.roles, r.id = a.roleId

instance (db : RoleDb) : Decidable db.Valid :=
  decidable_of_iff
    (Keyed (·.id) db.roles ∧ Keyed (·.key) db.roles ∧ (∀ r ∈ db.roles, r.id < db.nextRoleId) ∧
      Keyed (fun a => (a.userId, a.roleId)) db.userRoleAssignments ∧
      ∀ a ∈ db.userRoleAssignments, ∃ r ∈ db.roles, r.id = a.roleId)
    ⟨fun ⟨h₁, h₂, h₃, h₄, h₅⟩ => ⟨h₁, h₂, h₃, h₄, h₅⟩,
      fun h => ⟨h.roleIds, h.roleKeys, h.roleIds_lt, h.seats, h.seatRoles⟩⟩

namespace RoleDb.Valid

variable {db : RoleDb}

theorem roleById_iff (h : db.Valid) {roleId : Nat} {role : Role} :
    db.roleById roleId = some role ↔ role ∈ db.roles ∧ role.id = roleId :=
  h.roleIds.find?_eq_some

theorem roleByKey_iff (h : db.Valid) {key : String} {role : Role} :
    db.roleByKey key = some role ↔ role ∈ db.roles ∧ role.key = key :=
  h.roleKeys.find?_eq_some

theorem eq_of_id (h : db.Valid) {r r' : Role} (hr : r ∈ db.roles) (hr' : r' ∈ db.roles)
    (hid : r.id = r'.id) : r = r' :=
  h.roleIds.eq_of_key hr hr' hid

theorem eq_of_key (h : db.Valid) {r r' : Role} (hr : r ∈ db.roles) (hr' : r' ∈ db.roles)
    (hkey : r.key = r'.key) : r = r' :=
  h.roleKeys.eq_of_key hr hr' hkey

/-- A seat is its row: two rows of one account in one role are the same row. -/
theorem seat_unique (h : db.Valid) {a b : UserRoleAssignment} (ha : a ∈ db.userRoleAssignments)
    (hb : b ∈ db.userRoleAssignments) (huser : a.userId = b.userId) (hrole : a.roleId = b.roleId) :
    a = b :=
  h.seats.eq_of_key ha hb (by rw [huser, hrole])

/-! ## Writes to the roles -/

/-- An update that leaves ids and keys alone. -/
theorem updateRoles (h : db.Valid) (sel : Role → Bool) {data : Role → Role}
    (hid : ∀ r, (data r).id = r.id) (hkey : ∀ r, (data r).key = r.key) :
    (db.updateRoles sel data).Valid where
  roleIds := h.roleIds.map fun r => by split <;> simp [hid]
  roleKeys := h.roleKeys.map fun r => by split <;> simp [hkey]
  roleIds_lt := by
    intro r hr
    obtain ⟨r₀, hr₀, rfl⟩ := List.mem_map.mp hr
    have hlt := h.roleIds_lt r₀ hr₀
    split
    · rw [hid]
      exact hlt
    · exact hlt
  seats := h.seats
  seatRoles := by
    intro a ha
    obtain ⟨r, hr, hra⟩ := h.seatRoles a ha
    refine ⟨_, List.mem_map.mpr ⟨r, hr, rfl⟩, ?_⟩
    split
    · rw [hid]
      exact hra
    · exact hra

/-- An insertion under the next id and a free key. -/
theorem createRole (h : db.Valid) {row : Nat → Role} (hid : ∀ n, (row n).id = n)
    (hkey : ∀ r ∈ db.roles, r.key ≠ (row db.nextRoleId).key) : (db.createRole row).Valid where
  roleIds := h.roleIds.append_next h.roleIds_lt (hid _)
  roleKeys := h.roleKeys.append_one hkey
  roleIds_lt := lt_append_next h.roleIds_lt (hid _)
  seats := h.seats
  seatRoles := by
    intro a ha
    obtain ⟨r, hr, hra⟩ := h.seatRoles a ha
    exact ⟨r, List.mem_append_left _ hr, hra⟩

theorem deleteRole (h : db.Valid) (roleId : Nat) : (db.deleteRole roleId).Valid where
  roleIds := h.roleIds.filter _
  roleKeys := h.roleKeys.filter _
  roleIds_lt := fun r hr => h.roleIds_lt r (List.mem_filter.mp hr).1
  seats := h.seats.filter _
  seatRoles := by
    intro a ha
    obtain ⟨ha, hne⟩ := List.mem_filter.mp ha
    obtain ⟨r, hr, hra⟩ := h.seatRoles a ha
    exact ⟨r, List.mem_filter.mpr ⟨hr, by rwa [hra]⟩, hra⟩

/-! ## Writes to the seats -/

theorem createSeats (h : db.Valid) {rows : List UserRoleAssignment}
    (hkeyed : Keyed (fun a => (a.userId, a.roleId)) rows)
    (hnew : ∀ a ∈ rows, ¬db.Seated a.userId a.roleId)
    (hroles : ∀ a ∈ rows, ∃ r ∈ db.roles, r.id = a.roleId) : (db.createSeats rows).Valid where
  roleIds := h.roleIds
  roleKeys := h.roleKeys
  roleIds_lt := h.roleIds_lt
  seats := by
    refine h.seats.append hkeyed ?_
    intro a ha b hb heq
    rw [Prod.mk.injEq] at heq
    exact hnew b hb ⟨a, ha, heq⟩
  seatRoles := by
    intro a ha
    rcases List.mem_append.mp ha with ha | ha
    · exact h.seatRoles a ha
    · exact hroles a ha

theorem createSeat (h : db.Valid) {a : UserRoleAssignment} (hnew : ¬db.Seated a.userId a.roleId)
    {role : Role} (hrole : role ∈ db.roles) (hid : role.id = a.roleId) :
    (db.createSeats [a]).Valid := by
  refine h.createSeats (List.nodup_singleton _) ?_ ?_
  · intro b hb
    rw [List.mem_singleton.mp hb]
    exact hnew
  · intro b hb
    rw [List.mem_singleton.mp hb]
    exact ⟨role, hrole, hid⟩

/-- Removing seats, and nothing else the constraints speak of. -/
theorem of_filter (h : db.Valid) {db' : RoleDb} (p : UserRoleAssignment → Bool)
    (hroles : db'.roles = db.roles) (hnext : db'.nextRoleId = db.nextRoleId)
    (hseats : db'.userRoleAssignments = db.userRoleAssignments.filter p) : db'.Valid where
  roleIds := hroles ▸ h.roleIds
  roleKeys := hroles ▸ h.roleKeys
  roleIds_lt := by
    rw [hroles, hnext]
    exact h.roleIds_lt
  seats := by
    rw [hseats]
    exact h.seats.filter p
  seatRoles := by
    rw [hroles, hseats]
    exact fun a ha => h.seatRoles a (List.mem_filter.mp ha).1

/-- A write to the other tables. -/
theorem congr (h : db.Valid) {db' : RoleDb} (hroles : db'.roles = db.roles)
    (hnext : db'.nextRoleId = db.nextRoleId)
    (hseats : db'.userRoleAssignments = db.userRoleAssignments) : db'.Valid :=
  h.of_filter (fun _ => true) hroles hnext (by rw [hseats, List.filter_true])

theorem deleteSeats (h : db.Valid) (sel : UserRoleAssignment → Bool) : (db.deleteSeats sel).Valid :=
  h.of_filter (fun a => !sel a) rfl rfl rfl

theorem updateSeat (h : db.Valid) (userId roleId : Nat) (kind : SeatKind) :
    (db.updateSeat userId roleId kind).Valid where
  roleIds := h.roleIds
  roleKeys := h.roleKeys
  roleIds_lt := h.roleIds_lt
  seats := h.seats.map fun a => by split <;> rfl
  seatRoles := by
    intro a ha
    obtain ⟨a₀, ha₀, rfl⟩ := List.mem_map.mp ha
    obtain ⟨r, hr, hra⟩ := h.seatRoles a₀ ha₀
    refine ⟨r, hr, ?_⟩
    split <;> exact hra

/-- The committee's derived rows are new pairs in an existing role. -/
theorem sync (h : db.Valid) : (syncServiceCommitteeMembers db).Valid := by
  unfold syncServiceCommitteeMembers
  cases hc : db.roleByKey serviceCommitteeKey with
  | none => exact h
  | some c =>
    simp only
    split
    · exact h
    · refine (h.createSeats ?_ ?_ ?_).deleteSeats _
      · -- the added accounts are listed once each
        unfold Keyed
        rw [List.map_map]
        refine List.Nodup.map ?_ (List.Nodup.filter _ (List.nodup_eraseDups _))
        intro u v huv
        exact (Prod.mk.inj huv).1
      · intro a ha
        obtain ⟨u, hu, rfl⟩ := List.mem_map.mp ha
        have hnot := (List.mem_filter.mp hu).2
        rw [Bool.not_eq_true', List.contains_eq_mem, decide_eq_false_iff_not, mem_occupants] at hnot
        exact hnot
      · intro a ha
        obtain ⟨u, _, rfl⟩ := List.mem_map.mp ha
        exact ⟨c, (RoleDb.roleByKey_mem hc).1, rfl⟩

end RoleDb.Valid

end Unitae.Roles
