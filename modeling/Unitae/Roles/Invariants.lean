import Unitae.Roles.Effects

/-!
# Unitae — what every request keeps

Two invariants carry the results below. `RoleDb.Valid` is what the database enforces; `Seeded` says
that the built-in roles are there, undeletable, with the shape `seedBuiltInRoles` gave them. Both
are kept by every request of the system.

Most writes of the chart move rows without touching anything else in them; `Redrawn` is that
relation, and whatever does not read a row's place transfers along it at once.
-/

namespace Unitae.Roles

/-! ## Redrawing the chart -/

/-- The row without its place in the chart. -/
def Role.offChart (r : Role) : Role :=
  { r with parentRoleId := none, showInOrganigram := false, organigramOrder := none }

theorem Role.id_eq_of_offChart {r r' : Role} (h : r.offChart = r'.offChart) : r.id = r'.id := by
  have hids : r.offChart.id = r'.offChart.id := by rw [h]
  exact hids

/-- The roles of `db'` are those of `db`, wherever they stand now. -/
structure SameRoles (db db' : RoleDb) : Prop where
  roles : db'.roles.map Role.offChart = db.roles.map Role.offChart
  nextRoleId : db'.nextRoleId = db.nextRoleId

/-- `db'` differs from `db` in where its roles stand, and in nothing else the constraints speak
of. -/
structure Redrawn (db db' : RoleDb) : Prop extends SameRoles db db' where
  seats : db'.userRoleAssignments = db.userRoleAssignments

namespace SameRoles

variable {db db' db'' : RoleDb}

theorem refl (db : RoleDb) : SameRoles db db := ⟨rfl, rfl⟩

theorem trans (h : SameRoles db db') (h' : SameRoles db' db'') : SameRoles db db'' :=
  ⟨h'.roles.trans h.roles, h'.nextRoleId.trans h.nextRoleId⟩

/-- A write to the seats. -/
theorem of_seats (h : ∃ rows, db' = { db with userRoleAssignments := rows }) :
    SameRoles db db' := by
  obtain ⟨rows, rfl⟩ := h
  exact ⟨rfl, rfl⟩

theorem map_eq {β : Type} (h : SameRoles db db') {f : Role → β} (hf : ∀ r, f r.offChart = f r) :
    db'.roles.map f = db.roles.map f := by
  have hcomp : f ∘ Role.offChart = f := funext hf
  rw [← hcomp, ← List.map_map, ← List.map_map, h.roles]

theorem exists_role (h : SameRoles db db') {p : Role → Prop} (hp : ∀ r, p r.offChart ↔ p r) :
    (∃ r ∈ db'.roles, p r) ↔ ∃ r ∈ db.roles, p r := by
  have hmap : ∀ rows : List Role, (∃ r ∈ rows, p r) ↔ ∃ r ∈ rows.map Role.offChart, p r := by
    intro rows
    simp only [List.mem_map, exists_exists_and_eq_and, hp]
  rw [hmap db'.roles, hmap db.roles, h.roles]

theorem roleIds (h : SameRoles db db') (hdb : db.Valid) : Keyed (·.id) db'.roles := by
  unfold Keyed
  rw [h.map_eq fun _ => rfl]
  exact hdb.roleIds

theorem roleKeys (h : SameRoles db db') (hdb : db.Valid) : Keyed (·.key) db'.roles := by
  unfold Keyed
  rw [h.map_eq fun _ => rfl]
  exact hdb.roleKeys

theorem roleIds_lt (h : SameRoles db db') (hdb : db.Valid) :
    ∀ r ∈ db'.roles, r.id < db'.nextRoleId := by
  intro r hr
  rw [h.nextRoleId]
  obtain ⟨r₀, hr₀, hid⟩ := (h.exists_role (p := fun r₀ => r₀.id = r.id) fun _ => Iff.rfl).mp
    ⟨r, hr, rfl⟩
  rw [← hid]
  exact hdb.roleIds_lt r₀ hr₀

/-- The constraints, when the seats meet theirs. -/
theorem valid (h : SameRoles db db') (hdb : db.Valid)
    (hseats : Keyed (fun a => (a.userId, a.roleId)) db'.userRoleAssignments)
    (hroles : ∀ a ∈ db'.userRoleAssignments, ∃ r ∈ db.roles, r.id = a.roleId) : db'.Valid where
  roleIds := h.roleIds hdb
  roleKeys := h.roleKeys hdb
  roleIds_lt := h.roleIds_lt hdb
  seats := hseats
  seatRoles := fun a ha =>
    (h.exists_role (p := fun r => r.id = a.roleId) fun _ => Iff.rfl).mpr (hroles a ha)

/-- A lookup by key finds the same role, wherever it stands now. -/
theorem roleByKey (h : SameRoles db db') (hdb : db.Valid) {key : String} {role : Role}
    (hrole : db.roleByKey key = some role) :
    ∃ role', db'.roleByKey key = some role' ∧ role'.offChart = role.offChart := by
  obtain ⟨hmem, hkey⟩ := RoleDb.roleByKey_mem hrole
  obtain ⟨role', hmem', hsame⟩ :=
    (h.exists_role (p := fun r => r.offChart = role.offChart) fun _ => Iff.rfl).mpr
      ⟨role, hmem, rfl⟩
  have hkey' : role'.key = key := (congrArg Role.key hsame).trans hkey
  exact ⟨role', (h.roleKeys hdb).find?_eq_some.mpr ⟨hmem', hkey'⟩, hsame⟩

end SameRoles

namespace Redrawn

variable {db db' db'' : RoleDb}

theorem refl (db : RoleDb) : Redrawn db db := ⟨.refl db, rfl⟩

theorem trans (h : Redrawn db db') (h' : Redrawn db' db'') : Redrawn db db'' :=
  ⟨h.toSameRoles.trans h'.toSameRoles, h'.seats.trans h.seats⟩

theorem updateRoles (db : RoleDb) {sel : Role → Bool} {data : Role → Role}
    (hdata : ∀ r, (data r).offChart = r.offChart) : Redrawn db (db.updateRoles sel data) where
  roles := by
    rw [RoleDb.updateRoles_roles, List.map_map]
    refine List.map_congr_left fun r _ => ?_
    exact column_ite (hdata r)
  nextRoleId := rfl
  seats := rfl

theorem place (db : RoleDb) (roleId : Nat) (parentRoleId : Option Nat) (order : Int) :
    Redrawn db (db.place roleId parentRoleId order) := updateRoles db fun _ => rfl

theorem hang (db : RoleDb) (roleId : Nat) (parentRoleId : Option Nat) (order : Int) :
    Redrawn db (db.hang roleId parentRoleId order) := updateRoles db fun _ => rfl

theorem rehangChildren (db : RoleDb) (roleId : Nat) (parentRoleId : Option Nat) :
    Redrawn db (db.rehangChildren roleId parentRoleId) := updateRoles db fun _ => rfl

theorem takeOffChart (db : RoleDb) (roleId : Nat) : Redrawn db (db.takeOffChart roleId) :=
  updateRoles db fun _ => rfl

theorem renumber (db : RoleDb) (siblings : List Role) : Redrawn db (db.renumber siblings) := by
  exact List.foldlRecOn _ _ (refl db) fun placed h _ _ => h.trans (updateRoles placed fun _ => rfl)

theorem placePosts (db : RoleDb) (parentRoleId : Option Nat) :
    Redrawn db (db.placePosts parentRoleId) := by
  refine List.foldlRecOn _ _ (refl db) fun placed h post _ => ?_
  simp only
  cases db.roleByKey post.1 with
  | none => exact h
  | some role => exact h.trans (place ..)

theorem placeCommittee (db : RoleDb) (committee : Role) :
    Redrawn db (db.placeCommittee committee) :=
  (place ..).trans (placePosts ..)

theorem createRolePermissions (db : RoleDb) (roleId : Nat) (keys : List String) :
    Redrawn db (db.createRolePermissions roleId keys) := ⟨⟨rfl, rfl⟩, rfl⟩

theorem valid (h : Redrawn db db') (hdb : db.Valid) : db'.Valid := by
  refine h.toSameRoles.valid hdb ?_ ?_
  · rw [h.seats]
    exact hdb.seats
  · rw [h.seats]
    exact hdb.seatRoles

end Redrawn

/-! ## The built-in roles stay -/

/-- The key has its undeletable role, of the seeded shape. -/
def SeededKey (db : RoleDb) (key : String) : Prop :=
  ∃ role ∈ db.roles,
    role.key = key ∧ role.isBuiltIn = true ∧ role.isSinglePerson = isServiceCommitteePostKey key

instance (db : RoleDb) (key : String) : Decidable (SeededKey db key) :=
  inferInstanceAs (Decidable (∃ _ ∈ _, _))

/-- Every key of `seedBuiltInRoles` has its role. -/
def Seeded (db : RoleDb) : Prop := ∀ key ∈ seededRoleKeys, SeededKey db key

instance (db : RoleDb) : Decidable (Seeded db) := inferInstanceAs (Decidable (∀ _ ∈ _, _))

namespace Seeded

variable {db db' : RoleDb}

theorem roleByKey (h : Seeded db) (hdb : db.Valid) {key : String} (hkey : key ∈ seededRoleKeys) :
    ∃ role, db.roleByKey key = some role ∧ role.isBuiltIn = true ∧
      role.isSinglePerson = isServiceCommitteePostKey key := by
  obtain ⟨role, hrole, hrolekey, hshape⟩ := h key hkey
  exact ⟨role, hdb.roleByKey_iff.mpr ⟨hrole, hrolekey⟩, hshape⟩

theorem sameRoles (h : Seeded db) (hsame : SameRoles db db') : Seeded db' :=
  fun key hkey => (hsame.exists_role fun _ => Iff.rfl).mpr (h key hkey)

theorem createRole (h : Seeded db) (row : Nat → Role) : Seeded (db.createRole row) := by
  intro key hkey
  obtain ⟨role, hrole, hshape⟩ := h key hkey
  exact ⟨role, List.mem_append_left _ hrole, hshape⟩

/-- An update that leaves the built-in rows' key and shape alone. -/
theorem updateRoles (h : Seeded db) {sel : Role → Bool} {data : Role → Role}
    (hdata : ∀ r ∈ db.roles, sel r = true → r.isBuiltIn = true → (data r).key = r.key ∧
      (data r).isBuiltIn = true ∧ (data r).isSinglePerson = r.isSinglePerson) :
    Seeded (db.updateRoles sel data) := by
  intro key hkey
  obtain ⟨role, hrole, hrolekey, hbuiltIn, hsingle⟩ := h key hkey
  refine ⟨_, List.mem_map.mpr ⟨role, hrole, rfl⟩, ?_⟩
  split
  · next hsel =>
    obtain ⟨hkey', hbuiltIn', hsingle'⟩ := hdata role hrole hsel hbuiltIn
    exact ⟨hkey'.trans hrolekey, hbuiltIn', hsingle'.trans hsingle⟩
  · exact ⟨hrolekey, hbuiltIn, hsingle⟩

theorem deleteRole (h : Seeded db) (hdb : db.Valid) {role : Role} (hrole : role ∈ db.roles)
    (hcustom : role.isBuiltIn = false) : Seeded (db.deleteRole role.id) := by
  intro key hkey
  obtain ⟨r, hr, hrkey, hbuiltIn, hsingle⟩ := h key hkey
  refine ⟨r, List.mem_filter.mpr ⟨hr, ?_⟩, hrkey, hbuiltIn, hsingle⟩
  rw [bne_iff_ne]
  intro hid
  rw [hdb.eq_of_id hr hrole hid, hcustom] at hbuiltIn
  exact Bool.noConfusion hbuiltIn

/-- Deleting a custom role hides no built-in one. -/
theorem roleByKey_deleteRole (h : Seeded db) (hdb : db.Valid) {role : Role} (hrole : role ∈ db.roles)
    (hcustom : role.isBuiltIn = false) {key : String} (hkey : key ∈ seededRoleKeys) :
    (db.deleteRole role.id).roleByKey key = db.roleByKey key := by
  obtain ⟨r, hr, hbuiltIn, _⟩ := h.roleByKey hdb hkey
  obtain ⟨hmem, hrkey⟩ := RoleDb.roleByKey_mem hr
  rw [hr]
  refine (hdb.deleteRole role.id).roleByKey_iff.mpr ⟨List.mem_filter.mpr ⟨hmem, ?_⟩, hrkey⟩
  rw [bne_iff_ne]
  intro hid
  rw [hdb.eq_of_id hmem hrole hid, hcustom] at hbuiltIn
  exact Bool.noConfusion hbuiltIn

/-- The shape of a row with a seeded key. -/
theorem of_mem (h : Seeded db) (hdb : db.Valid) {r : Role} (hr : r ∈ db.roles)
    (hkey : r.key ∈ seededRoleKeys) :
    r.isBuiltIn = true ∧ r.isSinglePerson = isServiceCommitteePostKey r.key := by
  obtain ⟨role, hrole, hrolekey, hshape⟩ := h r.key hkey
  rw [hdb.eq_of_key hr hrole hrolekey.symm]
  rw [hrolekey]
  exact hshape

end Seeded

theorem appointed_mem_seededRoleKeys {key : String} (h : isAppointedRoleKey key = true) :
    key ∈ seededRoleKeys :=
  List.mem_append_right _ (by simpa [isAppointedRoleKey] using h)

/-! ### Seeding -/

section Seeding

variable {db : RoleDb} {key key' : String}

theorem upsertBuiltInRole_valid (hdb : db.Valid) : (upsertBuiltInRole db key).Valid := by
  unfold upsertBuiltInRole
  cases hrole : db.roleByKey key with
  | some role => exact hdb.updateRoles _ (fun _ => rfl) fun _ => rfl
  | none =>
    refine hdb.createRole (fun _ => rfl) fun r hr => ?_
    rw [RoleDb.roleByKey, List.find?_eq_none] at hrole
    show r.key ≠ key
    simpa using hrole r hr

theorem upsertBuiltInRole_self : SeededKey (upsertBuiltInRole db key) key := by
  unfold upsertBuiltInRole
  cases hrole : db.roleByKey key with
  | some role =>
    obtain ⟨hmem, hkey⟩ := RoleDb.roleByKey_mem hrole
    refine ⟨_, List.mem_map.mpr ⟨role, hmem, rfl⟩, ?_⟩
    rw [if_pos (beq_self_eq_true _)]
    exact ⟨hkey, rfl, rfl⟩
  | none => exact ⟨_, List.mem_append_right _ List.mem_cons_self, rfl, rfl, rfl⟩

/-- Upserting one key keeps what is seeded under another. -/
theorem SeededKey.upsert (hdb : db.Valid) (h : SeededKey db key) :
    SeededKey (upsertBuiltInRole db key') key := by
  obtain ⟨role, hrole, hkey, hbuiltIn, hsingle⟩ := h
  unfold upsertBuiltInRole
  cases hfound : db.roleByKey key' with
  | none => exact ⟨role, List.mem_append_left _ hrole, hkey, hbuiltIn, hsingle⟩
  | some other =>
    obtain ⟨hmem, hkey'⟩ := RoleDb.roleByKey_mem hfound
    refine ⟨_, List.mem_map.mpr ⟨role, hrole, rfl⟩, ?_⟩
    split
    · next hsel =>
      -- the row upserted is the one of the key itself
      have hsame : role = other := hdb.eq_of_id hrole hmem (by simpa using hsel)
      have hkeys : key' = key := by rw [← hkey', ← hsame, hkey]
      exact ⟨hkey, rfl, congrArg isServiceCommitteePostKey hkeys⟩
    · exact ⟨hkey, hbuiltIn, hsingle⟩

/-- Upserting a list of keys seeds each, and keeps what was seeded. -/
theorem upsertAll_seeded (keys : List String) (db : RoleDb) (hdb : db.Valid) :
    (keys.foldl upsertBuiltInRole db).Valid ∧
      ∀ key, key ∈ keys ∨ SeededKey db key → SeededKey (keys.foldl upsertBuiltInRole db) key := by
  induction keys generalizing db with
  | nil =>
    refine ⟨hdb, fun key h => ?_⟩
    rcases h with hmem | h
    · exact absurd hmem List.not_mem_nil
    · exact h
  | cons first keys ih =>
    obtain ⟨hvalid, hseeded⟩ := ih _ (upsertBuiltInRole_valid hdb)
    refine ⟨hvalid, fun key h => hseeded key ?_⟩
    rcases h with hmem | h
    · rcases List.mem_cons.mp hmem with rfl | hmem
      · exact .inr upsertBuiltInRole_self
      · exact .inl hmem
    · exact .inr (h.upsert hdb)

theorem grantBoardViewer_roles (db : RoleDb) : (grantBoardViewer db).roles = db.roles := by
  unfold grantBoardViewer
  split
  · split <;> rfl
  · rfl

theorem grantBoardViewer_redrawn (db : RoleDb) : Redrawn db (grantBoardViewer db) := by
  unfold grantBoardViewer
  split
  · split
    · exact .createRolePermissions ..
    · exact .refl db
  · exact .refl db

/-- **Seeding seeds**, whatever roles the congregation had. -/
theorem seedBuiltInRoles_seeded (hdb : db.Valid) :
    (seedBuiltInRoles db).Valid ∧ Seeded (seedBuiltInRoles db) := by
  obtain ⟨hvalid, hseeded⟩ := upsertAll_seeded seededRoleKeys db hdb
  have hall : Seeded (seededRoleKeys.foldl upsertBuiltInRole db) :=
    fun key hkey => hseeded key (.inl hkey)
  exact ⟨(grantBoardViewer_redrawn _).valid hvalid,
    hall.sameRoles (grantBoardViewer_redrawn _).toSameRoles⟩

theorem mem_upsertBuiltInRole {r : Role} (hr : r ∈ (upsertBuiltInRole db key).roles) :
    r.showInOrganigram = false ∨ ∃ r₀ ∈ db.roles, r.showInOrganigram = r₀.showInOrganigram := by
  unfold upsertBuiltInRole at hr
  cases hrole : db.roleByKey key with
  | some role =>
    simp only [hrole] at hr
    obtain ⟨r₀, hr₀, rfl⟩ := List.mem_map.mp hr
    refine .inr ⟨r₀, hr₀, ?_⟩
    split <;> rfl
  | none =>
    simp only [hrole] at hr
    rcases List.mem_append.mp hr with hr | hr
    · exact .inr ⟨r, hr, rfl⟩
    · left
      rw [List.mem_singleton.mp hr]
      rfl

/-- Seeding puts nothing in the chart. -/
theorem seedBuiltInRoles_hidden (hnew : ∀ r ∈ db.roles, r.showInOrganigram = false) :
    ∀ r ∈ (seedBuiltInRoles db).roles, r.showInOrganigram = false := by
  have hfold : ∀ r ∈ (seededRoleKeys.foldl upsertBuiltInRole db).roles,
      r.showInOrganigram = false := by
    refine List.foldlRecOn (motive := fun s : RoleDb =>
      ∀ r ∈ s.roles, r.showInOrganigram = false) _ _ hnew ?_
    intro s hs key _ r hr
    rcases mem_upsertBuiltInRole hr with hhidden | ⟨r₀, hr₀, hsame⟩
    · exact hhidden
    · exact hsame.trans (hs r₀ hr₀)
  unfold seedBuiltInRoles
  rw [grantBoardViewer_roles]
  exact hfold

theorem placeKey_redrawn (db : RoleDb) (key : String) (parentRoleId : Option Nat) (order : Int) :
    Redrawn db (db.placeKey key parentRoleId order) := by
  unfold RoleDb.placeKey
  split
  · exact .place ..
  · exact .refl db

theorem placeDefaultOrganigram_redrawn (db : RoleDb) : Redrawn db (placeDefaultOrganigram db) := by
  unfold placeDefaultOrganigram
  split
  · exact .refl db
  · exact (((placeKey_redrawn ..).trans (placeKey_redrawn ..)).trans (placeKey_redrawn ..)).trans
      (.placePosts ..)

end Seeding

/-! ## Adoption -/

section Adoption

variable {db db' : RoleDb} {mapping : Mapping} {mappings : List Mapping}

theorem holderMoved_frame (sourceId targetId : Nat) (db : RoleDb) :
    ∃ rows, db.holderMoved sourceId targetId = { db with userRoleAssignments := rows } := by
  unfold RoleDb.holderMoved
  split <;> exact ⟨_, rfl⟩

/-- The grants and the seats a mapping moves, before the chart is redrawn. -/
def RoleDb.handedOver (mapping : Mapping) (db : RoleDb) : RoleDb :=
  let granted := db.createRolePermissions mapping.target.id (db.permissionKeys mapping.source.id)
  if mapping.movesHolder then granted.holderMoved mapping.source.id mapping.target.id else granted

theorem handedOver_frame (mapping : Mapping) (db : RoleDb) :
    ∃ grants rows, db.handedOver mapping =
      { db with rolePermissions := grants, userRoleAssignments := rows } := by
  unfold RoleDb.handedOver
  simp only
  split
  · obtain ⟨rows, hmoved⟩ := holderMoved_frame mapping.source.id mapping.target.id
      (db.createRolePermissions mapping.target.id (db.permissionKeys mapping.source.id))
    exact ⟨_, rows, hmoved⟩
  · exact ⟨_, db.userRoleAssignments, rfl⟩

theorem handedOver_roles (mapping : Mapping) (db : RoleDb) :
    (db.handedOver mapping).roles = db.roles := by
  obtain ⟨_, _, hframe⟩ := handedOver_frame mapping db
  rw [hframe]

theorem handedOver_sameRoles (mapping : Mapping) (db : RoleDb) :
    SameRoles db (db.handedOver mapping) := by
  obtain ⟨_, _, hframe⟩ := handedOver_frame mapping db
  rw [hframe]
  exact ⟨rfl, rfl⟩

/-- A mapping's last writes redraw the chart and nothing else. -/
theorem carried_redrawn (mapping : Mapping) (db : RoleDb) :
    Redrawn (db.handedOver mapping) (db.carried mapping) :=
  (Redrawn.rehangChildren ..).trans (.takeOffChart ..)

theorem carried_sameRoles (mapping : Mapping) (db : RoleDb) : SameRoles db (db.carried mapping) :=
  (handedOver_sameRoles mapping db).trans (carried_redrawn mapping db).toSameRoles

/-- The holder's new seat is a new pair in an existing role. -/
theorem holderMoved_valid (hdb : db.Valid) {sourceId : Nat} {target : Role}
    (htarget : ∃ r ∈ db.roles, r.id = target.id)
    (hfree : ∀ incoming, db.incomingHolder sourceId = some incoming →
      ¬db.Seated incoming.userId target.id) :
    (db.holderMoved sourceId target.id).Valid := by
  unfold RoleDb.holderMoved
  cases hincoming : db.incomingHolder sourceId with
  | none => exact hdb
  | some incoming =>
    obtain ⟨r, hr, hid⟩ := htarget
    exact (hdb.createSeat (hfree incoming hincoming) hr hid).deleteSeats _

theorem handedOver_valid (hdb : db.Valid) (htarget : ∃ r ∈ db.roles, r.id = mapping.target.id)
    (hfree : mapping.movesHolder = true →
      ∀ incoming, db.incomingHolder mapping.source.id = some incoming →
        ¬db.Seated incoming.userId mapping.target.id) : (db.handedOver mapping).Valid := by
  have hgranted : (db.createRolePermissions mapping.target.id
      (db.permissionKeys mapping.source.id)).Valid := hdb.congr rfl rfl rfl
  unfold RoleDb.handedOver
  split
  · next hmoves => exact holderMoved_valid hgranted htarget (hfree hmoves)
  · exact hgranted

/-- One turn of the loop: the grants and the seats first, over the same roles, then the chart. -/
theorem carry_spec (hdb : db.Valid) (htarget : ∃ r ∈ db.roles, r.id = mapping.target.id)
    (h : mapping.carry.exec db = (.ok (), db')) :
    db' = db.carried mapping ∧ (db.handedOver mapping).Valid ∧ db'.Valid ∧ SameRoles db db' := by
  obtain ⟨rfl, hfree⟩ := carry_ok h
  have hgiven := handedOver_valid hdb htarget hfree
  exact ⟨rfl, hgiven, (carried_redrawn mapping db).valid hgiven, carried_sameRoles mapping db⟩

/-- **The loop over the mappings**: the constraints hold throughout, over the same roles. -/
theorem carries_valid (hdb : db.Valid) (htargets : ∀ m ∈ mappings, ∃ r ∈ db.roles, r.id = m.target.id)
    (h : (mappings.forM Mapping.carry).exec db = (.ok (), db')) : db'.Valid ∧ SameRoles db db' := by
  refine Tx.forM_invariant (I := fun _ s => s.Valid ∧ SameRoles db s) h ⟨hdb, .refl db⟩ ?_
  intro done m rest hmappings s s' hs hcarry
  obtain ⟨hvalid, hsame⟩ := hs
  have htarget : ∃ r ∈ s.roles, r.id = m.target.id :=
    (hsame.exists_role (p := fun r => r.id = m.target.id) fun _ => Iff.rfl).mpr
      (htargets m (by simp [hmappings]))
  obtain ⟨_, _, hvalid', hsame'⟩ := carry_spec hvalid htarget hcarry
  exact ⟨hvalid', hsame.trans hsame'⟩

/-- What the adoption leaves just before the last sync. -/
theorem adopt_valid {choices : List AdoptionChoice} {actor : List String} {committee : Role}
    {carried : RoleDb} (hdb : db.Valid) (hchecks : adoptChecks db choices actor = .ok (committee, mappings))
    (hcarried : (mappings.forM Mapping.carry).exec (db.placeCommittee committee) = (.ok (), carried)) :
    carried.Valid ∧ SameRoles db carried := by
  have hplaced := Redrawn.placeCommittee db committee
  have hplan := adoptChecks_ok hchecks
  have htargets : ∀ m ∈ mappings, ∃ r ∈ (db.placeCommittee committee).roles, r.id = m.target.id := by
    intro m hm
    refine (hplaced.exists_role (p := fun r => r.id = m.target.id) fun _ => Iff.rfl).mpr ?_
    exact ⟨m.target, (RoleDb.roleByKey_mem (hplan.targets m hm)).1, rfl⟩
  obtain ⟨hvalid, hsame⟩ := carries_valid (hplaced.valid hdb) htargets hcarried
  exact ⟨hvalid, hplaced.toSameRoles.trans hsame⟩

end Adoption

/-! ## Every request keeps both -/

section Effects

variable {u : Unicode} {db db' : RoleDb} {request : Request}

theorem createRoleChecks_free {name trimmedName key : String}
    (h : createRoleChecks u db name = .ok (trimmedName, key)) : ∀ r ∈ db.roles, r.key ≠ key := by
  obtain ⟨_, hfree⟩ := createRoleChecks_ok h
  rw [RoleDb.roleByKey, List.find?_eq_none] at hfree
  intro r hr
  simpa using hfree r hr

theorem customRoles_valid (hdb : db.Valid) {userId : Nat} {ids added removed : List Nat}
    (hdiff : customRoleDiff db userId ids = (added, removed)) :
    (db.createSeats (added.map fun id => ⟨userId, id, .member⟩)).Valid := by
  obtain ⟨hnodup, hadded, _⟩ := customRoleDiff_spec hdiff
  refine hdb.createSeats ?_ ?_ ?_
  · unfold Keyed
    rw [List.map_map]
    exact hnodup.map fun id id' h => (Prod.mk.inj h).2
  · intro a ha
    obtain ⟨id, hid, rfl⟩ := List.mem_map.mp ha
    exact ((hadded id).mp hid).2.2
  · intro a ha
    obtain ⟨id, hid, rfl⟩ := List.mem_map.mp ha
    obtain ⟨r, hr, _, hrid⟩ := mem_assignableIds.mp ((hadded id).mp hid).2.1
    exact ⟨r, hr, hrid⟩

/-- **Every write keeps the constraints.** -/
theorem Effect.valid (h : Effect u db request db') (hdb : db.Valid) : db'.Valid := by
  cases h with
  | seatMember hchecks =>
    have hrole := (seatMemberChecks_ok hchecks).1
    exact (hdb.placeSeat (RoleDb.roleById_mem hrole).1).syncAfter
  | unseatMember => exact (hdb.deleteSeats _).syncAfter
  | addUserToRole hrole _ _ hnew _ => exact hdb.createSeat hnew (RoleDb.roleById_mem hrole).1 rfl
  | removeUserFromRole => exact hdb.deleteSeats _
  | setUserCustomRoleAssignments hdiff => exact (customRoles_valid hdb hdiff).deleteSeats _
  | updateRolePermissions => exact hdb.congr rfl rfl rfl
  | createRole hchecks =>
    exact (hdb.createRole (fun _ => rfl) (createRoleChecks_free hchecks)).congr rfl rfl rfl
  | updateRoleIdentity => exact hdb.updateRoles _ (fun _ => rfl) fun _ => rfl
  | deleteRole => exact hdb.deleteRole _
  | addRoleToOrganigram => exact (Redrawn.place ..).valid hdb
  | createService hchecks => exact hdb.createRole (fun _ => rfl) (createRoleChecks_free hchecks)
  | createServiceInOrganigram hchecks =>
    exact (Redrawn.place ..).valid
      (hdb.createRole (fun _ => rfl) (createRoleChecks_free hchecks))
  | setRoleSinglePerson => exact hdb.updateRoles _ (fun _ => rfl) fun _ => rfl
  | removeRoleFromOrganigram =>
    exact ((Redrawn.rehangChildren ..).trans (.takeOffChart ..)).valid hdb
  | setOrganigramParent => exact (Redrawn.hang ..).valid hdb
  | moveOrganigramNode => exact (Redrawn.renumber ..).valid hdb
  | adoptServiceCommittee hchecks hcarried _ => exact (adopt_valid hdb hchecks hcarried).1.sync
  | updateAccount =>
    obtain ⟨_, _, _, hframe⟩ := accountUpdated_frame u _ _ _ db
    rw [hframe]
    exact hdb.congr rfl rfl rfl
  | deleteAccount => exact hdb.of_filter _ rfl rfl rfl
  | anonymizeAccount => exact hdb.of_filter _ rfl rfl rfl
  | unlinkAccountFromMember => exact hdb.of_filter _ rfl rfl rfl
  | setLifecycle =>
    obtain ⟨_, _, kept, hframe⟩ := enterLifecycle_frame _ _ _ db
    rw [hframe]
    exact hdb.of_filter kept rfl rfl rfl

/-- **Every write keeps the built-in roles.** -/
theorem Effect.seeded (h : Effect u db request db') (hdb : db.Valid) (hseeded : Seeded db) :
    Seeded db' := by
  cases h with
  | seatMember => exact hseeded.sameRoles (.of_seats (placeSeat_syncAfter_frame ..))
  | unseatMember => exact hseeded.sameRoles (.of_seats (syncAfter_frame ..))
  | addUserToRole => exact hseeded
  | removeUserFromRole => exact hseeded
  | setUserCustomRoleAssignments => exact hseeded
  | updateRolePermissions => exact hseeded
  | createRole hchecks => exact hseeded.createRole _
  | updateRoleIdentity => exact hseeded.updateRoles fun _ _ _ hbuiltIn => ⟨rfl, hbuiltIn, rfl⟩
  | deleteRole hrole hcustom _ => exact hseeded.deleteRole hdb (RoleDb.roleById_mem hrole).1 hcustom
  | addRoleToOrganigram => exact hseeded.sameRoles (Redrawn.place ..).toSameRoles
  | createService => exact hseeded.createRole _
  | createServiceInOrganigram => exact (hseeded.createRole _).sameRoles (Redrawn.place ..).toSameRoles
  | setRoleSinglePerson hrole hcustom _ _ =>
    refine hseeded.updateRoles fun r hr hsel hbuiltIn => ?_
    obtain ⟨hmem, hid⟩ := RoleDb.roleById_mem hrole
    rw [beq_iff_eq, ← hid] at hsel
    rw [hdb.eq_of_id hr hmem hsel, hcustom] at hbuiltIn
    exact Bool.noConfusion hbuiltIn
  | removeRoleFromOrganigram =>
    exact hseeded.sameRoles ((Redrawn.rehangChildren ..).trans (.takeOffChart ..)).toSameRoles
  | setOrganigramParent => exact hseeded.sameRoles (Redrawn.hang ..).toSameRoles
  | moveOrganigramNode => exact hseeded.sameRoles (Redrawn.renumber ..).toSameRoles
  | adoptServiceCommittee hchecks hcarried _ =>
    exact (hseeded.sameRoles (adopt_valid hdb hchecks hcarried).2).sameRoles
      (.of_seats (sync_frame _))
  | updateAccount =>
    obtain ⟨_, _, _, hframe⟩ := accountUpdated_frame u _ _ _ db
    rw [hframe]
    exact hseeded
  | deleteAccount => exact hseeded
  | anonymizeAccount => exact hseeded
  | unlinkAccountFromMember => exact hseeded
  | setLifecycle =>
    obtain ⟨_, _, kept, hframe⟩ := enterLifecycle_frame _ _ _ db
    rw [hframe]
    exact hseeded

/-- **The constraints and the built-in roles hold after every request**, refused ones included. -/
theorem step_keeps (u : Unicode) (request : Request) (h : db.Valid ∧ Seeded db) :
    (step u db request).Valid ∧ Seeded (step u db request) := by
  obtain ⟨hdb, hseeded⟩ := h
  rcases step_effect u hdb request with hsame | heffect
  · rw [hsame]
    exact ⟨hdb, hseeded⟩
  · exact ⟨heffect.valid hdb, heffect.seeded hdb hseeded⟩

end Effects

end Unitae.Roles
