import Unitae.Roles.CommitteeMembers

/-!
# Unitae — a single-person role has one occupant

`Role.isSinglePerson` says that a role has one titulaire and, beside him, adjoints only. Five
services write seats and one the flag, and each looks after the rule in its own way: `seatMember`
sweeps the outgoing titulaire, `addUserToRole` and the checkbox list refuse, `setRoleSinglePerson`
counts the titulaires but not the plain members, and the adoption moves a holder over without
looking at the post.

`singlePerson_of_run` is the rule over every run that avoids the last two.
-/

namespace Unitae.Roles

/-- No two titulaires, and no plain member. -/
def RoleDb.OneOccupant (db : RoleDb) (roleId : Nat) : Prop :=
  (∀ a ∈ db.userRoleAssignments, ∀ b ∈ db.userRoleAssignments, a.roleId = roleId →
    b.roleId = roleId → a.kind = .leader → b.kind = .leader → a = b) ∧
    ∀ a ∈ db.userRoleAssignments, a.roleId = roleId → a.kind ≠ .member

/-- Every single-person role has one occupant. -/
def SinglesHaveOne (db : RoleDb) : Prop :=
  ∀ role ∈ db.roles, role.isSinglePerson = true → db.OneOccupant role.id

instance (db : RoleDb) (roleId : Nat) : Decidable (db.OneOccupant roleId) :=
  inferInstanceAs (Decidable ((∀ _ ∈ _, _) ∧ ∀ _ ∈ _, _))

instance (db : RoleDb) : Decidable (SinglesHaveOne db) := inferInstanceAs (Decidable (∀ _ ∈ _, _))

section Occupants

variable {db db' : RoleDb} {roleId : Nat}

theorem mem_leaders {a : UserRoleAssignment} :
    a ∈ db.leaders roleId ↔ a ∈ db.userRoleAssignments ∧ a.roleId = roleId ∧ a.kind = .leader := by
  simp only [RoleDb.leaders, List.mem_filter, Bool.and_eq_true, beq_iff_eq]

/-- The rule as a count of rows. -/
theorem oneOccupant_iff (hdb : db.Valid) :
    db.OneOccupant roleId ↔ (db.leaders roleId).length ≤ 1 ∧
      ∀ a ∈ db.userRoleAssignments, a.roleId = roleId → a.kind ≠ .member := by
  refine and_congr_left fun _ => ?_
  have hnodup : (db.leaders roleId).Nodup := (List.Nodup.of_map _ hdb.seats).filter _
  constructor
  · intro h
    match hleaders : db.leaders roleId with
    | [] => simp
    | [_] => simp
    | a :: b :: rest =>
      rw [hleaders] at hnodup
      obtain ⟨ha, harole, hakind⟩ := mem_leaders.mp (hleaders ▸ List.mem_cons_self)
      obtain ⟨hb, hbrole, hbkind⟩ :=
        mem_leaders.mp (hleaders ▸ List.mem_cons_of_mem a List.mem_cons_self)
      have hsame := h a ha b hb harole hbrole hakind hbkind
      simp [hsame] at hnodup
  · intro h a ha b hb harole hbrole hakind hbkind
    have ha' := mem_leaders.mpr ⟨ha, harole, hakind⟩
    have hb' := mem_leaders.mpr ⟨hb, hbrole, hbkind⟩
    match hleaders : db.leaders roleId, h with
    | [], _ => simp [hleaders] at ha'
    | [c], _ =>
      rw [hleaders, List.mem_singleton] at ha' hb'
      rw [ha', hb']

/-- Fewer rows keep the rule. -/
theorem RoleDb.OneOccupant.mono (h : db.OneOccupant roleId)
    (hrows : ∀ a ∈ db'.userRoleAssignments, a.roleId = roleId → a ∈ db.userRoleAssignments) :
    db'.OneOccupant roleId := by
  refine ⟨?_, ?_⟩
  · intro a ha b hb harole hbrole
    exact h.1 a (hrows a ha harole) b (hrows b hb hbrole) harole hbrole
  · intro a ha harole
    exact h.2 a (hrows a ha harole) harole

/-- A write that leaves the single-person roles as they are, and adds no row to them. -/
theorem SinglesHaveOne.mono (h : SinglesHaveOne db)
    (hroles : ∀ r' ∈ db'.roles, r'.isSinglePerson = true →
      ∃ r ∈ db.roles, r.id = r'.id ∧ r.isSinglePerson = true)
    (hrows : ∀ a ∈ db'.userRoleAssignments,
      (∃ r ∈ db.roles, r.id = a.roleId ∧ r.isSinglePerson = true) → a ∈ db.userRoleAssignments) :
    SinglesHaveOne db' := by
  intro r' hr' hsingle'
  obtain ⟨r, hr, hid, hsingle⟩ := hroles r' hr' hsingle'
  rw [← hid]
  exact (h r hr hsingle).mono fun a ha harole => hrows a ha ⟨r, hr, harole.symm, hsingle⟩

theorem SameRoles.single (h : SameRoles db db') {r' : Role} (hr' : r' ∈ db'.roles)
    (hsingle : r'.isSinglePerson = true) :
    ∃ r ∈ db.roles, r.id = r'.id ∧ r.isSinglePerson = true :=
  (h.exists_role (p := fun r => r.id = r'.id ∧ r.isSinglePerson = true) fun _ => Iff.rfl).mp
    ⟨r', hr', rfl, hsingle⟩

/-- The committee is not a single-person role, so the sync adds no row to one. -/
theorem SinglesHaveOne.sync (hdb : db.Valid) (hseeded : Seeded db) (h : SinglesHaveOne db) :
    SinglesHaveOne (syncServiceCommitteeMembers db) := by
  obtain ⟨rows, hframe⟩ := sync_frame db
  refine h.mono (fun r' hr' hsingle => ⟨r', by rw [hframe] at hr'; exact hr', rfl, hsingle⟩) ?_
  rintro a ha ⟨r, hr, hid, hsingle⟩
  refine (mem_sync_of_ne fun committee hfound hrole => ?_).mp ha
  obtain ⟨hmem, hkey⟩ := RoleDb.roleByKey_mem hfound
  have hsame : r = committee := hdb.eq_of_id hr hmem (hid.trans hrole)
  have hshape := (hseeded.of_mem hdb hmem (by rw [hkey]; decide)).2
  rw [← hsame, hsingle, hsame, hkey, isServiceCommitteePostKey_committee] at hshape
  exact Bool.noConfusion hshape

theorem SinglesHaveOne.syncAfter (hdb : db.Valid) (hseeded : Seeded db) (h : SinglesHaveOne db)
    (role : Role) : SinglesHaveOne (db.syncAfter role) := by
  unfold RoleDb.syncAfter
  split
  · exact h.sync hdb hseeded
  · exact h

/-- **Seating keeps the rule**: a new titulaire sweeps the others, and a single-person role is never
given a plain member. -/
theorem SinglesHaveOne.placeSeat (hdb : db.Valid) (h : SinglesHaveOne db) {role : Role}
    (hrole : role ∈ db.roles) (userId : Nat) (kind : SeatKind) :
    SinglesHaveOne (db.placeSeat role userId (role.seatKindFor kind)) := by
  obtain ⟨rows, hframe⟩ := placeSeat_frame db role userId (role.seatKindFor kind)
  intro r hr hsingle
  have hr₀ : r ∈ db.roles := by
    rw [hframe] at hr
    exact hr
  have hone := h r hr₀ hsingle
  by_cases hid : r.id = role.id
  · have hsame : r = role := hdb.eq_of_id hr₀ hrole hid
    subst hsame
    have hisSingle : r.isSingle = true := by simp [Role.isSingle, hsingle]
    have hkind : r.seatKindFor kind = .leader ∨ r.seatKindFor kind = .deputy := by
      unfold Role.seatKindFor
      rw [hisSingle]
      cases kind <;> simp
    refine ⟨?_, ?_⟩
    · intro a ha b hb harole hbrole hakind hbkind
      rcases (mem_placeSeat hdb).mp ha with rfl | ⟨ha, _, hakept⟩
      · rcases (mem_placeSeat hdb).mp hb with rfl | ⟨hb, _, hbkept⟩
        · rfl
        · exact absurd ⟨hisSingle, hakind, hbrole, hbkind⟩ hbkept
      · rcases (mem_placeSeat hdb).mp hb with rfl | ⟨hb, _, _⟩
        · exact absurd ⟨hisSingle, hbkind, harole, hakind⟩ hakept
        · exact hone.1 a ha b hb harole hbrole hakind hbkind
    · intro a ha harole
      rcases (mem_placeSeat hdb).mp ha with rfl | ⟨ha, _⟩
      · rcases hkind with hkind | hkind <;> simp [hkind]
      · exact hone.2 a ha harole
  · refine hone.mono fun a ha harole => ?_
    rcases (mem_placeSeat hdb).mp ha with rfl | ⟨ha, _⟩
    · exact absurd harole.symm hid
    · exact ha

end Occupants

/-! ## The adoption moves holders -/

/-- The assignments of one role. -/
def RoleDb.rowsOf (db : RoleDb) (roleId : Nat) : List UserRoleAssignment :=
  db.userRoleAssignments.filter fun a => a.roleId == roleId

/-- How many holders the mappings done so far took from the role, while it had any. -/
def holdersTaken (done : List Mapping) (sourceId : Nat) : Nat :=
  done.countP fun m => m.movesHolder && m.source.id == sourceId

section Holders

variable {db db' : RoleDb} {sourceId targetId roleId : Nat} {m : Mapping} {mappings : List Mapping}

theorem mem_rowsOf {a : UserRoleAssignment} :
    a ∈ db.rowsOf roleId ↔ a ∈ db.userRoleAssignments ∧ a.roleId = roleId := by
  simp only [RoleDb.rowsOf, List.mem_filter, beq_iff_eq]

theorem incomingHolder_mem {a : UserRoleAssignment} (h : db.incomingHolder sourceId = some a) :
    a ∈ db.rowsOf sourceId := by
  have hholder : ((db.rowsOf sourceId).find? fun a => a.kind == .leader).orElse
      (fun _ => (db.rowsOf sourceId).head?) = some a := h
  cases hfind : (db.rowsOf sourceId).find? fun a => a.kind == .leader with
  | some leader =>
    rw [hfind, Option.orElse_some, Option.some.injEq] at hholder
    rw [← hholder]
    exact List.mem_of_find?_eq_some hfind
  | none =>
    rw [hfind, Option.orElse_none] at hholder
    exact List.mem_of_mem_head? hholder

/-- There is a holder to move exactly when the role has any. -/
theorem incomingHolder_eq_none : db.incomingHolder sourceId = none ↔ db.rowsOf sourceId = [] := by
  constructor
  · intro h
    have hholder : ((db.rowsOf sourceId).find? fun a => a.kind == .leader).orElse
        (fun _ => (db.rowsOf sourceId).head?) = none := h
    cases hfind : (db.rowsOf sourceId).find? fun a => a.kind == .leader with
    | some leader => simp [hfind] at hholder
    | none =>
      rw [hfind, Option.orElse_none] at hholder
      exact List.head?_eq_none_iff.mp hholder
  · intro h
    show ((db.rowsOf sourceId).find? fun a => a.kind == .leader).orElse
      (fun _ => (db.rowsOf sourceId).head?) = none
    simp [h]

/-- The rows of a role that is neither end of the move stay. -/
theorem rowsOf_holderMoved_of_ne (hsource : roleId ≠ sourceId) (htarget : roleId ≠ targetId) :
    (db.holderMoved sourceId targetId).rowsOf roleId = db.rowsOf roleId := by
  unfold RoleDb.holderMoved
  cases db.incomingHolder sourceId with
  | none => rfl
  | some incoming =>
    simp only [RoleDb.rowsOf, RoleDb.deleteSeats_userRoleAssignments,
      RoleDb.createSeats_userRoleAssignments, List.filter_append, List.filter_filter]
    have hnew : (fun a : UserRoleAssignment => a.roleId == roleId &&
        !(a.userId == incoming.userId && a.roleId == sourceId)) = fun a => a.roleId == roleId := by
      funext a
      by_cases hrole : a.roleId = roleId
      · simp [hrole, hsource]
      · simp [hrole]
    rw [hnew]
    simp [htarget.symm]

/-- An account has one row in a role. -/
theorem rowsOf_keyed (hdb : db.Valid) (roleId : Nat) : Keyed (·.userId) (db.rowsOf roleId) := by
  have hpairs : Keyed (fun a => (a.userId, a.roleId)) (db.rowsOf roleId) := hdb.seats.filter _
  have hmap : (db.rowsOf roleId).map (fun a => (a.userId, a.roleId)) =
      ((db.rowsOf roleId).map (·.userId)).map fun userId => (userId, roleId) := by
    rw [List.map_map]
    refine List.map_congr_left fun a ha => ?_
    rw [(mem_rowsOf.mp ha).2]
    rfl
  unfold Keyed at hpairs ⊢
  rw [hmap] at hpairs
  exact hpairs.of_map _

/-- The source loses one row, when it has any. -/
theorem length_rowsOf_source (hdb : db.Valid) :
    ((db.holderMoved sourceId targetId).rowsOf sourceId).length =
      (db.rowsOf sourceId).length - 1 := by
  unfold RoleDb.holderMoved
  cases hincoming : db.incomingHolder sourceId with
  | none =>
    rw [incomingHolder_eq_none.mp hincoming]
    rfl
  | some incoming =>
    have hmem := incomingHolder_mem hincoming
    have hdrop := (rowsOf_keyed hdb sourceId).length_filter_ne (incomingHolder_mem hincoming)
    have hrows : ((db.createSeats [⟨incoming.userId, targetId, .leader⟩]).deleteSeats fun a =>
        a.userId == incoming.userId && a.roleId == sourceId).rowsOf sourceId =
          (db.rowsOf sourceId).filter fun a => a.userId ≠ incoming.userId := by
      simp only [RoleDb.rowsOf, RoleDb.deleteSeats_userRoleAssignments,
        RoleDb.createSeats_userRoleAssignments, List.filter_append, List.filter_filter]
      have hnew : ([⟨incoming.userId, targetId, .leader⟩] : List UserRoleAssignment).filter
          (fun a => a.roleId == sourceId && !(a.userId == incoming.userId && a.roleId == sourceId))
            = [] := by simp
      rw [hnew, List.append_nil]
      refine List.filter_congr fun a _ => ?_
      by_cases huser : a.userId = incoming.userId
      · by_cases hrole : a.roleId = sourceId <;> simp [huser, hrole]
      · by_cases hrole : a.roleId = sourceId <;> simp [huser, hrole]
    simp only [hrows]
    omega

/-- The target gains the holder as its titulaire, and nothing else. -/
theorem mem_rowsOf_target {a : UserRoleAssignment}
    (ha : a ∈ (db.holderMoved sourceId targetId).rowsOf targetId) :
    a ∈ db.rowsOf targetId ∨
      ∃ incoming, db.incomingHolder sourceId = some incoming ∧ a = ⟨incoming.userId, targetId, .leader⟩ := by
  unfold RoleDb.holderMoved at ha
  cases hincoming : db.incomingHolder sourceId with
  | none =>
    rw [hincoming] at ha
    exact .inl ha
  | some incoming =>
    rw [hincoming] at ha
    obtain ⟨hmem, hrole⟩ := mem_rowsOf.mp ha
    rw [RoleDb.deleteSeats_userRoleAssignments, RoleDb.createSeats_userRoleAssignments,
      List.mem_filter, List.mem_append, List.mem_singleton] at hmem
    rcases hmem.1 with hold | hnew
    · exact .inl (mem_rowsOf.mpr ⟨hold, hrole⟩)
    · exact .inr ⟨incoming, rfl, hnew⟩

/-- **Moving a holder keeps the rule** when the post has no titulaire yet, or the role nobody to
give. -/
theorem SinglesHaveOne.holderMoved (h : SinglesHaveOne db) (hne : sourceId ≠ targetId)
    (hroom : db.leaders targetId = [] ∨ db.rowsOf sourceId = []) :
    SinglesHaveOne (db.holderMoved sourceId targetId) := by
  obtain ⟨rows, hframe⟩ := holderMoved_frame sourceId targetId db
  rcases hroom with hvacant | hempty
  · intro r hr hsingle
    have hone := h r (by rw [hframe] at hr; exact hr) hsingle
    by_cases htarget : r.id = targetId
    · subst htarget
      have hrows : ∀ a ∈ (db.holderMoved sourceId r.id).userRoleAssignments, a.roleId = r.id →
          a ∈ db.userRoleAssignments ∨ ∃ incoming, db.incomingHolder sourceId = some incoming ∧
            a = ⟨incoming.userId, r.id, .leader⟩ := by
        intro a ha hrole
        rcases mem_rowsOf_target (mem_rowsOf.mpr ⟨ha, hrole⟩) with hold | hnew
        · exact .inl (mem_rowsOf.mp hold).1
        · exact .inr hnew
      -- an old titulaire there cannot be: the post was vacant
      have hold : ∀ a ∈ db.userRoleAssignments, a.roleId = r.id → a.kind ≠ .leader := by
        intro a ha hrole hleader
        have hmem := mem_leaders.mpr ⟨ha, hrole, hleader⟩
        rw [hvacant] at hmem
        exact List.not_mem_nil hmem
      refine ⟨?_, ?_⟩
      · intro a ha b hb harole hbrole hakind hbkind
        rcases hrows a ha harole with ha | ⟨incoming, hincoming, rfl⟩
        · exact absurd hakind (hold a ha harole)
        · rcases hrows b hb hbrole with hb | ⟨incoming', hincoming', rfl⟩
          · exact absurd hbkind (hold b hb hbrole)
          · rw [hincoming, Option.some.injEq] at hincoming'
            rw [hincoming']
      · intro a ha harole
        rcases hrows a ha harole with ha | ⟨incoming, _, rfl⟩
        · exact hone.2 a ha harole
        · simp
    · refine hone.mono fun a ha harole => ?_
      unfold RoleDb.holderMoved at ha
      cases hincoming : db.incomingHolder sourceId with
      | none =>
        rw [hincoming] at ha
        exact ha
      | some incoming =>
        rw [hincoming] at ha
        have hmem := (List.mem_filter.mp ha).1
        rcases List.mem_append.mp hmem with hold | hnew
        · exact hold
        · rw [List.mem_singleton.mp hnew] at harole
          exact absurd harole.symm htarget
  · rw [RoleDb.holderMoved, incomingHolder_eq_none.mpr hempty]
    exact h

theorem leaders_eq (db : RoleDb) (roleId : Nat) :
    db.leaders roleId = (db.rowsOf roleId).filter (·.kind == .leader) := by
  unfold RoleDb.leaders RoleDb.rowsOf
  rw [List.filter_filter]
  exact List.filter_congr fun a _ => Bool.and_comm _ _

/-- A move of a holder reads and writes the seats only. -/
theorem rowsOf_holderMoved_congr (h : db'.userRoleAssignments = db.userRoleAssignments) :
    (db'.holderMoved sourceId targetId).rowsOf roleId =
      (db.holderMoved sourceId targetId).rowsOf roleId := by
  have hincoming : db'.incomingHolder sourceId = db.incomingHolder sourceId := by
    unfold RoleDb.incomingHolder
    rw [h]
  unfold RoleDb.holderMoved
  rw [hincoming]
  cases db.incomingHolder sourceId with
  | none => simp [RoleDb.rowsOf, h]
  | some incoming => simp [RoleDb.rowsOf, h]

theorem rowsOf_carried (db : RoleDb) (m : Mapping) (roleId : Nat) :
    (db.carried m).rowsOf roleId =
      if m.movesHolder then (db.holderMoved m.source.id m.target.id).rowsOf roleId
      else db.rowsOf roleId := by
  have hseats : (db.carried m).rowsOf roleId = (db.handedOver m).rowsOf roleId := by
    rw [RoleDb.rowsOf, (carried_redrawn m db).seats]
    rfl
  rw [hseats]
  unfold RoleDb.handedOver
  split
  · exact rowsOf_holderMoved_congr rfl
  · rfl

theorem rowsOf_carried_of_ne (hsource : roleId ≠ m.source.id) (htarget : roleId ≠ m.target.id) :
    (db.carried m).rowsOf roleId = db.rowsOf roleId := by
  rw [rowsOf_carried]
  split
  · exact rowsOf_holderMoved_of_ne hsource htarget
  · rfl

theorem length_rowsOf_carried (hdb : db.Valid) (htarget : roleId ≠ m.target.id) :
    ((db.carried m).rowsOf roleId).length = (db.rowsOf roleId).length - holdersTaken [m] roleId := by
  rw [rowsOf_carried]
  unfold holdersTaken
  rw [List.countP_singleton]
  by_cases hmoves : m.movesHolder = true
  · by_cases hsource : roleId = m.source.id
    · subst hsource
      simp [hmoves, length_rowsOf_source hdb]
    · have hne : (m.source.id == roleId) = false := by simpa using Ne.symm hsource
      simp [hmoves, hne, rowsOf_holderMoved_of_ne hsource htarget]
  · simp [hmoves]

theorem SinglesHaveOne.carried (h : SinglesHaveOne db) (hne : m.source.id ≠ m.target.id)
    (hroom : m.movesHolder = true → db.leaders m.target.id = [] ∨ db.rowsOf m.source.id = []) :
    SinglesHaveOne (db.carried m) := by
  have hgiven : SinglesHaveOne (db.handedOver m) := by
    have hgranted : SinglesHaveOne
        (db.createRolePermissions m.target.id (db.permissionKeys m.source.id)) := h
    unfold RoleDb.handedOver
    split
    · next hmoves => exact hgranted.holderMoved hne (hroom hmoves)
    · exact hgranted
  have hredrawn := carried_redrawn m db
  refine hgiven.mono (fun _ hr' hsingle => hredrawn.toSameRoles.single hr' hsingle) ?_
  intro a ha _
  rwa [hredrawn.seats] at ha

/-- When its turn comes, each mapping that would move a holder onto a post with a titulaire finds
its role's holders all taken by the mappings before it. -/
def HoldersTakenFirst (db : RoleDb) (mappings : List Mapping) : Prop :=
  ∀ done m rest, mappings = done ++ m :: rest → m.movesHolder = true → db.leaders m.target.id ≠ [] →
    (db.rowsOf m.source.id).length ≤ holdersTaken done m.source.id

/-- **The loop over the mappings keeps the rule.** What carries it: a role still has the holders the
mappings done did not take, and a post whose turn has not come has the rows it had. -/
theorem carries_singles (hdb : db.Valid) (h : SinglesHaveOne db)
    (htargets : ∀ m ∈ mappings, ∃ r ∈ db.roles, r.id = m.target.id)
    (hdisjoint : ∀ m ∈ mappings, ∀ n ∈ mappings, m.source.id ≠ n.target.id)
    (hdistinct : (mappings.map (·.target.id)).Nodup) (htaken : HoldersTakenFirst db mappings)
    (hcarried : (mappings.forM Mapping.carry).exec db = (.ok (), db')) : SinglesHaveOne db' := by
  suffices hinv : (db'.Valid ∧ SameRoles db db') ∧ SinglesHaveOne db' ∧
      (∀ n ∈ mappings, (db'.rowsOf n.source.id).length =
        (db.rowsOf n.source.id).length - holdersTaken mappings n.source.id) ∧
      ∀ n ∈ mappings, n.target.id ∉ mappings.map (·.target.id) →
        db'.rowsOf n.target.id = db.rowsOf n.target.id from hinv.2.1
  refine Tx.forM_invariant (I := fun done s => (s.Valid ∧ SameRoles db s) ∧ SinglesHaveOne s ∧
      (∀ n ∈ mappings, (s.rowsOf n.source.id).length =
        (db.rowsOf n.source.id).length - holdersTaken done n.source.id) ∧
      ∀ n ∈ mappings, n.target.id ∉ done.map (·.target.id) →
        s.rowsOf n.target.id = db.rowsOf n.target.id) hcarried
    ⟨⟨hdb, .refl db⟩, h, fun _ _ => rfl, fun _ _ _ => rfl⟩ ?_
  rintro done m rest hmappings s s' ⟨⟨hvalid, hsame⟩, hs, hleft, hwaiting⟩ hcarry
  have hm : m ∈ mappings := by simp [hmappings]
  have htarget : ∃ r ∈ s.roles, r.id = m.target.id :=
    (hsame.exists_role (p := fun r => r.id = m.target.id) fun _ => Iff.rfl).mpr (htargets m hm)
  obtain ⟨rfl, _, hvalid', hsame'⟩ := carry_spec hvalid htarget hcarry
  have hturn : m.target.id ∉ done.map (·.target.id) := by
    rw [hmappings, List.map_append, List.map_cons, List.nodup_append] at hdistinct
    intro hmem
    exact hdistinct.2.2 _ hmem _ List.mem_cons_self rfl
  refine ⟨⟨hvalid', hsame.trans hsame'⟩, ?_, ?_, ?_⟩
  · refine hs.carried (hdisjoint m hm m hm) fun hmoves => ?_
    by_cases hvacant : db.leaders m.target.id = []
    · left
      rw [leaders_eq, hwaiting m hm hturn, ← leaders_eq]
      exact hvacant
    · right
      have hempty := htaken done m rest hmappings hmoves hvacant
      have hlength := hleft m hm
      exact List.eq_nil_of_length_eq_zero (by omega)
  · intro n hn
    have hlength := hleft n hn
    have htakes : holdersTaken (done ++ [m]) n.source.id =
        holdersTaken done n.source.id + holdersTaken [m] n.source.id := List.countP_append
    rw [length_rowsOf_carried hvalid (hdisjoint n hn m hm), hlength, htakes]
    omega
  · intro n hn hnew
    rw [List.map_append, List.mem_append, not_or] at hnew
    have hne : n.target.id ≠ m.target.id := by simpa using hnew.2
    rw [rowsOf_carried_of_ne (hdisjoint m hm n hn).symm hne]
    exact hwaiting n hn hnew.1

/-- An adoption whose holders find their posts free keeps the rule. -/
theorem adopt_singles {choices : List AdoptionChoice} {actor : List String} {committee : Role}
    {carried : RoleDb} (hdb : db.Valid) (h : SinglesHaveOne db)
    (hchecks : adoptChecks db choices actor = .ok (committee, mappings))
    (hcarried : (mappings.forM Mapping.carry).exec (db.placeCommittee committee) = (.ok (), carried))
    (htaken : HoldersTakenFirst db mappings) : SinglesHaveOne carried := by
  have hplan := adoptChecks_ok hchecks
  have hplaced := Redrawn.placeCommittee db committee
  have htargetMem := fun m hm => RoleDb.roleByKey_mem (hplan.targets m hm)
  have hsourceMem := fun m hm => RoleDb.roleById_mem (hplan.sources m hm)
  have hsingles : SinglesHaveOne (db.placeCommittee committee) := by
    refine h.mono (fun _ hr' hsingle => hplaced.toSameRoles.single hr' hsingle) ?_
    intro a ha _
    rwa [hplaced.seats] at ha
  refine carries_singles (hplaced.valid hdb) hsingles ?_ ?_ ?_ ?_ hcarried
  · intro m hm
    exact (hplaced.exists_role (p := fun r => r.id = m.target.id) fun _ => Iff.rfl).mpr
      ⟨m.target, (htargetMem m hm).1, rfl⟩
  · intro m hm n hn hid
    have hsame := hdb.eq_of_id (hsourceMem m hm).1 (htargetMem n hn).1 hid
    have hfree := hplan.handMade m hm
    rw [hsame, hplan.appointed n hn] at hfree
    exact Bool.noConfusion hfree
  · refine List.Nodup.map_on ?_ (hplan.distinct.of_map _)
    intro m hm n hn hid
    have hsame := hdb.eq_of_id (htargetMem m hm).1 (htargetMem n hn).1 hid
    exact List.inj_on_of_nodup_map hplan.distinct hm hn (congrArg Role.key hsame)
  · intro done m rest hmappings hmoves hleaders
    have hrows : ∀ roleId, (db.placeCommittee committee).rowsOf roleId = db.rowsOf roleId := by
      intro roleId
      rw [RoleDb.rowsOf, hplaced.seats]
      rfl
    rw [leaders_eq, hrows, ← leaders_eq] at hleaders
    rw [hrows]
    exact htaken done m rest hmappings hmoves hleaders

end Holders

/-! ## Runs -/

/-- The requests that create roles, flag them and seat people in them. -/
def Request.FillsRoles : Request → Prop
  | .createRole .. | .setRoleSinglePerson .. | .seatMember .. | .unseatMember ..
  | .addUserToRole .. | .setUserCustomRoleAssignments .. | .adoptServiceCommittee .. => True
  | _ => False

/-- The request does not make a role with plain members single-person, and does not carry a holder
onto a post that has a titulaire. -/
def Request.KeepsSingles (db : RoleDb) : Request → Prop
  | .setRoleSinglePerson roleId single =>
    setRoleSinglePersonChecks db roleId single = .ok () → single = true →
      ∀ a ∈ db.userRoleAssignments, a.roleId = roleId → a.kind ≠ .member
  | .adoptServiceCommittee choices actor =>
    ∀ db' mappings, (Roles.adoptServiceCommittee choices actor).exec db = (.ok (), db') →
      resolveMappings db choices = .ok mappings → HoldersTakenFirst db mappings
  | _ => True

section Runs

variable {u : Unicode} {db db' start s : RoleDb} {request : Request}

/-- **Each request keeps the rule**, under `KeepsSingles`. -/
theorem Effect.singlesHaveOne (h : Effect u db request db') (hdb : db.Valid) (hseeded : Seeded db)
    (hsingles : SinglesHaveOne db) (hfills : request.FillsRoles) (hkeeps : request.KeepsSingles db) :
    SinglesHaveOne db' := by
  cases h with
  | seatMember hchecks =>
    have hmem := (RoleDb.roleById_mem (seatMemberChecks_ok hchecks).1).1
    exact (hsingles.placeSeat hdb hmem _ _).syncAfter (hdb.placeSeat hmem)
      (hseeded.sameRoles (.of_seats (placeSeat_frame ..))) _
  | @unseatMember _ _ userId _ role hchecks =>
    have hfewer : SinglesHaveOne
        (db.deleteSeats fun a => a.userId == userId && a.roleId == role.id) :=
      hsingles.mono (fun r hr hsingle => ⟨r, hr, rfl, hsingle⟩)
        fun a ha _ => (List.mem_filter.mp ha).1
    exact hfewer.syncAfter (hdb.deleteSeats _) hseeded _
  | addUserToRole hrole hidentity hsingle hnew _ =>
    have hmem := (RoleDb.roleById_mem hrole).1
    refine hsingles.mono (fun r hr hsingle => ⟨r, hr, rfl, hsingle⟩) ?_
    rintro a ha ⟨r, hr, hid, hrsingle⟩
    rcases List.mem_append.mp ha with ha | ha
    · exact ha
    · rw [List.mem_singleton.mp ha] at hid
      rw [hdb.eq_of_id hr hmem hid, hsingle] at hrsingle
      exact Bool.noConfusion hrsingle
  | setUserCustomRoleAssignments hdiff =>
    obtain ⟨_, hadded, _⟩ := customRoleDiff_spec hdiff
    refine hsingles.mono (fun r hr hsingle => ⟨r, hr, rfl, hsingle⟩) ?_
    rintro a ha ⟨r, hr, hid, hrsingle⟩
    rcases List.mem_append.mp (List.mem_filter.mp ha).1 with ha | ha
    · exact ha
    · obtain ⟨id, hadd, rfl⟩ := List.mem_map.mp ha
      obtain ⟨r', hr', hassignable, hid'⟩ := mem_assignableIds.mp ((hadded id).mp hadd).2.1
      rw [hdb.eq_of_id hr hr' (hid.trans hid'.symm)] at hrsingle
      simp [accountAssignableRole, hrsingle] at hassignable
  | createRole hchecks =>
    intro r hr hsingle
    rcases List.mem_append.mp hr with hr | hr
    · exact hsingles r hr hsingle
    · -- nobody sits yet in a role whose id was never handed out
      have hnobody : ∀ a ∈ db.userRoleAssignments, a.roleId ≠ r.id := by
        intro a ha hid
        obtain ⟨r₀, hr₀, hid₀⟩ := hdb.seatRoles a ha
        have hlt := hdb.roleIds_lt r₀ hr₀
        rw [hid₀, hid, List.mem_singleton.mp hr] at hlt
        exact absurd hlt (Nat.lt_irrefl _)
      exact ⟨fun a ha _ _ harole => absurd harole (hnobody a ha),
        fun a ha harole => absurd harole (hnobody a ha)⟩
  | @setRoleSinglePerson roleId single role hrole hcustom hleaders hchecks =>
    obtain ⟨hmem, rfl⟩ := RoleDb.roleById_mem hrole
    intro r hr hsingle
    obtain ⟨r₀, hr₀, rfl⟩ := List.mem_map.mp hr
    by_cases hsel : r₀.id = role.id
    · have hsame := hdb.eq_of_id hr₀ hmem hsel
      subst hsame
      simp only [beq_self_eq_true, if_true] at hsingle ⊢
      by_cases halready : r₀.isSinglePerson = true
      · exact hsingles r₀ hr₀ halready
      · refine (oneOccupant_iff hdb).mpr ⟨hleaders ?_ hsingle, hkeeps hchecks hsingle⟩
        rw [hsingle]
        exact halready
    · have hne : ¬(r₀.id == role.id) = true := by simpa using hsel
      rw [if_neg hne] at hsingle ⊢
      exact hsingles r₀ hr₀ hsingle
  | adoptServiceCommittee hchecks hcarried hok =>
    obtain ⟨hvalid, hsame⟩ := adopt_valid hdb hchecks hcarried
    have htaken := hkeeps _ _ hok (adoptChecks_ok hchecks).resolved
    exact (adopt_singles hdb hsingles hchecks hcarried htaken).sync hvalid
      (hseeded.sameRoles hsame)
  | _ => exact absurd hfills id

/-- **A single-person role has one occupant** in every run of requests that neither flag a role over
its plain members nor carry a holder onto an occupied post. -/
theorem singlePerson_of_run (hstart : start.Valid) (hseeded : Seeded start)
    (hsingles : SinglesHaveOne start)
    (hrun : Reach (step u) (fun db request => request.FillsRoles ∧ request.KeepsSingles db) start s) :
    ∀ role ∈ s.roles, role.isSinglePerson = true → (s.leaders role.id).length ≤ 1 ∧
      ∀ a ∈ s.userRoleAssignments, a.roleId = role.id → a.kind ≠ .member := by
  have hinv : (s.Valid ∧ Seeded s) ∧ SinglesHaveOne s := by
    refine hrun.invariant (I := fun s => (s.Valid ∧ Seeded s) ∧ SinglesHaveOne s)
      ⟨⟨hstart, hseeded⟩, hsingles⟩ ?_
    rintro s request ⟨hkept, hs⟩ ⟨hfills, hkeeps⟩
    refine ⟨step_keeps u request hkept, ?_⟩
    rcases step_effect u hkept.1 request with hsame | heffect
    · rw [hsame]
      exact hs
    · exact heffect.singlesHaveOne hkept.1 hkept.2 hs hfills hkeeps
  exact fun role hrole hsingle => (oneOccupant_iff hinv.1.1).mp (hinv.2 role hrole hsingle)

end Runs

/-- The congregation of one elder with a hand-made role 16, whose plain member is the elder, and a
coordinator, account 21. -/
def handMadeRole : RoleDb :=
  { oneElder with
    roles := oneElder.roles ++ [newRole "Présidence" "presidence" none false 16]
    nextRoleId := 17
    accounts := oneElder.accounts ++ [⟨21, none, none, none, "coordinator", true, none⟩]
    userRoleAssignments := [⟨20, 16, .member⟩, ⟨21, 13, .leader⟩, ⟨21, 12, .member⟩] }

set_option maxRecDepth 4000 in
theorem handMadeRole_kept :
    handMadeRole.Valid ∧ Seeded handMadeRole ∧ SinglesHaveOne handMadeRole := by decide

set_option maxRecDepth 4000 in
/-- Flagging the role keeps its plain member; adopting it as the coordinator's post gives the post a
second titulaire. -/
theorem singlePerson_crowded :
    (Reach (step .lowerAscii) (fun _ request => request.FillsRoles) handMadeRole
        (step .lowerAscii handMadeRole (.setRoleSinglePerson 16 true)) ∧
      ¬SinglesHaveOne (step .lowerAscii handMadeRole (.setRoleSinglePerson 16 true))) ∧
    Reach (step .lowerAscii) (fun _ request => request.FillsRoles) handMadeRole
        (step .lowerAscii handMadeRole
          (.adoptServiceCommittee [⟨"coordinator", some 16⟩] [canDoAnything])) ∧
      ¬SinglesHaveOne (step .lowerAscii handMadeRole
          (.adoptServiceCommittee [⟨"coordinator", some 16⟩] [canDoAnything])) :=
  ⟨⟨.one trivial, by decide⟩, .one trivial, by decide⟩

set_option maxRecDepth 4000 in
/-- Handing the coordinator's post over to the elder keeps the rule. -/
theorem singlePerson_of_run_handover :
    Reach (step .lowerAscii) (fun db request => request.FillsRoles ∧ request.KeepsSingles db)
        handMadeRole (step .lowerAscii handMadeRole (.seatMember 13 30 .leader [canDoAnything])) ∧
      ∀ role ∈ (step .lowerAscii handMadeRole (.seatMember 13 30 .leader [canDoAnything])).roles,
        role.isSinglePerson = true →
          ((step .lowerAscii handMadeRole (.seatMember 13 30 .leader [canDoAnything])).leaders
            role.id).length ≤ 1 ∧
          ∀ a ∈ (step .lowerAscii handMadeRole
              (.seatMember 13 30 .leader [canDoAnything])).userRoleAssignments,
            a.roleId = role.id → a.kind ≠ .member :=
  ⟨.one ⟨trivial, trivial⟩, singlePerson_of_run handMadeRole_kept.1 handMadeRole_kept.2.1
    handMadeRole_kept.2.2 (.one ⟨trivial, trivial⟩)⟩

end Unitae.Roles
