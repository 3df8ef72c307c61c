import Unitae.Roles.Organigram

/-!
# Unitae — adopting the service committee (`organigram-adoption.server.ts`)

For a congregation that built its chart before the committee existed: place the committee and its
posts, and carry over what was built by hand. Every mapping is resolved and refused before the
first write; what can still fail afterwards is a unique constraint, which aborts the transaction.
-/

namespace Unitae.Roles

structure AdoptionChoice where
  postKey : String
  fromRoleId : Option Nat
deriving DecidableEq, Repr

/-- A hand-made role and the appointed role that replaces it. -/
structure Mapping where
  target : Role
  source : Role
deriving DecidableEq, Repr

def unknownPost : String :=
  "Seuls le comité de service et ses trois fonctions peuvent être repris."

def duplicatePost : String := "Chaque fonction du comité ne peut être reprise qu’une seule fois."

def alreadyAdopted : String := "Le comité de service est déjà dans l’organigramme."

/-! ## Checks -/

/-- Each post is an appointed role, chosen once. -/
def choiceChecks (seenPosts : List String) : List AdoptionChoice → Except Failure Unit
  | [] => .ok ()
  | choice :: choices => do
    Tx.refuseWhen (!isAppointedRoleKey choice.postKey) (.app (.validation "postKey" unknownPost))
    Tx.refuseWhen (seenPosts.contains choice.postKey) (.app (.validation "postKey" duplicatePost))
    choiceChecks (choice.postKey :: seenPosts) choices

def resolveMapping (db : RoleDb) (postKey : String) (fromRoleId : Nat) : Except Failure Mapping :=
  match db.roleByKey postKey, db.roleById fromRoleId with
  | some target, some source =>
    if isAppointedRoleKey source.key then
      .error (.app (.forbidden "Cet élément ne peut pas être repris."))
    else .ok ⟨target, source⟩
  | _, _ => .error (.app (.notFound "Role" (some fromRoleId)))

def resolveMappings (db : RoleDb) : List AdoptionChoice → Except Failure (List Mapping)
  | [] => .ok []
  | choice :: choices =>
    match choice.fromRoleId with
    | none => resolveMappings db choices
    | some fromRoleId => do
      let mapping ← resolveMapping db choice.postKey fromRoleId
      let mappings ← resolveMappings db choices
      return mapping :: mappings

/-- The actor must hold every permission a mapping moves. -/
def mappingLimits (db : RoleDb) (committee : Role) (mappings : List Mapping)
    (actorPermissions : List String) : Except Failure Unit :=
  Tx.checkWhen (mappings ≠ [])
    (assertActorHoldsRolePermissions db
      ((mappings.flatMap fun m => [m.target.id, m.source.id]) ++ [committee.id]).eraseDups
      actorPermissions)

def adoptChecks (db : RoleDb) (choices : List AdoptionChoice) (actorPermissions : List String) :
    Except Failure (Role × List Mapping) := do
  choiceChecks [] choices
  match db.roleByKey serviceCommitteeKey with
  | none => .error (.app (.notFound "Role" (some 0)))
  | some committee =>
    Tx.refuseWhen committee.showInOrganigram (.app (.conflict alreadyAdopted))
    let mappings ← resolveMappings db choices
    mappingLimits db committee mappings actorPermissions
    return (committee, mappings)

/-! ## Writes -/

/-- Place the posts that exist under the committee, in their canonical order. -/
def RoleDb.placePosts (parentRoleId : Option Nat) (db : RoleDb) : RoleDb :=
  serviceCommitteePostKeys.zipIdx.foldl
    (fun placed (key, index) =>
      match db.roleByKey key with
      | some post => placed.place post.id parentRoleId ((index + 1 : Int) * orderStep)
      | none => placed)
    db

/-- The committee under the elders, its posts inside it. -/
def RoleDb.placeCommittee (committee : Role) (db : RoleDb) : RoleDb :=
  (db.place committee.id ((db.roleByKey "elder").map (·.id)) orderStep).placePosts
    (some committee.id)

/-- The holder that moves with a role: its leader, else the first one listed. -/
def RoleDb.incomingHolder (db : RoleDb) (sourceId : Nat) : Option UserRoleAssignment :=
  let holders := db.userRoleAssignments.filter fun a => a.roleId == sourceId
  (holders.find? fun a => a.kind == .leader).orElse fun _ => holders.head?

/-- Move one holder onto the post; a seat they already have there breaks the primary key. -/
def moveHolderOver (sourceId targetId : Nat) : Tx RoleDb Failure Unit := do
  let db ← get
  match db.incomingHolder sourceId with
  | none => pure ()
  | some incoming =>
    Tx.check (Tx.refuseWhen (db.Seated incoming.userId targetId) (.database .uniqueConstraint))
    modify (·.createSeats [⟨incoming.userId, targetId, .leader⟩])
    modify (·.deleteSeats fun a => a.userId == incoming.userId && a.roleId == sourceId)

/-- Move one hand-made role's contents onto the post that replaces it. -/
def carryOver (sourceId targetId : Nat) (moveHolder : Bool) : Tx RoleDb Failure Unit := do
  modify fun db => db.createRolePermissions targetId (db.permissionKeys sourceId)
  if moveHolder then moveHolderOver sourceId targetId else pure ()
  modify (·.rehangChildren sourceId (some targetId))
  modify (·.takeOffChart sourceId)

def Mapping.carry (mapping : Mapping) : Tx RoleDb Failure Unit :=
  carryOver mapping.source.id mapping.target.id (mapping.target.key != serviceCommitteeKey)

/-- Place the standard committee, carrying across whatever was built by hand. -/
def adoptServiceCommittee (choices : List AdoptionChoice) (actorPermissions : List String) :
    Tx RoleDb Failure Unit := do
  let db ← get
  let (committee, mappings) ← Tx.check (adoptChecks db choices actorPermissions)
  modify (·.placeCommittee committee)
  mappings.forM Mapping.carry
  modify syncServiceCommitteeMembers

/-! ## What a success says -/

section Success

variable {db db' : RoleDb} {choices : List AdoptionChoice} {actorPermissions : List String}
  {committee : Role} {mappings : List Mapping}

/-- What one holder's move writes, when it may be made. -/
def RoleDb.holderMoved (sourceId targetId : Nat) (db : RoleDb) : RoleDb :=
  match db.incomingHolder sourceId with
  | none => db
  | some incoming =>
    (db.createSeats [⟨incoming.userId, targetId, .leader⟩]).deleteSeats fun a =>
      a.userId == incoming.userId && a.roleId == sourceId

theorem moveHolderOver_ok {sourceId targetId : Nat}
    (h : (moveHolderOver sourceId targetId).exec db = (.ok (), db')) :
    db' = db.holderMoved sourceId targetId ∧
      ∀ incoming, db.incomingHolder sourceId = some incoming →
        ¬db.Seated incoming.userId targetId := by
  unfold moveHolderOver at h
  rw [Tx.exec_bind_get] at h
  unfold RoleDb.holderMoved
  cases hincoming : db.incomingHolder sourceId with
  | none =>
    simp only [hincoming, Tx.exec_pure, Prod.mk.injEq, true_and] at h
    exact ⟨h.symm, fun _ hnone => by cases hnone⟩
  | some incoming =>
    simp only [hincoming, Tx.exec_bind_check_ok, Tx.exists_unit, Tx.refuseWhen_ok,
      Tx.exec_bind_modify, Tx.exec_modify, Prod.mk.injEq, true_and] at h
    refine ⟨h.2.symm, ?_⟩
    intro a ha
    rw [← Option.some.inj ha]
    exact h.1

/-- The mapping moves a holder: everything but the committee itself. -/
def Mapping.movesHolder (mapping : Mapping) : Bool := mapping.target.key != serviceCommitteeKey

/-- What one mapping writes. -/
def RoleDb.carried (mapping : Mapping) (db : RoleDb) : RoleDb :=
  let granted := db.createRolePermissions mapping.target.id (db.permissionKeys mapping.source.id)
  let moved :=
    if mapping.movesHolder then granted.holderMoved mapping.source.id mapping.target.id
    else granted
  (moved.rehangChildren mapping.source.id (some mapping.target.id)).takeOffChart mapping.source.id

theorem carry_ok {mapping : Mapping} (h : mapping.carry.exec db = (.ok (), db')) :
    db' = db.carried mapping ∧
      (mapping.movesHolder = true → ∀ incoming, db.incomingHolder mapping.source.id = some incoming →
        ¬db.Seated incoming.userId mapping.target.id) := by
  unfold Mapping.carry carryOver at h
  unfold RoleDb.carried Mapping.movesHolder
  rw [Tx.exec_bind_modify] at h
  by_cases hmoves : (mapping.target.key != serviceCommitteeKey) = true
  · rw [if_pos hmoves, Tx.exec_bind_ok] at h
    obtain ⟨_, moved, hmoved, hrest⟩ := h
    obtain ⟨rfl, hfree⟩ := moveHolderOver_ok hmoved
    simp only [Tx.exec_bind_modify, Tx.exec_modify, Prod.mk.injEq, true_and] at hrest
    simp only [if_pos hmoves]
    exact ⟨hrest.symm, fun _ => hfree⟩
  · simp only [if_neg hmoves, Tx.exec_bind_modify, Tx.exec_modify, Prod.mk.injEq, true_and]
      at h
    simp only [if_neg hmoves]
    exact ⟨h.symm, fun hcontra => absurd hcontra hmoves⟩

theorem adoptServiceCommittee_ok
    (h : (adoptServiceCommittee choices actorPermissions).exec db = (.ok (), db')) :
    ∃ committee mappings carried,
      adoptChecks db choices actorPermissions = .ok (committee, mappings) ∧
      (mappings.forM Mapping.carry).exec (db.placeCommittee committee) = (.ok (), carried) ∧
      db' = syncServiceCommitteeMembers carried := by
  unfold adoptServiceCommittee at h
  simp only [Tx.exec_bind_get, Tx.exec_bind_check_ok, Tx.exec_bind_modify, Prod.exists] at h
  obtain ⟨committee, mappings, hchecks, hwrites⟩ := h
  rw [Tx.exec_bind_ok] at hwrites
  obtain ⟨_, carried, hcarried, hsync⟩ := hwrites
  simp only [Tx.exec_modify, Prod.mk.injEq, true_and] at hsync
  exact ⟨committee, mappings, carried, hchecks, hcarried, hsync.symm⟩

theorem resolveMapping_ok {postKey : String} {fromRoleId : Nat} {mapping : Mapping}
    (h : resolveMapping db postKey fromRoleId = .ok mapping) :
    mapping.target.key = postKey ∧ db.roleByKey mapping.target.key = some mapping.target ∧
      db.roleById mapping.source.id = some mapping.source ∧
      isAppointedRoleKey mapping.source.key = false := by
  unfold resolveMapping at h
  split at h
  · next target source htarget hsource =>
    split at h
    · cases h
    · next happointed =>
      rw [← Except.ok.inj h]
      have hkey := (RoleDb.roleByKey_mem htarget).2
      have hid := (RoleDb.roleById_mem hsource).2
      exact ⟨hkey, by rw [hkey]; exact htarget, by rw [hid]; exact hsource, by simpa using happointed⟩
  · cases h

/-- A mapping resolves to the post of its key and a role that is not appointed. -/
theorem resolveMappings_ok (h : resolveMappings db choices = .ok mappings) {mapping : Mapping}
    (hmem : mapping ∈ mappings) :
    ∃ choice ∈ choices, mapping.target.key = choice.postKey ∧
      db.roleByKey mapping.target.key = some mapping.target ∧ db.roleById mapping.source.id = some mapping.source ∧
      isAppointedRoleKey mapping.source.key = false := by
  induction choices generalizing mappings with
  | nil =>
    simp only [resolveMappings, Except.ok.injEq] at h
    rw [← h] at hmem
    exact absurd hmem List.not_mem_nil
  | cons choice choices ih =>
    unfold resolveMappings at h
    cases hfrom : choice.fromRoleId with
    | none =>
      simp only [hfrom] at h
      obtain ⟨c, hc, hspec⟩ := ih h hmem
      exact ⟨c, List.mem_cons_of_mem _ hc, hspec⟩
    | some fromRoleId =>
      simp only [hfrom, Tx.bind_eq_ok, pure, Except.pure, Except.ok.injEq] at h
      obtain ⟨first, hfirst, rest, hrest, rfl⟩ := h
      rcases List.mem_cons.mp hmem with rfl | hmem
      · exact ⟨choice, List.mem_cons_self, resolveMapping_ok hfirst⟩
      · obtain ⟨c, hc, hspec⟩ := ih hrest hmem
        exact ⟨c, List.mem_cons_of_mem _ hc, hspec⟩

/-- The targets are the chosen posts, in order. -/
theorem resolveMappings_keys (h : resolveMappings db choices = .ok mappings) :
    (mappings.map (·.target.key)).Sublist (choices.map (·.postKey)) := by
  induction choices generalizing mappings with
  | nil =>
    simp only [resolveMappings, Except.ok.injEq] at h
    rw [← h]
    exact List.Sublist.refl _
  | cons choice choices ih =>
    unfold resolveMappings at h
    cases hfrom : choice.fromRoleId with
    | none =>
      simp only [hfrom] at h
      exact (ih h).cons _
    | some fromRoleId =>
      simp only [hfrom, Tx.bind_eq_ok, pure, Except.pure, Except.ok.injEq] at h
      obtain ⟨first, hfirst, rest, hrest, rfl⟩ := h
      rw [List.map_cons, List.map_cons, (resolveMapping_ok hfirst).1]
      exact (ih hrest).cons_cons _

/-- Every chosen post is an appointed role, chosen once. -/
theorem choiceChecks_ok {seenPosts : List String} {u : Unit}
    (h : choiceChecks seenPosts choices = .ok u) :
    (∀ c ∈ choices, isAppointedRoleKey c.postKey = true ∧ c.postKey ∉ seenPosts) ∧
      (choices.map (·.postKey)).Nodup := by
  induction choices generalizing seenPosts with
  | nil => exact ⟨fun c hc => absurd hc List.not_mem_nil, List.nodup_nil⟩
  | cons choice choices ih =>
    simp only [choiceChecks, Tx.bind_eq_ok, Tx.exists_unit, Tx.refuseWhen_ok,
      List.contains_eq_mem, decide_eq_true_eq] at h
    obtain ⟨happointed, hnew, hrest⟩ := h
    obtain ⟨hall, hnodup⟩ := ih hrest
    refine ⟨?_, ?_⟩
    · intro c hc
      rcases List.mem_cons.mp hc with rfl | hc
      · exact ⟨by simpa using happointed, hnew⟩
      · exact ⟨(hall c hc).1, fun hseen => (hall c hc).2 (List.mem_cons_of_mem _ hseen)⟩
    · rw [List.map_cons, List.nodup_cons]
      refine ⟨?_, hnodup⟩
      intro hmem
      obtain ⟨c, hc, hkey⟩ := List.mem_map.mp hmem
      exact (hall c hc).2 (hkey ▸ List.mem_cons_self)

/-- What an adoption that passes its checks is asked to do: the committee, not yet in the chart,
and for each mapping an appointed role, each taken over once, and the hand-made role it replaces. -/
structure AdoptionPlan (db : RoleDb) (choices : List AdoptionChoice) (committee : Role)
    (mappings : List Mapping) : Prop where
  found : db.roleByKey serviceCommitteeKey = some committee
  hidden : committee.showInOrganigram = false
  resolved : resolveMappings db choices = .ok mappings
  targets : ∀ m ∈ mappings, db.roleByKey m.target.key = some m.target
  appointed : ∀ m ∈ mappings, isAppointedRoleKey m.target.key = true
  sources : ∀ m ∈ mappings, db.roleById m.source.id = some m.source
  handMade : ∀ m ∈ mappings, isAppointedRoleKey m.source.key = false
  distinct : (mappings.map (·.target.key)).Nodup

theorem adoptChecks_ok (h : adoptChecks db choices actorPermissions = .ok (committee, mappings)) :
    AdoptionPlan db choices committee mappings := by
  unfold adoptChecks at h
  simp only [Tx.bind_eq_ok, Tx.exists_unit] at h
  obtain ⟨hchoices, h⟩ := h
  cases hcommittee : db.roleByKey serviceCommitteeKey with
  | none => simp [hcommittee] at h
  | some c =>
    simp only [hcommittee, Tx.bind_eq_ok, Tx.exists_unit, Tx.refuseWhen_ok, pure, Except.pure,
      Except.ok.injEq, Prod.mk.injEq] at h
    obtain ⟨hhidden, _, hmappings, _, rfl, rfl⟩ := h
    have hposts := choiceChecks_ok hchoices
    refine ⟨hcommittee, by simpa using hhidden, hmappings, ?_, ?_, ?_, ?_, ?_⟩
    · exact fun m hm => (resolveMappings_ok hmappings hm).choose_spec.2.2.1
    · intro m hm
      obtain ⟨choice, hchoice, hkey, _⟩ := resolveMappings_ok hmappings hm
      rw [hkey]
      exact (hposts.1 choice hchoice).1
    · exact fun m hm => (resolveMappings_ok hmappings hm).choose_spec.2.2.2.1
    · exact fun m hm => (resolveMappings_ok hmappings hm).choose_spec.2.2.2.2
    · exact hposts.2.sublist (resolveMappings_keys hmappings)

end Success

end Unitae.Roles
