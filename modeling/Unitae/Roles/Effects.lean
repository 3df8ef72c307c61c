import Unitae.Roles.Routes

/-!
# Unitae — what a request can write

One inversion for all the services of the role tables: a request that changes anything did one of
the writes of `Effect`, and what the constructor carries is what its checks established. Every
invariant of a run is a case analysis over it (`step_effect`).
-/

namespace Unitae.Roles

/-- The writes of a request on the state `db`, and the state each leaves. -/
inductive Effect (u : Unicode) (db : RoleDb) : Request → RoleDb → Prop where
  | seatMember {roleId memberId userId : Nat} {kind : SeatKind} {actor : List String} {role : Role}
      (hchecks : seatMemberChecks db roleId memberId kind actor = .ok (role, userId)) :
      Effect u db (.seatMember roleId memberId kind actor)
        ((db.placeSeat role userId (role.seatKindFor kind)).syncAfter role)
  | unseatMember {roleId memberId userId : Nat} {actor : List String} {role : Role}
      (hchecks : unseatMemberChecks db roleId memberId actor = .ok (role, userId)) :
      Effect u db (.unseatMember roleId memberId actor)
        ((db.deleteSeats fun a => a.userId == userId && a.roleId == role.id).syncAfter role)
  | addUserToRole {userId roleId : Nat} {actor : List String} {role : Role}
      (hrole : db.roleById roleId = some role) (hidentity : isIdentityRoleKey role.key = false)
      (hsingle : role.isSinglePerson = false) (hnew : ¬db.Seated userId role.id)
      (hchecks : addUserToRoleChecks db userId role actor = .ok true) :
      Effect u db (.addUserToRole userId roleId actor)
        (db.createSeats [⟨userId, role.id, .member⟩])
  | removeUserFromRole {userId roleId : Nat} {actor : List String} {role : Role}
      {existing : UserRoleAssignment} (hrole : db.roleById roleId = some role)
      (hseat : db.seat userId role.id = some existing) (hkind : existing.kind = .member)
      (hchecks : removeUserFromRoleChecks db userId role actor = .ok true) :
      Effect u db (.removeUserFromRole userId roleId actor)
        (db.deleteSeats fun a => a.userId == userId && a.roleId == role.id)
  | setUserCustomRoleAssignments {userId : Nat} {ids added removed : List Nat}
      {actor : List String} (hdiff : customRoleDiff db userId ids = (added, removed)) :
      Effect u db (.setUserCustomRoleAssignments userId ids actor)
        ((db.createSeats (added.map fun id => ⟨userId, id, .member⟩)).deleteSeats
          fun a => a.userId == userId && removed.contains a.roleId)
  | updateRolePermissions {roleId : Nat} {keys actor : List String} {role : Role}
      (hrole : db.roleById roleId = some role) :
      Effect u db (.updateRolePermissions roleId keys actor)
        (syncRolePermissions role.id (db.permissionKeys role.id) keys db)
  | createRole {params : CreateRoleParams} {name key : String}
      (hchecks : createRoleChecks u db params.name = .ok (name, key)) :
      Effect u db (.createRole params)
        (syncRolePermissions db.nextRoleId [] params.permissionKeys (db.createRole
          (newRole name key (trimDescription params.description) params.isSinglePerson)))
  | updateRoleIdentity {roleId : Nat} {name : Option String}
      {description : Option (Option String)} {role : Role}
      (hrole : db.roleById roleId = some role) :
      Effect u db (.updateRoleIdentity roleId name description)
        (db.updateRoles (·.id == role.id) (·.withIdentity name description))
  | deleteRole {roleId : Nat} {role : Role} (hrole : db.roleById roleId = some role)
      (hcustom : role.isBuiltIn = false)
      (hleaf : ∀ r ∈ db.roles, r.parentRoleId ≠ some role.id) :
      Effect u db (.deleteRole roleId) (db.deleteRole role.id)
  | addRoleToOrganigram {roleId : Nat} {parentRoleId : Option Nat} {role : Role}
      (hrole : db.roleById roleId = some role) (hshow : canShowInOrganigram role.key = true)
      (hpolicy : assertCanSetParent (db.setParentInput roleId role.key parentRoleId) = .ok ())
      (hparent : requireParentRow db parentRoleId = .ok ())
      (hok : (addRoleToOrganigram roleId parentRoleId).exec db
        = (.ok (), db.place roleId parentRoleId (db.nextOrderUnder parentRoleId))) :
      Effect u db (.addRoleToOrganigram roleId parentRoleId)
        (db.place roleId parentRoleId (db.nextOrderUnder parentRoleId))
  /-- The service is created, and its placement refused. -/
  | createService {name trimmedName key : String} {parentRoleId : Option Nat} {single : Bool}
      (hchecks : createRoleChecks u db name = .ok (trimmedName, key)) :
      Effect u db (.createServiceInOrganigram name parentRoleId single)
        (db.createRole (newRole trimmedName key none single))
  | createServiceInOrganigram {name trimmedName key : String} {parentRoleId : Option Nat}
      {single : Bool} (hchecks : createRoleChecks u db name = .ok (trimmedName, key))
      (hplace : placementChecks key (db.setParentInput db.nextRoleId key parentRoleId) = .ok ())
      (hparent : requireParentRow (db.createRole (newRole trimmedName key none single))
        parentRoleId = .ok ()) (order : Int) {id : Nat}
      (hok : (createServiceInOrganigram u name parentRoleId single).exec db = (.ok id,
        (db.createRole (newRole trimmedName key none single)).place db.nextRoleId parentRoleId
          order)) :
      Effect u db (.createServiceInOrganigram name parentRoleId single)
        ((db.createRole (newRole trimmedName key none single)).place db.nextRoleId parentRoleId
          order)
  | setRoleSinglePerson {roleId : Nat} {single : Bool} {role : Role}
      (hrole : db.roleById roleId = some role) (hcustom : role.isBuiltIn = false)
      (hleaders : role.isSinglePerson ≠ single → single = true →
        (db.leaders roleId).length ≤ 1)
      (hchecks : setRoleSinglePersonChecks db roleId single = .ok ()) :
      Effect u db (.setRoleSinglePerson roleId single)
        (db.updateRoles (·.id == roleId) fun r => { r with isSinglePerson := single })
  | removeRoleFromOrganigram {roleId : Nat} {role : Role}
      (hrole : db.roleById roleId = some role) (hleave : isAppointedRoleKey role.key = false) :
      Effect u db (.removeRoleFromOrganigram roleId)
        ((db.rehangChildren roleId role.parentRoleId).takeOffChart roleId)
  | setOrganigramParent {roleId : Nat} {parentRoleId : Option Nat} {role : Role}
      (hrole : db.roleById roleId = some role) (hshown : role.showInOrganigram = true)
      (hpolicy : assertCanSetParent (db.setParentInput roleId role.key parentRoleId) = .ok ())
      (hparent : requireParentRow db parentRoleId = .ok ())
      (hok : (setOrganigramParent roleId parentRoleId).exec db
        = (.ok (), db.hang roleId parentRoleId (db.nextOrderUnder parentRoleId))) :
      Effect u db (.setOrganigramParent roleId parentRoleId)
        (db.hang roleId parentRoleId (db.nextOrderUnder parentRoleId))
  | moveOrganigramNode {roleId : Nat} {direction : MoveDirection} (siblings : List Role) :
      Effect u db (.moveOrganigramNode roleId direction) (db.renumber siblings)
  | adoptServiceCommittee {choices : List AdoptionChoice} {actor : List String} {committee : Role}
      {mappings : List Mapping} {carried : RoleDb}
      (hchecks : adoptChecks db choices actor = .ok (committee, mappings))
      (hcarried : (mappings.forM Mapping.carry).exec (db.placeCommittee committee)
        = (.ok (), carried))
      (hok : (adoptServiceCommittee choices actor).exec db
        = (.ok (), syncServiceCommitteeMembers carried)) :
      Effect u db (.adoptServiceCommittee choices actor) (syncServiceCommitteeMembers carried)
  | updateAccount {userId : Nat} {params : UpdateAccountParams} {actor : List String}
      {existing : UserAccount}
      (hchecks : updateAccountChecks u db userId params actor = .ok existing) :
      Effect u db (.updateAccount userId params actor)
        (db.accountUpdated u userId existing params)
  | deleteAccount {accountId : Nat} (hchecks : deleteAccountChecks db accountId = .ok ()) :
      Effect u db (.deleteAccount accountId) (db.deleteAccount accountId)
  | anonymizeAccount {accountId : Nat} {uuid : String} {now : Int}
      (hchecks : anonymizeAccountChecks db accountId = .ok ()) :
      Effect u db (.anonymizeAccount accountId uuid now) 
        ((db.scrubAccount accountId uuid now).deleteSeats fun a => a.userId == accountId)
  | unlinkAccountFromMember {memberId : Nat} {account : UserAccount}
      (haccount : db.accountOfMember memberId = some account) :
      Effect u db (.unlinkAccountFromMember memberId) (db.deleteAccount account.id)
  | setLifecycle {memberId : Nat} {state : LifecycleState} {at_ : Option Int} {now : Int}
      {current : Member} (hmember : db.memberById memberId = some current)
      (hnew : current.isIn state = false) :
      Effect u db (.setLifecycle memberId state at_ now)
        (db.enterLifecycle memberId state (at_.getD now))

section Inversion

variable {u : Unicode} {db db' : RoleDb} {request : Request}

/-- Creating and placing a service, as one success. -/
theorem createServiceInOrganigram_effect (hdb : db.Valid) {name : String}
    {parentRoleId : Option Nat} {single : Bool} {id : Nat}
    (h : (createServiceInOrganigram u name parentRoleId single).exec db = (.ok id, db')) :
    Effect u db (.createServiceInOrganigram name parentRoleId single) db' := by
  cases hchecks : createRoleChecks u db name with
  | error e =>
    rw [createServiceInOrganigram_error hchecks] at h
    cases h
  | ok created =>
    obtain ⟨trimmedName, key⟩ := created
    have hexec := h
    rw [createServiceInOrganigram_exec hdb hchecks rfl] at hexec
    split at hexec
    · cases hexec
    · next hplaced =>
      simp only [Tx.bind_eq_ok, Tx.exists_unit] at hplaced
      rw [Prod.mk.injEq] at hexec
      rw [← hexec.2] at h ⊢
      exact .createServiceInOrganigram hchecks hplaced.1 hplaced.2 _ h

/-- A service created and not placed is there all the same, when the refusal is one the route
catches. -/
theorem createService_step (hdb : db.Valid) {name : String} {parentRoleId : Option Nat}
    {single : Bool} :
    step u db (.createServiceInOrganigram name parentRoleId single) = db ∨
      Effect u db (.createServiceInOrganigram name parentRoleId single)
        (step u db (.createServiceInOrganigram name parentRoleId single)) := by
  have hrun : (Request.createServiceInOrganigram name parentRoleId single).run u =
      createServiceInOrganigram u name parentRoleId single >>= fun _ => pure () := rfl
  unfold step Tx.settle
  rw [hrun, Tx.exec_bind]
  cases hexec : (createServiceInOrganigram u name parentRoleId single).exec db with
  | mk outcome db' =>
    cases outcome with
    | ok id => exact .inr (createServiceInOrganigram_effect hdb hexec)
    | error e =>
      simp only
      split
      · -- committed all the same: nothing was written, or the role alone
        cases hchecks : createRoleChecks u db name with
        | error e₁ =>
          rw [createServiceInOrganigram_error hchecks, Prod.mk.injEq] at hexec
          exact .inl hexec.2.symm
        | ok created =>
          obtain ⟨trimmedName, key⟩ := created
          rw [createServiceInOrganigram_exec hdb hchecks rfl] at hexec
          split at hexec
          · rw [Prod.mk.injEq] at hexec
            rw [← hexec.2]
            exact .inr (.createService hchecks)
          · cases hexec
      · exact .inl rfl

/-- A service that succeeds left the state alone or made one of the writes. -/
theorem effect_of_ok (hdb : db.Valid) (h : (request.run u).exec db = (.ok (), db')) :
    db' = db ∨ Effect u db request db' := by
  cases request with
  | seatMember roleId memberId kind actor =>
    obtain ⟨role, userId, hchecks, rfl⟩ := seatMember_ok h
    exact .inr (.seatMember hchecks)
  | unseatMember roleId memberId actor =>
    obtain ⟨role, userId, hchecks, rfl⟩ := unseatMember_ok h
    exact .inr (.unseatMember hchecks)
  | addUserToRole userId roleId actor =>
    rcases addUserToRole_ok h with rfl | ⟨role, hrole, hidentity, hsingle, hnew, _, hchecks, rfl⟩
    · exact .inl rfl
    · exact .inr (.addUserToRole hrole hidentity hsingle hnew hchecks)
  | removeUserFromRole userId roleId actor =>
    rcases removeUserFromRole_ok h with
      ⟨_, rfl⟩ | ⟨role, existing, hrole, hseat, hkind, _, hchecks, rfl⟩
    · exact .inl rfl
    · exact .inr (.removeUserFromRole hrole hseat hkind hchecks)
  | setUserCustomRoleAssignments userId ids actor =>
    obtain ⟨added, removed, hdiff, _, rfl⟩ := setUserCustomRoleAssignments_ok h
    exact .inr (.setUserCustomRoleAssignments hdiff)
  | updateRolePermissions roleId keys actor =>
    rcases updateRolePermissions_ok h with ⟨_, rfl⟩ | ⟨role, hrole, _, rfl⟩
    · exact .inl rfl
    · exact .inr (.updateRolePermissions hrole)
  | createRole params =>
    obtain ⟨id, created, hcreate, hpure⟩ := Tx.exec_bind_ok.mp h
    obtain ⟨_, name, key, hchecks, rfl⟩ := createRole_ok hcreate
    rw [Tx.exec_pure, Prod.mk.injEq] at hpure
    rw [← hpure.2]
    exact .inr (.createRole hchecks)
  | updateRoleIdentity roleId name description =>
    rcases updateRoleIdentity_ok h with rfl | ⟨role, hrole, rfl⟩
    · exact .inl rfl
    · exact .inr (.updateRoleIdentity hrole)
  | deleteRole roleId =>
    rcases deleteRole_ok h with ⟨_, rfl⟩ | ⟨role, hrole, hcustom, hleaf, rfl⟩
    · exact .inl rfl
    · exact .inr (.deleteRole hrole hcustom hleaf)
  | addRoleToOrganigram roleId parentRoleId =>
    obtain ⟨role, hrole, hshow, hpolicy, hparent, rfl⟩ := addRoleToOrganigram_ok h
    exact .inr (.addRoleToOrganigram hrole hshow hpolicy hparent h)
  | createServiceInOrganigram name parentRoleId single =>
    obtain ⟨id, created, hcreate, hpure⟩ := Tx.exec_bind_ok.mp h
    rw [Tx.exec_pure, Prod.mk.injEq] at hpure
    rw [← hpure.2]
    exact .inr (createServiceInOrganigram_effect hdb hcreate)
  | setRoleSinglePerson roleId single =>
    obtain ⟨role, hrole, hcustom, hleaders, hchecks, rfl⟩ := setRoleSinglePerson_ok h
    exact .inr (.setRoleSinglePerson hrole hcustom hleaders hchecks)
  | removeRoleFromOrganigram roleId =>
    obtain ⟨role, hrole, hleave, rfl⟩ := removeRoleFromOrganigram_ok h
    exact .inr (.removeRoleFromOrganigram hrole hleave)
  | setOrganigramParent roleId parentRoleId =>
    obtain ⟨role, hrole, hshown, hpolicy, hparent, rfl⟩ := setOrganigramParent_ok h
    exact .inr (.setOrganigramParent hrole hshown hpolicy hparent h)
  | moveOrganigramNode roleId direction =>
    rcases moveOrganigramNode_ok h with rfl | ⟨siblings, rfl⟩
    · exact .inl rfl
    · exact .inr (.moveOrganigramNode siblings)
  | adoptServiceCommittee choices actor =>
    obtain ⟨committee, mappings, carried, hchecks, hcarried, rfl⟩ := adoptServiceCommittee_ok h
    exact .inr (.adoptServiceCommittee hchecks hcarried h)
  | updateAccount userId params actor =>
    obtain ⟨existing, hchecks, rfl⟩ := updateAccount_ok h
    exact .inr (.updateAccount hchecks)
  | deleteAccount accountId =>
    obtain ⟨hchecks, rfl⟩ := deleteAccount_ok h
    exact .inr (.deleteAccount hchecks)
  | anonymizeAccount accountId uuid now =>
    obtain ⟨hchecks, rfl⟩ := anonymizeAccount_ok h
    exact .inr (.anonymizeAccount hchecks)
  | unlinkAccountFromMember memberId =>
    rcases unlinkAccountFromMember_ok h with ⟨_, rfl⟩ | ⟨account, haccount, rfl⟩
    · exact .inl rfl
    · exact .inr (.unlinkAccountFromMember haccount)
  | setLifecycle memberId state at_ now =>
    rcases setLifecycle_ok h with ⟨_, rfl⟩ | ⟨current, hmember, hnew, rfl⟩
    · exact .inl rfl
    · exact .inr (.setLifecycle hmember hnew)

/-! ## A step of the system -/

theorem updateAccount_atomic {userId : Nat} {params : UpdateAccountParams} {actor : List String} :
    AtomicService (updateAccount u userId params actor) := by
  unfold updateAccount
  refine atomic_of_checks fun db existing => (Tx.silent_modify _).bind fun _ => ?_
  cases existing.memberId with
  | none => exact Tx.silent_pure _
  | some memberId => exact (Tx.silent_check refuseWhen_uncaught).bind fun _ => Tx.silent_modify _

theorem setLifecycle_atomic {memberId : Nat} {state : LifecycleState} {at_ : Option Int}
    {now : Int} : AtomicService (setLifecycle memberId state at_ now) := by
  unfold setLifecycle
  refine Tx.reads_get.bind_atomic fun db => ?_
  cases db.memberById memberId with
  | none => exact Tx.Reads.atomic fun _ => rfl
  | some current =>
    simp only
    split
    · exact (Tx.silent_pure _).atomic
    · exact (Tx.silent_modify _).atomic

/-- The request creates a service and then places it. -/
def Request.CreatesService : Request → Prop
  | .createServiceInOrganigram .. => True
  | _ => False

/-- Every other request is atomic. -/
theorem run_atomic (h : ¬request.CreatesService) : AtomicService (request.run u) := by
  cases request with
  | createServiceInOrganigram name parentRoleId single => exact absurd trivial h
  | seatMember roleId memberId kind actor => exact seatMember_atomic roleId memberId kind
  | unseatMember roleId memberId actor => exact unseatMember_atomic roleId memberId
  | addUserToRole userId roleId actor => exact addUserToRole_atomic userId roleId
  | removeUserFromRole userId roleId actor => exact removeUserFromRole_atomic userId roleId
  | setUserCustomRoleAssignments userId ids actor =>
    exact atomic_of_checks fun _ _ => Tx.silent_modify _
  | updateRolePermissions roleId keys actor => exact updateRolePermissions_atomic roleId keys
  | createRole params => exact (createRole_atomic u params).bind_silent fun _ => Tx.silent_pure _
  | updateRoleIdentity roleId name description =>
    exact updateRoleIdentity_atomic roleId name description
  | deleteRole roleId => exact deleteRole_atomic roleId
  | addRoleToOrganigram roleId parentRoleId => exact addRoleToOrganigram_atomic roleId parentRoleId
  | setRoleSinglePerson roleId single => exact setRoleSinglePerson_atomic roleId single
  | removeRoleFromOrganigram roleId => exact removeRoleFromOrganigram_atomic roleId
  | setOrganigramParent roleId parentRoleId => exact setOrganigramParent_atomic roleId parentRoleId
  | moveOrganigramNode roleId direction => exact moveOrganigramNode_atomic roleId direction
  | adoptServiceCommittee choices actor => exact adoptServiceCommittee_atomic choices
  | updateAccount userId params actor => exact updateAccount_atomic
  | deleteAccount accountId => exact atomic_of_checks fun _ _ => Tx.silent_modify _
  | anonymizeAccount accountId uuid now =>
    exact atomic_of_checks fun _ _ => (Tx.silent_modify _).bind fun _ => Tx.silent_modify _
  | unlinkAccountFromMember memberId => exact atomic_of_checks fun _ _ => Tx.silent_modify _
  | setLifecycle memberId state at_ now => exact setLifecycle_atomic

/-- **A step of the system** leaves the state alone or makes one of the writes. -/
theorem step_effect (u : Unicode) (hdb : db.Valid) (request : Request) :
    step u db request = db ∨ Effect u db request (step u db request) := by
  by_cases hcreates : request.CreatesService
  · cases request with
    | createServiceInOrganigram name parentRoleId single =>
      exact createService_step hdb
    | _ => exact absurd hcreates id
  · rcases (run_atomic (u := u) hcreates).settle_cases db with ⟨_, hok⟩ | hunchanged
    · exact effect_of_ok hdb hok
    · exact .inl hunchanged

end Inversion

end Unitae.Roles
