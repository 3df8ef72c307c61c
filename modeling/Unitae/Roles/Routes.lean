import Unitae.Roles.Requests

/-!
# Unitae — what the role pages dispatch, and what a refusal leaves

The actions of `organigram.tsx`, `adopt-committee.tsx`, `role-list.tsx` and `edit-role.tsx` catch a
service's `AppError` inside the transaction callback, so nothing rolls back what the service wrote
before it refused. A service that checks first and writes last is `Atomic`; the one intent that is
two services in a row, creating a service and then placing it, is not.
-/

namespace Unitae.Roles

/-! ## The intents -/

inductive Intent where
  | add (roleId : Nat) (parentRoleId : Option Nat)
  | attach (roleId : Option Nat) (name : String) (parentRoleId : Option Nat) (singlePerson : Bool)
  | remove (roleId : Nat)
  | setParent (roleId : Nat) (parentRoleId : Option Nat)
  | move (roleId : Nat) (direction : MoveDirection)
  | seat (roleId memberId : Nat) (kind : SeatKind)
  | unseat (roleId memberId : Nat)
  | adopt (choices : List AdoptionChoice)
  | listAdd (memberId roleId : Nat)
  | listRemove (memberId roleId : Nat)
  | setSinglePerson (roleId : Nat) (isSinglePerson : Bool)
deriving DecidableEq, Repr

/-- The French wording of a key collision; other errors pass. -/
def serviceExists (name : String) : Failure → Failure
  | .app (.conflict _) =>
    .app (.conflict ("Un service nommé « " ++ name ++
      " » existe déjà. Choisissez-le dans la liste pour le rattacher."))
  | failure => failure

def chooseService : String := "Choisissez un service existant ou saisissez un nom."

/-- One form, two outcomes: a typed name creates, a picked service attaches. -/
def attachService (u : Unicode) (roleId : Option Nat) (name : String) (parentRoleId : Option Nat)
    (singlePerson : Bool) : Tx RoleDb Failure Unit :=
  if name ≠ "" then
    Tx.mapError (serviceExists name) do
      let _ ← createServiceInOrganigram u name parentRoleId singlePerson
  else
    match roleId with
    | some roleId => addRoleToOrganigram roleId parentRoleId
    | none => throw (.app (.validation "roleId" chooseService))

/-- The cell of the role matrix: a person without an account, or a role that is gone, is reported
and nothing is written. -/
def toggleRole (memberId roleId : Nat) (service : Nat → Tx RoleDb Failure Unit) :
    Tx RoleDb Failure Unit := do
  let db ← get
  match db.memberById memberId, db.accountOfMember memberId, db.roleById roleId with
  | some _, some account, some _ => service account.id
  | _, _, _ => pure ()

def Intent.dispatch (u : Unicode) (actor : List String) : Intent → Tx RoleDb Failure Unit
  | .add roleId parentRoleId => addRoleToOrganigram roleId parentRoleId
  | .attach roleId name parentRoleId single => attachService u roleId name parentRoleId single
  | .remove roleId => removeRoleFromOrganigram roleId
  | .setParent roleId parentRoleId => setOrganigramParent roleId parentRoleId
  | .move roleId direction => moveOrganigramNode roleId direction
  | .seat roleId memberId kind => seatMember roleId memberId kind actor
  | .unseat roleId memberId => unseatMember roleId memberId actor
  | .adopt choices => adoptServiceCommittee choices actor
  | .listAdd memberId roleId => toggleRole memberId roleId (addUserToRole · roleId actor)
  | .listRemove memberId roleId => toggleRole memberId roleId (removeUserFromRole · roleId actor)
  | .setSinglePerson roleId single => setRoleSinglePerson roleId single

/-! ## Services that check first are atomic -/

section Atomic

/-- A refusal the routes catch leaves the store as it was. -/
abbrev AtomicService {α : Type} (x : Tx RoleDb Failure α) : Prop :=
  Tx.Atomic Failure.Caught x

variable {α : Type} {actor : List String}

theorem refuseWhen_caught {c : Prop} {_ : Decidable c} {e : AppError} :
    Tx.Refuses Failure.Caught (Tx.refuseWhen c (.app e)) :=
  Tx.refuses_refuseWhen rfl

theorem refuseWhen_uncaught {c : Prop} {_ : Decidable c} {e : DatabaseError} :
    Tx.Refuses (fun e => ¬Failure.Caught e) (Tx.refuseWhen c (.database e)) :=
  Tx.refuses_refuseWhen Bool.false_ne_true

/-- One round of checks on the state read first, then a rest that cannot refuse. -/
theorem atomic_of_checks {β : Type} {chk : RoleDb → Except Failure α}
    {rest : RoleDb → α → Tx RoleDb Failure β}
    (hrest : ∀ db a, Tx.Silent Failure.Caught (rest db a)) :
    AtomicService (get >>= fun db => Tx.check (chk db) >>= rest db) :=
  Tx.reads_get.bind_atomic fun db => (Tx.reads_check _).bind_atomic fun a => (hrest db a).atomic

theorem seatMember_atomic (roleId memberId : Nat) (kind : SeatKind) :
    AtomicService (seatMember roleId memberId kind actor) := by
  unfold seatMember
  exact atomic_of_checks fun _ _ => Tx.silent_modify _

theorem unseatMember_atomic (roleId memberId : Nat) :
    AtomicService (unseatMember roleId memberId actor) := by
  unfold unseatMember
  exact atomic_of_checks fun _ _ => Tx.silent_modify _

theorem addUserToRole_atomic (userId roleId : Nat) :
    AtomicService (addUserToRole userId roleId actor) := by
  unfold addUserToRole
  refine Tx.reads_get.bind_atomic fun db => ?_
  cases db.roleById roleId with
  | none => exact (Tx.silent_pure _).atomic
  | some role => exact (Tx.reads_check _).bind_atomic fun _ => (Tx.silent_modify _).atomic

theorem removeUserFromRole_atomic (userId roleId : Nat) :
    AtomicService (removeUserFromRole userId roleId actor) := by
  unfold removeUserFromRole
  refine Tx.reads_get.bind_atomic fun db => ?_
  cases db.roleById roleId with
  | none => exact (Tx.silent_pure _).atomic
  | some role => exact (Tx.reads_check _).bind_atomic fun _ => (Tx.silent_modify _).atomic

theorem toggleRole_atomic (memberId roleId : Nat) {service : Nat → Tx RoleDb Failure Unit}
    (hservice : ∀ userId, AtomicService (service userId)) :
    AtomicService (toggleRole memberId roleId service) := by
  unfold toggleRole
  refine Tx.reads_get.bind_atomic fun db => ?_
  split
  · exact hservice _
  · exact (Tx.silent_pure _).atomic

theorem addRoleToOrganigram_atomic (roleId : Nat) (parentRoleId : Option Nat) :
    AtomicService (addRoleToOrganigram roleId parentRoleId) := by
  unfold addRoleToOrganigram
  exact atomic_of_checks fun _ _ => Tx.silent_modify _

theorem setRoleSinglePerson_atomic (roleId : Nat) (isSinglePerson : Bool) :
    AtomicService (setRoleSinglePerson roleId isSinglePerson) := by
  unfold setRoleSinglePerson
  exact atomic_of_checks fun _ _ => Tx.silent_modify _

theorem removeRoleFromOrganigram_atomic (roleId : Nat) :
    AtomicService (removeRoleFromOrganigram roleId) := by
  unfold removeRoleFromOrganigram
  exact atomic_of_checks fun _ _ => (Tx.silent_modify _).bind fun _ => Tx.silent_modify _

theorem setOrganigramParent_atomic (roleId : Nat) (parentRoleId : Option Nat) :
    AtomicService (setOrganigramParent roleId parentRoleId) := by
  unfold setOrganigramParent
  exact atomic_of_checks fun _ _ => Tx.silent_modify _

theorem moveOrganigramNode_atomic (roleId : Nat) (direction : MoveDirection) :
    AtomicService (moveOrganigramNode roleId direction) := by
  unfold moveOrganigramNode
  exact atomic_of_checks fun _ _ => Tx.silent_modify _

theorem createRole_atomic (u : Unicode) (params : CreateRoleParams) :
    AtomicService (createRole u params) := by
  unfold createRole
  exact atomic_of_checks fun _ _ => (Tx.silent_modify _).bind fun _ =>
    (Tx.silent_modify _).bind fun _ => Tx.silent_pure _

theorem updateRolePermissions_atomic (roleId : Nat) (keys : List String) :
    AtomicService (updateRolePermissions roleId keys actor) := by
  unfold updateRolePermissions
  refine Tx.reads_get.bind_atomic fun db => ?_
  cases db.roleById roleId with
  | none => exact (Tx.silent_pure _).atomic
  | some role => exact (Tx.reads_check _).bind_atomic fun _ => (Tx.silent_modify _).atomic

theorem updateRoleIdentity_atomic (roleId : Nat) (name : Option String)
    (description : Option (Option String)) :
    AtomicService (updateRoleIdentity roleId name description) := by
  unfold updateRoleIdentity
  refine Tx.reads_get.bind_atomic fun db => ?_
  cases db.roleById roleId with
  | none => exact (Tx.silent_pure _).atomic
  | some role => exact (Tx.reads_check _).bind_atomic fun _ => (Tx.silent_modify _).atomic

theorem deleteRole_atomic (roleId : Nat) : AtomicService (deleteRole roleId) := by
  unfold deleteRole
  refine Tx.reads_get.bind_atomic fun db => ?_
  cases db.roleById roleId with
  | none => exact (Tx.silent_pure _).atomic
  | some role => exact (Tx.reads_check _).bind_atomic fun _ => (Tx.silent_modify _).atomic

/-- Past its checks the adoption can only break a primary key, which is not an `AppError`. -/
theorem carry_silent (mapping : Mapping) :
    Tx.Silent Failure.Caught mapping.carry := by
  unfold Mapping.carry carryOver
  have hmove : Tx.Silent Failure.Caught
      (moveHolderOver mapping.source.id mapping.target.id) := by
    unfold moveHolderOver
    refine Tx.silent_get.bind fun db => ?_
    cases db.incomingHolder mapping.source.id with
    | none => exact Tx.silent_pure _
    | some incoming =>
      refine (Tx.silent_check refuseWhen_uncaught).bind fun _ => ?_
      exact (Tx.silent_modify _).bind fun _ => Tx.silent_modify _
  refine (Tx.silent_modify _).bind fun _ => ?_
  split
  · exact hmove.bind fun _ => (Tx.silent_modify _).bind fun _ => Tx.silent_modify _
  · exact (Tx.silent_pure _).bind fun _ => (Tx.silent_modify _).bind fun _ => Tx.silent_modify _

theorem adoptServiceCommittee_atomic (choices : List AdoptionChoice) :
    AtomicService (adoptServiceCommittee choices actor) := by
  unfold adoptServiceCommittee
  exact atomic_of_checks fun _ _ => (Tx.silent_modify _).bind fun _ =>
    (Tx.silent_forM carry_silent).bind fun _ => Tx.silent_modify _

end Atomic

/-! ## Creating a service and placing it -/

section CreateService

variable {u : Unicode} {db : RoleDb} {name trimmedName key : String} {parentRoleId : Option Nat}
  {isSinglePerson : Bool}

theorem syncRolePermissions_nil (roleId : Nat) (db : RoleDb) :
    syncRolePermissions roleId [] [] db = db := by
  simp [syncRolePermissions, keysNotIn, RoleDb.createRolePermissions, RoleDb.deleteRolePermissions]

theorem createRole_exec {params : CreateRoleParams} (hkeys : params.permissionKeys = [])
    (h : createRoleChecks u db params.name = .ok (trimmedName, key)) :
    (createRole u params).exec db = (.ok db.nextRoleId, db.createRole
      (newRole trimmedName key (trimDescription params.description) params.isSinglePerson)) := by
  unfold createRole
  rw [Tx.exec_bind_get, h, hkeys]
  simp only [Tx.exec_bind, Tx.exec_check, Tx.exec_modify, Tx.exec_pure, syncRolePermissions_nil]

/-- A role just created, off the chart, changes no link of the tree. -/
theorem treeLinks_createRole {description : Option String} :
    (db.createRole (newRole trimmedName key description isSinglePerson)).treeLinks = db.treeLinks := by
  simp [RoleDb.treeLinks, List.filter_append, newRole]

/-- The policy of the chart on a role of this key: may it appear, and may it appear there. -/
def placementChecks (key : String) (input : SetParentInput) : Except Failure Unit := do
  assertCanShowInOrganigram key
  assertCanSetParent input

/-- What `addRoleToOrganigram` checks on the role the request has just created. -/
theorem addChecks_createRole (hdb : db.Valid) {description : Option String} :
    addRoleToOrganigramChecks
        (db.createRole (newRole trimmedName key description isSinglePerson)) db.nextRoleId
        parentRoleId =
      (do
        placementChecks key (db.setParentInput db.nextRoleId key parentRoleId)
        requireParentRow (db.createRole (newRole trimmedName key description isSinglePerson))
          parentRoleId) := by
  have hfind : (db.createRole (newRole trimmedName key description isSinglePerson)).roleById
      db.nextRoleId = some (newRole trimmedName key description isSinglePerson db.nextRoleId) := by
    have hnone : db.roleById db.nextRoleId = none := by
      rw [RoleDb.roleById, List.find?_eq_none]
      intro r hr
      have hlt := hdb.roleIds_lt r hr
      simp only [beq_iff_eq]
      omega
    rw [RoleDb.roleById] at hnone ⊢
    rw [RoleDb.createRole_roles, List.find?_append, hnone]
    simp [newRole]
  unfold addRoleToOrganigramChecks placementChecks RoleDb.setParentInput
  rw [requireRole_ok.mpr hfind, treeLinks_createRole, bind_assoc]
  rfl

/-- The policy refuses with `AppError`s only. -/
theorem placementChecks_caught {input : SetParentInput} :
    Tx.Refuses Failure.Caught (placementChecks key input) := by
  unfold placementChecks assertCanShowInOrganigram assertCanSetParent
  refine refuseWhen_caught.bind fun _ => refuseWhen_caught.bind fun _ => ?_
  refine refuseWhen_caught.bind fun _ => refuseWhen_caught.bind fun _ => ?_
  exact refuseWhen_caught.bind fun _ => refuseWhen_caught

theorem requireParentRow_uncaught :
    Tx.Refuses (fun e => ¬Failure.Caught e) (requireParentRow db parentRoleId) := by
  unfold requireParentRow
  split
  · intro e he
    simp at he
  · exact refuseWhen_uncaught

/-- **Creating and placing a service**, once its role could be created: the role is there whether
or not it can be placed. -/
theorem createServiceInOrganigram_exec (hdb : db.Valid)
    (h : createRoleChecks u db name = .ok (trimmedName, key)) {db₁ : RoleDb}
    (hdb₁ : db₁ = db.createRole (newRole trimmedName key none isSinglePerson)) :
    (createServiceInOrganigram u name parentRoleId isSinglePerson).exec db =
      match (do
        placementChecks key (db.setParentInput db.nextRoleId key parentRoleId)
        requireParentRow db₁ parentRoleId) with
      | .error e => (.error e, db₁)
      | .ok _ => (.ok db.nextRoleId,
          db₁.place db.nextRoleId parentRoleId (db₁.nextOrderUnder parentRoleId)) := by
  subst hdb₁
  have hcreate : (createRole u ⟨name, none, [], isSinglePerson⟩).exec db =
      (.ok db.nextRoleId, db.createRole (newRole trimmedName key (trimDescription none)
        isSinglePerson)) := createRole_exec rfl h
  unfold createServiceInOrganigram addRoleToOrganigram
  rw [Tx.exec_bind, hcreate]
  simp only [trimDescription, Option.map_none, Option.filter_none]
  rw [Tx.exec_bind, Tx.exec_bind_get, Tx.exec_bind, Tx.exec_check, addChecks_createRole hdb]
  cases placementChecks key (db.setParentInput db.nextRoleId key parentRoleId) >>= fun _ =>
    requireParentRow (db.createRole (newRole trimmedName key none isSinglePerson)) parentRoleId with
  | error e => rfl
  | ok _ => rfl

end CreateService

/-! ## Refused requests -/

/-- The stored roles, permissions and role assignments. -/
def RoleDb.stored (db : RoleDb) :
    List Role × List RolePermission × List UserRoleAssignment × List MemberRoleAssignment :=
  (db.roles, db.rolePermissions, db.userRoleAssignments, db.memberRoleAssignments)

/-- The intent creates the service it then places. -/
def Intent.Creates : Intent → Prop
  | .attach _ name _ _ => name ≠ ""
  | _ => False

/-- When no refusal of the intent can follow a write: always, but for attaching a typed name. There
the role that can be created under the name must be one the policy lets stand where it is wanted. -/
def Intent.PlacesWhatItCreates (u : Unicode) (db : RoleDb) : Intent → Prop
  | .attach _ name parentRoleId _ =>
    name ≠ "" → ∀ trimmedName key, createRoleChecks u db name = .ok (trimmedName, key) →
      placementChecks key (db.setParentInput db.nextRoleId key parentRoleId) = .ok ()
  | _ => True

theorem placesWhatItCreates_of_not_creates {u : Unicode} {db : RoleDb} {intent : Intent}
    (h : ¬intent.Creates) : intent.PlacesWhatItCreates u db := by
  cases intent with
  | attach roleId name parentRoleId single => exact fun hname => absurd hname h
  | _ => trivial

/-- Every intent that does not create is one service, and atomic. -/
theorem dispatch_atomic (u : Unicode) (actor : List String) {intent : Intent}
    (h : ¬intent.Creates) : AtomicService (intent.dispatch u actor) := by
  cases intent with
  | add roleId parentRoleId => exact addRoleToOrganigram_atomic roleId parentRoleId
  | attach roleId name parentRoleId single =>
    show AtomicService (attachService u roleId name parentRoleId single)
    have hname : ¬name ≠ "" := h
    unfold attachService
    rw [if_neg hname]
    cases roleId with
    | some roleId => exact addRoleToOrganigram_atomic roleId parentRoleId
    | none =>
      intro db e db' hexec _
      rw [Tx.exec_throw, Prod.mk.injEq] at hexec
      exact hexec.2.symm
  | remove roleId => exact removeRoleFromOrganigram_atomic roleId
  | setParent roleId parentRoleId => exact setOrganigramParent_atomic roleId parentRoleId
  | move roleId direction => exact moveOrganigramNode_atomic roleId direction
  | seat roleId memberId kind => exact seatMember_atomic roleId memberId kind
  | unseat roleId memberId => exact unseatMember_atomic roleId memberId
  | adopt choices => exact adoptServiceCommittee_atomic choices
  | listAdd memberId roleId =>
    exact toggleRole_atomic memberId roleId fun userId => addUserToRole_atomic userId roleId
  | listRemove memberId roleId =>
    exact toggleRole_atomic memberId roleId fun userId => removeUserFromRole_atomic userId roleId
  | setSinglePerson roleId single => exact setRoleSinglePerson_atomic roleId single

/-- The route's wording of a refusal keeps its kind. -/
theorem serviceExists_app {name : String} {e₀ : Failure} {e : AppError}
    (h : serviceExists name e₀ = .app e) : e₀.Caught := by
  cases e₀ with
  | app e₀ => rfl
  | database e₀ => cases h
  | unexpected message => cases h

theorem exists_serviceExists {name : String} {e₀ : Failure} (h : e₀.Caught) :
    ∃ e, serviceExists name e₀ = .app e := by
  cases e₀ with
  | app e₀ => cases e₀ <;> exact ⟨_, rfl⟩
  | database e₀ => cases h
  | unexpected message => cases h

/-- How attaching a typed name is refused. -/
theorem attachService_error (u : Unicode) {db db' : RoleDb} {roleId parentRoleId : Option Nat}
    {name : String} {single : Bool} (hname : name ≠ "") {e : Failure} :
    (attachService u roleId name parentRoleId single).exec db = (.error e, db') ↔
      ∃ e₀, (createServiceInOrganigram u name parentRoleId single).exec db = (.error e₀, db') ∧
        serviceExists name e₀ = e := by
  unfold attachService
  rw [if_pos hname, Tx.exec_mapError, Tx.exec_bind]
  rcases (createServiceInOrganigram u name parentRoleId single).exec db with ⟨r, s⟩
  cases r with
  | ok id => simp
  | error e₀ =>
    simp only [Prod.mk.injEq, Except.error.injEq]
    constructor
    · rintro ⟨rfl, rfl⟩
      exact ⟨e₀, ⟨rfl, rfl⟩, rfl⟩
    · rintro ⟨e₁, ⟨rfl, rfl⟩, rfl⟩
      exact ⟨rfl, rfl⟩

/-- A name no role can be created under is refused before anything is written. -/
theorem createServiceInOrganigram_error {u : Unicode} {db : RoleDb} {name : String}
    {parentRoleId : Option Nat} {single : Bool} {e : Failure}
    (h : createRoleChecks u db name = .error e) :
    (createServiceInOrganigram u name parentRoleId single).exec db = (.error e, db) := by
  unfold createServiceInOrganigram createRole
  rw [Tx.exec_bind, Tx.exec_bind_get, Tx.exec_bind, Tx.exec_check, h]

/-- **When a refused request leaves the stored state untouched**: for every state and every intent,
exactly when the intent `PlacesWhatItCreates`. -/
theorem refused_stored_iff (u : Unicode) {db : RoleDb} (hdb : db.Valid) (actor : List String)
    (intent : Intent) :
    (∀ e db', (intent.dispatch u actor).exec db = (.error (.app e), db') → db'.stored = db.stored) ↔
      intent.PlacesWhatItCreates u db := by
  by_cases hcreates : intent.Creates
  · -- only a typed name creates
    cases intent with
    | attach roleId name parentRoleId single =>
      show (∀ e db', (attachService u roleId name parentRoleId single).exec db = _ → _) ↔ _
      simp only [attachService_error u hcreates]
      constructor
      · intro h _ trimmedName key hchecks
        cases hplace : placementChecks key (db.setParentInput db.nextRoleId key parentRoleId) with
        | ok _ => rfl
        | error e₀ =>
          -- the policy refuses after the role is written
          have hexec : (createServiceInOrganigram u name parentRoleId single).exec db =
              (.error e₀, db.createRole (newRole trimmedName key none single)) := by
            rw [createServiceInOrganigram_exec hdb hchecks rfl, hplace]
            rfl
          obtain ⟨e, he⟩ : ∃ e, serviceExists name e₀ = .app e :=
            exists_serviceExists (placementChecks_caught e₀ hplace)
          have hstored := h e _ ⟨e₀, hexec, he⟩
          have hroles := congrArg (fun s => s.1.length) hstored
          simp [RoleDb.stored] at hroles
      · rintro hplaces e db' ⟨e₀, hexec, he⟩
        have hcaught := serviceExists_app he
        cases hchecks : createRoleChecks u db name with
        | error e₁ =>
          rw [createServiceInOrganigram_error hchecks, Prod.mk.injEq] at hexec
          rw [← hexec.2]
        | ok created =>
          obtain ⟨trimmedName, key⟩ := created
          rw [createServiceInOrganigram_exec hdb hchecks rfl,
            hplaces hcreates trimmedName key hchecks] at hexec
          -- placed where the policy allows: what is left to refuse is the foreign key
          cases hparent : requireParentRow
              (db.createRole (newRole trimmedName key none single)) parentRoleId with
          | ok _ =>
            simp [bind, Except.bind, hparent] at hexec
          | error e₁ =>
            simp only [bind, Except.bind, hparent, Prod.mk.injEq, Except.error.injEq] at hexec
            rw [← hexec.1] at hcaught
            exact absurd hcaught (requireParentRow_uncaught e₁ hparent)
    | _ => exact absurd hcreates id
  · refine iff_of_true ?_ (placesWhatItCreates_of_not_creates hcreates)
    intro e db' hexec
    rw [dispatch_atomic u actor hcreates db (.app e) db' hexec rfl]

/-- A chart with its elders at the top. -/
def elderChart : RoleDb where
  roles := [{ builtInRole "elder" 1 with showInOrganigram := true, organigramOrder := some 5 }]
  rolePermissions := []
  userRoleAssignments := []
  memberRoleAssignments := []
  accounts := []
  members := []
  permissions := []
  nextRoleId := 2

/-- Attaching « sono » at the top is refused, a service needs a parent, and leaves the role « sono »
behind. -/
theorem refused_attach_writes :
    elderChart.Valid ∧
      ∃ e db', ((Intent.attach none "sono" none false).dispatch .lowerAscii []).exec elderChart
          = (.error (.app e), db') ∧ db'.stored ≠ elderChart.stored :=
  ⟨by decide, _, _, rfl, by decide⟩

/-- Under the elders the same name is placed. -/
theorem refused_stored_iff_attach :
    (∀ e db', ((Intent.attach none "sono" (some 1) false).dispatch .lowerAscii []).exec elderChart
        = (.error (.app e), db') → db'.stored = elderChart.stored) ↔
      (Intent.attach none "sono" (some 1) false).PlacesWhatItCreates .lowerAscii elderChart :=
  refused_stored_iff .lowerAscii (by decide) [] (.attach none "sono" (some 1) false)

end Unitae.Roles
