import Unitae.Base.Calendar
import Unitae.Roles.BuiltInRoles
import Unitae.Roles.GrantLimits
import Unitae.Text

/-!
# Unitae — accounts and the member's lifecycle

The services outside the chart that decide who can sign in with what: `update-account.server.ts`,
`delete-account.server.ts`, `anonymize-account.server.ts`, `unlink-account-from-member.server.ts`,
and `setLifecycle` of `member.aggregate.ts`.
-/

namespace Unitae.Roles

/-! ## updateAccount -/

structure UpdateAccountParams where
  firstname : String
  lastname : String
  email : String
  active : Bool
deriving DecidableEq, Repr

/-- `memberAggregate.updateAccountName`: the linked member carries the name. -/
def updateAccountName (memberId : Nat) (firstname lastname : String) (db : RoleDb) : RoleDb :=
  syncBuiltInRoleAssignments memberId
    (db.updateMember memberId fun m => { m with firstname := firstname, lastname := lastname })

/-- The account to update. The unique key of the e-mail and the row's existence are Postgres's
checks; the others come first. -/
def updateAccountChecks (u : Unicode) (db : RoleDb) (userId : Nat) (params : UpdateAccountParams)
    (actorPermissions : List String) : Except Failure UserAccount := do
  assertMayChangeAccountAccess db userId actorPermissions
  let existing := db.accountById userId
  Tx.checkWhen (params.active = false ∧ existing.map (·.active) ≠ some false)
    (requireNotLastAdmin db userId)
  match existing with
  | none => .error (.database .recordNotFound)
  | some account =>
    Tx.refuseWhen
      (∃ other ∈ db.accounts, other.id ≠ userId ∧ other.email = u.toLowerCase params.email)
      (.database .uniqueConstraint)
    return account

/-- The account row after the update; a linked member carries the name instead. -/
def RoleDb.writeAccount (u : Unicode) (userId : Nat) (existing : UserAccount)
    (params : UpdateAccountParams) (db : RoleDb) : RoleDb :=
  db.updateAccount userId fun acc =>
    { acc with
      firstname := if existing.memberId.isSome then none else some params.firstname
      lastname := if existing.memberId.isSome then none else some params.lastname
      email := u.toLowerCase params.email
      active := params.active }

def updateAccount (u : Unicode) (userId : Nat) (params : UpdateAccountParams)
    (actorPermissions : List String) : Tx RoleDb Failure Unit := do
  let db ← get
  let existing ← Tx.check (updateAccountChecks u db userId params actorPermissions)
  modify (·.writeAccount u userId existing params)
  match existing.memberId with
  | none => pure ()
  | some memberId =>
    Tx.check (Tx.refuseWhen (db.memberById memberId = none) (.database .recordNotFound))
    modify (updateAccountName memberId params.firstname params.lastname)

/-! ## Removing a login -/

def deleteAccountChecks (db : RoleDb) (accountId : Nat) : Except Failure Unit := do
  Tx.refuseWhen (db.accountById accountId = none) (.app (.notFound "UserAccount" none))
  requireNotLastAdmin db accountId

def deleteAccount (accountId : Nat) : Tx RoleDb Failure Unit := do
  let db ← get
  Tx.check (deleteAccountChecks db accountId)
  modify (·.deleteAccount accountId)

def anonymizeAccountChecks (db : RoleDb) (accountId : Nat) : Except Failure Unit := do
  match db.accountById accountId with
  | none => .error (.app (.notFound "UserAccount" none))
  | some account =>
    Tx.refuseWhen account.anonymizedAt.isSome (.app (.conflict "Account already anonymized"))
    requireNotLastAdmin db accountId

/-- The account row with nothing personal left; `uuid` and `now` are what the runtime supplies. -/
def RoleDb.scrubAccount (accountId : Nat) (uuid : String) (now : Int) (db : RoleDb) : RoleDb :=
  db.updateAccount accountId fun acc =>
    { acc with
      firstname := none
      lastname := none
      email := "deleted-" ++ uuid ++ "@anonymized.local"
      active := false
      anonymizedAt := some now }

/-- Scrub the account and strip its roles. -/
def anonymizeAccount (accountId : Nat) (uuid : String) (now : Int) : Tx RoleDb Failure Unit := do
  let db ← get
  Tx.check (anonymizeAccountChecks db accountId)
  modify (·.scrubAccount accountId uuid now)
  modify (·.deleteSeats fun a => a.userId == accountId)

/-- Remove the login from a member: the account and, with it, its seats. -/
def unlinkAccountFromMember (memberId : Nat) : Tx RoleDb Failure Unit := do
  let db ← get
  Tx.check (Tx.refuseWhen (db.memberById memberId = none) (.app (.notFound "Member" none)))
  modify fun db =>
    match db.accountOfMember memberId with
    | none => db
    | some account => db.deleteAccount account.id

/-! ## setLifecycle -/

inductive LifecycleState where
  | left
  | returned
  | active
  | inactive
deriving DecidableEq, Repr

/-- A member away for more than a year comes back as an arrival, from the return date. -/
def arrivalOnReturn (leftAt : Option Int) (returnedOn : Int) : Option Int :=
  match leftAt with
  | none => none
  | some leftAt =>
    let day := Calendar.dayOf returnedOn
    let (year, month, date) := Calendar.civilFromDays (Calendar.dayOf leftAt)
    if day > Calendar.daysFromCivil (year + 1) month date then some (day * Calendar.msPerDay)
    else none

/-- The member is in the state already (`LIFECYCLE_MUTATION[state].field`). -/
def Member.isIn (m : Member) : LifecycleState → Bool
  | .left => m.leftAt.isSome
  | .returned => m.leftAt.isNone
  | .inactive => m.inactiveAt.isSome
  | .active => m.inactiveAt.isNone

/-- The columns the transition writes, at the instant `date`. -/
def Member.enter (m : Member) (state : LifecycleState) (date : Int) : Member :=
  match state with
  | .left => { m with leftAt := some date }
  | .returned =>
    { m with leftAt := none, arrivedAt := (arrivalOnReturn m.leftAt date).orElse fun _ => m.arrivedAt }
  | .inactive => { m with inactiveAt := some date }
  | .active => { m with inactiveAt := none }

/-- Only leaving and returning change the identity roles. -/
def LifecycleState.syncsRoles : LifecycleState → Bool
  | .left => true
  | .returned => true
  | .active => false
  | .inactive => false

/-- What the transition writes: the member, the identity roles, and for a member who leaves the
seats of the account. -/
def RoleDb.enterLifecycle (memberId : Nat) (state : LifecycleState) (date : Int) (db : RoleDb) :
    RoleDb :=
  let updated := db.updateMember memberId fun m => m.enter state date
  let synced := if state.syncsRoles then syncBuiltInRoleAssignments memberId updated else updated
  match state, db.accountOfMember memberId with
  | .left, some account => synced.deleteSeats fun a => a.userId == account.id
  | _, _ => synced

def setLifecycle (memberId : Nat) (state : LifecycleState) (at_ : Option Int) (now : Int) :
    Tx RoleDb Failure Unit := do
  let db ← get
  match db.memberById memberId with
  | none => throw (.app (.notFound "Member" none))
  | some current =>
    if current.isIn state then pure ()
    else modify (·.enterLifecycle memberId state (at_.getD now))

/-! ## What a success says -/

section Success

variable {u : Unicode} {db db' : RoleDb} {accountId memberId : Nat}

/-- What a successful update writes: the account, and the name of a linked member. -/
def RoleDb.accountUpdated (u : Unicode) (userId : Nat) (existing : UserAccount)
    (params : UpdateAccountParams) (db : RoleDb) : RoleDb :=
  match existing.memberId with
  | none => db.writeAccount u userId existing params
  | some memberId => updateAccountName memberId params.firstname params.lastname
      (db.writeAccount u userId existing params)

theorem updateAccount_ok {params : UpdateAccountParams} {actorPermissions : List String}
    (h : (updateAccount u accountId params actorPermissions).exec db = (.ok (), db')) :
    ∃ existing, updateAccountChecks u db accountId params actorPermissions = .ok existing ∧
      db' = db.accountUpdated u accountId existing params := by
  unfold updateAccount at h
  rw [Tx.exec_bind_get, Tx.exec_bind_check_ok] at h
  obtain ⟨existing, hchecks, h⟩ := h
  rw [Tx.exec_bind_modify] at h
  refine ⟨existing, hchecks, ?_⟩
  unfold RoleDb.accountUpdated
  cases hmember : existing.memberId with
  | none =>
    simp only [hmember, Tx.exec_pure, Prod.mk.injEq, true_and] at h
    exact h.symm
  | some memberId =>
    simp only [hmember, Tx.exec_bind_check_ok, Tx.exists_unit, Tx.exec_modify, Prod.mk.injEq,
      true_and] at h
    exact h.2.symm

theorem updateAccountChecks_ok {params : UpdateAccountParams} {actorPermissions : List String}
    {existing : UserAccount}
    (h : updateAccountChecks u db accountId params actorPermissions = .ok existing) :
    db.accountById accountId = some existing := by
  unfold updateAccountChecks at h
  simp only [Tx.bind_eq_ok, Tx.exists_unit, Tx.checkWhen_ok] at h
  obtain ⟨_, _, h⟩ := h
  cases haccount : db.accountById accountId with
  | none => simp [haccount] at h
  | some account =>
    simp only [haccount, Tx.bind_eq_ok, Tx.exists_unit, pure, Except.pure, Except.ok.injEq] at h
    rw [h.2]

theorem deleteAccount_ok (h : (deleteAccount accountId).exec db = (.ok (), db')) :
    deleteAccountChecks db accountId = .ok () ∧ db' = db.deleteAccount accountId := by
  unfold deleteAccount at h
  simp only [Tx.exec_bind_get, Tx.exec_bind_check_ok, Tx.exists_unit, Tx.exec_modify,
    Prod.mk.injEq, true_and] at h
  exact ⟨h.1, h.2.symm⟩

theorem anonymizeAccount_ok {uuid : String} {now : Int}
    (h : (anonymizeAccount accountId uuid now).exec db = (.ok (), db')) :
    anonymizeAccountChecks db accountId = .ok () ∧
      db' = (db.scrubAccount accountId uuid now).deleteSeats fun a => a.userId == accountId := by
  unfold anonymizeAccount at h
  simp only [Tx.exec_bind_get, Tx.exec_bind_check_ok, Tx.exists_unit, Tx.exec_bind_modify,
    Tx.exec_modify, Prod.mk.injEq, true_and] at h
  exact ⟨h.1, h.2.symm⟩

theorem unlinkAccountFromMember_ok
    (h : (unlinkAccountFromMember memberId).exec db = (.ok (), db')) :
    (db.accountOfMember memberId = none ∧ db' = db) ∨ ∃ account, db.accountOfMember memberId = some account ∧
      db' = db.deleteAccount account.id := by
  unfold unlinkAccountFromMember at h
  simp only [Tx.exec_bind_get, Tx.exec_bind_check_ok, Tx.exists_unit, Tx.exec_modify,
    Prod.mk.injEq, true_and] at h
  obtain ⟨_, rfl⟩ := h
  cases haccount : db.accountOfMember memberId with
  | none => exact .inl ⟨rfl, rfl⟩
  | some account => exact .inr ⟨account, rfl, rfl⟩

theorem setLifecycle_ok {state : LifecycleState} {at_ : Option Int} {now : Int}
    (h : (setLifecycle memberId state at_ now).exec db = (.ok (), db')) :
    ((∀ current, db.memberById memberId = some current → current.isIn state = true) ∧ db' = db) ∨
      ∃ current, db.memberById memberId = some current ∧ current.isIn state = false ∧
      db' = db.enterLifecycle memberId state (at_.getD now) := by
  unfold setLifecycle at h
  rw [Tx.exec_bind_get] at h
  cases hmember : db.memberById memberId with
  | none => simp [hmember] at h
  | some current =>
    simp only [hmember] at h
    split at h
    · next hin =>
      simp only [Tx.exec_pure, Prod.mk.injEq, true_and] at h
      refine .inl ⟨fun current' hsome => ?_, h.symm⟩
      rw [← Option.some.inj hsome]
      exact hin
    · next hnew =>
      simp only [Tx.exec_modify, Prod.mk.injEq, true_and] at h
      exact .inr ⟨current, rfl, by simpa using hnew, h.symm⟩

end Success

/-! ## What the writes leave alone -/

section Frames

theorem updateAccountName_frame (memberId : Nat) (firstname lastname : String) (db : RoleDb) :
    ∃ members rows, updateAccountName memberId firstname lastname db =
      { db with members := members, memberRoleAssignments := rows } := by
  obtain ⟨rows, hsync⟩ := syncBuiltInRoleAssignments_frame memberId
    (db.updateMember memberId fun m => { m with firstname := firstname, lastname := lastname })
  exact ⟨_, rows, hsync⟩

theorem accountUpdated_frame (u : Unicode) (userId : Nat) (existing : UserAccount)
    (params : UpdateAccountParams) (db : RoleDb) :
    ∃ accounts members rows, db.accountUpdated u userId existing params =
      { db with accounts := accounts, members := members, memberRoleAssignments := rows } := by
  unfold RoleDb.accountUpdated
  split
  · exact ⟨_, db.members, db.memberRoleAssignments, rfl⟩
  · obtain ⟨members, rows, hname⟩ := updateAccountName_frame _ params.firstname params.lastname
      (db.writeAccount u userId existing params)
    exact ⟨_, members, rows, hname⟩

/-- A transition writes the member and the identity roles, and may remove seats. -/
theorem enterLifecycle_frame (memberId : Nat) (state : LifecycleState) (date : Int) (db : RoleDb) :
    ∃ members rows kept, db.enterLifecycle memberId state date =
      { db with
        members := members
        memberRoleAssignments := rows
        userRoleAssignments := db.userRoleAssignments.filter kept } := by
  have hsynced : ∃ members rows, (if state.syncsRoles then
        syncBuiltInRoleAssignments memberId (db.updateMember memberId fun m => m.enter state date)
      else db.updateMember memberId fun m => m.enter state date) =
        { db with members := members, memberRoleAssignments := rows } := by
    split
    · obtain ⟨rows, hsync⟩ := syncBuiltInRoleAssignments_frame memberId
        (db.updateMember memberId fun m => m.enter state date)
      exact ⟨_, rows, hsync⟩
    · exact ⟨_, db.memberRoleAssignments, rfl⟩
  obtain ⟨members, rows, hsynced⟩ := hsynced
  unfold RoleDb.enterLifecycle
  simp only [hsynced]
  split
  · exact ⟨members, rows, _, rfl⟩
  · exact ⟨members, rows, fun _ => true, by rw [List.filter_true]⟩

end Frames

end Unitae.Roles
