import Unitae.Publishers.Members

/-!
# Unitae — field service groups

`group-leaders.server.ts`, `update-group.server.ts`, `publisher-group-mutations.server.ts` and
`group-members.server.ts`. Who leads a group is written on the group, who is in it on the member.
-/

namespace Unitae.Publishers

/-! ## Who may lead -/

/-- `GROUP_LEADER_WHERE`. -/
def Member.mayLead (m : Member) : Bool :=
  m.leftAt.isNone && m.anonymizedAt.isNone && m.isMale == some true && (m.isHelder || m.isServant)

structure GroupLeaders where
  responsibleId : Nat
  deputyId : Option Nat
  /-- The group being edited; absent when creating one. -/
  groupId : Option Nat
deriving DecidableEq, Repr

def samePerson : String :=
  "Le responsable de groupe et son adjoint ne peuvent pas être la même personne"

def notEligible : String :=
  "Ce frère ne peut pas être choisi : il doit être ancien ou assistant ministériel, et toujours " ++
    "dans l'assemblée"

def alreadyResponsible (name : String) : String := "Il est déjà responsable du groupe " ++ name

def alreadyDeputy (name : String) : String := "Il est déjà adjoint du groupe " ++ name

/-- Refuse the field whose member leads `led` already, unless that is the group being edited. -/
def refuseLeading (led : Option PublisherGroup) (groupId : Option Nat) (field : String)
    (message : String → String) : Except Failure Unit :=
  match led with
  | none => .ok ()
  | some group =>
    Tx.refuseWhen (some group.id ≠ groupId) (.app (.validation field (message group.name)))

/-- One turn of the loop: the member chosen for a field may lead, and leads no other group. -/
def assertLeader (db : MemberDb) (groupId : Option Nat) (field : String) (id : Nat) :
    Except Failure Unit := do
  Tx.refuseWhen (¬∃ m ∈ db.members, m.id = id ∧ m.mayLead = true)
    (.app (.validation field notEligible))
  refuseLeading (db.responsibleFor id) groupId field alreadyResponsible
  refuseLeading (db.deputyFor id) groupId field alreadyDeputy

def assertGroupLeaders (db : MemberDb) (leaders : GroupLeaders) : Except Failure Unit := do
  Tx.refuseWhen (leaders.deputyId = some leaders.responsibleId)
    (.app (.validation "deputy" samePerson))
  assertLeader db leaders.groupId "responsible" leaders.responsibleId
  match leaders.deputyId with
  | none => pure ()
  | some deputyId => assertLeader db leaders.groupId "deputy" deputyId

/-! ## Writing the leaders -/

structure UpdateGroupParams where
  name : String
  address : String
  responsibleId : Nat
  deputyId : Option Nat
deriving DecidableEq, Repr

def UpdateGroupParams.leaders (params : UpdateGroupParams) (groupId : Option Nat) : GroupLeaders :=
  ⟨params.responsibleId, params.deputyId, groupId⟩

/-- The row of the group: a form writes every column but the id. -/
def UpdateGroupParams.row (params : UpdateGroupParams) (id : Nat) : PublisherGroup where
  id := id
  name := params.name
  adress := params.address
  deputyId := params.deputyId
  responsibleId := params.responsibleId

/-- The unique keys `responsibleId` and `deputyId`, against the groups other than `groupId`. -/
def MemberDb.LeadersTaken (db : MemberDb) (params : UpdateGroupParams) (groupId : Option Nat) :
    Prop :=
  ∃ g ∈ db.groups, some g.id ≠ groupId ∧
    (g.responsibleId = params.responsibleId ∨ (g.deputyId.isSome ∧ g.deputyId = params.deputyId))

instance (db : MemberDb) (params : UpdateGroupParams) (groupId : Option Nat) :
    Decidable (db.LeadersTaken params groupId) :=
  inferInstanceAs (Decidable (∃ _ ∈ _, _))

/-- Move a group's overseer and deputy into it. -/
def joinLedGroup (rt : PersonText) (groupId : Nat) (params : UpdateGroupParams) :
    MemberTx Unit := do
  setGroup rt params.responsibleId (some groupId)
  match params.deputyId with
  | none => pure ()
  | some deputyId => setGroup rt deputyId (some groupId)

def createGroupChecks (db : MemberDb) (params : UpdateGroupParams) : Except Failure Unit := do
  assertGroupLeaders db (params.leaders none)
  Tx.refuseWhen (db.LeadersTaken params none) (.database .uniqueConstraint)

def createPublisherGroup (rt : PersonText) (params : UpdateGroupParams) :
    MemberTx PublisherGroup := do
  let db ← get
  Tx.check (createGroupChecks db params)
  modify (·.createGroup params.row)
  joinLedGroup rt db.nextGroupId params
  return params.row db.nextGroupId

def updateGroupChecks (db : MemberDb) (groupId : Nat) (params : UpdateGroupParams) :
    Except Failure Unit := do
  assertGroupLeaders db (params.leaders (some groupId))
  Tx.refuseWhen (db.groupById groupId = none) (.database .recordNotFound)
  Tx.refuseWhen (db.LeadersTaken params (some groupId)) (.database .uniqueConstraint)

def updateGroup (rt : PersonText) (groupId : Nat) (params : UpdateGroupParams) :
    MemberTx PublisherGroup := do
  let db ← get
  Tx.check (updateGroupChecks db groupId params)
  modify (·.updateGroups (·.id == groupId) fun g => params.row g.id)
  joinLedGroup rt groupId params
  return params.row groupId

def deletePublisherGroup (groupId : Nat) : MemberTx Unit := do
  let db ← get
  Tx.check (Tx.refuseWhen (db.groupById groupId = none) (.database .recordNotFound))
  modify (·.deleteGroup groupId)

/-! ## Members of a group -/

/-- The group and an active publisher, whose name is returned. -/
def addGroupMemberChecks (db : MemberDb) (groupId memberId : Nat) :
    Except Failure (String × String) :=
  let member := db.members.find? fun m => m.id == memberId && m.isPublisher && m.counts
  match db.groupById groupId, member with
  | some _, some member => .ok (member.firstname, member.lastname)
  | _, _ => .error (.app (.notFound "Member" (some memberId)))

def addGroupMember (rt : PersonText) (groupId memberId : Nat) : MemberTx (String × String) := do
  let db ← get
  let name ← Tx.check (addGroupMemberChecks db groupId memberId)
  setGroup rt memberId (some groupId)
  return name

def removeGroupMemberChecks (db : MemberDb) (groupId memberId : Nat) :
    Except Failure (String × String) :=
  match db.members.find? fun m => m.id == memberId && m.publisherGroupId == some groupId with
  | some member => .ok (member.firstname, member.lastname)
  | none => .error (.app (.notFound "Member" (some memberId)))

def removeGroupMember (rt : PersonText) (groupId memberId : Nat) :
    MemberTx (String × String) := do
  let db ← get
  let name ← Tx.check (removeGroupMemberChecks db groupId memberId)
  setGroup rt memberId none
  return name

end Unitae.Publishers
