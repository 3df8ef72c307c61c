import Unitae.Publishers.Members
import Unitae.Territories.Attribution

/-!
# Unitae — who may be attributed a territory (`attribution-eligibility.policy.ts`)

A kind of territory may name the roles its publishers hold one of. The service asks for them when an
attribution is created and when its publisher changes; the picker of the form lists active publishers
alone, and among these asks the same. `picker_agrees_iff` says for which members the two agree.
-/

namespace Unitae.Territories

/-- A row of `TerritoryKind`, with its `allowedRoles`. -/
structure TerritoryKind where
  id : Nat
  key : TerritoryKindKey
  allowedRoleIds : List Nat
deriving DecidableEq, Repr

/-- The territories of a congregation and the people that work them. -/
structure AttributionDb where
  territory : TerritoryDb
  directory : Publishers.MemberDb
  kinds : List TerritoryKind
deriving DecidableEq, Repr

abbrev AttributionTx (α : Type) := Tx AttributionDb Failure α

/-- A transaction over the territories. -/
def inTerritory {α : Type} (x : TerritoryTx α) : AttributionTx α :=
  x.on AttributionDb.territory fun db territory => { db with territory := territory }

/-- A kind that has no row yet has no restriction. -/
def getKindAllowedRoleIds (db : AttributionDb) (kindKey : TerritoryKindKey) : List Nat :=
  match db.kinds.find? (·.key == kindKey) with
  | none => []
  | some kind => kind.allowedRoleIds

/-! ## Members with a role -/

/-- A role reaches a member directly or through the linked account. -/
def holdsAnyRole (db : Publishers.MemberDb) (roleIds : List Nat) (memberId : Nat) : Bool :=
  (db.memberRoleAssignments.any fun a => a.memberId == memberId && roleIds.contains a.roleId) ||
  db.accounts.any fun account => account.memberId == some memberId &&
    db.userRoleAssignments.any fun a => a.userId == account.id && roleIds.contains a.roleId

/-- `findMembersWithAnyRole`, over `membersWithAnyRoleFilter`: members who left hold none. -/
def findMembersWithAnyRole (db : Publishers.MemberDb) (roleIds : List Nat) : List Nat :=
  if roleIds = [] then []
  else (db.members.filter fun m => m.counts && holdsAnyRole db roleIds m.id).map (·.id)

/-! ## The service -/

def assertPublisherAllowedForKind (db : AttributionDb) (kindKey : TerritoryKindKey)
    (publisherId : Nat) : Except Failure Unit :=
  let allowedRoleIds := getKindAllowedRoleIds db kindKey
  if allowedRoleIds = [] then .ok ()
  else Tx.refuseWhen ((findMembersWithAnyRole db.directory allowedRoleIds).contains publisherId = false)
    (.app (.conflict "publisher_role_not_allowed"))

/-- What `createAttribution` asks before the aggregate does. -/
def createAttributionChecks (db : AttributionDb) (params : CreateAttributionParams) :
    Except Failure Unit :=
  match db.territory.territoryById params.territoryId with
  | none => .ok ()
  | some territory => assertPublisherAllowedForKind db territory.type params.publisherId

def createAttribution (tz : LocalTime) (params : CreateAttributionParams) : AttributionTx Unit := do
  let db ← get
  Tx.check (createAttributionChecks db params)
  inTerritory (assign tz params)

/-- Only a change of publisher is asked about; a missing attribution is the aggregate's to refuse. -/
def assertPublisherAllowedForAttribution (db : AttributionDb) (attributionId publisherId : Nat) :
    Except Failure Unit :=
  match db.territory.attributionById attributionId with
  | none => .ok ()
  | some attribution =>
    if attribution.publisherId = publisherId then .ok ()
    else match db.territory.territoryById attribution.territoryId with
      | none => .ok ()
      | some territory => assertPublisherAllowedForKind db territory.type publisherId

def updateAttribution (id : Nat) (params : UpdateAttributionParams) : AttributionTx Unit := do
  let db ← get
  Tx.check (assertPublisherAllowedForAttribution db id params.publisherId)
  inTerritory (update id params)

/-! ## The picker -/

/-- `isPublisher: true, leftAt: null`. -/
def activePublisher (m : Publishers.Member) : Bool := m.isPublisher && m.leftAt.isNone

/-- Surname, then first name. -/
def byName (a b : Publishers.Member) : Bool :=
  a.lastname < b.lastname || (a.lastname == b.lastname && a.firstname ≤ b.firstname)

def findAttributablePublishers (db : AttributionDb) (kindKey : TerritoryKindKey)
    (alwaysIncludeMemberId : Option Nat) : List Publishers.Member :=
  let publishers := (db.directory.members.filter activePublisher).mergeSort byName
  let allowedRoleIds := getKindAllowedRoleIds db kindKey
  if allowedRoleIds = [] then publishers
  else
    let eligibleIds :=
      findMembersWithAnyRole db.directory allowedRoleIds ++ alwaysIncludeMemberId.toList
    publishers.filter fun publisher => eligibleIds.contains publisher.id

/-! ## Where the two agree -/

/-- The kind is open, or the member is a current one that holds one of its roles. -/
def RoleAllowed (db : AttributionDb) (kindKey : TerritoryKindKey) (m : Publishers.Member) : Prop :=
  getKindAllowedRoleIds db kindKey = [] ∨
    m.counts = true ∧ holdsAnyRole db.directory (getKindAllowedRoleIds db kindKey) m.id = true

instance (db : AttributionDb) (kindKey : TerritoryKindKey) (m : Publishers.Member) :
    Decidable (RoleAllowed db kindKey m) := inferInstanceAs (Decidable (_ ∨ _))

section Agreement

variable {db : AttributionDb} {kindKey : TerritoryKindKey} {m : Publishers.Member} {roleIds : List Nat}

theorem mem_findMembersWithAnyRole {directory : Publishers.MemberDb}
    (hkeyed : Keyed Publishers.Member.id directory.members) (hm : m ∈ directory.members)
    (hroles : roleIds ≠ []) :
    m.id ∈ findMembersWithAnyRole directory roleIds ↔
      m.counts = true ∧ holdsAnyRole directory roleIds m.id = true := by
  unfold findMembersWithAnyRole
  rw [if_neg hroles, List.mem_map]
  constructor
  · intro ⟨m', hm', hid⟩
    obtain ⟨hmem, hheld⟩ := List.mem_filter.mp hm'
    rw [hkeyed.eq_of_key hmem hm hid, Bool.and_eq_true] at hheld
    exact hheld
  · intro hheld
    exact ⟨m, List.mem_filter.mpr ⟨hm, (Bool.and_eq_true _ _).mpr hheld⟩, rfl⟩

theorem assertPublisherAllowedForKind_ok (hkeyed : Keyed Publishers.Member.id db.directory.members)
    (hm : m ∈ db.directory.members) :
    assertPublisherAllowedForKind db kindKey m.id = .ok () ↔ RoleAllowed db kindKey m := by
  unfold assertPublisherAllowedForKind RoleAllowed
  by_cases hopen : getKindAllowedRoleIds db kindKey = []
  · rw [if_pos hopen]
    exact iff_of_true rfl (.inl hopen)
  · rw [if_neg hopen, Tx.refuseWhen_ok, Bool.not_eq_false, List.contains_iff_mem,
      mem_findMembersWithAnyRole hkeyed hm hopen]
    exact (or_iff_right hopen).symm

theorem mem_findAttributablePublishers (hkeyed : Keyed Publishers.Member.id db.directory.members)
    (hm : m ∈ db.directory.members) {alwaysIncludeMemberId : Option Nat} :
    m ∈ findAttributablePublishers db kindKey alwaysIncludeMemberId ↔
      activePublisher m = true ∧ (RoleAllowed db kindKey m ∨ alwaysIncludeMemberId = some m.id) := by
  have hroster : m ∈ (db.directory.members.filter activePublisher).mergeSort byName ↔
      activePublisher m = true := by
    rw [List.mem_mergeSort, List.mem_filter]
    exact and_iff_right hm
  unfold findAttributablePublishers
  by_cases hopen : getKindAllowedRoleIds db kindKey = []
  · rw [if_pos hopen, hroster]
    exact (and_iff_left (.inl (.inl hopen))).symm
  · rw [if_neg hopen, List.mem_filter, hroster, List.contains_iff_mem, List.mem_append,
      mem_findMembersWithAnyRole hkeyed hm hopen, Option.mem_toList, RoleAllowed, or_iff_right hopen]

/-- The service and the picker on one member: of the kind when an attribution is created, and of the
attribution's own publisher when one is edited. -/
structure PickerAgrees (db : AttributionDb) (kindKey : TerritoryKindKey) (m : Publishers.Member) :
    Prop where
  create : assertPublisherAllowedForKind db kindKey m.id = .ok () ↔
    m ∈ findAttributablePublishers db kindKey none
  keep : ∀ id attribution, db.territory.attributionById id = some attribution →
    attribution.publisherId = m.id → assertPublisherAllowedForAttribution db id m.id = .ok ()
  listed : activePublisher m = true → m ∈ findAttributablePublishers db kindKey (some m.id)

/-- Creating an attribution asks of the publisher what the kind of its territory asks. -/
theorem createAttributionChecks_eq {params : CreateAttributionParams} {territory : Territory}
    (h : db.territory.territoryById params.territoryId = some territory) :
    createAttributionChecks db params =
      assertPublisherAllowedForKind db territory.type params.publisherId := by
  rw [createAttributionChecks, h]

theorem keep_publisher {id : Nat} {attribution : Attribution}
    (h : db.territory.attributionById id = some attribution) :
    assertPublisherAllowedForAttribution db id attribution.publisherId = .ok () := by
  rw [assertPublisherAllowedForAttribution, h]
  exact if_pos rfl

/-- **The service and the picker agree** on a member exactly when the service does not let in, by role
or for want of one, somebody who is no active publisher. -/
theorem picker_agrees_iff (hkeyed : Keyed Publishers.Member.id db.directory.members)
    (hm : m ∈ db.directory.members) :
    (∀ params territory, db.territory.territoryById params.territoryId = some territory →
      territory.type = kindKey → params.publisherId = m.id →
        createAttributionChecks db params = assertPublisherAllowedForKind db kindKey m.id) ∧
    (PickerAgrees db kindKey m ↔ (RoleAllowed db kindKey m → activePublisher m = true)) := by
  have hservice : assertPublisherAllowedForKind db kindKey m.id = .ok () ↔ RoleAllowed db kindKey m :=
    assertPublisherAllowedForKind_ok hkeyed hm
  have hpicker : m ∈ findAttributablePublishers db kindKey none ↔
      activePublisher m = true ∧ RoleAllowed db kindKey m := by
    rw [mem_findAttributablePublishers hkeyed hm]
    simp
  constructor
  · intro params territory hterritory hkind hpublisher
    rw [createAttributionChecks_eq hterritory, hkind, hpublisher]
  · constructor
    · intro hagrees hallowed
      exact (hpicker.mp (hagrees.create.mp (hservice.mpr hallowed))).1
    · intro hactive
      refine ⟨?_, fun id attribution hfound hpublisher => ?_, fun hpublisher => ?_⟩
      · rw [hservice, hpicker]
        exact ⟨fun hallowed => ⟨hactive hallowed, hallowed⟩, fun hlisted => hlisted.2⟩
      · rw [← hpublisher]
        exact keep_publisher hfound
      · exact (mem_findAttributablePublishers hkeyed hm).mpr ⟨hpublisher, .inr rfl⟩

end Agreement

/-- An open kind, and Paul, a publisher who may have left. -/
def paulAndPhones (leftAt : Option Instant) : AttributionDb where
  territory :=
    { attributions := [], campaigns := [], territories := [⟨1, .phone⟩], members := [7], settings := []
      nextAttributionId := 1, nextCampaignId := 1 }
  directory :=
    { members := [{ Publishers.blankMember 7 with firstname := "Paul", isPublisher := true, leftAt := leftAt }]
      groups := [], otherGroupIds := [], enrolments := [], activity := [], roles := []
      memberRoleAssignments := [], accounts := [], userRoleAssignments := [], nextMemberId := 8
      nextGroupId := 1, nextEnrolmentId := 1 }
  kinds := []

theorem picker_agrees_paul :
    (∀ params territory, (paulAndPhones none).territory.territoryById params.territoryId = some territory →
      territory.type = .phone → params.publisherId = 7 →
        createAttributionChecks (paulAndPhones none) params =
          assertPublisherAllowedForKind (paulAndPhones none) .phone 7) ∧
    (PickerAgrees (paulAndPhones none) .phone
        { Publishers.blankMember 7 with firstname := "Paul", isPublisher := true } ↔
      (RoleAllowed (paulAndPhones none) .phone
          { Publishers.blankMember 7 with firstname := "Paul", isPublisher := true } →
        activePublisher { Publishers.blankMember 7 with firstname := "Paul", isPublisher := true } = true)) :=
  picker_agrees_iff (m := { Publishers.blankMember 7 with firstname := "Paul", isPublisher := true })
    (by decide) (by decide)

/-- A publisher who has left is let in by the service and not listed. -/
theorem left_publisher_accepted :
    createAttributionChecks (paulAndPhones (some 5)) ⟨7, 1, "2026-01-01", "", .phone, none⟩ = .ok () ∧
      findAttributablePublishers (paulAndPhones (some 5)) .phone none = [] := by
  decide +kernel

end Unitae.Territories
