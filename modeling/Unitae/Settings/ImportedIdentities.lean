import Unitae.Publishers.IdentityMirror
import Unitae.Settings.ImportCongregation

/-!
# Unitae — what an import leaves of the identity roles

The importer syncs a member when it creates the member, before any stint of the member is there; what it writes
afterwards it does not sync. So the import mirrors the facts of a member just when they make no pioneer of one who may
be one, and leaves identity roles off the accounts when no archived seat is in one.
-/

namespace Unitae.Settings

open Publishers

/-! ## Lines -/

/-- The line that an archived id stands for: the last one that has it. -/
def lineOf {α : Type} (id : α → Int) (lines : List α) (oldId : Int) : Option α :=
  lines.reverse.find? fun line => id line == oldId

theorem lineOf_append {α : Type} {id : α → Int} {lines : List α} {line : α} {oldId : Int} :
    lineOf id (lines ++ [line]) oldId = if id line = oldId then some line else lineOf id lines oldId := by
  unfold lineOf
  rw [List.reverse_append, List.reverse_singleton, List.singleton_append, List.find?_cons]
  by_cases hsame : id line = oldId
  · rw [if_pos hsame, beq_iff_eq.mpr hsame]
  · rw [if_neg hsame, beq_eq_false_iff_ne.mpr hsame]

/-- What a map finds after an entry is made: that one, or what it found before. -/
theorem find_set_some {m : EntityIdMap} {entity : EntityFile} {oldId oldId' : Int} {newId p : Nat}
    (h : (m.set entity oldId newId).find entity oldId' = some p) :
    oldId = oldId' ∧ newId = p ∨ oldId ≠ oldId' ∧ m.find entity oldId' = some p := by
  rw [EntityIdMap.find_set] at h
  split at h
  · next hsame => exact .inl ⟨hsame.2, Option.some.inj h⟩
  · next hother => exact .inr ⟨fun hsame => hother ⟨rfl, hsame⟩, h⟩

/-! ## Roles -/

/-- Every identity role is there. -/
def Seeded (roles : List Roles.Role) : Prop :=
  ∀ key, Roles.isIdentityRoleKey key = true → ∃ role ∈ roles, role.key = key

/-- What the importer of roles leaves: the roles there were, and an imported line's role under the line's id. -/
structure RolesImported (records : List RoleRecord) (db₀ : Roles.RoleDb) (idMap : EntityIdMap)
    (db : Roles.RoleDb) : Prop where
  keyed : Keyed Roles.Role.id db.roles
  id_lt : ∀ role ∈ db.roles, role.id < db.nextRoleId
  kept : ∀ role₀ ∈ db₀.roles, ∃ role ∈ db.roles, role.id = role₀.id ∧ role.key = role₀.key
  identity : ∀ role ∈ db.roles, Roles.isIdentityRoleKey role.key = true →
    ∃ role₀ ∈ db₀.roles, role₀.id = role.id ∧ role₀.key = role.key
  mapped : ∀ oldId p, idMap.find .roles oldId = some p →
    ∃ record, lineOf RoleRecord.id records oldId = some record ∧
      ∃ role ∈ db.roles, role.id = p ∧ role.key = record.key
  others : ∀ entity, entity ≠ .roles → ∀ oldId, idMap.find entity oldId = none

section Roles

variable {records : List RoleRecord} {record : RoleRecord} {db₀ db db' : Roles.RoleDb} {idMap idMap' : EntityIdMap}

/-- An update of columns other than the keys. -/
theorem RolesImported.update (h : RolesImported records db₀ idMap db) {sel : Roles.Role → Bool}
    {data : Roles.Role → Roles.Role} (hid : ∀ r, (data r).id = r.id) (hkey : ∀ r, (data r).key = r.key) :
    RolesImported records db₀ idMap (db.updateRoles sel data) := by
  have hsameId : ∀ r : Roles.Role, (if sel r then data r else r).id = r.id := fun r => column_ite (hid r)
  have hsameKey : ∀ r : Roles.Role, (if sel r then data r else r).key = r.key := fun r => column_ite (hkey r)
  have hthere : ∀ role ∈ db.roles, ∃ role' ∈ (db.updateRoles sel data).roles,
      role'.id = role.id ∧ role'.key = role.key :=
    fun role hrole => ⟨_, List.mem_map_of_mem hrole, hsameId role, hsameKey role⟩
  refine ⟨h.keyed.map hsameId, fun role' hrole' => ?_, fun role₀ hrole₀ => ?_, fun role' hrole' hidentity => ?_,
    fun oldId p hfind => ?_, h.others⟩
  · obtain ⟨role, hrole, rfl⟩ := List.mem_map.mp hrole'
    rw [hsameId]
    exact h.id_lt role hrole
  · obtain ⟨role, hrole, hid₀, hkey₀⟩ := h.kept role₀ hrole₀
    obtain ⟨role', hrole', hid', hkey'⟩ := hthere role hrole
    exact ⟨role', hrole', hid'.trans hid₀, hkey'.trans hkey₀⟩
  · obtain ⟨role, hrole, rfl⟩ := List.mem_map.mp hrole'
    rw [hsameKey] at hidentity
    rw [hsameId, hsameKey]
    exact h.identity role hrole hidentity
  · obtain ⟨record, hline, role, hrole, hid₀, hkey₀⟩ := h.mapped oldId p hfind
    obtain ⟨role', hrole', hid', hkey'⟩ := hthere role hrole
    exact ⟨record, hline, role', hrole', hid'.trans hid₀, hkey'.trans hkey₀⟩

/-- The line is mapped to a role of its key. -/
theorem RolesImported.map (h : RolesImported records db₀ idMap db) {role : Roles.Role} (hrole : role ∈ db.roles)
    (hkey : role.key = record.key) :
    RolesImported (records ++ [record]) db₀ (idMap.set .roles record.id role.id) db := by
  refine { h with mapped := fun oldId p hfind => ?_, others := fun entity hne oldId => ?_ }
  · rcases find_set_some hfind with ⟨hsame, rfl⟩ | ⟨hother, hfind⟩
    · exact ⟨record, lineOf_append.trans (if_pos hsame), role, hrole, rfl, hkey⟩
    · obtain ⟨r, hline, hrole⟩ := h.mapped oldId p hfind
      exact ⟨r, (lineOf_append.trans (if_neg hother)).trans hline, hrole⟩
  · rw [EntityIdMap.find_set_of_ne (Ne.symm hne)]
    exact h.others entity hne oldId

/-- A role of a new key, which is no identity role's. -/
theorem RolesImported.create (h : RolesImported records db₀ idMap db) {row : Nat → Roles.Role}
    (hid : ∀ n, (row n).id = n) (hkey : Roles.isIdentityRoleKey (row db.nextRoleId).key = false) :
    RolesImported records db₀ idMap (db.createRole row) := by
  refine ⟨h.keyed.append_next h.id_lt (hid _), lt_append_next h.id_lt (hid _), fun role₀ hrole₀ => ?_,
    fun role hrole hidentity => ?_, fun oldId p hfind => ?_, h.others⟩
  · obtain ⟨role, hrole, hsame⟩ := h.kept role₀ hrole₀
    exact ⟨role, List.mem_append_left _ hrole, hsame⟩
  · rcases List.mem_append.mp hrole with hold | hnew
    · exact h.identity role hold hidentity
    · rw [List.mem_singleton.mp hnew, hkey] at hidentity
      cases hidentity
  · obtain ⟨record, hline, role, hrole, hsame⟩ := h.mapped oldId p hfind
    exact ⟨record, hline, role, List.mem_append_left _ hrole, hsame⟩

theorem importRole_imported (hseeded : Seeded db₀.roles) (h : RolesImported records db₀ idMap db)
    (hexec : (importRole idMap record).exec db = (.ok idMap', db')) :
    RolesImported (records ++ [record]) db₀ idMap' db' := by
  unfold importRole at hexec
  rw [Tx.exec_bind_get] at hexec
  cases hfound : db.roleByKey record.key with
  | some existing =>
    rw [hfound] at hexec
    rw [Tx.exec_bind_modify] at hexec
    obtain ⟨rfl, rfl⟩ := Tx.exec_pure_ok.mp hexec
    have hmem : existing ∈ db.roles := List.mem_of_find?_eq_some hfound
    have hkey : existing.key = record.key := by simpa using List.find?_some hfound
    exact (h.map hmem hkey).update (fun _ => rfl) fun _ => rfl
  | none =>
    rw [hfound] at hexec
    rw [Tx.exec_bind_modify] at hexec
    obtain ⟨rfl, rfl⟩ := Tx.exec_pure_ok.mp hexec
    -- a key that no role has is no identity role's, since those are all there
    have hnone : ∀ role ∈ db.roles, role.key ≠ record.key := by
      intro role hrole
      simpa using List.find?_eq_none.mp hfound role hrole
    have hkey : Roles.isIdentityRoleKey record.key = false := by
      rw [Bool.eq_false_iff]
      intro hidentity
      obtain ⟨role₀, hrole₀, hkey₀⟩ := hseeded _ hidentity
      obtain ⟨role, hrole, -, hsame⟩ := h.kept role₀ hrole₀
      exact hnone role hrole (hsame.trans hkey₀)
    have hcreated : RolesImported records db₀ idMap (db.createRole record.row) := h.create (fun _ => rfl) hkey
    have hmem : record.row db.nextRoleId ∈ (db.createRole record.row).roles :=
      List.mem_append_right _ List.mem_cons_self
    exact hcreated.map hmem rfl

theorem importRoles_imported {archived : List RoleRecord} (hseeded : Seeded db.roles)
    (hkeyed : Keyed Roles.Role.id db.roles) (hlt : ∀ role ∈ db.roles, role.id < db.nextRoleId)
    (hexec : (importRoles archived .empty).exec db = (.ok idMap', db')) :
    RolesImported archived db idMap' db' := by
  unfold importRoles at hexec
  obtain ⟨idMap₁, db₁, hfirst, hrest⟩ := Tx.exec_bind_ok.mp hexec
  obtain ⟨db₂, hsecond, hret⟩ := Tx.exec_seq_ok.mp hrest
  obtain ⟨rfl, rfl⟩ := Tx.exec_pure_ok.mp hret
  have hstart : RolesImported [] db .empty db :=
    ⟨hkeyed, hlt, fun role hrole => ⟨role, hrole, rfl, rfl⟩, fun role hrole _ => ⟨role, hrole, rfl, rfl⟩,
      fun oldId p hfind => by simp at hfind, fun _ _ _ => rfl⟩
  have hcreated : RolesImported archived db idMap₁ db₁ :=
    Tx.foldlM_done (I := fun done m s => RolesImported done db m s) hfirst hstart
      fun _ _ _ _ _ _ _ _ hI hturn => importRole_imported hseeded hI hturn
  refine Tx.forM_invariant (I := fun _ s => RolesImported archived db idMap₁ s) hsecond hcreated ?_
  intro _ record _ _ s s' hI hturn
  unfold resolveOrganigramParent at hturn
  cases hparent : record.parentRoleId with
  | none =>
    rw [hparent] at hturn
    obtain ⟨-, rfl⟩ := Tx.exec_pure_ok.mp hturn
    exact hI
  | some parentRoleId =>
    rw [hparent] at hturn
    simp only [Tx.exec_bind_check_ok] at hturn
    obtain ⟨target, -, parent, -, hwrite⟩ := hturn
    rw [Tx.exec_modify, Prod.mk.injEq] at hwrite
    rw [← hwrite.2]
    exact hI.update (fun _ => rfl) fun _ => rfl

end Roles

/-! ## Members -/

/-- The flags that a pioneer has, as the line has them. -/
def MemberRecord.mayPioneer (record : MemberRecord) : Bool :=
  !isTruthy record.leftAt && record.isPublisher && isTruthy record.baptismDate

/-- What the importer of members leaves: the members there were, and an imported line's member under a new id. -/
structure MembersImported (records : List MemberRecord) (idMap₀ : EntityIdMap) (db₀ : MemberDb)
    (idMap : EntityIdMap) (db : MemberDb) : Prop where
  le : db₀.nextMemberId ≤ db.nextMemberId
  roles : db.roles = db₀.roles
  accounts : db.accounts = db₀.accounts
  stints : db.enrolments = db₀.enrolments
  reports : db.activity = db₀.activity
  old : ∀ m ∈ db.members, m.id < db₀.nextMemberId → m ∈ db₀.members
  mapped : ∀ oldId p, idMap.find .members oldId = some p → db₀.nextMemberId ≤ p ∧
    ∃ record, lineOf MemberRecord.id records oldId = some record ∧
      ∃ m ∈ db.members, m.id = p ∧ m.mayPioneer = record.mayPioneer
  injective : ∀ a b p, idMap.find .members a = some p → idMap.find .members b = some p → a = b
  others : ∀ entity, entity ≠ .members → ∀ oldId, idMap.find entity oldId = idMap₀.find entity oldId

section Members

variable {rt : DateText} {records : List MemberRecord} {record : MemberRecord} {idMap₀ idMap idMap' : EntityIdMap}
  {asked : List Roles.Role → List Roles.UserAccount → Prop} {db₀ db db' : MemberDb} {row : Nat → Member}

theorem dateOrNull_isSome {text : Option String} {date : Option Instant} (h : dateOrNull rt text = .ok date) :
    date.isSome = isTruthy text := by
  unfold dateOrNull at h
  cases htruthy : isTruthy text with
  | false =>
    rw [htruthy] at h
    rw [← Except.ok.inj h]
    rfl
  | true =>
    rw [htruthy, if_pos rfl] at h
    cases hparse : rt.parse (text.getD "") with
    | none =>
      rw [hparse] at h
      cases h
    | some t =>
      rw [hparse] at h
      rw [← Except.ok.inj h]
      rfl

/-- The row has the flags of its line. -/
theorem MemberRecord.row_flags (h : record.row rt = .ok row) (id : Nat) :
    (row id).id = id ∧ (row id).mayPioneer = record.mayPioneer := by
  unfold MemberRecord.row at h
  obtain ⟨birthDate, -, h⟩ := Tx.bind_eq_ok.mp h
  obtain ⟨baptismDate, hbaptism, h⟩ := Tx.bind_eq_ok.mp h
  obtain ⟨arrivedAt, -, h⟩ := Tx.bind_eq_ok.mp h
  obtain ⟨lastPastoralVisitAt, -, h⟩ := Tx.bind_eq_ok.mp h
  obtain ⟨leftAt, hleft, h⟩ := Tx.bind_eq_ok.mp h
  obtain ⟨inactiveAt, -, h⟩ := Tx.bind_eq_ok.mp h
  obtain ⟨anonymizedAt, -, h⟩ := Tx.bind_eq_ok.mp h
  rw [← Except.ok.inj h]
  refine ⟨rfl, ?_⟩
  unfold Member.mayPioneer MemberRecord.mayPioneer
  rw [← dateOrNull_isSome hbaptism, ← dateOrNull_isSome hleft, Option.not_isSome]

theorem MembersImported.turn (h : MembersImported records idMap₀ db₀ idMap db) (hkeys : MembersKeyed db)
    (hrow : record.row rt = .ok row) :
    MembersImported (records ++ [record]) idMap₀ db₀ (idMap.set .members record.id db.nextMemberId)
      (syncBuiltInRoleAssignments db.nextMemberId (db.createMember row)) := by
  have hflags := MemberRecord.row_flags hrow db.nextMemberId
  have hnew : row db.nextMemberId ∈
      (syncBuiltInRoleAssignments db.nextMemberId (db.createMember row)).members :=
    List.mem_append_right _ List.mem_cons_self
  -- the new id is above those handed out before
  have hfresh : ∀ oldId, idMap.find .members oldId ≠ some db.nextMemberId := by
    intro oldId hfind
    obtain ⟨-, _, -, m, hm, hid, -⟩ := h.mapped oldId _ hfind
    have hlt := hkeys.id_lt m hm
    rw [hid] at hlt
    exact Nat.lt_irrefl _ hlt
  refine ⟨Nat.le_succ_of_le h.le, h.roles, h.accounts, h.stints, h.reports, fun m hm hlt => ?_,
    fun oldId p hfind => ?_, fun a b p ha hb => ?_, fun entity hne oldId => ?_⟩
  · rcases List.mem_append.mp hm with hold | hlast
    · exact h.old m hold hlt
    · rw [List.mem_singleton.mp hlast, hflags.1] at hlt
      exact absurd h.le (Nat.not_le.mpr hlt)
  · rcases find_set_some hfind with ⟨hsame, rfl⟩ | ⟨hother, hfind⟩
    · exact ⟨h.le, record, lineOf_append.trans (if_pos hsame), _, hnew, hflags⟩
    · obtain ⟨hle, r, hline, m, hm, hid⟩ := h.mapped oldId p hfind
      exact ⟨hle, r, (lineOf_append.trans (if_neg hother)).trans hline, m, List.mem_append_left _ hm, hid⟩
  · rcases find_set_some ha with ⟨rfl, rfl⟩ | ⟨-, ha⟩ <;> rcases find_set_some hb with ⟨hsame, hnew⟩ | ⟨-, hb⟩
    · exact hsame
    · exact absurd hb (hfresh b)
    · exact absurd (hnew ▸ ha) (hfresh a)
    · exact h.injective a b p ha hb
  · rw [EntityIdMap.find_set_of_ne (Ne.symm hne)]
    exact h.others entity hne oldId

theorem importMembers_imported (hsound : IdentitySound asked nobody db₀)
    (hnone : ∀ oldId, idMap₀.find .members oldId = none)
    (hexec : (importMembers rt records idMap₀).exec db₀ = (.ok idMap', db')) :
    IdentitySound asked nobody db' ∧ MembersImported records idMap₀ db₀ idMap' db' := by
  refine Tx.foldlM_done (I := fun done m s => IdentitySound asked nobody s ∧
    MembersImported done idMap₀ db₀ m s) hexec ⟨hsound, Nat.le_refl _, rfl, rfl, rfl, rfl, fun m hm _ => hm,
      fun oldId p hfind => ?_, fun a b p ha _ => ?_, fun _ _ _ => rfl⟩ ?_
  · rw [hnone] at hfind
    cases hfind
  · rw [hnone] at ha
    cases ha
  · intro done record _ _ m s m' s' ⟨hsound, himported⟩ hturn
    obtain ⟨row, hrow, rfl, rfl⟩ := importMember_ok hturn
    have hcreated := hsound.createMember fun n => (MemberRecord.row_flags hrow n).1
    exact ⟨hcreated.synced, himported.turn hsound.members hrow⟩

end Members

/-! ## Accounts -/

/-- What the importer of accounts leaves: it writes accounts alone, and maps those lines whose email is not held
elsewhere. -/
structure AccountsImported (records : List AccountRecord) (idMap₀ : EntityIdMap) (db₀ : PeopleDb)
    (idMap : EntityIdMap) (db : PeopleDb) : Prop where
  directory : ∃ accounts, db.directory = { db₀.directory with accounts := accounts }
  otherEmails : db.otherEmails = db₀.otherEmails
  own : db.EmailsOwn
  mapped : ∀ oldId p, idMap.find .userAccounts oldId = some p →
    ∃ record ∈ records, record.id = oldId ∧ record.email ∉ db₀.otherEmails
  others : ∀ entity, entity ≠ .userAccounts → ∀ oldId, idMap.find entity oldId = idMap₀.find entity oldId

section Accounts

variable {rt : DateText} {seesAll : Bool} {records : List AccountRecord} {record : AccountRecord}
  {idMap₀ idMap idMap' : EntityIdMap} {db₀ db db' : PeopleDb} {directory : MemberDb}

theorem importUserAccount_keeps :
    Tx.Keeps (fun db : PeopleDb => ∃ accounts, db.directory = { directory with accounts := accounts })
      (importUserAccount rt seesAll idMap record) := by
  -- whatever is written to the accounts, the rest of the directory is what it was
  have hwrite : ∀ (db : PeopleDb) (accounts : List Roles.UserAccount),
      (∃ accounts, db.directory = { directory with accounts := accounts }) →
      ∃ accounts', { db.directory with accounts := accounts } = { directory with accounts := accounts' } := by
    intro db accounts ⟨_, hdirectory⟩
    exact ⟨accounts, by rw [hdirectory]⟩
  refine Tx.Keeps.get_bind fun read => ?_
  cases read.directory.accounts.find? (·.email == record.email) with
  | some existing =>
    refine Tx.Keeps.get_bind fun _ => (Tx.keeps_check _).bind fun _ => ?_
    refine Tx.Keeps.bind (Tx.keeps_modify ?_) fun _ => Tx.keeps_pure _
    exact fun db h => hwrite db _ h
  | none =>
    dsimp only
    split
    · exact Tx.keeps_pure _
    · refine (Tx.keeps_check _).bind fun _ => (Tx.keeps_check _).bind fun _ => ?_
      refine Tx.Keeps.get_bind fun _ => (Tx.keeps_check _).bind fun _ => ?_
      refine Tx.Keeps.bind (Tx.keeps_modify ?_) fun _ => Tx.keeps_pure _
      exact fun db h => hwrite db _ h

theorem importUserAccounts_imported (hown : db₀.EmailsOwn)
    (hnone : ∀ oldId, idMap₀.find .userAccounts oldId = none)
    (hexec : (importUserAccounts rt seesAll records idMap₀).exec db₀ = (.ok idMap', db')) :
    AccountsImported records idMap₀ db₀ idMap' db' := by
  refine Tx.foldlM_done (I := fun done m s => AccountsImported done idMap₀ db₀ m s) hexec
    ⟨⟨_, rfl⟩, rfl, hown, fun oldId p hfind => ?_, fun _ _ _ => rfl⟩ ?_
  · rw [hnone] at hfind
    cases hfind
  · intro done record _ _ m s m' s' h hturn
    have hdirectory := importUserAccount_keeps.of_ok hturn h.directory
    have hrecord := importUserAccount_turn h.own hturn
    have hmapped := hrecord.mapped
    rw [h.otherEmails] at hmapped
    refine ⟨hdirectory, hrecord.otherEmails.trans h.otherEmails, hrecord.own, fun oldId p hfind => ?_,
      fun entity hne oldId => ?_⟩
    · rcases hmapped with ⟨-, rfl⟩ | ⟨hfree, newId, rfl⟩
      · obtain ⟨r, hr, hline⟩ := h.mapped oldId p hfind
        exact ⟨r, List.mem_append_left _ hr, hline⟩
      · rcases find_set_some hfind with ⟨hsame, -⟩ | ⟨-, hfind⟩
        · exact ⟨record, List.mem_append_right _ List.mem_cons_self, hsame, hfree⟩
        · obtain ⟨r, hr, hline⟩ := h.mapped oldId p hfind
          exact ⟨r, List.mem_append_left _ hr, hline⟩
    · rcases hmapped with ⟨-, rfl⟩ | ⟨-, newId, rfl⟩
      · exact h.others entity hne oldId
      · rw [EntityIdMap.find_set_of_ne (Ne.symm hne)]
        exact h.others entity hne oldId

end Accounts

/-! ## Seats, grants and groups -/

/-- What an import relies on of the roles and the accounts that are there. -/
structure Founded (nextRoleId : Nat) (otherEmails : List String) (roles : List Roles.Role)
    (accounts : List Roles.UserAccount) : Prop where
  id_lt : ∀ role ∈ roles, role.id < nextRoleId
  seeded : Seeded roles
  own : ∀ a ∈ accounts, a.email ∉ otherEmails

/-- Every member is mirrored, and no account holds an identity role. -/
def CongregationDb.Sound (db : CongregationDb) : Prop :=
  IdentitySound (Founded db.nextRoleId db.people.otherEmails) nobody db.directory

section Steps

variable {asked : List Roles.Role → List Roles.UserAccount → Prop} {stale : Nat → Prop} {db : MemberDb}

/-- A seat that is in no identity role. -/
theorem createSeat_sound (h : IdentitySound asked stale db) {row : Roles.UserRoleAssignment}
    (hrole : db.NoIdentityRole row.roleId) : IdentitySound asked stale (MemberDb.createSeat row db) := by
  unfold MemberDb.createSeat
  split
  · exact h
  · refine ⟨⟨h.members.keyed, h.members.id_lt⟩, h.roles, h.stints, h.reports, h.unwritten, h.mirrored,
      fun a ha => ?_⟩
    rcases List.mem_append.mp ha with hold | hnew
    · exact h.seats a hold
    · rw [List.mem_singleton.mp hnew]
      exact hrole

end Steps

/-- What the steps between the accounts and the reports leave: every member's flags, stints and reports. -/
structure Carried (asked : List Roles.Role → List Roles.UserAccount → Prop) (d₁ d : MemberDb) : Prop where
  sound : IdentitySound asked nobody d
  ids : d.members.map (·.id) = d₁.members.map (·.id)
  flags : ∀ m ∈ d.members, ∃ m₁ ∈ d₁.members, m₁.id = m.id ∧ m₁.SameFlags m
  stints : d.enrolments = d₁.enrolments
  reports : d.activity = d₁.activity

/-- What the steps carry on, with what the roles and the accounts are relied on for. -/
def CongregationDb.Carries (d₁ : MemberDb) (db : CongregationDb) : Prop :=
  Carried (Founded db.nextRoleId db.people.otherEmails) d₁ db.directory

section Carried

variable {asked asked' : List Roles.Role → List Roles.UserAccount → Prop} {d₁ d d' : MemberDb}
  {db db' : CongregationDb} {idMap : EntityIdMap}

theorem Carried.refl (h : IdentitySound asked nobody d) : Carried asked d d :=
  ⟨h, rfl, fun m hm => ⟨m, hm, rfl, ⟨rfl, rfl, rfl, rfl, rfl, rfl, rfl⟩⟩, rfl, rfl⟩

theorem Carried.createSeat (h : Carried asked d₁ d) {row : Roles.UserRoleAssignment}
    (hrole : d.NoIdentityRole row.roleId) : Carried asked d₁ (MemberDb.createSeat row d) := by
  have hsound := createSeat_sound h.sound hrole
  unfold MemberDb.createSeat at hsound ⊢
  split at hsound
  · next hthere =>
    rw [if_pos hthere]
    exact h
  · next hnew =>
    rw [if_neg hnew]
    exact ⟨hsound, h.ids, h.flags, h.stints, h.reports⟩

theorem createSeat_roles (row : Roles.UserRoleAssignment) : (MemberDb.createSeat row d).roles = d.roles := by
  unfold MemberDb.createSeat
  split <;> rfl

/-- **Archived seats leave the accounts without identity roles when none of them is in one.** -/
theorem importUserRoleAssignments_carries {records : List SeatRecord}
    (hrows : ∀ row ∈ records.filterMap (SeatRecord.row idMap), d.NoIdentityRole row.roleId)
    (h : Carried asked d₁ d) (hexec : (importUserRoleAssignments records idMap).exec d = (.ok (), d')) :
    Carried asked d₁ d' := by
  unfold importUserRoleAssignments at hexec
  rw [Tx.exec_modify, Prod.mk.injEq] at hexec
  rw [← hexec.2]
  generalize records.filterMap (SeatRecord.row idMap) = rows at hrows
  clear hexec
  induction rows generalizing d with
  | nil => exact h
  | cons row rows ih =>
    refine ih (h.createSeat (hrows row List.mem_cons_self)) fun row' hrow' role hrole => ?_
    rw [createSeat_roles] at hrole
    exact hrows row' (List.mem_cons_of_mem _ hrow') role hrole

theorem admin_noIdentity : Roles.isIdentityRoleKey "admin" = false := by decide

theorem ensureAdminRole_carries {found : Option Nat} (h : db.Carries d₁)
    (hexec : ensureAdminRole.exec db = (.ok found, db')) :
    db'.Carries d₁ ∧ ∀ roleId, found = some roleId → db'.directory.NoIdentityRole roleId := by
  unfold ensureAdminRole at hexec
  rw [Tx.exec_bind_get] at hexec
  split at hexec
  · obtain ⟨rfl, rfl⟩ := Tx.exec_pure_ok.mp hexec
    exact ⟨h, fun _ hnone => by cases hnone⟩
  · cases hfound : db.roleDb.roleByKey "admin" with
    | some admin =>
      rw [hfound] at hexec
      obtain ⟨rfl, rfl⟩ := Tx.exec_pure_ok.mp hexec
      have hmem : admin ∈ db'.directory.roles := List.mem_of_find?_eq_some hfound
      have hkey : admin.key = "admin" := by simpa using List.find?_some hfound
      refine ⟨h, fun roleId hsome role hrole hid => ?_⟩
      obtain rfl := h.sound.roles.eq_of_key hrole hmem (hid.trans (Option.some.inj hsome).symm)
      rw [hkey]
      exact admin_noIdentity
    | none =>
      rw [hfound] at hexec
      rw [Tx.exec_bind_modify] at hexec
      obtain ⟨rfl, rfl⟩ := Tx.exec_pure_ok.mp hexec
      -- the role made is no identity role, and no seat was in it before
      have hlt := h.sound.unwritten.id_lt
      have hnone : ∀ role ∈ db.directory.roles, role.id ≠ db.nextRoleId :=
        fun role hrole => Nat.ne_of_lt (hlt role hrole)
      have hnew : (Roles.builtInRole "admin" db.nextRoleId).id = db.nextRoleId := rfl
      have hsound : IdentitySound (Founded (db.nextRoleId + 1) db.people.otherEmails) nobody
          { db.directory with roles := db.directory.roles ++ [Roles.builtInRole "admin" db.nextRoleId] } := by
        refine h.sound.withRoles (h.sound.roles.append_next hlt hnew) (fun role hrole hidentity => ?_)
          ⟨lt_append_next hlt hnew, fun key hidentity => ?_, h.sound.unwritten.own⟩
        · rcases List.mem_append.mp hrole with hold | hlast
          · exact ⟨role, hold, rfl, rfl⟩
          · rw [List.mem_singleton.mp hlast] at hidentity
            rw [show (Roles.builtInRole "admin" db.nextRoleId).key = "admin" from rfl,
              admin_noIdentity] at hidentity
            cases hidentity
        · obtain ⟨role, hrole, hkey⟩ := h.sound.unwritten.seeded key hidentity
          exact ⟨role, List.mem_append_left _ hrole, hkey⟩
      refine ⟨⟨hsound, h.ids, h.flags, h.stints, h.reports⟩, fun roleId hsome role hrole hid => ?_⟩
      rw [← Option.some.inj hsome] at hid
      rcases List.mem_append.mp hrole with hold | hlast
      · exact absurd hid (hnone role hold)
      · rw [List.mem_singleton.mp hlast]
        exact admin_noIdentity

theorem importCongregationUserPermissions_carries {records : List LegacyGrantRecord} (h : db.Carries d₁)
    (hexec : (importCongregationUserPermissions records idMap).exec db = (.ok (), db')) : db'.Carries d₁ := by
  refine Tx.forM_invariant (I := fun _ s => CongregationDb.Carries d₁ s) hexec h ?_
  intro _ record _ _ s s' hs hturn
  unfold importCongregationUserPermission at hturn
  cases huser : idMap.getOptional .userAccounts (some record.userId) with
  | none =>
    rw [huser] at hturn
    obtain ⟨-, rfl⟩ := Tx.exec_pure_ok.mp hturn
    exact hs
  | some userId =>
    rw [huser] at hturn
    dsimp only at hturn
    split at hturn
    · obtain ⟨found, s₁, hadmin, hgrant⟩ := Tx.exec_bind_ok.mp hturn
      obtain ⟨hcarried, hrole⟩ := ensureAdminRole_carries hs hadmin
      cases found with
      | none =>
        obtain ⟨-, rfl⟩ := Tx.exec_pure_ok.mp hgrant
        exact hcarried
      | some roleId =>
        rw [Tx.exec_modify, Prod.mk.injEq] at hgrant
        rw [← hgrant.2]
        exact hcarried.createSeat (hrole roleId rfl)
    · obtain ⟨-, rfl⟩ := Tx.exec_pure_ok.mp hturn
      exact hs

theorem importPublisherGroups_carries {records : List PublisherGroupRecord} {idMap' : EntityIdMap}
    (h : Carried asked d₁ d) (hexec : (importPublisherGroups records idMap).exec d = (.ok idMap', d')) :
    Carried asked d₁ d' ∧ ∀ oldId, idMap'.find .members oldId = idMap.find .members oldId := by
  refine Tx.foldlM_done (I := fun _ m s => Carried asked d₁ s ∧
    ∀ oldId, m.find .members oldId = idMap.find .members oldId) hexec ⟨h, fun _ => rfl⟩ ?_
  intro _ record _ _ m s m' s' ⟨hs, hmembers⟩ hturn
  unfold importPublisherGroup at hturn
  cases hresponsible : m.getOptional .members (some record.responsibleId) with
  | none =>
    rw [hresponsible] at hturn
    obtain ⟨rfl, rfl⟩ := Tx.exec_pure_ok.mp hturn
    exact ⟨hs, hmembers⟩
  | some responsibleId =>
    rw [hresponsible] at hturn
    dsimp only at hturn
    rw [Tx.exec_bind_get, Tx.exec_bind_check_ok] at hturn
    obtain ⟨_, -, hturn⟩ := hturn
    rw [Tx.exec_bind_modify] at hturn
    obtain ⟨rfl, rfl⟩ := Tx.exec_pure_ok.mp hturn
    refine ⟨⟨hs.sound.congr rfl rfl rfl rfl rfl rfl rfl rfl fun _ ha => ha, hs.ids, hs.flags, hs.stints,
      hs.reports⟩, fun oldId => ?_⟩
    rw [EntityIdMap.find_set_of_ne (by decide)]
    exact hmembers oldId

theorem Carried.place (h : Carried asked d₁ d) (memberId : Nat) (groupId : Option Nat) :
    Carried asked d₁ (d.place memberId groupId) := by
  have hsame : ∀ m : Member,
      (if m.id = memberId then { m with publisherGroupId := groupId } else m).id = m.id :=
    fun m => column_ite rfl
  refine ⟨h.sound.updateOther (fun _ => rfl) fun m _ _ => ⟨rfl, rfl, rfl, rfl, rfl, rfl, rfl⟩, ?_, ?_, h.stints,
    h.reports⟩
  · rw [← h.ids, MemberDb.place, MemberDb.updateMember_members, List.map_map]
    exact List.map_congr_left fun m _ => hsame m
  · intro m' hm'
    obtain ⟨m, hm, rfl⟩ := List.mem_map.mp hm'
    obtain ⟨m₁, hm₁, hid, hflags⟩ := h.flags m hm
    rw [hsame]
    refine ⟨m₁, hm₁, hid, ?_⟩
    split
    · exact ⟨hflags.isMale, hflags.isPublisher, hflags.baptismDate, hflags.isAnointed, hflags.isHelder,
        hflags.isServant, hflags.leftAt⟩
    · exact hflags

theorem updateMemberPublisherGroups_carries {records : List MemberRecord} :
    Tx.Keeps (Carried asked d₁) (updateMemberPublisherGroups records idMap) := by
  refine Tx.Keeps.forM fun record _ => ?_
  unfold updateMemberPublisherGroup
  split
  · exact Tx.keeps_modify fun d h => h.place _ _
  · exact Tx.keeps_pure _

end Carried

end Unitae.Settings
