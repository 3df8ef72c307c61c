import Unitae.Settings.ImportPeople

/-!
# Unitae — splitting the users of a version 1 archive (`migrate-legacy-users-ndjson.server.ts`)

An archive of version 1 keeps persons and logins in one file, `users.ndjson`. Before anything is
imported, each of its rows becomes a member, an account, both or neither, under its old id: a member when
it has one of six signals, an account when its address is a real one. The other files go on naming users
by their ids where the importer expects members. `references_kept_iff` is about them.

Of a row the columns kept are those that the importers of members and accounts read.
-/

namespace Unitae.Settings

/-- A line of `users.ndjson`. -/
structure LegacyUserRow where
  id : Int
  firstname : Option String
  lastname : Option String
  email : String
  active : Bool
  emailVerifiedAt : Option String
  isPublisher : Bool
  isMale : Option Bool
  birthDate : Option String
  baptismDate : Option String
  isHelder : Option Bool
  isServant : Option Bool
  isAnointed : Option Bool
  publisherGroupId : Option Int
  phone : Option String
  address : Option String
  anonymizedAt : Option String
deriving DecidableEq, Repr

structure ActivityLine where
  id : Int
  publisherId : Int
deriving DecidableEq, Repr

structure AttributionLine where
  id : Int
  publisherId : Int
deriving DecidableEq, Repr

structure GroupLine where
  id : Int
  responsibleId : Int
  deputyId : Option Int
deriving DecidableEq, Repr

structure PartAssignmentLine where
  id : Int
  assigneeId : Option Int
  assistantId : Option Int
deriving DecidableEq, Repr

structure ServiceAssignmentLine where
  id : Int
  assigneeId : Option Int
deriving DecidableEq, Repr

/-- The archive in memory; a file that is missing is `none`. Of the files that name members, the columns
that do. -/
structure LegacyArchive where
  users : Option (List LegacyUserRow)
  members : Option (List MemberRecord)
  userAccounts : Option (List AccountRecord)
  activities : List ActivityLine
  attributions : List AttributionLine
  publisherGroups : List GroupLine
  partAssignments : List PartAssignmentLine
  serviceAssignments : List ServiceAssignmentLine
deriving DecidableEq, Repr

/-! ## The split -/

def legacyUserIsMember (row : LegacyUserRow) : Bool :=
  row.isPublisher || row.baptismDate.isSome || row.isHelder == some true ||
    row.isServant == some true || row.isAnointed == some true || row.publisherGroupId.isSome

/-- `email.endsWith('@placeholder.unitae.app')`. -/
def isPlaceholderEmail (email : String) : Bool :=
  "@placeholder.unitae.app".toList.isSuffixOf email.toList

def LegacyUserRow.member (row : LegacyUserRow) : MemberRecord where
  id := row.id
  firstname := row.firstname.getD ""
  lastname := row.lastname.getD ""
  isPublisher := row.isPublisher
  isMale := row.isMale
  phone := row.phone.getD ""
  address := row.address.getD ""
  email := none
  birthDate := row.birthDate
  baptismDate := row.baptismDate
  isHelder := row.isHelder.getD false
  isServant := row.isServant.getD false
  isAnointed := row.isAnointed.getD false
  leftAt := none
  inactiveAt := none
  anonymizedAt := row.anonymizedAt
  arrivedAt := none
  lastPastoralVisitAt := none
  publisherGroupId := row.publisherGroupId

/-- The account keeps the name when there is no member to hold it. -/
def LegacyUserRow.account (row : LegacyUserRow) : AccountRecord where
  id := row.id
  memberId := if legacyUserIsMember row then some row.id else none
  firstname := if legacyUserIsMember row then none else row.firstname
  lastname := if legacyUserIsMember row then none else row.lastname
  email := row.email
  active := row.active
  emailVerifiedAt := row.emailVerifiedAt
  anonymizedAt := row.anonymizedAt

/-- Where the loop over the rows stands. -/
structure UserSplit where
  members : List MemberRecord
  accounts : List AccountRecord
  placeholderDropped : Nat

/-- One turn of the loop. -/
def UserSplit.addRow (split : UserSplit) (row : LegacyUserRow) : UserSplit :=
  let isMember := legacyUserIsMember row
  let isRealAccount := !isPlaceholderEmail row.email
  { members := if isMember then split.members ++ [row.member] else split.members
    accounts := if isRealAccount then split.accounts ++ [row.account] else split.accounts
    placeholderDropped :=
      if isRealAccount then split.placeholderDropped else split.placeholderDropped + 1 }

def splitUsers (legacy : List LegacyUserRow) : UserSplit :=
  legacy.foldl UserSplit.addRow ⟨[], [], 0⟩

def splitWarnings (manifestVersion : String) (legacy : List LegacyUserRow) (split : UserSplit) :
    List String :=
  ["Archive v" ++ manifestVersion ++ ": " ++ toString legacy.length ++ " legacy user row(s) split into "
      ++ toString split.members.length ++ " member(s) and " ++ toString split.accounts.length
      ++ " account(s) on the fly."]
    ++ (if split.placeholderDropped > 0 then
        [toString split.placeholderDropped ++ " placeholder-email account(s) (legacy "
          ++ "*@placeholder.unitae.app) skipped — they were never real logins."]
      else [])

/-- The warnings, and the archive with the files that were written. -/
def migrateLegacyUsersNdjson (zip : LegacyArchive) (manifestVersion : String) :
    List String × LegacyArchive :=
  if manifestVersion ≠ "1.0" ∧ manifestVersion ≠ "1.1" then ([], zip)
  else match zip.users with
    | none => ([], zip)
    | some legacy =>
      -- an archive that ships the entries of version 2 keeps them
      if zip.members.isSome || zip.userAccounts.isSome then ([], zip)
      else
        let split := splitUsers legacy
        (splitWarnings manifestVersion legacy split,
          { zip with members := some split.members, userAccounts := some split.accounts })

/-! ## What the split writes -/

theorem splitUsers_eq (legacy : List LegacyUserRow) :
    splitUsers legacy = {
      members := (legacy.filter legacyUserIsMember).map LegacyUserRow.member
      accounts := (legacy.filter fun row => !isPlaceholderEmail row.email).map LegacyUserRow.account
      placeholderDropped := (legacy.filter fun row => isPlaceholderEmail row.email).length } := by
  suffices h : ∀ split : UserSplit, legacy.foldl UserSplit.addRow split = {
      members := split.members ++ (legacy.filter legacyUserIsMember).map LegacyUserRow.member
      accounts := split.accounts ++
        (legacy.filter fun row => !isPlaceholderEmail row.email).map LegacyUserRow.account
      placeholderDropped := split.placeholderDropped +
        (legacy.filter fun row => isPlaceholderEmail row.email).length } by
    rw [splitUsers, h]
    simp
  induction legacy with
  | nil => simp
  | cons row legacy ih =>
    intro split
    rw [List.foldl_cons, ih, UserSplit.addRow]
    cases hmember : legacyUserIsMember row <;> cases hplaceholder : isPlaceholderEmail row.email <;>
      simp [hmember, hplaceholder] <;> omega

/-- An archive of version 1: one file of users, and none of the files that replace it. -/
structure LegacyArchive.IsV1 (zip : LegacyArchive) (manifestVersion : String)
    (legacy : List LegacyUserRow) : Prop where
  version : manifestVersion = "1.0" ∨ manifestVersion = "1.1"
  users : zip.users = some legacy
  members : zip.members = none
  userAccounts : zip.userAccounts = none

theorem migrate_v1 {zip : LegacyArchive} {manifestVersion : String} {legacy : List LegacyUserRow}
    (h : zip.IsV1 manifestVersion legacy) :
    (migrateLegacyUsersNdjson zip manifestVersion).2 = { zip with
      members := some ((legacy.filter legacyUserIsMember).map LegacyUserRow.member)
      userAccounts := some
        ((legacy.filter fun row => !isPlaceholderEmail row.email).map LegacyUserRow.account) } := by
  have hversion : ¬(manifestVersion ≠ "1.0" ∧ manifestVersion ≠ "1.1") := by
    intro hne
    exact h.version.elim hne.1 hne.2
  rw [migrateLegacyUsersNdjson, if_neg hversion, h.users]
  simp only [h.members, h.userAccounts, splitUsers_eq]
  rfl

/-- Once the files are there the shim leaves the archive alone. -/
theorem migrate_of_members {zip : LegacyArchive} (h : zip.members.isSome) (manifestVersion : String) :
    migrateLegacyUsersNdjson zip manifestVersion = ([], zip) := by
  unfold migrateLegacyUsersNdjson
  split
  · rfl
  · cases zip.users with
    | none => rfl
    | some legacy => simp [h]

/-! ## The persons the archive refers to -/

/-- The ids under which the other files name a member. -/
def LegacyArchive.references (zip : LegacyArchive) : List Int :=
  zip.activities.map (·.publisherId) ++ zip.attributions.map (·.publisherId) ++
    zip.publisherGroups.flatMap (fun g => g.responsibleId :: g.deputyId.toList) ++
    zip.partAssignments.flatMap (fun a => a.assigneeId.toList ++ a.assistantId.toList) ++
    zip.serviceAssignments.flatMap fun a => a.assigneeId.toList

/-- What the shim is to leave of an archive with these users. -/
structure KeepsPersons (legacy : List LegacyUserRow) (manifestVersion : String)
    (after : LegacyArchive) : Prop where
  /-- A reference to a user row is to a member. -/
  references : ∀ id ∈ after.references, id ∈ legacy.map (·.id) →
    ∃ members, after.members = some members ∧ id ∈ members.map (·.id)
  /-- An account's member is there. -/
  accounts : ∃ members accounts, after.members = some members ∧ after.userAccounts = some accounts ∧
    ∀ account ∈ accounts, ∀ id ∈ account.memberId, id ∈ members.map (·.id)
  /-- The rows with a real address have one account each, and there is no other account. -/
  logins : ∃ accounts, after.userAccounts = some accounts ∧
    List.Forall₂ (fun row account => account.id = row.id ∧ account.email = row.email)
      (legacy.filter fun row => !isPlaceholderEmail row.email) accounts
  unique : (legacy.map (·.id)).Nodup → ∃ members accounts, after.members = some members ∧
    after.userAccounts = some accounts ∧ (members.map (·.id)).Nodup ∧ (accounts.map (·.id)).Nodup
  again : migrateLegacyUsersNdjson after manifestVersion = ([], after)

/-- Each user row that another file names has one of the signals of a member, or shares its id with a
row that has. -/
def ReferencesHaveSignals (zip : LegacyArchive) (legacy : List LegacyUserRow) : Prop :=
  ∀ row ∈ legacy, row.id ∈ zip.references →
    ∃ row' ∈ legacy, row'.id = row.id ∧ legacyUserIsMember row' = true

instance (zip : LegacyArchive) (legacy : List LegacyUserRow) :
    Decidable (ReferencesHaveSignals zip legacy) :=
  inferInstanceAs (Decidable (∀ row ∈ legacy, _))

theorem map_id_filter (p : LegacyUserRow → Bool) (legacy : List LegacyUserRow) :
    ((legacy.filter p).map (·.id)).Sublist (legacy.map (·.id)) :=
  List.filter_sublist.map _

/-- **Every person the archive refers to is kept** exactly when each user row that another file names
has a signal of a member. The accounts, the ids and the second run are right in any case. -/
theorem references_kept_iff {zip : LegacyArchive} {manifestVersion : String}
    {legacy : List LegacyUserRow} (h : zip.IsV1 manifestVersion legacy) :
    KeepsPersons legacy manifestVersion (migrateLegacyUsersNdjson zip manifestVersion).2
      ↔ ReferencesHaveSignals zip legacy := by
  rw [migrate_v1 h]
  have hmembers : ((legacy.filter legacyUserIsMember).map LegacyUserRow.member).map (·.id)
      = (legacy.filter legacyUserIsMember).map (·.id) := by
    rw [List.map_map]
    rfl
  have haccounts : ((legacy.filter fun row => !isPlaceholderEmail row.email).map
      LegacyUserRow.account).map (·.id)
      = (legacy.filter fun row => !isPlaceholderEmail row.email).map (·.id) := by
    rw [List.map_map]
    rfl
  constructor
  · intro hkept row hrow hreferred
    obtain ⟨members, hfile, hid⟩ := hkept.references row.id hreferred (List.mem_map_of_mem hrow)
    obtain rfl := Option.some.inj hfile
    rw [hmembers] at hid
    obtain ⟨row', hrow', hsame⟩ := List.mem_map.mp hid
    exact ⟨row', (List.mem_filter.mp hrow').1, hsame, (List.mem_filter.mp hrow').2⟩
  · intro hsignals
    refine ⟨fun id hreferred hid => ⟨_, rfl, ?_⟩, ⟨_, _, rfl, rfl, fun account haccount id hid => ?_⟩,
      ⟨_, rfl, ?_⟩, fun hunique => ⟨_, _, rfl, rfl, ?_, ?_⟩, migrate_of_members rfl _⟩
    · obtain ⟨row, hrow, rfl⟩ := List.mem_map.mp hid
      obtain ⟨row', hrow', hsame, hsignal⟩ := hsignals row hrow hreferred
      rw [hmembers]
      exact List.mem_map.mpr ⟨row', List.mem_filter.mpr ⟨hrow', hsignal⟩, hsame⟩
    · -- an account names a member only when its own row became one
      obtain ⟨row, hrow, rfl⟩ := List.mem_map.mp haccount
      have hlegacy := (List.mem_filter.mp hrow).1
      rw [hmembers]
      simp only [LegacyUserRow.account] at hid
      split at hid
      · next hsignal =>
        obtain rfl := Option.mem_some_iff.mp hid
        exact List.mem_map.mpr ⟨row, List.mem_filter.mpr ⟨hlegacy, hsignal⟩, rfl⟩
      · cases hid
    · rw [List.forall₂_map_right_iff, List.forall₂_same]
      exact fun row _ => ⟨rfl, rfl⟩
    · rw [hmembers]
      exact hunique.sublist (map_id_filter _ legacy)
    · rw [haccounts]
      exact hunique.sublist (map_id_filter _ legacy)

/-! ### A person known by reports alone -/

/-- A row with none of the signals. -/
def blankUser (id : Int) (email : String) : LegacyUserRow where
  id := id
  firstname := some "Jean"
  lastname := some "Martin"
  email := email
  active := true
  emailVerifiedAt := none
  isPublisher := false
  isMale := none
  birthDate := none
  baptismDate := none
  isHelder := none
  isServant := none
  isAnointed := none
  publisherGroupId := none
  phone := none
  address := none
  anonymizedAt := none

/-- One user, and the report of a month. -/
def oneReport (row : LegacyUserRow) : LegacyArchive where
  users := some [row]
  members := none
  userAccounts := none
  activities := [⟨1, row.id⟩]
  attributions := []
  publisherGroups := []
  partAssignments := []
  serviceAssignments := []

theorem publisher_kept :
    KeepsPersons [{ blankUser 7 "jean@example.org" with isPublisher := true }] "1.1"
      (migrateLegacyUsersNdjson
        (oneReport { blankUser 7 "jean@example.org" with isPublisher := true }) "1.1").2 :=
  (references_kept_iff ⟨.inr rfl, rfl, rfl, rfl⟩).mpr (by decide)

/-- Someone who has stopped publishing, with a report but no date of baptism, is dropped altogether. -/
theorem reporter_dropped :
    ¬∀ (zip : LegacyArchive) (manifestVersion : String) (legacy : List LegacyUserRow),
      zip.IsV1 manifestVersion legacy →
        KeepsPersons legacy manifestVersion (migrateLegacyUsersNdjson zip manifestVersion).2 := by
  intro hall
  have hkept := hall (oneReport (blankUser 7 "jean.martin@placeholder.unitae.app")) "1.1" _
    ⟨.inr rfl, rfl, rfl, rfl⟩
  obtain ⟨members, hfile, hid⟩ := hkept.references 7 (by decide) (by decide)
  have hnone : (migrateLegacyUsersNdjson
      (oneReport (blankUser 7 "jean.martin@placeholder.unitae.app")) "1.1").2.members = some [] := by
    decide
  rw [hnone] at hfile
  obtain rfl := Option.some.inj hfile
  exact absurd hid List.not_mem_nil

end Unitae.Settings
