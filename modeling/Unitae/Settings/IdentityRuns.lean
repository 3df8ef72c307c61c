import Unitae.Base.Run
import Unitae.Settings.ImportMirror

/-!
# Unitae — identity roles through a run

The member operations and the enrolment workflow mirror always, and an import does under its condition; so the
mirror is kept through every run from a new congregation whose imports keep it. The condition is not checked by the
code: `imports_break_the_mirror` has an archive of a pioneer, and one of a seat among the sisters.
-/

namespace Unitae.Settings

open Publishers

/-! ## Runs -/

inductive IdentityRequest where
  | createMember (maxPublishers : Option Nat) (params : MemberFormFields)
  | createDirect (params : CreateDirectParams)
  | updateIdentity (memberId : Nat) (params : MemberFormFields)
  | togglePublisher (memberId : Nat) (isPublisher : Bool)
  | setLifecycle (memberId : Nat) (state : Roles.LifecycleState) (at_ : Option Instant) (now : Instant)
  | anonymize (memberId : Nat) (now : Instant)
  | enrolPioneer (memberId : Nat) (params : OpenEnrolmentParams)
  | endPioneerEnrolment (enrolmentId : Nat) (stop : EndMonth)
  | updatePioneerEnrolment (enrolmentId : Nat) (params : UpdateEnrolmentParams)
  | removePioneerEnrolment (enrolmentId : Nat)
  | endOngoingEnrolmentsOfType (type : PublisherType) (stop : EndMonth)
  | runImport (seesAll : Bool) (archive : PeopleArchive)
deriving DecidableEq, Repr

/-- An operation on a congregation, whatever it returns. -/
def performing {α : Type} (x : MemberTx α) : CongregationTx Unit := do
  let _ ← onDirectory x

def IdentityRequest.run (text : PersonText) (dates : DateText) : IdentityRequest → CongregationTx Unit
  | .createMember maxPublishers params => performing (Publishers.createMember text maxPublishers params)
  | .createDirect params => performing (Publishers.createDirect params)
  | .updateIdentity memberId params => performing (Publishers.updateIdentity text memberId params)
  | .togglePublisher memberId isPublisher => performing (Publishers.togglePublisher memberId isPublisher)
  | .setLifecycle memberId state at_ now => performing (Publishers.setLifecycle memberId state at_ now)
  | .anonymize memberId now => performing (Publishers.anonymize memberId now)
  | .enrolPioneer memberId params => performing (Publishers.enrolPioneer memberId params)
  | .endPioneerEnrolment enrolmentId stop => performing (Publishers.endPioneerEnrolment enrolmentId stop)
  | .updatePioneerEnrolment enrolmentId params => performing (Publishers.updatePioneerEnrolment enrolmentId params)
  | .removePioneerEnrolment enrolmentId => performing (Publishers.removePioneerEnrolment enrolmentId)
  | .endOngoingEnrolmentsOfType type stop => performing (endOngoingStints type stop)
  | .runImport seesAll archive => runCongregationImport dates seesAll archive

/-- The stored state after a request: a refusal ends the transaction it was raised in. -/
def identityStep (text : PersonText) (dates : DateText) (db : CongregationDb) (request : IdentityRequest) :
    CongregationDb :=
  (request.run text dates).settle (fun _ => false) db

/-- An import, if that is what it is, keeps the mirror. -/
def IdentityRequest.KeepsMirror (db : CongregationDb) : IdentityRequest → Prop
  | .runImport _ archive => archive.KeepsMirror db
  | _ => True

/-- Each member's identity roles are those that the member's flags and stints ask for, and no account has one. -/
def CongregationDb.IdentityMirrored (db : CongregationDb) : Prop :=
  (∀ m ∈ db.directory.members, ∀ role ∈ db.directory.roles, Roles.isIdentityRoleKey role.key = true →
    ((⟨m.id, role.id⟩ : Roles.MemberRoleAssignment) ∈ db.directory.memberRoleAssignments ↔
      Roles.builtInRolePredicate role.key (db.directory.identity m) = true)) ∧
  ∀ a ∈ db.directory.userRoleAssignments, ∀ role ∈ db.directory.roles, role.id = a.roleId →
    Roles.isIdentityRoleKey role.key = false

instance (db : CongregationDb) : Decidable db.IdentityMirrored := inferInstanceAs (Decidable (_ ∧ _))

/-- A congregation that has its roles and its accounts, and no member yet. -/
structure NewCongregation (db : CongregationDb) : Prop where
  members : db.directory.members = []
  stints : db.directory.enrolments = []
  reports : db.directory.activity = []
  roles : Keyed Roles.Role.id db.directory.roles
  founded : Founded db.nextRoleId db.people.otherEmails db.directory.roles db.directory.accounts
  seats : ∀ a ∈ db.directory.userRoleAssignments, db.directory.NoIdentityRole a.roleId

section Runs

variable {text : PersonText} {dates : DateText} {db db' start : CongregationDb} {request : IdentityRequest}

theorem NewCongregation.sound (h : NewCongregation db) : db.Sound := by
  refine ⟨⟨?_, ?_⟩, h.roles, ⟨?_, ?_, ?_⟩, ?_, h.founded, ?_, h.seats⟩
  · rw [h.members]
    exact Keyed.nil
  · rw [h.members]
    exact fun _ hm => absurd hm List.not_mem_nil
  · rw [MemberDb.publisherDb, h.stints]
    exact Keyed.nil
  · rw [MemberDb.publisherDb, h.stints]
    exact fun _ he => absurd he List.not_mem_nil
  · rw [MemberDb.publisherDb, h.stints]
    exact fun _ he => absurd he List.not_mem_nil
  · rw [h.reports]
    exact fun _ hr => absurd hr List.not_mem_nil
  · rw [h.members]
    exact fun _ hm => absurd hm List.not_mem_nil

/-- An operation that mirrors on the directory mirrors on the congregation. -/
theorem performing_sound {α : Type} {x : MemberTx α}
    (hmirrors : ∀ a directory, x.exec db.directory = (.ok a, directory) →
      IdentitySound (Founded db.nextRoleId db.people.otherEmails) nobody directory)
    (hexec : (performing x).exec db = (.ok (), db')) : db'.Sound := by
  obtain ⟨a, db₁, hdirectory, hret⟩ := Tx.exec_bind_ok.mp hexec
  obtain ⟨-, rfl⟩ := Tx.exec_pure_ok.mp hret
  obtain ⟨directory, hx, rfl⟩ := Tx.exec_on_ok.mp hdirectory
  exact hmirrors a directory hx

theorem request_sound (h : db.Sound) (hkeeps : request.KeepsMirror db)
    (hexec : (request.run text dates).exec db = (.ok (), db')) : db'.Sound := by
  cases request with
  | createMember => exact performing_sound (fun _ _ hx => createMember_mirrors.of_ok hx h) hexec
  | createDirect => exact performing_sound (fun _ _ hx => createDirect_mirrors.of_ok hx h) hexec
  | updateIdentity => exact performing_sound (fun _ _ hx => updateIdentity_mirrors.of_ok hx h) hexec
  | togglePublisher => exact performing_sound (fun _ _ hx => togglePublisher_mirrors.of_ok hx h) hexec
  | setLifecycle => exact performing_sound (fun _ _ hx => setLifecycle_mirrors.of_ok hx h) hexec
  | anonymize => exact performing_sound (fun _ _ hx => anonymize_mirrors.of_ok hx h) hexec
  | enrolPioneer => exact performing_sound (fun _ _ hx => enrolPioneer_mirrors h hx) hexec
  | endPioneerEnrolment => exact performing_sound (fun _ _ hx => endPioneerEnrolment_mirrors h hx) hexec
  | updatePioneerEnrolment => exact performing_sound (fun _ _ hx => updatePioneerEnrolment_mirrors h hx) hexec
  | removePioneerEnrolment => exact performing_sound (fun _ _ hx => removePioneerEnrolment_mirrors h hx) hexec
  | endOngoingEnrolmentsOfType => exact performing_sound (fun _ _ hx => endOngoingStints_mirrors h hx) hexec
  | runImport => exact runCongregationImport_sound h hkeeps hexec

/-- **Identity roles mirror the members' facts** in every state of a run from a new congregation, whatever members
are created, edited and taken through, and whatever stints they are given, when its imports keep the mirror. -/
theorem identity_mirrored_of_run (h₀ : NewCongregation start)
    (hrun : Reach (identityStep text dates) (fun db request => request.KeepsMirror db) start db) :
    db.IdentityMirrored := by
  have hsound : db.Sound := by
    refine hrun.invariant (I := CongregationDb.Sound) h₀.sound fun db request h hkeeps => ?_
    rcases Tx.settle_uncaught (request.run text dates) db with ⟨_, hexec⟩ | hsame
    · exact request_sound h hkeeps hexec
    · rw [identityStep, hsame]
      exact h
  exact ⟨fun m hm => hsound.mirrored m hm id, hsound.seats⟩

end Runs

/-! ## What an import breaks -/

/-- The roles that `seedBuiltInRoles` gives, and nobody. -/
def foundedCongregation : CongregationDb :=
  let roles := Roles.seedBuiltInRoles ⟨[], [], [], [], [], [], ["can-do-anything"], 1⟩
  { people :=
      { directory := ⟨[], [], [], [], [], roles.roles, [], [], [], 1, 1, 1⟩
        nextAccountId := 1
        otherEmails := [] }
    nextRoleId := roles.nextRoleId
    nextActivityId := 1
    permissions := ["can-do-anything"] }

theorem foundedCongregation_new : NewCongregation foundedCongregation := by
  refine ⟨rfl, rfl, rfl, by decide +kernel, ⟨by decide +kernel, fun key hkey => ?_, ?_⟩, ?_⟩
  · have hall : ∀ key ∈ Roles.builtInRoleKeys, ∃ role ∈ foundedCongregation.directory.roles, role.key = key := by
      decide +kernel
    exact hall key (List.contains_iff_mem.mp hkey)
  · exact fun _ ha => absurd ha List.not_mem_nil
  · exact fun _ ha => absurd ha List.not_mem_nil

/-- A baptized publisher, as an archive has her. -/
def anneLine : MemberRecord where
  id := 7
  firstname := "Anne"
  lastname := "Martin"
  isPublisher := true
  isMale := some false
  phone := ""
  address := ""
  email := none
  birthDate := none
  baptismDate := some "2010-06-19T00:00:00.000Z"
  isHelder := false
  isServant := false
  isAnointed := false
  leftAt := none
  inactiveAt := none
  anonymizedAt := none
  arrivedAt := none
  lastPastoralVisitAt := none
  publisherGroupId := none

/-- Her line, an account, and a stint as a permanent pioneer from September 2024. -/
def archiveWith (endMonth endYear : Option Int) (roleKey : String) : PeopleArchive where
  roles := [⟨5, roleKey, none, none, true, none, none, none, none⟩]
  members := [anneLine]
  accounts := [⟨3, some 7, none, none, "anne@example.org", true, none, none⟩]
  seats := [⟨3, 5, none⟩]
  legacyGrants := []
  groups := []
  activities := []
  enrolments := [⟨1, 7, .pionnierPermanant, 8, 2024, endMonth, endYear, none⟩]

def afterImport (archive : PeopleArchive) : CongregationDb :=
  identityStep .ascii .iso foundedCongregation (.runImport false archive)

/-- A stint that is still open, and a seat among the sisters. -/
theorem imports_break_the_mirror :
    NewCongregation foundedCongregation ∧
      (∀ archive, Reach (identityStep .ascii .iso) (fun _ _ => True) foundedCongregation (afterImport archive)) ∧
      ¬(afterImport (archiveWith none none "admin")).IdentityMirrored ∧
      ¬(afterImport (archiveWith (some 7) (some 2025) "sister")).IdentityMirrored :=
  ⟨foundedCongregation_new, fun _ => .one trivial, by decide +kernel, by decide +kernel⟩

/-- A sister enrolled as a pioneer, and an archive whose stint is over. -/
def keptRun : List IdentityRequest :=
  [.createDirect ⟨"Marie", "Dubois", some false, none, some 0, true, false, false, false, none, "", ""⟩,
    .enrolPioneer 1 ⟨.pionnierPermanant, 8, 2024, none, none, none⟩,
    .runImport false (archiveWith (some 7) (some 2025) "admin")]

theorem keptRun_mirrored : (keptRun.foldl (identityStep .ascii .iso) foundedCongregation).IdentityMirrored := by
  have hthere : ∀ m ∈ ((keptRun.take 2).foldl (identityStep .ascii .iso) foundedCongregation).directory.members,
      ((keptRun.take 2).foldl (identityStep .ascii .iso) foundedCongregation).directory.publisherDb.periodsOf m.id ≠
        [] := by decide +kernel
  refine identity_mirrored_of_run foundedCongregation_new (.foldl ⟨trivial, trivial, ⟨?_, ?_, ?_, ?_⟩, trivial⟩)
  · intro oldId _ _ _
    unfold PeopleArchive.periodsOf archiveWith
    by_cases hline : (7 : Int) = oldId
    · simp [hline, Roles.standingTypeFromEnrolments, Roles.isOngoing, PioneerEnrolmentRecord.params,
        OpenEnrolmentParams.period]
    · simp [hline, Roles.standingTypeFromEnrolments]
  · rintro _ _ _ _ _ ⟨before, line, after, hlines, -⟩
    simp [PeopleArchive.reportsOf, archiveWith] at hlines
  · intro m hm _ hnone
    exact absurd hnone (hthere m hm)
  · decide +kernel

end Unitae.Settings
