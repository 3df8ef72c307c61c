import Unitae.Base.Run
import Unitae.Publishers.ErasedMembers
import Unitae.Settings.Anonymization

/-!
# Unitae — an anonymized member stays anonymous

What anonymizing promises of a member, over the members, the attributions and the emergency contacts. The
workflow keeps the promise. The retention sweep closes no attribution, and the other operations look at
`anonymizedAt` nowhere: a run keeps the promise as long as they spare the members who are anonymized.
-/

namespace Unitae.Settings

open Publishers (Member MemberDb PersonText)
open Territories (TerritoryDb)

/-! ## The promise -/

/-- The row is blank and left, and nothing elsewhere still names the member. -/
structure PersonDb.Anonymous (db : PersonDb) (m : Member) : Prop where
  blank : m.Blank
  contacts : ∀ c ∈ db.emergencyContacts, c.memberId ≠ m.id
  leads : ∀ g ∈ db.people.groups, ¬g.Leads m.id
  identity : ∀ a ∈ db.people.memberRoleAssignments, a.memberId = m.id →
    db.people.NoIdentityRole a.roleId
  returned : ∀ a ∈ db.territories.attributions, a.publisherId = m.id → a.endDate.isSome

def PersonDb.AnonymizedStay (db : PersonDb) : Prop :=
  ∀ m ∈ db.people.members, m.anonymizedAt.isSome → db.Anonymous m

/-- The primary keys. -/
def PersonDb.PrimaryKeys (db : PersonDb) : Prop :=
  Keyed Member.id db.people.members ∧ Keyed Roles.Role.id db.people.roles

/-- The member with this id is anonymized. -/
def PersonDb.Anonymized (db : PersonDb) (memberId : Nat) : Prop :=
  ∃ m ∈ db.people.members, m.id = memberId ∧ m.anonymizedAt.isSome

/-- Every territory of the publisher is handed back. -/
def PersonDb.HandedBack (db : PersonDb) (publisherId : Nat) : Prop :=
  ∀ a ∈ db.territories.attributions, a.publisherId = publisherId → a.endDate.isSome

/-- The promise for a set of members, and whoever is anonymized is one of them. -/
structure PersonDb.Erases (db : PersonDb) (erased : Set Nat) : Prop where
  people : db.people.Erases erased
  contacts : ∀ c ∈ db.emergencyContacts, c.memberId ∉ erased
  returned : ∀ p ∈ erased, db.HandedBack p

/-- The promise is kept for some set of members, among whom is everyone anonymized. -/
def PersonDb.Promised (db : PersonDb) : Prop := ∃ erased, db.Erases erased

section Promise

variable {db : PersonDb} {erased : Set Nat}

/-- The members of the set who are anonymized are the set the promise is about. -/
theorem PersonDb.Erases.exact (h : db.Erases erased) : db.Erases {p | db.Anonymized p} := by
  have hknown : ∀ p, db.Anonymized p → p ∈ erased := by
    intro p hp
    obtain ⟨m, hm, hid, hanonymized⟩ := hp
    rw [← hid]
    exact h.people.known m hm hanonymized
  constructor
  · constructor
    · exact h.people.members_keyed
    · exact h.people.roles_keyed
    · exact fun m hm hanonymized => ⟨m, hm, rfl, hanonymized⟩
    · exact fun m hm hp => h.people.blank m hm (hknown m.id hp)
    · exact fun g hg p hp => h.people.leads g hg p (hknown p hp)
    · exact fun a ha hp => h.people.identity a ha (hknown a.memberId hp)
  · exact fun c hc hp => h.contacts c hc (hknown c.memberId hp)
  · exact fun p hp => h.returned p (hknown p hp)

theorem promised_iff : db.Promised ↔ db.PrimaryKeys ∧ db.AnonymizedStay := by
  constructor
  · rintro ⟨erased, herases⟩
    have h := herases.exact
    refine ⟨⟨h.people.members_keyed, h.people.roles_keyed⟩, fun m hm hanonymized => ?_⟩
    have hhere : db.Anonymized m.id := ⟨m, hm, rfl, hanonymized⟩
    constructor
    · exact h.people.blank m hm hhere
    · exact fun c hc hid => h.contacts c hc (show db.Anonymized c.memberId by rw [hid]; exact hhere)
    · exact fun g hg => h.people.leads g hg m.id hhere
    · exact fun a ha hid => h.people.identity a ha (show db.Anonymized a.memberId by rw [hid]; exact hhere)
    · exact h.returned m.id hhere
  · intro h
    have hpromise : ∀ p, db.Anonymized p → ∃ m ∈ db.people.members, m.id = p ∧ db.Anonymous m :=
      fun p ⟨m, hm, hid, hanonymized⟩ => ⟨m, hm, hid, h.2 m hm hanonymized⟩
    refine ⟨{p | db.Anonymized p}, ?_, ?_, ?_⟩
    · constructor
      · exact h.1.1
      · exact h.1.2
      · exact fun m hm hanonymized => ⟨m, hm, rfl, hanonymized⟩
      · intro m hm hp
        obtain ⟨m', hm', hid, hanonymous⟩ := hpromise m.id hp
        rw [h.1.1.eq_of_key hm hm' hid.symm]
        exact hanonymous.blank
      · intro g hg p hp
        obtain ⟨m, _, hid, hanonymous⟩ := hpromise p hp
        rw [← hid]
        exact hanonymous.leads g hg
      · intro a ha hp
        obtain ⟨m, _, hid, hanonymous⟩ := hpromise a.memberId hp
        exact hanonymous.identity a ha hid.symm
    · intro c hc hp
      obtain ⟨m, _, hid, hanonymous⟩ := hpromise c.memberId hp
      exact hanonymous.contacts c hc hid.symm
    · intro p hp a ha hpublisher
      obtain ⟨m, _, hid, hanonymous⟩ := hpromise p hp
      exact hanonymous.returned a ha (hpublisher.trans hid.symm)

end Promise

/-! ## Operations -/

section Operations

variable {rt : PersonText} {tz : LocalTime} {db : PersonDb} {erased : Set Nat} {memberId : Nat}

theorem erases_onPeople {α : Type} {x : Publishers.MemberTx α}
    (hx : Tx.Keeps (MemberDb.Erases · erased) x) :
    Tx.Keeps (PersonDb.Erases · erased) (onPeople x) :=
  hx.on (fun _ h => h.people) fun _ _ h hpeople => { h with people := hpeople }

theorem erases_discard {α : Type} {x : Publishers.MemberTx α}
    (hx : Tx.Keeps (MemberDb.Erases · erased) x) :
    Tx.Keeps (PersonDb.Erases · erased) (onPeople (Publishers.discard x)) :=
  erases_onPeople (hx.bind fun _ => Tx.keeps_pure _)

/-- The form replaces the contacts of one member. -/
theorem erases_updateEmergencyInfo {params : UpdateEmergencyInfoParams}
    (hspared : memberId ∈ erased → params.contacts = []) :
    Tx.Keeps (PersonDb.Erases · erased) (updateEmergencyInfo memberId params) := by
  refine Tx.Keeps.get_bind fun _ => (Tx.keeps_check _).bind fun _ => ?_
  refine (Tx.keeps_modify ?_).bind fun _ => (Tx.keeps_modify ?_).bind fun _ => Tx.keeps_modify ?_
  · exact fun db h => { h with }
  · exact fun db h => { h with contacts := fun c hc => h.contacts c (List.mem_filter.mp hc).1 }
  · intro db h
    refine { h with contacts := fun c hc => ?_ }
    cases List.mem_append.mp hc with
    | inl hold => exact h.contacts c hold
    | inr hnew =>
      obtain ⟨⟨contact, id⟩, hcontact, hrow⟩ := List.mem_map.mp hnew
      intro herased
      have hmember : c.memberId = memberId := by rw [← hrow]; rfl
      rw [hmember] at herased
      rw [hspared herased] at hcontact
      cases hcontact

theorem erases_assign {params : Territories.CreateAttributionParams}
    (hspared : params.publisherId ∉ erased) :
    Tx.Keeps (PersonDb.Erases · erased) (onTerritories (Territories.assign tz params)) := by
  have hkeeps : Tx.Keeps (fun db : TerritoryDb => ∀ p ∈ erased, ∀ a ∈ db.attributions,
      a.publisherId = p → a.endDate.isSome) (Territories.assign tz params) := by
    refine Tx.keeps_checked fun db row h hchecks p hp a ha hpublisher => ?_
    obtain ⟨territory, startDate, _, rfl⟩ := Territories.assignChecks_ok.mp hchecks
    cases List.mem_append.mp ha with
    | inl hold => exact h p hp a hold hpublisher
    | inr hnew =>
      rw [List.mem_singleton.mp hnew] at hpublisher
      have hsame : params.publisherId = p := hpublisher
      exact absurd hp (hsame ▸ hspared)
  exact hkeeps.on (fun _ h => h.returned) fun _ _ h hreturned => { h with returned := hreturned }

theorem erases_updateAttribution {id : Nat} {params : Territories.UpdateAttributionParams}
    (h : db.Erases erased)
    (hspared : params.publisherId ∈ erased → params.endDate = none →
      ∀ a ∈ db.territories.attributions, a.id = id → a.endDate.isSome) :
    ((onTerritories (Territories.update id params)).exec db).2.Erases erased := by
  unfold onTerritories Territories.update
  rw [Tx.exec_on, Tx.exec_bind_get, Tx.exec_bind, Tx.exec_check]
  cases hchecks : Territories.updateChecks db.territoryDb id params with
  | error e => exact { h with }
  | ok _ =>
    refine { h with returned := fun p hp a' ha' hpublisher => ?_ }
    obtain ⟨a, ha, rfl⟩ := List.mem_map.mp ha'
    split at hpublisher
    · next hsel =>
      rw [if_pos hsel]
      have hsame : params.publisherId = p := hpublisher
      show (params.nextEnd a).isSome
      unfold Territories.UpdateAttributionParams.nextEnd
      cases hend : params.endDate with
      | some endDate => rfl
      | none => exact hspared (hsame ▸ hp) hend a ha (by simpa using hsel)
    · next hsel =>
      rw [if_neg hsel]
      exact h.returned p hp a ha hpublisher

/-! ### Anonymizing -/

/-- What the workflow does first: the member's open attributions are closed, and no other is opened. -/
theorem handedBack_markReturned (db : PersonDb) (memberId : Nat) (now : Instant) :
    ∃ territories, (onTerritories (Territories.markReturnedForPublisher memberId now)).exec db =
        (.ok (), { db with territories := territories }) ∧
      ({ db with territories := territories } : PersonDb).HandedBack memberId ∧
      ∀ p, db.HandedBack p → ({ db with territories := territories } : PersonDb).HandedBack p := by
  refine ⟨_, rfl, ?_, ?_⟩
  · intro a' ha' hpublisher
    obtain ⟨a, ha, rfl⟩ := List.mem_map.mp ha'
    split at hpublisher
    · next hsel =>
      rw [if_pos hsel]
      rfl
    · next hsel =>
      rw [if_neg hsel]
      simpa [hpublisher, Option.isSome_iff_ne_none] using hsel
  · intro p hp a' ha' hpublisher
    obtain ⟨a, ha, rfl⟩ := List.mem_map.mp ha'
    split
    · rfl
    · next hsel =>
      rw [if_neg hsel] at hpublisher
      exact hp a ha hpublisher

/-- The promise of the members already anonymized, and of each of the rest who could be: no overseer, and
no territory out. -/
structure Anonymizable (db : PersonDb) (ready : Set Nat) : Prop where
  promised : db.Promised
  ready : ∀ p ∈ ready, db.people.responsibleFor p = none → db.HandedBack p

/-- **One anonymization** of a member who is ready: the row is scrubbed, the contacts are removed, and the
others stay ready. -/
theorem anonymize_keeps {ready : Set Nat} {now : Instant} (hready : memberId ∈ ready) :
    Tx.Keeps (Anonymizable · ready) (anonymize memberId now) := by
  refine Tx.keeps_checked_bind fun db seen h hread => ?_
  cases seen with
  | none => exact h
  | some seen =>
    obtain ⟨hmem, hid, hresp⟩ := Publishers.anonymizeRead_ok hread
    subst hid
    obtain ⟨erased, herases⟩ := h.promised
    obtain ⟨people, hexec, hscrubbed⟩ := @Publishers.erases_scrubMember db.people erased herases.people
      seen now hmem hresp
    show Anonymizable (((onPeople (Publishers.scrubMember seen now) >>= fun _ =>
      modify (purgeEmergencyContacts seen.id)) : PersonTx Unit).exec db).2 ready
    rw [Tx.exec_bind, onPeople, Tx.exec_on, hexec]
    have hback : db.HandedBack seen.id := h.ready seen.id hready hresp
    refine ⟨⟨insert seen.id erased, hscrubbed, ?_, ?_⟩, ?_⟩
    · intro c hc hnamed
      obtain ⟨hold, hother⟩ := List.mem_filter.mp hc
      cases hnamed with
      | inl hseen => simp [hseen] at hother
      | inr hin => exact herases.contacts c hold hin
    · intro p hp
      cases hp with
      | inl hseen =>
        rw [hseen]
        exact hback
      | inr hin => exact herases.returned p hin
    · intro p hp hnone
      apply h.ready p hp
      by_contra hleads
      have hstill := @Publishers.responsibleFor_scrubMember seen now p db.people hleads
      rw [hexec] at hstill
      exact hstill hnone

theorem anonymizeMemberWorkflow_promised {now : Instant} (h : db.Promised) :
    ((anonymizeMemberWorkflow memberId now).exec db).2.Promised := by
  obtain ⟨erased, herases⟩ := h
  obtain ⟨territories, hexec, hback, hkept⟩ := handedBack_markReturned db memberId now
  have hclosed : Anonymizable { db with territories := territories } {memberId} := by
    refine ⟨⟨erased, { herases with returned := fun p hp => hkept p (herases.returned p hp) }⟩, ?_⟩
    intro p hp _
    rw [Set.mem_singleton_iff.mp hp]
    exact hback
  unfold anonymizeMemberWorkflow
  rw [Tx.exec_bind, hexec]
  exact (anonymize_keeps (Set.mem_singleton memberId) _ hclosed).promised

/-- A candidate who is skipped leaves things as they were. -/
theorem anonymizeOrSkip_keeps {ready : Set Nat} {clock : Instant} {tally : RetentionTally}
    (hready : memberId ∈ ready) :
    Tx.Keeps (Anonymizable · ready) (anonymizeOrSkip clock tally memberId) :=
  ((anonymize_keeps hready).bind fun _ => Tx.keeps_pure _).tryCatch fun _ => Tx.keeps_pure _

theorem autoAnonymize_promised {retentionMonths : Int} {now clock : Instant} (h : db.Promised)
    (hback : ∀ m ∈ db.people.members,
      isRetentionCandidate (retentionCutoff retentionMonths now) m = true →
        db.people.responsibleFor m.id = none → db.HandedBack m.id) :
    ((autoAnonymizeRetentionCandidates retentionMonths now clock).exec db).2.Promised := by
  let candidates := findRetentionCandidates db.people retentionMonths now
  have hready : Anonymizable db {p | p ∈ candidates} := by
    refine ⟨h, fun p hp => ?_⟩
    obtain ⟨m, hm, hid⟩ := List.mem_map.mp hp
    obtain ⟨hmem, hcandidate⟩ := List.mem_filter.mp hm
    rw [← hid]
    exact hback m hmem hcandidate
  have hsweep : Tx.Keeps (Anonymizable · {p | p ∈ candidates})
      (candidates.foldlM (anonymizeOrSkip clock) ⟨0, 0⟩) :=
    Tx.Keeps.foldlM (fun p hp _ => anonymizeOrSkip_keeps hp) _
  exact (hsweep db hready).promised

end Operations

/-! ## Runs -/

/-- The steps that spare those who are anonymized: a sweep finds no open attribution on a member it is
about to scrub; no return of one; no edit of one but the blank form; no group, no emergency contact and no
open attribution for one. -/
def PersonOp.Spares (db : PersonDb) : PersonOp → Prop
  | .autoAnonymizeRetentionCandidates retentionMonths now _ =>
    ∀ m ∈ db.people.members, isRetentionCandidate (retentionCutoff retentionMonths now) m = true →
      db.people.responsibleFor m.id = none → db.HandedBack m.id
  | .setLifecycle memberId state _ _ => db.Anonymized memberId → state ≠ .returned
  | .updateIdentity memberId params => db.Anonymized memberId → params.Placeholder
  | .setGroup memberId groupId => db.Anonymized memberId → groupId = none
  | .updateEmergencyInfo memberId params => db.Anonymized memberId → params.contacts = []
  | .assign params => ¬db.Anonymized params.publisherId
  | .updateAttribution id params =>
    db.Anonymized params.publisherId → params.endDate = none →
      ∀ a ∈ db.territories.attributions, a.id = id → a.endDate.isSome
  | _ => True

section Runs

variable {rt : PersonText} {tz : LocalTime} {caught : Failure → Bool} {db : PersonDb}

/-- The step lemma. -/
theorem PersonOp.promised {op : PersonOp} (hpromised : db.Promised) (hspares : op.Spares db) :
    (db.step rt tz caught op).Promised := by
  apply Tx.settle_invariant hpromised
  have h : db.Erases {p | db.Anonymized p} := hpromised.choose_spec.exact
  have hkept : ∀ {x : PersonTx Unit}, Tx.Keeps (PersonDb.Erases · {p | db.Anonymized p}) x →
      (x.exec db).2.Promised := fun hx => ⟨_, hx db h⟩
  cases op with
  | anonymizeMember memberId now => exact anonymizeMemberWorkflow_promised hpromised
  | autoAnonymizeRetentionCandidates retentionMonths now clock =>
    have hswept := @autoAnonymize_promised db retentionMonths now clock hpromised hspares
    show (((Settings.autoAnonymizeRetentionCandidates retentionMonths now clock >>= fun _ =>
      pure ()) : PersonTx Unit).exec db).2.Promised
    rw [Tx.exec_discard]
    exact hswept
  | setLifecycle memberId state at_ now =>
    exact hkept (erases_onPeople (Publishers.erases_setLifecycle hspares))
  | updateIdentity memberId params =>
    exact hkept (erases_discard (Publishers.erases_updateIdentity hspares))
  | togglePublisher memberId isPublisher =>
    exact hkept (erases_discard Publishers.erases_togglePublisher)
  | setGroup memberId groupId => exact hkept (erases_onPeople (Publishers.erases_setGroup hspares))
  | updateEmergencyInfo memberId params => exact hkept (erases_updateEmergencyInfo hspares)
  | assign params => exact hkept (erases_assign hspares)
  | updateAttribution id params => exact ⟨_, erases_updateAttribution h hspares⟩
  | createPublisherGroup params => exact hkept (erases_discard Publishers.erases_createPublisherGroup)
  | updateGroup groupId params => exact hkept (erases_discard Publishers.erases_updateGroup)
  | deletePublisherGroup groupId =>
    exact hkept (erases_onPeople Publishers.erases_deletePublisherGroup)
  | addGroupMember groupId memberId => exact hkept (erases_discard Publishers.erases_addGroupMember)
  | removeGroupMember groupId memberId =>
    exact hkept (erases_discard Publishers.erases_removeGroupMember)

/-- **Anonymizing is complete and stays so** in every run whose steps spare those who are anonymized. -/
theorem anonymized_stay {start : PersonDb} (hkeys : start.PrimaryKeys) (hstart : start.AnonymizedStay)
    (hrun : Reach (PersonDb.step rt tz caught) (fun db op => op.Spares db) start db) :
    db.AnonymizedStay := by
  have hpromised : db.Promised :=
    hrun.invariant (promised_iff.mpr ⟨hkeys, hstart⟩) fun _ _ h hspares => PersonOp.promised h hspares
  exact (promised_iff.mp hpromised).2

end Runs

/-! ## Two ways to be anonymized -/

instance (db : PersonDb) (memberId : Nat) : Decidable (db.Anonymized memberId) :=
  inferInstanceAs (Decidable (∃ _ ∈ _, _))

instance (db : PersonDb) (publisherId : Nat) : Decidable (db.HandedBack publisherId) :=
  inferInstanceAs (Decidable (∀ _ ∈ _, _))

instance (db : PersonDb) : Decidable db.PrimaryKeys := inferInstanceAs (Decidable (_ ∧ _))

instance (db : PersonDb) : (op : PersonOp) → Decidable (op.Spares db)
  | .autoAnonymizeRetentionCandidates retentionMonths now _ =>
    inferInstanceAs (Decidable (∀ m ∈ db.people.members,
      isRetentionCandidate (retentionCutoff retentionMonths now) m = true →
        db.people.responsibleFor m.id = none → db.HandedBack m.id))
  | .setLifecycle memberId state _ _ =>
    inferInstanceAs (Decidable (db.Anonymized memberId → state ≠ .returned))
  | .updateIdentity memberId params =>
    inferInstanceAs (Decidable (db.Anonymized memberId → params.Placeholder))
  | .setGroup memberId groupId => inferInstanceAs (Decidable (db.Anonymized memberId → groupId = none))
  | .updateEmergencyInfo memberId params =>
    inferInstanceAs (Decidable (db.Anonymized memberId → params.contacts = []))
  | .assign params => inferInstanceAs (Decidable ¬db.Anonymized params.publisherId)
  | .updateAttribution id params =>
    inferInstanceAs (Decidable (db.Anonymized params.publisherId → params.endDate = none →
      ∀ a ∈ db.territories.attributions, a.id = id → a.endDate.isSome))
  | .anonymizeMember .. => inferInstanceAs (Decidable True)
  | .togglePublisher .. => inferInstanceAs (Decidable True)
  | .createPublisherGroup .. => inferInstanceAs (Decidable True)
  | .updateGroup .. => inferInstanceAs (Decidable True)
  | .deletePublisherGroup .. => inferInstanceAs (Decidable True)
  | .addGroupMember .. => inferInstanceAs (Decidable True)
  | .removeGroupMember .. => inferInstanceAs (Decidable True)

/-- A brother with no territory yet. -/
def onePublisher : PersonDb where
  people := {
    members := [
      { Publishers.blankMember 1 with
        firstname := "Paul", lastname := "Martin", isMale := some true, isPublisher := true }]
    groups := []
    otherGroupIds := []
    enrolments := []
    activity := []
    roles := [
      { id := 1, key := "member", name := none, description := none, isBuiltIn := true,
        parentRoleId := none, showInOrganigram := false, organigramOrder := none,
        isSinglePerson := false }]
    memberRoleAssignments := [⟨1, 1⟩]
    accounts := []
    userRoleAssignments := []
    nextMemberId := 2
    nextGroupId := 1
    nextEnrolmentId := 1 }
  territories := {
    attributions := []
    campaigns := []
    territories := [⟨1, .classical⟩]
    members := [1]
    settings := []
    nextAttributionId := 1
    nextCampaignId := 1 }
  emergencyFlags := [⟨1, false, false⟩]
  emergencyContacts := []
  nextContactId := 1

theorem onePublisher_stays : onePublisher.AnonymizedStay := by
  intro m hm hanonymized
  rw [List.mem_singleton.mp hm] at hanonymized
  cases hanonymized

/-- The first of a month in 2025, at midnight. -/
def monthOf2025 (month : Int) : Instant :=
  Calendar.msPerDay * Calendar.daysFromCivil 2025 month 1

def takesTerritory : PersonOp := .assign ⟨1, 1, "2025-01-01", "", .default, none⟩

/-- Anonymized by hand with a territory and an emergency contact, then edited in ways that spare him. -/
def anonymizedByHand : List PersonOp :=
  [takesTerritory,
   .updateEmergencyInfo 1 ⟨true, true, [⟨"Anne Martin", "conjoint", "0600000000"⟩]⟩,
   .anonymizeMember 1 (monthOf2025 2),
   .togglePublisher 1 false,
   .setLifecycle 1 .inactive none (monthOf2025 3),
   .updateEmergencyInfo 1 ⟨false, false, []⟩,
   .autoAnonymizeRetentionCandidates 6 (monthOf2025 12) (monthOf2025 12)]

theorem anonymizedByHand_stays :
    (anonymizedByHand.foldl (PersonDb.step .ascii .utc fun _ => false) onePublisher).AnonymizedStay :=
  anonymized_stay (by decide) onePublisher_stays (Reach.foldl (by decide +kernel))

/-- He leaves with his territory still out; half a year later the sweep scrubs him, and leaves it so. -/
def sweptAway : List PersonOp :=
  [takesTerritory,
   .setLifecycle 1 .left none (monthOf2025 2),
   .autoAnonymizeRetentionCandidates 6 (monthOf2025 12) (monthOf2025 12)]

theorem sweep_leaves_attribution :
    ∃ db, Reach (PersonDb.step .ascii .utc fun _ => false) (fun _ _ => True) onePublisher db ∧
      ¬db.AnonymizedStay := by
  refine ⟨sweptAway.foldl (PersonDb.step .ascii .utc fun _ => false) onePublisher,
    Reach.foldl (by decide), fun hstay => ?_⟩
  have hout : ∃ m ∈ (sweptAway.foldl (PersonDb.step .ascii .utc fun _ => false)
      onePublisher).people.members, m.anonymizedAt.isSome ∧
        ∃ a ∈ (sweptAway.foldl (PersonDb.step .ascii .utc fun _ => false)
          onePublisher).territories.attributions, a.publisherId = m.id ∧ a.endDate = none := by
    decide +kernel
  obtain ⟨m, hm, hanonymized, a, ha, hpublisher, hopen⟩ := hout
  have hreturned := (hstay m hm hanonymized).returned a ha hpublisher
  rw [hopen] at hreturned
  cases hreturned

end Unitae.Settings
