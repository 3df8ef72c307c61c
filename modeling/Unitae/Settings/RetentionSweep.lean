import Unitae.Settings.AnonymizedMembers
import Unitae.Settings.RetentionDates

/-!
# Unitae — the retention sweep

Whom the sweep selects, and what one sweep does to each of them. A turn anonymizes its candidate or refuses
before it has written anything, and touches nobody else; so the members skipped are as they were.
`sweep_selects_due_iff` joins it with the dates of `RetentionDates`.
-/

namespace Unitae.Settings

open Publishers (Member MemberDb PublisherGroup)

/-! ## What a turn leaves alone -/

/-- Nothing about the member has changed. -/
structure PersonDb.SameFor (db db' : PersonDb) (p : Nat) : Prop where
  row : db'.people.memberById p = db.people.memberById p
  roles : db'.people.memberRoleAssignments.filter (·.memberId == p) =
    db.people.memberRoleAssignments.filter (·.memberId == p)
  contacts : db'.emergencyContacts.filter (·.memberId == p) =
    db.emergencyContacts.filter (·.memberId == p)
  flags : db'.emergencyFlags = db.emergencyFlags
  leads : (db'.people.groups.filter fun g => g.Leads p).map (·.id) =
    (db.people.groups.filter fun g => g.Leads p).map (·.id)
  territories : db'.territories = db.territories

section Turn

variable {db db₁ db₂ : PersonDb} {p q : Nat}

theorem PersonDb.SameFor.refl (db : PersonDb) (p : Nat) : db.SameFor db p :=
  ⟨rfl, rfl, rfl, rfl, rfl, rfl⟩

theorem PersonDb.SameFor.trans (h₁ : db.SameFor db₁ p) (h₂ : db₁.SameFor db₂ p) :
    db.SameFor db₂ p where
  row := h₂.row.trans h₁.row
  roles := h₂.roles.trans h₁.roles
  contacts := h₂.contacts.trans h₁.contacts
  flags := h₂.flags.trans h₁.flags
  leads := h₂.leads.trans h₁.leads
  territories := h₂.territories.trans h₁.territories

theorem memberById_updateMember_other {people : MemberDb} {data : Member → Member}
    (hid : ∀ m, (data m).id = m.id) (hother : q ≠ p) :
    (people.updateMember p data).memberById q = people.memberById q := by
  have hkey : ((fun m : Member => m.id == q) ∘ fun m => if m.id = p then data m else m) =
      fun m => m.id == q := by
    funext m
    show ((if m.id = p then data m else m).id == q) = (m.id == q)
    rw [column_ite (hid m)]
  unfold MemberDb.memberById
  rw [Publishers.MemberDb.updateMember_members, List.find?_map, hkey]
  cases hfind : people.members.find? (·.id == q) with
  | none => rfl
  | some m =>
    have hq : m.id = q := by simpa using List.find?_some hfind
    rw [Option.map_some, if_neg (by rw [hq]; exact hother)]

/-- A sync writes and removes assignments of its own member only. -/
theorem filter_synced_other {people : MemberDb} (hother : q ≠ p) :
    (Publishers.syncBuiltInRoleAssignments p people).memberRoleAssignments.filter (·.memberId == q) =
      people.memberRoleAssignments.filter (·.memberId == q) := by
  rw [Publishers.syncBuiltInRoleAssignments_memberRoleAssignments]
  unfold Roles.syncBuiltInRoleAssignments
  split
  · rfl
  · rw [Roles.RoleDb.deleteIdentities_memberRoleAssignments,
      Roles.RoleDb.createIdentities_memberRoleAssignments, List.filter_filter, List.filter_append]
    have hadded : ∀ ids : List Nat, ∀ keep : Roles.MemberRoleAssignment → Bool,
        (ids.map fun id => (⟨p, id⟩ : Roles.MemberRoleAssignment)).filter
          (fun a => a.memberId == q && keep a) = [] := by
      intro ids keep
      simpa using fun _ _ hq => absurd hq.symm hother
    rw [hadded, List.append_nil]
    apply List.filter_congr
    intro a _
    cases hq : a.memberId == q with
    | false => rfl
    | true =>
      have hp : (a.memberId == p) = false := by
        rw [eq_of_beq hq]
        exact beq_false_of_ne hother
      rw [hp]
      rfl

/-- Where a deputy is cleared, the others lead what they led. -/
theorem leads_cleared_other {groups : List PublisherGroup} (hother : q ≠ p) :
    ((groups.map fun g => if g.deputyId == some p then { g with deputyId := none } else g).filter
        fun g => g.Leads q).map (·.id) = (groups.filter fun g => g.Leads q).map (·.id) := by
  induction groups with
  | nil => rfl
  | cons g groups ih =>
    have hleads : (if g.deputyId == some p then { g with deputyId := none } else g).Leads q ↔
        g.Leads q := by
      unfold PublisherGroup.Leads
      split
      · next hdeputy =>
        rw [eq_of_beq hdeputy]
        simpa using fun h => absurd h.symm hother
      · rfl
    have hid : (if g.deputyId == some p then { g with deputyId := none } else g).id = g.id := by
      split <;> rfl
    simp only [List.map_cons, List.filter_cons, hleads]
    split
    · rw [List.map_cons, List.map_cons, hid, ih]
    · exact ih

/-! ## One turn -/

/-- A turn that anonymizes: the one it is for, and nobody else. -/
structure Anonymizes (db db' : PersonDb) (p : Nat) : Prop where
  anonymized : db'.Anonymized p
  others : ∀ q, q ≠ p → db.SameFor db' q
  stay : ∀ q, db.Anonymized q → db'.Anonymized q

theorem anonymized_updateMember {people : MemberDb} {data : Member → Member}
    (hid : ∀ m, (data m).id = m.id) (hstamp : ∀ m, m.anonymizedAt.isSome → (data m).anonymizedAt.isSome)
    (h : ∃ m ∈ people.members, m.id = q ∧ m.anonymizedAt.isSome) :
    ∃ m ∈ (people.updateMember p data).members, m.id = q ∧ m.anonymizedAt.isSome := by
  obtain ⟨m, hm, hq, hanonymized⟩ := h
  refine ⟨_, List.mem_map_of_mem hm, ?_, ?_⟩
  · rw [column_ite (hid m), hq]
  · split
    · exact hstamp m hanonymized
    · exact hanonymized

/-- The read finds the member; whoever is anonymized already is left at that. -/
theorem anonymizeRead_found {people : MemberDb} {seen : Option Member}
    (h : Publishers.anonymizeRead people p = .ok seen) :
    ∃ m, people.memberById p = some m ∧
      (seen = none ∧ m.anonymizedAt.isSome ∨ seen = some m) := by
  unfold Publishers.anonymizeRead at h
  obtain ⟨m, hfound, h⟩ := Tx.bind_eq_ok.mp h
  have hrow : people.memberById p = some m := by
    unfold MemberDb.memberOrRefuse at hfound
    cases hfind : people.memberById p with
    | none => simp [hfind] at hfound
    | some m' =>
      rw [hfind] at hfound
      rw [Except.ok.inj hfound]
  refine ⟨m, hrow, ?_⟩
  split at h
  · next hanonymized => exact .inl ⟨(Except.ok.inj h).symm, hanonymized⟩
  · obtain ⟨_, _, h⟩ := Tx.bind_eq_ok.mp h
    exact .inr (Except.ok.inj h).symm

/-- The writes of one anonymization. -/
theorem anonymizes_scrub {people : MemberDb} {seen : Member} {clock : Instant}
    (hseen : db.people.memberById seen.id = some seen)
    (hpeople : people = Publishers.syncBuiltInRoleAssignments seen.id
      ((db.people.updateMember seen.id (Member.scrub seen.leftAt clock)).updateGroups
        (·.deputyId == some seen.id) fun g => { g with deputyId := none })) :
    Anonymizes db (purgeEmergencyContacts seen.id { db with people := people }) seen.id := by
  have hid : ∀ m : Member, (m.scrub seen.leftAt clock).id = m.id := fun _ => rfl
  subst hpeople
  constructor
  · have hmem := (Publishers.memberById_mem hseen).1
    refine ⟨_, List.mem_map_of_mem hmem, ?_, ?_⟩
    · rw [column_ite (hid seen)]
    · rw [if_pos rfl]
      rfl
  · intro q hother
    constructor
    · exact memberById_updateMember_other hid hother
    · exact filter_synced_other hother
    · show ((db.emergencyContacts.filter fun c => c.memberId != seen.id).filter (·.memberId == q)) = _
      rw [List.filter_filter]
      apply List.filter_congr
      intro c _
      cases hq : c.memberId == q with
      | false => rfl
      | true =>
        rw [eq_of_beq hq]
        simpa using hother
    · rfl
    · exact leads_cleared_other hother
    · rfl
  · exact fun q h => anonymized_updateMember hid (fun _ _ => rfl) h

/-- `anonymize` refuses on what it has read, before it writes. -/
theorem exec_anonymize {clock : Instant} :
    (∃ e, (anonymize p clock).exec db = (.error e, db)) ∨
      ∃ db', (anonymize p clock).exec db = (.ok (), db') ∧ Anonymizes db db' p := by
  unfold anonymize
  rw [Tx.exec_bind_get, Tx.exec_bind, Tx.exec_check]
  cases hread : Publishers.anonymizeRead db.people p with
  | error e => exact .inl ⟨e, rfl⟩
  | ok seen =>
    obtain ⟨m, hfound, hcases⟩ := anonymizeRead_found hread
    obtain ⟨hmem, hid⟩ := Publishers.memberById_mem hfound
    right
    rcases hcases with ⟨rfl, hanonymized⟩ | rfl
    · -- anonymized before: nothing to do
      exact ⟨db, rfl, ⟨m, hmem, hid, hanonymized⟩, fun q _ => .refl db q, fun _ h => h⟩
    · subst hid
      refine ⟨_, ?_, @anonymizes_scrub db _ m clock hfound rfl⟩
      have hrow : db.people.memberOrRefuse m.id (.database .recordNotFound) = .ok m := by
        rw [MemberDb.memberOrRefuse, hfound]
      show ((onPeople (Publishers.scrubMember m clock) >>= fun _ =>
        modify (purgeEmergencyContacts m.id) : PersonTx Unit)).exec db = _
      unfold Publishers.scrubMember onPeople
      rw [Tx.exec_bind, Tx.exec_on, Tx.exec_bind_get, Tx.exec_bind, Tx.exec_check, hrow]
      rfl

/-- **One turn** counts its candidate on one side, and leaves things as they were on the other. -/
theorem exec_anonymizeOrSkip {clock : Instant} (tally : RetentionTally) :
    (anonymizeOrSkip clock tally p).exec db =
        (.ok { tally with skipped := tally.skipped + 1 }, db) ∨
      ∃ db', (anonymizeOrSkip clock tally p).exec db =
          (.ok { tally with anonymized := tally.anonymized + 1 }, db') ∧ Anonymizes db db' p := by
  unfold anonymizeOrSkip
  rw [Tx.exec_tryCatch, Tx.exec_bind]
  rcases @exec_anonymize db p clock with ⟨e, hrefused⟩ | ⟨db', hdone, hanonymizes⟩
  · rw [hrefused]
    exact .inl rfl
  · rw [hdone]
    exact .inr ⟨db', rfl, hanonymizes⟩

end Turn

/-! ## The sweep -/

/-- Each candidate is on one side and counted there; the anonymized are, and the skipped are as before, with
whoever was no candidate. -/
def Swept (before : PersonDb) (candidates : List Nat) (tally : RetentionTally) (after : PersonDb) :
    Prop :=
  ∃ done skipped : List Nat, (done ++ skipped).Perm candidates ∧ tally = ⟨done.length, skipped.length⟩ ∧
    (∀ p ∈ done, after.Anonymized p) ∧
    ∀ p, p ∈ skipped ∨ p ∉ candidates → before.SameFor after p

/-- Whom the sweep selects: the members who have left, are not anonymized, and are due. -/
def SelectsDue (db : PersonDb) (retentionMonths : Int) (now : Instant) : Prop :=
  ∀ m ∈ db.people.members, m.id ∈ findRetentionCandidates db.people retentionMonths now ↔
    m.anonymizedAt = none ∧ ∃ leftAt, m.leftAt = some leftAt ∧ Due retentionMonths leftAt now

/-- The sweep completes, and counts each of those it selects once. -/
def SweepCounts (db : PersonDb) (retentionMonths : Int) (now clock : Instant) : Prop :=
  (findRetentionCandidates db.people retentionMonths now).Nodup ∧
    ∃ tally db', (autoAnonymizeRetentionCandidates retentionMonths now clock).exec db = (.ok tally, db') ∧
      Swept db (findRetentionCandidates db.people retentionMonths now) tally db'

section Sweep

variable {db db₁ db₂ : PersonDb} {p : Nat} {candidates : List Nat} {tally : RetentionTally}
  {retentionMonths : Int} {now clock : Instant}

theorem Swept.skip (h : Swept db candidates tally db₁) (hnew : p ∉ candidates) :
    Swept db (candidates ++ [p]) { tally with skipped := tally.skipped + 1 } db₁ := by
  obtain ⟨done, skipped, hperm, rfl, hdone, hrest⟩ := h
  refine ⟨done, skipped ++ [p], ?_, by simp, hdone, ?_⟩
  · rw [← List.append_assoc]
    exact hperm.append_right [p]
  · intro q hq
    apply hrest
    rw [List.mem_append, List.mem_singleton, List.mem_append, List.mem_singleton] at hq
    rcases hq with (hskipped | rfl) | hno
    · exact .inl hskipped
    · -- no turn has been his yet
      exact .inr hnew
    · exact .inr fun hin => hno (.inl hin)

theorem Swept.anonymize (h : Swept db candidates tally db₁) (hnew : p ∉ candidates)
    (hturn : Anonymizes db₁ db₂ p) :
    Swept db (candidates ++ [p]) { tally with anonymized := tally.anonymized + 1 } db₂ := by
  obtain ⟨done, skipped, hperm, rfl, hdone, hrest⟩ := h
  refine ⟨p :: done, skipped, ?_, rfl, ?_, ?_⟩
  · have hfront : (p :: (done ++ skipped)).Perm (p :: candidates) := hperm.cons p
    exact hfront.trans (List.perm_append_singleton p candidates).symm
  · intro q hq
    cases hq with
    | head => exact hturn.anonymized
    | tail _ hq => exact hturn.stay q (hdone q hq)
  · intro q hq
    have hother : q ≠ p := by
      rintro rfl
      cases hq with
      | inl hskipped => exact hnew (hperm.subset (List.mem_append_right done hskipped))
      | inr hno => exact hno (List.mem_append_right candidates List.mem_cons_self)
    have hbefore : q ∈ skipped ∨ q ∉ candidates :=
      hq.imp_right fun hno hin => hno (List.mem_append_left [p] hin)
    exact (hrest q hbefore).trans (hturn.others q hother)

theorem sweep_counts (hkeys : Keyed Member.id db.people.members) :
    SweepCounts db retentionMonths now clock := by
  have hnodup : (findRetentionCandidates db.people retentionMonths now).Nodup := hkeys.filter _
  have hturn : ∀ p tally db₁, ∃ tally' db₂,
      (anonymizeOrSkip clock tally p).exec db₁ = (.ok tally', db₂) := by
    intro p tally db₁
    rcases @exec_anonymizeOrSkip db₁ p clock tally with hskip | ⟨db₂, hdone, _⟩
    · exact ⟨_, _, hskip⟩
    · exact ⟨_, _, hdone⟩
  obtain ⟨tally, db', hexec⟩ := @Tx.exec_foldlM_total _ _ _ _
    (findRetentionCandidates db.people retentionMonths now) _ hturn ⟨0, 0⟩ db
  refine ⟨hnodup, tally, db', hexec, ?_⟩
  refine Tx.foldlM_done hexec ⟨[], [], .nil, rfl, nofun, fun p _ => .refl db p⟩ ?_
  intro done p rest hsplit tally₁ db₁ tally₂ db₂ hswept hexec₁
  have hnew : p ∉ done := by
    rw [hsplit, List.nodup_append] at hnodup
    exact fun hp => hnodup.2.2 p hp p List.mem_cons_self rfl
  rcases @exec_anonymizeOrSkip db₁ p clock tally₁ with hskip | ⟨db₂', hdone, hanonymizes⟩
  · rw [hskip] at hexec₁
    obtain ⟨htally, hdb⟩ := Prod.mk.inj hexec₁
    rw [← Except.ok.inj htally, ← hdb]
    exact hswept.skip hnew
  · rw [hdone] at hexec₁
    obtain ⟨htally, hdb⟩ := Prod.mk.inj hexec₁
    rw [← Except.ok.inj htally, ← hdb]
    exact hswept.anonymize hnew hanonymizes

theorem mem_findRetentionCandidates (hkeys : Keyed Member.id db.people.members) {m : Member}
    (hm : m ∈ db.people.members) :
    m.id ∈ findRetentionCandidates db.people retentionMonths now ↔
      m.anonymizedAt = none ∧
        ∃ leftAt, m.leftAt = some leftAt ∧ leftAt ≤ retentionCutoff retentionMonths now := by
  have hself : m.id ∈ findRetentionCandidates db.people retentionMonths now ↔
      isRetentionCandidate (retentionCutoff retentionMonths now) m = true := by
    constructor
    · intro h
      obtain ⟨m', hm', hid⟩ := List.mem_map.mp h
      rw [List.mem_filter] at hm'
      rw [← hkeys.eq_of_key hm'.1 hm hid]
      exact hm'.2
    · exact fun h => List.mem_map_of_mem (List.mem_filter.mpr ⟨hm, h⟩)
  rw [hself]
  unfold isRetentionCandidate
  rw [Bool.and_eq_true, Option.isNone_iff_eq_none, Option.any_eq_true]
  simp only [decide_eq_true_eq]

/-- Nobody who has left falls where the two ways of counting part. -/
def NoneBetween (db : PersonDb) (retentionMonths : Int) (now : Instant) : Prop :=
  ∀ m ∈ db.people.members, m.anonymizedAt = none → ∀ leftAt, m.leftAt = some leftAt →
    ¬ErasedEarly retentionMonths leftAt now ∧ ¬KeptOver retentionMonths leftAt now

/-- **The sweep erases whom it should when it should**, each candidate once and the skipped not at all,
exactly when nobody who has left falls where counting back and counting forward part. -/
theorem sweep_selects_due_iff (hkeys : db.PrimaryKeys) :
    SelectsDue db retentionMonths now ∧ SweepCounts db retentionMonths now clock ↔
      NoneBetween db retentionMonths now := by
  rw [and_iff_left (sweep_counts hkeys.1)]
  refine forall₂_congr fun m hm => ?_
  rw [mem_findRetentionCandidates hkeys.1 hm]
  cases hanonymized : m.anonymizedAt with
  | some _ => simp
  | none =>
    cases hleft : m.leftAt with
    | none => simp
    | some leftAt =>
      simp only [true_and, Option.some.injEq, exists_eq_left', forall_const, forall_eq']
      exact le_cutoff_iff_due

end Sweep

/-! ## A sweep on the last day of March -/

/-- Midnight of this day of 2025. -/
def midnightOf2025 (month day : Int) : Instant :=
  Calendar.msPerDay * Calendar.daysFromCivil 2025 month day

/-- `onePublisher`, who left on this day of 2025. -/
def leftIn2025 (month day : Int) : PersonDb :=
  { onePublisher with
    people := { onePublisher.people with
      members := [{ Publishers.blankMember 1 with leftAt := some (midnightOf2025 month day) }] } }

/-- With a retention of one month, the sweep of 15 July takes him who left on 1 June. -/
theorem sweep_of_july :
    (leftIn2025 6 1).PrimaryKeys ∧ SelectsDue (leftIn2025 6 1) 1 (midnightOf2025 7 15) ∧
      SweepCounts (leftIn2025 6 1) 1 (midnightOf2025 7 15) (midnightOf2025 7 15) := by
  have hkeys : (leftIn2025 6 1).PrimaryKeys := by decide
  refine ⟨hkeys, (sweep_selects_due_iff hkeys).mpr ?_⟩
  intro m hm _ leftAt hleft
  rw [List.mem_singleton.mp hm] at hleft
  rw [← Option.some.inj hleft]
  decide +kernel

/-- He left on 2 March and is erased on the 31st, for February has no 31st: the cutoff is 3 March. -/
theorem march_erases_early :
    ∃ db : PersonDb, db.PrimaryKeys ∧ ¬SelectsDue db 1 (midnightOf2025 3 31) := by
  refine ⟨leftIn2025 3 2, by decide, fun hselects => ?_⟩
  have hselected : 1 ∈ findRetentionCandidates (leftIn2025 3 2).people 1 (midnightOf2025 3 31) := by
    decide +kernel
  obtain ⟨-, leftAt, hleft, hdue⟩ := (hselects _ List.mem_cons_self).mp hselected
  rw [← Option.some.inj hleft] at hdue
  exact absurd hdue (by decide +kernel)

end Unitae.Settings
