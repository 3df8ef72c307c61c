import Unitae.Publishers.ActivityHistory
import Unitae.Publishers.EnrolmentWorkflow

/-!
# Unitae — the stints that a backfill leaves

Per member, the periods before and after: a member who has a stint keeps what is there, and one who has none gets
the stints derived from the reports. Of the derived stints just one can be open, and it makes the member a standing
pioneer: it is there when the last report is that of a pioneer by the year (`endsAsPioneer_of_standing`).
-/

namespace Unitae.Publishers

/-! ## A derived stint without an end -/

/-- A pioneer by the year, and not by the month. -/
def isYearlyType (type : PublisherType) : Bool := isPioneerType type && !isAuxiliaryType type

/-- The last report for the last month is a yearly pioneer's. -/
def EndsAsPioneer (rows : List PublisherActivity) : Prop :=
  ∃ r ∈ rows, isYearlyType r.type = true ∧
    ∀ x ∈ rows, x.absMonth < r.absMonth ∨ x.absMonth = r.absMonth ∧ x.id ≤ r.id

section Derivation

variable {rows : List PublisherActivity} {stint : OpenEnrolmentParams}

theorem Run.yearly {run : Run} {ongoing : Bool} (h : stint ∈ run.stints ongoing) (hopen : stint.endMonth = none) :
    ongoing = true ∧ isYearlyType run.type = true := by
  unfold Run.stints at h
  split at h
  · cases h
  · next hpioneer =>
    have hpioneer' : isPioneerType run.type = true := by simpa using hpioneer
    split at h
    · obtain ⟨r, -, rfl⟩ := List.mem_map.mp h
      cases hopen
    · next haux =>
      have haux' : isAuxiliaryType run.type = false := by simpa using haux
      obtain rfl := List.mem_singleton.mp h
      cases ongoing with
      | false => cases hopen
      | true => exact ⟨rfl, by rw [isYearlyType, hpioneer', haux']; rfl⟩

/-- An open stint is made of the last run, whose last row is the last one of all. -/
theorem endsAsPioneer_of_open (h : stint ∈ deriveStintsFromActivity rows) (hopen : stint.endMonth = none) :
    EndsAsPioneer rows := by
  obtain ⟨⟨run, i⟩, hrun, hstint⟩ := List.mem_flatMap.mp h
  obtain ⟨-, hi, hget⟩ := List.mem_zipIdx hrun
  obtain ⟨hongoing, hyearly⟩ := Run.yearly hstint hopen
  have hlastIndex : i = (groupRuns (dedupeLatestPerMonth rows)).length - 1 := by
    simp only [Bool.and_eq_true, beq_iff_eq] at hongoing
    exact hongoing.1
  have hlastRun : (groupRuns (dedupeLatestPerMonth rows)).getLast? = some run := by
    rw [List.getLast?_eq_getElem?, ← hlastIndex, List.getElem?_eq_getElem (by omega), hget]
    simp
  -- so the last of its rows comes after all the others
  obtain ⟨earlier, hruns⟩ := List.getLast?_eq_some_iff.mp hlastRun
  have hmemRun : run ∈ groupRuns (dedupeLatestPerMonth rows) := List.mem_of_getLast? hlastRun
  have hsplit : dedupeLatestPerMonth rows =
      (earlier.flatMap Run.rows ++ run.rows.dropLast) ++ [run.rows.getLast run.rows_ne] := by
    rw [List.append_assoc, List.dropLast_append_getLast, ← @groupRuns_rows (dedupeLatestPerMonth rows), hruns]
    simp
  have hlast : run.rows.getLast run.rows_ne ∈ run.rows := List.getLast_mem _
  have hstrict := @dedupe_strict rows
  rw [hsplit] at hstrict
  refine ⟨run.rows.getLast run.rows_ne, ?_, ?_, fun x hx => ?_⟩
  · have hmem : run.rows.getLast run.rows_ne ∈ dedupeLatestPerMonth rows := by
      rw [hsplit]
      exact List.mem_append_right _ List.mem_cons_self
    exact latest_foldl.mem _ (mem_dedupe.mp hmem)
  · rw [uniform_groupRuns run hmemRun _ hlast]
    exact hyearly
  · obtain ⟨d, hd, -, hmonth, hid⟩ := dedupe_latest hx
    rw [hsplit] at hd
    rcases List.mem_append.mp hd with hearlier | hd
    · left
      rw [← hmonth]
      exact (List.pairwise_append.mp hstrict).2.2 d hearlier _ List.mem_cons_self
    · rw [List.mem_singleton.mp hd] at hmonth hid
      exact .inr ⟨hmonth.symm, hid⟩

end Derivation

/-- The period of the row of a stint, whatever its id and its member. -/
def OpenEnrolmentParams.period (params : OpenEnrolmentParams) : Roles.EnrolmentPeriod where
  type := params.type.toRoles
  startMonth := params.startMonth
  startYear := params.startYear
  endMonth := params.endMonth
  endYear := params.endYear
  monthlyGoal := params.monthlyGoal

/-- The periods of the stints derived from the reports. -/
def derivedPeriods (rows : List PublisherActivity) : List Roles.EnrolmentPeriod :=
  (deriveStintsFromActivity rows).map (·.period)

/-- **Reports make a standing pioneer of the member only when the last one is a yearly pioneer's.** -/
theorem endsAsPioneer_of_standing {rows : List PublisherActivity}
    (h : Roles.standingTypeFromEnrolments (derivedPeriods rows) ≠ .normal) : EndsAsPioneer rows := by
  unfold Roles.standingTypeFromEnrolments at h
  cases hfound : (derivedPeriods rows).find? Roles.isOngoing with
  | none =>
    rw [hfound] at h
    exact absurd rfl h
  | some period =>
    obtain ⟨stint, hstint, rfl⟩ := List.mem_map.mp (List.mem_of_find?_eq_some hfound)
    have hongoing : Roles.isOngoing stint.period = true := List.find?_some hfound
    have hopen : stint.endMonth.isNone = true ∧ stint.endYear.isNone = true := by
      simpa [Roles.isOngoing, OpenEnrolmentParams.period] using hongoing
    exact endsAsPioneer_of_open hstint (Option.isNone_iff_eq_none.mp hopen.1)

/-! ## What the backfill opens -/

def PublisherDb.reportsOf (db : PublisherDb) (memberId : Nat) : List PublisherActivity :=
  db.activity.filter (·.publisherId == memberId)

/-- The periods that the backfill gives a member. -/
def PublisherDb.backfilled (db : PublisherDb) (memberId : Nat) : List Roles.EnrolmentPeriod :=
  if db.periodsOf memberId = [] then derivedPeriods (db.reportsOf memberId) else db.periodsOf memberId

section Backfill

variable {db db' : PublisherDb} {memberId p : Nat} {params : OpenEnrolmentParams}

theorem WritesStintsOf.refl (h : StintsKeyed db) : WritesStintsOf db memberId db := ⟨h, rfl, rfl, fun _ _ => rfl⟩

theorem WritesStintsOf.trans {db'' : PublisherDb} (h : WritesStintsOf db memberId db')
    (h' : WritesStintsOf db' memberId db'') : WritesStintsOf db memberId db'' :=
  ⟨h'.keyed, h'.members.trans h.members, h'.activity.trans h.activity,
    fun p hp => (h'.others p hp).trans (h.others p hp)⟩

/-- A new stint comes after those that its member has. -/
theorem periodsOf_create :
    (db.createEnrolment (newEnrolment memberId params)).periodsOf p =
      if p = memberId then db.periodsOf p ++ [params.period] else db.periodsOf p := by
  unfold PublisherDb.periodsOf PublisherDb.stintsOf
  rw [PublisherDb.createEnrolment_enrolments]
  split
  · next hp =>
    rw [List.filter_append, List.map_append, hp]
    simp [newEnrolment, OpenEnrolmentParams.period, PioneerEnrolment.period]
  · next hp => rw [stintsOf_append_of_ne (Ne.symm hp)]

theorem openAll_writes {stints : List OpenEnrolmentParams} (h : StintsKeyed db)
    (hexec : (openAll memberId stints).exec db = (.ok (), db')) :
    WritesStintsOf db memberId db' ∧ db'.periodsOf memberId = db.periodsOf memberId ++ stints.map (·.period) := by
  refine Tx.forM_invariant (I := fun done s => WritesStintsOf db memberId s ∧
    s.periodsOf memberId = db.periodsOf memberId ++ done.map (·.period)) hexec ⟨.refl h, by simp⟩ ?_
  intro done stint _ _ s s' ⟨hwrites, hperiods⟩ hturn
  obtain ⟨row, s₁, hopened, hret⟩ := Tx.exec_bind_ok.mp hturn
  obtain ⟨-, rfl⟩ := Tx.exec_pure_ok.mp hret
  refine ⟨hwrites.trans (openEnrolment_writes hwrites.keyed hopened), ?_⟩
  obtain ⟨-, rfl⟩ := openEnrolment_ok hopened
  rw [periodsOf_create, if_pos rfl, hperiods, List.map_append, List.append_assoc]
  rfl

theorem backfillMember_writes {n : Nat} (h : StintsKeyed db)
    (hexec : (backfillMemberEnrolments memberId).exec db = (.ok n, db')) :
    WritesStintsOf db memberId db' ∧ db'.periodsOf memberId = db.backfilled memberId := by
  unfold backfillMemberEnrolments at hexec
  rw [Tx.exec_bind_get] at hexec
  have hnone : db.periodsOf memberId = [] ↔ ¬0 < (db.enrolments.filter (·.memberId == memberId)).length := by
    rw [PublisherDb.periodsOf, List.map_eq_nil_iff, Nat.not_lt, Nat.le_zero, List.length_eq_zero_iff]
    rfl
  unfold PublisherDb.backfilled
  split at hexec
  · next hsome =>
    obtain ⟨-, rfl⟩ := Tx.exec_pure_ok.mp hexec
    exact ⟨.refl h, (if_neg fun hempty => hnone.mp hempty hsome).symm⟩
  · next hempty =>
    obtain ⟨s₁, hloop, hret⟩ := Tx.exec_seq_ok.mp hexec
    obtain ⟨-, rfl⟩ := Tx.exec_pure_ok.mp hret
    obtain ⟨hwrites, hperiods⟩ := openAll_writes h hloop
    rw [if_pos (hnone.mpr hempty)]
    rw [hnone.mpr hempty, List.nil_append] at hperiods
    exact ⟨hwrites, hperiods⟩

/-- **The backfill gives each member what it gives one**, whoever comes first. -/
theorem backfillCongregation_writes {backfilled : Backfilled} (h : StintsKeyed db)
    (hexec : backfillCongregationEnrolments.exec db = (.ok backfilled, db')) :
    StintsKeyed db' ∧ db'.members = db.members ∧ db'.activity = db.activity ∧
      ∀ p ∈ db.members, db'.periodsOf p = db.backfilled p := by
  unfold backfillCongregationEnrolments at hexec
  rw [Tx.exec_bind_get] at hexec
  obtain ⟨stints, s₁, hloop, hret⟩ := Tx.exec_bind_ok.mp hexec
  obtain ⟨-, rfl⟩ := Tx.exec_pure_ok.mp hret
  have hdone : StintsKeyed db' ∧ db'.members = db.members ∧ db'.activity = db.activity ∧
      ∀ p, db'.periodsOf p = if p ∈ db.members then db.backfilled p else db.periodsOf p := by
    refine Tx.foldlM_done (I := fun done _ s => StintsKeyed s ∧ s.members = db.members ∧
      s.activity = db.activity ∧
        ∀ p, s.periodsOf p = if p ∈ done then db.backfilled p else db.periodsOf p) hloop
      ⟨h, rfl, rfl, fun p => (if_neg List.not_mem_nil).symm⟩ ?_
    intro done memberId _ _ _ s _ s' ⟨hkeyed, hmembers, hactivity, hperiods⟩ hturn
    obtain ⟨_, s₂, hfill, hret⟩ := Tx.exec_bind_ok.mp hturn
    obtain ⟨-, rfl⟩ := Tx.exec_pure_ok.mp hret
    obtain ⟨hwrites, hfilled⟩ := backfillMember_writes hkeyed hfill
    refine ⟨hwrites.keyed, hwrites.members.trans hmembers, hwrites.activity.trans hactivity, fun p => ?_⟩
    have hreports : s.reportsOf memberId = db.reportsOf memberId := by
      unfold PublisherDb.reportsOf
      rw [hactivity]
    by_cases hp : p = memberId
    · subst hp
      rw [hfilled, if_pos (List.mem_append_right _ List.mem_cons_self)]
      unfold PublisherDb.backfilled
      rw [hreports, hperiods]
      -- a member met twice is given the same twice
      unfold PublisherDb.backfilled
      split_ifs <;> rfl
    · have hrest : p ∈ done ++ [memberId] ↔ p ∈ done := by simp [hp]
      have hother : s'.periodsOf p = s.periodsOf p := by
        unfold PublisherDb.periodsOf
        rw [hwrites.others p hp]
      rw [hother, hperiods]
      simp only [hrest]
  obtain ⟨hkeyed, hmembers, hactivity, hperiods⟩ := hdone
  exact ⟨hkeyed, hmembers, hactivity, fun p hp => (hperiods p).trans (if_pos hp)⟩

end Backfill

end Unitae.Publishers
