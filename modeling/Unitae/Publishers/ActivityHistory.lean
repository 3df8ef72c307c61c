import Unitae.Base.Listing
import Unitae.Publishers.EnrolmentPeriods
import Unitae.Publishers.Stints

/-!
# Unitae — the backfill and the activity history (`pioneer-enrolment-backfill.server.ts`)

The stints derived from a member's monthly reports say again what the reports said. A month counts with
its latest report (`dedupe_latest`); the months come in strict order, the runs cut them into stretches of
one type, and each stint starts and, when it ends, ends at a month of its run. So a later stint starts
after every earlier one has ended (`derived_before`), and a month lies in no stint of another run.
-/

namespace Unitae.Publishers

variable {rows : List PublisherActivity}

/-! ## One report a month -/

section Dedupe

variable {byMonth : List PublisherActivity} {r : PublisherActivity}

theorem setLatest_cases :
    (r.absMonth ∉ byMonth.map (·.absMonth) ∧ setLatest byMonth r = byMonth ++ [r]) ∨
    ∃ existing ∈ byMonth, existing.absMonth = r.absMonth ∧
      (r.id ≤ existing.id ∧ setLatest byMonth r = byMonth ∨
        existing.id < r.id ∧ setLatest byMonth r =
          byMonth.map fun x => if x.absMonth = r.absMonth then r else x) := by
  unfold setLatest
  cases hfound : byMonth.find? (·.absMonth == r.absMonth) with
  | none =>
    left
    refine ⟨fun hmem => ?_, rfl⟩
    obtain ⟨x, hx, heq⟩ := List.mem_map.mp hmem
    exact List.find?_eq_none.mp hfound x hx (by simpa using heq)
  | some existing =>
    right
    refine ⟨existing, List.mem_of_find?_eq_some hfound, by simpa using List.find?_some hfound, ?_⟩
    by_cases hlater : existing.id < r.id
    · exact .inr ⟨hlater, if_pos hlater⟩
    · exact .inl ⟨Nat.le_of_not_lt hlater, if_neg hlater⟩

/-- What a part of the reports leaves: one report a month, the latest of that month. -/
structure Latest (seen byMonth : List PublisherActivity) : Prop where
  nodup : (byMonth.map (·.absMonth)).Nodup
  mem : ∀ d ∈ byMonth, d ∈ seen
  covers : ∀ r ∈ seen, ∃ d ∈ byMonth, d.absMonth = r.absMonth ∧ r.id ≤ d.id

theorem Latest.set {seen : List PublisherActivity} (h : Latest seen byMonth) :
    Latest (seen ++ [r]) (setLatest byMonth r) := by
  rcases @setLatest_cases byMonth r with
    ⟨hnew, heq⟩ | ⟨existing, hexisting, hmonth, ⟨hearlier, heq⟩ | ⟨hlater, heq⟩⟩ <;> rw [heq]
  · refine ⟨?_, fun d hd => ?_, fun x hx => ?_⟩
    · rw [List.map_append, List.map_singleton]
      exact List.nodup_append.mpr ⟨h.nodup, List.nodup_singleton _, fun a ha b hb hab =>
        hnew (List.mem_singleton.mp hb ▸ hab ▸ ha)⟩
    · rcases List.mem_append.mp hd with hold | hr
      · exact List.mem_append_left _ (h.mem d hold)
      · exact List.mem_append_right _ hr
    · rcases List.mem_append.mp hx with hold | hr
      · obtain ⟨d, hd, hsame⟩ := h.covers x hold
        exact ⟨d, List.mem_append_left _ hd, hsame⟩
      · rw [List.mem_singleton.mp hr]
        exact ⟨r, List.mem_append_right _ List.mem_cons_self, rfl, le_refl _⟩
  · refine ⟨h.nodup, fun d hd => List.mem_append_left _ (h.mem d hd), fun x hx => ?_⟩
    rcases List.mem_append.mp hx with hold | hr
    · exact h.covers x hold
    · rw [List.mem_singleton.mp hr]
      exact ⟨existing, hexisting, hmonth, hearlier⟩
  · -- the report takes the place of the one of its month
    have hmonths : (byMonth.map fun x => if x.absMonth = r.absMonth then r else x).map (·.absMonth) =
        byMonth.map (·.absMonth) := by
      rw [List.map_map]
      refine List.map_congr_left fun x _ => ?_
      by_cases hx : x.absMonth = r.absMonth
      · simp [hx]
      · simp [hx]
    have hput : r ∈ byMonth.map fun x => if x.absMonth = r.absMonth then r else x :=
      List.mem_map.mpr ⟨existing, hexisting, if_pos hmonth⟩
    refine ⟨hmonths ▸ h.nodup, fun d hd => ?_, fun x hx => ?_⟩
    · obtain ⟨x, hx, rfl⟩ := List.mem_map.mp hd
      split
      · exact List.mem_append_right _ List.mem_cons_self
      · exact List.mem_append_left _ (h.mem x hx)
    · rcases List.mem_append.mp hx with hold | hr
      · obtain ⟨d, hd, hsame, hid⟩ := h.covers x hold
        by_cases hd' : d.absMonth = r.absMonth
        · have hdr : d = existing := List.inj_on_of_nodup_map h.nodup hd hexisting (hd'.trans hmonth.symm)
          exact ⟨r, hput, hd'.symm.trans hsame, hid.trans (hdr ▸ hlater.le)⟩
        · exact ⟨d, List.mem_map.mpr ⟨d, hd, if_neg hd'⟩, hsame, hid⟩
      · rw [List.mem_singleton.mp hr]
        exact ⟨r, hput, rfl, le_refl _⟩

theorem latest_foldl : Latest rows (rows.foldl setLatest []) := by
  suffices hfrom : ∀ rest seen byMonth, Latest seen byMonth →
      Latest (seen ++ rest) (rest.foldl setLatest byMonth) from
    hfrom rows [] [] ⟨List.nodup_nil, fun _ hd => hd, fun _ hr => absurd hr List.not_mem_nil⟩
  intro rest
  induction rest with
  | nil =>
    intro seen byMonth h
    rwa [List.append_nil]
  | cons r rest ih =>
    intro seen byMonth h
    have hset := ih (seen ++ [r]) (setLatest byMonth r) h.set
    rwa [List.append_assoc] at hset

end Dedupe

theorem mem_dedupe {r : PublisherActivity} :
    r ∈ dedupeLatestPerMonth rows ↔ r ∈ rows.foldl setLatest [] :=
  List.mem_mergeSort

/-- **Every month reported has one report left**, the latest one filed for it. -/
theorem dedupe_latest {r : PublisherActivity} (h : r ∈ rows) :
    ∃ d ∈ dedupeLatestPerMonth rows, d ∈ rows ∧ d.absMonth = r.absMonth ∧ r.id ≤ d.id := by
  obtain ⟨d, hd, hmonth, hid⟩ := latest_foldl.covers r h
  exact ⟨d, mem_dedupe.mpr hd, latest_foldl.mem d hd, hmonth, hid⟩

theorem dedupe_strict :
    (dedupeLatestPerMonth rows).Pairwise fun a b => a.absMonth < b.absMonth := by
  have hnodup : ((dedupeLatestPerMonth rows).map (·.absMonth)).Nodup :=
    ((List.mergeSort_perm _ _).map _).nodup_iff.mpr latest_foldl.nodup
  have hne : (dedupeLatestPerMonth rows).Pairwise fun a b => a.absMonth ≠ b.absMonth :=
    List.pairwise_map.mp hnodup
  exact (dedupe_sorted.and hne).imp fun h => lt_of_le_of_ne h.1 h.2

/-! ## Runs -/

/-- The rows of a run are of its type. -/
def Uniform (runs : List Run) : Prop := ∀ run ∈ runs, ∀ x ∈ run.rows, x.type = run.type

theorem Uniform.append_one {runs : List Run} {run : Run} (h : Uniform runs)
    (hrun : ∀ x ∈ run.rows, x.type = run.type) : Uniform (runs ++ [run]) := by
  intro run' hrun'
  rcases List.mem_append.mp hrun' with hold | hnew
  · exact h run' hold
  · rw [List.mem_singleton.mp hnew]
    exact hrun

theorem Uniform.groupRow {runs : List Run} {r : PublisherActivity} (h : Uniform runs) :
    Uniform (groupRow runs r) := by
  have hstarts : Uniform (runs ++ [⟨r.type, [r], by simp⟩]) :=
    h.append_one fun x hx => by rw [List.mem_singleton.mp hx]
  unfold Publishers.groupRow
  split
  · next current hlast =>
    split
    · next hsame =>
      obtain ⟨before, rfl⟩ := List.getLast?_eq_some_iff.mp hlast
      rw [List.dropLast_concat]
      refine Uniform.append_one (fun run hrun => h run (List.mem_append_left _ hrun)) fun x hx => ?_
      rcases List.mem_append.mp hx with hold | hr
      · exact h current (List.mem_append_right _ List.mem_cons_self) x hold
      · rw [List.mem_singleton.mp hr]
        exact hsame.symm
    · exact hstarts
  · exact hstarts

theorem uniform_groupRuns {deduped : List PublisherActivity} : Uniform (groupRuns deduped) := by
  suffices hfrom : ∀ (rest : List PublisherActivity) (runs : List Run), Uniform runs →
      Uniform (rest.foldl groupRow runs) from hfrom deduped [] fun _ h => absurd h List.not_mem_nil
  intro rest
  induction rest with
  | nil => exact fun runs h => h
  | cons r rest ih => exact fun runs h => ih _ h.groupRow

/-- Within a run, and from one run to the next, the months go up. -/
theorem runs_strict :
    (∀ run ∈ groupRuns (dedupeLatestPerMonth rows),
      run.rows.Pairwise fun a b => a.absMonth < b.absMonth) ∧
    (groupRuns (dedupeLatestPerMonth rows)).Pairwise fun earlier later =>
      ∀ x ∈ earlier.rows, ∀ y ∈ later.rows, x.absMonth < y.absMonth := by
  have hstrict := @dedupe_strict rows
  rw [← @groupRuns_rows (dedupeLatestPerMonth rows), List.pairwise_flatMap] at hstrict
  exact hstrict

theorem Run.head_le {run : Run} (h : run.rows.Pairwise fun a b => a.absMonth < b.absMonth)
    {x : PublisherActivity} (hx : x ∈ run.rows) :
    (run.rows.head run.rows_ne).absMonth ≤ x.absMonth := by
  obtain ⟨type, rows, hne⟩ := run
  cases rows with
  | nil => exact absurd rfl hne
  | cons first rest =>
    rcases List.mem_cons.mp hx with rfl | hlater
    · exact le_refl _
    · exact ((List.pairwise_cons.mp h).1 x hlater).le

theorem Run.le_getLast {run : Run} (h : run.rows.Pairwise fun a b => a.absMonth < b.absMonth)
    {x : PublisherActivity} (hx : x ∈ run.rows) :
    x.absMonth ≤ (run.rows.getLast run.rows_ne).absMonth := by
  have hsplit := List.dropLast_append_getLast run.rows_ne
  rw [← hsplit] at h hx
  rcases List.mem_append.mp hx with hearlier | hlast
  · exact ((List.pairwise_append.mp h).2.2 x hearlier _ List.mem_cons_self).le
  · rw [List.mem_singleton.mp hlast]

/-! ## The stints of a run -/

/-- A stint made of a run: of its type, from a month of the run, to a month of it or, when the run is
ongoing, without end. -/
structure StintOf (run : Run) (ongoing : Bool) (stint : OpenEnrolmentParams) : Prop where
  pioneer : isPioneerType run.type = true
  type : stint.type = run.type
  paired : endBoundsArePaired stint.endMonth stint.endYear = true
  start : ∃ first ∈ run.rows, stint.range.span.start = first.absMonth
  stop : (∃ last ∈ run.rows, stint.range.span.stop = some last.absMonth) ∨
    ongoing = true ∧ stint.range.span.stop = none

theorem Run.stintOf {run : Run} {ongoing : Bool} {stint : OpenEnrolmentParams}
    (htypes : ∀ x ∈ run.rows, x.type = run.type) (h : stint ∈ run.stints ongoing) :
    StintOf run ongoing stint := by
  unfold Run.stints at h
  split at h
  · cases h
  · next hpioneer =>
    have hpioneer' : isPioneerType run.type = true := by simpa using hpioneer
    split at h
    · obtain ⟨r, hr, rfl⟩ := List.mem_map.mp h
      exact ⟨hpioneer', htypes r hr, rfl, ⟨r, hr, rfl⟩, .inl ⟨r, hr, rfl⟩⟩
    · rw [List.mem_singleton.mp h]
      have hfirst : ∃ first ∈ run.rows, (annualStint run ongoing).range.span.start = first.absMonth :=
        ⟨_, List.head_mem run.rows_ne, rfl⟩
      cases ongoing with
      | true => exact ⟨hpioneer', rfl, rfl, hfirst, .inr ⟨rfl, rfl⟩⟩
      | false =>
        exact ⟨hpioneer', rfl, rfl, hfirst, .inl ⟨_, List.getLast_mem run.rows_ne, rfl⟩⟩

/-- The one ends before the other starts. -/
def Before (a b : OpenEnrolmentParams) : Prop :=
  ∃ t, a.range.span.stop = some t ∧ t < b.range.span.start

theorem Before.apart {a b : OpenEnrolmentParams} (h : Before a b) :
    enrolmentsOverlap a.range b.range = false := by
  obtain ⟨t, hstop, hlt⟩ := h
  refine Bool.eq_false_iff.mpr fun hover => ?_
  exact absurd ((enrolmentsOverlap_iff.mp hover).1 t hstop) (not_le.mpr hlt)

theorem Run.stints_before {run : Run} {ongoing : Bool}
    (h : run.rows.Pairwise fun a b => a.absMonth < b.absMonth) :
    (run.stints ongoing).Pairwise Before := by
  unfold Run.stints
  split
  · exact List.Pairwise.nil
  · split
    · rw [List.pairwise_map]
      exact h.imp fun hlt => ⟨_, rfl, hlt⟩
    · exact List.pairwise_singleton _ _

/-- A pioneer's month is covered by a stint of its run. -/
theorem Run.covers {run : Run} (ongoing : Bool) {r : PublisherActivity}
    (h : run.rows.Pairwise fun a b => a.absMonth < b.absMonth) (hr : r ∈ run.rows)
    (hpioneer : isPioneerType run.type = true) :
    ∃ stint ∈ run.stints ongoing, coversMonth stint.range r.month r.year = true := by
  unfold Run.stints
  rw [if_neg (by rw [hpioneer]; decide)]
  split
  · refine ⟨singleMonthStint r, List.mem_map_of_mem hr, (coversMonth_iff rfl).mpr ⟨le_refl _, ?_⟩⟩
    intro t ht
    exact (Option.some.inj ht).le
  · refine ⟨annualStint run ongoing, List.mem_singleton_self _, ?_⟩
    cases ongoing with
    | true =>
      refine (coversMonth_iff rfl).mpr ⟨run.head_le h hr, fun t ht => ?_⟩
      cases ht
    | false =>
      refine (coversMonth_iff rfl).mpr ⟨run.head_le h hr, fun t ht => ?_⟩
      rw [← Option.some.inj ht]
      exact run.le_getLast h hr

/-! ## All the stints -/

/-- A derived stint with the run it is made of; only the last run leaves one open. -/
theorem mem_derived {stint : OpenEnrolmentParams} (h : stint ∈ deriveStintsFromActivity rows) :
    ∃ i, ∃ hi : i < (groupRuns (dedupeLatestPerMonth rows)).length,
      ∃ ongoing, (ongoing = true → i + 1 = (groupRuns (dedupeLatestPerMonth rows)).length) ∧
        StintOf (groupRuns (dedupeLatestPerMonth rows))[i] ongoing stint := by
  obtain ⟨⟨run, i⟩, hrun, hstint⟩ := List.mem_flatMap.mp h
  obtain ⟨-, hi, hget⟩ := List.mem_zipIdx hrun
  rw [Nat.zero_add] at hi
  have hget' : run = (groupRuns (dedupeLatestPerMonth rows))[i] := hget
  have hof := Run.stintOf (uniform_groupRuns run (hget' ▸ List.getElem_mem hi)) hstint
  rw [hget'] at hof
  refine ⟨i, hi, _, fun hongoing => ?_, hof⟩
  have hlast : i = (groupRuns (dedupeLatestPerMonth rows)).length - 1 := by
    simp only [Bool.and_eq_true, beq_iff_eq] at hongoing
    exact hongoing.1
  omega

theorem StintOf.before {run run' : Run} {ongoing ongoing' : Bool} {a b : OpenEnrolmentParams}
    (ha : StintOf run ongoing a) (hb : StintOf run' ongoing' b) (hclosed : ongoing = false)
    (hruns : ∀ x ∈ run.rows, ∀ y ∈ run'.rows, x.absMonth < y.absMonth) : Before a b := by
  obtain ⟨first, hfirst, hstart⟩ := hb.start
  rcases ha.stop with ⟨last, hlast, hstop⟩ | ⟨hongoing, -⟩
  · refine ⟨last.absMonth, hstop, ?_⟩
    rw [hstart]
    exact hruns last hlast first hfirst
  · rw [hclosed] at hongoing
    cases hongoing

/-- **Each derived stint ends before the next one starts.** -/
theorem derived_before : (deriveStintsFromActivity rows).Pairwise Before := by
  obtain ⟨hrows, hruns⟩ := @runs_strict rows
  refine List.pairwise_flatMap.mpr ⟨?_, ?_⟩
  · rintro ⟨run, i⟩ hrun
    obtain ⟨_, _, hget⟩ := List.mem_zipIdx hrun
    exact Run.stints_before (hrows run (hget ▸ List.getElem_mem _))
  · rw [List.pairwise_iff_getElem]
    intro i j hi hj hij a ha b hb
    rw [List.getElem_zipIdx] at ha hb
    rw [List.length_zipIdx] at hi hj
    have ha' := Run.stintOf (uniform_groupRuns _ (List.getElem_mem hi)) ha
    have hb' := Run.stintOf (uniform_groupRuns _ (List.getElem_mem hj)) hb
    refine ha'.before hb' ?_ (List.pairwise_iff_getElem.mp hruns i j hi hj hij)
    -- a run with another behind it is not the last
    have hnot : i ≠ (groupRuns (dedupeLatestPerMonth rows)).length - 1 := by omega
    simp [hnot]

theorem derived_paired {stint : OpenEnrolmentParams} (h : stint ∈ deriveStintsFromActivity rows) :
    endBoundsArePaired stint.endMonth stint.endYear = true := by
  obtain ⟨_, _, _, _, hof⟩ := mem_derived h
  exact hof.paired

/-- A month that a derived stint covers and that was reported was reported as of its type. -/
theorem type_of_covers {stint : OpenEnrolmentParams} {r : PublisherActivity}
    (h : stint ∈ deriveStintsFromActivity rows) (hr : r ∈ dedupeLatestPerMonth rows)
    (hcovers : coversMonth stint.range r.month r.year = true) :
    stint.type = r.type ∧ isPioneerType r.type = true := by
  obtain ⟨-, hruns⟩ := @runs_strict rows
  obtain ⟨i, hi, ongoing, hlast, hof⟩ := mem_derived h
  obtain ⟨hstart, hreach⟩ := (coversMonth_iff hof.paired).mp hcovers
  rw [← @groupRuns_rows (dedupeLatestPerMonth rows)] at hr
  obtain ⟨run, hrun, hrow⟩ := List.mem_flatMap.mp hr
  obtain ⟨j, hj, rfl⟩ := List.mem_iff_getElem.mp hrun
  rw [List.pairwise_iff_getElem] at hruns
  rcases Nat.lt_trichotomy i j with hlt | rfl | hgt
  · -- the stint's run is over before the month
    exfalso
    rcases hof.stop with ⟨last, hmem, hstop⟩ | ⟨hongoing, -⟩
    · have hle := hreach _ hstop
      exact absurd (hruns i j hi hj hlt last hmem r hrow) (not_lt.mpr hle)
    · have hlen := hlast hongoing
      omega
  · have htype := uniform_groupRuns _ (List.getElem_mem hi) r hrow
    rw [htype]
    exact ⟨hof.type, hof.pioneer⟩
  · -- the stint's run starts after the month
    exfalso
    obtain ⟨first, hmem, hfirst⟩ := hof.start
    rw [hfirst] at hstart
    exact absurd (hruns j i hj hi hgt r hrow first hmem) (not_lt.mpr hstart)

theorem derived_covers {r : PublisherActivity} (hr : r ∈ dedupeLatestPerMonth rows)
    (hpioneer : isPioneerType r.type = true) :
    ∃ stint ∈ deriveStintsFromActivity rows, coversMonth stint.range r.month r.year = true := by
  obtain ⟨hrows, -⟩ := @runs_strict rows
  rw [← @groupRuns_rows (dedupeLatestPerMonth rows)] at hr
  obtain ⟨run, hrun, hrow⟩ := List.mem_flatMap.mp hr
  obtain ⟨i, hi, rfl⟩ := List.mem_iff_getElem.mp hrun
  have htype := uniform_groupRuns _ hrun r hrow
  rw [htype] at hpioneer
  obtain ⟨stint, hstint, hcovers⟩ := Run.covers _ (hrows _ hrun) hrow hpioneer
  refine ⟨stint, List.mem_flatMap.mpr ⟨((groupRuns (dedupeLatestPerMonth rows))[i], i), ?_, hstint⟩,
    hcovers⟩
  exact List.mk_mem_zipIdx_iff_getElem?.mpr (List.getElem?_eq_getElem hi)

/-- **Exactly one derived stint covers a pioneer's month.** -/
theorem derived_once {r : PublisherActivity} (hr : r ∈ dedupeLatestPerMonth rows)
    (hpioneer : isPioneerType r.type = true) :
    ∃ stint, (deriveStintsFromActivity rows).filter
      (fun stint => coversMonth stint.range r.month r.year) = [stint] ∧ stint.type = r.type := by
  obtain ⟨stint, hstint, hcovers⟩ := derived_covers hr hpioneer
  refine ⟨stint, filter_eq_singleton ?_ hstint hcovers, (type_of_covers hstint hr hcovers).1⟩
  refine derived_before.imp_of_mem fun ha hb hbefore hboth => ?_
  have hover := overlap_of_covers (derived_paired ha) (derived_paired hb) hboth.1 hboth.2
  rw [Before.apart hbefore] at hover
  cases hover

/-! ## Opening them -/

/-- A stint that overlaps none of the member's is refused only for want of the member. -/
theorem openEnrolment_clear {db : PublisherDb} {memberId : Nat} {params : OpenEnrolmentParams}
    (hpaired : endBoundsArePaired params.endMonth params.endYear = true)
    (hclear : ∀ e ∈ db.enrolments, e.memberId = memberId →
      enrolmentsOverlap params.range e.range = false) :
    (memberId ∉ db.members ∧
        (openEnrolment memberId params).exec db = (.error (.database .foreignKey), db)) ∨
      ∃ row, (openEnrolment memberId params).exec db =
        (.ok row, db.createEnrolment (newEnrolment memberId params)) := by
  have hover : assertNoOverlap db memberId params.range none = .ok () := by
    refine assertNoOverlap_ok.mpr fun e he hmember _ hoverlaps => ?_
    have htrue := enrolmentsOverlap_iff.mpr hoverlaps
    rw [hclear e he hmember] at htrue
    cases htrue
  have hends : assertEndBoundsPaired params.endMonth params.endYear = .ok () :=
    Tx.refuseWhen_ok.mpr (by rw [hpaired]; decide)
  have hchecks : openChecks db memberId params =
      (do Tx.refuseWhen (¬memberId ∈ db.members) (.database .foreignKey)
          return newEnrolment memberId params) := by
    rw [openChecks, hends, hover]
    rfl
  by_cases hmember : memberId ∈ db.members
  · right
    refine ⟨newEnrolment memberId params db.nextEnrolmentId, ?_⟩
    rw [openEnrolment, Tx.exec_bind_get, Tx.exec_bind, Tx.exec_check, hchecks, Tx.refuseWhen,
      if_neg (not_not.mpr hmember)]
    rfl
  · left
    refine ⟨hmember, ?_⟩
    rw [openEnrolment, Tx.exec_bind_get, Tx.exec_bind, Tx.exec_check, hchecks, Tx.refuseWhen,
      if_pos hmember]
    rfl

/-- The loop of the backfill. -/
def openAll (memberId : Nat) (stints : List OpenEnrolmentParams) : EnrolmentTx Unit :=
  stints.forM fun stint => do
    let _ ← openEnrolment memberId stint

/-- Stints that are apart, and apart from what the member has, open one after the other. -/
theorem openAll_clear {memberId : Nat} {stints : List OpenEnrolmentParams} {db : PublisherDb}
    (hpaired : ∀ stint ∈ stints, endBoundsArePaired stint.endMonth stint.endYear = true)
    (hbefore : stints.Pairwise Before)
    (hclear : ∀ stint ∈ stints, ∀ e ∈ db.enrolments, e.memberId = memberId →
      enrolmentsOverlap stint.range e.range = false) :
    (memberId ∉ db.members ∧
        ((openAll memberId stints).exec db).1 = .error (.database .foreignKey)) ∨
      ((openAll memberId stints).exec db).1 = .ok () := by
  induction stints generalizing db with
  | nil => exact .inr rfl
  | cons stint rest ih =>
    obtain ⟨hfirst, hrest⟩ := List.pairwise_cons.mp hbefore
    have hloop : openAll memberId (stint :: rest) =
        ((do let _ ← openEnrolment memberId stint) >>= fun _ => openAll memberId rest) := rfl
    rw [hloop, Tx.exec_bind, Tx.exec_bind]
    rcases openEnrolment_clear (hpaired stint List.mem_cons_self) (hclear stint List.mem_cons_self)
      with ⟨hmember, hexec⟩ | ⟨row, hexec⟩
    · rw [hexec]
      exact .inl ⟨hmember, rfl⟩
    · rw [hexec]
      show (memberId ∉ (db.createEnrolment (newEnrolment memberId stint)).members ∧
          ((openAll memberId rest).exec (db.createEnrolment (newEnrolment memberId stint))).1 = _) ∨
        ((openAll memberId rest).exec (db.createEnrolment (newEnrolment memberId stint))).1 = _
      refine ih (fun x hx => hpaired x (List.mem_cons_of_mem _ hx)) hrest fun x hx e he hmember => ?_
      rcases List.mem_append.mp he with hold | hnew
      · exact hclear x (List.mem_cons_of_mem _ hx) e hold hmember
      · -- the row of the stint just opened
        rw [List.mem_singleton.mp hnew]
        refine Bool.eq_false_iff.mpr fun hover => ?_
        have hsymm := enrolmentsOverlap_iff.mpr (enrolmentsOverlap_iff.mp hover).symm
        have hapart := (hfirst x hx).apart
        rw [show (newEnrolment memberId stint db.nextEnrolmentId).range = stint.range from rfl,
          hapart] at hsymm
        cases hsymm

theorem backfillMember_silent (memberId : Nat) :
    Tx.Silent (fun e => e = .app (.conflict "pioneer_enrolment_overlap"))
      (backfillMemberEnrolments memberId) := by
  intro db e db' hexec
  rw [backfillMemberEnrolments, Tx.exec_bind_get] at hexec
  split at hexec
  · cases hexec
  · next hnone =>
    have hfresh : ∀ e ∈ db.enrolments, e.memberId ≠ memberId := by
      intro e he hmember
      exact hnone (List.length_pos_of_mem (List.mem_filter.mpr ⟨he, beq_iff_eq.mpr hmember⟩))
    have hopened := @openAll_clear memberId
      (deriveStintsFromActivity (db.activity.filter (·.publisherId == memberId))) db
      (fun _ h => derived_paired h) derived_before fun _ _ e he hmember => absurd hmember (hfresh e he)
    rcases Tx.exec_bind_error.mp hexec with hloop | ⟨_, _, _, hret⟩
    · have hloop' : (openAll memberId (deriveStintsFromActivity
          (db.activity.filter (·.publisherId == memberId)))).exec db = (.error e, db') := hloop
      rw [hloop'] at hopened
      rcases hopened with ⟨-, hfailed⟩ | hok
      · rw [Except.error.inj hfailed]
        simp
      · cases hok
    · cases hret

/-- **The stints derived from the reports are apart, cover each pioneer's month once and as of its type,
and no publisher's month**; so opening them, in a member without stints, never runs into an overlap. -/
theorem backfill_reproduces (rows : List PublisherActivity) :
    ((deriveStintsFromActivity rows).Pairwise fun a b => enrolmentsOverlap a.range b.range = false) ∧
    (∀ r ∈ dedupeLatestPerMonth rows, isPioneerType r.type = true →
      ∃ stint, (deriveStintsFromActivity rows).filter
        (fun stint => coversMonth stint.range r.month r.year) = [stint] ∧ stint.type = r.type) ∧
    (∀ r ∈ dedupeLatestPerMonth rows, r.type = .normal →
      ∀ stint ∈ deriveStintsFromActivity rows, coversMonth stint.range r.month r.year = false) ∧
    (∀ db : PublisherDb, ∀ memberId ∈ db.members, (∀ e ∈ db.enrolments, e.memberId ≠ memberId) →
      ((openAll memberId (deriveStintsFromActivity rows)).exec db).1 = .ok ()) ∧
    ∀ memberId, Tx.Silent (fun e => e = .app (.conflict "pioneer_enrolment_overlap"))
      (backfillMemberEnrolments memberId) := by
  refine ⟨derived_before.imp Before.apart, fun r hr => derived_once hr, ?_, ?_, backfillMember_silent⟩
  · intro r hr hnormal stint hstint
    refine Bool.eq_false_iff.mpr fun hcovers => ?_
    have hpioneer := (type_of_covers hstint hr hcovers).2
    rw [hnormal] at hpioneer
    cases hpioneer
  · intro db memberId hmember hfresh
    rcases openAll_clear (fun _ h => derived_paired h) derived_before
      (fun stint _ e he hsame => absurd hsame (hfresh e he)) with ⟨hnot, -⟩ | hok
    · exact absurd hmember hnot
    · exact hok

end Unitae.Publishers
