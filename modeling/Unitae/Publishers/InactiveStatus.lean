import Mathlib.Data.List.Induction
import Mathlib.Data.List.Nodup
import Mathlib.Data.List.Sort
import Mathlib.Tactic.IntervalCases
import Unitae.Base.Streak
import Unitae.Publishers.Members

/-!
# Unitae — publishers who stop reporting (`evaluate-inactive-status.server.ts`)

After each write of a monthly report the publisher's reports are walked back from the newest, and six
missed months in a row make the publisher inactive. A month without a report counts as missed when
some missed report is older: the walk compares with the oldest missed report of all, also when a report
of another kind lies between. `inactive_marked_iff` names the reports for which this makes a difference.
-/

namespace Unitae.Publishers

/-! ## Months -/

/-- A calendar month, counted from 0. -/
structure YearMonth where
  year : Int
  month : Fin 12
deriving DecidableEq, Repr

namespace YearMonth

def number (ym : YearMonth) : Int := 12 * ym.year + ym.month.val

def ofNumber (n : Int) : YearMonth where
  year := n / 12
  month := ⟨(n % 12).toNat, by omega⟩

@[simp] theorem number_ofNumber (n : Int) : (ofNumber n).number = n := by
  show 12 * (n / 12) + ((n % 12).toNat : Int) = n
  omega

theorem number_inj {a b : YearMonth} (h : a.number = b.number) : a = b := by
  obtain ⟨y, m, hm⟩ := a
  obtain ⟨y', m', hm'⟩ := b
  have h' : 12 * y + (m : Int) = 12 * y' + (m' : Int) := h
  obtain ⟨rfl, rfl⟩ : y = y' ∧ m = m' := by omega
  rfl

@[simp] theorem ofNumber_number (ym : YearMonth) : ofNumber ym.number = ym :=
  number_inj (number_ofNumber _)

end YearMonth

def compareYm (a b : YearMonth) : Int :=
  if a.year ≠ b.year then a.year - b.year else (a.month.val : Int) - b.month.val

def previousMonth (ym : YearMonth) : YearMonth :=
  if ym.month = 0 then ⟨ym.year - 1, 11⟩ else ⟨ym.year, ym.month - 1⟩

theorem compareYm_neg {a b : YearMonth} : compareYm a b < 0 ↔ a.number < b.number := by
  have ha := a.month.isLt
  have hb := b.month.isLt
  unfold compareYm YearMonth.number
  split <;> omega

theorem compareYm_pos {a b : YearMonth} : 0 < compareYm a b ↔ b.number < a.number := by
  have ha := a.month.isLt
  have hb := b.month.isLt
  unfold compareYm YearMonth.number
  split <;> omega

theorem number_previousMonth (ym : YearMonth) : (previousMonth ym).number = ym.number - 1 := by
  unfold previousMonth
  split
  · next h =>
    show 12 * (ym.year - 1) + 11 = 12 * ym.year + (ym.month.val : Int) - 1
    have : ym.month.val = 0 := congrArg Fin.val h
    omega
  · next h =>
    have hpos : ym.month.val ≠ 0 := fun h0 => h (Fin.ext h0)
    have hpred : (ym.month - 1 : Fin 12).val = ym.month.val - 1 := by omega
    show 12 * ym.year + ((ym.month - 1 : Fin 12).val : Int) = 12 * ym.year + (ym.month.val : Int) - 1
    rw [hpred]
    omega

theorem previousMonth_eq (ym : YearMonth) : previousMonth ym = .ofNumber (ym.number - 1) :=
  YearMonth.number_inj (by rw [number_previousMonth, YearMonth.number_ofNumber])

/-! ## The streak -/

structure ActivityRow extends YearMonth where
  isPublisher : Bool
  hours : Option Int
deriving DecidableEq, Repr

def isMissedPreachReport (activity : ActivityRow) : Bool :=
  !activity.isPublisher && (activity.hours.isNone || activity.hours == some 0)

/-- The rows by month, the last set first, and the oldest missed one. -/
structure ActivityIndex where
  byMonth : List ActivityRow
  oldestMissed : Option YearMonth

def ActivityIndex.get (index : ActivityIndex) (ym : YearMonth) : Option ActivityRow :=
  index.byMonth.find? (·.toYearMonth = ym)

def ActivityIndex.addRow (index : ActivityIndex) (row : ActivityRow) : ActivityIndex where
  byMonth := row :: index.byMonth
  oldestMissed :=
    if !isMissedPreachReport row then index.oldestMissed
    else match index.oldestMissed with
      | none => some row.toYearMonth
      | some oldest => if compareYm row.toYearMonth oldest < 0 then some row.toYearMonth else some oldest

def indexActivities (activities : List ActivityRow) : ActivityIndex :=
  activities.foldl ActivityIndex.addRow ⟨[], none⟩

def shouldIncludeMonth (ym : YearMonth) (index : ActivityIndex) : Bool :=
  match index.get ym with
  | some row => isMissedPreachReport row
  | none => index.oldestMissed.any fun oldest => 0 < compareYm ym oldest

/-- No month before this one is taken by the walk. -/
def ActivityIndex.lowest (index : ActivityIndex) : Int :=
  (index.byMonth.map (·.number) ++ index.oldestMissed.toList.map (·.number)).foldr min 0

theorem foldr_min_le {x : Int} {xs : List Int} (h : x ∈ xs) : xs.foldr min 0 ≤ x := by
  induction xs with
  | nil => exact absurd h List.not_mem_nil
  | cons y ys ih =>
    rcases List.mem_cons.mp h with rfl | hy
    · exact min_le_left _ _
    · exact (min_le_right _ _).trans (ih hy)

theorem lowest_le {ym : YearMonth} {index : ActivityIndex} (h : shouldIncludeMonth ym index = true) :
    index.lowest ≤ ym.number := by
  unfold shouldIncludeMonth at h
  cases hrow : index.get ym with
  | some row =>
    have hmem := List.mem_of_find?_eq_some hrow
    have hym : row.toYearMonth = ym := by simpa using List.find?_some hrow
    refine foldr_min_le (List.mem_append_left _ (List.mem_map.mpr ⟨row, hmem, ?_⟩))
    rw [← hym]
  | none =>
    rw [hrow] at h
    obtain ⟨oldest, holdest, hlt⟩ := (Option.any_eq_true _ _).mp h
    have hmem : oldest.number ∈ index.oldestMissed.toList.map (·.number) :=
      List.mem_map.mpr ⟨oldest, by simpa using holdest, rfl⟩
    have hle := compareYm_pos.mp (of_decide_eq_true hlt)
    exact (foldr_min_le (List.mem_append_right _ hmem)).trans hle.le

/-- The walk goes one month down at each turn and never below the lowest month of the index. -/
def walkStreak (cursor : YearMonth) (index : ActivityIndex) : List YearMonth :=
  if _h : shouldIncludeMonth cursor index = true then
    cursor :: walkStreak (previousMonth cursor) index
  else []
termination_by (cursor.number - index.lowest + 1).toNat
decreasing_by
  have hle := lowest_le _h
  rw [number_previousMonth]
  omega

def inactiveStreakThreshold : ℕ := 6

/-- `new Date(year, month + 1, 1)`. -/
def firstDayAfter (rt : LocalTime) (ym : YearMonth) : Instant :=
  rt.newDate ym.year (ym.month.val + 1 : ℕ) 1

/-- The rows come newest first. -/
def computeStreakOnset (rt : LocalTime) (activities : List ActivityRow) : Option Instant :=
  match activities with
  | [] => none
  | newest :: _ =>
    if !isMissedPreachReport newest then none
    else
      let index := indexActivities activities
      if index.oldestMissed.isNone then none
      else
        let streak := walkStreak newest.toYearMonth index
        if streak.length < inactiveStreakThreshold then none
        else streak[streak.length - inactiveStreakThreshold]?.map (firstDayAfter rt)

/-! ## The evaluation -/

structure MonthlyReport extends ActivityRow where
  publisherId : Nat
deriving DecidableEq, Repr

structure ReportDb where
  people : MemberDb
  reports : List MonthlyReport

/-- The publisher's reports, newest first. -/
def ReportDb.activitiesOf (db : ReportDb) (publisherId : Nat) : List ActivityRow :=
  ((db.reports.filter (·.publisherId = publisherId)).map (·.toActivityRow)).mergeSort
    fun a b => compareYm b.toYearMonth a.toYearMonth ≤ 0

structure TriggeringActivity where
  isPublisher : Bool
  hours : Option Int

structure EvaluateInactiveStatusParams where
  publisherId : Nat
  triggeringActivity : Option TriggeringActivity

def isHoursReport (activity : Option TriggeringActivity) : Bool :=
  activity.any fun a => a.isPublisher && 0 < a.hours.getD 0

/-- `memberAggregate.setLifecycle`, on the members. -/
def setStatus (publisherId : Nat) (state : Roles.LifecycleState) (at_ : Option Instant)
    (now : Instant) : Tx ReportDb Failure Unit :=
  (setLifecycle publisherId state at_ now).on ReportDb.people fun db people => { db with people }

def evaluateInactiveStatus (rt : LocalTime) (params : EvaluateInactiveStatusParams) (now : Instant) :
    Tx ReportDb Failure Unit := do
  let db ← get
  match db.people.memberById params.publisherId with
  | none => pure ()
  | some member =>
    if member.leftAt.isSome || !member.isPublisher then pure ()
    else if member.inactiveAt.isSome && isHoursReport params.triggeringActivity then
      setStatus params.publisherId .active none now
    else if member.inactiveAt.isSome then pure ()
    else
      match computeStreakOnset rt (db.activitiesOf params.publisherId) with
      | none => pure ()
      | some onset => setStatus params.publisherId .inactive (some onset) now

/-! ## What the walk takes -/

def MissedIn (rows : List ActivityRow) (n : Int) : Prop :=
  ∃ r ∈ rows, r.number = n ∧ isMissedPreachReport r = true

def ReportedIn (rows : List ActivityRow) (n : Int) : Prop := ∃ r ∈ rows, r.number = n

/-- At most one report a month. -/
def OnePerMonth (rows : List ActivityRow) : Prop := (rows.map (·.number)).Nodup

instance (rows : List ActivityRow) : Decidable (OnePerMonth rows) :=
  inferInstanceAs (Decidable (rows.map _).Nodup)

theorem MissedIn.reported {rows : List ActivityRow} {n : Int} (h : MissedIn rows n) :
    ReportedIn rows n :=
  let ⟨r, hr, hn, _⟩ := h
  ⟨r, hr, hn⟩

theorem missedIn_iff {rows : List ActivityRow} (hone : OnePerMonth rows) {r : ActivityRow}
    (hr : r ∈ rows) : MissedIn rows r.number ↔ isMissedPreachReport r = true := by
  constructor
  · rintro ⟨r', hr', hn, hmissed⟩
    rwa [← List.inj_on_of_nodup_map hone hr' hr hn]
  · exact fun hmissed => ⟨r, hr, rfl, hmissed⟩

/-- `oldest` is the month of the oldest missed report. -/
structure OldestMissed (rows : List ActivityRow) (oldest : YearMonth) : Prop where
  missed : MissedIn rows oldest.number
  le : ∀ n, MissedIn rows n → oldest.number ≤ n

section Index

variable {rows : List ActivityRow}

theorem indexActivities_append (row : ActivityRow) :
    indexActivities (rows ++ [row]) = (indexActivities rows).addRow row := by
  rw [indexActivities, List.foldl_append]
  rfl

theorem byMonth_indexActivities (rows : List ActivityRow) :
    (indexActivities rows).byMonth = rows.reverse := by
  induction rows using List.reverseRecOn with
  | nil => rfl
  | append_singleton rows row ih =>
    rw [indexActivities_append, List.reverse_append, ← ih]
    rfl

/-- What the index holds of the missed reports: the oldest, unless there is none. -/
def ActivityIndex.HoldsOldest (index : ActivityIndex) (rows : List ActivityRow) : Prop :=
  match index.oldestMissed with
  | none => ∀ n, ¬MissedIn rows n
  | some oldest => OldestMissed rows oldest

theorem missedIn_append {row : ActivityRow} {n : Int} :
    MissedIn (rows ++ [row]) n ↔ MissedIn rows n ∨ row.number = n ∧ isMissedPreachReport row = true := by
  simp [MissedIn, or_and_right, exists_or]

theorem holdsOldest_indexActivities (rows : List ActivityRow) :
    (indexActivities rows).HoldsOldest rows := by
  induction rows using List.reverseRecOn with
  | nil =>
    intro n h
    obtain ⟨r, hr, -⟩ := h
    exact absurd hr List.not_mem_nil
  | append_singleton rows row ih =>
    rw [indexActivities_append]
    unfold ActivityIndex.HoldsOldest at ih ⊢
    simp only [ActivityIndex.addRow]
    cases hmissed : isMissedPreachReport row with
    | false =>
      have hsame : ∀ n, MissedIn (rows ++ [row]) n ↔ MissedIn rows n := by
        intro n
        rw [missedIn_append, hmissed]
        simp
      simp only [Bool.not_false, if_true]
      cases hold : (indexActivities rows).oldestMissed with
      | none =>
        rw [hold] at ih
        exact fun n h => ih n ((hsame n).mp h)
      | some oldest =>
        rw [hold] at ih
        exact ⟨(hsame _).mpr ih.missed, fun n h => ih.le n ((hsame n).mp h)⟩
    | true =>
      have hrow : MissedIn (rows ++ [row]) row.number := missedIn_append.mpr (.inr ⟨rfl, hmissed⟩)
      simp only [Bool.not_true, Bool.false_eq_true, if_false]
      cases hold : (indexActivities rows).oldestMissed with
      | none =>
        rw [hold] at ih
        refine ⟨hrow, fun n h => ?_⟩
        rcases missedIn_append.mp h with h | ⟨hn, -⟩
        · exact absurd h (ih n)
        · exact hn.le
      | some oldest =>
        rw [hold] at ih
        by_cases hless : compareYm row.toYearMonth oldest < 0
        · simp only [if_pos hless]
          refine ⟨hrow, fun n h => ?_⟩
          have hlt := compareYm_neg.mp hless
          rcases missedIn_append.mp h with h | ⟨hn, -⟩
          · exact hlt.le.trans (ih.le n h)
          · exact hn.le
        · simp only [if_neg hless]
          refine ⟨missedIn_append.mpr (.inl ih.missed), fun n h => ?_⟩
          have hge := not_lt.mp (mt compareYm_neg.mpr hless)
          rcases missedIn_append.mp h with h | ⟨hn, -⟩
          · exact ih.le n h
          · exact hge.trans hn.le

/-- The row the index finds for a month is the report of that month. -/
theorem get_eq_some (hone : OnePerMonth rows) {ym : YearMonth} {r : ActivityRow} :
    (indexActivities rows).get ym = some r ↔ r ∈ rows ∧ r.toYearMonth = ym := by
  rw [ActivityIndex.get, byMonth_indexActivities]
  constructor
  · intro h
    exact ⟨List.mem_reverse.mp (List.mem_of_find?_eq_some h), by simpa using List.find?_some h⟩
  · rintro ⟨hr, rfl⟩
    cases hfind : rows.reverse.find? (·.toYearMonth = r.toYearMonth) with
    | none => exact absurd (List.find?_eq_none.mp hfind r (List.mem_reverse.mpr hr)) (by simp)
    | some r' =>
      have hr' : r' ∈ rows := List.mem_reverse.mp (List.mem_of_find?_eq_some hfind)
      have hym : r'.toYearMonth = r.toYearMonth := by simpa using List.find?_some hfind
      rw [List.inj_on_of_nodup_map hone hr' hr (congrArg YearMonth.number hym)]

/-- The walk fills an unreported month as soon as some missed report is older. -/
theorem shouldIncludeMonth_iff (hone : OnePerMonth rows) {oldest : YearMonth}
    (hold : (indexActivities rows).oldestMissed = some oldest) (n : Int) :
    shouldIncludeMonth (.ofNumber n) (indexActivities rows) = true
      ↔ Fills (MissedIn rows) (ReportedIn rows) oldest.number n := by
  unfold shouldIncludeMonth
  cases hget : (indexActivities rows).get (.ofNumber n) with
  | some row =>
    obtain ⟨hrow, hym⟩ := (get_eq_some hone).mp hget
    have hn : row.number = n := by
      rw [hym]
      exact YearMonth.number_ofNumber n
    have hreported : ReportedIn rows n := ⟨row, hrow, hn⟩
    rw [← missedIn_iff hone hrow, hn]
    exact ⟨fun h => ⟨fun _ => h, fun hno => absurd hreported hno⟩, fun h => h.1 hreported⟩
  | none =>
    have hunreported : ¬ReportedIn rows n := by
      rintro ⟨r, hr, rfl⟩
      have := (get_eq_some hone).mpr ⟨hr, (YearMonth.ofNumber_number r.toYearMonth).symm⟩
      rw [hget] at this
      cases this
    rw [hold]
    simp only [Option.any_some, decide_eq_true_eq, compareYm_pos, YearMonth.number_ofNumber]
    exact ⟨fun h => ⟨fun hr => absurd hr hunreported, fun _ => h⟩, fun h => h.2 hunreported⟩

end Index

/-- The walk lists the months it takes, newest first. -/
theorem walkStreak_takes (index : ActivityIndex) (cursor : YearMonth) :
    ∃ n, WalkTakes (fun c => shouldIncludeMonth (.ofNumber c) index = true) cursor.number n ∧
      walkStreak cursor index = (List.range n).map fun i : ℕ => .ofNumber (cursor.number - i) := by
  fun_induction walkStreak cursor index with
  | case1 cursor h ih =>
    obtain ⟨n, ⟨htakes, hstops⟩, hlist⟩ := ih
    rw [number_previousMonth] at htakes hstops hlist
    refine ⟨n + 1, ⟨fun i hi => ?_, ?_⟩, ?_⟩
    · cases i with
      | zero => simpa using h
      | succ i =>
        have hi' := htakes i (by omega)
        rwa [show cursor.number - ((i + 1 : ℕ) : Int) = cursor.number - 1 - i by omega]
    · rwa [show cursor.number - ((n + 1 : ℕ) : Int) = cursor.number - 1 - n by omega]
    · rw [hlist, List.range_succ_eq_map, List.map_cons, List.map_map]
      refine congrArg₂ List.cons (by simp) (List.map_congr_left fun i _ => ?_)
      show YearMonth.ofNumber (cursor.number - 1 - i) = .ofNumber (cursor.number - ((i + 1 : ℕ) : Int))
      congr 1
      omega
  | case2 cursor h =>
    exact ⟨0, ⟨fun i hi => absurd hi (Nat.not_lt_zero i), by simpa using h⟩, rfl⟩

/-! ## The streak and the run -/

/-- What a streak of `n` months from `top` down gives: the first day of the month after its sixth. -/
def onsetAt (rt : LocalTime) (top : Int) (n : ℕ) : Option Instant :=
  if n < inactiveStreakThreshold then none
  else some (firstDayAfter rt (.ofNumber (top - n + inactiveStreakThreshold)))

/-- The first days of different months are different instants. -/
def MonthsDiffer (rt : LocalTime) : Prop :=
  ∀ a b, firstDayAfter rt a = firstDayAfter rt b → a = b

theorem onsetAt_eq_iff {rt : LocalTime} (hrt : MonthsDiffer rt) {top : Int} {m n : ℕ} :
    onsetAt rt top m = onsetAt rt top n
      ↔ m = n ∨ m < inactiveStreakThreshold ∧ n < inactiveStreakThreshold := by
  unfold onsetAt
  by_cases hm : m < inactiveStreakThreshold
  · by_cases hn : n < inactiveStreakThreshold
    · simp [hm, hn]
    · simp only [if_pos hm, if_neg hn]
      exact ⟨(fun h => nomatch h), fun h => absurd h (by omega)⟩
  · by_cases hn : n < inactiveStreakThreshold
    · simp only [if_pos hn, if_neg hm]
      exact ⟨(fun h => nomatch h), fun h => absurd h (by omega)⟩
    · simp only [if_neg hm, if_neg hn]
      constructor
      · intro h
        have hnumber := congrArg YearMonth.number (hrt _ _ (Option.some.inj h))
        rw [YearMonth.number_ofNumber, YearMonth.number_ofNumber] at hnumber
        omega
      · intro h
        rw [h.resolve_right (by omega)]

/-- `onset` is the date of the publisher's run of missed months. The newest report is a missed one, the
run is the longest that ends there, and it has at least six months. -/
def OnsetOfRun (rt : LocalTime) (rows : List ActivityRow) (onset : Option Instant) : Prop :=
  ∀ date, onset = some date ↔ ∃ newest ∈ rows, (∀ r ∈ rows, r.number ≤ newest.number) ∧
    isMissedPreachReport newest = true ∧
    ∃ n, IsGreatest {n | IsRun (MissedIn rows) (ReportedIn rows) newest.number n} n ∧ 6 ≤ n ∧
      date = firstDayAfter rt (.ofNumber (newest.number - n + 6))

/-- The walk crosses unreported months to a report of another kind, which is the last of its kind, and
comes to six months with them; the next month has no report, and a missed report is older still. -/
def BridgesReport (rows : List ActivityRow) : Prop :=
  ∃ newest ∈ rows, ∃ other ∈ rows, (∀ r ∈ rows, r.number ≤ newest.number) ∧
    isMissedPreachReport other = false ∧
    (∀ r ∈ rows, isMissedPreachReport r = false → r.number ≤ other.number) ∧
    (∃ r ∈ rows, isMissedPreachReport r = true ∧ r.number < other.number) ∧
    (∀ r ∈ rows, r.number ≠ other.number + 1) ∧ other.number + 6 ≤ newest.number

instance (rows : List ActivityRow) : Decidable (BridgesReport rows) :=
  inferInstanceAs (Decidable (∃ newest ∈ rows, ∃ other ∈ rows, _))

section Onset

variable {rt : LocalTime} {rows : List ActivityRow} {newest : ActivityRow}

/-- The rows are those of a publisher whose newest report is the missed one `newest`. -/
structure EndsMissed (rows : List ActivityRow) (newest : ActivityRow) : Prop where
  onePerMonth : OnePerMonth rows
  mem : newest ∈ rows
  le : ∀ r ∈ rows, r.number ≤ newest.number
  missed : isMissedPreachReport newest = true

theorem EndsMissed.unique (h : EndsMissed rows newest) {r : ActivityRow} (hr : r ∈ rows)
    (hle : ∀ r' ∈ rows, r'.number ≤ r.number) : r = newest :=
  List.inj_on_of_nodup_map h.onePerMonth hr h.mem (le_antisymm (h.le r hr) (hle newest h.mem))

/-- With the longest run at hand, the claimed date is that of a streak of its length. -/
theorem EndsMissed.onsetOfRun_iff (h : EndsMissed rows newest) {n : ℕ} {onset : Option Instant}
    (hn : IsGreatest {n | IsRun (MissedIn rows) (ReportedIn rows) newest.number n} n) :
    OnsetOfRun rt rows onset ↔ onset = onsetAt rt newest.number n := by
  have hiff : ∀ date, (∃ newest ∈ rows, (∀ r ∈ rows, r.number ≤ newest.number) ∧
      isMissedPreachReport newest = true ∧
      ∃ n, IsGreatest {n | IsRun (MissedIn rows) (ReportedIn rows) newest.number n} n ∧ 6 ≤ n ∧
        date = firstDayAfter rt (.ofNumber (newest.number - n + 6)))
      ↔ onsetAt rt newest.number n = some date := by
    intro date
    unfold onsetAt
    constructor
    · rintro ⟨r, hr, hle, -, m, hm, hsix, rfl⟩
      obtain rfl := h.unique hr hle
      obtain rfl := hm.unique hn
      rw [if_neg (by show ¬m < 6; omega)]
      rfl
    · intro hdate
      split at hdate
      · cases hdate
      · next hsix =>
        exact ⟨newest, h.mem, h.le, h.missed, n, hn, not_lt.mp hsix, (Option.some.inj hdate).symm⟩
  unfold OnsetOfRun
  simp only [hiff]
  exact ⟨fun h => Option.ext h, fun h date => by rw [h]⟩

theorem EndsMissed.compute (h : EndsMissed rows newest) {oldest : YearMonth} {rest : List ActivityRow}
    (hrows : rows = newest :: rest) (hold : (indexActivities rows).oldestMissed = some oldest) {n : ℕ}
    (hn : WalkTakes (Fills (MissedIn rows) (ReportedIn rows) oldest.number) newest.number n) :
    computeStreakOnset rt rows = onsetAt rt newest.number n := by
  obtain ⟨m, hm, hstreak⟩ := walkStreak_takes (indexActivities rows) newest.toYearMonth
  simp only [shouldIncludeMonth_iff h.onePerMonth hold] at hm
  obtain rfl := hm.unique hn
  have hlength : (walkStreak newest.toYearMonth (indexActivities rows)).length = m := by
    rw [hstreak]
    simp
  subst hrows
  simp only [computeStreakOnset, h.missed, hold, hlength, onsetAt]
  simp only [Bool.not_true, Bool.false_eq_true, if_false, Option.isNone_some]
  split
  · rfl
  · next hsix =>
    have hlt : m - inactiveStreakThreshold < m := by
      have : inactiveStreakThreshold = 6 := rfl
      omega
    rw [hstreak, List.getElem?_map, List.getElem?_range hlt]
    simp only [Option.map_some]
    congr 3
    omega

theorem EndsMissed.not_bridges (h : EndsMissed rows newest) {start : Int}
    (hstart : RunStart (MissedIn rows) (ReportedIn rows) newest.number start)
    (hnone : ∀ c < start, ¬MissedIn rows c) : ¬BridgesReport rows := by
  rintro ⟨r, hr, other, hother, hle, hkind, -, ⟨old, hold, hmissed, hlt⟩, -, -⟩
  -- the other report lies under the run, and the older missed one under it
  have hbelow : other.number < start := by
    by_contra hge
    have := hstart.clear other.number (not_lt.mp hge) (h.le other hother) ⟨other, hother, rfl⟩
    rw [missedIn_iff h.onePerMonth hother, hkind] at this
    cases this
  exact hnone old.number (hlt.trans hbelow) ⟨old, hold, rfl, hmissed⟩

theorem EndsMissed.bridges_iff (h : EndsMissed rows newest) {start c other : Int}
    (hstart : RunStart (MissedIn rows) (ReportedIn rows) newest.number start) (hc : MissedIn rows c)
    (hco : c < other) (hother : other < start) (hm : ReportedIn rows other)
    (hng : ¬MissedIn rows other) (hgap : ∀ d, other < d → d < start → ¬ReportedIn rows d) :
    BridgesReport rows ↔ other + 1 < start ∧ other + 6 ≤ newest.number := by
  obtain ⟨row, hrow, rfl⟩ := hm
  have hkind : isMissedPreachReport row = false := by
    rw [missedIn_iff h.onePerMonth hrow] at hng
    simpa using hng
  have hlast : ∀ r ∈ rows, isMissedPreachReport r = false → r.number ≤ row.number := by
    intro r hr hk
    by_contra hgt
    rcases lt_or_ge r.number start with hlt | hge
    · exact hgap r.number (not_le.mp hgt) hlt ⟨r, hr, rfl⟩
    · have := hstart.clear r.number hge (h.le r hr) ⟨r, hr, rfl⟩
      rw [missedIn_iff h.onePerMonth hr, hk] at this
      cases this
  constructor
  · rintro ⟨r, hr, other, hother', hle, hk, hmax, -, hnext, hsix⟩
    obtain rfl := h.unique hr hle
    have hsame : other.number = row.number := le_antisymm (hlast other hother' hk) (hmax row hrow hkind)
    rw [hsame] at hnext hsix
    refine ⟨?_, hsix⟩
    obtain ⟨first, hfirst, hnumber, -⟩ := hstart.good_start
    have := hnext first hfirst
    omega
  · rintro ⟨hgapped, hsix⟩
    obtain ⟨old, hold, rfl, hmissed⟩ := hc
    refine ⟨newest, h.mem, row, hrow, h.le, hkind, hlast, ⟨old, hold, hmissed, hco⟩, fun r hr hn => ?_,
      hsix⟩
    exact hgap (row.number + 1) (by omega) hgapped ⟨r, hr, hn⟩

/-- **The walk finds the run** unless it bridges a report. -/
theorem EndsMissed.onset_iff (h : EndsMissed rows newest) (hrt : MonthsDiffer rt)
    {rest : List ActivityRow} (hrows : rows = newest :: rest) :
    OnsetOfRun rt rows (computeStreakOnset rt rows) ↔ ¬BridgesReport rows := by
  have htop : MissedIn rows newest.number := ⟨newest, h.mem, rfl, h.missed⟩
  have hindex := holdsOldest_indexActivities rows
  unfold ActivityIndex.HoldsOldest at hindex
  cases hold : (indexActivities rows).oldestMissed with
  | none =>
    rw [hold] at hindex
    exact absurd htop (hindex _)
  | some oldest =>
    rw [hold] at hindex
    have hindex : OldestMissed rows oldest := hindex
    obtain ⟨start, hstart⟩ : ∃ start, RunStart (MissedIn rows) (ReportedIn rows) newest.number start :=
      exists_runStart htop hindex.le
    have hle := hstart.le_top
    rw [h.onsetOfRun_iff (hstart.isGreatest htop)]
    by_cases hbelow : ∃ c < start, MissedIn rows c
    · obtain ⟨c, hc, hmissed⟩ := hbelow
      obtain ⟨other, hco, hos, hreported, hkind, hgap⟩ := hstart.exists_other hc hmissed
      have hwalk := hstart.walk_past (hindex.le c hmissed) hco hos hreported hkind hgap
      rw [h.compute hrows hold hwalk, onsetAt_eq_iff hrt,
        h.bridges_iff hstart hmissed hco hos hreported hkind hgap]
      have : inactiveStreakThreshold = 6 := rfl
      omega
    · push Not at hbelow
      have hwalk := hstart.walk_stops (fun c hc => hc.reported) hindex.le hindex.missed hbelow
      rw [h.compute hrows hold hwalk]
      exact iff_of_true rfl (h.not_bridges hstart hbelow)

end Onset

/-! ## The evaluation of a publisher -/

theorem activitiesOf_newest {db : ReportDb} {publisherId : Nat} {newest : ActivityRow}
    {rest : List ActivityRow} (h : db.activitiesOf publisherId = newest :: rest) :
    ∀ r ∈ db.activitiesOf publisherId, r.number ≤ newest.number := by
  have hle : ∀ a b : ActivityRow, decide (compareYm b.toYearMonth a.toYearMonth ≤ 0) = true
      ↔ b.number ≤ a.number := by
    intro a b
    rw [decide_eq_true_iff, ← not_lt, compareYm_pos, not_lt]
  have hsorted : (db.activitiesOf publisherId).Pairwise fun a b =>
      decide (compareYm b.toYearMonth a.toYearMonth ≤ 0) = true := by
    refine List.pairwise_mergeSort (fun a b c hab hbc => ?_) (fun a b => ?_) _
    · exact (hle a c).mpr (((hle b c).mp hbc).trans ((hle a b).mp hab))
    · rw [Bool.or_eq_true, hle, hle]
      exact le_total _ _
  rw [h] at hsorted ⊢
  intro r hr
  rcases List.mem_cons.mp hr with rfl | hr
  · exact le_rfl
  · exact (hle newest r).mp (List.rel_of_pairwise_cons hsorted hr)

/-- The streak of a publisher's reports gives the date of the run unless it bridges a report. -/
theorem computeStreakOnset_iff {rt : LocalTime} (hrt : MonthsDiffer rt) {db : ReportDb}
    {publisherId : Nat} (hone : OnePerMonth (db.activitiesOf publisherId)) :
    OnsetOfRun rt (db.activitiesOf publisherId)
        (computeStreakOnset rt (db.activitiesOf publisherId))
      ↔ ¬BridgesReport (db.activitiesOf publisherId) := by
  cases hrows : db.activitiesOf publisherId with
  | nil =>
    refine iff_of_true (fun date => ⟨(fun h => nomatch h), ?_⟩) ?_
    · rintro ⟨newest, hmem, -⟩
      exact absurd hmem List.not_mem_nil
    · rintro ⟨newest, hmem, -⟩
      exact absurd hmem List.not_mem_nil
  | cons newest rest =>
    have hle := activitiesOf_newest hrows
    rw [hrows] at hle hone
    have hnewest : newest ∈ newest :: rest := List.mem_cons_self
    cases hmissed : isMissedPreachReport newest with
    | true =>
      have hends : EndsMissed (newest :: rest) newest := ⟨hone, hnewest, hle, hmissed⟩
      exact hends.onset_iff hrt rfl
    | false =>
      -- nothing is counted from a report of another kind
      have hsame : ∀ r ∈ newest :: rest, (∀ r' ∈ newest :: rest, r'.number ≤ r.number) → r = newest :=
        fun r hr hmax =>
          List.inj_on_of_nodup_map hone hr hnewest (le_antisymm (hle r hr) (hmax newest hnewest))
      have hcompute : computeStreakOnset rt (newest :: rest) = none := by
        simp [computeStreakOnset, hmissed]
      rw [hcompute]
      refine iff_of_true (fun date => ⟨(fun h => nomatch h), ?_⟩) ?_
      · rintro ⟨r, hr, hmax, hr', -⟩
        rw [hsame r hr hmax, hmissed] at hr'
        cases hr'
      · rintro ⟨r, hr, other, hother, hmax, -, hlast, -, -, hsix⟩
        rw [hsame r hr hmax] at hsix
        have := hlast newest hnewest hmissed
        omega

/-- The evaluation ends with the publisher marked from the date of the run, and unmarked without one. -/
def MarksByRun (rt : LocalTime) (db : ReportDb) (params : EvaluateInactiveStatusParams) (now : Instant)
    (m : Member) : Prop :=
  ∃ people onset, (evaluateInactiveStatus rt params now).exec db = (.ok (), { db with people }) ∧
    people.memberById params.publisherId = some { m with inactiveAt := onset } ∧
    OnsetOfRun rt (db.activitiesOf params.publisherId) onset

section Evaluation

variable {rt : LocalTime} {db : ReportDb} {params : EvaluateInactiveStatusParams} {now : Instant}
  {m : Member}

theorem memberById_updateMember {people : MemberDb} {memberId : Nat} {m : Member}
    (hm : people.memberById memberId = some m) {data : Member → Member} (hid : ∀ m, (data m).id = m.id) :
    (people.updateMember memberId data).memberById memberId = some (data m) := by
  have hfind : people.members.find? (·.id == memberId) = some m := hm
  have hkey : (fun m : Member => m.id == memberId) ∘
      (fun m => if m.id = memberId then data m else m) = (·.id == memberId) := by
    funext m
    show ((if m.id = memberId then data m else m).id == memberId) = _
    split
    · rw [hid]
    · rfl
  have hmid : m.id = memberId := by simpa using List.find?_some hfind
  show List.find? (fun m : Member => m.id == memberId) (people.members.map _) = _
  rw [List.find?_map, hkey, hfind, Option.map_some, if_pos hmid]

/-- Marking a publisher who is not inactive writes the one column. -/
theorem setStatus_inactive (hm : db.people.memberById params.publisherId = some m)
    (hactive : m.inactiveAt = none) (onset : Instant) :
    (setStatus params.publisherId .inactive (some onset) now).exec db
      = (.ok (), { db with
          people := db.people.updateMember params.publisherId fun m =>
            { m with inactiveAt := some onset } }) := by
  have hread : setLifecycleRead db.people params.publisherId .inactive
      = .ok (some ⟨params.publisherId, m.leftAt, none⟩) := by
    simp [setLifecycleRead, MemberDb.memberOrRefuse, hm, Member.isIn, hactive, bind, Except.bind, pure,
      Except.pure]
  have hwrite : (setLifecycle params.publisherId .inactive (some onset) now).exec db.people
      = (.ok (), db.people.updateMember params.publisherId
          fun m => { m with inactiveAt := some onset }) := by
    have hfound : db.people.memberOrRefuse params.publisherId (.database .recordNotFound) = .ok m := by
      rw [MemberDb.memberOrRefuse, hm]
    rw [setLifecycle, Tx.exec_bind_get, Tx.exec_bind, Tx.exec_check, hread]
    show (enterLifecycle ⟨params.publisherId, m.leftAt, none⟩ .inactive onset).exec db.people = _
    rw [enterLifecycle, Tx.exec_bind_get, Tx.exec_bind, Tx.exec_check, hfound]
    rfl
  rw [setStatus, Tx.exec_on, hwrite]

/-- What the evaluation of a publisher who is here and not inactive comes to. -/
theorem exec_evaluateInactiveStatus (hm : db.people.memberById params.publisherId = some m)
    (hpublisher : m.isPublisher = true) (hhere : m.leftAt = none) (hactive : m.inactiveAt = none) :
    ∃ people, (evaluateInactiveStatus rt params now).exec db = (.ok (), { db with people }) ∧
      people.memberById params.publisherId = some { m with
        inactiveAt := computeStreakOnset rt (db.activitiesOf params.publisherId) } := by
  have hexec : (evaluateInactiveStatus rt params now).exec db
      = (match computeStreakOnset rt (db.activitiesOf params.publisherId) with
        | none => pure ()
        | some onset => setStatus params.publisherId .inactive (some onset) now : Tx _ _ _).exec db := by
    rw [evaluateInactiveStatus, Tx.exec_bind_get]
    simp [hm, hpublisher, hhere, hactive]
  rw [hexec]
  cases computeStreakOnset rt (db.activitiesOf params.publisherId) with
  | none =>
    refine ⟨db.people, rfl, ?_⟩
    rw [hm, ← hactive]
  | some onset =>
    exact ⟨_, setStatus_inactive hm hactive onset, memberById_updateMember hm fun _ => rfl⟩

theorem marksByRun_iff (hm : db.people.memberById params.publisherId = some m)
    (hpublisher : m.isPublisher = true) (hhere : m.leftAt = none) (hactive : m.inactiveAt = none) :
    MarksByRun rt db params now m ↔ OnsetOfRun rt (db.activitiesOf params.publisherId)
      (computeStreakOnset rt (db.activitiesOf params.publisherId)) := by
  obtain ⟨people, hexec, hmember⟩ :=
    @exec_evaluateInactiveStatus rt db params now m hm hpublisher hhere hactive
  constructor
  · rintro ⟨people', onset, hexec', hmember', honset⟩
    rw [hexec] at hexec'
    have hpeople : people = people' := congrArg ReportDb.people (Prod.mk.inj hexec').2
    rw [← hpeople, hmember] at hmember'
    have hsame := congrArg Member.inactiveAt (Option.some.inj hmember')
    rwa [show computeStreakOnset rt (db.activitiesOf params.publisherId) = onset from hsame]
  · exact fun honset => ⟨people, _, hexec, hmember, honset⟩

end Evaluation

/-! ### Universal time -/

/-- Months follow one another on the calendar. -/
theorem daysFromCivil_next_month (n : Int) : Calendar.daysFromCivil (n / 12) (n % 12 + 2) 1
    < Calendar.daysFromCivil ((n + 1) / 12) ((n + 1) % 12 + 2) 1 := by
  simp only [Calendar.daysFromCivil]
  obtain ⟨q, r, hr₀, hr, rfl⟩ : ∃ q r : Int, 0 ≤ r ∧ r < 12 ∧ n = 12 * q + r :=
    ⟨n / 12, n % 12, by omega, by omega, by omega⟩
  have hq : (12 * q + r) / 12 = q := by omega
  have hm : (12 * q + r) % 12 = r := by omega
  rw [hq, hm]
  interval_cases r <;> omega

theorem utc_monthsDiffer : MonthsDiffer .utc := by
  have hday : ∀ ym, firstDayAfter .utc ym = Calendar.msPerDay *
      Calendar.daysFromCivil (ym.number / 12) (ym.number % 12 + 2) 1 := by
    intro ym
    have hmonth := ym.month.isLt
    have hyear : ym.number / 12 = ym.year := by
      unfold YearMonth.number
      omega
    have hrest : ym.number % 12 + 2 = ((ym.month.val + 1 : ℕ) : Int) + 1 := by
      unfold YearMonth.number
      omega
    rw [hyear, hrest]
    rw [firstDayAfter, ← Int.cast_natCast]
    simp only [LocalTime.utc, Rat.floor_intCast]
    rfl
  have hmono : StrictMono fun n : Int => Calendar.daysFromCivil (n / 12) (n % 12 + 2) 1 :=
    strictMono_int_of_lt_succ daysFromCivil_next_month
  intro a b hab
  rw [hday, hday] at hab
  have hpos : Calendar.msPerDay ≠ 0 := by decide
  exact YearMonth.number_inj (hmono.injective (mul_left_cancel₀ hpos hab))

/-! ### A publisher who reported in December -/

/-- Missed reports from February to June after hours in December and a missed report in November. -/
def reportsOf2026 : ReportDb where
  people := {
    members := [{ blankMember 1 with isPublisher := true }], groups := [], otherGroupIds := []
    enrolments := [], activity := [], roles := [], memberRoleAssignments := [], accounts := []
    userRoleAssignments := [], nextMemberId := 2, nextGroupId := 1, nextEnrolmentId := 1 }
  reports := [
    ⟨⟨⟨2026, 5⟩, false, none⟩, 1⟩, ⟨⟨⟨2026, 4⟩, false, none⟩, 1⟩, ⟨⟨⟨2026, 3⟩, false, some 0⟩, 1⟩,
    ⟨⟨⟨2026, 2⟩, false, none⟩, 1⟩, ⟨⟨⟨2026, 1⟩, false, none⟩, 1⟩, ⟨⟨⟨2025, 11⟩, true, some 8⟩, 1⟩,
    ⟨⟨⟨2025, 10⟩, false, none⟩, 1⟩]

theorem reportsOf2026_activities :
    reportsOf2026.activitiesOf 1 = reportsOf2026.reports.map (·.toActivityRow) :=
  List.mergeSort_of_pairwise (by decide)

/-- The same publisher without the report of November. -/
def withoutNovember : ReportDb := { reportsOf2026 with reports := reportsOf2026.reports.dropLast }

theorem withoutNovember_activities :
    withoutNovember.activitiesOf 1 = withoutNovember.reports.map (·.toActivityRow) :=
  List.mergeSort_of_pairwise (by decide)

end Unitae.Publishers
