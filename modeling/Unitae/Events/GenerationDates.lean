import Unitae.Base.IsoDate
import Unitae.Base.Table
import Unitae.Base.WallClock
import Unitae.Events.Generation

/-!
# Unitae — the dates of generated events

`generateEventsFromTemplate` counts its dates from midnight to midnight of the server's clock, reads each
of them as a date of the congregation's clock, and asks for the events there are from the first of
these midnights on. `Runtime.Keeps` says that the two clocks stand at fixed offsets, and what the runtime
then answers. The two disagree over a midnight when the congregation is west of the server, and an
early event of the first date is over before the midnight when it is east.
-/

namespace Unitae.Events

open WallClock

/-! ## The clocks of the runtime -/

/-- `Date` goes by a clock at the offset `server`, `Intl` in the time zone by one at `zone`. -/
structure Runtime.Keeps (rt : Runtime) (server zone : Int) (timezone : String) : Prop where
  server_range : -minutesPerDay < server ∧ server < minutesPerDay
  zone_range : -minutesPerDay < zone ∧ zone < minutesPerDay
  /-- `setHours(0, 0, 0, 0)` is the midnight of the server's day. -/
  setHours : ∀ t, rt.setHours t 0 0 0 0 = instantOf server (localDay server t) 0
  getDay : ∀ t, rt.getDay t = weekday (localDay server t)
  setDate : ∀ (t : Instant) (k : Int),
    rt.localTime.setDate t (rt.localTime.getDate t + k) = t + Calendar.msPerDay * k
  /-- The texts of two dates are the same when the dates are. -/
  dateText : ∀ t t', toDateString rt t timezone = toDateString rt t' timezone ↔
    localDay zone t = localDay zone t'
  formatOffset : ∀ t t', rt.formatOffset t timezone = rt.formatOffset t' timezone
  /-- A date and a time of day with `Z` is read as universal time. -/
  parseUtc : ∀ (t : Instant) (hour minute : Int), 0 ≤ hour ∧ hour < 24 → 0 ≤ minute ∧ minute < 60 →
    rt.parseDate (toDateString rt t timezone ++ "T" ++ (padTwo hour ++ ":" ++ padTwo minute) ++ ":00Z") =
      some (instantOf 0 (localDay zone t) (60 * hour + minute))
  /-- With the zone's offset it is read as the zone's time. -/
  parseLocal : ∀ (t t' : Instant) (hour minute : Int), 0 ≤ hour ∧ hour < 24 →
    0 ≤ minute ∧ minute < 60 →
    rt.parseDate (toDateString rt t timezone ++ "T" ++ (padTwo hour ++ ":" ++ padTwo minute) ++ ":00" ++
        rt.formatOffset t' timezone) =
      some (instantOf zone (localDay zone t) (60 * hour + minute))

/-- The text spells the time of day, in minutes. -/
def Runtime.Spells (rt : Runtime) (timeStr : String) (minutes : Int) : Prop :=
  ∃ hour minute : Int, parseTimeString rt timeStr = (some (hour : Rat), some (minute : Rat)) ∧
    (0 ≤ hour ∧ hour < 24) ∧ (0 ≤ minute ∧ minute < 60) ∧ minutes = 60 * hour + minute

section Clock

variable {rt : Runtime} {server zone : Int} {timezone : String} {weekDay minutes : Int} {t : Instant}

theorem Runtime.Spells.range {timeStr : String} (h : rt.Spells timeStr minutes) :
    0 ≤ minutes ∧ minutes < minutesPerDay := by
  obtain ⟨hour, minute, _, hhour, hminute, rfl⟩ := h
  unfold minutesPerDay
  omega

/-- The time of day on the date that the congregation's clock shows at the instant. -/
theorem setHoursInTimezone_eq (hrt : rt.Keeps server zone timezone) {timeStr : String}
    (htime : rt.Spells timeStr minutes) :
    setHoursInTimezone rt t (parseTimeString rt timeStr).1 (parseTimeString rt timeStr).2 timezone =
      some (instantOf zone (localDay zone t) minutes) := by
  obtain ⟨hour, minute, hparse, hhour, hminute, rfl⟩ := htime
  have hutc := hrt.parseUtc t hour minute hhour hminute
  have hlocal := fun t' => hrt.parseLocal t t' hour minute hhour hminute
  rw [hparse]
  simp [setHoursInTimezone, padTime, combineLocalDateTime, hutc, hlocal]

/-! ## The dates -/

/-- The first day on the weekday, from the day that the server's clock shows at the instant. -/
def firstDay (server weekDay : Int) (t : Instant) : Int :=
  localDay server t + (weekDay - weekday (localDay server t) + 7).tmod 7

theorem weeklyDates_eq (hrt : rt.Keeps server zone timezone) (day : Int) (count : Nat) :
    weeklyDates rt (instantOf server day 0) count =
      (List.range count).map fun i : Nat => instantOf server (day + 7 * i) 0 := by
  induction count generalizing day with
  | zero => rfl
  | succ count ih =>
    have hnext := hrt.setDate (instantOf server day 0) 7
    rw [instantOf_add_days] at hnext
    have hnext' : rt.localTime.setDate (instantOf server day 0)
        (rt.localTime.getDate (instantOf server day 0) + 7) = instantOf server (day + 7) 0 := by
      exact_mod_cast hnext
    rw [weeklyDates, hnext', ih, List.range_succ_eq_map, List.map_cons, List.map_map]
    congr 1
    · simp
    · refine List.map_congr_left fun i _ => ?_
      show instantOf server (day + 7 + 7 * i) 0 = instantOf server (day + 7 * (i + 1 : Nat)) 0
      congr 1
      omega

/-- **The dates are midnights of the server**, a week apart from the first day on the weekday. -/
theorem computeDates_eq (hrt : rt.Keeps server zone timezone) (count : Nat) :
    computeDatesForWeekdayCount rt weekDay count t =
      (List.range count).map fun i : Nat => instantOf server (firstDay server weekDay t + 7 * i) 0 := by
  have hstart : rt.localTime.setDate (startOfLocalDay rt t)
      (rt.localTime.getDate (startOfLocalDay rt t) +
        ((weekDay - rt.getDay (startOfLocalDay rt t) + 7).tmod 7 : Int)) =
      instantOf server (firstDay server weekDay t) 0 := by
    have hday : localDay server (startOfLocalDay rt t) = localDay server t := by
      rw [startOfLocalDay, hrt.setHours, localDay_instantOf (by decide)]
    rw [hrt.setDate, hrt.getDay, hday, startOfLocalDay, hrt.setHours, instantOf_add_days]
    rfl
  rw [← weeklyDates_eq hrt, ← hstart]
  rfl

end Clock

/-! ## One run -/

/-- The lookup finds an event of the template on the day, starting at `since` or later. -/
def EventDb.finds (db : EventDb) (zone : Int) (templateId : Nat) (since : Instant) (day : Int) : Bool :=
  db.events.any fun e =>
    e.templateId == some templateId && since ≤ e.startDate && localDay zone e.startDate == day

section Run

variable {rt : Runtime} {server zone : Int} {timezone : String} {weekDay minutes minutes' : Int}
  {db : EventDb} {template : TemplateWithRelations} {templateId occurrences createdById : Nat}
  {now : Instant} {startFrom : Option Instant}

theorem createEventWithAssignments_run (hrt : rt.Keeps server zone timezone)
    (hstart : rt.Spells template.template.startTime minutes)
    (hend : rt.Spells template.template.endTime minutes') (date : Instant) :
    ∃ event db', (createEventWithAssignments rt template date createdById timezone).exec db =
        (.ok event, db') ∧
      (db'.events = db.events ++ [event] ∧ db'.templates = db.templates) ∧
      event.templateId = some template.template.id ∧
      event.startDate = instantOf zone (localDay zone date) minutes := by
  let event : Event := ⟨db.nextEventId, template.template.name,
    instantOf zone (localDay zone date) minutes, instantOf zone (localDay zone date) minutes', .draft,
    some template.template.id, createdById⟩
  obtain ⟨_, _, _, _, _, _, hevents, _, htemplates⟩ := @instantiate_adds (db.createEvent fun _ => event)
    template (generatedPart event.id) (generatedServicePart event.id)
  refine ⟨event, (db.createEvent fun _ => event).instantiate template (generatedPart event.id)
    (generatedServicePart event.id), ?_, ⟨hevents, htemplates⟩, rfl, rfl⟩
  unfold createEventWithAssignments
  simp only [setHoursInTimezone_eq hrt hstart, setHoursInTimezone_eq hrt hend, requireDate,
    Tx.exec_bind, Tx.exec_check, Tx.exec_get, Tx.exec_modify]
  rfl

/-- The loop makes an event for each date whose text is not among those it is given. -/
theorem generate_loop (hrt : rt.Keeps server zone timezone)
    (hstart : rt.Spells template.template.startTime minutes)
    (hend : rt.Spells template.template.endTime minutes') (existing : List String)
    (dates : List Instant) (before : List Event) :
    ∃ created db',
      (dates.foldlM (fun createdEvents date => do
        if existing.contains (toDateString rt date timezone) then
          return createdEvents
        let event ← createEventWithAssignments rt template date createdById timezone
        return createdEvents ++ [event]) before).exec db = (.ok (before ++ created), db') ∧
      (db'.events = db.events ++ created ∧ db'.templates = db.templates ∧ (created = [] → db' = db)) ∧
      (∀ e ∈ created, e.templateId = some template.template.id) ∧
      created.map (·.startDate) =
        (dates.filter fun date => !existing.contains (toDateString rt date timezone)).map
          fun date => instantOf zone (localDay zone date) minutes := by
  induction dates generalizing before db with
  | nil =>
    refine ⟨[], db, ?_, ⟨(List.append_nil _).symm, rfl, fun _ => rfl⟩, by simp, rfl⟩
    rw [List.append_nil]
    rfl
  | cons date dates ih =>
    rw [List.foldlM_cons, List.filter_cons]
    cases hskip : existing.contains (toDateString rt date timezone) with
    | true =>
      obtain ⟨created, db', hrun, hrest⟩ := @ih db before
      refine ⟨created, db', ?_, hrest⟩
      rw [Tx.exec_bind]
      exact hrun
    | false =>
      obtain ⟨event, db₁, hevent, ⟨hadded, hsame⟩, hmine, hdate⟩ :=
        @createEventWithAssignments_run rt server zone timezone minutes minutes' db template createdById
          hrt hstart hend date
      obtain ⟨created, db', hrun, ⟨hevents, htemplates, _⟩, hown, hdates⟩ := @ih db₁ (before ++ [event])
      refine ⟨event :: created, db', ?_, ⟨?_, htemplates.trans hsame, nofun⟩, ?_, ?_⟩
      · rw [List.append_assoc, List.singleton_append] at hrun
        rw [Tx.exec_bind, if_neg Bool.false_ne_true, Tx.exec_bind, hevent]
        exact hrun
      · rw [hevents, hadded, List.append_assoc, List.singleton_append]
      · intro e he
        rcases List.mem_cons.mp he with rfl | he
        · exact hmine
        · exact hown e he
      · rw [List.map_cons, hdates, hdate]
        rfl

theorem id_of_loadTemplate (h : db.loadTemplate templateId = some template) :
    template.template.id = templateId := by
  obtain ⟨row, hrow, rfl⟩ := Option.map_eq_some_iff.mp h
  simpa using List.find?_some hrow

/-- The date of the congregation's clock at the `i`-th of the server's midnights. -/
def shownDay (server zone first : Int) (i : Nat) : Int := first + 7 * i + (zone - server) / minutesPerDay

theorem localDay_midnight (first : Int) (i : Nat) :
    localDay zone (instantOf server (first + 7 * i) 0) = shownDay server zone first i := by
  rw [localDay_instantOf_other, Int.zero_add]
  rfl

/-- A date's text is among those of the events there are when the lookup finds one on the date. -/
theorem contains_dateText (hrt : rt.Keeps server zone timezone) (since date : Instant) :
    ((db.events.filter fun e => e.templateId == some templateId && since ≤ e.startDate).map
        fun e => toDateString rt e.startDate timezone).contains (toDateString rt date timezone) =
      db.finds zone templateId since (localDay zone date) := by
  rw [Bool.eq_iff_iff, List.contains_iff_mem, EventDb.finds, List.any_eq_true, List.mem_map]
  simp only [List.mem_filter, Bool.and_eq_true, beq_iff_eq, decide_eq_true_eq, hrt.dateText]
  exact exists_congr fun e => by rw [and_assoc]

/-- **One run** makes an event for each requested date on which the lookup finds none, at the time of
day of the template. -/
theorem generate_run (hrt : rt.Keeps server zone timezone)
    (htemplate : db.loadTemplate templateId = some template)
    (hweekDay : template.template.weekDay = some weekDay)
    (hstart : rt.Spells template.template.startTime minutes)
    (hend : rt.Spells template.template.endTime minutes') {first : Int}
    (hfirst : firstDay server weekDay (startFrom.getD now) = first) :
    ∃ created db',
      (generateEventsFromTemplate rt now templateId occurrences createdById timezone startFrom).exec db =
        (.ok created, db') ∧
      (db'.events = db.events ++ created ∧ db'.templates = db.templates ∧ (created = [] → db' = db)) ∧
      (∀ e ∈ created, e.templateId = some templateId) ∧
      created.map (·.startDate) =
        ((List.range occurrences).filter fun i =>
          !db.finds zone templateId (instantOf server first 0) (shownDay server zone first i)).map
            fun i => instantOf zone (shownDay server zone first i) minutes := by
  have hdates := @computeDates_eq rt server zone timezone weekDay (startFrom.getD now) hrt occurrences
  rw [hfirst] at hdates
  have hbound : ∀ i < occurrences, ((List.range occurrences).map fun i : Nat =>
      instantOf server (first + 7 * i) 0).head?.getD now = instantOf server first 0 := by
    intro i hi
    obtain ⟨n, rfl⟩ : ∃ n, occurrences = n + 1 := ⟨occurrences - 1, by omega⟩
    rw [List.range_succ_eq_map, List.map_cons, List.head?_cons, Option.getD_some]
    simp
  obtain ⟨created, db', hrun, hsame, hmine, hcreated⟩ := @generate_loop rt server zone timezone minutes
    minutes' db template createdById hrt hstart hend
    ((db.events.filter fun e => e.templateId == some templateId &&
      ((List.range occurrences).map fun i : Nat =>
        instantOf server (first + 7 * i) 0).head?.getD now ≤ e.startDate).map
          fun e => toDateString rt e.startDate timezone)
    ((List.range occurrences).map fun i : Nat => instantOf server (first + 7 * i) 0) []
  refine ⟨created, db', ?_, hsame, fun e he => id_of_loadTemplate htemplate ▸ hmine e he, ?_⟩
  · unfold generateEventsFromTemplate
    rw [Tx.exec_bind_get]
    simp only [htemplate, hweekDay, hdates]
    exact hrun
  · rw [hcreated, List.filter_map, List.map_map]
    have hfilter : (List.range occurrences).filter ((fun date => !((db.events.filter fun e =>
          e.templateId == some templateId && ((List.range occurrences).map fun i : Nat =>
            instantOf server (first + 7 * i) 0).head?.getD now ≤ e.startDate).map
          fun e => toDateString rt e.startDate timezone).contains (toDateString rt date timezone)) ∘
            fun i : Nat => instantOf server (first + 7 * i) 0) =
        (List.range occurrences).filter fun i =>
          !db.finds zone templateId (instantOf server first 0) (shownDay server zone first i) := by
      refine List.filter_congr fun i hi => ?_
      rw [Function.comp_apply, contains_dateText hrt, hbound i (List.mem_range.mp hi),
        localDay_midnight]
    rw [hfilter]
    refine List.map_congr_left fun i _ => ?_
    rw [Function.comp_apply, localDay_midnight]

end Run

/-! ## Once for each date -/

/-- At most one event of the template on each date of the congregation. -/
def EventDb.OnePerDate (db : EventDb) (zone : Int) (templateId : Nat) : Prop :=
  Keyed (fun e => localDay zone e.startDate) (db.events.filter (·.templateId == some templateId))

/-- A run leaves one event of the template per date; those it creates fall on the weekday and in the
weeks asked for, counted from the server's date; a run from the same date creates no more. -/
def GeneratesOnce (rt : Runtime) (server zone : Int) (now : Instant)
    (templateId occurrences createdById : Nat) (timezone : String) (startFrom : Option Instant)
    (weekDay : Int) (db : EventDb) : Prop :=
  ∃ created db',
    (generateEventsFromTemplate rt now templateId occurrences createdById timezone startFrom).exec db =
      (.ok created, db') ∧
    db'.OnePerDate zone templateId ∧
    (∀ e ∈ created, weekday (localDay zone e.startDate) = weekDay ∧
      localDay server (startFrom.getD now) ≤ localDay zone e.startDate ∧
      localDay zone e.startDate < localDay server (startFrom.getD now) + 7 * occurrences) ∧
    ∀ now', localDay server (startFrom.getD now') = localDay server (startFrom.getD now) →
      (generateEventsFromTemplate rt now' templateId occurrences createdById timezone startFrom).exec db' =
        (.ok [], db')

/-- What a date that is to get an event asks: a weekday, a congregation that is ahead of the server by
less than a day, and on the first date a start after the server's midnight and no earlier event. -/
def EventDb.InStep (db : EventDb) (server zone : Int) (templateId occurrences : Nat)
    (weekDay minutes first : Int) : Prop :=
  ∀ i < occurrences,
    db.finds zone templateId (instantOf server first 0) (shownDay server zone first i) = false →
      (0 ≤ weekDay ∧ weekDay < 7) ∧ (0 ≤ zone - server ∧ zone - server < minutesPerDay) ∧
        (i = 0 → zone - server ≤ minutes ∧
          ∀ e ∈ db.events, e.templateId = some templateId → localDay zone e.startDate ≠ first)

section Once

variable {rt : Runtime} {server zone : Int} {timezone : String} {weekDay minutes minutes' first : Int}
  {db db' : EventDb} {template : TemplateWithRelations} {templateId occurrences createdById : Nat}
  {now : Instant} {startFrom : Option Instant} {created : List Event} {wanted : List Nat}

theorem shownDay_inj {i j : Nat} :
    shownDay server zone first i = shownDay server zone first j ↔ i = j := by
  unfold shownDay
  omega

/-- The dates after the first are past the server's first midnight, whatever the clocks. -/
theorem midnight_le_of_pos {i : Nat} (hi : 0 < i) {minute : Int} (hminute : 0 ≤ minute) :
    instantOf server first 0 ≤ instantOf zone (shownDay server zone first i) minute := by
  rw [instantOf_le_iff]
  unfold shownDay minutesPerDay
  omega

/-- So is the first when the start is not earlier than the congregation is ahead. -/
theorem midnight_le_first_iff (hslip : 0 ≤ zone - server ∧ zone - server < minutesPerDay) :
    instantOf server first 0 ≤ instantOf zone (shownDay server zone first 0) minutes ↔
      zone - server ≤ minutes := by
  rw [instantOf_le_iff]
  unfold shownDay minutesPerDay at *
  omega

/-- On clocks less than a day apart the first date is the server's. -/
theorem shownDay_first (hslip : 0 ≤ zone - server ∧ zone - server < minutesPerDay) :
    shownDay server zone first 0 = first := by
  unfold shownDay minutesPerDay at *
  omega

/-- The congregation's date has the weekday exactly when the clocks show the same date at the server's
midnight. -/
theorem weekday_shownDay_iff {start : Int} {i : Nat}
    (hserver : -minutesPerDay < server ∧ server < minutesPerDay)
    (hzone : -minutesPerDay < zone ∧ zone < minutesPerDay) (hi : i < occurrences)
    (hfirst : first = start + (weekDay - weekday start + 7).tmod 7) :
    (weekday (shownDay server zone first i) = weekDay ∧
        start ≤ shownDay server zone first i ∧
        shownDay server zone first i < start + 7 * occurrences) ↔
      (0 ≤ weekDay ∧ weekDay < 7) ∧ (0 ≤ zone - server ∧ zone - server < minutesPerDay) := by
  have hbounds := weekday_bounds start
  have htmod : 0 ≤ weekDay ∧ weekDay < 7 →
      (weekDay - weekday start + 7).tmod 7 = (weekDay - weekday start + 7) % 7 := by
    intro h
    exact Int.tmod_eq_emod_of_nonneg (by omega)
  constructor
  · rintro ⟨hday, _, _⟩
    have hrange : 0 ≤ weekDay ∧ weekDay < 7 := hday ▸ weekday_bounds _
    rw [htmod hrange] at hfirst
    refine ⟨hrange, ?_⟩
    unfold weekday shownDay minutesPerDay at *
    omega
  · rintro ⟨hrange, hslip⟩
    rw [htmod hrange] at hfirst
    unfold weekday shownDay minutesPerDay at *
    omega

/-- The created events fall on the dates they were wanted for. -/
theorem created_days (hminutes : 0 ≤ minutes ∧ minutes < minutesPerDay)
    (hcreated : created.map (·.startDate) =
      wanted.map fun i => instantOf zone (shownDay server zone first i) minutes) :
    created.map (fun e => localDay zone e.startDate) = wanted.map (shownDay server zone first) := by
  have hdays : created.map (fun e => localDay zone e.startDate) =
      (created.map (·.startDate)).map (localDay zone) := by
    rw [List.map_map]
    rfl
  rw [hdays, hcreated, List.map_map]
  refine List.map_congr_left fun i _ => ?_
  exact localDay_instantOf hminutes

/-- A date keeps to one event when none was there for a date that gets one. -/
theorem onePerDate_append_iff (hone : db.OnePerDate zone templateId)
    (hevents : db'.events = db.events ++ created)
    (hmine : ∀ e ∈ created, e.templateId = some templateId)
    (hdays : created.map (fun e => localDay zone e.startDate) = wanted.map (shownDay server zone first))
    (hwanted : wanted.Nodup) :
    db'.OnePerDate zone templateId ↔ ∀ e ∈ db.events, e.templateId = some templateId →
      ∀ i ∈ wanted, localDay zone e.startDate ≠ shownDay server zone first i := by
  have hown : created.filter (·.templateId == some templateId) = created := by
    rw [List.filter_eq_self]
    intro e he
    rw [hmine e he]
    exact beq_self_eq_true _
  have hnew : (wanted.map (shownDay server zone first)).Nodup :=
    hwanted.map fun _ _ => shownDay_inj.mp
  unfold EventDb.OnePerDate Keyed at *
  rw [hevents, List.filter_append, hown, List.map_append, hdays, List.nodup_append]
  constructor
  · rintro ⟨_, _, hcross⟩ e he hid i hi
    have hold : e ∈ db.events.filter (·.templateId == some templateId) :=
      List.mem_filter.mpr ⟨he, by simp [hid]⟩
    exact hcross _ (List.mem_map.mpr ⟨e, hold, rfl⟩) _ (List.mem_map.mpr ⟨i, hi, rfl⟩)
  · intro h
    refine ⟨hone, hnew, fun day hday day' hday' => ?_⟩
    obtain ⟨e, he, rfl⟩ := List.mem_map.mp hday
    obtain ⟨i, hi, rfl⟩ := List.mem_map.mp hday'
    obtain ⟨he, hid⟩ := List.mem_filter.mp he
    exact h e he (by simpa using hid) i hi

/-- The lookup after a run finds the event of a wanted date when its start is late enough. -/
theorem finds_after (hminutes : 0 ≤ minutes ∧ minutes < minutesPerDay) {since : Instant}
    (hevents : db'.events = db.events ++ created)
    (hmine : ∀ e ∈ created, e.templateId = some templateId)
    (hcreated : created.map (·.startDate) =
      wanted.map fun i => instantOf zone (shownDay server zone first i) minutes) (i : Nat) :
    db'.finds zone templateId since (shownDay server zone first i) = true ↔
      db.finds zone templateId since (shownDay server zone first i) = true ∨
        i ∈ wanted ∧ since ≤ instantOf zone (shownDay server zone first i) minutes := by
  unfold EventDb.finds
  rw [hevents, List.any_append, Bool.or_eq_true]
  refine or_congr_right ?_
  rw [List.any_eq_true]
  simp only [Bool.and_eq_true, beq_iff_eq, decide_eq_true_eq]
  constructor
  · rintro ⟨e, he, ⟨_, hsince⟩, hday⟩
    have hstart : e.startDate ∈ created.map (·.startDate) := List.mem_map.mpr ⟨e, he, rfl⟩
    rw [hcreated] at hstart
    obtain ⟨j, hj, hstart⟩ := List.mem_map.mp hstart
    have hsame : j = i := by
      rw [← hstart, localDay_instantOf hminutes] at hday
      exact shownDay_inj.mp hday
    subst hsame
    exact ⟨hj, hstart ▸ hsince⟩
  · rintro ⟨hi, hsince⟩
    have hstart : instantOf zone (shownDay server zone first i) minutes ∈
        created.map (·.startDate) := by
      rw [hcreated]
      exact List.mem_map.mpr ⟨i, hi, rfl⟩
    obtain ⟨e, he, hstart⟩ := List.mem_map.mp hstart
    exact ⟨e, he, ⟨hmine e he, hstart ▸ hsince⟩, by rw [hstart, localDay_instantOf hminutes]⟩

/-- An event on a date after the first is found whatever its time of day. -/
theorem finds_of_pos {i : Nat} (hi : 0 < i) {e : Event} (he : e ∈ db.events)
    (hid : e.templateId = some templateId)
    (hday : localDay zone e.startDate = shownDay server zone first i) :
    db.finds zone templateId (instantOf server first 0) (shownDay server zone first i) = true := by
  have hmidnight : instantOf server first 0 ≤ instantOf zone (shownDay server zone first i) 0 :=
    midnight_le_of_pos hi (Int.le_refl 0)
  have hsince : instantOf server first 0 ≤ e.startDate :=
    Int.le_trans hmidnight (localDay_eq_iff.mp hday).1
  rw [EventDb.finds, List.any_eq_true]
  exact ⟨e, he, by simp [hid, hsince, hday]⟩

/-- The created events are on the weekday and in the weeks asked for when the wanted dates are. -/
theorem created_right_iff (hrt : rt.Keeps server zone timezone) {start : Int}
    (hdays : created.map (fun e => localDay zone e.startDate) = wanted.map (shownDay server zone first))
    (hwanted : ∀ i ∈ wanted, i < occurrences)
    (hfirst : first = start + (weekDay - weekday start + 7).tmod 7) :
    (∀ e ∈ created, weekday (localDay zone e.startDate) = weekDay ∧
      start ≤ localDay zone e.startDate ∧ localDay zone e.startDate < start + 7 * occurrences) ↔
      ∀ i ∈ wanted, (0 ≤ weekDay ∧ weekDay < 7) ∧
        (0 ≤ zone - server ∧ zone - server < minutesPerDay) := by
  have hlist : ∀ P : Int → Prop, (∀ e ∈ created, P (localDay zone e.startDate)) ↔
      ∀ i ∈ wanted, P (shownDay server zone first i) := by
    intro P
    rw [← List.forall_mem_map, hdays, List.forall_mem_map]
  rw [hlist fun day => weekday day = weekDay ∧ start ≤ day ∧ day < start + 7 * occurrences]
  exact forall₂_congr fun i hi =>
    weekday_shownDay_iff hrt.server_range hrt.zone_range (hwanted i hi) hfirst

/-- After a run the lookup finds an event on every date when those it made start late enough. -/
theorem finds_all_iff (hminutes : 0 ≤ minutes ∧ minutes < minutesPerDay)
    (hevents : db'.events = db.events ++ created)
    (hmine : ∀ e ∈ created, e.templateId = some templateId)
    (hcreated : created.map (·.startDate) =
      wanted.map fun i => instantOf zone (shownDay server zone first i) minutes)
    (hwanted : ∀ i, i ∈ wanted ↔ i < occurrences ∧
      db.finds zone templateId (instantOf server first 0) (shownDay server zone first i) = false) :
    (∀ i < occurrences, db'.finds zone templateId (instantOf server first 0)
        (shownDay server zone first i) = true) ↔
      ∀ i ∈ wanted, instantOf server first 0 ≤ instantOf zone (shownDay server zone first i) minutes := by
  refine ⟨fun h i hi => ?_, fun h i hi => ?_⟩
  · obtain ⟨hlt, hmissing⟩ := (hwanted i).mp hi
    rcases (finds_after hminutes hevents hmine hcreated i).mp (h i hlt) with hfound | ⟨_, hlate⟩
    · rw [hmissing] at hfound
      cases hfound
    · exact hlate
  · rw [finds_after hminutes hevents hmine hcreated]
    cases hfound : db.finds zone templateId (instantOf server first 0)
        (shownDay server zone first i) with
    | true => exact .inl rfl
    | false =>
      have hi' := (hwanted i).mpr ⟨hi, hfound⟩
      exact .inr ⟨hi', h i hi'⟩

/-- The three conditions on the wanted dates are the one on the dates without an event: of the dates
after the first only the clocks are asked for. -/
theorem inStep_iff (hminute : 0 ≤ minutes)
    (hwanted : ∀ i, i ∈ wanted ↔ i < occurrences ∧
      db.finds zone templateId (instantOf server first 0) (shownDay server zone first i) = false) :
    ((∀ e ∈ db.events, e.templateId = some templateId →
        ∀ i ∈ wanted, localDay zone e.startDate ≠ shownDay server zone first i) ∧
      (∀ i ∈ wanted, (0 ≤ weekDay ∧ weekDay < 7) ∧
        (0 ≤ zone - server ∧ zone - server < minutesPerDay)) ∧
      ∀ i ∈ wanted, instantOf server first 0 ≤ instantOf zone (shownDay server zone first i) minutes) ↔
      db.InStep server zone templateId occurrences weekDay minutes first := by
  constructor
  · rintro ⟨hnew, hclocks, hlate⟩ i hi hmissing
    have hi' := (hwanted i).mpr ⟨hi, hmissing⟩
    obtain ⟨hday, hslip⟩ := hclocks i hi'
    refine ⟨hday, hslip, fun hzero => ?_⟩
    subst hzero
    refine ⟨(midnight_le_first_iff hslip).mp (hlate 0 hi'), fun e he hid => ?_⟩
    have hday := hnew e he hid 0 hi'
    rwa [shownDay_first hslip] at hday
  · intro h
    have hwant : ∀ i ∈ wanted, _ := fun i hi => h i ((hwanted i).mp hi).1 ((hwanted i).mp hi).2
    refine ⟨fun e he hid i hi hday => ?_, fun i hi => ⟨(hwant i hi).1, (hwant i hi).2.1⟩, fun i hi => ?_⟩
    · obtain ⟨_, hslip, hzero⟩ := hwant i hi
      rcases Nat.eq_zero_or_pos i with rfl | hpos
      · rw [shownDay_first hslip] at hday
        exact (hzero rfl).2 e he hid hday
      · have hfound := finds_of_pos hpos he hid hday
        rw [((hwanted i).mp hi).2] at hfound
        cases hfound
    · obtain ⟨_, hslip, hzero⟩ := hwant i hi
      rcases Nat.eq_zero_or_pos i with rfl | hpos
      · exact (midnight_le_first_iff hslip).mpr (hzero rfl).1
      · exact midnight_le_of_pos hpos hminute

/-- A run changes no template. -/
theorem loadTemplate_after (htemplate : db.loadTemplate templateId = some template)
    (hsame : db'.templates = db.templates) :
    ∃ template', db'.loadTemplate templateId = some template' ∧
      template'.template = template.template := by
  obtain ⟨row, hrow, rfl⟩ := Option.map_eq_some_iff.mp htemplate
  refine ⟨_, Option.map_eq_some_iff.mpr ⟨row, ?_, rfl⟩, rfl⟩
  rw [EventDb.templateById, hsame]
  exact hrow

/-- A run creates nothing exactly when the lookup finds an event on every date. -/
theorem generate_nothing_iff (hrt : rt.Keeps server zone timezone)
    (htemplate : db.loadTemplate templateId = some template)
    (hweekDay : template.template.weekDay = some weekDay)
    (hstart : rt.Spells template.template.startTime minutes)
    (hend : rt.Spells template.template.endTime minutes')
    (hfirst : firstDay server weekDay (startFrom.getD now) = first) :
    (generateEventsFromTemplate rt now templateId occurrences createdById timezone startFrom).exec db =
        (.ok [], db) ↔
      ∀ i < occurrences,
        db.finds zone templateId (instantOf server first 0) (shownDay server zone first i) = true := by
  obtain ⟨created, db', hrun, ⟨_, _, hidle⟩, _, hcreated⟩ :=
    @generate_run rt server zone timezone weekDay minutes minutes' db template templateId occurrences
      createdById now startFrom hrt htemplate hweekDay hstart hend first hfirst
  have hnone : created = [] ↔ ∀ i < occurrences,
      db.finds zone templateId (instantOf server first 0) (shownDay server zone first i) = true := by
    rw [← List.map_eq_nil_iff, hcreated, List.map_eq_nil_iff, List.filter_eq_nil_iff]
    simp
  rw [← hnone, hrun]
  constructor
  · intro h
    exact Except.ok.inj (congrArg Prod.fst h)
  · intro h
    rw [h, hidle h]

/-- A template without a weekday generates nothing. -/
theorem generate_without_weekDay (htemplate : db.loadTemplate templateId = some template)
    (hweekDay : template.template.weekDay = none) :
    (generateEventsFromTemplate rt now templateId occurrences createdById timezone startFrom).exec db =
      (.ok [], db) := by
  unfold generateEventsFromTemplate
  rw [Tx.exec_bind_get]
  simp only [htemplate, hweekDay]
  rfl

end Once

/-! ## A runtime on two clocks -/

open IsoDate Calendar

def dateChars (day : Int) : List Char :=
  let date := civilFromDays day
  yearText date.1 ++ '-' :: (padded 2 date.2.1.toNat ++ '-' :: padded 2 date.2.2.toNat)

/-- `+01:00`. -/
def offsetChars (offset : Int) : List Char :=
  (if 0 ≤ offset then '+' else '-') ::
    (padded 2 (offset.natAbs / 60) ++ ':' :: padded 2 (offset.natAbs % 60))

def readOffset : List Char → Option Int
  | ['Z'] => some 0
  | '+' :: cs => (readField ':' cs).map fun r => 60 * (r.1 : Int) + Nat.ofDigitChars 10 r.2 0
  | '-' :: cs => (readField ':' cs).map fun r => -(60 * (r.1 : Int) + Nat.ofDigitChars 10 r.2 0)
  | _ => none

/-- `new Date(text)` of `YYYY-MM-DDTHH:mm:00` with `Z` or an offset. -/
def readZoned (text : String) : Option Instant := do
  let (year, cs) ← readYear text.toList
  let (month, cs) ← readField '-' cs
  let (day, cs) ← readField 'T' cs
  let (hour, cs) ← readField ':' cs
  let (minute, cs) ← readField ':' cs
  let offset ← readOffset (cs.drop 2)
  return instantOf offset (daysFromCivil year month day) (60 * hour + minute)

/-- The runtime of a server whose clock stands at `server`, where every time zone is at `zone`. -/
def Runtime.clocks (server zone : Int) : Runtime where
  localTime :=
    { LocalTime.utc with
      newDate := fun year month day =>
        instantOf server (daysFromCivil year.floor (month.floor + 1) day.floor) 0
      getFullYear := fun t => (civilFromDays (localDay server t)).1
      getMonth := fun t => (civilFromDays (localDay server t)).2.1 - 1
      getDate := fun t => (civilFromDays (localDay server t)).2.2
      setDate := fun t day =>
        t + msPerDay * (day.floor - (civilFromDays (localDay server t)).2.2) }
  getDay := fun t => weekday (localDay server t)
  setHours := fun t hours minutes seconds ms =>
    instantOf server (localDay server t) 0 + ((hours * 60 + minutes) * 60 + seconds) * 1000 + ms
  parseDate := readZoned
  formatOffset := fun _ _ => String.ofList (offsetChars zone)
  dateParts := fun t _ =>
    let date := civilFromDays (localDay zone t)
    (String.ofList (yearText date.1), String.ofList (padded 2 date.2.1.toNat),
      String.ofList (padded 2 date.2.2.toNat))
  formatEventDate := fun t _ _ => String.ofList (dateChars (localDay zone t))

theorem readOffset_offsetChars (offset : Int) : readOffset (offsetChars offset) = some offset := by
  have hfield := @readField_padded ':' (by decide) 2 (offset.natAbs / 60)
    (padded 2 (offset.natAbs % 60))
  unfold offsetChars
  by_cases hsign : 0 ≤ offset
  · rw [if_pos hsign]
    show (readField ':' _).map _ = _
    rw [hfield, Option.map_some, ofDigitChars_padded]
    congr 1
    omega
  · rw [if_neg hsign]
    show (readField ':' _).map _ = _
    rw [hfield, Option.map_some, ofDigitChars_padded]
    congr 1
    omega

/-- A date and a time of day that were written are read back, at the offset that follows them. -/
theorem readZoned_dateChars (day : Int) (hour minute : Nat) {tail : List Char} {offset : Int}
    (htail : readOffset tail = some offset) :
    readZoned (String.ofList (dateChars day ++ 'T' :: (padded 2 hour ++ ':' :: (padded 2 minute ++
      ':' :: '0' :: '0' :: tail)))) = some (instantOf offset day (60 * hour + minute)) := by
  obtain ⟨hmonth, hday⟩ := civilFromDays_pos day
  have hmonth' : ((civilFromDays day).2.1.toNat : Int) = (civilFromDays day).2.1 := by omega
  have hday' : ((civilFromDays day).2.2.toNat : Int) = (civilFromDays day).2.2 := by omega
  unfold readZoned dateChars
  dsimp only
  rw [String.toList_ofList, List.append_assoc, List.cons_append, readYear_yearText]
  show (readField '-' _ >>= _) = _
  rw [List.append_assoc, List.cons_append, readField_padded (by decide)]
  show (readField 'T' _ >>= _) = _
  rw [readField_padded (by decide)]
  show (readField ':' _ >>= _) = _
  rw [readField_padded (by decide)]
  show (readField ':' _ >>= _) = _
  rw [readField_padded (by decide)]
  show (readOffset tail >>= _) = _
  rw [htail]
  show some _ = _
  rw [hmonth', hday', daysFromCivil_civilFromDays]

theorem padTwo_eq : ∀ n : Fin 60, padTwo (n : Nat) = String.ofList (padded 2 n) := by
  decide +kernel

section Clocks

variable {server zone : Int} {timezone : String}

theorem clocks_dateText (t : Instant) :
    toDateString (.clocks server zone) t timezone = String.ofList (dateChars (localDay zone t)) := by
  unfold toDateString Runtime.clocks dateChars
  dsimp only
  rw [← String.toList_inj]
  simp

/-- The runtime reads what the code spells. -/
theorem clocks_parse (t : Instant) {hour minute : Int} (hhour : 0 ≤ hour ∧ hour < 24)
    (hminute : 0 ≤ minute ∧ minute < 60) {tail : List Char} {offset : Int}
    (htail : readOffset tail = some offset) :
    (Runtime.clocks server zone).parseDate (toDateString (.clocks server zone) t timezone ++ "T" ++
        (padTwo hour ++ ":" ++ padTwo minute) ++ ":00" ++ String.ofList tail) =
      some (instantOf offset (localDay zone t) (60 * hour + minute)) := by
  obtain ⟨h, rfl⟩ := Int.eq_ofNat_of_zero_le hhour.1
  obtain ⟨m, rfl⟩ := Int.eq_ofNat_of_zero_le hminute.1
  have hh : padTwo h = String.ofList (padded 2 h) := padTwo_eq ⟨h, by omega⟩
  have hm : padTwo m = String.ofList (padded 2 m) := padTwo_eq ⟨m, by omega⟩
  have htext : toDateString (.clocks server zone) t timezone ++ "T" ++
      (padTwo h ++ ":" ++ padTwo m) ++ ":00" ++ String.ofList tail =
        String.ofList (dateChars (localDay zone t) ++ 'T' :: (padded 2 h ++ ':' :: (padded 2 m ++
          ':' :: '0' :: '0' :: tail))) := by
    rw [clocks_dateText, hh, hm, ← String.toList_inj]
    simp
  rw [htext]
  exact readZoned_dateChars (localDay zone t) h m htail

theorem clocks_keeps (hserver : -minutesPerDay < server ∧ server < minutesPerDay)
    (hzone : -minutesPerDay < zone ∧ zone < minutesPerDay) (timezone : String) :
    (Runtime.clocks server zone).Keeps server zone timezone where
  server_range := hserver
  zone_range := hzone
  setHours t := by simp [Runtime.clocks]
  getDay _ := rfl
  setDate t k := by
    have hfloor : ((((civilFromDays (localDay server t)).2.2 : Int) : Rat) + (k : Rat)).floor =
        (civilFromDays (localDay server t)).2.2 + k := by
      rw [← Rat.intCast_add, Rat.floor_intCast]
    show t + msPerDay * ((((civilFromDays (localDay server t)).2.2 : Int) + (k : Rat)).floor -
      (civilFromDays (localDay server t)).2.2) = _
    rw [hfloor]
    congr 2
    omega
  dateText t t' := by
    refine ⟨fun h => ?_, fun h => by rw [clocks_dateText, clocks_dateText, h]⟩
    have hread := @clocks_parse server zone timezone t 0 0 (by decide) (by decide) ['Z'] 0 rfl
    rw [h, clocks_parse t' (by decide) (by decide) rfl, Option.some.injEq, instantOf_eq,
      instantOf_eq] at hread
    unfold msPerMinute minutesPerDay at hread
    omega
  formatOffset _ _ := rfl
  parseUtc t hour minute hhour hminute := by
    have hread := @clocks_parse server zone timezone t hour minute hhour hminute ['Z'] 0 rfl
    rw [String.append_assoc] at hread
    exact hread
  parseLocal t t' hour minute hhour hminute :=
    clocks_parse t hhour hminute (readOffset_offsetChars zone)

end Clocks

/-! ## A Tuesday meeting -/

def midweekMeeting : TemplateWithRelations where
  template := ⟨1, "Réunion de semaine", "midweek-meeting", some 2, "19:00", "21:00"⟩
  parts := []
  serviceParts := []

def midweekDb : EventDb := { EventDb.empty with templates := [midweekMeeting.template] }

theorem midweekDb_loadTemplate : midweekDb.loadTemplate 1 = some midweekMeeting := by
  simp [EventDb.loadTemplate, EventDb.templateById, midweekDb, EventDb.empty, midweekMeeting]

theorem clocks_spells_start {server zone : Int} :
    (Runtime.clocks server zone).Spells midweekMeeting.template.startTime 1140 := by
  refine ⟨19, 0, ?_, by decide, by decide, by decide⟩
  show parseTimeString .utc "19:00" = (some ((19 : Int) : Rat), some ((0 : Int) : Rat))
  decide +kernel

theorem clocks_spells_end {server zone : Int} :
    (Runtime.clocks server zone).Spells midweekMeeting.template.endTime 1260 := by
  refine ⟨21, 0, ?_, by decide, by decide, by decide⟩
  show parseTimeString .utc "21:00" = (some ((21 : Int) : Rat), some ((0 : Int) : Rat))
  decide +kernel

end Unitae.Events
