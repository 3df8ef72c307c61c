import Unitae.Events.DaysOff

/-!
# Unitae — the stored conflict flag

`hasConflict` caches a join: whether a participant of the row has a day off that overlaps the row's event.
The assignments write it for their row, and the days off refresh it. What moves an event, deletes it or
changes its template leaves the flags as they are. Here is what each write does to the flags and to what
they mean; `Events/FlagRuns.lean` puts the writes together.
-/

namespace Unitae.Events

open Roles

/-! ## Rows and the truth about them -/

/-- A part or service row, as its flag sees it. -/
structure FlagRow where
  eventId : Nat
  participants : List Nat
  hasConflict : Bool
deriving DecidableEq, Repr

def EventPart.flagRow (p : EventPart) : FlagRow :=
  ⟨p.eventId, p.assigneeId.toList ++ p.assistantId.toList, p.hasConflict⟩

def EventServicePart.flagRow (s : EventServicePart) : FlagRow :=
  ⟨s.eventId, s.assigneeId.toList, s.hasConflict⟩

def EventDb.flagRows (db : EventDb) : List FlagRow :=
  db.eventParts.map (·.flagRow) ++ db.eventServiceParts.map (·.flagRow)

/-- The event is a day off of the member that overlaps the dates. -/
def EventDb.makesAbsent (db : EventDb) (d : Event) (memberId : Nat) (startDate endDate : Instant) : Bool :=
  db.creatorMemberId d == some memberId && db.isDayOff d && d.startDate ≤ endDate &&
    startDate ≤ d.endDate

/-- One of the participants has a day off overlapping the row's event. -/
def EventDb.inConflict (db : EventDb) (r : FlagRow) : Bool :=
  (db.eventById r.eventId).any fun e => r.participants.any fun memberId =>
    checkDayOffConflict db memberId e.startDate e.endDate

/-- Every flag tells the truth. -/
def EventDb.Truthful (db : EventDb) : Prop := ∀ r ∈ db.flagRows, r.hasConflict = db.inConflict r

/-- What the primary and foreign keys and the sequences of the tables ensure. -/
structure EventDb.WellFormed (db : EventDb) : Prop where
  events : Keyed (·.id) db.events
  parts : Keyed (·.id) db.eventParts
  services : Keyed (·.id) db.eventServiceParts
  eventIds : ∀ e ∈ db.events, e.id < db.nextEventId
  partIds : ∀ p ∈ db.eventParts, p.id < db.nextEventPartId
  serviceIds : ∀ s ∈ db.eventServiceParts, s.id < db.nextEventServicePartId
  partEvents : ∀ p ∈ db.eventParts, ∃ e ∈ db.events, e.id = p.eventId
  serviceEvents : ∀ s ∈ db.eventServiceParts, ∃ e ∈ db.events, e.id = s.eventId

section Truth

variable {db db' : EventDb} {r : FlagRow} {e ev x : Event} {added : List Event} {memberId : Nat}
  {startDate endDate : Instant}

theorem mem_flagRows : r ∈ db.flagRows ↔
    (∃ p ∈ db.eventParts, p.flagRow = r) ∨ ∃ s ∈ db.eventServiceParts, s.flagRow = r := by
  unfold EventDb.flagRows
  rw [List.mem_append, List.mem_map, List.mem_map]

theorem EventDb.WellFormed.event (h : db.WellFormed) (hr : r ∈ db.flagRows) :
    ∃ ev, db.eventById r.eventId = some ev := by
  have hexists : ∃ e ∈ db.events, e.id = r.eventId := by
    rcases mem_flagRows.mp hr with ⟨p, hp, rfl⟩ | ⟨s, hs, rfl⟩
    · exact h.partEvents p hp
    · exact h.serviceEvents s hs
  obtain ⟨e, he, hid⟩ := hexists
  exact ⟨e, h.events.find?_eq_some.mpr ⟨he, hid⟩⟩

/-- The two tables that say whose day off an event is. -/
structure SameAbsences (db db' : EventDb) : Prop where
  directory : db'.directory = db.directory
  templates : db'.templates = db.templates

theorem SameAbsences.makesAbsent (h : SameAbsences db db') :
    db'.makesAbsent = db.makesAbsent := by
  funext d memberId startDate endDate
  unfold EventDb.makesAbsent EventDb.creatorMemberId EventDb.isDayOff
  rw [h.directory, h.templates]

theorem SameAbsences.isDayOff (h : SameAbsences db db') : db'.isDayOff = db.isDayOff := by
  funext d
  unfold EventDb.isDayOff
  rw [h.templates]

theorem checkDayOffConflict_iff : checkDayOffConflict db memberId startDate endDate = true ↔
    ∃ d ∈ db.events, db.makesAbsent d memberId startDate endDate = true :=
  List.any_eq_true

theorem makesAbsent_iff : db.makesAbsent x memberId startDate endDate = true ↔
    db.creatorMemberId x = some memberId ∧ db.isDayOff x = true ∧ x.startDate ≤ endDate ∧
      startDate ≤ x.endDate := by
  unfold EventDb.makesAbsent
  simp only [Bool.and_eq_true, beq_iff_eq, decide_eq_true_iff, and_assoc]

/-- The truth about a row whose event is known. -/
theorem inConflict_iff (hev : db.eventById r.eventId = some ev) : db.inConflict r = true ↔
    ∃ memberId ∈ r.participants, ∃ d ∈ db.events,
      db.makesAbsent d memberId ev.startDate ev.endDate = true := by
  unfold EventDb.inConflict
  rw [hev, Option.any_some, List.any_eq_true]
  simp only [checkDayOffConflict_iff]

theorem inConflict_congr (hsame : SameAbsences db db') (hevents : db'.events = db.events) :
    db'.inConflict r = db.inConflict r := by
  have hcheck : ∀ memberId startDate endDate, checkDayOffConflict db' memberId startDate endDate =
      checkDayOffConflict db memberId startDate endDate := by
    intro memberId startDate endDate
    show db'.events.any (fun d => db'.makesAbsent d memberId startDate endDate) = _
    rw [hevents, hsame.makesAbsent]
    rfl
  unfold EventDb.inConflict EventDb.eventById
  simp only [hevents, hcheck]

/-- New events leave the row's own event in place. -/
theorem eventById_append (hevents : db'.events = db.events ++ added)
    (hev : db.eventById r.eventId = some ev) : db'.eventById r.eventId = some ev := by
  unfold EventDb.eventById at hev ⊢
  rw [hevents, List.find?_append, hev]
  rfl

/-- **New events** put a row into conflict only as day offs of its participants. -/
theorem inConflict_append (hsame : SameAbsences db db') (hevents : db'.events = db.events ++ added)
    (hev : db.eventById r.eventId = some ev)
    (hharmless : ∀ x ∈ added, ∀ memberId ∈ r.participants,
      db.makesAbsent x memberId ev.startDate ev.endDate = true → db.inConflict r = true) :
    db'.inConflict r = db.inConflict r := by
  rw [Bool.eq_iff_iff, inConflict_iff (eventById_append hevents hev), hsame.makesAbsent, hevents]
  refine ⟨fun h => ?_, fun h => ?_⟩
  · obtain ⟨memberId, hmember, d, hd, habsent⟩ := h
    rcases List.mem_append.mp hd with hold | hnew
    · exact (inConflict_iff hev).mpr ⟨memberId, hmember, d, hold, habsent⟩
    · exact hharmless d hnew memberId hmember habsent
  · obtain ⟨memberId, hmember, d, hd, habsent⟩ := (inConflict_iff hev).mp h
    exact ⟨memberId, hmember, d, List.mem_append_left _ hd, habsent⟩

/-- **Deleted events** take a row out of conflict only if no other day off keeps it there. -/
theorem inConflict_filter {gone : Event → Bool} (hsame : SameAbsences db db')
    (hevents : db'.events = db.events.filter fun e => !gone e)
    (hev : db.eventById r.eventId = some ev) (hev' : db'.eventById r.eventId = some ev)
    (hharmless : db.inConflict r = true → ∃ memberId ∈ r.participants, ∃ d ∈ db.events, gone d = false ∧
      db.makesAbsent d memberId ev.startDate ev.endDate = true) :
    db'.inConflict r = db.inConflict r := by
  rw [Bool.eq_iff_iff, inConflict_iff hev', hsame.makesAbsent, hevents]
  refine ⟨fun h => ?_, fun h => ?_⟩
  · obtain ⟨memberId, hmember, d, hd, habsent⟩ := h
    exact (inConflict_iff hev).mpr ⟨memberId, hmember, d, (List.mem_filter.mp hd).1, habsent⟩
  · obtain ⟨memberId, hmember, d, hd, hkept, habsent⟩ := hharmless h
    refine ⟨memberId, hmember, d, List.mem_filter.mpr ⟨hd, ?_⟩, habsent⟩
    rw [hkept]
    rfl

end Truth

/-! ## The refresh -/

section Refresh

theorem le_foldl_max {α : Type} {f : α → Int} (xs : List α) (bound : Int) :
    bound ≤ xs.foldl (fun bound x => max (f x) bound) bound ∧
      ∀ x ∈ xs, f x ≤ xs.foldl (fun bound x => max (f x) bound) bound := by
  induction xs generalizing bound with
  | nil => exact ⟨Int.le_refl _, fun x hx => absurd hx List.not_mem_nil⟩
  | cons x xs ih =>
    obtain ⟨hbound, hrest⟩ := ih (max (f x) bound)
    rw [List.foldl_cons]
    refine ⟨by omega, fun y hy => ?_⟩
    rcases List.mem_cons.mp hy with rfl | hy
    · omega
    · exact hrest y hy

theorem foldl_min_le {α : Type} {f : α → Int} (xs : List α) (bound : Int) :
    xs.foldl (fun bound x => min (f x) bound) bound ≤ bound ∧
      ∀ x ∈ xs, xs.foldl (fun bound x => min (f x) bound) bound ≤ f x := by
  induction xs generalizing bound with
  | nil => exact ⟨Int.le_refl _, fun x hx => absurd hx List.not_mem_nil⟩
  | cons x xs ih =>
    obtain ⟨hbound, hrest⟩ := ih (min (f x) bound)
    rw [List.foldl_cons]
    refine ⟨by omega, fun y hy => ?_⟩
    rcases List.mem_cons.mp hy with rfl | hy
    · omega
    · exact hrest y hy

variable {db : EventDb} {memberId : Nat} {startDate endDate : Instant} {ev : Event}

theorem mem_overlappingEvents : ev ∈ db.overlappingEvents startDate endDate ↔
    ev ∈ db.events ∧ db.isDayOff ev = false ∧ ev.startDate ≤ endDate ∧ startDate ≤ ev.endDate := by
  unfold EventDb.overlappingEvents
  rw [List.mem_filter]
  simp only [Bool.and_eq_true, Bool.not_eq_true', decide_eq_true_iff, and_assoc]

/-- The refresh reads the row's event. -/
def EventDb.Refreshes (db : EventDb) (memberId : Nat) (startDate endDate : Instant) (r : FlagRow) : Prop :=
  memberId ∈ r.participants ∧ ∃ ev ∈ db.overlappingEvents startDate endDate, ev.id = r.eventId

/-- **The refresh decides as the assignment does**: within its window it sees every day off that matters. -/
theorem isAbsentIn_eq {participants : List Nat} {participantId : Option Nat} {eventId : Nat}
    (hkeyed : Keyed (·.id) db.events) (hev : ev ∈ db.overlappingEvents startDate endDate)
    (hid : ev.id = eventId) (hparticipant : ∀ m ∈ participantId, m ∈ participants) :
    db.isAbsentIn (db.dayOffsWithin participants
        ((db.overlappingEvents startDate endDate).foldl (fun bound e => min e.startDate bound) startDate)
        ((db.overlappingEvents startDate endDate).foldl (fun bound e => max e.endDate bound) endDate))
      (db.overlappingEvents startDate endDate) participantId eventId =
      participantId.any fun m => checkDayOffConflict db m ev.startDate ev.endDate := by
  have hfind : (db.overlappingEvents startDate endDate).find? (·.id == eventId) = some ev :=
    (hkeyed.filter _).find?_eq_some.mpr ⟨hev, hid⟩
  unfold EventDb.isAbsentIn
  rw [hfind]
  cases participantId with
  | none => rfl
  | some m =>
    show List.any _ _ = checkDayOffConflict db m ev.startDate ev.endDate
    rw [Bool.eq_iff_iff, List.any_eq_true, checkDayOffConflict_iff]
    refine ⟨fun h => ?_, fun h => ?_⟩
    · obtain ⟨d, hd, hoverlap⟩ := h
      unfold EventDb.dayOffsWithin at hd
      simp only [List.mem_filter, Bool.and_eq_true, beq_iff_eq, decide_eq_true_iff] at hd hoverlap
      exact ⟨d, hd.1, makesAbsent_iff.mpr ⟨hoverlap.1.1, hd.2.1.1.1, hoverlap.1.2, hoverlap.2⟩⟩
    · obtain ⟨d, hd, habsent⟩ := h
      obtain ⟨hcreator, hdayOff, hstart, hend⟩ := makesAbsent_iff.mp habsent
      have hmax := (le_foldl_max (f := fun e : Event => e.endDate)
        (db.overlappingEvents startDate endDate) endDate).2 ev hev
      have hmin := (foldl_min_le (f := fun e : Event => e.startDate)
        (db.overlappingEvents startDate endDate) startDate).2 ev hev
      have hmember : participants.any (fun m => db.creatorMemberId d == some m) = true :=
        List.any_eq_true.mpr ⟨m, hparticipant m rfl, beq_iff_eq.mpr hcreator⟩
      unfold EventDb.dayOffsWithin
      simp only [List.mem_filter, Bool.and_eq_true, beq_iff_eq, decide_eq_true_iff]
      exact ⟨d, ⟨hd, ⟨⟨hdayOff, hmember⟩, Int.le_trans hstart hmax⟩, Int.le_trans hmin hend⟩,
        ⟨hcreator, hstart⟩, hend⟩

/-- A row of a keyed table has one of the selected ids exactly when it is selected. -/
theorem contains_selected {α : Type} {key : α → Nat} {rows : List α} (hkeyed : Keyed key rows)
    (q : α → Bool) {a : α} (ha : a ∈ rows) :
    ((rows.filter q).map key).contains (key a) = q a := by
  rw [Bool.eq_iff_iff, List.contains_iff_mem, List.mem_map]
  refine ⟨fun ⟨b, hb, hkey⟩ => ?_, fun hq => ⟨a, List.mem_filter.mpr ⟨ha, hq⟩, rfl⟩⟩
  obtain ⟨hb, hq⟩ := List.mem_filter.mp hb
  rwa [← hkeyed.eq_of_key hb ha hkey]

/-- The two statements write the flag of each selected part. -/
theorem writePartFlags_eventParts (hkeyed : Keyed (·.id) db.eventParts) (q conflict : EventPart → Bool) :
    (db.writePartFlags (db.eventParts.filter q) conflict).eventParts =
      db.eventParts.map fun p => if q p then { p with hasConflict := conflict p } else p := by
  unfold EventDb.writePartFlags
  simp only [EventDb.updateParts_eventParts, List.map_map, List.filter_filter]
  refine List.map_congr_left fun p hp => ?_
  have hin := contains_selected hkeyed (fun p => conflict p && q p) hp
  have hclear := contains_selected hkeyed (fun p => !conflict p && q p) hp
  have hid : ∀ c : Bool, (if c = true then { p with hasConflict := true } else p).id = p.id := by
    intro c
    split <;> rfl
  simp only [Function.comp, hid, hin, hclear]
  cases q p <;> cases hconflict : conflict p <;> rfl

theorem writeServiceFlags_eventServiceParts (hkeyed : Keyed (·.id) db.eventServiceParts)
    (q conflict : EventServicePart → Bool) :
    (db.writeServiceFlags (db.eventServiceParts.filter q) conflict).eventServiceParts =
      db.eventServiceParts.map fun s => if q s then { s with hasConflict := conflict s } else s := by
  unfold EventDb.writeServiceFlags
  simp only [EventDb.updateServiceParts_eventServiceParts, List.map_map, List.filter_filter]
  refine List.map_congr_left fun s hs => ?_
  have hin := contains_selected hkeyed (fun s => conflict s && q s) hs
  have hclear := contains_selected hkeyed (fun s => !conflict s && q s) hs
  have hid : ∀ c : Bool, (if c = true then { s with hasConflict := true } else s).id = s.id := by
    intro c
    split <;> rfl
  simp only [Function.comp, hid, hin, hclear]
  cases q s <;> cases hconflict : conflict s <;> rfl

/-- From `db` to `db'` only flags change: the refreshed rows get the truth, the others keep theirs. -/
structure Reflags (db db' : EventDb) (refreshed : FlagRow → Prop) : Prop where
  absences : SameAbsences db db'
  events : db'.events = db.events
  nextEventId : db'.nextEventId = db.nextEventId
  nextEventPartId : db'.nextEventPartId = db.nextEventPartId
  nextEventServicePartId : db'.nextEventServicePartId = db.nextEventServicePartId
  parts : ∃ flag : EventPart → Bool,
    db'.eventParts = db.eventParts.map (fun p => { p with hasConflict := flag p }) ∧
      ∀ p ∈ db.eventParts, (refreshed p.flagRow → flag p = db.inConflict p.flagRow) ∧
        (¬refreshed p.flagRow → flag p = p.hasConflict)
  services : ∃ flag : EventServicePart → Bool,
    db'.eventServiceParts = db.eventServiceParts.map (fun s => { s with hasConflict := flag s }) ∧
      ∀ s ∈ db.eventServiceParts, (refreshed s.flagRow → flag s = db.inConflict s.flagRow) ∧
        (¬refreshed s.flagRow → flag s = s.hasConflict)

theorem Option.any_toList {α : Type} (o : Option α) (f : α → Bool) : o.toList.any f = o.any f := by
  cases o with
  | none => rfl
  | some a => exact Bool.or_false (f a)

theorem inConflict_part {p : EventPart} (hev : db.eventById p.eventId = some ev) :
    db.inConflict p.flagRow =
      (p.assigneeId.any (fun m => checkDayOffConflict db m ev.startDate ev.endDate) ||
        p.assistantId.any fun m => checkDayOffConflict db m ev.startDate ev.endDate) := by
  unfold EventDb.inConflict EventPart.flagRow
  simp only [hev, Option.any_some, List.any_append, Option.any_toList]

theorem inConflict_service {s : EventServicePart} (hev : db.eventById s.eventId = some ev) :
    db.inConflict s.flagRow =
      s.assigneeId.any fun m => checkDayOffConflict db m ev.startDate ev.endDate := by
  unfold EventDb.inConflict EventServicePart.flagRow
  simp only [hev, Option.any_some, Option.any_toList]

theorem mem_participants_part {p : EventPart} : memberId ∈ p.flagRow.participants ↔
    p.assigneeId = some memberId ∨ p.assistantId = some memberId := by
  show memberId ∈ p.assigneeId.toList ++ p.assistantId.toList ↔ _
  rw [List.mem_append, Option.mem_toList, Option.mem_toList]

theorem mem_participants_service {s : EventServicePart} :
    memberId ∈ s.flagRow.participants ↔ s.assigneeId = some memberId := by
  show memberId ∈ s.assigneeId.toList ↔ _
  rw [Option.mem_toList]

theorem contains_eventIds {eventId : Nat} {events : List Event} :
    (events.map (·.id)).contains eventId = true ↔ ∃ ev ∈ events, ev.id = eventId := by
  rw [List.contains_iff_mem, List.mem_map]

/-- Writing the flag of the selected rows gives every row its flag. -/
theorem exists_flag {α : Type} {rows : List α} {q conflict stored truth : α → Bool}
    {setFlag : α → Bool → α} {refreshed : α → Prop} (hself : ∀ a, setFlag a (stored a) = a)
    (hq : ∀ a ∈ rows, q a = true ↔ refreshed a)
    (htruth : ∀ a ∈ rows, q a = true → conflict a = truth a) :
    ∃ flag : α → Bool, rows.map (fun a => if q a then setFlag a (conflict a) else a) =
        rows.map (fun a => setFlag a (flag a)) ∧
      ∀ a ∈ rows, (refreshed a → flag a = truth a) ∧ (¬refreshed a → flag a = stored a) := by
  refine ⟨fun a => if q a then conflict a else stored a, List.map_congr_left fun a _ => ?_,
    fun a ha => ⟨fun h => ?_, fun h => ?_⟩⟩
  · show _ = setFlag a (if q a then conflict a else stored a)
    cases q a with
    | true => rfl
    | false => exact (hself a).symm
  · simp only [(hq a ha).mpr h, if_true]
    exact htruth a ha ((hq a ha).mpr h)
  · exact if_neg fun hin => h ((hq a ha).mp hin)

/-- **What the refresh writes.** -/
theorem refreshConflictFlags_reflags (h : db.WellFormed) :
    Reflags db (refreshConflictFlags memberId startDate endDate db)
      (db.Refreshes memberId startDate endDate) := by
  have hevent : ∀ {ev : Event}, ev ∈ db.overlappingEvents startDate endDate →
      db.eventById ev.id = some ev := fun hev =>
    h.events.find?_eq_some.mpr ⟨(mem_overlappingEvents.mp hev).1, rfl⟩
  refine ⟨⟨rfl, rfl⟩, rfl, rfl, rfl, rfl, ?_, ?_⟩
  · unfold refreshConflictFlags
    show ∃ flag, EventDb.eventParts (EventDb.writePartFlags _ _ db) = _ ∧ _
    rw [writePartFlags_eventParts h.parts]
    refine exists_flag (fun _ => rfl) (fun p hp => ?_) fun p hp hin => ?_
    · rw [Bool.and_eq_true, contains_eventIds, Bool.or_eq_true, beq_iff_eq, beq_iff_eq]
      exact and_comm.trans (and_congr_left fun _ => mem_participants_part.symm)
    · obtain ⟨ev, hev, hid⟩ := contains_eventIds.mp ((Bool.and_eq_true _ _).mp hin).1
      have hrow := hevent hev
      rw [hid] at hrow
      have hpart : p ∈ db.eventParts.filter (fun p => ((db.overlappingEvents startDate endDate).map
          (·.id)).contains p.eventId && (p.assigneeId == some memberId || p.assistantId == some memberId)) :=
        List.mem_filter.mpr ⟨hp, hin⟩
      rw [inConflict_part hrow, isAbsentIn_eq h.events hev hid, isAbsentIn_eq h.events hev hid]
      · intro m hm
        refine List.mem_append_left _ (List.mem_flatMap.mpr ⟨p, hpart, List.mem_append_right _ ?_⟩)
        exact Option.mem_toList.mpr hm
      · intro m hm
        refine List.mem_append_left _ (List.mem_flatMap.mpr ⟨p, hpart, List.mem_append_left _ ?_⟩)
        exact Option.mem_toList.mpr hm
  · unfold refreshConflictFlags
    show ∃ flag, EventDb.eventServiceParts
      (EventDb.writeServiceFlags (List.filter _ db.eventServiceParts) _ db) = _ ∧ _
    rw [writeServiceFlags_eventServiceParts h.services]
    refine exists_flag (fun _ => rfl) (fun s hs => ?_) fun s hs hin => ?_
    · rw [Bool.and_eq_true, contains_eventIds, beq_iff_eq]
      exact and_comm.trans (and_congr_left fun _ => mem_participants_service.symm)
    · obtain ⟨ev, hev, hid⟩ := contains_eventIds.mp ((Bool.and_eq_true _ _).mp hin).1
      have hrow := hevent hev
      rw [hid] at hrow
      have hservice : s ∈ db.eventServiceParts.filter (fun s => ((db.overlappingEvents startDate
          endDate).map (·.id)).contains s.eventId && s.assigneeId == some memberId) :=
        List.mem_filter.mpr ⟨hs, hin⟩
      rw [inConflict_service hrow, isAbsentIn_eq h.events hev hid]
      intro m hm
      refine List.mem_append_right _ (List.mem_flatMap.mpr ⟨s, hservice, ?_⟩)
      exact Option.mem_toList.mpr hm

end Refresh

/-! ## Keys -/

section Keys

variable {db db' : EventDb} {refreshed : FlagRow → Prop}

theorem EventDb.WellFormed.updateEvents (h : db.WellFormed) (sel : Event → Bool) {data : Event → Event}
    (hid : ∀ e, (data e).id = e.id) : (db.updateEvents sel data).WellFormed := by
  have hkept : ∀ e, (if sel e then data e else e).id = e.id := fun e => column_ite (hid e)
  have hevent : ∀ {eventId}, (∃ e ∈ db.events, e.id = eventId) →
      ∃ e ∈ (db.updateEvents sel data).events, e.id = eventId := by
    intro eventId ⟨e, he, heq⟩
    exact ⟨_, List.mem_map_of_mem he, (hkept e).trans heq⟩
  exact {
    events := h.events.map hkept
    parts := h.parts
    services := h.services
    eventIds := fun e he => by
      obtain ⟨e₀, hold, rfl⟩ := List.mem_map.mp he
      rw [hkept]
      exact h.eventIds e₀ hold
    partIds := h.partIds
    serviceIds := h.serviceIds
    partEvents := fun p hp => hevent (h.partEvents p hp)
    serviceEvents := fun s hs => hevent (h.serviceEvents s hs) }

theorem EventDb.WellFormed.createEvent (h : db.WellFormed) {x : Event} (hid : x.id = db.nextEventId) :
    (db.createEvent fun _ => x).WellFormed where
  events := h.events.append_next h.eventIds hid
  parts := h.parts
  services := h.services
  eventIds := lt_append_next h.eventIds hid
  partIds := h.partIds
  serviceIds := h.serviceIds
  partEvents := fun p hp => by
    obtain ⟨e, he, heq⟩ := h.partEvents p hp
    exact ⟨e, List.mem_append_left _ he, heq⟩
  serviceEvents := fun s hs => by
    obtain ⟨e, he, heq⟩ := h.serviceEvents s hs
    exact ⟨e, List.mem_append_left _ he, heq⟩

/-- An event of a surviving row survives. -/
theorem survives {sel : Event → Bool} {eventId : Nat} (hevent : ∃ e ∈ db.events, e.id = eventId)
    (hkept : ¬((db.events.filter sel).map (·.id)).contains eventId = true) :
    ∃ e ∈ db.events.filter (fun e => !sel e), e.id = eventId := by
  obtain ⟨e, he, hid⟩ := hevent
  refine ⟨e, List.mem_filter.mpr ⟨he, ?_⟩, hid⟩
  cases hsel : sel e with
  | false => rfl
  | true =>
    refine absurd ?_ hkept
    rw [List.contains_iff_mem, List.mem_map]
    exact ⟨e, List.mem_filter.mpr ⟨he, hsel⟩, hid⟩

theorem EventDb.WellFormed.deleteEvents (h : db.WellFormed) (sel : Event → Bool) :
    (db.deleteEvents sel).WellFormed where
  events := h.events.filter _
  parts := h.parts.filter _
  services := h.services.filter _
  eventIds := fun e he => h.eventIds e (List.mem_filter.mp he).1
  partIds := fun p hp => h.partIds p (List.mem_filter.mp hp).1
  serviceIds := fun s hs => h.serviceIds s (List.mem_filter.mp hs).1
  partEvents := fun p hp => by
    obtain ⟨hp, hkept⟩ := List.mem_filter.mp hp
    exact survives (h.partEvents p hp) (by simpa using hkept)
  serviceEvents := fun s hs => by
    obtain ⟨hs, hkept⟩ := List.mem_filter.mp hs
    exact survives (h.serviceEvents s hs) (by simpa using hkept)

theorem EventDb.WellFormed.updateParts (h : db.WellFormed) (sel : EventPart → Bool) {data : EventPart → EventPart}
    (hid : ∀ p, (data p).id = p.id) (hevent : ∀ p, (data p).eventId = p.eventId) :
    (db.updateParts sel data).WellFormed := by
  have hkept : ∀ p, (if sel p then data p else p).id = p.id ∧
      (if sel p then data p else p).eventId = p.eventId := by
    intro p
    split
    · exact ⟨hid p, hevent p⟩
    · exact ⟨rfl, rfl⟩
  exact {
    events := h.events
    parts := h.parts.map fun p => (hkept p).1
    services := h.services
    eventIds := h.eventIds
    partIds := fun p hp => by
      obtain ⟨p₀, hold, rfl⟩ := List.mem_map.mp hp
      rw [(hkept p₀).1]
      exact h.partIds p₀ hold
    serviceIds := h.serviceIds
    partEvents := fun p hp => by
      obtain ⟨p₀, hold, rfl⟩ := List.mem_map.mp hp
      rw [(hkept p₀).2]
      exact h.partEvents p₀ hold
    serviceEvents := h.serviceEvents }

theorem EventDb.WellFormed.updateServiceParts (h : db.WellFormed) (sel : EventServicePart → Bool)
    {data : EventServicePart → EventServicePart} (hid : ∀ s, (data s).id = s.id)
    (hevent : ∀ s, (data s).eventId = s.eventId) : (db.updateServiceParts sel data).WellFormed := by
  have hkept : ∀ s, (if sel s then data s else s).id = s.id ∧
      (if sel s then data s else s).eventId = s.eventId := by
    intro s
    split
    · exact ⟨hid s, hevent s⟩
    · exact ⟨rfl, rfl⟩
  exact {
    events := h.events
    parts := h.parts
    services := h.services.map fun s => (hkept s).1
    eventIds := h.eventIds
    partIds := h.partIds
    serviceIds := fun s hs => by
      obtain ⟨s₀, hold, rfl⟩ := List.mem_map.mp hs
      rw [(hkept s₀).1]
      exact h.serviceIds s₀ hold
    partEvents := h.partEvents
    serviceEvents := fun s hs => by
      obtain ⟨s₀, hold, rfl⟩ := List.mem_map.mp hs
      rw [(hkept s₀).2]
      exact h.serviceEvents s₀ hold }

theorem EventDb.WellFormed.reflag (h : db.WellFormed) (hflags : Reflags db db' refreshed) : db'.WellFormed := by
  obtain ⟨partFlag, hparts, _⟩ := hflags.parts
  obtain ⟨serviceFlag, hservices, _⟩ := hflags.services
  refine ⟨?_, ?_, ?_, ?_, ?_, ?_, ?_, ?_⟩
  · rw [hflags.events]
    exact h.events
  · rw [hparts]
    exact h.parts.map fun _ => rfl
  · rw [hservices]
    exact h.services.map fun _ => rfl
  · rw [hflags.events, hflags.nextEventId]
    exact h.eventIds
  · rw [hparts, hflags.nextEventPartId]
    intro p hp
    obtain ⟨p₀, hold, rfl⟩ := List.mem_map.mp hp
    exact h.partIds p₀ hold
  · rw [hservices, hflags.nextEventServicePartId]
    intro s hs
    obtain ⟨s₀, hold, rfl⟩ := List.mem_map.mp hs
    exact h.serviceIds s₀ hold
  · rw [hparts, hflags.events]
    intro p hp
    obtain ⟨p₀, hold, rfl⟩ := List.mem_map.mp hp
    exact h.partEvents p₀ hold
  · rw [hservices, hflags.events]
    intro s hs
    obtain ⟨s₀, hold, rfl⟩ := List.mem_map.mp hs
    exact h.serviceEvents s₀ hold

end Keys

/-! ## What a change of the events means to a row -/

/-- `currentUser.member?.id`. -/
def EventDb.accountMember (db : EventDb) (accountId : Nat) : Option Nat :=
  (db.directory.accountById accountId).bind (·.memberId)

/-- The store with other events: what a row's conflict would be then. -/
def EventDb.withEvents (db : EventDb) (events : List Event) : EventDb := { db with events := events }

/-- A day off of the account at the dates would put no row into conflict, or one that is there already. -/
def EventDb.Harmless (db : EventDb) (accountId : Nat) (startDate endDate : Instant) (r : FlagRow) : Prop :=
  ∀ ev, db.eventById r.eventId = some ev → ∀ memberId ∈ r.participants,
    db.accountMember accountId = some memberId → startDate ≤ ev.endDate → ev.startDate ≤ endDate →
      db.inConflict r = true

/-- The row's event is itself a day off, which the refresh passes over. -/
def EventDb.OnDayOff (db : EventDb) (r : FlagRow) : Prop :=
  ∃ ev, db.eventById r.eventId = some ev ∧ db.isDayOff ev = true

/-! ## What each write leaves true -/

section Writes

variable {db db' : EventDb} {refreshed : FlagRow → Prop} {accountId memberId : Nat} {x : Event}
  {startDate endDate : Instant}

/-- A row tells the truth if it was written so, or said so before and means the same. -/
theorem truthful_of (ht : db.Truthful)
    (h : ∀ r ∈ db'.flagRows, r.hasConflict = db'.inConflict r ∨
      r ∈ db.flagRows ∧ db'.inConflict r = db.inConflict r) : db'.Truthful := by
  intro r hr
  rcases h r hr with hnew | ⟨hold, hsame⟩
  · exact hnew
  · rw [hsame]
    exact ht r hold

theorem inConflict_nobody {r : FlagRow} (h : r.participants = []) : db.inConflict r = false := by
  unfold EventDb.inConflict
  rw [h]
  cases db.eventById r.eventId <;> rfl

theorem truthful_updateParts (ht : db.Truthful) {id : Nat} {data : EventPart → EventPart}
    (hdata : ∀ p ∈ db.eventParts, p.id = id → (data p).hasConflict = db.inConflict (data p).flagRow) :
    (db.updateParts (fun p => p.id == id) data).Truthful := by
  refine truthful_of ht fun r hr => ?_
  have hsame : (db.updateParts (fun p => p.id == id) data).inConflict r = db.inConflict r :=
    inConflict_congr ⟨rfl, rfl⟩ rfl
  rcases mem_flagRows.mp hr with ⟨p, hp, rfl⟩ | ⟨s, hs, rfl⟩
  · obtain ⟨q, hq, rfl⟩ := List.mem_map.mp hp
    rw [hsame]
    by_cases hid : q.id = id
    · rw [if_pos (beq_iff_eq.mpr hid)]
      exact .inl (hdata q hq hid)
    · rw [if_neg (mt beq_iff_eq.mp hid)]
      exact .inr ⟨mem_flagRows.mpr (.inl ⟨q, hq, rfl⟩), rfl⟩
  · exact .inr ⟨mem_flagRows.mpr (.inr ⟨s, hs, rfl⟩), hsame⟩

theorem truthful_updateServiceParts (ht : db.Truthful) {id : Nat}
    {data : EventServicePart → EventServicePart}
    (hdata : ∀ s ∈ db.eventServiceParts, s.id = id →
      (data s).hasConflict = db.inConflict (data s).flagRow) :
    (db.updateServiceParts (fun s => s.id == id) data).Truthful := by
  refine truthful_of ht fun r hr => ?_
  have hsame : (db.updateServiceParts (fun s => s.id == id) data).inConflict r = db.inConflict r :=
    inConflict_congr ⟨rfl, rfl⟩ rfl
  rcases mem_flagRows.mp hr with ⟨p, hp, rfl⟩ | ⟨s, hs, rfl⟩
  · exact .inr ⟨mem_flagRows.mpr (.inl ⟨p, hp, rfl⟩), hsame⟩
  · obtain ⟨q, hq, rfl⟩ := List.mem_map.mp hs
    rw [hsame]
    by_cases hid : q.id = id
    · rw [if_pos (beq_iff_eq.mpr hid)]
      exact .inl (hdata q hq hid)
    · rw [if_neg (mt beq_iff_eq.mp hid)]
      exact .inr ⟨mem_flagRows.mpr (.inr ⟨q, hq, rfl⟩), rfl⟩

/-- The row and the event an assignment reads are the ones it writes. -/
theorem partWithEvent_some (h : db.WellFormed) {id : Nat} {part : EventPart} {event : Event}
    (hrow : db.partWithEvent id = some (part, event)) :
    ∀ p ∈ db.eventParts, p.id = id → db.eventById p.eventId = some event := by
  intro p hp hid
  unfold EventDb.partWithEvent at hrow
  obtain ⟨q, hq, hevent⟩ := Option.bind_eq_some_iff.mp hrow
  obtain ⟨e, he, heq⟩ := Option.map_eq_some_iff.mp hevent
  obtain ⟨rfl, rfl⟩ := Prod.mk.inj heq
  obtain ⟨hqin, hqid⟩ := h.parts.find?_eq_some.mp hq
  rw [h.parts.eq_of_key hp hqin (hid.trans hqid.symm)]
  exact he

theorem servicePartWithEvent_some (h : db.WellFormed) {id : Nat} {service : EventServicePart}
    {event : Event} (hrow : db.servicePartWithEvent id = some (service, event)) :
    ∀ s ∈ db.eventServiceParts, s.id = id → db.eventById s.eventId = some event := by
  intro s hs hid
  unfold EventDb.servicePartWithEvent at hrow
  obtain ⟨q, hq, hevent⟩ := Option.bind_eq_some_iff.mp hrow
  obtain ⟨e, he, heq⟩ := Option.map_eq_some_iff.mp hevent
  obtain ⟨rfl, rfl⟩ := Prod.mk.inj heq
  obtain ⟨hqin, hqid⟩ := h.services.find?_eq_some.mp hq
  rw [h.services.eq_of_key hs hqin (hid.trans hqid.symm)]
  exact he

/-- After the refresh of a store, every row tells the truth if those it passes over did. -/
theorem truthful_reflag (hflags : Reflags db db' refreshed)
    (hkept : ∀ r ∈ db.flagRows, ¬refreshed r → r.hasConflict = db.inConflict r) : db'.Truthful := by
  obtain ⟨partFlag, hparts, hpartFlag⟩ := hflags.parts
  obtain ⟨serviceFlag, hservices, hserviceFlag⟩ := hflags.services
  intro r hr
  rw [inConflict_congr hflags.absences hflags.events]
  rcases mem_flagRows.mp hr with ⟨p, hp, rfl⟩ | ⟨s, hs, rfl⟩
  · rw [hparts] at hp
    obtain ⟨q, hq, rfl⟩ := List.mem_map.mp hp
    show partFlag q = db.inConflict q.flagRow
    by_cases hin : refreshed q.flagRow
    · exact (hpartFlag q hq).1 hin
    · rw [(hpartFlag q hq).2 hin]
      exact hkept q.flagRow (mem_flagRows.mpr (.inl ⟨q, hq, rfl⟩)) hin
  · rw [hservices] at hs
    obtain ⟨q, hq, rfl⟩ := List.mem_map.mp hs
    show serviceFlag q = db.inConflict q.flagRow
    by_cases hin : refreshed q.flagRow
    · exact (hserviceFlag q hq).1 hin
    · rw [(hserviceFlag q hq).2 hin]
      exact hkept q.flagRow (mem_flagRows.mpr (.inr ⟨q, hq, rfl⟩)) hin

/-- The refresh after a new day off. -/
theorem truthful_createDayOff (h : db.WellFormed) (ht : db.Truthful) (hid : x.id = db.nextEventId)
    (hdates : x.startDate = startDate ∧ x.endDate = endDate)
    (hcreator : db.accountMember x.createdById = some memberId)
    (hharmless : ∀ r ∈ db.flagRows, db.OnDayOff r →
      db.Harmless x.createdById startDate endDate r) :
    (refreshConflictFlags memberId startDate endDate (db.createEvent fun _ => x)).Truthful := by
  refine truthful_reflag (refreshConflictFlags_reflags (h.createEvent hid)) fun r hr hkept => ?_
  obtain ⟨ev, hev⟩ := h.event (show r ∈ db.flagRows from hr)
  have hevents : (db.createEvent fun _ => x).events = db.events ++ [x] := rfl
  have hafter := eventById_append hevents hev
  suffices hsame : (db.createEvent fun _ => x).inConflict r = db.inConflict r by
    rw [hsame]
    exact ht r hr
  refine inConflict_append ⟨rfl, rfl⟩ hevents hev ?_
  intro y hy m hm habsent
  rw [List.mem_singleton.mp hy] at habsent
  obtain ⟨hm', _, hstart, hend⟩ := makesAbsent_iff.mp habsent
  rw [hdates.1] at hstart
  rw [hdates.2] at hend
  have hmember : m = memberId := Option.some.inj (hm'.symm.trans hcreator)
  by_cases hdayOff : db.isDayOff ev = true
  · exact hharmless r hr ⟨ev, hev, hdayOff⟩ ev hev m hm hm' hstart hend
  · -- the refresh reads this row
    refine absurd ⟨hmember ▸ hm, ev, mem_overlappingEvents.mpr ⟨?_, ?_, hend, hstart⟩, ?_⟩ hkept
    · exact List.mem_of_find?_eq_some hafter
    · exact Bool.eq_false_iff.mpr hdayOff
    · exact beq_iff_eq.mp (List.find?_some (p := fun e : Event => e.id == r.eventId) hev)

theorem mem_flagRows_deleteEvents {sel : Event → Bool} {r : FlagRow}
    (hr : r ∈ (db.deleteEvents sel).flagRows) :
    r ∈ db.flagRows ∧ ¬((db.events.filter sel).map (·.id)).contains r.eventId = true := by
  rcases mem_flagRows.mp hr with ⟨p, hp, rfl⟩ | ⟨s, hs, rfl⟩
  · obtain ⟨hp, hkept⟩ := List.mem_filter.mp hp
    refine ⟨mem_flagRows.mpr (.inl ⟨p, hp, rfl⟩), fun hgone => ?_⟩
    exact Bool.false_ne_true (((Bool.not_eq_true' _).mp hkept).symm.trans hgone)
  · obtain ⟨hs, hkept⟩ := List.mem_filter.mp hs
    refine ⟨mem_flagRows.mpr (.inr ⟨s, hs, rfl⟩), fun hgone => ?_⟩
    exact Bool.false_ne_true (((Bool.not_eq_true' _).mp hkept).symm.trans hgone)

/-- The row survives a deletion of events by id exactly with its event. -/
theorem survives_iff (h : db.WellFormed) {gone : Nat → Bool} {r : FlagRow}
    (hr : r ∈ (db.deleteEvents fun e => gone e.id).flagRows) : r ∈ db.flagRows ∧ gone r.eventId = false := by
  obtain ⟨hin, hkept⟩ := mem_flagRows_deleteEvents hr
  refine ⟨hin, ?_⟩
  obtain ⟨ev, hev⟩ := h.event hin
  obtain ⟨hmem, hid⟩ := h.events.find?_eq_some.mp hev
  rw [List.contains_iff_mem, List.mem_map] at hkept
  cases hgone : gone r.eventId with
  | false => rfl
  | true =>
    refine absurd ⟨ev, List.mem_filter.mpr ⟨hmem, ?_⟩, hid⟩ hkept
    rw [hid, hgone]

theorem truthful_deleteEvents (h : db.WellFormed) (ht : db.Truthful) {gone : Nat → Bool}
    (hkept : ∀ r ∈ db.flagRows, gone r.eventId = false →
      (db.withEvents (db.events.filter fun e => !gone e.id)).inConflict r = db.inConflict r) :
    (db.deleteEvents fun e => gone e.id).Truthful := by
  refine truthful_of ht fun r hr => ?_
  obtain ⟨hin, hsurvives⟩ := survives_iff h hr
  refine .inr ⟨hin, ?_⟩
  rw [← hkept r hin hsurvives]
  exact inConflict_congr ⟨rfl, rfl⟩ rfl

/-- Deleting an event that made none of the row's participants absent leaves the row. -/
theorem inConflict_deleteEvent (h : db.WellFormed) {r : FlagRow} {ev : Event} (hx : x ∈ db.events)
    (hev : db.eventById r.eventId = some ev) (hother : r.eventId ≠ x.id)
    (hnot : ∀ m ∈ r.participants, db.makesAbsent x m ev.startDate ev.endDate = false) :
    (db.deleteEvents fun e => e.id == x.id).inConflict r = db.inConflict r := by
  have hev' : (db.deleteEvents fun e => e.id == x.id).eventById r.eventId = some ev := by
    refine (find?_filter_of_imp fun e _ he => ?_).trans hev
    show (!(e.id == x.id)) = true
    rw [beq_iff_eq.mp he, beq_false_of_ne hother]
    rfl
  refine inConflict_filter ⟨rfl, rfl⟩ rfl hev hev' fun hconflict => ?_
  obtain ⟨m, hm, d, hd, habsent⟩ := (inConflict_iff hev).mp hconflict
  refine ⟨m, hm, d, hd, ?_, habsent⟩
  by_cases hid : d.id = x.id
  · rw [h.events.eq_of_key hd hx hid, hnot m hm] at habsent
    exact absurd habsent Bool.false_ne_true
  · exact beq_false_of_ne hid

/-- The refresh after a deleted day off. -/
theorem truthful_deleteDayOff (h : db.WellFormed) (ht : db.Truthful) (hx : x ∈ db.events)
    (hcreator : db.accountMember x.createdById = some memberId)
    (hkept : ∀ r ∈ db.flagRows, r.eventId ≠ x.id → db.OnDayOff r →
      (db.withEvents (db.events.filter fun e => !(e.id == x.id))).inConflict r = db.inConflict r) :
    (refreshConflictFlags memberId x.startDate x.endDate
      (db.deleteEvents fun e => e.id == x.id)).Truthful := by
  refine truthful_reflag (refreshConflictFlags_reflags (h.deleteEvents _)) fun r hr hpassed => ?_
  obtain ⟨hin, hother⟩ := @survives_iff db h (fun id => id == x.id) r hr
  have hother := ne_of_beq_false hother
  obtain ⟨ev, hev⟩ := h.event hin
  suffices hsame : (db.deleteEvents fun e => e.id == x.id).inConflict r = db.inConflict r by
    rw [hsame]
    exact ht r hin
  by_cases hdayOff : db.isDayOff ev = true
  · rw [← hkept r hin hother ⟨ev, hev, hdayOff⟩]
    exact inConflict_congr ⟨rfl, rfl⟩ rfl
  · refine inConflict_deleteEvent h hx hev hother fun m hm => ?_
    cases habsent : db.makesAbsent x m ev.startDate ev.endDate with
    | false => rfl
    | true =>
      -- the refresh reads this row
      obtain ⟨hm', _, hstart, hend⟩ := makesAbsent_iff.mp habsent
      obtain ⟨hmem, hid⟩ := h.events.find?_eq_some.mp hev
      have hmember : m = memberId := Option.some.inj (hm'.symm.trans hcreator)
      refine absurd ⟨hmember ▸ hm, ev, mem_overlappingEvents.mpr ⟨?_, ?_, hend, hstart⟩, hid⟩ hpassed
      · refine List.mem_filter.mpr ⟨hmem, ?_⟩
        show (!(ev.id == x.id)) = true
        rw [hid, beq_false_of_ne hother]
        rfl
      · exact Bool.eq_false_iff.mpr hdayOff

/-- An account without a member makes nobody absent. -/
theorem makesAbsent_nobody (hcreator : db.accountMember x.createdById = none) (m : Nat)
    (startDate endDate : Instant) : db.makesAbsent x m startDate endDate = false := by
  unfold EventDb.makesAbsent
  have hnone : db.creatorMemberId x = none := hcreator
  rw [hnone]
  rfl

theorem truthful_updateEvents (ht : db.Truthful) {sel : Event → Bool} {data : Event → Event}
    (hkept : ∀ r ∈ db.flagRows,
      (db.withEvents (db.events.map fun e => if sel e then data e else e)).inConflict r =
        db.inConflict r) : (db.updateEvents sel data).Truthful := by
  refine truthful_of ht fun r hr => .inr ⟨hr, ?_⟩
  rw [← hkept r hr]
  exact inConflict_congr ⟨rfl, rfl⟩ rfl

/-- The status of an event is no matter of its flags. -/
theorem inConflict_status {id : Nat} {status : EventStatus} (r : FlagRow) :
    (db.updateEvents (fun e => e.id == id) fun e => { e with status := status }).inConflict r =
      db.inConflict r := by
  have hany : ∀ m startDate endDate, checkDayOffConflict
      (db.updateEvents (fun e => e.id == id) fun e => { e with status := status }) m startDate endDate =
        checkDayOffConflict db m startDate endDate := by
    intro m startDate endDate
    show List.any (List.map _ db.events) _ = List.any db.events _
    rw [List.any_map]
    congr 1
    funext e
    show EventDb.makesAbsent _ (if e.id == id then _ else e) m startDate endDate = _
    split <;> rfl
  have hfind : (db.updateEvents (fun e => e.id == id) fun e => { e with status := status }).eventById
      r.eventId = (db.eventById r.eventId).map fun e =>
        if e.id == id then { e with status := status } else e := by
    show List.find? _ (List.map _ db.events) = _
    rw [List.find?_map]
    congr 2
    funext e
    show ((if e.id == id then _ else e).id == r.eventId) = (e.id == r.eventId)
    split <;> rfl
  unfold EventDb.inConflict
  rw [hfind]
  cases db.eventById r.eventId with
  | none => rfl
  | some e =>
    simp only [Option.map_some, Option.any_some, hany]
    split <;> rfl

end Writes

end Unitae.Events
