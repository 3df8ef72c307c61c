import Unitae.Territories.RoundTrip

/-!
# Unitae — auto-reassignment into a campaign

`_reassignIntoCampaign` goes through `assign` and skips whatever conflict it raises, on the ground
that the pair "already holds an attribution in this campaign". `assign` raises two more: the
territory is occupied, by the campaign attribution of a co-holder reassigned just before or by
another campaign's, and the campaign is not the active one. Those pairs are dropped as silently.

The loop is followed by `Progress`, which says what it has created so far; from it comes the exact
condition under which every pair paused ends up with one open attribution in the campaign.
-/

namespace Unitae.Territories

/-- How many open attributions the row's publisher holds of its territory within the campaign. -/
def TerritoryDb.heldInCampaign (db : TerritoryDb) (campaignId : Nat) (row : Attribution) : Nat :=
  (db.attributions.filter fun a =>
    a.lane == (row.publisherId, row.territoryId, some campaignId) && a.endDate.isNone).length

/-- An open, unpaused row of some campaign on the territory. -/
def TerritoryDb.occupiedByCampaign (db : TerritoryDb) (territoryId : Nat) : Bool :=
  db.attributions.any fun a => a.territoryId == territoryId && a.endDate.isNone &&
    a.pausedAt.isNone && a.campaignId.isSome

/-- What lets `assign` through when it comes to the row's pair first on its territory. -/
structure Admissible (tz : LocalTime) (db : TerritoryDb) (campaign : Campaign) (now : Instant)
    (row : Attribution) : Prop where
  /-- With the stamp, the active campaign that `assign` sees is this one. -/
  mode : (db.stampActivated campaign.id now).getActiveCampaign.map (·.id) = some campaign.id
  free : db.occupiedByCampaign row.territoryId = false
  /-- No row of the pair in the campaign reaches today. -/
  clear : ∃ today, parseLocalDate tz (localDateString tz now) = some today ∧
    ∀ a ∈ db.attributions, a.lane = (row.publisherId, row.territoryId, some campaign.id) →
      ¬a.span.Reaches today

/-! ## Why an assignment is refused -/

section Refusals

variable {tz : LocalTime} {db db' : TerritoryDb} {params : CreateAttributionParams}

theorem assign_error {e : Failure} (h : (assign tz params).exec db = (.error e, db')) :
    db' = db ∧ assignChecks tz db params = .error e := by
  unfold assign at h
  rw [Tx.exec_bind_get, Tx.exec_bind, Tx.exec_check] at h
  cases hchecks : assignChecks tz db params with
  | error e' =>
    rw [hchecks] at h
    simp only [Prod.mk.injEq, Except.error.injEq] at h
    exact ⟨h.2.symm, by rw [h.1]⟩
  | ok row =>
    rw [hchecks] at h
    simp at h

/-- One turn of the loop: an attribution created, or a conflict skipped. -/
theorem ignoring_assign_ok (h : (Tx.ignoring isConflict (assign tz params)).exec db = (.ok (), db')) :
    (∃ territory startDate, Assignable tz db params territory startDate ∧
        db' = db.createAttribution (newAttribution tz db params territory startDate)) ∨
      db' = db ∧ ∃ e, isConflict e = true ∧ assignChecks tz db params = .error e := by
  rw [Tx.exec_ignoring] at h
  rcases hexec : (assign tz params).exec db with ⟨r, s⟩
  rw [hexec] at h
  cases r with
  | ok u =>
    obtain rfl : s = db' := congrArg Prod.snd h
    exact .inl (assign_ok.mp hexec)
  | error e =>
    right
    have hskip : (if isConflict e then ((.ok (), s) : Except Failure Unit × TerritoryDb)
        else (.error e, s)) = (.ok (), db') := h
    by_cases hconflict : isConflict e = true
    · rw [if_pos hconflict] at hskip
      obtain rfl : s = db' := congrArg Prod.snd hskip
      obtain ⟨hsame, hchecks⟩ := assign_error hexec
      exact ⟨hsame, e, hconflict, hchecks⟩
    · rw [if_neg hconflict] at hskip
      simp at hskip

/-- A conflict has one of three grounds: the mode, an occupied territory, a row of the lane that
reaches the start. -/
theorem assignChecks_conflict {today : Instant} {e : Failure}
    (hmode : campaignModeGuard db.getActiveCampaign params.campaignId = .ok ())
    (hfree : db.occupied params.territoryId = false)
    (htoday : parseLocalDate tz params.startDate = some today)
    (hapart : assertNoActiveOverlap db params.lane ⟨today, none⟩ none = .ok ())
    (hchecks : assignChecks tz db params = .error e) : isConflict e = false := by
  have hnotOccupied : Tx.checkWhen (ε := Failure) params.campaignId.isSome
      (Tx.refuseWhen (db.occupied params.territoryId) (.app (.conflict "territory_occupied"))) =
      .ok () := by
    rw [Tx.checkWhen_ok, Tx.refuseWhen_ok]
    exact fun _ => by simp [hfree]
  have hstart : assignStart tz db params = .ok today := by
    unfold assignStart
    rw [htoday]
  unfold assignChecks at hchecks
  rw [hmode, hnotOccupied, hstart] at hchecks
  unfold TerritoryDb.territoryOrThrow at hchecks
  cases hterritory : db.territoryById params.territoryId with
  | none =>
    rw [hterritory] at hchecks
    obtain rfl : _ = e := Except.error.inj hchecks
    rfl
  | some territory =>
    rw [hterritory] at hchecks
    have hrest : (assertNoActiveOverlap db params.lane ⟨today, none⟩ none >>= fun _ =>
        Tx.refuseWhen (¬params.publisherId ∈ db.members) (.database .foreignKey) >>= fun _ =>
          pure (newAttribution tz db params territory today)) = .error e := hchecks
    rw [hapart] at hrest
    by_cases hmember : params.publisherId ∈ db.members
    · simp [Tx.refuseWhen, hmember, bind, Except.bind, pure, Except.pure] at hrest
    · simp only [Tx.refuseWhen, hmember, not_false_eq_true, if_true, bind, Except.bind] at hrest
      obtain rfl : _ = e := Except.error.inj hrest
      rfl

end Refusals

/-! ## The store at the start of the loop -/

section Paused

variable {tz : LocalTime} {db : TerritoryDb} {campaign : Campaign} {now : Instant}

/-- The store with the stamp set and the regular rows in scope paused. -/
def TerritoryDb.pausedFor (db : TerritoryDb) (campaign : Campaign) (now : Instant) : TerritoryDb :=
  (db.stampActivated campaign.id now).updateAttributions (campaign.transition now).openRegulars
    (·.suspended campaign.id now)

/-- Pausing touches regular rows, so the rows of a campaign's layer are the same before and after. -/
theorem mem_pausedFor {a : Attribution} (hlayer : a.campaignId ≠ none) :
    a ∈ (db.pausedFor campaign now).attributions ↔ a ∈ db.attributions := by
  constructor
  · intro h
    rcases mem_updateAttributions_cases h with ⟨hold, _⟩ | ⟨a₀, _, hsel, rfl⟩
    · exact hold
    · exact absurd (openRegulars_iff.mp hsel).2.1 hlayer
  · intro h
    have hsel : (campaign.transition now).openRegulars a = false := by
      simp [CampaignTransition.openRegulars, hlayer]
    exact mem_updateAttributions.mpr ⟨a, h, by simp [hsel]⟩

theorem heldInCampaign_pausedFor (row : Attribution) :
    (db.pausedFor campaign now).heldInCampaign campaign.id row =
      db.heldInCampaign campaign.id row := by
  unfold TerritoryDb.heldInCampaign TerritoryDb.pausedFor TerritoryDb.updateAttributions
  rw [List.filter_map, List.length_map]
  congr 1
  refine List.filter_congr fun a _ => ?_
  simp only [Function.comp]
  split
  · next hsel =>
    have hregular := (openRegulars_iff.mp hsel).2.1
    simp [Attribution.lane, Attribution.suspended, hregular]
  · rfl

/-- On a territory in scope, only campaign rows can still occupy it. -/
theorem occupied_pausedFor {territoryId : Nat}
    (hcovers : (campaign.transition now).covers territoryId = true) :
    (db.pausedFor campaign now).occupied territoryId = db.occupiedByCampaign territoryId := by
  unfold TerritoryDb.occupied TerritoryDb.occupiedByCampaign TerritoryDb.pausedFor
    TerritoryDb.updateAttributions
  rw [List.any_map]
  congr 1
  funext a
  simp only [Function.comp]
  split
  · next hsel =>
    have hregular := (openRegulars_iff.mp hsel).2.1
    simp [Attribution.suspended, hregular]
  · next hsel =>
    -- an open, unpaused regular row on the territory would have been paused
    cases hlayer : a.campaignId with
    | some c => simp
    | none =>
      have hnot : ¬(a.territoryId = territoryId ∧ a.endDate = none ∧ a.pausedAt = none) := by
        rintro ⟨rfl, hopen, hunpaused⟩
        exact hsel (openRegulars_iff.mpr ⟨hopen, hlayer, hunpaused, hcovers⟩)
      simpa [Option.isSome_iff_ne_none] using hnot

end Paused

/-! ## The loop -/

section Loop

variable {tz : LocalTime} {db s s' : TerritoryDb} {campaign : Campaign} {now : Instant}
  {done : List Attribution} {row : Attribution}

/-- The rows created for the paused rows `done`: open rows of the campaign, one to a territory at
most, each for a pair that could be admitted; and no territory of such a pair is left out. -/
structure Created (tz : LocalTime) (db : TerritoryDb) (campaign : Campaign) (now : Instant)
    (done created : List Attribution) : Prop where
  shape : ∀ x ∈ created, x.endDate = none ∧ x.pausedAt = none ∧ x.campaignId = some campaign.id
  origin : ∀ x ∈ created, ∃ row ∈ done, x.publisherId = row.publisherId ∧
    x.territoryId = row.territoryId ∧ Admissible tz db campaign now row
  once : Keyed Attribution.territoryId created
  complete : ∀ row ∈ done, Admissible tz db campaign now row →
    ∃ x ∈ created, x.territoryId = row.territoryId

/-- The loop has come so far: the store is the one it started from, and the rows created. -/
structure Progress (tz : LocalTime) (db : TerritoryDb) (campaign : Campaign) (now : Instant)
    (done : List Attribution) (s : TerritoryDb) : Prop where
  campaigns : s.campaigns = (db.pausedFor campaign now).campaigns
  rows : ∃ created, s.attributions = (db.pausedFor campaign now).attributions ++ created ∧
    Created tz db campaign now done created

theorem campaignModeGuard_some {active : Option Campaign} {campaignId : Nat} :
    campaignModeGuard active (some campaignId) = .ok () ↔ active.map (·.id) = some campaignId := by
  unfold campaignModeGuard
  rw [Tx.refuseWhen_ok]
  exact not_not

theorem Progress.mode (h : Progress tz db campaign now done s) :
    s.getActiveCampaign = (db.stampActivated campaign.id now).getActiveCampaign := by
  unfold TerritoryDb.getActiveCampaign
  rw [h.campaigns]
  rfl

theorem occupied_append {created : List Attribution} {territoryId : Nat} {base : TerritoryDb}
    (hrows : s.attributions = base.attributions ++ created)
    (hopen : ∀ x ∈ created, x.endDate = none ∧ x.pausedAt = none) :
    s.occupied territoryId = false ↔
      base.occupied territoryId = false ∧ ∀ x ∈ created, x.territoryId ≠ territoryId := by
  unfold TerritoryDb.occupied
  rw [hrows, List.any_append, Bool.or_eq_false_iff]
  refine and_congr_right fun _ => ?_
  rw [List.any_eq_false]
  constructor
  · intro h x hx heq
    exact h x hx (by simp [heq, (hopen x hx).1, (hopen x hx).2])
  · intro h x hx
    simp [h x hx]

/-- One turn that creates a row. -/
theorem Progress.assigned (h : Progress tz db campaign now done s)
    (hcovers : (campaign.transition now).covers row.territoryId = true)
    {territory : Territory} {startDate : Instant}
    (hassignable : Assignable tz s (reassignment tz campaign now row) territory startDate) :
    Progress tz db campaign now (done ++ [row]) (s.createAttribution
      (newAttribution tz s (reassignment tz campaign now row) territory startDate)) := by
  obtain ⟨created, hrows, hcreated⟩ := h.rows
  have hmode := campaignModeGuard_some.mp hassignable.mode
  rw [h.mode] at hmode
  have hfree := hassignable.free rfl
  rw [occupied_append hrows fun x hx => ⟨(hcreated.shape x hx).1, (hcreated.shape x hx).2.1⟩]
    at hfree
  obtain ⟨hfree, hnew⟩ := hfree
  have hclear : ∀ a ∈ db.attributions,
      a.lane = (row.publisherId, row.territoryId, some campaign.id) → ¬a.span.Reaches startDate := by
    intro a ha hlane hreaches
    have hlayer : a.campaignId ≠ none := by
      rw [show a.campaignId = some campaign.id from congrArg (·.2.2) hlane]
      simp
    have hmem : a ∈ s.attributions := by
      rw [hrows]
      exact List.mem_append_left _ ((mem_pausedFor hlayer).mpr ha)
    refine assertNoActiveOverlap_ok.mp hassignable.apart a hmem hlane (fun _ hid => ?_) ?_
    · simp at hid
    · exact (Span.overlaps_of_open rfl).mpr hreaches
  have hadmissible : Admissible tz db campaign now row :=
    ⟨hmode, (occupied_pausedFor hcovers).symm.trans hfree, startDate, hassignable.start, hclear⟩
  refine ⟨h.campaigns, created ++ [newAttribution tz s (reassignment tz campaign now row) territory
    startDate s.nextAttributionId], ?_, ?_, ?_, ?_, ?_⟩
  · rw [← List.append_assoc, ← hrows]
    rfl
  · intro x hx
    rcases List.mem_append.mp hx with hold | hlast
    · exact hcreated.shape x hold
    · rw [List.mem_singleton.mp hlast]
      exact ⟨rfl, rfl, rfl⟩
  · intro x hx
    rcases List.mem_append.mp hx with hold | hlast
    · obtain ⟨origin, horigin, hpair⟩ := hcreated.origin x hold
      exact ⟨origin, List.mem_append_left _ horigin, hpair⟩
    · rw [List.mem_singleton.mp hlast]
      exact ⟨row, List.mem_append_right _ List.mem_cons_self, rfl, rfl, hadmissible⟩
  · exact hcreated.once.append_one hnew
  · intro r hr hadm
    rcases List.mem_append.mp hr with hold | hlast
    · obtain ⟨x, hx, hterritory⟩ := hcreated.complete r hold hadm
      exact ⟨x, List.mem_append_left _ hx, hterritory⟩
    · rw [List.mem_singleton.mp hlast]
      exact ⟨_, List.mem_append_right _ List.mem_cons_self, rfl⟩

/-- One turn skipped: if the pair could be admitted, its territory has been given already. -/
theorem Progress.skipped (h : Progress tz db campaign now done s)
    (hcovers : (campaign.transition now).covers row.territoryId = true) {e : Failure}
    (hconflict : isConflict e = true)
    (hchecks : assignChecks tz s (reassignment tz campaign now row) = .error e) :
    Progress tz db campaign now (done ++ [row]) s := by
  obtain ⟨created, hrows, hcreated⟩ := h.rows
  refine ⟨h.campaigns, created, hrows, hcreated.shape, ?_, hcreated.once, ?_⟩
  · intro x hx
    obtain ⟨origin, horigin, hpair⟩ := hcreated.origin x hx
    exact ⟨origin, List.mem_append_left _ horigin, hpair⟩
  · intro r hr hadm
    rcases List.mem_append.mp hr with hold | hlast
    · exact hcreated.complete r hold hadm
    · rw [List.mem_singleton.mp hlast] at hadm ⊢
      by_contra hnone
      have hnew : ∀ x ∈ created, x.territoryId ≠ row.territoryId :=
        fun x hx heq => hnone ⟨x, hx, heq⟩
      obtain ⟨today, htoday, hclear⟩ := hadm.clear
      have hmode : campaignModeGuard s.getActiveCampaign (some campaign.id) = .ok () := by
        rw [campaignModeGuard_some, h.mode]
        exact hadm.mode
      have hfree : s.occupied row.territoryId = false := by
        rw [occupied_append hrows fun x hx =>
          ⟨(hcreated.shape x hx).1, (hcreated.shape x hx).2.1⟩, occupied_pausedFor hcovers]
        exact ⟨hadm.free, hnew⟩
      have hapart : assertNoActiveOverlap s (reassignment tz campaign now row).lane ⟨today, none⟩
          none = .ok () := by
        refine assertNoActiveOverlap_ok.mpr fun a ha hlane _ hover => ?_
        rw [hrows] at ha
        rcases List.mem_append.mp ha with hbase | hadded
        · have hlayer : a.campaignId ≠ none := by
            rw [show a.campaignId = some campaign.id from congrArg (·.2.2) hlane]
            simp
          exact hclear a ((mem_pausedFor hlayer).mp hbase) hlane
            ((Span.overlaps_of_open rfl).mp hover)
        · exact hnew a hadded (congrArg (·.2.1) hlane)
      have hnotConflict := @assignChecks_conflict tz s (reassignment tz campaign now row) today e
        hmode hfree htoday hapart hchecks
      rw [hnotConflict] at hconflict
      exact Bool.noConfusion hconflict

/-- The whole loop. -/
theorem progress_of_loop {rows : List Attribution}
    (hrows : ∀ row ∈ rows, (campaign.transition now).covers row.territoryId = true)
    (h : (reassignIntoCampaign tz campaign now rows).exec (db.pausedFor campaign now) =
      (.ok (), s)) : Progress tz db campaign now rows s := by
  refine Tx.forM_invariant (I := Progress tz db campaign now) h ?_ ?_
  · exact ⟨rfl, [], (List.append_nil _).symm, by simp, by simp, Keyed.nil, by simp⟩
  · intro done row rest hsplit s s' hprogress hturn
    have hmem : row ∈ rows := by
      rw [hsplit]
      exact List.mem_append_right _ List.mem_cons_self
    rcases ignoring_assign_ok hturn with ⟨territory, startDate, hassignable, rfl⟩ |
      ⟨rfl, e, hconflict, hchecks⟩
    · exact hprogress.assigned (hrows row hmem) hassignable
    · exact hprogress.skipped (hrows row hmem) hconflict hchecks

end Loop

/-! ## Completeness -/

section Complete

variable {tz : LocalTime} {db db' : TerritoryDb} {campaign : Campaign} {now : Instant}

/-- The other publishers whose paused row is on the same territory hold it in the campaign. -/
def OthersHold (db : TerritoryDb) (campaign : Campaign) (now : Instant) (row : Attribution) :
    Prop :=
  ∀ other ∈ db.attributions, (campaign.transition now).openRegulars other = true →
    other.territoryId = row.territoryId → other.publisherId ≠ row.publisherId →
      db.heldInCampaign campaign.id other = 1

instance (db : TerritoryDb) (campaign : Campaign) (now : Instant) (row : Attribution) :
    Decidable (OthersHold db campaign now row) :=
  inferInstanceAs (Decidable (∀ _ ∈ _, _ → _ → _ → _ = _))

/-- A pair that can be admitted holds nothing open in the campaign. -/
theorem Admissible.held {row : Attribution} (h : Admissible tz db campaign now row) :
    db.heldInCampaign campaign.id row = 0 := by
  obtain ⟨today, _, hclear⟩ := h.clear
  unfold TerritoryDb.heldInCampaign
  rw [List.length_eq_zero_iff, List.filter_eq_nil_iff]
  intro a ha hsel
  simp only [Bool.and_eq_true, beq_iff_eq, Option.isNone_iff_eq_none] at hsel
  refine hclear a ha hsel.1 fun e he => ?_
  have hend : a.endDate = some e := he
  rw [hsel.2] at hend
  exact absurd hend (by simp)

theorem Admissible.congr {row other : Attribution} (h : Admissible tz db campaign now row)
    (hpublisher : row.publisherId = other.publisherId)
    (hterritory : row.territoryId = other.territoryId) :
    Admissible tz db campaign now other :=
  ⟨h.mode, hterritory ▸ h.free, hpublisher ▸ hterritory ▸ h.clear⟩

theorem heldInCampaign_congr {row other : Attribution} {campaignId : Nat}
    (hpublisher : row.publisherId = other.publisherId)
    (hterritory : row.territoryId = other.territoryId) :
    db.heldInCampaign campaignId row = db.heldInCampaign campaignId other := by
  unfold TerritoryDb.heldInCampaign
  rw [hpublisher, hterritory]

/-- The rows created for the pair of `row`. -/
def createdFor (created : List Attribution) (row : Attribution) : List Attribution :=
  created.filter fun x => x.publisherId = row.publisherId ∧ x.territoryId = row.territoryId

theorem mem_createdFor {created : List Attribution} {row x : Attribution} :
    x ∈ createdFor created row ↔
      x ∈ created ∧ x.publisherId = row.publisherId ∧ x.territoryId = row.territoryId := by
  rw [createdFor, List.mem_filter, decide_eq_true_eq]

/-- The count after the loop: what the pair held before, and what was created for it. -/
theorem heldInCampaign_after {base : TerritoryDb} {created rows : List Attribution}
    (hrows : db'.attributions = base.attributions ++ created)
    (hcreated : Created tz db campaign now rows created) (row : Attribution) :
    db'.heldInCampaign campaign.id row =
      base.heldInCampaign campaign.id row + (createdFor created row).length := by
  unfold TerritoryDb.heldInCampaign createdFor
  rw [hrows, List.filter_append, List.length_append]
  congr 2
  refine List.filter_congr fun x hx => ?_
  obtain ⟨hopen, _, hlayer⟩ := hcreated.shape x hx
  rw [Bool.eq_iff_iff]
  simp [Attribution.lane, hopen, hlayer]

namespace Created

variable {created rows : List Attribution} {row x : Attribution}

/-- At most one row is created for a pair. -/
theorem le_one (h : Created tz db campaign now rows created) (row : Attribution) :
    (createdFor created row).length ≤ 1 := by
  have hsub : (createdFor created row).length ≤
      (created.filter fun x => x.territoryId = row.territoryId).length := by
    refine List.Sublist.length_le (List.monotone_filter_right _ fun x hx => ?_)
    simp only [decide_eq_true_eq] at hx ⊢
    exact hx.2
  exact hsub.trans (h.once.length_filter_key_le row.territoryId)

/-- A pair that got a row could be admitted. -/
theorem admissible (h : Created tz db campaign now rows created) (hx : x ∈ createdFor created row) :
    Admissible tz db campaign now row := by
  obtain ⟨hx, hpublisher, hterritory⟩ := mem_createdFor.mp hx
  obtain ⟨origin, _, horiginPublisher, horiginTerritory, hadmissible⟩ := h.origin x hx
  exact hadmissible.congr (horiginPublisher.symm.trans hpublisher)
    (horiginTerritory.symm.trans hterritory)

/-- A territory given to one pair is given to no other. -/
theorem alone (h : Created tz db campaign now rows created) (hx : x ∈ createdFor created row)
    {other : Attribution} (hsame : other.territoryId = row.territoryId)
    (hne : other.publisherId ≠ row.publisherId) : createdFor created other = [] := by
  obtain ⟨hx, hpublisher, hterritory⟩ := mem_createdFor.mp hx
  refine List.eq_nil_iff_forall_not_mem.mpr fun y hy => ?_
  obtain ⟨hy, hyPublisher, hyTerritory⟩ := mem_createdFor.mp hy
  have heq : y = x := h.once.eq_of_key hy hx (by rw [hyTerritory, hsame, hterritory])
  exact hne (by rw [← hyPublisher, heq, hpublisher])

/-- A pair that holds the territory gets no second row. -/
theorem none_of_held (h : Created tz db campaign now rows created)
    (hheld : db.heldInCampaign campaign.id row = 1) : createdFor created row = [] := by
  refine List.eq_nil_iff_forall_not_mem.mpr fun x hx => ?_
  have hzero := (h.admissible hx).held
  omega

/-- A pair that can be admitted gets its row when any other on the territory holds one already. -/
theorem one_of_admissible
    (h : Created tz db campaign now (db.attributions.filter (campaign.transition now).openRegulars)
      created)
    (hrow : row ∈ db.attributions.filter (campaign.transition now).openRegulars)
    (hadmissible : Admissible tz db campaign now row) (hothers : OthersHold db campaign now row) :
    (createdFor created row).length = 1 := by
  obtain ⟨x, hx, hterritory⟩ := h.complete row hrow hadmissible
  obtain ⟨origin, horigin, hpublisher, horiginTerritory, horiginAdm⟩ := h.origin x hx
  obtain ⟨horigin, hsel⟩ := List.mem_filter.mp horigin
  have hsame : origin.publisherId = row.publisherId := by
    by_contra hne
    have hheld := hothers origin horigin hsel (horiginTerritory.symm.trans hterritory) hne
    have hzero := horiginAdm.held
    omega
  have hpos : 0 < (createdFor created row).length :=
    List.length_pos_of_mem (mem_createdFor.mpr ⟨hx, hpublisher.trans hsame, hterritory⟩)
  have hle := h.le_one row
  omega

end Created

/-- **Auto-reassignment is complete** exactly when each pair paused either holds the territory in
the campaign already, once, or can be admitted and is the only one on its territory that does not
hold it. -/
theorem reassignment_complete_iff (hscheduled : campaign.activatedAt = none)
    (hpause : campaign.startRegularAction = .pause)
    (hreassign : campaign.startAutoReassign = true)
    (hexec : (activateCampaign tz campaign now).exec db = (.ok (), db')) :
    (∀ row ∈ db.attributions, (campaign.transition now).openRegulars row = true →
        db'.heldInCampaign campaign.id row = 1) ↔
      ∀ row ∈ db.attributions, (campaign.transition now).openRegulars row = true →
        db.heldInCampaign campaign.id row = 1 ∨
          Admissible tz db campaign now row ∧ OthersHold db campaign now row := by
  obtain ⟨_, _, hstart⟩ := (activateCampaign_ok.mp hexec).resolve_left (by simp [hscheduled])
  rw [startTransition_exec] at hstart
  have hlist : campaign.reassigned (campaign.transition now) (db.stampActivated campaign.id now) =
      db.attributions.filter (campaign.transition now).openRegulars := by
    unfold Campaign.reassigned
    rw [if_pos ⟨hpause, hreassign⟩]
    rfl
  have hbase : (db.stampActivated campaign.id now).started campaign (campaign.transition now) =
      db.pausedFor campaign now := by
    unfold TerritoryDb.started
    rw [hpause]
    rfl
  rw [hlist, hbase] at hstart
  have hprogress := progress_of_loop
    (fun row hrow => (openRegulars_iff.mp (List.mem_filter.mp hrow).2).2.2.2) hstart
  obtain ⟨created, hrows, hcreated⟩ := hprogress.rows
  have hcount : ∀ row, db'.heldInCampaign campaign.id row =
      db.heldInCampaign campaign.id row + (createdFor created row).length := by
    intro row
    rw [heldInCampaign_after hrows hcreated row, heldInCampaign_pausedFor]
  constructor
  · intro hcomplete row hrow hsel
    have hone := hcomplete row hrow hsel
    rw [hcount] at hone
    cases hmade : createdFor created row with
    | nil =>
      rw [hmade, List.length_nil] at hone
      exact .inl hone
    | cons x rest =>
      -- a row was created for the pair, so it could be admitted and the others got none
      have hx : x ∈ createdFor created row := hmade ▸ List.mem_cons_self
      refine .inr ⟨hcreated.admissible hx, fun other hother hotherSel hsame hne => ?_⟩
      have hotherOne := hcomplete other hother hotherSel
      rw [hcount, hcreated.alone hx hsame hne, List.length_nil] at hotherOne
      exact hotherOne
  · intro hcond row hrow hsel
    rw [hcount]
    rcases hcond row hrow hsel with hheld | ⟨hadmissible, hothers⟩
    · rw [hcreated.none_of_held hheld, hheld, List.length_nil]
    · have hmem : row ∈ db.attributions.filter (campaign.transition now).openRegulars :=
        List.mem_filter.mpr ⟨hrow, hsel⟩
      rw [hadmissible.held, hcreated.one_of_admissible hmem hadmissible hothers]

end Complete

/-- Two publishers hold the territory, and a campaign that reassigns is planned. -/
def coHeld : TerritoryDb :=
  [Request.assign ⟨7, 1, "2025-03-01", "", .default, none⟩,
    .assign ⟨8, 1, "2025-03-01", "", .default, none⟩,
    .createCampaign { campaignOver "2025-03-05" "2025-03-09" .pause with startAutoReassign := true }
      []].foldl (step .utc) { oneTerritory with members := [7, 8] }

/-- The campaign as it is stored there. -/
def reassigningCampaign : Campaign := { plannedCampaign with startAutoReassign := true }

/-- The second of the two co-holders is left without an attribution in the campaign. -/
theorem reassignment_incomplete :
    coHeld.getCampaign 1 = some reassigningCampaign ∧
      ((activateCampaign .utc reassigningCampaign (march 5)).exec coHeld).1 = .ok () ∧
      ∃ row ∈ coHeld.attributions,
        (reassigningCampaign.transition (march 5)).openRegulars row = true ∧
          ((activateCampaign .utc reassigningCampaign (march 5)).exec coHeld).2.heldInCampaign 1
            row = 0 := by
  decide +kernel

/-- The co-holder has brought the territory back. -/
def singleHeld : TerritoryDb := step .utc coHeld (.markReturned 2 (march 3))

def singleReassigned : TerritoryDb :=
  ((activateCampaign .utc reassigningCampaign (march 5)).exec singleHeld).2

theorem singleHeld_activates : (activateCampaign .utc reassigningCampaign (march 5)).exec singleHeld =
    (.ok (), singleReassigned) := by
  have hok : ((activateCampaign .utc reassigningCampaign (march 5)).exec singleHeld).1 = .ok () := by
    decide +kernel
  refine Prod.ext hok ?_
  rw [singleReassigned]

/-- With one holder the reassignment is complete. -/
theorem reassignment_complete_iff_single :
    (∀ row ∈ singleHeld.attributions,
        (reassigningCampaign.transition (march 5)).openRegulars row = true →
        singleReassigned.heldInCampaign reassigningCampaign.id row = 1) ↔
      ∀ row ∈ singleHeld.attributions,
        (reassigningCampaign.transition (march 5)).openRegulars row = true →
        singleHeld.heldInCampaign reassigningCampaign.id row = 1 ∨
          Admissible .utc singleHeld reassigningCampaign (march 5) row ∧
            OthersHold singleHeld reassigningCampaign (march 5) row :=
  reassignment_complete_iff rfl rfl rfl singleHeld_activates

end Unitae.Territories
