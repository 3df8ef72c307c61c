import Unitae.Territories.Chronology

/-!
# Unitae — the pause columns stay in step

`pausedAt` and `pausedByCampaignId` are set and cleared together, only regular rows are paused, and
a paused row is open. `pause` and `resume` look after the three columns, and so do the bulk
transitions that pause, resume or close what a campaign paused; but the plain returns, an edit with
an end date and the `Close` start write `endDate` alone, over paused rows too, and `pause` does not
ask for the layer.

`pauses_of_run` is the rule over every run in which those writes meet no paused row.
-/

namespace Unitae.Territories

/-- What the pause columns of a row say together. -/
structure Attribution.PauseKept (a : Attribution) : Prop where
  together : a.pausedAt.isSome ↔ a.pausedByCampaignId.isSome
  regular : a.pausedAt.isSome → a.campaignId = none
  unreturned : a.endDate.isSome → a.pausedAt = none

instance (a : Attribution) : Decidable a.PauseKept :=
  decidable_of_iff ((a.pausedAt.isSome ↔ a.pausedByCampaignId.isSome) ∧
      (a.pausedAt.isSome → a.campaignId = none) ∧ (a.endDate.isSome → a.pausedAt = none))
    ⟨fun ⟨h₁, h₂, h₃⟩ => ⟨h₁, h₂, h₃⟩, fun ⟨h₁, h₂, h₃⟩ => ⟨h₁, h₂, h₃⟩⟩

def PausesKept (db : TerritoryDb) : Prop := ∀ a ∈ db.attributions, a.PauseKept

instance (db : TerritoryDb) : Decidable (PausesKept db) :=
  inferInstanceAs (Decidable (∀ _ ∈ _, _))

/-- The rows selected are not paused. -/
def NonePaused (db : TerritoryDb) (sel : Attribution → Bool) : Prop :=
  ∀ a ∈ db.attributions, sel a = true → a.pausedAt = none

instance (db : TerritoryDb) (sel : Attribution → Bool) : Decidable (NonePaused db sel) :=
  inferInstanceAs (Decidable (∀ _ ∈ _, _ → _))

/-! ## Rows -/

namespace Attribution.PauseKept

variable {a : Attribution}

/-- A row that is not paused may be returned. -/
theorem returned (h : a.PauseKept) (hunpaused : a.pausedAt = none) (endDate : Instant) :
    (a.returned endDate).PauseKept :=
  ⟨h.together, h.regular, fun _ => hunpaused⟩

/-- An open regular row may be paused. -/
theorem suspended (hopen : a.endDate = none) (hregular : a.campaignId = none) (campaignId : Nat)
    (now : Instant) : (a.suspended campaignId now).PauseKept := by
  refine ⟨Iff.rfl, fun _ => hregular, fun hreturned => ?_⟩
  have hsome : a.endDate.isSome := hreturned
  simp [hopen] at hsome

/-- Any row whose pause columns are cleared together keeps the rule. -/
theorem of_cleared (hat : a.pausedAt = none) (hby : a.pausedByCampaignId = none) : a.PauseKept :=
  ⟨by simp [hat, hby], fun h => by simp [hat] at h, fun _ => hat⟩

theorem unpaused_of_campaign (h : a.PauseKept) (hlayer : a.campaignId ≠ none) :
    a.pausedAt = none := by
  cases hpaused : a.pausedAt with
  | none => rfl
  | some t => exact absurd (h.regular (by simp [hpaused])) hlayer

end Attribution.PauseKept

/-! ## Writes -/

section Writes

variable {tz : LocalTime} {db db' : TerritoryDb} {sel : Attribution → Bool}
  {data : Attribution → Attribution} {campaign : Campaign} {t : CampaignTransition}

theorem PausesKept.update (h : PausesKept db)
    (hdata : ∀ a ∈ db.attributions, sel a = true → a.PauseKept → (data a).PauseKept) :
    PausesKept (db.updateAttributions sel data) := by
  intro a' ha'
  rcases mem_updateAttributions_cases ha' with ⟨hold, _⟩ | ⟨a, ha, hsel, rfl⟩
  · exact h a' hold
  · exact hdata a ha hsel (h a ha)

theorem PausesKept.create (h : PausesKept db) {row : Nat → Attribution}
    (hat : (row db.nextAttributionId).pausedAt = none)
    (hby : (row db.nextAttributionId).pausedByCampaignId = none) :
    PausesKept (db.createAttribution row) := by
  intro a ha
  rcases List.mem_append.mp ha with hold | hnew
  · exact h a hold
  · rw [List.mem_singleton.mp hnew]
    exact .of_cleared hat hby

/-- A start transition that closes has to meet no paused row. -/
theorem PausesKept.startTransition (h : PausesKept db)
    (hclose : campaign.startRegularAction = .close → NonePaused db t.allOpenRegulars)
    (hexec : (startTransition tz campaign t).exec db = (.ok (), db')) : PausesKept db' := by
  rw [startTransition_exec] at hexec
  have hstarted : PausesKept (db.started campaign t) := by
    unfold TerritoryDb.started
    split
    · refine h.update fun a _ hsel _ => ?_
      simp only [CampaignTransition.openRegulars, Bool.and_eq_true, Option.isNone_iff_eq_none]
        at hsel
      exact .suspended hsel.1.1.1 hsel.1.1.2 _ _
    · next haction =>
      exact h.update fun a ha hsel hkept => hkept.returned (hclose haction a ha hsel) _
    · exact h
  have hkeeps : Tx.Keeps PausesKept
      (reassignIntoCampaign tz campaign t.now (campaign.reassigned t db)) :=
    reassign_keeps fun _ _ _ _ _ h _ => h.create rfl rfl
  exact hkeeps.of_ok hexec hstarted

/-- The end transition looks after the columns itself: the campaign's own rows are in its layer, so
they are not paused, and what it paused is cleared as it is closed. -/
theorem PausesKept.released (h : PausesKept db) : PausesKept (db.released campaign t) := by
  have howned : PausesKept (db.ownClosed campaign t) := by
    unfold TerritoryDb.ownClosed
    split
    · refine h.update fun a _ hsel hkept => hkept.returned (hkept.unpaused_of_campaign ?_) _
      simp only [CampaignTransition.ownOpen, Bool.and_eq_true, beq_iff_eq] at hsel
      simp [hsel.1.1]
    · exact h
  unfold TerritoryDb.released TerritoryDb.pausedReleased
  split
  · exact howned.update fun _ _ _ _ => .of_cleared rfl rfl
  · exact howned
  · exact howned.update fun _ _ _ _ => .of_cleared rfl rfl

theorem PausesKept.congr (h : PausesKept db) (hrows : db'.attributions = db.attributions) :
    PausesKept db' := by
  unfold PausesKept
  rw [hrows]
  exact h

end Writes

/-! ## Runs -/

/-- The request writes an end date over no paused row, and pauses no campaign row. -/
def Request.SparesPaused (db : TerritoryDb) : Request → Prop
  | .update id params => updateChecks db id params = .ok () → params.endDate.isSome →
      ∀ a ∈ db.attributionById id, a.pausedAt = none
  | .markReturned id _ => ∀ a ∈ db.attributionById id, a.pausedAt = none
  | .markReturnedForPublisher publisherId _ =>
      NonePaused db fun a => a.publisherId == publisherId && a.endDate.isNone
  | .pause id campaignId _ => pauseChecks db id campaignId = .ok () →
      ∀ a ∈ db.attributionById id, a.campaignId = none
  | .activateCampaign id now => ∀ c ∈ db.getCampaign id, c.activatedAt = none →
      c.startRegularAction = .close → NonePaused db (c.transition now).allOpenRegulars
  | .applyScopeChange id ids now => ∀ c ∈ db.getCampaign id, c.active = true →
      c.startRegularAction = .close → NonePaused db
        (⟨c.id, some (db.addedBy c ids), now⟩ : CampaignTransition).allOpenRegulars
  | _ => True

instance (db : TerritoryDb) (request : Request) : Decidable (request.SparesPaused db) :=
  match request with
  | .update .. | .markReturned .. | .markReturnedForPublisher .. | .pause .. | .activateCampaign ..
  | .applyScopeChange .. => by unfold Request.SparesPaused; infer_instance
  | .assign .. | .resume .. | .createCampaign .. | .updateCampaign .. | .deleteCampaign ..
  | .endCampaign .. | .editCampaign .. | .sweep .. => .isTrue trivial

section Runs

variable {tz : LocalTime} {db db' start s : TerritoryDb}

theorem PausesKept.request (hdb : db.Valid) (h : PausesKept db) {request : Request}
    (hservice : request.IsService) (hspares : request.SparesPaused db)
    (hexec : (request.run tz).exec db = (.ok (), db')) : PausesKept db' := by
  have hrow : ∀ {id : Nat} {a : Attribution}, a ∈ db.attributions → (a.id == id) = true →
      db.attributionById id = some a :=
    fun ha hid => (attributionById_eq_some hdb).mpr ⟨ha, by simpa using hid⟩
  cases request with
  | assign params =>
    obtain ⟨_, _, _, rfl⟩ := assign_ok.mp hexec
    exact h.create rfl rfl
  | update id params =>
    obtain ⟨hchecks, rfl⟩ := update_ok.mp hexec
    refine h.update fun a ha hid hkept => ⟨hkept.together, hkept.regular, fun hreturned => ?_⟩
    cases hend : params.endDate with
    | none =>
      refine hkept.unreturned ?_
      simpa [UpdateAttributionParams.data, UpdateAttributionParams.nextEnd, hend] using hreturned
    | some endDate => exact hspares hchecks (by simp [hend]) a (hrow ha hid)
  | markReturned id endDate =>
    obtain ⟨_, rfl⟩ := updateAttributionRow_ok.mp hexec
    exact h.update fun a ha hid hkept => hkept.returned (hspares a (hrow ha hid)) _
  | markReturnedForPublisher publisherId endDate =>
    obtain rfl : _ = db' := congrArg Prod.snd hexec
    exact h.update fun a ha hsel hkept => hkept.returned (hspares a ha hsel) _
  | pause id campaignId now =>
    obtain ⟨hchecks, rfl⟩ := pause_ok.mp hexec
    refine h.update fun a ha hid _ => ?_
    obtain ⟨existing, hfound, hopen, _⟩ := pauseChecks_ok.mp hchecks
    rw [hrow ha hid, Option.some.injEq] at hfound
    rw [← hfound] at hopen
    exact .suspended hopen (hspares hchecks a (hrow ha hid)) _ _
  | resume id now =>
    obtain ⟨_, rfl⟩ := resume_ok.mp hexec
    exact h.update fun _ _ _ _ => .of_cleared rfl rfl
  | createCampaign params ids =>
    obtain ⟨_, _, _, rfl⟩ := runCreateCampaign_ok hexec
    exact h.congr rfl
  | updateCampaign id params =>
    obtain ⟨_, _, _, _, _, rfl⟩ := updateCampaign_ok.mp hexec
    exact h.congr rfl
  | deleteCampaign id =>
    obtain ⟨_, rfl⟩ := deleteCampaign_ok.mp hexec
    exact h.congr rfl
  | activateCampaign id now =>
    rcases withCampaign_ok.mp hexec with ⟨_, rfl⟩ | ⟨c, hfound, hbody⟩
    · exact h
    · rcases activateCampaign_ok.mp hbody with ⟨_, rfl⟩ | ⟨hscheduled, _, hstart⟩
      · exact h
      · have hstamped : PausesKept (db.stampActivated c.id now) := h.congr rfl
        exact hstamped.startTransition (hspares c hfound hscheduled) hstart
  | endCampaign id now =>
    rcases withCampaign_ok.mp hexec with ⟨_, rfl⟩ | ⟨c, hfound, hbody⟩
    · exact h
    · rcases endCampaign_ok.mp hbody with ⟨_, rfl⟩ | ⟨_, _, rfl⟩
      · exact h
      · have hstamped : PausesKept (db.stampEnded c.id now) := h.congr rfl
        exact hstamped.released
  | applyScopeChange id ids now =>
    rcases withCampaign_ok.mp hexec with ⟨_, rfl⟩ | ⟨c, hfound, hbody⟩
    · exact h
    · rcases applyScopeChange_ok.mp hbody with ⟨_, hscope⟩ | ⟨hactive, db₁, hadded, hscope⟩
      · obtain ⟨_, _, rfl⟩ := replaceScope_ok.mp hscope
        exact h.congr rfl
      · obtain ⟨_, _, rfl⟩ := replaceScope_ok.mp hscope
        have h₁ : PausesKept db₁ := by
          rcases startAdded_ok.mp hadded with ⟨_, rfl⟩ | ⟨_, hstart⟩
          · exact h
          · exact h.startTransition (hspares c hfound hactive) hstart
        have h₂ : PausesKept (if db.removedBy c ids = [] then db₁
            else db₁.released c ⟨c.id, some (db.removedBy c ids), now⟩) := by
          split
          · exact h₁
          · exact h₁.released
        exact h₂.congr rfl
  | editCampaign => exact hservice.elim
  | sweep => exact hservice.elim

/-- **The pause columns stay in step**, in every run that writes no end date over a paused row and
pauses no campaign row. -/
theorem pauses_of_run (hstart : start.Valid) (h₀ : PausesKept start)
    (hrun : Reach (step tz) (fun db request => request.IsService ∧ request.SparesPaused db)
      start s) :
    ∀ a ∈ s.attributions, (a.pausedAt.isSome ↔ a.pausedByCampaignId.isSome) ∧
      (a.pausedAt.isSome → a.campaignId = none) ∧ (a.endDate.isSome → a.pausedAt = none) := by
  have hinv : s.Valid ∧ PausesKept s := by
    refine hrun.invariant (I := fun s => s.Valid ∧ PausesKept s) ⟨hstart, h₀⟩ ?_
    intro db request hkept hcond
    refine ⟨step_valid tz request hkept.1, ?_⟩
    rcases step_cases tz db request with hexec | hsame
    · exact hkept.2.request hkept.1 hcond.1 hcond.2 hexec
    · rw [hsame]
      exact hkept.2
  exact fun a ha => ⟨(hinv.2 a ha).together, (hinv.2 a ha).regular, (hinv.2 a ha).unreturned⟩

end Runs

/-- A campaign of the whole congregation over a span of days, as the form creates it. -/
def campaignOver (firstDay lastDay : String) (startAction : CampaignRegularStartAction) :
    CampaignParams :=
  ⟨"Campagne", "", firstDay, lastDay, none, startAction, false, true, .resume⟩

/-- The territory is taken, and a campaign pauses the regular work. -/
def pausedWork : List Request :=
  [takeOn "2025-03-01", .createCampaign (campaignOver "2025-03-05" "2025-03-09" .pause) [],
    .activateCampaign 1 (march 5)]

/-- What happens to the paused row after that. -/
def afterPaused (requests : List Request) : TerritoryDb :=
  (pausedWork ++ requests).foldl (step .utc) oneTerritory

/-- The paused row returned by hand, by the publisher's leaving, by an edit, by the start of a
second campaign that closes; and a row of the campaign paused as if it were regular work. -/
def brokenPauses : List (List Request) :=
  [[.markReturned 1 (march 6)], [.markReturnedForPublisher 7 (march 6)],
    [.update 1 ⟨7, "", .default, march 1, none, some (march 6)⟩],
    [.createCampaign (campaignOver "2025-03-12" "2025-03-15" .close) [],
      .activateCampaign 2 (march 12)],
    [.assign ⟨7, 1, "2025-03-05", "", .default, some 1⟩, .pause 2 1 (march 6)]]

theorem pauses_broken :
    (∀ requests ∈ brokenPauses,
      Reach (step .utc) (fun _ request => request.IsService) oneTerritory (afterPaused requests)) ∧
        ∀ requests ∈ brokenPauses, ¬PausesKept (afterPaused requests) := by
  have hruns : ∀ requests ∈ brokenPauses,
      Guarded (step .utc) (fun _ request => request.IsService) oneTerritory
        (pausedWork ++ requests) := by
    decide +kernel
  exact ⟨fun requests hmem => .foldl (hruns requests hmem), by decide +kernel⟩

/-- The campaign runs its course. -/
theorem pauses_of_run_campaign :
    Guarded (step .utc) (fun db request => request.IsService ∧ request.SparesPaused db) oneTerritory
        (pausedWork ++ [.endCampaign 1 (march 10)]) ∧
      ∀ a ∈ (afterPaused [.endCampaign 1 (march 10)]).attributions,
        (a.pausedAt.isSome ↔ a.pausedByCampaignId.isSome) ∧
          (a.pausedAt.isSome → a.campaignId = none) ∧ (a.endDate.isSome → a.pausedAt = none) :=
  have hrun : Guarded (step .utc) (fun db request => request.IsService ∧ request.SparesPaused db)
      oneTerritory (pausedWork ++ [.endCampaign 1 (march 10)]) := by decide +kernel
  ⟨hrun, pauses_of_run oneTerritory_kept.1 (by decide) (.foldl hrun)⟩

end Unitae.Territories
