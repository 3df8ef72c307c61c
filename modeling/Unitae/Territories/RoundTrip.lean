import Unitae.Territories.CampaignWindows

/-!
# Unitae — ending a campaign undoes what it started

A campaign that pauses and resumes selects rows twice: at its start by scope, layer and state, at
its end by `pausedByCampaignId` and `campaignId` over the whole congregation. The two selections meet
as long as no row refers to the campaign beforehand. Then the sweep: run again at the same instant
it finds nothing due.
-/

namespace Unitae.Territories

/-- What activating at `t` and ending at `t'` amount to: the rows the start pauses have their
`lateDate` moved by the time between, and every other row is as it was. -/
def UndoneExactly (db final : TerritoryDb) (campaign : Campaign) (t t' : Instant) : Prop :=
  final.attributions = db.attributions.map fun a =>
    if (campaign.transition t).openRegulars a then { a with lateDate := a.lateDate + (t' - t) }
    else a

instance (db final : TerritoryDb) (campaign : Campaign) (t t' : Instant) :
    Decidable (UndoneExactly db final campaign t t') := inferInstanceAs (Decidable (_ = _))

/-- The state after an activation at `t` and an end at `t'`. -/
def thereAndBack (tz : LocalTime) (db : TerritoryDb) (id : Nat) (t t' : Instant) : TerritoryDb :=
  step tz (step tz db (.activateCampaign id t)) (.endCampaign id t')

/-! ## Pausing and resuming -/

section PauseResume

variable {tz : LocalTime} {db : TerritoryDb} {campaign : Campaign} {t t' : Instant}

theorem step_of_ok {db' : TerritoryDb} {request : Request}
    (h : (request.run tz).exec db = (.ok (), db')) : step tz db request = db' :=
  Tx.settle_ok h

/-- The start pauses, and assigns nothing again. -/
theorem activate_pauses (hfound : db.getCampaign campaign.id = some campaign)
    (hscheduled : campaign.activatedAt = none) (hpause : campaign.startRegularAction = .pause)
    (hreassign : campaign.startAutoReassign = false) :
    step tz db (.activateCampaign campaign.id t) =
      (db.stampActivated campaign.id t).updateAttributions (campaign.transition t).openRegulars
        (·.suspended campaign.id t) := by
  refine step_of_ok (withCampaign_ok.mpr (.inr ⟨campaign, hfound, ?_⟩))
  refine activateCampaign_ok.mpr (.inr ⟨hscheduled, ⟨campaign, hfound⟩, ?_⟩)
  have hnothing : campaign.reassigned (campaign.transition t)
      (db.stampActivated campaign.id t) = [] := by
    simp [Campaign.reassigned, hreassign]
  rw [startTransition_exec, hnothing]
  unfold TerritoryDb.started
  rw [hpause]
  rfl

/-- The record an end reads after the stamp. -/
theorem getCampaign_stampActivated (hfound : db.getCampaign campaign.id = some campaign) :
    (db.stampActivated campaign.id t).getCampaign campaign.id =
      some { campaign with activatedAt := some t } := by
  unfold TerritoryDb.getCampaign TerritoryDb.stampActivated TerritoryDb.updateCampaigns at *
  rw [List.find?_map]
  have hsame : ((fun c : Campaign => c.id == campaign.id) ∘ fun c =>
      if (c.id == campaign.id) = true then { c with activatedAt := some t } else c) =
      fun c => c.id == campaign.id := by
    funext c
    simp only [Function.comp]
    split <;> rfl
  rw [hsame, hfound]
  simp

theorem not_references (h : db.references campaign.id = false) {a : Attribution}
    (ha : a ∈ db.attributions) :
    a.campaignId ≠ some campaign.id ∧ a.pausedByCampaignId ≠ some campaign.id := by
  simp only [TerritoryDb.references, List.any_eq_false, Bool.or_eq_true, beq_iff_eq, not_or] at h
  exact h a ha

/-- One row through the end transition over the whole congregation. -/
def Campaign.releaseRow (campaign : Campaign) (now : Instant) (a : Attribution) : Attribution :=
  let t : CampaignTransition := ⟨campaign.id, none, now⟩
  let closed := if campaign.endCloseCampaign && t.ownOpen a then a.returned now else a
  if t.pausedByIt closed then closed.resumed now else closed

theorem released_attributions (hresume : campaign.endRegularAction = .resume) {now : Instant} :
    (db.released campaign ⟨campaign.id, none, now⟩).attributions =
      db.attributions.map (campaign.releaseRow now) := by
  unfold TerritoryDb.released TerritoryDb.pausedReleased TerritoryDb.ownClosed
  rw [hresume]
  cases hclose : campaign.endCloseCampaign with
  | false => simp [TerritoryDb.updateAttributions, Campaign.releaseRow, hclose]
  | true => simp [TerritoryDb.updateAttributions, Campaign.releaseRow, hclose]

/-- A row the campaign paused comes back as it was, later. -/
theorem releaseRow_suspended {a : Attribution} {now : Instant} (hopen : a.endDate = none)
    (hregular : a.campaignId = none) (hat : a.pausedAt = none) (hby : a.pausedByCampaignId = none) :
    campaign.releaseRow now (a.suspended campaign.id t) =
      { a with lateDate := a.lateDate + (now - t) } := by
  have hown : (⟨campaign.id, none, now⟩ : CampaignTransition).ownOpen
      (a.suspended campaign.id t) = false := by
    simp [CampaignTransition.ownOpen, Attribution.suspended, hregular]
  have hpaused : (⟨campaign.id, none, now⟩ : CampaignTransition).pausedByIt
      (a.suspended campaign.id t) = true := by
    simp [CampaignTransition.pausedByIt, CampaignTransition.covers, Attribution.suspended, hopen]
  have hclosed : campaign.releaseRow now (a.suspended campaign.id t) =
      (a.suspended campaign.id t).resumed now := by
    simp only [Campaign.releaseRow]
    rw [hown, Bool.and_false]
    simp only [Bool.false_eq_true, if_false]
    rw [if_pos hpaused]
  rw [hclosed]
  simp [Attribution.resumed, Attribution.suspended, hat, hby]

/-- A row that does not refer to the campaign is none of its business. -/
theorem releaseRow_of_ne {a : Attribution} {now : Instant}
    (hlayer : a.campaignId ≠ some campaign.id) (hby : a.pausedByCampaignId ≠ some campaign.id) :
    campaign.releaseRow now a = a := by
  have hown : (⟨campaign.id, none, now⟩ : CampaignTransition).ownOpen a = false := by
    simp [CampaignTransition.ownOpen, hlayer]
  have hpaused : (⟨campaign.id, none, now⟩ : CampaignTransition).pausedByIt a = false := by
    simp [CampaignTransition.pausedByIt, hby]
  simp [Campaign.releaseRow, hown, hpaused]

/-- The round trip, when no row referred to the campaign before. -/
theorem undoneExactly (hfound : db.getCampaign campaign.id = some campaign)
    (hscheduled : campaign.activatedAt = none) (hended : campaign.endedAt = none)
    (hpause : campaign.startRegularAction = .pause)
    (hreassign : campaign.startAutoReassign = false)
    (hresume : campaign.endRegularAction = .resume)
    (htogether : ∀ a ∈ db.attributions, a.pausedAt.isSome ↔ a.pausedByCampaignId.isSome)
    (hunused : db.references campaign.id = false) :
    UndoneExactly db (thereAndBack tz db campaign.id t t') campaign t t' := by
  let activated : Campaign := { campaign with activatedAt := some t }
  let started := (db.stampActivated campaign.id t).updateAttributions
    (campaign.transition t).openRegulars (·.suspended campaign.id t)
  have hrecord : started.getCampaign campaign.id = some activated := getCampaign_stampActivated hfound
  have hactive : activated.active = true := by simp [activated, Campaign.active, hended]
  have hend : ((Request.endCampaign campaign.id t').run tz).exec started =
      (.ok (), (started.stampEnded activated.id t').released activated ⟨activated.id, none, t'⟩) :=
    withCampaign_ok.mpr (.inr ⟨activated, hrecord,
      endCampaign_ok.mpr (.inr ⟨hactive, ⟨activated, hrecord⟩, rfl⟩)⟩)
  have hrows : ((started.stampEnded activated.id t').released activated
      ⟨activated.id, none, t'⟩).attributions =
        (started.stampEnded activated.id t').attributions.map (activated.releaseRow t') :=
    released_attributions hresume
  unfold UndoneExactly thereAndBack
  have hpaused : (started.stampEnded activated.id t').attributions = db.attributions.map fun a =>
      if (campaign.transition t).openRegulars a then a.suspended campaign.id t else a := rfl
  rw [activate_pauses hfound hscheduled hpause hreassign, step_of_ok hend, hrows, hpaused, List.map_map]
  refine List.map_congr_left fun a ha => ?_
  obtain ⟨hlayer, hby⟩ := not_references hunused ha
  rw [Function.comp_apply]
  split
  · next hsel =>
    simp only [CampaignTransition.openRegulars, Bool.and_eq_true, Option.isNone_iff_eq_none] at hsel
    obtain ⟨⟨⟨hopen, hregular⟩, hat⟩, _⟩ := hsel
    have hnone : a.pausedByCampaignId = none := by
      have hiff := htogether a ha
      simpa [hat] using hiff
    exact releaseRow_suspended hopen hregular hat hnone
  · exact releaseRow_of_ne hlayer hby

end PauseResume

/-! ## The sweep run again -/

section Again

variable {tz : LocalTime} {db db' : TerritoryDb} {now : Instant}

/-- What is due in `db'` was due in `db`, and is none of the campaigns `done`. -/
def Handled (due : Campaign → Prop) (db : TerritoryDb) (done : List Campaign)
    (db' : TerritoryDb) : Prop :=
  ∀ c' ∈ db'.campaigns, due c' → ∃ c ∈ db.campaigns, c.id = c'.id ∧ due c ∧ c ∉ done

theorem Handled.refl (due : Campaign → Prop) : Handled due db [] db :=
  fun c hc hdue => ⟨c, hc, rfl, hdue, List.not_mem_nil⟩

/-- A stamp after which a row is no longer due handles one more campaign. -/
theorem Handled.stamp {due : Campaign → Prop} {done : List Campaign} {s s' : TerritoryDb}
    {x : Campaign} {data : Campaign → Campaign} (h : Handled due db done s)
    (hstamped : ∀ c, ¬due (data c))
    (hsame : s'.campaigns = (s.updateCampaigns (·.id == x.id) data).campaigns) :
    Handled due db (done ++ [x]) s' := by
  intro c' hc' hdue
  rw [hsame] at hc'
  obtain ⟨c₁, hc₁, rfl⟩ := mem_updateCampaigns.mp hc'
  by_cases hsel : (c₁.id == x.id) = true
  · rw [if_pos hsel] at hdue
    exact absurd hdue (hstamped c₁)
  · rw [if_neg hsel] at hdue ⊢
    obtain ⟨c, hc, hid, hcdue, hdone⟩ := h c₁ hc₁ hdue
    refine ⟨c, hc, hid, hcdue, fun hmem => ?_⟩
    rcases List.mem_append.mp hmem with hmem | hmem
    · exact hdone hmem
    · rw [← hid, List.mem_singleton.mp hmem] at hsel
      simp at hsel

/-- The activations of a sweep leave no campaign due to start. -/
theorem activations_none
    (h : ((db.getCampaignsDueToActivate now).forM fun campaign =>
      activateCampaign tz campaign now).exec db = (.ok (), db')) :
    db'.getCampaignsDueToActivate now = [] := by
  let due : Campaign → Prop :=
    fun c => c.activatedAt = none ∧ c.endedAt = none ∧ c.startDate ≤ now
  have hhandled : Handled due db (db.getCampaignsDueToActivate now) db' := by
    refine Tx.forM_invariant (I := Handled due db) h (Handled.refl due) ?_
    intro done x rest hlist s s' hs hactivate
    have hx : x ∈ db.getCampaignsDueToActivate now := by
      rw [hlist]
      exact List.mem_append_right _ List.mem_cons_self
    rcases activateCampaign_ok.mp hactivate with ⟨hsome, _⟩ | ⟨_, _, hstart⟩
    · rw [(mem_dueToActivate.mp hx).2.1] at hsome
      exact absurd hsome (by simp)
    · exact hs.stamp (fun c hdue => by simp [due] at hdue) (startTransition_campaigns hstart)
  refine List.eq_nil_iff_forall_not_mem.mpr fun c' hc' => ?_
  obtain ⟨hmem, hdue⟩ := mem_dueToActivate.mp hc'
  obtain ⟨c, hc, _, hcdue, hdone⟩ := hhandled c' hmem hdue
  exact hdone (mem_dueToActivate.mpr ⟨hc, hcdue⟩)

/-- The ends of a sweep leave no campaign over. -/
theorem ends_none
    (h : ((db.getCampaignsDueToEnd tz now).forM fun campaign => endCampaign campaign now).exec db =
      (.ok (), db')) : db'.getCampaignsDueToEnd tz now = [] := by
  let due : Campaign → Prop := fun c => c.active = true ∧ c.endDate < startOfDay tz now
  have hhandled : Handled due db (db.getCampaignsDueToEnd tz now) db' := by
    refine Tx.forM_invariant (I := Handled due db) h (Handled.refl due) ?_
    intro done x rest hlist s s' hs hend
    have hx : x ∈ db.getCampaignsDueToEnd tz now := by
      rw [hlist]
      exact List.mem_append_right _ List.mem_cons_self
    rcases endCampaign_ok.mp hend with ⟨hinactive, _⟩ | ⟨_, _, rfl⟩
    · rw [(mem_dueToEnd.mp hx).2.1] at hinactive
      exact Bool.noConfusion hinactive
    · exact hs.stamp (fun c hdue => by simp [due, Campaign.active] at hdue) released_campaigns
  refine List.eq_nil_iff_forall_not_mem.mpr fun c' hc' => ?_
  obtain ⟨hmem, hdue⟩ := mem_dueToEnd.mp hc'
  obtain ⟨c, hc, _, hcdue, hdone⟩ := hhandled c' hmem hdue
  exact hdone (mem_dueToEnd.mpr ⟨hc, hcdue⟩)

/-- An end makes no campaign due to start. -/
theorem endCampaign_noneDue {campaign : Campaign} :
    Tx.Keeps (fun s : TerritoryDb => s.getCampaignsDueToActivate now = [])
      (endCampaign campaign now) := by
  unfold endCampaign
  split
  · exact Tx.keeps_pure _
  · refine Tx.Keeps.bind (Tx.keeps_checked fun s _ hs _ => ?_) fun _ s hs => ?_
    · refine List.eq_nil_iff_forall_not_mem.mpr fun c' hc' => ?_
      obtain ⟨hmem, hdue⟩ := mem_dueToActivate.mp hc'
      obtain ⟨c, hc, rfl⟩ := mem_updateCampaigns.mp hmem
      by_cases hsel : (c.id == campaign.id) = true
      · simp [hsel] at hdue
      · rw [if_neg hsel] at hdue
        have hcdue : c ∈ s.getCampaignsDueToActivate now := mem_dueToActivate.mpr ⟨hc, hdue⟩
        rw [hs] at hcdue
        exact List.not_mem_nil hcdue
    · rw [endTransition_exec]
      unfold TerritoryDb.getCampaignsDueToActivate at hs ⊢
      rw [released_campaigns]
      exact hs

theorem sweep_again_of_ok (h : (runCampaignLifecycleSweep tz now).exec db = (.ok (), db')) :
    (runCampaignLifecycleSweep tz now).exec db' = (.ok (), db') := by
  unfold runCampaignLifecycleSweep at h ⊢
  rw [Tx.exec_bind_get] at h ⊢
  obtain ⟨s₁, hactivated, hrest⟩ := Tx.exec_seq_ok.mp h
  rw [Tx.exec_bind_get] at hrest
  have hnone : db'.getCampaignsDueToActivate now = [] := by
    have hkeeps : Tx.Keeps (fun s : TerritoryDb => s.getCampaignsDueToActivate now = [])
        ((s₁.getCampaignsDueToEnd tz now).forM fun campaign => endCampaign campaign now) :=
      .forM fun _ _ => endCampaign_noneDue
    exact hkeeps.of_ok hrest (activations_none hactivated)
  rw [hnone]
  refine Tx.exec_seq_ok.mpr ⟨db', rfl, ?_⟩
  rw [Tx.exec_bind_get, ends_none hrest]
  rfl

theorem sweep_again : step tz (step tz db (.sweep now)) (.sweep now) = step tz db (.sweep now) := by
  rcases step_cases tz db (.sweep now) with hexec | hsame
  · exact step_of_ok (sweep_again_of_ok hexec)
  · rw [hsame, hsame]

end Again

/-- **Ending a campaign undoes exactly what it started**, provided that the pause columns are in step
and no attribution refers to the campaign yet; and a sweep run again at the same instant changes
nothing. -/
theorem campaign_round_trip {tz : LocalTime} {db : TerritoryDb} {campaign : Campaign}
    {t t' : Instant} (hfound : db.getCampaign campaign.id = some campaign)
    (hscheduled : campaign.activatedAt = none) (hended : campaign.endedAt = none)
    (hpause : campaign.startRegularAction = .pause)
    (hreassign : campaign.startAutoReassign = false)
    (hresume : campaign.endRegularAction = .resume)
    (htogether : ∀ a ∈ db.attributions, a.pausedAt.isSome ↔ a.pausedByCampaignId.isSome)
    (hunused : db.references campaign.id = false) :
    UndoneExactly db (thereAndBack tz db campaign.id t t') campaign t t' ∧
      ∀ s now, step tz (step tz s (.sweep now)) (.sweep now) = step tz s (.sweep now) :=
  ⟨undoneExactly hfound hscheduled hended hpause hreassign hresume htogether hunused,
    fun _ _ => sweep_again⟩

/-- The campaign planned from the 5th to the 9th, as it is stored. -/
def plannedCampaign : Campaign :=
  newCampaign (campaignOver "2025-03-05" "2025-03-09" .pause) ⟨march 5, march 9⟩ [] 1

/-- The territory taken, the campaign planned, and then some requests. -/
def beforeCampaign (requests : List Request) : TerritoryDb :=
  ([takeOn "2025-03-01", .createCampaign (campaignOver "2025-03-05" "2025-03-09" .pause) []] ++
    requests).foldl (step .utc) oneTerritory

/-- A row paused by hand on the campaign's account before it starts is resumed by its end. -/
theorem campaign_round_trip_broken :
    NoneActive (beforeCampaign [.pause 1 1 (march 3)]) ∧
      (beforeCampaign [.pause 1 1 (march 3)]).getCampaign 1 = some plannedCampaign ∧
      ¬UndoneExactly (beforeCampaign [.pause 1 1 (march 3)])
        (thereAndBack .utc (beforeCampaign [.pause 1 1 (march 3)]) 1 (march 5) (march 10))
        plannedCampaign (march 5) (march 10) := by
  decide +kernel

theorem campaign_round_trip_planned :
    UndoneExactly (beforeCampaign []) (thereAndBack .utc (beforeCampaign []) 1 (march 5) (march 10))
        plannedCampaign (march 5) (march 10) ∧
      ∀ s now, step .utc (step .utc s (.sweep now)) (.sweep now) = step .utc s (.sweep now) :=
  @campaign_round_trip .utc (beforeCampaign []) plannedCampaign (march 5) (march 10)
    (by decide +kernel) rfl rfl rfl rfl rfl (by decide +kernel) (by decide +kernel)

end Unitae.Territories
