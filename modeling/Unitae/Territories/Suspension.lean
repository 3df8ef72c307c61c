import Unitae.Territories.Reassignment

/-!
# Unitae — a pausing campaign suspends regular work while it runs

While a campaign that pauses is active, the open regular attributions of its scope are paused. The
edits keep this: a territory that enters the scope is paused, and no regular row is created in
campaign mode. The sweep does not, because it activates what is due before it ends what is over: the
new campaign skips the rows the old one holds paused, and the end of the old one then resumes them.

`suspended_of_run` is the law over every run in which no sweep resumes, for a campaign that is over,
a row that one still running should hold. It needs to follow one row through the two loops of a
sweep: `midRow` is the row after the activations.
-/

namespace Unitae.Territories

/-- The territory is in the campaign's effective scope. -/
def Campaign.covers (c : Campaign) (territoryId : Nat) : Bool :=
  c.scope.isEmpty || c.scope.contains territoryId

theorem transition_covers {c : Campaign} {now : Instant} {territoryId : Nat} :
    (c.transition now).covers territoryId = c.covers territoryId := by
  unfold CampaignTransition.covers Campaign.transition Campaign.scopeTerritoryIds Campaign.covers
  cases c.scope <;> simp

/-- An open regular row. -/
def Attribution.openRegular (a : Attribution) : Bool := a.endDate.isNone && a.campaignId.isNone

theorem Attribution.openRegular_iff {a : Attribution} :
    a.openRegular = true ↔ a.endDate = none ∧ a.campaignId = none := by
  simp [Attribution.openRegular]

/-- Open regular work in the scope of an active campaign that pauses is paused. -/
def Suspends (db : TerritoryDb) : Prop :=
  ∀ c ∈ db.campaigns, c.active = true → c.startRegularAction = .pause →
    ∀ a ∈ db.attributions, a.openRegular = true → c.covers a.territoryId = true →
      a.pausedAt.isSome

instance (db : TerritoryDb) : Decidable (Suspends db) :=
  inferInstanceAs (Decidable (∀ _ ∈ _, _ → _ → ∀ _ ∈ _, _ → _ → _))

/-! ## The condition on a sweep -/

/-- Active, or due to be. -/
def Campaign.runsAt (now : Instant) (c : Campaign) : Bool :=
  c.active || (c.activatedAt.isNone && c.endedAt.isNone && c.startDate ≤ now)

/-- The due campaign pauses the regular rows of the territory. -/
def Campaign.pauses (territoryId : Nat) (c : Campaign) : Bool :=
  c.startRegularAction == .pause && c.covers territoryId

/-- A row after the campaigns `due` have been activated: the first that pauses its territory pauses
it, unless it is paused already. -/
def midRow (now : Instant) (due : List Campaign) (a : Attribution) : Attribution :=
  if a.pausedAt.isSome then a
  else match due.find? (·.pauses a.territoryId) with
    | some c => a.suspended c.id now
    | none => a

/-- The sweep resumes, for a campaign that is over, an open regular row in the scope of a pausing
campaign that runs on: the campaign that is over holds it, or is the first due to. -/
def Collides (tz : LocalTime) (now : Instant) (db : TerritoryDb) : Prop :=
  ∃ a ∈ db.attributions, a.openRegular = true ∧
    (∀ c ∈ db.getCampaignsDueToActivate now, c.startRegularAction = .close →
      c.covers a.territoryId = false) ∧
    (∃ c ∈ db.campaigns, c.runsAt now = true ∧ startOfDay tz now ≤ c.endDate ∧
      c.pauses a.territoryId = true) ∧
    ∃ ended ∈ db.campaigns, ended.runsAt now = true ∧ ended.endDate < startOfDay tz now ∧
      ended.endRegularAction = .resume ∧
      (midRow now (db.getCampaignsDueToActivate now) a).pausedByCampaignId = some ended.id

instance (tz : LocalTime) (now : Instant) (db : TerritoryDb) : Decidable (Collides tz now db) :=
  inferInstanceAs (Decidable (∃ _ ∈ _, _ ∧ (∀ _ ∈ _, _ → _) ∧ (∃ _ ∈ _, _) ∧ ∃ _ ∈ _, _))

/-! ## A row through the activations -/

section Activations

variable {tz : LocalTime} {db s s' : TerritoryDb} {campaign : Campaign} {now : Instant}

/-- The open regular rows after the activations `done`. -/
def MidRows (now : Instant) (db : TerritoryDb) (done : List Campaign) (s : TerritoryDb) : Prop :=
  ∀ a' ∈ s.attributions, a'.openRegular = true → ∃ a ∈ db.attributions, a.openRegular = true ∧
    (∀ c ∈ done, c.startRegularAction = .close → c.covers a.territoryId = false) ∧
    a' = midRow now done a

@[simp] theorem midRow_territoryId {due : List Campaign} {a : Attribution} :
    (midRow now due a).territoryId = a.territoryId := by
  unfold midRow
  split
  · rfl
  · split <;> rfl

theorem midRow_snoc_of_not_pauses {done : List Campaign} {a : Attribution}
    (h : (midRow now done a).pausedAt.isSome ∨ campaign.pauses a.territoryId = false) :
    midRow now (done ++ [campaign]) a = midRow now done a := by
  unfold midRow at h ⊢
  split at h
  · next hpaused => simp [hpaused]
  · next hunpaused =>
    rw [if_neg hunpaused, if_neg hunpaused, List.find?_append]
    cases hfirst : done.find? (·.pauses a.territoryId) with
    | some c => rfl
    | none =>
      rw [hfirst] at h
      have hnot : campaign.pauses a.territoryId = false := h.resolve_left hunpaused
      simp [hnot]

theorem midRow_snoc_of_pauses {done : List Campaign} {a : Attribution}
    (hunpaused : (midRow now done a).pausedAt = none)
    (hpauses : campaign.pauses a.territoryId = true) :
    midRow now (done ++ [campaign]) a = (midRow now done a).suspended campaign.id now := by
  unfold midRow at hunpaused ⊢
  split at hunpaused
  · next hpaused => simp [hunpaused] at hpaused
  · next hnone =>
    cases hfirst : done.find? (·.pauses a.territoryId) with
    | some c =>
      rw [hfirst] at hunpaused
      simp [Attribution.suspended] at hunpaused
    | none =>
      rw [if_neg hnone, if_neg hnone, List.find?_append, hfirst]
      simp [hpauses]

/-- The regular rows a start transition leaves: reassignment adds campaign rows only. -/
theorem startTransition_regular {t : CampaignTransition}
    (h : (startTransition tz campaign t).exec db = (.ok (), s)) {a : Attribution}
    (ha : a ∈ s.attributions) (hregular : a.campaignId = none) :
    a ∈ (db.started campaign t).attributions := by
  rw [startTransition_exec] at h
  have hkeeps : Tx.Keeps (fun s => ∀ a ∈ s.attributions, a.campaignId = none →
      a ∈ (db.started campaign t).attributions)
      (reassignIntoCampaign tz campaign t.now (campaign.reassigned t db)) := by
    refine reassign_keeps fun row _ s territory startDate hs _ a ha hregular => ?_
    rcases List.mem_append.mp ha with hold | hnew
    · exact hs a hold hregular
    · rw [List.mem_singleton.mp hnew] at hregular
      exact absurd hregular (by simp [newAttribution, reassignment])
  exact hkeeps.of_ok h (fun a ha _ => ha) a ha hregular

theorem MidRows.refl : MidRows now db [] db := by
  intro a ha hopen
  refine ⟨a, ha, hopen, by simp, ?_⟩
  unfold midRow
  split
  · rfl
  · rfl

/-- One more activation. -/
theorem MidRows.activate {done : List Campaign} (h : MidRows now db done s)
    (hscheduled : campaign.activatedAt = none)
    (hexec : (activateCampaign tz campaign now).exec s = (.ok (), s')) :
    MidRows now db (done ++ [campaign]) s' := by
  obtain ⟨_, _, hstart⟩ := (activateCampaign_ok.mp hexec).resolve_left (by simp [hscheduled])
  intro a' ha' hopen'
  have hregular := (Attribution.openRegular_iff.mp hopen').2
  have hmem := startTransition_regular hstart ha' hregular
  have hsnoc : ∀ a : Attribution, (∀ c ∈ done, c.startRegularAction = .close →
      c.covers a.territoryId = false) → (campaign.startRegularAction = .close →
      campaign.covers a.territoryId = false) → ∀ c ∈ done ++ [campaign],
        c.startRegularAction = .close → c.covers a.territoryId = false := by
    intro a hdone hlast c hc
    rcases List.mem_append.mp hc with hc | hc
    · exact hdone c hc
    · rw [List.mem_singleton.mp hc]
      exact hlast
  unfold TerritoryDb.started at hmem
  split at hmem
  · next haction =>
    rcases mem_updateAttributions_cases hmem with ⟨hold, hunselected⟩ | ⟨a₁, ha₁, hsel, rfl⟩
    · obtain ⟨a, ha, hopen, hclose, rfl⟩ := h a' hold hopen'
      refine ⟨a, ha, hopen, hsnoc a hclose (by simp [haction]), ?_⟩
      rw [midRow_snoc_of_not_pauses]
      -- not selected: paused already, or out of the campaign's scope
      by_contra hneither
      simp only [not_or, Bool.not_eq_true, Option.isSome_eq_false_iff, Option.isNone_iff_eq_none,
        Bool.not_eq_false] at hneither
      have hcovers : campaign.covers a.territoryId = true := by
        have hpauses := hneither.2
        simp only [Campaign.pauses, Bool.and_eq_true] at hpauses
        exact hpauses.2
      have hsel : (campaign.transition now).openRegulars (midRow now done a) = true := by
        obtain ⟨hend, hlayer⟩ := Attribution.openRegular_iff.mp hopen'
        refine openRegulars_iff.mpr ⟨hend, hlayer, hneither.1, ?_⟩
        rw [transition_covers, midRow_territoryId]
        exact hcovers
      rw [hsel] at hunselected
      exact Bool.noConfusion hunselected
    · obtain ⟨hend, hlayer, hunpaused, hcovers⟩ := openRegulars_iff.mp hsel
      obtain ⟨a, ha, hopen, hclose, rfl⟩ :=
        h a₁ ha₁ (Attribution.openRegular_iff.mpr ⟨hend, hlayer⟩)
      refine ⟨a, ha, hopen, hsnoc a hclose (by simp [haction]), ?_⟩
      rw [transition_covers, midRow_territoryId] at hcovers
      exact (midRow_snoc_of_pauses hunpaused (by simp [Campaign.pauses, haction, hcovers])).symm
  · next haction =>
    rcases mem_updateAttributions_cases hmem with ⟨hold, hunselected⟩ | ⟨a₁, _, _, rfl⟩
    · obtain ⟨a, ha, hopen, hclose, rfl⟩ := h a' hold hopen'
      have hnotCovered : campaign.covers a.territoryId = false := by
        cases hcovers : campaign.covers a.territoryId with
        | false => rfl
        | true =>
          obtain ⟨hend, hlayer⟩ := Attribution.openRegular_iff.mp hopen'
          have hsel : (campaign.transition now).allOpenRegulars (midRow now done a) = true := by
            simp [CampaignTransition.allOpenRegulars, hend, hlayer, transition_covers, hcovers]
          rw [hsel] at hunselected
          exact Bool.noConfusion hunselected
      refine ⟨a, ha, hopen, hsnoc a hclose fun _ => hnotCovered, ?_⟩
      rw [midRow_snoc_of_not_pauses (.inr (by simp [Campaign.pauses, hnotCovered]))]
    · simp [Attribution.openRegular, Attribution.returned] at hopen'
  · next haction =>
    obtain ⟨a, ha, hopen, hclose, rfl⟩ := h a' hmem hopen'
    refine ⟨a, ha, hopen, hsnoc a hclose (by simp [haction]), ?_⟩
    rw [midRow_snoc_of_not_pauses (.inr (by simp [Campaign.pauses, haction]))]

/-- The rows after all the activations of a sweep. -/
theorem midRows_of_activations
    (h : ((db.getCampaignsDueToActivate now).forM fun campaign =>
      activateCampaign tz campaign now).exec db = (.ok (), s)) :
    MidRows now db (db.getCampaignsDueToActivate now) s := by
  refine Tx.forM_invariant h MidRows.refl ?_
  intro done campaign rest hsplit s s' hs hturn
  have hmem : campaign ∈ db.getCampaignsDueToActivate now := by
    rw [hsplit]
    exact List.mem_append_right _ List.mem_cons_self
  exact hs.activate (mem_dueToActivate.mp hmem).2.1 hturn

end Activations

/-! ## A row through the ends -/

section Ends

variable {tz : LocalTime} {db mid s s' : TerritoryDb} {campaign : Campaign} {now : Instant}

/-- The open regular rows after the ends `done`: as they were, or resumed for one of them. -/
def EndRows (mid : TerritoryDb) (done : List Campaign) (s : TerritoryDb) : Prop :=
  ∀ a' ∈ s.attributions, a'.openRegular = true → a' ∈ mid.attributions ∨
    ∃ ended ∈ done, ended.endRegularAction = .resume ∧ ∃ a ∈ mid.attributions,
      a.openRegular = true ∧ a.territoryId = a'.territoryId ∧
        a.pausedByCampaignId = some ended.id

theorem EndRows.release {done : List Campaign} (h : EndRows mid done s) {t : CampaignTransition}
    (ht : t.campaignId = campaign.id) : EndRows mid (done ++ [campaign]) (s.released campaign t) := by
  have hmono : ∀ a' : Attribution, (a' ∈ mid.attributions ∨
      ∃ ended ∈ done, ended.endRegularAction = .resume ∧ ∃ a ∈ mid.attributions,
        a.openRegular = true ∧ a.territoryId = a'.territoryId ∧
          a.pausedByCampaignId = some ended.id) → a' ∈ mid.attributions ∨
      ∃ ended ∈ done ++ [campaign], ended.endRegularAction = .resume ∧ ∃ a ∈ mid.attributions,
        a.openRegular = true ∧ a.territoryId = a'.territoryId ∧
          a.pausedByCampaignId = some ended.id := by
    rintro a' (hmid | ⟨ended, hover, hrest⟩)
    · exact .inl hmid
    · exact .inr ⟨ended, List.mem_append_left _ hover, hrest⟩
  have howned : ∀ a' ∈ (s.ownClosed campaign t).attributions, a'.openRegular = true →
      a' ∈ s.attributions :=
    fun a' ha' hopen' => mem_ownClosed_open ha' (Attribution.openRegular_iff.mp hopen').1
  intro a' ha' hopen'
  unfold TerritoryDb.released TerritoryDb.pausedReleased at ha'
  split at ha'
  · next haction =>
    rcases mem_updateAttributions_cases ha' with ⟨hold, _⟩ | ⟨a, ha, hsel, rfl⟩
    · exact hmono a' (h a' (howned a' hold hopen') hopen')
    · have hopen : a.openRegular = true := hopen'
      rcases h a (howned a ha hopen) hopen with hmid | ⟨ended, hover, hresume, a₀, ha₀, hrest⟩
      · right
        simp only [CampaignTransition.pausedByIt, Bool.and_eq_true, beq_iff_eq] at hsel
        exact ⟨campaign, List.mem_append_right _ List.mem_cons_self, haction, a, hmid, hopen, rfl,
          by rw [hsel.1.1, ht]⟩
      · exact .inr ⟨ended, List.mem_append_left _ hover, hresume, a₀, ha₀, hrest⟩
  · exact hmono a' (h a' (howned a' ha' hopen') hopen')
  · rcases mem_updateAttributions_cases ha' with ⟨hold, _⟩ | ⟨a, _, _, rfl⟩
    · exact hmono a' (h a' (howned a' hold hopen') hopen')
    · simp [Attribution.openRegular, Attribution.returnedFromPause] at hopen'

theorem endRows_of_ends
    (h : ((mid.getCampaignsDueToEnd tz now).forM fun campaign => endCampaign campaign now).exec mid =
      (.ok (), s)) : EndRows mid (mid.getCampaignsDueToEnd tz now) s := by
  refine Tx.forM_invariant (I := EndRows mid) h (fun a ha _ => .inl ha) ?_
  intro done campaign rest hsplit s s' hs hturn
  have hmem : campaign ∈ mid.getCampaignsDueToEnd tz now := by
    rw [hsplit]
    exact List.mem_append_right _ List.mem_cons_self
  have hactive := (mem_dueToEnd.mp hmem).2.1
  obtain ⟨_, _, rfl⟩ := (endCampaign_ok.mp hturn).resolve_left (by simp [hactive])
  have hstamped : EndRows mid done (s.stampEnded campaign.id now) := hs
  exact hstamped.release rfl

end Ends

/-! ## The campaigns through a sweep -/

section SweepCampaigns

variable {tz : LocalTime} {db mid s : TerritoryDb} {now : Instant}

/-- A campaign after the activations is one from before, stamped perhaps. -/
def MidCampaigns (now : Instant) (db : TerritoryDb) (done : List Campaign) (s : TerritoryDb) :
    Prop :=
  ∀ c' ∈ s.campaigns, c' ∈ db.campaigns ∨
    ∃ c ∈ db.campaigns, c' = { c with activatedAt := some now } ∧ ∃ x ∈ done, x.id = c.id

theorem midCampaigns_of_activations
    (h : ((db.getCampaignsDueToActivate now).forM fun campaign =>
      activateCampaign tz campaign now).exec db = (.ok (), mid)) :
    MidCampaigns now db (db.getCampaignsDueToActivate now) mid := by
  refine Tx.forM_invariant (I := MidCampaigns now db) h (fun c hc => .inl hc) ?_
  intro done campaign rest hsplit s s' hs hturn
  have hmem : campaign ∈ db.getCampaignsDueToActivate now := by
    rw [hsplit]
    exact List.mem_append_right _ List.mem_cons_self
  obtain ⟨_, _, hstart⟩ := (activateCampaign_ok.mp hturn).resolve_left
    (by simp [(mem_dueToActivate.mp hmem).2.1])
  intro c' hc'
  rw [startTransition_campaigns hstart] at hc'
  obtain ⟨c, hc, rfl⟩ := mem_updateCampaigns.mp hc'
  by_cases hsel : (c.id == campaign.id) = true
  · rw [if_pos hsel]
    have hlast : campaign ∈ done ++ [campaign] := List.mem_append_right _ List.mem_cons_self
    have hid : campaign.id = c.id := (beq_iff_eq.mp hsel).symm
    rcases hs c hc with hold | ⟨c₀, hc₀, rfl, _⟩
    · exact .inr ⟨c, hold, rfl, campaign, hlast, hid⟩
    · exact .inr ⟨c₀, hc₀, rfl, campaign, hlast, hid⟩
  · rw [if_neg hsel]
    rcases hs c hc with hold | ⟨c₀, hc₀, hstamped, x, hx, hid⟩
    · exact .inl hold
    · exact .inr ⟨c₀, hc₀, hstamped, x, List.mem_append_left _ hx, hid⟩

/-- An active campaign after the activations was active, or due and so handled. -/
theorem runsAt_of_mid (hdb : db.Valid)
    (h : ((db.getCampaignsDueToActivate now).forM fun campaign =>
      activateCampaign tz campaign now).exec db = (.ok (), mid)) {c' : Campaign}
    (hc' : c' ∈ mid.campaigns) (hactive : c'.active = true) :
    ∃ c ∈ db.campaigns, (c.active = true ∧ c' = c ∨
      c ∈ db.getCampaignsDueToActivate now ∧ c' = { c with activatedAt := some now }) := by
  rcases midCampaigns_of_activations h c' hc' with hold | ⟨c, hc, rfl, x, hx, hid⟩
  · exact ⟨c', hold, .inl ⟨hactive, rfl⟩⟩
  · have hsame : x = c := hdb.campaigns.eq_of_key (mem_dueToActivate.mp hx).1 hc hid
    rw [hsame] at hx
    exact ⟨c, hc, .inr ⟨hx, rfl⟩⟩

theorem runsAt_iff {c : Campaign} : c.runsAt now = true ↔
    c.active = true ∨ c.activatedAt = none ∧ c.endedAt = none ∧ c.startDate ≤ now := by
  simp [Campaign.runsAt, and_assoc]

/-- The ends change nothing of a campaign that is still active after them, which is not over. -/
theorem active_after_ends
    (h : ((mid.getCampaignsDueToEnd tz now).forM fun campaign => endCampaign campaign now).exec mid =
      (.ok (), s)) {c : Campaign} (hc : c ∈ s.campaigns) (hactive : c.active = true) :
    c ∈ mid.campaigns ∧ startOfDay tz now ≤ c.endDate := by
  have hkept : ∀ c ∈ s.campaigns, c.active = true → c ∈ mid.campaigns := by
    refine Tx.forM_invariant
      (I := fun _ s => ∀ c ∈ s.campaigns, c.active = true → c ∈ mid.campaigns) h
      (fun c hc _ => hc) ?_
    intro done campaign rest _ s s' hs hturn c hc hactive
    rcases endCampaign_ok.mp hturn with ⟨_, rfl⟩ | ⟨_, _, rfl⟩
    · exact hs c hc hactive
    · rw [released_campaigns] at hc
      obtain ⟨c₀, hc₀, rfl⟩ := mem_updateCampaigns.mp hc
      by_cases hsel : (c₀.id == campaign.id) = true
      · simp [hsel, Campaign.active] at hactive
      · rw [if_neg hsel] at hactive ⊢
        exact hs c₀ hc₀ hactive
  refine ⟨hkept c hc hactive, ?_⟩
  by_contra hover
  have hdue : c ∈ s.getCampaignsDueToEnd tz now :=
    mem_dueToEnd.mpr ⟨hc, hactive, not_le.mp hover⟩
  rw [ends_none h] at hdue
  exact List.not_mem_nil hdue

theorem sweep_ok (h : (runCampaignLifecycleSweep tz now).exec db = (.ok (), s)) :
    ∃ mid, ((db.getCampaignsDueToActivate now).forM fun campaign =>
        activateCampaign tz campaign now).exec db = (.ok (), mid) ∧
      ((mid.getCampaignsDueToEnd tz now).forM fun campaign => endCampaign campaign now).exec mid =
        (.ok (), s) := by
  unfold runCampaignLifecycleSweep at h
  rw [Tx.exec_bind_get] at h
  obtain ⟨mid, hactivated, hrest⟩ := Tx.exec_seq_ok.mp h
  rw [Tx.exec_bind_get] at hrest
  exact ⟨mid, hactivated, hrest⟩

/-- The campaign behind one of the middle state: the same but for its stamp. -/
theorem runsAt_source (hdb : db.Valid)
    (h : ((db.getCampaignsDueToActivate now).forM fun campaign =>
      activateCampaign tz campaign now).exec db = (.ok (), mid)) {c' : Campaign}
    (hc' : c' ∈ mid.campaigns) (hactive : c'.active = true) :
    ∃ c ∈ db.campaigns, c.runsAt now = true ∧ c'.id = c.id ∧ c'.window = c.window ∧
      c'.endRegularAction = c.endRegularAction ∧
      c'.startRegularAction = c.startRegularAction ∧ c'.scope = c.scope := by
  obtain ⟨c, hc, ⟨hbefore, rfl⟩ | ⟨hdue, rfl⟩⟩ := runsAt_of_mid hdb h hc' hactive
  · exact ⟨c', hc, runsAt_iff.mpr (.inl hbefore), rfl, rfl, rfl, rfl, rfl⟩
  · have hscheduled := (mem_dueToActivate.mp hdue).2
    exact ⟨c, hc, runsAt_iff.mpr (.inr hscheduled), rfl, rfl, rfl, rfl, rfl⟩

/-- **A sweep that resumes nothing a running campaign should hold leaves its work suspended.** -/
theorem Suspends.sweep (h : Suspends db) (hdb : db.Valid) (hclear : ¬Collides tz now db)
    (hexec : (runCampaignLifecycleSweep tz now).exec db = (.ok (), s)) : Suspends s := by
  obtain ⟨mid, hactivated, hended⟩ := sweep_ok hexec
  intro c' hc' hactive haction a' ha' hopen hcovers
  obtain ⟨hmid, hruns⟩ := active_after_ends hended hc' hactive
  rcases endRows_of_ends hended a' ha' hopen with hkept | ⟨ended, hover, hresume, a₁, ha₁, hopen₁,
    hterritory, hpaused⟩
  · -- the ends left the row alone: it is as the activations left it
    obtain ⟨a, ha, hopen₀, _, rfl⟩ := midRows_of_activations hactivated a' hkept hopen
    rw [midRow_territoryId] at hcovers
    unfold midRow
    split
    · next hpaused => exact hpaused
    · next hunpaused =>
      obtain ⟨c, hc, ⟨hbefore, rfl⟩ | ⟨hdue, rfl⟩⟩ := runsAt_of_mid hdb hactivated hmid hactive
      · exact absurd (h c' hc hbefore haction a ha hopen₀ hcovers) hunpaused
      · cases hfirst : (db.getCampaignsDueToActivate now).find? (·.pauses a.territoryId) with
        | some d => rfl
        | none =>
          have hnot := List.find?_eq_none.mp hfirst c hdue
          have hcovers' : c.covers a.territoryId = true := hcovers
          have haction' : c.startRegularAction = .pause := haction
          exact absurd (by simp [Campaign.pauses, haction', hcovers']) hnot
  · -- the row was resumed for a campaign that is over, which is what was excluded
    obtain ⟨a, ha, hopen₀, hclose, rfl⟩ := midRows_of_activations hactivated a₁ ha₁ hopen₁
    obtain ⟨hoverMem, hoverActive, hoverEnd⟩ := mem_dueToEnd.mp hover
    obtain ⟨c, hc, hcruns, _, hcwindow, _, hcaction, hcscope⟩ :=
      runsAt_source hdb hactivated hmid hactive
    obtain ⟨over₀, hover₀, hoverRuns, hoverId, hoverWindow, hoverAction, _⟩ :=
      runsAt_source hdb hactivated hoverMem hoverActive
    have hcend : c'.endDate = c.endDate := congrArg CampaignWindow.endDate hcwindow
    have hoverEnd₀ : ended.endDate = over₀.endDate := congrArg CampaignWindow.endDate hoverWindow
    rw [midRow_territoryId] at hterritory
    have hpauses : c.pauses a.territoryId = true := by
      have hscope : c'.covers a'.territoryId = c.covers a'.territoryId := by
        unfold Campaign.covers
        rw [hcscope]
      rw [hscope, ← hterritory] at hcovers
      simp [Campaign.pauses, ← hcaction, haction, hcovers]
    refine absurd ⟨a, ha, hopen₀, hclose, ⟨c, hc, hcruns, ?_, hpauses⟩, over₀, hover₀, hoverRuns,
      ?_, ?_, ?_⟩ hclear
    · rw [← hcend]
      exact hruns
    · rw [← hoverEnd₀]
      exact hoverEnd
    · rw [← hoverAction]
      exact hresume
    · rw [← hoverId]
      exact hpaused

end SweepCampaigns

/-! ## One campaign is active at rest

Windows are apart, and a campaign that is active after a sweep has started and is not over, so its
window holds the day of the sweep. -/

/-- The campaigns at rest, the last sweep being at `clock`. -/
structure Calendared (tz : LocalTime) (clock : Instant) (db : TerritoryDb) : Prop where
  apart : Apart Campaign.id (fun _ => ()) (fun c => c.window.span) db.campaigns
  /-- Start dates are midnights. -/
  aligned : ∀ c ∈ db.campaigns, ∀ now, c.startDate ≤ now → c.startDate ≤ startOfDay tz now
  started : ∀ c ∈ db.campaigns, c.active = true → c.startDate ≤ clock
  oneActive : ∀ c ∈ db.campaigns, ∀ d ∈ db.campaigns, c.active = true → d.active = true →
    c.id = d.id

section Calendar

variable {tz : LocalTime} {db db' mid s : TerritoryDb} {clock now : Instant}

theorem Calendared.congr (h : Calendared tz clock db) (hcampaigns : db'.campaigns = db.campaigns) :
    Calendared tz clock db' :=
  ⟨by rw [hcampaigns]; exact h.apart, by rw [hcampaigns]; exact h.aligned,
    by rw [hcampaigns]; exact h.started, by rw [hcampaigns]; exact h.oneActive⟩

/-- Each campaign of `s` is one of `db`, its window unchanged. -/
def WindowsFrom (db s : TerritoryDb) : Prop :=
  ∀ c' ∈ s.campaigns, ∃ c ∈ db.campaigns, c'.id = c.id ∧ c'.window = c.window

theorem WindowsFrom.updateCampaigns (h : WindowsFrom db s) {csel : Campaign → Bool}
    {cdata : Campaign → Campaign} (hid : ∀ c, (cdata c).id = c.id)
    (hwindow : ∀ c, (cdata c).window = c.window) :
    WindowsFrom db (s.updateCampaigns csel cdata) := by
  intro c' hc'
  obtain ⟨c₁, hc₁, rfl⟩ := mem_updateCampaigns.mp hc'
  obtain ⟨c, hc, hcid, hcwindow⟩ := h c₁ hc₁
  refine ⟨c, hc, ?_⟩
  split
  · exact ⟨(hid c₁).trans hcid, (hwindow c₁).trans hcwindow⟩
  · exact ⟨hcid, hcwindow⟩

theorem WindowsFrom.congr (h : WindowsFrom db mid) (hcampaigns : s.campaigns = mid.campaigns) :
    WindowsFrom db s := by
  intro c' hc'
  rw [hcampaigns] at hc'
  exact h c' hc'

theorem WindowsFrom.apart (h : WindowsFrom db s)
    (hapart : Apart Campaign.id (fun _ => ()) (fun c => c.window.span) db.campaigns) :
    Apart Campaign.id (fun _ => ()) (fun c => c.window.span) s.campaigns := by
  exact windowsApart_of_rows hapart h

theorem windowsFrom_of_sweep (hexec : (runCampaignLifecycleSweep tz now).exec db = (.ok (), s)) :
    WindowsFrom db s := by
  have hkeeps : Tx.Keeps (WindowsFrom db) (runCampaignLifecycleSweep tz now) := by
    refine .get_bind fun _ => Tx.Keeps.bind (.forM fun c _ => ?_) fun _ =>
      .get_bind fun _ => .forM fun c _ => ?_
    · unfold activateCampaign
      split
      · exact Tx.keeps_pure _
      · refine Tx.Keeps.bind (Tx.keeps_checked fun _ _ h _ => ?_) fun _ s hs => ?_
        · exact h.updateCampaigns (fun _ => rfl) fun _ => rfl
        · rw [startTransition_exec]
          refine reassign_keeps (fun _ _ _ _ _ h _ => ?_) _ (hs.congr started_campaigns)
          exact h.congr rfl
    · unfold endCampaign
      split
      · exact Tx.keeps_pure _
      · refine Tx.Keeps.bind (Tx.keeps_checked fun _ _ h _ => ?_) fun _ s hs => ?_
        · exact h.updateCampaigns (fun _ => rfl) fun _ => rfl
        · rw [endTransition_exec]
          exact hs.congr released_campaigns
  exact hkeeps.of_ok hexec fun c hc => ⟨c, hc, rfl, rfl⟩

/-- After a sweep the window of an active campaign holds the day. -/
theorem Calendared.sweep (h : Calendared tz clock db) (hdb : db.Valid) (hclock : clock ≤ now)
    (hexec : (runCampaignLifecycleSweep tz now).exec db = (.ok (), s)) :
    Calendared tz now s := by
  have hfrom := windowsFrom_of_sweep hexec
  have hstart : ∀ c' ∈ s.campaigns, ∃ c ∈ db.campaigns, c'.startDate = c.startDate := by
    intro c' hc'
    obtain ⟨c, hc, _, hwindow⟩ := hfrom c' hc'
    exact ⟨c, hc, congrArg CampaignWindow.startDate hwindow⟩
  have haligned : ∀ c ∈ s.campaigns, ∀ t, c.startDate ≤ t → c.startDate ≤ startOfDay tz t := by
    intro c' hc'
    obtain ⟨c, hc, hsame⟩ := hstart c' hc'
    rw [hsame]
    exact h.aligned c hc
  obtain ⟨mid, hactivated, hended⟩ := sweep_ok hexec
  have hstarted : ∀ c ∈ s.campaigns, c.active = true → c.startDate ≤ now := by
    intro c' hc' hactive
    obtain ⟨hmid, _⟩ := active_after_ends hended hc' hactive
    obtain ⟨c, hc, ⟨hbefore, rfl⟩ | ⟨hdue, rfl⟩⟩ := runsAt_of_mid hdb hactivated hmid hactive
    · exact (h.started c' hc hbefore).trans hclock
    · exact (mem_dueToActivate.mp hdue).2.2.2
  have hapart := hfrom.apart h.apart
  refine ⟨hapart, haligned, hstarted, ?_⟩
  intro c hc d hd hcactive hdactive
  by_contra hne
  have hcstart := haligned c hc now (hstarted c hc hcactive)
  have hdstart := haligned d hd now (hstarted d hd hdactive)
  have hcend := (active_after_ends hended hc hcactive).2
  have hdend := (active_after_ends hended hd hdactive).2
  refine hapart c hc d hd hne rfl (campaignWindowsOverlap_iff.mp ?_)
  exact Bool.and_eq_true_iff.mpr
    ⟨decide_eq_true (hcstart.trans hdend), decide_eq_true (hdstart.trans hcend)⟩

/-- A new campaign starts at a midnight and is scheduled. -/
theorem Calendared.create (h : Calendared tz clock db) (htz : tz.DaysAlign)
    {params : CampaignParams} {window : CampaignWindow} {ids : List Nat}
    (hwindow : windowOf (parseLocalDate tz params.startDate) (parseLocalDate tz params.endDate) =
      .ok window)
    (hover : assertNoWindowOverlap db window none = .ok ()) :
    Calendared tz clock (db.createCampaignRow (newCampaign params window ids)) := by
  refine ⟨windowsApart_created h.apart hover, ?_, ?_, oneActive_of_rows h.oneActive ?_⟩
  · intro c hc
    rcases List.mem_append.mp hc with hold | hnew
    · exact h.aligned c hold
    · rw [List.mem_singleton.mp hnew]
      exact fun now hcome => htz params.startDate _ now (windowOf_ok.mp hwindow).1 hcome
  · exact fun c hc hactive => h.started c (mem_of_created_active hc hactive) hactive
  · exact fun c hc hactive => ⟨c, mem_of_created_active hc hactive, hactive, rfl⟩

/-- An edit moves the start of a scheduled campaign only. -/
theorem Calendared.updateCampaign (h : Calendared tz clock db) (hdb : db.Valid)
    (htz : tz.DaysAlign) {id : Nat} {params : CampaignParams}
    (hexec : (updateCampaign tz id params).exec db = (.ok (), db')) : Calendared tz clock db' := by
  obtain ⟨existing, window, hfound, hwindow, hover, rfl⟩ := updateCampaign_ok.mp hexec
  have hnext := (windowOf_ok.mp hwindow).1
  have hrow : ∀ c' ∈ (db.updateCampaigns (·.id == id) (params.data window)).campaigns,
      ∃ c ∈ db.campaigns, c'.id = c.id ∧ c'.active = c.active ∧
        (c'.startDate = c.startDate ∨
          c.activatedAt = none ∧ parseLocalDate tz params.startDate = some c'.startDate) := by
    intro c' hc'
    obtain ⟨c, hc, rfl⟩ := mem_updateCampaigns.mp hc'
    refine ⟨c, hc, ?_⟩
    split
    · next hsel =>
      have hsame : c = existing :=
        hdb.campaigns.eq_of_key hc (getCampaign_mem hfound).1
          ((beq_iff_eq.mp hsel).trans (getCampaign_mem hfound).2.symm)
      refine ⟨rfl, rfl, ?_⟩
      rw [← hsame] at hnext
      unfold Campaign.nextStart at hnext
      split at hnext
      · exact .inl (Option.some.inj hnext).symm
      · next hscheduled => exact .inr ⟨by simpa using hscheduled, hnext⟩
    · exact ⟨rfl, rfl, .inl rfl⟩
  refine ⟨windowsApart_edited h.apart hover, ?_, ?_, oneActive_of_rows h.oneActive ?_⟩
  · intro c' hc' now hcome
    obtain ⟨c, hc, _, _, hsame | ⟨_, hparsed⟩⟩ := hrow c' hc'
    · rw [hsame] at hcome ⊢
      exact h.aligned c hc now hcome
    · exact htz params.startDate _ now hparsed hcome
  · intro c' hc' hactive
    obtain ⟨c, hc, _, hcactive, hsame | ⟨hscheduled, _⟩⟩ := hrow c' hc'
    · rw [hsame]
      exact h.started c hc (by rw [← hcactive]; exact hactive)
    · rw [hcactive, Campaign.active_iff] at hactive
      simp [hscheduled] at hactive
  · intro c' hc' hactive
    obtain ⟨c, hc, hid, hsame, _⟩ := hrow c' hc'
    exact ⟨c, hc, hsame.symm.trans hactive, hid⟩

/-- A new scope leaves the windows and the stamps alone. -/
theorem Calendared.rescope (h : Calendared tz clock db) {id : Nat} {ids : List Nat} :
    Calendared tz clock (db.updateCampaigns (·.id == id) fun c => { c with scope := ids }) := by
  have hrow : ∀ c' ∈ (db.updateCampaigns (·.id == id) fun c => { c with scope := ids }).campaigns,
      ∃ c ∈ db.campaigns, c'.id = c.id ∧ c'.active = c.active ∧ c'.window = c.window ∧
        c'.startDate = c.startDate := by
    intro c' hc'
    obtain ⟨c, hc, rfl⟩ := mem_updateCampaigns.mp hc'
    refine ⟨c, hc, ?_⟩
    split <;> exact ⟨rfl, rfl, rfl, rfl⟩
  have hfrom : WindowsFrom db (db.updateCampaigns (·.id == id) fun c => { c with scope := ids }) :=
    fun c' hc' => (hrow c' hc').imp fun c hc => ⟨hc.1, hc.2.1, hc.2.2.2.1⟩
  refine ⟨hfrom.apart h.apart, ?_, ?_, oneActive_of_rows h.oneActive ?_⟩
  · intro c' hc'
    obtain ⟨c, hc, _, _, _, hstart⟩ := hrow c' hc'
    rw [hstart]
    exact h.aligned c hc
  · intro c' hc' hactive
    obtain ⟨c, hc, _, hsame, _, hstart⟩ := hrow c' hc'
    rw [hstart]
    exact h.started c hc (by rw [← hsame]; exact hactive)
  · intro c' hc' hactive
    obtain ⟨c, hc, hid, hsame, _⟩ := hrow c' hc'
    exact ⟨c, hc, hsame.symm.trans hactive, hid⟩

/-- What a scope edit does to the campaigns: the new scope and nothing else. -/
theorem applyScopeChange_campaigns {campaign : Campaign} {ids : List Nat}
    (hexec : (applyScopeChange tz campaign ids now).exec db = (.ok (), db')) :
    db'.campaigns =
      (db.updateCampaigns (·.id == campaign.id) fun c => { c with scope := ids }).campaigns := by
  rcases applyScopeChange_ok.mp hexec with ⟨_, hscope⟩ | ⟨_, db₁, hadded, hscope⟩
  · obtain ⟨_, _, rfl⟩ := replaceScope_ok.mp hscope
    rfl
  · have hsame : db₁.campaigns = db.campaigns := by
      rcases startAdded_ok.mp hadded with ⟨_, rfl⟩ | ⟨_, hstart⟩
      · rfl
      · exact startTransition_campaigns hstart
    obtain ⟨_, _, rfl⟩ := replaceScope_ok.mp hscope
    unfold TerritoryDb.updateCampaigns
    rw [← hsame]
    split
    · rfl
    · rw [released_campaigns]

end Calendar

/-! ## Edits keep the work suspended -/

section Edits

variable {tz : LocalTime} {db db' s : TerritoryDb} {clock now : Instant}

theorem mem_entering {xs ys : List Nat} {id : Nat} : id ∈ entering xs ys ↔ id ∈ xs ∧ id ∉ ys := by
  simp [entering]

/-- A row of a territory in the scope that counts. -/
theorem covers_iff_effective {c : Campaign} {territoryId : Nat}
    (hplaced : territoryId ∈ db.listAllTerritoryIds) :
    c.covers territoryId = true ↔ territoryId ∈ db.effective c.scope := by
  unfold Campaign.covers TerritoryDb.effective
  cases c.scope with
  | nil => simp [hplaced]
  | cons x xs => simp

/-- An end transition writes no row on a territory it does not cover. -/
theorem mem_released_outside {campaign : Campaign} {t : CampaignTransition} {a : Attribution}
    (ha : a ∈ (db.released campaign t).attributions) (hopen : a.endDate = none)
    (houtside : t.covers a.territoryId = false) : a ∈ db.attributions := by
  unfold TerritoryDb.released TerritoryDb.pausedReleased at ha
  split at ha
  · rcases mem_updateAttributions_cases ha with ⟨hold, _⟩ | ⟨a₀, _, hsel, rfl⟩
    · exact mem_ownClosed_open hold hopen
    · have hcovers : t.covers a₀.territoryId = false := houtside
      simp [CampaignTransition.pausedByIt, hcovers] at hsel
  · exact mem_ownClosed_open ha hopen
  · rcases mem_updateAttributions_cases ha with ⟨hold, _⟩ | ⟨a₀, _, _, rfl⟩
    · exact mem_ownClosed_open hold hopen
    · simp [Attribution.returnedFromPause] at hopen

/-- Rewritten rows: no row becomes open, regular or unpaused, and none moves. -/
theorem Suspends.rows (h : Suspends db)
    (hcampaigns : db'.campaigns = db.campaigns)
    (hrow : ∀ a' ∈ db'.attributions, a'.openRegular = true → ∃ a ∈ db.attributions,
      a.openRegular = true ∧ a.territoryId = a'.territoryId ∧ a.pausedAt = a'.pausedAt) :
    Suspends db' := by
  intro c hc hactive haction a' ha' hopen hcovers
  obtain ⟨a, ha, hopen₀, hterritory, hpaused⟩ := hrow a' ha' hopen
  rw [hcampaigns] at hc
  rw [← hterritory] at hcovers
  rw [← hpaused]
  exact h c hc hactive haction a ha hopen₀ hcovers

/-- No regular attribution is assigned while a campaign is active. -/
theorem Suspends.assign (h : Suspends db) {params : CreateAttributionParams}
    {territory : Territory} {startDate : Instant}
    (hassignable : Assignable tz db params territory startDate) :
    Suspends (db.createAttribution (newAttribution tz db params territory startDate)) := by
  intro c hc hactive haction a ha hopen hcovers
  rcases List.mem_append.mp ha with hold | hnew
  · exact h c hc hactive haction a hold hopen hcovers
  · rw [List.mem_singleton.mp hnew] at hopen
    have hregular : params.campaignId = none := (Attribution.openRegular_iff.mp hopen).2
    have hmode := hassignable.mode
    rw [hregular] at hmode
    have hnone : db.getActiveCampaign = none := by
      have hrefused := Tx.refuseWhen_ok.mp hmode
      simpa using hrefused
    have hinactive := List.find?_eq_none.mp hnone c hc
    exact absurd hactive hinactive

/-- An edit leaves what a started campaign does to regular work as it is. -/
theorem Suspends.updateCampaign (h : Suspends db) {id : Nat} {params : CampaignParams}
    (hexec : (updateCampaign tz id params).exec db = (.ok (), db')) : Suspends db' := by
  obtain ⟨_, window, _, _, _, rfl⟩ := updateCampaign_ok.mp hexec
  intro c' hc' hactive haction a ha hopen hcovers
  obtain ⟨c, hc, rfl⟩ := mem_updateCampaigns.mp hc'
  split at hactive
  · next hsel =>
    rw [if_pos hsel] at haction hcovers
    have hstarted : c.activatedAt.isSome := (Campaign.active_iff.mp hactive).1
    have hsame : c.startRegularAction = .pause := by
      simpa [CampaignParams.data, hstarted] using haction
    exact h c hc hactive hsame a ha hopen hcovers
  · next hsel =>
    rw [if_neg hsel] at haction hcovers
    exact h c hc hactive haction a ha hopen hcovers

/-- **A scope edit of the one active campaign pauses the work it brings in.** The record `campaign`
is the one read before the edit of the other columns. -/
theorem Suspends.applyScopeChange (h : Suspends db) (hdb : db.Valid) (hplaced : Placed db)
    (hone : ∀ c ∈ db.campaigns, ∀ d ∈ db.campaigns, c.active = true → d.active = true →
      c.id = d.id) {campaign c₁ : Campaign} (hc₁ : c₁ ∈ db.campaigns) (hid : c₁.id = campaign.id)
    (hsameActive : c₁.active = campaign.active) (hsameScope : c₁.scope = campaign.scope)
    (hsameAction : campaign.active = true → c₁.startRegularAction = campaign.startRegularAction)
    {ids : List Nat} (hexec : (applyScopeChange tz campaign ids now).exec db = (.ok (), db')) :
    Suspends db' := by
  have hplaced' : Placed db' := placed_keptByWrites.applyScopeChange.of_ok hexec hplaced
  have hcampaigns := applyScopeChange_campaigns hexec
  intro c' hc' hactive haction a ha hopen hcovers
  rw [hcampaigns] at hc'
  obtain ⟨c, hc, rfl⟩ := mem_updateCampaigns.mp hc'
  rcases applyScopeChange_ok.mp hexec with ⟨hinactive, hscope⟩ | ⟨hrunning, db₁, hadded, hscope⟩
  · -- the campaign edited is not active, so an active one is another
    have hother : ¬(c.id == campaign.id) = true := by
      intro hsel
      have hsame : c = c₁ := hdb.campaigns.eq_of_key hc hc₁ ((beq_iff_eq.mp hsel).trans hid.symm)
      rw [if_pos hsel] at hactive
      have hactive₁ : c.active = true := hactive
      rw [hsame, hsameActive, hinactive] at hactive₁
      exact Bool.noConfusion hactive₁
    rw [if_neg hother] at hactive haction hcovers
    obtain ⟨_, _, rfl⟩ := replaceScope_ok.mp hscope
    exact h c hc hactive haction a ha hopen hcovers
  · have hcactive : c.active = true := by
      split at hactive <;> exact hactive
    have hsame : c = c₁ := hdb.campaigns.eq_of_key hc hc₁
      (hone c hc c₁ hc₁ hcactive (hsameActive.trans hrunning))
    have hsel : (c.id == campaign.id) = true := by
      rw [hsame, hid]
      exact beq_self_eq_true _
    rw [if_pos hsel] at haction hcovers
    have hpause : campaign.startRegularAction = .pause := by
      rw [← hsameAction hrunning, ← hsame]
      exact haction
    obtain ⟨hendNone, hregular⟩ := Attribution.openRegular_iff.mp hopen
    -- the territory is in the scope after the edit, so it is not taken out
    have hnext : a.territoryId ∈ db.effective ids := by
      have hall : a.territoryId ∈ db.listAllTerritoryIds := by
        have hkept : db'.territories = db.territories :=
          territories_keptByWrites.applyScopeChange.of_ok hexec rfl
        have hrow := hplaced' a ha
        unfold TerritoryDb.listAllTerritoryIds at hrow ⊢
        rw [← hkept]
        exact hrow
      exact (covers_iff_effective hall).mp hcovers
    have hnotRemoved : a.territoryId ∉ db.removedBy campaign ids :=
      fun hremoved => (mem_entering.mp hremoved).2 hnext
    have hstarted : a ∈ db₁.attributions := by
      obtain ⟨_, _, rfl⟩ := replaceScope_ok.mp hscope
      rw [updateCampaigns_attributions] at ha
      split at ha
      · exact ha
      · refine mem_released_outside ha hendNone ?_
        simp [CampaignTransition.covers, hnotRemoved]
    have hcase : a.territoryId ∈ db.addedBy campaign ids ∨
        a.territoryId ∉ db.addedBy campaign ids ∧ a.territoryId ∈ db.effective campaign.scope := by
      by_cases hcurrent : a.territoryId ∈ db.effective campaign.scope
      · exact .inr ⟨fun hin => (mem_entering.mp hin).2 hcurrent, hcurrent⟩
      · exact .inl (mem_entering.mpr ⟨hnext, hcurrent⟩)
    rcases hcase with hin | ⟨hnotIn, hcurrent⟩
    · -- brought in: the start transition paused it
      rcases startAdded_ok.mp hadded with ⟨hnil, _⟩ | ⟨_, hstart⟩
      · rw [hnil] at hin
        exact absurd hin List.not_mem_nil
      · have hmem := startTransition_regular hstart hstarted hregular
        unfold TerritoryDb.started at hmem
        rw [hpause] at hmem
        rcases mem_updateAttributions_cases hmem with ⟨hold, hunselected⟩ | ⟨a₀, _, _, rfl⟩
        · by_contra hunpaused
          have hopenSel : (CampaignTransition.openRegulars
              ⟨campaign.id, some (db.addedBy campaign ids), now⟩ a) = true := by
            refine openRegulars_iff.mpr ⟨hendNone, hregular, by simpa using hunpaused, ?_⟩
            simp [CampaignTransition.covers, hin]
          rw [hopenSel] at hunselected
          exact Bool.noConfusion hunselected
        · rfl
    · -- in the scope before: paused before, and left alone
      have hold : a ∈ db.attributions := by
        rcases startAdded_ok.mp hadded with ⟨_, rfl⟩ | ⟨_, hstart⟩
        · exact hstarted
        · refine startTransition_outside hstart hstarted ?_
          simp [CampaignTransition.covers, hnotIn]
      refine h c hc hcactive haction a hold hopen ?_
      rw [hsame, covers_iff_effective (hplaced a hold), hsameScope]
      exact hcurrent

end Edits

/-! ## Runs -/

/-- The store, and the instant of the last sweep. -/
structure Clocked where
  db : TerritoryDb
  clock : Instant
deriving DecidableEq, Repr

def Request.clock (clock : Instant) : Request → Instant
  | .sweep now => now
  | _ => clock

def Clocked.step (tz : LocalTime) (w : Clocked) (request : Request) : Clocked :=
  ⟨Territories.step tz w.db request, request.clock w.clock⟩

/-- The requests of the law: sweeps at non-decreasing instants, and between them the creation and
the edit of campaigns, and assigning, editing and returning attributions. -/
def Request.BetweenSweeps (w : Clocked) : Request → Prop
  | .assign _ | .update _ _ | .markReturned _ _ => True
  | .createCampaign _ _ | .editCampaign _ _ _ _ => True
  | .sweep now => w.clock ≤ now
  | _ => False

instance (w : Clocked) (request : Request) : Decidable (request.BetweenSweeps w) :=
  match request with
  | .sweep now => inferInstanceAs (Decidable (w.clock ≤ now))
  | .assign .. | .update .. | .markReturned .. | .createCampaign .. | .editCampaign .. => .isTrue trivial
  | .markReturnedForPublisher .. | .pause .. | .resume .. | .updateCampaign ..
  | .deleteCampaign .. | .activateCampaign .. | .endCampaign .. | .applyScopeChange .. => .isFalse id

/-- A sweep resumes, for a campaign that is over, no row that one still running should hold. -/
def Request.SparesSuspended (tz : LocalTime) (w : Clocked) : Request → Prop
  | .sweep now => ¬Collides tz now w.db
  | _ => True

instance (tz : LocalTime) (w : Clocked) (request : Request) :
    Decidable (request.SparesSuspended tz w) :=
  match request with
  | .sweep now => inferInstanceAs (Decidable (¬Collides tz now w.db))
  | .assign .. | .update .. | .markReturned .. | .markReturnedForPublisher .. | .pause ..
  | .resume .. | .createCampaign .. | .updateCampaign .. | .deleteCampaign ..
  | .activateCampaign .. | .endCampaign .. | .applyScopeChange .. | .editCampaign .. => .isTrue trivial

/-- The state between two requests. -/
structure AtRest (tz : LocalTime) (w : Clocked) : Prop where
  valid : w.db.Valid
  placed : Placed w.db
  calendared : Calendared tz w.clock w.db
  suspends : Suspends w.db

section Runs

variable {tz : LocalTime} {db db' : TerritoryDb} {start w : Clocked} {clock : Instant}

/-- The edit form: the other columns first, then the scope on the record read before. -/
theorem Suspends.editCampaign (h : Suspends db) (hdb : db.Valid) (hplaced : Placed db)
    (hcalendar : Calendared tz clock db) (htz : tz.DaysAlign) {campaign : Campaign} {id : Nat}
    {params : CampaignParams} {ids : List Nat} {now : Instant}
    (hfound : db.getCampaign id = some campaign) {db₁ : TerritoryDb}
    (hupdate : (Territories.updateCampaign tz id params).exec db = (.ok (), db₁))
    (hscope : (Territories.applyScopeChange tz campaign ids now).exec db₁ = (.ok (), db')) :
    Suspends db' := by
  have hdb₁ : db₁.Valid := valid_keptByWrites.updateCampaign.of_ok hupdate hdb
  have hplaced₁ : Placed db₁ := placed_keptByWrites.updateCampaign.of_ok hupdate hplaced
  have hcalendar₁ := hcalendar.updateCampaign hdb htz hupdate
  have hsuspends₁ := h.updateCampaign hupdate
  obtain ⟨hcampaign, hid⟩ := getCampaign_mem hfound
  obtain ⟨_, window, _, _, _, rfl⟩ := updateCampaign_ok.mp hupdate
  have hedited : params.data window campaign ∈
      (db.updateCampaigns (·.id == id) (params.data window)).campaigns :=
    mem_updateCampaigns.mpr ⟨campaign, hcampaign, if_pos (beq_iff_eq.mpr hid)⟩
  have hsameId : (params.data window campaign).id = campaign.id := rfl
  have hsameActive : (params.data window campaign).active = campaign.active := rfl
  have hsameScope : (params.data window campaign).scope = campaign.scope := rfl
  have hsameAction : campaign.active = true →
      (params.data window campaign).startRegularAction = campaign.startRegularAction :=
    fun hactive => if_pos (Campaign.active_iff.mp hactive).1
  exact hsuspends₁.applyScopeChange hdb₁ hplaced₁ hcalendar₁.oneActive hedited hsameId hsameActive
    hsameScope hsameAction hscope

theorem Calendared.request (h : Calendared tz w.clock w.db) (hdb : w.db.Valid) (htz : tz.DaysAlign)
    {request : Request} (hrequest : request.BetweenSweeps w)
    (hexec : (request.run tz).exec w.db = (.ok (), db')) :
    Calendared tz (request.clock w.clock) db' := by
  cases request with
  | assign params =>
    obtain ⟨_, _, _, rfl⟩ := assign_ok.mp hexec
    exact h.congr rfl
  | update id params =>
    obtain ⟨_, rfl⟩ := update_ok.mp hexec
    exact h.congr rfl
  | markReturned id endDate =>
    obtain ⟨_, rfl⟩ := updateAttributionRow_ok.mp hexec
    exact h.congr rfl
  | createCampaign params ids =>
    obtain ⟨window, hwindow, hover, rfl⟩ := runCreateCampaign_ok hexec
    exact h.create htz hwindow hover
  | editCampaign id params ids now =>
    rcases withCampaign_ok.mp hexec with ⟨_, rfl⟩ | ⟨c, _, hbody⟩
    · exact h
    · obtain ⟨db₁, hupdate, hscope⟩ := Tx.exec_seq_ok.mp hbody
      have h₁ := h.updateCampaign hdb htz hupdate
      exact h₁.rescope.congr (applyScopeChange_campaigns hscope)
  | sweep now => exact h.sweep hdb hrequest hexec
  | _ => exact hrequest.elim

theorem Suspends.request (h : AtRest tz w) (htz : tz.DaysAlign) {request : Request}
    (hrequest : request.BetweenSweeps w) (hspares : request.SparesSuspended tz w)
    (hexec : (request.run tz).exec w.db = (.ok (), db')) : Suspends db' := by
  cases request with
  | assign params =>
    obtain ⟨_, _, hassignable, rfl⟩ := assign_ok.mp hexec
    exact h.suspends.assign hassignable
  | update id params =>
    obtain ⟨_, rfl⟩ := update_ok.mp hexec
    refine h.suspends.rows rfl fun a' ha' hopen => ?_
    rcases mem_updateAttributions_cases ha' with ⟨hold, _⟩ | ⟨a, ha, _, rfl⟩
    · exact ⟨a', hold, hopen, rfl, rfl⟩
    · -- an edit reopens nothing: without an end date of its own it keeps the one there
      obtain ⟨hend, hregular⟩ := Attribution.openRegular_iff.mp hopen
      refine ⟨a, ha, Attribution.openRegular_iff.mpr ⟨?_, hregular⟩, rfl, rfl⟩
      have hnext : params.nextEnd a = none := hend
      unfold UpdateAttributionParams.nextEnd at hnext
      cases hsubmitted : params.endDate with
      | none => rwa [hsubmitted] at hnext
      | some endDate =>
        rw [hsubmitted] at hnext
        exact absurd hnext (by simp)
  | markReturned id endDate =>
    obtain ⟨_, rfl⟩ := updateAttributionRow_ok.mp hexec
    refine h.suspends.rows rfl fun a' ha' hopen => ?_
    rcases mem_updateAttributions_cases ha' with ⟨hold, _⟩ | ⟨a, _, _, rfl⟩
    · exact ⟨a', hold, hopen, rfl, rfl⟩
    · exact absurd hopen (by simp [Attribution.openRegular, Attribution.returned])
  | createCampaign params ids =>
    obtain ⟨window, _, _, rfl⟩ := runCreateCampaign_ok hexec
    exact fun c hc hactive => h.suspends c (mem_of_created_active hc hactive) hactive
  | editCampaign id params ids now =>
    rcases withCampaign_ok.mp hexec with ⟨_, rfl⟩ | ⟨c, hfound, hbody⟩
    · exact h.suspends
    · obtain ⟨db₁, hupdate, hscope⟩ := Tx.exec_seq_ok.mp hbody
      exact Suspends.editCampaign h.suspends h.valid h.placed h.calendared htz hfound hupdate
        hscope
  | sweep now => exact h.suspends.sweep h.valid hspares hexec
  | _ => exact hrequest.elim

theorem AtRest.step (h : AtRest tz w) (htz : tz.DaysAlign) {request : Request}
    (hrequest : request.BetweenSweeps w) (hspares : request.SparesSuspended tz w) :
    AtRest tz (w.step tz request) := by
  have hvalid := step_valid tz request h.valid
  have hplaced := step_placed tz request h.placed
  rcases step_cases tz w.db request with hexec | hsame
  · exact ⟨hvalid, hplaced, h.calendared.request h.valid htz hrequest hexec,
      Suspends.request h htz hrequest hspares hexec⟩
  · -- refused: at most the clock moves on
    have hclock : w.clock ≤ request.clock w.clock := by
      cases request <;> first | exact le_rfl | exact hrequest
    refine ⟨hvalid, hplaced, Calendared.congr ⟨h.calendared.apart, h.calendared.aligned,
      fun c hc hactive => (h.calendared.started c hc hactive).trans hclock,
      h.calendared.oneActive⟩ (congrArg TerritoryDb.campaigns hsame), ?_⟩
    show Suspends (Territories.step tz w.db request)
    rw [hsame]
    exact h.suspends

/-- **A pausing campaign suspends regular work while it runs**, in every state reached by sweeps at
non-decreasing instants and edits between them, as long as no sweep resumes for a campaign that is
over a row that one still running should hold. -/
theorem suspended_of_run (htz : tz.DaysAlign) (h₀ : AtRest tz start)
    (hrun : Reach (Clocked.step tz)
      (fun w request => request.BetweenSweeps w ∧ request.SparesSuspended tz w) start w) :
    ∀ c ∈ w.db.campaigns, c.active = true → c.startRegularAction = .pause →
      ∀ a ∈ w.db.attributions, a.endDate = none → a.campaignId = none →
        a.territoryId ∈ w.db.effective c.scope → a.pausedAt.isSome := by
  have hrest : AtRest tz w :=
    hrun.invariant (I := AtRest tz) h₀ fun w request h hok => h.step htz hok.1 hok.2
  intro c hc hactive haction a ha hend hregular hin
  exact hrest.suspends c hc hactive haction a ha
    (Attribution.openRegular_iff.mpr ⟨hend, hregular⟩)
    ((covers_iff_effective (hrest.placed a ha)).mpr hin)

end Runs

/-- A regular attribution, a campaign from the 5th to the 9th and one right after it. -/
def backToBack : List Request :=
  [takeOn "2025-03-01", .createCampaign (campaignOver "2025-03-05" "2025-03-09" .pause) [],
    .createCampaign (campaignOver "2025-03-10" "2025-03-15" .pause) []]

def afterSweeps (requests : List Request) : Clocked :=
  (backToBack ++ requests).foldl (Clocked.step .utc) ⟨oneTerritory, march 1⟩

/-- On the day the second campaign starts the row is still paused by the first, whose end, in the
same sweep, resumes it. -/
theorem suspension_broken :
    Reach (Clocked.step .utc) (fun w request => request.BetweenSweeps w) ⟨oneTerritory, march 1⟩
      (afterSweeps [.sweep (march 5), .sweep (march 10)]) ∧
    ∃ c ∈ (afterSweeps [.sweep (march 5), .sweep (march 10)]).db.campaigns, c.active = true ∧
      c.startRegularAction = .pause ∧
      ∃ a ∈ (afterSweeps [.sweep (march 5), .sweep (march 10)]).db.attributions,
        a.endDate = none ∧ a.campaignId = none ∧
          a.territoryId ∈
            (afterSweeps [.sweep (march 5), .sweep (march 10)]).db.effective c.scope ∧
          a.pausedAt = none :=
  ⟨.foldl (by decide +kernel), by decide +kernel⟩

/-- A sweep in time for the first campaign alone. -/
theorem suspended_of_run_first :
    Guarded (Clocked.step .utc)
        (fun w request => request.BetweenSweeps w ∧ request.SparesSuspended .utc w)
        ⟨oneTerritory, march 1⟩ (backToBack ++ [.sweep (march 5)]) ∧
      ∀ c ∈ (afterSweeps [.sweep (march 5)]).db.campaigns, c.active = true →
        c.startRegularAction = .pause →
        ∀ a ∈ (afterSweeps [.sweep (march 5)]).db.attributions, a.endDate = none →
          a.campaignId = none →
          a.territoryId ∈ (afterSweeps [.sweep (march 5)]).db.effective c.scope →
            a.pausedAt.isSome :=
  have hrun : Guarded (Clocked.step .utc)
      (fun w request => request.BetweenSweeps w ∧ request.SparesSuspended .utc w)
      ⟨oneTerritory, march 1⟩ (backToBack ++ [.sweep (march 5)]) := by decide +kernel
  ⟨hrun, suspended_of_run LocalTime.utc_daysAlign
    ⟨by decide, by decide, ⟨by decide, fun _ hc => absurd hc List.not_mem_nil, by decide, by decide⟩,
      by decide⟩ (.foldl hrun)⟩

end Unitae.Territories
