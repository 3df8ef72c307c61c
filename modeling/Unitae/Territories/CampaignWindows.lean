import Unitae.Territories.PauseBookkeeping

/-!
# Unitae — one campaign at a time

The comment on `campaignWindowsOverlap` promises that at most one campaign can hold any given day,
and `getActiveCampaign` takes the first active campaign it finds for the only one. The windows do
stay disjoint, whatever is requested. That a window runs forward is checked by the form alone, and
against the start date typed, which a started campaign does not take; and the sweep activates what
is due before it ends what is over, so two campaigns on consecutive days are both active while the
second one's reassignments ask which campaign is.

`windows_of_run` states the law for the states reached and for those a sweep passes through.
-/

namespace Unitae.Territories

/-- The windows run forward and apart, and at most one campaign is active. -/
structure CampaignsKept (db : TerritoryDb) : Prop where
  forward : ∀ c ∈ db.campaigns, c.startDate ≤ c.endDate
  apart : Apart Campaign.id (fun _ => ()) (fun c => c.window.span) db.campaigns
  oneActive : ∀ c ∈ db.campaigns, ∀ d ∈ db.campaigns, c.active = true → d.active = true →
    c.id = d.id

instance (db : TerritoryDb) : Decidable (CampaignsKept db) :=
  decidable_of_iff ((∀ c ∈ db.campaigns, c.startDate ≤ c.endDate) ∧
      Apart Campaign.id (fun _ => ()) (fun c => c.window.span) db.campaigns ∧
      ∀ c ∈ db.campaigns, ∀ d ∈ db.campaigns, c.active = true → d.active = true → c.id = d.id)
    ⟨fun ⟨h₁, h₂, h₃⟩ => ⟨h₁, h₂, h₃⟩, fun ⟨h₁, h₂, h₃⟩ => ⟨h₁, h₂, h₃⟩⟩

/-- No campaign is active. -/
def NoneActive (db : TerritoryDb) : Prop := ∀ c ∈ db.campaigns, c.active = false

instance (db : TerritoryDb) : Decidable (NoneActive db) := inferInstanceAs (Decidable (∀ _ ∈ _, _))

/-! ## The attribution services leave the campaigns alone -/

section Frame

variable {tz : LocalTime} {db db' : TerritoryDb} {campaign : Campaign} {t : CampaignTransition}

@[simp] theorem started_campaigns : (db.started campaign t).campaigns = db.campaigns := by
  unfold TerritoryDb.started
  split <;> rfl

@[simp] theorem ownClosed_campaigns : (db.ownClosed campaign t).campaigns = db.campaigns := by
  unfold TerritoryDb.ownClosed
  split <;> rfl

@[simp] theorem released_campaigns : (db.released campaign t).campaigns = db.campaigns := by
  unfold TerritoryDb.released TerritoryDb.pausedReleased
  split <;> simp

theorem reassign_campaigns {now : Instant} {rows : List Attribution}
    (h : (reassignIntoCampaign tz campaign now rows).exec db = (.ok (), db')) :
    db'.campaigns = db.campaigns := by
  have hkeeps : Tx.Keeps (fun s : TerritoryDb => s.campaigns = db.campaigns)
      (reassignIntoCampaign tz campaign now rows) :=
    reassign_keeps fun _ _ _ _ _ hs _ => hs
  exact hkeeps.of_ok h rfl

theorem startTransition_campaigns
    (h : (startTransition tz campaign t).exec db = (.ok (), db')) :
    db'.campaigns = db.campaigns := by
  rw [startTransition_exec] at h
  rw [reassign_campaigns h, started_campaigns]

end Frame

/-! ## Writes -/

section Writes

variable {tz : LocalTime} {db db' : TerritoryDb} {csel : Campaign → Bool}
  {cdata : Campaign → Campaign} {now : Instant}

theorem CampaignsKept.congr (h : CampaignsKept db) (hcampaigns : db'.campaigns = db.campaigns) :
    CampaignsKept db' :=
  ⟨by rw [hcampaigns]; exact h.forward, by rw [hcampaigns]; exact h.apart,
    by rw [hcampaigns]; exact h.oneActive⟩

/-- A write that leaves the windows alone. -/
theorem CampaignsKept.of_rows (h : CampaignsKept db)
    (hrow : ∀ c' ∈ db'.campaigns, ∃ c ∈ db.campaigns, c'.id = c.id ∧ c'.window = c.window)
    (hone : ∀ c ∈ db'.campaigns, ∀ d ∈ db'.campaigns, c.active = true → d.active = true →
      c.id = d.id) : CampaignsKept db' := by
  refine ⟨?_, windowsApart_of_rows h.apart hrow, hone⟩
  intro c' hc'
  obtain ⟨c, hc, _, hwindow⟩ := hrow c' hc'
  rw [show c'.startDate = c.startDate from congrArg CampaignWindow.startDate hwindow,
    show c'.endDate = c.endDate from congrArg CampaignWindow.endDate hwindow]
  exact h.forward c hc

/-- A write that leaves the windows alone and activates nothing. -/
theorem CampaignsKept.sameWindows (h : CampaignsKept db) (hid : ∀ c, (cdata c).id = c.id)
    (hwindow : ∀ c, (cdata c).window = c.window)
    (hactive : ∀ c, (cdata c).active = true → c.active = true) :
    CampaignsKept (db.updateCampaigns csel cdata) := by
  have hrow : ∀ c' ∈ (db.updateCampaigns csel cdata).campaigns, ∃ c ∈ db.campaigns,
      c'.id = c.id ∧ c'.window = c.window ∧ (c'.active = true → c.active = true) := by
    intro c' hc'
    obtain ⟨c, hc, rfl⟩ := mem_updateCampaigns.mp hc'
    refine ⟨c, hc, ?_⟩
    split
    · exact ⟨hid c, hwindow c, hactive c⟩
    · exact ⟨rfl, rfl, id⟩
  refine h.of_rows (fun c' hc' => ?_) (oneActive_of_rows h.oneActive fun c' hc' hactive' => ?_)
  · obtain ⟨c, hc, hcid, hcwindow, _⟩ := hrow c' hc'
    exact ⟨c, hc, hcid, hcwindow⟩
  · obtain ⟨c, hc, hcid, _, hkept⟩ := hrow c' hc'
    exact ⟨c, hc, hkept hactive', hcid⟩

theorem CampaignsKept.stampEnded (h : CampaignsKept db) (id : Nat) (now : Instant) :
    CampaignsKept (db.stampEnded id now) :=
  h.sameWindows (fun _ => rfl) (fun _ => rfl) fun c hactive => by simp [Campaign.active] at hactive

/-- The stamp of a campaign while none is active. -/
theorem CampaignsKept.stampActivated (h : CampaignsKept db) (hnone : NoneActive db) (id : Nat)
    (now : Instant) : CampaignsKept (db.stampActivated id now) := by
  have hrow : ∀ c' ∈ (db.stampActivated id now).campaigns, ∃ c ∈ db.campaigns,
      c'.id = c.id ∧ c'.window = c.window ∧ (c'.active = true → c.id = id) := by
    intro c' hc'
    obtain ⟨c, hc, rfl⟩ := mem_updateCampaigns.mp hc'
    refine ⟨c, hc, ?_⟩
    split
    · next hsel => exact ⟨rfl, rfl, fun _ => by simpa using hsel⟩
    · exact ⟨rfl, rfl, fun hactive => by simp [hnone c hc] at hactive⟩
  refine h.of_rows (fun c' hc' => ?_) ?_
  · obtain ⟨c, hc, hcid, hcwindow, _⟩ := hrow c' hc'
    exact ⟨c, hc, hcid, hcwindow⟩
  · intro c' hc' d' hd' hcactive hdactive
    obtain ⟨c, hc, hcid, _, hcsel⟩ := hrow c' hc'
    obtain ⟨d, hd, hdid, _, hdsel⟩ := hrow d' hd'
    rw [hcid, hdid, hcsel hcactive, hdsel hdactive]

/-- A new campaign's window is checked against every other; that it runs forward is not checked. -/
theorem CampaignsKept.create (h : CampaignsKept db) {params : CampaignParams}
    {window : CampaignWindow} {ids : List Nat}
    (hover : assertNoWindowOverlap db window none = .ok ())
    (hforward : window.startDate ≤ window.endDate) :
    CampaignsKept (db.createCampaignRow (newCampaign params window ids)) := by
  refine ⟨?_, windowsApart_created h.apart hover, oneActive_of_rows h.oneActive ?_⟩
  · intro c hc
    rcases List.mem_append.mp hc with hold | hnew
    · exact h.forward c hold
    · rw [List.mem_singleton.mp hnew]
      exact hforward
  · exact fun c hc hactive => ⟨c, mem_of_created_active hc hactive, hactive, rfl⟩

theorem CampaignsKept.edit (h : CampaignsKept db) {id : Nat} {params : CampaignParams}
    {window : CampaignWindow} (hover : assertNoWindowOverlap db window (some id) = .ok ())
    (hforward : window.startDate ≤ window.endDate) :
    CampaignsKept (db.updateCampaigns (·.id == id) (params.data window)) := by
  refine ⟨?_, windowsApart_edited h.apart hover, oneActive_of_rows h.oneActive ?_⟩
  · intro c' hc'
    obtain ⟨c, hc, rfl⟩ := mem_updateCampaigns.mp hc'
    split
    · exact hforward
    · exact h.forward c hc
  · intro c' hc' hactive
    obtain ⟨c, hc, rfl⟩ := mem_updateCampaigns.mp hc'
    refine ⟨c, hc, ?_⟩
    split at hactive
    next hsel => exact ⟨hactive, by rw [if_pos hsel]; rfl⟩
    next hsel => exact ⟨hactive, by rw [if_neg hsel]⟩

theorem endCampaign_campaignsKept {campaign : Campaign} :
    Tx.Keeps CampaignsKept (endCampaign campaign now) := by
  unfold endCampaign
  split
  · exact Tx.keeps_pure _
  · refine Tx.Keeps.bind ?_ fun _ => ?_
    · exact Tx.keeps_checked fun _ _ h _ => h.stampEnded campaign.id now
    · intro s hs
      rw [endTransition_exec]
      exact hs.congr released_campaigns

theorem CampaignsKept.activate (h : CampaignsKept db) {campaign : Campaign}
    (hnone : campaign.activatedAt = none → NoneActive db)
    (hexec : (activateCampaign tz campaign now).exec db = (.ok (), db')) : CampaignsKept db' := by
  rcases activateCampaign_ok.mp hexec with ⟨_, rfl⟩ | ⟨hscheduled, _, hstart⟩
  · exact h
  · exact (h.stampActivated (hnone hscheduled) campaign.id now).congr
      (startTransition_campaigns hstart)

theorem CampaignsKept.applyScopeChange (h : CampaignsKept db) {campaign : Campaign}
    {ids : List Nat}
    (hexec : (applyScopeChange tz campaign ids now).exec db = (.ok (), db')) :
    CampaignsKept db' := by
  have hscoped : ∀ {s : TerritoryDb}, s.campaigns = db.campaigns →
      (replaceScope campaign.id ids).exec s = (.ok (), db') → CampaignsKept db' := by
    intro s hsame hscope
    obtain ⟨_, _, rfl⟩ := replaceScope_ok.mp hscope
    exact (h.congr hsame).sameWindows (fun _ => rfl) (fun _ => rfl) fun _ hactive => hactive
  rcases applyScopeChange_ok.mp hexec with ⟨_, hscope⟩ | ⟨_, db₁, hadded, hscope⟩
  · exact hscoped rfl hscope
  · have hsame : db₁.campaigns = db.campaigns := by
      rcases startAdded_ok.mp hadded with ⟨_, rfl⟩ | ⟨_, hstart⟩
      · rfl
      · exact startTransition_campaigns hstart
    refine hscoped ?_ hscope
    split
    · exact hsame
    · rw [released_campaigns]
      exact hsame

end Writes

/-! ## The states a sweep passes through -/

/-- The states in which a sweep asks for the active campaign or goes on to the next one: before each
reassignment of each campaign it activates, after its last, and after each campaign it ends. -/
inductive SweepState (tz : LocalTime) (now : Instant) (db : TerritoryDb) : TerritoryDb → Prop where
  | activating {done rest : List Campaign} {c : Campaign} {s₁ s : TerritoryDb} (k : Nat)
      (hdue : db.getCampaignsDueToActivate now = done ++ c :: rest)
      (hdone : (done.forM fun campaign => activateCampaign tz campaign now).exec db =
        (.ok (), s₁))
      (hassigned : (reassignIntoCampaign tz c now
          ((c.reassigned (c.transition now) (s₁.stampActivated c.id now)).take k)).exec
        ((s₁.stampActivated c.id now).started c (c.transition now)) = (.ok (), s)) :
      SweepState tz now db s
  | ending {done rest : List Campaign} {s₁ s : TerritoryDb}
      (hactivated : ((db.getCampaignsDueToActivate now).forM fun campaign =>
        activateCampaign tz campaign now).exec db = (.ok (), s₁))
      (hdue : s₁.getCampaignsDueToEnd tz now = done ++ rest)
      (hdone : (done.forM fun campaign => endCampaign campaign now).exec s₁ = (.ok (), s)) :
      SweepState tz now db s

/-- A campaign due is the only one due, and no campaign is active. -/
def OneDue (now : Instant) (db : TerritoryDb) : Prop :=
  db.getCampaignsDueToActivate now = [] ∨
    (db.getCampaignsDueToActivate now).length = 1 ∧ NoneActive db

instance (now : Instant) (db : TerritoryDb) : Decidable (OneDue now db) :=
  inferInstanceAs (Decidable (_ ∨ _ ∧ _))

section Sweep

variable {tz : LocalTime} {db s : TerritoryDb} {now : Instant}

theorem CampaignsKept.activations (h : CampaignsKept db) (hdue : OneDue now db)
    (hexec : ((db.getCampaignsDueToActivate now).forM fun campaign =>
      activateCampaign tz campaign now).exec db = (.ok (), s)) : CampaignsKept s := by
  rcases hdue with hnone | ⟨hone, hinactive⟩
  · rw [hnone] at hexec
    have hsame : db = s := congrArg Prod.snd hexec
    rw [← hsame]
    exact h
  · obtain ⟨c, hc⟩ := List.length_eq_one_iff.mp hone
    rw [hc] at hexec
    have hsingle : (activateCampaign tz c now >>= fun _ => pure ()).exec db = (.ok (), s) := hexec
    obtain ⟨s₁, hactivate, hret⟩ := Tx.exec_seq_ok.mp hsingle
    obtain ⟨_, rfl⟩ := Tx.exec_pure_ok.mp hret
    exact h.activate (fun _ => hinactive) hactivate

/-- The law holds in every state a sweep passes through. -/
theorem SweepState.campaignsKept (hstate : SweepState tz now db s) (h : CampaignsKept db)
    (hdue : OneDue now db) : CampaignsKept s := by
  cases hstate with
  | @activating done rest c s₁ _ k hlist hdone hassigned =>
    rcases hdue with hnone | ⟨hone, hinactive⟩
    · rw [hnone] at hlist
      exact absurd hlist (by simp)
    · -- the campaign is the only one due, so nothing was activated before it
      rw [hlist] at hone
      have hempty : done = [] := by
        rw [List.length_append, List.length_cons] at hone
        exact List.length_eq_zero_iff.mp (by omega)
      subst hempty
      obtain rfl : db = s₁ := congrArg Prod.snd hdone
      refine (h.stampActivated hinactive c.id now).congr ?_
      rw [reassign_campaigns hassigned, started_campaigns]
  | @ending done rest s₁ _ hactivated hlist hdone =>
    have hkeeps : Tx.Keeps CampaignsKept (done.forM fun campaign => endCampaign campaign now) :=
      .forM fun _ _ => endCampaign_campaignsKept
    exact hkeeps.of_ok hdone (h.activations hdue hactivated)

theorem CampaignsKept.sweep (h : CampaignsKept db) (hdue : OneDue now db)
    (hexec : (runCampaignLifecycleSweep tz now).exec db = (.ok (), s)) : CampaignsKept s := by
  unfold runCampaignLifecycleSweep at hexec
  rw [Tx.exec_bind_get] at hexec
  obtain ⟨s₁, hactivated, hrest⟩ := Tx.exec_seq_ok.mp hexec
  rw [Tx.exec_bind_get] at hrest
  exact SweepState.campaignsKept (.ending hactivated (List.append_nil _).symm hrest) h hdue

end Sweep

/-! ## Runs -/

/-- Of a window about to be stored: unless it is refused, it runs forward. -/
def StoresForward (db : TerritoryDb) (excludeId : Option Nat) :
    Except Failure CampaignWindow → Prop
  | .ok window =>
    assertNoWindowOverlap db window excludeId = .ok () → window.startDate ≤ window.endDate
  | .error _ => True

instance (db : TerritoryDb) (excludeId : Option Nat) (window : Except Failure CampaignWindow) :
    Decidable (StoresForward db excludeId window) := by
  cases window <;> unfold StoresForward <;> infer_instance

/-- The request stores a window that runs forward, and activates a campaign only while none is. -/
def Request.KeepsWindows (tz : LocalTime) (db : TerritoryDb) : Request → Prop
  | .createCampaign params _ => StoresForward db none
      (windowOf (parseLocalDate tz params.startDate) (parseLocalDate tz params.endDate))
  | .updateCampaign id params | .editCampaign id params _ _ => ∀ c ∈ db.getCampaign id,
      StoresForward db (some id)
        (windowOf (c.nextStart tz params) (parseLocalDate tz params.endDate))
  | .activateCampaign id _ => ∀ c ∈ db.getCampaign id, c.activatedAt = none → NoneActive db
  | .sweep now => OneDue now db
  | _ => True

instance (tz : LocalTime) (db : TerritoryDb) (request : Request) :
    Decidable (request.KeepsWindows tz db) :=
  match request with
  | .createCampaign .. | .updateCampaign .. | .editCampaign .. | .activateCampaign .. | .sweep .. => by
    unfold Request.KeepsWindows
    infer_instance
  | .assign .. | .update .. | .markReturned .. | .markReturnedForPublisher .. | .pause ..
  | .resume .. | .deleteCampaign .. | .endCampaign .. | .applyScopeChange .. => .isTrue trivial

section Runs

variable {tz : LocalTime} {db db' start s : TerritoryDb}

theorem CampaignsKept.updateCampaign (h : CampaignsKept db) {id : Nat} {params : CampaignParams}
    (hkeeps : ∀ c ∈ db.getCampaign id, StoresForward db (some id)
      (windowOf (c.nextStart tz params) (parseLocalDate tz params.endDate)))
    (hexec : (updateCampaign tz id params).exec db = (.ok (), db')) : CampaignsKept db' := by
  obtain ⟨existing, window, hfound, hwindow, hover, rfl⟩ := updateCampaign_ok.mp hexec
  have hforward := hkeeps existing hfound
  rw [hwindow] at hforward
  exact h.edit hover (hforward hover)

theorem CampaignsKept.request (h : CampaignsKept db) {request : Request}
    (hkeeps : request.KeepsWindows tz db)
    (hexec : (request.run tz).exec db = (.ok (), db')) : CampaignsKept db' := by
  cases request with
  | assign params =>
    obtain ⟨_, _, _, rfl⟩ := assign_ok.mp hexec
    exact h.congr rfl
  | update id params =>
    obtain ⟨_, rfl⟩ := update_ok.mp hexec
    exact h.congr rfl
  | markReturned id endDate =>
    obtain ⟨_, rfl⟩ := updateAttributionRow_ok.mp hexec
    exact h.congr rfl
  | markReturnedForPublisher publisherId endDate =>
    obtain rfl : _ = db' := congrArg Prod.snd hexec
    exact h.congr rfl
  | pause id campaignId now =>
    obtain ⟨_, rfl⟩ := pause_ok.mp hexec
    exact h.congr rfl
  | resume id now =>
    obtain ⟨_, rfl⟩ := resume_ok.mp hexec
    exact h.congr rfl
  | createCampaign params ids =>
    obtain ⟨window, hwindow, hover, rfl⟩ := runCreateCampaign_ok hexec
    have hforward : StoresForward db none
        (windowOf (parseLocalDate tz params.startDate) (parseLocalDate tz params.endDate)) := hkeeps
    rw [hwindow] at hforward
    exact h.create hover (hforward hover)
  | updateCampaign id params => exact h.updateCampaign hkeeps hexec
  | deleteCampaign id =>
    obtain ⟨_, rfl⟩ := deleteCampaign_ok.mp hexec
    exact ⟨fun c hc => h.forward c (List.mem_of_mem_filter hc), h.apart.filter _,
      fun c hc d hd => h.oneActive c (List.mem_of_mem_filter hc) d (List.mem_of_mem_filter hd)⟩
  | activateCampaign id now =>
    rcases withCampaign_ok.mp hexec with ⟨_, rfl⟩ | ⟨c, hfound, hbody⟩
    · exact h
    · exact h.activate (hkeeps c hfound) hbody
  | endCampaign id now =>
    rcases withCampaign_ok.mp hexec with ⟨_, rfl⟩ | ⟨c, hfound, hbody⟩
    · exact h
    · exact endCampaign_campaignsKept.of_ok hbody h
  | applyScopeChange id ids now =>
    rcases withCampaign_ok.mp hexec with ⟨_, rfl⟩ | ⟨c, hfound, hbody⟩
    · exact h
    · exact h.applyScopeChange hbody
  | editCampaign id params ids now =>
    rcases withCampaign_ok.mp hexec with ⟨_, rfl⟩ | ⟨c, hfound, hbody⟩
    · exact h
    · obtain ⟨db₁, hupdate, hscope⟩ := Tx.exec_seq_ok.mp hbody
      exact (h.updateCampaign hkeeps hupdate).applyScopeChange hscope
  | sweep now => exact h.sweep hkeeps hexec

/-- The windows of the law, as the source compares them. -/
theorem CampaignsKept.law (h : CampaignsKept s) :
    (∀ c ∈ s.campaigns, c.startDate ≤ c.endDate) ∧
      (∀ c ∈ s.campaigns, ∀ d ∈ s.campaigns, c.id ≠ d.id →
        campaignWindowsOverlap c.window d.window = false) ∧
      ∀ c ∈ s.campaigns, ∀ d ∈ s.campaigns, c.active = true → d.active = true → c.id = d.id := by
  refine ⟨h.forward, ?_, h.oneActive⟩
  intro c hc d hd hne
  have hover := h.apart c hc d hd hne rfl
  rw [← campaignWindowsOverlap_iff] at hover
  simpa using hover

/-- **Campaign windows stay well formed and disjoint, and one campaign is active at a time**, in
every state reached and in every state a sweep passes through, as long as each window stored runs
forward and a campaign is activated only while none is active. -/
theorem windows_of_run (h₀ : CampaignsKept start)
    (hrun : Reach (step tz) (fun db request => request.KeepsWindows tz db) start s) :
    ∀ passed, passed = s ∨ (∃ now, OneDue now s ∧ SweepState tz now s passed) →
      (∀ c ∈ passed.campaigns, c.startDate ≤ c.endDate) ∧
        (∀ c ∈ passed.campaigns, ∀ d ∈ passed.campaigns, c.id ≠ d.id →
          campaignWindowsOverlap c.window d.window = false) ∧
        ∀ c ∈ passed.campaigns, ∀ d ∈ passed.campaigns, c.active = true → d.active = true →
          c.id = d.id := by
  have hkept : CampaignsKept s := by
    refine hrun.invariant (I := CampaignsKept) h₀ ?_
    intro db request h hkeeps
    rcases step_cases tz db request with hexec | hsame
    · exact h.request hkeeps hexec
    · rw [hsame]
      exact h
  rintro passed (rfl | ⟨now, hdue, hstate⟩)
  · exact hkept.law
  · exact (hstate.campaignsKept hkept hdue).law

end Runs

/-- A campaign from the 5th to the 9th, activated on its first day. -/
def firstCampaign : List Request :=
  [.createCampaign (campaignOver "2025-03-05" "2025-03-09" .pause) [], .sweep (march 5)]

def afterFirst (requests : List Request) : TerritoryDb :=
  (firstCampaign ++ requests).foldl (step .utc) oneTerritory

/-- A second one is planned for the days right after it. -/
def twoCampaigns : TerritoryDb :=
  afterFirst [.createCampaign (campaignOver "2025-03-10" "2025-03-15" .pause) []]

/-- The first campaign with its end moved before its start: the form compared the new end with a new
start, which the edit then leaves out. -/
def editedCampaign : TerritoryDb :=
  afterFirst [.updateCampaign 1 (campaignOver "2025-03-01" "2025-03-02" .pause)]

/-- A started campaign ends before it starts; and on the day the second campaign starts both are
active within the sweep, and the first is the one `assign` sees. -/
theorem windows_broken :
    (Reach (step .utc) (fun _ _ => True) oneTerritory editedCampaign ∧
      ∃ c ∈ editedCampaign.campaigns, c.endDate < c.startDate) ∧
    Reach (step .utc) (fun _ _ => True) oneTerritory twoCampaigns ∧
      ∃ passed, SweepState .utc (march 10) twoCampaigns passed ∧
        (passed.campaigns.map fun c => (c.id, c.active)) = [(1, true), (2, true)] ∧
        passed.getActiveCampaign.map (·.id) = some 1 := by
  refine ⟨⟨.foldl (by decide +kernel), by decide +kernel⟩, .foldl (by decide +kernel), ?_⟩
  have hdue : twoCampaigns.getCampaignsDueToActivate (march 10) =
      [] ++ newCampaign (campaignOver "2025-03-10" "2025-03-15" .pause) ⟨march 10, march 15⟩ [] 2 ::
        [] := by
    decide +kernel
  exact ⟨_, .activating 0 hdue rfl rfl, by decide +kernel, by decide +kernel⟩

/-- The first campaign ended before the second is planned and starts. -/
def successiveCampaigns : TerritoryDb :=
  afterFirst [.sweep (march 10),
    .createCampaign (campaignOver "2025-03-10" "2025-03-15" .pause) [], .sweep (march 10)]

theorem windows_of_run_successive :
    (∀ c ∈ successiveCampaigns.campaigns, c.startDate ≤ c.endDate) ∧
      (∀ c ∈ successiveCampaigns.campaigns, ∀ d ∈ successiveCampaigns.campaigns, c.id ≠ d.id →
        campaignWindowsOverlap c.window d.window = false) ∧
      ∀ c ∈ successiveCampaigns.campaigns, ∀ d ∈ successiveCampaigns.campaigns,
        c.active = true → d.active = true → c.id = d.id :=
  windows_of_run (by decide) (.foldl (by decide +kernel)) _ (.inl rfl)

end Unitae.Territories
