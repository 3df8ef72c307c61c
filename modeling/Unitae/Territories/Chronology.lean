import Unitae.Territories.Steps

/-!
# Unitae — attributions of one layer never overlap

The overlap rule of `attribution.aggregate.ts` is asked on `assign` and on `update`. The other ways
an interval ends — a return, the return of everything a member holds, the four bulk closes of a
campaign — write `endDate` without it, so a row can come to end before it starts, and a returned row
can be stretched over its successor.

`chronological_of_run` is the rule over every run in which no row ends before it starts and no
returned row is returned again, later, into another row.
-/

namespace Unitae.Territories

/-- Rows of one publisher, territory and layer do not overlap, and none ends before it starts. -/
structure Chronological (db : TerritoryDb) : Prop where
  apart : Apart Attribution.id Attribution.lane Attribution.span db.attributions
  forward : ∀ a ∈ db.attributions, a.span.Forward

instance (db : TerritoryDb) : Decidable (Chronological db) :=
  decidable_of_iff (Apart Attribution.id Attribution.lane Attribution.span db.attributions ∧
      ∀ a ∈ db.attributions, a.span.Forward)
    ⟨fun ⟨h₁, h₂⟩ => ⟨h₁, h₂⟩, fun ⟨h₁, h₂⟩ => ⟨h₁, h₂⟩⟩

/-- The rows selected have started by `now`. -/
def StartedBy (db : TerritoryDb) (sel : Attribution → Bool) (now : Instant) : Prop :=
  ∀ a ∈ db.attributions, sel a = true → a.startDate ≤ now

instance (db : TerritoryDb) (sel : Attribution → Bool) (now : Instant) :
    Decidable (StartedBy db sel now) :=
  inferInstanceAs (Decidable (∀ _ ∈ _, _ → _))

/-! ## Writes -/

section Writes

variable {tz : LocalTime} {db db' : TerritoryDb} {sel : Attribution → Bool}
  {data : Attribution → Attribution} {now : Instant}

/-- Rows cut short where they stand. -/
theorem Chronological.cut (h : Chronological db) (hid : ∀ a, (data a).id = a.id)
    (hlane : ∀ a, (data a).lane = a.lane)
    (hcuts : ∀ a ∈ db.attributions, sel a = true →
      (data a).span.Cuts a.span ∧ (data a).span.Forward) :
    Chronological (db.updateAttributions sel data) := by
  refine ⟨h.apart.map_cuts ?_ ?_ ?_, ?_⟩
  · exact fun a => column_ite (hid a)
  · exact fun a => column_ite (hlane a)
  · intro a ha
    split
    · next hsel => exact (hcuts a ha hsel).1
    · exact Span.Cuts.refl _
  · intro a' ha'
    obtain ⟨a, ha, rfl⟩ := mem_updateAttributions.mp ha'
    split
    · next hsel => exact (hcuts a ha hsel).2
    · exact h.forward a ha

/-- Writes beside the interval. -/
theorem Chronological.sameSpan (h : Chronological db) (hid : ∀ a, (data a).id = a.id)
    (hlane : ∀ a, (data a).lane = a.lane) (hspan : ∀ a, (data a).span = a.span) :
    Chronological (db.updateAttributions sel data) := by
  refine h.cut hid hlane fun a ha _ => ?_
  rw [hspan]
  exact ⟨Span.Cuts.refl _, h.forward a ha⟩

/-- A close of open rows that have started. -/
theorem Chronological.close (h : Chronological db) (hid : ∀ a, (data a).id = a.id)
    (hlane : ∀ a, (data a).lane = a.lane) (hspan : ∀ a, (data a).span = ⟨a.startDate, some now⟩)
    (hopen : ∀ a, sel a = true → a.endDate = none) (hstarted : StartedBy db sel now) :
    Chronological (db.updateAttributions sel data) := by
  refine h.cut hid hlane fun a ha hsel => ?_
  rw [hspan]
  refine ⟨Span.Cuts.of_open rfl (hopen a hsel), ?_⟩
  intro e he
  rw [← Option.some.inj he]
  exact hstarted a ha hsel

/-- The check of `assign` is the rule for the new row. -/
theorem Chronological.assign (h : Chronological db) {params : CreateAttributionParams}
    {territory : Territory} {startDate : Instant}
    (hassignable : Assignable tz db params territory startDate) :
    Chronological (db.createAttribution (newAttribution tz db params territory startDate)) := by
  refine ⟨h.apart.append_one ?_, ?_⟩
  · intro a ha hlane
    exact assertNoActiveOverlap_ok.mp hassignable.apart a ha hlane fun _ hid => by simp at hid
  · intro a ha
    rcases List.mem_append.mp ha with hold | hnew
    · exact h.forward a hold
    · rw [List.mem_singleton.mp hnew]
      exact fun e he => absurd he (by simp [newAttribution, Attribution.span])

/-- An edit: the check is made unless the interval and the lane stay as they are. -/
theorem Chronological.update (hdb : db.Valid) (h : Chronological db) {id : Nat}
    {params : UpdateAttributionParams} (hchecks : updateChecks db id params = .ok ())
    (hforward : ∀ a ∈ db.attributionById id, ∀ e ∈ params.nextEnd a, params.startDate ≤ e) :
    Chronological (db.updateAttributions (·.id == id) params.data) := by
  obtain ⟨existing, hfound, hcheck, _⟩ := updateChecks_ok.mp hchecks
  obtain ⟨hmem, rfl⟩ := (attributionById_eq_some hdb).mp hfound
  have hexisting : ∀ a ∈ db.attributions, a.id = existing.id → a = existing :=
    fun a ha hid => hdb.attributions.eq_of_key ha hmem hid
  have hsel : (db.updateAttributions (·.id == existing.id) params.data).attributions =
      db.attributions.map fun a => if a.id = existing.id then params.data a else a := by
    simp [TerritoryDb.updateAttributions]
  refine ⟨?_, ?_⟩
  · rw [hsel]
    refine h.apart.rewrite (fun _ => rfl) ?_
    intro a ha hid b hb hne hlane
    rw [hexisting a ha hid] at hlane ⊢
    by_cases hchanged : params.publisherId ≠ existing.publisherId ∨
        params.startDate ≠ existing.startDate ∨ params.nextEnd existing ≠ existing.endDate
    · exact assertNoActiveOverlap_ok.mp (hcheck hchanged) b hb hlane
        fun k hk => by rw [← Option.some.inj hk]; exact hne
    · -- nothing the rule looks at has changed
      simp only [not_or, not_not] at hchanged
      have hspan : (params.data existing).span = existing.span := by
        simp [UpdateAttributionParams.data, Attribution.span, hchanged.2.1, hchanged.2.2]
      have hsame : (params.data existing).lane = existing.lane := by
        simp [UpdateAttributionParams.data, Attribution.lane, hchanged.1]
      rw [hspan]
      rw [hsame] at hlane
      exact h.apart existing hmem b hb (fun heq => hne heq.symm) hlane.symm
  · intro a' ha'
    obtain ⟨a, ha, rfl⟩ := mem_updateAttributions.mp ha'
    split
    · next hid =>
      rw [hexisting a ha (by simpa using hid)]
      exact hforward existing hfound
    · exact h.forward a ha

/-- A return: the row has started, and a row already returned does not end up in another. -/
theorem Chronological.markReturned (hdb : db.Valid) (h : Chronological db) {id : Nat}
    {endDate : Instant} {a : Attribution} (hfound : db.attributionById id = some a)
    (hstarted : a.startDate ≤ endDate)
    (hlater : ∀ e ∈ a.endDate, e < endDate → ∀ b ∈ db.attributions, b.id ≠ id → b.lane = a.lane →
      ¬(⟨a.startDate, some endDate⟩ : Span Instant).Overlaps b.span) :
    Chronological (db.updateAttributions (·.id == id) (·.returned endDate)) := by
  obtain ⟨hmem, rfl⟩ := (attributionById_eq_some hdb).mp hfound
  have hrow : ∀ x ∈ db.attributions, (x.id == a.id) = true → x = a :=
    fun x hx hid => hdb.attributions.eq_of_key hx hmem (by simpa using hid)
  have hforward : (⟨a.startDate, some endDate⟩ : Span Instant).Forward :=
    fun e he => by rw [← Option.some.inj he]; exact hstarted
  by_cases hextends : ∃ e ∈ a.endDate, e < endDate
  · obtain ⟨e, he, hlt⟩ := hextends
    refine ⟨?_, ?_⟩
    · have hsel : (db.updateAttributions (·.id == a.id) (·.returned endDate)).attributions =
          db.attributions.map fun x => if x.id = a.id then x.returned endDate else x := by
        simp [TerritoryDb.updateAttributions]
      rw [hsel]
      refine h.apart.rewrite (fun _ => rfl) ?_
      intro x hx hid b hb hne hlane
      rw [hrow x hx (by simpa using hid)] at hlane ⊢
      exact hlater e he hlt b hb hne hlane
    · intro x' hx'
      obtain ⟨x, hx, rfl⟩ := mem_updateAttributions.mp hx'
      split
      · next hid =>
        rw [hrow x hx hid]
        exact hforward
      · exact h.forward x hx
  · -- an open row, or one that already ended later: the row is cut short
    refine h.cut (fun _ => rfl) (fun _ => rfl) ?_
    intro x hx hid
    rw [hrow x hx hid]
    refine ⟨⟨rfl, ?_⟩, hforward⟩
    intro t ht e he
    have hle : endDate ≤ e := not_lt.mp fun hlt => hextends ⟨e, he, hlt⟩
    exact le_trans (ht endDate rfl) hle

end Writes

/-! ## Campaign transitions -/

section Transitions

variable {tz : LocalTime} {db db' : TerritoryDb} {campaign : Campaign} {t : CampaignTransition}

/-- What a start transition closes has started. -/
def StartsInTime (campaign : Campaign) (t : CampaignTransition) (db : TerritoryDb) : Prop :=
  campaign.startRegularAction = .close → StartedBy db t.allOpenRegulars t.now

/-- What an end transition closes has started. -/
structure EndsInTime (campaign : Campaign) (t : CampaignTransition) (db : TerritoryDb) : Prop where
  own : campaign.endCloseCampaign = true → StartedBy db t.ownOpen t.now
  paused : campaign.endRegularAction = .close → StartedBy db t.pausedByIt t.now

theorem Chronological.started (h : Chronological db) (hstarted : StartsInTime campaign t db) :
    Chronological (db.started campaign t) := by
  unfold TerritoryDb.started
  split
  · exact h.sameSpan (fun _ => rfl) (fun _ => rfl) fun _ => rfl
  · next hclose =>
    refine h.close (fun _ => rfl) (fun _ => rfl) (fun _ => rfl) ?_ (hstarted hclose)
    intro a hsel
    simp only [CampaignTransition.allOpenRegulars, Bool.and_eq_true, Option.isNone_iff_eq_none]
      at hsel
    exact hsel.1.1
  · exact h

theorem Chronological.startTransition (h : Chronological db)
    (hstarted : StartsInTime campaign t db)
    (hexec : (startTransition tz campaign t).exec db = (.ok (), db')) : Chronological db' := by
  rw [startTransition_exec] at hexec
  have hkeeps : Tx.Keeps Chronological
      (reassignIntoCampaign tz campaign t.now (campaign.reassigned t db)) :=
    reassign_keeps fun _ _ _ _ _ h hassignable => h.assign hassignable
  exact hkeeps.of_ok hexec (h.started hstarted)

theorem Chronological.released (h : Chronological db) (hstarted : EndsInTime campaign t db) :
    Chronological (db.released campaign t) := by
  have howned : Chronological (db.ownClosed campaign t) := by
    unfold TerritoryDb.ownClosed
    split
    · next hclose =>
      refine h.close (fun _ => rfl) (fun _ => rfl) (fun _ => rfl) ?_ (hstarted.own hclose)
      intro a hsel
      simp only [CampaignTransition.ownOpen, Bool.and_eq_true, Option.isNone_iff_eq_none] at hsel
      exact hsel.1.2
    · exact h
  unfold TerritoryDb.released TerritoryDb.pausedReleased
  split
  · exact howned.sameSpan (fun _ => rfl) (fun _ => rfl) fun _ => rfl
  · exact howned
  · next hclose =>
    have hopen : ∀ a : Attribution, t.pausedByIt a = true → a.endDate = none := by
      intro a hsel
      simp only [CampaignTransition.pausedByIt, Bool.and_eq_true, Option.isNone_iff_eq_none]
        at hsel
      exact hsel.1.2
    refine howned.close (fun _ => rfl) (fun _ => rfl) (fun _ => rfl) hopen ?_
    intro a ha hsel
    exact hstarted.paused hclose a (mem_ownClosed_open ha (hopen a hsel)) hsel

/-- A scope edit starts and ends on disjoint sets of territories, so what the end closes is judged
before the edit. -/
theorem EndsInTime.after_start {now : Instant} {added removed : List Nat}
    (h : EndsInTime campaign ⟨campaign.id, some removed, now⟩ db)
    (hdisjoint : ∀ id ∈ removed, id ∉ added)
    (hexec : (startAdded tz campaign now added).exec db = (.ok (), db')) :
    EndsInTime campaign ⟨campaign.id, some removed, now⟩ db' := by
  have hrows : ∀ a ∈ db'.attributions, a.territoryId ∈ removed → a ∈ db.attributions := by
    intro a ha hremoved
    rcases startAdded_ok.mp hexec with ⟨_, rfl⟩ | ⟨_, hstart⟩
    · exact ha
    · refine startTransition_outside hstart ha ?_
      simpa [CampaignTransition.covers] using hdisjoint _ hremoved
  have hcovers : ∀ a : Attribution,
      (⟨campaign.id, some removed, now⟩ : CampaignTransition).covers a.territoryId = true →
        a.territoryId ∈ removed := fun a ha => by simpa [CampaignTransition.covers] using ha
  constructor
  · intro hclose a ha hsel
    refine h.own hclose a (hrows a ha (hcovers a ?_)) hsel
    exact (Bool.and_eq_true _ _ ▸ hsel).2
  · intro hclose a ha hsel
    refine h.paused hclose a (hrows a ha (hcovers a ?_)) hsel
    exact (Bool.and_eq_true _ _ ▸ hsel).2

end Transitions

/-! ## Runs -/

/-- One of the services, rather than a route or a job that calls several. -/
def Request.IsService : Request → Prop
  | .editCampaign .. | .sweep .. => False
  | _ => True

instance (request : Request) : Decidable request.IsService :=
  match request with
  | .editCampaign .. | .sweep .. => inferInstanceAs (Decidable False)
  | .assign .. | .update .. | .markReturned .. | .markReturnedForPublisher .. | .pause ..
  | .resume .. | .createCampaign .. | .updateCampaign .. | .deleteCampaign ..
  | .activateCampaign .. | .endCampaign .. | .applyScopeChange .. => .isTrue trivial

/-- No row is made to end before it starts, and no returned row is returned again, later, over
another row of its layer. -/
def Request.EndsInTime (db : TerritoryDb) : Request → Prop
  | .update id params => updateChecks db id params = .ok () →
      ∀ a ∈ db.attributionById id, ∀ e ∈ params.nextEnd a, params.startDate ≤ e
  | .markReturned id endDate => ∀ a ∈ db.attributionById id, a.startDate ≤ endDate ∧
      ∀ e ∈ a.endDate, e < endDate → ∀ b ∈ db.attributions, b.id ≠ id → b.lane = a.lane →
        ¬(⟨a.startDate, some endDate⟩ : Span Instant).Overlaps b.span
  | .markReturnedForPublisher publisherId endDate =>
      StartedBy db (fun a => a.publisherId == publisherId && a.endDate.isNone) endDate
  | .activateCampaign id now => ∀ c ∈ db.getCampaign id, c.activatedAt = none →
      StartsInTime c (c.transition now) db
  | .endCampaign id now => ∀ c ∈ db.getCampaign id, c.active = true →
      Territories.EndsInTime c ⟨c.id, none, now⟩ db
  | .applyScopeChange id ids now => ∀ c ∈ db.getCampaign id, c.active = true →
      StartsInTime c ⟨c.id, some (db.addedBy c ids), now⟩ db ∧
        Territories.EndsInTime c ⟨c.id, some (db.removedBy c ids), now⟩ db
  | _ => True

instance (campaign : Campaign) (t : CampaignTransition) (db : TerritoryDb) :
    Decidable (StartsInTime campaign t db) :=
  inferInstanceAs (Decidable (_ → ∀ _ ∈ _, _ → _ ≤ _))

instance (campaign : Campaign) (t : CampaignTransition) (db : TerritoryDb) :
    Decidable (EndsInTime campaign t db) :=
  decidable_of_iff ((campaign.endCloseCampaign = true → ∀ a ∈ db.attributions,
      t.ownOpen a = true → a.startDate ≤ t.now) ∧
      (campaign.endRegularAction = .close → ∀ a ∈ db.attributions,
        t.pausedByIt a = true → a.startDate ≤ t.now))
    ⟨fun ⟨h₁, h₂⟩ => ⟨h₁, h₂⟩, fun ⟨h₁, h₂⟩ => ⟨h₁, h₂⟩⟩

instance (db : TerritoryDb) (request : Request) : Decidable (request.EndsInTime db) := by
  cases request <;> unfold Request.EndsInTime <;> infer_instance

section Runs

variable {tz : LocalTime} {db start s : TerritoryDb}

/-- Only the rows of `Attribution` matter to the rule. -/
theorem Chronological.congr {db db' : TerritoryDb} (h : Chronological db)
    (hrows : db'.attributions = db.attributions) : Chronological db' :=
  ⟨by rw [hrows]; exact h.apart, by rw [hrows]; exact h.forward⟩

theorem Chronological.request (hdb : db.Valid) (h : Chronological db) {request : Request}
    {db' : TerritoryDb} (hservice : request.IsService) (hcond : request.EndsInTime db)
    (hexec : (request.run tz).exec db = (.ok (), db')) : Chronological db' := by
  cases request with
  | assign params =>
    obtain ⟨territory, startDate, hassignable, rfl⟩ := assign_ok.mp hexec
    exact h.assign hassignable
  | update id params =>
    obtain ⟨hchecks, rfl⟩ := update_ok.mp hexec
    exact h.update hdb hchecks (hcond hchecks)
  | markReturned id endDate =>
    obtain ⟨⟨a, hfound⟩, rfl⟩ := updateAttributionRow_ok.mp hexec
    obtain ⟨hstarted, hlater⟩ := hcond a hfound
    exact h.markReturned hdb hfound hstarted hlater
  | markReturnedForPublisher publisherId endDate =>
    obtain rfl : _ = db' := congrArg Prod.snd hexec
    refine h.close (fun _ => rfl) (fun _ => rfl) (fun _ => rfl) ?_ hcond
    intro a hsel
    simp only [Bool.and_eq_true, Option.isNone_iff_eq_none] at hsel
    exact hsel.2
  | pause id campaignId now =>
    obtain ⟨_, rfl⟩ := pause_ok.mp hexec
    exact h.sameSpan (fun _ => rfl) (fun _ => rfl) fun _ => rfl
  | resume id now =>
    obtain ⟨_, rfl⟩ := resume_ok.mp hexec
    exact h.sameSpan (fun _ => rfl) (fun _ => rfl) fun _ => rfl
  | createCampaign params ids =>
    obtain ⟨_, _, _, rfl⟩ := runCreateCampaign_ok hexec
    exact h.congr rfl
  | updateCampaign id params =>
    obtain ⟨_, _, _, _, _, rfl⟩ := updateCampaign_ok.mp hexec
    exact h.congr rfl
  | deleteCampaign id =>
    obtain ⟨_, rfl⟩ := deleteCampaign_ok.mp hexec
    exact h.congr rfl
  | activateCampaign id now =>
    rcases withCampaign_ok.mp hexec with ⟨_, rfl⟩ | ⟨c, hfound, hbody⟩
    · exact h
    · rcases activateCampaign_ok.mp hbody with ⟨_, rfl⟩ | ⟨hscheduled, _, hstart⟩
      · exact h
      · have hstamped : Chronological (db.stampActivated c.id now) := h.congr rfl
        exact hstamped.startTransition (hcond c hfound hscheduled) hstart
  | endCampaign id now =>
    rcases withCampaign_ok.mp hexec with ⟨_, rfl⟩ | ⟨c, hfound, hbody⟩
    · exact h
    · rcases endCampaign_ok.mp hbody with ⟨_, rfl⟩ | ⟨hactive, _, rfl⟩
      · exact h
      · have hstamped : Chronological (db.stampEnded c.id now) := h.congr rfl
        have hends := hcond c hfound hactive
        exact hstamped.released ⟨hends.own, hends.paused⟩
  | applyScopeChange id ids now =>
    rcases withCampaign_ok.mp hexec with ⟨_, rfl⟩ | ⟨c, hfound, hbody⟩
    · exact h
    · rcases applyScopeChange_ok.mp hbody with ⟨_, hscope⟩ | ⟨hactive, db₁, hadded, hscope⟩
      · obtain ⟨_, _, rfl⟩ := replaceScope_ok.mp hscope
        exact h.congr rfl
      · obtain ⟨_, _, rfl⟩ := replaceScope_ok.mp hscope
        obtain ⟨hstarts, hends⟩ := hcond c hfound hactive
        have h₁ : Chronological db₁ := by
          rcases startAdded_ok.mp hadded with ⟨_, rfl⟩ | ⟨_, hstart⟩
          · exact h
          · exact h.startTransition hstarts hstart
        have h₂ : Chronological (if db.removedBy c ids = [] then db₁
            else db₁.released c ⟨c.id, some (db.removedBy c ids), now⟩) := by
          split
          · exact h₁
          · exact h₁.released (hends.after_start (fun _ => entering_disjoint) hadded)
        exact h₂.congr rfl
  | editCampaign => exact hservice.elim
  | sweep => exact hservice.elim

/-- **Attributions never overlap**, in every run of the services that ends no row before its start
and stretches no returned row over another. -/
theorem chronological_of_run (hstart : start.Valid) (h₀ : Chronological start)
    (hrun : Reach (step tz) (fun db request => request.IsService ∧ request.EndsInTime db) start s) :
    (∀ a ∈ s.attributions, ∀ b ∈ s.attributions, a.id ≠ b.id → a.publisherId = b.publisherId →
      a.territoryId = b.territoryId → a.campaignId = b.campaignId →
        attributionsOverlap a.span b.span = false) ∧
      ∀ a ∈ s.attributions, ∀ e ∈ a.endDate, a.startDate ≤ e := by
  have hinv : s.Valid ∧ Chronological s := by
    refine hrun.invariant (I := fun s => s.Valid ∧ Chronological s) ⟨hstart, h₀⟩ ?_
    intro db request hkept hcond
    refine ⟨step_valid tz request hkept.1, ?_⟩
    rcases step_cases tz db request with hexec | hsame
    · exact hkept.2.request hkept.1 hcond.1 hcond.2 hexec
    · rw [hsame]
      exact hkept.2
  refine ⟨?_, hinv.2.forward⟩
  intro a ha b hb hne hpublisher hterritory hcampaign
  have hlane : a.lane = b.lane := by
    simp only [Attribution.lane, hpublisher, hterritory, hcampaign]
  have hover := hinv.2.apart a ha b hb hne hlane
  rw [← attributionsOverlap_iff] at hover
  simpa using hover

end Runs

/-- One territory, one publisher, and nothing assigned yet. -/
def oneTerritory : TerritoryDb where
  attributions := []
  campaigns := []
  territories := [⟨1, .classical⟩]
  members := [7]
  settings := []
  nextAttributionId := 1
  nextCampaignId := 1

theorem oneTerritory_kept : oneTerritory.Valid ∧ Chronological oneTerritory := by decide

/-- The publisher 7 takes territory 1 on a day. -/
def takeOn (day : String) : Request := .assign ⟨7, 1, day, "", .default, none⟩

/-- Local midnight of a day of March 2025. -/
def march (day : Int) : Instant := Calendar.msPerDay * (20147 + day)

example : parseLocalDate .utc "2025-03-10" = some (march 10) := by decide +kernel

/-- A return dated before the start; and a second return of a row, after the publisher has taken the
territory again. -/
theorem attributions_overlap :
    (Reach (step .utc) (fun _ request => request.IsService) oneTerritory
        ([takeOn "2025-03-10", .markReturned 1 (march 5)].foldl (step .utc) oneTerritory) ∧
      ∃ a ∈ ([takeOn "2025-03-10", .markReturned 1 (march 5)].foldl (step .utc)
        oneTerritory).attributions, ∃ e ∈ a.endDate, e < a.startDate) ∧
    Reach (step .utc) (fun _ request => request.IsService) oneTerritory
        ([takeOn "2025-03-01", .markReturned 1 (march 5), takeOn "2025-03-10",
          .markReturned 1 (march 20)].foldl (step .utc) oneTerritory) ∧
      ∃ a ∈ ([takeOn "2025-03-01", .markReturned 1 (march 5), takeOn "2025-03-10",
          .markReturned 1 (march 20)].foldl (step .utc) oneTerritory).attributions,
        ∃ b ∈ ([takeOn "2025-03-01", .markReturned 1 (march 5), takeOn "2025-03-10",
          .markReturned 1 (march 20)].foldl (step .utc) oneTerritory).attributions,
          a.id ≠ b.id ∧ a.lane = b.lane ∧ attributionsOverlap a.span b.span = true :=
  ⟨⟨.foldl (by decide +kernel), by decide +kernel⟩, .foldl (by decide +kernel),
    by decide +kernel⟩

/-- Taking the territory and bringing it back five days later. -/
theorem chronological_of_run_return :
    (∀ a ∈ ([takeOn "2025-03-10", .markReturned 1 (march 15)].foldl (step .utc)
        oneTerritory).attributions,
      ∀ b ∈ ([takeOn "2025-03-10", .markReturned 1 (march 15)].foldl (step .utc)
        oneTerritory).attributions,
        a.id ≠ b.id → a.publisherId = b.publisherId → a.territoryId = b.territoryId →
          a.campaignId = b.campaignId → attributionsOverlap a.span b.span = false) ∧
      ∀ a ∈ ([takeOn "2025-03-10", .markReturned 1 (march 15)].foldl (step .utc)
        oneTerritory).attributions, ∀ e ∈ a.endDate, a.startDate ≤ e :=
  chronological_of_run oneTerritory_kept.1 oneTerritory_kept.2 (.foldl (by decide +kernel))

end Unitae.Territories
