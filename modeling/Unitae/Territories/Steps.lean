import Unitae.Territories.Lifecycle

/-!
# Unitae — what the territory services do, step by step

The spec lemmas that the results on attributions and campaigns share: what a bulk update leaves,
what a call that goes through has done, and that the keys of the tables survive every request. The
compound services (activation, end, scope change, sweep) are taken apart here once.
-/

namespace Unitae.Territories

variable {tz : LocalTime} {db db' : TerritoryDb}

/-! ## Writes -/

section Writes

variable {sel : Attribution → Bool} {data : Attribution → Attribution}
  {csel : Campaign → Bool} {cdata : Campaign → Campaign}

theorem mem_updateAttributions {a' : Attribution} :
    a' ∈ (db.updateAttributions sel data).attributions ↔
      ∃ a ∈ db.attributions, (if sel a then data a else a) = a' := List.mem_map

/-- A row after a bulk update: one not selected, or one rewritten. -/
theorem mem_updateAttributions_cases {a' : Attribution}
    (h : a' ∈ (db.updateAttributions sel data).attributions) :
    a' ∈ db.attributions ∧ sel a' = false ∨
      ∃ a ∈ db.attributions, sel a = true ∧ a' = data a := by
  obtain ⟨a, ha, rfl⟩ := mem_updateAttributions.mp h
  cases hsel : sel a with
  | false => exact .inl ⟨by simpa [hsel] using ha, by simp [hsel]⟩
  | true => exact .inr ⟨a, ha, hsel, by simp⟩

theorem mem_updateCampaigns {c' : Campaign} :
    c' ∈ (db.updateCampaigns csel cdata).campaigns ↔
      ∃ c ∈ db.campaigns, (if csel c then cdata c else c) = c' := List.mem_map

@[simp] theorem updateAttributions_campaigns :
    (db.updateAttributions sel data).campaigns = db.campaigns := rfl

@[simp] theorem updateAttributions_territories :
    (db.updateAttributions sel data).territories = db.territories := rfl

@[simp] theorem updateCampaigns_attributions :
    (db.updateCampaigns csel cdata).attributions = db.attributions := rfl

@[simp] theorem updateCampaigns_territories :
    (db.updateCampaigns csel cdata).territories = db.territories := rfl

/-- An update that keeps the ids keeps the keys. -/
theorem TerritoryDb.Valid.updateAttributions (h : db.Valid) (hid : ∀ a, (data a).id = a.id) :
    (db.updateAttributions sel data).Valid := by
  have hsame : ∀ a : Attribution, (if sel a then data a else a).id = a.id := fun a => column_ite (hid a)
  refine ⟨h.attributions.map hsame, h.campaigns, ?_, h.campaigns_lt⟩
  intro a' ha'
  obtain ⟨a, ha, rfl⟩ := mem_updateAttributions.mp ha'
  rw [hsame]
  exact h.attributions_lt a ha

theorem TerritoryDb.Valid.updateCampaigns (h : db.Valid) (hid : ∀ c, (cdata c).id = c.id) :
    (db.updateCampaigns csel cdata).Valid := by
  have hsame : ∀ c : Campaign, (if csel c then cdata c else c).id = c.id := fun c => column_ite (hid c)
  refine ⟨h.attributions, h.campaigns.map hsame, h.attributions_lt, ?_⟩
  intro c' hc'
  obtain ⟨c, hc, rfl⟩ := mem_updateCampaigns.mp hc'
  rw [hsame]
  exact h.campaigns_lt c hc

theorem TerritoryDb.Valid.createAttribution (h : db.Valid) {row : Nat → Attribution}
    (hid : ∀ id, (row id).id = id) : (db.createAttribution row).Valid := by
  refine ⟨?_, h.campaigns, ?_, h.campaigns_lt⟩
  · exact h.attributions.append_next h.attributions_lt (hid _)
  · exact lt_append_next h.attributions_lt (hid _)

theorem TerritoryDb.Valid.createCampaignRow (h : db.Valid) {row : Nat → Campaign}
    (hid : ∀ id, (row id).id = id) : (db.createCampaignRow row).Valid := by
  refine ⟨h.attributions, ?_, h.attributions_lt, ?_⟩
  · exact h.campaigns.append_next h.campaigns_lt (hid _)
  · exact lt_append_next h.campaigns_lt (hid _)

end Writes

/-! ## Lookups -/

theorem attributionById_eq_some (h : db.Valid) {id : Nat} {a : Attribution} :
    db.attributionById id = some a ↔ a ∈ db.attributions ∧ a.id = id :=
  h.attributions.find?_eq_some

theorem getCampaign_eq_some (h : db.Valid) {id : Nat} {c : Campaign} :
    db.getCampaign id = some c ↔ c ∈ db.campaigns ∧ c.id = id :=
  h.campaigns.find?_eq_some

theorem getCampaign_mem {id : Nat} {c : Campaign} (h : db.getCampaign id = some c) :
    c ∈ db.campaigns ∧ c.id = id :=
  ⟨List.mem_of_find?_eq_some h, by simpa using List.find?_some h⟩

theorem mem_dueToActivate {now : Instant} {c : Campaign} :
    c ∈ db.getCampaignsDueToActivate now ↔
      c ∈ db.campaigns ∧ c.activatedAt = none ∧ c.endedAt = none ∧ c.startDate ≤ now := by
  simp [TerritoryDb.getCampaignsDueToActivate, and_assoc]

theorem mem_dueToEnd {now : Instant} {c : Campaign} :
    c ∈ db.getCampaignsDueToEnd tz now ↔
      c ∈ db.campaigns ∧ c.active = true ∧ c.endDate < startOfDay tz now := by
  simp [TerritoryDb.getCampaignsDueToEnd]

theorem openRegulars_iff {t : CampaignTransition} {a : Attribution} :
    t.openRegulars a = true ↔ a.endDate = none ∧ a.campaignId = none ∧ a.pausedAt = none ∧
      t.covers a.territoryId = true := by
  simp [CampaignTransition.openRegulars, and_assoc]

theorem Campaign.active_iff {c : Campaign} :
    c.active = true ↔ c.activatedAt.isSome ∧ c.endedAt = none := by
  simp [Campaign.active]

/-! ## Assigning in a loop -/

/-- `assign` checks before it writes. -/
theorem assign_keeps {I : TerritoryDb → Prop} {params : CreateAttributionParams}
    (h : ∀ db territory startDate, I db → Assignable tz db params territory startDate →
      I (db.createAttribution (newAttribution tz db params territory startDate))) :
    Tx.Keeps I (assign tz params) := by
  refine Tx.keeps_checked fun s row hs hchecks => ?_
  obtain ⟨territory, startDate, hassignable, rfl⟩ := assignChecks_ok.mp hchecks
  exact h s territory startDate hs hassignable

theorem reassign_keeps {I : TerritoryDb → Prop} {campaign : Campaign} {now : Instant}
    {rows : List Attribution}
    (h : ∀ row ∈ rows, ∀ db territory startDate, I db →
      Assignable tz db (reassignment tz campaign now row) territory startDate →
      I (db.createAttribution
        (newAttribution tz db (reassignment tz campaign now row) territory startDate))) :
    Tx.Keeps I (reassignIntoCampaign tz campaign now rows) :=
  .forM fun row hrow => (assign_keeps (h row hrow)).ignoring

/-! ## The compound services, taken apart -/

/-- What the start transition does to the store before any reassignment. -/
def TerritoryDb.started (campaign : Campaign) (t : CampaignTransition) (db : TerritoryDb) :
    TerritoryDb :=
  match campaign.startRegularAction with
  | .pause => db.updateAttributions t.openRegulars (·.suspended t.campaignId t.now)
  | .close => db.updateAttributions t.allOpenRegulars (·.returned t.now)
  | .leave => db

/-- The rows the start transition assigns again. -/
def Campaign.reassigned (campaign : Campaign) (t : CampaignTransition) (db : TerritoryDb) :
    List Attribution :=
  if campaign.startRegularAction = .pause ∧ campaign.startAutoReassign then
    db.attributions.filter t.openRegulars
  else []

theorem startTransition_exec {campaign : Campaign} {t : CampaignTransition} :
    (startTransition tz campaign t).exec db =
      (reassignIntoCampaign tz campaign t.now (campaign.reassigned t db)).exec
        (db.started campaign t) := by
  unfold startTransition TerritoryDb.started Campaign.reassigned
  cases campaign.startRegularAction with
  | pause => cases campaign.startAutoReassign <;> rfl
  | close => rfl
  | leave => rfl

/-- The campaign's own open rows closed, if its end closes them. -/
def TerritoryDb.ownClosed (campaign : Campaign) (t : CampaignTransition) (db : TerritoryDb) :
    TerritoryDb :=
  if campaign.endCloseCampaign then db.updateAttributions t.ownOpen (·.returned t.now) else db

/-- The rows it paused resumed, closed or left paused. -/
def TerritoryDb.pausedReleased (campaign : Campaign) (t : CampaignTransition) (db : TerritoryDb) :
    TerritoryDb :=
  match campaign.endRegularAction with
  | .resume => db.updateAttributions t.pausedByIt (·.resumed t.now)
  | .keepPaused => db
  | .close => db.updateAttributions t.pausedByIt (·.returnedFromPause t.now)

/-- What the end transition leaves. -/
def TerritoryDb.released (campaign : Campaign) (t : CampaignTransition) (db : TerritoryDb) :
    TerritoryDb :=
  (db.ownClosed campaign t).pausedReleased campaign t

theorem endTransition_exec {campaign : Campaign} {t : CampaignTransition} :
    (endTransition campaign t).exec db = (.ok (), db.released campaign t) := by
  unfold endTransition TerritoryDb.released TerritoryDb.ownClosed TerritoryDb.pausedReleased
  cases campaign.endCloseCampaign <;> cases campaign.endRegularAction <;> rfl

/-- The transition of a campaign over its whole scope. -/
def Campaign.transition (c : Campaign) (now : Instant) : CampaignTransition :=
  ⟨c.id, c.scopeTerritoryIds, now⟩

theorem activateCampaign_ok {campaign : Campaign} {now : Instant} :
    (activateCampaign tz campaign now).exec db = (.ok (), db') ↔
      campaign.activatedAt.isSome ∧ db' = db ∨
        campaign.activatedAt = none ∧ (∃ c, db.getCampaign campaign.id = some c) ∧
          (startTransition tz campaign (campaign.transition now)).exec
            (db.stampActivated campaign.id now) = (.ok (), db') := by
  unfold activateCampaign
  cases hactivated : campaign.activatedAt with
  | some t =>
    rw [if_pos (by rfl), Tx.exec_pure_ok]
    exact ⟨fun h => .inl ⟨rfl, h.2⟩, fun h => ⟨rfl, (h.resolve_right (by simp)).2⟩⟩
  | none =>
    rw [if_neg (by simp), Tx.exec_seq_ok]
    constructor
    · rintro ⟨_, hstamp, hstart⟩
      obtain ⟨hfound, rfl⟩ := markActivated_ok.mp hstamp
      exact .inr ⟨rfl, hfound, hstart⟩
    · intro h
      obtain ⟨_, hfound, hstart⟩ := h.resolve_left (by simp)
      exact ⟨_, markActivated_ok.mpr ⟨hfound, rfl⟩, hstart⟩

theorem endCampaign_ok {campaign : Campaign} {now : Instant} :
    (endCampaign campaign now).exec db = (.ok (), db') ↔
      campaign.active = false ∧ db' = db ∨
        campaign.active = true ∧ (∃ c, db.getCampaign campaign.id = some c) ∧
          db' = (db.stampEnded campaign.id now).released campaign ⟨campaign.id, none, now⟩ := by
  unfold endCampaign
  have hactive : (campaign.endedAt.isSome || campaign.activatedAt.isNone) = !campaign.active := by
    unfold Campaign.active
    cases campaign.endedAt <;> cases campaign.activatedAt <;> rfl
  rw [hactive]
  cases campaign.active with
  | false =>
    rw [if_pos (by rfl), Tx.exec_pure_ok]
    exact ⟨fun h => .inl ⟨rfl, h.2⟩, fun h => ⟨rfl, (h.resolve_right (by simp)).2⟩⟩
  | true =>
    rw [if_neg (by simp), Tx.exec_seq_ok]
    constructor
    · rintro ⟨_, hstamp, hend⟩
      obtain ⟨hfound, rfl⟩ := markEnded_ok.mp hstamp
      rw [endTransition_exec] at hend
      exact .inr ⟨rfl, hfound, (congrArg Prod.snd hend).symm⟩
    · intro h
      obtain ⟨_, hfound, rfl⟩ := h.resolve_left (by simp)
      exact ⟨_, markEnded_ok.mpr ⟨hfound, rfl⟩, endTransition_exec⟩

theorem withCampaign_ok {id : Nat} {body : Campaign → TerritoryTx Unit} :
    (withCampaign id body).exec db = (.ok (), db') ↔
      db.getCampaign id = none ∧ db' = db ∨
        ∃ c, db.getCampaign id = some c ∧ (body c).exec db = (.ok (), db') := by
  unfold withCampaign
  rw [Tx.exec_bind_get]
  cases db.getCampaign id with
  | none =>
    rw [Tx.exec_pure_ok]
    simp
  | some c => simp

/-- The scope a campaign has in fact: its territories, or all of them. -/
def TerritoryDb.effective (db : TerritoryDb) (scope : List Nat) : List Nat :=
  if scope = [] then db.listAllTerritoryIds else scope

/-- The territories a scope edit brings in, and those it takes out. -/
def TerritoryDb.addedBy (db : TerritoryDb) (campaign : Campaign) (ids : List Nat) : List Nat :=
  entering (db.effective ids) (db.effective campaign.scope)

def TerritoryDb.removedBy (db : TerritoryDb) (campaign : Campaign) (ids : List Nat) : List Nat :=
  entering (db.effective campaign.scope) (db.effective ids)

theorem startAdded_ok {campaign : Campaign} {now : Instant} {added : List Nat} :
    (startAdded tz campaign now added).exec db = (.ok (), db') ↔
      added = [] ∧ db' = db ∨
        added ≠ [] ∧ (startTransition tz campaign ⟨campaign.id, some added, now⟩).exec db =
          (.ok (), db') := by
  unfold startAdded
  split
  · next h => simp [h, eq_comm]
  · next h => simp [h]

/-- The rows outside `removed` are none of its business, so an empty list needs no case. -/
theorem endRemoved_exec {campaign : Campaign} {now : Instant} {removed : List Nat} :
    (endRemoved campaign now removed).exec db = (.ok (), if removed = [] then db
      else db.released campaign ⟨campaign.id, some removed, now⟩) := by
  unfold endRemoved
  split
  · rfl
  · exact endTransition_exec

/-- A scope edit: of an active campaign a start, an end and a write, else the write alone. -/
theorem applyScopeChange_ok {campaign : Campaign} {ids : List Nat} {now : Instant} :
    (applyScopeChange tz campaign ids now).exec db = (.ok (), db') ↔
      campaign.active = false ∧ (replaceScope campaign.id ids).exec db = (.ok (), db') ∨
        campaign.active = true ∧ ∃ db₁,
          (startAdded tz campaign now (db.addedBy campaign ids)).exec db = (.ok (), db₁) ∧
          (replaceScope campaign.id ids).exec (if db.removedBy campaign ids = [] then db₁
            else db₁.released campaign ⟨campaign.id, some (db.removedBy campaign ids), now⟩) =
              (.ok (), db') := by
  unfold applyScopeChange
  cases campaign.active with
  | false => simp
  | true =>
    rw [if_pos rfl, Tx.exec_bind_get]
    refine Tx.exec_seq_ok.trans ?_
    constructor
    · rintro ⟨db₁, hfirst, hrest⟩
      obtain ⟨db₂, hsecond, hscope⟩ := Tx.exec_seq_ok.mp hrest
      have hreleased := endRemoved_exec.symm.trans hsecond
      refine .inr ⟨rfl, db₁, hfirst, ?_⟩
      obtain rfl : _ = db₂ := congrArg Prod.snd hreleased
      exact hscope
    · intro h
      obtain ⟨_, db₁, hfirst, hscope⟩ := h.resolve_left (by simp)
      exact ⟨db₁, hfirst, Tx.exec_seq_ok.mpr ⟨_, endRemoved_exec, hscope⟩⟩

/-! ## What the transitions leave alone -/

section Outside

variable {campaign : Campaign} {t : CampaignTransition}

theorem mem_started_outside {a : Attribution} (ha : a ∈ (db.started campaign t).attributions)
    (houtside : t.covers a.territoryId = false) : a ∈ db.attributions := by
  unfold TerritoryDb.started at ha
  split at ha
  · rcases mem_updateAttributions_cases ha with ⟨hold, _⟩ | ⟨a₀, _, hsel, rfl⟩
    · exact hold
    · have hcovers : t.covers a₀.territoryId = false := houtside
      simp [CampaignTransition.openRegulars, hcovers] at hsel
  · rcases mem_updateAttributions_cases ha with ⟨hold, _⟩ | ⟨a₀, _, hsel, rfl⟩
    · exact hold
    · have hcovers : t.covers a₀.territoryId = false := houtside
      simp [CampaignTransition.allOpenRegulars, hcovers] at hsel
  · exact ha

theorem mem_reassigned {row : Attribution} (hrow : row ∈ campaign.reassigned t db) :
    row ∈ db.attributions ∧ t.openRegulars row = true ∧ campaign.startRegularAction = .pause := by
  unfold Campaign.reassigned at hrow
  split at hrow
  · next h =>
    rw [List.mem_filter] at hrow
    exact ⟨hrow.1, hrow.2, h.1⟩
  · exact absurd hrow List.not_mem_nil

/-- A start transition writes no row on a territory it does not cover. -/
theorem startTransition_outside {db₁ : TerritoryDb}
    (h : (startTransition tz campaign t).exec db = (.ok (), db₁)) {a : Attribution}
    (ha : a ∈ db₁.attributions) (houtside : t.covers a.territoryId = false) :
    a ∈ db.attributions := by
  rw [startTransition_exec] at h
  have hkeeps : Tx.Keeps (fun s => ∀ a ∈ s.attributions, t.covers a.territoryId = false →
      a ∈ db.attributions) (reassignIntoCampaign tz campaign t.now (campaign.reassigned t db)) := by
    refine reassign_keeps fun row hrow s territory startDate hs _ a ha houtside => ?_
    rcases List.mem_append.mp ha with hold | hnew
    · exact hs a hold houtside
    · rw [List.mem_singleton.mp hnew] at houtside
      have hcovers : t.covers row.territoryId = false := houtside
      have hopen := (mem_reassigned hrow).2.1
      simp [CampaignTransition.openRegulars, hcovers] at hopen
  exact hkeeps.of_ok h (fun a ha houtside => mem_started_outside ha houtside) a ha houtside

theorem mem_ownClosed_open {a : Attribution} (ha : a ∈ (db.ownClosed campaign t).attributions)
    (hopen : a.endDate = none) : a ∈ db.attributions := by
  unfold TerritoryDb.ownClosed at ha
  split at ha
  · rcases mem_updateAttributions_cases ha with ⟨hold, _⟩ | ⟨a₀, _, _, rfl⟩
    · exact hold
    · simp [Attribution.returned] at hopen
  · exact ha

theorem entering_disjoint {xs ys : List Nat} {id : Nat} (h : id ∈ entering xs ys) :
    id ∉ entering ys xs := by
  simp only [entering, List.mem_filter, Bool.not_eq_true', List.contains_eq_mem,
    decide_eq_false_iff_not] at h ⊢
  exact fun h' => h'.2 h.1

end Outside

/-! ## What every request keeps -/

/-- Kept by the ways the services write: rows updated in place, an attribution assigned, a campaign
created or deleted. -/
structure KeptByWrites (tz : LocalTime) (I : TerritoryDb → Prop) : Prop where
  rows : ∀ {db sel data}, (∀ a, Attribution.id (data a) = a.id) →
    (∀ a, (data a).territoryId = a.territoryId) → I db → I (db.updateAttributions sel data)
  campaigns : ∀ {db csel cdata}, (∀ c, Campaign.id (cdata c) = c.id) → I db →
    I (db.updateCampaigns csel cdata)
  assigned : ∀ {db params territory startDate}, Assignable tz db params territory startDate →
    I db → I (db.createAttribution (newAttribution tz db params territory startDate))
  created : ∀ {db params window ids}, I db →
    I (db.createCampaignRow (newCampaign params window ids))
  deleted : ∀ {db id}, I db → I { db with campaigns := db.campaigns.filter fun c => c.id != id }

namespace KeptByWrites

variable {I : TerritoryDb → Prop} {campaign : Campaign} {now : Instant} {t : CampaignTransition}

theorem reassign (hI : KeptByWrites tz I) {rows : List Attribution} :
    Tx.Keeps I (reassignIntoCampaign tz campaign now rows) :=
  reassign_keeps fun _ _ _ _ _ h hassignable => hI.assigned hassignable h

theorem started (hI : KeptByWrites tz I) (h : I db) : I (db.started campaign t) := by
  unfold TerritoryDb.started
  split
  · exact hI.rows (fun _ => rfl) (fun _ => rfl) h
  · exact hI.rows (fun _ => rfl) (fun _ => rfl) h
  · exact h

theorem startTransition (hI : KeptByWrites tz I) :
    Tx.Keeps I (startTransition tz campaign t) := by
  intro s hs
  rw [startTransition_exec]
  exact hI.reassign _ (hI.started hs)

theorem released (hI : KeptByWrites tz I) (h : I db) : I (db.released campaign t) := by
  have hown : I (db.ownClosed campaign t) := by
    unfold TerritoryDb.ownClosed
    split
    · exact hI.rows (fun _ => rfl) (fun _ => rfl) h
    · exact h
  unfold TerritoryDb.released TerritoryDb.pausedReleased
  split
  · exact hI.rows (fun _ => rfl) (fun _ => rfl) hown
  · exact hown
  · exact hI.rows (fun _ => rfl) (fun _ => rfl) hown

theorem endTransition (hI : KeptByWrites tz I) : Tx.Keeps I (endTransition campaign t) := by
  intro s hs
  rw [endTransition_exec]
  exact hI.released hs

theorem updateCampaignRow (hI : KeptByWrites tz I) {id : Nat} {data : Campaign → Campaign}
    (hid : ∀ c, (data c).id = c.id) : Tx.Keeps I (updateCampaignRow id data) :=
  Tx.keeps_checked fun _ _ h _ => hI.campaigns hid h

theorem markActivated (hI : KeptByWrites tz I) {id : Nat} : Tx.Keeps I (markActivated id now) :=
  hI.updateCampaignRow fun _ => rfl

theorem markEnded (hI : KeptByWrites tz I) {id : Nat} : Tx.Keeps I (markEnded id now) :=
  hI.updateCampaignRow fun _ => rfl

theorem activateCampaign (hI : KeptByWrites tz I) :
    Tx.Keeps I (activateCampaign tz campaign now) := by
  unfold Territories.activateCampaign
  split
  · exact Tx.keeps_pure _
  · exact hI.markActivated.bind fun _ => hI.startTransition

theorem endCampaign (hI : KeptByWrites tz I) : Tx.Keeps I (endCampaign campaign now) := by
  unfold Territories.endCampaign
  split
  · exact Tx.keeps_pure _
  · exact hI.markEnded.bind fun _ => hI.endTransition

theorem replaceScope (hI : KeptByWrites tz I) {id : Nat} {ids : List Nat} :
    Tx.Keeps I (replaceScope id ids) :=
  Tx.keeps_checked fun _ _ h _ => hI.campaigns (fun _ => rfl) h

theorem startAdded (hI : KeptByWrites tz I) {added : List Nat} :
    Tx.Keeps I (startAdded tz campaign now added) := by
  unfold Territories.startAdded
  split
  · exact Tx.keeps_pure _
  · exact hI.startTransition

theorem endRemoved (hI : KeptByWrites tz I) {removed : List Nat} :
    Tx.Keeps I (endRemoved campaign now removed) := by
  unfold Territories.endRemoved
  split
  · exact Tx.keeps_pure _
  · exact hI.endTransition

theorem applyScopeChange (hI : KeptByWrites tz I) {ids : List Nat} :
    Tx.Keeps I (applyScopeChange tz campaign ids now) := by
  unfold Territories.applyScopeChange
  split
  · exact .get_bind fun _ => hI.startAdded.bind fun _ => hI.endRemoved.bind fun _ =>
      hI.replaceScope
  · exact hI.replaceScope

theorem updateCampaign (hI : KeptByWrites tz I) {id : Nat} {params : CampaignParams} :
    Tx.Keeps I (updateCampaign tz id params) :=
  Tx.keeps_checked fun _ _ h _ => hI.campaigns (fun _ => rfl) h

theorem sweep (hI : KeptByWrites tz I) : Tx.Keeps I (runCampaignLifecycleSweep tz now) :=
  .get_bind fun _ => Tx.Keeps.bind (.forM fun _ _ => hI.activateCampaign) fun _ =>
    .get_bind fun _ => .forM fun _ _ => hI.endCampaign

theorem withCampaign {id : Nat} {body : Campaign → TerritoryTx Unit}
    (h : ∀ c, Tx.Keeps I (body c)) : Tx.Keeps I (withCampaign id body) := by
  refine .get_bind fun s => ?_
  cases s.getCampaign id with
  | none => exact Tx.keeps_pure _
  | some c => exact h c

/-- What the writes keep, every request keeps. -/
theorem step (hI : KeptByWrites tz I) (request : Request) (h : I db) : I (step tz db request) := by
  refine Tx.Keeps.settle (I := I) ?_ h
  cases request with
  | assign params => exact assign_keeps fun _ _ _ h hassignable => hI.assigned hassignable h
  | update id params =>
    exact Tx.keeps_checked fun _ _ h _ => hI.rows (fun _ => rfl) (fun _ => rfl) h
  | markReturned id endDate =>
    exact Tx.keeps_checked fun _ _ h _ => hI.rows (fun _ => rfl) (fun _ => rfl) h
  | markReturnedForPublisher publisherId endDate =>
    exact Tx.keeps_modify fun _ h => hI.rows (fun _ => rfl) (fun _ => rfl) h
  | pause id campaignId now =>
    exact Tx.keeps_checked fun _ _ h _ => hI.rows (fun _ => rfl) (fun _ => rfl) h
  | resume id now =>
    exact Tx.keeps_checked fun _ _ h _ => hI.rows (fun _ => rfl) (fun _ => rfl) h
  | createCampaign params ids =>
    refine Tx.Keeps.bind (.get_bind fun _ => (Tx.keeps_check _).bind fun _ => ?_)
      fun _ => Tx.keeps_pure _
    exact (Tx.keeps_modify fun _ h => hI.created h).bind fun _ => Tx.keeps_pure _
  | updateCampaign id params => exact hI.updateCampaign
  | deleteCampaign id => exact Tx.keeps_checked fun _ _ h _ => hI.deleted h
  | activateCampaign id now => exact withCampaign fun _ => hI.activateCampaign
  | endCampaign id now => exact withCampaign fun _ => hI.endCampaign
  | applyScopeChange id ids now => exact withCampaign fun _ => hI.applyScopeChange
  | editCampaign id params ids now =>
    exact withCampaign fun _ => hI.updateCampaign.bind fun _ => hI.applyScopeChange
  | sweep now => exact hI.sweep

end KeptByWrites

theorem valid_keptByWrites : KeptByWrites tz TerritoryDb.Valid where
  rows := fun hid _ h => h.updateAttributions hid
  campaigns := fun hid h => h.updateCampaigns hid
  assigned := fun _ h => h.createAttribution fun _ => rfl
  created := fun h => h.createCampaignRow fun _ => rfl
  deleted := fun h => ⟨h.attributions, h.campaigns.filter _, h.attributions_lt,
    fun c hc => h.campaigns_lt c (List.mem_of_mem_filter hc)⟩

/-- **The keys survive every request.** -/
theorem step_valid (tz : LocalTime) (request : Request) (h : db.Valid) :
    (step tz db request).Valid :=
  valid_keptByWrites.step request h

/-- The foreign key of attributions: each row is on a territory that exists. -/
def Placed (db : TerritoryDb) : Prop :=
  ∀ a ∈ db.attributions, a.territoryId ∈ db.listAllTerritoryIds

instance (db : TerritoryDb) : Decidable (Placed db) := inferInstanceAs (Decidable (∀ _ ∈ _, _))

theorem placed_keptByWrites : KeptByWrites tz Placed where
  rows := by
    intro db sel data _ hterritory h a' ha'
    obtain ⟨a, ha, rfl⟩ := mem_updateAttributions.mp ha'
    have hsame : (if sel a then data a else a).territoryId = a.territoryId :=
      column_ite (hterritory a)
    rw [hsame]
    exact h a ha
  campaigns := fun _ h => h
  assigned := by
    intro db params territory startDate hassignable h a ha
    rcases List.mem_append.mp ha with hold | hnew
    · exact h a hold
    · rw [List.mem_singleton.mp hnew]
      have hfound := hassignable.territory
      have hid : territory.id = params.territoryId := by simpa using List.find?_some hfound
      exact List.mem_map.mpr ⟨territory, List.mem_of_find?_eq_some hfound, hid⟩
  created := fun h => h
  deleted := fun h => h

/-- No request writes the territories. -/
theorem territories_keptByWrites {ts : List Territory} :
    KeptByWrites tz fun db => db.territories = ts where
  rows := fun _ _ h => h
  campaigns := fun _ h => h
  assigned := fun _ h => h
  created := fun h => h
  deleted := fun h => h

/-- **Each row stays on a territory that exists.** -/
theorem step_placed (tz : LocalTime) (request : Request) (h : Placed db) :
    Placed (step tz db request) :=
  placed_keptByWrites.step request h

end Unitae.Territories
