import Unitae.Territories.Pause

/-!
# Unitae — campaigns (`campaign.aggregate.ts`)

Creating, editing and deleting a campaign, its scope, and the two lifecycle stamps.
-/

namespace Unitae.Territories

/-! ## Windows -/

structure CampaignWindow where
  startDate : Instant
  endDate : Instant
deriving DecidableEq, Repr

def CampaignWindow.span (w : CampaignWindow) : Span Instant := ⟨w.startDate, some w.endDate⟩

def Campaign.window (c : Campaign) : CampaignWindow := ⟨c.startDate, c.endDate⟩

/-- Two windows overlap iff each starts on or before the other ends. -/
def campaignWindowsOverlap (a b : CampaignWindow) : Bool :=
  a.startDate ≤ b.endDate && b.startDate ≤ a.endDate

theorem campaignWindowsOverlap_iff {a b : CampaignWindow} :
    campaignWindowsOverlap a b = true ↔ a.span.Overlaps b.span := by
  simp [campaignWindowsOverlap, CampaignWindow.span, Span.Overlaps, Span.Reaches, and_comm]

/-- `_assertNoWindowOverlap`. -/
def assertNoWindowOverlap (db : TerritoryDb) (candidate : CampaignWindow)
    (excludeId : Option Nat) : Except Failure Unit :=
  let candidates := db.campaigns.filter fun c => excludeId.all fun id => c.id != id
  Tx.refuseWhen (candidates.any fun c => campaignWindowsOverlap candidate c.window)
    (.app (.conflict "campaign_overlap"))

theorem assertNoWindowOverlap_ok {db : TerritoryDb} {candidate : CampaignWindow}
    {excludeId : Option Nat} :
    assertNoWindowOverlap db candidate excludeId = .ok () ↔
      ∀ c ∈ db.campaigns, (∀ id ∈ excludeId, c.id ≠ id) →
        ¬candidate.span.Overlaps c.window.span := by
  have hover : ∀ c : Campaign, campaignWindowsOverlap candidate c.window = true ↔
      candidate.span.Overlaps c.window.span := fun c => campaignWindowsOverlap_iff
  unfold assertNoWindowOverlap
  rw [Tx.refuseWhen_ok]
  simp only [List.any_filter, List.any_eq_true, Bool.and_eq_true, Option.all_eq_true, bne_iff_ne,
    hover, not_exists, not_and]
  rfl

/-! ## Creating, editing, deleting -/

structure CampaignParams where
  name : String
  notes : String
  startDate : String
  endDate : String
  restPeriodDays : Option Nat
  startRegularAction : CampaignRegularStartAction
  startAutoReassign : Bool
  endCloseCampaign : Bool
  endRegularAction : CampaignRegularEndAction
deriving DecidableEq, Repr

/-- A window is stored only when both its dates are dates. -/
def windowOf (startDate endDate : Option Instant) : Except Failure CampaignWindow :=
  match startDate, endDate with
  | some startDate, some endDate => .ok ⟨startDate, endDate⟩
  | _, _ => .error (.database .invalidDate)

theorem windowOf_ok {startDate endDate : Option Instant} {w : CampaignWindow} :
    windowOf startDate endDate = .ok w ↔
      startDate = some w.startDate ∧ endDate = some w.endDate := by
  obtain ⟨wStart, wEnd⟩ := w
  cases startDate <;> cases endDate <;> simp [windowOf]

/-- The rows of `CampaignTerritory` are keyed by campaign and territory, and refer to both. -/
def scopeChecks (db : TerritoryDb) (territoryIds : List Nat) : Except Failure Unit := do
  Tx.refuseWhen (¬territoryIds.Nodup) (.database .uniqueConstraint)
  Tx.refuseWhen (¬∀ id ∈ territoryIds, (db.territoryById id).isSome) (.database .foreignKey)

/-- The row of a new campaign. -/
def newCampaign (params : CampaignParams) (window : CampaignWindow) (scopeTerritoryIds : List Nat)
    (id : Nat) : Campaign where
  id := id
  name := params.name
  notes := params.notes
  startDate := window.startDate
  endDate := window.endDate
  restPeriodDays := params.restPeriodDays
  startRegularAction := params.startRegularAction
  startAutoReassign := params.startAutoReassign
  endCloseCampaign := params.endCloseCampaign
  endRegularAction := params.endRegularAction
  activatedAt := none
  endedAt := none
  scope := scopeTerritoryIds

def createCampaignChecks (tz : LocalTime) (db : TerritoryDb) (params : CampaignParams)
    (scopeTerritoryIds : List Nat) : Except Failure CampaignWindow := do
  let window ← windowOf (parseLocalDate tz params.startDate) (parseLocalDate tz params.endDate)
  assertNoWindowOverlap db window none
  scopeChecks db scopeTerritoryIds
  return window

def createCampaign (tz : LocalTime) (params : CampaignParams) (scopeTerritoryIds : List Nat) :
    TerritoryTx Nat := do
  let db ← get
  let window ← Tx.check (createCampaignChecks tz db params scopeTerritoryIds)
  modify (·.createCampaignRow (newCampaign params window scopeTerritoryIds))
  return db.nextCampaignId

/-- Once a campaign has started, its start date is frozen. -/
def Campaign.nextStart (c : Campaign) (tz : LocalTime) (params : CampaignParams) :
    Option Instant :=
  if c.activatedAt.isSome then some c.startDate else parseLocalDate tz params.startDate

def updateCampaignChecks (tz : LocalTime) (db : TerritoryDb) (id : Nat)
    (params : CampaignParams) : Except Failure CampaignWindow :=
  match db.getCampaign id with
  | none => .error (.app (.notFound "Campaign" (some id)))
  | some existing => do
    let window ← windowOf (existing.nextStart tz params) (parseLocalDate tz params.endDate)
    assertNoWindowOverlap db window (some id)
    return window

/-- The columns an edit writes: the start options freeze with the start, the scope is not touched. -/
def CampaignParams.data (params : CampaignParams) (window : CampaignWindow) (c : Campaign) :
    Campaign :=
  { c with
    name := params.name
    notes := params.notes
    startDate := window.startDate
    endDate := window.endDate
    restPeriodDays := params.restPeriodDays
    startRegularAction :=
      if c.activatedAt.isSome then c.startRegularAction else params.startRegularAction
    startAutoReassign :=
      if c.activatedAt.isSome then c.startAutoReassign else params.startAutoReassign
    endCloseCampaign := params.endCloseCampaign
    endRegularAction := params.endRegularAction }

def updateCampaign (tz : LocalTime) (id : Nat) (params : CampaignParams) : TerritoryTx Unit := do
  let db ← get
  let window ← Tx.check (updateCampaignChecks tz db id params)
  modify (·.updateCampaigns (·.id == id) (params.data window))

/-- Raw scope replacement, without lifecycle side effects. -/
def replaceScope (campaignId : Nat) (territoryIds : List Nat) : TerritoryTx Unit := do
  let db ← get
  Tx.check do
    scopeChecks db territoryIds
    Tx.refuseWhen (territoryIds ≠ [] ∧ (db.getCampaign campaignId).isNone) (.database .foreignKey)
  modify (·.updateCampaigns (·.id == campaignId) fun c => { c with scope := territoryIds })

/-- Attribution history refers to the campaign. -/
def TerritoryDb.references (db : TerritoryDb) (campaignId : Nat) : Bool :=
  db.attributions.any fun a =>
    a.campaignId == some campaignId || a.pausedByCampaignId == some campaignId

def deleteCampaignChecks (db : TerritoryDb) (id : Nat) : Except Failure Unit :=
  match db.getCampaign id with
  | none => .error (.app (.notFound "Campaign" (some id)))
  | some existing => do
    Tx.refuseWhen existing.active (.app (.conflict "campaign_active"))
    Tx.refuseWhen (db.references id) (.app (.conflict "campaign_has_attributions"))

def deleteCampaign (id : Nat) : TerritoryTx Unit := do
  let db ← get
  Tx.check (deleteCampaignChecks db id)
  modify fun db => { db with campaigns := db.campaigns.filter fun c => c.id != id }

/-- Lifecycle stamp: campaign mode turns on the moment this is set. -/
def markActivated (id : Nat) (now : Instant) : TerritoryTx Unit :=
  updateCampaignRow id fun c => { c with activatedAt := some now }

/-- Lifecycle stamp: campaign mode turns off the moment this is set. -/
def markEnded (id : Nat) (now : Instant) : TerritoryTx Unit :=
  updateCampaignRow id fun c => { c with endedAt := some now }

/-- The store after the stamp `activatedAt`. -/
def TerritoryDb.stampActivated (db : TerritoryDb) (id : Nat) (now : Instant) : TerritoryDb :=
  db.updateCampaigns (·.id == id) fun c => { c with activatedAt := some now }

/-- The store after the stamp `endedAt`. -/
def TerritoryDb.stampEnded (db : TerritoryDb) (id : Nat) (now : Instant) : TerritoryDb :=
  db.updateCampaigns (·.id == id) fun c => { c with endedAt := some now }

/-! ## What a call that goes through does -/

section Inversion

variable {tz : LocalTime} {db db' : TerritoryDb} {id : Nat} {params : CampaignParams}
  {territoryIds : List Nat}

theorem updateCampaignRow_ok {data : Campaign → Campaign} :
    (updateCampaignRow id data).exec db = (.ok (), db') ↔
      (∃ c, db.getCampaign id = some c) ∧ db' = db.updateCampaigns (·.id == id) data := by
  unfold updateCampaignRow
  rw [Tx.exec_bind_get, Tx.exec_check_modify_ok, Tx.refuseWhen_ok, Option.isNone_iff_eq_none,
    ← ne_eq, ← Option.isSome_iff_ne_none, Option.isSome_iff_exists]

theorem markActivated_ok {now : Instant} :
    (markActivated id now).exec db = (.ok (), db') ↔
      (∃ c, db.getCampaign id = some c) ∧ db' = db.stampActivated id now :=
  updateCampaignRow_ok

theorem markEnded_ok {now : Instant} :
    (markEnded id now).exec db = (.ok (), db') ↔
      (∃ c, db.getCampaign id = some c) ∧ db' = db.stampEnded id now :=
  updateCampaignRow_ok

theorem createCampaign_ok {newId : Nat} :
    (createCampaign tz params territoryIds).exec db = (.ok newId, db') ↔ ∃ window,
      windowOf (parseLocalDate tz params.startDate) (parseLocalDate tz params.endDate) =
          .ok window ∧
        assertNoWindowOverlap db window none = .ok () ∧ scopeChecks db territoryIds = .ok () ∧
        newId = db.nextCampaignId ∧
        db' = db.createCampaignRow (newCampaign params window territoryIds) := by
  unfold createCampaign createCampaignChecks
  rw [Tx.exec_bind_get, Tx.exec_bind_check_ok]
  simp only [Tx.bind_eq_ok, Tx.exists_unit, Tx.exec_bind_modify, Tx.exec_pure, Prod.mk.injEq,
    Except.ok.injEq]
  constructor
  · rintro ⟨window, ⟨w, hw, hover, hscope, hret⟩, rfl, rfl⟩
    obtain rfl : w = window := Except.ok.inj hret
    exact ⟨w, hw, hover, hscope, rfl, rfl⟩
  · rintro ⟨window, hw, hover, hscope, rfl, rfl⟩
    exact ⟨window, ⟨window, hw, hover, hscope, rfl⟩, rfl, rfl⟩

theorem updateCampaign_ok :
    (updateCampaign tz id params).exec db = (.ok (), db') ↔ ∃ existing window,
      db.getCampaign id = some existing ∧
        windowOf (existing.nextStart tz params) (parseLocalDate tz params.endDate) = .ok window ∧
        assertNoWindowOverlap db window (some id) = .ok () ∧
        db' = db.updateCampaigns (·.id == id) (params.data window) := by
  unfold updateCampaign updateCampaignChecks
  rw [Tx.exec_bind_get, Tx.exec_bind_check_ok]
  cases db.getCampaign id with
  | none => simp
  | some existing =>
    simp only [Tx.bind_eq_ok, Tx.exists_unit, Tx.exec_modify, Prod.mk.injEq, true_and,
      Option.some.injEq]
    constructor
    · rintro ⟨window, ⟨w, hw, hover, hret⟩, rfl⟩
      obtain rfl : w = window := Except.ok.inj hret
      exact ⟨existing, w, rfl, hw, hover, rfl⟩
    · rintro ⟨_, window, rfl, hw, hover, rfl⟩
      exact ⟨window, ⟨window, hw, hover, rfl⟩, rfl⟩

theorem replaceScope_ok {campaignId : Nat} :
    (replaceScope campaignId territoryIds).exec db = (.ok (), db') ↔
      scopeChecks db territoryIds = .ok () ∧
        ¬(territoryIds ≠ [] ∧ (db.getCampaign campaignId).isNone) ∧
        db' = db.updateCampaigns (·.id == campaignId) fun c => { c with scope := territoryIds } := by
  unfold replaceScope
  rw [Tx.exec_bind_get, Tx.exec_check_modify_ok, Tx.bind_eq_ok, Tx.exists_unit, Tx.refuseWhen_ok,
    and_assoc]

theorem deleteCampaign_ok :
    (deleteCampaign id).exec db = (.ok (), db') ↔ (∃ existing, db.getCampaign id = some existing ∧
      existing.active = false ∧ db.references id = false) ∧
        db' = { db with campaigns := db.campaigns.filter fun c => c.id != id } := by
  unfold deleteCampaign deleteCampaignChecks
  rw [Tx.exec_bind_get, Tx.exec_check_modify_ok]
  cases db.getCampaign id with
  | none => simp
  | some existing =>
    simp only [Tx.bind_eq_ok, Tx.exists_unit, Tx.refuseWhen_ok, Option.some.injEq]
    simp

end Inversion

/-! ## The windows after a write -/

section Windows

variable {db db' : TerritoryDb} {params : CampaignParams} {window : CampaignWindow} {ids : List Nat}

/-- A new campaign is scheduled. -/
theorem mem_of_created_active {c : Campaign}
    (hc : c ∈ (db.createCampaignRow (newCampaign params window ids)).campaigns)
    (hactive : c.active = true) : c ∈ db.campaigns := by
  rcases List.mem_append.mp hc with hold | hnew
  · exact hold
  · rw [List.mem_singleton.mp hnew] at hactive
    exact absurd hactive (by simp [newCampaign, Campaign.active])

theorem windowsApart_created (h : Apart Campaign.id (fun _ => ()) (fun c => c.window.span) db.campaigns)
    (hclear : assertNoWindowOverlap db window none = .ok ()) :
    Apart Campaign.id (fun _ => ()) (fun c => c.window.span)
      (db.createCampaignRow (newCampaign params window ids)).campaigns := by
  refine h.append_one fun c hc _ => ?_
  exact assertNoWindowOverlap_ok.mp hclear c hc fun _ hid => by simp at hid

theorem windowsApart_edited (h : Apart Campaign.id (fun _ => ()) (fun c => c.window.span) db.campaigns)
    {id : Nat} (hclear : assertNoWindowOverlap db window (some id) = .ok ()) :
    Apart Campaign.id (fun _ => ()) (fun c => c.window.span)
      (db.updateCampaigns (·.id == id) (params.data window)).campaigns := by
  have hsel : (db.updateCampaigns (·.id == id) (params.data window)).campaigns =
      db.campaigns.map fun c => if c.id = id then params.data window c else c := by
    simp [TerritoryDb.updateCampaigns]
  rw [hsel]
  refine h.rewrite (fun _ => rfl) ?_
  intro c _ _ d hd hne _
  exact assertNoWindowOverlap_ok.mp hclear d hd fun k hk => by
    rw [← Option.some.inj hk]
    exact hne

/-- Campaigns that keep their windows keep them apart. -/
theorem windowsApart_of_rows (h : Apart Campaign.id (fun _ => ()) (fun c => c.window.span) db.campaigns)
    (hrows : ∀ c' ∈ db'.campaigns, ∃ c ∈ db.campaigns, c'.id = c.id ∧ c'.window = c.window) :
    Apart Campaign.id (fun _ => ()) (fun c => c.window.span) db'.campaigns := by
  intro c' hc' d' hd' hne _
  obtain ⟨c, hc, hcid, hcwindow⟩ := hrows c' hc'
  obtain ⟨d, hd, hdid, hdwindow⟩ := hrows d' hd'
  show ¬c'.window.span.Overlaps d'.window.span
  rw [hcwindow, hdwindow]
  rw [hcid, hdid] at hne
  exact h c hc d hd hne rfl

/-- One campaign is active as long as no row becomes so. -/
theorem oneActive_of_rows
    (h : ∀ c ∈ db.campaigns, ∀ d ∈ db.campaigns, c.active = true → d.active = true → c.id = d.id)
    (hrows : ∀ c' ∈ db'.campaigns, c'.active = true →
      ∃ c ∈ db.campaigns, c.active = true ∧ c'.id = c.id) :
    ∀ c ∈ db'.campaigns, ∀ d ∈ db'.campaigns, c.active = true → d.active = true → c.id = d.id := by
  intro c' hc' d' hd' hcactive hdactive
  obtain ⟨c, hc, hcold, hcid⟩ := hrows c' hc' hcactive
  obtain ⟨d, hd, hdold, hdid⟩ := hrows d' hd' hdactive
  rw [hcid, hdid]
  exact h c hc d hd hcold hdold

end Windows

end Unitae.Territories
