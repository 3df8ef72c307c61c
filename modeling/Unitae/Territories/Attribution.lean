import Unitae.Base.Span
import Unitae.Territories.Schema

/-!
# Unitae — attributions (`attribution.aggregate.ts`)

Assigning a territory to a publisher, editing an attribution, returning one or all of a publisher's.
A service is its checks, which read the store, followed by its writes.
-/

namespace Unitae.Territories

/-! ## The overlap rule -/

def Attribution.span (a : Attribution) : Span Instant := ⟨a.startDate, a.endDate⟩

/-- Overlap is layer-scoped: regular and campaign work coexist by design. -/
def Attribution.lane (a : Attribution) : Nat × Nat × Option Nat :=
  (a.publisherId, a.territoryId, a.campaignId)

/-- Each interval starts on or before the other ends; no end date is "still active". -/
def attributionsOverlap (a b : Span Instant) : Bool :=
  let aEndsAfterBStart := match a.stop with
    | none => true
    | some endDate => b.start ≤ endDate
  let bEndsAfterAStart := match b.stop with
    | none => true
    | some endDate => a.start ≤ endDate
  aEndsAfterBStart && bEndsAfterAStart

theorem attributionsOverlap_iff {a b : Span Instant} :
    attributionsOverlap a b = true ↔ a.Overlaps b := by
  obtain ⟨aStart, aStop⟩ := a
  obtain ⟨bStart, bStop⟩ := b
  cases aStop <;> cases bStop <;>
    simp [attributionsOverlap, Span.Overlaps, Span.Reaches]

def attributionOverlap : Failure := .app (.conflict "attribution_overlap")

def overlapCandidates (db : TerritoryDb) (lane : Nat × Nat × Option Nat) (excludeId : Option Nat) :
    List Attribution :=
  db.attributions.filter fun a => a.lane == lane && excludeId.all fun id => a.id != id

/-- `_assertNoActiveOverlap`. -/
def assertNoActiveOverlap (db : TerritoryDb) (lane : Nat × Nat × Option Nat)
    (candidate : Span Instant) (excludeId : Option Nat) : Except Failure Unit :=
  Tx.refuseWhen
    ((overlapCandidates db lane excludeId).any fun a => attributionsOverlap candidate a.span)
    attributionOverlap

theorem assertNoActiveOverlap_ok {db : TerritoryDb} {lane : Nat × Nat × Option Nat}
    {candidate : Span Instant} {excludeId : Option Nat} :
    assertNoActiveOverlap db lane candidate excludeId = .ok () ↔
      ∀ a ∈ db.attributions, a.lane = lane → (∀ id ∈ excludeId, a.id ≠ id) →
        ¬candidate.Overlaps a.span := by
  have hover : ∀ a : Attribution, attributionsOverlap candidate a.span = true ↔
      candidate.Overlaps a.span := fun a => attributionsOverlap_iff
  unfold assertNoActiveOverlap overlapCandidates
  rw [Tx.refuseWhen_ok]
  simp only [List.any_filter, List.any_eq_true, Bool.and_eq_true, beq_iff_eq, Option.all_eq_true,
    bne_iff_ne, hover, not_exists, not_and, and_imp]
  rfl

/-! ## Assigning -/

/-- How long an attribution lasts when no setting says otherwise. -/
def defaultDurationDays : Rat := 120
def phoneDurationDays : Rat := 14
def commerceDurationDays : Rat := 120

/-- A setting counts when it is there and not the empty text. -/
def settingText (value : Option String) : Option String := value.filter fun text => text != ""

def parsePositiveDays (tz : LocalTime) (value : Option String) (fallback : Rat) : Rat :=
  (((settingText value).bind tz.number).filter fun days => 0 < days).getD fallback

/-- `_resolveDurationDays`; the legacy setting in months comes last. -/
def resolveDurationDays (tz : LocalTime) (db : TerritoryDb)
    (attributionType : TerritoryAttributionKind) (territoryType : TerritoryKindKey) : Rat :=
  if attributionType = .phone then
    parsePositiveDays tz (db.getSetting .attributionPhoneDurationDays) phoneDurationDays
  else if territoryType = .commerces then
    parsePositiveDays tz (db.getSetting .attributionCommerceDurationDays) commerceDurationDays
  else
    let setting := db.getSetting .attributionDefaultDurationDays
    if (settingText setting).isSome then parsePositiveDays tz setting defaultDurationDays
    else
      let legacyMonths := db.getSetting .attributionDefaultDurationMonths
      let months := parsePositiveDays tz legacyMonths 0
      if (settingText legacyMonths).isSome ∧ 0 < months then months * 30 else defaultDurationDays

structure CreateAttributionParams where
  publisherId : Nat
  territoryId : Nat
  startDate : String
  notes : String
  type : TerritoryAttributionKind
  campaignId : Option Nat
deriving DecidableEq, Repr

def CreateAttributionParams.lane (params : CreateAttributionParams) : Nat × Nat × Option Nat :=
  (params.publisherId, params.territoryId, params.campaignId)

/-- While a campaign is active no regular attribution can be created anywhere, and campaign
attributions only for the active campaign. -/
def campaignModeGuard (activeCampaign : Option Campaign) (campaignId : Option Nat) :
    Except Failure Unit :=
  match campaignId with
  | none => Tx.refuseWhen activeCampaign.isSome (.app (.conflict "campaign_mode_active"))
  | some campaignId =>
    Tx.refuseWhen (activeCampaign.map (·.id) ≠ some campaignId)
      (.app (.conflict "campaign_not_active"))

/-- An open, unpaused attribution of the territory: only a paused or returned one frees it. -/
def TerritoryDb.occupied (db : TerritoryDb) (territoryId : Nat) : Bool :=
  db.attributions.any fun a =>
    a.territoryId == territoryId && a.endDate.isNone && a.pausedAt.isNone

/-- Due when the campaign closes, if it closes its attributions; else after the usual duration. -/
def lateDateOf (tz : LocalTime) (db : TerritoryDb) (params : CreateAttributionParams)
    (territory : Territory) (startDate : Instant) : Instant :=
  match params.campaignId, db.getActiveCampaign with
  | some _, some campaign =>
    if campaign.endCloseCampaign then startOfNextDay tz campaign.endDate
    else tz.setDate startDate (tz.getDate startDate +
      resolveDurationDays tz db params.type territory.type)
  | _, _ => tz.setDate startDate (tz.getDate startDate +
      resolveDurationDays tz db params.type territory.type)

/-- The row of a new attribution. -/
def newAttribution (tz : LocalTime) (db : TerritoryDb) (params : CreateAttributionParams)
    (territory : Territory) (startDate : Instant) (id : Nat) : Attribution where
  id := id
  type := params.type
  publisherId := params.publisherId
  territoryId := params.territoryId
  startDate := startDate
  endDate := none
  lateDate := lateDateOf tz db params territory startDate
  notes := params.notes
  campaignId := params.campaignId
  pausedAt := none
  pausedByCampaignId := none

/-- `findUniqueOrThrow`. -/
def TerritoryDb.territoryOrThrow (db : TerritoryDb) (territoryId : Nat) :
    Except Failure Territory :=
  match db.territoryById territoryId with
  | none => .error (.database .recordNotFound)
  | some territory => .ok territory

/-- The parsed start. An invalid date compares to nothing, so only an open row stops it before the
database does. -/
def assignStart (tz : LocalTime) (db : TerritoryDb) (params : CreateAttributionParams) :
    Except Failure Instant :=
  match parseLocalDate tz params.startDate with
  | some startDate => .ok startDate
  | none =>
    if (overlapCandidates db params.lane none).any (·.endDate.isNone) then
      .error attributionOverlap
    else .error (.database .invalidDate)

/-- The row `assign` creates, or why it refuses. -/
def assignChecks (tz : LocalTime) (db : TerritoryDb) (params : CreateAttributionParams) :
    Except Failure (Nat → Attribution) := do
  campaignModeGuard db.getActiveCampaign params.campaignId
  let territory ← db.territoryOrThrow params.territoryId
  Tx.checkWhen params.campaignId.isSome
    (Tx.refuseWhen (db.occupied params.territoryId) (.app (.conflict "territory_occupied")))
  let startDate ← assignStart tz db params
  assertNoActiveOverlap db params.lane ⟨startDate, none⟩ none
  Tx.refuseWhen (¬params.publisherId ∈ db.members) (.database .foreignKey)
  return newAttribution tz db params territory startDate

def assign (tz : LocalTime) (params : CreateAttributionParams) : TerritoryTx Unit := do
  let db ← get
  let row ← Tx.check (assignChecks tz db params)
  modify (·.createAttribution row)

/-! ## Editing and returning -/

structure UpdateAttributionParams where
  publisherId : Nat
  notes : String
  type : TerritoryAttributionKind
  startDate : Instant
  lateDate : Option Instant
  endDate : Option Instant
deriving DecidableEq, Repr

/-- The end date after an edit: `params.endDate ?? existing.endDate`. -/
def UpdateAttributionParams.nextEnd (params : UpdateAttributionParams) (existing : Attribution) :
    Option Instant :=
  params.endDate.orElse fun _ => existing.endDate

def updateChecks (db : TerritoryDb) (id : Nat) (params : UpdateAttributionParams) :
    Except Failure Unit :=
  match db.attributionById id with
  | none => .error (.app (.notFound "Attribution" none))
  | some existing => do
    let nextEnd := params.nextEnd existing
    Tx.checkWhen (params.publisherId ≠ existing.publisherId ∨
        params.startDate ≠ existing.startDate ∨ nextEnd ≠ existing.endDate)
      (assertNoActiveOverlap db (params.publisherId, existing.territoryId, existing.campaignId)
        ⟨params.startDate, nextEnd⟩ (some id))
    Tx.refuseWhen (¬params.publisherId ∈ db.members) (.database .foreignKey)

/-- The columns an edit writes; a date left out is left alone. -/
def UpdateAttributionParams.data (params : UpdateAttributionParams) (a : Attribution) :
    Attribution :=
  { a with
    publisherId := params.publisherId
    notes := params.notes
    type := params.type
    startDate := params.startDate
    lateDate := params.lateDate.getD a.lateDate
    endDate := params.nextEnd a }

def update (id : Nat) (params : UpdateAttributionParams) : TerritoryTx Unit := do
  let db ← get
  Tx.check (updateChecks db id params)
  modify (·.updateAttributions (·.id == id) params.data)

/-- `data: { endDate }`. -/
def Attribution.returned (endDate : Instant) (a : Attribution) : Attribution :=
  { a with endDate := some endDate }

def markReturned (id : Nat) (endDate : Instant) : TerritoryTx Unit :=
  updateAttributionRow id (·.returned endDate)

def markReturnedForPublisher (publisherId : Nat) (endDate : Instant) : TerritoryTx Unit :=
  modify (·.updateAttributions (fun a => a.publisherId == publisherId && a.endDate.isNone)
    (·.returned endDate))

/-! ## What a call that goes through does -/

section Inversion

variable {tz : LocalTime} {db db' : TerritoryDb} {id : Nat}

theorem updateAttributionRow_ok {data : Attribution → Attribution} :
    (updateAttributionRow id data).exec db = (.ok (), db') ↔
      (∃ a, db.attributionById id = some a) ∧
        db' = db.updateAttributions (·.id == id) data := by
  unfold updateAttributionRow
  rw [Tx.exec_bind_get, Tx.exec_check_modify_ok, Tx.refuseWhen_ok, Option.isNone_iff_eq_none,
    ← ne_eq, ← Option.isSome_iff_ne_none, Option.isSome_iff_exists]

/-- What the checks of `assign` establish, and the row they let in. -/
structure Assignable (tz : LocalTime) (db : TerritoryDb) (params : CreateAttributionParams)
    (territory : Territory) (startDate : Instant) : Prop where
  mode : campaignModeGuard db.getActiveCampaign params.campaignId = .ok ()
  territory : db.territoryById params.territoryId = some territory
  free : params.campaignId.isSome → db.occupied params.territoryId = false
  start : parseLocalDate tz params.startDate = some startDate
  apart : assertNoActiveOverlap db params.lane ⟨startDate, none⟩ none = .ok ()
  publisher : params.publisherId ∈ db.members

theorem assignChecks_ok {params : CreateAttributionParams} {row : Nat → Attribution} :
    assignChecks tz db params = .ok row ↔ ∃ territory startDate,
      Assignable tz db params territory startDate ∧
        row = newAttribution tz db params territory startDate := by
  have hterritory : ∀ t, db.territoryOrThrow params.territoryId = .ok t ↔
      db.territoryById params.territoryId = some t := by
    intro t
    unfold TerritoryDb.territoryOrThrow
    split <;> simp_all
  have hstart : ∀ d, assignStart tz db params = .ok d ↔
      parseLocalDate tz params.startDate = some d := by
    intro d
    unfold assignStart
    split
    · simp_all
    · split <;> simp_all
  unfold assignChecks
  simp only [Tx.bind_eq_ok, Tx.exists_unit, hterritory, hstart, Tx.checkWhen_ok, Tx.refuseWhen_ok]
  constructor
  · rintro ⟨hmode, territory, hfound, hfree, startDate, hparsed, hapart, hpublisher, hrow⟩
    refine ⟨territory, startDate, ⟨hmode, hfound, ?_, hparsed, hapart, ?_⟩,
      (Except.ok.inj hrow).symm⟩
    · exact fun hsome => by simpa using hfree hsome
    · simpa using hpublisher
  · rintro ⟨territory, startDate, h, rfl⟩
    exact ⟨h.mode, territory, h.territory, fun hsome => by simp [h.free hsome], startDate, h.start,
      h.apart, by simpa using h.publisher, rfl⟩

theorem assign_ok {params : CreateAttributionParams} :
    (assign tz params).exec db = (.ok (), db') ↔ ∃ territory startDate,
      Assignable tz db params territory startDate ∧
        db' = db.createAttribution (newAttribution tz db params territory startDate) := by
  unfold assign
  rw [Tx.exec_bind_get, Tx.exec_bind_check_ok]
  simp only [assignChecks_ok, Tx.exec_modify, Prod.mk.injEq, true_and]
  constructor
  · rintro ⟨row, ⟨territory, startDate, h, rfl⟩, rfl⟩
    exact ⟨territory, startDate, h, rfl⟩
  · rintro ⟨territory, startDate, h, rfl⟩
    exact ⟨_, ⟨territory, startDate, h, rfl⟩, rfl⟩

theorem updateChecks_ok {params : UpdateAttributionParams} :
    updateChecks db id params = .ok () ↔ ∃ existing, db.attributionById id = some existing ∧
      ((params.publisherId ≠ existing.publisherId ∨ params.startDate ≠ existing.startDate ∨
          params.nextEnd existing ≠ existing.endDate) →
        assertNoActiveOverlap db (params.publisherId, existing.territoryId, existing.campaignId)
          ⟨params.startDate, params.nextEnd existing⟩ (some id) = .ok ()) ∧
      params.publisherId ∈ db.members := by
  unfold updateChecks
  cases hfound : db.attributionById id with
  | none => simp
  | some existing =>
    show (Tx.checkWhen _ _ >>= fun _ => _) = _ ↔ _
    rw [Tx.bind_eq_ok, Tx.exists_unit, Tx.checkWhen_ok, Tx.refuseWhen_ok]
    simp

theorem update_ok {params : UpdateAttributionParams} :
    (update id params).exec db = (.ok (), db') ↔ updateChecks db id params = .ok () ∧
      db' = db.updateAttributions (·.id == id) params.data := by
  unfold update
  rw [Tx.exec_bind_get, Tx.exec_check_modify_ok]

end Inversion

end Unitae.Territories
