import Unitae.Territories.Attribution

/-!
# Unitae — pausing for a campaign (`attribution-pause.aggregate.ts`)

A paused attribution is still held but inactive; `pausedByCampaignId` says which campaign's end
releases it. Beside the two services on one row stand the bulk transitions of a campaign's start
and end. Each of these updates the rows one selection picks, within `territoryIds` when the
campaign has a scope.
-/

namespace Unitae.Territories

/-! ## One row -/

def pauseChecks (db : TerritoryDb) (id campaignId : Nat) : Except Failure Unit :=
  match db.attributionById id with
  | none => .error (.app (.notFound "Attribution" (some id)))
  | some existing => do
    Tx.refuseWhen existing.endDate.isSome (.app (.conflict "attribution_not_open"))
    Tx.refuseWhen existing.pausedAt.isSome (.app (.conflict "attribution_already_paused"))
    Tx.refuseWhen (db.getCampaign campaignId).isNone (.database .foreignKey)

/-- `data: { pausedAt: now, pausedByCampaignId: campaignId }`. -/
def Attribution.suspended (campaignId : Nat) (now : Instant) (a : Attribution) : Attribution :=
  { a with pausedAt := some now, pausedByCampaignId := some campaignId }

/-- The pause lifted, and `lateDate` pushed back by the time spent paused. -/
def Attribution.resumed (now : Instant) (a : Attribution) : Attribution :=
  { a with
    pausedAt := none
    pausedByCampaignId := none
    lateDate := a.lateDate + match a.pausedAt with
      | some pausedAt => now - pausedAt
      | none => 0 }

def pause (id campaignId : Nat) (now : Instant) : TerritoryTx Unit := do
  let db ← get
  Tx.check (pauseChecks db id campaignId)
  modify (·.updateAttributions (·.id == id) (·.suspended campaignId now))

def resumeChecks (db : TerritoryDb) (id : Nat) : Except Failure Unit :=
  match db.attributionById id with
  | none => .error (.app (.notFound "Attribution" (some id)))
  | some existing =>
    Tx.refuseWhen existing.pausedAt.isNone (.app (.conflict "attribution_not_paused"))

def resume (id : Nat) (now : Instant) : TerritoryTx Unit := do
  let db ← get
  Tx.check (resumeChecks db id)
  modify (·.updateAttributions (·.id == id) (·.resumed now))

/-! ## Bulk transitions -/

structure CampaignTransition where
  campaignId : Nat
  /-- Restrict to these territories; `none` is the whole congregation. -/
  territoryIds : Option (List Nat)
  now : Instant
deriving DecidableEq, Repr

/-- `territoryFilter`. -/
def CampaignTransition.covers (t : CampaignTransition) (territoryId : Nat) : Bool :=
  t.territoryIds.all fun ids => ids.contains territoryId

/-- The open, unpaused regular attributions in scope. -/
def CampaignTransition.openRegulars (t : CampaignTransition) (a : Attribution) : Bool :=
  a.endDate.isNone && a.campaignId.isNone && a.pausedAt.isNone && t.covers a.territoryId

/-- The open regular attributions in scope, paused or not. -/
def CampaignTransition.allOpenRegulars (t : CampaignTransition) (a : Attribution) : Bool :=
  a.endDate.isNone && a.campaignId.isNone && t.covers a.territoryId

/-- The open attributions in scope that the campaign paused. -/
def CampaignTransition.pausedByIt (t : CampaignTransition) (a : Attribution) : Bool :=
  a.pausedByCampaignId == some t.campaignId && a.endDate.isNone && t.covers a.territoryId

/-- The campaign's own open attributions in scope. -/
def CampaignTransition.ownOpen (t : CampaignTransition) (a : Attribution) : Bool :=
  a.campaignId == some t.campaignId && a.endDate.isNone && t.covers a.territoryId

/-- Campaign start, `Pause`: returns the rows it paused, as they were. -/
def pauseOpenRegulars (t : CampaignTransition) : TerritoryTx (List Attribution) := do
  let db ← get
  let rows := db.attributions.filter t.openRegulars
  modify (·.updateAttributions t.openRegulars (·.suspended t.campaignId t.now))
  return rows

/-- Campaign start, `Close`. -/
def closeOpenRegulars (t : CampaignTransition) : TerritoryTx Unit :=
  modify (·.updateAttributions t.allOpenRegulars (·.returned t.now))

/-- Campaign end, `Resume`: each `lateDate` shifts by that row's own paused duration. -/
def resumePausedBy (t : CampaignTransition) : TerritoryTx Unit :=
  modify (·.updateAttributions t.pausedByIt (·.resumed t.now))

/-- `data: { endDate: now, pausedAt: null, pausedByCampaignId: null }`. -/
def Attribution.returnedFromPause (now : Instant) (a : Attribution) : Attribution :=
  { a with endDate := some now, pausedAt := none, pausedByCampaignId := none }

/-- Campaign end, `Close`. -/
def closePausedBy (t : CampaignTransition) : TerritoryTx Unit :=
  modify (·.updateAttributions t.pausedByIt (·.returnedFromPause t.now))

/-- Campaign end, or scope removal: close the campaign's own open attributions. -/
def closeOpenCampaignAttributions (t : CampaignTransition) : TerritoryTx Unit :=
  modify (·.updateAttributions t.ownOpen (·.returned t.now))

/-! ## What a call that goes through does -/

section Inversion

variable {db db' : TerritoryDb} {id campaignId : Nat} {now : Instant}

theorem pauseChecks_ok :
    pauseChecks db id campaignId = .ok () ↔ ∃ existing, db.attributionById id = some existing ∧
      existing.endDate = none ∧ existing.pausedAt = none ∧
        (db.getCampaign campaignId).isSome := by
  unfold pauseChecks
  cases db.attributionById id with
  | none => simp
  | some existing =>
    simp only [Tx.bind_eq_ok, Tx.exists_unit, Tx.refuseWhen_ok]
    simp [Option.isSome_iff_ne_none]

theorem resumeChecks_ok :
    resumeChecks db id = .ok () ↔
      ∃ existing, db.attributionById id = some existing ∧ existing.pausedAt.isSome := by
  unfold resumeChecks
  cases db.attributionById id with
  | none => simp
  | some existing => simp [Option.isSome_iff_ne_none]

theorem pause_ok :
    (pause id campaignId now).exec db = (.ok (), db') ↔ pauseChecks db id campaignId = .ok () ∧
      db' = db.updateAttributions (·.id == id) (·.suspended campaignId now) := by
  unfold pause
  rw [Tx.exec_bind_get, Tx.exec_check_modify_ok]

theorem resume_ok :
    (resume id now).exec db = (.ok (), db') ↔ resumeChecks db id = .ok () ∧
      db' = db.updateAttributions (·.id == id) (·.resumed now) := by
  unfold resume
  rw [Tx.exec_bind_get, Tx.exec_check_modify_ok]

end Inversion

end Unitae.Territories
