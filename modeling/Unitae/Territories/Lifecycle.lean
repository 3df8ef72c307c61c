import Unitae.Base.Run
import Unitae.Territories.Campaign

/-!
# Unitae — campaign lifecycle (`campaign-lifecycle.workflow.ts`, `handle-campaign-lifecycle-work`)

Activating and ending a campaign, editing its scope while it runs, and the date-driven sweep. Then
the services of the module as the steps of one system.
-/

namespace Unitae.Territories

/-- `error instanceof ConflictError`. -/
def isConflict : Failure → Bool
  | .app (.conflict _) => true
  | _ => false

/-- `scopeTerritoryIds`: the campaign's restriction to territories, if it has one. -/
def Campaign.scopeTerritoryIds (c : Campaign) : Option (List Nat) :=
  if c.scope = [] then none else some c.scope

/-- What `_reassignIntoCampaign` asks `assign` for one paused row. -/
def reassignment (tz : LocalTime) (campaign : Campaign) (now : Instant) (row : Attribution) :
    CreateAttributionParams where
  publisherId := row.publisherId
  territoryId := row.territoryId
  startDate := localDateString tz now
  notes := ""
  type := .default
  campaignId := some campaign.id

/-- `_reassignIntoCampaign`: the paused pairs again, inside the campaign; a pair that meets a
conflict is skipped. -/
def reassignIntoCampaign (tz : LocalTime) (campaign : Campaign) (now : Instant)
    (rows : List Attribution) : TerritoryTx Unit :=
  rows.forM fun row => Tx.ignoring isConflict (assign tz (reassignment tz campaign now row))

/-- The start transition on the regular attributions `t` covers. -/
def startTransition (tz : LocalTime) (campaign : Campaign) (t : CampaignTransition) :
    TerritoryTx Unit :=
  match campaign.startRegularAction with
  | .pause => do
    let pausedRows ← pauseOpenRegulars t
    if campaign.startAutoReassign then reassignIntoCampaign tz campaign t.now pausedRows
    else pure ()
  | .close => closeOpenRegulars t
  | .leave => pure ()

/-- The end transition on the attributions `t` covers. -/
def endTransition (campaign : Campaign) (t : CampaignTransition) : TerritoryTx Unit := do
  if campaign.endCloseCampaign then closeOpenCampaignAttributions t else pure ()
  match campaign.endRegularAction with
  | .resume => resumePausedBy t
  | .keepPaused => pure ()
  | .close => closePausedBy t

/-- Stamps `activatedAt` first: campaign mode is on before any attribution moves. -/
def activateCampaign (tz : LocalTime) (campaign : Campaign) (now : Instant) : TerritoryTx Unit :=
  if campaign.activatedAt.isSome then pure ()
  else do
    markActivated campaign.id now
    startTransition tz campaign ⟨campaign.id, campaign.scopeTerritoryIds, now⟩

/-- Stamps `endedAt` first, then cleans up over the whole congregation. -/
def endCampaign (campaign : Campaign) (now : Instant) : TerritoryTx Unit :=
  if campaign.endedAt.isSome || campaign.activatedAt.isNone then pure ()
  else do
    markEnded campaign.id now
    endTransition campaign ⟨campaign.id, none, now⟩

/-- The territories in `next` and not in `current`. -/
def entering (next current : List Nat) : List Nat := next.filter fun id => !current.contains id

/-- The start transition over the territories a scope edit brings in, if there are any. -/
def startAdded (tz : LocalTime) (campaign : Campaign) (now : Instant) (added : List Nat) :
    TerritoryTx Unit :=
  if added = [] then pure () else startTransition tz campaign ⟨campaign.id, some added, now⟩

/-- The end transition over the territories a scope edit takes out, if there are any. -/
def endRemoved (campaign : Campaign) (now : Instant) (removed : List Nat) : TerritoryTx Unit :=
  if removed = [] then pure () else endTransition campaign ⟨campaign.id, some removed, now⟩

/-- For an active campaign, territories entering the scope get the start transition and territories
leaving it the end transition; an empty scope counts as every territory on both sides. -/
def applyScopeChange (tz : LocalTime) (campaign : Campaign) (nextTerritoryIds : List Nat)
    (now : Instant) : TerritoryTx Unit :=
  if campaign.active then do
    let db ← get
    let effectiveCurrent := if campaign.scope = [] then db.listAllTerritoryIds else campaign.scope
    let effectiveNext := if nextTerritoryIds = [] then db.listAllTerritoryIds else nextTerritoryIds
    startAdded tz campaign now (entering effectiveNext effectiveCurrent)
    endRemoved campaign now (entering effectiveCurrent effectiveNext)
    replaceScope campaign.id nextTerritoryIds
  else replaceScope campaign.id nextTerritoryIds

/-- One congregation's date-driven pass: activations first, then the campaigns that are over. -/
def runCampaignLifecycleSweep (tz : LocalTime) (now : Instant) : TerritoryTx Unit := do
  let db ← get
  (db.getCampaignsDueToActivate now).forM fun campaign => activateCampaign tz campaign now
  let db ← get
  (db.getCampaignsDueToEnd tz now).forM fun campaign => endCampaign campaign now

/-! ## The services as one system -/

/-- The record is read before the call, as the routes do; a campaign that is gone ends the request. -/
def withCampaign (id : Nat) (body : Campaign → TerritoryTx Unit) : TerritoryTx Unit := do
  let db ← get
  match db.getCampaign id with
  | none => pure ()
  | some campaign => body campaign

inductive Request where
  | assign (params : CreateAttributionParams)
  | update (id : Nat) (params : UpdateAttributionParams)
  | markReturned (id : Nat) (endDate : Instant)
  | markReturnedForPublisher (publisherId : Nat) (endDate : Instant)
  | pause (id campaignId : Nat) (now : Instant)
  | resume (id : Nat) (now : Instant)
  | createCampaign (params : CampaignParams) (scopeTerritoryIds : List Nat)
  | updateCampaign (id : Nat) (params : CampaignParams)
  | deleteCampaign (id : Nat)
  | activateCampaign (id : Nat) (now : Instant)
  | endCampaign (id : Nat) (now : Instant)
  | applyScopeChange (id : Nat) (territoryIds : List Nat) (now : Instant)
  /-- The edit form: `updateCampaign`, then `applyScopeChange` on the record read before it. -/
  | editCampaign (id : Nat) (params : CampaignParams) (territoryIds : List Nat) (now : Instant)
  | sweep (now : Instant)
deriving DecidableEq, Repr

def Request.run (tz : LocalTime) : Request → TerritoryTx Unit
  | .assign params => Territories.assign tz params
  | .update id params => Territories.update id params
  | .markReturned id endDate => Territories.markReturned id endDate
  | .markReturnedForPublisher publisherId endDate =>
    Territories.markReturnedForPublisher publisherId endDate
  | .pause id campaignId now => Territories.pause id campaignId now
  | .resume id now => Territories.resume id now
  | .createCampaign params ids => do
    let _ ← Territories.createCampaign tz params ids
  | .updateCampaign id params => Territories.updateCampaign tz id params
  | .deleteCampaign id => Territories.deleteCampaign id
  | .activateCampaign id now => withCampaign id (Territories.activateCampaign tz · now)
  | .endCampaign id now => withCampaign id (Territories.endCampaign · now)
  | .applyScopeChange id ids now => withCampaign id (Territories.applyScopeChange tz · ids now)
  | .editCampaign id params ids now => withCampaign id fun campaign => do
    Territories.updateCampaign tz id params
    Territories.applyScopeChange tz campaign ids now
  | .sweep now => runCampaignLifecycleSweep tz now

/-- The stored state after a request. The conflicts a route catches are raised before the first
write, so every refusal leaves the state as it was. -/
def step (tz : LocalTime) (db : TerritoryDb) (request : Request) : TerritoryDb :=
  (request.run tz).settle (fun _ => false) db

theorem step_cases (tz : LocalTime) (db : TerritoryDb) (request : Request) :
    (request.run tz).exec db = (.ok (), step tz db request) ∨ step tz db request = db := by
  rcases Tx.settle_uncaught (request.run tz) db with ⟨_, hexec⟩ | hsame
  · exact .inl hexec
  · exact .inr hsame

theorem runCreateCampaign_ok {tz : LocalTime} {db db' : TerritoryDb} {params : CampaignParams}
    {ids : List Nat} (h : ((Request.createCampaign params ids).run tz).exec db = (.ok (), db')) :
    ∃ window, windowOf (parseLocalDate tz params.startDate) (parseLocalDate tz params.endDate) =
        .ok window ∧ assertNoWindowOverlap db window none = .ok () ∧
      db' = db.createCampaignRow (newCampaign params window ids) := by
  obtain ⟨newId, db₁, hcreate, hret⟩ := Tx.exec_bind_ok.mp h
  obtain ⟨_, rfl⟩ := Tx.exec_pure_ok.mp hret
  obtain ⟨window, hwindow, hapart, _, _, rfl⟩ := createCampaign_ok.mp hcreate
  exact ⟨window, hwindow, hapart, rfl⟩

end Unitae.Territories
