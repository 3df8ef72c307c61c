import Unitae.Base.Calendar
import Unitae.Base.ThreeValued
import Unitae.Territories.Schema

/-!
# Unitae — the four counts of the territory dashboard

How many territories are available, resting, worked on and late (`available-`, `resting-`, `active-working-`
and `delayed-working-territories.server.ts`), each a query of its own over the attributions of a territory.
The conditions are those of the database, of three values: the queries write `not: null` beside `lt` because
`every` passes a row of which its condition is unknown.

The same happens to a regular attribution that ended before the cutoff of some campaign: its `campaignId` is
null, so the campaign's branch is unknown of it, and `every` passes it while it still rests. An attribution
that ended at its cutoff is neither before nor after it, and one that is late since this instant is both.
`dashboard_partitions_iff` says when none of this shows.
-/

namespace Unitae.Territories

/-! ## Rest periods (`resting-periods.ts`) -/

def restingPeriodForDoorsToDoors : Int := 90 * Calendar.msPerDay

def restingPeriodForCampaign : Int := 15 * Calendar.msPerDay

def restingPeriodForPhone : Int := 15 * Calendar.msPerDay

/-- A campaign's own rest, or the standard one. -/
def getCampaignRestCutoff (restPeriodDays : Option Nat) (reference : Instant) : Instant :=
  let days : Int := (restPeriodDays.map fun days => (days : Int)).getD 15
  reference - days * Calendar.msPerDay

structure RestPeriodCutoffs where
  doorsToDoors : Instant
  campaign : Instant
  phone : Instant
deriving DecidableEq, Repr

def getRestPeriodCutoffs (reference : Instant) : RestPeriodCutoffs where
  doorsToDoors := reference - restingPeriodForDoorsToDoors
  campaign := reference - restingPeriodForCampaign
  phone := reference - restingPeriodForPhone

/-! ## The four queries -/

def TerritoryDb.attributionsOfTerritory (db : TerritoryDb) (t : Territory) : List Attribution :=
  db.attributions.filter fun a => a.territoryId == t.id

section Queries

variable (db : TerritoryDb) (now : Instant)

/-- `{ lt: cutoff, not: null }` of the end date. -/
def endedBefore (cutoff : Instant) (a : Attribution) : Truth :=
  Truth.allOf [Truth.compare a.endDate (· < cutoff), Truth.isNotNull a.endDate]

/-- `{ gt: cutoff }` of the end date. -/
def endedAfter (cutoff : Instant) (a : Attribution) : Truth := Truth.compare a.endDate (cutoff < ·)

/-- The branches of both `OR`s: one a campaign, and one a method of regular work. -/
def restBranches (ended : Instant → Attribution → Truth) (a : Attribution) : List Truth :=
  let cutoffs := getRestPeriodCutoffs now
  (db.campaigns.map fun campaign =>
    Truth.allOf [Truth.equals a.campaignId campaign.id,
      ended (getCampaignRestCutoff campaign.restPeriodDays now) a]) ++
  [Truth.allOf [Truth.isNull a.campaignId, Truth.ofBool (a.type == .default), ended cutoffs.doorsToDoors a],
   Truth.allOf [Truth.isNull a.campaignId, Truth.ofBool (a.type == .phone), ended cutoffs.phone a]]

def isAvailable (t : Territory) : Bool :=
  Truth.everyRow (db.attributionsOfTerritory t)
    (fun a => Truth.anyOf (restBranches db now endedBefore a)) == .yes

def isResting (t : Territory) : Bool :=
  Truth.allOf [Truth.noneRow (db.attributionsOfTerritory t) fun a => Truth.isNull a.endDate,
    Truth.someRow (db.attributionsOfTerritory t)
      fun a => Truth.anyOf (restBranches db now endedAfter a)] == .yes

/-- `{ endDate: null, pausedAt: null, lateDate: { gte: now } }`. -/
def activeWorking (a : Attribution) : Truth :=
  Truth.allOf [Truth.isNull a.endDate, Truth.isNull a.pausedAt, Truth.ofBool (now ≤ a.lateDate)]

/-- `{ endDate: null, pausedAt: null, lateDate: { lte: now } }`. -/
def delayedWorking (a : Attribution) : Truth :=
  Truth.allOf [Truth.isNull a.endDate, Truth.isNull a.pausedAt, Truth.ofBool (a.lateDate ≤ now)]

def isActiveWorking (t : Territory) : Bool :=
  Truth.someRow (db.attributionsOfTerritory t) (activeWorking now) == .yes

def isDelayedWorking (t : Territory) : Bool :=
  Truth.someRow (db.attributionsOfTerritory t) (delayedWorking now) == .yes

def countAvailableTerritories : Nat := (db.territories.filter (isAvailable db now)).length

def countRestingTerritories : Nat := (db.territories.filter (isResting db now)).length

def countActiveWorkingTerritories : Nat := (db.territories.filter (isActiveWorking db now)).length

def countDelayedWorkingTerritories : Nat := (db.territories.filter (isDelayedWorking db now)).length

end Queries

/-! ## Rest of one attribution -/

/-- The cutoff of regular work, by its method. -/
def RestPeriodCutoffs.ofMethod (cutoffs : RestPeriodCutoffs) : TerritoryAttributionKind → Instant
  | .default => cutoffs.doorsToDoors
  | .phone => cutoffs.phone

/-- When the rest of an attribution is over for those that ended before: by its campaign, or by its
method. -/
def restCutoff (db : TerritoryDb) (now : Instant) (a : Attribution) : Instant :=
  match a.campaignId.bind db.getCampaign with
  | some campaign => getCampaignRestCutoff campaign.restPeriodDays now
  | none => (getRestPeriodCutoffs now).ofMethod a.type

/-- The attribution ended after its cutoff. -/
def Rests (db : TerritoryDb) (now : Instant) (a : Attribution) : Prop :=
  ∃ ended ∈ a.endDate, restCutoff db now a < ended

instance (db : TerritoryDb) (now : Instant) (a : Attribution) : Decidable (Rests db now a) :=
  inferInstanceAs (Decidable (∃ ended ∈ a.endDate, restCutoff db now a < ended))

/-- The attribution ended at its cutoff. -/
def EndsAtCutoff (db : TerritoryDb) (now : Instant) (a : Attribution) : Prop :=
  a.endDate = some (restCutoff db now a)

instance (db : TerritoryDb) (now : Instant) (a : Attribution) : Decidable (EndsAtCutoff db now a) :=
  inferInstanceAs (Decidable (a.endDate = some (restCutoff db now a)))

/-- Regular work that ended before the cutoff of some campaign. -/
def SlipsThrough (db : TerritoryDb) (now : Instant) (a : Attribution) : Prop :=
  a.campaignId = none ∧ ∃ ended ∈ a.endDate, ∃ campaign ∈ db.campaigns,
    ended < getCampaignRestCutoff campaign.restPeriodDays now

instance (db : TerritoryDb) (now : Instant) (a : Attribution) : Decidable (SlipsThrough db now a) :=
  inferInstanceAs (Decidable (a.campaignId = none ∧ ∃ ended ∈ a.endDate, ∃ campaign ∈ db.campaigns,
    ended < getCampaignRestCutoff campaign.restPeriodDays now))

section Rest

variable {db : TerritoryDb} {now : Instant} {a : Attribution} {t : Territory}

theorem endedBefore_eq_no {cutoff : Instant} :
    endedBefore cutoff a = .no ↔ a.endDate = none ∨ ∃ ended ∈ a.endDate, cutoff ≤ ended := by
  unfold endedBefore
  cases hend : a.endDate with
  | none => simp [Truth.allOf, Truth.compare, Truth.isNotNull, Truth.ofBool, Truth.conj]
  | some ended => simp [Truth.allOf, Truth.compare, Truth.isNotNull]

theorem endedAfter_eq_yes {cutoff : Instant} :
    endedAfter cutoff a = .yes ↔ ∃ ended ∈ a.endDate, cutoff < ended := by
  rw [endedAfter, Truth.compare_eq_yes]
  simp

theorem equals_eq_yes {column : Option Nat} {id : Nat} :
    Truth.equals column id = .yes ↔ column = some id := by
  rw [Truth.equals, Truth.compare_eq_yes]
  simp

theorem equals_eq_no {column : Option Nat} {id : Nat} :
    Truth.equals column id = .no ↔ ∃ other, column = some other ∧ other ≠ id := by
  rw [Truth.equals, Truth.compare_eq_no]
  simp

/-- What the database asks of the references to campaigns. -/
structure CampaignsKnown (db : TerritoryDb) : Prop where
  keyed : Keyed Campaign.id db.campaigns
  known : ∀ a ∈ db.attributions, ∀ id ∈ a.campaignId, ∃ campaign ∈ db.campaigns, campaign.id = id

instance (db : TerritoryDb) : Decidable (CampaignsKnown db) :=
  decidable_of_iff (Keyed Campaign.id db.campaigns ∧ ∀ a ∈ db.attributions, ∀ id ∈ a.campaignId,
    ∃ campaign ∈ db.campaigns, campaign.id = id) ⟨fun ⟨h, h'⟩ => ⟨h, h'⟩, fun ⟨h, h'⟩ => ⟨h, h'⟩⟩

/-- The campaign of an attribution, and the only one with its id. -/
theorem CampaignsKnown.campaign (h : CampaignsKnown db) (ha : a ∈ db.attributions) {id : Nat}
    (hid : a.campaignId = some id) :
    ∃ campaign ∈ db.campaigns, campaign.id = id ∧
      (∀ other ∈ db.campaigns, other.id = id → other = campaign) ∧
      restCutoff db now a = getCampaignRestCutoff campaign.restPeriodDays now := by
  obtain ⟨campaign, hcampaign, rfl⟩ := h.known a ha id hid
  refine ⟨campaign, hcampaign, rfl, fun other hother hsame => h.keyed.eq_of_key hother hcampaign hsame, ?_⟩
  have hfound : db.getCampaign campaign.id = some campaign := h.keyed.find?_eq_some.mpr ⟨hcampaign, rfl⟩
  unfold restCutoff
  rw [hid, Option.bind_some, hfound]

theorem restCutoff_regular (h : a.campaignId = none) :
    restCutoff db now a = (getRestPeriodCutoffs now).ofMethod a.type := by
  unfold restCutoff
  rw [h]
  rfl

/-- A branch for each campaign, and two for regular work. -/
theorem forall_mem_restBranches {ended : Instant → Attribution → Truth} {P : Truth → Prop} :
    (∀ x ∈ restBranches db now ended a, P x) ↔
      (∀ campaign ∈ db.campaigns, P (Truth.allOf [Truth.equals a.campaignId campaign.id,
        ended (getCampaignRestCutoff campaign.restPeriodDays now) a])) ∧
      P (Truth.allOf [Truth.isNull a.campaignId, Truth.ofBool (a.type == .default),
        ended (getRestPeriodCutoffs now).doorsToDoors a]) ∧
      P (Truth.allOf [Truth.isNull a.campaignId, Truth.ofBool (a.type == .phone),
        ended (getRestPeriodCutoffs now).phone a]) := by
  unfold restBranches
  rw [List.forall_mem_append, List.forall_mem_map]
  simp

theorem exists_mem_restBranches {ended : Instant → Attribution → Truth} {P : Truth → Prop} :
    (∃ x ∈ restBranches db now ended a, P x) ↔
      (∃ campaign ∈ db.campaigns, P (Truth.allOf [Truth.equals a.campaignId campaign.id,
        ended (getCampaignRestCutoff campaign.restPeriodDays now) a])) ∨
      P (Truth.allOf [Truth.isNull a.campaignId, Truth.ofBool (a.type == .default),
        ended (getRestPeriodCutoffs now).doorsToDoors a]) ∨
      P (Truth.allOf [Truth.isNull a.campaignId, Truth.ofBool (a.type == .phone),
        ended (getRestPeriodCutoffs now).phone a]) := by
  have h := @forall_mem_restBranches db now a ended fun x => ¬P x
  rw [← not_iff_not]
  push Not
  exact h

/-- **The condition of the resting ones is true of what rests**, of campaigns and of regular work. -/
theorem restBranches_after (h : CampaignsKnown db) (ha : a ∈ db.attributions) :
    Truth.anyOf (restBranches db now endedAfter a) = .yes ↔ Rests db now a := by
  rw [Truth.anyOf_eq_yes, exists_mem_restBranches]
  simp only [Truth.allOf_eq_yes, List.forall_mem_cons, List.not_mem_nil, false_implies, implies_true,
    and_true, equals_eq_yes, endedAfter_eq_yes, Truth.isNull, Truth.ofBool_eq_yes,
    Option.isNone_iff_eq_none, beq_iff_eq]
  cases hcampaign : a.campaignId with
  | none =>
    unfold Rests
    rw [restCutoff_regular hcampaign]
    cases a.type <;> simp [RestPeriodCutoffs.ofMethod]
  | some id =>
    obtain ⟨campaign, hmem, hid, honly, hcutoff⟩ := @CampaignsKnown.campaign db now a h ha id hcampaign
    unfold Rests
    rw [hcutoff]
    constructor
    · rintro (⟨other, hother, hsame, hafter⟩ | ⟨hnone, -⟩ | ⟨hnone, -⟩)
      · rw [honly other hother (Option.some.inj hsame).symm] at hafter
        exact hafter
      · cases hnone
      · cases hnone
    · intro hafter
      exact .inl ⟨campaign, hmem, by rw [hid], hafter⟩

/-- **The condition of the available ones is false** of what is open, and of what has not ended before its
cutoff, unless it slips through. -/
theorem restBranches_before (h : CampaignsKnown db) (ha : a ∈ db.attributions) :
    Truth.anyOf (restBranches db now endedBefore a) = .no ↔
      a.endDate = none ∨ (EndsAtCutoff db now a ∨ Rests db now a) ∧ ¬SlipsThrough db now a := by
  rw [Truth.anyOf_eq_no, forall_mem_restBranches]
  simp only [Truth.allOf_eq_no, List.exists_mem_cons_iff, List.not_mem_nil, false_and, exists_false,
    or_false, equals_eq_no, endedBefore_eq_no, Truth.isNull, Truth.ofBool_eq_no]
  cases hend : a.endDate with
  | none => simp
  | some ended =>
    have hover : EndsAtCutoff db now a ∨ Rests db now a ↔ restCutoff db now a ≤ ended := by
      unfold EndsAtCutoff Rests
      rw [hend, le_iff_eq_or_lt, Option.some_inj, eq_comm]
      simp
    rw [hover]
    cases hcampaign : a.campaignId with
    | none =>
      have hslips : SlipsThrough db now a ↔ ∃ campaign ∈ db.campaigns,
          ended < getCampaignRestCutoff campaign.restPeriodDays now := by
        unfold SlipsThrough
        rw [hcampaign, hend]
        simp
      rw [hslips, restCutoff_regular hcampaign]
      push Not
      cases a.type <;> simp [RestPeriodCutoffs.ofMethod, and_comm]
    | some id =>
      obtain ⟨campaign, hmem, hid, honly, hcutoff⟩ := @CampaignsKnown.campaign db now a h ha id hcampaign
      have hslips : ¬SlipsThrough db now a := by
        intro hslips
        rw [hslips.1] at hcampaign
        cases hcampaign
      rw [hcutoff]
      constructor
      · rintro ⟨hcampaigns, -⟩
        refine .inr ⟨?_, hslips⟩
        rcases hcampaigns campaign hmem with ⟨other, hother, hne⟩ | hbefore
        · exact absurd ((Option.some.inj hother).symm.trans hid.symm) hne
        · simpa using hbefore
      · intro hrest
        refine ⟨fun other hother => ?_, .inl rfl, .inl rfl⟩
        by_cases hsame : other.id = id
        · rw [honly other hother hsame]
          right
          simpa using (hrest.resolve_left (by simp)).1
        · exact .inl ⟨id, rfl, fun heq => hsame heq.symm⟩

/-! ## The lists of a territory -/

theorem mem_attributionsOfTerritory :
    a ∈ db.attributionsOfTerritory t ↔ a ∈ db.attributions ∧ a.territoryId = t.id := by
  simp [TerritoryDb.attributionsOfTerritory]

theorem isAvailable_iff (h : CampaignsKnown db) :
    isAvailable db now t = true ↔ ∀ a ∈ db.attributionsOfTerritory t,
      a.endDate ≠ none ∧ (EndsAtCutoff db now a ∨ Rests db now a → SlipsThrough db now a) := by
  rw [isAvailable, beq_iff_eq, Truth.everyRow_eq_yes]
  refine forall₂_congr fun a ha => ?_
  rw [ne_eq, restBranches_before h (mem_attributionsOfTerritory.mp ha).1, not_or, not_and, not_not]

theorem isResting_iff (h : CampaignsKnown db) :
    isResting db now t = true ↔ (∀ a ∈ db.attributionsOfTerritory t, a.endDate ≠ none) ∧
      ∃ a ∈ db.attributionsOfTerritory t, Rests db now a := by
  rw [isResting, beq_iff_eq, Truth.allOf_eq_yes, List.forall_mem_cons, List.forall_mem_singleton,
    Truth.noneRow_eq_yes, Truth.someRow_eq_yes]
  refine and_congr ?_ (exists_congr fun a => and_congr_right fun ha => ?_)
  · simp [Truth.isNull]
  · exact restBranches_after h (mem_attributionsOfTerritory.mp ha).1

theorem activeWorking_iff :
    activeWorking now a = .yes ↔ a.endDate = none ∧ a.pausedAt = none ∧ now ≤ a.lateDate := by
  simp [activeWorking, Truth.allOf_eq_yes, Truth.isNull]

theorem delayedWorking_iff :
    delayedWorking now a = .yes ↔ a.endDate = none ∧ a.pausedAt = none ∧ a.lateDate ≤ now := by
  simp [delayedWorking, Truth.allOf_eq_yes, Truth.isNull]

/-- A territory that is worked on has an open attribution. -/
theorem open_of_working (hworking : isActiveWorking db now t = true ∨ isDelayedWorking db now t = true) :
    ∃ a ∈ db.attributionsOfTerritory t, a.endDate = none := by
  rcases hworking with hactive | hdelayed
  · rw [isActiveWorking, beq_iff_eq, Truth.someRow_eq_yes] at hactive
    obtain ⟨a, ha, hworks⟩ := hactive
    exact ⟨a, ha, (activeWorking_iff.mp hworks).1⟩
  · rw [isDelayedWorking, beq_iff_eq, Truth.someRow_eq_yes] at hdelayed
    obtain ⟨a, ha, hworks⟩ := hdelayed
    exact ⟨a, ha, (delayedWorking_iff.mp hworks).1⟩

end Rest

/-! ## The partition -/

/-- No attribution of the territory is open. -/
def Returned (db : TerritoryDb) (t : Territory) : Prop :=
  ∀ a ∈ db.attributionsOfTerritory t, a.endDate ≠ none

instance (db : TerritoryDb) (t : Territory) : Decidable (Returned db t) :=
  inferInstanceAs (Decidable (∀ a ∈ db.attributionsOfTerritory t, a.endDate ≠ none))

/-- A territory without an open attribution is available or resting, an open attribution that is not
paused is counted as active or as late, never as both, and no territory is in a list of each kind. -/
structure DashboardPartitions (db : TerritoryDb) (now : Instant) : Prop where
  free : ∀ t ∈ db.territories, Returned db t → isAvailable db now t ≠ isResting db now t
  working : ∀ a ∈ db.attributions, a.endDate = none → a.pausedAt = none →
    ¬(activeWorking now a = .yes ↔ delayedWorking now a = .yes)
  apart : ∀ t ∈ db.territories, ¬((isAvailable db now t = true ∨ isResting db now t = true) ∧
    (isActiveWorking db now t = true ∨ isDelayedWorking db now t = true))

/-- The rest of a territory shows: an attribution that ended at its cutoff has one still resting beside
it, or slips through; and where one that slips through rests, one that does not is not over its rest. -/
structure RestShows (db : TerritoryDb) (now : Instant) (t : Territory) : Prop where
  atCutoff : ∀ a ∈ db.attributionsOfTerritory t, EndsAtCutoff db now a →
    SlipsThrough db now a ∨ ∃ b ∈ db.attributionsOfTerritory t, Rests db now b
  slipping : ∀ a ∈ db.attributionsOfTerritory t, Rests db now a → SlipsThrough db now a →
    ∃ b ∈ db.attributionsOfTerritory t, (EndsAtCutoff db now b ∨ Rests db now b) ∧ ¬SlipsThrough db now b

instance (db : TerritoryDb) (now : Instant) (t : Territory) : Decidable (RestShows db now t) :=
  decidable_of_iff ((∀ a ∈ db.attributionsOfTerritory t, EndsAtCutoff db now a →
      SlipsThrough db now a ∨ ∃ b ∈ db.attributionsOfTerritory t, Rests db now b) ∧
    ∀ a ∈ db.attributionsOfTerritory t, Rests db now a → SlipsThrough db now a →
      ∃ b ∈ db.attributionsOfTerritory t,
        (EndsAtCutoff db now b ∨ Rests db now b) ∧ ¬SlipsThrough db now b)
    ⟨fun ⟨h, h'⟩ => ⟨h, h'⟩, fun ⟨h, h'⟩ => ⟨h, h'⟩⟩

section Partition

variable {db : TerritoryDb} {now : Instant} {t : Territory}

theorem exactly_one_iff (h : CampaignsKnown db) (hreturned : Returned db t) :
    isAvailable db now t ≠ isResting db now t ↔ RestShows db now t := by
  have havailable : isAvailable db now t = true ↔ ∀ a ∈ db.attributionsOfTerritory t,
      EndsAtCutoff db now a ∨ Rests db now a → SlipsThrough db now a := by
    rw [isAvailable_iff h]
    exact forall₂_congr fun a ha => and_iff_right (hreturned a ha)
  have hresting : isResting db now t = true ↔ ∃ a ∈ db.attributionsOfTerritory t, Rests db now a := by
    rw [isResting_iff h]
    exact and_iff_right hreturned
  rw [ne_eq, Bool.eq_iff_iff, havailable, hresting]
  constructor
  · intro hone
    refine ⟨fun a ha hcutoff => ?_, fun a ha hrests _ => ?_⟩
    · by_contra hneither
      rw [not_or] at hneither
      refine hone (iff_of_false (fun hall => hneither.1 (hall a ha (.inl hcutoff))) hneither.2)
    · by_contra hnone
      push Not at hnone
      exact hone (iff_of_true hnone ⟨a, ha, hrests⟩)
  · intro hshows hboth
    by_cases hrest : ∃ a ∈ db.attributionsOfTerritory t, Rests db now a
    · obtain ⟨a, ha, hrests⟩ := hrest
      have hall := hboth.mpr ⟨a, ha, hrests⟩
      obtain ⟨b, hb, hover, hnot⟩ := hshows.slipping a ha hrests (hall a ha (.inr hrests))
      exact hnot (hall b hb hover)
    · refine hrest (hboth.mp fun a ha hover => ?_)
      rcases hover with hcutoff | hrests
      · exact (hshows.atCutoff a ha hcutoff).resolve_right hrest
      · exact absurd ⟨a, ha, hrests⟩ hrest

/-- **The dashboard lists partition the territories** just when the rest of every territory without an
open attribution shows, and no open attribution is late since this instant. -/
theorem dashboard_partitions_iff (h : CampaignsKnown db) :
    DashboardPartitions db now ↔
      (∀ t ∈ db.territories, Returned db t → RestShows db now t) ∧
      ∀ a ∈ db.attributions, a.endDate = none → a.pausedAt = none → a.lateDate ≠ now := by
  have hlate : ∀ a : Attribution, a.endDate = none → a.pausedAt = none →
      (¬(activeWorking now a = .yes ↔ delayedWorking now a = .yes) ↔ a.lateDate ≠ now) := by
    intro a hopen hrunning
    rw [activeWorking_iff, delayedWorking_iff]
    simp only [hopen, hrunning, true_and]
    constructor
    · intro hdiffer heq
      exact hdiffer (by rw [heq])
    · intro hne hsame
      rcases lt_or_gt_of_ne hne with hlt | hgt
      · exact absurd (hsame.mpr hlt.le) (not_le.mpr hlt)
      · exact absurd (hsame.mp hgt.le) (not_le.mpr hgt)
  constructor
  · intro hpartitions
    refine ⟨fun t ht hreturned => ?_, fun a ha hopen hrunning => ?_⟩
    · exact (exactly_one_iff h hreturned).mp (hpartitions.free t ht hreturned)
    · exact (hlate a hopen hrunning).mp (hpartitions.working a ha hopen hrunning)
  · intro ⟨hshows, hnever⟩
    refine ⟨fun t ht hreturned => ?_, fun a ha hopen hrunning => ?_, fun t _ hboth => ?_⟩
    · exact (exactly_one_iff h hreturned).mpr (hshows t ht hreturned)
    · exact (hlate a hopen hrunning).mpr (hnever a ha hopen hrunning)
    · -- what is open keeps a territory out of the available and of the resting ones
      obtain ⟨a, ha, hopen⟩ := open_of_working hboth.2
      rcases hboth.1 with havailable | hresting
      · exact ((isAvailable_iff h).mp havailable a ha).1 hopen
      · exact ((isResting_iff h).mp hresting).1 a ha hopen

end Partition

/-- One territory, returned after door-to-door work, and a campaign with the standard rest. -/
def returnedOn (endDate : Instant) (campaigns : List Campaign) : TerritoryDb where
  attributions := [⟨1, .default, 7, 1, endDate - 60 * Calendar.msPerDay, some endDate, endDate, "", none,
    none, none⟩]
  campaigns := campaigns
  territories := [⟨1, .classical⟩]
  members := [7]
  settings := []
  nextAttributionId := 2
  nextCampaignId := 2

def springCampaign : Campaign :=
  ⟨1, "Printemps", "", 0, 0, none, .pause, false, true, .resume, none, none, []⟩

/-- A hundred days into the epoch. -/
def dayHundred : Instant := 100 * Calendar.msPerDay

theorem dashboard_partitions_resting : DashboardPartitions (returnedOn (dayHundred - 10 * Calendar.msPerDay)
    [springCampaign]) dayHundred :=
  (dashboard_partitions_iff (by decide +kernel)).mpr (by decide +kernel)

/-- Returned ninety days ago to the millisecond: neither available nor resting. -/
theorem rest_over_in_no_list : ¬∀ (db : TerritoryDb) (now : Instant), CampaignsKnown db →
    DashboardPartitions db now := by
  intro hall
  have hpartitions := hall (returnedOn (dayHundred - 90 * Calendar.msPerDay) []) dayHundred (by decide +kernel)
  exact hpartitions.free ⟨1, .classical⟩ (by decide +kernel) (by decide +kernel) (by decide +kernel)

/-- Returned thirty days ago, with a campaign around: available and resting. -/
example : isAvailable (returnedOn (dayHundred - 30 * Calendar.msPerDay) [springCampaign]) dayHundred
      ⟨1, .classical⟩ = true ∧
    isResting (returnedOn (dayHundred - 30 * Calendar.msPerDay) [springCampaign]) dayHundred
      ⟨1, .classical⟩ = true := by
  decide +kernel

end Unitae.Territories
