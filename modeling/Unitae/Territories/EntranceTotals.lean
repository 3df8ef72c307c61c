import Mathlib.Data.Finset.Insert
import Mathlib.Data.Fintype.Defs
import Mathlib.Data.List.ReduceOption
import Unitae.Base.Derived
import Unitae.Territories.EntranceKinds

/-!
# Unitae — a residential entrance's totals are those of its residential data

A residential entrance stores the sums over the residential data that point to it. Data stay with their
entrance when a building joins another, so an edit of a building may change the data of an entrance it is
not about: those totals are left stale. `TotalledExcept` is the invariant up to such entrances. The second
half is that every building keeps an entrance, which the deletion of a shared one can break.
-/

namespace Unitae.Territories

open MapDb

namespace MapDb

/-- Every residential entrance has the totals of its data, and every building has an entrance. -/
def TotalsMirrored (db : MapDb) : Prop :=
  (∀ e ∈ db.entrances, e.kind = .residential → e.figures = db.aggregates e.id) ∧
    ∀ b ∈ db.buildings, db.entrancesOf b.id ≠ []

def TotalledExcept (db : MapDb) (stale : Nat → Prop) : Prop :=
  UpToDate (·.id) BuildingEntrance.figures (fun e => e.kind = .residential) db.aggregates db.entrances
    stale

abbrev Totalled (db : MapDb) : Prop := db.TotalledExcept fun _ => False

/-- Every building has an entrance. -/
def Housed (db : MapDb) : Prop := ∀ id ∈ db.buildingIds, ∃ link ∈ db.links, link.1 = id

theorem Sound.entrancesOf_ne_nil {db : MapDb} (h : db.Sound) {id : Nat} :
    db.entrancesOf id ≠ [] ↔ ∃ link ∈ db.links, link.1 = id := by
  constructor
  · intro hsome
    obtain ⟨e, he⟩ := List.exists_mem_of_ne_nil _ hsome
    exact ⟨_, (mem_entrancesOf.mp he).2, rfl⟩
  · intro hsome
    obtain ⟨link, hlink, hid⟩ := hsome
    obtain ⟨e, he, heid⟩ := mem_entranceIds.mp (h.links link hlink).2
    apply List.ne_nil_of_mem (a := e)
    rw [mem_entrancesOf, heid, ← hid]
    exact ⟨he, hlink⟩

theorem Sound.totalsMirrored_iff {db : MapDb} (h : db.Sound) :
    db.TotalsMirrored ↔ db.Totalled ∧ db.Housed := by
  constructor
  · intro hmirrored
    constructor
    · intro e he hkind _
      exact hmirrored.1 e he hkind
    · intro id hid
      obtain ⟨b, hb, rfl⟩ := mem_buildingIds.mp hid
      exact h.entrancesOf_ne_nil.mp (hmirrored.2 b hb)
  · intro hboth
    constructor
    · intro e he hkind
      exact hboth.1 e he hkind id
    · intro b hb
      exact h.entrancesOf_ne_nil.mpr (hboth.2 _ (mem_buildingIds.mpr ⟨b, hb, rfl⟩))

/-! ## Sums -/

/-- The data that point to an entrance. -/
def dataOf (db : MapDb) (entranceId : Nat) : List BuildingResidentialData :=
  db.residentialData.filter (·.entranceId == entranceId)

theorem aggregates_congr {db db' : MapDb} {id : Nat} (h : db'.dataOf id = db.dataOf id) :
    db'.aggregates id = db.aggregates id := by
  show Figures.sum ((db'.dataOf id).map _) = Figures.sum ((db.dataOf id).map _)
  rw [h]

/-- No entrance still to come has data. -/
theorem Sound.dataOf_fresh {db : MapDb} (h : db.Sound) {id : Nat} (hfresh : db.nextEntranceId ≤ id) :
    db.dataOf id = [] := by
  unfold dataOf
  rw [List.filter_eq_nil_iff]
  intro r hr heq
  have hlt := h.newEntrance _ (h.residentialData r hr).2
  rw [beq_iff_eq.mp heq] at hlt
  exact Nat.not_lt.mpr hfresh hlt

theorem aggregates_of_none {db : MapDb} {id : Nat} (h : db.dataOf id = []) :
    db.aggregates id = ⟨none, none, none⟩ := by
  show Figures.sum ((db.dataOf id).map _) = _
  rw [h]
  rfl

/-- A blank row adds nothing. -/
theorem sum_append_blank (rows : List Figures) :
    Figures.sum (rows ++ [⟨none, none, none⟩]) = Figures.sum rows := by
  simp [Figures.sum, sumColumn, List.reduceOption_append]

/-! ## Writes -/

section Writes

variable {db : MapDb} {stale : Nat → Prop}

theorem TotalledExcept.updateEntrance (h : db.TotalledExcept stale) {id : Nat}
    {f : BuildingEntrance → BuildingEntrance} (hid : ∀ e, (f e).id = e.id)
    (hkind : ∀ e, (f e).kind = e.kind) (hfigures : ∀ e, (f e).figures = e.figures) :
    (db.updateEntrance id f).TotalledExcept stale :=
  UpToDate.rewrite h hid hfigures fun e he => (hkind e).symm.trans he

theorem TotalledExcept.recalculate (h : db.TotalledExcept stale) (id : Nat) :
    (db.recalculateEntranceAggregates id).TotalledExcept fun id' => stale id' ∧ id' ≠ id :=
  UpToDate.refresh h (fun _ => rfl) fun _ => rfl

/-- The one stale entrance is recomputed. -/
theorem TotalledExcept.recalculated {id : Nat} (h : db.TotalledExcept (· = id)) :
    (db.recalculateEntranceAggregates id).Totalled := by
  apply UpToDate.mono (h.recalculate id)
  intro _ _ _ hstale
  exact hstale.2 hstale.1

theorem TotalledExcept.accesses (h : db.TotalledExcept stale) (rows : List BuildingAccess) :
    { db with accesses := rows }.TotalledExcept stale := h

theorem TotalledExcept.recalculateCentroid (h : db.TotalledExcept stale) (id : Nat) :
    (db.recalculateEntranceCentroid id).TotalledExcept stale :=
  h.updateEntrance (fun _ => rfl) (fun _ => rfl) fun _ => rfl

theorem TotalledExcept.createEntrance (h : db.TotalledExcept stale) (hsound : db.Sound)
    {e : BuildingEntrance} {owner : Nat} (hfigures : e.figures = ⟨none, none, none⟩) :
    (db.createEntrance e owner).TotalledExcept stale := by
  apply UpToDate.append_one
  · exact UpToDate.of_computed h fun _ _ _ hfresh => ⟨hfresh, rfl⟩
  · intro _ _
    show e.figures = db.aggregates db.nextEntranceId
    rw [hfigures, aggregates_of_none (hsound.dataOf_fresh (Nat.le_refl _))]

theorem TotalledExcept.deleteEntrances (h : db.TotalledExcept stale) (gone : Nat → Bool) :
    (db.deleteEntrances gone).TotalledExcept stale := by
  intro e he hkind hfresh
  obtain ⟨hmem, hkept⟩ := mem_deleteEntrances.mp he
  rw [h e hmem hkind hfresh]
  apply (aggregates_congr _).symm
  show (db.residentialData.filter fun r => !gone r.entranceId).filter _ = db.residentialData.filter _
  rw [List.filter_filter]
  apply List.filter_congr
  intro r _
  cases heq : r.entranceId == e.id with
  | false => rfl
  | true => simp [beq_iff_eq.mp heq, hkept]

/-- A write to the data: what it changes is stale. -/
theorem TotalledExcept.of_data {db' : MapDb} {stale' : Nat → Prop} (h : db.TotalledExcept stale)
    (hentrances : db'.entrances = db.entrances)
    (hsame : ∀ e ∈ db.entrances, e.kind = .residential → ¬stale' e.id →
      ¬stale e.id ∧ db'.aggregates e.id = db.aggregates e.id) :
    db'.TotalledExcept stale' := by
  unfold TotalledExcept
  rw [hentrances]
  exact UpToDate.of_computed h hsame

theorem TotalledExcept.createBlankData (h : db.TotalledExcept stale) (buildingId entranceId : Nat) :
    (db.createResidentialData buildingId entranceId ⟨none, none, none⟩).TotalledExcept stale := by
  refine h.of_data rfl ?_
  intro e _ _ hfresh
  refine ⟨hfresh, ?_⟩
  unfold aggregates createResidentialData
  rw [List.filter_append, List.map_append]
  cases heq : entranceId == e.id with
  | false => simp [heq]
  | true =>
    simp only [List.filter_cons, heq, if_true, List.filter_nil, List.map_cons, List.map_nil]
    exact sum_append_blank _

theorem Housed.createEntrance (h : db.Housed) (e : BuildingEntrance) (owner : Nat) :
    (db.createEntrance e owner).Housed := by
  intro id hid
  obtain ⟨link, hlink, hlinked⟩ := h id hid
  exact ⟨link, List.mem_append_left _ hlink, hlinked⟩

theorem Housed.createResidentialData (h : db.Housed) (buildingId entranceId : Nat)
    (figures : Figures) : (db.createResidentialData buildingId entranceId figures).Housed := h

end Writes

end MapDb

/-! ## Buildings -/

section Buildings

variable {rt : MapRuntime} {db : MapDb} {perimeter : Perimeter}

/-- A new building and the entrance it comes with. -/
theorem housed_insertWithEntrance (h : db.Housed) (b : Building) (e : BuildingEntrance) :
    ((db.insertBuilding b).createEntrance e db.nextBuildingId).Housed := by
  intro id hid
  show ∃ link ∈ db.links ++ [(db.nextBuildingId, db.nextEntranceId)], link.1 = id
  rw [show ((db.insertBuilding b).createEntrance e db.nextBuildingId).buildingIds =
    db.buildingIds ++ [db.nextBuildingId] from buildingIds_insertBuilding] at hid
  cases List.mem_append.mp hid with
  | inl hold =>
    obtain ⟨link, hlink, hlinked⟩ := h id hold
    exact ⟨link, List.mem_append_left _ hlink, hlinked⟩
  | inr hnew =>
    rw [List.mem_singleton.mp hnew]
    exact ⟨_, List.mem_append_right _ (List.mem_singleton_self _), rfl⟩

theorem totalled_insertWithEntrance (hsound : db.Sound) (h : db.Totalled) {b : Building}
    {e : BuildingEntrance} (hfigures : e.figures = ⟨none, none, none⟩) :
    ((db.insertBuilding b).createEntrance e db.nextBuildingId).Totalled :=
  TotalledExcept.createEntrance (show (db.insertBuilding b).Totalled from h)
    (hsound.insertBuilding b) hfigures

theorem totalled_createBuilding (hsound : db.Sound) (h : db.Totalled ∧ db.Housed) (address : Address)
    (coordinates : Coordinates) :
    (createBuilding rt db perimeter address coordinates).Totalled ∧
      (createBuilding rt db perimeter address coordinates).Housed := by
  unfold createBuilding
  split
  · exact h
  · -- The data of the new building are blank.
    constructor
    · apply TotalledExcept.createBlankData
      exact totalled_insertWithEntrance hsound h.1 rfl
    · apply Housed.createResidentialData
      exact housed_insertWithEntrance h.2 _ _

theorem totalled_editBuilding (h : db.Totalled ∧ db.Housed) (buildingId : Nat) (address : Address)
    (coordinates : Coordinates) :
    (editBuilding rt db perimeter buildingId address coordinates).Totalled ∧
      (editBuilding rt db perimeter buildingId address coordinates).Housed := by
  let I := fun db : MapDb => db.Totalled ∧ db.Housed
  unfold editBuilding
  split
  · exact h
  split
  · exact h
  · apply List.foldlRecOn (motive := I)
    · refine ⟨h.1, ?_⟩
      unfold Housed
      rw [buildingIds_updateBuilding (by intro b; rfl)]
      exact h.2
    · intro db' hdb' e _
      exact ⟨hdb'.1.recalculateCentroid e.id, hdb'.2⟩

theorem totalled_deleteBuilding (h : db.Totalled ∧ db.Housed) (buildingId : Nat) :
    (deleteBuilding db buildingId).Totalled ∧ (deleteBuilding db buildingId).Housed := by
  unfold deleteBuilding
  split
  · exact h
  · refine ⟨h.1, ?_⟩
    intro id hid
    obtain ⟨b, hb, rfl⟩ := List.mem_map.mp hid
    obtain ⟨hmem, hother⟩ := List.mem_filter.mp hb
    obtain ⟨link, hlink, hlinked⟩ := h.2 _ (mem_buildingIds.mpr ⟨b, hmem, rfl⟩)
    exact ⟨link, List.mem_filter.mpr ⟨hlink, hlinked ▸ hother⟩, hlinked⟩

theorem totalled_applyOpenData (hsound : db.Sound) (h : db.Totalled ∧ db.Housed)
    (rows : List OpenDataRow) :
    (applyOpenData rt db perimeter rows).Totalled ∧ (applyOpenData rt db perimeter rows).Housed := by
  let I := fun db : MapDb => db.Sound ∧ db.Totalled ∧ db.Housed
  have hflag : ∀ (db : MapDb) {f : Building → Building}, (∀ b, (f b).id = b.id) → I db →
      I { db with buildings := db.buildings.map f } := by
    intro db f hid hdb
    refine ⟨sound_mapBuildings hdb.1 hid, hdb.2.1, ?_⟩
    intro id hmem
    obtain ⟨b, hb, rfl⟩ := List.mem_map.mp hmem
    obtain ⟨b', hb', rfl⟩ := List.mem_map.mp hb
    rw [hid]
    exact hdb.2.2 _ (mem_buildingIds.mpr ⟨b', hb', rfl⟩)
  have hrow : ∀ db, I db → ∀ row, I (upsertOpenData rt db perimeter row) := by
    intro db hdb row
    refine ⟨sound_upsertOpenData hdb.1 row, ?_⟩
    unfold upsertOpenData
    split
    · dsimp only
      split
      · refine (hflag db ?_ hdb).2
        exact fun _ => column_ite rfl
      · exact ⟨totalled_insertWithEntrance hdb.1 hdb.2.1 rfl, housed_insertWithEntrance hdb.2.2 _ _⟩
    · exact hdb.2
  have hreset : I (resetOpenData db) := by
    refine hflag db ?_ ⟨hsound, h⟩
    exact fun _ => column_ite rfl
  exact (List.foldlRecOn (motive := I) rows _ hreset fun db hdb row _ => hrow db hdb row).2

end Buildings

/-! ## Shared entrances -/

section Shared

variable {db : MapDb} {entrance : BuildingEntrance}

/-- Where the buildings of a shared entrance stand when those of `done` have been split off: their data
point to new entrances, whose totals are right; the old entrances have the totals they had. -/
structure Splitting (db : MapDb) (entrance : BuildingEntrance) (disconnected done : List Nat)
    (db' : MapDb) : Prop where
  next : db.nextEntranceId ≤ db'.nextEntranceId
  old : ∀ id < db.nextEntranceId, db'.dataOf id = (db.dataOf id).filter (·.buildingId ∉ done)
  new : ∀ r ∈ db'.residentialData, db.nextEntranceId ≤ r.entranceId → r.buildingId ∈ done
  kinds : ∀ e ∈ db'.entrances, e.id < db.nextEntranceId →
    ∃ e₀ ∈ db.entrances, e₀.id = e.id ∧ e₀.kind = e.kind
  totals : UpToDate (·.id) BuildingEntrance.figures (fun e => e.kind = .residential)
    (fun id => if id < db.nextEntranceId then db.aggregates id else db'.aggregates id) db'.entrances
    (· = entrance.id)
  housed : ∀ id ∈ db'.buildingIds, (id ∈ disconnected ∧ id ∉ done) ∨ ∃ link ∈ db'.links, link.1 = id

/-- The recomputations leave an entrance its id and its kind. -/
theorem exists_of_mem_splitOff {accesses : List BuildingAccess} {buildingId : Nat}
    {e : BuildingEntrance} (he : e ∈ (splitOff db entrance accesses buildingId).entrances) :
    ∃ e₀ ∈ (moveOut db entrance accesses buildingId).entrances, e₀.id = e.id ∧ e₀.kind = e.kind := by
  obtain ⟨e₁, he₁, rfl⟩ := List.mem_map.mp he
  obtain ⟨e₀, he₀, rfl⟩ := List.mem_map.mp he₁
  refine ⟨e₀, he₀, ?_⟩
  by_cases hnew : e₀.id = db.nextEntranceId
  · simp [hnew]
  · simp [hnew]

/-- The data a building takes along leave every entrance but the new one. -/
theorem dataOf_moveOut {accesses : List BuildingAccess} {buildingId id : Nat}
    (h : id ≠ db.nextEntranceId) :
    (moveOut db entrance accesses buildingId).dataOf id =
      (db.dataOf id).filter (·.buildingId ≠ buildingId) := by
  unfold dataOf moveOut
  dsimp only
  rw [List.filter_map]
  have hkept : ∀ r : BuildingResidentialData,
      ((if r.buildingId = buildingId then { r with entranceId := db.nextEntranceId }
        else r).entranceId == id) = (decide (r.buildingId ≠ buildingId) && r.entranceId == id) := by
    intro r
    by_cases hmine : r.buildingId = buildingId
    · simp [hmine, Ne.symm h]
    · simp [hmine]
  have hfilter : (db.createEntrance (likeEntrance entrance) buildingId).residentialData.filter
      ((fun r => r.entranceId == id) ∘ fun r => if r.buildingId = buildingId then
        { r with entranceId := db.nextEntranceId } else r) =
      (db.residentialData.filter (·.entranceId == id)).filter (·.buildingId ≠ buildingId) := by
    rw [List.filter_filter]
    exact List.filter_congr fun r _ => hkept r
  rw [hfilter]
  -- The rows that are left did not change.
  refine (List.map_congr_left (g := fun r => r) fun r hr => ?_).trans (List.map_id' _)
  rw [if_neg (by simpa using (List.mem_filter.mp hr).2)]

theorem splitting_reconnect (hsound : db.Sound) (h : db.Totalled ∧ db.Housed)
    (connected disconnected : List Nat) :
    Splitting db entrance disconnected [] (reconnect db entrance connected disconnected) where
  next := Nat.le_refl _
  old := by
    intro id _
    show db.dataOf id = _
    rw [List.filter_eq_self.mpr]
    simp
  new := by
    intro r hr hnew
    exact absurd (hsound.newEntrance _ (hsound.residentialData r hr).2) (Nat.not_lt.mpr hnew)
  kinds := fun e he _ => ⟨e, he, rfl, rfl⟩
  totals := by
    apply UpToDate.of_computed h.1
    intro e he _ _
    refine ⟨not_false, ?_⟩
    rw [if_pos (hsound.newEntrance _ (mem_entranceIds.mpr ⟨e, he, rfl⟩))]
  housed := by
    intro id hid
    obtain ⟨link, hlink, hlinked⟩ := h.2 id hid
    by_cases hout : id ∈ disconnected
    · exact .inl ⟨hout, List.not_mem_nil⟩
    · refine .inr ⟨link, List.mem_filter.mpr ⟨List.mem_append_left _ hlink, ?_⟩, hlinked⟩
      simp [hlinked, hout]

theorem splitting_splitOff {disconnected done : List Nat} {db' : MapDb}
    (hsound' : db'.Sound) (h : Splitting db entrance disconnected done db')
    (accesses : List BuildingAccess) {id : Nat} (hid : id ∉ done) :
    Splitting db entrance disconnected (done ++ [id]) (splitOff db' entrance accesses id) where
  next := Nat.le_succ_of_le h.next
  old := by
    intro k hk
    show (moveOut db' entrance accesses id).dataOf k = _
    rw [dataOf_moveOut (Nat.ne_of_lt (Nat.lt_of_lt_of_le hk h.next)), h.old k hk, List.filter_filter]
    apply List.filter_congr
    intro r _
    simp [not_or, and_comm]
  new := by
    intro r hr hnew
    obtain ⟨r', hr', rfl⟩ := List.mem_map.mp hr
    by_cases hmine : r'.buildingId = id
    · rw [if_pos hmine]
      exact List.mem_append_right _ (List.mem_singleton.mpr hmine)
    · rw [if_neg hmine] at hnew ⊢
      exact List.mem_append_left _ (h.new r' hr' hnew)
  kinds := by
    intro e he hold
    obtain ⟨e₁, he₁, hid₁, hkind₁⟩ := exists_of_mem_splitOff he
    cases List.mem_append.mp he₁ with
    | inl hmem =>
      obtain ⟨e₀, he₀, hid₀, hkind₀⟩ := h.kinds e₁ hmem (by rwa [hid₁])
      exact ⟨e₀, he₀, hid₀.trans hid₁, hkind₀.trans hkind₁⟩
    | inr hnew =>
      rw [← hid₁, List.mem_singleton.mp hnew] at hold
      exact absurd hold (Nat.not_lt.mpr h.next)
  totals := by
    let moved := moveOut db' entrance accesses id
    let computed := fun k => if k < db.nextEntranceId then db.aggregates k else moved.aggregates k
    -- No data of the building pointed to a new entrance.
    have hothers : UpToDate (·.id) BuildingEntrance.figures (fun e => e.kind = .residential) computed
        db'.entrances (· = entrance.id) := by
      apply UpToDate.of_computed h.totals
      intro e he _ hfresh
      refine ⟨hfresh, ?_⟩
      by_cases hold : e.id < db.nextEntranceId
      · simp only [computed, if_pos hold]
      · simp only [computed, if_neg hold]
        have hne : e.id ≠ db'.nextEntranceId :=
          fun heq => hsound'.fresh_entrance (heq ▸ mem_entranceIds.mpr ⟨e, he, rfl⟩)
        apply aggregates_congr
        rw [dataOf_moveOut hne, List.filter_eq_self]
        intro r hr
        obtain ⟨hmem, hpoints⟩ := List.mem_filter.mp hr
        have hdone := h.new r hmem (by rw [beq_iff_eq.mp hpoints]; exact Nat.not_lt.mp hold)
        have hother : r.buildingId ≠ id := fun heq => hid (heq ▸ hdone)
        simpa using hother
    have hcreated : UpToDate (·.id) BuildingEntrance.figures (fun e => e.kind = .residential) computed
        moved.entrances (fun k => k = entrance.id ∨ k = db'.nextEntranceId) := by
      apply UpToDate.append_one
      · exact hothers.mono fun _ _ _ hstale => .inl hstale
      · intro _ hfresh
        exact absurd (.inr rfl) hfresh
    have hnew : computed db'.nextEntranceId = moved.aggregates db'.nextEntranceId :=
      if_neg (Nat.not_lt.mpr h.next)
    have hrefreshed : UpToDate (·.id) BuildingEntrance.figures (fun e => e.kind = .residential)
        computed (moved.recalculateEntranceAggregates db'.nextEntranceId).entrances
        (fun k => (k = entrance.id ∨ k = db'.nextEntranceId) ∧ k ≠ db'.nextEntranceId) :=
      hcreated.refresh (fun _ => rfl) fun _ => hnew.symm
    apply UpToDate.mono (hrefreshed.rewrite ?_ ?_ ?_)
    · intro _ _ _ hstale
      exact hstale.1.resolve_right hstale.2
    · exact fun _ => rfl
    · exact fun _ => rfl
    · exact fun _ he => he
  housed := by
    intro k hk
    show _ ∨ ∃ link ∈ db'.links ++ [(id, db'.nextEntranceId)], link.1 = k
    by_cases hmine : k = id
    · exact .inr ⟨_, List.mem_append_right _ (List.mem_singleton_self _), hmine.symm⟩
    · cases h.housed k hk with
      | inl hout => exact .inl ⟨hout.1, by simp [hout.2, hmine]⟩
      | inr hlinked =>
        obtain ⟨link, hlink, heq⟩ := hlinked
        exact .inr ⟨link, List.mem_append_left _ hlink, heq⟩

/-- The buildings that leave take nothing from another entrance: their data, where they point to another
residential entrance, add nothing to its totals. -/
def LeavesOthersTotals (db : MapDb) (entranceId : Nat) (buildingIds : List Nat) : Prop :=
  ∀ entrance ∈ db.entranceById entranceId,
    (∀ id ∈ newBuildingIds db entrance buildingIds, id ∈ db.buildingIds) →
      ∀ e ∈ db.entrances, e.kind = .residential → e.id ≠ entranceId →
        Figures.sum (((db.dataOf e.id).filter
            (·.buildingId ∉ disconnectBuildingIds db entrance buildingIds)).map (·.figures)) =
          db.aggregates e.id

/-- The deletion of the entrances without a building leaves no building bare. -/
theorem housed_deleteEmptyEntrances (h : db.Housed) : (deleteEmptyEntrances db).Housed := by
  intro id hid
  obtain ⟨link, hlink, hlinked⟩ := h id hid
  refine ⟨link, mem_links_deleteEntrances.mpr ⟨hlink, ?_⟩, hlinked⟩
  rw [List.all_eq_false]
  exact ⟨link, hlink, by simp⟩

/-- **An update of a shared entrance leaves the other totals right** when its buildings' data point to
it. -/
theorem totalled_updateBuildingsInEntrance (hsound : db.Sound) (h : db.Totalled ∧ db.Housed)
    {entranceId : Nat} {buildingIds : List Nat} (hleaves : LeavesOthersTotals db entranceId buildingIds) :
    (updateBuildingsInEntrance db entranceId buildingIds).Totalled ∧
      (updateBuildingsInEntrance db entranceId buildingIds).Housed := by
  unfold updateBuildingsInEntrance
  split
  · exact h
  next entrance hfound =>
    obtain ⟨hentrance, hid⟩ := entranceById_eq_some hfound
    suffices hwritten : MapDb.Totalled (if (newBuildingIds db entrance buildingIds).all
        (fun id => db.buildings.any (·.id == id)) then
          writeBuildings db entrance (newBuildingIds db entrance buildingIds)
            (disconnectBuildingIds db entrance buildingIds) else db) ∧ MapDb.Housed _ from
      ⟨TotalledExcept.deleteEntrances hwritten.1 _, housed_deleteEmptyEntrances hwritten.2⟩
    split
    next hall =>
      obtain ⟨db', hsound', hsplit, heq⟩ := splitOff_each
        (I := Splitting db entrance (disconnectBuildingIds db entrance buildingIds)) hsound hentrance
        hall (splitting_reconnect hsound h _ _)
        fun _ _ accesses hsound' hdone _ hnew => splitting_splitOff hsound' hdone accesses hnew
      rw [heq]
      -- The old entrances other than this one have the totals of the data that still point to them.
      have htotals : db'.TotalledExcept (· = entrance.id) := by
        apply UpToDate.of_computed hsplit.totals
        intro e he hkind hother
        refine ⟨hother, ?_⟩
        by_cases hold : e.id < db.nextEntranceId
        · rw [if_pos hold]
          obtain ⟨e₀, he₀, hid₀, hkind₀⟩ := hsplit.kinds e he hold
          have hconnected : ∀ id ∈ newBuildingIds db entrance buildingIds, id ∈ db.buildingIds :=
            fun id hmem => any_building.mp (List.all_eq_true.mp hall id hmem)
          have hsame := hleaves entrance hfound hconnected e₀ he₀ (hkind₀.trans hkind)
            (by rw [hid₀, ← hid]; exact hother)
          rw [hid₀] at hsame
          rw [← hsame]
          show Figures.sum ((db'.dataOf e.id).map _) = _
          rw [hsplit.old e.id hold]
        · rw [if_neg hold]
      constructor
      · exact htotals.recalculated.recalculateCentroid entrance.id
      · intro id hmem
        exact (hsplit.housed id hmem).resolve_left fun hout => hout.2 hout.1
    · exact h

end Shared

/-! ## Prospection: the totals -/

section Totals

variable {rt : MapRuntime} {db : MapDb} {buildingId : Nat} {input : BuildingProspectionInput}

theorem Totalled.syncCommerceEntrances (h : db.Totalled) (hsound : SoundWith buildingId db)
    (shopKinds notes : List String) :
    (syncCommerceEntrances db buildingId shopKinds notes).Totalled := by
  let I := fun db : MapDb => SoundWith buildingId db ∧ db.Totalled
  unfold Territories.syncCommerceEntrances
  refine (List.foldlRecOn (motive := I) _ _ (List.foldlRecOn (motive := I) _ _ ⟨hsound, h⟩ ?_) ?_).2
  · intro db' hdb' place _
    unfold syncCommerce
    split
    · exact ⟨⟨hdb'.1.1.updateEntrance fun _ => rfl, hdb'.1.2⟩,
        hdb'.2.updateEntrance (fun _ => rfl) (fun _ => rfl) fun _ => rfl⟩
    · exact ⟨⟨hdb'.1.1.deleteEntrances _, hdb'.1.2⟩, hdb'.2.deleteEntrances _⟩
  · intro db' hdb' shop _
    exact ⟨⟨hdb'.1.1.createEntrance _ hdb'.1.2, hdb'.1.2⟩, hdb'.2.createEntrance hdb'.1.1 rfl⟩

theorem Totalled.syncUniqueEntrance (h : db.Totalled) (hsound : db.Sound) (kind : EntranceKind)
    (shouldExist : Bool) : (syncUniqueEntrance db buildingId kind shouldExist).Totalled := by
  unfold Territories.syncUniqueEntrance
  split
  · exact h.createEntrance hsound rfl
  · exact h.deleteEntrances _
  · exact h

theorem Totalled.setOtherKinds (h : db.Totalled) (hsound : SoundWith buildingId db) :
    (setOtherKinds db buildingId input).Totalled := by
  apply setOtherKinds_rule hsound
  · exact Totalled.syncCommerceEntrances h hsound _ _
  · intro db' kind _ _ hsound' _ h'
    exact Totalled.syncUniqueEntrance h' hsound'.1 kind _

/-- Data of an entrance leave the sums of the others. -/
theorem aggregates_createResidentialData {entranceId id : Nat} {figures : Figures}
    (h : id ≠ entranceId) :
    (db.createResidentialData buildingId entranceId figures).aggregates id = db.aggregates id := by
  apply aggregates_congr
  unfold dataOf createResidentialData
  rw [List.filter_append, List.filter_cons_of_neg (by simpa using h.symm), List.filter_nil,
    List.append_nil]

/-- The new figures of the building change no totals but those of the entrance the form is about. -/
def StayWith (db : MapDb) (buildingId : Nat) (figures : Figures) (about : Nat → Prop) : Prop :=
  ∀ e ∈ db.entrances, e.kind = .residential → ¬about e.id →
    (updateResidentialData db buildingId figures).aggregates e.id = db.aggregates e.id

theorem totalled_upsert (h : db.Totalled) {entranceId : Nat} {figures : Figures}
    (hstay : StayWith db buildingId figures (· = entranceId)) :
    (upsertResidentialData db buildingId entranceId figures).TotalledExcept (· = entranceId) := by
  unfold upsertResidentialData
  split
  · exact TotalledExcept.of_data h rfl fun e he hkind hother =>
      ⟨not_false, hstay e he hkind hother⟩
  · exact TotalledExcept.of_data h rfl fun e _ _ hother =>
      ⟨not_false, aggregates_createResidentialData hother⟩

theorem totalled_writeResidential (h : db.Totalled) {entranceId : Nat}
    (hstay : input.Accepted rt → ∀ figures ∈ input.figures rt,
      StayWith db buildingId figures (· = entranceId)) :
    Leaves Totalled (writeResidential rt db buildingId input entranceId) := by
  unfold writeResidential
  split
  · exact h
  next accessType haccess =>
    dsimp only
    split
    · exact h.updateEntrance (fun _ => rfl) (fun _ => rfl) fun _ => rfl
    next figures hfigures =>
      have haccepted : input.Accepted rt := fun _ => ⟨by simp [haccess], by simp [hfigures]⟩
      let fields := db.updateEntrance entranceId fun e =>
        { e with
          access := accessType
          isPMR := some (checked input.pmr)
          isOpenEarly := some (checked input.doors)
          isMailboxOpen := some (checked input.mailboxes)
          notes := input.residentialNotes }
      have hfields : fields.Totalled := h.updateEntrance (fun _ => rfl) (fun _ => rfl) fun _ => rfl
      have hstay' : StayWith fields buildingId figures (· = entranceId) := by
        intro e he hkind hother
        obtain ⟨e₀, he₀, rfl⟩ := List.mem_map.mp he
        by_cases hid : e₀.id = entranceId
        · rw [if_pos hid] at hother
          exact absurd hid hother
        · rw [if_neg hid] at hkind hother ⊢
          exact hstay haccepted figures hfigures e₀ he₀ hkind hother
      show MapDb.Totalled (MapDb.recalculateEntranceAggregates _ entranceId)
      apply TotalledExcept.recalculated
      apply TotalledExcept.accesses
      exact totalled_upsert hfields hstay'

/-- **The form changes no other totals** when the building's data are with its own homes, or their new
figures make no difference where they are. -/
theorem totalled_setResidential (hsound : SoundWith buildingId db) (h : db.Totalled)
    (hstay : input.residential = true → input.Accepted rt → ∀ figures ∈ input.figures rt,
      StayWith db buildingId figures fun id =>
        (db.idsOfKind buildingId .residential).head? = some id) :
    Leaves Totalled (setResidential rt db buildingId input) := by
  unfold setResidential
  split
  next entrance hentrance =>
    split
    next hresidential =>
      refine totalled_writeResidential h fun haccepted figures hfigures e he hkind hother => ?_
      apply hstay hresidential haccepted figures hfigures e he hkind
      rw [idsOfKind, List.head?_map, hentrance]
      intro heq
      exact hother (Option.some.inj heq).symm
    · exact h.deleteEntrances _
  next hnone =>
    split
    next hresidential =>
      refine totalled_writeResidential (h.createEntrance hsound.1 rfl)
        fun haccepted figures hfigures e he hkind hother => ?_
      cases List.mem_append.mp he with
      | inl hold =>
        apply hstay hresidential haccepted figures hfigures e hold hkind
        rw [idsOfKind, List.head?_map, hnone]
        exact fun heq => by simp at heq
      | inr hnew =>
        rw [List.mem_singleton.mp hnew] at hother
        exact absurd rfl hother
    · exact h

end Totals

/-! ## Prospection: the entrances a building keeps -/

/-- The entrances of a kind that go. -/
def removedOfKind (db : MapDb) (buildingId : Nat) (input : BuildingProspectionInput) :
    EntranceKind → List Nat
  | .commerce =>
    ((db.idsOfKind buildingId .commerce).mergeSort (· ≤ ·)).drop input.commerceShopKinds.length
  | kind => if input.asksFor kind then [] else (db.idsOfKind buildingId kind).take 1

/-- The entrance goes when the form is saved: the first of a kind that is not asked for, or a commerce too
many. -/
def Removed (db : MapDb) (buildingId : Nat) (input : BuildingProspectionInput) (id : Nat) : Prop :=
  ∃ kind, id ∈ removedOfKind db buildingId input kind

section Removed

variable {db : MapDb} {buildingId id : Nat} {input : BuildingProspectionInput} {kind : EntranceKind}

theorem removedOfKind_of_ne (hkind : kind ≠ .commerce) :
    removedOfKind db buildingId input kind =
      if input.asksFor kind then [] else (db.idsOfKind buildingId kind).take 1 := by
  cases kind with
  | commerce => exact absurd rfl hkind
  | residential => rfl
  | hotel => rfl
  | laundromat => rfl
  | campus => rfl

theorem mem_removedOfKind_iff (hkind : kind ≠ .commerce) :
    id ∈ removedOfKind db buildingId input kind ↔
      input.asksFor kind = false ∧ (db.idsOfKind buildingId kind).head? = some id := by
  rw [removedOfKind_of_ne hkind]
  cases input.asksFor kind with
  | true => simp
  | false =>
    cases db.idsOfKind buildingId kind with
    | nil => simp
    | cons first rest => simp [eq_comm]

theorem removedOfKind_congr {db' : MapDb}
    (hids : db'.idsOfKind buildingId kind = db.idsOfKind buildingId kind) :
    removedOfKind db' buildingId input kind = removedOfKind db buildingId input kind := by
  cases kind with
  | commerce => simp only [removedOfKind, hids]
  | residential => simp only [removedOfKind, hids]
  | hotel => simp only [removedOfKind, hids]
  | laundromat => simp only [removedOfKind, hids]
  | campus => simp only [removedOfKind, hids]

theorem mem_idsOfKind_of_removed (h : id ∈ removedOfKind db buildingId input kind) :
    id ∈ db.idsOfKind buildingId kind := by
  by_cases hshop : kind = .commerce
  · subst hshop
    exact List.mem_mergeSort.mp (List.mem_of_mem_drop h)
  · exact List.mem_of_mem_head? ((mem_removedOfKind_iff hshop).mp h).2

/-- An entrance goes with its own kind. -/
theorem removed_iff_own (h : db.Sound) {e : BuildingEntrance} (he : e ∈ db.entrances) :
    Removed db buildingId input e.id ↔ e.id ∈ removedOfKind db buildingId input e.kind := by
  refine ⟨fun ⟨kind, hkind⟩ => ?_, fun hown => ⟨_, hown⟩⟩
  have hsame : e.kind = kind := kind_of_mem_idsOfKind h he (mem_idsOfKind_of_removed hkind)
  rwa [hsame]

end Removed

/-- Every building keeps an entrance: one that does not go, or, for the building itself, one that the
form asks for. -/
def LeavesNoneBare (db : MapDb) (buildingId : Nat) (input : BuildingProspectionInput) : Prop :=
  ∀ b ∈ db.buildings, (∃ e ∈ db.entrancesOf b.id, ¬Removed db buildingId input e.id) ∨
    (b.id = buildingId ∧ ∃ kind, input.asksFor kind = true)

/-- A part of the update keeps the links of entrances that do not go. -/
structure Kept (removed : Nat → Prop) (db db' : MapDb) : Prop where
  buildings : db'.buildingIds = db.buildingIds
  next : db.nextEntranceId ≤ db'.nextEntranceId
  links : ∀ link ∈ db.links, ¬removed link.2 → link ∈ db'.links

namespace Kept

variable {removed : Nat → Prop} {db db' db'' : MapDb}

theorem refl (db : MapDb) : Kept removed db db := ⟨rfl, Nat.le_refl _, fun _ hlink _ => hlink⟩

theorem trans (h : Kept removed db db') (h' : Kept removed db' db'') : Kept removed db db'' :=
  ⟨h'.buildings.trans h.buildings, Nat.le_trans h.next h'.next, 
    fun link hlink hkept => h'.links link (h.links link hlink hkept) hkept⟩

theorem createEntrance (h : Kept removed db db') (e : BuildingEntrance) (owner : Nat) :
    Kept removed db (db'.createEntrance e owner) :=
  ⟨h.buildings, Nat.le_succ_of_le h.next,
    fun link hlink hkept => List.mem_append_left _ (h.links link hlink hkept)⟩

theorem deleteEntrance (h : Kept removed db db') {id : Nat} (hid : removed id) :
    Kept removed db (db'.deleteEntrance id) := by
  refine ⟨h.buildings, h.next,
    fun link hlink hkept => mem_links_deleteEntrances.mpr ⟨h.links link hlink hkept, ?_⟩⟩
  have hne : link.2 ≠ id := fun heq => hkept (heq ▸ hid)
  simpa using hne

theorem updateEntrance (h : Kept removed db db') (id : Nat)
    (f : BuildingEntrance → BuildingEntrance) : Kept removed db (db'.updateEntrance id f) :=
  ⟨h.buildings, h.next, h.links⟩

theorem accesses (h : Kept removed db db') (rows : List BuildingAccess) :
    Kept removed db { db' with accesses := rows } :=
  ⟨h.buildings, h.next, h.links⟩

end Kept

section Housing

variable {rt : MapRuntime} {db db' : MapDb} {buildingId : Nat} {input : BuildingProspectionInput}
  {removed : Nat → Prop}

theorem kept_writeResidential {entranceId : Nat} :
    Leaves (Kept removed db) (writeResidential rt db buildingId input entranceId) := by
  have hupsert : ∀ (db' : MapDb) (figures : Figures), Kept removed db db' →
      Kept removed db (upsertResidentialData db' buildingId entranceId figures) := by
    intro db' figures h
    unfold upsertResidentialData
    split
    · exact ⟨h.buildings, h.next, h.links⟩
    · exact ⟨h.buildings, h.next, h.links⟩
  unfold writeResidential
  split
  · exact Kept.refl db
  dsimp only
  split
  · exact (Kept.refl db).updateEntrance _ _
  · show Kept removed db (MapDb.recalculateEntranceAggregates _ _)
    unfold MapDb.recalculateEntranceAggregates
    apply Kept.updateEntrance
    apply Kept.accesses
    apply hupsert
    exact (Kept.refl db).updateEntrance _ _

theorem kept_setResidential
    (hremoved : input.residential = false →
      ∀ id ∈ (db.idsOfKind buildingId .residential).head?, removed id) :
    Leaves (Kept removed db) (setResidential rt db buildingId input) := by
  unfold setResidential
  split
  next entrance hentrance =>
    split
    · exact kept_writeResidential
    next hunchecked =>
      apply (Kept.refl db).deleteEntrance
      apply hremoved (by simpa using hunchecked)
      rw [idsOfKind, List.head?_map, hentrance]
      rfl
  · split
    · have hcreated : Kept removed db (db.createEntrance (entranceOfKind .residential) buildingId) :=
        (Kept.refl db).createEntrance _ _
      cases hwrite : writeResidential rt (db.createEntrance (entranceOfKind .residential) buildingId)
          buildingId input db.nextEntranceId with
      | ok db' => exact hcreated.trans (kept_writeResidential.of_ok hwrite)
      | error db' => exact hcreated.trans (kept_writeResidential.of_error hwrite)
    · exact Kept.refl db

/-- The ids of the commerces in their order. -/
theorem existingCommerces_ids :
    (existingCommerces db buildingId).map (·.id) =
      (db.idsOfKind buildingId .commerce).mergeSort (· ≤ ·) :=
  List.map_mergeSort fun _ _ _ _ => rfl

theorem kept_syncCommerceEntrances {shopKinds : List String} (notes : List String)
    (hremoved : ∀ id ∈ ((db.idsOfKind buildingId .commerce).mergeSort (· ≤ ·)).drop shopKinds.length,
      removed id) :
    Kept removed db (syncCommerceEntrances db buildingId shopKinds notes) := by
  unfold syncCommerceEntrances
  apply List.foldlRecOn (motive := Kept removed db)
  · apply List.foldlRecOn (motive := Kept removed db)
    · exact Kept.refl db
    · intro db' hdb' place hplace
      unfold syncCommerce
      split
      · exact hdb'.updateEntrance _ _
      next hnone =>
        -- A commerce with no shop left for it is one of those dropped.
        apply hdb'.deleteEntrance
        apply hremoved
        rw [← existingCommerces_ids, ← List.map_drop, List.mem_map]
        refine ⟨place.1, ?_, rfl⟩
        obtain ⟨e, i⟩ := place
        rw [List.mem_zipIdx_iff_getElem?] at hplace
        have hlong : shopKinds.length ≤ i := List.getElem?_eq_none_iff.mp hnone
        apply List.mem_of_getElem? (i := i - shopKinds.length)
        rw [List.getElem?_drop, Nat.add_sub_cancel' hlong]
        exact hplace
  · intro db' hdb' shop _
    exact hdb'.createEntrance _ _

theorem kept_syncUniqueEntrance {kind : EntranceKind} {shouldExist : Bool}
    (hremoved : shouldExist = false → ∀ id ∈ (db.idsOfKind buildingId kind).head?, removed id) :
    Kept removed db (syncUniqueEntrance db buildingId kind shouldExist) := by
  unfold syncUniqueEntrance
  split
  · exact (Kept.refl db).createEntrance _ _
  next existing _ hexisting =>
    apply (Kept.refl db).deleteEntrance
    apply hremoved rfl
    rw [idsOfKind, List.head?_map, hexisting]
    rfl
  · exact Kept.refl db

/-- The building has an entrance that stays. -/
def Serves (removed : Nat → Prop) (buildingId : Nat) (db : MapDb) : Prop :=
  ∃ link ∈ db.links, link.1 = buildingId ∧ ¬removed link.2

theorem Serves.kept (h : Serves removed buildingId db) (hkept : Kept removed db db') :
    Serves removed buildingId db' := by
  obtain ⟨link, hlink, howner, hstays⟩ := h
  exact ⟨link, hkept.links link hlink hstays, howner, hstays⟩

theorem serves_of_ids {kind : EntranceKind} {id : Nat} (hid : id ∈ db.idsOfKind buildingId kind)
    (hstays : ¬removed id) : Serves removed buildingId db := by
  obtain ⟨e, _, hlink, _, rfl⟩ := mem_idsOfKind.mp hid
  exact ⟨_, hlink, rfl, hstays⟩

theorem serves_createEntrance {e : BuildingEntrance} (hnew : ¬removed db.nextEntranceId) :
    Serves removed buildingId (db.createEntrance e buildingId) :=
  ⟨_, List.mem_append_right _ (List.mem_singleton_self _), rfl, hnew⟩

/-- A first commerce. -/
theorem serves_syncCommerceEntrances {shopKinds : List String} (notes : List String)
    (hnone : db.idsOfKind buildingId .commerce = []) (hshops : shopKinds ≠ [])
    (hnew : ¬removed db.nextEntranceId) :
    Serves removed buildingId (syncCommerceEntrances db buildingId shopKinds notes) := by
  have hexisting : existingCommerces db buildingId = [] := by
    rw [← List.map_eq_nil_iff (f := (·.id)), existingCommerces_ids, hnone, List.mergeSort_nil]
  unfold syncCommerceEntrances
  rw [hexisting]
  cases shopKinds with
  | nil => exact absurd rfl hshops
  | cons shopKind rest =>
    show Serves removed buildingId ((rest.zipIdx 1).foldl (createCommerce buildingId notes)
      (createCommerce buildingId notes db (shopKind, 0)))
    apply (serves_createEntrance hnew).kept
    apply List.foldlRecOn (motive := Kept removed _)
    · exact Kept.refl _
    · intro db' hdb' shop _
      exact hdb'.createEntrance _ _

theorem serves_syncUniqueEntrance {kind : EntranceKind}
    (hnone : db.idsOfKind buildingId kind = []) (hnew : ¬removed db.nextEntranceId) :
    Serves removed buildingId (syncUniqueEntrance db buildingId kind true) := by
  have hfirst : (db.entrancesOfKind buildingId kind).head? = none := by
    rw [List.map_eq_nil_iff.mp hnone]
    rfl
  unfold syncUniqueEntrance
  rw [hfirst]
  exact serves_createEntrance hnew

/-- A part for one kind: the links of what stays are kept, and what is asked for is there. -/
theorem unique_part {kind : EntranceKind} (hshop : kind ≠ .commerce)
    (hremoved : ∀ id ∈ removedOfKind db buildingId input kind, removed id)
    (hids : db'.idsOfKind buildingId kind = db.idsOfKind buildingId kind)
    (hnew : ¬removed db'.nextEntranceId) :
    Kept removed db' (syncUniqueEntrance db' buildingId kind (input.asksFor kind)) ∧
      (input.asksFor kind = true → db.idsOfKind buildingId kind = [] →
        Serves removed buildingId (syncUniqueEntrance db' buildingId kind (input.asksFor kind))) := by
  constructor
  · apply kept_syncUniqueEntrance
    intro hno id hid
    rw [hids] at hid
    exact hremoved id ((mem_removedOfKind_iff hshop).mpr ⟨hno, hid⟩)
  · intro hasks hnone
    rw [hasks]
    exact serves_syncUniqueEntrance (hids.trans hnone) hnew

/-- **The parts after the homes** keep the links of what stays, and give the building what is asked for
and was not there. -/
theorem setOtherKinds_part (h : SoundWith buildingId db)
    (hremoved : ∀ kind, kind ≠ .residential →
      ∀ id ∈ removedOfKind db buildingId input kind, removed id)
    (hnew : ∀ id, db.nextEntranceId ≤ id → ¬removed id) :
    Kept removed db (setOtherKinds db buildingId input) ∧
      ∀ kind, kind ≠ .residential → input.asksFor kind = true →
        db.idsOfKind buildingId kind = [] →
          Serves removed buildingId (setOtherKinds db buildingId input) := by
  let shops := syncCommerceEntrances db buildingId input.commerceShopKinds input.commerceNotes
  let hotels := syncUniqueEntrance shops buildingId .hotel (input.asksFor .hotel)
  let campuses := syncUniqueEntrance hotels buildingId .campus (input.asksFor .campus)
  have hsoundShops : SoundWith buildingId shops := sound_syncCommerceEntrances h _ _
  have hsoundHotels : SoundWith buildingId hotels := sound_syncUniqueEntrance hsoundShops _ _
  have hids : ∀ kind, kind ≠ .commerce → shops.idsOfKind buildingId kind = db.idsOfKind buildingId kind :=
    fun _ hkind => idsOfKind_syncCommerceEntrances h _ _ hkind
  -- Each part keeps the links, so the ids to come stay free.
  have hshops : Kept removed db shops :=
    kept_syncCommerceEntrances input.commerceNotes (hremoved .commerce (by decide))
  have hhotel := unique_part (by decide) (hremoved .hotel (by decide))
    (hids .hotel (by decide)) (hnew _ hshops.next)
  have hcampusIds : hotels.idsOfKind buildingId .campus = db.idsOfKind buildingId .campus :=
    (idsOfKind_syncUniqueEntrance hsoundShops _ (by decide)).trans (hids .campus (by decide))
  have hcampus := unique_part (by decide) (hremoved .campus (by decide)) hcampusIds
    (hnew _ (hshops.trans hhotel.1).next)
  have hlaundromatIds : campuses.idsOfKind buildingId .laundromat =
      db.idsOfKind buildingId .laundromat :=
    (idsOfKind_syncUniqueEntrance hsoundHotels _ (by decide)).trans
      ((idsOfKind_syncUniqueEntrance hsoundShops _ (by decide)).trans (hids .laundromat (by decide)))
  have hlaundromat := unique_part (by decide) (hremoved .laundromat (by decide))
    hlaundromatIds (hnew _ (hshops.trans (hhotel.1.trans hcampus.1)).next)
  refine ⟨hshops.trans (hhotel.1.trans (hcampus.1.trans hlaundromat.1)), ?_⟩
  intro kind hkind hasks hnone
  cases kind with
  | residential => exact absurd rfl hkind
  | commerce =>
    have hserves : Serves removed buildingId shops :=
      serves_syncCommerceEntrances input.commerceNotes hnone
        (by simpa [BuildingProspectionInput.asksFor] using hasks) (hnew _ (Nat.le_refl _))
    exact hserves.kept (hhotel.1.trans (hcampus.1.trans hlaundromat.1))
  | hotel => exact (hhotel.2 hasks hnone).kept (hcampus.1.trans hlaundromat.1)
  | campus => exact (hcampus.2 hasks hnone).kept hlaundromat.1
  | laundromat => exact hlaundromat.2 hasks hnone

theorem not_removed_of_new (h : db.Sound) {id : Nat} (hnew : db.nextEntranceId ≤ id) :
    ¬Removed db buildingId input id := by
  intro hremoved
  obtain ⟨kind, hkind⟩ := hremoved
  obtain ⟨e, he, _, _, rfl⟩ := mem_idsOfKind.mp (mem_idsOfKind_of_removed hkind)
  exact Nat.not_lt.mpr hnew (h.newEntrance _ (mem_entranceIds.mpr ⟨e, he, rfl⟩))

theorem nodup_idsOfKind (h : db.Sound) {kind : EntranceKind} :
    (db.idsOfKind buildingId kind).Nodup :=
  h.entrances.sublist ((List.filter_sublist.trans List.filter_sublist).map _)

/-- One of the entrances of a kind that is asked for stays. -/
theorem stays_of_asked (h : db.Sound) {kind : EntranceKind} (hasks : input.asksFor kind = true)
    (hsome : db.idsOfKind buildingId kind ≠ []) :
    ∃ id ∈ db.idsOfKind buildingId kind, ¬Removed db buildingId input id := by
  have hown : ∀ id ∈ db.idsOfKind buildingId kind, Removed db buildingId input id →
      id ∈ removedOfKind db buildingId input kind := by
    intro id hid hremoved
    obtain ⟨e, he, _, hkind, rfl⟩ := mem_idsOfKind.mp hid
    rw [← hkind]
    exact (removed_iff_own h he).mp hremoved
  by_cases hshop : kind = .commerce
  · subst hshop
    -- The first commerce takes the first shop.
    have hperm := List.mergeSort_perm (db.idsOfKind buildingId .commerce) (· ≤ ·)
    cases hsorted : (db.idsOfKind buildingId .commerce).mergeSort (· ≤ ·) with
    | nil =>
      rw [hsorted] at hperm
      exact absurd (List.nil_perm.mp hperm) hsome
    | cons first rest =>
      rw [hsorted] at hperm
      have hfirst := hperm.mem_iff.mp List.mem_cons_self
      refine ⟨first, hfirst, fun hremoved => ?_⟩
      have hdrop : first ∈ (first :: rest).drop input.commerceShopKinds.length := by
        rw [← hsorted]
        exact hown first hfirst hremoved
      cases hshops : input.commerceShopKinds with
      | nil => simp [BuildingProspectionInput.asksFor, hshops] at hasks
      | cons shop shops =>
        rw [hshops] at hdrop
        exact (List.nodup_cons.mp (hperm.nodup_iff.mpr (nodup_idsOfKind h))).1
          (List.mem_of_mem_drop hdrop)
  · obtain ⟨id, hid⟩ := List.exists_mem_of_ne_nil _ hsome
    refine ⟨id, hid, fun hremoved => ?_⟩
    have hmem := hown id hid hremoved
    rw [removedOfKind_of_ne hshop, if_pos hasks] at hmem
    exact List.not_mem_nil hmem

/-- Homes asked for are there when they are written. -/
theorem serves_setResidential (hresidential : input.residential = true)
    (hnone : db.idsOfKind buildingId .residential = []) (hnew : ¬removed db.nextEntranceId)
    (h : setResidential rt db buildingId input = .ok db') : Serves removed buildingId db' := by
  have hfirst : (db.entrancesOfKind buildingId .residential).head? = none := by
    rw [List.map_eq_nil_iff.mp hnone]
    rfl
  unfold setResidential at h
  rw [hfirst] at h
  dsimp only at h
  rw [if_pos hresidential] at h
  exact (serves_createEntrance hnew).kept (kept_writeResidential.of_ok h)

/-- Only homes asked for can be refused. -/
theorem residential_of_refused (h : setResidential rt db buildingId input = .error db') :
    input.residential = true := by
  by_contra hno
  unfold setResidential at h
  split at h
  · rw [if_neg hno] at h
    exact absurd h (by simp)
  · rw [if_neg hno] at h
    exact absurd h (by simp)

/-- **The form leaves no building bare** when every building keeps an entrance by it. -/
theorem housed_setBuildingProspectionData (hsound : db.Sound) (h : db.Housed)
    (hbare : input.date rt = none ∨ ¬input.Accepted rt ∨ LeavesNoneBare db buildingId input) :
    (setBuildingProspectionData rt db buildingId input).Housed := by
  obtain hsame | ⟨prospectionDate, hdate, hdated, hset⟩ := setBuildingProspectionData_cases hsound
  · rw [hsame]
    exact h
  let dated := setProspectionDate db buildingId prospectionDate
  have hids : dated.buildingIds = db.buildingIds := buildingIds_updateBuilding fun _ => rfl
  obtain ⟨db', hrefused, heq⟩ | ⟨db', hwritten, heq⟩ := hset
  · rw [heq]
    -- Nothing is deleted before a refusal.
    have hkept : Kept (fun _ => False) dated db' := by
      apply (kept_setResidential _).of_error hrefused
      intro hno
      rw [residential_of_refused hrefused] at hno
      exact absurd hno (by decide)
    intro id hid
    rw [hkept.buildings, hids] at hid
    obtain ⟨link, hlink, howner⟩ := h id hid
    exact ⟨link, hkept.links link hlink not_false, howner⟩
  have hnoneBare := (hbare.resolve_left (by simp [hdate])).resolve_left
    (not_not_intro (accepted_of_setResidential hwritten))
  let removed := Removed db buildingId input
  have hremoved : ∀ kind, ∀ id ∈ removedOfKind db buildingId input kind, removed id :=
    fun kind _ hid => ⟨kind, hid⟩
  have hhomes : Kept removed dated db' := by
    apply (kept_setResidential _).of_ok hwritten
    intro hno id hid
    exact ⟨.residential, (mem_removedOfKind_iff (by decide)).mpr ⟨hno, hid⟩⟩
  have hkinds : ∀ kind, kind ≠ .residential →
      db'.idsOfKind buildingId kind = db.idsOfKind buildingId kind :=
    fun kind hkind => (idsOfKind_setResidential hdated.1 hkind).of_ok hwritten
  have hparts : ∀ kind, kind ≠ .residential → removedOfKind db' buildingId input kind =
      removedOfKind db buildingId input kind := fun kind hkind => removedOfKind_congr (hkinds kind hkind)
  have hothers : Kept removed db' (setOtherKinds db' buildingId input) ∧ _ :=
    setOtherKinds_part ((sound_setResidential hdated).of_ok hwritten)
      (fun kind hkind id hid => hremoved kind id (hparts kind hkind ▸ hid))
      (fun id hnew => not_removed_of_new hsound (Nat.le_trans hhomes.next hnew))
  rw [heq]
  intro id hid
  rw [hothers.1.buildings, hhomes.buildings, hids] at hid
  obtain ⟨b, hb, rfl⟩ := mem_buildingIds.mp hid
  obtain ⟨e, he, hstays⟩ | ⟨howner, kind, hasks⟩ := hnoneBare b hb
  · have hlink := hhomes.links (b.id, e.id) (mem_entrancesOf.mp he).2 hstays
    exact ⟨_, hothers.1.links _ hlink hstays, rfl⟩
  · suffices hserves : Serves removed buildingId (setOtherKinds db' buildingId input) by
      obtain ⟨link, hlink, hlinked, _⟩ := hserves
      exact ⟨link, hlink, hlinked.trans howner.symm⟩
    by_cases hnone : db.idsOfKind buildingId kind = []
    · by_cases hkind : kind = .residential
      · subst hkind
        have hserves : Serves removed buildingId db' :=
          @serves_setResidential rt dated db' buildingId input removed hasks hnone
            (not_removed_of_new hsound (Nat.le_refl _)) hwritten
        exact hserves.kept hothers.1
      · exact hothers.2 kind hkind hasks ((hkinds kind hkind).trans hnone)
    · obtain ⟨id, hid, hstays⟩ := stays_of_asked hsound hasks hnone
      have hserves : Serves removed buildingId dated :=
        @serves_of_ids dated buildingId removed kind id hid hstays
      exact (hserves.kept hhomes).kept hothers.1

end Housing

/-! ## Runs -/

/-- The steps that leave the totals and the buildings' entrances right. -/
def KeepsTotals (rt : MapRuntime) (db : MapDb) : MapOp → Prop
  | .updateBuildingsInEntrance entranceId buildingIds => LeavesOthersTotals db entranceId buildingIds
  | .setBuildingProspectionData buildingId input =>
    input.date rt = none ∨
      (input.residential = true → input.Accepted rt → ∀ figures ∈ input.figures rt,
        StayWith db buildingId figures fun id =>
          (db.idsOfKind buildingId .residential).head? = some id) ∧
      (input.Accepted rt → LeavesNoneBare db buildingId input)
  | _ => True

theorem totalled_setBuildingProspectionData {rt : MapRuntime} {db : MapDb} {buildingId : Nat}
    {input : BuildingProspectionInput} (hsound : db.Sound) (h : db.Totalled)
    (hstay : input.date rt = none ∨
      (input.residential = true → input.Accepted rt → ∀ figures ∈ input.figures rt,
        StayWith db buildingId figures fun id =>
          (db.idsOfKind buildingId .residential).head? = some id)) :
    (setBuildingProspectionData rt db buildingId input).Totalled := by
  obtain hsame | ⟨prospectionDate, hdate, hdated, hset⟩ := setBuildingProspectionData_cases hsound
  · rw [hsame]
    exact h
  have hleaves : Leaves Totalled (setResidential rt _ buildingId input) :=
    totalled_setResidential hdated h (hstay.resolve_left (by simp [hdate]))
  obtain ⟨db', hrefused, heq⟩ | ⟨db', hwritten, heq⟩ := hset
  · rw [heq]
    exact hleaves.of_error hrefused
  · rw [heq]
    exact Totalled.setOtherKinds (hleaves.of_ok hwritten)
      ((sound_setResidential hdated).of_ok hwritten)

/-- One step. -/
theorem totals_step {rt : MapRuntime} {db : MapDb} {op : MapOp} (hsound : db.Sound)
    (h : db.TotalsMirrored) (hkeeps : KeepsTotals rt db op) : (db.step rt op).TotalsMirrored := by
  apply (hsound.step op).totalsMirrored_iff.mpr
  have hboth := hsound.totalsMirrored_iff.mp h
  cases op with
  | createBuilding perimeter address coordinates =>
    exact totalled_createBuilding hsound hboth address coordinates
  | editBuilding perimeter buildingId address coordinates =>
    exact totalled_editBuilding hboth buildingId address coordinates
  | deleteBuilding buildingId => exact totalled_deleteBuilding hboth buildingId
  | importOpenData perimeter rows => exact totalled_applyOpenData hsound hboth rows
  | updateBuildingsInEntrance entranceId buildingIds =>
    exact totalled_updateBuildingsInEntrance hsound hboth hkeeps
  | setBuildingProspectionData buildingId input =>
    constructor
    · exact totalled_setBuildingProspectionData hsound hboth.1 (hkeeps.imp_right And.left)
    · apply housed_setBuildingProspectionData hsound hboth.2
      cases hkeeps with
      | inl hdate => exact .inl hdate
      | inr hboth =>
        by_cases haccepted : input.Accepted rt
        · exact .inr (.inr (hboth.2 haccepted))
        · exact .inr (.inl haccepted)

/-- **Totals stay those of the data**, and every building keeps an entrance, along a run in which no edit
changes the data of a residential entrance it does not recompute, or takes a building's last entrance. -/
theorem totals_stay_mirrored {rt : MapRuntime} {db db' : MapDb} (hsound : db.Sound)
    (hmirrored : db.TotalsMirrored) (hrun : Reach (MapDb.step rt) (KeepsTotals rt) db db') :
    db'.TotalsMirrored := by
  refine (Reach.invariant (I := fun db => db.Sound ∧ db.TotalsMirrored) ⟨hsound, hmirrored⟩ ?_ hrun).2
  intro db op hdb hop
  exact ⟨hdb.1.step op, totals_step hdb.1 hdb.2 hop⟩

/-! ### Two neighbours -/

instance (db : MapDb) : Decidable db.TotalsMirrored :=
  inferInstanceAs (Decidable ((∀ e ∈ db.entrances, e.kind = .residential →
    e.figures = db.aggregates e.id) ∧ ∀ b ∈ db.buildings, db.entrancesOf b.id ≠ []))

instance : Fintype EntranceKind where
  elems := {.residential, .commerce, .hotel, .laundromat, .campus}
  complete := by intro kind; cases kind <;> decide

instance (db : MapDb) (buildingId : Nat) (input : BuildingProspectionInput) (id : Nat) :
    Decidable (Removed db buildingId input id) :=
  inferInstanceAs (Decidable (∃ kind, id ∈ removedOfKind db buildingId input kind))

instance (db : MapDb) (buildingId : Nat) (input : BuildingProspectionInput) :
    Decidable (LeavesNoneBare db buildingId input) :=
  inferInstanceAs (Decidable (∀ b ∈ db.buildings,
    (∃ e ∈ db.entrancesOf b.id, ¬Removed db buildingId input e.id) ∨
      (b.id = buildingId ∧ ∃ kind, input.asksFor kind = true)))

instance (db : MapDb) (buildingId : Nat) (figures : Figures) (about : Nat → Prop)
    [DecidablePred about] : Decidable (StayWith db buildingId figures about) :=
  inferInstanceAs (Decidable (∀ e ∈ db.entrances, e.kind = .residential → ¬about e.id →
    (updateResidentialData db buildingId figures).aggregates e.id = db.aggregates e.id))

instance (db : MapDb) (entranceId : Nat) (buildingIds : List Nat) :
    Decidable (LeavesOthersTotals db entranceId buildingIds) :=
  inferInstanceAs (Decidable (∀ entrance ∈ db.entranceById entranceId,
    (∀ id ∈ newBuildingIds db entrance buildingIds, id ∈ db.buildingIds) →
      ∀ e ∈ db.entrances, e.kind = .residential → e.id ≠ entranceId →
        Figures.sum (((db.dataOf e.id).filter
            (·.buildingId ∉ disconnectBuildingIds db entrance buildingIds)).map (·.figures)) =
          db.aggregates e.id))

instance (rt : MapRuntime) (db : MapDb) : (op : MapOp) → Decidable (KeepsTotals rt db op)
  | .createBuilding .. => inferInstanceAs (Decidable True)
  | .editBuilding .. => inferInstanceAs (Decidable True)
  | .deleteBuilding .. => inferInstanceAs (Decidable True)
  | .importOpenData .. => inferInstanceAs (Decidable True)
  | .updateBuildingsInEntrance entranceId buildingIds =>
    inferInstanceAs (Decidable (LeavesOthersTotals db entranceId buildingIds))
  | .setBuildingProspectionData buildingId input =>
    inferInstanceAs (Decidable (input.date rt = none ∨
      (input.residential = true → input.Accepted rt → ∀ figures ∈ input.figures rt,
        StayWith db buildingId figures fun id =>
          (db.idsOfKind buildingId .residential).head? = some id) ∧
      (input.Accepted rt → LeavesNoneBare db buildingId input)))

/-- Two neighbours; the second has five homes, and comes to share the first one's entrance. -/
def sharedRun : List MapOp :=
  [.createBuilding none ⟨"1", "Rue A", "69001"⟩ ⟨some 45, some 4⟩,
   .createBuilding none ⟨"2", "Rue A", "69001"⟩ ⟨some 47, some 6⟩,
   .setBuildingProspectionData 2 { blankForm with hasResidential := "on", homes := "5" },
   .updateBuildingsInEntrance 1 [1, 2]]

theorem shared_stays_mirrored :
    (sharedRun.foldl (MapDb.step plainMapRuntime) MapDb.empty).TotalsMirrored :=
  totals_stay_mirrored MapDb.sound_empty (by decide) (Reach.foldl (by decide +kernel))

/-- The second neighbour leaves the shared entrance again: its five homes leave its own entrance, which
still counts them. -/
theorem third_entrance_stale :
    ∃ db, Reach (MapDb.step plainMapRuntime) (fun _ _ => True) MapDb.empty db ∧ ¬db.TotalsMirrored :=
  ⟨(sharedRun ++ [MapOp.updateBuildingsInEntrance 1 [1]]).foldl (MapDb.step plainMapRuntime) MapDb.empty,
    Reach.foldl (by decide), by decide +kernel⟩

end Unitae.Territories
