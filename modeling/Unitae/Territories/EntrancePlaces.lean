import Mathlib.Algebra.Field.Rat
import Unitae.Base.Derived
import Unitae.Territories.EntranceKinds

/-!
# Unitae — an entrance is placed at its buildings

An entrance stores the centroid of its buildings, for the map to find it by. `PlacedExcept` is that
invariant up to entrances whose place is stale; each write says which ones it makes stale, and the edits
are checked against it. Two of them leave a stale place behind: a deleted building is not taken out of its
entrances' centroids, and the entrances the prospection form creates are given no place at all.
-/

namespace Unitae.Territories

open MapDb

namespace MapDb

/-- Every entrance is at the centroid of its buildings, and has some. -/
def EntrancesPlaced (db : MapDb) : Prop :=
  ∀ e ∈ db.entrances, e.coordinates = db.centroid e.id ∧ db.buildingsOf e.id ≠ []

/-- Every building has both coordinates or neither. -/
def Located (db : MapDb) : Prop := ∀ b ∈ db.buildings, b.latitude = none ↔ b.longitude = none

def PlacedExcept (db : MapDb) (stale : Nat → Prop) : Prop :=
  UpToDate (·.id) BuildingEntrance.coordinates (fun _ => True) db.centroid db.entrances stale

abbrev Placed (db : MapDb) : Prop := db.PlacedExcept fun _ => False

/-- Every entrance has a building. -/
def Linked (db : MapDb) : Prop := ∀ id ∈ db.entranceIds, ∃ link ∈ db.links, link.2 = id

theorem Sound.buildingsOf_ne_nil {db : MapDb} (h : db.Sound) {id : Nat} :
    db.buildingsOf id ≠ [] ↔ ∃ link ∈ db.links, link.2 = id := by
  constructor
  · intro hsome
    obtain ⟨b, hb⟩ := List.exists_mem_of_ne_nil _ hsome
    exact ⟨_, (mem_buildingsOf.mp hb).2, rfl⟩
  · intro hsome
    obtain ⟨link, hlink, hid⟩ := hsome
    obtain ⟨b, hb, hbid⟩ := mem_buildingIds.mp (h.links link hlink).1
    apply List.ne_nil_of_mem (a := b)
    rw [mem_buildingsOf, hbid, ← hid]
    exact ⟨hb, hlink⟩

theorem Sound.entrancesPlaced_iff {db : MapDb} (h : db.Sound) :
    db.EntrancesPlaced ↔ db.Placed ∧ db.Linked := by
  constructor
  · intro hplaced
    constructor
    · intro e he _ _
      exact (hplaced e he).1
    · intro id hid
      obtain ⟨e, he, rfl⟩ := mem_entranceIds.mp hid
      exact h.buildingsOf_ne_nil.mp (hplaced e he).2
  · intro hplaced e he
    exact ⟨hplaced.1 e he trivial id, h.buildingsOf_ne_nil.mpr
      (hplaced.2 _ (mem_entranceIds.mpr ⟨e, he, rfl⟩))⟩

/-! ## Centroids -/

/-- The centroid is of the buildings' coordinates alone. -/
theorem computeEntranceCentroid_congr {bs bs' : List Building}
    (h : bs.map (·.coordinates) = bs'.map (·.coordinates)) :
    computeEntranceCentroid bs = computeEntranceCentroid bs' := by
  have hboth : ∀ bs : List Building, bs.filterMap (·.coordinates.both) =
      (bs.map (·.coordinates)).filterMap Coordinates.both := by
    intro bs
    rw [List.filterMap_map]
    rfl
  unfold computeEntranceCentroid
  rw [hboth, hboth, h]

theorem centroid_congr {db db' : MapDb} {id : Nat}
    (h : (db'.buildingsOf id).map (·.coordinates) = (db.buildingsOf id).map (·.coordinates)) :
    db'.centroid id = db.centroid id := by
  unfold centroid
  rw [computeEntranceCentroid_congr h]

/-- No building, no place. -/
theorem centroid_of_no_coordinates {db : MapDb} {id : Nat}
    (h : ∀ b ∈ db.buildingsOf id, b.latitude = none) : db.centroid id = ⟨none, none⟩ := by
  have hnone : (db.buildingsOf id).filterMap (·.coordinates.both) = [] := by
    rw [List.filterMap_eq_nil_iff]
    intro b hb
    unfold Building.coordinates
    rw [h b hb]
    rfl
  unfold centroid computeEntranceCentroid
  rw [hnone]
  rfl

/-- One building's place is its own. -/
theorem centroid_of_one {db : MapDb} {id : Nat} {b : Building} (h : db.buildingsOf id = [b])
    (hlocated : b.latitude = none ↔ b.longitude = none) : db.centroid id = b.coordinates := by
  unfold centroid computeEntranceCentroid Building.coordinates
  rw [h]
  cases hlat : b.latitude with
  | none =>
    rw [hlocated.mp hlat]
    simp [Coordinates.both, hlat]
  | some lat =>
    cases hlong : b.longitude with
    | none => exact absurd (hlocated.mpr hlong) (by simp [hlat])
    | some long => simp [Coordinates.both, hlat, hlong, div_one]

/-! ## Writes -/

section Writes

variable {db : MapDb} {stale : Nat → Prop}

theorem PlacedExcept.updateEntrance (h : db.PlacedExcept stale) {id : Nat}
    {f : BuildingEntrance → BuildingEntrance} (hid : ∀ e, (f e).id = e.id)
    (hcoordinates : ∀ e, (f e).coordinates = e.coordinates) :
    (db.updateEntrance id f).PlacedExcept stale :=
  UpToDate.rewrite h hid hcoordinates fun _ _ => trivial

theorem PlacedExcept.recalculate (h : db.PlacedExcept stale) (id : Nat) :
    (db.recalculateEntranceCentroid id).PlacedExcept fun id' => stale id' ∧ id' ≠ id :=
  UpToDate.refresh h (fun _ => rfl) fun _ => rfl

theorem PlacedExcept.recalculateAggregates (h : db.PlacedExcept stale) (id : Nat) :
    (db.recalculateEntranceAggregates id).PlacedExcept stale :=
  h.updateEntrance (fun _ => rfl) fun _ => rfl

theorem PlacedExcept.mapBuildings (h : db.PlacedExcept stale) {f : Building → Building}
    (hid : ∀ b, (f b).id = b.id)
    (hcoordinates : ∀ e ∈ db.entrances, ¬stale e.id → ∀ b ∈ db.buildingsOf e.id,
      (f b).coordinates = b.coordinates) :
    { db with buildings := db.buildings.map f }.PlacedExcept stale := by
  apply UpToDate.of_computed h
  intro e he _ hfresh
  refine ⟨hfresh, centroid_congr ?_⟩
  show ((db.buildings.map f).filter fun b : Building => decide ((b.id, e.id) ∈ db.links)).map _ = _
  rw [List.filter_map, List.map_map]
  simp only [Function.comp_def, hid]
  exact List.map_congr_left fun b hb => hcoordinates e he hfresh b hb

theorem PlacedExcept.insertBuilding (h : db.PlacedExcept stale) (hsound : db.Sound) (b : Building) :
    (db.insertBuilding b).PlacedExcept stale := by
  apply UpToDate.of_computed h
  intro e _ _ hfresh
  refine ⟨hfresh, ?_⟩
  -- A building that is new is linked to nothing.
  have hnew : (db.nextBuildingId, e.id) ∉ db.links :=
    fun hlink => hsound.fresh_building (hsound.links _ hlink).1
  apply centroid_congr
  show ((db.buildings ++ [{ b with id := db.nextBuildingId }]).filter
    fun b : Building => decide ((b.id, e.id) ∈ db.links)).map _ = _
  rw [List.filter_append, List.filter_cons_of_neg (by simpa using hnew)]
  simp [buildingsOf]

theorem buildingsOf_createEntrance {e : BuildingEntrance} {owner id : Nat}
    (h : id ≠ db.nextEntranceId) :
    (db.createEntrance e owner).buildingsOf id = db.buildingsOf id := by
  apply List.filter_congr
  intro b _
  simp [createEntrance, h]

theorem buildingsOf_createEntrance_new (hsound : db.Sound) {e : BuildingEntrance} {b : Building}
    (hb : b ∈ db.buildings) :
    (db.createEntrance e b.id).buildingsOf db.nextEntranceId = [b] := by
  have hlinks : ∀ b' ∈ db.buildings,
      decide ((b'.id, db.nextEntranceId) ∈ (db.createEntrance e b.id).links) =
        decide (b'.id = b.id) := by
    intro b' _
    have hnew : (b'.id, db.nextEntranceId) ∉ db.links :=
      fun hlink => hsound.fresh_entrance (hsound.links _ hlink).2
    simp [createEntrance, hnew]
  show db.buildings.filter _ = [b]
  rw [List.filter_congr hlinks]
  obtain ⟨before, after, hsplit⟩ := List.append_of_mem hb
  have hnodup : (db.buildings.map (·.id)).Nodup := hsound.buildings
  rw [hsplit] at hnodup ⊢
  rw [List.map_append, List.map_cons, List.nodup_middle, List.nodup_cons] at hnodup
  have hothers : ∀ rest : List Building, (∀ b' ∈ rest, b' ∈ before ++ after) →
      rest.filter (fun b' => decide (b'.id = b.id)) = [] := by
    intro rest hrest
    rw [List.filter_eq_nil_iff]
    intro b' hb' heq
    rw [← List.map_append] at hnodup
    exact hnodup.1 (List.mem_map.mpr ⟨b', hrest b' hb', by simpa using heq⟩)
  rw [List.filter_append, List.filter_cons_of_pos (by simp),
    hothers before fun b' hb' => List.mem_append_left _ hb',
    hothers after fun b' hb' => List.mem_append_right _ hb', List.nil_append]

/-- A new entrance is in its place, or its place is stale. -/
theorem PlacedExcept.createEntrance (h : db.PlacedExcept stale) (hsound : db.Sound)
    {e : BuildingEntrance} {owner : Nat} {stale' : Nat → Prop} (hmore : ∀ id, stale id → stale' id)
    (hnew : stale' db.nextEntranceId ∨
      e.coordinates = (db.createEntrance e owner).centroid db.nextEntranceId) :
    (db.createEntrance e owner).PlacedExcept stale' := by
  apply UpToDate.append_one
  · apply UpToDate.of_computed h
    intro e' he' _ hfresh
    have hne : e'.id ≠ db.nextEntranceId :=
      fun heq => hsound.fresh_entrance (heq ▸ mem_entranceIds.mpr ⟨e', he', rfl⟩)
    refine ⟨fun hstale => hfresh (hmore _ hstale), centroid_congr ?_⟩
    rw [buildingsOf_createEntrance hne]
  · intro _ hfresh
    exact hnew.resolve_left hfresh

theorem PlacedExcept.deleteEntrances (h : db.PlacedExcept stale) (gone : Nat → Bool) :
    (db.deleteEntrances gone).PlacedExcept stale := by
  intro e he _ hfresh
  obtain ⟨hmem, hkept⟩ := mem_deleteEntrances.mp he
  rw [h e hmem trivial hfresh]
  apply (centroid_congr _).symm
  congr 1
  apply List.filter_congr
  intro b _
  rw [decide_eq_decide, mem_links_deleteEntrances]
  simp [hkept]

theorem Linked.deleteEntrances (h : db.Linked) (gone : Nat → Bool) :
    (db.deleteEntrances gone).Linked := by
  intro id hid
  obtain ⟨hmem, hkept⟩ := mem_entranceIds_deleteEntrances.mp hid
  obtain ⟨link, hlink, hlinked⟩ := h id hmem
  exact ⟨link, mem_links_deleteEntrances.mpr ⟨hlink, hlinked ▸ hkept⟩, hlinked⟩

theorem Linked.createEntrance (h : db.Linked) (e : BuildingEntrance) (owner : Nat) :
    (db.createEntrance e owner).Linked := by
  intro id hid
  rw [entranceIds_createEntrance] at hid
  cases List.mem_append.mp hid with
  | inl hold =>
    obtain ⟨link, hlink, hlinked⟩ := h id hold
    exact ⟨link, List.mem_append_left _ hlink, hlinked⟩
  | inr hnew =>
    rw [List.mem_singleton.mp hnew]
    exact ⟨_, List.mem_append_right _ (List.mem_singleton_self _), rfl⟩

theorem Linked.updateEntrance (h : db.Linked) {id : Nat} {f : BuildingEntrance → BuildingEntrance}
    (hid : ∀ e, (f e).id = e.id) : (db.updateEntrance id f).Linked := by
  unfold MapDb.Linked
  rw [entranceIds_updateEntrance hid]
  exact h

end Writes

end MapDb

/-! ## Buildings -/

section Buildings

variable {rt : MapRuntime} {db : MapDb} {perimeter : Perimeter}

theorem MapDb.Linked.insertBuilding (h : db.Linked) (b : Building) : (db.insertBuilding b).Linked := h

/-- A building and its entrance, both at the same place. -/
theorem placed_insertWithEntrance (hsound : db.Sound) (h : db.Placed) {b : Building}
    {e : BuildingEntrance} (hlocated : b.latitude = none ↔ b.longitude = none)
    (hcoordinates : e.coordinates = b.coordinates) :
    ((db.insertBuilding b).createEntrance e db.nextBuildingId).Placed := by
  have hnew : { b with id := db.nextBuildingId } ∈ (db.insertBuilding b).buildings :=
    List.mem_append_right _ (List.mem_singleton_self _)
  apply PlacedExcept.createEntrance (PlacedExcept.insertBuilding h hsound b) (hsound.insertBuilding b)
    fun _ hstale => hstale
  right
  have hone := buildingsOf_createEntrance_new (e := e) (hsound.insertBuilding b) hnew
  rw [hcoordinates]
  exact (centroid_of_one hone hlocated).symm

theorem placed_createBuilding (hsound : db.Sound) (h : db.Placed) {address : Address}
    {coordinates : Coordinates}
    (hlocated : (createBuilding rt db perimeter address coordinates).Located) :
    (createBuilding rt db perimeter address coordinates).Placed := by
  unfold createBuilding at hlocated ⊢
  split
  · exact h
  next htaken =>
    rw [if_neg htaken] at hlocated
    have hboth : coordinates.latitude = none ↔ coordinates.longitude = none :=
      hlocated _ (List.mem_append_right _ (List.mem_singleton_self _))
    exact placed_insertWithEntrance hsound h hboth rfl

theorem linked_createBuilding (h : db.Linked) {address : Address} {coordinates : Coordinates} :
    (createBuilding rt db perimeter address coordinates).Linked := by
  unfold createBuilding
  split
  · exact h
  · exact Linked.createEntrance (Linked.insertBuilding h _) _ _

theorem MapDb.PlacedExcept.recalculateEach {stale : Nat → Prop} (h : db.PlacedExcept stale)
    (entrances : List BuildingEntrance) :
    (entrances.foldl (fun db e => db.recalculateEntranceCentroid e.id) db).PlacedExcept
      fun id => stale id ∧ ∀ e ∈ entrances, id ≠ e.id := by
  induction entrances generalizing db stale with
  | nil => exact UpToDate.mono h fun _ _ _ hstale => ⟨hstale, fun _ he => absurd he List.not_mem_nil⟩
  | cons e entrances ih =>
    apply UpToDate.mono (ih (h.recalculate e.id))
    intro _ _ _ hstale
    exact ⟨hstale.1.1, List.forall_mem_cons.mpr ⟨hstale.1.2, hstale.2⟩⟩

theorem MapDb.Linked.recalculateEach (h : db.Linked) (entrances : List BuildingEntrance) :
    (entrances.foldl (fun db e => db.recalculateEntranceCentroid e.id) db).Linked := by
  induction entrances generalizing db with
  | nil => exact h
  | cons e entrances ih => exact ih (Linked.updateEntrance h fun _ => rfl)

theorem entranceIds_recalculateEach (entrances : List BuildingEntrance) :
    (entrances.foldl (fun db e => db.recalculateEntranceCentroid e.id) db).entranceIds =
      db.entranceIds := by
  induction entrances generalizing db with
  | nil => rfl
  | cons e entrances ih => exact ih.trans (entranceIds_updateEntrance fun _ => rfl)

/-- **An edited building's entrances follow it.** -/
theorem placed_editBuilding (h : db.Placed) {buildingId : Nat} {address : Address}
    {coordinates : Coordinates} :
    (editBuilding rt db perimeter buildingId address coordinates).Placed := by
  unfold editBuilding
  split
  · exact h
  split
  · exact h
  · -- The entrances of the building are stale until each is recomputed.
    have hmoved : (db.updateBuilding buildingId fun b =>
        { b with
          number := address.number
          street := address.street
          streetNormalized := rt.stripDiacritics address.street
          zip := address.zip
          latitude := coordinates.latitude.or b.latitude
          longitude := coordinates.longitude.or b.longitude
          inTerritory := isInTerritory perimeter coordinates }).PlacedExcept
        fun id => (buildingId, id) ∈ db.links := by
      apply PlacedExcept.mapBuildings (UpToDate.mono h fun _ _ _ hfalse => hfalse.elim)
      · exact fun _ => column_ite rfl
      · intro e _ hother b hb
        have hne : b.id ≠ buildingId := fun heq => hother (heq ▸ (mem_buildingsOf.mp hb).2)
        rw [if_neg hne]
    apply UpToDate.mono (PlacedExcept.recalculateEach hmoved _)
    intro e he _ hstale
    have hid : e.id ∈ db.entranceIds := by
      have hmem := mem_entranceIds.mpr ⟨e, he, rfl⟩
      rwa [entranceIds_recalculateEach] at hmem
    obtain ⟨e', he', heq⟩ := mem_entranceIds.mp hid
    exact hstale.2 e' (mem_entrancesOf.mpr ⟨he', heq ▸ hstale.1⟩) heq.symm

theorem linked_editBuilding (h : db.Linked) {buildingId : Nat} {address : Address}
    {coordinates : Coordinates} :
    (editBuilding rt db perimeter buildingId address coordinates).Linked := by
  unfold editBuilding
  split
  · exact h
  split
  · exact h
  · exact Linked.recalculateEach (show MapDb.Linked (db.updateBuilding buildingId _) from h) _

/-- The buildings an entrance has without one of them. -/
def otherBuildings (db : MapDb) (buildingId entranceId : Nat) : List Building :=
  (db.buildingsOf entranceId).filter (·.id != buildingId)

/-- A building that cannot be deleted, or whose entrances all have others and are where these are. -/
def MissedNowhere (db : MapDb) (buildingId : Nat) : Prop :=
  (∃ r ∈ db.residentialData, r.buildingId = buildingId) ∨
    ∀ e ∈ db.entrancesOf buildingId, otherBuildings db buildingId e.id ≠ [] ∧
      computeEntranceCentroid (otherBuildings db buildingId e.id) =
        computeEntranceCentroid (db.buildingsOf e.id)

theorem buildingsOf_deleted {buildingId entranceId : Nat} :
    ({ db with
      buildings := db.buildings.filter (·.id != buildingId)
      links := db.links.filter (·.1 != buildingId) } : MapDb).buildingsOf entranceId =
      otherBuildings db buildingId entranceId := by
  unfold otherBuildings buildingsOf
  rw [List.filter_filter, List.filter_filter]
  apply List.filter_congr
  intro b _
  cases hid : b.id != buildingId <;> simp_all

theorem placed_deleteBuilding (hplaced : db.EntrancesPlaced) {buildingId : Nat}
    (hmissed : MissedNowhere db buildingId) : (deleteBuilding db buildingId).EntrancesPlaced := by
  unfold deleteBuilding
  split
  · exact hplaced
  next hdata =>
    have hentrances := hmissed.resolve_left fun hsome => hdata (by simpa using hsome)
    intro e he
    unfold centroid
    rw [buildingsOf_deleted]
    by_cases hlink : (buildingId, e.id) ∈ db.links
    · obtain ⟨hothers, hsame⟩ := hentrances e (mem_entrancesOf.mpr ⟨he, hlink⟩)
      refine ⟨?_, hothers⟩
      rw [hsame]
      exact (hplaced e he).1
    · have hall : otherBuildings db buildingId e.id = db.buildingsOf e.id := by
        apply List.filter_eq_self.mpr
        intro b hb
        have hne : b.id ≠ buildingId := fun heq => hlink (heq ▸ (mem_buildingsOf.mp hb).2)
        simpa using hne
      rw [hall]
      exact hplaced e he

theorem placed_applyOpenData (hsound : db.Sound) (h : db.Placed ∧ db.Linked)
    (rows : List OpenDataRow) :
    (applyOpenData rt db perimeter rows).Placed ∧ (applyOpenData rt db perimeter rows).Linked := by
  let I := fun db : MapDb => db.Sound ∧ db.Placed ∧ db.Linked
  have hflag : ∀ (db : MapDb) {f : Building → Building}, (∀ b, (f b).id = b.id) →
      (∀ b, (f b).coordinates = b.coordinates) → I db →
      I { db with buildings := db.buildings.map f } := by
    intro db f hid hcoordinates hdb
    exact ⟨sound_mapBuildings hdb.1 hid,
      PlacedExcept.mapBuildings hdb.2.1 hid fun _ _ _ b _ => hcoordinates b, hdb.2.2⟩
  have hrow : ∀ db, I db → ∀ row, I (upsertOpenData rt db perimeter row) := by
    intro db hdb row
    refine ⟨sound_upsertOpenData hdb.1 row, ?_⟩
    unfold upsertOpenData
    split
    · dsimp only
      split
      · refine (hflag db ?_ ?_ hdb).2
        · exact fun _ => column_ite rfl
        · exact fun _ => column_ite rfl
      · exact ⟨placed_insertWithEntrance hdb.1 hdb.2.1 (by simp) rfl,
          Linked.createEntrance (Linked.insertBuilding hdb.2.2 _) _ _⟩
    · exact hdb.2
  have hreset : I (resetOpenData db) := by
    refine hflag db ?_ ?_ ⟨hsound, h⟩
    · exact fun _ => column_ite rfl
    · exact fun _ => column_ite rfl
  exact (List.foldlRecOn (motive := I) rows _ hreset fun db hdb row _ => hrow db hdb row).2

end Buildings

/-! ## Shared entrances -/

section Shared

variable {db : MapDb} {entrance : BuildingEntrance}

theorem placed_reconnect (h : db.Placed) (connected disconnected : List Nat) :
    (reconnect db entrance connected disconnected).PlacedExcept (· = entrance.id) := by
  apply UpToDate.of_computed h
  intro e _ _ hother
  refine ⟨not_false, centroid_congr ?_⟩
  congr 1
  apply List.filter_congr
  intro b _
  rw [decide_eq_decide]
  simp [reconnect, hother, Ne.symm hother]

/-- A building split off has an entrance at its place. -/
theorem placed_splitOff {stale : Nat → Prop} (hsound : db.Sound) (h : db.PlacedExcept stale)
    (accesses : List BuildingAccess) (buildingId : Nat) :
    (splitOff db entrance accesses buildingId).PlacedExcept stale := by
  have hmoved : (moveOut db entrance accesses buildingId).PlacedExcept
      fun id => stale id ∨ id = db.nextEntranceId :=
    PlacedExcept.createEntrance h hsound (fun _ => .inl) (.inl (.inr rfl))
  apply UpToDate.mono ((hmoved.recalculateAggregates _).recalculate db.nextEntranceId)
  intro _ _ _ hstale
  exact hstale.1.resolve_right hstale.2

/-- The entrances without a building go. -/
theorem linked_deleteEmptyEntrances : (deleteEmptyEntrances db).Linked := by
  intro id hid
  obtain ⟨_, hkept⟩ := mem_entranceIds_deleteEntrances.mp hid
  obtain ⟨buildingId, hlink⟩ : ∃ buildingId, (buildingId, id) ∈ db.links := by simpa using hkept
  exact ⟨_, mem_links_deleteEntrances.mpr ⟨hlink, hkept⟩, rfl⟩

theorem linked_updateBuildingsInEntrance (h : db.Linked) {entranceId : Nat} {buildingIds : List Nat} :
    (updateBuildingsInEntrance db entranceId buildingIds).Linked := by
  unfold updateBuildingsInEntrance
  split
  · exact h
  · exact linked_deleteEmptyEntrances

/-- **A shared entrance is at its buildings** after an update. -/
theorem placed_updateBuildingsInEntrance (hsound : db.Sound) (h : db.Placed) (entranceId : Nat)
    (buildingIds : List Nat) : (updateBuildingsInEntrance db entranceId buildingIds).Placed := by
  unfold updateBuildingsInEntrance
  split
  · exact h
  next entrance hentrance =>
    apply PlacedExcept.deleteEntrances
    split
    next hall =>
      -- Only the entrance itself is stale while its buildings are split off.
      obtain ⟨db', _, hdb', heq⟩ := splitOff_each
        (I := fun _ db' => db'.PlacedExcept (· = entrance.id))
        hsound (entranceById_eq_some hentrance).1 hall (placed_reconnect h _ _)
        fun _ _ accesses hsound' hplaced id _ => placed_splitOff hsound' hplaced accesses id
      rw [heq]
      apply UpToDate.mono ((hdb'.recalculateAggregates _).recalculate entrance.id)
      intro _ _ _ hstale
      exact hstale.2 hstale.1
    · exact h

end Shared

/-! ## Prospection -/

/-- The building has every entrance the form asks for. -/
structure HasEntrances (rt : MapRuntime) (db : MapDb) (buildingId : Nat)
    (input : BuildingProspectionInput) : Prop where
  residential : input.residential = true → db.idsOfKind buildingId .residential ≠ []
  commerces : input.Accepted rt →
    input.commerceShopKinds.length ≤ (db.idsOfKind buildingId .commerce).length
  others : input.Accepted rt → ∀ kind, kind ≠ .residential → kind ≠ .commerce →
    input.asksFor kind = true → db.idsOfKind buildingId kind ≠ []

/-- The building has no place. -/
def Unplaced (db : MapDb) (buildingId : Nat) : Prop :=
  ∀ b ∈ db.buildings, b.id = buildingId → b.latitude = none

section Prospection

variable {rt : MapRuntime} {db : MapDb} {buildingId : Nat} {input : BuildingProspectionInput}

/-- What each part of the update keeps. -/
structure PlacedWith (buildings : List Building) (buildingId : Nat) (db : MapDb) : Prop where
  sound : SoundWith buildingId db
  placed : db.Placed
  linked : db.Linked
  same : db.buildings = buildings

namespace PlacedWith

variable {buildings : List Building}

theorem updateEntrance (h : PlacedWith buildings buildingId db) {id : Nat}
    {f : BuildingEntrance → BuildingEntrance} (hid : ∀ e, (f e).id = e.id)
    (hcoordinates : ∀ e, (f e).coordinates = e.coordinates) :
    PlacedWith buildings buildingId (db.updateEntrance id f) :=
  ⟨⟨h.sound.1.updateEntrance hid, h.sound.2⟩, h.placed.updateEntrance hid hcoordinates,
    h.linked.updateEntrance hid, h.same⟩

theorem deleteEntrance (h : PlacedWith buildings buildingId db) (id : Nat) :
    PlacedWith buildings buildingId (db.deleteEntrance id) :=
  ⟨⟨h.sound.1.deleteEntrances _, h.sound.2⟩, h.placed.deleteEntrances _, h.linked.deleteEntrances _,
    h.same⟩

/-- An entrance with no place is right for a building with none. -/
theorem createEntrance (h : PlacedWith buildings buildingId db)
    (hunplaced : ∀ b ∈ buildings, b.id = buildingId → b.latitude = none) {e : BuildingEntrance}
    (he : e.coordinates = ⟨none, none⟩) :
    PlacedWith buildings buildingId (db.createEntrance e buildingId) := by
  refine ⟨⟨h.sound.1.createEntrance e h.sound.2, h.sound.2⟩, ?_, h.linked.createEntrance e _, h.same⟩
  apply PlacedExcept.createEntrance h.placed h.sound.1 fun _ hstale => hstale
  right
  rw [he]
  apply (centroid_of_no_coordinates _).symm
  intro b hb
  obtain ⟨hmem, hlink⟩ := mem_buildingsOf.mp hb
  have hnew : (b.id, db.nextEntranceId) ∉ db.links :=
    fun hold => h.sound.1.fresh_entrance (h.sound.1.links _ hold).2
  have howner : b.id = buildingId := by
    simpa [hnew] using List.mem_append.mp hlink
  exact hunplaced b (h.same ▸ hmem) howner

theorem upsert (h : PlacedWith buildings buildingId db) {entranceId : Nat} {figures : Figures}
    (hentrance : entranceId ∈ db.entranceIds) :
    PlacedWith buildings buildingId (upsertResidentialData db buildingId entranceId figures) := by
  have hsound : (upsertResidentialData db buildingId entranceId figures).Sound :=
    sound_upsertResidentialData h.sound.1 h.sound.2 hentrance
  unfold upsertResidentialData at hsound ⊢
  split at hsound
  next hany =>
    rw [if_pos hany]
    exact ⟨⟨hsound, h.sound.2⟩, h.placed, h.linked, h.same⟩
  next hnone =>
    rw [if_neg hnone]
    exact ⟨⟨hsound, h.sound.2⟩, h.placed, h.linked, h.same⟩

theorem accesses (h : PlacedWith buildings buildingId db) (rows : List BuildingAccess) :
    PlacedWith buildings buildingId { db with accesses := rows } :=
  ⟨⟨h.sound.1.accesses rows, h.sound.2⟩, h.placed, h.linked, h.same⟩

theorem recalculateAggregates (h : PlacedWith buildings buildingId db) (id : Nat) :
    PlacedWith buildings buildingId (db.recalculateEntranceAggregates id) :=
  h.updateEntrance (fun _ => rfl) fun _ => rfl

theorem writeResidential (h : PlacedWith buildings buildingId db) {entranceId : Nat}
    (hentrance : entranceId ∈ db.entranceIds) :
    Leaves (PlacedWith buildings buildingId)
      (writeResidential rt db buildingId input entranceId) := by
  unfold Territories.writeResidential
  split
  · exact h
  dsimp only
  split
  · exact h.updateEntrance (fun _ => rfl) fun _ => rfl
  · show PlacedWith buildings buildingId (MapDb.recalculateEntranceAggregates _ _)
    apply PlacedWith.recalculateAggregates
    apply PlacedWith.accesses
    apply PlacedWith.upsert
    · exact h.updateEntrance (fun _ => rfl) fun _ => rfl
    · rwa [entranceIds_updateEntrance (by intro e; rfl)]

theorem setResidential (h : PlacedWith buildings buildingId db)
    (hcreate : (∀ b ∈ buildings, b.id = buildingId → b.latitude = none) ∨
      (input.residential = true → db.idsOfKind buildingId .residential ≠ [])) :
    Leaves (PlacedWith buildings buildingId) (setResidential rt db buildingId input) := by
  unfold Territories.setResidential
  split
  next entrance hentrance =>
    split
    · apply h.writeResidential
      have hmem := mem_entrancesOfKind.mp (List.mem_of_mem_head? hentrance)
      exact mem_entranceIds.mpr ⟨entrance, (mem_entrancesOf.mp hmem.1).1, rfl⟩
    · exact h.deleteEntrance _
  next hnone =>
    split
    next hresidential =>
      cases hcreate with
      | inl hunplaced =>
        apply PlacedWith.writeResidential (h.createEntrance hunplaced rfl)
        simp
      | inr hsome =>
        -- There is one.
        exact absurd (by simpa [idsOfKind] using hnone) (hsome hresidential)
    · exact h

theorem syncCommerceEntrances (h : PlacedWith buildings buildingId db) {shopKinds notes : List String}
    (hcreate : (∀ b ∈ buildings, b.id = buildingId → b.latitude = none) ∨
      shopKinds.length ≤ (db.idsOfKind buildingId .commerce).length) :
    PlacedWith buildings buildingId (syncCommerceEntrances db buildingId shopKinds notes) := by
  have hexisting : PlacedWith buildings buildingId
      ((existingCommerces db buildingId).zipIdx.foldl (syncCommerce shopKinds notes) db) := by
    apply List.foldlRecOn (motive := PlacedWith buildings buildingId)
    · exact h
    · intro db' hdb' place _
      unfold syncCommerce
      split
      · exact hdb'.updateEntrance (fun _ => rfl) fun _ => rfl
      · exact hdb'.deleteEntrance _
  unfold Territories.syncCommerceEntrances
  dsimp only
  cases hcreate with
  | inl hunplaced =>
    apply List.foldlRecOn (motive := PlacedWith buildings buildingId)
    · exact hexisting
    · intro db' hdb' shop _
      exact hdb'.createEntrance hunplaced rfl
  | inr henough =>
    -- No shop is left to create an entrance for.
    have hlength : (existingCommerces db buildingId).length =
        (db.idsOfKind buildingId .commerce).length := by
      simp [existingCommerces, idsOfKind, List.length_mergeSort]
    have hnone : shopKinds.zipIdx.drop (existingCommerces db buildingId).length = [] := by
      rw [List.drop_eq_nil_iff, List.length_zipIdx, hlength]
      exact henough
    rw [hnone]
    exact hexisting

theorem syncUniqueEntrance (h : PlacedWith buildings buildingId db) {kind : EntranceKind}
    {shouldExist : Bool}
    (hcreate : (∀ b ∈ buildings, b.id = buildingId → b.latitude = none) ∨
      (shouldExist = true → db.idsOfKind buildingId kind ≠ [])) :
    PlacedWith buildings buildingId (syncUniqueEntrance db buildingId kind shouldExist) := by
  unfold Territories.syncUniqueEntrance
  split
  next hnone =>
    cases hcreate with
    | inl hunplaced => exact h.createEntrance hunplaced rfl
    | inr hsome => exact absurd (by simpa [idsOfKind] using hnone) (hsome rfl)
  · exact h.deleteEntrance _
  · exact h

end PlacedWith

/-- **The form keeps entrances in their places** for a building that has none or every entrance asked
for. -/
theorem placed_setBuildingProspectionData (hsound : db.Sound) (h : db.Placed ∧ db.Linked)
    (hkeeps : input.date rt = none ∨ Unplaced db buildingId ∨ HasEntrances rt db buildingId input) :
    (setBuildingProspectionData rt db buildingId input).Placed ∧
      (setBuildingProspectionData rt db buildingId input).Linked := by
  obtain hsame | ⟨prospectionDate, hdate, hsoundWith, hset⟩ := setBuildingProspectionData_cases hsound
  · rw [hsame]
    exact h
  have hcreate := hkeeps.resolve_left (by simp [hdate])
  let dated := setProspectionDate db buildingId prospectionDate
  have hdated : PlacedWith dated.buildings buildingId dated := by
    refine ⟨hsoundWith, ?_, h.2, rfl⟩
    exact PlacedExcept.mapBuildings h.1 (fun _ => column_ite rfl) fun _ _ _ _ _ => column_ite rfl
  have hunplaced : Unplaced db buildingId →
      ∀ b ∈ dated.buildings, b.id = buildingId → b.latitude = none := by
    intro hnone b hb hid
    obtain ⟨b', hb', rfl⟩ := List.mem_map.mp hb
    split
    next heq => exact hnone b' hb' heq
    next hne =>
      rw [if_neg hne] at hid
      exact absurd hid hne
  have hleaves : Leaves (PlacedWith dated.buildings buildingId)
      (setResidential rt dated buildingId input) :=
    hdated.setResidential (hcreate.imp hunplaced fun hhas => hhas.residential)
  obtain ⟨db', hrefused, heq⟩ | ⟨db', hwritten, heq⟩ := hset
  · rw [heq]
    have hstopped := hleaves.of_error hrefused
    exact ⟨hstopped.placed, hstopped.linked⟩
  have hhomes := hleaves.of_ok hwritten
  have haccepted := accepted_of_setResidential hwritten
  -- What the later parts find of their kinds is what was there.
  have hids : ∀ kind, kind ≠ .residential →
      db'.idsOfKind buildingId kind = db.idsOfKind buildingId kind :=
    fun kind hkind => (idsOfKind_setResidential hsoundWith.1 hkind).of_ok hwritten
  have hresult : PlacedWith dated.buildings buildingId (setOtherKinds db' buildingId input) := by
    apply setOtherKinds_rule hhomes.sound
    · apply hhomes.syncCommerceEntrances
      rw [hids _ (by decide)]
      exact hcreate.imp hunplaced fun hhas => hhas.commerces haccepted
    · intro db'' kind hresidential hcommerce _ hsame hplaced
      apply hplaced.syncUniqueEntrance
      rw [hsame, hids kind hresidential]
      exact hcreate.imp hunplaced fun hhas => hhas.others haccepted kind hresidential hcommerce
  rw [heq]
  exact ⟨hresult.placed, hresult.linked⟩

end Prospection

/-! ## Runs -/

/-- The steps that leave no place stale: a building is deleted where it is not missed, and the form
creates no entrance for a building that has a place. -/
def KeepsPlaces (rt : MapRuntime) (db : MapDb) : MapOp → Prop
  | .deleteBuilding buildingId => MissedNowhere db buildingId
  | .setBuildingProspectionData buildingId input =>
    input.date rt = none ∨ Unplaced db buildingId ∨ HasEntrances rt db buildingId input
  | _ => True

instance (db : MapDb) : Decidable db.Located :=
  inferInstanceAs (Decidable (∀ b ∈ db.buildings, b.latitude = none ↔ b.longitude = none))

instance (db : MapDb) : Decidable db.EntrancesPlaced :=
  inferInstanceAs (Decidable (∀ e ∈ db.entrances,
    e.coordinates = db.centroid e.id ∧ db.buildingsOf e.id ≠ []))

/-- A building at 45, 4, and its hotel. -/
def hotelRun : List MapOp :=
  [.createBuilding none ⟨"1", "Rue A", "69001"⟩ ⟨some 45, some 4⟩,
   .setBuildingProspectionData 1 { blankForm with hasResidential := "on", hotel := some "on" }]

/-- One step. -/
theorem placed_step {rt : MapRuntime} {db : MapDb} {op : MapOp} (hsound : db.Sound)
    (h : db.EntrancesPlaced) (hlocated : (db.step rt op).Located) (hkeeps : KeepsPlaces rt db op) :
    (db.step rt op).EntrancesPlaced := by
  have hplaced := hsound.entrancesPlaced_iff.mp h
  cases op with
  | createBuilding perimeter address coordinates =>
    exact (hsound.step _).entrancesPlaced_iff.mpr
      ⟨placed_createBuilding hsound hplaced.1 hlocated, linked_createBuilding hplaced.2⟩
  | editBuilding perimeter buildingId address coordinates =>
    exact (hsound.step _).entrancesPlaced_iff.mpr
      ⟨placed_editBuilding hplaced.1, linked_editBuilding hplaced.2⟩
  | deleteBuilding buildingId => exact placed_deleteBuilding h hkeeps
  | importOpenData perimeter rows =>
    exact (hsound.step _).entrancesPlaced_iff.mpr (placed_applyOpenData hsound hplaced rows)
  | updateBuildingsInEntrance entranceId buildingIds =>
    apply (hsound.step _).entrancesPlaced_iff.mpr
    refine ⟨placed_updateBuildingsInEntrance hsound hplaced.1 entranceId buildingIds, ?_⟩
    exact linked_updateBuildingsInEntrance hplaced.2
  | setBuildingProspectionData buildingId input =>
    exact (hsound.step _).entrancesPlaced_iff.mpr
      (placed_setBuildingProspectionData hsound hplaced hkeeps)

/-- Two neighbours share an entrance; one of them moves, and its homes are counted. -/
def neighboursRun : List MapOp :=
  [.createBuilding none ⟨"1", "Rue A", "69001"⟩ ⟨some 45, some 4⟩,
   .createBuilding none ⟨"2", "Rue A", "69001"⟩ ⟨some 47, some 6⟩,
   .updateBuildingsInEntrance 1 [1, 2],
   .editBuilding none 2 ⟨"2", "Rue A", "69001"⟩ ⟨some 49, some 8⟩,
   .setBuildingProspectionData 1 { blankForm with hasResidential := "on", homes := "3" }]

end Unitae.Territories
