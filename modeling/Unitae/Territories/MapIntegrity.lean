import Unitae.Territories.EntranceEdits

/-!
# Unitae — the map keeps its keys

`MapDb.Sound` is what the schema promises: ids are unique and new ones are new, a link and a row of
residential data point to a building and an entrance that exist. Each write keeps it, so each edit does.
-/

namespace Unitae.Territories

namespace MapDb

def buildingIds (db : MapDb) : List Nat := db.buildings.map (·.id)

def entranceIds (db : MapDb) : List Nat := db.entrances.map (·.id)

structure Sound (db : MapDb) : Prop where
  buildings : db.buildingIds.Nodup
  entrances : db.entranceIds.Nodup
  newBuilding : ∀ id ∈ db.buildingIds, id < db.nextBuildingId
  newEntrance : ∀ id ∈ db.entranceIds, id < db.nextEntranceId
  links : ∀ link ∈ db.links, link.1 ∈ db.buildingIds ∧ link.2 ∈ db.entranceIds
  residentialData : ∀ r ∈ db.residentialData,
    r.buildingId ∈ db.buildingIds ∧ r.entranceId ∈ db.entranceIds

section Queries

variable {db : MapDb}

theorem mem_buildingsOf {b : Building} {entranceId : Nat} :
    b ∈ db.buildingsOf entranceId ↔ b ∈ db.buildings ∧ (b.id, entranceId) ∈ db.links := by
  simp [buildingsOf]

theorem mem_entrancesOf {e : BuildingEntrance} {buildingId : Nat} :
    e ∈ db.entrancesOf buildingId ↔ e ∈ db.entrances ∧ (buildingId, e.id) ∈ db.links := by
  simp [entrancesOf]

theorem mem_entrancesOfKind {e : BuildingEntrance} {buildingId : Nat} {kind : EntranceKind} :
    e ∈ db.entrancesOfKind buildingId kind ↔ e ∈ db.entrancesOf buildingId ∧ e.kind = kind := by
  simp [entrancesOfKind]

theorem mem_buildingIds {id : Nat} : id ∈ db.buildingIds ↔ ∃ b ∈ db.buildings, b.id = id := by
  simp [buildingIds]

theorem mem_entranceIds {id : Nat} : id ∈ db.entranceIds ↔ ∃ e ∈ db.entrances, e.id = id := by
  simp [entranceIds]

theorem any_building {id : Nat} : db.buildings.any (·.id == id) = true ↔ id ∈ db.buildingIds := by
  simp [buildingIds]

theorem all_building {id : Nat} : db.buildings.all (·.id != id) = true ↔ id ∉ db.buildingIds := by
  simp only [List.all_eq_true, bne_iff_ne, buildingIds, List.mem_map, not_exists, not_and]

/-- An id that is still to come is no entrance's. -/
theorem Sound.fresh_entrance (h : db.Sound) : db.nextEntranceId ∉ db.entranceIds :=
  fun hmem => Nat.lt_irrefl _ (h.newEntrance _ hmem)

theorem Sound.fresh_building (h : db.Sound) : db.nextBuildingId ∉ db.buildingIds :=
  fun hmem => Nat.lt_irrefl _ (h.newBuilding _ hmem)

end Queries

/-! ## Writes -/

section Writes

variable {db : MapDb}

@[simp] theorem buildingIds_updateBuilding {id : Nat} {f : Building → Building}
    (hf : ∀ b, (f b).id = b.id) : (db.updateBuilding id f).buildingIds = db.buildingIds := by
  unfold buildingIds updateBuilding
  rw [List.map_map]
  apply List.map_congr_left
  intro b _
  exact column_ite (hf b)

@[simp] theorem entranceIds_updateEntrance {id : Nat} {f : BuildingEntrance → BuildingEntrance}
    (hf : ∀ e, (f e).id = e.id) : (db.updateEntrance id f).entranceIds = db.entranceIds := by
  unfold entranceIds updateEntrance
  rw [List.map_map]
  apply List.map_congr_left
  intro e _
  exact column_ite (hf e)

@[simp] theorem buildingIds_insertBuilding {b : Building} :
    (db.insertBuilding b).buildingIds = db.buildingIds ++ [db.nextBuildingId] := by
  simp [buildingIds, insertBuilding]

@[simp] theorem entranceIds_createEntrance {e : BuildingEntrance} {buildingId : Nat} :
    (db.createEntrance e buildingId).entranceIds = db.entranceIds ++ [db.nextEntranceId] := by
  simp [entranceIds, createEntrance]

theorem mem_entranceIds_deleteEntrances {gone : Nat → Bool} {id : Nat} :
    id ∈ (db.deleteEntrances gone).entranceIds ↔ id ∈ db.entranceIds ∧ gone id = false := by
  simp only [mem_entranceIds, deleteEntrances, List.mem_filter, Bool.not_eq_true']
  constructor
  · rintro ⟨e, ⟨he, hgone⟩, rfl⟩
    exact ⟨⟨e, he, rfl⟩, hgone⟩
  · rintro ⟨⟨e, he, rfl⟩, hgone⟩
    exact ⟨e, ⟨he, hgone⟩, rfl⟩

theorem mem_links_deleteEntrances {gone : Nat → Bool} {link : Nat × Nat} :
    link ∈ (db.deleteEntrances gone).links ↔ link ∈ db.links ∧ gone link.2 = false := by
  simp [deleteEntrances]

theorem mem_deleteEntrances {gone : Nat → Bool} {e : BuildingEntrance} :
    e ∈ (db.deleteEntrances gone).entrances ↔ e ∈ db.entrances ∧ gone e.id = false := by
  simp [deleteEntrances]

namespace Sound

theorem updateBuilding (h : db.Sound) {id : Nat} {f : Building → Building}
    (hf : ∀ b, (f b).id = b.id) : (db.updateBuilding id f).Sound where
  buildings := by rw [buildingIds_updateBuilding hf]; exact h.buildings
  entrances := h.entrances
  newBuilding := by rw [buildingIds_updateBuilding hf]; exact h.newBuilding
  newEntrance := h.newEntrance
  links := by rw [buildingIds_updateBuilding hf]; exact h.links
  residentialData := by rw [buildingIds_updateBuilding hf]; exact h.residentialData

theorem updateEntrance (h : db.Sound) {id : Nat} {f : BuildingEntrance → BuildingEntrance}
    (hf : ∀ e, (f e).id = e.id) : (db.updateEntrance id f).Sound where
  buildings := h.buildings
  entrances := by rw [entranceIds_updateEntrance hf]; exact h.entrances
  newBuilding := h.newBuilding
  newEntrance := by rw [entranceIds_updateEntrance hf]; exact h.newEntrance
  links := by rw [entranceIds_updateEntrance hf]; exact h.links
  residentialData := by rw [entranceIds_updateEntrance hf]; exact h.residentialData

theorem accesses (h : db.Sound) (rows : List BuildingAccess) :
    { db with accesses := rows }.Sound :=
  ⟨h.buildings, h.entrances, h.newBuilding, h.newEntrance, h.links, h.residentialData⟩

/-- A key that is new goes at the end of the keys. -/
theorem nodup_concat {ids : List Nat} {id : Nat} (h : ids.Nodup) (hnew : id ∉ ids) :
    (ids ++ [id]).Nodup := by
  rw [List.nodup_append]
  refine ⟨h, List.nodup_singleton _, ?_⟩
  intro a ha b hb heq
  rw [List.mem_singleton] at hb
  exact hnew (by rwa [← hb, ← heq])

theorem insertBuilding (h : db.Sound) (b : Building) : (db.insertBuilding b).Sound where
  buildings := by
    rw [buildingIds_insertBuilding]
    exact nodup_concat h.buildings h.fresh_building
  entrances := h.entrances
  newBuilding := by
    rw [buildingIds_insertBuilding]
    exact lt_append_next h.newBuilding rfl
  newEntrance := h.newEntrance
  links := by
    rw [buildingIds_insertBuilding]
    intro link hlink
    exact ⟨List.mem_append_left _ (h.links link hlink).1, (h.links link hlink).2⟩
  residentialData := by
    rw [buildingIds_insertBuilding]
    intro r hr
    exact ⟨List.mem_append_left _ (h.residentialData r hr).1, (h.residentialData r hr).2⟩

theorem createEntrance (h : db.Sound) (e : BuildingEntrance) {buildingId : Nat}
    (hbuilding : buildingId ∈ db.buildingIds) : (db.createEntrance e buildingId).Sound where
  buildings := h.buildings
  entrances := by
    rw [entranceIds_createEntrance]
    exact nodup_concat h.entrances h.fresh_entrance
  newBuilding := h.newBuilding
  newEntrance := by
    rw [entranceIds_createEntrance]
    exact lt_append_next h.newEntrance rfl
  links := by
    rw [entranceIds_createEntrance]
    intro link hlink
    cases List.mem_append.mp hlink with
    | inl hold => exact ⟨(h.links link hold).1, List.mem_append_left _ (h.links link hold).2⟩
    | inr hnew =>
      rw [List.mem_singleton.mp hnew]
      exact ⟨hbuilding, List.mem_append_right _ (List.mem_singleton_self _)⟩
  residentialData := by
    rw [entranceIds_createEntrance]
    intro r hr
    exact ⟨(h.residentialData r hr).1, List.mem_append_left _ (h.residentialData r hr).2⟩

theorem createResidentialData (h : db.Sound) {buildingId entranceId : Nat} (figures : Figures)
    (hbuilding : buildingId ∈ db.buildingIds) (hentrance : entranceId ∈ db.entranceIds) :
    (db.createResidentialData buildingId entranceId figures).Sound :=
  { h with
    residentialData := by
      intro r hr
      cases List.mem_append.mp hr with
      | inl hold => exact h.residentialData r hold
      | inr hnew =>
        rw [List.mem_singleton.mp hnew]
        exact ⟨hbuilding, hentrance⟩ }

/-- A rewrite of residential data that points them to entrances that exist. -/
theorem mapResidentialData (h : db.Sound) {f : BuildingResidentialData → BuildingResidentialData}
    (hbuilding : ∀ r, (f r).buildingId = r.buildingId)
    (hentrance : ∀ r ∈ db.residentialData, (f r).entranceId ∈ db.entranceIds) :
    { db with residentialData := db.residentialData.map f }.Sound :=
  { h with
    residentialData := by
      intro r hr
      obtain ⟨r', hr', rfl⟩ := List.mem_map.mp hr
      rw [hbuilding]
      exact ⟨(h.residentialData r' hr').1, hentrance r' hr'⟩ }

theorem deleteEntrances (h : db.Sound) (gone : Nat → Bool) : (db.deleteEntrances gone).Sound where
  buildings := h.buildings
  entrances := h.entrances.sublist (List.filter_sublist.map _)
  newBuilding := h.newBuilding
  newEntrance := fun id hid => h.newEntrance id (mem_entranceIds_deleteEntrances.mp hid).1
  links := by
    intro link hlink
    have hkept := mem_links_deleteEntrances.mp hlink
    exact ⟨(h.links link hkept.1).1,
      mem_entranceIds_deleteEntrances.mpr ⟨(h.links link hkept.1).2, hkept.2⟩⟩
  residentialData := by
    intro r hr
    obtain ⟨hold, hkept⟩ := List.mem_filter.mp hr
    refine ⟨(h.residentialData r hold).1, mem_entranceIds_deleteEntrances.mpr ⟨?_, by simpa using hkept⟩⟩
    exact (h.residentialData r hold).2

theorem recalculateEntranceAggregates (h : db.Sound) (id : Nat) :
    (db.recalculateEntranceAggregates id).Sound :=
  h.updateEntrance fun _ => rfl

theorem recalculateEntranceCentroid (h : db.Sound) (id : Nat) :
    (db.recalculateEntranceCentroid id).Sound :=
  h.updateEntrance fun _ => rfl

end Sound

end Writes

end MapDb

open MapDb

/-! ## Edits -/

section Edits

variable {rt : MapRuntime} {db : MapDb} {perimeter : Perimeter}

theorem sound_createBuilding (h : db.Sound) (address : Address) (coordinates : Coordinates) :
    (createBuilding rt db perimeter address coordinates).Sound := by
  unfold createBuilding
  split
  · exact h
  · apply Sound.createResidentialData
    · apply Sound.createEntrance (h.insertBuilding _)
      simp
    · show db.nextBuildingId ∈ (db.insertBuilding _).buildingIds
      simp
    · rw [entranceIds_createEntrance]
      exact List.mem_append_right _ (List.mem_singleton_self _)

theorem sound_recalculateEach (h : db.Sound) (entrances : List BuildingEntrance) :
    (entrances.foldl (fun db e => db.recalculateEntranceCentroid e.id) db).Sound := by
  induction entrances generalizing db with
  | nil => exact h
  | cons e entrances ih => exact ih (h.recalculateEntranceCentroid e.id)

theorem sound_editBuilding (h : db.Sound) (buildingId : Nat) (address : Address)
    (coordinates : Coordinates) :
    (editBuilding rt db perimeter buildingId address coordinates).Sound := by
  unfold editBuilding
  split
  · exact h
  split
  · exact h
  · apply sound_recalculateEach
    exact h.updateBuilding fun _ => rfl

theorem sound_deleteBuilding (h : db.Sound) (buildingId : Nat) :
    (deleteBuilding db buildingId).Sound := by
  unfold deleteBuilding
  split
  · exact h
  next hdata =>
    have hmem : ∀ id, id ≠ buildingId → id ∈ db.buildingIds →
        id ∈ (db.buildings.filter (·.id != buildingId)).map (·.id) := by
      intro id hne hid
      obtain ⟨b, hb, rfl⟩ := mem_buildingIds.mp hid
      exact List.mem_map.mpr ⟨b, List.mem_filter.mpr ⟨hb, by simpa using hne⟩, rfl⟩
    exact
      { buildings := h.buildings.sublist (List.filter_sublist.map _)
        entrances := h.entrances
        newBuilding := fun id hid => h.newBuilding id ((List.filter_sublist.map _).subset hid)
        newEntrance := h.newEntrance
        links := by
          intro link hlink
          obtain ⟨hold, hne⟩ := List.mem_filter.mp hlink
          exact ⟨hmem _ (by simpa using hne) (h.links link hold).1, (h.links link hold).2⟩
        residentialData := by
          intro r hr
          have hne : r.buildingId ≠ buildingId := by
            intro heq
            exact hdata (List.any_eq_true.mpr ⟨r, hr, by simpa using heq⟩)
          exact ⟨hmem _ hne (h.residentialData r hr).1, (h.residentialData r hr).2⟩ }

/-- A rewrite of all buildings that keeps their ids. -/
theorem sound_mapBuildings (h : db.Sound) {f : Building → Building} (hf : ∀ b, (f b).id = b.id) :
    { db with buildings := db.buildings.map f }.Sound := by
  have hids : (db.buildings.map f).map (·.id) = db.buildingIds := by
    rw [List.map_map]
    exact List.map_congr_left fun b _ => hf b
  exact
    { buildings := by show ((db.buildings.map f).map (·.id)).Nodup; rw [hids]; exact h.buildings
      entrances := h.entrances
      newBuilding := by
        show ∀ id ∈ (db.buildings.map f).map (·.id), _
        rw [hids]
        exact h.newBuilding
      newEntrance := h.newEntrance
      links := by
        show ∀ link ∈ db.links, link.1 ∈ (db.buildings.map f).map (·.id) ∧ _
        rw [hids]
        exact h.links
      residentialData := by
        show ∀ r ∈ db.residentialData, r.buildingId ∈ (db.buildings.map f).map (·.id) ∧ _
        rw [hids]
        exact h.residentialData }

theorem sound_upsertOpenData (h : db.Sound) (row : OpenDataRow) :
    (upsertOpenData rt db perimeter row).Sound := by
  unfold upsertOpenData
  split
  · dsimp only
    split
    · exact sound_mapBuildings h fun _ => column_ite rfl
    · apply Sound.createEntrance (h.insertBuilding _)
      simp
  · exact h

theorem sound_applyOpenData (h : db.Sound) (rows : List OpenDataRow) :
    (applyOpenData rt db perimeter rows).Sound := by
  have hreset : (resetOpenData db).Sound := sound_mapBuildings h fun _ => column_ite rfl
  unfold applyOpenData
  clear h
  generalize resetOpenData db = db at hreset
  induction rows generalizing db with
  | nil => exact hreset
  | cons row rows ih => exact ih _ (sound_upsertOpenData hreset row)

/-! ### `updateBuildingsInEntrance` -/

variable {entrance : BuildingEntrance}

theorem sound_reconnect (h : db.Sound) {connected : List Nat} (disconnected : List Nat)
    (hconnected : ∀ id ∈ connected, id ∈ db.buildingIds) (hentrance : entrance.id ∈ db.entranceIds) :
    (reconnect db entrance connected disconnected).Sound :=
  { h with
    links := by
      intro link hlink
      cases List.mem_append.mp (List.mem_filter.mp hlink).1 with
      | inl hold => exact h.links link hold
      | inr hnew =>
        obtain ⟨id, hid, rfl⟩ := List.mem_map.mp hnew
        exact ⟨hconnected id (List.mem_eraseDups.mp hid), hentrance⟩ }

theorem sound_moveOut (h : db.Sound) (accesses : List BuildingAccess) {buildingId : Nat}
    (hbuilding : buildingId ∈ db.buildingIds) : (moveOut db entrance accesses buildingId).Sound := by
  have hcreated := h.createEntrance (likeEntrance entrance) hbuilding
  exact
    { hcreated with
      residentialData := by
        intro r hr
        obtain ⟨r', hr', rfl⟩ := List.mem_map.mp hr
        have hdata := hcreated.residentialData r' hr'
        split
        · refine ⟨hdata.1, ?_⟩
          show db.nextEntranceId ∈ (db.createEntrance (likeEntrance entrance) buildingId).entranceIds
          simp
        · exact hdata }

theorem sound_splitOff (h : db.Sound) (accesses : List BuildingAccess) {buildingId : Nat}
    (hbuilding : buildingId ∈ db.buildingIds) : (splitOff db entrance accesses buildingId).Sound :=
  ((sound_moveOut h accesses hbuilding).recalculateEntranceAggregates _).recalculateEntranceCentroid _

@[simp] theorem buildingIds_splitOff {accesses : List BuildingAccess} {buildingId : Nat} :
    (splitOff db entrance accesses buildingId).buildingIds = db.buildingIds := rfl

theorem mem_buildingIds_of_attached {id : Nat} (h : id ∈ attachedIds db entrance) :
    id ∈ db.buildingIds := by
  obtain ⟨b, hb, rfl⟩ := List.mem_map.mp h
  exact mem_buildingIds.mpr ⟨b, (mem_buildingsOf.mp hb).1, rfl⟩

theorem mem_buildingIds_of_disconnected {id : Nat} {buildingIds : List Nat}
    (h : id ∈ disconnectBuildingIds db entrance buildingIds) : id ∈ db.buildingIds :=
  mem_buildingIds_of_attached (List.mem_filter.mp h).1

/-- The entrance an update is of. -/
theorem entranceById_eq_some {entranceId : Nat} (h : db.entranceById entranceId = some entrance) :
    entrance ∈ db.entrances ∧ entrance.id = entranceId :=
  ⟨List.mem_of_find?_eq_some h, by simpa using List.find?_some h⟩

/-- The buildings to connect exist, and so does the entrance. -/
theorem sound_reconnected (h : db.Sound) (hentrance : entrance ∈ db.entrances) {buildingIds : List Nat}
    (hall : (newBuildingIds db entrance buildingIds).all (fun id => db.buildings.any (·.id == id)) =
      true) :
    (reconnect db entrance (newBuildingIds db entrance buildingIds)
      (disconnectBuildingIds db entrance buildingIds)).Sound := by
  apply sound_reconnect h
  · intro id hid
    exact any_building.mp (List.all_eq_true.mp hall id hid)
  · exact mem_entranceIds.mpr ⟨entrance, hentrance, rfl⟩

theorem nodup_disconnected (h : db.Sound) {buildingIds : List Nat} :
    (disconnectBuildingIds db entrance buildingIds).Nodup :=
  (h.buildings.sublist (List.filter_sublist.map _)).sublist List.filter_sublist

/-- **The buildings are split off one after the other**: what the reconnected map has and each of them
keeps, the map has when the entrance is recomputed. -/
theorem splitOff_each {I : List Nat → MapDb → Prop} (hsound : db.Sound)
    (hentrance : entrance ∈ db.entrances) {buildingIds : List Nat}
    (hall : (newBuildingIds db entrance buildingIds).all (fun id => db.buildings.any (·.id == id)) =
      true)
    (h : I [] (reconnect db entrance (newBuildingIds db entrance buildingIds)
      (disconnectBuildingIds db entrance buildingIds)))
    (hstep : ∀ done db' accesses, db'.Sound → I done db' → ∀ id ∉ done,
      I (done ++ [id]) (splitOff db' entrance accesses id)) :
    ∃ db', db'.Sound ∧ I (disconnectBuildingIds db entrance buildingIds) db' ∧
      writeBuildings db entrance (newBuildingIds db entrance buildingIds)
          (disconnectBuildingIds db entrance buildingIds) =
        (db'.recalculateEntranceAggregates entrance.id).recalculateEntranceCentroid entrance.id := by
  -- The buildings done and those to come.
  have hloop : ∀ (accesses : List BuildingAccess) (rest done : List Nat) (db' : MapDb), db'.Sound →
      I done db' → (∀ id ∈ rest, id ∈ db'.buildingIds) → (done ++ rest).Nodup →
      (rest.foldl (fun db' id => splitOff db' entrance accesses id) db').Sound ∧
        I (done ++ rest) (rest.foldl (fun db' id => splitOff db' entrance accesses id) db') := by
    intro accesses rest
    induction rest with
    | nil =>
      intro done db' hdb' hI _ _
      rw [List.append_nil]
      exact ⟨hdb', hI⟩
    | cons id rest ih =>
      intro done db' hdb' hI hids hnodup
      have hnew : id ∉ done := by
        intro hmem
        exact (List.nodup_append.mp hnodup).2.2 id hmem id List.mem_cons_self rfl
      rw [List.append_cons] at hnodup ⊢
      exact ih _ _ (sound_splitOff hdb' _ (hids id List.mem_cons_self))
        (hstep done db' accesses hdb' hI id hnew)
        (fun id' hid' => hids id' (List.mem_cons_of_mem _ hid')) hnodup
  have hend := hloop (db.accesses.filter (·.entranceId == entrance.id))
    (disconnectBuildingIds db entrance buildingIds) [] _ (sound_reconnected hsound hentrance hall) h
    (fun id hid => show id ∈ db.buildingIds from mem_buildingIds_of_disconnected hid)
    (nodup_disconnected hsound)
  exact ⟨_, hend.1, hend.2, rfl⟩

theorem sound_updateBuildingsInEntrance (h : db.Sound) (entranceId : Nat) (buildingIds : List Nat) :
    (updateBuildingsInEntrance db entranceId buildingIds).Sound := by
  unfold updateBuildingsInEntrance
  split
  · exact h
  next entrance hentrance =>
    apply Sound.deleteEntrances
    split
    next hall =>
      obtain ⟨db', hdb', _, heq⟩ := splitOff_each (I := fun _ _ => True) h
        (entranceById_eq_some hentrance).1 hall trivial fun _ _ _ _ _ _ _ => trivial
      rw [heq]
      exact (hdb'.recalculateEntranceAggregates _).recalculateEntranceCentroid _
    · exact h

/-! ### `setBuildingProspectionData` -/

variable {buildingId : Nat} {input : BuildingProspectionInput}

/-- What holds of the map a part of the update leaves, whether it went through or was refused. -/
def Leaves (P : MapDb → Prop) : Except MapDb MapDb → Prop
  | .ok db => P db
  | .error db => P db

theorem sound_upsertResidentialData (h : db.Sound) {entranceId : Nat} {figures : Figures}
    (hbuilding : buildingId ∈ db.buildingIds) (hentrance : entranceId ∈ db.entranceIds) :
    (upsertResidentialData db buildingId entranceId figures).Sound := by
  unfold upsertResidentialData
  split
  · apply h.mapResidentialData
    · exact fun _ => column_ite rfl
    · intro r hr
      split
      · exact (h.residentialData r hr).2
      · exact (h.residentialData r hr).2
  · exact h.createResidentialData figures hbuilding hentrance

theorem buildingIds_upsertResidentialData {entranceId : Nat} {figures : Figures} :
    (upsertResidentialData db buildingId entranceId figures).buildingIds = db.buildingIds := by
  unfold upsertResidentialData
  split
  · rfl
  · rfl

/-- The map keeps its keys and the building. -/
def SoundWith (buildingId : Nat) (db : MapDb) : Prop := db.Sound ∧ buildingId ∈ db.buildingIds

theorem sound_writeResidential (h : SoundWith buildingId db) {entranceId : Nat}
    (hentrance : entranceId ∈ db.entranceIds) :
    Leaves (SoundWith buildingId) (writeResidential rt db buildingId input entranceId) := by
  unfold writeResidential
  split
  · exact h
  dsimp only
  split
  · exact ⟨h.1.updateEntrance fun _ => rfl, h.2⟩
  · refine ⟨Sound.recalculateEntranceAggregates (Sound.accesses ?_ _) _, ?_⟩
    · refine sound_upsertResidentialData ?_ h.2 ?_
      · exact h.1.updateEntrance fun _ => rfl
      · rwa [entranceIds_updateEntrance (by intro e; rfl)]
    · show buildingId ∈ (upsertResidentialData _ _ _ _).buildingIds
      rw [buildingIds_upsertResidentialData]
      exact h.2

theorem sound_setResidential (h : SoundWith buildingId db) :
    Leaves (SoundWith buildingId) (setResidential rt db buildingId input) := by
  unfold setResidential
  split
  next entrance hentrance =>
    split
    · apply sound_writeResidential h
      have hmem := mem_entrancesOfKind.mp (List.mem_of_mem_head? hentrance)
      exact mem_entranceIds.mpr ⟨entrance, (mem_entrancesOf.mp hmem.1).1, rfl⟩
    · exact ⟨h.1.deleteEntrances _, h.2⟩
  · split
    · apply sound_writeResidential ⟨h.1.createEntrance _ h.2, h.2⟩
      simp
    · exact h

theorem sound_syncCommerceEntrances (h : SoundWith buildingId db) (shopKinds notes : List String) :
    SoundWith buildingId (syncCommerceEntrances db buildingId shopKinds notes) := by
  unfold syncCommerceEntrances
  apply List.foldlRecOn (motive := SoundWith buildingId)
  · apply List.foldlRecOn (motive := SoundWith buildingId)
    · exact h
    · intro db hdb place _
      unfold syncCommerce
      split
      · exact ⟨hdb.1.updateEntrance fun _ => rfl, hdb.2⟩
      · exact ⟨hdb.1.deleteEntrances _, hdb.2⟩
  · intro db hdb shop _
    exact ⟨hdb.1.createEntrance _ hdb.2, hdb.2⟩

theorem sound_syncUniqueEntrance (h : SoundWith buildingId db) (kind : EntranceKind)
    (shouldExist : Bool) :
    SoundWith buildingId (syncUniqueEntrance db buildingId kind shouldExist) := by
  unfold syncUniqueEntrance
  split
  · exact ⟨h.1.createEntrance _ h.2, h.2⟩
  · exact ⟨h.1.deleteEntrances _, h.2⟩
  · exact h

theorem sound_setOtherKinds (h : SoundWith buildingId db) :
    SoundWith buildingId (setOtherKinds db buildingId input) := by
  unfold setOtherKinds
  apply sound_syncUniqueEntrance
  apply sound_syncUniqueEntrance
  apply sound_syncUniqueEntrance
  exact sound_syncCommerceEntrances h _ _

theorem mem_buildingIds_of_found (h : ¬db.buildings.all (·.id != buildingId) = true) :
    buildingId ∈ db.buildingIds := by
  by_contra hnot
  exact h (all_building.mpr hnot)

theorem sound_setProspectionDate (h : SoundWith buildingId db) (prospectionDate : Option Instant) :
    SoundWith buildingId (setProspectionDate db buildingId prospectionDate) := by
  refine ⟨h.1.updateBuilding fun _ => rfl, ?_⟩
  unfold setProspectionDate
  rw [buildingIds_updateBuilding (by intro b; rfl)]
  exact h.2

/-- **What an update by the form does**: nothing, or it stops at the homes, or it goes through. -/
theorem setBuildingProspectionData_cases (h : db.Sound) :
    setBuildingProspectionData rt db buildingId input = db ∨
      ∃ prospectionDate, input.date rt = some prospectionDate ∧
        SoundWith buildingId (setProspectionDate db buildingId prospectionDate) ∧
        ((∃ db', setResidential rt (setProspectionDate db buildingId prospectionDate) buildingId input =
              .error db' ∧ setBuildingProspectionData rt db buildingId input = db') ∨
          ∃ db', setResidential rt (setProspectionDate db buildingId prospectionDate) buildingId input =
              .ok db' ∧
            setBuildingProspectionData rt db buildingId input = setOtherKinds db' buildingId input) := by
  unfold setBuildingProspectionData
  split
  · exact .inl rfl
  next prospectionDate hdate =>
    split
    · exact .inl rfl
    next hfound =>
      refine .inr ⟨prospectionDate, hdate,
        sound_setProspectionDate ⟨h, mem_buildingIds_of_found hfound⟩ _, ?_⟩
      cases hset : setResidential rt (setProspectionDate db buildingId prospectionDate) buildingId
          input with
      | error db' => exact .inl ⟨db', rfl, rfl⟩
      | ok db' => exact .inr ⟨db', rfl, rfl⟩

theorem Leaves.of_ok {P : MapDb → Prop} {r : Except MapDb MapDb} {db' : MapDb} (h : Leaves P r)
    (hr : r = .ok db') : P db' := by
  rw [hr] at h
  exact h

theorem Leaves.of_error {P : MapDb → Prop} {r : Except MapDb MapDb} {db' : MapDb} (h : Leaves P r)
    (hr : r = .error db') : P db' := by
  rw [hr] at h
  exact h

theorem sound_setBuildingProspectionData (h : db.Sound) :
    (setBuildingProspectionData rt db buildingId input).Sound := by
  obtain hsame | ⟨_, _, hdated, hset⟩ := setBuildingProspectionData_cases h
  · rw [hsame]
    exact h
  obtain ⟨db', hrefused, heq⟩ | ⟨db', hwritten, heq⟩ := hset
  · rw [heq]
    exact ((sound_setResidential hdated).of_error hrefused).1
  · rw [heq]
    exact (sound_setOtherKinds ((sound_setResidential hdated).of_ok hwritten)).1

end Edits

/-- **The map keeps its keys**, whatever edits are made. -/
theorem MapDb.Sound.step {rt : MapRuntime} {db : MapDb} (h : db.Sound) (op : MapOp) :
    (db.step rt op).Sound := by
  cases op with
  | createBuilding perimeter address coordinates => exact sound_createBuilding h address coordinates
  | editBuilding perimeter buildingId address coordinates =>
    exact sound_editBuilding h buildingId address coordinates
  | deleteBuilding buildingId => exact sound_deleteBuilding h buildingId
  | importOpenData perimeter rows => exact sound_applyOpenData h rows
  | updateBuildingsInEntrance entranceId buildingIds =>
    exact sound_updateBuildingsInEntrance h entranceId buildingIds
  | setBuildingProspectionData buildingId input => exact sound_setBuildingProspectionData h

/-- A congregation that has no building yet. -/
def MapDb.empty : MapDb where
  buildings := []
  entrances := []
  links := []
  residentialData := []
  accesses := []
  nextBuildingId := 1
  nextEntranceId := 1
  nextResidentialDataId := 1

theorem MapDb.sound_empty : MapDb.empty.Sound where
  buildings := List.nodup_nil
  entrances := List.nodup_nil
  newBuilding := by simp [MapDb.buildingIds, MapDb.empty]
  newEntrance := by simp [MapDb.entranceIds, MapDb.empty]
  links := by simp [MapDb.empty]
  residentialData := by simp [MapDb.empty]

/-- The number of one digit. -/
def digitValue (text : String) : Option Int :=
  match text.toList with
  | [digit] => if digit.isDigit then some (digit.toNat - 48) else none
  | _ => none

/-- A runtime whose numbers have one digit and that knows no date. -/
def plainMapRuntime : MapRuntime where
  stripDiacritics := id
  date := fun _ => none
  integer := digitValue
  number := fun text => (digitValue text).map fun n => (n : Rat)

/-- The form left blank. -/
def blankForm : BuildingProspectionInput where
  prospectionDate := ""
  hasResidential := ""
  homes := ""
  phones := ""
  liberals := ""
  access := ""
  pmr := none
  doors := none
  mailboxes := none
  residentialNotes := ""
  hotel := none
  campus := none
  landromat := none
  shopkinds := []
  commerceNotes := []

end Unitae.Territories
