import Unitae.Territories.MapIntegrity

/-!
# Unitae — an update of one kind of entrance leaves the other kinds

`setBuildingProspectionData` goes through the kinds of entrances one after the other. What it finds of a
kind is what was there before it: the parts before have only touched entrances of their own kind.
-/

namespace Unitae.Territories

open MapDb

/-- The ids of a building's entrances of one kind. -/
def MapDb.idsOfKind (db : MapDb) (buildingId : Nat) (kind : EntranceKind) : List Nat :=
  (db.entrancesOfKind buildingId kind).map (·.id)

section Kinds

variable {db : MapDb} {buildingId : Nat} {kind : EntranceKind}

theorem mem_idsOfKind {id : Nat} :
    id ∈ db.idsOfKind buildingId kind ↔
      ∃ e ∈ db.entrances, (buildingId, e.id) ∈ db.links ∧ e.kind = kind ∧ e.id = id := by
  simp only [idsOfKind, List.mem_map, mem_entrancesOfKind, mem_entrancesOf]
  constructor
  · rintro ⟨e, ⟨⟨he, hlink⟩, hkind⟩, hid⟩
    exact ⟨e, he, hlink, hkind, hid⟩
  · rintro ⟨e, he, hlink, hkind, hid⟩
    exact ⟨e, ⟨⟨he, hlink⟩, hkind⟩, hid⟩

/-- An entrance has one kind. -/
theorem kind_of_mem_idsOfKind (h : db.Sound) {e : BuildingEntrance} (he : e ∈ db.entrances)
    (hid : e.id ∈ db.idsOfKind buildingId kind) : e.kind = kind := by
  obtain ⟨e', he', _, hkind, heq⟩ := mem_idsOfKind.mp hid
  rw [← hkind, List.inj_on_of_nodup_map h.entrances he' he heq]

theorem idsOfKind_updateEntrance {id : Nat} {f : BuildingEntrance → BuildingEntrance}
    (hid : ∀ e, (f e).id = e.id) (hkind : ∀ e, (f e).kind = e.kind) :
    (db.updateEntrance id f).idsOfKind buildingId kind = db.idsOfKind buildingId kind := by
  let g := fun e : BuildingEntrance => if e.id = id then f e else e
  have hgid : ∀ e, (g e).id = e.id := fun e => column_ite (hid e)
  have hgkind : ∀ e, (g e).kind = e.kind := fun e => column_ite (hkind e)
  show (((db.entrances.map g).filter fun e => decide ((buildingId, e.id) ∈ db.links)).filter
    (·.kind == kind)).map (·.id) = _
  unfold idsOfKind entrancesOfKind entrancesOf
  rw [List.filter_map, List.filter_map, List.map_map]
  simp only [Function.comp_def, hgid, hgkind]

theorem idsOfKind_deleteEntrances {gone : Nat → Bool} :
    (db.deleteEntrances gone).idsOfKind buildingId kind =
      (db.idsOfKind buildingId kind).filter fun id => !gone id := by
  unfold idsOfKind entrancesOfKind entrancesOf
  rw [List.filter_map, List.filter_filter, List.filter_filter]
  simp only [deleteEntrances, List.filter_filter, Function.comp_def, List.mem_filter]
  congr 1
  apply List.filter_congr
  intro e _
  cases gone e.id <;> simp

/-- The deletion of another entrance. -/
theorem idsOfKind_deleteEntrance {id : Nat} (hother : id ∉ db.idsOfKind buildingId kind) :
    (db.deleteEntrance id).idsOfKind buildingId kind = db.idsOfKind buildingId kind := by
  unfold deleteEntrance
  rw [idsOfKind_deleteEntrances, List.filter_eq_self]
  intro id' hid
  have hne : id' ≠ id := fun heq => hother (heq ▸ hid)
  simpa using hne

/-- An entrance of another kind. -/
theorem not_mem_idsOfKind (h : db.Sound) {other : EntranceKind} {e : BuildingEntrance}
    (he : e ∈ db.entrancesOfKind buildingId other) (hkind : kind ≠ other) :
    e.id ∉ db.idsOfKind buildingId kind := by
  intro hid
  have hmem := mem_entrancesOfKind.mp he
  have hsame := kind_of_mem_idsOfKind h (mem_entrancesOf.mp hmem.1).1 hid
  exact hkind (hsame.symm.trans hmem.2)

/-- The creation of an entrance of another kind. -/
theorem idsOfKind_createEntrance (h : db.Sound) {e : BuildingEntrance} {owner : Nat}
    (hkind : e.kind ≠ kind) :
    (db.createEntrance e owner).idsOfKind buildingId kind = db.idsOfKind buildingId kind := by
  unfold idsOfKind entrancesOfKind entrancesOf createEntrance
  simp only [List.filter_append, List.map_append]
  have hnone : ([{ e with id := db.nextEntranceId }].filter
      fun e => decide ((buildingId, e.id) ∈ db.links ++ [(owner, db.nextEntranceId)])).filter
        (·.kind == kind) = [] := by
    rw [List.filter_filter, List.filter_eq_nil_iff]
    intro e' he'
    rw [List.mem_singleton.mp he']
    simp [hkind]
  rw [hnone, List.map_nil, List.append_nil]
  congr 2
  apply List.filter_congr
  intro e' he'
  have hne : e'.id ≠ db.nextEntranceId := by
    intro heq
    exact h.fresh_entrance (heq ▸ mem_entranceIds.mpr ⟨e', he', rfl⟩)
  simp [hne]

end Kinds

/-! ## Each part leaves the other kinds -/

section Parts

variable {rt : MapRuntime} {db : MapDb} {buildingId : Nat} {kind : EntranceKind}
  {input : BuildingProspectionInput}

theorem idsOfKind_writeResidential {entranceId : Nat} :
    Leaves (fun db' => db'.idsOfKind buildingId kind = db.idsOfKind buildingId kind)
      (writeResidential rt db buildingId input entranceId) := by
  unfold writeResidential
  split
  · exact rfl
  dsimp only
  split
  · exact idsOfKind_updateEntrance (fun _ => rfl) fun _ => rfl
  · have hupsert : ∀ (db : MapDb) (figures : Figures),
        (upsertResidentialData db buildingId entranceId figures).idsOfKind buildingId kind =
          db.idsOfKind buildingId kind := by
      intro db figures
      unfold upsertResidentialData
      split
      · rfl
      · rfl
    show (MapDb.recalculateEntranceAggregates _ entranceId).idsOfKind buildingId kind = _
    unfold recalculateEntranceAggregates
    rw [idsOfKind_updateEntrance (by intro _; rfl) (by intro _; rfl)]
    exact (hupsert _ _).trans (idsOfKind_updateEntrance (fun _ => rfl) fun _ => rfl)

theorem idsOfKind_setResidential (h : db.Sound) (hkind : kind ≠ .residential) :
    Leaves (fun db' => db'.idsOfKind buildingId kind = db.idsOfKind buildingId kind)
      (setResidential rt db buildingId input) := by
  unfold setResidential
  split
  next entrance hentrance =>
    split
    · exact idsOfKind_writeResidential
    · exact idsOfKind_deleteEntrance (not_mem_idsOfKind h (List.mem_of_mem_head? hentrance) hkind)
  · split
    · have hcreated : (db.createEntrance (entranceOfKind .residential) buildingId).idsOfKind
          buildingId kind = db.idsOfKind buildingId kind :=
        idsOfKind_createEntrance h hkind.symm
      rw [← hcreated]
      exact idsOfKind_writeResidential
    · exact rfl

theorem idsOfKind_syncCommerceEntrances (h : SoundWith buildingId db) (shopKinds notes : List String)
    (hkind : kind ≠ .commerce) :
    (syncCommerceEntrances db buildingId shopKinds notes).idsOfKind buildingId kind =
      db.idsOfKind buildingId kind := by
  let I := fun db' : MapDb =>
    SoundWith buildingId db' ∧ db'.idsOfKind buildingId kind = db.idsOfKind buildingId kind
  have hother : ∀ place ∈ (existingCommerces db buildingId).zipIdx,
      place.1.id ∉ db.idsOfKind buildingId kind := by
    intro place hplace
    have hmem : place.1 ∈ existingCommerces db buildingId := List.fst_mem_of_mem_zipIdx hplace
    exact not_mem_idsOfKind h.1 (List.mem_mergeSort.mp hmem) hkind
  have hexisting : I ((existingCommerces db buildingId).zipIdx.foldl (syncCommerce shopKinds notes)
      db) := by
    apply List.foldlRecOn (motive := I)
    · exact ⟨h, rfl⟩
    · intro db' hdb' place hplace
      unfold syncCommerce
      split
      · refine ⟨⟨hdb'.1.1.updateEntrance fun _ => rfl, hdb'.1.2⟩, ?_⟩
        rw [← hdb'.2]
        exact idsOfKind_updateEntrance (fun _ => rfl) fun _ => rfl
      · refine ⟨⟨hdb'.1.1.deleteEntrances _, hdb'.1.2⟩, ?_⟩
        exact (idsOfKind_deleteEntrance (hdb'.2 ▸ hother place hplace)).trans hdb'.2
  unfold syncCommerceEntrances
  refine (List.foldlRecOn (motive := I) _ _ hexisting ?_).2
  intro db' hdb' shop _
  refine ⟨⟨hdb'.1.1.createEntrance _ hdb'.1.2, hdb'.1.2⟩, ?_⟩
  exact (idsOfKind_createEntrance hdb'.1.1 hkind.symm).trans hdb'.2

theorem idsOfKind_syncUniqueEntrance (h : SoundWith buildingId db) {own : EntranceKind}
    (shouldExist : Bool) (hkind : kind ≠ own) :
    (syncUniqueEntrance db buildingId own shouldExist).idsOfKind buildingId kind =
      db.idsOfKind buildingId kind := by
  unfold syncUniqueEntrance
  split
  · exact idsOfKind_createEntrance h.1 hkind.symm
  next existing _ hexisting =>
    exact idsOfKind_deleteEntrance (not_mem_idsOfKind h.1 (List.mem_of_mem_head? hexisting) hkind)
  · rfl

/-- Whether the form asks for an entrance of a kind. -/
def BuildingProspectionInput.asksFor (input : BuildingProspectionInput) : EntranceKind → Bool
  | .residential => input.residential
  | .commerce => !input.commerceShopKinds.isEmpty
  | .hotel => checked input.hotel
  | .campus => checked input.campus
  | .laundromat => checked input.landromat

/-- **The parts after the homes**, one kind after the other: each finds of its kind what was there. -/
theorem setOtherKinds_rule {P : MapDb → Prop} (h : SoundWith buildingId db)
    (hcommerce : P (syncCommerceEntrances db buildingId input.commerceShopKinds input.commerceNotes))
    (hunique : ∀ db' kind, kind ≠ .residential → kind ≠ .commerce → SoundWith buildingId db' →
      db'.idsOfKind buildingId kind = db.idsOfKind buildingId kind → P db' →
        P (syncUniqueEntrance db' buildingId kind (input.asksFor kind))) :
    P (setOtherKinds db buildingId input) := by
  have hsynced := sound_syncCommerceEntrances h input.commerceShopKinds input.commerceNotes
  have hids : ∀ kind, kind ≠ .commerce →
      (syncCommerceEntrances db buildingId input.commerceShopKinds input.commerceNotes).idsOfKind
        buildingId kind = db.idsOfKind buildingId kind :=
    fun _ hkind => idsOfKind_syncCommerceEntrances h _ _ hkind
  have hhotel := sound_syncUniqueEntrance hsynced .hotel (checked input.hotel)
  have hcampus := sound_syncUniqueEntrance hhotel .campus (checked input.campus)
  apply hunique _ .laundromat (by decide) (by decide) hcampus
  · rw [idsOfKind_syncUniqueEntrance hhotel _ (by decide),
      idsOfKind_syncUniqueEntrance hsynced _ (by decide), hids _ (by decide)]
  apply hunique _ .campus (by decide) (by decide) hhotel
  · rw [idsOfKind_syncUniqueEntrance hsynced _ (by decide), hids _ (by decide)]
  apply hunique _ .hotel (by decide) (by decide) hsynced
  · exact hids _ (by decide)
  · exact hcommerce

end Parts

/-! ## What the form asks for -/

/-- The numbers of the form are taken, if there are homes to write them for. -/
def BuildingProspectionInput.Accepted (rt : MapRuntime) (input : BuildingProspectionInput) : Prop :=
  input.residential = true → rt.integerOrNull input.access ≠ none ∧ input.figures rt ≠ none

instance (rt : MapRuntime) (input : BuildingProspectionInput) : Decidable (input.Accepted rt) :=
  inferInstanceAs (Decidable (_ → _))

/-- Homes asked for are written somewhere. -/
theorem setResidential_writes {rt : MapRuntime} {db : MapDb} {buildingId : Nat}
    {input : BuildingProspectionInput} (hresidential : input.residential = true) :
    ∃ db₁ entranceId, setResidential rt db buildingId input =
      writeResidential rt db₁ buildingId input entranceId := by
  unfold setResidential
  split
  next entrance _ => exact ⟨db, entrance.id, if_pos hresidential⟩
  next => exact ⟨_, _, if_pos hresidential⟩

/-- The numbers were taken, when the homes went through. -/
theorem accepted_of_setResidential {rt : MapRuntime} {db db' : MapDb} {buildingId : Nat}
    {input : BuildingProspectionInput} (h : setResidential rt db buildingId input = .ok db') :
    input.Accepted rt := by
  intro hresidential
  obtain ⟨db₁, entranceId, hwrites⟩ := @setResidential_writes rt db buildingId _ hresidential
  rw [hwrites] at h
  unfold writeResidential at h
  split at h
  · exact absurd h (by simp)
  next haccess =>
    dsimp only at h
    split at h
    · exact absurd h (by simp)
    next hfigures => exact ⟨by simp [haccess], by simp [hfigures]⟩

end Unitae.Territories
