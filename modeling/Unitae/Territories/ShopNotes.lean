import Unitae.Territories.EntranceKinds

/-!
# Unitae — the notes of the shops

The prospection form sends the kinds of a building's shops and their notes as two lists. The blank kinds are
dropped from the first list and nothing from the second, and the two are then read by the same index: a shop
takes the note at its rank among the kinds that are left. `shops_keep_notes_iff` says when that is the note
sent beside its kind.
-/

namespace Unitae.Territories

open MapDb

/-- What the form says of a shop. -/
def BuildingEntrance.shop (e : BuildingEntrance) : String × String := (e.shopKind, e.notes)

/-- `notes[i] ?? ''`. -/
def noteAt (notes : List String) (i : Nat) : String := (notes[i]?).getD ""

namespace BuildingProspectionInput

/-- The kinds that are not blank, each with its index. -/
def keptKinds (input : BuildingProspectionInput) : List (String × Nat) :=
  input.shopkinds.zipIdx.filter (·.1 != "")

/-- The shops as they were sent: each kind with the note beside it. -/
def submittedShops (input : BuildingProspectionInput) : List (String × String) :=
  input.keptKinds.map fun kept => (kept.1, noteAt input.commerceNotes kept.2)

/-- Where a kind is at one index and has another rank among those kept, both places hold the same note. -/
def NotesAligned (input : BuildingProspectionInput) : Prop :=
  ∀ place ∈ input.keptKinds.zipIdx,
    noteAt input.commerceNotes place.1.2 = noteAt input.commerceNotes place.2

instance (input : BuildingProspectionInput) : Decidable input.NotesAligned :=
  inferInstanceAs (Decidable (∀ place ∈ input.keptKinds.zipIdx, _ = _))

end BuildingProspectionInput

/-! ## The shops of a building, by id -/

section Shops

variable {db : MapDb} {buildingId : Nat}

theorem mem_existingCommerces {e : BuildingEntrance} :
    e ∈ existingCommerces db buildingId ↔
      e ∈ db.entrances ∧ (buildingId, e.id) ∈ db.links ∧ e.kind = .commerce := by
  unfold existingCommerces
  rw [List.mem_mergeSort, mem_entrancesOfKind, mem_entrancesOf, and_assoc]

theorem existingCommerces_sorted (h : db.Sound) :
    (existingCommerces db buildingId).Pairwise (·.id < ·.id) := by
  have hle : (existingCommerces db buildingId).Pairwise (·.id ≤ ·.id) := by
    have := @List.pairwise_mergeSort _ (fun a b : BuildingEntrance => decide (a.id ≤ b.id))
      (by simp only [decide_eq_true_eq]; omega) (by simp only [Bool.or_eq_true, decide_eq_true_eq]; omega)
      (db.entrancesOfKind buildingId .commerce)
    simpa [existingCommerces] using this
  have hids : ((existingCommerces db buildingId).map (·.id)).Nodup := by
    have hperm := (List.mergeSort_perm (db.entrancesOfKind buildingId .commerce) (·.id ≤ ·.id)).map (·.id)
    refine hperm.nodup_iff.mpr (h.entrances.sublist ?_)
    exact ((List.filter_sublist).trans List.filter_sublist).map _
  rw [List.nodup_iff_pairwise_ne, List.pairwise_map] at hids
  exact hle.imp₂ (fun a b hle hne => lt_of_le_of_ne hle hne) hids

/-- A list in the order of the ids is told by its members. -/
theorem eq_of_sorted {rows rows' : List BuildingEntrance} (h : rows.Pairwise (·.id < ·.id))
    (h' : rows'.Pairwise (·.id < ·.id)) (hmem : ∀ e, e ∈ rows ↔ e ∈ rows') : rows = rows' := by
  have hnodup : ∀ {rows : List BuildingEntrance}, rows.Pairwise (·.id < ·.id) → rows.Nodup := by
    intro rows hrows
    refine List.nodup_iff_pairwise_ne.mpr (hrows.imp ?_)
    intro a b hlt heq
    rw [heq] at hlt
    exact Nat.lt_irrefl _ hlt
  refine List.Perm.eq_of_pairwise (fun a b _ _ hab hba => ?_) h h'
    ((List.perm_ext_iff_of_nodup (hnodup h) (hnodup h')).mpr hmem)
  exact absurd hab (Nat.lt_asymm hba)

theorem existingCommerces_updateEntrance (h : db.Sound) {id : Nat}
    {f : BuildingEntrance → BuildingEntrance} (hid : ∀ e, (f e).id = e.id)
    (hkind : ∀ e, (f e).kind = e.kind) :
    existingCommerces (db.updateEntrance id f) buildingId =
      (existingCommerces db buildingId).map fun e => if e.id = id then f e else e := by
  have hgid : ∀ e : BuildingEntrance, (if e.id = id then f e else e).id = e.id :=
    fun e => column_ite (hid e)
  have hgkind : ∀ e : BuildingEntrance, (if e.id = id then f e else e).kind = e.kind :=
    fun e => column_ite (hkind e)
  refine eq_of_sorted (existingCommerces_sorted (h.updateEntrance hid)) ?_ fun e => ?_
  · rw [List.pairwise_map]
    simpa only [hgid] using existingCommerces_sorted h
  · simp only [mem_existingCommerces, List.mem_map, updateEntrance]
    constructor
    · rintro ⟨⟨e, he, rfl⟩, hlink, hcommerce⟩
      rw [hgid] at hlink
      rw [hgkind] at hcommerce
      exact ⟨e, ⟨he, hlink, hcommerce⟩, rfl⟩
    · rintro ⟨e, ⟨he, hlink, hcommerce⟩, rfl⟩
      rw [hgid, hgkind]
      exact ⟨⟨e, he, rfl⟩, hlink, hcommerce⟩

theorem existingCommerces_deleteEntrance (h : db.Sound) (id : Nat) :
    existingCommerces (db.deleteEntrance id) buildingId =
      (existingCommerces db buildingId).filter (·.id != id) := by
  refine eq_of_sorted (existingCommerces_sorted (h.deleteEntrances _))
    ((existingCommerces_sorted h).filter _) fun e => ?_
  simp only [List.mem_filter, mem_existingCommerces, deleteEntrance, mem_deleteEntrances,
    mem_links_deleteEntrances, bne_iff_ne, ne_eq, beq_eq_false_iff_ne]
  tauto

/-- A new shop comes last. -/
theorem existingCommerces_createCommerce (h : db.Sound) {e : BuildingEntrance}
    (hbuilding : buildingId ∈ db.buildingIds) (hkind : e.kind = .commerce) :
    existingCommerces (db.createEntrance e buildingId) buildingId =
      existingCommerces db buildingId ++ [{ e with id := db.nextEntranceId }] := by
  have hbefore : ∀ e' ∈ db.entrances, e'.id < db.nextEntranceId :=
    fun e' he' => h.newEntrance _ (mem_entranceIds.mpr ⟨e', he', rfl⟩)
  refine eq_of_sorted (existingCommerces_sorted (h.createEntrance e hbuilding)) ?_ fun e' => ?_
  · rw [List.pairwise_append]
    refine ⟨existingCommerces_sorted h, List.pairwise_singleton _ _, ?_⟩
    intro a ha b hb
    rw [List.mem_singleton.mp hb]
    exact hbefore a (mem_existingCommerces.mp ha).1
  · simp only [List.mem_append, List.mem_singleton, mem_existingCommerces, createEntrance,
      Prod.mk.injEq]
    constructor
    · rintro ⟨he' | rfl, hlink, hcommerce⟩
      · have hold := hlink.resolve_right fun heq => (hbefore e' he').ne heq.2
        exact .inl ⟨he', hold, hcommerce⟩
      · exact .inr rfl
    · rintro (⟨he', hlink, hcommerce⟩ | rfl)
      · exact ⟨.inl he', .inl hlink, hcommerce⟩
      · exact ⟨.inr rfl, .inr ⟨trivial, rfl⟩, hkind⟩

/-- An entrance of another kind is no shop. -/
theorem existingCommerces_createOther (h : db.Sound) {e : BuildingEntrance}
    (hbuilding : buildingId ∈ db.buildingIds) (hkind : e.kind ≠ .commerce) :
    existingCommerces (db.createEntrance e buildingId) buildingId = existingCommerces db buildingId := by
  have hbefore : ∀ e' ∈ db.entrances, e'.id < db.nextEntranceId :=
    fun e' he' => h.newEntrance _ (mem_entranceIds.mpr ⟨e', he', rfl⟩)
  refine eq_of_sorted (existingCommerces_sorted (h.createEntrance e hbuilding))
    (existingCommerces_sorted h) fun e' => ?_
  simp only [mem_existingCommerces, createEntrance, List.mem_append, List.mem_singleton, Prod.mk.injEq]
  constructor
  · rintro ⟨he' | rfl, hlink, hcommerce⟩
    · exact ⟨he', hlink.resolve_right fun heq => (hbefore e' he').ne heq.2, hcommerce⟩
    · exact absurd hcommerce hkind
  · rintro ⟨he', hlink, hcommerce⟩
    exact ⟨.inl he', .inl hlink, hcommerce⟩

end Shops

/-! ## What the save writes -/

section Save

variable {db : MapDb} {buildingId : Nat} {shopKinds notes : List String}

/-- What becomes of the shop at a place. -/
def rewritten (shopKinds notes : List String) (place : BuildingEntrance × Nat) :
    Option BuildingEntrance :=
  (shopKinds[place.2]?).map fun shopKind =>
    { place.1 with shopKind := shopKind, notes := noteAt notes place.2 }

/-- One place: the shops before it are done, those behind it are as they were. -/
theorem existingCommerces_syncCommerce (h : db.Sound) {done rest : List BuildingEntrance}
    {place : BuildingEntrance × Nat}
    (hrows : existingCommerces db buildingId = done ++ place.1 :: rest) :
    existingCommerces (syncCommerce shopKinds notes db place) buildingId =
      done ++ (rewritten shopKinds notes place).toList ++ rest := by
  have hsorted := @existingCommerces_sorted db buildingId h
  rw [hrows, List.pairwise_append] at hsorted
  obtain ⟨_, hrest, hdone⟩ := hsorted
  have hbefore : ∀ e ∈ done, e.id ≠ place.1.id := fun e he => (hdone e he _ List.mem_cons_self).ne
  have hbehind : ∀ e ∈ rest, e.id ≠ place.1.id := fun e he => ((List.pairwise_cons.mp hrest).1 e he).ne'
  unfold syncCommerce rewritten
  cases hkind : shopKinds[place.2]? with
  | none =>
    have hkept : ∀ {rows : List BuildingEntrance}, (∀ e ∈ rows, e.id ≠ place.1.id) →
        rows.filter (·.id != place.1.id) = rows :=
      fun hne => List.filter_eq_self.mpr fun e he => bne_iff_ne.mpr (hne e he)
    rw [existingCommerces_deleteEntrance h, hrows, List.filter_append, hkept hbefore,
      List.filter_cons_of_neg (by simp), hkept hbehind]
    simp
  | some shopKind =>
    have hkept : ∀ {rows : List BuildingEntrance} {f : BuildingEntrance → BuildingEntrance},
        (∀ e ∈ rows, e.id ≠ place.1.id) →
          rows.map (fun e => if e.id = place.1.id then f e else e) = rows := by
      intro rows f hne
      conv_rhs => rw [← List.map_id rows]
      exact List.map_congr_left fun e he => if_neg (hne e he)
    have hwritten := @existingCommerces_updateEntrance db buildingId h place.1.id
      (fun e => { e with shopKind := shopKind, notes := noteAt notes place.2 }) (fun _ => rfl) fun _ => rfl
    refine hwritten.trans ?_
    rw [hrows, List.map_append, List.map_cons, hkept hbefore, hkept hbehind, if_pos rfl]
    simp

theorem sound_syncCommerce (h : db.Sound) (place : BuildingEntrance × Nat) :
    (syncCommerce shopKinds notes db place).Sound := by
  unfold syncCommerce
  split
  · exact h.updateEntrance fun _ => rfl
  · exact h.deleteEntrances _

/-- The places from `n` on. -/
theorem existingCommerces_foldl (rest : List BuildingEntrance) (n : Nat) :
    ∀ {db : MapDb} {done : List BuildingEntrance}, db.Sound →
      existingCommerces db buildingId = done ++ rest →
      existingCommerces ((rest.zipIdx n).foldl (syncCommerce shopKinds notes) db) buildingId =
        done ++ (rest.zipIdx n).filterMap (rewritten shopKinds notes) := by
  induction rest generalizing n with
  | nil =>
    intro db done _ hrows
    simpa using hrows
  | cons e rest ih =>
    intro db done h hrows
    have hstep := @existingCommerces_syncCommerce db buildingId shopKinds notes h done rest (e, n) hrows
    rw [List.zipIdx_cons, List.foldl_cons, ih (n + 1) (sound_syncCommerce h _) hstep,
      List.filterMap_cons]
    cases rewritten shopKinds notes (e, n) <;> simp

theorem existingCommerces_create_foldl (shops : List (String × Nat)) :
    ∀ {db : MapDb}, SoundWith buildingId db →
      (existingCommerces (shops.foldl (createCommerce buildingId notes) db) buildingId).map
          BuildingEntrance.shop =
        (existingCommerces db buildingId).map BuildingEntrance.shop ++
          shops.map fun shop => (shop.1, noteAt notes shop.2) := by
  induction shops with
  | nil =>
    intro db _
    simp
  | cons shop shops ih =>
    intro db h
    have hcreated : SoundWith buildingId (createCommerce buildingId notes db shop) :=
      ⟨h.1.createEntrance _ h.2, h.2⟩
    rw [List.foldl_cons, ih hcreated, createCommerce, existingCommerces_createCommerce h.1 h.2 rfl]
    simp [BuildingEntrance.shop, noteAt]

/-- The shops that keep their place, and those added behind them. -/
theorem places_taken (existing : List BuildingEntrance) (kinds : List String) (n : Nat) :
    ((existing.zipIdx n).filterMap fun place =>
        (kinds[place.2 - n]?).map fun kind => (kind, noteAt notes place.2)) ++
      ((kinds.zipIdx n).drop existing.length).map (fun shop => (shop.1, noteAt notes shop.2)) =
      (kinds.zipIdx n).map fun shop => (shop.1, noteAt notes shop.2) := by
  induction existing generalizing kinds n with
  | nil => simp
  | cons e existing ih =>
    cases kinds with
    | nil => simp
    | cons kind kinds =>
      -- The places behind the first look at the kinds behind the first.
      have hbehind : ∀ place ∈ existing.zipIdx (n + 1),
          ((kind :: kinds)[place.2 - n]?).map (fun kind => (kind, noteAt notes place.2)) =
            (kinds[place.2 - (n + 1)]?).map fun kind => (kind, noteAt notes place.2) := by
        intro place hplace
        have hle := List.le_snd_of_mem_zipIdx hplace
        rw [show place.2 - n = place.2 - (n + 1) + 1 by omega, List.getElem?_cons_succ]
      rw [List.zipIdx_cons, List.zipIdx_cons, List.filterMap_cons, List.filterMap_congr hbehind]
      simp only [Nat.sub_self, List.getElem?_cons_zero, Option.map_some, List.length_cons,
        List.drop_succ_cons, List.map_cons, List.cons_append, ih]

/-- **The shops are the kinds sent to the loop, each with the note of its rank.** What the building had
before leaves no trace. -/
theorem shops_syncCommerceEntrances (h : SoundWith buildingId db) :
    (existingCommerces (syncCommerceEntrances db buildingId shopKinds notes) buildingId).map
        BuildingEntrance.shop =
      shopKinds.zipIdx.map fun shop => (shop.1, noteAt notes shop.2) := by
  have hkept := @existingCommerces_foldl buildingId shopKinds notes (existingCommerces db buildingId) 0
    db [] h.1 rfl
  have hsound : SoundWith buildingId
      ((existingCommerces db buildingId).zipIdx.foldl (syncCommerce shopKinds notes) db) := by
    apply List.foldlRecOn (motive := SoundWith buildingId)
    · exact h
    · intro db' hdb' place _
      refine ⟨sound_syncCommerce hdb'.1 place, ?_⟩
      unfold syncCommerce
      split <;> exact hdb'.2
  unfold syncCommerceEntrances
  rw [existingCommerces_create_foldl _ hsound, hkept, List.nil_append, List.map_filterMap]
  rw [← places_taken (existingCommerces db buildingId) shopKinds 0]
  congr 1
  apply List.filterMap_congr
  intro place _
  unfold rewritten
  cases shopKinds[place.2]? <;> rfl

/-- A kind a building has one entrance of is no shop. -/
theorem existingCommerces_syncUniqueEntrance (h : SoundWith buildingId db) {kind : EntranceKind}
    (hkind : kind ≠ .commerce) (shouldExist : Bool) :
    existingCommerces (syncUniqueEntrance db buildingId kind shouldExist) buildingId =
      existingCommerces db buildingId := by
  unfold syncUniqueEntrance
  split
  · exact existingCommerces_createOther h.1 h.2 hkind
  next existing _ hexisting =>
    have hmem := mem_entrancesOfKind.mp (List.mem_of_mem_head? hexisting)
    rw [existingCommerces_deleteEntrance h.1, List.filter_eq_self]
    intro e he
    rw [bne_iff_ne]
    intro heq
    -- The entrance deleted is of its kind, the shop of another.
    have hshop := mem_existingCommerces.mp he
    have hsame := List.inj_on_of_nodup_map h.1.entrances hshop.1 (mem_entrancesOf.mp hmem.1).1 heq
    rw [hsame, hmem.2] at hshop
    exact hkind hshop.2.2
  · rfl

variable {rt : MapRuntime} {input : BuildingProspectionInput}

theorem shops_setOtherKinds (h : SoundWith buildingId db) :
    (existingCommerces (setOtherKinds db buildingId input) buildingId).map BuildingEntrance.shop =
      input.commerceShopKinds.zipIdx.map fun shop => (shop.1, noteAt input.commerceNotes shop.2) := by
  refine setOtherKinds_rule (P := fun db' => (existingCommerces db' buildingId).map
    BuildingEntrance.shop = _) h (shops_syncCommerceEntrances h) ?_
  intro db' kind _ hkind hdb' _ hshops
  rw [existingCommerces_syncUniqueEntrance hdb' hkind]
  exact hshops

/-- Numbers that are taken let the homes through. -/
theorem setResidential_ok (h : input.Accepted rt) :
    ∃ db', setResidential rt db buildingId input = .ok db' := by
  have hwrites : input.residential = true → ∀ (db : MapDb) (entranceId : Nat),
      ∃ db', writeResidential rt db buildingId input entranceId = .ok db' := by
    intro hresidential db entranceId
    obtain ⟨haccess, hfigures⟩ := h hresidential
    obtain ⟨access, haccess⟩ := Option.ne_none_iff_exists'.mp haccess
    obtain ⟨figures, hfigures⟩ := Option.ne_none_iff_exists'.mp hfigures
    unfold writeResidential
    rw [haccess, hfigures]
    exact ⟨_, rfl⟩
  unfold setResidential
  split
  · split
    next hresidential => exact hwrites hresidential _ _
    · exact ⟨_, rfl⟩
  · split
    next hresidential => exact hwrites hresidential _ _
    · exact ⟨_, rfl⟩

theorem shops_setBuildingProspectionData (h : db.Sound) (hbuilding : buildingId ∈ db.buildingIds)
    (hdate : input.date rt ≠ none) (haccepted : input.Accepted rt) :
    (existingCommerces (setBuildingProspectionData rt db buildingId input) buildingId).map
        BuildingEntrance.shop =
      input.commerceShopKinds.zipIdx.map fun shop => (shop.1, noteAt input.commerceNotes shop.2) := by
  obtain ⟨prospectionDate, hdate⟩ := Option.ne_none_iff_exists'.mp hdate
  have hfound : ¬ db.buildings.all (·.id != buildingId) = true := fun hall => all_building.mp hall hbuilding
  have hdated := sound_setProspectionDate ⟨h, hbuilding⟩ prospectionDate
  obtain ⟨db', hdb'⟩ := @setResidential_ok (setProspectionDate db buildingId prospectionDate) buildingId
    rt input haccepted
  have hsaved : setBuildingProspectionData rt db buildingId input = setOtherKinds db' buildingId input := by
    unfold setBuildingProspectionData
    rw [hdate]
    simp only [hfound, Bool.false_eq_true, if_false, hdb']
  rw [hsaved]
  exact shops_setOtherKinds ((sound_setResidential hdated).of_ok hdb')

end Save

/-! ## The note beside each kind -/

namespace BuildingProspectionInput

variable {input : BuildingProspectionInput}

theorem commerceShopKinds_eq (input : BuildingProspectionInput) :
    input.commerceShopKinds = input.keptKinds.map (·.1) := by
  unfold commerceShopKinds keptKinds
  conv_lhs => rw [← List.zipIdx_map_fst 0 input.shopkinds]
  rw [List.filter_map]
  rfl

/-- The shops saved are the shops sent when ranks and indices show the same notes. -/
theorem ranked_eq_submitted_iff :
    (input.commerceShopKinds.zipIdx.map fun shop => (shop.1, noteAt input.commerceNotes shop.2)) =
      input.submittedShops ↔ input.NotesAligned := by
  have hsaved : (input.commerceShopKinds.zipIdx.map fun shop => (shop.1, noteAt input.commerceNotes
      shop.2)) = input.keptKinds.zipIdx.map fun place =>
        (place.1.1, noteAt input.commerceNotes place.2) := by
    rw [commerceShopKinds_eq, List.zipIdx_map, List.map_map]
    rfl
  have hsent : input.submittedShops = input.keptKinds.zipIdx.map fun place =>
      (place.1.1, noteAt input.commerceNotes place.1.2) := by
    unfold submittedShops
    conv_lhs => rw [← List.zipIdx_map_fst 0 input.keptKinds]
    rw [List.map_map]
    rfl
  rw [hsaved, hsent, List.map_inj_left]
  unfold NotesAligned
  refine forall₂_congr fun place _ => ?_
  rw [Prod.mk.injEq, and_iff_right rfl, eq_comm]

/-- Kinds with no blank one before a kind that is kept stand at their ranks. -/
theorem notesAligned_of_blanks_last {kinds blanks : List String} (h : input.shopkinds = kinds ++ blanks)
    (hkinds : ∀ kind ∈ kinds, kind ≠ "") (hblanks : ∀ kind ∈ blanks, kind = "") :
    input.NotesAligned := by
  have hkept : input.keptKinds = kinds.zipIdx := by
    unfold keptKinds
    rw [h, List.zipIdx_append, List.filter_append, List.filter_eq_self.mpr, List.filter_eq_nil_iff.mpr,
      List.append_nil]
    · intro shop hshop
      simpa using hblanks _ (List.fst_mem_of_mem_zipIdx hshop)
    · intro shop hshop
      exact bne_iff_ne.mpr (hkinds _ (List.fst_mem_of_mem_zipIdx hshop))
  intro place hplace
  rw [hkept] at hplace
  -- An element of the list of indices is at the index it names.
  have hindex := List.mem_zipIdx_iff_getElem?.mp hplace
  rw [List.getElem?_zipIdx] at hindex
  obtain ⟨kind, _, hpair⟩ := Option.map_eq_some_iff.mp hindex
  rw [← hpair]
  simp

end BuildingProspectionInput

/-- **A shop carries the note sent beside its kind exactly when the dropped blanks move no note.** For a save
that goes through. -/
theorem shops_keep_notes_iff (rt : MapRuntime) (db : MapDb) (buildingId : Nat)
    (input : BuildingProspectionInput) (h : db.Sound) (hbuilding : buildingId ∈ db.buildingIds)
    (hdate : input.date rt ≠ none) (haccepted : input.Accepted rt) :
    (existingCommerces (setBuildingProspectionData rt db buildingId input) buildingId).map
        BuildingEntrance.shop = input.submittedShops ↔ input.NotesAligned := by
  rw [shops_setBuildingProspectionData h hbuilding hdate haccepted]
  exact BuildingProspectionInput.ranked_eq_submitted_iff

def bakeryStreet : MapDb :=
  MapDb.empty.step plainMapRuntime (.createBuilding none ⟨"1", "Rue A", "69001"⟩ ⟨some 45, some 4⟩)

theorem sound_bakeryStreet : bakeryStreet.Sound := MapDb.sound_empty.step _

/-- The first shop of the form has no kind; the second is a bakery with a note. -/
def blankFirst : BuildingProspectionInput :=
  { blankForm with shopkinds := ["", "Boulangerie"], commerceNotes := ["", "Fermé le lundi"] }

theorem bakery_loses_note :
    (existingCommerces (setBuildingProspectionData plainMapRuntime bakeryStreet 1 blankFirst) 1).map
        BuildingEntrance.shop = [("Boulangerie", "")] ∧
      blankFirst.submittedShops = [("Boulangerie", "Fermé le lundi")] := by
  refine ⟨?_, by decide +kernel⟩
  rw [shops_setBuildingProspectionData sound_bakeryStreet (by decide +kernel) (by decide +kernel)
    (by decide +kernel)]
  decide +kernel

theorem bakery_first_keeps_note :
    (existingCommerces (setBuildingProspectionData plainMapRuntime bakeryStreet 1
      { blankFirst with shopkinds := ["Boulangerie", ""] }) 1).map BuildingEntrance.shop =
        ({ blankFirst with shopkinds := ["Boulangerie", ""] } : BuildingProspectionInput).submittedShops :=
  (shops_keep_notes_iff plainMapRuntime bakeryStreet 1 _ sound_bakeryStreet (by decide +kernel)
    (by decide +kernel) (by decide +kernel)).mpr (by decide +kernel)

end Unitae.Territories
