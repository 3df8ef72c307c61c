import Unitae.Territories.EntranceTotals

/-!
# Unitae — what saving one building does to its neighbours

`setBuildingProspectionData` is about one building, and works on entrances that may serve others. `view`
is what there is at an entrance id: the row, its links, its accesses, and the residential data, or those of
them that a predicate selects. Each part of the save changes the view at the ids it is about and at
no other; the entrances have one kind, so at each id one part decides.
-/

namespace Unitae.Territories

open MapDb

/-! ## What there is at an id -/

structure EntranceView where
  entrance : Option BuildingEntrance
  links : List (Nat × Nat)
  data : List BuildingResidentialData
  accesses : List BuildingAccess
deriving DecidableEq, Repr

/-- The view of an entrance that is gone. -/
def EntranceView.blank : EntranceView := ⟨none, [], [], []⟩

/-- The data of the entrance that are selected by `which`. -/
def MapDb.view (db : MapDb) (which : BuildingResidentialData → Bool) (id : Nat) : EntranceView where
  entrance := db.entranceById id
  links := db.links.filter (·.2 == id)
  data := (db.dataOf id).filter which
  accesses := db.accesses.filter (·.entranceId == id)

section Writes

variable {db : MapDb} {which : BuildingResidentialData → Bool} {id : Nat}

theorem view_createEntrance {e : BuildingEntrance} {owner : Nat} (hold : id < db.nextEntranceId) :
    (db.createEntrance e owner).view which id = db.view which id := by
  have hid : ¬db.nextEntranceId = id := Nat.ne_of_gt hold
  unfold view createEntrance entranceById
  simp [List.filter_append, List.find?_append, hid, dataOf]

theorem view_deleteEntrance_self : (db.deleteEntrance id).view which id = .blank := by
  unfold view deleteEntrance deleteEntrances entranceById dataOf
  simp [List.find?_filter, List.filter_filter, EntranceView.blank]

theorem view_deleteEntrance_other {gone : Nat} (hother : id ≠ gone) :
    (db.deleteEntrance gone).view which id = db.view which id := by
  have hrow : (db.deleteEntrance gone).entranceById id = db.entranceById id :=
    find?_filter_of_imp fun e _ he => by simpa [beq_iff_eq.mp he] using hother
  have hfilter : ∀ {α : Type} (key : α → Nat) (rows : List α),
      (rows.filter fun a => !(key a == gone)).filter (fun a => key a == id) =
        rows.filter fun a => key a == id := by
    intro α key rows
    rw [List.filter_filter]
    refine List.filter_congr fun a _ => ?_
    cases hkey : key a == id with
    | false => rfl
    | true =>
      rw [beq_iff_eq.mp hkey]
      simpa using hother
  have hlinks : (db.deleteEntrance gone).links.filter (·.2 == id) = db.links.filter (·.2 == id) :=
    hfilter Prod.snd db.links
  have hdata : (db.deleteEntrance gone).dataOf id = db.dataOf id :=
    hfilter BuildingResidentialData.entranceId db.residentialData
  have haccesses : (db.deleteEntrance gone).accesses.filter (·.entranceId == id) =
      db.accesses.filter (·.entranceId == id) := hfilter BuildingAccess.entranceId db.accesses
  unfold view
  rw [hrow, hlinks, hdata, haccesses]

theorem entranceById_updateEntrance {target : Nat} {f : BuildingEntrance → BuildingEntrance}
    (hf : ∀ e, (f e).id = e.id) :
    (db.updateEntrance target f).entranceById id =
      (db.entranceById id).map fun e => if e.id = target then f e else e := by
  unfold updateEntrance entranceById
  rw [List.find?_map]
  congr 2
  funext e
  rw [Function.comp_apply]
  split
  · rw [hf]
  · rfl

theorem view_updateEntrance_self {f : BuildingEntrance → BuildingEntrance}
    (hf : ∀ e, (f e).id = e.id) :
    (db.updateEntrance id f).view which id =
      { db.view which id with entrance := (db.entranceById id).map f } := by
  unfold view
  rw [entranceById_updateEntrance hf]
  have hrow : (db.entranceById id).map (fun e => if e.id = id then f e else e) =
      (db.entranceById id).map f := by
    refine Option.map_congr fun e he => if_pos ?_
    simpa using List.find?_some he
  rw [hrow]
  rfl

theorem view_updateEntrance_other {target : Nat} {f : BuildingEntrance → BuildingEntrance}
    (hf : ∀ e, (f e).id = e.id) (hother : id ≠ target) :
    (db.updateEntrance target f).view which id = db.view which id := by
  unfold view
  rw [entranceById_updateEntrance hf]
  have hrow : (db.entranceById id).map (fun e => if e.id = target then f e else e) =
      db.entranceById id := by
    refine (Option.map_congr fun e he => if_neg ?_).trans Option.map_id'
    have hid : e.id = id := by simpa using List.find?_some he
    rwa [hid]
  rw [hrow]
  rfl

end Writes

/-! ## The part for one kind -/

section Unique

variable {db : MapDb} {which : BuildingResidentialData → Bool} {buildingId id : Nat}
  {kind : EntranceKind} {shouldExist : Bool}

theorem view_syncUniqueEntrance_removed
    (hfirst : (db.idsOfKind buildingId kind).head? = some id) :
    (syncUniqueEntrance db buildingId kind false).view which id = .blank := by
  unfold idsOfKind at hfirst
  rw [List.head?_map] at hfirst
  obtain ⟨e, he, rfl⟩ := Option.map_eq_some_iff.mp hfirst
  unfold syncUniqueEntrance
  rw [he]
  exact view_deleteEntrance_self

theorem view_syncUniqueEntrance_stays (hold : id < db.nextEntranceId)
    (hstays : shouldExist = true ∨ (db.idsOfKind buildingId kind).head? ≠ some id) :
    (syncUniqueEntrance db buildingId kind shouldExist).view which id = db.view which id := by
  unfold syncUniqueEntrance
  split
  · exact view_createEntrance hold
  next existing _ hexisting =>
    refine view_deleteEntrance_other fun heq => ?_
    refine hstays.resolve_left Bool.false_ne_true ?_
    rw [idsOfKind, List.head?_map, hexisting, heq]
    rfl
  · rfl

theorem next_syncUniqueEntrance :
    db.nextEntranceId ≤ (syncUniqueEntrance db buildingId kind shouldExist).nextEntranceId := by
  unfold syncUniqueEntrance
  split
  · exact Nat.le_succ _
  · exact Nat.le_refl _
  · exact Nat.le_refl _

end Unique

/-! ## The commerces -/

section Commerces

variable {db : MapDb} {which : BuildingResidentialData → Bool} {buildingId id : Nat}
  {shopKinds notes : List String}

theorem view_syncCommerce_other {place : BuildingEntrance × Nat} (hother : id ≠ place.1.id) :
    (syncCommerce shopKinds notes db place).view which id = db.view which id := by
  unfold syncCommerce
  split
  · exact view_updateEntrance_other (fun _ => rfl) hother
  · exact view_deleteEntrance_other hother

theorem view_syncCommerce_self (place : BuildingEntrance × Nat) :
    (syncCommerce shopKinds notes db place).view which place.1.id =
      match shopKinds[place.2]? with
      | some shopKind =>
        { db.view which place.1.id with
          entrance := (db.entranceById place.1.id).map fun e =>
            { e with shopKind := shopKind, notes := (notes[place.2]?).getD "" } }
      | none => .blank := by
  unfold syncCommerce
  cases shopKinds[place.2]? with
  | none => exact view_deleteEntrance_self
  | some shopKind => exact view_updateEntrance_self fun _ => rfl

theorem view_foldl_syncCommerce_other {places : List (BuildingEntrance × Nat)}
    (hother : ∀ place ∈ places, id ≠ place.1.id) :
    (places.foldl (syncCommerce shopKinds notes) db).view which id = db.view which id := by
  induction places generalizing db with
  | nil => rfl
  | cons place places ih =>
    rw [List.foldl_cons, ih fun p hp => hother p (List.mem_cons_of_mem _ hp)]
    exact view_syncCommerce_other (hother place List.mem_cons_self)

theorem next_foldl_syncCommerce {places : List (BuildingEntrance × Nat)} :
    (places.foldl (syncCommerce shopKinds notes) db).nextEntranceId = db.nextEntranceId := by
  induction places generalizing db with
  | nil => rfl
  | cons place places ih =>
    rw [List.foldl_cons, ih]
    unfold syncCommerce
    split
    · rfl
    · rfl

/-- New commerces take new ids. -/
theorem view_foldl_createCommerce {shops : List (String × Nat)} (hold : id < db.nextEntranceId) :
    (shops.foldl (createCommerce buildingId notes) db).view which id = db.view which id ∧
      db.nextEntranceId ≤ (shops.foldl (createCommerce buildingId notes) db).nextEntranceId := by
  induction shops generalizing db with
  | nil => exact ⟨rfl, Nat.le_refl _⟩
  | cons shop shops ih =>
    have hnext : id < (createCommerce buildingId notes db shop).nextEntranceId :=
      Nat.lt_succ_of_lt hold
    obtain ⟨hview, hle⟩ := ih hnext
    exact ⟨hview.trans (view_createEntrance hold), Nat.le_of_succ_le hle⟩

theorem next_syncCommerceEntrances (hold : id < db.nextEntranceId) :
    id < (syncCommerceEntrances db buildingId shopKinds notes).nextEntranceId := by
  unfold syncCommerceEntrances
  have hold' : id < ((existingCommerces db buildingId).zipIdx.foldl (syncCommerce shopKinds notes)
      db).nextEntranceId := by rwa [next_foldl_syncCommerce]
  exact Nat.lt_of_lt_of_le hold' (@view_foldl_createCommerce _ (fun _ => true) buildingId id notes _ hold').2

theorem view_syncCommerceEntrances (hold : id < db.nextEntranceId) :
    (syncCommerceEntrances db buildingId shopKinds notes).view which id =
      ((existingCommerces db buildingId).zipIdx.foldl (syncCommerce shopKinds notes) db).view which
        id := by
  unfold syncCommerceEntrances
  refine (view_foldl_createCommerce ?_).1
  rwa [next_foldl_syncCommerce]

theorem view_syncCommerceEntrances_other (hold : id < db.nextEntranceId)
    (hother : id ∉ db.idsOfKind buildingId .commerce) :
    (syncCommerceEntrances db buildingId shopKinds notes).view which id = db.view which id := by
  rw [view_syncCommerceEntrances hold]
  refine view_foldl_syncCommerce_other fun place hplace heq => hother ?_
  have hmem : place.1 ∈ existingCommerces db buildingId := List.fst_mem_of_mem_zipIdx hplace
  rw [heq]
  exact List.mem_map.mpr ⟨place.1, List.mem_mergeSort.mp hmem, rfl⟩

/-- At its place, a commerce takes the shop of the place, or goes. -/
theorem view_syncCommerceEntrances_at (h : db.Sound) (hold : id < db.nextEntranceId) {place : Nat}
    (hplace : ((db.idsOfKind buildingId .commerce).mergeSort (· ≤ ·))[place]? = some id) :
    (syncCommerceEntrances db buildingId shopKinds notes).view which id =
      match shopKinds[place]? with
      | some shopKind =>
        { db.view which id with
          entrance := (db.entranceById id).map fun e =>
            { e with shopKind := shopKind, notes := (notes[place]?).getD "" } }
      | none => .blank := by
  rw [view_syncCommerceEntrances hold]
  rw [← existingCommerces_ids, List.getElem?_map] at hplace
  obtain ⟨e, he, rfl⟩ := Option.map_eq_some_iff.mp hplace
  have hids : ((existingCommerces db buildingId).map (·.id)).Nodup := by
    rw [existingCommerces_ids]
    exact (List.mergeSort_perm _ _).nodup_iff.mpr (nodup_idsOfKind h)
  obtain ⟨hlt, hget⟩ := List.getElem?_eq_some_iff.mp he
  obtain ⟨before, hbefore⟩ : ∃ before, before = (existingCommerces db buildingId).take place := ⟨_, rfl⟩
  obtain ⟨after, hafter⟩ : ∃ after, after = (existingCommerces db buildingId).drop (place + 1) :=
    ⟨_, rfl⟩
  have hsplit : existingCommerces db buildingId = before ++ e :: after := by
    rw [hbefore, hafter, ← hget, ← List.drop_eq_getElem_cons hlt, List.take_append_drop]
  have hlength : before.length = place := by
    rw [hbefore, List.length_take]
    omega
  -- the places before and after are of other entrances
  rw [hsplit, List.map_append, List.map_cons, List.nodup_append] at hids
  obtain ⟨_, hrest, hcross⟩ := hids
  have hothers : ∀ other ∈ before ++ after, e.id ≠ other.id := by
    intro other hmem
    rcases List.mem_append.mp hmem with hmem | hmem
    · exact (hcross _ (List.mem_map.mpr ⟨other, hmem, rfl⟩) _ List.mem_cons_self).symm
    · intro heq
      exact (List.nodup_cons.mp hrest).1 (heq ▸ List.mem_map.mpr ⟨other, hmem, rfl⟩)
  rw [hsplit, List.zipIdx_append, List.zipIdx_cons, List.foldl_append, List.foldl_cons, hlength,
    Nat.zero_add, view_foldl_syncCommerce_other fun p hp =>
      hothers p.1 (List.mem_append_right _ (List.fst_mem_of_mem_zipIdx hp))]
  have hsame : (before.zipIdx.foldl (syncCommerce shopKinds notes) db).view which e.id =
      db.view which e.id := view_foldl_syncCommerce_other fun p hp =>
    hothers p.1 (List.mem_append_left _ (List.fst_mem_of_mem_zipIdx hp))
  have hrow : (before.zipIdx.foldl (syncCommerce shopKinds notes) db).entranceById e.id =
      db.entranceById e.id := congrArg EntranceView.entrance hsame
  rw [view_syncCommerce_self (e, place), hsame, hrow]

end Commerces

/-! ## The parts after the homes -/

section Others

variable {db : MapDb} {which : BuildingResidentialData → Bool} {buildingId id : Nat}
  {input : BuildingProspectionInput} {e : BuildingEntrance} {kind : EntranceKind}

/-- A stage for one kind decides about the first entrance of that kind, and no other. -/
theorem view_stage {db' : MapDb} (hshop : kind ≠ .commerce) (hold : id < db'.nextEntranceId)
    (hids : db'.idsOfKind buildingId kind = db.idsOfKind buildingId kind) :
    (syncUniqueEntrance db' buildingId kind (input.asksFor kind)).view which id =
      if id ∈ removedOfKind db buildingId input kind then .blank else db'.view which id := by
  split
  next hremoved =>
    obtain ⟨hasks, hfirst⟩ := (mem_removedOfKind_iff hshop).mp hremoved
    rw [hasks]
    exact view_syncUniqueEntrance_removed (hids ▸ hfirst)
  next hstays =>
    refine view_syncUniqueEntrance_stays hold ?_
    rw [mem_removedOfKind_iff hshop, not_and_or, Bool.not_eq_false] at hstays
    rwa [hids]

/-- **After the homes**, a commerce is as its part leaves it, and of the other kinds what is removed is
gone and the rest as it was. -/
theorem view_setOtherKinds (h : SoundWith buildingId db) (hold : id < db.nextEntranceId)
    (hkinds : ∀ other, other ≠ .residential → id ∈ db.idsOfKind buildingId other → kind = other) :
    (setOtherKinds db buildingId input).view which id =
      if kind = .commerce then
        (syncCommerceEntrances db buildingId input.commerceShopKinds input.commerceNotes).view which id
      else if kind ≠ .residential ∧ id ∈ removedOfKind db buildingId input kind then .blank
      else db.view which id := by
  obtain ⟨shops, hshops⟩ : ∃ shops, shops = syncCommerceEntrances db buildingId
    input.commerceShopKinds input.commerceNotes := ⟨_, rfl⟩
  obtain ⟨hotels, hhotels⟩ : ∃ hotels, hotels = syncUniqueEntrance shops buildingId .hotel
    (input.asksFor .hotel) := ⟨_, rfl⟩
  obtain ⟨campuses, hcampuses⟩ : ∃ campuses, campuses = syncUniqueEntrance hotels buildingId .campus
    (input.asksFor .campus) := ⟨_, rfl⟩
  have hsoundShops : SoundWith buildingId shops := hshops ▸ sound_syncCommerceEntrances h _ _
  have hsoundHotels : SoundWith buildingId hotels := hhotels ▸ sound_syncUniqueEntrance hsoundShops _ _
  have hids : ∀ kind, kind ≠ .commerce →
      shops.idsOfKind buildingId kind = db.idsOfKind buildingId kind :=
    fun kind hkind => hshops ▸ idsOfKind_syncCommerceEntrances h _ _ hkind
  have hcampusIds : hotels.idsOfKind buildingId .campus = db.idsOfKind buildingId .campus := by
    rw [hhotels]
    exact (idsOfKind_syncUniqueEntrance hsoundShops _ (by decide)).trans (hids .campus (by decide))
  have hlaundromatIds : campuses.idsOfKind buildingId .laundromat =
      db.idsOfKind buildingId .laundromat := by
    rw [hcampuses, idsOfKind_syncUniqueEntrance hsoundHotels _ (by decide), hhotels,
      idsOfKind_syncUniqueEntrance hsoundShops _ (by decide)]
    exact hids .laundromat (by decide)
  have holdShops : id < shops.nextEntranceId := hshops ▸ next_syncCommerceEntrances hold
  have holdHotels : id < hotels.nextEntranceId :=
    Nat.lt_of_lt_of_le holdShops (hhotels ▸ next_syncUniqueEntrance)
  have holdCampuses : id < campuses.nextEntranceId :=
    Nat.lt_of_lt_of_le holdHotels (hcampuses ▸ next_syncUniqueEntrance)
  have hhotel := @view_stage db which buildingId id input .hotel shops (by decide) holdShops
    (hids .hotel (by decide))
  have hcampus := @view_stage db which buildingId id input .campus hotels (by decide) holdHotels hcampusIds
  have hlaundromat := @view_stage db which buildingId id input .laundromat campuses (by decide)
    holdCampuses hlaundromatIds
  rw [← hhotels] at hhotel
  rw [← hcampuses] at hcampus
  have hall : (setOtherKinds db buildingId input).view which id =
      (syncUniqueEntrance campuses buildingId .laundromat (input.asksFor .laundromat)).view which
        id := by
    rw [hcampuses, hhotels, hshops]
    rfl
  have hown : ∀ other, other ≠ .residential → kind ≠ other →
      id ∉ removedOfKind db buildingId input other :=
    fun other hhomes hkind hmem => hkind (hkinds other hhomes (mem_idsOfKind_of_removed hmem))
  have hshop : kind ≠ .commerce → shops.view which id = db.view which id := by
    intro hkind
    rw [hshops]
    exact view_syncCommerceEntrances_other hold fun hmem => hkind (hkinds .commerce (by decide) hmem)
  rw [hall, hlaundromat, hcampus, hhotel]
  have hnot : ∀ other, other ≠ .residential → kind ≠ other → ∀ v w : EntranceView,
      (if id ∈ removedOfKind db buildingId input other then v else w) = w :=
    fun other hhomes hkind _ _ => if_neg (hown other hhomes hkind)
  cases kind with
  | residential =>
    rw [hnot .laundromat (by decide) (by decide), hnot .campus (by decide) (by decide),
      hnot .hotel (by decide) (by decide), hshop (by decide)]
    simp
  | commerce =>
    rw [hnot .laundromat (by decide) (by decide), hnot .campus (by decide) (by decide),
      hnot .hotel (by decide) (by decide), hshops]
    simp
  | hotel =>
    rw [hnot .laundromat (by decide) (by decide), hnot .campus (by decide) (by decide), hshop (by decide)]
    simp
  | laundromat =>
    rw [hnot .campus (by decide) (by decide), hnot .hotel (by decide) (by decide), hshop (by decide)]
    simp
  | campus =>
    rw [hnot .laundromat (by decide) (by decide), hnot .hotel (by decide) (by decide), hshop (by decide)]
    simp

end Others

/-! ## The homes -/

/-- The columns of a residential entrance that the form writes. -/
def homesWrite (input : BuildingProspectionInput) (accessType : Option Int) (e : BuildingEntrance) :
    BuildingEntrance :=
  { e with
    access := accessType
    isPMR := some (checked input.pmr)
    isOpenEarly := some (checked input.doors)
    isMailboxOpen := some (checked input.mailboxes)
    notes := input.residentialNotes }

def BuildingEntrance.withFigures (e : BuildingEntrance) (figures : Figures) : BuildingEntrance :=
  { e with homes := figures.homes, phones := figures.phones, liberals := figures.liberals }

/-- `db.buildingAccess.deleteMany`, and the one row that the form gives. -/
def replaceAccesses (db : MapDb) (entranceId : Nat) (accessType : Option Int) : MapDb :=
  { db with accesses := db.accesses.filter (·.entranceId != entranceId) ++
      accessType.toList.map fun type => ⟨entranceId, type, 0⟩ }

section Homes

variable {rt : MapRuntime} {db : MapDb} {which : BuildingResidentialData → Bool} {buildingId id : Nat}
  {input : BuildingProspectionInput}

/-- The write of the homes, by its stages. -/
theorem writeResidential_eq (entranceId : Nat) :
    writeResidential rt db buildingId input entranceId =
      match rt.integerOrNull input.access with
      | none => .error db
      | some accessType =>
        match input.figures rt with
        | none => .error (db.updateEntrance entranceId (homesWrite input accessType))
        | some figures =>
          .ok ((replaceAccesses (upsertResidentialData (db.updateEntrance entranceId
            (homesWrite input accessType)) buildingId entranceId figures) entranceId
              accessType).recalculateEntranceAggregates entranceId) := rfl

/-- The building's own data are none of those selected. -/
def Passes (which : BuildingResidentialData → Bool) (buildingId : Nat) : Prop :=
  ∀ r, r.buildingId = buildingId → which r = false

theorem view_upsertResidentialData (hwhich : Passes which buildingId) {entranceId : Nat}
    {figures : Figures} :
    (upsertResidentialData db buildingId entranceId figures).view which id = db.view which id := by
  unfold upsertResidentialData
  split
  · have hrows : ∀ rows : List BuildingResidentialData, ((rows.map fun r =>
        if r.buildingId = buildingId then
          { r with homes := figures.homes, phones := figures.phones, liberals := figures.liberals }
        else r).filter (·.entranceId == id)).filter which =
          (rows.filter (·.entranceId == id)).filter which := by
      intro rows
      induction rows with
      | nil => rfl
      | cons r rows ih =>
        rw [List.map_cons, List.filter_filter, List.filter_filter, List.filter_cons, List.filter_cons,
          ← List.filter_filter, ← List.filter_filter, ih]
        by_cases hmine : r.buildingId = buildingId
        · rw [if_pos hmine, hwhich r hmine, hwhich _ (by simpa using hmine)]
          rfl
        · rw [if_neg hmine]
    unfold view updateResidentialData dataOf entranceById
    dsimp only
    rw [hrows]
  · unfold view createResidentialData dataOf entranceById
    dsimp only
    rw [List.filter_append, List.filter_append]
    have hnone : ([⟨db.nextResidentialDataId, buildingId, entranceId, figures.homes, figures.phones,
        figures.liberals⟩].filter (·.entranceId == id)).filter which = [] := by
      rw [List.filter_filter, List.filter_eq_nil_iff]
      intro r hr
      rw [List.mem_singleton.mp hr, hwhich _ rfl]
      simp
    rw [hnone, List.append_nil]

theorem view_replaceAccesses_other {entranceId : Nat} (hother : id ≠ entranceId)
    (accessType : Option Int) :
    (replaceAccesses db entranceId accessType).view which id = db.view which id := by
  have hnew : (accessType.toList.map fun type => (⟨entranceId, type, 0⟩ : BuildingAccess)).filter
      (·.entranceId == id) = [] := by
    rw [List.filter_eq_nil_iff]
    intro a ha
    obtain ⟨_, _, rfl⟩ := List.mem_map.mp ha
    simpa using hother.symm
  have hold : (db.accesses.filter (·.entranceId != entranceId)).filter (·.entranceId == id) =
      db.accesses.filter (·.entranceId == id) := by
    rw [List.filter_filter]
    refine List.filter_congr fun a _ => ?_
    cases hkey : a.entranceId == id with
    | false => rfl
    | true => simpa [beq_iff_eq.mp hkey] using hother
  unfold view replaceAccesses
  dsimp only
  rw [List.filter_append, hnew, List.append_nil, hold]
  rfl

theorem view_replaceAccesses_self (accessType : Option Int) :
    (replaceAccesses db id accessType).view which id =
      { db.view which id with accesses := accessType.toList.map fun type => ⟨id, type, 0⟩ } := by
  have hold : (db.accesses.filter (·.entranceId != id)).filter (·.entranceId == id) = [] := by
    rw [List.filter_filter, List.filter_eq_nil_iff]
    simp
  have hnew : (accessType.toList.map fun type => (⟨id, type, 0⟩ : BuildingAccess)).filter
      (·.entranceId == id) = accessType.toList.map fun type => ⟨id, type, 0⟩ := by
    rw [List.filter_eq_self]
    intro a ha
    obtain ⟨_, _, rfl⟩ := List.mem_map.mp ha
    simp
  unfold view replaceAccesses
  dsimp only
  rw [List.filter_append, hold, hnew, List.nil_append]
  rfl

theorem view_recalculate_other {entranceId : Nat} (hother : id ≠ entranceId) :
    (db.recalculateEntranceAggregates entranceId).view which id = db.view which id :=
  @view_updateEntrance_other db which id entranceId (·.withFigures (db.aggregates entranceId))
    (fun _ => rfl) hother

theorem view_recalculate_self :
    (db.recalculateEntranceAggregates id).view which id =
      { db.view which id with
        entrance := (db.entranceById id).map (·.withFigures (db.aggregates id)) } :=
  @view_updateEntrance_self db which id (·.withFigures (db.aggregates id)) fun _ => rfl

/-- Other entrances are left as they are. -/
theorem view_writeResidential_other (hwhich : Passes which buildingId) {entranceId : Nat}
    (hother : id ≠ entranceId) :
    Leaves (fun db' => db'.view which id = db.view which id)
      (writeResidential rt db buildingId input entranceId) := by
  have hfirst : ∀ accessType, (db.updateEntrance entranceId (homesWrite input accessType)).view which
      id = db.view which id := fun _ => view_updateEntrance_other (fun _ => rfl) hother
  rw [writeResidential_eq]
  split
  · exact rfl
  next accessType _ =>
    split
    · exact hfirst accessType
    next figures _ =>
      show (MapDb.recalculateEntranceAggregates _ entranceId).view which id = _
      rw [view_recalculate_other hother, view_replaceAccesses_other hother,
        view_upsertResidentialData hwhich]
      exact hfirst accessType

/-- The entrance itself takes the columns of the form, even when the figures are refused then. -/
theorem view_writeResidential_self (hwhich : Passes which buildingId) {accessType : Option Int}
    (haccess : rt.integerOrNull input.access = some accessType) :
    (input.figures rt = none ∧ ∃ db', writeResidential rt db buildingId input id = .error db' ∧
        db'.view which id =
          { db.view which id with
            entrance := (db.entranceById id).map (homesWrite input accessType) }) ∨
      (input.figures rt ≠ none ∧ ∃ db', writeResidential rt db buildingId input id = .ok db' ∧
        db'.view which id =
          { db.view which id with
            entrance := (db.entranceById id).map fun e =>
              (homesWrite input accessType e).withFigures (db'.aggregates id)
            accesses := accessType.toList.map fun type => ⟨id, type, 0⟩ }) := by
  have hfirst : (db.updateEntrance id (homesWrite input accessType)).view which id =
      { db.view which id with
        entrance := (db.entranceById id).map (homesWrite input accessType) } :=
    view_updateEntrance_self fun _ => rfl
  rw [writeResidential_eq, haccess]
  cases hfigures : input.figures rt with
  | none => exact .inl ⟨rfl, _, rfl, hfirst⟩
  | some figures =>
    refine .inr ⟨by simp, _, rfl, ?_⟩
    dsimp only
    obtain ⟨db₁, hdb₁⟩ : ∃ db₁, db₁ = upsertResidentialData (db.updateEntrance id
      (homesWrite input accessType)) buildingId id figures := ⟨_, rfl⟩
    rw [← hdb₁]
    have hview : (replaceAccesses db₁ id accessType).view which id =
        { db.view which id with
          entrance := (db.entranceById id).map (homesWrite input accessType)
          accesses := accessType.toList.map fun type => ⟨id, type, 0⟩ } := by
      rw [view_replaceAccesses_self, hdb₁, view_upsertResidentialData hwhich, hfirst]
    have hrow : (replaceAccesses db₁ id accessType).entranceById id =
        (db.entranceById id).map (homesWrite input accessType) :=
      congrArg EntranceView.entrance hview
    rw [view_recalculate_self, hview, hrow, Option.map_map]
    rfl

/-- The first residential entrance is the one that the form is about. -/
theorem view_setResidential_other (hwhich : Passes which buildingId) (hold : id < db.nextEntranceId)
    (hother : (db.idsOfKind buildingId .residential).head? ≠ some id) :
    Leaves (fun db' => db'.view which id = db.view which id)
      (setResidential rt db buildingId input) := by
  unfold setResidential
  split
  next entrance hentrance =>
    have hne : id ≠ entrance.id := by
      intro heq
      refine hother ?_
      rw [idsOfKind, List.head?_map, hentrance, heq]
      rfl
    split
    · exact view_writeResidential_other hwhich hne
    · exact view_deleteEntrance_other hne
  · split
    · have hcreated : (db.createEntrance (entranceOfKind .residential) buildingId).view which id =
          db.view which id := view_createEntrance hold
      rw [← hcreated]
      exact view_writeResidential_other hwhich (Nat.ne_of_lt hold)
    · exact rfl

theorem setResidential_first (hfirst : (db.idsOfKind buildingId .residential).head? = some id) :
    setResidential rt db buildingId input =
      if input.residential then writeResidential rt db buildingId input id
      else .ok (db.deleteEntrance id) := by
  unfold idsOfKind at hfirst
  rw [List.head?_map] at hfirst
  obtain ⟨e, he, rfl⟩ := Option.map_eq_some_iff.mp hfirst
  unfold setResidential
  rw [he]

end Homes

/-! ## Nothing is added to a neighbour -/

/-- The other buildings are there as they were, and have no link and no data that they had not. -/
structure AddsNone (buildingId : Nat) (db db' : MapDb) : Prop where
  buildings : ∀ b ∈ db.buildings, b.id ≠ buildingId → b ∈ db'.buildings
  links : ∀ link ∈ db'.links, link.1 ≠ buildingId → link ∈ db.links
  data : ∀ r ∈ db'.residentialData, r.buildingId ≠ buildingId → r ∈ db.residentialData

namespace AddsNone

variable {buildingId : Nat} {db db' db'' : MapDb}

theorem refl (db : MapDb) : AddsNone buildingId db db :=
  ⟨fun _ hb _ => hb, fun _ hlink _ => hlink, fun _ hr _ => hr⟩

theorem trans (h : AddsNone buildingId db db') (h' : AddsNone buildingId db' db'') :
    AddsNone buildingId db db'' where
  buildings b hb hother := h'.buildings b (h.buildings b hb hother) hother
  links link hlink hother := h.links link (h'.links link hlink hother) hother
  data r hr hother := h.data r (h'.data r hr hother) hother

theorem createEntrance (h : AddsNone buildingId db db') (e : BuildingEntrance) :
    AddsNone buildingId db (db'.createEntrance e buildingId) := by
  refine ⟨h.buildings, fun link hlink hother => ?_, h.data⟩
  rcases List.mem_append.mp hlink with hold | hnew
  · exact h.links link hold hother
  · rw [List.mem_singleton.mp hnew] at hother
    exact absurd rfl hother

theorem deleteEntrance (h : AddsNone buildingId db db') (id : Nat) :
    AddsNone buildingId db (db'.deleteEntrance id) :=
  ⟨h.buildings, fun link hlink => h.links link (List.mem_filter.mp hlink).1,
    fun r hr => h.data r (List.mem_filter.mp hr).1⟩

theorem updateEntrance (h : AddsNone buildingId db db') (id : Nat)
    (f : BuildingEntrance → BuildingEntrance) : AddsNone buildingId db (db'.updateEntrance id f) :=
  ⟨h.buildings, h.links, h.data⟩

theorem replaceAccesses (h : AddsNone buildingId db db') (id : Nat) (accessType : Option Int) :
    AddsNone buildingId db (replaceAccesses db' id accessType) :=
  ⟨h.buildings, h.links, h.data⟩

theorem upsertResidentialData (h : AddsNone buildingId db db') (entranceId : Nat)
    (figures : Figures) :
    AddsNone buildingId db (upsertResidentialData db' buildingId entranceId figures) := by
  unfold Territories.upsertResidentialData
  split
  · refine ⟨h.buildings, h.links, fun r hr hother => ?_⟩
    obtain ⟨r₀, hr₀, rfl⟩ := List.mem_map.mp hr
    by_cases hmine : r₀.buildingId = buildingId
    · rw [if_pos hmine] at hother
      exact absurd hmine hother
    · rw [if_neg hmine] at hother ⊢
      exact h.data r₀ hr₀ hother
  · refine ⟨h.buildings, h.links, fun r hr hother => ?_⟩
    rcases List.mem_append.mp hr with hold | hnew
    · exact h.data r hold hother
    · rw [List.mem_singleton.mp hnew] at hother
      exact absurd rfl hother

end AddsNone

section Added

variable {rt : MapRuntime} {db : MapDb} {buildingId : Nat} {input : BuildingProspectionInput}

theorem addsNone_setProspectionDate (prospectionDate : Option Instant) :
    AddsNone buildingId db (setProspectionDate db buildingId prospectionDate) := by
  refine ⟨fun b hb hother => ?_, fun _ hlink _ => hlink, fun _ hr _ => hr⟩
  exact List.mem_map.mpr ⟨b, hb, if_neg hother⟩

theorem addsNone_writeResidential {entranceId : Nat} :
    Leaves (AddsNone buildingId db) (writeResidential rt db buildingId input entranceId) := by
  rw [writeResidential_eq]
  split
  · exact AddsNone.refl db
  next accessType _ =>
    have hfirst : AddsNone buildingId db (db.updateEntrance entranceId (homesWrite input accessType)) :=
      (AddsNone.refl db).updateEntrance _ _
    split
    · exact hfirst
    next figures _ =>
      exact ((hfirst.upsertResidentialData entranceId figures).replaceAccesses entranceId
        accessType).updateEntrance entranceId _

theorem addsNone_setResidential :
    Leaves (AddsNone buildingId db) (setResidential rt db buildingId input) := by
  unfold setResidential
  split
  next entrance _ =>
    split
    · exact addsNone_writeResidential
    · exact (AddsNone.refl db).deleteEntrance entrance.id
  · split
    · have hcreated : AddsNone buildingId db
          (db.createEntrance (entranceOfKind .residential) buildingId) :=
        (AddsNone.refl db).createEntrance _
      cases hwrite : writeResidential rt (db.createEntrance (entranceOfKind .residential) buildingId)
          buildingId input db.nextEntranceId with
      | ok db' => exact hcreated.trans (addsNone_writeResidential.of_ok hwrite)
      | error db' => exact hcreated.trans (addsNone_writeResidential.of_error hwrite)
    · exact AddsNone.refl db

theorem addsNone_syncUniqueEntrance (kind : EntranceKind) (shouldExist : Bool) :
    AddsNone buildingId db (syncUniqueEntrance db buildingId kind shouldExist) := by
  unfold syncUniqueEntrance
  split
  · exact (AddsNone.refl db).createEntrance _
  · exact (AddsNone.refl db).deleteEntrance _
  · exact AddsNone.refl db

theorem addsNone_setOtherKinds : AddsNone buildingId db (setOtherKinds db buildingId input) := by
  have hshops : AddsNone buildingId db (syncCommerceEntrances db buildingId input.commerceShopKinds
      input.commerceNotes) := by
    unfold syncCommerceEntrances
    apply List.foldlRecOn (motive := AddsNone buildingId db)
    · apply List.foldlRecOn (motive := AddsNone buildingId db)
      · exact AddsNone.refl db
      · intro db' hdb' place _
        unfold syncCommerce
        split
        · exact hdb'.updateEntrance _ _
        · exact hdb'.deleteEntrance _
    · intro db' hdb' shop _
      exact hdb'.createEntrance _
  unfold setOtherKinds
  exact ((hshops.trans (addsNone_syncUniqueEntrance _ _)).trans (addsNone_syncUniqueEntrance _ _)).trans
    (addsNone_syncUniqueEntrance _ _)

end Added

/-! ## The neighbours -/

/-- The entrance serves a building other than this one. -/
def MapDb.ServesOther (db : MapDb) (buildingId id : Nat) : Prop :=
  ∃ other, other ≠ buildingId ∧ (other, id) ∈ db.links

/-- A building other than this one has its residential data at the entrance. -/
def MapDb.HoldsOther (db : MapDb) (buildingId id : Nat) : Prop :=
  ∃ r ∈ db.residentialData, r.buildingId ≠ buildingId ∧ r.entranceId = id

/-- The other buildings keep what they have: their own row, their entrances and their residential data.
Of a shared entrance the figures may change, to the sums over its data, of which only the building's own
are not those there were. -/
structure NeighboursKept (buildingId : Nat) (db db' : MapDb) : Prop where
  buildings : ∀ b ∈ db.buildings, b.id ≠ buildingId → b ∈ db'.buildings
  links : ∀ link, link.1 ≠ buildingId → (link ∈ db'.links ↔ link ∈ db.links)
  data : ∀ r, r.buildingId ≠ buildingId → (r ∈ db'.residentialData ↔ r ∈ db.residentialData)
  entrances : ∀ e ∈ db.entrances, db.ServesOther buildingId e.id →
    ∃ e' ∈ db'.entrances, e' = e.withFigures e'.figures ∧
      (e'.figures = e.figures ∨ e'.figures = db'.aggregates e.id) ∧
      db'.accesses.filter (·.entranceId == e.id) = db.accesses.filter (·.entranceId == e.id)

/-- Nothing that goes is shared, and what the form writes to a shared entrance is there already. -/
structure LeavesNeighbours (rt : MapRuntime) (db : MapDb) (buildingId : Nat)
    (input : BuildingProspectionInput) : Prop where
  removed : input.Accepted rt → ∀ id, Removed db buildingId input id →
    ¬db.ServesOther buildingId id ∧ ¬db.HoldsOther buildingId id
  homes : input.residential = true →
    ∀ accessType, rt.integerOrNull input.access = some accessType → ∀ e ∈ db.entrances,
      (db.idsOfKind buildingId .residential).head? = some e.id → db.ServesOther buildingId e.id →
        homesWrite input accessType e = e ∧
          (input.figures rt ≠ none → db.accesses.filter (·.entranceId == e.id) =
            accessType.toList.map fun type => ⟨e.id, type, 0⟩)
  shops : input.Accepted rt → ∀ e ∈ db.entrances, db.ServesOther buildingId e.id →
    ∀ (place : Nat) (shopKind : String),
      ((db.idsOfKind buildingId .commerce).mergeSort (· ≤ ·))[place]? = some e.id →
      input.commerceShopKinds[place]? = some shopKind →
        e.shopKind = shopKind ∧ e.notes = (input.commerceNotes[place]?).getD ""

/-! ## What the save does at an entrance -/

section Saved

variable {rt : MapRuntime} {db db' : MapDb} {which : BuildingResidentialData → Bool} {buildingId : Nat}
  {input : BuildingProspectionInput} {prospectionDate : Option Instant} {e : BuildingEntrance}

theorem not_accepted_of_refused (h : setResidential rt db buildingId input = .error db') :
    ¬input.Accepted rt := by
  intro haccepted
  have hresidential := residential_of_refused h
  obtain ⟨haccess, hfigures⟩ := haccepted hresidential
  obtain ⟨accessType, haccess⟩ := Option.ne_none_iff_exists'.mp haccess
  obtain ⟨figures, hfigures⟩ := Option.ne_none_iff_exists'.mp hfigures
  obtain ⟨db₁, entranceId, hwrites⟩ := @setResidential_writes rt db buildingId _ hresidential
  rw [hwrites, writeResidential_eq, haccess, hfigures] at h
  exact absurd h (by simp)

/-- A save that has a date and a building is refused at the homes, or goes through. -/
theorem saved_cases (hdate : input.date rt = some prospectionDate)
    (hbuilding : buildingId ∈ db.buildingIds) :
    (¬input.Accepted rt ∧ setResidential rt (setProspectionDate db buildingId prospectionDate)
        buildingId input = .error (setBuildingProspectionData rt db buildingId input)) ∨
      (input.Accepted rt ∧ ∃ db', setResidential rt
          (setProspectionDate db buildingId prospectionDate) buildingId input = .ok db' ∧
        setBuildingProspectionData rt db buildingId input = setOtherKinds db' buildingId input) := by
  have hfound : ¬db.buildings.all (·.id != buildingId) = true :=
    fun hall => all_building.mp hall hbuilding
  unfold setBuildingProspectionData
  rw [hdate]
  dsimp only
  rw [if_neg hfound]
  cases hset : setResidential rt (setProspectionDate db buildingId prospectionDate) buildingId
      input with
  | error db' => exact .inl ⟨not_accepted_of_refused hset, rfl⟩
  | ok db' => exact .inr ⟨accepted_of_setResidential hset, db', rfl, rfl⟩

/-- What the other kinds do at an entrance there was before the homes. -/
theorem view_after_homes (h : db.Sound) (hbuilding : buildingId ∈ db.buildingIds)
    (hset : setResidential rt (setProspectionDate db buildingId prospectionDate) buildingId input =
      .ok db') (he : e ∈ db.entrances) :
    (setOtherKinds db' buildingId input).view which e.id =
      if e.kind = .commerce then
        (syncCommerceEntrances db' buildingId input.commerceShopKinds input.commerceNotes).view which
          e.id
      else if e.kind ≠ .residential ∧ e.id ∈ removedOfKind db buildingId input e.kind then .blank
      else db'.view which e.id := by
  have hdated := sound_setProspectionDate ⟨h, hbuilding⟩ prospectionDate
  have hids : ∀ kind, kind ≠ .residential →
      db'.idsOfKind buildingId kind = db.idsOfKind buildingId kind :=
    fun kind hkind => (idsOfKind_setResidential hdated.1 hkind).of_ok hset
  have hnext : db.nextEntranceId ≤ db'.nextEntranceId :=
    ((@kept_setResidential rt _ buildingId input (fun _ => True) fun _ _ _ => trivial).of_ok hset).next
  have hold : e.id < db'.nextEntranceId :=
    Nat.lt_of_lt_of_le (h.newEntrance _ (mem_entranceIds.mpr ⟨e, he, rfl⟩)) hnext
  have hkinds : ∀ other, other ≠ .residential → e.id ∈ db'.idsOfKind buildingId other →
      e.kind = other :=
    fun other hother hmem => kind_of_mem_idsOfKind h he (hids other hother ▸ hmem)
  rw [view_setOtherKinds ((sound_setResidential hdated).of_ok hset) hold hkinds]
  by_cases hhomes : e.kind = .residential
  · simp [hhomes]
  · rw [removedOfKind_congr (hids e.kind hhomes)]

/-- The homes are not written at an entrance that is not the first residential one. -/
theorem view_homes_other (h : db.Sound) (hwhich : Passes which buildingId) (he : e ∈ db.entrances)
    (hother : (db.idsOfKind buildingId .residential).head? ≠ some e.id) :
    Leaves (fun db' => db'.view which e.id = db.view which e.id)
      (setResidential rt (setProspectionDate db buildingId prospectionDate) buildingId input) := by
  have hold : e.id < db.nextEntranceId := h.newEntrance _ (mem_entranceIds.mpr ⟨e, he, rfl⟩)
  exact @view_setResidential_other rt (setProspectionDate db buildingId prospectionDate) which buildingId
    e.id input hwhich hold hother

theorem entranceById_of_mem (h : db.Sound) (he : e ∈ db.entrances) : db.entranceById e.id = some e := by
  obtain ⟨e', he'⟩ : ∃ e', db.entranceById e.id = some e' := by
    have hsome : (db.entrances.find? (·.id == e.id)).isSome = true :=
      List.find?_isSome.mpr ⟨e, he, by simp⟩
    exact Option.isSome_iff_exists.mp hsome
  have hid : e'.id = e.id := by simpa using List.find?_some he'
  rw [he', List.inj_on_of_nodup_map h.entrances (List.mem_of_find?_eq_some he') he hid]

/-- A commerce is not the first residential entrance. -/
theorem not_first_of_kind (h : db.Sound) (he : e ∈ db.entrances) (hkind : e.kind ≠ .residential) :
    (db.idsOfKind buildingId .residential).head? ≠ some e.id :=
  fun hfirst => hkind (kind_of_mem_idsOfKind h he (List.mem_of_mem_head? hfirst))

/-- A commerce takes the shop of its place, or goes. -/
theorem view_saved_commerce (h : db.Sound) (hdate : input.date rt = some prospectionDate)
    (hbuilding : buildingId ∈ db.buildingIds) (haccepted : input.Accepted rt) (he : e ∈ db.entrances)
    (hwhich : Passes which buildingId) {place : Nat}
    (hplace : ((db.idsOfKind buildingId .commerce).mergeSort (· ≤ ·))[place]? = some e.id) :
    (setBuildingProspectionData rt db buildingId input).view which e.id =
      match input.commerceShopKinds[place]? with
      | some shopKind =>
        { db.view which e.id with
          entrance := some { e with
            shopKind := shopKind, notes := (input.commerceNotes[place]?).getD "" } }
      | none => .blank := by
  obtain ⟨hnot, _⟩ | ⟨_, db', hset, heq⟩ := @saved_cases rt db _ input _ hdate hbuilding
  · exact absurd haccepted hnot
  have hmem : e.id ∈ db.idsOfKind buildingId .commerce :=
    List.mem_mergeSort.mp (List.mem_of_getElem? hplace)
  have hkind : e.kind = .commerce := kind_of_mem_idsOfKind h he hmem
  have hdated := sound_setProspectionDate ⟨h, hbuilding⟩ prospectionDate
  have hids : db'.idsOfKind buildingId .commerce = db.idsOfKind buildingId .commerce :=
    (idsOfKind_setResidential hdated.1 (by decide)).of_ok hset
  have hsound := (sound_setResidential hdated).of_ok hset
  have hold : e.id < db'.nextEntranceId := by
    obtain ⟨e', he', _, _, hid⟩ := mem_idsOfKind.mp (hids ▸ hmem)
    rw [← hid]
    exact hsound.1.newEntrance _ (mem_entranceIds.mpr ⟨e', he', rfl⟩)
  have hsame : db'.view which e.id = db.view which e.id :=
    (view_homes_other h hwhich he (not_first_of_kind h he (by rw [hkind]; decide))).of_ok hset
  have hrow : db'.entranceById e.id = some e :=
    (congrArg EntranceView.entrance hsame).trans (entranceById_of_mem h he)
  rw [heq, view_after_homes h hbuilding hset he, if_pos hkind,
    view_syncCommerceEntrances_at hsound.1 hold (hids.symm ▸ hplace), hrow, hsame]
  rfl

/-- Where an entrance goes, nothing is left. -/
theorem view_saved_removed (h : db.Sound) (hdate : input.date rt = some prospectionDate)
    (hbuilding : buildingId ∈ db.buildingIds) (haccepted : input.Accepted rt) (he : e ∈ db.entrances)
    (hwhich : Passes which buildingId) (hremoved : Removed db buildingId input e.id) :
    (setBuildingProspectionData rt db buildingId input).view which e.id = .blank := by
  rw [removed_iff_own h he] at hremoved
  by_cases hshop : e.kind = .commerce
  · rw [hshop] at hremoved
    -- one commerce too many: it has a place, and no shop for it
    obtain ⟨n, hget⟩ := List.mem_iff_getElem?.mp hremoved
    have hplace := hget
    rw [removedOfKind, List.getElem?_drop] at hplace
    rw [view_saved_commerce h hdate hbuilding haccepted he hwhich hplace,
      List.getElem?_eq_none (Nat.le_add_right _ _)]
  obtain ⟨hnot, _⟩ | ⟨_, db', hset, heq⟩ := @saved_cases rt db _ input _ hdate hbuilding
  · exact absurd haccepted hnot
  rw [heq, view_after_homes h hbuilding hset he, if_neg hshop]
  by_cases hhomes : e.kind = .residential
  · rw [if_neg (by simp [hhomes])]
    rw [hhomes] at hremoved
    obtain ⟨hasks, hfirst⟩ := (mem_removedOfKind_iff (by decide)).mp hremoved
    have hdeleted := @setResidential_first rt (setProspectionDate db buildingId prospectionDate)
      buildingId e.id input hfirst
    rw [if_neg (by simpa [BuildingProspectionInput.asksFor] using hasks)] at hdeleted
    rw [hdeleted] at hset
    rw [← Except.ok.inj hset]
    exact view_deleteEntrance_self
  · rw [if_pos ⟨hhomes, hremoved⟩]

/-- The first residential entrance takes the form, and the sums over its data if the figures are read. -/
theorem view_saved_homes (h : db.Sound) (hdate : input.date rt = some prospectionDate)
    (hbuilding : buildingId ∈ db.buildingIds) (he : e ∈ db.entrances)
    (hwhich : Passes which buildingId) (hresidential : input.residential = true)
    {accessType : Option Int} (haccess : rt.integerOrNull input.access = some accessType)
    (hfirst : (db.idsOfKind buildingId .residential).head? = some e.id) :
    (input.figures rt = none ∧ (setBuildingProspectionData rt db buildingId input).view which e.id =
        { db.view which e.id with entrance := some (homesWrite input accessType e) }) ∨
      (input.figures rt ≠ none ∧ (setBuildingProspectionData rt db buildingId input).view which e.id =
        { db.view which e.id with
          entrance := some ((homesWrite input accessType e).withFigures
            ((setBuildingProspectionData rt db buildingId input).aggregates e.id))
          accesses := accessType.toList.map fun type => ⟨e.id, type, 0⟩ }) := by
  have hkind : e.kind = .residential :=
    kind_of_mem_idsOfKind h he (List.mem_of_mem_head? hfirst)
  have hwrites := @setResidential_first rt (setProspectionDate db buildingId prospectionDate)
    buildingId e.id input hfirst
  rw [if_pos hresidential] at hwrites
  have hself := @view_writeResidential_self rt (setProspectionDate db buildingId prospectionDate) which
    buildingId e.id input hwhich accessType haccess
  have hrow : (setProspectionDate db buildingId prospectionDate).entranceById e.id = some e := by
    rw [← entranceById_of_mem h he]
    rfl
  rw [hrow] at hself
  obtain ⟨hrefused, heq⟩ | ⟨haccepted, written, hset, heq⟩ :=
    @saved_cases rt db _ input _ hdate hbuilding
  · obtain ⟨hfigures, db', hwrite, hview⟩ | ⟨hfigures, db', hwrite, _⟩ := hself
    · rw [hwrites, hwrite] at heq
      rw [← Except.error.inj heq]
      exact .inl ⟨hfigures, hview⟩
    · exact absurd (fun _ => ⟨by simp [haccess], hfigures⟩) hrefused
  · obtain ⟨hfigures, _⟩ | ⟨hfigures, db', hwrite, hview⟩ := hself
    · exact absurd hfigures (haccepted hresidential).2
    have hsame : db' = written := Except.ok.inj (hwrite.symm.trans (hwrites.symm.trans hset))
    subst hsame
    have hrest : ∀ which, (setOtherKinds db' buildingId input).view which e.id =
        db'.view which e.id := by
      intro which
      rw [view_after_homes h hbuilding hset he, hkind]
      simp
    -- the other kinds leave all the data there, so the sums stay those just taken
    have hdata : (setOtherKinds db' buildingId input).dataOf e.id = db'.dataOf e.id := by
      have hall := congrArg EntranceView.data (hrest fun _ => true)
      simpa [view] using hall
    rw [heq, hrest, hview, aggregates_congr hdata]
    exact .inr ⟨hfigures, rfl⟩

/-- Everywhere else, all is as it was. -/
theorem view_saved_rest (h : db.Sound) (hdate : input.date rt = some prospectionDate)
    (hbuilding : buildingId ∈ db.buildingIds) (he : e ∈ db.entrances)
    (hwhich : Passes which buildingId)
    (hstays : ¬(input.Accepted rt ∧ Removed db buildingId input e.id))
    (hhomes : ¬(input.residential = true ∧ rt.integerOrNull input.access ≠ none ∧
      (db.idsOfKind buildingId .residential).head? = some e.id))
    (hshops : ¬(input.Accepted rt ∧ e.id ∈ db.idsOfKind buildingId .commerce)) :
    (setBuildingProspectionData rt db buildingId input).view which e.id = db.view which e.id := by
  obtain ⟨hrefused, heq⟩ | ⟨haccepted, db', hset, heq⟩ := @saved_cases rt db _ input _ hdate hbuilding
  · by_cases hfirst : (db.idsOfKind buildingId .residential).head? = some e.id
    · have hwrites := @setResidential_first rt (setProspectionDate db buildingId prospectionDate)
        buildingId e.id input hfirst
      have hresidential := residential_of_refused heq
      have haccess : rt.integerOrNull input.access = none := by
        by_contra hsome
        exact hhomes ⟨hresidential, hsome, hfirst⟩
      rw [if_pos hresidential, writeResidential_eq, haccess, heq] at hwrites
      rw [Except.error.inj hwrites]
      rfl
    · exact (view_homes_other h hwhich he hfirst).of_error heq
  · have hown : e.id ∉ removedOfKind db buildingId input e.kind :=
      fun hmem => hstays ⟨haccepted, e.kind, hmem⟩
    have hfirst : (db.idsOfKind buildingId .residential).head? ≠ some e.id := by
      intro hfirst
      cases hresidential : input.residential with
      | true => exact hhomes ⟨hresidential, (haccepted hresidential).1, hfirst⟩
      | false =>
        exact hstays ⟨haccepted, .residential, (mem_removedOfKind_iff (by decide)).mpr
          ⟨hresidential, hfirst⟩⟩
    have hsame : db'.view which e.id = db.view which e.id :=
      (view_homes_other h hwhich he hfirst).of_ok hset
    have hdated := sound_setProspectionDate ⟨h, hbuilding⟩ prospectionDate
    have hids : db'.idsOfKind buildingId .commerce = db.idsOfKind buildingId .commerce :=
      (idsOfKind_setResidential hdated.1 (by decide)).of_ok hset
    have hold : e.id < db'.nextEntranceId := by
      have hkept := (@kept_setResidential rt (setProspectionDate db buildingId prospectionDate) buildingId
        input (fun _ => True) fun _ _ _ => trivial).of_ok hset
      exact Nat.lt_of_lt_of_le (h.newEntrance _ (mem_entranceIds.mpr ⟨e, he, rfl⟩)) hkept.next
    rw [heq, view_after_homes h hbuilding hset he]
    split
    · rw [view_syncCommerceEntrances_other hold fun hmem => hshops ⟨haccepted, hids ▸ hmem⟩]
      exact hsame
    · rw [if_neg fun hgone => hown hgone.2]
      exact hsame

/-- A commerce that does not go has a shop at its place. -/
theorem shop_of_stays (hcommerce : e.id ∈ db.idsOfKind buildingId .commerce)
    (hstays : ¬Removed db buildingId input e.id) :
    ∃ (place : Nat) (shopKind : String),
      ((db.idsOfKind buildingId .commerce).mergeSort (· ≤ ·))[place]? = some e.id ∧
        input.commerceShopKinds[place]? = some shopKind := by
  obtain ⟨place, hplace⟩ := List.mem_iff_getElem?.mp (List.mem_mergeSort.mpr hcommerce)
  cases hshop : input.commerceShopKinds[place]? with
  | some shopKind => exact ⟨place, shopKind, hplace, hshop⟩
  | none =>
    refine absurd ⟨.commerce, ?_⟩ hstays
    have hlong : input.commerceShopKinds.length ≤ place := List.getElem?_eq_none_iff.mp hshop
    refine List.mem_iff_getElem?.mpr ⟨place - input.commerceShopKinds.length, ?_⟩
    rw [removedOfKind, List.getElem?_drop, Nat.add_sub_cancel' hlong]
    exact hplace

/-- An entrance that does not go keeps its links, and the data that are not the building's own. -/
theorem view_saved_stays (h : db.Sound) (hdate : input.date rt = some prospectionDate)
    (hbuilding : buildingId ∈ db.buildingIds) (he : e ∈ db.entrances)
    (hwhich : Passes which buildingId)
    (hstays : ¬(input.Accepted rt ∧ Removed db buildingId input e.id)) :
    ((setBuildingProspectionData rt db buildingId input).view which e.id).links =
        (db.view which e.id).links ∧
      ((setBuildingProspectionData rt db buildingId input).view which e.id).data =
        (db.view which e.id).data := by
  by_cases hhomes : input.residential = true ∧ rt.integerOrNull input.access ≠ none ∧
      (db.idsOfKind buildingId .residential).head? = some e.id
  · obtain ⟨hresidential, haccess, hfirst⟩ := hhomes
    obtain ⟨accessType, haccess⟩ := Option.ne_none_iff_exists'.mp haccess
    obtain ⟨_, hview⟩ | ⟨_, hview⟩ :=
      view_saved_homes h hdate hbuilding he hwhich hresidential haccess hfirst
    · rw [hview]
      exact ⟨rfl, rfl⟩
    · rw [hview]
      exact ⟨rfl, rfl⟩
  by_cases hshops : input.Accepted rt ∧ e.id ∈ db.idsOfKind buildingId .commerce
  · obtain ⟨haccepted, hcommerce⟩ := hshops
    obtain ⟨place, shopKind, hplace, hshop⟩ :=
      shop_of_stays hcommerce fun hremoved => hstays ⟨haccepted, hremoved⟩
    rw [view_saved_commerce h hdate hbuilding haccepted he hwhich hplace, hshop]
    exact ⟨rfl, rfl⟩
  · rw [view_saved_rest h hdate hbuilding he hwhich hstays hhomes hshops]
    exact ⟨rfl, rfl⟩

end Saved

/-! ## When the neighbours are kept -/

namespace BuildingEntrance

variable {e e' : BuildingEntrance}

theorem withFigures_figures : e.withFigures e.figures = e := rfl

theorem eq_of_withFigures {figures figures' : Figures} (hfigures : e.figures = e'.figures)
    (h : e.withFigures figures = e'.withFigures figures') : e = e' := by
  rw [← e.withFigures_figures, ← e'.withFigures_figures, ← hfigures]
  exact congrArg (·.withFigures e.figures) h

end BuildingEntrance

section Neighbours

variable {rt : MapRuntime} {db : MapDb} {buildingId : Nat} {input : BuildingProspectionInput}
  {prospectionDate : Option Instant} {e : BuildingEntrance}

/-- The data of the other buildings. -/
theorem passes_ne : Passes (fun r => r.buildingId != buildingId) buildingId := by
  intro r hr
  simp [hr]

theorem NeighboursKept.refl (db : MapDb) : NeighboursKept buildingId db db :=
  ⟨fun _ hb _ => hb, fun _ _ => Iff.rfl, fun _ _ => Iff.rfl, fun e he _ => ⟨e, he, rfl, .inl rfl, rfl⟩⟩

theorem addsNone_setBuildingProspectionData (h : db.Sound) :
    AddsNone buildingId db (setBuildingProspectionData rt db buildingId input) := by
  obtain hsame | ⟨prospectionDate, _, _, hset⟩ := setBuildingProspectionData_cases h
  · rw [hsame]
    exact AddsNone.refl db
  have hdated : AddsNone buildingId db (setProspectionDate db buildingId prospectionDate) :=
    addsNone_setProspectionDate prospectionDate
  obtain ⟨db', hrefused, heq⟩ | ⟨db', hwritten, heq⟩ := hset
  · rw [heq]
    exact hdated.trans (addsNone_setResidential.of_error hrefused)
  · rw [heq]
    exact (hdated.trans (addsNone_setResidential.of_ok hwritten)).trans addsNone_setOtherKinds

/-- The entrance that is there afterwards, for one that is shared. -/
theorem entrance_of_kept (h : db.Sound)
    (hkept : NeighboursKept buildingId db (setBuildingProspectionData rt db buildingId input))
    (he : e ∈ db.entrances) (hshared : db.ServesOther buildingId e.id) :
    ∃ figures, (setBuildingProspectionData rt db buildingId input).entranceById e.id =
      some (e.withFigures figures) := by
  obtain ⟨e', he', hsame, _⟩ := hkept.entrances e he hshared
  have hid : e'.id = e.id := by
    rw [hsame]
    rfl
  refine ⟨e'.figures, ?_⟩
  rw [← hid, entranceById_of_mem (sound_setBuildingProspectionData h) he', ← hsame]

theorem leaves_of_kept (h : db.Sound) (hdate : input.date rt = some prospectionDate)
    (hbuilding : buildingId ∈ db.buildingIds)
    (hkept : NeighboursKept buildingId db (setBuildingProspectionData rt db buildingId input)) :
    LeavesNeighbours rt db buildingId input := by
  constructor
  case removed =>
    intro haccepted id hremoved
    obtain ⟨kind, hkind⟩ := hremoved
    obtain ⟨e, he, _, _, rfl⟩ := mem_idsOfKind.mp (mem_idsOfKind_of_removed hkind)
    have hview := view_saved_removed h hdate hbuilding haccepted he (@passes_ne buildingId) ⟨kind, hkind⟩
    constructor
    · intro hshared
      obtain ⟨other, hother, hlink⟩ := hshared
      have hstill := (hkept.links _ hother).mpr hlink
      have hmem : (other, e.id) ∈ ((setBuildingProspectionData rt db buildingId input).view
          (fun r => r.buildingId != buildingId) e.id).links := List.mem_filter.mpr ⟨hstill, by simp⟩
      rw [hview] at hmem
      exact List.not_mem_nil hmem
    · intro hheld
      obtain ⟨r, hr, hother, hat⟩ := hheld
      have hstill := (hkept.data _ hother).mpr hr
      have hmem : r ∈ ((setBuildingProspectionData rt db buildingId input).view
          (fun r => r.buildingId != buildingId) e.id).data :=
        List.mem_filter.mpr ⟨List.mem_filter.mpr ⟨hstill, by simp [hat]⟩, by simpa using hother⟩
      rw [hview] at hmem
      exact List.not_mem_nil hmem
  case homes =>
    intro hresidential accessType haccess e he hfirst hshared
    obtain ⟨figures, hrow⟩ := entrance_of_kept h hkept he hshared
    obtain ⟨e', _, _, _, haccesses⟩ := hkept.entrances e he hshared
    obtain ⟨hnone, hview⟩ | ⟨_, hview⟩ :=
      view_saved_homes h hdate hbuilding he (@passes_ne buildingId) hresidential haccess hfirst
    · have hwritten : (setBuildingProspectionData rt db buildingId input).entranceById e.id =
          some (homesWrite input accessType e) := congrArg EntranceView.entrance hview
      have hboth := Option.some.inj (hwritten.symm.trans hrow)
      rw [← (homesWrite input accessType e).withFigures_figures] at hboth
      exact ⟨BuildingEntrance.eq_of_withFigures rfl hboth, fun hsome => absurd hnone hsome⟩
    · have hwritten := congrArg EntranceView.entrance hview
      have hboth := Option.some.inj (hwritten.symm.trans hrow)
      refine ⟨BuildingEntrance.eq_of_withFigures rfl hboth, fun _ => ?_⟩
      rw [← haccesses]
      exact congrArg EntranceView.accesses hview
  case shops =>
    intro haccepted e he hshared place shopKind hplace hshop
    obtain ⟨figures, hrow⟩ := entrance_of_kept h hkept he hshared
    have hview := view_saved_commerce h hdate hbuilding haccepted he (@passes_ne buildingId) hplace
    rw [hshop] at hview
    have hboth := Option.some.inj ((congrArg EntranceView.entrance hview).symm.trans hrow)
    exact ⟨(congrArg BuildingEntrance.shopKind hboth).symm, (congrArg BuildingEntrance.notes hboth).symm⟩

theorem kept_of_leaves (h : db.Sound) (hdate : input.date rt = some prospectionDate)
    (hbuilding : buildingId ∈ db.buildingIds) (hleaves : LeavesNeighbours rt db buildingId input) :
    NeighboursKept buildingId db (setBuildingProspectionData rt db buildingId input) := by
  have hadds : AddsNone buildingId db (setBuildingProspectionData rt db buildingId input) :=
    addsNone_setBuildingProspectionData h
  constructor
  case buildings => exact hadds.buildings
  case links =>
    intro link hother
    refine ⟨fun hlink => hadds.links link hlink hother, fun hlink => ?_⟩
    obtain ⟨e, he, hid⟩ := mem_entranceIds.mp (h.links link hlink).2
    have hshared : db.ServesOther buildingId e.id := ⟨link.1, hother, hid ▸ hlink⟩
    have hview := (view_saved_stays h hdate hbuilding he (@passes_ne buildingId)
      fun hgone => (hleaves.removed hgone.1 e.id hgone.2).1 hshared).1
    have hmem : link ∈ (db.view (fun r => r.buildingId != buildingId) e.id).links :=
      List.mem_filter.mpr ⟨hlink, by simp [hid]⟩
    rw [← hview] at hmem
    exact (List.mem_filter.mp hmem).1
  case data =>
    intro r hother
    refine ⟨fun hr => hadds.data r hr hother, fun hr => ?_⟩
    obtain ⟨e, he, hid⟩ := mem_entranceIds.mp (h.residentialData r hr).2
    have hheld : db.HoldsOther buildingId e.id := ⟨r, hr, hother, hid.symm⟩
    have hview := (view_saved_stays h hdate hbuilding he (@passes_ne buildingId)
      fun hgone => (hleaves.removed hgone.1 e.id hgone.2).2 hheld).2
    have hmem : r ∈ (db.view (fun r => r.buildingId != buildingId) e.id).data :=
      List.mem_filter.mpr ⟨List.mem_filter.mpr ⟨hr, by simp [hid]⟩, by simpa using hother⟩
    rw [← hview] at hmem
    exact (List.mem_filter.mp (List.mem_filter.mp hmem).1).1
  case entrances =>
    intro e he hshared
    have hstays : ¬(input.Accepted rt ∧ Removed db buildingId input e.id) :=
      fun hgone => (hleaves.removed hgone.1 e.id hgone.2).1 hshared
    by_cases hhomes : input.residential = true ∧ rt.integerOrNull input.access ≠ none ∧
        (db.idsOfKind buildingId .residential).head? = some e.id
    · obtain ⟨hresidential, haccess, hfirst⟩ := hhomes
      obtain ⟨accessType, haccess⟩ := Option.ne_none_iff_exists'.mp haccess
      obtain ⟨hsame, hrows⟩ := hleaves.homes hresidential accessType haccess e he hfirst hshared
      obtain ⟨_, hview⟩ | ⟨hfigures, hview⟩ :=
        view_saved_homes h hdate hbuilding he (@passes_ne buildingId) hresidential haccess hfirst
      · rw [hsame] at hview
        have hrow := congrArg EntranceView.entrance hview
        exact ⟨e, List.mem_of_find?_eq_some hrow, rfl, .inl rfl, congrArg EntranceView.accesses hview⟩
      · rw [hsame] at hview
        have hrow := congrArg EntranceView.entrance hview
        refine ⟨_, List.mem_of_find?_eq_some hrow, rfl, .inr rfl, ?_⟩
        exact (congrArg EntranceView.accesses hview).trans (hrows hfigures).symm
    by_cases hshops : input.Accepted rt ∧ e.id ∈ db.idsOfKind buildingId .commerce
    · obtain ⟨haccepted, hcommerce⟩ := hshops
      obtain ⟨place, shopKind, hplace, hshop⟩ :=
        shop_of_stays hcommerce fun hremoved => hstays ⟨haccepted, hremoved⟩
      obtain ⟨hkind, hnotes⟩ := hleaves.shops haccepted e he hshared place shopKind hplace hshop
      have hview := view_saved_commerce h hdate hbuilding haccepted he (@passes_ne buildingId) hplace
      rw [hshop, ← hkind, ← hnotes] at hview
      have hrow := congrArg EntranceView.entrance hview
      exact ⟨e, List.mem_of_find?_eq_some hrow, rfl, .inl rfl, congrArg EntranceView.accesses hview⟩
    · have hview := view_saved_rest h hdate hbuilding he (@passes_ne buildingId) hstays hhomes hshops
      have hrow := (congrArg EntranceView.entrance hview).trans (entranceById_of_mem h he)
      exact ⟨e, List.mem_of_find?_eq_some hrow, rfl, .inl rfl, congrArg EntranceView.accesses hview⟩

/-- **Neighbours are kept** exactly when nothing that the form deletes is theirs too, and what it writes
to an entrance of theirs is there already. -/
theorem setBuildingProspectionData_keeps_neighbours_iff (h : db.Sound) :
    NeighboursKept buildingId db (setBuildingProspectionData rt db buildingId input) ↔
      input.date rt = none ∨ buildingId ∉ db.buildingIds ∨ LeavesNeighbours rt db buildingId input := by
  by_cases hbuilding : buildingId ∈ db.buildingIds
  · cases hdate : input.date rt with
    | none =>
      have hsame : setBuildingProspectionData rt db buildingId input = db := by
        unfold setBuildingProspectionData
        rw [hdate]
      rw [hsame]
      exact iff_of_true (NeighboursKept.refl db) (.inl rfl)
    | some prospectionDate =>
      have hacts : (some prospectionDate = none ∨ buildingId ∉ db.buildingIds ∨
          LeavesNeighbours rt db buildingId input) ↔ LeavesNeighbours rt db buildingId input := by
        simp [hbuilding]
      rw [hacts]
      exact ⟨leaves_of_kept h hdate hbuilding, kept_of_leaves h hdate hbuilding⟩
  · have hsame : setBuildingProspectionData rt db buildingId input = db := by
      unfold setBuildingProspectionData
      split
      · rfl
      · rw [if_pos (all_building.mpr hbuilding)]
    rw [hsame]
    exact iff_of_true (NeighboursKept.refl db) (.inr (.inl hbuilding))

/-! ### A shared entrance -/

/-- A house with five homes, and a second that comes to share its entrance. -/
def sharedHomesRun : List MapOp :=
  [.createBuilding none ⟨"1", "Rue A", "69001"⟩ ⟨some 45, some 4⟩,
   .createBuilding none ⟨"2", "Rue A", "69001"⟩ ⟨some 45, some 5⟩,
   .setBuildingProspectionData 1 { blankForm with hasResidential := "on", homes := "5" },
   .updateBuildingsInEntrance 1 [1, 2]]

def sharedHomes : MapDb := sharedHomesRun.foldl (MapDb.step plainMapRuntime) MapDb.empty

theorem sound_sharedHomes : sharedHomes.Sound := by
  unfold sharedHomes
  apply List.foldlRecOn (motive := MapDb.Sound)
  · exact MapDb.sound_empty
  · exact fun db h op _ => h.step op

def threeHomes : BuildingProspectionInput := { blankForm with hasResidential := "on", homes := "3" }

/-- The second house tells of its own homes. -/
theorem own_homes_keep_neighbours :
    NeighboursKept 2 sharedHomes
      (setBuildingProspectionData plainMapRuntime sharedHomes 2 threeHomes) := by
  refine (setBuildingProspectionData_keeps_neighbours_iff sound_sharedHomes).mpr (.inr (.inr ?_))
  constructor
  case removed =>
    intro _ id hremoved
    obtain ⟨kind, hid⟩ := hremoved
    have hnone : removedOfKind sharedHomes 2 threeHomes kind = [] := by cases kind <;> decide +kernel
    rw [hnone] at hid
    exact absurd hid List.not_mem_nil
  case homes =>
    intro _ accessType haccess e he hfirst _
    cases Option.some.inj (haccess.symm.trans (show _ = some none by decide))
    have hthere : ∀ e ∈ sharedHomes.entrances,
        (sharedHomes.idsOfKind 2 .residential).head? = some e.id → homesWrite threeHomes none e = e ∧
          sharedHomes.accesses.filter (·.entranceId == e.id) = [] := by decide +kernel
    obtain ⟨hsame, hrows⟩ := hthere e he hfirst
    exact ⟨hsame, fun _ => hrows⟩
  case shops =>
    intro _ e _ _ place shopKind hplace
    have hnone : (sharedHomes.idsOfKind 2 .commerce).mergeSort (· ≤ ·) = [] := by decide +kernel
    rw [hnone] at hplace
    exact absurd hplace (by simp)

/-- The second house is said to have no homes: the entrance goes, and with it the five homes of the first
house. -/
theorem unticked_homes_take_neighbours :
    ∃ db, Reach (MapDb.step plainMapRuntime) (fun _ _ => True) MapDb.empty db ∧
      ¬NeighboursKept 2 db (setBuildingProspectionData plainMapRuntime db 2 blankForm) := by
  refine ⟨sharedHomes, Reach.foldl (by decide), fun hkept => ?_⟩
  have hrow := (hkept.data ⟨1, 1, 1, some 5, none, none⟩ (by decide)).mpr (by decide +kernel)
  revert hrow
  decide +kernel

end Neighbours

end Unitae.Territories
