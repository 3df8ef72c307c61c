import Unitae.Settings.Restore

/-!
# Unitae — what a restored congregation means

Into an empty congregation, every archived attribution comes back as one row, on its publisher and its territory,
in the regular layer and not paused; every event whose author was imported comes back as a draft.
Two territories of one number come back as one. `restored_means_iff` says for which congregations the
rows mean what they meant all the same.
-/

namespace Unitae.Settings

open Territories Events

variable {rt : DateText} {idMap idMap' m m' : EntityIdMap} {db s s' : RestoreDb}

/-! ## Territories: one for each number -/

/-- What the turns so far leave: numbers and ids told apart, and a territory for each record. -/
structure TerritoriesMapped (idMap : EntityIdMap) (db : RestoreDb) (done : List TerritoryRecord)
    (m : EntityIdMap) (s : RestoreDb) : Prop where
  other : ∀ entity, entity ≠ .territories → ∀ oldId, m.find entity oldId = idMap.find entity oldId
  frame : s = { db with territories := s.territories, nextTerritoryId := s.nextTerritoryId }
  ids : Keyed TerritoryRow.id s.territories
  ids_lt : ∀ t ∈ s.territories, t.id < s.nextTerritoryId
  numbers : Keyed TerritoryRow.number s.territories
  found : ∀ r ∈ done, ∃ t ∈ s.territories, t.number = r.number ∧
    m.find .territories r.id = some t.id

theorem TerritoriesMapped.turn {done : List TerritoryRecord} {record : TerritoryRecord}
    (h : TerritoriesMapped idMap db done m s) (hnew : record.id ∉ done.map (·.id))
    (hturn : (importTerritory m record).exec s = (.ok m', s')) :
    TerritoriesMapped idMap db (done ++ [record]) m' s' := by
  have hne : ∀ r ∈ done, record.id ≠ r.id :=
    fun r hr hsame => hnew (hsame ▸ List.mem_map.mpr ⟨r, hr, rfl⟩)
  -- an entry for the record leaves those before it
  have hset : ∀ newId, ∀ r ∈ done,
      (m.set .territories record.id newId).find .territories r.id = m.find .territories r.id := by
    intro newId r hr
    rw [EntityIdMap.find_set, if_neg fun hsame => hne r hr hsame.2]
  have hother : ∀ newId entity, entity ≠ EntityFile.territories → ∀ oldId,
      (m.set .territories record.id newId).find entity oldId = idMap.find entity oldId := by
    intro newId entity hentity oldId
    rw [EntityIdMap.find_set_of_ne fun heq => hentity heq.symm]
    exact h.other entity hentity oldId
  unfold importTerritory at hturn
  rw [Tx.exec_bind_get] at hturn
  cases hfound : s.territories.find? (·.number == record.number) with
  | some existing =>
    rw [hfound] at hturn
    dsimp only at hturn
    rw [Tx.exec_bind_modify] at hturn
    obtain ⟨rfl, rfl⟩ := Tx.exec_pure_ok.mp hturn
    have hmem : existing ∈ s.territories := List.mem_of_find?_eq_some hfound
    have hnumber : existing.number = record.number := by simpa using List.find?_some hfound
    have hkept : ∀ t : TerritoryRow, (if t.id = existing.id then record.refresh t else t).id = t.id ∧
        (if t.id = existing.id then record.refresh t else t).number = t.number := by
      intro t
      split <;> exact ⟨rfl, rfl⟩
    refine ⟨hother _, ?_, h.ids.map fun t => (hkept t).1, ?_, h.numbers.map fun t => (hkept t).2, ?_⟩
    · rw [h.frame]
    · intro t ht
      obtain ⟨t₀, ht₀, rfl⟩ := List.mem_map.mp ht
      rw [(hkept t₀).1]
      exact h.ids_lt t₀ ht₀
    · intro r hr
      rcases List.mem_append.mp hr with hold | hlast
      · obtain ⟨t, ht, hsame, hfind⟩ := h.found r hold
        refine ⟨_, List.mem_map.mpr ⟨t, ht, rfl⟩, (hkept t).2.trans hsame, ?_⟩
        rw [hset _ r hold, (hkept t).1]
        exact hfind
      · rw [List.mem_singleton.mp hlast]
        refine ⟨_, List.mem_map.mpr ⟨existing, hmem, rfl⟩, (hkept existing).2.trans hnumber, ?_⟩
        rw [EntityIdMap.find_set_self, (hkept existing).1]
  | none =>
    rw [hfound] at hturn
    dsimp only at hturn
    rw [Tx.exec_bind_modify] at hturn
    obtain ⟨rfl, rfl⟩ := Tx.exec_pure_ok.mp hturn
    have hfree : ∀ t ∈ s.territories, t.number ≠ record.number := by
      intro t ht hsame
      exact List.find?_eq_none.mp hfound t ht (beq_iff_eq.mpr hsame)
    refine ⟨hother _, ?_, h.ids.append_next h.ids_lt rfl, lt_append_next h.ids_lt rfl,
      h.numbers.append_one hfree, ?_⟩
    · rw [h.frame]
      rfl
    · intro r hr
      rcases List.mem_append.mp hr with hold | hlast
      · obtain ⟨t, ht, hsame, hfind⟩ := h.found r hold
        exact ⟨t, List.mem_append_left _ ht, hsame, (hset _ r hold).trans hfind⟩
      · rw [List.mem_singleton.mp hlast]
        exact ⟨_, List.mem_append_right _ (List.mem_singleton_self _), rfl,
          EntityIdMap.find_set_self _ _ _ _⟩

theorem importTerritories_ok {records : List TerritoryRecord} (hempty : db.territories = [])
    (hids : Keyed TerritoryRecord.id records)
    (h : (importTerritories records idMap).exec db = (.ok m, s)) :
    TerritoriesMapped idMap db records m s := by
  refine Tx.foldlM_done h ⟨fun _ _ _ => rfl, rfl, ?_, ?_, ?_, ?_⟩
    fun done record rest hrecords m s m' s' hmapped hturn =>
      hmapped.turn (hids.not_mem_before hrecords) hturn
  · rw [hempty]
    exact Keyed.nil
  · rw [hempty]
    exact fun t ht => absurd ht List.not_mem_nil
  · rw [hempty]
    exact Keyed.nil
  · exact fun r hr => absurd hr List.not_mem_nil

/-- Two records come back as one territory when their numbers are the same. -/
theorem TerritoriesMapped.find_eq_iff {records : List TerritoryRecord}
    (h : TerritoriesMapped idMap db records m s) {a b : TerritoryRecord} (ha : a ∈ records)
    (hb : b ∈ records) :
    m.find .territories a.id = m.find .territories b.id ↔ a.number = b.number := by
  obtain ⟨t, ht, hnumber, hfind⟩ := h.found a ha
  obtain ⟨t', ht', hnumber', hfind'⟩ := h.found b hb
  rw [hfind, hfind', Option.some.injEq, ← hnumber, ← hnumber']
  constructor
  · intro hid
    rw [h.ids.eq_of_key ht ht' hid]
  · intro hsame
    rw [h.numbers.eq_of_key ht ht' hsame]

/-! ## Attributions: one for each, in the regular layer -/

/-- The row that an attribution comes back as. -/
def Attribution.restored (a : Attribution) (publisherId territoryId id : Nat) : Attribution :=
  { a with
    id := id
    publisherId := publisherId
    territoryId := territoryId
    campaignId := none
    pausedAt := none
    pausedByCampaignId := none }

theorem attributionRow_record (hrt : rt.RoundTrips) (a : Attribution) (publisherId territoryId : Nat) :
    (Attribution.record rt a).row rt publisherId territoryId =
      .ok (Attribution.restored a publisherId territoryId) := by
  unfold AttributionRecord.row Attribution.record
  rw [newDate_toISOString hrt, newDate_toISOString hrt, dateOrNull_toISOString hrt]
  rfl

/-- The new row of an attribution, in the state and the map that the loop leaves. -/
structure CameBack (idMap m : EntityIdMap) (a a' : Attribution) : Prop where
  publisher : idMap.find .members a.publisherId = some a'.publisherId
  territory : idMap.find .territories a.territoryId = some a'.territoryId
  row : a' = Attribution.restored a a'.publisherId a'.territoryId a'.id
  mapped : m.find .attributions a.id = some a'.id

structure AttributionsCopied (idMap : EntityIdMap) (db : RestoreDb) (done : List Attribution)
    (m : EntityIdMap) (s : RestoreDb) : Prop where
  numbers : Numbers .attributions (done.map fun a => (a.id : Int)) idMap m db.nextAttributionId
    s.nextAttributionId
  frame : s = { db with attributions := s.attributions, nextAttributionId := s.nextAttributionId }
  ids : Keyed Attribution.id s.attributions
  ids_lt : ∀ a ∈ s.attributions, a.id < s.nextAttributionId
  forward : ∀ a ∈ done, ∃ a' ∈ s.attributions, CameBack idMap m a a'
  backward : ∀ a' ∈ s.attributions, ∃ a ∈ done, CameBack idMap m a a'

/-- The turn of an attribution whose publisher and territory were imported. -/
theorem importAttribution_ok (hrt : rt.RoundTrips) {a : Attribution} {publisherId territoryId : Nat}
    (hpublisher : m.find .members a.publisherId = some publisherId)
    (hterritory : m.find .territories a.territoryId = some territoryId)
    (h : (importAttribution rt m (Attribution.record rt a)).exec s = (.ok m', s')) :
    m' = m.set .attributions a.id s.nextAttributionId ∧
      s' = s.createAttribution (Attribution.restored a publisherId territoryId) := by
  have hgetPublisher : m.getOptional .members (some (Attribution.record rt a).publisherId) =
      some publisherId := hpublisher
  have hgetTerritory : m.getOptional .territories (some (Attribution.record rt a).territoryId) =
      some territoryId := hterritory
  unfold importAttribution at h
  rw [hgetPublisher, hgetTerritory] at h
  dsimp only at h
  rw [Tx.exec_bind_check_ok] at h
  obtain ⟨row, hrow, h⟩ := h
  rw [attributionRow_record hrt, Except.ok.injEq] at hrow
  rw [Tx.exec_bind_get, Tx.exec_bind_check_ok] at h
  obtain ⟨_, _, h⟩ := h
  rw [Tx.exec_bind_modify] at h
  obtain ⟨hm, hs⟩ := Tx.exec_pure_ok.mp h
  exact ⟨hm.symm, by rw [hs, ← hrow]⟩

theorem AttributionsCopied.turn (hrt : rt.RoundTrips) {done : List Attribution} {a : Attribution}
    {publisherId territoryId : Nat} (h : AttributionsCopied idMap db done m s)
    (hnew : (a.id : Int) ∉ done.map fun a => (a.id : Int))
    (hpublisher : idMap.find .members a.publisherId = some publisherId)
    (hterritory : idMap.find .territories a.territoryId = some territoryId)
    (hturn : (importAttribution rt m (Attribution.record rt a)).exec s = (.ok m', s')) :
    AttributionsCopied idMap db (done ++ [a]) m' s' := by
  have hpublisher' : m.find .members a.publisherId = some publisherId :=
    (h.numbers.other _ (by decide) _).trans hpublisher
  have hterritory' : m.find .territories a.territoryId = some territoryId :=
    (h.numbers.other _ (by decide) _).trans hterritory
  obtain ⟨rfl, rfl⟩ := importAttribution_ok hrt hpublisher' hterritory' hturn
  have hback : CameBack idMap (m.set .attributions a.id s.nextAttributionId) a
      (Attribution.restored a publisherId territoryId s.nextAttributionId) :=
    ⟨hpublisher, hterritory, rfl, EntityIdMap.find_set_self _ _ _ _⟩
  -- the rows made before keep their entries
  have hkept : ∀ b ∈ done, ∀ b', CameBack idMap m b b' →
      CameBack idMap (m.set .attributions a.id s.nextAttributionId) b b' := by
    intro b hb b' hb'
    refine ⟨hb'.publisher, hb'.territory, hb'.row, ?_⟩
    rw [EntityIdMap.find_set, if_neg]
    · exact hb'.mapped
    · exact fun hsame => hnew (hsame.2 ▸ List.mem_map.mpr ⟨b, hb, rfl⟩)
  refine ⟨?_, ?_, h.ids.append_next h.ids_lt rfl, lt_append_next h.ids_lt rfl, ?_, ?_⟩
  · rw [List.map_append, List.map_cons, List.map_nil]
    exact h.numbers.set hnew
  · rw [h.frame]
    rfl
  · intro b hb
    rcases List.mem_append.mp hb with hold | hlast
    · obtain ⟨b', hb', hcame⟩ := h.forward b hold
      exact ⟨b', List.mem_append_left _ hb', hkept b hold b' hcame⟩
    · rw [List.mem_singleton.mp hlast]
      exact ⟨_, List.mem_append_right _ (List.mem_singleton_self _), hback⟩
  · intro b' hb'
    rcases List.mem_append.mp hb' with hold | hlast
    · obtain ⟨b, hb, hcame⟩ := h.backward b' hold
      exact ⟨b, List.mem_append_left _ hb, hkept b hb b' hcame⟩
    · rw [List.mem_singleton.mp hlast]
      exact ⟨a, List.mem_append_right _ (List.mem_singleton_self _), hback⟩

theorem importAttributions_ok (hrt : rt.RoundTrips) {rows : List Attribution}
    (hempty : db.attributions = []) (hids : Keyed Attribution.id rows)
    (hlanes : ∀ a ∈ rows, ∃ publisherId territoryId,
      idMap.find .members a.publisherId = some publisherId ∧
        idMap.find .territories a.territoryId = some territoryId)
    (h : (importAttributions rt (rows.map (Attribution.record rt)) idMap).exec db = (.ok m, s)) :
    AttributionsCopied idMap db rows m s := by
  have hkeyed : Keyed (fun a : Attribution => (a.id : Int)) rows := by
    refine List.Nodup.of_map (fun i : Int => i.toNat) ?_
    rw [List.map_map]
    exact hids
  unfold importAttributions at h
  rw [List.foldlM_map] at h
  refine Tx.foldlM_done h ⟨Numbers.nil _ _ _, rfl, ?_, ?_, ?_, ?_⟩
    fun done a rest hrows m s m' s' hcopied hturn => ?_
  · rw [hempty]
    exact Keyed.nil
  · rw [hempty]
    exact fun a ha => absurd ha List.not_mem_nil
  · exact fun a ha => absurd ha List.not_mem_nil
  · rw [hempty]
    exact fun a ha => absurd ha List.not_mem_nil
  · have hmem : a ∈ rows := by
      rw [hrows]
      exact List.mem_append_right _ List.mem_cons_self
    obtain ⟨publisherId, territoryId, hpublisher, hterritory⟩ := hlanes a hmem
    exact hcopied.turn hrt (hkeyed.not_mem_before hrows) hpublisher hterritory hturn

/-! ## Events: drafts -/

theorem importEventTemplate_ok {record : TemplateRecord}
    (h : (importEventTemplate m record).exec s = (.ok m', s')) :
    (∃ newId, m' = m.set .programmeTemplates record.id newId) ∧
      s' = { s with templates := s'.templates, nextTemplateId := s'.nextTemplateId } := by
  unfold importEventTemplate at h
  rw [Tx.exec_bind_get] at h
  cases hfound : s.templates.find? (·.key == record.key) with
  | some existing =>
    rw [hfound] at h
    dsimp only at h
    rw [Tx.exec_bind_modify] at h
    obtain ⟨rfl, rfl⟩ := Tx.exec_pure_ok.mp h
    exact ⟨⟨_, rfl⟩, rfl⟩
  | none =>
    rw [hfound] at h
    dsimp only at h
    rw [Tx.exec_bind_modify] at h
    obtain ⟨rfl, rfl⟩ := Tx.exec_pure_ok.mp h
    exact ⟨⟨_, rfl⟩, rfl⟩

theorem importEventTemplates_ok {records : List TemplateRecord}
    (h : (importEventTemplates records idMap).exec db = (.ok m, s)) :
    (∀ entity, entity ≠ .programmeTemplates → ∀ oldId,
      m.find entity oldId = idMap.find entity oldId) ∧
      s = { db with templates := s.templates, nextTemplateId := s.nextTemplateId } := by
  refine Tx.foldlM_done (I := fun _ m s => (∀ entity, entity ≠ EntityFile.programmeTemplates →
      ∀ oldId, m.find entity oldId = idMap.find entity oldId) ∧
    s = { db with templates := s.templates, nextTemplateId := s.nextTemplateId }) h
    ⟨fun _ _ _ => rfl, rfl⟩ fun done record rest _ m s m' s' hdone hturn => ?_
  obtain ⟨hother, hframe⟩ := hdone
  obtain ⟨⟨newId, rfl⟩, hstep⟩ := importEventTemplate_ok hturn
  refine ⟨fun entity hentity oldId => ?_, ?_⟩
  · rw [EntityIdMap.find_set_of_ne fun heq => hentity heq.symm]
    exact hother entity hentity oldId
  · rw [hstep, hframe]

/-- What the turns so far leave: a draft for each event whose author the map has. -/
structure EventsCopied (idMap : EntityIdMap) (db : RestoreDb) (done : List Event) (m : EntityIdMap)
    (s : RestoreDb) : Prop where
  other : ∀ entity, entity ≠ .events → ∀ oldId, m.find entity oldId = idMap.find entity oldId
  frame : s = { db with events := s.events, nextEventId := s.nextEventId }
  ids : Keyed Event.id s.events
  ids_lt : ∀ e ∈ s.events, e.id < s.nextEventId
  made : ∀ e ∈ done, (idMap.find .userAccounts e.createdById).isSome →
    ∃ e' ∈ s.events, m.find .events e.id = some e'.id ∧ e'.status = .draft
  skipped : ∀ e ∈ done, idMap.find .userAccounts e.createdById = none →
    m.find .events e.id = none
  missing : ∀ oldId, oldId ∉ done.map (fun e => (e.id : Int)) → m.find .events oldId = none

theorem EventsCopied.skip {done : List Event} {e : Event} (h : EventsCopied idMap db done m s)
    (hnew : (e.id : Int) ∉ done.map fun e => (e.id : Int))
    (hauthor : idMap.find .userAccounts e.createdById = none) :
    EventsCopied idMap db (done ++ [e]) m s := by
  refine ⟨h.other, h.frame, h.ids, h.ids_lt, fun b hb hsome => ?_, fun b hb hnone => ?_, ?_⟩
  · rcases List.mem_append.mp hb with hold | hlast
    · exact h.made b hold hsome
    · rw [List.mem_singleton.mp hlast, hauthor] at hsome
      cases hsome
  · rcases List.mem_append.mp hb with hold | hlast
    · exact h.skipped b hold hnone
    · rw [List.mem_singleton.mp hlast]
      exact h.missing _ hnew
  · intro oldId hold
    refine h.missing oldId fun hmem => hold ?_
    rw [List.map_append]
    exact List.mem_append_left _ hmem

theorem EventsCopied.add {done : List Event} {e : Event} {row : Nat → Event}
    (h : EventsCopied idMap db done m s) (hnew : (e.id : Int) ∉ done.map fun e => (e.id : Int))
    (hauthor : (idMap.find .userAccounts e.createdById).isSome) (hid : ∀ n, (row n).id = n)
    (hstatus : ∀ n, (row n).status = .draft) :
    EventsCopied idMap db (done ++ [e]) (m.set .events e.id s.nextEventId) (s.createEvent row) := by
  have hset : ∀ oldId : Int, oldId ≠ e.id →
      (m.set .events e.id s.nextEventId).find .events oldId = m.find .events oldId := by
    intro oldId hne
    rw [EntityIdMap.find_set, if_neg fun hsame => hne hsame.2.symm]
  have hne : ∀ b ∈ done, (b.id : Int) ≠ e.id :=
    fun b hb hsame => hnew (hsame ▸ List.mem_map.mpr ⟨b, hb, rfl⟩)
  refine ⟨fun entity hentity oldId => ?_, ?_, h.ids.append_next h.ids_lt (hid _), lt_append_next h.ids_lt (hid _),
    fun b hb hsome => ?_, fun b hb hnone => ?_, fun oldId hold => ?_⟩
  · rw [EntityIdMap.find_set_of_ne fun heq => hentity heq.symm]
    exact h.other entity hentity oldId
  · rw [h.frame]
    rfl
  · rcases List.mem_append.mp hb with hold | hlast
    · obtain ⟨e', he', hfind, hdraft⟩ := h.made b hold hsome
      exact ⟨e', List.mem_append_left _ he', (hset _ (hne b hold)).trans hfind, hdraft⟩
    · rw [List.mem_singleton.mp hlast]
      refine ⟨_, List.mem_append_right _ (List.mem_singleton_self _), ?_, hstatus _⟩
      rw [EntityIdMap.find_set_self, hid]
  · rcases List.mem_append.mp hb with hold | hlast
    · rw [hset _ (hne b hold)]
      exact h.skipped b hold hnone
    · rw [List.mem_singleton.mp hlast] at hnone
      rw [hnone] at hauthor
      cases hauthor
  · have hboth : oldId ∉ done.map (fun e => (e.id : Int)) ∧ oldId ≠ e.id := by simpa using hold
    rw [hset oldId hboth.2]
    exact h.missing oldId hboth.1

theorem EventsCopied.turn {done : List Event} {e : Event} (h : EventsCopied idMap db done m s)
    (hnew : (e.id : Int) ∉ done.map fun e => (e.id : Int))
    (hturn : (importEvent rt m (Event.record rt e)).exec s = (.ok m', s')) :
    EventsCopied idMap db (done ++ [e]) m' s' := by
  have hget : m.getOptional .userAccounts (some (Event.record rt e).createdById) =
      idMap.find .userAccounts e.createdById := h.other _ (by decide) _
  unfold importEvent at hturn
  rw [hget] at hturn
  cases hauthor : idMap.find .userAccounts e.createdById with
  | none =>
    rw [hauthor] at hturn
    obtain ⟨rfl, rfl⟩ := Tx.exec_pure_ok.mp hturn
    exact h.skip hnew hauthor
  | some createdById =>
    rw [hauthor] at hturn
    dsimp only at hturn
    rw [Tx.exec_bind_check_ok] at hturn
    obtain ⟨row, hrow, hturn⟩ := hturn
    rw [Tx.exec_bind_get, Tx.exec_bind_check_ok] at hturn
    obtain ⟨_, _, hturn⟩ := hturn
    rw [Tx.exec_bind_modify] at hturn
    obtain ⟨rfl, rfl⟩ := Tx.exec_pure_ok.mp hturn
    have hdefaults : (∀ n, (row n).id = n) ∧ ∀ n, (row n).status = .draft := by
      unfold EventRecord.row at hrow
      obtain ⟨startDate, _, hrow⟩ := Tx.bind_eq_ok.mp hrow
      obtain ⟨endDate, _, hrow⟩ := Tx.bind_eq_ok.mp hrow
      rw [← Except.ok.inj hrow]
      exact ⟨fun _ => rfl, fun _ => rfl⟩
    exact h.add hnew (by rw [hauthor]; rfl) hdefaults.1 hdefaults.2

theorem importEvents_ok {rows : List Event} (hempty : db.events = []) (hids : Keyed Event.id rows)
    (hnone : ∀ oldId, idMap.find .events oldId = none)
    (h : (importEvents rt (rows.map (Event.record rt)) idMap).exec db = (.ok m, s)) :
    EventsCopied idMap db rows m s := by
  have hkeyed : Keyed (fun e : Event => (e.id : Int)) rows := by
    refine List.Nodup.of_map (fun i : Int => i.toNat) ?_
    rw [List.map_map]
    exact hids
  unfold importEvents at h
  rw [List.foldlM_map] at h
  refine Tx.foldlM_done h ⟨fun _ _ _ => rfl, rfl, ?_, ?_, ?_, ?_, fun oldId _ => hnone oldId⟩
    fun done e rest hrows m s m' s' hcopied hturn =>
      hcopied.turn (hkeyed.not_mem_before hrows) hturn
  · rw [hempty]
    exact Keyed.nil
  · rw [hempty]
    exact fun e he => absurd he List.not_mem_nil
  · exact fun e he => absurd he List.not_mem_nil
  · exact fun e he => absurd he List.not_mem_nil

/-! ## The congregation that was archived, and the one it is restored into -/

/-- What the keys of the source promise: ids told apart, and references that lead to a row. -/
structure RestoreDb.Sound (db : RestoreDb) : Prop where
  members : Keyed Publishers.Member.id db.members
  accounts : Keyed Roles.UserAccount.id db.accounts
  territories : Keyed TerritoryRow.id db.territories
  attributions : Keyed Attribution.id db.attributions
  events : Keyed Event.id db.events
  publishers : ∀ a ∈ db.attributions, a.publisherId ∈ db.members.map (·.id)
  worked : ∀ a ∈ db.attributions, a.territoryId ∈ db.territories.map (·.id)
  authors : ∀ e ∈ db.events, e.createdById ∈ db.accounts.map (·.id)

/-- Without members, territories, attributions and events. Its accounts hold emails that no other
congregation's accounts hold. -/
structure RestoreDb.Empty (db : RestoreDb) : Prop where
  members : db.members = []
  territories : db.territories = []
  attributions : db.attributions = []
  events : db.events = []
  own : db.people.EmailsOwn

/-- Open, in the regular layer and not paused. -/
def Attribution.OpenWork (a : Attribution) : Prop :=
  a.endDate = none ∧ a.campaignId = none ∧ a.pausedAt = none

/-- Two attributions are open regular work on one territory. -/
def Attribution.Competes (a b : Attribution) : Prop :=
  a.id ≠ b.id ∧ a.territoryId = b.territoryId ∧ Attribution.OpenWork a ∧ Attribution.OpenWork b

/-- It was paused, or belonged to a campaign. -/
def Attribution.Suspended (a : Attribution) : Prop := a.pausedAt.isSome ∨ a.campaignId.isSome

/-- **What the restored rows are asked to mean.** No two attributions of a lane overlap, none that was
paused or a campaign's competes, and events have the status they had. -/
structure MeansTheSame (source : RestoreDb) (idMap : EntityIdMap) (target : RestoreDb) : Prop where
  apart : Apart Attribution.id Attribution.lane Attribution.span target.attributions
  quiet : ∀ a ∈ source.attributions, Attribution.Suspended a → ∀ a' ∈ target.attributions,
    idMap.find .attributions a.id = some a'.id →
      ∀ b' ∈ target.attributions, ¬Attribution.Competes a' b'
  status : ∀ e ∈ source.events, ∃ e' ∈ target.events,
    idMap.find .events e.id = some e'.id ∧ e'.status = e.status

/-- Two territories of the source have one number. -/
def RestoreDb.SameNumber (db : RestoreDb) (x y : Nat) : Prop :=
  ∃ t ∈ db.territories, ∃ t' ∈ db.territories, t.id = x ∧ t'.id = y ∧ t.number = t'.number

/-- What the archive has no column for is not needed: no attributions of a publisher and a number overlap
from different layers, nothing open beside open work is suspended, and nothing is released. -/
structure Portable (source target : RestoreDb) : Prop where
  lanes : ∀ a ∈ source.attributions, ∀ b ∈ source.attributions, a.id ≠ b.id → a.lane ≠ b.lane →
    a.publisherId = b.publisherId → source.SameNumber a.territoryId b.territoryId →
      ¬a.span.Overlaps b.span
  layers : ∀ a ∈ source.attributions, ∀ b ∈ source.attributions, a.id ≠ b.id →
    Attribution.Suspended a → a.endDate = none → b.endDate = none →
      ¬source.SameNumber a.territoryId b.territoryId
  drafts : ∀ e ∈ source.events, e.status = .draft
  authors : ∀ e ∈ source.events, ∀ account ∈ source.accounts, account.id = e.createdById →
    account.email ∉ target.people.otherEmails

/-! ## The import as a whole -/

/-- What an import leaves that completes: the rows, and what the map has of each kind. -/
structure Imported (source target : RestoreDb) (idMap : EntityIdMap) (target' : RestoreDb) :
    Prop where
  publisher : ∀ x y : Nat, x ∈ source.members.map (·.id) → y ∈ source.members.map (·.id) →
    idMap.find .members x = idMap.find .members y → x = y
  territory : ∀ x ∈ source.territories, ∀ y ∈ source.territories,
    idMap.find .territories x.id = idMap.find .territories y.id ↔ x.number = y.number
  attributions : Keyed Attribution.id target'.attributions
  injective : ∀ a ∈ source.attributions, ∀ b ∈ source.attributions,
    idMap.find .attributions a.id = idMap.find .attributions b.id → a.id = b.id
  forward : ∀ a ∈ source.attributions, ∃ a' ∈ target'.attributions, CameBack idMap idMap a a'
  backward : ∀ a' ∈ target'.attributions, ∃ a ∈ source.attributions, CameBack idMap idMap a a'
  events : Keyed Event.id target'.events
  author : ∀ account ∈ source.accounts,
    (idMap.find .userAccounts account.id).isSome ↔ account.email ∉ target.people.otherEmails
  made : ∀ e ∈ source.events, (idMap.find .userAccounts e.createdById).isSome →
    ∃ e' ∈ target'.events, idMap.find .events e.id = some e'.id ∧ e'.status = .draft
  skipped : ∀ e ∈ source.events, idMap.find .userAccounts e.createdById = none →
    idMap.find .events e.id = none

/-- A map that agrees on everything an attribution's row was made with. -/
theorem CameBack.congr {a a' : Attribution} (h : CameBack idMap m a a')
    (hmembers : ∀ x, m'.find .members x = idMap.find .members x)
    (hterritories : ∀ x, m'.find .territories x = idMap.find .territories x)
    (hattributions : ∀ x, m'.find .attributions x = m.find .attributions x) :
    CameBack m' m' a a' :=
  ⟨(hmembers _).trans h.publisher, (hterritories _).trans h.territory, h.row,
    (hattributions _).trans h.mapped⟩

/-- Ids as the archive has them are told apart as they were. -/
theorem keyed_record {α β : Type} {rows : List α} {id : α → Nat} {record : α → β} {recordId : β → Int}
    (hid : ∀ a, recordId (record a) = id a) (h : Keyed id rows) :
    Keyed recordId (rows.map record) := by
  refine List.Nodup.of_map (fun i : Int => i.toNat) ?_
  rw [List.map_map, List.map_map]
  have hsame : ((fun i : Int => i.toNat) ∘ recordId) ∘ record = id := by
    funext a
    show (recordId (record a)).toNat = id a
    rw [hid]
    rfl
  rw [hsame]
  exact h

theorem exported_member {source : RestoreDb} {x : Nat} (hx : x ∈ source.members.map (·.id)) :
    (x : Int) ∈ (exportCongregation rt source).members.map (·.id) := by
  obtain ⟨p, hp, rfl⟩ := List.mem_map.mp hx
  exact List.mem_map.mpr ⟨_, List.mem_map.mpr ⟨p, hp, rfl⟩, rfl⟩

/-- The import completes with a map under which every row stands for the one it was taken from. -/
theorem importCongregation_imported {source target target' : RestoreDb} {seesAll : Bool}
    (hrt : rt.RoundTrips) (hsource : source.Sound) (htarget : target.Empty)
    (h : (importCongregation rt seesAll (exportCongregation rt source)).exec target =
      (.ok idMap, target')) :
    Imported source target idMap target' := by
  unfold importCongregation at h
  obtain ⟨m₁, s₁, hmembers, h⟩ := Tx.exec_bind_ok.mp h
  obtain ⟨m₂, s₂, haccounts, h⟩ := Tx.exec_bind_ok.mp h
  obtain ⟨m₃, s₃, hterritories, h⟩ := Tx.exec_bind_ok.mp h
  obtain ⟨m₄, s₄, hattributions, h⟩ := Tx.exec_bind_ok.mp h
  obtain ⟨m₅, s₅, htemplates, hevents⟩ := Tx.exec_bind_ok.mp h
  obtain ⟨p₁, hpeople, rfl⟩ := Tx.exec_on_ok.mp hmembers
  obtain ⟨d₁, hdirectory, rfl⟩ := Tx.exec_on_ok.mp hpeople
  obtain ⟨p₂, hlogins, rfl⟩ := Tx.exec_on_ok.mp haccounts
  -- what each step leaves
  obtain ⟨hnumbered, hsameAccounts⟩ :=
    importMembers_ok hdirectory (keyed_record (fun _ => rfl) hsource.members)
  have hown : PeopleDb.EmailsOwn { target.people with directory := d₁ } := by
    intro a ha
    exact htarget.own a (hsameAccounts ▸ ha)
  have hmapped := importUserAccounts_ok hown (keyed_record (fun _ => rfl) hsource.accounts)
    (fun oldId => hnumbered.other _ (by decide) oldId) hlogins
  have hplaces := importTerritories_ok (by exact htarget.territories)
    (keyed_record (fun _ => rfl) hsource.territories) hterritories
  have hnoAttributions : s₃.attributions = [] := by
    rw [hplaces.frame]
    exact htarget.attributions
  have hmember₃ : ∀ x, m₃.find .members x = m₁.find .members x := fun x =>
    (hplaces.other _ (by decide) x).trans (hmapped.other _ (by decide) x)
  have hlanes : ∀ a ∈ source.attributions, ∃ publisherId territoryId,
      m₃.find .members a.publisherId = some publisherId ∧
        m₃.find .territories a.territoryId = some territoryId := by
    intro a ha
    obtain ⟨t, ht, htid⟩ := List.mem_map.mp (hsource.worked a ha)
    obtain ⟨publisherId, hfound, -, -⟩ :=
      hnumbered.found _ (exported_member (hsource.publishers a ha))
    obtain ⟨row, -, -, hrow⟩ := hplaces.found _ (List.mem_map.mpr ⟨t, ht, rfl⟩)
    exact ⟨publisherId, row.id, (hmember₃ _).trans hfound, htid ▸ hrow⟩
  have hcopied := importAttributions_ok hrt hnoAttributions hsource.attributions hlanes hattributions
  obtain ⟨hother₅, hframe₅⟩ := importEventTemplates_ok htemplates
  have hnoEvents : s₅.events = [] := by
    rw [hframe₅, hcopied.frame, hplaces.frame]
    exact htarget.events
  have hnone : ∀ oldId, m₅.find .events oldId = none := by
    intro oldId
    rw [hother₅ _ (by decide), hcopied.numbers.other _ (by decide), hplaces.other _ (by decide),
      hmapped.other _ (by decide), hnumbered.other _ (by decide)]
    rfl
  have hmade := importEvents_ok hnoEvents hsource.events hnone hevents
  -- the map at the end, kind by kind
  have hmember : ∀ x, idMap.find .members x = m₃.find .members x := fun x =>
    (hmade.other _ (by decide) x).trans <| (hother₅ _ (by decide) x).trans <|
      hcopied.numbers.other _ (by decide) x
  have hterritory : ∀ x, idMap.find .territories x = m₃.find .territories x := fun x =>
    (hmade.other _ (by decide) x).trans <| (hother₅ _ (by decide) x).trans <|
      hcopied.numbers.other _ (by decide) x
  have hattribution : ∀ x, idMap.find .attributions x = m₄.find .attributions x := fun x =>
    (hmade.other _ (by decide) x).trans (hother₅ _ (by decide) x)
  have haccount₅ : ∀ x, m₅.find .userAccounts x = m₂.find .userAccounts x := fun x =>
    (hother₅ _ (by decide) x).trans <| (hcopied.numbers.other _ (by decide) x).trans <|
      hplaces.other _ (by decide) x
  have haccount : ∀ x, idMap.find .userAccounts x = m₅.find .userAccounts x :=
    hmade.other _ (by decide)
  have hrows : target'.attributions = s₄.attributions := by
    rw [hmade.frame, hframe₅]
  refine
    { publisher := ?_, territory := ?_, attributions := ?_, injective := ?_, forward := ?_
      backward := ?_, events := hmade.ids, author := ?_, made := ?_, skipped := ?_ }
  · intro x y hx hy hsame
    rw [hmember, hmember, hmember₃, hmember₃] at hsame
    have hint := hnumbered.injective _ (exported_member hx) _ (exported_member hy) hsame
    exact Int.ofNat.inj hint
  · intro x hx y hy
    rw [hterritory, hterritory]
    exact hplaces.find_eq_iff (List.mem_map.mpr ⟨x, hx, rfl⟩) (List.mem_map.mpr ⟨y, hy, rfl⟩)
  · rw [hrows]
    exact hcopied.ids
  · intro a ha b hb hsame
    rw [hattribution, hattribution] at hsame
    have hint := hcopied.numbers.injective _ (List.mem_map.mpr ⟨a, ha, rfl⟩) _
      (List.mem_map.mpr ⟨b, hb, rfl⟩) hsame
    exact Int.ofNat.inj hint
  · intro a ha
    obtain ⟨a', ha', hback⟩ := hcopied.forward a ha
    exact ⟨a', hrows ▸ ha', hback.congr hmember hterritory hattribution⟩
  · intro a' ha'
    obtain ⟨a, ha, hback⟩ := hcopied.backward a' (hrows ▸ ha')
    exact ⟨a, ha, hback.congr hmember hterritory hattribution⟩
  · intro account haccount'
    rw [haccount, haccount₅]
    exact hmapped.mapped _ (List.mem_map.mpr ⟨account, haccount', rfl⟩)
  · intro e he hauthor
    rw [haccount] at hauthor
    exact hmade.made e he hauthor
  · intro e he hauthor
    rw [haccount] at hauthor
    exact hmade.skipped e he hauthor

/-! ## When the meaning survives -/

namespace Imported

variable {source target target' : RestoreDb} {a b a' b' : Attribution}

theorem publisher_iff (h : Imported source target idMap target') (hsource : source.Sound)
    (ha : a ∈ source.attributions) (hb : b ∈ source.attributions) (hback : CameBack idMap idMap a a')
    (hback' : CameBack idMap idMap b b') :
    a'.publisherId = b'.publisherId ↔ a.publisherId = b.publisherId := by
  constructor
  · intro hsame
    refine h.publisher _ _ (hsource.publishers a ha) (hsource.publishers b hb) ?_
    rw [hback.publisher, hback'.publisher, hsame]
  · intro hsame
    have hfound := hback.publisher
    rw [hsame, hback'.publisher] at hfound
    exact (Option.some.inj hfound).symm

/-- Two attributions come back on one territory when theirs had one number. -/
theorem territory_iff (h : Imported source target idMap target') (hsource : source.Sound)
    (ha : a ∈ source.attributions) (hb : b ∈ source.attributions) (hback : CameBack idMap idMap a a')
    (hback' : CameBack idMap idMap b b') :
    a'.territoryId = b'.territoryId ↔ source.SameNumber a.territoryId b.territoryId := by
  constructor
  · intro hsame
    obtain ⟨t, ht, htid⟩ := List.mem_map.mp (hsource.worked a ha)
    obtain ⟨t', ht', htid'⟩ := List.mem_map.mp (hsource.worked b hb)
    refine ⟨t, ht, t', ht', htid, htid', (h.territory t ht t' ht').mp ?_⟩
    rw [htid, htid', hback.territory, hback'.territory, hsame]
  · intro ⟨t, ht, t', ht', htid, htid', hnumber⟩
    have hfound := (h.territory t ht t' ht').mpr hnumber
    rw [htid, htid', hback.territory, hback'.territory] at hfound
    exact Option.some.inj hfound

theorem id_iff (h : Imported source target idMap target') (ha : a ∈ source.attributions)
    (hb : b ∈ source.attributions) (hback : CameBack idMap idMap a a')
    (hback' : CameBack idMap idMap b b') : a'.id = b'.id ↔ a.id = b.id := by
  constructor
  · intro hsame
    refine h.injective a ha b hb ?_
    rw [hback.mapped, hback'.mapped, hsame]
  · intro hsame
    have hfound := hback.mapped
    rw [hsame, hback'.mapped] at hfound
    exact (Option.some.inj hfound).symm

/-- In one layer, so that a lane is a publisher and a territory. -/
theorem lane_iff (h : Imported source target idMap target') (hsource : source.Sound)
    (ha : a ∈ source.attributions) (hb : b ∈ source.attributions) (hback : CameBack idMap idMap a a')
    (hback' : CameBack idMap idMap b b') :
    a'.lane = b'.lane ↔
      a.publisherId = b.publisherId ∧ source.SameNumber a.territoryId b.territoryId := by
  have hregular : a'.campaignId = b'.campaignId := by
    rw [hback.row, hback'.row]
    rfl
  rw [Attribution.lane, Attribution.lane, Prod.mk.injEq, Prod.mk.injEq,
    h.publisher_iff hsource ha hb hback hback', h.territory_iff hsource ha hb hback hback']
  exact and_congr_right fun _ => and_iff_left hregular

theorem span_eq (hback : CameBack idMap idMap a a') : a'.span = a.span := by
  rw [hback.row]
  rfl

theorem openWork_iff (hback : CameBack idMap idMap a a') :
    Attribution.OpenWork a' ↔ a.endDate = none := by
  rw [hback.row]
  exact and_iff_left ⟨rfl, rfl⟩

theorem apart_iff (h : Imported source target idMap target') (hsource : source.Sound)
    (hapart : Apart Attribution.id Attribution.lane Attribution.span source.attributions) :
    Apart Attribution.id Attribution.lane Attribution.span target'.attributions ↔
      ∀ a ∈ source.attributions, ∀ b ∈ source.attributions, a.id ≠ b.id → a.lane ≠ b.lane →
        a.publisherId = b.publisherId → source.SameNumber a.territoryId b.territoryId →
          ¬a.span.Overlaps b.span := by
  constructor
  · intro htarget a ha b hb hid _ hpublisher hnumber hover
    obtain ⟨a', ha', hback⟩ := h.forward a ha
    obtain ⟨b', hb', hback'⟩ := h.forward b hb
    have hid' : a'.id ≠ b'.id := fun hsame => hid ((h.id_iff ha hb hback hback').mp hsame)
    have hlane : a'.lane = b'.lane :=
      (h.lane_iff hsource ha hb hback hback').mpr ⟨hpublisher, hnumber⟩
    apply htarget a' ha' b' hb' hid' hlane
    rw [span_eq hback, span_eq hback']
    exact hover
  · intro hlanes a' ha' b' hb' hid' hlane'
    obtain ⟨a, ha, hback⟩ := h.backward a' ha'
    obtain ⟨b, hb, hback'⟩ := h.backward b' hb'
    have hid : a.id ≠ b.id := fun hsame => hid' ((h.id_iff ha hb hback hback').mpr hsame)
    obtain ⟨hpublisher, hnumber⟩ := (h.lane_iff hsource ha hb hback hback').mp hlane'
    rw [span_eq hback, span_eq hback']
    -- the source law covers one lane, the condition two
    by_cases hlane : a.lane = b.lane
    · exact hapart a ha b hb hid hlane
    · exact hlanes a ha b hb hid hlane hpublisher hnumber

theorem quiet_iff (h : Imported source target idMap target') (hsource : source.Sound) :
    (∀ a ∈ source.attributions, Attribution.Suspended a → ∀ a' ∈ target'.attributions,
      idMap.find .attributions a.id = some a'.id →
        ∀ b' ∈ target'.attributions, ¬Attribution.Competes a' b') ↔
      ∀ a ∈ source.attributions, ∀ b ∈ source.attributions, a.id ≠ b.id →
        Attribution.Suspended a → a.endDate = none → b.endDate = none →
          ¬source.SameNumber a.territoryId b.territoryId := by
  constructor
  · intro hquiet a ha b hb hid hsuspended hopen hopen' hnumber
    obtain ⟨a', ha', hback⟩ := h.forward a ha
    obtain ⟨b', hb', hback'⟩ := h.forward b hb
    have hid' : a'.id ≠ b'.id := fun hsame => hid ((h.id_iff ha hb hback hback').mp hsame)
    apply hquiet a ha hsuspended a' ha' hback.mapped b' hb'
    exact ⟨hid', (h.territory_iff hsource ha hb hback hback').mpr hnumber,
      (openWork_iff hback).mpr hopen, (openWork_iff hback').mpr hopen'⟩
  · intro hlayers a ha hsuspended a' ha' hmapped b' hb' ⟨hid', hterritory', hwork, hwork'⟩
    obtain ⟨a'', ha'', hback⟩ := h.forward a ha
    have hsame : a'' = a' :=
      h.attributions.eq_of_key ha'' ha' (Option.some.inj (hback.mapped.symm.trans hmapped))
    rw [hsame] at hback
    obtain ⟨b, hb, hback'⟩ := h.backward b' hb'
    have hid : a.id ≠ b.id := fun hsame => hid' ((h.id_iff ha hb hback hback').mpr hsame)
    exact hlayers a ha b hb hid hsuspended ((openWork_iff hback).mp hwork)
      ((openWork_iff hback').mp hwork') ((h.territory_iff hsource ha hb hback hback').mp hterritory')

/-- What came back of an event is a draft. -/
theorem draft_of_found (h : Imported source target idMap target') {e e' : Event}
    (he : e ∈ source.events) (he' : e' ∈ target'.events)
    (hfound : idMap.find .events e.id = some e'.id) :
    e'.status = .draft ∧ (idMap.find .userAccounts e.createdById).isSome := by
  cases hauthor : idMap.find .userAccounts e.createdById with
  | none =>
    rw [h.skipped e he hauthor] at hfound
    cases hfound
  | some createdById =>
    obtain ⟨made, hmade, hfound', hdraft⟩ := h.made e he (by rw [hauthor]; rfl)
    have hid : made.id = e'.id := Option.some.inj (hfound'.symm.trans hfound)
    rw [← h.events.eq_of_key hmade he' hid]
    exact ⟨hdraft, rfl⟩

theorem status_iff (h : Imported source target idMap target') (hsource : source.Sound) :
    (∀ e ∈ source.events, ∃ e' ∈ target'.events,
      idMap.find .events e.id = some e'.id ∧ e'.status = e.status) ↔
      (∀ e ∈ source.events, e.status = .draft) ∧
        ∀ e ∈ source.events, ∀ account ∈ source.accounts, account.id = e.createdById →
          account.email ∉ target.people.otherEmails := by
  constructor
  · intro hstatus
    refine ⟨fun e he => ?_, fun e he account haccount hauthor => ?_⟩
    · obtain ⟨e', he', hfound, hsame⟩ := hstatus e he
      rw [← hsame]
      exact (h.draft_of_found he he' hfound).1
    · obtain ⟨e', he', hfound, -⟩ := hstatus e he
      apply (h.author account haccount).mp
      rw [hauthor]
      exact (h.draft_of_found he he' hfound).2
  · intro ⟨hdrafts, hauthors⟩ e he
    obtain ⟨account, haccount, hauthor⟩ := List.mem_map.mp (hsource.authors e he)
    have hsome := (h.author account haccount).mpr (hauthors e he account haccount hauthor)
    rw [hauthor] at hsome
    obtain ⟨e', he', hfound, hdraft⟩ := h.made e he hsome
    exact ⟨e', he', hfound, hdraft.trans (hdrafts e he).symm⟩

end Imported

/-- **A restored congregation means what it meant** exactly when it used nothing that the archive has
no column for: no layers that meet, no suspended work beside open work, no released event, and no
author whose email another congregation holds. -/
theorem restored_means_iff {source target target' : RestoreDb} {seesAll : Bool}
    (hrt : rt.RoundTrips) (hsource : source.Sound) (htarget : target.Empty)
    (hapart : Apart Attribution.id Attribution.lane Attribution.span source.attributions)
    (h : (importCongregation rt seesAll (exportCongregation rt source)).exec target =
      (.ok idMap, target')) :
    MeansTheSame source idMap target' ↔ Portable source target := by
  have himported := importCongregation_imported hrt hsource htarget h
  constructor
  · intro hmeans
    obtain ⟨hdrafts, hauthors⟩ := (himported.status_iff hsource).mp hmeans.status
    exact ⟨(himported.apart_iff hsource hapart).mp hmeans.apart,
      (himported.quiet_iff hsource).mp hmeans.quiet, hdrafts, hauthors⟩
  · intro hportable
    exact ⟨(himported.apart_iff hsource hapart).mpr hportable.lanes,
      (himported.quiet_iff hsource).mpr hportable.layers,
      (himported.status_iff hsource).mpr ⟨hportable.drafts, hportable.authors⟩⟩

/-! ## One territory, worked by one publisher -/

def noMembers : Publishers.MemberDb where
  members := []
  groups := []
  otherGroupIds := []
  enrolments := []
  activity := []
  roles := []
  memberRoleAssignments := []
  accounts := []
  userRoleAssignments := []
  nextMemberId := 1
  nextGroupId := 1
  nextEnrolmentId := 1

def emptyCongregation : RestoreDb where
  people := ⟨noMembers, 1, []⟩
  territories := []
  attributions := []
  templates := []
  events := []
  nextTerritoryId := 1
  nextAttributionId := 1
  nextTemplateId := 1
  nextEventId := 1

theorem emptyCongregation_empty : emptyCongregation.Empty :=
  ⟨rfl, rfl, rfl, rfl, fun _ ha => absurd ha List.not_mem_nil⟩

/-- The work of Ana on territory 12, and a meeting that her account entered. -/
def oneTerritory (memberId accountId territoryId eventId : Nat) (status : EventStatus)
    (attributions : List Attribution) : RestoreDb where
  people :=
    { directory := { noMembers with
        members := [{ Publishers.blankMember memberId with firstname := "Ana", isPublisher := true }]
        accounts := [⟨accountId, some memberId, none, none, "ana@example.org", true, none⟩]
        nextMemberId := memberId + 1 }
      nextAccountId := accountId + 1
      otherEmails := [] }
  territories := [⟨territoryId, "12", .classical, ""⟩]
  attributions := attributions
  templates := []
  events := [⟨eventId, "Réunion", 100, 200, status, none, accountId⟩]
  nextTerritoryId := territoryId + 1
  nextAttributionId := attributions.length + 1
  nextTemplateId := 1
  nextEventId := eventId + 1

def regularWork (id publisherId territoryId : Nat) (startDate : Instant) (endDate : Option Instant) :
    Attribution where
  id := id
  type := .default
  publisherId := publisherId
  territoryId := territoryId
  startDate := startDate
  endDate := endDate
  lateDate := 1000
  notes := ""
  campaignId := none
  pausedAt := none
  pausedByCampaignId := none

/-- Regular work that was returned before a campaign's, and a draft. -/
def turnByTurn : RestoreDb :=
  oneTerritory 4 6 2 5 .draft
    [regularWork 1 4 2 10 (some 20), { regularWork 2 4 2 30 none with campaignId := some 3 }]

/-- Regular work paused by the campaign that took the territory over, and a released meeting. -/
def pausedByCampaign : RestoreDb :=
  oneTerritory 4 6 2 5 .released
    [{ regularWork 1 4 2 10 none with pausedAt := some 30, pausedByCampaignId := some 3 },
      { regularWork 2 4 2 30 none with campaignId := some 3 }]

/-- The entries an import makes of either. -/
def restoredIds : EntityIdMap :=
  ⟨[(.events, 5, 1), (.attributions, 2, 2), (.attributions, 1, 1), (.territories, 2, 1),
    (.userAccounts, 6, 1), (.members, 4, 1)]⟩

theorem turnByTurn_restored :
    (importCongregation .iso true (exportCongregation .iso turnByTurn)).exec emptyCongregation =
      (.ok restoredIds, oneTerritory 1 1 1 1 .draft
        [regularWork 1 1 1 10 (some 20), regularWork 2 1 1 30 none]) := by
  decide +kernel

theorem restored_means_turnByTurn :
    MeansTheSame turnByTurn restoredIds
        (oneTerritory 1 1 1 1 .draft [regularWork 1 1 1 10 (some 20), regularWork 2 1 1 30 none]) ↔
      Portable turnByTurn emptyCongregation :=
  restored_means_iff DateText.iso_roundTrips
    ⟨by decide, by decide, by decide, by decide, by decide, by decide, by decide, by decide⟩
    emptyCongregation_empty (by decide) turnByTurn_restored

/-- The regular work and the campaign's come back as one layer, in which they overlap. -/
theorem pausedByCampaign_merged :
    Apart Attribution.id Attribution.lane Attribution.span pausedByCampaign.attributions ∧
      (importCongregation .iso true (exportCongregation .iso pausedByCampaign)).exec emptyCongregation =
        (.ok restoredIds, oneTerritory 1 1 1 1 .draft
          [regularWork 1 1 1 10 none, regularWork 2 1 1 30 none]) ∧
      ¬MeansTheSame pausedByCampaign restoredIds
        (oneTerritory 1 1 1 1 .draft [regularWork 1 1 1 10 none, regularWork 2 1 1 30 none]) := by
  refine ⟨by decide, by decide +kernel, fun h => ?_⟩
  have hover : ¬Apart Attribution.id Attribution.lane Attribution.span
      [regularWork 1 1 1 10 none, regularWork 2 1 1 30 none] := by decide
  exact hover h.apart

end Unitae.Settings
