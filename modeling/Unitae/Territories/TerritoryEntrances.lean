import Unitae.Territories.TerritoryEdits

/-!
# Unitae — moving entrances between territories (`update-territory.server.ts`)

An update takes each reassigned entrance out of the territory it comes from, and then links the territory
to the entrances submitted and to no others. The territory updated is the target of the reassignments, and
an entrance joins it by being submitted: `mem_updateTerritory_iff` says which links there are afterwards.
-/

namespace Unitae.Territories

section Update

variable {db db' : TerritoryEditDb} {target : TerritoryDetails} {id : Nat}
  {reassignment : ReassignmentInput} {reassignments : List ReassignmentInput}

theorem territoryOrRefuse_ok {e : Failure} {t : TerritoryDetails} :
    db.territoryOrRefuse id e = .ok t ↔ db.territoryById id = some t := by
  unfold TerritoryEditDb.territoryOrRefuse
  cases db.territoryById id with
  | none => simp
  | some t' => simp

theorem territoryById_id {t : TerritoryDetails} (h : db.territoryById id = some t) : t.id = id := by
  simpa using List.find?_some h

/-- **One reassignment**: its source is another territory, which had the entrance and has it no more. -/
theorem reassign_ok {u : PUnit} (h : (reassign target reassignment).exec db = (.ok u, db')) :
    reassignment.fromTerritoryId ≠ target.id ∧ reassignment.entranceId ∈ db.entrances ∧
      db' = db.disconnect reassignment.fromTerritoryId reassignment.entranceId := by
  unfold reassign at h
  rw [Tx.exec_bind_get, Tx.exec_bind_check_ok] at h
  obtain ⟨_, hchecks, hwrite⟩ := h
  unfold reassignmentChecks at hchecks
  obtain ⟨_, hsource, hchecks⟩ := Tx.bind_eq_ok.mp hchecks
  obtain ⟨source, _, hchecks⟩ := Tx.bind_eq_ok.mp hchecks
  obtain ⟨_, _, hlinked⟩ := Tx.bind_eq_ok.mp hchecks
  rw [Tx.exec_modify, Prod.mk.injEq] at hwrite
  exact ⟨Tx.refuseWhen_ok.mp hsource, (not_not.mp (Tx.refuseWhen_ok.mp hlinked)).1, hwrite.2.symm⟩

/-- What the reassignments so far have done: they took their links, and come from other territories. -/
structure Reassigned (target : TerritoryDetails) (db : TerritoryEditDb) (done : List ReassignmentInput)
    (s : TerritoryEditDb) : Prop where
  entrances : s.entrances = db.entrances
  source_ne : ∀ r ∈ done, r.fromTerritoryId ≠ target.id
  entrance_mem : ∀ r ∈ done, r.entranceId ∈ db.entrances
  links : ∀ link, link ∈ s.territoryEntrances ↔
    link ∈ db.territoryEntrances ∧ ∀ r ∈ done, (r.fromTerritoryId, r.entranceId) ≠ link

theorem reassigned_forM {u : PUnit} (h : (reassignments.forM (reassign target)).exec db = (.ok u, db')) :
    Reassigned target db reassignments db' := by
  refine Tx.forM_invariant (I := Reassigned target db) h ⟨rfl, by simp, by simp, by simp⟩ ?_
  intro done reassignment rest _ s s' hdone hturn
  obtain ⟨hsource, hentrance, rfl⟩ := reassign_ok hturn
  refine ⟨hdone.entrances, ?_, ?_, ?_⟩
  · intro r hr
    rcases List.mem_append.mp hr with hold | hnew
    · exact hdone.source_ne r hold
    · rw [List.mem_singleton.mp hnew]
      exact hsource
  · intro r hr
    rcases List.mem_append.mp hr with hold | hnew
    · exact hdone.entrance_mem r hold
    · rw [List.mem_singleton.mp hnew, ← hdone.entrances]
      exact hentrance
  · intro link
    show link ∈ s.territoryEntrances.filter _ ↔ _
    rw [List.mem_filter, hdone.links, bne_iff_ne, and_assoc]
    refine and_congr_right fun _ => ?_
    constructor
    · rintro ⟨hold, hnew⟩ r hr
      rcases List.mem_append.mp hr with hmem | hlast
      · exact hold r hmem
      · rw [List.mem_singleton.mp hlast]
        exact hnew.symm
    · intro hall
      exact ⟨fun r hr => hall r (List.mem_append_left _ hr),
        (hall reassignment (List.mem_append_right _ List.mem_cons_self)).symm⟩

/-- **The links after an update**: of its own territory, the entrances submitted; of another one, those it
had, less the reassigned. -/
theorem mem_updateTerritory_iff {params : UpdateTerritoryParams} {out : TerritoryDetails}
    (h : (updateTerritory id params).exec db = (.ok out, db')) (territoryId entranceId : Nat) :
    (territoryId, entranceId) ∈ db'.territoryEntrances ↔
      if territoryId = id then entranceId ∈ params.entranceIds ∧ entranceId ∈ db.entrances
      else (territoryId, entranceId) ∈ db.territoryEntrances ∧
        ⟨entranceId, territoryId⟩ ∉ params.reassignments := by
  unfold updateTerritory at h
  rw [Tx.exec_bind_get, Tx.exec_bind_check_ok] at h
  obtain ⟨target, _, h⟩ := h
  obtain ⟨_, s, hloop, hwrite⟩ := Tx.exec_bind_ok.mp h
  rw [Tx.exec_bind_modify] at hwrite
  obtain ⟨_, rfl⟩ := Tx.exec_pure_ok.mp hwrite
  have hdone := reassigned_forM hloop
  show _ ∈ s.territoryEntrances.filter (·.1 != id) ++ _ ↔ _
  rw [List.mem_append, List.mem_filter, List.mem_map]
  by_cases hown : territoryId = id
  · rw [if_pos hown, ← hdone.entrances]
    constructor
    · rintro (⟨_, hother⟩ | ⟨e, he, heq⟩)
      · exact absurd hown (by simpa using hother)
      · obtain ⟨_, rfl⟩ := Prod.mk.inj heq
        simpa using he
    · intro hsubmitted
      exact .inr ⟨entranceId, by simpa using hsubmitted, Prod.ext hown.symm rfl⟩
  · rw [if_neg hown, hdone.links]
    constructor
    · rintro (⟨⟨hlink, hall⟩, _⟩ | ⟨e, _, heq⟩)
      · exact ⟨hlink, fun hmem => hall _ hmem rfl⟩
      · exact absurd (Prod.mk.inj heq).1.symm hown
    · rintro ⟨hlink, hnot⟩
      refine .inl ⟨⟨hlink, ?_⟩, by simpa using hown⟩
      rintro ⟨e, from_⟩ hr heq
      obtain ⟨rfl, rfl⟩ := Prod.mk.inj heq
      exact hnot hr

/-- A reassigned entrance comes from another territory, and is one of the congregation. -/
theorem reassignment_sound {params : UpdateTerritoryParams} {out : TerritoryDetails}
    (h : (updateTerritory id params).exec db = (.ok out, db')) {r : ReassignmentInput}
    (hr : r ∈ params.reassignments) : r.fromTerritoryId ≠ id ∧ r.entranceId ∈ db.entrances := by
  unfold updateTerritory at h
  rw [Tx.exec_bind_get, Tx.exec_bind_check_ok] at h
  obtain ⟨target, htarget, h⟩ := h
  obtain ⟨_, s, hloop, _⟩ := Tx.exec_bind_ok.mp h
  have hdone := reassigned_forM hloop
  rw [← territoryById_id (territoryOrRefuse_ok.mp htarget)]
  exact ⟨hdone.source_ne r hr, hdone.entrance_mem r hr⟩

end Update

/-- Two territories of a kind; the second has an entrance. -/
def twoOwners : TerritoryEditDb :=
  ⟨[⟨1, "D001", .classical, ""⟩, ⟨2, "D002", .classical, ""⟩], [10, 11], [(2, 10)], [], 3⟩

/-- The entrance of the second territory is submitted for the first, together with another one. -/
def takesOver : UpdateTerritoryParams := ⟨[10, 11], [⟨10, 2⟩], "since spring"⟩

end Unitae.Territories
