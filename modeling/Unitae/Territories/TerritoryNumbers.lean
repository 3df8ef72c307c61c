import Unitae.Territories.TerritoryEdits

/-!
# Unitae — the numbers of territories (`compute-next-territory-number.server.ts`)

The number proposed for a new territory is its kind's letter and one more than the kind has territories. A
number is thus proposed again once an older territory of the kind is deleted, whether or not it is free:
`numbers_distinct_iff`. While only the last territory of a kind is ever deleted, it is
(`numbers_distinct_of_deletesLast`).
-/

namespace Unitae.Territories

/-! ## The system -/

inductive TerritoryOp where
  | createTerritory (params : CreateTerritoryParams)
  | createTerritoryFromSplit (params : CreateTerritoryFromSplitParams)
  | deleteTerritory (id : Nat)
deriving DecidableEq, Repr

def TerritoryOp.run : TerritoryOp → TerritoryEditTx TerritoryDetails
  | .createTerritory params => Territories.createTerritory params
  | .createTerritoryFromSplit params => Territories.createTerritoryFromSplit params
  | .deleteTerritory id => Territories.deleteTerritory id

/-- What these services refuse, the database refuses: the transaction is rolled back. -/
def TerritoryEditDb.step (db : TerritoryEditDb) (op : TerritoryOp) : TerritoryEditDb :=
  op.run.settle (fun _ => false) db

/-- The territory is given the number proposed for it, as a split gives it by itself. -/
def TerritoryOp.Proposed (db : TerritoryEditDb) : TerritoryOp → Prop
  | .createTerritory params => params.number = computeNextTerritoryNumber db params.type
  | .createTerritoryFromSplit _ => True
  | .deleteTerritory _ => True

/-- No two territories of a kind have one number. -/
def TerritoryEditDb.NumbersDistinct (db : TerritoryEditDb) : Prop :=
  Keyed (fun t => (t.type, t.number)) db.territories

/-- The kind of the territory to create, and its entrances. -/
def TerritoryOp.created : TerritoryOp → Option (TerritoryKindKey × List Nat)
  | .createTerritory params => some (params.type, params.entranceIds)
  | .createTerritoryFromSplit params => some (params.type, params.entranceIds)
  | .deleteTerritory _ => none

/-- A creation that goes through finds no territory of its kind that is numbered one above their count. -/
def TerritoryOp.FindsGapless (db : TerritoryEditDb) (op : TerritoryOp) : Prop :=
  ∀ created ∈ op.created, (∀ id ∈ created.2, id ∈ db.entrances) →
    ∀ t ∈ db.territories, t.type = created.1 →
      t.number ≠ territoryNumber created.1 (db.countOfKind created.1 + 1)

instance (db : TerritoryEditDb) (op : TerritoryOp) : Decidable (op.Proposed db) := by
  cases op <;> unfold TerritoryOp.Proposed <;> infer_instance

instance (db : TerritoryEditDb) (op : TerritoryOp) : Decidable (op.FindsGapless db) :=
  inferInstanceAs (Decidable (∀ _ ∈ _, _))

instance (db : TerritoryEditDb) : Decidable db.NumbersDistinct :=
  inferInstanceAs (Decidable (Keyed _ _))

/-! ## What one step does -/

section Steps

variable {db : TerritoryEditDb} {op : TerritoryOp} {kind : TerritoryKindKey} {ids : List Nat}

/-- A number of its kind tells which one it is. -/
theorem territoryNumber_inj {n k : Nat} (h : territoryNumber kind n = territoryNumber kind k) : n = k := by
  have hchars := List.tail_eq_of_cons_eq (String.ofList_injective h)
  rw [← IsoDate.ofDigitChars_padded 3 n, hchars, IsoDate.ofDigitChars_padded]

theorem step_createTerritory (params : CreateTerritoryParams) :
    db.step (.createTerritory params) =
      if ∀ id ∈ params.entranceIds, id ∈ db.entrances then db.insertTerritory params else db := by
  unfold TerritoryEditDb.step TerritoryOp.run Tx.settle Territories.createTerritory Tx.refuseWhen
  rw [Tx.exec_bind_get, Tx.exec_bind, Tx.exec_check]
  by_cases hthere : ∀ id ∈ params.entranceIds, id ∈ db.entrances
  · rw [if_neg (not_not.mpr hthere), if_pos hthere]
    rfl
  · rw [if_pos hthere, if_neg hthere]
    rfl

/-- **A creation** under the number proposed. -/
theorem step_created (hcreated : op.created = some (kind, ids)) (hproposed : op.Proposed db) :
    db.step op =
      if ∀ id ∈ ids, id ∈ db.entrances then
        db.insertTerritory ⟨territoryNumber kind (db.countOfKind kind + 1), kind, ids⟩
      else db := by
  cases op with
  | createTerritory params =>
    obtain ⟨rfl, rfl⟩ := Prod.mk.inj (Option.some.inj hcreated)
    have hnumber : params.number = territoryNumber params.type (db.countOfKind params.type + 1) := hproposed
    rw [← hnumber]
    exact step_createTerritory params
  | createTerritoryFromSplit params =>
    obtain ⟨rfl, rfl⟩ := Prod.mk.inj (Option.some.inj hcreated)
    exact step_createTerritory ⟨computeNextTerritoryNumber db params.type, params.type, params.entranceIds⟩
  | deleteTerritory id => cases hcreated

/-- **A deletion** takes a territory out, or is refused. -/
theorem step_deleteTerritory (db : TerritoryEditDb) (id : Nat) :
    db.step (.deleteTerritory id) = db ∨
      ∃ t, db.territoryById id = some t ∧ db.step (.deleteTerritory id) = db.removeTerritory id := by
  rcases Tx.settle_uncaught (Territories.deleteTerritory id) db with ⟨out, hexec⟩ | hsame
  · unfold Territories.deleteTerritory at hexec
    rw [Tx.exec_bind_get, Tx.exec_bind_check_ok] at hexec
    obtain ⟨t, hfound, hexec⟩ := hexec
    rw [Tx.exec_bind_check_ok] at hexec
    obtain ⟨_, _, hexec⟩ := hexec
    rw [Tx.exec_bind_modify] at hexec
    obtain ⟨_, hwritten⟩ := Tx.exec_pure_ok.mp hexec
    refine .inr ⟨t, ?_, hwritten⟩
    unfold TerritoryEditDb.territoryOrRefuse at hfound
    split at hfound
    · cases hfound
    · next heq => rw [heq, Except.ok.inj hfound]
  · exact .inl hsame

/-- The new number is taken by a territory of the kind, or it is distinct from all. -/
theorem distinct_insertTerritory (h : db.NumbersDistinct) {params : CreateTerritoryParams} :
    (db.insertTerritory params).NumbersDistinct ↔
      ∀ t ∈ db.territories, t.type = params.type → t.number ≠ params.number := by
  constructor
  · intro hkeyed t ht htype hnumber
    have hnodup : ((db.territories ++ [newTerritory params db.nextTerritoryId]).map
        fun t => (t.type, t.number)).Nodup := hkeyed
    rw [List.map_append, List.nodup_append] at hnodup
    have hkey : (t.type, t.number) ∈ db.territories.map fun t => (t.type, t.number) :=
      List.mem_map_of_mem ht
    refine hnodup.2.2 _ hkey _ List.mem_cons_self ?_
    show (t.type, t.number) = (params.type, params.number)
    rw [htype, hnumber]
  · intro hfree
    refine Keyed.append_one h fun t ht hsame => ?_
    obtain ⟨htype, hnumber⟩ := Prod.mk.inj hsame
    exact hfree t ht htype hnumber

theorem distinct_step_iff (h : db.NumbersDistinct) (hproposed : op.Proposed db) :
    (db.step op).NumbersDistinct ↔ op.FindsGapless db := by
  cases hcreated : op.created with
  | none =>
    have hgapless : op.FindsGapless db := by
      intro created hmem
      rw [hcreated] at hmem
      cases hmem
    refine iff_of_true ?_ hgapless
    cases op with
    | createTerritory params => cases hcreated
    | createTerritoryFromSplit params => cases hcreated
    | deleteTerritory id =>
      rcases step_deleteTerritory db id with hsame | ⟨_, _, hgone⟩
      · rw [hsame]
        exact h
      · rw [hgone]
        exact Keyed.filter h _
  | some created =>
    obtain ⟨kind, ids⟩ := created
    have hgapless : op.FindsGapless db ↔ ((∀ id ∈ ids, id ∈ db.entrances) →
        ∀ t ∈ db.territories, t.type = kind →
          t.number ≠ territoryNumber kind (db.countOfKind kind + 1)) := by
      unfold TerritoryOp.FindsGapless
      rw [hcreated]
      simp only [Option.mem_def, Option.some.injEq, forall_eq']
    rw [step_created hcreated hproposed, hgapless]
    by_cases hthere : ∀ id ∈ ids, id ∈ db.entrances
    · rw [if_pos hthere, distinct_insertTerritory h]
      exact ⟨fun hfree _ => hfree, fun hfree => hfree hthere⟩
    · rw [if_neg hthere]
      exact iff_of_true h fun hall => absurd hall hthere

end Steps

/-! ## Runs -/

/-- **The numbers proposed stay distinct just when no creation meets the number above the count.** In every
run from a congregation without territories, each of which is given the number proposed for it, no two
territories of a kind ever have one number if and only if every creation finds its kind without a
territory numbered one above their count. -/
theorem numbers_distinct_iff {start : TerritoryEditDb} (hstart : start.territories = [])
    {ops : List TerritoryOp} (hproposed : Guarded TerritoryEditDb.step (fun db op => op.Proposed db) start ops) :
    (∀ n, ((ops.take n).foldl TerritoryEditDb.step start).NumbersDistinct) ↔
      Guarded TerritoryEditDb.step (fun db op => op.FindsGapless db) start ops := by
  have hdistinct : start.NumbersDistinct := by
    unfold TerritoryEditDb.NumbersDistinct
    rw [hstart]
    exact Keyed.nil
  have hinv : ∀ (db : TerritoryEditDb) (op : TerritoryOp), True → op.Proposed db → True :=
    fun _ _ _ _ => trivial
  exact guarded_iff_safe_of hinv (fun _ _ _ hsafe hgiven => distinct_step_iff hsafe hgiven) trivial
    hdistinct hproposed

def noTerritories : TerritoryEditDb := ⟨[], [10, 11], [], [], 1⟩

/-- Two territories, the second of which is deleted and made again. -/
def lastRedone : List TerritoryOp :=
  [.createTerritory ⟨"D001", .classical, [10]⟩, .createTerritoryFromSplit ⟨.classical, [11]⟩,
    .deleteTerritory 2, .createTerritoryFromSplit ⟨.classical, [11]⟩]

theorem lastRedone_distinct :
    (∀ n, ((lastRedone.take n).foldl TerritoryEditDb.step noTerritories).NumbersDistinct) ↔
      Guarded TerritoryEditDb.step (fun db op => op.FindsGapless db) noTerritories lastRedone :=
  numbers_distinct_iff rfl (by decide)

/-- Two territories, the first of which is deleted before a third is made. -/
def firstDeleted : List TerritoryOp :=
  [.createTerritory ⟨"D001", .classical, [10]⟩, .createTerritoryFromSplit ⟨.classical, [11]⟩,
    .deleteTerritory 1, .createTerritory ⟨"D002", .classical, [10]⟩]

theorem number_proposed_twice :
    Guarded TerritoryEditDb.step (fun db op => op.Proposed db) noTerritories firstDeleted ∧
      (firstDeleted.foldl TerritoryEditDb.step noTerritories).territories =
        [⟨2, "D002", .classical, ""⟩, ⟨3, "D002", .classical, ""⟩] ∧
      ¬(firstDeleted.foldl TerritoryEditDb.step noTerritories).NumbersDistinct := by
  decide

/-! ## While only the last one is deleted -/

/-- The territory to delete, if it is there, has the highest number of its kind. -/
def TerritoryOp.DeletesLast (db : TerritoryEditDb) : TerritoryOp → Prop
  | .createTerritory _ => True
  | .createTerritoryFromSplit _ => True
  | .deleteTerritory id => ∀ t ∈ db.territoryById id,
      t.number = territoryNumber t.type (db.countOfKind t.type)

/-- The territories of each kind are numbered from one up to their count. -/
structure TerritoryEditDb.Numbered (db : TerritoryEditDb) : Prop where
  ids : Keyed TerritoryDetails.id db.territories
  ids_lt : ∀ t ∈ db.territories, t.id < db.nextTerritoryId
  distinct : db.NumbersDistinct
  numbered : ∀ t ∈ db.territories, ∃ n ≤ db.countOfKind t.type, t.number = territoryNumber t.type n

section Numbered

variable {db : TerritoryEditDb} {op : TerritoryOp}

theorem countOfKind_insertTerritory (db : TerritoryEditDb) (params : CreateTerritoryParams)
    (kind : TerritoryKindKey) :
    (db.insertTerritory params).countOfKind kind =
      db.countOfKind kind + if params.type = kind then 1 else 0 := by
  show ((db.territories ++ [newTerritory params db.nextTerritoryId]).filter (·.type == kind)).length = _
  rw [List.filter_append, List.length_append]
  congr 1
  by_cases hkind : params.type = kind
  · rw [if_pos hkind, List.filter_cons_of_pos (by simpa [newTerritory] using hkind)]
    rfl
  · rw [if_neg hkind, List.filter_cons_of_neg (by simpa [newTerritory] using hkind)]
    rfl

theorem countOfKind_removeTerritory (hids : Keyed TerritoryDetails.id db.territories) {t : TerritoryDetails}
    (ht : t ∈ db.territories) (kind : TerritoryKindKey) :
    (db.removeTerritory t.id).countOfKind kind + (if t.type = kind then 1 else 0) = db.countOfKind kind := by
  show ((db.territories.filter (·.id != t.id)).filter (·.type == kind)).length + _ =
    (db.territories.filter (·.type == kind)).length
  rw [List.filter_comm]
  by_cases hkind : t.type = kind
  · have hmem : t ∈ db.territories.filter (·.type == kind) := List.mem_filter.mpr ⟨ht, by simpa using hkind⟩
    rw [if_pos hkind, ← (hids.filter (·.type == kind)).length_filter_ne hmem]
    congr 2
    apply List.filter_congr
    intro u _
    rw [decide_not]
    rfl
  · rw [if_neg hkind, Nat.add_zero, List.filter_eq_self.mpr]
    intro u hu
    have hukind : u.type = kind := by simpa using (List.mem_filter.mp hu).2
    have hother : u.id ≠ t.id := fun heq =>
      hkind (hids.eq_of_key (List.mem_filter.mp hu).1 ht heq ▸ hukind)
    simpa using hother

/-- The number after the last is free. -/
theorem TerritoryEditDb.Numbered.insertTerritory (h : db.Numbered) (kind : TerritoryKindKey) (ids : List Nat) :
    (db.insertTerritory ⟨territoryNumber kind (db.countOfKind kind + 1), kind, ids⟩).Numbered := by
  have hcount := countOfKind_insertTerritory db ⟨territoryNumber kind (db.countOfKind kind + 1), kind, ids⟩
  refine ⟨?_, ?_, ?_, ?_⟩
  · exact h.ids.append_next h.ids_lt rfl
  · exact lt_append_next h.ids_lt rfl
  · rw [distinct_insertTerritory h.distinct]
    intro t ht htype hnumber
    obtain ⟨n, hn, hnumbered⟩ := h.numbered t ht
    have hkind : t.type = kind := htype
    rw [hkind] at hn hnumbered
    have hsame : n = db.countOfKind kind + 1 := territoryNumber_inj (hnumbered.symm.trans hnumber)
    omega
  · intro t ht
    rcases List.mem_append.mp ht with hold | hnew
    · obtain ⟨n, hn, hnumbered⟩ := h.numbered t hold
      refine ⟨n, ?_, hnumbered⟩
      rw [hcount]
      omega
    · rw [List.mem_singleton.mp hnew]
      refine ⟨db.countOfKind kind + 1, ?_, rfl⟩
      rw [hcount]
      exact Nat.le_of_eq (congrArg _ (if_pos rfl).symm)

/-- Without the last one, the numbers end one earlier. -/
theorem TerritoryEditDb.Numbered.removeLast (h : db.Numbered) {t : TerritoryDetails} (ht : t ∈ db.territories)
    (hlast : t.number = territoryNumber t.type (db.countOfKind t.type)) :
    (db.removeTerritory t.id).Numbered := by
  refine ⟨h.ids.filter _, fun u hu => h.ids_lt u (List.mem_filter.mp hu).1, Keyed.filter h.distinct _, ?_⟩
  intro u hu
  obtain ⟨hold, hother⟩ := List.mem_filter.mp hu
  obtain ⟨n, hn, hnumbered⟩ := h.numbered u hold
  refine ⟨n, ?_, hnumbered⟩
  have hcount := countOfKind_removeTerritory h.ids ht u.type
  by_cases hkind : t.type = u.type
  · -- the last number is that of `t` alone
    have hne : n ≠ db.countOfKind u.type := by
      intro heq
      have hnumber : u.number = t.number := by rw [hnumbered, hlast, heq, hkind]
      have hsame : u = t := h.distinct.eq_of_key hold ht (Prod.ext hkind.symm hnumber)
      rw [hsame] at hother
      simp at hother
    rw [if_pos hkind] at hcount
    omega
  · rw [if_neg hkind] at hcount
    omega

theorem TerritoryEditDb.Numbered.step (h : db.Numbered) (hproposed : op.Proposed db)
    (hlast : op.DeletesLast db) : (db.step op).Numbered := by
  cases hcreated : op.created with
  | some created =>
    obtain ⟨kind, ids⟩ := created
    rw [step_created hcreated hproposed]
    split
    · exact h.insertTerritory kind ids
    · exact h
  | none =>
    cases op with
    | createTerritory params => cases hcreated
    | createTerritoryFromSplit params => cases hcreated
    | deleteTerritory id =>
      rcases step_deleteTerritory db id with hsame | ⟨t, hfound, hgone⟩
      · rw [hsame]
        exact h
      · obtain ⟨ht, rfl⟩ := h.ids.find?_eq_some.mp hfound
        rw [hgone]
        exact h.removeLast ht (hlast t hfound)

end Numbered

/-- **While only the last territory of a kind is deleted**, the numbers proposed are never taken. -/
theorem numbers_distinct_of_deletesLast {start s : TerritoryEditDb} (hstart : start.territories = [])
    (hrun : Reach TerritoryEditDb.step (fun db op => op.Proposed db ∧ op.DeletesLast db) start s) :
    s.NumbersDistinct := by
  have hnumbered : start.Numbered := by
    have hnone : ∀ t, t ∉ start.territories := by simp [hstart]
    refine ⟨?_, fun t ht => absurd ht (hnone t), ?_, fun t ht => absurd ht (hnone t)⟩
    · rw [hstart]
      exact Keyed.nil
    · unfold TerritoryEditDb.NumbersDistinct
      rw [hstart]
      exact Keyed.nil
  have hkept : s.Numbered := hrun.invariant hnumbered fun db op h hok => h.step hok.1 hok.2
  exact hkept.distinct

theorem numbers_distinct_of_deletesLast_redone :
    (lastRedone.foldl TerritoryEditDb.step noTerritories).NumbersDistinct :=
  numbers_distinct_of_deletesLast rfl (.foldl ⟨⟨by decide, trivial⟩, ⟨by decide, trivial⟩,
    ⟨by decide, fun t ht => by cases ht; decide⟩, ⟨by decide, trivial⟩, trivial⟩)

end Unitae.Territories
