import Unitae.Base.ThreeValued
import Unitae.Territories.ListFilters

/-!
# Unitae — the accessibility of a territory, as badge and as filter (`pmr-status.ts`)

The badge classifies a territory by the residential entrances it has in memory, counting; the filter asks
the database for the same class with nested `some` and `none` over a nullable column. The two agree
(`pmr_filter_iff`): the clauses compare the column only with what it holds and ask for null by name, so
that where a condition matters it is known.
-/

namespace Unitae.Territories

/-- From the residential entrances; one never checked counts as not accessible. -/
def getTerritoryPmrStatus (type : TerritoryKindKey) (entrances : List BuildingEntrance) :
    Option PmrStatus :=
  if type ≠ .classical then none
  else
    let residential := entrances.filter fun e => e.kind == .residential
    if residential.length = 0 then none
    else
      let pmrCount := (residential.filter fun e => e.isPMR == some true).length
      if pmrCount = residential.length then some .full
      else if 0 < pmrCount then some .partial_ else some .not

/-! ## The clauses in the database -/

namespace PmrWhere

variable (db : ListDb) (t : TerritoryRow)

/-- `{ kind: Residential }`. -/
def residential (e : BuildingEntrance) : Truth := Truth.ofBool (e.kind == .residential)

/-- `{ kind: Residential, isPMR: true }`. -/
def pmrResidential (e : BuildingEntrance) : Truth :=
  Truth.allOf [residential e, Truth.equals e.isPMR true]

/-- `{ kind: Residential, OR: [{ isPMR: false }, { isPMR: null }] }`. -/
def notPmrResidential (e : BuildingEntrance) : Truth :=
  Truth.allOf [residential e, Truth.anyOf [Truth.equals e.isPMR false, Truth.isNull e.isPMR]]

def hasResidential : Truth := Truth.someRow (db.entrancesOfTerritory t.id) residential

def clauses : PmrStatus → List Truth
  | .full => [hasResidential db t, Truth.noneRow (db.entrancesOfTerritory t.id) notPmrResidential]
  | .partial_ =>
    [Truth.someRow (db.entrancesOfTerritory t.id) pmrResidential,
     Truth.someRow (db.entrancesOfTerritory t.id) notPmrResidential]
  | .not => [hasResidential db t, Truth.noneRow (db.entrancesOfTerritory t.id) pmrResidential]

/-- `AND: [{ type: Classical }, ...pmrClauses[status]]`. -/
def filter (status : PmrStatus) : Truth :=
  Truth.allOf (Truth.ofBool (t.type == .classical) :: clauses db t status)

end PmrWhere

section Agreement

variable {db : ListDb} {t : TerritoryRow} {e : BuildingEntrance} {entrances : List BuildingEntrance}

theorem residential_iff : PmrWhere.residential e = .yes ↔ e.kind = .residential := by
  simp [PmrWhere.residential]

theorem pmrResidential_iff :
    PmrWhere.pmrResidential e = .yes ↔ e.kind = .residential ∧ e.isPMR = some true := by
  rw [PmrWhere.pmrResidential, Truth.allOf_eq_yes, List.forall_mem_cons, List.forall_mem_singleton,
    residential_iff, Truth.equals, Truth.compare_eq_yes]
  simp

/-- Never checked counts as not accessible, as no comparison would. -/
theorem notPmrResidential_iff :
    PmrWhere.notPmrResidential e = .yes ↔ e.kind = .residential ∧ e.isPMR ≠ some true := by
  rw [PmrWhere.notPmrResidential, Truth.allOf_eq_yes, List.forall_mem_cons, List.forall_mem_singleton,
    residential_iff]
  refine and_congr_right fun _ => ?_
  cases e.isPMR with
  | none => decide
  | some checked => cases checked <;> decide

/-- What each status says of the entrances. -/
theorem getTerritoryPmrStatus_iff {type : TerritoryKindKey} {status : PmrStatus} :
    getTerritoryPmrStatus type entrances = some status ↔ type = .classical ∧ match status with
      | .full => (∃ e ∈ entrances, e.kind = .residential) ∧
          ∀ e ∈ entrances, ¬(e.kind = .residential ∧ e.isPMR ≠ some true)
      | .partial_ => (∃ e ∈ entrances, e.kind = .residential ∧ e.isPMR = some true) ∧
          ∃ e ∈ entrances, e.kind = .residential ∧ e.isPMR ≠ some true
      | .not => (∃ e ∈ entrances, e.kind = .residential) ∧
          ∀ e ∈ entrances, ¬(e.kind = .residential ∧ e.isPMR = some true) := by
  unfold getTerritoryPmrStatus
  by_cases htype : type = .classical
  · rw [if_neg (not_not.mpr htype), and_iff_right htype]
    have hsome : ¬(entrances.filter fun e => e.kind == .residential).length = 0 ↔
        ∃ e ∈ entrances, e.kind = .residential := by
      rw [List.length_eq_zero_iff, List.filter_eq_nil_iff]
      push Not
      simp
    have hall : ((entrances.filter fun e => e.kind == .residential).filter fun e => e.isPMR == some true).length =
        (entrances.filter fun e => e.kind == .residential).length ↔
        ∀ e ∈ entrances, ¬(e.kind = .residential ∧ e.isPMR ≠ some true) := by
      rw [List.length_filter_eq_length_iff]
      simp
    have hany : 0 < ((entrances.filter fun e => e.kind == .residential).filter
        fun e => e.isPMR == some true).length ↔
        ∃ e ∈ entrances, e.kind = .residential ∧ e.isPMR = some true := by
      rw [List.length_pos_iff_exists_mem]
      simp [and_comm]
    have hnotAll : (∃ e ∈ entrances, e.kind = .residential ∧ e.isPMR ≠ some true) ↔
        ¬∀ e ∈ entrances, ¬(e.kind = .residential ∧ e.isPMR ≠ some true) := by
      push Not
      rfl
    have hnotAny : (∀ e ∈ entrances, ¬(e.kind = .residential ∧ e.isPMR = some true)) ↔
        ¬∃ e ∈ entrances, e.kind = .residential ∧ e.isPMR = some true := by
      push Not
      rfl
    have hle := List.length_filter_le (fun e : BuildingEntrance => e.isPMR == some true)
      (entrances.filter fun e => e.kind == .residential)
    -- what is left is about the two lengths alone
    simp only [hnotAll, hnotAny, ← hall, ← hany, ← hsome]
    generalize (entrances.filter fun e => e.kind == .residential).length = residential at hle ⊢
    generalize ((entrances.filter fun e => e.kind == .residential).filter
      fun e => e.isPMR == some true).length = pmrCount at hle ⊢
    cases status <;> simp only <;> split_ifs <;> simp <;> omega
  · rw [if_pos htype]
    exact iff_of_false (by simp) fun h => htype h.1

theorem hasResidential_iff :
    PmrWhere.hasResidential db t = .yes ↔ ∃ e ∈ db.entrancesOfTerritory t.id, e.kind = .residential := by
  rw [PmrWhere.hasResidential, Truth.someRow_eq_yes]
  exact exists_congr fun e => and_congr_right fun _ => residential_iff

/-- The clauses of a status are true of what has the status. -/
theorem filter_iff {status : PmrStatus} :
    PmrWhere.filter db t status = .yes ↔
      getTerritoryPmrStatus t.type (db.entrancesOfTerritory t.id) = some status := by
  rw [getTerritoryPmrStatus_iff, PmrWhere.filter, Truth.allOf_eq_yes, List.forall_mem_cons,
    Truth.ofBool_eq_yes, beq_iff_eq]
  refine and_congr_right fun _ => ?_
  cases status with
  | full =>
    rw [PmrWhere.clauses, List.forall_mem_cons, List.forall_mem_singleton, hasResidential_iff,
      Truth.noneRow_eq_yes]
    exact and_congr_right fun _ => forall₂_congr fun e _ => not_congr notPmrResidential_iff
  | partial_ =>
    rw [PmrWhere.clauses, List.forall_mem_cons, List.forall_mem_singleton, Truth.someRow_eq_yes,
      Truth.someRow_eq_yes]
    exact and_congr (exists_congr fun e => and_congr_right fun _ => pmrResidential_iff)
      (exists_congr fun e => and_congr_right fun _ => notPmrResidential_iff)
  | not =>
    rw [PmrWhere.clauses, List.forall_mem_cons, List.forall_mem_singleton, hasResidential_iff,
      Truth.noneRow_eq_yes]
    exact and_congr_right fun _ => forall₂_congr fun e _ => not_congr pmrResidential_iff

/-- The list's filter step says the same in two values. -/
theorem pmrClauses_iff {status : PmrStatus} :
    (∀ clause ∈ pmrClauses db status, clause t = true) ↔ ∀ x ∈ PmrWhere.clauses db t status, x = .yes := by
  have hres : hasEntrance db (·.kind == .residential) t = true ↔ PmrWhere.hasResidential db t = .yes := by
    rw [hasResidential_iff, hasEntrance, List.any_eq_true]
    simp
  have hpmr : hasEntrance db pmrResidential t = true ↔
      Truth.someRow (db.entrancesOfTerritory t.id) PmrWhere.pmrResidential = .yes := by
    rw [Truth.someRow_eq_yes, hasEntrance, List.any_eq_true]
    refine exists_congr fun e => and_congr_right fun _ => ?_
    rw [pmrResidential_iff, pmrResidential, Bool.and_eq_true, beq_iff_eq, beq_iff_eq]
  have hnotPmr : hasEntrance db notPmrResidential t = true ↔
      Truth.someRow (db.entrancesOfTerritory t.id) PmrWhere.notPmrResidential = .yes := by
    rw [Truth.someRow_eq_yes, hasEntrance, List.any_eq_true]
    refine exists_congr fun e => and_congr_right fun _ => ?_
    rw [notPmrResidential_iff, notPmrResidential, Bool.and_eq_true, beq_iff_eq]
    refine and_congr_right fun _ => ?_
    cases e.isPMR with
    | none => decide
    | some checked => cases checked <;> decide
  have hnone : ∀ {condition : BuildingEntrance → Truth} {clause : BuildingEntrance → Bool},
      (hasEntrance db clause t = true ↔ Truth.someRow (db.entrancesOfTerritory t.id) condition = .yes) →
      ((!hasEntrance db clause t) = true ↔
        Truth.noneRow (db.entrancesOfTerritory t.id) condition = .yes) := by
    intro condition clause hsome
    rw [Bool.not_eq_true', ← Bool.not_eq_true, hsome, Truth.someRow_eq_yes, Truth.noneRow_eq_yes]
    push Not
    rfl
  cases status with
  | full =>
    rw [pmrClauses, PmrWhere.clauses, List.forall_mem_cons, List.forall_mem_singleton,
      List.forall_mem_cons, List.forall_mem_singleton]
    exact and_congr hres (hnone hnotPmr)
  | partial_ =>
    rw [pmrClauses, PmrWhere.clauses, List.forall_mem_cons, List.forall_mem_singleton,
      List.forall_mem_cons, List.forall_mem_singleton]
    exact and_congr hpmr hnotPmr
  | not =>
    rw [pmrClauses, PmrWhere.clauses, List.forall_mem_cons, List.forall_mem_singleton,
      List.forall_mem_cons, List.forall_mem_singleton]
    exact and_congr hres (hnone hpmr)

/-- **The filter selects what the badge shows**: the clause of each status is true, in the database, of the
territories of that status alone, and so are the rows that the list asks for with it. -/
theorem pmr_filter_iff (db : ListDb) (t : TerritoryRow) :
    (∀ status, PmrWhere.filter db t status = .yes ↔
      getTerritoryPmrStatus t.type (db.entrancesOfTerritory t.id) = some status) ∧
    ∀ params status, pmrStatus (params.get "pmr") = some status →
      (db.TerritorySelected (applyTerritoryPmr db WhereObject.empty params) t ↔
        getTerritoryPmrStatus t.type (db.entrancesOfTerritory t.id) = some status) := by
  refine ⟨fun status => filter_iff, fun params status hstatus => ?_⟩
  rw [applyTerritoryPmr, hstatus, ListDb.TerritorySelected, WhereObject.selects_set_empty, ← filter_iff,
    PmrWhere.filter, Truth.allOf_eq_yes, List.forall_mem_cons, Truth.ofBool_eq_yes]
  show (∀ clause ∈ (fun t : TerritoryRow => t.type == .classical) :: pmrClauses db status, clause t = true) ↔ _
  rw [List.forall_mem_cons, pmrClauses_iff]

end Agreement

end Unitae.Territories
