import Unitae.Base.Memo
import Unitae.Base.Sorting
import Unitae.Events.Assignments
import Unitae.Notifications.Queue

/-!
# Unitae — who is offered for a slot (`assignment-candidates.server.ts`, `allowed-roles.queries.ts`)

The page of an event reads the allowed roles of all its slots at once, and asks who is eligible once for
each set of roles. `candidates_agree` says that what it offers for a slot is what the assignment itself
would let through, member by member.
-/

namespace Unitae.Events

open Roles

/-! ## The allowed roles of a whole programme -/

/-- Both slots of one part. -/
structure PartSlotRoleIds where
  speaker : List Nat
  reader : List Nat
deriving DecidableEq, Repr

def PartSlotRoleIds.push (slots : PartSlotRoleIds) (asKind : PartRoleKind) (roleId : Nat) :
    PartSlotRoleIds :=
  match asKind with
  | .speaker => { slots with speaker := slots.speaker ++ [roleId] }
  | .reader => { slots with reader := slots.reader ++ [roleId] }

/-- `map.get(key)?.push(…)`: an entry that is not there stays away. -/
def adjust {β : Type} (map : List (Nat × β)) (key : Nat) (f : β → β) : List (Nat × β) :=
  map.map fun entry => if entry.1 = key then (entry.1, f entry.2) else entry

/-- Every requested id gets an entry. -/
def getPartAssignmentAllowedRoleIdsForParts (db : EventDb) (eventPartIds : List Nat) :
    List (Nat × PartSlotRoleIds) :=
  (db.eventPartAllowedRoles.filter fun r => eventPartIds.contains r.eventPartId).foldl
    (fun resolved row => adjust resolved row.eventPartId (·.push row.asKind row.roleId))
    (eventPartIds.map (·, ⟨[], []⟩))

def getServicePartAssignmentAllowedRoleIdsForParts (db : EventDb) (eventServicePartIds : List Nat) :
    List (Nat × List Nat) :=
  (db.eventServicePartAllowedRoles.filter fun r => eventServicePartIds.contains r.eventServicePartId).foldl
    (fun resolved row => adjust resolved row.eventServicePartId (· ++ [row.roleId]))
    (eventServicePartIds.map (·, []))

/-! ## The candidates -/

structure PartCandidates where
  speakerIds : List Nat
  readerIds : List Nat
deriving DecidableEq, Repr

structure AssignmentCandidates where
  partCandidates : List (Nat × PartCandidates)
  serviceCandidates : List (Nat × List Nat)
deriving DecidableEq, Repr

/-- `[...ids].sort((a, b) => a - b).join(',')`. -/
def roleSetKey (roleIds : List Nat) : String :=
  String.intercalate "," ((sortBy compare roleIds).map toString)

/-- `eligibleFor`, on the answers kept so far. -/
def eligibleFor (db : EventDb) (kept : Memo String (List Nat)) (allowedRoleIds : List Nat) :
    List Nat × Memo String (List Nat) :=
  kept.ask roleSetKey (resolveEligibleUserIds db) allowedRoleIds

/-- `members` are the ids of the members the page has loaded. -/
def buildAssignmentCandidates (db : EventDb) (eventPartIds eventServicePartIds members : List Nat) :
    AssignmentCandidates :=
  let partAllowed := getPartAssignmentAllowedRoleIdsForParts db eventPartIds
  let serviceAllowed := getServicePartAssignmentAllowedRoleIdsForParts db eventServicePartIds
  let offerable := fun ids : List Nat => ids.filter members.contains
  let parts := eventPartIds.foldl (fun acc id =>
    let slots := (partAllowed.lookup id).getD ⟨[], []⟩
    let speakers := eligibleFor db acc.2 slots.speaker
    let readers := eligibleFor db speakers.2 slots.reader
    (acc.1 ++ [(id, PartCandidates.mk (offerable speakers.1) (offerable readers.1))], readers.2))
    ([], Memo.empty)
  let services := eventServicePartIds.foldl (fun acc id =>
    let eligible := eligibleFor db acc.2 ((serviceAllowed.lookup id).getD [])
    (acc.1 ++ [(id, offerable eligible.1)], eligible.2)) ([], parts.2)
  ⟨parts.1, services.1⟩

/-! ## One read for the programme is one read for each slot -/

section Batch

variable {β : Type} {map : List (Nat × β)} {key id : Nat} {f : β → β} {db : EventDb} {ids : List Nat}

theorem lookup_adjust : (adjust map key f).lookup id =
    (map.lookup id).map fun b => if id = key then f b else b := by
  induction map with
  | nil => rfl
  | cons entry map ih =>
    obtain ⟨k, b⟩ := entry
    have hhead : (if k = key then (k, f b) else (k, b)) = (k, if k = key then f b else b) := by split <;> rfl
    show List.lookup id ((if k = key then (k, f b) else (k, b)) :: adjust map key f) = _
    rw [hhead, List.lookup_cons, List.lookup_cons]
    by_cases hid : id = k
    · subst hid
      rw [beq_self_eq_true]
      rfl
    · rw [beq_false_of_ne hid]
      exact ih

theorem lookup_requested (b : β) : (ids.map (·, b)).lookup id = if id ∈ ids then some b else none := by
  induction ids with
  | nil => rfl
  | cons k ids ih =>
    rw [List.map_cons, List.lookup_cons, ih]
    by_cases hid : id = k
    · simp [hid]
    · simp [hid, beq_false_of_ne hid]

/-- The loop over the rows collects, for each requested id, the rows of its own. -/
theorem lookup_foldl_adjust {ρ : Type} {rows : List ρ} {owner : ρ → Nat} {add : ρ → β → β} :
    (rows.foldl (fun map row => adjust map (owner row) (add row)) map).lookup id =
      (map.lookup id).map fun b => (rows.filter fun row => owner row == id).foldl (fun b row => add row b) b := by
  induction rows generalizing map with
  | nil => simp
  | cons row rows ih =>
    rw [List.foldl_cons, ih, lookup_adjust, Option.map_map]
    congr 1
    funext b
    show List.foldl _ (if id = owner row then add row b else b) _ = _
    by_cases hid : owner row = id
    · have hkeep : (row :: rows).filter (fun row => owner row == id) =
          row :: rows.filter fun row => owner row == id := List.filter_cons_of_pos (beq_iff_eq.mpr hid)
      rw [if_pos hid.symm, hkeep]
      rfl
    · have hdrop : (row :: rows).filter (fun row => owner row == id) =
          rows.filter fun row => owner row == id := List.filter_cons_of_neg (mt beq_iff_eq.mp hid)
      rw [if_neg fun h => hid h.symm, hdrop]

theorem foldl_push (rows : List EventPartAllowedRole) (slots : PartSlotRoleIds) :
    rows.foldl (fun slots row => slots.push row.asKind row.roleId) slots =
      ⟨slots.speaker ++ (rows.filter (·.asKind == .speaker)).map (·.roleId),
        slots.reader ++ (rows.filter (·.asKind == .reader)).map (·.roleId)⟩ := by
  induction rows generalizing slots with
  | nil => simp
  | cons row rows ih =>
    rw [List.foldl_cons, ih]
    cases hkind : row.asKind <;> simp [PartSlotRoleIds.push, hkind]

theorem foldl_append_map {ρ : Type} {rows : List ρ} {g : ρ → Nat} {acc : List Nat} :
    rows.foldl (fun acc row => acc ++ [g row]) acc = acc ++ rows.map g := by
  induction rows generalizing acc with
  | nil => simp
  | cons row rows ih => rw [List.foldl_cons, ih, List.append_assoc]; rfl

/-- **The whole programme's read** answers for a slot as the slot's own. -/
theorem partAllowed_eq (hid : id ∈ ids) :
    (getPartAssignmentAllowedRoleIdsForParts db ids).lookup id =
      some ⟨getPartAssignmentAllowedRoleIds db id .speaker, getPartAssignmentAllowedRoleIds db id .reader⟩ := by
  have hrows : ((db.eventPartAllowedRoles.filter fun r => ids.contains r.eventPartId).filter fun r =>
      r.eventPartId == id) = db.eventPartAllowedRoles.filter fun r => r.eventPartId == id := by
    rw [List.filter_filter]
    refine List.filter_congr fun r _ => ?_
    by_cases hr : r.eventPartId = id
    · rw [hr, beq_self_eq_true, Bool.true_and]
      exact List.contains_iff_mem.mpr hid
    · rw [beq_false_of_ne hr, Bool.false_and]
  unfold getPartAssignmentAllowedRoleIdsForParts
  rw [lookup_foldl_adjust, lookup_requested, if_pos hid, Option.map_some, hrows, foldl_push,
    List.filter_filter, List.filter_filter]
  simp only [getPartAssignmentAllowedRoleIds, List.nil_append, Bool.and_comm]

theorem serviceAllowed_eq (hid : id ∈ ids) :
    (getServicePartAssignmentAllowedRoleIdsForParts db ids).lookup id =
      some (getServicePartAssignmentAllowedRoleIds db id) := by
  have hrows : ((db.eventServicePartAllowedRoles.filter fun r => ids.contains r.eventServicePartId).filter
      fun r => r.eventServicePartId == id) =
        db.eventServicePartAllowedRoles.filter fun r => r.eventServicePartId == id := by
    rw [List.filter_filter]
    refine List.filter_congr fun r _ => ?_
    by_cases hr : r.eventServicePartId = id
    · rw [hr, beq_self_eq_true, Bool.true_and]
      exact List.contains_iff_mem.mpr hid
    · rw [beq_false_of_ne hr, Bool.false_and]
  unfold getServicePartAssignmentAllowedRoleIdsForParts
  rw [lookup_foldl_adjust, lookup_requested, if_pos hid, Option.map_some, hrows, foldl_append_map,
    List.nil_append]
  rfl

end Batch

/-! ## One key, one answer -/

section Keys

variable {xs ys : List Nat} {db : EventDb}

/-- A list of numbers is read back from its text. -/
theorem join_injective {xs ys : List Nat}
    (h : String.intercalate "," (xs.map toString) = String.intercalate "," (ys.map toString)) : xs = ys := by
  have hcomma : ∀ zs : List Nat, ∀ s ∈ zs.map toString, ',' ∉ s.toList := by
    intro zs s hs hc
    obtain ⟨n, _, rfl⟩ := List.mem_map.mp hs
    rw [Notifications.toList_toString] at hc
    exact absurd (Nat.isDigit_of_mem_toDigits (by decide) (by decide) hc) (by decide)
  have hblank : ∀ zs : List Nat, zs.map toString ≠ [""] := by
    intro zs hzs
    have hmem : "" ∈ zs.map toString := by rw [hzs]; exact List.mem_cons_self
    obtain ⟨n, _, hn⟩ := List.mem_map.mp hmem
    have hdigits := Notifications.toList_toString n
    rw [hn] at hdigits
    exact Nat.toDigits_ne_nil hdigits.symm
  have hread : ((String.intercalate "," (xs.map toString)).split ',').toList.map (·.copy) =
      ((String.intercalate "," (ys.map toString)).split ',').toList.map (·.copy) := by rw [h]
  rw [show "," = String.singleton ',' from rfl, String.toList_split_intercalate (hcomma xs),
    String.toList_split_intercalate (hcomma ys)] at hread
  have hmaps : xs.map toString = ys.map toString := by
    split at hread <;> split at hread
    · next hx hy => rw [hx, hy]
    · exact absurd hread.symm (hblank ys)
    · exact absurd hread (hblank xs)
    · exact hread
  refine List.map_injective_iff.mpr (fun m n hmn => ?_) hmaps
  exact Notifications.number_inj (congrArg String.toList hmn)

/-- Who is eligible depends on the set of the roles. -/
theorem resolveEligibleUserIds_perm (h : xs.Perm ys) :
    resolveEligibleUserIds db xs = resolveEligibleUserIds db ys := by
  have hempty : xs = [] ↔ ys = [] :=
    ⟨fun hx => (hx ▸ h).nil_eq.symm, fun hy => (hy ▸ h).eq_nil⟩
  have hany : db.holdsAnyRole xs = db.holdsAnyRole ys := by
    funext memberId
    have hcontains : ∀ roleId, xs.contains roleId = ys.contains roleId := fun roleId =>
      Bool.eq_iff_iff.mpr (by rw [List.contains_iff_mem, List.contains_iff_mem]; exact h.mem_iff)
    unfold EventDb.holdsAnyRole
    simp only [hcontains]
  unfold resolveEligibleUserIds findMembersWithAnyRole
  simp only [hempty, hany]

theorem resolveEligibleUserIds_key (h : roleSetKey xs = roleSetKey ys) :
    resolveEligibleUserIds db xs = resolveEligibleUserIds db ys := by
  have hsorted : sortBy compare xs = sortBy compare ys := join_injective h
  have hxs : (sortBy compare xs).Perm xs := sortBy_perm
  have hys : (sortBy compare ys).Perm ys := sortBy_perm
  exact resolveEligibleUserIds_perm (hxs.symm.trans (hsorted ▸ hys))

end Keys

/-! ## What is offered -/

section Offered

variable {db : EventDb} {eventPartIds eventServicePartIds members roleIds : List Nat}
  {kept : Memo String (List Nat)}

/-- Every kept answer is the one the database gives. -/
abbrev Answered (db : EventDb) (kept : Memo String (List Nat)) : Prop :=
  kept.Sound roleSetKey (resolveEligibleUserIds db)

theorem eligibleFor_fst (h : Answered db kept) :
    (eligibleFor db kept roleIds).1 = resolveEligibleUserIds db roleIds := Memo.ask_fst h

theorem eligibleFor_answered (h : Answered db kept) : Answered db (eligibleFor db kept roleIds).2 :=
  Memo.ask_sound (fun _ _ hkey => resolveEligibleUserIds_key hkey) h

/-- The members offered for a slot, asked on its own. -/
def offeredFor (db : EventDb) (members roleIds : List Nat) : List Nat :=
  (resolveEligibleUserIds db roleIds).filter members.contains

/-- The answers kept across slots and services are those of each slot on its own. -/
theorem buildAssignmentCandidates_eq :
    buildAssignmentCandidates db eventPartIds eventServicePartIds members =
      { partCandidates := eventPartIds.map fun id =>
          (id, ⟨offeredFor db members (getPartAssignmentAllowedRoleIds db id .speaker),
            offeredFor db members (getPartAssignmentAllowedRoleIds db id .reader)⟩)
        serviceCandidates := eventServicePartIds.map fun id =>
          (id, offeredFor db members (getServicePartAssignmentAllowedRoleIds db id)) } := by
  let partAllowed := getPartAssignmentAllowedRoleIdsForParts db eventPartIds
  let serviceAllowed := getServicePartAssignmentAllowedRoleIdsForParts db eventServicePartIds
  let partTurn := fun (acc : List (Nat × PartCandidates) × Memo String (List Nat)) (id : Nat) =>
    let slots := (partAllowed.lookup id).getD ⟨[], []⟩
    let speakers := eligibleFor db acc.2 slots.speaker
    let readers := eligibleFor db speakers.2 slots.reader
    (acc.1 ++ [(id, PartCandidates.mk (speakers.1.filter members.contains)
      (readers.1.filter members.contains))], readers.2)
  let serviceTurn := fun (acc : List (Nat × List Nat) × Memo String (List Nat)) (id : Nat) =>
    let eligible := eligibleFor db acc.2 ((serviceAllowed.lookup id).getD [])
    (acc.1 ++ [(id, eligible.1.filter members.contains)], eligible.2)
  -- a slot asks for its speakers and then for its readers, from the same answers
  have hpart : ∀ acc id, Answered db acc.2 →
      (partTurn acc id).1 = acc.1 ++ [(id, ⟨offeredFor db members ((partAllowed.lookup id).getD ⟨[], []⟩).speaker,
        offeredFor db members ((partAllowed.lookup id).getD ⟨[], []⟩).reader⟩)] ∧
      Answered db (partTurn acc id).2 := by
    intro acc id hacc
    have hspeakers : Answered db (eligibleFor db acc.2 ((partAllowed.lookup id).getD ⟨[], []⟩).speaker).2 :=
      eligibleFor_answered hacc
    refine ⟨?_, eligibleFor_answered hspeakers⟩
    show acc.1 ++ [(id, PartCandidates.mk _ _)] = _
    rw [eligibleFor_fst hacc, eligibleFor_fst hspeakers]
    rfl
  have hservice : ∀ acc id, Answered db acc.2 →
      (serviceTurn acc id).1 = acc.1 ++ [(id, offeredFor db members ((serviceAllowed.lookup id).getD []))] ∧
      Answered db (serviceTurn acc id).2 := by
    intro acc id hacc
    refine ⟨?_, eligibleFor_answered hacc⟩
    show acc.1 ++ [(id, _)] = _
    rw [eligibleFor_fst hacc]
    rfl
  have hparts := Memo.foldl_asks hpart eventPartIds ([], Memo.empty) Memo.sound_empty
  have hservices := Memo.foldl_asks hservice eventServicePartIds
    ([], (eventPartIds.foldl partTurn ([], Memo.empty)).2) hparts.2
  show AssignmentCandidates.mk (eventPartIds.foldl partTurn ([], Memo.empty)).1
    (eventServicePartIds.foldl serviceTurn ([], (eventPartIds.foldl partTurn ([], Memo.empty)).2)).1 = _
  rw [hparts.1, hservices.1, List.nil_append, List.nil_append]
  congr 1
  · exact List.map_congr_left fun id hid => by rw [partAllowed_eq hid]; rfl
  · exact List.map_congr_left fun id hid => by rw [serviceAllowed_eq hid]; rfl

theorem lookup_map_self {β : Type} {ids : List Nat} {f : Nat → β} {id : Nat} (h : id ∈ ids) :
    (ids.map fun id => (id, f id)).lookup id = some (f id) := by
  induction ids with
  | nil => cases h
  | cons k ids ih =>
    rw [List.map_cons, List.lookup_cons]
    by_cases hid : id = k
    · rw [hid, beq_self_eq_true]
    · rw [beq_false_of_ne hid]
      exact ih ((List.mem_cons.mp h).resolve_left hid)

/-- A member is offered exactly when the assignment does not find it ineligible. -/
theorem mem_offeredFor {memberId : Nat} {role : ProgrammeRole} {event : Event} :
    memberId ∈ offeredFor db members roleIds ↔ memberId ∈ members ∧
      checkParticipant db roleIds (some memberId) role event ≠ .error (ineligibleMessage role) := by
  have hcheck : checkParticipant db roleIds (some memberId) role event ≠ .error (ineligibleMessage role) ↔
      memberId ∈ resolveEligibleUserIds db roleIds := by
    have hmessages : dayOffMessage role ≠ ineligibleMessage role := by cases role <;> decide
    by_cases hin : memberId ∈ resolveEligibleUserIds db roleIds
    · refine iff_of_true (fun herror => ?_) hin
      -- past the first check, only an absence can refuse
      simp only [checkParticipant, Tx.refuseWhen, hin, not_true_eq_false, if_false] at herror
      split at herror
      · exact hmessages (Except.error.inj herror)
      · cases herror
    · refine iff_of_false (fun hpass => hpass ?_) hin
      simp [checkParticipant, Tx.refuseWhen, hin]
      rfl
  rw [hcheck]
  show memberId ∈ (resolveEligibleUserIds db roleIds).filter members.contains ↔ _
  rw [List.mem_filter, List.contains_iff_mem, and_comm]

/-- **The picker and the assignment agree.** For every slot of the page, a member is offered exactly when
it is among the members the page has loaded and the assignment of that slot would not answer that its
roles do not allow it. -/
theorem candidates_agree {memberId : Nat} :
    (∀ id ∈ eventPartIds, ∃ slots,
      (buildAssignmentCandidates db eventPartIds eventServicePartIds members).partCandidates.lookup id =
        some slots ∧
      ∀ event, (memberId ∈ slots.speakerIds ↔ memberId ∈ members ∧
          checkPartParticipant db id (some memberId) .speaker event ≠ .error (ineligibleMessage .speaker)) ∧
        (memberId ∈ slots.readerIds ↔ memberId ∈ members ∧
          checkPartParticipant db id (some memberId) .reader event ≠ .error (ineligibleMessage .reader))) ∧
    (∀ id ∈ eventServicePartIds, ∃ offered,
      (buildAssignmentCandidates db eventPartIds eventServicePartIds members).serviceCandidates.lookup id =
        some offered ∧
      ∀ event, (memberId ∈ offered ↔ memberId ∈ members ∧
        checkParticipant db (getServicePartAssignmentAllowedRoleIds db id) (some memberId) .servant event ≠
          .error (ineligibleMessage .servant))) := by
  rw [buildAssignmentCandidates_eq]
  refine ⟨fun id hid => ⟨_, lookup_map_self hid, fun event => ⟨?_, ?_⟩⟩,
    fun id hid => ⟨_, lookup_map_self hid, fun event => ?_⟩⟩
  · exact mem_offeredFor
  · exact mem_offeredFor
  · exact mem_offeredFor

end Offered

end Unitae.Events
