import Unitae.Base.Listing

/-!
# Rows grouped by a key

A loop that puts each row into the group of its key, in a map that keeps the order in which its keys came. The
groups then are the rows parted by key, each in the order of the rows (`groupOn_grouped`): no row is lost or put
in twice, and the rows of a group have one key.
-/

section Grouping

variable {α κ : Type} [DecidableEq κ] {key : α → κ} {groups : List (κ × List α)} {rows : List α} {x : α}

/-- The row goes to the group of its key, which comes last when it is new. -/
def addToGroup (key : α → κ) (groups : List (κ × List α)) (x : α) : List (κ × List α) :=
  if groups.any (·.1 == key x) then
    groups.map fun group => if group.1 = key x then (group.1, group.2 ++ [x]) else group
  else groups ++ [(key x, [x])]

def groupOn (key : α → κ) (rows : List α) : List (κ × List α) := rows.foldl (addToGroup key) []

/-- The groups are those of the rows. -/
structure GroupedOn (key : α → κ) (groups : List (κ × List α)) (rows : List α) : Prop where
  keys : (groups.map (·.1)).Nodup
  rows_eq : ∀ group ∈ groups, group.2 = rows.filter fun x => key x == group.1
  rows_ne : ∀ group ∈ groups, group.2 ≠ []
  complete : ∀ x ∈ rows, key x ∈ groups.map (·.1)

theorem GroupedOn.add (h : GroupedOn key groups rows) : GroupedOn key (addToGroup key groups x) (rows ++ [x]) := by
  have hrows : ∀ k, (rows ++ [x]).filter (fun y => key y == k) =
      rows.filter (fun y => key y == k) ++ if key x = k then [x] else [] := by
    intro k
    rw [List.filter_append]
    by_cases hk : key x = k <;> simp [hk]
  unfold addToGroup
  split
  · next hknown =>
    have hfirst : ∀ group : κ × List α,
        (if group.1 = key x then (group.1, group.2 ++ [x]) else group).1 = group.1 := by
      intro group
      split <;> rfl
    have hkeys : (groups.map fun group => if group.1 = key x then (group.1, group.2 ++ [x]) else group).map
        (·.1) = groups.map (·.1) := by
      rw [List.map_map]
      exact List.map_congr_left fun group _ => hfirst group
    refine ⟨by rw [hkeys]; exact h.keys, fun group hgroup => ?_, fun group hgroup => ?_, fun y hy => ?_⟩
    · obtain ⟨old, hold, rfl⟩ := List.mem_map.mp hgroup
      rw [hfirst, hrows, ← h.rows_eq old hold]
      by_cases hk : old.1 = key x
      · rw [if_pos hk, if_pos hk.symm]
      · rw [if_neg hk, if_neg (Ne.symm hk), List.append_nil]
    · obtain ⟨old, hold, rfl⟩ := List.mem_map.mp hgroup
      have hne := h.rows_ne old hold
      split
      · exact List.append_ne_nil_of_left_ne_nil hne _
      · exact hne
    · rw [hkeys]
      rcases List.mem_append.mp hy with hy | hy
      · exact h.complete y hy
      · rw [List.mem_singleton.mp hy]
        obtain ⟨group, hgroup, hk⟩ := List.any_eq_true.mp hknown
        exact List.mem_map.mpr ⟨group, hgroup, beq_iff_eq.mp hk⟩
  · next hnew =>
    have hfresh : key x ∉ groups.map (·.1) := by
      intro hin
      obtain ⟨group, hgroup, hk⟩ := List.mem_map.mp hin
      exact hnew (List.any_eq_true.mpr ⟨group, hgroup, beq_iff_eq.mpr hk⟩)
    refine ⟨?_, fun group hgroup => ?_, fun group hgroup => ?_, fun y hy => ?_⟩
    · rw [List.map_append, List.map_singleton]
      refine List.nodup_append.mpr ⟨h.keys, List.pairwise_singleton _ _, fun k hk k' hk' heq => ?_⟩
      obtain rfl : k' = key x := List.mem_singleton.mp hk'
      exact hfresh (heq ▸ hk)
    · rw [hrows]
      rcases List.mem_append.mp hgroup with hold | hgroup
      · have hk : key x ≠ group.1 := fun heq => hfresh (heq ▸ List.mem_map_of_mem hold)
        rw [if_neg hk, List.append_nil]
        exact h.rows_eq group hold
      · obtain rfl := List.mem_singleton.mp hgroup
        have hnone : rows.filter (fun y => key y == key x) = [] := by
          rw [List.filter_eq_nil_iff]
          intro y hy hk
          exact hfresh (beq_iff_eq.mp hk ▸ h.complete y hy)
        rw [hnone, if_pos rfl, List.nil_append]
    · rcases List.mem_append.mp hgroup with hold | hgroup
      · exact h.rows_ne group hold
      · rw [List.mem_singleton.mp hgroup]
        exact List.cons_ne_nil _ _
    · rw [List.map_append, List.mem_append]
      rcases List.mem_append.mp hy with hy | hy
      · exact .inl (h.complete y hy)
      · rw [List.mem_singleton.mp hy]
        exact .inr List.mem_cons_self

theorem groupOn_grouped : GroupedOn key (groupOn key rows) rows := by
  have hfrom : ∀ (rest done : List α) (groups : List (κ × List α)), GroupedOn key groups done →
      GroupedOn key (rest.foldl (addToGroup key) groups) (done ++ rest) := by
    intro rest
    induction rest with
    | nil => exact fun done groups h => by rwa [List.append_nil]
    | cons x rest ih =>
      intro done groups h
      have hrest := ih (done ++ [x]) _ h.add
      rwa [List.append_assoc, List.singleton_append] at hrest
  exact hfrom rows [] [] ⟨List.nodup_nil, by simp, by simp, by simp⟩

/-- **Grouping moves rows and does no more.** -/
theorem groupOn_perm : ((groupOn key rows).flatMap (·.2)).Perm rows := by
  have h : GroupedOn key (groupOn key rows) rows := groupOn_grouped
  have hparts : (groupOn key rows).flatMap (·.2) =
      ((groupOn key rows).map (·.1)).flatMap fun k => rows.filter fun x => key x == k := by
    rw [List.flatMap_map]
    exact List.flatMap_congr fun group hgroup => h.rows_eq group hgroup
  rw [hparts]
  exact flatMap_filter_perm h.keys h.complete

/-- The rows of a group have one key. -/
theorem key_eq_of_group {group : κ × List α} (hgroup : group ∈ groupOn key rows) {y : α} (hy : y ∈ group.2) :
    key y = group.1 := by
  rw [(groupOn_grouped.rows_eq group hgroup : group.2 = _)] at hy
  exact beq_iff_eq.mp (List.mem_filter.mp hy).2

end Grouping
