import Mathlib.Data.List.Basic
import Mathlib.Logic.Relation

/-!
# A breadth-first walk

The loop of a walk over `kids` takes a node off its queue, and queues what is below it unless it was
seen before. `mem_walkQueue_iff` says that the walk from a root finds what is below the root, however
the nodes point at each other.
-/

section WalkQueue

variable {K : Type} [DecidableEq K] {kids : K → List K} {room : List K → Nat} {fuel : Nat}
  {seen queue : List K} {x root : K}

/-- The loop: what it finds, in order. -/
def walkQueue (kids : K → List K) : Nat → List K → List K → List K
  | 0, _, _ => []
  | _ + 1, _, [] => []
  | fuel + 1, seen, k :: queue =>
    if seen.contains k then walkQueue kids fuel seen queue
    else k :: walkQueue kids fuel (k :: seen) (queue ++ kids k)

theorem walkQueue_sound (h : x ∈ walkQueue kids fuel seen queue) :
    x ∉ seen ∧ ∃ k ∈ queue, Relation.ReflTransGen (fun a b => b ∈ kids a) k x := by
  induction fuel generalizing seen queue with
  | zero => cases h
  | succ fuel ih =>
    cases queue with
    | nil => cases h
    | cons k queue =>
      rw [walkQueue] at h
      by_cases hk : seen.contains k = true
      · rw [if_pos hk] at h
        obtain ⟨hnew, k', hk', hreach⟩ := ih h
        exact ⟨hnew, k', List.mem_cons_of_mem _ hk', hreach⟩
      · rw [if_neg hk] at h
        rcases List.mem_cons.mp h with rfl | h
        · exact ⟨by simpa using hk, x, List.mem_cons_self, .refl⟩
        · obtain ⟨hnew, k', hk', hreach⟩ := ih h
          refine ⟨fun hin => hnew (List.mem_cons_of_mem _ hin), ?_⟩
          rcases List.mem_append.mp hk' with hqueued | hbelow
          · exact ⟨k', List.mem_cons_of_mem _ hqueued, hreach⟩
          · exact ⟨k, List.mem_cons_self, .head hbelow hreach⟩

/-- With a turn for every node that can still be queued, the walk leaves nothing out. -/
theorem walkQueue_closed (seen queue : List K)
    (hroom : ∀ k seen, k ∉ seen → room (k :: seen) + (kids k).length ≤ room seen)
    (hfuel : queue.length + room seen ≤ fuel) :
    (∀ k ∈ queue, k ∈ seen ∨ k ∈ walkQueue kids fuel seen queue) ∧
      ∀ k ∈ walkQueue kids fuel seen queue, ∀ c ∈ kids k,
        c ∈ seen ∨ c ∈ walkQueue kids fuel seen queue := by
  induction fuel generalizing seen queue with
  | zero =>
    obtain rfl : queue = [] := List.length_eq_zero_iff.mp (by omega)
    simp [walkQueue]
  | succ fuel ih =>
    cases queue with
    | nil => simp [walkQueue]
    | cons k queue =>
      rw [List.length_cons] at hfuel
      rw [walkQueue]
      by_cases hk : seen.contains k = true
      · rw [if_pos hk]
        obtain ⟨hqueue, hclosed⟩ := ih seen queue (by omega)
        refine ⟨fun c hc => ?_, hclosed⟩
        rcases List.mem_cons.mp hc with rfl | hc
        · exact .inl (List.contains_iff_mem.mp hk)
        · exact hqueue c hc
      · rw [if_neg hk]
        have hnew := hroom k seen (by simpa using hk)
        obtain ⟨hqueue, hclosed⟩ := ih (k :: seen) (queue ++ kids k)
          (by rw [List.length_append]; omega)
        -- what the later turns had seen is what these have seen, and the node itself
        have hmove : ∀ c, (c ∈ k :: seen ∨ c ∈ walkQueue kids fuel (k :: seen) (queue ++ kids k)) →
            c ∈ seen ∨ c ∈ k :: walkQueue kids fuel (k :: seen) (queue ++ kids k) := by
          intro c hc
          rcases hc with hc | hc
          · rcases List.mem_cons.mp hc with rfl | hc
            · exact .inr List.mem_cons_self
            · exact .inl hc
          · exact .inr (List.mem_cons_of_mem _ hc)
        constructor
        · intro c hc
          rcases List.mem_cons.mp hc with rfl | hc
          · exact .inr List.mem_cons_self
          · exact hmove c (hqueue c (List.mem_append_left _ hc))
        · intro y hy c hc
          rcases List.mem_cons.mp hy with rfl | hy
          · exact hmove c (hqueue c (List.mem_append_right _ hc))
          · exact hmove c (hclosed y hy c hc)

/-- **The walk finds what is below the root**, and nothing else. -/
theorem mem_walkQueue_iff (hroom : ∀ k seen, k ∉ seen → room (k :: seen) + (kids k).length ≤ room seen)
    (hfuel : room [] ≤ fuel) :
    x ∈ walkQueue kids fuel [root] (kids root) ↔
      x ≠ root ∧ Relation.ReflTransGen (fun a b => b ∈ kids a) root x := by
  constructor
  · intro h
    obtain ⟨hnew, k, hk, hreach⟩ := walkQueue_sound h
    exact ⟨by simpa using hnew, .head hk hreach⟩
  · rintro ⟨hne, hreach⟩
    have hstart := hroom root [] List.not_mem_nil
    obtain ⟨hqueue, hclosed⟩ := walkQueue_closed [root] (kids root) hroom
      (Nat.le_trans (by omega) hfuel)
    have hfound : x ∈ [root] ∨ x ∈ walkQueue kids fuel [root] (kids root) := by
      clear hne
      induction hreach with
      | refl => exact .inl List.mem_cons_self
      | tail _ hstep ih =>
        rcases ih with hroot | hin
        · rw [List.mem_singleton.mp hroot] at hstep
          exact hqueue _ hstep
        · exact hclosed _ hin _ hstep
    exact hfound.resolve_left (by simpa using hne)

end WalkQueue
