import Mathlib.Data.List.Find
import Mathlib.Data.List.Forall2
import Mathlib.Data.List.Nodup
import Mathlib.Data.Set.Basic

/-!
# Keyed tables

A table is the list of its rows, and `key` reads a row's key. `Keyed key rows` says that no two
rows share a key — a primary key or a unique constraint. The lemmas say which writes keep it, and
that under it a lookup by key finds exactly the row of that key.
-/

/-- No two rows share a key. -/
def Keyed {α κ : Type} (key : α → κ) (rows : List α) : Prop := (rows.map key).Nodup

instance {α κ : Type} [DecidableEq κ] (key : α → κ) (rows : List α) : Decidable (Keyed key rows) :=
  inferInstanceAs (Decidable (rows.map key).Nodup)

/-- An update of some rows leaves a column that it does not write. -/
theorem column_ite {α β : Type} {column : α → β} {p : Prop} [Decidable p] {new old : α}
    (h : column new = column old) : column (if p then new else old) = column old := by
  split
  · exact h
  · rfl

namespace Keyed

variable {α κ : Type} {key : α → κ} {rows : List α}

theorem eq_of_key (h : Keyed key rows) {a b : α} (ha : a ∈ rows) (hb : b ∈ rows)
    (hkey : key a = key b) : a = b :=
  List.inj_on_of_nodup_map h ha hb hkey

theorem nil : Keyed key ([] : List α) := List.nodup_nil

theorem filter (h : Keyed key rows) (p : α → Bool) : Keyed key (rows.filter p) :=
  List.Nodup.sublist (List.filter_sublist.map key) h

/-- An update that leaves the key alone. -/
theorem map (h : Keyed key rows) {f : α → α} (hf : ∀ a, key (f a) = key a) :
    Keyed key (rows.map f) := by
  unfold Keyed at h ⊢
  rw [List.map_map]
  have hcomp : key ∘ f = key := funext hf
  rwa [hcomp]

/-- An insertion of rows whose keys are new. -/
theorem append (h : Keyed key rows) {added : List α} (hadded : Keyed key added)
    (hnew : ∀ a ∈ rows, ∀ b ∈ added, key a ≠ key b) : Keyed key (rows ++ added) := by
  unfold Keyed at h hadded ⊢
  rw [List.map_append, List.nodup_append]
  refine ⟨h, hadded, ?_⟩
  intro k hk k' hk' heq
  obtain ⟨a, ha, rfl⟩ := List.mem_map.mp hk
  obtain ⟨b, hb, rfl⟩ := List.mem_map.mp hk'
  exact hnew a ha b hb heq

/-- The rows before a row do not have its key. -/
theorem not_mem_before (h : Keyed key rows) {done rest : List α} {x : α}
    (hrows : rows = done ++ x :: rest) : key x ∉ done.map key := by
  have hnodup : (done.map key ++ key x :: rest.map key).Nodup := by
    rw [← List.map_cons, ← List.map_append, ← hrows]
    exact h
  intro hmem
  exact (List.nodup_append.mp hnodup).2.2 _ hmem _ List.mem_cons_self rfl

theorem append_one (h : Keyed key rows) {b : α} (hnew : ∀ a ∈ rows, key a ≠ key b) :
    Keyed key (rows ++ [b]) := by
  refine h.append (List.nodup_singleton _) ?_
  intro a ha b' hb'
  rw [List.mem_singleton.mp hb']
  exact hnew a ha

section Lookup

variable [BEq κ] [LawfulBEq κ]

/-- A lookup by key finds exactly the row of that key. -/
theorem find?_eq_some (h : Keyed key rows) {k : κ} {a : α} :
    rows.find? (fun r => key r == k) = some a ↔ a ∈ rows ∧ key a = k := by
  constructor
  · intro hfind
    exact ⟨List.mem_of_find?_eq_some hfind, by simpa using List.find?_some hfind⟩
  · rintro ⟨ha, rfl⟩
    cases hfind : rows.find? fun r => key r == key a with
    | none =>
      rw [List.find?_eq_none] at hfind
      exact absurd (beq_self_eq_true (key a)) (hfind a ha)
    | some b =>
      have hb : key b = key a := by simpa using List.find?_some hfind
      rw [h.eq_of_key (List.mem_of_find?_eq_some hfind) ha hb]

end Lookup

/-- At most one row of a keyed table has a given key. -/
theorem length_filter_key_le [DecidableEq κ] (h : Keyed key rows) (k : κ) :
    (rows.filter fun a => key a = k).length ≤ 1 := by
  have hnodup : ((rows.filter fun a => key a = k).map key).Nodup := h.filter _
  generalize hsel : (rows.filter fun a => key a = k) = sel at hnodup
  match sel, hnodup with
  | [], _ => simp
  | [_], _ => simp
  | a :: b :: rest, hnodup =>
    have ha : key a = k := by
      have := List.mem_filter.mp (hsel ▸ List.mem_cons_self : a ∈ rows.filter fun a => key a = k)
      simpa using this.2
    have hb : key b = k := by
      have hmem : b ∈ a :: b :: rest := List.mem_cons_of_mem a List.mem_cons_self
      have := List.mem_filter.mp (hsel ▸ hmem : b ∈ rows.filter fun a => key a = k)
      simpa using this.2
    simp [ha, hb] at hnodup

/-- Dropping the row of one key drops one row. -/
theorem length_filter_ne [DecidableEq κ] (h : Keyed key rows) {a : α} (ha : a ∈ rows) :
    (rows.filter fun b => key b ≠ key a).length + 1 = rows.length := by
  have hsplit := List.length_eq_length_filter_add (l := rows) fun b => decide (key b = key a)
  have hone := h.length_filter_key_le (key a)
  have hpos : 0 < (rows.filter fun b => key b = key a).length :=
    List.length_pos_of_mem (List.mem_filter.mpr ⟨ha, by simp⟩)
  have hneg : (rows.filter fun b => key b ≠ key a) =
      rows.filter fun b => !decide (key b = key a) := by simp
  rw [hneg]
  omega

/-- The rewrite of one row that starts to satisfy `p` adds one to the rows that do. -/
theorem length_filter_rewrite [DecidableEq κ] (h : Keyed key rows) {f : α → α} {p : α → Bool} {a : α}
    (ha : a ∈ rows) (hno : p a = false) (hyes : p (f a) = true) :
    ((rows.map fun b => if key b = key a then f b else b).filter p).length =
      (rows.filter p).length + 1 := by
  induction rows with
  | nil => exact absurd ha List.not_mem_nil
  | cons b rows ih =>
    obtain ⟨hnew, hrest⟩ := List.nodup_cons.mp h
    rw [List.map_cons]
    rcases List.mem_cons.mp ha with rfl | ha
    · -- the rewritten row is the first: no other has its key
      have hsame : (rows.map fun b => if key b = key a then f b else b) = rows := by
        refine (List.map_congr_left (g := id) fun b hb => if_neg fun hkey => ?_).trans (List.map_id _)
        exact hnew (List.mem_map.mpr ⟨b, hb, hkey⟩)
      rw [if_pos rfl, List.filter_cons_of_pos hyes, hsame, List.filter_cons_of_neg (by simp [hno])]
      exact List.length_cons
    · have hkey : key b ≠ key a := fun hsame => hnew (List.mem_map.mpr ⟨a, ha, hsame.symm⟩)
      rw [if_neg hkey, List.filter_cons, List.filter_cons]
      split
      · rw [List.length_cons, List.length_cons, ih hrest ha]
      · exact ih hrest ha

end Keyed

/-! ## Sequences -/

section Sequence

variable {α : Type} {key : α → Nat} {rows : List α} {b : α} {next : Nat}

/-- A row under the next number has a key of its own. -/
theorem Keyed.append_next (h : Keyed key rows) (hlt : ∀ a ∈ rows, key a < next) (hb : key b = next) :
    Keyed key (rows ++ [b]) := by
  refine h.append_one fun a ha => ?_
  rw [hb]
  exact Nat.ne_of_lt (hlt a ha)

/-- And the keys stay below the number after it. -/
theorem lt_append_next (hlt : ∀ a ∈ rows, key a < next) (hb : key b = next) :
    ∀ a ∈ rows ++ [b], key a < next + 1 := by
  intro a ha
  rcases List.mem_append.mp ha with hold | hnew
  · exact Nat.lt_succ_of_lt (hlt a hold)
  · rw [List.mem_singleton.mp hnew, hb]
    exact Nat.lt_succ_self next

end Sequence

/-- A rewrite after which no row starts to satisfy `p`. -/
theorem length_filter_map_le {α : Type} {rows : List α} {f : α → α} {p : α → Bool}
    (hf : ∀ a ∈ rows, p (f a) = true → p a = true) :
    ((rows.map f).filter p).length ≤ (rows.filter p).length := by
  rw [List.filter_map, List.length_map, ← List.countP_eq_length_filter,
    ← List.countP_eq_length_filter]
  exact List.countP_mono_left fun a ha hp => hf a ha hp

/-- A lookup does not see the dropping of rows it would pass over. -/
theorem find?_filter_of_imp {α : Type} {p q : α → Bool} {rows : List α}
    (h : ∀ a ∈ rows, q a = true → p a = true) : (rows.filter p).find? q = rows.find? q := by
  rw [List.find?_filter]
  refine List.find?_congr fun a ha => ?_
  cases hq : q a with
  | false => rw [decide_eq_false (fun hboth => Bool.false_ne_true hboth.2)]
  | true => rw [decide_eq_true ⟨h a ha hq, rfl⟩]

/-! ## The rows of one foreign key -/

section Rows

variable {α κ : Type} [BEq κ] [LawfulBEq κ] {key : α → κ} {f : α → Option α} {rows : List α}

omit [LawfulBEq κ] in
/-- A rewrite that keeps the key makes no row of the key. -/
theorem length_filter_filterMap_le (hf : ∀ a b, f a = some b → key b = key a) (k : κ) :
    ((rows.filterMap f).filter fun a => key a == k).length ≤
      (rows.filter fun a => key a == k).length := by
  induction rows with
  | nil => exact Nat.le_refl 0
  | cons a rows ih =>
    have hmore : (rows.filter fun a => key a == k).length ≤
        ((a :: rows).filter fun a => key a == k).length :=
      ((List.sublist_cons_self a rows).filter _).length_le
    cases hfa : f a with
    | none =>
      rw [List.filterMap_cons_none hfa]
      exact Nat.le_trans ih hmore
    | some b =>
      rw [List.filterMap_cons_some hfa, List.filter_cons, List.filter_cons, hf a b hfa]
      split
      · exact Nat.succ_le_succ ih
      · exact ih

/-- **The rows of a key stay as they are** under a rewrite that keeps the key exactly when it neither
drops nor changes one of them. -/
theorem filter_filterMap_eq_iff (hf : ∀ a b, f a = some b → key b = key a) (k : κ) :
    ((rows.filterMap f).filter fun a => key a == k) = (rows.filter fun a => key a == k) ↔
      ∀ a ∈ rows, key a = k → f a = some a := by
  induction rows with
  | nil => exact ⟨fun _ a ha => absurd ha List.not_mem_nil, fun _ => rfl⟩
  | cons a rows ih =>
    rw [List.forall_mem_cons, ← ih]
    cases hk : key a == k with
    | false =>
      have hne : key a ≠ k := fun h => by simp [h] at hk
      have hskip : ((a :: rows).filterMap f).filter (fun a => key a == k) =
          (rows.filterMap f).filter fun a => key a == k := by
        cases hfa : f a with
        | none => rw [List.filterMap_cons_none hfa]
        | some b =>
          have hb : ¬(key b == k) = true := by
            rw [hf a b hfa, hk]
            exact Bool.false_ne_true
          rw [List.filterMap_cons_some hfa, List.filter_cons, if_neg hb]
      have hother : (a :: rows).filter (fun a => key a == k) = rows.filter fun a => key a == k := by
        rw [List.filter_cons, hk]
        rfl
      rw [hskip, hother]
      exact ⟨fun h => ⟨fun hkey => absurd hkey hne, h⟩, fun h => h.2⟩
    | true =>
      have hmine : (a :: rows).filter (fun a => key a == k) =
          a :: rows.filter fun a => key a == k := by
        rw [List.filter_cons, hk]
        rfl
      rw [hmine]
      cases hfa : f a with
      | none =>
        -- a dropped row leaves too few
        rw [List.filterMap_cons_none hfa]
        refine iff_of_false (fun h => ?_) fun h => ?_
        · have hle : ((rows.filterMap f).filter fun a => key a == k).length ≤ _ :=
            length_filter_filterMap_le hf k
          rw [h, List.length_cons] at hle
          omega
        · exact absurd (h.1 (beq_iff_eq.mp hk)) (by simp)
      | some b =>
        have hb : (key b == k) = true := by rw [hf a b hfa, hk]
        rw [List.filterMap_cons_some hfa, List.filter_cons, if_pos hb, List.cons.injEq,
          Option.some.injEq]
        exact and_congr_left fun _ => ⟨fun h _ => h, fun h => h (beq_iff_eq.mp hk)⟩

end Rows

/-! ## A lookup by a column that is no key

`lastByKey` is the lookup in a map filled from the rows one after the other: of the rows that share
a key it answers the last. -/

section LastByKey

variable {α β κ : Type} [BEq κ] [LawfulBEq κ] {key : α → κ} {rows : List α}

def lastByKey (key : α → κ) (rows : List α) (k : κ) : Option α :=
  rows.reverse.find? fun a => key a == k

theorem lastByKey_eq_some {k : κ} {a : α} (h : lastByKey key rows k = some a) :
    a ∈ rows ∧ key a = k :=
  ⟨List.mem_reverse.mp (List.mem_of_find?_eq_some h), by simpa using List.find?_some h⟩

theorem exists_lastByKey {a : α} (ha : a ∈ rows) : ∃ b, lastByKey key rows (key a) = some b := by
  rw [← Option.isSome_iff_exists, lastByKey, List.find?_isSome]
  exact ⟨a, List.mem_reverse.mpr ha, beq_self_eq_true (key a)⟩

/-- **The lookup loses nothing** of what `f` reads of the rows exactly when rows that share a key
read alike. -/
theorem lastByKey_agrees_iff {f : α → β} :
    (∀ a ∈ rows, ∀ b, lastByKey key rows (key a) = some b → f b = f a) ↔
      ∀ a ∈ rows, ∀ b ∈ rows, key a = key b → f a = f b := by
  refine ⟨fun h a ha b hb hkey => ?_, fun h a ha b hb => ?_⟩
  · -- both read what the last row of their key reads
    obtain ⟨last, hlast⟩ := @exists_lastByKey α κ _ _ key rows a ha
    have hlast' : lastByKey key rows (key b) = some last := hkey ▸ hlast
    rw [← h a ha last hlast, h b hb last hlast']
  · obtain ⟨hmem, hkey⟩ := lastByKey_eq_some hb
    exact h b hmem a ha hkey

/-- What the found row has is what the row has, exactly when the two have the same. -/
theorem lastByKey_assigns_iff {f : α → Set β} {a : α} (ha : a ∈ rows) :
    {r | ∃ b, lastByKey key rows (key a) = some b ∧ r ∈ f b} = f a ↔
      ∀ b, lastByKey key rows (key a) = some b → f b = f a := by
  obtain ⟨last, hlast⟩ := @exists_lastByKey α κ _ _ key rows a ha
  have hset : {r | ∃ b, lastByKey key rows (key a) = some b ∧ r ∈ f b} = f last := by
    ext r
    simp [hlast]
  rw [hset]
  simp [hlast]

end LastByKey

/-! ## Rows inserted at once

`numbered row n xs` are the rows made from `xs`, with consecutive ids from `n` on. -/

section Numbered

variable {α β : Type} {row : α → Nat → β} {n : Nat} {xs : List α}

def numbered (row : α → Nat → β) : Nat → List α → List β
  | _, [] => []
  | n, x :: xs => row x n :: numbered row (n + 1) xs

theorem length_numbered : (numbered row n xs).length = xs.length := by
  induction xs generalizing n with
  | nil => rfl
  | cons x xs ih => rw [numbered, List.length_cons, List.length_cons, ih]

theorem mem_zip_numbered {a : α} {b : β} (h : (a, b) ∈ xs.zip (numbered row n xs)) :
    a ∈ xs ∧ ∃ i, n ≤ i ∧ i < n + xs.length ∧ b = row a i := by
  induction xs generalizing n with
  | nil => exact absurd h List.not_mem_nil
  | cons x xs ih =>
    rw [numbered, List.zip_cons_cons, List.mem_cons] at h
    rcases h with h | h
    · obtain ⟨rfl, rfl⟩ := Prod.mk.inj h
      exact ⟨List.mem_cons_self, n, Nat.le_refl n, by simp, rfl⟩
    · obtain ⟨ha, i, hle, hlt, hb⟩ := ih h
      refine ⟨List.mem_cons_of_mem x ha, i, by omega, ?_, hb⟩
      rw [List.length_cons]
      omega

theorem exists_mem_zip_numbered {b : β} (h : b ∈ numbered row n xs) :
    ∃ a, (a, b) ∈ xs.zip (numbered row n xs) := by
  induction xs generalizing n with
  | nil => exact absurd h List.not_mem_nil
  | cons x xs ih =>
    rw [numbered, List.mem_cons] at h
    rw [numbered, List.zip_cons_cons]
    rcases h with rfl | h
    · exact ⟨x, List.mem_cons_self⟩
    · obtain ⟨a, ha⟩ := ih h
      exact ⟨a, List.mem_cons_of_mem _ ha⟩

theorem mem_numbered {b : β} (h : b ∈ numbered row n xs) :
    ∃ a ∈ xs, ∃ i, n ≤ i ∧ i < n + xs.length ∧ b = row a i := by
  obtain ⟨a, hzip⟩ := exists_mem_zip_numbered h
  obtain ⟨ha, hrow⟩ := mem_zip_numbered hzip
  exact ⟨a, ha, hrow⟩

/-- The ids are a key of the new rows. -/
theorem keyed_numbered {id : β → Nat} (hid : ∀ a i, id (row a i) = i) :
    Keyed id (numbered row n xs) := by
  induction xs generalizing n with
  | nil => exact Keyed.nil
  | cons x xs ih =>
    refine List.nodup_cons.mpr ⟨fun hmem => ?_, ih⟩
    obtain ⟨b, hb, hsame⟩ := List.mem_map.mp hmem
    obtain ⟨a, _, i, hle, _, rfl⟩ := mem_numbered hb
    rw [hid, hid] at hsame
    omega

theorem pairwise_numbered {R : α → α → Prop} {S : β → β → Prop}
    (hrow : ∀ a b i j, R a b → S (row a i) (row b j)) (h : xs.Pairwise R) :
    (numbered row n xs).Pairwise S := by
  induction xs generalizing n with
  | nil => exact .nil
  | cons x xs ih =>
    obtain ⟨hx, hxs⟩ := List.pairwise_cons.mp h
    refine List.pairwise_cons.mpr ⟨fun b hb => ?_, ih hxs⟩
    obtain ⟨a, ha, i, _, _, rfl⟩ := mem_numbered hb
    exact hrow x a n i (hx a ha)

/-- Under a new owner, the rows of the owner are the new rows. -/
theorem filter_append_numbered {κ : Type} [BEq κ] [LawfulBEq κ] {owner : β → κ} {k : κ} {old : List β}
    (hold : ∀ b ∈ old, owner b ≠ k) (hnew : ∀ a i, owner (row a i) = k) :
    (old ++ numbered row n xs).filter (fun b => owner b == k) = numbered row n xs := by
  have hdrop : old.filter (fun b => owner b == k) = [] := by
    rw [List.filter_eq_nil_iff]
    intro b hb
    rw [beq_iff_eq]
    exact hold b hb
  have hkeep : (numbered row n xs).filter (fun b => owner b == k) = numbered row n xs := by
    rw [List.filter_eq_self]
    intro b hb
    obtain ⟨a, _, i, _, _, rfl⟩ := mem_numbered hb
    rw [beq_iff_eq]
    exact hnew a i
  rw [List.filter_append, hdrop, hkeep, List.nil_append]

/-- What holds of a row and its copy when it does of the row, holds of all of them when it does of
the rows. -/
theorem forall₂_numbered_iff {R : α → β → Prop} {C : α → Prop}
    (h : ∀ a b, (a, b) ∈ xs.zip (numbered row n xs) → (R a b ↔ C a)) :
    List.Forall₂ R xs (numbered row n xs) ↔ ∀ a ∈ xs, C a := by
  rw [List.forall₂_iff_zip]
  refine ⟨fun ⟨_, hall⟩ a ha => ?_, fun hall => ⟨length_numbered.symm, fun {a b} hzip => ?_⟩⟩
  · obtain ⟨i, hi, rfl⟩ := List.getElem_of_mem ha
    have hi' : i < (numbered row n xs).length := length_numbered.symm ▸ hi
    have hzip : (xs[i], (numbered row n xs)[i]) ∈ xs.zip (numbered row n xs) :=
      List.mem_iff_getElem.mpr ⟨i, by simp [hi, hi'], List.getElem_zip⟩
    exact (h _ _ hzip).mp (hall hzip)
  · exact (h a b hzip).mpr (hall a (mem_zip_numbered hzip).1)

end Numbered

/-! ## Loops that add rows -/

section Adds

variable {α β κ : Type} {step : List β → α → List β} {Adds : α → β → Prop} {xs : List α}
  {table : List β} {r : β}

/-- A loop that adds rows in each turn leaves the rows there were and those of every turn. -/
theorem mem_foldl_adds (h : ∀ table x r, r ∈ step table x ↔ r ∈ table ∨ Adds x r) :
    r ∈ xs.foldl step table ↔ r ∈ table ∨ ∃ x ∈ xs, Adds x r := by
  induction xs generalizing table with
  | nil => simp
  | cons x xs ih => rw [List.foldl_cons, ih, h, List.exists_mem_cons_iff, or_assoc]

/-- When each turn adds rows of its own key, an element gets exactly the rows of its turn. -/
theorem mem_foldl_adds_own {owner : β → κ} {id : α → κ}
    (h : ∀ table x r, r ∈ step table x ↔ r ∈ table ∨ owner r = id x ∧ Adds x r)
    (hxs : Keyed id xs) {x : α} (hx : x ∈ xs) (hnew : ∀ r ∈ table, owner r ≠ id x)
    (hr : owner r = id x) : r ∈ xs.foldl step table ↔ Adds x r := by
  rw [mem_foldl_adds h]
  refine ⟨fun hmem => ?_, fun hadds => .inr ⟨x, hx, hr, hadds⟩⟩
  rcases hmem with hold | ⟨y, hy, hkey, hadds⟩
  · exact absurd hr (hnew r hold)
  · have hsame : y = x := hxs.eq_of_key hy hx (hkey.symm.trans hr)
    exact hsame ▸ hadds

end Adds

/-- The distinct values of a list, first occurrences kept, hold no value twice. -/
theorem List.nodup_eraseDups {α : Type} [BEq α] [LawfulBEq α] (xs : List α) :
    xs.eraseDups.Nodup := by
  match xs with
  | [] => simp
  | x :: xs =>
    rw [List.eraseDups_cons, List.nodup_cons]
    refine ⟨?_, nodup_eraseDups _⟩
    rw [List.mem_eraseDups, List.mem_filter]
    simp
  termination_by xs.length
  decreasing_by
    have hle := List.length_filter_le (fun b => !b == x) xs
    simp only [List.length_cons]
    omega
