import Mathlib.Data.List.Basic

/-!
# Transactions over a store

A service function of a database-backed program reads a store, may refuse with an error, and
writes. Two facts about such functions do not fit the plain `Except` monad:

* a write made before a refusal stays in the store, so `Tx` keeps the store on both outcomes;
* it is the *caller* that decides whether a refusal rolls the store back: `settle` keeps what was
  written when the error is one the caller catches, and restores the store otherwise.

The second half of the module is the calculus of refusals: `Reads` (never writes), `Silent`
(never refuses with a caught error) and `Atomic` (a caught refusal leaves the store as it was),
each with its composition rules; and `Keeps`, for what holds of the store on every outcome.
-/

/-- A computation over a store `σ` that may refuse with an `ε`; the store survives a refusal. -/
abbrev Tx (σ ε α : Type) := ExceptT ε (StateM σ) α

namespace Tx

variable {σ ε α β : Type}

/-- `try { x } catch (e) { if (!skipped(e)) throw e }`: what `x` wrote before the refusal stays. -/
def ignoring (skipped : ε → Bool) (x : Tx σ ε Unit) : Tx σ ε Unit :=
  tryCatch x fun e => if skipped e then pure () else throw e

/-- Run a transaction body on a store: its outcome and the store it leaves. -/
def exec (x : Tx σ ε α) (s : σ) : Except ε α × σ := x.run.run s

/-- A read-only check, whose refusal is the transaction's. -/
def check (e : Except ε α) : Tx σ ε α := ExceptT.mk (pure e)

/-- Refuse with `e` when `c` holds. -/
def refuseWhen (c : Prop) [Decidable c] (e : ε) : Except ε Unit :=
  if c then .error e else .ok ()

/-- A check made only when `c` holds. -/
def checkWhen (c : Prop) [Decidable c] (x : Except ε Unit) : Except ε Unit :=
  if c then x else .ok ()

/-- Rewrite the refusal of `x`; its store stays as `x` left it. -/
def mapError (f : ε → ε) (x : Tx σ ε α) : Tx σ ε α := ExceptT.adapt f x

/-- The store after the caller has dealt with the outcome: committed on success and on the errors
it catches, rolled back on every other one. -/
def settle (caught : ε → Bool) (x : Tx σ ε α) (s : σ) : σ :=
  match x.exec s with
  | (.ok _, s') => s'
  | (.error e, s') => if caught e then s' else s

/-! ## What each primitive does -/

@[simp] theorem exec_pure (a : α) (s : σ) : (pure a : Tx σ ε α).exec s = (.ok a, s) := rfl

@[simp] theorem exec_throw (e : ε) (s : σ) : (throw e : Tx σ ε α).exec s = (.error e, s) := rfl

@[simp] theorem exec_get (s : σ) : (get : Tx σ ε σ).exec s = (.ok s, s) := rfl

@[simp] theorem exec_modify (f : σ → σ) (s : σ) :
    (modify f : Tx σ ε PUnit).exec s = (.ok (), f s) := rfl

@[simp] theorem exec_check (e : Except ε α) (s : σ) : (check e : Tx σ ε α).exec s = (e, s) := rfl

theorem exec_bind (x : Tx σ ε α) (f : α → Tx σ ε β) (s : σ) :
    (x >>= f).exec s = match x.exec s with
      | (.ok a, s') => (f a).exec s'
      | (.error e, s') => (.error e, s') := by
  show (ExceptT.bind x f).run.run s = _
  simp only [ExceptT.bind, ExceptT.run, ExceptT.mk, ExceptT.bindCont, exec, StateT.run, bind,
    StateT.bind]
  cases hx : x s with
  | mk r s' => cases r <;> rfl

@[simp] theorem exec_bind_get (f : σ → Tx σ ε β) (s : σ) :
    ((get : Tx σ ε σ) >>= f).exec s = (f s).exec s := rfl

@[simp] theorem exec_bind_modify (g : σ → σ) (f : PUnit → Tx σ ε β) (s : σ) :
    ((modify g : Tx σ ε PUnit) >>= f).exec s = (f ()).exec (g s) := rfl

@[simp] theorem exec_bind_pure (a : α) (f : α → Tx σ ε β) (s : σ) :
    ((pure a : Tx σ ε α) >>= f).exec s = (f a).exec s := rfl

theorem exec_mapError (f : ε → ε) (x : Tx σ ε α) (s : σ) :
    (mapError f x).exec s = match x.exec s with
      | (.ok a, s') => (.ok a, s')
      | (.error e, s') => (.error (f e), s') := by
  show (ExceptT.mk (Except.mapError f <$> x) : Tx σ ε α).run.run s = _
  simp only [ExceptT.run, ExceptT.mk, exec, StateT.run, Functor.map, StateT.map, bind, pure]
  cases hx : x s with
  | mk r s' => cases r <;> rfl

theorem exec_ignoring (skipped : ε → Bool) (x : Tx σ ε Unit) (s : σ) :
    (ignoring skipped x).exec s = match x.exec s with
      | (.ok _, s') => (.ok (), s')
      | (.error e, s') => if skipped e then (.ok (), s') else (.error e, s') := by
  show (ExceptT.tryCatch x _).run.run s = _
  simp only [ExceptT.tryCatch, ExceptT.run, ExceptT.mk, exec, StateT.run, bind, StateT.bind]
  rcases x s with ⟨r, s'⟩
  cases r with
  | ok a => rfl
  | error e => cases hskip : skipped e <;> simp only [hskip] <;> rfl

theorem exec_tryCatch (x : Tx σ ε α) (handler : ε → Tx σ ε α) (s : σ) :
    (tryCatch x handler).exec s = match x.exec s with
      | (.ok a, s') => (.ok a, s')
      | (.error e, s') => (handler e).exec s' := by
  show (ExceptT.tryCatch x handler).run.run s = _
  simp only [ExceptT.tryCatch, ExceptT.run, ExceptT.mk, exec, StateT.run, bind, StateT.bind]
  rcases x s with ⟨r, s'⟩
  cases r <;> rfl

/-- A loop whose turns never refuse. -/
theorem exec_forM_total {xs : List α} {f : α → Tx σ ε PUnit} {g : σ → α → σ}
    (h : ∀ x s, (f x).exec s = (.ok (), g s x)) (s : σ) :
    (xs.forM f).exec s = (.ok (), xs.foldl g s) := by
  induction xs generalizing s with
  | nil => rfl
  | cons x xs ih =>
    show (f x >>= fun _ => xs.forM f).exec s = _
    rw [exec_bind, h]
    exact ih (g s x)

/-- A transaction over a part of a larger store. -/
def on {τ : Type} (part : τ → σ) (put : τ → σ → τ) (x : Tx σ ε α) : Tx τ ε α :=
  ExceptT.mk fun t => ((x.exec (part t)).1, put t (x.exec (part t)).2)

@[simp] theorem exec_on {τ : Type} (part : τ → σ) (put : τ → σ → τ) (x : Tx σ ε α) (t : τ) :
    (x.on part put).exec t = ((x.exec (part t)).1, put t (x.exec (part t)).2) := rfl

/-! ## Inversion: how a sequence can end -/

theorem exec_bind_ok {x : Tx σ ε α} {f : α → Tx σ ε β} {s s' : σ} {b : β} :
    (x >>= f).exec s = (.ok b, s') ↔
      ∃ a s₁, x.exec s = (.ok a, s₁) ∧ (f a).exec s₁ = (.ok b, s') := by
  rw [exec_bind]
  rcases hx : x.exec s with ⟨r, s₁⟩
  cases r <;> simp

/-- Two steps, the first of which returns nothing. -/
theorem exec_seq_ok {x : Tx σ ε Unit} {f : Unit → Tx σ ε β} {s s' : σ} {b : β} :
    (x >>= f).exec s = (.ok b, s') ↔
      ∃ s₁, x.exec s = (.ok (), s₁) ∧ (f ()).exec s₁ = (.ok b, s') := by
  rw [exec_bind_ok]
  exact ⟨fun ⟨_, s₁, hx, hf⟩ => ⟨s₁, hx, hf⟩, fun ⟨s₁, hx, hf⟩ => ⟨(), s₁, hx, hf⟩⟩

theorem exec_pure_ok {a b : α} {s s' : σ} :
    (pure a : Tx σ ε α).exec s = (.ok b, s') ↔ a = b ∧ s' = s := by
  rw [exec_pure, Prod.mk.injEq, Except.ok.injEq]
  exact and_congr_right fun _ => eq_comm

theorem exec_bind_error {x : Tx σ ε α} {f : α → Tx σ ε β} {s s' : σ} {e : ε} :
    (x >>= f).exec s = (.error e, s') ↔
      x.exec s = (.error e, s') ∨ ∃ a s₁, x.exec s = (.ok a, s₁) ∧ (f a).exec s₁ = (.error e, s') := by
  rw [exec_bind]
  rcases hx : x.exec s with ⟨r, s₁⟩
  cases r <;> simp

/-- A check passes its value on and leaves the store alone. -/
@[simp] theorem exec_bind_check_ok {e : Except ε α} {f : α → Tx σ ε β} {s s' : σ} {b : β} :
    ((check e : Tx σ ε α) >>= f).exec s = (.ok b, s') ↔
      ∃ a, e = .ok a ∧ (f a).exec s = (.ok b, s') := by
  rw [exec_bind_ok]
  constructor
  · rintro ⟨a, s₁, hx, hf⟩
    simp only [exec_check, Prod.mk.injEq] at hx
    obtain ⟨rfl, rfl⟩ := hx
    exact ⟨a, rfl, hf⟩
  · rintro ⟨a, rfl, hf⟩
    exact ⟨a, s, rfl, hf⟩

/-- A check, then one write. -/
theorem exec_check_modify_ok {e : Except ε Unit} {g : σ → σ} {s s' : σ} :
    ((check e : Tx σ ε Unit) >>= fun _ => modify g).exec s = (.ok (), s') ↔
      e = .ok () ∧ s' = g s := by
  rw [exec_bind_check_ok]
  constructor
  · rintro ⟨_, he, hexec⟩
    rw [exec_modify, Prod.mk.injEq] at hexec
    exact ⟨he, hexec.2.symm⟩
  · rintro ⟨he, rfl⟩
    exact ⟨(), he, rfl⟩

theorem bind_eq_ok {x : Except ε α} {f : α → Except ε β} {b : β} :
    (x >>= f) = .ok b ↔ ∃ a, x = .ok a ∧ f a = .ok b := by
  cases x with
  | error e => simp [bind, Except.bind]
  | ok a => simp [bind, Except.bind]

/-- A check that returns nothing has only one way to pass. -/
theorem exists_unit {p : Unit → Prop} : (∃ u, p u) ↔ p () :=
  ⟨fun ⟨_, h⟩ => h, fun h => ⟨(), h⟩⟩

theorem forM_eq_ok {xs : List α} {f : α → Except ε PUnit} :
    xs.forM f = .ok () ↔ ∀ x ∈ xs, f x = .ok () := by
  induction xs with
  | nil => exact ⟨fun _ x hx => absurd hx List.not_mem_nil, fun _ => rfl⟩
  | cons x xs ih =>
    show (f x >>= fun _ => xs.forM f) = .ok () ↔ _
    rw [bind_eq_ok, List.forall_mem_cons]
    constructor
    · rintro ⟨_, hx, hxs⟩
      exact ⟨hx, ih.mp hxs⟩
    · rintro ⟨hx, hxs⟩
      exact ⟨(), hx, ih.mpr hxs⟩

@[simp] theorem refuseWhen_ok {c : Prop} [Decidable c] {e : ε} {u : Unit} :
    refuseWhen c e = .ok u ↔ ¬c := by
  unfold refuseWhen
  split <;> simp_all

@[simp] theorem checkWhen_ok {c : Prop} [Decidable c] {x : Except ε Unit} {u : Unit} :
    checkWhen c x = .ok u ↔ (c → x = .ok u) := by
  unfold checkWhen
  split <;> simp_all

/-- **The loop rule.** An invariant of the elements done so far, kept by each turn of a loop that
completes, holds of all of them at its end. -/
theorem forM_invariant {I : List α → σ → Prop} {xs : List α} {f : α → Tx σ ε PUnit} {s s' : σ}
    (h : (xs.forM f).exec s = (.ok (), s')) (h₀ : I [] s)
    (hstep : ∀ done x rest, xs = done ++ x :: rest →
      ∀ s s', I done s → (f x).exec s = (.ok (), s') → I (done ++ [x]) s') : I xs s' := by
  suffices hsuffix : ∀ rest done s, xs = done ++ rest → I done s →
      (rest.forM f).exec s = (.ok (), s') → I xs s' from hsuffix xs [] s rfl h₀ h
  intro rest
  induction rest with
  | nil =>
    intro done s hxs hI hexec
    have hs : s = s' := congrArg Prod.snd hexec
    rw [hxs, List.append_nil, ← hs]
    exact hI
  | cons x rest ih =>
    intro done s hxs hI hexec
    have hturns : (f x >>= fun _ => rest.forM f).exec s = (.ok (), s') := hexec
    obtain ⟨_, s₁, hx, hrest⟩ := exec_bind_ok.mp hturns
    refine ih (done ++ [x]) s₁ (by simp [hxs]) ?_ hrest
    exact hstep done x rest hxs s s₁ hI hx

/-- The rule of an accumulating loop that completes. -/
theorem foldlM_invariant {I : β → σ → Prop} {xs : List α} {f : β → α → Tx σ ε β} {b b' : β} {s s' : σ}
    (h : (xs.foldlM f b).exec s = (.ok b', s')) (h₀ : I b s)
    (hstep : ∀ x ∈ xs, ∀ b s b' s', I b s → (f b x).exec s = (.ok b', s') → I b' s') : I b' s' := by
  induction xs generalizing b s with
  | nil =>
    obtain ⟨rfl, rfl⟩ := exec_pure_ok.mp h
    exact h₀
  | cons x xs ih =>
    rw [List.foldlM_cons, exec_bind_ok] at h
    obtain ⟨b₁, s₁, hx, hrest⟩ := h
    refine ih hrest (hstep x List.mem_cons_self b s b₁ s₁ h₀ hx) ?_
    exact fun y hy => hstep y (List.mem_cons_of_mem x hy)

/-- The loop rule of an accumulating loop: what the elements done so far leave. -/
theorem foldlM_done {I : List α → β → σ → Prop} {xs : List α} {f : β → α → Tx σ ε β} {b b' : β}
    {s s' : σ} (h : (xs.foldlM f b).exec s = (.ok b', s')) (h₀ : I [] b s)
    (hstep : ∀ done x rest, xs = done ++ x :: rest → ∀ b s b' s', I done b s →
      (f b x).exec s = (.ok b', s') → I (done ++ [x]) b' s') : I xs b' s' := by
  suffices hsuffix : ∀ rest done b s, xs = done ++ rest → I done b s →
      (rest.foldlM f b).exec s = (.ok b', s') → I xs b' s' from hsuffix xs [] b s rfl h₀ h
  intro rest
  induction rest with
  | nil =>
    intro done b s hxs hI hexec
    obtain ⟨rfl, rfl⟩ := exec_pure_ok.mp hexec
    rw [hxs, List.append_nil]
    exact hI
  | cons x rest ih =>
    intro done b s hxs hI hexec
    rw [List.foldlM_cons, exec_bind_ok] at hexec
    obtain ⟨b₁, s₁, hx, hrest⟩ := hexec
    refine ih (done ++ [x]) b₁ s₁ (by simp [hxs]) ?_ hrest
    exact hstep done x rest hxs b s b₁ s₁ hI hx

/-- An accumulating loop whose turns all complete. -/
theorem exec_foldlM_total {xs : List α} {f : β → α → Tx σ ε β}
    (h : ∀ x b s, ∃ b' s', (f b x).exec s = (.ok b', s')) (b : β) (s : σ) :
    ∃ b' s', (xs.foldlM f b).exec s = (.ok b', s') := by
  induction xs generalizing b s with
  | nil => exact ⟨b, s, rfl⟩
  | cons x xs ih =>
    obtain ⟨b₁, s₁, hx⟩ := h x b s
    obtain ⟨b', s', hrest⟩ := ih b₁ s₁
    exact ⟨b', s', by rw [List.foldlM_cons, exec_bind, hx]; exact hrest⟩

/-- A transaction over a part leaves the rest of the store alone. -/
theorem exec_on_ok {τ : Type} {part : τ → σ} {put : τ → σ → τ} {x : Tx σ ε α} {t t' : τ} {a : α} :
    (x.on part put).exec t = (.ok a, t') ↔ ∃ s', x.exec (part t) = (.ok a, s') ∧ t' = put t s' := by
  rw [exec_on]
  rcases x.exec (part t) with ⟨r, s'⟩
  constructor
  · intro h
    obtain ⟨hr, ht⟩ := Prod.mk.inj h
    exact ⟨s', Prod.ext hr rfl, ht.symm⟩
  · intro ⟨s'', hs, ht⟩
    obtain ⟨hr, hs'⟩ := Prod.mk.inj hs
    exact Prod.ext hr (by rw [ht, ← hs'])

theorem settle_ok {caught : ε → Bool} {x : Tx σ ε α} {s s' : σ} {a : α}
    (h : x.exec s = (.ok a, s')) : x.settle caught s = s' := by
  rw [settle, h]

/-- A transaction whose caller catches nothing completes or leaves the store alone. -/
theorem settle_uncaught (x : Tx σ ε α) (s : σ) :
    (∃ a, x.exec s = (.ok a, x.settle (fun _ => false) s)) ∨ x.settle (fun _ => false) s = s := by
  rcases h : x.exec s with ⟨r, s'⟩
  cases r with
  | ok a => exact .inl ⟨a, by rw [settle_ok h]⟩
  | error e =>
    refine .inr ?_
    rw [settle, h]
    rfl

/-! ## The calculus of refusals -/

/-- Every refusal of the check is of the kind `P`. -/
def Refuses (P : ε → Prop) (x : Except ε α) : Prop := ∀ e, x = .error e → P e

theorem refuses_refuseWhen {P : ε → Prop} {c : Prop} {_ : Decidable c} {e : ε} (h : P e) :
    Refuses P (refuseWhen c e) := by
  intro e' he
  unfold refuseWhen at he
  split at he
  · rw [← Except.error.inj he]
    exact h
  · simp at he

theorem Refuses.bind {P : ε → Prop} {x : Except ε α} {f : α → Except ε β} (hx : Refuses P x)
    (hf : ∀ a, Refuses P (f a)) : Refuses P (x >>= f) := by
  intro e he
  cases x with
  | error e' =>
    have hsame : (Except.error e' : Except ε α) = .error e := congrArg _ (Except.error.inj he)
    exact hx e hsame
  | ok a => exact hf a e he

/-- `x` never writes. -/
def Reads (x : Tx σ ε α) : Prop := ∀ s, (x.exec s).2 = s

/-- `x` never refuses with an error of the kind `P`. -/
def Silent (P : ε → Prop) (x : Tx σ ε α) : Prop :=
  ∀ s e s', x.exec s = (.error e, s') → ¬P e

/-- A refusal of the kind `P` leaves the store as it was. -/
def Atomic (P : ε → Prop) (x : Tx σ ε α) : Prop :=
  ∀ s e s', x.exec s = (.error e, s') → P e → s' = s

variable {P : ε → Prop}

theorem reads_check (e : Except ε α) : Reads (check e : Tx σ ε α) := fun _ => rfl

theorem reads_get : Reads (get : Tx σ ε σ) := fun _ => rfl

theorem Reads.atomic {x : Tx σ ε α} (h : Reads x) : Atomic P x := by
  intro s e s' hx _
  have hs := h s
  rw [hx] at hs
  exact hs

theorem Silent.atomic {x : Tx σ ε α} (h : Silent P x) : Atomic P x :=
  fun s e s' hx hP => absurd hP (h s e s' hx)

theorem silent_pure (a : α) : Silent P (pure a : Tx σ ε α) := by
  intro s e s' h
  simp at h

theorem silent_modify (f : σ → σ) : Silent P (modify f : Tx σ ε PUnit) := by
  intro s e s' h
  simp at h

theorem Silent.bind {x : Tx σ ε α} {f : α → Tx σ ε β} (hx : Silent P x)
    (hf : ∀ a, Silent P (f a)) : Silent P (x >>= f) := by
  intro s e s' h
  rcases exec_bind_error.mp h with h | ⟨a, s₁, _, h⟩
  · exact hx s e s' h
  · exact hf a s₁ e s' h

theorem silent_check {e : Except ε α} (h : Refuses (fun err => ¬P err) e) :
    Silent P (check e : Tx σ ε α) := by
  intro s err s' hx
  simp only [exec_check, Prod.mk.injEq] at hx
  exact h err hx.1

theorem silent_get : Silent P (get : Tx σ ε σ) := by
  intro s e s' h
  simp at h

theorem silent_forM {xs : List α} {f : α → Tx σ ε PUnit} (hf : ∀ a, Silent P (f a)) :
    Silent P (xs.forM f) := by
  induction xs with
  | nil => exact silent_pure _
  | cons x xs ih => exact (hf x).bind fun _ => ih

/-- Checks first: an atomic rest stays atomic behind a read. -/
theorem Reads.bind_atomic {x : Tx σ ε α} {f : α → Tx σ ε β} (hx : Reads x)
    (hf : ∀ a, Atomic P (f a)) : Atomic P (x >>= f) := by
  intro s e s' h hP
  rcases exec_bind_error.mp h with h | ⟨a, s₁, ha, h⟩
  · exact hx.atomic s e s' h hP
  · have hs : s₁ = s := by
      have := hx s
      rwa [ha] at this
    rw [← hs]
    exact hf a s₁ e s' h hP

/-- Writes last: nothing after an atomic step may refuse. -/
theorem Atomic.bind_silent {x : Tx σ ε α} {f : α → Tx σ ε β} (hx : Atomic P x)
    (hf : ∀ a, Silent P (f a)) : Atomic P (x >>= f) := by
  intro s e s' h hP
  rcases exec_bind_error.mp h with h | ⟨a, s₁, _, h⟩
  · exact hx s e s' h hP
  · exact absurd hP (hf a s₁ e s' h)

/-- Rewriting errors within the kind keeps a body atomic. -/
theorem Atomic.mapError {x : Tx σ ε α} {f : ε → ε} (hx : Atomic P x) (hf : ∀ e, P (f e) → P e) :
    Atomic P (mapError f x) := by
  intro s e s' h hP
  rw [exec_mapError] at h
  rcases hexec : x.exec s with ⟨r, s₁⟩
  rw [hexec] at h
  cases r with
  | ok a => simp at h
  | error e₀ =>
    simp only [Prod.mk.injEq, Except.error.injEq] at h
    obtain ⟨rfl, rfl⟩ := h
    exact hx s e₀ s₁ hexec (hf e₀ hP)

/-- What an atomic body leaves once its outcome is dealt with: its own store after a success, the
store it started from after any refusal, caught or not. -/
theorem Atomic.settle_cases {caught : ε → Bool} {x : Tx σ ε α}
    (hx : Atomic (fun e => caught e = true) x) (s : σ) :
    (∃ a, x.exec s = (.ok a, x.settle caught s)) ∨ x.settle caught s = s := by
  rcases h : x.exec s with ⟨r, s'⟩
  cases r with
  | ok a => exact .inl ⟨a, by rw [settle_ok h]⟩
  | error e =>
    right
    rw [settle, h]
    by_cases hc : caught e = true
    · simp only [hc, if_true]
      exact hx s e s' h hc
    · simp [hc]

/-! ## Invariants of the store -/

/-- `I` holds after `x` whenever it held before, whether or not `x` refuses. -/
def Keeps (I : σ → Prop) (x : Tx σ ε α) : Prop := ∀ s, I s → I (x.exec s).2

variable {I : σ → Prop}

theorem keeps_pure (a : α) : Keeps I (pure a : Tx σ ε α) := fun _ h => h

theorem keeps_check (e : Except ε α) : Keeps I (check e : Tx σ ε α) := fun _ h => h

theorem keeps_modify {f : σ → σ} (hf : ∀ s, I s → I (f s)) : Keeps I (modify f : Tx σ ε PUnit) :=
  hf

theorem Keeps.bind {x : Tx σ ε α} {f : α → Tx σ ε β} (hx : Keeps I x) (hf : ∀ a, Keeps I (f a)) :
    Keeps I (x >>= f) := by
  intro s hs
  have hkept := hx s hs
  rw [exec_bind]
  rcases hexec : x.exec s with ⟨r, s₁⟩
  rw [hexec] at hkept
  cases r with
  | ok a => exact hf a s₁ hkept
  | error e => exact hkept

theorem Keeps.get_bind {f : σ → Tx σ ε α} (hf : ∀ s, Keeps I (f s)) :
    Keeps I ((get : Tx σ ε σ) >>= f) :=
  fun s hs => hf s s hs

/-- Read, check, write: the write may rest on what the check found in the same store. -/
theorem keeps_checked {c : σ → Except ε α} {g : α → σ → σ}
    (h : ∀ s a, I s → c s = .ok a → I (g a s)) :
    Keeps I ((get : Tx σ ε σ) >>= fun s => check (c s) >>= fun a => modify (g a)) := by
  intro s hs
  rw [exec_bind_get, exec_bind, exec_check]
  cases hc : c s with
  | error e => exact hs
  | ok a => exact h s a hs hc

/-- Read, check and go on, with what the check found in the store read. -/
theorem keeps_checked_bind {c : σ → Except ε α} {f : σ → α → Tx σ ε β}
    (h : ∀ s a, I s → c s = .ok a → I ((f s a).exec s).2) :
    Keeps I ((get : Tx σ ε σ) >>= fun s => check (c s) >>= f s) := by
  intro s hs
  rw [exec_bind_get, exec_bind, exec_check]
  cases hc : c s with
  | error e => exact hs
  | ok a => exact h s a hs hc

theorem Keeps.foldlM {xs : List α} {f : β → α → Tx σ ε β} (hf : ∀ a ∈ xs, ∀ b, Keeps I (f b a))
    (b : β) : Keeps I (xs.foldlM f b) := by
  induction xs generalizing b with
  | nil => exact keeps_pure _
  | cons x xs ih =>
    rw [List.foldlM_cons]
    have hrest : ∀ b', Keeps I (xs.foldlM f b') :=
      fun b' => ih (fun a ha => hf a (List.mem_cons_of_mem x ha)) b'
    exact (hf x List.mem_cons_self b).bind hrest

theorem Keeps.forM {xs : List α} {f : α → Tx σ ε PUnit} (hf : ∀ a ∈ xs, Keeps I (f a)) :
    Keeps I (xs.forM f) := by
  induction xs with
  | nil => exact keeps_pure _
  | cons x xs ih =>
    have hrest : Keeps I (xs.forM f) := ih fun a ha => hf a (List.mem_cons_of_mem x ha)
    exact (hf x List.mem_cons_self).bind fun _ => hrest

theorem Keeps.ignoring {skipped : ε → Bool} {x : Tx σ ε Unit} (hx : Keeps I x) :
    Keeps I (Tx.ignoring skipped x) := by
  intro s hs
  have hkept := hx s hs
  rw [exec_ignoring]
  rcases hexec : x.exec s with ⟨r, s₁⟩
  rw [hexec] at hkept
  cases r with
  | ok a => exact hkept
  | error e =>
    show I (if skipped e then ((.ok (), s₁) : Except ε Unit × σ) else (.error e, s₁)).2
    split <;> exact hkept

/-- A result thrown away: the store is what `x` left. -/
theorem exec_discard (x : Tx σ ε α) (s : σ) :
    ((x >>= fun _ => pure () : Tx σ ε Unit).exec s).2 = (x.exec s).2 := by
  rw [exec_bind]
  rcases x.exec s with ⟨r, s₁⟩
  cases r <;> rfl

theorem Keeps.tryCatch {x : Tx σ ε α} {handler : ε → Tx σ ε α} (hx : Keeps I x)
    (hhandler : ∀ e, Keeps I (handler e)) : Keeps I (tryCatch x handler) := by
  intro s hs
  have hkept := hx s hs
  rw [exec_tryCatch]
  rcases hexec : x.exec s with ⟨r, s₁⟩
  rw [hexec] at hkept
  cases r with
  | ok a => exact hkept
  | error e => exact hhandler e s₁ hkept

/-- A transaction over a part: what the part keeps, the whole keeps. -/
theorem Keeps.on {τ : Type} {part : τ → σ} {put : τ → σ → τ} {J : τ → Prop} {x : Tx σ ε α}
    (hx : Keeps I x) (hpart : ∀ t, J t → I (part t)) (hput : ∀ t s, J t → I s → J (put t s)) :
    Keeps J (x.on part put) := by
  intro t ht
  rw [exec_on]
  exact hput t _ ht (hx (part t) (hpart t ht))

theorem Keeps.of_ok {x : Tx σ ε α} (hx : Keeps I x) {s s' : σ} {a : α}
    (h : x.exec s = (.ok a, s')) (hs : I s) : I s' := by
  have hkept := hx s hs
  rw [h] at hkept
  exact hkept

/-- What holds before a transaction and in the store it leaves, whatever its outcome, holds of the store the
caller ends with. -/
theorem settle_invariant {caught : ε → Bool} {x : Tx σ ε α} {s : σ} (hs : I s)
    (hx : I (x.exec s).2) : I (x.settle caught s) := by
  rw [Tx.settle]
  rcases hexec : x.exec s with ⟨r, s₁⟩
  rw [hexec] at hx
  cases r with
  | ok a => exact hx
  | error e =>
    show I (if caught e then s₁ else s)
    split
    · exact hx
    · exact hs

theorem Keeps.settle {caught : ε → Bool} {x : Tx σ ε α} (hx : Keeps I x) {s : σ} (hs : I s) :
    I (x.settle caught s) :=
  settle_invariant hs (hx s hs)

end Tx
