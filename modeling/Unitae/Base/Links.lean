import Mathlib.Order.Basic
import Unitae.Base.Log

/-!
# Links that are mailed out

A link carries a secret. The table behind it keeps a digest of the secret, whose the link is, and the last
instant at which it opens. A log tells what became of the links: one is issued, all those of an owner are
ended, one is used up. `Tracks` says that the rows are a faithful copy of the log as far as links that have
not expired go: a row stands for a link exactly while no entry after its issue ended it.

Expired rows may be dropped at any time and are; what a link opens does not depend on it.
-/

namespace Links

/-- What the table keeps of a link. -/
@[ext] structure Link (δ ω ι : Type) where
  digest : δ
  owner : ω
  expiresAt : ι
deriving DecidableEq, Repr

inductive Entry (σ ω ι : Type) where
  | issued (secret : σ) (owner : ω) (expiresAt : ι)
  | ended (owner : ω)
  | used (secret : σ)
deriving DecidableEq, Repr

variable {σ δ ω ι α : Type}

theorem Entry.ended_ne_issued {o : ω} (s : σ) (o' : ω) (e : ι) : Entry.ended o ≠ .issued s o' e := nofun

theorem Entry.used_ne_issued {s : σ} (s' : σ) (o : ω) (e : ι) : Entry.used s ≠ .issued s' o e := nofun

section Log

variable [DecidableEq σ] [DecidableEq ω] [DecidableEq ι]

/-- The entry issues this very link. -/
def Entry.issues (secret : σ) (owner : ω) (expiresAt : ι) (entry : Entry σ ω ι) : Bool :=
  entry == .issued secret owner expiresAt

/-- The entry ends the link of this secret and owner. -/
def Entry.ends (secret : σ) (owner : ω) : Entry σ ω ι → Bool
  | .issued .. => false
  | .ended o => o == owner
  | .used s => s == secret

/-- The link was issued, and nothing has ended it since. -/
def Live (log : List (Entry σ ω ι)) (secret : σ) (owner : ω) (expiresAt : ι) : Prop :=
  Log.Outstanding (Entry.issues secret owner expiresAt) (Entry.ends secret owner) log

variable {log : List (Entry σ ω ι)} {secret s : σ} {owner o : ω} {expiresAt e : ι}

theorem not_live_nil : ¬Live ([] : List (Entry σ ω ι)) secret owner expiresAt := by
  unfold Live
  rw [← Log.lastWord_iff, Log.lastWord_nil]
  exact Bool.false_ne_true

/-- A new link is live beside those that were. -/
theorem live_issued : Live (log ++ [.issued s o e]) secret owner expiresAt ↔
    (s = secret ∧ o = owner ∧ e = expiresAt) ∨ Live log secret owner expiresAt := by
  unfold Live
  rw [← Log.lastWord_iff, ← Log.lastWord_iff]
  by_cases hsame : s = secret ∧ o = owner ∧ e = expiresAt
  · have hword : Log.lastWord (Entry.issues secret owner expiresAt) (Entry.ends secret owner)
        (log ++ [.issued s o e]) = true := by
      apply Log.lastWord_announce
      show (Entry.issued s o e == Entry.issued secret owner expiresAt) = true
      rw [hsame.1, hsame.2.1, hsame.2.2, beq_self_eq_true]
    exact iff_of_true hword (.inl hsame)
  · rw [Log.lastWord_append]
    · exact ⟨.inr, fun h => h.resolve_left hsame⟩
    · intro x hx
      rw [List.mem_singleton.mp hx]
      refine ⟨?_, rfl⟩
      show (Entry.issued s o e == Entry.issued secret owner expiresAt) = false
      rw [beq_eq_false_iff_ne]
      intro heq
      cases heq
      exact hsame ⟨rfl, rfl, rfl⟩

/-- An entry that issues nothing leaves live the links it does not end. -/
theorem live_ended {entry : Entry σ ω ι} (hentry : ∀ s o e, entry ≠ .issued s o e) :
    Live (log ++ [entry]) secret owner expiresAt ↔
      Entry.ends secret owner entry = false ∧ Live log secret owner expiresAt := by
  have hissues : Entry.issues secret owner expiresAt entry = false := by
    show (entry == Entry.issued secret owner expiresAt) = false
    exact beq_eq_false_iff_ne.mpr (hentry secret owner expiresAt)
  unfold Live
  rw [← Log.lastWord_iff, ← Log.lastWord_iff]
  cases hends : Entry.ends secret owner entry with
  | true => rw [Log.lastWord_correct hends hissues]; simp
  | false =>
    rw [Log.lastWord_append]
    · simp
    · intro x hx
      rw [List.mem_singleton.mp hx]
      exact ⟨hissues, hends⟩

end Log

section Tracks

variable [DecidableEq σ] [DecidableEq ω] [DecidableEq ι]

/-- Of the links that have not expired at `now`, the rows are those that are live. -/
def Tracks [LE ι] (digest : σ → δ) (link : α → Link δ ω ι) (rows : List α) (log : List (Entry σ ω ι))
    (now : ι) : Prop :=
  ∀ secret owner expiresAt, now ≤ expiresAt →
    ((∃ a ∈ rows, link a = ⟨digest secret, owner, expiresAt⟩) ↔ Live log secret owner expiresAt)

namespace Tracks

variable [Preorder ι] {digest : σ → δ} {link : α → Link δ ω ι} {rows rows' : List α} {log : List (Entry σ ω ι)}
  {now t : ι}

theorem nil : Tracks digest link [] ([] : List (Entry σ ω ι)) now :=
  fun _ _ _ _ => iff_of_false (by simp) not_live_nil

theorem later (h : Tracks digest link rows log now) (hlater : now ≤ t) :
    Tracks digest link rows log t :=
  fun secret owner expiresAt hexpires => h secret owner expiresAt (le_trans hlater hexpires)

/-- Expired rows are dropped. -/
theorem purge (h : Tracks digest link rows log now) (hsub : ∀ a ∈ rows', a ∈ rows)
    (hexpired : ∀ a ∈ rows, a ∉ rows' → (link a).expiresAt < now) :
    Tracks digest link rows' log now := by
  intro secret owner expiresAt hexpires
  rw [← h secret owner expiresAt hexpires]
  constructor
  · rintro ⟨a, ha, hlink⟩
    exact ⟨a, hsub a ha, hlink⟩
  · rintro ⟨a, ha, hlink⟩
    refine ⟨a, ?_, hlink⟩
    by_contra hgone
    have hlt := hexpired a ha hgone
    rw [hlink] at hlt
    exact absurd hexpires (not_le_of_gt hlt)

/-- **A link is issued**: its row and its entry. -/
theorem issue (hdigest : Function.Injective digest) (h : Tracks digest link rows log now) {a : α} {s : σ}
    {o : ω} {e : ι} (ha : link a = ⟨digest s, o, e⟩) :
    Tracks digest link (rows ++ [a]) (log ++ [.issued s o e]) now := by
  intro secret owner expiresAt hexpires
  rw [live_issued, ← h secret owner expiresAt hexpires]
  have hsame : link a = ⟨digest secret, owner, expiresAt⟩ ↔ s = secret ∧ o = owner ∧ e = expiresAt := by
    rw [ha, Link.ext_iff, hdigest.eq_iff]
  simp only [List.mem_append, List.mem_singleton, or_and_right, exists_or, exists_eq_left, hsame]
  exact or_comm

/-- **Links are ended**: an entry that issues nothing, and the rows of the links it ends. -/
theorem close (h : Tracks digest link rows log now) {entry : Entry σ ω ι}
    (hentry : ∀ s o e, entry ≠ .issued s o e)
    (hrows : ∀ a secret owner expiresAt, link a = ⟨digest secret, owner, expiresAt⟩ →
      (a ∈ rows' ↔ a ∈ rows ∧ Entry.ends secret owner entry = false)) :
    Tracks digest link rows' (log ++ [entry]) now := by
  intro secret owner expiresAt hexpires
  rw [live_ended hentry, ← h secret owner expiresAt hexpires]
  constructor
  · rintro ⟨a, ha, hlink⟩
    have hold := (hrows a secret owner expiresAt hlink).mp ha
    exact ⟨hold.2, a, hold.1, hlink⟩
  · rintro ⟨hends, a, ha, hlink⟩
    exact ⟨a, (hrows a secret owner expiresAt hlink).mpr ⟨ha, hends⟩, hlink⟩

end Tracks

end Tracks

end Links
