import Mathlib.Order.Defs.Unbundled
import Mathlib.Tactic.Basic

namespace Relational

/-- A transaction: it reads and writes the database, or throws and leaves it as it was. -/
abbrev Tx (σ α : Type) : Type := StateT σ (Except String) α

variable {σ α β : Type}

/-- A constraint: the transaction goes on only if it holds. -/
def ensure (p : Prop) [Decidable p] (message : String) : Tx σ Unit :=
  if p then pure () else throw message

/-- Every result the transaction commits from `s` meets the postcondition. -/
def Commits (x : Tx σ α) (s : σ) (post : α → σ → Prop) : Prop :=
  ∀ a s', x s = .ok (a, s') → post a s'

variable {p : Prop} {message : String} {x : Tx σ α} {s : σ}

theorem Commits.mono {post post' : α → σ → Prop} (h : Commits x s post)
    (himp : ∀ a s', post a s' → post' a s') : Commits x s post' :=
  fun a s' hx => himp a s' (h a s' hx)

theorem Commits.and {post post' : α → σ → Prop} (h : Commits x s post) (h' : Commits x s post') :
    Commits x s fun a s' => post a s' ∧ post' a s' :=
  fun a s' hx => ⟨h a s' hx, h' a s' hx⟩

@[simp] theorem commits_pure {a : α} {s : σ} {post : α → σ → Prop} :
    Commits (pure a : Tx σ α) s post ↔ post a s := by
  constructor
  · exact fun h => h a s rfl
  · intro h a' s' hx
    cases hx
    exact h

@[simp] theorem commits_bind {x : Tx σ α} {f : α → Tx σ β} {s : σ} {post : β → σ → Prop} :
    Commits (x >>= f) s post ↔ Commits x s fun a s' => Commits (f a) s' post := by
  constructor
  · intro h a s' hx b s'' hf
    refine h b s'' ?_
    change (x s).bind (fun r => f r.1 r.2) = _
    rw [hx]
    exact hf
  · intro h b s'' hbind
    change (x s).bind (fun r => f r.1 r.2) = _ at hbind
    cases hx : x s with
    | error e =>
      rw [hx] at hbind
      cases hbind
    | ok r =>
      rw [hx] at hbind
      exact h r.1 r.2 hx b s'' hbind

@[simp] theorem commits_map {x : Tx σ α} {f : α → β} {s : σ} {post : β → σ → Prop} :
    Commits (f <$> x) s post ↔ Commits x s fun a s' => post (f a) s' := by
  rw [map_eq_pure_bind, commits_bind]
  simp only [commits_pure]

@[simp] theorem commits_throw {message : String} {s : σ} {post : α → σ → Prop} :
    Commits (throw message : Tx σ α) s post := by
  intro a s' hx
  cases hx

@[simp] theorem commits_get {s : σ} {post : σ → σ → Prop} :
    Commits (get : Tx σ σ) s post ↔ post s s := by
  constructor
  · exact fun h => h s s rfl
  · intro h a s' hx
    cases hx
    exact h

@[simp] theorem commits_modify {f : σ → σ} {s : σ} {post : PUnit → σ → Prop} :
    Commits (modify f : Tx σ PUnit) s post ↔ post .unit (f s) := by
  constructor
  · exact fun h => h .unit (f s) rfl
  · intro h a s' hx
    cases hx
    exact h

@[simp] theorem commits_ensure {p : Prop} [Decidable p] {message : String} {s : σ}
    {post : Unit → σ → Prop} : Commits (ensure p message) s post ↔ (p → post () s) := by
  by_cases hp : p <;> simp [ensure, hp]

@[simp] theorem commits_ite {c : Prop} [Decidable c] {x y : Tx σ α} {s : σ}
    {post : α → σ → Prop} :
    Commits (if c then x else y) s post ↔ (c → Commits x s post) ∧ (¬c → Commits y s post) := by
  by_cases hc : c <;> simp [hc]

/-! What a transaction does, step by step. -/

theorem ok_bind {f : α → Tx σ β} {s' : σ} {a : α} (hx : x s = .ok (a, s')) :
    (x >>= f) s = f a s' := by
  change (x s).bind (fun r => f r.1 r.2) = _
  rw [hx]
  rfl

theorem ok_ensure [Decidable p] (hp : p) :
    ensure p message s = .ok ((), s) := by
  simp only [ensure, if_pos hp]
  rfl

theorem error_bind {f : α → Tx σ β} (hx : x s = .error message) : (x >>= f) s = .error message := by
  change (x s).bind (fun r => f r.1 r.2) = _
  rw [hx]
  rfl

theorem error_ensure [Decidable p] (hp : ¬ p) :
    ensure p message s = .error message := by
  simp only [ensure, if_neg hp]
  rfl

theorem get_bind {f : σ → Tx σ β} : (get >>= f : Tx σ β) s = f s s := rfl

theorem modify_bind {g : σ → σ} {f : PUnit → Tx σ β} :
    (modify g >>= f : Tx σ β) s = f .unit (g s) := rfl

theorem ensure_bind [Decidable p] {f : Unit → Tx σ β} (hp : p) :
    (ensure p message >>= f) s = f () s := ok_bind (ok_ensure hp)

/-- The database after a transaction: a throw rolls it back. -/
def commit (x : Tx σ α) (s : σ) : σ :=
  match x s with
  | .ok (_, s') => s'
  | .error _ => s

/-- A property of the old state that every commit keeps is kept by the transaction. -/
theorem commit_induct {P : σ → Prop} (hrollback : P s) (hcommit : Commits x s fun _ s' => P s') :
    P (commit x s) := by
  unfold commit
  split
  · next a s' hx => exact hcommit a s' hx
  · exact hrollback

/-! Relations that every statement of a transaction keeps. -/

/-- Every commit of the transaction moves the database along the relation. -/
def Keeps (R : σ → σ → Prop) (x : Tx σ α) : Prop := ∀ s, Commits x s fun _ s' => R s s'

section Keeps

variable {R : σ → σ → Prop}

variable {x : Tx σ α}

/-- The relation to an earlier database goes on. -/
theorem Keeps.after [IsTrans σ R] (h : Keeps R x) {s s' : σ} (hs : R s s') :
    Commits x s' fun _ s'' => R s s'' :=
  (h s').mono fun _ s'' hx => IsTrans.trans s s' s'' hs hx

theorem keeps_throw (message : String) : Keeps R (throw message : Tx σ α) :=
  fun _ => commits_throw

theorem keeps_pure [Std.Refl R] (a : α) : Keeps R (pure a : Tx σ α) := by
  intro s
  rw [commits_pure]
  exact refl s

theorem keeps_get [Std.Refl R] : Keeps R (get : Tx σ σ) := by
  intro s
  rw [commits_get]
  exact refl s

theorem keeps_ensure [Std.Refl R] (p : Prop) [Decidable p] (message : String) :
    Keeps R (ensure p message) := by
  intro s
  rw [commits_ensure]
  exact fun _ => refl s

/-- The sequence rule, with what the first part leaves behind. -/
theorem commits_seq [IsTrans σ R] {f : α → Tx σ β} {s : σ} {Q : α → σ → Prop}
    (hx : Commits x s fun a s' => R s s' ∧ Q a s')
    (hf : ∀ a s', R s s' → Q a s' → Commits (f a) s' fun _ s'' => R s' s'') :
    Commits (x >>= f) s fun _ s' => R s s' := by
  rw [commits_bind]
  refine hx.mono fun a s' h => ?_
  exact (hf a s' h.1 h.2).mono fun _ s'' h' => IsTrans.trans _ _ _ h.1 h'

theorem keeps_bind [IsTrans σ R] {f : α → Tx σ β} (hx : Keeps R x) (hf : ∀ a, Keeps R (f a)) :
    Keeps R (x >>= f) := by
  intro s
  refine commits_seq (Q := fun _ _ => True) ((hx s).mono fun _ _ h => ⟨h, trivial⟩) ?_
  exact fun a s' _ _ => hf a s'

theorem keeps_ite {c : Prop} [Decidable c] {y : Tx σ α} (hx : c → Keeps R x) (hy : ¬ c → Keeps R y) : Keeps R (if c then x else y) := by
  split
  · next h => exact hx h
  · next h => exact hy h

end Keeps

end Relational
