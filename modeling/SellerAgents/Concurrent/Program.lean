import Mathlib.Data.List.Basic

namespace Concurrent

/-- A worker's program. It ends with a value, throws, or performs one command and continues with the
command's answer. -/
inductive Prog (C : Type) (R : C → Type) (ε α : Type) where
  | ret (value : α)
  | throw (error : ε)
  | act (command : C) (next : R command → Prog C R ε α)

namespace Prog

variable {C : Type} {R : C → Type} {ε α β γ : Type}

/-- Sequencing. An error of the first program ends the whole. -/
def bind : Prog C R ε α → (α → Prog C R ε β) → Prog C R ε β
  | ret value, f => f value
  | throw error, _ => throw error
  | act command next, f => act command fun answer => (next answer).bind f

instance : Monad (Prog C R ε) where
  pure := ret
  bind := bind

/-- The body of a `try` block: an error becomes an ordinary value. -/
def attempt : Prog C R ε α → Prog C R ε (Except ε α)
  | ret value => ret (.ok value)
  | throw error => ret (.error error)
  | act command next => act command fun answer => (next answer).attempt

/-- Performs one command and returns its answer. -/
def perform (command : C) : Prog C R ε (R command) := act command ret

/-- Ends with the value of an `Except`, or throws its error. -/
def ofExcept : Except ε α → Prog C R ε α
  | .ok value => ret value
  | .error error => throw error

@[simp] theorem pure_eq (value : α) : (pure value : Prog C R ε α) = ret value := rfl

@[simp] theorem bind_eq (p : Prog C R ε α) (f : α → Prog C R ε β) : p >>= f = p.bind f := rfl

@[simp] theorem ret_bind (value : α) (f : α → Prog C R ε β) : (ret value).bind f = f value := rfl

@[simp] theorem throw_bind (error : ε) (f : α → Prog C R ε β) :
    (throw error : Prog C R ε α).bind f = throw error := rfl

@[simp] theorem act_bind (command : C) (next : R command → Prog C R ε α) (f : α → Prog C R ε β) :
    (act command next).bind f = act command fun answer => (next answer).bind f := rfl

@[simp] theorem ofExcept_ok (value : α) : (ofExcept (.ok value) : Prog C R ε α) = ret value := rfl

theorem bind_assoc (p : Prog C R ε α) (f : α → Prog C R ε β) (g : β → Prog C R ε γ) :
    (p.bind f).bind g = p.bind fun value => (f value).bind g := by
  induction p with
  | ret value => rfl
  | throw error => rfl
  | act command next ih => simp only [act_bind, ih]

/-- A program that only performs commands of one kind and only returns values of one kind. -/
def Only (calm : C → Prop) (ok : α → Prop) : Prog C R ε α → Prop
  | ret value => ok value
  | throw _ => True
  | act command next => calm command ∧ ∀ answer, (next answer).Only calm ok

section Only

variable {calm : C → Prop}

variable {p : Prog C R ε α}

theorem only_mono {ok ok' : α → Prop} (h : p.Only calm ok) (hok : ∀ value, ok value → ok' value) :
    p.Only calm ok' := by
  induction p with
  | ret value => exact hok value h
  | throw error => trivial
  | act command next ih => exact ⟨h.1, fun answer => ih answer (h.2 answer)⟩

theorem only_bind {ok : β → Prop} {f : α → Prog C R ε β}
    (h : p.Only calm fun value => (f value).Only calm ok) : (p.bind f).Only calm ok := by
  induction p with
  | ret value => exact h
  | throw error => trivial
  | act command next ih => exact ⟨h.1, fun answer => ih answer (h.2 answer)⟩

theorem only_attempt {ok : Except ε α → Prop} (h : p.Only calm fun value => ok (.ok value))
    (herror : ∀ error, ok (.error error)) :
    p.attempt.Only calm ok := by
  induction p with
  | ret value => exact h
  | throw error => exact herror error
  | act command next ih => exact ⟨h.1, fun answer => ih answer (h.2 answer)⟩

theorem only_ofExcept {ok : α → Prop} {result : Except ε α}
    (h : ∀ value, result = .ok value → ok value) :
    (ofExcept result : Prog C R ε α).Only calm ok := by
  cases result with
  | ok value => exact h value rfl
  | error error => trivial

end Only

/-- One performed command with its answer. -/
abbrev Call (C : Type) (R : C → Type) : Type := (command : C) × R command

section Sequential

variable {σ : Type} (effect : (command : C) → σ → R command → σ → Prop)

/-- A run of one program on its own: no other worker moves between its commands. The trace lists the
commands in order, with their answers. -/
inductive Runs : Prog C R ε α → σ → List (Call C R) → Except ε α → σ → Prop where
  | ret (value : α) (s : σ) : Runs (.ret value) s [] (.ok value) s
  | throw (error : ε) (s : σ) : Runs (.throw error) s [] (.error error) s
  | act {command : C} {next : R command → Prog C R ε α} {s s' s'' : σ} {answer : R command}
      {trace : List (Call C R)} {outcome : Except ε α}
      (step : effect command s answer s') (rest : Runs (next answer) s' trace outcome s'') :
      Runs (.act command next) s (⟨command, answer⟩ :: trace) outcome s''

/-- A call of a worker on its own: the prelude, then the body again and again until one of them
returns a result or throws. -/
inductive Loops (body : Prog C R ε (Option β)) :
    Prog C R ε (Option β) → σ → List (Call C R) → Except ε β → σ → Prop where
  | finish {p : Prog C R ε (Option β)} {s s' : σ} {trace : List (Call C R)} {result : β}
      (run : Runs effect p s trace (.ok (some result)) s') : Loops body p s trace (.ok result) s'
  | fail {p : Prog C R ε (Option β)} {s s' : σ} {trace : List (Call C R)} {error : ε}
      (run : Runs effect p s trace (.error error) s') : Loops body p s trace (.error error) s'
  | again {p : Prog C R ε (Option β)} {s s' s'' : σ} {first rest : List (Call C R)}
      {outcome : Except ε β} (run : Runs effect p s first (.ok none) s')
      (more : Loops body body s' rest outcome s'') :
      Loops body p s (first ++ rest) outcome s''

variable {effect}

variable {outcome : Except ε α} {trace : List (Call C R)} {p : Prog C R ε α} {s s' : σ}

theorem runs_ret_iff {value : α} :
    Runs effect (.ret value) s trace outcome s' ↔ trace = [] ∧ outcome = .ok value ∧ s' = s := by
  constructor
  · rintro ⟨⟩
    exact ⟨rfl, rfl, rfl⟩
  · rintro ⟨rfl, rfl, rfl⟩
    exact .ret value _

theorem runs_throw_iff {error : ε} :
    Runs effect (.throw error) s trace outcome s' ↔
      trace = [] ∧ outcome = .error error ∧ s' = s := by
  constructor
  · rintro ⟨⟩
    exact ⟨rfl, rfl, rfl⟩
  · rintro ⟨rfl, rfl, rfl⟩
    exact .throw error _

theorem runs_act_iff {command : C} {next : R command → Prog C R ε α} {s'' : σ} :
    Runs effect (.act command next) s trace outcome s'' ↔
      ∃ answer s' rest, effect command s answer s' ∧ Runs effect (next answer) s' rest outcome s'' ∧
        trace = ⟨command, answer⟩ :: rest := by
  constructor
  · rintro (_ | _ | ⟨hstep, hrest⟩)
    exact ⟨_, _, _, hstep, hrest, rfl⟩
  · rintro ⟨answer, s', rest, hstep, hrest, rfl⟩
    exact .act hstep hrest

/-- A run of a sequence is a run of the first program that throws, or a run of the first that
returns followed by a run of the second. -/
theorem runs_bind_iff {f : α → Prog C R ε β} {s'' : σ} {outcome : Except ε β} :
    Runs effect (p.bind f) s trace outcome s'' ↔
      (∃ error, Runs effect p s trace (.error error) s'' ∧ outcome = .error error) ∨
      ∃ value s' first rest, Runs effect p s first (.ok value) s' ∧
        Runs effect (f value) s' rest outcome s'' ∧ trace = first ++ rest := by
  induction p generalizing s trace with
  | ret value =>
    simp [runs_ret_iff]
  | throw error => simp [runs_throw_iff, and_left_comm, and_assoc]; tauto
  | act command next ih =>
    simp only [act_bind, runs_act_iff, ih]
    constructor
    · rintro ⟨answer, s', rest, hstep, ⟨error, hrun, rfl⟩ | ⟨value, s1, first, last, hrun, hf, rfl⟩, rfl⟩
      · exact .inl ⟨error, ⟨answer, s', rest, hstep, hrun, rfl⟩, rfl⟩
      · exact .inr ⟨value, s1, _, last, ⟨answer, s', first, hstep, hrun, rfl⟩, hf, rfl⟩
    · rintro (⟨error, ⟨answer, s', rest, hstep, hrun, rfl⟩, rfl⟩ |
        ⟨value, s1, _, last, ⟨answer, s', first, hstep, hrun, rfl⟩, hf, rfl⟩)
      · exact ⟨answer, s', rest, hstep, .inl ⟨error, hrun, rfl⟩, rfl⟩
      · exact ⟨answer, s', first ++ last, hstep, .inr ⟨value, s1, first, last, hrun, hf, rfl⟩, rfl⟩

/-- A `try` block always returns, with the outcome of the program it guards. -/
theorem runs_attempt_iff {outcome : Except ε (Except ε α)} :
    Runs effect p.attempt s trace outcome s' ↔
      ∃ inner, outcome = .ok inner ∧ Runs effect p s trace inner s' := by
  induction p generalizing s trace with
  | ret value =>
    simp only [attempt, runs_ret_iff]
    constructor
    · rintro ⟨rfl, rfl, rfl⟩
      exact ⟨_, rfl, rfl, rfl, rfl⟩
    · rintro ⟨_, rfl, rfl, rfl, rfl⟩
      exact ⟨rfl, rfl, rfl⟩
  | throw error =>
    simp only [attempt, runs_ret_iff, runs_throw_iff]
    constructor
    · rintro ⟨rfl, rfl, rfl⟩
      exact ⟨_, rfl, rfl, rfl, rfl⟩
    · rintro ⟨_, rfl, rfl, rfl, rfl⟩
      exact ⟨rfl, rfl, rfl⟩
  | act command next ih =>
    simp only [attempt, runs_act_iff, ih]
    constructor
    · rintro ⟨answer, s1, rest, hstep, ⟨inner, rfl, hrun⟩, rfl⟩
      exact ⟨inner, rfl, answer, s1, rest, hstep, hrun, rfl⟩
    · rintro ⟨inner, rfl, answer, s1, rest, hstep, hrun, rfl⟩
      exact ⟨answer, s1, rest, hstep, ⟨inner, rfl, hrun⟩, rfl⟩

/-- A run of a program that only performs commands of one kind has no others in its trace, and ends
in a value of the expected kind. -/
theorem runs_only {calm : C → Prop} {ok : α → Prop} (h : Runs effect p s trace outcome s')
    (hp : p.Only calm ok) :
    (∀ call ∈ trace, calm call.1) ∧ ∀ value, outcome = .ok value → ok value := by
  induction h with
  | ret value s =>
    refine ⟨by simp, fun value' heq => ?_⟩
    cases heq
    exact hp
  | throw error s => exact ⟨by simp, fun value heq => by cases heq⟩
  | act step rest ih =>
    obtain ⟨htrace, hvalue⟩ := ih (hp.2 _)
    refine ⟨fun call hmem => ?_, hvalue⟩
    rcases List.mem_cons.mp hmem with rfl | hmem
    · exact hp.1
    · exact htrace call hmem

end Sequential

end Prog

end Concurrent
