import SellerAgents.Concurrent.Pool

namespace Concurrent

variable {T C : Type} {R : C → Type} {ε β σ : Type}

namespace Prog

variable {α : Type}

/-- Runs a program with a deterministic answer to every command. -/
def run (answer : (c : C) → σ → R c × σ) : Prog C R ε α → σ → Except ε α × σ
  | ret value, s => (.ok value, s)
  | throw error, s => (.error error, s)
  | act command next, s =>
    let step := answer command s
    (next step.1).run answer step.2

theorem run_bind {β' : Type} (answer : (c : C) → σ → R c × σ) (p : Prog C R ε α)
    (f : α → Prog C R ε β') (s : σ) : (p.bind f).run answer s =
      match p.run answer s with
      | (.ok value, s') => (f value).run answer s'
      | (.error error, s') => (.error error, s') := by
  induction p generalizing s with
  | ret value => rfl
  | throw error => rfl
  | act command next ih => exact ih _ _

theorem run_attempt (answer : (c : C) → σ → R c × σ) (p : Prog C R ε α) (s : σ) :
    p.attempt.run answer s = (.ok (p.run answer s).1, (p.run answer s).2) := by
  induction p generalizing s with
  | ret value => rfl
  | throw error => rfl
  | act command next ih => exact ih _ _

/-- The commands of that run with their answers. -/
def trace (answer : (c : C) → σ → R c × σ) : Prog C R ε α → σ → List (Call C R)
  | ret _, _ => []
  | throw _, _ => []
  | act command next, s =>
    let step := answer command s
    ⟨command, step.1⟩ :: (next step.1).trace answer step.2

/-- A deterministic run is a run, if every answer is a possible one. -/
theorem run_runs {effect : (c : C) → σ → R c → σ → Prop} {answer : (c : C) → σ → R c × σ}
    (hanswer : ∀ c s, effect c s (answer c s).1 (answer c s).2) (p : Prog C R ε α) (s : σ) :
    Runs effect p s (p.trace answer s) (p.run answer s).1 (p.run answer s).2 := by
  induction p generalizing s with
  | ret value => exact .ret value s
  | throw error => exact .throw error s
  | act command next ih => exact .act (hanswer command s) (ih _ _)

end Prog

namespace System

variable {S : System T C R ε β σ} [DecidableEq T]

/-- One deterministic turn of a thread: it starts, performs its next command with the given answer,
goes on with its loop, or ends. -/
def turn (S : System T C R ε β σ) (answer : T → (c : C) → σ → R c × σ)
    (cfg : Config T C R ε β σ) (t : T) : Config T C R ε β σ :=
  match cfg.pool t with
  | .idle => ⟨Function.update cfg.pool t (.running (S.prelude t)), cfg.world⟩
  | .running (.act command next) =>
    let step := answer t command cfg.world.state
    ⟨Function.update cfg.pool t (.running (next step.1)), cfg.world.act t command step.1 step.2⟩
  | .running (.ret none) => ⟨Function.update cfg.pool t (.running (S.body t)), cfg.world⟩
  | .running (.ret (some result)) =>
    ⟨Function.update cfg.pool t (.finished (.ok result)), cfg.world.finish t (.ok result)⟩
  | .running (.throw error) =>
    ⟨Function.update cfg.pool t (.finished (.error error)), cfg.world.finish t (.error error)⟩
  | .finished _ => cfg

/-- The turns of a schedule. -/
def replay (S : System T C R ε β σ) (answer : T → (c : C) → σ → R c × σ) (schedule : List T)
    (s : σ) : Config T C R ε β σ := schedule.foldl (S.turn answer) (initial s)

variable {answer : T → (c : C) → σ → R c × σ}

section

variable (hanswer : ∀ t c w, S.effect t c w (answer t c w.state).1 (answer t c w.state).2)
include hanswer

theorem turn_steps (cfg : Config T C R ε β σ) (t : T) : S.Steps cfg (S.turn answer cfg t) := by
  unfold turn
  split
  · rename_i h
    exact .single (.start t h)
  · rename_i command next h
    exact .single (.act t h (hanswer t command cfg.world))
  · rename_i h
    exact .single (.again t h)
  · rename_i result h
    exact .single (.finish t h)
  · rename_i error h
    exact .single (.fail t h)
  · exact .refl

/-- The turns of a schedule are steps, if every answer is a possible one. -/
theorem turns_steps (schedule : List T) (cfg : Config T C R ε β σ) :
    S.Steps cfg (schedule.foldl (S.turn answer) cfg) := by
  induction schedule generalizing cfg with
  | nil => exact .refl
  | cons t rest ih => exact (turn_steps hanswer cfg t).trans (ih _)

/-- Every replayed schedule is a run. -/
theorem replay_reachable (schedule : List T) (s : σ) : S.Reachable s (S.replay answer schedule s) :=
  turns_steps hanswer schedule _

end

/-- A turn whose command has to meet a condition. -/
def checkedTurn (S : System T C R ε β σ) (cond : T → (c : C) → World T C R ε β σ → R c → Bool)
    (answer : T → (c : C) → σ → R c × σ) (cfg : Config T C R ε β σ) (t : T) : Config T C R ε β σ :=
  match cfg.pool t with
  | .running (.act command _) =>
    if cond t command cfg.world (answer t command cfg.world.state).1 then S.turn answer cfg t else cfg
  | _ => S.turn answer cfg t

theorem checkedTurn_steps {cond : T → (c : C) → World T C R ε β σ → R c → Bool}
    (hanswer : ∀ t c w, S.effect t c w (answer t c w.state).1 (answer t c w.state).2)
    (cfg : Config T C R ε β σ) (t : T) :
    (S.restrict fun t c w r => cond t c w r = true).Steps cfg (S.checkedTurn cond answer cfg t) := by
  unfold checkedTurn
  split
  · rename_i command next hrun
    split
    · rename_i hcond
      unfold turn
      simp only [hrun]
      exact .single (.act t hrun ⟨hanswer t command cfg.world, hcond⟩)
    · exact .refl
  · rename_i hquiet
    unfold turn
    split
    · rename_i h
      exact .single (.start t h)
    · rename_i command next h
      exact absurd h (hquiet command next)
    · rename_i h
      exact .single (.again t h)
    · rename_i result h
      exact .single (.finish t h)
    · rename_i error h
      exact .single (.fail t h)
    · exact .refl

/-- The checked turns of a schedule are steps of the restricted system. -/
theorem checkedTurns_steps {cond : T → (c : C) → World T C R ε β σ → R c → Bool}
    (hanswer : ∀ t c w, S.effect t c w (answer t c w.state).1 (answer t c w.state).2)
    (schedule : List T) (cfg : Config T C R ε β σ) :
    (S.restrict fun t c w r => cond t c w r = true).Steps cfg
      (schedule.foldl (S.checkedTurn cond answer) cfg) := by
  induction schedule generalizing cfg with
  | nil => exact .refl
  | cons t rest ih => exact (checkedTurn_steps hanswer cfg t).trans (ih _)

end System

end Concurrent
