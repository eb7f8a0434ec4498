import Mathlib.Logic.Relation
import SellerAgents.Concurrent.Program

namespace Concurrent

/-- One entry of the history of a run, with the shared state before and after. -/
inductive Event (T C : Type) (R : C → Type) (ε β σ : Type) where
  | act (thread : T) (command : C) (answer : R command) (pre post : σ)
  | env (pre post : σ)
  | finish (thread : T) (outcome : Except ε β) (at_ : σ)

/-- The shared state together with its history, newest event first. -/
structure World (T C : Type) (R : C → Type) (ε β σ : Type) where
  state : σ
  log : List (Event T C R ε β σ)

/-- What a thread of the pool is doing. -/
inductive Thread (C : Type) (R : C → Type) (ε β : Type) where
  | idle
  | running (program : Prog C R ε (Option β))
  | finished (outcome : Except ε β)

/-- The whole configuration: every thread and the shared world. -/
structure Config (T C : Type) (R : C → Type) (ε β σ : Type) where
  pool : T → Thread C R ε β
  world : World T C R ε β σ

/-- A system of threads over one shared state. A thread runs its prelude once and then its body
until one of them returns a result. The environment may change the shared state at any time, as
`env` allows. -/
structure System (T C : Type) (R : C → Type) (ε β σ : Type) where
  prelude : T → Prog C R ε (Option β)
  body : T → Prog C R ε (Option β)
  effect : T → (command : C) → World T C R ε β σ → R command → σ → Prop
  env : World T C R ε β σ → σ → Prop

variable {T C : Type} {R : C → Type} {ε β σ : Type}

namespace World

/-- The world after a thread performed one command. -/
def act (w : World T C R ε β σ) (thread : T) (command : C) (answer : R command) (s : σ) :
    World T C R ε β σ := ⟨s, .act thread command answer w.state s :: w.log⟩

/-- The world after a step of the environment. -/
def env (w : World T C R ε β σ) (s : σ) : World T C R ε β σ := ⟨s, .env w.state s :: w.log⟩

/-- The world after a thread ended. -/
def finish (w : World T C R ε β σ) (thread : T) (outcome : Except ε β) : World T C R ε β σ :=
  ⟨w.state, .finish thread outcome w.state :: w.log⟩

/-- The world before anything happened. -/
def start (s : σ) : World T C R ε β σ := ⟨s, []⟩

@[simp] theorem act_state (w : World T C R ε β σ) (t : T) (c : C) (r : R c) (s : σ) :
    (w.act t c r s).state = s := rfl

@[simp] theorem act_log (w : World T C R ε β σ) (t : T) (c : C) (r : R c) (s : σ) :
    (w.act t c r s).log = .act t c r w.state s :: w.log := rfl

@[simp] theorem env_state (w : World T C R ε β σ) (s : σ) : (w.env s).state = s := rfl

@[simp] theorem finish_state (w : World T C R ε β σ) (t : T) (o : Except ε β) :
    (w.finish t o).state = w.state := rfl

@[simp] theorem finish_log (w : World T C R ε β σ) (t : T) (o : Except ε β) :
    (w.finish t o).log = .finish t o w.state :: w.log := rfl

@[simp] theorem start_state (s : σ) : (start s : World T C R ε β σ).state = s := rfl

@[simp] theorem start_log (s : σ) : (start s : World T C R ε β σ).log = [] := rfl

end World

namespace System

variable (S : System T C R ε β σ)

/-- The same system, with runs limited to the commands and environment steps that a condition
admits. -/
def restrict (thread : T → (command : C) → World T C R ε β σ → R command → Prop) :
    System T C R ε β σ where
  prelude := S.prelude
  body := S.body
  effect t c w r s := S.effect t c w r s ∧ thread t c w r
  env := S.env

/-- An assertion method for the threads of a system: a global invariant, the precondition under
which a thread performs a command, the changes of the world a thread tolerates from the others, and
what holds when it returns. -/
structure Protocol (T C : Type) (R : C → Type) (ε β σ : Type) where
  inv : World T C R ε β σ → Prop
  pre : T → (command : C) → World T C R ε β σ → Prop
  rely : T → World T C R ε β σ → World T C R ε β σ → Prop
  post : T → β → World T C R ε β σ → Prop

variable {S} (P : Protocol T C R ε β σ)

/-- The worlds from which a thread's program meets the preconditions of all its commands and ends in
its postconditions, whatever the others do between its commands within the rely. -/
def wp (S : System T C R ε β σ) (t : T) {α : Type} :
    Prog C R ε α → (α → World T C R ε β σ → Prop) → (ε → World T C R ε β σ → Prop) →
      World T C R ε β σ → Prop
  | .ret value, Q, _, w => ∀ w', P.rely t w w' → P.inv w' → Q value w'
  | .throw error, _, E, w => ∀ w', P.rely t w w' → P.inv w' → E error w'
  | .act command next, Q, E, w => ∀ w', P.rely t w w' → P.inv w' → P.pre t command w' ∧
      ∀ answer s, S.effect t command w' answer s → P.inv (w'.act t command answer s) →
        wp S t (next answer) Q E (w'.act t command answer s)

/-- The postcondition of a prelude or body: a returned result meets `post`. -/
def ending (t : T) : Option β → World T C R ε β σ → Prop
  | none, _ => True
  | some result, w => P.post t result w

/-- The proof obligations of the method. -/
structure Sound (S : System T C R ε β σ) (P : Protocol T C R ε β σ) (s : σ) : Prop where
  rely_refl : ∀ t w, P.rely t w w
  rely_trans : ∀ t w w' w'', P.rely t w w' → P.rely t w' w'' → P.rely t w w''
  start : P.inv (World.start s)
  act : ∀ t c w r s', P.inv w → P.pre t c w → S.effect t c w r s' →
    P.inv (w.act t c r s') ∧ ∀ other, other ≠ t → P.rely other w (w.act t c r s')
  env : ∀ w s', P.inv w → S.env w s' → P.inv (w.env s') ∧ ∀ t, P.rely t w (w.env s')
  finish : ∀ t o w, P.inv w → (∀ result, o = .ok result → P.post t result w) →
    P.inv (w.finish t o) ∧ ∀ other, P.rely other w (w.finish t o)
  prelude : ∀ t w, P.inv w → wp P S t (S.prelude t) (ending P t) (fun _ _ => True) w
  body : ∀ t w, P.inv w → wp P S t (S.body t) (ending P t) (fun _ _ => True) w

/-- The thread has not performed any command. -/
def Fresh (t : T) (w : World T C R ε β σ) : Prop :=
  ∀ (c : C) (r : R c) (pre post : σ), Event.act t c r pre post ∉ w.log

variable {other t : T} {α : Type} {w : World T C R ε β σ} {E : ε → World T C R ε β σ → Prop}

theorem Fresh.act {c : C} {r : R c} {s : σ} (h : Fresh other w) (hne : other ≠ t) :
    Fresh other (w.act t c r s) := by
  intro c' r' pre post hmem
  rcases List.mem_cons.mp hmem with heq | hmem
  · cases heq
    exact hne rfl
  · exact h c' r' pre post hmem

theorem Fresh.finish {o : Except ε β} (h : Fresh other w) :
    Fresh other (w.finish t o) := by
  intro c r pre post hmem
  rcases List.mem_cons.mp hmem with heq | hmem
  · cases heq
  · exact h c r pre post hmem

theorem Fresh.env {s : σ} (h : Fresh other w) :
    Fresh other (w.env s) := by
  intro c r pre post hmem
  rcases List.mem_cons.mp hmem with heq | hmem
  · cases heq
  · exact h c r pre post hmem

/-- The proof obligations when a prelude may count on the thread not having performed anything yet.
-/
structure FreshSound (S : System T C R ε β σ) (P : Protocol T C R ε β σ) (s : σ) : Prop where
  rely_refl : ∀ t w, P.rely t w w
  rely_trans : ∀ t w w' w'', P.rely t w w' → P.rely t w' w'' → P.rely t w w''
  start : P.inv (World.start s)
  act : ∀ t c w r s', P.inv w → P.pre t c w → S.effect t c w r s' →
    P.inv (w.act t c r s') ∧ ∀ other, other ≠ t → P.rely other w (w.act t c r s')
  env : ∀ w s', P.inv w → S.env w s' → P.inv (w.env s') ∧ ∀ t, P.rely t w (w.env s')
  finish : ∀ t o w, P.inv w → (∀ result, o = .ok result → P.post t result w) →
    P.inv (w.finish t o) ∧ ∀ other, P.rely other w (w.finish t o)
  prelude : ∀ t w, P.inv w → Fresh t w →
    wp P S t (S.prelude t) (ending P t) (fun _ _ => True) w
  body : ∀ t w, P.inv w → wp P S t (S.body t) (ending P t) (fun _ _ => True) w

/-- What holds of a thread in every reachable configuration. -/
def ThreadOk (S : System T C R ε β σ) (P : Protocol T C R ε β σ) (t : T)
    (w : World T C R ε β σ) : Thread C R ε β → Prop
  | .idle => True
  | .running program => wp P S t program (ending P t) (fun _ _ => True) w
  | .finished _ => True

variable {P} {s : σ}

/-- A weakest precondition survives every change the rely allows. -/
theorem wp_stable (trans : ∀ t w w' w'', P.rely t w w' → P.rely t w' w'' → P.rely t w w'')
    {p : Prog C R ε α} {Q : α → World T C R ε β σ → Prop} {w' : World T C R ε β σ}
    (h : wp P S t p Q E w) (hrely : P.rely t w w') : wp P S t p Q E w' := by
  cases p <;> exact fun w'' hr hinv => h w'' (trans _ _ _ _ hrely hr) hinv

/-- Weakest preconditions are monotone in both postconditions. -/
theorem wp_mono {p : Prog C R ε α} {Q Q' : α → World T C R ε β σ → Prop}
    {E' : ε → World T C R ε β σ → Prop} (h : wp P S t p Q E w)
    (hQ : ∀ value w', P.inv w' → Q value w' → Q' value w')
    (hE : ∀ error w', P.inv w' → E error w' → E' error w') : wp P S t p Q' E' w := by
  induction p generalizing w with
  | ret value => exact fun w' hr hinv => hQ _ _ hinv (h w' hr hinv)
  | throw error => exact fun w' hr hinv => hE _ _ hinv (h w' hr hinv)
  | act command next ih =>
    intro w' hr hinv
    obtain ⟨hpre, hnext⟩ := h w' hr hinv
    exact ⟨hpre, fun answer s heff hinv' => ih answer (hnext answer s heff hinv')⟩

section Rules

variable (refl : ∀ t w, P.rely t w w)

include refl

variable {t : T} {α : Type} {w : World T C R ε β σ} {E : ε → World T C R ε β σ → Prop}

/-- The sequence rule. -/
theorem wp_bind {α' : Type} {p : Prog C R ε α} {f : α → Prog C R ε α'}
    {Q : α' → World T C R ε β σ → Prop} (h : wp P S t p (fun value => wp P S t (f value) Q E) E w) :
    wp P S t (p.bind f) Q E w := by
  induction p generalizing w with
  | ret value =>
    have at_once : ∀ w', P.rely t w w' → P.inv w' → wp P S t (f value) Q E w' := h
    simp only [Prog.ret_bind]
    generalize f value = q at at_once
    cases q <;> exact fun w' hr hinv => at_once w' hr hinv w' (refl t w') hinv
  | throw error => exact h
  | act command next ih =>
    intro w' hr hinv
    obtain ⟨hpre, hnext⟩ := h w' hr hinv
    exact ⟨hpre, fun answer s heff hinv' => ih answer (hnext answer s heff hinv')⟩

omit refl in
/-- The rule of `try`: an error of the guarded program is an ordinary outcome. -/
theorem wp_attempt {p : Prog C R ε α} {Q : Except ε α → World T C R ε β σ → Prop}
    (h : wp P S t p (fun value => Q (.ok value)) (fun error => Q (.error error)) w) :
    wp P S t p.attempt Q E w := by
  induction p generalizing w with
  | ret value => exact h
  | throw error => exact h
  | act command next ih =>
    intro w' hr hinv
    obtain ⟨hpre, hnext⟩ := h w' hr hinv
    exact ⟨hpre, fun answer s heff hinv' => ih answer (hnext answer s heff hinv')⟩

omit refl in
/-- The rule for a program of calm commands: commands that may always be performed and that change
nothing a thread relies on. -/
theorem wp_only {p : Prog C R ε α} {calm : C → Prop} {ok : α → Prop}
    {Q : α → World T C R ε β σ → Prop}
    (trans : ∀ t w w' w'', P.rely t w w' → P.rely t w' w'' → P.rely t w w'')
    (hcalm : ∀ c, calm c → ∀ w, P.inv w → P.pre t c w ∧
      ∀ r s, S.effect t c w r s → P.inv (w.act t c r s) → P.rely t w (w.act t c r s))
    (h : p.Only calm ok) (hQ : ∀ value, ok value → ∀ w', P.rely t w w' → P.inv w' → Q value w')
    (hE : ∀ error w', P.rely t w w' → P.inv w' → E error w') : wp P S t p Q E w := by
  induction p generalizing w with
  | ret value => exact hQ value h
  | throw error => exact hE error
  | act command next ih =>
    intro w' hr hinv
    obtain ⟨hpre, hstep⟩ := hcalm command h.1 w' hinv
    refine ⟨hpre, fun answer s heff hinv' => ?_⟩
    have hlater : P.rely t w (w'.act t command answer s) :=
      trans _ _ _ _ hr (hstep answer s heff hinv')
    exact ih answer (h.2 answer) (fun value hok w'' hr' => hQ value hok w'' (trans _ _ _ _ hlater hr'))
      (fun error w'' hr' => hE error w'' (trans _ _ _ _ hlater hr'))

end Rules

/-- Limiting the runs of a system keeps its proof outline valid. -/
theorem wp_restrict {cond : T → (command : C) → World T C R ε β σ → R command → Prop}
    {p : Prog C R ε α} {Q : α → World T C R ε β σ → Prop} (h : wp P S t p Q E w) :
    wp P (S.restrict cond) t p Q E w := by
  induction p generalizing w with
  | ret value => exact h
  | throw error => exact h
  | act command next ih =>
    intro w' hr hinv
    obtain ⟨hpre, hnext⟩ := h w' hr hinv
    exact ⟨hpre, fun answer s heff hinv' => ih answer (hnext answer s heff.1 hinv')⟩

section Runs

variable [DecidableEq T]

variable (S) in
/-- One step of the pool. A thread that never steps again models a worker that stopped at that
command. -/
inductive Step : Config T C R ε β σ → Config T C R ε β σ → Prop where
  | start (t : T) {cfg : Config T C R ε β σ} (idle : cfg.pool t = .idle) :
      Step cfg ⟨Function.update cfg.pool t (.running (S.prelude t)), cfg.world⟩
  | act (t : T) {cfg : Config T C R ε β σ} {command : C} {next : R command → Prog C R ε (Option β)}
      {answer : R command} {s : σ} (run : cfg.pool t = .running (.act command next))
      (eff : S.effect t command cfg.world answer s) :
      Step cfg ⟨Function.update cfg.pool t (.running (next answer)), cfg.world.act t command answer s⟩
  | again (t : T) {cfg : Config T C R ε β σ} (run : cfg.pool t = .running (.ret none)) :
      Step cfg ⟨Function.update cfg.pool t (.running (S.body t)), cfg.world⟩
  | finish (t : T) {cfg : Config T C R ε β σ} {result : β}
      (run : cfg.pool t = .running (.ret (some result))) :
      Step cfg ⟨Function.update cfg.pool t (.finished (.ok result)), cfg.world.finish t (.ok result)⟩
  | fail (t : T) {cfg : Config T C R ε β σ} {error : ε} (run : cfg.pool t = .running (.throw error)) :
      Step cfg ⟨Function.update cfg.pool t (.finished (.error error)),
        cfg.world.finish t (.error error)⟩
  | env {cfg : Config T C R ε β σ} {s : σ} (change : S.env cfg.world s) :
      Step cfg ⟨cfg.pool, cfg.world.env s⟩

variable (S) in
/-- Any finite number of steps. -/
def Steps : Config T C R ε β σ → Config T C R ε β σ → Prop := Relation.ReflTransGen S.Step

/-- All threads idle over a given shared state. -/
def initial (s : σ) : Config T C R ε β σ := ⟨fun _ => .idle, World.start s⟩

variable (S) in
/-- The configurations of the runs that start at a shared state. -/
def Reachable (s : σ) (cfg : Config T C R ε β σ) : Prop := S.Steps (initial s) cfg

omit [DecidableEq T] in
theorem Sound.fresh (hs : Sound S P s) : FreshSound S P s where
  rely_refl := hs.rely_refl
  rely_trans := hs.rely_trans
  start := hs.start
  act := hs.act
  env := hs.env
  finish := hs.finish
  prelude t w hinv _ := hs.prelude t w hinv
  body := hs.body

variable {cfg : Config T C R ε β σ}

/-- Soundness of the method: in every run the invariant holds, every running thread is at a program
that meets its preconditions, and a thread that has not started has performed nothing. -/
theorem FreshSound.reachable (hs : FreshSound S P s) (h : S.Reachable s cfg) :
    P.inv cfg.world ∧ ∀ t, ThreadOk S P t cfg.world (cfg.pool t) ∧
      (cfg.pool t = .idle → Fresh t cfg.world) := by
  induction h with
  | refl => exact ⟨hs.start, fun t => ⟨trivial, fun _ _ _ _ _ hmem => absurd hmem List.not_mem_nil⟩⟩
  | @tail cfg cfg' _ hstep ih =>
    obtain ⟨hinv, hok⟩ := ih
    have keep : ∀ {w' : World T C R ε β σ} (t : T), P.rely t cfg.world w' →
        (Fresh t cfg.world → Fresh t w') → ThreadOk S P t w' (cfg.pool t) ∧
          (cfg.pool t = .idle → Fresh t w') := by
      intro w' t hrely hfresh
      obtain ⟨ht, hidle⟩ := hok t
      refine ⟨?_, fun h => hfresh (hidle h)⟩
      cases hpool : cfg.pool t with
      | idle => trivial
      | finished => trivial
      | running program =>
        rw [hpool] at ht
        exact wp_stable hs.rely_trans ht hrely
    have others : ∀ {w' : World T C R ε β σ} (t : T) (thread : Thread C R ε β),
        ThreadOk S P t w' thread → thread ≠ .idle →
        (∀ other, other ≠ t → P.rely other cfg.world w' ∧ (Fresh other cfg.world → Fresh other w')) →
        ∀ t', ThreadOk S P t' w' (Function.update cfg.pool t thread t') ∧
          (Function.update cfg.pool t thread t' = .idle → Fresh t' w') := by
      intro w' t thread hthread hbusy hrely t'
      by_cases heq : t' = t
      · subst heq
        simpa using ⟨hthread, fun h => absurd h hbusy⟩
      · simpa [heq] using keep t' (hrely t' heq).1 (hrely t' heq).2
    cases hstep with
    | start t idle =>
      exact ⟨hinv, others t _ (hs.prelude t _ hinv ((hok t).2 idle)) (by simp)
        fun _ _ => ⟨hs.rely_refl _ _, id⟩⟩
    | act t run eff =>
      have ht := (hok t).1
      rw [run] at ht
      obtain ⟨hpre, hnext⟩ := ht _ (hs.rely_refl _ _) hinv
      obtain ⟨hinv', hrely⟩ := hs.act _ _ _ _ _ hinv hpre eff
      exact ⟨hinv', others t _ (hnext _ _ eff hinv') (by simp)
        fun other hne => ⟨hrely other hne, fun hfresh => hfresh.act hne⟩⟩
    | again t run =>
      exact ⟨hinv, others t _ (hs.body t _ hinv) (by simp)
        fun _ _ => ⟨hs.rely_refl _ _, id⟩⟩
    | finish t run =>
      have ht := (hok t).1
      rw [run] at ht
      obtain ⟨hinv', hrely⟩ := hs.finish t (.ok _) _ hinv
        (by rintro _ ⟨⟩; exact ht _ (hs.rely_refl _ _) hinv)
      exact ⟨hinv', others t _ trivial (by simp)
        fun other _ => ⟨hrely other, Fresh.finish⟩⟩
    | fail t run =>
      obtain ⟨hinv', hrely⟩ := hs.finish t (.error _) _ hinv (by rintro _ ⟨⟩)
      exact ⟨hinv', others t _ trivial (by simp)
        fun other _ => ⟨hrely other, Fresh.finish⟩⟩
    | env change =>
      obtain ⟨hinv', hrely⟩ := hs.env _ _ hinv change
      exact ⟨hinv', fun t => keep t (hrely t) Fresh.env⟩

/-- Soundness of the method: in every run the invariant holds, and every running thread is at a
program that meets its preconditions. -/
theorem Sound.reachable (hs : Sound S P s) (h : S.Reachable s cfg) :
    P.inv cfg.world ∧ ∀ t, ThreadOk S P t cfg.world (cfg.pool t) := by
  obtain ⟨hinv, hok⟩ := hs.fresh.reachable h
  exact ⟨hinv, fun t => (hok t).1⟩

/-- Every command a thread performs in a run is performed under its precondition. -/
theorem Sound.pre_of_step (hs : Sound S P s) (h : S.Reachable s cfg) {t : T} {command : C}
    {next : R command → Prog C R ε (Option β)} (run : cfg.pool t = .running (.act command next)) :
    P.pre t command cfg.world := by
  obtain ⟨hinv, hok⟩ := hs.reachable h
  have ht := hok t
  rw [run] at ht
  exact (ht _ (hs.rely_refl _ _) hinv).1

/-- The induction rule for runs of a sound system: a property of the world is kept by every run if
each command performed under its precondition keeps it, and so do the environment and every end of a
thread. -/
theorem Sound.steps_induct (hs : Sound S P s) {I : World T C R ε β σ → Prop}
    (act : ∀ t c w r s', P.inv w → I w → P.pre t c w → S.effect t c w r s' → I (w.act t c r s'))
    (env : ∀ w s', P.inv w → I w → S.env w s' → I (w.env s'))
    (finish : ∀ t o w, P.inv w → I w → (∀ result, o = .ok result → P.post t result w) →
      I (w.finish t o)) {cfg' : Config T C R ε β σ} (hreach : S.Reachable s cfg) (hI : I cfg.world)
    (h : S.Steps cfg cfg') : I cfg'.world := by
  induction h with
  | refl => exact hI
  | @tail mid last hmid hstep ih =>
    have hreach' : S.Reachable s mid := hreach.trans hmid
    have hinv := (hs.reachable hreach').1
    cases hstep with
    | start t idle => exact ih
    | act t run eff => exact act _ _ _ _ _ hinv ih (hs.pre_of_step hreach' run) eff
    | again t run => exact ih
    | finish t run =>
      have ht := (hs.reachable hreach').2 t
      rw [run] at ht
      exact finish _ _ _ hinv ih (by rintro _ ⟨⟩; exact ht _ (hs.rely_refl _ _) hinv)
    | fail t run => exact finish _ _ _ hinv ih (by rintro _ ⟨⟩)
    | env change => exact env _ _ hinv ih change

omit [DecidableEq T] in
/-- A system whose runs are limited by a condition is sound for the same protocol, so `steps_induct`
gives the condition at every step. -/
theorem Sound.restrict (hs : Sound S P s)
    (cond : T → (command : C) → World T C R ε β σ → R command → Prop) :
    Sound (S.restrict cond) P s where
  rely_refl := hs.rely_refl
  rely_trans := hs.rely_trans
  start := hs.start
  act t c w r s' hinv hpre heff := hs.act t c w r s' hinv hpre heff.1
  env := hs.env
  finish := hs.finish
  prelude t w hinv := wp_restrict (hs.prelude t w hinv)
  body t w hinv := wp_restrict (hs.body t w hinv)

end Runs

end System

end Concurrent
