import SellerAgents.Concurrent.Pool

namespace Concurrent

variable {T C : Type} {R : C → Type} {ε α β γ σ : Type}

namespace Prog

/-- A program that has performed some calls goes on as another program. -/
inductive Leads : Prog C R ε α → List (Call C R) → Prog C R ε α → Prop where
  | here (p : Prog C R ε α) : Leads p [] p
  | call {command : C} {next : R command → Prog C R ε α} {answer : R command}
      {calls : List (Call C R)} {q : Prog C R ε α} (rest : Leads (next answer) calls q) :
      Leads (.act command next) (⟨command, answer⟩ :: calls) q

variable {command : C} {calls : List (Call C R)} {p q : Prog C R ε α}

theorem leads_ret_iff {value : α} :
    Leads (.ret value) calls q ↔ calls = [] ∧ q = .ret value := by
  constructor
  · rintro ⟨⟩
    exact ⟨rfl, rfl⟩
  · rintro ⟨rfl, rfl⟩
    exact .here _

theorem leads_throw_iff {error : ε} :
    Leads (.throw error) calls q ↔ calls = [] ∧ q = .throw error := by
  constructor
  · rintro ⟨⟩
    exact ⟨rfl, rfl⟩
  · rintro ⟨rfl, rfl⟩
    exact .here _

theorem leads_act_iff {next : R command → Prog C R ε α} : Leads (.act command next) calls q ↔
      (calls = [] ∧ q = .act command next) ∨
        ∃ answer rest, calls = ⟨command, answer⟩ :: rest ∧ Leads (next answer) rest q := by
  constructor
  · rintro (_ | ⟨hrest⟩)
    · exact .inl ⟨rfl, rfl⟩
    · exact .inr ⟨_, _, rfl, hrest⟩
  · rintro (⟨rfl, rfl⟩ | ⟨answer, rest, rfl, hrest⟩)
    · exact .here _
    · exact .call hrest

theorem Leads.trans {r : Prog C R ε α} {first rest : List (Call C R)} (h : Leads p first q)
    (h' : Leads q rest r) : Leads p (first ++ rest) r := by
  induction h with
  | here p => exact h'
  | call _ ih => exact .call (ih h')

theorem Leads.snoc {next : R command → Prog C R ε α} (h : Leads p calls (.act command next))
    (answer : R command) :
    Leads p (calls ++ [⟨command, answer⟩]) (next answer) :=
  h.trans (.call (.here _))

/-- A sequence is still in its first program, or that has returned. -/
theorem leads_bind {f : α → Prog C R ε γ} {q : Prog C R ε γ} (h : Leads (p.bind f) calls q) :
    (∃ p', Leads p calls p' ∧ q = p'.bind f) ∨
      ∃ value first rest, Leads p first (.ret value) ∧ Leads (f value) rest q ∧
        calls = first ++ rest := by
  induction p generalizing calls with
  | ret value => exact .inr ⟨value, [], calls, .here _, h, rfl⟩
  | throw error => exact .inl ⟨.throw error, (leads_throw_iff.mp h).1 ▸ .here _,
      (leads_throw_iff.mp h).2⟩
  | act command next ih =>
    rw [act_bind, leads_act_iff] at h
    rcases h with ⟨rfl, rfl⟩ | ⟨answer, rest, rfl, hrest⟩
    · exact .inl ⟨_, .here _, rfl⟩
    · rcases ih answer hrest with ⟨p', hp', rfl⟩ | ⟨value, first, last, hfirst, hlast, rfl⟩
      · exact .inl ⟨p', .call hp', rfl⟩
      · exact .inr ⟨value, _, last, .call hfirst, hlast, rfl⟩

/-- A sequence that is about to perform a command is there in one of its programs. -/
theorem leads_bind_act {f : α → Prog C R ε γ} {next : R command → Prog C R ε γ}
    (h : Leads (p.bind f) calls (.act command next)) :
    (∃ next', Leads p calls (.act command next')) ∨
      ∃ value first rest, Leads p first (.ret value) ∧ Leads (f value) rest (.act command next) ∧
        calls = first ++ rest := by
  rcases leads_bind h with ⟨p', hp', hq⟩ | hboth
  · cases p' with
    | ret value => exact .inr ⟨value, calls, [], hp', hq ▸ .here _, (List.append_nil _).symm⟩
    | throw error => cases hq
    | act command' next' =>
      cases hq
      exact .inl ⟨next', hp'⟩
  · exact .inr hboth

/-- What a program has performed is of the kind that it only performs, and so is what is left of it.
-/
theorem Leads.only {calm : C → Prop} {ok : α → Prop} (h : Leads p calls q) (hp : p.Only calm ok) :
    (∀ call ∈ calls, calm call.1) ∧ q.Only calm ok := by
  induction h with
  | here p => exact ⟨by simp, hp⟩
  | call rest ih =>
    obtain ⟨hcalls, hq⟩ := ih (hp.2 _)
    exact ⟨List.forall_mem_cons.mpr ⟨hp.1, hcalls⟩, hq⟩

theorem only_true (p : Prog C R ε α) : p.Only (fun _ => True) fun _ => True := by
  induction p with
  | ret value => trivial
  | throw error => trivial
  | act command next ih => exact ⟨trivial, ih⟩

end Prog

section History

open Prog (Call)

variable [DecidableEq T]

/-- The calls of one thread, in the order in which it made them. -/
def callsOf (t : T) : List (Event T C R ε β σ) → List (Call C R)
  | [] => []
  | .act other command answer _ _ :: log =>
    if other = t then callsOf t log ++ [⟨command, answer⟩] else callsOf t log
  | .env _ _ :: log => callsOf t log
  | .finish _ _ _ :: log => callsOf t log

@[simp] theorem callsOf_nil (t : T) : callsOf t ([] : List (Event T C R ε β σ)) = [] := rfl

@[simp] theorem callsOf_act_self (t : T) (command : C) (answer : R command) (pre post : σ)
    (log : List (Event T C R ε β σ)) :
    callsOf t (.act t command answer pre post :: log) = callsOf t log ++ [⟨command, answer⟩] :=
  if_pos rfl

@[simp] theorem callsOf_act_other {t other : T} (hne : other ≠ t) (command : C)
    (answer : R command) (pre post : σ) (log : List (Event T C R ε β σ)) :
    callsOf t (.act other command answer pre post :: log) = callsOf t log :=
  if_neg hne

theorem callsOf_append (t : T) (recent older : List (Event T C R ε β σ)) :
    callsOf t (recent ++ older) = callsOf t older ++ callsOf t recent := by
  induction recent with
  | nil => exact (List.append_nil _).symm
  | cons event recent ih =>
    cases event with
    | act other command answer pre post =>
      by_cases heq : other = t
      · subst heq
        rw [List.cons_append, callsOf_act_self, callsOf_act_self, ih, List.append_assoc]
      · rw [List.cons_append, callsOf_act_other heq, callsOf_act_other heq, ih]
    | env pre post => exact ih
    | finish other outcome s => exact ih

/-- The last call of a thread stands in the history with no call of the thread after it. -/
theorem exists_of_callsOf_snoc {t : T} {log : List (Event T C R ε β σ)}
    {calls : List (Call C R)} {call : Call C R} (h : callsOf t log = calls ++ [call]) :
    ∃ recent pre post rest, log = recent ++ .act t call.1 call.2 pre post :: rest ∧
      callsOf t recent = [] ∧ callsOf t rest = calls := by
  induction log with
  | nil =>
    rw [callsOf_nil] at h
    exact absurd h.symm (by simp)
  | cons event log ih =>
    have later : callsOf t log = calls ++ [call] → callsOf t [event] = [] →
        ∃ recent pre post rest, event :: log = recent ++ .act t call.1 call.2 pre post :: rest ∧
          callsOf t recent = [] ∧ callsOf t rest = calls := by
      intro hlog hevent
      obtain ⟨recent, pre, post, rest, rfl, hrecent, hrest⟩ := ih hlog
      refine ⟨event :: recent, pre, post, rest, rfl, ?_, hrest⟩
      rw [← List.singleton_append, callsOf_append, hrecent, hevent]
      rfl
    cases event with
    | act other command answer pre post =>
      by_cases heq : other = t
      · subst heq
        rw [callsOf_act_self] at h
        obtain ⟨hcalls, hcall⟩ := List.append_inj' h rfl
        cases hcall
        exact ⟨[], pre, post, log, rfl, rfl, hcalls⟩
      · rw [callsOf_act_other heq] at h
        exact later h (callsOf_act_other heq _ _ _ _ _)
    | env pre post => exact later h rfl
    | finish other outcome s => exact later h rfl

namespace System

variable {S : System T C R ε β σ}

/-- Where a thread stands agrees with the calls that it has made. -/
def Stands (S : System T C R ε β σ) (t : T) (log : List (Event T C R ε β σ)) :
    Thread C R ε β → Prop
  | .idle => callsOf t log = []
  | .running program => Prog.Leads (S.prelude t) (callsOf t log) program
  | .finished (.ok result) => Prog.Leads (S.prelude t) (callsOf t log) (.ret (some result))
  | .finished (.error error) => Prog.Leads (S.prelude t) (callsOf t log) (.throw error)

/-- What the program of a thread says about one entry of the history. -/
def Explained (S : System T C R ε β σ) (older : List (Event T C R ε β σ)) :
    Event T C R ε β σ → Prop
  | .act t command answer pre post => (∃ next, Prog.Leads (S.prelude t) (callsOf t older)
      (.act command next)) ∧ S.effect t command ⟨pre, older⟩ answer post
  | .env _ _ => True
  | .finish t (.ok result) _ => Prog.Leads (S.prelude t) (callsOf t older) (.ret (some result))
  | .finish t (.error error) _ => Prog.Leads (S.prelude t) (callsOf t older) (.throw error)

theorem Stands.congr {t : T} {log log' : List (Event T C R ε β σ)} {thread : Thread C R ε β}
    (h : S.Stands t log thread) (heq : callsOf t log' = callsOf t log) : S.Stands t log' thread := by
  unfold Stands at h ⊢
  rw [heq]
  exact h

variable {cfg : Config T C R ε β σ} {s : σ}

/-- In every run of threads that never loop, the calls of each thread are a path through its
program, and so is what every entry of the history was preceded by. -/
theorem Reachable.explained
    (once : ∀ t, (S.prelude t).Only (fun _ => True) fun result => result.isSome)
    (h : S.Reachable s cfg) :
    (∀ t, S.Stands t cfg.world.log (cfg.pool t)) ∧
      ∀ event older, (event :: older) <:+ cfg.world.log → S.Explained older event := by
  induction h with
  | refl =>
    refine ⟨fun t => rfl, fun event older hsuffix => ?_⟩
    have := List.suffix_nil.mp hsuffix
    cases this
  | @tail cfg cfg' _ hstep ih =>
    obtain ⟨hstands, hlog⟩ := ih
    -- A thread that changed its place stands right, and the calls of the others are as before.
    have update : ∀ {log' : List (Event T C R ε β σ)} (t : T) (thread : Thread C R ε β),
        S.Stands t log' thread →
        (∀ other, other ≠ t → callsOf other log' = callsOf other cfg.world.log) →
        ∀ t', S.Stands t' log' (Function.update cfg.pool t thread t') := by
      intro log' t thread hthread hsame t'
      by_cases heq : t' = t
      · subst heq
        simpa using hthread
      · simpa [heq] using (hstands t').congr (hsame t' heq)
    have append : ∀ {new : Event T C R ε β σ}, S.Explained cfg.world.log new →
        ∀ event older, (event :: older) <:+ new :: cfg.world.log → S.Explained older event := by
      intro new hnew event older hsuffix
      rcases List.suffix_cons_iff.mp hsuffix with heq | hsuffix
      · cases heq
        exact hnew
      · exact hlog event older hsuffix
    cases hstep with
    | start t idle =>
      refine ⟨update t _ ?_ fun _ _ => rfl, hlog⟩
      have hnone : callsOf t cfg.world.log = [] := by simpa [idle, Stands] using hstands t
      change Prog.Leads (S.prelude t) (callsOf t cfg.world.log) (S.prelude t)
      rw [hnone]
      exact .here _
    | @act t _ command next answer s run eff =>
      have hleads : Prog.Leads (S.prelude t) (callsOf t cfg.world.log) (.act command next) := by
        simpa [run, Stands] using hstands t
      refine ⟨update t _ ?_ fun other hne => callsOf_act_other hne.symm _ _ _ _ _,
        append ⟨⟨next, hleads⟩, eff⟩⟩
      simpa [Stands] using hleads.snoc answer
    | again t run =>
      have hleads : Prog.Leads (S.prelude t) (callsOf t cfg.world.log) (.ret none) := by
        simpa [run, Stands] using hstands t
      cases (hleads.only (once t)).2
    | @finish t _ result run =>
      have hleads : Prog.Leads (S.prelude t) (callsOf t cfg.world.log) (.ret (some result)) := by
        simpa [run, Stands] using hstands t
      exact ⟨update t _ hleads fun _ _ => rfl, append hleads⟩
    | @fail t _ error run =>
      have hleads : Prog.Leads (S.prelude t) (callsOf t cfg.world.log) (.throw error) := by
        simpa [run, Stands] using hstands t
      exact ⟨update t _ hleads fun _ _ => rfl, append hleads⟩
    | env change =>
      exact ⟨fun t => (hstands t).congr rfl, append trivial⟩

/-- What holds at the start and is kept by every effect holds now, and it held before every call of
the history. -/
theorem Reachable.invariant {I : World T C R ε β σ → Prop} (start : I (World.start s))
    (act : ∀ t c w r s', I w → S.effect t c w r s' → I (w.act t c r s'))
    (env : ∀ w s', I w → S.env w s' → I (w.env s'))
    (finish : ∀ w t outcome, I w → I (w.finish t outcome)) (h : S.Reachable s cfg) :
    I cfg.world ∧ ∀ t c r pre post older,
      (.act t c r pre post :: older) <:+ cfg.world.log → I ⟨pre, older⟩ := by
  induction h with
  | refl =>
    refine ⟨start, ?_⟩
    intro t c r pre post older hsuffix
    cases List.suffix_nil.mp hsuffix
  | @tail cfg cfg' _ hstep ih =>
    obtain ⟨hnow, hlog⟩ := ih
    cases hstep with
    | start t idle => exact ⟨hnow, hlog⟩
    | again t run => exact ⟨hnow, hlog⟩
    | act t run eff =>
      refine ⟨act _ _ _ _ _ hnow eff, ?_⟩
      intro t' c' r' pre post older hsuffix
      rcases List.suffix_cons_iff.mp hsuffix with heq | hsuffix
      · cases heq
        exact hnow
      · exact hlog t' c' r' pre post older hsuffix
    | finish t run =>
      refine ⟨finish _ _ _ hnow, ?_⟩
      intro t' c' r' pre post older hsuffix
      rcases List.suffix_cons_iff.mp hsuffix with heq | hsuffix
      · cases heq
      · exact hlog t' c' r' pre post older hsuffix
    | fail t run =>
      refine ⟨finish _ _ _ hnow, ?_⟩
      intro t' c' r' pre post older hsuffix
      rcases List.suffix_cons_iff.mp hsuffix with heq | hsuffix
      · cases heq
      · exact hlog t' c' r' pre post older hsuffix
    | env change =>
      refine ⟨env _ _ hnow change, ?_⟩
      intro t' c' r' pre post older hsuffix
      rcases List.suffix_cons_iff.mp hsuffix with heq | hsuffix
      · cases heq
      · exact hlog t' c' r' pre post older hsuffix

/-- The same for threads that never loop, where a thread performs a command only when its program
has come to it. -/
theorem Reachable.invariant_of_leads
    (once : ∀ t, (S.prelude t).Only (fun _ => True) fun result => result.isSome)
    {I : World T C R ε β σ → Prop} (start : I (World.start s))
    (act : ∀ t c w r s', I w → (∃ next, Prog.Leads (S.prelude t) (callsOf t w.log) (.act c next)) →
      S.effect t c w r s' → I (w.act t c r s')) (env : ∀ w s', I w → S.env w s' → I (w.env s'))
    (finish : ∀ w t outcome, I w → I (w.finish t outcome)) (h : S.Reachable s cfg) :
    I cfg.world := by
  induction h with
  | refl => exact start
  | @tail cfg cfg' hreach hstep ih =>
    have hstands := (Reachable.explained once hreach).1
    cases hstep with
    | start t idle => exact ih
    | again t run => exact ih
    | @act t _ command next answer s run eff =>
      have hleads : Prog.Leads (S.prelude t) (callsOf t cfg.world.log) (.act command next) := by
        simpa [run, Stands] using hstands t
      exact act _ _ _ _ _ ih ⟨next, hleads⟩ eff
    | finish t run => exact finish _ _ _ ih
    | fail t run => exact finish _ _ _ ih
    | env change => exact env _ _ ih change

/-- Every call of the history was made in a configuration that the run had reached. -/
theorem Reachable.at_act (h : S.Reachable s cfg) {t : T} {c : C} {r : R c} {pre post : σ}
    {older : List (Event T C R ε β σ)} (hsuffix : (.act t c r pre post :: older) <:+ cfg.world.log) :
    ∃ pool, S.Reachable s ⟨pool, ⟨pre, older⟩⟩ := by
  induction h with
  | refl => cases List.suffix_nil.mp hsuffix
  | @tail cfg cfg' hreach hstep ih =>
    cases hstep with
    | start t idle => exact ih hsuffix
    | again t run => exact ih hsuffix
    | act t run eff =>
      rcases List.suffix_cons_iff.mp hsuffix with heq | hsuffix
      · cases heq
        exact ⟨cfg.pool, hreach⟩
      · exact ih hsuffix
    | finish t run => exact ih ((List.suffix_cons_iff.mp hsuffix).resolve_left (by simp))
    | fail t run => exact ih ((List.suffix_cons_iff.mp hsuffix).resolve_left (by simp))
    | env change => exact ih ((List.suffix_cons_iff.mp hsuffix).resolve_left (by simp))

end System

end History

end Concurrent
