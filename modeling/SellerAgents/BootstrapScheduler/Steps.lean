import SellerAgents.BootstrapScheduler.Admissions

namespace SellerAgents.BootstrapScheduler
open Js (JsMap)

/-- What a waiter may be told: an allowing result only from the active job, while its fence is
current and no commit of it is open or was a revocation, and `NOT_STARTED` only when the run of its
job was not called. -/
def World.Warranted (w : World) (id : Nat) : Outcome → Prop
  | .resolved => ∃ job, w.jobs id = some job ∧ w.assertCurrent job = .current ∧
      job.commitStarted = false ∧ job.revocationCommitted = false
  | .rejected _ .notStarted => id ∉ w.runs
  | .rejected _ .outcomeUnknown => True
  | .failed => True

/-- What one step may do to the runs, the waiters and the end of the scheduler. -/
structure Effects (w : World) (r : Register) : Prop where
  started : r.runs = w.runs ∨ ∃ id job, r.runs = id :: w.runs ∧ w.jobs id = some job ∧
    w.assertCurrent job = .current
  settled : ∃ news, r.settlements = news ++ w.settlements ∧ ∀ waiter outcome,
    (waiter, outcome) ∈ news → ∃ entry, w.waiters waiter = some entry ∧ w.Warranted entry.job outcome
  closed : w.closed = true → r.closed = true

/-- What a register keeps between two frames. -/
structure Register.Steady (r : Register) : Prop where
  coherent : r.Coherent
  held : r.Held

def Frame.isExpire : Frame → Bool
  | .expire _ _ => true
  | _ => false

/-- No loop over the waiters of a queued job is under way. -/
def World.Calm (w : World) : Prop := ∀ frame ∈ w.stack, frame.isExpire = false

/-- What a part of a step does. -/
structure Kept (w w' : World) : Prop where
  steady : w'.register.Steady
  effects : Effects w w'.register
  calm : w.Calm → w'.Calm

namespace Register

variable {r : Register} {id : Nat} {job : Job}

theorem Held.update {r' : Register} {job' : Job} (h : r.Held)
    (hjobs : r'.jobs = Function.update r.jobs id (some job'))
    (hplace : ∀ other, other ≠ id → other ∈ r.queue ∨ r.active = some other →
      other ∈ r'.queue ∨ r'.active = some other)
    (hself : job'.waiters ≠ [] → id ∈ r'.queue ∨ r'.active = some id) : r'.Held := by
  intro other job₁ hother hopen
  obtain ⟨rfl, rfl⟩ | ⟨hne, hold⟩ := update_cases hjobs hother
  · exact hself hopen
  · exact hplace other hne (h other job₁ hold hopen)

section

variable (h : r.Steady) (hjob : r.jobs id = some job)
include h hjob

theorem Steady.edit {job' : Job} (hkey : job'.key = job.key) (hwaiters : job'.waiters = job.waiters)
    (hverdict : job.state = .settled →
      job'.state = .settled ∧ job'.revocationCommitted = job.revocationCommitted)
    (hsound : JobSound r id job') : (r.edit id job').Steady :=
  ⟨h.coherent.edit hjob hkey hwaiters hverdict hsound, h.held.update rfl (fun _ _ hplace => hplace)
    fun hopen => h.held id job hjob (hwaiters ▸ hopen)⟩

theorem Steady.release {waiter : Nat} (hmem : waiter ∈ job.waiters) {outcome : Outcome}
    (hnot : outcome ≠ .resolved) :
    (r.release id waiter outcome).Steady :=
  ⟨h.coherent.release hjob hmem fun hresolved => absurd hresolved hnot,
    h.held.update (release_jobs hjob waiter outcome) (fun _ _ hplace => hplace) fun _ =>
      h.held id job hjob (List.ne_nil_of_mem hmem)⟩

/-- A job that is over leaves the scheduler with all its waiters settled. -/
theorem Steady.leave (hover : job.state = .retired ∨ job.state = .settled) {outcome : Outcome}
    (hallowed : outcome = .resolved →
      id ∈ r.runs ∧ job.state = .settled ∧ job.revocationCommitted = false) :
    ((r.remove id job.key).releaseAll id job.waiters outcome).Steady := by
  have hremoved : (r.remove id job.key).jobs id = some job := hjob
  obtain ⟨_, _, heq⟩ := releaseAll_eq (r.remove id job.key) id job.waiters outcome
  have hqueue := congrArg Register.queue heq
  have hactive := congrArg Register.active heq
  refine ⟨(h.coherent.remove hjob hover).releaseAll hjob (h.coherent.jobs id job hjob).distinct
    (fun _ hmem => hmem) hallowed, h.held.update (releaseAll_jobs hremoved job.waiters outcome)
    (fun other hne hplace => ?_) fun hopen => absurd ?_ hopen⟩
  · rw [hqueue, hactive]
    refine hplace.imp (List.mem_erase_of_ne hne).mpr fun hother => ?_
    change (if r.active = some id then none else r.active) = some other
    rw [if_neg, hother]
    rw [hother, Option.some.injEq]
    exact hne
  · exact List.filter_eq_nil_iff.mpr fun waiter hmem hnot => of_decide_eq_true hnot hmem

theorem Steady.join (hplace : id ∈ r.queue ∨ r.active = some id) (deadline : Int) (signal : Bool) :
    (r.join id deadline signal).Steady := by
  refine ⟨h.coherent.join hjob deadline signal, fun other job₁ hother hopen => ?_⟩
  by_cases heq : other = id
  · exact heq ▸ hplace
  · exact h.held other job₁ ((Function.update_of_ne heq _ _).symm.trans hother) hopen

end

theorem Steady.enqueue (h : r.Steady) (hroom : r.scopes.entries.length < 2) (hstate : job.state = .queued)
    (hdispatched : job.dispatched = false) (hcommit : job.commitStarted = false)
    (hwaiters : job.waiters = []) : (r.enqueue job).Steady :=
  ⟨h.coherent.enqueue hroom hstate hdispatched hcommit hwaiters, h.held.update rfl
    (fun _ _ => Or.imp_left (List.mem_append_left _)) fun hopen => absurd hwaiters hopen⟩

theorem Steady.activate (h : r.Steady) (hjob : r.jobs id = some job) (hhead : r.queue.head? = some id)
    (hidle : r.active = none) (deadline : Int) : (r.activate id job deadline).Steady := by
  refine ⟨h.coherent.activate hjob hhead hidle deadline, h.held.update rfl
    (fun other hne hold => .inl ?_) fun _ => .inr rfl⟩
  rw [hidle] at hold
  have hmem : other ∈ r.queue := hold.resolve_right nofun
  change other ∈ r.queue.tail
  cases hqueue : r.queue with
  | nil => rw [hqueue] at hhead; cases hhead
  | cons first rest =>
    rw [hqueue, List.head?_cons, Option.some.injEq] at hhead
    rw [hqueue, hhead] at hmem
    exact (List.mem_cons.mp hmem).resolve_left hne

theorem Steady.launch (h : r.Steady) (hjob : r.jobs id = some job) (hlaunch : id ∈ r.launches) :
    (r.launch id job).Steady :=
  ⟨h.coherent.launch hjob hlaunch, h.held.update rfl (fun _ _ hplace => hplace) (h.held id job hjob)⟩

/-- Jobs are no longer launched or run, or the scheduler ends. -/
theorem Steady.trim (h : r.Steady) {launches running : List Nat} {closed quarantined : Bool}
    (hlaunches : launches.Sublist r.launches) (hrunning : ∀ id ∈ running, id ∈ r.running)
    (hkept : r.quarantined = true → quarantined = true) (hshut : quarantined = true → closed = true) :
    Register.Steady { r with launches, running, closed, quarantined } := by
  have hc := h.coherent
  have hsub : (r.queue ++ launches ++ r.runs).Sublist (r.queue ++ r.launches ++ r.runs) :=
    (hlaunches.append_left _).append_right _
  refine ⟨⟨fun id job hjob => ?_, fun waiter entry hentry => ?_, hc.freshJob, hc.freshWaiter,
    hc.once.sublist hsub, fun id hmem => hc.known id (hsub.subset hmem), hc.placed, hc.recorded, hc.single,
    hshut, fun id hmem => hc.ran id (hrunning id hmem), hc.capacity⟩, h.held⟩
  · exact (hc.jobs id job hjob).carry Iff.rfl (fun hactive => hactive) Iff.rfl hkept
      fun _ _ hentry => hentry
  · exact ⟨(hc.waiters waiter entry hentry).owned, (hc.waiters waiter entry hentry).allowed⟩

end Register

namespace Kept

variable {w w' w'' : World}

/-- No run is called, no waiter settled, and no call begun. -/
theorem quiet (h : w'.register.Steady) (hruns : w'.runs = w.runs)
    (hsettlements : w'.settlements = w.settlements) (hclosed : w.closed = true → w'.closed = true)
    (hstack : w'.stack = w.stack) : Kept w w' :=
  ⟨h, ⟨.inl hruns, ⟨[], hsettlements, by simp⟩, hclosed⟩, fun hcalm frame hmem => hcalm frame (hstack ▸ hmem)⟩

theorem refl (h : w.register.Steady) : Kept w w := quiet h rfl rfl id rfl

/-- The surroundings may change, and calls may be left or begun. -/
theorem same (h : Kept w w') (hregister : w''.register = w'.register)
    (hstack : ∀ frame ∈ w''.stack, frame ∈ w'.stack ∨ frame.isExpire = false) : Kept w w'' := by
  refine ⟨hregister ▸ h.steady, hregister ▸ h.effects, fun hcalm frame hmem => ?_⟩
  exact (hstack frame hmem).elim (h.calm hcalm frame) id

theorem push (h : Kept w w') (frames : List Frame)
    (hframes : frames.any Frame.isExpire = false) : Kept w (w'.push frames) :=
  h.same rfl fun frame hmem => (List.mem_append.mp hmem).symm.imp_right fun hnew =>
    Bool.not_eq_true _ ▸ List.any_eq_false.mp hframes frame hnew

theorem answer (h : Kept w w') (answer : Answer) : Kept w (w'.answer answer) :=
  h.same rfl fun _ hmem => .inl hmem

theorem throw (h : Kept w w') : Kept w w'.throw :=
  h.same rfl fun _ hmem => .inl ((List.dropWhile_sublist _).subset hmem)

theorem shut (h : Kept w w') (quarantined : Bool) (hkept : w'.quarantined = true → quarantined = true) :
    Kept w { w' with closed := true, quarantined } :=
  ⟨h.steady.trim (List.Sublist.refl _) (fun _ hmem => hmem) hkept fun _ => rfl,
    ⟨h.effects.started, h.effects.settled, fun _ => rfl⟩, h.calm⟩

theorem quarantineAll (h : Kept w w') : Kept w w'.quarantineAll := by
  unfold World.quarantineAll
  split
  · exact (h.shut w'.quarantined id).push _ rfl
  · exact (h.shut true fun _ => rfl).push _ rfl

theorem observed (h : Kept w w') (verdict : Verdict) : Kept w (w'.observed verdict) := by
  unfold World.observed
  split
  · exact h.quarantineAll
  · exact h

end Kept

namespace World

variable {w w' : World} {id : Nat} {job : Job}

theorem nextSeq_eq {key : String} (h : w.nextSeq key = some w') :
    ∃ sequence, w' = { w with sequence } := by
  obtain ⟨-, hsome⟩ := Option.ite_none_right_eq_some.mp h
  cases hsome
  exact ⟨_, rfl⟩

theorem releaseWaiter_register (id : Nat) {waiter : Nat} {entry : Waiter} (outcome : Outcome)
    (hentry : w.waiters waiter = some entry) (hopen : entry.outcome = none) :
    (w.releaseWaiter id waiter outcome).register = w.register.release id waiter outcome := by
  simp only [releaseWaiter, hentry, hopen, Option.isSome_none, Bool.false_eq_true, if_false,
    Register.release, register, modifyJob, Option.map_some]

theorem releaseWaiter_stack (waiter : Nat) (outcome : Outcome) :
    (w.releaseWaiter id waiter outcome).stack = w.stack := by
  unfold releaseWaiter
  split
  · rfl
  · split <;> rfl

theorem releaseAll_stack (list : List Nat) (outcome : Outcome) :
    (w.releaseAll id list outcome).stack = w.stack := by
  induction list generalizing w with
  | nil => rfl
  | cons waiter rest ih =>
    exact (ih (w := w.releaseWaiter id waiter outcome)).trans (releaseWaiter_stack waiter outcome)

theorem releaseAll_register {list : List Nat} (hnodup : list.Nodup) {outcome : Outcome}
    (hopen : ∀ waiter ∈ list, ∃ entry, w.waiters waiter = some entry ∧ entry.outcome = none) :
    (w.releaseAll id list outcome).register = w.register.releaseAll id list outcome := by
  induction list generalizing w with
  | nil => rfl
  | cons waiter rest ih =>
    obtain ⟨hnew, hrest⟩ := List.nodup_cons.mp hnodup
    obtain ⟨entry, hentry, hnone⟩ := hopen waiter List.mem_cons_self
    have hfirst := releaseWaiter_register id outcome hentry hnone
    have hothers : ∀ other ∈ rest, ∃ entry,
        (w.releaseWaiter id waiter outcome).register.waiters other = some entry ∧ entry.outcome = none := by
      intro other hother
      have hne : other ≠ waiter := by
        rintro rfl
        exact hnew hother
      rw [hfirst]
      exact (hopen other (List.mem_cons_of_mem _ hother)).imp fun _ hentry =>
        ⟨(Function.update_of_ne hne _ _).trans hentry.1, hentry.2⟩
    have hall := ih hrest hothers
    rw [hfirst] at hall
    exact hall

/-- A waiter of a job is settled with an outcome that is warranted. -/
theorem kept_release (h : w.register.Steady) (hjob : w.jobs id = some job) {waiter : Nat}
    (hmem : waiter ∈ job.waiters) {outcome : Outcome} (hnot : outcome ≠ .resolved)
    (hwarrant : w.Warranted id outcome) : Kept w (w.releaseWaiter id waiter outcome) := by
  obtain ⟨entry, hentry, howner, hopen⟩ := (h.coherent.jobs id job hjob).listed waiter hmem
  have hregister := releaseWaiter_register id outcome hentry hopen
  refine ⟨?_, ?_, fun hcalm => ?_⟩
  · rw [hregister]
    exact h.release hjob hmem hnot
  · rw [hregister]
    refine ⟨.inl rfl, ⟨[(waiter, outcome)], rfl, fun other verdict hnew => ?_⟩, fun hclosed => hclosed⟩
    cases List.mem_singleton.mp hnew
    exact ⟨entry, hentry, howner.symm ▸ hwarrant⟩
  · unfold Calm
    rw [releaseWaiter_stack]
    exact hcalm

/-- A job leaves: its state changes, and all its waiters are told the outcome. -/
theorem kept_leave {v : World} (h : w.register.Steady) (hjob : w.jobs id = some job) {state : JobState}
    (hv : v.register = w.register.edit id { job with state := state }) (hstack : v.stack = w.stack)
    (hover : state = .retired ∨ state = .settled) (hlive : job.state ≠ .settled)
    (hwaiting : state = .settled → job.state ≠ .retired ∧ job.state ≠ .queued)
    (hcommit : job.commitStarted = true → w.quarantined = true) {outcome : Outcome}
    (hallowed : outcome = .resolved → id ∈ w.runs ∧ state = .settled ∧ job.revocationCommitted = false)
    (hwarrant : w.Warranted id outcome) :
    Kept w ((v.remove id job.key).releaseAll id job.waiters outcome) := by
  have hsound := h.coherent.jobs id job hjob
  have hedit : (w.register.edit id { job with state := state }).Steady := by
    refine h.edit hjob rfl rfl (fun hsettled => absurd hsettled hlive) ⟨?_, ?_, ?_,
      hsound.dispatched, hsound.distinct, hsound.listed, fun hc => .inr (hcommit hc)⟩
    · intro (hqueued : state = .queued)
      rw [hqueued] at hover
      exact absurd hover (by decide)
    · intro (hactive : state = .active)
      rw [hactive] at hover
      exact absurd hover (by decide)
    · intro hmem
      refine .inr (hover.resolve_right fun hsettled => ?_)
      exact (hsound.waiting hmem).elim (hwaiting hsettled).2 (hwaiting hsettled).1
  have hself : (w.register.edit id { job with state := state }).jobs id =
      some { job with state := state } := Function.update_self ..
  have hremove : (v.remove id job.key).register =
      (w.register.edit id { job with state := state }).remove id job.key := by
    rw [← hv]
    rfl
  have hregister : ((v.remove id job.key).releaseAll id job.waiters outcome).register =
      ((w.register.edit id { job with state := state }).remove id job.key).releaseAll id job.waiters
        outcome := by
    rw [releaseAll_register hsound.distinct, hremove]
    intro waiter hmem
    obtain ⟨entry, hentry, -, hopen⟩ := hsound.listed waiter hmem
    refine ⟨entry, ?_, hopen⟩
    change (v.remove id job.key).register.waiters waiter = some entry
    rw [hremove]
    exact hentry
  refine ⟨?_, ?_, fun hcalm => ?_⟩
  · rw [hregister]
    exact hedit.leave hself hover hallowed
  · obtain ⟨_, _, heq⟩ := Register.releaseAll_eq
      ((w.register.edit id { job with state := state }).remove id job.key) id job.waiters outcome
    rw [hregister, heq]
    refine ⟨.inl rfl, ⟨_, rfl, fun waiter verdict hnew => ?_⟩, fun hclosed => hclosed⟩
    obtain ⟨_, hmem, heq⟩ := List.mem_map.mp (List.mem_reverse.mp hnew)
    cases heq
    obtain ⟨entry, hentry, howner, -⟩ := hsound.listed waiter hmem
    exact ⟨entry, hentry, howner.symm ▸ hwarrant⟩
  · unfold Calm
    rw [releaseAll_stack]
    change ∀ frame ∈ v.stack, frame.isExpire = false
    rw [hstack]
    exact hcalm

theorem modifyJob_register (hjob : w.jobs id = some job) (f : Job → Job) :
    (w.modifyJob id f).register = w.register.edit id (f job) := by
  simp only [modifyJob, register, Register.edit, hjob, Option.map_some]

/-- `retire(job, code)`. -/
theorem kept_retire (h : w.register.Steady) (id : Nat) (code : String) : Kept w (w.retire id code) := by
  unfold retire
  split
  · exact Kept.refl h
  · rename_i job hjob
    have hsound := h.coherent.jobs id job hjob
    split
    · exact Kept.refl h
    · rename_i hstate
      have hlive : job.state ≠ .retired ∧ job.state ≠ .settled := by simpa using hstate
      split
      · exact (Kept.refl h).quarantineAll
      · rename_i hguard
        have hcommit : job.commitStarted = true → w.quarantined = true := by simpa using hguard
        have hmarked := modifyJob_register hjob fun job => { job with state := .retired }
        dsimp only
        split
        · rename_i hnone
          refine Kept.throw (Kept.quiet ?_ rfl rfl (fun hclosed => hclosed) rfl)
          rw [hmarked]
          exact h.edit hjob rfl rfl (fun hsettled => absurd hsettled hlive.2)
            ⟨nofun, nofun, fun _ => .inr rfl, hsound.dispatched, hsound.distinct, hsound.listed,
              fun hc => .inr (hcommit hc)⟩
        · rename_i advanced hadvanced
          have hsame : advanced.register = w.register.edit id { job with state := .retired } ∧
              advanced.stack = w.stack := by
            split at hadvanced
            · obtain ⟨_, rfl⟩ := nextSeq_eq hadvanced
              exact ⟨hmarked, rfl⟩
            · cases hadvanced
              exact ⟨hmarked, rfl⟩
          refine Kept.push (kept_leave h hjob hsame.1 hsame.2 (.inl rfl) hlive.2
            (fun hfalse => by cases hfalse) hcommit (fun hfalse => by cases hfalse) ?_) [.callback, .pump] rfl
          cases hdispatched : job.dispatched with
          | true => exact trivial
          | false =>
            change id ∉ w.runs
            intro hran
            rw [hsound.dispatched.mpr hran] at hdispatched
            cases hdispatched

theorem assertCurrent_eq (h : w.assertCurrent job = .current) :
    job.state = .active ∧ job.expired w.clock = false ∧ w.closed = false ∧
      w.sequence job.key = job.ticket.scopeSeq ∧ w.isFenceCurrent job.fence = .current := by
  unfold assertCurrent at h
  split at h
  · cases h
  · rename_i hguard
    simp only [Bool.or_eq_true, decide_eq_true_eq, not_or, ne_eq, not_not, Bool.not_eq_true] at hguard
    unfold current at h
    split at h
    · rename_i hcurrent
      simp only [Bool.and_eq_true, Bool.not_eq_true', decide_eq_true_eq] at hcurrent
      exact ⟨hguard.1, hguard.2, hcurrent.1.1, hcurrent.2, h⟩
    · cases h

/-- `settle(job, ok, value)`. -/
theorem kept_settle (h : w.register.Steady) {ok : Bool} (hran : ok = true → id ∈ w.runs) :
    Kept w (w.settle id ok) := by
  have hlate : ∀ v, Kept w v → Kept w (v.push [.late id]) := fun v hv =>
    hv.push _ rfl
  unfold settle
  split
  · exact Kept.refl h
  · rename_i job hjob
    split
    · exact hlate w (Kept.refl h)
    · rename_i hactive
      have hstate : job.state = .active := not_not.mp hactive
      split
      · exact (hlate w (Kept.refl h)).quarantineAll
      · rename_i hcommit
        split
        · exact (Kept.refl h).quarantineAll
        · rename_i hrevoked
          split
          · exact (Kept.refl h).push _ rfl
          · rename_i hexpired
            dsimp only
            by_cases hverdict : (if job.revocationCommitted then .current else w.current job) = Verdict.current
            · rw [if_pos hverdict]
              have hnever : ok = true → job.revocationCommitted = false := by
                intro hok
                simpa [hok] using hrevoked
              have hmark := modifyJob_register hjob fun job => { job with state := .settled }
              refine Kept.push (kept_leave h hjob hmark rfl (.inr rfl) (by rw [hstate]; decide)
                (fun _ => by rw [hstate]; decide) (fun hc => absurd hc hcommit) ?_ ?_) [.pump] rfl
              · intro hresolved
                cases ok with
                | true => exact ⟨hran rfl, rfl, hnever rfl⟩
                | false => cases hresolved
              · cases ok with
                | false => exact trivial
                | true =>
                  refine ⟨job, hjob, ?_, by simpa using hcommit, hnever rfl⟩
                  rw [hnever rfl, if_neg Bool.false_ne_true] at hverdict
                  unfold assertCurrent
                  rw [if_neg (by simpa [hstate] using hexpired), hverdict]
            · rw [if_neg hverdict]
              exact Kept.observed ((Kept.refl h).push _ rfl) _

end World

end SellerAgents.BootstrapScheduler
