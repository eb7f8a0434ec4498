import Mathlib.Data.List.Perm.Basic
import SellerAgents.BootstrapScheduler.Machine

namespace SellerAgents.BootstrapScheduler
open Js (JsMap)

/-- The scheduler without the rest of its calls, its timers and its surroundings. -/
structure Register where
  jobs : Nat → Option Job
  nextJob : Nat
  waiters : Nat → Option Waiter
  nextWaiter : Nat
  scopes : JsMap String Nat
  queue : List Nat
  active : Option Nat
  closed : Bool
  quarantined : Bool
  launches : List Nat
  running : List Nat
  runs : List Nat
  settlements : List (Nat × Outcome)

def World.register (w : World) : Register where
  jobs := w.jobs
  nextJob := w.nextJob
  waiters := w.waiters
  nextWaiter := w.nextWaiter
  scopes := w.scopes
  queue := w.queue
  active := w.active
  closed := w.closed
  quarantined := w.quarantined
  launches := w.launches
  running := w.running
  runs := w.runs
  settlements := w.settlements

/-- What holds of a job. A job that was retired when the sequence numbers of its scope had run out
may still be queued. -/
structure JobSound (r : Register) (id : Nat) (job : Job) : Prop where
  queued : job.state = .queued → id ∈ r.queue
  alone : job.state = .active → r.active = some id
  waiting : id ∈ r.queue → job.state = .queued ∨ job.state = .retired
  dispatched : job.dispatched = true ↔ id ∈ r.runs
  distinct : job.waiters.Nodup
  listed : ∀ waiter ∈ job.waiters, ∃ entry, r.waiters waiter = some entry ∧ entry.job = id ∧
    entry.outcome = none
  committing : job.commitStarted = true → job.state = .active ∨ r.quarantined = true

theorem JobSound.carry {r r' : Register} {id : Nat} {job : Job} (h : JobSound r id job)
    (hqueue : id ∈ r'.queue ↔ id ∈ r.queue)
    (hactive : r.active = some id → r'.active = some id) (hruns : id ∈ r'.runs ↔ id ∈ r.runs)
    (hquarantined : r.quarantined = true → r'.quarantined = true)
    (hwaiters : ∀ waiter entry, r.waiters waiter = some entry → r'.waiters waiter = some entry) :
    JobSound r' id job :=
  ⟨fun hstate => hqueue.mpr (h.queued hstate), fun hstate => hactive (h.alone hstate), fun hmem =>
    h.waiting (hqueue.mp hmem), h.dispatched.trans hruns.symm, h.distinct, fun waiter hmem =>
    (h.listed waiter hmem).imp fun entry hentry => ⟨hwaiters waiter entry hentry.1, hentry.2⟩,
    fun hcommit => (h.committing hcommit).imp_right hquarantined⟩

/-- What holds of a waiter. -/
structure WaiterSound (r : Register) (waiter : Nat) (entry : Waiter) : Prop where
  owned : ∃ job, r.jobs entry.job = some job ∧ (entry.outcome = none → waiter ∈ job.waiters)
  allowed : entry.outcome = some .resolved → entry.job ∈ r.runs ∧
    ∃ job, r.jobs entry.job = some job ∧ job.state = .settled ∧ job.revocationCommitted = false

/-- The jobs, waiters and scopes agree with each other. -/
structure Register.Coherent (r : Register) : Prop where
  jobs : ∀ id job, r.jobs id = some job → JobSound r id job
  waiters : ∀ waiter entry, r.waiters waiter = some entry → WaiterSound r waiter entry
  freshJob : ∀ id, r.nextJob ≤ id → r.jobs id = none
  freshWaiter : ∀ waiter, r.nextWaiter ≤ waiter → r.waiters waiter = none
  once : (r.queue ++ r.launches ++ r.runs).Nodup
  known : ∀ id ∈ r.queue ++ r.launches ++ r.runs, ∃ job, r.jobs id = some job
  placed : ∀ key id, r.scopes.get key = some id → (id ∈ r.queue ∨ r.active = some id) ∧
    ∃ job, r.jobs id = some job ∧ job.key = key
  recorded : ∀ waiter outcome, (waiter, outcome) ∈ r.settlements ↔
    ∃ entry, r.waiters waiter = some entry ∧ entry.outcome = some outcome
  single : (r.settlements.map Prod.fst).Nodup
  shut : r.quarantined = true → r.closed = true
  ran : ∀ id ∈ r.running, id ∈ r.runs
  capacity : r.scopes.entries.length ≤ 2

/-- Every waiter that is not settled belongs to a job that is queued or active. -/
def Register.Held (r : Register) : Prop :=
  ∀ id job, r.jobs id = some job → job.waiters ≠ [] → id ∈ r.queue ∨ r.active = some id

namespace Register

variable {r : Register} {id : Nat} {job : Job}

/-- A waiter is settled. -/
def release (r : Register) (id waiter : Nat) (outcome : Outcome) : Register :=
  { r with
    jobs := Function.update r.jobs id ((r.jobs id).map fun job =>
      { job with waiters := job.waiters.filter (· ≠ waiter) })
    waiters := Function.update r.waiters waiter ((r.waiters waiter).map fun entry =>
      { entry with outcome := some outcome })
    settlements := (waiter, outcome) :: r.settlements }

def releaseAll (r : Register) (id : Nat) (list : List Nat) (outcome : Outcome) : Register :=
  list.foldl (fun r waiter => r.release id waiter outcome) r

/-- A job is taken out of the scheduler. -/
def remove (r : Register) (id : Nat) (key : String) : Register :=
  { r with
    scopes := if r.scopes.get key = some id then r.scopes.delete key else r.scopes
    queue := r.queue.erase id
    active := if r.active = some id then none else r.active }

def edit (r : Register) (id : Nat) (job : Job) : Register :=
  { r with jobs := Function.update r.jobs id (some job) }

/-- What is left of a job: its scope, the verdict on it, and its waiters but for a list. -/
def Persists (list : List Nat) (r r' : Register) : Prop :=
  ∀ id job, r.jobs id = some job → ∃ job', r'.jobs id = some job' ∧ job'.key = job.key ∧
    (job.state = .settled → job'.state = .settled ∧ job'.revocationCommitted = job.revocationCommitted) ∧
      ∀ waiter ∈ job.waiters, waiter ∈ list ∨ waiter ∈ job'.waiters

section Update

variable {r' : Register} {job' : Job} {list : List Nat}

theorem update_cases (hjobs : r'.jobs = Function.update r.jobs id (some job')) {other : Nat} {job₁ : Job}
    (hother : r'.jobs other = some job₁) :
    other = id ∧ job₁ = job' ∨ other ≠ id ∧ r.jobs other = some job₁ := by
  rw [hjobs] at hother
  by_cases heq : other = id
  · subst heq
    rw [Function.update_self, Option.some.injEq] at hother
    exact .inl ⟨rfl, hother.symm⟩
  · rw [Function.update_of_ne heq] at hother
    exact .inr ⟨heq, hother⟩

theorem release_jobs (hjob : r.jobs id = some job) (waiter : Nat) (outcome : Outcome) :
    (r.release id waiter outcome).jobs = Function.update r.jobs id
      (some { job with waiters := job.waiters.filter (· ≠ waiter) }) := by
  simp only [release, hjob, Option.map_some]

theorem releaseAll_jobs (hjob : r.jobs id = some job) (list : List Nat) (outcome : Outcome) :
    (r.releaseAll id list outcome).jobs = Function.update r.jobs id
      (some { job with waiters := job.waiters.filter (· ∉ list) }) := by
  induction list generalizing r job with
  | nil => simp [releaseAll, ← hjob]
  | cons waiter rest ih =>
    have hself := (congrFun (release_jobs hjob waiter outcome) id).trans (Function.update_self ..)
    refine (ih hself).trans ?_
    rw [release_jobs hjob, Function.update_idem]
    simp only [List.filter_filter, List.mem_cons, not_or, Bool.decide_and, Bool.and_comm, ne_eq]

theorem releaseAll_eq (r : Register) (id : Nat) (list : List Nat) (outcome : Outcome) :
    ∃ jobs waiters, r.releaseAll id list outcome =
      { r with jobs, waiters, settlements := (list.map (·, outcome)).reverse ++ r.settlements } := by
  induction list generalizing r with
  | nil => exact ⟨r.jobs, r.waiters, rfl⟩
  | cons waiter rest ih =>
    obtain ⟨jobs, waiters, heq⟩ := ih (r.release id waiter outcome)
    exact ⟨jobs, waiters, heq.trans (by simp [release])⟩

theorem persists_update (hjobs : r'.jobs = Function.update r.jobs id (some job'))
    (hjob : r.jobs id = some job) (hkey : job'.key = job.key)
    (hverdict : job.state = .settled →
      job'.state = .settled ∧ job'.revocationCommitted = job.revocationCommitted)
    (hwaiters : ∀ waiter ∈ job.waiters, waiter ∈ list ∨ waiter ∈ job'.waiters) : Persists list r r' := by
  intro other job₁ hother
  rw [hjobs]
  by_cases heq : other = id
  · subst heq
    cases hjob.symm.trans hother
    exact ⟨job', Function.update_self .., hkey, hverdict, hwaiters⟩
  · exact ⟨job₁, (Function.update_of_ne heq _ _).trans hother, rfl, fun hstate => ⟨hstate, rfl⟩,
      fun waiter hmem => .inr hmem⟩

theorem Persists.waiter (h : Persists list r r') (hruns : ∀ other ∈ r.runs, other ∈ r'.runs)
    {waiter : Nat} {entry : Waiter} (hsound : WaiterSound r waiter entry) (hkept : waiter ∉ list) :
    WaiterSound r' waiter entry := by
  refine ⟨?_, fun hresolved => ?_⟩
  · obtain ⟨job₀, hjob₀, howned⟩ := hsound.owned
    obtain ⟨job₁, hjob₁, -, -, hwaiters⟩ := h entry.job job₀ hjob₀
    exact ⟨job₁, hjob₁, fun hopen => (hwaiters waiter (howned hopen)).resolve_left hkept⟩
  · obtain ⟨hran, job₀, hjob₀, hsettled, hnever⟩ := hsound.allowed hresolved
    obtain ⟨job₁, hjob₁, -, hverdict, -⟩ := h entry.job job₀ hjob₀
    exact ⟨hruns _ hran, job₁, hjob₁, (hverdict hsettled).1, (hverdict hsettled).2.trans hnever⟩

theorem Persists.known (h : Persists list r r') {other : Nat} (hknown : ∃ job, r.jobs other = some job) :
    ∃ job, r'.jobs other = some job := by
  obtain ⟨job₀, hjob₀⟩ := hknown
  exact (h other job₀ hjob₀).imp fun _ hnew => hnew.1

theorem Persists.keyed (h : Persists list r r') {other : Nat} {key : String}
    (hkeyed : ∃ job, r.jobs other = some job ∧ job.key = key) :
    ∃ job, r'.jobs other = some job ∧ job.key = key := by
  obtain ⟨job₀, hjob₀, rfl⟩ := hkeyed
  obtain ⟨job₁, hjob₁, hkey, -⟩ := h other job₀ hjob₀
  exact ⟨job₁, hjob₁, hkey⟩

end Update

namespace Coherent

section

variable (h : r.Coherent)
include h

theorem queue_nodup : r.queue.Nodup :=
  (List.nodup_append.mp (List.nodup_append.mp h.once).1).1

theorem runs_nodup : r.runs.Nodup := (List.nodup_append.mp h.once).2.1

theorem not_ran_of_queued (hqueue : id ∈ r.queue) : id ∉ r.runs := fun hruns =>
  (List.nodup_append.mp h.once).2.2 id (List.mem_append_left _ hqueue) id hruns rfl

theorem job_known (hjob : r.jobs id = some job) : id < r.nextJob := by
  by_contra hle
  rw [h.freshJob id (Nat.le_of_not_lt hle)] at hjob
  cases hjob

theorem fresh_update (hjob : r.jobs id = some job) (job' : Job) {other : Nat}
    (hle : r.nextJob ≤ other) : Function.update r.jobs id (some job') other = none :=
  (Function.update_of_ne (Nat.ne_of_gt (Nat.lt_of_lt_of_le (h.job_known hjob) hle)) _ _).trans
    (h.freshJob other hle)

/-- A change of a job that keeps its scope, its waiters and the verdict on it. -/
theorem edit (hjob : r.jobs id = some job) {job' : Job} (hkey : job'.key = job.key)
    (hwaiters : job'.waiters = job.waiters) (hverdict : job.state = .settled →
      job'.state = .settled ∧ job'.revocationCommitted = job.revocationCommitted)
    (hsound : JobSound r id job') : (r.edit id job').Coherent := by
  have hp : Persists [] r (r.edit id job') := persists_update rfl hjob hkey hverdict fun waiter hmem =>
    .inr (hwaiters ▸ hmem)
  refine ⟨fun other job₁ hother => ?_, fun waiter entry hentry =>
      hp.waiter (fun _ hran => hran) (h.waiters waiter entry hentry) List.not_mem_nil,
    fun other => h.fresh_update hjob job', h.freshWaiter, h.once,
    fun other hmem => hp.known (h.known other hmem), fun key other hscope =>
      (h.placed key other hscope).imp_right hp.keyed, h.recorded, h.single, h.shut, h.ran, h.capacity⟩
  have hnew : JobSound r other job₁ := by
    obtain ⟨rfl, rfl⟩ | ⟨-, hother⟩ := update_cases rfl hother
    · exact hsound
    · exact h.jobs other job₁ hother
  exact hnew.carry Iff.rfl (fun hactive => hactive) Iff.rfl (fun hq => hq) fun _ _ hentry => hentry

/-- A job that was retired or settled is taken out. -/
theorem remove (hjob : r.jobs id = some job) (hover : job.state = .retired ∨ job.state = .settled) :
    (r.remove id job.key).Coherent := by
  have hqueue : ∀ other, other ≠ id → (other ∈ (r.remove id job.key).queue ↔ other ∈ r.queue) :=
    fun other hne => List.mem_erase_of_ne hne
  have hactive : ∀ other, other ≠ id →
      ((r.remove id job.key).active = some other ↔ r.active = some other) := by
    intro other hne
    by_cases heq : r.active = some id
    · simp only [Register.remove, heq, if_true, Option.some.injEq]
      exact ⟨fun h => absurd h (by simp), fun h => absurd h.symm hne⟩
    · simp only [Register.remove, if_neg heq]
  have hsub : ∀ other ∈ (r.remove id job.key).queue, other ∈ r.queue := fun other hmem =>
    List.mem_of_mem_erase hmem
  refine ⟨?_, fun waiter entry hentry => ⟨(h.waiters waiter entry hentry).owned,
    (h.waiters waiter entry hentry).allowed⟩, h.freshJob, h.freshWaiter, ?_, ?_, ?_, h.recorded,
    h.single, h.shut, h.ran, ?_⟩
  · intro other job₁ hother
    have hold := h.jobs other job₁ hother
    have hne : job₁.state = .queued ∨ job₁.state = .active → other ≠ id := by
      rintro hstate rfl
      cases hjob.symm.trans hother
      obtain hover | hover := hover <;> simp [hover] at hstate
    exact ⟨fun hstate => (hqueue other (hne (.inl hstate))).mpr (hold.queued hstate),
      fun hstate => (hactive other (hne (.inr hstate))).mpr (hold.alone hstate),
      fun hmem => hold.waiting (hsub other hmem), hold.dispatched, hold.distinct, hold.listed, hold.committing⟩
  · exact h.once.sublist ((List.erase_sublist.append_right _).append_right _)
  · intro other hmem
    rw [List.mem_append, List.mem_append] at hmem
    refine h.known other ?_
    rw [List.mem_append, List.mem_append]
    exact hmem.imp_left (Or.imp_left (hsub other))
  · intro key other hscope
    have hne : r.scopes.get key = some other ∧ other ≠ id := by
      by_cases hown : r.scopes.get job.key = some id
      · simp only [Register.remove, if_pos hown, JsMap.get_delete] at hscope
        split at hscope
        · cases hscope
        · rename_i hkey
          refine ⟨hscope, ?_⟩
          rintro rfl
          obtain ⟨-, job₁, hjob₁, hsame⟩ := h.placed key other hscope
          cases hjob.symm.trans hjob₁
          exact hkey hsame.symm
      · simp only [Register.remove, if_neg hown] at hscope
        refine ⟨hscope, ?_⟩
        rintro rfl
        obtain ⟨-, job₁, hjob₁, rfl⟩ := h.placed key other hscope
        cases hjob.symm.trans hjob₁
        exact hown hscope
    obtain ⟨hplace, hrest⟩ := h.placed key other hne.1
    exact ⟨hplace.imp (hqueue other hne.2).mpr (hactive other hne.2).mpr, hrest⟩
  · refine Nat.le_trans ?_ h.capacity
    simp only [Register.remove]
    split
    · exact List.length_filter_le _ _
    · exact Nat.le_refl _

/-- A waiter of a job is settled; an allowing outcome needs a job that ran and that did not confirm
a revocation. -/
theorem release (hjob : r.jobs id = some job) {waiter : Nat} (hmem : waiter ∈ job.waiters)
    {outcome : Outcome} (hallowed : outcome = .resolved →
      id ∈ r.runs ∧ job.state = .settled ∧ job.revocationCommitted = false) :
    (r.release id waiter outcome).Coherent := by
  have hsound := h.jobs id job hjob
  obtain ⟨entry, hentry, howner, hopen⟩ := hsound.listed waiter hmem
  have hjobs := release_jobs hjob waiter outcome
  have hself : (r.release id waiter outcome).waiters waiter =
      some { entry with outcome := some outcome } := by
    simp only [Register.release, Function.update_self, hentry, Option.map_some]
  have hout : ∀ other, other ≠ waiter → (r.release id waiter outcome).waiters other = r.waiters other :=
    fun other hne => Function.update_of_ne hne _ _
  have hp : Persists [waiter] r (r.release id waiter outcome) := by
    refine persists_update hjobs hjob rfl (fun hsettled => ⟨hsettled, rfl⟩) fun other hother => ?_
    by_cases heq : other = waiter
    · exact .inl (List.mem_singleton.mpr heq)
    · exact .inr (List.mem_filter.mpr ⟨hother, decide_eq_true heq⟩)
  have hnever : ∀ verdict, (waiter, verdict) ∉ r.settlements := by
    intro verdict hin
    obtain ⟨found, hfound, hverdict⟩ := (h.recorded waiter verdict).mp hin
    cases hentry.symm.trans hfound
    cases hopen.symm.trans hverdict
  refine ⟨?_, ?_, ?_, ?_, h.once, fun other hin => hp.known (h.known other hin), fun key other hscope =>
    (h.placed key other hscope).imp_right hp.keyed, ?_, ?_, h.shut, h.ran, h.capacity⟩
  · intro other job₁ hother
    obtain ⟨rfl, rfl⟩ | ⟨hne, hjob₀⟩ := update_cases hjobs hother
    · refine ⟨hsound.queued, hsound.alone, hsound.waiting, hsound.dispatched, hsound.distinct.filter _,
        fun other hother => ?_, hsound.committing⟩
      obtain ⟨hin, hnot⟩ := List.mem_filter.mp hother
      obtain ⟨found, hfound⟩ := hsound.listed other hin
      exact ⟨found, (hout other (of_decide_eq_true hnot)).trans hfound.1, hfound.2⟩
    · have hold := h.jobs other job₁ hjob₀
      refine ⟨hold.queued, hold.alone, hold.waiting, hold.dispatched, hold.distinct,
        fun other hother => ?_, hold.committing⟩
      obtain ⟨found, hfound⟩ := hold.listed other hother
      refine ⟨found, (hout other ?_).trans hfound.1, hfound.2⟩
      rintro rfl
      cases hentry.symm.trans hfound.1
      exact hne (hfound.2.1.symm.trans howner)
  · intro other found hfound
    by_cases heq : other = waiter
    · subst heq
      cases hself.symm.trans hfound
      obtain ⟨job₁, hjob₁, -, hverdict, -⟩ := hp id job hjob
      refine ⟨⟨job₁, howner ▸ hjob₁, fun hnone => (nomatch hnone)⟩, fun hresolved => ?_⟩
      obtain ⟨hran, hsettled, hkept⟩ := hallowed (Option.some.inj hresolved)
      exact ⟨howner ▸ hran, job₁, howner ▸ hjob₁, (hverdict hsettled).1,
        (hverdict hsettled).2.trans hkept⟩
    · exact hp.waiter (fun _ hran => hran) (h.waiters other found ((hout other heq).symm.trans hfound))
        fun hin => heq (List.mem_singleton.mp hin)
  · intro other hle
    rw [hjobs]
    exact h.fresh_update hjob _ hle
  · intro other hfresh
    have hnone := h.freshWaiter other hfresh
    refine (hout other ?_).trans hnone
    rintro rfl
    cases hnone.symm.trans hentry
  · intro other verdict
    by_cases heq : other = waiter
    · subst heq
      refine ⟨fun hin => ?_, fun ⟨found, hfound, hverdict⟩ => ?_⟩
      · obtain hnew | hold := List.mem_cons.mp hin
        · cases hnew
          exact ⟨_, hself, rfl⟩
        · exact absurd hold (hnever verdict)
      · cases hself.symm.trans hfound
        cases hverdict
        exact List.mem_cons_self
    · rw [hout other heq, ← h.recorded other verdict]
      exact ⟨fun hin => (List.mem_cons.mp hin).resolve_left fun hnew => heq (congrArg Prod.fst hnew),
        List.mem_cons_of_mem _⟩
  · refine List.nodup_cons.mpr ⟨fun hin => ?_, h.single⟩
    obtain ⟨⟨_, verdict⟩, hsettled, rfl⟩ := List.mem_map.mp hin
    exact hnever verdict hsettled

theorem releaseAll (hjob : r.jobs id = some job) {list : List Nat} (hnodup : list.Nodup)
    (hmem : ∀ waiter ∈ list, waiter ∈ job.waiters) {outcome : Outcome}
    (hallowed : outcome = .resolved →
      id ∈ r.runs ∧ job.state = .settled ∧ job.revocationCommitted = false) :
    (r.releaseAll id list outcome).Coherent := by
  induction list generalizing r job with
  | nil => exact h
  | cons waiter rest ih =>
    obtain ⟨hnew, hrest⟩ := List.nodup_cons.mp hnodup
    have hself := (congrFun (release_jobs hjob waiter outcome) id).trans (Function.update_self ..)
    refine ih (h.release hjob (hmem waiter List.mem_cons_self) hallowed) hself hrest (fun other hother =>
      List.mem_filter.mpr ⟨hmem other (List.mem_cons_of_mem _ hother), decide_eq_true ?_⟩) hallowed
    rintro rfl
    exact hnew hother

end

end Coherent

end Register

end SellerAgents.BootstrapScheduler
