import SellerAgents.BootstrapScheduler.Steps

namespace SellerAgents.BootstrapScheduler
open Js (JsMap)

/-- Only the frame on top may look at the waiters of a queued job, and that job is the first of the
queue while no other is active. -/
def World.Aligned (w : World) : Prop :=
  (∀ frame ∈ w.stack.tail, frame.isExpire = false) ∧
    ∀ id list, w.stack.head? = some (.expire id list) →
      w.queue.head? = some id ∧ w.active = none ∧ list.Nodup ∧
        ∃ job, w.jobs id = some job ∧ ∀ waiter ∈ list, waiter ∈ job.waiters

/-- The invariant of a run between two actions. -/
structure World.Sound (w : World) : Prop where
  steady : w.register.Steady
  aligned : w.Aligned

/-- What a whole step does. -/
structure Done (w w' : World) : Prop where
  sound : w'.Sound
  effects : Effects w w'.register

namespace World

variable {w w' : World} {id : Nat} {job : Job}

theorem Calm.aligned (h : w.Calm) : w.Aligned := by
  refine ⟨fun frame hmem => h frame (List.mem_of_mem_tail hmem), fun id list hhead => ?_⟩
  have hnot := h _ (List.mem_of_mem_head? (Option.mem_def.mpr hhead))
  cases hnot

theorem Calm.done (h : w.Calm) (hkept : Kept w w') : Done w w' :=
  ⟨⟨hkept.steady, (hkept.calm h).aligned⟩, hkept.effects⟩

/-- A change of the surroundings. -/
theorem Sound.same (h : w.Sound) (hregister : w'.register = w.register) (hstack : w'.stack = w.stack) :
    Done w w' := by
  have hqueue : w'.queue = w.queue := congrArg Register.queue hregister
  have hactive : w'.active = w.active := congrArg Register.active hregister
  have hjobs : w'.jobs = w.jobs := congrArg Register.jobs hregister
  refine ⟨⟨hregister ▸ h.steady, ?_⟩, hregister ▸ (Kept.refl h.steady).effects⟩
  unfold Aligned
  rw [hstack, hqueue, hactive, hjobs]
  exact h.aligned

section

variable (h : w.register.Steady)
include h

theorem kept_join (hjob : w.jobs id = some job) (hplace : id ∈ w.queue ∨ w.active = some id)
    (signal : Bool) (waitMs : Int) :
    Kept w (w.join id signal waitMs) := by
  have hjoined : Kept w { w.join id signal waitMs with stack := w.stack } :=
    Kept.quiet (h.join hjob hplace (w.clock + waitMs) signal) rfl rfl (fun hclosed => hclosed) rfl
  exact hjoined.push [.pump] rfl

/-- A new job and its first waiter. -/
theorem kept_added {added : World} (hroom : w.scopes.entries.length < 2)
    (hadded : added.register = w.register.enqueue job) (hstack : added.stack = w.stack)
    (hstate : job.state = .queued) (hdispatched : job.dispatched = false)
    (hcommit : job.commitStarted = false) (hwaiters : job.waiters = []) (signal : Bool)
    (waitMs : Int) :
    Kept w (added.join w.nextJob signal waitMs) := by
  have hsteady : added.register.Steady := by
    rw [hadded]
    exact h.enqueue hroom hstate hdispatched hcommit hwaiters
  have hjob : added.jobs w.nextJob = some job :=
    (congrArg (fun r : Register => r.jobs w.nextJob) hadded).trans (Function.update_self ..)
  have hqueue : w.nextJob ∈ added.register.queue :=
    hadded ▸ List.mem_append_right _ (List.mem_singleton_self _)
  have hjoin := kept_join hsteady hjob (.inl hqueue) signal waitMs
  refine ⟨hjoin.steady, ⟨.inl (congrArg Register.runs hadded),
    ⟨[], congrArg Register.settlements hadded, by simp⟩, fun hclosed =>
      (congrArg Register.closed hadded).trans hclosed⟩, fun hcalm => hjoin.calm ?_⟩
  exact fun frame hmem => hcalm frame (hstack ▸ hmem)

theorem kept_create (fence : Fence) (requestKey : String) (signal : Bool) (waitMs : Int) :
    Kept w (w.create fence requestKey signal waitMs) := by
  unfold create
  split
  · exact (Kept.refl h).answer _
  · rename_i hroom
    split
    · exact Kept.throw ((Kept.refl h).same rfl fun _ hmem => .inl hmem)
    · rename_i next hnext
      obtain ⟨sequence, rfl⟩ := nextSeq_eq hnext
      apply kept_added h (Nat.lt_of_not_le hroom) <;> rfl

/-- One turn of the loop of `pump` after the deadlines of the waiters. -/
theorem kept_inspect (hhead : w.queue.head? = some id) (hidle : w.active = none) :
    Kept w (w.inspect id) := by
  unfold inspect
  split
  · exact Kept.refl h
  · rename_i job hjob
    split
    · exact (Kept.refl h).push _ rfl
    · dsimp only
      split
      · have hregister : (w.activate id job).register =
            w.register.activate id job (w.clock + w.activeTimeoutMs) := by
          simp only [activate, register, modifyJob, Register.activate, hjob, Option.map_some]
        refine Kept.quiet ?_ rfl rfl (fun hclosed => hclosed) rfl
        rw [hregister]
        exact h.activate hjob hhead hidle _
      · exact Kept.observed ((Kept.refl h).push _ rfl) _

/-- The flags of a commit change while the job is active. -/
theorem kept_flags (hjob : w.jobs id = some job) (hactive : job.state = .active) (f : Job → Job)
    (hkey : (f job).key = job.key) (hwaiters : (f job).waiters = job.waiters)
    (hstate : (f job).state = job.state) (hdispatched : (f job).dispatched = job.dispatched) :
    Kept w (w.modifyJob id f) := by
  have hsound := h.coherent.jobs id job hjob
  refine Kept.quiet ?_ rfl rfl (fun hclosed => hclosed) rfl
  rw [modifyJob_register hjob f]
  refine h.edit hjob hkey hwaiters (fun hsettled => ?_) ⟨fun hqueued => ?_, fun _ => hsound.alone hactive,
    fun hmem => hstate ▸ hsound.waiting hmem, hdispatched ▸ hsound.dispatched,
    hwaiters ▸ hsound.distinct, hwaiters ▸ hsound.listed, fun _ => .inl (hstate.trans hactive)⟩
  · cases hactive.symm.trans hsettled
  · exact hsound.queued (hstate.symm.trans hqueued)

theorem kept_acknowledge (hjob : w.jobs id = some job) :
    Kept w (w.acknowledge id job) := by
  unfold acknowledge
  split
  · rename_i hcurrent
    exact (kept_flags h hjob (assertCurrent_eq hcurrent).1 _ rfl rfl rfl rfl).answer _
  · exact ((Kept.refl h).answer _).observed _

theorem kept_request (supplied : SuppliedFence) (requestKey : String) (signal : Option Bool)
    (waitMs : Int) : Kept w (w.request supplied requestKey signal waitMs) := by
  have hrefl := Kept.refl h
  unfold request
  split
  · exact hrefl.answer _
  · split
    · exact hrefl.answer _
    · split
      · exact hrefl.answer _
      · split
        · exact (hrefl.answer _).observed _
        · split
          · exact hrefl.answer _
          · split
            · exact kept_create h _ _ _ _
            · rename_i id job hfound
              obtain ⟨id', hscope, hmap⟩ := Option.bind_eq_some_iff.mp hfound
              obtain ⟨job', hjob, heq⟩ := Option.map_eq_some_iff.mp hmap
              cases heq
              split
              · exact hrefl.push _ rfl
              · split
                · exact hrefl.answer _
                · exact kept_join h hjob (h.coherent.placed _ _ hscope).1 _ _

/-- A waiter that waits is released without a result. -/
theorem kept_abandon {waiter : Nat} {entry : Waiter} (hentry : w.waiters waiter = some entry)
    (hopen : entry.outcome = none) (code : String) (acquisition : Acquisition)
    (hwarrant : acquisition = .notStarted → ∀ job, w.jobs entry.job = some job → job.state = .queued) :
    Kept w (w.abandon entry.job waiter code acquisition) := by
  obtain ⟨job, hjob, howned⟩ := (h.coherent.waiters waiter entry hentry).owned
  have hsound := h.coherent.jobs _ job hjob
  have hrejected : w.Warranted entry.job (.rejected code acquisition) := by
    cases acquisition with
    | notStarted =>
      exact h.coherent.not_ran_of_queued (hsound.queued (hwarrant rfl job hjob))
    | outcomeUnknown => exact trivial
  have hrelease := kept_release h hjob (howned hopen) (by simp) hrejected
  unfold abandon
  dsimp only
  split
  · exact hrelease.push _ rfl
  · exact hrelease

theorem kept_perform {call : Call} (hcall : w.perform call = some w') :
    Kept w w' := by
  have hrefl := Kept.refl h
  have hleased : ∀ {id job}, w.leased id = some job → w.jobs id = some job := fun hl =>
    (Option.filter_eq_some_iff.mp hl).1
  cases call with
  | request fence requestKey signal waitMs =>
    cases hcall
    exact kept_request h _ _ _ _
  | isCurrent id =>
    obtain ⟨job, -, rfl⟩ := Option.map_eq_some_iff.mp hcall
    unfold isCurrent
    split
    · exact (hrefl.answer _).observed _
    · exact hrefl.answer _
  | invalidate scopeKey code =>
    cases hcall
    unfold invalidate
    split
    · exact hrefl.push _ rfl
    · split
      · rename_i next hnext
        obtain ⟨sequence, rfl⟩ := nextSeq_eq hnext
        exact hrefl.same rfl fun _ hmem => .inl hmem
      · exact (hrefl.answer _).throw
  | dispose code =>
    cases hcall
    exact (hrefl.shut w.quarantined id).push _ rfl
  | abort waiter =>
    obtain ⟨entry, hfound, rfl⟩ := Option.map_eq_some_iff.mp hcall
    obtain ⟨hentry, hguard⟩ := Option.filter_eq_some_iff.mp hfound
    rw [Bool.and_eq_true, Option.isNone_iff_eq_none] at hguard
    unfold onAbort
    dsimp only
    refine kept_abandon h hentry hguard.2 _ _ fun hnot job hjob => ?_
    rw [hjob, Option.any_some] at hnot
    split at hnot
    · rename_i hqueued
      exact of_decide_eq_true hqueued
    · cases hnot
  | beginSecurityCommit id =>
    obtain ⟨job, hl, rfl⟩ := Option.map_eq_some_iff.mp hcall
    unfold beginSecurityCommit
    split
    · rename_i hcurrent
      exact (kept_flags h (hleased hl) (assertCurrent_eq hcurrent).1 _ rfl rfl rfl rfl).answer _
    · exact (hrefl.answer _).observed _
  | finishRevocationCommit id =>
    obtain ⟨job, hl, rfl⟩ := Option.map_eq_some_iff.mp hcall
    unfold finishRevocationCommit
    split
    · exact hrefl.answer _
    · rename_i hguard
      have hactive : job.state = .active := by
        simp only [Bool.or_eq_true, not_or, decide_eq_true_eq, not_not] at hguard
        exact hguard.1.1.1.2
      exact (kept_flags h (hleased hl) hactive _ rfl rfl rfl rfl).answer _
  | finishSecurityCommit id fence =>
    obtain ⟨job, hl, rfl⟩ := Option.map_eq_some_iff.mp hcall
    unfold finishSecurityCommit
    split
    · exact hrefl.push _ rfl
    · split
      · exact hrefl.answer _
      · split
        · exact hrefl.answer _
        · rename_i hguard
          have hactive : job.state = .active := by
            simp only [Bool.or_eq_true, not_or, decide_eq_true_eq, not_not] at hguard
            exact hguard.1.1.1.1.2
          split
          · exact (hrefl.answer _).observed _
          · exact (kept_flags h (hleased hl) hactive _ rfl rfl rfl rfl).push _ rfl
  | assertCurrent id =>
    obtain ⟨job, -, rfl⟩ := Option.map_eq_some_iff.mp hcall
    split
    · exact hrefl.answer _
    · exact (hrefl.answer _).observed _

end

/-- The top frame runs; `w` is what is left when it is taken off. -/
theorem done_exec {frame : Frame} {rest : List Frame} (h : w.Sound) (hstack : w.stack = frame :: rest) :
    Done { w with stack := rest } (World.exec { w with stack := rest } frame) := by
  have hcalm : World.Calm { w with stack := rest } := by
    intro other hmem
    exact h.aligned.1 other (by rw [hstack]; exact hmem)
  have hsteady : (World.register { w with stack := rest }).Steady := h.steady
  have hrefl := Kept.refl hsteady
  have hexpire := h.aligned.2
  rw [hstack] at hexpire
  cases frame with
  | callback => exact hcalm.done hrefl
  | quarantineRest => exact hcalm.done (hrefl.push _ rfl)
  | retireEach jobs code =>
    cases jobs with
    | nil => exact hcalm.done hrefl
    | cons id jobs => exact hcalm.done (hrefl.push _ rfl)
  | retire id code => exact hcalm.done (kept_retire hsteady id code)
  | pump =>
    refine hcalm.done ?_
    unfold exec
    dsimp only
    split
    · exact hrefl
    · exact hrefl.same rfl fun frame hmem => (List.mem_cons.mp hmem).elim (fun heq => .inr (heq ▸ rfl)) .inl
  | pumpLoop =>
    unfold exec
    dsimp only
    split
    · rename_i id queue hqueue
      split
      · exact hcalm.done (hrefl.same rfl fun _ hmem => .inl hmem)
      · rename_i hidle
        simp only [Bool.or_eq_true, not_or, Bool.not_eq_true, Option.isSome_eq_false_iff,
          Option.isNone_iff_eq_none] at hidle
        have hmem : id ∈ w.queue := hqueue ▸ List.mem_cons_self
        obtain ⟨job, hjob⟩ := h.steady.coherent.known id
          (List.mem_append_left _ (List.mem_append_left _ hmem))
        have hjob' : w.jobs id = some job := hjob
        refine ⟨⟨h.steady, ?_, ?_⟩, hrefl.effects⟩
        · intro other hother
          obtain rfl | hother := List.mem_cons.mp hother
          · rfl
          · exact hcalm other hother
        · intro id' list hhead
          cases hhead
          refine ⟨by rw [World.push, hqueue, List.head?_cons], hidle.2, ?_, job, hjob, ?_⟩
          · rw [hjob']
            exact (h.steady.coherent.jobs id job hjob).distinct
          · rw [hjob']
            exact fun _ hw => hw
    · exact hcalm.done (hrefl.same rfl fun _ hmem => .inl hmem)
  | expire id list =>
    obtain ⟨hhead, hidle, hnodup, job, hjob, hlist⟩ := hexpire id list rfl
    cases list with
    | nil => exact hcalm.done (kept_inspect hsteady hhead hidle)
    | cons waiter list =>
      obtain ⟨hnew, hrest⟩ := List.nodup_cons.mp hnodup
      have hin : id ∈ w.queue := List.mem_of_mem_head? (Option.mem_def.mpr hhead)
      unfold exec
      dsimp only
      split
      · have hrejected : World.Warranted { w with stack := rest } id
            (.rejected "BOOTSTRAP_QUEUE_WAIT_EXPIRED" .notStarted) :=
          h.steady.coherent.not_ran_of_queued hin
        have hrelease := kept_release hsteady hjob (hlist waiter List.mem_cons_self) (by simp) hrejected
        obtain ⟨entry, hentry, -, hopen⟩ :=
          (h.steady.coherent.jobs id job hjob).listed waiter (hlist waiter List.mem_cons_self)
        have hregister := @releaseWaiter_register { w with stack := rest } id _ _
          (.rejected "BOOTSTRAP_QUEUE_WAIT_EXPIRED" .notStarted) hentry hopen
        refine ⟨⟨hrelease.steady, hrelease.calm hcalm, ?_⟩, hrelease.effects⟩
        intro id' list' hsame
        cases hsame
        refine ⟨(congrArg (fun r => r.queue.head?) hregister).trans hhead,
          (congrArg Register.active hregister).trans hidle, hrest,
          { job with waiters := job.waiters.filter (· ≠ waiter) }, ?_, ?_⟩
        · refine (congrArg (fun r => r.jobs id) hregister).trans ?_
          have hjob' : w.jobs id = some job := hjob
          simp only [Register.release, register, Function.update_self, hjob', Option.map_some]
        · intro other hother
          refine List.mem_filter.mpr ⟨hlist other (List.mem_cons_of_mem _ hother),
            decide_eq_true ?_⟩
          rintro rfl
          exact hnew hother
      · refine ⟨⟨h.steady, hcalm, ?_⟩, hrefl.effects⟩
        intro id' list' hsame
        cases hsame
        exact ⟨hhead, hidle, hrest, job, hjob, fun other hother => hlist other (List.mem_cons_of_mem _ hother)⟩
  | settleRefused id => exact hcalm.done (hrefl.push _ rfl)
  | late id => exact hcalm.done (hrefl.same rfl fun _ hmem => .inl hmem)
  | admission fence requestKey signal waitMs =>
    refine hcalm.done ?_
    unfold exec
    dsimp only
    split
    · exact hrefl.answer _
    · exact kept_create hsteady _ _ _ _
  | acknowledge id =>
    refine hcalm.done ?_
    unfold exec
    dsimp only
    cases hjob : w.jobs id with
    | none => exact hrefl
    | some job => exact kept_acknowledge hsteady hjob

/-- The microtask that calls the run of an activated job. -/
theorem kept_launch (h : w.register.Steady) (hjob : w.jobs id = some job) (hlaunch : id ∈ w.launches) :
    Kept w (w.launch id job) := by
  unfold launch
  dsimp only
  split
  · rename_i hcurrent
    have hregister : World.register { World.modifyJob { w with launches := w.launches.erase id } id
          fun job => { job with dispatched := true } with
          runs := id :: w.runs
          running := id :: w.running } = w.register.launch id job := by
      simp only [register, modifyJob, Register.launch, hjob, Option.map_some]
    refine ⟨hregister ▸ h.launch hjob hlaunch, ?_, fun hcalm => hcalm⟩
    exact ⟨.inr ⟨id, job, rfl, hjob, hcurrent⟩, ⟨[], rfl, by simp⟩, fun hclosed => hclosed⟩
  · have hkept : Kept w { w with launches := w.launches.erase id, refused := id :: w.refused } :=
      Kept.quiet (h.trim List.erase_sublist (fun _ hmem => hmem) (fun hq => hq) h.coherent.shut) rfl rfl
        (fun hclosed => hclosed) rfl
    exact hkept.observed _

theorem kept_fire (h : w.register.Steady) (timer : Timer) : Kept w (w.fire timer) := by
  have hrefl := Kept.refl h
  cases timer with
  | wait waiter =>
    unfold fire
    dsimp only
    split
    · exact hrefl.same rfl fun _ hmem => .inl hmem
    · rename_i entry hentry
      split
      · exact hrefl.same rfl fun _ hmem => .inl hmem
      · rename_i hguard
        simp only [Bool.or_eq_true, not_or, Bool.not_eq_true, Bool.not_eq_false',
          Option.isSome_eq_false_iff, Option.isNone_iff_eq_none] at hguard
        have hqueued : ∀ job, w.jobs entry.job = some job → job.state = .queued := fun job hjob => by
          simpa [hjob] using hguard.1
        have habandon := @kept_abandon { w with timers := w.timers.filter (· ≠ .wait waiter) } h _ _ hentry
          hguard.2 "BOOTSTRAP_QUEUE_WAIT_EXPIRED" .notStarted fun _ => hqueued
        exact ⟨habandon.steady, ⟨habandon.effects.started, habandon.effects.settled,
          habandon.effects.closed⟩, habandon.calm⟩
  | active id =>
    exact hrefl.same rfl fun frame hmem => (List.mem_cons.mp hmem).elim (fun heq => .inr (heq ▸ rfl)) .inl

theorem calm_of_nil (h : w.stack = []) : w.Calm := fun frame hmem => by
  rw [h] at hmem
  exact absurd hmem List.not_mem_nil

/-- Every event keeps the scheduler sound. -/
theorem Sound.step {event : Event} (h : w.Sound) (hstep : w.step event = some w') : Done w w' := by
  cases event with
  | tick elapsed =>
    cases hstep
    exact h.same rfl rfl
  | setFence fence verdict =>
    cases hstep
    exact h.same rfl rfl
  | step =>
    unfold World.step at hstep
    dsimp only at hstep
    split at hstep
    · cases hstep
    · cases hstep
    · rename_i frame rest hstack
      cases hstep
      have hdone := done_exec h hstack
      exact ⟨hdone.sound, ⟨hdone.effects.started, hdone.effects.settled, hdone.effects.closed⟩⟩
  | callbackReturns =>
    unfold World.step at hstep
    dsimp only at hstep
    split at hstep
    · rename_i rest hstack
      cases hstep
      have hcalm : World.Calm { w with stack := rest } := fun other hmem =>
        h.aligned.1 other (by rw [hstack]; exact hmem)
      exact ⟨⟨h.steady, hcalm.aligned⟩, (Kept.refl h.steady).effects⟩
    · cases hstep
  | call call =>
    obtain ⟨hhead, hcall⟩ := Option.ite_none_right_eq_some.mp hstep
    have hcalm : w.Calm := by
      intro frame hmem
      cases hstack : w.stack with
      | nil =>
        rw [hstack] at hmem
        exact absurd hmem List.not_mem_nil
      | cons first rest =>
        rw [hstack, List.head?_cons, Option.all_some, decide_eq_true_eq] at hhead
        rw [hstack, hhead] at hmem
        obtain rfl | hmem := List.mem_cons.mp hmem
        · rfl
        · exact h.aligned.1 frame (by rw [hstack]; exact hmem)
    exact hcalm.done (kept_perform h.steady hcall)
  | launch id =>
    obtain ⟨hguard, hmap⟩ := Option.ite_none_right_eq_some.mp hstep
    obtain ⟨job, hjob, rfl⟩ := Option.map_eq_some_iff.mp hmap
    exact (calm_of_nil hguard.1).done (kept_launch h.steady hjob hguard.2)
  | complete id ok =>
    obtain ⟨hguard, hsome⟩ := Option.ite_none_right_eq_some.mp hstep
    cases hsome
    have hsteady : (World.register { w with running := w.running.erase id }).Steady :=
      h.steady.trim (List.Sublist.refl _) (fun _ => List.mem_of_mem_erase) (fun hq => hq) h.steady.coherent.shut
    have hsettle := @kept_settle _ id hsteady ok fun _ => h.steady.coherent.ran id hguard.2
    exact (calm_of_nil hguard.1).done ⟨hsettle.steady, ⟨hsettle.effects.started, hsettle.effects.settled,
      hsettle.effects.closed⟩, hsettle.calm⟩
  | launchRefused id =>
    obtain ⟨hguard, hsome⟩ := Option.ite_none_right_eq_some.mp hstep
    cases hsome
    have hsettle := @kept_settle { w with refused := w.refused.erase id } id h.steady false nofun
    exact (calm_of_nil hguard.1).done ⟨hsettle.steady, ⟨hsettle.effects.started, hsettle.effects.settled,
      hsettle.effects.closed⟩, hsettle.calm⟩
  | lateFailed id =>
    obtain ⟨hguard, hsome⟩ := Option.ite_none_right_eq_some.mp hstep
    cases hsome
    exact (calm_of_nil hguard.1).done
      (Kept.quarantineAll ((Kept.refl h.steady).same rfl fun _ hmem => .inl hmem))
  | fire timer =>
    obtain ⟨hguard, hsome⟩ := Option.ite_none_right_eq_some.mp hstep
    cases hsome
    exact (calm_of_nil hguard.1).done (kept_fire h.steady timer)

theorem Sound.run {events : List Event} (h : w.Sound) (hrun : w.run events = some w') : w'.Sound := by
  induction events generalizing w with
  | nil =>
    cases hrun
    exact h
  | cons event rest ih =>
    obtain ⟨middle, hstep, hrest⟩ := Option.bind_eq_some_iff.mp hrun
    exact ih (h.step hstep).sound hrest

theorem Sound.created (workerInstanceId : Nat) (waitTimeoutMs activeTimeoutMs clock : Int)
    (isFenceCurrent : Fence → Verdict) :
    (World.created workerInstanceId waitTimeoutMs activeTimeoutMs clock isFenceCurrent).Sound := by
  have hcalm : (World.created workerInstanceId waitTimeoutMs activeTimeoutMs clock isFenceCurrent).Calm :=
    calm_of_nil rfl
  refine ⟨⟨⟨nofun, nofun, fun _ _ => rfl, fun _ _ => rfl, List.nodup_nil, nofun, nofun, ?_,
    List.nodup_nil, nofun, nofun, Nat.zero_le _⟩, nofun⟩, hcalm.aligned⟩
  exact fun _ _ => ⟨fun hmem => absurd hmem List.not_mem_nil, fun ⟨_, hnone, _⟩ => (nomatch hnone)⟩

/-- After the end no run is called, and no waiter is allowed. -/
theorem Sound.ended {events : List Event} (h : w.Sound) (hclosed : w.closed = true)
    (hrun : w.run events = some w') :
    w'.closed = true ∧ w'.runs = w.runs ∧
      ∀ waiter, (waiter, Outcome.resolved) ∈ w'.settlements → (waiter, Outcome.resolved) ∈ w.settlements := by
  induction events generalizing w with
  | nil =>
    cases hrun
    exact ⟨hclosed, rfl, fun _ hmem => hmem⟩
  | cons event rest ih =>
    obtain ⟨middle, hstep, hrest⟩ := Option.bind_eq_some_iff.mp hrun
    have hdone := h.step hstep
    obtain ⟨hlast, hruns, hallowed⟩ := ih hdone.sound (hdone.effects.closed hclosed) hrest
    refine ⟨hlast, hruns.trans ?_, fun waiter hmem => ?_⟩
    · obtain hsame | ⟨id, job, -, -, hcurrent⟩ := hdone.effects.started
      · exact hsame
      · cases hclosed.symm.trans (assertCurrent_eq hcurrent).2.2.1
    · obtain ⟨news, hnews, hwarrant⟩ := hdone.effects.settled
      have hmiddle : (waiter, Outcome.resolved) ∈ news ++ w.settlements := hnews ▸ hallowed waiter hmem
      refine (List.mem_append.mp hmiddle).resolve_left fun hnew => ?_
      obtain ⟨entry, -, job, -, hcurrent, -⟩ := hwarrant waiter _ hnew
      cases hclosed.symm.trans (assertCurrent_eq hcurrent).2.2.1

end World

/-- What the scheduler keeps whatever its client does and in whatever order. -/
structure SchedulerLaws (w : World) : Prop where
  /-- One job is active at a time, its run is called once, and two scopes are held at most. -/
  alone : ∀ id other job job', w.jobs id = some job → w.jobs other = some job' →
    job.state = .active → job'.state = .active → id = other
  once : w.runs.Nodup
  scopes : w.scopes.entries.length ≤ 2
  /-- A promise is settled once, and no later than its job leaves. -/
  settledOnce : (w.settlements.map Prod.fst).Nodup
  left : ∀ waiter entry, w.waiters waiter = some entry → entry.outcome = none →
    entry.job ∈ w.queue ∨ w.active = some entry.job
  /-- An allowing result comes of a run that did not confirm a revocation. -/
  allowed : ∀ waiter, (waiter, Outcome.resolved) ∈ w.settlements → ∃ entry job,
    w.waiters waiter = some entry ∧ entry.job ∈ w.runs ∧ w.jobs entry.job = some job ∧
      job.revocationCommitted = false
  /-- A job that left with an open commit closed the scheduler. -/
  committing : ∀ id job, w.jobs id = some job → job.commitStarted = true → job.state ≠ .active →
    w.quarantined = true ∧ w.closed = true
  effects : ∀ event w', w.step event = some w' → Effects w w'.register
  /-- A run is called only for the active job, and never past an open commit of another. -/
  exclusive : ∀ event w' id, w.step event = some w' → w'.runs = id :: w.runs →
    w.active = some id ∧ ∀ other job, w.jobs other = some job → job.commitStarted = true → other = id
  ended : w.closed = true → ∀ events w', w.run events = some w' → w'.closed = true ∧ w'.runs = w.runs ∧
    ∀ waiter, (waiter, Outcome.resolved) ∈ w'.settlements → (waiter, Outcome.resolved) ∈ w.settlements

theorem World.Sound.laws {w : World} (h : w.Sound) : SchedulerLaws w := by
  have hc := h.steady.coherent
  refine ⟨?_, hc.runs_nodup, hc.capacity, hc.single, ?_, ?_, ?_, ?_, ?_, ?_⟩
  · intro id other job job' hjob hjob' hactive hactive'
    have hself := (hc.jobs id job hjob).alone hactive
    exact Option.some.inj (hself.symm.trans ((hc.jobs other job' hjob').alone hactive'))
  · intro waiter entry hentry hopen
    obtain ⟨job, hjob, howned⟩ := (hc.waiters waiter entry hentry).owned
    exact h.steady.held _ job hjob (List.ne_nil_of_mem (howned hopen))
  · intro waiter hmem
    obtain ⟨entry, hentry, hresolved⟩ := (hc.recorded waiter _).mp hmem
    obtain ⟨hran, job, hjob, -, hnever⟩ := (hc.waiters waiter entry hentry).allowed hresolved
    exact ⟨entry, job, hentry, hran, hjob, hnever⟩
  · intro id job hjob hcommit hstate
    have hquarantined := ((hc.jobs id job hjob).committing hcommit).resolve_left hstate
    exact ⟨hquarantined, hc.shut hquarantined⟩
  · exact fun event w' hstep => (h.step hstep).effects
  · intro event w' id hstep hruns
    obtain hsame | ⟨id', job, hnew, hjob, hcurrent⟩ := (h.step hstep).effects.started
    · exact absurd (hruns.symm.trans hsame) (List.cons_ne_self _ _)
    · have heq : id = id' := (List.cons.inj (hruns.symm.trans hnew)).1
      obtain ⟨hactive, -, hopen, -⟩ := World.assertCurrent_eq hcurrent
      have hself := (hc.jobs id' job hjob).alone hactive
      refine ⟨heq ▸ hself, fun other job' hjob' hcommit => ?_⟩
      obtain hstate | hquarantined := (hc.jobs other job' hjob').committing hcommit
      · exact heq ▸ Option.some.inj (((hc.jobs other job' hjob').alone hstate).symm.trans hself)
      · cases hopen.symm.trans (hc.shut hquarantined)
  · exact fun hclosed events w' hrun => h.ended hclosed hrun

/-- The scheduler is safe in every run of it, calls from inside callbacks included. -/
theorem bootstrap_scheduling_laws (workerInstanceId : Nat) (waitTimeoutMs activeTimeoutMs clock : Int)
    (isFenceCurrent : Fence → Verdict) (events : List Event) (w : World)
    (hrun : (World.created workerInstanceId waitTimeoutMs activeTimeoutMs clock isFenceCurrent).run
      events = some w) : SchedulerLaws w :=
  ((World.Sound.created ..).run hrun).laws

/-- A request whose run is called and completes. -/
def answeredRequest : List Event :=
  [.call (.request ⟨1, 1, 1, "environment", "scope"⟩ "" none none), .step, .step, .step, .step, .step,
    .launch 0, .call (.beginSecurityCommit 0), .call (.finishSecurityCommit 0 none), .step, .complete 0 true]

theorem bootstrap_scheduling_laws_answered : ∃ w, (World.created 0 1000 1000 0 fun _ => .current).run
    answeredRequest = some w ∧ w.settlements = [(0, .resolved)] ∧ SchedulerLaws w :=
  ⟨_, rfl, rfl, bootstrap_scheduling_laws 0 1000 1000 0 (fun _ => .current) answeredRequest _ rfl⟩

end SellerAgents.BootstrapScheduler
