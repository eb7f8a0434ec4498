import SellerAgents.HealthScheduler.Invariant

open Relational Concurrent

namespace SellerAgents.HealthScheduler

open Subscriptions (Date)

variable {T : Type}

/-- The thread may report a failure of the run that it started under the lease. -/
def MayFail (done : List (T × Deed)) (t : T) (leaseId : String) (failureClass : HealthFailureClass)
    (failureCode : String) : Prop :=
  ∃ run, (t, .started run) ∈ done ∧ run.leaseId = some leaseId ∧
    (run.probeLayer = .AUTHENTICATED_DEEP →
      classifyFailure failureClass failureCode = .FAILED_RETRYABLE → GaveUp done t run)

/-- The thread may time out the run that it started under the lease. -/
def MayTimeOut (done : List (T × Deed)) (t : T) (leaseId : String) : Prop :=
  ∃ run, (t, .started run) ∈ done ∧ run.leaseId = some leaseId ∧
    run.probeLayer ≠ .AUTHENTICATED_DEEP

/-- What a thread must have done before a command. -/
def MayPerform (done : List (T × Deed)) (t : T) : Cmd → Prop
  | .startRun input => MayStart done t input.leaseId
  | .finishFailure input failureClass failureCode =>
    MayFail done t input.leaseId failureClass failureCode
  | .timeoutRun input _ => MayTimeOut done t input.leaseId
  | .execute run => (t, .started run) ∈ done ∧ (t, .called run) ∉ done
  | .settle run => (t, .called run) ∈ done ∧ ∀ execution, (t, .settled run execution) ∉ done
  | _ => True

/-- The others add nothing to what a thread has done. -/
def SameDeeds (t : T) (done done' : List (T × Deed)) : Prop :=
  ∀ deed, (t, deed) ∈ done' ↔ (t, deed) ∈ done

/-- The proof outline of the cycles. -/
def outline : System.Protocol T Cmd Cmd.Answer String SchedulerCycleSummary HealthDatabase where
  inv w := HealthInv (deeds w.log) w.state
  pre t command w := MayPerform (deeds w.log) t command
  rely t w w' := SameDeeds t (deeds w.log) (deeds w'.log)
  post _ _ _ := True

section Stable

variable {t : T} {done done' : List (T × Deed)} {leaseId : String} {run : HealthScheduledRun}

theorem GaveUp.same (h : GaveUp done t run) (hsame : SameDeeds t done done') :
    GaveUp done' t run := by
  obtain ⟨failureClass, failureCode, hmem, hretry⟩ := h
  exact ⟨failureClass, failureCode, (hsame _).mpr hmem, hretry⟩

theorem MayStart.same (h : MayStart done t leaseId) (hsame : SameDeeds t done done') :
    MayStart done' t leaseId := by
  obtain ⟨claim, hclaim, hlease⟩ := h.claimed
  exact ⟨⟨claim, (hsame _).mpr hclaim, hlease⟩, fun run hrun => h.fresh run ((hsame _).mp hrun)⟩

theorem MayFail.same {failureClass : HealthFailureClass} {failureCode : String}
    (h : MayFail done t leaseId failureClass failureCode) (hsame : SameDeeds t done done') :
    MayFail done' t leaseId failureClass failureCode := by
  obtain ⟨run, hrun, hlease, hgave⟩ := h
  exact ⟨run, (hsame _).mpr hrun, hlease, fun hlayer hretry => (hgave hlayer hretry).same hsame⟩

theorem MayTimeOut.same (h : MayTimeOut done t leaseId) (hsame : SameDeeds t done done') :
    MayTimeOut done' t leaseId := by
  obtain ⟨run, hrun, hlease, hlayer⟩ := h
  exact ⟨run, (hsame _).mpr hrun, hlease, hlayer⟩

/-- Only the call of the run gives it up. -/
theorem MayFail.released {failureClass : HealthFailureClass} {failureCode : String}
    {input : LeaseInput} (hd : DeedsInv done db)
    (h : MayFail done t input.leaseId failureClass failureCode) :
    Released done (input.retried failureClass failureCode) := by
  obtain ⟨run, hrun, hlease, hgave⟩ := h
  intro t' run' hrun' hlayer hsome hlease'
  unfold LeaseInput.retried at hsome hlease'
  split at hsome
  · rename_i hretry
    rw [if_pos hretry] at hlease'
    obtain ⟨rfl, rfl⟩ := hd.starters t' run' t run hrun' hrun (hlease'.trans hlease.symm)
    exact hgave hlayer hretry
  · cases hsome

theorem MayTimeOut.released (hd : DeedsInv done db) (h : MayTimeOut done t leaseId) :
    Released done (some leaseId) := by
  obtain ⟨run, hrun, hlease, hother⟩ := h
  intro t' run' hrun' hlayer _ hlease'
  obtain ⟨rfl, rfl⟩ := hd.starters t' run' t run hrun' hrun (hlease'.trans hlease.symm)
  exact absurd hlayer hother

end Stable

/-! What a command keeps. -/

variable {db db' : HealthDatabase}

variable {command : Cmd} {α : Type}

theorem Performs.elim {x : Tx HealthDatabase α} {answer : Except String α}
    {post : α → HealthDatabase → Prop} (h : Performs x db answer db') (hx : Commits x db post) :
    (∃ value, post value db' ∧ (answer = .ok value ∨ ∃ error, answer = .error error)) ∨
      (∃ error, answer = .error error) ∧ db' = db := by
  rcases h with ⟨value, hrun, hanswer⟩ | hfailed
  · exact .inl ⟨value, hx value db' hrun, hanswer⟩
  · exact .inr hfailed

/-- A call whose answer leaves no deed. -/
theorem Performs.keeps {x : Tx HealthDatabase α} {answer : Except String α}
    {P : HealthDatabase → Prop} (h : Performs x db answer db')
    (hx : Commits x db fun _ db' => P db') (hdb : P db) : P db' := by
  rcases h.elim hx with ⟨value, hpost, -⟩ | ⟨-, rfl⟩
  · exact hpost
  · exact hdb

theorem listDueSchedules_commits (now : Date) :
    Commits (listDueSchedules now) db fun _ db' => db' = db := by
  unfold listDueSchedules
  simp only [commits_bind, commits_get, commits_pure]

variable {hashing : Hashing} {options : T → CycleOptions}
  {allowed : HealthDatabase → HealthDatabase → Prop} {t : T} {w : HealthWorld T}

theorem healthInv_act (h : HealthInv (deeds w.log) w.state) {answer : command.Answer}
    (hpre : MayPerform (deeds w.log) t command)
    (heffect : Effect hashing command w.state answer db') :
    HealthInv (deeds (w.act t command answer db').log) db' := by
  cases command with
  | now =>
    obtain rfl := heffect
    exact h
  | reconcilePersistedResults now =>
    obtain ⟨incident, rfl, -⟩ := heffect
    exact h.move (reconcileAll_move incident now _ 0) released_none
  | listDueSchedules now =>
    have hsame := Performs.keeps heffect (listDueSchedules_commits now) rfl
    subst hsame
    exact h
  | materializeDueSlot scheduleId now =>
    obtain ⟨id, createdAt, hperforms⟩ := heffect
    refine hperforms.keeps (P := HealthInv (deeds w.log)) ?_ h
    refine (materializeDueSlot_move hashing id createdAt scheduleId now).mono fun _ db' hmoved => ?_
    obtain ⟨mid, hmid, hmove⟩ := hmoved
    rcases hmid with rfl | hnew
    · exact h.move hmove released_none
    · exact (h.materialized hnew).move hmove released_none
  | claimNext input =>
    obtain ⟨leaseId, hfresh, hperforms⟩ := heffect
    have hunclaimed (hmove : RunsMove none w.state db') : HealthInv (deeds w.log) db' :=
      h.move hmove released_none
    rcases hperforms.elim (claimNext_move h.tables.ids leaseId input) with
      ⟨claim, ⟨hmove, hclaim⟩, hanswer⟩ | ⟨⟨error, rfl⟩, rfl⟩
    · rcases hanswer with rfl | ⟨error, rfl⟩
      · cases claim with
        | none => exact hunclaimed hmove
        | some run =>
          obtain ⟨hlease, hdrawn⟩ := hclaim run rfl
          exact h.claim hmove hfresh hdrawn hlease
      · exact hunclaimed hmove
    · exact h
  | startRun input =>
    rcases Performs.elim heffect (startRun_commits input) with
      ⟨run, ⟨cadence, ⟨old, hold, hholds, rfl⟩, rfl⟩, hanswer⟩ | ⟨⟨error, rfl⟩, rfl⟩
    · rcases hanswer with rfl | ⟨error, rfl⟩
      · exact h.start ⟨hold, hholds, rfl⟩ (started_move input cadence) hpre
      · exact h.move (started_move input cadence) released_none
    · exact h
  | finishSuccess input healthRunId healthState =>
    have hmove := Performs.keeps heffect (finishSuccess_move input healthRunId healthState)
      (.refl none w.state)
    exact h.move hmove released_none
  | finishFailure input failureClass failureCode =>
    have hmove := Performs.keeps heffect (finishFailure_move input failureClass failureCode)
      (.refl _ w.state)
    exact h.move hmove (MayFail.released h.deeds hpre)
  | timeoutRun input failureCode =>
    have hmove := Performs.keeps heffect (timeoutRun_move input failureCode) (.refl _ w.state)
    exact h.move hmove (MayTimeOut.released h.deeds hpre)
  | execute run =>
    obtain rfl := heffect
    exact h.call hpre.1 hpre.2
  | settle run =>
    obtain ⟨rfl, -⟩ := heffect
    exact h.settle hpre.1 hpre.2

theorem deedOf_act {answer : command.Answer} {pair : T × Deed}
    (h : deedOf (.act t command answer db db') = some pair) : pair.1 = t := by
  cases command with
  | claimNext input =>
    rcases answer with error | claim
    · cases h
    · cases claim with
      | none => cases h
      | some run =>
        cases h
        rfl
  | startRun input =>
    rcases answer with error | run
    · cases h
    · cases h
      rfl
  | execute run =>
    cases h
    rfl
  | settle run =>
    cases h
    rfl
  | _ => cases h

/-- A command of one thread is no deed of another. -/
theorem sameDeeds_act {other : T} (hother : other ≠ t) (command : Cmd) (answer : command.Answer) :
    SameDeeds other (deeds w.log) (deeds (w.act t command answer db').log) := by
  intro deed
  rw [World.act_log, deeds, List.filterMap_cons]
  split
  · exact Iff.rfl
  · rename_i pair hdeed
    rw [List.mem_cons]
    refine ⟨fun hmem => hmem.resolve_left fun heq => ?_, .inr⟩
    exact hother ((congrArg Prod.fst heq).trans (deedOf_act hdeed))

theorem sameDeeds_env (s : HealthDatabase) :
    SameDeeds t (deeds w.log) (deeds (w.env s).log) := fun _ => Iff.rfl

theorem sameDeeds_finish {other : T} (outcome : Except String SchedulerCycleSummary) :
    SameDeeds t (deeds w.log) (deeds (w.finish other outcome).log) := fun _ => Iff.rfl

theorem sameDeeds_refl (t : T) (done : List (T × Deed)) : SameDeeds t done done := fun _ => Iff.rfl

theorem sameDeeds_trans {done done' done'' : List (T × Deed)} (h : SameDeeds t done done')
    (h' : SameDeeds t done' done'') : SameDeeds t done done'' :=
  fun deed => (h' deed).trans (h deed)

/-! The cycle meets the outline. -/

/-- The commands that may always be performed and leave no deed. -/
def Cmd.Calm : Cmd → Prop
  | .now | .reconcilePersistedResults _ | .listDueSchedules _ | .materializeDueSlot _ _
  | .finishSuccess _ _ _ => True
  | _ => False

theorem calm_step (hcalm : command.Calm) (w : HealthWorld T) :
    MayPerform (deeds w.log) t command ∧ ∀ answer s,
      SameDeeds t (deeds w.log) (deeds (w.act t command answer s).log) := by
  cases command with
  | now => exact ⟨trivial, fun _ _ _ => Iff.rfl⟩
  | reconcilePersistedResults _ => exact ⟨trivial, fun _ _ _ => Iff.rfl⟩
  | listDueSchedules _ => exact ⟨trivial, fun _ _ _ => Iff.rfl⟩
  | materializeDueSlot _ _ => exact ⟨trivial, fun _ _ _ => Iff.rfl⟩
  | finishSuccess _ _ _ => exact ⟨trivial, fun _ _ _ => Iff.rfl⟩
  | _ => exact hcalm.elim

/-- The worlds from which a program of a thread keeps the outline, whatever it returns. -/
def Keeps (hashing : Hashing) (options : T → CycleOptions)
    (allowed : HealthDatabase → HealthDatabase → Prop) (t : T) {α : Type} (p : Program α)
    (w : HealthWorld T) : Prop :=
  System.wp outline (scheduler hashing options allowed) t p (fun _ _ => True) (fun _ _ => True) w

/-- A sequence keeps the outline, if what the first program returns lets the second one keep it. -/
theorem keeps_bind {β : Type} {p : Program α} {f : α → Program β}
    (h : System.wp outline (scheduler hashing options allowed) t p
      (fun value => Keeps hashing options allowed t (f value)) (fun _ _ => True) w) :
    Keeps hashing options allowed t (p.bind f) w :=
  System.wp_bind (fun _ w => sameDeeds_refl _ (deeds w.log)) h

/-- A calm program changes nothing that the thread relies on. -/
theorem calm_wp {p : Program α} {Q : α → HealthWorld T → Prop} (hp : p.Only Cmd.Calm fun _ => True)
    (hQ : ∀ value w', SameDeeds t (deeds w.log) (deeds w'.log) → outline.inv w' → Q value w') :
    System.wp outline (scheduler hashing options allowed) t p Q (fun _ _ => True) w :=
  System.wp_only (fun _ _ _ _ h h' => sameDeeds_trans h h')
    (fun _ hcalm w' _ => ⟨(calm_step hcalm w').1, fun answer s _ _ =>
      (calm_step hcalm w').2 answer s⟩)
    hp (fun value _ w' hsame hinv => hQ value w' hsame hinv) fun _ _ _ _ => trivial

theorem keeps_calm {p : Program α} (hp : p.Only Cmd.Calm fun _ => True) :
    Keeps hashing options allowed t p w := calm_wp hp fun _ _ _ _ => trivial

theorem keeps_ret (value : α) : Keeps hashing options allowed t (.ret value) w :=
  fun _ _ _ => trivial

theorem calm_now : clockNow.Only Cmd.Calm fun _ => True := ⟨trivial, fun _ => trivial⟩

theorem calm_ofExcept (answer : Except String α) :
    (Prog.ofExcept answer : Program α).Only Cmd.Calm fun _ => True := by
  cases answer <;> trivial

theorem calm_startTimer (started : HealthScheduledRun) :
    (startTimer started).Only Cmd.Calm fun _ => True := by
  unfold startTimer
  split
  · exact ⟨trivial, fun _ => trivial⟩
  · trivial

theorem calm_materializeAll (now : Date) (due : List HealthSchedule) (materialized : Nat) :
    (materializeAll now due materialized).Only Cmd.Calm fun _ => True := by
  induction due generalizing materialized with
  | nil => trivial
  | cons schedule rest ih =>
    refine ⟨trivial, fun answer => ?_⟩
    cases answer with
    | ok run => exact ih _
    | error error => trivial

/-- What the cycle knows of an execution that ended. -/
def Answered (done : List (T × Deed)) (t : T) (run : HealthScheduledRun)
    (result : Except Unit (Option ScheduledExecutionResult)) : Prop :=
  (t, .started run) ∈ done ∧ ∀ failureClass failureCode,
    result = .ok (some (.FAILED failureClass failureCode)) →
      (t, .settled run (.returned (.FAILED failureClass failureCode))) ∈ done

theorem raced_failed {timeoutAt : Option Date} {execution : Execution}
    {failure : ScheduledExecutionResult} (h : execution.raced timeoutAt = .ok (some failure)) :
    execution = .returned failure := by
  cases execution with
  | returned result =>
    cases h
    rfl
  | threw message =>
    simp only [Execution.raced] at h
    split at h
    · cases h
    · cases h
  | deadline => cases h

theorem executeRun_wp {run : HealthScheduledRun} (hstarted : (t, .started run) ∈ deeds w.log)
    (hnew : (t, .called run) ∉ deeds w.log) :
    System.wp outline (scheduler hashing options allowed) t (executeRun run)
      (fun result w' => Answered (deeds w'.log) t run result) (fun _ _ => True) w := by
  unfold executeRun
  simp only [Prog.bind_eq, Prog.act_bind, Prog.ret_bind, Prog.pure_eq]
  intro w₁ hsame₁ hinv₁
  have hnew₁ : (t, .called run) ∉ deeds w₁.log := fun h => hnew ((hsame₁ _).mp h)
  refine ⟨⟨(hsame₁ _).mpr hstarted, hnew₁⟩, fun answer s heffect _ => ?_⟩
  refine System.wp_bind (fun t w => sameDeeds_refl t (deeds w.log))
    (calm_wp (calm_startTimer run) fun _ w₂ hsame₂ hinv₂ => ?_)
  intro w₃ hsame₃ hinv₃
  have hdeeds (deed : Deed) : (t, deed) ∈ deeds w₃.log ↔
      (t, deed) ∈ (t, .called run) :: deeds w₁.log := (hsame₃ deed).trans (hsame₂ deed)
  refine ⟨⟨(hdeeds _).mpr List.mem_cons_self, fun execution hsettled => ?_⟩,
    fun execution s heffect _ => ?_⟩
  · have hold : (t, .settled run execution) ∈ deeds w₁.log := by
      simpa using (hdeeds _).mp hsettled
    exact hnew₁ (hinv₁.deeds.settled t run execution hold)
  · intro w₄ hsame₄ _
    refine ⟨(hsame₄ _).mpr (List.mem_cons_of_mem _ ((hdeeds _).mpr (List.mem_cons_of_mem _
      ((hsame₁ _).mpr hstarted)))), fun failureClass failureCode hresult => ?_⟩
    have heq := raced_failed hresult
    subst heq
    exact (hsame₄ _).mpr List.mem_cons_self

theorem reportFailure_keeps {runId ownerId leaseId : String} {failureClass : HealthFailureClass}
    {failureCode : String} (summary : SchedulerCycleSummary)
    (h : MayFail (deeds w.log) t leaseId failureClass failureCode) :
    Keeps hashing options allowed t
      (reportFailure (LeaseInput.mk runId ownerId leaseId) failureClass failureCode summary) w := by
  unfold reportFailure
  refine keeps_bind (calm_wp calm_now fun now w₁ hsame₁ _ => ?_)
  intro w₂ hsame₂ _
  refine ⟨(h.same hsame₁).same hsame₂, fun answer s _ _ => ?_⟩
  cases answer with
  | ok finished => exact keeps_ret _
  | error error => exact fun _ _ _ => trivial

theorem report_keeps {runId ownerId leaseId : String} {started : HealthScheduledRun}
    (summary : SchedulerCycleSummary) (hlease : started.leaseId = some leaseId)
    (result : Except Unit (Option ScheduledExecutionResult))
    (h : Answered (deeds w.log) t started result) :
    Keeps hashing options allowed t
      (report (LeaseInput.mk runId ownerId leaseId) started summary result) w := by
  obtain ⟨hstarted, hfailed⟩ := h
  -- a report of an uncertain send is terminal
  have huncertain {failureCode : String}
      (hcode : started.probeLayer = .AUTHENTICATED_DEEP → failureCode = "SEND_UNCERTAIN") :
      MayFail (deeds w.log) t leaseId .TRANSIENT_ENVIRONMENT failureCode := by
    refine ⟨started, hstarted, hlease, fun hlayer hretry => ?_⟩
    rw [hcode hlayer] at hretry
    simp [classifyFailure] at hretry
  match result with
  | .error () => exact reportFailure_keeps summary (huncertain fun hlayer => if_pos hlayer)
  | .ok none =>
    rw [report]
    split
    · exact reportFailure_keeps summary (huncertain fun _ => rfl)
    · rename_i hlayer
      refine keeps_bind (calm_wp calm_now fun now w₁ hsame₁ _ => ?_)
      intro w₂ hsame₂ _
      have hmay : MayTimeOut (deeds w.log) t leaseId := ⟨started, hstarted, hlease, hlayer⟩
      refine ⟨(hmay.same hsame₁).same hsame₂, fun answer s _ _ => ?_⟩
      cases answer with
      | ok finished => exact keeps_ret _
      | error error => exact fun _ _ _ => trivial
  | .ok (some (.SUCCEEDED healthRunId healthState)) =>
    refine keeps_calm ⟨trivial, fun now => ⟨trivial, fun answer => ?_⟩⟩
    cases answer <;> trivial
  | .ok (some (.FAILED failureClass failureCode)) =>
    refine reportFailure_keeps summary ⟨started, hstarted, hlease, fun _ hretry => ?_⟩
    exact ⟨failureClass, failureCode, hfailed failureClass failureCode rfl, hretry⟩

/-- A started run has its deadline ahead. -/
theorem startRun_answer {input : LeaseInput} {started : HealthScheduledRun}
    (h : Performs (startRun input) db (.ok started) db') :
    started.leaseId = some input.leaseId ∧ started.timeoutAt.any (· ≤ input.now) = false := by
  rcases h.elim (startRun_commits input) with
    ⟨run, ⟨cadence, ⟨old, -, hholds, rfl⟩, -⟩, hanswer | ⟨error, hanswer⟩⟩ | ⟨⟨error, hanswer⟩, -⟩
  · cases hanswer
    refine ⟨(LeaseInput.holds_iff.mp hholds).2.2.2.1, ?_⟩
    have hbound := cadence.timeout_bounds.1
    have hpos : 0 < cadence.timeoutSeconds * 1000 := by omega
    exact decide_eq_false (Int.not_le.mpr (Int.lt_add_of_pos_right input.now hpos))
  · cases hanswer
  · cases hanswer

theorem runClaim_keeps {now : Date} {claim : HealthScheduledRun} {leaseId : String}
    (summary : SchedulerCycleSummary) (h : MayStart (deeds w.log) t leaseId) :
    Keeps hashing options allowed t (runClaim (options t) now claim leaseId summary) w := by
  unfold runClaim
  simp only [Prog.bind_eq, Prog.act_bind]
  intro w₁ hsame₁ hinv₁
  have hmay := h.same hsame₁
  refine ⟨hmay, fun answer s heffect _ => ?_⟩
  cases answer with
  | error error => exact fun _ _ _ => trivial
  | ok started =>
    obtain ⟨hlease, hahead⟩ := startRun_answer heffect
    dsimp only at hahead
    simp only [Prog.ofExcept_ok, Prog.ret_bind, hahead, Bool.false_eq_true, if_false]
    refine keeps_bind (System.wp_mono (executeRun_wp List.mem_cons_self fun hcalled => ?_)
      (fun result w₂ _ hanswered => report_keeps summary hlease result hanswered)
      fun _ _ _ _ => trivial)
    have hmem : (t, .called started) ∈ (t, .started started) :: deeds w₁.log := hcalled
    have hold : (t, .called started) ∈ deeds w₁.log := by simpa using hmem
    exact hmay.fresh started (hinv₁.deeds.called t started hold) hlease

theorem claimNext_answer {input : ClaimInput} {leaseId : String} {claim : HealthScheduledRun}
    (hids : UniqueBy (fun r => some r.id) db.runs)
    (h : Performs (claimNext leaseId input) db (.ok (some claim)) db') :
    claim.leaseId = some leaseId := by
  rcases h.elim (claimNext_move hids leaseId input) with
    ⟨answer, ⟨-, hclaim⟩, hanswer | ⟨error, hanswer⟩⟩ | ⟨⟨error, hanswer⟩, -⟩
  · cases hanswer
    exact (hclaim claim rfl).1
  · cases hanswer
  · cases hanswer

theorem claimRuns_keeps (now : Date) (remaining : Nat) (summary : SchedulerCycleSummary)
    (w : HealthWorld T) :
    Keeps hashing options allowed t (claimRuns (options t) now remaining summary) w := by
  induction remaining generalizing summary w with
  | zero => exact keeps_ret _
  | succ remaining ih =>
    unfold claimRuns
    simp only [Prog.bind_eq, Prog.act_bind]
    intro w₁ hsame₁ hinv₁
    refine ⟨trivial, fun answer s heffect _ => ?_⟩
    cases answer with
    | error error => exact fun _ _ _ => trivial
    | ok claim =>
      simp only [Prog.ofExcept_ok, Prog.ret_bind]
      split
      · exact keeps_ret _
      rename_i run leaseId hclaim
      obtain ⟨found, rfl, hfound⟩ := Option.bind_eq_some_iff.mp hclaim
      obtain ⟨lease, hlease, hpair⟩ := Option.map_eq_some_iff.mp hfound
      cases hpair
      refine keeps_bind (System.wp_mono (runClaim_keeps _ ⟨⟨run, List.mem_cons_self, hlease⟩, ?_⟩)
        (fun summary w₂ _ _ => ih summary w₂) fun _ _ _ _ => trivial)
      -- the lease is new, so nothing was started under it
      intro other hstarted hsame
      obtain ⟨drawn, hfresh, hperforms⟩ := heffect
      have hdrawn := claimNext_answer hinv₁.tables.ids hperforms
      have hmem : (t, .started other) ∈ (t, .claimed run) :: deeds w₁.log := hstarted
      have hold : (t, .started other) ∈ deeds w₁.log := by simpa using hmem
      obtain ⟨⟨claim, hclaim, hclaimLease⟩, -⟩ := hinv₁.deeds.started t other hold
      obtain ⟨l, hl, hl'⟩ := hinv₁.deeds.claimed t claim hclaim
      have heq : l = drawn := Option.some.inj (hl'.symm.trans (hclaimLease.trans
        (hsame.trans (hlease.symm.trans hdrawn))))
      rw [heq] at hl
      exact hfresh hl

theorem cycle_keeps (w : HealthWorld T) :
    Keeps hashing options allowed t (runDurableHealthSchedulerCycle (options t)) w := by
  unfold runDurableHealthSchedulerCycle
  simp only [Prog.bind_eq]
  have hreconcile (now : Date) : (Prog.act (.reconcilePersistedResults now) Prog.ofExcept :
      Program Nat).Only Cmd.Calm fun _ => True := ⟨trivial, fun answer => calm_ofExcept answer⟩
  refine keeps_bind (calm_wp calm_now fun now _ _ _ => ?_)
  refine keeps_bind (calm_wp (hreconcile now) fun reconciled _ _ _ => ?_)
  refine keeps_bind (calm_wp ⟨trivial, fun answer => calm_ofExcept answer⟩ fun due _ _ _ => ?_)
  refine keeps_bind (calm_wp (calm_materializeAll now due 0) fun _ w₁ _ _ => ?_)
  refine keeps_bind (System.wp_mono (claimRuns_keeps now _ _ w₁) (fun summary _ _ _ => ?_)
    fun _ _ _ _ => trivial)
  refine keeps_bind (calm_wp calm_now fun last _ _ _ => ?_)
  refine keeps_bind (calm_wp (hreconcile last) fun more _ _ _ => ?_)
  exact keeps_ret _

/-- The outline holds of every interleaving of the cycles. -/
theorem outline_sound (hashing : Hashing) (options : T → CycleOptions)
    (allowed : HealthDatabase → HealthDatabase → Prop) :
    System.Sound (scheduler hashing options allowed) outline {} where
  rely_refl _ _ := sameDeeds_refl _ _
  rely_trans _ _ _ _ h h' := sameDeeds_trans h h'
  start := healthInv_start
  act _ _ _ _ _ hinv hpre heffect :=
    ⟨healthInv_act hinv hpre heffect, fun _ hother => sameDeeds_act hother _ _⟩
  env _ s hinv henv := ⟨hinv.env henv.1, fun _ => sameDeeds_env s⟩
  finish _ outcome _ hinv _ := ⟨hinv, fun _ => sameDeeds_finish outcome⟩
  prelude _ w _ := System.wp_bind (fun _ _ => sameDeeds_refl _ _)
    (System.wp_mono (cycle_keeps w) (fun _ _ _ _ _ _ _ => trivial) fun _ _ _ _ => trivial)
  body _ _ _ := fun _ _ _ => trivial

end SellerAgents.HealthScheduler
