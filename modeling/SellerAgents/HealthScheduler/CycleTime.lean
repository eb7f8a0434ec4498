import SellerAgents.Concurrent.History
import SellerAgents.HealthScheduler.Laws

open Relational Concurrent

namespace SellerAgents.HealthScheduler

open Subscriptions (Date)
open Prog (Leads leads_bind_act leads_act_iff leads_ret_iff only_bind only_mono ret_bind act_bind
  bind_eq)

/-! What a cycle has called when it calls `execute`. -/

/-- The commands other than the call of a run. -/
def Cmd.Quiet : Cmd → Prop
  | .execute _ => False
  | _ => True

theorem quiet_ofExcept {α : Type} (answer : Except String α) :
    (Prog.ofExcept answer : Program α).Only Cmd.Quiet fun _ => True := by
  cases answer <;> trivial

theorem quiet_bind {α β : Type} {p : Program α} {f : α → Program β}
    (hp : p.Only Cmd.Quiet fun _ => True) (hf : ∀ value, (f value).Only Cmd.Quiet fun _ => True) :
    (p >>= f).Only Cmd.Quiet fun _ => True :=
  only_bind (only_mono hp fun value _ => hf value)

theorem quiet_now : clockNow.Only Cmd.Quiet fun _ => True := ⟨trivial, fun _ => trivial⟩

theorem quiet_materializeAll (now : Date) (due : List HealthSchedule) (materialized : Nat) :
    (materializeAll now due materialized).Only Cmd.Quiet fun _ => True := by
  induction due generalizing materialized with
  | nil => trivial
  | cons schedule rest ih =>
    unfold materializeAll
    exact quiet_bind ⟨trivial, fun answer => quiet_ofExcept answer⟩ fun run => ih _

theorem quiet_startTimer (started : HealthScheduledRun) :
    (startTimer started).Only Cmd.Quiet fun _ => True := by
  unfold startTimer
  split
  · exact ⟨trivial, fun _ => trivial⟩
  · trivial

theorem quiet_reportFailure (lease : Date → LeaseInput) (failureClass : HealthFailureClass)
    (failureCode : String) (summary : SchedulerCycleSummary) :
    (reportFailure lease failureClass failureCode summary).Only Cmd.Quiet fun _ => True := by
  unfold reportFailure
  refine quiet_bind quiet_now fun now => ?_
  exact quiet_bind ⟨trivial, fun answer => quiet_ofExcept answer⟩ fun _ => trivial

theorem quiet_report (lease : Date → LeaseInput) (started : HealthScheduledRun)
    (summary : SchedulerCycleSummary) (result : Except Unit (Option ScheduledExecutionResult)) :
    (report lease started summary result).Only Cmd.Quiet fun _ => True := by
  match result with
  | .error () => exact quiet_reportFailure _ _ _ _
  | .ok none =>
    simp only [report]
    split
    · exact quiet_reportFailure _ _ _ _
    · refine quiet_bind quiet_now fun now => ?_
      exact quiet_bind ⟨trivial, fun answer => quiet_ofExcept answer⟩ fun _ => trivial
  | .ok (some (.SUCCEEDED healthRunId healthState)) =>
    refine quiet_bind quiet_now fun now => ?_
    exact quiet_bind ⟨trivial, fun answer => quiet_ofExcept answer⟩ fun _ => trivial
  | .ok (some (.FAILED failureClass failureCode)) => exact quiet_reportFailure _ _ _ _

section Path

variable {options : CycleOptions} {now : Date} {calls : List (Prog.Call Cmd Cmd.Answer)}
  {run : HealthScheduledRun}

/-- A quiet program does not come to call a run. -/
theorem Leads.quiet {α : Type} {p : Program α} {next : Unit → Program α}
    (h : Leads p calls (.act (.execute run) next)) (hp : p.Only Cmd.Quiet fun _ => True) :
    False := (h.only hp).2.1

/-- The call of a run comes after a quiet program. -/
theorem Leads.past {α β : Type} {p : Program α} {f : α → Program β} {next : Unit → Program β}
    (h : Leads (p.bind f) calls (.act (.execute run) next)) (hp : p.Only Cmd.Quiet fun _ => True) :
    ∃ value first rest, Leads p first (.ret value) ∧
      Leads (f value) rest (.act (.execute run) next) ∧ calls = first ++ rest := by
  rcases leads_bind_act h with ⟨next', hleads⟩ | hboth
  · exact (Leads.quiet hleads hp).elim
  · exact hboth

theorem executeRun_called {started : HealthScheduledRun}
    {next : Unit → Program (Except Unit (Option ScheduledExecutionResult))}
    (h : Leads (executeRun started) calls (.act (.execute run) next)) :
    calls = [] ∧ run = started := by
  unfold executeRun at h
  simp only [bind_eq, act_bind, ret_bind, Prog.pure_eq] at h
  rcases leads_act_iff.mp h with ⟨rfl, heq⟩ | ⟨answer, rest, -, hrest⟩
  · cases heq
    exact ⟨rfl, rfl⟩
  · refine (Leads.quiet hrest ?_).elim
    refine only_bind (only_mono (quiet_startTimer started) fun _ _ => ?_)
    exact ⟨trivial, fun _ => trivial⟩

theorem runClaim_called {claim : HealthScheduledRun} {leaseId : String}
    {summary : SchedulerCycleSummary} {next : Unit → Program SchedulerCycleSummary}
    (h : Leads (runClaim options now claim leaseId summary) calls
      (.act (.execute run) next)) :
    calls = [⟨.startRun ⟨claim.id, options.ownerId, leaseId, now⟩, .ok run⟩] := by
  unfold runClaim at h
  simp only [bind_eq, act_bind] at h
  rcases leads_act_iff.mp h with ⟨-, heq⟩ | ⟨answer, rest, rfl, hrest⟩
  · cases heq
  · cases answer with
    | error error => cases (Prog.leads_throw_iff.mp hrest).2
    | ok started =>
      simp only [Prog.ofExcept_ok, ret_bind] at hrest
      split at hrest
      · refine (Leads.quiet hrest ⟨trivial, fun answer => ?_⟩).elim
        exact quiet_bind (quiet_ofExcept answer) fun _ => trivial
      · rcases leads_bind_act hrest with ⟨next', hexecute⟩ | ⟨result, first, last, -, hreport, -⟩
        · obtain ⟨rfl, rfl⟩ := executeRun_called hexecute
          rfl
        · exact (Leads.quiet hreport (quiet_report _ _ _ _)).elim

theorem claimRuns_called {remaining : Nat} {summary : SchedulerCycleSummary}
    {next : Unit → Program SchedulerCycleSummary}
    (h : Leads (claimRuns options now remaining summary) calls (.act (.execute run) next)) :
    ∃ before claim leaseId, claim.leaseId = some leaseId ∧
      calls = before ++
        [⟨.claimNext ⟨options.ownerId, now, options.leaseMs⟩, .ok (some claim)⟩,
          ⟨.startRun ⟨claim.id, options.ownerId, leaseId, now⟩, .ok run⟩] := by
  induction remaining generalizing calls summary next with
  | zero => cases (leads_ret_iff.mp h).2
  | succ remaining ih =>
    unfold claimRuns at h
    simp only [bind_eq, act_bind] at h
    rcases leads_act_iff.mp h with ⟨-, heq⟩ | ⟨answer, rest, rfl, hrest⟩
    · cases heq
    · cases answer with
      | error error => cases (Prog.leads_throw_iff.mp hrest).2
      | ok answer =>
        simp only [Prog.ofExcept_ok, ret_bind] at hrest
        split at hrest
        · cases (leads_ret_iff.mp hrest).2
        · rename_i claim leaseId hclaim
          obtain ⟨found, rfl, hlease⟩ := Option.bind_eq_some_iff.mp hclaim
          obtain ⟨l, hl, hpair⟩ := Option.map_eq_some_iff.mp hlease
          cases hpair
          rcases leads_bind_act hrest with
            ⟨next', hclaimed⟩ | ⟨summary', first, last, -, hlater, rfl⟩
          · exact ⟨[], claim, leaseId, hl, by rw [runClaim_called hclaimed]; rfl⟩
          · obtain ⟨before, claim', leaseId', hlease', rfl⟩ := ih hlater
            refine ⟨⟨.claimNext ⟨options.ownerId, now, options.leaseMs⟩, .ok (some claim)⟩ ::
              (first ++ before), claim', leaseId', hlease', ?_⟩
            rw [List.cons_append, List.append_assoc]

theorem clockNow_returned {first : Date} (h : Leads clockNow calls (.ret first)) :
    calls = [⟨.now, first⟩] := by
  rcases leads_act_iff.mp h with ⟨-, heq⟩ | ⟨answer, rest, rfl, hrest⟩
  · cases heq
  · obtain ⟨rfl, heq⟩ := leads_ret_iff.mp hrest
    cases heq
    rfl

/-- A cycle that is about to call a run has claimed it and started it at the time of its first
reading of the clock. -/
theorem cycle_called {next : Unit → Program (Option SchedulerCycleSummary)}
    (h : Leads ((runDurableHealthSchedulerCycle options).bind fun summary => .ret (some summary))
      calls (.act (.execute run) next)) :
    ∃ first before claim leaseId, claim.leaseId = some leaseId ∧
      calls = ⟨.now, first⟩ :: before ++
        [⟨.claimNext ⟨options.ownerId, first, options.leaseMs⟩, .ok (some claim)⟩,
          ⟨.startRun ⟨claim.id, options.ownerId, leaseId, first⟩, .ok run⟩] := by
  rcases leads_bind_act h with ⟨next', hcycle⟩ | ⟨summary, done, last, -, hret, -⟩
  · unfold runDurableHealthSchedulerCycle at hcycle
    simp only [bind_eq] at hcycle
    have hcall : ∀ {α : Type} {command : Cmd} {next : command.Answer → Except String α},
        command.Quiet → (Prog.act command fun answer => Prog.ofExcept (next answer) :
          Program α).Only Cmd.Quiet fun _ => True :=
      fun hquiet => ⟨hquiet, fun answer => quiet_ofExcept _⟩
    obtain ⟨first, read, rest, hread, hreconcile, hcalls⟩ := Leads.past hcycle quiet_now
    rw [clockNow_returned hread] at hcalls
    obtain ⟨reconciled, done, rest₁, -, hlist, hrest⟩ := Leads.past hreconcile (hcall trivial)
    obtain ⟨due, done₁, rest₂, -, hdue, hrest₁⟩ := Leads.past hlist (hcall trivial)
    obtain ⟨materialized, done₂, rest₃, -, hclaims, hrest₂⟩ :=
      Leads.past hdue (quiet_materializeAll _ _ _)
    rcases leads_bind_act hclaims with ⟨next', hclaimed⟩ | ⟨summary, claims, last, -, hlast, -⟩
    · obtain ⟨before, claim, leaseId, hlease, hlast⟩ := claimRuns_called hclaimed
      refine ⟨first, done ++ (done₁ ++ (done₂ ++ before)), claim, leaseId, hlease, ?_⟩
      rw [hcalls, hrest, hrest₁, hrest₂, hlast]
      simp only [List.append_assoc, List.cons_append, List.nil_append]
    · refine (Leads.quiet hlast ?_).elim
      refine quiet_bind quiet_now fun last => ?_
      exact quiet_bind (hcall trivial) fun _ => trivial
  · cases (leads_ret_iff.mp hret).2

end Path

/-! The cycles with their clocks. -/

/-- The database, and what the clock of each cycle shows. -/
structure Timed (T : Type) where
  db : HealthDatabase
  clock : T → Date

/-- A reading answers what the clock shows. -/
def Reads : (command : Cmd) → command.Answer → Date → Prop
  | .now, answer, clock => answer = clock
  | _, _, _ => True

/-- Every thread is one cycle of an owner. Time passes between the calls, and the others may change
the database there. -/
def timedScheduler {T : Type} (hashing : Hashing) (options : T → CycleOptions) :
    System T Cmd Cmd.Answer String SchedulerCycleSummary (Timed T) where
  prelude t := (runDurableHealthSchedulerCycle (options t)).bind fun summary => .ret (some summary)
  body _ := .ret none
  effect t command w answer s := Effect hashing command w.state.db answer s.db ∧
    s.clock = w.state.clock ∧ Reads command answer (w.state.clock t)
  env w s := (EnvStep w.state.db s.db ∧ s.clock = w.state.clock) ∨
    (s.db = w.state.db ∧ ∀ t, w.state.clock t ≤ s.clock t)

abbrev TimedEvent (T : Type) : Type :=
  Event T Cmd Cmd.Answer String SchedulerCycleSummary (Timed T)

variable {T : Type} {hashing : Hashing} {db db' : HealthDatabase}

/-- The leases of the rows were drawn, and one granted by a claim runs until the time of the claim.
-/
structure LeaseInv (log : List (TimedEvent T)) (db : HealthDatabase) : Prop where
  ids : UniqueBy (fun r => some r.id) db.runs
  rows : ∀ row ∈ db.runs, ∀ l, row.leaseId = some l → l ∈ db.drawn
  claims : ∀ t input claim pre post, .act t (.claimNext input) (.ok (some claim)) pre post ∈ log →
    ∃ l ∈ db.drawn, claim.leaseId = some l ∧ ∀ row ∈ db.runs, row.leaseId = some l →
      row.leaseExpiresAt = some (input.now + input.leaseMs)

section Inv

variable {log : List (TimedEvent T)}

theorem LeaseInv.kept (h : LeaseInv log db) (hids : UniqueBy (fun r => some r.id) db'.runs)
    (hkept : LeasesKept db db') : LeaseInv log db' where
  ids := hids
  rows row' hrow' l hl := by
    obtain ⟨row, hrow, -, hl, -⟩ := hkept.held row' hrow' l hl
    exact hkept.drawn l (h.rows row hrow l hl)
  claims t input claim pre post hmem := by
    obtain ⟨l, hdrawn, hlease, hrows⟩ := h.claims t input claim pre post hmem
    refine ⟨l, hkept.drawn l hdrawn, hlease, fun row' hrow' hl => ?_⟩
    obtain ⟨row, hrow, -, hl, hexpires⟩ := hkept.held row' hrow' l hl
    exact hexpires ▸ hrows row hrow hl

theorem LeaseInv.push (h : LeaseInv log db) {event : TimedEvent T}
    (hevent : ∀ t input claim pre post,
      event ≠ .act t (.claimNext input) (.ok (some claim)) pre post) : LeaseInv (event :: log) db :=
  { h with
    claims := by
      intro t input claim pre post hmem
      rcases List.mem_cons.mp hmem with heq | hmem
      · exact absurd heq.symm (hevent t input claim pre post)
      · exact h.claims t input claim pre post hmem }

/-- A fresh lease is nobody's yet. -/
theorem LeaseInv.granted (h : LeaseInv log db) (hids : UniqueBy (fun r => some r.id) db'.runs)
    {leaseId : String} {input : ClaimInput} (hfresh : leaseId ∉ db.drawn)
    (hgranted : LeaseGranted leaseId input db db') :
    LeaseInv log db' ∧ leaseId ∈ db'.drawn ∧ ∀ row ∈ db'.runs, row.leaseId = some leaseId →
      row.leaseExpiresAt = some (input.now + input.leaseMs) := by
  have hkeep : ∀ l ∈ db.drawn, l ∈ db'.drawn :=
    fun l hl => hgranted.drawn l (List.mem_cons_of_mem _ hl)
  refine ⟨⟨hids, ?_, ?_⟩, hgranted.drawn leaseId List.mem_cons_self, ?_⟩
  · intro row' hrow' l hl
    rcases hgranted.held row' hrow' l hl with ⟨rfl, -⟩ | ⟨row, hrow, hl, -⟩
    · exact hgranted.drawn l List.mem_cons_self
    · exact hkeep l (h.rows row hrow l hl)
  · intro t input' claim pre post hmem
    obtain ⟨l, hdrawn, hlease, hrows⟩ := h.claims t input' claim pre post hmem
    refine ⟨l, hkeep l hdrawn, hlease, fun row' hrow' hl => ?_⟩
    rcases hgranted.held row' hrow' l hl with ⟨rfl, -⟩ | ⟨row, hrow, hl, hexpires⟩
    · exact absurd hdrawn hfresh
    · exact hexpires ▸ hrows row hrow hl
  · intro row' hrow' hl
    rcases hgranted.held row' hrow' leaseId hl with ⟨-, hexpires⟩ | ⟨row, hrow, hl, -⟩
    · exact hexpires
    · exact absurd (h.rows row hrow leaseId hl) hfresh

theorem effect_ids (hids : UniqueBy (fun r => some r.id) db.runs) {command : Cmd}
    {answer : command.Answer} (h : Effect hashing command db answer db') :
    UniqueBy (fun r => some r.id) db'.runs := by
  obtain ⟨lease, mid, hmid, hmove⟩ := effect_moves hids h
  refine hmove.ids ?_
  rcases hmid with rfl | hnew
  · exact hids
  · obtain ⟨schedule, -, hashing', id, createdAt, hid, -, rfl⟩ := hnew.inserted
    exact hids.insert hid

theorem leaseInv_act {t : T} {w : World T Cmd Cmd.Answer String SchedulerCycleSummary (Timed T)}
    (h : LeaseInv w.log w.state.db) {command : Cmd} {answer : command.Answer} {s : Timed T}
    (heffect : Effect hashing command w.state.db answer s.db) :
    LeaseInv (w.act t command answer s).log s.db := by
  have hids := effect_ids h.ids heffect
  rw [World.act_log]
  by_cases hclaim : ∃ input, command = .claimNext input
  · obtain ⟨input, rfl⟩ := hclaim
    obtain ⟨leaseId, hfresh, hperforms⟩ := heffect
    rcases hperforms.elim (claimNext_leases leaseId input) with
      ⟨value, ⟨rfl, hkept⟩ | ⟨claim, rfl, hlease, -, hgranted⟩, hanswer⟩ | ⟨⟨error, rfl⟩, hsame⟩
    · refine (h.kept hids hkept).push ?_
      rcases hanswer with rfl | ⟨error, rfl⟩ <;> simp
    · obtain ⟨hinv, hdrawn, hrows⟩ := h.granted hids hfresh hgranted
      rcases hanswer with rfl | ⟨error, rfl⟩
      · refine { hinv with claims := ?_ }
        intro t' input' claim' pre post hmem
        rcases List.mem_cons.mp hmem with heq | hmem
        · cases heq
          exact ⟨leaseId, hdrawn, hlease, hrows⟩
        · exact hinv.claims t' input' claim' pre post hmem
      · exact hinv.push (by simp)
    · rw [hsame] at hids ⊢
      exact h.push (by simp)
  · have hother : ∀ input, command ≠ .claimNext input := fun input heq => hclaim ⟨input, heq⟩
    refine (h.kept hids (effect_leases hother heffect)).push ?_
    rintro t' input claim pre post heq
    cases heq
    exact hother input rfl

theorem leaseInv_env (h : LeaseInv log db) (he : EnvStep db db') : LeaseInv log db' := by
  have hsame : db'.runs = db.runs ∧ db'.drawn = db.drawn := by
    cases he with
    | created input run =>
      obtain ⟨-, rfl⟩ := createSchedule_commits input _ _ run
      exact ⟨rfl, rfl⟩
    | updated input run =>
      obtain rfl := updateSchedule_commits input _ _ run
      exact ⟨rfl, rfl⟩
    | persisted row => exact ⟨rfl, rfl⟩
    | retained watermarks => exact ⟨rfl, rfl⟩
  refine h.kept (hsame.1 ▸ h.ids) ⟨fun row hrow l hl => ?_, fun l hl => hsame.2 ▸ hl⟩
  exact ⟨row, hsame.1 ▸ hrow, rfl, hl, rfl⟩

end Inv

/-! The times of a run. -/

/-- The moments of a run before it is called: the first reading of its cycle, its claim and its
start. -/
structure Moments (T : Type) where
  first : Date
  claimed : Timed T
  started : Timed T

variable [DecidableEq T]

/-- The last two calls that a cycle made are the claim and the start of the run. -/
def PreparedAt (t : T) (run : HealthScheduledRun) (older : List (TimedEvent T)) (m : Moments T) :
    Prop :=
  (Concurrent.callsOf t older).head? = some ⟨.now, m.first⟩ ∧
    ∃ recent between rest claimInput claim claimed' startInput started',
      older = recent ++ .act t (.startRun startInput) (.ok run) m.started started' ::
        (between ++ .act t (.claimNext claimInput) (.ok (some claim)) m.claimed claimed' :: rest) ∧
      Concurrent.callsOf t recent = [] ∧ Concurrent.callsOf t between = []

/-- A run that is called has its own time: its lease was granted for `leaseMs` at the claim and has
not ended, and its deadline is the timeout of its schedule after the start. -/
def OwnTime (options : CycleOptions) (t : T) (run : HealthScheduledRun) (m : Moments T)
    (called : Timed T) : Prop :=
  ∃ expiresAt timeoutAt schedule,
    run.leaseExpiresAt = some expiresAt ∧ expiresAt = m.claimed.clock t + options.leaseMs ∧
    called.clock t < expiresAt ∧
    m.started.db.getSchedule run.scheduleId = some schedule ∧ run.timeoutAt = some timeoutAt ∧
    timeoutAt = m.started.clock t + schedule.cadence.timeoutSeconds * 1000

/-- No time passes in a cycle before the run is claimed and started, and less than `leaseMs` before
it is called. -/
def NoTimePassed (options : CycleOptions) (t : T) (m : Moments T) (called : Timed T) : Prop :=
  m.claimed.clock t = m.first ∧ m.started.clock t = m.first ∧
    called.clock t < m.first + options.leaseMs

/-- In a history every call of a run is prepared so that it has a property. -/
def EveryCall (P : T → HealthScheduledRun → Moments T → Timed T → Prop)
    (log : List (TimedEvent T)) : Prop :=
  ∀ t run called called' older, (.act t (.execute run) () called called' :: older) <:+ log →
    ∃ m, PreparedAt t run older m ∧ P t run m called

variable {options : T → CycleOptions} {t : T} {run : HealthScheduledRun}
  {older : List (TimedEvent T)} {m : Moments T} {called : Timed T}

omit [DecidableEq T] in
theorem timed_once (t : T) : ((timedScheduler hashing options).prelude t).Only (fun _ => True)
    fun result => result.isSome :=
  only_bind (only_mono (Prog.only_true _) fun _ _ => rfl)

omit [DecidableEq T] in
theorem cadence_schedule (scheduleId : String) :
    Commits (cadence scheduleId) db fun found db' => db' = db ∧
      ∃ schedule, db.getSchedule scheduleId = some schedule ∧ found = schedule.cadence := by
  unfold cadence
  simp only [commits_bind, commits_get]
  split
  · exact commits_throw
  · rename_i schedule hfind
    rw [commits_pure]
    exact ⟨rfl, schedule, hfind, rfl⟩

omit [DecidableEq T] in
theorem startRun_times {input : LeaseInput} (hids : UniqueBy (fun r => some r.id) db.runs)
    (h : Performs (startRun input) db (.ok run) db') :
    ∃ schedule, db.getSchedule run.scheduleId = some schedule ∧
      run.timeoutAt = some (input.now + schedule.cadence.timeoutSeconds * 1000) ∧
      ∃ old ∈ db.runs, old.leaseId = some input.leaseId ∧
        run.leaseExpiresAt = old.leaseExpiresAt := by
  have hcommits : Commits (startRun input) db fun run _ =>
      ∃ schedule, db.getSchedule run.scheduleId = some schedule ∧
        run.timeoutAt = some (input.now + schedule.cadence.timeoutSeconds * 1000) ∧
        ∃ old ∈ db.runs, old.leaseId = some input.leaseId ∧
          run.leaseExpiresAt = old.leaseExpiresAt := by
    unfold startRun assertScheduledRunTransition
    simp only [commits_bind, commits_ensure]
    refine (ownRun_commits input).mono fun current db₁ hown => ?_
    obtain ⟨rfl, hcurrent, hid⟩ := hown
    intro _
    refine (cadence_schedule _).mono fun found db₂ hfound => ?_
    obtain ⟨rfl, schedule, hschedule, rfl⟩ := hfound
    refine (updateLeased_commits input .CLAIMED _).mono fun row db' hrow => ?_
    obtain ⟨⟨old, hold, hholds, rfl⟩, -⟩ := hrow
    rw [commits_pure]
    obtain ⟨holdId, -, -, hlease, -⟩ := LeaseInput.holds_iff.mp hholds
    -- the row of the update is the one that was read
    obtain rfl : old = current :=
      hids.eq_of_key hold hcurrent (congrArg some (holdId.trans hid.symm)) rfl
    exact ⟨schedule, hschedule, rfl, old, hold, hlease, rfl⟩
  rcases h.elim hcommits with ⟨value, hpost, hanswer | ⟨error, hanswer⟩⟩ | ⟨⟨error, hanswer⟩, -⟩
  · cases hanswer
    exact hpost
  · cases hanswer
  · cases hanswer

/-- The claim and the start were told the first reading of the cycle. -/
theorem PreparedAt.inputs {next : Unit → Program (Option SchedulerCycleSummary)}
    (hleads : Leads ((timedScheduler hashing options).prelude t) (Concurrent.callsOf t older)
      (.act (.execute run) next)) (h : PreparedAt t run older m) :
    ∃ recent between rest claim claimed' leaseId started',
      older = recent ++ .act t (.startRun ⟨claim.id, (options t).ownerId, leaseId, m.first⟩) (.ok run)
          m.started started' ::
        (between ++ .act t (.claimNext ⟨(options t).ownerId, m.first, (options t).leaseMs⟩)
          (.ok (some claim)) m.claimed claimed' :: rest) ∧
      claim.leaseId = some leaseId := by
  obtain ⟨hhead, recent, between, rest, claimInput, claim, claimed', startInput, started', hlog,
    hrecent, hbetween⟩ := h
  obtain ⟨first, before, claim', leaseId, hlease, hcalls⟩ := cycle_called hleads
  rw [hcalls] at hhead
  obtain rfl : first = m.first := by simpa using hhead
  have hlast : Concurrent.callsOf t older = Concurrent.callsOf t rest ++
      [⟨.claimNext claimInput, .ok (some claim)⟩, ⟨.startRun startInput, .ok run⟩] := by
    rw [hlog, callsOf_append, hrecent, callsOf_act_self, callsOf_append, hbetween,
      callsOf_act_self]
    simp
  rw [hlast] at hcalls
  obtain ⟨-, hpair⟩ := List.append_inj' hcalls rfl
  simp only [List.cons.injEq, and_true, Sigma.mk.injEq, Cmd.claimNext.injEq, Cmd.startRun.injEq] at hpair
  obtain ⟨⟨rfl, hclaim⟩, rfl, -⟩ := hpair
  obtain rfl : claim = claim' := by simpa using hclaim
  exact ⟨recent, between, rest, claim, claimed', leaseId, started', hlog, hlease⟩

theorem exists_prepared {next : Unit → Program (Option SchedulerCycleSummary)}
    (hleads : Leads ((timedScheduler hashing options).prelude t) (Concurrent.callsOf t older)
      (.act (.execute run) next)) : ∃ m, PreparedAt t run older m := by
  obtain ⟨first, before, claim, leaseId, -, hcalls⟩ := cycle_called hleads
  have hstart : Concurrent.callsOf t older =
      (⟨.now, first⟩ :: before ++
        [⟨.claimNext ⟨(options t).ownerId, first, (options t).leaseMs⟩, .ok (some claim)⟩]) ++
      [⟨.startRun ⟨claim.id, (options t).ownerId, leaseId, first⟩, .ok run⟩] := by
    rw [hcalls]
    simp
  obtain ⟨recent, started, started', earlier, rfl, hrecent, hearlier⟩ :=
    exists_of_callsOf_snoc hstart
  obtain ⟨between, claimed, claimed', rest, rfl, hbetween, -⟩ := exists_of_callsOf_snoc hearlier
  refine ⟨⟨first, claimed, started⟩, by rw [hcalls]; rfl, ?_⟩
  exact ⟨recent, between, rest, _, claim, claimed', _, started', rfl, hrecent, hbetween⟩

/-- A database whose runs hold only leases that were drawn. -/
structure Consistent (db : HealthDatabase) : Prop where
  ids : UniqueBy (fun r => some r.id) db.runs
  rows : ∀ row ∈ db.runs, ∀ l, row.leaseId = some l → l ∈ db.drawn

section Runs

variable {start : Timed T}
  {cfg : Config T Cmd Cmd.Answer String SchedulerCycleSummary (Timed T)}

section

variable (hstart : Consistent start.db) (h : (timedScheduler hashing options).Reachable start cfg)
include hstart h

theorem leaseInv_reachable :
    ∀ t c r pre post older, (.act t c r pre post :: older) <:+ cfg.world.log →
      LeaseInv older pre.db := by
  refine (System.Reachable.invariant (I := fun w => LeaseInv w.log w.state.db) ?_ ?_ ?_ ?_ h).2
  · exact ⟨hstart.ids, hstart.rows, fun _ _ _ _ _ hmem => absurd hmem List.not_mem_nil⟩
  · intro t c w r s' hinv heffect
    exact leaseInv_act hinv heffect.1
  · intro w s' hinv henv
    rcases henv with ⟨hstep, -⟩ | ⟨hsame, -⟩
    · exact (leaseInv_env hinv hstep).push (by simp)
    · rw [World.env_state, hsame]
      exact hinv.push (by simp)
  · intro w t outcome hinv
    exact hinv.push (by simp)

/-- The lease and the deadline of a run that is called both count from the first reading of its
cycle. -/
theorem times_of_call {called' : Timed T}
    (hcall : (.act t (.execute run) () called called' :: older) <:+ cfg.world.log)
    (hm : PreparedAt t run older m) :
    run.leaseExpiresAt = some (m.first + (options t).leaseMs) ∧
      ∃ schedule, m.started.db.getSchedule run.scheduleId = some schedule ∧
        run.timeoutAt = some (m.first + schedule.cadence.timeoutSeconds * 1000) := by
  obtain ⟨-, hexplained⟩ := h.explained timed_once
  obtain ⟨⟨next, hleads⟩, -⟩ := hexplained _ _ hcall
  obtain ⟨recent, between, rest, claim, claimed', leaseId, started', hlog, hlease⟩ :=
    hm.inputs hleads
  have holder : older <:+ cfg.world.log := (List.suffix_cons _ _).trans hcall
  have hstarted : (.act t (.startRun ⟨claim.id, (options t).ownerId, leaseId, m.first⟩) (.ok run)
      m.started started' :: (between ++
        .act t (.claimNext ⟨(options t).ownerId, m.first, (options t).leaseMs⟩) (.ok (some claim))
          m.claimed claimed' :: rest)) <:+ cfg.world.log := by
    refine List.IsSuffix.trans ?_ holder
    rw [hlog]
    exact List.suffix_append _ _
  obtain ⟨-, heffect, -, -⟩ := hexplained _ _ hstarted
  have hinv := leaseInv_reachable hstart h _ _ _ _ _ _ hstarted
  obtain ⟨schedule, hschedule, htimeout, old, hold, holdLease, hexpires⟩ :=
    startRun_times hinv.ids heffect
  have hclaimed := List.mem_append_right between
    (List.mem_cons_self (a := Event.act t
      (Cmd.claimNext ⟨(options t).ownerId, m.first, (options t).leaseMs⟩) (.ok (some claim))
      m.claimed claimed') (l := rest))
  obtain ⟨l, -, hclaimLease, hrows⟩ := hinv.claims _ _ _ _ _ hclaimed
  obtain rfl : l = leaseId := Option.some.inj (hclaimLease.symm.trans hlease)
  exact ⟨hexpires.trans (hrows old hold holdLease), schedule, hschedule, htimeout⟩

theorem ownTime_iff {called' : Timed T}
    (hcall : (.act t (.execute run) () called called' :: older) <:+ cfg.world.log)
    (hm : PreparedAt t run older m) :
    OwnTime (options t) t run m called ↔ NoTimePassed (options t) t m called := by
  obtain ⟨hexpires, schedule, hschedule, htimeout⟩ := times_of_call hstart h hcall hm
  constructor
  · rintro ⟨expiresAt, timeoutAt, schedule', hexpires', hgranted, hahead, hschedule', htimeout',
      hdeadline⟩
    rw [hexpires] at hexpires'
    rw [htimeout] at htimeout'
    rw [hschedule] at hschedule'
    cases hexpires'
    cases htimeout'
    cases hschedule'
    exact ⟨(add_right_cancel hgranted).symm, (add_right_cancel hdeadline).symm, hahead⟩
  · rintro ⟨hclaimed, hstarted, hahead⟩
    refine ⟨_, _, schedule, hexpires, ?_, hahead, hschedule, htimeout, ?_⟩
    · rw [hclaimed]
    · rw [hstarted]

end

/-- Every run that the cycles call has its own time exactly if no time passes in a cycle between its
first reading of the clock and the claim and start of the run, and less than `leaseMs` until the
call. -/
theorem calls_have_own_time_iff (hashing : Hashing) (options : T → CycleOptions) (start : Timed T)
    (hstart : Consistent start.db)
    {cfg : Config T Cmd Cmd.Answer String SchedulerCycleSummary (Timed T)}
    (h : (timedScheduler hashing options).Reachable start cfg) :
    EveryCall (fun _ _ _ _ => True) cfg.world.log ∧
      (EveryCall (fun t => OwnTime (options t) t) cfg.world.log ↔
        EveryCall (fun t _ => NoTimePassed (options t) t) cfg.world.log) := by
  refine ⟨?_, ?_, ?_⟩
  · intro t run called called' older hcall
    obtain ⟨⟨next, hleads⟩, -⟩ := (h.explained timed_once).2 _ _ hcall
    obtain ⟨m, hm⟩ := exists_prepared hleads
    exact ⟨m, hm, trivial⟩
  · intro hown t run called called' older hcall
    obtain ⟨m, hm, htime⟩ := hown t run called called' older hcall
    exact ⟨m, hm, (ownTime_iff hstart h hcall hm).mp htime⟩
  · intro hpassed t run called called' older hcall
    obtain ⟨m, hm, htime⟩ := hpassed t run called called' older hcall
    exact ⟨m, hm, (ownTime_iff hstart h hcall hm).mpr htime⟩

end Runs

/-! A cycle whose first run takes longer than the timeout of the second. -/

def slowSchedule (scheduleId : String) : HealthSchedule :=
  { sampleSchedule with scheduleId, monitorTarget := scheduleId, nextDueAt := 86400000 }

def pendingRun (id : String) : ScheduledRunRow :=
  (slowSchedule id).dueRun sampleHashing id 0

def slowStart : Timed Unit where
  db := { schedules := [slowSchedule "a", slowSchedule "b"], runs := [pendingRun "a", pendingRun "b"] }
  clock _ := 0

def slowOptions : CycleOptions := ⟨"owner", 600000, 2⟩

def slowScheduler : System Unit Cmd Cmd.Answer String SchedulerCycleSummary (Timed Unit) :=
  timedScheduler sampleHashing fun _ => slowOptions

/-- The answers at the time that the clock shows. -/
def timedAnswer (t : Unit) (command : Cmd) (s : Timed Unit) : command.Answer × Timed Unit :=
  let answered := sampleAnswer (s.clock t) command s.db
  (answered.1, { s with db := answered.2 })

theorem timedAnswer_effect (t : Unit) (command : Cmd)
    (w : World Unit Cmd Cmd.Answer String SchedulerCycleSummary (Timed Unit)) :
    slowScheduler.effect t command w (timedAnswer t command w.state).1
      (timedAnswer t command w.state).2 := by
  refine ⟨sampleAnswer_effect _ command w.state.db, rfl, ?_⟩
  cases command <;> trivial

/-- The cycle up to the call of its first run. -/
def firstCalled : Config Unit Cmd Cmd.Answer String SchedulerCycleSummary (Timed Unit) :=
  slowScheduler.replay timedAnswer (List.replicate 7 ()) slowStart

/-- Five minutes later it goes on, to the call of its second run. -/
def secondCalled : Config Unit Cmd Cmd.Answer String SchedulerCycleSummary (Timed Unit) :=
  (List.replicate 7 ()).foldl (slowScheduler.turn timedAnswer)
    ⟨firstCalled.pool, firstCalled.world.env ⟨firstCalled.world.state.db, fun _ => 300000⟩⟩

theorem firstCalled_reachable : slowScheduler.Reachable slowStart firstCalled :=
  System.replay_reachable timedAnswer_effect _ _

theorem secondCalled_reachable : slowScheduler.Reachable slowStart secondCalled := by
  have hclock : firstCalled.world.state.clock () = 0 := by decide +kernel
  have htick : slowScheduler.Step firstCalled
      ⟨firstCalled.pool, firstCalled.world.env ⟨firstCalled.world.state.db, fun _ => 300000⟩⟩ := by
    refine .env (.inr ⟨rfl, fun _ => ?_⟩)
    have hlater : (0 : Date) ≤ 300000 := by decide
    exact (le_of_eq hclock).trans hlater
  exact (firstCalled_reachable.tail htick).trans (System.turns_steps timedAnswer_effect _ _)

theorem slowStart_consistent : Consistent slowStart.db :=
  ⟨by decide, by decide⟩

/-- The deadline of a run that was started and called last, and the clock at both. -/
def lastCall : List (TimedEvent Unit) → Option (Option Date × Date × Date)
  | .act _ (.execute run) _ called _ :: .act _ (.startRun _) (.ok _) started _ :: _ =>
    some (run.timeoutAt, started.clock (), called.clock ())
  | _ => none

theorem lastCall_eq_some {log : List (TimedEvent Unit)} {timeoutAt : Option Date}
    {startedAt calledAt : Date} (h : lastCall log = some (timeoutAt, startedAt, calledAt)) :
    ∃ run called called' input other started started' rest,
      log = .act () (.execute run) () called called' ::
        .act () (.startRun input) (.ok other) started started' :: rest ∧
      run.timeoutAt = timeoutAt ∧ started.clock () = startedAt := by
  unfold lastCall at h
  split at h
  · cases h
    exact ⟨_, _, _, _, _, _, _, _, rfl, rfl, rfl⟩
  · cases h

/-- The start stands right before the call. -/
theorem PreparedAt.started_eq {t : Unit} {run other : HealthScheduledRun} {input : LeaseInput}
    {started started' : Timed Unit} {rest : List (TimedEvent Unit)} {m : Moments Unit}
    (h : PreparedAt t run (.act t (.startRun input) (.ok other) started started' :: rest) m) :
    m.started = started := by
  obtain ⟨-, recent, between, earlier, claimInput, claim, claimed', startInput, started'', hlog,
    hrecent, -⟩ := h
  cases recent with
  | nil =>
    cases hlog
    rfl
  | cons event recent =>
    cases hlog
    simp at hrecent

/-- The second run is called when its deadline, counted from the first reading, is over. -/
theorem secondCalled_not_own_time :
    slowScheduler.Reachable slowStart secondCalled ∧
      ¬ EveryCall (fun t => OwnTime slowOptions t) secondCalled.world.log := by
  refine ⟨secondCalled_reachable, ?_⟩
  intro hcalls
  have hlast : lastCall secondCalled.world.log = some (some 180000, 300000, 300000) := by
    decide +kernel
  obtain ⟨run, called, called', input, other, started, started', rest, hlog, htimeout, hclock⟩ :=
    lastCall_eq_some hlast
  rw [hlog] at hcalls
  obtain ⟨m, hm, expiresAt, timeoutAt, schedule, -, -, -, -, htimeout', hdeadline⟩ :=
    hcalls () run called called' _ List.suffix_rfl
  rw [hm.started_eq, hclock] at hdeadline
  rw [htimeout] at htimeout'
  cases htimeout'
  have hbound := schedule.cadence.timeout_bounds.1
  change (180000 : Int) = 300000 + schedule.cadence.timeoutSeconds * 1000 at hdeadline
  omega

theorem firstCalled_own_time_iff :
    Consistent slowStart.db ∧ slowScheduler.Reachable slowStart firstCalled ∧
      (EveryCall (fun t => OwnTime slowOptions t) firstCalled.world.log ↔
        EveryCall (fun t _ => NoTimePassed slowOptions t) firstCalled.world.log) :=
  ⟨slowStart_consistent, firstCalled_reachable,
    (calls_have_own_time_iff sampleHashing (fun _ => slowOptions) slowStart slowStart_consistent
      firstCalled_reachable).2⟩

end SellerAgents.HealthScheduler
