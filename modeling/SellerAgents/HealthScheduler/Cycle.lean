import SellerAgents.Concurrent.Pool
import SellerAgents.HealthScheduler.Repository

open Relational Concurrent

namespace SellerAgents.HealthScheduler

open Subscriptions (Date)

/-- How a call of `execute` ends for the cycle that awaits it. -/
inductive Execution where
  | returned (result : ScheduledExecutionResult)
  /-- It rejects; `message` is the message of an `Error`. -/
  | threw (message : Option String)
  /-- The deadline timer fires first. -/
  | deadline

/-- The commands of a cycle. `execute` begins the call and `settle` awaits its end. -/
inductive Cmd where
  | now
  | reconcilePersistedResults (now : Date)
  | listDueSchedules (now : Date)
  | materializeDueSlot (scheduleId : String) (now : Date)
  | claimNext (input : ClaimInput)
  | startRun (input : LeaseInput)
  | finishSuccess (input : LeaseInput) (healthRunId : String) (healthState : HealthState)
  | finishFailure (input : LeaseInput) (failureClass : HealthFailureClass) (failureCode : String)
  | timeoutRun (input : LeaseInput) (failureCode : String)
  | execute (run : HealthScheduledRun)
  | settle (run : HealthScheduledRun)

@[reducible] def Cmd.Answer : Cmd → Type
  | .now => Date
  | .reconcilePersistedResults _ => Except String Nat
  | .listDueSchedules _ => Except String (List HealthSchedule)
  | .materializeDueSlot _ _ | .claimNext _ => Except String (Option HealthScheduledRun)
  | .startRun _ | .finishSuccess _ _ _ | .finishFailure _ _ _ | .timeoutRun _ _ =>
    Except String HealthScheduledRun
  | .execute _ => Unit
  | .settle _ => Execution

/-- A program of the scheduler. -/
abbrev Program (α : Type) : Type := Prog Cmd Cmd.Answer String α

/-- `options.clock.now()`. -/
def clockNow : Program Date := .act .now .ret

/-- The options of a scheduler's cycles. -/
structure CycleOptions where
  ownerId : String
  leaseMs : Int
  maxConcurrency : Nat

/-- The counts that a cycle returns. -/
structure SchedulerCycleSummary where
  materialized : Nat := 0
  claimed : Nat := 0
  succeeded : Nat := 0
  retryableFailures : Nat := 0
  terminalFailures : Nat := 0
  timedOut : Nat := 0
  reconciled : Nat := 0

/-- The loop over the due schedules; the materialized slots are counted. -/
def materializeAll (now : Date) : List HealthSchedule → Nat → Program Nat
  | [], materialized => return materialized
  | schedule :: rest, materialized => do
    let run ← .act (.materializeDueSlot schedule.scheduleId now) Prog.ofExcept
    materializeAll now rest (if run.isSome then materialized + 1 else materialized)

/-- What the race with the deadline timer gives: `none` is the timeout, an error a rejection. -/
def Execution.raced (timeoutAt : Option Date) : Execution →
    Except Unit (Option ScheduledExecutionResult)
  | .returned result => .ok (some result)
  | .deadline => .ok none
  | .threw message =>
    if timeoutAt.isSome && message = some "HEALTH_SCHEDULED_RUN_TIMEOUT" then .ok none
    else .error ()

/-- The reading of the clock that the deadline timer takes. -/
def startTimer (started : HealthScheduledRun) : Program Unit :=
  if started.timeoutAt.isSome then do
    let _ ← clockNow
    return ()
  else return ()

/-- `execute`, against the deadline if there is one. -/
def executeRun (started : HealthScheduledRun) :
    Program (Except Unit (Option ScheduledExecutionResult)) := do
  .act (.execute started) .ret
  startTimer started
  let execution ← .act (.settle started) .ret
  return execution.raced started.timeoutAt

/-- `finishFailure`, and the failure that it counts. -/
def reportFailure (lease : Date → LeaseInput) (failureClass : HealthFailureClass)
    (failureCode : String) (summary : SchedulerCycleSummary) : Program SchedulerCycleSummary := do
  let now ← clockNow
  let finished ← .act (.finishFailure (lease now) failureClass failureCode) Prog.ofExcept
  return if finished.state = .FAILED_TERMINAL then
    { summary with terminalFailures := summary.terminalFailures + 1 }
  else { summary with retryableFailures := summary.retryableFailures + 1 }

/-- What the cycle reports of an execution. -/
def report (lease : Date → LeaseInput) (started : HealthScheduledRun)
    (summary : SchedulerCycleSummary) :
    Except Unit (Option ScheduledExecutionResult) → Program SchedulerCycleSummary
  | .error () =>
    reportFailure lease .TRANSIENT_ENVIRONMENT
      (if started.probeLayer = .AUTHENTICATED_DEEP then "SEND_UNCERTAIN" else "HEALTH_EXECUTOR_ERROR")
      summary
  | .ok none =>
    if started.probeLayer = .AUTHENTICATED_DEEP then
      reportFailure lease .TRANSIENT_ENVIRONMENT "SEND_UNCERTAIN" summary
    else do
      let now ← clockNow
      let _ ← .act (.timeoutRun (lease now) "SCHEDULER_TIMEOUT") Prog.ofExcept
      return { summary with timedOut := summary.timedOut + 1 }
  | .ok (some (.SUCCEEDED healthRunId healthState)) => do
    let now ← clockNow
    let _ ← .act (.finishSuccess (lease now) healthRunId healthState) Prog.ofExcept
    return { summary with succeeded := summary.succeeded + 1 }
  | .ok (some (.FAILED failureClass failureCode)) =>
    reportFailure lease failureClass failureCode summary

/-- One claim of the loop. -/
def runClaim (options : CycleOptions) (now : Date) (claim : HealthScheduledRun) (leaseId : String)
    (summary : SchedulerCycleSummary) : Program SchedulerCycleSummary := do
  let lease := LeaseInput.mk claim.id options.ownerId leaseId
  let started ← .act (.startRun (lease now)) Prog.ofExcept
  let lease := LeaseInput.mk started.id options.ownerId leaseId
  if started.timeoutAt.any (· ≤ now) then
    let _ ← .act (.timeoutRun (lease now) "SCHEDULER_TIMEOUT") Prog.ofExcept
    return { summary with timedOut := summary.timedOut + 1 }
  else
    let result ← executeRun started
    report lease started summary result

/-- The loop over `maxConcurrency` claims. -/
def claimRuns (options : CycleOptions) (now : Date) :
    Nat → SchedulerCycleSummary → Program SchedulerCycleSummary
  | 0, summary => return summary
  | remaining + 1, summary => do
    let claim ← .act (.claimNext ⟨options.ownerId, now, options.leaseMs⟩) Prog.ofExcept
    match claim.bind fun run => run.leaseId.map fun leaseId => (run, leaseId) with
    | none => return summary
    | some (run, leaseId) => do
      let summary ← runClaim options now run leaseId { summary with claimed := summary.claimed + 1 }
      claimRuns options now remaining summary

/-- One cycle: old results are reconciled, then due runs are made, claimed and run. -/
def runDurableHealthSchedulerCycle (options : CycleOptions) : Program SchedulerCycleSummary := do
  let now ← clockNow
  let reconciled ← .act (.reconcilePersistedResults now) Prog.ofExcept
  let due ← .act (.listDueSchedules now) Prog.ofExcept
  let materialized ← materializeAll now due 0
  let summary ← claimRuns options now options.maxConcurrency { materialized, reconciled }
  let last ← clockNow
  let more ← .act (.reconcilePersistedResults last) Prog.ofExcept
  return { summary with reconciled := summary.reconciled + more }

/-! The system. -/

/-- The worlds of the scheduler: the database and the history of the cycles. -/
abbrev HealthWorld (T : Type) : Type :=
  World T Cmd Cmd.Answer String SchedulerCycleSummary HealthDatabase

abbrev HealthEvent (T : Type) : Type :=
  Event T Cmd Cmd.Answer String SchedulerCycleSummary HealthDatabase

/-- What an atomic call does: it answers as its transaction does, or its answer is lost. -/
def Performs {α : Type} (x : Tx HealthDatabase α) (db : HealthDatabase) (answer : Except String α)
    (db' : HealthDatabase) : Prop :=
  (∃ value, x db = .ok (value, db') ∧ (answer = .ok value ∨ ∃ error, answer = .error error)) ∨
    (∃ error, answer = .error error) ∧ db' = db

/-- What a command does to the database. The clock of an owner may show anything. -/
def Effect (hashing : Hashing) :
    (command : Cmd) → HealthDatabase → command.Answer → HealthDatabase → Prop
  | .now, db, _, db' => db' = db
  | .reconcilePersistedResults now, db, answer, db' => ∃ incident,
    db' = (reconcilePersistedResults incident now db).2 ∧
      (answer = (reconcilePersistedResults incident now db).1 ∨ ∃ error, answer = .error error)
  | .listDueSchedules now, db, answer, db' => Performs (listDueSchedules now) db answer db'
  | .materializeDueSlot scheduleId now, db, answer, db' =>
    ∃ id createdAt, Performs (materializeDueSlot hashing id createdAt scheduleId now) db answer db'
  | .claimNext input, db, answer, db' =>
    ∃ leaseId, leaseId ∉ db.drawn ∧ Performs (claimNext leaseId input) db answer db'
  | .startRun input, db, answer, db' => Performs (startRun input) db answer db'
  | .finishSuccess input healthRunId healthState, db, answer, db' =>
    Performs (finishSuccess input healthRunId healthState) db answer db'
  | .finishFailure input failureClass failureCode, db, answer, db' =>
    Performs (finishFailure input failureClass failureCode) db answer db'
  | .timeoutRun input failureCode, db, answer, db' =>
    Performs (timeoutRun input failureCode) db answer db'
  | .execute _, db, _, db' => db' = db
  | .settle run, db, answer, db' => db' = db ∧ (answer = .deadline → run.timeoutAt.isSome)

/-- The steps of the others: schedules are created and changed, executors persist results, and
retention moves its watermarks. -/
inductive EnvStep (db : HealthDatabase) : HealthDatabase → Prop where
  | created {db' : HealthDatabase} (input : HealthSchedule)
      (run : createSchedule input db = .ok ((), db')) : EnvStep db db'
  | updated {db' : HealthDatabase} (input : UpdateScheduleInput)
      (run : updateSchedule input db = .ok ((), db')) : EnvStep db db'
  | persisted (row : HealthRun) : EnvStep db { db with healthRuns := db.healthRuns ++ [row] }
  | retained (watermarks : List RetentionWatermark) : EnvStep db { db with watermarks }

/-- Every thread is one cycle of an owner; `allowed` limits the steps of the others. -/
def scheduler {T : Type} (hashing : Hashing) (options : T → CycleOptions)
    (allowed : HealthDatabase → HealthDatabase → Prop) :
    System T Cmd Cmd.Answer String SchedulerCycleSummary HealthDatabase where
  prelude t := (runDurableHealthSchedulerCycle (options t)).bind fun summary => .ret (some summary)
  body _ := .ret none
  effect _ command w answer db' := Effect hashing command w.state answer db'
  env w db' := EnvStep w.state db' ∧ allowed w.state db'

end SellerAgents.HealthScheduler
