import SellerAgents.BootstrapScheduler.Scheduler

namespace SellerAgents.BootstrapScheduler
open Js (JsMap)

/-- The calls that the client may make, also from inside a callback. `signal` is the abort signal of
a request and whether it is aborted already. -/
inductive Call where
  | request (fence : SuppliedFence) (requestKey : String) (signal : Option Bool) (waitMs : Option Int)
  | isCurrent (job : Nat)
  | invalidate (scopeKey : String) (code : String)
  | dispose (code : String)
  | abort (waiter : Nat)
  | beginSecurityCommit (job : Nat)
  | finishRevocationCommit (job : Nat)
  | finishSecurityCommit (job : Nat) (fence : Option SuppliedFence)
  | assertCurrent (job : Nat)

/-- What happens next: time passes, the client's fences change, the running call takes a step or its
callback returns, the client calls, a microtask or a timer runs. -/
inductive Event where
  | tick (elapsed : Nat)
  | setFence (fence : Fence) (verdict : Verdict)
  | step
  | callbackReturns
  | call (call : Call)
  | launch (job : Nat)
  | complete (job : Nat) (ok : Bool)
  | launchRefused (job : Nat)
  | lateFailed (job : Nat)
  | fire (timer : Timer)

def maxWaitMs : Int := 65000

namespace World

/-- `request({ fence, requestKey, run, signal, waitMs })`. -/
def request (w : World) (supplied : SuppliedFence) (requestKey : String) (signal : Option Bool)
    (waitMs : Int) : World :=
  if w.closed then w.answer (.refused "BOOTSTRAP_SECURITY_QUARANTINE")
  else if waitMs ≤ 0 || maxWaitMs < waitMs then w.answer (.refused "BOOTSTRAP_REQUEST_INVALID")
  else
    match captureFence supplied with
    | none => w.answer (.refused "BOOTSTRAP_FENCE_INVALID")
    | some fence =>
      if w.isFenceCurrent fence ≠ .current then
        (w.answer (.refused "BOOTSTRAP_CONTEXT_CHANGED")).observed (w.isFenceCurrent fence)
      else if signal = some true then w.answer (.refused "BOOTSTRAP_WAITER_CANCELLED")
      else
        match (w.scopes.get fence.scopeKey).bind fun id => (w.jobs id).map (id, ·) with
        | none => w.create fence requestKey signal.isSome waitMs
        | some (id, job) =>
          if job.ticket.fence ≠ fence then
            w.push [.retire id "BOOTSTRAP_CONTEXT_CHANGED", .admission fence requestKey signal.isSome waitMs]
          else if job.requestKey ≠ requestKey then w.answer (.refused "BOOTSTRAP_REQUEST_CONFLICT")
          else w.join id signal.isSome waitMs

/-- `isCurrent(ticket)` of a ticket of this scheduler. -/
def isCurrent (w : World) (job : Job) : World :=
  if !w.closed && w.sequence job.key = job.ticket.scopeSeq && !job.expired w.clock &&
      job.activeDeadline.isSome then
    let held := ((w.scopes.get job.key).bind w.jobs).bind Job.committedFence
    let verdict := w.isFenceCurrent (held.getD job.ticket.fence)
    (w.answer (.isCurrent (verdict = .current))).observed verdict
  else w.answer (.isCurrent false)

/-- Retires the job of a scope, or makes its tickets stale where it has none. -/
def invalidate (w : World) (scopeKey code : String) : World :=
  match w.scopes.get scopeKey with
  | some id => w.push [.retire id code]
  | none =>
    match w.nextSeq scopeKey with
    | some next => next
    | none => (w.answer (.threw "BOOTSTRAP_SEQUENCE_EXHAUSTED")).throw

/-- Closes the scheduler and retires every job. -/
def dispose (w : World) (code : String) : World :=
  { w with closed := true }.push [.retireEach (w.scopes.entries.map Prod.snd) code]

/-- A waiter is released without a result; a job without waiters retires. -/
def abandon (w : World) (id waiter : Nat) (code : String) (acquisition : Acquisition) : World :=
  let released := w.releaseWaiter id waiter (.rejected code acquisition)
  if (released.jobs id).any (·.waiters = []) then released.push [.retire id code] else released

/-- `waiter.onAbort()`. -/
def onAbort (w : World) (waiter : Nat) (entry : Waiter) : World :=
  let queued := (w.jobs entry.job).any (·.state = .queued)
  w.abandon entry.job waiter "BOOTSTRAP_WAITER_CANCELLED" (if queued then .notStarted else .outcomeUnknown)

def beginSecurityCommit (w : World) (id : Nat) (job : Job) : World :=
  if w.assertCurrent job = .current then
    (w.modifyJob id fun job => { job with commitStarted := true }).answer .returned
  else (w.answer (.threw "BOOTSTRAP_ATTEMPT_OBSOLETE")).observed (w.assertCurrent job)

def finishRevocationCommit (w : World) (id : Nat) (job : Job) : World :=
  if !job.commitStarted || job.state ≠ .active || w.closed || job.expired w.clock ||
      w.sequence job.key ≠ job.ticket.scopeSeq then
    w.answer (.threw "BOOTSTRAP_REVOCATION_COMMIT_INVALID")
  else
    (w.modifyJob id fun job => { job with commitStarted := false, revocationCommitted := true }).answer
      .returned

/-- Whether a fence may follow the fence of a job. -/
def mayFollow (before next : Fence) : Bool :=
  next.scopeKey = before.scopeKey && next.environmentKey = before.environmentKey &&
    next.principalEpoch = before.principalEpoch && before.accessEpoch ≤ next.accessEpoch

/-- `finishSecurityCommit(committedFence)` up to its assertion. -/
def finishSecurityCommit (w : World) (id : Nat) (job : Job) : Option SuppliedFence → World
  | none => w.push [.acknowledge id]
  | some supplied =>
    match captureFence supplied with
    | none => w.answer (.threw "BOOTSTRAP_FENCE_INVALID")
    | some next =>
      if !job.commitStarted || job.state ≠ .active || w.closed || job.expired w.clock ||
          w.sequence job.key ≠ job.ticket.scopeSeq || !mayFollow job.fence next then
        w.answer (.threw "BOOTSTRAP_COMMIT_FENCE_INVALID")
      else if w.isFenceCurrent next ≠ .current then
        (w.answer (.threw "BOOTSTRAP_COMMIT_FENCE_INVALID")).observed (w.isFenceCurrent next)
      else (w.modifyJob id fun job => { job with committedFence := some next }).push [.acknowledge id]

/-- `this.assertCurrent(); job.commitStarted = false`. -/
def acknowledge (w : World) (id : Nat) (job : Job) : World :=
  if w.assertCurrent job = .current then
    (w.modifyJob id fun job => { job with commitStarted := false }).answer .returned
  else (w.answer (.threw "BOOTSTRAP_ATTEMPT_OBSOLETE")).observed (w.assertCurrent job)

/-- A job whose lease the client holds. -/
def leased (w : World) (id : Nat) : Option Job := (w.jobs id).filter Job.dispatched

/-- A call of the client; none when it has no such lease or signal. -/
def perform (w : World) : Call → Option World
  | .request fence requestKey signal waitMs =>
    some (w.request fence requestKey signal (waitMs.getD w.waitTimeoutMs))
  | .isCurrent id => (w.jobs id).map w.isCurrent
  | .invalidate scopeKey code => some (w.invalidate scopeKey code)
  | .dispose code => some (w.dispose code)
  | .abort waiter =>
    ((w.waiters waiter).filter fun entry => entry.signal && entry.outcome.isNone).map (w.onAbort waiter)
  | .beginSecurityCommit id => (w.leased id).map (w.beginSecurityCommit id)
  | .finishRevocationCommit id => (w.leased id).map (w.finishRevocationCommit id)
  | .finishSecurityCommit id fence => (w.leased id).map fun job => w.finishSecurityCommit id job fence
  | .assertCurrent id => (w.leased id).map fun job =>
    if w.assertCurrent job = .current then w.answer .returned
    else (w.answer (.threw "BOOTSTRAP_ATTEMPT_OBSOLETE")).observed (w.assertCurrent job)

/-- The top frame runs. -/
def exec (w : World) : Frame → World
  | .callback => w
  | .quarantineRest =>
    w.push [.retireEach (w.scopes.entries.map Prod.snd) "BOOTSTRAP_SECURITY_QUARANTINE"]
  | .retireEach [] _ => w
  | .retireEach (id :: jobs) code => w.push [.retire id code, .retireEach jobs code]
  | .retire id code => w.retire id code
  | .pump =>
    if w.pumping || w.closed || w.active.isSome then w else { w with pumping := true }.push [.pumpLoop]
  | .pumpLoop =>
    match w.queue with
    | id :: _ =>
      if w.closed || w.active.isSome then { w with pumping := false }
      else w.push [.expire id ((w.jobs id).elim [] Job.waiters), .pumpLoop]
    | [] => { w with pumping := false }
  | .expire id [] => w.inspect id
  | .expire id (waiter :: rest) =>
    if (w.waiters waiter).any (·.deadline ≤ w.clock) then
      (w.releaseWaiter id waiter (.rejected "BOOTSTRAP_QUEUE_WAIT_EXPIRED" .notStarted)).push [.expire id rest]
    else w.push [.expire id rest]
  | .settleRefused id =>
    w.push [.retire id (if (w.jobs id).any (Job.expired · w.clock) then "BOOTSTRAP_ACTIVE_EXPIRED"
      else "BOOTSTRAP_CONTEXT_CHANGED")]
  | .late id => { w with lates := id :: w.lates }
  | .admission fence requestKey signal waitMs =>
    if w.closed then w.answer (.refused "BOOTSTRAP_SECURITY_QUARANTINE")
    else w.create fence requestKey signal waitMs
  | .acknowledge id => (w.jobs id).elim w (w.acknowledge id)

/-- The microtask that calls the run of an activated job. -/
def launch (w : World) (id : Nat) (job : Job) : World :=
  let w : World := { w with launches := w.launches.erase id }
  if w.assertCurrent job = .current then
    { w.modifyJob id fun job => { job with dispatched := true } with
      runs := id :: w.runs
      running := id :: w.running }
  else { w with refused := id :: w.refused }.observed (w.assertCurrent job)

/-- A timer of the scheduler. -/
def fire (w : World) : Timer → World
  | .wait waiter =>
    let w : World := { w with timers := w.timers.filter (· ≠ .wait waiter) }
    match w.waiters waiter with
    | none => w
    | some entry =>
      if !(w.jobs entry.job).any (·.state = .queued) || entry.outcome.isSome then w
      else w.abandon entry.job waiter "BOOTSTRAP_QUEUE_WAIT_EXPIRED" .notStarted
  | .active id =>
    World.push { w with timers := w.timers.filter (· ≠ .active id) } [.retire id "BOOTSTRAP_ACTIVE_EXPIRED"]

/-- One event; none when it cannot happen. -/
def step (w : World) : Event → Option World
  | .tick elapsed => some { w with clock := w.clock + elapsed }
  | .setFence fence verdict => some { w with isFenceCurrent := Function.update w.isFenceCurrent fence verdict }
  | .step =>
    match w.stack with
    | [] | .callback :: _ => none
    | frame :: rest => some ({ w with stack := rest }.exec frame)
  | .callbackReturns =>
    match w.stack with
    | .callback :: rest => some { w with stack := rest }
    | _ => none
  | .call call => if w.stack.head?.all (· = .callback) then w.perform call else none
  | .launch id =>
    if w.stack = [] ∧ id ∈ w.launches then (w.jobs id).map (w.launch id) else none
  | .complete id ok =>
    if w.stack = [] ∧ id ∈ w.running then
      some ({ w with running := w.running.erase id }.settle id ok)
    else none
  | .launchRefused id =>
    if w.stack = [] ∧ id ∈ w.refused then
      some ({ w with refused := w.refused.erase id }.settle id false)
    else none
  | .lateFailed id =>
    if w.stack = [] ∧ id ∈ w.lates then some { w with lates := w.lates.erase id }.quarantineAll else none
  | .fire timer => if w.stack = [] ∧ timer ∈ w.timers then some (w.fire timer) else none

/-- A run of events. -/
def run (w : World) : List Event → Option World
  | [] => some w
  | event :: events => (w.step event).bind fun w' => w'.run events

/-- A new scheduler. -/
def created (workerInstanceId : Nat) (waitTimeoutMs activeTimeoutMs clock : Int)
    (isFenceCurrent : Fence → Verdict) : World where
  workerInstanceId := workerInstanceId
  waitTimeoutMs := waitTimeoutMs
  activeTimeoutMs := activeTimeoutMs
  jobs := fun _ => none
  nextJob := 0
  waiters := fun _ => none
  nextWaiter := 0
  scopes := JsMap.empty
  sequence := fun _ => 0
  queue := []
  active := none
  closed := false
  pumping := false
  quarantined := false
  timers := []
  launches := []
  running := []
  refused := []
  lates := []
  draws := 0
  stack := []
  clock := clock
  isFenceCurrent := isFenceCurrent
  runs := []
  settlements := []
  answers := []

end World

end SellerAgents.BootstrapScheduler
