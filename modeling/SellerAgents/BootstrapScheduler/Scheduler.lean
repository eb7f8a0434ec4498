import SellerAgents.Js.Map

namespace SellerAgents.BootstrapScheduler
open Js (JsMap)

/-- The epochs that an authority is issued under. -/
structure Fence where
  principalEpoch : Nat
  accessEpoch : Nat
  grantEpoch : Nat
  environmentKey : String
  scopeKey : String
deriving DecidableEq

/-- A fence as a caller supplies it. -/
structure SuppliedFence where
  principalEpoch : Int
  accessEpoch : Int
  grantEpoch : Int
  environmentKey : String
  scopeKey : String

def maxSafeInteger : Nat := 9007199254740991

/-- `Number.isSafeInteger(value) && value >= 0`. -/
def captureEpoch (value : Int) : Option Nat :=
  if 0 ≤ value ∧ value ≤ maxSafeInteger then some value.toNat else none

def captureKey (value : String) : Option String := if value = "" then none else some value

/-- `captureFence(value)`; none when it throws. -/
def captureFence (value : SuppliedFence) : Option Fence :=
  (captureEpoch value.principalEpoch).bind fun principalEpoch =>
    (captureEpoch value.accessEpoch).bind fun accessEpoch =>
      (captureEpoch value.grantEpoch).bind fun grantEpoch =>
        (captureKey value.environmentKey).bind fun environmentKey =>
          (captureKey value.scopeKey).map fun scopeKey =>
            ⟨principalEpoch, accessEpoch, grantEpoch, environmentKey, scopeKey⟩

/-- What a run is given, and shows when it asks whether it is current. -/
structure Ticket where
  workerInstanceId : Nat
  acquisitionId : Nat
  scopeSeq : Nat
  fence : Fence

inductive JobState where
  | queued
  | active
  | retired
  | settled
deriving DecidableEq

/-- A bootstrap of one scope with those who wait for it. -/
structure Job where
  ticket : Ticket
  requestKey : String
  state : JobState
  activeDeadline : Option Int
  dispatched : Bool
  commitStarted : Bool
  revocationCommitted : Bool
  committedFence : Option Fence
  waiters : List Nat

def Job.key (job : Job) : String := job.ticket.fence.scopeKey

/-- `job.committedFence || job.ticket.fence`. -/
def Job.fence (job : Job) : Fence := job.committedFence.getD job.ticket.fence

/-- `now() >= job.activeDeadline`. -/
def Job.expired (job : Job) (now : Int) : Bool := job.activeDeadline.all (· ≤ now)

inductive Acquisition where
  | notStarted
  | outcomeUnknown

/-- How a waiter's promise is settled; `failed` with the error of the run. -/
inductive Outcome where
  | resolved
  | rejected (code : String) (acquisition : Acquisition)
  | failed

structure Waiter where
  job : Nat
  deadline : Int
  signal : Bool
  outcome : Option Outcome

inductive Timer where
  | wait (waiter : Nat)
  | active (job : Nat)
deriving DecidableEq

/-- What `isFenceCurrent` does with a fence. -/
inductive Verdict where
  | current
  | stale
  | throws
deriving DecidableEq

/-- The rest of a synchronous call. `callback` is code of the client that the scheduler has called
and that may call it again. -/
inductive Frame where
  | callback
  | quarantineRest
  | retireEach (jobs : List Nat) (code : String)
  | retire (job : Nat) (code : String)
  | pump
  | pumpLoop
  | expire (job : Nat) (waiters : List Nat)
  | settleRefused (job : Nat)
  | late (job : Nat)
  | admission (fence : Fence) (requestKey : String) (signal : Bool) (waitMs : Int)
  | acknowledge (job : Nat)
deriving DecidableEq

/-- What a call has given back. -/
inductive Answer where
  | waiting (waiter : Nat)
  | refused (code : String)
  | threw (code : String)
  | returned
  | isCurrent (answer : Bool)

/-- The scheduler, the promises and timers it has made, and its surroundings. `launches` are the
jobs whose run is about to be called, `running` and `refused` those whose promise is open, `lates`
the late outcomes handed to the observer; `runs` and `settlements` record, latest first, each call
of `run` and each settled waiter. `isFenceCurrent`, the clock, the timers and `makeId` do not call
the scheduler back. -/
structure World where
  workerInstanceId : Nat
  waitTimeoutMs : Int
  activeTimeoutMs : Int
  jobs : Nat → Option Job
  nextJob : Nat
  waiters : Nat → Option Waiter
  nextWaiter : Nat
  scopes : JsMap String Nat
  sequence : String → Nat
  queue : List Nat
  active : Option Nat
  closed : Bool
  pumping : Bool
  quarantined : Bool
  timers : List Timer
  launches : List Nat
  running : List Nat
  refused : List Nat
  lates : List Nat
  draws : Nat
  stack : List Frame
  clock : Int
  isFenceCurrent : Fence → Verdict
  runs : List Nat
  settlements : List (Nat × Outcome)
  answers : List Answer

namespace World

def push (w : World) (frames : List Frame) : World := { w with stack := frames ++ w.stack }

def answer (w : World) (answer : Answer) : World := { w with answers := answer :: w.answers }

def modifyJob (w : World) (id : Nat) (f : Job → Job) : World :=
  { w with jobs := Function.update w.jobs id ((w.jobs id).map f) }

/-- An exception leaves every call up to the callback it is thrown into; the `finally` of a pump
resets its flag. -/
def throw (w : World) : World :=
  { w with
    stack := w.stack.dropWhile (· ≠ .callback)
    pumping := w.pumping && !(w.stack.takeWhile (· ≠ .callback)).contains .pumpLoop }

/-- `quarantineAll(error)` up to its loop. -/
def quarantineAll (w : World) : World :=
  if w.quarantined then { w with closed := true }.push [.quarantineRest]
  else { w with closed := true, quarantined := true }.push [.callback, .quarantineRest]

/-- `fenceCurrent` quarantines when the check of a fence throws. -/
def observed (w : World) (verdict : Verdict) : World :=
  if verdict = .throws then w.quarantineAll else w

/-- `nextSeq(key)`; none when it throws. -/
def nextSeq (w : World) (key : String) : Option World :=
  if w.sequence key + 1 ≤ maxSafeInteger then
    some { w with sequence := Function.update w.sequence key (w.sequence key + 1) }
  else none

/-- `current(job)`. -/
def current (w : World) (job : Job) : Verdict :=
  if !w.closed && job.ticket.workerInstanceId = w.workerInstanceId &&
      w.sequence job.key = job.ticket.scopeSeq then w.isFenceCurrent job.fence
  else .stale

/-- `assertCurrent()` of a lease. -/
def assertCurrent (w : World) (job : Job) : Verdict :=
  if job.state ≠ .active || job.expired w.clock then .stale else w.current job

/-- `releaseWaiter(job, waiter, outcome, value)`. -/
def releaseWaiter (w : World) (id waiter : Nat) (outcome : Outcome) : World :=
  match w.waiters waiter with
  | none => w
  | some entry =>
    if entry.outcome.isSome then w
    else { w.modifyJob id fun job => { job with waiters := job.waiters.filter (· ≠ waiter) } with
      waiters := Function.update w.waiters waiter (some { entry with outcome := some outcome })
      timers := w.timers.filter (· ≠ .wait waiter)
      settlements := (waiter, outcome) :: w.settlements }

/-- `for (const waiter of waiters) releaseWaiter(...)`. -/
def releaseAll (w : World) (id : Nat) (waiters : List Nat) (outcome : Outcome) : World :=
  waiters.foldl (fun w waiter => w.releaseWaiter id waiter outcome) w

/-- `remove(job)`. -/
def remove (w : World) (id : Nat) (key : String) : World :=
  { w with
    scopes := if w.scopes.get key = some id then w.scopes.delete key else w.scopes
    queue := w.queue.erase id
    active := if w.active = some id then none else w.active
    timers := w.timers.filter (· ≠ .active id) }

/-- `retire(job, code)` up to the abort of its controller. -/
def retire (w : World) (id : Nat) (code : String) : World :=
  match w.jobs id with
  | none => w
  | some job =>
    if job.state = .retired || job.state = .settled then w
    else if job.commitStarted && !w.quarantined then w.quarantineAll
    else
      let acquisition := if job.dispatched then Acquisition.outcomeUnknown else .notStarted
      let marked := w.modifyJob id fun job => { job with state := .retired }
      let advanced := if w.sequence job.key = job.ticket.scopeSeq then marked.nextSeq job.key else some marked
      match advanced with
      | none => marked.throw
      | some w =>
        ((w.remove id job.key).releaseAll id job.waiters (.rejected code acquisition)).push [.callback, .pump]

/-- `settle(job, ok, value)`. -/
def settle (w : World) (id : Nat) (ok : Bool) : World :=
  match w.jobs id with
  | none => w
  | some job =>
    if job.state ≠ .active then w.push [.late id]
    else if job.commitStarted then (w.push [.late id]).quarantineAll
    else if job.revocationCommitted && ok then w.quarantineAll
    else if job.expired w.clock then w.push [.settleRefused id, .late id]
    else
      let verdict := if job.revocationCommitted then .current else w.current job
      if verdict = .current then
        (((w.modifyJob id fun job => { job with state := .settled }).remove id job.key).releaseAll id
          job.waiters (if ok then .resolved else .failed)).push [.pump]
      else (w.push [.settleRefused id, .late id]).observed verdict

/-- The activation of the first job of the queue. -/
def activate (w : World) (id : Nat) (job : Job) : World :=
  { w.modifyJob id fun job => { job with
      state := .active, activeDeadline := some (w.clock + w.activeTimeoutMs) } with
    queue := w.queue.tail
    active := some id
    timers := .active id :: w.timers.filter fun timer => job.waiters.all (timer ≠ .wait ·)
    launches := w.launches ++ [id] }

/-- One turn of the loop of `pump` after the deadlines of the waiters. -/
def inspect (w : World) (id : Nat) : World :=
  match w.jobs id with
  | none => w
  | some job =>
    if job.waiters = [] then w.push [.retire id "BOOTSTRAP_QUEUE_WAIT_EXPIRED"]
    else
      let verdict := w.current job
      if verdict = .current then w.activate id job
      else (w.push [.retire id "BOOTSTRAP_CONTEXT_CHANGED"]).observed verdict

/-- A new waiter of a job, and the pump that follows it. -/
def join (w : World) (id : Nat) (signal : Bool) (waitMs : Int) : World :=
  let waiter := w.nextWaiter
  let timers := if (w.jobs id).any (·.state = .queued) then .wait waiter :: w.timers else w.timers
  { w.modifyJob id fun job => { job with waiters := job.waiters ++ [waiter] } with
    waiters := Function.update w.waiters waiter (some ⟨id, w.clock + waitMs, signal, none⟩)
    nextWaiter := waiter + 1
    timers := timers
    stack := .pump :: w.stack
    answers := .waiting waiter :: w.answers }

/-- A new job of a scope and its first waiter. -/
def create (w : World) (fence : Fence) (requestKey : String) (signal : Bool) (waitMs : Int) : World :=
  if 2 ≤ w.scopes.entries.length then w.answer (.refused "BOOTSTRAP_SCOPE_CAPACITY")
  else
    match w.nextSeq fence.scopeKey with
    | none => World.throw { w.answer (.threw "BOOTSTRAP_SEQUENCE_EXHAUSTED") with draws := w.draws + 1 }
    | some next =>
      let job : Job :=
        { ticket := ⟨w.workerInstanceId, w.draws, next.sequence fence.scopeKey, fence⟩
          requestKey := requestKey
          state := .queued
          activeDeadline := none
          dispatched := false
          commitStarted := false
          revocationCommitted := false
          committedFence := none
          waiters := [] }
      let added : World := { next with
        jobs := Function.update w.jobs w.nextJob (some job)
        nextJob := w.nextJob + 1
        scopes := w.scopes.set fence.scopeKey w.nextJob
        queue := w.queue ++ [w.nextJob]
        draws := w.draws + 1 }
      added.join w.nextJob signal waitMs

end World

end SellerAgents.BootstrapScheduler
