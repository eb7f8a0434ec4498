import SellerAgents.ApiWatch.Incident
import SellerAgents.Js.Nearest
import SellerAgents.Js.Text

namespace SellerAgents.ApiWatch

open Js
open Subscriptions (Date)

inductive OutcomeKind where
  | ACQUIRED_OFFICIAL_SOURCE_CANDIDATE | OPERATOR_SOURCE_REQUIRED | SOURCE_TEMPORARILY_UNAVAILABLE
  | SOURCE_URL_AUTHORITY_MISSING | INVALID_OFFICIAL_SOURCE_RESPONSE
deriving DecidableEq

/-- What one acquisition of a document ended with. -/
structure AcquisitionOutcome where
  kind : OutcomeKind
  sourceFamily : SwaggerSourceFamily
  blockerReason : JsString := []
  httpStatus : Option Int := none
  retryAfterSeconds : Option ℚ := none
deriving DecidableEq

inductive ApiWatchRetryFailureClass where
  | NETWORK | TIMEOUT | HTTP_5XX | HTTP_429
deriving DecidableEq

/-- The retry state of a source in its failure episode. -/
structure ApiWatchRetryState where
  sourceFamily : SwaggerSourceFamily
  /-- The random UUIDs are numbered as they are drawn. -/
  failureEpisodeId : Nat
  failureClass : ApiWatchRetryFailureClass
  retryCount : Nat
  nextRetryAt : Option Date
  lastAttemptAt : Date
  lastResult : OutcomeKind
  updatedAt : Date

/-- A retry store, the number of UUIDs drawn for it, and the times given to `scheduleEarlier`. -/
structure Retries where
  states : JsMap SwaggerSourceFamily ApiWatchRetryState := .empty
  drawn : Nat := 0
  scheduled : List (SwaggerSourceFamily × Date) := []

/-- A text as the `i` flag of a pattern compares it. -/
def ignoreCase (s : JsString) : JsString := s.map fun u => if 65 ≤ u ∧ u ≤ 90 then u + 32 else u

/-- `/timed out/i.test`. -/
def timedOut (blockerReason : JsString) : Bool :=
  (ignoreCase blockerReason).tails.any fun rest => (units "timed out").isPrefixOf rest

def retryFailureClass (outcome : AcquisitionOutcome) : Option ApiWatchRetryFailureClass :=
  if outcome.kind ≠ .SOURCE_TEMPORARILY_UNAVAILABLE then none
  else if outcome.httpStatus = some 429 then some .HTTP_429
  else if outcome.httpStatus.any (500 ≤ ·) then some .HTTP_5XX
  else if timedOut outcome.blockerReason then some .TIMEOUT
  else some .NETWORK

/-- The retries of one failure class. -/
def maxRetries : ApiWatchRetryFailureClass → Nat
  | .HTTP_429 => 1
  | _ => 2

/-- The longest time that a `Retry-After` is waited for. -/
def retryCapMs : ℚ := 6 * 60 * 60 * 1000

def delayMs (failureClass : ApiWatchRetryFailureClass) (retryCount : Nat)
    (retryAfterSeconds : Option ℚ) : ℚ :=
  match failureClass with
  | .HTTP_429 =>
    min retryCapMs (max (5 * 60 * 1000) (nearest (retryAfterSeconds.getD (60 * 60) * 1000)))
  | _ => if retryCount = 0 then 15 * 60 * 1000 else 60 * 60 * 1000

/-- `new Date(now.valueOf() + delayMs)`: the sum is rounded to binary64, and the `Date` drops what
is left below the millisecond. -/
def dateAfter (now : Date) (delayMs : ℚ) : Date :=
  let sum := nearest (now + delayMs)
  if 0 ≤ sum then ⌊sum⌋ else ⌈sum⌉

/-- The retries that a state leaves counted for a new failure. -/
def countedRetries (previous : Option ApiWatchRetryState)
    (failureClass : ApiWatchRetryFailureClass) : Nat :=
  match previous with
  | some state => if state.failureClass = failureClass then state.retryCount else 0
  | none => 0

namespace Retries

variable (s : Retries)

def save (value : ApiWatchRetryState) : Retries :=
  { s with states := s.states.set value.sourceFamily value }

def clear (sourceFamily : SwaggerSourceFamily) : Retries :=
  { s with states := s.states.delete sourceFamily }

/-- `randomUUID()`. -/
def draw : Retries := { s with drawn := s.drawn + 1 }

def scheduleEarlier (sourceFamily : SwaggerSourceFamily) (retryAt : Date) : Retries :=
  { s with scheduled := s.scheduled ++ [(sourceFamily, retryAt)] }

/-- The episode of a failure: that of the stored state, or a new one. -/
def episode (previous : Option ApiWatchRetryState) : Nat × Retries :=
  match previous with
  | some state => (state.failureEpisodeId, s)
  | none => (s.drawn, s.draw)

/-- The state that is saved once a failure class has no retries left. -/
def exhausted (sourceFamily : SwaggerSourceFamily) (failureClass : ApiWatchRetryFailureClass)
    (retryCount : Nat) (kind : OutcomeKind) (now : Date) : ApiWatchRetryState × Retries :=
  match s.states.get sourceFamily with
  | some previous => (previous, s)
  | none =>
    ({ sourceFamily, failureEpisodeId := s.drawn, failureClass, retryCount, nextRetryAt := none,
       lastAttemptAt := now, lastResult := kind, updatedAt := now }, s.draw)

/-- `previous` after another attempt, without a deadline. -/
def withdrawn (previous : ApiWatchRetryState) (kind : OutcomeKind) (now : Date) :
    ApiWatchRetryState :=
  { previous with nextRetryAt := none, lastAttemptAt := now, lastResult := kind, updatedAt := now }

def applyRetryDecision (sourceFamily : SwaggerSourceFamily) (outcome : AcquisitionOutcome)
    (now : Date) : Option ApiWatchRetryState × Retries :=
  match retryFailureClass outcome with
  | none =>
    if outcome.kind = .ACQUIRED_OFFICIAL_SOURCE_CANDIDATE then (none, s.clear sourceFamily)
    else (none, s)
  | some failureClass =>
    let previous := s.states.get sourceFamily
    let retryCount := countedRetries previous failureClass
    if maxRetries failureClass ≤ retryCount then
      let (state, s') := s.exhausted sourceFamily failureClass retryCount outcome.kind now
      let state := withdrawn state outcome.kind now
      (some state, s'.save state)
    else
      let nextRetryAt := dateAfter now (delayMs failureClass retryCount outcome.retryAfterSeconds)
      let (failureEpisodeId, s') := s.episode previous
      let state : ApiWatchRetryState :=
        { sourceFamily, failureEpisodeId, failureClass, retryCount := retryCount + 1,
          nextRetryAt := some nextRetryAt, lastAttemptAt := now, lastResult := outcome.kind,
          updatedAt := now }
      (some state, (s'.save state).scheduleEarlier sourceFamily nextRetryAt)

end Retries

/-- The outcomes of a pass under their families, in the order in which these come first. -/
def familyGroups (outcomes : List AcquisitionOutcome) :
    JsMap SwaggerSourceFamily (List AcquisitionOutcome) :=
  outcomes.foldl
    (fun families outcome =>
      let group := (families.get outcome.sourceFamily).getD []
      families.set outcome.sourceFamily (group ++ [outcome]))
    .empty

def retryDelay (outcome : AcquisitionOutcome) : ℚ := outcome.retryAfterSeconds.getD 3600

/-- The first outcome of the longest delay. -/
def longestDelay (rateLimited : List AcquisitionOutcome) : Option AcquisitionOutcome :=
  rateLimited.argmax retryDelay

/-- The outcomes of a group that a retry may mend. -/
def temporaryOutcomes (outcomes : List AcquisitionOutcome) : List AcquisitionOutcome :=
  outcomes.filter fun outcome => (retryFailureClass outcome).isSome

def rateLimitedOutcomes (outcomes : List AcquisitionOutcome) : List AcquisitionOutcome :=
  (temporaryOutcomes outcomes).filter fun outcome => retryFailureClass outcome = some .HTTP_429

/-- The outcome that decides for its group; a group is never empty. -/
def representative (outcomes : List AcquisitionOutcome) : Option AcquisitionOutcome :=
  (longestDelay (rateLimitedOutcomes outcomes)).or <|
    (temporaryOutcomes outcomes).head?.or <|
      (outcomes.find? (·.kind ≠ .ACQUIRED_OFFICIAL_SOURCE_CANDIDATE)).or outcomes.head?

def requiresOperator (outcomes : List AcquisitionOutcome) : Bool :=
  outcomes.any (·.kind = .OPERATOR_SOURCE_REQUIRED)

namespace Retries

/-- The decision of a pass for one family. -/
def decideFamily (s : Retries) (sourceFamily : SwaggerSourceFamily)
    (outcomes : List AcquisitionOutcome) (now : Date) : Retries :=
  if requiresOperator outcomes then
    match s.states.get sourceFamily with
    | some previous => s.save (withdrawn previous .OPERATOR_SOURCE_REQUIRED now)
    | none => s
  else
    match representative outcomes with
    | some outcome => (s.applyRetryDecision sourceFamily outcome now).2
    | none => s

/-- The clock is read once for each family. -/
def applyRetryPassDecisions (s : Retries) (outcomes : List AcquisitionOutcome)
    (now : SwaggerSourceFamily → Date) : Retries :=
  (familyGroups outcomes).entries.foldl
    (fun s entry => s.decideFamily entry.1 entry.2 (now entry.1)) s

end Retries

/-- A call on the retries of a store. -/
inductive RetryCall where
  | decision (sourceFamily : SwaggerSourceFamily) (outcome : AcquisitionOutcome) (now : Date)
  | pass (outcomes : List AcquisitionOutcome) (now : SwaggerSourceFamily → Date)

def Retries.step (s : Retries) : RetryCall → Retries
  | .decision sourceFamily outcome now => (s.applyRetryDecision sourceFamily outcome now).2
  | .pass outcomes now => s.applyRetryPassDecisions outcomes now

def Retries.run (s : Retries) (calls : List RetryCall) : Retries := calls.foldl Retries.step s

end SellerAgents.ApiWatch
