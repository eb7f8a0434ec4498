import SellerAgents.Execution.Context

open SellerAgents.Js

namespace SellerAgents.Execution

/-- `STATES` of a provider attempt. -/
inductive AttemptState where
  | NOT_DISPATCHED
  | DISPATCH_INTENT_COMMITTED
  | RESPONSE_RECEIVED
  | RETRY_WAIT_KNOWN
  | OUTCOME_UNKNOWN
  | COMPLETED_KNOWN
  | FAILED_KNOWN
deriving DecidableEq

/-- The classes `responseClassification` gives. -/
inductive ResponseClass where
  | KNOWN_429
  | KNOWN_AUTH_ERROR
  | KNOWN_SUCCESS
  | KNOWN_PROVIDER_ERROR
  | KNOWN_LOCAL_RESULT
  | KNOWN_RESPONSE
deriving DecidableEq

/-- The `outcome` of an attempt record. -/
inductive AttemptOutcome where
  | KNOWN_RESPONSE
  | UNKNOWN_OUTCOME

/-- The transport metadata of a provider response that the records keep. -/
structure ResponseMeta where
  retry_after : Option Field
  request_id : Option JsString

/-- A provider response as it is handed to the outcome module; the transport and the result buffer
name its status and metadata differently. -/
structure ProviderResponse where
  ok : Bool
  httpStatus : Option Number
  http_status : Option Number
  external_request_executed : Option Bool
  responseMeta : Option ResponseMeta
  response_meta : Option ResponseMeta
  provider_request_id : Option JsString

/-- The response summary that an attempt record keeps. -/
structure ResponseMetadata where
  http_status : Number
  ok : Bool
  classification : ResponseClass
  retry_after : Option JsString
  provider_request_id : Option JsString

/-- What `identity` is computed from. -/
structure AttemptInput where
  logical_execution_id : JsString
  provider_attempt_id : JsString
  execution_id : JsString
  command_index : Nat
  account : Option Field
  conversation : Option Field
  work_generation : Option Field
  binding : Option Field
  binding_revision : Option Field
  marketplace : Option Field
  store : Option Field
  credential_revision : Option Field
  operation : Option JsString
  attempt_number : Nat

/-- A provider attempt record. -/
structure ProviderAttempt where
  schema_version : Nat
  state : AttemptState
  outcome : Option AttemptOutcome
  logical_execution_id : Option JsString
  provider_attempt_id : Option JsString
  execution_id : Option JsString
  command_index : Nat
  account : Option Field
  conversation : Option Field
  work_generation : Option Field
  binding : Option Field
  binding_revision : Option Field
  marketplace : Option Field
  store : Option Field
  credential_revision : Option Field
  operation : Option JsString
  attempt_number : Nat
  created_at : Int
  intent_committed_at : Int
  response_received_at : Option Int
  finalized_at : Option Int
  response : Option ResponseMetadata
  delivery_state : String
  unknown_reason : Option String

namespace ProviderOutcome

/-- `MAX_HISTORY`. -/
def MAX_HISTORY : Nat := 8

/-- `UNKNOWN_RETENTION_MS`. -/
def UNKNOWN_RETENTION_MS : Int := 60 * 60 * 1000

/-- `n >= k` on a number and a positive integer. -/
def atLeast (k : Nat) : Number → Bool
  | .finite d => !d.neg && k * d.fraction.2 ≤ d.fraction.1
  | .infinity neg => !neg
  | .nan => false

/-- `n === k` on a number and a positive integer. -/
def isNat (k : Nat) : Number → Bool
  | .finite d => !d.neg && k * d.fraction.2 = d.fraction.1
  | _ => false

/-- `Number(response?.httpStatus || response?.http_status || 0)`. -/
def statusOf (response : ProviderResponse) : Number :=
  match response.httpStatus with
  | some n => if n.isTruthy then n else Number.orZero response.http_status
  | none => Number.orZero response.http_status

/-- `responseClassification(response)`. -/
def responseClassification (response : ProviderResponse) : ResponseClass :=
  let status := statusOf response
  if isNat 429 status then .KNOWN_429
  else if isNat 401 status || isNat 403 status then .KNOWN_AUTH_ERROR
  else if atLeast 200 status && !atLeast 300 status then .KNOWN_SUCCESS
  else if atLeast 400 status then .KNOWN_PROVIDER_ERROR
  else if response.external_request_executed = some false then .KNOWN_LOCAL_RESULT
  else .KNOWN_RESPONSE

/-- `responseMetadata(response)`. -/
def responseMetadata (response : ProviderResponse) : ResponseMetadata :=
  let source := response.responseMeta.or response.response_meta
  { http_status := statusOf response
    ok := response.ok
    classification := responseClassification response
    retry_after := (source.bind (·.retry_after)).bind fun value => text 160 value.toText
    provider_request_id :=
      textOf 160 (orElse (source.bind (·.request_id)) response.provider_request_id) }

/-- One field of `identity(input)`: numbers stay, strings are cut to 240 units. -/
def identityField : Option Field → Option Field
  | some (.num value) => some (.num value)
  | some (.str value) => (text 240 value).map .str
  | none => none

/-- `createIntent(input, now)`. -/
def createIntent (input : AttemptInput) (now : Int) : Except JsError ProviderAttempt :=
  let record : ProviderAttempt :=
    { schema_version := 1
      state := .DISPATCH_INTENT_COMMITTED
      outcome := none
      logical_execution_id := text 240 input.logical_execution_id
      provider_attempt_id := text 240 input.provider_attempt_id
      execution_id := text 240 input.execution_id
      command_index := input.command_index
      account := identityField input.account
      conversation := identityField input.conversation
      work_generation := identityField input.work_generation
      binding := identityField input.binding
      binding_revision := identityField input.binding_revision
      marketplace := identityField input.marketplace
      store := identityField input.store
      credential_revision := identityField input.credential_revision
      operation := input.operation.bind (text 240)
      attempt_number := input.attempt_number
      created_at := now
      intent_committed_at := now
      response_received_at := none
      finalized_at := none
      response := none
      delivery_state := "PENDING"
      unknown_reason := none }
  if record.provider_attempt_id.isNone || record.logical_execution_id.isNone then
    .error ⟨some "PROVIDER_ATTEMPT_IDENTITY_MISSING", "Provider attempt identity is incomplete", none, false⟩
  else .ok record

/-- Whether `withState` stamps `finalized_at` in a state. -/
def isFinal : AttemptState → Bool
  | .RETRY_WAIT_KNOWN | .OUTCOME_UNKNOWN | .COMPLETED_KNOWN | .FAILED_KNOWN => true
  | _ => false

/-- The record `withState` returns: it throws only when an unknown outcome is to become known, which
the functions below exclude before they call it. -/
def moved (record : ProviderAttempt) (state : AttemptState) (now : Int) : ProviderAttempt :=
  { record with state, finalized_at := if isFinal state then some now else record.finalized_at }

/-- `markResponseReceived(record, response, now)`. -/
def markResponseReceived (record : ProviderAttempt) (response : ProviderResponse) (now : Int) :
    ProviderAttempt :=
  if record.state = .OUTCOME_UNKNOWN then moved record .OUTCOME_UNKNOWN now
  else moved { record with
    outcome := some .KNOWN_RESPONSE
    response := some (responseMetadata response)
    response_received_at := some now } .RESPONSE_RECEIVED now

/-- The known final state `markKnown` gives to a record that is not unknown. -/
def knownState (record : ProviderAttempt) (ok : Bool) : AttemptState :=
  match record.response with
  | some response =>
    if response.classification = .KNOWN_429 ∧ response.retry_after.isSome then .RETRY_WAIT_KNOWN
    else if ok then .COMPLETED_KNOWN else .FAILED_KNOWN
  | none => if ok then .COMPLETED_KNOWN else .FAILED_KNOWN

/-- `markKnown(record, ok, now)`. -/
def markKnown (record : ProviderAttempt) (ok : Bool) (now : Int) : ProviderAttempt :=
  if record.state = .OUTCOME_UNKNOWN then moved record .OUTCOME_UNKNOWN now
  else moved { record with outcome := some .KNOWN_RESPONSE } (knownState record ok) now

/-- The default reason of `markUnknown`. -/
def defaultReason : String := "dispatch_started_without_durable_response"

/-- `markUnknown(record, now, reason)`. -/
def markUnknown (record : ProviderAttempt) (now : Int) (reason : String) : ProviderAttempt :=
  moved { record with outcome := some .UNKNOWN_OUTCOME, unknown_reason := some reason }
    .OUTCOME_UNKNOWN now

/-- Whether `compactHistory` retains a row. -/
def retained (now : Int) (row : ProviderAttempt) : Bool :=
  match row.state with
  | .DISPATCH_INTENT_COMMITTED | .RESPONSE_RECEIVED | .RETRY_WAIT_KNOWN => true
  | _ => now - row.finalized_at.getD row.created_at ≤ UNKNOWN_RETENTION_MS

/-- `compactHistory(history, now)`: the last eight rows that are open or young. -/
def compactHistory (history : List ProviderAttempt) (now : Int) : List ProviderAttempt :=
  let rows := history.filter (retained now)
  rows.drop (rows.length - MAX_HISTORY)

theorem markUnknown_state (record : ProviderAttempt) (now : Int) (reason : String) :
    (markUnknown record now reason).state = .OUTCOME_UNKNOWN := rfl

/-- A received response leaves an unknown outcome alone. -/
theorem markResponseReceived_state (record : ProviderAttempt) (response : ProviderResponse)
    (now : Int) : (markResponseReceived record response now).state =
      if record.state = .OUTCOME_UNKNOWN then .OUTCOME_UNKNOWN else .RESPONSE_RECEIVED := by
  unfold markResponseReceived
  split <;> rfl

theorem markKnown_state (record : ProviderAttempt) (ok : Bool) (now : Int) :
    (markKnown record ok now).state =
      if record.state = .OUTCOME_UNKNOWN then .OUTCOME_UNKNOWN else knownState record ok := by
  unfold markKnown
  split <;> rfl

end ProviderOutcome

end SellerAgents.Execution
