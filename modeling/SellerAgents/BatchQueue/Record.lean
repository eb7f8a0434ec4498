import SellerAgents.Execution.ResultRecovery

open SellerAgents.Js SellerAgents.Execution

namespace SellerAgents.BatchQueue

/-- The kinds of a batch entry. -/
inductive EntryKind where
  | command
  | guidance
  | pre_execution_error
  | policy_error
  | planning_error
deriving DecidableEq

/-- The statuses of a batch entry. -/
inductive EntryStatus where
  | pending
  | requesting
  | complete
deriving DecidableEq

/-- The request states of a batch. -/
inductive RequestState where
  | idle
  | requesting
  | quota_waiting
deriving DecidableEq

/-- The query planning states of a batch. -/
inductive QueryPlanningState where
  | pending
  | complete
deriving DecidableEq

/-- A provider command. The queue itself only reads its operation. -/
structure Command where
  operation : Option JsString
  params : JsValue

/-- The error an entry was planned with. -/
structure EntryError where
  code : Option String
  details : JsValue

/-- A quota decision's quota. -/
structure Quota where
  next_allowed_at : Option Int
  details : JsValue

/-- One entry of a batch. -/
structure Entry where
  kind : EntryKind
  status : EntryStatus
  operation : Option JsString
  command : Option Command
  command_text : JsString
  command_fingerprint : Option JsString
  execution_command : Option Command
  planning : JsValue
  error : Option EntryError
  guidance : JsValue
  query_group_id : Option JsString
  request_id : Option JsString
  physical_request_id : Option JsString
  http_status : Option Number
  external_request_executed : Option Bool
  executed_command_fingerprint : Option JsString
  cache_hit : Option Bool
  report_text : Option JsString
  request_started_at : Option Int
  request_completed_at : Option Int
  provider_attempt_id : Option JsString
  provider_attempt : Option ProviderAttempt
  provider_attempt_history : List ProviderAttempt
  result_buffer : Option ResultBuffer
  result_phase : Option ResultPhase

/-- A coalesced query group of a batch's query plan. -/
structure QueryGroup where
  group_id : JsString
  leader_index : Nat
  member_indexes : List Nat
  physical_command : Command
  physical_command_fingerprint : Option JsString
  physical_metrics : JsValue

/-- A batch of entries. -/
structure Batch where
  entries : List Entry
  next_index : Nat
  request_state : Option RequestState
  request_worker_session_id : Option String
  query_planning_state : Option QueryPlanningState
  query_groups : List QueryGroup
  quota_wait : JsValue
  request_quota : JsValue

/-- The `last_error` of an owner. -/
structure LastError where
  code : String
  message : String
  time : Int
  recoverable : Bool

/-- The durable record of a batch owner. -/
structure Owner where
  operation_id : Option JsString
  run_id : Option JsString
  status : Option String
  execution_context : Option ExecutionContext
  payload_expires_at_ms : Option Int
  last_operation : Option JsString
  last_error : Option LastError
  batch : Option Batch

/-- The error report inside a result. -/
structure ErrorReport where
  code : Option String
  message : Option String

/-- A result: of the provider port, or of one of the projections. -/
structure QueueResult where
  ok : Bool
  request_id : Option JsString
  physical_request_id : Option JsString
  physical_attempt_id : Option JsString
  provider : Option JsString
  operation : Option JsString
  http_status : Option Number
  result : JsValue
  elapsed_ms : Option Int
  rate_limit : JsValue
  cache : JsValue
  external_request_executed : Option Bool
  executed_command_fingerprint : Option JsString
  report_text : Option JsString
  bridge_error : Bool
  error : Option ErrorReport
  stop_after_result : Option String
  response_meta : Option ResponseMeta
  result_buffer_id : Option JsString
  buffer_id : Option JsString
  created_at_ms : Option Int

/-- A result without any field, the spread of a null result. -/
def QueueResult.empty : QueueResult where
  ok := false
  request_id := none
  physical_request_id := none
  physical_attempt_id := none
  provider := none
  operation := none
  http_status := none
  result := .undefined
  elapsed_ms := none
  rate_limit := .undefined
  cache := .undefined
  external_request_executed := none
  executed_command_fingerprint := none
  report_text := none
  bridge_error := false
  error := none
  stop_after_result := none
  response_meta := none
  result_buffer_id := none
  buffer_id := none
  created_at_ms := none

/-- A cache answer. -/
structure CacheHit where
  hit : Bool
  http_status : Option Number
  result : JsValue
  cache : JsValue

/-- A quota answer. -/
structure QuotaDecision where
  error : Option JsError
  required : Bool
  allowed : Bool
  quota : Option Quota

/-- A reviewed acquisition profile. -/
structure AcquisitionProfile where
  applicable : Bool
  command : Option Command
  details : JsValue

/-- The codes `process` returns; `port` stands for a code that a port chose. -/
inductive Code where
  | BATCH_POLICY_FAILED
  | BATCH_PLANNING_FAILED
  | CAPABILITY_PROBE_IN_PROGRESS
  | BATCH_QUERY_PLANNING_FAILED
  | BATCH_OWNER_NOT_ACTIVE
  | BATCH_NOT_COLLECTING
  | BATCH_ENTRY_MISSING
  | REQUEST_OUTCOME_UNKNOWN_NO_RETRY
  | REQUEST_IN_PROGRESS
  | BATCH_ENTRY_STORE_RACE
  | BATCH_POLICY_RESULT_STORE_RACE
  | BATCH_PLANNING_RESULT_STORE_RACE
  | BATCH_QUERY_PLAN_CORRUPT
  | BATCH_QUERY_PLAN_NONCONTIGUOUS
  | PROVIDER_CACHE_RESULT_STORE_RACE
  | PROVIDER_QUOTA_ERROR_STORE_RACE
  | PROVIDER_QUOTA_WAITING
  | PROVIDER_ATTEMPT_INTENT_STORE_RACE
  | BATCH_COALESCED_RESULT_STORE_RACE
  | BATCH_RESULT_STORE_RACE
  | BATCH_ERROR_REPORT_FAILED
  | RESULT_RECOVERY_STORE_RACE
  | recovery (code : RecoveryCode)
  | port (code : String)
deriving DecidableEq

/-- What `process` returns. -/
structure ProcessResult where
  ok : Bool
  code : Code
  status : Option String
  next_allowed_at : Option Int
deriving DecidableEq

/-- The pure arguments and ports of one `process` call. -/
structure Call where
  workerId : String
  ownerMatches : Owner → Bool
  isCollecting : Owner → Bool
  findGroup : Batch → JsString → Option QueryGroup
  quotaMetadata : Option Quota → JsValue
  hasBeforeProviderDispatch : Bool
  coalescedOperation : Option JsString
  providerId : JsString
  bridgeErrorCode : String

end SellerAgents.BatchQueue
