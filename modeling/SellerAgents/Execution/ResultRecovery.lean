import SellerAgents.Execution.ProviderOutcome

open SellerAgents.Js

namespace SellerAgents.Execution

/-- `RESULT_PHASES`. -/
inductive ResultPhase where
  | NONE
  | BUFFERED
  | MATERIALIZED
  | EXPIRED
  | UNAVAILABLE
deriving DecidableEq

/-- `DELIVERY_OUTCOMES`. -/
inductive DeliveryOutcome where
  | NOT_ATTEMPTED
  | CLAIMED
  | COMMITTED
  | UNKNOWN
  | CONFIRMED
  | KNOWN_PRE_IRREVERSIBLE_FAILURE

/-- The `projection_kind` of a buffer. -/
inductive ProjectionKind where
  | single
  | physical
deriving DecidableEq

/-- The values `contextOf` reads, whichever object they come from. -/
structure ContextSource where
  accountId : Option Field
  conversationKey : Option Field
  marketplace : Option Field
  storeId : Option Field
  bindingId : Option Field
  bindingRevision : Option Field
  workGeneration : Option Field
  workSessionId : Option Field
  aiSurface : Option Field
  aiProfile : Option Field

/-- The context a buffer keeps, as `contextOf` returns it. -/
structure RecoveryContext where
  accountId : Option JsString
  conversationKey : Option JsString
  marketplace : Option JsString
  storeId : Option JsString
  bindingId : Option JsString
  bindingRevision : Option Double
  workGeneration : Option JsString
  aiSurface : Option JsString
  aiProfile : Option JsString

/-- The business result a buffer keeps. -/
structure BufferPayload where
  ok : Bool
  request_id : Option JsString
  operation : Option JsString
  http_status : Number
  external_request_executed : Bool
  executed_command_fingerprint : Option JsString
  report_text : Option JsString
  result : JsValue

/-- A result buffer. -/
structure ResultBuffer where
  phase : ResultPhase
  result_buffer_id : Option JsString
  logical_execution_id : Option JsString
  provider_attempt_id : Option JsString
  execution_id : Option JsString
  command_index : Nat
  projection_kind : ProjectionKind
  context : RecoveryContext
  created_at_ms : Int
  expires_at_ms : Int
  payload : Option BufferPayload
  unavailable_code : Option String
  expired_at_ms : Option Int

/-- What `createBuffer` is computed from. -/
structure BufferInput where
  ok : Bool
  request_id : Option JsString
  operation : Option JsString
  http_status : Option Number
  external_request_executed : Option Bool
  executed_command_fingerprint : Option JsString
  report_text : Option JsString
  result : JsValue
  result_buffer_id : Option JsString
  buffer_id : Option JsString
  created_at_ms : Option Int
  expires_at_ms : Option Int
  logical_execution_id : Option JsString
  provider_attempt_id : Option JsString
  execution_id : Option JsString
  command_index : Nat
  projection_kind : ProjectionKind
  context : ContextSource

/-- The codes `recoveryDecision` blocks with. -/
inductive RecoveryCode where
  | PROVIDER_OUTCOME_UNKNOWN_NO_RETRY
  | STALE_DELIVERY_CONTEXT
  | RESULT_RECOVERY_UNAVAILABLE_NO_REPLAY
  | RESULT_BUFFER_EXPIRED
  | DELIVERY_OUTCOME_UNKNOWN_NO_RETRY
deriving DecidableEq

/-- The decisions `recoveryDecision` returns. -/
inductive Decision where
  | blocked (code : RecoveryCode)
  | delivered
  | resume_local_result
deriving DecidableEq

namespace ResultRecovery

/-- `TECHNICAL_RETENTION_MS`. -/
def TECHNICAL_RETENTION_MS : Int := 60 * 60 * 1000

/-- `MAX_BUFFER_BYTES`. -/
def MAX_BUFFER_BYTES : Nat := 16 * 1024 * 1024

/-- `text(value || other, max)` on a field without a second name. -/
def namedField (max : Nat) (value : Option Field) : Option JsString :=
  (value.filter Field.isTruthy).bind fun field => text max field.toText

/-- `text(value, max)` on a field. -/
def textField (max : Nat) (value : Option Field) : Option JsString :=
  value.bind fun field => text max field.toText

/-- `left || right` on fields. -/
def orField (left right : Option Field) : Option Field := (left.filter Field.isTruthy).or right

/-- `contextOf(value)`. -/
def contextOf (source : ContextSource) : RecoveryContext where
  accountId := namedField 160 source.accountId
  conversationKey := namedField 320 source.conversationKey
  marketplace := textField 64 source.marketplace
  storeId := namedField 240 source.storeId
  bindingId := namedField 240 source.bindingId
  bindingRevision := source.bindingRevision.bind Field.toNumber
  workGeneration := namedField 240 (orField source.workGeneration source.workSessionId)
  aiSurface := namedField 160 source.aiSurface
  aiProfile := namedField 240 source.aiProfile

/-- A kept context read again as a source. -/
def ofKept (context : RecoveryContext) : ContextSource where
  accountId := context.accountId.map .str
  conversationKey := context.conversationKey.map .str
  marketplace := context.marketplace.map .str
  storeId := context.storeId.map .str
  bindingId := context.bindingId.map .str
  bindingRevision := context.bindingRevision.map .num
  workGeneration := context.workGeneration.map .str
  workSessionId := none
  aiSurface := context.aiSurface.map .str
  aiProfile := context.aiProfile.map .str

/-- A pinned execution context read as a source. -/
def ofExecution (context : ExecutionContext) : ContextSource where
  accountId := some context.accountId
  conversationKey := some context.conversationKey
  marketplace := some context.marketplace
  storeId := some context.storeId
  bindingId := some context.bindingId
  bindingRevision := some context.bindingRevision
  workGeneration := context.authority.map fun authority => .num authority.workGeneration
  workSessionId := some context.workSessionId
  aiSurface := none
  aiProfile := none

/-- `left === right` on a number or null. -/
def sameRevision : Option Double → Option Double → Bool
  | some left, some right => left.same right
  | none, none => true
  | _, _ => false

/-- `sameContext(left, right)`. -/
def sameContext (left right : ContextSource) : Bool :=
  let a := contextOf left
  let b := contextOf right
  a.accountId = b.accountId && a.conversationKey = b.conversationKey &&
    a.marketplace = b.marketplace && a.storeId = b.storeId && a.bindingId = b.bindingId &&
    sameRevision a.bindingRevision b.bindingRevision && a.workGeneration = b.workGeneration &&
    a.aiSurface = b.aiSurface && a.aiProfile = b.aiProfile

/-- The unit `toLowerCase` maps a unit to, as far as an ASCII name can show up in the result: the
ASCII letters and the Kelvin sign. -/
def lowerUnit (u : UInt16) : UInt16 :=
  if 65 ≤ u ∧ u ≤ 90 then u + 32 else if u = 0x212A then 107 else u

/-- The names of secrets that `sanitize` drops. -/
def secretNames : List JsString :=
  ["authorization", "access_token", "api_key", "apikey", "client_secret", "storage_state",
    "storagestate"].map units

/-- Whether `sanitize` drops a value under a key. -/
def isSecret (key : JsString) : Bool :=
  secretNames.any fun part => (key.map lowerUnit).tails.any part.isPrefixOf

mutual

/-- `sanitize(value, key)` on a value without shared references. -/
def sanitize (key : JsString) : JsValue → JsValue
  | .arr items => if isSecret key then .undefined else .arr (sanitizeItems key items)
  | .obj fields => if isSecret key then .undefined else .obj (sanitizeFields fields)
  | value => if isSecret key then .undefined else value

/-- The items of an array that `sanitize` keeps. -/
def sanitizeItems (key : JsString) : List JsValue → List JsValue
  | [] => []
  | item :: rest =>
    match sanitize key item with
    | .undefined => sanitizeItems key rest
    | kept => kept :: sanitizeItems key rest

/-- The fields of an object that `sanitize` keeps. -/
def sanitizeFields : List (JsString × JsValue) → List (JsString × JsValue)
  | [] => []
  | (key, value) :: rest =>
    match sanitize key value with
    | .undefined => sanitizeFields rest
    | kept => (key, kept) :: sanitizeFields rest

end

/-- `bufferId(input)`. -/
def bufferId (input : BufferInput) : JsString :=
  (textOf 320 (orElse input.result_buffer_id input.buffer_id)).getD
    ((textOf 240 input.logical_execution_id).getD (units "execution") ++ units ":" ++
      (textOf 240 input.provider_attempt_id).getD (units "attempt"))

/-- A string or null as a value. -/
def jsText : Option JsString → JsValue
  | some value => .str value
  | none => .null

/-- An integer as a value. -/
def jsInt (value : Int) : JsValue :=
  ((Double.ofFraction (value < 0) value.natAbs 1).map .num).getD (.infinity (value < 0))

/-- A number as a value. -/
def jsNumber : Number → JsValue
  | .finite value => .num value
  | .nan => .nan
  | .infinity neg => .infinity neg

/-- The payload of a buffer as a value. -/
def payloadValue (payload : BufferPayload) : JsValue :=
  .obj [(units "ok", .bool payload.ok), (units "request_id", jsText payload.request_id),
    (units "operation", jsText payload.operation),
    (units "http_status", jsNumber payload.http_status),
    (units "external_request_executed", .bool payload.external_request_executed),
    (units "executed_command_fingerprint", jsText payload.executed_command_fingerprint),
    (units "report_text", jsText payload.report_text), (units "result", payload.result)]

/-- The context of a buffer as a value. -/
def contextValue (context : RecoveryContext) : JsValue :=
  .obj [(units "accountId", jsText context.accountId),
    (units "conversationKey", jsText context.conversationKey),
    (units "marketplace", jsText context.marketplace), (units "storeId", jsText context.storeId),
    (units "bindingId", jsText context.bindingId),
    (units "bindingRevision", (context.bindingRevision.map .num).getD .null),
    (units "workGeneration", jsText context.workGeneration),
    (units "aiSurface", jsText context.aiSurface), (units "aiProfile", jsText context.aiProfile)]

/-- The name of a projection kind. -/
def kindName : ProjectionKind → JsString
  | .single => units "single"
  | .physical => units "physical"

/-- `bytes(base)`: the length of the printed buffer. -/
def bytes (buffer : ResultBuffer) : Nat :=
  (JsValue.obj [(units "schema_version", jsInt 1), (units "phase", .str (units "BUFFERED")),
    (units "result_buffer_id", jsText buffer.result_buffer_id),
    (units "logical_execution_id", jsText buffer.logical_execution_id),
    (units "provider_attempt_id", jsText buffer.provider_attempt_id),
    (units "execution_id", jsText buffer.execution_id),
    (units "command_index", jsInt buffer.command_index),
    (units "projection_kind", .str (kindName buffer.projection_kind)),
    (units "context", contextValue buffer.context),
    (units "created_at_ms", jsInt buffer.created_at_ms),
    (units "expires_at_ms", jsInt buffer.expires_at_ms),
    (units "payload", (buffer.payload.map payloadValue).getD .null),
    (units "delivery_outcome", .str (units "NOT_ATTEMPTED")),
    (units "provider_replay_forbidden", .bool true)]).jsonBytes

/-- The payload `createBuffer` keeps of a result. -/
def payloadOf (input : BufferInput) : BufferPayload where
  ok := input.ok
  request_id := textOf 240 input.request_id
  operation := textOf 160 input.operation
  http_status := Number.finiteOrZero input.http_status
  external_request_executed := input.external_request_executed ≠ some false
  executed_command_fingerprint := textOf 160 input.executed_command_fingerprint
  report_text := textOf (8 * 1024 * 1024) input.report_text
  result := sanitize (units "result") input.result

/-- `value || fallback` on a time or undefined. -/
def timeOr (value : Option Int) (fallback : Int) : Int :=
  match value with
  | some time => if time = 0 then fallback else time
  | none => fallback

/-- The buffer `createBuffer` builds before it looks at the size. -/
def base (input : BufferInput) (now : Int) : ResultBuffer :=
  let created := timeOr input.created_at_ms now
  { phase := .BUFFERED
    result_buffer_id := some (bufferId input)
    logical_execution_id := textOf 240 input.logical_execution_id
    provider_attempt_id := textOf 240 input.provider_attempt_id
    execution_id := textOf 240 input.execution_id
    command_index := input.command_index
    projection_kind := input.projection_kind
    context := contextOf input.context
    created_at_ms := created
    expires_at_ms := min (created + TECHNICAL_RETENTION_MS)
      (timeOr input.expires_at_ms (created + TECHNICAL_RETENTION_MS))
    payload := some (payloadOf input)
    unavailable_code := none
    expired_at_ms := none }

/-- `createBuffer(input, now)`. -/
def createBuffer (input : BufferInput) (now : Int) : ResultBuffer :=
  let built := base input now
  if MAX_BUFFER_BYTES < bytes built then
    { built with
      phase := .UNAVAILABLE
      payload := none
      unavailable_code := some "RESULT_BUFFER_TOO_LARGE" }
  else built

/-- `expire(buffer, now)`. -/
def expire (buffer : ResultBuffer) (now : Int) : ResultBuffer where
  phase := .EXPIRED
  result_buffer_id := textOf 240 buffer.result_buffer_id
  logical_execution_id := textOf 240 buffer.logical_execution_id
  provider_attempt_id := textOf 240 buffer.provider_attempt_id
  execution_id := textOf 240 buffer.execution_id
  command_index := buffer.command_index
  projection_kind := buffer.projection_kind
  context := contextOf (ofKept buffer.context)
  created_at_ms := buffer.created_at_ms
  expires_at_ms := buffer.expires_at_ms
  payload := none
  unavailable_code := none
  expired_at_ms := some now

/-- `normalize(buffer, now)`. -/
def normalize (buffer : ResultBuffer) (now : Int) : ResultBuffer :=
  if buffer.phase = .BUFFERED ∧ buffer.expires_at_ms ≤ now then expire buffer now else buffer

/-- What `recoveryDecision` is computed from. -/
structure DecisionInput where
  providerAttempt : Option ProviderAttempt
  resultBuffer : Option ResultBuffer
  deliveryOutcome : DeliveryOutcome
  currentContext : Option ExecutionContext
  finish : Bool

/-- What `recoveryDecision` decides once the buffer is normalized. -/
def decideOn (input : DecisionInput) (buffer : ResultBuffer) : Decision :=
  match buffer.phase with
  | .NONE => .blocked .RESULT_RECOVERY_UNAVAILABLE_NO_REPLAY
  | .EXPIRED => .blocked .RESULT_BUFFER_EXPIRED
  | .UNAVAILABLE => .blocked .RESULT_RECOVERY_UNAVAILABLE_NO_REPLAY
  | .BUFFERED | .MATERIALIZED =>
    if input.currentContext.any fun current =>
        !sameContext (ofKept buffer.context) (ofExecution current) then
      .blocked .STALE_DELIVERY_CONTEXT
    else match input.deliveryOutcome with
      | .COMMITTED | .UNKNOWN => .blocked .DELIVERY_OUTCOME_UNKNOWN_NO_RETRY
      | .CONFIRMED => .delivered
      | _ => .resume_local_result

/-- `recoveryDecision(input)` at a time. -/
def recoveryDecision (input : DecisionInput) (now : Int) : Decision :=
  if input.providerAttempt.any (·.state = .OUTCOME_UNKNOWN) then
    .blocked .PROVIDER_OUTCOME_UNKNOWN_NO_RETRY
  else if input.finish then .blocked .STALE_DELIVERY_CONTEXT
  else match input.resultBuffer with
    | none => .blocked .RESULT_RECOVERY_UNAVAILABLE_NO_REPLAY
    | some buffer => decideOn input (normalize buffer now)

end ResultRecovery

end SellerAgents.Execution
