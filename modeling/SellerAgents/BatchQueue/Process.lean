import SellerAgents.BatchQueue.Callbacks
import SellerAgents.Concurrent.Program

open SellerAgents.Js SellerAgents.Execution Concurrent

namespace SellerAgents.BatchQueue

/-- Whether a unit may stand in a printed UUID. -/
def isUuidUnit (u : UInt16) : Bool := isDigit u || (97 ≤ u && u ≤ 102) || u == 45

/-- What `crypto.randomUUID()` returns: 36 hexadecimal digits and hyphens. -/
structure Uuid where
  value : JsString
  length : value.length = 36
  digits : value.all isUuidUnit = true

/-- The diagnostics the queue reports. -/
inductive DiagnosticName where
  | KNOWN_RESULT_RECOVERED_NO_PROVIDER_REPLAY
  | REQUEST_RECOVERY_BLOCKED_NO_RETRY
  | GUIDANCE_ATTEMPT_CLASSIFIED
  | GUIDANCE_CLUSTER_SELECTED
  | BATCH_PREEXEC_RESULT_STORED
  | BATCH_PERSONAL_DATA_POLICY_RESULT_STORED
  | BATCH_CAPABILITY_RESULT_STORED
  | PROVIDER_CACHE_HIT
  | PROVIDER_QUOTA_STATE_UNAVAILABLE
  | BATCH_COALESCED_REQUEST_STARTED
  | BATCH_COALESCED_PROJECTION_FAILED
  | BATCH_COALESCED_RESULTS_STORED
  | BATCH_REQUEST_STARTED
  | BATCH_RESULT_STORED

/-- The three preparations before the loop. -/
inductive Preparation where
  | policy
  | capability
  | queries

/-- A result that a port chose. -/
structure PortResult where
  ok : Bool
  code : String
  status : Option String
  next_allowed_at : Option Int

/-- The arguments of `execute`. `indexes` and `projectionKind` are what the `onProviderResult`
argument closes over. -/
structure ExecuteRequest where
  command_text : JsString
  executionCommand : Option Command
  planning : JsValue
  quotaPermit : Option Quota
  providerAttemptId : JsString
  logicalExecutionId : JsString
  indexes : List Nat
  projectionKind : ProjectionKind

/-- The calls of the ports that do not touch the record themselves. -/
inductive Port where
  | normalizeKey
  | prepare (preparation : Preparation)
  | failOwner (code : Code) (message : String)
  | finalizeOwner (owner : Owner) (entries : List Entry)
  | diagnostic (name : DiagnosticName)
  | guidanceResult (entry : Entry)
  | policyErrorResult (command : Option Command) (command_fingerprint : Option JsString)
  | planningErrorResult (command : Option Command) (command_fingerprint : Option JsString)
      (error : Option EntryError) (planning : JsValue)
  | readCache (command : Option Command)
  | projectGroup (member : Option Entry) (group : QueryGroup) (result : QueueResult)
      (error : Option JsError)
  | prepareQuota (command : Option Command)
  | groupError (member : Option Entry) (group : QueryGroup) (error : JsError) (elapsed : Int)
      (physicalAttemptId : Option JsString)
  | persistQuotaWait (nextIndex : Nat) (quota : Option Quota) (groupId : Option JsString)
  | beforeProviderDispatch
  | execute (request : ExecuteRequest)
  | groupPlanning (leader : Entry) (group : QueryGroup) (physicalAttemptId : JsString)
      (fingerprint : Option JsString)
  | storeCache (command : Option Command) (result : QueueResult)
      (profile : Option AcquisitionProfile)
  | cachedResult (entry : Entry) (hit : CacheHit)
  | reviewedAcquisitionProfile (command : Option Command)
  | acquisitionPlanning (planning : JsValue) (profile : Option AcquisitionProfile)
  | executionError (command : Option Command) (command_fingerprint : Option JsString)
      (error : JsError) (elapsed : Int) (planning : JsValue)
  | projectSingle (entry : Entry) (result : QueueResult) (profile : Option AcquisitionProfile)

/-- What a port returns when it does not throw. `execute` comes with the last response it handed to
`onProviderResponse`. -/
@[reducible] def Port.Answer : Port → Type
  | .prepare _ => Option PortResult
  | .finalizeOwner _ _ => PortResult
  | .guidanceResult _ => QueueResult
  | .policyErrorResult _ _ | .planningErrorResult _ _ _ _ => Option QueueResult
  | .readCache _ => CacheHit
  | .projectGroup _ _ _ _ | .groupError _ _ _ _ _ => Option QueueResult
  | .prepareQuota _ => QuotaDecision
  | .execute _ => Option QueueResult × Option ProviderResponse
  | .groupPlanning _ _ _ _ | .acquisitionPlanning _ _ => JsValue
  | .cachedResult _ _ | .executionError _ _ _ _ _ | .projectSingle _ _ _ => Option QueueResult
  | .reviewedAcquisitionProfile _ => Option AcquisitionProfile
  | _ => Unit

/-- The commands of `process`. -/
inductive Cmd where
  | getOwner
  | mutateOwner (callback : Callback)
  | port (query : Port)
  | now
  | randomUUID

/-- The answers of the commands. `mutateOwner` answers the record with the `stored` flag of its
callback. -/
@[reducible] def Cmd.Answer : Cmd → Type
  | .getOwner => Except JsError (Option Owner)
  | .mutateOwner _ => Except JsError (Option Owner × Bool)
  | .port query => Except JsError query.Answer
  | .now => Int
  | .randomUUID => Uuid

/-- A program of the queue. -/
abbrev Program (α : Type) : Type := Prog Cmd Cmd.Answer JsError α

/-- `await getOwner()`. -/
def getOwner : Program (Option Owner) := .act .getOwner Prog.ofExcept

/-- `await mutateOwner(callback)`. -/
def mutateOwner (callback : Callback) : Program (Option Owner × Bool) :=
  .act (.mutateOwner callback) Prog.ofExcept

/-- A call of a port. -/
def port (query : Port) : Program query.Answer := .act (.port query) Prog.ofExcept

/-- `Date.now()`. -/
def dateNow : Program Int := .act .now .ret

/-- `crypto.randomUUID()`. -/
def randomUUID : Program Uuid := .act .randomUUID .ret

/-- Ends an iteration of the loop with a result. -/
def finished (ok : Bool) (code : Code) : Program (Option ProcessResult) :=
  .ret (some ⟨ok, code, none, none⟩)

/-- Goes on with the next iteration of the loop. -/
def next : Program (Option ProcessResult) := .ret none

/-- Reads a value that must be there: null and undefined throw. -/
def present {α : Type} : Option α → Program α
  | some value => .ret value
  | none => .throw typeError

/-- `await failOwner(code, message)` and the result that follows. -/
def failWith (code : Code) (message : String) : Program (Option ProcessResult) :=
  (port (.failOwner code message)).bind fun _ => finished false code

/-- Runs a program for every element in turn and collects the results. -/
def collect {α β : Type} (step : α → Program β) : List α → Program (List β)
  | [] => .ret []
  | a :: rest => do
    let first ← step a
    let others ← collect step rest
    return first :: others

/-- `attemptId()`. -/
def attemptId (uuid : Uuid) : JsString := units "provider-attempt-" ++ uuid.value

/-- The error of reading the unbound `ownerId` in `logicalId`. -/
def referenceError : JsError := ⟨none, "ownerId is not defined", none, false⟩

/-- `owner?.operation_id || owner?.run_id || ownerId`. -/
def executionId (owner : Owner) : Except JsError JsString :=
  match orNull owner.operation_id, orNull owner.run_id with
  | some id, _ => .ok id
  | none, some id => .ok id
  | none, none => .error referenceError

/-- The decimal digits of an index. -/
def indexText (index : Nat) : JsString := units (toString index)

/-- `logicalId(owner, index)`. -/
def logicalId (owner : Owner) (index : Nat) : Except JsError JsString :=
  (executionId owner).map fun id => id ++ units ":" ++ indexText index

/-- `attemptInput(owner, entry, index, id, number)` with the default number. -/
def attemptInput (call : Call) (owner : Owner) (entry : Option Entry) (index : Nat)
    (id : JsString) : Except JsError AttemptInput := do
  let logical_execution_id ← logicalId owner index
  let execution_id ← executionId owner
  let context := owner.execution_context
  return {
    logical_execution_id := logical_execution_id
    provider_attempt_id := id
    execution_id := execution_id
    command_index := index
    account := context.map (·.accountId)
    conversation := context.map (·.conversationKey)
    work_generation := context.map (·.workSessionId)
    binding := context.map (·.bindingId)
    binding_revision := context.map (·.bindingRevision)
    marketplace := ResultRecovery.orField (context.map (·.marketplace)) (some (.str call.providerId))
    store := context.map (·.storeId)
    credential_revision := context.map (·.credentialRevision)
    operation := orElse (entry.bind (·.operation)) (orElse
      ((entry.bind (·.command)).bind (·.operation)) call.coalescedOperation)
    attempt_number := 1 }

/-- The attempts `commitAttemptIntent` creates before it writes. -/
def createAttempts (call : Call) (owner : Owner) (entryForIndex : Nat → Option Entry)
    (id : JsString) (now : Int) : List Nat → Except JsError (List (Nat × ProviderAttempt))
  | [] => .ok []
  | index :: rest => do
    let input ← attemptInput call owner (entryForIndex index) index id
    let attempt ← ProviderOutcome.createIntent input now
    let others ← createAttempts call owner entryForIndex id now rest
    return (index, attempt) :: others

/-- `commitAttemptIntent`. -/
def commitIntent (call : Call) (owner : Owner) (indexes : List Nat)
    (entryForIndex : Nat → Option Entry) (id : JsString) : Program (Option Owner × Bool) := do
  let now ← dateNow
  let attempts ← Prog.ofExcept (createAttempts call owner entryForIndex id now indexes)
  mutateOwner (.commitAttemptIntent id attempts)

/-- `recordResponse`. -/
def receiveResponse (indexes : List Nat) (id : JsString) (response : ProviderResponse) :
    Program Unit := do
  let (_, stored) ← mutateOwner (.recordResponse indexes id response)
  if stored then return ()
  else .throw ⟨some "PROVIDER_RESPONSE_RECEIPT_STORE_FAILED",
    "Provider response receipt could not be committed", none, false⟩

/-- What a recovery function returns. -/
inductive Recovered where
  | recovered
  | blocked (code : Code)
  | other

/-- A decision of the recovery module other than to resume. -/
def Recovered.ofDecision : Decision → Recovered
  | .blocked code => .blocked (.recovery code)
  | _ => .other

/-- The decision input both recovery functions build. -/
def decisionInput (owner : Owner) (entry : Entry) : ResultRecovery.DecisionInput where
  providerAttempt := entry.provider_attempt
  resultBuffer := entry.result_buffer
  deliveryOutcome := .NOT_ATTEMPTED
  currentContext := owner.execution_context
  finish := false

/-- `recoverBufferedSingle`. -/
def recoverBufferedSingle (owner : Owner) (index : Nat) (entry : Entry) : Program Recovered := do
  let now ← dateNow
  match ResultRecovery.recoveryDecision (decisionInput owner entry) now with
  | .resume_local_result =>
    match bufferedProviderResult entry with
    | none => return .blocked (.recovery .RESULT_RECOVERY_UNAVAILABLE_NO_REPLAY)
    | some result => do
      let (_, stored) ← mutateOwner (.recoverSingle index entry.provider_attempt_id result)
      return if stored then .recovered else .blocked .RESULT_RECOVERY_STORE_RACE
  | decision => return Recovered.ofDecision decision

/-- `members.map((member) => projectGroup(member, group, result, error))`. -/
def projectMembers (group : QueryGroup) (result : QueueResult) (error : Option JsError)
    (members : List (Option Entry)) : Program (List (Option QueueResult)) :=
  collect (fun member => port (.projectGroup member group result error)) members

/-- The projection of a group's result, with the second try that is told the error of the first. -/
def projectOrExplain (group : QueryGroup) (result : QueueResult) (members : List (Option Entry))
    (explain : Program Unit) : Program (List (Option QueueResult)) := do
  match ← (projectMembers group result none members).attempt with
  | .ok results => return results
  | .error error => do
    let results ← projectMembers group result (some error) members
    explain
    return results

/-- Whether a member of a group may be recovered from its buffer. -/
def isRecoverable (entry : Option Entry) : Bool :=
  entry.any fun member => member.status = .requesting &&
    (member.result_buffer.map (·.projection_kind)) = some .physical

/-- `recoverBufferedGroup`. -/
def recoverBufferedGroup (owner : Owner) (batch : Batch) (nextIndex : Nat) (group : QueryGroup) :
    Program Recovered := do
  let members := group.member_indexes.map fun index => batch.entries[index]?
  if group.member_indexes.head? ≠ some nextIndex ∨ !members.all isRecoverable then
    return .blocked (.recovery .RESULT_RECOVERY_UNAVAILABLE_NO_REPLAY)
  else do
    let decisions ← collect (fun member : Entry => do
      let now ← dateNow
      return ResultRecovery.recoveryDecision (decisionInput owner member) now) (members.filterMap id)
    match decisions.find? (· ≠ .resume_local_result) with
    | some decision => return Recovered.ofDecision decision
    | none =>
      match members.head?.join.bind bufferedProviderResult with
      | none => return .blocked (.recovery .RESULT_RECOVERY_UNAVAILABLE_NO_REPLAY)
      | some physicalResult => do
        let results ← projectOrExplain group physicalResult members (.ret ())
        let (_, stored) ← mutateOwner
          (.recoverGroup nextIndex group (group.member_indexes.zip results) physicalResult)
        return if stored then .recovered else .blocked .RESULT_RECOVERY_STORE_RACE

/-- What follows a recovery in the loop. -/
def afterRecovery (otherwise : Program (Option ProcessResult)) :
    Recovered → Program (Option ProcessResult)
  | .recovered => do
    port (.diagnostic .KNOWN_RESULT_RECOVERED_NO_PROVIDER_REPLAY)
    next
  | .blocked code => failWith code
    "Известный provider result нельзя безопасно восстановить; повторный provider request запрещён."
  | .other => otherwise

/-- The branch of the loop for an entry whose request was started. -/
def atRequesting (call : Call) (batch : Batch) (nextIndex : Nat) :
    Program (Option ProcessResult) := do
  let worker := batch.request_worker_session_id.getD ""
  if worker ≠ "" ∧ worker ≠ call.workerId then do
    let _ ← mutateOwner (.markRequestingUnknown [nextIndex])
    port (.failOwner .REQUEST_OUTCOME_UNKNOWN_NO_RETRY
      "Service worker перезапустился во время provider request. Исход запроса неизвестен; автоматический повтор запрещён.")
    port (.diagnostic .REQUEST_RECOVERY_BLOCKED_NO_RETRY)
    finished false .REQUEST_OUTCOME_UNKNOWN_NO_RETRY
  else finished true .REQUEST_IN_PROGRESS

/-- What follows a store in the loop: a diagnostic, or the code of a race. -/
def afterStore (stored : Bool) (race : Code) (name : DiagnosticName) :
    Program (Option ProcessResult) :=
  if stored then do
    port (.diagnostic name)
    next
  else finished false race

/-- The branch of the loop for guidance and for entries that failed before execution. -/
def atGuidance (nextIndex : Nat) (entry : Entry) : Program (Option ProcessResult) := do
  let guidance ← port (.guidanceResult entry)
  port (.diagnostic (if entry.kind = .pre_execution_error then .GUIDANCE_ATTEMPT_CLASSIFIED
    else .GUIDANCE_CLUSTER_SELECTED))
  let (_, stored) ← mutateOwner (.storeGuidance nextIndex guidance)
  afterStore stored .BATCH_ENTRY_STORE_RACE .BATCH_PREEXEC_RESULT_STORED

/-- The branch of the loop for entries that the personal data policy blocks. -/
def atPolicyError (nextIndex : Nat) (entry : Entry) : Program (Option ProcessResult) := do
  let result ← port (.policyErrorResult entry.command entry.command_fingerprint)
  let (_, stored) ← mutateOwner (.storePolicyError nextIndex result)
  afterStore stored .BATCH_POLICY_RESULT_STORE_RACE .BATCH_PERSONAL_DATA_POLICY_RESULT_STORED

/-- The branch of the loop for entries that planning rejected. -/
def atPlanningError (nextIndex : Nat) (entry : Entry) : Program (Option ProcessResult) := do
  let result ← port (.planningErrorResult entry.command entry.command_fingerprint entry.error
    entry.planning)
  let (_, stored) ← mutateOwner (.storePlanningError nextIndex result)
  afterStore stored .BATCH_PLANNING_RESULT_STORE_RACE .BATCH_CAPABILITY_RESULT_STORED

/-- The wait for a quota. -/
def quotaWaiting (nextIndex : Nat) (quota : Option Quota) (groupId : Option JsString) :
    Program (Option ProcessResult) := do
  port (.persistQuotaWait nextIndex quota groupId)
  return some ⟨true, .PROVIDER_QUOTA_WAITING, none,
    some ((quota.bind (·.next_allowed_at)).getD 0)⟩

/-- The result a cache hit of a group stands for. -/
def virtualPhysicalResult (call : Call) (group : QueryGroup) (hit : CacheHit) : QueueResult :=
  { QueueResult.empty with
    ok := true
    provider := some call.providerId
    executed_command_fingerprint := group.physical_command_fingerprint
    http_status := (hit.http_status.filter Number.isTruthy).or (some Number.twoHundred)
    result := hit.result
    elapsed_ms := some 0
    external_request_executed := some false
    cache := hit.cache }

/-- The results of a group whose request threw. -/
def groupErrors (group : QueryGroup) (members : List (Option Entry)) (physicalAttemptId : JsString)
    (startedAt : Int) (error : JsError) : Program (List (Option QueueResult)) := do
  let now ← dateNow
  collect (fun member => port
    (.groupError member group error (now - startedAt) (some physicalAttemptId))) members

/-- The call of `execute` for a group. -/
def executeGroup (owner : Owner) (nextIndex : Nat) (group : QueryGroup) (indexes : List Nat)
    (members : List (Option Entry)) (quota : Option Quota) (id physicalAttemptId : JsString) :
    Program (Option QueueResult × Option ProviderResponse) := do
  let leader ← present members.head?.join
  let planning ← port (.groupPlanning leader group physicalAttemptId
    group.physical_command_fingerprint)
  let logicalExecutionId ← Prog.ofExcept (logicalId owner nextIndex)
  port (.execute
    { command_text := leader.command_text
      executionCommand := some group.physical_command
      planning := planning
      quotaPermit := quota
      providerAttemptId := id
      logicalExecutionId := logicalExecutionId
      indexes := indexes
      projectionKind := .physical })

/-- The rest of the group's `try` block, once `execute` answered. -/
def projectAnswer (group : QueryGroup) (indexes : List Nat) (members : List (Option Entry))
    (id : JsString) (physicalResult : QueueResult) (response : Option ProviderResponse) :
    Program (List (Option QueueResult)) := do
  match response with
  | some r => receiveResponse indexes id r
  | none => pure ()
  if physicalResult.ok then
    port (.storeCache (some group.physical_command) physicalResult none)
    projectOrExplain group physicalResult members
      (port (.diagnostic .BATCH_COALESCED_PROJECTION_FAILED))
  else projectMembers group physicalResult none members

/-- The `try` statement of the group path: the logical results, and the physical one when `execute`
returned. -/
def requestGroup (owner : Owner) (batch : Batch) (nextIndex : Nat) (group : QueryGroup)
    (indexes : List Nat) (quota : Option Quota) (id physicalAttemptId : JsString)
    (startedAt : Int) : Program (List (Option QueueResult) × Option QueueResult) := do
  let members := indexes.map fun index => batch.entries[index]?
  match ← (executeGroup owner nextIndex group indexes members quota id physicalAttemptId).attempt with
  | .error error => do
    let results ← groupErrors group members physicalAttemptId startedAt error
    return (results, none)
  | .ok (result, response) => do
    let physicalResult := { result.getD QueueResult.empty with
      physical_attempt_id := some physicalAttemptId }
    match ← (projectAnswer group indexes members id physicalResult response).attempt with
    | .ok results => return (results, some physicalResult)
    | .error error => do
      let results ← groupErrors group members physicalAttemptId startedAt error
      return (results, some physicalResult)

/-- The group path from its intent on. -/
def sendGroup (call : Call) (owner : Owner) (batch : Batch) (nextIndex : Nat)
    (group : QueryGroup) (indexes : List Nat) (quota : Option Quota) :
    Program (Option ProcessResult) := do
  let uuid ← randomUUID
  match ← commitIntent call owner indexes (fun index => batch.entries[index]?) (attemptId uuid) with
  | (some owner, true) =>
    let batch ← present owner.batch
    port (.diagnostic .BATCH_COALESCED_REQUEST_STARTED)
    let startedAt ← dateNow
    let physical ← randomUUID
    let (results, physicalResult) ← requestGroup owner batch nextIndex group indexes quota
      (attemptId uuid) (units "physical-attempt-" ++ physical.value) startedAt
    let (_, stored) ← mutateOwner
      (.storeGroup nextIndex group (indexes.zip results) physicalResult)
    if stored then
      port (.diagnostic .BATCH_COALESCED_RESULTS_STORED)
      next
    else
      failWith .BATCH_COALESCED_RESULT_STORE_RACE
        "Coalesced provider result получен, но durable batch state изменился до atomic logical projection store. Автоматический повтор запрещён."
  | _ =>
    failWith .PROVIDER_ATTEMPT_INTENT_STORE_RACE
      "Provider dispatch intent was not durably committed; provider request suppressed."

/-- The group path from its grant on. -/
def dispatchGroup (call : Call) (owner : Owner) (batch : Batch) (nextIndex : Nat)
    (group : QueryGroup) (indexes : List Nat) (quota : Option Quota) :
    Program (Option ProcessResult) :=
  if call.hasBeforeProviderDispatch then do
    port .beforeProviderDispatch
    sendGroup call owner batch nextIndex group indexes quota
  else sendGroup call owner batch nextIndex group indexes quota

/-- The group path from its quota on. -/
def scheduleGroup (call : Call) (batch : Batch) (nextIndex : Nat) (query_group_id : JsString)
    (group : QueryGroup) (indexes : List Nat) : Program (Option ProcessResult) := do
  let members := indexes.map fun index => batch.entries[index]?
  let decision ← port (.prepareQuota (some group.physical_command))
  match decision.error with
  | some error => do
    let results ← collect (fun member => port (.groupError member group error 0 none)) members
    let (_, stored) ← mutateOwner (.storeGroupQuotaError nextIndex group (indexes.zip results))
    afterStore stored .PROVIDER_QUOTA_ERROR_STORE_RACE .PROVIDER_QUOTA_STATE_UNAVAILABLE
  | none =>
    if decision.required && !decision.allowed then
      quotaWaiting nextIndex decision.quota (some group.group_id)
    else do
      match ← mutateOwner (.grantGroup nextIndex query_group_id group indexes decision.quota) with
      | (some owner, true) =>
        let batch ← present owner.batch
        dispatchGroup call owner batch nextIndex group indexes decision.quota
      | _ => next

/-- The group path from its cache on. -/
def serveGroup (call : Call) (batch : Batch) (nextIndex : Nat) (query_group_id : JsString)
    (group : QueryGroup) (indexes : List Nat) : Program (Option ProcessResult) := do
  let members := indexes.map fun index => batch.entries[index]?
  let hit ← port (.readCache (some group.physical_command))
  if hit.hit then
    let results ← projectMembers group (virtualPhysicalResult call group hit) none members
    let (_, stored) ← mutateOwner (.storeGroupCache nextIndex group (indexes.zip results))
    afterStore stored .PROVIDER_CACHE_RESULT_STORE_RACE .PROVIDER_CACHE_HIT
  else scheduleGroup call batch nextIndex query_group_id group indexes

/-- The branch of the loop for the leader of a coalesced query group. -/
def atGroup (call : Call) (owner : Owner) (batch : Batch) (nextIndex : Nat) (entry : Entry)
    (query_group_id : JsString) : Program (Option ProcessResult) :=
  match (call.findGroup batch query_group_id).filter fun group =>
      group.leader_index = nextIndex && 2 ≤ group.member_indexes.length with
  | none =>
    failWith .BATCH_QUERY_PLAN_CORRUPT
      "Durable query plan не совпадает с текущим queue index; provider request запрещён."
  | some group =>
    let indexes := group.member_indexes
    if indexes = List.range' nextIndex indexes.length then
      let serve := serveGroup call batch nextIndex query_group_id group indexes
      if entry.status = .requesting ∧ entry.result_buffer.isSome then
        (recoverBufferedGroup owner batch nextIndex group).bind (afterRecovery serve)
      else serve
    else
      failWith .BATCH_QUERY_PLAN_NONCONTIGUOUS
        "Step 2 coalescing допускает только contiguous logical commands; provider request запрещён."

/-- The call of `execute` for one entry. -/
def executeEntry (owner : Owner) (nextIndex : Nat) (entry : Entry) (command : Option Command)
    (planning : JsValue) (quota : Option Quota) (id : JsString) :
    Program (Option QueueResult × Option ProviderResponse) := do
  let logicalExecutionId ← Prog.ofExcept (logicalId owner nextIndex)
  port (.execute
    { command_text := entry.command_text
      executionCommand := command
      planning := planning
      quotaPermit := quota
      providerAttemptId := id
      logicalExecutionId := logicalExecutionId
      indexes := [nextIndex]
      projectionKind := .single })

/-- The end of the single path's `try` block: a success of the coalesced operation is cached and
projected. -/
def projectSuccess (call : Call) (entry : Entry) (command : Option Command)
    (profile : Option AcquisitionProfile) (result : Option QueueResult) :
    Program (Option QueueResult) :=
  match result.filter (·.ok) with
  | none => return result
  | some success => do
    let physical ← present command
    if physical.operation = call.coalescedOperation then
      port (.storeCache command success profile)
      port (.projectSingle entry success profile)
    else return result

/-- The rest of the single path's `try` block, once `execute` answered. -/
def settleAnswer (call : Call) (nextIndex : Nat) (entry : Entry) (command : Option Command)
    (profile : Option AcquisitionProfile) (id : JsString) (result : Option QueueResult)
    (response : Option ProviderResponse) : Program (Option QueueResult) := do
  match response with
  | some r => receiveResponse [nextIndex] id r
  | none => pure ()
  projectSuccess call entry command profile result

/-- The `catch` block of the single path. -/
def explainError (entry : Entry) (planning : JsValue) (startedAt : Int) (error : JsError) :
    Program (Option QueueResult) := do
  let now ← dateNow
  match ← (port (.executionError entry.command entry.command_fingerprint error (now - startedAt)
      planning)).attempt with
  | .ok result => return result
  | .error reportError =>
    port (.failOwner
      (((reportError.code.filter (· ≠ "")).map Code.port).getD .BATCH_ERROR_REPORT_FAILED)
      reportError.message)
    .throw reportError

/-- The `try` statement of the single path. -/
def requestSingle (call : Call) (owner : Owner) (nextIndex : Nat) (entry : Entry)
    (command : Option Command) (planning : JsValue) (profile : Option AcquisitionProfile)
    (quota : Option Quota) (id : JsString) (startedAt : Int) : Program (Option QueueResult) := do
  let attempted : Program (Option QueueResult) := do
    let (result, response) ← executeEntry owner nextIndex entry command planning quota id
    settleAnswer call nextIndex entry command profile id result response
  match ← attempted.attempt with
  | .ok result => return result
  | .error error => explainError entry planning startedAt error

/-- The single path from its intent on. -/
def sendSingle (call : Call) (owner : Owner) (batch : Batch) (nextIndex : Nat)
    (command : Option Command) (planning : JsValue) (profile : Option AcquisitionProfile)
    (quota : Option Quota) : Program (Option ProcessResult) := do
  let uuid ← randomUUID
  match ← commitIntent call owner [nextIndex] (fun _ => batch.entries[nextIndex]?)
      (attemptId uuid) with
  | (some owner, true) =>
    let liveEntry ← present (owner.batch.bind fun batch => batch.entries[nextIndex]?)
    port (.diagnostic .BATCH_REQUEST_STARTED)
    let startedAt ← dateNow
    let result ← requestSingle call owner nextIndex liveEntry command planning profile quota
      (attemptId uuid) startedAt
    let (_, stored) ← mutateOwner (.storeSingle nextIndex result)
    if stored then
      port (.diagnostic .BATCH_RESULT_STORED)
      match (result.bind (·.stop_after_result)).filter (· ≠ "") with
      | some code =>
        failWith (.port code)
          "Результат сохранён; продолжение пакета остановлено."
      | none => next
    else
      failWith .BATCH_RESULT_STORE_RACE
        "provider result получен, но durable batch state изменился до сохранения. Автоматический повтор запрещён."
  | _ =>
    failWith .PROVIDER_ATTEMPT_INTENT_STORE_RACE
      "Provider dispatch intent was not durably committed; provider request suppressed."

/-- `storePreDispatchDenial`. -/
def storeDenial (nextIndex : Nat) (entry : Option Entry) (error : JsError) : Program Bool := do
  let pending ← present entry
  let result ← port (.executionError pending.command pending.command_fingerprint error 0 .null)
  let (_, stored) ← mutateOwner (.storePreDispatchDenial nextIndex result)
  return stored

/-- The single path from its grant on. -/
def dispatchSingle (call : Call) (owner : Owner) (batch : Batch) (nextIndex : Nat)
    (command : Option Command) (planning : JsValue) (profile : Option AcquisitionProfile)
    (quota : Option Quota) : Program (Option ProcessResult) := do
  let execute := sendSingle call owner batch nextIndex command planning profile quota
  if call.hasBeforeProviderDispatch then
    match ← (port .beforeProviderDispatch).attempt with
    | .ok _ => execute
    | .error error =>
      if error.external_request_executed = some false then
        if ← storeDenial nextIndex batch.entries[nextIndex]? error then next else .throw error
      else .throw error
  else execute

/-- The single path from its quota on. -/
def scheduleSingle (call : Call) (nextIndex : Nat) (entry : Entry) (command : Option Command)
    (planning : JsValue) (profile : Option AcquisitionProfile) :
    Program (Option ProcessResult) := do
  let decision ← port (.prepareQuota command)
  match decision.error with
  | some error => do
    let result ← port (.executionError entry.command entry.command_fingerprint error 0 planning)
    let (_, stored) ← mutateOwner (.storeSingleQuotaError nextIndex result)
    afterStore stored .PROVIDER_QUOTA_ERROR_STORE_RACE .PROVIDER_QUOTA_STATE_UNAVAILABLE
  | none =>
    if decision.required && !decision.allowed then quotaWaiting nextIndex decision.quota none
    else do
      match ← mutateOwner (.grantSingle nextIndex decision.quota) with
      | (some owner, true) =>
        let batch ← present owner.batch
        dispatchSingle call owner batch nextIndex command planning profile decision.quota
      | _ => next

/-- The branch of the loop for an entry that is requested on its own. -/
def atSingle (call : Call) (nextIndex : Nat) (entry : Entry) : Program (Option ProcessResult) := do
  let requested := entry.execution_command.or entry.command
  let hit ← port (.readCache requested)
  if hit.hit then
    let result ← port (.cachedResult entry hit)
    let (_, stored) ← mutateOwner (.storeSingleCache nextIndex result)
    afterStore stored .PROVIDER_CACHE_RESULT_STORE_RACE .PROVIDER_CACHE_HIT
  else
    let profile ← port (.reviewedAcquisitionProfile requested)
    let command := match profile.filter (·.applicable) with
      | some applicable => applicable.command
      | none => requested
    let planning ← port (.acquisitionPlanning entry.planning profile)
    scheduleSingle call nextIndex entry command planning profile

/-- The branches of the loop by the kind of the entry. -/
def atKind (call : Call) (owner : Owner) (batch : Batch) (nextIndex : Nat) (entry : Entry) :
    Program (Option ProcessResult) :=
  match entry.kind with
  | .guidance | .pre_execution_error => atGuidance nextIndex entry
  | .policy_error => atPolicyError nextIndex entry
  | .planning_error => atPlanningError nextIndex entry
  | .command =>
    match orNull entry.query_group_id with
    | some query_group_id => atGroup call owner batch nextIndex entry query_group_id
    | none => atSingle call nextIndex entry

/-- The loop's work at the next entry. -/
def atEntry (call : Call) (owner : Owner) (batch : Batch) (nextIndex : Nat) (entry : Entry) :
    Program (Option ProcessResult) :=
  if entry.status = .complete then do
    let _ ← mutateOwner (.skipComplete nextIndex)
    next
  else if entry.status = .requesting then
    if entry.result_buffer.isSome ∧ !truthy entry.query_group_id then
      (recoverBufferedSingle owner nextIndex entry).bind
        (afterRecovery (atRequesting call batch nextIndex))
    else atRequesting call batch nextIndex
  else atKind call owner batch nextIndex entry

/-- The result `process` makes of a port's result. -/
def PortResult.toResult (result : PortResult) : ProcessResult :=
  ⟨result.ok, .port result.code, result.status, result.next_allowed_at⟩

/-- One iteration of the loop of `process`. -/
def iteration (call : Call) : Program (Option ProcessResult) := do
  match ← getOwner with
  | none => finished false .BATCH_OWNER_NOT_ACTIVE
  | some owner =>
    if call.ownerMatches owner then
      match owner.batch.filter fun _ => call.isCollecting owner with
      | none => return some ⟨true, .BATCH_NOT_COLLECTING, owner.status, none⟩
      | some batch =>
        if batch.entries.length ≤ batch.next_index then
          let result ← port (.finalizeOwner owner batch.entries)
          return some result.toResult
        else
          match batch.entries[batch.next_index]? with
          | none =>
            failWith .BATCH_ENTRY_MISSING
              ("Batch entry " ++ toString batch.next_index ++ " отсутствует.")
          | some entry => atEntry call owner batch batch.next_index entry
    else finished false .BATCH_OWNER_NOT_ACTIVE

/-- Whether the record has an entry that is a command. -/
def hasCommands (owner : Option Owner) : Bool :=
  (owner.bind (·.batch)).any fun batch => batch.entries.any (·.kind = .command)

/-- One of the preparations: the program goes on when it is in order. -/
def prepare (preparation : Preparation) (failure : Code)
    (proceed : PortResult → Program (Option ProcessResult)) : Program (Option ProcessResult) := do
  match ← port (.prepare preparation) with
  | none => finished false failure
  | some prepared => if prepared.ok then proceed prepared else return some prepared.toResult

/-- What `process` does before its loop. -/
def preparations : Program (Option ProcessResult) := do
  port .normalizeKey
  let initialOwner ← getOwner
  if hasCommands initialOwner then
    prepare .policy .BATCH_POLICY_FAILED fun _ => do
      let afterPolicy ← getOwner
      if hasCommands afterPolicy then
        prepare .capability .BATCH_PLANNING_FAILED fun prepared =>
          if prepared.code = "CAPABILITY_PROBE_IN_PROGRESS" then
            finished true .CAPABILITY_PROBE_IN_PROGRESS
          else prepare .queries .BATCH_QUERY_PLANNING_FAILED fun _ => next
      else next
  else next

end SellerAgents.BatchQueue
