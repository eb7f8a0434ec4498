import SellerAgents.BatchQueue.Record

open SellerAgents.Js SellerAgents.Execution

namespace SellerAgents.BatchQueue

open ProviderOutcome (compactHistory markKnown markResponseReceived markUnknown defaultReason)

/-- What a `mutateOwner` callback does: return the record unchanged, return a new record, or throw.
-/
inductive Write where
  | keep
  | store (next : Owner)
  | raise (error : JsError)

/-- The error of reading a property of null or undefined. -/
def typeError : JsError := ⟨none, "Cannot read properties of null or undefined", none, false⟩

/-- The guard that every callback starts with: the owner is there, is the right one, still collects
and has a batch. -/
def whenLive (call : Call) (current : Option Owner) (write : Owner → Batch → Write) : Write :=
  match current with
  | none => .keep
  | some owner =>
    if call.ownerMatches owner = true ∧ call.isCollecting owner = true then
      match owner.batch with
      | none => .keep
      | some batch => write owner batch
    else .keep

/-- The guard of the callbacks that work at the next entry. -/
def whenNext (call : Call) (nextIndex : Nat) (current : Option Owner)
    (write : Owner → Batch → Entry → Write) : Write :=
  whenLive call current fun owner batch =>
    if batch.next_index = nextIndex then
      match batch.entries[nextIndex]? with
      | none => .keep
      | some entry => write owner batch entry
    else .keep

/-- The loop of a callback that updates some entries and gives up at the first one that is missing
or not as expected. -/
def updateEntries {α : Type} (update : α → Entry → Option Entry) :
    List (Nat × α) → List Entry → Option (List Entry)
  | [], entries => some entries
  | (index, item) :: rest, entries =>
    match entries[index]? with
    | none => none
    | some entry =>
      match update item entry with
      | none => none
      | some next => updateEntries update rest (entries.set index next)

/-- The loop of a callback that checks some entries before it updates any. -/
def checkEntries {α : Type} (check : α → Entry → Bool) (items : List (Nat × α))
    (entries : List Entry) : Bool :=
  items.all fun item => (entries[item.1]?).any (check item.2)

/-- The batch with new entries. -/
def withEntries (owner : Owner) (batch : Batch) (entries : List Entry) : Owner :=
  { owner with batch := some { batch with entries } }

/-- The batch with new entries, moved on to a later entry. -/
def advanced (owner : Owner) (batch : Batch) (entries : List Entry) (next : Nat) : Owner :=
  { owner with batch := some { batch with
      entries
      next_index := next
      request_state := some .idle
      request_worker_session_id := none } }

/-- The batch moved on with its quota data cleared. -/
def settled (owner : Owner) (batch : Batch) (entries : List Entry) (next : Nat) : Owner :=
  { owner with batch := some { batch with
      entries
      next_index := next
      request_state := some .idle
      request_worker_session_id := none
      quota_wait := .null
      request_quota := .null } }

/-- The index after a group. -/
def afterGroup (nextIndex : Nat) (indexes : List Nat) : Nat := indexes.getLast?.getD nextIndex + 1

/-- `bufferedProviderResult(entry)`. -/
def bufferedProviderResult (entry : Entry) : Option QueueResult :=
  (entry.result_buffer.bind (·.payload)).map fun payload =>
    { QueueResult.empty with
      ok := payload.ok
      request_id := payload.request_id
      operation := payload.operation
      http_status := some payload.http_status
      external_request_executed := some payload.external_request_executed
      executed_command_fingerprint := payload.executed_command_fingerprint
      report_text := payload.report_text
      result := payload.result }

/-- `setAttempt(entry, attempt)`. -/
def setAttempt (entry : Entry) (attempt : Option ProviderAttempt) (now : Int) : Entry :=
  match attempt with
  | none => entry
  | some record =>
    { entry with
      provider_attempt := some record
      provider_attempt_history := compactHistory
        (entry.provider_attempt_history.map fun row =>
          if row.provider_attempt_id = record.provider_attempt_id then record else row) now }

/-- The response that a local result stands for in `finalAttempt`. -/
def localResponse (result : QueueResult) : ProviderResponse where
  ok := false
  httpStatus := some (Number.orZero result.http_status)
  http_status := none
  external_request_executed := some false
  responseMeta := none
  response_meta := result.response_meta
  provider_request_id := none

/-- `finalAttempt(entry, result)`. -/
def finalAttempt (entry : Entry) (result : Option QueueResult) (now : Int) :
    Option ProviderAttempt :=
  entry.provider_attempt.map fun record =>
    match record.state with
    | .RESPONSE_RECEIVED => markKnown record (result.any (·.ok)) now
    | .DISPATCH_INTENT_COMMITTED =>
      match result.filter (·.external_request_executed = some false) with
      | some denied => markKnown
          (markResponseReceived record (localResponse denied) now) false now
      | none =>
        markUnknown record now "provider_call_or_response_not_durably_receipted"
    | _ => record

/-- The update of one entry in `commitAttemptIntent`. -/
def commitEntry (providerAttemptId : JsString) (now : Int) (attempt : ProviderAttempt)
    (entry : Entry) : Option Entry :=
  if entry.status = .requesting ∧
      entry.provider_attempt.map (·.state) ≠ some .DISPATCH_INTENT_COMMITTED then
    some { entry with
      provider_attempt_id := some providerAttemptId
      provider_attempt := some attempt
      provider_attempt_history :=
        compactHistory (entry.provider_attempt_history ++ [attempt]) now }
  else none

/-- The callback of `commitAttemptIntent`. -/
def commitAttemptIntent (call : Call) (providerAttemptId : JsString)
    (attempts : List (Nat × ProviderAttempt)) (now : Int) (current : Option Owner) : Write :=
  whenLive call current fun owner batch =>
    match updateEntries (commitEntry providerAttemptId now) attempts batch.entries with
    | none => .keep
    | some entries => .store (withEntries owner batch entries)

/-- The update of one entry in `recordResponse`. -/
def responseEntry (providerAttemptId : JsString) (response : ProviderResponse) (now : Int)
    (_ : Unit) (entry : Entry) : Option Entry :=
  match entry.provider_attempt with
  | none => none
  | some record =>
    if entry.provider_attempt_id = some providerAttemptId then
      some (setAttempt entry (markResponseReceived record response now) now)
    else none

/-- The callback of `recordResponse`. -/
def recordResponse (call : Call) (indexes : List Nat) (providerAttemptId : JsString)
    (response : ProviderResponse) (now : Int) (current : Option Owner) : Write :=
  whenLive call current fun owner batch =>
    match updateEntries (responseEntry providerAttemptId response now)
        (indexes.map fun index => (index, ())) batch.entries with
    | none => .keep
    | some entries => .store (withEntries owner batch entries)

/-- The response that `recordResultBuffer` derives from a provider result. -/
def bufferedResponse (result : QueueResult) : ProviderResponse where
  ok := result.ok
  httpStatus := some (Number.orZero result.http_status)
  http_status := none
  external_request_executed := some (result.external_request_executed ≠ some false)
  responseMeta := none
  response_meta := result.response_meta
  provider_request_id := none

/-- The attempt that `recordResultBuffer` leaves in an entry. -/
def bufferedAttempt (record : ProviderAttempt) (result : QueueResult) (now : Int) :
    ProviderAttempt :=
  if record.state = .DISPATCH_INTENT_COMMITTED then
    markResponseReceived record (bufferedResponse result) now
  else record

/-- Whether an attempt has a known response. -/
def hasKnownResponse : AttemptState → Bool
  | .RESPONSE_RECEIVED | .COMPLETED_KNOWN | .FAILED_KNOWN | .RETRY_WAIT_KNOWN => true
  | _ => false

/-- The context fields `recordResultBuffer` takes from an attempt. -/
def attemptContext (record : ProviderAttempt) : ContextSource where
  accountId := record.account
  conversationKey := record.conversation
  marketplace := record.marketplace
  storeId := record.store
  bindingId := record.binding
  bindingRevision := record.binding_revision
  workGeneration := record.work_generation
  workSessionId := none
  aiSurface := none
  aiProfile := none

/-- What `recordResultBuffer` hands to `createBuffer`. -/
def bufferInput (record : ProviderAttempt) (result : QueueResult) (kind : ProjectionKind)
    (expires_at_ms : Option Int) : BufferInput where
  ok := result.ok
  request_id := result.request_id
  operation := result.operation
  http_status := result.http_status
  external_request_executed := result.external_request_executed
  executed_command_fingerprint := result.executed_command_fingerprint
  report_text := result.report_text
  result := result.result
  result_buffer_id := result.result_buffer_id
  buffer_id := result.buffer_id
  created_at_ms := result.created_at_ms
  expires_at_ms := expires_at_ms
  logical_execution_id := record.logical_execution_id
  provider_attempt_id := record.provider_attempt_id
  execution_id := record.execution_id
  command_index := record.command_index
  projection_kind := kind
  context := attemptContext record

/-- The update of one entry in `recordResultBuffer`. -/
def bufferEntry (providerAttemptId : JsString) (result : QueueResult) (kind : ProjectionKind)
    (expires_at_ms : Option Int) (now : Int) (_ : Unit) (entry : Entry) : Option Entry :=
  match entry.provider_attempt with
  | none => none
  | some record =>
    let attempt := bufferedAttempt record result now
    if entry.provider_attempt_id = some providerAttemptId ∧ hasKnownResponse attempt.state then
      let buffer := ResultRecovery.createBuffer (bufferInput attempt result kind expires_at_ms) now
      some { setAttempt entry attempt now with
        result_buffer := some buffer
        result_phase := some buffer.phase }
    else none

/-- The callback of `recordResultBuffer`. -/
def recordResultBuffer (call : Call) (indexes : List Nat) (providerAttemptId : JsString)
    (result : QueueResult) (kind : ProjectionKind) (now : Int) (current : Option Owner) : Write :=
  whenLive call current fun owner batch =>
    match updateEntries (bufferEntry providerAttemptId result kind owner.payload_expires_at_ms now)
        (indexes.map fun index => (index, ())) batch.entries with
    | none => .keep
    | some entries => .store (withEntries owner batch entries)

/-- Whether an entry holds an attempt that may have reached the provider. -/
def isDispatching (entry : Entry) : Bool :=
  entry.provider_attempt.any (·.state = .DISPATCH_INTENT_COMMITTED)

/-- The entry as `markRequestingUnknown` leaves it. -/
def markEntry (now : Int) (entry : Entry) : Entry :=
  if isDispatching entry then
    setAttempt entry (entry.provider_attempt.map fun record =>
      markUnknown record now defaultReason) now
  else entry

/-- The callback of `markRequestingUnknown`. -/
def markRequestingUnknown (call : Call) (indexes : List Nat) (now : Int) (current : Option Owner) :
    Write :=
  whenLive call current fun owner batch =>
    if indexes.any fun index => (batch.entries[index]?).any isDispatching then
      .store (withEntries owner batch (indexes.foldl (fun entries index =>
        entries.modify index (markEntry now)) batch.entries))
    else .keep

/-- The callback that moves on from an entry that is complete already. -/
def skipComplete (call : Call) (nextIndex : Nat) (current : Option Owner) : Write :=
  whenLive call current fun owner batch =>
    if batch.next_index = nextIndex then
      .store { owner with batch := some { batch with next_index := nextIndex + 1 } }
    else .keep

/-- The entry `recoverBufferedSingle` completes. -/
def recoveredEntry (result : QueueResult) (now : Int) (live : Entry) (record : ProviderAttempt) :
    Entry :=
  { setAttempt live (markKnown record result.ok now) now with
    status := .complete
    request_id := orElse result.request_id (orNull live.request_id)
    http_status := some (Number.orZero result.http_status)
    external_request_executed := some (result.external_request_executed ≠ some false)
    executed_command_fingerprint := orNull result.executed_command_fingerprint
    report_text := some (result.report_text.getD [])
    request_completed_at := some now
    result_phase := some .MATERIALIZED }

/-- The callback of `recoverBufferedSingle`. -/
def recoverSingle (call : Call) (index : Nat) (providerAttemptId : Option JsString)
    (result : QueueResult) (now : Int) (current : Option Owner) : Write :=
  whenNext call index current fun owner batch live =>
    if live.status = .requesting ∧ live.provider_attempt_id = providerAttemptId then
      match live.provider_attempt with
      | none => .raise typeError
      | some record => .store (settled owner batch
          (batch.entries.set index (recoveredEntry result now live record)) (index + 1))
    else .keep

/-- The entry a group's result completes, in `recoverBufferedGroup` and at the end of the group
path. -/
def groupEntry (group : QueryGroup) (physicalResult : Option QueueResult) (now : Int)
    (result : QueueResult) (entry : Entry) : Entry :=
  { setAttempt entry (finalAttempt entry physicalResult now) now with
    status := .complete
    request_id := orNull result.request_id
    physical_request_id := orElse result.physical_request_id
      (orNull (physicalResult.bind (·.request_id)))
    http_status := some (Number.orZero result.http_status)
    external_request_executed := some (result.external_request_executed = some true)
    executed_command_fingerprint := orElse result.executed_command_fingerprint
      (orNull group.physical_command_fingerprint)
    report_text := some (result.report_text.getD [])
    request_completed_at := some now }

/-- Whether a group member still waits for the group's result. -/
def awaitsGroup (group : QueryGroup) (result : Option QueueResult) (entry : Entry) : Bool :=
  entry.status = .requesting && entry.query_group_id.getD [] = group.group_id && result.isSome

/-- The update of one member in the callbacks that store a group's results. -/
def completeMember (complete : QueueResult → Entry → Entry) (result : Option QueueResult)
    (entry : Entry) : Option Entry := result.map fun r => complete r entry

/-- The member `recoverBufferedGroup` completes. -/
def recoveredMember (group : QueryGroup) (physicalResult : QueueResult) (now : Int)
    (result : QueueResult) (entry : Entry) : Entry :=
  { groupEntry group (some physicalResult) now result entry with
    result_phase := some .MATERIALIZED }

/-- The callback of `recoverBufferedGroup`. -/
def recoverGroup (call : Call) (nextIndex : Nat) (group : QueryGroup)
    (items : List (Nat × Option QueueResult)) (physicalResult : QueueResult) (now : Int)
    (current : Option Owner) : Write :=
  whenLive call current fun owner batch =>
    if batch.next_index = nextIndex ∧ batch.request_state = some .requesting ∧
        checkEntries (awaitsGroup group) items batch.entries then
      match updateEntries (completeMember (recoveredMember group physicalResult now)) items
          batch.entries with
      | none => .keep
      | some entries => .store (settled owner batch entries (afterGroup nextIndex (items.map (·.1))))
    else .keep

/-- The entry a result completes without a provider request. -/
def localEntry (request_id report_text : Option JsString) (http_status : Number) (now : Int)
    (entry : Entry) : Entry :=
  { entry with
    status := .complete
    request_id := request_id
    http_status := some http_status
    external_request_executed := some false
    report_text := report_text
    request_completed_at := some now }

/-- The callback that stores a guidance, policy or planning result: they differ in the kind of entry
they expect. -/
def storeLocal (call : Call) (nextIndex : Nat) (expects : Entry → Bool) (result : Option QueueResult)
    (now : Int) (current : Option Owner) : Write :=
  whenNext call nextIndex current fun owner batch entry =>
    if entry.status = .pending ∧ expects entry then
      match result with
      | none => .raise typeError
      | some r => .store (advanced owner batch (batch.entries.set nextIndex
          (localEntry r.request_id r.report_text .zero now entry)) (nextIndex + 1))
    else .keep

/-- The callback that stores a guidance result. -/
def storeGuidance (call : Call) (nextIndex : Nat) (result : QueueResult) (now : Int)
    (current : Option Owner) : Write :=
  storeLocal call nextIndex (fun _ => true) (some result) now current

/-- The callback that stores a policy result. -/
def storePolicyError (call : Call) (nextIndex : Nat) (result : Option QueueResult) (now : Int)
    (current : Option Owner) : Write :=
  storeLocal call nextIndex (fun entry => entry.kind = .policy_error) result now current

/-- The callback that stores a planning result. -/
def storePlanningError (call : Call) (nextIndex : Nat) (result : Option QueueResult) (now : Int)
    (current : Option Owner) : Write :=
  storeLocal call nextIndex (fun entry => entry.kind = .planning_error) result now current

/-- The update of one member in the callbacks that store local results for a whole group. -/
def completePending (complete : QueueResult → Entry → Entry) (result : Option QueueResult)
    (entry : Entry) : Option Entry :=
  if entry.status = .pending then result.map fun r => complete r entry else none

/-- The member a cached group result completes. -/
def cachedMember (group : QueryGroup) (now : Int) (result : QueueResult) (entry : Entry) : Entry :=
  { localEntry (orNull result.request_id) (some (result.report_text.getD []))
      (Number.orZero result.http_status) now entry with
    physical_request_id := none
    executed_command_fingerprint := orNull group.physical_command_fingerprint
    cache_hit := some true }

/-- The member a group's quota error completes. -/
def refusedMember (group : QueryGroup) (now : Int) (result : QueueResult) (entry : Entry) : Entry :=
  { localEntry (orNull result.request_id) (some (result.report_text.getD [])) .zero now entry with
    physical_request_id := none
    executed_command_fingerprint := orNull group.physical_command_fingerprint }

/-- The callback that stores a cached result for a group. -/
def storeGroupCache (call : Call) (nextIndex : Nat) (group : QueryGroup)
    (items : List (Nat × Option QueueResult)) (now : Int) (current : Option Owner) : Write :=
  whenLive call current fun owner batch =>
    if batch.next_index = nextIndex ∧ batch.request_state ≠ some .requesting then
      match updateEntries (completePending (cachedMember group now)) items batch.entries with
      | none => .keep
      | some entries => .store (settled owner batch entries (afterGroup nextIndex (items.map (·.1))))
    else .keep

/-- The callback that stores a quota error for a group. -/
def storeGroupQuotaError (call : Call) (nextIndex : Nat) (group : QueryGroup)
    (items : List (Nat × Option QueueResult)) (now : Int) (current : Option Owner) : Write :=
  whenLive call current fun owner batch =>
    if batch.next_index = nextIndex then
      match updateEntries (completePending (refusedMember group now)) items batch.entries with
      | none => .keep
      | some entries => .store (settled owner batch entries (afterGroup nextIndex (items.map (·.1))))
    else .keep

/-- The batch a grant leaves behind. -/
def granted (call : Call) (owner : Owner) (batch : Batch) (entries : List Entry)
    (last_operation : Option JsString) (quota : Option Quota) : Owner :=
  { owner with
    last_operation := last_operation
    batch := some { batch with
      entries
      request_state := some .requesting
      request_worker_session_id := some call.workerId
      quota_wait := .null
      request_quota := call.quotaMetadata quota } }

/-- The entry a grant leaves behind. -/
def startedEntry (now : Int) (entry : Entry) : Entry :=
  { entry with status := .requesting, request_started_at := some now }

/-- Whether a group member still waits for its grant. -/
def awaitsGrant (group : QueryGroup) (entry : Entry) : Bool :=
  entry.kind = .command && entry.status = .pending && entry.query_group_id.getD [] = group.group_id

/-- The callback that grants a group request. -/
def grantGroup (call : Call) (nextIndex : Nat) (query_group_id : JsString) (group : QueryGroup)
    (indexes : List Nat) (quota : Option Quota) (now : Int) (current : Option Owner) : Write :=
  whenLive call current fun owner batch =>
    let items := indexes.map fun index => (index, ())
    if batch.next_index = nextIndex ∧ batch.query_planning_state = some .complete ∧
        batch.request_state ≠ some .requesting ∧
        (call.findGroup batch query_group_id).any (·.leader_index = nextIndex) ∧
        checkEntries (fun _ => awaitsGrant group) items batch.entries then
      match updateEntries (fun _ entry => some (startedEntry now entry)) items batch.entries with
      | none => .keep
      | some entries => .store (granted call owner batch entries call.coalescedOperation quota)
    else .keep

/-- The callback that stores a group's results. -/
def storeGroup (call : Call) (nextIndex : Nat) (group : QueryGroup)
    (items : List (Nat × Option QueueResult)) (physicalResult : Option QueueResult) (now : Int)
    (current : Option Owner) : Write :=
  whenLive call current fun owner batch =>
    if batch.next_index = nextIndex ∧ batch.request_state = some .requesting ∧
        batch.request_worker_session_id = some call.workerId ∧
        checkEntries (awaitsGroup group) items batch.entries then
      match updateEntries (completeMember (groupEntry group physicalResult now)) items
          batch.entries with
      | none => .keep
      | some entries =>
        .store { settled owner batch entries (afterGroup nextIndex (items.map (·.1))) with
          last_error := ((items.filterMap (·.2)).find? (·.bridge_error)).map fun failed =>
            { code := ((failed.error.bind (·.code)).filter (· ≠ "")).getD call.bridgeErrorCode
              message := ((failed.error.bind (·.message)).filter (· ≠ "")).getD
                "Coalesced bridge execution error converted to logical results."
              time := now
              recoverable := true } }
    else .keep

/-- The callback that stores a cached result for one entry. -/
def storeSingleCache (call : Call) (nextIndex : Nat) (result : Option QueueResult) (now : Int)
    (current : Option Owner) : Write :=
  whenNext call nextIndex current fun owner batch entry =>
    if batch.request_state ≠ some .requesting ∧ entry.status = .pending ∧ entry.kind = .command then
      match result with
      | none => .raise typeError
      | some r => .store (settled owner batch (batch.entries.set nextIndex
          { localEntry (orNull r.request_id) (some (r.report_text.getD []))
              (Number.orZero r.http_status) now entry with
            executed_command_fingerprint := orNull r.executed_command_fingerprint
            cache_hit := some true }) (nextIndex + 1))
    else .keep

/-- The callback that stores a quota error for one entry. -/
def storeSingleQuotaError (call : Call) (nextIndex : Nat) (result : Option QueueResult) (now : Int)
    (current : Option Owner) : Write :=
  whenNext call nextIndex current fun owner batch entry =>
    if entry.status = .pending then
      match result with
      | none => .raise typeError
      | some r => .store (settled owner batch (batch.entries.set nextIndex
          { localEntry (orNull r.request_id) (some (r.report_text.getD [])) .zero now entry with
            executed_command_fingerprint := none }) (nextIndex + 1))
    else .keep

/-- The callback that grants the request of one entry. -/
def grantSingle (call : Call) (nextIndex : Nat) (quota : Option Quota) (now : Int)
    (current : Option Owner) : Write :=
  whenNext call nextIndex current fun owner batch entry =>
    if entry.status = .pending ∧ entry.kind = .command then
      .store (granted call owner batch (batch.entries.set nextIndex (startedEntry now entry))
        (orNull entry.operation) quota)
    else .keep

/-- The callback of `storePreDispatchDenial`. -/
def storePreDispatchDenial (call : Call) (index : Nat) (result : Option QueueResult) (now : Int)
    (current : Option Owner) : Write :=
  whenNext call index current fun owner batch entry =>
    if batch.request_state = some .requesting ∧ entry.status = .requesting then
      match result with
      | none => .raise typeError
      | some r => .store (settled owner batch (batch.entries.set index
          (localEntry (orNull r.request_id) (some (r.report_text.getD []))
            (Number.orZero r.http_status) now entry)) (index + 1))
    else .keep

/-- Whether a result counts as an executed external request. -/
def countsAsExecuted (result : QueueResult) : Bool :=
  result.external_request_executed ≠ some false &&
    (result.external_request_executed = some true || !result.bridge_error)

/-- The entry the single path completes. -/
def singleEntry (result : QueueResult) (now : Int) (entry : Entry) : Entry :=
  { setAttempt entry (finalAttempt entry (some result) now) now with
    status := .complete
    request_id := orNull result.request_id
    http_status := some (Number.orZero result.http_status)
    external_request_executed := some (countsAsExecuted result)
    executed_command_fingerprint := orNull result.executed_command_fingerprint
    report_text := some (result.report_text.getD [])
    request_completed_at := some now }

/-- The callback that stores the result of one entry. -/
def storeSingle (call : Call) (nextIndex : Nat) (result : Option QueueResult) (now : Int)
    (current : Option Owner) : Write :=
  whenNext call nextIndex current fun owner batch entry =>
    if batch.request_state = some .requesting ∧
        batch.request_worker_session_id = some call.workerId ∧ entry.status = .requesting then
      match result with
      | none => .raise typeError
      | some r =>
        .store { settled owner batch (batch.entries.set nextIndex (singleEntry r now entry))
            (nextIndex + 1) with
          last_error := if r.bridge_error then
            some
              { code := ((r.error.bind (·.code)).filter (· ≠ "")).getD call.bridgeErrorCode
                message := ((r.error.bind (·.message)).filter (· ≠ "")).getD
                  "Bridge execution error converted to batch result."
                time := now
                recoverable := true }
            else none }
    else .keep

/-- The callbacks `process` hands to `mutateOwner`. -/
inductive Callback where
  | skipComplete (nextIndex : Nat)
  | recoverSingle (index : Nat) (providerAttemptId : Option JsString) (result : QueueResult)
  | recoverGroup (nextIndex : Nat) (group : QueryGroup) (items : List (Nat × Option QueueResult))
      (physicalResult : QueueResult)
  | markRequestingUnknown (indexes : List Nat)
  | storeGuidance (nextIndex : Nat) (result : QueueResult)
  | storePolicyError (nextIndex : Nat) (result : Option QueueResult)
  | storePlanningError (nextIndex : Nat) (result : Option QueueResult)
  | storeGroupCache (nextIndex : Nat) (group : QueryGroup)
      (items : List (Nat × Option QueueResult))
  | storeGroupQuotaError (nextIndex : Nat) (group : QueryGroup)
      (items : List (Nat × Option QueueResult))
  | grantGroup (nextIndex : Nat) (query_group_id : JsString) (group : QueryGroup)
      (indexes : List Nat) (quota : Option Quota)
  | storeGroup (nextIndex : Nat) (group : QueryGroup) (items : List (Nat × Option QueueResult))
      (physicalResult : Option QueueResult)
  | storeSingleCache (nextIndex : Nat) (result : Option QueueResult)
  | storeSingleQuotaError (nextIndex : Nat) (result : Option QueueResult)
  | grantSingle (nextIndex : Nat) (quota : Option Quota)
  | storePreDispatchDenial (index : Nat) (result : Option QueueResult)
  | commitAttemptIntent (providerAttemptId : JsString) (attempts : List (Nat × ProviderAttempt))
  | recordResponse (indexes : List Nat) (providerAttemptId : JsString) (response : ProviderResponse)
  | storeSingle (nextIndex : Nat) (result : Option QueueResult)

/-- A callback applied to the record at a time. -/
def Callback.run (call : Call) (now : Int) : Callback → Option Owner → Write
  | .skipComplete nextIndex => BatchQueue.skipComplete call nextIndex
  | .recoverSingle index id result => BatchQueue.recoverSingle call index id result now
  | .recoverGroup nextIndex group items result =>
    BatchQueue.recoverGroup call nextIndex group items result now
  | .markRequestingUnknown indexes => BatchQueue.markRequestingUnknown call indexes now
  | .storeGuidance nextIndex result => BatchQueue.storeGuidance call nextIndex result now
  | .storePolicyError nextIndex result => BatchQueue.storePolicyError call nextIndex result now
  | .storePlanningError nextIndex result => BatchQueue.storePlanningError call nextIndex result now
  | .storeGroupCache nextIndex group items =>
    BatchQueue.storeGroupCache call nextIndex group items now
  | .storeGroupQuotaError nextIndex group items =>
    BatchQueue.storeGroupQuotaError call nextIndex group items now
  | .grantGroup nextIndex id group indexes quota =>
    BatchQueue.grantGroup call nextIndex id group indexes quota now
  | .storeGroup nextIndex group items result =>
    BatchQueue.storeGroup call nextIndex group items result now
  | .storeSingleCache nextIndex result => BatchQueue.storeSingleCache call nextIndex result now
  | .storeSingleQuotaError nextIndex result =>
    BatchQueue.storeSingleQuotaError call nextIndex result now
  | .grantSingle nextIndex quota => BatchQueue.grantSingle call nextIndex quota now
  | .storePreDispatchDenial index result => BatchQueue.storePreDispatchDenial call index result now
  | .commitAttemptIntent id attempts => BatchQueue.commitAttemptIntent call id attempts now
  | .recordResponse indexes id response =>
    BatchQueue.recordResponse call indexes id response now
  | .storeSingle nextIndex result => BatchQueue.storeSingle call nextIndex result now

end SellerAgents.BatchQueue
