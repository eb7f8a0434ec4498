import SellerAgents.BatchQueue.System
import SellerAgents.Concurrent.Replay

open SellerAgents.Js SellerAgents.Execution Concurrent

namespace SellerAgents.BatchQueue

/-- A fixed answer of every port. -/
abbrev Ports : Type := (query : Port) → Except JsError query.Answer

/-- The UUID that replayed runs draw. -/
def replayUuid : Uuid :=
  ⟨units "00000000-0000-4000-8000-000000000000", by decide, by decide⟩

/-- What `mutateOwner` answers for a callback's write, and the record after it. -/
def Write.answer (current : Option Owner) :
    Write → Except JsError (Option Owner × Bool) × Option Owner
  | .keep => (.ok (current, false), current)
  | .store next => (.ok (some next, true), some next)
  | .raise error => (.error error, current)

theorem Write.answer_effect (write : Write) (current : Option Owner) :
    write.Effect current (write.answer current).1 (write.answer current).2 := by
  cases write <;> exact ⟨rfl, rfl⟩

/-- The answer of a command in a replayed run, and the record after it. -/
def replayAnswer (call : Call) (ports : Ports) (now : Int) :
    (command : Cmd) → Option Owner → command.Answer × Option Owner
  | .getOwner, current => (.ok current, current)
  | .mutateOwner callback, current => (callback.run call now current).answer current
  | .port query, current => (ports query, current)
  | .now, current => (now, current)
  | .randomUUID, current => (replayUuid, current)

/-- Replayed answers are possible answers. -/
theorem replayAnswer_effect (call : Call) (ports : Ports) (now : Int) (command : Cmd)
    (current : Option Owner) :
    Effect call command current (replayAnswer call ports now command current).1
      (replayAnswer call ports now command current).2 := by
  cases command with
  | getOwner => exact ⟨.inl rfl, rfl⟩
  | mutateOwner callback => exact .inl ⟨now, Write.answer_effect _ _⟩
  | port query => rfl
  | now => rfl
  | randomUUID => rfl

/-- A schedule of `process` calls replayed from a record. -/
def replayQueue {T : Type} [DecidableEq T] (calls : T → Call) (ports : T → Ports) (now : Int)
    (schedule : List T) (start : Option Owner) :
    Config T Cmd Cmd.Answer JsError ProcessResult (Option Owner) :=
  (queue calls).replay (fun t => replayAnswer (calls t) (ports t) now) schedule start

theorem replayQueue_reachable {T : Type} [DecidableEq T] (calls : T → Call) (ports : T → Ports)
    (now : Int) (schedule : List T) (start : Option Owner) :
    (queue calls).Reachable start (replayQueue calls ports now schedule start) :=
  System.replay_reachable (fun t c w => replayAnswer_effect (calls t) (ports t) now c w.state) _ _

/-- The result of a thread that returned. -/
def resultOf : Thread Cmd Cmd.Answer JsError ProcessResult → Option ProcessResult
  | .finished (.ok result) => some result
  | _ => none

/-- A command of the replayed batches. -/
def sampleCommand : Command := ⟨some (units "stocks"), .null⟩

/-- A pending command entry. -/
def sampleEntry : Entry where
  kind := .command
  status := .pending
  operation := some (units "stocks")
  command := some sampleCommand
  command_text := units "stocks"
  command_fingerprint := none
  execution_command := none
  planning := .null
  error := none
  guidance := .null
  query_group_id := none
  request_id := none
  physical_request_id := none
  http_status := none
  external_request_executed := none
  executed_command_fingerprint := none
  cache_hit := none
  report_text := none
  request_started_at := none
  request_completed_at := none
  provider_attempt_id := none
  provider_attempt := none
  provider_attempt_history := []
  result_buffer := none
  result_phase := none

/-- A batch at its start. -/
def sampleBatch (entries : List Entry) (groups : List QueryGroup) : Batch where
  entries := entries
  next_index := 0
  request_state := some .idle
  request_worker_session_id := none
  query_planning_state := some .complete
  query_groups := groups
  quota_wait := .null
  request_quota := .null

/-- An owner that collects a batch. -/
def sampleOwner (batch : Batch) : Owner where
  operation_id := some (units "operation")
  run_id := none
  status := some "collecting"
  execution_context := none
  payload_expires_at_ms := none
  last_operation := none
  last_error := none
  batch := some batch

/-- A group of the first two entries. -/
def sampleGroup : QueryGroup where
  group_id := units "group"
  leader_index := 0
  member_indexes := [0, 1]
  physical_command := sampleCommand
  physical_command_fingerprint := none
  physical_metrics := .null

/-- A pinned context. -/
def sampleContext : ExecutionContext where
  accountId := .str (units "account")
  storeId := .str (units "store")
  marketplace := .str (units "ozon")
  credentialRevision := .str (units "credential")
  conversationKey := .str (units "conversation")
  bindingId := .str (units "binding")
  bindingRevision := .num ⟨false, 2 ^ 52, -52, by decide⟩
  workSessionId := .str (units "session")
  policyRevision := .str (units "policy")
  commandHash := .str (units "hash")
  requestId := .str (units "request")
  authGeneration := none
  authority := none

/-- A record with a pinned context and a coalesced group of two entries. -/
def groupedOwner : Owner :=
  let member := { sampleEntry with query_group_id := some (units "group") }
  { sampleOwner (sampleBatch [member, member] [sampleGroup]) with
    execution_context := some sampleContext }

/-- A worker whose ports accept every owner. -/
def sampleCall (workerId : String) : Call where
  workerId := workerId
  ownerMatches _ := true
  isCollecting owner := owner.status = some "collecting"
  findGroup batch id := batch.query_groups.find? (·.group_id = id)
  quotaMetadata _ := .null
  hasBeforeProviderDispatch := false
  coalescedOperation := none
  providerId := units "ozon"
  bridgeErrorCode := "BRIDGE_ERROR"

/-- A provider success. -/
def sampleResult : QueueResult :=
  { QueueResult.empty with
    ok := true
    request_id := some (units "request")
    http_status := some Number.twoHundred
    external_request_executed := some true
    report_text := some (units "report") }

/-- Ports that serve every request with the same success. -/
def samplePorts : Ports
  | .normalizeKey => .ok ()
  | .prepare _ => .ok (some ⟨true, "READY", none, none⟩)
  | .failOwner _ _ => .ok ()
  | .finalizeOwner _ _ => .ok ⟨true, "COLLECTED", none, none⟩
  | .diagnostic _ => .ok ()
  | .guidanceResult _ => .ok sampleResult
  | .policyErrorResult _ _ => .ok (some sampleResult)
  | .planningErrorResult _ _ _ _ => .ok (some sampleResult)
  | .readCache _ => .ok ⟨false, none, .null, .null⟩
  | .projectGroup _ _ _ _ => .ok (some sampleResult)
  | .prepareQuota _ => .ok ⟨none, false, true, none⟩
  | .groupError _ _ _ _ _ => .ok (some sampleResult)
  | .persistQuotaWait _ _ _ => .ok ()
  | .beforeProviderDispatch => .ok ()
  | .execute _ => .ok (some sampleResult, none)
  | .groupPlanning _ _ _ _ => .ok .null
  | .storeCache _ _ _ => .ok ()
  | .cachedResult _ _ => .ok (some sampleResult)
  | .reviewedAcquisitionProfile _ => .ok none
  | .acquisitionPlanning _ _ => .ok .null
  | .executionError _ _ _ _ _ => .ok (some sampleResult)
  | .projectSingle _ _ _ => .ok (some sampleResult)

end SellerAgents.BatchQueue
