import SellerAgents.BatchQueue.Outline
import SellerAgents.BatchQueue.Replay
import SellerAgents.BatchQueue.Solo

open SellerAgents.Js SellerAgents.Execution Concurrent

namespace SellerAgents.BatchQueue

/-- Callers compare the ids, the pinned context and the status of an owner and ask whether it has a
batch: what the batch holds does not change their answer. -/
def Call.Steady (call : Call) : Prop :=
  ∀ owner owner' : Owner, owner'.operation_id = owner.operation_id → owner'.run_id = owner.run_id →
    owner'.execution_context = owner.execution_context → owner'.status = owner.status →
    owner'.batch.isSome = owner.batch.isSome →
    call.ownerMatches owner' = call.ownerMatches owner ∧
      call.isCollecting owner' = call.isCollecting owner

/-- A run in which `beforeProviderDispatch` threw an error that says nothing was sent, and the
storage and the error report worked. -/
structure Refused (trace : Trace) (error : JsError) : Prop where
  called : ∃ answer, ⟨.port .beforeProviderDispatch, answer⟩ ∈ trace
  thrown : ∀ answer, ⟨.port .beforeProviderDispatch, answer⟩ ∈ trace → answer = .error error
  unsent : error.external_request_executed = some false
  written : ∀ callback answer, ⟨.mutateOwner callback, answer⟩ ∈ trace →
    ∃ stored, answer = .ok stored
  explained : ∀ command fingerprint elapsed planning answer,
    ⟨.port (.executionError command fingerprint error elapsed planning), answer⟩ ∈ trace →
      ∃ result, answer = .ok (some result)

/-- An entry was granted in a run. -/
def GrantedIn (trace : Trace) (index : Nat) : Prop :=
  ∃ callback record, ⟨.mutateOwner callback, .ok (record, true)⟩ ∈ trace ∧ index ∈ callback.grants

/-- The refusal is the completed local result of every granted entry, and the loop goes on. -/
structure RefusalStored (trace : Trace) (error : JsError)
    (outcome : Except JsError (Option ProcessResult)) (record : Option Owner) : Prop where
  continues : outcome = .ok none
  stored : ∃ batch, batchOf record = some batch ∧ batch.request_state = some .idle ∧
    ∀ i, GrantedIn trace i → ∃ entry command fingerprint elapsed planning result,
      batch.entries[i]? = some entry ∧
      ⟨.port (.executionError command fingerprint error elapsed planning), .ok (some result)⟩ ∈
        trace ∧
      entry.status = .complete ∧ entry.request_id = orNull result.request_id ∧
      entry.report_text = some (result.report_text.getD []) ∧
      entry.http_status = some (Number.orZero result.http_status) ∧
      entry.external_request_executed = some false

/-- A command other than the last check before a dispatch. -/
def Cmd.Unchecked : Cmd → Prop
  | .port .beforeProviderDispatch => False
  | _ => True

variable {call : Call} {s s' : Option Owner} {trace : Trace} {error : JsError}

variable {batch : Batch} {entry : Entry} {outcome : Except JsError (Option ProcessResult)}
  {id : JsString} {nextIndex : Nat} {quota : Option Quota} {owner : Owner}

/-- Both callers of `processBatchQueue` are steady: `processAutoBatch` compares run ids and
`processManualBatch` operation ids. -/
theorem Call.steady_of_caller {status : String}
    (hmatches : (∀ owner, call.ownerMatches owner = decide (owner.run_id = some id)) ∨
      ∀ owner, call.ownerMatches owner = decide (owner.operation_id = some id))
    (hcollecting : ∀ owner,
      call.isCollecting owner = (decide (owner.status = some status) && owner.batch.isSome)) :
    call.Steady := by
  intro owner owner' hoperation hrun _ hstatus hbatch
  constructor
  · rcases hmatches with h | h
    · rw [h, h, hrun]
    · rw [h, h, hoperation]
  · rw [hcollecting, hcollecting, hstatus, hbatch]

/-- A refused run is still refused after a command that is not the check. -/
theorem Refused.tail {command : Cmd} {answer : command.Answer} {rest : Trace}
    (h : Refused (⟨command, answer⟩ :: rest) error) (hcommand : command.Unchecked) :
    Refused rest error where
  called := by
    obtain ⟨thrown, hmem⟩ := h.called
    rcases List.mem_cons.mp hmem with heq | hmem
    · cases heq
      exact absurd hcommand id
    · exact ⟨thrown, hmem⟩
  thrown answer hmem := h.thrown answer (List.mem_cons_of_mem _ hmem)
  unsent := h.unsent
  written callback answer hmem := h.written callback answer (List.mem_cons_of_mem _ hmem)
  explained command fingerprint elapsed planning answer hmem :=
    h.explained command fingerprint elapsed planning answer (List.mem_cons_of_mem _ hmem)

/-- A program of such commands. -/
abbrev Unchecked {α : Type} (program : Program α) : Prop :=
  program.Only Cmd.Unchecked fun _ => True

/-- A run of unchecked commands is not refused. -/
theorem Refused.not_unchecked {α : Type} {program : Program α} {outcome : Except JsError α}
    (h : Refused trace error) (hrun : Solo call program s trace outcome s') :
    ¬ Unchecked program := by
  intro honly
  obtain ⟨answer, hmem⟩ := h.called
  exact (Prog.runs_only hrun honly).1 _ hmem

theorem unchecked_failWith {code : Code} {message : String} :
    Unchecked (failWith code message) :=
  Prog.only_bind (only_port trivial fun _ => trivial)

theorem unchecked_afterStore {stored : Bool} {race : Code} {name : DiagnosticName} :
    Unchecked (afterStore stored race name) := by
  cases stored with
  | true => exact Prog.only_bind (only_port trivial fun _ => trivial)
  | false => trivial

theorem unchecked_quotaWaiting {groupId : Option JsString} :
    Unchecked (quotaWaiting nextIndex quota groupId) :=
  Prog.only_bind (only_port trivial fun _ => trivial)

/-- The store of a local result and what follows it. -/
theorem unchecked_store {callback : Callback} {race : Code} {name : DiagnosticName} :
    Unchecked ((mutateOwner callback).bind fun answer => afterStore answer.2 race name) :=
  Prog.only_bind (only_mutateOwner trivial fun _ => unchecked_afterStore)

section

variable (hchecks : call.hasBeforeProviderDispatch = true) (h : Refused trace error)
include hchecks h

/-- A group's refusal leaves the loop as an exception. -/
theorem dispatchGroup_refused {group : QueryGroup} {indexes : List Nat}
    (hrun : Solo call (dispatchGroup call owner batch nextIndex group indexes quota) s trace outcome
      s') : outcome = .error error ∧ s' = s := by
  rw [dispatchGroup, if_pos hchecks] at hrun
  rcases Solo.port_bind hrun with ⟨thrown, rfl, rfl, rfl⟩ | ⟨value, rest, rfl, _⟩
  · have hthrown := h.thrown _ List.mem_cons_self
    cases hthrown
    exact ⟨rfl, rfl⟩
  · cases h.thrown _ List.mem_cons_self

theorem scheduleGroup_refused {group : QueryGroup} {indexes : List Nat}
    (hrun : Solo call (scheduleGroup call batch nextIndex id group indexes) s trace outcome s') :
    ∃ thrown, outcome = .error thrown := by
  rcases Solo.port_bind hrun with ⟨thrown, rfl, _⟩ | ⟨decision, rest, rfl, hdecided⟩
  · exact ⟨thrown, rfl⟩
  have hrest := h.tail trivial
  cases hquota : decision.error with
  | some quotaError =>
    simp only [hquota] at hdecided
    refine absurd ?_ (hrest.not_unchecked hdecided)
    exact Prog.only_bind (Prog.only_mono (only_collect fun member => only_port trivial fun _ => trivial)
      fun _ _ => unchecked_store)
  | none =>
    simp only [hquota] at hdecided
    split at hdecided
    · exact absurd unchecked_quotaWaiting (hrest.not_unchecked hdecided)
    · rcases Solo.mutateOwner_bind hdecided with ⟨thrown, rfl, _⟩ | ⟨answer, s₁, rest, rfl, _, hgranted⟩
      · exact ⟨thrown, rfl⟩
      have hlater := hrest.tail trivial
      obtain ⟨record, stored⟩ := answer
      have hstopped : Solo call next s₁ rest outcome s' → ∃ thrown, outcome = .error thrown :=
        fun hnext => absurd (show Unchecked next from trivial) (hlater.not_unchecked hnext)
      cases record with
      | none => exact hstopped hgranted
      | some owner =>
        cases stored with
        | false => exact hstopped hgranted
        | true =>
          cases hbatch : owner.batch with
          | none =>
            simp only [hbatch, present] at hgranted
            exact ⟨_, (Prog.runs_throw_iff.mp hgranted).2.1⟩
          | some batch =>
            simp only [hbatch, present] at hgranted
            exact ⟨error, (dispatchGroup_refused hchecks hlater hgranted).1⟩

theorem atGroup_refused (hpending : entry.status = .pending)
    (hrun : Solo call (atGroup call owner batch nextIndex entry id) s trace outcome s') :
    ∃ thrown, outcome = .error thrown := by
  unfold atGroup at hrun
  split at hrun
  · exact absurd unchecked_failWith (h.not_unchecked hrun)
  · rename_i group _
    simp only [hpending, reduceCtorEq, false_and, if_false] at hrun
    split at hrun
    · rcases Solo.port_bind hrun with ⟨thrown, rfl, _⟩ | ⟨hit, rest, rfl, hserved⟩
      · exact ⟨thrown, rfl⟩
      have hrest := h.tail trivial
      split at hserved
      · refine absurd ?_ (hrest.not_unchecked hserved)
        exact Prog.only_bind (Prog.only_mono
          (only_collect fun member => only_port trivial fun _ => trivial) fun _ _ => unchecked_store)
      · exact scheduleGroup_refused hchecks hrest hserved
    · exact absurd unchecked_failWith (h.not_unchecked hrun)

end

/-- The record after a refusal was stored. -/
def denied (owner : Owner) (batch : Batch) (index : Nat) (entry : Entry) (result : QueueResult)
    (now : Int) : Owner :=
  settled owner batch (batch.entries.set index (localEntry (orNull result.request_id)
    (some (result.report_text.getD [])) (Number.orZero result.http_status) now entry)) (index + 1)

/-- The denial of the granted entry is stored, whenever the callback runs. -/
theorem storePreDispatchDenial_run {result : QueueResult} {now : Int}
    (hat : AtNext call owner batch entry) (hstatus : entry.status = .requesting)
    (hstate : batch.request_state = some .requesting) :
    storePreDispatchDenial call batch.next_index (some result) now (some owner) =
      .store (denied owner batch batch.next_index entry result now) := by
  simp [storePreDispatchDenial, whenNext, whenLive, hat.live, hat.collecting, hat.has_batch,
    hat.has_entry, hstatus, hstate, denied]

/-- The single path stores the refusal of a granted entry and goes on. -/
theorem dispatchSingle_refused {command : Option Command} {planning : JsValue}
    {profile : Option AcquisitionProfile} (hchecks : call.hasBeforeProviderDispatch = true)
    (h : Refused trace error) (hat : AtNext call owner batch entry)
    (hstatus : entry.status = .requesting) (hstate : batch.request_state = some .requesting)
    (hnext : batch.next_index = nextIndex)
    (hrun : Solo call (dispatchSingle call owner batch nextIndex command planning profile quota)
      (some owner) trace outcome s') :
    outcome = .ok none ∧ ∃ result now record,
      s' = some (denied owner batch nextIndex entry result now) ∧
      trace = [⟨.port .beforeProviderDispatch, .error error⟩,
        ⟨.port (.executionError entry.command entry.command_fingerprint error 0 .null),
          .ok (some result)⟩,
        ⟨.mutateOwner (.storePreDispatchDenial nextIndex (some result)), .ok (record, true)⟩] := by
  subst hnext
  simp only [dispatchSingle, hchecks, if_true, Prog.bind_eq] at hrun
  rcases Prog.runs_bind_iff.mp hrun with ⟨_, hattempt, _⟩ | ⟨checked, s₁, first, rest, hattempt, hrest, rfl⟩
  · obtain ⟨_, hinner, _⟩ := Prog.runs_attempt_iff.mp hattempt
    cases hinner
  obtain ⟨inner, hinner, hport⟩ := Prog.runs_attempt_iff.mp hattempt
  cases hinner
  obtain ⟨answer, s₂, last, heffect, hanswer, rfl⟩ := Prog.runs_act_iff.mp hport
  have hs : s₂ = some owner := heffect
  subst hs
  cases h.thrown answer List.mem_cons_self
  obtain ⟨rfl, hchecked, rfl⟩ := Prog.runs_throw_iff.mp hanswer
  cases hchecked
  simp only [h.unsent, if_true, storeDenial, hat.has_entry, present, Prog.ret_bind, Prog.bind_eq,
    Prog.bind_assoc] at hrest
  rcases Solo.port_bind hrest with ⟨failed, _, _, rfl⟩ | ⟨explained, rest, rfl, hstored⟩
  · obtain ⟨_, hresult⟩ := h.explained _ _ _ _ _ (List.mem_append_right _ List.mem_cons_self)
    cases hresult
  obtain ⟨result, hresult⟩ := h.explained _ _ _ _ _ (List.mem_append_right _ List.mem_cons_self)
  cases hresult
  rcases Solo.mutateOwner_bind hstored with ⟨failed, _, _, rfl⟩ | ⟨answer, s₃, rest, rfl, heffect, hlast⟩
  · obtain ⟨_, hstored⟩ := h.written _ _
      (List.mem_append_right _ (List.mem_cons_of_mem _ List.mem_cons_self))
    cases hstored
  rcases heffect with ⟨now, hwrite⟩ | ⟨⟨failed, hfailed⟩, _⟩
  · simp only [Callback.run, storePreDispatchDenial_run hat hstatus hstate] at hwrite
    obtain ⟨hanswer, rfl⟩ := hwrite
    cases hanswer
    obtain ⟨rfl, rfl, rfl⟩ := Prog.runs_ret_iff.mp hlast
    exact ⟨rfl, result, now, _, rfl, rfl⟩
  · cases hfailed

/-- Commands that do not write the record grant nothing. -/
theorem RefusalStored.cons {command : Cmd} {answer : command.Answer} {rest : Trace}
    (h : RefusalStored rest error outcome s')
    (hcommand : ∀ callback, command ≠ .mutateOwner callback) :
    RefusalStored (⟨command, answer⟩ :: rest) error outcome s' where
  continues := h.continues
  stored := by
    obtain ⟨batch, hbatch, hidle, hentries⟩ := h.stored
    refine ⟨batch, hbatch, hidle, fun i hi => ?_⟩
    obtain ⟨callback, record, hmem, hgrants⟩ := hi
    rcases List.mem_cons.mp hmem with heq | hmem
    · cases heq
      exact absurd rfl (hcommand callback)
    obtain ⟨entry, name, fingerprint, elapsed, planning, result, hentry, hexplained, hresult⟩ :=
      hentries i ⟨callback, record, hmem, hgrants⟩
    exact ⟨entry, name, fingerprint, elapsed, planning, result, hentry,
      List.mem_cons_of_mem _ hexplained, hresult⟩

/-- A steady caller still finds the entry at the granted record. -/
theorem AtNext.granted (hat : AtNext call owner batch entry) (hsteady : call.Steady)
    (operation : Option JsString) (quota : Option Quota) (now : Int) :
    ∃ batch', (granted call owner batch (batch.entries.set batch.next_index (startedEntry now entry))
        operation quota).batch = some batch' ∧ batch'.next_index = batch.next_index ∧
      batch'.request_state = some .requesting ∧
      AtNext call (BatchQueue.granted call owner batch
        (batch.entries.set batch.next_index (startedEntry now entry)) operation quota) batch'
        (startedEntry now entry) := by
  obtain ⟨hlive, hcollecting⟩ := hsteady owner (BatchQueue.granted call owner batch
    (batch.entries.set batch.next_index (startedEntry now entry)) operation quota) rfl rfl rfl rfl
    (by rw [hat.has_batch]; rfl)
  refine ⟨_, rfl, rfl, rfl, hlive.trans hat.live, hcollecting.trans hat.collecting, rfl, ?_⟩
  have hlt := (List.getElem?_eq_some_iff.mp hat.has_entry).1
  exact List.getElem?_set_self hlt

section

variable (hsteady : call.Steady) (hchecks : call.hasBeforeProviderDispatch = true)
include hsteady hchecks

/-- The single path from its quota on stores a refusal. -/
theorem scheduleSingle_refused {command : Option Command} {planning : JsValue}
    {profile : Option AcquisitionProfile} (h : Refused trace error)
    (hat : AtNext call owner batch entry)
    (hrun : Solo call (scheduleSingle call batch.next_index entry command planning profile)
      (some owner) trace outcome s') : RefusalStored trace error outcome s' := by
  rcases Solo.port_bind hrun with ⟨thrown, rfl, _, rfl⟩ | ⟨decision, rest, rfl, hdecided⟩
  · obtain ⟨answer, hmem⟩ := h.called
    cases List.mem_singleton.mp hmem
  have hrest := h.tail trivial
  refine RefusalStored.cons ?_ (by simp)
  cases hquota : decision.error with
  | some quotaError =>
    simp only [hquota] at hdecided
    refine absurd ?_ (hrest.not_unchecked hdecided)
    exact Prog.only_bind (only_port trivial fun _ => unchecked_store)
  | none =>
    simp only [hquota] at hdecided
    split at hdecided
    · exact absurd unchecked_quotaWaiting (hrest.not_unchecked hdecided)
    rcases Solo.mutateOwner_bind hdecided with ⟨thrown, rfl, _, rfl⟩ |
      ⟨⟨record, stored⟩, s₁, rest, rfl, heffect, hgranted⟩
    · obtain ⟨answer, hmem⟩ := h.called
      simp at hmem
    have hlater := hrest.tail trivial
    cases stored with
    | false =>
      have hstopped : Solo call next s₁ rest outcome s' := by
        cases record <;> exact hgranted
      exact absurd (show Unchecked next from trivial) (hlater.not_unchecked hstopped)
    | true =>
      obtain ⟨now, owner', hwrite, rfl, rfl⟩ := effect_stored heffect
      rw [Callback.run, grantSingle] at hwrite
      obtain ⟨_, _, pending, howner, hbatch, _, _, _, hpending, hstore⟩ := whenNext_store.mp hwrite
      cases howner
      rw [hat.has_batch, Option.some.injEq] at hbatch
      subst hbatch
      rw [hat.has_entry, Option.some.injEq] at hpending
      subst hpending
      split at hstore
      · simp only [Write.store.injEq] at hstore
        subst hstore
        obtain ⟨batch', hbatch', hnext, hstate, hat'⟩ :=
          hat.granted hsteady (orNull entry.operation) decision.quota now
        simp only [hbatch', present, Prog.ret_bind, Prog.bind_eq] at hgranted
        obtain ⟨rfl, result, finished, record, rfl, rfl⟩ :=
          dispatchSingle_refused hchecks hlater hat' rfl hstate hnext hgranted
        refine ⟨rfl, _, rfl, rfl, fun i hi => ?_⟩
        obtain ⟨callback, record, hmem, hgrants⟩ := hi
        simp only [List.mem_cons, List.not_mem_nil, or_false] at hmem
        rcases hmem with heq | heq | heq | heq
        · cases heq
          rw [Callback.grants, List.mem_singleton] at hgrants
          subst hgrants
          have hlt := (List.getElem?_eq_some_iff.mp hat'.has_entry).1
          rw [hnext] at hlt
          exact ⟨_, _, _, _, _, result, List.getElem?_set_self hlt, List.mem_cons_of_mem _
            (List.mem_cons_of_mem _ List.mem_cons_self), rfl, rfl, rfl, rfl, rfl⟩
        · cases heq
        · cases heq
        · cases heq
          cases hgrants
      · cases hstore

/-- The single path stores a refusal. -/
theorem atSingle_refused (h : Refused trace error) (hat : AtNext call owner batch entry)
    (hrun : Solo call (atSingle call batch.next_index entry) (some owner) trace outcome s') :
    RefusalStored trace error outcome s' := by
  have hended : ∀ {query : Port} {thrown : JsError},
      Refused [⟨.port query, .error thrown⟩] error → (Cmd.port query).Unchecked → False := by
    intro query thrown hrefused hquery
    obtain ⟨_, hmem⟩ := (hrefused.tail hquery).called
    cases hmem
  rcases Solo.port_bind hrun with ⟨thrown, rfl, _, rfl⟩ | ⟨hit, rest, rfl, hserved⟩
  · exact (hended h trivial).elim
  have hrest := h.tail trivial
  refine RefusalStored.cons ?_ (by simp)
  split at hserved
  · refine absurd ?_ (hrest.not_unchecked hserved)
    exact Prog.only_bind (only_port trivial fun _ => unchecked_store)
  · rcases Solo.port_bind hserved with ⟨thrown, rfl, _, rfl⟩ | ⟨profile, rest, rfl, hplanned⟩
    · exact (hended hrest trivial).elim
    refine RefusalStored.cons ?_ (by simp)
    rcases Solo.port_bind hplanned with ⟨thrown, rfl, _, rfl⟩ | ⟨planning, rest, rfl, hscheduled⟩
    · exact (hended (hrest.tail trivial) trivial).elim
    refine RefusalStored.cons ?_ (by simp)
    exact scheduleSingle_refused hsteady hchecks ((hrest.tail trivial).tail trivial) hat hscheduled

/-- A refusal before dispatch becomes the local result of the granted entries exactly when the next
entry is requested on its own: the group path does not catch it. -/
theorem refusal_stored_iff {owner : Owner} {batch : Batch} {entry : Entry}
    {outcome : Except JsError (Option ProcessResult)} (hat : AtNext call owner batch entry)
    (hpending : entry.status = .pending) (hkind : entry.kind = .command)
    (hrun : Solo call (iteration call) (some owner) trace outcome s') (h : Refused trace error) :
    RefusalStored trace error outcome s' ↔ orNull entry.query_group_id = none := by
  rcases Solo.iteration hat hrun with ⟨thrown, rfl, _, rfl⟩ | ⟨rest, rfl, hentry⟩
  · obtain ⟨_, hmem⟩ := h.called
    cases List.mem_singleton.mp hmem
  have hrest := h.tail trivial
  simp only [atEntry, hpending, reduceCtorEq, if_false, atKind, hkind] at hentry
  cases hgroup : orNull entry.query_group_id with
  | none =>
    simp only [hgroup] at hentry
    have hstored := atSingle_refused hsteady hchecks hrest hat hentry
    exact ⟨fun _ => rfl, fun _ => hstored.cons (by simp)⟩
  | some id =>
    simp only [hgroup] at hentry
    obtain ⟨thrown, rfl⟩ := atGroup_refused hchecks hrest hpending hentry
    constructor
    · intro hstored
      cases hstored.continues
    · intro hnone
      cases hnone

end

/-- A refusal of the last check before a dispatch. -/
def sampleRefusal : JsError := Context.error "COMMAND_OUTCOME_UNKNOWN_EXPLICIT_RETRY_REQUIRED"

/-- Ports that refuse every dispatch. -/
def refusingPorts : Ports
  | .beforeProviderDispatch => .error sampleRefusal
  | query => samplePorts query

/-- An owner with one pending entry. -/
def singleOwner : Owner := sampleOwner (sampleBatch [sampleEntry] [])

/-- A worker with such a check. Like the callers of `processBatchQueue` it looks for the owner's id,
its status and a batch. -/
def refusingCall : Call :=
  { sampleCall "first" with
    ownerMatches := fun owner => owner.operation_id = some (units "operation")
    isCollecting := fun owner => owner.status = some "collecting" && owner.batch.isSome
    hasBeforeProviderDispatch := true }

/-- The commands of its first iteration. -/
def refusedTrace (start : Owner) : Trace :=
  (iteration refusingCall).trace (replayAnswer refusingCall refusingPorts 1000) (some start)

/-- The outcome of that iteration and the record after it. -/
def refusedRun (start : Owner) : Except JsError (Option ProcessResult) × Option Owner :=
  (iteration refusingCall).run (replayAnswer refusingCall refusingPorts 1000) (some start)

theorem refusedRun_solo (start : Owner) : Solo refusingCall (iteration refusingCall) (some start)
    (refusedTrace start) (refusedRun start).1 (refusedRun start).2 :=
  Prog.run_runs (replayAnswer_effect refusingCall refusingPorts 1000) _ _

theorem refusingCall_steady : refusingCall.Steady :=
  Call.steady_of_caller (.inr fun _ => rfl) fun _ => rfl

theorem refusedTrace_single : Refused (refusedTrace singleOwner) sampleRefusal := by
  have htrace : ∃ r₀ c₀ h c₁ o c₂ o₂ v c₃ d q r₁ c₄ f e n p result w r₂,
      refusedTrace singleOwner =
        [⟨.getOwner, .ok r₀⟩, ⟨.port (.readCache c₀), .ok h⟩,
          ⟨.port (.reviewedAcquisitionProfile c₁), .ok o⟩,
          ⟨.port (.acquisitionPlanning c₂ o₂), .ok v⟩, ⟨.port (.prepareQuota c₃), .ok d⟩,
          ⟨.mutateOwner (.grantSingle 0 q), .ok r₁⟩,
          ⟨.port .beforeProviderDispatch, .error sampleRefusal⟩,
          ⟨.port (.executionError c₄ f e n p), .ok (some result)⟩,
          ⟨.mutateOwner (.storePreDispatchDenial 0 w), .ok r₂⟩] :=
    ⟨_, _, _, _, _, _, _, _, _, _, _, _, _, _, _, _, _, _, _, _, rfl⟩
  obtain ⟨_, _, _, _, _, _, _, _, _, _, _, _, _, _, _, _, _, _, _, _, htrace⟩ := htrace
  rw [htrace]
  refine ⟨⟨.error sampleRefusal, by simp⟩, ?_, rfl, ?_, ?_⟩
  · intro answer hmem
    simpa using hmem
  · intro callback answer hmem
    simp only [List.mem_cons, List.not_mem_nil, or_false] at hmem
    rcases hmem with h | h | h | h | h | h | h | h | h <;> cases h <;> exact ⟨_, rfl⟩
  · intro command fingerprint elapsed planning answer hmem
    simp only [List.mem_cons, List.not_mem_nil, or_false] at hmem
    rcases hmem with h | h | h | h | h | h | h | h | h <;> cases h
    exact ⟨_, rfl⟩

/-- The refusal of an entry on its own is stored. -/
theorem refusal_stored_iff_single : RefusalStored (refusedTrace singleOwner) sampleRefusal
    (refusedRun singleOwner).1 (refusedRun singleOwner).2 := by
  have hat : AtNext refusingCall singleOwner (sampleBatch [sampleEntry] []) sampleEntry :=
    ⟨rfl, rfl, rfl, rfl⟩
  exact (refusal_stored_iff refusingCall_steady rfl hat rfl rfl (refusedRun_solo singleOwner)
    refusedTrace_single).mpr rfl

theorem refusedTrace_grouped : Refused (refusedTrace groupedOwner) sampleRefusal := by
  have htrace : ∃ r₀ c₀ h c₁ d i g k q r₁, refusedTrace groupedOwner =
      [⟨.getOwner, .ok r₀⟩, ⟨.port (.readCache c₀), .ok h⟩, ⟨.port (.prepareQuota c₁), .ok d⟩,
        ⟨.mutateOwner (.grantGroup 0 i g k q), .ok r₁⟩,
        ⟨.port .beforeProviderDispatch, .error sampleRefusal⟩] :=
    ⟨_, _, _, _, _, _, _, _, _, _, rfl⟩
  obtain ⟨_, _, _, _, _, _, _, _, _, _, htrace⟩ := htrace
  rw [htrace]
  refine ⟨⟨.error sampleRefusal, by simp⟩, ?_, rfl, ?_, ?_⟩
  · intro answer hmem
    simpa using hmem
  · intro callback answer hmem
    simp only [List.mem_cons, List.not_mem_nil, or_false] at hmem
    rcases hmem with h | h | h | h | h <;> cases h
    exact ⟨_, rfl⟩
  · intro command fingerprint elapsed planning answer hmem
    simp at hmem

/-- A later worker on the record that a refused group leaves. -/
def strandedRun : Config Unit Cmd Cmd.Answer JsError ProcessResult (Option Owner) :=
  replayQueue (fun _ => sampleCall "later") (fun _ => samplePorts) 2000 (List.replicate 40 ())
    (refusedRun groupedOwner).2

/-- The refusal of a group is not stored: its members stay requested, and a later worker reports an
unknown outcome of a request that was never sent. -/
theorem refusal_grouped_stranded :
    Refused (refusedTrace groupedOwner) sampleRefusal ∧
      ¬ RefusalStored (refusedTrace groupedOwner) sampleRefusal (refusedRun groupedOwner).1
        (refusedRun groupedOwner).2 ∧
      (batchOf (refusedRun groupedOwner).2).map (·.entries.map (·.status)) =
        some [.requesting, .requesting] ∧
      resultOf (strandedRun.pool ()) =
        some ⟨false, .REQUEST_OUTCOME_UNKNOWN_NO_RETRY, none, none⟩ := by
  refine ⟨refusedTrace_grouped, fun hstored => ?_, by decide +kernel, by decide +kernel⟩
  have hthrown : (refusedRun groupedOwner).1 = .error sampleRefusal := by decide +kernel
  have hcontinues := hstored.continues
  rw [hthrown] at hcontinues
  cases hcontinues

end SellerAgents.BatchQueue
