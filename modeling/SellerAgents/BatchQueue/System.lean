import SellerAgents.BatchQueue.Process
import SellerAgents.BatchQueue.Steps
import SellerAgents.Concurrent.Pool

open SellerAgents.Js SellerAgents.Execution Concurrent

namespace SellerAgents.BatchQueue

/-- What a callback's write does to the record, and what `mutateOwner` answers. -/
def Write.Effect (current : Option Owner) (answer : Except JsError (Option Owner × Bool))
    (next : Option Owner) : Write → Prop
  | .keep => answer = .ok (current, false) ∧ next = current
  | .store owner => answer = .ok (some owner, true) ∧ next = some owner
  | .raise error => answer = .error error ∧ next = current

/-- What a command does to the record. `mutateOwner` is one atomic step, at some time, and may fail
without a change. The other ports may answer anything. -/
def Effect (call : Call) :
    (command : Cmd) → Option Owner → command.Answer → Option Owner → Prop
  | .getOwner, current, answer, next =>
    (answer = .ok current ∨ ∃ error, answer = .error error) ∧ next = current
  | .mutateOwner callback, current, answer, next =>
    (∃ now, (callback.run call now current).Effect current answer next) ∨
      (∃ error, answer = .error error) ∧ next = current
  | .port _, current, _, next => next = current
  | .now, current, _, next => next = current
  | .randomUUID, current, _, next => next = current

/-- What the ports' own writes may do to an entry: a started entry stays as it is, and a pending one
gets no attempt and no buffer. -/
structure EntryUpdate (e e' : Entry) : Prop where
  started : e.status ≠ .pending → e' = e
  pending : e.status = .pending → e'.status = .pending ∧
    e'.provider_attempt_id = e.provider_attempt_id ∧ e'.provider_attempt = e.provider_attempt ∧
    e'.provider_attempt_history = e.provider_attempt_history ∧ e'.result_buffer = e.result_buffer

/-- What the ports' own writes may do to a batch: the preparations rewrite pending entries and the
plan, and the waits and failures write the header. -/
structure BatchUpdate (b b' : Batch) : Prop where
  next_index : b'.next_index = b.next_index
  length : b'.entries.length = b.entries.length
  entries : ∀ {i : Nat} {e e' : Entry}, b.entries[i]? = some e → b'.entries[i]? = some e' →
    EntryUpdate e e'

/-- A write of one of the ports. -/
def PortUpdate (current next : Option Owner) : Prop :=
  (current = none ↔ next = none) ∧ Option.Rel BatchUpdate (batchOf current) (batchOf next)

/-- The worlds of the queue: the durable record of one owner. -/
abbrev QueueWorld (T : Type) : Type := World T Cmd Cmd.Answer JsError ProcessResult (Option Owner)

/-- The events of a run of the queue. -/
abbrev QueueEvent (T : Type) : Type := Event T Cmd Cmd.Answer JsError ProcessResult (Option Owner)

variable {T : Type}

/-- The steps of the environment: the ports' own writes, and the buffer that a running `execute`
commits through `onProviderResult`. -/
inductive EnvStep (calls : T → Call) (w : QueueWorld T) : Option Owner → Prop where
  | ports {next : Option Owner} (update : PortUpdate w.state next) : EnvStep calls w next
  | providerResult {t : T} {request : ExecuteRequest} {answer : (Cmd.port (.execute request)).Answer}
      {pre post : Option Owner} {result : QueueResult} {now : Int} {next : Owner}
      (started : Event.act t (.port (.execute request)) answer pre post ∈ w.log)
      (run : recordResultBuffer (calls t) request.indexes request.providerAttemptId result
        request.projectionKind now w.state = .store next) : EnvStep calls w (some next)

/-- The queue: every thread is one `process` call on the same owner. -/
def queue (calls : T → Call) :
    System T Cmd Cmd.Answer JsError ProcessResult (Option Owner) where
  prelude _ := preparations
  body t := iteration (calls t)
  effect t command w answer next := Effect (calls t) command w.state answer next
  env := EnvStep calls

/-- How the record moves in every step. -/
def StateProgress (current next : Option Owner) : Prop :=
  Option.Rel Batch.Progress (batchOf current) (batchOf next)

theorem StateProgress.refl (current : Option Owner) : StateProgress current current := by
  unfold StateProgress
  cases batchOf current with
  | none => exact .none
  | some b => exact .some (.refl b)

variable {current next s s' : Option Owner}

theorem StateProgress.trans {s'' : Option Owner} (h : StateProgress s s')
    (h' : StateProgress s' s'') : StateProgress s s'' := by
  unfold StateProgress at h h' ⊢
  generalize batchOf s = b at h
  generalize batchOf s' = b' at h h'
  generalize batchOf s'' = b'' at h'
  cases h with
  | none => exact h'
  | some hb =>
    cases h' with
    | some hb' => exact .some (hb.trans hb')

theorem StateProgress.target (h : StateProgress s s') {b : Batch} (hb : batchOf s = some b) :
    ∃ b', batchOf s' = some b' ∧ b.Progress b' := by
  unfold StateProgress at h
  rw [hb] at h
  generalize batchOf s' = next at h
  cases h with
  | some hprogress => exact ⟨_, rfl, hprogress⟩

theorem StateProgress.source (h : StateProgress s s') {b' : Batch} (hb' : batchOf s' = some b') :
    ∃ b, batchOf s = some b ∧ b.Progress b' := by
  unfold StateProgress at h
  rw [hb'] at h
  generalize batchOf s = current at h
  cases h with
  | some hprogress => exact ⟨_, rfl, hprogress⟩

theorem Advances.stateProgress {next : Owner} (h : Advances current next) :
    StateProgress current (some next) := by
  obtain ⟨b, b', hb, hb', hprogress⟩ := h
  unfold StateProgress
  rw [hb, batchOf_some, hb']
  exact .some hprogress

theorem EntryUpdate.progress {e e' : Entry} (h : EntryUpdate e e') : e.Progress e' := by
  by_cases hpending : e.status = .pending
  · exact .of_open (by simp [hpending]) (by rw [(h.pending hpending).1, hpending])
  · exact h.started hpending ▸ .refl e

theorem BatchUpdate.progress {b b' : Batch} (h : BatchUpdate b b') : b.Progress b' :=
  .of_entries h.next_index h.length fun he he' => (h.entries he he').progress

theorem PortUpdate.stateProgress (h : PortUpdate current next) :
    StateProgress current next := by
  have hrel := h.2
  unfold StateProgress
  generalize batchOf current = b at hrel
  generalize batchOf next = b' at hrel
  cases hrel with
  | none => exact .none
  | some hupdate => exact .some hupdate.progress

theorem EnvStep.stateProgress {calls : T → Call} {w : QueueWorld T} (h : EnvStep calls w next) :
    StateProgress w.state next := by
  cases h with
  | ports update => exact update.stateProgress
  | providerResult _ run => exact (recordResultBuffer_updates run).advances.stateProgress

/-- The answers of `mutateOwner`. -/
theorem effect_mutateOwner {call : Call} {callback : Callback}
    {answer : Except JsError (Option Owner × Bool)}
    (h : Effect call (.mutateOwner callback) current answer next) :
    (∃ now owner, callback.run call now current = .store owner ∧ answer = .ok (some owner, true) ∧
        next = some owner) ∨
      (answer = .ok (current, false) ∨ ∃ error, answer = .error error) ∧ next = current := by
  rcases h with ⟨now, h⟩ | ⟨herror, rfl⟩
  · cases hrun : callback.run call now current with
    | keep =>
      rw [hrun] at h
      exact .inr ⟨.inl h.1, h.2⟩
    | store owner =>
      rw [hrun] at h
      exact .inl ⟨now, owner, hrun, h.1, h.2⟩
    | raise error =>
      rw [hrun] at h
      exact .inr ⟨.inr ⟨error, h.1⟩, h.2⟩
  · exact .inr ⟨.inr herror, rfl⟩

/-- Every command that a program performs in order moves the record forward. -/
theorem effect_stateProgress {call : Call} {command : Cmd} {answer : command.Answer}
    (h : Effect call command current answer next)
    (hfits : ∀ callback, command = .mutateOwner callback → callback.Fits current) :
    StateProgress current next := by
  cases command with
  | getOwner => exact h.2 ▸ .refl current
  | mutateOwner callback =>
    rcases effect_mutateOwner h with ⟨now, owner, hrun, _, rfl⟩ | ⟨_, rfl⟩
    · exact (Callback.run_advances hrun (hfits callback rfl)).stateProgress
    · exact .refl _
  | port query => exact h ▸ .refl current
  | now => exact h ▸ .refl current
  | randomUUID => exact h ▸ .refl current

end SellerAgents.BatchQueue
