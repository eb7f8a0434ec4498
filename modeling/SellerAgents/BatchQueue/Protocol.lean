import Mathlib.Data.List.Infix
import SellerAgents.BatchQueue.System

open SellerAgents.Js SellerAgents.Execution Concurrent

namespace SellerAgents.BatchQueue

/-- The stages of a provider request: its grant, its committed intent and its call of `execute`. -/
inductive Stage where
  | grant
  | intent
  | dispatch
deriving DecidableEq

/-- The entries a callback grants when it stores. -/
def Callback.grants : Callback → List Nat
  | .grantSingle nextIndex _ => [nextIndex]
  | .grantGroup _ _ _ indexes _ => indexes
  | _ => []

/-- The entries a callback commits an intent for when it stores. -/
def Callback.intents : Callback → List Nat
  | .commitAttemptIntent _ attempts => attempts.map (·.1)
  | _ => []

/-- The entries that a performed command takes through a stage. -/
def Cmd.covers : (command : Cmd) → command.Answer → Stage → List Nat
  | .mutateOwner callback, .ok (_, true), .grant => callback.grants
  | .mutateOwner callback, .ok (_, true), .intent => callback.intents
  | .port (.execute request), _, .dispatch => request.indexes
  | _, _, _ => []

variable {T : Type} {call : Call} {log : List (QueueEvent T)} {i : Nat}
  {next start : Option Owner} {event : QueueEvent T} {w : QueueWorld T} {stage : Stage} {t : T}

/-- A callback that commits no intent covers no entry in a later stage. -/
theorem Cmd.covers_mutateOwner {callback : Callback} (hintents : callback.intents = [])
    (answer : (Cmd.mutateOwner callback).Answer) (hstage : stage ≠ .grant) :
    (Cmd.mutateOwner callback).covers answer stage = [] := by
  cases stage with
  | grant => exact absurd rfl hstage
  | intent =>
    cases answer with
    | error error => rfl
    | ok result =>
      obtain ⟨record, stored⟩ := result
      cases stored with
      | false => rfl
      | true => exact hintents
  | dispatch =>
    cases answer with
    | error error => rfl
    | ok result =>
      obtain ⟨record, stored⟩ := result
      cases stored <;> rfl

/-- The thread of an event of a thread. -/
def threadOf : QueueEvent T → Option T
  | .act thread _ _ _ _ => some thread
  | _ => none

/-- The entries that an event takes through a stage. -/
def coveredBy (stage : Stage) : QueueEvent T → List Nat
  | .act _ command answer _ _ => command.covers answer stage
  | _ => []

/-- The request of an event that calls `execute`. -/
def requestOf : QueueEvent T → Option ExecuteRequest
  | .act _ (.port (.execute request)) _ _ _ => some request
  | _ => none

/-- The record after an event. -/
def recordAfter : QueueEvent T → Option Owner
  | .act _ _ _ _ post => post
  | .env _ post => post
  | .finish _ _ record => record

/-- How often an entry went through a stage in a run. -/
def uses (stage : Stage) (index : Nat) (log : List (QueueEvent T)) : Nat :=
  log.countP fun event => (coveredBy stage event).contains index

/-- A thread was granted the request of an entry. -/
def GrantedTo (thread : T) (index : Nat) (log : List (QueueEvent T)) : Prop :=
  ∃ event ∈ log, threadOf event = some thread ∧ index ∈ coveredBy .grant event

/-- The record holds the committed intents of a request. -/
def HoldsIntent (record : Option Owner) (id : JsString) (indexes : List Nat) : Prop :=
  ∃ b, batchOf record = some b ∧ ∀ i ∈ indexes, ∃ e attempt, b.entries[i]? = some e ∧
    e.status = .requesting ∧ e.provider_attempt_id = some id ∧ e.provider_attempt = some attempt ∧
    attempt.state = .DISPATCH_INTENT_COMMITTED ∧ attempt.provider_attempt_id = some id

/-- Some event of a run left a record that held the intents of a request. -/
def Intended (request : ExecuteRequest) (log : List (QueueEvent T)) : Prop :=
  ∃ event ∈ log, HoldsIntent (recordAfter event) request.providerAttemptId request.indexes

/-- Every `execute` of a run came after its intents were held. -/
def DispatchOrdered : List (QueueEvent T) → Prop
  | [] => True
  | event :: earlier =>
    (∀ request, requestOf event = some request → Intended request earlier) ∧ DispatchOrdered earlier

/-- A thread marked an entry before it gave up on it. -/
def MarkedBy (thread : T) (index : Nat) (log : List (QueueEvent T)) : Prop :=
  ∃ answer pre post,
    .act thread (.mutateOwner (.markRequestingUnknown [index])) (.ok answer) pre post ∈ log

/-- A record whose next index only passed complete entries. -/
def Prefixed (record : Option Owner) : Prop := ∀ b, batchOf record = some b → b.PrefixComplete

/-- The invariant of every run of the queue from a start record. -/
structure QueueInv (start : Option Owner) (w : QueueWorld T) : Prop where
  prefixed : Prefixed start → Prefixed w.state
  started : ∀ {t i}, GrantedTo t i w.log → ∀ {b e}, batchOf w.state = some b →
    b.entries[i]? = some e → e.status ≠ .pending
  unique : ∀ {t t' i}, GrantedTo t i w.log → GrantedTo t' i w.log → t = t'
  owned : ∀ {event stage i}, event ∈ w.log → i ∈ coveredBy stage event →
    ∃ t, threadOf event = some t ∧ GrantedTo t i w.log
  once : ∀ stage i, uses stage i w.log ≤ 1
  ordered : DispatchOrdered w.log

/-- What the other threads and the environment leave alone. -/
structure QueueRely (t : T) (w w' : QueueWorld T) : Prop where
  log : w.log <:+ w'.log
  state : StateProgress w.state w'.state
  uses : ∀ stage i, GrantedTo t i w.log → uses stage i w'.log = uses stage i w.log

/-- Every entry of a record is complete. -/
def AllComplete (record : Option Owner) : Prop :=
  ∀ b, batchOf record = some b → ∀ e ∈ b.entries, e.status = .complete

/-- What holds whenever a thread performs a command. -/
def QueuePre (start : Option Owner) (t : T) : Cmd → QueueWorld T → Prop
  | .mutateOwner callback, w => callback.Fits w.state ∧
      ∀ i ∈ callback.intents, GrantedTo t i w.log ∧ uses .intent i w.log = 0
  | .port (.execute request), w =>
    (∀ i ∈ request.indexes, GrantedTo t i w.log ∧ uses .dispatch i w.log = 0) ∧
      Intended request w.log
  | .port (.finalizeOwner _ entries), w => Prefixed start →
      AllComplete w.state ∧ ∀ e ∈ entries, e.status = .complete
  | _, _ => True

/-- What holds when a thread returns: an unknown outcome is only reported after the entry was
marked. -/
def QueuePost (t : T) (result : ProcessResult) (w : QueueWorld T) : Prop :=
  result.code = .REQUEST_OUTCOME_UNKNOWN_NO_RETRY → ∃ i, MarkedBy t i w.log

/-- The proof outline of the queue. -/
def outline (start : Option Owner) :
    System.Protocol T Cmd Cmd.Answer JsError ProcessResult (Option Owner) where
  inv := QueueInv start
  pre := QueuePre start
  rely := QueueRely
  post := QueuePost

theorem GrantedTo.mono {log' : List (QueueEvent T)} (h : GrantedTo t i log) (hlog : log <:+ log') :
    GrantedTo t i log' := by
  obtain ⟨event, hmem, h⟩ := h
  exact ⟨event, hlog.subset hmem, h⟩

theorem MarkedBy.mono {log' : List (QueueEvent T)} (h : MarkedBy t i log) (hlog : log <:+ log') :
    MarkedBy t i log' := by
  obtain ⟨answer, pre, post, hmem⟩ := h
  exact ⟨answer, pre, post, hlog.subset hmem⟩

@[simp] theorem uses_nil (stage : Stage) (i : Nat) : uses stage i ([] : List (QueueEvent T)) = 0 :=
  rfl

theorem uses_cons_of_notMem (h : i ∉ coveredBy stage event) :
    uses stage i (event :: log) = uses stage i log := by
  simp [uses, h]

theorem uses_cons_of_mem (h : i ∈ coveredBy stage event) :
    uses stage i (event :: log) = uses stage i log + 1 := by
  simp [uses, h]

/-- An entry that was never granted went through no stage. -/
theorem QueueInv.uses_eq_zero (h : QueueInv start w) (hgrant : ∀ t, ¬ GrantedTo t i w.log)
    (stage : Stage) : uses stage i w.log = 0 := by
  rw [uses, List.countP_eq_zero]
  intro event hmem hcovers
  obtain ⟨t, _, hgranted⟩ := h.owned hmem (by simpa using hcovers)
  exact hgrant t hgranted

/-- A pending entry was never granted. -/
theorem QueueInv.not_granted (h : QueueInv start w) {b : Batch} {e : Entry}
    (hb : batchOf w.state = some b) (he : b.entries[i]? = some e) (hpending : e.status = .pending)
    (t : T) : ¬ GrantedTo t i w.log :=
  fun hgranted => h.started hgranted hb he hpending

theorem QueueRely.refl (t : T) (w : QueueWorld T) : QueueRely t w w :=
  ⟨List.suffix_refl _, .refl _, fun _ _ _ => rfl⟩

theorem QueueRely.trans {w' w'' : QueueWorld T} (h : QueueRely t w w') (h' : QueueRely t w' w'') :
    QueueRely t w w'' where
  log := h.log.trans h'.log
  state := h.state.trans h'.state
  uses stage i hgranted :=
    (h'.uses stage i (hgranted.mono h.log)).trans (h.uses stage i hgranted)

/-- The guarantees of one new event. -/
structure Pushes (start : Option Owner) (w : QueueWorld T) (event : QueueEvent T)
    (next : Option Owner) : Prop where
  state : StateProgress w.state next
  grants : ∀ i ∈ coveredBy .grant event, (∃ b e, batchOf w.state = some b ∧
    b.entries[i]? = some e ∧ e.status = .pending) ∧
      ∀ {b e}, batchOf next = some b → b.entries[i]? = some e → e.status ≠ .pending
  thread : ∀ {stage i}, i ∈ coveredBy stage event → ∃ t, threadOf event = some t
  later : ∀ {stage i t}, stage ≠ .grant → i ∈ coveredBy stage event → threadOf event = some t →
    GrantedTo t i w.log ∧ uses stage i w.log = 0
  intended : ∀ request, requestOf event = some request → Intended request w.log

/-- A new event with its guarantees keeps the invariant. -/
theorem QueueInv.push (h : QueueInv start w) (hpush : Pushes start w event next) :
    QueueInv start ⟨next, event :: w.log⟩ := by
  have hsuffix : w.log <:+ event :: w.log := List.suffix_cons _ _
  have hfresh : ∀ {i}, i ∈ coveredBy .grant event → ∀ t, ¬ GrantedTo t i w.log := by
    intro i hi t
    obtain ⟨⟨b, e, hb, he, hpending⟩, _⟩ := hpush.grants i hi
    exact h.not_granted hb he hpending t
  have hsplit : ∀ {t i}, GrantedTo t i (event :: w.log) →
      GrantedTo t i w.log ∨ threadOf event = some t ∧ i ∈ coveredBy .grant event := by
    rintro t i ⟨event', hmem, hthread, hcovers⟩
    rcases List.mem_cons.mp hmem with rfl | hmem
    · exact .inr ⟨hthread, hcovers⟩
    · exact .inl ⟨event', hmem, hthread, hcovers⟩
  constructor
  · intro hstart b' hb'
    obtain ⟨b, hb, hprogress⟩ := hpush.state.source hb'
    exact hprogress.prefixComplete (h.prefixed hstart b hb)
  · intro t i hgranted b' e' hb' he'
    rcases hsplit hgranted with hold | ⟨_, hnew⟩
    · obtain ⟨b, hb, hprogress⟩ := hpush.state.source hb'
      obtain ⟨e, he, hentry⟩ := hprogress.source he'
      have hstarted := EntryStatus.rank_started.mpr (h.started hold hb he)
      exact EntryStatus.rank_started.mp (le_trans hstarted hentry.status)
    · exact (hpush.grants i hnew).2 hb' he'
  · intro t t' i hgranted hgranted'
    rcases hsplit hgranted with hold | ⟨hthread, hnew⟩
    · rcases hsplit hgranted' with hold' | ⟨_, hnew'⟩
      · exact h.unique hold hold'
      · exact absurd hold (hfresh hnew' t)
    · rcases hsplit hgranted' with hold' | ⟨hthread', _⟩
      · exact absurd hold' (hfresh hnew t')
      · rw [hthread, Option.some.injEq] at hthread'
        exact hthread'
  · intro event' stage i hmem hcovers
    rcases List.mem_cons.mp hmem with rfl | hmem
    · obtain ⟨t, hthread⟩ := hpush.thread hcovers
      refine ⟨t, hthread, ?_⟩
      by_cases hstage : stage = .grant
      · subst hstage
        exact ⟨_, List.mem_cons_self, hthread, hcovers⟩
      · exact (hpush.later hstage hcovers hthread).1.mono hsuffix
    · obtain ⟨t, hthread, hgranted⟩ := h.owned hmem hcovers
      exact ⟨t, hthread, hgranted.mono hsuffix⟩
  · intro stage i
    by_cases hcovers : i ∈ coveredBy stage event
    · rw [uses_cons_of_mem hcovers]
      obtain ⟨t, hthread⟩ := hpush.thread hcovers
      by_cases hstage : stage = .grant
      · subst hstage
        rw [h.uses_eq_zero (hfresh hcovers)]
      · rw [(hpush.later hstage hcovers hthread).2]
    · rw [uses_cons_of_notMem hcovers]
      exact h.once stage i
  · exact ⟨hpush.intended, h.ordered⟩

/-- A new event with its guarantees is tolerated by every thread it does not belong to. -/
theorem Pushes.rely (hpush : Pushes start w event next) (h : QueueInv start w)
    (hother : ∀ {stage i}, stage ≠ .grant → i ∈ coveredBy stage event → threadOf event ≠ some t) :
    QueueRely t w ⟨next, event :: w.log⟩ where
  log := List.suffix_cons _ _
  state := hpush.state
  uses stage i hgranted := by
    refine uses_cons_of_notMem fun hcovers => ?_
    by_cases hstage : stage = .grant
    · subst hstage
      obtain ⟨⟨b, e, hb, he, hpending⟩, _⟩ := hpush.grants i hcovers
      exact h.not_granted hb he hpending t hgranted
    · obtain ⟨t', hthread⟩ := hpush.thread hcovers
      have hown := (hpush.later hstage hcovers hthread).1
      exact hother hstage hcovers (by rw [hthread, h.unique hown hgranted])

/-- An event that takes no entry through a stage. -/
theorem Pushes.quiet (hstate : StateProgress w.state next)
    (hcovers : ∀ stage, coveredBy stage event = []) (hrequest : requestOf event = none) :
    Pushes start w event next where
  state := hstate
  grants i hi := by simp [hcovers] at hi
  thread hi := by simp [hcovers] at hi
  later _ hi := by simp [hcovers] at hi
  intended request h := by simp [hrequest] at h

/-- The members of a stored grant were pending and are not any more. -/
theorem Callback.run_grants {now : Int} {callback : Callback} {current : Option Owner}
    {next : Owner} (h : callback.run call now current = .store next) (hfits : callback.Fits current)
    (hi : i ∈ callback.grants) :
    (∃ b e, batchOf current = some b ∧ b.entries[i]? = some e ∧ e.status = .pending) ∧
      ∀ {b e}, next.batch = some b → b.entries[i]? = some e → e.status ≠ .pending := by
  cases callback with
  | grantSingle nextIndex quota =>
    simp only [Callback.grants, List.mem_singleton] at hi
    subst hi
    obtain ⟨owner, batch, entry, rfl, hbatch, _, _, hnext, hentry, h⟩ := whenNext_store.mp h
    split at h
    · rename_i hpending
      simp only [Write.store.injEq] at h
      subst h
      refine ⟨⟨batch, entry, hbatch, hentry, hpending.1⟩, fun {b e} hb he => ?_⟩
      simp only [granted, Option.some.injEq] at hb
      subst hb
      simp only [List.getElem?_set, (List.getElem?_eq_some_iff.mp hentry).1, if_true,
        Option.some.injEq] at he
      subst he
      simp [startedEntry]
    · cases h
  | grantGroup nextIndex id group indexes quota =>
    obtain ⟨b, b', hb, hb', _, _, hmembers, _⟩ := grantGroup_members h (Contiguous.nodup hfits)
    obtain ⟨e, he, hpending, he'⟩ := hmembers i hi
    refine ⟨⟨b, e, hb, he, hpending⟩, fun {b'' e''} hb'' he'' => ?_⟩
    rw [hb', Option.some.injEq] at hb''
    subst hb''
    rw [he', Option.some.injEq] at he''
    subst he''
    simp [startedEntry]
  | _ => simp [Callback.grants] at hi

/-- Every command performed under its precondition pushes a guaranteed event. -/
theorem Pushes.act {command : Cmd} {answer : command.Answer} (hpre : QueuePre start t command w)
    (heffect : Effect call command w.state answer next) :
    Pushes start w (.act t command answer w.state next) next := by
  cases command with
  | getOwner => exact .quiet (effect_stateProgress heffect (by simp)) (fun stage => by cases stage <;> rfl) rfl
  | now => exact .quiet (effect_stateProgress heffect (by simp)) (fun stage => by cases stage <;> rfl) rfl
  | randomUUID => exact .quiet (effect_stateProgress heffect (by simp)) (fun stage => by cases stage <;> rfl) rfl
  | mutateOwner callback =>
    have hstate := effect_stateProgress heffect fun callback' h => by cases h; exact hpre.1
    rcases effect_mutateOwner heffect with ⟨now, owner, hrun, rfl, rfl⟩ | ⟨hanswer, rfl⟩
    · constructor
      · exact hstate
      · intro i hi
        exact Callback.run_grants hrun hpre.1 hi
      · exact fun _ => ⟨t, rfl⟩
      · intro stage i t' hstage hi ht'
        cases ht'
        cases stage with
        | grant => exact absurd rfl hstage
        | intent => exact hpre.2 i hi
        | dispatch => simp [coveredBy, Cmd.covers] at hi
      · intro request h
        cases h
    · refine .quiet hstate (fun stage => ?_) rfl
      rcases hanswer with rfl | ⟨error, rfl⟩ <;> cases stage <;> rfl
  | port query =>
    have hstate : StateProgress w.state next := effect_stateProgress heffect (by simp)
    cases query with
    | execute request =>
      constructor
      · exact hstate
      · intro i hi
        simp [coveredBy, Cmd.covers] at hi
      · exact fun _ => ⟨t, rfl⟩
      · intro stage i t' hstage hi ht'
        cases ht'
        cases stage with
        | dispatch => exact hpre.1 i hi
        | grant => exact absurd rfl hstage
        | intent => simp [coveredBy, Cmd.covers] at hi
      · intro request' h
        cases h
        exact hpre.2
    | _ => exact .quiet hstate (fun stage => by cases stage <;> rfl) rfl

/-- A command that covers no entry in a later stage is calm: the thread itself may rely on what it
leaves. -/
theorem QueueRely.act {command : Cmd} {answer : command.Answer} (h : QueueInv start w)
    (hpre : QueuePre start t command w) (heffect : Effect call command w.state answer next)
    (hcalm : ∀ stage, stage ≠ .grant → command.covers answer stage = []) :
    QueueRely t w (w.act t command answer next) :=
  (Pushes.act hpre heffect).rely h fun hstage hi => by simp [coveredBy, hcalm _ hstage] at hi

end SellerAgents.BatchQueue
