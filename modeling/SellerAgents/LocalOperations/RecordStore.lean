import SellerAgents.Js.Map

open SellerAgents.Js

namespace SellerAgents.LocalOperations

/-- What a mutator is called with. -/
inductive Current (ρ : Type) where
  | null
  | record (value : ρ)
  /-- A member of `Object.prototype` in the place of a record. -/
  | inherited (name : String)
deriving DecidableEq

/-- What a mutator does with the record it is given. -/
inductive MutatorOutcome (ρ : Type) where
  | throws
  /-- The next record, none when what is returned is falsy. -/
  | returns (next : Option ρ)

/-- A call `mutate(key, mutator)`. -/
structure MutateCall (ρ : Type) where
  key : String
  mutator : Current ρ → MutatorOutcome ρ

/-- The stage of a `RECORD_STORE_COMMIT_UNCONFIRMED`. -/
inductive Stage where
  | read | write | readback
deriving DecidableEq

/-- How the promise of a call is settled. -/
inductive Settlement (ρ τ : Type) where
  | confirmed (now : τ) (returned : Current ρ)
  | mutatorThrew
  | unavailable
  | failed (stage : Stage)

/-- Where the call that runs waits. -/
inductive Phase (ρ τ : Type) where
  | reading
  | mutating (records : JsMap String ρ)
  | writing (records : JsMap String ρ) (now : τ) (returned : Current ρ)
  | confirming (records : JsMap String ρ) (now : τ) (returned : Current ρ)

/-- The store of one namespace with the calls that are under way. -/
structure RecordStore (ρ τ : Type) where
  /-- What the storage holds under the namespace. -/
  stored : Option (JsMap String ρ)
  unavailable : Option Stage := none
  queue : List (MutateCall ρ) := []
  active : Option (MutateCall ρ × Phase ρ τ) := none
  /-- The calls that are settled, in the order in which they were. -/
  settled : List (MutateCall ρ × Settlement ρ τ) := []
  /-- Whether a write has failed or was not read back, so that it may still land. -/
  unconfirmed : Bool := false

variable {ρ τ : Type}

section Records

/-- `records[key] || null`. -/
def currentRecord (records : JsMap String ρ) (key : String) : Current ρ :=
  match records.get key with
  | some value => .record value
  | none => if key ∈ objectPrototypeMembers then .inherited key else .null

/-- `records[key] = value`; without such a record an assignment to `__proto__` sets the prototype. -/
def assignRecord (records : JsMap String ρ) (key : String) (value : ρ) : JsMap String ρ :=
  if key = "__proto__" ∧ records.get key = none then records else records.set key value

/-- `recordBytes(records)`; a record is taken up to its `canonicalJson`, so that equal texts are of
equal records. -/
def recordBytes (records : JsMap String ρ) : List (String × ρ) :=
  records.entries.mergeSort fun a b => a.1 ≤ b.1

variable (stamp : ρ → τ → ρ)

/-- The records that a call writes; `stamp` is `{ ...next, updated_at: now() }`. -/
def nextRecords (records : JsMap String ρ) (key : String) (next : Option ρ) (now : τ) :
    JsMap String ρ :=
  match next with
  | some value => assignRecord records key (stamp value now)
  | none => records.delete key

/-- `records[key] || null` after that, where the prototype shows what was assigned to it. -/
def returnedRecord (records : JsMap String ρ) (key : String) (next : Option ρ) (now : τ) :
    Current ρ :=
  match next with
  | some value => .record (stamp value now)
  | none => currentRecord (records.delete key) key

end Records

namespace RecordStore

/-- The call that runs is settled. -/
def settle (s : RecordStore ρ τ) (call : MutateCall ρ) (settlement : Settlement ρ τ) :
    RecordStore ρ τ :=
  { s with active := none, settled := s.settled ++ [(call, settlement)] }

/-- `throw failStorage(stage)`. -/
def failStorage (s : RecordStore ρ τ) (call : MutateCall ρ) (stage : Stage) : RecordStore ρ τ :=
  { s.settle call (.failed stage) with
    unavailable := some stage
    unconfirmed := s.unconfirmed || stage ≠ .read }

/-- Whether a write of the store may change what the storage holds. -/
def mayLand (s : RecordStore ρ τ) : Bool :=
  s.unconfirmed ||
    match s.active with
    | some (_, .writing _ _ _) => true
    | _ => false

end RecordStore

/-- What can happen to a store. -/
inductive Action (ρ τ : Type) where
  | mutate (call : MutateCall ρ)
  /-- The next call of the queue starts. -/
  | start
  /-- Its read answers with what the storage holds, or fails. -/
  | read (ok : Bool)
  /-- Its mutator ends, with a reading of the clock for the record. -/
  | mutated (now : τ)
  /-- The storage takes some content during a write, or after one that failed. -/
  | land (content : Option (JsMap String ρ))
  /-- The write returns or throws. -/
  | written (ok : Bool)
  /-- The read after it answers or fails. -/
  | readBack (ok : Bool)
  /-- A read for a `get` fails. -/
  | getFails

section Steps

variable [DecidableEq ρ] (stamp : ρ → τ → ρ)

/-- One step of a store, none when it cannot happen. -/
def step (s : RecordStore ρ τ) : Action ρ τ → Option (RecordStore ρ τ)
  | .mutate call => some { s with queue := s.queue ++ [call] }
  | .start =>
    match s.active, s.queue with
    | none, call :: rest =>
      -- `assertAvailable()`
      if s.unavailable.isSome then some ({ s with queue := rest }.settle call .unavailable)
      else some { s with queue := rest, active := some (call, .reading) }
    | _, _ => none
  | .read ok =>
    match s.active with
    | some (call, .reading) =>
      if ok then some { s with active := some (call, .mutating (s.stored.getD .empty)) }
      else some (s.failStorage call .read)
    | _ => none
  | .mutated now =>
    match s.active with
    | some (call, .mutating records) =>
      match call.mutator (currentRecord records call.key) with
      | .throws => some (s.settle call .mutatorThrew)
      | .returns next =>
        if s.unavailable.isSome then some (s.settle call .unavailable)
        else
          some { s with
            active := some (call, .writing (nextRecords stamp records call.key next now) now
              (returnedRecord stamp records call.key next now)) }
    | _ => none
  | .land content => if s.mayLand then some { s with stored := content } else none
  | .written ok =>
    match s.active with
    | some (call, .writing records now returned) =>
      if ok then some { s with active := some (call, .confirming records now returned) }
      else some (s.failStorage call .write)
    | _ => none
  | .readBack ok =>
    match s.active with
    | some (call, .confirming records now returned) =>
      if ok && s.stored.map recordBytes = some (recordBytes records) then
        some (s.settle call (.confirmed now returned))
      else some (s.failStorage call .readback)
    | _ => none
  | .getFails => some { s with unavailable := some .read }

/-- The steps of a run. -/
def run (s : RecordStore ρ τ) (actions : List (Action ρ τ)) : Option (RecordStore ρ τ) :=
  actions.foldlM (step stamp) s

end Steps

end SellerAgents.LocalOperations
