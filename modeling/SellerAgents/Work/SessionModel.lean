import SellerAgents.Js.Digits
import SellerAgents.Js.Value

namespace SellerAgents.Work
open Js (JsString JsValue)

/-- The states of a Work record. -/
inductive WorkState where
  | inactive
  | pendingIdentity
  | binding
  | activeVisible
  | activeHidden
  | recovering
  | finishing
  | error
deriving DecidableEq

/-- `ALLOWED[state]`. -/
def allowed : WorkState → List WorkState
  | .inactive => [.pendingIdentity, .binding, .error]
  | .pendingIdentity => [.binding, .error, .inactive]
  | .binding => [.activeVisible, .error, .inactive]
  | .activeVisible => [.activeHidden, .recovering, .finishing, .error]
  | .activeHidden => [.activeVisible, .recovering, .finishing, .error]
  | .recovering => [.activeVisible, .activeHidden, .error]
  | .finishing => [.inactive, .error]
  | .error => [.inactive, .pendingIdentity, .binding, .recovering, .finishing]

/-- Whether a value is truthy. -/
def isTruthy : JsValue → Bool
  | .undefined | .null | .nan => false
  | .bool value => value
  | .num value => value.man ≠ 0
  | .str value => value ≠ []
  | .infinity _ | .arr _ | .obj _ => true

/-- `value || other`. -/
def orElse (value other : JsValue) : JsValue := if isTruthy value then value else other

/-- `value ?? other`. -/
def coalesce (value other : JsValue) : JsValue :=
  match value with
  | .undefined | .null => other
  | value => value

/-- A work session record. A state that is none of `STATES` is none here; `revision` is a number
without a fraction, and an own property that may be missing is none. -/
structure WorkRecord where
  state : Option WorkState
  revision : Nat
  conversationKey : JsValue
  origin : JsValue
  aiId : JsValue
  conversationId : JsValue
  startIntentId : JsValue
  workSessionId : JsValue
  workGeneration : Nat
  terminalStateKnown : Bool
  finished : Bool
  finishedAt : JsValue
  updatedAt : JsValue
  error : JsValue
  admissionProvenance : Option JsValue
  promptTree : Option JsValue

def maxSafeInteger : Nat := 2 ^ 53 - 1

/-- `normalize(record, record.conversation_key)`. -/
def normalize (record : WorkRecord) : WorkRecord where
  state := some (record.state.getD .inactive)
  revision := record.revision
  conversationKey := orElse record.conversationKey .null
  origin := orElse record.origin .null
  aiId := orElse record.aiId .null
  conversationId := orElse record.conversationId .null
  startIntentId := orElse record.startIntentId .null
  workSessionId := orElse (orElse record.workSessionId record.startIntentId) .null
  workGeneration := if record.workGeneration ≤ maxSafeInteger then record.workGeneration else 0
  terminalStateKnown := record.terminalStateKnown
  finished := record.finished
  finishedAt := orElse record.finishedAt .null
  updatedAt := orElse record.updatedAt .null
  error := orElse record.error .null
  admissionProvenance := record.admissionProvenance.map (orElse · .null)
  promptTree := record.promptTree.map (orElse · .null)

/-- The own properties of a patch that a transition does not compute itself. -/
structure Patch where
  conversationKey : Option JsValue
  origin : Option JsValue
  aiId : Option JsValue
  conversationId : Option JsValue
  startIntentId : Option JsValue
  error : Option JsValue
  admissionProvenance : Option JsValue
  promptTree : Option JsValue

/-- A patch without own properties. -/
def Patch.empty : Patch := ⟨none, none, none, none, none, none, none, none⟩

/-- The text of a non-empty string. -/
def nonEmptyText : JsValue → Option JsString
  | .str value => if value = [] then none else some value
  | _ => none

/-- The session id of a step that starts new work. -/
def newStart (current : WorkRecord) (next : WorkState) (patch : Patch) : Option JsString :=
  ((patch.startIntentId.bind nonEmptyText).filter fun id =>
    next = .binding ∧ nonEmptyText current.workSessionId ≠ some id)

inductive TransitionError where
  | storageUnconfirmed
  | rejected
  | finished
  | generationExhausted

/-- `patch.prompt_tree` and the rules of a new start and of a finish. -/
def nextPromptTree (current : WorkRecord) (patch : Patch) (newStart finishing : Bool) : Option JsValue :=
  if newStart || current.promptTree.isSome || patch.promptTree.isSome then
    if finishing then some .null
    else
      match patch.promptTree with
      | some tree => some (orElse tree .null)
      | none => if newStart then some .null else current.promptTree
  else none

/-- `transition(record, next, patch)` at a time. -/
def transition (storageUnavailable : Bool) (record : WorkRecord) (next : WorkState) (patch : Patch)
    (now : JsString) : Except TransitionError WorkRecord :=
  if storageUnavailable then .error .storageUnconfirmed
  else
    let current := normalize record
    let state := current.state.getD .inactive
    if state ≠ next ∧ next ∉ allowed state then .error .rejected
    else
      let start := newStart current next patch
      if current.finished && start.isNone && next ∉ [WorkState.inactive, .finishing, .error] then
        .error .finished
      else
        let finishing := next = .finishing && !current.finished
        let generation := current.workGeneration + (if start.isSome || finishing then 1 else 0)
        if maxSafeInteger < generation then .error .generationExhausted
        else .ok
          { state := some next
            revision := Js.Double.roundNat (current.revision + 1)
            conversationKey := patch.conversationKey.getD current.conversationKey
            origin := patch.origin.getD current.origin
            aiId := patch.aiId.getD current.aiId
            conversationId := patch.conversationId.getD current.conversationId
            -- Resume may refresh the binding but cannot manufacture a new Work identity.
            startIntentId :=
              match start with
              | some id => .str id
              | none =>
                if next = .finishing ∨ next = .inactive then
                  coalesce (patch.startIntentId.getD .undefined) current.startIntentId
                else current.startIntentId
            workSessionId := start.elim current.workSessionId .str
            workGeneration := generation
            terminalStateKnown := start.isSome || finishing || current.terminalStateKnown
            finished := if start.isSome then false else finishing || current.finished
            finishedAt := if start.isSome then .null else if finishing then .str now else current.finishedAt
            updatedAt := .str now
            error := patch.error.getD current.error
            admissionProvenance := patch.admissionProvenance.orElse fun _ => current.admissionProvenance
            promptTree := nextPromptTree current patch start.isSome finishing }

/-- `canResume(record)`. -/
def canResume (storageUnavailable : Bool) (record : WorkRecord) : Bool :=
  let work := normalize record
  !storageUnavailable && work.state = some .inactive && work.terminalStateKnown && !work.finished &&
    isTruthy work.workSessionId

end SellerAgents.Work
