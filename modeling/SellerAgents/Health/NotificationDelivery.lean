import SellerAgents.Concurrent.History
import SellerAgents.Health.Notification

open Relational Concurrent

namespace SellerAgents.Health

open Subscriptions (Date)

variable {T Id Token : Type}

/-- The table of notification intents. -/
abbrev Intents (Id Token : Type) : Type := List (HealthNotificationIntent Id Token)

/-- The statements and transactions on the intents. -/
inductive DeliveryCmd (Id Token : Type) where
  | claim (input : ClaimDue) (claimToken : Token)
  | getIntent (id : Nat)
  | markDelivered (input : MarkDelivered Token)
  | failClaim (input : FailClaim Token)
  | record (event : LlmHealthNotificationEvent Id)
  | observe (input : LlmHealthNotificationInput Id) (policy : LlmHealthNotificationPolicy)
  | suppress (incidentId : Nat)
  | resume (incidentId : Nat) (observedAt : Date)

namespace DeliveryCmd

def Answer : DeliveryCmd Id Token → Type
  | .claim _ _ => Option Nat
  | .getIntent _ => Option (HealthNotificationIntent Id Token)
  | .markDelivered _ => Except NotificationError Unit
  | .failClaim _ => Except NotificationError (HealthNotificationIntent Id Token)
  | .record _ => Option (HealthNotificationIntent Id Token)
  | .observe _ _ => Except NotificationError FailureObservation
  | .suppress _ => Unit
  | .resume _ _ => Unit

/-- The intent that a statement has claimed, with the token that it wrote. -/
def claimed : (command : DeliveryCmd Id Token) → command.Answer → Option (Nat × Token)
  | .claim _ claimToken, some id => some (id, claimToken)
  | _, _ => none

/-- The intent whose claim a report has ended. -/
def reported : (command : DeliveryCmd Id Token) → command.Answer → Option Nat
  | .markDelivered input, .ok () => some input.id
  | .failClaim input, .ok _ => some input.id
  | _, _ => none

end DeliveryCmd

section Effect

variable [DecidableEq Token]

/-- The transaction of an observed failure; what it throws is rolled back. -/
def observeTransaction (intents : Intents Id Token) (input : LlmHealthNotificationInput Id)
    (policy : LlmHealthNotificationPolicy) :
    Except NotificationError FailureObservation × Intents Id Token :=
  match observeLlmHealthFailure intents input policy with
  | .ok (observation, intents') => (.ok observation, intents')
  | .error error => (.error error, intents)

/-- What a command answers and leaves behind, whatever the clock shows and whichever rows other
transactions have locked. -/
def DeliveryEffect : (command : DeliveryCmd Id Token) → Intents Id Token → command.Answer →
    Intents Id Token → Prop
  | .claim input claimToken, intents, answer, intents' => ∃ clock locked,
      claimCandidateRow intents locked (input.statement clock claimToken) = (answer, intents')
  | .getIntent id, intents, answer, intents' => getIntent intents id = answer ∧ intents' = intents
  | .markDelivered input, intents, answer, intents' =>
      ∃ clock, markDelivered intents input clock = (answer, intents')
  | .failClaim input, intents, answer, intents' =>
      ∃ clock, failClaim intents input clock = (answer, intents')
  | .record event, intents, answer, intents' =>
      recordLlmHealthNotification intents event = (answer, intents')
  | .observe input policy, intents, answer, intents' =>
      observeTransaction intents input policy = (answer, intents')
  | .suppress incidentId, intents, _, intents' =>
      suppressLlmHealthProductNotifications intents incidentId = intents'
  | .resume incidentId observedAt, intents, _, intents' =>
      resumeLlmHealthProductNotification intents incidentId observedAt = intents'

end Effect

/-- What a call returns. -/
inductive DeliveryResult (Id Token : Type) where
  | claimed (intent : Option (HealthNotificationIntent Id Token))
  | intent (intent : HealthNotificationIntent Id Token)
  | observation (observation : FailureObservation)
  | done

abbrev DeliveryProgram (Id Token : Type) : Type → Type :=
  Prog (DeliveryCmd Id Token) DeliveryCmd.Answer NotificationError

/-- `claimDue` writes the claim, then reads the intent back. -/
def claimDue (input : ClaimDue) (claimToken : Token) :
    DeliveryProgram Id Token (DeliveryResult Id Token) :=
  .act (.claim input claimToken) fun
    | none => .ret (.claimed none)
    | some id => .act (.getIntent id) fun intent => .ret (.claimed intent)

/-- A call of a delivery worker or of the processing of a health run. -/
inductive DeliveryCall (Id Token : Type) where
  | claimDue (input : ClaimDue)
  | markDelivered (input : MarkDelivered Token)
  | failClaim (input : FailClaim Token)
  | record (event : LlmHealthNotificationEvent Id)
  | observe (input : LlmHealthNotificationInput Id) (policy : LlmHealthNotificationPolicy)
  | suppress (incidentId : Nat)
  | resume (incidentId : Nat) (observedAt : Date)

/-- The program of a call that draws a token. -/
def DeliveryCall.program (randomUUID : Token) :
    DeliveryCall Id Token → DeliveryProgram Id Token (DeliveryResult Id Token)
  | .claimDue input => Health.claimDue input randomUUID
  | .markDelivered input => .act (.markDelivered input) fun answer =>
      (Prog.ofExcept answer).bind fun _ => .ret .done
  | .failClaim input => .act (.failClaim input) fun answer =>
      (Prog.ofExcept answer).bind fun intent => .ret (.intent intent)
  | .record event => .act (.record event) fun _ => .ret .done
  | .observe input policy => .act (.observe input policy) fun answer =>
      (Prog.ofExcept answer).bind fun observation => .ret (.observation observation)
  | .suppress incidentId => .act (.suppress incidentId) fun _ => .ret .done
  | .resume incidentId observedAt => .act (.resume incidentId observedAt) fun _ => .ret .done

/-- The calls of a run, and the token that each of them would draw. -/
structure DeliveryCalls (T Id Token : Type) where
  call : T → DeliveryCall Id Token
  randomUUID : T → Token
  fresh : Function.Injective randomUUID

/-- Every thread is one call. A worker that stops makes no further step. -/
def deliverySystem [DecidableEq Token] (calls : DeliveryCalls T Id Token) :
    System T (DeliveryCmd Id Token) DeliveryCmd.Answer NotificationError (DeliveryResult Id Token)
      (Intents Id Token) where
  prelude t := ((calls.call t).program (calls.randomUUID t)).bind fun result => .ret (some result)
  body _ := .ret none
  effect _ command w answer intents := DeliveryEffect command w.state answer intents
  env _ _ := False

abbrev DeliveryEvent (T Id Token : Type) : Type :=
  Event T (DeliveryCmd Id Token) DeliveryCmd.Answer NotificationError (DeliveryResult Id Token)
    (Intents Id Token)

abbrev DeliveryConfig (T Id Token : Type) : Type :=
  Config T (DeliveryCmd Id Token) DeliveryCmd.Answer NotificationError (DeliveryResult Id Token)
    (Intents Id Token)

end SellerAgents.Health
