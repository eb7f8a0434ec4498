import SellerAgents.AuthRefresh.Client

namespace SellerAgents.AuthRefresh
open Subscriptions (Date)

/-- What happens next. Times, random ids, access tokens and failures are the environment's choice.
-/
inductive Event where
  | refresh (context : Option Context) (force : Bool) (rejectedAccessToken : Option Nat)
    (accessFresh : Bool)
  | prepare (flight : Nat)
  | write
  | finish
  | send (flight : Nat)
  | transportFailure (flight : Nat)
  | serve (request : Nat) (serviceNow now : Date) (replacementId : Nat) (fails identified : Bool)
    (accessToken : Nat)
  | unavailable (request : Nat)
  | loseRequest (request : Nat)
  | loseResponse (response : Nat)
  | deliver (response : Nat)
  | accept (flight : Nat)
  | reject (flight : Nat)
  | invalidateKnown (context : Context) (terminal : Bool)
  | commonDeny (context : Context)
  | cancelActivation
  | crash
  | restore (discard : Bool)
  | revoke (now : Date)
  | setOwners (active : Bool)

def refreshTokenTtlMs : Int := 30 * 24 * 60 * 60000

def refreshReplayWindowMs : Int := 2 * 60000

variable {Token : Type} [DecidableEq Token] (derive : Token → Nat → Token)

namespace World

/-- Whether a call of `refresh` returns the promise of the flight under way. -/
def coalesced (w : World Token) (state : ClientState Token) (entry : Context) : Bool :=
  (w.refreshFlight.bind w.flights).any fun flight =>
    state.isCurrent flight.context && flight.context.generation == entry.generation &&
      flight.context.deviceId == entry.deviceId && flight.context.sessionId == entry.sessionId

/-- `refresh(options)` up to its flight. -/
def refresh (w : World Token) (context : Option Context) (force : Bool)
    (rejectedAccessToken : Option Nat) (accessFresh : Bool) : Option (World Token) :=
  w.memory.bind fun state =>
    let entry := context.getD state.context
    if !state.isCurrent entry then some w
    else
      match state.credentials with
      | none => some w
      | some credentials =>
        if force && rejectedAccessToken.any (· ≠ credentials.accessToken) then some w
        else if !force && accessFresh && state.rotation.isNone then some w
        else if w.coalesced state entry then some w
        else some { w.setFlight w.nextFlight (some (.entering entry)) with
          refreshFlight := some w.nextFlight
          nextFlight := w.nextFlight + 1 }

/-- The queued part of a refresh: it reuses the standing rotation record or starts the commit of a
new one. -/
def prepare (w : World Token) (id : Nat) : Option (World Token) :=
  match w.memory, w.mutation, w.flights id with
  | some state, none, some (.entering entry) =>
    match state.isCurrent entry, state.credentials with
    | true, some credentials =>
      match state.standing credentials with
      | some rotation =>
        some (w.setFlight id (some (.ready
          { state.context with rotationKey := some rotation.idempotencyKey } rotation credentials)))
      | none =>
        let rotation := ⟨state.generation, credentials.refreshToken, w.draws⟩
        some { w.setFlight id (some (.preparing
            { state.context with rotationKey := some rotation.idempotencyKey } rotation credentials)) with
          mutation := some (.commit { state with rotation := some rotation } false id)
          draws := w.draws + 1 }
    | _, _ => some (w.setFlight id none)
  | _, _, _ => none

/-- The record of the running mutation reaches the storage. -/
def write (w : World Token) : Option (World Token) :=
  match w.mutation with
  | some (.commit next false id) =>
    some { w with disk := next, mutation := some (.commit next true id) }
  | some (.cancel next false) =>
    some { w with disk := next, mutation := some (.cancel next true) }
  | some (.denial next) => some { w with disk := next, mutation := none }
  | _ => none

/-- A flight whose commit has ended. -/
def committed (w : World Token) (id : Nat) : Option (Flight Token) :=
  (w.flights id).bind fun flight =>
    match flight with
    | .preparing context rotation credentials => some (.ready context rotation credentials)
    | _ => none

/-- `state = next` after the record is stored. -/
def finish (w : World Token) : Option (World Token) :=
  match w.mutation with
  | some (.commit next true id) =>
    some { w.setFlight id (w.committed id) with memory := some next, mutation := none }
  | some (.cancel next true) => some { w with memory := some next, mutation := none }
  | _ => none

/-- The first request of a prepared flight. -/
def send (w : World Token) (id : Nat) : Option (World Token) :=
  match w.memory, w.flights id with
  | some state, some (.ready context rotation credentials) =>
    if state.isCurrent context then
      some ((w.post id false rotation).setFlight id (some (.waiting false context rotation credentials)))
    else some (w.setFlight id none)
  | _, _ => none

/-- A request fails without a status: the first is repeated with its key. -/
def transportFailure (w : World Token) (id : Nat) : Option (World Token) :=
  match w.memory, w.flights id with
  | some state, some (.waiting false context rotation credentials) =>
    if state.isCurrent context then
      some ((w.post id true rotation).setFlight id (some (.waiting true context rotation credentials)))
    else some (w.setFlight id none)
  | some _, some (.waiting true _ _ _) => some (w.setFlight id none)
  | _, _ => none

/-- What the service replies after `rotateRefresh`. -/
def reply (answer : Rotation.Answer) (request : Request Token) (identified : Bool)
    (accessToken : Nat) : Reply Token :=
  if (answer = .rotated ∨ answer = .replay) ∧ identified then
    .refreshed accessToken (derive request.refreshToken request.idempotencyKey)
  else .refreshInvalid

/-- `refresh(refreshToken, idempotencyKey)` of the service as one step. -/
def serve (w : World Token) (index : Nat) (serviceNow now : Date) (replacementId : Nat)
    (fails identified : Bool) (accessToken : Nat) : Option (World Token) :=
  w.requests[index]?.bind fun request =>
    if !w.server.inWindow request.refreshToken request.idempotencyKey now then none
    else
      let input : RotateRefresh Token :=
        { tokenHash := request.refreshToken
          replacementHash := derive request.refreshToken request.idempotencyKey
          idempotencyHash := request.idempotencyKey
          expiresAt := serviceNow + refreshTokenTtlMs
          replayUntil := serviceNow + refreshReplayWindowMs }
      let result := w.server.rotateRefresh input now replacementId fails
      some { w with
        requests := w.requests.eraseIdx index
        responses := ⟨request.flight, request.second, reply derive result.1 request identified accessToken⟩ ::
          w.responses
        server := result.2
        answers := result.1 :: w.answers }

/-- The service answers with a status of its own: a rate limit, a failure. -/
def unavailable (w : World Token) (index : Nat) : Option (World Token) :=
  w.requests[index]?.map fun request =>
    { w with
      requests := w.requests.eraseIdx index
      responses := ⟨request.flight, request.second, .failed⟩ :: w.responses }

/-- What a flight becomes with a reply. -/
def Flight.answered (context : Context) (rotation : RotationRecord Token)
    (credentials : Credentials Token) : Reply Token → Option (Flight Token)
  | .refreshed accessToken refreshToken => some (.received context rotation
    { credentials with accessToken := accessToken, refreshToken := refreshToken })
  | .refreshInvalid => some (.rejected context)
  | .failed => none

/-- A response arrives; it counts only for the request its flight waits for. -/
def deliver (w : World Token) (index : Nat) : Option (World Token) :=
  w.responses[index]?.map fun response =>
    let w' := { w with responses := w.responses.eraseIdx index }
    match w.flights response.flight with
    | some (.waiting second context rotation credentials) =>
      if second = response.second then
        w'.setFlight response.flight (Flight.answered context rotation credentials response.reply)
      else w'
    | _ => w'

/-- `commitIfCurrent(prepared.context, ...)` with the new credentials. -/
def accept (w : World Token) (id : Nat) : Option (World Token) :=
  match w.memory, w.mutation, w.flights id with
  | some state, none, some (.received context _ credentials) =>
    if state.isCurrent context then
      some { w.setFlight id (some (.accepting context)) with
        mutation := some (.commit { state with credentials := some credentials, rotation := none } false id) }
    else some (w.setFlight id none)
  | _, _, _ => none

/-- `invalidateKnown(context, failure, terminal)`. -/
def invalidateKnown (w : World Token) (context : Context) (terminal : Bool) : Option (World Token) :=
  match w.memory, w.mutation with
  | some state, none =>
    if state.isCurrent context then some (w.deny (state.invalidated terminal)) else some w
  | _, _ => none

/-- The commit of `bootstrapOnline` when the verified response denies the authority that all scopes
share; it is in memory before it is stored. -/
def commonDeny (w : World Token) (context : Context) : Option (World Token) :=
  match w.memory, w.mutation with
  | some state, none => if state.isCurrent context then some (w.deny state.raised) else some w
  | _, _ => none

/-- `cancelActivation()`, which checks no context. -/
def cancelActivation (w : World Token) : Option (World Token) :=
  match w.memory, w.mutation with
  | some state, none => some { w with mutation := some (.cancel state.raised false) }
  | _, _ => none

/-- `AUTH_REFRESH_INVALID` denies the context of its flight. -/
def reject (w : World Token) (id : Nat) : Option (World Token) :=
  match w.flights id with
  | some (.rejected context) => (w.setFlight id none).invalidateKnown context true
  | _ => none

/-- The worker dies. -/
def crash (w : World Token) : World Token :=
  { w with memory := none, mutation := none, flights := fun _ => none, refreshFlight := none }

/-- `restoreOnce()`: a stored authority that does not pass its checks is discarded, and so is a
rotation record without credentials. -/
def restore (w : World Token) (discard : Bool) : Option (World Token) :=
  if w.memory.isSome then none
  else if w.disk.credentials.isNone then some (w.deny { w.disk with rotation := none })
  else if discard then some (w.deny w.disk.raised)
  else some { w with memory := some w.disk }

/-- The session is revoked with its device. -/
def revoke (w : World Token) (now : Date) : World Token :=
  if w.server.status = .active then
    { w with server := { w.server with status := .revoked, revokedAt := some now } }
  else w

end World

/-- One step of the system; none when the event cannot happen. -/
def World.step (w : World Token) : Event → Option (World Token)
  | .refresh context force rejected fresh => w.refresh context force rejected fresh
  | .prepare id => w.prepare id
  | .write => w.write
  | .finish => w.finish
  | .send id => w.send id
  | .transportFailure id => w.transportFailure id
  | .serve index serviceNow now replacementId fails identified accessToken =>
    w.serve derive index serviceNow now replacementId fails identified accessToken
  | .unavailable index => w.unavailable index
  | .loseRequest index => some { w with requests := w.requests.eraseIdx index }
  | .loseResponse index => some { w with responses := w.responses.eraseIdx index }
  | .deliver index => w.deliver index
  | .accept id => w.accept id
  | .reject id => w.reject id
  | .invalidateKnown context terminal => w.invalidateKnown context terminal
  | .commonDeny context => w.commonDeny context
  | .cancelActivation => w.cancelActivation
  | .crash => some w.crash
  | .restore discard => w.restore discard
  | .revoke now => some (w.revoke now)
  | .setOwners active => some { w with server := { w.server with ownersActive := active } }

/-- A run of events. -/
def World.run (w : World Token) : List Event → Option (World Token)
  | [] => some w
  | event :: events => (w.step derive event).bind fun w' => w'.run events

/-- A session as its activation leaves it: the client holds its first token. -/
def World.activated (credentials : Credentials Token) (generation : Nat) (id : Nat) (expiresAt : Date) :
    World Token where
  memory := some ⟨generation, some credentials, none⟩
  disk := ⟨generation, some credentials, none⟩
  mutation := none
  flights := fun _ => none
  refreshFlight := none
  nextFlight := 0
  draws := 0
  requests := []
  responses := []
  server :=
    { rows := [⟨id, credentials.refreshToken, 0, expiresAt, none, none, none, none, none⟩]
      status := .active
      revokedAt := none
      ownersActive := true }
  sent := []
  answers := []

/-- No refresh request has gone out with the token a state holds. -/
def World.Unsent (w : World Token) (state : ClientState Token) : Prop :=
  ∀ credentials key, state.credentials = some credentials → (credentials.refreshToken, key) ∉ w.sent

/-- The commit of a cancelled activation is under way. -/
def World.cancelling (w : World Token) : Bool :=
  match w.mutation with
  | some (.cancel _ _) => true
  | _ => false

/-- A step that raises the generation and keeps the credentials does so before any refresh request
has gone out with their token, and none goes out while such a step is being stored that is not in
memory yet. -/
def World.Prudent (w : World Token) : Event → Prop
  | .invalidateKnown _ false | .commonDeny _ | .cancelActivation =>
    ∀ state, w.memory = some state → w.Unsent state
  | .restore true => w.Unsent w.disk
  | .send _ | .transportFailure _ => w.cancelling = false
  | _ => True

/-- Every step of a run is prudent. -/
def World.PrudentRun (w : World Token) : List Event → Prop
  | [] => True
  | event :: events => w.Prudent event ∧ ∀ w', w.step derive event = some w' → w'.PrudentRun events

end SellerAgents.AuthRefresh
