import SellerAgents.Subscriptions.Lifecycle

namespace SellerAgents.AuthRefresh
open Subscriptions (Date)

/-- A row of `refresh_tokens` of the session. A hash column holds what it is the digest of. -/
structure RefreshTokenRow (Token : Type) where
  id : Nat
  tokenHash : Token
  generation : Nat
  expiresAt : Date
  consumedAt : Option Date
  replacedByTokenId : Option Nat
  reuseDetectedAt : Option Date
  rotationIdempotencyHash : Option Nat
  replayExpiresAt : Option Date

inductive SessionStatus where
  | active
  | revoked
  | compromised
deriving DecidableEq

/-- The session with its tokens; `ownersActive` says that its device, account and user are `ACTIVE`.
-/
structure Server (Token : Type) where
  rows : List (RefreshTokenRow Token)
  status : SessionStatus
  revokedAt : Option Date
  ownersActive : Bool

structure RotateRefresh (Token : Type) where
  tokenHash : Token
  replacementHash : Token
  idempotencyHash : Nat
  expiresAt : Date
  replayUntil : Date

inductive Rotation.Answer where
  | rotated
  | replay
  | invalid
  | reuse
deriving DecidableEq

variable {Token : Type} [DecidableEq Token]

/-- The row a rotation inserts. -/
def replacement (input : RotateRefresh Token) (token : RefreshTokenRow Token) (replacementId : Nat) :
    RefreshTokenRow Token where
  id := replacementId
  tokenHash := input.replacementHash
  generation := token.generation + 1
  expiresAt := input.expiresAt
  consumedAt := none
  replacedByTokenId := none
  reuseDetectedAt := none
  rotationIdempotencyHash := some input.idempotencyHash
  replayExpiresAt := some input.replayUntil

/-- Whether the keys of a row are free. -/
def Server.admits (s : Server Token) (row : RefreshTokenRow Token) : Bool :=
  s.rows.all fun other => other.id ≠ row.id && other.tokenHash ≠ row.tokenHash &&
    other.generation ≠ row.generation

/-- `UPDATE refresh_tokens SET consumed_at, replaced_by_token_id` on one row. -/
def RefreshTokenRow.consume (id replacementId : Nat) (now : Date) (row : RefreshTokenRow Token) :
    RefreshTokenRow Token :=
  if row.id = id then { row with consumedAt := some now, replacedByTokenId := some replacementId }
  else row

/-- The two writes of a rotation. -/
def Server.rotate (s : Server Token) (token row : RefreshTokenRow Token) (now : Date) :
    Server Token :=
  { s with rows := s.rows.map (RefreshTokenRow.consume token.id row.id now) ++ [row] }

/-- The row that replaced a consumed token, when a request repeats the rotation that inserted it. -/
def Server.replayed (s : Server Token) (token : RefreshTokenRow Token) (idempotencyHash : Nat) :
    Option (RefreshTokenRow Token) :=
  token.replacedByTokenId.bind fun id =>
    s.rows.find? fun row => row.id = id && row.rotationIdempotencyHash = some idempotencyHash

/-- The marks a reuse leaves. -/
def Server.compromise (s : Server Token) (token : RefreshTokenRow Token) (now : Date) :
    Server Token :=
  { s with
    rows := s.rows.map fun other =>
      if other.id = token.id then { other with reuseDetectedAt := some (other.reuseDetectedAt.getD now) }
      else other
    status := .compromised
    revokedAt := some (s.revokedAt.getD now) }

/-- `rotateRefresh(input)` at a time; `fails` when one of the writes does, which leaves nothing
behind. -/
def Server.rotateRefresh (s : Server Token) (input : RotateRefresh Token) (now : Date)
    (replacementId : Nat) (fails : Bool) : Rotation.Answer × Server Token :=
  match s.rows.find? fun row => row.tokenHash = input.tokenHash with
  | none => (.invalid, s)
  | some token =>
    if !s.ownersActive || s.status ≠ .active || s.revokedAt.isSome || token.expiresAt ≤ now then
      (.invalid, s)
    else if token.consumedAt.isNone then
      let row := replacement input token replacementId
      if fails || !s.admits row then (.invalid, s) else (.rotated, s.rotate token row now)
    else if (s.replayed token input.idempotencyHash).any fun row => row.replayExpiresAt.any (now < ·) then
      (.replay, s)
    else (.reuse, s.compromise token now)

/-- Whether a retry comes inside the replay window of the rotation it repeats. -/
def Server.inWindow (s : Server Token) (tokenHash : Token) (idempotencyHash : Nat) (now : Date) :
    Bool :=
  match s.rows.find? fun row => row.tokenHash = tokenHash with
  | none => true
  | some token => (s.replayed token idempotencyHash).all fun row => row.replayExpiresAt.any (now < ·)

end SellerAgents.AuthRefresh

namespace SellerAgents.AuthRefresh

structure Credentials (Token : Type) where
  deviceId : Nat
  sessionId : Nat
  accessToken : Nat
  refreshToken : Token

/-- The rotation record: which key a refresh of a token is sent with. Keys are numbered by their
draws from `crypto.randomUUID`. -/
structure RotationRecord (Token : Type) where
  generation : Nat
  refreshToken : Token
  idempotencyKey : Nat

/-- The part of the authorization state that refreshing reads and writes. -/
structure ClientState (Token : Type) where
  generation : Nat
  credentials : Option (Credentials Token)
  rotation : Option (RotationRecord Token)

/-- What a step remembers of the state it began in. -/
structure Context where
  generation : Nat
  deviceId : Option Nat
  sessionId : Option Nat
  rotationKey : Option Nat

variable {Token : Type}

namespace ClientState

/-- `isCurrent(context)`. -/
def isCurrent (state : ClientState Token) (context : Context) : Bool :=
  state.generation == context.generation &&
    (context.deviceId.isNone || state.credentials.map Credentials.deviceId == context.deviceId) &&
    (context.sessionId.isNone || state.credentials.map Credentials.sessionId == context.sessionId) &&
    (context.rotationKey.isNone ||
      state.rotation.map RotationRecord.idempotencyKey == context.rotationKey)

/-- `contextForState()`. -/
def context (state : ClientState Token) : Context where
  generation := state.generation
  deviceId := state.credentials.map Credentials.deviceId
  sessionId := state.credentials.map Credentials.sessionId
  rotationKey := none

/-- The rotation record that still stands for the held token. -/
def standing [DecidableEq Token] (state : ClientState Token) (credentials : Credentials Token) :
    Option (RotationRecord Token) :=
  state.rotation.filter fun rotation =>
    rotation.generation = state.generation && rotation.refreshToken = credentials.refreshToken

/-- The state after `invalidateKnown`. -/
def invalidated (state : ClientState Token) (terminal : Bool) : ClientState Token where
  generation := state.generation + 1
  credentials := if terminal then none else state.credentials
  rotation := none

/-- The state after a step that raises the generation and leaves the credentials and the rotation
record: `discardRestoredAuthority`, a common denial of `bootstrapOnline`, `cancelActivation`. -/
def raised (state : ClientState Token) : ClientState Token :=
  { state with generation := state.generation + 1 }

end ClientState

/-- A call of `refresh` past its checks, by what it waits for. -/
inductive Flight (Token : Type) where
  | entering (context : Context)
  | preparing (context : Context) (rotation : RotationRecord Token) (credentials : Credentials Token)
  | ready (context : Context) (rotation : RotationRecord Token) (credentials : Credentials Token)
  | waiting (second : Bool) (context : Context) (rotation : RotationRecord Token)
    (credentials : Credentials Token)
  | received (context : Context) (rotation : RotationRecord Token) (credentials : Credentials Token)
  | accepting (context : Context)
  | rejected (context : Context)

/-- `owner.context`. -/
def Flight.context : Flight Token → Context
  | entering context | accepting context | rejected context => context
  | preparing context _ _ | ready context _ _ | waiting _ context _ _ | received context _ _ => context

/-- What the mutation queue is at work on: a commit of a refresh or of a cancelled activation, which
reaches memory after it is stored, or a denial, which is in memory before it is stored. -/
inductive Mutation (Token : Type) where
  | commit (next : ClientState Token) (written : Bool) (flight : Nat)
  | cancel (next : ClientState Token) (written : Bool)
  | denial (next : ClientState Token)

/-- A refresh request on its way to the server. -/
structure Request (Token : Type) where
  flight : Nat
  second : Bool
  refreshToken : Token
  idempotencyKey : Nat

inductive Reply (Token : Type) where
  | refreshed (accessToken : Nat) (refreshToken : Token)
  | refreshInvalid
  | failed

/-- The answer to a request on its way back. -/
structure Response (Token : Type) where
  flight : Nat
  second : Bool
  reply : Reply Token

/-- The browser client, the network and the server. `sent` and `answers` are the refresh requests
sent and the answers of `rotateRefresh`, latest first. -/
structure World (Token : Type) where
  memory : Option (ClientState Token)
  disk : ClientState Token
  mutation : Option (Mutation Token)
  flights : Nat → Option (Flight Token)
  refreshFlight : Option Nat
  nextFlight : Nat
  draws : Nat
  requests : List (Request Token)
  responses : List (Response Token)
  server : Server Token
  sent : List (Token × Nat)
  answers : List Rotation.Answer

namespace World

/-- A flight goes on, or ends with none. -/
def setFlight (w : World Token) (id : Nat) (flight : Option (Flight Token)) : World Token :=
  { w with flights := Function.update w.flights id flight }

/-- One refresh request goes out. -/
def post (w : World Token) (id : Nat) (second : Bool) (rotation : RotationRecord Token) :
    World Token :=
  { w with
    requests := ⟨id, second, rotation.refreshToken, rotation.idempotencyKey⟩ :: w.requests
    sent := (rotation.refreshToken, rotation.idempotencyKey) :: w.sent }

/-- `state = next` before the record is stored. -/
def deny (w : World Token) (next : ClientState Token) : World Token :=
  { w with memory := some next, mutation := some (.denial next) }

end World

end SellerAgents.AuthRefresh
