import SellerAgents.AuthRefresh.Protocol

namespace SellerAgents.AuthRefresh
open Subscriptions (Date)

variable {Token : Type}

/-- The row of the token that may still be refreshed. -/
def Server.IsCurrent (s : Server Token) (row : RefreshTokenRow Token) : Prop :=
  row ∈ s.rows ∧ row.consumedAt = none

/-- A token has been rotated with a key into a row. -/
def Server.Successor (derive : Token → Nat → Token) (s : Server Token) (token : Token) (key : Nat)
    (row : RefreshTokenRow Token) : Prop :=
  ∃ old ∈ s.rows, old.tokenHash = token ∧ old.consumedAt.isSome ∧ row ∈ s.rows ∧
    old.replacedByTokenId = some row.id ∧ row.rotationIdempotencyHash = some key ∧
    row.replayExpiresAt.isSome ∧ row.tokenHash = derive token key

/-- The rows of a session that was refreshed by the requests of `sent` alone. -/
structure Server.Chain (derive : Token → Nat → Token) (s : Server Token) (sent : List (Token × Nat)) :
    Prop where
  ids : (s.rows.map RefreshTokenRow.id).Nodup
  tokens : (s.rows.map RefreshTokenRow.tokenHash).Nodup
  current : ∀ a b, s.IsCurrent a → s.IsCurrent b → a = b
  consumed : ∀ old ∈ s.rows, old.consumedAt.isSome →
    ∃ key row, (old.tokenHash, key) ∈ sent ∧ s.Successor derive old.tokenHash key row

/-- A state holds the current token, and the key it was sent with, or the one before it with the key
that rotated it. -/
inductive Holds (derive : Token → Nat → Token) (s : Server Token) (sent : List (Token × Nat))
    (state : ClientState Token) (credentials : Credentials Token) : Prop where
  | current (row : RefreshTokenRow Token) (isCurrent : s.IsCurrent row)
    (token : row.tokenHash = credentials.refreshToken)
    (rotation : ∀ key, (credentials.refreshToken, key) ∈ sent →
      state.rotation = some ⟨state.generation, credentials.refreshToken, key⟩)
  | previous (row : RefreshTokenRow Token) (key : Nat) (isCurrent : s.IsCurrent row)
    (successor : s.Successor derive credentials.refreshToken key row)
    (wasSent : (credentials.refreshToken, key) ∈ sent)
    (rotation : state.rotation = some ⟨state.generation, credentials.refreshToken, key⟩)
    (unsent : ∀ key', (row.tokenHash, key') ∉ sent)

/-- What a state in memory or in the storage keeps. -/
structure ClientState.Sound (derive : Token → Nat → Token) (s : Server Token)
    (sent : List (Token × Nat)) (state : ClientState Token) : Prop where
  holds : ∀ credentials, state.credentials = some credentials → Holds derive s sent state credentials
  rotation : ∀ rotation, state.rotation = some rotation → rotation.generation ≤ state.generation ∧
    ∃ credentials, state.credentials = some credentials ∧
      rotation.refreshToken = credentials.refreshToken

/-- The state that a storage transaction writes. -/
def Mutation.next : Mutation Token → ClientState Token
  | .commit next _ _ | .cancel next _ | .denial next => next

/-- The rotation record of a flight. -/
def Flight.rotation : Flight Token → Option (RotationRecord Token)
  | .preparing _ rotation _ | .ready _ rotation _ | .waiting _ _ rotation _ | .received _ rotation _ =>
    some rotation
  | _ => none

/-- The states a worker works with or may be restored from. -/
inductive LiveIn (memory : Option (ClientState Token)) (disk : ClientState Token)
    (mutation : Option (Mutation Token)) (state : ClientState Token) : Prop where
  | memory (h : memory = some state)
  | disk (h : disk = state)
  | queue (running : Mutation Token) (h : mutation = some running) (next : running.next = state)

/-- A state that memory, the disk or a transaction under way holds. -/
def World.Live (w : World Token) : ClientState Token → Prop := LiveIn w.memory w.disk w.mutation

/-- The rotation records of these states and of the flights. -/
inductive KnownIn (live : ClientState Token → Prop) (flights : Nat → Option (Flight Token))
    (rotation : RotationRecord Token) : Prop where
  | live (state : ClientState Token) (h : live state) (eq : state.rotation = some rotation)
  | flight (id : Nat) (flight : Flight Token) (h : flights id = some flight)
    (eq : flight.rotation = some rotation)

/-- A rotation record of a live state or of a flight. -/
def World.Known (w : World Token) : RotationRecord Token → Prop := KnownIn w.Live w.flights

/-- A flight's context names its rotation record, and what it received is what its request was
answered with. -/
def Flight.Sound (derive : Token → Nat → Token) (s : Server Token) : Flight Token → Prop
  | .preparing context rotation _ | .ready context rotation _ | .waiting _ context rotation _ =>
    context.generation = rotation.generation ∧ context.rotationKey = some rotation.idempotencyKey
  | .received context rotation credentials =>
    (context.generation = rotation.generation ∧ context.rotationKey = some rotation.idempotencyKey) ∧
      credentials.refreshToken = derive rotation.refreshToken rotation.idempotencyKey ∧
      ∃ row, s.Successor derive rotation.refreshToken rotation.idempotencyKey row
  | _ => True

/-- A flight that has sent this token and key. -/
def Flight.Sent (token : Token) (key : Nat) : Flight Token → Prop
  | .entering _ | .preparing _ _ _ | .ready _ _ _ => False
  | .waiting _ _ rotation _ => rotation.refreshToken = token ∧ rotation.idempotencyKey = key
  | _ => True

/-- A reply that a waiting flight may believe. -/
def Flight.Believes (derive : Token → Nat → Token) (s : Server Token) (reply : Reply Token) :
    Flight Token → Prop
  | .entering _ | .preparing _ _ _ | .ready _ _ _ => False
  | .waiting _ _ rotation _ => ∀ accessToken refreshToken, reply = .refreshed accessToken refreshToken →
    refreshToken = derive rotation.refreshToken rotation.idempotencyKey ∧
      ∃ row, s.Successor derive rotation.refreshToken rotation.idempotencyKey row
  | _ => True

/-- How memory, storage and the running mutation fit together. -/
def World.Aligned [DecidableEq Token] (derive : Token → Nat → Token) (w : World Token) : Prop :=
  match w.mutation with
  | none => ∀ state, w.memory = some state → w.disk = state
  | some (.denial next) => w.memory = some next ∧
    ∀ rotation, next.rotation = some rotation → rotation.generation ≠ next.generation
  | some (.cancel next written) => ∃ state, w.memory = some state ∧
    w.disk = (if written then next else state)
  | some (.commit next written _) => ∃ state credentials, w.memory = some state ∧
    w.disk = (if written then next else state) ∧ state.credentials = some credentials ∧
    (state.standing credentials = none ∨
      ∃ row key, w.server.Successor derive credentials.refreshToken key row)

/-- What holds of every world that a prudent run reaches. -/
structure World.Inv [DecidableEq Token] (derive : Token → Nat → Token) (w : World Token) : Prop where
  chain : w.server.Chain derive w.sent
  functional : ∀ token key key', (token, key) ∈ w.sent → (token, key') ∈ w.sent → key = key'
  rows : ∀ token key, (token, key) ∈ w.sent → ∃ row ∈ w.server.rows, row.tokenHash = token
  live : ∀ state, w.Live state → state.Sound derive w.server w.sent
  records : ∀ r r', w.Known r → w.Known r' → r.idempotencyKey = r'.idempotencyKey → r = r'
  drawn : ∀ r, w.Known r → r.idempotencyKey < w.draws
  flights : ∀ id flight, w.flights id = some flight → flight.Sound derive w.server
  numbered : ∀ id flight, w.flights id = some flight → id < w.nextFlight
  requests : ∀ q ∈ w.requests, (q.refreshToken, q.idempotencyKey) ∈ w.sent ∧ q.flight < w.nextFlight ∧
    ∀ flight, w.flights q.flight = some flight → flight.Sent q.refreshToken q.idempotencyKey
  responses : ∀ p ∈ w.responses, p.flight < w.nextFlight ∧
    ∀ flight, w.flights p.flight = some flight → flight.Believes derive w.server p.reply
  aligned : w.Aligned derive
  answers : .reuse ∉ w.answers
  uncompromised : w.server.status ≠ .compromised

end SellerAgents.AuthRefresh
