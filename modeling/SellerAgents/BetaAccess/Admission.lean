import SellerAgents.BetaAccess.Tables

open Relational

namespace SellerAgents.BetaAccess

inductive BetaIdentityInvitationStatus where
  | PENDING
  | CONSUMED
  | REVOKED
  | EXPIRED

structure BetaIdentityInvitation where
  id : String
  status : BetaIdentityInvitationStatus
  createdAt : Int
  expiresAt : Int
  consumedAt : Option Int
  revokedAt : Option Int

/-- A state as the repository returns it. -/
structure BetaAdmissionView : Type extends BetaAdmissionState where
  remaining : Int

inductive BetaRefusal where
  | STALE
  | CONFLICT
  | FORBIDDEN
  | CAPACITY_REACHED
  | NOT_FOUND

/-- The result of an admin request. -/
inductive BetaResult (α : Type) where
  | APPLIED (value : α) (replay : Bool)
  | refused (kind : BetaRefusal)

def state (row : BetaAdmissionState) : BetaAdmissionView :=
  { row with remaining := max 0 (row.capacity - row.admitted) }

/-- `invitation`; `isActive` is the database's answer, or the comparison with `at`. -/
def invitation (row : Invitation) (isActive : Bool) : BetaIdentityInvitation where
  id := row.id
  status :=
    if row.consumedAt.isSome then .CONSUMED
    else if row.revokedAt.isSome then .REVOKED
    else if isActive then .PENDING
    else .EXPIRED
  createdAt := row.createdAt
  expiresAt := row.expiresAt
  consumedAt := row.consumedAt
  revokedAt := row.revokedAt

/-! `inviteIdentity`. -/

structure InviteInput where
  actorPrincipalId : String
  requestIdHash : String
  payloadHash : String
  expectedRevision : Nat
  normalizedIdentityTarget : String
  ttlMs : Int
  id : String

/-- The row that an invitation inserts. -/
def InviteInput.row (input : InviteInput) (clock : TxClock) : Invitation where
  id := input.id
  normalizedIdentityTarget := input.normalizedIdentityTarget
  createRequestIdHash := input.requestIdHash
  createPayloadHash := input.payloadHash
  createdByAdminPrincipalId := input.actorPrincipalId
  createdAt := clock.start
  expiresAt := clock.reading 3 input.id + input.ttlMs

def insertInvitation (row : Invitation) : Tx BetaDatabase Unit := do
  let db ← get
  ensure (Fresh (fun r => some r.id) row db.invitations) "beta_identity_invitations_pkey"
  ensure (Fresh (fun r => some r.createRequestIdHash) row db.invitations)
    "beta_identity_invitations_create_request_unique"
  ensure (row.createdAt < row.expiresAt) "beta_identity_invitations_expiry_after_creation"
  modify fun db => { db with invitations := db.invitations ++ [row] }

def inviteIdentity (input : InviteInput) (clock : TxClock) :
    Tx BetaDatabase (BetaResult BetaIdentityInvitation) := do
  let db ← get
  if !db.managers.contains input.actorPrincipalId then return .refused .FORBIDDEN
  else
    match db.invitations.find? (·.createRequestIdHash = input.requestIdHash) with
    | some prior =>
      if prior.createPayloadHash ≠ input.payloadHash then return .refused .CONFLICT
      else return .APPLIED (invitation prior (clock.reading 0 prior.id < prior.expiresAt)) true
    | none =>
      if db.identities.any (·.normalizedIdentifier = input.normalizedIdentityTarget) then
        return .refused .CONFLICT
      else if db.state.revision ≠ input.expectedRevision then return .refused .STALE
      else if db.state.mode ≠ .CLOSED then return .refused .CONFLICT
      else if db.invitations.any fun row =>
          row.normalizedIdentityTarget = input.normalizedIdentityTarget &&
            row.activeAt (clock.reading 1 row.id) then
        return .refused .CONFLICT
      else if db.state.capacity ≤ db.state.admitted + db.activeInvitationCount (clock.reading 2) then
        return .refused .CAPACITY_REACHED
      else
        let row := input.row clock
        insertInvitation row
        return .APPLIED (invitation row (clock.reading 4 row.id < row.expiresAt)) false

/-! `revokeIdentityInvitation`. -/

structure RevokeInput where
  actorPrincipalId : String
  invitationId : String
  requestIdHash : String
  payloadHash : String
  now : Int

/-- The revoked row. -/
def RevokeInput.revoked (input : RevokeInput) (row : Invitation) : Invitation :=
  { row with
    revokedAt := some input.now
    revokedByAdminPrincipalId := some input.actorPrincipalId
    revokeRequestIdHash := some input.requestIdHash
    revokePayloadHash := some input.payloadHash }

def revokeIdentityInvitation (input : RevokeInput) (clock : TxClock) :
    Tx BetaDatabase (BetaResult BetaIdentityInvitation) := do
  let db ← get
  if !db.managers.contains input.actorPrincipalId then return .refused .FORBIDDEN
  else
    match db.invitations.find? (·.id = input.invitationId) with
    | none => return .refused .NOT_FOUND
    | some row =>
      match db.invitations.find? (·.revokeRequestIdHash = some input.requestIdHash) with
      | some prior =>
        if prior.id ≠ input.invitationId || prior.revokePayloadHash ≠ some input.payloadHash then
          return .refused .CONFLICT
        else return .APPLIED (invitation prior (input.now < prior.expiresAt)) true
      | none =>
        if !row.activeAt (clock.reading 0 row.id) then return .refused .CONFLICT
        else
          modify fun db => { db with
            invitations := updateWhere (·.id = input.invitationId) input.revoked db.invitations }
          return .APPLIED (invitation (input.revoked row) (input.now < row.expiresAt)) false

/-! `mutate`. -/

structure MutateInput where
  actorPrincipalId : String
  requestIdHash : String
  payloadHash : String
  expectedRevision : Nat
  action : BetaAdminAction
  amount : Option Int := none
  capacity : Option Int := none
  now : Int

def MutateInput.newMode (input : MutateInput) (current : BetaAdmissionState) : BetaMode :=
  match input.action with
  | .OPEN => .OPEN
  | .PAUSE => .PAUSED
  | .CLOSE => .CLOSED
  | _ => current.mode

def MutateInput.newCapacity (input : MutateInput) (current : BetaAdmissionState) : Int :=
  match input.action with
  | .ADD_CAPACITY => current.capacity + input.amount.getD 0
  | .SET_CAPACITY => input.capacity.getD current.capacity
  | _ => current.capacity

/-- The state that a mutation writes. -/
def MutateInput.next (input : MutateInput) (current : BetaAdmissionState) : BetaAdmissionState :=
  { current with
    mode := input.newMode current
    capacity := input.newCapacity current
    revision := current.revision + 1
    updatedAt := input.now }

def mutate (input : MutateInput) (clock : TxClock) :
    Tx BetaDatabase (BetaResult BetaAdmissionView) := do
  let db ← get
  if !db.managers.contains input.actorPrincipalId then return .refused .FORBIDDEN
  else
    match db.mutations.find? (·.requestIdHash = input.requestIdHash) with
    | some prior =>
      if prior.payloadHash ≠ input.payloadHash then return .refused .CONFLICT
      else return .APPLIED (state prior.new) true
    | none =>
      let newCapacity := input.newCapacity db.state
      if db.state.revision ≠ input.expectedRevision then return .refused .STALE
      else if newCapacity < db.state.admitted + db.activeInvitationCount (clock.reading 0) ||
          2147483647 < newCapacity then
        return .refused .CONFLICT
      else
        let next := input.next db.state
        modify fun db => { db with
          state := next
          mutations := db.mutations ++
            [{ requestIdHash := input.requestIdHash
               payloadHash := input.payloadHash
               actorPrincipalId := input.actorPrincipalId
               action := input.action
               old := db.state
               new := next }] }
        return .APPLIED (state next) false

end SellerAgents.BetaAccess
