import SellerAgents.Concurrent.Pool
import SellerAgents.CredentialTransfer.Repository

open Concurrent

namespace SellerAgents.CredentialTransfer

open Js
open Subscriptions (Date)

/-- Why a call of the service rejects. -/
inductive Failure where
  | transfer (code : TransferFailure)
  /-- The schema refuses the input. -/
  | schema
  /-- The repository rejects for a reason of its own. -/
  | repository
deriving DecidableEq

/-- One process: the durable rows, the relay, the fences of the service and the clock. -/
structure TransferProcess where
  rows : Rows
  relay : EphemeralTransferRelay := {}
  inFlightRequests : List String := []
  stopped : Bool := false
  clock : Date := 0

namespace TransferProcess

variable (s : TransferProcess)

/-- Terminal local stop: discard opaque packets. -/
def stop : TransferProcess := { s with stopped := true, relay := s.relay.clear }

def assertRunning (isAvailable : Bool) : Except Failure Unit × TransferProcess :=
  if s.stopped || !isAvailable then (.error (.transfer .TRANSFER_CONFLICT), s.stop) else (.ok (), s)

/-- The check of a failed repository step. -/
def checkAvailable (isAvailable : Bool) : TransferProcess :=
  if !s.stopped && !isAvailable then s.stop else s

/-- The start of `forRequest`. -/
def enter (requestId : String) (isAvailable : Bool) : Except Failure Unit × TransferProcess :=
  let running := s.assertRunning isAvailable
  match running.1 with
  | .error error => (.error error, running.2)
  | .ok () =>
    if requestId ∈ s.inFlightRequests then (.error (.transfer .TRANSFER_CONFLICT), s)
    else (.ok (), { s with inFlightRequests := requestId :: s.inFlightRequests })

/-- The end of `forRequest`. -/
def leave (requestId : String) : TransferProcess :=
  { s with inFlightRequests := s.inFlightRequests.filter (· ≠ requestId) }

/-- A step of the relay at a reading of the clock. -/
def relayed (relay : EphemeralTransferRelay) (now : Date) : TransferProcess :=
  { s with relay, clock := now }

end TransferProcess

/-- The commands of a call. Each is synchronous; a command of the relay that is given no time reads
the clock. -/
inductive Cmd where
  | assertRunning
  | checkAvailable
  | enter (requestId : String)
  | leave (requestId : String)
  | now
  | repository (call : RepositoryCall) (now : Date)
  | reserve (packet : TransferPacketV1) (accountId sourceDeviceId : String) (expiresAt now : Date)
  | release (requestId : String) (reservationId : Nat)
  | activate (requestId : String) (reservationId : Nat) (packet : TransferPacketV1)
  | get (requestId : String)
  | isDelivered (requestId : String)
  | pinDelivered (requestId packetId : String)
  | delete (requestId : String)
  | prune (now : Date)
  | stop

@[reducible] def Cmd.Answer : Cmd → Type
  | .assertRunning | .enter _ => Except Failure Unit
  | .now => Date
  | .repository call _ => Except Failure call.Answer
  | .reserve _ _ _ _ _ => Except Failure Nat
  | .get _ => Option RelayPacket
  | .activate _ _ _ | .isDelivered _ | .pinDelivered _ _ => Bool
  | _ => Unit

/-- A program of the service. -/
abbrev Program (α : Type) : Type := Prog Cmd Cmd.Answer Failure α

/-- `throw new TransferError(code)`. -/
def fail {α : Type} (code : TransferFailure) : Program α := .throw (.transfer code)

def assertRunning : Program Unit := .act .assertRunning Prog.ofExcept

/-- `this.now()`. -/
def clockNow : Program Date := .act .now .ret

/-- The guarded part of a repository step. -/
def guardedStep (now : Program Date) (call : RepositoryCall) : Program call.Answer := do
  let now ← now
  let value ← .act (.repository call now) Prog.ofExcept
  assertRunning
  return value

/-- Guard continuations, not just entry. -/
def repositoryStep (now : Program Date) (call : RepositoryCall) : Program call.Answer := do
  assertRunning
  match ← (guardedStep now call).attempt with
  | .ok value => return value
  | .error error => .act .checkAvailable fun _ => .throw error

/-- Fail closed on overlapping mutations of one request. -/
def forRequest {α : Type} (requestId : String) (operation : Program α) : Program α := do
  .act (.enter requestId) Prog.ofExcept
  let result ← operation.attempt
  .act (.leave requestId) fun _ => Prog.ofExcept result

def create (principal : ExtensionPrincipal) (request : TransferCreateRequestV1) :
    Program TransferRequestV1 :=
  if request.recipientDeviceId ≠ principal.deviceId then fail .TRANSFER_DEVICE_REVOKED
  else repositoryStep clockNow (.create principal request)

/-- The fenced part of `sourceSeen`. -/
def seeSource (principal : ExtensionPrincipal) (requestId : String) : Program TransferRequestV1 := do
  let delivered ← .act (.isDelivered requestId) .ret
  if delivered then fail .TRANSFER_CONFLICT
  else
    let resident ← .act (.get requestId) .ret
    if resident.isSome then
      let prepared ← repositoryStep clockNow (.readForSource principal requestId)
      match prepared.filter (·.state = .PACKET_AVAILABLE_EPHEMERAL) with
      | none => fail .TRANSFER_CONFLICT
      | some prepared => return prepared
    else repositoryStep clockNow (.markSourceSeen principal requestId)

def sourceSeen (principal : ExtensionPrincipal) (requestId : String) : Program TransferRequestV1 := do
  let current ← repositoryStep clockNow (.readForSource principal requestId)
  if current.all fun row => row.sourceDeviceId.any (· ≠ principal.deviceId) then
    fail .TRANSFER_ACCOUNT_MISMATCH
  else forRequest requestId (seeSource principal requestId)

/-- What a caller submits. -/
structure TransferSubmitInput where
  requestId : String
  packetId : String
  envelope : JsString

/-- `TransferSubmitPacketV1Schema.parse`. -/
def TransferSubmitInput.parse (input : TransferSubmitInput) : Option TransferPacketV1 :=
  if 1 ≤ input.envelope.length ∧ input.envelope.length ≤ 131072 then
    some ⟨input.requestId, input.packetId, input.envelope⟩
  else none

/-- The part of `submit` after the reservation. -/
def activateReserved (principal : ExtensionPrincipal) (packet : TransferPacketV1)
    (reservationId : Nat) : Program (Option TransferRequestV1) := do
  let marked ← (repositoryStep clockNow (.markPacketAvailable principal packet.requestId)).attempt
  match marked with
  | .error error => .act (.release packet.requestId reservationId) fun _ => .throw error
  | .ok _ =>
    let active ← .act (.activate packet.requestId reservationId packet) .ret
    if active then repositoryStep clockNow (.read principal packet.requestId)
    else fail .TRANSFER_EXPIRED

/-- The fenced part of `submit`. -/
def submitPacket (principal : ExtensionPrincipal) (packet : TransferPacketV1) :
    Program (Option TransferRequestV1) := do
  let now ← clockNow
  match ← repositoryStep (.ret now) (.read principal packet.requestId) with
  | none => fail .TRANSFER_ACCOUNT_MISMATCH
  | some current =>
    if current.sourceDeviceId ≠ some principal.deviceId then fail .TRANSFER_ACCOUNT_MISMATCH
    else
      let reservationId ← .act
        (.reserve packet current.accountId principal.deviceId current.expiresAt now) Prog.ofExcept
      activateReserved principal packet reservationId

def submit (principal : ExtensionPrincipal) (input : TransferSubmitInput) :
    Program (Option TransferRequestV1) :=
  if (utf8Encode input.envelope).length > MAX_PACKET_ENVELOPE_BYTES then
    fail .TRANSFER_PACKET_TOO_LARGE
  else match input.parse with
    | none => .throw .schema
    | some packet => forRequest packet.requestId (submitPacket principal packet)

/-- Whether a resident packet is of the request that was read. -/
def belongs (request : TransferRequestV1) (packet : RelayPacket) : Bool :=
  packet.accountId = request.accountId && request.sourceDeviceId.all (· = packet.sourceDeviceId)

/-- The fenced part of `receive`. -/
def deliver (principal : ExtensionPrincipal) (requestId : String) (request : TransferRequestV1) :
    Program TransferPacketV1 := do
  match ← .act (.get requestId) .ret with
  | none => fail .SOURCE_OFFLINE
  | some packet =>
    if !belongs request packet then fail .TRANSFER_ACCOUNT_MISMATCH
    else
      let _ ← repositoryStep clockNow (.markDelivered principal requestId)
      let pinned ← .act (.pinDelivered requestId packet.packetId) .ret
      if pinned then return packet.toTransferPacketV1 else fail .SOURCE_OFFLINE

def receive (principal : ExtensionPrincipal) (requestId : String) : Program TransferPacketV1 := do
  match ← repositoryStep clockNow (.read principal requestId) with
  | none => fail .TRANSFER_ACCOUNT_MISMATCH
  | some request => forRequest requestId (deliver principal requestId request)

/-- The fenced part of `acknowledge`. -/
def complete (principal : ExtensionPrincipal) (ack : TransferAckV1) : Program TransferRequestV1 := do
  let packet ← .act (.get ack.requestId) .ret
  if packet.all (·.packetId ≠ ack.packetId) then fail .TRANSFER_REPLAY
  else
    let result ← repositoryStep clockNow (.acknowledge principal ack)
    .act (.delete ack.requestId) fun _ => return result

def acknowledge (principal : ExtensionPrincipal) (ack : TransferAckV1) :
    Program TransferRequestV1 := do
  let request ← repositoryStep clockNow (.read principal ack.requestId)
  if request.all (·.recipientDeviceId ≠ principal.deviceId) then fail .TRANSFER_ACCOUNT_MISMATCH
  else forRequest ack.requestId (complete principal ack)

def cancel (principal : ExtensionPrincipal) (requestId : String) : Program TransferRequestV1 := do
  let result ← repositoryStep clockNow (.cancel principal requestId)
  .act (.delete requestId) fun _ => return result

def expireDue : Program Nat := do
  assertRunning
  let now ← clockNow
  .act (.prune now) fun _ => repositoryStep (.ret now) .expireDue

/-! The system. -/

/-- The calls of the service. -/
inductive ServiceCall where
  | create (principal : ExtensionPrincipal) (request : TransferCreateRequestV1)
  | read (principal : ExtensionPrincipal) (requestId : String)
  | listForSource (principal : ExtensionPrincipal)
  | sourceSeen (principal : ExtensionPrincipal) (requestId : String)
  | submit (principal : ExtensionPrincipal) (input : TransferSubmitInput)
  | receive (principal : ExtensionPrincipal) (requestId : String)
  | acknowledge (principal : ExtensionPrincipal) (ack : TransferAckV1)
  | cancel (principal : ExtensionPrincipal) (requestId : String)
  | expireDue
  | stop

/-- What a call resolves to. -/
inductive TransferAnswer where
  | request (row : TransferRequestV1)
  | found (row : Option TransferRequestV1)
  | list (rows : List TransferRequestV1)
  | packet (packet : TransferPacketV1)
  | expired (count : Nat)
  | stopped
deriving DecidableEq

/-- The program of a call. -/
def ServiceCall.program : ServiceCall → Program TransferAnswer
  | .create principal request => return .request (← CredentialTransfer.create principal request)
  | .read principal requestId => return .found (← repositoryStep clockNow (.read principal requestId))
  | .listForSource principal => return .list (← repositoryStep clockNow (.listForSource principal))
  | .sourceSeen principal requestId =>
    return .request (← CredentialTransfer.sourceSeen principal requestId)
  | .submit principal input => return .found (← CredentialTransfer.submit principal input)
  | .receive principal requestId => return .packet (← CredentialTransfer.receive principal requestId)
  | .acknowledge principal ack => return .request (← CredentialTransfer.acknowledge principal ack)
  | .cancel principal requestId => return .request (← CredentialTransfer.cancel principal requestId)
  | .expireDue => return .expired (← CredentialTransfer.expireDue)
  | .stop => .act .stop fun _ => return .stopped

/-- The worlds of the service: the process and the history of its calls. -/
abbrev TransferWorld (T : Type) : Type := World T Cmd Cmd.Answer Failure TransferAnswer TransferProcess

abbrev TransferEvent (T : Type) : Type := Event T Cmd Cmd.Answer Failure TransferAnswer TransferProcess

/-- What a call of the repository does. It is atomic; it may fail before it does anything, and its
answer may be lost. -/
def Queried (call : RepositoryCall) (now : Date) (s : TransferProcess)
    (answer : Except Failure call.Answer) (s' : TransferProcess) : Prop :=
  (answer = (call.perform now s.rows).1.mapError .transfer ∨ ∃ error, answer = .error error) ∧
      s' = { s with rows := (call.perform now s.rows).2 } ∨
    (∃ error, answer = .error error) ∧ s' = s

/-- What a command does. A reading of the clock is never before an earlier one. -/
def Effect (sha256 : JsString → String) :
    (command : Cmd) → TransferProcess → command.Answer → TransferProcess → Prop
  | .assertRunning, s, answer, s' => ∃ isAvailable, (answer, s') = s.assertRunning isAvailable
  | .checkAvailable, s, _, s' => ∃ isAvailable, s' = s.checkAvailable isAvailable
  | .enter requestId, s, answer, s' => ∃ isAvailable, (answer, s') = s.enter requestId isAvailable
  | .leave requestId, s, _, s' => s' = s.leave requestId
  | .now, s, answer, s' => s.clock ≤ answer ∧ s' = { s with clock := answer }
  | .repository call now, s, answer, s' => Queried call now s answer s'
  | .reserve packet accountId sourceDeviceId expiresAt now, s, answer, s' =>
    let result := s.relay.reserve sha256 packet accountId sourceDeviceId expiresAt now
    answer = result.1.mapError .transfer ∧ s' = { s with relay := result.2 }
  | .release requestId reservationId, s, _, s' =>
    ∃ now, s.clock ≤ now ∧ s' = s.relayed (s.relay.release requestId reservationId) now
  | .activate requestId reservationId packet, s, answer, s' =>
    ∃ now, s.clock ≤ now ∧ answer = (s.relay.activate sha256 requestId reservationId packet now).1 ∧
      s' = s.relayed (s.relay.activate sha256 requestId reservationId packet now).2 now
  | .get requestId, s, answer, s' =>
    ∃ now, s.clock ≤ now ∧ answer = (s.relay.get requestId now).1 ∧
      s' = s.relayed (s.relay.get requestId now).2 now
  | .isDelivered requestId, s, answer, s' =>
    ∃ now, s.clock ≤ now ∧ answer = (s.relay.isDelivered requestId now).1 ∧
      s' = s.relayed (s.relay.isDelivered requestId now).2 now
  | .pinDelivered requestId packetId, s, answer, s' =>
    ∃ now, s.clock ≤ now ∧ answer = (s.relay.pinDelivered requestId packetId now).1 ∧
      s' = s.relayed (s.relay.pinDelivered requestId packetId now).2 now
  | .delete requestId, s, _, s' =>
    ∃ now, s.clock ≤ now ∧ s' = s.relayed (s.relay.delete requestId) now
  | .prune now, s, _, s' => s' = { s with relay := s.relay.prune now }
  | .stop, s, _, s' => s' = s.stop

/-- The relay's timer prunes at a time that it works out from its own readings of the clock. -/
def Timer (s s' : TransferProcess) : Prop :=
  ∃ now next, s.clock ≤ now ∧ next ≤ now ∧ s' = s.relayed (s.relay.prune next) now

/-- Every thread is one call of the service. -/
def transferService {T : Type} (sha256 : JsString → String) (calls : T → ServiceCall) :
    System T Cmd Cmd.Answer Failure TransferAnswer TransferProcess where
  prelude t := (calls t).program.bind fun answer => .ret (some answer)
  body _ := .ret none
  effect _ command w answer s' := Effect sha256 command w.state answer s'
  env w s' := Timer w.state s'

end SellerAgents.CredentialTransfer
