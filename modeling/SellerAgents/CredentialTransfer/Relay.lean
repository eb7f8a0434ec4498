import SellerAgents.Js.Map
import SellerAgents.Js.Text
import SellerAgents.Subscriptions.Lifecycle

namespace SellerAgents.CredentialTransfer

open Js
open Subscriptions (Date)

inductive TransferFailure where
  | TRANSFER_INVALID | TRANSFER_EXPIRED | TRANSFER_REPLAY | TRANSFER_CONFLICT
  | TRANSFER_PACKET_TOO_LARGE | TRANSFER_DEVICE_REVOKED | TRANSFER_ACCOUNT_MISMATCH | SOURCE_OFFLINE
deriving DecidableEq

def MAX_PACKET_ENVELOPE_BYTES : Nat := 131072

/-- An encrypted packet as a device submits it. -/
structure TransferPacketV1 where
  requestId : String
  packetId : String
  envelope : JsString
deriving DecidableEq

/-- A packet that the relay keeps in memory. -/
structure RelayPacket : Type extends TransferPacketV1 where
  accountId : String
  sourceDeviceId : String
  expiresAt : Date
  envelopeBytes : Nat
  /-- Pin a successfully delivered packet until ACK, TTL or process loss. -/
  deliveredToRecipient : Bool
deriving DecidableEq

/-- Room that is held for a packet before it is activated. -/
structure RelayReservation where
  accountId : String
  sourceDeviceId : String
  expiresAt : Date
  envelopeBytes : Nat
  envelopeSha256 : String
  packetId : String
  reservationId : Nat
deriving DecidableEq

structure EphemeralTransferRelayOptions where
  maxPackets : Nat := 64
  maxPacketsPerAccount : Nat := 8
  maxEnvelopeBytes : Nat := 8 * 1024 * 1024
  maxEnvelopeBytesPerAccount : Nat := 1024 * 1024

/-- The relay without its timer, which only prunes. -/
structure EphemeralTransferRelay where
  packets : JsMap String RelayPacket := .empty
  reservations : JsMap String RelayReservation := .empty
  nextReservationId : Nat := 1
  limits : EphemeralTransferRelayOptions := {}

/-- The bytes of the envelope, as `TextEncoder` counts them. -/
def TransferPacketV1.bytes (packet : TransferPacketV1) : Nat := (utf8Encode packet.envelope).length

namespace EphemeralTransferRelay

variable (relay : EphemeralTransferRelay)

def prune (now : Date) : EphemeralTransferRelay :=
  { relay with
    packets := relay.packets.filter fun _ packet => decide (now < packet.expiresAt)
    reservations := relay.reservations.filter fun _ reservation => decide (now < reservation.expiresAt) }

structure Usage where
  totalPackets : Nat
  accountPackets : Nat
  totalBytes : Nat
  accountBytes : Nat

/-- The slots that count, with their accounts and charged bytes. A pending replacement and its
retained original occupy one slot and are charged the larger byte count. -/
def slots : List (String × Nat) :=
  (relay.packets.entries.map fun entry => (entry.2.accountId,
    max entry.2.envelopeBytes (((relay.reservations.get entry.1).map (·.envelopeBytes)).getD 0))) ++
  (relay.reservations.entries.filter fun entry => !relay.packets.has entry.1).map fun entry =>
    (entry.2.accountId, entry.2.envelopeBytes)

/-- The usage of an account; the empty id asks for all. -/
def usage (accountId : String) : Usage :=
  let account := relay.slots.filter fun slot => accountId = "" ∨ slot.1 = accountId
  { totalPackets := relay.slots.length
    accountPackets := account.length
    totalBytes := (relay.slots.map Prod.snd).foldl (· + ·) 0
    accountBytes := (account.map Prod.snd).foldl (· + ·) 0 }

/-- Whether another packet of the account fits, in place of an existing one if there is one. -/
def fits (accountId : String) (envelopeBytes : Nat) (existing : Option RelayPacket) : Bool :=
  let usage := relay.usage accountId
  let additionalPackets := if existing.isSome then 0 else 1
  let additionalBytes := envelopeBytes - (existing.map (·.envelopeBytes)).getD 0
  usage.totalPackets + additionalPackets ≤ relay.limits.maxPackets &&
    usage.accountPackets + additionalPackets ≤ relay.limits.maxPacketsPerAccount &&
    usage.totalBytes + additionalBytes ≤ relay.limits.maxEnvelopeBytes &&
    usage.accountBytes + additionalBytes ≤ relay.limits.maxEnvelopeBytesPerAccount

/-- An existing packet that another one of the source device must not replace. -/
def holdsOut (accountId sourceDeviceId : String) (existing : RelayPacket) : Bool :=
  existing.deliveredToRecipient || existing.accountId ≠ accountId ||
    existing.sourceDeviceId ≠ sourceDeviceId

def reserve (sha256 : JsString → String) (packet : TransferPacketV1)
    (accountId sourceDeviceId : String) (expiresAt now : Date) :
    Except TransferFailure Nat × EphemeralTransferRelay :=
  if expiresAt ≤ now then (.error .TRANSFER_EXPIRED, relay)
  else if packet.bytes > MAX_PACKET_ENVELOPE_BYTES then (.error .TRANSFER_PACKET_TOO_LARGE, relay)
  else
    let relay := relay.prune now
    let existing := relay.packets.get packet.requestId
    if relay.reservations.has packet.requestId || existing.any (holdsOut accountId sourceDeviceId) then
      (.error .TRANSFER_CONFLICT, relay)
    else if !relay.fits accountId packet.bytes existing then (.error .TRANSFER_CONFLICT, relay)
    else
      (.ok relay.nextReservationId,
        { relay with
          nextReservationId := relay.nextReservationId + 1
          reservations := relay.reservations.set packet.requestId
            { accountId, sourceDeviceId, expiresAt
              envelopeBytes := packet.bytes
              envelopeSha256 := sha256 packet.envelope
              packetId := packet.packetId
              reservationId := relay.nextReservationId } })

/-- Whether a packet is the one that was reserved. -/
def matchesReservation (sha256 : JsString → String) (requestId : String)
    (reservation : RelayReservation) (packet : TransferPacketV1) : Bool :=
  packet.requestId = requestId && packet.packetId = reservation.packetId &&
    packet.bytes = reservation.envelopeBytes && sha256 packet.envelope = reservation.envelopeSha256

def activate (sha256 : JsString → String) (requestId : String) (reservationId : Nat)
    (packet : TransferPacketV1) (now : Date) : Bool × EphemeralTransferRelay :=
  match relay.reservations.get requestId with
  | none => (false, relay)
  | some reservation =>
    if reservation.reservationId ≠ reservationId then (false, relay)
    else if reservation.expiresAt ≤ now then
      (false, { relay with reservations := relay.reservations.delete requestId })
    else if !matchesReservation sha256 requestId reservation packet then (false, relay)
    else
      (true,
        { relay with
          reservations := relay.reservations.delete requestId
          packets := relay.packets.set requestId
            { packet with
              accountId := reservation.accountId
              sourceDeviceId := reservation.sourceDeviceId
              expiresAt := reservation.expiresAt
              envelopeBytes := reservation.envelopeBytes
              deliveredToRecipient := false } })

def release (requestId : String) (reservationId : Nat) : EphemeralTransferRelay :=
  match relay.reservations.get requestId with
  | none => relay
  | some reservation =>
    if reservation.reservationId = reservationId then
      { relay with reservations := relay.reservations.delete requestId }
    else relay

def get (requestId : String) (now : Date) : Option RelayPacket × EphemeralTransferRelay :=
  let relay := relay.prune now
  (if relay.reservations.has requestId then none else relay.packets.get requestId, relay)

def isDelivered (requestId : String) (now : Date) : Bool × EphemeralTransferRelay :=
  let relay := relay.prune now
  ((relay.packets.get requestId).any (·.deliveredToRecipient), relay)

def pinDelivered (requestId packetId : String) (now : Date) : Bool × EphemeralTransferRelay :=
  let relay := relay.prune now
  if relay.reservations.has requestId then (false, relay)
  else match relay.packets.get requestId with
    | none => (false, relay)
    | some packet =>
      if packet.packetId ≠ packetId then (false, relay)
      else (true, { relay with
        packets := relay.packets.set requestId { packet with deliveredToRecipient := true } })

def delete (requestId : String) : EphemeralTransferRelay :=
  { relay with
    packets := relay.packets.delete requestId
    reservations := relay.reservations.delete requestId }

def clear : EphemeralTransferRelay := { relay with packets := .empty, reservations := .empty }

/-! What each operation can do. -/

section Cases

variable (sha256 : JsString → String) (packet : TransferPacketV1)
  (accountId sourceDeviceId r : String) (expiresAt now : Date)

/-- The reservation that a packet gets. -/
structure Reserves (sha256 : JsString → String) (packet : TransferPacketV1)
    (accountId sourceDeviceId : String) (expiresAt : Date) (reservation : RelayReservation) :
    Prop where
  account : reservation.accountId = accountId
  source : reservation.sourceDeviceId = sourceDeviceId
  expiry : reservation.expiresAt = expiresAt
  matching : matchesReservation sha256 packet.requestId reservation packet = true

theorem reserve_cases :
    (∃ error, relay.reserve sha256 packet accountId sourceDeviceId expiresAt now = (.error error, relay)) ∨
    (∃ error, relay.reserve sha256 packet accountId sourceDeviceId expiresAt now =
      (.error error, relay.prune now)) ∨
    ∃ reservation, relay.reserve sha256 packet accountId sourceDeviceId expiresAt now =
        (.ok reservation.reservationId, { relay.prune now with
          nextReservationId := (relay.prune now).nextReservationId + 1
          reservations := (relay.prune now).reservations.set packet.requestId reservation }) ∧
      Reserves sha256 packet accountId sourceDeviceId expiresAt reservation ∧
      ∀ existing, (relay.prune now).packets.get packet.requestId = some existing →
        existing.deliveredToRecipient = false := by
  unfold reserve
  dsimp only
  split_ifs with hexpired hlarge hconflict hfull
  · exact .inl ⟨_, rfl⟩
  · exact .inl ⟨_, rfl⟩
  · exact .inr (.inl ⟨_, rfl⟩)
  · exact .inr (.inl ⟨_, rfl⟩)
  · let reservation : RelayReservation :=
      ⟨accountId, sourceDeviceId, expiresAt, packet.bytes, sha256 packet.envelope, packet.packetId,
        (relay.prune now).nextReservationId⟩
    refine .inr (.inr ⟨reservation, rfl, ⟨rfl, rfl, rfl, by simp [matchesReservation, reservation]⟩, ?_⟩)
    intro existing hexisting
    rw [hexisting] at hconflict
    simp only [Option.any_some, holdsOut, Bool.or_eq_true, not_or] at hconflict
    simpa using hconflict.2.1.1

/-- The packet that takes the place of a reservation. -/
def activated (reservation : RelayReservation) (packet : TransferPacketV1) :
    RelayPacket :=
  { packet with
    accountId := reservation.accountId
    sourceDeviceId := reservation.sourceDeviceId
    expiresAt := reservation.expiresAt
    envelopeBytes := reservation.envelopeBytes
    deliveredToRecipient := false }

theorem activate_cases (reservationId : Nat) :
    (∃ reservation, relay.reservations.get r = some reservation ∧ now < reservation.expiresAt ∧
      packet.requestId = r ∧ relay.activate sha256 r reservationId packet now =
        (true, { relay with
          reservations := relay.reservations.delete r
          packets := relay.packets.set r (activated reservation packet) })) ∨
    (relay.activate sha256 r reservationId packet now).1 = false ∧
      ((relay.activate sha256 r reservationId packet now).2 = relay ∨
        (relay.activate sha256 r reservationId packet now).2 =
          { relay with reservations := relay.reservations.delete r }) ∧
      ((∀ reservation, relay.reservations.get r = some reservation →
          reservation.reservationId = reservationId ∧
            matchesReservation sha256 r reservation packet = true) →
        (relay.activate sha256 r reservationId packet now).2.reservations.get r = none) := by
  unfold activate
  cases hget : relay.reservations.get r with
  | none => exact .inr ⟨rfl, .inl rfl, fun _ => hget⟩
  | some reservation =>
    dsimp only
    split_ifs with hid hexpired hmatch
    · exact .inr ⟨rfl, .inl rfl, fun h => absurd (h reservation rfl).1 hid⟩
    · exact .inr ⟨rfl, .inr rfl, fun _ => JsMap.get_delete_self _ _⟩
    · exact .inr ⟨rfl, .inl rfl, fun h => by simp [(h reservation rfl).2] at hmatch⟩
    · have hrequest : packet.requestId = r := by
        simp only [matchesReservation, Bool.and_eq_true, decide_eq_true_eq, Bool.not_eq_true',
          Bool.not_eq_false] at hmatch
        exact hmatch.1.1.1
      exact .inl ⟨reservation, rfl, Int.not_le.mp hexpired, hrequest, rfl⟩

/-- A pinned resident packet. -/
def pinned (relay : EphemeralTransferRelay) (requestId : String) (resident : RelayPacket) :
    EphemeralTransferRelay :=
  { relay with
    packets := relay.packets.set requestId { resident with deliveredToRecipient := true } }

theorem pinDelivered_cases (packetId : String) :
    (∃ resident, (relay.prune now).packets.get r = some resident ∧ resident.packetId = packetId ∧
      (relay.prune now).reservations.get r = none ∧
      relay.pinDelivered r packetId now = (true, (relay.prune now).pinned r resident)) ∨
    relay.pinDelivered r packetId now = (false, relay.prune now) ∧
      ∀ resident, (relay.prune now).packets.get r = some resident → resident.packetId = packetId →
        (relay.prune now).reservations.get r ≠ none := by
  unfold pinDelivered
  dsimp only
  split
  · rename_i hreserved
    refine .inr ⟨rfl, fun resident _ _ hnone => ?_⟩
    rw [JsMap.has, hnone] at hreserved
    cases hreserved
  rename_i hunreserved
  split
  · rename_i hnone
    refine .inr ⟨rfl, fun resident hresident => ?_⟩
    rw [hnone] at hresident
    cases hresident
  rename_i resident hresident
  split
  · rename_i hother
    refine .inr ⟨rfl, fun found hfound hid => ?_⟩
    rw [hresident] at hfound
    cases hfound
    exact absurd hid hother
  · rename_i hid
    refine .inl ⟨resident, hresident, not_not.mp hid, ?_, rfl⟩
    simpa [JsMap.has] using hunreserved

end Cases

end EphemeralTransferRelay

end SellerAgents.CredentialTransfer
