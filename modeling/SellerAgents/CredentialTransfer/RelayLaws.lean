import SellerAgents.CredentialTransfer.RelayRuns

namespace SellerAgents.CredentialTransfer

open Js
open Subscriptions (Date)

namespace EphemeralTransferRelay

variable {sha256 : JsString → String} {relay : EphemeralTransferRelay}

/-- The slots and bytes held for all accounts and for each one are within the limits. -/
structure WithinLimits (relay : EphemeralTransferRelay) : Prop where
  packets : relay.slots.length ≤ relay.limits.maxPackets
  accountPackets : ∀ accountId, (relay.slots.filter fun slot => slot.1 = accountId).length ≤
    relay.limits.maxPacketsPerAccount
  bytes : (relay.slots.map Prod.snd).foldl (· + ·) 0 ≤ relay.limits.maxEnvelopeBytes
  accountBytes : ∀ accountId,
    ((relay.slots.filter fun slot => slot.1 = accountId).map Prod.snd).foldl (· + ·) 0 ≤
      relay.limits.maxEnvelopeBytesPerAccount

theorem Sound.withinLimits (hsound : relay.Sound) : relay.WithinLimits where
  packets := by
    have h := hsound.within.slots
    rw [count_eq] at h
    simpa [EphemeralTransferRelayOptions.limits] using h
  accountPackets := fun accountId => by
    have h := hsound.within.slotsPerAccount accountId
    rwa [count_eq] at h
  bytes := by
    have h := hsound.within.bytes
    rw [total_eq] at h
    simpa [EphemeralTransferRelayOptions.limits] using h
  accountBytes := fun accountId => by
    have h := hsound.within.bytesPerAccount accountId
    rwa [total_eq] at h

/-- The end of a reservation without a new packet: a refused activation, or a release. -/
def Abandons (sha256 : JsString → String) (relay : EphemeralTransferRelay) (r : String)
    (reservationId : Nat) (call : RelayCall) : Prop :=
  (∃ submitted now, call = .activate r reservationId submitted now ∧
      (relay.step sha256 call).1 ≠ .flag true) ∨
    ∃ now, call = .release r reservationId now

/-- An abandoned reservation leaves the packets as they are. -/
theorem Abandons.packets {r : String} {reservationId : Nat} {call : RelayCall}
    (h : Abandons sha256 relay r reservationId call) :
    (relay.step sha256 call).2.packets = relay.packets := by
  rcases h with ⟨submitted, now, rfl, hrefused⟩ | ⟨now, rfl⟩
  · cases now with
    | none => rfl
    | some now => exact activate_refused fun haccepted => hrefused (congrArg RelayAnswer.flag haccepted)
  · cases now with
    | none => rfl
    | some now => exact release_packets r reservationId

/-- What holds of the relay after calls, and of every call that comes next. -/
structure Lawful (sha256 : JsString → String) (start : EphemeralTransferRelay)
    (calls : List RelayCall) (relay : EphemeralTransferRelay) : Prop where
  limits : relay.WithinLimits
  sizes : ∀ r packet, relay.packets.get r = some packet → packet.envelopeBytes = packet.bytes
  /-- While its reservation is pending a packet stays exactly as it is unless it expires. After that
  only its expiry, its deletion, an accepted activation or its pin can change it. -/
  kept : ∀ submitted accountId sourceDeviceId expiresAt now reservationId previous,
    let reserve := RelayCall.reserve submitted accountId sourceDeviceId expiresAt now
    (relay.step sha256 reserve).1 = .reserved reservationId →
    (relay.step sha256 reserve).2.packets.get submitted.requestId = some previous →
    ∀ between last,
      Abandons sha256 (run sha256 relay (reserve :: between)) submitted.requestId reservationId last →
      (run sha256 relay (reserve :: between ++ [last])).packets.get submitted.requestId =
          some previous ∨
      (∃ call ∈ between, Expires previous call) ∨
      ¬ (run sha256 relay (reserve :: between)).Pending submitted.requestId reservationId ∧
        ∃ before call rest, between = before ++ call :: rest ∧
          (Deletes submitted.requestId call ∨
            Replaces sha256 (run sha256 relay (reserve :: before)) submitted.requestId call ∨
            Pins sha256 (run sha256 relay (reserve :: before)) submitted.requestId call)
  /-- A delivered packet is never replaced. -/
  pinned : ∀ r packet, relay.packets.get r = some packet → packet.deliveredToRecipient = true →
    ∀ call, (relay.step sha256 call).2.packets.get r = some packet ∨
      (Expires packet call ∨ Deletes r call) ∧ (relay.step sha256 call).2.packets.get r = none
  /-- An accepted activation stores the given packet, whose size and digest an earlier call
  reserved. -/
  stores : ∀ r reservationId submitted now,
    (relay.step sha256 (.activate r reservationId submitted now)).1 = .flag true →
    (∃ packet, (relay.step sha256 (.activate r reservationId submitted now)).2.packets.get r =
        some packet ∧ packet.toTransferPacketV1 = submitted ∧ packet.envelopeBytes = submitted.bytes) ∧
      ∃ before reserved accountId sourceDeviceId expiresAt at' after,
        calls = before ++ .reserve reserved accountId sourceDeviceId expiresAt at' :: after ∧
        ((run sha256 start before).step sha256
          (.reserve reserved accountId sourceDeviceId expiresAt at')).1 = .reserved reservationId ∧
        reserved.requestId = r ∧ reserved.packetId = submitted.packetId ∧
        reserved.bytes = submitted.bytes ∧ sha256 reserved.envelope = sha256 submitted.envelope
  /-- `get` finds no packet at or after its expiry. -/
  unexpired : ∀ r now packet, (relay.step sha256 (.get r now)).1 = .found (some packet) →
    ∃ time, now = some time ∧ time < packet.expiresAt

theorem matches_spec {r : String} {reservation : RelayReservation} {submitted : TransferPacketV1}
    (h : matchesReservation sha256 r reservation submitted = true) :
    submitted.requestId = r ∧ submitted.packetId = reservation.packetId ∧
      submitted.bytes = reservation.envelopeBytes ∧
      sha256 submitted.envelope = reservation.envelopeSha256 := by
  simp only [matchesReservation, Bool.and_eq_true, decide_eq_true_eq] at h
  tauto

theorem get_unexpired {r : String} {now : Option Date} {packet : RelayPacket}
    (h : (relay.step sha256 (.get r now)).1 = .found (some packet)) :
    ∃ time, now = some time ∧ time < packet.expiresAt := by
  cases now with
  | none => cases h
  | some now =>
    change RelayAnswer.found (relay.get r now).1 = _ at h
    injection h with h
    dsimp only [get] at h
    split at h
    · cases h
    · exact ⟨now, rfl, (prune_packet.mp h).2⟩

theorem step_reserve_pending {submitted : TransferPacketV1} {accountId sourceDeviceId : String}
    {expiresAt now : Option Date} {reservationId : Nat}
    (h : (relay.step sha256 (.reserve submitted accountId sourceDeviceId expiresAt now)).1 =
      .reserved reservationId) :
    reservationId < (relay.step sha256 (.reserve submitted accountId sourceDeviceId expiresAt
      now)).2.nextReservationId := by
  cases now with
  | none => cases h
  | some now =>
    cases expiresAt with
    | none => cases h
    | some expiresAt =>
      change reserveAnswer (relay.reserve sha256 submitted accountId sourceDeviceId expiresAt now).1 =
        _ at h
      change _ < (relay.reserve sha256 submitted accountId sourceDeviceId expiresAt
        now).2.nextReservationId
      rw [reserve] at h ⊢
      dsimp only at h ⊢
      split_ifs at h ⊢ <;> cases h
      exact Nat.lt_succ_self _

theorem lawful (sha256 : JsString → String) {start : EphemeralTransferRelay} (hsound : start.Sound)
    (hfresh : start.reservations = .empty) (calls : List RelayCall) :
    Lawful sha256 start calls (run sha256 start calls) := by
  have hrun := (run_sound sha256 hsound calls).1
  refine ⟨hrun.withinLimits, fun r packet hpacket => (hrun.sizes r packet hpacket).2, ?_, ?_, ?_, ?_⟩
  · intro submitted accountId sourceDeviceId expiresAt now reservationId previous call hreserved
      hprevious between last habandons
    have hstep := (hrun.moves (step_moves sha256 _ call)).1
    have hid := step_reserve_pending hreserved
    rw [List.cons_append, run_cons, run_append, run_cons, run, List.foldl_nil]
    rw [run_cons] at habandons
    rw [habandons.packets]
    by_cases hpending : (run sha256 ((run sha256 start calls).step sha256 call).2 between).Pending
        submitted.requestId reservationId
    · exact (run_pending hstep hid hprevious between hpending).imp_right .inl
    · rcases run_kept sha256 hprevious between with
        hkept | ⟨before, found, rest, hsplit, hexpires | hother⟩
      · exact .inl hkept
      · exact .inr (.inl ⟨found, by simp [hsplit], hexpires⟩)
      · exact .inr (.inr ⟨hpending, before, found, rest, hsplit, hother⟩)
  · exact fun r packet hpacket hdelivered call => step_pinned hrun hpacket hdelivered call
  · intro r reservationId submitted now haccepted
    cases now with
    | none => cases haccepted
    | some now =>
      change RelayAnswer.flag ((run sha256 start calls).activate sha256 r reservationId submitted
        now).1 = _ at haccepted
      injection haccepted with haccepted
      obtain ⟨reservation, hget, hid, hmatches, heq⟩ := activate_accepted haccepted
      obtain ⟨-, hpacketId, hbytes, hdigest⟩ := matches_spec hmatches
      refine ⟨⟨activated reservation submitted, ?_, rfl, hbytes.symm⟩, ?_⟩
      · change ((run sha256 start calls).activate sha256 r reservationId submitted now).2.packets.get
          r = _
        rw [heq, JsMap.get_set_self]
      · obtain ⟨before, _, after, hsplit, reserved, accountId, sourceDeviceId, expiresAt, at', rfl,
          hanswer, hreserved⟩ := run_reserved hfresh calls hget
        obtain ⟨hrequest, hreservedId, hreservedBytes, hreservedDigest⟩ := matches_spec hreserved
        refine ⟨before, reserved, accountId, sourceDeviceId, expiresAt, at', after, hsplit, ?_,
          hrequest, hreservedId.trans hpacketId.symm, hreservedBytes.trans hbytes.symm,
          hreservedDigest.trans hdigest.symm⟩
        rw [hanswer, hid]
  · exact fun r now packet hfound => get_unexpired hfound

theorem sound_new (limits : EphemeralTransferRelayOptions) :
    Sound { limits := limits } where
  paired := fun _ _ _ h => by cases h
  sizes := fun _ _ h => by cases h
  fresh := fun _ _ h => by cases h
  within := by
    have hslots : ∀ (p : String → Prop) [DecidablePred p],
        (holdings { limits := limits }).slots p = ∅ := fun _ _ => rfl
    constructor <;> simp [Quota.Holdings.count, Quota.Holdings.total, hslots]

/-- Every sequence of calls of a relay with any limits is lawful. -/
theorem relay_laws (sha256 : JsString → String) (limits : EphemeralTransferRelayOptions)
    (calls : List RelayCall) :
    Lawful sha256 { limits := limits } calls (run sha256 { limits := limits } calls) :=
  lawful sha256 (sound_new limits) rfl calls

/-! A packet replaced through a second reservation while a first one is forgotten. -/

/-- A packet of one request whose envelope is one letter. -/
def letterPacket (packetId : String) : TransferPacketV1 := ⟨"request", packetId, units packetId⟩

def letterDigest (envelope : JsString) : String := if envelope = units "a" then "a" else "b"

/-- After the first reservation of `b` has expired, `b` is reserved again and activated. -/
def secondReservation : List RelayCall :=
  [.reserve (letterPacket "b") "account" "device" (some 100) (some 6),
    .activate "request" 3 (letterPacket "b") (some 7)]

/-- The relay with the packet `a`, and a reservation of `b` that soon expires. -/
def forgotten : EphemeralTransferRelay :=
  run letterDigest {} [.reserve (letterPacket "a") "account" "device" (some 100) (some 0),
    .activate "request" 1 (letterPacket "a") (some 1),
    .reserve (letterPacket "b") "account" "device" (some 5) (some 2)]

/-- The packet that was there before a reservation is not always there when it is released, though
nothing expired or deleted it. -/
theorem previous_packet_replaced :
    ∃ previous, forgotten.packets.get "request" = some previous ∧
      forgotten.Pending "request" 2 ∧
      (∀ call ∈ secondReservation, ¬ Expires previous call ∧ ¬ Deletes "request" call) ∧
      (run letterDigest forgotten (secondReservation ++ [.release "request" 2 (some 8)])).packets.get
        "request" ≠ some previous := by
  refine ⟨⟨letterPacket "a", "account", "device", 100, 1, false⟩, by decide +kernel,
    ⟨reservationOf letterDigest (letterPacket "b") "account" "device" 5 2, by decide +kernel,
      by decide +kernel⟩, ?_, by decide +kernel⟩
  simp [secondReservation, Expires, Deletes, clockOf]

end EphemeralTransferRelay

end SellerAgents.CredentialTransfer
