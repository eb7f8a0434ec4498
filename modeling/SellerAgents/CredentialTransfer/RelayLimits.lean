import SellerAgents.CredentialTransfer.Relay
import SellerAgents.Quota.Holdings

namespace SellerAgents.CredentialTransfer

open Js
open Subscriptions (Date)

/-- A call of the relay with its arguments. A time may be an invalid `Date`; a call that is given
none reads the clock. -/
inductive RelayCall where
  | reserve (packet : TransferPacketV1) (accountId sourceDeviceId : String)
      (expiresAt now : Option Date)
  | activate (requestId : String) (reservationId : Nat) (packet : TransferPacketV1)
      (now : Option Date)
  | release (requestId : String) (reservationId : Nat) (now : Option Date)
  | get (requestId : String) (now : Option Date)
  | isDelivered (requestId : String) (now : Option Date)
  | pinDelivered (requestId packetId : String) (now : Option Date)
  | delete (requestId : String) (now : Option Date)
  | prune (now : Option Date)
  | clear

/-- What a call of the relay returns or throws. -/
inductive RelayAnswer where
  | threw (error : TransferFailure)
  | reserved (reservationId : Nat)
  | flag (value : Bool)
  | found (packet : Option RelayPacket)
  | done

def EphemeralTransferRelayOptions.limits (options : EphemeralTransferRelayOptions) :
    Quota.Holdings.Limits where
  slots := options.maxPackets
  slotsPerAccount := options.maxPacketsPerAccount
  bytes := options.maxEnvelopeBytes
  bytesPerAccount := options.maxEnvelopeBytesPerAccount

namespace EphemeralTransferRelay

/-- `finiteTimestamp` before the rest of a call. -/
def timed (relay : EphemeralTransferRelay) (now : Option Date)
    (call : Date → RelayAnswer × EphemeralTransferRelay) : RelayAnswer × EphemeralTransferRelay :=
  match now with
  | none => (.threw .TRANSFER_INVALID, relay)
  | some now => call now

/-- The answer of `reserve`. -/
def reserveAnswer : Except TransferFailure Nat → RelayAnswer
  | .ok reservationId => .reserved reservationId
  | .error error => .threw error

/-- One call of the relay at its time. -/
def step (sha256 : JsString → String) (relay : EphemeralTransferRelay) :
    RelayCall → RelayAnswer × EphemeralTransferRelay
  | .reserve packet accountId sourceDeviceId expiresAt now =>
    relay.timed now fun now => relay.timed expiresAt fun expiresAt =>
      (relay.reserve sha256 packet accountId sourceDeviceId expiresAt now).map reserveAnswer id
  | .activate requestId reservationId packet now =>
    relay.timed now fun now =>
      (relay.activate sha256 requestId reservationId packet now).map .flag id
  | .release requestId reservationId now =>
    relay.timed now fun _ => (.done, relay.release requestId reservationId)
  | .get requestId now => relay.timed now fun now => (relay.get requestId now).map .found id
  | .isDelivered requestId now =>
    relay.timed now fun now => (relay.isDelivered requestId now).map .flag id
  | .pinDelivered requestId packetId now =>
    relay.timed now fun now => (relay.pinDelivered requestId packetId now).map .flag id
  | .delete requestId now => relay.timed now fun _ => (.done, relay.delete requestId)
  | .prune now => relay.timed now fun now => (.done, relay.prune now)
  | .clear => (.done, relay.clear)

/-- The relay after calls one after another. -/
def run (sha256 : JsString → String) (relay : EphemeralTransferRelay) (calls : List RelayCall) :
    EphemeralTransferRelay :=
  calls.foldl (fun relay call => (relay.step sha256 call).2) relay

/-! The requests that hold a slot, with what each is charged. -/

variable (relay : EphemeralTransferRelay)

/-- The requests with a packet, and those with only a reservation. -/
def heldKeys : List String :=
  relay.packets.entries.map Prod.fst ++
    (relay.reservations.entries.filter fun entry => !relay.packets.has entry.1).map Prod.fst

/-- The account of a request's packet, or of its reservation. -/
def accountOf (requestId : String) : String :=
  match relay.packets.get requestId with
  | some packet => packet.accountId
  | none => ((relay.reservations.get requestId).map (·.accountId)).getD ""

/-- The larger size of a request's packet and reservation. -/
def chargeOf (requestId : String) : Nat :=
  max (((relay.packets.get requestId).map (·.envelopeBytes)).getD 0)
    (((relay.reservations.get requestId).map (·.envelopeBytes)).getD 0)

/-- What the relay holds, as holdings of its accounts. -/
def holdings : Quota.Holdings String String where
  keys := relay.heldKeys.toFinset
  account := relay.accountOf
  bytes := relay.chargeOf

variable {relay' : EphemeralTransferRelay} {packet : RelayPacket} {reservation : RelayReservation}
  {key r : String} {α : Type}

theorem mem_entries {m : JsMap String α} {value : α} :
    (key, value) ∈ m.entries ↔ m.get key = some value :=
  ⟨Properties.get_of_mem m.nodup, Properties.mem_of_get⟩

theorem mem_keys {m : JsMap String α} :
    key ∈ m.entries.map Prod.fst ↔ (m.get key).isSome = true := by
  rw [Option.isSome_iff_exists, List.mem_map]
  constructor
  · rintro ⟨⟨_, value⟩, hmem, rfl⟩
    exact ⟨value, mem_entries.mp hmem⟩
  · rintro ⟨value, hget⟩
    exact ⟨(key, value), mem_entries.mpr hget, rfl⟩

theorem mem_heldKeys {requestId : String} :
    requestId ∈ relay.heldKeys ↔
      (relay.packets.get requestId).isSome = true ∨
        (relay.reservations.get requestId).isSome = true := by
  rw [heldKeys, List.mem_append, mem_keys]
  constructor
  · rintro (hpacket | hreserved)
    · exact .inl hpacket
    · obtain ⟨entry, hentry, rfl⟩ := List.mem_map.mp hreserved
      exact .inr (mem_keys.mp (List.mem_map_of_mem (List.mem_filter.mp hentry).1))
  · intro h
    cases hpacket : relay.packets.get requestId with
    | some packet => exact .inl rfl
    | none =>
      rw [hpacket] at h
      obtain ⟨reservation, hreservation⟩ := Option.isSome_iff_exists.mp (h.resolve_left (by simp))
      refine .inr (List.mem_map.mpr ⟨(requestId, reservation), List.mem_filter.mpr ?_, rfl⟩)
      exact ⟨mem_entries.mpr hreservation, by simp [JsMap.has, hpacket]⟩

theorem nodup_heldKeys : relay.heldKeys.Nodup := by
  rw [heldKeys, List.nodup_append]
  refine ⟨relay.packets.nodup, relay.reservations.nodup.sublist (List.filter_sublist.map _), ?_⟩
  rintro key hpacket _ hreserved rfl
  obtain ⟨entry, hentry, rfl⟩ := List.mem_map.mp hreserved
  have hnone := (List.mem_filter.mp hentry).2
  rw [JsMap.has, mem_keys.mp hpacket] at hnone
  cases hnone

/-- The slots are those of the held requests. -/
theorem slots_eq :
    relay.slots = relay.heldKeys.map fun key => (relay.accountOf key, relay.chargeOf key) := by
  rw [slots, heldKeys, List.map_append, List.map_map, List.map_map]
  congr 1
  · refine List.map_congr_left fun entry hentry => ?_
    have hget := mem_entries.mp (show (entry.1, entry.2) ∈ relay.packets.entries from hentry)
    simp [accountOf, chargeOf, hget]
  · refine List.map_congr_left fun entry hentry => ?_
    obtain ⟨hmem, hhas⟩ := List.mem_filter.mp hentry
    have hget := mem_entries.mp (show (entry.1, entry.2) ∈ relay.reservations.entries from hmem)
    have hnone : relay.packets.get entry.1 = none := by simpa [JsMap.has] using hhas
    simp [accountOf, chargeOf, hget, hnone]

section Sums

variable (p : String → Prop) [DecidablePred p]

theorem holdings_slots :
    relay.holdings.slots p = (relay.heldKeys.filter fun key => p (relay.accountOf key)).toFinset := by
  rw [Quota.Holdings.slots, holdings, List.toFinset_filter]
  simp

theorem count_eq : relay.holdings.count p = (relay.slots.filter fun slot => p slot.1).length := by
  rw [Quota.Holdings.count, holdings_slots, List.toFinset_card_of_nodup
    (relay.nodup_heldKeys.filter _), slots_eq, List.filter_map, List.length_map]
  rfl

theorem total_eq :
    relay.holdings.total p =
      ((relay.slots.filter fun slot => p slot.1).map Prod.snd).foldl (· + ·) 0 := by
  rw [← List.sum_eq_foldl_nat, Quota.Holdings.total, holdings_slots, List.sum_toFinset _ (relay.nodup_heldKeys.filter _),
    slots_eq, List.filter_map, List.map_map]
  rfl

end Sums

/-- What the relay holds keeps to its limits. A packet under its own pending replacement is of the
account and device of the reservation, and not delivered. -/
structure Sound (relay : EphemeralTransferRelay) : Prop where
  paired : ∀ r packet reservation, relay.packets.get r = some packet →
    relay.reservations.get r = some reservation →
      packet.accountId = reservation.accountId ∧ packet.sourceDeviceId = reservation.sourceDeviceId ∧
        packet.deliveredToRecipient = false
  sizes : ∀ r packet, relay.packets.get r = some packet →
    packet.requestId = r ∧ packet.envelopeBytes = packet.bytes
  fresh : ∀ r reservation, relay.reservations.get r = some reservation →
    reservation.reservationId < relay.nextReservationId
  within : relay.holdings.Within relay.limits.limits

/-- The reservation that a call makes. -/
def reservationOf (sha256 : JsString → String) (packet : TransferPacketV1)
    (accountId sourceDeviceId : String) (expiresAt : Date) (reservationId : Nat) :
    RelayReservation where
  accountId := accountId
  sourceDeviceId := sourceDeviceId
  expiresAt := expiresAt
  envelopeBytes := packet.bytes
  envelopeSha256 := sha256 packet.envelope
  packetId := packet.packetId
  reservationId := reservationId

/-- What a step does to a relay. -/
inductive Moves (sha256 : JsString → String) (relay : EphemeralTransferRelay) :
    EphemeralTransferRelay → Prop
  /-- Packets and reservations are only taken away. -/
  | shrinks (relay' : EphemeralTransferRelay) :
      (∀ r packet, relay'.packets.get r = some packet → relay.packets.get r = some packet) →
      (∀ r reservation, relay'.reservations.get r = some reservation →
        relay.reservations.get r = some reservation) →
      relay'.nextReservationId = relay.nextReservationId → relay'.limits = relay.limits →
      Moves sha256 relay relay'
  | reserves (packet : TransferPacketV1) (accountId sourceDeviceId : String) (expiresAt now : Date) :
      (relay.prune now).reservations.get packet.requestId = none →
      (∀ existing, (relay.prune now).packets.get packet.requestId = some existing →
        holdsOut accountId sourceDeviceId existing = false) →
      (relay.prune now).fits accountId packet.bytes
        ((relay.prune now).packets.get packet.requestId) = true →
      Moves sha256 relay { relay.prune now with
        nextReservationId := relay.nextReservationId + 1
        reservations := (relay.prune now).reservations.set packet.requestId
          (reservationOf sha256 packet accountId sourceDeviceId expiresAt
            relay.nextReservationId) }
  | activates (packet : TransferPacketV1) (reservation : RelayReservation) :
      relay.reservations.get packet.requestId = some reservation →
      matchesReservation sha256 packet.requestId reservation packet = true →
      Moves sha256 relay { relay with
        reservations := relay.reservations.delete packet.requestId
        packets := relay.packets.set packet.requestId (activated reservation packet) }
  | pins (now : Date) (r : String) (packet : RelayPacket) :
      (relay.prune now).packets.get r = some packet →
      (relay.prune now).reservations.get r = none →
      Moves sha256 relay ((relay.prune now).pinned r packet)

variable {relay}

theorem prune_packet {now : Date} :
    (relay.prune now).packets.get r = some packet ↔
      relay.packets.get r = some packet ∧ now < packet.expiresAt := by
  rw [prune, JsMap.get_filter, Option.filter_eq_some_iff]
  simp

theorem prune_reservation {now : Date} :
    (relay.prune now).reservations.get r = some reservation ↔
      relay.reservations.get r = some reservation ∧ now < reservation.expiresAt := by
  rw [prune, JsMap.get_filter, Option.filter_eq_some_iff]
  simp

variable {sha256 : JsString → String}

theorem Moves.same : Moves sha256 relay relay :=
  .shrinks relay (fun _ _ h => h) (fun _ _ h => h) rfl rfl

theorem Moves.pruned (now : Date) : Moves sha256 relay (relay.prune now) :=
  .shrinks _ (fun _ _ h => (prune_packet.mp h).1) (fun _ _ h => (prune_reservation.mp h).1) rfl rfl

theorem delete_some {m : JsMap String α} {value : α} (h : (m.delete key).get r = some value) :
    m.get r = some value := by
  rw [JsMap.get_delete] at h
  split at h
  · cases h
  · exact h

/-- A reservation taken away. -/
theorem Moves.unreserved (key : String) :
    Moves sha256 relay { relay with reservations := relay.reservations.delete key } :=
  .shrinks _ (fun _ _ h => h) (fun _ _ h => delete_some h) rfl rfl

theorem reserve_moves (packet : TransferPacketV1) (accountId sourceDeviceId : String)
    (expiresAt now : Date) :
    Moves sha256 relay (relay.reserve sha256 packet accountId sourceDeviceId expiresAt now).2 := by
  rw [reserve]
  dsimp only
  split_ifs with hexpired hlarge hconflict hfull
  · exact .same
  · exact .same
  · exact .pruned now
  · exact .pruned now
  · rw [Bool.or_eq_true, not_or] at hconflict
    refine .reserves packet accountId sourceDeviceId expiresAt now ?_ ?_ ?_
    · simpa [JsMap.has] using hconflict.1
    · intro existing hexisting
      simpa [hexisting] using hconflict.2
    · simpa using hfull

theorem activate_moves (requestId : String) (reservationId : Nat) (packet : TransferPacketV1)
    (now : Date) :
    Moves sha256 relay (relay.activate sha256 requestId reservationId packet now).2 := by
  rw [activate]
  cases hget : relay.reservations.get requestId with
  | none => exact .same
  | some reservation =>
    dsimp only
    split_ifs with hid hexpired hmatch
    · exact .same
    · exact .unreserved requestId
    · exact .same
    · have hmatches : matchesReservation sha256 requestId reservation packet = true := by
        simpa using hmatch
      have hrequest : packet.requestId = requestId := by
        simp only [matchesReservation, Bool.and_eq_true, decide_eq_true_eq] at hmatches
        exact hmatches.1.1.1
      subst hrequest
      exact .activates packet reservation hget hmatches

theorem step_moves (sha256 : JsString → String) (relay : EphemeralTransferRelay) (call : RelayCall) : Moves sha256 relay (relay.step sha256 call).2 := by
  have htimed : ∀ (now : Option Date) (operation : Date → RelayAnswer × EphemeralTransferRelay),
      (∀ now, Moves sha256 relay (operation now).2) → Moves sha256 relay (relay.timed now operation).2 := by
    intro now operation hoperation
    cases now with
    | none => exact .same
    | some now => exact hoperation now
  cases call with
  | reserve packet accountId sourceDeviceId expiresAt now =>
    exact htimed now _ fun now => htimed expiresAt _ fun expiresAt => reserve_moves _ _ _ _ _
  | activate requestId reservationId packet now =>
    exact htimed now _ fun now => activate_moves _ _ _ _
  | release requestId reservationId now =>
    refine htimed now _ fun now => ?_
    dsimp only [release]
    split
    · exact .same
    · split
      · exact .unreserved requestId
      · exact .same
  | get requestId now => exact htimed now _ fun now => .pruned now
  | isDelivered requestId now => exact htimed now _ fun now => .pruned now
  | pinDelivered requestId packetId now =>
    refine htimed now _ fun now => ?_
    rcases relay.pinDelivered_cases requestId now packetId with
      ⟨resident, hresident, -, hreserved, heq⟩ | ⟨heq, -⟩
    · rw [heq]
      exact .pins now requestId resident hresident hreserved
    · rw [heq]
      exact .pruned now
  | delete requestId now =>
    exact htimed now _ fun now =>
      .shrinks _ (fun _ _ h => delete_some h) (fun _ _ h => delete_some h) rfl rfl
  | prune now => exact htimed now _ fun now => .pruned now
  | clear => exact .shrinks _ (fun _ _ h => by cases h) (fun _ _ h => by cases h) rfl rfl

theorem accountOf_packet (h : relay.packets.get r = some packet) :
    relay.accountOf r = packet.accountId := by
  rw [accountOf, h]

/-- Under a sound relay the account of a request is that of its reservation too. -/
theorem Sound.accountOf_reservation (hsound : relay.Sound)
    (h : relay.reservations.get r = some reservation) :
    relay.accountOf r = reservation.accountId := by
  rw [accountOf]
  cases hpacket : relay.packets.get r with
  | none => simp [h]
  | some packet => exact (hsound.paired r packet reservation hpacket h).1

theorem mem_holdings : r ∈ relay.holdings.keys ↔
    (relay.packets.get r).isSome = true ∨ (relay.reservations.get r).isSome = true := by
  rw [holdings, List.mem_toFinset, mem_heldKeys]

/-- A relay whose packets and reservations are all of another one. -/
structure Within (relay' relay : EphemeralTransferRelay) : Prop where
  packets : ∀ r packet, relay'.packets.get r = some packet → relay.packets.get r = some packet
  reservations : ∀ r reservation, relay'.reservations.get r = some reservation →
    relay.reservations.get r = some reservation

theorem Within.le (h : Within relay' relay) (hsound : relay.Sound) :
    relay'.holdings.Le relay.holdings where
  keys := fun r hmem => by
    rw [mem_holdings, Option.isSome_iff_exists, Option.isSome_iff_exists] at hmem ⊢
    rcases hmem with ⟨packet, hget⟩ | ⟨reservation, hget⟩
    · exact .inl ⟨packet, h.packets r packet hget⟩
    · exact .inr ⟨reservation, h.reservations r reservation hget⟩
  account := fun r hmem => by
    change relay'.accountOf r = relay.accountOf r
    cases hpacket : relay'.packets.get r with
    | some packet => rw [accountOf_packet hpacket, accountOf_packet (h.packets r packet hpacket)]
    | none =>
      rw [mem_holdings, hpacket, Option.isSome_iff_exists, Option.isSome_iff_exists] at hmem
      rcases hmem with ⟨_, hmem⟩ | ⟨reservation, hget⟩
      · cases hmem
      · rw [hsound.accountOf_reservation (h.reservations r reservation hget), accountOf, hpacket, hget]
        rfl
  bytes := fun r _ => by
    change relay'.chargeOf r ≤ relay.chargeOf r
    rw [chargeOf, chargeOf]
    apply max_le_max
    · cases hpacket : relay'.packets.get r with
      | some packet => rw [h.packets r packet hpacket]
      | none => exact Nat.zero_le _
    · cases hreservation : relay'.reservations.get r with
      | some reservation => rw [h.reservations r reservation hreservation]
      | none => exact Nat.zero_le _

theorem Sound.shrinks (hsound : relay.Sound) (h : Within relay' relay)
    (hnext : relay.nextReservationId ≤ relay'.nextReservationId)
    (hlimits : relay'.limits = relay.limits) : relay'.Sound where
  paired := fun r packet reservation hpacket hreservation =>
    hsound.paired r packet reservation (h.packets r packet hpacket)
      (h.reservations r reservation hreservation)
  sizes := fun r packet hpacket => hsound.sizes r packet (h.packets r packet hpacket)
  fresh := fun r reservation hreservation =>
    (hsound.fresh r reservation (h.reservations r reservation hreservation)).trans_le hnext
  within := by
    rw [hlimits]
    exact hsound.within.of_le (h.le hsound)

theorem prune_within (now : Date) : Within (relay.prune now) relay :=
  ⟨fun _ _ h => (prune_packet.mp h).1, fun _ _ h => (prune_reservation.mp h).1⟩

theorem Sound.prune (hsound : relay.Sound) (now : Date) : (relay.prune now).Sound :=
  hsound.shrinks (prune_within now) (le_refl _) rfl

/-- What `reserve` checks, about all slots and about those of the account. -/
theorem fits_spec {accountId : String} {bytes : Nat} {existing : Option RelayPacket}
    (h : relay.fits accountId bytes existing = true) :
    (relay.holdings.count (fun _ => True) + (if existing.isSome then 0 else 1) ≤
        relay.limits.maxPackets ∧
      relay.holdings.total (fun _ => True) + (bytes - (existing.map (·.envelopeBytes)).getD 0) ≤
        relay.limits.maxEnvelopeBytes) ∧
    relay.holdings.count (· = accountId) + (if existing.isSome then 0 else 1) ≤
        relay.limits.maxPacketsPerAccount ∧
      relay.holdings.total (· = accountId) + (bytes - (existing.map (·.envelopeBytes)).getD 0) ≤
        relay.limits.maxEnvelopeBytesPerAccount := by
  simp only [fits, usage, Bool.and_eq_true] at h
  obtain ⟨⟨⟨hpackets, haccountPackets⟩, hbytes⟩, haccountBytes⟩ := h
  replace hpackets := of_decide_eq_true hpackets
  replace haccountPackets := of_decide_eq_true haccountPackets
  replace hbytes := of_decide_eq_true hbytes
  replace haccountBytes := of_decide_eq_true haccountBytes
  have hcount := relay.count_eq (fun _ => True)
  have htotal := relay.total_eq (fun _ => True)
  simp only [decide_true, List.filter_true] at hcount htotal
  have haccountCount := relay.count_eq (fun account => accountId = "" ∨ account = accountId)
  have haccountTotal := relay.total_eq (fun account => accountId = "" ∨ account = accountId)
  rw [← hcount] at hpackets
  rw [← htotal] at hbytes
  rw [← haccountCount] at haccountPackets
  rw [← haccountTotal] at haccountBytes
  have hcountLe := Quota.Holdings.count_mono (h := relay.holdings) (p := (· = accountId))
    (q := fun account => accountId = "" ∨ account = accountId) fun _ => .inr
  have htotalLe := Quota.Holdings.total_mono (h := relay.holdings) (p := (· = accountId))
    (q := fun account => accountId = "" ∨ account = accountId) fun _ => .inr
  exact ⟨⟨hpackets, hbytes⟩, (Nat.add_le_add_right hcountLe _).trans haccountPackets,
    (Nat.add_le_add_right htotalLe _).trans haccountBytes⟩

/-- A reservation charges its request with the larger of the old and new size. -/
theorem reserves_within (packet : TransferPacketV1) (reservation : RelayReservation)
    (hsound : relay.Sound) (hnone : relay.reservations.get packet.requestId = none)
    (hexisting : ∀ existing, relay.packets.get packet.requestId = some existing →
      existing.accountId = reservation.accountId)
    (hfits : relay.fits reservation.accountId reservation.envelopeBytes
      (relay.packets.get packet.requestId) = true) {relay' : EphemeralTransferRelay}
    (hpackets : relay'.packets = relay.packets) (hreservations : relay'.reservations =
      relay.reservations.set packet.requestId reservation) :
    relay'.holdings.Within relay.limits.limits := by
  obtain ⟨⟨hslots, hbytes⟩, hslotsAccount, hbytesAccount⟩ := fits_spec hfits
  have hheld : (packet.requestId ∈ relay.holdings.keys) =
      ((relay.packets.get packet.requestId).isSome = true) := by
    simp [mem_holdings, hnone]
  have hcharge : relay.chargeOf packet.requestId =
      ((relay.packets.get packet.requestId).map (·.envelopeBytes)).getD 0 := by
    simp [chargeOf, hnone]
  have hwithin := hsound.within.charge packet.requestId reservation.accountId
    (max (relay.chargeOf packet.requestId) reservation.envelopeBytes)
    (fun hmem => by
      rw [hheld, Option.isSome_iff_exists] at hmem
      obtain ⟨existing, hget⟩ := hmem
      exact (accountOf_packet hget).trans (hexisting existing hget))
    (relay.chargeOf packet.requestId) (fun _ => le_refl _)
    (fun hmem => by
      rw [hheld, Bool.not_eq_true, Option.isSome_eq_false_iff, Option.isNone_iff_eq_none] at hmem
      rw [hcharge, hmem]
      rfl)
  have hadditional : max (relay.chargeOf packet.requestId) reservation.envelopeBytes -
      relay.chargeOf packet.requestId = reservation.envelopeBytes -
        ((relay.packets.get packet.requestId).map (·.envelopeBytes)).getD 0 := by
    rw [hcharge]
    omega
  rw [hadditional] at hwithin
  simp only [hheld] at hwithin
  have hself : relay'.reservations.get packet.requestId = some reservation := by
    rw [hreservations, JsMap.get_set_self]
  have hother : ∀ r, r ≠ packet.requestId →
      relay'.reservations.get r = relay.reservations.get r := by
    intro r hr
    rw [hreservations, JsMap.get_set_other _ _ hr]
  refine (hwithin hslots hslotsAccount hbytes hbytesAccount).of_le ⟨?_, ?_, ?_⟩
  · intro r hmem
    by_cases hr : r = packet.requestId
    · exact hr ▸ Finset.mem_insert_self _ _
    · rw [mem_holdings, hpackets, hother r hr, ← mem_holdings] at hmem
      exact Finset.mem_insert_of_mem hmem
  · intro r _
    change relay'.accountOf r = Function.update relay.accountOf packet.requestId _ r
    by_cases hr : r = packet.requestId
    · subst hr
      rw [Function.update_self, accountOf, hpackets, hself]
      cases hget : relay.packets.get packet.requestId with
      | none => rfl
      | some existing => exact hexisting existing hget
    · rw [Function.update_of_ne hr, accountOf, accountOf, hpackets, hother r hr]
  · intro r _
    change relay'.chargeOf r ≤ Function.update relay.chargeOf packet.requestId _ r
    by_cases hr : r = packet.requestId
    · subst hr
      rw [Function.update_self, chargeOf, hpackets, hself, hcharge]
      exact le_refl _
    · rw [Function.update_of_ne hr, chargeOf, chargeOf, hpackets, hother r hr]

/-- An activation keeps the charges, as the packet has the size that was reserved. -/
theorem activates_le {packet : TransferPacketV1} (hsound : relay.Sound)
    (hget : relay.reservations.get packet.requestId = some reservation) :
    Quota.Holdings.Le (holdings { relay with
      reservations := relay.reservations.delete packet.requestId
      packets := relay.packets.set packet.requestId (activated reservation packet) })
      relay.holdings where
  keys := fun r hmem => by
    rw [mem_holdings] at hmem ⊢
    by_cases hr : r = packet.requestId
    · subst hr
      right
      rw [hget]
      rfl
    · rwa [JsMap.get_set_other _ _ hr, JsMap.get_delete_other _ hr] at hmem
  account := fun r _ => by
    change accountOf _ r = relay.accountOf r
    by_cases hr : r = packet.requestId
    · subst hr
      rw [hsound.accountOf_reservation hget, accountOf_packet (JsMap.get_set_self _ _ _)]
      rfl
    · simp only [accountOf]
      rw [JsMap.get_set_other _ _ hr, JsMap.get_delete_other _ hr]
  bytes := fun r _ => by
    change chargeOf _ r ≤ relay.chargeOf r
    by_cases hr : r = packet.requestId
    · subst hr
      simp [chargeOf, hget, activated]
    · simp only [chargeOf]
      rw [JsMap.get_set_other _ _ hr, JsMap.get_delete_other _ hr]

/-- Pinning changes no charge. -/
theorem pins_le (hget : relay.packets.get r = some packet) :
    (relay.pinned r packet).holdings.Le relay.holdings where
  keys := fun key hmem => by
    rw [mem_holdings] at hmem ⊢
    by_cases hkey : key = r
    · subst hkey
      left
      rw [hget]
      rfl
    · rwa [pinned, JsMap.get_set_other _ _ hkey] at hmem
  account := fun key _ => by
    change (relay.pinned r packet).accountOf key = relay.accountOf key
    by_cases hkey : key = r
    · subst hkey
      rw [accountOf_packet hget, accountOf_packet (JsMap.get_set_self _ _ _)]
    · simp only [accountOf, pinned]
      rw [JsMap.get_set_other _ _ hkey]
  bytes := fun key _ => by
    change (relay.pinned r packet).chargeOf key ≤ relay.chargeOf key
    by_cases hkey : key = r
    · subst hkey
      simp [chargeOf, hget, pinned]
    · simp only [chargeOf, pinned]
      rw [JsMap.get_set_other _ _ hkey]

theorem Sound.moves (hsound : relay.Sound) (h : Moves sha256 relay relay') :
    relay'.Sound ∧ relay'.limits = relay.limits ∧
      relay.nextReservationId ≤ relay'.nextReservationId := by
  cases h with
  | shrinks _ hpackets hreservations hnext hlimits =>
    exact ⟨hsound.shrinks ⟨hpackets, hreservations⟩ hnext.ge hlimits, hlimits, hnext.ge⟩
  | reserves packet accountId sourceDeviceId expiresAt now hnone hexisting hfits =>
    have hpruned := hsound.prune now
    have hheld : ∀ existing, (relay.prune now).packets.get packet.requestId = some existing →
        existing.deliveredToRecipient = false ∧ existing.accountId = accountId ∧
          existing.sourceDeviceId = sourceDeviceId := by
      intro existing hget
      have hout := hexisting existing hget
      simp only [holdsOut, Bool.or_eq_false_iff, decide_eq_false_iff_not, not_not] at hout
      exact ⟨hout.1.1, hout.1.2, hout.2⟩
    refine ⟨⟨?_, hpruned.sizes, ?_, ?_⟩, rfl, Nat.le_succ _⟩
    · intro r found reservation hfound hreservation
      rw [JsMap.get_set] at hreservation
      split at hreservation
      · rename_i hr
        subst hr
        cases hreservation
        obtain ⟨hdelivered, haccount, hsource⟩ := hheld found hfound
        exact ⟨haccount, hsource, hdelivered⟩
      · exact hpruned.paired r found reservation hfound hreservation
    · intro r reservation hreservation
      rw [JsMap.get_set] at hreservation
      split at hreservation
      · cases hreservation
        exact Nat.lt_succ_self _
      · exact (hpruned.fresh r reservation hreservation).trans (Nat.lt_succ_self _)
    · exact reserves_within packet (reservationOf sha256 packet accountId sourceDeviceId expiresAt
        relay.nextReservationId) hpruned hnone
        (fun existing hget => (hheld existing hget).2.1) hfits rfl rfl
  | activates packet reservation hget hmatches =>
    refine ⟨⟨?_, ?_, ?_, hsound.within.of_le (activates_le hsound hget)⟩, rfl, le_refl _⟩
    · intro r found other hfound hother
      rw [JsMap.get_delete] at hother
      split at hother
      · cases hother
      · rename_i hr
        rw [JsMap.get_set_other _ _ hr] at hfound
        exact hsound.paired r found other hfound hother
    · intro r found hfound
      rw [JsMap.get_set] at hfound
      split at hfound
      · rename_i hr
        cases hfound
        simp only [matchesReservation, Bool.and_eq_true, decide_eq_true_eq] at hmatches
        exact ⟨hr.symm, hmatches.1.2.symm⟩
      · exact hsound.sizes r found hfound
    · exact fun r other hother => hsound.fresh r other (delete_some hother)
  | pins now r packet hget hnone =>
    have hpruned := hsound.prune now
    refine ⟨⟨?_, ?_, hpruned.fresh, hpruned.within.of_le (pins_le hget)⟩, rfl, le_refl _⟩
    · intro key found reservation hfound hreservation
      rw [pinned, JsMap.get_set] at hfound
      split at hfound
      · rename_i hkey
        subst hkey
        change (relay.prune now).reservations.get key = _ at hreservation
        rw [hnone] at hreservation
        cases hreservation
      · exact hpruned.paired key found reservation hfound hreservation
    · intro key found hfound
      rw [pinned, JsMap.get_set] at hfound
      split at hfound
      · rename_i hkey
        subst hkey
        cases hfound
        exact hpruned.sizes key packet hget
      · exact hpruned.sizes key found hfound

end EphemeralTransferRelay

end SellerAgents.CredentialTransfer
