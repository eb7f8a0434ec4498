import SellerAgents.CredentialTransfer.RelayLimits

namespace SellerAgents.CredentialTransfer

open Js
open Subscriptions (Date)

namespace EphemeralTransferRelay

variable {sha256 : JsString → String} {relay : EphemeralTransferRelay} {r : String}
  {packet : RelayPacket}

/-- The time that a call takes expired packets away at. -/
def clockOf : RelayCall → Option Date
  | .reserve _ _ _ _ now => now
  | .get _ now => now
  | .isDelivered _ now => now
  | .pinDelivered _ _ now => now
  | .prune now => now
  | _ => none

/-- A call that comes when a packet is expired. -/
def Expires (packet : RelayPacket) (call : RelayCall) : Prop :=
  ∃ now, clockOf call = some now ∧ packet.expiresAt ≤ now

/-- A call that deletes the packet of a request. -/
def Deletes (r : String) (call : RelayCall) : Prop :=
  (∃ now, call = .delete r now) ∨ call = .clear

/-- A call that puts a packet in the place of the packet of a request. -/
def Replaces (sha256 : JsString → String) (relay : EphemeralTransferRelay) (r : String)
    (call : RelayCall) : Prop :=
  ∃ reservationId packet now, call = .activate r reservationId packet now ∧
    (relay.step sha256 call).1 = .flag true

/-- A call that pins the packet of a request as delivered. -/
def Pins (sha256 : JsString → String) (relay : EphemeralTransferRelay) (r : String)
    (call : RelayCall) : Prop :=
  ∃ packetId now, call = .pinDelivered r packetId now ∧ (relay.step sha256 call).1 = .flag true

variable {now : Date} {reservationId : Nat} {call : RelayCall} {reservation : RelayReservation}

/-- What a reading of the clock leaves of a packet. -/
theorem pruned_kept (hpacket : relay.packets.get r = some packet) (hclock : clockOf call = some now) :
    (relay.prune now).packets.get r = some packet ∨
      Expires packet call ∧ (relay.prune now).packets.get r = none := by
  by_cases hexpired : packet.expiresAt ≤ now
  · refine .inr ⟨⟨now, hclock, hexpired⟩, ?_⟩
    rw [prune, JsMap.get_filter, hpacket, Option.filter_some, if_neg]
    simpa using hexpired
  · exact .inl (prune_packet.mpr ⟨hpacket, not_le.mp hexpired⟩)

theorem activate_accepted {submitted : TransferPacketV1}
    (h : (relay.activate sha256 r reservationId submitted now).1 = true) :
    ∃ reservation, relay.reservations.get r = some reservation ∧
      reservation.reservationId = reservationId ∧
      matchesReservation sha256 r reservation submitted = true ∧
      (relay.activate sha256 r reservationId submitted now).2 = { relay with
        reservations := relay.reservations.delete r
        packets := relay.packets.set r (activated reservation submitted) } := by
  rw [activate] at h ⊢
  cases hget : relay.reservations.get r with
  | none =>
    rw [hget] at h
    cases h
  | some reservation =>
    rw [hget] at h
    dsimp only at h ⊢
    split_ifs at h with hid hexpired hmatch
    rw [if_neg hid, if_neg hexpired, if_neg hmatch]
    exact ⟨reservation, rfl, not_not.mp hid, by simpa using hmatch, rfl⟩

theorem activate_refused {requestId : String} {submitted : TransferPacketV1}
    (h : (relay.activate sha256 requestId reservationId submitted now).1 ≠ true) :
    (relay.activate sha256 requestId reservationId submitted now).2.packets = relay.packets := by
  rw [activate] at h ⊢
  cases hget : relay.reservations.get requestId with
  | none => rfl
  | some reservation =>
    rw [hget] at h
    dsimp only at h ⊢
    split_ifs at h ⊢ with hid hexpired hmatch
    · rfl
    · rfl
    · rfl
    · exact absurd rfl h

theorem reserve_packets (sha256 : JsString → String) (relay : EphemeralTransferRelay)
    (submitted : TransferPacketV1) (accountId sourceDeviceId : String) (expiresAt now : Date) :
    (relay.reserve sha256 submitted accountId sourceDeviceId expiresAt now).2.packets =
        relay.packets ∨
      (relay.reserve sha256 submitted accountId sourceDeviceId expiresAt now).2.packets =
        (relay.prune now).packets := by
  rw [reserve]
  dsimp only
  split_ifs
  · exact .inl rfl
  · exact .inl rfl
  · exact .inr rfl
  · exact .inr rfl
  · exact .inr rfl

theorem release_packets (requestId : String) (reservationId : Nat) :
    (relay.release requestId reservationId).packets = relay.packets := by
  rw [release]
  split
  · rfl
  · split <;> rfl

/-- A packet stays as it is but for its end, its replacement and its pin. -/
theorem step_kept (sha256 : JsString → String) (hpacket : relay.packets.get r = some packet) (call : RelayCall) :
    (relay.step sha256 call).2.packets.get r = some packet ∨
      (Expires packet call ∨ Deletes r call) ∧ (relay.step sha256 call).2.packets.get r = none ∨
      Replaces sha256 relay r call ∨ Pins sha256 relay r call := by
  have hpruned : ∀ {call now}, clockOf call = some now →
      (relay.prune now).packets.get r = some packet ∨
        (Expires packet call ∨ Deletes r call) ∧ (relay.prune now).packets.get r = none := by
    intro call now hclock
    exact (pruned_kept hpacket hclock).imp_right (And.imp_left .inl)
  cases call with
  | reserve submitted accountId sourceDeviceId expiresAt now =>
    cases now with
    | none => exact .inl hpacket
    | some now =>
      cases expiresAt with
      | none => exact .inl hpacket
      | some expiresAt =>
        change (relay.reserve sha256 submitted accountId sourceDeviceId expiresAt now).2.packets.get r =
          _ ∨ _ ∧ (relay.reserve sha256 submitted accountId sourceDeviceId expiresAt now).2.packets.get r =
          _ ∨ _
        rcases reserve_packets sha256 relay submitted accountId sourceDeviceId
          expiresAt now with heq | heq
        · rw [heq]
          exact .inl hpacket
        · rw [heq]
          exact (hpruned rfl).imp_right .inl
  | activate requestId reservationId submitted now =>
    cases now with
    | none => exact .inl hpacket
    | some now =>
      by_cases haccepted : (relay.activate sha256 requestId reservationId submitted now).1 = true
      · obtain ⟨reservation, -, -, -, heq⟩ := activate_accepted haccepted
        by_cases hr : r = requestId
        · subst hr
          exact .inr (.inr (.inl ⟨_, _, _, rfl, congrArg RelayAnswer.flag haccepted⟩))
        · left
          change (relay.activate sha256 requestId reservationId submitted now).2.packets.get r = _
          rw [heq, JsMap.get_set_other _ _ hr, hpacket]
      · left
        change (relay.activate sha256 requestId reservationId submitted now).2.packets.get r = _
        rw [activate_refused haccepted, hpacket]
  | release requestId reservationId now =>
    cases now with
    | none => exact .inl hpacket
    | some now =>
      left
      change (relay.release requestId reservationId).packets.get r = _
      rw [release_packets, hpacket]
  | get requestId now =>
    cases now with
    | none => exact .inl hpacket
    | some now => exact (hpruned rfl).imp_right .inl
  | isDelivered requestId now =>
    cases now with
    | none => exact .inl hpacket
    | some now => exact (hpruned rfl).imp_right .inl
  | pinDelivered requestId packetId now =>
    cases now with
    | none => exact .inl hpacket
    | some now =>
      rcases relay.pinDelivered_cases requestId now packetId with
        ⟨resident, hresident, -, hreserved, heq⟩ | ⟨heq, -⟩
      · by_cases hr : r = requestId
        · subst hr
          refine .inr (.inr (.inr ⟨packetId, some now, rfl, ?_⟩))
          change RelayAnswer.flag (relay.pinDelivered r packetId now).1 = _
          rw [heq]
        · change (relay.pinDelivered requestId packetId now).2.packets.get r = _ ∨
            _ ∧ (relay.pinDelivered requestId packetId now).2.packets.get r = _ ∨ _
          rw [heq, pinned, JsMap.get_set_other _ _ hr]
          exact (hpruned rfl).imp_right .inl
      · change (relay.pinDelivered requestId packetId now).2.packets.get r = _ ∨
          _ ∧ (relay.pinDelivered requestId packetId now).2.packets.get r = _ ∨ _
        rw [heq]
        exact (hpruned rfl).imp_right .inl
  | delete requestId now =>
    cases now with
    | none => exact .inl hpacket
    | some now =>
      change (relay.packets.delete requestId).get r = _ ∨ _ ∧ (relay.packets.delete requestId).get r = _ ∨ _
      by_cases hr : r = requestId
      · subst hr
        exact .inr (.inl ⟨.inr (.inl ⟨_, rfl⟩), JsMap.get_delete_self _ _⟩)
      · rw [JsMap.get_delete_other _ hr]
        exact .inl hpacket
  | prune now =>
    cases now with
    | none => exact .inl hpacket
    | some now => exact (hpruned rfl).imp_right .inl
  | clear => exact .inr (.inl ⟨.inr (.inr rfl), rfl⟩)

/-- Whether a reservation of a request is pending under an id. -/
def Pending (relay : EphemeralTransferRelay) (r : String) (reservationId : Nat) : Prop :=
  ∃ reservation, relay.reservations.get r = some reservation ∧
    reservation.reservationId = reservationId

/-- A reservation that is gone does not come back under its id. -/
theorem Moves.gone {relay' : EphemeralTransferRelay} (h : Moves sha256 relay relay')
    (hid : reservationId < relay.nextReservationId) (hgone : ¬ relay.Pending r reservationId) :
    ¬ relay'.Pending r reservationId := by
  rintro ⟨reservation, hget, hsame⟩
  cases h with
  | shrinks _ _ hreservations _ _ => exact hgone ⟨reservation, hreservations r _ hget, hsame⟩
  | reserves submitted _ _ _ _ _ _ _ =>
    rw [JsMap.get_set] at hget
    split at hget
    · cases hget
      exact absurd hsame (ne_of_gt hid)
    · exact hgone ⟨reservation, (prune_reservation.mp hget).1, hsame⟩
  | activates _ _ _ _ => exact hgone ⟨reservation, delete_some hget, hsame⟩
  | pins _ _ _ _ _ => exact hgone ⟨reservation, (prune_reservation.mp hget).1, hsame⟩

/-- Under a reservation that stays pending a packet only goes by expiring. -/
theorem step_pending (hpacket : relay.packets.get r = some packet)
    (hstill : (relay.step sha256 call).2.Pending r reservationId) :
    (relay.step sha256 call).2.packets.get r = some packet ∨ Expires packet call := by
  obtain ⟨reservation, hget, -⟩ := hstill
  rcases step_kept sha256 hpacket call with hkept | ⟨hexpires | hdeletes, hnone⟩ |
    ⟨id, submitted, now, rfl, haccepted⟩ | ⟨packetId, now, rfl, hpinned⟩
  · exact .inl hkept
  · exact .inr hexpires
  · exfalso
    rcases hdeletes with ⟨now, rfl⟩ | rfl
    · cases now with
      | none =>
        change relay.packets.get r = none at hnone
        rw [hpacket] at hnone
        cases hnone
      | some now =>
        change (relay.reservations.delete r).get r = _ at hget
        rw [JsMap.get_delete_self] at hget
        cases hget
    · cases hget
  · exfalso
    cases now with
    | none => cases haccepted
    | some now =>
      change RelayAnswer.flag (relay.activate sha256 r id submitted now).1 = _ at haccepted
      injection haccepted with haccepted
      obtain ⟨_, -, -, -, heq⟩ := activate_accepted haccepted
      change (relay.activate sha256 r id submitted now).2.reservations.get r = _ at hget
      rw [heq, JsMap.get_delete_self] at hget
      cases hget
  · exfalso
    cases now with
    | none => cases hpinned
    | some now =>
      change RelayAnswer.flag (relay.pinDelivered r packetId now).1 = _ at hpinned
      change (relay.pinDelivered r packetId now).2.reservations.get r = _ at hget
      rcases relay.pinDelivered_cases r now packetId with ⟨_, -, -, hreserved, heq⟩ | ⟨heq, -⟩
      · rw [heq] at hget
        change (relay.prune now).reservations.get r = _ at hget
        rw [hreserved] at hget
        cases hget
      · rw [heq] at hpinned
        cases hpinned

/-- A packet that is pinned as delivered only goes. -/
theorem step_pinned (hsound : relay.Sound) (hpacket : relay.packets.get r = some packet)
    (hdelivered : packet.deliveredToRecipient = true) (call : RelayCall) :
    (relay.step sha256 call).2.packets.get r = some packet ∨
      (Expires packet call ∨ Deletes r call) ∧ (relay.step sha256 call).2.packets.get r = none := by
  rcases step_kept sha256 hpacket call with hkept | hgone |
    ⟨id, submitted, now, rfl, haccepted⟩ | ⟨packetId, now, rfl, hpinned⟩
  · exact .inl hkept
  · exact .inr hgone
  · exfalso
    cases now with
    | none => cases haccepted
    | some now =>
      change RelayAnswer.flag (relay.activate sha256 r id submitted now).1 = _ at haccepted
      injection haccepted with haccepted
      obtain ⟨reservation, hreservation, -⟩ := activate_accepted haccepted
      have hpaired := (hsound.paired r packet reservation hpacket hreservation).2.2
      rw [hdelivered] at hpaired
      cases hpaired
  · left
    cases now with
    | none => cases hpinned
    | some now =>
      change (relay.pinDelivered r packetId now).2.packets.get r = _
      change RelayAnswer.flag (relay.pinDelivered r packetId now).1 = _ at hpinned
      rcases relay.pinDelivered_cases r now packetId with ⟨resident, hresident, -, -, heq⟩ | ⟨heq, -⟩
      · have hsame := (prune_packet.mp hresident).1
        rw [hpacket] at hsame
        cases hsame
        rw [heq, pinned, JsMap.get_set_self, ← hdelivered]
      · rw [heq] at hpinned
        cases hpinned

theorem run_cons (call : RelayCall) (calls : List RelayCall) :
    run sha256 relay (call :: calls) = run sha256 (relay.step sha256 call).2 calls := rfl

theorem run_append (calls more : List RelayCall) :
    run sha256 relay (calls ++ more) = run sha256 (run sha256 relay calls) more :=
  List.foldl_append

theorem run_sound (sha256 : JsString → String) (hsound : relay.Sound) (calls : List RelayCall) :
    (run sha256 relay calls).Sound ∧ (run sha256 relay calls).limits = relay.limits ∧
      relay.nextReservationId ≤ (run sha256 relay calls).nextReservationId := by
  induction calls generalizing relay with
  | nil => exact ⟨hsound, rfl, le_refl _⟩
  | cons call rest ih =>
    obtain ⟨hstep, hlimits, hnext⟩ := hsound.moves (step_moves sha256 relay call)
    obtain ⟨hrest, hrestLimits, hrestNext⟩ := ih hstep
    exact ⟨hrest, hrestLimits.trans hlimits, hnext.trans hrestNext⟩

theorem run_gone (hsound : relay.Sound) (hid : reservationId < relay.nextReservationId)
    (hgone : ¬ relay.Pending r reservationId) (calls : List RelayCall) :
    ¬ (run sha256 relay calls).Pending r reservationId := by
  induction calls generalizing relay with
  | nil => exact hgone
  | cons call rest ih =>
    have hmoves := step_moves sha256 relay call
    obtain ⟨hstep, -, hnext⟩ := hsound.moves hmoves
    exact ih hstep (hid.trans_le hnext) (hmoves.gone hid hgone)

/-- Until the end of its reservation a packet stays exactly as it is, unless it expires. -/
theorem run_pending (hsound : relay.Sound) (hid : reservationId < relay.nextReservationId)
    (hpacket : relay.packets.get r = some packet) (calls : List RelayCall)
    (hpending : (run sha256 relay calls).Pending r reservationId) :
    (run sha256 relay calls).packets.get r = some packet ∨ ∃ call ∈ calls, Expires packet call := by
  induction calls generalizing relay with
  | nil => exact .inl hpacket
  | cons call rest ih =>
    have hmoves := step_moves sha256 relay call
    obtain ⟨hstep, -, hnext⟩ := hsound.moves hmoves
    have hstill : (relay.step sha256 call).2.Pending r reservationId := by
      by_contra hgone
      exact run_gone hstep (hid.trans_le hnext) hgone rest hpending
    rcases step_pending hpacket hstill with hkept | hexpires
    · exact (ih hstep (hid.trans_le hnext) hkept hpending).imp_right
        fun ⟨found, hmem, h⟩ => ⟨found, List.mem_cons_of_mem _ hmem, h⟩
    · exact .inr ⟨call, List.mem_cons_self, hexpires⟩

/-- What can end or change a packet in a run. -/
theorem run_kept (sha256 : JsString → String) (hpacket : relay.packets.get r = some packet) (calls : List RelayCall) :
    (run sha256 relay calls).packets.get r = some packet ∨
      ∃ before call after, calls = before ++ call :: after ∧
        (Expires packet call ∨ Deletes r call ∨
          Replaces sha256 (run sha256 relay before) r call ∨
          Pins sha256 (run sha256 relay before) r call) := by
  induction calls generalizing relay with
  | nil => exact .inl hpacket
  | cons call rest ih =>
    rcases step_kept sha256 hpacket call with hkept | ⟨hgone, -⟩ | hreplaces | hpins
    · rcases ih hkept with hrest | ⟨before, found, after, rfl, hfound⟩
      · exact .inl hrest
      · exact .inr ⟨call :: before, found, after, rfl, hfound⟩
    · exact .inr ⟨[], call, rest, rfl, hgone.imp_right .inl⟩
    · exact .inr ⟨[], call, rest, rfl, .inr (.inr (.inl hreplaces))⟩
    · exact .inr ⟨[], call, rest, rfl, .inr (.inr (.inr hpins))⟩

/-- A call that reserved a packet under an id. -/
def ReservedBy (sha256 : JsString → String) (relay : EphemeralTransferRelay) (call : RelayCall)
    (r : String) (reservation : RelayReservation) : Prop :=
  ∃ submitted accountId sourceDeviceId expiresAt now,
    call = .reserve submitted accountId sourceDeviceId expiresAt now ∧
    (relay.step sha256 call).1 = .reserved reservation.reservationId ∧
    matchesReservation sha256 r reservation submitted = true

theorem timed_reservations {now : Option Date}
    {operation : Date → RelayAnswer × EphemeralTransferRelay}
    (h : (relay.timed now operation).2.reservations.get r = some reservation)
    (hoperation : ∀ now, (operation now).2.reservations.get r = some reservation →
      relay.reservations.get r = some reservation) :
    relay.reservations.get r = some reservation := by
  cases now with
  | none => exact h
  | some now => exact hoperation now h

/-- A reservation was there before a step, or the step made it. -/
theorem step_reserved (h : (relay.step sha256 call).2.reservations.get r = some reservation) :
    relay.reservations.get r = some reservation ∨ ReservedBy sha256 relay call r reservation := by
  cases call with
  | reserve submitted accountId sourceDeviceId expiresAt now =>
    cases now with
    | none => exact .inl h
    | some now =>
      cases expiresAt with
      | none => exact .inl h
      | some expiresAt =>
        change (relay.reserve sha256 submitted accountId sourceDeviceId expiresAt now).2.reservations.get
          r = _ at h
        rcases relay.reserve_cases sha256 submitted accountId sourceDeviceId expiresAt now with
          ⟨error, heq⟩ | ⟨error, heq⟩ | ⟨made, heq, hmade, -⟩
        · rw [heq] at h
          exact .inl h
        · rw [heq] at h
          exact .inl (prune_reservation.mp h).1
        · rw [heq, JsMap.get_set] at h
          split at h
          · rename_i hr
            subst hr
            cases h
            refine .inr ⟨submitted, accountId, sourceDeviceId, _, _, rfl, ?_, hmade.matching⟩
            change reserveAnswer (relay.reserve sha256 submitted accountId sourceDeviceId expiresAt
              now).1 = _
            rw [heq]
            rfl
          · exact .inl (prune_reservation.mp h).1
  | activate requestId reservationId submitted now =>
    refine .inl (timed_reservations h fun now hnow => ?_)
    change (relay.activate sha256 requestId reservationId submitted now).2.reservations.get r = _
      at hnow
    rcases relay.activate_cases sha256 submitted requestId now reservationId with
      ⟨_, -, -, -, heq⟩ | ⟨-, heq | heq, -⟩
    · rw [heq] at hnow
      exact delete_some hnow
    · rwa [heq] at hnow
    · rw [heq] at hnow
      exact delete_some hnow
  | release requestId reservationId now =>
    refine .inl (timed_reservations h fun now hnow => ?_)
    dsimp only [release] at hnow
    split at hnow
    · exact hnow
    · split at hnow
      · exact delete_some hnow
      · exact hnow
  | get requestId now => exact .inl (timed_reservations h fun _ hnow => (prune_reservation.mp hnow).1)
  | isDelivered requestId now =>
    exact .inl (timed_reservations h fun _ hnow => (prune_reservation.mp hnow).1)
  | pinDelivered requestId packetId now =>
    refine .inl (timed_reservations h fun now hnow => ?_)
    change (relay.pinDelivered requestId packetId now).2.reservations.get r = _ at hnow
    rcases relay.pinDelivered_cases requestId now packetId with ⟨_, -, -, -, heq⟩ | ⟨heq, -⟩
    · rw [heq] at hnow
      exact (prune_reservation.mp hnow).1
    · rw [heq] at hnow
      exact (prune_reservation.mp hnow).1
  | delete requestId now => exact .inl (timed_reservations h fun _ => delete_some)
  | prune now => exact .inl (timed_reservations h fun _ hnow => (prune_reservation.mp hnow).1)
  | clear => cases h

/-- Every reservation comes from a call of the run. -/
theorem run_reserved (hfresh : relay.reservations = .empty) (calls : List RelayCall)
    (h : (run sha256 relay calls).reservations.get r = some reservation) :
    ∃ before call after, calls = before ++ call :: after ∧
      ReservedBy sha256 (run sha256 relay before) call r reservation := by
  induction calls using List.reverseRecOn with
  | nil =>
    rw [run, List.foldl_nil, hfresh] at h
    cases h
  | append_singleton calls call ih =>
    rw [run_append] at h
    rcases step_reserved h with hbefore | hreserved
    · obtain ⟨before, found, after, rfl, hfound⟩ := ih hbefore
      exact ⟨before, found, after ++ [call], by simp, hfound⟩
    · exact ⟨calls, call, [], rfl, hreserved⟩

end EphemeralTransferRelay

end SellerAgents.CredentialTransfer
