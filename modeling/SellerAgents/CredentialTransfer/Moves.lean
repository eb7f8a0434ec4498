import SellerAgents.CredentialTransfer.Outline

open Concurrent

namespace SellerAgents.CredentialTransfer

open Js
open Subscriptions (Date)

variable {T : Type} {calls : T → ServiceCall}

/-! Steps that only take entries out of the relay. -/

/-- Every entry that goes is of a request that is over, or is a reservation. -/
structure Shrinks (s s' : TransferProcess) : Prop where
  rows : s'.rows = s.rows
  clock : s.clock ≤ s'.clock
  halted : s.stopped = true → s'.stopped = true
  packets : ∀ r packet, s'.relay.packets.get r = some packet → s.relay.packets.get r = some packet
  gone : ∀ r packet, s.relay.packets.get r = some packet →
    s'.relay.packets.get r = some packet ∨ Closed s' r
  reservations : ∀ r reservation, s'.relay.reservations.get r = some reservation →
    s.relay.reservations.get r = some reservation
  cleared : s'.stopped = true → s.stopped = true ∨
    ∀ r, s'.relay.packets.get r = none ∧ s'.relay.reservations.get r = none

section Shrinks

variable {s s' : TransferProcess} {log : List (TransferEvent T)}

/-- A step that leaves the relay, the rows and the stop as they are. -/
theorem Shrinks.still (hrows : s'.rows = s.rows) (hclock : s.clock ≤ s'.clock)
    (hstopped : s'.stopped = s.stopped) (hrelay : s'.relay = s.relay) : Shrinks s s' where
  rows := hrows
  clock := hclock
  halted h := hstopped.trans h
  packets r packet h := by rwa [hrelay] at h
  gone r packet h := .inl (by rwa [hrelay])
  reservations r reservation h := by rwa [hrelay] at h
  cleared h := .inl (hstopped ▸ h)

theorem Shrinks.refl (s : TransferProcess) : Shrinks s s := .still rfl (Int.le_refl _) rfl rfl

theorem Shrinks.later (h : Shrinks s s') : Later s s' where
  clock := h.clock
  stopped := h.halted
  rows r row hrow := ⟨row, by rwa [h.rows], .refl row⟩

theorem Shrinks.fenceKept (h : Shrinks s s') (r : String) : FenceKept r s s' where
  packets := h.packets r
  gone := h.gone r
  reservations := h.reservations r
  cleared hstopped := (h.cleared hstopped).imp_right fun hnone => (hnone r).2
  delivered row hrow hstate := ⟨row, by rwa [h.rows] at hrow, hstate⟩
  prepared row row' hrow hrow' _ := by
    rw [h.rows, hrow] at hrow'
    cases hrow'
    exact .inl rfl

theorem shrinks_stop (s : TransferProcess) : Shrinks s s.stop where
  rows := rfl
  clock := Int.le_refl _
  halted _ := rfl
  packets r packet h := by cases h
  gone _ _ _ := .inr (.inl rfl)
  reservations r reservation h := by cases h
  cleared _ := .inr fun _ => ⟨rfl, rfl⟩

theorem shrinks_assertRunning (s : TransferProcess) (isAvailable : Bool) :
    Shrinks s (s.assertRunning isAvailable).2 := by
  unfold TransferProcess.assertRunning
  split
  · exact shrinks_stop s
  · exact .refl s

theorem shrinks_checkAvailable (s : TransferProcess) (isAvailable : Bool) :
    Shrinks s (s.checkAvailable isAvailable) := by
  unfold TransferProcess.checkAvailable
  split
  · exact shrinks_stop s
  · exact .refl s

theorem shrinks_enter (s : TransferProcess) (r : String) (isAvailable : Bool) :
    Shrinks s (s.enter r isAvailable).2 := by
  unfold TransferProcess.enter
  dsimp only
  split
  · exact shrinks_assertRunning s isAvailable
  split
  · exact .refl s
  · exact .still rfl (Int.le_refl _) rfl rfl

theorem shrinks_leave (s : TransferProcess) (r : String) : Shrinks s (s.leave r) :=
  .still rfl (Int.le_refl _) rfl rfl

/-- Pruning at a time that is not ahead of the clock. -/
theorem shrinks_prune (h : RelayInv calls log s) {next now : Date} (hclock : s.clock ≤ now)
    (hnext : next ≤ now) : Shrinks s (s.relayed (s.relay.prune next) now) where
  rows := rfl
  clock := hclock
  halted := id
  packets r packet hpacket := by
    simp only [TransferProcess.relayed, EphemeralTransferRelay.prune, JsMap.get_filter,
      Option.filter_eq_some_iff] at hpacket
    exact hpacket.1
  gone r packet hpacket := by
    by_cases hexpiry : next < packet.expiresAt
    · refine .inl ?_
      simp [TransferProcess.relayed, EphemeralTransferRelay.prune, hpacket, hexpiry]
    · obtain ⟨-, row, hrow, ⟨-, -, hrowExpiry⟩, -⟩ := h.resident r packet hpacket
      refine .inr (.inr ⟨row, hrow, .inr ?_⟩)
      rw [hrowExpiry]
      exact Int.le_trans (Int.not_lt.mp hexpiry) hnext
  reservations r reservation hres := by
    simp only [TransferProcess.relayed, EphemeralTransferRelay.prune, JsMap.get_filter,
      Option.filter_eq_some_iff] at hres
    exact hres.1
  cleared := .inl

/-- Taking a reservation out. -/
theorem shrinks_unreserve (r : String) {now : Date} (hclock : s.clock ≤ now) :
    Shrinks s (s.relayed { s.relay with reservations := s.relay.reservations.delete r } now) where
  rows := rfl
  clock := hclock
  halted := id
  packets _ _ h := h
  gone _ _ h := .inl h
  reservations other reservation h := by
    dsimp only [TransferProcess.relayed] at h
    rw [JsMap.get_delete] at h
    split at h
    · cases h
    · exact h
  cleared := .inl

theorem shrinks_release (r : String) (reservationId : Nat) {now : Date} (hclock : s.clock ≤ now) :
    Shrinks s (s.relayed (s.relay.release r reservationId) now) := by
  unfold EphemeralTransferRelay.release
  split
  · exact .still rfl hclock rfl rfl
  split
  · exact shrinks_unreserve r hclock
  · exact .still rfl hclock rfl rfl

theorem shrinks_delete {r : String} {row : TransferRequestV1} (hrow : s.rows.get r = some row)
    (hterminal : row.state.terminal = true) {now : Date} (hclock : s.clock ≤ now) :
    Shrinks s (s.relayed (s.relay.delete r) now) where
  rows := rfl
  clock := hclock
  halted := id
  packets other packet h := by
    dsimp only [TransferProcess.relayed, EphemeralTransferRelay.delete] at h
    rw [JsMap.get_delete] at h
    split at h
    · cases h
    · exact h
  gone other packet h := by
    by_cases hother : other = r
    · subst hother
      exact .inr (.inr ⟨row, hrow, .inl hterminal⟩)
    · refine .inl ?_
      dsimp only [TransferProcess.relayed, EphemeralTransferRelay.delete]
      rw [JsMap.get_delete_other _ hother, h]
  reservations other reservation h := by
    dsimp only [TransferProcess.relayed, EphemeralTransferRelay.delete] at h
    rw [JsMap.get_delete] at h
    split at h
    · cases h
    · exact h
  cleared := .inl

end Shrinks

/-! What an event changes in the history. -/

section History

variable {log : List (TransferEvent T)} {t other : T} {r : String} {command : Cmd}
  {answer : command.Answer} {pre post : TransferProcess}

/-- The commands that neither take nor give back a fence. -/
def Cmd.Unfenced : Cmd → Prop
  | .enter _ | .leave _ => False
  | _ => True

theorem holds_unfenced (h : command.Unfenced) :
    Holds other r (.act t command answer pre post :: log) ↔ Holds other r log := by
  cases command with
  | enter _ => exact h.elim
  | leave _ => exact h.elim
  | _ => exact Iff.rfl

/-- An event of one thread does not change what another one holds. -/
theorem holds_other (h : other ≠ t) :
    Holds other r (.act t command answer pre post :: log) ↔ Holds other r log := by
  cases command with
  | enter requestId =>
    cases answer with
    | ok value => simp [Holds, heldAfter, h.symm]
    | error error => exact Iff.rfl
  | leave requestId => simp [Holds, heldAfter, h.symm]
  | _ => exact Iff.rfl

theorem found_unfenced (h : command.Unfenced) {packet : RelayPacket} :
    Found other r packet (.act t command answer pre post :: log) ↔ Found other r packet log := by
  cases command with
  | enter _ => exact h.elim
  | leave _ => exact h.elim
  | _ => exact Iff.rfl

theorem found_other (h : other ≠ t) {packet : RelayPacket} :
    Found other r packet (.act t command answer pre post :: log) ↔ Found other r packet log := by
  cases command with
  | enter requestId =>
    cases answer with
    | ok value => simp [Found, foundAfter, h.symm]
    | error error => exact Iff.rfl
  | _ => exact Iff.rfl

theorem activated_other (h : other ≠ t)
    (hactivated : Activated (.act t command answer pre post :: log) other) : Activated log other := by
  obtain ⟨requestId, reservationId, packet, before, after, hmem⟩ := hactivated
  refine ⟨requestId, reservationId, packet, before, after, (List.mem_cons.mp hmem).resolve_left ?_⟩
  intro heq
  cases heq
  exact h rfl

/-- Only a pin of a receive delivers. -/
theorem Delivers.pin {p : TransferPacketV1}
    (h : Delivers calls (.act t command answer pre post) r p) :
    command = .pinDelivered r p.packetId ∧ HEq answer true := by
  obtain ⟨t', principal, pre', post', packet, -, heq, -, -⟩ := h
  cases heq
  exact ⟨rfl, HEq.rfl⟩

theorem rely_act (hother : other ≠ t) {w : TransferWorld T} {s' : TransferProcess}
    (hlater : Later w.state s') (hfenced : ∀ r, Holds other r w.log → FenceKept r w.state s') :
    Rely other w (w.act t command answer s') where
  log := List.suffix_cons _ _
  found _ _ := found_other hother
  activated := activated_other hother
  holds _ := holds_other hother
  later := hlater
  fenced := hfenced

end History

/-! The invariants. -/

section Invariants

variable {log : List (TransferEvent T)} {s s' : TransferProcess} {event : TransferEvent T}

theorem RelayInv.shrinks (h : RelayInv calls log s) (hs : Shrinks s s')
    {log' : List (TransferEvent T)} (hlog : log <:+ log')
    (hevent : ∀ event ∈ log', ∀ r p, Delivers calls event r p → event ∈ log)
    (hreserved : ∀ r reservation, s'.relay.reservations.get r = some reservation →
      (∃ t, Holds t r log) → ∃ t, Holds t r log')
    (haccounted : ∀ r, (∃ t principal, Holds t r log ∧ calls t = .receive principal r) →
      Accounted calls log' s' r ∨
        ∃ t principal, Holds t r log' ∧ calls t = .receive principal r) :
    RelayInv calls log' s' where
  stopped hstopped r := by
    rcases hs.cleared hstopped with hstopped' | hnone
    · cases hpacket : s'.relay.packets.get r with
      | none => rfl
      | some packet =>
        have hold := hs.packets r packet hpacket
        rw [h.stopped hstopped' r] at hold
        cases hold
    · exact (hnone r).1
  resident r packet hpacket := by
    rw [hs.rows]
    exact h.resident r packet (hs.packets r packet hpacket)
  reserved r reservation hres := by
    obtain ⟨hrow, hheld⟩ := h.reserved r reservation (hs.reservations r reservation hres)
    rw [hs.rows]
    exact ⟨hrow, hreserved r reservation hres hheld⟩
  delivered other hmem r p hdelivers := by
    rcases h.delivered other (hevent other hmem r p hdelivers) r p hdelivers with
      hclosed | ⟨packet, hpacket, hp, hpinned, hnone⟩
    · exact .inl (hclosed.later hs.later)
    rcases hs.gone r packet hpacket with hresident | hclosed
    · refine .inr ⟨packet, hresident, hp, hpinned, ?_⟩
      cases hres : s'.relay.reservations.get r with
      | none => rfl
      | some reservation =>
        have hold := hs.reservations r reservation hres
        rw [hnone] at hold
        cases hold
    · exact .inl hclosed
  accounted r := by
    rcases h.accounted r with haccount | hheld
    · refine .inl fun packet row hpacket hrow hstate => ?_
      rw [hs.rows] at hrow
      exact (haccount packet row (hs.packets r packet hpacket) hrow hstate).mono hlog
    · exact haccounted r hheld

/-- An event that does not deliver adds no delivery to the history. -/
theorem delivers_of_cons (hevent : ∀ r p, ¬ Delivers calls event r p) :
    ∀ other ∈ event :: log, ∀ r p, Delivers calls other r p → other ∈ log := by
  intro other hmem r p hdelivers
  refine (List.mem_cons.mp hmem).resolve_left fun heq => ?_
  exact hevent r p (heq ▸ hdelivers)

/-- The relay's invariant after a command that takes entries out and leaves the fences alone. -/
theorem RelayInv.shrinks_act (h : RelayInv calls log s) (hs : Shrinks s s') {t : T} {command : Cmd}
    {answer : command.Answer} {pre post : TransferProcess} (hunfenced : command.Unfenced)
    (hevent : ∀ r p, ¬ Delivers calls (.act t command answer pre post) r p) :
    RelayInv calls (.act t command answer pre post :: log) s' := by
  refine h.shrinks hs (List.suffix_cons _ _) (delivers_of_cons hevent) (fun r _ _ hheld => ?_)
    fun r hheld => .inr ?_
  · obtain ⟨holder, hholds⟩ := hheld
    exact ⟨holder, (holds_unfenced hunfenced).mpr hholds⟩
  · obtain ⟨holder, principal, hholds, hcall⟩ := hheld
    exact ⟨holder, principal, (holds_unfenced hunfenced).mpr hholds, hcall⟩

theorem FenceInv.unfenced (h : FenceInv log s) {t : T} {command : Cmd} {answer : command.Answer}
    {pre post : TransferProcess} (hunfenced : command.Unfenced)
    (hsame : s'.inFlightRequests = s.inFlightRequests) :
    FenceInv (.act t command answer pre post :: log) s' where
  held holder r hheld := by
    rw [hsame]
    exact h.held holder r ((holds_unfenced hunfenced).mp hheld)
  exclusive holder holder' r hheld hheld' :=
    h.exclusive holder holder' r ((holds_unfenced hunfenced).mp hheld)
      ((holds_unfenced hunfenced).mp hheld')

/-- The laws of a command that neither delivers nor touches the rows or the fences. -/
theorem eventLaws_quiet {t : T} {command : Cmd} {answer : command.Answer}
    (hunfenced : command.Unfenced) (hrows : s'.rows = s.rows)
    (hevent : ∀ r p, ¬ Delivers calls (.act t command answer s s') r p) :
    EventLaws calls log (.act t command answer s s') where
  timely r p hdelivers := absurd hdelivers (hevent r p)
  same r p _ hdelivers := absurd hdelivers (hevent r p)
  completed r hcompletes := by
    obtain ⟨hnew, hold⟩ := hcompletes
    rw [hrows] at hnew
    exact absurd hnew hold
  restores := by
    cases command with
    | enter _ => exact hunfenced.elim
    | leave _ => exact hunfenced.elim
    | _ => trivial
  returns := trivial

/-- A reservation for a request whose resident packet, if any, was not returned. -/
theorem RelayInv.reserve (h : RelayInv calls log s) {r : String} {reservation : RelayReservation}
    (next : Nat) (hrow : ∃ row, s.rows.get r = some row ∧
      OfRow row reservation.accountId reservation.sourceDeviceId reservation.expiresAt)
    (hheld : ∃ t, Holds t r log) (hfree : ∀ existing, s.relay.packets.get r = some existing →
      existing.deliveredToRecipient = false) :
    RelayInv calls log { s with relay := { s.relay with
      nextReservationId := next
      reservations := s.relay.reservations.set r reservation } } where
  stopped := h.stopped
  resident := h.resident
  reserved other found hfound := by
    dsimp only at hfound ⊢
    rw [JsMap.get_set] at hfound
    split at hfound
    · rename_i hother
      cases hfound
      rw [hother]
      exact ⟨hrow, hheld⟩
    · exact h.reserved other found hfound
  delivered event hmem other p hdelivers := by
    rcases h.delivered event hmem other p hdelivers with hclosed | ⟨packet, hpacket, hp, hpinned, hnone⟩
    · exact .inl hclosed
    refine .inr ⟨packet, hpacket, hp, hpinned, ?_⟩
    have hother : other ≠ r := by
      rintro rfl
      rw [hfree packet hpacket] at hpinned
      cases hpinned
    exact (JsMap.get_set_other _ _ hother).trans hnone
  accounted := h.accounted

/-- A reservation that becomes the resident packet. -/
theorem RelayInv.activate (h : RelayInv calls log s) {r : String} {packet : TransferPacketV1}
    {reservation : RelayReservation} (hres : s.relay.reservations.get r = some reservation)
    (hrunning : s.stopped = false) (hid : packet.requestId = r)
    (hrow : ∃ row, s.rows.get r = some row ∧ row.state = .PACKET_AVAILABLE_EPHEMERAL) :
    RelayInv calls log { s with relay := { s.relay with
      reservations := s.relay.reservations.delete r
      packets := s.relay.packets.set r (EphemeralTransferRelay.activated reservation packet) } } where
  stopped hstopped := by rw [hrunning] at hstopped; cases hstopped
  resident other found hfound := by
    dsimp only at hfound ⊢
    rw [JsMap.get_set] at hfound
    split at hfound
    · rename_i hother
      cases hfound
      rw [hother]
      obtain ⟨⟨row, hget, hof⟩, -⟩ := h.reserved r reservation hres
      obtain ⟨row', hget', hstate⟩ := hrow
      rw [hget] at hget'
      cases hget'
      exact ⟨hid, row, hget, hof, by rw [hstate]; rfl⟩
    · exact h.resident other found hfound
  reserved other found hfound := by
    dsimp only at hfound ⊢
    rw [JsMap.get_delete] at hfound
    split at hfound
    · cases hfound
    · exact h.reserved other found hfound
  delivered event hmem other p hdelivers := by
    rcases h.delivered event hmem other p hdelivers with hclosed | ⟨found, hfound, hp, hpinned, hnone⟩
    · exact .inl hclosed
    have hother : other ≠ r := by
      rintro rfl
      rw [hres] at hnone
      cases hnone
    refine .inr ⟨found, (JsMap.get_set_other _ _ hother).trans hfound, hp, hpinned, ?_⟩
    exact (JsMap.get_delete_other _ hother).trans hnone
  accounted other := by
    by_cases hother : other = r
    · subst hother
      obtain ⟨row, hget, hstate⟩ := hrow
      refine .inl fun found row' _ hrow' hdelivered => ?_
      rw [hget] at hrow'
      cases hrow'
      rw [hstate] at hdelivered
      cases hdelivered
    · refine (h.accounted other).imp_left fun haccounted found row hfound hrow hstate => ?_
      dsimp only at hfound
      rw [JsMap.get_set_other _ _ hother] at hfound
      exact haccounted found row hfound hrow hstate

/-- A resident packet that is pinned and returned. -/
theorem RelayInv.pin (h : RelayInv calls log s) {r : String} {resident : RelayPacket}
    (hresident : s.relay.packets.get r = some resident) (hnone : s.relay.reservations.get r = none)
    (hheld : ∀ r, (∃ t, Holds t r log) → ∃ t, Holds t r (event :: log))
    (hreceives : ∀ r, (∃ t principal, Holds t r log ∧ calls t = .receive principal r) →
      ∃ t principal, Holds t r (event :: log) ∧ calls t = .receive principal r)
    (hevent : Delivers calls event r resident.toTransferPacketV1)
    (honly : ∀ other p, Delivers calls event other p → other = r ∧ p = resident.toTransferPacketV1)
    (hopen : ¬ Closed s r) :
    RelayInv calls (event :: log) { s with relay := { s.relay with
      packets := s.relay.packets.set r { resident with deliveredToRecipient := true } } } where
  stopped hstopped := by
    rw [h.stopped hstopped r] at hresident
    cases hresident
  resident other found hfound := by
    dsimp only at hfound ⊢
    rw [JsMap.get_set] at hfound
    split at hfound
    · rename_i hother
      cases hfound
      rw [hother]
      exact h.resident r resident hresident
    · exact h.resident other found hfound
  reserved other found hfound :=
    (h.reserved other found hfound).imp_right (hheld other)
  delivered event' hmem other p hdelivers := by
    have hpinned : ∃ packet, (s.relay.packets.set r { resident with deliveredToRecipient := true }).get r =
        some packet ∧ packet.toTransferPacketV1 = resident.toTransferPacketV1 ∧
        packet.deliveredToRecipient = true ∧ s.relay.reservations.get r = none :=
      ⟨_, JsMap.get_set_self _ _ _, rfl, rfl, hnone⟩
    rcases List.mem_cons.mp hmem with rfl | hmem
    · obtain ⟨rfl, rfl⟩ := honly other p hdelivers
      exact .inr hpinned
    rcases h.delivered event' hmem other p hdelivers with hclosed | ⟨found, hfound, hp, hdone, hfree⟩
    · exact .inl hclosed
    by_cases hother : other = r
    · subst hother
      rw [hresident] at hfound
      cases hfound
      rw [← hp]
      exact .inr hpinned
    · exact .inr ⟨found, (JsMap.get_set_other _ _ hother).trans hfound, hp, hdone, hfree⟩
  accounted other := by
    by_cases hother : other = r
    · subst hother
      refine .inl fun found row hfound _ _ => ?_
      simp only [JsMap.get_set_self, Option.some.injEq] at hfound
      subst hfound
      exact ⟨event, List.mem_cons_self, .inl hevent⟩
    · refine (h.accounted other).imp (fun haccounted found row hfound hrow hstate => ?_) (hreceives other)
      dsimp only at hfound
      rw [JsMap.get_set_other _ _ hother] at hfound
      exact (haccounted found row hfound hrow hstate).mono (List.suffix_cons _ _)

end Invariants

end SellerAgents.CredentialTransfer
