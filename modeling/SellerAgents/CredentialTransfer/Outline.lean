import SellerAgents.CredentialTransfer.Rows
import SellerAgents.CredentialTransfer.Service

open Concurrent

namespace SellerAgents.CredentialTransfer

open Js
open Subscriptions (Date)

variable {T : Type}

/-! What the history of a run says. -/

/-- Whether a thread holds the fence of a request after an event. -/
def heldAfter (t : T) (r : String) (held : Prop) : TransferEvent T → Prop
  | .act thread (.enter requestId) (.ok ()) _ _ => (thread = t ∧ requestId = r) ∨ held
  | .act thread (.leave requestId) _ _ _ => ¬ (thread = t ∧ requestId = r) ∧ held
  | _ => held

/-- The thread holds the fence of the request. -/
def Holds (t : T) (r : String) : List (TransferEvent T) → Prop
  | [] => False
  | event :: log => heldAfter t r (Holds t r log) event

/-- Whether a thread found the packet in the relay when it last took the fence. -/
def foundAfter (t : T) (r : String) (packet : RelayPacket) (found : Prop) : TransferEvent T → Prop
  | .act thread (.enter requestId) (.ok ()) pre _ =>
    (thread = t ∧ requestId = r ∧ pre.relay.packets.get r = some packet) ∨
      (¬ (thread = t ∧ requestId = r) ∧ found)
  | _ => found

/-- The thread found the packet in the relay when it last took the fence of the request. -/
def Found (t : T) (r : String) (packet : RelayPacket) : List (TransferEvent T) → Prop
  | [] => False
  | event :: log => foundAfter t r packet (Found t r packet log) event

variable (calls : T → ServiceCall)

/-- The thread is a receive of the request, and its pin of the packet is answered with `true`: this
is the step after which the receive returns the packet. -/
def Pins (t : T) (event : TransferEvent T) (r : String) (p : TransferPacketV1) : Prop :=
  ∃ principal pre post packet, calls t = .receive principal r ∧
    event = .act t (.pinDelivered r p.packetId) true pre post ∧
    post.relay.packets.get r = some packet ∧ packet.toTransferPacketV1 = p

/-- A receive pins the packet and returns it. -/
def Delivers (event : TransferEvent T) (r : String) (p : TransferPacketV1) : Prop :=
  ∃ t, Pins calls t event r p

/-- A receive has its delivery of the resident packet recorded, but the answer is an error. -/
def LosesDelivery (event : TransferEvent T) (r : String) (p : TransferPacketV1) : Prop :=
  ∃ t principal now error pre post packet row, calls t = .receive principal r ∧
    event = .act t (.repository (.markDelivered principal r) now) (.error error) pre post ∧
    (Repository.markDelivered principal now pre.rows r).1 = .ok row ∧
    post.rows.get r = some row ∧
    post.relay.packets.get r = some packet ∧ packet.toTransferPacketV1 = p

/-- The packet was returned by a receive, or its delivery was recorded without an answer. -/
def Evidence (log : List (TransferEvent T)) (r : String) (p : TransferPacketV1) : Prop :=
  ∃ event ∈ log, Delivers calls event r p ∨ LosesDelivery calls event r p

/-- The request is over: the service has stopped, or the row is settled or past its expiry. -/
def Closed (s : TransferProcess) (r : String) : Prop :=
  s.stopped = true ∨
    ∃ row, s.rows.get r = some row ∧ (row.state.terminal = true ∨ row.expiresAt ≤ s.clock)

/-- What the relay knows of a row. -/
def OfRow (row : TransferRequestV1) (accountId sourceDeviceId : String) (expiresAt : Date) : Prop :=
  row.accountId = accountId ∧ row.sourceDeviceId = some sourceDeviceId ∧ row.expiresAt = expiresAt

/-- If the row of the request says that a packet was delivered, every resident packet was. -/
def Accounted (log : List (TransferEvent T)) (s : TransferProcess) (r : String) : Prop :=
  ∀ packet row, s.relay.packets.get r = some packet → s.rows.get r = some row →
    row.state = .DELIVERED_TO_RECIPIENT → Evidence calls log r packet.toTransferPacketV1

/-- The states of the row of a resident packet. -/
def TransferState.carries : TransferState → Bool
  | .PACKET_AVAILABLE_EPHEMERAL | .DELIVERED_TO_RECIPIENT | .COMPLETED | .EXPIRED => true
  | _ => false

/-- The relay against the rows and the history. -/
structure RelayInv (log : List (TransferEvent T)) (s : TransferProcess) : Prop where
  stopped : s.stopped = true → ∀ r, s.relay.packets.get r = none
  resident : ∀ r packet, s.relay.packets.get r = some packet → packet.requestId = r ∧
    ∃ row, s.rows.get r = some row ∧
      OfRow row packet.accountId packet.sourceDeviceId packet.expiresAt ∧ row.state.carries = true
  reserved : ∀ r reservation, s.relay.reservations.get r = some reservation →
    (∃ row, s.rows.get r = some row ∧
      OfRow row reservation.accountId reservation.sourceDeviceId reservation.expiresAt) ∧
    ∃ t, Holds t r log
  delivered : ∀ event ∈ log, ∀ r p, Delivers calls event r p → Closed s r ∨
    ∃ packet, s.relay.packets.get r = some packet ∧ packet.toTransferPacketV1 = p ∧
      packet.deliveredToRecipient = true ∧ s.relay.reservations.get r = none
  accounted : ∀ r, Accounted calls log s r ∨
    ∃ t principal, Holds t r log ∧ calls t = .receive principal r

/-- The fences against the history. -/
structure FenceInv (log : List (TransferEvent T)) (s : TransferProcess) : Prop where
  held : ∀ t r, Holds t r log → r ∈ s.inFlightRequests
  exclusive : ∀ t t' r, Holds t r log → Holds t' r log → t = t'

/-! The laws of the history. -/

/-- A packet is returned before its expiry, and neither after the stop nor after the request was
cancelled. -/
def Timely (r : String) : TransferEvent T → Prop
  | .act _ _ _ _ post => post.stopped = false ∧ ∃ row, post.rows.get r = some row ∧
      row.state ≠ .CANCELLED ∧ post.clock < row.expiresAt
  | _ => False

/-- The event completes the request. -/
def Completes (r : String) : TransferEvent T → Prop
  | .act _ _ _ pre post =>
    (∃ row, post.rows.get r = some row ∧ row.state = .COMPLETED) ∧
      ¬ ∃ row, pre.rows.get r = some row ∧ row.state = .COMPLETED
  | .env pre post =>
    (∃ row, post.rows.get r = some row ∧ row.state = .COMPLETED) ∧
      ¬ ∃ row, pre.rows.get r = some row ∧ row.state = .COMPLETED
  | .finish _ _ _ => False

/-- An acknowledgement that names a packet with evidence. -/
def Acknowledges (earlier : List (TransferEvent T)) (r : String) (event : TransferEvent T) : Prop :=
  ∃ t principal ack now answer pre post p, calls t = .acknowledge principal ack ∧
    event = .act t (.repository (.acknowledge principal ack) now) answer pre post ∧
    ack.requestId = r ∧ p.packetId = ack.packetId ∧ Evidence calls earlier r p

/-- The call has put its packet in the relay. -/
def Activated (log : List (TransferEvent T)) (t : T) : Prop :=
  ∃ r reservationId packet pre post,
    Event.act t (.activate r reservationId packet) true pre post ∈ log

/-- A receive of the request would get the packet. -/
structure Receivable (s : TransferProcess) (r : String) (packet : RelayPacket) : Prop where
  running : s.stopped = false
  free : r ∉ s.inFlightRequests
  resident : s.relay.packets.get r = some packet
  settled : s.relay.reservations.get r = none
  row : ∃ row, s.rows.get r = some row ∧ s.clock < row.expiresAt ∧
    OfRow row packet.accountId packet.sourceDeviceId packet.expiresAt ∧
    (row.state = .PACKET_AVAILABLE_EPHEMERAL ∨ row.state = .DELIVERED_TO_RECIPIENT)

/-- What the thread found under the fence is still there, or the request is over. -/
def Retains (log : List (TransferEvent T)) (t : T) (s : TransferProcess) (r : String) : Prop :=
  ∀ packet, Found t r packet log → Closed s r ∨ s.relay.packets.get r = some packet

/-- A submit that leaves without having put its packet in the relay leaves the old one. -/
def Restores (earlier : List (TransferEvent T)) : TransferEvent T → Prop
  | .act t (.leave r) _ _ post => ∀ principal input, calls t = .submit principal input →
    ¬ Activated earlier t → ∀ packet, Found t r packet earlier →
      Closed post r ∨ Receivable post r packet
  | .act _ (.enter _) (.error _) pre post => post.relay = pre.relay ∨ post.stopped = true
  | _ => True

/-- What a receive returns is what it has pinned itself. -/
def Returns (earlier : List (TransferEvent T)) : TransferEvent T → Prop
  | .finish t (.ok (.packet p)) _ => ∃ r, p.requestId = r ∧ ∃ event ∈ earlier, Pins calls t event r p
  | _ => True

/-- The laws of one event. -/
structure EventLaws (earlier : List (TransferEvent T)) (event : TransferEvent T) : Prop where
  timely : ∀ r p, Delivers calls event r p → Timely r event
  same : ∀ r p p', Delivers calls event r p → ∀ other ∈ earlier, Delivers calls other r p' → p = p'
  completed : ∀ r, Completes r event → Acknowledges calls earlier r event
  restores : Restores calls earlier event
  returns : Returns calls earlier event

/-- The laws of every event of a history. -/
def Lawful : List (TransferEvent T) → Prop
  | [] => True
  | event :: earlier => EventLaws calls earlier event ∧ Lawful earlier

/-! The proof outline. -/

/-- What others leave of a request while a thread holds its fence. -/
structure FenceKept (r : String) (s s' : TransferProcess) : Prop where
  packets : ∀ packet, s'.relay.packets.get r = some packet → s.relay.packets.get r = some packet
  gone : ∀ packet, s.relay.packets.get r = some packet →
    s'.relay.packets.get r = some packet ∨ Closed s' r
  reservations : ∀ reservation, s'.relay.reservations.get r = some reservation →
    s.relay.reservations.get r = some reservation
  cleared : s'.stopped = true → s.stopped = true ∨ s'.relay.reservations.get r = none
  delivered : ∀ row', s'.rows.get r = some row' → row'.state = .DELIVERED_TO_RECIPIENT →
    ∃ row, s.rows.get r = some row ∧ row.state = .DELIVERED_TO_RECIPIENT
  prepared : ∀ row row', s.rows.get r = some row → s'.rows.get r = some row' →
    row.state.carries = true → row'.state = row.state ∨ row'.expiresAt ≤ s'.clock

/-- What never goes back. -/
structure Later (s s' : TransferProcess) : Prop where
  clock : s.clock ≤ s'.clock
  stopped : s.stopped = true → s'.stopped = true
  rows : ∀ r row, s.rows.get r = some row → ∃ row', s'.rows.get r = some row' ∧ RowKept row row'

/-- What a thread relies on. -/
structure Rely (t : T) (w w' : TransferWorld T) : Prop where
  log : w.log <:+ w'.log
  found : ∀ r packet, Found t r packet w'.log ↔ Found t r packet w.log
  activated : Activated w'.log t → Activated w.log t
  holds : ∀ r, Holds t r w'.log ↔ Holds t r w.log
  later : Later w.state w'.state
  fenced : ∀ r, Holds t r w.log → FenceKept r w.state w'.state

/-- The precondition of a call of the repository. -/
def CallPre (t : T) (w : TransferWorld T) : RepositoryCall → Prop
  | .markSourceSeen _ r => Holds t r w.log ∧ w.state.relay.packets.get r = none
  | .markPacketAvailable _ r => Holds t r w.log
  | .markDelivered principal r => Holds t r w.log ∧ calls t = .receive principal r
  | .acknowledge principal ack => Holds t ack.requestId w.log ∧ calls t = .acknowledge principal ack ∧
    ∃ p : TransferPacketV1, p.packetId = ack.packetId ∧ ∀ row, w.state.rows.get ack.requestId = some row →
      row.state = .DELIVERED_TO_RECIPIENT → Evidence calls w.log ack.requestId p
  | _ => True

/-- The preconditions of the commands. -/
def Pre (t : T) (command : Cmd) (w : TransferWorld T) : Prop :=
  match command with
  | .leave r => Holds t r w.log ∧ w.state.relay.reservations.get r = none ∧
    (∀ principal, calls t = .receive principal r → Accounted calls w.log w.state r) ∧
    ∀ principal input, calls t = .submit principal input → ¬ Activated w.log t →
      Retains w.log t w.state r
  | .repository call now => now ≤ w.state.clock ∧ CallPre calls t w call
  | .reserve packet accountId sourceDeviceId expiresAt now => Holds t packet.requestId w.log ∧
    now ≤ w.state.clock ∧ ∃ row, w.state.rows.get packet.requestId = some row ∧
      OfRow row accountId sourceDeviceId expiresAt
  | .release r _ => Holds t r w.log
  | .activate r _ packet => Holds t r w.log ∧
    (∃ principal input, calls t = .submit principal input) ∧ packet.requestId = r ∧
    (w.state.stopped = true → w.state.relay.reservations.get r = none) ∧
    ∃ row, w.state.rows.get r = some row ∧
      (row.state = .PACKET_AVAILABLE_EPHEMERAL ∨ row.expiresAt ≤ w.state.clock)
  | .pinDelivered r _ => Holds t r w.log ∧ (∃ principal, calls t = .receive principal r) ∧
    ∃ row, w.state.rows.get r = some row ∧
      (row.state = .DELIVERED_TO_RECIPIENT ∨ row.expiresAt ≤ w.state.clock)
  | .delete r => ∃ row, w.state.rows.get r = some row ∧ row.state.terminal = true
  | .prune now => now ≤ w.state.clock
  | _ => True

/-- The proof outline of the calls. -/
def outline : System.Protocol T Cmd Cmd.Answer Failure TransferAnswer TransferProcess where
  inv w := FenceInv w.log w.state ∧ RelayInv calls w.log w.state ∧ Lawful calls w.log
  pre t command w := Pre calls t command w
  rely t w w' := Rely t w w'
  post t answer w := ∀ p, answer = .packet p →
    ∃ r, p.requestId = r ∧ ∃ event ∈ w.log, Pins calls t event r p

/-! Assertions that others keep. -/

section Stable

variable {calls} {t : T} {r : String} {s s' s'' : TransferProcess} {w w' w'' : TransferWorld T}

theorem Later.refl (s : TransferProcess) : Later s s :=
  ⟨Int.le_refl _, id, fun _ row h => ⟨row, h, .refl row⟩⟩

theorem Later.trans (h : Later s s') (h' : Later s' s'') : Later s s'' where
  clock := Int.le_trans h.clock h'.clock
  stopped := h'.stopped ∘ h.stopped
  rows r row hrow := by
    obtain ⟨row', hrow', hkept⟩ := h.rows r row hrow
    obtain ⟨row'', hrow'', hkept'⟩ := h'.rows r row' hrow'
    exact ⟨row'', hrow'', hkept.trans hkept'⟩

/-- A request that is over stays over. -/
theorem Closed.later (h : Closed s r) (hlater : Later s s') : Closed s' r := by
  rcases h with hstopped | ⟨row, hrow, hend⟩
  · exact .inl (hlater.stopped hstopped)
  · obtain ⟨row', hrow', hkept⟩ := hlater.rows r row hrow
    refine .inr ⟨row', hrow', hend.imp (fun hterminal => ?_) fun hexpiry => ?_⟩
    · rw [hkept.terminal hterminal, hterminal]
    · rw [hkept.expiry]
      exact Int.le_trans hexpiry hlater.clock

theorem FenceKept.refl (r : String) (s : TransferProcess) : FenceKept r s s where
  packets _ h := h
  gone _ h := .inl h
  reservations _ h := h
  cleared := .inl
  delivered row h hstate := ⟨row, h, hstate⟩
  prepared row row' h h' _ := by
    rw [h] at h'
    cases h'
    exact .inl rfl

theorem FenceKept.trans (h : FenceKept r s s') (h' : FenceKept r s' s'') (hlater : Later s s')
    (hlater' : Later s' s'') : FenceKept r s s'' where
  packets packet hpacket := h.packets packet (h'.packets packet hpacket)
  gone packet hpacket := by
    rcases h.gone packet hpacket with hpacket' | hclosed
    · exact h'.gone packet hpacket'
    · exact .inr (hclosed.later hlater')
  reservations reservation hres := h.reservations reservation (h'.reservations reservation hres)
  cleared hstopped := by
    rcases h'.cleared hstopped with hstopped' | hnone
    · refine (h.cleared hstopped').imp_right fun hnone => ?_
      cases hres : s''.relay.reservations.get r with
      | none => rfl
      | some reservation =>
        have hsome := h'.reservations reservation hres
        rw [hnone] at hsome
        cases hsome
    · exact .inr hnone
  delivered row'' hrow'' hstate := by
    obtain ⟨row', hrow', hstate'⟩ := h'.delivered row'' hrow'' hstate
    exact h.delivered row' hrow' hstate'
  prepared row row'' hrow hrow'' hcarries := by
    obtain ⟨row', hrow', -⟩ := hlater.rows r row hrow
    rcases h.prepared row row' hrow hrow' hcarries with hsame | hexpired
    · rw [← hsame]
      exact h'.prepared row' row'' hrow' hrow'' (hsame ▸ hcarries)
    · obtain ⟨last, hlast, hkept⟩ := hlater'.rows r row' hrow'
      rw [hrow''] at hlast
      cases hlast
      rw [hkept.expiry]
      exact .inr (Int.le_trans hexpired hlater'.clock)

theorem Rely.refl (t : T) (w : TransferWorld T) : Rely t w w where
  log := List.suffix_refl _
  found _ _ := Iff.rfl
  activated h := h
  holds _ := Iff.rfl
  later := .refl _
  fenced r _ := .refl r _

theorem Rely.trans (h : Rely t w w') (h' : Rely t w' w'') : Rely t w w'' where
  log := h.log.trans h'.log
  found r packet := (h'.found r packet).trans (h.found r packet)
  activated hactivated := h.activated (h'.activated hactivated)
  holds r := (h'.holds r).trans (h.holds r)
  later := h.later.trans h'.later
  fenced r hheld := (h.fenced r hheld).trans (h'.fenced r ((h.holds r).mpr hheld)) h.later h'.later

theorem Evidence.mono {log log' : List (TransferEvent T)} {p : TransferPacketV1}
    (h : Evidence calls log r p) (hlog : log <:+ log') : Evidence calls log' r p := by
  obtain ⟨event, hmem, hevent⟩ := h
  exact ⟨event, hlog.subset hmem, hevent⟩

/-- While the fence is held, no other call makes the row say that a packet was delivered. -/
theorem Accounted.rely (h : Accounted calls w.log w.state r) (hheld : Holds t r w.log)
    (hrely : Rely t w w') : Accounted calls w'.log w'.state r := by
  intro packet row' hpacket hrow' hstate'
  have hkept := hrely.fenced r hheld
  obtain ⟨row, hrow, hstate⟩ := hkept.delivered row' hrow' hstate'
  exact (h packet row (hkept.packets packet hpacket) hrow hstate).mono hrely.log

theorem Retains.rely (h : Retains w.log t w.state r) (hheld : Holds t r w.log)
    (hrely : Rely t w w') : Retains w'.log t w'.state r := by
  intro packet hfound
  rcases h packet ((hrely.found r packet).mp hfound) with hclosed | hresident
  · exact .inl (hclosed.later hrely.later)
  · exact ((hrely.fenced r hheld).gone packet hresident).symm

end Stable

end SellerAgents.CredentialTransfer
