import SellerAgents.CredentialTransfer.Protocol

open Concurrent

namespace SellerAgents.CredentialTransfer

open Js
open Subscriptions (Date)

variable {T : Type} {sha256 : JsString → String} {calls : T → ServiceCall} {t : T} {r : String}
  {w w' : TransferWorld T}

/-- A thread that holds a fence for neither a submit nor a receive gives it back freely. -/
theorem leaves_plain (hheld : Holds t r w.log)
    (hunreserved : w.state.relay.reservations.get r = none)
    (hreceive : ∀ principal, calls t ≠ .receive principal r)
    (hsubmit : ∀ principal input, calls t ≠ .submit principal input) : Pre calls t (.leave r) w :=
  ⟨hheld, hunreserved, fun principal hcall => absurd hcall (hreceive principal),
    fun principal input hcall => absurd hcall (hsubmit principal input)⟩

variable {time : Date} {principal : ExtensionPrincipal} {reservationId : Nat}
  {call : RepositoryCall} {packet : TransferPacketV1} {s' : TransferProcess}
  {input : TransferSubmitInput}

/-- What is known of the relay after a call of the repository, whatever it answers. -/
theorem unreserved_repository {answer : Except Failure call.Answer} (hheld : Holds t r w.log)
    (hunreserved : w.state.relay.reservations.get r = none)
    (heff : Queried call time w.state answer s')
    (hrely : Rely t (w.act t (.repository call time) answer s') w') :
    Holds t r w'.log ∧ w'.state.relay.reservations.get r = none := by
  have hunfenced : (Cmd.repository call time).Unfenced := trivial
  have hheld' : Holds t r (w.act t (.repository call time) answer s').log :=
    (holds_unfenced hunfenced).mpr hheld
  refine ⟨(hrely.holds r).mpr hheld', unreserved_rely ?_ hheld' hrely⟩
  rw [World.act_state, heff.relay.1]
  exact hunreserved

/-! `sourceSeen`. -/

theorem seeSource_wp (hcall : calls t = .sourceSeen principal r) (hfenced : Fenced calls t r w) :
    Wp sha256 calls t (seeSource principal r) (fun _ w' => Pre calls t (.leave r) w')
      (fun _ w' => Pre calls t (.leave r) w') w := by
  unfold seeSource
  simp only [Prog.bind_eq, Prog.act_bind, Prog.ret_bind]
  refine calm_act trivial fun w₁ delivered s₁ hrely₁ _ _ hrely₁' _ => ?_
  have hfenced₁ := hfenced.rely hrely₁'
  split
  · exact fun w₂ hrely₂ _ => (hfenced₁.rely hrely₂).leaves
  refine calm_act trivial fun w₂ resident s₂ hrely₂ hinv₂ heff₂ hrely₂' hinv₂' => ?_
  have hfenced₂ := hfenced₁.rely hrely₂'
  split
  · refine wp_bind (openStep_wp (by trivial) (.inl rfl)
      (fun error w₃ hrely₃ _ => (hfenced₂.rely hrely₃).leaves) fun prepared w₃ _ _ _ hrely₃ _ _ _ => ?_)
    split
    · exact fun w₄ hrely₄ _ => ((hfenced₂.rely hrely₃).rely hrely₄).leaves
    · exact fun w₄ hrely₄ _ => ((hfenced₂.rely hrely₃).rely hrely₄).leaves
  · rename_i hnone
    have hempty : (w₂.act t (.get r) resident s₂).state.relay.packets.get r = none := by
      obtain ⟨now, -, rfl, rfl⟩ := heff₂
      have hunreserved := hfenced₂.unreserved
      simp only [World.act_state, TransferProcess.relayed, EphemeralTransferRelay.get] at hunreserved ⊢
      simp only [EphemeralTransferRelay.get, JsMap.has, hunreserved, Option.isSome_none,
        Bool.false_eq_true, if_false] at hnone
      simpa using hnone
    have hplain (w₃ : TransferWorld T) (hheld : Holds t r w₃.log)
        (hunreserved : w₃.state.relay.reservations.get r = none) : Pre calls t (.leave r) w₃ :=
      leaves_plain hheld hunreserved (fun other h => by rw [hcall] at h; cases h)
        fun other input h => by rw [hcall] at h; cases h
    refine repositoryStep_wp (.inl rfl) (fun w₃ hrely₃ _ => ⟨(hfenced₂.rely hrely₃).held, ?_⟩)
      (fun error w₃ hrely₃ _ => (hfenced₂.rely hrely₃).leaves)
      (fun w₃ time answer s₃ error w₄ hrely₃ _ _ heff _ hrely₄ _ => ?_)
      fun w₃ time value s₃ w₄ hrely₃ _ _ heff hrely₄ _ _ => ?_
    · cases hpacket : w₃.state.relay.packets.get r with
      | none => rfl
      | some packet =>
        have hsome := (hrely₃.fenced r hfenced₂.held).packets packet hpacket
        rw [hempty] at hsome
        cases hsome
    · obtain ⟨hheld, hunreserved⟩ := unreserved_repository (hfenced₂.rely hrely₃).held
        (hfenced₂.rely hrely₃).unreserved heff hrely₄
      exact hplain w₄ hheld hunreserved
    · obtain ⟨hheld, hunreserved⟩ := unreserved_repository (hfenced₂.rely hrely₃).held
        (hfenced₂.rely hrely₃).unreserved heff hrely₄
      exact hplain w₄ hheld hunreserved

theorem sourceSeen_wp (hcall : calls t = .sourceSeen principal r) :
    Wp sha256 calls t (sourceSeen principal r) (fun _ _ => True) (fun _ _ => True) w := by
  unfold sourceSeen
  simp only [Prog.bind_eq]
  refine wp_bind (openStep_wp (by trivial) (.inl rfl) (fun _ _ _ _ => trivial)
    fun current w₁ _ _ _ _ _ _ _ => ?_)
  split
  · exact fun _ _ _ => trivial
  · refine forRequest_wp (fun _ _ => True) (fun _ _ _ _ h => h)
      (fun w₂ _ hfenced => ?_) (fun _ _ _ _ => trivial) fun _ _ _ => trivial
    exact System.wp_mono (seeSource_wp hcall hfenced) (fun _ _ _ h => ⟨h, trivial⟩)
      fun _ _ _ h => h

/-! `submit`. -/

theorem Queried.ok {value : call.Answer} {s : TransferProcess}
    (h : Queried call time s (.ok value) s') :
    (call.perform time s.rows).1 = .ok value ∧ s' = { s with rows := (call.perform time s.rows).2 } := by
  rcases h with ⟨hanswer | ⟨error, herror⟩, hrows⟩ | ⟨⟨error, herror⟩, -⟩
  · refine ⟨?_, hrows⟩
    cases hperform : (call.perform time s.rows).1 with
    | ok found =>
      rw [hperform] at hanswer
      cases hanswer
      rfl
    | error error =>
      rw [hperform] at hanswer
      cases hanswer
  · cases herror
  · cases herror

/-- A step of the thread's own that takes nothing from it. -/
theorem Retains.own {command : Cmd} {answer : command.Answer} (h : Retains w.log t w.state r)
    (hunfenced : command.Unfenced) (hlater : Later w.state s')
    (hgone : ∀ packet, w.state.relay.packets.get r = some packet →
      s'.relay.packets.get r = some packet ∨ Closed s' r) :
    Retains (w.act t command answer s').log t s' r := by
  intro packet hfound
  rcases h packet ((found_unfenced hunfenced).mp hfound) with hclosed | hresident
  · exact .inl (hclosed.later hlater)
  · exact (hgone packet hresident).symm

/-- What a submit knows while its reservation is pending. -/
structure Reserved (sha256 : JsString → String) (t : T) (packet : TransferPacketV1)
    (reservationId : Nat) (w : TransferWorld T) : Prop where
  held : Holds t packet.requestId w.log
  retains : Retains w.log t w.state packet.requestId
  mine : ∀ reservation, w.state.relay.reservations.get packet.requestId = some reservation →
    reservation.reservationId = reservationId ∧
      EphemeralTransferRelay.matchesReservation sha256 packet.requestId reservation packet = true

theorem Reserved.rely (h : Reserved sha256 t packet reservationId w) (hrely : Rely t w w') :
    Reserved sha256 t packet reservationId w' where
  held := (hrely.holds _).mpr h.held
  retains := h.retains.rely h.held hrely
  mine reservation hres := h.mine reservation ((hrely.fenced _ h.held).reservations reservation hres)

theorem Reserved.repository {answer : Except Failure call.Answer}
    (h : Reserved sha256 t packet reservationId w) (heff : Queried call time w.state answer s') :
    Reserved sha256 t packet reservationId (w.act t (.repository call time) answer s') := by
  have hunfenced : (Cmd.repository call time).Unfenced := trivial
  refine ⟨(holds_unfenced hunfenced).mpr h.held, h.retains.own hunfenced heff.later ?_, ?_⟩
  · intro found hfound
    rw [heff.relay.1]
    exact .inl hfound
  · intro reservation hres
    rw [World.act_state, heff.relay.1] at hres
    exact h.mine reservation hres

theorem release_none {relay : EphemeralTransferRelay}
    (h : ∀ reservation, relay.reservations.get r = some reservation →
      reservation.reservationId = reservationId) :
    (relay.release r reservationId).reservations.get r = none := by
  unfold EphemeralTransferRelay.release
  split
  · rename_i hnone
    exact hnone
  · rename_i reservation hres
    rw [if_pos (h reservation hres)]
    exact JsMap.get_delete_self _ _

section

variable (hcall : calls t = .submit principal input)
include hcall

/-- A submit without a pending reservation may give the fence back. -/
theorem leaves_submit (hheld : Holds t r w.log)
    (hunreserved : w.state.relay.reservations.get r = none)
    (hretains : ¬ Activated w.log t → Retains w.log t w.state r) : Pre calls t (.leave r) w := by
  refine ⟨hheld, hunreserved, fun other hother => ?_, fun _ _ _ => hretains⟩
  rw [hcall] at hother
  cases hother

theorem release_wp (h : Reserved sha256 t packet reservationId w) (error : Failure) {α : Type}
    {Q : α → TransferWorld T → Prop} :
    Wp sha256 calls t (.act (.release packet.requestId reservationId) fun _ => .throw error) Q
      (fun _ w' => Pre calls t (.leave packet.requestId) w') w := by
  intro w₁ hrely₁ _
  have h₁ := h.rely hrely₁
  refine ⟨h₁.held, fun answer s' heff _ => ?_⟩
  obtain ⟨now, hclock, rfl⟩ := heff
  have hunfenced : (Cmd.release packet.requestId reservationId).Unfenced := trivial
  have hs := shrinks_release packet.requestId reservationId hclock
  intro w₂ hrely₂ _
  refine leaves_rely ?_ hrely₂
  refine leaves_submit hcall ((holds_unfenced hunfenced).mpr h₁.held) ?_ fun _ => ?_
  · exact release_none fun reservation hres => (h₁.mine reservation hres).1
  · exact h₁.retains.own hunfenced hs.later fun found => hs.gone _ found

theorem activateReserved_wp (h : Reserved sha256 t packet reservationId w) :
    Wp sha256 calls t (activateReserved principal packet reservationId)
      (fun _ w' => Pre calls t (.leave packet.requestId) w')
      (fun _ w' => Pre calls t (.leave packet.requestId) w') w := by
  unfold activateReserved
  simp only [Prog.bind_eq, Prog.act_bind, Prog.ret_bind]
  refine wp_bind (System.wp_attempt (repositoryStep_wp (.inl rfl)
    (fun w₁ hrely₁ _ => (h.rely hrely₁).held) (fun error w₁ hrely₁ _ => ?_)
    (fun w₁ time answer s₁ error w₂ hrely₁ _ _ heff _ hrely₂ _ => ?_)
    fun w₁ time value s₁ w₂ hrely₁ _ htime heff hrely₂ hinv₂ hclean => ?_))
  · exact release_wp hcall (h.rely hrely₁) error
  · exact release_wp hcall (((h.rely hrely₁).repository heff).rely hrely₂) error
  have h₂ := ((h.rely hrely₁).repository heff).rely hrely₂
  have hprepared : ∃ row, w₂.state.rows.get packet.requestId = some row ∧
      (row.state = .PACKET_AVAILABLE_EPHEMERAL ∨ row.expiresAt ≤ w₂.state.clock) := by
    obtain ⟨hperform, rfl⟩ := heff.ok
    obtain ⟨hrow, hstate⟩ := Repository.markPacketAvailable_ok hperform
    obtain ⟨row', hrow', -⟩ := hrely₂.later.rows _ _ hrow
    have hcarries : value.state.carries = true := by rw [hstate]; rfl
    have hheld : Holds t packet.requestId (w₁.act t
        (.repository (.markPacketAvailable principal packet.requestId) time) (.ok value)
        { w₁.state with rows := (RepositoryCall.perform
          (.markPacketAvailable principal packet.requestId) time w₁.state.rows).2 }).log :=
      (hrely₂.holds _).mp h₂.held
    refine ⟨row', hrow', ((hrely₂.fenced _ hheld).prepared value row' hrow hrow' hcarries).imp_left ?_⟩
    exact fun hsame => hsame.trans hstate
  intro w₃ hrely₃ hinv₃
  have h₃ := h₂.rely hrely₃
  refine ⟨⟨h₃.held, ⟨principal, input, hcall⟩, rfl, fun hstop => ?_, ?_⟩, fun active s₃ heff₃ _ => ?_⟩
  · rcases (hrely₃.fenced _ h₂.held).cleared hstop with hold | hnone
    · exact unreserved_rely (hclean _ h₂.held hold) h₂.held hrely₃
    · exact hnone
  · obtain ⟨row, hrow, hstate⟩ := hprepared
    obtain ⟨row', hrow', hkept⟩ := hrely₃.later.rows _ _ hrow
    refine ⟨row', hrow', ?_⟩
    rcases hstate with hstate | hexpired
    · have hcarries : row.state.carries = true := by rw [hstate]; rfl
      refine ((hrely₃.fenced _ h₂.held).prepared row row' hrow hrow' hcarries).imp_left ?_
      exact fun hsame => hsame.trans hstate
    · rw [hkept.expiry]
      exact .inr (Int.le_trans hexpired hrely₃.later.clock)
  have hunfenced : (Cmd.activate packet.requestId reservationId packet).Unfenced := trivial
  obtain ⟨now, hclock, rfl, rfl⟩ := heff₃
  rcases w₃.state.relay.activate_cases sha256 packet packet.requestId now reservationId with
      ⟨reservation, -, -, -, hcase⟩ | ⟨hfailed, hsame, hunreserved⟩
  · rw [hcase]
    have hleaves : Pre calls t (.leave packet.requestId) (w₃.act t
        (.activate packet.requestId reservationId packet) true (w₃.state.relayed
          { w₃.state.relay with
            reservations := w₃.state.relay.reservations.delete packet.requestId
            packets := w₃.state.relay.packets.set packet.requestId
              (EphemeralTransferRelay.activated reservation packet) } now)) :=
      leaves_submit hcall ((holds_unfenced hunfenced).mpr h₃.held) (JsMap.get_delete_self _ _)
        fun hactivated => absurd ⟨_, _, _, _, _, List.mem_cons_self⟩ hactivated
    exact openStep_wp (by trivial) (.inl rfl) (fun error w₄ hrely₄ _ => leaves_rely hleaves hrely₄)
      fun value w₄ _ _ _ hrely₄ _ _ _ => leaves_rely hleaves hrely₄
  · rw [hfailed]
    have hleaves : Pre calls t (.leave packet.requestId) (w₃.act t
        (.activate packet.requestId reservationId packet) false (w₃.state.relayed
          (w₃.state.relay.activate sha256 packet.requestId reservationId packet now).2 now)) := by
      refine leaves_submit hcall ((holds_unfenced hunfenced).mpr h₃.held) (hunreserved h₃.mine) ?_
      intro _
      refine h₃.retains.own hunfenced ⟨hclock, id, fun r row hrow => ⟨row, hrow, .refl row⟩⟩ ?_
      intro found hfound
      rcases hsame with hsame | hsame
      · rw [hsame]
        exact .inl hfound
      · rw [hsame]
        exact .inl hfound
    exact fun w₄ hrely₄ _ => leaves_rely hleaves hrely₄

theorem submitPacket_wp (h : Fenced calls t packet.requestId w) :
    Wp sha256 calls t (submitPacket principal packet)
      (fun _ w' => Pre calls t (.leave packet.requestId) w')
      (fun _ w' => Pre calls t (.leave packet.requestId) w') w := by
  unfold submitPacket
  simp only [Prog.bind_eq, Prog.act_bind]
  refine wp_bind (Reading.wp (.inl rfl) fun now w₁ hrely₁ _ hnow => ?_)
  have h₁ := h.rely hrely₁
  refine wp_bind (openStep_wp (by trivial) (.inr ⟨now, rfl, hnow⟩)
    (fun error w₂ hrely₂ _ => (h₁.rely hrely₂).leaves) fun current w₂ s s' time hrely₂ _ heff hlater => ?_)
  have h₂ := h₁.rely hrely₂
  cases current with
  | none => exact fun w₃ hrely₃ _ => (h₂.rely hrely₃).leaves
  | some current =>
    dsimp only
    split
    · exact fun w₃ hrely₃ _ => (h₂.rely hrely₃).leaves
    rename_i hsource
    have hrow : ∃ row, w₂.state.rows.get packet.requestId = some row ∧
        OfRow row current.accountId principal.deviceId current.expiresAt := by
      obtain ⟨hperform, rfl⟩ := heff.ok
      obtain ⟨row, hrow, hkept⟩ := hlater.rows _ _ (Repository.read_ok hperform)
      exact ⟨row, hrow, hkept.account, hkept.source _ (not_not.mp hsource), hkept.expiry⟩
    intro w₃ hrely₃ hinv₃
    have h₃ := h₂.rely hrely₃
    have hnow₃ : now ≤ w₃.state.clock :=
      Int.le_trans hnow (Int.le_trans hrely₂.later.clock hrely₃.later.clock)
    refine ⟨⟨h₃.held, hnow₃, ?_⟩, fun answer s₃ heff₃ _ => ?_⟩
    · obtain ⟨row, hget, haccount, hdevice, hexpiry⟩ := hrow
      obtain ⟨row', hget', hkept⟩ := hrely₃.later.rows _ _ hget
      exact ⟨row', hget', hkept.account.trans haccount, hkept.source _ hdevice,
        hkept.expiry.trans hexpiry⟩
    obtain ⟨rfl, rfl⟩ := heff₃
    have hunfenced : (Cmd.reserve packet current.accountId principal.deviceId
      current.expiresAt now).Unfenced := trivial
    have hprune := shrinks_prune hinv₃.2.1 (Int.le_refl _) hnow₃
    rcases w₃.state.relay.reserve_cases sha256 packet current.accountId principal.deviceId
      current.expiresAt now with ⟨error, hcase⟩ | ⟨error, hcase⟩ |
        ⟨reservation, hcase, hreserves, -⟩
    · rw [hcase]
      intro w₄ hrely₄ _
      exact (h₃.rely (Rely.trans (rely_own (by trivial) (.refl _)) hrely₄)).leaves
    · rw [hcase]
      intro w₄ hrely₄ _
      exact (h₃.rely (Rely.trans (rely_own (by trivial) hprune) hrely₄)).leaves
    · rw [hcase]
      have hlater := hprune.later
      refine activateReserved_wp hcall ⟨(holds_unfenced hunfenced).mpr h₃.held,
        h₃.retains.own hunfenced ⟨hlater.clock, hlater.stopped, hlater.rows⟩
          (hprune.gone packet.requestId), fun found hfound => ?_⟩
      simp only [World.act_state, JsMap.get_set_self, Option.some.injEq] at hfound
      subst hfound
      exact ⟨rfl, hreserves.matching⟩

theorem submit_wp :
    Wp sha256 calls t (submit principal input) (fun _ _ => True) (fun _ _ => True) w := by
  unfold submit
  split
  · exact fun _ _ _ => trivial
  split
  · exact fun _ _ _ => trivial
  · refine forRequest_wp (fun _ _ => True) (fun _ _ _ _ h => h)
      (fun w₂ _ hfenced => ?_) (fun _ _ _ _ => trivial) fun _ _ _ => trivial
    exact System.wp_mono (submitPacket_wp hcall hfenced) (fun _ _ _ h => ⟨h, trivial⟩)
      fun _ _ _ h => h

end

/-! `receive`. -/

/-- A get that answers finds the packet in the relay. -/
theorem get_some {relay : EphemeralTransferRelay} {now : Date} {packet : RelayPacket}
    (h : (relay.get r now).1 = some packet) : (relay.get r now).2.packets.get r = some packet := by
  unfold EphemeralTransferRelay.get at h ⊢
  dsimp only at h ⊢
  split at h
  · cases h
  · exact h

/-- What a receive knows of the packet in its hands. -/
structure InHand (calls : T → ServiceCall) (t : T) (r : String) (packet : RelayPacket)
    (w : TransferWorld T) : Prop where
  held : Holds t r w.log
  unreserved : w.state.relay.reservations.get r = none
  only : ∀ resident, w.state.relay.packets.get r = some resident → resident = packet

theorem InHand.rely {packet : RelayPacket} (h : InHand calls t r packet w) (hrely : Rely t w w') :
    InHand calls t r packet w' where
  held := (hrely.holds r).mpr h.held
  unreserved := unreserved_rely h.unreserved h.held hrely
  only resident hresident := h.only resident ((hrely.fenced r h.held).packets resident hresident)

section

variable (hcall : calls t = .receive principal r)
include hcall

/-- A receive may give the fence back when every resident packet is accounted for. -/
theorem leaves_receive (hheld : Holds t r w.log)
    (hunreserved : w.state.relay.reservations.get r = none)
    (haccounted : Accounted calls w.log w.state r) : Pre calls t (.leave r) w := by
  refine ⟨hheld, hunreserved, fun _ _ => haccounted, fun other input hother => ?_⟩
  rw [hcall] at hother
  cases hother

/-- The delivery that fails leaves its packet accounted for. -/
theorem accounted_lost (haccounted : Accounted calls w.log w.state r) {error : Failure}
    (heff : Queried (.markDelivered principal r) time w.state (.error error) s') :
    Accounted calls (w.act t (.repository (.markDelivered principal r) time) (.error error) s').log
      s' r := by
  intro packet row' hpacket hrow' hstate
  have hsame := heff.relay.1
  rcases heff.rows with rfl | rfl
  · exact (haccounted packet row' hpacket hrow' hstate).mono (List.suffix_cons _ _)
  cases hperform : ((RepositoryCall.markDelivered principal r).perform time w.state.rows).1 with
  | ok row =>
    obtain ⟨hrow, -⟩ := Repository.recipientTransition_ok hperform
    exact ⟨_, List.mem_cons_self, .inr ⟨t, principal, time, error, _, _, packet, row, hcall, rfl,
      hperform, hrow, hpacket, rfl⟩⟩
  | error failure =>
    rcases heff.row_back hrow' with hrequested | ⟨row, hrow, -⟩
    · rw [hrequested] at hstate
      cases hstate
    obtain ⟨found, hfound, hkept⟩ := Repository.recipientTransition_error hperform hrow
    have hsome : some found = some row' := hfound.symm.trans hrow'
    cases hsome
    rcases hkept with hold | hexpired
    · exact (haccounted packet row hpacket hrow (hold ▸ hstate)).mono (List.suffix_cons _ _)
    · rw [hexpired] at hstate
      cases hstate

theorem deliver_wp (request : TransferRequestV1) (h : Fenced calls t r w) :
    Wp sha256 calls t (deliver principal r request)
      (fun p w' => Pre calls t (.leave r) w' ∧ p.requestId = r ∧
        ∃ event ∈ w'.log, Pins calls t event r p)
      (fun _ w' => Pre calls t (.leave r) w') w := by
  unfold deliver
  simp only [Prog.bind_eq, Prog.act_bind, Prog.ret_bind]
  refine calm_act trivial fun w₁ answer s₁ hrely₁ _ heff₁ hrely₁' hinv₁ => ?_
  have h₁ := h.rely hrely₁'
  cases answer with
  | none => exact fun w₂ hrely₂ _ => (h₁.rely hrely₂).leaves
  | some packet =>
    dsimp only
    split
    · exact fun w₂ hrely₂ _ => (h₁.rely hrely₂).leaves
    have hresident : (w₁.act t (.get r) (some packet) s₁).state.relay.packets.get r = some packet := by
      obtain ⟨now, -, hanswer, rfl⟩ := heff₁
      exact get_some hanswer.symm
    have hrequest : packet.requestId = r := (hinv₁.2.1.resident r packet hresident).1
    have hhand : InHand calls t r packet (w₁.act t (.get r) (some packet) s₁) := by
      refine ⟨h₁.held, h₁.unreserved, fun resident hsome => ?_⟩
      rw [hresident] at hsome
      cases hsome
      rfl
    refine wp_bind (repositoryStep_wp (.inl rfl)
      (fun w₂ hrely₂ _ => ⟨(h₁.rely hrely₂).held, hcall⟩)
      (fun error w₂ hrely₂ _ => (h₁.rely hrely₂).leaves)
      (fun w₂ time answer s₂ error w₃ hrely₂ _ _ heff hfailed hrely₃ hinv₃ => ?_)
      fun w₂ time value s₂ w₃ hrely₂ _ _ heff hrely₃ hinv₃ _ => ?_)
    · obtain ⟨hheld, hunreserved⟩ := unreserved_repository (h₁.rely hrely₂).held
        (h₁.rely hrely₂).unreserved heff hrely₃
      refine leaves_receive hcall hheld hunreserved ?_
      rcases hfailed with ⟨reason, rfl⟩ | hstopped
      · exact (accounted_lost hcall (h₁.rely hrely₂).accounted heff).rely ((hrely₃.holds r).mp hheld)
          hrely₃
      · intro found row hfound
        rw [hinv₃.2.1.stopped hstopped r] at hfound
        cases hfound
    have hunfenced : (Cmd.repository (.markDelivered principal r) time).Unfenced := trivial
    have hhand₂ : InHand calls t r packet (w₂.act t (.repository (.markDelivered principal r) time)
        (.ok value) s₂) := by
      have hold := hhand.rely hrely₂
      refine ⟨(holds_unfenced hunfenced).mpr hold.held, ?_, fun resident hsome => ?_⟩
      · rw [World.act_state, heff.relay.1]
        exact hold.unreserved
      · rw [World.act_state, heff.relay.1] at hsome
        exact hold.only resident hsome
    have hdelivered : ∃ row, (w₂.act t (.repository (.markDelivered principal r) time) (.ok value)
        s₂).state.rows.get r = some row ∧ row.state = .DELIVERED_TO_RECIPIENT := by
      obtain ⟨hperform, rfl⟩ := heff.ok
      obtain ⟨hrow, hstate⟩ := Repository.recipientTransition_ok hperform
      exact ⟨value, hrow, hstate⟩
    intro w₄ hrely₄ hinv₄
    have hlast := hrely₃.trans hrely₄
    have hhand₄ := hhand₂.rely hlast
    refine ⟨⟨hhand₄.held, ⟨principal, hcall⟩, ?_⟩, fun pinned s₄ heff₄ _ => ?_⟩
    · obtain ⟨row, hrow, hstate⟩ := hdelivered
      obtain ⟨row', hrow', -⟩ := hlast.later.rows _ _ hrow
      have hcarries : row.state.carries = true := by rw [hstate]; rfl
      refine ⟨row', hrow', ((hlast.fenced r hhand₂.held).prepared row row' hrow hrow' hcarries).imp_left ?_⟩
      exact fun hsame => hsame.trans hstate
    have hquiet : (Cmd.pinDelivered r packet.packetId).Unfenced := trivial
    obtain ⟨now, hclock, rfl, rfl⟩ := heff₄
    have hprune := shrinks_prune hinv₄.2.1 hclock (Int.le_refl now)
    rcases w₄.state.relay.pinDelivered_cases r now packet.packetId with ⟨resident, hfound, -, hnone, hcase⟩ | ⟨hcase, hmissing⟩
    · rw [hcase]
      obtain rfl : resident = packet := hhand₄.only resident (hprune.packets r resident hfound)
      have hevent : Pins calls t (.act t (.pinDelivered r resident.packetId) true w₄.state
          (w₄.state.relayed ((w₄.state.relay.prune now).pinned r resident) now)) r
          resident.toTransferPacketV1 :=
        ⟨principal, _, _, _, hcall, rfl, JsMap.get_set_self _ _ _, rfl⟩
      have hend : Pre calls t (.leave r) (w₄.act t (.pinDelivered r resident.packetId) true
          (w₄.state.relayed ((w₄.state.relay.prune now).pinned r resident) now)) := by
        refine leaves_receive hcall ((holds_unfenced hquiet).mpr hhand₄.held) hnone ?_
        intro found row hpinned _ _
        simp only [World.act_state, TransferProcess.relayed, EphemeralTransferRelay.pinned,
          JsMap.get_set_self, Option.some.injEq] at hpinned
        subst hpinned
        exact ⟨_, List.mem_cons_self, .inl ⟨t, hevent⟩⟩
      exact fun w₅ hrely₅ _ => ⟨leaves_rely hend hrely₅, hrequest, _,
        hrely₅.log.subset List.mem_cons_self, hevent⟩
    · rw [hcase]
      have hend : Pre calls t (.leave r) (w₄.act t (.pinDelivered r packet.packetId) false
          (w₄.state.relayed (w₄.state.relay.prune now) now)) := by
        have hunreserved : (w₄.state.relay.prune now).reservations.get r = none := by
          have hself := hhand₄.unreserved
          simp [EphemeralTransferRelay.prune, hself]
        refine leaves_receive hcall ((holds_unfenced hquiet).mpr hhand₄.held) hunreserved ?_
        intro found row hfound
        have hsame := hhand₄.only found (hprune.packets r found hfound)
        exact absurd hunreserved (hmissing found hfound (by rw [hsame]))
      exact fun w₅ hrely₅ _ => leaves_rely hend hrely₅

theorem receive_wp :
    Wp sha256 calls t (receive principal r)
      (fun p w' => p.requestId = r ∧ ∃ event ∈ w'.log, Pins calls t event r p)
      (fun _ _ => True) w := by
  unfold receive
  simp only [Prog.bind_eq]
  refine wp_bind (openStep_wp (by trivial) (.inl rfl) (fun _ _ _ _ => trivial)
    fun request w₁ _ _ _ _ _ _ _ => ?_)
  cases request with
  | none => exact fun _ _ _ => trivial
  | some request =>
    refine forRequest_wp
      (fun p log => p.requestId = r ∧ ∃ event ∈ log, Pins calls t event r p)
      (fun p log log' hlog h => ?_) (fun w₂ _ hfenced => deliver_wp hcall request hfenced)
      (fun p w₂ _ h => h) fun _ _ _ => trivial
    obtain ⟨hid, event, hmem, hpins⟩ := h
    exact ⟨hid, event, hlog.subset hmem, hpins⟩

end

/-! `acknowledge` and `cancel`. -/

/-- A terminal transition that answers leaves a row that the relay may forget. -/
theorem terminal_later {states : List TransferState} {state : TransferState}
    {value : TransferRequestV1} {s : TransferProcess} (hterminal : state.terminal = true)
    (hok : (Repository.recipientTransition principal time s.rows r states state).1 = .ok value)
    (hlater : Later { s with rows :=
      (Repository.recipientTransition principal time s.rows r states state).2 } s') :
    ∃ row, s'.rows.get r = some row ∧ row.state.terminal = true := by
  obtain ⟨hrow, hstate⟩ := Repository.recipientTransition_ok hok
  obtain ⟨row', hrow', hkept⟩ := hlater.rows _ _ hrow
  refine ⟨row', hrow', ?_⟩
  rw [hkept.terminal (by rw [hstate, hterminal]), hstate, hterminal]

theorem complete_wp {ack : TransferAckV1} (hcall : calls t = .acknowledge principal ack)
    (h : Fenced calls t ack.requestId w) :
    Wp sha256 calls t (complete principal ack) (fun _ w' => Pre calls t (.leave ack.requestId) w')
      (fun _ w' => Pre calls t (.leave ack.requestId) w') w := by
  unfold complete
  simp only [Prog.bind_eq, Prog.act_bind, Prog.ret_bind]
  refine calm_act trivial fun w₁ answer s₁ hrely₁ _ heff₁ hrely₁' _ => ?_
  have h₁ := h.rely hrely₁'
  split
  · exact fun w₂ hrely₂ _ => (h₁.rely hrely₂).leaves
  rename_i hfound
  have hplain (w₃ : TransferWorld T) (hheld : Holds t ack.requestId w₃.log)
      (hunreserved : w₃.state.relay.reservations.get ack.requestId = none) :
      Pre calls t (.leave ack.requestId) w₃ :=
    leaves_plain hheld hunreserved (fun other h => by rw [hcall] at h; cases h)
      fun other input h => by rw [hcall] at h; cases h
  have hnamed : ∃ packet, (w₁.act t (.get ack.requestId) answer s₁).state.relay.packets.get
      ack.requestId = some packet ∧ packet.packetId = ack.packetId := by
    cases answer with
    | none => simp at hfound
    | some packet =>
      obtain ⟨now, -, hanswer, rfl⟩ := heff₁
      exact ⟨packet, get_some hanswer.symm, by simpa using hfound⟩
  obtain ⟨packet, hresident, hid⟩ := hnamed
  refine wp_bind (repositoryStep_wp (.inl rfl)
    (fun w₂ hrely₂ _ => ⟨(h₁.rely hrely₂).held, hcall, packet.toTransferPacketV1, hid, ?_⟩)
    (fun error w₂ hrely₂ _ => (h₁.rely hrely₂).leaves)
    (fun w₂ time answer s₂ error w₃ hrely₂ _ _ heff _ hrely₃ _ => ?_)
    fun w₂ time value s₂ w₃ hrely₂ _ _ heff hrely₃ hinv₃ _ => ?_)
  · intro row' hrow' hstate'
    obtain ⟨row, hrow, hstate⟩ := (hrely₂.fenced _ h₁.held).delivered row' hrow' hstate'
    exact (h₁.accounted packet row hresident hrow hstate).mono hrely₂.log
  · obtain ⟨hheld, hunreserved⟩ := unreserved_repository (h₁.rely hrely₂).held
      (h₁.rely hrely₂).unreserved heff hrely₃
    exact hplain w₃ hheld hunreserved
  obtain ⟨hheld, -⟩ := unreserved_repository (h₁.rely hrely₂).held
    (h₁.rely hrely₂).unreserved heff hrely₃
  intro w₄ hrely₄ _
  have hheld₄ : Holds t ack.requestId w₄.log := (hrely₄.holds _).mpr hheld
  refine ⟨?_, fun _ s₄ heff₄ _ => ?_⟩
  · obtain ⟨hperform, rfl⟩ := heff.ok
    exact terminal_later rfl hperform (hrely₃.later.trans hrely₄.later)
  · obtain ⟨now, hclock, rfl⟩ := heff₄
    have hunfenced : (Cmd.delete ack.requestId).Unfenced := trivial
    intro w₅ hrely₅ _
    refine leaves_rely ?_ hrely₅
    exact hplain _ ((holds_unfenced hunfenced).mpr hheld₄) (JsMap.get_delete_self _ _)

theorem acknowledge_wp {ack : TransferAckV1} (hcall : calls t = .acknowledge principal ack) :
    Wp sha256 calls t (acknowledge principal ack) (fun _ _ => True) (fun _ _ => True) w := by
  unfold acknowledge
  simp only [Prog.bind_eq]
  refine wp_bind (openStep_wp (by trivial) (.inl rfl) (fun _ _ _ _ => trivial)
    fun request w₁ _ _ _ _ _ _ _ => ?_)
  split
  · exact fun _ _ _ => trivial
  · refine forRequest_wp (fun _ _ => True) (fun _ _ _ _ h => h)
      (fun w₂ _ hfenced => ?_) (fun _ _ _ _ => trivial) fun _ _ _ => trivial
    exact System.wp_mono (complete_wp hcall hfenced) (fun _ _ _ h => ⟨h, trivial⟩)
      fun _ _ _ h => h

theorem cancel_wp (principal : ExtensionPrincipal) :
    Wp sha256 calls t (cancel principal r) (fun _ _ => True) (fun _ _ => True) w := by
  unfold cancel
  simp only [Prog.bind_eq]
  refine wp_bind (openStep_wp (by trivial) (.inl rfl) (fun _ _ _ _ => trivial)
    fun value w₁ s s' time _ _ heff hlater => ?_)
  intro w₂ hrely₂ _
  refine ⟨?_, fun _ _ _ _ _ _ _ => trivial⟩
  obtain ⟨hperform, rfl⟩ := heff.ok
  exact terminal_later rfl hperform (hlater.trans hrely₂.later)

theorem expireDue_wp :
    Wp sha256 calls t expireDue (fun _ _ => True) (fun _ _ => True) w := by
  unfold expireDue
  simp only [Prog.bind_eq]
  refine wp_bind (assertRunning_wp (fun w₁ _ _ _ => ?_) fun _ _ _ _ _ => trivial)
  refine wp_bind (Reading.wp (.inl rfl) fun now w₂ _ _ hnow => ?_)
  intro w₃ hrely₃ hinv₃
  have hnow₃ : now ≤ w₃.state.clock := Int.le_trans hnow hrely₃.later.clock
  refine ⟨hnow₃, fun _ s₃ heff₃ _ => ?_⟩
  obtain rfl := heff₃
  exact openStep_wp (by trivial) (.inr ⟨now, rfl, hnow₃⟩) (fun _ _ _ _ => trivial)
    fun _ _ _ _ _ _ _ _ _ => trivial

/-! The outline holds of every interleaving of the calls. -/

/-- A call that returns no packet meets its postcondition. -/
theorem answers_wp {α : Type} {p : Program α} {answer : α → TransferAnswer}
    (hp : Wp sha256 calls t p (fun _ _ => True) (fun _ _ => True) w)
    (hanswer : ∀ value packet, answer value ≠ .packet packet) :
    Wp sha256 calls t (p.bind fun value => .ret (answer value)) ((outline calls).post t)
      (fun _ _ => True) w :=
  wp_bind (System.wp_mono hp (fun value _ _ _ _ _ _ packet heq => absurd heq (hanswer value packet))
    fun _ _ _ _ => trivial)

theorem openCall_wp (hopen : call.Open) :
    Wp sha256 calls t (repositoryStep clockNow call) (fun _ _ => True) (fun _ _ => True) w :=
  openStep_wp hopen (.inl rfl) (fun _ _ _ _ => trivial) fun _ _ _ _ _ _ _ _ _ => trivial

theorem create_wp (principal : ExtensionPrincipal) (request : TransferCreateRequestV1) :
    Wp sha256 calls t (create principal request) (fun _ _ => True) (fun _ _ => True) w := by
  unfold create
  split
  · exact fun _ _ _ => trivial
  · exact openCall_wp trivial

theorem program_wp : Wp sha256 calls t (calls t).program ((outline calls).post t)
    (fun _ _ => True) w := by
  cases hcall : calls t with
  | create principal request =>
    exact answers_wp (create_wp principal request) fun _ _ h => by cases h
  | read principal requestId =>
    exact answers_wp (openCall_wp (by trivial)) fun _ _ h => by cases h
  | listForSource principal =>
    exact answers_wp (openCall_wp (by trivial)) fun _ _ h => by cases h
  | sourceSeen principal requestId =>
    exact answers_wp (sourceSeen_wp hcall) fun _ _ h => by cases h
  | submit principal input => exact answers_wp (submit_wp hcall) fun _ _ h => by cases h
  | receive principal requestId =>
    refine wp_bind (System.wp_mono (receive_wp hcall) (fun p w₁ _ h => ?_) fun _ _ _ _ => trivial)
    intro w₂ hrely₂ _ p' heq
    cases heq
    obtain ⟨hid, event, hmem, hpins⟩ := h
    exact ⟨requestId, hid, event, hrely₂.log.subset hmem, hpins⟩
  | acknowledge principal ack => exact answers_wp (acknowledge_wp hcall) fun _ _ h => by cases h
  | cancel principal requestId => exact answers_wp (cancel_wp principal) fun _ _ h => by cases h
  | expireDue => exact answers_wp expireDue_wp fun _ _ h => by cases h
  | stop =>
    refine calm_act trivial fun w₁ _ s₁ _ _ _ _ _ => ?_
    exact fun w₂ _ _ packet heq => by cases heq

theorem relayInv_start (rows : Rows) (limits : EphemeralTransferRelayOptions) (clock : Date) :
    RelayInv calls [] { rows, clock, relay := { limits } } where
  stopped h := by cases h
  resident _ _ h := by cases h
  reserved _ _ h := by cases h
  delivered _ h := by cases h
  accounted _ := .inl fun _ _ h => by cases h

theorem outline_sound (sha256 : JsString → String) (calls : T → ServiceCall) (rows : Rows)
    (limits : EphemeralTransferRelayOptions) (clock : Date) :
    System.Sound (transferService sha256 calls) (outline calls)
      { rows, clock, relay := { limits } } where
  rely_refl t w := Rely.refl t w
  rely_trans _ _ _ _ h h' := Rely.trans h h'
  start :=
    ⟨⟨fun _ _ h => h.elim, fun _ _ _ h => h.elim⟩, relayInv_start rows limits clock, trivial⟩
  act _ _ _ _ _ hinv hpre heff := step_act hinv hpre heff
  env _ _ hinv henv := step_env hinv henv
  finish t outcome _ hinv hpost := by
    obtain ⟨hinv', hrely⟩ := step_finish hinv t outcome hpost
    exact ⟨hinv', hrely⟩
  prelude t w _ := by
    refine System.wp_bind (fun t w => Rely.refl t w) (System.wp_mono program_wp
      (fun answer w₁ _ hpost => ?_) fun _ _ _ h => h)
    intro w₂ hrely₂ _ p heq
    obtain ⟨r, hid, event, hmem, hpins⟩ := hpost p heq
    exact ⟨r, hid, event, hrely₂.log.subset hmem, hpins⟩
  body _ _ _ := fun _ _ _ => trivial

end SellerAgents.CredentialTransfer
