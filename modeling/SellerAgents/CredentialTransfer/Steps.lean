import SellerAgents.CredentialTransfer.Moves

open Concurrent

namespace SellerAgents.CredentialTransfer

open Js
open Subscriptions (Date)

variable {T : Type} {calls : T → ServiceCall} {t : T} {w : TransferWorld T} {s' : TransferProcess}

/-- What a command has to keep: the invariant, and what the other threads rely on. -/
def StepOk (calls : T → ServiceCall) (t : T) (command : Cmd) (answer : command.Answer)
    (w : TransferWorld T) (s' : TransferProcess) : Prop :=
  (outline calls).inv (w.act t command answer s') ∧
    ∀ other, other ≠ t → Rely other w (w.act t command answer s')

/-- A command that only takes entries out. -/
theorem step_shrinks (hinv : (outline calls).inv w) {command : Cmd} {answer : command.Answer}
    (hunfenced : command.Unfenced) (hs : Shrinks w.state s')
    (hsame : s'.inFlightRequests = w.state.inFlightRequests)
    (hevent : ∀ r p, ¬ Delivers calls (.act t command answer w.state s') r p) :
    StepOk calls t command answer w s' := by
  obtain ⟨hfence, hrelay, hlaws⟩ := hinv
  refine ⟨⟨hfence.unfenced hunfenced hsame, hrelay.shrinks_act hs hunfenced hevent,
    eventLaws_quiet hunfenced hs.rows hevent, hlaws⟩, fun other hother => ?_⟩
  exact rely_act hother hs.later fun r _ => hs.fenceKept r

theorem assertRunning_inFlight (s : TransferProcess) (isAvailable : Bool) :
    (s.assertRunning isAvailable).2.inFlightRequests = s.inFlightRequests := by
  unfold TransferProcess.assertRunning
  split <;> rfl

theorem checkAvailable_inFlight (s : TransferProcess) (isAvailable : Bool) :
    (s.checkAvailable isAvailable).inFlightRequests = s.inFlightRequests := by
  unfold TransferProcess.checkAvailable
  split <;> rfl

/-- A command other than a pin does not deliver. -/
theorem not_delivers (calls : T → ServiceCall) (t : T) (command : Cmd) (answer : command.Answer)
    (pre post : TransferProcess) (h : ∀ r packetId, command ≠ .pinDelivered r packetId) (r : String) (p : TransferPacketV1) :
    ¬ Delivers calls (.act t command answer pre post) r p :=
  fun hdelivers => h r p.packetId hdelivers.pin.1

/-- How a fence is taken. -/
theorem enter_cases (s : TransferProcess) (r : String) (isAvailable : Bool) :
    (∃ error, s.enter r isAvailable = (.error error, s) ∨ s.enter r isAvailable = (.error error, s.stop)) ∨
    (s.stopped = false ∧ r ∉ s.inFlightRequests ∧
      s.enter r isAvailable = (.ok (), { s with inFlightRequests := r :: s.inFlightRequests })) := by
  unfold TransferProcess.enter TransferProcess.assertRunning
  by_cases hstop : (s.stopped || !isAvailable) = true
  · rw [if_pos hstop]
    exact .inl ⟨_, .inr rfl⟩
  rw [if_neg hstop]
  dsimp only
  by_cases hheld : r ∈ s.inFlightRequests
  · rw [if_pos hheld]
    exact .inl ⟨_, .inl rfl⟩
  · rw [if_neg hheld]
    simp only [Bool.or_eq_true, not_or, Bool.not_eq_true] at hstop
    exact .inr ⟨hstop.1, hheld, rfl⟩

theorem step_enter {r : String} {answer : Except Failure Unit} (hinv : (outline calls).inv w)
    (heff : ∃ isAvailable, (answer, s') = w.state.enter r isAvailable) :
    StepOk calls t (.enter r) answer w s' := by
  obtain ⟨isAvailable, heq⟩ := heff
  obtain ⟨hfence, hrelay, hlaws⟩ := hinv
  have hs : Shrinks w.state s' := by
    have hshrinks := shrinks_enter w.state r isAvailable
    rwa [← heq] at hshrinks
  have hevent := not_delivers calls t (.enter r) answer w.state s' fun _ _ h => by cases h
  have hmono {holder : T} {other : String} (hheld : Holds holder other w.log) :
      Holds holder other (w.act t (.enter r) answer s').log := by
    cases answer with
    | ok value => exact .inr hheld
    | error error => exact hheld
  have hfence' : FenceInv (w.act t (.enter r) answer s').log s' := by
    rcases enter_cases w.state r isAvailable with ⟨error, hfailed⟩ | ⟨hrunning, hfree, hentered⟩
    · have hsame : answer = .error error ∧ s'.inFlightRequests = w.state.inFlightRequests := by
        rcases hfailed with hfailed | hfailed
        all_goals
          rw [hfailed] at heq
          cases heq
          exact ⟨rfl, rfl⟩
      obtain ⟨rfl, hsame⟩ := hsame
      exact ⟨fun holder other hheld => hsame ▸ hfence.held holder other hheld, hfence.exclusive⟩
    · rw [hentered] at heq
      cases heq
      have hnobody (holder : T) : ¬ Holds holder r w.log := fun hheld =>
        hfree (hfence.held holder r hheld)
      refine ⟨fun holder other hheld => ?_, fun holder holder' other hheld hheld' => ?_⟩
      · rcases hheld with ⟨-, rfl⟩ | hheld
        · exact List.mem_cons_self
        · exact List.mem_cons_of_mem _ (hfence.held holder other hheld)
      · rcases hheld with ⟨rfl, rfl⟩ | hheld
        · rcases hheld' with ⟨rfl, -⟩ | hheld'
          · rfl
          · exact absurd hheld' (hnobody holder')
        · rcases hheld' with ⟨-, rfl⟩ | hheld'
          · exact absurd hheld (hnobody holder)
          · exact hfence.exclusive holder holder' other hheld hheld'
  refine ⟨⟨hfence', hrelay.shrinks hs (List.suffix_cons _ _) (delivers_of_cons hevent) (fun other _ _ hheld => ?_) (fun other hheld => .inr ?_),
    ⟨?_, hlaws⟩⟩, fun other hother => rely_act hother hs.later fun r _ => hs.fenceKept r⟩
  · obtain ⟨holder, hheld⟩ := hheld
    exact ⟨holder, hmono hheld⟩
  · obtain ⟨holder, principal, hheld, hcall⟩ := hheld
    exact ⟨holder, principal, hmono hheld, hcall⟩
  · refine ⟨fun other p hdelivers => absurd hdelivers (hevent other p),
      fun other p _ hdelivers => absurd hdelivers (hevent other p), fun other hcompletes => ?_, ?_,
      trivial⟩
    · obtain ⟨hnew, hold⟩ := hcompletes
      rw [hs.rows] at hnew
      exact absurd hnew hold
    · rcases enter_cases w.state r isAvailable with ⟨error, hfailed | hfailed⟩ | ⟨-, -, hentered⟩
      · rw [hfailed] at heq
        cases heq
        exact .inl rfl
      · rw [hfailed] at heq
        cases heq
        exact .inr rfl
      · rw [hentered] at heq
        cases heq
        trivial

/-- A packet that is kept, of a request that is not over, can be received. -/
theorem receivable_of_resident {log : List (TransferEvent T)} {s : TransferProcess} {r : String}
    {packet : RelayPacket} (h : RelayInv calls log s) (hopen : ¬ Closed s r)
    (hresident : s.relay.packets.get r = some packet)
    (hnone : s.relay.reservations.get r = none) : Receivable (s.leave r) r packet := by
  obtain ⟨-, row, hrow, hof, hcarries⟩ := h.resident r packet hresident
  have hrunning : s.stopped = false := by
    cases hstopped : s.stopped with
    | false => rfl
    | true => exact absurd (.inl hstopped) hopen
  have hlive : ¬ (row.state.terminal = true ∨ row.expiresAt ≤ s.clock) :=
    fun hend => hopen (.inr ⟨row, hrow, hend⟩)
  rw [not_or, Int.not_le] at hlive
  refine ⟨hrunning, ?_, hresident, hnone, row, hrow, hlive.2, hof, ?_⟩
  · simp [TransferProcess.leave]
  · cases hstate : row.state <;> simp_all [TransferState.terminal, TransferState.carries]

theorem step_leave {r : String} (hinv : (outline calls).inv w) (hpre : Pre calls t (.leave r) w) :
    StepOk calls t (.leave r) () w (w.state.leave r) := by
  obtain ⟨hfence, hrelay, hlaws⟩ := hinv
  obtain ⟨hheld, hnone, haccounted, hretains⟩ := hpre
  have hs := shrinks_leave w.state r
  have hevent := not_delivers calls t (.leave r) () w.state (w.state.leave r) fun _ _ h => by cases h
  refine ⟨⟨⟨fun holder other hholds => ?_, fun holder holder' other hholds hholds' =>
      hfence.exclusive holder holder' other hholds.2 hholds'.2⟩,
    hrelay.shrinks hs (List.suffix_cons _ _) (delivers_of_cons hevent) (fun other reservation hres hholder => ?_) (fun other hholder => ?_),
    ⟨fun other p hdelivers => absurd hdelivers (hevent other p),
      fun other p _ hdelivers => absurd hdelivers (hevent other p),
      fun other hcompletes => absurd hcompletes.1 hcompletes.2, ?_, trivial⟩, hlaws⟩,
    fun other hother => rely_act hother hs.later fun r _ => hs.fenceKept r⟩
  · refine List.mem_filter.mpr ⟨hfence.held holder other hholds.2, decide_eq_true ?_⟩
    rintro rfl
    exact hholds.1 ⟨(hfence.exclusive holder t other hholds.2 hheld).symm, rfl⟩
  · obtain ⟨holder, hholds⟩ := hholder
    refine ⟨holder, ?_, hholds⟩
    rintro ⟨-, rfl⟩
    have hsome : w.state.relay.reservations.get r = some reservation := hres
    rw [hnone] at hsome
    cases hsome
  · obtain ⟨holder, principal, hholds, hcall⟩ := hholder
    by_cases hsame : t = holder ∧ r = other
    · obtain ⟨rfl, rfl⟩ := hsame
      refine .inl fun packet row hpacket hrow hstate => ?_
      exact (haccounted principal hcall packet row hpacket hrow hstate).mono (List.suffix_cons _ _)
    · exact .inr ⟨holder, principal, ⟨hsame, hholds⟩, hcall⟩
  · intro principal input hcall hactivated packet hfound
    by_cases hclosed : Closed w.state r
    · exact .inl (hclosed.later hs.later)
    · rcases hretains principal input hcall hactivated packet hfound with
        hclosed' | hresident
      · exact absurd hclosed' hclosed
      · exact .inr (receivable_of_resident hrelay hclosed hresident hnone)

/-! Calls of the repository. -/

section Repository

variable {call : RepositoryCall} {now : Date} {answer : Except Failure call.Answer}

/-- What a call of the repository leaves, whatever it answers. -/
theorem Queried.rows {s s' : TransferProcess} (h : Queried call now s answer s') :
    s' = s ∨ s' = { s with rows := (call.perform now s.rows).2 } := by
  rcases h with ⟨-, hrows⟩ | ⟨-, hsame⟩
  · exact .inr hrows
  · exact .inl hsame

/-- A row before and after a call. -/
theorem Queried.row {s s' : TransferProcess} (h : Queried call now s answer s') {r : String}
    {row : TransferRequestV1} (hrow : s.rows.get r = some row) :
    ∃ row', s'.rows.get r = some row' ∧ RowMoved now (fun a b => call.Moves r a b) row row' := by
  rcases h.rows with rfl | rfl
  · exact ⟨row, hrow, .refl _ _ row⟩
  · exact call.perform_row hrow

/-- A row after a call was there before, or is requested. -/
theorem Queried.row_back {s s' : TransferProcess} (h : Queried call now s answer s') {r : String}
    {row' : TransferRequestV1} (hrow' : s'.rows.get r = some row') :
    row'.state = .REQUESTED ∨
      ∃ row, s.rows.get r = some row ∧ RowMoved now (fun a b => call.Moves r a b) row row' := by
  cases hrow : s.rows.get r with
  | some row =>
    obtain ⟨found, hfound, hmoved⟩ := h.row hrow
    rw [hrow'] at hfound
    cases hfound
    exact .inr ⟨row, rfl, hmoved⟩
  | none =>
    rcases h.rows with rfl | rfl
    · rw [hrow] at hrow'
      cases hrow'
    · exact .inl (call.perform_none hrow hrow')

theorem Queried.later {s s' : TransferProcess} (h : Queried call now s answer s') : Later s s' where
  clock := by
    rcases h.rows with rfl | rfl
    · exact Int.le_refl _
    · exact Int.le_refl _
  stopped hstopped := by
    rcases h.rows with rfl | rfl
    · exact hstopped
    · exact hstopped
  rows r row hrow := by
    obtain ⟨row', hrow', hmoved⟩ := h.row hrow
    exact ⟨row', hrow', hmoved.kept⟩

theorem Queried.relay {s s' : TransferProcess} (h : Queried call now s answer s') :
    s'.relay = s.relay ∧ s'.stopped = s.stopped ∧ s'.inFlightRequests = s.inFlightRequests ∧
      s'.clock = s.clock := by
  rcases h.rows with rfl | rfl
  · exact ⟨rfl, rfl, rfl, rfl⟩
  · exact ⟨rfl, rfl, rfl, rfl⟩

/-- A call that moves a row to a state that carries no packet moves it from such a state, or the
thread holds the fence and nothing is resident. -/
theorem CallPre.carries (hpre : CallPre calls t w call) {r : String} {a b : TransferState}
    (hmove : call.Moves r a b) (ha : a.carries = true) :
    b.carries = true ∨ w.state.relay.packets.get r = none := by
  cases call with
  | markSourceSeen principal requestId =>
    obtain ⟨rfl, -⟩ := hmove
    exact .inr hpre.2
  | markPacketAvailable principal requestId =>
    obtain ⟨-, rfl⟩ := hmove
    exact .inl rfl
  | markDelivered principal requestId =>
    obtain ⟨-, rfl⟩ := hmove
    exact .inl rfl
  | acknowledge principal ack =>
    obtain ⟨-, rfl, -⟩ := hmove
    exact .inl rfl
  | cancel principal requestId =>
    obtain ⟨-, -, rfl | rfl⟩ := hmove
    · cases ha
    · cases ha
  | _ => exact hmove.elim

/-- Who moves a row from a state that carries a packet, or to a delivery, holds the fence. -/
theorem CallPre.holds (hpre : CallPre calls t w call) {r : String} {a b : TransferState}
    (hmove : call.Moves r a b) (hab : a.carries = true ∨ b = .DELIVERED_TO_RECIPIENT) :
    Holds t r w.log := by
  cases call with
  | markSourceSeen principal requestId =>
    obtain ⟨rfl, -⟩ := hmove
    exact hpre.1
  | markPacketAvailable principal requestId =>
    obtain ⟨rfl, -⟩ := hmove
    exact hpre
  | markDelivered principal requestId =>
    obtain ⟨rfl, -⟩ := hmove
    exact hpre.1
  | acknowledge principal ack =>
    obtain ⟨rfl, -, -⟩ := hmove
    exact hpre.1
  | cancel principal requestId =>
    obtain ⟨-, rfl, rfl | rfl⟩ := hmove
    · rcases hab with h | h <;> cases h
    · rcases hab with h | h <;> cases h
  | _ => exact hmove.elim

/-- Only a receive makes a row say that a packet was delivered. -/
theorem CallPre.receives (hpre : CallPre calls t w call) {r : String} {a : TransferState}
    (hmove : call.Moves r a .DELIVERED_TO_RECIPIENT) : ∃ principal, calls t = .receive principal r := by
  cases call with
  | markSourceSeen _ _ => cases hmove.2
  | markPacketAvailable _ _ => cases hmove.2
  | markDelivered principal requestId =>
    obtain ⟨rfl, -⟩ := hmove
    exact ⟨principal, hpre.2⟩
  | acknowledge _ _ => cases hmove.2.1
  | cancel _ _ => cases hmove.2.1
  | _ => exact hmove.elim

/-- Only an acknowledgement of a delivered packet completes a row. -/
theorem CallPre.completes (hpre : CallPre calls t w call) {r : String} {a : TransferState}
    {row : TransferRequestV1} (hrow : w.state.rows.get r = some row) (ha : row.state = a)
    (hmove : call.Moves r a .COMPLETED) :
    Acknowledges calls w.log r (.act t (.repository call now) answer w.state s') := by
  cases call with
  | markSourceSeen _ _ => cases hmove.2
  | markPacketAvailable _ _ => cases hmove.2
  | markDelivered _ _ => cases hmove.2
  | acknowledge principal ack =>
    obtain ⟨rfl, -, rfl⟩ := hmove
    obtain ⟨-, hcall, p, hid, hevidence⟩ := hpre
    exact ⟨t, principal, ack, now, answer, w.state, s', p, hcall, rfl, rfl, hid,
      hevidence row hrow ha⟩
  | cancel _ _ => cases hmove.2.1
  | _ => exact hmove.elim

theorem step_repository (hinv : (outline calls).inv w) (hpre : Pre calls t (.repository call now) w)
    (heff : Queried call now w.state answer s') :
    StepOk calls t (.repository call now) answer w s' := by
  obtain ⟨hfence, hrelay, hlaws⟩ := hinv
  obtain ⟨hnow, hcall⟩ := hpre
  obtain ⟨hsame, hstopped, hinFlight, hclock⟩ := heff.relay
  have hevent := not_delivers calls t (.repository call now) answer w.state s' fun _ _ h => by cases h
  have hholds (holder : T) (r : String) :
      Holds holder r (w.act t (.repository call now) answer s').log ↔ Holds holder r w.log :=
    holds_unfenced trivial
  refine ⟨⟨hfence.unfenced trivial hinFlight, ⟨?_, ?_, ?_, ?_, ?_⟩,
    ⟨fun other p hdelivers => absurd hdelivers (hevent other p),
      fun other p _ hdelivers => absurd hdelivers (hevent other p), ?_, trivial, trivial⟩, hlaws⟩,
    fun other hother => rely_act hother heff.later fun r hheld => ⟨?_, ?_, ?_, ?_, ?_, ?_⟩⟩
  · intro hstop r
    rw [World.act_state, hsame]
    exact hrelay.stopped (hstopped ▸ hstop) r
  · intro r packet hpacket
    rw [World.act_state, hsame] at hpacket
    obtain ⟨hid, row, hrow, ⟨haccount, hsource, hexpiry⟩, hcarries⟩ := hrelay.resident r packet hpacket
    obtain ⟨row', hrow', hmoved⟩ := heff.row hrow
    refine ⟨hid, row', hrow', ⟨hmoved.kept.account.trans haccount, hmoved.kept.source _ hsource,
      hmoved.kept.expiry.trans hexpiry⟩, ?_⟩
    rcases hmoved.state with hstate | ⟨hexpired, -⟩ | hmove
    · rw [hstate, hcarries]
    · rw [hexpired]
      rfl
    · refine (hcall.carries hmove hcarries).resolve_right fun hnone => ?_
      rw [hnone] at hpacket
      cases hpacket
  · intro r reservation hres
    rw [World.act_state, hsame] at hres
    obtain ⟨⟨row, hrow, haccount, hsource, hexpiry⟩, holder, hheld⟩ := hrelay.reserved r reservation hres
    obtain ⟨row', hrow', hmoved⟩ := heff.row hrow
    exact ⟨⟨row', hrow', hmoved.kept.account.trans haccount, hmoved.kept.source _ hsource,
      hmoved.kept.expiry.trans hexpiry⟩, holder, (hholds holder r).mpr hheld⟩
  · intro event hmem r p hdelivers
    rcases List.mem_cons.mp hmem with rfl | hmem
    · exact absurd hdelivers (hevent r p)
    rw [World.act_state, hsame]
    exact (hrelay.delivered event hmem r p hdelivers).imp_left fun hclosed => hclosed.later heff.later
  · intro r
    by_cases hreceiver : ∃ holder principal, Holds holder r w.log ∧ calls holder = .receive principal r
    · obtain ⟨holder, principal, hheld, hreceive⟩ := hreceiver
      exact .inr ⟨holder, principal, (hholds holder r).mpr hheld, hreceive⟩
    by_cases hdelivery : ∃ a, call.Moves r a .DELIVERED_TO_RECIPIENT
    · obtain ⟨a, hmove⟩ := hdelivery
      obtain ⟨principal, hreceive⟩ := hcall.receives hmove
      exact .inr ⟨t, principal, (hholds t r).mpr (hcall.holds hmove (.inr rfl)), hreceive⟩
    refine .inl fun packet row' hpacket hrow' hstate => ?_
    rw [World.act_state, hsame] at hpacket
    have haccounted := (hrelay.accounted r).resolve_right hreceiver
    rcases heff.row_back hrow' with hrequested | ⟨row, hrow, hmoved⟩
    · rw [hrequested] at hstate
      cases hstate
    rcases hmoved.state with hstate' | ⟨hexpired, -⟩ | hmove
    · exact (haccounted packet row hpacket hrow (hstate' ▸ hstate)).mono (List.suffix_cons _ _)
    · rw [hexpired] at hstate
      cases hstate
    · rw [hstate] at hmove
      exact absurd ⟨_, hmove⟩ hdelivery
  · intro r hcompletes
    obtain ⟨⟨row', hrow', hstate⟩, hold⟩ := hcompletes
    rcases heff.row_back hrow' with hrequested | ⟨row, hrow, hmoved⟩
    · rw [hrequested] at hstate
      cases hstate
    rcases hmoved.state with hstate' | ⟨hexpired, -⟩ | hmove
    · exact absurd ⟨row, hrow, hstate' ▸ hstate⟩ hold
    · rw [hexpired] at hstate
      cases hstate
    · rw [hstate] at hmove
      exact hcall.completes hrow rfl hmove
  · intro packet hpacket
    rwa [hsame] at hpacket
  · intro packet hpacket
    rw [hsame]
    exact .inl hpacket
  · intro reservation hres
    rwa [hsame] at hres
  · exact fun hstop => .inl (hstopped ▸ hstop)
  · intro row' hrow' hstate
    rcases heff.row_back hrow' with hrequested | ⟨row, hrow, hmoved⟩
    · rw [hrequested] at hstate
      cases hstate
    rcases hmoved.state with hstate' | ⟨hexpired, -⟩ | hmove
    · exact ⟨row, hrow, hstate' ▸ hstate⟩
    · rw [hexpired] at hstate
      cases hstate
    · exact absurd (hfence.exclusive other t r hheld (hcall.holds hmove (.inr hstate))) hother
  · intro row row' hrow hrow' hcarries
    obtain ⟨found, hfound, hmoved⟩ := heff.row hrow
    have hsome : s'.rows.get r = some row' := hrow'
    rw [hsome] at hfound
    cases hfound
    rcases hmoved.state with hstate | ⟨-, hexpiry⟩ | hmove
    · exact .inl hstate
    · rw [hmoved.kept.expiry, hclock]
      exact .inr (Int.le_trans hexpiry hnow)
    · exact absurd (hfence.exclusive other t r hheld (hcall.holds hmove (.inl hcarries))) hother

end Repository

/-! Steps of the relay that add something. -/

section Relay

variable {sha256 : JsString → String} {r : String} {packet : TransferPacketV1}

/-- What is known of others' fences when a thread changes the entries of the request it holds. -/
theorem fenceKept_other (hfence : FenceInv w.log w.state) (hheld : Holds t r w.log)
    {s₁ : TransferProcess} (hs : Shrinks w.state s₁)
    (hrows : s'.rows = s₁.rows) (hclock : s'.clock = s₁.clock) (hstopped : s'.stopped = s₁.stopped)
    (hpackets : ∀ other, other ≠ r → s'.relay.packets.get other = s₁.relay.packets.get other)
    (hreservations : ∀ other, other ≠ r →
      s'.relay.reservations.get other = s₁.relay.reservations.get other)
    {command : Cmd} {answer : command.Answer} (other : T) (hother : other ≠ t) :
    Rely other w (w.act t command answer s') := by
  have hlater : Later s₁ s' := by
    refine ⟨?_, fun h => hstopped.trans h, fun r row hrow => ⟨row, ?_, .refl row⟩⟩
    · rw [hclock]
    · rw [hrows, hrow]
  refine rely_act hother (hs.later.trans hlater) fun requestId hholds => ?_
  have hne : requestId ≠ r := by
    rintro rfl
    exact hother (hfence.exclusive other t requestId hholds hheld)
  have hkept := hs.fenceKept requestId
  refine ⟨fun packet hpacket => ?_, fun packet hpacket => ?_, fun reservation hres => ?_,
    fun hstop => ?_, fun row hrow hstate => ?_, fun row row' hrow hrow' hcarries => ?_⟩
  · rw [hpackets requestId hne] at hpacket
    exact hkept.packets packet hpacket
  · rw [hpackets requestId hne]
    exact (hkept.gone packet hpacket).imp_right fun hclosed => hclosed.later hlater
  · rw [hreservations requestId hne] at hres
    exact hkept.reservations reservation hres
  · rw [hreservations requestId hne]
    exact hkept.cleared (hstopped ▸ hstop)
  · rw [hrows] at hrow
    exact hkept.delivered row hrow hstate
  · rw [hrows] at hrow'
    rw [hclock]
    exact hkept.prepared row row' hrow hrow' hcarries

theorem step_reserve {accountId sourceDeviceId : String} {expiresAt now : Date}
    {answer : Except Failure Nat} (hinv : (outline calls).inv w)
    (hpre : Pre calls t (.reserve packet accountId sourceDeviceId expiresAt now) w)
    (heff : Effect sha256 (.reserve packet accountId sourceDeviceId expiresAt now) w.state answer s') :
    StepOk calls t (.reserve packet accountId sourceDeviceId expiresAt now) answer w s' := by
  obtain ⟨rfl, rfl⟩ := heff
  obtain ⟨hheld, hnow, row, hrow, hof⟩ := hpre
  have hevent (relay : EphemeralTransferRelay) (answer : Except Failure Nat) :=
    not_delivers calls t (.reserve packet accountId sourceDeviceId expiresAt now) answer w.state
      { w.state with relay } fun _ _ h => by cases h
  have hprune := shrinks_prune hinv.2.1 (Int.le_refl _) hnow
  rcases w.state.relay.reserve_cases sha256 packet accountId sourceDeviceId expiresAt now with ⟨error, hcase⟩ | ⟨error, hcase⟩ |
      ⟨reservation, hcase, hreserves, hfree⟩
  · rw [hcase]
    exact step_shrinks hinv trivial (.refl _) rfl (hevent _ _)
  · rw [hcase]
    exact step_shrinks hinv trivial hprune rfl (hevent _ _)
  · rw [hcase]
    obtain ⟨hfence, hrelay, hlaws⟩ := hinv
    refine ⟨⟨hfence.unfenced trivial rfl, ?_, eventLaws_quiet trivial rfl (hevent _ _), hlaws⟩, ?_⟩
    · have hunfenced : (Cmd.reserve packet accountId sourceDeviceId expiresAt now).Unfenced := trivial
      refine (hrelay.shrinks_act hprune hunfenced (hevent _ _)).reserve _ ?_ ⟨t, hheld⟩ hfree
      refine ⟨row, hrow, ?_⟩
      rw [hreserves.account, hreserves.source, hreserves.expiry]
      exact hof
    · apply fenceKept_other hfence hheld hprune
      · rfl
      · rfl
      · rfl
      · exact fun _ _ => rfl
      · exact fun other hne => JsMap.get_set_other _ _ hne

theorem step_activate {reservationId : Nat} {answer : Bool} (hinv : (outline calls).inv w)
    (hpre : Pre calls t (.activate r reservationId packet) w)
    (heff : Effect sha256 (.activate r reservationId packet) w.state answer s') :
    StepOk calls t (.activate r reservationId packet) answer w s' := by
  obtain ⟨now, hclock, rfl, rfl⟩ := heff
  obtain ⟨hheld, -, -, hstopped, row, hrow, hstate⟩ := hpre
  have hevent (answer : Bool) (post : TransferProcess) :=
    not_delivers calls t (.activate r reservationId packet) answer w.state post
      fun _ _ h => by cases h
  rcases w.state.relay.activate_cases sha256 packet r now reservationId with
      ⟨reservation, hres, hlive, hid, hcase⟩ | ⟨hfailed, hcase | hcase, -⟩
  · rw [hcase]
    obtain ⟨hfence, hrelay, hlaws⟩ := hinv
    have hstill : Shrinks w.state { w.state with clock := now } := .still rfl hclock rfl rfl
    refine ⟨⟨hfence.unfenced trivial rfl, ?_, eventLaws_quiet trivial rfl (hevent _ _), hlaws⟩, ?_⟩
    · have hrunning : w.state.stopped = false := by
        cases hstop : w.state.stopped with
        | false => rfl
        | true =>
          rw [hstopped hstop] at hres
          cases hres
      obtain ⟨⟨row', hrow', -, -, hexpiry⟩, -⟩ := hrelay.reserved r reservation hres
      rw [hrow] at hrow'
      cases hrow'
      have hprepared : row.state = .PACKET_AVAILABLE_EPHEMERAL := by
        refine hstate.resolve_right fun hexpired => ?_
        rw [hexpiry] at hexpired
        exact absurd (Int.le_trans hexpired hclock) (Int.not_le.mpr hlive)
      have hunfenced : (Cmd.activate r reservationId packet).Unfenced := trivial
      exact (hrelay.shrinks_act hstill hunfenced (hevent _ _)).activate hres hrunning hid
        ⟨row, hrow, hprepared⟩
    · apply fenceKept_other hfence hheld hstill
      · rfl
      · rfl
      · rfl
      · exact fun other hne => JsMap.get_set_other _ _ hne
      · exact fun other hne => JsMap.get_delete_other _ hne
  · rw [hfailed, hcase]
    exact step_shrinks hinv trivial (.still rfl hclock rfl rfl) rfl (hevent _ _)
  · rw [hfailed, hcase]
    exact step_shrinks hinv trivial (shrinks_unreserve r hclock) rfl (hevent _ _)

theorem step_pinDelivered {packetId : String} {answer : Bool} (hinv : (outline calls).inv w)
    (hpre : Pre calls t (.pinDelivered r packetId) w)
    (heff : Effect sha256 (.pinDelivered r packetId) w.state answer s') :
    StepOk calls t (.pinDelivered r packetId) answer w s' := by
  obtain ⟨now, hclock, rfl, rfl⟩ := heff
  obtain ⟨hheld, ⟨principal, hcall⟩, row, hrow, hstate⟩ := hpre
  have hprune := shrinks_prune hinv.2.1 hclock (Int.le_refl now)
  rcases w.state.relay.pinDelivered_cases r now packetId with ⟨resident, hresident, rfl, hnone, hcase⟩ | ⟨hcase, -⟩
  · rw [hcase]
    obtain ⟨hfence, hrelay, hlaws⟩ := hinv
    have hold := hprune.packets r resident hresident
    have hlive : now < resident.expiresAt := by
      simp only [EphemeralTransferRelay.prune, JsMap.get_filter, Option.filter_eq_some_iff,
        decide_eq_true_eq] at hresident
      exact hresident.2
    obtain ⟨hid, row', hrow', ⟨-, -, hexpiry⟩, -⟩ := hrelay.resident r resident hold
    rw [hrow] at hrow'
    cases hrow'
    rw [← hexpiry] at hlive
    have hdelivered : row.state = .DELIVERED_TO_RECIPIENT :=
      hstate.resolve_right fun hexpired =>
        absurd (Int.le_trans hexpired hclock) (Int.not_le.mpr hlive)
    have hrunning : w.state.stopped = false := by
      cases hstop : w.state.stopped with
      | false => rfl
      | true =>
        rw [hrelay.stopped hstop r] at hold
        cases hold
    have hopen : ¬ Closed (w.state.relayed (w.state.relay.prune now) now) r := by
      rintro (hstop | ⟨found, hfound, hend⟩)
      · have hstop' : w.state.stopped = true := hstop
        rw [hrunning] at hstop'
        cases hstop'
      · have hsome : w.state.rows.get r = some found := hfound
        rw [hrow] at hsome
        cases hsome
        rcases hend with hterminal | hexpired
        · rw [hdelivered] at hterminal
          cases hterminal
        · exact absurd hexpired (Int.not_le.mpr hlive)
    have hpin : Delivers calls (.act t (.pinDelivered r resident.packetId) true w.state
        (w.state.relayed ((w.state.relay.prune now).pinned r resident) now))
        r resident.toTransferPacketV1 :=
      ⟨t, principal, _, _, _, hcall, rfl, JsMap.get_set_self _ _ _, rfl⟩
    have honly (other : String) (p : TransferPacketV1) (hdelivers : Delivers calls
        (.act t (.pinDelivered r resident.packetId) true w.state
          (w.state.relayed ((w.state.relay.prune now).pinned r resident) now)) other p) : other = r ∧ p = resident.toTransferPacketV1 := by
      obtain ⟨t', principal', pre, post, found, -, heq, hfound, hp⟩ := hdelivers
      generalize p.packetId = packetId at heq
      cases heq
      rw [TransferProcess.relayed, EphemeralTransferRelay.pinned, JsMap.get_set_self] at hfound
      cases hfound
      exact ⟨rfl, hp.symm⟩
    refine ⟨⟨hfence.unfenced trivial rfl, ?_, ⟨fun other p hdelivers => ?_, ?_, ?_, trivial, trivial⟩,
      hlaws⟩, ?_⟩
    · have hrelay' : RelayInv calls w.log (w.state.relayed (w.state.relay.prune now) now) :=
        hrelay.shrinks hprune (List.suffix_refl _) (fun _ hmem _ _ _ => hmem) (fun _ _ _ h => h)
          fun _ h => .inr h
      exact hrelay'.pin hresident hnone (fun _ h => h) (fun _ h => h) hpin honly hopen
    · obtain ⟨rfl, rfl⟩ := honly other p hdelivers
      refine ⟨hrunning, row, hrow, ?_, hlive⟩
      rw [hdelivered]
      exact fun h => by cases h
    · intro other p p' hdelivers event hmem hdelivers'
      obtain ⟨rfl, rfl⟩ := honly other p hdelivers
      rcases hrelay.delivered event hmem other p' hdelivers' with hclosed | ⟨found, hfound, hp, -, -⟩
      · exact absurd (hclosed.later hprune.later) hopen
      · rw [hold] at hfound
        cases hfound
        exact hp
    · exact fun other hcompletes => absurd hcompletes.1 hcompletes.2
    · apply fenceKept_other hfence hheld hprune
      · rfl
      · rfl
      · rfl
      · exact fun other hne => JsMap.get_set_other _ _ hne
      · exact fun _ _ => rfl
  · rw [hcase]
    refine step_shrinks hinv trivial hprune rfl fun other p hdelivers => ?_
    cases hdelivers.pin.2

/-- Every command under its precondition keeps the outline. -/
theorem step_act {command : Cmd} {answer : command.Answer} (hinv : (outline calls).inv w)
    (hpre : Pre calls t command w) (heff : Effect sha256 command w.state answer s') :
    StepOk calls t command answer w s' := by
  cases command with
  | assertRunning =>
    obtain ⟨isAvailable, heq⟩ := heff
    obtain rfl : s' = (w.state.assertRunning isAvailable).2 := congrArg Prod.snd heq
    exact step_shrinks hinv trivial (shrinks_assertRunning _ _) (assertRunning_inFlight _ _)
      (not_delivers calls t _ _ _ _ fun _ _ h => by cases h)
  | checkAvailable =>
    obtain ⟨isAvailable, rfl⟩ := heff
    exact step_shrinks hinv trivial (shrinks_checkAvailable _ _) (checkAvailable_inFlight _ _)
      (not_delivers calls t _ _ _ _ fun _ _ h => by cases h)
  | enter requestId => exact step_enter hinv heff
  | leave requestId =>
    obtain rfl := heff
    exact step_leave hinv hpre
  | now =>
    obtain ⟨hclock, rfl⟩ := heff
    exact step_shrinks hinv trivial (.still rfl hclock rfl rfl) rfl
      (not_delivers calls t _ _ _ _ fun _ _ h => by cases h)
  | repository call now => exact step_repository hinv hpre heff
  | reserve packet accountId sourceDeviceId expiresAt now => exact step_reserve hinv hpre heff
  | release requestId reservationId =>
    obtain ⟨now, hclock, rfl⟩ := heff
    exact step_shrinks hinv trivial (shrinks_release _ _ hclock) rfl
      (not_delivers calls t _ _ _ _ fun _ _ h => by cases h)
  | activate requestId reservationId packet => exact step_activate hinv hpre heff
  | get requestId =>
    obtain ⟨now, hclock, -, rfl⟩ := heff
    exact step_shrinks hinv trivial (shrinks_prune hinv.2.1 hclock (Int.le_refl now)) rfl
      (not_delivers calls t _ _ _ _ fun _ _ h => by cases h)
  | isDelivered requestId =>
    obtain ⟨now, hclock, -, rfl⟩ := heff
    exact step_shrinks hinv trivial (shrinks_prune hinv.2.1 hclock (Int.le_refl now)) rfl
      (not_delivers calls t _ _ _ _ fun _ _ h => by cases h)
  | pinDelivered requestId packetId => exact step_pinDelivered hinv hpre heff
  | delete requestId =>
    obtain ⟨now, hclock, rfl⟩ := heff
    obtain ⟨row, hrow, hterminal⟩ := hpre
    exact step_shrinks hinv trivial (shrinks_delete hrow hterminal hclock) rfl
      (not_delivers calls t _ _ _ _ fun _ _ h => by cases h)
  | prune now =>
    obtain rfl := heff
    exact step_shrinks hinv trivial (shrinks_prune hinv.2.1 (Int.le_refl _) hpre) rfl
      (not_delivers calls t _ _ _ _ fun _ _ h => by cases h)
  | stop =>
    obtain rfl := heff
    exact step_shrinks hinv trivial (shrinks_stop _) rfl (not_delivers calls t _ _ _ _ fun _ _ h => by cases h)

end Relay

/-- The timer keeps the outline. -/
theorem step_env (hinv : (outline calls).inv w) (henv : Timer w.state s') :
    (outline calls).inv (w.env s') ∧ ∀ t, Rely t w (w.env s') := by
  obtain ⟨hfence, hrelay, hlaws⟩ := hinv
  obtain ⟨now, next, hclock, hnext, rfl⟩ := henv
  have hs := shrinks_prune hrelay hclock hnext
  have hevent (r : String) (p : TransferPacketV1) :
      ¬ Delivers calls (.env w.state (w.state.relayed (w.state.relay.prune next) now)) r p := by
    rintro ⟨t, principal, pre, post, packet, -, heq, -⟩
    cases heq
  refine ⟨⟨⟨hfence.held, hfence.exclusive⟩,
    hrelay.shrinks hs (List.suffix_cons _ _) (delivers_of_cons hevent) (fun _ _ _ h => h)
      fun _ h => .inr h,
    ⟨fun r p hdelivers => absurd hdelivers (hevent r p),
      fun r p _ hdelivers => absurd hdelivers (hevent r p),
      fun r hcompletes => absurd hcompletes.1 hcompletes.2, trivial, trivial⟩, hlaws⟩, fun t => ?_⟩
  refine ⟨List.suffix_cons _ _, fun _ _ => Iff.rfl, ?_, fun r => Iff.rfl, hs.later,
    fun r _ => hs.fenceKept r⟩
  rintro ⟨r, reservationId, packet, before, after, hmem⟩
  refine ⟨r, reservationId, packet, before, after, (List.mem_cons.mp hmem).resolve_left fun heq => ?_⟩
  cases heq

/-- The end of a call keeps the outline. -/
theorem step_finish (hinv : (outline calls).inv w) (t : T) (outcome : Except Failure TransferAnswer)
    (hpost : ∀ answer, outcome = .ok answer → (outline calls).post t answer w) :
    (outline calls).inv (w.finish t outcome) ∧ ∀ other, Rely other w (w.finish t outcome) := by
  obtain ⟨hfence, hrelay, hlaws⟩ := hinv
  have hevent (r : String) (p : TransferPacketV1) :
      ¬ Delivers calls (.finish t outcome w.state) r p := by
    rintro ⟨t', principal, pre, post, packet, -, heq, -⟩
    cases heq
  refine ⟨⟨⟨hfence.held, hfence.exclusive⟩,
    hrelay.shrinks (.refl _) (List.suffix_cons _ _) (delivers_of_cons hevent) (fun _ _ _ h => h)
      fun _ h => .inr h,
    ⟨fun r p hdelivers => absurd hdelivers (hevent r p),
      fun r p _ hdelivers => absurd hdelivers (hevent r p), fun r h => h.elim, trivial, ?_⟩, hlaws⟩,
    fun other => ?_⟩
  · cases outcome with
    | error error => trivial
    | ok answer =>
      cases answer with
      | packet p => exact hpost _ rfl p rfl
      | _ => trivial
  · refine ⟨List.suffix_cons _ _, fun _ _ => Iff.rfl, ?_, fun r => Iff.rfl, .refl _,
      fun r _ => .refl r _⟩
    rintro ⟨r, reservationId, packet, before, after, hmem⟩
    refine ⟨r, reservationId, packet, before, after,
      (List.mem_cons.mp hmem).resolve_left fun heq => ?_⟩
    cases heq

end SellerAgents.CredentialTransfer
