import SellerAgents.Concurrent.Replay
import SellerAgents.CredentialTransfer.Calls

open Concurrent

namespace SellerAgents.CredentialTransfer

open Js
open Subscriptions (Date)

/-! An undisturbed call: the service is available, the repository answers and no time passes. -/

/-- The answers that an undisturbed call gets. -/
def undisturbed (sha256 : JsString → String) :
    (command : Cmd) → TransferProcess → command.Answer × TransferProcess
  | .assertRunning, s => s.assertRunning true
  | .checkAvailable, s => ((), s.checkAvailable true)
  | .enter requestId, s => s.enter requestId true
  | .leave requestId, s => ((), s.leave requestId)
  | .now, s => (s.clock, s)
  | .repository call now, s =>
    ((call.perform now s.rows).1.mapError .transfer, { s with rows := (call.perform now s.rows).2 })
  | .reserve packet accountId sourceDeviceId expiresAt now, s =>
    let result := s.relay.reserve sha256 packet accountId sourceDeviceId expiresAt now
    (result.1.mapError .transfer, { s with relay := result.2 })
  | .release requestId reservationId, s =>
    ((), s.relayed (s.relay.release requestId reservationId) s.clock)
  | .activate requestId reservationId packet, s =>
    let result := s.relay.activate sha256 requestId reservationId packet s.clock
    (result.1, s.relayed result.2 s.clock)
  | .get requestId, s => ((s.relay.get requestId s.clock).1, s.relayed (s.relay.get requestId s.clock).2 s.clock)
  | .isDelivered requestId, s =>
    ((s.relay.isDelivered requestId s.clock).1,
      s.relayed (s.relay.isDelivered requestId s.clock).2 s.clock)
  | .pinDelivered requestId packetId, s =>
    let result := s.relay.pinDelivered requestId packetId s.clock
    (result.1, s.relayed result.2 s.clock)
  | .delete requestId, s => ((), s.relayed (s.relay.delete requestId) s.clock)
  | .prune now, s => ((), { s with relay := s.relay.prune now })
  | .stop, s => ((), s.stop)

theorem undisturbed_effect (sha256 : JsString → String) (command : Cmd) (s : TransferProcess) :
    Effect sha256 command s (undisturbed sha256 command s).1 (undisturbed sha256 command s).2 := by
  cases command with
  | assertRunning => exact ⟨true, rfl⟩
  | checkAvailable => exact ⟨true, rfl⟩
  | enter requestId => exact ⟨true, rfl⟩
  | leave requestId => rfl
  | now => exact ⟨Int.le_refl _, rfl⟩
  | repository call now => exact .inl ⟨.inl rfl, rfl⟩
  | reserve packet accountId sourceDeviceId expiresAt now => exact ⟨rfl, rfl⟩
  | release requestId reservationId => exact ⟨s.clock, Int.le_refl _, rfl⟩
  | activate requestId reservationId packet => exact ⟨s.clock, Int.le_refl _, rfl, rfl⟩
  | get requestId => exact ⟨s.clock, Int.le_refl _, rfl, rfl⟩
  | isDelivered requestId => exact ⟨s.clock, Int.le_refl _, rfl, rfl⟩
  | pinDelivered requestId packetId => exact ⟨s.clock, Int.le_refl _, rfl, rfl⟩
  | delete requestId => exact ⟨s.clock, Int.le_refl _, rfl⟩
  | prune now => rfl
  | stop => rfl

section Solo

variable {sha256 : JsString → String} {s : TransferProcess} {r : String}

theorem run_repositoryStep (sha256 : JsString → String) (s : TransferProcess)
    (call : RepositoryCall) {value : call.Answer} (hrunning : s.stopped = false) (hok : (call.perform s.clock s.rows).1 = .ok value) :
    (repositoryStep clockNow call).run (undisturbed sha256) s =
      (.ok value, { s with rows := (call.perform s.clock s.rows).2 }) := by
  have hassert {s' : TransferProcess} (h : s'.stopped = false) : s'.assertRunning true = (.ok (), s') := by
    simp [TransferProcess.assertRunning, h]
  unfold repositoryStep guardedStep
  simp only [Prog.bind_eq, Prog.run_bind, assertRunning, Prog.run, undisturbed, hassert hrunning,
    Prog.ofExcept_ok, Prog.run_attempt, clockNow, hok, Except.mapError]
  rw [hassert (by exact hrunning)]
  rfl

variable {now : Date} {packet : RelayPacket} {rows : Rows} {row : TransferRequestV1}

/-- The row of a receivable packet, as the repository finds it for the recipient. -/
theorem find_live (hrow : rows.get r = some row) (hlive : now < row.expiresAt) :
    Repository.find ⟨row.accountId, row.recipientDeviceId⟩ now rows r = (some row, rows) := by
  unfold Repository.find
  rw [hrow]
  dsimp only
  rw [if_neg (by simp), if_neg (by simp [Int.not_le.mpr hlive])]

theorem read_live (hrow : rows.get r = some row) (hlive : now < row.expiresAt) :
    Repository.read ⟨row.accountId, row.recipientDeviceId⟩ now rows r =
      (.ok (some row), rows.set r row) := by
  unfold Repository.read Repository.onRow
  rw [find_live hrow hlive]
  simp

theorem markDelivered_live (hrow : rows.get r = some row) (hlive : now < row.expiresAt)
    (hstate : row.state = .PACKET_AVAILABLE_EPHEMERAL ∨ row.state = .DELIVERED_TO_RECIPIENT) :
    (Repository.markDelivered ⟨row.accountId, row.recipientDeviceId⟩ now rows r).1 =
      .ok { row with state := .DELIVERED_TO_RECIPIENT, revision := row.revision + 1 } := by
  unfold Repository.markDelivered Repository.recipientTransition Repository.onRow
  rw [find_live hrow hlive]
  rcases hstate with hstate | hstate <;> simp [Repository.transition, hstate]

theorem prune_get {relay : EphemeralTransferRelay} (hresident : relay.packets.get r = some packet)
    (hlive : now < packet.expiresAt) :
    (relay.prune now).packets.get r = some packet := by
  simp [EphemeralTransferRelay.prune, hresident, hlive]

theorem prune_unreserved {relay : EphemeralTransferRelay} (hnone : relay.reservations.get r = none) : (relay.prune now).reservations.get r = none := by
  simp [EphemeralTransferRelay.prune, hnone]

theorem run_deliver (sha256 : JsString → String) (s : TransferProcess) (request : TransferRequestV1)
    (hrunning : s.stopped = false) (hresident : s.relay.packets.get r = some packet)
    (hnone : s.relay.reservations.get r = none) (hrow : s.rows.get r = some row)
    (hlive : s.clock < row.expiresAt) (hexpiry : s.clock < packet.expiresAt)
    (hstate : row.state = .PACKET_AVAILABLE_EPHEMERAL ∨ row.state = .DELIVERED_TO_RECIPIENT)
    (hbelongs : belongs request packet = true) :
    ((deliver ⟨row.accountId, row.recipientDeviceId⟩ r request).run (undisturbed sha256) s).1 =
      .ok packet.toTransferPacketV1 := by
  have hget : s.relay.get r s.clock = (some packet, s.relay.prune s.clock) := by
    unfold EphemeralTransferRelay.get
    simp only [JsMap.has, prune_unreserved hnone, Option.isSome_none, Bool.false_eq_true, if_false,
      prune_get hresident hexpiry]
  have hpruned := prune_get hresident hexpiry
  have hpin : ((s.relay.prune s.clock).pinDelivered r packet.packetId s.clock).1 = true := by
    rcases (s.relay.prune s.clock).pinDelivered_cases r s.clock packet.packetId with
      ⟨found, -, -, -, hcase⟩ | ⟨-, hmissing⟩
    · rw [hcase]
    · exact absurd (prune_unreserved (prune_unreserved hnone))
        (hmissing packet (prune_get hpruned hexpiry) rfl)
  have hstep := run_repositoryStep sha256 (s.relayed (s.relay.prune s.clock) s.clock)
    (.markDelivered ⟨row.accountId, row.recipientDeviceId⟩ r) hrunning
    (markDelivered_live hrow hlive hstate)
  unfold deliver
  simp only [Prog.bind_eq, Prog.act_bind, Prog.ret_bind, Prog.run, undisturbed, hget, hbelongs,
    Bool.not_true, Bool.false_eq_true, if_false, Prog.run_bind, hstep]
  simp only [TransferProcess.relayed, hpin, if_true]
  rfl

theorem receive_receivable (h : Receivable s r packet) (hrow : s.rows.get r = some row) :
    ∃ trace s', Prog.Runs (Effect sha256) (receive ⟨row.accountId, row.recipientDeviceId⟩ r) s trace
      (.ok packet.toTransferPacketV1) s' := by
  suffices hrun : ((receive ⟨row.accountId, row.recipientDeviceId⟩ r).run (undisturbed sha256) s).1 =
      .ok packet.toTransferPacketV1 by
    have hruns := Prog.run_runs (undisturbed_effect sha256)
      (receive ⟨row.accountId, row.recipientDeviceId⟩ r) s
    rw [hrun] at hruns
    exact ⟨_, _, hruns⟩
  obtain ⟨found, hfound, hlive, ⟨haccount, hsource, hexpiry⟩, hstate⟩ := h.row
  rw [hrow] at hfound
  cases hfound
  have hread := run_repositoryStep sha256 s (.read ⟨row.accountId, row.recipientDeviceId⟩ r)
    h.running (congrArg Prod.fst (read_live hrow hlive))
  have hbelongs : belongs row packet = true := by simp [belongs, haccount, hsource]
  have henter {rows : Rows} : ({ s with rows } : TransferProcess).enter r true =
      (.ok (), { s with rows, inFlightRequests := r :: s.inFlightRequests }) := by
    simp [TransferProcess.enter, TransferProcess.assertRunning, h.running, h.free]
  have hdeliver := run_deliver sha256 { s with
      rows := ((RepositoryCall.read ⟨row.accountId, row.recipientDeviceId⟩ r).perform s.clock s.rows).2
      inFlightRequests := r :: s.inFlightRequests } row h.running h.resident h.settled
    (by
      simp only [RepositoryCall.perform, read_live hrow hlive, JsMap.get_set_self]) hlive
    (hexpiry ▸ hlive) hstate hbelongs
  unfold receive forRequest
  simp only [Prog.bind_eq, Prog.act_bind, Prog.run_bind, hread, Prog.run, undisturbed, henter,
    Prog.ofExcept_ok, Prog.ret_bind, Prog.run_attempt, hdeliver]

end Solo

/-! The laws. -/

section Laws

variable {T : Type} (calls : T → ServiceCall)

/-- The laws of a run: one packet for each request; a call that returns a packet has pinned it
itself, before the expiry and neither after the stop nor after a cancel; what completes a request;
and what a failing submit leaves. -/
structure TransferLaws (w : TransferWorld T) : Prop where
  onePacket : ∀ event ∈ w.log, ∀ event' ∈ w.log, ∀ r p p',
    Delivers calls event r p → Delivers calls event' r p' → p = p'
  returned : ∀ later t p s earlier, w.log = later ++ .finish t (.ok (.packet p)) s :: earlier →
    ∃ r, p.requestId = r ∧ ∃ event ∈ earlier, Pins calls t event r p ∧ Timely r event
  timely : ∀ event ∈ w.log, ∀ r p, Delivers calls event r p → Timely r event
  completed : ∀ later event earlier r, w.log = later ++ event :: earlier →
    Completes r event → Acknowledges calls earlier r event
  restored : ∀ later event earlier, w.log = later ++ event :: earlier →
    Restores calls earlier event

variable {calls}

variable {log : List (TransferEvent T)}

theorem Lawful.suffix {later : List (TransferEvent T)} (h : Lawful calls (later ++ log)) :
    Lawful calls log := by
  induction later with
  | nil => exact h
  | cons event later ih => exact ih h.2

/-- Every event of a lawful history obeys the laws over what came before it. -/
theorem Lawful.mem {event : TransferEvent T} (h : Lawful calls log) (hmem : event ∈ log) :
    ∃ earlier, EventLaws calls earlier event := by
  obtain ⟨later, earlier, rfl⟩ := List.append_of_mem hmem
  exact ⟨earlier, h.suffix.1⟩

theorem Lawful.onePacket (h : Lawful calls log) :
    ∀ event ∈ log, ∀ event' ∈ log, ∀ r p p',
      Delivers calls event r p → Delivers calls event' r p' → p = p' := by
  induction log with
  | nil => simp
  | cons last earlier ih =>
    intro event hevent event' hevent' r p p' hp hp'
    rcases List.mem_cons.mp hevent with rfl | hmem
    · rcases List.mem_cons.mp hevent' with rfl | hmem'
      · obtain ⟨_, _, _, _, packet, -, heq, hpacket, rfl⟩ := hp
        obtain ⟨_, _, _, _, packet', -, heq', hpacket', rfl⟩ := hp'
        rw [heq] at heq'
        generalize packet'.toTransferPacketV1.packetId = id' at heq'
        cases heq'
        rw [hpacket] at hpacket'
        cases hpacket'
        rfl
      · exact h.1.same r p p' hp event' hmem' hp'
    · rcases List.mem_cons.mp hevent' with rfl | hmem'
      · exact (h.1.same r p' p hp' event hmem hp).symm
      · exact ih h.2 event hmem event' hmem' r p p' hp hp'

theorem Lawful.laws {w : TransferWorld T} (h : Lawful calls w.log) : TransferLaws calls w where
  onePacket := h.onePacket
  returned later t p s earlier hlog := by
    rw [hlog] at h
    obtain ⟨r, hrequest, event, hevent, hpins⟩ := h.suffix.1.returns
    obtain ⟨_, hlaws⟩ := h.suffix.2.mem hevent
    exact ⟨r, hrequest, event, hevent, hpins, hlaws.timely r p ⟨t, hpins⟩⟩
  timely event hevent r p hdelivers := by
    obtain ⟨_, hlaws⟩ := h.mem hevent
    exact hlaws.timely r p hdelivers
  completed later event earlier r hlog hcompletes := by
    rw [hlog] at h
    exact h.suffix.1.completed r hcompletes
  restored later event earlier hlog := by
    rw [hlog] at h
    exact h.suffix.1.restores

/-- In every run of any calls of the service the laws hold, and a receivable packet is what an
undisturbed receive returns. -/
theorem credential_transfer_laws [DecidableEq T] (sha256 : JsString → String)
    (calls : T → ServiceCall) (rows : Rows) (limits : EphemeralTransferRelayOptions) (clock : Date)
    {cfg : Config T Cmd Cmd.Answer Failure TransferAnswer TransferProcess}
    (h : (transferService sha256 calls).Reachable { rows, clock, relay := { limits } } cfg) :
    TransferLaws calls cfg.world ∧ ∀ r packet row, Receivable cfg.world.state r packet →
      cfg.world.state.rows.get r = some row → ∃ trace s',
        Prog.Runs (Effect sha256) (receive ⟨row.accountId, row.recipientDeviceId⟩ r)
          cfg.world.state trace (.ok packet.toTransferPacketV1) s' := by
  have hinv := ((outline_sound sha256 calls rows limits clock).reachable h).1
  exact ⟨hinv.2.2.laws, fun r packet row => receive_receivable⟩

end Laws

/-! Replayed runs of one request. -/

/-- The calls of the replayed runs. -/
inductive SampleCall where
  | create | seen | submit | resubmit | receive | acknowledge
deriving DecidableEq

def sampleCalls : SampleCall → ServiceCall
  | .create => .create ⟨"acct", "laptop"⟩ ⟨"r", "laptop", "key", none, ["s"], 600⟩
  | .seen => .sourceSeen ⟨"acct", "desktop"⟩ "r"
  | .submit => .submit ⟨"acct", "desktop"⟩ ⟨"r", "old", units "a"⟩
  | .resubmit => .submit ⟨"acct", "desktop"⟩ ⟨"r", "new", units "b"⟩
  | .receive => .receive ⟨"acct", "laptop"⟩ "r"
  | .acknowledge => .acknowledge ⟨"acct", "laptop"⟩ ⟨"r", "old", .IMPORTED⟩

/-- The answers of a run in which the repository's answers to some calls are lost. -/
def lossy (lost : RepositoryCall → TransferProcess → Bool) (command : Cmd) (s : TransferProcess) :
    command.Answer × TransferProcess :=
  match command with
  | .repository call now =>
    if lost call s then
      (.error .repository, { s with rows := (call.perform now s.rows).2 })
    else undisturbed (fun _ => "") (.repository call now) s
  | command => undisturbed (fun _ => "") command s

theorem lossy_effect (lost : RepositoryCall → TransferProcess → Bool) (command : Cmd)
    (s : TransferProcess) :
    Effect (fun _ => "") command s (lossy lost command s).1 (lossy lost command s).2 := by
  cases command
  case repository call now =>
    unfold lossy
    dsimp only
    split
    · exact .inl ⟨.inr ⟨_, rfl⟩, rfl⟩
    · exact undisturbed_effect _ _ s
  all_goals exact undisturbed_effect _ _ s

/-- A replayed schedule of the sample calls, with as many turns for each as it needs. -/
def sampleRun (lost : RepositoryCall → TransferProcess → Bool) (schedule : List SampleCall) :
    Config SampleCall Cmd Cmd.Answer Failure TransferAnswer TransferProcess :=
  (transferService (fun _ => "") sampleCalls).replay (fun _ => lossy lost)
    (schedule.flatMap (List.replicate 30)) { rows := .empty }

/-- The last read of the second submit fails. -/
def losesRead : RepositoryCall → TransferProcess → Bool
  | .read _ r, s => (s.relay.packets.get r).any (·.packetId = "new")
  | _, _ => false

/-- The answer to the recipient's mark is lost. -/
def losesMark : RepositoryCall → TransferProcess → Bool
  | .markDelivered _ _, _ => true
  | _, _ => false

/-- The outcome of a call that has ended. -/
def outcomeOf
    (cfg : Config SampleCall Cmd Cmd.Answer Failure TransferAnswer TransferProcess) (t : SampleCall) :
    Option (Except Failure TransferAnswer) :=
  match cfg.pool t with
  | .finished outcome => some outcome
  | _ => none

/-- Whether an event pins a packet. -/
def pins {T : Type} : TransferEvent T → Bool
  | .act _ (.pinDelivered _ _) answer _ _ => answer
  | _ => false

theorem Delivers.pins {T : Type} {calls : T → ServiceCall} {event : TransferEvent T} {r : String}
    {p : TransferPacketV1} (h : Delivers calls event r p) :
    CredentialTransfer.pins event = true := by
  obtain ⟨_, _, _, _, _, -, rfl, -, -⟩ := h
  rfl

theorem sampleRun_reachable (lost : RepositoryCall → TransferProcess → Bool)
    (schedule : List SampleCall) :
    (transferService (fun _ => "") sampleCalls).Reachable { rows := .empty }
      (sampleRun lost schedule) :=
  System.replay_reachable (fun _ c w => lossy_effect lost c w.state) _ _

/-- The packet of the first submit, in the relay. -/
def samplePacket : RelayPacket :=
  ⟨⟨"r", "old", units "a"⟩, "acct", "desktop", 600000, 1, false⟩

/-- The row of the request after the first submit. -/
def sampleRow : TransferRequestV1 :=
  ⟨"r", "acct", "laptop", some "desktop", "key", 0, 600000, .PACKET_AVAILABLE_EPHEMERAL, ["s"], 3⟩

theorem sampleRun_receivable :
    Receivable (sampleRun losesRead [.create, .seen, .submit]).world.state "r" samplePacket where
  running := by decide +kernel
  free := by decide +kernel
  resident := by decide +kernel
  settled := by decide +kernel
  row := ⟨sampleRow, by decide +kernel, by decide +kernel, ⟨rfl, rfl, rfl⟩, .inl rfl⟩

theorem credential_transfer_laws_receive : ∃ trace s',
    Prog.Runs (Effect fun _ => "") (receive ⟨"acct", "laptop"⟩ "r")
      (sampleRun losesRead [.create, .seen, .submit]).world.state trace
      (.ok samplePacket.toTransferPacketV1) s' :=
  (credential_transfer_laws _ _ _ _ _ (sampleRun_reachable losesRead [.create, .seen, .submit])).2
    "r" samplePacket sampleRow sampleRun_receivable (by decide +kernel)

/-- A submit can fail after its packet has replaced the receivable one, in its last read; and a
request can be completed without any receive, once the answer to a recipient's mark was lost. -/
theorem transfer_outlives_failures :
    (Receivable (sampleRun losesRead [.create, .seen, .submit]).world.state "r" samplePacket ∧
      outcomeOf (sampleRun losesRead [.create, .seen, .submit, .resubmit]) .resubmit =
        some (.error .repository) ∧
      ((sampleRun losesRead [.create, .seen, .submit, .resubmit]).world.state.relay.packets.get
        "r").map (·.packetId) = some "new") ∧
    (((sampleRun losesMark [.create, .seen, .submit, .receive, .acknowledge]).world.state.rows.get
        "r").map (·.state) = some .COMPLETED ∧
      ∀ event ∈ (sampleRun losesMark [.create, .seen, .submit, .receive, .acknowledge]).world.log,
        ∀ r p, ¬ Delivers sampleCalls event r p) := by
  refine ⟨⟨sampleRun_receivable, by decide +kernel, by decide +kernel⟩, by decide +kernel, ?_⟩
  intro event hevent r p hdelivers
  have hpins : (sampleRun losesMark [.create, .seen, .submit, .receive, .acknowledge]).world.log.all
      fun event => !pins event := by decide +kernel
  have hnone := List.all_eq_true.mp hpins event hevent
  rw [hdelivers.pins] at hnone
  cases hnone

end SellerAgents.CredentialTransfer
