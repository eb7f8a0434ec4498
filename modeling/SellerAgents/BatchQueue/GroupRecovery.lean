import SellerAgents.BatchQueue.Protocol
import SellerAgents.BatchQueue.Replay
import SellerAgents.BatchQueue.Solo

open SellerAgents.Js SellerAgents.Execution Concurrent

namespace SellerAgents.BatchQueue

/-- Whether a buffer holds a physical result that is neither expired nor of another context. -/
def isResumable (owner : Owner) (now : Int) (buffer : ResultBuffer) : Bool :=
  buffer.phase = .BUFFERED && now < buffer.expires_at_ms && buffer.projection_kind = .physical &&
    owner.execution_context.all fun context =>
      ResultRecovery.sameContext (ResultRecovery.ofKept buffer.context)
        (ResultRecovery.ofExecution context)

/-- A group member whose buffered physical result may be resumed at a time. -/
structure BufferedMember (owner : Owner) (now : Int) (entry : Entry) : Prop where
  requesting : entry.status = .requesting
  known : entry.provider_attempt.any (hasKnownResponse ·.state) = true
  buffered : entry.result_buffer.any (isResumable owner now) = true

/-- A record that stopped between the buffer of a group's result and its store, as a restarted
worker finds it. -/
structure BufferedGroup (call : Call) (owner : Owner) (batch : Batch) (leader : Entry)
    (group : QueryGroup) (now : Int) : Prop where
  next : AtNext call owner batch leader
  kind : leader.kind = .command
  grouped : ∃ id, orNull leader.query_group_id = some id ∧ call.findGroup batch id = some group
  leads : group.leader_index = batch.next_index
  several : 2 ≤ group.member_indexes.length
  contiguous : group.member_indexes = List.range' batch.next_index group.member_indexes.length
  members : ∀ i ∈ group.member_indexes, ∃ entry, batch.entries[i]? = some entry ∧
    BufferedMember owner now entry
  restarted : ∃ worker, batch.request_worker_session_id = some worker ∧ worker ≠ "" ∧
    worker ≠ call.workerId

theorem BufferedMember.not_dispatching {owner : Owner} {now : Int} {entry : Entry}
    (h : BufferedMember owner now entry) : isDispatching entry = false := by
  obtain ⟨record, hrecord, hknown⟩ := (Option.any_eq_true _ _).mp h.known
  rw [isDispatching, hrecord, Option.any_some, decide_eq_false_iff_not]
  intro hstate
  rw [hstate] at hknown
  cases hknown

variable {call : Call} {owner : Owner} {batch : Batch} {leader : Entry} {group : QueryGroup} {now : Int}

/-- The leader is one of the members. -/
theorem BufferedGroup.leader_buffered (h : BufferedGroup call owner batch leader group now) :
    BufferedMember owner now leader := by
  have hmem : batch.next_index ∈ group.member_indexes := by
    have hlength := h.several
    rw [h.contiguous, List.mem_range'_1]
    omega
  obtain ⟨entry, hentry, hmember⟩ := h.members _ hmem
  rw [h.next.has_entry, Option.some.injEq] at hentry
  exact hentry ▸ hmember

/-- A grouped entry that is requested goes to the requesting branch, whatever buffer it has. -/
theorem atEntry_requesting {entry : Entry} {nextIndex : Nat} (hstatus : entry.status = .requesting)
    (hgrouped : (orNull entry.query_group_id).isSome = true) :
    atEntry call owner batch nextIndex entry = atRequesting call batch nextIndex := by
  have htruthy : truthy entry.query_group_id = true := by
    cases hid : entry.query_group_id with
    | none => simp [hid, orNull] at hgrouped
    | some id =>
      cases id with
      | nil => simp [hid, orNull] at hgrouped
      | cons u rest => rfl
  simp [atEntry, hstatus, htruthy]

/-- A record that still holds the started and undispatched entries of a batch, in a run without a
provider request. -/
structure Stuck {T : Type} (batch : Batch) (w : QueueWorld T) : Prop where
  kept : ∃ b, batchOf w.state = some b ∧ b.next_index = batch.next_index ∧
    ∀ (i : Nat) (e : Entry), batch.entries[i]? = some e → e.status ≠ .pending →
      isDispatching e = false → b.entries[i]? = some e
  unsent : ∀ event ∈ w.log, requestOf event = none

/-- The commands of workers that are stuck. -/
def Cmd.StuckSafe : Cmd → Prop
  | .mutateOwner callback => ∃ indexes, callback = .markRequestingUnknown indexes
  | .port (.execute _) => False
  | _ => True

/-- The proof outline of workers that are stuck. -/
def stuckOutline (T : Type) (batch : Batch) :
    System.Protocol T Cmd Cmd.Answer JsError ProcessResult (Option Owner) where
  inv := Stuck batch
  pre _ command _ := command.StuckSafe
  rely _ _ _ := True
  post _ _ _ := True

section Stuck

variable {T : Type}

/-- A write of the ports leaves started entries alone. -/
theorem Stuck.ports {w : QueueWorld T} {next : Option Owner} (h : Stuck batch w)
    (hupdate : PortUpdate w.state next) : Stuck batch (w.env next) := by
  obtain ⟨b, hb, hnext, hentries⟩ := h.kept
  have hrel := hupdate.2
  rw [hb] at hrel
  generalize hb' : batchOf next = after at hrel
  cases hrel with
  | @some _ b' hbatch =>
    refine ⟨⟨b', hb', hbatch.next_index.trans hnext, fun i e he hstarted hquiet => ?_⟩, ?_⟩
    · have hold := hentries i e he hstarted hquiet
      have hlt : i < b'.entries.length := by
        rw [hbatch.length]
        exact (List.getElem?_eq_some_iff.mp hold).1
      have hnew := List.getElem?_eq_getElem hlt
      rw [hnew, (hbatch.entries hold hnew).started hstarted]
    · intro event hmem
      rcases List.mem_cons.mp hmem with rfl | hmem
      · rfl
      · exact h.unsent event hmem

/-- Marking leaves undispatched entries alone. -/
theorem Stuck.act {t : T} {command : Cmd} {w : QueueWorld T} {answer : command.Answer}
    {next : Option Owner} (h : Stuck batch w) (hsafe : command.StuckSafe)
    (heffect : Effect call command w.state answer next) :
    Stuck batch (w.act t command answer next) := by
  have hunsent : ∀ event ∈ (w.act t command answer next).log, requestOf event = none := by
    intro event hmem
    rcases List.mem_cons.mp hmem with rfl | hmem
    · cases command with
      | port query => cases query <;> first | rfl | exact absurd hsafe id
      | _ => rfl
    · exact h.unsent event hmem
  have hsame : next = w.state → Stuck batch (w.act t command answer next) := by
    rintro rfl
    exact ⟨h.kept, hunsent⟩
  cases command with
  | getOwner => exact hsame heffect.2
  | port query => exact hsame heffect
  | now => exact hsame heffect
  | randomUUID => exact hsame heffect
  | mutateOwner callback =>
    rcases effect_mutateOwner heffect with ⟨now, record, hrun, _, rfl⟩ | ⟨_, hkept⟩
    · obtain ⟨indexes, rfl⟩ := hsafe
      obtain ⟨current, before, hstate, hbefore, rfl⟩ := markRequestingUnknown_store hrun
      obtain ⟨b, hb, hnext, hentries⟩ := h.kept
      rw [hstate, batchOf_some, hbefore, Option.some.injEq] at hb
      subst hb
      refine ⟨⟨_, rfl, hnext, fun i e he hstarted hquiet => ?_⟩, hunsent⟩
      have hmark : markEntry now e = e := by
        rw [markEntry, if_neg (by simp [hquiet])]
      simp only [markEntries_get, hentries i e he hstarted hquiet, Option.map_some, hmark, ite_self]
    · exact hsame hkept

theorem stuckSafe_prepare {preparation : Preparation} {failure : Code}
    {proceed : PortResult → Program (Option ProcessResult)}
    (hproceed : ∀ prepared, (proceed prepared).Only Cmd.StuckSafe fun _ => True) :
    (prepare preparation failure proceed).Only Cmd.StuckSafe fun _ => True := by
  refine ⟨trivial, fun answer => ?_⟩
  cases answer with
  | error error => trivial
  | ok prepared =>
    cases prepared with
    | none => trivial
    | some prepared =>
      by_cases hok : prepared.ok = true
      · simpa [hok] using hproceed prepared
      · simp [hok, Prog.Only]

theorem stuckSafe_preparations : preparations.Only Cmd.StuckSafe fun _ => True := by
  refine ⟨trivial, fun answer => ?_⟩
  refine Prog.only_bind (Prog.only_ofExcept fun _ _ => ⟨trivial, fun initial => ?_⟩)
  refine Prog.only_bind (Prog.only_ofExcept fun initialOwner _ => ?_)
  split
  · refine stuckSafe_prepare fun _ => ⟨trivial, fun answer => ?_⟩
    refine Prog.only_bind (Prog.only_ofExcept fun afterPolicy _ => ?_)
    split
    · refine stuckSafe_prepare fun prepared => ?_
      split
      · trivial
      · exact stuckSafe_prepare fun _ => trivial
    · trivial
  · trivial

theorem stuckSafe_atRequesting {nextIndex : Nat} :
    (atRequesting call batch nextIndex).Only Cmd.StuckSafe fun _ => True := by
  unfold atRequesting
  simp only
  split
  · refine ⟨⟨_, rfl⟩, fun answer => Prog.only_bind (Prog.only_ofExcept fun _ _ => ?_)⟩
    refine ⟨trivial, fun answer => Prog.only_bind (Prog.only_ofExcept fun _ _ => ?_)⟩
    exact ⟨trivial, fun answer => Prog.only_bind (Prog.only_ofExcept fun _ _ => trivial)⟩
  · trivial

variable {calls : T → Call}

/-- The rule for programs of stuck workers. -/
theorem stuck_wp {t : T} {w : QueueWorld T} {program : Program (Option ProcessResult)}
    (h : program.Only Cmd.StuckSafe fun _ => True) :
    System.wp (stuckOutline T batch) (queue calls) t program
      (System.ending (stuckOutline T batch) t) (fun _ _ => True) w := by
  refine System.wp_only (fun _ _ _ _ _ _ => trivial)
    (fun c hc w hinv => ⟨hc, fun _ _ _ _ => trivial⟩) h (fun value _ w' _ _ => ?_)
    fun _ _ _ _ => trivial
  cases value <;> trivial

/-- Whatever a worker reads, its iteration stays at the requested entry. -/
theorem stuck_iteration (hentry : batch.entries[batch.next_index]? = some leader)
    (hrequesting : leader.status = .requesting) (hquiet : isDispatching leader = false)
    (hgrouped : (orNull leader.query_group_id).isSome = true) (t : T) (w : QueueWorld T) :
    System.wp (stuckOutline T batch) (queue calls) t (iteration (calls t))
      (System.ending (stuckOutline T batch) t) (fun _ _ => True) w := by
  refine fun w₁ _ hinv => ⟨trivial, fun answer next heffect _ => ?_⟩
  rcases heffect.1 with rfl | ⟨error, rfl⟩
  · obtain ⟨b, hb, hnext, hentries⟩ := hinv.kept
    obtain ⟨current, hcurrent, hbatch⟩ := Option.bind_eq_some_iff.mp hb
    have hleader : b.entries[b.next_index]? = some leader := by
      rw [hnext]
      exact hentries _ _ hentry (by simp [hrequesting]) hquiet
    have hbound : ¬ b.entries.length ≤ b.next_index := by
      have hlt := (List.getElem?_eq_some_iff.mp hleader).1
      omega
    refine stuck_wp ?_
    simp only [hcurrent, Prog.ofExcept_ok, Prog.ret_bind]
    by_cases hmatches : (calls t).ownerMatches current = true
    · by_cases hcollecting : (calls t).isCollecting current = true
      · simp only [hmatches, hbatch, hcollecting, Option.filter_some, if_true, hbound, if_false,
          hleader, atEntry_requesting hrequesting hgrouped]
        exact stuckSafe_atRequesting
      · simp [hmatches, hbatch, hcollecting, Prog.Only]
    · simp [hmatches, finished, Prog.Only]
  · exact fun _ _ _ => trivial

/-- In every run from a record whose next entry is a requested group member with a known response,
every started and undispatched entry stays as it is, and no worker calls `execute`. -/
theorem stuck_reachable [DecidableEq T] {start : Option Owner} (hstart : batchOf start = some batch)
    (hentry : batch.entries[batch.next_index]? = some leader)
    (hrequesting : leader.status = .requesting) (hquiet : isDispatching leader = false)
    (hgrouped : (orNull leader.query_group_id).isSome = true)
    {cfg : Config T Cmd Cmd.Answer JsError ProcessResult (Option Owner)}
    (hreach : (queue calls).Reachable start cfg) : Stuck batch cfg.world := by
  have hsound : System.Sound (queue calls) (stuckOutline T batch) start := by
    constructor
    · exact fun _ _ => trivial
    · exact fun _ _ _ _ _ _ => trivial
    · exact ⟨⟨batch, hstart, rfl, fun i e he _ _ => he⟩, fun event hmem => by cases hmem⟩
    · exact fun t c w r s' hinv hpre heffect => ⟨hinv.act hpre heffect, fun _ _ => trivial⟩
    · intro w s' hinv henv
      refine ⟨?_, fun _ => trivial⟩
      cases henv with
      | ports hupdate => exact hinv.ports hupdate
      | providerResult hstarted _ => cases hinv.unsent _ hstarted
    · intro t outcome w hinv _
      refine ⟨⟨hinv.kept, fun event hmem => ?_⟩, fun _ => trivial⟩
      rcases List.mem_cons.mp hmem with rfl | hmem
      · rfl
      · exact hinv.unsent event hmem
    · exact fun t w _ => stuck_wp stuckSafe_preparations
    · exact fun t w _ => stuck_iteration hentry hrequesting hquiet hgrouped t w
  exact (hsound.reachable hreach).1

end Stuck

/-- A loop that starts at such a record only returns by failing the owner. -/
theorem BufferedGroup.loop_fails (h : BufferedGroup call owner batch leader group now)
    {trace : Trace} {result : ProcessResult} {s' : Option Owner}
    (hrun : Prog.Loops (Effect call) (iteration call) (iteration call) (some owner) trace
      (.ok result) s') :
    result.code = .REQUEST_OUTCOME_UNKNOWN_NO_RETRY ∧
      ∃ message answer, ⟨.port (.failOwner .REQUEST_OUTCOME_UNKNOWN_NO_RETRY message), answer⟩ ∈ trace := by
  have hgrouped : (orNull leader.query_group_id).isSome = true := by
    obtain ⟨id, hid, _⟩ := h.grouped
    rw [hid, Option.isSome_some]
  obtain ⟨worker, hworker, hnonempty, hother⟩ := h.restarted
  have hfails : ∀ {trace outcome s'}, Solo call (iteration call) (some owner) trace (.ok outcome) s' →
      (∃ r, outcome = some r ∧ r.code = .REQUEST_OUTCOME_UNKNOWN_NO_RETRY) ∧
        ∃ message answer,
          ⟨.port (.failOwner .REQUEST_OUTCOME_UNKNOWN_NO_RETRY message), answer⟩ ∈ trace := by
    intro trace outcome s' hiteration
    rcases Solo.iteration h.next hiteration with ⟨error, herror, _⟩ | ⟨rest, rfl, hrun⟩
    · cases herror
    rw [atEntry_requesting h.leader_buffered.requesting hgrouped] at hrun
    simp only [atRequesting, hworker, Option.getD_some, hnonempty, hother, ne_eq, not_false_eq_true,
      and_self, if_true] at hrun
    rcases Solo.mutateOwner_bind hrun with ⟨error, herror, _⟩ | ⟨answer, s₁, rest, rfl, _, hfail⟩
    · cases herror
    rcases Solo.port_bind hfail with ⟨error, herror, _⟩ | ⟨_, rest, rfl, hreport⟩
    · cases herror
    rcases Solo.port_bind hreport with ⟨error, herror, _⟩ | ⟨_, rest, rfl, hret⟩
    · cases herror
    obtain ⟨rfl, houtcome, rfl⟩ := Prog.runs_ret_iff.mp hret
    cases houtcome
    exact ⟨⟨_, rfl, rfl⟩, _, _, List.mem_cons_of_mem _ (List.mem_cons_of_mem _ List.mem_cons_self)⟩
  cases hrun with
  | finish hrun =>
    obtain ⟨⟨r, hr, hcode⟩, hfailed⟩ := hfails hrun
    cases hr
    exact ⟨hcode, hfailed⟩
  | again hrun _ =>
    obtain ⟨⟨r, hr, _⟩, _⟩ := hfails hrun
    cases hr

/-- A group's result is never recovered from its buffer: from every such record, in every run of any
number of `process` calls, every member stays requested, and a restarted worker whose loop returns
has failed the owner. -/
theorem group_recovery_never (h : BufferedGroup call owner batch leader group now) :
    (∀ (T : Type) [DecidableEq T] (calls : T → Call)
      (cfg : Config T Cmd Cmd.Answer JsError ProcessResult (Option Owner)),
      (queue calls).Reachable (some owner) cfg → ∀ i ∈ group.member_indexes,
        ∃ b e, batchOf cfg.world.state = some b ∧ b.entries[i]? = some e ∧ e.status = .requesting) ∧
      ∀ trace result s', Prog.Loops (Effect call) (iteration call) (iteration call) (some owner)
        trace (.ok result) s' → result.code = .REQUEST_OUTCOME_UNKNOWN_NO_RETRY ∧
          ∃ message answer,
            ⟨.port (.failOwner .REQUEST_OUTCOME_UNKNOWN_NO_RETRY message), answer⟩ ∈ trace := by
  refine ⟨fun T _ calls cfg hreach i hi => ?_, fun _ _ _ hrun => h.loop_fails hrun⟩
  have hleader := h.leader_buffered
  obtain ⟨id, hid, _⟩ := h.grouped
  have hbatch : batchOf (some owner) = some batch := h.next.has_batch
  have hstuck := stuck_reachable hbatch h.next.has_entry hleader.requesting
    hleader.not_dispatching (by rw [hid, Option.isSome_some]) hreach
  obtain ⟨b, hb, _, hentries⟩ := hstuck.kept
  obtain ⟨entry, hentry, hmember⟩ := h.members i hi
  have hstarted : entry.status ≠ .pending := by simp [hmember.requesting]
  exact ⟨b, entry, hb, hentries i entry hentry hstarted hmember.not_dispatching, hmember.requesting⟩

/-- A worker that stopped right after its group's `execute`. -/
def interruptedRun : Config Unit Cmd Cmd.Answer JsError ProcessResult (Option Owner) :=
  replayQueue (fun _ => sampleCall "first") (fun _ => samplePorts) 1000 (List.replicate 20 ())
    (some groupedOwner)

/-- The record it left once `onProviderResult` committed the physical result. -/
def bufferedRecord : Option Owner :=
  ((recordResultBuffer (sampleCall "first") [0, 1] (attemptId replayUuid) sampleResult .physical 1000
    interruptedRun.world.state).answer interruptedRun.world.state).2

/-- That record comes up in a run of the first worker. -/
theorem bufferedRecord_reachable : ∃ cfg,
    (queue fun _ : Unit => sampleCall "first").Reachable (some groupedOwner) cfg ∧
      cfg.world.state = bufferedRecord := by
  have hstarted : ∃ request answer pre post earlier,
      interruptedRun.world.log = .act () (.port (.execute request)) answer pre post :: earlier ∧
        request.indexes = [0, 1] ∧ request.providerAttemptId = attemptId replayUuid ∧
        request.projectionKind = .physical := ⟨_, _, _, _, _, rfl, rfl, rfl, rfl⟩
  obtain ⟨request, answer, pre, post, earlier, hlog, hindexes, hid, hkind⟩ := hstarted
  have hreach : (queue fun _ : Unit => sampleCall "first").Reachable (some groupedOwner)
      interruptedRun := replayQueue_reachable _ _ _ _ _
  have hmem : Event.act () (.port (.execute request)) answer pre post ∈ interruptedRun.world.log := by
    rw [hlog]
    exact List.mem_cons_self
  unfold bufferedRecord
  cases hrun : recordResultBuffer (sampleCall "first") [0, 1] (attemptId replayUuid) sampleResult
      .physical 1000 interruptedRun.world.state with
  | store next =>
    rw [← hindexes, ← hid, ← hkind] at hrun
    exact ⟨_, hreach.tail (.env (.providerResult hmem hrun)), rfl⟩
  | keep => exact ⟨_, hreach, rfl⟩
  | raise error => exact ⟨_, hreach, rfl⟩

/-- A restarted worker on that record. -/
def restartedRun : Config Unit Cmd Cmd.Answer JsError ProcessResult (Option Owner) :=
  replayQueue (fun _ => sampleCall "restarted") (fun _ => samplePorts) 2000 (List.replicate 40 ())
    bufferedRecord

/-- The owner of that record. -/
def bufferedOwner : Owner := bufferedRecord.get (by decide +kernel)

theorem bufferedRecord_eq : bufferedRecord = some bufferedOwner := (Option.some_get _).symm

/-- Its batch. -/
def bufferedBatch : Batch := bufferedOwner.batch.get (by decide +kernel)

/-- Its leader. -/
def bufferedLeader : Entry := bufferedBatch.entries.get ⟨0, by decide +kernel⟩

theorem bufferedOwner_group : BufferedGroup (sampleCall "restarted") bufferedOwner bufferedBatch
    bufferedLeader sampleGroup 2000 := by
  have hbatch : bufferedOwner.batch = some bufferedBatch := (Option.some_get _).symm
  constructor
  · exact ⟨rfl, by decide +kernel, hbatch, List.getElem?_eq_getElem _⟩
  · decide +kernel
  · exact ⟨units "group", by decide +kernel, by rfl⟩
  · decide +kernel
  · decide
  · decide +kernel
  · intro i hi
    have hlt : i < bufferedBatch.entries.length := by
      have hlength : bufferedBatch.entries.length = 2 := by decide +kernel
      simp only [sampleGroup, List.mem_cons, List.not_mem_nil, or_false] at hi
      omega
    refine ⟨_, List.getElem?_eq_getElem hlt, ?_⟩
    have hall : bufferedBatch.entries.all fun e => e.status = .requesting &&
        e.provider_attempt.any (hasKnownResponse ·.state) &&
        e.result_buffer.any (isResumable bufferedOwner 2000) := by decide +kernel
    have hentry := List.all_eq_true.mp hall _ (List.getElem_mem hlt)
    simp only [Bool.and_eq_true, decide_eq_true_eq] at hentry
    exact ⟨hentry.1.1, hentry.1.2, hentry.2⟩
  · exact ⟨"first", by decide +kernel, by decide, by decide⟩

/-- A restarted worker finds the buffered result of both members, and gives up on them. -/
theorem group_recovery_restartedRun :
    (∃ cfg, (queue fun _ : Unit => sampleCall "first").Reachable (some groupedOwner) cfg ∧
      cfg.world.state = some bufferedOwner) ∧
    BufferedGroup (sampleCall "restarted") bufferedOwner bufferedBatch bufferedLeader sampleGroup
        2000 ∧
      resultOf (restartedRun.pool ()) =
        some ⟨false, .REQUEST_OUTCOME_UNKNOWN_NO_RETRY, none, none⟩ ∧
      (batchOf restartedRun.world.state).map (·.entries.map (·.status)) =
        some [.requesting, .requesting] :=
  ⟨bufferedRecord_eq ▸ bufferedRecord_reachable, bufferedOwner_group, by decide +kernel,
    by decide +kernel⟩

/-- The members of the replayed record stay requested. -/
theorem group_recovery_never_restartedRun :
    (∃ b e, batchOf restartedRun.world.state = some b ∧ b.entries[0]? = some e ∧
      e.status = .requesting) ∧
    ∃ b e, batchOf restartedRun.world.state = some b ∧ b.entries[1]? = some e ∧
      e.status = .requesting := by
  have hreach : (queue fun _ : Unit => sampleCall "restarted").Reachable (some bufferedOwner)
      restartedRun := bufferedRecord_eq ▸ replayQueue_reachable _ _ _ _ _
  have hstays := (group_recovery_never bufferedOwner_group).1 Unit _ restartedRun hreach
  exact ⟨hstays 0 (by decide), hstays 1 (by decide)⟩

end SellerAgents.BatchQueue
