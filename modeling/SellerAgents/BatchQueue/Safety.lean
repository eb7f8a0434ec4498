import SellerAgents.BatchQueue.Replay
import SellerAgents.BatchQueue.Soundness

open SellerAgents.Js SellerAgents.Execution Concurrent

namespace SellerAgents.BatchQueue

variable {T : Type}

/-- In an ordered history, the intents of a call of `execute` were held before it. -/
theorem DispatchOrdered.intended {log later earlier : List (QueueEvent T)} {event : QueueEvent T}
    (h : DispatchOrdered log) (hlog : log = later ++ event :: earlier) {request : ExecuteRequest}
    (hrequest : requestOf event = some request) : Intended request earlier := by
  induction later generalizing log with
  | nil =>
    rw [hlog] at h
    exact h.1 request hrequest
  | cons first rest ih =>
    rw [hlog] at h
    exact ih h.2 rfl

variable [DecidableEq T]

/-- A run that replays one worker over a batch of one entry. -/
def sampleRun : Config Unit Cmd Cmd.Answer JsError ProcessResult (Option Owner) :=
  replayQueue (fun _ => sampleCall "worker") (fun _ => samplePorts) 1000 (List.replicate 40 ())
    (some (sampleOwner (sampleBatch [sampleEntry] [])))

/-- At most one provider call: in every run of any number of `process` calls on one owner, from any
record, with any answers of the ports, stopped anywhere, every entry is covered by at most one call
of `execute`, and an earlier record of the run held the committed intents of all the entries it
covers, under its provider attempt id. -/
theorem execute_at_most_once (calls : T → Call) (start : Option Owner)
    {cfg : Config T Cmd Cmd.Answer JsError ProcessResult (Option Owner)}
    (hreach : (queue calls).Reachable start cfg) :
    (∀ index, uses .dispatch index cfg.world.log ≤ 1) ∧
      ∀ later earlier t request answer pre post,
        cfg.world.log = later ++ .act t (.port (.execute request)) answer pre post :: earlier →
        ∃ event ∈ earlier,
          HoldsIntent (recordAfter event) request.providerAttemptId request.indexes := by
  have hinv : QueueInv start cfg.world := ((outline_sound calls start).reachable hreach).1
  exact ⟨hinv.once .dispatch, fun later earlier t request answer pre post hlog =>
    hinv.ordered.intended hlog rfl⟩

/-- The replayed worker calls `execute` for its entry, and only once. -/
theorem execute_at_most_once_sampleRun :
    uses .dispatch 0 sampleRun.world.log = 1 ∧ ∀ index, uses .dispatch index sampleRun.world.log ≤ 1 :=
  ⟨by decide +kernel, (execute_at_most_once _ _ (replayQueue_reachable _ _ _ _ _)).1⟩

/-- Every run moves the record forward. -/
theorem steps_stateProgress {calls : T → Call} {start : Option Owner}
    {cfg cfg' : Config T Cmd Cmd.Answer JsError ProcessResult (Option Owner)}
    (hreach : (queue calls).Reachable start cfg) (hsteps : (queue calls).Steps cfg cfg') :
    StateProgress cfg.world.state cfg'.world.state := by
  refine (outline_sound calls start).steps_induct
    (I := fun w => StateProgress cfg.world.state w.state) ?_ ?_ ?_ hreach (.refl _) hsteps
  · intro t c w r s' _ hprogress hpre heffect
    exact hprogress.trans (Pushes.act hpre heffect).state
  · exact fun w s' _ hprogress henv => hprogress.trans henv.stateProgress
  · exact fun t o w _ hprogress _ => hprogress

/-- The completed prefix: in every run from a batch whose next index is 0, every entry below the
next index is complete; along the run the next index does not decrease and the status, report,
request id and http status of a complete entry stay; and `finalizeOwner` is only called when every
entry is complete. -/
theorem completed_prefix (calls : T → Call) {start : Option Owner} {b₀ : Batch}
    (hstart : batchOf start = some b₀) (hnext : b₀.next_index = 0)
    {cfg : Config T Cmd Cmd.Answer JsError ProcessResult (Option Owner)}
    (hreach : (queue calls).Reachable start cfg) :
    (∃ b, batchOf cfg.world.state = some b ∧
      (∀ (i : Nat) (e : Entry), i < b.next_index → b.entries[i]? = some e → e.status = .complete) ∧
      ∀ cfg', (queue calls).Steps cfg cfg' → ∃ b', batchOf cfg'.world.state = some b' ∧
        b.next_index ≤ b'.next_index ∧
        ∀ (i : Nat) (e : Entry), b.entries[i]? = some e → e.status = .complete →
          ∃ e' : Entry, b'.entries[i]? = some e' ∧ e'.status = .complete ∧
            e'.report_text = e.report_text ∧ e'.request_id = e.request_id ∧
            e'.http_status = e.http_status) ∧
      ∀ t owner entries next, cfg.pool t = .running (.act (.port (.finalizeOwner owner entries)) next) →
        (∀ e ∈ entries, e.status = .complete) ∧
          ∀ b, batchOf cfg.world.state = some b → ∀ e ∈ b.entries, e.status = .complete := by
  have hsound := outline_sound calls start
  have hinv : QueueInv start cfg.world := (hsound.reachable hreach).1
  have hprefixed : Prefixed start := by
    intro b hb i e hi _
    rw [hstart, Option.some.injEq] at hb
    subst hb
    omega
  obtain ⟨b, hb, _⟩ := (steps_stateProgress .refl hreach).target hstart
  refine ⟨⟨b, hb, hinv.prefixed hprefixed b hb, fun cfg' hsteps => ?_⟩, ?_⟩
  · obtain ⟨b', hb', hprogress⟩ := (steps_stateProgress hreach hsteps).target hb
    refine ⟨b', hb', hprogress.next_index, fun i e he hcomplete => ?_⟩
    obtain ⟨e', he', hentry⟩ := hprogress.target he
    exact ⟨e', he', hentry.complete hcomplete, hentry.frozen hcomplete⟩
  · intro t owner entries next hrun
    have hpre := hsound.pre_of_step hreach hrun hprefixed
    exact ⟨hpre.2, hpre.1⟩

/-- The replayed worker completes its entry, and it stays complete. -/
theorem completed_prefix_sampleRun :
    ∃ b, batchOf sampleRun.world.state = some b ∧ b.next_index = 1 ∧
      ∀ (i : Nat) (e : Entry), i < b.next_index → b.entries[i]? = some e →
        e.status = .complete := by
  obtain ⟨⟨b, hb, hprefix, _⟩, _⟩ := completed_prefix (fun _ => sampleCall "worker") rfl rfl
    (replayQueue_reachable (fun _ => sampleCall "worker") (fun _ => samplePorts) 1000
      (List.replicate 40 ()) (some (sampleOwner (sampleBatch [sampleEntry] []))))
  have hnext : (batchOf sampleRun.world.state).map (·.next_index) = some 1 := by decide +kernel
  rw [show batchOf sampleRun.world.state = some b from hb] at hnext
  exact ⟨b, hb, Option.some.inj hnext, hprefix⟩

end SellerAgents.BatchQueue
