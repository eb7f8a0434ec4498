import SellerAgents.BatchQueue.AttemptMoves
import SellerAgents.BatchQueue.Replay
import SellerAgents.BatchQueue.Soundness

open SellerAgents.Js SellerAgents.Execution Concurrent

namespace SellerAgents.BatchQueue

/-- Two entries hold attempts of one physical request. -/
def SameRequest (e e' : Entry) : Prop :=
  ∃ id, e.provider_attempt_id = some id ∧ e'.provider_attempt_id = some id

/-- No entry of the request of an entry stands at its intent. -/
def Cleared (record : Option Owner) (i : Nat) : Prop :=
  ∀ e, entryAt record i = some e → ∀ j e', entryAt record j = some e' → j = i ∨ SameRequest e e' →
    isDispatching e' = false

variable {call : Call} {e : Entry} {id : JsString} {indexes : List Nat} {i : Nat}
  {current next : Option Owner} {T : Type} {event : QueueEvent T} {w : QueueWorld T} {t : T}

/-- Steps that move attempts forward keep a cleared entry cleared. -/
theorem Cleared.moves (h : Cleared current i) (hmoves : RecordMoves current next) :
    Cleared next i := by
  intro e he j e' he' hsame
  obtain ⟨old, hold, hmove⟩ := hmoves.moves i e he
  obtain ⟨old', hold', hmove'⟩ := hmoves.moves j e' he'
  have hbefore : isDispatching old' = false := by
    refine h old hold j old' hold' (hsame.imp_right ?_)
    rintro ⟨id, hid, hid'⟩
    exact ⟨id, hmove.id.symm.trans hid, hmove'.id.symm.trans hid'⟩
  by_contra hdispatching
  have hdispatching' := hmove'.isDispatching (Bool.not_eq_false _ ▸ hdispatching)
  rw [hbefore] at hdispatching'
  cases hdispatching'

/-- A commit of a new id for other entries keeps a cleared entry cleared. -/
theorem Cleared.commits (h : Cleared current i) (hcommits : Commits id indexes current next)
    (hi : i ∉ indexes)
    (hfresh : ∀ j e, entryAt current j = some e → e.provider_attempt_id ≠ some id) :
    Cleared next i := by
  intro e he j e' he' hsame
  rw [hcommits.others i hi] at he
  by_cases hj : j ∈ indexes
  · obtain ⟨-, last, -, -, hlast, -, -, hid, -⟩ := hcommits.named j hj
    rw [he', Option.some.injEq] at hlast
    subst hlast
    rcases hsame with rfl | ⟨shared, hshared, hshared'⟩
    · exact absurd hj hi
    · rw [hid, Option.some.injEq] at hshared'
      exact absurd (hshared'.symm ▸ hshared) (hfresh i e he)
  · rw [hcommits.others j hj] at he'
    exact h e he j e' he' hsame

/-- The entries that an event marked. -/
def marksOf : QueueEvent T → List Nat
  | .act _ (.mutateOwner (.markRequestingUnknown indexes)) (.ok _) _ _ => indexes
  | _ => []

/-- The entries that some thread of a run marked. -/
def markedIn (log : List (QueueEvent T)) : List Nat := log.flatMap marksOf

theorem MarkedBy.mem_markedIn {log : List (QueueEvent T)} (h : MarkedBy t i log) :
    i ∈ markedIn log := by
  obtain ⟨answer, pre, post, hmem⟩ := h
  exact List.mem_flatMap.mpr ⟨_, hmem, by simp [marksOf]⟩

/-- The entries of a record with their indexes. -/
def indexedEntries (record : Option Owner) : List (Entry × Nat) :=
  ((batchOf record).map (·.entries.zipIdx)).getD []

theorem mem_indexedEntries {record : Option Owner} :
    (e, i) ∈ indexedEntries record ↔ entryAt record i = some e := by
  unfold indexedEntries entryAt
  cases batchOf record with
  | none => simp
  | some b => simp [List.mem_zipIdx_iff_getElem?]

/-- No response is stored over a known final state. -/
def orderlyResponse (call : Call) (indexes : List Nat) (id : JsString) (record : Option Owner) : Bool :=
  !(call.live record && indexes.all fun i => (entryAt record i).any (·.holds id)) ||
    indexes.all fun i => (entryAt record i).all fun e => !e.isSettled

/-- A mark reaches every entry of the request that stands at its intent. -/
def orderlyMark (call : Call) (indexes : List Nat) (record : Option Owner) : Bool :=
  indexes.all fun i => (entryAt record i).all fun e =>
    (indexedEntries record).all fun (e', j) =>
      !isDispatching e' ||
        !(j == i || e.provider_attempt_id.isSome && e'.provider_attempt_id == e.provider_attempt_id) ||
        call.live record && indexes.contains j

/-- An intent is committed under a new id, for entries that nobody has given up. -/
def orderlyCommit (indexes : List Nat) (id : JsString) (w : QueueWorld T) : Bool :=
  ((indexedEntries w.state).all fun (e, _) => e.provider_attempt_id != some id) &&
    indexes.all fun i => !(markedIn w.log).contains i

/-- The condition on the steps of a run. -/
def orderly (calls : T → Call) (t : T) : (command : Cmd) → QueueWorld T → command.Answer → Bool
  | .mutateOwner (.recordResponse indexes id _), w, .ok _ =>
    orderlyResponse (calls t) indexes id w.state
  | .mutateOwner (.markRequestingUnknown indexes), w, .ok _ => orderlyMark (calls t) indexes w.state
  | .mutateOwner (.commitAttemptIntent id attempts), w, .ok _ =>
    orderlyCommit (attempts.map (·.1)) id w
  | _, _, _ => true

/-- The entries after a stored mark. -/
theorem entryAt_marked {owner : Owner} {batch : Batch} (hbatch : owner.batch = some batch)
    (indexes : List Nat) (now : Int) (j : Nat) :
    entryAt (some (withEntries owner batch (indexes.foldl (fun entries index =>
      entries.modify index (markEntry now)) batch.entries))) j =
        (entryAt (some owner) j).map fun e => if j ∈ indexes then markEntry now e else e := by
  have hbefore : batchOf (some owner) = some batch := hbatch
  rw [entryAt_of_batch hbefore, ← markEntries_get]
  rfl

/-- A mark that keeps the record of a live owner found no entry at its intent. -/
theorem markRequestingUnknown_keep {now : Int}
    (h : markRequestingUnknown call indexes now current = .keep) (hlive : call.live current = true)
    {j : Nat} (hj : j ∈ indexes) (he : entryAt current j = some e) : isDispatching e = false := by
  obtain ⟨owner, hcurrent, hguard⟩ := (Option.any_eq_true _ _).mp hlive
  simp only [Bool.and_eq_true] at hguard
  obtain ⟨⟨hmatch, hcollect⟩, hbatch⟩ := hguard
  obtain ⟨batch, hbatch⟩ := Option.isSome_iff_exists.mp hbatch
  subst hcurrent
  rw [entryAt_of_batch (show batchOf (some owner) = some batch from hbatch)] at he
  simp only [markRequestingUnknown, whenLive, hmatch, hcollect, and_self, if_true, hbatch] at h
  split at h
  · cases h
  · next hany =>
    simp only [List.any_eq_true, not_exists, not_and, Bool.not_eq_true] at hany
    simpa [he] using hany j hj

/-- A mark that meets its condition clears its entries. -/
theorem mark_cleared {answer : Option Owner × Bool}
    (heffect : Effect call (.mutateOwner (.markRequestingUnknown indexes)) current (.ok answer) next)
    (horderly : orderlyMark call indexes current = true) (hi : i ∈ indexes) :
    Cleared next i := by
  have hreached : ∀ e, entryAt current i = some e → ∀ j e', entryAt current j = some e' →
      j = i ∨ SameRequest e e' → isDispatching e' = true → call.live current = true ∧ j ∈ indexes := by
    intro e he j e' he' hsame hdispatching
    have hentry := List.all_eq_true.mp horderly i hi
    rw [he, Option.all_some] at hentry
    have hother := List.all_eq_true.mp hentry _ (mem_indexedEntries.mpr he')
    simp only [hdispatching, Bool.not_true, Bool.false_or, Bool.or_eq_true, Bool.not_eq_true',
      Bool.and_eq_true, List.contains_iff_mem] at hother
    rcases hother with hapart | hlive
    · rcases hsame with rfl | ⟨id, hid, hid'⟩
      · simp at hapart
      · simp [hid, hid'] at hapart
    · exact hlive
  rcases heffect with ⟨now, heffect⟩ | ⟨⟨error, herror⟩, -⟩
  swap
  · cases herror
  cases hrun : markRequestingUnknown call indexes now current with
  | raise error =>
    have hraised : Write.Effect current (.ok answer) next (.raise error) := hrun ▸ heffect
    cases hraised.1
  | keep =>
    have hkept : Write.Effect current (.ok answer) next .keep := hrun ▸ heffect
    rw [hkept.2]
    intro e he j e' he' hsame
    by_contra hdispatching
    rw [Bool.not_eq_false] at hdispatching
    obtain ⟨hlive, hj⟩ := hreached e he j e' he' hsame hdispatching
    rw [markRequestingUnknown_keep hrun hlive hj he'] at hdispatching
    cases hdispatching
  | store last =>
    have hstored : Write.Effect current (.ok answer) next (.store last) := hrun ▸ heffect
    obtain ⟨owner, batch, rfl, hbatch, rfl⟩ := markRequestingUnknown_store hrun
    rw [hstored.2]
    intro e he j e' he' hsame
    rw [entryAt_marked hbatch] at he he'
    obtain ⟨old, hold, rfl⟩ := Option.map_eq_some_iff.mp he
    obtain ⟨old', hold', rfl⟩ := Option.map_eq_some_iff.mp he'
    split
    · exact (markEntry_moves now old').2
    · next hj =>
      have hid : ∀ (k : Nat) (x : Entry),
          (if k ∈ indexes then markEntry now x else x).provider_attempt_id = x.provider_attempt_id := by
        intro k x
        split
        · exact (markEntry_moves now x).1.id
        · exact Eq.refl _
      have hsame' : j = i ∨ SameRequest old old' := by
        refine hsame.imp_right ?_
        rintro ⟨id, hold, hold'⟩
        exact ⟨id, (hid i old).symm.trans hold, (hid j old').symm.trans hold'⟩
      by_contra hdispatching
      exact hj (hreached old hold j old' hold' hsame' (Bool.not_eq_false _ ▸ hdispatching)).2

/-- The invariant of the runs that meet the condition. -/
structure AttemptInv (w : QueueWorld T) : Prop where
  fit : FitRecord w.state
  unattempted : ∀ t i, GrantedTo t i w.log → uses .intent i w.log = 0 → ∀ e, entryAt w.state i = some e →
    e.provider_attempt = none
  cleared : ∀ i ∈ markedIn w.log, Cleared w.state i
  reported : ∀ t result record, .finish t (.ok result) record ∈ w.log →
    result.code = .REQUEST_OUTCOME_UNKNOWN_NO_RETRY → ∃ i, MarkedBy t i w.log ∧ Cleared record i

/-- Every attempt of a record is in a later one, under its id, and moved forward. -/
def Onward (current next : Option Owner) : Prop :=
  ∀ i e record, entryAt current i = some e → e.provider_attempt = some record →
    ∃ e' record', entryAt next i = some e' ∧ e'.provider_attempt_id = e.provider_attempt_id ∧
      e'.provider_attempt = some record' ∧ record.Forward record'

theorem Onward.refl (record : Option Owner) : Onward record record :=
  fun _ e held he hheld => ⟨e, held, he, Eq.refl _, hheld, .refl held⟩

theorem Onward.trans {s s' s'' : Option Owner} (h : Onward s s') (h' : Onward s' s'') : Onward s s'' := by
  intro i e record he hheld
  obtain ⟨e', record', he', hid', hheld', hforward⟩ := h i e record he hheld
  obtain ⟨e'', record'', he'', hid'', hheld'', hforward'⟩ := h' i e' record' he' hheld'
  exact ⟨e'', record'', he'', hid''.trans hid', hheld'', hforward.trans hforward'⟩

theorem RecordMoves.onward (h : RecordMoves current next) :
    Onward current next := by
  intro i e record he hheld
  obtain ⟨e', he'⟩ := h.kept i e he
  obtain ⟨old, hold, hmoves⟩ := h.moves i e' he'
  rw [he, Option.some.injEq] at hold
  subst hold
  obtain ⟨record', hheld', hforward⟩ := hmoves.some record hheld
  exact ⟨e', record', he', hmoves.id, hheld', hforward⟩

variable {calls : T → Call} {start : Option Owner}

/-- An entry that was granted and has no intent yet had no attempt before the event. -/
theorem AttemptInv.before (h : AttemptInv w) (hpush : Pushes start w event next)
    (hgranted : GrantedTo t i (event :: w.log)) (hunused : uses .intent i (event :: w.log) = 0)
    (he : entryAt w.state i = some e) : e.provider_attempt = none := by
  obtain ⟨event', hmem, hthread, hcovers⟩ := hgranted
  rcases List.mem_cons.mp hmem with rfl | hold
  · obtain ⟨⟨b, entry, hb, hentry, hpending⟩, -⟩ := hpush.grants i hcovers
    rw [entryAt_of_batch hb, hentry, Option.some.injEq] at he
    subst he
    exact (h.fit.get hb hentry).pending hpending
  · refine h.unattempted t i ⟨event', hold, hthread, hcovers⟩ ?_ e he
    by_cases hcovered : i ∈ coveredBy .intent event
    · rw [uses_cons_of_mem hcovered] at hunused
      omega
    · rwa [uses_cons_of_notMem hcovered] at hunused

/-- The reports of the earlier events stay true. -/
theorem AttemptInv.reported_cons (h : AttemptInv w)
    (hnew : ∀ t result record, event = .finish t (.ok result) record →
      result.code = .REQUEST_OUTCOME_UNKNOWN_NO_RETRY →
        ∃ i, MarkedBy t i (event :: w.log) ∧ Cleared record i) (t : T) (result : ProcessResult)
    (record : Option Owner) (hmem : .finish t (.ok result) record ∈ event :: w.log)
    (hcode : result.code = .REQUEST_OUTCOME_UNKNOWN_NO_RETRY) :
    ∃ i, MarkedBy t i (event :: w.log) ∧ Cleared record i := by
  rcases List.mem_cons.mp hmem with heq | hold
  · exact hnew t result record heq.symm hcode
  · obtain ⟨i, hmarked, hcleared⟩ := h.reported t result record hold hcode
    exact ⟨i, hmarked.mono (List.suffix_cons _ _), hcleared⟩

/-- An event that moves the attempts of the record keeps the invariant. -/
theorem AttemptInv.move (h : AttemptInv w) (hpush : Pushes start w event next)
    (hmoves : RecordMoves w.state next) (hmarks : ∀ i ∈ marksOf event, Cleared next i)
    (hreport : ∀ t result record, event = .finish t (.ok result) record →
      result.code = .REQUEST_OUTCOME_UNKNOWN_NO_RETRY →
        ∃ i, MarkedBy t i (event :: w.log) ∧ Cleared record i) :
    AttemptInv ⟨next, event :: w.log⟩ where
  fit := hmoves.fit
  unattempted t i hgranted hunused e he := by
    obtain ⟨old, hold, hmove⟩ := hmoves.moves i e he
    exact hmove.none (h.before hpush hgranted hunused hold)
  cleared i hi := by
    rcases List.mem_append.mp (show i ∈ marksOf event ++ markedIn w.log from hi) with hnew | hold
    · exact hmarks i hnew
    · exact (h.cleared i hold).moves hmoves
  reported := h.reported_cons hreport

/-- A commit that meets its condition keeps the invariant. -/
theorem AttemptInv.commit (h : AttemptInv w) (hpush : Pushes start w event next)
    (hcommits : Commits id indexes w.state next) (hcovered : coveredBy .intent event = indexes)
    (horderly : orderlyCommit indexes id w = true) (hmarks : marksOf event = [])
    (hreport : ∀ t result record, event ≠ .finish t (.ok result) record) :
    AttemptInv ⟨next, event :: w.log⟩ where
  fit i e' he' := by
    by_cases hi : i ∈ indexes
    · obtain ⟨-, last, record, -, hlast, -, hstatus, -, hheld, hstate⟩ := hcommits.named i hi
      rw [he', Option.some.injEq] at hlast
      subst hlast
      have hrecord : ∀ record', e'.provider_attempt = some record' → record' = record :=
        fun record' hheld' => (Option.some.inj (hheld.symm.trans hheld')).symm
      refine ⟨fun h => by simp [hstatus] at h, fun _ record' hheld' => ?_, fun record' hheld' => ?_⟩
      · rw [hrecord record' hheld']
        exact ⟨by simp [hstate], by simp [hstate, AttemptState.isKnown]⟩
      · simp [hrecord record' hheld', hstate]
    · rw [hcommits.others i hi] at he'
      exact h.fit i e' he'
  unattempted t i hgranted hunused e he := by
    by_cases hi : i ∈ indexes
    · rw [uses_cons_of_mem (hcovered ▸ hi)] at hunused
      omega
    · rw [hcommits.others i hi] at he
      exact h.before hpush hgranted hunused he
  cleared i hi := by
    have hold : i ∈ markedIn w.log := by
      have happend : i ∈ marksOf event ++ markedIn w.log := hi
      rwa [hmarks, List.nil_append] at happend
    obtain ⟨hfresh, hunmarked⟩ := Bool.and_eq_true_iff.mp horderly
    refine (h.cleared i hold).commits hcommits (fun hmem => ?_) fun j e he => ?_
    · have hnot := List.all_eq_true.mp hunmarked i hmem
      simp [hold] at hnot
    · simpa using List.all_eq_true.mp hfresh _ (mem_indexedEntries.mpr he)
  reported := h.reported_cons fun t result record heq => absurd heq (hreport t result record)

/-- A commit does not touch the attempts there are. -/
theorem Commits.onward (h : Commits id indexes current next)
    (hnone : ∀ i ∈ indexes, ∀ e, entryAt current i = some e → e.provider_attempt = none) :
    Onward current next := by
  intro i e record he hheld
  by_cases hi : i ∈ indexes
  · simp [hnone i hi e he] at hheld
  · exact ⟨e, record, (h.others i hi).trans he, Eq.refl _, hheld, .refl record⟩

theorem act_marks {command : Cmd} {answer : command.Answer}
    (heffect : Effect (calls t) command w.state answer next)
    (horderly : orderly calls t command w answer = true)
    (hi : i ∈ marksOf (.act t command answer w.state next)) : Cleared next i := by
  cases command with
  | mutateOwner callback =>
    cases callback with
    | markRequestingUnknown indexes =>
      cases answer with
      | ok answer => exact mark_cleared heffect horderly hi
      | error error => simp [marksOf] at hi
    | _ => simp [marksOf] at hi
  | _ => simp [marksOf] at hi

/-- The response to a request that meets its condition moves the record. -/
theorem orderlyResponse_recordMoves {response : ProviderResponse} {now : Int} {next : Owner}
    (hrun : recordResponse call indexes id response now current = .store next)
    (hfit : FitRecord current) (horderly : orderlyResponse call indexes id current = true) :
    RecordMoves current (some next) := by
  obtain ⟨hlive, hholds⟩ := recordResponse_holds hrun
  have hstores : (call.live current &&
      indexes.all fun i => (entryAt current i).any (·.holds id)) = true := by
    rw [hlive, Bool.true_and, List.all_eq_true]
    exact hholds
  rw [orderlyResponse, hstores, Bool.not_true, Bool.false_or, List.all_eq_true] at horderly
  refine recordResponse_recordMoves hrun hfit fun i hi e he => ?_
  have hentry := horderly i hi
  rw [he, Option.all_some] at hentry
  simpa using hentry

/-- A command that meets the condition. -/
theorem AttemptInv.act {command : Cmd} (h : AttemptInv w) {answer : command.Answer}
    (hpre : QueuePre start t command w) (heffect : Effect (calls t) command w.state answer next)
    (horderly : orderly calls t command w answer = true) :
    AttemptInv (w.act t command answer next) ∧ Onward w.state next := by
  have hpush := Pushes.act hpre heffect
  have hmoved : RecordMoves w.state next →
      AttemptInv (w.act t command answer next) ∧ Onward w.state next := fun hmoves =>
    ⟨h.move hpush hmoves (fun _ => act_marks heffect horderly) (fun _ _ _ heq => by cases heq),
      hmoves.onward⟩
  have hkept : next = w.state → AttemptInv (w.act t command answer next) ∧ Onward w.state next :=
    fun heq => hmoved (by rw [heq]; exact .refl h.fit)
  cases command with
  | getOwner => exact hkept heffect.2
  | port query => exact hkept heffect
  | now => exact hkept heffect
  | randomUUID => exact hkept heffect
  | mutateOwner callback =>
    rcases effect_mutateOwner heffect with ⟨now, owner, hrun, rfl, rfl⟩ | ⟨-, hnext⟩
    swap
    · exact hkept hnext
    cases hwrites : callback.writesAttempt with
    | false => exact hmoved ((Callback.run_updates hrun hpre.1 hwrites).recordMoves h.fit)
    | true =>
      cases callback with
      | commitAttemptIntent id attempts =>
        obtain ⟨hnodup, hstates⟩ := hpre.1
        have hcommits := commitAttemptIntent_commits hrun hnodup hstates
        refine ⟨h.commit hpush hcommits rfl horderly rfl (fun _ _ _ heq => by cases heq),
          hcommits.onward fun i hi e he => ?_⟩
        obtain ⟨hgranted, hunused⟩ := hpre.2 i hi
        exact h.unattempted t i hgranted hunused e he
      | recordResponse indexes id response =>
        exact hmoved (orderlyResponse_recordMoves hrun h.fit horderly)
      | _ => cases hwrites

variable [DecidableEq T]

/-- The runs of the queue whose steps meet the condition. -/
def orderlyQueue (calls : T → Call) :
    System T Cmd Cmd.Answer JsError ProcessResult (Option Owner) :=
  (queue calls).restrict fun t command w answer => orderly calls t command w answer = true

/-- The invariant, and how far the attempts of a state of the run have moved. -/
theorem orderlyQueue_induct {record : Option Owner}
    {cfg cfg' : Config T Cmd Cmd.Answer JsError ProcessResult (Option Owner)}
    (hreach : (orderlyQueue calls).Reachable start cfg) (hinv : AttemptInv cfg.world)
    (hrecord : Onward record cfg.world.state) (hsteps : (orderlyQueue calls).Steps cfg cfg') :
    AttemptInv cfg'.world ∧ Onward record cfg'.world.state := by
  have hsound := (outline_sound calls start).restrict
    fun t command w answer => orderly calls t command w answer = true
  refine hsound.steps_induct (I := fun w => AttemptInv w ∧ Onward record w.state) ?_ ?_ ?_ hreach
    ⟨hinv, hrecord⟩ hsteps
  · rintro t command w answer next - ⟨h, honward⟩ hpre ⟨heffect, horderly⟩
    obtain ⟨h', hstep⟩ := h.act hpre heffect horderly
    exact ⟨h', honward.trans hstep⟩
  · rintro w next - ⟨h, honward⟩ henv
    have hpush : Pushes start w (.env w.state next) next :=
      .quiet henv.stateProgress (fun _ => rfl) rfl
    have hmoves := henv.recordMoves h.fit
    exact ⟨h.move hpush hmoves (by simp [marksOf]) (fun _ _ _ heq => by cases heq),
      honward.trans hmoves.onward⟩
  · rintro t outcome w - ⟨h, honward⟩ hpost
    have hpush : Pushes start w (.finish t outcome w.state) w.state :=
      .quiet (.refl _) (fun _ => rfl) rfl
    refine ⟨h.move hpush (.refl h.fit) (by simp [marksOf]) ?_, honward⟩
    rintro t' result record' heq hcode
    cases heq
    obtain ⟨i, hmarked⟩ := hpost result rfl hcode
    exact ⟨i, hmarked.mono (List.suffix_cons _ _), h.cleared i hmarked.mem_markedIn⟩

/-- Provider attempts are monotone in every run whose steps meet the condition: an attempt stays in
its entry under its id and only moves forward, a final state is never left, and a `process` call
that reports an unknown outcome leaves no entry of its request at a committed intent. -/
theorem attempts_move_forward (calls : T → Call) {start : Option Owner} (hstart : FitRecord start)
    {cfg cfg' : Config T Cmd Cmd.Answer JsError ProcessResult (Option Owner)}
    (hreach : (orderlyQueue calls).Reachable start cfg)
    (hsteps : (orderlyQueue calls).Steps cfg cfg') :
    (∀ i e record, entryAt cfg.world.state i = some e → e.provider_attempt = some record →
      ∃ e' record', entryAt cfg'.world.state i = some e' ∧
        e'.provider_attempt_id = e.provider_attempt_id ∧ e'.provider_attempt = some record' ∧
        record'.provider_attempt_id = record.provider_attempt_id ∧
        record.state.Forward record'.state ∧
        (ProviderOutcome.isFinal record.state = true → record'.state = record.state)) ∧
    ∀ t result record, .finish t (.ok result) record ∈ cfg.world.log →
      result.code = .REQUEST_OUTCOME_UNKNOWN_NO_RETRY → ∃ i, MarkedBy t i cfg.world.log ∧
        ∀ e, entryAt record i = some e → isDispatching e = false ∧
          ∀ j e', entryAt record j = some e' → SameRequest e e' → isDispatching e' = false := by
  have hinitial : AttemptInv (World.start start : QueueWorld T) := by
    refine ⟨hstart, ?_, by simp [markedIn], by simp⟩
    rintro t i ⟨_, hmem, _⟩
    simp at hmem
  obtain ⟨hinv, -⟩ := orderlyQueue_induct .refl hinitial (.refl _) hreach
  obtain ⟨-, honward⟩ := orderlyQueue_induct hreach hinv (.refl _) hsteps
  refine ⟨fun i e record he hheld => ?_, fun t result record hmem hcode => ?_⟩
  · obtain ⟨e', record', he', hid, hheld', hforward⟩ := honward i e record he hheld
    exact ⟨e', record', he', hid, hheld', hforward.id, hforward.state, hforward.state.final⟩
  · obtain ⟨i, hmarked, hcleared⟩ := hinv.reported t result record hmem hcode
    exact ⟨i, hmarked, fun e he => ⟨hcleared e he i e he (.inl (Eq.refl i)),
      fun j e' he' hsame => hcleared e he j e' he' (.inr hsame)⟩⟩

/-! Runs of one and of two workers. -/

/-- The response of the replayed provider. -/
def sampleResponse : ProviderResponse where
  ok := true
  httpStatus := some Number.twoHundred
  http_status := none
  external_request_executed := some true
  responseMeta := none
  response_meta := none
  provider_request_id := none

/-- Ports whose provider responds. -/
def respondingPorts : Ports
  | .execute _ => .ok (some sampleResult, some sampleResponse)
  | query => samplePorts query

/-- The state of the attempt of an entry. -/
def attemptState (record : Option Owner) (i : Nat) : Option AttemptState :=
  (entryAt record i).bind fun e => e.provider_attempt.map (·.state)

/-- A worker that has committed its intent, with checked steps. -/
def committedRun : Config Unit Cmd Cmd.Answer JsError ProcessResult (Option Owner) :=
  (List.replicate 19 ()).foldl ((queue fun _ => sampleCall "worker").checkedTurn
    (orderly fun _ => sampleCall "worker") fun _ => replayAnswer (sampleCall "worker") respondingPorts 1000)
    (System.initial (some (sampleOwner (sampleBatch [sampleEntry] []))))

/-- The same worker at its end. -/
def settledRun : Config Unit Cmd Cmd.Answer JsError ProcessResult (Option Owner) :=
  (List.replicate 20 ()).foldl ((queue fun _ => sampleCall "worker").checkedTurn
    (orderly fun _ => sampleCall "worker") fun _ => replayAnswer (sampleCall "worker") respondingPorts 1000)
    committedRun

theorem sampleOwner_fit : FitRecord (some (sampleOwner (sampleBatch [sampleEntry] []))) := by
  intro i e he
  obtain ⟨b, hb, hentry⟩ := entryAt_eq_some.mp he
  cases hb
  obtain rfl : e = sampleEntry := by simpa [sampleBatch] using List.mem_of_getElem? hentry
  exact ⟨fun _ => rfl, by simp [sampleEntry], by simp [sampleEntry]⟩

theorem committedRun_reachable : (orderlyQueue fun _ : Unit => sampleCall "worker").Reachable
    (some (sampleOwner (sampleBatch [sampleEntry] []))) committedRun :=
  System.checkedTurns_steps
    (fun _ c w => replayAnswer_effect (sampleCall "worker") respondingPorts 1000 c w.state) _ _

theorem settledRun_steps : (orderlyQueue fun _ : Unit => sampleCall "worker").Steps committedRun
    settledRun :=
  System.checkedTurns_steps
    (fun _ c w => replayAnswer_effect (sampleCall "worker") respondingPorts 1000 c w.state) _ _

theorem committedRun_state :
    attemptState committedRun.world.state 0 = some .DISPATCH_INTENT_COMMITTED := by decide +kernel

theorem settledRun_state : attemptState settledRun.world.state 0 = some .COMPLETED_KNOWN := by
  decide +kernel

/-- The attempt of the worker moves from its intent to its completion. -/
theorem attempts_move_forward_settledRun :
    attemptState committedRun.world.state 0 = some .DISPATCH_INTENT_COMMITTED ∧
    attemptState settledRun.world.state 0 = some .COMPLETED_KNOWN ∧
    ∀ i e record, entryAt committedRun.world.state i = some e → e.provider_attempt = some record →
      ∃ e' record', entryAt settledRun.world.state i = some e' ∧
        e'.provider_attempt = some record' ∧ record.state.Forward record'.state := by
  refine ⟨committedRun_state, settledRun_state, fun i e record he hheld => ?_⟩
  obtain ⟨e', record', he', -, hheld', -, hforward, -⟩ :=
    (attempts_move_forward (fun _ => sampleCall "worker") sampleOwner_fit committedRun_reachable
      settledRun_steps).1 i e record he hheld
  exact ⟨e', record', he', hheld', hforward⟩

/-- Two workers on one owner. -/
def restartCalls (restarted : Bool) : Call := sampleCall (if restarted then "second" else "first")

/-- A turn of one of them. -/
def restartTurn (cfg : Config Bool Cmd Cmd.Answer JsError ProcessResult (Option Owner)) (t : Bool) :
    Config Bool Cmd Cmd.Answer JsError ProcessResult (Option Owner) :=
  (queue restartCalls).turn (fun t => replayAnswer (restartCalls t) respondingPorts 1000) cfg t

/-- A record with a pinned context and one entry. -/
def restartOwner : Owner :=
  { sampleOwner (sampleBatch [sampleEntry] []) with execution_context := some sampleContext }

/-- The first worker has called `execute`. -/
def sentRun : Config Bool Cmd Cmd.Answer JsError ProcessResult (Option Owner) :=
  (List.replicate 20 false).foldl restartTurn (System.initial (some restartOwner))

/-- Whether a callback stores. -/
def Write.isStore : Write → Bool
  | .store _ => true
  | _ => false

/-- Its result is written to the buffer. -/
def bufferWrite : Write :=
  recordResultBuffer (restartCalls false) [0] (attemptId replayUuid) sampleResult .single 1000
    sentRun.world.state

def bufferedRun : Config Bool Cmd Cmd.Answer JsError ProcessResult (Option Owner) :=
  ⟨sentRun.pool, sentRun.world.env (bufferWrite.answer sentRun.world.state).2⟩

/-- The second worker has recovered the buffered result. -/
def recoveredRun : Config Bool Cmd Cmd.Answer JsError ProcessResult (Option Owner) :=
  (List.replicate 14 true).foldl restartTurn bufferedRun

/-- The first worker records the response. -/
def lateRun : Config Bool Cmd Cmd.Answer JsError ProcessResult (Option Owner) :=
  [false].foldl restartTurn recoveredRun

theorem restartTurns_steps (schedule : List Bool)
    (cfg : Config Bool Cmd Cmd.Answer JsError ProcessResult (Option Owner)) :
    (queue restartCalls).Steps cfg (schedule.foldl restartTurn cfg) :=
  System.turns_steps (fun t c w => replayAnswer_effect (restartCalls t) respondingPorts 1000 c w.state)
    schedule cfg

theorem recoveredRun_reachable :
    (queue restartCalls).Reachable (some restartOwner) recoveredRun := by
  have hsent : (queue restartCalls).Reachable (some restartOwner) sentRun := restartTurns_steps _ _
  refine IsTrans.trans _ _ _ hsent (IsTrans.trans _ bufferedRun _ ?_ (restartTurns_steps _ _))
  have hstarted : ∃ request answer pre post earlier,
      sentRun.world.log = .act false (.port (.execute request)) answer pre post :: earlier ∧
        request.indexes = [0] ∧ request.providerAttemptId = attemptId replayUuid ∧
        request.projectionKind = .single := ⟨_, _, _, _, _, rfl, rfl, rfl, rfl⟩
  obtain ⟨request, answer, pre, post, earlier, hlog, hindexes, hid, hkind⟩ := hstarted
  have hmem : Event.act false (.port (.execute request)) answer pre post ∈ sentRun.world.log := by
    rw [hlog]
    exact List.mem_cons_self
  have hstored : bufferWrite.isStore = true := by decide +kernel
  unfold bufferedRun
  cases hrun : bufferWrite with
  | store next =>
    rw [bufferWrite, ← hindexes, ← hid, ← hkind] at hrun
    exact .single (.env (.providerResult hmem hrun))
  | keep => simp [hrun, Write.isStore] at hstored
  | raise error => simp [hrun, Write.isStore] at hstored

theorem lateRun_steps : (queue restartCalls).Steps recoveredRun lateRun :=
  restartTurns_steps [false] recoveredRun

/-- A worker of a group that stopped after its intent, and a restarted one. -/
def strandedGroupRun : Config Bool Cmd Cmd.Answer JsError ProcessResult (Option Owner) :=
  (List.replicate 16 false ++ List.replicate 20 true).foldl restartTurn
    (System.initial (some groupedOwner))

theorem strandedGroupRun_reachable :
    (queue restartCalls).Reachable (some groupedOwner) strandedGroupRun :=
  restartTurns_steps (List.replicate 16 false ++ List.replicate 20 true)
    (System.initial (some groupedOwner))

/-- The late response of a worker takes a completed attempt back, and a restarted worker reports an
unknown outcome for a group whose second member stays at its intent. -/
theorem late_response_and_stranded_group :
    ((queue restartCalls).Reachable (some restartOwner) recoveredRun ∧
      attemptState recoveredRun.world.state 0 = some .COMPLETED_KNOWN ∧
      (queue restartCalls).Steps recoveredRun lateRun ∧
      attemptState lateRun.world.state 0 = some .RESPONSE_RECEIVED) ∧
    (queue restartCalls).Reachable (some groupedOwner) strandedGroupRun ∧
      resultOf (strandedGroupRun.pool true) =
        some ⟨false, .REQUEST_OUTCOME_UNKNOWN_NO_RETRY, none, none⟩ ∧
      attemptState strandedGroupRun.world.state 0 = some .OUTCOME_UNKNOWN ∧
      attemptState strandedGroupRun.world.state 1 = some .DISPATCH_INTENT_COMMITTED :=
  ⟨⟨recoveredRun_reachable, by decide +kernel, lateRun_steps, by decide +kernel⟩,
    strandedGroupRun_reachable, by decide +kernel, by decide +kernel, by decide +kernel⟩

end SellerAgents.BatchQueue
