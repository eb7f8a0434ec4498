import SellerAgents.BatchQueue.System
import SellerAgents.Execution.AttemptOrder

open SellerAgents.Js SellerAgents.Execution Concurrent

namespace SellerAgents.BatchQueue

open ProviderOutcome (markKnown_forward markResponseReceived_forward markUnknown_state)

/-- What the status of an entry says about its attempt. -/
structure Entry.Fit (e : Entry) : Prop where
  pending : e.status = .pending → e.provider_attempt = none
  requesting : e.status = .requesting → ∀ record, e.provider_attempt = some record → record.Open
  dispatched : ∀ record, e.provider_attempt = some record → record.state ≠ .NOT_DISPATCHED

/-- An update of an entry that moves its attempt forward, under the same id. -/
structure Entry.Moves (e e' : Entry) : Prop where
  id : e'.provider_attempt_id = e.provider_attempt_id
  none : e.provider_attempt = none → e'.provider_attempt = none
  some : ∀ record, e.provider_attempt = some record → ∃ record', e'.provider_attempt = some record' ∧
    record.Forward record'

variable {b : Batch} {call : Call} {e e' : Entry} {now : Int} {id : JsString} {i : Nat}
  {current record : Option Owner} {next : Owner}

theorem Entry.Moves.of_same (hid : e'.provider_attempt_id = e.provider_attempt_id)
    (hattempt : e'.provider_attempt = e.provider_attempt) : e.Moves e' where
  id := hid
  none h := hattempt.trans h
  some record h := ⟨record, hattempt.trans h, .refl record⟩

theorem Entry.Moves.refl (e : Entry) : e.Moves e := .of_same (Eq.refl _) (Eq.refl _)

theorem Entry.Moves.trans {e'' : Entry} (h : e.Moves e') (h' : e'.Moves e'') : e.Moves e'' where
  id := h'.id.trans h.id
  none hnone := h'.none (h.none hnone)
  some record hheld := by
    obtain ⟨record', hheld', hforward⟩ := h.some record hheld
    obtain ⟨record'', hheld'', hforward'⟩ := h'.some record' hheld'
    exact ⟨record'', hheld'', hforward.trans hforward'⟩

theorem Entry.Moves.of_forward {record record' : ProviderAttempt}
    (hid : e'.provider_attempt_id = e.provider_attempt_id)
    (hheld : e.provider_attempt = .some record) (hattempt : e'.provider_attempt = .some record')
    (hforward : record.Forward record') :
    e.Moves e' where
  id := hid
  none h := by simp [hheld] at h
  some held h := by
    rw [hheld, Option.some.injEq] at h
    exact ⟨record', hattempt, h ▸ hforward⟩

theorem Entry.Fit.of_complete (hcomplete : e.status = .complete)
    (hdispatched : ∀ record, e.provider_attempt = some record → record.state ≠ .NOT_DISPATCHED) :
    e.Fit where
  pending h := by simp [hcomplete] at h
  requesting h := by simp [hcomplete] at h
  dispatched := hdispatched

/-- An attempt that moved forward is still dispatched. -/
theorem Entry.Moves.dispatched (h : e.Moves e') (hfit : e.Fit) {record' : ProviderAttempt}
    (hattempt : e'.provider_attempt = .some record') :
    record'.state ≠ .NOT_DISPATCHED := by
  cases hheld : e.provider_attempt with
  | none => simp [h.none hheld] at hattempt
  | some record =>
    obtain ⟨moved, hmoved, -, hforward⟩ := h.some record hheld
    rw [hattempt, Option.some.injEq] at hmoved
    subst hmoved
    intro hstate
    rw [hstate] at hforward
    rcases Relation.ReflTransGen.cases_tail hforward with heq | ⟨mid, -, hnext⟩
    · exact hfit.dispatched record hheld heq.symm
    · cases hnext

theorem isDispatching_iff : isDispatching e = true ↔
    ∃ record, e.provider_attempt = some record ∧ record.state = .DISPATCH_INTENT_COMMITTED := by
  simp [isDispatching, Option.any_eq_true]

/-- An attempt that moved forward only stands at its intent if it stood there before. -/
theorem Entry.Moves.isDispatching (h : e.Moves e')
    (hdispatching : BatchQueue.isDispatching e' = true) : BatchQueue.isDispatching e = true := by
  obtain ⟨record', hattempt, hstate⟩ := isDispatching_iff.mp hdispatching
  cases hheld : e.provider_attempt with
  | none => simp [h.none hheld] at hattempt
  | some record =>
    obtain ⟨moved, hmoved, -, hforward⟩ := h.some record hheld
    rw [hattempt, Option.some.injEq] at hmoved
    subst hmoved
    rw [hstate] at hforward
    exact isDispatching_iff.mpr ⟨record, hheld, hforward.eq_dispatch⟩

/-! What the callbacks do to the attempts. -/

/-- The final attempt of an entry with an open attempt. -/
theorem finalAttempt_forward {record : ProviderAttempt} (hheld : e.provider_attempt = some record)
    (hopen : record.Open) (result : Option QueueResult) (now : Int) :
    ∃ record', finalAttempt e result now = some record' ∧ record.Forward record' := by
  rw [finalAttempt, hheld, Option.map_some]
  refine ⟨_, rfl, ?_⟩
  split
  · exact markKnown_forward hopen _ now
  · next hstate =>
    split
    · next denied _ =>
      obtain ⟨hforward, hopen'⟩ :=
        markResponseReceived_forward hopen (localResponse denied) now
      exact hforward.trans (markKnown_forward hopen' false now)
    · exact ⟨rfl, hstate ▸ .single .unknown⟩
  · exact .refl record

theorem bufferedAttempt_forward (record : ProviderAttempt) (result : QueueResult) (now : Int) :
    record.Forward (bufferedAttempt record result now) ∧
      (record.Open → (bufferedAttempt record result now).Open) := by
  unfold bufferedAttempt
  split
  · next hstate =>
    have hopen : record.Open := ⟨by simp [hstate], by simp [hstate, AttemptState.isKnown]⟩
    obtain ⟨hforward, hopen'⟩ :=
      markResponseReceived_forward hopen (bufferedResponse result) now
    exact ⟨hforward, fun _ => hopen'⟩
  · exact ⟨.refl record, id⟩

/-- The mark of an entry moves its attempt, and leaves it not dispatching. -/
theorem markEntry_moves (now : Int) (e : Entry) :
    e.Moves (markEntry now e) ∧ BatchQueue.isDispatching (markEntry now e) = false := by
  unfold markEntry
  split
  · next hdispatching =>
    obtain ⟨record, hheld, hstate⟩ := isDispatching_iff.mp hdispatching
    rw [hheld, Option.map_some]
    refine ⟨.of_forward rfl hheld rfl ⟨rfl, hstate ▸ .single .unknown⟩, ?_⟩
    simp [isDispatching, setAttempt_provider_attempt, markUnknown_state]
  · next hdispatching => exact ⟨.refl e, by simpa using hdispatching⟩

theorem markEntry_fit (hfit : e.Fit) (now : Int) : (markEntry now e).Fit := by
  have hmoves := (markEntry_moves now e).1
  have hstatus : (markEntry now e).status = e.status := (markEntry_sameResult now e).1
  refine ⟨fun h => hmoves.none (hfit.pending (hstatus ▸ h)), fun h record hrecord => ?_,
    fun record hrecord => hmoves.dispatched hfit hrecord⟩
  unfold markEntry at hrecord
  split at hrecord
  · next hdispatching =>
    obtain ⟨held, hheld, -⟩ := isDispatching_iff.mp hdispatching
    rw [hheld, Option.map_some] at hrecord
    have hmarked := Option.some.inj hrecord
    rw [← hmarked]
    exact ⟨by simp [markUnknown_state],
      by simp [markUnknown_state, AttemptState.isKnown]⟩
  · exact hfit.requesting (hstatus ▸ h) record hrecord

/-- The callbacks that handle attempts of their own accord move them forward. -/
theorem Entry.Update.moves (h : e.Update now e') (hfit : e.Fit) :
    e.Moves e' ∧ e'.Fit := by
  cases h with
  | kept same =>
    subst same
    exact ⟨.refl _, hfit⟩
  | started pending start =>
    subst start
    have hnone := hfit.pending pending
    refine ⟨.of_same rfl rfl, nofun, fun _ record h => ?_, hfit.dispatched⟩
    simp [startedEntry, hnone] at h
  | answered incomplete completed id attempt =>
    exact ⟨.of_same id attempt, .of_complete completed (attempt ▸ hfit.dispatched)⟩
  | settled result requesting completed id attempt =>
    have hmoves : e.Moves e' := by
      cases hheld : e.provider_attempt with
      | none =>
        refine .of_same id ?_
        rw [attempt, finalAttempt, hheld, Option.map_none]
      | some record =>
        obtain ⟨record', hfinal, hforward⟩ :=
          finalAttempt_forward hheld (hfit.requesting requesting record hheld) result now
        exact .of_forward id hheld (attempt.trans hfinal) hforward
    exact ⟨hmoves, .of_complete completed fun _ => hmoves.dispatched hfit⟩
  | recovered ok record requesting completed id held attempt =>
    have hmoves : e.Moves e' := .of_forward id held attempt
      (markKnown_forward (hfit.requesting requesting record held) ok now)
    exact ⟨hmoves, .of_complete completed fun _ => hmoves.dispatched hfit⟩
  | marked mark => exact mark ▸ ⟨(markEntry_moves now e).1, markEntry_fit hfit now⟩
  | buffered result record same id held attempt =>
    obtain ⟨hforward, hopen⟩ := bufferedAttempt_forward record result now
    have hmoves : e.Moves e' := .of_forward id held attempt hforward
    refine ⟨hmoves, fun h => hmoves.none (hfit.pending (same.1 ▸ h)), fun h record' hrecord => ?_,
      fun _ => hmoves.dispatched hfit⟩
    rw [attempt, Option.some.injEq] at hrecord
    exact hrecord ▸ hopen (hfit.requesting (same.1 ▸ h) record held)

/-- The entry of a record at an index. -/
def entryAt (record : Option Owner) (index : Nat) : Option Entry :=
  (batchOf record).bind fun batch => batch.entries[index]?

theorem entryAt_eq_some :
    entryAt record i = some e ↔ ∃ b, batchOf record = some b ∧ b.entries[i]? = some e :=
  Option.bind_eq_some_iff

theorem entryAt_of_batch (hb : batchOf record = some b) (i : Nat) :
    entryAt record i = b.entries[i]? := by
  rw [entryAt, hb, Option.bind_some]

/-- The entries of a record fit. -/
def FitRecord (record : Option Owner) : Prop := ∀ i e, entryAt record i = some e → e.Fit

/-- What every step but a commit does to the attempts of a record. -/
structure RecordMoves (current next : Option Owner) : Prop where
  moves : ∀ i e', entryAt next i = some e' → ∃ e, entryAt current i = some e ∧ e.Moves e'
  kept : ∀ i e, entryAt current i = some e → ∃ e', entryAt next i = some e'
  fit : FitRecord next

/-- A step from entry to entry moves the record. -/
theorem RecordMoves.of_entries {next : Option Owner} {b' : Batch} (hb : batchOf current = some b)
    (hb' : batchOf next = some b') (hlength : b'.entries.length = b.entries.length)
    (hmoves : ∀ (i : Nat) (e e' : Entry), b.entries[i]? = some e → b'.entries[i]? = some e' →
      e.Moves e' ∧ e'.Fit) : RecordMoves current next := by
  have hentry : ∀ (i : Nat) (e' : Entry), b'.entries[i]? = some e' →
      ∃ e, b.entries[i]? = some e ∧ e.Moves e' ∧ e'.Fit := by
    intro i e' he'
    have hlt : i < b.entries.length := hlength ▸ (List.getElem?_eq_some_iff.mp he').1
    exact ⟨b.entries[i], List.getElem?_eq_getElem hlt, hmoves i _ e' (List.getElem?_eq_getElem hlt) he'⟩
  refine ⟨fun i e' he' => ?_, fun i e he => ?_, fun i e' he' => ?_⟩
  · rw [entryAt_of_batch hb'] at he'
    obtain ⟨e, he, hmove, -⟩ := hentry i e' he'
    exact ⟨e, (entryAt_of_batch hb i).trans he, hmove⟩
  · rw [entryAt_of_batch hb] at he
    have hlt : i < b'.entries.length := hlength.symm ▸ (List.getElem?_eq_some_iff.mp he).1
    exact ⟨b'.entries[i], (entryAt_of_batch hb' i).trans (List.getElem?_eq_getElem hlt)⟩
  · rw [entryAt_of_batch hb'] at he'
    obtain ⟨e, -, -, hfit⟩ := hentry i e' he'
    exact hfit

theorem RecordMoves.refl (hfit : FitRecord record) :
    RecordMoves record record where
  moves _ e he := ⟨e, he, .refl e⟩
  kept _ e he := ⟨e, he⟩
  fit := hfit

theorem FitRecord.get (h : FitRecord record) (hb : batchOf record = some b)
    (he : b.entries[i]? = some e) : e.Fit :=
  h i e (entryAt_eq_some.mpr ⟨b, hb, he⟩)

theorem Updates.recordMoves (h : Updates now current next) (hfit : FitRecord current) :
    RecordMoves current (some next) := by
  obtain ⟨b, b', hb, hb', hprogress, hupdate⟩ := h
  exact .of_entries hb hb' hprogress.length fun i e e' he he' =>
    (hupdate i e e' he he').moves (hfit.get hb he)

theorem EntryUpdate.moves (h : EntryUpdate e e') (hfit : e.Fit) :
    e.Moves e' ∧ e'.Fit := by
  by_cases hpending : e.status = .pending
  · obtain ⟨hstatus, hid, hattempt, -⟩ := h.pending hpending
    have hnone := hattempt.trans (hfit.pending hpending)
    refine ⟨.of_same hid hattempt, fun _ => hnone, fun _ record h => ?_, fun record h => ?_⟩
    · simp [hnone] at h
    · simp [hnone] at h
  · rw [h.started hpending]
    exact ⟨.refl e, hfit⟩

theorem PortUpdate.recordMoves {next : Option Owner} (h : PortUpdate current next)
    (hfit : FitRecord current) : RecordMoves current next := by
  have hrel := h.2
  cases hb : batchOf current with
  | none =>
    have hb' : batchOf next = none := by
      rw [hb] at hrel
      generalize batchOf next = last at hrel
      cases hrel
      rfl
    refine ⟨fun i e' he' => ?_, fun i e he => ?_, fun i e' he' => ?_⟩
    · simp [entryAt, hb'] at he'
    · simp [entryAt, hb] at he
    · simp [entryAt, hb'] at he'
  | some b =>
    obtain ⟨b', hb', hupdate⟩ : ∃ b', batchOf next = some b' ∧ BatchUpdate b b' := by
      rw [hb] at hrel
      generalize batchOf next = last at hrel
      cases hrel with
      | some hupdate => exact ⟨_, rfl, hupdate⟩
    exact .of_entries hb hb' hupdate.length fun i e e' he he' =>
      (hupdate.entries he he').moves (hfit.get hb he)

theorem EnvStep.recordMoves {T : Type} {calls : T → Call} {w : QueueWorld T} {next : Option Owner}
    (h : EnvStep calls w next) (hfit : FitRecord w.state) : RecordMoves w.state next := by
  cases h with
  | ports update => exact update.recordMoves hfit
  | providerResult _ run => exact (recordResultBuffer_updates run).recordMoves hfit

/-- Every entry that a loop names is one that the loop can update. -/
theorem updateEntries_mem {α : Type} {update : α → Entry → Option Entry} {P : Entry → Prop}
    (hstep : ∀ item e e', update item e = some e' → P e) {items : List (Nat × α)}
    {entries result : List Entry} (h : updateEntries update items entries = some result)
    (hi : i ∈ items.map (·.1)) : ∃ e, entries[i]? = some e ∧ P e := by
  induction items generalizing entries with
  | nil => simp at hi
  | cons first rest ih =>
    obtain ⟨entry, next, hentry, hupdate, hrest⟩ := updateEntries_cons.mp h
    by_cases heq : first.1 = i
    · exact ⟨entry, heq ▸ hentry, hstep _ _ _ hupdate⟩
    · simp only [List.map_cons, List.mem_cons, Ne.symm heq, false_or] at hi
      obtain ⟨e, he, hP⟩ := ih hrest hi
      rw [List.getElem?_set_ne heq] at he
      exact ⟨e, he, hP⟩

/-- Whether a callback goes past the guard on the owner. -/
def Call.live (call : Call) (record : Option Owner) : Bool :=
  record.any fun owner => call.ownerMatches owner && call.isCollecting owner && owner.batch.isSome

/-- Whether an entry holds an attempt under an id. -/
def Entry.holds (e : Entry) (id : JsString) : Bool :=
  e.provider_attempt_id = some id && e.provider_attempt.isSome

/-- Whether the attempt of an entry has a known final state. -/
def Entry.isSettled (e : Entry) : Bool := e.provider_attempt.any (·.state.isKnown)

/-- The response to open attempts moves them forward. -/
theorem recordResponse_recordMoves {indexes : List Nat} {response : ProviderResponse}
    (h : recordResponse call indexes id response now current = .store next)
    (hfit : FitRecord current)
    (hopen : ∀ i ∈ indexes, ∀ e, entryAt current i = some e → e.isSettled = false) :
    RecordMoves current (some next) := by
  obtain ⟨owner, batch, rfl, hbatch, _, _, h⟩ := whenLive_store.mp h
  split at h
  · cases h
  next entries hentries =>
  simp only [Write.store.injEq] at h
  subst h
  refine .of_entries hbatch rfl (updateEntries_length hentries) fun i e e' he he' => ?_
  have hfit' : e.Fit := hfit.get hbatch he
  by_cases hi : i ∈ indexes
  · -- the loop may name an entry twice; an open attempt stays open
    have hrel := updateEntries_rel (R := fun e e' =>
      (∀ record, e.provider_attempt = some record → record.Open) → e.Moves e' ∧
        e'.status = e.status ∧ ∀ record', e'.provider_attempt = some record' → record'.Open)
      (fun e hopen => ⟨.refl e, rfl, hopen⟩) ?_ ?_ hentries he he'
    · obtain ⟨hmoves, hstatus, hopen'⟩ := hrel fun record hrecord =>
        ⟨hfit'.dispatched record hrecord, by
          have hsettled := hopen i hi e (entryAt_eq_some.mpr ⟨batch, hbatch, he⟩)
          simpa [Entry.isSettled, hrecord] using hsettled⟩
      exact ⟨hmoves, fun h => hmoves.none (hfit'.pending (hstatus ▸ h)), fun _ => hopen',
        fun _ => hmoves.dispatched hfit'⟩
    · intro e e' e'' hfirst hsecond hopen
      obtain ⟨hmoves, hstatus, hopen'⟩ := hfirst hopen
      obtain ⟨hmoves', hstatus', hopen''⟩ := hsecond hopen'
      exact ⟨hmoves.trans hmoves', hstatus'.trans hstatus, hopen''⟩
    · intro item e e' hupdate hopen
      unfold responseEntry at hupdate
      split at hupdate
      · cases hupdate
      next record hrecord =>
      split at hupdate
      · cases hupdate
        obtain ⟨hforward, hopen'⟩ :=
          markResponseReceived_forward (hopen record hrecord) response now
        refine ⟨.of_forward rfl hrecord rfl hforward, rfl, fun record' hrecord' => ?_⟩
        exact Option.some.inj hrecord' ▸ hopen'
      · cases hupdate
  · have hkeys : (indexes.map fun index => (index, ())).map (·.1) = indexes := by
      simp [Function.comp_def]
    rw [updateEntries_frame hentries (by rwa [hkeys]), he, Option.some.injEq] at he'
    exact he' ▸ ⟨.refl e, hfit'⟩

/-- A response is only stored for entries that hold the attempt. -/
theorem recordResponse_holds {indexes : List Nat} {response : ProviderResponse}
    (h : recordResponse call indexes id response now current = .store next) :
    call.live current = true ∧ ∀ i ∈ indexes, (entryAt current i).any (·.holds id) = true := by
  obtain ⟨owner, batch, rfl, hbatch, hmatch, hcollect, h⟩ := whenLive_store.mp h
  split at h
  · cases h
  next entries hentries =>
  refine ⟨by simp [Call.live, hmatch, hcollect, hbatch], fun i hi => ?_⟩
  have hnamed := updateEntries_mem (P := fun e => e.holds id = true) ?_ hentries
    (i := i) (by simpa [Function.comp_def] using hi)
  · obtain ⟨e, he, hholds⟩ := hnamed
    have hentry : entryAt (some owner) i = some e := entryAt_eq_some.mpr ⟨batch, hbatch, he⟩
    rw [hentry]
    exact hholds
  · intro item e e' hupdate
    unfold responseEntry at hupdate
    split at hupdate
    · cases hupdate
    next record hrecord =>
    split at hupdate
    · next hid => simp [Entry.holds, hid, hrecord]
    · cases hupdate

/-- What a commit does to the entries of its request, and that it leaves the others. -/
structure Commits (id : JsString) (indexes : List Nat) (current next : Option Owner) : Prop where
  named : ∀ i ∈ indexes, ∃ e e' record, entryAt current i = some e ∧ entryAt next i = some e' ∧
    e.status = .requesting ∧ e'.status = .requesting ∧ e'.provider_attempt_id = some id ∧
    e'.provider_attempt = some record ∧ record.state = .DISPATCH_INTENT_COMMITTED
  others : ∀ i, i ∉ indexes → entryAt next i = entryAt current i

theorem commitAttemptIntent_commits {attempts : List (Nat × ProviderAttempt)}
    (h : commitAttemptIntent call id attempts now current = .store next)
    (hnodup : (attempts.map (·.1)).Nodup)
    (hstates : ∀ item ∈ attempts, item.2.state = .DISPATCH_INTENT_COMMITTED) :
    Commits id (attempts.map (·.1)) current (some next) := by
  obtain ⟨owner, batch, rfl, hbatch, _, _, h⟩ := whenLive_store.mp h
  split at h
  · cases h
  next entries hentries =>
  simp only [Write.store.injEq] at h
  subst h
  constructor
  · intro i hi
    obtain ⟨⟨index, attempt⟩, hmem, rfl⟩ := List.mem_map.mp hi
    obtain ⟨e, e', he, hupdate, he'⟩ := updateEntries_spec hnodup hentries hmem
    simp only [commitEntry, Option.ite_none_right_eq_some, Option.some.injEq] at hupdate
    obtain ⟨⟨hstatus, -⟩, rfl⟩ := hupdate
    refine ⟨e, _, attempt, entryAt_eq_some.mpr ⟨batch, hbatch, he⟩,
      entryAt_eq_some.mpr ⟨_, rfl, he'⟩, hstatus, hstatus, rfl, rfl, hstates _ hmem⟩
  · intro i hi
    have hsame : entries[i]? = batch.entries[i]? := updateEntries_frame hentries hi
    rw [entryAt_of_batch (show batchOf (some owner) = some batch from hbatch)]
    exact hsame

end SellerAgents.BatchQueue
