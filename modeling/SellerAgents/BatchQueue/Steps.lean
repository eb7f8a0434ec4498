import SellerAgents.BatchQueue.Progress

open SellerAgents.Js SellerAgents.Execution

namespace SellerAgents.BatchQueue

/-- What a step does to the record: the batch is there before and after, and it progresses. -/
def Advances (current : Option Owner) (next : Owner) : Prop :=
  ∃ b b', batchOf current = some b ∧ next.batch = some b' ∧ b.Progress b'

/-- An update that keeps the answer of an entry. -/
def Entry.SameResult (e e' : Entry) : Prop :=
  e'.status = e.status ∧ e'.report_text = e.report_text ∧ e'.request_id = e.request_id ∧
    e'.http_status = e.http_status

variable {call : Call} {e e' : Entry} {now : Int} {id : JsString}
  {items : List (Nat × Option QueueResult)} {entries : List Entry} {indexes : List Nat}
  {index nextIndex : Nat} {current : Option Owner} {result : Option QueueResult}
  {quota : Option Quota} {next : Owner} {group : QueryGroup}

theorem Entry.SameResult.trans {e'' : Entry} (h : e.SameResult e') (h' : e'.SameResult e'') :
    e.SameResult e'' :=
  ⟨h'.1.trans h.1, h'.2.1.trans h.2.1, h'.2.2.1.trans h.2.2.1, h'.2.2.2.trans h.2.2.2⟩

theorem Entry.SameResult.progress (h : e.SameResult e') : e.Progress e' :=
  .of_same h.1 h.2.1 h.2.2.1 h.2.2.2

/-- What the callbacks other than `commitAttemptIntent` and `recordResponse` do to an entry. -/
inductive Entry.Update (now : Int) (e e' : Entry) : Prop where
  | kept (same : e' = e)
  | started (pending : e.status = .pending) (start : e' = startedEntry now e)
  | answered (incomplete : e.status ≠ .complete) (completed : e'.status = .complete)
      (id : e'.provider_attempt_id = e.provider_attempt_id)
      (attempt : e'.provider_attempt = e.provider_attempt)
  | settled (result : Option QueueResult) (requesting : e.status = .requesting)
      (completed : e'.status = .complete) (id : e'.provider_attempt_id = e.provider_attempt_id)
      (attempt : e'.provider_attempt = finalAttempt e result now)
  | recovered (ok : Bool) (record : ProviderAttempt) (requesting : e.status = .requesting)
      (completed : e'.status = .complete) (id : e'.provider_attempt_id = e.provider_attempt_id)
      (held : e.provider_attempt = some record)
      (attempt : e'.provider_attempt = some (ProviderOutcome.markKnown record ok now))
  | marked (mark : e' = markEntry now e)
  | buffered (result : QueueResult) (record : ProviderAttempt) (same : e.SameResult e')
      (id : e'.provider_attempt_id = e.provider_attempt_id)
      (held : e.provider_attempt = some record)
      (attempt : e'.provider_attempt = some (bufferedAttempt record result now))

/-- What such a callback does to the record. -/
def Updates (now : Int) (current : Option Owner) (next : Owner) : Prop :=
  ∃ b b', batchOf current = some b ∧ next.batch = some b' ∧ b.Progress b' ∧
    ∀ (i : Nat) (e e' : Entry), b.entries[i]? = some e → b'.entries[i]? = some e' → e.Update now e'

theorem Updates.advances (h : Updates now current next) : Advances current next := by
  obtain ⟨b, b', hb, hb', hprogress, _⟩ := h
  exact ⟨b, b', hb, hb', hprogress⟩

theorem markEntry_sameResult (now : Int) (e : Entry) : e.SameResult (markEntry now e) := by
  unfold markEntry
  split
  · exact ⟨by simp, by simp, by simp, by simp⟩
  · exact ⟨rfl, rfl, rfl, rfl⟩

theorem Entry.Update.progress (h : e.Update now e') : e.Progress e' := by
  cases h with
  | kept same => exact same ▸ .refl e
  | started pending start =>
    subst start
    exact .of_open (by simp [pending]) (by simp [pending, EntryStatus.rank])
  | answered incomplete completed => exact .completing incomplete completed
  | settled _ requesting completed => exact .completing (by simp [requesting]) completed
  | recovered _ _ requesting completed => exact .completing (by simp [requesting]) completed
  | marked mark => exact mark ▸ (markEntry_sameResult now e).progress
  | buffered _ _ same => exact same.progress

/-- A settled attempt is never dropped. -/
theorem setAttempt_finalAttempt (e : Entry) (result : Option QueueResult) (now : Int) :
    (setAttempt e (finalAttempt e result now) now).provider_attempt = finalAttempt e result now := by
  rw [setAttempt_provider_attempt]
  cases hattempt : e.provider_attempt with
  | none => simp [finalAttempt, hattempt]
  | some record => simp [finalAttempt, hattempt]

theorem commitEntry_sameResult {attempt : ProviderAttempt}
    (h : commitEntry id now attempt e = some e') : e.SameResult e' := by
  simp only [commitEntry, Option.ite_none_right_eq_some, Option.some.injEq] at h
  obtain ⟨_, rfl⟩ := h
  exact ⟨rfl, rfl, rfl, rfl⟩

theorem responseEntry_sameResult {response : ProviderResponse} {item : Unit}
    (h : responseEntry id response now item e = some e') :
    e.SameResult e' := by
  simp only [responseEntry] at h
  cases hattempt : e.provider_attempt with
  | none => simp [hattempt] at h
  | some record =>
    simp only [hattempt, Option.ite_none_right_eq_some, Option.some.injEq] at h
    obtain ⟨_, rfl⟩ := h
    exact ⟨rfl, rfl, rfl, rfl⟩

theorem bufferEntry_attempt {result : QueueResult} {kind : ProjectionKind} {expires : Option Int}
    {item : Unit} (h : bufferEntry id result kind expires now item e = some e') :
    e.SameResult e' ∧ e'.provider_attempt_id = e.provider_attempt_id ∧
      ∃ record, e.provider_attempt = some record ∧
        e'.provider_attempt = some (bufferedAttempt record result now) := by
  simp only [bufferEntry] at h
  cases hattempt : e.provider_attempt with
  | none => simp [hattempt] at h
  | some record =>
    simp only [hattempt, Option.ite_none_right_eq_some, Option.some.injEq] at h
    obtain ⟨_, rfl⟩ := h
    exact ⟨⟨rfl, rfl, rfl, rfl⟩, rfl, record, rfl, rfl⟩

/-- A loop of updates that keep the results advances the record. -/
theorem advances_of_entries {α : Type} {update : Owner → α → Entry → Option Entry}
    (hupdate : ∀ owner item e e', update owner item e = some e' → e.SameResult e')
    {items : List (Nat × α)} (h : whenLive call current (fun owner batch =>
      match updateEntries (update owner) items batch.entries with
      | none => .keep
      | some entries => .store (withEntries owner batch entries)) = .store next) :
    Advances current next := by
  obtain ⟨owner, batch, rfl, hbatch, _, _, h⟩ := whenLive_store.mp h
  cases hentries : updateEntries (update owner) items batch.entries with
  | none => simp [hentries] at h
  | some entries =>
    simp only [hentries, Write.store.injEq] at h
    subst h
    refine ⟨batch, _, hbatch, rfl, .of_entries rfl (updateEntries_length hentries) ?_⟩
    intro i e e' he he'
    exact updateEntries_rel Entry.Progress.refl (fun _ _ _ => .trans)
      (fun item e e' h => (hupdate owner item e e' h).progress) hentries he he'

theorem commitAttemptIntent_advances {attempts : List (Nat × ProviderAttempt)}
    (h : commitAttemptIntent call id attempts now current = .store next) : Advances current next :=
  advances_of_entries (fun _ _ _ _ => commitEntry_sameResult) h

theorem recordResponse_advances {response : ProviderResponse}
    (h : recordResponse call indexes id response now current = .store next) :
    Advances current next :=
  advances_of_entries (fun _ _ _ _ => responseEntry_sameResult) h

theorem bufferedAttempt_idem (record : ProviderAttempt) (result : QueueResult) (now : Int) :
    bufferedAttempt (bufferedAttempt record result now) result now =
      bufferedAttempt record result now := by
  by_cases hdispatch : record.state = .DISPATCH_INTENT_COMMITTED
  · have hreceived : (bufferedAttempt record result now).state = .RESPONSE_RECEIVED := by
      simp [bufferedAttempt, hdispatch, ProviderOutcome.markResponseReceived_state]
    rw [bufferedAttempt, if_neg (by simp [hreceived])]
  · have hkept : bufferedAttempt record result now = record := by
      rw [bufferedAttempt, if_neg hdispatch]
    rw [hkept, hkept]

/-- The buffer of a result leaves every named entry with the same attempt, however often the entry
is named. -/
theorem recordResultBuffer_updates {result : QueueResult} {kind : ProjectionKind}
    (h : recordResultBuffer call indexes id result kind now current = .store next) :
    Updates now current next := by
  obtain ⟨owner, batch, rfl, hbatch, _, _, h⟩ := whenLive_store.mp h
  split at h
  · cases h
  rename_i entries hentries
  simp only [Write.store.injEq] at h
  subst h
  have hstep : ∀ (i : Nat) (e e' : Entry), batch.entries[i]? = some e → entries[i]? = some e' →
      e' = e ∨ e.SameResult e' ∧ e'.provider_attempt_id = e.provider_attempt_id ∧
        ∃ record, e.provider_attempt = some record ∧
          e'.provider_attempt = some (bufferedAttempt record result now) := by
    intro i e e' he he'
    refine updateEntries_rel (R := fun e e' => e' = e ∨ e.SameResult e' ∧
      e'.provider_attempt_id = e.provider_attempt_id ∧ ∃ record, e.provider_attempt = some record ∧
        e'.provider_attempt = some (bufferedAttempt record result now)) (fun e => .inl rfl) ?_ ?_
      hentries he he'
    · rintro e e' e'' (rfl | ⟨hsame, hid, record, hheld, hattempt⟩)
        (rfl | ⟨hsame', hid', record', hheld', hattempt'⟩)
      · exact .inl rfl
      · exact .inr ⟨hsame', hid', record', hheld', hattempt'⟩
      · exact .inr ⟨hsame, hid, record, hheld, hattempt⟩
      · rw [hattempt, Option.some.injEq] at hheld'
        subst hheld'
        rw [bufferedAttempt_idem] at hattempt'
        exact .inr ⟨hsame.trans hsame', hid'.trans hid, record, hheld, hattempt'⟩
    · intro item e e' hbuffer
      exact .inr (bufferEntry_attempt hbuffer)
  have hupdate : ∀ (i : Nat) (e e' : Entry), batch.entries[i]? = some e → entries[i]? = some e' →
      e.Update now e' := by
    intro i e e' he he'
    rcases hstep i e e' he he' with rfl | ⟨hsame, hid, record, hheld, hattempt⟩
    · exact .kept rfl
    · exact .buffered result record hsame hid hheld hattempt
  refine ⟨batch, _, hbatch, rfl, ?_, hupdate⟩
  exact .of_entries rfl (updateEntries_length hentries) fun he he' => (hupdate _ _ _ he he').progress

/-- A marked entry is not dispatching any more, so marking it again does nothing. -/
theorem markEntry_idem (now : Int) (e : Entry) :
    markEntry now (markEntry now e) = markEntry now e := by
  by_cases hdispatching : isDispatching e = true
  · have hmarked : isDispatching (markEntry now e) = false := by
      rw [markEntry, if_pos hdispatching, isDispatching, setAttempt_provider_attempt]
      cases e.provider_attempt <;> rfl
    rw [markEntry, hmarked, if_neg Bool.false_ne_true]
  · have hkept : markEntry now e = e := by rw [markEntry, if_neg hdispatching]
    rw [hkept, hkept]

/-- The entries after some of them were marked. -/
theorem markEntries_get {i : Nat} :
    (indexes.foldl (fun entries index => entries.modify index (markEntry now)) entries)[i]? =
      (entries[i]?).map fun e => if i ∈ indexes then markEntry now e else e := by
  induction indexes generalizing entries with
  | nil => simp
  | cons index rest ih =>
    rw [List.foldl_cons, ih, List.getElem?_modify]
    by_cases heq : index = i
    · subst heq
      cases entries[index]? with
      | none => rfl
      | some e =>
        by_cases hrest : index ∈ rest
        · simp [hrest, markEntry_idem]
        · simp [hrest]
    · simp [heq, Ne.symm heq]

theorem markEntries_length :
    (indexes.foldl (fun entries index => entries.modify index (markEntry now)) entries).length =
      entries.length := by
  induction indexes generalizing entries with
  | nil => rfl
  | cons index rest ih => rw [List.foldl_cons, ih, List.length_modify]

/-- What a store of `markRequestingUnknown` does to the record. -/
theorem markRequestingUnknown_store
    (h : markRequestingUnknown call indexes now current = .store next) :
    ∃ owner batch, current = some owner ∧ owner.batch = some batch ∧
      next = withEntries owner batch
        (indexes.foldl (fun entries index => entries.modify index (markEntry now)) batch.entries) := by
  obtain ⟨owner, batch, rfl, hbatch, _, _, h⟩ := whenLive_store.mp h
  split at h
  · simp only [Write.store.injEq] at h
    exact ⟨owner, batch, rfl, hbatch, h.symm⟩
  · cases h

theorem markRequestingUnknown_updates
    (h : markRequestingUnknown call indexes now current = .store next) :
    Updates now current next := by
  obtain ⟨owner, batch, rfl, hbatch, rfl⟩ := markRequestingUnknown_store h
  have hupdate : ∀ (i : Nat) (e e' : Entry), batch.entries[i]? = some e →
      (indexes.foldl (fun entries index => entries.modify index (markEntry now)) batch.entries)[i]? =
        some e' → e.Update now e' := by
    intro i e e' he he'
    rw [markEntries_get, he, Option.map_some, Option.some.injEq] at he'
    subst he'
    split
    · exact .marked rfl
    · exact .kept rfl
  refine ⟨batch, _, hbatch, rfl, ?_, hupdate⟩
  exact .of_entries rfl markEntries_length fun he he' => (hupdate _ _ _ he he').progress

/-- Moving on from an entry needs that entry to be complete. -/
theorem skipComplete_updates (h : skipComplete call nextIndex current = .store next)
    (hcomplete : ∀ b e, batchOf current = some b → b.entries[nextIndex]? = some e →
      e.status = .complete) : Updates now current next := by
  obtain ⟨owner, batch, rfl, hbatch, _, _, h⟩ := whenLive_store.mp h
  split at h
  · rename_i hnext
    simp only [Write.store.injEq] at h
    subst h
    refine ⟨batch, _, hbatch, rfl, ?_, fun i e e' he he' => ?_⟩
    swap
    · rw [he, Option.some.injEq] at he'
      exact .kept he'.symm
    constructor
    · simp only
      omega
    · rfl
    · intro i e e' he he'
      rw [he, Option.some.injEq] at he'
      exact he' ▸ .refl _
    · intro i e' hle hlt he'
      have hi : i = nextIndex := by
        simp only at hlt
        omega
      exact hcomplete batch e' hbatch (hi ▸ he')
  · cases h

/-- A callback at the next entry that completes it, or that only moves its status on. -/
theorem updates_of_next {write : Owner → Batch → Entry → Write}
    (h : whenNext call nextIndex current write = .store next)
    (hwrite : ∀ owner batch entry, batch.next_index = nextIndex →
      write owner batch entry = .store next → ∃ b' e', next.batch = some b' ∧
        b'.entries = batch.entries.set nextIndex e' ∧ entry.Update now e' ∧
        (b'.next_index = batch.next_index ∨
          b'.next_index = nextIndex + 1 ∧ e'.status = .complete)) : Updates now current next := by
  obtain ⟨owner, batch, entry, rfl, hbatch, _, _, hnext, hentry, h⟩ := whenNext_store.mp h
  obtain ⟨b', e', hb', hset, hupdate, hmove⟩ := hwrite owner batch entry hnext h
  refine ⟨batch, b', hbatch, hb', .of_set hentry hset hupdate.progress ?_, fun i x x' hx hx' => ?_⟩
  · rcases hmove with h | ⟨h, hc⟩
    · exact .inl h
    · exact .inr ⟨h, hnext, hc⟩
  · rw [hset, List.getElem?_set] at hx'
    split at hx'
    · rename_i heq
      subst heq
      rw [hentry, Option.some.injEq] at hx
      have hlt := (List.getElem?_eq_some_iff.mp hentry).1
      simp only [hlt, if_true, Option.some.injEq] at hx'
      exact hx ▸ hx' ▸ hupdate
    · rw [hx, Option.some.injEq] at hx'
      exact .kept hx'.symm

theorem storeLocal_updates {expects : Entry → Bool}
    (h : storeLocal call nextIndex expects result now current = .store next) :
    Updates now current next := by
  refine updates_of_next h fun owner batch entry hnext h => ?_
  split at h
  · rename_i hpending
    cases result with
    | none => cases h
    | some r =>
      simp only [Write.store.injEq] at h
      subst h
      exact ⟨_, _, rfl, rfl, .answered (by simp [hpending.1]) rfl rfl rfl, .inr ⟨rfl, rfl⟩⟩
  · cases h

theorem storeGuidance_updates {result : QueueResult}
    (h : storeGuidance call nextIndex result now current = .store next) :
    Updates now current next :=
  storeLocal_updates h

theorem storePolicyError_updates
    (h : storePolicyError call nextIndex result now current = .store next) :
    Updates now current next := storeLocal_updates h

theorem storePlanningError_updates
    (h : storePlanningError call nextIndex result now current = .store next) :
    Updates now current next := storeLocal_updates h

theorem storeSingleCache_updates
    (h : storeSingleCache call nextIndex result now current = .store next) :
    Updates now current next := by
  refine updates_of_next h fun owner batch entry hnext h => ?_
  split at h
  · rename_i hpending
    cases result with
    | none => cases h
    | some r =>
      simp only [Write.store.injEq] at h
      subst h
      exact ⟨_, _, rfl, rfl, .answered (by simp [hpending.2.1]) rfl rfl rfl, .inr ⟨rfl, rfl⟩⟩
  · cases h

theorem storeSingleQuotaError_updates
    (h : storeSingleQuotaError call nextIndex result now current = .store next) :
    Updates now current next := by
  refine updates_of_next h fun owner batch entry hnext h => ?_
  split at h
  · rename_i hpending
    cases result with
    | none => cases h
    | some r =>
      simp only [Write.store.injEq] at h
      subst h
      exact ⟨_, _, rfl, rfl, .answered (by simp [hpending]) rfl rfl rfl, .inr ⟨rfl, rfl⟩⟩
  · cases h

theorem storePreDispatchDenial_updates
    (h : storePreDispatchDenial call index result now current = .store next) :
    Updates now current next := by
  refine updates_of_next h fun owner batch entry hnext h => ?_
  split at h
  · rename_i hrequesting
    cases result with
    | none => cases h
    | some r =>
      simp only [Write.store.injEq] at h
      subst h
      exact ⟨_, _, rfl, rfl, .answered (by simp [hrequesting.2]) rfl rfl rfl, .inr ⟨rfl, rfl⟩⟩
  · cases h

theorem storeSingle_updates (h : storeSingle call nextIndex result now current = .store next) :
    Updates now current next := by
  refine updates_of_next h fun owner batch entry hnext h => ?_
  split at h
  · rename_i hrequesting
    cases result with
    | none => cases h
    | some r =>
      simp only [Write.store.injEq] at h
      subst h
      refine ⟨_, _, rfl, rfl, .settled (some r) hrequesting.2.2 rfl ?_ ?_, .inr ⟨rfl, rfl⟩⟩
      · exact setAttempt_provider_attempt_id entry _ now
      · exact setAttempt_finalAttempt entry _ now
  · cases h

theorem recoverSingle_updates {id : Option JsString} {result : QueueResult}
    (h : recoverSingle call index id result now current = .store next) :
    Updates now current next := by
  refine updates_of_next h fun owner batch entry hnext h => ?_
  split at h
  · rename_i hrequesting
    cases hattempt : entry.provider_attempt with
    | none => simp [hattempt] at h
    | some record =>
      simp only [hattempt, Write.store.injEq] at h
      subst h
      exact ⟨_, _, rfl, rfl, .recovered result.ok record hrequesting.1 rfl rfl hattempt rfl, .inr ⟨rfl, rfl⟩⟩
  · cases h

theorem grantSingle_updates (h : grantSingle call nextIndex quota now current = .store next) :
    Updates now current next := by
  refine updates_of_next h fun owner batch entry hnext h => ?_
  split at h
  · rename_i hpending
    simp only [Write.store.injEq] at h
    subst h
    exact ⟨_, _, rfl, rfl, .started hpending.1 rfl, .inl rfl⟩
  · cases h

/-- A callback that completes a whole group. -/
theorem updates_of_group {α : Type} {update : α → Entry → Option Entry} {items : List (Nat × α)}
    {owner : Owner} {batch b' : Batch} (hbatch : owner.batch = some batch)
    (hnext : next.batch = some b') (hcontiguous : Contiguous batch.next_index (items.map (·.1)))
    (hupdate : updateEntries update items batch.entries = some entries)
    (hmember : ∀ {index : Nat} {item : α} {e e' : Entry}, (index, item) ∈ items →
      batch.entries[index]? = some e → update item e = some e' →
        e.status ≠ .complete ∧ e.Update now e')
    (hcomplete : ∀ {item : α} {e e' : Entry}, update item e = some e' → e'.status = .complete)
    (hentries : b'.entries = entries)
    (hindex : b'.next_index = afterGroup batch.next_index (items.map (·.1))) :
    Updates now (some owner) next := by
  refine ⟨batch, b', hbatch, hnext, .of_group hcontiguous hupdate
    (fun hmem he hu => (hmember hmem he hu).1) hcomplete hentries hindex, fun i x x' hx hx' => ?_⟩
  rw [hentries] at hx'
  by_cases hi : i ∈ items.map (·.1)
  · obtain ⟨⟨index, item⟩, hmem, rfl⟩ := List.mem_map.mp hi
    obtain ⟨e, e', he, hu, he'⟩ := updateEntries_spec hcontiguous.nodup hupdate hmem
    rw [hx, Option.some.injEq] at he
    rw [hx', Option.some.injEq] at he'
    subst he he'
    exact (hmember hmem hx hu).2
  · rw [updateEntries_frame hupdate hi, hx, Option.some.injEq] at hx'
    exact .kept hx'.symm

/-- The loops over pending members only meet open entries. -/
theorem completePending_some {complete : QueueResult → Entry → Entry}
    (h : completePending complete result e = some e') :
    e.status ≠ .complete ∧ ∃ r, result = some r ∧ e' = complete r e := by
  unfold completePending at h
  split at h
  · rename_i hpending
    obtain ⟨r, hr, rfl⟩ := Option.map_eq_some_iff.mp h
    exact ⟨by simp [hpending], r, hr, rfl⟩
  · cases h

theorem storeGroupCache_updates
    (h : storeGroupCache call nextIndex group items now current = .store next)
    (hcontiguous : Contiguous nextIndex (items.map (·.1))) : Updates now current next := by
  obtain ⟨owner, batch, rfl, hbatch, _, _, h⟩ := whenLive_store.mp h
  split at h
  · rename_i hguard
    obtain ⟨rfl, _⟩ := hguard
    split at h
    · cases h
    · rename_i entries hentries
      simp only [Write.store.injEq] at h
      subst h
      refine updates_of_group hbatch rfl hcontiguous hentries ?_ ?_ rfl rfl
      · intro _ _ _ _ _ _ hu
        obtain ⟨hopen, _, _, rfl⟩ := completePending_some hu
        exact ⟨hopen, .answered hopen rfl rfl rfl⟩
      · intro _ _ _ hu
        obtain ⟨_, _, _, rfl⟩ := completePending_some hu
        rfl
  · cases h

theorem storeGroupQuotaError_updates
    (h : storeGroupQuotaError call nextIndex group items now current = .store next)
    (hcontiguous : Contiguous nextIndex (items.map (·.1))) : Updates now current next := by
  obtain ⟨owner, batch, rfl, hbatch, _, _, h⟩ := whenLive_store.mp h
  split at h
  · rename_i hguard
    subst hguard
    split at h
    · cases h
    · rename_i entries hentries
      simp only [Write.store.injEq] at h
      subst h
      refine updates_of_group hbatch rfl hcontiguous hentries ?_ ?_ rfl rfl
      · intro _ _ _ _ _ _ hu
        obtain ⟨hopen, _, _, rfl⟩ := completePending_some hu
        exact ⟨hopen, .answered hopen rfl rfl rfl⟩
      · intro _ _ _ hu
        obtain ⟨_, _, _, rfl⟩ := completePending_some hu
        rfl
  · cases h

/-- The checked members of a group are open. -/
theorem awaitsGroup_open (hcheck : checkEntries (awaitsGroup group) items entries = true)
    {item : Option QueueResult} (hmem : (index, item) ∈ items) (he : entries[index]? = some e) :
    e.status = .requesting := by
  obtain ⟨entry, hentry, hawaits⟩ := checkEntries_spec hcheck hmem
  rw [he, Option.some.injEq] at hentry
  subst hentry
  simp only [awaitsGroup, Bool.and_eq_true, decide_eq_true_eq] at hawaits
  exact hawaits.1.1

theorem recoverGroup_updates {physicalResult : QueueResult}
    (h : recoverGroup call nextIndex group items physicalResult now current = .store next)
    (hcontiguous : Contiguous nextIndex (items.map (·.1))) : Updates now current next := by
  obtain ⟨owner, batch, rfl, hbatch, _, _, h⟩ := whenLive_store.mp h
  split at h
  · rename_i hguard
    obtain ⟨rfl, _, hcheck⟩ := hguard
    split at h
    · cases h
    · rename_i entries hentries
      simp only [Write.store.injEq] at h
      subst h
      refine updates_of_group hbatch rfl hcontiguous hentries ?_ ?_ rfl rfl
      · intro index item e e' hmem he hu
        have hrequesting := awaitsGroup_open hcheck hmem he
        obtain ⟨_, _, rfl⟩ := Option.map_eq_some_iff.mp hu
        exact ⟨by simp [hrequesting], .settled (some physicalResult) hrequesting rfl
          (setAttempt_provider_attempt_id e _ now) (setAttempt_finalAttempt e _ now)⟩
      · intro item e e' hu
        obtain ⟨_, _, rfl⟩ := Option.map_eq_some_iff.mp hu
        rfl
  · cases h

theorem storeGroup_updates {physicalResult : Option QueueResult}
    (h : storeGroup call nextIndex group items physicalResult now current = .store next)
    (hcontiguous : Contiguous nextIndex (items.map (·.1))) : Updates now current next := by
  obtain ⟨owner, batch, rfl, hbatch, _, _, h⟩ := whenLive_store.mp h
  split at h
  · rename_i hguard
    obtain ⟨rfl, _, _, hcheck⟩ := hguard
    split at h
    · cases h
    · rename_i entries hentries
      simp only [Write.store.injEq] at h
      subst h
      refine updates_of_group hbatch rfl hcontiguous hentries ?_ ?_ rfl rfl
      · intro index item e e' hmem he hu
        have hrequesting := awaitsGroup_open hcheck hmem he
        obtain ⟨_, _, rfl⟩ := Option.map_eq_some_iff.mp hu
        exact ⟨by simp [hrequesting], .settled physicalResult hrequesting rfl
          (setAttempt_provider_attempt_id e _ now) (setAttempt_finalAttempt e _ now)⟩
      · intro item e e' hu
        obtain ⟨_, _, rfl⟩ := Option.map_eq_some_iff.mp hu
        rfl
  · cases h

/-- What a granted group looked like: every member was pending and is requesting now. -/
theorem grantGroup_members
    (h : grantGroup call nextIndex id group indexes quota now current = .store next)
    (hnodup : indexes.Nodup) :
    ∃ b b', batchOf current = some b ∧ next.batch = some b' ∧ b'.next_index = b.next_index ∧
      b'.entries.length = b.entries.length ∧
      (∀ i ∈ indexes, ∃ e, b.entries[i]? = some e ∧ e.status = .pending ∧
        b'.entries[i]? = some (startedEntry now e)) ∧
      ∀ i, i ∉ indexes → b'.entries[i]? = b.entries[i]? := by
  obtain ⟨owner, batch, rfl, hbatch, _, _, h⟩ := whenLive_store.mp h
  simp only at h
  split at h
  · rename_i hguard
    obtain ⟨_, _, _, _, hcheck⟩ := hguard
    have hkeys : (indexes.map fun index => (index, ())).map (·.1) = indexes := by
      simp [Function.comp_def]
    split at h
    · cases h
    · rename_i entries hentries
      simp only [Write.store.injEq] at h
      subst h
      refine ⟨batch, _, hbatch, rfl, rfl, updateEntries_length hentries, ?_, ?_⟩
      · intro i hi
        have hmem : (i, ()) ∈ indexes.map fun index => (index, ()) := by simpa using hi
        obtain ⟨e, e', he, hu, he'⟩ := updateEntries_spec (by rw [hkeys]; exact hnodup) hentries hmem
        obtain ⟨e'', he'', hawaits⟩ := checkEntries_spec hcheck hmem
        rw [he, Option.some.injEq] at he''
        subst he''
        simp only [Option.some.injEq] at hu
        subst hu
        simp only [awaitsGrant, Bool.and_eq_true, decide_eq_true_eq] at hawaits
        exact ⟨e, he, hawaits.1.2, he'⟩
      · intro i hi
        exact updateEntries_frame hentries (by rw [hkeys]; exact hi)
  · cases h

theorem grantGroup_updates
    (h : grantGroup call nextIndex id group indexes quota now current = .store next)
    (hnodup : indexes.Nodup) : Updates now current next := by
  obtain ⟨b, b', hb, hb', hnext, hlength, hmembers, hframe⟩ := grantGroup_members h hnodup
  have hupdate : ∀ (i : Nat) (e e' : Entry), b.entries[i]? = some e → b'.entries[i]? = some e' →
      e.Update now e' := by
    intro i e e' he he'
    by_cases hi : i ∈ indexes
    · obtain ⟨x, hx, hpending, hx'⟩ := hmembers i hi
      rw [he, Option.some.injEq] at hx
      rw [he', Option.some.injEq] at hx'
      subst hx hx'
      exact .started hpending rfl
    · rw [hframe i hi, he, Option.some.injEq] at he'
      exact .kept he'.symm
  exact ⟨b, b', hb, hb', .of_entries hnext hlength fun he he' => (hupdate _ _ _ he he').progress,
    hupdate⟩

/-- What the surrounding program guarantees about a callback it hands out. -/
def Callback.Fits (current : Option Owner) : Callback → Prop
  | .skipComplete nextIndex => ∀ b e, batchOf current = some b → b.entries[nextIndex]? = some e →
      e.status = .complete
  | .recoverGroup nextIndex _ items _ | .storeGroupCache nextIndex _ items
  | .storeGroupQuotaError nextIndex _ items | .storeGroup nextIndex _ items _ =>
    Contiguous nextIndex (items.map (·.1))
  | .grantGroup nextIndex _ _ indexes _ => Contiguous nextIndex indexes
  | .commitAttemptIntent _ attempts => (attempts.map (·.1)).Nodup ∧
      ∀ item ∈ attempts, item.2.state = .DISPATCH_INTENT_COMMITTED
  | _ => True

/-- Whether a callback only writes an attempt that its thread hands it. -/
def Callback.writesAttempt : Callback → Bool
  | .commitAttemptIntent _ _ | .recordResponse _ _ _ => true
  | _ => false

/-- The step lemma of the queue for the callbacks that handle attempts of their own accord. -/
theorem Callback.run_updates {callback : Callback} (h : callback.run call now current = .store next)
    (hfits : callback.Fits current) (hwrites : callback.writesAttempt = false) :
    Updates now current next := by
  cases callback with
  | skipComplete nextIndex => exact skipComplete_updates h hfits
  | recoverSingle => exact recoverSingle_updates h
  | recoverGroup => exact recoverGroup_updates h hfits
  | markRequestingUnknown => exact markRequestingUnknown_updates h
  | storeGuidance => exact storeGuidance_updates h
  | storePolicyError => exact storePolicyError_updates h
  | storePlanningError => exact storePlanningError_updates h
  | storeGroupCache => exact storeGroupCache_updates h hfits
  | storeGroupQuotaError => exact storeGroupQuotaError_updates h hfits
  | grantGroup => exact grantGroup_updates h (Contiguous.nodup hfits)
  | storeGroup => exact storeGroup_updates h hfits
  | storeSingleCache => exact storeSingleCache_updates h
  | storeSingleQuotaError => exact storeSingleQuotaError_updates h
  | grantSingle => exact grantSingle_updates h
  | storePreDispatchDenial => exact storePreDispatchDenial_updates h
  | commitAttemptIntent => cases hwrites
  | recordResponse => cases hwrites
  | storeSingle => exact storeSingle_updates h

/-- The step lemma of the queue: every callback that stores advances the record. -/
theorem Callback.run_advances {callback : Callback}
    (h : callback.run call now current = .store next) (hfits : callback.Fits current) :
    Advances current next := by
  cases hwrites : callback.writesAttempt with
  | false => exact (Callback.run_updates h hfits hwrites).advances
  | true =>
    cases callback with
    | commitAttemptIntent => exact commitAttemptIntent_advances h
    | recordResponse => exact recordResponse_advances h
    | _ => cases hwrites

end SellerAgents.BatchQueue
