import SellerAgents.BatchQueue.Callbacks

open SellerAgents.Js SellerAgents.Execution

namespace SellerAgents.BatchQueue

/-- The batch of a record. -/
def batchOf (current : Option Owner) : Option Batch := current.bind (·.batch)

theorem batchOf_some (owner : Owner) : batchOf (some owner) = owner.batch := rfl

@[simp] theorem setAttempt_status (entry : Entry) (attempt : Option ProviderAttempt) (now : Int) :
    (setAttempt entry attempt now).status = entry.status := by
  cases attempt <;> rfl

@[simp] theorem setAttempt_report_text (entry : Entry) (attempt : Option ProviderAttempt)
    (now : Int) : (setAttempt entry attempt now).report_text = entry.report_text := by
  cases attempt <;> rfl

@[simp] theorem setAttempt_request_id (entry : Entry) (attempt : Option ProviderAttempt)
    (now : Int) : (setAttempt entry attempt now).request_id = entry.request_id := by
  cases attempt <;> rfl

@[simp] theorem setAttempt_http_status (entry : Entry) (attempt : Option ProviderAttempt)
    (now : Int) : (setAttempt entry attempt now).http_status = entry.http_status := by
  cases attempt <;> rfl

@[simp] theorem setAttempt_provider_attempt (entry : Entry) (attempt : Option ProviderAttempt)
    (now : Int) :
    (setAttempt entry attempt now).provider_attempt = attempt.or entry.provider_attempt := by
  cases attempt <;> rfl

@[simp] theorem setAttempt_provider_attempt_id (entry : Entry) (attempt : Option ProviderAttempt)
    (now : Int) : (setAttempt entry attempt now).provider_attempt_id = entry.provider_attempt_id := by
  cases attempt <;> rfl

/-- A callback that stores saw a live owner with a batch. -/
theorem whenLive_store {call : Call} {current : Option Owner} {write : Owner → Batch → Write}
    {next : Owner} : whenLive call current write = .store next ↔
      ∃ owner batch, current = some owner ∧ owner.batch = some batch ∧
        call.ownerMatches owner = true ∧ call.isCollecting owner = true ∧
        write owner batch = .store next := by
  cases current with
  | none => simp [whenLive]
  | some owner =>
    cases hbatch : owner.batch with
    | none => simp [whenLive, hbatch]
    | some batch =>
      simp only [whenLive, hbatch]
      constructor
      · intro h
        split at h
        · rename_i hlive
          exact ⟨owner, batch, rfl, hbatch, hlive.1, hlive.2, h⟩
        · cases h
      · rintro ⟨owner', batch', howner, hbatch', hmatch, hcollect, h⟩
        cases howner
        rw [hbatch, Option.some.injEq] at hbatch'
        subst hbatch'
        rw [if_pos ⟨hmatch, hcollect⟩]
        exact h

variable {b b' : Batch} {e e' : Entry} {indexes : List Nat} {i nextIndex : Nat}

/-- A callback that stores at the next entry saw that entry. -/
theorem whenNext_store {call : Call} {current : Option Owner}
    {write : Owner → Batch → Entry → Write} {next : Owner} :
    whenNext call nextIndex current write = .store next ↔
      ∃ owner batch entry, current = some owner ∧ owner.batch = some batch ∧
        call.ownerMatches owner = true ∧ call.isCollecting owner = true ∧
        batch.next_index = nextIndex ∧ batch.entries[nextIndex]? = some entry ∧
        write owner batch entry = .store next := by
  simp only [whenNext, whenLive_store]
  constructor
  · rintro ⟨owner, batch, hs, hb, hm, hc, h⟩
    split at h
    · rename_i hnext
      cases hentry : batch.entries[nextIndex]? with
      | none => simp [hentry] at h
      | some entry => exact ⟨owner, batch, entry, hs, hb, hm, hc, hnext, hentry, by simpa [hentry] using h⟩
    · cases h
  · rintro ⟨owner, batch, entry, hs, hb, hm, hc, hnext, hentry, h⟩
    exact ⟨owner, batch, hs, hb, hm, hc, by simpa [hnext, hentry] using h⟩

section UpdateEntries

variable {α : Type} {update : α → Entry → Option Entry}

variable {items : List (Nat × α)} {entries result : List Entry} {index : Nat} {item : α}

/-- An update step that succeeds, and the rest of the loop. -/
theorem updateEntries_cons {rest : List (Nat × α)} :
    updateEntries update ((index, item) :: rest) entries = some result ↔
      ∃ entry next, entries[index]? = some entry ∧ update item entry = some next ∧
        updateEntries update rest (entries.set index next) = some result := by
  simp only [updateEntries]
  cases entries[index]? with
  | none => simp
  | some entry => cases h : update item entry <;> simp [h]

theorem updateEntries_length (h : updateEntries update items entries = some result) :
    result.length = entries.length := by
  induction items generalizing entries with
  | nil =>
    simp only [updateEntries, Option.some.injEq] at h
    rw [h]
  | cons item rest ih =>
    obtain ⟨entry, next, _, _, hrest⟩ := updateEntries_cons.mp h
    simpa using ih hrest

/-- A loop that respects a preorder on entries leads to entries above the old ones. -/
theorem updateEntries_rel {R : Entry → Entry → Prop} (refl : ∀ e, R e e)
    (trans : ∀ e e' e'', R e e' → R e' e'' → R e e'')
    (hstep : ∀ item e e', update item e = some e' → R e e')
    (h : updateEntries update items entries = some result) {i : Nat} {e e' : Entry}
    (he : entries[i]? = some e) (he' : result[i]? = some e') : R e e' := by
  induction items generalizing entries e with
  | nil =>
    simp only [updateEntries, Option.some.injEq] at h
    rw [h, he', Option.some.injEq] at he
    subst he
    exact refl _
  | cons item rest ih =>
    obtain ⟨entry, next, hentry, hupdate, hrest⟩ := updateEntries_cons.mp h
    by_cases heq : item.1 = i
    · subst heq
      rw [hentry, Option.some.injEq] at he
      subst he
      refine trans _ _ _ (hstep _ _ _ hupdate) (ih hrest ?_)
      have hlt : item.1 < entries.length := (List.getElem?_eq_some_iff.mp hentry).1
      simp [hlt]
    · exact ih hrest (by rw [List.getElem?_set_ne heq]; exact he)

/-- A loop leaves the entries it does not name alone. -/
theorem updateEntries_frame (h : updateEntries update items entries = some result) {i : Nat}
    (hi : i ∉ items.map (·.1)) : result[i]? = entries[i]? := by
  induction items generalizing entries with
  | nil =>
    simp only [updateEntries, Option.some.injEq] at h
    rw [h]
  | cons item rest ih =>
    obtain ⟨entry, next, _, _, hrest⟩ := updateEntries_cons.mp h
    simp only [List.map_cons, List.mem_cons, not_or] at hi
    rw [ih hrest hi.2, List.getElem?_set_ne (Ne.symm hi.1)]

/-- A loop over distinct indexes updates each named entry once, from its old value. -/
theorem updateEntries_spec (hnodup : (items.map (·.1)).Nodup)
    (h : updateEntries update items entries = some result) (hmem : (index, item) ∈ items) :
    ∃ entry next, entries[index]? = some entry ∧ update item entry = some next ∧
      result[index]? = some next := by
  induction items generalizing entries with
  | nil => simp at hmem
  | cons first rest ih =>
    obtain ⟨entry, next, hentry, hupdate, hrest⟩ := updateEntries_cons.mp h
    simp only [List.map_cons, List.nodup_cons] at hnodup
    rcases List.mem_cons.mp hmem with rfl | hmem
    · refine ⟨entry, next, hentry, hupdate, ?_⟩
      rw [updateEntries_frame hrest hnodup.1]
      simp [(List.getElem?_eq_some_iff.mp hentry).1]
    · obtain ⟨entry', next', hentry', hupdate', hresult⟩ := ih hnodup.2 hrest hmem
      have hne : first.1 ≠ index := by
        rintro rfl
        exact hnodup.1 (List.mem_map.mpr ⟨_, hmem, rfl⟩)
      rw [List.getElem?_set_ne hne] at hentry'
      exact ⟨entry', next', hentry', hupdate', hresult⟩

/-- The checks of a callback that passed. -/
theorem checkEntries_spec {check : α → Entry → Bool} (h : checkEntries check items entries = true)
    (hmem : (index, item) ∈ items) :
    ∃ entry, entries[index]? = some entry ∧ check item entry = true := by
  have hitem := List.all_eq_true.mp h _ hmem
  exact (Option.any_eq_true _ _).mp hitem

end UpdateEntries

/-- The order of the statuses of an entry. -/
def EntryStatus.rank : EntryStatus → Nat
  | .pending => 0
  | .requesting => 1
  | .complete => 2

theorem EntryStatus.rank_complete {status : EntryStatus} : 2 ≤ status.rank ↔ status = .complete := by
  cases status <;> simp [rank]

theorem EntryStatus.rank_started {status : EntryStatus} : 1 ≤ status.rank ↔ status ≠ .pending := by
  cases status <;> simp [rank]

/-- What every step does to an entry: its status only moves forward, and the result of a complete
entry stays. -/
structure Entry.Progress (e e' : Entry) : Prop where
  status : e.status.rank ≤ e'.status.rank
  frozen : e.status = .complete → e'.report_text = e.report_text ∧ e'.request_id = e.request_id ∧
    e'.http_status = e.http_status

theorem Entry.Progress.refl (e : Entry) : e.Progress e := ⟨le_refl _, fun _ => ⟨rfl, rfl, rfl⟩⟩

theorem Entry.Progress.complete (h : e.Progress e') (hc : e.status = .complete) :
    e'.status = .complete :=
  EntryStatus.rank_complete.mp (le_trans (EntryStatus.rank_complete.mpr hc) h.status)

theorem Entry.Progress.trans {e'' : Entry} (h : e.Progress e') (h' : e'.Progress e'') :
    e.Progress e'' where
  status := le_trans h.status h'.status
  frozen hc := by
    obtain ⟨hr, hi, hh⟩ := h.frozen hc
    obtain ⟨hr', hi', hh'⟩ := h'.frozen (h.complete hc)
    exact ⟨hr'.trans hr, hi'.trans hi, hh'.trans hh⟩

/-- An entry that is not complete may be given any status that is not behind its own. -/
theorem Entry.Progress.of_open (hopen : e.status ≠ .complete)
    (hrank : e.status.rank ≤ e'.status.rank) : e.Progress e' :=
  ⟨hrank, fun hc => absurd hc hopen⟩

/-- Completing an entry that is open. -/
theorem Entry.Progress.completing (hopen : e.status ≠ .complete) (hc : e'.status = .complete) :
    e.Progress e' := by
  refine .of_open hopen ?_
  rw [hc]
  cases e.status <;> simp [EntryStatus.rank]

/-- An update that keeps the status and the result. -/
theorem Entry.Progress.of_same (hs : e'.status = e.status) (hr : e'.report_text = e.report_text)
    (hi : e'.request_id = e.request_id) (hh : e'.http_status = e.http_status) : e.Progress e' :=
  ⟨by rw [hs], fun _ => ⟨hr, hi, hh⟩⟩

/-- What every step does to a batch: the entries progress, and the next index only moves over
entries that are complete. -/
structure Batch.Progress (b b' : Batch) : Prop where
  next_index : b.next_index ≤ b'.next_index
  length : b'.entries.length = b.entries.length
  entries : ∀ {i : Nat} {e e' : Entry}, b.entries[i]? = some e → b'.entries[i]? = some e' → e.Progress e'
  passed : ∀ {i : Nat} {e' : Entry}, b.next_index ≤ i → i < b'.next_index → b'.entries[i]? = some e' →
    e'.status = .complete

theorem Batch.Progress.refl (b : Batch) : b.Progress b where
  next_index := le_refl _
  length := rfl
  entries he he' := by
    rw [he, Option.some.injEq] at he'
    exact he' ▸ .refl _
  passed hle hlt _ := absurd hle (by omega)

/-- The entry an entry progressed from. -/
theorem Batch.Progress.source (h : b.Progress b') (he' : b'.entries[i]? = some e') :
    ∃ e, b.entries[i]? = some e ∧ e.Progress e' := by
  have hlt : i < b.entries.length := by
    rw [← h.length]
    exact (List.getElem?_eq_some_iff.mp he').1
  exact ⟨_, List.getElem?_eq_getElem hlt, h.entries (List.getElem?_eq_getElem hlt) he'⟩

/-- The entry an entry progressed to. -/
theorem Batch.Progress.target (h : b.Progress b') (he : b.entries[i]? = some e) :
    ∃ e', b'.entries[i]? = some e' ∧ e.Progress e' := by
  have hlt : i < b'.entries.length := by
    rw [h.length]
    exact (List.getElem?_eq_some_iff.mp he).1
  exact ⟨_, List.getElem?_eq_getElem hlt, h.entries he (List.getElem?_eq_getElem hlt)⟩

theorem Batch.Progress.trans {b'' : Batch} (h : b.Progress b') (h' : b'.Progress b'') :
    b.Progress b'' where
  next_index := le_trans h.next_index h'.next_index
  length := h'.length.trans h.length
  entries he he'' := by
    obtain ⟨e', he', hprogress⟩ := h.target he
    exact hprogress.trans (h'.entries he' he'')
  passed {i e''} hle hlt he'' := by
    by_cases hmid : i < b'.next_index
    · obtain ⟨e', he', hprogress⟩ := h'.source he''
      exact hprogress.complete (h.passed hle hmid he')
    · exact h'.passed (by omega) hlt he''

/-- A batch whose next index has only passed complete entries. -/
def Batch.PrefixComplete (b : Batch) : Prop :=
  ∀ (i : Nat) (e : Entry), i < b.next_index → b.entries[i]? = some e → e.status = .complete

theorem Batch.Progress.prefixComplete (h : b.Progress b') (hb : b.PrefixComplete) :
    b'.PrefixComplete := by
  intro i e' hlt he'
  by_cases hle : i < b.next_index
  · obtain ⟨e, he, hprogress⟩ := h.source he'
    exact hprogress.complete (hb i e hle he)
  · exact h.passed (by omega) hlt he'

/-- New entries without a move of the next index. -/
theorem Batch.Progress.of_entries (hnext : b'.next_index = b.next_index)
    (hlength : b'.entries.length = b.entries.length)
    (hentries : ∀ {i : Nat} {e e' : Entry}, b.entries[i]? = some e → b'.entries[i]? = some e' → e.Progress e') :
    b.Progress b' where
  next_index := by omega
  length := hlength
  entries := hentries
  passed hle hlt _ := absurd hle (by omega)

/-- A new entry at the next index that keeps the status moving. -/
theorem Batch.Progress.of_set (hget : b.entries[i]? = some e)
    (hset : b'.entries = b.entries.set i e') (hprogress : e.Progress e')
    (hnext : b'.next_index = b.next_index ∨
      b'.next_index = i + 1 ∧ b.next_index = i ∧ e'.status = .complete) : b.Progress b' := by
  have hlt : i < b.entries.length := (List.getElem?_eq_some_iff.mp hget).1
  constructor
  · rcases hnext with h | ⟨h, h', _⟩ <;> omega
  · rw [hset, List.length_set]
  · intro j x x' hx hx'
    rw [hset, List.getElem?_set] at hx'
    split at hx'
    · rename_i heq
      subst heq
      rw [hget, Option.some.injEq] at hx
      simp only [Option.some.injEq] at hx'
      exact hx ▸ hx' ▸ hprogress
    · rw [hx, Option.some.injEq] at hx'
      exact hx' ▸ .refl _
  · intro j x' hle hltj hx'
    rcases hnext with h | ⟨h, h', hc⟩
    · omega
    · have hj : j = i := by omega
      subst hj
      rw [hset] at hx'
      simp only [List.getElem?_set, hlt, if_true, Option.some.injEq] at hx'
      exact hx' ▸ hc

/-- The indexes of a group: consecutive, from the next index on. -/
def Contiguous (nextIndex : Nat) (indexes : List Nat) : Prop :=
  indexes ≠ [] ∧ indexes = List.range' nextIndex indexes.length

theorem Contiguous.nodup (h : Contiguous nextIndex indexes) :
    indexes.Nodup := by
  rw [h.2]
  exact List.nodup_range'

/-- The index after a group is the one after its last member. -/
theorem Contiguous.afterGroup (h : Contiguous nextIndex indexes) :
    afterGroup nextIndex indexes = nextIndex + indexes.length := by
  have hpos : 0 < indexes.length := List.length_pos_iff.mpr h.1
  rw [BatchQueue.afterGroup, h.2]
  generalize indexes.length = n at hpos
  obtain ⟨n, rfl⟩ : ∃ m, n = m + 1 := ⟨n - 1, by omega⟩
  simp [List.getLast?_range']
  omega

theorem Contiguous.mem (h : Contiguous nextIndex indexes) :
    i ∈ indexes ↔ nextIndex ≤ i ∧ i < nextIndex + indexes.length := by
  rw [h.2]
  simp [List.mem_range'_1]

/-- A loop over a group that completes open entries, with the next index moved behind the group. -/
theorem Batch.Progress.of_group {α : Type} {update : α → Entry → Option Entry}
    {items : List (Nat × α)} {entries : List Entry}
    (hcontiguous : Contiguous b.next_index (items.map (·.1)))
    (hupdate : updateEntries update items b.entries = some entries)
    (hopen : ∀ {index : Nat} {item : α} {e e' : Entry}, (index, item) ∈ items → b.entries[index]? = some e →
      update item e = some e' → e.status ≠ .complete)
    (hcomplete : ∀ {item : α} {e e' : Entry}, update item e = some e' → e'.status = .complete)
    (hentries : b'.entries = entries)
    (hnext : b'.next_index = afterGroup b.next_index (items.map (·.1))) : b.Progress b' := by
  rw [hcontiguous.afterGroup] at hnext
  have hspec : ∀ {i : Nat}, i ∈ items.map (·.1) → ∃ e e', b.entries[i]? = some e ∧
      e.status ≠ .complete ∧ e'.status = .complete ∧ b'.entries[i]? = some e' := by
    intro i hi
    obtain ⟨⟨index, item⟩, hmem, rfl⟩ := List.mem_map.mp hi
    obtain ⟨e, e', he, hu, he'⟩ := updateEntries_spec hcontiguous.nodup hupdate hmem
    exact ⟨e, e', he, hopen hmem he hu, hcomplete hu, by rw [hentries, he']⟩
  constructor
  · omega
  · rw [hentries, updateEntries_length hupdate]
  · intro i x x' hx hx'
    by_cases hi : i ∈ items.map (·.1)
    · obtain ⟨e, e', he, hne, hc, he'⟩ := hspec hi
      rw [hx, Option.some.injEq] at he
      rw [hx', Option.some.injEq] at he'
      subst he he'
      exact .completing hne hc
    · rw [hentries, updateEntries_frame hupdate hi, hx, Option.some.injEq] at hx'
      exact hx' ▸ .refl _
  · intro i x' hle hlt hx'
    obtain ⟨e, e', _, _, hc, he'⟩ := hspec (hcontiguous.mem.mpr ⟨hle, by omega⟩)
    rw [hx', Option.some.injEq] at he'
    exact he' ▸ hc

end SellerAgents.BatchQueue
