import SellerAgents.Sync.Answer

open Relational SellerAgents.Js

namespace SellerAgents.Sync

/-- The row of an entity. -/
def entityAt (store : SyncStore) (accountId entityId : JsString) : Option SyncEntity :=
  store.entities.find? fun row => row.accountId = accountId && row.entityId = entityId

/-- The server revision of an entity, zero before it exists. -/
def revisionOf (row : Option SyncEntity) : Nat := (row.map SyncEntity.serverRevision).getD 0

/-- The binding fields or the store metadata of an entity. -/
def explicitOf (row : Option SyncEntity) : Option SyncPayload :=
  row.map fun row => explicitState row.state

/-- The state belongs to the entity id: a store's to its own, a binding's to its conversation's. -/
def Named (entityId : JsString) (state : SyncPayload) : Prop :=
  (state.kind.isStore = true ∧ some entityId = state.storeId.map (units "store:" ++ ·)) ∨
    ((state.kind = .BINDING_UPSERT ∨ state.kind = .FINISH) ∧
      entityId = conversationEntityId state.conversationKeyDigest)

/-- The markers of the state are as they are stored. -/
def StoredMarkers (state : SyncPayload) : Prop := ∀ marker ∈ markersOf state, marker.projected = marker

/-- What holds of every store that grew from the empty one. -/
structure Canonical (store : SyncStore) : Prop where
  unique : UniqueBy entityKey store.entities
  named : ∀ row ∈ store.entities, Named row.entityId row.state
  markers : ∀ row ∈ store.entities, StoredMarkers row.state

variable {platform : Platform} {store store' : SyncStore} {request : Request} {result : SyncResult}
  {entityId : JsString} {state state' : SyncPayload}

theorem Named.binding (h : Named entityId state) (hkind : state.kind.isBinding = true) :
    entityId = conversationEntityId state.conversationKeyDigest := by
  rcases h with ⟨hstore, -⟩ | ⟨-, hid⟩
  · cases hk : state.kind <;> simp [hk, SyncKind.isStore, SyncKind.isBinding] at hstore hkind
  · exact hid

/-- A conversation's id names no store. -/
theorem Named.conversation {digest : JsString} (h : Named (conversationEntityId digest) state) :
    state.kind = .BINDING_UPSERT ∨ state.kind = .FINISH := by
  rcases h with ⟨-, hid⟩ | ⟨hkind, -⟩
  · cases hstore : state.storeId with
    | none => simp [hstore] at hid
    | some storeId =>
      rw [hstore, Option.map_some, Option.some.injEq] at hid
      have hhead := congrArg List.head? hid
      simp [conversationEntityId, units] at hhead
  · exact hkind

theorem conversationEntityId_inj {digest digest' : JsString}
    (h : conversationEntityId digest = conversationEntityId digest') : digest = digest' :=
  List.append_cancel_left h

theorem Rereconciled.named (h : Rereconciled state state') (hnamed : Named entityId state) :
    Named entityId state' := by
  obtain ⟨_, _, _, _, _, rfl⟩ := h
  exact hnamed

theorem Rereconciled.storedMarkers (h : Rereconciled state state') : StoredMarkers state' := by
  obtain ⟨_, _, _, _, _, rfl⟩ := h
  intro marker hmarker
  simp only [markersOf, reconciled, Option.map_some, Option.getD_some, List.mem_map] at hmarker
  obtain ⟨original, -, rfl⟩ := hmarker
  exact projected_projected original

/-- The row an entry works on is the row of its canonical id. -/
theorem selected_head (h : Canonical store) (request : Request) :
    (selected store request).head? =
      entityAt store request.principal.accountId (canonicalEntityId request.entry) := by
  have hfilter : selected store request = store.entities.filter fun row =>
      row.accountId = request.principal.accountId &&
        row.entityId = canonicalEntityId request.entry := by
    apply List.filter_congr
    intro row hmem
    unfold canonicalEntityId
    by_cases hbinding : isBindingEntry request.entry = true
    · simp only [if_pos hbinding]
      congr 1
      by_cases hid : row.entityId = conversationEntityId request.entry.payload.conversationKeyDigest
      · simp [hid]
      · have hother : ¬ (row.state.conversationKeyDigest =
            request.entry.payload.conversationKeyDigest ∧ row.state.kind.isBinding = true) := by
          rintro ⟨hdigest, hkind⟩
          exact hid (hdigest ▸ (h.named row hmem).binding hkind)
        simpa [hid] using fun hdigest => by simpa [hdigest] using hother
    · simp [if_neg hbinding]
  rw [hfilter, List.head?_filter]
  rfl

/-- What the kernel answers on the entity of the request. -/
theorem Applied.answer (h : Applied platform store request result store') (hc : Canonical store) :
    Answer request.principal (canonicalEntry request.entry)
      ((entityAt store request.principal.accountId (canonicalEntityId request.entry)).map
        SyncEntity.state)
      (revisionOf (entityAt store request.principal.accountId (canonicalEntityId request.entry)))
      result := by
  have hanswer := h.answer_selected
  rw [selected_head hc] at hanswer
  exact hanswer

/-- An applied request writes the entity of its canonical id and no other. -/
theorem Applied.entityAt_eq (h : Applied platform store request result store') (hc : Canonical store)
    (accountId entityId : JsString) :
    entityAt store' accountId entityId =
      if accountId = request.principal.accountId ∧ entityId = canonicalEntityId request.entry then
        ((stateToWrite result).map (entityOf request result)).or (entityAt store accountId entityId)
      else entityAt store accountId entityId := by
  unfold entityAt
  rw [h.entities_eq, answeredEntities]
  cases stateToWrite result with
  | none => simp
  | some state =>
    simp only [writtenEntities, selected_head hc, Option.map_some, Option.some_or]
    cases hrow : entityAt store request.principal.accountId (canonicalEntityId request.entry) with
    | none =>
      simp only [List.find?_append, List.find?_singleton, entityOf]
      by_cases htarget : accountId = request.principal.accountId ∧
          entityId = canonicalEntityId request.entry
      · obtain ⟨rfl, rfl⟩ := htarget
        unfold entityAt at hrow
        simp [hrow]
      · have hnot : ¬ (request.principal.accountId = accountId ∧
            canonicalEntityId request.entry = entityId) := fun heq =>
          htarget ⟨heq.1.symm, heq.2.symm⟩
        simp [htarget, hnot]
    | some physical =>
      have hphysical := List.find?_some hrow
      simp only [Bool.and_eq_true, decide_eq_true_eq] at hphysical
      simp only [hphysical.2]
      by_cases htarget : accountId = request.principal.accountId ∧
          entityId = canonicalEntityId request.entry
      · obtain ⟨rfl, rfl⟩ := htarget
        rw [if_pos ⟨rfl, rfl⟩]
        exact find?_updateWhere_self hrow (by simp [entityOf])
      · rw [if_neg htarget]
        apply find?_updateWhere_other
        intro row _ hkey
        simp only [Bool.and_eq_true, decide_eq_true_eq] at hkey
        have hfalse : (decide (request.principal.accountId = accountId) &&
            decide (canonicalEntityId request.entry = entityId)) = false := by
          rw [← Bool.decide_and, decide_eq_false_iff_not]
          exact fun heq => htarget ⟨heq.1.symm, heq.2.symm⟩
        exact ⟨by rw [hkey.1, hkey.2]; exact hfalse, hfalse⟩

/-! Every store that grew from the empty one is canonical. -/

variable (entry : SyncEntry) (current : Option SyncPayload)

theorem canonicalEntry_kind : (canonicalEntry entry).kind = entry.kind := by
  unfold canonicalEntry
  split <;> rfl

theorem canonicalEntry_payload :
    (canonicalEntry entry).payload = entry.payload := by
  unfold canonicalEntry
  split <;> rfl

theorem canonicalEntry_baseRevision :
    (canonicalEntry entry).baseRevision = entry.baseRevision := by
  unfold canonicalEntry
  split <;> rfl

theorem canonicalEntry_entityId :
    (canonicalEntry entry).entityId = canonicalEntityId entry := by
  unfold canonicalEntry canonicalEntityId
  split <;> rfl

theorem statedBy_reconciliation :
    (statedBy entry current).reconciliation = none := by
  unfold statedBy
  split
  · split
    · split <;> rfl
    · rfl
  · split
    · split <;> rfl
    · rfl
  · rfl

theorem storedMarkers_statedBy :
    StoredMarkers (statedBy entry current) := by
  simp [StoredMarkers, markersOf, statedBy_reconciliation]

/-- The kind of what an entry states. -/
theorem statedBy_kind :
    (statedBy entry current).kind = entry.kind := by
  unfold statedBy
  split
  · split
    · split <;> rfl
    · rfl
  · split
    · split <;> rfl
    · rfl
  · rfl

theorem statedBy_storeId :
    (statedBy entry current).storeId = entry.payload.storeId := by
  unfold statedBy
  split
  · split
    · split <;> rfl
    · rfl
  · split
    · split <;> rfl
    · rfl
  · rfl

theorem statedBy_digest :
    (statedBy entry current).conversationKeyDigest = entry.payload.conversationKeyDigest := by
  unfold statedBy
  split
  · split
    · split <;> rfl
    · rfl
  · split
    · split <;> rfl
    · rfl
  · rfl

theorem named_statedBy {current : Option SyncPayload} {entry : SyncEntry} {principal : Principal}
    {serverRevision : Nat} (h : Accepts principal (canonicalEntry entry) current serverRevision) :
    Named (canonicalEntityId entry) (statedBy (canonicalEntry entry) current) := by
  by_cases hstore : (canonicalEntry entry).kind.isStore = true
  · have hnames := ((accepts_store_iff hstore).mp h).1
    refine .inl ⟨by rw [statedBy_kind, hstore], ?_⟩
    rw [statedBy_storeId, ← canonicalEntry_entityId]
    exact hnames.2.1
  · have hkind : (canonicalEntry entry).kind = .BINDING_UPSERT ∨ (canonicalEntry entry).kind = .FINISH := by
      unfold Accepts at h
      cases hk : (canonicalEntry entry).kind <;> simp_all [SyncKind.isStore]
    refine .inr ⟨by rw [statedBy_kind]; exact hkind, ?_⟩
    rw [statedBy_binding hkind]
    have hbinding : isBindingEntry entry = true := by
      rw [canonicalEntry_kind] at hkind
      unfold isBindingEntry
      rcases hkind with hk | hk <;> rw [hk] <;> rfl
    simp only [canonicalEntityId, if_pos hbinding, sanitizeExplicit, canonicalEntry_payload]

theorem mem_answeredEntities {row : SyncEntity} (h : row ∈ answeredEntities store request result) :
    row ∈ store.entities ∨
      ∃ state', stateToWrite result = some state' ∧ row = entityOf request result state' := by
  unfold answeredEntities at h
  cases hwrite : stateToWrite result with
  | none =>
    rw [hwrite] at h
    exact .inl h
  | some state' =>
    simp only [hwrite, writtenEntities] at h
    split at h
    · rcases mem_updateWhere.mp h with ⟨hmem, -⟩ | ⟨old, -, -, hold⟩
      · exact .inl hmem
      · exact .inr ⟨state', rfl, hold.symm⟩
    · rw [List.mem_append, List.mem_singleton] at h
      exact h.imp id fun heq => ⟨state', rfl, heq⟩

theorem entityAt_mem {accountId entityId : JsString} {row : SyncEntity}
    (h : entityAt store accountId entityId = some row) :
    row ∈ store.entities ∧ row.accountId = accountId ∧ row.entityId = entityId := by
  have hkey := List.find?_some h
  simp only [Bool.and_eq_true, decide_eq_true_eq] at hkey
  exact ⟨List.mem_of_find?_eq_some h, hkey⟩

/-- A binding entry works on a conversation, whose row holds a binding. -/
theorem Canonical.bindingRow (hc : Canonical store) {accountId : JsString} {entry : SyncEntry}
    {row : SyncEntity} (hbinding : entry.kind.isBinding = true)
    (hrow : entityAt store accountId (canonicalEntityId entry) = some row) :
    row.state.kind = .BINDING_UPSERT ∨ row.state.kind = .FINISH := by
  obtain ⟨hmem, -, hid⟩ := entityAt_mem hrow
  have hcanonical : canonicalEntityId entry = conversationEntityId entry.payload.conversationKeyDigest :=
    if_pos hbinding
  have hnamed := hc.named row hmem
  rw [hid, hcanonical] at hnamed
  exact hnamed.conversation

/-- What an applied request writes is named for its entity, with markers as they are stored. -/
theorem Applied.written (h : Applied platform store request result store') (hc : Canonical store)
    (hwrite : stateToWrite result = some state') :
    Named (canonicalEntityId request.entry) state' ∧ StoredMarkers state' := by
  cases h.answer hc with
  | kept _ _ hstate =>
    obtain ⟨state, hcurrent, hcase⟩ := hstate state' hwrite
    obtain ⟨row, hrow, rfl⟩ := Option.map_eq_some_iff.mp hcurrent
    obtain ⟨hmem, -, hid⟩ := entityAt_mem hrow
    have hnamed := hc.named row hmem
    rw [hid] at hnamed
    rcases hcase with rfl | ⟨-, hre⟩
    · exact ⟨hnamed, hc.markers row hmem⟩
    · exact ⟨hre.named hnamed, hre.storedMarkers⟩
  | replaced written haccepted _ hwritten hstate =>
    obtain rfl : written = state' := Option.some.inj (hwritten.symm.trans hwrite)
    rcases hstate with rfl | hre
    · exact ⟨named_statedBy haccepted, storedMarkers_statedBy _ _⟩
    · exact ⟨hre.named (named_statedBy haccepted), hre.storedMarkers⟩

theorem Applied.keepsCanonical (h : Applied platform store request result store')
    (hc : Canonical store) : Canonical store' where
  unique := h.unique hc.unique
  named := by
    intro row hrow
    rw [h.entities_eq] at hrow
    rcases mem_answeredEntities hrow with hmem | ⟨state', hwrite, rfl⟩
    · exact hc.named row hmem
    · exact (h.written hc hwrite).1
  markers := by
    intro row hrow
    rw [h.entities_eq] at hrow
    rcases mem_answeredEntities hrow with hmem | ⟨state', hwrite, rfl⟩
    · exact hc.markers row hmem
    · exact (h.written hc hwrite).2

theorem canonical_empty : Canonical {} where
  unique := uniqueBy_nil _
  named := by simp
  markers := by simp

theorem Canonical.next (hc : Canonical store) (step : SyncStep) :
    Canonical (step.next platform store) := by
  rcases step.next_cases platform store with hsame | ⟨tables, rfl, hnext⟩ | ⟨_, _, rfl, happlied⟩
  · rwa [hsame]
  · exact ⟨hc.unique, hc.named, hc.markers⟩
  · exact happlied.keepsCanonical hc

theorem canonical_run (hc : Canonical store) (steps : List SyncStep) :
    Canonical (run platform store steps) :=
  run_induct steps hc fun _ step hc => hc.next step

end SellerAgents.Sync
