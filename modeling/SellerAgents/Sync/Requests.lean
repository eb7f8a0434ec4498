import SellerAgents.Sync.Entities
import SellerAgents.Sync.MarkerRetention

open Relational SellerAgents.Js

namespace SellerAgents.Sync

/-- The conversation of a row that holds a binding. -/
def bindingKey (row : SyncEntity) : Option (JsString × JsString) :=
  if row.state.kind.isBinding then some (row.accountId, row.state.conversationKeyDigest) else none

/-- Every entity has one row, and every conversation one row with a binding. -/
structure OneRow (store : SyncStore) : Prop where
  entity : UniqueBy entityKey store.entities
  binding : UniqueBy bindingKey store.entities

/-- The requests have one receipt: one installation sends both under one request id. -/
def SameReceipt (first again : Request) : Prop :=
  again.principal.accountId = first.principal.accountId ∧
    again.principal.deviceId = first.principal.deviceId ∧
    again.entry.requestId = first.entry.requestId

/-- The receipt of the request stands in the store with this result. -/
def Recorded (platform : Platform) (store : SyncStore) (request : Request) (result : SyncResult) :
    Prop :=
  ∃ prior, store.receipts.find? request.isReceipt = some prior ∧ prior.result = result ∧
    prior.fingerprint = platform.fingerprint request.entry ∧
    prior.mutationId = request.entry.mutationId ∧ prior.entityId = request.entry.entityId

variable {platform : Platform} {store store' : SyncStore} {request first again : Request}
  {result : SyncResult} {state' : SyncPayload}

theorem SameReceipt.isReceipt_eq (h : SameReceipt first again) :
    again.isReceipt = first.isReceipt := by
  funext row
  unfold Request.isReceipt
  rw [h.1, h.2.1, h.2.2]

/-! Receipts stay. -/

theorem Recorded.next (h : Recorded platform store request result) (step : SyncStep) :
    Recorded platform (step.next platform store) request result := by
  obtain ⟨prior, hprior, hrest⟩ := h
  refine ⟨prior, ?_, hrest⟩
  rcases step.next_cases platform store with hsame | ⟨tables, rfl, hnext⟩ | ⟨_, _, rfl, happlied⟩
  · rwa [hsame]
  · rwa [hnext]
  · rw [happlied.receipts_eq, List.find?_append, hprior]
    rfl

theorem Recorded.run (h : Recorded platform store request result) (steps : List SyncStep) :
    Recorded platform (Sync.run platform store steps) request result :=
  run_induct (P := fun s => Recorded platform s request result) steps h fun _ step h => h.next step

theorem isReceipt_receiptOf (platform : Platform) (request : Request) (result : SyncResult) :
    request.isReceipt (receiptOf platform request result) = true := by
  simp [Request.isReceipt, receiptOf]

/-- A committed request is recorded with its result. -/
theorem recorded_of_ok (h : apply platform request store = .ok (result, store')) :
    Recorded platform store' request result := by
  rcases apply_commits store result store' h with happlied | ⟨rfl, prior, hprior, hrest⟩
  · refine ⟨receiptOf platform request result, ?_, rfl, rfl, rfl, rfl⟩
    rw [happlied.receipts_eq, List.find?_append, happlied.fresh, Option.none_or]
    exact List.find?_cons_of_pos (isReceipt_receiptOf platform request result)
  · exact ⟨prior, hprior, hrest.2.2.2, hrest.1, hrest.2.1, hrest.2.2.1⟩

/-- A request with a receipt answers from it and writes nothing. -/
theorem apply_of_receipt {prior : SyncReceipt}
    (hprior : store.receipts.find? request.isReceipt = some prior) :
    apply platform request store =
      if store.authority.authorizes request.principal = true then
        if prior.fingerprint = platform.fingerprint request.entry ∧
            prior.mutationId = request.entry.mutationId ∧ prior.entityId = request.entry.entityId then
          .ok (prior.result, store)
        else .error "SYNC_REQUEST_ID_CONFLICT"
      else .error "EXTENSION_AUTH_UNAUTHORIZED" := by
  have hget : (get : Tx SyncStore SyncStore) store = .ok (store, store) := rfl
  unfold apply
  rw [ok_bind hget]
  by_cases hauthorized : store.authority.authorizes request.principal = true
  · rw [if_pos hauthorized, ok_bind (ok_ensure hauthorized), hprior]
    by_cases hmatch : prior.fingerprint = platform.fingerprint request.entry ∧
        prior.mutationId = request.entry.mutationId ∧ prior.entityId = request.entry.entityId
    · rw [if_pos hmatch]
      exact ok_bind (ok_ensure hmatch)
    · rw [if_neg hmatch]
      exact error_bind (error_ensure hmatch)
  · rw [if_neg hauthorized]
    exact error_bind (error_ensure hauthorized)

theorem next_of_receipt {prior : SyncReceipt}
    (hprior : store.receipts.find? request.isReceipt = some prior) :
    (SyncStep.apply request).next platform store = store := by
  simp only [SyncStep.next, commit, apply_of_receipt hprior]
  split
  · next heq =>
    split at heq
    · split at heq
      · cases heq
        rfl
      · cases heq
    · cases heq
  · rfl

/-! Every entity and every conversation keeps its one row. -/

theorem bindingKey_entityOf (state' : SyncPayload) :
    bindingKey (entityOf request result state') =
      if state'.kind.isBinding then some (request.principal.accountId, state'.conversationKeyDigest)
      else none := rfl

theorem Rereconciled.kind_eq {state : SyncPayload} (h : Rereconciled state state') :
    state'.kind = state.kind ∧ state'.conversationKeyDigest = state.conversationKeyDigest := by
  obtain ⟨_, _, _, _, _, rfl⟩ := h
  exact ⟨rfl, rfl⟩

theorem selected_mem {row : SyncEntity} (h : row ∈ (selected store request).head?) :
    row ∈ store.entities ∧ row.accountId = request.principal.accountId := by
  obtain ⟨hmem, hselected⟩ := List.mem_filter.mp (List.mem_of_mem_head? h)
  rw [Bool.and_eq_true, decide_eq_true_eq] at hselected
  exact ⟨hmem, hselected.1⟩

/-- A written row has the conversation of the selected row, or the entry's own. -/
theorem Applied.bindingKey_written (h : Applied platform store request result store')
    (hwrite : stateToWrite result = some state') :
    (∃ physical ∈ (selected store request).head?,
        bindingKey (entityOf request result state') = bindingKey physical) ∨
      bindingKey (entityOf request result state') = none ∨
      (isBindingEntry request.entry = true ∧ bindingKey (entityOf request result state') =
        some (request.principal.accountId, request.entry.payload.conversationKeyDigest)) := by
  cases h.answer_selected with
  | kept _ _ hstate =>
    obtain ⟨state, hcurrent, hcase⟩ := hstate state' hwrite
    obtain ⟨physical, hphysical, rfl⟩ := Option.map_eq_some_iff.mp hcurrent
    have haccount := (selected_mem hphysical).2
    refine .inl ⟨physical, hphysical, ?_⟩
    rw [bindingKey_entityOf, bindingKey, haccount]
    rcases hcase with rfl | ⟨-, hre⟩
    · rfl
    · rw [hre.kind_eq.1, hre.kind_eq.2]
  | replaced written _ _ hwritten hstate =>
    obtain rfl : written = state' := Option.some.inj (hwritten.symm.trans hwrite)
    have hkind : written.kind = request.entry.kind ∧
        written.conversationKeyDigest = request.entry.payload.conversationKeyDigest := by
      rcases hstate with rfl | hre
      · rw [statedBy_kind, statedBy_digest, canonicalEntry_kind, canonicalEntry_payload]
        exact ⟨rfl, rfl⟩
      · rw [hre.kind_eq.1, hre.kind_eq.2, statedBy_kind, statedBy_digest, canonicalEntry_kind,
          canonicalEntry_payload]
        exact ⟨rfl, rfl⟩
    rw [bindingKey_entityOf, hkind.1, hkind.2]
    by_cases hbinding : request.entry.kind.isBinding = true
    · exact .inr (.inr ⟨hbinding, if_pos hbinding⟩)
    · exact .inr (.inl (if_neg hbinding))

theorem Applied.oneRow (h : Applied platform store request result store') (hone : OneRow store) :
    OneRow store' where
  entity := h.unique hone.entity
  binding := by
    rw [h.entities_eq, answeredEntities]
    cases hwrite : stateToWrite result with
    | none => exact hone.binding
    | some state' =>
      have hkey := h.bindingKey_written hwrite
      simp only [writtenEntities]
      split
      · next physical hphysical =>
        obtain ⟨hmem, haccount⟩ := selected_mem hphysical
        apply hone.binding.updateWhere
        intro row hrow hupdated
        simp only [Bool.and_eq_true, decide_eq_true_eq] at hupdated
        have hsame : entityKey physical = entityKey row := by
          rw [entityKey, entityKey, haccount, hupdated.1, hupdated.2]
        obtain rfl : physical = row := hone.entity.eq_of_key hmem hrow rfl hsame.symm
        rcases hkey with ⟨other, hother, heq⟩ | hnone | ⟨hbinding, heq⟩
        · obtain rfl : physical = other := Option.some.inj (hphysical.symm.trans hother)
          exact .inr heq
        · exact .inl hnone
        · obtain ⟨hdigest, hkind⟩ := h.matching hbinding physical hphysical
          refine .inr (heq.trans ?_)
          rw [bindingKey, if_pos hkind, haccount, hdigest]
      · next hnone =>
        apply hone.binding.insert
        intro other hother
        rcases hkey with ⟨physical, hphysical, -⟩ | hkeyNone | ⟨hbinding, heq⟩
        · rw [hnone] at hphysical
          cases hphysical
        · exact .inl hkeyNone
        · refine .inr fun hsame => ?_
          -- a row of this conversation would have been selected
          rw [heq, bindingKey] at hsame
          split at hsame
          · next hkind =>
            rw [Option.some.injEq, Prod.mk.injEq] at hsame
            have hselected : other ∈ selected store request := by
              refine List.mem_filter.mpr ⟨hother, ?_⟩
              simp [hbinding, hsame.1, hsame.2, hkind]
            rw [List.head?_eq_none_iff.mp hnone] at hselected
            cases hselected
          · cases hsame

theorem OneRow.next (hone : OneRow store) (step : SyncStep) : OneRow (step.next platform store) := by
  rcases step.next_cases platform store with hsame | ⟨tables, rfl, hnext⟩ | ⟨_, _, rfl, happlied⟩
  · rwa [hsame]
  · exact ⟨hone.entity, hone.binding⟩
  · exact happlied.oneRow hone

theorem oneRow_run (hone : OneRow store) (steps : List SyncStep) :
    OneRow (run platform store steps) :=
  run_induct steps hone fun _ step hone => hone.next step

/-- A request that wrote something was committed. -/
theorem ok_of_changed (h : (SyncStep.apply request).next platform store ≠ store) :
    ∃ result, apply platform request store =
      .ok (result, (SyncStep.apply request).next platform store) := by
  simp only [SyncStep.next, commit] at h ⊢
  cases hrun : apply platform request store with
  | error message =>
    rw [hrun] at h
    exact absurd rfl h
  | ok answer => exact ⟨answer.1, rfl⟩

/-- Two requests of one installation under one request id, in a run with any other transactions
around them: a committed one makes the other write nothing, answer the first result to the same
entry, and refuse another content; and every entity and every conversation keeps its one row. -/
theorem sync_requests_exactly_once (platform : Platform) (first again : Request)
    (hone : OneRow store) (before middle : List SyncStep) (hsame : SameReceipt first again)
    (hstore : store' = (SyncStep.apply first).next platform (run platform store before)) :
    OneRow (run platform store' middle) ∧
    (store'.entities ≠ (run platform store before).entities →
      (SyncStep.apply again).next platform (run platform store' middle) =
        run platform store' middle) ∧
    ∀ result, apply platform first (run platform store before) = .ok (result, store') →
      (SyncStep.apply again).next platform (run platform store' middle) =
          run platform store' middle ∧
      ((run platform store' middle).authority.authorizes again.principal = false →
        apply platform again (run platform store' middle) = .error "EXTENSION_AUTH_UNAUTHORIZED") ∧
      ((run platform store' middle).authority.authorizes again.principal = true →
        again.entry = first.entry →
        apply platform again (run platform store' middle) =
          .ok (result, run platform store' middle)) ∧
      ((run platform store' middle).authority.authorizes again.principal = true →
        platform.fingerprint again.entry ≠ platform.fingerprint first.entry →
        apply platform again (run platform store' middle) = .error "SYNC_REQUEST_ID_CONFLICT") := by
  have hcommitted : ∀ result, apply platform first (run platform store before) = .ok (result, store') →
      ∃ prior, (run platform store' middle).receipts.find? again.isReceipt = some prior ∧
        prior.result = result ∧ prior.fingerprint = platform.fingerprint first.entry ∧
        prior.mutationId = first.entry.mutationId ∧ prior.entityId = first.entry.entityId := by
    intro result hok
    rw [hsame.isReceipt_eq]
    exact (recorded_of_ok hok).run middle
  refine ⟨?_, ?_, ?_⟩
  · rw [hstore]
    exact oneRow_run ((oneRow_run hone before).next _) middle
  · intro hchanged
    obtain ⟨result, hok⟩ := ok_of_changed fun heq => hchanged (by rw [hstore, heq])
    rw [← hstore] at hok
    obtain ⟨prior, hprior, -⟩ := hcommitted result hok
    exact next_of_receipt hprior
  · intro result hok
    obtain ⟨prior, hprior, hresult, hfingerprint, hmutation, hentity⟩ := hcommitted result hok
    refine ⟨next_of_receipt hprior, ?_, ?_, ?_⟩
    · intro hauthorized
      rw [apply_of_receipt hprior, hauthorized]
      rfl
    · intro hauthorized hentry
      rw [apply_of_receipt hprior, if_pos hauthorized, hentry,
        if_pos ⟨hfingerprint, hmutation, hentity⟩, hresult]
    · intro hauthorized hother
      rw [apply_of_receipt hprior, if_pos hauthorized,
        if_neg fun hmatch => hother (hmatch.1.symm.trans hfingerprint)]

/-- A store with an active installation and a row under an id from before the canonical ones. -/
def legacyStore : SyncStore where
  authority :=
    { users := [⟨units "user", .ACTIVE⟩]
      accounts := [⟨(samplePrincipal "a").accountId, .ACTIVE⟩]
      devices := [⟨units "a", (samplePrincipal "a").accountId, units "user", .ACTIVE, none⟩]
      sessions := [⟨(samplePrincipal "a").sessionId, (samplePrincipal "a").accountId, units "a",
        .ACTIVE, none⟩] }
  entities :=
    [⟨(samplePrincipal "a").accountId, units "legacy-1", 1, sampleBinding, units "a"⟩]

/-- The binding of the row at its next revision. -/
def sampleUpsert : SyncEntry where
  requestId := units "00000000-0000-4000-8000-000000000011"
  mutationId := units "upsert"
  entityId := units "legacy-1"
  baseRevision := 1
  localSequence := 1
  mutationGeneration := units "generation"
  kind := .BINDING_UPSERT
  payload := { sampleBinding with bindingRevision := 2 }

/-- The digest is the one of `sampleUpsert`. -/
def samplePlatform : Platform where
  localeCompare := compare
  accepts _ := true
  fingerprint _ := units "a85bd0cf93921392dbc40020734735552ac1ca3573299ec9a95e7ab2a9f5b743"

theorem oneRow_legacyStore : OneRow legacyStore := ⟨by decide, by decide⟩

theorem sync_requests_exactly_once_legacy :
    (SyncStep.apply ⟨samplePrincipal "a", sampleUpsert, 2⟩).next samplePlatform
        (run samplePlatform ((SyncStep.apply ⟨samplePrincipal "a", sampleUpsert, 1⟩).next
          samplePlatform (run samplePlatform legacyStore [])) []) =
      run samplePlatform ((SyncStep.apply ⟨samplePrincipal "a", sampleUpsert, 1⟩).next
        samplePlatform (run samplePlatform legacyStore [])) [] := by
  have hchanged : ((SyncStep.apply ⟨samplePrincipal "a", sampleUpsert, 1⟩).next samplePlatform
      (run samplePlatform legacyStore [])).entities ≠
        (run samplePlatform legacyStore []).entities := by
    decide +kernel
  exact (sync_requests_exactly_once samplePlatform ⟨samplePrincipal "a", sampleUpsert, 1⟩
    ⟨samplePrincipal "a", sampleUpsert, 2⟩ oneRow_legacyStore [] [] ⟨rfl, rfl, rfl⟩ rfl).2.1 hchanged

end SellerAgents.Sync
