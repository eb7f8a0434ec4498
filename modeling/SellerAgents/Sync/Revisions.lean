import SellerAgents.Sync.Entities

open Relational SellerAgents.Js

namespace SellerAgents.Sync

/-- The step applies an accepted entry to the entity: its state is replaced, by an equal one where a
store's metadata is stated again at its current revision. -/
def Replaces (platform : Platform) (store : SyncStore) (step : SyncStep)
    (accountId entityId : JsString) : Prop :=
  ∃ request result, step = .apply request ∧
    Applied platform store request result (step.next platform store) ∧
    accountId = request.principal.accountId ∧ entityId = canonicalEntityId request.entry ∧
    Accepts request.principal (canonicalEntry request.entry)
      ((entityAt store accountId entityId).map SyncEntity.state)
      (revisionOf (entityAt store accountId entityId))

/-- What a step does to one entity. -/
structure EntityStep (platform : Platform) (store : SyncStore) (step : SyncStep)
    (accountId entityId : JsString) (old new : Option SyncEntity) : Prop where
  grows_iff : revisionOf new = revisionOf old + 1 ↔ Replaces platform store step accountId entityId
  kept : ¬ Replaces platform store step accountId entityId →
    revisionOf new = revisionOf old ∧ explicitOf new = explicitOf old
  replaced : Replaces platform store step accountId entityId → ∀ request, step = .apply request →
    explicitOf new = some (explicitState
      (statedBy (canonicalEntry request.entry) (old.map SyncEntity.state)))
  binding : Replaces platform store step accountId entityId → ∀ request, step = .apply request →
    ∀ row ∈ old, row.state.kind.isBinding = true →
      request.entry.baseRevision = row.serverRevision ∧
        ∃ row' ∈ new, row.state.bindingRevision < row'.state.bindingRevision
  marker : ∀ request, step = .apply request → request.entry.kind = .DELIVERY_MARKER →
    revisionOf new = revisionOf old ∧ explicitOf new = explicitOf old
  tombstoned : ∀ row ∈ old, row.state.kind.isStore = true →
    row.state.lifecycleState = some .TOMBSTONED →
      ∃ row' ∈ new, row'.serverRevision = row.serverRevision ∧ row'.state = row.state

variable {platform : Platform} {store store' : SyncStore} {request : Request} {result : SyncResult}
  {step : SyncStep} {accountId entityId : JsString}

/-- A row that is written over another one keeps what it says, and a store all of it. -/
def KeptRow (row row' : SyncEntity) : Prop :=
  row'.serverRevision = row.serverRevision ∧
    explicitState row'.state = explicitState row.state ∧
    (row.state.kind.isStore = true → row'.state = row.state)

/-- A row that states the accepted entry under the next revision. -/
def ReplacedRow (request : Request) (old : Option SyncEntity) (row' : SyncEntity) : Prop :=
  row'.serverRevision = revisionOf old + 1 ∧
    explicitState row'.state = explicitState
      (statedBy (canonicalEntry request.entry) (old.map SyncEntity.state))

/-- An applied request keeps its entity or replaces it. -/
theorem Applied.entity_cases (h : Applied platform store request result store')
    (hc : Canonical store) {old new : Option SyncEntity}
    (hold : old = entityAt store request.principal.accountId (canonicalEntityId request.entry))
    (hnew : new = entityAt store' request.principal.accountId (canonicalEntityId request.entry)) :
    (¬ Accepts request.principal (canonicalEntry request.entry) (old.map SyncEntity.state)
        (revisionOf old) ∧
      (new = old ∨ ∃ row row', old = some row ∧ new = some row' ∧ KeptRow row row')) ∨
    (Accepts request.principal (canonicalEntry request.entry) (old.map SyncEntity.state)
        (revisionOf old) ∧ ∃ row', new = some row' ∧ ReplacedRow request old row') := by
  have hanswer := h.answer hc
  rw [h.entityAt_eq hc, if_pos ⟨rfl, rfl⟩, ← hold] at hnew
  rw [← hold] at hanswer
  cases hanswer with
  | kept hrefused hrevision hstate =>
    refine .inl ⟨hrefused, ?_⟩
    cases hwrite : stateToWrite result with
    | none =>
      rw [hwrite] at hnew
      exact .inl hnew
    | some state' =>
      obtain ⟨state, hcurrent, hcase⟩ := hstate state' hwrite
      obtain ⟨row, hrow, rfl⟩ := Option.map_eq_some_iff.mp hcurrent
      rw [hwrite] at hnew
      refine .inr ⟨row, _, hrow, hnew, ?_⟩
      rw [hrow] at hrevision
      refine ⟨hrevision, ?_, ?_⟩
      · rcases hcase with rfl | ⟨-, hre⟩
        · rfl
        · exact hre.explicitState_eq
      · intro hstore
        rcases hcase with rfl | ⟨hbinding, -⟩
        · rfl
        · rw [canonicalEntry_kind] at hbinding
          rcases hc.bindingRow hbinding (hold.symm.trans hrow) with hk | hk <;>
            simp [hk, SyncKind.isStore] at hstore
  | replaced state' haccepted hrevision hwrite hstate =>
    rw [hwrite] at hnew
    refine .inr ⟨haccepted, _, hnew, hrevision, ?_⟩
    rcases hstate with rfl | hre
    · rfl
    · exact hre.explicitState_eq

theorem not_replaces_of_same (hsame : step.next platform store = store) :
    ¬ Replaces platform store step accountId entityId := by
  rintro ⟨request, result, -, happlied, -⟩
  have hreceipts := congrArg List.length happlied.receipts_eq
  rw [hsame, List.length_append, List.length_singleton] at hreceipts
  omega

/-- A step that does not touch the entity. -/
theorem EntityStep.of_same (hnot : ¬ Replaces platform store step accountId entityId)
    (old : Option SyncEntity) : EntityStep platform store step accountId entityId old old where
  grows_iff := ⟨fun h => absurd h (Nat.ne_of_lt (Nat.lt_succ_self _)), fun h => absurd h hnot⟩
  kept _ := ⟨rfl, rfl⟩
  replaced h := absurd h hnot
  binding h := absurd h hnot
  marker _ _ _ := ⟨rfl, rfl⟩
  tombstoned row hrow _ _ := ⟨row, hrow, rfl, rfl⟩

theorem EntityStep.of_kept (hnot : ¬ Replaces platform store step accountId entityId)
    {row row' : SyncEntity} (hkept : KeptRow row row') :
    EntityStep platform store step accountId entityId (some row) (some row') where
  grows_iff := by
    refine ⟨fun h => ?_, fun h => absurd h hnot⟩
    simp only [revisionOf, Option.map_some, Option.getD_some, hkept.1] at h
    omega
  kept _ := ⟨hkept.1, congrArg some hkept.2.1⟩
  replaced h := absurd h hnot
  binding h := absurd h hnot
  marker _ _ _ := ⟨hkept.1, congrArg some hkept.2.1⟩
  tombstoned := by
    intro old hold hstore _
    obtain rfl : row = old := Option.some.inj hold
    exact ⟨row', rfl, hkept.1, hkept.2.2 hstore⟩

/-- What an accepted entry leaves of a tombstone and of a binding. -/
theorem EntityStep.of_replaced (hc : Canonical store)
    (h : Replaces platform store (.apply request) accountId entityId)
    {row' : SyncEntity} (hrow' : ReplacedRow request (entityAt store accountId entityId) row') :
    EntityStep platform store (.apply request) accountId entityId
      (entityAt store accountId entityId) (some row') := by
  have haccepts : Accepts request.principal (canonicalEntry request.entry)
      ((entityAt store accountId entityId).map SyncEntity.state)
      (revisionOf (entityAt store accountId entityId)) ∧
        entityId = canonicalEntityId request.entry := by
    obtain ⟨_, _, hstep, -, -, hid, haccepts⟩ := h
    cases hstep
    exact ⟨haccepts, hid⟩
  obtain ⟨haccepts, hid⟩ := haccepts
  constructor
  case grows_iff => exact ⟨fun _ => h, fun _ => hrow'.1⟩
  case kept => exact fun hnot => absurd h hnot
  case replaced =>
    intro _ other hother
    cases hother
    exact congrArg some hrow'.2
  case binding =>
    intro _ other hother row hrow hbinding
    cases hother
    rw [Option.mem_def] at hrow
    rw [hrow] at haccepts hrow'
    have hbindingKind : (canonicalEntry request.entry).kind = .BINDING_UPSERT ∨
        (canonicalEntry request.entry).kind = .FINISH := by
      by_contra hother
      by_cases hstore : (canonicalEntry request.entry).kind.isStore = true
      · have hsuccessor := (((accepts_store_iff hstore).mp haccepts).2 _ rfl).2.store
        cases hk : row.state.kind <;> simp [hk, SyncKind.isStore, SyncKind.isBinding] at hsuccessor hbinding
      · unfold Accepts at haccepts
        cases hk : (canonicalEntry request.entry).kind <;> simp_all [SyncKind.isStore]
    obtain ⟨hbase, hsuccessor⟩ := (accepts_binding_iff hbindingKind).mp haccepts _ rfl
    rw [canonicalEntry_baseRevision] at hbase
    refine ⟨hbase, row', rfl, ?_⟩
    have hrevision := congrArg SyncPayload.bindingRevision hrow'.2
    rw [statedBy_binding hbindingKind] at hrevision
    exact lt_of_lt_of_eq hsuccessor.bindingRevision hrevision.symm
  case marker =>
    intro other hother hkind
    cases hother
    unfold Accepts at haccepts
    rw [canonicalEntry_kind, hkind] at haccepts
    exact haccepts.elim
  case tombstoned =>
    intro row hrow hstore htombstoned
    rw [Option.mem_def] at hrow
    rw [hrow] at haccepts
    by_cases hkind : (canonicalEntry request.entry).kind.isStore = true
    · exact absurd htombstoned (((accepts_store_iff hkind).mp haccepts).2 _ rfl).2.active
    · have hbinding : request.entry.kind.isBinding = true := by
        rw [canonicalEntry_kind] at hkind
        cases hk : request.entry.kind <;> simp_all [SyncKind.isStore, SyncKind.isBinding]
      rw [hid] at hrow
      rcases hc.bindingRow hbinding hrow with hk | hk <;> simp [hk, SyncKind.isStore] at hstore

/-- Every step on a canonical store is an entity step for every entity. -/
theorem Canonical.entityStep (hc : Canonical store) (step : SyncStep)
    (accountId entityId : JsString) :
    EntityStep platform store step accountId entityId (entityAt store accountId entityId)
      (entityAt (step.next platform store) accountId entityId) := by
  rcases step.next_cases platform store with hsame | ⟨tables, rfl, hnext⟩ |
    ⟨request, result, rfl, happlied⟩
  · rw [hsame]
    exact .of_same (not_replaces_of_same hsame) _
  · refine .of_same ?_ _
    rintro ⟨_, _, hstep, -⟩
    cases hstep
  · by_cases htarget : accountId = request.principal.accountId ∧
        entityId = canonicalEntityId request.entry
    · obtain ⟨rfl, rfl⟩ := htarget
      rcases happlied.entity_cases hc rfl rfl with ⟨hrefused, hcase⟩ | ⟨haccepted, row', hnew, hrow'⟩
      · have hnot : ¬ Replaces platform store (.apply request) request.principal.accountId
            (canonicalEntityId request.entry) := by
          rintro ⟨other, _, hstep, -, -, -, haccepts⟩
          cases hstep
          exact hrefused haccepts
        rcases hcase with hsame | ⟨row, row', hold, hnew, hkept⟩
        · rw [hsame]
          exact .of_same hnot _
        · rw [hold, hnew]
          exact .of_kept hnot hkept
      · rw [hnew]
        exact .of_replaced hc ⟨request, result, rfl, happlied, rfl, rfl, haccepted⟩ hrow'
    · have hnot : ¬ Replaces platform store (.apply request) accountId entityId := by
        rintro ⟨other, _, hstep, -, haccount, hid, -⟩
        cases hstep
        exact htarget ⟨haccount, hid⟩
      rw [happlied.entityAt_eq hc, if_neg htarget]
      exact .of_same hnot _

theorem EntityStep.revision_le {old new : Option SyncEntity}
    (h : EntityStep platform store step accountId entityId old new) :
    revisionOf old ≤ revisionOf new := by
  by_cases hreplaces : Replaces platform store step accountId entityId
  · rw [h.grows_iff.mpr hreplaces]
    exact Nat.le_succ _
  · exact (h.kept hreplaces).1.ge

theorem Canonical.revision_le_run (hc : Canonical store) (steps : List SyncStep)
    (accountId entityId : JsString) :
    revisionOf (entityAt store accountId entityId) ≤
      revisionOf (entityAt (run platform store steps) accountId entityId) := by
  induction steps generalizing store with
  | nil => exact Nat.le_refl _
  | cons step rest ih =>
    exact (hc.entityStep step accountId entityId).revision_le.trans (ih (hc.next step))

/-- A tombstoned store stays as it is. -/
theorem Canonical.tombstoned_run (hc : Canonical store) (steps : List SyncStep) {row : SyncEntity}
    (hrow : entityAt store accountId entityId = some row) (hstore : row.state.kind.isStore = true)
    (htombstoned : row.state.lifecycleState = some .TOMBSTONED) :
    ∃ row', entityAt (run platform store steps) accountId entityId = some row' ∧
      row'.serverRevision = row.serverRevision ∧ row'.state = row.state := by
  induction steps generalizing store row with
  | nil => exact ⟨row, hrow, rfl, rfl⟩
  | cons step rest ih =>
    obtain ⟨next, hnext, hrevision, hstate⟩ :=
      (hc.entityStep step accountId entityId).tombstoned row hrow hstore htombstoned
    obtain ⟨last, hlast, hlastRevision, hlastState⟩ := ih (hc.next step) hnext
      (by rw [hstate]; exact hstore) (by rw [hstate]; exact htombstoned)
    exact ⟨last, hlast, hlastRevision.trans hrevision, hlastState.trans hstate⟩

/-- From the empty store on, for every entity: the revision grows by one exactly where an accepted
entry replaces what the entity says, which for a binding names the current revision and raises the
binding's; a marker only touches the reconciliation; no run lowers the revision or changes a
tombstoned store. -/
theorem sync_authority (platform : Platform) (steps : List SyncStep)
    (accountId entityId : JsString) :
    (∀ step, EntityStep platform (run platform {} steps) step accountId entityId
      (entityAt (run platform {} steps) accountId entityId)
      (entityAt (run platform {} (steps ++ [step])) accountId entityId)) ∧
    ∀ more, revisionOf (entityAt (run platform {} steps) accountId entityId) ≤
        revisionOf (entityAt (run platform {} (steps ++ more)) accountId entityId) ∧
      ∀ row, entityAt (run platform {} steps) accountId entityId = some row →
        row.state.kind.isStore = true → row.state.lifecycleState = some .TOMBSTONED →
          ∃ row', entityAt (run platform {} (steps ++ more)) accountId entityId = some row' ∧
            row'.serverRevision = row.serverRevision ∧ row'.state = row.state := by
  have hc : Canonical (run platform {} steps) := canonical_run canonical_empty steps
  refine ⟨fun step => ?_, fun more => ?_⟩
  · rw [run_append]
    exact hc.entityStep step accountId entityId
  · rw [run_append]
    exact ⟨hc.revision_le_run more accountId entityId, fun row hrow hstore htombstoned =>
      hc.tombstoned_run more hrow hstore htombstoned⟩

end SellerAgents.Sync
