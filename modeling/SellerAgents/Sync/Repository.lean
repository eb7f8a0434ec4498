import SellerAgents.Relational.Table
import SellerAgents.Relational.Transaction
import SellerAgents.Sync.Reconciliation

open Relational SellerAgents.Js

namespace SellerAgents.Sync

inductive UserStatus where
  | ACTIVE
  | SUSPENDED
deriving DecidableEq

inductive AccountStatus where
  | ACTIVE
  | SUSPENDED
deriving DecidableEq

inductive DeviceStatus where
  | ACTIVE
  | REVOKED
deriving DecidableEq

inductive SessionStatus where
  | ACTIVE
  | REVOKED
  | COMPROMISED
deriving DecidableEq

structure User where
  id : JsString
  status : UserStatus
deriving DecidableEq

structure Account where
  id : JsString
  status : AccountStatus
deriving DecidableEq

structure Device where
  id : JsString
  accountId : JsString
  createdByUserId : JsString
  status : DeviceStatus
  revokedAt : Option Int
deriving DecidableEq

structure Session where
  id : JsString
  accountId : JsString
  deviceId : JsString
  status : SessionStatus
  revokedAt : Option Int
deriving DecidableEq

/-- The tables that the durable authority is read from. -/
structure Authority where
  users : List User := []
  accounts : List Account := []
  devices : List Device := []
  sessions : List Session := []
deriving DecidableEq

/-- A `sync_entities` row. -/
structure SyncEntity where
  accountId : JsString
  entityId : JsString
  serverRevision : Nat
  state : SyncPayload
  installationId : JsString
deriving DecidableEq

/-- A `sync_request_receipts` row. -/
structure SyncReceipt where
  accountId : JsString
  installationId : JsString
  requestId : JsString
  entityId : JsString
  mutationId : JsString
  fingerprint : JsString
  result : SyncResult
deriving DecidableEq

/-- The tables of the synchronization. -/
structure SyncStore where
  authority : Authority := {}
  entities : List SyncEntity := []
  receipts : List SyncReceipt := []
deriving DecidableEq

/-- `sync_entities_account_entity_unique`. -/
def entityKey (row : SyncEntity) : Option (JsString × JsString) := some (row.accountId, row.entityId)

/-- `sync_request_receipts_account_installation_request_unique`. -/
def receiptKey (row : SyncReceipt) : Option (JsString × JsString × JsString) :=
  some (row.accountId, row.installationId, row.requestId)

/-- What the repository takes from outside: the collation, the checks of the columns that hold a
state, and the digest of an entry. -/
structure Platform where
  localeCompare : JsString → JsString → Ordering
  accepts : SyncPayload → Bool
  fingerprint : SyncEntry → JsString

/-- The arguments of `apply`, with the time it reads. -/
structure Request where
  principal : Principal
  entry : SyncEntry
  receiveAtMs : Int

/-- `assertDurableSyncAuthority`. -/
def Authority.authorizes (authority : Authority) (principal : Principal) : Bool :=
  authority.sessions.any fun s => s.id = principal.sessionId && s.deviceId = principal.deviceId &&
    s.accountId = principal.accountId && s.status = .ACTIVE && s.revokedAt = none &&
    (authority.devices.any fun d => d.id = s.deviceId && d.accountId = s.accountId &&
      d.status = .ACTIVE && d.revokedAt = none &&
      authority.users.any fun u => u.id = d.createdByUserId && u.status = .ACTIVE) &&
    authority.accounts.any fun a => a.id = s.accountId && a.status = .ACTIVE

def SyncKind.isBinding : SyncKind → Bool
  | .BINDING_UPSERT | .FINISH | .DELIVERY_MARKER => true
  | _ => false

def isBindingEntry (entry : SyncEntry) : Bool := entry.kind.isBinding

def conversationEntityId (digest : JsString) : JsString := units "conversation:" ++ digest

def canonicalEntityId (entry : SyncEntry) : JsString :=
  if isBindingEntry entry then conversationEntityId entry.payload.conversationKeyDigest
  else entry.entityId

/-- The entry under its canonical id. -/
def canonicalEntry (entry : SyncEntry) : SyncEntry :=
  if isBindingEntry entry then { entry with entityId := canonicalEntityId entry } else entry

/-- The receipt of the request. -/
def Request.isReceipt (request : Request) (row : SyncReceipt) : Bool :=
  row.accountId = request.principal.accountId && row.installationId = request.principal.deviceId &&
    row.requestId = request.entry.requestId

/-- The rows that the request selects for update. -/
def selected (store : SyncStore) (request : Request) : List SyncEntity :=
  store.entities.filter fun row =>
    row.accountId = request.principal.accountId &&
      (if isBindingEntry request.entry then
        row.entityId = canonicalEntityId request.entry ||
          (row.state.conversationKeyDigest = request.entry.payload.conversationKeyDigest &&
            row.state.kind.isBinding)
      else row.entityId = request.entry.entityId)

/-- The preferred installation of the state, if its device is known and not active. -/
def revokedInstallationIds (authority : Authority) (accountId : JsString)
    (state : Option SyncPayload) : List JsString :=
  match (state.bind fun s => (preferredOf s).installationId) with
  | none | some [] => []
  | some id =>
    match authority.devices.find? fun d => d.accountId = accountId && d.id = id with
    | some device => if device.status ≠ .ACTIVE then [id] else []
    | none => []

/-- What the kernel answers to the request on the selected row. -/
def reconcile (platform : Platform) (store : SyncStore) (request : Request) : SyncResult :=
  let physical := (selected store request).head?
  let state := physical.map SyncEntity.state
  applyReconciliationEntry platform.localeCompare state
    ((physical.map SyncEntity.serverRevision).getD 0) (canonicalEntry request.entry)
    request.principal request.receiveAtMs
    (revokedInstallationIds store.authority request.principal.accountId state)

/-- The row of a state that is written for the request. -/
def entityOf (request : Request) (result : SyncResult) (state : SyncPayload) : SyncEntity where
  accountId := request.principal.accountId
  entityId := canonicalEntityId request.entry
  serverRevision := result.serverRevision
  state := state
  installationId := request.principal.deviceId

def receiptOf (platform : Platform) (request : Request) (result : SyncResult) : SyncReceipt where
  accountId := request.principal.accountId
  installationId := request.principal.deviceId
  requestId := request.entry.requestId
  entityId := request.entry.entityId
  mutationId := request.entry.mutationId
  fingerprint := platform.fingerprint request.entry
  result := result

/-- The rows after the state is written over the selected row, or as a new one. -/
def writtenEntities (store : SyncStore) (request : Request) (result : SyncResult)
    (state : SyncPayload) : List SyncEntity :=
  match (selected store request).head? with
  | some physical =>
    updateWhere (fun row => row.accountId = request.principal.accountId &&
      row.entityId = physical.entityId) (fun _ => entityOf request result state) store.entities
  | none => store.entities ++ [entityOf request result state]

/-- The `UPDATE` or `INSERT` of `sync_entities`. -/
def writeEntity (platform : Platform) (request : Request) (result : SyncResult)
    (state : SyncPayload) : Tx SyncStore Unit := do
  let store ← get
  let entities := writtenEntities store request result state
  ensure (platform.accepts state = true) "sync_entities_state_bounded"
  ensure (UniqueBy entityKey entities) "sync_entities_account_entity_unique"
  modify fun store => { store with entities := entities }

def insertReceipt (platform : Platform) (row : SyncReceipt) : Tx SyncStore Unit := do
  let store ← get
  ensure (row.result.serverState.all platform.accepts = true) "sync_request_receipts_state_bounded"
  ensure (Fresh receiptKey row store.receipts)
    "sync_request_receipts_account_installation_request_unique"
  modify fun store => { store with receipts := store.receipts ++ [row] }

/-- The state that is written: the kernel acknowledged and there is one. -/
def stateToWrite (result : SyncResult) : Option SyncPayload :=
  if result.outcome = .ACK then result.serverState else none

def writeState (platform : Platform) (request : Request) (result : SyncResult) :
    Tx SyncStore Unit :=
  match stateToWrite result with
  | some state => writeEntity platform request result state
  | none => pure ()

/-- `apply` on a request without a receipt. -/
def applyFresh (platform : Platform) (request : Request) : Tx SyncStore SyncResult := do
  let store ← get
  let isBinding := isBindingEntry request.entry
  let canonicalEntityId := canonicalEntityId request.entry
  ensure (¬ (isBinding ∧ units "conversation:" <+: request.entry.entityId ∧
    request.entry.entityId ≠ canonicalEntityId)) "SYNC_CANONICAL_ENTITY_MISMATCH"
  let rows := selected store request
  ensure (¬ (isBinding ∧ 1 < rows.length)) "SYNC_CANONICAL_ENTITY_COLLISION"
  ensure (¬ (isBinding ∧ ∃ physical ∈ rows.head?,
    physical.state.conversationKeyDigest ≠ request.entry.payload.conversationKeyDigest ∨
      ¬ physical.state.kind.isBinding)) "SYNC_CANONICAL_ENTITY_COLLISION"
  let result := reconcile platform store request
  writeState platform request result
  insertReceipt platform (receiptOf platform request result)
  return result

def apply (platform : Platform) (request : Request) : Tx SyncStore SyncResult := do
  let store ← get
  ensure (store.authority.authorizes request.principal = true) "EXTENSION_AUTH_UNAUTHORIZED"
  match store.receipts.find? request.isReceipt with
  | some prior =>
    ensure (prior.fingerprint = platform.fingerprint request.entry ∧
      prior.mutationId = request.entry.mutationId ∧ prior.entityId = request.entry.entityId)
      "SYNC_REQUEST_ID_CONFLICT"
    return prior.result
  | none => applyFresh platform request

/-- A transaction on the store: a request, or a change of the authority. -/
inductive SyncStep where
  | apply (request : Request)
  | authority (tables : Authority)

def SyncStep.next (platform : Platform) (store : SyncStore) : SyncStep → SyncStore
  | .apply request => commit (Sync.apply platform request) store
  | .authority tables => { store with authority := tables }

/-- The store after the transactions, one after the other. -/
def run (platform : Platform) (store : SyncStore) (steps : List SyncStep) : SyncStore :=
  steps.foldl (SyncStep.next platform) store

/-- What the route lets through: a valid entry from an installation. -/
def Request.valid (request : Request) : Bool :=
  request.entry.valid && isUuid request.principal.deviceId

/-! What a request commits. -/

/-- The rows after the kernel's answer is written. -/
def answeredEntities (store : SyncStore) (request : Request) (result : SyncResult) :
    List SyncEntity :=
  match stateToWrite result with
  | some state => writtenEntities store request result state
  | none => store.entities

/-- The request was applied: it had no receipt, and its rows and its receipt were written. -/
structure Applied (platform : Platform) (store : SyncStore) (request : Request)
    (result : SyncResult) (store' : SyncStore) : Prop where
  authorized : store.authority.authorizes request.principal = true
  fresh : store.receipts.find? request.isReceipt = none
  canonical : isBindingEntry request.entry = true → units "conversation:" <+: request.entry.entityId →
    request.entry.entityId = canonicalEntityId request.entry
  single : isBindingEntry request.entry = true → (selected store request).length ≤ 1
  matching : isBindingEntry request.entry = true → ∀ physical ∈ (selected store request).head?,
    physical.state.conversationKeyDigest = request.entry.payload.conversationKeyDigest ∧
      physical.state.kind.isBinding = true
  result_eq : result = reconcile platform store request
  accepted : ∀ state ∈ result.serverState, platform.accepts state = true
  entities_eq : store'.entities = answeredEntities store request result
  unique : UniqueBy entityKey store.entities → UniqueBy entityKey store'.entities
  receipts_eq : store'.receipts = store.receipts ++ [receiptOf platform request result]
  authority_eq : store'.authority = store.authority

/-- The request was repeated: its receipt matches, and nothing changes. -/
structure Repeated (platform : Platform) (store : SyncStore) (request : Request)
    (result : SyncResult) (store' : SyncStore) : Prop where
  store_eq : store' = store
  receipt : ∃ prior, store.receipts.find? request.isReceipt = some prior ∧
    prior.fingerprint = platform.fingerprint request.entry ∧
    prior.mutationId = request.entry.mutationId ∧ prior.entityId = request.entry.entityId ∧
    prior.result = result

variable {platform : Platform} {store store' : SyncStore} {request : Request}

theorem writeState_commits (result : SyncResult) :
    Commits (writeState platform request result) store fun _ store' =>
      store' = { store with entities := answeredEntities store request result } ∧
        (UniqueBy entityKey store.entities → UniqueBy entityKey store'.entities) := by
  unfold writeState answeredEntities
  cases stateToWrite result with
  | none => simp
  | some state =>
    simp only [writeEntity, commits_bind, commits_get, commits_ensure, commits_modify]
    exact fun _ hunique => ⟨trivial, fun _ => hunique⟩

theorem applyFresh_commits (hauthorized : store.authority.authorizes request.principal = true)
    (hfresh : store.receipts.find? request.isReceipt = none) :
    Commits (applyFresh platform request) store fun result store' =>
      Applied platform store request result store' := by
  unfold applyFresh
  simp only [commits_bind, commits_get, commits_ensure]
  intro hcanonical hsingle hmatching
  refine (writeState_commits _).mono ?_
  rintro _ store₁ ⟨rfl, hunique⟩
  simp only [insertReceipt, commits_bind, commits_get, commits_ensure, commits_modify, commits_pure]
  intro haccepted _
  refine ⟨hauthorized, hfresh, ?_, ?_, ?_, rfl, ?_, rfl, hunique, rfl, rfl⟩
  · exact fun hbinding hprefix => by_contra fun hne => hcanonical ⟨hbinding, hprefix, hne⟩
  · exact fun hbinding => not_lt.mp fun hlt => hsingle ⟨hbinding, hlt⟩
  · intro hbinding physical hphysical
    by_contra hnot
    refine hmatching ⟨hbinding, physical, hphysical, ?_⟩
    tauto
  · intro state hstate
    rw [Option.mem_def] at hstate
    simp only [receiptOf] at haccepted
    rw [hstate] at haccepted
    exact haccepted

/-- A committed request was applied or repeated. -/
theorem apply_commits (store : SyncStore) : Commits (apply platform request) store
    fun result store' => Applied platform store request result store' ∨
      Repeated platform store request result store' := by
  unfold apply
  simp only [commits_bind, commits_get, commits_ensure]
  intro hauthorized
  cases hfind : store.receipts.find? request.isReceipt with
  | none =>
    exact (applyFresh_commits hauthorized hfind).mono fun _ _ => .inl
  | some prior =>
    simp only [commits_bind, commits_ensure, commits_pure]
    rintro ⟨hfingerprint, hmutation, hentity⟩
    exact .inr ⟨rfl, prior, hfind, hfingerprint, hmutation, hentity, rfl⟩

/-- What a run does to the store: nothing, a change of the authority, or an applied request. -/
theorem SyncStep.next_cases (platform : Platform) (store : SyncStore) (step : SyncStep) :
    step.next platform store = store ∨
    (∃ tables, step = .authority tables ∧
      step.next platform store = { store with authority := tables }) ∨
    ∃ request result, step = .apply request ∧
      Applied platform store request result (step.next platform store) := by
  cases step with
  | authority tables => exact .inr (.inl ⟨tables, rfl, rfl⟩)
  | apply request =>
    have hcommit : SyncStep.next platform store (.apply request) = store ∨
        ∃ result, Applied platform store request result
          (SyncStep.next platform store (.apply request)) := by
      refine commit_induct (P := fun s' => s' = store ∨ ∃ result, Applied platform store request
        result s') (.inl rfl) ((apply_commits store).mono ?_)
      rintro result store' (happlied | hrepeated)
      · exact .inr ⟨result, happlied⟩
      · exact .inl hrepeated.store_eq
    exact hcommit.imp id fun ⟨result, happlied⟩ => .inr ⟨request, result, rfl, happlied⟩

theorem run_append (steps more : List SyncStep) :
    run platform store (steps ++ more) = run platform (run platform store steps) more :=
  List.foldl_append

/-- A property that every step keeps holds after every run. -/
theorem run_induct {P : SyncStore → Prop} (steps : List SyncStep) (h : P store)
    (hstep : ∀ s (step : SyncStep), P s → P (step.next platform s)) : P (run platform store steps) := by
  induction steps generalizing store with
  | nil => exact h
  | cons step rest ih => exact ih (hstep store step h)

end SellerAgents.Sync
