import SellerAgents.BridgeCore.StoreMetadata
import SellerAgents.Js.Properties

open SellerAgents.Js SellerAgents.Sync

namespace SellerAgents.BridgeCore

structure SellerCredentials where
  clientId : Option JsString
  apiKey : Option JsString
deriving DecidableEq

structure PerformanceCredentials where
  clientId : Option JsString := none
  clientSecret : Option JsString := none
deriving DecidableEq

/-- The credentials of a store; `{}` is the empty object. -/
structure Credentials where
  seller : Option SellerCredentials := none
  performance : Option PerformanceCredentials := none
  token : Option JsString := none
deriving DecidableEq

/-- Credentials as a form or a packet brings them. -/
structure CredentialInput : Type extends Credentials where
  isOzon : Bool := false
  clearPerformance : Bool := false

structure VerificationNote where
  code : JsString
  httpStatus : Int
  checkedAt : Int

/-- A record of the catalog. -/
structure Store where
  id : JsString
  accountId : JsString
  marketplace : Option Marketplace
  name : JsString
  credentials : Credentials
  credentialRevision : Option JsString
  metadataRevision : Int
  lifecycleState : LifecycleState
  providerAccountId : Option JsString
  providerIdentityState : ProviderIdentityState
  credentialsStale : Bool
  personalDataEnabled : Bool
  verification : Properties JsString VerificationNote
  createdAt : Int

/-- The stores of one account, and the serials of the default names. -/
structure Scope where
  stores : Properties JsString Store := []
  nextOzon : Nat := 1
  nextWildberries : Nat := 1

/-- What `publicStore` shows of a store. -/
structure PublicStore where
  id : JsString
  accountId : JsString
  name : JsString
  marketplace : Option Marketplace
  credentialRevision : Option JsString
  metadataRevision : Int
  lifecycleState : LifecycleState
  providerAccountId : Option JsString
  providerIdentityState : ProviderIdentityState
  credentialsStale : Bool
  personalDataEnabled : Bool
  sellerPresent : Bool
  performancePresent : Bool
  tokenPresent : Bool
  sellerClientId : JsString
  performanceClientId : JsString
  verification : Properties JsString VerificationNote

inductive CatalogError where
  | ACCOUNT_CHANGED
  | STORE_NOT_FOUND
  | STORE_TOMBSTONED
  | PROVIDER_IDENTITY_CONFIRMATION_REQUIRED
  | INVALID_MARKETPLACE
  | INVALID_STORE_NAME
  | TRANSFER_CONFLICT
  | IMPORT_PLAN_STALE
  | STORE_CHANGED
  | PROVIDER_IDENTITY_UNCONFIRMED
  | STORE_PROVIDER_IDENTITY_MISMATCH
  | INVALID_STORE_METADATA
  | credentials (code : JsString)

/-- `normalizeCredentials`, a port of the catalog. -/
abbrev NormalizeCredentials : Type :=
  Option Marketplace → CredentialInput → Option Credentials → Except CatalogError Credentials

/-- What the ports `revision`, `uuid` and the clock give one call. -/
structure Drawn where
  revision : JsString
  uuid : JsString
  now : Int

def publicStore (store : Store) : PublicStore :=
  let c := store.credentials
  { id := store.id
    accountId := store.accountId
    name := store.name
    marketplace := store.marketplace
    credentialRevision := store.credentialRevision
    metadataRevision := store.metadataRevision
    lifecycleState := store.lifecycleState
    providerAccountId := orNull store.providerAccountId
    providerIdentityState := store.providerIdentityState
    credentialsStale := store.credentialsStale
    personalDataEnabled := store.personalDataEnabled
    sellerPresent := c.seller.any fun seller => truthy seller.clientId && truthy seller.apiKey
    performancePresent := c.performance.any fun performance =>
      truthy performance.clientId && truthy performance.clientSecret
    tokenPresent := truthy c.token
    sellerClientId := (c.seller.bind SellerCredentials.clientId).getD []
    performanceClientId := (c.performance.bind PerformanceCredentials.clientId).getD []
    verification := store.verification }

/-- What an operation inside `mutate` does: it fails, or answers and leaves a scope. -/
abbrev Mutation (α : Type) : Type := Except CatalogError (α × Scope)

def Scope.put (scope : Scope) (store : Store) : Scope :=
  { scope with stores := scope.stores.set store.id store }

/-- What `scope.stores[id]` shows. -/
inductive Shown where
  | absent
  /-- A member of `Object.prototype`, which has none of the fields of a record. -/
  | inherited
  | record (store : Store)

/-- `scope.stores[id]`: the stores are a plain object, so an id that no store has can still name a
member of `Object.prototype`. -/
def Scope.lookup (scope : Scope) (id : JsString) : Shown :=
  match scope.stores.get id with
  | some store => .record store
  | none => if objectPrototypeMembers.any (units · = id) then .inherited else .absent

/-- `scope.stores[store.id] = store`, where `__proto__` without such a store sets the prototype,
which is not stored. Elsewhere the id is of a record, or of nothing that `lookup` shows. -/
def Scope.assign (scope : Scope) (store : Store) : Scope :=
  if store.id = units "__proto__" ∧ scope.stores.get store.id = none then scope else scope.put store

/-! `save`. -/

structure SaveInput where
  id : Option JsString := none
  marketplace : Option Marketplace := none
  name : Option JsString := none
  providerAccountId : Option JsString := none
  credentials : CredentialInput := {}
  personalDataEnabled : Option Bool := none

def Scope.serial (scope : Scope) : Marketplace → Nat
  | .ozon => scope.nextOzon
  | .wildberries => scope.nextWildberries

def Scope.advance (scope : Scope) (marketplace : Marketplace) (serial : Nat) : Scope :=
  match marketplace with
  | .ozon => { scope with nextOzon := serial + 1 }
  | .wildberries => { scope with nextWildberries := serial + 1 }

/-- The name that a store has without one. -/
def defaultName (marketplace : Marketplace) (serial : Nat) : JsString :=
  units (if marketplace = .ozon then "Ozon " else "WB ") ++ units (toString serial)

/-- The name of the form, else the previous one, else the default one. -/
def savedName (name : Option JsString) (previous : Option Store) (marketplace : Marketplace)
    (serial : Nat) : JsString :=
  let trimmed := trim ((name.or (previous.map Store.name)).getD [])
  if trimmed = [] then defaultName marketplace serial else trimmed

def validName (name : JsString) : Bool :=
  name.length ≤ 80 && name.all fun u => 0x20 ≤ u && u ≠ 0x7f

/-- The record that `save` writes in place of the previous one. -/
def savedStore (accountId : JsString) (previous : Option Store) (marketplace : Marketplace)
    (name : JsString) (credentials : Credentials) (input : SaveInput) (drawn : Drawn) : Store :=
  let unchanged := (previous.map Store.credentials) = some credentials
  let credentialRevision :=
    if unchanged then previous.bind Store.credentialRevision else some drawn.revision
  { id := (previous.map Store.id).getD (units "store-" ++ drawn.uuid)
    accountId := accountId
    marketplace := some marketplace
    name := name
    credentials := credentials
    credentialRevision := credentialRevision
    metadataRevision := (previous.map Store.metadataRevision).getD 0 + 1
    lifecycleState := .ACTIVE
    providerAccountId := orNull (previous.bind Store.providerAccountId)
    providerIdentityState := (previous.map Store.providerIdentityState).getD .UNCONFIRMED
    credentialsStale := unchanged && previous.any Store.credentialsStale
    personalDataEnabled := input.personalDataEnabled.getD (previous.any Store.personalDataEnabled)
    verification :=
      if previous.map Store.credentialRevision = some credentialRevision then
        (previous.map Store.verification).getD []
      else []
    createdAt := ((previous.map Store.createdAt).filter (· ≠ 0)).getD drawn.now }

/-- The record that the form is about. -/
def SaveInput.previous (input : SaveInput) (scope : Scope) : Option Store :=
  if truthy input.id then input.id.bind scope.stores.get else none

def save (normalizeCredentials : NormalizeCredentials) (accountId : JsString) (input : SaveInput)
    (drawn : Drawn) (scope : Scope) : Mutation PublicStore :=
  let previous := input.previous scope
  if truthy input.id && previous.isNone then .error .STORE_NOT_FOUND
  else if previous.any (·.lifecycleState = .TOMBSTONED) then .error .STORE_TOMBSTONED
  else if truthy input.providerAccountId &&
      previous.map Store.providerAccountId ≠ some input.providerAccountId then
    .error .PROVIDER_IDENTITY_CONFIRMATION_REQUIRED
  else
    match (previous.bind Store.marketplace).or input.marketplace with
    | none => .error .INVALID_MARKETPLACE
    | some marketplace =>
      if input.marketplace.isSome && input.marketplace ≠ some marketplace then
        .error .INVALID_MARKETPLACE
      else
        match normalizeCredentials (some marketplace) input.credentials
            (previous.map Store.credentials) with
        | .error error => .error error
        | .ok credentials =>
          let serial := scope.serial marketplace
          let name := savedName input.name previous marketplace serial
          if !validName name then .error .INVALID_STORE_NAME
          else
            let store := savedStore accountId previous marketplace name credentials input drawn
            let written := scope.put store
            .ok (publicStore store,
              if previous.isNone then written.advance marketplace serial else written)

/-! `importCredential`. -/

/-- A packet of credentials from another device. -/
structure CredentialImport where
  id : JsString
  credentialRevision : JsString
  marketplace : Option Marketplace
  name : Option JsString := none
  credentials : CredentialInput
  metadataRevision : Option Int := none
  providerAccountId : Nullish JsString := none
  providerIdentityState : Option ProviderIdentityState := none

inductive ImportOutcome where
  | SAME_CURRENT
  | IMPORTED
  | CONFLICT
deriving DecidableEq

structure ImportAnswer where
  kind : ImportOutcome
  store : PublicStore

/-- The record that `importCredential` builds from a packet. -/
def importedStore (accountId : JsString) (credentials : Credentials) (input : CredentialImport)
    (now : Int) : Store where
  id := input.id
  accountId := accountId
  marketplace := input.marketplace
  name := (if truthy input.name then input.name.getD [] else input.id).take 80
  credentials := credentials
  credentialRevision := some input.credentialRevision
  metadataRevision := input.metadataRevision.getD 0
  lifecycleState := .ACTIVE
  providerAccountId :=
    if input.providerIdentityState = some .CONFIRMED then orNull input.providerAccountId.join
    else none
  providerIdentityState :=
    if input.providerIdentityState = some .CONFIRMED then .CONFIRMED else .UNCONFIRMED
  credentialsStale := false
  personalDataEnabled := false
  verification := []
  createdAt := now

/-- The import of a store that the catalog has no credential revision of: the record of the packet
takes the place of what is there. -/
def importNew (normalizeCredentials : NormalizeCredentials) (accountId : JsString)
    (input : CredentialImport) (now : Int) (scope : Scope) : Mutation ImportAnswer :=
  match normalizeCredentials input.marketplace input.credentials (some {}) with
  | .error error => .error error
  | .ok credentials =>
    let store := importedStore accountId credentials input now
    .ok (⟨.IMPORTED, publicStore store⟩, scope.assign store)

def importCredential (normalizeCredentials : NormalizeCredentials) (accountId : JsString)
    (input : CredentialImport) (now : Int) (scope : Scope) : Mutation ImportAnswer :=
  match scope.lookup input.id with
  | .absent => importNew normalizeCredentials accountId input now scope
  | .inherited =>
    -- no marketplace, no identity, no credential revision
    if input.marketplace.isSome then .error .TRANSFER_CONFLICT
    else importNew normalizeCredentials accountId input now scope
  | .record previous =>
    if previous.lifecycleState = .TOMBSTONED || previous.marketplace ≠ input.marketplace then
      .error .TRANSFER_CONFLICT
    else if previous.providerIdentityState = .CONFIRMED &&
        input.providerIdentityState = some .CONFIRMED &&
        some previous.providerAccountId ≠ input.providerAccountId then
      .error .TRANSFER_CONFLICT
    else if previous.credentialRevision = some input.credentialRevision then
      if previous.credentialsStale then
        match normalizeCredentials input.marketplace input.credentials (some {}) with
        | .error error => .error error
        | .ok credentials =>
          let store := { previous with credentials, credentialsStale := false, verification := [] }
          .ok (⟨.IMPORTED, publicStore store⟩, scope.put store)
      else .ok (⟨.SAME_CURRENT, publicStore previous⟩, scope)
    else if truthy previous.credentialRevision then
      .ok (⟨.CONFLICT, publicStore previous⟩, scope)
    else importNew normalizeCredentials accountId input now scope

/-! `applyBackupImport`. -/

/-- A store of a backup payload. -/
structure BackupStore where
  storeId : JsString
  label : JsString
  marketplace : Option Marketplace
  providerAccountId : Option JsString
  providerIdentityState : ProviderIdentityState
  credentialRevision : JsString
  metadataRevision : Int
  credentials : CredentialInput

structure BackupPayload where
  accountId : JsString
  stores : List BackupStore

inductive BackupKind where
  | IMPORT_NEW
  | LOCAL_TOMBSTONED
  | MARKETPLACE_MISMATCH
  | PROVIDER_ACCOUNT_MISMATCH
  | SAME_CURRENT
  | LOCAL_NEWER
deriving DecidableEq

structure Classification where
  storeId : JsString
  kind : BackupKind
deriving DecidableEq

structure BackupPlan where
  accountId : JsString
  classifications : List Classification
  safeStoreIds : List JsString

structure BackupAnswer where
  imported : List PublicStore
  classifications : List Classification

def backupCredentials (normalizeCredentials : NormalizeCredentials) (incoming : BackupStore) :
    Except CatalogError Credentials :=
  let input : CredentialInput :=
    if incoming.credentials.isOzon then
      { seller := incoming.credentials.seller
        performance := some (incoming.credentials.performance.getD {}) }
    else { token := incoming.credentials.token }
  normalizeCredentials incoming.marketplace input (some {})

def classify (normalizeCredentials : NormalizeCredentials) (scope : Scope)
    (incoming : BackupStore) : Except CatalogError Classification :=
  match scope.lookup incoming.storeId with
  | .absent => .ok ⟨incoming.storeId, .IMPORT_NEW⟩
  | .inherited =>
    if incoming.marketplace.isSome then .ok ⟨incoming.storeId, .MARKETPLACE_MISMATCH⟩
    else
      (backupCredentials normalizeCredentials incoming).map fun _ => ⟨incoming.storeId, .LOCAL_NEWER⟩
  | .record previous =>
    if previous.lifecycleState = .TOMBSTONED then .ok ⟨incoming.storeId, .LOCAL_TOMBSTONED⟩
    else if previous.marketplace ≠ incoming.marketplace then
      .ok ⟨incoming.storeId, .MARKETPLACE_MISMATCH⟩
    else if previous.providerIdentityState = .CONFIRMED &&
        incoming.providerIdentityState = .CONFIRMED &&
        previous.providerAccountId ≠ incoming.providerAccountId then
      .ok ⟨incoming.storeId, .PROVIDER_ACCOUNT_MISMATCH⟩
    else
      match backupCredentials normalizeCredentials incoming with
      | .error error => .error error
      | .ok incomingCredentials =>
        if previous.credentialRevision = some incoming.credentialRevision &&
            previous.credentials = incomingCredentials then
          .ok ⟨incoming.storeId, .SAME_CURRENT⟩
        else .ok ⟨incoming.storeId, .LOCAL_NEWER⟩

/-- The record that `applyBackupImport` builds from a backup. -/
def restoredStore (accountId : JsString) (credentials : Credentials) (incoming : BackupStore)
    (now : Int) : Store where
  id := incoming.storeId
  accountId := accountId
  marketplace := incoming.marketplace
  name := incoming.label
  credentials := credentials
  credentialRevision := some incoming.credentialRevision
  metadataRevision := incoming.metadataRevision
  lifecycleState := .ACTIVE
  providerAccountId :=
    if incoming.providerIdentityState = .CONFIRMED then incoming.providerAccountId else none
  providerIdentityState := incoming.providerIdentityState
  credentialsStale := false
  personalDataEnabled := false
  verification := []
  createdAt := now

/-- The loop of `applyBackupImport` over the stores of the payload. -/
def importStores (normalizeCredentials : NormalizeCredentials) (accountId : JsString) (now : Int)
    (safe : JsString → Bool) :
    List BackupStore → List PublicStore → Scope → Mutation (List PublicStore)
  | [], imported, scope => .ok (imported, scope)
  | incoming :: rest, imported, scope =>
    if !safe incoming.storeId then
      importStores normalizeCredentials accountId now safe rest imported scope
    else
      match backupCredentials normalizeCredentials incoming with
      | .error error => .error error
      | .ok credentials =>
        let store := restoredStore accountId credentials incoming now
        importStores normalizeCredentials accountId now safe rest
          (imported ++ [publicStore store]) (scope.put store)

def applyBackupImport (normalizeCredentials : NormalizeCredentials) (accountId : JsString)
    (payload : BackupPayload) (expectedPlan : BackupPlan) (now : Int) (scope : Scope) :
    Mutation BackupAnswer :=
  if payload.accountId ≠ accountId || expectedPlan.accountId ≠ accountId then
    .error .ACCOUNT_CHANGED
  else
    match payload.stores.mapM (classify normalizeCredentials scope) with
    | .error error => .error error
    | .ok actual =>
      if actual ≠ expectedPlan.classifications then .error .IMPORT_PLAN_STALE
      else
        let safe (storeId : JsString) : Bool :=
          expectedPlan.safeStoreIds.contains storeId &&
            (actual.find? fun row => row.storeId = storeId).map Classification.kind =
              some .IMPORT_NEW
        match importStores normalizeCredentials accountId now safe payload.stores [] scope with
        | .error error => .error error
        | .ok (imported, written) => .ok (⟨imported, actual⟩, written)

/-! The operations on one record. -/

/-- `remove`. For a member of `Object.prototype` the fields of the tombstone land on that member and
not in the stores; what other objects then show of it is left out. -/
def remove (id : JsString) (scope : Scope) : Mutation (Option PublicStore) :=
  match scope.lookup id with
  | .absent => .error .STORE_NOT_FOUND
  | .inherited => .ok (none, scope)
  | .record previous =>
    let store := { previous with
      lifecycleState := .TOMBSTONED
      credentials := {}
      credentialsStale := true
      verification := []
      metadataRevision := previous.metadataRevision + 1 }
    .ok (some (publicStore store), scope.put store)

/-- A provider's answer to a check of credentials. -/
structure ProviderCheck where
  code : JsString
  httpStatus : Option Int := none

/-- The record that an operation pinned to a credential revision may change; a member of
`Object.prototype` has no revision to be pinned to. -/
def pinnedStore (id : JsString) (expectedRevision : Option JsString) (scope : Scope) :
    Option Store :=
  (scope.stores.get id).filter fun store =>
    store.lifecycleState ≠ .TOMBSTONED && store.credentialRevision = expectedRevision

def noteVerification (id : JsString) (expectedRevision : Option JsString) (part : JsString)
    (result : ProviderCheck) (now : Int) (scope : Scope) : Mutation PublicStore :=
  match pinnedStore id expectedRevision scope with
  | none => .error .STORE_CHANGED
  | some previous =>
    let note := { code := result.code, httpStatus := result.httpStatus.getD 0, checkedAt := now }
    let store := { previous with verification := previous.verification.set part note }
    .ok (publicStore store, scope.put store)

/-- `/^[A-Za-z0-9._:-]{1,128}$/`. -/
def isProviderAccountId (s : JsString) : Bool :=
  1 ≤ s.length && s.length ≤ 128 && s.all fun u =>
    (65 ≤ u && u ≤ 90) || (97 ≤ u && u ≤ 122) || (48 ≤ u && u ≤ 58) || u = 46 || u = 95 || u = 45

def confirmProviderIdentity (id : JsString) (expectedRevision : Option JsString)
    (providerAccountId : JsString) (scope : Scope) : Mutation PublicStore :=
  if !isProviderAccountId providerAccountId then .error .PROVIDER_IDENTITY_UNCONFIRMED
  else
    match pinnedStore id expectedRevision scope with
    | none => .error .STORE_CHANGED
    | some previous =>
      if previous.providerIdentityState = .CONFIRMED &&
          previous.providerAccountId ≠ some providerAccountId then
        .error .STORE_PROVIDER_IDENTITY_MISMATCH
      else
        let store := { previous with
          providerAccountId := some providerAccountId
          providerIdentityState := .CONFIRMED
          metadataRevision := previous.metadataRevision + 1 }
        .ok (publicStore store, scope.put store)

/-! `applyRemoteMetadata`. -/

def incomingRevision (input : StoreState) : Nat := (input.metadataRevision.filter safeNat).getD 0

/-- The fields that remote metadata set on the record of a store, new or previous. -/
def remoteStore (accountId : JsString) (previous : Option Store) (storeId : JsString)
    (input : StoreState) (now : Int) : Store :=
  let confirmed := previous.any (·.providerIdentityState = .CONFIRMED) ||
    input.providerIdentityState = some .CONFIRMED
  let tombstone := input.kind = .STORE_TOMBSTONE
  let previousCredentialRevision := orNull (previous.bind Store.credentialRevision)
  let credentialRevision :=
    orElse input.credentialRevision (orNull (previous.bind Store.credentialRevision))
  let credentials := if tombstone then {} else (previous.map Store.credentials).getD {}
  { id := (previous.map Store.id).getD storeId
    accountId := (previous.map Store.accountId).getD accountId
    marketplace := input.marketplace
    name := trim (input.name.getD [])
    credentials := credentials
    credentialRevision := credentialRevision
    metadataRevision := incomingRevision input
    lifecycleState := if tombstone then .TOMBSTONED else .ACTIVE
    providerAccountId :=
      if confirmed then
        orElse (previous.bind Store.providerAccountId) (orNull input.providerAccountId.join)
      else none
    providerIdentityState := if confirmed then .CONFIRMED else .UNCONFIRMED
    credentialsStale := tombstone || previous.any Store.credentialsStale || credentials = {} ||
      (previous.isSome && previousCredentialRevision ≠ credentialRevision)
    personalDataEnabled := previous.any Store.personalDataEnabled
    verification := if tombstone then [] else (previous.map Store.verification).getD []
    createdAt := (previous.map Store.createdAt).getD now }

def applyRemoteMetadata (accountId : JsString) (input : StoreState) (now : Int) (scope : Scope) :
    Mutation PublicStore :=
  if !truthy input.storeId || !input.kind.isStore then .error .INVALID_STORE_METADATA
  else
    let storeId := input.storeId.getD []
    let revision := incomingRevision input
    match scope.lookup storeId with
    | .absent =>
      let store := remoteStore accountId none storeId input now
      .ok (publicStore store, scope.put store)
    -- such a member is of no account
    | .inherited => .error .STORE_NOT_FOUND
    | .record previous =>
      if previous.accountId ≠ accountId then .error .STORE_NOT_FOUND
      else if previous.lifecycleState = .TOMBSTONED then
        if input.kind = .STORE_TOMBSTONE && previous.metadataRevision < revision then
          let store := { previous with metadataRevision := (revision : Int) }
          .ok (publicStore store, scope.put store)
        else .ok (publicStore previous, scope)
      else if (revision : Int) < previous.metadataRevision then .ok (publicStore previous, scope)
      else if previous.providerIdentityState = .CONFIRMED &&
          input.providerIdentityState = some .CONFIRMED &&
          some previous.providerAccountId ≠ input.providerAccountId then
        .error .STORE_PROVIDER_IDENTITY_MISMATCH
      else
        let store := remoteStore accountId (some previous) storeId input now
        .ok (publicStore store, scope.put store)

/-! Runs of one account. -/

/-- The operations of the catalog. -/
inductive CatalogCall where
  | save (input : SaveInput) (drawn : Drawn)
  | importCredential (input : CredentialImport) (now : Int)
  | applyBackupImport (payload : BackupPayload) (expectedPlan : BackupPlan) (now : Int)
  | remove (id : JsString)
  | noteVerification (id : JsString) (expectedRevision : Option JsString) (part : JsString)
      (result : ProviderCheck) (now : Int)
  | confirmProviderIdentity (id : JsString) (expectedRevision : Option JsString)
      (providerAccountId : JsString)
  | applyRemoteMetadata (input : StoreState) (now : Int)

section Runs

variable (normalizeCredentials : NormalizeCredentials) (accountId : JsString)

/-- The scope that a call writes, if it comes to write one. -/
def CatalogCall.written (call : CatalogCall) (scope : Scope) : Option Scope :=
  match call with
  | .save input drawn =>
    (BridgeCore.save normalizeCredentials accountId input drawn scope).toOption.map Prod.snd
  | .importCredential input now =>
    (BridgeCore.importCredential normalizeCredentials accountId input now scope).toOption.map
      Prod.snd
  | .applyBackupImport payload expectedPlan now =>
    (BridgeCore.applyBackupImport normalizeCredentials accountId payload expectedPlan now
      scope).toOption.map Prod.snd
  | .remove id => (BridgeCore.remove id scope).toOption.map Prod.snd
  | .noteVerification id expectedRevision part result now =>
    (BridgeCore.noteVerification id expectedRevision part result now scope).toOption.map Prod.snd
  | .confirmProviderIdentity id expectedRevision providerAccountId =>
    (BridgeCore.confirmProviderIdentity id expectedRevision providerAccountId scope).toOption.map
      Prod.snd
  | .applyRemoteMetadata input now =>
    (BridgeCore.applyRemoteMetadata accountId input now scope).toOption.map Prod.snd

/-- A call that fails leaves the stored scope as it is. -/
def CatalogCall.next (call : CatalogCall) (scope : Scope) : Scope :=
  (call.written normalizeCredentials accountId scope).getD scope

def catalogFrom (scope : Scope) (calls : List CatalogCall) : Scope :=
  calls.foldl (fun scope call => call.next normalizeCredentials accountId scope) scope

/-- The catalog of an account that began without stores. -/
def catalog (calls : List CatalogCall) : Scope :=
  catalogFrom normalizeCredentials accountId {} calls

end Runs

end SellerAgents.BridgeCore
