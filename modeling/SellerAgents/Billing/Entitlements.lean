import SellerAgents.Billing.Tables
import SellerAgents.Js.Map
import SellerAgents.Sync.State

open SellerAgents.Js SellerAgents.Subscriptions

namespace SellerAgents.Billing

inductive CommercialEntitlementLifecycle where
  | ACTIVE
  | GRACE
  | ENDED
  | SUSPENDED
deriving DecidableEq

inductive CommercialEntitlementSource where
  | BILLING_PROVIDER
  | SYSTEM_RECONCILIATION
  | ADMIN
deriving DecidableEq

inductive CommercialValue where
  | boolean (value : Bool)
  | number (value : Int)
deriving DecidableEq

/-- An event of a provider about an account's entitlements. -/
structure CommercialEntitlementEvent where
  provider : JsString
  eventId : JsString
  accountId : JsString
  planCode : JsString
  lifecycle : CommercialEntitlementLifecycle
  entitlementRevision : Int
  effectiveFrom : Date
  effectiveUntil : Option Date
  source : CommercialEntitlementSource
  externalReference : Option JsString
  providerEventVersion : Int
  occurredAt : Date
  permissions : JsMap JsString CommercialValue
deriving DecidableEq

/-! The schema of an event. -/

def isWordUnit (u : UInt16) : Bool := (97 ≤ u && u ≤ 122) || (48 ≤ u && u ≤ 57)

/-- The dot, the underscore and the dash between the words of a machine key. -/
def isMachineSeparator (u : UInt16) : Bool := u == 46 || u == 95 || u == 45

/-- The rest of a machine key after a unit that is, or is not, of a word. -/
def machineRest : Bool → JsString → Bool
  | inWord, [] => inWord
  | inWord, u :: rest =>
    if isWordUnit u then machineRest true rest
    else isMachineSeparator u && inWord && machineRest false rest

/-- `MachineKeySchema`, which is `PlanCodeSchema` too. -/
def isMachineKey : JsString → Bool
  | [] => false
  | u :: rest => rest.length < 64 && (97 ≤ u && u ≤ 122) && machineRest true rest

def isOpaqueUnit (u : UInt16) : Bool :=
  isWordUnit u || (65 ≤ u && u ≤ 90) || u == 46 || u == 95 || u == 58 || u == 45

/-- The text in lower case, for the units that the scheme of a URL has. -/
def lowerAscii (s : JsString) : JsString := s.map fun u => if 65 ≤ u ∧ u ≤ 90 then u + 32 else u

/-- `OpaqueReferenceSchema`. -/
def isOpaqueReference (s : JsString) : Bool :=
  Sync.bounded 256 s && s.all isOpaqueUnit &&
    !(units "http:").isPrefixOf (lowerAscii s) && !(units "https:").isPrefixOf (lowerAscii s)

/-- `z.number().int().safe()`. -/
def isSafe (n : Int) : Bool := n.natAbs ≤ 9007199254740991

def CommercialValue.accepted : CommercialValue → Bool
  | boolean _ => true
  | number value => isSafe value

/-- Whether `CommercialEntitlementEventSchema` accepts an event. -/
def CommercialEntitlementEvent.accepted (event : CommercialEntitlementEvent) : Bool :=
  isMachineKey event.provider &&
  isOpaqueReference event.eventId &&
  Sync.isUuid event.accountId &&
  isMachineKey event.planCode &&
  (0 < event.entitlementRevision && isSafe event.entitlementRevision) &&
  event.externalReference.all isOpaqueReference &&
  (0 < event.providerEventVersion && isSafe event.providerEventVersion) &&
  (event.permissions.entries.all fun entry => Sync.bounded 128 entry.1 && entry.2.accepted) &&
  event.permissions.size ≤ 128 &&
  event.effectiveUntil.all fun effectiveUntil => event.effectiveFrom < effectiveUntil

/-- What stands for an account after its events. -/
structure CommercialEntitlementRecord where
  accountId : JsString
  planCode : JsString
  lifecycle : CommercialEntitlementLifecycle
  entitlementRevision : Int
  effectiveFrom : Date
  effectiveUntil : Option Date
  source : CommercialEntitlementSource
  externalReference : Option JsString
  providerEventVersion : Int
  occurredAt : Date
  permissions : JsMap JsString CommercialValue
deriving DecidableEq

inductive EntitlementConflict where
  | EVENT_ID_REUSED
  | REVISION_CONFLICT

inductive CommercialEntitlementEventApplyResult where
  | APPLIED (record : CommercialEntitlementRecord)
  | DUPLICATE (record : CommercialEntitlementRecord)
  | STALE (currentRevision : Int)
  | CONFLICT (code : EntitlementConflict)

/-- The number that a property name is an array index of. -/
def arrayIndex (name : JsString) : Option Nat :=
  let value := name.foldl (fun value u => value * 10 + (u.toNat - 48)) 0
  if units (toString value) = name ∧ value < 4294967295 then some value else none

/-- `Object.fromEntries`: an object lists its array indices first, in ascending order. -/
def fromEntries (entries : List (JsString × CommercialValue)) :
    List (JsString × CommercialValue) :=
  (entries.filter fun entry => (arrayIndex entry.1).isSome).mergeSort
      (fun a b => (arrayIndex a.1).getD 0 ≤ (arrayIndex b.1).getD 0) ++
    entries.filter fun entry => !(arrayIndex entry.1).isSome

theorem fromEntries_perm (entries : List (JsString × CommercialValue)) :
    (fromEntries entries).Perm entries :=
  ((List.mergeSort_perm _ _).append_right _).trans (List.filter_append_perm _ entries)

section Order

/-! The order of `a.localeCompare(b)`. -/

variable (localeCompare : JsString → JsString → Int)

/-- `Object.fromEntries(Object.entries(permissions).sort(...))`. -/
def sortedEntries (permissions : JsMap JsString CommercialValue) :
    List (JsString × CommercialValue) :=
  fromEntries (permissions.entries.mergeSort fun a b => localeCompare a.1 b.1 ≤ 0)

theorem sortedEntries_perm (permissions : JsMap JsString CommercialValue) :
    (sortedEntries localeCompare permissions).Perm permissions.entries :=
  (fromEntries_perm _).trans (List.mergeSort_perm _ _)

/-- The object that the text of an event is written from. Two of these texts are the same when the
objects are, with their properties in the same order. -/
def commercialEventCanonical (event : CommercialEntitlementEvent) : CommercialEntitlementEvent :=
  { event with
    permissions :=
      ⟨sortedEntries localeCompare event.permissions,
        ((sortedEntries_perm localeCompare event.permissions).map Prod.fst).nodup_iff.mpr
          event.permissions.nodup⟩ }

def recordFromEvent (event : CommercialEntitlementEvent) : CommercialEntitlementRecord where
  accountId := event.accountId
  planCode := event.planCode
  lifecycle := event.lifecycle
  entitlementRevision := event.entitlementRevision
  effectiveFrom := event.effectiveFrom
  effectiveUntil := event.effectiveUntil
  source := event.source
  externalReference := event.externalReference
  providerEventVersion := event.providerEventVersion
  occurredAt := event.occurredAt
  permissions := event.permissions

/-- `InMemoryCommercialEntitlementEventRepository`. -/
structure EntitlementRepository where
  events : JsMap JsString CommercialEntitlementEvent := .empty
  records : JsMap JsString CommercialEntitlementRecord := .empty

/-- The key of an event in the index. -/
def CommercialEntitlementEvent.eventKey (event : CommercialEntitlementEvent) : JsString :=
  event.provider ++ 58 :: event.eventId

/-- An event with the fields of a record but its account and revision. -/
def withRecord (event : CommercialEntitlementEvent) (current : CommercialEntitlementRecord) :
    CommercialEntitlementEvent :=
  { event with
    lifecycle := current.lifecycle
    planCode := current.planCode
    effectiveFrom := current.effectiveFrom
    effectiveUntil := current.effectiveUntil
    source := current.source
    externalReference := current.externalReference
    providerEventVersion := current.providerEventVersion
    occurredAt := current.occurredAt
    permissions := current.permissions }

/-- What the record of the account says against an event whose id is new. -/
def refusal (event : CommercialEntitlementEvent) :
    Option CommercialEntitlementRecord → Option CommercialEntitlementEventApplyResult
  | none => none
  | some current =>
    if event.entitlementRevision < current.entitlementRevision then
      some (.STALE current.entitlementRevision)
    else if event.entitlementRevision = current.entitlementRevision ∧
        commercialEventCanonical localeCompare
            { event with eventId := units "current", provider := units "current" } ≠
          commercialEventCanonical localeCompare
            (withRecord { event with eventId := units "current", provider := units "current" }
              current) then
      some (.CONFLICT .REVISION_CONFLICT)
    else none

/-- `applyEvent`: the result, none when the schema throws, and the repository after it. -/
def applyEvent (repository : EntitlementRepository) (event : CommercialEntitlementEvent) :
    Option CommercialEntitlementEventApplyResult × EntitlementRepository :=
  if event.accepted = false then (none, repository)
  else
    let canonical := commercialEventCanonical localeCompare event
    let current := repository.records.get event.accountId
    match repository.events.get event.eventKey with
    | some priorEvent =>
      if priorEvent ≠ canonical then (some (.CONFLICT .EVENT_ID_REUSED), repository)
      else
        match current with
        | none => (some (.CONFLICT .EVENT_ID_REUSED), repository)
        | some current => (some (.DUPLICATE current), repository)
    | none =>
      match refusal localeCompare event current with
      | some refused => (some refused, repository)
      | none =>
        let record := recordFromEvent event
        (some (.APPLIED record),
          { events := repository.events.set event.eventKey canonical
            records := repository.records.set event.accountId record })

/-- The event that `read` makes its answer from, with the texts of a snapshot. -/
def snapshotEvent (record : CommercialEntitlementRecord) : CommercialEntitlementEvent where
  provider := units "snapshot"
  eventId := units "snapshot-" ++ units (toString record.entitlementRevision)
  accountId := record.accountId
  planCode := record.planCode
  lifecycle := record.lifecycle
  entitlementRevision := record.entitlementRevision
  effectiveFrom := record.effectiveFrom
  effectiveUntil := record.effectiveUntil
  source := record.source
  externalReference := record.externalReference
  providerEventVersion := record.providerEventVersion
  occurredAt := record.occurredAt
  permissions := record.permissions

def read (repository : EntitlementRepository) (accountId : JsString) :
    Option CommercialEntitlementRecord :=
  (repository.records.get accountId).map fun record => recordFromEvent (snapshotEvent record)

theorem read_eq (repository : EntitlementRepository) (accountId : JsString) :
    read repository accountId = repository.records.get accountId := by
  rw [read]
  cases repository.records.get accountId <;> rfl

/-- The repository after deliveries one after another. -/
def deliver (repository : EntitlementRepository) (deliveries : List CommercialEntitlementEvent) :
    EntitlementRepository :=
  deliveries.foldl (fun repository event => (applyEvent localeCompare repository event).2) repository

end Order

end SellerAgents.Billing
