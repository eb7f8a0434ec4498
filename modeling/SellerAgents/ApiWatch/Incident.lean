import SellerAgents.Js.Map
import SellerAgents.Subscriptions.Lifecycle

namespace SellerAgents.ApiWatch

open Js
open Subscriptions (Date)

inductive SwaggerSourceFamily where
  | OZON_SELLER | OZON_PERFORMANCE | WILDBERRIES
deriving DecidableEq

inductive ApiWatchIncidentType where
  | SOURCE_AUTHORITY_BLOCKED | API_CHANGE_BLOCKING | API_CHANGE_REVIEW_REQUIRED
  | RUNTIME_OPERATION_STALE | RUNTIME_MAPPING_AMBIGUOUS | WATCH_RUN_FAILED
deriving DecidableEq

inductive ApiWatchImpactSeverity where
  | BLOCKING_RISK | REVIEW_REQUIRED | UNKNOWN | NO_POLICY_IMPACT
deriving DecidableEq

inductive ApiWatchIncidentState where
  | OPEN | RESOLVED
deriving DecidableEq

/-- What `observe` is given. -/
structure Observation where
  incidentKey : String
  incidentType : ApiWatchIncidentType
  sourceFamily : Option SwaggerSourceFamily
  documentKey : Option String
  operationIdentity : Option String
  firstSeenAt : Date
  lastSeenAt : Date
  severity : ApiWatchImpactSeverity
  latestReportId : String
  latestDiffSha256 : Option String
  safeSummaryCode : String
deriving DecidableEq

/-- A row of the incident table. -/
structure ApiWatchIncident : Type extends Observation where
  /-- The random UUIDs of a store are numbered as they are drawn. -/
  incidentId : Nat
  occurrenceCount : Nat
  state : ApiWatchIncidentState
  resolvedAt : Option Date
deriving DecidableEq

/-- The incidents of a store by their keys, and the number of UUIDs it has drawn. The texts of keys
and reports are without lone surrogates, which the type `String` does not have. -/
structure Incidents where
  records : JsMap String ApiWatchIncident := .empty
  drawn : Nat := 0
deriving DecidableEq

/-- A number of occurrences that a caller may expect: a positive safe integer. What is not an
integer comes as `none`. -/
def expectedCount (expectedOccurrenceCount : Option Int) : Option Nat :=
  (expectedOccurrenceCount.filter fun n => 0 < n && n ≤ 9007199254740991).map Int.toNat

/-- Whether an incident is the open version that a caller expects. -/
def ApiWatchIncident.isVersion (incident : ApiWatchIncident) (expected : Nat) : Bool :=
  incident.state = .OPEN && incident.occurrenceCount = expected

def ApiWatchIncident.resolved (incident : ApiWatchIncident) (resolvedAt : Date) : ApiWatchIncident :=
  { incident with state := .RESOLVED, resolvedAt := some resolvedAt, lastSeenAt := resolvedAt }

/-- The incident of a first observation. -/
def Observation.created (input : Observation) (incidentId : Nat) : ApiWatchIncident :=
  { input with incidentId, occurrenceCount := 1, state := .OPEN, resolvedAt := none }

namespace InMemoryApiWatchIncidentStore

variable (s : Incidents)

def observe (input : Observation) : (ApiWatchIncident × Bool) × Incidents :=
  match s.records.get input.incidentKey with
  | some existing =>
    let next : ApiWatchIncident :=
      { input with
        incidentId := existing.incidentId
        occurrenceCount := existing.occurrenceCount + 1
        state := .OPEN
        resolvedAt := none }
    ((next, existing.state ≠ .OPEN), { s with records := s.records.set input.incidentKey next })
  | none =>
    ((input.created s.drawn, true),
      ⟨s.records.set input.incidentKey (input.created s.drawn), s.drawn + 1⟩)

def resolve (key : String) (resolvedAt : Date) (expectedOccurrenceCount : Option Int) :
    Option ApiWatchIncident × Incidents :=
  match expectedCount expectedOccurrenceCount, s.records.get key with
  | some expected, some current =>
    if current.isVersion expected then
      (some (current.resolved resolvedAt),
        { s with records := s.records.set key (current.resolved resolvedAt) })
    else (none, s)
  | _, _ => (none, s)

def listOpen (localeCompare : String → String → Bool) : List ApiWatchIncident :=
  ((s.records.entries.map Prod.snd).filter (·.state = .OPEN)).mergeSort fun a b =>
    localeCompare a.incidentKey b.incidentKey

def find (key : String) : Option ApiWatchIncident := s.records.get key

end InMemoryApiWatchIncidentStore

/-- The times that a `timestamptz` column keeps as they are. -/
abbrev StoresTime : Type := Date → Bool

namespace PostgresApiWatchIncidentStore

/-- PostgreSQL refuses a statement, or its answer lacks a row. -/
inductive PgError where
  | refused

/-- A text that PostgreSQL takes as a parameter. -/
def isText (s : String) : Bool := s.toList.all (· ≠ Char.ofNat 0)

/-- The conversion to `varchar(max)`; excess blanks are cut. -/
def varchar (max : Nat) (s : String) : Option String :=
  if !isText s then none
  else if s.length ≤ max then some s
  else if (s.toList.drop max).all (· = Char.ofNat 32) then some (String.ofList (s.toList.take max))
  else none

/-- The conversion of a value that may be null. -/
def nullable (column : String → Option String) : Option String → Option (Option String)
  | none => some none
  | some s => (column s).map some

/-- The check on `document_key`. -/
def documentKeyNonempty (documentKey : Option String) : Bool :=
  documentKey.all fun s => s.toList.any (· ≠ Char.ofNat 32)

def maxInteger : Nat := 2147483647

variable (storesTime : StoresTime)

/-- The tuple of the `VALUES` clause, with the columns' types and checks. -/
def tuple (input : Observation) (incidentId occurrenceCount : Nat) : Option ApiWatchIncident := do
  let incidentKey ← varchar 700 input.incidentKey
  let documentKey ← nullable (varchar 128) input.documentKey
  let operationIdentity ← nullable (varchar 512) input.operationIdentity
  let latestReportId ← varchar 160 input.latestReportId
  let latestDiffSha256 ← nullable (varchar 64) input.latestDiffSha256
  let safeSummaryCode ← varchar 80 input.safeSummaryCode
  if storesTime input.firstSeenAt && storesTime input.lastSeenAt && occurrenceCount ≤ maxInteger &&
      documentKeyNonempty documentKey then
    some { input with
      incidentKey, documentKey, operationIdentity, latestReportId, latestDiffSha256,
      safeSummaryCode, incidentId, occurrenceCount
      state := .OPEN
      resolvedAt := none }
  else none

/-- `INSERT … ON CONFLICT (incident_key) DO UPDATE SET …`. -/
def upsert (records : JsMap String ApiWatchIncident) (excluded : ApiWatchIncident) :
    Option (JsMap String ApiWatchIncident) :=
  match records.get excluded.incidentKey with
  | none => some (records.set excluded.incidentKey excluded)
  | some row =>
    if row.occurrenceCount + 1 ≤ maxInteger then
      some (records.set excluded.incidentKey
        { row with
          documentKey := excluded.documentKey
          lastSeenAt := excluded.lastSeenAt
          resolvedAt := none
          occurrenceCount := row.occurrenceCount + 1
          severity := excluded.severity
          latestReportId := excluded.latestReportId
          latestDiffSha256 := excluded.latestDiffSha256
          safeSummaryCode := excluded.safeSummaryCode
          state := .OPEN })
    else none

variable (s : Incidents)

def observe (input : Observation) : Except PgError (ApiWatchIncident × Bool) × Incidents :=
  let row := s.records.get input.incidentKey
  let opened := row.all (·.state ≠ .OPEN)
  let incidentId := (row.map (·.incidentId)).getD s.drawn
  let drawn := if row.isSome then s.drawn else s.drawn + 1
  let occurrenceCount := (row.map (·.occurrenceCount + 1)).getD 1
  match (tuple storesTime input incidentId occurrenceCount).bind (upsert s.records) with
  | none => (.error .refused, s)
  | some records =>
    match records.get input.incidentKey with
    | none => (.error .refused, s)
    | some saved => (.ok (saved, opened), ⟨records, drawn⟩)

def resolve (key : String) (resolvedAt : Date) (expectedOccurrenceCount : Option Int) :
    Except PgError (Option ApiWatchIncident) × Incidents :=
  match expectedCount expectedOccurrenceCount with
  | none => (.ok none, s)
  | some expected =>
    if !isText key || !storesTime resolvedAt || maxInteger < expected then (.error .refused, s)
    else match (s.records.get key).filter (·.isVersion expected) with
      | none => (.ok none, s)
      | some row =>
        (.ok (some (row.resolved resolvedAt)),
          { s with records := s.records.set key (row.resolved resolvedAt) })

def listOpen (collation : String → String → Bool) : List ApiWatchIncident :=
  ((s.records.entries.map Prod.snd).filter (·.state = .OPEN)).mergeSort fun a b =>
    collation a.incidentKey b.incidentKey

def find (key : String) : Except PgError (Option ApiWatchIncident) :=
  if isText key then .ok (s.records.get key) else .error .refused

end PostgresApiWatchIncidentStore

end SellerAgents.ApiWatch
