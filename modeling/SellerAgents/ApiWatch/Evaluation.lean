import SellerAgents.ApiWatch.StoreAgreement
import SellerAgents.Concurrent.Pool
import SellerAgents.Js.Text

open Concurrent

namespace SellerAgents.ApiWatch

open Js
open Subscriptions (Date)

inductive AuthorityStatus where
  | AUTHORITY_ACCEPTED | AUTHORITY_REVIEW_REQUIRED | AUTHORITY_REJECTED | AUTHORITY_BLOCKED
deriving DecidableEq

inductive ChangeMode where
  | NO_CHANGE | FIRST_SNAPSHOT | CHANGED
deriving DecidableEq

structure ApiWatchReportSourceOutcome where
  sourceFamily : SwaggerSourceFamily
  documentKey : Option String
  acquisitionOutcome : String
  authorityStatus : Option AuthorityStatus
  snapshotSha256 : Option String
  baseSnapshotSha256 : Option String
  blockerCode : Option String
  errorCode : Option String
  changeMode : Option ChangeMode
deriving DecidableEq

inductive ApiWatchReportState where
  | CREATED | RUNNING | COMPLETED | PARTIAL | BLOCKED | FAILED
deriving DecidableEq

/-- The report of one pass over the sources. -/
structure ApiWatchReport where
  reportId : String
  state : ApiWatchReportState
  sources : List ApiWatchReportSourceOutcome

inductive CrosswalkState where
  | MAPPED_ENABLED | MAPPED_DISABLED | SOURCE_ONLY | RUNTIME_ONLY | AMBIGUOUS_RUNTIME_MAPPING
deriving DecidableEq

inductive CrosswalkReviewState where
  | NO_ACTION | REVIEW_REQUIRED | BLOCKING_RISK
deriving DecidableEq

structure ProductCrosswalkRow where
  crosswalkId : String
  reportId : String
  sourceFamily : SwaggerSourceFamily
  documentKey : Option String
  sourceIdentity : String
  crosswalkState : CrosswalkState
  reviewState : CrosswalkReviewState
  executionEnabled : Option Bool
  diffSha256 : Option String

def ApiWatchIncidentType.name : ApiWatchIncidentType → String
  | .SOURCE_AUTHORITY_BLOCKED => "SOURCE_AUTHORITY_BLOCKED"
  | .API_CHANGE_BLOCKING => "API_CHANGE_BLOCKING"
  | .API_CHANGE_REVIEW_REQUIRED => "API_CHANGE_REVIEW_REQUIRED"
  | .RUNTIME_OPERATION_STALE => "RUNTIME_OPERATION_STALE"
  | .RUNTIME_MAPPING_AMBIGUOUS => "RUNTIME_MAPPING_AMBIGUOUS"
  | .WATCH_RUN_FAILED => "WATCH_RUN_FAILED"

def SwaggerSourceFamily.name : SwaggerSourceFamily → String
  | .OZON_SELLER => "OZON_SELLER"
  | .OZON_PERFORMANCE => "OZON_PERFORMANCE"
  | .WILDBERRIES => "WILDBERRIES"

def isProductIncidentType : ApiWatchIncidentType → Bool
  | .API_CHANGE_BLOCKING | .API_CHANGE_REVIEW_REQUIRED | .RUNTIME_OPERATION_STALE
  | .RUNTIME_MAPPING_AMBIGUOUS => true
  | _ => false

section Inputs

variable (sha256 : String → String)

def incidentKey (type : ApiWatchIncidentType) (sourceFamily : Option SwaggerSourceFamily)
    (operationIdentity documentKey : Option String) : String :=
  let base := type.name ++ ":" ++ (sourceFamily.map (·.name)).getD "GLOBAL" ++ ":" ++
    operationIdentity.getD "SOURCE"
  match documentKey with
  | some key => if isProductIncidentType type then base ++ ":DOCUMENT_SHA256:" ++ sha256 key else base
  | none => base

def incidentInput (type : ApiWatchIncidentType) (family : Option SwaggerSourceFamily)
    (operationIdentity : Option String) (report : ApiWatchReport) (severity : ApiWatchImpactSeverity)
    (summary : String) (now : Date) (diff documentKey : Option String) : Observation where
  incidentKey := incidentKey sha256 type family operationIdentity documentKey
  incidentType := type
  sourceFamily := family
  documentKey := documentKey
  operationIdentity := operationIdentity
  firstSeenAt := now
  lastSeenAt := now
  severity := severity
  latestReportId := report.reportId
  latestDiffSha256 := diff
  safeSummaryCode := summary

/-- The order of `Array.prototype.sort`: by UTF-16 code units. -/
def sortsBefore (a b : String) : Bool := !(units b).lex (units a)

def hexDigit (n : Nat) : Char := if n < 10 then Char.ofNat (48 + n) else Char.ofNat (87 + n)

/-- A character of a JSON string. -/
def jsonChar (c : Char) : List Char :=
  let backslash := Char.ofNat 92
  if c.toNat = 34 ∨ c.toNat = 92 then [backslash, c]
  else if c.toNat = 8 then [backslash, 'b']
  else if c.toNat = 9 then [backslash, 't']
  else if c.toNat = 10 then [backslash, 'n']
  else if c.toNat = 12 then [backslash, 'f']
  else if c.toNat = 13 then [backslash, 'r']
  else if c.toNat < 32 then
    [backslash, 'u', '0', '0', hexDigit (c.toNat / 16), hexDigit (c.toNat % 16)]
  else [c]

/-- `JSON.stringify` of an array of strings. -/
def jsonStrings (strings : List String) : String :=
  let quote := Char.ofNat 34
  String.ofList ('[' :: (List.intercalate [','] (strings.map fun s =>
    quote :: s.toList.flatMap jsonChar ++ [quote])) ++ [']'])

/-- The fingerprint of a family's exact document set. -/
def familyAbsenceSummary (sources : List ApiWatchReportSourceOutcome) : Option String :=
  let keys := sources.map (·.documentKey)
  if keys.isEmpty || keys.contains none || !decide keys.Nodup then none
  else some ("FAMILY_ABS_V1_" ++ sha256 (jsonStrings ((keys.filterMap id).mergeSort sortsBefore)))

end Inputs

def atAcceptedBaseline (source : ApiWatchReportSourceOutcome) : Bool :=
  source.authorityStatus = some .AUTHORITY_ACCEPTED && source.blockerCode.isNone &&
    source.errorCode.isNone && source.snapshotSha256.isSome && source.baseSnapshotSha256.isSome &&
    source.snapshotSha256 = source.baseSnapshotSha256 && source.changeMode = some .NO_CHANGE

/-- A source row whose snapshot is accepted. -/
def isAccepted (source : ApiWatchReportSourceOutcome) : Bool :=
  source.authorityStatus = some .AUTHORITY_ACCEPTED && source.snapshotSha256.isSome &&
    source.blockerCode.isNone

/-- One call of `evaluateApiWatchIncidents`. -/
structure Evaluation where
  report : ApiWatchReport
  crosswalkRows : List ProductCrosswalkRow
  verifiedFamilyAbsenceRowIds : List String
  /-- Whether there is a notifier. -/
  notifies : Bool
  now : Date

namespace Evaluation

variable (sha256 : String → String) (e : Evaluation)

def familySources (family : Option SwaggerSourceFamily) : List ApiWatchReportSourceOutcome :=
  e.report.sources.filter fun source => family = some source.sourceFamily

def blockedObservations : List Observation :=
  (e.report.sources.filter fun source =>
    source.blockerCode = some "SOURCE_URL_AUTHORITY_MISSING" ||
      source.acquisitionOutcome = "SOURCE_URL_AUTHORITY_MISSING").map fun source =>
    incidentInput sha256 .SOURCE_AUTHORITY_BLOCKED (some source.sourceFamily) none e.report
      .BLOCKING_RISK "SOURCE_URL_AUTHORITY_MISSING" e.now none none

def failedObservations : List Observation :=
  if e.report.state = .FAILED then
    [incidentInput sha256 .WATCH_RUN_FAILED none none e.report .BLOCKING_RISK "WATCH_RUN_FAILED" e.now
      none none]
  else []

def crosswalkType (row : ProductCrosswalkRow) : ApiWatchIncidentType :=
  if row.crosswalkState = .AMBIGUOUS_RUNTIME_MAPPING then .RUNTIME_MAPPING_AMBIGUOUS
  else if row.crosswalkState = .SOURCE_ONLY then .RUNTIME_OPERATION_STALE
  else if row.reviewState = .BLOCKING_RISK then .API_CHANGE_BLOCKING
  else .API_CHANGE_REVIEW_REQUIRED

def familySummary (row : ProductCrosswalkRow) : Option String :=
  if row.crosswalkState = .RUNTIME_ONLY ∧ row.documentKey = none ∧ row.reportId = e.report.reportId ∧
      row.crosswalkId ∈ e.verifiedFamilyAbsenceRowIds then
    familyAbsenceSummary sha256 (e.familySources (some row.sourceFamily))
  else none

def crosswalkObservations : List Observation :=
  (e.crosswalkRows.filter (·.reviewState ≠ .NO_ACTION)).map fun row =>
    incidentInput sha256 (crosswalkType row) (some row.sourceFamily) (some row.sourceIdentity) e.report
      (if row.reviewState = .BLOCKING_RISK then .BLOCKING_RISK else .REVIEW_REQUIRED)
      ((e.familySummary sha256 row).getD (crosswalkType row).name) e.now row.diffSha256 row.documentKey

def observations : List Observation :=
  e.blockedObservations sha256 ++ e.failedObservations sha256 ++ e.crosswalkObservations sha256

def acceptedFamilies : List SwaggerSourceFamily :=
  (e.report.sources.filter isAccepted).map (·.sourceFamily)

def matchingDocumentSources (incident : ApiWatchIncident) : List ApiWatchReportSourceOutcome :=
  if incident.sourceFamily.isSome ∧ incident.documentKey.isSome then
    (e.familySources incident.sourceFamily).filter fun source =>
      source.documentKey = incident.documentKey
  else []

/-- An enabled mapping that the report accepts without action, in a document of the family. -/
def mapsAgain (incident : ApiWatchIncident) (row : ProductCrosswalkRow) : Bool :=
  row.reportId = e.report.reportId && incident.sourceFamily = some row.sourceFamily &&
    incident.operationIdentity = some row.sourceIdentity && row.documentKey.isSome &&
    ((e.familySources incident.sourceFamily).any fun source => source.documentKey = row.documentKey) &&
    row.crosswalkState = .MAPPED_ENABLED && row.executionEnabled = some true &&
    row.reviewState = .NO_ACTION

def familyRecovered (incident : ApiWatchIncident) : Bool :=
  incident.documentKey.isNone &&
    some incident.safeSummaryCode =
      familyAbsenceSummary sha256 (e.familySources incident.sourceFamily) &&
    (e.familySources incident.sourceFamily).all atAcceptedBaseline &&
    e.crosswalkRows.any (e.mapsAgain incident)

def acquisitionRecovered (incident : ApiWatchIncident) : Bool :=
  incident.incidentType = .WATCH_RUN_FAILED || incident.incidentType = .SOURCE_AUTHORITY_BLOCKED

def productRecovered (incident : ApiWatchIncident) : Bool :=
  isProductIncidentType incident.incidentType &&
    ((!(e.matchingDocumentSources incident).isEmpty &&
      (e.matchingDocumentSources incident).all atAcceptedBaseline) ||
      e.familyRecovered sha256 incident)

/-- Whether the evaluation closes an open incident that it has listed. -/
def closes (activeKeys : List String) (incident : ApiWatchIncident) : Bool :=
  incident.incidentKey ∉ activeKeys &&
    !(incident.incidentType = .SOURCE_AUTHORITY_BLOCKED &&
      incident.sourceFamily.all (· ∉ e.acceptedFamilies)) &&
    (acquisitionRecovered incident || e.productRecovered sha256 incident)

end Evaluation

/-! The evaluator as a program over a store. -/

/-- A store or a notifier rejects. -/
inductive Failure where
  | rejected

inductive EventKind where
  | OPENED | RESOLVED

inductive Cmd where
  | observe (input : Observation)
  | resolve (key : String) (resolvedAt : Date) (expectedOccurrenceCount : Nat)
  | listOpen
  | notify (kind : EventKind) (incident : ApiWatchIncident)

@[reducible] def Cmd.Answer : Cmd → Type
  | .observe _ => Except Failure (ApiWatchIncident × Bool)
  | .resolve _ _ _ => Except Failure (Option ApiWatchIncident)
  | .listOpen => Except Failure (List ApiWatchIncident)
  | .notify _ _ => Except Failure Unit

abbrev Program (α : Type) : Type := Prog Cmd Cmd.Answer Failure α

namespace Evaluation

variable (sha256 : String → String) (e : Evaluation)

def notify (kind : EventKind) (incident : ApiWatchIncident) : Program Unit :=
  if e.notifies then .act (.notify kind incident) Prog.ofExcept else return ()

def observeAndNotify (input : Observation) : Program ApiWatchIncident := do
  let result ← .act (.observe input) Prog.ofExcept
  if result.2 then e.notify .OPENED result.1
  return result.1

/-- Observes in order and collects the active keys. -/
def observeAll : List Observation → List String → Program (List String)
  | [], activeKeys => return activeKeys
  | input :: rest, activeKeys => do
    let value ← e.observeAndNotify input
    observeAll rest (value.incidentKey :: activeKeys)

/-- The recovery proof was built from this particular open version. -/
def close (incident : ApiWatchIncident) : Program Unit := do
  let resolved ← .act (.resolve incident.incidentKey e.now incident.occurrenceCount) Prog.ofExcept
  match resolved with
  | some resolved => e.notify .RESOLVED resolved
  | none => return ()

def closeAll (activeKeys : List String) : List ApiWatchIncident → Program Unit
  | [] => return ()
  | incident :: rest => do
    if e.closes sha256 activeKeys incident then e.close incident
    closeAll activeKeys rest

def listOpen : Program (List ApiWatchIncident) := .act .listOpen Prog.ofExcept

def evaluateApiWatchIncidents : Program (List ApiWatchIncident) := do
  let activeKeys ← e.observeAll (e.observations sha256) []
  if e.report.state = .COMPLETED then
    let incidents ← listOpen
    e.closeAll sha256 activeKeys incidents
  listOpen

end Evaluation

end SellerAgents.ApiWatch
