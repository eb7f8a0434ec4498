import SellerAgents.Execution.ResponseDisposition

open SellerAgents.Js

namespace SellerAgents.Execution

namespace ProviderOutcome

def readHttp : String → Option HttpClass
  | "success" => some .success
  | "error" => some .error
  | _ => none

def readParse : String → Option ParseOutcome
  | "text" => some .text
  | "json" => some .json
  | "empty" => some .empty
  | "invalid_json" => some .invalid_json
  | "binary" => some .binary
  | _ => none

def readSchema : String → Option SchemaOutcome
  | "not_configured" => some .not_configured
  | "pass" => some .pass
  | "failed" => some .failed
  | _ => none

def readSemantic : String → Option SemanticOutcome
  | "not_configured" => some .not_configured
  | "pass" => some .pass
  | "error" => some .error
  | _ => none

/-- A source revision: null, or a text of 1 to 240 units. -/
def readRevision : Data → Option (Option String)
  | .null => some none
  | .text value => if value ≠ "" && utf16Length value ≤ 240 then some (some value) else none
  | _ => none

/-- What `fully_verified` has to say. -/
def VerificationDetails.verified (details : VerificationDetails) : Bool :=
  details.http = .success && details.schema = .pass && details.semantic = .pass

/-- `safeVerificationDetails`; every refusal has one code. -/
def safeVerificationDetails (value : Data) : Option VerificationDetails := do
  guard (value.hasKeys ["transport", "http", "parse", "schema", "semantic", "source_revision",
    "fully_verified"])
  guard ((value.get "transport").isText "response_received")
  let http ← (value.get "http").asText.bind readHttp
  let parse ← (value.get "parse").asText.bind readParse
  let schema ← (value.get "schema").asText.bind readSchema
  let semantic ← (value.get "semantic").asText.bind readSemantic
  let fully_verified ← (value.get "fully_verified").asBool
  let source_revision ← readRevision (value.get "source_revision")
  let details : VerificationDetails := { http, parse, schema, semantic, source_revision, fully_verified }
  guard (fully_verified = VerificationDetails.verified details)
  return details

/-- `safeProcessingError`: the code of the error. -/
def safeProcessingError (value : Data) : Option String := do
  guard (value.hasKeys ["code", "stage", "automatic_retry"])
  let code ← (value.get "code").asText
  guard (isCode code && (value.get "stage").isText "response_processing" &&
    (value.get "automatic_retry").isBool false)
  return code

/-- An accepted disposition. That of a failure has the code of its error, an omitted body and a
blocked access to what was captured. -/
structure SafeDisposition where
  disposition : String
  verification_details : VerificationDetails
  error : Option String
  provider_http_ok : Bool
  provider_http_status : Number

def isFailureName (disposition : String) : Bool :=
  disposition = "MALFORMED_DECLARED_JSON" || disposition = "RESPONSE_PROCESSING_FAILED"

/-- The part of `safeDisposition` that both kinds share: the metadata and the details. -/
def safeDispositionCore (value : Data) : Option (Bool × Number × VerificationDetails) := do
  let ok ← (value.get "provider_http_ok").asBool
  let status ← (value.get "provider_http_status").asNumber
  guard (isHttpStatus status)
  let details ← safeVerificationDetails (value.get "verification_details")
  guard (details.http = if ok then .success else .error)
  return (ok, status, details)

def safeFailure (value : Data) (disposition : String) : Option SafeDisposition := do
  guard (value.hasKeys ["disposition", "verification_details", "error", "provider_http_ok",
    "provider_http_status", "body_omitted", "raw_capture_policy"])
  let (provider_http_ok, provider_http_status, verification_details) ← safeDispositionCore value
  let code ← safeProcessingError (value.get "error")
  let capture := value.get "raw_capture_policy"
  guard (capture.hasKeys ["chat_access_blocked"])
  guard (disposition = Disposition.failureName code && (value.get "body_omitted").isBool true &&
    (capture.get "chat_access_blocked").isBool true && !verification_details.fully_verified)
  return { disposition, verification_details, error := some code, provider_http_ok, provider_http_status }

def safeSuccess (value : Data) (disposition : String) : Option SafeDisposition := do
  guard (value.hasKeys ["disposition", "verification_details", "provider_http_ok",
    "provider_http_status"])
  let (provider_http_ok, provider_http_status, verification_details) ← safeDispositionCore value
  guard (!(verification_details.parse = .binary && !provider_http_ok))
  guard (disposition = Disposition.successName verification_details.fully_verified
    (verification_details.parse = .binary) verification_details.parse.name)
  return { disposition, verification_details, error := none, provider_http_ok, provider_http_status }

/-- `safeDisposition`; every refusal has one code. A disposition that is no text is refused as one
of no known name is. -/
def safeDisposition (value : Data) : Option SafeDisposition := do
  let disposition ← (value.get "disposition").asText
  if isFailureName disposition then safeFailure value disposition else safeSuccess value disposition

/-- An accepted retention. -/
inductive SafeRetention where
  | quarantineDefault
  | quarantineStored (descriptor : Descriptor)
  | binaryStored (artifact : Descriptor) (byte_length : Number)
  | binaryStorageFailed (byte_length provider_http_status : Number)
deriving DecidableEq

def safeDescriptor (value : Data) : Option Descriptor := do
  guard (value.hasKeys ["ref", "sha256", "byte_length"])
  readDescriptor value

def sameDescriptor (left right : Descriptor) : Bool :=
  left.ref = right.ref && left.sha256 = right.sha256 && left.byte_length.same right.byte_length

def safeQuarantineRetention (value : Data) : Option SafeRetention := do
  guard value.isPlain
  if (value.get "stored_locally").isBool false then
    guard (value.hasKeys ["stored_locally", "raw_retention_failed", "chat_access_blocked"])
    guard ((value.get "raw_retention_failed").isBool true &&
      (value.get "chat_access_blocked").isBool true)
    return .quarantineDefault
  else
    guard (value.hasKeys ["stored_locally", "ref", "sha256", "byte_length", "chat_access_blocked"])
    guard ((value.get "stored_locally").isBool true && (value.get "chat_access_blocked").isBool true)
    let descriptor ← readDescriptor value
    return .quarantineStored descriptor

/-- The status of a storage error of a response. -/
def safeStorageError (value : Data) (disposition : SafeDisposition) : Option Number := do
  guard (value.hasKeys ["code", "provider_http_status", "provider_ok", "automatic_retry"])
  let status ← (value.get "provider_http_status").asNumber
  guard ((value.get "code").isText "ARTIFACT_STORAGE_FAILED" &&
    status.same disposition.provider_http_status && (value.get "provider_ok").isBool true &&
    (value.get "automatic_retry").isBool false)
  return status

def safeByteLength (value : Data) : Option Number := value.asNumber.filter (·.isSafeNatural)

def safeStoredArtifact (artifacts : List Data) (policy : Data) : Option SafeRetention := do
  guard (artifacts.length = 1)
  let artifact ← safeDescriptor (artifacts.headD .undefined)
  guard (policy.hasKeys ["artifact", "byte_length", "delivery_status"])
  let policyArtifact ← safeDescriptor (policy.get "artifact")
  let length ← safeByteLength (policy.get "byte_length")
  guard (sameDescriptor artifact policyArtifact && artifact.byte_length.same length &&
    (policy.get "delivery_status").isText "PREPARED_NOT_ATTACHED")
  return .binaryStored artifact length

/-- The errors of a failed storage are printed alike when their statuses are, which are integers. -/
def safeStorageFailure (artifacts : List Data) (deliveryError policy : Data)
    (disposition : SafeDisposition) : Option SafeRetention := do
  guard artifacts.isEmpty
  let error ← safeStorageError deliveryError disposition
  guard (policy.hasKeys ["byte_length", "delivery_error", "bytes_preserved_in_result"])
  let policyError ← safeStorageError (policy.get "delivery_error") disposition
  let length ← safeByteLength (policy.get "byte_length")
  guard ((policy.get "bytes_preserved_in_result").isBool true && error.same policyError)
  return .binaryStorageFailed length error

def safeBinaryRetention (value : Data) (disposition : SafeDisposition) : Option SafeRetention := do
  guard (value.hasKeys ["artifact_refs", "delivery_error", "result_policy"])
  let artifacts ← (value.get "artifact_refs").asArray
  let policy := value.get "result_policy"
  guard policy.isPlain
  if (value.get "delivery_error").isNull then safeStoredArtifact artifacts policy
  else safeStorageFailure artifacts (value.get "delivery_error") policy disposition

/-- What is kept of the processing of a response. -/
structure ResponseProcessing where
  checked : SafeDisposition
  retention : Option SafeRetention

/-- An attempt record, with the processing of its response once it is bound. -/
structure BoundAttempt where
  record : ProviderAttempt
  response_processing : Option ResponseProcessing

/-- The retention that goes with a disposition. -/
def safeRetention (checked : SafeDisposition) (retention : Data) : Option SafeRetention :=
  if isFailureName checked.disposition then safeQuarantineRetention retention
  else if checked.verification_details.parse = .binary then safeBinaryRetention retention checked
  else none

/-- `attachResponseProcessing`; a retention that is not given is none. -/
def attachResponseProcessing (attempt : BoundAttempt) (disposition : Data) (retention : Option Data) :
    Except ProcessingError BoundAttempt :=
  match attempt.record.state, attempt.record.response, attempt.response_processing with
  | .RESPONSE_RECEIVED, some response, none =>
    match safeDisposition disposition with
    | none => .error .PROVIDER_RESPONSE_OUTCOME_DISPOSITION_INVALID
    | some checked =>
      if !checked.provider_http_status.same response.http_status ||
          checked.provider_http_ok ≠ response.ok then
        .error .PROVIDER_RESPONSE_OUTCOME_METADATA_MISMATCH
      else
        match retention with
        | none => .ok { attempt with response_processing := some ⟨checked, none⟩ }
        | some retention =>
          match safeRetention checked retention with
          | none => .error .PROVIDER_RESPONSE_OUTCOME_RETENTION_INVALID
          | some kept => .ok { attempt with response_processing := some ⟨checked, some kept⟩ }
  | _, _, _ => .error .PROVIDER_RESPONSE_OUTCOME_STATE_INVALID

end ProviderOutcome

end SellerAgents.Execution
