import SellerAgents.Execution.ResponseVerifier

open SellerAgents.Js

namespace SellerAgents.Execution

/-- The codes of the modules that process a response. -/
inductive ProcessingError where
  | PROVIDER_RESPONSE_VERIFICATION_REQUIRED
  | PROVIDER_RESPONSE_METADATA_INVALID
  | PROVIDER_RESPONSE_ARTIFACT_DESCRIPTOR_INVALID
  | PROVIDER_RESPONSE_BYTE_LENGTH_INVALID
  | PROVIDER_RESPONSE_FAILURE_DISPOSITION_REQUIRED
  | PROVIDER_RESPONSE_BINARY_DISPOSITION_REQUIRED
  | PROVIDER_RESPONSE_OUTCOME_STATE_INVALID
  | PROVIDER_RESPONSE_OUTCOME_DISPOSITION_INVALID
  | PROVIDER_RESPONSE_OUTCOME_METADATA_MISMATCH
  | PROVIDER_RESPONSE_OUTCOME_RETENTION_INVALID
deriving DecidableEq

def HttpClass.text : HttpClass → String
  | .success => "success"
  | .error => "error"

def ParseOutcome.name : ParseOutcome → String
  | .text => "text"
  | .json => "json"
  | .empty => "empty"
  | .invalid_json => "invalid_json"
  | .binary => "binary"

def SchemaOutcome.text : SchemaOutcome → String
  | .not_configured => "not_configured"
  | .pass => "pass"
  | .failed => "failed"

def SemanticOutcome.text : SemanticOutcome → String
  | .not_configured => "not_configured"
  | .pass => "pass"
  | .error => "error"

/-- The details as an object. -/
def VerificationDetails.data (details : VerificationDetails) : Data :=
  .object
    [("transport", .text "response_received"),
     ("http", .text details.http.text),
     ("parse", .text details.parse.name),
     ("schema", .text details.schema.text),
     ("semantic", .text details.semantic.text),
     ("source_revision", details.source_revision.elim .null .text),
     ("fully_verified", .bool details.fully_verified)]

/-- The metadata of a response that a disposition is given. -/
def TransportResponse.metadata {Value : Type} (response : TransportResponse Value) : Data :=
  .object [("provider_http_ok", .bool response.ok),
    ("provider_http_status", .number response.httpStatus)]

/-- An integer from 0 to 999. -/
def isHttpStatus (value : Number) : Bool :=
  value.isInteger && !value.isNegative && !value.exceeds 999

namespace Disposition

/-- `verificationDetails`: the verdict and the parse outcome. -/
def verificationDetails (value : Data) : Except ProcessingError (Bool × String) :=
  match (value.get "fully_verified").asBool, (value.get "parse").asText with
  | some fullyVerified, some parse => .ok (fullyVerified, parse)
  | _, _ => .error .PROVIDER_RESPONSE_VERIFICATION_REQUIRED

def responseMeta (value : Data) : Except ProcessingError (Bool × Number) :=
  match (value.get "provider_http_ok").asBool, (value.get "provider_http_status").asNumber with
  | some ok, some status =>
    if isHttpStatus status then .ok (ok, status) else .error .PROVIDER_RESPONSE_METADATA_INVALID
  | _, _ => .error .PROVIDER_RESPONSE_METADATA_INVALID

def safeErrorCode (error : Thrown) : String := error.codeOr "RESPONSE_PROCESSING_FAILED"

/-- The disposition of a body that was not refused. -/
def successName (fullyVerified binary : Bool) (parse : String) : String :=
  if fullyVerified then "VERIFIED_PROVIDER_SCHEMA_AND_SEMANTICS"
  else if binary then "BINARY_BYTES_CAPTURED"
  else if parse ≠ "json" then "NON_JSON_BODY"
  else "STRUCTURAL_ONLY_PROVIDER_SCHEMA_PENDING"

def success (details metadata : Data) (binary : Bool) : Except ProcessingError Data := do
  let (fullyVerified, parse) ← verificationDetails details
  let (ok, status) ← responseMeta metadata
  return .object
    [("disposition", .text (successName fullyVerified binary parse)),
     ("verification_details", details),
     ("provider_http_ok", .bool ok),
     ("provider_http_status", .number status)]

/-- The disposition of a failure with a code. -/
def failureName (code : String) : String :=
  if code = "PROVIDER_JSON_INVALID" then "MALFORMED_DECLARED_JSON" else "RESPONSE_PROCESSING_FAILED"

def processingFailure (error : Thrown) (details metadata : Data) : Except ProcessingError Data := do
  let _ ← verificationDetails details
  let (ok, status) ← responseMeta metadata
  let code := safeErrorCode error
  return .object
    [("disposition", .text (failureName code)),
     ("verification_details", details),
     ("error", .object
       [("code", .text code),
        ("stage", .text "response_processing"),
        ("automatic_retry", .bool false)]),
     ("provider_http_ok", .bool ok),
     ("provider_http_status", .number status),
     ("body_omitted", .bool true),
     ("raw_capture_policy", .object [("chat_access_blocked", .bool true)])]

end Disposition

structure Descriptor where
  ref : String
  sha256 : String
  byte_length : Number
deriving DecidableEq

/-- The checks that a descriptor's fields pass. -/
def Descriptor.isValid (value : Descriptor) : Bool :=
  value.ref ≠ "" && isTrimmed value.ref && utf16Length value.ref ≤ 512 && isSha256 value.sha256 &&
    value.byte_length.isSafeNatural

def Descriptor.data (value : Descriptor) : Data :=
  .object
    [("ref", .text value.ref), ("sha256", .text value.sha256),
     ("byte_length", .number value.byte_length)]

/-- The three fields of a descriptor, where they are valid. -/
def readDescriptor (value : Data) : Option Descriptor := do
  let ref ← (value.get "ref").asText
  let sha256 ← (value.get "sha256").asText
  let byte_length ← (value.get "byte_length").asNumber
  let read : Descriptor := { ref, sha256, byte_length }
  if read.isValid then return read else none

namespace Retention

/-- `verificationDetails` and `responseMetadata`: the verdict, and the outcomes of the parse, the
schema and the semantics, and the status of the response. -/
def checked (value : Data) : Option ((Bool × String × String × String) × Bool × Number) := do
  let details := value.get "verification_details"
  let fullyVerified ← (details.get "fully_verified").asBool
  let parse ← (details.get "parse").asText
  let schema ← (details.get "schema").asText
  let semantic ← (details.get "semantic").asText
  let ok ← (value.get "provider_http_ok").asBool
  let status ← (value.get "provider_http_status").asNumber
  if isHttpStatus status then return ((fullyVerified, parse, schema, semantic), ok, status) else none

def descriptor (value : Data) : Except ProcessingError Descriptor :=
  (readDescriptor value).elim (.error .PROVIDER_RESPONSE_ARTIFACT_DESCRIPTOR_INVALID) .ok

def byteLength (value : Number) : Except ProcessingError Number :=
  if value.isSafeNatural then .ok value else .error .PROVIDER_RESPONSE_BYTE_LENGTH_INVALID

/-- Whether a value is a disposition of a failure. -/
def isFailure (value : Data) : Bool :=
  let error := value.get "error"
  (checked value).isSome && error.isPlain && (error.get "code").asText.any isCode &&
  (error.get "stage").isText "response_processing" && (error.get "automatic_retry").isBool false &&
  (value.get "disposition").isText (Disposition.failureName ((error.get "code").asText.getD "")) &&
  (value.get "body_omitted").isBool true &&
  ((value.get "raw_capture_policy").get "chat_access_blocked").isBool true

def failureDisposition (value : Data) : Except ProcessingError Unit :=
  if isFailure value then .ok () else .error .PROVIDER_RESPONSE_FAILURE_DISPOSITION_REQUIRED

/-- The status of a disposition of captured bytes. -/
def binaryDisposition (value : Data) : Except ProcessingError Number :=
  match checked value with
  | none => .error .PROVIDER_RESPONSE_BINARY_DISPOSITION_REQUIRED
  | some ((fullyVerified, parse, schema, semantic), ok, status) =>
    let verificationPass : Bool := schema = "pass" && semantic = "pass"
    let expected :=
      if verificationPass then "VERIFIED_PROVIDER_SCHEMA_AND_SEMANTICS" else "BINARY_BYTES_CAPTURED"
    if fullyVerified = verificationPass && (value.get "disposition").isText expected &&
        parse = "binary" && ok then .ok status
    else .error .PROVIDER_RESPONSE_BINARY_DISPOSITION_REQUIRED

def quarantineDefault (disposition : Data) : Except ProcessingError Data := do
  failureDisposition disposition
  return .object
    [("stored_locally", .bool false), ("raw_retention_failed", .bool true),
     ("chat_access_blocked", .bool true)]

def quarantineStored (disposition storedDescriptor : Data) : Except ProcessingError Data := do
  failureDisposition disposition
  let stored ← descriptor storedDescriptor
  return .object
    [("stored_locally", .bool true), ("ref", .text stored.ref), ("sha256", .text stored.sha256),
     ("byte_length", .number stored.byte_length), ("chat_access_blocked", .bool true)]

def binaryStored (disposition storedDescriptor : Data) (payloadByteLength : Number) :
    Except ProcessingError Data := do
  let _ ← binaryDisposition disposition
  let stored ← descriptor storedDescriptor
  let length ← byteLength payloadByteLength
  if stored.byte_length.same length then
    return .object
      [("artifact_refs", .array [stored.data]), ("delivery_error", .null),
       ("result_policy", .object
         [("artifact", stored.data), ("byte_length", .number length),
          ("delivery_status", .text "PREPARED_NOT_ATTACHED")])]
  else .error .PROVIDER_RESPONSE_BYTE_LENGTH_INVALID

/-- The error of a storage that failed. -/
def deliveryError (status : Number) : Data :=
  .object
    [("code", .text "ARTIFACT_STORAGE_FAILED"), ("provider_http_status", .number status),
     ("provider_ok", .bool true), ("automatic_retry", .bool false)]

def binaryStorageFailed (disposition : Data) (payloadByteLength : Number) :
    Except ProcessingError Data := do
  let status ← binaryDisposition disposition
  let length ← byteLength payloadByteLength
  return .object
    [("artifact_refs", .array []), ("delivery_error", deliveryError status),
     ("result_policy", .object
       [("byte_length", .number length), ("delivery_error", deliveryError status),
        ("bytes_preserved_in_result", .bool true)])]

end Retention

end SellerAgents.Execution
