import SellerAgents.Execution.ProviderOutcome
import SellerAgents.Js.Data

open SellerAgents.Js

namespace SellerAgents.Execution

/-- An error that is thrown or returned, with its `code` where it has one. -/
structure Thrown where
  code : Option String

inductive HttpClass where
  | success | error
deriving DecidableEq

inductive ParseOutcome where
  | text | json | empty | invalid_json | binary
deriving DecidableEq

inductive SchemaOutcome where
  | not_configured | pass | failed
deriving DecidableEq

inductive SemanticOutcome where
  | not_configured | pass | error
deriving DecidableEq

/-- The `details` of a verification, whose `transport` is `response_received`. -/
structure VerificationDetails where
  http : HttpClass
  parse : ParseOutcome
  schema : SchemaOutcome := .not_configured
  semantic : SemanticOutcome := .not_configured
  source_revision : Option String
  fully_verified : Bool := false

/-- What a transport hands over of a response; `parsed` is none for null. -/
structure TransportResponse (Value : Type) where
  ok : Bool
  httpStatus : Number
  rawText : String
  parsed : Option Value
  content_type : Option String
  retry_after : Option Field
  request_id : Option JsString

/-- The functions of the response policy module that a verification calls. -/
structure ResponsePolicy (Value Schema : Type) where
  safeResponseTree : Option Value → Except Thrown Unit
  validateSchema : Option Value → Schema → Except Thrown Unit

/-- A reviewed policy; `semanticError` may throw, and returns an error or nothing. -/
structure VerificationPolicy (Value Schema : Type) where
  schema : Option Schema
  semanticError : Option (Option Value → Except Thrown (Option Thrown))
  source_revision : Option String

/-- What the verifier found in a response. -/
structure Verification (Value : Type) where
  ok : Bool
  value : Option Value
  details : VerificationDetails
  /-- The code of the error of the stage `response_verification`. -/
  error : Option String

/-- `json(;|$)`, in any case, at the start of a text. -/
def jsonHere : List Char → Bool
  | j :: s :: o :: n :: rest =>
    j.toLower = 'j' && s.toLower = 's' && o.toLower = 'o' && n.toLower = 'n' &&
    (rest.isEmpty || rest.head? = some ';')
  | _ => false

/-- `(?:^|[+/])json(?:;|$)`, where `boundary` says that the text starts or follows a sign. -/
def declaresJsonAt (boundary : Bool) : List Char → Bool
  | [] => false
  | c :: rest => (boundary && jsonHere (c :: rest)) || declaresJsonAt (c = '+' || c = '/') rest

def declaresJson (contentType : Option String) : Bool :=
  declaresJsonAt true (contentType.getD "").toList

/-- `!value.trim()`. -/
def isBlank (value : String) : Bool :=
  value.toList.all fun c => c.toNat < 0x10000 && isWhite (UInt16.ofNat c.toNat)

/-- A code where an error has a proper one. -/
def Thrown.codeOr (error : Thrown) (fallback : String) : String :=
  match error.code with
  | some code => if isCode code then code else fallback
  | none => fallback

section Verify

variable {Value Schema : Type} (parseJson : String → Option (Option Value))
  (dependency : ResponsePolicy Value Schema)

/-- The parse of a response: its outcome, and the value or what is thrown. -/
def parseResponse (response : TransportResponse Value) (binary : Bool) :
    ParseOutcome × Except Thrown (Option Value) :=
  if binary then (.binary, .ok response.parsed)
  else if declaresJson response.content_type then
    if isBlank response.rawText &&
        (ProviderOutcome.isNat 204 response.httpStatus ||
          ProviderOutcome.isNat 205 response.httpStatus) then
      (.empty, .ok none)
    else
      match parseJson response.rawText with
      | some value => (.json, .ok value)
      | none => (.invalid_json, .error ⟨some "PROVIDER_JSON_INVALID"⟩)
  else if response.parsed.isSome then (.json, .ok response.parsed)
  else (.text, .ok response.parsed)

/-- The check of the tree of a JSON value. -/
def checkTree (parse : ParseOutcome) (value : Option Value) : Except Thrown Unit :=
  if parse = .json then dependency.safeResponseTree value else .ok ()

def checkSchema (response : TransportResponse Value)
    (policy : Option (VerificationPolicy Value Schema)) (value : Option Value) :
    SchemaOutcome × Except Thrown Unit :=
  match policy.bind (·.schema) with
  | none => (.not_configured, .ok ())
  | some schema =>
    if response.ok then
      match dependency.validateSchema value schema with
      | .ok _ => (.pass, .ok ())
      | .error error => (.failed, .error error)
    else (.not_configured, .ok ())

def checkSemantic (response : TransportResponse Value)
    (policy : Option (VerificationPolicy Value Schema)) (value : Option Value) :
    SemanticOutcome × Except Thrown Unit :=
  match policy.bind (·.semanticError) with
  | none => (.not_configured, .ok ())
  | some semanticError =>
    if response.ok then
      match semanticError value with
      | .error error => (.not_configured, .error error)
      | .ok (some error) => (.error, .error ⟨some (error.codeOr "PROVIDER_SEMANTIC_ERROR")⟩)
      | .ok none => (.pass, .ok ())
    else (.not_configured, .ok ())

/-- The `catch` of a verification. -/
def verificationFailure (details : VerificationDetails) (error : Thrown) : Verification Value where
  ok := false
  value := none
  details := details
  error := some (error.codeOr "RESPONSE_VERIFICATION_FAILED")

def verify (response : TransportResponse Value) (binary : Bool)
    (policy : Option (VerificationPolicy Value Schema)) : Verification Value :=
  let (parse, parsed) := parseResponse parseJson response binary
  let details : VerificationDetails :=
    { http := if response.ok then .success else .error
      parse
      source_revision := (policy.bind (·.source_revision)).filter (· ≠ "") }
  match parsed with
  | .error error => verificationFailure details error
  | .ok value =>
    match checkTree dependency parse value with
    | .error error => verificationFailure details error
    | .ok _ =>
      let (schema, checked) := checkSchema dependency response policy value
      let details := { details with schema }
      match checked with
      | .error error => verificationFailure details error
      | .ok _ =>
        let (semantic, checked) := checkSemantic response policy value
        let details := { details with semantic }
        match checked with
        | .error error => verificationFailure details error
        | .ok _ =>
          { ok := response.ok
            value
            details :=
              { details with
                fully_verified := response.ok && schema = .pass && semantic = .pass }
            error := none }

end Verify

end SellerAgents.Execution
