import SellerAgents.Execution.ResponseProcessing
import SellerAgents.Js.Fallible

open SellerAgents.Js

namespace SellerAgents.Execution

open Disposition (failureName successName verificationDetails success processingFailure
  safeErrorCode)
open Retention (isFailure failureDisposition byteLength deliveryError binaryDisposition)

theorem isCode_codeOr (error : Thrown) {fallback : String} (h : isCode fallback = true) :
    isCode (error.codeOr fallback) = true := by
  unfold Thrown.codeOr
  cases error.code with
  | none => exact h
  | some code =>
    by_cases hcode : isCode code = true
    · simp [hcode]
    · simp [hcode, h]

section Verify

variable {Value Schema : Type} {parseJson : String → Option (Option Value)}
  {dependency : ResponsePolicy Value Schema} {response : TransportResponse Value} {binary : Bool}
  {policy : Option (VerificationPolicy Value Schema)}

/-- What the details of a verification always have. -/
structure Consistent (response : TransportResponse Value) (binary : Bool)
    (policy : Option (VerificationPolicy Value Schema)) (details : VerificationDetails) : Prop where
  http : details.http = if response.ok then .success else .error
  parse : details.parse = .binary ↔ binary = true
  revision : details.source_revision = (policy.bind (·.source_revision)).filter (· ≠ "")
  verified : details.fully_verified = ProviderOutcome.VerificationDetails.verified details

theorem parseResponse_binary :
    (parseResponse parseJson response binary).1 = .binary ↔ binary = true := by
  unfold parseResponse
  cases binary with
  | true => simp
  | false =>
    simp only [Bool.false_eq_true, if_false, iff_false]
    split
    · split
      · simp
      · split <;> simp
    · split <;> simp

theorem checkSemantic_error {value : Option Value} {outcome : SemanticOutcome} {error : Thrown}
    (h : checkSemantic response policy value = (outcome, .error error)) : outcome ≠ .pass := by
  unfold checkSemantic at h
  split at h
  · cases h
  · split at h
    · split at h
      · cases h
        decide
      · cases h
        decide
      · cases h
    · cases h

/-- The outcomes of a verification are consistent, and an error leaves it unverified. -/
theorem verify_consistent (parseJson : String → Option (Option Value))
    (dependency : ResponsePolicy Value Schema) (response : TransportResponse Value) (binary : Bool)
    (policy : Option (VerificationPolicy Value Schema)) :
    Consistent response binary policy (verify parseJson dependency response binary policy).details ∧
      ((verify parseJson dependency response binary policy).error.isSome = true →
        (verify parseJson dependency response binary policy).details.fully_verified = false) ∧
      ∀ code ∈ (verify parseJson dependency response binary policy).error, isCode code = true := by
  have hparse : (parseResponse parseJson response binary).1 = .binary ↔ binary = true :=
    parseResponse_binary
  have hcode : ∀ error : Thrown, isCode (error.codeOr "RESPONSE_VERIFICATION_FAILED") = true :=
    fun error => isCode_codeOr error (by decide)
  unfold verify
  generalize parseResponse parseJson response binary = parsed at hparse ⊢
  obtain ⟨parse, value⟩ := parsed
  dsimp only at hparse ⊢
  cases value with
  | error error =>
    exact ⟨⟨rfl, hparse, rfl, by simp [verificationFailure, ProviderOutcome.VerificationDetails.verified]⟩,
      fun _ => rfl, fun code hmem => by cases hmem; exact hcode error⟩
  | ok value =>
    dsimp only
    cases htree : checkTree dependency parse value with
    | error error =>
      exact ⟨⟨rfl, hparse, rfl, by simp [verificationFailure, ProviderOutcome.VerificationDetails.verified]⟩,
        fun _ => rfl, fun code hmem => by cases hmem; exact hcode error⟩
    | ok _ =>
      dsimp only
      cases hschema : checkSchema dependency response policy value with
      | mk schema checked =>
        dsimp only
        cases checked with
        | error error =>
          refine ⟨⟨rfl, hparse, rfl, ?_⟩, fun _ => rfl, fun code hmem => by cases hmem; exact hcode error⟩
          simp [verificationFailure, ProviderOutcome.VerificationDetails.verified]
        | ok _ =>
          dsimp only
          cases hsemantic : checkSemantic response policy value with
          | mk semantic checked =>
            cases checked with
            | error error =>
              have hpass := checkSemantic_error hsemantic
              refine ⟨⟨rfl, hparse, rfl, ?_⟩, fun _ => rfl,
                fun code hmem => by cases hmem; exact hcode error⟩
              simp [verificationFailure, ProviderOutcome.VerificationDetails.verified, hpass]
            | ok _ =>
              dsimp only
              refine ⟨⟨rfl, hparse, rfl, ?_⟩, by simp, by simp⟩
              simp [ProviderOutcome.VerificationDetails.verified]

end Verify

namespace ProviderOutcome

theorem readHttp_text (outcome : HttpClass) : readHttp outcome.text = some outcome := by
  cases outcome <;> rfl

theorem readParse_name (outcome : ParseOutcome) : readParse outcome.name = some outcome := by
  cases outcome <;> rfl

theorem readSchema_text (outcome : SchemaOutcome) : readSchema outcome.text = some outcome := by
  cases outcome <;> rfl

theorem readSemantic_text (outcome : SemanticOutcome) : readSemantic outcome.text = some outcome := by
  cases outcome <;> rfl

/-- The revisions that a snapshot keeps. -/
def RevisionFits (revision : Option String) : Prop :=
  ∀ text ∈ revision, text ≠ "" ∧ utf16Length text ≤ 240

instance (revision : Option String) : Decidable (RevisionFits revision) :=
  inferInstanceAs (Decidable (∀ text ∈ revision, text ≠ "" ∧ utf16Length text ≤ 240))

theorem readRevision_elim (revision : Option String) :
    readRevision (revision.elim .null .text) =
      if RevisionFits revision then some revision else none := by
  cases revision with
  | none => simp [readRevision, RevisionFits]
  | some text => simp [readRevision, RevisionFits]

theorem revisionFits_filter (revision : Option String) :
    RevisionFits (revision.filter (· ≠ "")) ↔ ∀ text ∈ revision, utf16Length text ≤ 240 := by
  cases revision with
  | none => simp [RevisionFits]
  | some text =>
    by_cases hempty : text = ""
    · subst hempty
      simp [RevisionFits, utf16Length]
    · simp [RevisionFits, hempty]

theorem hasKeys_details (details : VerificationDetails) :
    details.data.hasKeys ["transport", "http", "parse", "schema", "semantic", "source_revision",
      "fully_verified"] = true := by
  show List.isPerm ["transport", "http", "parse", "schema", "semantic", "source_revision",
      "fully_verified"] _ = true
  decide

/-- Consistent details are accepted when their revision fits. -/
theorem safeVerificationDetails_data {details : VerificationDetails}
    (h : details.fully_verified = VerificationDetails.verified details) :
    safeVerificationDetails details.data =
      if RevisionFits details.source_revision then some details else none := by
  unfold safeVerificationDetails
  rw [hasKeys_details]
  obtain ⟨http, parse, schema, semantic, revision, verified⟩ := details
  by_cases hfits : RevisionFits revision
  · simp [VerificationDetails.data, Properties.get, readHttp_text, readParse_name, readSchema_text,
      readSemantic_text, readRevision_elim, hfits, ← h]
  · simp [VerificationDetails.data, Properties.get, readHttp_text, readParse_name, readSchema_text,
      readSemantic_text, readRevision_elim, hfits]

/-- The disposition of a failed processing. -/
def failureData (details : VerificationDetails) (code : String) (ok : Bool) (status : Number) : Data :=
  .object
    [("disposition", .text (failureName code)),
     ("verification_details", details.data),
     ("error", .object
       [("code", .text code),
        ("stage", .text "response_processing"),
        ("automatic_retry", .bool false)]),
     ("provider_http_ok", .bool ok),
     ("provider_http_status", .number status),
     ("body_omitted", .bool true),
     ("raw_capture_policy", .object [("chat_access_blocked", .bool true)])]

/-- The disposition of a body that was not refused. -/
def successData (details : VerificationDetails) (binary ok : Bool) (status : Number) : Data :=
  .object
    [("disposition", .text
       (successName details.fully_verified binary details.parse.name)),
     ("verification_details", details.data),
     ("provider_http_ok", .bool ok),
     ("provider_http_status", .number status)]

section Dispositions

variable {details : VerificationDetails} {code : String} {ok binary : Bool} {status : Number}

theorem verificationDetails_data :
    verificationDetails details.data = .ok (details.fully_verified, details.parse.name) := by
  simp [verificationDetails, VerificationDetails.data, Properties.get]

theorem responseMeta_metadata {Value : Type} {response : TransportResponse Value} :
    Disposition.responseMeta response.metadata =
      if isHttpStatus response.httpStatus then .ok (response.ok, response.httpStatus)
      else .error .PROVIDER_RESPONSE_METADATA_INVALID := by
  simp [Disposition.responseMeta, TransportResponse.metadata, Properties.get]

theorem success_data {Value : Type} {response : TransportResponse Value} {disposition : Data}
    (h : success details.data response.metadata binary = .ok disposition) :
    isHttpStatus response.httpStatus = true ∧
      disposition = successData details binary response.ok response.httpStatus := by
  unfold success at h
  rw [verificationDetails_data, responseMeta_metadata] at h
  by_cases hstatus : isHttpStatus response.httpStatus = true
  · rw [if_pos hstatus] at h
    cases h
    exact ⟨hstatus, rfl⟩
  · rw [if_neg hstatus] at h
    cases h

theorem processingFailure_data {Value : Type} {response : TransportResponse Value} {error : Thrown}
    {disposition : Data}
    (h : processingFailure error details.data response.metadata = .ok disposition) :
    isHttpStatus response.httpStatus = true ∧ disposition =
      failureData details (safeErrorCode error) response.ok response.httpStatus := by
  unfold processingFailure at h
  rw [verificationDetails_data, responseMeta_metadata] at h
  by_cases hstatus : isHttpStatus response.httpStatus = true
  · rw [if_pos hstatus] at h
    cases h
    exact ⟨hstatus, rfl⟩
  · rw [if_neg hstatus] at h
    cases h

theorem isFailureName_failureName : isFailureName (failureName code) = true := by
  unfold failureName
  split <;> decide

theorem isFailureName_successName {fullyVerified binary : Bool} {parse : String} :
    isFailureName (successName fullyVerified binary parse) = false := by
  unfold successName
  split
  · decide
  · split
    · decide
    · split <;> decide

/-- The snapshot of a failed processing. -/
def failureSnapshot (details : VerificationDetails) (code : String) (ok : Bool) (status : Number) :
    SafeDisposition where
  disposition := failureName code
  verification_details := details
  error := some code
  provider_http_ok := ok
  provider_http_status := status

def successSnapshot (details : VerificationDetails) (binary ok : Bool) (status : Number) :
    SafeDisposition where
  disposition := successName details.fully_verified binary details.parse.name
  verification_details := details
  error := none
  provider_http_ok := ok
  provider_http_status := status

/-- The metadata of a disposition whose details are consistent with it. -/
theorem safeDispositionCore_eq {value : Data} (hok : value.get "provider_http_ok" = .bool ok)
    (hnumber : value.get "provider_http_status" = .number status)
    (hdetails : value.get "verification_details" = details.data)
    (hstatus : isHttpStatus status = true) (hhttp : details.http = if ok then .success else .error)
    (hverified : details.fully_verified = VerificationDetails.verified details) :
    safeDispositionCore value =
      if RevisionFits details.source_revision then some (ok, status, details) else none := by
  unfold safeDispositionCore
  rw [hok, hnumber, hdetails, safeVerificationDetails_data hverified]
  by_cases hfits : RevisionFits details.source_revision
  · simp [hstatus, hfits, hhttp]
  · simp [hfits]

theorem hasKeys_failure : (failureData details code ok status).hasKeys ["disposition",
    "verification_details", "error", "provider_http_ok", "provider_http_status", "body_omitted",
    "raw_capture_policy"] = true := by
  show List.isPerm ["disposition", "verification_details", "error", "provider_http_ok",
    "provider_http_status", "body_omitted", "raw_capture_policy"] _ = true
  decide

theorem hasKeys_success : (successData details binary ok status).hasKeys ["disposition",
    "verification_details", "provider_http_ok", "provider_http_status"] = true := by
  show List.isPerm ["disposition", "verification_details", "provider_http_ok",
    "provider_http_status"] _ = true
  decide

theorem safeProcessingError_eq (hcode : isCode code = true) :
    safeProcessingError ((failureData details code ok status).get "error") = some code := by
  have hkeys : ((failureData details code ok status).get "error").hasKeys
      ["code", "stage", "automatic_retry"] = true := by
    show List.isPerm ["code", "stage", "automatic_retry"] _ = true
    decide
  unfold safeProcessingError
  rw [hkeys]
  simp [failureData, Properties.get, hcode]

/-- A failed processing is accepted when its revision fits and it is not fully verified. -/
theorem safeDisposition_failure (hcode : isCode code = true) (hstatus : isHttpStatus status = true)
    (hhttp : details.http = if ok then .success else .error)
    (hverified : details.fully_verified = VerificationDetails.verified details) :
    safeDisposition (failureData details code ok status) =
      if RevisionFits details.source_revision ∧ details.fully_verified = false then
        some (failureSnapshot details code ok status) else none := by
  have hcore : safeDispositionCore (failureData details code ok status) =
      if RevisionFits details.source_revision then some (ok, status, details) else none :=
    safeDispositionCore_eq rfl rfl rfl hstatus hhttp hverified
  have hcapture : ((failureData details code ok status).get "raw_capture_policy").hasKeys
      ["chat_access_blocked"] = true := by
    show List.isPerm ["chat_access_blocked"] _ = true
    decide
  have hname : (failureData details code ok status).get "disposition" =
      .text (failureName code) := rfl
  unfold safeDisposition
  rw [hname, Data.asText_text, Option.bind_eq_bind, Option.bind_some,
    if_pos isFailureName_failureName]
  unfold safeFailure
  dsimp only
  rw [hasKeys_failure, hcore, safeProcessingError_eq hcode, hcapture]
  have hblocked : ((failureData details code ok status).get "raw_capture_policy").get
      "chat_access_blocked" = .bool true := rfl
  have homitted : (failureData details code ok status).get "body_omitted" = .bool true := rfl
  rw [hblocked, homitted]
  by_cases hfits : RevisionFits details.source_revision
  · cases hfull : details.fully_verified with
    | true => simp [hfits, hfull]
    | false => simp [hfits, hfull, failureSnapshot]
  · simp [hfits]

/-- A body that was not refused is accepted when its revision fits and it is no binary of a response
that is not successful. -/
theorem safeDisposition_success (hstatus : isHttpStatus status = true)
    (hhttp : details.http = if ok then .success else .error)
    (hverified : details.fully_verified = VerificationDetails.verified details)
    (hparse : details.parse = .binary ↔ binary = true) :
    safeDisposition (successData details binary ok status) =
      if RevisionFits details.source_revision ∧ (binary = true → ok = true) then
        some (successSnapshot details binary ok status) else none := by
  have hcore : safeDispositionCore (successData details binary ok status) =
      if RevisionFits details.source_revision then some (ok, status, details) else none :=
    safeDispositionCore_eq rfl rfl rfl hstatus hhttp hverified
  have hname : (successData details binary ok status).get "disposition" =
      .text (successName details.fully_verified binary details.parse.name) := rfl
  unfold safeDisposition
  rw [hname, Data.asText_text, Option.bind_eq_bind, Option.bind_some,
    if_neg (Bool.eq_false_iff.mp isFailureName_successName)]
  unfold safeSuccess
  rw [hasKeys_success, hcore]
  by_cases hfits : RevisionFits details.source_revision
  · cases binary with
    | true =>
      have hbinary : details.parse = .binary := hparse.mpr rfl
      cases ok with
      | true => simp [hfits, hbinary, successSnapshot]
      | false => simp [hfits, hbinary]
    | false =>
      have hbinary : ¬ details.parse = .binary := fun h => by cases hparse.mp h
      simp [hfits, hbinary, successSnapshot]
  · simp [hfits]

end Dispositions

section Retentions

variable {value : Data} {stored : Descriptor}

theorem readDescriptor_valid (h : readDescriptor value = some stored) : stored.isValid = true := by
  unfold readDescriptor at h
  simp only [Option.bind_eq_bind, Option.bind_eq_some_iff] at h
  obtain ⟨ref, -, sha256, -, byte_length, -, h⟩ := h
  split at h
  · cases h
    assumption
  · cases h

/-- A valid descriptor is read from any object that has its three fields. -/
theorem readDescriptor_eq (hvalid : stored.isValid = true) (href : value.get "ref" = .text stored.ref)
    (hsha : value.get "sha256" = .text stored.sha256)
    (hlength : value.get "byte_length" = .number stored.byte_length) :
    readDescriptor value = some stored := by
  unfold readDescriptor
  rw [href, hsha, hlength]
  simp [hvalid]

theorem safeDescriptor_data (hvalid : stored.isValid = true) :
    safeDescriptor stored.data = some stored := by
  have hkeys : stored.data.hasKeys ["ref", "sha256", "byte_length"] = true := by
    show List.isPerm ["ref", "sha256", "byte_length"] _ = true
    decide
  have hread : readDescriptor stored.data = some stored := readDescriptor_eq hvalid rfl rfl rfl
  unfold safeDescriptor
  rw [hkeys, hread]
  rfl

/-- What a quarantine gives for a failure is accepted for it. -/
theorem safeQuarantineRetention_default {disposition retention : Data}
    (h : Retention.quarantineDefault disposition = .ok retention) :
    isFailure disposition = true ∧
      safeQuarantineRetention retention = some .quarantineDefault := by
  unfold Retention.quarantineDefault failureDisposition at h
  by_cases hfailure : isFailure disposition = true
  · rw [if_pos hfailure] at h
    cases h
    exact ⟨hfailure, by decide⟩
  · rw [if_neg hfailure] at h
    cases h

/-- The retention of a stored quarantine. -/
def quarantineData (stored : Descriptor) : Data :=
  .object
    [("stored_locally", .bool true), ("ref", .text stored.ref), ("sha256", .text stored.sha256),
     ("byte_length", .number stored.byte_length), ("chat_access_blocked", .bool true)]

theorem safeQuarantineRetention_eq (hvalid : stored.isValid = true) :
    safeQuarantineRetention (quarantineData stored) = some (.quarantineStored stored) := by
  have hkeys : (quarantineData stored).hasKeys
      ["stored_locally", "ref", "sha256", "byte_length", "chat_access_blocked"] = true := by
    show List.isPerm ["stored_locally", "ref", "sha256", "byte_length", "chat_access_blocked"] _ = true
    decide
  have hstored : (quarantineData stored).get "stored_locally" = .bool true := rfl
  have hblocked : (quarantineData stored).get "chat_access_blocked" = .bool true := rfl
  have hplain : (quarantineData stored).isPlain = true := rfl
  have hread : readDescriptor (quarantineData stored) = some stored :=
    readDescriptor_eq hvalid rfl rfl rfl
  unfold safeQuarantineRetention
  rw [hstored, hblocked, hkeys, hplain, hread]
  simp

theorem safeQuarantineRetention_stored {disposition descriptor retention : Data}
    (h : Retention.quarantineStored disposition descriptor = .ok retention) :
    isFailure disposition = true ∧
      (safeQuarantineRetention retention).isSome = true := by
  unfold Retention.quarantineStored failureDisposition at h
  by_cases hfailure : isFailure disposition = true
  · rw [if_pos hfailure] at h
    refine ⟨hfailure, ?_⟩
    unfold Retention.descriptor at h
    cases hread : readDescriptor descriptor with
    | none =>
      rw [hread] at h
      cases h
    | some stored =>
      rw [hread] at h
      cases h
      show (safeQuarantineRetention (quarantineData stored)).isSome = true
      rw [safeQuarantineRetention_eq (readDescriptor_valid hread)]
      rfl
  · rw [if_neg hfailure] at h
    cases h

theorem descriptor_ok {descriptor : Data} (h : Retention.descriptor descriptor = .ok stored) :
    stored.isValid = true := by
  unfold Retention.descriptor at h
  cases hread : readDescriptor descriptor with
  | none =>
    rw [hread] at h
    cases h
  | some read =>
    rw [hread] at h
    cases h
    exact readDescriptor_valid hread

variable {length : Number} {checked : SafeDisposition}

theorem byteLength_ok {read : Number} (h : byteLength length = .ok read) :
    read = length ∧ length.isSafeNatural = true := by
  unfold byteLength at h
  split at h
  · cases h
    exact ⟨rfl, by assumption⟩
  · cases h

/-- The retention of stored bytes. -/
def storedData (stored : Descriptor) (length : Number) : Data :=
  .object
    [("artifact_refs", .array [stored.data]), ("delivery_error", .null),
     ("result_policy", .object
       [("artifact", stored.data), ("byte_length", .number length),
        ("delivery_status", .text "PREPARED_NOT_ATTACHED")])]

theorem sameDescriptor_self (hvalid : stored.isValid = true) : sameDescriptor stored stored = true := by
  simp only [Descriptor.isValid, Bool.and_eq_true] at hvalid
  simp [sameDescriptor, Number.same_self (Number.isInteger_of_safe hvalid.2)]

theorem safeBinaryRetention_stored (hvalid : stored.isValid = true)
    (hsafe : length.isSafeNatural = true) (hsame : stored.byte_length.same length = true) :
    safeBinaryRetention (storedData stored length) checked = some (.binaryStored stored length) := by
  have hkeys : (storedData stored length).hasKeys
      ["artifact_refs", "delivery_error", "result_policy"] = true := by
    show List.isPerm ["artifact_refs", "delivery_error", "result_policy"] _ = true
    decide
  have hpolicy : ((storedData stored length).get "result_policy").hasKeys
      ["artifact", "byte_length", "delivery_status"] = true := by
    show List.isPerm ["artifact", "byte_length", "delivery_status"] _ = true
    decide
  have hartifact : ((storedData stored length).get "result_policy").get "artifact" = stored.data := rfl
  have hlength : ((storedData stored length).get "result_policy").get "byte_length" =
      .number length := rfl
  have hstatus : ((storedData stored length).get "result_policy").get "delivery_status" =
      .text "PREPARED_NOT_ATTACHED" := rfl
  have hrefs : (storedData stored length).get "artifact_refs" = .array [stored.data] := rfl
  have hnull : (storedData stored length).get "delivery_error" = .null := rfl
  have hplain : ((storedData stored length).get "result_policy").isPlain = true := rfl
  have hlengthRead : safeByteLength (.number length) = some length := by
    simp [safeByteLength, hsafe]
  unfold safeBinaryRetention safeStoredArtifact
  dsimp only
  rw [hkeys, hrefs, hplain, hnull, hpolicy, hartifact, hlength, hstatus, hlengthRead]
  simp [safeDescriptor_data hvalid, sameDescriptor_self hvalid, hsame]

/-- The retention of bytes that were not stored. -/
def failedData (length status : Number) : Data :=
  .object
    [("artifact_refs", .array []), ("delivery_error", deliveryError status),
     ("result_policy", .object
       [("byte_length", .number length), ("delivery_error", deliveryError status),
        ("bytes_preserved_in_result", .bool true)])]

theorem safeStorageError_eq {status : Number} (h : status.same checked.provider_http_status = true) :
    safeStorageError (deliveryError status) checked = some status := by
  have hkeys : (deliveryError status).hasKeys
      ["code", "provider_http_status", "provider_ok", "automatic_retry"] = true := by
    show List.isPerm ["code", "provider_http_status", "provider_ok", "automatic_retry"] _ = true
    decide
  unfold safeStorageError
  rw [hkeys]
  simp [deliveryError, Properties.get, h]

theorem safeBinaryRetention_failed {status : Number} (hsafe : length.isSafeNatural = true)
    (hstatus : status.isInteger = true) (h : status.same checked.provider_http_status = true) :
    safeBinaryRetention (failedData length status) checked =
      some (.binaryStorageFailed length status) := by
  have hkeys : (failedData length status).hasKeys
      ["artifact_refs", "delivery_error", "result_policy"] = true := by
    show List.isPerm ["artifact_refs", "delivery_error", "result_policy"] _ = true
    decide
  have hpolicy : ((failedData length status).get "result_policy").hasKeys
      ["byte_length", "delivery_error", "bytes_preserved_in_result"] = true := by
    show List.isPerm ["byte_length", "delivery_error", "bytes_preserved_in_result"] _ = true
    decide
  have herror : (failedData length status).get "delivery_error" = deliveryError status := rfl
  have hpolicyError : ((failedData length status).get "result_policy").get "delivery_error" =
      deliveryError status := rfl
  have hlength : ((failedData length status).get "result_policy").get "byte_length" =
      .number length := rfl
  have hpreserved : ((failedData length status).get "result_policy").get
      "bytes_preserved_in_result" = .bool true := rfl
  have hrefs : (failedData length status).get "artifact_refs" = .array [] := rfl
  have hnull : (deliveryError status).isNull = false := rfl
  have hplain : ((failedData length status).get "result_policy").isPlain = true := rfl
  have hlengthRead : safeByteLength (.number length) = some length := by
    simp [safeByteLength, hsafe]
  unfold safeBinaryRetention safeStorageFailure
  dsimp only
  rw [hkeys, hrefs, hplain, herror, hnull, hpolicy, hpolicyError, hlength, hpreserved,
    safeStorageError_eq h, hlengthRead]
  simp [Number.same_self hstatus]

end Retentions

/-- The retentions that the retention functions give for a disposition, and none. -/
inductive Retained (disposition : Data) : Option Data → Prop
  | nothing : Retained disposition none
  | quarantineDefault {retention : Data}
      (h : Retention.quarantineDefault disposition = .ok retention) :
      Retained disposition (some retention)
  | quarantineStored {descriptor retention : Data}
      (h : Retention.quarantineStored disposition descriptor = .ok retention) :
      Retained disposition (some retention)
  | binaryStored {descriptor retention : Data} {length : Number}
      (h : Retention.binaryStored disposition descriptor length = .ok retention) :
      Retained disposition (some retention)
  | binaryStorageFailed {retention : Data} {length : Number}
      (h : Retention.binaryStorageFailed disposition length = .ok retention) :
      Retained disposition (some retention)

section Retained

variable {details : VerificationDetails} {code : String} {ok binary : Bool} {status : Number}
  {retention : Data}

theorem isFailure_success :
    isFailure (successData details binary ok status) = false := by
  have herror : (successData details binary ok status).get "error" = .undefined := rfl
  unfold isFailure
  rw [herror]
  simp [Data.isPlain]

theorem checked_success (hstatus : isHttpStatus status = true) :
    Retention.checked (successData details binary ok status) =
      some ((details.fully_verified, details.parse.name, details.schema.text, details.semantic.text),
        ok, status) := by
  simp [Retention.checked, successData, VerificationDetails.data, Properties.get, hstatus]

theorem ok_of_ite {ε α : Type} {c : Bool} {a b : α} {e : ε}
    (h : (if c = true then Except.ok a else Except.error e) = .ok b) : c = true ∧ a = b := by
  cases c with
  | true =>
    cases h
    exact ⟨rfl, rfl⟩
  | false => cases h

/-- Only bytes of a successful response have a binary disposition. -/
theorem binaryDisposition_success {found : Number} (hstatus : isHttpStatus status = true)
    (h : binaryDisposition (successData details binary ok status) = .ok found) :
    found = status ∧ details.parse = .binary := by
  unfold binaryDisposition at h
  rw [checked_success hstatus] at h
  dsimp only at h
  obtain ⟨hchecks, rfl⟩ := ok_of_ite h
  simp only [Bool.and_eq_true, decide_eq_true_eq] at hchecks
  refine ⟨rfl, ?_⟩
  have hname := hchecks.1.2
  cases hparse : details.parse with
  | binary => rfl
  | _ =>
    rw [hparse] at hname
    simp [ParseOutcome.name] at hname

theorem binaryDisposition_failure {found : Number} :
    binaryDisposition (failureData details code ok status) ≠ .ok found := by
  intro h
  have hname : (failureData details code ok status).get "disposition" =
      .text (failureName code) := rfl
  have hfailure : ∀ expected, isFailureName expected = false →
      (Data.text (failureName code)).isText expected = false := by
    intro expected hexpected
    rw [Data.isText_text]
    refine decide_eq_false fun heq => ?_
    rw [← heq, isFailureName_failureName] at hexpected
    cases hexpected
  unfold binaryDisposition at h
  rw [hname] at h
  split at h
  · cases h
  · dsimp only at h
    rw [hfailure _ (by split <;> decide)] at h
    simp at h

theorem isInteger_of_isHttpStatus (h : isHttpStatus status = true) : status.isInteger = true := by
  simp only [isHttpStatus, Bool.and_eq_true] at h
  exact h.1.1

/-- What is retained of captured bytes is accepted with their snapshot. -/
theorem safeRetention_success (hstatus : isHttpStatus status = true)
    (h : Retained (successData details binary ok status) (some retention)) :
    (safeRetention (successSnapshot details binary ok status) retention).isSome = true := by
  have hnoFailure : isFailureName (successSnapshot details binary ok status).disposition = false :=
    isFailureName_successName
  unfold safeRetention
  rw [hnoFailure, if_neg Bool.false_ne_true]
  cases h with
  | quarantineDefault h =>
    exact absurd (safeQuarantineRetention_default h).1 (by rw [isFailure_success]; decide)
  | quarantineStored h =>
    exact absurd (safeQuarantineRetention_stored h).1 (by rw [isFailure_success]; decide)
  | @binaryStored descriptor _ length h =>
    unfold Retention.binaryStored at h
    obtain ⟨found, hfound, hrest⟩ := bind_eq_ok.mp h
    obtain ⟨stored, hstored, hlength⟩ := bind_eq_ok.mp hrest
    obtain ⟨read, hread, hdata⟩ := bind_eq_ok.mp hlength
    obtain ⟨hsame, rfl⟩ := ok_of_ite hdata
    obtain ⟨rfl, hsafe⟩ := byteLength_ok hread
    have hparse : (successSnapshot details binary ok status).verification_details.parse = .binary :=
      (binaryDisposition_success hstatus hfound).2
    rw [if_pos hparse]
    show (safeBinaryRetention (storedData stored read) _).isSome = true
    rw [safeBinaryRetention_stored (descriptor_ok hstored) hsafe hsame]
    rfl
  | @binaryStorageFailed _ length h =>
    unfold Retention.binaryStorageFailed at h
    obtain ⟨found, hfound, hrest⟩ := bind_eq_ok.mp h
    obtain ⟨read, hread, hdata⟩ := bind_eq_ok.mp hrest
    obtain rfl := Except.ok.inj hdata
    obtain ⟨rfl, hsafe⟩ := byteLength_ok hread
    obtain ⟨rfl, hbinary⟩ := binaryDisposition_success hstatus hfound
    have hinteger := isInteger_of_isHttpStatus hstatus
    have hparse : (successSnapshot details binary ok found).verification_details.parse = .binary :=
      hbinary
    rw [if_pos hparse]
    show (safeBinaryRetention (failedData read found) _).isSome = true
    rw [safeBinaryRetention_failed hsafe hinteger (Number.same_self hinteger)]
    rfl

/-- What is retained of a failure is accepted with its snapshot. -/
theorem safeRetention_failure (h : Retained (failureData details code ok status) (some retention)) :
    (safeRetention (failureSnapshot details code ok status) retention).isSome = true := by
  have hfailure : isFailureName (failureSnapshot details code ok status).disposition = true :=
    isFailureName_failureName
  unfold safeRetention
  rw [if_pos hfailure]
  cases h with
  | quarantineDefault h =>
    rw [(safeQuarantineRetention_default h).2]
    rfl
  | quarantineStored h => exact (safeQuarantineRetention_stored h).2
  | binaryStored h =>
    unfold Retention.binaryStored at h
    obtain ⟨found, hfound, -⟩ := bind_eq_ok.mp h
    exact absurd hfound binaryDisposition_failure
  | binaryStorageFailed h =>
    unfold Retention.binaryStorageFailed at h
    obtain ⟨found, hfound, -⟩ := bind_eq_ok.mp h
    exact absurd hfound binaryDisposition_failure

end Retained

section Attach

variable {Value Schema : Type}

/-- A response as the outcome module is handed it. -/
def received (response : TransportResponse Value) : ProviderResponse where
  ok := response.ok
  httpStatus := some response.httpStatus
  http_status := none
  external_request_executed := none
  responseMeta := some { retry_after := response.retry_after, request_id := response.request_id }
  response_meta := none
  provider_request_id := none

theorem same_statusOf {response : TransportResponse Value}
    (h : isHttpStatus response.httpStatus = true) :
    response.httpStatus.same (statusOf (received response)) = true := by
  have hinteger := isInteger_of_isHttpStatus h
  unfold statusOf received
  dsimp only
  split
  · exact Number.same_self hinteger
  · rename_i hzero
    cases hnumber : response.httpStatus with
    | finite d =>
      rw [hnumber] at hzero
      have hman : d.man = 0 := by simpa [Number.isTruthy] using hzero
      simp [Number.same, Double.same, Number.orZero, Number.zero, Double.zero, hman]
    | nan =>
      rw [hnumber] at hinteger
      cases hinteger
    | infinity neg =>
      rw [hnumber] at hinteger
      cases hinteger

/-- The disposition of a verified response: of the error of its verification, of an error of a later
step of its processing, or of neither. -/
def processed (checked : Verification Value) (response : TransportResponse Value) (binary : Bool)
    (later : Option Thrown) : Except ProcessingError Data :=
  match checked.error, later with
  | some code, _ => processingFailure ⟨some code⟩ checked.details.data response.metadata
  | none, some error => processingFailure error checked.details.data response.metadata
  | none, none => success checked.details.data response.metadata binary

/-- What a snapshot has of the disposition that it was made from. -/
structure SameAs (kept : ResponseProcessing) (disposition : Data) : Prop where
  name : disposition.get "disposition" = .text kept.checked.disposition
  status : disposition.get "provider_http_status" = .number kept.checked.provider_http_status
  code : (disposition.get "error").get "code" = kept.checked.error.elim .undefined .text

variable {disposition : Data}

/-- An open attempt that received a response has its metadata on record. -/
theorem markResponseReceived_open (response : TransportResponse Value) {attempt : ProviderAttempt}
    (now : Int) (hopen : attempt.state ≠ .OUTCOME_UNKNOWN) :
    (markResponseReceived attempt (received response) now).state = .RESPONSE_RECEIVED ∧
      (markResponseReceived attempt (received response) now).response =
        some (responseMetadata (received response)) := by
  refine ⟨by rw [markResponseReceived_state, if_neg hopen], ?_⟩
  unfold markResponseReceived
  rw [if_neg hopen]
  rfl

/-- A disposition whose snapshot is of the recorded response is bound to its attempt, with what is
retained for it. -/
theorem attach_of_safe {response : TransportResponse Value} {attempt : ProviderAttempt}
    {checked : SafeDisposition} (now : Int) (retention : Option Data)
    (hopen : attempt.state ≠ .OUTCOME_UNKNOWN) (hsafe : safeDisposition disposition = some checked)
    (hok : checked.provider_http_ok = response.ok)
    (hstatus : checked.provider_http_status = response.httpStatus)
    (hvalid : isHttpStatus response.httpStatus = true)
    (hretained : ∀ kept, retention = some kept → (safeRetention checked kept).isSome = true) :
    ∃ kept, attachResponseProcessing ⟨markResponseReceived attempt (received response) now, none⟩
        disposition retention =
      .ok ⟨markResponseReceived attempt (received response) now, some ⟨checked, kept⟩⟩ ∧
      kept.isSome = retention.isSome := by
  obtain ⟨hstate, hresponse⟩ := markResponseReceived_open response now hopen
  have hsame : (!checked.provider_http_status.same (responseMetadata (received response)).http_status ||
      checked.provider_http_ok ≠ (responseMetadata (received response)).ok : Bool) = false := by
    have hsameStatus := same_statusOf hvalid
    rw [← hstatus] at hsameStatus
    have hsameOk : checked.provider_http_ok = (responseMetadata (received response)).ok := hok
    simp only [hsameOk, ne_eq, not_true_eq_false, decide_false, Bool.or_false, Bool.not_eq_false']
    exact hsameStatus
  unfold attachResponseProcessing
  rw [hstate, hresponse]
  dsimp only
  rw [hsafe]
  dsimp only
  rw [hsame, if_neg Bool.false_ne_true]
  cases retention with
  | none => exact ⟨none, rfl, rfl⟩
  | some value =>
    obtain ⟨kept, hkept⟩ := Option.isSome_iff_exists.mp (hretained value rfl)
    dsimp only
    rw [hkept]
    exact ⟨some kept, rfl, rfl⟩

/-- A disposition that is not safe is refused as such, whatever is retained for it. -/
theorem attach_of_unsafe (response : TransportResponse Value) {attempt : ProviderAttempt} (now : Int)
    (retention : Option Data) (hopen : attempt.state ≠ .OUTCOME_UNKNOWN)
    (hsafe : safeDisposition disposition = none) :
    attachResponseProcessing ⟨markResponseReceived attempt (received response) now, none⟩
      disposition retention = .error .PROVIDER_RESPONSE_OUTCOME_DISPOSITION_INVALID := by
  obtain ⟨hstate, hresponse⟩ := markResponseReceived_open response now hopen
  unfold attachResponseProcessing
  rw [hstate, hresponse]
  dsimp only
  rw [hsafe]

/-- The dispositions that are accepted: under a policy of a short revision; without an error, of
bytes of a successful response only; with an error of a later step, not of a fully verified
response. -/
def Accepts (policy : Option (VerificationPolicy Value Schema)) (checked : Verification Value)
    (response : TransportResponse Value) (binary : Bool) (later : Option Thrown) : Prop :=
  (∀ revision ∈ policy.bind (·.source_revision), utf16Length revision ≤ 240) ∧
    (checked.error = none → later = none → binary = true → response.ok = true) ∧
    (checked.error = none → later.isSome = true → checked.details.fully_verified = false)

/-- What the validator makes of the disposition of a verified response. -/
structure Validated (response : TransportResponse Value) (disposition : Data) (accepted : Prop)
    (snapshot : SafeDisposition) : Prop where
  valid : isHttpStatus response.httpStatus = true
  safe : accepted → safeDisposition disposition = some snapshot
  refused : ¬ accepted → safeDisposition disposition = none
  ok : snapshot.provider_http_ok = response.ok
  status : snapshot.provider_http_status = response.httpStatus
  same : ∀ kept, SameAs ⟨snapshot, kept⟩ disposition
  retained : ∀ retention, Retained disposition (some retention) →
    (safeRetention snapshot retention).isSome = true

theorem validated_failure {response : TransportResponse Value} {details : VerificationDetails}
    {error : Thrown} (hhttp : details.http = if response.ok then .success else .error)
    (hverified : details.fully_verified = VerificationDetails.verified details)
    (h : processingFailure error details.data response.metadata = .ok disposition) :
    ∃ snapshot, Validated response disposition
      (RevisionFits details.source_revision ∧ details.fully_verified = false) snapshot := by
  obtain ⟨hvalid, rfl⟩ := processingFailure_data h
  have hcode : isCode (safeErrorCode error) = true := isCode_codeOr error (by decide)
  have hsafe := safeDisposition_failure hcode hvalid hhttp hverified
  exact ⟨failureSnapshot details (safeErrorCode error) response.ok response.httpStatus,
    { valid := hvalid
      safe := fun haccepted => by rw [hsafe, if_pos haccepted]
      refused := fun hrefused => by rw [hsafe, if_neg hrefused]
      ok := rfl
      status := rfl
      same := fun kept => ⟨rfl, rfl, rfl⟩
      retained := fun retention => safeRetention_failure }⟩

theorem validated_success {response : TransportResponse Value} {details : VerificationDetails}
    {binary : Bool} (hhttp : details.http = if response.ok then .success else .error)
    (hverified : details.fully_verified = VerificationDetails.verified details)
    (hparse : details.parse = .binary ↔ binary = true)
    (h : success details.data response.metadata binary = .ok disposition) :
    ∃ snapshot, Validated response disposition
      (RevisionFits details.source_revision ∧ (binary = true → response.ok = true)) snapshot := by
  obtain ⟨hvalid, rfl⟩ := success_data h
  have hsafe := safeDisposition_success hvalid hhttp hverified hparse
  exact ⟨successSnapshot details binary response.ok response.httpStatus,
    { valid := hvalid
      safe := fun haccepted => by rw [hsafe, if_pos haccepted]
      refused := fun hrefused => by rw [hsafe, if_neg hrefused]
      ok := rfl
      status := rfl
      same := fun kept => ⟨rfl, rfl, rfl⟩
      retained := fun retention => safeRetention_success hvalid }⟩

theorem Validated.congr {response : TransportResponse Value} {accepted accepted' : Prop}
    {snapshot : SafeDisposition} (h : Validated response disposition accepted snapshot)
    (hiff : accepted' ↔ accepted) :
    Validated response disposition accepted' snapshot :=
  { h with
    safe := fun haccepted => h.safe (hiff.mp haccepted)
    refused := fun hrefused => h.refused fun haccepted => hrefused (hiff.mpr haccepted) }

theorem validated_processed {parseJson : String → Option (Option Value)}
    {dependency : ResponsePolicy Value Schema} {response : TransportResponse Value} {binary : Bool}
    {policy : Option (VerificationPolicy Value Schema)} {later : Option Thrown}
    (h : processed (verify parseJson dependency response binary policy) response binary later =
      .ok disposition) :
    ∃ snapshot, Validated response disposition
      (Accepts policy (verify parseJson dependency response binary policy) response binary later)
      snapshot := by
  obtain ⟨hconsistent, hunverified, -⟩ :=
    verify_consistent parseJson dependency response binary policy
  generalize verify parseJson dependency response binary policy = checked at *
  have hfits := revisionFits_filter (policy.bind (·.source_revision))
  rw [← hconsistent.revision] at hfits
  unfold processed at h
  cases herror : checked.error with
  | some code =>
    rw [herror] at h
    have hnot := hunverified (by rw [herror]; rfl)
    obtain ⟨snapshot, hsnapshot⟩ := validated_failure hconsistent.http hconsistent.verified h
    exact ⟨snapshot, hsnapshot.congr (by simp [Accepts, herror, hnot, hfits])⟩
  | none =>
    rw [herror] at h
    cases later with
    | some error =>
      obtain ⟨snapshot, hsnapshot⟩ := validated_failure hconsistent.http hconsistent.verified h
      exact ⟨snapshot, hsnapshot.congr (by simp [Accepts, herror, hfits])⟩
    | none =>
      obtain ⟨snapshot, hsnapshot⟩ :=
        validated_success hconsistent.http hconsistent.verified hconsistent.parse h
      exact ⟨snapshot, hsnapshot.congr (by simp [Accepts, herror, hfits])⟩

/-- The processing of a response is bound to the attempt that recorded the response exactly when its
disposition is one that is accepted, whatever is retained for it; any other disposition is refused
as invalid; and what is bound has the name, the status and the error code of the disposition. -/
theorem response_processing_bound (parseJson : String → Option (Option Value))
    (dependency : ResponsePolicy Value Schema) (response : TransportResponse Value) (binary : Bool)
    (policy : Option (VerificationPolicy Value Schema)) (later : Option Thrown)
    (attempt : ProviderAttempt) (now : Int) (disposition : Data) (retention : Option Data)
    (hopen : attempt.state ≠ .OUTCOME_UNKNOWN)
    (hdisposition : processed (verify parseJson dependency response binary policy) response binary
      later = .ok disposition) (hretained : Retained disposition retention) :
    ((∃ bound, attachResponseProcessing
        ⟨markResponseReceived attempt (received response) now, none⟩ disposition retention =
          .ok bound) ↔
      Accepts policy (verify parseJson dependency response binary policy) response binary later) ∧
    (¬ Accepts policy (verify parseJson dependency response binary policy) response binary later →
      attachResponseProcessing ⟨markResponseReceived attempt (received response) now, none⟩
        disposition retention = .error .PROVIDER_RESPONSE_OUTCOME_DISPOSITION_INVALID) ∧
    ∀ bound, attachResponseProcessing
        ⟨markResponseReceived attempt (received response) now, none⟩ disposition retention =
          .ok bound →
      bound.record = markResponseReceived attempt (received response) now ∧
      ∃ kept, bound.response_processing = some kept ∧ SameAs kept disposition ∧
        kept.retention.isSome = retention.isSome := by
  obtain ⟨snapshot, hsnapshot⟩ := validated_processed hdisposition
  have hattach (hsafe : safeDisposition disposition = some snapshot) :=
    attach_of_safe now retention hopen hsafe hsnapshot.ok hsnapshot.status
      hsnapshot.valid fun kept heq => hsnapshot.retained kept (heq ▸ hretained)
  have hrefuses (hrefused : ¬ Accepts policy (verify parseJson dependency response binary policy)
      response binary later) :=
    attach_of_unsafe response now retention hopen (hsnapshot.refused hrefused)
  have haccepts : ∀ bound, attachResponseProcessing
      ⟨markResponseReceived attempt (received response) now, none⟩ disposition retention = .ok bound →
      Accepts policy (verify parseJson dependency response binary policy) response binary later :=
    fun bound hbound => by_contra fun hrefused => by
      rw [hrefuses hrefused] at hbound
      cases hbound
  refine ⟨⟨fun ⟨bound, hbound⟩ => haccepts bound hbound, fun haccepted => ?_⟩, hrefuses,
    fun bound hbound => ?_⟩
  · obtain ⟨kept, hkept, -⟩ := hattach (hsnapshot.safe haccepted)
    exact ⟨_, hkept⟩
  · obtain ⟨kept, hkept, hsome⟩ := hattach (hsnapshot.safe (haccepts bound hbound))
    rw [hkept] at hbound
    obtain rfl := Except.ok.inj hbound
    exact ⟨rfl, _, rfl, hsnapshot.same kept, hsome⟩

end Attach

/-- An attempt that was sent. -/
def sentAttempt : ProviderAttempt where
  schema_version := 1
  state := .DISPATCH_INTENT_COMMITTED
  outcome := none
  logical_execution_id := some (units "execution-1:0")
  provider_attempt_id := some (units "attempt-1")
  execution_id := some (units "execution-1")
  command_index := 0
  account := none
  conversation := none
  work_generation := none
  binding := none
  binding_revision := none
  marketplace := none
  store := none
  credential_revision := none
  operation := none
  attempt_number := 1
  created_at := 0
  intent_committed_at := 0
  response_received_at := none
  finalized_at := none
  response := none
  delivery_state := "PENDING"
  unknown_reason := none

/-- A JSON response that is successful. -/
def jsonResponse : TransportResponse Unit where
  ok := true
  httpStatus := .twoHundred
  rawText := "null"
  parsed := none
  content_type := some "application/json"
  retry_after := none
  request_id := none

/-- A response of status 500. -/
def failedResponse : TransportResponse Unit where
  ok := false
  httpStatus := .finite ⟨false, 500 * 2 ^ 44, -44, by decide⟩
  rawText := ""
  parsed := none
  content_type := some "application/octet-stream"
  retry_after := none
  request_id := none

def acceptingPolicy : ResponsePolicy Unit Unit where
  safeResponseTree _ := .ok ()
  validateSchema _ _ := .ok ()

/-- A policy of a revision whose schema and semantics pass. -/
def passingPolicy (revision : String) : VerificationPolicy Unit Unit where
  schema := some ()
  semanticError := some fun _ => .ok none
  source_revision := some revision

/-- The code with which the processing of a response is refused, nothing being retained. -/
def refusal (response : TransportResponse Unit) (binary : Bool)
    (policy : Option (VerificationPolicy Unit Unit)) (later : Option Thrown) :
    Option ProcessingError :=
  match processed (verify (fun _ => some none) acceptingPolicy response binary policy) response binary
      later with
  | .error _ => none
  | .ok disposition =>
    match attachResponseProcessing ⟨markResponseReceived sentAttempt (received response) 1, none⟩
        disposition none with
    | .error error => some error
    | .ok _ => none

theorem verified_processing_bound :
    ∃ bound, attachResponseProcessing ⟨markResponseReceived sentAttempt (received jsonResponse) 1, none⟩
      (successData ⟨.success, .json, .pass, .pass, some "r1", true⟩ false true .twoHundred) none =
        .ok bound :=
  (response_processing_bound (fun _ => some none) acceptingPolicy jsonResponse false
    (some (passingPolicy "r1")) none sentAttempt 1
    (successData ⟨.success, .json, .pass, .pass, some "r1", true⟩ false true .twoHundred) none
    (by decide) rfl .nothing).1.mpr
    ⟨by decide, fun _ _ h => (by cases h), fun _ h => (by cases h)⟩

/-- Bytes of a response of status 500, a later failure of a fully verified response, and a policy of
a long revision. -/
theorem processing_refused :
    refusal failedResponse true none none = some .PROVIDER_RESPONSE_OUTCOME_DISPOSITION_INVALID ∧
      refusal jsonResponse false (some (passingPolicy "r1")) (some ⟨none⟩) =
        some .PROVIDER_RESPONSE_OUTCOME_DISPOSITION_INVALID ∧
      refusal jsonResponse false (some (passingPolicy (String.ofList (List.replicate 241 'r')))) none =
        some .PROVIDER_RESPONSE_OUTCOME_DISPOSITION_INVALID := by
  decide +kernel

end ProviderOutcome

end SellerAgents.Execution
