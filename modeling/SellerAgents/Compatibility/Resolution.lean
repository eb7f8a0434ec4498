import SellerAgents.Compatibility.Versions

namespace SellerAgents.Compatibility
open Js

inductive ContractVersion where
  | control_plane_v1 | control_plane_v2
deriving DecidableEq

inductive BrowserFamily where
  | chrome | opera | yandex_chromium | firefox | safari
deriving DecidableEq

structure ExtensionRelease where
  id : String

structure ReleaseContractSupport where
  releaseId : String
  contractVersion : ContractVersion

structure ReleaseBrowserSupport where
  releaseId : String
  browserFamily : BrowserFamily

/-- A published policy of versions. -/
structure CompatibilityPolicyRevision where
  id : String
  contractVersion : ContractVersion
  browserFamily : Option BrowserFamily
  minimumExtensionVersion : Option JsString
  recommendedExtensionVersion : Option JsString
  minimumBrowserVersion : Option JsString
  maintenanceMode : Bool
  maintenanceCode : Option JsString

structure BlockedExtensionVersion where
  policyRevisionId : String
  extensionVersion : JsString

inductive ExtensionStatus where
  | SUPPORTED | UPDATE_RECOMMENDED | UPDATE_REQUIRED
deriving DecidableEq

inductive BrowserStatus where
  | SUPPORTED | UNSUPPORTED_BROWSER | MAINTENANCE
deriving DecidableEq

/-- What the policy says of a client. -/
structure CompatibilityResolution where
  extension : ExtensionStatus
  browser : BrowserStatus
  minimumVersion : Option JsString
deriving DecidableEq

structure CompatibilityResolverInput where
  contractVersion : ContractVersion
  extensionVersion : JsString
  browserFamily : BrowserFamily
  browserVersion : JsString
  release : Option ExtensionRelease
  releaseContracts : List ReleaseContractSupport
  releaseBrowsers : List ReleaseBrowserSupport
  policies : List CompatibilityPolicyRevision
  /-- `blockedVersions.get(id)`. -/
  blockedVersions : String → Option (List BlockedExtensionVersion)

/-- A text that is neither null nor empty. -/
def truthy (value : Option JsString) : Option JsString := value.filter (· != [])

/-- `max(values)`. -/
def maxVersion (values : List (Option JsString)) : Except VersionError (Option JsString) :=
  values.foldlM (fun result value =>
    match truthy value, truthy result with
    | none, _ => .ok result
    | some _, none => .ok value
    | some v, some r => do
      let compared ← compareSemVerV1 v r
      .ok (if compared ≠ .gt then result else value)) none

/-- `bound && compareSemVerV1(version, bound) < 0`. -/
def belowVersion (version : JsString) (bound : Option JsString) : Except VersionError Bool :=
  match truthy bound with
  | none => .ok false
  | some bound => (compareSemVerV1 version bound).map (· == .lt)

/-- `minimum && recommended && compareSemVerV1(recommended, minimum) < 0`. -/
def inverted (minimum recommended : Option JsString) : Except VersionError Bool :=
  match truthy recommended with
  | none => .ok false
  | some recommended => belowVersion recommended minimum

namespace CompatibilityResolverInput

variable (input : CompatibilityResolverInput)

def applicable : List CompatibilityPolicyRevision :=
  input.policies.filter fun p => p.contractVersion = input.contractVersion &&
    (p.browserFamily = none || p.browserFamily = some input.browserFamily)

def globals : List CompatibilityPolicyRevision := input.applicable.filter (·.browserFamily = none)

def exact : List CompatibilityPolicyRevision :=
  input.applicable.filter (·.browserFamily = some input.browserFamily)

/-- `all`. -/
def consumed : List CompatibilityPolicyRevision := input.globals ++ input.exact

/-- A support row of another release. -/
def foreignSupport : Bool :=
  input.releaseContracts.any (fun row => some row.releaseId ≠ input.release.map (·.id)) ||
    input.releaseBrowsers.any fun row => some row.releaseId ≠ input.release.map (·.id)

/-- A duplicate scope, a browser minimum of all browsers or a broken maintenance. -/
def corruptPolicies : Bool :=
  1 < input.globals.length || 1 < input.exact.length ||
    input.globals.any (·.minimumBrowserVersion ≠ none) ||
    input.consumed.any fun p => p.maintenanceMode != (truthy p.maintenanceCode).isSome

def foreignBlocked : Bool :=
  input.consumed.any fun policy =>
    ((input.blockedVersions policy.id).getD []).any (·.policyRevisionId ≠ policy.id)

/-- `blocked`. -/
def blocked : List JsString :=
  (input.consumed.flatMap fun p => (input.blockedVersions p.id).getD []).map (·.extensionVersion)

def releaseSupports : Bool :=
  input.release.isSome && input.releaseContracts.any (·.contractVersion = input.contractVersion)

def extensionStatus (minimum recommended : Option JsString) : Except VersionError ExtensionStatus :=
  if !input.releaseSupports || input.blocked.contains input.extensionVersion then
    .ok .UPDATE_REQUIRED
  else do
    if ← belowVersion input.extensionVersion minimum then .ok .UPDATE_REQUIRED
    else if ← belowVersion input.extensionVersion recommended then .ok .UPDATE_RECOMMENDED
    else .ok .SUPPORTED

def browserStatus : BrowserStatus :=
  if input.consumed.any (·.maintenanceMode) then .MAINTENANCE
  else if input.release.isNone ||
      !input.releaseBrowsers.any (·.browserFamily = input.browserFamily) then .UNSUPPORTED_BROWSER
  else
    match truthy (input.exact.head?.bind (·.minimumBrowserVersion)) with
    | none => .SUPPORTED
    | some minimum =>
      if (compareBrowserVersionV1 input.browserVersion minimum).getD .lt = .lt then
        .UNSUPPORTED_BROWSER
      else .SUPPORTED

end CompatibilityResolverInput

/-- `resolveCompatibility`; none is `undefined`. -/
def resolveCompatibility (input : CompatibilityResolverInput) :
    Except VersionError (Option CompatibilityResolution) :=
  if input.foreignSupport || input.corruptPolicies then .ok none
  else do
    let minimum ← maxVersion (input.consumed.map (·.minimumExtensionVersion))
    let recommended ← maxVersion (input.consumed.map (·.recommendedExtensionVersion))
    if (← inverted minimum recommended) || input.foreignBlocked then .ok none
    else do
      let extension ← input.extensionStatus minimum recommended
      .ok (some { extension, browser := input.browserStatus, minimumVersion := minimum })

end SellerAgents.Compatibility
