import Mathlib.Data.List.MinMax
import SellerAgents.Js.Data
import SellerAgents.Relational.Table
import SellerAgents.Relational.Transaction

open Relational

namespace SellerAgents.Profiles

/-! `adapter-registry`, and the tables of profile revisions and their assignments. -/

inductive AdapterRegistryStatus where
  | ACTIVE | DISABLED | ARCHIVED
deriving DecidableEq

inductive ProfileRevisionState where
  | DRAFT | CANDIDATE | PUBLISHED | RETIRED
deriving DecidableEq

inductive AssignmentMode where
  | DIRECT | ROLLOUT | PAUSED
deriving DecidableEq

inductive AssignmentSubjectKind where
  | ACCOUNT | DEVICE

inductive BrowserFamily where
  | chrome | opera | yandex_chromium | firefox | safari
deriving DecidableEq

structure ProfileContent (Json : Type) where
  content : Json
  compatibility : Json
  contentSha256 : String
deriving DecidableEq

/-- The schemas of profile contents and their fingerprint. -/
structure ContentRules (Json : Type) where
  validateProfileContent : Json → Json → Except String (ProfileContent Json)
  /-- The texts of `compatibility_constraints->'browserFamilies'`. -/
  browserFamilies : Json → List BrowserFamily
  /-- Whether `PersistedProfileRevisionSchema` accepts what a row holds. -/
  persisted : ProfileContent Json → Bool

/-- A revision of a profile and its state. -/
structure ProfileRevision (Uuid Json : Type) where
  /-- The ids of a table are numbered as its rows are inserted. -/
  id : Nat
  profileId : Uuid
  adapterId : Uuid
  surfaceId : Uuid
  variantId : Option Uuid
  revision : Nat
  state : ProfileRevisionState
  content : ProfileContent Json
  createdAt : Int
  publishedAt : Option Int
  createdByAdminPrincipalId : Option Uuid
  publishedByAdminPrincipalId : Option Uuid
deriving DecidableEq

structure AssignmentScope (Uuid : Type) where
  adapterId : Uuid
  surfaceId : Uuid
  variantId : Option Uuid
  browserFamily : BrowserFamily
  subjectKind : AssignmentSubjectKind

abbrev CohortSeed : Type := Vector UInt8 32

structure Assignment (Uuid : Type) : Type extends AssignmentScope Uuid where
  id : Nat
  cohortSeed : CohortSeed
  createdAt : Int
  createdByAdminPrincipalId : Option Uuid

/-- A revision of an assignment: what it serves, and to how many. -/
structure AssignmentRevision (Uuid : Type) where
  id : Nat
  assignmentId : Nat
  revision : Nat
  mode : AssignmentMode
  baselineProfileRevisionId : Nat
  candidateProfileRevisionId : Option Nat
  percentageBps : Nat
  createdAt : Int
  createdByAdminPrincipalId : Option Uuid
  reason : String

structure Tables (Uuid Json : Type) where
  profileRevisions : List (ProfileRevision Uuid Json)
  assignments : List (Assignment Uuid)
  assignmentRevisions : List (AssignmentRevision Uuid)

/-- `adapter_profiles`. -/
structure AdapterProfile (Uuid : Type) where
  adapterId : Uuid
  surfaceId : Uuid
  variantId : Option Uuid
  status : AdapterRegistryStatus

/-- What a transaction finds around these tables. -/
structure Catalog (Uuid : Type) where
  profile : Uuid → Option (AdapterProfile Uuid)
  adapterStatus : Uuid → Option AdapterRegistryStatus
  /-- By surface and adapter. -/
  surfaceStatus : Uuid → Uuid → Option AdapterRegistryStatus
  /-- By variant and surface. -/
  variantStatus : Uuid → Uuid → Option AdapterRegistryStatus
  now : Int
  /-- What `beforeMutation` answers for an administrator. -/
  authorized : Uuid → Bool
  /-- Whether a foreign key or a guard of other tables refuses what is written. -/
  refuses : Bool

inductive ActorType where
  | SYSTEM | ADMIN
deriving DecidableEq

structure ProfileMutationContext (Uuid : Type) where
  actorType : ActorType
  actorId : Option Uuid
  correlationId : String
  reason : String

section Model

variable {Uuid Json : Type} [DecidableEq Uuid] [DecidableEq Json]

/-- `ProfileMutationContextSchema.parse`. -/
def context (input : ProfileMutationContext Uuid) : Except String (ProfileMutationContext Uuid) :=
  if (input.actorType = .SYSTEM || input.actorId.isSome) &&
      1 ≤ Js.utf16Length input.correlationId && Js.utf16Length input.correlationId ≤ 128 &&
      1 ≤ Js.utf16Length input.reason && Js.utf16Length input.reason ≤ 512 then .ok input
  else .error "ProfileMutationContextSchema"

def assertProfileRevisionTransition (source target : ProfileRevisionState) : Bool :=
  source = target || (source = .DRAFT && target = .CANDIDATE) ||
    (source = .CANDIDATE && target = .PUBLISHED) || (source = .PUBLISHED && target = .RETIRED)

/-! The triggers of the migrations. -/

/-- The rows differ in their state and publication alone. -/
def SamePayload (old new : ProfileRevision Uuid Json) : Prop :=
  new = { old with
    state := new.state, publishedAt := new.publishedAt
    publishedByAdminPrincipalId := new.publishedByAdminPrincipalId }

instance (old new : ProfileRevision Uuid Json) : Decidable (SamePayload old new) :=
  inferInstanceAs (Decidable (_ = _))

/-- `p7_1_profile_revision_guard`, before an update. -/
def ProfileRevisionGuard (old new : ProfileRevision Uuid Json) : Prop :=
  old.id = new.id ∧ old.profileId = new.profileId ∧ old.adapterId = new.adapterId ∧
    old.surfaceId = new.surfaceId ∧ old.variantId = new.variantId ∧ old.revision = new.revision ∧
    old.createdAt = new.createdAt ∧ old.state ≠ .RETIRED ∧
    (old.state = .PUBLISHED → (new.state = .PUBLISHED ∨ new.state = .RETIRED) ∧
      old.content = new.content ∧ old.publishedAt = new.publishedAt ∧
      old.createdByAdminPrincipalId = new.createdByAdminPrincipalId ∧
      old.publishedByAdminPrincipalId = new.publishedByAdminPrincipalId)

instance (old new : ProfileRevision Uuid Json) : Decidable (ProfileRevisionGuard old new) :=
  inferInstanceAs (Decidable (_ ∧ _))

/-- `p7_2_profile_revision_lifecycle_guard`, before an update. -/
def LifecycleGuard (old new : ProfileRevision Uuid Json) : Prop :=
  match old.state with
  | .DRAFT => (new.state = .DRAFT ∨ new.state = .CANDIDATE) ∧ new.publishedAt = none ∧
      new.publishedByAdminPrincipalId = none ∧ (new.state = .CANDIDATE → SamePayload old new)
  | .CANDIDATE => new.state = .PUBLISHED ∧ new.publishedAt.isSome ∧ SamePayload old new
  | .PUBLISHED => new.state = .RETIRED ∧ SamePayload old new ∧ old.publishedAt = new.publishedAt ∧
      old.publishedByAdminPrincipalId = new.publishedByAdminPrincipalId
  | .RETIRED => False

instance (old new : ProfileRevision Uuid Json) : Decidable (LifecycleGuard old new) := by
  unfold LifecycleGuard
  split <;> infer_instance

namespace AssignmentRevision

/-- The profile revisions that a row names for its mode. -/
def targets (row : AssignmentRevision Uuid) : List Nat :=
  match row.mode with
  | .DIRECT => [row.baselineProfileRevisionId]
  | _ => row.baselineProfileRevisionId :: row.candidateProfileRevisionId.toList

/-- Whether no other row of the assignment has a higher revision. -/
def isLatest (rows : List (AssignmentRevision Uuid)) (row : AssignmentRevision Uuid) : Bool :=
  rows.all fun other => other.assignmentId ≠ row.assignmentId || other.revision ≤ row.revision

/-- `adapter_profile_assignment_revisions_shape`, and the bounds of the percentage. -/
def Shaped (row : AssignmentRevision Uuid) : Prop :=
  0 < row.revision ∧ row.percentageBps ≤ 10000 ∧
    ((row.mode = .DIRECT ∧ row.candidateProfileRevisionId = none ∧ row.percentageBps = 0) ∨
      (row.mode ≠ .DIRECT ∧ row.candidateProfileRevisionId ≠ none ∧
        row.candidateProfileRevisionId ≠ some row.baselineProfileRevisionId))

instance (row : AssignmentRevision Uuid) : Decidable row.Shaped :=
  inferInstanceAs (Decidable (_ ∧ _))

end AssignmentRevision

/-- `p7_2_retirement_guard`. -/
def RetirementGuard (rows : List (AssignmentRevision Uuid)) (old new : ProfileRevision Uuid Json) :
    Prop :=
  old.state = .PUBLISHED → new.state = .RETIRED →
    ∀ row ∈ rows, row.isLatest rows = true → old.id ∉ row.targets

instance (rows : List (AssignmentRevision Uuid)) (old new : ProfileRevision Uuid Json) :
    Decidable (RetirementGuard rows old new) :=
  inferInstanceAs (Decidable (_ → _))

/-- The joins of `assertTargets` and of `p7_2_assignment_revision_validate`. -/
def eligible (rules : ContentRules Json) (catalog : Catalog Uuid) (a : Assignment Uuid)
    (r : ProfileRevision Uuid Json) : Bool :=
  (catalog.profile r.profileId).any fun p =>
    r.state = .PUBLISHED && p.adapterId = a.adapterId && p.surfaceId = a.surfaceId &&
    p.variantId = a.variantId &&
    (rules.browserFamilies r.content.compatibility).contains a.browserFamily &&
    catalog.adapterStatus p.adapterId = some .ACTIVE &&
    catalog.surfaceStatus p.surfaceId p.adapterId = some .ACTIVE && p.status = .ACTIVE &&
    (a.variantId.isNone ||
      p.variantId.any fun variantId =>
        catalog.variantStatus variantId p.surfaceId = some .ACTIVE)

def eligibleTarget (rules : ContentRules Json) (catalog : Catalog Uuid) (t : Tables Uuid Json)
    (assignmentId : Nat) (r : ProfileRevision Uuid Json) : Bool :=
  t.assignments.any fun a => a.id = assignmentId && eligible rules catalog a r

/-- `p7_2_assignment_revision_validate`, the constraints of the row, and its unique index. -/
def AssignmentRevisionValidate (rules : ContentRules Json) (catalog : Catalog Uuid)
    (t : Tables Uuid Json) (row : AssignmentRevision Uuid) : Prop :=
  row.revision = ((t.assignmentRevisions.filter (·.assignmentId = row.assignmentId)).map
      (·.revision)).foldr max 0 + 1 ∧
    (∀ target ∈ row.baselineProfileRevisionId :: row.candidateProfileRevisionId.toList,
      ∃ r ∈ t.profileRevisions, r.id = target ∧
        eligibleTarget rules catalog t row.assignmentId r = true) ∧
    row.Shaped ∧
    ∀ other ∈ t.assignmentRevisions,
      ¬ (other.assignmentId = row.assignmentId ∧ other.revision = row.revision)

instance (rules : ContentRules Json) (catalog : Catalog Uuid) (t : Tables Uuid Json)
    (row : AssignmentRevision Uuid) : Decidable (AssignmentRevisionValidate rules catalog t row) :=
  inferInstanceAs (Decidable (_ ∧ _))

/-- `p7_2_assignment_scope_guard`, before an insert. -/
def ScopeGuard (catalog : Catalog Uuid) (scope : AssignmentScope Uuid) : Prop :=
  catalog.adapterStatus scope.adapterId = some .ACTIVE ∧
    catalog.surfaceStatus scope.surfaceId scope.adapterId = some .ACTIVE ∧
    ∀ variantId ∈ scope.variantId, catalog.variantStatus variantId scope.surfaceId = some .ACTIVE

instance (catalog : Catalog Uuid) (scope : AssignmentScope Uuid) :
    Decidable (ScopeGuard catalog scope) := inferInstanceAs (Decidable (_ ∧ _ ∧ _))

/-! `p7-profile-lifecycle-repository.ts`. -/

abbrev ProfileTx (Uuid Json α : Type) : Type := Tx (Tables Uuid Json) α

/-- What a parse outside of a transaction gives. -/
def parsed {α : Type} : Except String α → ProfileTx Uuid Json α
  | .ok value => pure value
  | .error message => throw message

def loadRevision (profileId : Uuid) (revision : Nat) :
    ProfileTx Uuid Json (ProfileRevision Uuid Json) := do
  match (← get).profileRevisions.find? fun r => r.profileId = profileId && r.revision = revision with
  | none => throw "P7_PROFILE_REVISION_NOT_FOUND"
  | some row => return row

def loadAssignment (assignmentId : Nat) : ProfileTx Uuid Json (Assignment Uuid) := do
  match (← get).assignments.find? (·.id = assignmentId) with
  | none => throw "P7_ASSIGNMENT_NOT_FOUND"
  | some row => return row

/-- `ORDER BY revision DESC LIMIT 1`. -/
def latestRevision (rows : List (AssignmentRevision Uuid)) (assignmentId : Nat) :
    Option (AssignmentRevision Uuid) :=
  (rows.filter (·.assignmentId = assignmentId)).argmax (·.revision)

def latestAssignmentRevision (assignmentId : Nat) :
    ProfileTx Uuid Json (Option (AssignmentRevision Uuid)) :=
  return latestRevision (← get).assignmentRevisions assignmentId

def checkExpected (actual : Option (AssignmentRevision Uuid)) (expected : Option Nat) :
    ProfileTx Uuid Json Unit :=
  ensure (actual.map (·.revision) = expected) "P7_ASSIGNMENT_STALE_REVISION"

variable (rules : ContentRules Json) (catalog : Catalog Uuid)

/-- `beforeMutation`. -/
def authorize (c : ProfileMutationContext Uuid) : ProfileTx Uuid Json Unit :=
  ensure (c.actorType = .ADMIN → ∀ actorId ∈ c.actorId, catalog.authorized actorId = true)
    "UNAUTHORIZED"

def assertTargets (assignmentId : Nat) (ids : List Nat) : ProfileTx Uuid Json Unit := do
  let expected := ids.dedup
  let t ← get
  let rows := t.profileRevisions.filter fun r =>
    expected.contains r.id && eligibleTarget rules catalog t assignmentId r
  ensure (rows.length = expected.length) "P7_ASSIGNMENT_TARGET_INELIGIBLE"

/-- The row that follows the latest one of an assignment. -/
def nextAssignmentRevision (rows : List (AssignmentRevision Uuid)) (assignmentId : Nat)
    (mode : AssignmentMode) (baseline : Nat) (candidate : Option Nat) (percentageBps : Nat)
    (c : ProfileMutationContext Uuid) : AssignmentRevision Uuid where
  id := rows.length
  assignmentId := assignmentId
  revision := ((latestRevision rows assignmentId).elim 0 (·.revision)) + 1
  mode := mode
  baselineProfileRevisionId := baseline
  candidateProfileRevisionId := candidate
  percentageBps := percentageBps
  createdAt := catalog.now
  createdByAdminPrincipalId := c.actorId
  reason := c.reason

/-- `INSERT INTO adapter_profile_assignment_revisions`. -/
def insertAssignmentRevision (assignmentId : Nat) (mode : AssignmentMode) (baseline : Nat)
    (candidate : Option Nat) (percentageBps : Nat) (c : ProfileMutationContext Uuid) :
    ProfileTx Uuid Json (AssignmentRevision Uuid) := do
  let t ← get
  let row := nextAssignmentRevision catalog t.assignmentRevisions assignmentId mode baseline candidate
    percentageBps c
  ensure (AssignmentRevisionValidate rules catalog t row)
    "P7.2 assignment target is not eligible for this scope"
  ensure (catalog.refuses = false) "REFUSED"
  modify fun t => { t with assignmentRevisions := t.assignmentRevisions ++ [row] }
  return row

/-- `UPDATE adapter_profile_revisions SET … WHERE id=$1`, and the parse of the row. -/
def updateProfileRevision (row : ProfileRevision Uuid Json)
    (set : ProfileRevision Uuid Json → ProfileRevision Uuid Json) :
    ProfileTx Uuid Json (ProfileRevision Uuid Json) := do
  let t ← get
  ensure (ProfileRevisionGuard row (set row) ∧ LifecycleGuard row (set row) ∧
    RetirementGuard t.assignmentRevisions row (set row)) "P7.2 profile revision is immutable"
  ensure (((set row).state = .DRAFT ∨ (set row).state = .CANDIDATE) ↔ (set row).publishedAt = none)
    "adapter_profile_revisions_publication_state_time"
  ensure (catalog.refuses = false) "REFUSED"
  modify fun t =>
    { t with profileRevisions := updateWhere (·.id = row.id) set t.profileRevisions }
  ensure (rules.persisted (set row).content = true) "PersistedProfileRevisionSchema"
  return set row

def publishProfileRevisionInTransaction (profileId : Uuid) (revision : Nat)
    (input : ProfileMutationContext Uuid) : ProfileTx Uuid Json (ProfileRevision Uuid Json) := do
  let ctx ← parsed (context input)
  let row ← loadRevision profileId revision
  ensure (assertProfileRevisionTransition row.state .PUBLISHED = true)
    "INVALID_PROFILE_REVISION_TRANSITION"
  updateProfileRevision rules catalog row fun r =>
    { r with
      state := .PUBLISHED
      publishedAt := some catalog.now
      publishedByAdminPrincipalId := ctx.actorId }

/-- `Number.isInteger` and the bounds of a percentage. -/
def percentage (value : ℚ) (message : String) : ProfileTx Uuid Json Nat := do
  ensure (value.den = 1 ∧ 0 ≤ value ∧ value ≤ 10000) message
  return value.num.toNat

def startProfileRolloutInTransaction (assignmentId baseline candidate : Nat) (percentageBps : ℚ)
    (expected : Option Nat) (input : ProfileMutationContext Uuid) :
    ProfileTx Uuid Json (AssignmentRevision Uuid) := do
  let ctx ← parsed (context input)
  ensure (baseline ≠ candidate) "P7_ROLLOUT_TARGETS_MUST_DIFFER"
  let bps ← percentage percentageBps "P7_INVALID_ROLLOUT_PERCENTAGE"
  let assignment ← loadAssignment assignmentId
  let latest ← latestAssignmentRevision assignmentId
  checkExpected latest expected
  assertTargets rules catalog assignment.id [baseline, candidate]
  insertAssignmentRevision rules catalog assignment.id .ROLLOUT baseline (some candidate) bps ctx

def mutateAssignment {α : Type} (assignmentId : Nat) (expected : Option Nat)
    (c : ProfileMutationContext Uuid)
    (action : Assignment Uuid → Option (AssignmentRevision Uuid) → ProfileTx Uuid Json α) :
    ProfileTx Uuid Json α := do
  authorize catalog c
  let assignment ← loadAssignment assignmentId
  let latest ← latestAssignmentRevision assignmentId
  checkExpected latest expected
  action assignment latest

def transition (profileId : Uuid) (revision : Nat) (target : ProfileRevisionState)
    (ctx : ProfileMutationContext Uuid) : ProfileTx Uuid Json (ProfileRevision Uuid Json) := do
  authorize catalog ctx
  let row ← loadRevision profileId revision
  ensure (assertProfileRevisionTransition row.state target = true)
    "INVALID_PROFILE_REVISION_TRANSITION"
  if target = .CANDIDATE then
    let validated ← parsed (rules.validateProfileContent row.content.content row.content.compatibility)
    ensure (validated.contentSha256 = row.content.contentSha256)
      "P7_PROFILE_REVISION_FINGERPRINT_MISMATCH"
  updateProfileRevision rules catalog row fun r => { r with state := target }

/-- `AssignmentExpectedRevisionSchema.parse`, of a revision that has to be given. -/
def expectedRevision (expected : Option Nat) : ProfileTx Uuid Json Unit :=
  ensure (∃ revision ∈ expected, 0 < revision) "P7_ASSIGNMENT_EXPECTED_REVISION_REQUIRED"

def createDraftProfileRevision (profileId : Uuid) (content compatibility : Json)
    (input : ProfileMutationContext Uuid) : ProfileTx Uuid Json (ProfileRevision Uuid Json) := do
  let c ← parsed (context input)
  let validated ← parsed (rules.validateProfileContent content compatibility)
  authorize catalog c
  match catalog.profile profileId with
  | none => throw "P7_PROFILE_NOT_FOUND"
  | some p =>
    let t ← get
    let revision := ((t.profileRevisions.filter (·.profileId = profileId)).map
      (·.revision)).foldr max 0 + 1
    let row : ProfileRevision Uuid Json :=
      { id := t.profileRevisions.length
        profileId := profileId
        adapterId := p.adapterId
        surfaceId := p.surfaceId
        variantId := p.variantId
        revision := revision
        state := .DRAFT
        content := validated
        createdAt := catalog.now
        publishedAt := none
        createdByAdminPrincipalId := c.actorId
        publishedByAdminPrincipalId := none }
    ensure (catalog.refuses = false) "REFUSED"
    modify fun t => { t with profileRevisions := t.profileRevisions ++ [row] }
    ensure (rules.persisted validated = true) "PersistedProfileRevisionSchema"
    return row

def updateDraftProfileRevision (profileId : Uuid) (revision : Nat) (content compatibility : Json)
    (expectedContentSha256 : String) (input : ProfileMutationContext Uuid) :
    ProfileTx Uuid Json (ProfileRevision Uuid Json) := do
  let c ← parsed (context input)
  let validated ← parsed (rules.validateProfileContent content compatibility)
  ensure (Js.isSha256 expectedContentSha256 = true) "P7_INVALID_EXPECTED_FINGERPRINT"
  authorize catalog c
  let row ← loadRevision profileId revision
  ensure (row.state = .DRAFT) "P7_PROFILE_REVISION_NOT_DRAFT"
  ensure (row.content.contentSha256 = expectedContentSha256) "P7_STALE_DRAFT_UPDATE"
  updateProfileRevision rules catalog row fun r => { r with content := validated }

def createAssignmentScope (scope : AssignmentScope Uuid) (seed : CohortSeed)
    (input : ProfileMutationContext Uuid) : ProfileTx Uuid Json (Assignment Uuid) := do
  let c ← parsed (context input)
  authorize catalog c
  let t ← get
  let row : Assignment Uuid :=
    { scope with
      id := t.assignments.length
      cohortSeed := seed
      createdAt := catalog.now
      createdByAdminPrincipalId := c.actorId }
  ensure (ScopeGuard catalog scope) "P7.2 inactive assignment hierarchy"
  ensure (∀ other ∈ t.assignments, ¬ (other.adapterId = scope.adapterId ∧
    other.surfaceId = scope.surfaceId ∧ other.variantId = scope.variantId ∧
    other.browserFamily = scope.browserFamily)) "adapter_profile_assignments_scope_unique"
  ensure (catalog.refuses = false) "REFUSED"
  modify fun t => { t with assignments := t.assignments ++ [row] }
  return row

/-- An assignment of one profile revision, which a rollback is too. -/
def assignDirect (assignmentId baseline : Nat) (expected : Option Nat)
    (input : ProfileMutationContext Uuid) : ProfileTx Uuid Json (AssignmentRevision Uuid) := do
  let c ← parsed (context input)
  ensure (∀ revision ∈ expected, 0 < revision) "DirectAssignmentCommandSchema"
  mutateAssignment catalog assignmentId expected c fun a _ => do
    assertTargets rules catalog a.id [baseline]
    insertAssignmentRevision rules catalog a.id .DIRECT baseline none 0 c

def startRollout (assignmentId baseline candidate : Nat) (percentageBps : ℚ)
    (expected : Option Nat) (input : ProfileMutationContext Uuid) :
    ProfileTx Uuid Json (AssignmentRevision Uuid) := do
  let _ ← percentage percentageBps "RolloutCommandSchema"
  ensure (∀ revision ∈ expected, 0 < revision) "RolloutCommandSchema"
  let ctx ← parsed (context input)
  authorize catalog ctx
  startProfileRolloutInTransaction rules catalog assignmentId baseline candidate percentageBps
    expected ctx

def changeRolloutPercentage (assignmentId : Nat) (percentageBps : ℚ) (expected : Nat)
    (input : ProfileMutationContext Uuid) : ProfileTx Uuid Json (AssignmentRevision Uuid) := do
  let bps ← percentage percentageBps "ChangeRolloutPercentageCommandSchema"
  ensure (0 < expected) "ChangeRolloutPercentageCommandSchema"
  let c ← parsed (context input)
  mutateAssignment catalog assignmentId (some expected) c fun a latest => do
    match latest.filter (·.mode = .ROLLOUT) with
    | none => throw "P7_ROLLOUT_NOT_ACTIVE"
    | some latest =>
      insertAssignmentRevision rules catalog a.id .ROLLOUT latest.baselineProfileRevisionId
        latest.candidateProfileRevisionId bps c

def pauseProfileRollout (assignmentId : Nat) (expected : Option Nat)
    (input : ProfileMutationContext Uuid) : ProfileTx Uuid Json (AssignmentRevision Uuid) := do
  let c ← parsed (context input)
  expectedRevision expected
  mutateAssignment catalog assignmentId expected c fun a latest => do
    match latest.filter (·.mode = .ROLLOUT) with
    | none => throw "P7_ROLLOUT_NOT_ACTIVE"
    | some latest =>
      insertAssignmentRevision rules catalog a.id .PAUSED latest.baselineProfileRevisionId
        latest.candidateProfileRevisionId latest.percentageBps c

def resumeProfileRollout (assignmentId : Nat) (expected : Option Nat) (percentageBps : Option ℚ)
    (input : ProfileMutationContext Uuid) : ProfileTx Uuid Json (AssignmentRevision Uuid) := do
  let c ← parsed (context input)
  expectedRevision expected
  mutateAssignment catalog assignmentId expected c fun a latest => do
    match latest.filter fun row => row.mode = .PAUSED && row.candidateProfileRevisionId.isSome with
    | none => throw "P7_ROLLOUT_NOT_PAUSED"
    | some latest => do
      let bps ← percentage (percentageBps.getD latest.percentageBps) "P7_INVALID_ROLLOUT_PERCENTAGE"
      insertAssignmentRevision rules catalog a.id .ROLLOUT latest.baselineProfileRevisionId
        latest.candidateProfileRevisionId bps c

def completeRollout (assignmentId : Nat) (expected : Option Nat)
    (input : ProfileMutationContext Uuid) : ProfileTx Uuid Json (AssignmentRevision Uuid) := do
  let c ← parsed (context input)
  expectedRevision expected
  mutateAssignment catalog assignmentId expected c fun a latest => do
    match (latest.filter (·.mode = .ROLLOUT)).bind (·.candidateProfileRevisionId) with
    | none => throw "P7_ROLLOUT_NOT_ACTIVE"
    | some candidate => insertAssignmentRevision rules catalog a.id .DIRECT candidate none 0 c

def rollbackProfileAssignment (assignmentId profileRevisionId expected : Nat)
    (input : ProfileMutationContext Uuid) : ProfileTx Uuid Json (AssignmentRevision Uuid) := do
  ensure (0 < expected) "RollbackAssignmentCommandSchema"
  let c ← parsed (context input)
  mutateAssignment catalog assignmentId (some expected) c fun a _ => do
    assertTargets rules catalog a.id [profileRevisionId]
    insertAssignmentRevision rules catalog a.id .DIRECT profileRevisionId none 0 c

end Model

/-! The commands, one after the other. -/

/-- The commands on profiles and assignments. -/
inductive Command (Uuid Json : Type) where
  | createDraftProfileRevision (profileId : Uuid) (content compatibility : Json)
  | updateDraftProfileRevision (profileId : Uuid) (revision : Nat) (content compatibility : Json)
      (expectedContentSha256 : String)
  | markProfileRevisionCandidate (profileId : Uuid) (revision : Nat)
  | publishProfileRevision (profileId : Uuid) (revision : Nat)
  | retireProfileRevision (profileId : Uuid) (revision : Nat)
  | createAssignmentScope (scope : AssignmentScope Uuid) (seed : CohortSeed)
  | assignDirect (assignmentId baseline : Nat) (expected : Option Nat)
  | startRollout (assignmentId baseline candidate : Nat) (percentageBps : ℚ) (expected : Option Nat)
  | changeRolloutPercentage (assignmentId : Nat) (percentageBps : ℚ) (expected : Nat)
  | pauseProfileRollout (assignmentId : Nat) (expected : Option Nat)
  | resumeProfileRollout (assignmentId : Nat) (expected : Option Nat) (percentageBps : Option ℚ)
  | completeRollout (assignmentId : Nat) (expected : Option Nat)
  | rollbackProfileAssignment (assignmentId profileRevisionId expected : Nat)

/-- The row that a command returns. -/
inductive Written (Uuid Json : Type) where
  | profileRevision (row : ProfileRevision Uuid Json)
  | assignment (row : Assignment Uuid)
  | assignmentRevision (row : AssignmentRevision Uuid)

/-- A command, who sends it, and what it finds around the tables. -/
structure Step (Uuid Json : Type) where
  command : Command Uuid Json
  sender : ProfileMutationContext Uuid
  catalog : Catalog Uuid

section Run

variable {Uuid Json : Type} [DecidableEq Uuid] [DecidableEq Json] (rules : ContentRules Json)

def Step.execute (step : Step Uuid Json) : ProfileTx Uuid Json (Written Uuid Json) :=
  let ctx := step.sender
  match step.command with
  | .createDraftProfileRevision profileId content compatibility =>
    .profileRevision <$>
      createDraftProfileRevision rules step.catalog profileId content compatibility ctx
  | .updateDraftProfileRevision profileId revision content compatibility expected =>
    .profileRevision <$>
      updateDraftProfileRevision rules step.catalog profileId revision content compatibility expected
        ctx
  | .markProfileRevisionCandidate profileId revision => do
    let c ← parsed (context ctx)
    .profileRevision <$> transition rules step.catalog profileId revision .CANDIDATE c
  | .publishProfileRevision profileId revision => do
    let c ← parsed (context ctx)
    authorize step.catalog c
    .profileRevision <$> publishProfileRevisionInTransaction rules step.catalog profileId revision c
  | .retireProfileRevision profileId revision => do
    let c ← parsed (context ctx)
    .profileRevision <$> transition rules step.catalog profileId revision .RETIRED c
  | .createAssignmentScope scope seed =>
    .assignment <$> createAssignmentScope step.catalog scope seed ctx
  | .assignDirect assignmentId baseline expected =>
    .assignmentRevision <$> assignDirect rules step.catalog assignmentId baseline expected ctx
  | .startRollout assignmentId baseline candidate percentageBps expected =>
    .assignmentRevision <$>
      startRollout rules step.catalog assignmentId baseline candidate percentageBps expected ctx
  | .changeRolloutPercentage assignmentId percentageBps expected =>
    .assignmentRevision <$>
      changeRolloutPercentage rules step.catalog assignmentId percentageBps expected ctx
  | .pauseProfileRollout assignmentId expected =>
    .assignmentRevision <$> pauseProfileRollout rules step.catalog assignmentId expected ctx
  | .resumeProfileRollout assignmentId expected percentageBps =>
    .assignmentRevision <$>
      resumeProfileRollout rules step.catalog assignmentId expected percentageBps ctx
  | .completeRollout assignmentId expected =>
    .assignmentRevision <$> completeRollout rules step.catalog assignmentId expected ctx
  | .rollbackProfileAssignment assignmentId profileRevisionId expected =>
    .assignmentRevision <$>
      rollbackProfileAssignment rules step.catalog assignmentId profileRevisionId expected ctx

/-- The commands that go on with a rollout. -/
def Command.continuesRollout : Command Uuid Json → Bool
  | .changeRolloutPercentage _ _ _ => true
  | .pauseProfileRollout _ _ => true
  | .resumeProfileRollout _ _ _ => true
  | _ => false

def Command.completesRollout : Command Uuid Json → Bool
  | .completeRollout _ _ => true
  | _ => false

/-- A step that has been taken, and what it has answered. -/
structure Entry (Uuid Json : Type) where
  step : Step Uuid Json
  outcome : Except String (Written Uuid Json)

/-- One more step; what throws is rolled back. -/
def advance (acc : Tables Uuid Json × List (Entry Uuid Json)) (step : Step Uuid Json) :
    Tables Uuid Json × List (Entry Uuid Json) :=
  match step.execute rules acc.1 with
  | .ok (written, t) => (t, acc.2 ++ [⟨step, .ok written⟩])
  | .error message => (acc.1, acc.2 ++ [⟨step, .error message⟩])

def run (steps : List (Step Uuid Json)) : Tables Uuid Json × List (Entry Uuid Json) :=
  steps.foldl (advance rules) (⟨[], [], []⟩, [])

end Run

end SellerAgents.Profiles
