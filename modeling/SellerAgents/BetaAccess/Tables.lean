import SellerAgents.Relational.Table
import SellerAgents.Relational.Transaction

open Relational

namespace SellerAgents.BetaAccess

inductive BetaMode where
  | CLOSED
  | OPEN
  | PAUSED
deriving DecidableEq

inductive UserStatus where
  | ACTIVE
  | SUSPENDED
deriving DecidableEq

structure User where
  id : String
  status : UserStatus := .ACTIVE

/-- An `account_memberships` row, of the owner. -/
structure Membership where
  accountId : String
  userId : String
deriving DecidableEq

/-- A `user_identities` row of the e-mail provider. -/
structure UserIdentity where
  userId : String
  normalizedIdentifier : String
  verifiedAt : Int

/-- A code that was sent to an address. -/
structure OtpChallenge where
  id : String
  normalizedIdentityTarget : String
  verificationHash : String
  attemptCount : Nat := 0
  maxAttempts : Nat
  createdAt : Int
  expiresAt : Int
  consumedAt : Option Int := none
  invalidatedAt : Option Int := none
deriving DecidableEq

structure PortalSession where
  id : String
  userId : String
  sessionTokenHash : String
  expiresAt : Int
  revokedAt : Option Int := none

structure OtpVerifyReplay where
  challengeId : String
  idempotencyHash : String
  userId : String
  portalSessionId : String

structure RateLimitBucket where
  action : String
  keyHash : String
  windowStartedAt : Int
  count : Nat

/-- The row of `beta_admission_state`. -/
structure BetaAdmissionState where
  mode : BetaMode := .CLOSED
  capacity : Int := 0
  admitted : Nat := 0
  revision : Nat := 1
  updatedAt : Int := 0

/-- An admission of a user to the beta. -/
structure BetaAdmission where
  accountId : String
  userId : String
  admittedAt : Int

/-- A `beta_identity_invitations` row. -/
structure Invitation where
  id : String
  normalizedIdentityTarget : String
  createRequestIdHash : String
  createPayloadHash : String
  createdByAdminPrincipalId : String
  createdAt : Int
  expiresAt : Int
  consumedAt : Option Int := none
  consumedUserId : Option String := none
  revokedAt : Option Int := none
  revokedByAdminPrincipalId : Option String := none
  revokeRequestIdHash : Option String := none
  revokePayloadHash : Option String := none
deriving DecidableEq

inductive BetaAdminAction where
  | OPEN
  | PAUSE
  | CLOSE
  | ADD_CAPACITY
  | SET_CAPACITY

/-- A `beta_admission_mutations` row, with the states before and after. -/
structure BetaAdmissionMutation where
  requestIdHash : String
  payloadHash : String
  actorPrincipalId : String
  action : BetaAdminAction
  old : BetaAdmissionState
  new : BetaAdmissionState

/-- The tables of the admission. -/
structure AdmissionTables where
  users : List User := []
  accounts : List String := []
  memberships : List Membership := []
  identities : List UserIdentity := []
  state : BetaAdmissionState := {}
  invitations : List Invitation := []
  admissions : List BetaAdmission := []
  mutations : List BetaAdmissionMutation := []

/-- The database. `managers` are the admin principals whose grants carry `beta.admission.manage`,
and `time` is the database clock after the last transaction. -/
structure BetaDatabase : Type extends AdmissionTables where
  managers : List String := []
  buckets : List RateLimitBucket := []
  challenges : List OtpChallenge := []
  sessions : List PortalSession := []
  replays : List OtpVerifyReplay := []
  time : Int := 0

/-- The database clock in one transaction, in milliseconds as the clocks of its callers: `now()` is
its start, and `reading k` is `clock_timestamp()` in its k-th statement that asks for it, at each
row. -/
structure TxClock where
  start : Int
  reading : Nat → String → Int
  stop : Int
  start_le : ∀ k id, start ≤ reading k id
  le_stop : ∀ k id, reading k id ≤ stop
  mono : ∀ k id id', reading k id ≤ reading (k + 1) id'

/-- A transaction in which the clock stands still. -/
def TxClock.still (t : Int) : TxClock where
  start := t
  reading _ _ := t
  stop := t
  start_le _ _ := Int.le_refl t
  le_stop _ _ := Int.le_refl t
  mono _ _ _ := Int.le_refl t

theorem TxClock.start_le_stop (clock : TxClock) : clock.start ≤ clock.stop :=
  Int.le_trans (clock.start_le 0 "") (clock.le_stop 0 "")

/-- `consumed_at IS NULL AND revoked_at IS NULL AND expires_at>…`. -/
def Invitation.activeAt (row : Invitation) (t : Int) : Bool :=
  row.consumedAt.isNone && row.revokedAt.isNone && t < row.expiresAt

theorem Invitation.activeAt_mono {row : Invitation} {t t' : Int} (h : row.activeAt t' = true)
    (hle : t ≤ t') : row.activeAt t = true := by
  simp only [activeAt, Bool.and_eq_true, decide_eq_true_eq] at h ⊢
  exact ⟨h.1, Int.lt_of_le_of_lt hle h.2⟩

/-- `activeInvitationCount`. -/
def AdmissionTables.activeInvitationCount (tables : AdmissionTables) (reading : String → Int) :
    Nat :=
  tables.invitations.countP fun row => row.activeAt (reading row.id)

/-- The active invitations at one time. -/
def AdmissionTables.activeInvitations (tables : AdmissionTables) (t : Int) : Nat :=
  tables.activeInvitationCount fun _ => t

/-- Time only takes invitations away. -/
theorem activeInvitations_le (tables : AdmissionTables) {reading : String → Int} {t : Int}
    (h : ∀ id, reading id ≤ t) :
    tables.activeInvitations t ≤ tables.activeInvitationCount reading :=
  List.countP_mono_left fun row _ hactive => row.activeAt_mono hactive (h row.id)

end SellerAgents.BetaAccess
