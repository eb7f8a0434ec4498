import SellerAgents.BetaAccess.Admission

open Relational

namespace SellerAgents.BetaAccess

inductive AuthCode where
  | AUTH_RATE_LIMITED
  | AUTH_OTP_INVALID
  | BETA_CLOSED
  | BETA_CAPACITY_REACHED
  | AUTH_LOGIN_DENIED

/-- `AuthResult`: a value or a code. -/
abbrev AuthResult (α : Type) : Type := Except AuthCode α

/-! Rate limits. -/

def windowMs : Int := 15 * 60000

/-- The window that the application clock is in. -/
def windowAt (now : Int) : Int := now / windowMs * windowMs

/-- The count that `consume` writes for a key. -/
def BetaDatabase.consumedCount (db : BetaDatabase) (action key : String) (now : Int) : Nat :=
  match db.buckets.find? fun row => row.action = action && row.keyHash = key with
  | none => 1
  | some bucket =>
    if bucket.windowStartedAt = windowAt now then min (bucket.count + 1) 1000000 else 1

def upsertBucket (row : RateLimitBucket) (buckets : List RateLimitBucket) : List RateLimitBucket :=
  if buckets.any fun old => old.action = row.action && old.keyHash = row.keyHash then
    updateWhere (fun old => old.action = row.action && old.keyHash = row.keyHash) (fun _ => row)
      buckets
  else buckets ++ [row]

def consume (action key : String) (limit : Nat) (now : Int) : Tx BetaDatabase Bool := do
  let db ← get
  let count := db.consumedCount action key now
  modify fun db => { db with
    buckets := upsertBucket ⟨action, key, windowAt now, count⟩ db.buckets }
  return count ≤ limit

/-! `requestOtp`. -/

structure RequestOtpInput where
  challengeId : String
  email : String
  targetKey : String
  ipKey : String
  verificationHash : String
  expiresAt : Int
  now : Int

/-- An unused sign-in challenge of an e-mail address. -/
def OtpChallenge.pending (c : OtpChallenge) (email : String) : Bool :=
  c.normalizedIdentityTarget = email && c.consumedAt.isNone && c.invalidatedAt.isNone

def requestOtp (input : RequestOtpInput) (clock : TxClock) :
    Tx BetaDatabase (AuthResult String) := do
  let target ← consume "OTP_REQUEST_TARGET" input.targetKey 3 input.now
  let ip ← consume "OTP_REQUEST_IP" input.ipKey 20 input.now
  let db ← get
  let cooldown := db.challenges.any fun c =>
    c.pending input.email && input.now - 60000 < c.createdAt
  if !target || !ip || cooldown then return .error .AUTH_RATE_LIMITED
  else
    let row : OtpChallenge :=
      { id := input.challengeId
        normalizedIdentityTarget := input.email
        verificationHash := input.verificationHash
        maxAttempts := 5
        createdAt := clock.start
        expiresAt := input.expiresAt }
    ensure (Fresh (fun c => some c.id) row db.challenges) "otp_challenges_pkey"
    modify fun db => { db with
      challenges := updateWhere (·.pending input.email)
        (fun c => { c with invalidatedAt := some input.now }) db.challenges ++ [row] }
    return .ok input.challengeId

/-! `verifyOtp`. -/

/-- The request of `verifyOtp`, with the ids it draws and its readings of the application clock. -/
structure VerifyOtpInput where
  challengeId : String
  ipKey : String
  idempotencyHash : String
  sessionHash : String
  expiresAt : Int
  verify : String → String → Bool
  now : Int
  admissionNow : Int
  userId : String
  accountId : String
  sessionId : String

/-- The answer to the replay of a verified code. -/
def verifyReplay (db : BetaDatabase) (c : OtpChallenge) (input : VerifyOtpInput)
    (clock : TxClock) : AuthResult Int :=
  if !input.verify c.normalizedIdentityTarget c.verificationHash then .error .AUTH_OTP_INVALID
  else
    match db.replays.find? fun r =>
        r.challengeId = c.id && r.idempotencyHash = input.idempotencyHash with
    | none => .error .AUTH_OTP_INVALID
    | some replay =>
      match db.sessions.find? fun s =>
          s.id = replay.portalSessionId && s.revokedAt.isNone && clock.start < s.expiresAt with
      | none => .error .AUTH_OTP_INVALID
      | some session =>
        if db.users.any fun u => u.id = replay.userId && u.status = .ACTIVE then
          .ok session.expiresAt
        else .error .AUTH_OTP_INVALID

/-- The active invitations of a first-time identity. -/
def AdmissionTables.invitationsOf (tables : AdmissionTables) (target : String)
    (reading : String → Int) : List Invitation :=
  tables.invitations.filter fun row =>
    row.normalizedIdentityTarget = target && row.activeAt (reading row.id)

/-- What keeps a first-time identity out. -/
def admissionRefusal (tables : AdmissionTables) (invited : Option Invitation) (clock : TxClock) :
    Option AuthCode :=
  let state := tables.state
  if state.mode = .PAUSED || (state.mode = .CLOSED && invited.isNone) then some .BETA_CLOSED
  else if invited.isSome then
    if state.capacity ≤ state.admitted then some .BETA_CAPACITY_REACHED else none
  else if state.capacity ≤ state.admitted + tables.activeInvitationCount (clock.reading 1) then
    some .BETA_CAPACITY_REACHED
  else none

/-- The inserts of a first sign-in. -/
def insertAdmitted (target : String) (input : VerifyOtpInput) : Tx BetaDatabase Unit := do
  let db ← get
  let user : User := { id := input.userId }
  let membership : Membership := ⟨input.accountId, input.userId⟩
  let identity : UserIdentity := ⟨input.userId, target, input.admissionNow⟩
  let admission : BetaAdmission := ⟨input.accountId, input.userId, input.admissionNow⟩
  ensure (Fresh (fun u => some u.id) user db.users) "users_pkey"
  ensure (input.accountId ∉ db.accounts) "accounts_pkey"
  ensure (Fresh some membership db.memberships) "account_memberships_account_user_unique"
  ensure (Fresh (fun i => some i.normalizedIdentifier) identity db.identities)
    "user_identities_provider_normalized_identifier_unique"
  ensure (Fresh (fun a => some a.accountId) admission db.admissions)
    "beta_admissions_account_unique"
  ensure (Fresh (fun a => some a.userId) admission db.admissions) "beta_admissions_user_unique"
  modify fun db => { db with
    users := db.users ++ [user]
    accounts := db.accounts ++ [input.accountId]
    memberships := db.memberships ++ [membership]
    identities := db.identities ++ [identity]
    admissions := db.admissions ++ [admission] }

/-- `UPDATE beta_admission_state SET admitted=admitted+1 … WHERE id=1 AND admitted<capacity`. -/
def countAdmitted (admissionNow : Int) : Tx BetaDatabase Unit := do
  let db ← get
  ensure (db.state.admitted < db.state.capacity) "beta admission state changed unexpectedly"
  modify fun db => { db with
    state := { db.state with admitted := db.state.admitted + 1, updatedAt := admissionNow } }

/-- The update that consumes the invitation of a first sign-in. -/
def consumeInvitation (invited : Option Invitation) (userId : String) (clock : TxClock) :
    Tx BetaDatabase Unit := do
  match invited with
  | none => return ()
  | some row =>
    let now := clock.reading 2 row.id
    ensure (row.activeAt now = true) "beta identity invitation changed unexpectedly"
    modify fun db => { db with
      invitations := updateWhere (·.id = row.id)
        (fun r => { r with consumedAt := some now, consumedUserId := some userId }) db.invitations }

/-- The admission of a first-time identity. -/
def admitIdentity (target : String) (input : VerifyOtpInput) (clock : TxClock) :
    Tx BetaDatabase (AuthResult String) := do
  let db ← get
  let invitations := db.invitationsOf target (clock.reading 0)
  ensure (invitations.length ≤ 1) "multiple active beta identity invitations"
  match admissionRefusal db.toAdmissionTables invitations.head? clock with
  | some code => return .error code
  | none =>
    insertAdmitted target input
    countAdmitted input.admissionNow
    consumeInvitation invitations.head? input.userId clock
    return .ok input.userId

/-- The user of a proven identity: a known one, or a new one that is admitted. -/
def signedIn (target : String) (input : VerifyOtpInput) (clock : TxClock) :
    Tx BetaDatabase (AuthResult String) := do
  let db ← get
  match db.identities.find? (·.normalizedIdentifier = target) with
  | none => admitIdentity target input clock
  | some identity =>
    if db.users.any fun u => u.id = identity.userId && u.status = .SUSPENDED then
      return .error .AUTH_LOGIN_DENIED
    else return .ok identity.userId

def openSession (c : OtpChallenge) (userId : String) (input : VerifyOtpInput) :
    Tx BetaDatabase (AuthResult Int) := do
  let db ← get
  let session : PortalSession := ⟨input.sessionId, userId, input.sessionHash, input.expiresAt, none⟩
  let replay : OtpVerifyReplay := ⟨c.id, input.idempotencyHash, userId, input.sessionId⟩
  ensure (Fresh (fun s => some s.id) session db.sessions) "portal_sessions_pkey"
  ensure (Fresh (fun s => some s.sessionTokenHash) session db.sessions)
    "portal_sessions_session_token_hash_unique"
  ensure (Fresh (fun r => some r.challengeId) replay db.replays)
    "otp_verify_replays_challenge_unique"
  modify fun db => { db with
    sessions := db.sessions ++ [session]
    replays := db.replays ++ [replay] }
  return .ok input.expiresAt

/-- An update of the challenge. -/
def updateChallenge (id : String) (set : OtpChallenge → OtpChallenge) : Tx BetaDatabase Unit :=
  modify fun db => { db with challenges := updateWhere (·.id = id) set db.challenges }

/-- A challenge that takes no code. -/
def OtpChallenge.spent (c : OtpChallenge) (now : Int) : Bool :=
  c.invalidatedAt.isSome || c.expiresAt ≤ now || c.maxAttempts ≤ c.attemptCount

/-- The sign-in with a proven code. -/
def proven (c : OtpChallenge) (input : VerifyOtpInput) (clock : TxClock) :
    Tx BetaDatabase (AuthResult Int) := do
  updateChallenge c.id fun row => { row with consumedAt := some input.now }
  let user ← signedIn c.normalizedIdentityTarget input clock
  match user with
  | .error code => return .error code
  | .ok userId => openSession c userId input

def verifyOtp (input : VerifyOtpInput) (clock : TxClock) : Tx BetaDatabase (AuthResult Int) := do
  let allowed ← consume "OTP_VERIFY_IP" input.ipKey 30 input.now
  if !allowed then return .error .AUTH_RATE_LIMITED
  else
    let db ← get
    match db.challenges.find? (·.id = input.challengeId) with
    | none => return .error .AUTH_OTP_INVALID
    | some c =>
      if c.consumedAt.isSome then return verifyReplay db c input clock
      else if c.spent input.now then return .error .AUTH_OTP_INVALID
      else if !input.verify c.normalizedIdentityTarget c.verificationHash then
        updateChallenge c.id fun row =>
          { row with attemptCount := min (row.attemptCount + 1) row.maxAttempts }
        return .error .AUTH_OTP_INVALID
      else proven c input clock

/-! Runs. -/

/-- The transactions of the beta and of the sign-in. -/
inductive BetaStep where
  | requestOtp (input : RequestOtpInput) (clock : TxClock)
  | verifyOtp (input : VerifyOtpInput) (clock : TxClock)
  | inviteIdentity (input : InviteInput) (clock : TxClock)
  | revokeIdentityInvitation (input : RevokeInput) (clock : TxClock)
  | mutate (input : MutateInput) (clock : TxClock)
  /-- The grants of the admin principals change. -/
  | grants (managers : List String)
  /-- An admin suspends or restores a user. -/
  | userStatus (userId : String) (status : UserStatus)

/-- A transaction that begins no earlier than the last one ended, and what it leaves. -/
def BetaDatabase.transact {α : Type} (db : BetaDatabase) (x : Tx BetaDatabase α)
    (clock : TxClock) : BetaDatabase :=
  if clock.start < db.time then db else { commit x db with time := clock.stop }

def BetaStep.next (step : BetaStep) (db : BetaDatabase) : BetaDatabase :=
  match step with
  | .requestOtp input clock => db.transact (BetaAccess.requestOtp input clock) clock
  | .verifyOtp input clock => db.transact (BetaAccess.verifyOtp input clock) clock
  | .inviteIdentity input clock => db.transact (BetaAccess.inviteIdentity input clock) clock
  | .revokeIdentityInvitation input clock =>
    db.transact (BetaAccess.revokeIdentityInvitation input clock) clock
  | .mutate input clock => db.transact (BetaAccess.mutate input clock) clock
  | .grants managers => { db with managers }
  | .userStatus userId status =>
    { db with users := updateWhere (·.id = userId) (fun u => { u with status }) db.users }

def run (db : BetaDatabase) (steps : List BetaStep) : BetaDatabase :=
  steps.foldl (fun db step => step.next db) db

end SellerAgents.BetaAccess
