import SellerAgents.BetaAccess.Laws

open Relational

namespace SellerAgents.BetaAccess

variable {tables tables' : AdmissionTables} {clock : TxClock} {db : BetaDatabase} {t : Int}

/-! The promise to the invited. -/

/-- The request proves the code of the challenge. -/
structure Proves (db : BetaDatabase) (input : VerifyOtpInput) (c : OtpChallenge) : Prop where
  allowed : db.consumedCount "OTP_VERIFY_IP" input.ipKey input.now ≤ 30
  found : db.challenges.find? (·.id = input.challengeId) = some c
  unconsumed : c.consumedAt = none
  live : c.spent input.now = false
  verified : input.verify c.normalizedIdentityTarget c.verificationHash = true

/-- The ids and the session token that the request draws are not in use. -/
structure FreshDraws (db : BetaDatabase) (input : VerifyOtpInput) : Prop where
  user : ∀ u ∈ db.users, u.id ≠ input.userId
  account : input.accountId ∉ db.accounts
  session : ∀ s ∈ db.sessions, s.id ≠ input.sessionId ∧ s.sessionTokenHash ≠ input.sessionHash

variable {row : Invitation} {α : Type} {input : VerifyOtpInput}

theorem fresh_of_ne {rows : List α} {row : α} (key : α → String) (h : ∀ r ∈ rows, key r ≠ key row) :
    Fresh (fun r => some (key r)) row rows :=
  fun r hr => .inr fun hsame => h r hr (Option.some.inj hsame)

theorem consume_ok {action key : String} {limit : Nat} {now : Int}
    (h : db.consumedCount action key now ≤ limit) :
    ∃ buckets, consume action key limit now db = .ok (true, { db with buckets }) := by
  refine ⟨upsertBucket ⟨action, key, windowAt now, db.consumedCount action key now⟩ db.buckets, ?_⟩
  unfold consume
  rw [get_bind, modify_bind, decide_eq_true h]
  rfl

theorem insertAdmitted_ok {target : String} (h : Admits db.toAdmissionTables t)
    (hnew : ∀ i ∈ db.identities, i.normalizedIdentifier ≠ target) (hfresh : FreshDraws db input) :
    insertAdmitted target input db = .ok ((), { db with
      users := db.users ++ [{ id := input.userId }]
      accounts := db.accounts ++ [input.accountId]
      memberships := db.memberships ++ [⟨input.accountId, input.userId⟩]
      identities := db.identities ++ [⟨input.userId, target, input.admissionNow⟩]
      admissions := db.admissions ++
        [⟨input.accountId, input.userId, input.admissionNow⟩] }) := by
  unfold insertAdmitted
  rw [get_bind, ensure_bind (fresh_of_ne User.id hfresh.user), ensure_bind hfresh.account, ensure_bind,
    ensure_bind (fresh_of_ne UserIdentity.normalizedIdentifier hnew),
    ensure_bind (fresh_of_ne BetaAdmission.accountId fun a ha hsame => ?_),
    ensure_bind (fresh_of_ne BetaAdmission.userId fun a ha hsame => ?_)]
  · rfl
  · obtain ⟨u, hu, hid⟩ := (h.beta a ha).1
    exact hfresh.user u hu (hid.trans hsame)
  · have hmem := (h.beta a ha).2
    rw [hsame] at hmem
    exact hfresh.account hmem
  · intro m hm
    refine .inr fun hsame => ?_
    have hmem := (h.members m hm).2
    rw [Option.some.inj hsame] at hmem
    exact hfresh.account hmem

/-- The invitation that an identity holds is the only one. -/
theorem Admits.invitationsOf_eq (h : Admits tables clock.start) (hrow : row ∈ tables.invitations)
    (hactive : row.activeAt clock.stop = true) (k : Nat) :
    tables.invitationsOf row.normalizedIdentityTarget (clock.reading k) = [row] := by
  have hmem : row ∈ tables.invitationsOf row.normalizedIdentityTarget (clock.reading k) :=
    mem_invitationsOf.mpr ⟨hrow, rfl, row.activeAt_mono hactive (clock.le_stop k row.id)⟩
  have hall : ∀ other ∈ tables.invitationsOf row.normalizedIdentityTarget (clock.reading k),
      other = row := by
    intro other hother
    obtain ⟨hother, hsame, hother'⟩ := mem_invitationsOf.mp hother
    refine h.unique_id hother hrow (h.single other hother row hrow ?_ ?_ hsame)
    · exact other.activeAt_mono hother' (clock.start_le k other.id)
    · exact row.activeAt_mono hactive clock.start_le_stop
  have hpairwise : (tables.invitationsOf row.normalizedIdentityTarget (clock.reading k)).Pairwise
      fun a b => some a.id = none ∨ some a.id ≠ some b.id := List.Pairwise.filter _ h.ids
  cases hlist : tables.invitationsOf row.normalizedIdentityTarget (clock.reading k) with
  | nil => simp [hlist] at hmem
  | cons first rest =>
    rw [hlist] at hall hpairwise
    cases rest with
    | nil => rw [hall first List.mem_cons_self]
    | cons second rest =>
      have hfirst := hall first List.mem_cons_self
      have hsecond := hall second (List.mem_cons_of_mem _ List.mem_cons_self)
      have hne := (List.pairwise_cons.mp hpairwise).1 second List.mem_cons_self
      simp [hfirst, hsecond] at hne

/-- Nothing keeps an invited identity out unless the admission is paused. -/
theorem admissionRefusal_invited (h : Admits tables clock.start) (hrow : row ∈ tables.invitations)
    (hactive : row.activeAt clock.stop = true) (hmode : tables.state.mode ≠ .PAUSED) :
    admissionRefusal tables (some row) clock = none := by
  have hreserved : 0 < tables.activeInvitations clock.start :=
    List.countP_pos_iff.mpr ⟨row, hrow, row.activeAt_mono hactive clock.start_le_stop⟩
  have hroom := h.room
  have hfree : ¬ tables.state.capacity ≤ tables.state.admitted := by omega
  simp [admissionRefusal, hmode, hfree]

theorem admitIdentity_ok (db : BetaDatabase) (input : VerifyOtpInput) (clock : TxClock)
    (h : Admits db.toAdmissionTables clock.start) (hfresh : FreshDraws db input)
    (hrow : row ∈ db.invitations) (hactive : row.activeAt clock.stop = true)
    (hmode : db.state.mode ≠ .PAUSED) :
    admitIdentity row.normalizedIdentityTarget input clock db = .ok (.ok input.userId, { db with
      toAdmissionTables := db.toAdmissionTables.withAdmitted row.normalizedIdentityTarget input
        (some row) clock }) := by
  have hlist := h.invitationsOf_eq hrow hactive 0
  have hone : (db.invitationsOf row.normalizedIdentityTarget (clock.reading 0)).length ≤ 1 := by
    rw [hlist]
    exact Nat.le_refl 1
  have hactive' := row.activeAt_mono hactive (clock.le_stop 2 row.id)
  have hreserved := h.reserved row hrow (row.activeAt_mono hactive clock.start_le_stop)
  have hpos : 0 < db.activeInvitations clock.start :=
    List.countP_pos_iff.mpr ⟨row, hrow, row.activeAt_mono hactive clock.start_le_stop⟩
  have hroom := h.room
  have hfree : (db.state.admitted : Int) < db.state.capacity := by omega
  unfold admitIdentity
  rw [get_bind]
  simp only [hlist, List.head?_cons, admissionRefusal_invited h hrow hactive hmode]
  rw [ensure_bind hone, ok_bind (insertAdmitted_ok h hreserved hfresh)]
  unfold countAdmitted consumeInvitation
  simp only [bind_assoc]
  rw [get_bind, ensure_bind hfree, modify_bind, ensure_bind hactive', modify_bind]
  rfl

theorem openSession_ok (db : BetaDatabase) (c : OtpChallenge) (userId : String)
    (hsession : ∀ s ∈ db.sessions, s.id ≠ input.sessionId ∧ s.sessionTokenHash ≠ input.sessionHash)
    (hreplay : ∀ r ∈ db.replays, r.challengeId ≠ c.id) :
    openSession c userId input db = .ok (.ok input.expiresAt, { db with
      sessions := db.sessions ++ [⟨input.sessionId, userId, input.sessionHash, input.expiresAt, none⟩]
      replays := db.replays ++ [⟨c.id, input.idempotencyHash, userId, input.sessionId⟩] }) := by
  unfold openSession
  rw [get_bind, ensure_bind (fresh_of_ne PortalSession.id fun s hs => (hsession s hs).1),
    ensure_bind (fresh_of_ne PortalSession.sessionTokenHash fun s hs => (hsession s hs).2),
    ensure_bind (fresh_of_ne OtpVerifyReplay.challengeId hreplay), modify_bind]
  rfl

/-- A person who holds an active invitation and proves the code is admitted. -/
theorem verifyOtp_invited {c : OtpChallenge} (hs : Sound db) (hstart : db.time ≤ clock.start)
    (hproves : Proves db input c) (hfresh : FreshDraws db input) (hrow : row ∈ db.invitations)
    (htarget : row.normalizedIdentityTarget = c.normalizedIdentityTarget)
    (hactive : row.activeAt clock.stop = true) (hmode : db.state.mode ≠ .PAUSED) :
    ∃ db', verifyOtp input clock db = .ok (.ok input.expiresAt, db') ∧
      db'.toAdmissionTables = db.toAdmissionTables.withAdmitted c.normalizedIdentityTarget input
        (some row) clock := by
  have hadmits := hs.admits.later hstart
  have hreserved := hadmits.reserved row hrow (row.activeAt_mono hactive clock.start_le_stop)
  have hreplay : ∀ r ∈ db.replays, r.challengeId ≠ c.id := by
    intro r hr hsame
    obtain ⟨other, hother, hid, hconsumed⟩ := hs.proven.consumed r hr
    have hmem := List.mem_of_find?_eq_some hproves.found
    have heq := hs.proven.ids.eq_of_key hother hmem rfl (congrArg some (hid.trans hsame).symm)
    rw [heq, hproves.unconsumed] at hconsumed
    cases hconsumed
  have hnone : db.identities.find? (·.normalizedIdentifier = c.normalizedIdentityTarget) = none := by
    refine List.find?_eq_none.mpr fun i hi hsame => ?_
    exact hreserved i hi ((of_decide_eq_true hsame).trans htarget.symm)
  obtain ⟨buckets, hconsume⟩ := consume_ok hproves.allowed
  let challenges := updateWhere (·.id = c.id) (fun row => { row with
    consumedAt := some input.now }) db.challenges
  have hadmit := admitIdentity_ok { db with buckets, challenges } input clock hadmits
    ⟨hfresh.user, hfresh.account, hfresh.session⟩ hrow hactive hmode
  rw [htarget] at hadmit
  have hsigned : signedIn c.normalizedIdentityTarget input clock { db with buckets, challenges } =
      .ok (.ok input.userId, { db with
        buckets, challenges
        toAdmissionTables := db.toAdmissionTables.withAdmitted c.normalizedIdentityTarget input
          (some row) clock }) := by
    unfold signedIn
    rw [get_bind]
    simp only [hnone]
    exact hadmit
  let db' : BetaDatabase := { db with
    buckets, challenges
    toAdmissionTables := db.toAdmissionTables.withAdmitted c.normalizedIdentityTarget input
      (some row) clock }
  have hopen := openSession_ok db' c input.userId hfresh.session hreplay
  refine ⟨{ db' with
    sessions := db.sessions ++
      [⟨input.sessionId, input.userId, input.sessionHash, input.expiresAt, none⟩]
    replays := db.replays ++ [⟨c.id, input.idempotencyHash, input.userId, input.sessionId⟩] },
    ?_, rfl⟩
  unfold verifyOtp
  rw [ok_bind hconsume]
  simp only [Bool.not_true, Bool.false_eq_true, if_false]
  rw [get_bind]
  simp only [hproves.found, hproves.unconsumed, hproves.live, hproves.verified,
    Option.isSome_none, Bool.not_true, Bool.false_eq_true, if_false]
  unfold proven updateChallenge
  rw [modify_bind, ok_bind hsigned]
  exact hopen

/-! Admin requests. -/

/-- An admin request, by the hash that its transaction looks for. -/
inductive AdminRequest where
  | invite (requestIdHash : String)
  | revoke (requestIdHash : String)
  | mutate (requestIdHash : String)

def BetaStep.request : BetaStep → Option AdminRequest
  | .inviteIdentity input _ => some (.invite input.requestIdHash)
  | .revokeIdentityInvitation input _ => some (.revoke input.requestIdHash)
  | .mutate input _ => some (.mutate input.requestIdHash)
  | _ => none

def BetaResult.applied {α : Type} : BetaResult α → Bool
  | .APPLIED _ _ => true
  | .refused _ => false

/-- Whether a transaction that is admitted by the clock answers `APPLIED`. -/
def BetaDatabase.answersApplied {α : Type} (db : BetaDatabase) (x : Tx BetaDatabase (BetaResult α))
    (clock : TxClock) : Bool :=
  if clock.start < db.time then false
  else
    match x db with
    | .ok (answer, _) => answer.applied
    | .error _ => false

/-- Whether an administrator's step is answered as applied. -/
def BetaStep.applied (step : BetaStep) (db : BetaDatabase) : Bool :=
  match step with
  | .inviteIdentity input clock => db.answersApplied (BetaAccess.inviteIdentity input clock) clock
  | .revokeIdentityInvitation input clock =>
    db.answersApplied (BetaAccess.revokeIdentityInvitation input clock) clock
  | .mutate input clock => db.answersApplied (BetaAccess.mutate input clock) clock
  | _ => false

/-- The tables hold what the request did. -/
def AdminRequest.Settled (request : AdminRequest) (tables : AdmissionTables) : Prop :=
  match request with
  | .invite hash => ∃ row ∈ tables.invitations, row.createRequestIdHash = hash
  | .revoke hash => ∃ row ∈ tables.invitations, row.revokeRequestIdHash = some hash
  | .mutate hash => ∃ row ∈ tables.mutations, row.requestIdHash = hash

variable {request : AdminRequest}

/-- What a request did is never lost. -/
theorem AdminRequest.Settled.later (h : request.Settled tables) (ha : Admits tables t)
    (hp : Progress tables tables') : request.Settled tables' := by
  cases request with
  | invite hash =>
    obtain ⟨row, hrow, hhash⟩ := h
    obtain ⟨row', hrow', -, hhash'⟩ := hp.requested row hrow
    exact ⟨row', hrow', hhash'.trans hhash⟩
  | revoke hash =>
    obtain ⟨row, hrow, hhash⟩ := h
    have hrevoked := ha.revokedShape row hrow (by simp [hhash])
    exact ⟨row, hp.spent row hrow (.inr hrevoked), hhash⟩
  | mutate hash =>
    obtain ⟨row, hrow, hhash⟩ := h
    exact ⟨row, hp.mutations row hrow, hhash⟩

theorem transact_applied {x : Tx BetaDatabase (BetaResult α)} {P : AdmissionTables → Prop}
    (hx : Commits x db fun answer db' => ∀ value replay, answer = .APPLIED value replay →
      P db'.toAdmissionTables) (h : db.answersApplied x clock = true) :
    P (db.transact x clock).toAdmissionTables := by
  unfold BetaDatabase.answersApplied at h
  unfold BetaDatabase.transact commit
  unfold Commits at hx
  split at h
  · cases h
  rename_i hstart
  simp only [if_neg hstart]
  cases hrun : x db with
  | error fault => simp [hrun] at h
  | ok result =>
    obtain ⟨answer, db'⟩ := result
    rw [hrun] at hx h
    cases answer with
    | APPLIED value replay => exact hx (.APPLIED value replay) db' rfl value replay rfl
    | refused kind => cases h

/-- A request that answered `APPLIED` is settled. -/
theorem BetaStep.settles {step : BetaStep} (hrequest : step.request = some request)
    (happlied : step.applied db = true) :
    request.Settled (step.next db).toAdmissionTables := by
  cases step with
  | inviteIdentity input clock =>
    cases hrequest
    exact transact_applied (P := (AdminRequest.invite input.requestIdHash).Settled)
      (inviteIdentity_applied input) happlied
  | revokeIdentityInvitation input clock =>
    cases hrequest
    exact transact_applied (P := (AdminRequest.revoke input.requestIdHash).Settled)
      (revokeIdentityInvitation_applied input) happlied
  | mutate input clock =>
    cases hrequest
    exact transact_applied (P := (AdminRequest.mutate input.requestIdHash).Settled)
      (mutate_applied input) happlied
  | _ => cases hrequest

theorem transact_settled {x : Tx BetaDatabase α} (hx : Commits x db fun _ db' => db' = db) :
    ∃ t, db.transact x clock = { db with time := t } := by
  unfold BetaDatabase.transact
  split
  · exact ⟨db.time, rfl⟩
  · have hsame : commit x db = db := commit_induct (P := (· = db)) rfl hx
    rw [hsame]
    exact ⟨clock.stop, rfl⟩

/-- A settled request changes nothing again. -/
theorem BetaStep.settled {step : BetaStep} (hrequest : step.request = some request)
    (hsettled : request.Settled db.toAdmissionTables) :
    ∃ t, step.next db = { db with time := t } := by
  cases step with
  | inviteIdentity input clock =>
    cases hrequest
    exact transact_settled (inviteIdentity_settled input hsettled)
  | revokeIdentityInvitation input clock =>
    cases hrequest
    exact transact_settled (revokeIdentityInvitation_settled input hsettled)
  | mutate input clock =>
    cases hrequest
    exact transact_settled (mutate_settled input hsettled)
  | _ => cases hrequest

theorem run_append (steps later : List BetaStep) : run db (steps ++ later) = run (run db steps) later :=
  List.foldl_append

/-- The admission after any run: it never oversells, keeps what it granted, admits the invited and
applies no admin request twice. -/
structure AdmissionLaws (steps later : List BetaStep) : Prop where
  admits : ∀ t, (run {} steps).time ≤ t → Admits (run {} steps).toAdmissionTables t
  progress : Progress (run {} steps).toAdmissionTables (run {} (steps ++ later)).toAdmissionTables
  invited : ∀ (input : VerifyOtpInput) (clock : TxClock) (c : OtpChallenge) (row : Invitation),
    (run {} steps).time ≤ clock.start → Proves (run {} steps) input c →
    FreshDraws (run {} steps) input → row ∈ (run {} steps).invitations →
    row.normalizedIdentityTarget = c.normalizedIdentityTarget → row.activeAt clock.stop = true →
    (run {} steps).state.mode ≠ .PAUSED →
    ∃ db', verifyOtp input clock (run {} steps) = .ok (.ok input.expiresAt, db') ∧
      db'.toAdmissionTables = (run {} steps).toAdmissionTables.withAdmitted
        c.normalizedIdentityTarget input (some row) clock
  replays : ∀ (step again : BetaStep) (request : AdminRequest), step.request = some request →
    again.request = some request → step.applied (run {} steps) = true →
    ∃ t, again.next (run {} (steps ++ step :: later)) =
      { run {} (steps ++ step :: later) with time := t }

/-- The admission keeps its promises in every run of its transactions. -/
theorem admission_laws (steps later : List BetaStep) : AdmissionLaws steps later := by
  obtain ⟨hs, -⟩ := run_sound steps sound_empty
  refine ⟨fun t ht => hs.admits.later ht, ?_, ?_, ?_⟩
  · rw [run_append]
    exact (run_sound later hs).2
  · intro input clock c row hstart hproves hfresh hrow htarget hactive hmode
    exact verifyOtp_invited hs hstart hproves hfresh hrow htarget hactive hmode
  · intro step again request hrequest hagain happlied
    have hsettled := step.settles hrequest happlied
    have hnext := (step.sound hs).1
    obtain ⟨-, hlater⟩ := run_sound later hnext
    rw [run_append]
    exact again.settled hagain (hsettled.later hnext.admits hlater)

/-! An invitation to a closed beta of one place. -/

def sampleSteps : List BetaStep :=
  [.grants ["admin"],
    .mutate
      { actorPrincipalId := "admin"
        requestIdHash := "capacity"
        payloadHash := "1"
        expectedRevision := 1
        action := .SET_CAPACITY
        capacity := some 1
        now := 1 } (.still 1),
    .inviteIdentity
      { actorPrincipalId := "admin"
        requestIdHash := "invite"
        payloadHash := "seller"
        expectedRevision := 2
        normalizedIdentityTarget := "seller@example.com"
        ttlMs := 1000
        id := "invitation" } (.still 2),
    .requestOtp
      { challengeId := "challenge"
        email := "seller@example.com"
        targetKey := "target"
        ipKey := "ip"
        verificationHash := "code"
        expiresAt := 600000
        now := 3 } (.still 3)]

def sampleChallenge : OtpChallenge where
  id := "challenge"
  normalizedIdentityTarget := "seller@example.com"
  verificationHash := "code"
  maxAttempts := 5
  createdAt := 3
  expiresAt := 600000

def sampleInvitation : Invitation where
  id := "invitation"
  normalizedIdentityTarget := "seller@example.com"
  createRequestIdHash := "invite"
  createPayloadHash := "seller"
  createdByAdminPrincipalId := "admin"
  createdAt := 2
  expiresAt := 1002

def sampleVerify : VerifyOtpInput where
  challengeId := "challenge"
  ipKey := "ip"
  idempotencyHash := "attempt"
  sessionHash := "token"
  expiresAt := 900000
  verify _ hash := hash = "code"
  now := 4
  admissionNow := 4
  userId := "user"
  accountId := "account"
  sessionId := "session"

theorem admission_laws_invited :
    ∃ db', verifyOtp sampleVerify (.still 4) (run {} sampleSteps) = .ok (.ok 900000, db') ∧
      db'.toAdmissionTables = (run {} sampleSteps).toAdmissionTables.withAdmitted
        "seller@example.com" sampleVerify (some sampleInvitation) (.still 4) := by
  refine (admission_laws sampleSteps []).invited sampleVerify (.still 4) sampleChallenge
    sampleInvitation ?_ ?_ ?_ ?_ rfl ?_ ?_
  · decide
  · constructor <;> decide
  · constructor <;> decide
  all_goals decide

end SellerAgents.BetaAccess
