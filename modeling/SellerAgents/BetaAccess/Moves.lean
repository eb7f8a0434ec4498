import SellerAgents.BetaAccess.Auth

open Relational

namespace SellerAgents.BetaAccess

/-- The tables after a first sign-in. -/
def AdmissionTables.withAdmitted (tables : AdmissionTables) (target : String)
    (input : VerifyOtpInput) (invited : Option Invitation) (clock : TxClock) : AdmissionTables where
  users := tables.users ++ [{ id := input.userId }]
  accounts := tables.accounts ++ [input.accountId]
  memberships := tables.memberships ++ [⟨input.accountId, input.userId⟩]
  identities := tables.identities ++ [⟨input.userId, target, input.admissionNow⟩]
  state := { tables.state with
    admitted := tables.state.admitted + 1
    updatedAt := input.admissionNow }
  invitations :=
    match invited with
    | none => tables.invitations
    | some row =>
      updateWhere (·.id = row.id)
        (fun r => { r with
          consumedAt := some (clock.reading 2 row.id)
          consumedUserId := some input.userId }) tables.invitations
  admissions := tables.admissions ++ [⟨input.accountId, input.userId, input.admissionNow⟩]
  mutations := tables.mutations

/-- What a transaction can do to the tables of the admission. -/
inductive AdmissionMove (clock : TxClock) (tables : AdmissionTables) : AdmissionTables → Prop where
  | invited (row : Invitation)
      (hfresh : Fresh (fun r => some r.id) row tables.invitations)
      (hshape : row.revokeRequestIdHash = none)
      (hnew : ∀ i ∈ tables.identities, i.normalizedIdentifier ≠ row.normalizedIdentityTarget)
      (halone : ∀ other ∈ tables.invitations,
        other.normalizedIdentityTarget = row.normalizedIdentityTarget →
          other.activeAt (clock.reading 1 other.id) = false)
      (hroom : (tables.state.admitted : Int) + tables.activeInvitationCount (clock.reading 2) <
        tables.state.capacity) :
      AdmissionMove clock tables { tables with invitations := tables.invitations ++ [row] }
  | revoked (input : RevokeInput) (row : Invitation)
      (hrow : tables.invitations.find? (·.id = input.invitationId) = some row)
      (hactive : row.activeAt (clock.reading 0 row.id) = true) :
      AdmissionMove clock tables { tables with
        invitations := updateWhere (·.id = input.invitationId) input.revoked tables.invitations }
  | mutated (input : MutateInput) (mutation : BetaAdmissionMutation)
      (hroom : (tables.state.admitted : Int) + tables.activeInvitationCount (clock.reading 0) ≤
        input.newCapacity tables.state) :
      AdmissionMove clock tables { tables with
        state := input.next tables.state
        mutations := tables.mutations ++ [mutation] }
  | admitted (target : String) (input : VerifyOtpInput) (invited : Option Invitation)
      (hnew : ∀ i ∈ tables.identities, i.normalizedIdentifier ≠ target)
      (hinvited : invited = (tables.invitationsOf target (clock.reading 0)).head?)
      (hone : (tables.invitationsOf target (clock.reading 0)).length ≤ 1)
      (hroom : admissionRefusal tables invited clock = none)
      (huser : ∀ u ∈ tables.users, u.id ≠ input.userId)
      (haccount : input.accountId ∉ tables.accounts)
      (hactive : ∀ row ∈ invited, row.activeAt (clock.reading 2 row.id) = true) :
      AdmissionMove clock tables (tables.withAdmitted target input invited clock)

/-- Challenges have ids of their own, and every replay is of a consumed challenge. -/
structure Proven (db : BetaDatabase) : Prop where
  ids : UniqueBy (fun c => some c.id) db.challenges
  consumed : ∀ r ∈ db.replays, ∃ c ∈ db.challenges, c.id = r.challengeId ∧ c.consumedAt.isSome

/-- What a transaction leaves. -/
structure Effect (clock : TxClock) (db db' : BetaDatabase) : Prop where
  tables : db'.toAdmissionTables = db.toAdmissionTables ∨
    AdmissionMove clock db.toAdmissionTables db'.toAdmissionTables
  proven : Proven db → Proven db'

theorem Proven.congr {db db' : BetaDatabase} (h : Proven db)
    (hchallenges : db'.challenges = db.challenges) (hreplays : db'.replays = db.replays) :
    Proven db' where
  ids := by rw [hchallenges]; exact h.ids
  consumed := by rw [hchallenges, hreplays]; exact h.consumed

theorem Effect.refl (clock : TxClock) (db : BetaDatabase) : Effect clock db db := ⟨.inl rfl, id⟩

variable {clock : TxClock} {db : BetaDatabase}

/-! The administrative transactions. -/

/-- A refused request did not answer `APPLIED`. -/
theorem refused_ne {α : Type} {kind : BetaRefusal} {P : Prop} (value : α) (replay : Bool)
    (h : BetaResult.refused kind = .APPLIED value replay) : P := by
  cases h

theorem insertInvitation_commits (row : Invitation) :
    Commits (insertInvitation row) db fun _ db' =>
      Fresh (fun r => some r.id) row db.invitations ∧
        db' = { db with invitations := db.invitations ++ [row] } := by
  unfold insertInvitation
  simp only [commits_bind, commits_get, commits_ensure, commits_modify]
  exact fun hid _ _ => ⟨hid, trivial⟩

theorem inviteIdentity_effect (input : InviteInput) :
    Commits (inviteIdentity input clock) db fun _ db' => Effect clock db db' := by
  unfold inviteIdentity
  simp only [commits_bind, commits_get, commits_ite, commits_pure]
  refine ⟨fun _ => .refl clock db, fun _ => ?_⟩
  split
  · simp only [commits_ite, commits_pure]
    exact ⟨fun _ => .refl clock db, fun _ => .refl clock db⟩
  · simp only [commits_bind, commits_ite, commits_pure]
    refine ⟨fun _ => .refl clock db, fun hidentity => ⟨fun _ => .refl clock db, fun _ =>
      ⟨fun _ => .refl clock db, fun _ => ⟨fun _ => .refl clock db, fun hother =>
      ⟨fun _ => .refl clock db, fun hroom => ?_⟩⟩⟩⟩⟩
    refine (insertInvitation_commits _).mono fun _ db' hinserted => ?_
    obtain ⟨hfresh, rfl⟩ := hinserted
    refine ⟨.inr (.invited (input.row clock) hfresh rfl ?_ ?_ (Int.not_le.mp hroom)), (·.congr rfl rfl)⟩
    · intro i hi hsame
      exact hidentity (List.any_eq_true.mpr ⟨i, hi, decide_eq_true hsame⟩)
    · intro other hmem hsame
      by_contra hactive
      refine hother (List.any_eq_true.mpr ⟨other, hmem, ?_⟩)
      rw [Bool.not_eq_false] at hactive
      simp only [hactive, Bool.and_true, decide_eq_true_eq]
      exact hsame

/-- The row of an invitation that was requested. -/
theorem inviteIdentity_applied (input : InviteInput) :
    Commits (inviteIdentity input clock) db fun answer db' => ∀ value replay,
      answer = .APPLIED value replay →
        ∃ row ∈ db'.invitations, row.createRequestIdHash = input.requestIdHash := by
  unfold inviteIdentity
  simp only [commits_bind, commits_get, commits_ite, commits_pure]
  refine ⟨fun _ => refused_ne, fun _ => ?_⟩
  split
  · rename_i prior hprior
    simp only [commits_ite, commits_pure]
    have hid := List.find?_some hprior
    exact ⟨fun _ => refused_ne, fun _ _ _ _ =>
      ⟨prior, List.mem_of_find?_eq_some hprior, of_decide_eq_true hid⟩⟩
  · simp only [commits_bind, commits_ite, commits_pure]
    refine ⟨fun _ => refused_ne, fun _ => ⟨fun _ => refused_ne, fun _ => ⟨fun _ => refused_ne, fun _ =>
      ⟨fun _ => refused_ne, fun _ => ⟨fun _ => refused_ne, fun _ => ?_⟩⟩⟩⟩⟩
    refine (insertInvitation_commits _).mono fun _ db' hinserted => ?_
    obtain ⟨-, rfl⟩ := hinserted
    exact fun _ _ _ => ⟨input.row clock, List.mem_append_right _ (List.mem_singleton_self _), rfl⟩

/-- A request that was applied changes nothing again. -/
theorem inviteIdentity_settled (input : InviteInput)
    (h : ∃ row ∈ db.invitations, row.createRequestIdHash = input.requestIdHash) :
    Commits (inviteIdentity input clock) db fun _ db' => db' = db := by
  unfold inviteIdentity
  simp only [commits_bind, commits_get, commits_ite, commits_pure]
  refine ⟨fun _ => trivial, fun _ => ?_⟩
  split
  · simp only [commits_ite, commits_pure]
    exact ⟨fun _ => trivial, fun _ => trivial⟩
  · rename_i hnone
    obtain ⟨row, hmem, hid⟩ := h
    have hother := List.find?_eq_none.mp hnone row hmem
    exact absurd (decide_eq_true hid) hother

theorem revokeIdentityInvitation_effect (input : RevokeInput) :
    Commits (revokeIdentityInvitation input clock) db fun _ db' => Effect clock db db' := by
  unfold revokeIdentityInvitation
  simp only [commits_bind, commits_get, commits_ite, commits_pure]
  refine ⟨fun _ => .refl clock db, fun _ => ?_⟩
  split
  · simp only [commits_pure]
    exact .refl clock db
  rename_i row hrow
  split
  · simp only [commits_ite, commits_pure]
    exact ⟨fun _ => .refl clock db, fun _ => .refl clock db⟩
  · simp only [commits_ite, commits_bind, commits_modify, commits_pure]
    refine ⟨fun _ => .refl clock db, fun hactive => ⟨.inr (.revoked input row hrow ?_), (·.congr rfl rfl)⟩⟩
    simpa using hactive

theorem revokeIdentityInvitation_applied (input : RevokeInput) :
    Commits (revokeIdentityInvitation input clock) db fun answer db' => ∀ value replay,
      answer = .APPLIED value replay →
        ∃ row ∈ db'.invitations, row.revokeRequestIdHash = some input.requestIdHash := by
  unfold revokeIdentityInvitation
  simp only [commits_bind, commits_get, commits_ite, commits_pure]
  refine ⟨fun _ => refused_ne, fun _ => ?_⟩
  split
  · simp only [commits_pure]
    exact refused_ne
  rename_i row hrow
  split
  · rename_i prior hprior
    simp only [commits_ite, commits_pure]
    have hid := List.find?_some hprior
    exact ⟨fun _ => refused_ne, fun _ _ _ _ =>
      ⟨prior, List.mem_of_find?_eq_some hprior, of_decide_eq_true hid⟩⟩
  · simp only [commits_ite, commits_bind, commits_modify, commits_pure]
    refine ⟨fun _ => refused_ne, fun _ _ _ _ => ⟨input.revoked row, ?_, rfl⟩⟩
    have hid := List.find?_some hrow
    exact mem_updateWhere.mpr (.inr ⟨row, List.mem_of_find?_eq_some hrow, hid, rfl⟩)

theorem revokeIdentityInvitation_settled (input : RevokeInput)
    (h : ∃ row ∈ db.invitations, row.revokeRequestIdHash = some input.requestIdHash) :
    Commits (revokeIdentityInvitation input clock) db fun _ db' => db' = db := by
  unfold revokeIdentityInvitation
  simp only [commits_bind, commits_get, commits_ite, commits_pure]
  refine ⟨fun _ => trivial, fun _ => ?_⟩
  split
  · simp only [commits_pure]
  split
  · simp only [commits_ite, commits_pure]
    exact ⟨fun _ => trivial, fun _ => trivial⟩
  · rename_i hnone
    obtain ⟨row, hmem, hid⟩ := h
    have hother := List.find?_eq_none.mp hnone row hmem
    exact absurd (decide_eq_true hid) hother

theorem mutate_effect (input : MutateInput) :
    Commits (mutate input clock) db fun _ db' => Effect clock db db' := by
  unfold mutate
  simp only [commits_bind, commits_get, commits_ite, commits_pure]
  refine ⟨fun _ => .refl clock db, fun _ => ?_⟩
  split
  · simp only [commits_ite, commits_pure]
    exact ⟨fun _ => .refl clock db, fun _ => .refl clock db⟩
  · simp only [commits_ite, commits_bind, commits_modify, commits_pure]
    refine ⟨fun _ => .refl clock db, fun _ => ⟨fun _ => .refl clock db, fun hroom =>
      ⟨.inr (.mutated input _ ?_), (·.congr rfl rfl)⟩⟩⟩
    simp only [Bool.or_eq_true, decide_eq_true_eq, not_or, Int.not_lt] at hroom
    exact hroom.1

theorem mutate_applied (input : MutateInput) :
    Commits (mutate input clock) db fun answer db' => ∀ value replay,
      answer = .APPLIED value replay →
        ∃ row ∈ db'.mutations, row.requestIdHash = input.requestIdHash := by
  unfold mutate
  simp only [commits_bind, commits_get, commits_ite, commits_pure]
  refine ⟨fun _ => refused_ne, fun _ => ?_⟩
  split
  · rename_i prior hprior
    simp only [commits_ite, commits_pure]
    have hid := List.find?_some hprior
    exact ⟨fun _ => refused_ne, fun _ _ _ _ =>
      ⟨prior, List.mem_of_find?_eq_some hprior, of_decide_eq_true hid⟩⟩
  · simp only [commits_ite, commits_bind, commits_modify, commits_pure]
    exact ⟨fun _ => refused_ne, fun _ => ⟨fun _ => refused_ne, fun _ _ _ _ =>
      ⟨_, List.mem_append_right _ (List.mem_singleton_self _), rfl⟩⟩⟩

theorem mutate_settled (input : MutateInput)
    (h : ∃ row ∈ db.mutations, row.requestIdHash = input.requestIdHash) :
    Commits (mutate input clock) db fun _ db' => db' = db := by
  unfold mutate
  simp only [commits_bind, commits_get, commits_ite, commits_pure]
  refine ⟨fun _ => trivial, fun _ => ?_⟩
  split
  · simp only [commits_ite, commits_pure]
    exact ⟨fun _ => trivial, fun _ => trivial⟩
  · rename_i hnone
    obtain ⟨row, hmem, hid⟩ := h
    have hother := List.find?_eq_none.mp hnone row hmem
    exact absurd (decide_eq_true hid) hother

/-! The sign-in. -/

theorem consume_commits (action key : String) (limit : Nat) (now : Int) :
    Commits (consume action key limit now) db fun allowed db' =>
      allowed = decide (db.consumedCount action key now ≤ limit) ∧
        ∃ buckets, db' = { db with buckets } := by
  unfold consume
  simp only [commits_bind, commits_get, commits_modify, commits_pure]
  exact ⟨trivial, _, rfl⟩

/-- An update that takes no consumption back keeps the replays proven. -/
theorem Proven.update (h : Proven db) (p : OtpChallenge → Bool) (set : OtpChallenge → OtpChallenge)
    (hid : ∀ c, (set c).id = c.id) (hset : ∀ c, c.consumedAt.isSome → (set c).consumedAt.isSome) :
    Proven { db with challenges := updateWhere p set db.challenges } where
  ids := h.ids.updateWhere fun c _ _ => .inr (congrArg some (hid c))
  consumed r hr := by
    obtain ⟨c, hc, hsame, hconsumed⟩ := h.consumed r hr
    by_cases hp : p c = true
    · exact ⟨set c, mem_updateWhere.mpr (.inr ⟨c, hc, hp, rfl⟩), (hid c).trans hsame,
        hset c hconsumed⟩
    · exact ⟨c, mem_updateWhere.mpr (.inl ⟨hc, by simpa using hp⟩), hsame, hconsumed⟩

/-- A new challenge keeps the replays proven. -/
theorem Proven.insert (h : Proven db) (row : OtpChallenge)
    (hfresh : Fresh (fun c => some c.id) row db.challenges) :
    Proven { db with challenges := db.challenges ++ [row] } where
  ids := h.ids.insert hfresh
  consumed r hr := by
    obtain ⟨c, hc, hconsumed⟩ := h.consumed r hr
    exact ⟨c, List.mem_append_left _ hc, hconsumed⟩

theorem requestOtp_effect (input : RequestOtpInput) :
    Commits (requestOtp input clock) db fun _ db' => Effect clock db db' := by
  unfold requestOtp
  simp only [commits_bind]
  refine (consume_commits _ _ _ _).mono fun _ db' hcounted => ?_
  obtain ⟨-, targets, rfl⟩ := hcounted
  refine (consume_commits _ _ _ _).mono fun _ db' hcounted => ?_
  obtain ⟨-, buckets, rfl⟩ := hcounted
  simp only [commits_get, commits_ite, commits_bind, commits_ensure, commits_modify, commits_pure]
  refine ⟨fun _ => ⟨.inl rfl, (·.congr rfl rfl)⟩, fun _ hfresh => ⟨.inl rfl, fun h => ?_⟩⟩
  have hupdated := h.update (·.pending input.email)
    (fun c => { c with invalidatedAt := some input.now }) (fun _ => rfl)
    fun _ hconsumed => hconsumed
  refine (hupdated.insert
    { id := input.challengeId, normalizedIdentityTarget := input.email,
      verificationHash := input.verificationHash, maxAttempts := 5, createdAt := clock.start,
      expiresAt := input.expiresAt } ?_).congr rfl rfl
  · intro other hother
    obtain ⟨hmem, -⟩ | ⟨old, hold, -, rfl⟩ := mem_updateWhere.mp hother
    · exact hfresh other hmem
    · exact hfresh old hold

theorem insertAdmitted_commits (target : String) (input : VerifyOtpInput) :
    Commits (insertAdmitted target input) db fun _ db' =>
      (∀ u ∈ db.users, u.id ≠ input.userId) ∧ input.accountId ∉ db.accounts ∧
        db' = { db with
          users := db.users ++ [{ id := input.userId }]
          accounts := db.accounts ++ [input.accountId]
          memberships := db.memberships ++ [⟨input.accountId, input.userId⟩]
          identities := db.identities ++ [⟨input.userId, target, input.admissionNow⟩]
          admissions := db.admissions ++
            [⟨input.accountId, input.userId, input.admissionNow⟩] } := by
  unfold insertAdmitted
  simp only [commits_bind, commits_get, commits_ensure, commits_modify]
  refine fun huser haccount _ _ _ _ => ⟨fun u hu hsame => ?_, haccount, trivial⟩
  rcases huser u hu with hnone | hne
  · cases hnone
  · exact hne (congrArg some hsame)

/-- The admission of a first-time identity, which may be refused. -/
theorem admitIdentity_commits (target : String) (input : VerifyOtpInput)
    (hnew : ∀ i ∈ db.identities, i.normalizedIdentifier ≠ target) :
    Commits (admitIdentity target input clock) db fun _ db' =>
      db' = db ∨ (AdmissionMove clock db.toAdmissionTables db'.toAdmissionTables ∧
        db'.challenges = db.challenges ∧ db'.replays = db.replays) := by
  unfold admitIdentity
  simp only [commits_bind, commits_get, commits_ensure]
  intro hone
  split
  · simp only [commits_pure]
    exact .inl trivial
  rename_i hroom
  simp only [commits_bind]
  refine (insertAdmitted_commits target input).mono fun _ db' hinserted => ?_
  obtain ⟨huser, haccount, rfl⟩ := hinserted
  unfold countAdmitted
  simp only [commits_bind, commits_get, commits_ensure, commits_modify]
  intro _
  unfold consumeInvitation
  have hmove := @AdmissionMove.admitted clock db.toAdmissionTables target input _ hnew rfl hone hroom
    huser haccount
  split
  · rename_i hinvited
    simp only [commits_pure]
    rw [hinvited] at hmove
    exact .inr ⟨hmove (fun row hrow => absurd hrow (Option.not_mem_none row)), trivial, trivial⟩
  · rename_i row hinvited
    simp only [commits_bind, commits_ensure, commits_modify, commits_pure]
    rw [hinvited] at hmove
    refine fun hactive => .inr ⟨hmove fun other hother => ?_, trivial, trivial⟩
    rwa [← Option.some.inj hother]

theorem signedIn_commits (target : String) (input : VerifyOtpInput) :
    Commits (signedIn target input clock) db fun _ db' =>
      db' = db ∨ (AdmissionMove clock db.toAdmissionTables db'.toAdmissionTables ∧
        db'.challenges = db.challenges ∧ db'.replays = db.replays) := by
  unfold signedIn
  simp only [commits_bind, commits_get]
  split
  · rename_i hnone
    refine admitIdentity_commits target input fun i hi hsame => ?_
    exact List.find?_eq_none.mp hnone i hi (decide_eq_true hsame)
  · simp only [commits_ite, commits_pure]
    exact ⟨fun _ => .inl trivial, fun _ => .inl trivial⟩

theorem openSession_commits (c : OtpChallenge) (userId : String) (input : VerifyOtpInput) :
    Commits (openSession c userId input) db fun _ db' =>
      db'.toAdmissionTables = db.toAdmissionTables ∧ db'.challenges = db.challenges ∧
        db'.replays = db.replays ++ [⟨c.id, input.idempotencyHash, userId, input.sessionId⟩] := by
  unfold openSession
  simp only [commits_bind, commits_get, commits_ensure, commits_modify, commits_pure]
  exact fun _ _ _ => ⟨trivial, trivial, trivial⟩

theorem proven_effect (db : BetaDatabase) (c : OtpChallenge) (input : VerifyOtpInput) (hc : c ∈ db.challenges) :
    Commits (proven c input clock) db fun _ db' => Effect clock db db' := by
  unfold proven updateChallenge
  simp only [commits_bind, commits_modify]
  refine (signedIn_commits _ input).mono fun user db' hdb' => ?_
  have hkept : (db'.toAdmissionTables = db.toAdmissionTables ∨
      AdmissionMove clock db.toAdmissionTables db'.toAdmissionTables) ∧
      db'.challenges = updateWhere (·.id = c.id) (fun row => { row with
        consumedAt := some input.now }) db.challenges ∧ db'.replays = db.replays := by
    rcases hdb' with rfl | ⟨hmove, hchallenges, hreplays⟩
    · exact ⟨.inl rfl, rfl, rfl⟩
    · exact ⟨.inr hmove, hchallenges, hreplays⟩
  obtain ⟨htables, hchallenges, hreplays⟩ := hkept
  have hproven (h : Proven db) : Proven db' :=
    (h.update (·.id = c.id) (fun row => { row with consumedAt := some input.now })
      (fun _ => rfl) fun _ _ => rfl).congr hchallenges hreplays
  split
  · simp only [commits_pure]
    exact ⟨htables, hproven⟩
  · rename_i userId
    refine (openSession_commits c userId input).mono fun _ db'' hdb'' => ?_
    obtain ⟨hsame, hkept, hopened⟩ := hdb''
    refine ⟨by rwa [hsame], fun h => ⟨hkept ▸ (hproven h).ids, ?_⟩⟩
    intro r hr
    rw [hopened, List.mem_append, List.mem_singleton] at hr
    rcases hr with hr | rfl
    · exact hkept ▸ (hproven h).consumed r hr
    · rw [hkept, hchallenges]
      exact ⟨{ c with consumedAt := some input.now },
        mem_updateWhere.mpr (.inr ⟨c, hc, decide_eq_true rfl, rfl⟩), rfl, rfl⟩

theorem verifyOtp_effect (input : VerifyOtpInput) :
    Commits (verifyOtp input clock) db fun _ db' => Effect clock db db' := by
  unfold verifyOtp
  simp only [commits_bind]
  refine (consume_commits _ _ _ _).mono fun _ db' hcounted => ?_
  obtain ⟨-, buckets, rfl⟩ := hcounted
  have hkept : Effect clock db { db with buckets } := ⟨.inl rfl, (·.congr rfl rfl)⟩
  simp only [commits_ite, commits_pure, commits_bind, commits_get]
  refine ⟨fun _ => hkept, fun _ => ?_⟩
  split
  · simp only [commits_pure]
    exact hkept
  rename_i c hfind
  have hc := List.mem_of_find?_eq_some hfind
  simp only [commits_ite, commits_pure, commits_bind]
  refine ⟨fun _ => hkept, fun _ => ⟨fun _ => hkept, fun _ => ⟨fun _ => ?_, fun _ => ?_⟩⟩⟩
  · unfold updateChallenge
    simp only [commits_modify]
    refine ⟨.inl rfl, fun h => ?_⟩
    exact (h.update (·.id = c.id) (fun row => { row with
      attemptCount := min (row.attemptCount + 1) row.maxAttempts }) (fun _ => rfl)
      fun _ hconsumed => hconsumed).congr rfl rfl
  · refine (proven_effect { db with buckets } c input hc).mono fun _ db' heffect => ?_
    exact ⟨heffect.tables, fun h => heffect.proven (h.congr rfl rfl)⟩

end SellerAgents.BetaAccess
