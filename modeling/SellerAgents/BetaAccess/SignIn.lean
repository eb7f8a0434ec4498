import SellerAgents.BetaAccess.Promises

open Relational

namespace SellerAgents.BetaAccess

/-- The tables of the sign-in by a code. -/
structure SignInTables where
  challenges : List OtpChallenge
  sessions : List PortalSession
  replays : List OtpVerifyReplay
  identities : List UserIdentity

/-- The tables of the sign-in. -/
def BetaDatabase.signIns (db : BetaDatabase) : SignInTables :=
  ⟨db.challenges, db.sessions, db.replays, db.identities⟩

/-- What a transaction can do to these tables. -/
inductive SignInMove (tables : SignInTables) : SignInTables → Prop where
  | known (identities : List UserIdentity) (hidentities : tables.identities ⊆ identities) :
      SignInMove tables { tables with identities }
  | requested (row : OtpChallenge) (now : Int)
      (hfresh : Fresh (fun c => some c.id) row tables.challenges)
      (hnew : row.attemptCount = 0 ∧ row.maxAttempts = 5 ∧ row.consumedAt = none) :
      SignInMove tables { tables with
        challenges := updateWhere (·.pending row.normalizedIdentityTarget)
          (fun c => { c with invalidatedAt := some now }) tables.challenges ++ [row] }
  | missed (c : OtpChallenge) (now : Int) (hmem : c ∈ tables.challenges)
      (hopen : c.consumedAt = none) (hspent : c.spent now = false) :
      SignInMove tables { tables with
        challenges := updateWhere (·.id = c.id) (fun row =>
          { row with attemptCount := min (row.attemptCount + 1) row.maxAttempts })
          tables.challenges }
  | denied (c : OtpChallenge) (now : Int) (identities : List UserIdentity)
      (hmem : c ∈ tables.challenges) (hopen : c.consumedAt = none) (hspent : c.spent now = false)
      (hidentities : tables.identities ⊆ identities) :
      SignInMove tables { tables with
        challenges := updateWhere (·.id = c.id) (fun row => { row with consumedAt := some now })
          tables.challenges
        identities }
  | opened (c : OtpChallenge) (now : Int) (session : PortalSession) (replay : OtpVerifyReplay)
      (identities : List UserIdentity) (hmem : c ∈ tables.challenges) (hopen : c.consumedAt = none)
      (hspent : c.spent now = false) (hidentities : tables.identities ⊆ identities)
      (hsession : Fresh (fun s => some s.id) session tables.sessions)
      (hids : replay.challengeId = c.id ∧ replay.portalSessionId = session.id ∧
        replay.userId = session.userId)
      (hproved : ∃ i ∈ identities, i.normalizedIdentifier = c.normalizedIdentityTarget ∧
        i.userId = session.userId) :
      SignInMove tables
        { challenges := updateWhere (·.id = c.id) (fun row => { row with consumedAt := some now })
            tables.challenges
          sessions := tables.sessions ++ [session]
          replays := tables.replays ++ [replay]
          identities }

variable {clock : TxClock} {db : BetaDatabase}

theorem SignInMove.refl (tables : SignInTables) : SignInMove tables tables :=
  .known tables.identities (List.Subset.refl _)

/-! The transactions. -/

theorem BetaDatabase.transact_signIns {α : Type} {x : Tx BetaDatabase α} (motive : SignInTables → Prop)
    (h : motive db.signIns) (hx : Commits x db fun _ db' => motive db'.signIns) :
    motive (db.transact x clock).signIns := by
  unfold BetaDatabase.transact
  split
  · exact h
  · exact @commit_induct _ _ x db (fun db' => motive (BetaDatabase.signIns db')) h hx

/-- A challenge that is asked for opens no session. -/
theorem requestOtp_signIn (input : RequestOtpInput) :
    Commits (requestOtp input clock) db fun _ db' =>
      SignInMove db.signIns db'.signIns ∧ db'.sessions = db.sessions := by
  unfold requestOtp
  simp only [commits_bind]
  refine (consume_commits _ _ _ _).mono fun _ db' hcounted => ?_
  obtain ⟨-, targets, rfl⟩ := hcounted
  refine (consume_commits _ _ _ _).mono fun _ db' hcounted => ?_
  obtain ⟨-, buckets, rfl⟩ := hcounted
  simp only [commits_get, commits_ite, commits_bind, commits_ensure, commits_modify, commits_pure]
  refine ⟨fun _ => ⟨.refl _, trivial⟩, fun _ hfresh => ⟨?_, trivial⟩⟩
  let row : OtpChallenge :=
    { id := input.challengeId
      normalizedIdentityTarget := input.email
      verificationHash := input.verificationHash
      maxAttempts := 5
      createdAt := clock.start
      expiresAt := input.expiresAt }
  exact @SignInMove.requested db.signIns row input.now hfresh ⟨rfl, rfl, rfl⟩

/-- What the search for the user of a proven address leaves. -/
structure UserFound (target : String) (user : AuthResult String) (db db' : BetaDatabase) : Prop where
  challenges : db'.challenges = db.challenges
  sessions : db'.sessions = db.sessions
  replays : db'.replays = db.replays
  identities : db.identities ⊆ db'.identities
  proved : ∀ userId, user = .ok userId →
    ∃ i ∈ db'.identities, i.normalizedIdentifier = target ∧ i.userId = userId

theorem UserFound.refused (target : String) (code : AuthCode) (db : BetaDatabase) :
    UserFound target (.error code) db db :=
  ⟨rfl, rfl, rfl, List.Subset.refl _, fun _ h => by cases h⟩

theorem inviteIdentity_signIns (input : InviteInput) :
    Commits (inviteIdentity input clock) db fun _ db' => db'.signIns = db.signIns := by
  unfold inviteIdentity
  simp only [commits_bind, commits_get, commits_ite, commits_pure]
  refine ⟨fun _ => trivial, fun _ => ?_⟩
  split
  · simp only [commits_ite, commits_pure]
    exact ⟨fun _ => trivial, fun _ => trivial⟩
  · simp only [commits_bind, commits_ite, commits_pure]
    refine ⟨fun _ => trivial, fun _ => ⟨fun _ => trivial, fun _ => ⟨fun _ => trivial, fun _ =>
      ⟨fun _ => trivial, fun _ => ⟨fun _ => trivial, fun _ => ?_⟩⟩⟩⟩⟩
    refine (insertInvitation_commits _).mono fun _ db' hinserted => ?_
    rw [hinserted.2]
    rfl

theorem revokeIdentityInvitation_signIns (input : RevokeInput) :
    Commits (revokeIdentityInvitation input clock) db fun _ db' => db'.signIns = db.signIns := by
  unfold revokeIdentityInvitation
  simp only [commits_bind, commits_get, commits_ite, commits_pure]
  refine ⟨fun _ => trivial, fun _ => ?_⟩
  split
  · simp only [commits_pure]
  split
  · simp only [commits_ite, commits_pure]
    exact ⟨fun _ => trivial, fun _ => trivial⟩
  · simp only [commits_ite, commits_bind, commits_modify, commits_pure]
    exact ⟨fun _ => trivial, fun _ => rfl⟩

theorem mutate_signIns (input : MutateInput) :
    Commits (mutate input clock) db fun _ db' => db'.signIns = db.signIns := by
  unfold mutate
  simp only [commits_bind, commits_get, commits_ite, commits_pure]
  refine ⟨fun _ => trivial, fun _ => ?_⟩
  split
  · simp only [commits_ite, commits_pure]
    exact ⟨fun _ => trivial, fun _ => trivial⟩
  · simp only [commits_ite, commits_bind, commits_modify, commits_pure]
    exact ⟨fun _ => trivial, fun _ => ⟨fun _ => trivial, fun _ => rfl⟩⟩

/-- The invariant of the sign-in tables. -/
structure SignInTables.Sound (tables : SignInTables) : Prop where
  ids : UniqueBy (fun c => some c.id) tables.challenges
  attempts : ∀ c ∈ tables.challenges, c.maxAttempts = 5 ∧ c.attemptCount ≤ 5
  consumed : ∀ c ∈ tables.challenges, ∀ time, c.consumedAt = some time → c.spent time = false
  pending : ∀ c ∈ tables.challenges, ∀ other ∈ tables.challenges, ∀ email,
    c.pending email = true → other.pending email = true → c = other
  sessions : UniqueBy (fun s => some s.id) tables.sessions
  replays : UniqueBy (fun r => some r.challengeId) tables.replays
  proved : ∀ r ∈ tables.replays, ∃ c ∈ tables.challenges, c.id = r.challengeId ∧
    c.consumedAt.isSome ∧ ∃ i ∈ tables.identities,
      i.normalizedIdentifier = c.normalizedIdentityTarget ∧ i.userId = r.userId
  opened : ∀ s ∈ tables.sessions, ∃ r ∈ tables.replays,
    r.portalSessionId = s.id ∧ r.userId = s.userId

namespace SignInTables.Sound

variable {tables tables' : SignInTables}

theorem empty : Sound ⟨[], [], [], []⟩ where
  ids := uniqueBy_nil _
  attempts := by simp
  consumed := by simp
  pending := by simp
  sessions := uniqueBy_nil _
  replays := uniqueBy_nil _
  proved := by simp
  opened := by simp

variable {c : OtpChallenge}

section

variable (h : tables.Sound)
include h

/-- An update of one challenge rewrites it alone. -/
theorem mem_updated {other : OtpChallenge} (hmem : c ∈ tables.challenges)
    (set : OtpChallenge → OtpChallenge) :
    other ∈ updateWhere (·.id = c.id) set tables.challenges ↔
      (other ∈ tables.challenges ∧ other.id ≠ c.id) ∨ other = set c := by
  have hkey : ∀ row ∈ tables.challenges, decide (row.id = c.id) = true → some row.id = some c.id :=
    fun row _ hrow => congrArg some (of_decide_eq_true hrow)
  have hfind := h.ids.find_eq_some hkey hmem (decide_eq_true rfl)
  rw [h.ids.mem_updateWhere hkey hfind]
  simp

theorem eq_of_id {other : OtpChallenge} (hmem : c ∈ tables.challenges)
    (hother : other ∈ tables.challenges) (hid : other.id = c.id) : other = c :=
  h.ids.eq_of_key hother hmem rfl (congrArg some hid.symm)

/-- More identities. -/
theorem known {identities : List UserIdentity} (hidentities : tables.identities ⊆ identities) :
    Sound { tables with identities } :=
  { h with
    proved := by
      intro r hr
      obtain ⟨c, hc, hid, hconsumed, i, hi, hproved⟩ := h.proved r hr
      exact ⟨c, hc, hid, hconsumed, i, hidentities hi, hproved⟩ }

theorem requested (row : OtpChallenge) (now : Int)
    (hfresh : Fresh (fun c => some c.id) row tables.challenges)
    (hnew : row.attemptCount = 0 ∧ row.maxAttempts = 5 ∧ row.consumedAt = none) :
    Sound { tables with
      challenges := updateWhere (·.pending row.normalizedIdentityTarget)
        (fun c => { c with invalidatedAt := some now }) tables.challenges ++ [row] } := by
  obtain ⟨hcount, hmax, hopen⟩ := hnew
  -- What is left of an old challenge: itself, or its superseded form.
  have hold : ∀ c ∈ updateWhere (·.pending row.normalizedIdentityTarget)
      (fun c => { c with invalidatedAt := some now }) tables.challenges,
      (c ∈ tables.challenges ∧ c.pending row.normalizedIdentityTarget = false) ∨
        (c.consumedAt = none ∧ c.invalidatedAt = some now ∧
          ∃ old ∈ tables.challenges, c.maxAttempts = old.maxAttempts ∧
            c.attemptCount = old.attemptCount) := by
    intro c hc
    obtain hkept | ⟨old, hmem, hpending, rfl⟩ := mem_updateWhere.mp hc
    · exact .inl hkept
    · simp only [OtpChallenge.pending, Bool.and_eq_true, Option.isNone_iff_eq_none] at hpending
      exact .inr ⟨hpending.1.2, rfl, old, hmem, rfl, rfl⟩
  have hids := h.ids.updateWhere (p := (·.pending row.normalizedIdentityTarget))
    (f := fun c => { c with invalidatedAt := some now }) fun c _ _ => .inr rfl
  refine { h with ids := hids.insert ?_, attempts := ?_, consumed := ?_, pending := ?_, proved := ?_ }
  · intro other hother
    obtain ⟨hmem, -⟩ | ⟨old, hmem, -, rfl⟩ := mem_updateWhere.mp hother
    · exact hfresh other hmem
    · exact hfresh old hmem
  · intro c hc
    rw [List.mem_append, List.mem_singleton] at hc
    obtain hc | rfl := hc
    · obtain ⟨hmem, -⟩ | ⟨-, -, old, hmem, hmaxold, hcountold⟩ := hold c hc
      · exact h.attempts c hmem
      · rw [hmaxold, hcountold]
        exact h.attempts old hmem
    · exact ⟨hmax, by omega⟩
  · intro c hc time htime
    rw [List.mem_append, List.mem_singleton] at hc
    obtain hc | rfl := hc
    · obtain ⟨hmem, -⟩ | ⟨hnone, -⟩ := hold c hc
      · exact h.consumed c hmem time htime
      · rw [hnone] at htime
        cases htime
    · rw [hopen] at htime
      cases htime
  · -- Only the new challenge is pending for its address.
    have honly : ∀ c ∈ updateWhere (·.pending row.normalizedIdentityTarget)
        (fun c => { c with invalidatedAt := some now }) tables.challenges, ∀ email,
        c.pending email = true → c ∈ tables.challenges ∧ email ≠ row.normalizedIdentityTarget := by
      intro c hc email hpending
      obtain ⟨hmem, hnot⟩ | ⟨-, hinvalid, -⟩ := hold c hc
      · refine ⟨hmem, ?_⟩
        rintro rfl
        rw [hnot] at hpending
        cases hpending
      · simp [OtpChallenge.pending, hinvalid] at hpending
    have hown : ∀ email, row.pending email = true → email = row.normalizedIdentityTarget := by
      intro email hpending
      simp only [OtpChallenge.pending, Bool.and_eq_true, decide_eq_true_eq] at hpending
      exact hpending.1.1.symm
    intro c hc other hother email hpending hpendingOther
    rw [List.mem_append, List.mem_singleton] at hc hother
    obtain hc | rfl := hc
    · obtain ⟨hmem, hne⟩ := honly c hc email hpending
      obtain hother | rfl := hother
      · exact h.pending c hmem other (honly other hother email hpendingOther).1 email hpending
          hpendingOther
      · exact absurd (hown email hpendingOther) hne
    · obtain hother | rfl := hother
      · exact absurd (hown email hpending) (honly other hother email hpendingOther).2
      · rfl
  · intro r hr
    obtain ⟨c, hc, hid, hconsumed, hproved⟩ := h.proved r hr
    refine ⟨c, List.mem_append_left _ (mem_updateWhere.mpr (.inl ⟨hc, ?_⟩)), hid, hconsumed, hproved⟩
    cases htime : c.consumedAt with
    | none =>
      rw [htime] at hconsumed
      cases hconsumed
    | some time => simp [OtpChallenge.pending, htime]

/-- An update of an open challenge that keeps its name and its address. -/
theorem updated (set : OtpChallenge → OtpChallenge) (hmem : c ∈ tables.challenges)
    (hopen : c.consumedAt = none) (hid : ∀ row, (set row).id = row.id)
    (hattempts : (set c).maxAttempts = 5 ∧ (set c).attemptCount ≤ 5)
    (hconsumed : ∀ time, (set c).consumedAt = some time → (set c).spent time = false)
    (hpending : ∀ email, (set c).pending email = true → c.pending email = true) :
    Sound { tables with challenges := updateWhere (·.id = c.id) set tables.challenges } := by
  refine { h with
    ids := h.ids.updateWhere fun row _ _ => .inr (congrArg some (hid row))
    attempts := ?_, consumed := ?_, pending := ?_, proved := ?_ }
  · intro row hrow
    obtain ⟨hold, -⟩ | rfl := (h.mem_updated hmem set).mp hrow
    · exact h.attempts row hold
    · exact hattempts
  · intro row hrow
    obtain ⟨hold, -⟩ | rfl := (h.mem_updated hmem set).mp hrow
    · exact h.consumed row hold
    · exact hconsumed
  · intro row hrow other hother email hp hpother
    obtain ⟨hold, hne⟩ | rfl := (h.mem_updated hmem set).mp hrow
    · obtain ⟨holdOther, -⟩ | rfl := (h.mem_updated hmem set).mp hother
      · exact h.pending row hold other holdOther email hp hpother
      · have heq := h.pending row hold c hmem email hp (hpending email hpother)
        exact absurd (congrArg OtpChallenge.id heq) hne
    · obtain ⟨holdOther, hne⟩ | rfl := (h.mem_updated hmem set).mp hother
      · have heq := h.pending other holdOther c hmem email hpother (hpending email hp)
        exact absurd (congrArg OtpChallenge.id heq) hne
      · rfl
  · intro r hr
    obtain ⟨other, hother, hsame, hdone, hproved⟩ := h.proved r hr
    refine ⟨other, (h.mem_updated hmem set).mpr (.inl ⟨hother, fun heq => ?_⟩), hsame, hdone, hproved⟩
    rw [h.eq_of_id hmem hother heq, hopen] at hdone
    cases hdone

/-- The code of an open challenge is taken. -/
theorem taken {now : Int} (hmem : c ∈ tables.challenges) (hopen : c.consumedAt = none)
    (hspent : c.spent now = false) :
    Sound { tables with
      challenges := updateWhere (·.id = c.id) (fun row => { row with consumedAt := some now })
        tables.challenges } := by
  apply h.updated (fun row => { row with consumedAt := some now }) hmem hopen (fun _ => rfl)
  · exact h.attempts c hmem
  · intro time htime
    obtain rfl := Option.some.inj htime
    exact hspent
  · intro email hpending
    simp [OtpChallenge.pending] at hpending

/-- No move touches a consumed challenge. -/
theorem keeps (hmove : SignInMove tables tables') (hmem : c ∈ tables.challenges)
    (hconsumed : c.consumedAt.isSome) : c ∈ tables'.challenges := by
  have hother {open' : OtpChallenge} (set : OtpChallenge → OtpChallenge)
      (hopen' : open' ∈ tables.challenges) (hopen : open'.consumedAt = none) :
      c ∈ updateWhere (·.id = open'.id) set tables.challenges := by
    refine (h.mem_updated hopen' set).mpr (.inl ⟨hmem, fun heq => ?_⟩)
    rw [h.eq_of_id hopen' hmem heq, hopen] at hconsumed
    cases hconsumed
  cases hmove with
  | known identities hidentities => exact hmem
  | requested row now hfresh hnew =>
    refine List.mem_append_left _ (mem_updateWhere.mpr (.inl ⟨hmem, ?_⟩))
    simp [OtpChallenge.pending, Option.isNone_eq_false_iff.mpr hconsumed]
  | missed c' now hmem' hopen hspent => exact hother _ hmem' hopen
  | denied c' now identities hmem' hopen hspent hidentities => exact hother _ hmem' hopen
  | opened c' now session replay identities hmem' hopen hspent hidentities hsession hids hproved =>
    exact hother _ hmem' hopen

theorem move (hmove : SignInMove tables tables') : tables'.Sound := by
  cases hmove with
  | known identities hidentities => exact h.known hidentities
  | requested row now hfresh hnew => exact h.requested row now hfresh hnew
  | missed c now hmem hopen hspent =>
    apply h.updated (fun row =>
      { row with attemptCount := min (row.attemptCount + 1) row.maxAttempts }) hmem hopen (fun _ => rfl)
    · have hattempts := h.attempts c hmem
      refine ⟨hattempts.1, ?_⟩
      dsimp only
      omega
    · intro time htime
      rw [hopen] at htime
      cases htime
    · exact fun _ hpending => hpending
  | denied c now identities hmem hopen hspent hidentities =>
    exact (h.taken hmem hopen hspent).known hidentities
  | opened c now session replay identities hmem hopen hspent hidentities hsession hids hproved =>
    obtain ⟨hchallenge, hportal, huser⟩ := hids
    have hknown := (h.taken hmem hopen hspent).known hidentities
    refine { hknown with
      sessions := hknown.sessions.insert hsession
      replays := hknown.replays.insert ?_, proved := ?_, opened := ?_ }
    · intro other hother
      refine .inr fun hsame => ?_
      -- A replay is of a consumed challenge, and this one was open.
      obtain ⟨old, hold, hid, hdone, -⟩ := h.proved other hother
      have hsameId : old.id = c.id := (hid.trans (Option.some.inj hsame)).trans hchallenge
      rw [h.eq_of_id hmem hold hsameId, hopen] at hdone
      cases hdone
    · intro r hr
      rw [List.mem_append, List.mem_singleton] at hr
      obtain hr | rfl := hr
      · exact hknown.proved r hr
      · refine ⟨{ c with consumedAt := some now }, ?_, hchallenge.symm, rfl, ?_⟩
        · exact (h.mem_updated hmem _).mpr (.inr rfl)
        · obtain ⟨i, hi, htarget, howner⟩ := hproved
          exact ⟨i, hi, htarget, howner.trans huser.symm⟩
    · intro s hs
      rw [List.mem_append, List.mem_singleton] at hs
      obtain hs | rfl := hs
      · obtain ⟨r, hr, hopened⟩ := hknown.opened s hs
        exact ⟨r, List.mem_append_left _ hr, hopened⟩
      · exact ⟨replay, List.mem_append_right _ (List.mem_singleton_self _), hportal, huser⟩

end

end SignInTables.Sound

/-! The codes that a run judges. -/

/-- A number of attempts that the challenge of an id has counted. -/
def SignInTables.Counted (tables : SignInTables) (id : String) (n : Nat) : Prop :=
  n = 0 ∨ ∃ c ∈ tables.challenges, c.id = id ∧ n ≤ c.attemptCount

variable {n : Nat} {id : String}

/-- No move takes an attempt back. -/
theorem SignInMove.counted {tables tables' : SignInTables} (hmove : SignInMove tables tables')
    (h : tables.Sound) (hcounted : tables.Counted id n) :
    tables'.Counted id n := by
  obtain rfl | ⟨c, hc, hid, hle⟩ := hcounted
  · exact .inl rfl
  have hupdate (p : OtpChallenge → Bool) (set : OtpChallenge → OtpChallenge)
      (hset : (set c).id = c.id ∧ c.attemptCount ≤ (set c).attemptCount) :
      ∃ other ∈ updateWhere p set tables.challenges, other.id = id ∧ n ≤ other.attemptCount := by
    by_cases hp : p c = true
    · exact ⟨set c, mem_updateWhere.mpr (.inr ⟨c, hc, hp, rfl⟩), hset.1.trans hid,
        Nat.le_trans hle hset.2⟩
    · exact ⟨c, mem_updateWhere.mpr (.inl ⟨hc, by simpa using hp⟩), hid, hle⟩
  cases hmove with
  | known identities hidentities => exact .inr ⟨c, hc, hid, hle⟩
  | requested row now hfresh hnew =>
    obtain ⟨other, hother, hsame⟩ := hupdate (·.pending row.normalizedIdentityTarget)
      (fun c => { c with invalidatedAt := some now }) ⟨rfl, Nat.le_refl _⟩
    exact .inr ⟨other, List.mem_append_left _ hother, hsame⟩
  | missed own now hmem hopen hspent =>
    have hmax := h.attempts c hc
    refine .inr (hupdate _ _ ⟨rfl, ?_⟩)
    dsimp only
    omega
  | denied own now identities hmem hopen hspent hidentities =>
    exact .inr (hupdate _ _ ⟨rfl, Nat.le_refl _⟩)
  | opened own now session replay identities hmem hopen hspent hidentities hsession hids hproved =>
    exact .inr (hupdate _ _ ⟨rfl, Nat.le_refl _⟩)

/-- A session is opened by a code that is proven. -/
theorem verifyOtp_opens (input : VerifyOtpInput) :
    Commits (verifyOtp input clock) db fun _ db' =>
      db'.sessions = db.sessions ∨ ∃ c, Proves db input c := by
  unfold verifyOtp
  simp only [commits_bind]
  refine (consume_commits _ _ _ _).mono fun allowed db' hcounted => ?_
  obtain ⟨hallowed, buckets, rfl⟩ := hcounted
  simp only [commits_ite, commits_pure, commits_bind, commits_get]
  refine ⟨fun _ => .inl trivial, fun hpassed => ?_⟩
  split
  · simp only [commits_pure]
    exact .inl trivial
  rename_i c hfind
  simp only [commits_ite, commits_pure, commits_bind]
  refine ⟨fun _ => .inl trivial, fun hconsumed => ⟨fun _ => .inl trivial, fun hspent =>
    ⟨fun _ => ?_, fun hverified => ?_⟩⟩⟩
  · unfold updateChallenge
    simp only [commits_modify]
    exact .inl trivial
  · have hproves : Proves db input c :=
      { allowed := by simpa [hallowed] using hpassed
        found := hfind
        unconsumed := by simpa using hconsumed
        live := by simpa using hspent
        verified := by simpa using hverified }
    exact fun _ _ _ => .inr ⟨c, hproves⟩

/-- Only a proven code opens a session. -/
theorem BetaStep.opens (step : BetaStep) (h : (step.next db).sessions ≠ db.sessions) :
    ∃ input clock c, step = .verifyOtp input clock ∧ Proves db input c := by
  have hkept {α : Type} {x : Tx BetaDatabase α} {clock : TxClock}
      (hx : Commits x db fun _ db' => db'.sessions = db.sessions) :
      (db.transact x clock).sessions = db.sessions :=
    BetaDatabase.transact_signIns (fun tables => tables.sessions = db.sessions) rfl hx
  have hadmission {α : Type} {x : Tx BetaDatabase α} {clock : TxClock}
      (hx : Commits x db fun _ db' => db'.signIns = db.signIns) :
      (db.transact x clock).sessions = db.sessions :=
    hkept (hx.mono fun _ _ hsame => congrArg SignInTables.sessions hsame)
  cases step with
  | verifyOtp input clock =>
    refine ⟨input, clock, ?_⟩
    by_contra hnone
    refine h (hkept ((verifyOtp_opens input).mono fun _ _ hopens => ?_))
    obtain hsame | ⟨c, hproves⟩ := hopens
    · exact hsame
    · exact absurd ⟨c, rfl, hproves⟩ hnone
  | requestOtp input clock => exact absurd (hkept ((requestOtp_signIn input).mono fun _ _ h => h.2)) h
  | inviteIdentity input clock => exact absurd (hadmission (inviteIdentity_signIns input)) h
  | revokeIdentityInvitation input clock =>
    exact absurd (hadmission (revokeIdentityInvitation_signIns input)) h
  | mutate input clock => exact absurd (hadmission (mutate_signIns input)) h
  | grants managers => exact absurd rfl h
  | userStatus userId status => exact absurd rfl h

end SellerAgents.BetaAccess
