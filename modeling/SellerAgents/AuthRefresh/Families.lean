import SellerAgents.AuthRefresh.Rotation

namespace SellerAgents.AuthRefresh
open Subscriptions (Date)

variable {Token : Type}

/-- A refresh that any client asks for, with what the service reads and draws for it. -/
structure Presented (Token : Type) where
  refreshToken : Token
  idempotencyKey : Nat
  serviceNow : Date
  now : Date
  replacementId : Nat
  fails : Bool

/-- What happens to a token family: a refresh, or a revocation. -/
inductive SessionEvent (Token : Type) where
  | refresh (request : Presented Token)
  | revoke (now : Date)
  | setOwners (active : Bool)

/-- The session with the requests it answered, the last one first. -/
structure Session (Token : Type) where
  server : Server Token
  log : List (Presented Token × Rotation.Answer)

variable [DecidableEq Token] (derive : Token → Nat → Token)

/-- What the service asks the repository for. -/
def Presented.input (request : Presented Token) : RotateRefresh Token where
  tokenHash := request.refreshToken
  replacementHash := derive request.refreshToken request.idempotencyKey
  idempotencyHash := request.idempotencyKey
  expiresAt := request.serviceNow + refreshTokenTtlMs
  replayUntil := request.serviceNow + refreshReplayWindowMs

namespace Session

/-- One event, with the answer logged. -/
def step (w : Session Token) : SessionEvent Token → Session Token
  | .refresh request =>
    let result := w.server.rotateRefresh (request.input derive) request.now request.replacementId
      request.fails
    ⟨result.2, (request, result.1) :: w.log⟩
  | .revoke now =>
    if w.server.status = .active then
      { w with server := { w.server with status := .revoked, revokedAt := some now } }
    else w
  | .setOwners active => { w with server := { w.server with ownersActive := active } }

def run (w : Session Token) (events : List (SessionEvent Token)) : Session Token :=
  events.foldl (step derive) w

/-- A session with the one token that its activation gave out. -/
def opened (token : Token) (id : Nat) (expiresAt : Date) : Session Token where
  server :=
    { rows := [⟨id, token, 0, expiresAt, none, none, none, none, none⟩]
      status := .active
      revokedAt := none
      ownersActive := true }
  log := []

/-- The pairs of token and key that were asked for. -/
def asked (w : Session Token) : List (Token × Nat) :=
  w.log.map fun entry => (entry.1.refreshToken, entry.1.idempotencyKey)

end Session

/-! One refresh. -/

/-- What a refresh answers and leaves behind, whoever asks for it. -/
inductive Served (s : Server Token) (request : Presented Token) :
    Rotation.Answer × Server Token → Prop where
  | invalid : Served s request (.invalid, s)
  | rotated (active : s.status = .active) (token : RefreshTokenRow Token) (current : s.IsCurrent token)
      (hash : token.tokenHash = request.refreshToken)
      (admits : s.admits (replacement (request.input derive) token request.replacementId) = true) :
      Served s request (.rotated,
        s.rotate token (replacement (request.input derive) token request.replacementId) request.now)
  | replay (active : s.status = .active) (row : RefreshTokenRow Token)
      (successor : s.Successor derive request.refreshToken request.idempotencyKey row) :
      Served s request (.replay, s)
  | reuse (active : s.status = .active) (token : RefreshTokenRow Token) (mem : token ∈ s.rows)
      (hash : token.tokenHash = request.refreshToken) (consumed : token.consumedAt.isSome) :
      Served s request (.reuse, s.compromise token request.now)

variable {derive} {s : Server Token} {asked : List (Token × Nat)}

omit [DecidableEq Token] in
/-- A token has one successor. -/
theorem Server.Chain.successor_unique (h : s.Chain derive asked) {token : Token} {key key' : Nat}
    {row row' : RefreshTokenRow Token} (hrow : s.Successor derive token key row)
    (hrow' : s.Successor derive token key' row') : row = row' ∧ key = key' := by
  obtain ⟨old, hold, htoken, -, hmem, hreplaced, hkey, -⟩ := hrow
  obtain ⟨old', hold', htoken', -, hmem', hreplaced', hkey', -⟩ := hrow'
  obtain rfl := h.eq_of_token hold hold' (htoken.trans htoken'.symm)
  rw [hreplaced] at hreplaced'
  obtain rfl := h.eq_of_id hmem hmem' (Option.some.inj hreplaced')
  rw [hkey] at hkey'
  exact ⟨rfl, Option.some.inj hkey'⟩

omit [DecidableEq Token] in
/-- The row that is found for a replay succeeds the token with the key of the request. -/
theorem Server.Chain.successor_of_replayed (h : s.Chain derive asked) {key : Nat}
    {token row : RefreshTokenRow Token} (hmem : token ∈ s.rows)
    (hconsumed : token.consumedAt.isSome) (hrow : s.replayed token key = some row) :
    s.Successor derive token.tokenHash key row := by
  obtain ⟨key', next, -, hnext⟩ := h.consumed token hmem hconsumed
  have hsuccessor := hnext
  obtain ⟨old, hold, htoken, -, hmemNext, hreplaced, hkey, -⟩ := hnext
  obtain rfl := h.eq_of_token hold hmem htoken
  unfold Server.replayed at hrow
  rw [hreplaced, Option.bind_some] at hrow
  have hfound := List.find?_some hrow
  simp only [Bool.and_eq_true, decide_eq_true_eq] at hfound
  obtain rfl := h.eq_of_id (List.mem_of_find?_eq_some hrow) hmemNext hfound.1
  rw [hkey] at hfound
  rwa [← Option.some.inj hfound.2]

theorem Server.Chain.served (h : s.Chain derive asked) (request : Presented Token) :
    Served derive s request (s.rotateRefresh (request.input derive) request.now
      request.replacementId request.fails) := by
  unfold Server.rotateRefresh
  cases hfind : s.rows.find? fun row => row.tokenHash = (request.input derive).tokenHash with
  | none => exact .invalid
  | some token =>
    have hmem := List.mem_of_find?_eq_some hfind
    have hfound := List.find?_some hfind
    have hhash : token.tokenHash = request.refreshToken := of_decide_eq_true hfound
    dsimp only
    split
    · exact .invalid
    rename_i hstanding
    have hactive : s.status = .active := by
      simp only [Bool.or_eq_true, decide_eq_true_eq, not_or, not_not] at hstanding
      exact hstanding.1.1.2
    split
    · rename_i hnone
      split
      · exact .invalid
      · rename_i hok
        simp only [Bool.or_eq_true, Bool.not_eq_true', not_or, Bool.not_eq_false] at hok
        exact .rotated hactive token ⟨hmem, by simpa using hnone⟩ hhash hok.2
    · rename_i hsome
      have hconsumed : token.consumedAt.isSome = true := by
        simpa [Option.isSome_iff_ne_none] using hsome
      split
      · rename_i hreplay
        obtain ⟨row, hrow, -⟩ := (Option.any_eq_true _ _).mp hreplay
        exact .replay hactive row (hhash ▸ h.successor_of_replayed hmem hconsumed hrow)
      · exact .reuse hactive token hmem hhash hconsumed

/-! A reuse. -/

section Compromise
variable {token : RefreshTokenRow Token} {now : Date}

omit [DecidableEq Token] in
/-- The marks of a reuse keep all that a row is looked up by. -/
theorem Server.mem_compromise {x : RefreshTokenRow Token} :
    x ∈ (s.compromise token now).rows ↔ ∃ old ∈ s.rows, ∃ detected,
      x = { old with reuseDetectedAt := detected } ∧
        detected = if old.id = token.id then some (old.reuseDetectedAt.getD now)
          else old.reuseDetectedAt := by
  unfold Server.compromise
  rw [List.mem_map]
  constructor
  · rintro ⟨old, hold, rfl⟩
    refine ⟨old, hold, _, ?_, rfl⟩
    split <;> rfl
  · rintro ⟨old, hold, detected, rfl, rfl⟩
    refine ⟨old, hold, ?_⟩
    split <;> rfl

omit [DecidableEq Token] in
theorem Server.Successor.compromise {t : Token} {key : Nat} {row : RefreshTokenRow Token}
    (h : s.Successor derive t key row) :
    ∃ row', (s.compromise token now).Successor derive t key row' := by
  obtain ⟨old, hold, htoken, hconsumed, hrow, hrest⟩ := h
  exact ⟨_, _, mem_compromise.mpr ⟨old, hold, _, rfl, rfl⟩, htoken, hconsumed,
    mem_compromise.mpr ⟨row, hrow, _, rfl, rfl⟩, hrest⟩

omit [DecidableEq Token] in
theorem Server.rows_compromise {α : Type} (f : RefreshTokenRow Token → α)
    (hf : ∀ row detected, f { row with reuseDetectedAt := detected } = f row) :
    (s.compromise token now).rows.map f = s.rows.map f := by
  simp only [Server.compromise, List.map_map]
  refine List.map_congr_left fun row _ => ?_
  dsimp only [Function.comp]
  split
  · exact hf row _
  · rfl

omit [DecidableEq Token] in
theorem Server.Chain.compromise (h : s.Chain derive asked) :
    (s.compromise token now).Chain derive asked where
  ids := by
    rw [rows_compromise _ fun _ _ => rfl]
    exact h.ids
  tokens := by
    rw [rows_compromise _ fun _ _ => rfl]
    exact h.tokens
  current := by
    rintro a b ⟨ha, hna⟩ ⟨hb, hnb⟩
    obtain ⟨olda, hmema, da, rfl, hda⟩ := mem_compromise.mp ha
    obtain ⟨oldb, hmemb, db, rfl, hdb⟩ := mem_compromise.mp hb
    obtain rfl := h.current olda oldb ⟨hmema, hna⟩ ⟨hmemb, hnb⟩
    rw [hda, hdb]
  consumed := by
    intro old hold hconsumed
    obtain ⟨before, hmem, detected, rfl, -⟩ := mem_compromise.mp hold
    obtain ⟨key, row, hasked, hrow⟩ := h.consumed before hmem hconsumed
    obtain ⟨row', hrow'⟩ := hrow.compromise
    exact ⟨key, row', hasked, hrow'⟩

end Compromise

/-! Runs. -/

namespace Session

/-- Answers that hand out a token. -/
def handsOut (answer : Rotation.Answer) : Prop := answer = .rotated ∨ answer = .replay

/-- The chain of the family and what was handed out of it. -/
structure Inv (derive : Token → Nat → Token) (w : Session Token) : Prop where
  chain : w.server.Chain derive w.asked
  answered : ∀ e ∈ w.log, handsOut e.2 →
    ∃ row, w.server.Successor derive e.1.refreshToken e.1.idempotencyKey row
  once : w.log.Pairwise fun later earlier => later.2 = .rotated → earlier.2 = .rotated →
    later.1.refreshToken ≠ earlier.1.refreshToken
  ended : (∃ e ∈ w.log, e.2 = .reuse) → w.server.status = .compromised
  silent : w.log.Pairwise fun later earlier => earlier.2 = .reuse → later.2 = .invalid

variable {w : Session Token}

omit [DecidableEq Token] in
theorem Inv.none_reused (h : Inv derive w) (hactive : w.server.status = .active) :
    ∀ e ∈ w.log, e.2 ≠ .reuse := by
  intro e he hreuse
  have hended := h.ended ⟨e, he, hreuse⟩
  rw [hactive] at hended
  cases hended

omit [DecidableEq Token] in
theorem Inv.opened (derive : Token → Nat → Token) (token : Token) (id : Nat) (expiresAt : Date) :
    Inv derive (opened token id expiresAt) where
  chain :=
    { ids := List.nodup_singleton _
      tokens := List.nodup_singleton _
      current := fun a b ha hb =>
        (List.mem_singleton.mp ha.1).trans (List.mem_singleton.mp hb.1).symm
      consumed := by
        intro old hold hconsumed
        obtain rfl := List.mem_singleton.mp hold
        cases hconsumed }
  answered := by simp [Session.opened]
  once := List.Pairwise.nil
  ended := by simp [Session.opened]
  silent := List.Pairwise.nil

theorem Inv.refresh (h : Inv derive w) (request : Presented Token) :
    Inv derive (w.step derive (.refresh request)) := by
  have hchain := h.chain.mono (List.subset_cons_self
    (request.refreshToken, request.idempotencyKey) w.asked)
  have hmem : (request.refreshToken, request.idempotencyKey) ∈
      (request.refreshToken, request.idempotencyKey) :: w.asked := List.mem_cons_self
  have hserved := h.chain.served request
  rw [step]
  generalize w.server.rotateRefresh (request.input derive) request.now request.replacementId
    request.fails = result at hserved
  cases hserved with
  | invalid =>
    refine ⟨hchain, ?_, ?_, ?_, ?_⟩
    · simpa [handsOut] using h.answered
    · exact List.pairwise_cons.mpr ⟨by simp, h.once⟩
    · simpa using h.ended
    · exact List.pairwise_cons.mpr ⟨by simp, h.silent⟩
  | rotated active token current hash admits =>
    have hnone := h.none_reused active
    have hsuccessor := @Server.successor_rotate _ derive _ _
      (replacement (request.input derive) token request.replacementId) request.now _ current.1 rfl rfl
      (congrArg (derive · request.idempotencyKey) hash.symm)
    refine ⟨hchain.rotate current rfl admits rfl rfl
      (congrArg (derive · request.idempotencyKey) hash.symm) (hash ▸ hmem), ?_, ?_, ?_, ?_⟩
    · intro e he hands
      obtain rfl | hold := List.mem_cons.mp he
      · exact ⟨_, hash ▸ hsuccessor⟩
      · obtain ⟨row, hrow⟩ := h.answered e hold hands
        exact ⟨_, hrow.rotate h.chain current⟩
    · refine List.pairwise_cons.mpr ⟨fun e he _ hrotated hsame => ?_, h.once⟩
      obtain ⟨row, hrow⟩ := h.answered e he (.inl hrotated)
      exact h.chain.current_not_rotated current (hash.trans hsame ▸ hrow)
    · rintro ⟨e, he, hreuse⟩
      obtain rfl | hold := List.mem_cons.mp he
      · cases hreuse
      · exact absurd hreuse (hnone e hold)
    · exact List.pairwise_cons.mpr ⟨fun e he hreuse => absurd hreuse (hnone e he), h.silent⟩
  | replay active row successor =>
    have hnone := h.none_reused active
    refine ⟨hchain, ?_, ?_, ?_, ?_⟩
    · intro e he hands
      obtain rfl | hold := List.mem_cons.mp he
      · exact ⟨row, successor⟩
      · exact h.answered e hold hands
    · exact List.pairwise_cons.mpr ⟨by simp, h.once⟩
    · rintro ⟨e, he, hreuse⟩
      obtain rfl | hold := List.mem_cons.mp he
      · cases hreuse
      · exact absurd hreuse (hnone e hold)
    · exact List.pairwise_cons.mpr ⟨fun e he hreuse => absurd hreuse (hnone e he), h.silent⟩
  | reuse active token mem hash consumed =>
    have hnone := h.none_reused active
    refine ⟨hchain.compromise, ?_, ?_, fun _ => rfl, ?_⟩
    · intro e he hands
      obtain rfl | hold := List.mem_cons.mp he
      · simp [handsOut] at hands
      · obtain ⟨row, hrow⟩ := h.answered e hold hands
        exact hrow.compromise
    · exact List.pairwise_cons.mpr ⟨by simp, h.once⟩
    · exact List.pairwise_cons.mpr ⟨fun e he hreuse => absurd hreuse (hnone e he), h.silent⟩

theorem Inv.step (h : Inv derive w) (event : SessionEvent Token) : Inv derive (w.step derive event) := by
  cases event with
  | refresh request => exact h.refresh request
  | revoke now =>
    rw [Session.step]
    split
    · rename_i hactive
      have hnone := h.none_reused hactive
      exact ⟨⟨h.chain.ids, h.chain.tokens, h.chain.current, h.chain.consumed⟩, h.answered, h.once,
        fun ⟨e, he, hreuse⟩ => absurd hreuse (hnone e he), h.silent⟩
    · exact h
  | setOwners active =>
    exact ⟨⟨h.chain.ids, h.chain.tokens, h.chain.current, h.chain.consumed⟩, h.answered, h.once,
      h.ended, h.silent⟩

theorem Inv.run (h : Inv derive w) (events : List (SessionEvent Token)) :
    Inv derive (w.run derive events) := by
  induction events generalizing w with
  | nil => exact h
  | cons event rest ih => exact ih (h.step event)

/-- A rotated token that comes back with another key is a reuse. -/
theorem Inv.detects (h : Inv derive w) {e : Presented Token × Rotation.Answer} (he : e ∈ w.log)
    (hands : handsOut e.2) (request : Presented Token)
    (htoken : request.refreshToken = e.1.refreshToken)
    (hkey : request.idempotencyKey ≠ e.1.idempotencyKey) (hactive : w.server.status = .active)
    (hrevoked : w.server.revokedAt = none) (howners : w.server.ownersActive = true)
    (hlive : ∀ row ∈ w.server.rows, row.tokenHash = request.refreshToken → request.now < row.expiresAt) :
    (w.server.rotateRefresh (request.input derive) request.now request.replacementId
      request.fails).1 = .reuse := by
  obtain ⟨next, hnext⟩ := h.answered e he hands
  have hsuccessor := hnext
  obtain ⟨old, hold, holdToken, hconsumed, -⟩ := hnext
  have hsame : old.tokenHash = request.refreshToken := holdToken.trans htoken.symm
  have hfind : w.server.rows.find? (fun row => row.tokenHash = (request.input derive).tokenHash) =
      some old := by
    cases hfound : w.server.rows.find? fun row => row.tokenHash = (request.input derive).tokenHash with
    | none => exact absurd (decide_eq_true hsame) (List.find?_eq_none.mp hfound old hold)
    | some row =>
      have hrow := List.find?_some hfound
      have hmem := List.mem_of_find?_eq_some hfound
      exact congrArg some (h.chain.eq_of_token hmem hold ((of_decide_eq_true hrow).trans hsame.symm))
  have hreplayed : (w.server.replayed old request.idempotencyKey).any
      (fun row => row.replayExpiresAt.any (request.now < ·)) = false := by
    cases hrow : w.server.replayed old request.idempotencyKey with
    | none => rfl
    | some row =>
      have hother := h.chain.successor_of_replayed hold hconsumed hrow
      rw [holdToken] at hother
      exact absurd (h.chain.successor_unique hother hsuccessor).2 hkey
  have hopen : ¬ old.expiresAt ≤ request.now := Int.not_le.mpr (hlive old hold hsame)
  have hdone : old.consumedAt.isNone = false := by
    simpa [Option.isSome_iff_ne_none] using hconsumed
  unfold Server.rotateRefresh
  rw [hfind]
  simp only [howners, hactive, hrevoked, hopen, hdone, Presented.input, hreplayed, Bool.not_true,
    ne_eq, not_true_eq_false, decide_false, Option.isSome_none, Bool.or_self, Bool.false_eq_true,
    if_false]

end Session

/-- What the refresh service keeps against every client that may hold a token of the session. -/
structure FamilyLaws (derive : Token → Nat → Token) (w : Session Token) : Prop where
  /-- All that a token was answered with is one and the same token. -/
  forkless : ∀ e ∈ w.log, ∀ other ∈ w.log, Session.handsOut e.2 → Session.handsOut other.2 →
    e.1.refreshToken = other.1.refreshToken →
      derive e.1.refreshToken e.1.idempotencyKey = derive other.1.refreshToken other.1.idempotencyKey
  /-- A token is rotated once. -/
  once : w.log.Pairwise fun later earlier => later.2 = .rotated → earlier.2 = .rotated →
    later.1.refreshToken ≠ earlier.1.refreshToken
  /-- One token is current, and none that was rotated. -/
  current : ∀ row other, w.server.IsCurrent row → w.server.IsCurrent other → row = other
  retired : ∀ row, w.server.IsCurrent row → ∀ e ∈ w.log, Session.handsOut e.2 →
    row.tokenHash ≠ e.1.refreshToken
  /-- After a reuse the session is compromised, and no request is answered with a token. -/
  ended : (∃ e ∈ w.log, e.2 = .reuse) → w.server.status = .compromised
  silent : w.log.Pairwise fun later earlier => earlier.2 = .reuse → later.2 = .invalid
  /-- A rotated token that comes back with another key is found out. -/
  detects : ∀ e ∈ w.log, Session.handsOut e.2 → ∀ request : Presented Token,
    request.refreshToken = e.1.refreshToken → request.idempotencyKey ≠ e.1.idempotencyKey →
    w.server.status = .active → w.server.revokedAt = none → w.server.ownersActive = true →
    (∀ row ∈ w.server.rows, row.tokenHash = request.refreshToken → request.now < row.expiresAt) →
    (w.step derive (.refresh request)).server.status = .compromised

/-- A refresh token family never forks, whoever presents its tokens in whatever order. -/
theorem family_laws (derive : Token → Nat → Token) (token : Token) (id : Nat) (expiresAt : Date)
    (events : List (SessionEvent Token)) :
    FamilyLaws derive ((Session.opened token id expiresAt).run derive events) := by
  have h := (Session.Inv.opened derive token id expiresAt).run events
  refine ⟨?_, h.once, h.chain.current, ?_, h.ended, h.silent, ?_⟩
  · intro e he other hother hands handsOther hsame
    obtain ⟨row, hrow⟩ := h.answered e he hands
    obtain ⟨row', hrow'⟩ := h.answered other hother handsOther
    rw [← hsame] at hrow'
    rw [← hsame, (h.chain.successor_unique hrow hrow').2]
  · intro row hcurrent e he hands hsame
    obtain ⟨next, hnext⟩ := h.answered e he hands
    exact h.chain.current_not_rotated hcurrent (hsame ▸ hnext)
  · intro e he hands request htoken hkey hactive hrevoked howners hlive
    have hanswer := h.detects he hands request htoken hkey hactive hrevoked howners hlive
    exact (h.step (.refresh request)).ended ⟨(request, _), List.mem_cons_self, hanswer⟩

end SellerAgents.AuthRefresh
