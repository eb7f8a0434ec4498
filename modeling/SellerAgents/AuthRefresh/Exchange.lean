import SellerAgents.AuthRefresh.Steps

namespace SellerAgents.AuthRefresh
open Subscriptions (Date)

variable {Token : Type} [DecidableEq Token] {derive : Token → Nat → Token} {w w' : World Token}

/-- Whatever was rotated stays so. -/
def Server.Keeps (derive : Token → Nat → Token) (s s' : Server Token) : Prop :=
  ∀ token key row, s.Successor derive token key row → ∃ row', s'.Successor derive token key row'

section Keeps
omit [DecidableEq Token]
variable {s s' : Server Token} (hkeeps : s.Keeps derive s')
include hkeeps

theorem Flight.Sound.mono {flight : Flight Token} (h : flight.Sound derive s) :
    flight.Sound derive s' := by
  cases flight with
  | received context rotation credentials =>
    obtain ⟨hcontext, htoken, row, hrow⟩ := h
    exact ⟨hcontext, htoken, hkeeps _ _ row hrow⟩
  | preparing _ _ _ => exact h
  | ready _ _ _ => exact h
  | waiting _ _ _ _ => exact h
  | _ => trivial

theorem Flight.Believes.mono {flight : Flight Token} {reply : Reply Token}
    (h : flight.Believes derive s reply) : flight.Believes derive s' reply := by
  cases flight with
  | waiting second context rotation credentials =>
    intro accessToken refreshToken heq
    obtain ⟨htoken, row, hrow⟩ := h accessToken refreshToken heq
    exact ⟨htoken, hkeeps _ _ row hrow⟩
  | entering _ => exact h
  | preparing _ _ _ => exact h
  | ready _ _ _ => exact h
  | _ => trivial

end Keeps

namespace World.Inv

section

variable (h : w.Inv derive)
include h

/-- The server may change as long as it keeps its chain, its rotations and what the live states
hold. -/
theorem reserve {server : Server Token} (answers : List Rotation.Answer)
    (hchain : server.Chain derive w.sent) (hkeeps : w.server.Keeps derive server)
    (hrows : ∀ row ∈ w.server.rows, ∃ row' ∈ server.rows, row'.tokenHash = row.tokenHash)
    (hlive : ∀ state, w.Live state → state.Sound derive server w.sent) (hanswers : .reuse ∉ answers)
    (hstatus : server.status ≠ .compromised) :
    ({ w with server := server, answers := answers } : World Token).Inv derive where
  chain := hchain
  functional := h.functional
  rows := by
    intro token key hsent
    obtain ⟨row, hrow, htoken⟩ := h.rows token key hsent
    obtain ⟨row', hrow', htoken'⟩ := hrows row hrow
    exact ⟨row', hrow', htoken'.trans htoken⟩
  live := hlive
  records := h.records
  drawn := h.drawn
  flights := fun id flight hget => (h.flights id flight hget).mono hkeeps
  numbered := h.numbered
  requests := h.requests
  responses := by
    intro p hp
    obtain ⟨hlt, hmatch⟩ := h.responses p hp
    exact ⟨hlt, fun flight hget => (hmatch flight hget).mono hkeeps⟩
  aligned := by
    have haligned := h.aligned
    unfold World.Aligned at haligned ⊢
    dsimp only
    cases hmutation : w.mutation with
    | none => simpa [hmutation] using haligned
    | some mutation =>
      rw [hmutation] at haligned
      cases mutation with
      | denial next => exact haligned
      | cancel next written => exact haligned
      | commit next written id =>
        obtain ⟨state, credentials, hmemory, hdisk, hcredentials, hcases⟩ := haligned
        refine ⟨state, credentials, hmemory, hdisk, hcredentials, ?_⟩
        rcases hcases with hnone | ⟨row, key, hsuccessor⟩
        · exact .inl hnone
        · obtain ⟨row', hrow'⟩ := hkeeps _ _ row hsuccessor
          exact .inr ⟨row', key, hrow'⟩
  answers := hanswers
  uncompromised := hstatus

/-- A request that rotates the current token leaves every live state with the token before the
current one. -/
theorem rotated {token row : RefreshTokenRow Token} (now : Date) (key : Nat)
    (answers : List Rotation.Answer) (htoken : w.server.IsCurrent token)
    (hsent : (token.tokenHash, key) ∈ w.sent) (hfresh : row.consumedAt = none)
    (hadmits : w.server.admits row = true) (hkey : row.rotationIdempotencyHash = some key)
    (hreplay : row.replayExpiresAt.isSome) (hderived : row.tokenHash = derive token.tokenHash key)
    (hanswers : .reuse ∉ answers) :
    ({ w with server := w.server.rotate token row now, answers := answers } : World Token).Inv derive := by
  apply h.reserve
  · exact h.chain.rotate htoken hfresh hadmits hkey hreplay hderived hsent
  · exact fun _ _ _ hsuccessor => ⟨_, hsuccessor.rotate h.chain htoken⟩
  · exact fun other hother => ⟨_, Server.mem_rotate.mpr (.inl ⟨other, hother, rfl⟩), by simp⟩
  · intro state hstate
    refine ⟨fun credentials hcredentials => ?_, (h.live state hstate).rotation⟩
    rcases (h.live state hstate).holds credentials hcredentials with ⟨held, hheld, hheldToken, hkeys⟩ |
      ⟨held, key', hheld, -, -, -, hunsent⟩
    · obtain rfl := h.chain.current _ _ hheld htoken
      rw [hheldToken] at hsent
      refine .previous row key ((Server.isCurrent_rotate h.chain hheld hfresh).mpr rfl) ?_ hsent
        (hkeys key hsent) fun key' hrowSent => ?_
      · rw [← hheldToken]
        exact Server.successor_rotate hheld.1 hkey hreplay hderived
      · obtain ⟨other, hother, hotherToken⟩ := h.rows _ _ hrowSent
        exact (Server.admits_iff.mp hadmits other hother).2.1 hotherToken
    · obtain rfl := h.chain.current _ _ hheld htoken
      exact absurd hsent (hunsent key)
  · exact hanswers
  · exact h.uncompromised

/-- A response to a request arrives on the network. -/
theorem respond {q : Request Token} (hq : q ∈ w.requests) (reply : Reply Token)
    (hreply : ∀ accessToken refreshToken, reply = .refreshed accessToken refreshToken →
      refreshToken = derive q.refreshToken q.idempotencyKey ∧
        ∃ row, w.server.Successor derive q.refreshToken q.idempotencyKey row) :
    ({ w with responses := ⟨q.flight, q.second, reply⟩ :: w.responses } : World Token).Inv derive :=
  { h with
    responses := by
      intro p hp
      rcases List.mem_cons.mp hp with rfl | hold
      · obtain ⟨-, hlt, hmatch⟩ := h.requests q hq
        refine ⟨hlt, fun flight hget => ?_⟩
        have hsent := hmatch flight hget
        cases flight with
        | waiting second context rotation credentials =>
          obtain ⟨htoken, hkey⟩ := hsent
          intro accessToken refreshToken heq
          rw [htoken, hkey]
          exact hreply accessToken refreshToken heq
        | entering _ => exact hsent
        | preparing _ _ _ => exact hsent
        | ready _ _ _ => exact hsent
        | _ => trivial
      · exact h.responses p hold }

theorem serve {index replacementId accessToken : Nat} {serviceNow now : Date}
    {fails identified : Bool}
    (hstep : w.serve derive index serviceNow now replacementId fails identified accessToken = some w') :
    w'.Inv derive := by
  unfold World.serve at hstep
  obtain ⟨q, hget, hstep⟩ := Option.bind_eq_some_iff.mp hstep
  have hq : q ∈ w.requests := List.mem_of_getElem? hget
  obtain ⟨hsent, -, -⟩ := h.requests q hq
  split at hstep
  · cases hstep
  rename_i hwindow
  have hwindow : w.server.inWindow q.refreshToken q.idempotencyKey now = true := by simpa using hwindow
  have hrotates := h.chain.rotates ⟨q.refreshToken, derive q.refreshToken q.idempotencyKey,
    q.idempotencyKey, serviceNow + refreshTokenTtlMs, serviceNow + refreshReplayWindowMs⟩ replacementId fails
    (fun key hkey => h.functional _ _ _ hkey hsent) hwindow
  obtain rfl := Option.some.inj hstep
  generalize w.server.rotateRefresh _ now replacementId fails = result at hrotates ⊢
  have hshrink : w.requests.eraseIdx index ⊆ w.requests := List.eraseIdx_subset
  cases hrotates with
  | invalid =>
    have hanswered := h.reserve (.invalid :: w.answers) h.chain
      (fun _ _ row hrow => ⟨row, hrow⟩) (fun row hrow => ⟨row, hrow, rfl⟩) h.live
      (by simp [h.answers]) h.uncompromised
    have hreply := hanswered.respond (q := q) hq (reply derive .invalid q identified accessToken)
      (by simp [reply])
    exact hreply.lose hshrink (List.Subset.refl _)
  | rotated token current hash admits =>
    have hanswered := h.rotated now q.idempotencyKey (.rotated :: w.answers) current
      (by rw [hash]; exact hsent) rfl admits rfl rfl (by rw [hash]; rfl) (by simp [h.answers])
    have hreply := hanswered.respond (q := q) hq (reply derive .rotated q identified accessToken)
      fun accessToken' refreshToken heq => by
        unfold reply at heq
        split at heq
        · obtain ⟨-, rfl⟩ := Reply.refreshed.inj heq
          refine ⟨rfl, replacement ⟨q.refreshToken, derive q.refreshToken q.idempotencyKey,
            q.idempotencyKey, serviceNow + refreshTokenTtlMs, serviceNow + refreshReplayWindowMs⟩ token
            replacementId, ?_⟩
          have htoken : token.tokenHash = q.refreshToken := hash
          rw [← htoken]
          exact Server.successor_rotate current.1 rfl rfl (by rw [hash]; rfl)
        · cases heq
    exact hreply.lose hshrink (List.Subset.refl _)
  | replay token mem hash consumed =>
    have hanswered := h.reserve (.replay :: w.answers) h.chain
      (fun _ _ row hrow => ⟨row, hrow⟩) (fun row hrow => ⟨row, hrow, rfl⟩) h.live
      (by simp [h.answers]) h.uncompromised
    have hreply := hanswered.respond (q := q) hq (reply derive .replay q identified accessToken)
      fun accessToken' refreshToken heq => by
        unfold reply at heq
        split at heq
        · obtain ⟨-, rfl⟩ := Reply.refreshed.inj heq
          obtain ⟨key, row, hkey, hrow⟩ := h.chain.consumed token mem consumed
          rw [hash] at hkey hrow
          obtain rfl := h.functional _ _ _ hkey hsent
          exact ⟨rfl, row, hrow⟩
        · cases heq
    exact hreply.lose hshrink (List.Subset.refl _)

theorem unavailable {index : Nat} (hstep : w.unavailable index = some w') :
    w'.Inv derive := by
  unfold World.unavailable at hstep
  obtain ⟨q, hget, rfl⟩ := Option.map_eq_some_iff.mp hstep
  have hreply := h.respond (q := q) (List.mem_of_getElem? hget) .failed
    (fun _ _ heq => by cases heq)
  exact hreply.lose List.eraseIdx_subset (List.Subset.refl _)

theorem deliver {index : Nat} (hstep : w.deliver index = some w') :
    w'.Inv derive := by
  unfold World.deliver at hstep
  obtain ⟨p, hget, rfl⟩ := Option.map_eq_some_iff.mp hstep
  have hp : p ∈ w.responses := List.mem_of_getElem? hget
  have hlost := h.lose (List.Subset.refl w.requests) (List.eraseIdx_subset (l := w.responses) (k := index))
  dsimp only
  split
  · rename_i second context rotation credentials hflight
    split
    · apply hlost.setFlight
      intro flight hanswered
      have hbelieves := (h.responses p hp).2 _ hflight
      have hsound := h.flights _ _ hflight
      have hknown : w.Known rotation := .flight _ _ hflight rfl
      have hlt := h.numbered _ _ hflight
      cases hreply : p.reply with
      | refreshed accessToken refreshToken =>
        rw [hreply] at hanswered
        obtain rfl := Option.some.inj hanswered
        obtain ⟨htoken, hrow⟩ := hbelieves accessToken refreshToken hreply
        refine ⟨⟨hsound, htoken, hrow⟩, hlt, fun r hr => ?_, fun _ _ _ => trivial, fun _ _ _ => trivial⟩
        obtain rfl := Option.some.inj hr
        exact hknown
      | refreshInvalid =>
        rw [hreply] at hanswered
        obtain rfl := Option.some.inj hanswered
        exact ⟨trivial, hlt, fun r hr => (by cases hr), fun _ _ _ => trivial, fun _ _ _ => trivial⟩
      | failed =>
        rw [hreply] at hanswered
        cases hanswered
    · exact hlost
  · exact hlost

theorem send {id : Nat} (hcancelling : w.cancelling = false) (hstep : w.send id = some w') :
    w'.Inv derive := by
  unfold World.send at hstep
  split at hstep
  · rename_i state context rotation credentials hstate hget
    split at hstep
    · rename_i hcurrent
      obtain rfl := Option.some.inj hstep
      have hnone := h.unsent_flight hget (fun _ _ hsent => hsent) (fun _ hbelieves => hbelieves)
      have hsound := h.flights id _ hget
      have hlt := h.numbered id _ hget
      have hknown : w.Known rotation := .flight id _ hget rfl
      have hwaiting : (w.setFlight id (some (.waiting false context rotation credentials))).Inv derive := by
        apply h.setFlight
        intro flight hflight
        obtain rfl := Option.some.inj hflight
        refine ⟨hsound, hlt, fun r hr => ?_, fun q hq hid => absurd hid (hnone.1 q hq),
          fun p hp hid => absurd hid (hnone.2 p hp)⟩
        obtain rfl := Option.some.inj hr
        exact hknown
      exact hwaiting.post id false false credentials hcancelling hstate
        (by simp [World.setFlight]) hcurrent
    · obtain rfl := Option.some.inj hstep
      exact h.endFlight id
  · cases hstep

theorem transportFailure {id : Nat} (hcancelling : w.cancelling = false)
    (hstep : w.transportFailure id = some w') : w'.Inv derive := by
  unfold World.transportFailure at hstep
  split at hstep
  · rename_i state context rotation credentials hstate hget
    split at hstep
    · rename_i hcurrent
      obtain rfl := Option.some.inj hstep
      have hsound := h.flights id _ hget
      have hlt := h.numbered id _ hget
      have hknown : w.Known rotation := .flight id _ hget rfl
      have hmatch : ∀ q ∈ w.requests, q.flight = id → rotation.refreshToken = q.refreshToken ∧
          rotation.idempotencyKey = q.idempotencyKey := by
        rintro q hq rfl
        exact (h.requests q hq).2.2 _ hget
      have hbelieves : ∀ p ∈ w.responses, p.flight = id → ∀ accessToken refreshToken,
          p.reply = .refreshed accessToken refreshToken →
            refreshToken = derive rotation.refreshToken rotation.idempotencyKey ∧
            ∃ row, w.server.Successor derive rotation.refreshToken rotation.idempotencyKey row := by
        rintro p hp rfl
        exact (h.responses p hp).2 _ hget
      have hwaiting : (w.setFlight id (some (.waiting true context rotation credentials))).Inv derive := by
        apply h.setFlight
        intro flight hflight
        obtain rfl := Option.some.inj hflight
        refine ⟨hsound, hlt, fun r hr => ?_, hmatch, hbelieves⟩
        obtain rfl := Option.some.inj hr
        exact hknown
      exact hwaiting.post id true true credentials hcancelling hstate
        (by simp [World.setFlight]) hcurrent
    · obtain rfl := Option.some.inj hstep
      exact h.endFlight id
  · obtain rfl := Option.some.inj hstep
    exact h.endFlight id
  · cases hstep

end

end World.Inv

end SellerAgents.AuthRefresh
