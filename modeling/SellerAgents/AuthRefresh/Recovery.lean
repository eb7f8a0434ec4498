import SellerAgents.AuthRefresh.Mutations

namespace SellerAgents.AuthRefresh
open Subscriptions (Date)

variable {Token : Type} [DecidableEq Token] {derive : Token → Nat → Token} {w w' : World Token}

namespace World.Inv

/-- The session may be revoked and its owners change. -/
theorem restatus (h : w.Inv derive) {status : SessionStatus} {revokedAt : Option Date}
    {ownersActive : Bool} (hstatus : status ≠ .compromised) :
    ({ w with server := { w.server with
        status := status, revokedAt := revokedAt, ownersActive := ownersActive } } : World Token).Inv derive := by
  apply h.reserve w.answers
  · exact ⟨h.chain.ids, h.chain.tokens, h.chain.current, h.chain.consumed⟩
  · exact fun _ _ row hrow => ⟨row, hrow⟩
  · exact fun row hrow => ⟨row, hrow, rfl⟩
  · intro state hstate
    have hsound := h.live state hstate
    refine ⟨fun credentials hcredentials => ?_, hsound.rotation⟩
    rcases hsound.holds credentials hcredentials with ⟨row, hrow, htoken, hkeys⟩ |
      ⟨row, key, hrow, hsuccessor, hwas, heq, hunsent⟩
    · exact .current row hrow htoken hkeys
    · exact .previous row key hrow hsuccessor hwas heq hunsent
  · exact h.answers
  · exact hstatus

theorem activated (derive : Token → Nat → Token) (credentials : Credentials Token) (generation id : Nat)
    (expiresAt : Date) : (World.activated credentials generation id expiresAt).Inv derive := by
  let row : RefreshTokenRow Token :=
    ⟨id, credentials.refreshToken, 0, expiresAt, none, none, none, none, none⟩
  have hlive : ∀ state, (World.activated credentials generation id expiresAt).Live state →
      state = ⟨generation, some credentials, none⟩ := by
    rintro state (hmem | hdisk | ⟨mutation, hrunning, -⟩)
    · exact (Option.some.inj hmem).symm
    · exact hdisk.symm
    · cases hrunning
  have hknown : ∀ r, ¬ (World.activated credentials generation id expiresAt).Known r := by
    rintro r (⟨state, hstate, heq⟩ | ⟨id', flight, hget, -⟩)
    · rw [hlive state hstate] at heq
      cases heq
    · cases hget
  exact
    { chain :=
        { ids := List.nodup_singleton _
          tokens := List.nodup_singleton _
          current := fun a b ha hb => (List.mem_singleton.mp ha.1).trans (List.mem_singleton.mp hb.1).symm
          consumed := by
            intro old hold hconsumed
            obtain rfl := List.mem_singleton.mp hold
            cases hconsumed }
      functional := fun _ _ _ hsent => by cases hsent
      rows := fun _ _ hsent => by cases hsent
      live := by
        intro state hstate
        obtain rfl := hlive state hstate
        refine ⟨fun held hheld => ?_, fun r hr => by cases hr⟩
        obtain rfl := Option.some.inj hheld
        exact .current row ⟨List.mem_singleton_self _, rfl⟩ rfl fun key hsent => by cases hsent
      records := fun r _ hr => absurd hr (hknown r)
      drawn := fun r hr => absurd hr (hknown r)
      flights := fun _ _ hget => by cases hget
      numbered := fun _ _ hget => by cases hget
      requests := fun _ hq => by cases hq
      responses := fun _ hp => by cases hp
      aligned := fun _ hmem => Option.some.inj hmem
      answers := by simp [World.activated]
      uncompromised := by simp [World.activated] }

/-- A prudent step keeps the invariant. -/
theorem step (h : w.Inv derive) {event : Event} (hprudent : w.Prudent event)
    (hstep : w.step derive event = some w') : w'.Inv derive := by
  cases event with
  | refresh context force rejected fresh => exact h.refresh hstep
  | prepare id => exact h.prepare hstep
  | write => exact h.write hstep
  | finish => exact h.finish hstep
  | send id => exact h.send hprudent hstep
  | transportFailure id => exact h.transportFailure hprudent hstep
  | serve index serviceNow now replacementId fails identified accessToken => exact h.serve hstep
  | unavailable index => exact h.unavailable hstep
  | loseRequest index =>
    obtain rfl := Option.some.inj hstep
    exact h.lose List.eraseIdx_subset (List.Subset.refl _)
  | loseResponse index =>
    obtain rfl := Option.some.inj hstep
    exact h.lose (List.Subset.refl _) List.eraseIdx_subset
  | deliver index => exact h.deliver hstep
  | accept id => exact h.accept hstep
  | reject id => exact h.reject hstep
  | invalidateKnown context terminal =>
    apply h.invalidateKnown _ hstep
    rintro rfl
    exact hprudent
  | commonDeny context => exact h.commonDeny hprudent hstep
  | cancelActivation => exact h.cancelActivation hprudent hstep
  | crash =>
    obtain rfl := Option.some.inj hstep
    exact h.crash
  | restore discard =>
    apply h.restore _ hstep
    rintro rfl
    exact hprudent
  | revoke now =>
    obtain rfl := Option.some.inj hstep
    unfold World.revoke
    split
    · exact h.restatus (by simp)
    · exact h
  | setOwners active =>
    obtain rfl := Option.some.inj hstep
    exact h.restatus h.uncompromised

/-- A prudent run keeps the invariant. -/
theorem run {events : List Event} (h : w.Inv derive) (hprudent : w.PrudentRun derive events)
    (hrun : w.run derive events = some w') : w'.Inv derive := by
  induction events generalizing w with
  | nil =>
    obtain rfl := Option.some.inj hrun
    exact h
  | cons event events ih =>
    obtain ⟨next, hstep, hrest⟩ := Option.bind_eq_some_iff.mp hrun
    exact ih (h.step hprudent.1 hstep) (hprudent.2 next hstep) hrest

end World.Inv

/-- The client holds the token that the server considers current, or no credentials. -/
def World.Settled (w : World Token) : Prop :=
  ∃ state, w.memory = some state ∧ ∀ credentials, state.credentials = some credentials →
    ∃ row, w.server.IsCurrent row ∧ row.tokenHash = credentials.refreshToken

/-- A restart, or a step of a refresh whose requests are served without a failure. -/
def Event.refreshes : Event → Bool
  | .crash | .restore false | .refresh .. | .prepare _ | .write | .finish | .send _ | .deliver _
  | .accept _ | .reject _ => true
  | .serve _ _ _ _ fails identified _ => !fails && identified
  | _ => false

/-- A prudent run of restarts and refreshes leads from one world to another. -/
def World.Leads (derive : Token → Nat → Token) (w w' : World Token) : Prop :=
  ∃ events, events.all Event.refreshes ∧ w.PrudentRun derive events ∧
    w.run derive events = some w'

namespace World.Leads

theorem refl : w.Leads derive w := ⟨[], rfl, trivial, rfl⟩

theorem step (event : Event) {next : World Token} (hrefreshes : event.refreshes = true)
    (hprudent : w.Prudent event) (hstep : w.step derive event = some next)
    (h : next.Leads derive w') : w.Leads derive w' := by
  obtain ⟨events, hall, hrest, hrun⟩ := h
  refine ⟨event :: events, ?_, ⟨hprudent, fun other hother => ?_⟩, ?_⟩
  · rw [List.all_cons, hrefreshes, hall]
    rfl
  · obtain rfl := Option.some.inj (hstep.symm.trans hother)
    exact hrest
  · simp [World.run, hstep, hrun]

end World.Leads

theorem World.Inv.leads (h : w.Inv derive) (hleads : w.Leads derive w') : w'.Inv derive := by
  obtain ⟨events, -, hprudent, hrun⟩ := hleads
  exact h.run hprudent hrun

/-- Without a rotation record the client is settled. -/
theorem World.Inv.settled (h : w.Inv derive) {state : ClientState Token} (hmemory : w.memory = some state)
    (hrotation : state.rotation = none) : w.Settled := by
  refine ⟨state, hmemory, fun credentials hcredentials => ?_⟩
  rcases (h.live state (.memory hmemory)).holds credentials hcredentials with ⟨row, hrow, htoken, -⟩ |
    ⟨row, key, -, -, -, heq, -⟩
  · exact ⟨row, hrow, htoken⟩
  · rw [hrotation] at heq
    cases heq

/-- A rotation that is repeated inside its window changes nothing at the server. -/
theorem Server.Chain.repeats {s : Server Token} {sent : List (Token × Nat)} (h : s.Chain derive sent)
    {input : RotateRefresh Token} {now : Date} {replacementId : Nat} {fails : Bool}
    {row : RefreshTokenRow Token}
    (hsent : ∀ key, (input.tokenHash, key) ∈ sent → key = input.idempotencyHash)
    (hwindow : s.inWindow input.tokenHash input.idempotencyHash now = true)
    (hsuccessor : s.Successor derive input.tokenHash input.idempotencyHash row) :
    s.rotateRefresh input now replacementId fails = (.invalid, s) ∨
      s.rotateRefresh input now replacementId fails = (.replay, s) := by
  have hrotates := h.rotates input replacementId fails hsent hwindow
  generalize s.rotateRefresh input now replacementId fails = result at hrotates ⊢
  cases hrotates with
  | invalid => exact .inl rfl
  | rotated token current hash => exact absurd (hash ▸ hsuccessor) (h.current_not_rotated current)
  | replay => exact .inr rfl

/-- The window of a rotation is open at some time. -/
theorem Server.Chain.window {s : Server Token} {sent : List (Token × Nat)} (h : s.Chain derive sent)
    {token : Token} {key : Nat} {row : RefreshTokenRow Token} (hsuccessor : s.Successor derive token key row) :
    ∃ now, s.inWindow token key now = true := by
  obtain ⟨old, hold, htoken, -, hrow, hreplaced, hkey, hreplay, -⟩ := hsuccessor
  obtain ⟨closes, hcloses⟩ := Option.isSome_iff_exists.mp hreplay
  refine ⟨closes - 1, ?_⟩
  unfold Server.inWindow
  cases hfind : s.rows.find? fun other => other.tokenHash = token with
  | none => rfl
  | some found =>
    have hfound : found = old := by
      apply h.eq_of_token (List.mem_of_find?_eq_some hfind) hold
      have hhash : found.tokenHash = token := by simpa using List.find?_some hfind
      exact hhash.trans htoken.symm
    dsimp only
    rw [Option.all_eq_true]
    intro replay hreplayed
    unfold Server.replayed at hreplayed
    rw [hfound, hreplaced, Option.bind_some] at hreplayed
    have hid : replay.id = row.id ∧ replay.rotationIdempotencyHash = some key := by
      simpa using List.find?_some hreplayed
    obtain rfl := h.eq_of_id (List.mem_of_find?_eq_some hreplayed) hrow hid.1
    rw [hcloses, Option.any_some, decide_eq_true_eq]
    exact Int.sub_lt_self closes (by decide)

theorem ClientState.isCurrent_context {Token : Type} (state : ClientState Token)
    (rotation : RotationRecord Token) (h : state.rotation = some rotation) :
    state.isCurrent state.context = true ∧
      state.isCurrent { state.context with rotationKey := some rotation.idempotencyKey } = true := by
  simp [isCurrent, context, h]

/-- A worker whose only refresh waits for its next step. -/
structure World.At (w : World Token) (state : ClientState Token) (server : Server Token) (id : Nat)
    (flight : Flight Token) : Prop where
  memory : w.memory = some state
  mutation : w.mutation = none
  server : w.server = server
  flight : w.flights id = some flight

namespace World.At

variable {state : ClientState Token} {server : Server Token} {id : Nat} {context : Context}
  {rotation : RotationRecord Token} {credentials : Credentials Token} (derive : Token → Nat → Token)

/-- A restored worker enters a forced refresh. -/
theorem enter (hmemory : w.memory = some state) (hmutation : w.mutation = none)
    (hflight : w.refreshFlight = none) (hcredentials : state.credentials = some credentials)
    (hrotation : state.rotation = some rotation) :
    ∃ w', w.step derive (.refresh none true none false) = some w' ∧
      w'.At state w.server w.nextFlight (.entering state.context) := by
  have hcurrent := (state.isCurrent_context rotation hrotation).1
  refine ⟨{ w.setFlight w.nextFlight (some (.entering state.context)) with
    refreshFlight := some w.nextFlight
    nextFlight := w.nextFlight + 1 }, ?_, ⟨hmemory, hmutation, rfl, by simp [World.setFlight]⟩⟩
  simp [World.step, World.refresh, hmemory, hcurrent, hcredentials, World.coalesced, hflight]

/-- The refresh finds the rotation record that stands. -/
theorem ready (h : w.At state server id (.entering state.context))
    (hcredentials : state.credentials = some credentials) (hrotation : state.rotation = some rotation)
    (hgeneration : rotation.generation = state.generation)
    (htoken : rotation.refreshToken = credentials.refreshToken) :
    ∃ w', w.step derive (.prepare id) = some w' ∧ w'.At state server id (.ready
      { state.context with rotationKey := some rotation.idempotencyKey } rotation credentials) := by
  have hcurrent := (state.isCurrent_context rotation hrotation).1
  have hstanding : state.standing credentials = some rotation := by
    simp [ClientState.standing, hrotation, hgeneration, htoken]
  refine ⟨w.setFlight id (some (.ready { state.context with rotationKey := some rotation.idempotencyKey }
    rotation credentials)), ?_, ⟨h.memory, h.mutation, h.server, by simp [World.setFlight]⟩⟩
  simp [World.step, World.prepare, h.memory, h.mutation, h.flight, hcurrent, hcredentials, hstanding]

theorem sent (h : w.At state server id (.ready context rotation credentials))
    (hcurrent : state.isCurrent context = true) :
    ∃ w', w.step derive (.send id) = some w' ∧
      w'.At state server id (.waiting false context rotation credentials) ∧
      w'.requests[0]? = some ⟨id, false, rotation.refreshToken, rotation.idempotencyKey⟩ := by
  refine ⟨(w.post id false rotation).setFlight id (some (.waiting false context rotation credentials)),
    ?_, ⟨h.memory, h.mutation, h.server, by simp [World.setFlight]⟩, rfl⟩
  simp [World.step, World.send, h.memory, h.flight, hcurrent]

/-- The repeated request is answered and its reply arrives. -/
theorem answered (h : w.At state server id (.waiting false context rotation credentials))
    (hrequest : w.requests[0]? = some ⟨id, false, rotation.refreshToken, rotation.idempotencyKey⟩)
    {now : Date} (hwindow : server.inWindow rotation.refreshToken rotation.idempotencyKey now = true)
    (hrepeats : ∀ input : RotateRefresh Token, input.tokenHash = rotation.refreshToken →
      input.idempotencyHash = rotation.idempotencyKey →
      server.rotateRefresh input now 0 false = (.invalid, server) ∨
        server.rotateRefresh input now 0 false = (.replay, server)) :
    ∃ w' w'' flight, w.step derive (.serve 0 0 now 0 false true 0) = some w' ∧
      w'.step derive (.deliver 0) = some w'' ∧ w''.At state server id flight ∧
      (flight = .rejected context ∨ ∃ received, flight = .received context rotation received) := by
  have hserve := hrepeats ⟨rotation.refreshToken, derive rotation.refreshToken rotation.idempotencyKey,
    rotation.idempotencyKey, refreshTokenTtlMs, refreshReplayWindowMs⟩ rfl rfl
  have hstep (answer : Rotation.Answer) (hanswer : server.rotateRefresh
      ⟨rotation.refreshToken, derive rotation.refreshToken rotation.idempotencyKey,
        rotation.idempotencyKey, refreshTokenTtlMs, refreshReplayWindowMs⟩ now 0 false =
      (answer, server)) : ∃ w', w.step derive (.serve 0 0 now 0 false true 0) = some w' ∧
        w'.At state server id (.waiting false context rotation credentials) ∧
        w'.responses[0]? = some ⟨id, false, reply derive answer
          ⟨id, false, rotation.refreshToken, rotation.idempotencyKey⟩ true 0⟩ := by
    refine ⟨{ w with
      requests := w.requests.eraseIdx 0
      responses := ⟨id, false, reply derive answer
        ⟨id, false, rotation.refreshToken, rotation.idempotencyKey⟩ true 0⟩ :: w.responses
      server := server
      answers := answer :: w.answers }, ?_, ⟨h.memory, h.mutation, rfl, h.flight⟩, rfl⟩
    simp [World.step, World.serve, hrequest, h.server, hwindow, hanswer]
  rcases hserve with hinvalid | hreplay
  · obtain ⟨w', hserved, hat, hresponse⟩ := hstep .invalid hinvalid
    refine ⟨w', { w' with responses := w'.responses.eraseIdx 0 }.setFlight id (some (.rejected context)), _,
      hserved, ?_, ⟨hat.memory, hat.mutation, hat.server, by simp [World.setFlight]⟩, .inl rfl⟩
    simp [World.step, World.deliver, hresponse, hat.flight, reply, Flight.answered]
  · obtain ⟨w', hserved, hat, hresponse⟩ := hstep .replay hreplay
    let received : Credentials Token := { credentials with
      accessToken := 0
      refreshToken := derive rotation.refreshToken rotation.idempotencyKey }
    refine ⟨w', { w' with responses := w'.responses.eraseIdx 0 }.setFlight id
      (some (.received context rotation received)), .received context rotation received, hserved, ?_,
      ⟨hat.memory, hat.mutation, hat.server, by simp [World.setFlight]⟩, .inr ⟨received, rfl⟩⟩
    simp [World.step, World.deliver, hresponse, hat.flight, reply, Flight.answered, received]

/-- A received refresh is committed. -/
theorem committed (h : w.At state server id (.received context rotation credentials))
    (hcurrent : state.isCurrent context = true) :
    ∃ w' next, w.Leads derive w' ∧ w'.memory = some next ∧ next.rotation = none := by
  let next : ClientState Token := { state with credentials := some credentials, rotation := none }
  let accepted : World Token := { w.setFlight id (some (.accepting context)) with
    mutation := some (.commit next false id) }
  let written : World Token := { accepted with disk := next, mutation := some (.commit next true id) }
  let finished : World Token :=
    { written.setFlight id (written.committed id) with memory := some next, mutation := none }
  refine ⟨finished, next, ?_, rfl, rfl⟩
  have haccept : w.step derive (.accept id) = some accepted := by
    simp [World.step, World.accept, h.memory, h.mutation, h.flight, hcurrent, accepted, next]
  have hwrite : accepted.step derive .write = some written := rfl
  have hfinish : written.step derive .finish = some finished := rfl
  exact .step (.accept id) rfl trivial haccept
    (.step .write rfl trivial hwrite (.step .finish rfl trivial hfinish .refl))

end World.At

namespace World.Inv

end World.Inv

end SellerAgents.AuthRefresh
