import SellerAgents.AuthRefresh.Rotation

namespace SellerAgents.AuthRefresh
open Subscriptions (Date)

variable {Token : Type} [DecidableEq Token] {derive : Token → Nat → Token} {w w' : World Token}

namespace World.Inv

/-! Steps of the flights and of the network. -/

variable {state : ClientState Token} {id : Nat} {rotation : RotationRecord Token}

section

variable (h : w.Inv derive)
include h

/-- A flight may be added or go on when what it knows is known and no message says otherwise. -/
theorem setFlight {new : Option (Flight Token)}
    (hnew : ∀ flight, new = some flight → flight.Sound derive w.server ∧ id < w.nextFlight ∧
      (∀ r, flight.rotation = some r → w.Known r) ∧
      (∀ q ∈ w.requests, q.flight = id → flight.Sent q.refreshToken q.idempotencyKey) ∧
      ∀ p ∈ w.responses, p.flight = id → flight.Believes derive w.server p.reply) :
    (w.setFlight id new).Inv derive := by
  have hflight : ∀ id' flight, (w.setFlight id new).flights id' = some flight →
      (id' = id ∧ new = some flight) ∨ w.flights id' = some flight := by
    intro id' flight hget
    by_cases hid : id' = id
    · subst hid
      exact .inl ⟨rfl, by simpa [World.setFlight] using hget⟩
    · exact .inr (by simpa [World.setFlight, hid] using hget)
  have hknown : ∀ r, (w.setFlight id new).Known r → w.Known r := by
    rintro r (⟨state, hstate, heq⟩ | ⟨id', flight, hget, heq⟩)
    · exact .live state hstate heq
    · rcases hflight id' flight hget with ⟨-, hnew'⟩ | hold
      · exact (hnew flight hnew').2.2.1 r heq
      · exact .flight id' flight hold heq
  exact
    { chain := h.chain
      functional := h.functional
      rows := h.rows
      live := h.live
      records := fun r r' hr hr' => h.records r r' (hknown r hr) (hknown r' hr')
      drawn := fun r hr => h.drawn r (hknown r hr)
      flights := by
        intro id' flight hget
        rcases hflight id' flight hget with ⟨-, hnew'⟩ | hold
        · exact (hnew flight hnew').1
        · exact h.flights id' flight hold
      numbered := by
        intro id' flight hget
        rcases hflight id' flight hget with ⟨rfl, hnew'⟩ | hold
        · exact (hnew flight hnew').2.1
        · exact h.numbered id' flight hold
      requests := by
        intro q hq
        obtain ⟨hsent, hlt, hmatch⟩ := h.requests q hq
        refine ⟨hsent, hlt, fun flight hget => ?_⟩
        rcases hflight q.flight flight hget with ⟨hid, hnew'⟩ | hold
        · exact (hnew flight hnew').2.2.2.1 q hq hid
        · exact hmatch flight hold
      responses := by
        intro p hp
        obtain ⟨hlt, hmatch⟩ := h.responses p hp
        refine ⟨hlt, fun flight hget => ?_⟩
        rcases hflight p.flight flight hget with ⟨hid, hnew'⟩ | hold
        · exact (hnew flight hnew').2.2.2.2 p hp hid
        · exact hmatch flight hold
      aligned := h.aligned
      answers := h.answers
      uncompromised := h.uncompromised }

/-- A flight may end. -/
theorem endFlight (id : Nat) : (w.setFlight id none).Inv derive :=
  h.setFlight (fun _ hnone => by cases hnone)

/-- Messages may get lost. -/
theorem lose {requests : List (Request Token)} {responses : List (Response Token)}
    (hrequests : requests ⊆ w.requests) (hresponses : responses ⊆ w.responses) :
    ({ w with requests := requests, responses := responses } : World Token).Inv derive where
  chain := h.chain
  functional := h.functional
  rows := h.rows
  live := h.live
  records := h.records
  drawn := h.drawn
  flights := h.flights
  numbered := h.numbered
  requests := fun q hq => h.requests q (hrequests hq)
  responses := fun p hp => h.responses p (hresponses hp)
  aligned := h.aligned
  answers := h.answers
  uncompromised := h.uncompromised

/-- No message belongs to a flight that has sent nothing. -/
theorem unsent_flight {flight : Flight Token} (hget : w.flights id = some flight)
    (hsent : ∀ token key, ¬ flight.Sent token key)
    (hbelieves : ∀ reply, ¬ flight.Believes derive w.server reply) :
    (∀ q ∈ w.requests, q.flight ≠ id) ∧ ∀ p ∈ w.responses, p.flight ≠ id := by
  constructor
  · rintro q hq rfl
    exact hsent _ _ ((h.requests q hq).2.2 flight hget)
  · rintro p hp rfl
    exact hbelieves _ ((h.responses p hp).2 flight hget)

theorem refresh {context : Option Context} {force accessFresh : Bool} {rejected : Option Nat}
    (hstep : w.refresh context force rejected accessFresh = some w') :
    w'.Inv derive := by
  unfold World.refresh at hstep
  obtain ⟨state, hstate, hstep⟩ := Option.bind_eq_some_iff.mp hstep
  dsimp only at hstep
  have hsame : some w = some w' → w'.Inv derive := by
    intro heq
    obtain rfl := Option.some.inj heq
    exact h
  split at hstep
  · exact hsame hstep
  · split at hstep
    · exact hsame hstep
    · split at hstep
      · exact hsame hstep
      · split at hstep
        · exact hsame hstep
        · split at hstep
          · exact hsame hstep
          · obtain rfl := Option.some.inj hstep
            have hroom : ({ w with nextFlight := w.nextFlight + 1 } : World Token).Inv derive :=
              { h with
                numbered := fun id flight hget => Nat.lt_succ_of_lt (h.numbered id flight hget)
                requests := fun q hq => by
                  obtain ⟨hsent, hlt, hmatch⟩ := h.requests q hq
                  exact ⟨hsent, Nat.lt_succ_of_lt hlt, hmatch⟩
                responses := fun p hp => by
                  obtain ⟨hlt, hmatch⟩ := h.responses p hp
                  exact ⟨Nat.lt_succ_of_lt hlt, hmatch⟩ }
            have hadded : (World.setFlight { w with nextFlight := w.nextFlight + 1 } w.nextFlight
                (some (.entering (context.getD state.context)))).Inv derive := by
              apply hroom.setFlight
              intro flight hflight
              obtain rfl := Option.some.inj hflight
              refine ⟨trivial, Nat.lt_succ_self _, fun r hr => (by cases hr), fun q hq hid => ?_,
                fun p hp hid => ?_⟩
              · exact absurd hid (Nat.ne_of_lt (h.requests q hq).2.1)
              · exact absurd hid (Nat.ne_of_lt (h.responses p hp).1)
            exact { hadded with }

/-- A current flight's rotation record is the one in memory. -/
theorem current_rotation {flight : Flight Token} {context : Context}
    (hstate : w.memory = some state) (hget : w.flights id = some flight)
    (hrotation : flight.rotation = some rotation)
    (hcontext : context.generation = rotation.generation ∧
      context.rotationKey = some rotation.idempotencyKey)
    (hcurrent : state.isCurrent context = true) :
    state.rotation = some rotation ∧ state.generation = rotation.generation := by
  simp only [ClientState.isCurrent, Bool.and_eq_true, beq_iff_eq, hcontext.2, Option.isNone_some,
    Bool.false_or] at hcurrent
  obtain ⟨⟨⟨hgeneration, -⟩, -⟩, hkey⟩ := hcurrent
  obtain ⟨held, hheld, hkey⟩ := Option.map_eq_some_iff.mp hkey
  have hsame : held = rotation :=
    h.records held rotation (.live state (.memory hstate) hheld) (.flight id flight hget hrotation) hkey
  exact ⟨hsame ▸ hheld, hgeneration.trans hcontext.1⟩

/-- The rotation record a current flight sends was sent already, or memory and storage are one state
that holds the current token with it. -/
theorem sends (hcancelling : w.cancelling = false) (hstate : w.memory = some state)
    (hrotation : state.rotation = some rotation)
    (hgeneration : state.generation = rotation.generation) :
    (rotation.refreshToken, rotation.idempotencyKey) ∈ w.sent ∨
      (∀ other, w.Live other → other = state) ∧ ∃ credentials row,
        state.credentials = some credentials ∧ credentials.refreshToken = rotation.refreshToken ∧
        w.server.IsCurrent row ∧ row.tokenHash = rotation.refreshToken ∧
        ∀ key, (rotation.refreshToken, key) ∈ w.sent → key = rotation.idempotencyKey := by
  have hsound := h.live state (.memory hstate)
  obtain ⟨-, credentials, hcredentials, htoken⟩ := hsound.rotation rotation hrotation
  rcases hsound.holds credentials hcredentials with ⟨row, hrow, hrowToken, hkeys⟩ |
    ⟨row, key, -, -, hwas, heq, -⟩
  · right
    have hstanding : state.standing credentials = some rotation := by
      simp [ClientState.standing, hrotation, hgeneration, htoken]
    refine ⟨?_, credentials, row, hcredentials, htoken.symm, hrow, hrowToken.trans htoken.symm, ?_⟩
    · have haligned := h.aligned
      unfold World.Aligned at haligned
      intro other hother
      cases hmutation : w.mutation with
      | none =>
        rw [hmutation] at haligned
        rcases hother with hmem | hdisk | ⟨mutation, hrunning, -⟩
        · exact Option.some.inj (hmem.symm.trans hstate)
        · exact hdisk.symm.trans (haligned state hstate)
        · rw [hmutation] at hrunning
          cases hrunning
      | some mutation =>
        rw [hmutation] at haligned
        cases mutation with
        | cancel next written => simp [World.cancelling, hmutation] at hcancelling
        | denial next =>
          obtain ⟨hmemory, hgenerations⟩ := haligned
          obtain rfl := Option.some.inj (hstate.symm.trans hmemory)
          exact absurd hgeneration.symm (hgenerations rotation hrotation)
        | commit next written id =>
          obtain ⟨held, heldCredentials, hmemory, -, hheld, hcases⟩ := haligned
          obtain rfl := Option.some.inj (hstate.symm.trans hmemory)
          obtain rfl := Option.some.inj (hcredentials.symm.trans hheld)
          rcases hcases with hnone | ⟨next, key, hsuccessor⟩
          · rw [hstanding] at hnone
            cases hnone
          · exact absurd (hrowToken ▸ hsuccessor) (h.chain.current_not_rotated hrow)
    · intro key hkey
      have hsame := hrotation.symm.trans (hkeys key (htoken ▸ hkey))
      exact (congrArg RotationRecord.idempotencyKey (Option.some.inj hsame)).symm
  · left
    have hsame := Option.some.inj (hrotation.symm.trans heq)
    rw [hsame]
    exact hwas

/-- A current flight may send its request. -/
theorem post (id : Nat) (second next : Bool) {context : Context} (credentials : Credentials Token)
    (hcancelling : w.cancelling = false) (hstate : w.memory = some state)
    (hget : w.flights id = some (.waiting second context rotation credentials))
    (hcurrent : state.isCurrent context = true) : (w.post id next rotation).Inv derive := by
  have hflight := h.flights id _ hget
  obtain ⟨hrotation, hgeneration⟩ := h.current_rotation hstate hget rfl hflight hcurrent
  have hsends := h.sends hcancelling hstate hrotation hgeneration
  have hsub : w.sent ⊆ (rotation.refreshToken, rotation.idempotencyKey) :: w.sent :=
    List.subset_cons_self _ _
  refine
    { chain := h.chain.mono hsub
      functional := ?_
      rows := ?_
      live := ?_
      records := h.records
      drawn := h.drawn
      flights := h.flights
      numbered := h.numbered
      requests := ?_
      responses := h.responses
      aligned := h.aligned
      answers := h.answers
      uncompromised := h.uncompromised }
  · have hkey : ∀ key, (rotation.refreshToken, key) ∈ w.sent → key = rotation.idempotencyKey := by
      intro key hkey
      rcases hsends with hwas | ⟨-, -, -, -, -, -, -, hkeys⟩
      · exact h.functional _ _ _ hkey hwas
      · exact hkeys key hkey
    intro token key key' hmem hmem'
    rcases List.mem_cons.mp hmem with heq | hold
    · obtain ⟨rfl, rfl⟩ := Prod.mk.inj heq
      rcases List.mem_cons.mp hmem' with heq' | hold'
      · exact (Prod.mk.inj heq').2.symm
      · exact (hkey key' hold').symm
    · rcases List.mem_cons.mp hmem' with heq' | hold'
      · obtain ⟨rfl, rfl⟩ := Prod.mk.inj heq'
        exact hkey key hold
      · exact h.functional token key key' hold hold'
  · intro token key hmem
    rcases List.mem_cons.mp hmem with heq | hold
    · obtain ⟨rfl, rfl⟩ := Prod.mk.inj heq
      rcases hsends with hwas | ⟨-, -, row, -, -, hrow, htoken, -⟩
      · exact h.rows _ _ hwas
      · exact ⟨row, hrow.1, htoken⟩
    · exact h.rows token key hold
  · intro other hother
    rcases hsends with hwas | ⟨hsame, held, row, hheld, htoken, hrow, hrowToken, hkeys⟩
    · apply (h.live other hother).congr
      intro x
      constructor
      · intro hx
        rcases List.mem_cons.mp hx with rfl | hold
        · exact hwas
        · exact hold
      · exact fun hx => hsub hx
    · obtain rfl := hsame other hother
      refine ⟨fun credentials' hcredentials' => ?_, (h.live other hother).rotation⟩
      obtain rfl := Option.some.inj (hheld.symm.trans hcredentials')
      refine .current row hrow (hrowToken.trans htoken.symm) fun key hkey => ?_
      have hkey' : key = rotation.idempotencyKey := by
        rcases List.mem_cons.mp hkey with heq | hold
        · exact (Prod.mk.inj heq).2
        · exact hkeys key (htoken ▸ hold)
      rw [hrotation, hgeneration, htoken, hkey']
  · intro q hq
    rcases List.mem_cons.mp hq with rfl | hold
    · refine ⟨List.mem_cons_self, h.numbered id _ hget, fun flight hflight' => ?_⟩
      obtain rfl := Option.some.inj (hget.symm.trans hflight')
      exact ⟨rfl, rfl⟩
    · obtain ⟨hsent, hlt, hmatch⟩ := h.requests q hold
      exact ⟨hsub hsent, hlt, hmatch⟩

end

end World.Inv

end SellerAgents.AuthRefresh
