import SellerAgents.AuthRefresh.Exchange

namespace SellerAgents.AuthRefresh
open Subscriptions (Date)

variable {Token : Type} [DecidableEq Token] {derive : Token → Nat → Token} {w w' : World Token}

namespace World.Inv

/-- Memory, storage and the queue may change to sound states whose rotation records are known. -/
theorem restate (h : w.Inv derive) (memory : Option (ClientState Token)) (disk : ClientState Token)
    (mutation : Option (Mutation Token))
    (hlive : ∀ state, LiveIn memory disk mutation state → state.Sound derive w.server w.sent ∧
      ∀ r, state.rotation = some r → w.Known r)
    (haligned : ({ w with memory := memory, disk := disk, mutation := mutation } : World Token).Aligned
      derive) :
    ({ w with memory := memory, disk := disk, mutation := mutation } : World Token).Inv derive := by
  have hknown : ∀ r, KnownIn (LiveIn memory disk mutation) w.flights r → w.Known r := by
    rintro r (⟨state, hstate, heq⟩ | ⟨id, flight, hget, heq⟩)
    · exact (hlive state hstate).2 r heq
    · exact .flight id flight hget heq
  exact
    { h with
      live := fun state hstate => (hlive state hstate).1
      records := fun r r' hr hr' => h.records r r' (hknown r hr) (hknown r' hr')
      drawn := fun r hr => h.drawn r (hknown r hr)
      aligned := haligned }

variable {next state : ClientState Token} {credentials : Credentials Token} {id : Nat}

/-- A live state is sound and its rotation record known. -/
theorem keep (h : w.Inv derive) (hstate : w.Live state) :
    state.Sound derive w.server w.sent ∧ ∀ r, state.rotation = some r → w.Known r :=
  ⟨h.live state hstate, fun _ heq => .live state hstate heq⟩

/-- A denial is in memory at once, and a restart may still find the record it replaces. -/
theorem deny (h : w.Inv derive) (hsound : next.Sound derive w.server w.sent)
    (hrotation : ∀ r, next.rotation = some r → w.Known r ∧ r.generation ≠ next.generation) :
    (w.deny next).Inv derive := by
  apply h.restate
  · intro state hstate
    have hnext : state = next → state.Sound derive w.server w.sent ∧
        ∀ r, state.rotation = some r → w.Known r := by
      rintro rfl
      exact ⟨hsound, fun r hr => (hrotation r hr).1⟩
    rcases hstate with hmem | hdisk | ⟨mutation, hmutation, heq⟩
    · exact hnext (Option.some.inj hmem).symm
    · exact h.keep (.disk hdisk)
    · obtain rfl := Option.some.inj hmutation
      exact hnext heq.symm
  · exact ⟨rfl, fun r hr => (hrotation r hr).2⟩

/-- A state whose token has not been sent stays sound when its generation is raised, with its
rotation record or without. -/
theorem unsent_sound (h : w.Inv derive) (hstate : w.Live state) (hunsent : w.Unsent state)
    (hcredentials : next.credentials = state.credentials)
    (hrotation : next.rotation = none ∨ next.rotation = state.rotation ∧
      state.generation ≤ next.generation) : next.Sound derive w.server w.sent where
  holds := by
    intro credentials hheld
    rw [hcredentials] at hheld
    rcases (h.live state hstate).holds credentials hheld with ⟨row, hrow, htoken, -⟩ |
      ⟨-, key, -, -, hwas, -, -⟩
    · exact .current row hrow htoken fun key hkey => absurd hkey (hunsent credentials key hheld)
    · exact absurd hwas (hunsent credentials key hheld)
  rotation := by
    intro rotation heq
    rcases hrotation with hnone | ⟨hsame, hle⟩
    · rw [hnone] at heq
      cases heq
    · obtain ⟨hgeneration, credentials, hheld, htoken⟩ :=
        (h.live state hstate).rotation rotation (hsame ▸ heq)
      exact ⟨Nat.le_trans hgeneration hle, credentials, hcredentials.trans hheld, htoken⟩

omit [DecidableEq Token] in
/-- A state without credentials and rotation record is sound. -/
theorem signedOut_sound (hcredentials : next.credentials = none) (hrotation : next.rotation = none) : next.Sound derive w.server w.sent where
  holds := by
    intro credentials hheld
    rw [hcredentials] at hheld
    cases hheld
  rotation := by
    intro rotation heq
    rw [hrotation] at heq
    cases heq

section

variable (h : w.Inv derive)
include h

theorem invalidateKnown {context : Context} {terminal : Bool}
    (hprudent : terminal = false → ∀ state, w.memory = some state → w.Unsent state)
    (hstep : w.invalidateKnown context terminal = some w') : w'.Inv derive := by
  unfold World.invalidateKnown at hstep
  split at hstep
  · rename_i state hstate hmutation
    split at hstep
    · obtain rfl := Option.some.inj hstep
      apply h.deny
      · cases terminal with
        | true => exact signedOut_sound rfl rfl
        | false => exact h.unsent_sound (.memory hstate) (hprudent rfl state hstate) rfl (.inl rfl)
      · intro r hr
        cases hr
    · obtain rfl := Option.some.inj hstep
      exact h
  · cases hstep

/-- A generation raised before the token has been sent leaves a sound state. -/
theorem raised_sound (hstate : w.Live state) (hunsent : w.Unsent state) :
    state.raised.Sound derive w.server w.sent :=
  h.unsent_sound hstate hunsent rfl (.inr ⟨rfl, Nat.le_succ _⟩)

/-- The rotation record of a raised state is known, and of an older generation. -/
theorem raised_rotation (hstate : w.Live state) :
    ∀ r, state.raised.rotation = some r → w.Known r ∧ r.generation ≠ state.raised.generation := by
  intro r hr
  have hle := ((h.live state hstate).rotation r hr).1
  exact ⟨.live state hstate hr, Nat.ne_of_lt (Nat.lt_succ_of_le hle)⟩

theorem commonDeny {context : Context} (hprudent : ∀ state, w.memory = some state → w.Unsent state)
    (hstep : w.commonDeny context = some w') : w'.Inv derive := by
  unfold World.commonDeny at hstep
  split at hstep
  · rename_i state hstate hmutation
    split at hstep
    · obtain rfl := Option.some.inj hstep
      exact h.deny (h.raised_sound (.memory hstate) (hprudent state hstate))
        (h.raised_rotation (.memory hstate))
    · obtain rfl := Option.some.inj hstep
      exact h
  · cases hstep

theorem cancelActivation (hprudent : ∀ state, w.memory = some state → w.Unsent state)
    (hstep : w.cancelActivation = some w') : w'.Inv derive := by
  unfold World.cancelActivation at hstep
  split at hstep
  · rename_i state hstate hmutation
    obtain rfl := Option.some.inj hstep
    have haligned := h.aligned
    unfold World.Aligned at haligned
    rw [hmutation] at haligned
    apply h.restate w.memory w.disk
    · rintro other (hmem | hdisk | ⟨mutation, hrunning, heq⟩)
      · exact h.keep (.memory hmem)
      · exact h.keep (.disk hdisk)
      · obtain rfl := Option.some.inj hrunning
        obtain rfl : _ = other := heq
        exact ⟨h.raised_sound (.memory hstate) (hprudent state hstate),
          fun r hr => (h.raised_rotation (.memory hstate) r hr).1⟩
    · exact ⟨state, hstate, haligned state hstate⟩
  · cases hstep

theorem reject (hstep : w.reject id = some w') : w'.Inv derive := by
  unfold World.reject at hstep
  split at hstep
  · exact (h.endFlight id).invalidateKnown (fun hfalse => by cases hfalse) hstep
  · cases hstep

theorem crash : w.crash.Inv derive := by
  have hlive : ∀ state, LiveIn none w.disk none state → w.Live state := by
    rintro state (hmem | hdisk | ⟨mutation, hmutation, -⟩)
    · cases hmem
    · exact .disk hdisk
    · cases hmutation
  have hknown : ∀ r, KnownIn (LiveIn none w.disk none) (fun _ => none) r → w.Known r := by
    rintro r (⟨state, hstate, heq⟩ | ⟨id, flight, hget, -⟩)
    · exact .live state (hlive state hstate) heq
    · cases hget
  exact
    { chain := h.chain
      functional := h.functional
      rows := h.rows
      live := fun state hstate => h.live state (hlive state hstate)
      records := fun r r' hr hr' => h.records r r' (hknown r hr) (hknown r' hr')
      drawn := fun r hr => h.drawn r (hknown r hr)
      flights := fun _ _ hget => by cases hget
      numbered := fun _ _ hget => by cases hget
      requests := fun q hq => ⟨(h.requests q hq).1, (h.requests q hq).2.1, fun _ hget => by cases hget⟩
      responses := fun p hp => ⟨(h.responses p hp).1, fun _ hget => by cases hget⟩
      aligned := fun _ hmem => by cases hmem
      answers := h.answers
      uncompromised := h.uncompromised }

theorem restore {discard : Bool} (hprudent : discard = true → w.Unsent w.disk)
    (hstep : w.restore discard = some w') :
    w'.Inv derive := by
  unfold World.restore at hstep
  split at hstep
  · cases hstep
  · rename_i hdown
    have hdown : w.memory = none := by simpa using hdown
    split at hstep
    · rename_i hnone
      obtain rfl := Option.some.inj hstep
      exact h.deny (signedOut_sound (by simpa using hnone) rfl) (fun r hr => by cases hr)
    · split at hstep
      · rename_i hdiscard
        obtain rfl := Option.some.inj hstep
        exact h.deny (h.raised_sound (.disk rfl) (hprudent hdiscard)) (h.raised_rotation (.disk rfl))
      · obtain rfl := Option.some.inj hstep
        have hmutation : w.mutation = none := by
          cases hmutation : w.mutation with
          | none => rfl
          | some mutation =>
            have haligned := h.aligned
            unfold World.Aligned at haligned
            rw [hmutation] at haligned
            cases mutation with
            | denial next => simp [hdown] at haligned
            | cancel next written => simp [hdown] at haligned
            | commit next written id => simp [hdown] at haligned
        apply h.restate (some w.disk) w.disk w.mutation
        · rintro state (hmem | hdisk | ⟨mutation, hrunning, -⟩)
          · exact h.keep (.disk (Option.some.inj hmem))
          · exact h.keep (.disk hdisk)
          · rw [hmutation] at hrunning
            cases hrunning
        · unfold World.Aligned
          dsimp only
          rw [hmutation]
          exact fun _ hmem => Option.some.inj hmem

/-- What a running commit works on. -/
theorem commit_aligned {written : Bool} (hmutation : w.mutation = some (.commit next written id)) :
    ∃ state credentials, w.memory = some state ∧ w.disk = (if written then next else state) ∧
      state.credentials = some credentials ∧ (state.standing credentials = none ∨
        ∃ row key, w.server.Successor derive credentials.refreshToken key row) := by
  have haligned := h.aligned
  unfold World.Aligned at haligned
  rw [hmutation] at haligned
  exact haligned

theorem write (hstep : w.write = some w') : w'.Inv derive := by
  unfold World.write at hstep
  split at hstep
  · rename_i next id hmutation
    obtain rfl := Option.some.inj hstep
    obtain ⟨state, credentials, hmemory, -, hcredentials, hcases⟩ := h.commit_aligned hmutation
    apply h.restate w.memory
    · rintro other (hmem | hdisk | ⟨mutation, hrunning, heq⟩)
      · exact h.keep (.memory hmem)
      · exact h.keep (.queue _ hmutation hdisk)
      · obtain rfl := Option.some.inj hrunning
        exact h.keep (.queue _ hmutation heq)
    · exact ⟨state, credentials, hmemory, rfl, hcredentials, hcases⟩
  · rename_i next hmutation
    obtain rfl := Option.some.inj hstep
    have haligned := h.aligned
    unfold World.Aligned at haligned
    rw [hmutation] at haligned
    obtain ⟨state, hmemory, -⟩ := haligned
    apply h.restate w.memory
    · rintro other (hmem | hdisk | ⟨mutation, hrunning, heq⟩)
      · exact h.keep (.memory hmem)
      · exact h.keep (.queue _ hmutation hdisk)
      · obtain rfl := Option.some.inj hrunning
        exact h.keep (.queue _ hmutation heq)
    · exact ⟨state, hmemory, rfl⟩
  · rename_i next hmutation
    obtain rfl := Option.some.inj hstep
    apply h.restate w.memory
    · rintro other (hmem | hdisk | ⟨mutation, hrunning, -⟩)
      · exact h.keep (.memory hmem)
      · exact h.keep (.queue _ hmutation hdisk)
      · cases hrunning
    · have haligned := h.aligned
      unfold World.Aligned at haligned ⊢
      rw [hmutation] at haligned
      exact fun state hmem => Option.some.inj (haligned.1.symm.trans hmem)
  · cases hstep

theorem finish (hstep : w.finish = some w') : w'.Inv derive := by
  unfold World.finish at hstep
  split at hstep
  · rename_i next id hmutation
    obtain rfl := Option.some.inj hstep
    obtain ⟨state, credentials, hmemory, hdisk, -, -⟩ := h.commit_aligned hmutation
    have hmoved : (w.setFlight id (w.committed id)).Inv derive := by
      apply h.setFlight
      intro flight hcommitted
      unfold World.committed at hcommitted
      obtain ⟨old, hget, hold⟩ := Option.bind_eq_some_iff.mp hcommitted
      cases old with
      | preparing context rotation credentials =>
        obtain rfl := Option.some.inj hold
        have hnone := h.unsent_flight hget (fun _ _ hsent => hsent) (fun _ hbelieves => hbelieves)
        have hsound := h.flights id _ hget
        have hknown : w.Known rotation := .flight id _ hget rfl
        refine ⟨hsound, h.numbered id _ hget, fun r hr => ?_,
          fun q hq hid => absurd hid (hnone.1 q hq), fun p hp hid => absurd hid (hnone.2 p hp)⟩
        obtain rfl := Option.some.inj hr
        exact hknown
      | _ => cases hold
    have hsame : w.disk = next := hdisk
    apply hmoved.restate (some next) w.disk none
    · rintro state (hmem | hheld | ⟨mutation, hrunning, -⟩)
      · exact hmoved.keep (.disk (hsame.trans (Option.some.inj hmem)))
      · exact hmoved.keep (.disk hheld)
      · cases hrunning
    · exact fun state hmem => hsame.trans (Option.some.inj hmem)
  · rename_i next hmutation
    obtain rfl := Option.some.inj hstep
    have haligned := h.aligned
    unfold World.Aligned at haligned
    rw [hmutation] at haligned
    obtain ⟨state, -, hdisk⟩ := haligned
    have hsame : w.disk = next := hdisk
    apply h.restate (some next) w.disk none
    · rintro other (hmem | hheld | ⟨mutation, hrunning, -⟩)
      · exact h.keep (.disk (hsame.trans (Option.some.inj hmem)))
      · exact h.keep (.disk hheld)
      · cases hrunning
    · exact fun other hmem => hsame.trans (Option.some.inj hmem)
  · cases hstep

end

/-- No rotation record stands for the held token. -/
theorem standing_none (hnone : state.standing credentials = none) (key : Nat) :
    state.rotation ≠ some ⟨state.generation, credentials.refreshToken, key⟩ := by
  intro heq
  simp [ClientState.standing, heq] at hnone

/-- A refresh draws a new key only for a token that has not been sent. -/
theorem prepare_sound (h : w.Inv derive) {rotation : RotationRecord Token} (hstate : w.Live state)
    (hcredentials : state.credentials = some credentials)
    (hstanding : state.standing credentials = none)
    (hgeneration : rotation.generation = state.generation)
    (htoken : rotation.refreshToken = credentials.refreshToken) :
    ({ state with rotation := some rotation } : ClientState Token).Sound derive w.server w.sent where
  holds := by
    intro held hheld
    obtain rfl := Option.some.inj (hcredentials.symm.trans hheld)
    rcases (h.live state hstate).holds credentials hcredentials with ⟨row, hrow, hrowToken, hkeys⟩ |
      ⟨-, key, -, -, -, heq, -⟩
    · exact .current row hrow hrowToken fun key hkey => absurd (hkeys key hkey) (standing_none hstanding key)
    · exact absurd heq (standing_none hstanding key)
  rotation := by
    intro r hr
    obtain rfl := Option.some.inj hr
    exact ⟨Nat.le_of_eq hgeneration, credentials, hcredentials, htoken⟩

/-- The commit of a new rotation record starts with a key of its own. -/
theorem prepared (h : w.Inv derive) {entry : Context} (hstate : w.memory = some state)
    (hmutation : w.mutation = none) (hget : w.flights id = some (.entering entry))
    (hcredentials : state.credentials = some credentials)
    (hstanding : state.standing credentials = none) :
    ({ w.setFlight id (some (.preparing { state.context with rotationKey := some w.draws }
        ⟨state.generation, credentials.refreshToken, w.draws⟩ credentials)) with
      mutation := some (.commit
        { state with rotation := some ⟨state.generation, credentials.refreshToken, w.draws⟩ } false id)
      draws := w.draws + 1 } : World Token).Inv derive := by
  have hnone := h.unsent_flight hget (fun _ _ hsent => hsent) (fun _ hbelieves => hbelieves)
  have hflight : ∀ id' flight, (w.setFlight id (some (.preparing
      { state.context with rotationKey := some w.draws }
      ⟨state.generation, credentials.refreshToken, w.draws⟩ credentials))).flights id' = some flight →
      (id' = id ∧ Flight.preparing { state.context with rotationKey := some w.draws }
        ⟨state.generation, credentials.refreshToken, w.draws⟩ credentials = flight) ∨
      w.flights id' = some flight := by
    intro id' flight hnew
    by_cases hid : id' = id
    · subst hid
      exact .inl ⟨rfl, by simpa [World.setFlight] using hnew⟩
    · exact .inr (by simpa [World.setFlight, hid] using hnew)
  generalize hdrawn : (⟨state.generation, credentials.refreshToken, w.draws⟩ : RotationRecord Token) =
    rotation at hflight ⊢
  have hkey : rotation.idempotencyKey = w.draws := hdrawn ▸ rfl
  have hknown : ∀ r, World.Known
      { w.setFlight id (some (.preparing { state.context with rotationKey := some w.draws } rotation
          credentials)) with
        mutation := some (.commit { state with rotation := some rotation } false id)
        draws := w.draws + 1 } r → w.Known r ∨ r = rotation := by
    rintro r (⟨other, hother, heq⟩ | ⟨id', flight, hnew, heq⟩)
    · rcases hother with hmem | hdisk | ⟨mutation, hrunning, hnext⟩
      · exact .inl (.live other (.memory hmem) heq)
      · exact .inl (.live other (.disk hdisk) heq)
      · obtain rfl := Option.some.inj hrunning
        obtain rfl : _ = other := hnext
        exact .inr (Option.some.inj heq).symm
    · rcases hflight id' flight hnew with ⟨-, rfl⟩ | hold
      · exact .inr (Option.some.inj heq).symm
      · exact .inl (.flight id' flight hold heq)
  exact
    { chain := h.chain
      functional := h.functional
      rows := h.rows
      live := by
        rintro other (hmem | hdisk | ⟨mutation, hrunning, hnext⟩)
        · exact h.live other (.memory hmem)
        · exact h.live other (.disk hdisk)
        · obtain rfl := Option.some.inj hrunning
          obtain rfl : _ = other := hnext
          exact h.prepare_sound (.memory hstate) hcredentials hstanding (hdrawn ▸ rfl) (hdrawn ▸ rfl)
      records := by
        intro r r' hr hr' heq
        rcases hknown r hr with hold | rfl
        · rcases hknown r' hr' with hold' | rfl
          · exact h.records r r' hold hold' heq
          · exact absurd (heq.trans hkey) (Nat.ne_of_lt (h.drawn r hold))
        · rcases hknown r' hr' with hold' | rfl
          · exact absurd (heq.symm.trans hkey) (Nat.ne_of_lt (h.drawn r' hold'))
          · rfl
      drawn := by
        intro r hr
        rcases hknown r hr with hold | rfl
        · exact Nat.lt_succ_of_lt (h.drawn r hold)
        · exact Nat.lt_succ_of_le (Nat.le_of_eq hkey)
      flights := by
        intro id' flight hnew
        rcases hflight id' flight hnew with ⟨-, rfl⟩ | hold
        · exact ⟨hdrawn ▸ rfl, congrArg some hkey.symm⟩
        · exact h.flights id' flight hold
      numbered := by
        intro id' flight hnew
        rcases hflight id' flight hnew with ⟨rfl, -⟩ | hold
        · exact h.numbered id' _ hget
        · exact h.numbered id' flight hold
      requests := by
        intro q hq
        obtain ⟨hsent, hlt, hmatch⟩ := h.requests q hq
        refine ⟨hsent, hlt, fun flight hnew => ?_⟩
        rcases hflight q.flight flight hnew with ⟨hid, -⟩ | hold
        · exact absurd hid (hnone.1 q hq)
        · exact hmatch flight hold
      responses := by
        intro p hp
        obtain ⟨hlt, hmatch⟩ := h.responses p hp
        refine ⟨hlt, fun flight hnew => ?_⟩
        rcases hflight p.flight flight hnew with ⟨hid, -⟩ | hold
        · exact absurd hid (hnone.2 p hp)
        · exact hmatch flight hold
      aligned := by
        have haligned := h.aligned
        unfold World.Aligned at haligned
        rw [hmutation] at haligned
        exact ⟨state, credentials, hstate, haligned state hstate, hcredentials, .inl hstanding⟩
      answers := h.answers
      uncompromised := h.uncompromised }

theorem prepare (h : w.Inv derive) (hstep : w.prepare id = some w') : w'.Inv derive := by
  unfold World.prepare at hstep
  split at hstep
  · rename_i state entry hstate hmutation hget
    have hnone := h.unsent_flight hget (fun _ _ hsent => hsent) (fun _ hbelieves => hbelieves)
    split at hstep
    · rename_i credentials hcurrent hcredentials
      split at hstep
      · rename_i rotation hstanding
        obtain rfl := Option.some.inj hstep
        obtain ⟨hrotation, hstands⟩ := Option.filter_eq_some_iff.mp hstanding
        have hgeneration : rotation.generation = state.generation := by
          simp only [Bool.and_eq_true, decide_eq_true_eq] at hstands
          exact hstands.1
        apply h.setFlight
        intro flight hflight
        obtain rfl := Option.some.inj hflight
        refine ⟨⟨hgeneration.symm, rfl⟩, h.numbered id _ hget, fun r hr => ?_,
          fun q hq hid => absurd hid (hnone.1 q hq), fun p hp hid => absurd hid (hnone.2 p hp)⟩
        obtain rfl := Option.some.inj hr
        exact .live state (.memory hstate) hrotation
      · rename_i hstanding
        obtain rfl := Option.some.inj hstep
        exact h.prepared hstate hmutation hget hcredentials hstanding
    · obtain rfl := Option.some.inj hstep
      exact h.endFlight id
  · cases hstep

theorem accept (h : w.Inv derive) (hstep : w.accept id = some w') : w'.Inv derive := by
  unfold World.accept at hstep
  split at hstep
  · rename_i state context rotation credentials hstate hmutation hget
    split at hstep
    · rename_i hcurrent
      obtain rfl := Option.some.inj hstep
      obtain ⟨hcontext, htoken, next, hnext⟩ := h.flights id _ hget
      obtain ⟨hrotation, -⟩ := h.current_rotation hstate hget rfl hcontext hcurrent
      have hsound := h.live state (.memory hstate)
      obtain ⟨-, held, hheld, hsame⟩ := hsound.rotation rotation hrotation
      have hlt := h.numbered id _ hget
      have hmoved : (w.setFlight id (some (.accepting context))).Inv derive := by
        apply h.setFlight
        intro flight hflight
        obtain rfl := Option.some.inj hflight
        exact ⟨trivial, hlt, fun r hr => (by cases hr), fun _ _ _ => trivial, fun _ _ _ => trivial⟩
      have hdisk : w.disk = state := by
        have haligned := h.aligned
        unfold World.Aligned at haligned
        rw [hmutation] at haligned
        exact haligned state hstate
      rw [hsame] at hnext htoken
      -- The response was given for the rotation memory still holds.
      rcases hsound.holds held hheld with ⟨row, hrow, hrowToken, -⟩ |
        ⟨row, key, hrow, hsuccessor, -, heq, hunsent⟩
      · exact absurd (hrowToken ▸ hnext) (h.chain.current_not_rotated hrow)
      · obtain rfl := Option.some.inj (hrotation.symm.trans heq)
        obtain ⟨-, -, -, -, -, -, -, -, hderived⟩ := hsuccessor
        apply hmoved.restate w.memory w.disk
        · rintro other (hmem | hother | ⟨mutation, hrunning, heq⟩)
          · exact hmoved.keep (.memory hmem)
          · exact hmoved.keep (.disk hother)
          · obtain rfl := Option.some.inj hrunning
            obtain rfl : _ = other := heq
            refine ⟨⟨fun credentials' hcredentials' => ?_, fun r hr => by cases hr⟩, fun r hr => by cases hr⟩
            obtain rfl := Option.some.inj hcredentials'
            exact .current row hrow (hderived.trans htoken.symm) fun key' hkey' => by
              rw [htoken, ← hderived] at hkey'
              exact absurd hkey' (hunsent key')
        · exact ⟨state, held, hstate, hdisk, hheld, .inr ⟨next, _, hnext⟩⟩
    · obtain rfl := Option.some.inj hstep
      exact h.endFlight id
  · cases hstep

end World.Inv

end SellerAgents.AuthRefresh
