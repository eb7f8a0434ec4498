import SellerAgents.CredentialTransfer.Steps

open Concurrent

namespace SellerAgents.CredentialTransfer

open Js
open Subscriptions (Date)

variable {T : Type} {sha256 : JsString → String} {calls : T → ServiceCall} {t : T}
  {w w' : TransferWorld T}

/-- The worlds from which a program of a thread meets the outline. -/
abbrev Wp (sha256 : JsString → String) (calls : T → ServiceCall) (t : T) {α : Type} (p : Program α)
    (Q : α → TransferWorld T → Prop) (E : Failure → TransferWorld T → Prop) (w : TransferWorld T) :
    Prop :=
  System.wp (outline calls) (transferService sha256 calls) t p Q E w

/-! Own steps that the thread's assertions survive. -/

/-- The commands that only take entries out and leave no mark in the history. -/
def Cmd.Quiet : Cmd → Prop
  | .enter _ | .leave _ | .activate _ _ _ => False
  | _ => True

variable {command : Cmd} {E : Failure → TransferWorld T → Prop} {now : Program Date}
  {call : RepositoryCall} {r : String} {s' : TransferProcess} {α : Type}

theorem rely_own {answer : command.Answer} (hquiet : command.Quiet) (hs : Shrinks w.state s') :
    Rely t w (w.act t command answer s') := by
  have hunfenced : command.Unfenced := by
    cases command with
    | enter _ => exact hquiet
    | leave _ => exact hquiet
    | _ => trivial
  refine ⟨List.suffix_cons _ _, fun _ _ => found_unfenced hunfenced, ?_,
    fun _ => holds_unfenced hunfenced, hs.later, fun r _ => hs.fenceKept r⟩
  rintro ⟨r, reservationId, packet, before, after, hmem⟩
  refine ⟨r, reservationId, packet, before, after, (List.mem_cons.mp hmem).resolve_left fun heq => ?_⟩
  cases heq
  exact hquiet

/-- The commands that may always be performed and only take entries out. -/
def Cmd.Calm : Cmd → Prop
  | .assertRunning | .checkAvailable | .now | .get _ | .isDelivered _ | .stop => True
  | _ => False

theorem calm_step (hcalm : command.Calm) (hinv : (outline calls).inv w) {answer : command.Answer}
    (heff : Effect sha256 command w.state answer s') :
    Rely t w (w.act t command answer s') := by
  cases command with
  | assertRunning =>
    obtain ⟨isAvailable, heq⟩ := heff
    obtain rfl : s' = (w.state.assertRunning isAvailable).2 := congrArg Prod.snd heq
    exact rely_own trivial (shrinks_assertRunning _ _)
  | checkAvailable =>
    obtain ⟨isAvailable, rfl⟩ := heff
    exact rely_own trivial (shrinks_checkAvailable _ _)
  | now =>
    obtain ⟨hclock, rfl⟩ := heff
    exact rely_own trivial (.still rfl hclock rfl rfl)
  | get requestId =>
    obtain ⟨now, hclock, -, rfl⟩ := heff
    exact rely_own trivial (shrinks_prune hinv.2.1 hclock (Int.le_refl now))
  | isDelivered requestId =>
    obtain ⟨now, hclock, -, rfl⟩ := heff
    exact rely_own trivial (shrinks_prune hinv.2.1 hclock (Int.le_refl now))
  | stop =>
    obtain rfl := heff
    exact rely_own trivial (shrinks_stop _)
  | _ => exact hcalm.elim

theorem calm_pre (hcalm : command.Calm) : Pre calls t command w := by
  cases command with
  | assertRunning | checkAvailable | now | get _ | isDelivered _ | stop => trivial
  | _ => exact hcalm.elim

/-- The rule of one calm command. -/
theorem calm_act {next : command.Answer → Program α} {Q : α → TransferWorld T → Prop}
    (hcalm : command.Calm) (hnext : ∀ w₁ answer s', Rely t w w₁ → (outline calls).inv w₁ →
      Effect sha256 command w₁.state answer s' →
      Rely t w (w₁.act t command answer s') → (outline calls).inv (w₁.act t command answer s') →
      Wp sha256 calls t (next answer) Q E (w₁.act t command answer s')) :
    Wp sha256 calls t (.act command next) Q E w := by
  intro w₁ hrely hinv
  refine ⟨calm_pre hcalm, fun answer s' heff hinv' => ?_⟩
  exact hnext w₁ answer s' hrely hinv heff (hrely.trans (calm_step hcalm hinv heff)) hinv'

theorem wp_bind {β : Type} {p : Program α} {f : α → Program β} {Q : β → TransferWorld T → Prop}
    (h : Wp sha256 calls t p (fun value => Wp sha256 calls t (f value) Q E) E w) :
    Wp sha256 calls t (p.bind f) Q E w :=
  System.wp_bind (fun t w => Rely.refl t w) h

/-! A step of the repository. -/

/-- The reading that a repository step is given. -/
def Reading (now : Program Date) (w : TransferWorld T) : Prop :=
  now = clockNow ∨ ∃ time, now = .ret time ∧ time ≤ w.state.clock

theorem Reading.wp (h : Reading now w) {Q : Date → TransferWorld T → Prop}
    (hQ : ∀ time w', Rely t w w' → (outline calls).inv w' → time ≤ w'.state.clock → Q time w') :
    Wp sha256 calls t now Q E w := by
  rcases h with rfl | ⟨time, rfl, htime⟩
  · refine calm_act trivial fun w₁ answer s' hrely hinv heff hrely' hinv' => ?_
    intro w₂ hrely₂ hinv₂
    obtain ⟨-, rfl⟩ := heff
    exact hQ answer w₂ (hrely'.trans hrely₂) hinv₂ hrely₂.later.clock
  · exact fun w₁ hrely hinv => hQ time w₁ hrely hinv (Int.le_trans htime hrely.later.clock)

/-- What a running service leaves to a thread when it stops: no reservation. -/
def Clean (t : T) (w : TransferWorld T) : Prop :=
  ∀ r, Holds t r w.log → w.state.stopped = true → w.state.relay.reservations.get r = none

theorem assertRunning_wp {Q : Unit → TransferWorld T → Prop}
    (hQ : ∀ w', Rely t w w' → (outline calls).inv w' → Clean t w' → Q () w')
    (hE : ∀ error w', Rely t w w' → (outline calls).inv w' → w'.state.stopped = true → E error w') :
    Wp sha256 calls t assertRunning Q E w := by
  refine calm_act trivial fun w₁ answer s' hrely hinv heff hrely' hinv' => ?_
  obtain ⟨isAvailable, heq⟩ := heff
  unfold TransferProcess.assertRunning at heq
  split at heq
  · cases heq
    intro w₂ hrely₂ hinv₂
    exact hE _ w₂ (hrely'.trans hrely₂) hinv₂ (hrely₂.later.stopped rfl)
  · rename_i hrunning
    cases heq
    simp only [Bool.or_eq_true, not_or, Bool.not_eq_true] at hrunning
    intro w₂ hrely₂ hinv₂
    refine hQ w₂ (hrely'.trans hrely₂) hinv₂ fun r hheld hstop => ?_
    have hheld' := (hrely₂.holds r).mp hheld
    refine ((hrely₂.fenced r hheld').cleared hstop).resolve_left fun hold => ?_
    have hstopped : w₁.state.stopped = true := hold
    rw [hrunning.1] at hstopped
    cases hstopped

/-- The rule of a repository step. Either it fails before its call, or it makes the call and fails,
or it makes the call and returns the answer. -/
theorem repositoryStep_wp {Q : call.Answer → TransferWorld T → Prop} (hnow : Reading now w)
    (hpre : ∀ w₁, Rely t w w₁ → (outline calls).inv w₁ → CallPre calls t w₁ call)
    (hstop : ∀ error w', Rely t w w' → (outline calls).inv w' → E error w')
    (hfail : ∀ w₁ time answer s' error w₂, Rely t w w₁ → (outline calls).inv w₁ →
      time ≤ w₁.state.clock → Queried call time w₁.state answer s' →
      ((∃ reason, answer = .error reason) ∨ w₂.state.stopped = true) →
      Rely t (w₁.act t (.repository call time) answer s') w₂ → (outline calls).inv w₂ → E error w₂)
    (hok : ∀ w₁ time value s' w₂, Rely t w w₁ → (outline calls).inv w₁ →
      time ≤ w₁.state.clock → Queried call time w₁.state (.ok value) s' →
      Rely t (w₁.act t (.repository call time) (.ok value) s') w₂ → (outline calls).inv w₂ →
      Clean t w₂ → Q value w₂) :
    Wp sha256 calls t (repositoryStep now call) Q E w := by
  unfold repositoryStep guardedStep
  simp only [Prog.bind_eq]
  refine wp_bind (assertRunning_wp (fun w₀ hrely₀ _ _ => ?_)
    fun error w₀ hrely₀ hinv₀ _ => hstop error w₀ hrely₀ hinv₀)
  have hnow₀ : Reading now w₀ := by
    rcases hnow with rfl | ⟨time, rfl, htime⟩
    · exact .inl rfl
    · exact .inr ⟨time, rfl, Int.le_trans htime hrely₀.later.clock⟩
  refine wp_bind (System.wp_attempt (wp_bind (hnow₀.wp fun time w₁ hrely₁ hinv₁ htime => ?_)))
  intro w₂ hrely₂ hinv₂
  have hrely : Rely t w w₂ := (hrely₀.trans hrely₁).trans hrely₂
  have htime₂ : time ≤ w₂.state.clock := Int.le_trans htime hrely₂.later.clock
  refine ⟨⟨htime₂, hpre w₂ hrely hinv₂⟩, fun answer s' heff hinv' => ?_⟩
  cases answer with
  | error error =>
    intro w₃ hrely₃ hinv₃
    refine calm_act trivial fun w₄ _ s₄ hrely₄ _ _ hrely₄' _ => ?_
    intro w₅ hrely₅ hinv₅
    exact hfail w₂ time _ s' error w₅ hrely hinv₂ htime₂ heff (.inl ⟨_, rfl⟩)
      ((Rely.trans hrely₃ hrely₄').trans hrely₅) hinv₅
  | ok value =>
    simp only [Prog.ofExcept_ok, Prog.ret_bind]
    refine wp_bind (assertRunning_wp (fun w₃ hrely₃ hinv₃ hclean => ?_)
      fun error w₃ hrely₃ hinv₃ hstopped => ?_)
    · intro w₄ hrely₄ hinv₄ w₅ hrely₅ hinv₅
      have hlast := (Rely.trans hrely₄ hrely₅)
      refine hok w₂ time value s' w₅ hrely hinv₂ htime₂ heff (hrely₃.trans hlast) hinv₅ ?_
      intro r hheld hstop
      have hheld₃ := (hlast.holds r).mp hheld
      rcases (hlast.fenced r hheld₃).cleared hstop with hold | hnone
      · cases hres : w₅.state.relay.reservations.get r with
        | none => rfl
        | some reservation =>
          have hsome := (hlast.fenced r hheld₃).reservations reservation hres
          rw [hclean r hheld₃ hold] at hsome
          cases hsome
      · exact hnone
    · refine calm_act trivial fun w₄ _ s₄ hrely₄ _ _ hrely₄' _ => ?_
      intro w₅ hrely₅ hinv₅
      have hlast := hrely₄'.trans hrely₅
      exact hfail w₂ time _ s' error w₅ hrely hinv₂ htime₂ heff (.inr (hlast.later.stopped hstopped))
        (hrely₃.trans hlast) hinv₅

/-- The calls of the repository that no fence protects. -/
def RepositoryCall.Open : RepositoryCall → Prop
  | .create _ _ | .read _ _ | .readForSource _ _ | .listForSource _ | .cancel _ _ | .expireDue => True
  | _ => False

theorem RepositoryCall.Open.pre (h : call.Open) : CallPre calls t w call := by
  cases call with
  | create _ _ | read _ _ | readForSource _ _ | listForSource _ | cancel _ _ | expireDue => trivial
  | _ => exact h.elim

/-- An unprotected call never moves the row of a resident packet. -/
theorem RepositoryCall.Open.moves (h : call.Open) {a b : TransferState} (hmove : call.Moves r a b) :
    b = .CANCELLED ∧ (a = .REQUESTED ∨ a = .SOURCE_SEEN) := by
  cases call with
  | cancel _ _ => exact hmove.2
  | create _ _ | read _ _ | readForSource _ _ | listForSource _ | expireDue => exact hmove.elim
  | _ => exact h.elim

theorem rely_open {time : Date} {answer : Except Failure call.Answer} (hopen : call.Open)
    (htime : time ≤ w.state.clock) (heff : Queried call time w.state answer s') :
    Rely t w (w.act t (.repository call time) answer s') := by
  obtain ⟨hsame, hstopped, -, hclock⟩ := heff.relay
  have hunfenced : (Cmd.repository call time).Unfenced := trivial
  refine ⟨List.suffix_cons _ _, fun _ _ => found_unfenced hunfenced, ?_,
    fun _ => holds_unfenced hunfenced, heff.later, fun r _ => ⟨?_, ?_, ?_, ?_, ?_, ?_⟩⟩
  · rintro ⟨r, reservationId, packet, before, after, hmem⟩
    refine ⟨r, reservationId, packet, before, after, (List.mem_cons.mp hmem).resolve_left ?_⟩
    exact fun heq => by cases heq
  · intro packet hpacket
    rwa [World.act_state, hsame] at hpacket
  · intro packet hpacket
    rw [World.act_state, hsame]
    exact .inl hpacket
  · intro reservation hres
    rwa [World.act_state, hsame] at hres
  · exact fun hstop => .inl (hstopped ▸ hstop)
  · intro row' hrow' hstate
    rcases heff.row_back hrow' with hrequested | ⟨row, hrow, hmoved⟩
    · rw [hrequested] at hstate
      cases hstate
    rcases hmoved.state with hstate' | ⟨hexpired, -⟩ | hmove
    · exact ⟨row, hrow, hstate' ▸ hstate⟩
    · rw [hexpired] at hstate
      cases hstate
    · rw [(hopen.moves hmove).1] at hstate
      cases hstate
  · intro row row' hrow hrow' hcarries
    obtain ⟨found, hfound, hmoved⟩ := heff.row hrow
    have hsome : s'.rows.get r = some row' := hrow'
    rw [hsome] at hfound
    cases hfound
    rcases hmoved.state with hstate | ⟨-, hexpiry⟩ | hmove
    · exact .inl hstate
    · rw [World.act_state, hmoved.kept.expiry, hclock]
      exact .inr (Int.le_trans hexpiry htime)
    · rcases (hopen.moves hmove).2 with hstate | hstate
      · rw [hstate] at hcarries
        cases hcarries
      · rw [hstate] at hcarries
        cases hcarries

/-- The rule of an unprotected repository step. -/
theorem openStep_wp (hopen : call.Open) {Q : call.Answer → TransferWorld T → Prop}
    (hnow : Reading now w) (hE : ∀ error w', Rely t w w' → (outline calls).inv w' → E error w')
    (hQ : ∀ value w' s s' time, Rely t w w' → (outline calls).inv w' →
      Queried call time s (.ok value) s' → Later s' w'.state → Q value w') :
    Wp sha256 calls t (repositoryStep now call) Q E w := by
  refine repositoryStep_wp hnow (fun _ _ _ => hopen.pre) hE
    (fun w₁ time answer s' error w₂ hrely₁ _ htime heff _ hrely₂ hinv₂ => ?_)
    fun w₁ time value s' w₂ hrely₁ _ htime heff hrely₂ hinv₂ _ => ?_
  · exact hE error w₂ ((hrely₁.trans (rely_open hopen htime heff)).trans hrely₂) hinv₂
  · exact hQ value w₂ w₁.state s' time ((hrely₁.trans (rely_open hopen htime heff)).trans hrely₂)
      hinv₂ heff hrely₂.later

/-! The fence of a request. -/

/-- What a thread knows of a request whose fence it holds, before it changes anything. -/
structure Fenced (calls : T → ServiceCall) (t : T) (r : String) (w : TransferWorld T) : Prop where
  held : Holds t r w.log
  unreserved : w.state.relay.reservations.get r = none
  accounted : Accounted calls w.log w.state r
  retains : Retains w.log t w.state r

theorem unreserved_rely (h : w.state.relay.reservations.get r = none) (hheld : Holds t r w.log)
    (hrely : Rely t w w') : w'.state.relay.reservations.get r = none := by
  cases hres : w'.state.relay.reservations.get r with
  | none => rfl
  | some reservation =>
    have hsome := (hrely.fenced r hheld).reservations reservation hres
    rw [h] at hsome
    cases hsome

theorem Fenced.rely (h : Fenced calls t r w) (hrely : Rely t w w') :
    Fenced calls t r w' where
  held := (hrely.holds r).mpr h.held
  unreserved := unreserved_rely h.unreserved h.held hrely
  accounted := h.accounted.rely h.held hrely
  retains := h.retains.rely h.held hrely

theorem Fenced.leaves (h : Fenced calls t r w) : Pre calls t (.leave r) w :=
  ⟨h.held, h.unreserved, fun _ _ => h.accounted, fun _ _ _ _ => h.retains⟩

/-- The precondition of the end of the fenced part survives the others. -/
theorem leaves_rely (h : Pre calls t (.leave r) w) (hrely : Rely t w w') :
    Pre calls t (.leave r) w' := by
  obtain ⟨hheld, hunreserved, haccounted, hretains⟩ := h
  refine ⟨(hrely.holds r).mpr hheld, unreserved_rely hunreserved hheld hrely,
    fun principal hcall => (haccounted principal hcall).rely hheld hrely,
    fun principal input hcall hactivated => ?_⟩
  have hactivated' : ¬ Activated w.log t := by
    rintro ⟨requestId, reservationId, packet, before, after, hmem⟩
    exact hactivated ⟨requestId, reservationId, packet, before, after, hrely.log.subset hmem⟩
  exact (hretains principal input hcall hactivated').rely hheld hrely

/-- The fence that a thread has just taken. -/
theorem fenced_entered (hinv : (outline calls).inv w) (hfree : r ∉ w.state.inFlightRequests)
    (hrelay : s'.relay = w.state.relay) (hrows : s'.rows = w.state.rows) :
    Fenced calls t r (w.act t (.enter r) (.ok ()) s') := by
  obtain ⟨hfence, hrelayInv, -⟩ := hinv
  have hnobody (holder : T) : ¬ Holds holder r w.log := fun hheld =>
    hfree (hfence.held holder r hheld)
  refine ⟨.inl ⟨rfl, rfl⟩, ?_, ?_, ?_⟩
  · rw [World.act_state, hrelay]
    cases hres : w.state.relay.reservations.get r with
    | none => rfl
    | some reservation =>
      obtain ⟨-, holder, hheld⟩ := hrelayInv.reserved r reservation hres
      exact absurd hheld (hnobody holder)
  · intro packet row hpacket hrow hstate
    rw [World.act_state, hrelay] at hpacket
    rw [World.act_state, hrows] at hrow
    rcases hrelayInv.accounted r with haccounted | ⟨holder, -, hheld, -⟩
    · exact (haccounted packet row hpacket hrow hstate).mono (List.suffix_cons _ _)
    · exact absurd hheld (hnobody holder)
  · intro packet hfound
    rw [World.act_state, hrelay]
    rcases hfound with ⟨-, -, hpacket⟩ | ⟨hother, -⟩
    · exact .inr hpacket
    · exact absurd ⟨rfl, rfl⟩ hother

/-- The rule of `forRequest`: the fenced part ends, in either way, where the fence may be given
back; what is known of its value is a fact of the history. -/
theorem forRequest_wp {operation : Program α} (known : α → List (TransferEvent T) → Prop)
    {Q : α → TransferWorld T → Prop}
    (hknown : ∀ value log log', log <:+ log' → known value log → known value log')
    (hoperation : ∀ w', (outline calls).inv w' → Fenced calls t r w' → Wp sha256 calls t operation
      (fun value w' => Pre calls t (.leave r) w' ∧ known value w'.log)
      (fun _ w' => Pre calls t (.leave r) w') w')
    (hQ : ∀ value w', (outline calls).inv w' → known value w'.log → Q value w')
    (hE : ∀ error w', (outline calls).inv w' → E error w') :
    Wp sha256 calls t (forRequest r operation) Q E w := by
  unfold forRequest
  simp only [Prog.bind_eq, Prog.act_bind]
  intro w₁ _ hinv₁
  refine ⟨trivial, fun answer s' heff hinv' => ?_⟩
  obtain ⟨isAvailable, heq⟩ := heff
  cases answer with
  | error error => exact fun w₂ _ hinv₂ => hE error w₂ hinv₂
  | ok value =>
    simp only [Prog.ofExcept_ok, Prog.ret_bind]
    have hentered : r ∉ w₁.state.inFlightRequests ∧ s'.relay = w₁.state.relay ∧
        s'.rows = w₁.state.rows := by
      rcases enter_cases w₁.state r isAvailable with ⟨error, hfailed | hfailed⟩ | ⟨-, hfree, hok⟩
      · rw [hfailed] at heq
        cases heq
      · rw [hfailed] at heq
        cases heq
      · rw [hok] at heq
        cases heq
        exact ⟨hfree, rfl, rfl⟩
    have hfenced : Fenced calls t r (w₁.act t (.enter r) (.ok ()) s') :=
      fenced_entered hinv₁ hentered.1 hentered.2.1 hentered.2.2
    refine wp_bind (System.wp_attempt (System.wp_mono (hoperation _ hinv' hfenced)
      (fun value w₂ _ hend => ?_) fun error w₂ _ hend => ?_))
    · intro w₃ hrely₃ hinv₃
      refine ⟨leaves_rely hend.1 hrely₃, fun _ s₃ _ _ w₄ hrely₄ hinv₄ => ?_⟩
      have hlog := (hrely₃.log.trans (List.suffix_cons _ _)).trans hrely₄.log
      exact hQ value w₄ hinv₄ (hknown value _ _ hlog hend.2)
    · intro w₃ hrely₃ hinv₃
      exact ⟨leaves_rely hend hrely₃, fun _ s₃ _ _ w₄ _ hinv₄ => hE error w₄ hinv₄⟩

end SellerAgents.CredentialTransfer
