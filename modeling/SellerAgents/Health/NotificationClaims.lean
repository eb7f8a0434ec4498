import SellerAgents.Concurrent.Replay
import SellerAgents.Health.NotificationLaws

open Relational Concurrent

namespace SellerAgents.Health

open Subscriptions (Date)

variable {T Id Token : Type}

/-! What a history says of an intent. -/

namespace DeliveryEvent

/-- The intent that a call has claimed, with the token that it wrote. -/
def claimed : DeliveryEvent T Id Token → Option (Nat × Token)
  | .act _ command answer _ _ => command.claimed answer
  | .env _ _ => none
  | .finish _ _ _ => none

/-- The intent whose claim a report has ended. -/
def reported : DeliveryEvent T Id Token → Option Nat
  | .act _ command answer _ _ => command.reported answer
  | .env _ _ => none
  | .finish _ _ _ => none

/-- A resumption that brings a suppressed intent back. -/
def resumes (id : Nat) : DeliveryEvent T Id Token → Bool
  | .act _ (.resume _ _) _ pre post =>
    (getIntent pre id).map (·.state) = some .SUPPRESSED &&
      (getIntent post id).map (·.state) = some .PENDING
  | _ => false

/-- A statement that writes a claim of an intent, or ends one. -/
def Touches (id : Nat) (event : DeliveryEvent T Id Token) : Prop :=
  (claimed event).map Prod.fst = some id ∨ reported event = some id

end DeliveryEvent

/-- The token of the latest claim of an intent. -/
def latestClaim (id : Nat) (log : List (DeliveryEvent T Id Token)) : Option Token :=
  log.findSome? fun event =>
    ((DeliveryEvent.claimed event).filter (·.1 = id)).map Prod.snd

/-- How often an intent has been claimed since it was created or resumed. -/
def claimsSince (id : Nat) (log : List (DeliveryEvent T Id Token)) : Nat :=
  (log.takeWhile fun event => !DeliveryEvent.resumes id event).countP fun event =>
    (DeliveryEvent.claimed event).any (·.1 = id)

/-- A delivered intent stays delivered, and a failed one failed. -/
def FinalKept (w : World T (DeliveryCmd Id Token) DeliveryCmd.Answer NotificationError
    (DeliveryResult Id Token) (Intents Id Token)) : Prop :=
  ∀ t command answer pre post older, (.act t command answer pre post :: older) <:+ w.log →
    ∀ id row, getIntent pre id = some row →
      row.state = .DELIVERED ∨ row.state = .FAILED_TERMINAL →
      ∃ row', getIntent w.state id = some row' ∧ row'.state = row.state

/-- A report changes no intent but the one that it names, and that one only for the token of its
latest claim. -/
def ReportsFenced (log : List (DeliveryEvent T Id Token)) : Prop :=
  ∀ t command answer pre post older, (.act t command answer pre post :: older) <:+ log →
    ∀ reportedId token, command.report = some (reportedId, token) →
      ∀ id, getIntent post id ≠ getIntent pre id →
        id = reportedId ∧ latestClaim id older = some token

/-- A call of `claimDue` returns an intent with the token that it has written itself. -/
def ReturnsOwnClaim (calls : DeliveryCalls T Id Token) (log : List (DeliveryEvent T Id Token)) :
    Prop :=
  ∀ t intent at_ older, (.finish t (.ok (.claimed (some intent))) at_ :: older) <:+ log →
    intent.claimToken = some (calls.randomUUID t)

/-- No intent is claimed more often than attempts are allowed. -/
def AttemptsBounded (log : List (DeliveryEvent T Id Token)) : Prop :=
  ∀ older, older <:+ log → ∀ id, claimsSince id older ≤ MAX_NOTIFICATION_ATTEMPTS

/-- Where a call of `claimDue` has returned an intent, no other statement has claimed it, or ended
the claim, between the two statements of the call. -/
def ReadsUndisturbed [DecidableEq T] (log : List (DeliveryEvent T Id Token)) : Prop :=
  ∀ t intent at_ older, (.finish t (.ok (.claimed (some intent))) at_ :: older) <:+ log →
    ∀ recent id pre post between input token pre' post' rest,
      older = recent ++ .act t (.getIntent id) (some intent) pre post ::
        (between ++ .act t (.claim input token) (some id) pre' post' :: rest) →
      callsOf t between = [] → ∀ event ∈ between, ¬ DeliveryEvent.Touches id event

/-- No claim that has run out is taken over once the intent has been claimed as often as it may. -/
def TakeoversBounded (log : List (DeliveryEvent T Id Token)) : Prop :=
  ∀ t command answer pre post older, (.act t command answer pre post :: older) <:+ log →
    ∀ id token, command.claimed answer = some (id, token) →
      ∀ row, getIntent pre id = some row → row.state = .CLAIMED →
        claimsSince id older < MAX_NOTIFICATION_ATTEMPTS

section Ghosts

variable {command : DeliveryCmd Id Token} {answer : command.Answer} {id : Nat}

theorem latestClaim_cons_of_claimed (t : T) (pre post : Intents Id Token)
    (log : List (DeliveryEvent T Id Token)) {token : Token}
    (h : command.claimed answer = some (id, token)) :
    latestClaim id (.act t command answer pre post :: log) = some token := by
  simp [latestClaim, DeliveryEvent.claimed, h]

theorem latestClaim_cons_of_unclaimed (t : T) (pre post : Intents Id Token)
    (log : List (DeliveryEvent T Id Token))
    (h : ∀ token, command.claimed answer ≠ some (id, token)) :
    latestClaim id (.act t command answer pre post :: log) = latestClaim id log := by
  have hnone : ((command.claimed answer).filter (·.1 = id)).map Prod.snd = none := by
    cases hclaimed : command.claimed answer with
    | none => rfl
    | some claim =>
      have hne : claim.1 ≠ id := by
        rintro rfl
        exact h claim.2 hclaimed
      simp [Option.filter, hne]
  simp [latestClaim, DeliveryEvent.claimed, hnone]

theorem claimsSince_cons_of_resumes {t : T} {pre post : Intents Id Token}
    (log : List (DeliveryEvent T Id Token))
    (h : DeliveryEvent.resumes id (.act t command answer pre post) = true) :
    claimsSince id (.act t command answer pre post :: log) = 0 := by
  simp [claimsSince, h]

theorem claimsSince_cons_of_claimed (t : T) (pre post : Intents Id Token)
    (log : List (DeliveryEvent T Id Token)) {token : Token}
    (h : command.claimed answer = some (id, token)) :
    claimsSince id (.act t command answer pre post :: log) = claimsSince id log + 1 := by
  have hresumes : DeliveryEvent.resumes id (.act t command answer pre post) = false := by
    cases command with
    | resume incidentId observedAt => cases h
    | _ => rfl
  simp [claimsSince, hresumes, DeliveryEvent.claimed, h]

theorem claimsSince_cons_of_unclaimed {t : T} {pre post : Intents Id Token}
    (log : List (DeliveryEvent T Id Token)) (h : ∀ token, command.claimed answer ≠ some (id, token))
    (hresumes : DeliveryEvent.resumes id (.act t command answer pre post) = false) :
    claimsSince id (.act t command answer pre post :: log) = claimsSince id log := by
  have hnone : (command.claimed answer).any (·.1 = id) = false := by
    cases hclaimed : command.claimed answer with
    | none => rfl
    | some claim =>
      have hne : claim.1 ≠ id := by
        rintro rfl
        exact h claim.2 hclaimed
      simpa using hne
  simp [claimsSince, hresumes, DeliveryEvent.claimed, hnone]

theorem claimsSince_cons_finish (t : T) (log : List (DeliveryEvent T Id Token))
    (outcome : Except NotificationError (DeliveryResult Id Token)) (at_ : Intents Id Token) :
    claimsSince id (.finish t outcome at_ :: log) = claimsSince id log := by
  simp [claimsSince, DeliveryEvent.resumes, DeliveryEvent.claimed]

theorem resumes_of_states {t : T} {pre post : Intents Id Token}
    (h : (getIntent pre id).map (·.state) ≠ some .SUPPRESSED ∨
      (getIntent post id).map (·.state) ≠ some .PENDING) :
    DeliveryEvent.resumes id (.act t command answer pre post) = false := by
  cases command with
  | resume incidentId observedAt =>
    unfold DeliveryEvent.resumes
    rcases h with h | h
    · simp [h]
    · simp [h]
  | _ => rfl

end Ghosts

/-! The invariant of every run. -/

abbrev DeliveryWorld (T Id Token : Type) : Type :=
  World T (DeliveryCmd Id Token) DeliveryCmd.Answer NotificationError (DeliveryResult Id Token)
    (Intents Id Token)

/-- What the history says of an intent agrees with its row. -/
structure IntentInv (log : List (DeliveryEvent T Id Token)) (id : Nat)
    (row : HealthNotificationIntent Id Token) : Prop where
  held : ∀ token, row.claimToken = some token →
    row.state = .CLAIMED ∧ latestClaim id log = some token
  attempts : claimsSince id log ≤ row.attemptCount
  pending : row.state = .PENDING → claimsSince id log = 0
  retryable : row.state = .FAILED_RETRYABLE → row.attemptCount < MAX_NOTIFICATION_ATTEMPTS

/-- The invariant of the intents and of the log of deliveries. -/
structure DeliveryInv (w : DeliveryWorld T Id Token) : Prop where
  numbered : Numbered w.state
  rows : ∀ id row, getIntent w.state id = some row → IntentInv w.log id row
  absent : ∀ id, getIntent w.state id = none → claimsSince id w.log = 0

section Inv

variable {command : DeliveryCmd Id Token} {answer : command.Answer} {id : Nat}
  {pre post : Intents Id Token} {log : List (DeliveryEvent T Id Token)}
  {row : HealthNotificationIntent Id Token} {t : T}

theorem Moved.absent_claims (h : Moved command answer id (getIntent pre id) (getIntent post id))
    (hnone : getIntent post id = none) :
    getIntent pre id = none ∧ ∀ token, command.claimed answer ≠ some (id, token) := by
  rw [hnone] at h
  cases hpre : getIntent pre id with
  | none =>
    rw [hpre] at h
    cases h with
    | absent calm => exact ⟨rfl, calm.1⟩
  | some row =>
    rw [hpre] at h
    cases h

/-- What a command does to an intent keeps its row in agreement with the history. -/
theorem Moved.intentInv (h : Moved command answer id (getIntent pre id) (getIntent post id))
    (habsent : getIntent pre id = none → claimsSince id log = 0)
    (hrows : ∀ row, getIntent pre id = some row → IntentInv log id row)
    (hpost : getIntent post id = some row) :
    IntentInv (.act t command answer pre post :: log) id row := by
  rw [hpost] at h
  cases hpre : getIntent pre id with
  | none =>
    rw [hpre] at h
    cases h with
    | created calm _ state attemptCount claimToken =>
      have hresumes : DeliveryEvent.resumes id (.act t command answer pre post) = false :=
        resumes_of_states (.inl (by simp [hpre]))
      have hsince := claimsSince_cons_of_unclaimed log calm.1 hresumes
      rw [habsent hpre] at hsince
      refine ⟨?_, ?_, fun _ => hsince, ?_⟩
      · rw [claimToken]
        exact nofun
      · omega
      · rw [state]
        exact nofun
  | some old =>
    have hold := hrows old hpre
    rw [hpre] at h
    cases h with
    | kept calm same claim =>
      have hresumes : DeliveryEvent.resumes id (.act t command answer pre post) = false := by
        by_cases hstate : old.state = .SUPPRESSED
        · refine resumes_of_states (.inr ?_)
          rw [hpost]
          simp [claim.state, hstate]
        · refine resumes_of_states (.inl ?_)
          simp [hpre, hstate]
      have hsince := claimsSince_cons_of_unclaimed log calm.1 hresumes
      have hlatest := latestClaim_cons_of_unclaimed t pre post log calm.1
      constructor
      · intro token htoken
        rw [hlatest, claim.state]
        exact hold.held token (claim.claimToken ▸ htoken)
      · rw [hsince, claim.attemptCount]
        exact hold.attempts
      · intro hpending
        rw [hsince]
        exact hold.pending (claim.state ▸ hpending)
      · intro hretryable
        rw [claim.attemptCount]
        exact hold.retryable (claim.state ▸ hretryable)
    | @claimed _ _ token hclaimed _ _ state attemptCount claimToken =>
      have hsince := claimsSince_cons_of_claimed t pre post log hclaimed
      have hlatest := latestClaim_cons_of_claimed t pre post log hclaimed
      have hattempts := hold.attempts
      constructor
      · intro other hother
        rw [claimToken] at hother
        cases hother
        exact ⟨state, hlatest⟩
      · omega
      · rw [state]
        exact nofun
      · rw [state]
        exact nofun
    | reported _ unclaimed _ before _ state attemptCount claimToken =>
      have hresumes : DeliveryEvent.resumes id (.act t command answer pre post) = false :=
        resumes_of_states (.inl (by simp [hpre, before]))
      have hsince := claimsSince_cons_of_unclaimed log unclaimed hresumes
      have hattempts := hold.attempts
      constructor
      · rw [claimToken]
        exact nofun
      · omega
      · intro hpending
        rcases state with hfinal | ⟨hretryable, -⟩
        · simp [hpending] at hfinal
        · rw [hpending] at hretryable
          cases hretryable
      · intro hretryable
        rcases state with hfinal | ⟨-, hlt⟩
        · simp [hretryable] at hfinal
        · omega
    | suppressed calm _ before state attemptCount claimToken =>
      have hresumes : DeliveryEvent.resumes id (.act t command answer pre post) = false := by
        refine resumes_of_states (.inl ?_)
        rcases before with hstate | hstate
        · simp [hpre, hstate]
        · simp [hpre, hstate]
      have hsince := claimsSince_cons_of_unclaimed log calm.1 hresumes
      have hattempts := hold.attempts
      constructor
      · rw [claimToken]
        exact nofun
      · omega
      · rw [state]
        exact nofun
      · rw [state]
        exact nofun
    | resumed resumes before state attemptCount claimToken =>
      subst resumes
      have hresumes : DeliveryEvent.resumes id (.act t (.resume _ _) answer pre post) = true := by
        simp [DeliveryEvent.resumes, hpre, hpost, before, state]
      have hsince := claimsSince_cons_of_resumes log hresumes
      constructor
      · intro token htoken
        rw [claimToken] at htoken
        have hclaimed := (hold.held token htoken).1
        rw [before] at hclaimed
        cases hclaimed
      · omega
      · exact fun _ => hsince
      · rw [state]
        exact nofun

end Inv

section Runs

theorem deliveryInv_finish {w : DeliveryWorld T Id Token} (hinv : DeliveryInv w) (t : T)
    (outcome : Except NotificationError (DeliveryResult Id Token)) :
    DeliveryInv (w.finish t outcome) := by
  have hsince : ∀ id, claimsSince id (w.finish t outcome).log = claimsSince id w.log :=
    fun id => claimsSince_cons_finish t w.log outcome _
  refine ⟨hinv.numbered, fun id row hrow => ?_, fun id hnone => ?_⟩
  · obtain ⟨held, attempts, pending, retryable⟩ := hinv.rows id row hrow
    exact ⟨held, (hsince id).le.trans attempts, fun hp => (hsince id).trans (pending hp), retryable⟩
  · exact (hsince id).trans (hinv.absent id hnone)

theorem deliveryInv_start : DeliveryInv (World.start [] : DeliveryWorld T Id Token) :=
  ⟨rfl, fun _ _ => nofun, fun _ _ => rfl⟩

/-- A final intent is left as it is. -/
theorem Moved.final {command : DeliveryCmd Id Token} {answer : command.Answer} {id : Nat}
    {row : HealthNotificationIntent Id Token} {found : Option (HealthNotificationIntent Id Token)}
    (h : Moved command answer id (some row) found)
    (hfinal : row.state = .DELIVERED ∨ row.state = .FAILED_TERMINAL) :
    ∃ row', found = some row' ∧ row'.state = row.state := by
  have hother : ∀ {state : NotificationState}, row.state = state → state ≠ .DELIVERED →
      state ≠ .FAILED_TERMINAL → False := by
    intro state hstate hdelivered hfailed
    rcases hfinal with heq | heq
    · exact hdelivered (hstate.symm.trans heq)
    · exact hfailed (hstate.symm.trans heq)
  cases h with
  | kept _ _ claim => exact ⟨_, rfl, claim.state⟩
  | claimed _ _ before =>
    rcases before with hstate | hstate | hstate
    · exact (hother hstate nofun nofun).elim
    · exact (hother hstate nofun nofun).elim
    · exact (hother hstate nofun nofun).elim
  | reported _ _ _ before => exact (hother before nofun nofun).elim
  | suppressed _ _ before =>
    rcases before with hstate | hstate
    · exact (hother hstate nofun nofun).elim
    · exact (hother hstate nofun nofun).elim
  | resumed _ before => exact (hother before nofun nofun).elim

variable [DecidableEq Token] {calls : DeliveryCalls T Id Token}

theorem delivery_once (t : T) : ((deliverySystem calls).prelude t).Only (fun _ => True)
    fun result => result.isSome :=
  Prog.only_bind (Prog.only_mono (Prog.only_true _) fun _ _ => rfl)

theorem deliveryInv_act {w : DeliveryWorld T Id Token} (hinv : DeliveryInv w) {t : T}
    {command : DeliveryCmd Id Token} {answer : command.Answer} {intents' : Intents Id Token}
    (h : DeliveryEffect command w.state answer intents') :
    DeliveryInv (w.act t command answer intents') := by
  obtain ⟨hnumbered, hmoved⟩ := deliveryEffect_moved hinv.numbered h
  refine ⟨hnumbered, ?_, ?_⟩
  · intro id row hrow
    exact (hmoved id).intentInv (hinv.absent id) (hinv.rows id) hrow
  · intro id hnone
    obtain ⟨hpre, hunclaimed⟩ := (hmoved id).absent_claims hnone
    refine (claimsSince_cons_of_unclaimed w.log hunclaimed ?_).trans (hinv.absent id hpre)
    exact resumes_of_states (.inl (by simp [hpre]))

theorem deliveryInv_reachable [DecidableEq T] {cfg : DeliveryConfig T Id Token}
    (h : (deliverySystem calls).Reachable [] cfg) : DeliveryInv cfg.world := by
  refine (System.Reachable.invariant (I := DeliveryInv) deliveryInv_start ?_ ?_ ?_ h).1
  · intro t command w answer intents' hinv heffect
    exact deliveryInv_act hinv heffect
  · exact fun _ _ _ hnever => hnever.elim
  · intro w t outcome hinv
    exact deliveryInv_finish hinv t outcome

theorem finalKept_reachable [DecidableEq T] {cfg : DeliveryConfig T Id Token}
    (h : (deliverySystem calls).Reachable [] cfg) : FinalKept cfg.world := by
  refine (System.Reachable.invariant
    (I := fun w => DeliveryInv w ∧ FinalKept w) ?_ ?_ ?_ ?_ h).1.2
  · refine ⟨deliveryInv_start, ?_⟩
    intro t command answer pre post older hsuffix
    cases List.suffix_nil.mp hsuffix
  · rintro t command w answer intents' ⟨hinv, hkept⟩ heffect
    refine ⟨deliveryInv_act hinv heffect, ?_⟩
    have hmoved := (deliveryEffect_moved hinv.numbered heffect).2
    intro t' command' answer' pre post older hsuffix id row hrow hfinal
    rcases List.suffix_cons_iff.mp hsuffix with heq | hsuffix
    · cases heq
      exact (hrow ▸ hmoved id).final hfinal
    · obtain ⟨row', hrow', hstate⟩ := hkept _ _ _ _ _ _ hsuffix id row hrow hfinal
      obtain ⟨row'', hrow'', hstate'⟩ := (hrow' ▸ hmoved id).final (hstate ▸ hfinal)
      exact ⟨row'', hrow'', hstate'.trans hstate⟩
  · exact fun _ _ _ hnever => hnever.elim
  · rintro w t outcome ⟨hinv, hkept⟩
    refine ⟨deliveryInv_finish hinv t outcome, ?_⟩
    intro t' command answer pre post older hsuffix
    exact hkept t' command answer pre post older
      ((List.suffix_cons_iff.mp hsuffix).resolve_left (by simp))

variable [DecidableEq T] {cfg : DeliveryConfig T Id Token} {t : T}
  {command : DeliveryCmd Id Token} {answer : command.Answer} {pre post : Intents Id Token}
  {older : List (DeliveryEvent T Id Token)}

/-- What a call of the history found and what it did. -/
theorem moved_of_event (h : (deliverySystem calls).Reachable [] cfg)
    (hsuffix : (.act t command answer pre post :: older) <:+ cfg.world.log) :
    DeliveryInv (⟨pre, older⟩ : DeliveryWorld T Id Token) ∧
      ∀ id, Moved command answer id (getIntent pre id) (getIntent post id) := by
  obtain ⟨pool, hreach⟩ := h.at_act hsuffix
  have hinv := deliveryInv_reachable hreach
  obtain ⟨-, heffect⟩ := (h.explained delivery_once).2 _ _ hsuffix
  exact ⟨hinv, (deliveryEffect_moved hinv.numbered heffect).2⟩

theorem reportsFenced_reachable (h : (deliverySystem calls).Reachable [] cfg) :
    ReportsFenced cfg.world.log := by
  intro t command answer pre post older hsuffix reportedId token hreport id hchanged
  obtain ⟨hinv, hmoved⟩ := moved_of_event h hsuffix
  have hno : command.report ≠ none := by
    rw [hreport]
    exact nofun
  have hid := hmoved id
  generalize hpost : getIntent post id = found at hid hchanged
  cases hpre : getIntent pre id with
  | none =>
    rw [hpre] at hid hchanged
    cases hid with
    | absent => exact absurd rfl hchanged
    | created _ other => exact absurd other hno
  | some row =>
    have hrow := hinv.rows id row hpre
    rw [hpre] at hid hchanged
    cases hid with
    | kept _ same =>
      rcases same with hnone | rfl
      · exact absurd hnone hno
      · exact absurd rfl hchanged
    | claimed _ other => exact absurd other hno
    | reported _ _ report _ held =>
      rw [hreport] at report
      cases report
      exact ⟨rfl, (hrow.held token held).2⟩
    | suppressed _ other => exact absurd other hno
    | resumed resumes =>
      subst resumes
      exact absurd rfl hno

/-- The bound on the attempts holds exactly when the claims that are taken over keep it. -/
theorem attemptsBounded_iff (h : (deliverySystem calls).Reachable [] cfg) :
    AttemptsBounded cfg.world.log ↔ TakeoversBounded cfg.world.log := by
  constructor
  · intro hbounded t command answer pre post older hsuffix id token hclaimed row hrow hstate
    have hle := hbounded _ hsuffix id
    rw [claimsSince_cons_of_claimed _ _ _ _ hclaimed] at hle
    omega
  · intro htakeovers older
    induction older with
    | nil => exact fun _ id => Nat.zero_le _
    | cons event older ih =>
      intro hsuffix id
      have hle := ih ((List.suffix_cons _ _).trans hsuffix) id
      cases event with
      | env pre post => simpa [claimsSince, DeliveryEvent.resumes, DeliveryEvent.claimed] using hle
      | finish t outcome at_ => rwa [claimsSince_cons_finish]
      | act t command answer pre post =>
        by_cases hclaimed : ∃ token, command.claimed answer = some (id, token)
        · obtain ⟨token, hclaimed⟩ := hclaimed
          rw [claimsSince_cons_of_claimed _ _ _ _ hclaimed]
          obtain ⟨hinv, hmoved⟩ := moved_of_event h hsuffix
          have hid := hmoved id
          generalize hpost : getIntent post id = found at hid
          cases hpre : getIntent pre id with
          | none =>
            rw [hpre] at hid
            cases hid with
            | absent calm => exact absurd hclaimed (calm.1 token)
            | created calm => exact absurd hclaimed (calm.1 token)
          | some row =>
            have hrow := hinv.rows id row hpre
            rw [hpre] at hid
            cases hid with
            | claimed _ _ before =>
              rcases before with hpending | hretryable | hstate
              · rw [show claimsSince id older = 0 from hrow.pending hpending]
                decide
              · exact (Nat.succ_le_succ hrow.attempts).trans (hrow.retryable hretryable)
              · exact htakeovers _ _ _ _ _ _ hsuffix id token hclaimed row hpre hstate
            | kept calm => exact absurd hclaimed (calm.1 token)
            | reported _ unclaimed => exact absurd hclaimed (unclaimed token)
            | suppressed calm => exact absurd hclaimed (calm.1 token)
            | resumed resumes =>
              subst resumes
              cases hclaimed
        · have hunclaimed : ∀ token, command.claimed answer ≠ some (id, token) :=
            fun token hclaimed' => hclaimed ⟨token, hclaimed'⟩
          cases hresumes : DeliveryEvent.resumes id (.act t command answer pre post) with
          | true => rw [claimsSince_cons_of_resumes _ hresumes]; exact Nat.zero_le _
          | false => rwa [claimsSince_cons_of_unclaimed _ hunclaimed hresumes]

end Runs

/-! The two statements of `claimDue`. -/

section Reads

variable [DecidableEq Token] {calls : DeliveryCalls T Id Token} {t : T}
  {path : List (Prog.Call (DeliveryCmd Id Token) DeliveryCmd.Answer)}

/-- A command other than the one that writes a claim. -/
def DeliveryCmd.WritesNoClaim (command : DeliveryCmd Id Token) : Prop :=
  ∀ input token, command ≠ .claim input token

/-- A result other than that of `claimDue`. -/
def ReturnsNoClaim (result : Option (DeliveryResult Id Token)) : Prop :=
  ∀ intent, result ≠ some (.claimed intent)

omit [DecidableEq Token] in
theorem program_only {call : DeliveryCall Id Token} (hcall : ∀ input, call ≠ .claimDue input)
    (token : Token) : ((call.program token).bind fun result => .ret (some result)).Only
      DeliveryCmd.WritesNoClaim ReturnsNoClaim := by
  cases call with
  | claimDue input => exact absurd rfl (hcall input)
  | markDelivered input =>
    refine ⟨fun _ _ => nofun, fun answer => ?_⟩
    cases answer with
    | ok _ => exact fun _ => nofun
    | error _ => trivial
  | failClaim input =>
    refine ⟨fun _ _ => nofun, fun answer => ?_⟩
    cases answer with
    | ok _ => exact fun _ => nofun
    | error _ => trivial
  | record event => exact ⟨fun _ _ => nofun, fun answer _ => nofun⟩
  | observe input policy =>
    refine ⟨fun _ _ => nofun, fun answer => ?_⟩
    cases answer with
    | ok _ => exact fun _ => nofun
    | error _ => trivial
  | suppress incidentId => exact ⟨fun _ _ => nofun, fun answer _ => nofun⟩
  | resume incidentId observedAt => exact ⟨fun _ _ => nofun, fun answer _ => nofun⟩

variable {input : ClaimDue} {token : Token}

omit [DecidableEq Token] in
theorem claimDue_leads {q : DeliveryProgram Id Token (Option (DeliveryResult Id Token))}
    (h : Prog.Leads ((claimDue input token).bind fun result => .ret (some result)) path q) :
    (path = [] ∧ ∃ next, q = .act (.claim input token) next) ∨
      (path = [⟨.claim input token, none⟩] ∧ q = .ret (some (.claimed none))) ∨
      ∃ id, (path = [⟨.claim input token, some id⟩] ∧ ∃ next, q = .act (.getIntent id) next) ∨
        ∃ intent, path = [⟨.claim input token, some id⟩, ⟨.getIntent id, intent⟩] ∧
          q = .ret (some (.claimed intent)) := by
  rcases Prog.leads_act_iff.mp h with ⟨rfl, rfl⟩ | ⟨answer, rest, rfl, hrest⟩
  · exact .inl ⟨rfl, _, rfl⟩
  · cases answer with
    | none =>
      obtain ⟨rfl, rfl⟩ := Prog.leads_ret_iff.mp hrest
      exact .inr (.inl ⟨rfl, rfl⟩)
    | some id =>
      refine .inr (.inr ⟨id, ?_⟩)
      rcases Prog.leads_act_iff.mp hrest with ⟨rfl, rfl⟩ | ⟨intent, last, rfl, hlast⟩
      · exact .inl ⟨rfl, _, rfl⟩
      · obtain ⟨rfl, rfl⟩ := Prog.leads_ret_iff.mp hlast
        exact .inr ⟨intent, rfl, rfl⟩

/-- A claim is written with the token that its call has drawn. -/
theorem claim_of_leads
    {next : Option Nat → DeliveryProgram Id Token (Option (DeliveryResult Id Token))}
    (h : Prog.Leads ((deliverySystem calls).prelude t) path (.act (.claim input token) next)) :
    token = calls.randomUUID t := by
  by_cases hcall : ∃ input, calls.call t = .claimDue input
  · obtain ⟨input', hcall⟩ := hcall
    have hprelude : (deliverySystem calls).prelude t =
        (claimDue input' (calls.randomUUID t)).bind fun result => .ret (some result) := by
      simp only [deliverySystem, hcall, DeliveryCall.program]
    rw [hprelude] at h
    rcases claimDue_leads h with ⟨-, next', heq⟩ | ⟨-, heq⟩ | ⟨id, ⟨-, next', heq⟩ | ⟨_, -, heq⟩⟩
    · cases heq
      rfl
    · cases heq
    · cases heq
    · cases heq
  · have honly := program_only (fun input hcall' => hcall ⟨input, hcall'⟩) (calls.randomUUID t)
    exact absurd rfl ((Prog.Leads.only h honly).2.1 input token)

theorem returned_of_leads {intent : Option (HealthNotificationIntent Id Token)}
    (h : Prog.Leads ((deliverySystem calls).prelude t) path (.ret (some (.claimed intent))))
    (hsome : intent ≠ none) :
    ∃ input id, path = [⟨.claim input (calls.randomUUID t), some id⟩, ⟨.getIntent id, intent⟩] := by
  by_cases hcall : ∃ input, calls.call t = .claimDue input
  · obtain ⟨input', hcall⟩ := hcall
    have hprelude : (deliverySystem calls).prelude t =
        (claimDue input' (calls.randomUUID t)).bind fun result => .ret (some result) := by
      simp only [deliverySystem, hcall, DeliveryCall.program]
    rw [hprelude] at h
    rcases claimDue_leads h with ⟨-, next', heq⟩ | ⟨-, heq⟩ | ⟨id, ⟨-, next', heq⟩ | ⟨_, hpath, heq⟩⟩
    · cases heq
    · cases heq
      exact absurd rfl hsome
    · cases heq
    · cases heq
      exact ⟨input', id, hpath⟩
  · have honly := program_only (fun input hcall' => hcall ⟨input, hcall'⟩) (calls.randomUUID t)
    exact absurd rfl ((Prog.Leads.only h honly).2 intent)

variable [DecidableEq T] {cfg : DeliveryConfig T Id Token}

/-- As long as a call has only written its claim, the intent is held by it exactly if no other
statement has touched it. -/
def ClaimStands (calls : DeliveryCalls T Id Token) (w : DeliveryWorld T Id Token) : Prop :=
  ∀ t between input id pre post rest,
    w.log = between ++ .act t (.claim input (calls.randomUUID t)) (some id) pre post :: rest →
    callsOf t between = [] →
      ((getIntent w.state id).bind (·.claimToken) = some (calls.randomUUID t) ↔
        ∀ event ∈ between, ¬ DeliveryEvent.Touches id event)

omit [DecidableEq Token] [DecidableEq T] in
theorem Moved.claimed_token {command : DeliveryCmd Id Token} {answer : command.Answer} {id : Nat}
    {pre post : Option (HealthNotificationIntent Id Token)} (h : Moved command answer id pre post)
    (hclaimed : command.claimed answer = some (id, token)) :
    post.bind (·.claimToken) = some token := by
  cases h with
  | absent calm => exact absurd hclaimed (calm.1 token)
  | created calm => exact absurd hclaimed (calm.1 token)
  | kept calm => exact absurd hclaimed (calm.1 token)
  | claimed claimed _ _ _ _ claimToken =>
    rw [hclaimed] at claimed
    cases claimed
    exact claimToken
  | reported _ unclaimed => exact absurd hclaimed (unclaimed token)
  | suppressed calm => exact absurd hclaimed (calm.1 token)
  | resumed resumes =>
    subst resumes
    cases hclaimed

omit [DecidableEq Token] [DecidableEq T] in
/-- What a command of another call does to a held intent. -/
theorem Moved.held_iff {command : DeliveryCmd Id Token} {answer : command.Answer} {id : Nat}
    {pre post : Option (HealthNotificationIntent Id Token)} (h : Moved command answer id pre post)
    (hother : ∀ token', command.claimed answer = some (id, token') → token' ≠ token)
    (hclaimed : ∀ row, pre = some row → row.claimToken = some token → row.state = .CLAIMED) :
    post.bind (·.claimToken) = some token ↔ pre.bind (·.claimToken) = some token ∧
      ¬ ((command.claimed answer).map Prod.fst = some id ∨ command.reported answer = some id) := by
  have hcalm : command.LeavesClaim answer id →
      ¬ ((command.claimed answer).map Prod.fst = some id ∨ command.reported answer = some id) := by
    rintro ⟨hunclaimed, hunreported⟩ (hfst | hreported)
    · obtain ⟨claim, hclaim, rfl⟩ := Option.map_eq_some_iff.mp hfst
      exact hunclaimed claim.2 hclaim
    · exact hunreported hreported
  cases h with
  | absent calm => simp
  | created calm _ _ _ claimToken => simp [claimToken]
  | kept calm _ claim =>
    rw [Option.bind_some, Option.bind_some, claim.claimToken]
    exact (and_iff_left (hcalm calm)).symm
  | claimed claimed _ _ _ _ claimToken =>
    have hne := hother _ claimed
    simp [claimToken, claimed, hne]
  | reported reported _ _ _ _ _ _ claimToken => simp [claimToken, reported]
  | @suppressed row _ calm _ before _ _ claimToken =>
    have hnone : row.claimToken ≠ some token := by
      intro htoken
      have hstate := hclaimed row rfl htoken
      rcases before with heq | heq
      · cases heq.symm.trans hstate
      · cases heq.symm.trans hstate
    simp [claimToken, hnone]
  | resumed resumes _ _ _ claimToken =>
    subst resumes
    simp [claimToken, DeliveryCmd.claimed, DeliveryCmd.reported]

theorem claimStands_reachable (h : (deliverySystem calls).Reachable [] cfg) :
    ClaimStands calls cfg.world := by
  refine (System.Reachable.invariant_of_leads delivery_once
    (I := fun w => DeliveryInv w ∧ ClaimStands calls w) ?_ ?_ ?_ ?_ h).2
  · refine ⟨deliveryInv_start, ?_⟩
    intro t between input id pre post rest hlog
    simp at hlog
  · rintro t' command w answer intents' ⟨hinv, hstands⟩ ⟨next, hleads⟩ heffect
    refine ⟨deliveryInv_act hinv heffect, ?_⟩
    have hmoved := (deliveryEffect_moved hinv.numbered heffect).2
    intro t between input id pre post rest hlog hquiet
    cases between with
    | nil =>
      obtain ⟨hevent, hrest⟩ := List.cons.inj hlog
      cases hevent
      exact iff_of_true ((hmoved id).claimed_token rfl) (by simp)
    | cons event between =>
      obtain ⟨hevent, hrest⟩ := List.cons.inj hlog
      subst hevent
      have hne : t' ≠ t := by
        rintro rfl
        rw [callsOf_act_self] at hquiet
        simp at hquiet
      rw [callsOf_act_other hne] at hquiet
      have hbefore := hstands t between input id pre post rest hrest hquiet
      have hother : ∀ token', command.claimed answer = some (id, token') →
          token' ≠ calls.randomUUID t := by
        intro token' hclaimed heq
        cases command with
        | claim input' token =>
          have hown := claim_of_leads hleads
          cases answer with
          | none => cases hclaimed
          | some _ =>
            cases hclaimed
            exact hne (calls.fresh (hown.symm.trans heq))
        | _ => cases hclaimed
      have hiff := (hmoved id).held_iff hother fun row hrow htoken =>
        ((hinv.rows id row hrow).held _ htoken).1
      rw [World.act_state, hiff, hbefore, List.forall_mem_cons, and_comm]
      rfl
  · exact fun _ _ _ hnever => hnever.elim
  · rintro w t' outcome ⟨hinv, hstands⟩
    refine ⟨deliveryInv_finish hinv t' outcome, ?_⟩
    intro t between input id pre post rest hlog hquiet
    cases between with
    | nil => cases hlog
    | cons event between =>
      obtain ⟨hevent, hrest⟩ := List.cons.inj hlog
      subst hevent
      have hbefore := hstands t between input id pre post rest hrest hquiet
      rw [World.finish_state, hbefore, List.forall_mem_cons]
      simp [DeliveryEvent.Touches, DeliveryEvent.claimed, DeliveryEvent.reported]

/-- A call has read back what the row held after its own claim was written. -/
theorem read_own_iff (h : (deliverySystem calls).Reachable [] cfg) {t : T}
    {intent : HealthNotificationIntent Id Token}
    {older recent between rest : List (DeliveryEvent T Id Token)} {id : Nat}
    {pre post pre' post' : Intents Id Token} (hsuffix : older <:+ cfg.world.log)
    (holder : older = recent ++ .act t (.getIntent id) (some intent) pre post ::
      (between ++ .act t (.claim input token) (some id) pre' post' :: rest))
    (hquiet : callsOf t between = []) :
    intent.claimToken = some (calls.randomUUID t) ↔
      ∀ event ∈ between, ¬ DeliveryEvent.Touches id event := by
  have hread : (.act t (.getIntent id) (some intent) pre post ::
      (between ++ .act t (.claim input token) (some id) pre' post' :: rest)) <:+ cfg.world.log :=
    (holder ▸ List.suffix_append _ _).trans hsuffix
  have hwrite : (.act t (.claim input token) (some id) pre' post' :: rest) <:+ cfg.world.log :=
    ((List.suffix_append _ _).trans (List.suffix_cons _ _)).trans hread
  obtain ⟨⟨next, hleads⟩, -⟩ := (h.explained delivery_once).2 _ _ hwrite
  obtain rfl := claim_of_leads hleads
  obtain ⟨-, heffect⟩ := (h.explained delivery_once).2 _ _ hread
  obtain ⟨hfound, -⟩ : getIntent pre id = some intent ∧ post = pre := heffect
  obtain ⟨pool, hreach⟩ := h.at_act hread
  have hstands := claimStands_reachable hreach t between input id pre' post' rest rfl hquiet
  rw [← hstands]
  change _ ↔ (getIntent pre id).bind _ = _
  rw [hfound]
  rfl

theorem returnsOwnClaim_iff (h : (deliverySystem calls).Reachable [] cfg) :
    ReturnsOwnClaim calls cfg.world.log ↔ ReadsUndisturbed cfg.world.log := by
  constructor
  · intro hown t intent at_ older hsuffix recent id pre post between input token pre' post' rest
      holder hquiet
    exact (read_own_iff h ((List.suffix_cons _ _).trans hsuffix) holder hquiet).mp
      (hown t intent at_ older hsuffix)
  · intro hundisturbed t intent at_ older hsuffix
    have hleads := (h.explained delivery_once).2 _ _ hsuffix
    obtain ⟨input, id, hpath⟩ := returned_of_leads hleads nofun
    have hboth : callsOf t older = [⟨DeliveryCmd.claim input (calls.randomUUID t), some id⟩] ++
        [⟨DeliveryCmd.getIntent id, some intent⟩] := hpath
    obtain ⟨recent, pre, post, middle, holder, -, hmiddle⟩ := exists_of_callsOf_snoc hboth
    have hfirst : callsOf t middle = [] ++
        [⟨DeliveryCmd.claim input (calls.randomUUID t), some id⟩] := hmiddle
    obtain ⟨between, pre', post', rest, hbetween, hquiet, -⟩ := exists_of_callsOf_snoc hfirst
    rw [hbetween] at holder
    exact (read_own_iff h ((List.suffix_cons _ _).trans hsuffix) holder hquiet).mpr
      (hundisturbed t intent at_ older hsuffix _ _ _ _ _ _ _ _ _ _ holder hquiet)

/-- What is claimed of the deliveries of a run. -/
def ClaimsFenced (calls : DeliveryCalls T Id Token) (w : DeliveryWorld T Id Token) : Prop :=
  FinalKept w ∧ ReportsFenced w.log ∧ ReturnsOwnClaim calls w.log ∧ AttemptsBounded w.log

/-- In every run final intents stay final and reports are fenced by the token of the latest claim.
Calls return their own claims, and no intent is claimed too often, exactly in the runs where no
claim is lost before it has been read back and none is taken over at the bound. -/
theorem claimsFenced_iff (calls : DeliveryCalls T Id Token) (cfg : DeliveryConfig T Id Token)
    (h : (deliverySystem calls).Reachable [] cfg) :
    ClaimsFenced calls cfg.world ↔
      ReadsUndisturbed cfg.world.log ∧ TakeoversBounded cfg.world.log := by
  constructor
  · rintro ⟨-, -, hown, hbounded⟩
    exact ⟨(returnsOwnClaim_iff h).mp hown, (attemptsBounded_iff h).mp hbounded⟩
  · rintro ⟨hundisturbed, htakeovers⟩
    exact ⟨finalKept_reachable h, reportsFenced_reachable h,
      (returnsOwnClaim_iff h).mpr hundisturbed, (attemptsBounded_iff h).mpr htakeovers⟩

end Reads

/-! Workers that stop after claiming, and one that is slow to read its claim back. -/

def openedEvent : LlmHealthNotificationEvent Nat where
  incidentId := 0
  healthRunId := 0
  eventKind := .INCIDENT_OPENED
  healthState := .BROKEN
  provider := "CHATGPT"
  surface := "WEB"
  healthLevel := .H1
  rootContourKey := none
  observedAt := 0
  severity := .CRITICAL
  dedupKey := notificationDedupKey 0 .INCIDENT_OPENED .CRITICAL
  cooldownUntil := 900000
  payload := ⟨⟨0, 0, .INCIDENT_OPENED, .BROKEN, "CHATGPT", "WEB", .H1, none, 0⟩, .CRITICAL⟩

/-- After the record every call is a claim, each a minute after the one before. -/
def minuteClaims : DeliveryCalls Nat Nat Nat where
  call t := if t = 0 then .record openedEvent else .claimDue ⟨"worker", some (60000 * t), none⟩
  randomUUID t := t
  fresh _ _ h := h

/-- The answers when the clock shows 0 and no row is locked. -/
def deliveryAnswer (_ : Nat) : (command : DeliveryCmd Nat Nat) → Intents Nat Nat →
    command.Answer × Intents Nat Nat
  | .claim input claimToken, s => claimCandidateRow s [] (input.statement 0 claimToken)
  | .getIntent id, s => (getIntent s id, s)
  | .markDelivered input, s => markDelivered s input 0
  | .failClaim input, s => failClaim s input 0
  | .record event, s => recordLlmHealthNotification s event
  | .observe input policy, s => observeTransaction s input policy
  | .suppress incidentId, s => ((), suppressLlmHealthProductNotifications s incidentId)
  | .resume incidentId observedAt, s =>
    ((), resumeLlmHealthProductNotification s incidentId observedAt)

theorem deliveryAnswer_effect (t : Nat) (command : DeliveryCmd Nat Nat)
    (w : DeliveryWorld Nat Nat Nat) : (deliverySystem minuteClaims).effect t command w
      (deliveryAnswer t command w.state).1 (deliveryAnswer t command w.state).2 := by
  cases command with
  | claim input claimToken => exact ⟨0, [], rfl⟩
  | getIntent id => exact ⟨rfl, rfl⟩
  | markDelivered input => exact ⟨0, rfl⟩
  | failClaim input => exact ⟨0, rfl⟩
  | record event => exact Eq.refl _
  | observe input policy => exact Eq.refl _
  | suppress incidentId => exact Eq.refl _
  | resume incidentId observedAt => exact Eq.refl _

def firstClaimed : DeliveryConfig Nat Nat Nat :=
  (deliverySystem minuteClaims).replay deliveryAnswer [0, 0, 0, 1, 1, 1, 1] []

/-- The first worker reads its claim back after the second has taken it over; five more workers stop
after their claims. -/
def takenOver : DeliveryConfig Nat Nat Nat :=
  (deliverySystem minuteClaims).replay deliveryAnswer
    [0, 0, 0, 1, 1, 2, 2, 1, 1, 3, 3, 4, 4, 5, 5, 6, 6] []

/-- The tokens that calls of `claimDue` have returned. -/
def returnedTokens (log : List (DeliveryEvent T Id Token)) : List (T × Option Token) :=
  log.filterMap fun
    | .finish t (.ok (.claimed (some intent))) _ => some (t, intent.claimToken)
    | _ => none

theorem exists_of_returnedTokens {log : List (DeliveryEvent T Id Token)} {t : T}
    {token : Option Token} (h : (t, token) ∈ returnedTokens log) :
    ∃ intent at_ older, (.finish t (.ok (.claimed (some intent))) at_ :: older) <:+ log ∧
      intent.claimToken = token := by
  obtain ⟨event, hmem, hevent⟩ := List.mem_filterMap.mp h
  obtain ⟨recent, older, hlog⟩ := List.append_of_mem hmem
  split at hevent
  · cases hevent
    exact ⟨_, _, older, hlog ▸ List.suffix_append _ _, rfl⟩
  · cases hevent

/-- A claim that is overtaken between its two statements returns the claim of another call. -/
theorem takenOver_not_fenced :
    (deliverySystem minuteClaims).Reachable [] takenOver ∧
      ¬ ClaimsFenced minuteClaims takenOver.world ∧
      ¬ ReturnsOwnClaim minuteClaims takenOver.world.log ∧
      ¬ AttemptsBounded takenOver.world.log := by
  have hown : ¬ ReturnsOwnClaim minuteClaims takenOver.world.log := by
    intro hown
    have hreturned : (1, some 2) ∈ returnedTokens takenOver.world.log := by decide +kernel
    obtain ⟨intent, at_, older, hsuffix, htoken⟩ := exists_of_returnedTokens hreturned
    have heq := htoken.symm.trans (hown 1 intent at_ older hsuffix)
    exact absurd (Option.some.inj heq) (by decide)
  have hbounded : ¬ AttemptsBounded takenOver.world.log := by
    intro hbounded
    have hsince : claimsSince 0 takenOver.world.log = 6 := by decide +kernel
    have hle := hbounded _ List.suffix_rfl 0
    rw [hsince] at hle
    exact absurd hle (by decide)
  exact ⟨System.replay_reachable deliveryAnswer_effect _ _, fun h => hown h.2.2.1, hown, hbounded⟩

theorem firstClaimed_fenced_iff :
    (deliverySystem minuteClaims).Reachable [] firstClaimed ∧
      (ClaimsFenced minuteClaims firstClaimed.world ↔
        ReadsUndisturbed firstClaimed.world.log ∧ TakeoversBounded firstClaimed.world.log) :=
  ⟨System.replay_reachable deliveryAnswer_effect _ _,
    claimsFenced_iff minuteClaims firstClaimed (System.replay_reachable deliveryAnswer_effect _ _)⟩

end SellerAgents.Health
