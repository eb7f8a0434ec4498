import SellerAgents.Health.NotificationDelivery
import SellerAgents.Js.Fallible

open Relational Concurrent

namespace SellerAgents.Health

open Subscriptions (Date)

variable {Id Token : Type} {intents intents' : Intents Id Token} {id : Nat}
  {row row' : HealthNotificationIntent Id Token}

/-! Lookups by id. -/

/-- The rows of a table from which none is deleted. -/
def Numbered (intents : Intents Id Token) : Prop :=
  intents.map (·.id) = List.range intents.length

theorem getIntent_id (h : getIntent intents id = some row) : row.id = id := by
  simpa using List.find?_some h

theorem Numbered.lt (h : Numbered intents) (hrow : row ∈ intents) : row.id < intents.length := by
  have hmem : row.id ∈ intents.map (·.id) := List.mem_map_of_mem hrow
  rw [h] at hmem
  exact List.mem_range.mp hmem

theorem Numbered.getIntent_of_mem (h : Numbered intents) (hrow : row ∈ intents) :
    getIntent intents row.id = some row := by
  unfold getIntent
  have hnodup : (intents.map (·.id)).Nodup := h ▸ List.nodup_range
  cases hfind : intents.find? (·.id = row.id) with
  | none => simpa using List.find?_eq_none.mp hfind row hrow
  | some found =>
    have hid : found.id = row.id := getIntent_id hfind
    rw [List.inj_on_of_nodup_map hnodup (List.mem_of_find?_eq_some hfind) hrow hid]

theorem Numbered.getIntent_length (h : Numbered intents) :
    getIntent intents intents.length = none := by
  refine List.find?_eq_none.mpr fun row hrow => ?_
  have hlt := h.lt hrow
  simp only [decide_eq_true_eq]
  omega

theorem getIntent_map {g : HealthNotificationIntent Id Token → HealthNotificationIntent Id Token}
    (hg : ∀ row, (g row).id = row.id) (intents : Intents Id Token) (id : Nat) :
    getIntent (intents.map g) id = (getIntent intents id).map g := by
  unfold getIntent
  rw [List.find?_map]
  simp only [Function.comp_def, hg]

theorem Numbered.map (h : Numbered intents)
    {g : HealthNotificationIntent Id Token → HealthNotificationIntent Id Token}
    (hg : ∀ row, (g row).id = row.id) : Numbered (intents.map g) := by
  unfold Numbered at h ⊢
  rw [List.map_map, List.length_map, ← h]
  exact List.map_congr_left fun row _ => hg row

theorem getIntent_updateWhere {p : HealthNotificationIntent Id Token → Bool}
    (f : HealthNotificationIntent Id Token → HealthNotificationIntent Id Token)
    (hf : ∀ row, (f row).id = row.id) (intents : Intents Id Token) (id : Nat) :
    getIntent (updateWhere p f intents) id =
      (getIntent intents id).map fun row => if p row then f row else row := by
  refine getIntent_map (fun row => ?_) intents id
  split
  · exact hf row
  · rfl

theorem Numbered.updateWhere (h : Numbered intents) {p : HealthNotificationIntent Id Token → Bool}
    {f : HealthNotificationIntent Id Token → HealthNotificationIntent Id Token}
    (hf : ∀ row, (f row).id = row.id) : Numbered (updateWhere p f intents) := by
  refine h.map fun row => ?_
  split
  · exact hf row
  · rfl

theorem Numbered.append (h : Numbered intents) (event : LlmHealthNotificationEvent Id) :
    Numbered (intents ++ [newIntent intents.length event]) := by
  unfold Numbered at h ⊢
  rw [List.map_append, h, List.length_append, List.length_singleton, List.range_succ]
  rfl

theorem Numbered.getIntent_append (h : Numbered intents) (event : LlmHealthNotificationEvent Id) :
    getIntent (intents ++ [newIntent intents.length event]) id =
      if id = intents.length then some (newIntent intents.length event) else getIntent intents id := by
  unfold getIntent
  rw [List.find?_append]
  split
  · rename_i heq
    subst heq
    have hnone : intents.find? (·.id = intents.length) = none := h.getIntent_length
    rw [hnone]
    simp [newIntent]
  · rename_i hne
    have hnew : ([newIntent intents.length event] : Intents Id Token).find? (·.id = id) = none := by
      simp [newIntent, Ne.symm hne]
    rw [hnew, Option.or_none]

/-! What a command does to an intent. -/

/-- The claim of an intent, its state and its attempts are as before. -/
structure SameClaim (row row' : HealthNotificationIntent Id Token) : Prop where
  state : row'.state = row.state
  attemptCount : row'.attemptCount = row.attemptCount
  claimToken : row'.claimToken = row.claimToken

theorem SameClaim.rfl : SameClaim row row := ⟨Eq.refl _, Eq.refl _, Eq.refl _⟩

namespace DeliveryCmd

/-- The intent that a command reports on, with the token that it presents. -/
def report : DeliveryCmd Id Token → Option (Nat × Token)
  | .markDelivered input => some (input.id, input.claimToken)
  | .failClaim input => some (input.id, input.claimToken)
  | _ => none

/-- A command that neither claims an intent nor ends its claim. -/
def LeavesClaim (command : DeliveryCmd Id Token) (answer : command.Answer) (id : Nat) : Prop :=
  (∀ token, command.claimed answer ≠ some (id, token)) ∧ command.reported answer ≠ some id

theorem leavesClaim_of_none {command : DeliveryCmd Id Token} {answer : command.Answer}
    (hclaimed : command.claimed answer = none) (hreported : command.reported answer = none) :
    command.LeavesClaim answer id := by
  refine ⟨fun token => ?_, ?_⟩
  · rw [hclaimed]
    exact nofun
  · rw [hreported]
    exact nofun

end DeliveryCmd

/-- What a command does to the intent with an id. -/
inductive Moved (command : DeliveryCmd Id Token) (answer : command.Answer) (id : Nat) :
    Option (HealthNotificationIntent Id Token) → Option (HealthNotificationIntent Id Token) → Prop
  | absent (calm : command.LeavesClaim answer id) : Moved command answer id none none
  | created {row : HealthNotificationIntent Id Token} (calm : command.LeavesClaim answer id) (other : command.report = none)
      (state : row.state = .PENDING) (attemptCount : row.attemptCount = 0)
      (claimToken : row.claimToken = none) : Moved command answer id none (some row)
  | kept {row row' : HealthNotificationIntent Id Token} (calm : command.LeavesClaim answer id)
      (same : command.report = none ∨ row' = row) (claim : SameClaim row row') :
      Moved command answer id (some row) (some row')
  | claimed {row row' : HealthNotificationIntent Id Token} {token : Token}
      (claimed : command.claimed answer = some (id, token))
      (other : command.report = none)
      (before : row.state = .PENDING ∨ row.state = .FAILED_RETRYABLE ∨ row.state = .CLAIMED)
      (state : row'.state = .CLAIMED) (attemptCount : row'.attemptCount = row.attemptCount + 1)
      (claimToken : row'.claimToken = some token) : Moved command answer id (some row) (some row')
  | reported {row row' : HealthNotificationIntent Id Token} {token : Token}
      (reported : command.reported answer = some id)
      (unclaimed : ∀ token, command.claimed answer ≠ some (id, token))
      (report : command.report = some (id, token)) (before : row.state = .CLAIMED)
      (held : row.claimToken = some token)
      (state : row'.state ∈ [.DELIVERED, .FAILED_TERMINAL, .SUPPRESSED] ∨
        (row'.state = .FAILED_RETRYABLE ∧ row.attemptCount < MAX_NOTIFICATION_ATTEMPTS))
      (attemptCount : row'.attemptCount = row.attemptCount) (claimToken : row'.claimToken = none) :
      Moved command answer id (some row) (some row')
  | suppressed {row row' : HealthNotificationIntent Id Token}
      (calm : command.LeavesClaim answer id) (other : command.report = none)
      (before : row.state = .PENDING ∨ row.state = .FAILED_RETRYABLE)
      (state : row'.state = .SUPPRESSED) (attemptCount : row'.attemptCount = row.attemptCount)
      (claimToken : row'.claimToken = none) : Moved command answer id (some row) (some row')
  | resumed {row row' : HealthNotificationIntent Id Token} {incidentId : Nat} {observedAt : Date}
      (resumes : command = .resume incidentId observedAt) (before : row.state = .SUPPRESSED)
      (state : row'.state = .PENDING) (attemptCount : row'.attemptCount = row.attemptCount)
      (claimToken : row'.claimToken = row.claimToken) : Moved command answer id (some row) (some row')

section Moves

variable {command : DeliveryCmd Id Token} {answer : command.Answer}

/-- A command that leaves the table leaves every intent. -/
theorem moved_same (hcalm : command.LeavesClaim answer id)
    (found : Option (HealthNotificationIntent Id Token)) : Moved command answer id found found := by
  cases found with
  | none => exact .absent hcalm
  | some row => exact .kept hcalm (.inr rfl) .rfl

/-- A rewriting of the rows that leaves their claims. -/
theorem moved_map (hcalm : command.LeavesClaim answer id) (hother : command.report = none)
    {g : HealthNotificationIntent Id Token → HealthNotificationIntent Id Token}
    (hg : ∀ row, SameClaim row (g row)) (found : Option (HealthNotificationIntent Id Token)) :
    Moved command answer id found (found.map g) := by
  cases found with
  | none => exact .absent hcalm
  | some row => exact .kept hcalm (.inl hother) (hg row)

/-- An insert after such a rewriting. -/
theorem moved_record (hnumbered : Numbered intents) (hcalm : command.LeavesClaim answer id)
    (hother : command.report = none)
    {g : HealthNotificationIntent Id Token → HealthNotificationIntent Id Token}
    (hid : ∀ row, (g row).id = row.id) (hg : ∀ row, SameClaim row (g row))
    (event : LlmHealthNotificationEvent Id) :
    Moved command answer id (getIntent intents id)
      (getIntent (recordLlmHealthNotification (intents.map g) event).2 id) := by
  have hmap : Moved command answer id (getIntent intents id) (getIntent (intents.map g) id) := by
    rw [getIntent_map hid]
    exact moved_map hcalm hother hg _
  unfold recordLlmHealthNotification
  split
  · exact hmap
  · rw [(hnumbered.map hid).getIntent_append]
    split
    · rename_i heq
      obtain rfl : id = intents.length := by simpa using heq
      rw [hnumbered.getIntent_length]
      exact .created hcalm hother rfl rfl rfl
    · exact hmap

theorem numbered_record (hnumbered : Numbered intents) (event : LlmHealthNotificationEvent Id) :
    Numbered (recordLlmHealthNotification intents event).2 := by
  unfold recordLlmHealthNotification
  split
  · exact hnumbered
  · exact hnumbered.append event

theorem sameClaim_grouped (event : LlmHealthNotificationEvent Id) (withinCooldown : Bool)
    (row : HealthNotificationIntent Id Token) : SameClaim row (row.grouped event withinCooldown) :=
  ⟨rfl, rfl, rfl⟩

/-- An observed failure is grouped with the others and may be recorded. -/
theorem observeLlmHealthFailure_cases {input : LlmHealthNotificationInput Id}
    {policy : LlmHealthNotificationPolicy} {observation : FailureObservation}
    (h : observeLlmHealthFailure intents input policy = .ok (observation, intents')) :
    ∃ g : HealthNotificationIntent Id Token → HealthNotificationIntent Id Token,
      (∀ row, (g row).id = row.id) ∧ (∀ row, SameClaim row (g row)) ∧
        (intents' = intents.map g ∨
          ∃ event, intents' = (recordLlmHealthNotification (intents.map g) event).2) := by
  unfold observeLlmHealthFailure at h
  obtain ⟨opened, -, h⟩ := Js.bind_eq_ok.mp h
  split at h
  · cases h
    exact ⟨fun row => row, fun _ => rfl, fun _ => .rfl, .inl (List.map_id _).symm⟩
  · rename_i openedEvent
    split at h
    · cases h
      exact ⟨fun row => row, fun _ => rfl, fun _ => .rfl, .inr ⟨openedEvent, by rw [List.map_id']⟩⟩
    · rename_i current hcurrent
      obtain ⟨cooldownMs, -, h⟩ := Js.bind_eq_ok.mp h
      have hupdated : ∀ withinCooldown : Bool,
          ∃ g : HealthNotificationIntent Id Token → HealthNotificationIntent Id Token,
            (∀ row, (g row).id = row.id) ∧ (∀ row, SameClaim row (g row)) ∧
              updateWhere (·.id = current.id) (·.grouped openedEvent withinCooldown) intents =
                intents.map g := by
        intro withinCooldown
        refine ⟨_, fun row => ?_, fun row => ?_, rfl⟩
        · dsimp only
          split
          · rfl
          · rfl
        · dsimp only
          split
          · exact sameClaim_grouped _ _ _
          · exact .rfl
      obtain ⟨g, hid, hg, hmap⟩ := hupdated (isRepeatedFailureWithinCooldown
        current.latestObservedAt input.observedAt current.severity openedEvent.severity cooldownMs)
      refine ⟨g, hid, hg, ?_⟩
      split at h
      · cases h
        exact .inl hmap
      · obtain ⟨escalation, -, h⟩ := Js.bind_eq_ok.mp h
        split at h
        · cases h
          exact .inl hmap
        · rename_i event
          generalize hrecord : recordLlmHealthNotification _ event = recorded at h
          cases h
          exact .inr ⟨event, by rw [← hmap, hrecord]⟩

theorem suppressLlmHealthProductNotifications_moved (hcalm : command.LeavesClaim answer id)
    (hother : command.report = none) (incidentId : Nat) :
    Moved command answer id (getIntent intents id)
      (getIntent (suppressLlmHealthProductNotifications intents incidentId) id) := by
  unfold suppressLlmHealthProductNotifications
  rw [getIntent_updateWhere HealthNotificationIntent.suppressed fun _ => rfl]
  cases getIntent intents id with
  | none => exact .absent hcalm
  | some row =>
    rw [Option.map_some]
    split
    · rename_i hselected
      simp only [Bool.and_eq_true, Bool.or_eq_true, decide_eq_true_eq] at hselected
      exact .suppressed hcalm hother hselected.2 rfl rfl rfl
    · exact .kept hcalm (.inr rfl) .rfl

theorem resumeLlmHealthProductNotification_moved (hnumbered : Numbered intents) (incidentId : Nat)
    (observedAt : Date) (answer : (.resume incidentId observedAt : DeliveryCmd Id Token).Answer) :
    Moved (.resume incidentId observedAt) answer id (getIntent intents id)
      (getIntent (resumeLlmHealthProductNotification intents incidentId observedAt) id) := by
  have hcalm : DeliveryCmd.LeavesClaim (.resume incidentId observedAt) answer id :=
    DeliveryCmd.leavesClaim_of_none rfl rfl
  unfold resumeLlmHealthProductNotification
  split
  · exact moved_same hcalm _
  · rename_i opening hfind
    rw [getIntent_updateWhere (HealthNotificationIntent.resumed observedAt) fun _ => rfl]
    have hopening := hnumbered.getIntent_of_mem (List.mem_of_find?_eq_some hfind)
    by_cases heq : opening.id = id
    · subst heq
      rw [hopening, Option.map_some, if_pos (by simp)]
      have hsuppressed := List.find?_some hfind
      simp only [HealthNotificationIntent.isSuppressedOpening, Bool.and_eq_true,
        decide_eq_true_eq] at hsuppressed
      exact .resumed rfl hsuppressed.1.2 rfl rfl rfl
    · cases hrow : getIntent intents id with
      | none => exact .absent hcalm
      | some row =>
        have hother : row.id ≠ opening.id := by rw [getIntent_id hrow]; exact Ne.symm heq
        rw [Option.map_some, if_neg (by simpa using hother)]
        exact .kept hcalm (.inr rfl) .rfl

theorem mem_of_claimCandidate {locked : List Nat} {now : Date}
    (h : claimCandidate intents locked now = some row) : row ∈ intents ∧ row.due now = true := by
  unfold claimCandidate at h
  have hmem := List.argmin_mem h
  have hfiltered := List.mem_filter.mp hmem
  simp only [Bool.and_eq_true] at hfiltered
  exact ⟨hfiltered.1, hfiltered.2.1⟩

theorem state_of_due {now : Date} (h : row.due now = true) :
    row.state = .PENDING ∨ row.state = .FAILED_RETRYABLE ∨ row.state = .CLAIMED := by
  unfold HealthNotificationIntent.due at h
  simp only [Bool.or_eq_true, Bool.and_eq_true, decide_eq_true_eq] at h
  tauto

theorem claimCandidateRow_moved (hnumbered : Numbered intents) {locked : List Nat}
    {input : ClaimDue} {clock : Date} {token : Token} {answer : Option Nat}
    (h : claimCandidateRow intents locked (input.statement clock token) = (answer, intents'))
    (id : Nat) : Numbered intents' ∧ Moved (.claim input token) answer id (getIntent intents id)
      (getIntent intents' id) := by
  unfold claimCandidateRow at h
  split at h
  · cases h
    exact ⟨hnumbered, moved_same (DeliveryCmd.leavesClaim_of_none rfl rfl) _⟩
  · rename_i row hcandidate
    cases h
    refine ⟨hnumbered.updateWhere fun _ => rfl, ?_⟩
    obtain ⟨hmem, hdue⟩ := mem_of_claimCandidate hcandidate
    have hfound := hnumbered.getIntent_of_mem hmem
    rw [getIntent_updateWhere (HealthNotificationIntent.claimed _) fun _ => rfl]
    by_cases heq : row.id = id
    · subst heq
      rw [hfound, Option.map_some, if_pos (by simp)]
      exact .claimed rfl rfl (state_of_due hdue) rfl rfl rfl
    · have hcalm : (.claim input token : DeliveryCmd Id Token).LeavesClaim (some row.id) id := by
        refine ⟨fun other hother => ?_, nofun⟩
        cases hother
        exact heq rfl
      cases hrow : getIntent intents id with
      | none => exact .absent hcalm
      | some found =>
        have hother : found.id ≠ row.id := by rw [getIntent_id hrow]; exact Ne.symm heq
        rw [Option.map_some, if_neg (by simpa using hother)]
        exact .kept hcalm (.inr rfl) .rfl

variable [DecidableEq Token]

theorem heldBy_iff {token : Token} : row.heldBy id token = true ↔
    row.id = id ∧ row.state = .CLAIMED ∧ row.claimToken = some token := by
  unfold HealthNotificationIntent.heldBy
  simp only [Bool.and_eq_true, decide_eq_true_eq, and_assoc]

theorem markDelivered_moved (hnumbered : Numbered intents) {input : MarkDelivered Token}
    {clock : Date} {answer : Except NotificationError Unit}
    (h : markDelivered intents input clock = (answer, intents'))
    (id : Nat) : Numbered intents' ∧ Moved (.markDelivered input) answer id (getIntent intents id)
      (getIntent intents' id) := by
  unfold markDelivered at h
  split at h
  · rename_i hheld
    cases h
    refine ⟨hnumbered.updateWhere fun _ => rfl, ?_⟩
    obtain ⟨held, hmem, hheld⟩ := List.any_eq_true.mp hheld
    obtain ⟨hid, hstate, htoken⟩ := heldBy_iff.mp hheld
    have hfound := hnumbered.getIntent_of_mem hmem
    rw [hid] at hfound
    rw [getIntent_updateWhere (HealthNotificationIntent.delivered input clock) fun _ => rfl]
    by_cases heq : input.id = id
    · subst heq
      rw [hfound, Option.map_some, if_pos hheld]
      exact .reported rfl (fun _ => nofun) rfl hstate htoken (.inl List.mem_cons_self) rfl rfl
    · have hcalm : (.markDelivered input : DeliveryCmd Id Token).LeavesClaim (.ok ()) id :=
        ⟨fun _ => nofun, fun hother => heq (Option.some.inj hother)⟩
      cases hrow : getIntent intents id with
      | none => exact .absent hcalm
      | some row =>
        have hother : row.id ≠ input.id := by rw [getIntent_id hrow]; exact Ne.symm heq
        rw [Option.map_some, if_neg fun hheld => hother (heldBy_iff.mp hheld).1]
        exact .kept hcalm (.inr rfl) .rfl
  · cases h
    exact ⟨hnumbered, moved_same (DeliveryCmd.leavesClaim_of_none rfl rfl) _⟩

/-- A failure ends the claim; only one that may be tried again leaves the intent claimable. -/
theorem failedState_cases (attemptCount : Nat) (code : NotificationDeliveryFailureCode) :
    failedState attemptCount code ∈ [.DELIVERED, .FAILED_TERMINAL, .SUPPRESSED] ∨
      (failedState attemptCount code = .FAILED_RETRYABLE ∧
        attemptCount < MAX_NOTIFICATION_ATTEMPTS) := by
  unfold failedState
  dsimp only
  split
  · simp
  · split
    · simp
    · rename_i hterminal
      refine .inr ⟨rfl, ?_⟩
      simp only [Bool.or_eq_true, decide_eq_true_eq, not_or] at hterminal
      omega

theorem failClaim_moved (hnumbered : Numbered intents) {input : FailClaim Token}
    {clock : Date} {answer : Except NotificationError (HealthNotificationIntent Id Token)}
    (h : failClaim intents input clock = (answer, intents'))
    (id : Nat) : Numbered intents' ∧ Moved (.failClaim input) answer id (getIntent intents id)
      (getIntent intents' id) := by
  have hrefused : ∀ error, Moved (.failClaim input) (.error error) id (getIntent intents id)
      (getIntent intents id) := fun error => moved_same (DeliveryCmd.leavesClaim_of_none rfl rfl) _
  unfold failClaim at h
  split at h
  · cases h
    exact ⟨hnumbered, hrefused _⟩
  · rename_i held hfind
    dsimp only at h
    split at h
    · cases h
      exact ⟨hnumbered, hrefused _⟩
    · cases h
      refine ⟨hnumbered.updateWhere fun _ => rfl, ?_⟩
      obtain ⟨hid, hstate, htoken⟩ := heldBy_iff.mp (List.find?_some hfind)
      have hfound := hnumbered.getIntent_of_mem (List.mem_of_find?_eq_some hfind)
      rw [hid] at hfound
      rw [getIntent_updateWhere (HealthNotificationIntent.failed input clock _) fun _ => rfl]
      by_cases heq : input.id = id
      · subst heq
        rw [hfound, Option.map_some, if_pos (by simp [hid, htoken])]
        exact .reported rfl (fun _ => nofun) rfl hstate htoken (failedState_cases _ _) rfl rfl
      · have hcalm : ∀ intent, (.failClaim input : DeliveryCmd Id Token).LeavesClaim (.ok intent) id :=
          fun intent => ⟨fun _ => nofun, fun hother => heq (Option.some.inj hother)⟩
        cases hrow : getIntent intents id with
        | none => exact .absent (hcalm _)
        | some row =>
          have hother : row.id ≠ input.id := by rw [getIntent_id hrow]; exact Ne.symm heq
          rw [Option.map_some, if_neg (by simp [hother])]
          exact .kept (hcalm _) (.inr rfl) .rfl

/-- What any command does to any intent. -/
theorem deliveryEffect_moved (hnumbered : Numbered intents) {command : DeliveryCmd Id Token}
    {answer : command.Answer} (h : DeliveryEffect command intents answer intents') :
    Numbered intents' ∧ ∀ id, Moved command answer id (getIntent intents id)
      (getIntent intents' id) := by
  cases command with
  | claim input token =>
    obtain ⟨clock, locked, h⟩ := h
    exact ⟨(claimCandidateRow_moved hnumbered h 0).1,
      fun id => (claimCandidateRow_moved hnumbered h id).2⟩
  | getIntent other =>
    obtain ⟨-, rfl⟩ := h
    exact ⟨hnumbered, fun id => moved_same (DeliveryCmd.leavesClaim_of_none rfl rfl) _⟩
  | markDelivered input =>
    obtain ⟨clock, h⟩ := h
    exact ⟨(markDelivered_moved hnumbered h 0).1, fun id => (markDelivered_moved hnumbered h id).2⟩
  | failClaim input =>
    obtain ⟨clock, h⟩ := h
    exact ⟨(failClaim_moved hnumbered h 0).1, fun id => (failClaim_moved hnumbered h id).2⟩
  | record event =>
    obtain rfl : (recordLlmHealthNotification intents event).2 = intents' := congrArg Prod.snd h
    refine ⟨numbered_record hnumbered event, fun id => ?_⟩
    have hcalm : (.record event : DeliveryCmd Id Token).LeavesClaim answer id :=
      DeliveryCmd.leavesClaim_of_none rfl rfl
    have hmoved := moved_record hnumbered hcalm rfl (fun _ => rfl) (fun _ => .rfl) event
    rwa [List.map_id'] at hmoved
  | observe input policy =>
    have hcalm : ∀ id, (.observe input policy : DeliveryCmd Id Token).LeavesClaim
        answer id := fun id => (DeliveryCmd.leavesClaim_of_none rfl rfl)
    change observeTransaction intents input policy = (answer, intents') at h
    unfold observeTransaction at h
    split at h
    · rename_i observation observed hobserve
      cases h
      obtain ⟨g, hid, hg, rfl | ⟨event, rfl⟩⟩ := observeLlmHealthFailure_cases hobserve
      · refine ⟨hnumbered.map hid, fun id => ?_⟩
        rw [getIntent_map hid]
        exact moved_map (hcalm id) rfl hg _
      · exact ⟨numbered_record (hnumbered.map hid) event,
          fun id => moved_record hnumbered (hcalm id) rfl hid hg event⟩
    · cases h
      exact ⟨hnumbered, fun id => moved_same (hcalm id) _⟩
  | suppress incidentId =>
    cases h
    exact ⟨hnumbered.updateWhere fun _ => rfl, fun id =>
      suppressLlmHealthProductNotifications_moved (DeliveryCmd.leavesClaim_of_none rfl rfl) rfl incidentId⟩
  | resume incidentId observedAt =>
    cases h
    refine ⟨?_, fun id =>
      resumeLlmHealthProductNotification_moved hnumbered incidentId observedAt answer⟩
    unfold resumeLlmHealthProductNotification
    split
    · exact hnumbered
    · exact hnumbered.updateWhere fun _ => rfl

end Moves

end SellerAgents.Health
