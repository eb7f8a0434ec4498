import SellerAgents.Billing.Moves
import SellerAgents.Relational.Journal

open Relational SellerAgents.Subscriptions

namespace SellerAgents.Billing

/-- The transitions of a subscription, in the order of their inserts. -/
def Database.history (db : Database) (subscriptionId : String) : List SubscriptionTransition :=
  db.transitions.filter (·.subscriptionId = subscriptionId)

/-- The history of a subscription is the journal of its state, and the state machine allows each
move. -/
structure Recorded (db : Database) (row : SubscriptionSnapshot) : Prop where
  journal : Journal SubscriptionTransition.transitionRevision SubscriptionTransition.fromState
    SubscriptionTransition.toState (db.history row.id) row.state
  allowed : ∀ transition ∈ db.history row.id,
    validateSubscriptionStateTransition transition.fromState transition.toState = none

/-- Every subscription is recorded, and every transition is of a subscription. -/
structure Database.Histories (db : Database) : Prop where
  id : UniqueBy (fun row => some row.id) db.subscriptions
  owned : ∀ transition ∈ db.transitions, ∃ row ∈ db.subscriptions, row.id = transition.subscriptionId
  recorded : ∀ row ∈ db.subscriptions, Recorded db row

/-- What becomes of a subscription between two databases. -/
structure Becomes (db db' : Database) (row row' : SubscriptionSnapshot) : Prop where
  id : row'.id = row.id
  accountId : row'.accountId = row.accountId
  expired : row.state = .EXPIRED → row'.state = .EXPIRED
  history : db.history row.id <+: db'.history row.id
  /-- The revision rises with each transition, and not only where the state differs in the end. -/
  revision : row.stateRevision + (db'.history row.id).length ≤
    row'.stateRevision + (db.history row.id).length
  changed : row'.state ≠ row.state → row.stateRevision < row'.stateRevision

theorem Becomes.trans {a b c : Database} {row row' row'' : SubscriptionSnapshot}
    (h : Becomes a b row row') (h' : Becomes b c row' row'') : Becomes a c row row'' where
  id := h'.id.trans h.id
  accountId := h'.accountId.trans h.accountId
  expired hstate := h'.expired (h.expired hstate)
  history := by
    have hlater := h'.history
    rw [h.id] at hlater
    exact h.history.trans hlater
  revision := by
    have hlater := h'.revision
    rw [h.id] at hlater
    have hearlier := h.revision
    omega
  changed := by
    intro hstate
    have hearlier := h.revision
    have hgrown := h.history.length_le
    have hlater := h'.revision
    have hgrown' := h'.history.length_le
    by_cases hsame : row'.state = row.state
    · have := h'.changed fun heq => hstate (heq.trans hsame)
      omega
    · have := h.changed hsame
      omega

variable {db : Database}

theorem history_append (subscriptions : List SubscriptionSnapshot) (transition : SubscriptionTransition)
    (id : String) :
    ({ db with
        subscriptions := subscriptions
        transitions := db.transitions ++ [transition] } : Database).history id =
      db.history id ++ if transition.subscriptionId = id then [transition] else [] := by
  simp only [Database.history, List.filter_append, List.filter_singleton, Bool.cond_decide]

theorem Database.Histories.history_eq_nil (h : db.Histories) {subscription : SubscriptionSnapshot}
    (hfresh : Fresh (fun row => some row.id) subscription db.subscriptions) :
    db.history subscription.id = [] := by
  refine List.filter_eq_nil_iff.mpr fun transition htransition => ?_
  obtain ⟨row, hrow, hid⟩ := h.owned transition htransition
  rcases hfresh row hrow with hnone | hdiff
  · cases hnone
  · simpa [hid] using hdiff

/-- Rows that only moved in their terms. -/
theorem Database.Histories.extended (h : db.Histories) {id : String}
    {set : SubscriptionSnapshot → SubscriptionSnapshot}
    (hset : ∀ row, (set row).id = row.id ∧ (set row).accountId = row.accountId ∧
      (set row).state = row.state ∧ (set row).stateRevision = row.stateRevision + 1) :
    ({ db with subscriptions := updateWhere (·.id = id) set db.subscriptions } : Database).Histories where
  id := h.id.updateWhere fun row _ _ => .inr (congrArg some (hset row).1)
  owned transition htransition := by
    obtain ⟨row, hrow, hid⟩ := h.owned transition htransition
    by_cases hp : row.id = id
    · refine ⟨set row, mem_updateWhere.mpr (.inr ⟨row, hrow, by simpa using hp, rfl⟩), ?_⟩
      exact (hset row).1.trans hid
    · exact ⟨row, mem_updateWhere.mpr (.inl ⟨hrow, by simpa using hp⟩), hid⟩
  recorded row hrow := by
    rcases mem_updateWhere.mp hrow with ⟨hold, -⟩ | ⟨old, hold, -, rfl⟩
    · exact ⟨(h.recorded row hold).journal, (h.recorded row hold).allowed⟩
    · constructor
      · rw [(hset old).1, (hset old).2.2.1]
        exact (h.recorded old hold).journal
      · rw [(hset old).1]
        exact (h.recorded old hold).allowed

theorem Database.Histories.next_revision (h : db.Histories) {row : SubscriptionSnapshot}
    (hrow : row ∈ db.subscriptions) :
    db.nextTransitionRevision row.id = (db.history row.id).length + 1 := by
  rw [Database.nextTransitionRevision]
  exact congrArg (· + 1) (h.recorded row hrow).journal.max_number

theorem becomes_rfl {db' : Database} {row : SubscriptionSnapshot}
    (hhistory : db'.history row.id = db.history row.id) : Becomes db db' row row where
  id := rfl
  accountId := rfl
  expired h := h
  history := by simp only [hhistory, List.prefix_rfl]
  revision := by rw [hhistory]
  changed h := absurd rfl h

/-- An update by id rewrites the one row that has it. -/
theorem mem_updateWhere_id (h : db.Histories) {row : SubscriptionSnapshot}
    (hrow : row ∈ db.subscriptions) {set : SubscriptionSnapshot → SubscriptionSnapshot}
    {other : SubscriptionSnapshot} :
    other ∈ updateWhere (·.id = row.id) set db.subscriptions ↔
      (other ∈ db.subscriptions ∧ other.id ≠ row.id) ∨ other = set row := by
  have hkey : ∀ other ∈ db.subscriptions, decide (other.id = row.id) = true →
      some other.id = some row.id := by simp
  have hfind := h.id.find_eq_some hkey hrow (by simp)
  simpa using h.id.mem_updateWhere hkey hfind

section Transitioned

variable {row : SubscriptionSnapshot} {set : SubscriptionSnapshot → SubscriptionSnapshot}
  {toState : SubscriptionState} {transition : SubscriptionTransition}

section

variable (h : db.Histories) (hrow : row ∈ db.subscriptions)
  (hallowed : validateSubscriptionStateTransition (some row.state) toState = none)
  (hset : ∀ row, (set row).id = row.id ∧ (set row).accountId = row.accountId ∧ (set row).state =
    toState ∧ (set row).stateRevision = row.stateRevision + 1)
  (hsubscription : transition.subscriptionId = row.id)
include h hrow hallowed hset hsubscription

theorem Database.Histories.transitioned
    (hrevision : transition.transitionRevision = db.nextTransitionRevision row.id)
    (hfrom : transition.fromState = some row.state) (hto : transition.toState = toState) :
    ({ db with
        subscriptions := updateWhere (·.id = row.id) set db.subscriptions
        transitions := db.transitions ++ [transition] } : Database).Histories where
  id := h.id.updateWhere fun other _ _ => .inr (congrArg some (hset other).1)
  owned other hother := by
    rcases List.mem_append.mp hother with hold | hnew
    · obtain ⟨owner, howner, hid⟩ := h.owned other hold
      by_cases hsame : owner.id = row.id
      · exact ⟨set row, (mem_updateWhere_id h hrow).mpr (.inr rfl), by rw [(hset row).1, ← hsame, hid]⟩
      · exact ⟨owner, (mem_updateWhere_id h hrow).mpr (.inl ⟨howner, hsame⟩), hid⟩
    · rw [List.mem_singleton.mp hnew]
      exact ⟨set row, (mem_updateWhere_id h hrow).mpr (.inr rfl), by rw [(hset row).1, hsubscription]⟩
  recorded other hother := by
    rcases (mem_updateWhere_id h hrow).mp hother with ⟨hold, hne⟩ | rfl
    · have hrecorded := h.recorded other hold
      constructor
      · rw [history_append, if_neg (by rw [hsubscription]; exact Ne.symm hne), List.append_nil]
        exact hrecorded.journal
      · rw [history_append, if_neg (by rw [hsubscription]; exact Ne.symm hne), List.append_nil]
        exact hrecorded.allowed
    · have hrecorded := h.recorded row hrow
      have hnumber : transition.transitionRevision = (db.history row.id).length + 1 := by
        rw [hrevision, h.next_revision hrow]
      constructor
      · rw [(hset row).1, (hset row).2.2.1, history_append, if_pos hsubscription, ← hto]
        exact hrecorded.journal.concat hnumber hfrom
      · rw [(hset row).1, history_append, if_pos hsubscription]
        intro move hmove
        rcases List.mem_append.mp hmove with hold | hnew
        · exact hrecorded.allowed move hold
        · rw [List.mem_singleton.mp hnew, hfrom, hto]
          exact hallowed

theorem Database.Histories.becomes_transitioned {other : SubscriptionSnapshot}
    (hother : other ∈ db.subscriptions) :
    ∃ other' ∈ updateWhere (·.id = row.id) set db.subscriptions,
      Becomes db { db with
        subscriptions := updateWhere (·.id = row.id) set db.subscriptions
        transitions := db.transitions ++ [transition] } other other' := by
  by_cases hid : other.id = row.id
  · have hsame : other = row := h.id.eq_of_key hother hrow rfl (by rw [hid])
    subst hsame
    refine ⟨set other, (mem_updateWhere_id h hrow).mpr (.inr rfl), ?_⟩
    have hhistory := @history_append db (updateWhere (·.id = other.id) set db.subscriptions)
      transition other.id
    rw [if_pos hsubscription] at hhistory
    have hrevision := (hset other).2.2.2
    exact {
      id := (hset other).1
      accountId := (hset other).2.1
      expired := fun hexpired => by simp [hexpired, validateSubscriptionStateTransition, allowedTargets] at hallowed
      history := by
        rw [hhistory]
        exact List.prefix_append _ _
      revision := by
        rw [hhistory, List.length_append, List.length_singleton]
        omega
      changed := fun _ => by omega }
  · refine ⟨other, (mem_updateWhere_id h hrow).mpr (.inl ⟨hother, hid⟩), becomes_rfl ?_⟩
    rw [history_append, if_neg (by rw [hsubscription]; exact Ne.symm hid), List.append_nil]

end

end Transitioned

theorem Database.Histories.created (h : db.Histories) {subscription : SubscriptionSnapshot}
    {transition : SubscriptionTransition}
    (hfresh : Fresh (fun row => some row.id) subscription db.subscriptions)
    (hallowed : validateSubscriptionStateTransition none subscription.state = none)
    (hsubscription : transition.subscriptionId = subscription.id)
    (hrevision : transition.transitionRevision = 1)
    (hfrom : transition.fromState = none) (hto : transition.toState = subscription.state) :
    ({ db with
        subscriptions := db.subscriptions ++ [subscription]
        transitions := db.transitions ++ [transition] } : Database).Histories where
  id := h.id.insert hfresh
  owned other hother := by
    rcases List.mem_append.mp hother with hold | hnew
    · obtain ⟨owner, howner, hid⟩ := h.owned other hold
      exact ⟨owner, List.mem_append_left _ howner, hid⟩
    · rw [List.mem_singleton.mp hnew]
      exact ⟨subscription, by simp, hsubscription.symm⟩
  recorded row hrow := by
    rcases List.mem_append.mp hrow with hold | hnew
    · have hne : transition.subscriptionId ≠ row.id := by
        have hdiff := hfresh row hold
        simp only [reduceCtorEq, ne_eq, Option.some.injEq, false_or] at hdiff
        rw [hsubscription]
        exact Ne.symm hdiff
      constructor
      · rw [history_append, if_neg hne, List.append_nil]
        exact (h.recorded row hold).journal
      · rw [history_append, if_neg hne, List.append_nil]
        exact (h.recorded row hold).allowed
    · rw [List.mem_singleton.mp hnew]
      constructor
      · rw [history_append, if_pos hsubscription, h.history_eq_nil hfresh, ← hto]
        exact Journal.single hrevision hfrom
      · rw [history_append, if_pos hsubscription, h.history_eq_nil hfresh]
        intro move hmove
        rw [List.nil_append, List.mem_singleton] at hmove
        rw [hmove, hfrom, hto]
        exact hallowed

/-- One move keeps the histories, and every subscription goes on from where it was. -/
theorem Moved.histories {db' : Database} (hmoved : Moved db db') (h : db.Histories) :
    db'.Histories ∧ ∀ row ∈ db.subscriptions, ∃ row' ∈ db'.subscriptions, Becomes db db' row row' := by
  cases hmoved with
  | other hsubscriptions htransitions =>
    have hhistory : ∀ id, db'.history id = db.history id := fun id => by
      rw [Database.history, htransitions, Database.history]
    refine ⟨⟨hsubscriptions ▸ h.id, ?_, ?_⟩, fun row hrow => ?_⟩
    · rw [hsubscriptions, htransitions]
      exact h.owned
    · intro row hrow
      rw [hsubscriptions] at hrow
      exact ⟨hhistory row.id ▸ (h.recorded row hrow).journal,
        hhistory row.id ▸ (h.recorded row hrow).allowed⟩
    · exact ⟨row, hsubscriptions ▸ hrow, becomes_rfl (hhistory row.id)⟩
  | extended id set hset =>
    refine ⟨h.extended hset, fun row hrow => ?_⟩
    by_cases hid : row.id = id
    · refine ⟨set row, mem_updateWhere.mpr (.inr ⟨row, hrow, by simpa using hid, rfl⟩), ?_⟩
      obtain ⟨hsame, haccount, hstate, hrevision⟩ := hset row
      exact {
        id := hsame
        accountId := haccount
        expired := fun hexpired => hstate.trans hexpired
        history := List.prefix_rfl
        revision := by
          rw [hrevision]
          exact Nat.add_le_add_right (Nat.le_succ _) _
        changed := fun hchanged => absurd hstate hchanged }
    · exact ⟨row, mem_updateWhere.mpr (.inl ⟨hrow, by simpa using hid⟩), becomes_rfl rfl⟩
  | transitioned row set toState transition hrow hallowed hset hsubscription hrevision hfrom hto =>
    refine ⟨h.transitioned hrow hallowed hset hsubscription hrevision hfrom hto, fun other hother => ?_⟩
    exact h.becomes_transitioned hrow hallowed hset hsubscription hother
  | created subscription transition hfresh hallowed hsubscription hrevision hfrom hto =>
    refine ⟨h.created hfresh hallowed hsubscription hrevision hfrom hto, fun row hrow => ?_⟩
    refine ⟨row, List.mem_append_left _ hrow, becomes_rfl ?_⟩
    have hdiff := hfresh row hrow
    simp only [reduceCtorEq, ne_eq, Option.some.injEq, false_or] at hdiff
    rw [history_append, if_neg (by rw [hsubscription]; exact Ne.symm hdiff), List.append_nil]

theorem Moves.histories {db' : Database} (hmoves : Moves db db') (h : db.Histories) :
    db'.Histories ∧ ∀ row ∈ db.subscriptions, ∃ row' ∈ db'.subscriptions, Becomes db db' row row' := by
  induction hmoves with
  | refl => exact ⟨h, fun row hrow => ⟨row, hrow, becomes_rfl rfl⟩⟩
  | tail _ hmoved ih =>
    obtain ⟨hhistories, hbecomes⟩ := ih
    obtain ⟨hhistories', hbecomes'⟩ := hmoved.histories hhistories
    refine ⟨hhistories', fun row hrow => ?_⟩
    obtain ⟨row', hrow', hlater⟩ := hbecomes row hrow
    obtain ⟨row'', hrow'', hlater'⟩ := hbecomes' row' hrow'
    exact ⟨row'', hrow'', hlater.trans hlater'⟩

theorem histories_empty : emptyDatabase.Histories := by
  constructor <;> simp [emptyDatabase, UniqueBy]

theorem run_histories (hashing : Hashing) (steps : List Step) :
    (run hashing steps).db.Histories :=
  ((runFrom_moves hashing _ steps).histories histories_empty).1

/-- The histories of the subscriptions, between a state of a run and any later one. -/
structure HistoriesKept (db db' : Database) : Prop where
  /-- Revisions, chain, last state and allowed moves. -/
  recorded : ∀ row ∈ db.subscriptions, Recorded db row
  /-- No subscription is deleted. -/
  kept : ∀ row ∈ db.subscriptions, ∃ row' ∈ db'.subscriptions, row'.id = row.id
  becomes : ∀ row ∈ db.subscriptions, ∀ row' ∈ db'.subscriptions, row'.id = row.id →
    Becomes db db' row row'
  /-- A restore gives back the state from before the last suspension. -/
  restored : ∀ (draws : Draws) (id : String) (expectedStateRevision : Nat) (changed : Bool)
    (value : SubscriptionSnapshot) (db₁ : Database),
    mutate draws id .RESTORE expectedStateRevision db = .ok (.OK changed value, db₁) →
    value ∈ db₁.subscriptions ∧ value.id = id ∧ ∃ before suspension,
      db.history id = before ++ [suspension] ∧ suspension.toState = .SUSPENDED ∧
      before.getLast?.map SubscriptionTransition.toState = some value.state

theorem Database.Histories.restored (h : db.Histories) {draws : Draws} {id : String}
    {expectedStateRevision : Nat} {changed : Bool} {value : SubscriptionSnapshot} {db' : Database}
    (hmutate : mutate draws id .RESTORE expectedStateRevision db = .ok (.OK changed value, db')) :
    value ∈ db'.subscriptions ∧ value.id = id ∧ ∃ before suspension,
      db.history id = before ++ [suspension] ∧ suspension.toState = .SUSPENDED ∧
      before.getLast?.map SubscriptionTransition.toState = some value.state := by
  have hmoves := mutate_moves draws id .RESTORE expectedStateRevision db _ db' hmutate
  obtain ⟨hvalue, hid, last, hlast, hto, hfrom⟩ := hmoves.2 rfl changed value rfl
  refine ⟨hvalue, hid, ?_⟩
  have hmem := List.argmax_mem hlast
  rw [List.mem_filter, decide_eq_true_eq] at hmem
  obtain ⟨row, hrow, hrowId⟩ := h.owned last hmem.1
  rw [hmem.2] at hrowId
  subst hrowId
  obtain ⟨before, suspension, hhistory, -⟩ := (h.recorded row hrow).journal.exists_concat
  have hjournal := (h.recorded row hrow).journal
  rw [hhistory] at hjournal
  have hmax := hjournal.argmax_number (p := fun _ => true) rfl
  rw [List.filter_true, ← hhistory, Database.history, hlast, Option.some.injEq] at hmax
  subst hmax
  exact ⟨before, last, hhistory, hto, hjournal.source_last.symm.trans hfrom⟩

/-- Whatever the order of grants, commands, lifecycle runs and activations, the history of every
subscription is the journal of its state, which only goes on. -/
theorem subscription_histories (hashing : Hashing) (steps more : List Step) :
    HistoriesKept (run hashing steps).db (run hashing (steps ++ more)).db := by
  have h := run_histories hashing steps
  have hmoves := runFrom_moves hashing (run hashing steps) more
  rw [← run_append] at hmoves
  obtain ⟨hlater, hbecomes⟩ := hmoves.histories h
  refine ⟨h.recorded, fun row hrow => ?_, fun row hrow row' hrow' hid => ?_, ?_⟩
  · obtain ⟨row', hrow', hrowBecomes⟩ := hbecomes row hrow
    exact ⟨row', hrow', hrowBecomes.id⟩
  · obtain ⟨found, hfound, hrowBecomes⟩ := hbecomes row hrow
    have hsame : row' = found := hlater.id.eq_of_key hrow' hfound rfl (by rw [hid, hrowBecomes.id])
    rw [hsame]
    exact hrowBecomes
  · exact fun _ _ _ _ _ _ hmutate => h.restored hmutate

/-- A granted subscription that is suspended and restored. -/
def sampleSuspension : List Step :=
  [sampleAuthority, .grantSubscription (sampleDraws "grant" 0) "account" "plan-1" 100,
    .mutate (sampleDraws "suspend" 1) "grant1" .SUSPEND 1,
    .mutate (sampleDraws "restore" 2) "grant1" .RESTORE 2]

theorem sampleSuspension_history :
    ((run sampleHashing sampleSuspension).db.history "grant1").map
        (fun move => (move.transitionRevision, move.fromState, move.toState)) =
      [(1, none, .ACTIVE), (2, some .ACTIVE, .SUSPENDED), (3, some .SUSPENDED, .ACTIVE)] ∧
    ∀ row ∈ (run sampleHashing sampleSuspension).db.subscriptions,
      Recorded (run sampleHashing sampleSuspension).db row :=
  ⟨by decide +kernel, (subscription_histories sampleHashing sampleSuspension []).recorded⟩

end SellerAgents.Billing
