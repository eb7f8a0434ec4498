import SellerAgents.Billing.Activation

open Relational SellerAgents.Subscriptions

namespace SellerAgents.Billing

/-- An active account whose owner asks for a checkout under a fresh key, while the account has no
current subscription and no other intent that is actionable. The guard is the one of the catalogue,
and the id of the new row is fresh. -/
structure AsksToBuy (draws : Draws) (input : CheckoutPrepareInput) (db db₁ : Database) : Prop where
  active : ∃ account, db.accounts.find? (·.id = input.accountId) = some account ∧
    account.status = .ACTIVE
  owner : ∃ member ∈ db.owners, member.accountId = input.accountId ∧ member.userId = input.actorId
  fresh : ∀ intent ∈ db.intents, intent.accountId = input.accountId →
    intent.idempotencyKeyHash ≠ input.idempotencyKeyHash
  materialized : ∃ current, materializeDueCurrentSubscriptionLocked (draws.uuid 0) input.accountId
    (draws.now 0) db = .ok (current, db₁)
  noCurrent : hasCurrentSubscriptionAt db₁ input.accountId (draws.now 1) = false
  noActionable : ∀ intent ∈ db.intents, intent.accountId = input.accountId →
    ¬ intent.Actionable db
  admitted : IntentGuard db (input.intent (draws.uuid 1) draws.timestamp)
  newId : Fresh (fun row => some row.id) (input.intent (draws.uuid 1) draws.timestamp) db.intents

/-- The payments of the account's `READY` intents have failed or were canceled. -/
def NothingPaid (db : Database) (accountId : String) : Prop :=
  ∀ intent ∈ db.intents, intent.accountId = accountId → intent.state = .READY →
    ∀ payment ∈ db.payments, intent.paymentId = some payment.id →
      payment.state = .FAILED ∨ payment.state = .CANCELED

instance (db : Database) (accountId : String) : Decidable (NothingPaid db accountId) :=
  inferInstanceAs (Decidable (∀ intent ∈ db.intents, _))

/-- A subscription that cannot be classified is not over at any time. -/
theorem decide_corrupted {input : LifecycleInput}
    (h : decideSubscriptionLifecycle input = .CORRUPTED) (now : Date) :
    decideSubscriptionLifecycle { input with now := now } = .CORRUPTED := by
  obtain ⟨state, cancelAtPeriodEnd, currentPeriodEnd, graceUntil, suspendedOrigin, before⟩ := input
  cases state with
  | TRIAL | ACTIVE | CANCELED => simp only [decideSubscriptionLifecycle] at h; split at h <;> cases h
  | PAST_DUE | EXPIRED => cases h
  | GRACE =>
    cases graceUntil with
    | none => rfl
    | some graceUntil => simp only [decideSubscriptionLifecycle] at h; split at h <;> cases h
  | SUSPENDED =>
    cases suspendedOrigin with
    | none => rfl
    | some origin =>
      cases origin <;> cases graceUntil <;>
        simp_all [decideSubscriptionLifecycle] <;> split at h <;> cases h

variable {db : Database}

theorem classify_corrupted {accountId : String} {before now : Date} {row : SubscriptionSnapshot}
    (h : classify db accountId before = some (row, .CORRUPTED)) :
    hasCurrentSubscriptionAt db accountId now = true := by
  obtain ⟨found, hfound, heq⟩ := Option.map_eq_some_iff.mp h
  obtain ⟨rfl, hdecide⟩ := Prod.mk.inj heq
  have hnow : db.decide found now = .CORRUPTED := decide_corrupted hdecide now
  have hclassify : classify db accountId now = some (found, .CORRUPTED) := by
    simp [classify, hfound, hnow]
  simp [hasCurrentSubscriptionAt, hclassify]

theorem materialize_corrupted (db : Database) (transitionId accountId : String) (before : Date) :
    Commits (materializeDueCurrentSubscriptionLocked transitionId accountId before) db
      fun current db' => (∃ id, current = .CORRUPTED id) →
        db' = db ∧ ∀ now, hasCurrentSubscriptionAt db accountId now = true := by
  unfold materializeDueCurrentSubscriptionLocked
  simp only [commits_bind, commits_get]
  split
  · simp
  · next hclassify =>
    simp only [commits_pure]
    exact fun _ => ⟨trivial, fun now => classify_corrupted hclassify⟩
  · simp
  · simp only [commits_bind, commits_pure]
    refine (applyLifecycleTransition_commits _ _ _ _ _).mono fun _ db' _ hcorrupted => ?_
    obtain ⟨id, hid⟩ := hcorrupted
    split at hid <;> cases hid

variable {input : CheckoutPrepareInput} {db₁ : Database} {draws : Draws}

/-- The materialization of an account that has no current subscription after it. -/
theorem AsksToBuy.materialize (h : AsksToBuy draws input db db₁) :
    SameCommerce db db₁ ∧ ∃ current, (∀ id, current ≠ .CORRUPTED id) ∧
      materializeDueCurrentSubscriptionLocked (draws.uuid 0) input.accountId (draws.now 0) db =
        .ok (current, db₁) := by
  obtain ⟨current, hmaterialized⟩ := h.materialized
  refine ⟨(materialize_grows db _ _ _ current db₁ hmaterialized).2, current, fun id hcorrupted => ?_,
    hmaterialized⟩
  obtain ⟨hsame, hcurrent⟩ := materialize_corrupted db _ _ _ current db₁ hmaterialized ⟨id, hcorrupted⟩
  have hnone := h.noCurrent
  rw [hsame, hcurrent] at hnone
  cases hnone

/-- A `READY` intent hinders unless its payment has failed or was canceled. -/
theorem hinders_cases (hintegrity : db.Integrity) {intent : CheckoutIntent}
    (hmem : intent ∈ db.intents) (hready : intent.state = .READY) (hidle : ¬ intent.Actionable db) :
    ((db.joined intent).hinders = none ∧ ∀ payment ∈ db.payments,
        intent.paymentId = some payment.id → payment.state = .FAILED ∨ payment.state = .CANCELED) ∨
      ((db.joined intent).hinders = some .CHECKOUT_CORRUPTED ∧ ∃ payment ∈ db.payments,
        intent.paymentId = some payment.id ∧ ¬ (payment.state = .FAILED ∨ payment.state = .CANCELED)) := by
  obtain ⟨payment, hpayment, hcarries⟩ := hintegrity.ready intent hmem hready
  have hkey : ∀ row ∈ db.payments, decide (row.id = payment.id) = true →
      some row.id = some payment.id := by simp
  have hfind : db.payments.find? (·.id = payment.id) = some payment :=
    hintegrity.paymentId.find_eq_some hkey hpayment (by simp)
  have hpending : payment.state ≠ .PENDING := fun hstate =>
    hidle (.inr ⟨payment, hpayment, hcarries.paymentId, hstate⟩)
  have honly : ∀ other ∈ db.payments, intent.paymentId = some other.id → other = payment := by
    intro other hother hid
    rw [hcarries.paymentId] at hid
    exact hintegrity.paymentId.eq_of_key hother hpayment rfl hid
  have hhinders : (db.joined intent).hinders =
      if payment.state = .FAILED ∨ payment.state = .CANCELED then none
      else some .CHECKOUT_CORRUPTED := by
    cases hstate : payment.state <;>
      simp_all [CheckoutIntentSnapshot.hinders, Database.joined, hcarries.paymentId]
  by_cases hended : payment.state = .FAILED ∨ payment.state = .CANCELED
  · refine .inl ⟨by rw [hhinders, if_pos hended], fun other hother hid => ?_⟩
    rw [honly other hother hid]
    exact hended
  · exact .inr ⟨by rw [hhinders, if_neg hended], payment, hpayment, hcarries.paymentId, hended⟩

/-- The other intents of an account without an actionable one. -/
theorem otherActionableIntent_eq (hintegrity : db.Integrity) {accountId hash : String}
    (hfresh : ∀ intent ∈ db.intents, intent.accountId = accountId → intent.idempotencyKeyHash ≠ hash)
    (hidle : ∀ intent ∈ db.intents, intent.accountId = accountId → ¬ intent.Actionable db) :
    otherActionableIntent db accountId hash =
      if NothingPaid db accountId then none else some .CHECKOUT_CORRUPTED := by
  have hrow (intent : CheckoutIntent) : intent ∈ db.intents.filter (fun row =>
      row.accountId = accountId ∧ row.idempotencyKeyHash ≠ hash ∧
        (row.state = .CREATING ∨ row.state = .READY)) ↔
      intent ∈ db.intents ∧ intent.accountId = accountId ∧ intent.state = .READY := by
    simp only [List.mem_filter, decide_eq_true_eq]
    constructor
    · rintro ⟨hmem, haccount, -, hstate⟩
      exact ⟨hmem, haccount, hstate.resolve_left fun h => hidle intent hmem haccount (.inl h)⟩
    · rintro ⟨hmem, haccount, hready⟩
      exact ⟨hmem, haccount, hfresh intent hmem haccount, .inr hready⟩
  unfold otherActionableIntent
  split
  · next hpaid =>
    refine List.findSome?_eq_none_iff.mpr fun intent hintent => ?_
    obtain ⟨hmem, haccount, hready⟩ := (hrow intent).mp hintent
    rcases hinders_cases hintegrity hmem hready (hidle intent hmem haccount) with
      ⟨hnone, -⟩ | ⟨-, payment, hpayment, hid, hstate⟩
    · exact hnone
    · exact absurd (hpaid intent hmem haccount hready payment hpayment hid) hstate
  · next hpaid =>
    cases hfound : List.findSome? _ _ with
    | some code =>
      obtain ⟨intent, hintent, hcode⟩ := List.exists_of_findSome?_eq_some hfound
      obtain ⟨hmem, haccount, hready⟩ := (hrow intent).mp hintent
      rcases hinders_cases hintegrity hmem hready (hidle intent hmem haccount) with
        ⟨hnone, -⟩ | ⟨hsome, -⟩
      · rw [hnone] at hcode
        cases hcode
      · exact hcode.symm.trans hsome
    | none =>
      refine absurd (fun intent hmem haccount hready => ?_) hpaid
      have hnone := List.findSome?_eq_none_iff.mp hfound intent ((hrow intent).mpr ⟨hmem, haccount, hready⟩)
      rcases hinders_cases hintegrity hmem hready (hidle intent hmem haccount) with
        ⟨-, hended⟩ | ⟨hsome, -⟩
      · exact hended
      · rw [hsome] at hnone
        cases hnone

/-- The same commerce gives the same answers about the intents. -/
theorem SameCommerce.nothingPaid (h : SameCommerce db db₁) (accountId : String) :
    NothingPaid db₁ accountId ↔ NothingPaid db accountId := by
  unfold NothingPaid
  rw [h.intents, h.payments]

theorem SameCommerce.integrity_intents (h : SameCommerce db db₁) {intent : CheckoutIntent} :
    intent.Actionable db₁ ↔ intent.Actionable db := by
  unfold CheckoutIntent.Actionable
  rw [h.payments]

theorem insertCheckoutIntent_ok {row : CheckoutIntent}
    (hid : Fresh (fun r => some r.id) row db.intents)
    (hkey : Fresh intentIdempotencyKey row db.intents) (hcreating : Fresh creatingKey row db.intents)
    (hguard : IntentGuard db row) :
    insertCheckoutIntent row db = .ok (⟨⟩, { db with intents := db.intents ++ [row] }) := by
  unfold insertCheckoutIntent
  rw [ok_bind (show (get : Tx Database Database) db = .ok (db, db) from rfl),
    ok_bind (ok_ensure hid), ok_bind (ok_ensure hkey), ok_bind (ok_ensure hcreating),
    ok_bind (ok_ensure hguard)]
  rfl

/-- The row of a fresh key for an account without an actionable intent is admitted by the indexes.
-/
theorem AsksToBuy.fresh_keys (h : AsksToBuy draws input db db₁) :
    Fresh intentIdempotencyKey (input.intent (draws.uuid 1) draws.timestamp) db.intents ∧
      Fresh creatingKey (input.intent (draws.uuid 1) draws.timestamp) db.intents := by
  constructor
  · intro other hother
    refine .inr fun heq => ?_
    simp only [intentIdempotencyKey, CheckoutPrepareInput.intent, Option.some.injEq,
      Prod.mk.injEq] at heq
    exact h.fresh other hother heq.1 heq.2
  · intro other hother
    refine .inr fun heq => ?_
    have haccount : creatingKey (input.intent (draws.uuid 1) draws.timestamp) =
        some input.accountId := rfl
    rw [haccount] at heq
    unfold creatingKey at heq
    split at heq
    · next hcreating =>
      exact h.noActionable other hother (Option.some.inj heq) (.inl hcreating)
    · cases heq

theorem SameCommerce.intentGuard (h : SameCommerce db db₁) {row : CheckoutIntent}
    (hguard : IntentGuard db row) : IntentGuard db₁ row := by
  unfold IntentGuard
  rw [h.accounts, h.plans, h.prices]
  exact hguard

/-- What `prepareCheckout` comes to for an account that asks to buy. -/
theorem prepareCheckout_asksToBuy (hintegrity : db.Integrity) (h : AsksToBuy draws input db db₁) :
    prepareCheckout draws input db =
      if NothingPaid db input.accountId then
        .ok (.CREATED ⟨input.intent (draws.uuid 1) draws.timestamp, none⟩,
          { db₁ with intents := db₁.intents ++ [input.intent (draws.uuid 1) draws.timestamp] })
      else .ok (.REJECTED .CHECKOUT_CORRUPTED, db₁) := by
  obtain ⟨hsame, current, hclassified, hmaterialized⟩ := h.materialize
  obtain ⟨account, haccount, hactive⟩ := h.active
  have hintegrity₁ : db₁.Integrity := ((materialize_grows db _ _ _ _ _ hmaterialized).1 hintegrity).1
  have hexists : db.hasAccount input.accountId = true := by
    have hid := List.find?_some haccount
    exact List.any_eq_true.mpr ⟨account, List.mem_of_find?_eq_some haccount, hid⟩
  have hblocked : (accountPolicy db₁ input.accountId input.actorId (draws.now 1)).blocked = none := by
    simp [accountPolicy, CheckoutAccountObservation.blocked, hsame.accounts, haccount, hactive,
      hsame.owners, h.owner, h.noCurrent]
  have hload : loadIntent db₁ input.accountId input.idempotencyKeyHash = none := by
    simp only [loadIntent, hsame.intents, Option.map_eq_none_iff, List.find?_eq_none]
    intro intent hmem
    simpa using h.fresh intent hmem
  have hother : otherActionableIntent db₁ input.accountId input.idempotencyKeyHash =
      if NothingPaid db input.accountId then none else some .CHECKOUT_CORRUPTED := by
    rw [otherActionableIntent_eq hintegrity₁ (hsame.intents ▸ h.fresh) ?_]
    · simp only [hsame.nothingPaid]
    · intro intent hmem haccount' hactionable
      rw [hsame.intents] at hmem
      exact h.noActionable intent hmem haccount' (hsame.integrity_intents.mp hactionable)
  have hinsert : insertCheckoutIntent (input.intent (draws.uuid 1) draws.timestamp) db₁ = .ok (⟨⟩,
      { db₁ with intents := db₁.intents ++ [input.intent (draws.uuid 1) draws.timestamp] }) := by
    refine insertCheckoutIntent_ok ?_ ?_ ?_ (hsame.intentGuard h.admitted)
    · rw [hsame.intents]
      exact h.newId
    · rw [hsame.intents]
      exact h.fresh_keys.1
    · rw [hsame.intents]
      exact h.fresh_keys.2
  have hrest : prepareMaterialized draws input db₁ =
      if NothingPaid db input.accountId then
        .ok (.CREATED ⟨input.intent (draws.uuid 1) draws.timestamp, none⟩,
          { db₁ with intents := db₁.intents ++ [input.intent (draws.uuid 1) draws.timestamp] })
      else .ok (.REJECTED .CHECKOUT_CORRUPTED, db₁) := by
    unfold prepareMaterialized
    rw [ok_bind (show (get : Tx Database Database) db₁ = .ok (db₁, db₁) from rfl)]
    simp only [hload, hblocked, hother]
    by_cases hpaid : NothingPaid db input.accountId
    · simp only [if_pos hpaid]
      rw [ok_bind hinsert]
      rfl
    · simp only [if_neg hpaid]
      rfl
  unfold prepareCheckout
  rw [ok_bind (show (get : Tx Database Database) db = .ok (db, db) from rfl)]
  simp only [hexists, Bool.not_true, Bool.false_eq_true, if_false]
  rw [ok_bind hmaterialized]
  cases current with
  | CORRUPTED id => exact absurd rfl (hclassified id)
  | NONE => exact hrest
  | CURRENT id state => exact hrest

/-- An account that has no current subscription and no actionable intent is admitted again exactly
as long as none of its checkouts was paid. -/
theorem admitted_again (hashing : Hashing) (steps : List Step) (draws : Draws)
    (input : CheckoutPrepareInput) (db₁ : Database)
    (h : AsksToBuy draws input (run hashing steps).db db₁) :
    (NothingPaid (run hashing steps).db input.accountId →
      prepareCheckout draws input (run hashing steps).db =
        .ok (.CREATED ⟨input.intent (draws.uuid 1) draws.timestamp, none⟩,
          { db₁ with intents := db₁.intents ++ [input.intent (draws.uuid 1) draws.timestamp] })) ∧
    (¬ NothingPaid (run hashing steps).db input.accountId →
      prepareCheckout draws input (run hashing steps).db =
        .ok (.REJECTED .CHECKOUT_CORRUPTED, db₁)) := by
  have hprepare := prepareCheckout_asksToBuy (run_integrity hashing steps) h
  constructor
  · intro hpaid
    rw [hprepare, if_pos hpaid]
  · intro hpaid
    rw [hprepare, if_neg hpaid]

/-- A subscription that was bought was paid for by an intent of its account. -/
theorem Database.Integrity.bought (h : db.Integrity) {subscription : SubscriptionSnapshot}
    (hmem : subscription ∈ db.subscriptions) (hbought : subscription.boundPriceRevisionId ≠ none) :
    ¬ NothingPaid db subscription.accountId := by
  intro hnothing
  obtain ⟨payment, hpayment, hlink⟩ := h.linked subscription hmem hbought
  obtain ⟨other, hother, hid, haccount⟩ := h.linkExists payment hpayment _ hlink
  obtain rfl := h.subscriptionId.eq_of_key hother hmem (congrArg some hid) rfl
  obtain ⟨intent, hintent, hcarries⟩ := h.checkout payment hpayment
  have hstate := h.linkState payment hpayment (by simp [hlink])
  have hends := hnothing intent hintent (hcarries.accountId.trans haccount.symm) hcarries.state payment
    hpayment hcarries.paymentId
  rw [hstate] at hends
  simp at hends

/-- An account whose bought subscription is over is turned away. -/
theorem bought_account_rejected (hashing : Hashing) (steps : List Step) (draws : Draws)
    (input : CheckoutPrepareInput) (db₁ : Database)
    (h : AsksToBuy draws input (run hashing steps).db db₁) (subscription : SubscriptionSnapshot)
    (hmem : subscription ∈ (run hashing steps).db.subscriptions)
    (haccount : subscription.accountId = input.accountId)
    (hbought : subscription.boundPriceRevisionId ≠ none) :
    prepareCheckout draws input (run hashing steps).db = .ok (.REJECTED .CHECKOUT_CORRUPTED, db₁) := by
  have hintegrity := run_integrity hashing steps
  rw [prepareCheckout_asksToBuy hintegrity h, if_neg (haccount ▸ hintegrity.bought hmem hbought)]

/-- A checkout of the sample account under another key. -/
def secondDraws (now : Date) : Draws := sampleDraws "second-prepare" now

/-- A checkout whose payment failed. -/
def declinedRun : List Step :=
  sampleAuthority :: sampleCheckout "first-" "key" 1 ++ [sampleWebhook "first-" "declined" .failed 2]

/-- A checkout that was paid, for a month from the first of January 1970. -/
def paidRun : List Step :=
  sampleAuthority :: sampleCheckout "first-" "key" 1 ++ [sampleWebhook "first-" "paid" .succeeded 2]

/-- The database once the account's subscription is due at a time. -/
def materializedAt (steps : List Step) (now : Date) : Database :=
  commit (materializeDueCurrentSubscriptionLocked ((secondDraws now).uuid 0) "account" now)
    (run sampleHashing steps).db

/-- After a failed payment the account is admitted under another key. -/
theorem admitted_again_declinedRun :
    (prepareCheckout (secondDraws 3) (samplePrepareInput "second" 3)
      (run sampleHashing declinedRun).db).toOption.map Prod.fst =
      some (.CREATED ⟨(samplePrepareInput "second" 3).intent "second-prepare1" 3, none⟩) := by
  have hasks : AsksToBuy (secondDraws 3) (samplePrepareInput "second" 3)
      (run sampleHashing declinedRun).db (materializedAt declinedRun 3) :=
    ⟨⟨⟨"account", .ACTIVE⟩, by decide +kernel, by decide +kernel⟩, by decide +kernel,
      by decide +kernel, ⟨.NONE, by decide +kernel⟩, by decide +kernel, by decide +kernel, by decide +kernel,
      by decide +kernel⟩
  rw [(admitted_again sampleHashing declinedRun _ _ _ hasks).1 (by decide +kernel)]
  rfl

/-- A month after its only subscription began, the account asks in vain: it has no current
subscription and no actionable intent, but an intent that was paid. -/
theorem paid_account_not_admitted :
    AsksToBuy (secondDraws 3000000000) (samplePrepareInput "second" 3000000000)
      (run sampleHashing paidRun).db (materializedAt paidRun 3000000000) ∧
    (materializedAt paidRun 3000000000).subscriptions.map SubscriptionSnapshot.state = [.EXPIRED] ∧
    prepareCheckout (secondDraws 3000000000) (samplePrepareInput "second" 3000000000)
      (run sampleHashing paidRun).db =
      .ok (.REJECTED .CHECKOUT_CORRUPTED, materializedAt paidRun 3000000000) := by
  refine ⟨⟨⟨⟨"account", .ACTIVE⟩, by decide +kernel, by decide +kernel⟩, by decide +kernel,
    by decide +kernel, ⟨.NONE, by decide +kernel⟩, by decide +kernel, by decide +kernel, by decide +kernel,
    by decide +kernel⟩, by decide +kernel, by decide +kernel⟩

end SellerAgents.Billing
