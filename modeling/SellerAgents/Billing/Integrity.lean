import SellerAgents.Billing.System

open Relational SellerAgents.Subscriptions

namespace SellerAgents.Billing

/-- What of a payment never changes, in a row of its own. -/
def Payment.sale (payment : Payment) : Payment :=
  { payment with subscriptionId := none, state := .PENDING, updatedAt := 0, confirmedAt := none }

/-- What of a checkout intent never changes, in a row of its own. -/
def CheckoutIntent.order (intent : CheckoutIntent) : CheckoutIntent :=
  { intent with
    state := .CREATING
    providerCheckoutId := none
    providerPaymentId := none
    checkoutReference := none
    paymentId := none
    failureCode := none
    updatedAt := 0
    completedAt := none }

/-- The intent is the checkout that the payment was made for. -/
structure CheckoutIntent.Carries (intent : CheckoutIntent) (payment : Payment) : Prop where
  state : intent.state = .READY
  paymentId : intent.paymentId = some payment.id
  accountId : intent.accountId = payment.accountId
  provider : intent.provider = payment.provider
  providerPaymentId : intent.providerPaymentId = some payment.providerPaymentId
  priceRevisionId : intent.priceRevisionId = payment.priceRevisionId
  amountMinor : intent.amountMinor = payment.amountMinor
  currency : intent.currency = payment.currency
  idempotencyKeyHash : intent.idempotencyKeyHash = payment.idempotencyKeyHash
  fingerprint : intent.requestFingerprintSha256 = payment.requestFingerprintSha256

/-- An intent that may still become a paid checkout. -/
def CheckoutIntent.Actionable (db : Database) (intent : CheckoutIntent) : Prop :=
  intent.state = .CREATING ∨
    ∃ payment ∈ db.payments, intent.paymentId = some payment.id ∧ payment.state = .PENDING

instance (db : Database) (intent : CheckoutIntent) : Decidable (intent.Actionable db) :=
  inferInstanceAs (Decidable (_ ∨ ∃ payment ∈ db.payments, _))

/-- The indexes, and how the rows of the commerce refer to each other. -/
structure Database.Integrity (db : Database) : Prop where
  subscriptionId : UniqueBy (fun row => some row.id) db.subscriptions
  current : UniqueBy currentKey db.subscriptions
  paymentId : UniqueBy (fun row => some row.id) db.payments
  providerPayment : UniqueBy providerPaymentKey db.payments
  eventId : UniqueBy (fun row => some row.id) db.events
  event : UniqueBy eventKey db.events
  intentId : UniqueBy (fun row => some row.id) db.intents
  intentIdempotency : UniqueBy intentIdempotencyKey db.intents
  intentPayment : UniqueBy CheckoutIntent.paymentId db.intents
  job : UniqueBy (fun row => some row.paymentId) db.jobs
  link : UniqueBy Payment.subscriptionId db.payments
  linkExists : ∀ payment ∈ db.payments, ∀ id ∈ payment.subscriptionId,
    ∃ subscription ∈ db.subscriptions, subscription.id = id ∧ subscription.accountId = payment.accountId
  linked : ∀ subscription ∈ db.subscriptions, subscription.boundPriceRevisionId ≠ none →
    ∃ payment ∈ db.payments, payment.subscriptionId = some subscription.id
  linkState : ∀ payment ∈ db.payments, payment.subscriptionId ≠ none → payment.state = .SUCCEEDED
  checkout : ∀ payment ∈ db.payments, ∃ intent ∈ db.intents, intent.Carries payment
  ready : ∀ intent ∈ db.intents, intent.state = .READY →
    ∃ payment ∈ db.payments, intent.Carries payment
  notReady : ∀ intent ∈ db.intents, intent.state ≠ .READY → intent.paymentId = none
  actionable : ∀ intent ∈ db.intents, ∀ other ∈ db.intents, intent.accountId = other.accountId →
    intent.Actionable db → other.Actionable db → intent = other

/-- What no transaction takes back. -/
structure Extends (db db' : Database) : Prop where
  subscriptions : ∀ row ∈ db.subscriptions, ∃ row' ∈ db'.subscriptions, row'.id = row.id ∧
    row'.accountId = row.accountId
  payments : ∀ row ∈ db.payments, ∃ row' ∈ db'.payments, row'.sale = row.sale ∧
    (∀ id, row.subscriptionId = some id → row'.subscriptionId = some id) ∧
    (row.state ≠ .PENDING → row'.state ≠ .PENDING)
  events : ∀ row ∈ db.events, row.processingState ≠ .VERIFIED → row ∈ db'.events
  intents : ∀ row ∈ db.intents, ∃ row' ∈ db'.intents, row'.order = row.order ∧
    (row.state ≠ .CREATING → row' = row)

theorem Extends.rfl {db : Database} : Extends db db where
  subscriptions row hrow := ⟨row, hrow, Eq.refl _, Eq.refl _⟩
  payments row hrow := ⟨row, hrow, Eq.refl _, fun _ h => h, fun h => h⟩
  events _ hrow _ := hrow
  intents row hrow := ⟨row, hrow, Eq.refl _, fun _ => Eq.refl _⟩

theorem Extends.trans {a b c : Database} (hab : Extends a b) (hbc : Extends b c) : Extends a c where
  subscriptions row hrow := by
    obtain ⟨row', hrow', hid, haccount⟩ := hab.subscriptions row hrow
    obtain ⟨row'', hrow'', hid', haccount'⟩ := hbc.subscriptions row' hrow'
    exact ⟨row'', hrow'', hid'.trans hid, haccount'.trans haccount⟩
  payments row hrow := by
    obtain ⟨row', hrow', hsale, hlink, hstate⟩ := hab.payments row hrow
    obtain ⟨row'', hrow'', hsale', hlink', hstate'⟩ := hbc.payments row' hrow'
    exact ⟨row'', hrow'', hsale'.trans hsale, fun id h => hlink' id (hlink id h),
      fun h => hstate' (hstate h)⟩
  events row hrow hstate := hbc.events row (hab.events row hrow hstate) hstate
  intents row hrow := by
    obtain ⟨row', hrow', horder, hended⟩ := hab.intents row hrow
    obtain ⟨row'', hrow'', horder', hended'⟩ := hbc.intents row' hrow'
    refine ⟨row'', hrow'', horder'.trans horder, fun h => ?_⟩
    have hsame := hended h
    rw [hsame] at hended'
    exact hended' h

/-- A transaction keeps the integrity and takes nothing back. -/
def Grows (db db' : Database) : Prop := db.Integrity → db'.Integrity ∧ Extends db db'

instance : Std.Refl Grows := ⟨fun _ h => ⟨h, .rfl⟩⟩

instance : IsTrans Database Grows := ⟨fun _ _ _ hab hbc h =>
  ⟨(hbc (hab h).1).1, (hab h).2.trans (hbc (hab h).1).2⟩⟩

/-! The rows of an equal sale, or an equal order. -/

variable {intent intent' row : CheckoutIntent} {set : CheckoutIntent → CheckoutIntent}
  {transitions : List SubscriptionTransition} {payment payment' : Payment} {id : String}

theorem CheckoutIntent.Carries.of_sale (h : intent.Carries payment)
    (hsale : payment'.sale = payment.sale) :
    intent.Carries payment' where
  state := h.state
  paymentId := h.paymentId.trans (congrArg some (congrArg Payment.id hsale).symm)
  accountId := h.accountId.trans (congrArg Payment.accountId hsale).symm
  provider := h.provider.trans (congrArg Payment.provider hsale).symm
  providerPaymentId :=
    h.providerPaymentId.trans (congrArg some (congrArg Payment.providerPaymentId hsale).symm)
  priceRevisionId := h.priceRevisionId.trans (congrArg Payment.priceRevisionId hsale).symm
  amountMinor := h.amountMinor.trans (congrArg Payment.amountMinor hsale).symm
  currency := h.currency.trans (congrArg Payment.currency hsale).symm
  idempotencyKeyHash := h.idempotencyKeyHash.trans (congrArg Payment.idempotencyKeyHash hsale).symm
  fingerprint := h.fingerprint.trans (congrArg Payment.requestFingerprintSha256 hsale).symm

theorem Payment.id_of_sale (h : payment'.sale = payment.sale) :
    payment'.id = payment.id := show payment'.sale.id = payment.sale.id by rw [h]

theorem Payment.accountId_of_sale (h : payment'.sale = payment.sale) :
    payment'.accountId = payment.accountId :=
  show payment'.sale.accountId = payment.sale.accountId by rw [h]

theorem Payment.providerPaymentKey_of_sale (h : payment'.sale = payment.sale) :
    providerPaymentKey payment' = providerPaymentKey payment :=
  show providerPaymentKey payment'.sale = providerPaymentKey payment.sale by rw [h]

/-! What each write of the commerce makes of the integrity. -/

variable {db : Database}

theorem grows_updateSubscription {set : SubscriptionSnapshot → SubscriptionSnapshot}
    (hset : ∀ row, (set row).id = row.id ∧ (set row).accountId = row.accountId ∧
      (set row).boundPriceRevisionId = row.boundPriceRevisionId)
    (hcurrent : UniqueBy currentKey (updateWhere (·.id = id) set db.subscriptions)) :
    Grows db { db with
      subscriptions := updateWhere (·.id = id) set db.subscriptions, transitions := transitions } := by
  intro h
  have hkept : ∀ row ∈ db.subscriptions, ∃ row' ∈ updateWhere (·.id = id) set db.subscriptions,
      row'.id = row.id ∧ row'.accountId = row.accountId := by
    intro row hrow
    by_cases hid : row.id = id
    · exact ⟨set row, mem_updateWhere.mpr (.inr ⟨row, hrow, by simpa using hid, rfl⟩), (hset row).1,
        (hset row).2.1⟩
    · exact ⟨row, mem_updateWhere.mpr (.inl ⟨hrow, by simpa using hid⟩), rfl, rfl⟩
  refine ⟨{ h with
    subscriptionId := h.subscriptionId.updateWhere fun row _ _ => .inr (congrArg some (hset row).1)
    current := hcurrent
    linkExists := fun payment hpayment linkId hlink => ?_
    linked := fun subscription hmem hbought => ?_ }, { Extends.rfl with subscriptions := hkept }⟩
  · obtain ⟨row, hrow, hid, haccount⟩ := h.linkExists payment hpayment linkId hlink
    obtain ⟨row', hrow', hid', haccount'⟩ := hkept row hrow
    exact ⟨row', hrow', hid'.trans hid, haccount'.trans haccount⟩
  · rcases mem_updateWhere.mp hmem with ⟨hold, -⟩ | ⟨old, hold, -, rfl⟩
    · exact h.linked subscription hold hbought
    · rw [(hset old).2.2] at hbought
      rw [(hset old).1]
      exact h.linked old hold hbought

/-- A subscription that nobody pays for. -/
theorem grows_insertGranted {subscription : SubscriptionSnapshot}
    (hfree : subscription.boundPriceRevisionId = none)
    (hid : Fresh (fun r => some r.id) subscription db.subscriptions)
    (hcurrent : Fresh currentKey subscription db.subscriptions) :
    Grows db { db with
      subscriptions := db.subscriptions ++ [subscription], transitions := transitions } := by
  intro h
  refine ⟨{ h with
    subscriptionId := h.subscriptionId.insert hid
    current := h.current.insert hcurrent
    linkExists := fun payment hpayment linkId hlink => ?_
    linked := fun other hother hbought => ?_ }, { Extends.rfl with
      subscriptions := fun row hrow => ⟨row, List.mem_append_left _ hrow, rfl, rfl⟩ }⟩
  · obtain ⟨row, hrow, hrowId⟩ := h.linkExists payment hpayment linkId hlink
    exact ⟨row, List.mem_append_left _ hrow, hrowId⟩
  · rcases List.mem_append.mp hother with hold | hnew
    · exact h.linked other hold hbought
    · rw [List.mem_singleton.mp hnew] at hbought
      exact absurd hfree hbought

/-- What an update of one payment leaves, if it keeps the sale and the link and the payment is not
pending after it. -/
structure EndsPayment (db : Database) (id : String) (set : Payment → Payment) (row : Payment) :
    Prop where
  mem : ∀ {payment}, payment ∈ updateWhere (·.id = id) set db.payments ↔
    (payment ∈ db.payments ∧ payment.id ≠ id) ∨ payment = set row
  kept : ∀ payment ∈ db.payments, ∃ payment' ∈ updateWhere (·.id = id) set db.payments,
    payment'.sale = payment.sale ∧
      (∀ linkId, payment.subscriptionId = some linkId → payment'.subscriptionId = some linkId) ∧
      (payment.state ≠ .PENDING → payment'.state ≠ .PENDING)
  paymentId : UniqueBy (fun row => some row.id) (updateWhere (·.id = id) set db.payments)
  providerPayment : UniqueBy providerPaymentKey (updateWhere (·.id = id) set db.payments)
  checkout : ∀ payment ∈ updateWhere (·.id = id) set db.payments,
    ∃ intent ∈ db.intents, intent.Carries payment
  ready : ∀ intent ∈ db.intents, intent.state = .READY →
    ∃ payment ∈ updateWhere (·.id = id) set db.payments, intent.Carries payment
  pending : ∀ payment ∈ updateWhere (·.id = id) set db.payments, payment.state = .PENDING →
    payment ∈ db.payments

theorem endsPayment (h : db.Integrity) {set : Payment → Payment} {row : Payment}
    (hfind : db.payments.find? (·.id = id) = some row) (hsale : ∀ row, (set row).sale = row.sale)
    (hlink : ∀ linkId, row.subscriptionId = some linkId → (set row).subscriptionId = some linkId)
    (hstate : (set row).state ≠ .PENDING) : EndsPayment db id set row := by
  have hmem {payment : Payment} : payment ∈ updateWhere (·.id = id) set db.payments ↔
      (payment ∈ db.payments ∧ payment.id ≠ id) ∨ payment = set row := by
    have hkey : ∀ other ∈ db.payments, decide (other.id = id) = true → some other.id = some id := by
      simp
    simpa using h.paymentId.mem_updateWhere hkey hfind
  have hfound : row ∈ db.payments := List.mem_of_find?_eq_some hfind
  have hid : row.id = id := by simpa using List.find?_some hfind
  have hkept : ∀ payment ∈ db.payments, ∃ payment' ∈ updateWhere (·.id = id) set db.payments,
      payment'.sale = payment.sale ∧
        (∀ linkId, payment.subscriptionId = some linkId → payment'.subscriptionId = some linkId) ∧
        (payment.state ≠ .PENDING → payment'.state ≠ .PENDING) := by
    intro payment hpayment
    by_cases hp : payment.id = id
    · have hsame : payment = row := h.paymentId.eq_of_key hpayment hfound rfl (by rw [hid, hp])
      rw [hsame]
      exact ⟨set row, hmem.mpr (.inr rfl), hsale row, hlink, fun _ => hstate⟩
    · exact ⟨payment, hmem.mpr (.inl ⟨hpayment, hp⟩), rfl, fun _ hold => hold, fun hold => hold⟩
  refine ⟨hmem, hkept, ?_, ?_, fun payment hpayment => ?_, fun intent hintent hready => ?_,
    fun payment hpayment hpending => ?_⟩
  · exact h.paymentId.updateWhere fun other _ _ =>
      .inr (congrArg some (Payment.id_of_sale (hsale other)))
  · exact h.providerPayment.updateWhere fun other _ _ =>
      .inr (Payment.providerPaymentKey_of_sale (hsale other))
  · rcases hmem.mp hpayment with ⟨hold, -⟩ | rfl
    · exact h.checkout payment hold
    · obtain ⟨intent, hintent, hcarries⟩ := h.checkout row hfound
      exact ⟨intent, hintent, hcarries.of_sale (hsale row)⟩
  · obtain ⟨payment, hpayment, hcarries⟩ := h.ready intent hintent hready
    obtain ⟨payment', hpayment', hsame, -⟩ := hkept payment hpayment
    exact ⟨payment', hpayment', hcarries.of_sale hsame⟩
  · rcases hmem.mp hpayment with ⟨hold, -⟩ | rfl
    · exact hold
    · exact absurd hpending hstate

theorem CheckoutIntent.Actionable.of_pending {db' : Database} (h : intent.Actionable db')
    (hpending : ∀ payment ∈ db'.payments, payment.state = .PENDING → payment ∈ db.payments) :
    intent.Actionable db := by
  rcases h with hcreating | ⟨payment, hpayment, hpaid, hstate⟩
  · exact .inl hcreating
  · exact .inr ⟨payment, hpending payment hpayment hstate, hpaid, hstate⟩

theorem grows_updatePayment {set : Payment → Payment} {row : Payment}
    (hfind : db.payments.find? (·.id = id) = some row) (hrow : row.state ≠ .SUCCEEDED)
    (hset : ∀ row, (set row).sale = row.sale ∧ (set row).subscriptionId = row.subscriptionId ∧
      (set row).state ≠ .PENDING) :
    Grows db { db with payments := updateWhere (·.id = id) set db.payments } := by
  intro h
  have hends := endsPayment h hfind (fun other => (hset other).1)
    (fun _ hold => (hset row).2.1.trans hold) (hset row).2.2
  have hunlinked : (set row).subscriptionId = none := by
    rw [(hset row).2.1]
    by_contra hlink
    exact hrow (h.linkState row (List.mem_of_find?_eq_some hfind) hlink)
  refine ⟨{ h with
    paymentId := hends.paymentId
    providerPayment := hends.providerPayment
    link := h.link.updateWhere fun other _ _ => .inr (hset other).2.1
    linkExists := fun payment hpayment linkId hlink => ?_
    linked := fun subscription hsubscription hbought => ?_
    linkState := fun payment hpayment hlink => ?_
    checkout := hends.checkout
    ready := hends.ready
    actionable := fun intent hintent other hother haccount hone htwo =>
      h.actionable intent hintent other hother haccount (hone.of_pending hends.pending)
        (htwo.of_pending hends.pending) }, { Extends.rfl with payments := hends.kept }⟩
  · rcases hends.mem.mp hpayment with ⟨hold, -⟩ | rfl
    · exact h.linkExists payment hold linkId hlink
    · rw [hunlinked] at hlink
      cases hlink
  · obtain ⟨payment, hpayment, hlink⟩ := h.linked subscription hsubscription hbought
    obtain ⟨payment', hpayment', -, hlink', -⟩ := hends.kept payment hpayment
    exact ⟨payment', hpayment', hlink' _ hlink⟩
  · rcases hends.mem.mp hpayment with ⟨hold, -⟩ | rfl
    · exact h.linkState payment hold hlink
    · exact absurd hunlinked hlink

theorem grows_insertBillingEvent {row : BillingEvent} (hid : Fresh (fun r => some r.id) row db.events)
    (hkey : Fresh eventKey row db.events) : Grows db { db with events := db.events ++ [row] } :=
  fun h => ⟨{ h with eventId := h.eventId.insert hid, event := h.event.insert hkey },
    { Extends.rfl with events := fun _ hmem _ => List.mem_append_left _ hmem }⟩

theorem grows_updateBillingEvent {set : BillingEvent → BillingEvent} {row : BillingEvent}
    (hfind : db.events.find? (·.id = id) = some row) (hrow : row.processingState = .VERIFIED)
    (hset : ∀ row, (set row).id = row.id ∧ eventKey (set row) = eventKey row) :
    Grows db { db with events := updateWhere (·.id = id) set db.events } := by
  intro h
  refine ⟨{ h with
    eventId := h.eventId.updateWhere fun other _ _ => .inr (congrArg some (hset other).1)
    event := h.event.updateWhere fun other _ _ => .inr (hset other).2 },
    { Extends.rfl with events := fun other hother hstate => ?_ }⟩
  refine mem_updateWhere.mpr (.inl ⟨hother, ?_⟩)
  by_contra hother'
  have hid : other.id = id := by simpa using hother'
  have hfound : row.id = id := by simpa using List.find?_some hfind
  have hsame : other = row := h.eventId.eq_of_key hother (List.mem_of_find?_eq_some hfind) rfl
    (by rw [hfound, hid])
  rw [hsame] at hstate
  exact hstate hrow

theorem grows_jobs {jobs : List BillingReconciliationJob}
    (hjobs : UniqueBy (fun row => some row.paymentId) db.jobs →
      UniqueBy (fun row => some row.paymentId) jobs) : Grows db { db with jobs := jobs } :=
  fun h => ⟨{ h with job := hjobs h.job }, { Extends.rfl with }⟩

theorem grows_insertCheckoutIntent (hid : Fresh (fun r => some r.id) row db.intents)
    (hkey : Fresh intentIdempotencyKey row db.intents) (hstate : row.state = .CREATING)
    (hpayment : row.paymentId = none)
    (hother : ∀ other ∈ db.intents, other.accountId = row.accountId → ¬ other.Actionable db) :
    Grows db { db with intents := db.intents ++ [row] } := by
  intro h
  have hnotReady : row.state ≠ .READY := by simp [hstate]
  have hfreshPayment : Fresh CheckoutIntent.paymentId row db.intents := fun _ _ => .inl hpayment
  refine ⟨{ h with
    intentId := h.intentId.insert hid
    intentIdempotency := h.intentIdempotency.insert hkey
    intentPayment := h.intentPayment.insert hfreshPayment
    checkout := fun payment hmem => ?_
    ready := fun intent hmem hready => ?_
    notReady := fun intent hmem hstate' => ?_
    actionable := fun intent hintent other hmem haccount hone htwo => ?_ },
    { Extends.rfl with intents := fun intent hmem =>
        ⟨intent, List.mem_append_left _ hmem, rfl, fun _ => rfl⟩ }⟩
  · obtain ⟨intent, hintent, hcarries⟩ := h.checkout payment hmem
    exact ⟨intent, List.mem_append_left _ hintent, hcarries⟩
  · rcases List.mem_append.mp hmem with hold | hnew
    · exact h.ready intent hold hready
    · rw [List.mem_singleton] at hnew
      rw [hnew] at hready
      exact absurd hready hnotReady
  · rcases List.mem_append.mp hmem with hold | hnew
    · exact h.notReady intent hold hstate'
    · rw [List.mem_singleton] at hnew
      rw [hnew]
      exact hpayment
  · rw [List.mem_append, List.mem_singleton] at hintent hmem
    rcases hintent with hintent | rfl
    · rcases hmem with hmem | rfl
      · exact h.actionable intent hintent other hmem haccount hone htwo
      · exact absurd hone (hother intent hintent haccount)
    · rcases hmem with hmem | rfl
      · exact absurd htwo (hother other hmem haccount.symm)
      · rfl

/-- The one intent of an id, and what an update of it leaves. -/
theorem mem_updateIntent (h : db.Integrity) (hfind : db.intents.find? (·.id = id) = some row) :
    intent ∈ updateWhere (·.id = id) set db.intents ↔
      (intent ∈ db.intents ∧ intent.id ≠ id) ∨ intent = set row := by
  have hkey : ∀ other ∈ db.intents, decide (other.id = id) = true → some other.id = some id := by
    simp
  simpa using h.intentId.mem_updateWhere hkey hfind

theorem CheckoutIntent.id_of_order (h : intent'.order = intent.order) : intent'.id = intent.id :=
  show intent'.order.id = intent.order.id by rw [h]

theorem CheckoutIntent.accountId_of_order (h : intent'.order = intent.order) :
    intent'.accountId = intent.accountId :=
  show intent'.order.accountId = intent.order.accountId by rw [h]

theorem CheckoutIntent.idempotencyKey_of_order (h : intent'.order = intent.order) :
    intentIdempotencyKey intent' = intentIdempotencyKey intent :=
  show intentIdempotencyKey intent'.order = intentIdempotencyKey intent.order by rw [h]

/-- An update of an intent that is still `CREATING` takes nothing back. -/
theorem intents_updated (h : db.Integrity) (hfind : db.intents.find? (·.id = id) = some row)
    (hrow : row.state = .CREATING) (hset : ∀ row, (set row).order = row.order) :
    ∀ intent ∈ db.intents, ∃ intent' ∈ updateWhere (·.id = id) set db.intents,
      intent'.order = intent.order ∧ (intent.state ≠ .CREATING → intent' = intent) := by
  intro intent hintent
  by_cases hid : intent.id = id
  · have hfound : row.id = id := by simpa using List.find?_some hfind
    have hsame : intent = row := h.intentId.eq_of_key hintent (List.mem_of_find?_eq_some hfind) rfl
      (by rw [hfound, hid])
    refine ⟨set row, (mem_updateIntent h hfind).mpr (.inr rfl), ?_, fun hstate => ?_⟩
    · rw [hset row, hsame]
    · rw [hsame] at hstate
      exact absurd hrow hstate
  · exact ⟨intent, (mem_updateIntent h hfind).mpr (.inl ⟨hintent, hid⟩), rfl, fun _ => rfl⟩

theorem grows_failIntent (hfind : db.intents.find? (·.id = id) = some row)
    (hrow : row.state = .CREATING)
    (hset : ∀ row, (set row).order = row.order ∧ (set row).state = .FAILED ∧
      (set row).paymentId = row.paymentId) :
    Grows db { db with intents := updateWhere (·.id = id) set db.intents } := by
  intro h
  have hmem {intent : CheckoutIntent} : intent ∈ updateWhere (·.id = id) set db.intents ↔
      (intent ∈ db.intents ∧ intent.id ≠ id) ∨ intent = set row := mem_updateIntent h hfind
  have hfound : row ∈ db.intents := List.mem_of_find?_eq_some hfind
  have hid : row.id = id := by simpa using List.find?_some hfind
  have hunpaid : row.paymentId = none := h.notReady row hfound (by simp [hrow])
  have hkept : ∀ intent ∈ db.intents, intent.state ≠ .CREATING →
      intent ∈ updateWhere (·.id = id) set db.intents := by
    intro intent hintent hstate
    refine hmem.mpr (.inl ⟨hintent, fun heq => hstate ?_⟩)
    have hsame : intent = row := h.intentId.eq_of_key hintent hfound rfl (by rw [hid, heq])
    rw [hsame, hrow]
  refine ⟨{ h with
    intentId := h.intentId.updateWhere fun other _ _ =>
      .inr (congrArg some (CheckoutIntent.id_of_order (hset other).1))
    intentIdempotency := h.intentIdempotency.updateWhere fun other _ _ =>
      .inr (CheckoutIntent.idempotencyKey_of_order (hset other).1)
    intentPayment := h.intentPayment.updateWhere fun other _ _ => .inr (hset other).2.2
    checkout := fun payment hpayment => ?_
    ready := fun intent hintent hready => ?_
    notReady := fun intent hintent hstate => ?_
    actionable := fun intent hintent other hother haccount hone htwo => ?_ },
    { Extends.rfl with
      intents := intents_updated h hfind hrow fun other => (hset other).1 }⟩
  · obtain ⟨intent, hintent, hcarries⟩ := h.checkout payment hpayment
    exact ⟨intent, hkept intent hintent (by simp [hcarries.state]), hcarries⟩
  · rcases hmem.mp hintent with ⟨hold, -⟩ | rfl
    · exact h.ready intent hold hready
    · rw [(hset row).2.1] at hready
      cases hready
  · rcases hmem.mp hintent with ⟨hold, -⟩ | rfl
    · exact h.notReady intent hold hstate
    · exact (hset row).2.2.trans hunpaid
  · have hfailed : ¬ (set row).Actionable
        { db with intents := updateWhere (·.id = id) set db.intents } := by
      rintro (hcreating | ⟨payment, -, hpaid, -⟩)
      · rw [(hset row).2.1] at hcreating
        cases hcreating
      · rw [(hset row).2.2, hunpaid] at hpaid
        cases hpaid
    rcases hmem.mp hintent with ⟨hintent, -⟩ | rfl
    · rcases hmem.mp hother with ⟨hother, -⟩ | rfl
      · exact h.actionable intent hintent other hother haccount hone htwo
      · exact absurd htwo hfailed
    · exact absurd hone hfailed

/-- The payment of a finalized checkout, with its intent. -/
theorem grows_finalize {jobs : List BillingReconciliationJob}
    (hfind : db.intents.find? (·.id = id) = some row) (hrow : row.state = .CREATING)
    (hset : ∀ row, (set row).order = row.order) (hcarries : (set row).Carries payment)
    (hunique : UniqueBy CheckoutIntent.paymentId (updateWhere (·.id = id) set db.intents))
    (hid : Fresh (fun r => some r.id) payment db.payments)
    (hkey : Fresh providerPaymentKey payment db.payments) (hlink : payment.subscriptionId = none)
    (hjobs : UniqueBy (fun row => some row.paymentId) db.jobs →
      UniqueBy (fun row => some row.paymentId) jobs) :
    Grows db { db with
      payments := db.payments ++ [payment]
      jobs := jobs
      intents := updateWhere (·.id = id) set db.intents } := by
  intro h
  have hmem {intent : CheckoutIntent} : intent ∈ updateWhere (·.id = id) set db.intents ↔
      (intent ∈ db.intents ∧ intent.id ≠ id) ∨ intent = set row := mem_updateIntent h hfind
  have hfound : row ∈ db.intents := List.mem_of_find?_eq_some hfind
  have hrowId : row.id = id := by simpa using List.find?_some hfind
  have hfreshLink : Fresh Payment.subscriptionId payment db.payments := fun _ _ => .inl hlink
  have hold {intent : CheckoutIntent} (hintent : intent ∈ db.intents) :
      intent.paymentId ≠ some payment.id := by
    intro hpaid
    by_cases hready : intent.state = .READY
    · obtain ⟨other, hother, hcarries'⟩ := h.ready intent hintent hready
      rcases hid other hother with hnone | hdiff
      · cases hnone
      · exact hdiff (hcarries'.paymentId.symm.trans hpaid)
    · rw [h.notReady intent hintent hready] at hpaid
      cases hpaid
  refine ⟨{ h with
    paymentId := h.paymentId.insert hid
    providerPayment := h.providerPayment.insert hkey
    job := hjobs h.job
    link := h.link.insert hfreshLink
    intentId := h.intentId.updateWhere fun other _ _ =>
      .inr (congrArg some (CheckoutIntent.id_of_order (hset other)))
    intentIdempotency := h.intentIdempotency.updateWhere fun other _ _ =>
      .inr (CheckoutIntent.idempotencyKey_of_order (hset other))
    intentPayment := hunique
    linkExists := fun other hother linkId hlinked => ?_
    linked := fun subscription hsubscription hbought => ?_
    linkState := fun other hother hlinked => ?_
    checkout := fun other hother => ?_
    ready := fun intent hintent hready => ?_
    notReady := fun intent hintent hstate => ?_
    actionable := fun intent hintent other hother haccount hone htwo => ?_ },
    { Extends.rfl with
      payments := fun other hother =>
        ⟨other, List.mem_append_left _ hother, rfl, fun _ hlinked => hlinked, fun hstate => hstate⟩
      intents := intents_updated h hfind hrow hset }⟩
  · rcases List.mem_append.mp hother with hother | hnew
    · exact h.linkExists other hother linkId hlinked
    · rw [List.mem_singleton.mp hnew, hlink] at hlinked
      cases hlinked
  · obtain ⟨other, hother, hlinked⟩ := h.linked subscription hsubscription hbought
    exact ⟨other, List.mem_append_left _ hother, hlinked⟩
  · rcases List.mem_append.mp hother with hother | hnew
    · exact h.linkState other hother hlinked
    · rw [List.mem_singleton.mp hnew] at hlinked
      exact absurd hlink hlinked
  · rcases List.mem_append.mp hother with hother | hnew
    · obtain ⟨intent, hintent, hcarries'⟩ := h.checkout other hother
      refine ⟨intent, hmem.mpr (.inl ⟨hintent, fun heq => ?_⟩), hcarries'⟩
      have hsame : intent = row := h.intentId.eq_of_key hintent hfound rfl (by rw [hrowId, heq])
      rw [hsame] at hcarries'
      rw [hcarries'.state] at hrow
      cases hrow
    · rw [List.mem_singleton.mp hnew]
      exact ⟨set row, hmem.mpr (.inr rfl), hcarries⟩
  · rcases hmem.mp hintent with ⟨hintent, -⟩ | rfl
    · obtain ⟨other, hother, hcarries'⟩ := h.ready intent hintent hready
      exact ⟨other, List.mem_append_left _ hother, hcarries'⟩
    · exact ⟨payment, List.mem_append_right _ (List.mem_singleton_self payment), hcarries⟩
  · rcases hmem.mp hintent with ⟨hintent, -⟩ | rfl
    · exact h.notReady intent hintent hstate
    · exact absurd hcarries.state hstate
  · have hback {intent : CheckoutIntent} (hintent : intent ∈ db.intents)
        (hactionable : intent.Actionable { db with
          payments := db.payments ++ [payment]
          jobs := jobs
          intents := updateWhere (·.id = id) set db.intents }) : intent.Actionable db := by
      rcases hactionable with hcreating | ⟨paid, hpaid, heq, hstate⟩
      · exact .inl hcreating
      · rcases List.mem_append.mp hpaid with hpaid | hnew
        · exact .inr ⟨paid, hpaid, heq, hstate⟩
        · rw [List.mem_singleton.mp hnew] at heq
          exact absurd heq (hold hintent)
    have haccountRow : (set row).accountId = row.accountId :=
      CheckoutIntent.accountId_of_order (hset row)
    have hrowActionable : row.Actionable db := .inl hrow
    rcases hmem.mp hintent with ⟨hintent, hne⟩ | rfl
    · rcases hmem.mp hother with ⟨hother, -⟩ | rfl
      · exact h.actionable intent hintent other hother haccount (hback hintent hone)
          (hback hother htwo)
      · have hsame := h.actionable intent hintent row hfound (haccount.trans haccountRow)
          (hback hintent hone) hrowActionable
        rw [hsame] at hne
        exact absurd hrowId hne
    · rcases hmem.mp hother with ⟨hother, hne⟩ | rfl
      · have hsame := h.actionable row hfound other hother (haccountRow.symm.trans haccount)
          hrowActionable (hback hother htwo)
        rw [← hsame] at hne
        exact absurd hrowId hne
      · rfl

/-- The subscription of an activated payment, with its link. -/
theorem grows_activate {set : Payment → Payment} {row : Payment}
    {subscription : SubscriptionSnapshot} (hfind : db.payments.find? (·.id = id) = some row)
    (hrow : row.subscriptionId = none)
    (hset : ∀ row, (set row).sale = row.sale ∧ (set row).subscriptionId = some subscription.id)
    (hstate : (set row).state = .SUCCEEDED) (haccount : subscription.accountId = row.accountId)
    (hid : Fresh (fun r => some r.id) subscription db.subscriptions)
    (hcurrent : Fresh currentKey subscription db.subscriptions) :
    Grows db { db with
      subscriptions := db.subscriptions ++ [subscription]
      transitions := transitions
      payments := updateWhere (·.id = id) set db.payments } := by
  intro h
  have hends := endsPayment h hfind (fun other => (hset other).1) (by simp [hrow]) (by simp [hstate])
  -- The new id is in no link yet: every link is to a subscription that exists.
  have hnew {payment : Payment} (hpayment : payment ∈ db.payments) :
      payment.subscriptionId ≠ some subscription.id := by
    intro hlink
    obtain ⟨other, hother, hotherId, -⟩ := h.linkExists payment hpayment _ hlink
    rcases hid other hother with hnone | hdiff
    · cases hnone
    · exact hdiff (congrArg some hotherId)
  refine ⟨{ h with
    subscriptionId := h.subscriptionId.insert hid
    current := h.current.insert hcurrent
    paymentId := hends.paymentId
    providerPayment := hends.providerPayment
    link := ?_
    linkExists := fun payment hpayment linkId hlink => ?_
    linked := fun other hother hbought => ?_
    linkState := fun payment hpayment hlink => ?_
    checkout := hends.checkout
    ready := hends.ready
    actionable := fun intent hintent other hother hsame hone htwo =>
      h.actionable intent hintent other hother hsame (hone.of_pending hends.pending)
        (htwo.of_pending hends.pending) },
    { Extends.rfl with
      subscriptions := fun other hother => ⟨other, List.mem_append_left _ hother, rfl, rfl⟩
      payments := hends.kept }⟩
  · have hpairwise : UniqueBy Payment.subscriptionId (updateWhere (·.id = id) set db.payments) := by
      refine List.pairwise_map.mpr ((h.link.and h.paymentId).imp_of_mem ?_)
      rintro a b ha hb ⟨hlink, hkey⟩
      have hne : a.id ≠ b.id := by simpa using hkey
      by_cases hida : a.id = id
      · have hidb : ¬ b.id = id := fun heq => hne (hida.trans heq.symm)
        simp only [hida, hidb, decide_true, decide_false, if_true]
        refine .inr fun heq => hnew hb ?_
        rw [← (hset a).2]
        exact heq.symm
      · by_cases hidb : b.id = id
        · simp only [hida, hidb, decide_true, decide_false, if_true]
          refine .inr fun heq => hnew ha ?_
          rw [← (hset b).2]
          exact heq
        · simpa [hida, hidb] using hlink
    exact hpairwise
  · rcases hends.mem.mp hpayment with ⟨hold, -⟩ | rfl
    · obtain ⟨other, hother, hotherId⟩ := h.linkExists payment hold linkId hlink
      exact ⟨other, List.mem_append_left _ hother, hotherId⟩
    · rw [(hset row).2] at hlink
      exact ⟨subscription, List.mem_append_right _ (List.mem_singleton_self _), Option.some.inj hlink,
        haccount.trans (Payment.accountId_of_sale (hset row).1).symm⟩
  · rcases List.mem_append.mp hother with hother | hlast
    · obtain ⟨payment, hpayment, hlink⟩ := h.linked other hother hbought
      obtain ⟨payment', hpayment', -, hlink', -⟩ := hends.kept payment hpayment
      exact ⟨payment', hpayment', hlink' _ hlink⟩
    · rw [List.mem_singleton.mp hlast]
      exact ⟨set row, hends.mem.mpr (.inr rfl), (hset row).2⟩
  · rcases hends.mem.mp hpayment with ⟨hold, -⟩ | rfl
    · exact h.linkState payment hold hlink
    · exact hstate

end SellerAgents.Billing
