import SellerAgents.Billing.Activation

open Relational SellerAgents.Subscriptions

namespace SellerAgents.Billing

/-- A processed `payment.succeeded` webhook of a payment, whose amount, currency and time passed the
checks. -/
def BillingEvent.confirms (event : BillingEvent) (paymentId : String) : Bool :=
  event.source = .WEBHOOK && event.eventType = .succeeded && event.processingState ≠ .VERIFIED &&
    event.paymentId = some paymentId && event.failureCode ≠ some .PAYMENT_TERMS_MISMATCH &&
    event.failureCode ≠ some .EVENT_TIME_INVALID

/-- Whether a payment was confirmed by an event. -/
def Database.paid (db : Database) (paymentId : String) : Bool :=
  db.events.any (·.confirms paymentId)

/-- The payment's job is `READY` or `LEASED`. -/
def Database.scheduled (db : Database) (paymentId : String) : Bool :=
  db.jobs.any fun job => job.paymentId = paymentId && job.isOpen

/-- A payment that succeeded and gave no subscription yet. -/
def Payment.waiting (payment : Payment) : Bool :=
  payment.state = .SUCCEEDED && payment.subscriptionId = none

instance (intent : CheckoutIntent) (payment : Payment) : Decidable (intent.Carries payment) :=
  decidable_of_iff (intent.state = .READY ∧ intent.paymentId = some payment.id ∧
      intent.accountId = payment.accountId ∧ intent.provider = payment.provider ∧
      intent.providerPaymentId = some payment.providerPaymentId ∧
      intent.priceRevisionId = payment.priceRevisionId ∧
      intent.amountMinor = payment.amountMinor ∧ intent.currency = payment.currency ∧
      intent.idempotencyKeyHash = payment.idempotencyKeyHash ∧
      intent.requestFingerprintSha256 = payment.requestFingerprintSha256)
    ⟨fun ⟨a, b, c, d, e, f, g, h, i, j⟩ => ⟨a, b, c, d, e, f, g, h, i, j⟩,
      fun ⟨a, b, c, d, e, f, g, h, i, j⟩ => ⟨a, b, c, d, e, f, g, h, i, j⟩⟩

/-- A paid customer stays scheduled for activation. -/
def StaysScheduled (db : Database) : Prop :=
  ∀ payment ∈ db.payments, (∃ intent ∈ db.intents, intent.Carries payment) →
    db.paid payment.id = true → payment.subscriptionId = none →
    ∃ job ∈ db.jobs, job.paymentId = payment.id ∧ (job.state = .READY ∨ job.state = .LEASED)

instance (db : Database) : Decidable (StaysScheduled db) :=
  inferInstanceAs (Decidable (∀ payment ∈ db.payments, _))

/-- The amount, currency and time of an event agree with a payment. -/
def BillingEventInput.agrees (input : BillingEventInput) (payment : Payment) : Bool :=
  payment.amountMinor = input.event.amountMinor && payment.currency = input.event.currency &&
    payment.createdAt ≤ input.event.occurredAt && input.event.occurredAt ≤ input.receivedAt

/-- The lease of a claim is still the job's. -/
def BillingReconciliationClaim.leased (claim : BillingReconciliationClaim) (db : Database) : Bool :=
  (db.jobs.find? (·.paymentId = claim.paymentId)).any fun job =>
    job.state = .LEASED ∧ job.leaseToken = some claim.leaseToken

/-- The payment of a claim waits for its activation. -/
def BillingReconciliationClaim.waiting (claim : BillingReconciliationClaim) (db : Database) : Bool :=
  (db.payments.find? (·.id = claim.paymentId)).any Payment.waiting

/-- The amount, currency and time of a status agree with a claim. -/
def BillingPaymentStatus.agrees (status : BillingPaymentStatus)
    (claim : BillingReconciliationClaim) (processedAt : Date) : Bool :=
  status.amountMinor = claim.amountMinor && status.currency = claim.currency &&
    claim.createdAt ≤ status.statusAt && status.statusAt ≤ processedAt

/-- A new event on a payment without a subscription: one that disagrees with the payment does not
find it paid, and one that reports success finds it paid already, or pending and with its job open
or no other subscription in the way. -/
def BillingEventInput.orderly (input : BillingEventInput) (draws : Draws) (db : Database) : Bool :=
  (db.findEvent input.event.provider input.event.eventIdentity).isSome ||
    (db.findPayment input.event).all fun payment =>
      payment.subscriptionId.isSome ||
        (if input.agrees payment then
          input.event.eventType ≠ .succeeded || payment.state = .SUCCEEDED ||
            (payment.state = .PENDING && (db.scheduled payment.id ||
              !hasCurrentSubscriptionAt db payment.accountId (draws.now 1)))
        else payment.state ≠ .SUCCEEDED)

/-- The condition on a step and the state before it: a paid payment that waits for its activation
only meets statuses that confirm it, and is not blocked. -/
def Step.orderly (hashing : Hashing) (db : Database) : Step → Bool
  | .applyVerifiedBillingEvent draws input => input.orderly draws db
  | .applyStatus _ claim status processedAt =>
    !claim.leased db || !claim.waiting db || status.state = .PENDING ||
      (status.state = .SUCCEEDED && status.agrees claim processedAt &&
        (db.findEvent claim.provider (reconciliationEventIdentity hashing claim status)).isNone)
  | .blockUnsupported claim _ => !claim.leased db || !claim.waiting db
  | _ => true

/-- Every step of the run meets the condition where it starts. -/
def orderlyFrom (hashing : Hashing) : World → List Step → Bool
  | _, [] => true
  | world, step :: rest =>
    step.orderly hashing world.db && orderlyFrom hashing (step.next hashing world) rest

/-! The invariant of orderly runs. -/

/-- The events and jobs of an orderly run. -/
structure Scheduling (db : Database) : Prop where
  ended : ∀ event ∈ db.events, event.processingState ≠ .VERIFIED
  references : ∀ event ∈ db.events, ∀ id ∈ event.paymentId, ∃ payment ∈ db.payments, payment.id = id
  paid : ∀ payment ∈ db.payments, db.paid payment.id = true → payment.state = .SUCCEEDED
  waiting : ∀ payment ∈ db.payments, payment.waiting = true → db.scheduled payment.id = true

/-- The invariant while an event is claimed, for all payments but the one it is about. -/
structure InProgress (db : Database) (eventId : String) (paymentId : Option String)
    (source : BillingEventSource) (eventType : BillingEventType) : Prop where
  claimed : ∀ event ∈ db.events, event.id = eventId → event.source = source ∧
    event.eventType = eventType
  ended : ∀ event ∈ db.events, event.id ≠ eventId → event.processingState ≠ .VERIFIED
  references : ∀ event ∈ db.events, ∀ id ∈ event.paymentId, ∃ payment ∈ db.payments, payment.id = id
  paid : ∀ payment ∈ db.payments, some payment.id ≠ paymentId → db.paid payment.id = true →
    payment.state = .SUCCEEDED
  waiting : ∀ payment ∈ db.payments, some payment.id ≠ paymentId → payment.waiting = true →
    db.scheduled payment.id = true

theorem Scheduling.staysScheduled {db : Database} (h : Scheduling db) : StaysScheduled db := by
  intro payment hpayment _ hpaid hunlinked
  have hwaiting : payment.waiting = true := by
    simp [Payment.waiting, h.paid payment hpayment hpaid, hunlinked]
  have hscheduled := h.waiting payment hpayment hwaiting
  simp only [Database.scheduled, List.any_eq_true, Bool.and_eq_true, decide_eq_true_eq,
    BillingReconciliationJob.isOpen, Bool.or_eq_true] at hscheduled
  exact hscheduled

/-- Where a payment stands, in every row of its id. -/
structure Database.StandsAt (db : Database) (paymentId : String) (state : PaymentState)
    (subscriptionId : Option String) : Prop where
  exists_row : ∃ payment ∈ db.payments, payment.id = paymentId
  row : ∀ payment ∈ db.payments, payment.id = paymentId →
    payment.state = state ∧ payment.subscriptionId = subscriptionId

variable {db : Database}

variable {event : BillingEvent} {source : BillingEventSource} {eventType : BillingEventType}
  {status : BillingPaymentStatus} {claim : BillingReconciliationClaim} {checkout : CheckoutIntent}
  {db' : Database} {processedAt : Date} {draws : Draws} {refs : EventRefs} {hashing : Hashing}
  {subscriptionId : Option String} {payment : Payment} {pstate : PaymentState}
  {state : ProcessingState} {eventId paymentId : String} {world : World}

theorem Database.StandsAt.updatePayment {state : PaymentState}
    (h : db.StandsAt paymentId state subscriptionId) (set : Payment → Payment)
    (state' : PaymentState) (subscriptionId' : Option String)
    (hset : ∀ row, row.state = state → row.subscriptionId = subscriptionId →
      (set row).id = row.id ∧ (set row).state = state' ∧ (set row).subscriptionId = subscriptionId') :
    Database.StandsAt { db with payments := updateWhere (·.id = paymentId) set db.payments }
      paymentId state' subscriptionId' where
  exists_row := by
    obtain ⟨payment, hpayment, hid⟩ := h.exists_row
    obtain ⟨hstate, hlink⟩ := h.row payment hpayment hid
    refine ⟨set payment, mem_updateWhere.mpr (.inr ⟨payment, hpayment, by simpa using hid, rfl⟩), ?_⟩
    exact ((hset payment hstate hlink).1).trans hid
  row := by
    intro payment hpayment hid
    rcases mem_updateWhere.mp hpayment with ⟨-, hother⟩ | ⟨old, hold, hmatch, rfl⟩
    · simp [hid] at hother
    · obtain ⟨hstate, hlink⟩ := h.row old hold (by simpa using hmatch)
      exact (hset old hstate hlink).2

/-- An update of jobs that leaves a payment's jobs open keeps the payment scheduled. -/
theorem scheduled_updateWhere {where' : BillingReconciliationJob → Bool}
    {set : BillingReconciliationJob → BillingReconciliationJob}
    (hid : ∀ job, (set job).paymentId = job.paymentId)
    (hopen : ∀ job, where' job = true → job.paymentId = paymentId → (set job).isOpen = true)
    (h : db.scheduled paymentId = true) :
    Database.scheduled { db with jobs := updateWhere where' set db.jobs } paymentId = true := by
  simp only [Database.scheduled, List.any_eq_true, Bool.and_eq_true, decide_eq_true_eq] at h ⊢
  obtain ⟨job, hjob, hpayment, hjobOpen⟩ := h
  by_cases hwhere : where' job = true
  · refine ⟨set job, mem_updateWhere.mpr (.inr ⟨job, hjob, hwhere, rfl⟩), ?_⟩
    exact ⟨(hid job).trans hpayment, hopen job hwhere hpayment⟩
  · exact ⟨job, mem_updateWhere.mpr (.inl ⟨hjob, by simpa using hwhere⟩), hpayment, hjobOpen⟩

/-- A change of the jobs that keeps every waiting payment scheduled. -/
theorem Scheduling.jobs (h : Scheduling db) {jobs : List BillingReconciliationJob}
    (hjobs : ∀ payment ∈ db.payments, payment.waiting = true → db.scheduled payment.id = true →
      Database.scheduled { db with jobs := jobs } payment.id = true) :
    Scheduling { db with jobs := jobs } where
  ended := h.ended
  references := h.references
  paid := h.paid
  waiting := fun payment hpayment hwaiting =>
    hjobs payment hpayment hwaiting (h.waiting payment hpayment hwaiting)

/-- The invariant is about the payments, the events and the jobs. -/
theorem Scheduling.of_ledger (h : Scheduling db) (hpayments : db'.payments = db.payments)
    (hevents : db'.events = db.events) (hjobs : db'.jobs = db.jobs) : Scheduling db' where
  ended := hevents ▸ h.ended
  references := by
    rw [hevents, hpayments]
    exact h.references
  paid := by
    unfold Database.paid
    rw [hevents, hpayments]
    exact h.paid
  waiting := by
    unfold Database.scheduled
    rw [hjobs, hpayments]
    exact h.waiting

/-- A claimed event opens the processing of any payment. -/
theorem Scheduling.claimed (h : Scheduling db) (paymentId : Option String)
    (hstate : event.processingState = .VERIFIED) (hpayment : event.paymentId = none)
    (hid : Fresh (fun r => some r.id) event db.events) :
    InProgress { db with events := db.events ++ [event] } event.id paymentId event.source
      event.eventType := by
  have hother : ∀ other ∈ db.events, other.id ≠ event.id := by
    intro other hmem
    simpa using hid other hmem
  have hpaid : ∀ id, Database.paid { db with events := db.events ++ [event] } id = db.paid id := by
    intro id
    simp [Database.paid, BillingEvent.confirms, hstate]
  refine ⟨fun other hmem heq => ?_, fun other hmem hne => ?_, fun other hmem id hid' => ?_, ?_, ?_⟩
  · rcases List.mem_append.mp hmem with hmem | hmem
    · exact absurd heq (hother other hmem)
    · rw [List.mem_singleton.mp hmem]
      exact ⟨rfl, rfl⟩
  · rcases List.mem_append.mp hmem with hmem | hmem
    · exact h.ended other hmem
    · exact absurd (congrArg BillingEvent.id (List.mem_singleton.mp hmem)) hne
  · rcases List.mem_append.mp hmem with hmem | hmem
    · exact h.references other hmem id hid'
    · rw [List.mem_singleton.mp hmem, hpayment] at hid'
      cases hid'
  · intro payment hmem _ hpaid'
    exact h.paid payment hmem (by rw [← hpaid]; exact hpaid')
  · exact fun payment hmem _ hwaiting => h.waiting payment hmem hwaiting

/-- The rows of the events once the claimed one has ended. -/
theorem mem_ended
    (hevent : event ∈ updateWhere (·.id = eventId) (fun row => row.ended state processedAt refs)
      db.events) : (event ∈ db.events ∧ event.id ≠ eventId) ∨
      ∃ old ∈ db.events, old.id = eventId ∧ event = old.ended state processedAt refs := by
  rcases mem_updateWhere.mp hevent with ⟨hold, hne⟩ | ⟨old, hold, heq, hended⟩
  · exact .inl ⟨hold, by simpa using hne⟩
  · exact .inr ⟨old, hold, by simpa using heq, hended.symm⟩

/-- The end of the claimed event: what is left to show is about its own payment. -/
theorem InProgress.ends (h : InProgress db eventId (some paymentId) source eventType)
    (hpayment : db.StandsAt paymentId pstate subscriptionId) {jobs : List BillingReconciliationJob}
    (hrefs : refs.paymentId = some paymentId) (hstate : state ≠ .VERIFIED)
    (hpaid : db.paid paymentId = true ∨ (source = .WEBHOOK ∧ eventType = .succeeded ∧
        refs.failureCode ≠ some .PAYMENT_TERMS_MISMATCH ∧
        refs.failureCode ≠ some .EVENT_TIME_INVALID) → pstate = .SUCCEEDED)
    (hothers : ∀ id, id ≠ paymentId → db.scheduled id = true →
      Database.scheduled { db with jobs := jobs } id = true)
    (hwaiting : pstate = .SUCCEEDED → subscriptionId = none →
      Database.scheduled { db with jobs := jobs } paymentId = true) :
    Scheduling { db with
      events := updateWhere (·.id = eventId) (fun row => row.ended state processedAt refs) db.events
      jobs := jobs } := by
  refine ⟨fun event hevent => ?_, fun event hevent id hid => ?_, fun payment hrow hpaid' => ?_,
    fun payment hrow hwaiting' => ?_⟩
  · rcases mem_ended hevent with ⟨hold, hne⟩ | ⟨old, -, -, rfl⟩
    · exact h.ended event hold hne
    · exact hstate
  · rcases mem_ended hevent with ⟨hold, -⟩ | ⟨old, -, -, rfl⟩
    · exact h.references event hold id hid
    · have hsame : paymentId = id := by
        simpa [BillingEvent.ended, hrefs] using hid
      rw [← hsame]
      exact hpayment.exists_row
  · simp only [Database.paid, List.any_eq_true] at hpaid'
    obtain ⟨event, hevent, hconfirms⟩ := hpaid'
    rcases mem_ended hevent with ⟨hold, -⟩ | ⟨old, hold, heq, rfl⟩
    · have hbefore : db.paid payment.id = true := List.any_eq_true.mpr ⟨event, hold, hconfirms⟩
      by_cases hid : payment.id = paymentId
      · rw [(hpayment.row payment hrow hid).1]
        exact hpaid (.inl (hid ▸ hbefore))
      · exact h.paid payment hrow (by simpa using hid) hbefore
    · obtain ⟨hsource, htype⟩ := h.claimed old hold heq
      simp only [BillingEvent.confirms, BillingEvent.ended, hrefs, hsource, htype,
        Bool.and_eq_true, decide_eq_true_eq, Option.some.injEq] at hconfirms
      obtain ⟨⟨⟨⟨⟨hwebhook, hsucceeded⟩, -⟩, hid⟩, hterms⟩, htime⟩ := hconfirms
      rw [(hpayment.row payment hrow hid.symm).1]
      exact hpaid (.inr ⟨hwebhook, hsucceeded, hterms, htime⟩)
  · by_cases hid : payment.id = paymentId
    · obtain ⟨hstate', hlink⟩ := hpayment.row payment hrow hid
      simp only [Payment.waiting, hstate', hlink, Bool.and_eq_true, decide_eq_true_eq] at hwaiting'
      rw [hid]
      exact hwaiting hwaiting'.1 hwaiting'.2
    · exact hothers payment.id hid (h.waiting payment hrow (by simpa using hid) hwaiting')

/-- The end of a claimed event that is about no payment. -/
theorem InProgress.ends_unpaid (h : InProgress db eventId none source eventType)
    (hrefs : refs.paymentId = none) (hstate : state ≠ .VERIFIED) :
    Scheduling { db with
      events := updateWhere (·.id = eventId) (fun row => row.ended state processedAt refs)
        db.events } := by
  refine ⟨fun event hevent => ?_, fun event hevent id hid => ?_, fun payment hrow hpaid => ?_,
    fun payment hrow hwaiting => h.waiting payment hrow (by simp) hwaiting⟩
  · rcases mem_ended hevent with ⟨hold, hne⟩ | ⟨old, -, -, rfl⟩
    · exact h.ended event hold hne
    · exact hstate
  · rcases mem_ended hevent with ⟨hold, -⟩ | ⟨old, -, -, rfl⟩
    · exact h.references event hold id hid
    · simp [BillingEvent.ended, hrefs] at hid
  · simp only [Database.paid, List.any_eq_true] at hpaid
    obtain ⟨event, hevent, hconfirms⟩ := hpaid
    rcases mem_ended hevent with ⟨hold, -⟩ | ⟨old, -, -, rfl⟩
    · exact h.paid payment hrow (by simp) (List.any_eq_true.mpr ⟨event, hold, hconfirms⟩)
    · simp [BillingEvent.confirms, BillingEvent.ended, hrefs] at hconfirms

section

variable (h : InProgress db eventId (some paymentId) source eventType)
include h

/-- The processing goes on while the events, the jobs and the other payments stay. -/
theorem InProgress.of_ledger (hevents : db'.events = db.events) (hjobs : db'.jobs = db.jobs)
    (hids : ∀ payment ∈ db.payments, ∃ payment' ∈ db'.payments, payment'.id = payment.id)
    (hothers : ∀ payment ∈ db'.payments, some payment.id ≠ some paymentId →
      payment ∈ db.payments) :
    InProgress db' eventId (some paymentId) source eventType := by
  refine ⟨hevents ▸ h.claimed, hevents ▸ h.ended, fun event hevent id hid => ?_, ?_, ?_⟩
  · rw [hevents] at hevent
    obtain ⟨payment, hpayment, hpaymentId⟩ := h.references event hevent id hid
    obtain ⟨payment', hpayment', hsame⟩ := hids payment hpayment
    exact ⟨payment', hpayment', hsame.trans hpaymentId⟩
  · intro payment hpayment hid hpaid
    refine h.paid payment (hothers payment hpayment hid) hid ?_
    simpa only [Database.paid, hevents] using hpaid
  · intro payment hpayment hid hwaiting
    have hscheduled := h.waiting payment (hothers payment hpayment hid) hid hwaiting
    simpa only [Database.scheduled, hjobs] using hscheduled

theorem InProgress.of_same (hpayments : db'.payments = db.payments)
    (hevents : db'.events = db.events) (hjobs : db'.jobs = db.jobs) :
    InProgress db' eventId (some paymentId) source eventType :=
  h.of_ledger hevents hjobs (fun payment hpayment => ⟨payment, hpayments ▸ hpayment, rfl⟩)
    fun _ hpayment _ => hpayments ▸ hpayment

theorem InProgress.updatePayment (set : Payment → Payment) (hset : ∀ row, (set row).id = row.id) :
    InProgress { db with payments := updateWhere (·.id = paymentId) set db.payments } eventId
      (some paymentId) source eventType := by
  refine h.of_ledger rfl rfl (fun payment hpayment => ?_) fun payment hpayment hid => ?_
  · by_cases hmatch : payment.id = paymentId
    · exact ⟨set payment, mem_updateWhere.mpr (.inr ⟨payment, hpayment, by simpa, rfl⟩), hset payment⟩
    · exact ⟨payment, mem_updateWhere.mpr (.inl ⟨hpayment, by simpa⟩), rfl⟩
  · rcases mem_updateWhere.mp hpayment with ⟨hold, -⟩ | ⟨old, -, hmatch, rfl⟩
    · exact hold
    · rw [hset old] at hid
      exact absurd (congrArg some (of_decide_eq_true hmatch)) hid

end

theorem Database.StandsAt.of_same {state : PaymentState}
    (h : db.StandsAt paymentId state subscriptionId) (hpayments : db'.payments = db.payments) :
    db'.StandsAt paymentId state subscriptionId where
  exists_row := hpayments ▸ h.exists_row
  row := hpayments ▸ h.row

/-! The two ends of an event. -/

theorem afterEvent_isOpen {timestamp : Date} {failureCode : Option BillingEventFailureCode}
    (hcode : failureCode.any BillingEventFailureCode.retryable = true)
    (job : BillingReconciliationJob) : (job.afterEvent timestamp .FAILED failureCode).isOpen = true := by
  simp [BillingReconciliationJob.afterEvent, hcode, BillingReconciliationJob.isOpen]

theorem terminalize_schedules (h : InProgress db eventId (some paymentId) .WEBHOOK eventType)
    (hpayment : db.StandsAt paymentId pstate subscriptionId)
    (hrefs : refs.paymentId = some paymentId) (hstate : state ≠ .VERIFIED)
    (hpaid : db.paid paymentId = true ∨ (eventType = .succeeded ∧
        refs.failureCode ≠ some .PAYMENT_TERMS_MISMATCH ∧
        refs.failureCode ≠ some .EVENT_TIME_INVALID) → pstate = .SUCCEEDED)
    (hwaiting : pstate = .SUCCEEDED → subscriptionId = none →
      state = .FAILED ∧ refs.failureCode.any BillingEventFailureCode.retryable = true ∧
        db.scheduled paymentId = true) :
    Commits (do
      let ended ← terminalize draws eventId state processedAt refs
      return resultFromTerminal ended false) db fun _ db' => Scheduling db' := by
  unfold terminalize
  simp only [commits_bind]
  refine (updateBillingEvent_commits db eventId _).mono ?_
  rintro updated _ (⟨rfl, -⟩ | ⟨row, -, -, rfl, rfl⟩)
  · exact commits_throw
  simp only [hrefs, commits_bind]
  refine (updateReconciliationJobs_commits _ _ _).mono ?_
  rintro _ _ ⟨-, rfl⟩
  simp only [commits_pure]
  refine h.ends hpayment hrefs hstate ?_ (fun id hne hscheduled => ?_) fun hsucceeded hlink => ?_
  · rintro (hbefore | ⟨-, hevent⟩)
    · exact hpaid (.inl hbefore)
    · exact hpaid (.inr hevent)
  · refine scheduled_updateWhere (afterEvent_paymentId _ _ _) (fun job hjob hid => ?_) hscheduled
    simp only [decide_eq_true_eq] at hjob
    exact absurd (hid.symm.trans hjob.1) hne
  · obtain ⟨rfl, hcode, hscheduled⟩ := hwaiting hsucceeded hlink
    exact scheduled_updateWhere (afterEvent_paymentId _ _ _)
      (fun job _ _ => afterEvent_isOpen hcode job) hscheduled

/-- The end of an event on an unknown payment. -/
theorem terminalize_schedules_unpaid (h : InProgress db eventId none source eventType)
    (hrefs : refs.paymentId = none) (hstate : state ≠ .VERIFIED) :
    Commits (do
      let ended ← terminalize draws eventId state processedAt refs
      return resultFromTerminal ended false) db fun _ db' => Scheduling db' := by
  unfold terminalize
  simp only [commits_bind]
  refine (updateBillingEvent_commits db eventId _).mono ?_
  rintro updated _ (⟨rfl, -⟩ | ⟨row, -, -, rfl, rfl⟩)
  · exact commits_throw
  · simp only [hrefs, commits_pure]
    exact h.ends_unpaid hrefs hstate

/-- What a finished job leaves scheduled: all other payments, and its own when put back. -/
theorem finishJob_scheduled (paymentId leaseToken : String) (state : BillingReconciliationJobState)
    (nextAttemptAt : Option Date) :
    Commits (finishJob paymentId leaseToken state nextAttemptAt) db fun _ db' =>
      ∃ jobs, db' = { db with jobs := jobs } ∧
        ∀ id, (id = paymentId → state = .READY) → db.scheduled id = true →
          Database.scheduled { db with jobs := jobs } id = true := by
  refine (updateReconciliationJobs_commits db _ _).mono ?_
  rintro _ _ ⟨-, rfl⟩
  refine ⟨_, rfl, fun id hstate h => ?_⟩
  refine scheduled_updateWhere (fun _ => rfl) (fun job hjob hid => ?_) h
  simp only [decide_eq_true_eq] at hjob
  simp [BillingReconciliationJob.isOpen, hstate (hid.symm.trans hjob.1)]

/-- A job is finished for a payment that does not wait, or it is put back. -/
theorem finishJob_schedules (h : Scheduling db) {leaseToken : String}
    {state : BillingReconciliationJobState} {nextAttemptAt : Option Date}
    (hstate : ∀ payment ∈ db.payments, payment.waiting = true → payment.id = paymentId →
      state = .READY) :
    Commits (finishJob paymentId leaseToken state nextAttemptAt) db fun _ db' => Scheduling db' := by
  refine (finishJob_scheduled paymentId leaseToken state nextAttemptAt).mono ?_
  rintro _ _ ⟨jobs, rfl, hscheduled⟩
  exact h.jobs fun payment hpayment hwaiting => hscheduled payment.id (hstate payment hpayment hwaiting)

theorem settle_schedules
    (h : InProgress db eventId (some claim.paymentId) .RECONCILIATION eventType)
    (hpayment : db.StandsAt claim.paymentId pstate subscriptionId)
    {job : BillingReconciliationJobState} {nextAttemptAt : Option Date} (hstate : state ≠ .VERIFIED)
    (hpaid : db.paid claim.paymentId = true → pstate = .SUCCEEDED)
    (hwaiting : pstate = .SUCCEEDED → subscriptionId = none →
      job = .READY ∧ db.scheduled claim.paymentId = true) :
    Commits (settle claim eventId state processedAt refs job nextAttemptAt) db fun _ db' =>
      Scheduling db' := by
  unfold settle
  rw [commits_bind]
  refine (updateBillingEvent_commits db eventId _).mono ?_
  rintro updated _ (⟨rfl, -⟩ | ⟨row, -, -, rfl, rfl⟩)
  · exact commits_throw
  simp only [commits_bind]
  refine (finishJob_scheduled _ _ _ _).mono ?_
  rintro _ _ ⟨jobs, rfl, hscheduled⟩
  simp only [commits_pure]
  refine h.ends hpayment ?_ hstate ?_ (fun id hne => ?_) fun hsucceeded hlink => ?_
  · rfl
  · rintro (hbefore | ⟨hsource, -⟩)
    · exact hpaid hbefore
    · cases hsource
  · exact hscheduled id fun hid => absurd hid hne
  · obtain ⟨hready, hbefore⟩ := hwaiting hsucceeded hlink
    exact hscheduled _ (fun _ => hready) hbefore

/-! The webhook. -/

theorem failEvent_schedules (h : InProgress db eventId (some payment.id) .WEBHOOK eventType)
    (hpayment : db.StandsAt payment.id pstate subscriptionId) {code : BillingEventFailureCode}
    (hpaid : db.paid payment.id = true ∨ (eventType = .succeeded ∧
        code ≠ .PAYMENT_TERMS_MISMATCH ∧ code ≠ .EVENT_TIME_INVALID) → pstate = .SUCCEEDED)
    (hwaiting : pstate = .SUCCEEDED → subscriptionId = none →
      code.retryable = true ∧ db.scheduled payment.id = true) :
    Commits (failEvent draws eventId processedAt payment code) db fun _ db' => Scheduling db' := by
  refine terminalize_schedules h hpayment rfl (by simp) ?_ ?_
  · simpa using hpaid
  · simpa using hwaiting

theorem applyToTerminalPayment_schedules
    (h : InProgress db eventId (some payment.id) .WEBHOOK eventType)
    (hpayment : db.StandsAt payment.id payment.state payment.subscriptionId)
    (hpaid : db.paid payment.id = true ∨ eventType = .succeeded → payment.state = .SUCCEEDED)
    (hwaiting : payment.waiting = true → db.scheduled payment.id = true) :
    Commits (applyToTerminalPayment draws eventId eventType.eventState payment) db fun _ db' =>
      Scheduling db' := by
  have hwait : payment.state = .SUCCEEDED → payment.subscriptionId = none →
      db.scheduled payment.id = true := by
    intro hstate hlink
    exact hwaiting (by simp [Payment.waiting, hstate, hlink])
  unfold applyToTerminalPayment
  simp only []
  split
  · next hsame =>
    have hunpaid : payment.state ≠ .SUCCEEDED := by
      rw [hsame.1]
      exact hsame.2
    refine terminalize_schedules h hpayment rfl (by simp) ?_ fun hstate => absurd hstate hunpaid
    rintro (hbefore | ⟨htype, -⟩)
    · exact hpaid (.inl hbefore)
    · exact hpaid (.inr htype)
  have hpaid' : ∀ code : BillingEventFailureCode, db.paid payment.id = true ∨
      (eventType = .succeeded ∧ code ≠ .PAYMENT_TERMS_MISMATCH ∧ code ≠ .EVENT_TIME_INVALID) →
      payment.state = .SUCCEEDED := by
    rintro code (hbefore | ⟨htype, -⟩)
    · exact hpaid (.inl hbefore)
    · exact hpaid (.inr htype)
  split
  · next hsucceeded =>
    split
    · exact failEvent_schedules h hpayment (hpaid' _) fun hstate hlink => ⟨rfl, hwait hstate hlink⟩
    · next subscriptionId hlinked =>
      rw [commits_bind, commits_get]
      split
      · refine terminalize_schedules h hpayment rfl (by simp) (fun _ => hsucceeded.1) fun _ hlink => ?_
        simp [hlinked] at hlink
      · exact failEvent_schedules h hpayment (hpaid' _) fun hstate hlink => ⟨rfl, hwait hstate hlink⟩
  · exact failEvent_schedules h hpayment (hpaid' _) fun hstate hlink => ⟨rfl, hwait hstate hlink⟩

theorem Database.StandsAt.find? {state : PaymentState}
    (h : db.StandsAt paymentId state subscriptionId) :
    ∃ payment, db.payments.find? (·.id = paymentId) = some payment ∧ payment.state = state ∧
      payment.subscriptionId = subscriptionId := by
  obtain ⟨row, hrow, hid⟩ := h.exists_row
  cases hfind : db.payments.find? (·.id = paymentId) with
  | none => exact absurd (List.find?_eq_none.mp hfind row hrow) (by simp [hid])
  | some payment =>
    have hmatch : payment.id = paymentId := by simpa using List.find?_some hfind
    exact ⟨payment, rfl, h.row payment (List.mem_of_find?_eq_some hfind) hmatch⟩

theorem activateFromEvent_schedules {event : VerifiedBillingEvent}
    (h : InProgress db eventId (some payment.id) .WEBHOOK eventType)
    (hpayment : db.StandsAt payment.id .SUCCEEDED none) :
    Commits (activateFromEvent draws eventId event payment checkout) db fun _ db' =>
      Scheduling db' := by
  unfold activateFromEvent
  simp only []
  split
  · exact commits_throw
  rw [commits_bind]
  refine (insertActivated_commits _ _).mono ?_
  rintro _ _ ⟨-, -, transitions, rfl⟩
  obtain ⟨row, hfind, -, hunlinked⟩ := hpayment.find?
  rw [commits_bind]
  refine linkPayment_commits hfind hunlinked ?_
  refine (updatePayment_commits _ payment.id _).mono ?_
  rintro _ _ (⟨hnone, -, -⟩ | ⟨-, -, -, -, rfl⟩)
  · simp [hfind] at hnone
  rw [commits_bind]
  refine (materializeActivated_keeps draws payment.accountId _).mono fun _ db₂ hlifecycle => ?_
  have hlinked := hpayment.updatePayment (Payment.linkedTo (draws.uuid 2) (draws.now 2)) .SUCCEEDED
    (some (draws.uuid 2)) fun _ hstate _ => ⟨rfl, hstate, rfl⟩
  have hprogress := h.updatePayment (Payment.linkedTo (draws.uuid 2) (draws.now 2)) fun _ => rfl
  refine terminalize_schedules (hprogress.of_same hlifecycle.2.payments hlifecycle.2.events
    hlifecycle.2.jobs) (hlinked.of_same hlifecycle.2.payments) rfl (by simp) (fun _ => rfl) ?_
  simp

theorem applySuccess_schedules {event : VerifiedBillingEvent}
    (h : InProgress db eventId (some payment.id) .WEBHOOK eventType)
    (hpayment : db.StandsAt payment.id .PENDING none)
    (hcheckout : ∃ checkout, db.findCheckout payment.id = some checkout ∧
      checkout.coherent payment event = true) (hway : db.scheduled payment.id = true ∨
      hasCurrentSubscriptionAt db payment.accountId (draws.now 1) = false) :
    Commits (applySuccess draws eventId event payment) db fun _ db' => Scheduling db' := by
  have hsucceeded := hpayment.updatePayment (Payment.succeeded event.occurredAt (draws.now 0))
    .SUCCEEDED none fun _ _ hlink => ⟨rfl, rfl, hlink⟩
  have hprogress := h.updatePayment (Payment.succeeded event.occurredAt (draws.now 0)) fun _ => rfl
  obtain ⟨row, hfind, -, -⟩ := hpayment.find?
  obtain ⟨checkout, hfound, hcoherent⟩ := hcheckout
  unfold applySuccess
  rw [commits_bind]
  refine (updatePayment_commits db payment.id _).mono ?_
  rintro _ db₁ (⟨hnone, -, -⟩ | ⟨-, -, -, -, rfl⟩)
  · simp [hfind] at hnone
  rw [commits_bind, commits_get]
  simp only [Database.findCheckout] at hfound ⊢
  simp only [hfound, hcoherent, Bool.not_true, Bool.false_eq_true, if_false]
  rw [commits_bind]
  refine ((materialize_grows _ _ _ _).and (materializeDueCurrentSubscriptionLocked_commits _ _ _ _)).mono ?_
  rintro current db₂ ⟨⟨-, hsame⟩, hnone, -⟩
  have hprogress₂ := hprogress.of_same hsame.payments hsame.events hsame.jobs
  have hsucceeded₂ := hsucceeded.of_same hsame.payments
  have hscheduled : current ≠ .NONE → db₂.scheduled payment.id = true := by
    intro hcurrent
    rcases hway with hway | hway
    · simpa only [Database.scheduled, hsame.jobs] using hway
    · exact absurd (hnone.mpr hway) hcurrent
  cases current with
  | NONE => exact activateFromEvent_schedules hprogress₂ hsucceeded₂
  | CORRUPTED id =>
    exact failEvent_schedules hprogress₂ hsucceeded₂ (fun _ => rfl) fun _ _ =>
      ⟨rfl, hscheduled (by simp)⟩
  | CURRENT id state =>
    exact failEvent_schedules hprogress₂ hsucceeded₂ (fun _ => rfl) fun _ _ =>
      ⟨rfl, hscheduled (by simp)⟩

/-- What is known of the payment of an event or a status before its processing. -/
structure Ordered (db : Database) (payment : Payment) : Prop where
  stands : db.StandsAt payment.id payment.state payment.subscriptionId
  linked : payment.subscriptionId ≠ none → payment.state = .SUCCEEDED
  paid : db.paid payment.id = true → payment.state = .SUCCEEDED
  waiting : payment.waiting = true → db.scheduled payment.id = true

theorem Ordered.waits (h : Ordered db payment) (hstate : payment.state = .SUCCEEDED)
    (hlink : payment.subscriptionId = none) :
    db.scheduled payment.id = true := h.waiting (by simp [Payment.waiting, hstate, hlink])

theorem Ordered.unlinked (h : Ordered db payment) (hstate : payment.state ≠ .SUCCEEDED) :
    payment.subscriptionId = none := by
  by_contra hlink
  exact hstate (h.linked hlink)

theorem applyToPayment_schedules {event : VerifiedBillingEvent}
    (h : InProgress db eventId (some payment.id) .WEBHOOK event.eventType)
    (hpayment : Ordered db payment)
    (hcheckout : ∃ checkout, db.findCheckout payment.id = some checkout ∧
      checkout.coherent payment event = true)
    (horderly : event.eventType = .succeeded → payment.state = .SUCCEEDED ∨
      payment.state = .PENDING ∧ (db.scheduled payment.id = true ∨
        hasCurrentSubscriptionAt db payment.accountId (draws.now 1) = false)) :
    Commits (applyToPayment draws eventId event payment) db fun _ db' => Scheduling db' := by
  unfold applyToPayment
  simp only []
  split
  · next hterminal =>
    refine applyToTerminalPayment_schedules h hpayment.stands ?_ hpayment.waiting
    rintro (hbefore | htype)
    · exact hpayment.paid hbefore
    · exact (horderly htype).resolve_right fun hpending => hterminal hpending.1
  next hpending =>
  rw [ne_eq, not_not] at hpending
  have hunlinked : payment.subscriptionId = none := hpayment.unlinked (by simp [hpending])
  have hstands := hpayment.stands
  rw [hpending, hunlinked] at hstands
  obtain ⟨row, hfind, -⟩ := hstands.find?
  split
  · next hdesired =>
    rw [commits_bind]
    refine (updatePayment_commits db payment.id _).mono ?_
    rintro _ _ (⟨hnone, -, -⟩ | ⟨_, -, rfl, -, rfl⟩)
    · simp [hfind] at hnone
    have hmoved := hstands.updatePayment (Payment.moved event.eventType.eventState (draws.now 0))
      event.eventType.eventState none fun _ _ hlink => ⟨rfl, rfl, hlink⟩
    have hprogress := h.updatePayment (Payment.moved event.eventType.eventState (draws.now 0))
      fun _ => rfl
    refine terminalize_schedules hprogress hmoved rfl (by simp) ?_ fun hstate => absurd hstate hdesired
    rintro (hbefore | ⟨htype, -⟩)
    · have hstate := hpayment.paid hbefore
      rw [hpending] at hstate
      cases hstate
    · rw [htype]
      rfl
  · next hdesired =>
    have htype : event.eventType = .succeeded := by
      cases hevent : event.eventType <;> simp_all [BillingEventType.eventState]
    refine applySuccess_schedules h hstands hcheckout ?_
    rcases horderly htype with hstate | ⟨-, hway⟩
    · rw [hpending] at hstate
      cases hstate
    · exact hway

/-- The checkout that a payment's lookup finds is the one it was made for. -/
theorem findCheckout_carries (hintegrity : db.Integrity) (hpayment : payment ∈ db.payments) :
    ∃ checkout, db.findCheckout payment.id = some checkout ∧ checkout.Carries payment := by
  obtain ⟨intent, hintent, hcarries⟩ := hintegrity.checkout payment hpayment
  refine ⟨intent, ?_, hcarries⟩
  have hkey : ∀ row ∈ db.intents, decide (row.paymentId = some payment.id) = true →
      row.paymentId = some payment.id := by simp
  exact hintegrity.intentPayment.find_eq_some hkey hintent (by simp [hcarries.paymentId])

theorem Database.Integrity.standsAt (hintegrity : db.Integrity) (hpayment : payment ∈ db.payments) :
    db.StandsAt payment.id payment.state payment.subscriptionId where
  exists_row := ⟨payment, hpayment, rfl⟩
  row := by
    intro other hother hid
    rw [hintegrity.paymentId.eq_of_key hother hpayment rfl (congrArg some hid.symm)]
    exact ⟨rfl, rfl⟩

/-- Between two transactions every payment is in order. -/
theorem Scheduling.ordered (h : Scheduling db) (hintegrity : db.Integrity)
    (hpayment : payment ∈ db.payments) : Ordered db payment :=
  ⟨hintegrity.standsAt hpayment, hintegrity.linkState payment hpayment, h.paid payment hpayment,
    h.waiting payment hpayment⟩

/-- An event that is only claimed changes nothing for the payments. -/
theorem Ordered.claimed (h : Ordered db payment) (hstate : event.processingState = .VERIFIED) :
    Ordered { db with events := db.events ++ [event] } payment := by
  refine ⟨h.stands.of_same rfl, h.linked, fun hpaid => h.paid ?_, h.waiting⟩
  simpa [Database.paid, BillingEvent.confirms, hstate] using hpaid

theorem applyClaimed_schedules (h : Scheduling db) (hintegrity : db.Integrity)
    {input : BillingEventInput} {id : String}
    (hfresh : Fresh (fun r => some r.id) (input.claim id) db.events)
    (hunseen : db.findEvent input.event.provider input.event.eventIdentity = none)
    (horderly : input.orderly draws db = true) :
    Commits (applyClaimed draws input id) { db with events := db.events ++ [input.claim id] }
      fun _ db' => Scheduling db' := by
  have hclaimed (paymentId : Option String) := h.claimed paymentId rfl rfl hfresh
  unfold applyClaimed
  simp only []
  rw [commits_bind, commits_get]
  have hlookup : Database.findPayment { db with events := db.events ++ [input.claim id] }
      input.event = db.findPayment input.event := rfl
  rw [hlookup]
  split
  · exact terminalize_schedules_unpaid (hclaimed none) rfl (by simp)
  next payment hfound =>
  have hpayment : payment ∈ db.payments := List.mem_of_find?_eq_some hfound
  have hmatch := List.find?_some hfound
  simp only [Bool.decide_and, Bool.and_eq_true, decide_eq_true_eq] at hmatch
  have hordered : Ordered { db with events := db.events ++ [input.claim id] } payment :=
    (h.ordered hintegrity hpayment).claimed rfl
  have hlegal : payment.subscriptionId.isSome = true ∨
      (if input.agrees payment then
        input.event.eventType ≠ .succeeded || payment.state = .SUCCEEDED ||
          (payment.state = .PENDING && (db.scheduled payment.id ||
            !hasCurrentSubscriptionAt db payment.accountId (draws.now 1)))
      else payment.state ≠ .SUCCEEDED) = true := by
    simpa [BillingEventInput.orderly, hunseen, hfound] using horderly
  -- A disagreement blocks the job, and does not find the payment waiting.
  have hdisagrees (hno : input.agrees payment = false) : payment.state = .SUCCEEDED →
      payment.subscriptionId ≠ none := by
    intro hstate hlink
    rcases hlegal with hlinked | hlegal
    · simp [hlink] at hlinked
    · simp [hno, hstate] at hlegal
  split
  · next hterms =>
    refine failEvent_schedules (hclaimed (some payment.id)) hordered.stands ?_ fun hstate hlink => ?_
    · rintro (hbefore | ⟨-, hne, -⟩)
      · exact hordered.paid hbefore
      · exact absurd rfl hne
    · refine absurd hlink (hdisagrees ?_ hstate)
      rcases hterms with hamount | hcurrency
      · simp [BillingEventInput.agrees, hamount]
      · simp [BillingEventInput.agrees, hcurrency]
  next hterms =>
  split
  · next htime =>
    refine failEvent_schedules (hclaimed (some payment.id)) hordered.stands ?_ fun hstate hlink => ?_
    · rintro (hbefore | ⟨-, -, hne⟩)
      · exact hordered.paid hbefore
      · exact absurd rfl hne
    · refine absurd hlink (hdisagrees ?_ hstate)
      rcases htime with hbefore | hafter
      · simp [BillingEventInput.agrees, not_le.mpr hbefore]
      · simp [BillingEventInput.agrees, not_le.mpr hafter]
  next htime =>
  split
  · exact commits_throw
  have hagrees : input.agrees payment = true := by
    simp only [not_or, ne_eq, not_not, not_lt] at hterms htime
    simp [BillingEventInput.agrees, hterms, htime]
  obtain ⟨checkout, hcheckout, hcarries⟩ := findCheckout_carries hintegrity hpayment
  refine applyToPayment_schedules (hclaimed (some payment.id)) hordered ⟨checkout, hcheckout, ?_⟩
    fun htype => ?_
  · simp only [not_or, ne_eq, not_not] at hterms
    simp [CheckoutIntent.coherent, hcarries.state, hcarries.accountId, hcarries.provider,
      hcarries.providerPaymentId, hcarries.paymentId, hcarries.priceRevisionId,
      hcarries.amountMinor, hcarries.currency, hterms, hmatch]
  · rcases hlegal with hlinked | hlegal
    · exact .inl (hordered.linked (Option.isSome_iff_ne_none.mp hlinked))
    · have hway : payment.state = .SUCCEEDED ∨ payment.state = .PENDING ∧
          (db.scheduled payment.id = true ∨
            hasCurrentSubscriptionAt db payment.accountId (draws.now 1) = false) := by
        simpa [hagrees, htype, or_assoc] using hlegal
      exact hway

theorem applyVerifiedBillingEvent_schedules (h : Scheduling db) (hintegrity : db.Integrity)
    {input : BillingEventInput} (horderly : input.orderly draws db = true) :
    Commits (applyVerifiedBillingEvent draws input) db fun _ db' => Scheduling db' := by
  unfold applyVerifiedBillingEvent
  simp only []
  rw [commits_bind]
  refine (insertBillingEvent_commits db _).mono ?_
  rintro _ _ (⟨rfl, hstale, rfl⟩ | ⟨rfl, hkey, hid, rfl⟩)
  · rw [commits_bind, commits_get]
    split
    · exact commits_throw
    · next ledger hledger =>
      have hended := h.ended ledger (List.mem_of_find?_eq_some hledger)
      simp only [commits_ite, commits_pure]
      exact ⟨fun _ => h, fun _ => ⟨fun _ => h, fun hverified => absurd hended hverified⟩⟩
  · have hunseen : db.findEvent input.event.provider input.event.eventIdentity = none := by
      refine List.find?_eq_none.mpr fun row hrow => ?_
      have hdiff := hkey row hrow
      simpa [eventKey, BillingEventInput.claim] using hdiff
    have hledger : Database.findEvent { db with events := db.events ++ [input.claim (draws.uuid 0)] }
        input.event.provider input.event.eventIdentity = some (input.claim (draws.uuid 0)) := by
      unfold Database.findEvent at hunseen ⊢
      rw [List.find?_append, hunseen]
      simp [BillingEventInput.claim]
    rw [commits_bind, commits_get, hledger]
    simp only [commits_ite, commits_pure]
    refine ⟨fun hconflict => ?_, fun _ => ⟨fun hstate => absurd rfl hstate, fun _ => ?_⟩⟩
    · simp [BillingEventInput.claim] at hconflict
    · exact applyClaimed_schedules h hintegrity hid hunseen horderly

/-! The reconciliation. -/

/-- A claim was made of this payment. -/
structure BillingReconciliationClaim.Fits (claim : BillingReconciliationClaim) (payment : Payment) :
    Prop where
  paymentId : claim.paymentId = payment.id
  provider : claim.provider = payment.provider
  providerPaymentId : claim.providerPaymentId = payment.providerPaymentId
  accountId : claim.accountId = payment.accountId
  priceRevisionId : claim.priceRevisionId = payment.priceRevisionId
  amountMinor : claim.amountMinor = payment.amountMinor
  currency : claim.currency = payment.currency

theorem coherentWith_of_carries (h : checkout.Carries payment) (hfits : claim.Fits payment) :
    checkout.coherentWith claim = true := by
  simp [CheckoutIntent.coherentWith, h.state, h.accountId, h.provider, h.providerPaymentId,
    h.paymentId, h.priceRevisionId, h.amountMinor, h.currency, hfits.paymentId, hfits.provider,
    hfits.providerPaymentId, hfits.accountId, hfits.priceRevisionId, hfits.amountMinor,
    hfits.currency]

theorem activateFromStatus_schedules {state : PaymentState}
    (h : InProgress db eventId (some claim.paymentId) .RECONCILIATION eventType)
    (hpayment : db.StandsAt claim.paymentId state subscriptionId) :
    Commits (activateFromStatus draws claim status eventId checkout) db fun _ db' =>
      Scheduling db' := by
  unfold activateFromStatus
  simp only []
  split
  · exact commits_throw
  rw [commits_bind]
  refine (insertActivated_commits _ _).mono ?_
  rintro _ _ ⟨-, -, transitions, rfl⟩
  obtain ⟨row, hfind, -, -⟩ := hpayment.find?
  rw [commits_bind]
  refine (updatePayment_commits _ claim.paymentId _).mono ?_
  rintro _ _ (⟨hnone, -, -⟩ | ⟨-, -, -, -, rfl⟩)
  · simp [hfind] at hnone
  rw [commits_bind]
  refine (materializeActivated_keeps draws claim.accountId _).mono fun _ db₂ hlifecycle => ?_
  have hrepaired := hpayment.updatePayment
    (Payment.repaired status.statusAt (draws.uuid 2) (draws.now 2)) .SUCCEEDED
    (some (draws.uuid 2)) fun _ _ _ => ⟨rfl, rfl, rfl⟩
  have hprogress := h.updatePayment
    (Payment.repaired status.statusAt (draws.uuid 2) (draws.now 2)) fun _ => rfl
  refine settle_schedules (hprogress.of_same hlifecycle.2.payments hlifecycle.2.events
    hlifecycle.2.jobs) (hrepaired.of_same hlifecycle.2.payments) (by simp) (fun _ => rfl) ?_
  simp

section

variable (h : InProgress db eventId (some payment.id) .RECONCILIATION eventType)
  (hpayment : Ordered db payment) (hfits : claim.Fits payment)
  (hcheckout : ∃ checkout, db.findCheckout payment.id = some checkout ∧ checkout.Carries payment)
include h hpayment hfits hcheckout

theorem applySucceededStatus_schedules :
    Commits (applySucceededStatus draws claim status eventId payment) db fun _ db' =>
      Scheduling db' := by
  obtain ⟨checkout, hfound, hcarries⟩ := hcheckout
  have hstands := hpayment.stands
  have hpaid := hpayment.paid
  have hwaits := hpayment.waits
  rw [← hfits.paymentId] at h hstands hfound hpaid hwaits
  unfold applySucceededStatus
  simp only []
  rw [commits_bind, commits_get]
  simp only [hfound, coherentWith_of_carries hcarries hfits, Bool.not_true, Bool.false_eq_true,
    if_false]
  split
  · next subscriptionId hlinked =>
    split
    · exact settle_schedules h hstands (by simp) hpaid fun _ hlink => by simp [hlinked] at hlink
    · exact settle_schedules h hstands (by simp) hpaid fun _ hlink => by simp [hlinked] at hlink
  · rw [commits_bind]
    refine (materialize_grows db _ _ _).mono fun current db₁ hcurrent => ?_
    have hprogress := h.of_same hcurrent.2.payments hcurrent.2.events hcurrent.2.jobs
    have hstands₁ := hstands.of_same hcurrent.2.payments
    have hpaid₁ : db₁.paid claim.paymentId = true → payment.state = .SUCCEEDED := by
      simpa only [Database.paid, hcurrent.2.events] using hpaid
    have hwaits₁ : payment.state = .SUCCEEDED → payment.subscriptionId = none →
        BillingReconciliationJobState.READY = .READY ∧ db₁.scheduled claim.paymentId = true := by
      intro hstate hlink
      have hscheduled := hwaits hstate hlink
      exact ⟨rfl, by simpa only [Database.scheduled, hcurrent.2.jobs] using hscheduled⟩
    cases current with
    | CORRUPTED id => exact settle_schedules hprogress hstands₁ (by simp) hpaid₁ hwaits₁
    | CURRENT id state => exact settle_schedules hprogress hstands₁ (by simp) hpaid₁ hwaits₁
    | NONE => exact activateFromStatus_schedules hprogress hstands₁

theorem applyStatusToPayment_schedules (hterminal : status.state ≠ .PENDING)
    (horderly : payment.waiting = true → status.state = .SUCCEEDED) :
    Commits (applyStatusToPayment draws claim status eventId payment) db fun _ db' =>
      Scheduling db' := by
  have hprogress := h
  have hstands := hpayment.stands
  have hpaid := hpayment.paid
  rw [← hfits.paymentId] at hprogress hstands hpaid
  have hnotWaiting (hstatus : status.state ≠ .SUCCEEDED) (hstate : payment.state = .SUCCEEDED)
      (hlink : payment.subscriptionId = none) : False :=
    hstatus (horderly (by simp [Payment.waiting, hstate, hlink]))
  unfold applyStatusToPayment
  simp only []
  split
  · next hconflict =>
    refine settle_schedules hprogress hstands (by simp) hpaid fun hstate hlink => ?_
    rcases hconflict with hrefunded | hchargeback | ⟨-, hstatus⟩
    · simp [hstate] at hrefunded
    · simp [hstate] at hchargeback
    · exact (hnotWaiting hstatus hstate hlink).elim
  next hconflict =>
  split
  · next hsame =>
    exact settle_schedules hprogress hstands (by simp) hpaid fun hstate hlink =>
      (hnotWaiting hsame.2 hstate hlink).elim
  split
  · next hstatus =>
    have hunpaid : payment.state ≠ .SUCCEEDED := fun hstate =>
      hconflict (.inr (.inr ⟨hstate, hstatus⟩))
    have hmoved := hstands.updatePayment
      (Payment.moved status.state.paymentState (draws.now 0)) status.state.paymentState
      payment.subscriptionId fun _ _ hlink => ⟨rfl, rfl, hlink⟩
    have hnext := hprogress.updatePayment
      (Payment.moved status.state.paymentState (draws.now 0)) fun _ => rfl
    rw [commits_bind]
    refine (updatePayment_commits db claim.paymentId _).mono ?_
    rintro _ _ (⟨hnone, -, -⟩ | ⟨-, -, -, -, rfl⟩)
    · obtain ⟨row, hfind, -⟩ := hstands.find?
      simp [hfind] at hnone
    · refine settle_schedules hnext hmoved (by simp) (fun hbefore => ?_) fun hstate _ => ?_
      · exact absurd (hpaid hbefore) hunpaid
      · cases hs : status.state <;> simp_all [BillingPaymentStatusState.paymentState]
  · exact applySucceededStatus_schedules h hpayment hfits hcheckout

end

/-- The condition on a status of a claim, once its lease holds and it is terminal. -/
theorem orderly_status (hleased : claim.leased db = true) (hterminal : status.state ≠ .PENDING)
    (h : (Step.applyStatus draws claim status processedAt).orderly hashing db = true)
    (hwaiting : claim.waiting db = true) :
    status.state = .SUCCEEDED ∧ status.agrees claim processedAt = true ∧
      db.findEvent claim.provider (reconciliationEventIdentity hashing claim status) = none := by
  simpa [Step.orderly, hleased, hwaiting, hterminal, and_assoc] using h

theorem waiting_of_fits (hintegrity : db.Integrity) (hpayment : payment ∈ db.payments)
    (hfits : claim.Fits payment) :
    db.payments.find? (·.id = claim.paymentId) = some payment ∧
      claim.waiting db = payment.waiting := by
  have hkey : ∀ row ∈ db.payments, decide (row.id = claim.paymentId) = true →
      some row.id = some claim.paymentId := by simp
  have hfind : db.payments.find? (·.id = claim.paymentId) = some payment :=
    hintegrity.paymentId.find_eq_some hkey hpayment (by simp [hfits.paymentId])
  exact ⟨hfind, by simp [BillingReconciliationClaim.waiting, hfind]⟩

theorem applyTerminalStatus_schedules (h : Scheduling db) (hintegrity : db.Integrity)
    (hpayment : payment ∈ db.payments) (hfits : claim.Fits payment)
    (hterminal : status.state ≠ .PENDING)
    (horderly : payment.waiting = true → status.state = .SUCCEEDED ∧
      status.agrees claim processedAt = true ∧
      db.findEvent claim.provider (reconciliationEventIdentity hashing claim status) = none) :
    Commits (applyTerminalStatus hashing draws claim status processedAt) db fun _ db' =>
      Scheduling db' := by
  have hordered := h.ordered hintegrity hpayment
  have hfind := (waiting_of_fits hintegrity hpayment hfits).1
  unfold applyTerminalStatus
  rw [commits_bind]
  refine (insertBillingEvent_commits db _).mono ?_
  rintro _ _ (⟨rfl, hstale, rfl⟩ | ⟨rfl, hkey, hid, rfl⟩)
  · rw [commits_bind, commits_get]
    split
    · exact commits_throw
    next event hevent =>
    have hended := h.ended event (List.mem_of_find?_eq_some hevent)
    simp only [ne_eq, hended, not_false_eq_true, if_true, commits_bind, commits_pure]
    refine finishJob_schedules h fun other hother hwaiting hotherId => ?_
    have hsame : other = payment := hintegrity.paymentId.eq_of_key hother hpayment rfl
      (by rw [hotherId, hfits.paymentId])
    rw [hsame] at hwaiting
    simp [(horderly hwaiting).2.2] at hevent
  · have hunseen : db.findEvent claim.provider
        (reconciliationEventIdentity hashing claim status) = none := by
      refine List.find?_eq_none.mpr fun row hrow => ?_
      have hdiff := hkey row hrow
      simpa [eventKey, reconciliationEvent] using hdiff
    have hclaimed := h.claimed (some payment.id) rfl rfl hid
    have hordered₁ : Ordered { db with events := db.events ++
        [reconciliationEvent hashing (draws.uuid 0) claim status processedAt] } payment :=
      hordered.claimed rfl
    have hstands := hordered₁.stands
    have hpaid := hordered₁.paid
    have hprogress := hclaimed
    rw [← hfits.paymentId] at hstands hpaid hprogress
    rw [commits_bind, commits_get]
    have hledger : Database.findEvent { db with events := db.events ++
        [reconciliationEvent hashing (draws.uuid 0) claim status processedAt] } claim.provider
        (reconciliationEventIdentity hashing claim status) =
        some (reconciliationEvent hashing (draws.uuid 0) claim status processedAt) := by
      unfold Database.findEvent at hunseen ⊢
      rw [List.find?_append, hunseen]
      simp [reconciliationEvent]
    -- A status that disagrees blocks the job, and does not find the payment waiting.
    have hdisagrees (hno : status.agrees claim processedAt = false) (hstate : payment.state = .SUCCEEDED)
        (hlink : payment.subscriptionId = none) : False := by
      have hagrees := (horderly (by simp [Payment.waiting, hstate, hlink])).2.1
      simp [hno] at hagrees
    rw [hledger]
    simp only []
    split
    · next hstate => exact absurd rfl hstate
    split
    · next hterms =>
      refine settle_schedules hprogress hstands (by simp) hpaid fun hstate hlink =>
        (hdisagrees ?_ hstate hlink).elim
      rcases hterms with hamount | hcurrency
      · simp [BillingPaymentStatus.agrees, hamount]
      · simp [BillingPaymentStatus.agrees, hcurrency]
    split
    · next htime =>
      refine settle_schedules hprogress hstands (by simp) hpaid fun hstate hlink =>
        (hdisagrees ?_ hstate hlink).elim
      rcases htime with hbefore | hafter
      · simp [BillingPaymentStatus.agrees, not_le.mpr hbefore]
      · simp [BillingPaymentStatus.agrees, not_le.mpr hafter]
    split
    · exact commits_throw
    simp only [hfind]
    have hcheckout := findCheckout_carries hintegrity hpayment
    exact applyStatusToPayment_schedules hclaimed hordered₁ hfits hcheckout hterminal
      fun hwaiting => (horderly hwaiting).1

theorem applyStatus_schedules (h : Scheduling db) (hintegrity : db.Integrity)
    (hfits : ∃ payment ∈ db.payments, claim.Fits payment)
    (horderly : (Step.applyStatus draws claim status processedAt).orderly hashing db = true) :
    Commits (applyStatus hashing draws claim status processedAt) db fun _ db' =>
      Scheduling db' := by
  obtain ⟨payment, hpayment, hfits⟩ := hfits
  unfold applyStatus
  rw [commits_bind, commits_get]
  split
  · rw [commits_pure]
    exact h
  next hlease =>
  have hleased : claim.leased db = true := by simpa [BillingReconciliationClaim.leased] using hlease
  split
  · simp only [commits_bind, commits_pure]
    exact finishJob_schedules h fun _ _ _ _ => rfl
  next hterminal =>
  refine applyTerminalStatus_schedules h hintegrity hpayment hfits hterminal fun hwaiting => ?_
  refine orderly_status hleased hterminal horderly ?_
  rw [(waiting_of_fits hintegrity hpayment hfits).2]
  exact hwaiting

/-- Without the lease a job is not finished. -/
theorem finishJob_unleased (hintegrity : db.Integrity) (hleased : claim.leased db = false)
    (state : BillingReconciliationJobState) (nextAttemptAt : Option Date) :
    Commits (finishJob claim.paymentId claim.leaseToken state nextAttemptAt) db fun _ db' =>
      db'.payments = db.payments ∧ db'.events = db.events ∧ db'.jobs = db.jobs := by
  refine (updateReconciliationJobs_commits db _ _).mono ?_
  rintro _ _ ⟨-, rfl⟩
  refine ⟨rfl, rfl, updateWhere_of_none ?_⟩
  have hnone : ∀ job ∈ db.jobs, ¬ (job.paymentId = claim.paymentId ∧ job.state = .LEASED ∧
      job.leaseToken = some claim.leaseToken) := by
    rintro job hjob ⟨hid, hstate, htoken⟩
    have hkey : ∀ row ∈ db.jobs, decide (row.paymentId = claim.paymentId) = true →
        some row.paymentId = some claim.paymentId := by simp
    have hfind : db.jobs.find? (·.paymentId = claim.paymentId) = some job :=
      hintegrity.job.find_eq_some hkey hjob (by simpa using hid)
    simp [BillingReconciliationClaim.leased, hfind, hstate, htoken] at hleased
  exact fun job hjob => decide_eq_false (hnone job hjob)

theorem blockUnsupported_schedules (h : Scheduling db) (hintegrity : db.Integrity) {code : String}
    (hfits : ∃ payment ∈ db.payments, claim.Fits payment)
    (horderly : (Step.blockUnsupported claim code).orderly hashing db = true) :
    Commits (blockUnsupported claim code) db fun _ db' => Scheduling db' := by
  obtain ⟨payment, hpayment, hfits⟩ := hfits
  unfold blockUnsupported
  simp only [commits_bind, commits_pure]
  by_cases hleased : claim.leased db = true
  · refine finishJob_schedules h fun other hother hwaiting hid => ?_
    have hsame : other = payment := hintegrity.paymentId.eq_of_key hother hpayment rfl
      (by rw [hid, hfits.paymentId])
    have hnot := (waiting_of_fits hintegrity hpayment hfits).2
    simp [Step.orderly, hleased, hnot, ← hsame, hwaiting] at horderly
  · refine (finishJob_unleased hintegrity (by simpa using hleased) _ _).mono ?_
    rintro _ _ ⟨hpayments, hevents, hjobs⟩
    exact h.of_ledger hpayments hevents hjobs

/-! The steps that only touch other tables, or only jobs. -/

/-- What the ledger of the payments is made of stays. -/
structure SameLedger (db db' : Database) : Prop where
  payments : db'.payments = db.payments
  events : db'.events = db.events
  jobs : db'.jobs = db.jobs

instance : Std.Refl SameLedger := ⟨fun _ => ⟨rfl, rfl, rfl⟩⟩

instance : IsTrans Database SameLedger := ⟨fun _ _ _ hab hbc =>
  ⟨hbc.payments.trans hab.payments, hbc.events.trans hab.events, hbc.jobs.trans hab.jobs⟩⟩

theorem Scheduling.sameLedger (h : Scheduling db) (hsame : SameLedger db db') :
    Scheduling db' := h.of_ledger hsame.payments hsame.events hsame.jobs

theorem keeps_sameLedger {α : Type} {tx : Tx Database α} (h : Keeps OnlySubscriptions tx) :
    Keeps SameLedger tx :=
  fun db => (h db).mono fun _ _ hdone => ⟨hdone.2.payments, hdone.2.events, hdone.2.jobs⟩

theorem materialize_sameLedger (transitionId accountId : String) (now : Date) :
    Keeps SameLedger (materializeDueCurrentSubscriptionLocked transitionId accountId now) :=
  keeps_sameLedger fun db => materialize_grows db transitionId accountId now

theorem terminalFailure_sameLedger (draws : Draws) (intent : CheckoutIntentSnapshot)
    (code : CheckoutFailureCode) (completedAt : Date) :
    Keeps SameLedger (terminalFailure draws intent code completedAt) := by
  refine keeps_ite (fun _ => keeps_pure _) fun _ => keeps_bind (fun db => ?_) fun updated => ?_
  · refine (updateCheckoutIntent_commits db intent.id _).mono ?_
    rintro _ db' (⟨-, rfl⟩ | ⟨row, -, -, -, -, rfl⟩)
    · exact refl db'
    · exact ⟨rfl, rfl, rfl⟩
  · cases updated with
    | none => exact keeps_throw _
    | some next => exact keeps_pure _

theorem prepareMaterialized_sameLedger (draws : Draws) (input : CheckoutPrepareInput) :
    Keeps SameLedger (prepareMaterialized draws input) := by
  refine keeps_bind keeps_get fun db => ?_
  simp only []
  split
  · exact prepareExisting_keeps (terminalFailure_sameLedger draws) _ _
  split
  · exact keeps_pure _
  split
  · exact keeps_pure _
  refine keeps_bind (fun db => ?_) fun _ => keeps_pure _
  refine (insertCheckoutIntent_commits db _).mono ?_
  rintro _ _ ⟨-, -, rfl⟩
  exact ⟨rfl, rfl, rfl⟩

theorem lifecycle_sameLedger (run : LifecycleRun) : Keeps SameLedger run.transaction := by
  intro db
  refine (run.commits db).mono ?_
  rintro _ db' (rfl | ⟨transitionId, updatedAt, row, -, -, toState, -, -, -, rfl, -⟩)
  · exact refl db'
  · exact ⟨rfl, rfl, rfl⟩

/-- A new payment is pending, and no event is about it yet. -/
theorem finalizeReady_schedules (h : Scheduling db) {locked : CheckoutIntentSnapshot}
    {providerCheckoutId providerPaymentId checkoutReference : String} :
    Commits (finalizeReady draws locked providerCheckoutId providerPaymentId checkoutReference) db
      fun _ db' => Scheduling db' := by
  unfold finalizeReady
  rw [commits_bind]
  refine (insertPayment_commits db _).mono ?_
  rintro _ _ ⟨hid, -, rfl⟩
  rw [commits_bind]
  refine (insertReconciliationJob_commits _ _).mono ?_
  rintro _ _ ⟨-, rfl⟩
  rw [commits_bind]
  refine (updateCheckoutIntent_commits _ locked.id _).mono ?_
  rintro _ _ (⟨rfl, -⟩ | ⟨row, -, -, rfl, -, rfl⟩)
  · exact commits_throw
  rw [commits_pure]
  refine ⟨h.ended, fun event hevent id hpayment => ?_, fun payment hpayment hpaid => ?_,
    fun payment hpayment hwaiting => ?_⟩
  · obtain ⟨payment, hmem, hsame⟩ := h.references event hevent id hpayment
    exact ⟨payment, List.mem_append_left _ hmem, hsame⟩
  · rcases List.mem_append.mp hpayment with hold | hnew
    · exact h.paid payment hold hpaid
    · -- An event of the new payment would refer to a row of its id.
      rw [List.mem_singleton.mp hnew] at hpaid
      simp only [Database.paid, List.any_eq_true, BillingEvent.confirms, Bool.and_eq_true,
        decide_eq_true_eq] at hpaid
      obtain ⟨event, hevent, ⟨⟨⟨-, hevent'⟩, -⟩, -⟩⟩ := hpaid
      obtain ⟨payment', hmem, hsame⟩ := h.references event hevent _ hevent'
      have hfresh := hid payment' hmem
      simp [hsame] at hfresh
  · rcases List.mem_append.mp hpayment with hold | hnew
    · have hscheduled := h.waiting payment hold hwaiting
      unfold Database.scheduled at hscheduled ⊢
      simp only [List.any_append, hscheduled, Bool.true_or]
    · rw [List.mem_singleton.mp hnew] at hwaiting
      simp [Payment.waiting, CheckoutIntent.payment] at hwaiting

theorem finalizeCheckout_schedules (h : Scheduling db) {intentId provider : String}
    {result : ProviderCheckoutResult} :
    Commits (finalizeCheckout draws intentId provider result) db fun _ db' => Scheduling db' := by
  have hfailed (db' : Database) (hsame : SameLedger db db') (locked : CheckoutIntentSnapshot)
      (code : CheckoutFailureCode) (completedAt : Date) :
      Commits (terminalFailure draws locked code completedAt) db' fun _ db'' => Scheduling db'' :=
    ((terminalFailure_sameLedger draws locked code completedAt).after hsame).mono
      fun _ _ => h.sameLedger
  unfold finalizeCheckout
  rw [commits_bind, commits_get]
  split
  · exact commits_pure.mpr h
  simp only []
  split
  · exact commits_pure.mpr h
  split
  · exact commits_pure.mpr h
  split
  · exact commits_pure.mpr h
  split
  · split
    · exact hfailed db (refl db) _ _ _
    · rw [commits_bind]
      refine (materialize_sameLedger _ _ _ db).mono fun materialized db₁ hsame => ?_
      cases materialized with
      | CORRUPTED id => exact hfailed db₁ hsame _ _ _
      | CURRENT id state => exact hfailed db₁ hsame _ _ _
      | NONE => exact finalizeReady_schedules (h.sameLedger hsame)
  · exact hfailed db (refl db) _ _ _

theorem claimOf_fits (job : BillingReconciliationJob) (payment : Payment) (leaseToken : String) :
    (claimOf job payment leaseToken).Fits payment := ⟨rfl, rfl, rfl, rfl, rfl, rfl, rfl⟩

/-- A claim run leaves the jobs that it leases open. -/
theorem claimJobs_schedules (h : Scheduling db) (draws : Draws) (now : Date) (leaseMs next : Nat)
    (rows : List (BillingReconciliationJob × Payment)) :
    Commits (claimJobs draws now leaseMs next rows) db fun claims db' =>
      Scheduling db' ∧ ∀ claim ∈ claims, ∃ row ∈ rows, claim.Fits row.2 := by
  induction rows generalizing next db with
  | nil => simpa [claimJobs] using h
  | cons row rest ih =>
    unfold claimJobs
    rw [commits_bind]
    refine (updateReconciliationJobs_commits db _ _).mono ?_
    rintro updated _ ⟨-, rfl⟩
    rw [commits_bind]
    refine (ih (h.jobs fun payment _ _ hscheduled => ?_) (next + 1)).mono fun claims db' hrest => ?_
    · exact scheduled_updateWhere (fun _ => rfl) (fun job _ _ => rfl) hscheduled
    rw [commits_pure]
    have hfits : ∀ claim ∈ claims, ∃ other ∈ row :: rest, claim.Fits other.2 := by
      intro claim hclaim
      obtain ⟨other, hother, hfits⟩ := hrest.2 claim hclaim
      exact ⟨other, List.mem_cons_of_mem _ hother, hfits⟩
    refine ⟨hrest.1, ?_⟩
    split
    · intro claim hclaim
      rcases List.mem_cons.mp hclaim with rfl | hclaim
      · exact ⟨row, List.mem_cons_self, claimOf_fits _ _ _⟩
      · exact hfits claim hclaim
    · exact hfits

theorem mem_dueJobs {now : Date} {batchSize : Nat} {locked : List String}
    {row : BillingReconciliationJob × Payment} (hrow : row ∈ dueJobs db now batchSize locked) :
    row.2 ∈ db.payments := by
  have hmem := List.mem_of_mem_take hrow
  simp only [List.mem_filterMap, Option.map_eq_some_iff] at hmem
  obtain ⟨job, -, payment, hfind, rfl⟩ := hmem
  exact List.mem_of_find?_eq_some hfind

theorem claimDue_schedules (h : Scheduling db) (draws : Draws) (now : Date) (leaseMs batchSize : Nat)
    (locked : List String) :
    Commits (claimDue draws now leaseMs batchSize locked) db fun claims db' =>
      Scheduling db' ∧ ∀ claim ∈ claims, ∃ payment ∈ db.payments, claim.Fits payment := by
  unfold claimDue
  split
  · exact commits_throw
  rw [commits_bind, commits_get]
  refine (claimJobs_schedules h draws now leaseMs 0 _).mono fun claims db' hclaims => ?_
  refine ⟨hclaims.1, fun claim hclaim => ?_⟩
  obtain ⟨row, hrow, hfits⟩ := hclaims.2 claim hclaim
  exact ⟨row.2, mem_dueJobs hrow, hfits⟩

/-! Runs. -/

/-- Every claim that was handed out is of a payment. -/
def World.Handed (world : World) : Prop :=
  ∀ claim ∈ world.claims, ∃ payment ∈ world.db.payments, claim.Fits payment

theorem BillingReconciliationClaim.Fits.of_sale {payment' : Payment} (h : claim.Fits payment)
    (hsale : payment'.sale = payment.sale) :
    claim.Fits payment' where
  paymentId := h.paymentId.trans (congrArg Payment.id hsale).symm
  provider := h.provider.trans (congrArg Payment.provider hsale).symm
  providerPaymentId := h.providerPaymentId.trans (congrArg Payment.providerPaymentId hsale).symm
  accountId := h.accountId.trans (congrArg Payment.accountId hsale).symm
  priceRevisionId := h.priceRevisionId.trans (congrArg Payment.priceRevisionId hsale).symm
  amountMinor := h.amountMinor.trans (congrArg Payment.amountMinor hsale).symm
  currency := h.currency.trans (congrArg Payment.currency hsale).symm

theorem Extends.fits (h : Extends db db') (hfits : ∃ payment ∈ db.payments, claim.Fits payment) :
    ∃ payment ∈ db'.payments, claim.Fits payment := by
  obtain ⟨payment, hpayment, hfits⟩ := hfits
  obtain ⟨payment', hpayment', hsale, -⟩ := h.payments payment hpayment
  exact ⟨payment', hpayment', hfits.of_sale hsale⟩

/-- One orderly step. -/
theorem step_schedules {step : Step} (hintegrity : world.db.Integrity) (hhanded : world.Handed)
    (hheld : step.held world = true) (h : Scheduling world.db)
    (horderly : step.orderly hashing world.db = true) :
    Commits (step.transaction hashing) world.db fun claims db' =>
      Scheduling db' ∧ ∀ claim ∈ claims, ∃ payment ∈ world.db.payments, claim.Fits payment := by
  have hkept {α : Type} {tx : Tx Database α} (htx : Keeps SameLedger tx) :
      Commits tx world.db fun _ db' => Scheduling db' :=
    (htx world.db).mono fun _ _ => h.sameLedger
  cases step with
  | applyVerifiedBillingEvent draws input =>
    simp only [Step.transaction, commits_bind, commits_pure]
    refine (applyVerifiedBillingEvent_schedules h hintegrity horderly).mono fun _ db' hdone => ?_
    simpa using hdone
  | claimDue draws now leaseMs batchSize locked =>
    exact claimDue_schedules h draws now leaseMs batchSize locked
  | applyStatus draws claim status processedAt =>
    simp only [Step.transaction, commits_bind, commits_pure]
    have hfits := hhanded claim (by simpa [Step.held] using hheld)
    refine (applyStatus_schedules h hintegrity hfits horderly).mono fun _ db' hdone => ?_
    simpa using hdone
  | reschedule paymentId leaseToken nextAttemptAt code =>
    simp only [Step.transaction, Billing.reschedule, commits_bind, commits_pure]
    refine (finishJob_schedules h fun _ _ _ _ => rfl).mono fun _ db' hdone => ?_
    simpa using hdone
  | blockUnsupported claim code =>
    simp only [Step.transaction, commits_bind, commits_pure]
    have hfits := hhanded claim (by simpa [Step.held] using hheld)
    refine (blockUnsupported_schedules h hintegrity hfits horderly).mono fun _ db' hdone => ?_
    simpa using hdone
  | prepareCheckout draws input =>
    simp only [Step.transaction, commits_bind, commits_pure]
    have hprepare := prepareMaterialized_sameLedger draws input
    exact (hkept (prepareCheckout_keeps materialize_sameLedger hprepare)).mono
      fun _ db' hdone => by simpa using hdone
  | finalizeCheckout draws intentId provider result =>
    simp only [Step.transaction, commits_bind, commits_pure]
    exact (finalizeCheckout_schedules h).mono fun _ db' hdone => by simpa using hdone
  | failCheckout draws intentId provider code =>
    simp only [Step.transaction, commits_bind, commits_pure]
    have hfail := failCheckout_keeps (terminalFailure_sameLedger draws) intentId provider code
    exact (hkept hfail).mono
      fun _ db' hdone => by simpa using hdone
  | lifecycle run =>
    simp only [Step.transaction, commits_bind, commits_pure]
    exact (hkept (lifecycle_sameLedger run)).mono fun _ db' hdone => by simpa using hdone
  | grantSubscription draws accountId planRevisionId currentPeriodEnd =>
    simp only [Step.transaction, commits_bind, commits_pure]
    have hsame := keeps_sameLedger
      (grantSubscription_keeps draws accountId planRevisionId currentPeriodEnd)
    exact (hkept hsame).mono fun _ db' hdone => by simpa using hdone
  | mutate draws subscriptionId operation expectedStateRevision =>
    simp only [Step.transaction, commits_bind, commits_pure]
    have hsame := keeps_sameLedger
      (mutate_keeps draws subscriptionId operation expectedStateRevision)
    exact (hkept hsame).mono fun _ db' hdone => by simpa using hdone
  | authority accounts owners plans prices =>
    simp only [Step.transaction, commits_bind, commits_modify, commits_pure]
    exact ⟨h.of_ledger rfl rfl rfl, by simp⟩

/-- The invariant of a run, with what the steps are about. -/
structure World.Scheduled (world : World) : Prop where
  integrity : world.db.Integrity
  handed : world.Handed
  scheduling : Scheduling world.db

theorem next_scheduled {step : Step} (h : world.Scheduled)
    (horderly : step.orderly hashing world.db = true) : (step.next hashing world).Scheduled := by
  have hgrows := next_grows hashing world step h.integrity
  rcases step.next_cases hashing world with hsame | ⟨hheld, claims, db, htransaction, hnext⟩
  · rw [hsame]
    exact h
  · rw [hnext] at hgrows ⊢
    obtain ⟨hscheduling, hclaims⟩ :=
      step_schedules h.integrity h.handed hheld h.scheduling horderly claims db htransaction
    refine ⟨hgrows.1, fun claim hclaim => ?_, hscheduling⟩
    rcases List.mem_append.mp hclaim with hold | hnew
    · exact hgrows.2.fits (h.handed claim hold)
    · exact hgrows.2.fits (hclaims claim hnew)

theorem runFrom_scheduled (h : world.Scheduled) (steps : List Step)
    (horderly : orderlyFrom hashing world steps = true) :
    (runFrom hashing world steps).Scheduled := by
  induction steps generalizing world with
  | nil => exact h
  | cons step rest ih =>
    simp only [orderlyFrom, Bool.and_eq_true] at horderly
    exact ih (next_scheduled h horderly.1) horderly.2

theorem scheduled_empty : World.Scheduled ⟨emptyDatabase, []⟩ where
  integrity := integrity_empty
  handed := by simp [World.Handed]
  scheduling := by constructor <;> simp [emptyDatabase]

/-- In a run whose steps all meet the condition a paid customer stays scheduled for activation. -/
theorem stays_scheduled (hashing : Hashing) (steps : List Step)
    (horderly : orderlyFrom hashing ⟨emptyDatabase, []⟩ steps = true) :
    StaysScheduled (run hashing steps).db :=
  (runFrom_scheduled scheduled_empty steps horderly).scheduling.staysScheduled

/-- An account is granted a subscription while its checkout is pending, and then pays. -/
def conflictRun : List Step :=
  sampleAuthority :: sampleCheckout "first-" "key" 1 ++
    [.grantSubscription (sampleDraws "grant" 2) "account" "plan-1" 5000,
      sampleWebhook "first-" "paid" .succeeded 3, sampleWebhook "first-" "late" .failed 4,
      .claimDue (sampleDraws "token" 5) 5 60 1 [],
      .applyStatus (sampleDraws "status" 6)
        { paymentId := "first-finalize1"
          provider := "provider"
          providerPaymentId := "first-payment"
          accountId := "account"
          priceRevisionId := "price-1"
          amountMinor := 990
          currency := "EUR"
          paymentState := .SUCCEEDED
          createdAt := 1
          attemptCount := 1
          leaseToken := "token0" } ⟨.SUCCEEDED, 990, "EUR", 3⟩ 6]

/-- The payment of the run is paid and has no subscription, and its job is due again. -/
theorem stays_scheduled_conflictRun :
    orderlyFrom sampleHashing ⟨emptyDatabase, []⟩ conflictRun = true ∧
      StaysScheduled (run sampleHashing conflictRun).db ∧
      (run sampleHashing conflictRun).db.paid "first-finalize1" = true ∧
      (run sampleHashing conflictRun).db.payments.map Payment.subscriptionId = [none] ∧
      (run sampleHashing conflictRun).db.jobs.map BillingReconciliationJob.state = [.READY] := by
  have horderly : orderlyFrom sampleHashing ⟨emptyDatabase, []⟩ conflictRun = true := by
    decide +kernel
  exact ⟨horderly, stays_scheduled sampleHashing conflictRun horderly, by decide +kernel,
    by decide +kernel, by decide +kernel⟩

/-- A payment that the provider first reports as failed, and then as paid. -/
def failedThenPaid : List Step :=
  sampleAuthority :: sampleCheckout "first-" "key" 1 ++
    [sampleWebhook "first-" "declined" .failed 2, sampleWebhook "first-" "paid" .succeeded 3]

/-- The webhook that the payment succeeded was processed, but its job stays `SETTLED`. -/
theorem failed_payment_drops_out :
    ¬ StaysScheduled (run sampleHashing failedThenPaid).db ∧
      (run sampleHashing failedThenPaid).db.paid "first-finalize1" = true ∧
      (run sampleHashing failedThenPaid).db.jobs.map BillingReconciliationJob.state =
        [.SETTLED] := by
  refine ⟨by decide +kernel, by decide +kernel, by decide +kernel⟩

end SellerAgents.Billing
