import SellerAgents.Billing.Activation
import SellerAgents.Billing.CheckoutService
import SellerAgents.Concurrent.Replay

open Relational Concurrent SellerAgents.Subscriptions

namespace SellerAgents.Billing

open CheckoutCmd (Answer)

/-! The intents that a call works on. -/

/-- The intent is one of this request: its account, its key and its fingerprint. -/
structure CheckoutIntent.Fits (intent : CheckoutIntent) (accountId idempotencyKeyHash
    requestFingerprintSha256 : String) : Prop where
  accountId : intent.accountId = accountId
  keyHash : intent.idempotencyKeyHash = idempotencyKeyHash
  fingerprint : intent.requestFingerprintSha256 = requestFingerprintSha256

/-- The order of the intent is in the table. -/
def CheckoutIntent.Known (db : Database) (intent : CheckoutIntent) : Prop :=
  ∃ row ∈ db.intents, row.order = intent.order

/-- The intent that `prepareCheckout` answers with. -/
def CheckoutPrepareResult.intent : CheckoutPrepareResult → Option CheckoutIntentSnapshot
  | .CREATED intent => some intent
  | .EXISTING intent => some intent
  | .REJECTED _ => none

variable {command : CheckoutCmd} {intent : CheckoutIntent} {input : CheckoutPrepareInput}
  {α : Type} {state : World} {db : Database}

theorem CheckoutIntent.Known.of_extends {db' : Database} (h : Extends db db')
    (hknown : intent.Known db) : intent.Known db' := by
  obtain ⟨row, hrow, horder⟩ := hknown
  obtain ⟨row', hrow', horder', -⟩ := h.intents row hrow
  exact ⟨row', hrow', horder'.trans horder⟩

theorem CheckoutIntent.Fits.of_order {intent' : CheckoutIntent} {accountId key hash : String}
    (h : intent.Fits accountId key hash) (horder : intent'.order = intent.order) :
    intent'.Fits accountId key hash where
  accountId := (congrArg CheckoutIntent.accountId horder).trans h.accountId
  keyHash := (congrArg CheckoutIntent.idempotencyKeyHash horder).trans h.keyHash
  fingerprint := (congrArg CheckoutIntent.requestFingerprintSha256 horder).trans h.fingerprint

theorem CheckoutIntent.providerInput_of_order {intent' : CheckoutIntent}
    (horder : intent'.order = intent.order) : intent'.providerInput = intent.providerInput :=
  show intent'.order.providerInput = intent.order.providerInput by rw [horder]

/-- What `prepareCheckout` answers and leaves: an intent of the request, and no row that is not one.
-/
structure Prepared (input : CheckoutPrepareInput) (db : Database) (result : CheckoutPrepareResult)
    (db' : Database) : Prop where
  answered : ∀ intent, result.intent = some intent → intent.toCheckoutIntent.Known db' ∧
    intent.Fits input.accountId input.idempotencyKeyHash input.requestFingerprintSha256
  rows : ∀ row ∈ db'.intents, (∃ old ∈ db.intents, old.id = row.id) ∨
    row.Fits input.accountId input.idempotencyKeyHash input.requestFingerprintSha256

theorem Prepared.rejected (input : CheckoutPrepareInput) (db : Database)
    (code : CheckoutFailureCode) : Prepared input db (.REJECTED code) db where
  answered := by simp [CheckoutPrepareResult.intent]
  rows := fun row hrow => .inl ⟨row, hrow, rfl⟩

theorem Prepared.existing {intent : CheckoutIntentSnapshot}
    (hmem : intent.toCheckoutIntent ∈ db.intents)
    (hfits : intent.Fits input.accountId input.idempotencyKeyHash input.requestFingerprintSha256) :
    Prepared input db (.EXISTING intent) db where
  answered := by
    rintro _ ⟨⟩
    exact ⟨⟨intent.toCheckoutIntent, hmem, rfl⟩, hfits⟩
  rows := fun row hrow => .inl ⟨row, hrow, rfl⟩

theorem loadIntent_some {accountId hash : String} {existing : CheckoutIntentSnapshot}
    (h : loadIntent db accountId hash = some existing) :
    existing.toCheckoutIntent ∈ db.intents ∧ existing.accountId = accountId ∧
      existing.idempotencyKeyHash = hash := by
  obtain ⟨row, hrow, rfl⟩ := Option.map_eq_some_iff.mp h
  have hmatch := List.find?_some hrow
  simp only [Bool.decide_and, Bool.and_eq_true, decide_eq_true_eq] at hmatch
  exact ⟨List.mem_of_find?_eq_some hrow, hmatch⟩

theorem mem_updateIntents {id : String} {set : CheckoutIntent → CheckoutIntent} {row : CheckoutIntent}
    (hset : ∀ row, (set row).id = row.id) (hrow : row ∈ updateWhere (·.id = id) set db.intents) :
    ∃ old ∈ db.intents, old.id = row.id := by
  rcases mem_updateWhere.mp hrow with ⟨hold, -⟩ | ⟨old, hold, -, rfl⟩
  · exact ⟨row, hold, rfl⟩
  · exact ⟨old, hold, (hset old).symm⟩

/-- What a failure of an intent answers and leaves. -/
theorem terminalFailure_commits (draws : Draws) (intent : CheckoutIntentSnapshot)
    (code : CheckoutFailureCode) (completedAt : Date) (hmem : intent.toCheckoutIntent ∈ db.intents)
    (hunique : UniqueBy (fun row => some row.id) db.intents) :
    Commits (terminalFailure draws intent code completedAt) db fun result db' =>
      intent.toCheckoutIntent.Known db' ∧
      (∀ failed failure, result = .FAILED failed failure → failed.toCheckoutIntent ∈ db'.intents ∧
        failed.order = intent.order) ∧
      ∀ row ∈ db'.intents, ∃ old ∈ db.intents, old.id = row.id := by
  unfold terminalFailure
  split
  · simp only [commits_pure]
    refine ⟨⟨_, hmem, rfl⟩, fun failed failure heq => ?_, fun row hrow => ⟨row, hrow, rfl⟩⟩
    unfold CheckoutIntentSnapshot.ended at heq
    split at heq
    · cases heq
    · cases heq
      exact ⟨hmem, rfl⟩
  · rw [commits_bind]
    refine (updateCheckoutIntent_commits db intent.id _).mono ?_
    rintro _ _ (⟨rfl, -⟩ | ⟨row, hfind, -, rfl, -, rfl⟩)
    · exact commits_throw
    have hid : row.id = intent.id := by simpa using List.find?_some hfind
    have hsame : row = intent.toCheckoutIntent :=
      hunique.eq_of_key (List.mem_of_find?_eq_some hfind) hmem rfl (congrArg some hid.symm)
    simp only [commits_pure]
    refine ⟨⟨_, mem_updateWhere.mpr (.inr ⟨row, List.mem_of_find?_eq_some hfind, by simp [hid], rfl⟩), ?_⟩,
      fun failed failure heq => ?_, fun other hother => ?_⟩
    · rw [← hsame]
      rfl
    · cases heq
      refine ⟨mem_updateWhere.mpr (.inr ⟨row, List.mem_of_find?_eq_some hfind, by simp [hid], rfl⟩), ?_⟩
      rw [← hsame]
      rfl
    · refine mem_updateIntents ?_ hother
      exact fun _ => rfl

theorem prepareExisting_commits {draws : Draws} {account : CheckoutAccountObservation}
    {existing : CheckoutIntentSnapshot} (hmem : existing.toCheckoutIntent ∈ db.intents)
    (haccount : existing.accountId = input.accountId)
    (hkey : existing.idempotencyKeyHash = input.idempotencyKeyHash)
    (hunique : UniqueBy (fun row => some row.id) db.intents) :
    Commits (prepareExisting draws input account existing) db (Prepared input db) := by
  unfold prepareExisting
  split
  · rw [commits_pure]
    exact .rejected input db _
  next hfingerprint =>
  rw [ne_eq, not_not] at hfingerprint
  have hfits : existing.Fits input.accountId input.idempotencyKeyHash
      input.requestFingerprintSha256 := ⟨haccount, hkey, hfingerprint⟩
  split
  · rw [commits_pure]
    exact .rejected input db _
  split
  · rw [commits_pure]
    exact .existing hmem hfits
  · split
    · rw [commits_bind]
      refine (terminalFailure_commits draws existing _ _ hmem hunique).mono fun terminal db' hend => ?_
      obtain ⟨hknown, hfailed, hrows⟩ := hend
      have hold : Prepared input db (.EXISTING existing) db' :=
        ⟨by rintro _ ⟨⟩; exact ⟨hknown, hfits⟩, fun row hrow => .inl (hrows row hrow)⟩
      cases terminal with
      | FAILED intent failure =>
        obtain ⟨hfailedMem, horder⟩ := hfailed intent failure rfl
        simp only [commits_pure]
        refine ⟨?_, fun row hrow => .inl (hrows row hrow)⟩
        rintro _ ⟨⟩
        exact ⟨⟨_, hfailedMem, rfl⟩, hfits.of_order horder⟩
      | READY intent => exact commits_pure.mpr hold
      | REJECTED code => exact commits_pure.mpr hold
      | SERVICE_UNAVAILABLE => exact commits_pure.mpr hold
    · rw [commits_pure]
      exact .existing hmem hfits

theorem prepareMaterialized_commits (draws : Draws) (input : CheckoutPrepareInput)
    (hunique : UniqueBy (fun row => some row.id) db.intents) :
    Commits (prepareMaterialized draws input) db (Prepared input db) := by
  unfold prepareMaterialized
  rw [commits_bind, commits_get]
  simp only []
  split
  · next existing hexisting =>
    obtain ⟨hmem, haccount, hkey⟩ := loadIntent_some hexisting
    exact prepareExisting_commits hmem haccount hkey hunique
  split
  · exact commits_pure.mpr (.rejected input db _)
  split
  · exact commits_pure.mpr (.rejected input db _)
  rw [commits_bind]
  refine (insertCheckoutIntent_commits db _).mono ?_
  rintro _ _ ⟨-, -, rfl⟩
  have hfits : (input.intent (draws.uuid 1) draws.timestamp).Fits input.accountId
      input.idempotencyKeyHash input.requestFingerprintSha256 := ⟨rfl, rfl, rfl⟩
  refine commits_pure.mpr ⟨?_, fun row hrow => ?_⟩
  · rintro _ ⟨⟩
    exact ⟨⟨_, List.mem_append_right _ (List.mem_singleton_self _), rfl⟩, hfits⟩
  · rcases List.mem_append.mp hrow with hold | hnew
    · exact .inl ⟨row, hold, rfl⟩
    · rw [List.mem_singleton.mp hnew]
      exact .inr hfits

theorem prepareCheckout_commits (draws : Draws) (input : CheckoutPrepareInput)
    (hintegrity : db.Integrity) :
    Commits (prepareCheckout draws input) db (Prepared input db) := by
  unfold prepareCheckout
  rw [commits_bind, commits_get]
  split
  · exact commits_pure.mpr (.rejected input db _)
  rw [commits_bind]
  refine (materialize_grows db _ _ _).mono fun materialized db₁ hsame => ?_
  have hintents := hsame.2.intents
  have hprepared : Commits (prepareMaterialized draws input) db₁ (Prepared input db) := by
    refine (prepareMaterialized_commits draws input (hintents ▸ hintegrity.intentId)).mono ?_
    intro result db' hprepared
    exact ⟨hprepared.answered, hintents ▸ hprepared.rows⟩
  cases materialized with
  | CORRUPTED id =>
    refine commits_pure.mpr ⟨by simp [CheckoutPrepareResult.intent], fun row hrow => .inl ?_⟩
    exact ⟨row, hintents ▸ hrow, rfl⟩
  | NONE => exact hprepared
  | CURRENT id state => exact hprepared

/-! The calls over one database. -/

/-- A call of the repository: one transaction, whose answer may get lost, or an error. -/
def Called {α : Type} (tx : Draws → Tx Database α) (state : World) (answer : Except String α)
    (next : World) : Prop :=
  (∃ draws value db, tx draws state.db = .ok (value, db) ∧ next = { state with db := db } ∧
    (answer = .ok value ∨ ∃ error, answer = .error error)) ∨
  (∃ error, answer = .error error) ∧ next = state

/-- What a call does. The provider, the resolver and the clock may answer anything. -/
def CheckoutCmd.Effect (state : World) : (command : CheckoutCmd) → command.Answer → World → Prop
  | .inspectCheckout accountId actorId key, answer, next =>
    Called (fun draws => Billing.inspectCheckout draws accountId actorId key) state answer next
  | .prepareCheckout input, answer, next =>
    Called (fun draws => Billing.prepareCheckout draws input) state answer next
  | .finalizeCheckout intentId provider result, answer, next =>
    Called (fun draws => Billing.finalizeCheckout draws intentId provider result) state answer next
  | .failCheckout intentId provider code, answer, next =>
    Called (fun draws => Billing.failCheckout draws intentId provider code) state answer next
  | .now, _, next => next = state
  | .resolvePurchasableOffer .., _, next => next = state
  | .providerCheckout _, _, next => next = state

/-- The steps of the commerce that no checkout call takes. -/
def Step.isOther : Step → Bool
  | .prepareCheckout .. => false
  | .finalizeCheckout .. => false
  | .failCheckout .. => false
  | _ => true

variable {T : Type} {t : T}

/-- The checkout service: every thread is one call of `createCheckout`. -/
def checkouts (hashing : Hashing) (providerKey : String) (calls : T → CreateCheckoutCommand) :
    System T CheckoutCmd Answer String CheckoutResult World where
  prelude t := do return some (← createCheckout hashing providerKey (calls t))
  body t := do return some (← createCheckout hashing providerKey (calls t))
  effect _ command w answer next := command.Effect w.state answer next
  env w next := ∃ step : Step, step.isOther = true ∧ next = step.next hashing w.state

/-- The worlds of the checkout service. -/
abbrev CheckoutWorld (T : Type) : Type :=
  Concurrent.World T CheckoutCmd Answer String CheckoutResult World

theorem called_grows {tx : Draws → Tx Database α} (htx : ∀ draws, Keeps Grows (tx draws))
    {next : World} {answer : Except String α} (h : Called tx state answer next) :
    Grows state.db next.db := by
  rcases h with ⟨draws, value, db, hok, rfl, -⟩ | ⟨-, rfl⟩
  · exact htx draws state.db value db hok
  · exact refl _

theorem inspectCheckout_keeps (draws : Draws) (accountId actorId key : String) :
    Keeps Grows (inspectCheckout draws accountId actorId key) :=
  keeps_bind keeps_get fun _ => keeps_pure _

theorem CheckoutCmd.Effect.grows {next : World} {answer : command.Answer}
    (h : command.Effect state answer next) : Grows state.db next.db := by
  cases command with
  | inspectCheckout accountId actorId key =>
    exact called_grows (fun draws => inspectCheckout_keeps draws accountId actorId key) h
  | prepareCheckout input => exact called_grows (fun draws => prepareCheckout_grows draws input) h
  | finalizeCheckout intentId provider result =>
    exact called_grows (fun draws => finalizeCheckout_keeps draws intentId provider result) h
  | failCheckout intentId provider code =>
    exact called_grows (fun draws => failCheckout_grows draws intentId provider code) h
  | now | resolvePurchasableOffer | providerCheckout =>
    have hsame : next = state := h
    rw [hsame]
    exact refl _

/-- An intent of a call. -/
def CreateCheckoutCommand.Owns (hashing : Hashing) (command : CreateCheckoutCommand)
    (intent : CheckoutIntent) : Prop :=
  intent.Fits command.accountId (command.keyHash hashing) (command.fingerprint hashing)

/-- A request to the provider is about an intent of its call. -/
def Asked (hashing : Hashing) (command : CreateCheckoutCommand) (db : Database)
    (input : BillingProviderCheckoutInput) : Prop :=
  ∃ intent : CheckoutIntent, intent.Known db ∧ command.Owns hashing intent ∧
    input = intent.providerInput

/-- The invariant of the service: what its calls asked the provider for, and whose intents they
created. -/
structure CheckoutInv (hashing : Hashing) (calls : T → CreateCheckoutCommand)
    (w : CheckoutWorld T) : Prop where
  integrity : w.state.db.Integrity
  asked : ∀ t input answer pre post, .act t (.providerCheckout input) answer pre post ∈ w.log →
    Asked hashing (calls t) w.state.db input
  created : ∀ t input answer pre post, .act t (.prepareCheckout input) answer pre post ∈ w.log →
    ∀ row ∈ post.db.intents, (∀ old ∈ pre.db.intents, old.id ≠ row.id) →
      row.Known w.state.db ∧ (calls t).Owns hashing row

/-- What a call must know before it asks. -/
def CheckoutPre (hashing : Hashing) (command : CreateCheckoutCommand) :
    CheckoutCmd → CheckoutWorld T → Prop
  | .prepareCheckout input, _ => input.accountId = command.accountId ∧
    input.idempotencyKeyHash = command.keyHash hashing ∧
    input.requestFingerprintSha256 = command.fingerprint hashing
  | .providerCheckout input, w => Asked hashing command w.state.db input
  | _, _ => True

/-- The checkouts with the assertions before their calls and after their ends. -/
def checkoutProtocol (hashing : Hashing) (calls : T → CreateCheckoutCommand) :
    System.Protocol T CheckoutCmd Answer String CheckoutResult World where
  inv := CheckoutInv hashing calls
  pre t := CheckoutPre hashing (calls t)
  rely _ w w' := Extends w.state.db w'.state.db
  post _ _ _ := True

variable {hashing : Hashing} {providerKey : String} {calls : T → CreateCheckoutCommand}

theorem Asked.of_extends {command : CreateCheckoutCommand} {db db' : Database} (h : Extends db db')
    {input : BillingProviderCheckoutInput} (hasked : Asked hashing command db input) :
    Asked hashing command db' input := by
  obtain ⟨intent, hknown, howns, hinput⟩ := hasked
  exact ⟨intent, hknown.of_extends h, howns, hinput⟩

variable {w : CheckoutWorld T}

/-- One more event keeps the invariant, if it keeps its part of it. -/
theorem CheckoutInv.next (h : CheckoutInv hashing calls w) (hgrows : Grows w.state.db state.db)
    {event : Event T CheckoutCmd Answer String CheckoutResult World}
    (hasked : ∀ t input answer pre post, .act t (.providerCheckout input) answer pre post = event →
      Asked hashing (calls t) state.db input)
    (hcreated : ∀ t input answer pre post, .act t (.prepareCheckout input) answer pre post = event →
      ∀ row ∈ post.db.intents, (∀ old ∈ pre.db.intents, old.id ≠ row.id) →
        row.Known state.db ∧ (calls t).Owns hashing row) :
    CheckoutInv hashing calls ⟨state, event :: w.log⟩ where
  integrity := (hgrows h.integrity).1
  asked := by
    intro t input answer pre post hmem
    rcases List.mem_cons.mp hmem with hnew | hold
    · exact hasked t input answer pre post hnew
    · exact (h.asked t input answer pre post hold).of_extends (hgrows h.integrity).2
  created := by
    intro t input answer pre post hmem row hrow hfresh
    rcases List.mem_cons.mp hmem with hnew | hold
    · exact hcreated t input answer pre post hnew row hrow hfresh
    · obtain ⟨hknown, howns⟩ := h.created t input answer pre post hold row hrow hfresh
      exact ⟨hknown.of_extends (hgrows h.integrity).2, howns⟩

/-- What an answer of `prepareCheckout` and its rows come to for the call that made it. -/
theorem prepared_owns (command : CreateCheckoutCommand)
    (hpre : input.accountId = command.accountId ∧ input.idempotencyKeyHash = command.keyHash hashing ∧
      input.requestFingerprintSha256 = command.fingerprint hashing)
    {next : World} (hintegrity : state.db.Integrity) {answer : Except String CheckoutPrepareResult}
    (h : (CheckoutCmd.prepareCheckout input).Effect state answer next) :
    (∀ result intent, answer = .ok result → result.intent = some intent →
      Asked hashing command next.db intent.providerInput) ∧
    ∀ row ∈ next.db.intents, (∀ old ∈ state.db.intents, old.id ≠ row.id) →
      command.Owns hashing row := by
  obtain ⟨haccount, hkey, hfingerprint⟩ := hpre
  rcases h with ⟨draws, value, db', hok, rfl, hanswer⟩ | ⟨⟨error, rfl⟩, rfl⟩
  · have hprepared := prepareCheckout_commits draws input hintegrity value db' hok
    refine ⟨fun result intent hresult hintent => ?_, fun row hrow hfresh => ?_⟩
    · rcases hanswer with hvalue | ⟨error, herror⟩
      · rw [hvalue, Except.ok.injEq] at hresult
        rw [← hresult] at hintent
        obtain ⟨hknown, hfits⟩ := hprepared.answered intent hintent
        refine ⟨intent.toCheckoutIntent, hknown, ?_, rfl⟩
        rw [haccount, hkey, hfingerprint] at hfits
        exact hfits
      · rw [herror] at hresult
        cases hresult
    · rcases hprepared.rows row hrow with ⟨old, hold, hid⟩ | hfits
      · exact absurd hid (hfresh old hold)
      · rw [haccount, hkey, hfingerprint] at hfits
        exact hfits
  · refine ⟨fun result intent hresult => ?_, fun row hrow hfresh => ?_⟩
    · cases hresult
    · exact absurd rfl (hfresh row hrow)

/-! The calls keep to the protocol. -/

/-- A command that asks for nothing that must be known. -/
def CheckoutCmd.calm : CheckoutCmd → Prop
  | .prepareCheckout _ => False
  | .providerCheckout _ => False
  | _ => True

theorem calm_pre (h : command.calm) (w : CheckoutWorld T) :
    (checkoutProtocol hashing calls).pre t command w := by
  cases command <;> trivial

theorem act_rely {other : T} (h : CheckoutInv hashing calls w) {answer : command.Answer}
    (heffect : (checkouts hashing providerKey calls).effect t command w answer state) :
    (checkoutProtocol hashing calls).rely other w (w.act t command answer state) :=
  (heffect.grows h.integrity).2

/-- A call from a point on meets its preconditions. -/
def Safe (hashing : Hashing) (providerKey : String) (calls : T → CreateCheckoutCommand) (t : T)
    {α : Type} (program : CheckoutProg α) (w : CheckoutWorld T) : Prop :=
  System.wp (checkoutProtocol hashing calls) (checkouts hashing providerKey calls) t program
    (fun _ _ => True) (fun _ _ => True) w

theorem safe_ret (value : α) (w : CheckoutWorld T) :
    Safe hashing providerKey calls t (pure value) w := fun _ _ _ => trivial

theorem safe_act {next : command.Answer → CheckoutProg α}
    (h : ∀ w' : CheckoutWorld T, Extends w.state.db w'.state.db → CheckoutInv hashing calls w' →
      CheckoutPre hashing (calls t) command w' ∧ ∀ answer state,
        command.Effect w'.state answer state → CheckoutInv hashing calls (w'.act t command answer state) →
        Safe hashing providerKey calls t (next answer) (w'.act t command answer state)) :
    Safe hashing providerKey calls t (Prog.perform command >>= next) w := h

theorem finishExisting_only (command : CreateCheckoutCommand) (intent : CheckoutIntentSnapshot)
    (observation : CheckoutAccountObservation) :
    (finishExisting hashing providerKey command intent observation).Only CheckoutCmd.calm
      fun _ => True := by
  unfold finishExisting
  split
  · trivial
  split
  · trivial
  split
  · trivial
  · split
    · trivial
    · split <;> trivial
  · split
    · trivial
    · refine ⟨trivial, fun answer => ?_⟩
      cases answer <;> trivial

theorem admission_only (command : CreateCheckoutCommand) (intent : Option CheckoutIntentSnapshot) :
    (admission command intent).Only CheckoutCmd.calm fun _ => True := by
  cases intent with
  | some intent => trivial
  | none =>
    refine ⟨trivial, fun admittedAt => ⟨trivial, fun resolution => ?_⟩⟩
    cases resolution with
    | error error => trivial
    | ok resolution => cases resolution <;> trivial

/-- After a calm part a call goes on from where the others may have gone meanwhile. -/
theorem safe_calm_bind {β : Type} {program : CheckoutProg α} {f : α → CheckoutProg β}
    (hcalm : program.Only CheckoutCmd.calm fun _ => True)
    (hf : ∀ value (w' : CheckoutWorld T), Extends w.state.db w'.state.db →
      CheckoutInv hashing calls w' → Safe hashing providerKey calls t (f value) w') :
    Safe hashing providerKey calls t (program >>= f) w := by
  have hrefl : ∀ (t : T) (w : CheckoutWorld T), (checkoutProtocol hashing calls).rely t w w :=
    fun _ _ => Extends.rfl
  refine System.wp_bind hrefl (System.wp_only (fun _ _ _ _ => Extends.trans) ?_ hcalm ?_ ?_)
  · intro command hc w' hinv
    exact ⟨calm_pre hc w', fun answer state heffect _ => act_rely hinv heffect⟩
  · exact fun value _ w' hrely hinv => hf value w' hrely hinv
  · exact fun _ _ _ _ => trivial

theorem submitCheckout_safe {intent : CheckoutIntentSnapshot} {replay : Bool}
    (h : Asked hashing (calls t) w.state.db intent.providerInput) :
    Safe hashing providerKey calls t (submitCheckout providerKey intent replay) w := by
  refine safe_act fun w' hrely _ => ⟨h.of_extends hrely, fun answer state _ _ => ?_⟩
  cases answer with
  | error error => exact safe_ret _ _
  | ok result =>
    have hfinalize (w₁ : CheckoutWorld T) : Safe hashing providerKey calls t
        (settleCheckout providerKey intent replay result) w₁ := by
      refine safe_act fun w'' _ _ => ⟨trivial, fun answer state _ _ => ?_⟩
      cases answer <;> exact safe_ret _ _
    cases result with
    | UNAVAILABLE => exact safe_ret _ _
    | REJECTED => exact hfinalize _
    | CREATED providerCheckoutId providerPaymentId checkoutReference => exact hfinalize _

theorem continueCheckout_safe (observation : CheckoutInspection) (w : CheckoutWorld T) :
    Safe hashing providerKey calls t
      (continueCheckout hashing providerKey (calls t) observation) w := by
  unfold continueCheckout
  split
  · exact safe_ret _ _
  refine safe_calm_bind (admission_only (calls t) observation.intent) fun admitted w' _ _ => ?_
  cases admitted with
  | error result => exact safe_ret _ _
  | ok admitted =>
    refine safe_act fun w₁ _ hinv => ⟨⟨rfl, rfl, rfl⟩, fun answer state heffect hinv' => ?_⟩
    have hasked := (prepared_owns (calls t) ⟨rfl, rfl, rfl⟩ hinv.integrity heffect).1
    cases answer with
    | error error => exact safe_ret _ _
    | ok result =>
      cases result with
      | REJECTED code => exact safe_ret _ _
      | CREATED intent => exact submitCheckout_safe (hasked _ intent rfl rfl)
      | EXISTING intent =>
        refine safe_calm_bind (finishExisting_only (calls t) intent observation.account) ?_
        intro resumed w₂ hrely _
        cases resumed with
        | some resumed => exact safe_ret _ _
        | none => exact submitCheckout_safe ((hasked _ intent rfl rfl).of_extends hrely)

theorem createCheckout_safe (t : T) (w : CheckoutWorld T) :
    Safe hashing providerKey calls t (createCheckout hashing providerKey (calls t)) w := by
  refine safe_act fun w' _ _ => ⟨trivial, fun answer state _ _ => ?_⟩
  cases answer with
  | error error => exact safe_ret _ _
  | ok observation =>
    simp only []
    split
    · exact continueCheckout_safe observation _
    · next intent _ =>
      split
      · exact safe_ret _ _
      · refine safe_calm_bind (finishExisting_only (calls t) intent observation.account) ?_
        intro existing w₁ _ _
        cases existing with
        | some existing => exact safe_ret _ _
        | none => exact continueCheckout_safe observation w₁

/-- What a command leaves of the invariant, if it was performed under its precondition. -/
theorem act_inv (h : CheckoutInv hashing calls w) (hpre : CheckoutPre hashing (calls t) command w)
    {answer : command.Answer} (heffect : command.Effect w.state answer state) :
    CheckoutInv hashing calls (w.act t command answer state) := by
  have hgrows := heffect.grows
  refine h.next hgrows ?_ ?_
  · rintro t' input answer' pre post ⟨⟩
    have hasked : Asked hashing (calls t) w.state.db input := hpre
    exact hasked.of_extends (hgrows h.integrity).2
  · rintro t' input answer' pre post ⟨⟩ row hrow hfresh
    exact ⟨⟨row, hrow, rfl⟩, (prepared_owns _ hpre h.integrity heffect).2 row hrow hfresh⟩

theorem run_safe :
    System.wp (checkoutProtocol hashing calls) (checkouts hashing providerKey calls) t
      (do return some (← createCheckout hashing providerKey (calls t)))
      (System.ending (checkoutProtocol hashing calls) t) (fun _ _ => True) w := by
  refine System.wp_bind (fun _ _ => Extends.rfl) (System.wp_mono (createCheckout_safe t w) ?_ ?_)
  · exact fun _ _ _ _ _ _ _ => trivial
  · exact fun _ _ _ _ => trivial

theorem checkouts_sound (hashing : Hashing) (providerKey : String)
    (calls : T → CreateCheckoutCommand) :
    System.Sound (checkouts hashing providerKey calls) (checkoutProtocol hashing calls)
      ⟨emptyDatabase, []⟩ where
  rely_refl _ _ := Extends.rfl
  rely_trans _ _ _ _ := Extends.trans
  start := ⟨integrity_empty, by simp, by simp⟩
  act t command w answer state hinv hpre heffect :=
    ⟨act_inv hinv hpre heffect, fun _ _ => act_rely hinv heffect⟩
  env w state hinv henv := by
    obtain ⟨step, -, rfl⟩ := henv
    have hgrows := next_grows hashing w.state step
    exact ⟨hinv.next hgrows (by simp) (by simp), fun _ => (hgrows hinv.integrity).2⟩
  finish t outcome w hinv _ :=
    ⟨hinv.next (refl w.state.db) (by simp) (by simp), fun _ => Extends.rfl⟩
  prelude _ _ _ := run_safe
  body _ _ _ := run_safe

variable [DecidableEq T]

theorem steps_extends {cfg cfg' : Config T CheckoutCmd Answer String CheckoutResult World}
    (hreach : (checkouts hashing providerKey calls).Reachable ⟨emptyDatabase, []⟩ cfg)
    (hsteps : (checkouts hashing providerKey calls).Steps cfg cfg') :
    Extends cfg.world.state.db cfg'.world.state.db := by
  refine (checkouts_sound hashing providerKey calls).steps_induct
    (I := fun w => Extends cfg.world.state.db w.state.db) ?_ ?_ ?_ hreach Extends.rfl hsteps
  · exact fun t command w answer state hinv h _ heffect => h.trans (heffect.grows hinv.integrity).2
  · rintro w state hinv h ⟨step, -, rfl⟩
    exact h.trans (next_grows hashing w.state step hinv.integrity).2
  · exact fun _ _ _ _ h _ => h

theorem priceRevisionId_of_fingerprint (hinjective : Function.Injective hashing.sha256)
    {command other : CreateCheckoutCommand} (haccount : command.accountId = other.accountId)
    (h : command.fingerprint hashing = other.fingerprint hashing) :
    command.priceRevisionId = other.priceRevisionId := by
  have htext := hinjective h
  rw [haccount] at htext
  have hlist := congrArg String.toList htext
  exact String.toList_inj.mp (by simpa using hlist)

/-- The safety of the checkout protocol, between a state of a run and any later one. -/
structure CheckoutSafe (calls : T → CreateCheckoutCommand) (w w' : CheckoutWorld T) : Prop where
  /-- An account has one actionable intent at most. -/
  actionable : ∀ intent ∈ w.state.db.intents, ∀ other ∈ w.state.db.intents,
    intent.accountId = other.accountId → intent.Actionable w.state.db →
    other.Actionable w.state.db → intent = other
  /-- An intent that left `CREATING` stays as it is. -/
  left : ∀ intent ∈ w.state.db.intents, intent.state ≠ .CREATING →
    intent ∈ w'.state.db.intents ∧ ∀ later ∈ w'.state.db.intents, later.id = intent.id → later = intent
  /-- A payment is the one of its intent, with its account, price revision and terms. -/
  payment : ∀ payment ∈ w.state.db.payments, ∃ intent ∈ w.state.db.intents,
    intent.Carries payment ∧ ∀ other ∈ w.state.db.payments, intent.Carries other → other = payment
  /-- No payment is deleted, and what it was made for never changes. -/
  kept : ∀ payment ∈ w.state.db.payments, ∃ later ∈ w'.state.db.payments, later.sale = payment.sale
  /-- Requests to the provider under one id are the same. -/
  provider : ∀ t u input input' answer answer' pre pre' post post',
    .act t (.providerCheckout input) answer pre post ∈ w.log →
    .act u (.providerCheckout input') answer' pre' post' ∈ w.log →
    input.providerRequestId = input'.providerRequestId → input = input'
  /-- A call that reaches the provider is for the price revision that the intent of its account and
  key was created for. -/
  key : ∀ t u input prepared answer answer' pre pre' post post',
    .act t (.providerCheckout input) answer pre post ∈ w.log →
    .act u (.prepareCheckout prepared) answer' pre' post' ∈ w.log →
    (∃ row ∈ post'.db.intents, ∀ old ∈ pre'.db.intents, old.id ≠ row.id) →
    (calls t).accountId = (calls u).accountId →
    (calls t).idempotencyKey = (calls u).idempotencyKey →
    (calls t).priceRevisionId = (calls u).priceRevisionId

/-- Two known orders of one account and key are one. -/
theorem fingerprint_of_key {db : Database} (hintegrity : db.Integrity) {other : CheckoutIntent}
    (hknown : intent.Known db) (hother : other.Known db)
    (haccount : intent.accountId = other.accountId)
    (hkey : intent.idempotencyKeyHash = other.idempotencyKeyHash) :
    intent.requestFingerprintSha256 = other.requestFingerprintSha256 := by
  obtain ⟨row, hrow, horder⟩ := hknown
  obtain ⟨row', hrow', horder'⟩ := hother
  have hindex : intentIdempotencyKey row = some (other.accountId, other.idempotencyKeyHash) := by
    rw [← haccount, ← hkey]
    exact CheckoutIntent.idempotencyKey_of_order horder
  have hindex' : intentIdempotencyKey row' = some (other.accountId, other.idempotencyKeyHash) :=
    CheckoutIntent.idempotencyKey_of_order horder'
  have hsame := hintegrity.intentIdempotency.eq_of_key hrow hrow' hindex hindex'
  have hfingerprint := congrArg CheckoutIntent.requestFingerprintSha256 (horder.symm.trans (hsame ▸ horder'))
  exact hfingerprint

theorem order_of_id {db : Database} (hintegrity : db.Integrity) {other : CheckoutIntent}
    (hknown : intent.Known db) (hother : other.Known db) (hid : intent.id = other.id) :
    intent.order = other.order := by
  obtain ⟨row, hrow, horder⟩ := hknown
  obtain ⟨row', hrow', horder'⟩ := hother
  have hsame : row = row' := hintegrity.intentId.eq_of_key hrow hrow' rfl (by
    rw [CheckoutIntent.id_of_order horder, CheckoutIntent.id_of_order horder', hid])
  rw [← horder, ← horder', hsame]

/-- Whatever the interleaving of the calls, of the other transactions and of the provider's answers.
-/
theorem checkout_protocol_safety (hashing : Hashing) (providerKey : String)
    (calls : T → CreateCheckoutCommand) (hinjective : Function.Injective hashing.sha256)
    {cfg cfg' : Config T CheckoutCmd Answer String CheckoutResult World}
    (hreach : (checkouts hashing providerKey calls).Reachable ⟨emptyDatabase, []⟩ cfg)
    (hsteps : (checkouts hashing providerKey calls).Steps cfg cfg') :
    CheckoutSafe calls cfg.world cfg'.world := by
  have hsound := checkouts_sound hashing providerKey calls
  have hinv : CheckoutInv hashing calls cfg.world := (hsound.reachable hreach).1
  have hinv' : CheckoutInv hashing calls cfg'.world := (hsound.reachable (hreach.trans hsteps)).1
  have hextends := steps_extends hreach hsteps
  refine ⟨hinv.integrity.actionable, fun intent hintent hstate => ?_, fun payment hpayment => ?_,
    fun payment hpayment => ?_, ?_, ?_⟩
  · obtain ⟨later, hlater, -, hended⟩ := hextends.intents intent hintent
    rw [hended hstate] at hlater
    refine ⟨hlater, fun other hother hid => ?_⟩
    exact hinv'.integrity.intentId.eq_of_key hother hlater rfl (congrArg some hid.symm)
  · obtain ⟨intent, hintent, hcarries⟩ := hinv.integrity.checkout payment hpayment
    refine ⟨intent, hintent, hcarries, fun other hother hcarries' => ?_⟩
    have hid : other.id = payment.id :=
      Option.some.inj (hcarries'.paymentId.symm.trans hcarries.paymentId)
    exact hinv.integrity.paymentId.eq_of_key hother hpayment rfl (congrArg some hid.symm)
  · obtain ⟨later, hlater, hsale, -⟩ := hextends.payments payment hpayment
    exact ⟨later, hlater, hsale⟩
  · intro t u input input' answer answer' pre pre' post post' hasked hasked' hid
    obtain ⟨intent, hknown, -, rfl⟩ := hinv.asked t input answer pre post hasked
    obtain ⟨other, hknown', -, rfl⟩ := hinv.asked u input' answer' pre' post' hasked'
    exact CheckoutIntent.providerInput_of_order (order_of_id hinv.integrity hknown hknown' hid)
  · rintro t u input prepared answer answer' pre pre' post post' hasked hcreated ⟨row, hrow, hfresh⟩
      haccount hkey
    obtain ⟨intent, hknown, howns, -⟩ := hinv.asked t input answer pre post hasked
    obtain ⟨hknown', howns'⟩ := hinv.created u prepared answer' pre' post' hcreated row hrow hfresh
    refine priceRevisionId_of_fingerprint hinjective haccount ?_
    have hfingerprint := fingerprint_of_key hinv.integrity hknown hknown'
      (howns.accountId.trans (haccount.trans howns'.accountId.symm)) ?_
    · exact howns.fingerprint.symm.trans (hfingerprint.trans howns'.fingerprint)
    · rw [howns.keyHash, howns'.keyHash, CreateCheckoutCommand.keyHash, hkey]
      rfl

/-! Two calls with one key: the resolver refuses the price of the first, so that it creates no
    intent, and the second names another price. -/

/-- What a call of the repository answers, with fixed draws. -/
def sampleCalled {α : Type} (step : String) (tx : Draws → Tx Database α) (state : World) :
    Except String α × World :=
  match tx (sampleDraws step 0) state.db with
  | .ok (value, db) => (.ok value, { state with db := db })
  | .error _ => (.error step, state)

theorem sampleCalled_called (step : String) (tx : Draws → Tx Database α) (state : World) :
    Called tx state (sampleCalled step tx state).1 (sampleCalled step tx state).2 := by
  unfold sampleCalled
  split
  · next value db hok => exact .inl ⟨_, value, db, hok, rfl, .inl rfl⟩
  · exact .inr ⟨⟨step, rfl⟩, rfl⟩

def sampleAnswer : (command : CheckoutCmd) → World → command.Answer × World
  | .inspectCheckout accountId actorId key, state =>
    sampleCalled "inspect" (fun draws => inspectCheckout draws accountId actorId key) state
  | .prepareCheckout input, state =>
    sampleCalled "prepare" (fun draws => prepareCheckout draws input) state
  | .finalizeCheckout intentId provider result, state =>
    sampleCalled "finalize" (fun draws => finalizeCheckout draws intentId provider result) state
  | .failCheckout intentId provider code, state =>
    sampleCalled "fail" (fun draws => failCheckout draws intentId provider code) state
  | .now, state => ((0 : Date), state)
  | .resolvePurchasableOffer priceRevisionId _, state =>
    (.ok (if priceRevisionId = "price-1" then .OK (samplePrepareInput "key" 0).offer
      else .REJECTED "PRICE_NOT_FOUND"), state)
  | .providerCheckout input, state =>
    (.ok (.CREATED "checkout" input.providerRequestId "reference"), state)

theorem sampleAnswer_effect (command : CheckoutCmd) (state : World) :
    command.Effect state (sampleAnswer command state).1 (sampleAnswer command state).2 := by
  cases command with
  | now | resolvePurchasableOffer | providerCheckout => rfl
  | inspectCheckout | prepareCheckout | finalizeCheckout | failCheckout =>
    exact sampleCalled_called _ _ state

def sampleCalls (second : Bool) : CreateCheckoutCommand where
  accountId := "account"
  actorId := "owner"
  priceRevisionId := if second then "price-1" else "price-2"
  idempotencyKey := "key"

def sampleCheckouts : System Bool CheckoutCmd Answer String CheckoutResult World :=
  checkouts sampleHashing "provider" sampleCalls

/-- The calls before either has begun. -/
def openedRun : Config Bool CheckoutCmd Answer String CheckoutResult World :=
  let cfg := System.initial ⟨emptyDatabase, []⟩
  ⟨cfg.pool, cfg.world.env (sampleAuthority.next sampleHashing cfg.world.state)⟩

/-- The first call has ended. -/
def refusedRun : Config Bool CheckoutCmd Answer String CheckoutResult World :=
  (List.replicate 5 false).foldl (sampleCheckouts.turn fun _ => sampleAnswer) openedRun

/-- Both calls have ended. -/
def reusedRun : Config Bool CheckoutCmd Answer String CheckoutResult World :=
  (List.replicate 8 true).foldl (sampleCheckouts.turn fun _ => sampleAnswer) refusedRun

theorem refusedRun_reachable : sampleCheckouts.Reachable ⟨emptyDatabase, []⟩ refusedRun := by
  refine .head ?_ (System.turns_steps (fun _ c w => sampleAnswer_effect c w.state) _ openedRun)
  exact .env ⟨sampleAuthority, rfl, rfl⟩

theorem reusedRun_steps : sampleCheckouts.Steps refusedRun reusedRun :=
  System.turns_steps (fun _ c w => sampleAnswer_effect c w.state) _ refusedRun

/-- What a call has asked the provider for. -/
def requestsOf (t : Bool) (w : CheckoutWorld Bool) : List BillingProviderCheckoutInput :=
  w.log.filterMap fun
    | .act u (.providerCheckout input) _ _ _ => if u = t then some input else none
    | _ => none

/-- The result that a call has ended with. -/
def endOf : Thread CheckoutCmd Answer String CheckoutResult → Option CheckoutResult
  | .finished (.ok result) => some result
  | _ => none

/-- A key that a refused call used first reaches the provider with another price. -/
theorem refused_key_reaches_provider :
    (sampleCalls true).accountId = (sampleCalls false).accountId ∧
    (sampleCalls true).idempotencyKey = (sampleCalls false).idempotencyKey ∧
    (sampleCalls true).priceRevisionId ≠ (sampleCalls false).priceRevisionId ∧
    sampleCheckouts.Reachable ⟨emptyDatabase, []⟩ refusedRun ∧
    endOf (refusedRun.pool false) = some (.REJECTED (.offer "PRICE_NOT_FOUND") false) ∧
    requestsOf true refusedRun.world = [] ∧
    sampleCheckouts.Steps refusedRun reusedRun ∧ requestsOf true reusedRun.world ≠ [] :=
  ⟨by decide, by decide, by decide, refusedRun_reachable, by decide +kernel, by decide +kernel,
    reusedRun_steps, by decide +kernel⟩

/-- The two calls are safe, and the second has a payment. -/
theorem checkout_protocol_safety_reusedRun :
    reusedRun.world.state.db.payments.length = 1 ∧
    CheckoutSafe sampleCalls refusedRun.world reusedRun.world :=
  ⟨by decide +kernel,
    checkout_protocol_safety sampleHashing "provider" sampleCalls (fun _ _ h => h)
      refusedRun_reachable reusedRun_steps⟩

end SellerAgents.Billing
