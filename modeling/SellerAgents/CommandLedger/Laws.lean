import SellerAgents.CommandLedger.Writers

namespace SellerAgents.CommandLedger
open Js (JsMap Properties)

variable {κ : Type} [DecidableEq κ] {hash : Hash κ}

/-- An item that is not reserved any more, if it is still there. -/
def Ledger.Begun (data : Ledger κ) (entry : String × Nat) : Prop := ∀ receipt item,
  data.receipts.get entry.1 = some receipt → receipt.item entry.2 = some item → item.state ≠ .RESERVED

/-- A delivery that is not reserved any more, if it is still there. -/
def Ledger.Sent (data : Ledger κ) (deliveryId : String) : Prop := ∀ delivery,
  data.deliveries.get deliveryId = some delivery → delivery.state ≠ .COPY_RESERVED

/-- What holds of a ledger and of what was done through it. -/
structure World.Sound (hash : Hash κ) (w : World κ) : Prop where
  ledger : w.stored.Sound hash w.seen
  previews : ∀ preview ∈ w.previews, preview.confirmationId ∈ w.seen ∧ ∀ approval,
    w.stored.approvals.get preview.confirmationId = some (.retry approval) → Ledger.Agrees approval preview
  dispatched : ∀ entry ∈ w.dispatches, entry.1 ∈ w.seen ∧ w.stored.Begun entry
  dispatchedOnce : w.dispatches.Nodup
  sent : ∀ deliveryId ∈ w.sends, deliveryId ∈ w.seen ∧ w.stored.Sent deliveryId
  sentOnce : w.sends.Nodup

namespace Ledger

variable {data data' : Ledger κ} {context : Context} {env : Surroundings} {seen : List String}

/-- The writer of a command is entered with a ledger and leaves another. -/
theorem writer_writes {command : Command} {fn : Ledger κ → Written κ} {answer : Answer κ}
    (hfn : command.writer hash context env = .ok fn) (h : data.Sound hash seen) (hid : env.id ∉ seen)
    (hpreview : ∀ preview confirmed selection blockVersion parserContract credentialRevision,
      command = .confirmRetry preview confirmed selection blockVersion parserContract credentialRevision →
      ∀ approval, data.approvals.get preview.confirmationId = some (.retry approval) →
        Agrees approval preview)
    (hok : fn data = .ok (data', answer)) :
    Writes hash seen (env.id :: (command.supplied ++ seen)) data data' := by
  cases command with
  | reserveCommand blockOriginKey blockVersion items source =>
    simp only [Command.writer] at hfn
    split at hfn
    · cases hfn
    · obtain ⟨captured, -, rfl⟩ := Js.map_eq_ok.mp hfn
      exact reserve_writes h hid hok
  | beginProviderAttempt executionId ordinal =>
    cases hfn
    exact begin_writes h hok
  | recordProviderOutcome executionId ordinal providerAttemptId outcome bufferDigest =>
    cases hfn
    exact recordOutcome_writes h hok
  | previewRetry executionId blockVersion selection parserContract credentialRevision =>
    obtain ⟨selected, -, hfn⟩ := Js.bind_eq_ok.mp hfn
    split at hfn
    · cases hfn
    · cases hfn
      exact retryPreview_writes h hid hok
  | confirmRetry preview confirmed selection blockVersion parserContract credentialRevision =>
    simp only [Command.writer] at hfn
    split at hfn
    · cases hfn
    · obtain ⟨selected, -, rfl⟩ := Js.map_eq_ok.mp hfn
      exact retryConfirm_writes h hid (hpreview _ _ _ _ _ _ rfl) hok
  | recordDeliveryBuffer executionId bufferDigest expiresAt previous read =>
    simp only [Command.writer] at hfn
    split at hfn
    · cases hfn
    · obtain ⟨buffer, -, hfn⟩ := Js.bind_eq_ok.mp hfn
      split at hfn
      · cases hfn
      · cases hfn
        cases previous <;> exact recordBuffer_writes h hok
  | previewCopy executionId read =>
    obtain ⟨buffer, -, rfl⟩ := Js.map_eq_ok.mp hfn
    exact copyPreview_writes h hid hok
  | confirmCopy confirmationId confirmed read =>
    simp only [Command.writer] at hfn
    split at hfn
    · cases hfn
    · obtain ⟨buffer, -, rfl⟩ := Js.map_eq_ok.mp hfn
      exact copyConfirm_writes h hid hok
  | beginCopyDelivery deliveryId read =>
    obtain ⟨buffer, -, rfl⟩ := Js.map_eq_ok.mp hfn
    exact beginDelivery_writes h hok
  | recordCopyOutcome deliveryId confirmed =>
    simp only [Command.writer] at hfn
    split at hfn
    · cases hfn
    · cases hfn
      exact recordCopy_writes h hok

omit [DecidableEq κ] in
/-- A dispatch is told for an item that was reserved and is not any more. -/
theorem begin_dispatch {executionId providerAttemptId : String} {ordinal : Nat} {now : Int} {id : String}
    {itemId : κ × Nat}
    (hok : data.begin executionId ordinal context now id = .ok (data', .dispatch providerAttemptId itemId)) :
    (∃ receipt item, data.receipts.get executionId = some receipt ∧ receipt.item ordinal = some item ∧
      item.state = .RESERVED) ∧ data'.Begun (executionId, ordinal) := by
  obtain ⟨receipt, hfor, hok⟩ := Js.bind_eq_ok.mp hok
  have hget := (receiptFor_ok hfor).1
  split at hok
  · cases hok
  · rename_i item hitem
    split at hok
    · cases hok
    · rename_i hstate
      split at hok
      · cases hok
      · cases hok
        refine ⟨⟨receipt, item, hget, hitem, not_not.mp hstate⟩, fun receipt' item' hget' hitem' => ?_⟩
        rw [get_setReceipt, if_pos rfl, Option.some.injEq] at hget'
        subst hget'
        cases (Receipt.updateItem_item (f := fun item => { item with
          state := .PROVIDER_INTENT, providerAttemptId := some providerAttemptId, intentAt := some now })
          (fun _ => rfl) hitem).symm.trans hitem'
        simp

omit [DecidableEq κ] in
theorem beginDelivery_send {deliveryId deliveryId' bufferDigest : String} {buffer : Buffer} {now expiresAt : Int}
    (hok : data.beginDelivery deliveryId buffer context now =
      .ok (data', .send deliveryId' bufferDigest expiresAt)) :
    (∃ delivery, data.deliveries.get deliveryId = some delivery ∧ delivery.state = .COPY_RESERVED) ∧
    data'.Sent deliveryId := by
  unfold beginDelivery at hok
  split at hok
  · cases hok
  · rename_i delivery hget
    split at hok
    · cases hok
    · split at hok
      · cases hok
      · split at hok
        · cases hok
        · rename_i hstate
          cases hok
          refine ⟨⟨delivery, hget, not_not.mp hstate⟩, fun delivery' hget' => ?_⟩
          rw [get_setDelivery, if_pos rfl, Option.some.injEq] at hget'
          subst hget'
          simp

end Ledger

section Told

omit [DecidableEq κ] in
@[simp] theorem Command.dispatched_error (command : Command) (code : String) :
    command.dispatched (.error code : Except String (Answer κ)) = [] := by
  cases command <;> rfl

omit [DecidableEq κ] in
@[simp] theorem Command.sent_error (command : Command) (code : String) :
    command.sent (.error code : Except String (Answer κ)) = [] := by
  cases command <;> rfl

omit [DecidableEq κ] in
theorem Command.dispatched_cases (command : Command) (result : Except String (Answer κ)) :
    command.dispatched result = [] ∨ ∃ executionId ordinal id itemId,
    command = .beginProviderAttempt executionId ordinal ∧ result = .ok (.dispatch id itemId) ∧
      command.dispatched result = [(executionId, ordinal)] := by
  unfold Command.dispatched
  split
  · rename_i executionId ordinal id itemId
    exact .inr ⟨executionId, ordinal, id, itemId, rfl, rfl, rfl⟩
  · exact .inl rfl

omit [DecidableEq κ] in
theorem Command.sent_cases (command : Command) (result : Except String (Answer κ)) :
    command.sent result = [] ∨ ∃ deliveryId read named digest expiresAt,
    command = .beginCopyDelivery deliveryId read ∧ result = .ok (.send named digest expiresAt) ∧
      command.sent result = [deliveryId] := by
  unfold Command.sent
  split
  · rename_i deliveryId read named digest expiresAt
    exact .inr ⟨deliveryId, read, named, digest, expiresAt, rfl, rfl, rfl⟩
  · exact .inl rfl

end Told

namespace World

variable {w : World κ} {events : List Event}

omit [DecidableEq κ] in
theorem Sound.empty (hash : Hash κ) : (World.empty : World κ).Sound hash := by
  have hnone : ∀ {α : Type} {id : String} {value : α},
      (JsMap.empty : JsMap String α).get id = some value → False := fun hget =>
    nomatch (JsMap.get_empty _).symm.trans hget
  exact ⟨⟨fun _ _ hget => (hnone hget).elim, fun _ _ hget => (hnone hget).elim,
    fun _ _ hget => (hnone hget).elim, fun _ _ hget => (hnone hget).elim,
    fun _ _ _ _ hget => (hnone hget).elim⟩, fun _ hmem => absurd hmem List.not_mem_nil,
    fun _ hmem => absurd hmem List.not_mem_nil, List.nodup_nil, fun _ hmem => absurd hmem List.not_mem_nil,
    List.nodup_nil⟩

/-- What one event does to the stored ledger. -/
structure Stepped (hash : Hash κ) (w w' : World κ) : Prop where
  sound : w'.Sound hash
  seen : w.seen ⊆ w'.seen
  advance : Ledger.Advance w.seen w.stored w'.stored

omit [DecidableEq κ] in
/-- The ledger that a call leaves, when it was told nothing to do. -/
theorem Sound.store (h : w.Sound hash) {data : Ledger κ} {seen : List String} (hseen : w.seen ⊆ seen)
    (hwrites : Ledger.Writes hash w.seen seen w.stored data) :
    World.Sound hash { w with stored := data, seen := seen } := by
  refine ⟨hwrites.sound, fun preview hmem => ?_, fun entry hmem => ?_, h.dispatchedOnce,
    fun deliveryId hmem => ?_, h.sentOnce⟩
  · obtain ⟨hknown, hterms⟩ := h.previews preview hmem
    refine ⟨hseen hknown, fun approval hget => ?_⟩
    obtain ⟨old, hold, hagrees⟩ := hwrites.advance.retries _ hknown approval hget
    exact hagrees.trans (hterms old hold)
  · obtain ⟨hknown, hdone⟩ := h.dispatched entry hmem
    refine ⟨hseen hknown, fun receipt item hget hitem hstate => ?_⟩
    obtain ⟨old, hold, hfollows⟩ := hwrites.advance.receipts _ hknown receipt hget
    obtain ⟨item₀, hitem₀, hfollowed⟩ := hfollows.item_of hitem
    exact hdone old item₀ hold hitem₀ (hfollowed.reserved hstate)
  · obtain ⟨hknown, hdone⟩ := h.sent deliveryId hmem
    refine ⟨hseen hknown, fun delivery hget hstate => ?_⟩
    obtain ⟨old, hold, hold'⟩ := hwrites.advance.deliveries _ hknown delivery hget hstate
    exact hdone old hold hold'

theorem Sound.readPreview (h : w.Sound hash) (confirmationId : String) :
    Stepped hash w (w.step hash (.readPreview confirmationId)) := by
  unfold step
  dsimp only
  split
  · rename_i approval hget
    refine ⟨⟨h.ledger, fun preview hmem => ?_, h.dispatched, h.dispatchedOnce, h.sent, h.sentOnce⟩,
      fun _ hmem => hmem, .refl _ _⟩
    obtain rfl | hmem := List.mem_cons.mp hmem
    · have hsound := h.ledger.retries confirmationId preview hget
      rw [hsound.named]
      refine ⟨hsound.seen, fun approval happroval => ?_⟩
      cases hget.symm.trans happroval
      exact ⟨rfl, rfl, rfl⟩
    · exact h.previews preview hmem
  · exact ⟨h, fun _ hmem => hmem, .refl _ _⟩

section Told

variable {command : Command} {context : Context} {env : Surroundings} {fn : Ledger κ → Written κ}
  {data compacted : Ledger κ} {answer : Answer κ} {seen : List String}

section

variable (h : w.Sound hash) (hfn : command.writer hash context env = .ok fn)
  (hok : fn compacted = .ok (data, answer)) (hcompact : Ledger.Advance w.seen w.stored compacted)
include h hfn hok hcompact

/-- What a call is told to dispatch was not told before, and is not reserved any more. -/
theorem Sound.told_dispatch (hknown : ∀ id, compacted.HasReceipt id → id ∈ w.seen)
    (hstored : ∀ entry ∈ w.dispatches, entry.1 ∈ seen ∧ data.Begun entry) (hsub : w.seen ⊆ seen) :
    (∀ entry ∈ command.dispatched (.ok answer) ++ w.dispatches, entry.1 ∈ seen ∧ data.Begun entry) ∧
    (command.dispatched (.ok answer) ++ w.dispatches).Nodup := by
  rcases Command.dispatched_cases command (.ok answer) with
    hnone | ⟨executionId, ordinal, id, itemId, rfl, hanswer, hsome⟩
  · rw [hnone]
    exact ⟨hstored, h.dispatchedOnce⟩
  · cases hfn
    cases hanswer
    obtain ⟨⟨receipt, item, hget, hitem, hstate⟩, hafter⟩ := Ledger.begin_dispatch hok
    have hid := hknown executionId ⟨receipt, hget⟩
    rw [hsome, List.singleton_append]
    refine ⟨fun entry hmem => ?_, List.nodup_cons.mpr ⟨fun hmem => ?_, h.dispatchedOnce⟩⟩
    · obtain rfl | hmem := List.mem_cons.mp hmem
      · exact ⟨hsub hid, hafter⟩
      · exact hstored entry hmem
    · obtain ⟨old, hold, hfollows⟩ := hcompact.receipts executionId hid receipt hget
      obtain ⟨item₀, hitem₀, hfollowed⟩ := hfollows.item_of hitem
      exact (h.dispatched _ hmem).2 old item₀ hold hitem₀ (hfollowed.reserved hstate)

/-- What a call is told to send was not told before, and is not reserved any more. -/
theorem Sound.told_send
    (hknown : ∀ id delivery, compacted.deliveries.get id = some delivery → id ∈ w.seen)
    (hstored : ∀ deliveryId ∈ w.sends, deliveryId ∈ seen ∧ data.Sent deliveryId)
    (hsub : w.seen ⊆ seen) :
    (∀ deliveryId ∈ command.sent (.ok answer) ++ w.sends, deliveryId ∈ seen ∧ data.Sent deliveryId) ∧
    (command.sent (.ok answer) ++ w.sends).Nodup := by
  rcases Command.sent_cases command (.ok answer) with
    hnone | ⟨deliveryId, read, named, digest, expiresAt, rfl, hanswer, hsome⟩
  · rw [hnone]
    exact ⟨hstored, h.sentOnce⟩
  · cases hanswer
    obtain ⟨buffer, -, rfl⟩ := Js.map_eq_ok.mp hfn
    obtain ⟨⟨delivery, hget, hstate⟩, hafter⟩ := Ledger.beginDelivery_send hok
    have hid := hknown deliveryId delivery hget
    rw [hsome, List.singleton_append]
    refine ⟨fun other hmem => ?_, List.nodup_cons.mpr ⟨fun hmem => ?_, h.sentOnce⟩⟩
    · obtain rfl | hmem := List.mem_cons.mp hmem
      · exact ⟨hsub hid, hafter⟩
      · exact hstored other hmem
    · obtain ⟨old, hold, hreserved⟩ := hcompact.deliveries deliveryId hid delivery hget hstate
      exact (h.sent _ hmem).2 old hold hreserved

end

end Told

/-- A call fails and changes nothing, or its writer is done; it is told to go on only when the write
is confirmed. -/
theorem perform_cases (hash : Hash κ) (context : Context) (env : Surroundings) (command : Command)
    (stored : Ledger κ) : (∃ code, command.perform hash context env stored = (stored, .error code)) ∨
    ∃ fn data answer, command.writer hash context env = .ok fn ∧
      fn (stored.compactCompletedWork context) = .ok (data, answer) ∧
      ((∃ code, command.perform hash context env stored = (data, .error code)) ∨
        command.perform hash context env stored = (data, .ok answer)) := by
  unfold Command.perform
  split
  · exact .inl ⟨_, rfl⟩
  · rename_i fn hfn
    unfold mutate
    split
    · exact .inl ⟨_, rfl⟩
    · split
      · exact .inl ⟨_, rfl⟩
      · rename_i data answer hok
        cases env.confirmed <;> cases env.landed <;> cases env.stillAuthorized
        case false.false.false | false.false.true => exact .inl ⟨_, rfl⟩
        case true.false.true | true.true.true => exact .inr ⟨fn, data, answer, hfn, hok, .inr rfl⟩
        all_goals exact .inr ⟨fn, data, answer, hfn, hok, .inl ⟨_, rfl⟩⟩

theorem Sound.call (h : w.Sound hash) (context : Context) (env : Surroundings) (command : Command) :
    Stepped hash w (w.step hash (.call context env command)) := by
  unfold step
  dsimp only
  split
  · rename_i hadmits
    obtain ⟨hid, hread⟩ := Bool.and_eq_true_iff.mp hadmits
    have hnew : env.id ∉ w.seen := of_decide_eq_true (Bool.and_eq_true_iff.mp hid).1
    have hsub : w.seen ⊆ env.id :: (command.supplied ++ w.seen) := fun _ hmem =>
      List.mem_cons_of_mem _ (List.mem_append_right _ hmem)
    rcases perform_cases hash context env command w.stored with
      ⟨code, hfailed⟩ | ⟨fn, data, answer, hfn, hok, hresult⟩
    · rw [hfailed, Command.dispatched_error, Command.sent_error]
      exact ⟨h.store hsub (.same h.ledger hsub), hsub, .refl _ _⟩
    · have hcompact := h.ledger.compact context
      have hadvance := Ledger.Advance.compact w.seen w.stored context
      have hwritten := Ledger.writer_writes hfn hcompact hnew (by
        rintro preview confirmed selection blockVersion parserContract credentialRevision rfl approval hget
        obtain ⟨hknown, hterms⟩ := h.previews preview (of_decide_eq_true hread)
        obtain ⟨old, hold, hagrees⟩ := hadvance.retries _ hknown approval hget
        exact hagrees.trans (hterms old hold)) hok
      have hwrites : Ledger.Writes hash w.seen (env.id :: (command.supplied ++ w.seen)) w.stored data :=
        ⟨hwritten.sound, hadvance.next hwritten.advance (fun _ => h.ledger.known) fun _ => hcompact.known⟩
      have hstore := h.store hsub hwrites
      obtain ⟨code, hfailed⟩ | htold := hresult
      · rw [hfailed, Command.dispatched_error, Command.sent_error]
        exact ⟨hstore, hsub, hwrites.advance⟩
      · rw [htold]
        have hdispatch := h.told_dispatch hfn hok hadvance (fun _ => hcompact.known) hstore.dispatched hsub
        have hsend := h.told_send hfn hok hadvance
          (fun id delivery hget => (hcompact.deliveries id delivery hget).seen) hstore.sent hsub
        exact ⟨⟨hstore.ledger, hstore.previews, hdispatch.1, hdispatch.2, hsend.1, hsend.2⟩, hsub,
          hwrites.advance⟩
  · exact ⟨h, fun _ hmem => hmem, .refl _ _⟩

theorem Sound.step (h : w.Sound hash) (event : Event) : Stepped hash w (w.step hash event) := by
  cases event with
  | readPreview confirmationId => exact h.readPreview confirmationId
  | call context env command => exact h.call context env command

theorem Sound.run (h : w.Sound hash) (events : List Event) : Stepped hash w (w.run hash events) := by
  induction events generalizing w with
  | nil => exact ⟨h, fun _ hmem => hmem, .refl _ _⟩
  | cons event rest ih =>
    have hstep := h.step event
    have hrest := ih hstep.sound
    exact ⟨hrest.sound, fun _ hmem => hrest.seen (hstep.seen hmem),
      hstep.advance.trans hrest.advance hstep.seen (fun _ => h.ledger.known)
        fun _ => hstep.sound.ledger.known⟩

end World

/-- Every record that another one names is in the ledger; a delivery that was made before its
command was copied names no approval. -/
structure Ledger.Linked (data : Ledger κ) : Prop where
  predecessor : ∀ id receipt target, data.receipts.get id = some receipt →
    receipt.predecessor = some target → data.HasReceipt target
  origin : ∀ id receipt, data.receipts.get id = some receipt →
    ∃ revision, data.origins.get receipt.blockOriginKey = some revision ∧ receipt.approvalRevision ≤ revision
  retry : ∀ id approval, data.approvals.get id = some (.retry approval) →
    (∃ revision, data.origins.get approval.blockOriginKey = some revision) ∧
      data.HasReceipt approval.predecessor ∧
        ∀ executionId, approval.consumedBy = some executionId → data.HasReceipt executionId
  copy : ∀ id approval, data.approvals.get id = some (.copy approval) →
    data.HasReceipt approval.executionId ∧ ∀ deliveryId, approval.consumedBy = some deliveryId →
      ∃ delivery, data.deliveries.get deliveryId = some delivery ∧ delivery.executionId = approval.executionId
  delivery : ∀ id delivery, data.deliveries.get id = some delivery →
    data.HasReceipt delivery.executionId ∧ (delivery.original = false → data.Confirmed id delivery)

omit [DecidableEq κ] in
theorem Ledger.Sound.linked {data : Ledger κ} {seen : List String} (h : data.Sound hash seen) :
    data.Linked where
  predecessor id receipt target hget htarget := (h.receipts id receipt hget).predecessor target htarget
  origin id receipt hget := (h.receipts id receipt hget).origin
  retry id approval hget :=
    have hsound := h.retries id approval hget
    ⟨hsound.origin, hsound.predecessor, hsound.consumed⟩
  copy id approval hget :=
    have hsound := h.copies id approval hget
    ⟨hsound.execution, hsound.consumed⟩
  delivery id delivery hget :=
    have hsound := h.deliveries id delivery hget
    ⟨hsound.execution, hsound.confirmed⟩

/-- What a command ledger keeps in every run of its calls. -/
structure LedgerLaws (w : World κ) : Prop where
  /-- An item is dispatched to the provider once, and a delivery is sent once. -/
  dispatchedOnce : w.dispatches.Nodup
  sentOnce : w.sends.Nodup
  /-- A block version has one receipt for each approval of it. -/
  distinct : ∀ id other receipt receipt', w.stored.receipts.get id = some receipt →
    w.stored.receipts.get other = some receipt' → receipt.commandKey = receipt'.commandKey → id = other
  linked : w.stored.Linked

/-- Whatever is called in whatever order, also when writes land unconfirmed. -/
theorem ledger_laws (hash : Hash κ) (events : List Event) : LedgerLaws (World.empty.run hash events) :=
  have h := ((World.Sound.empty hash).run events).sound
  ⟨h.dispatchedOnce, h.sentOnce, h.ledger.distinct, h.ledger.linked⟩

/-- Keys that are what they are the hash of. -/
def Hash.identity : Hash (String × String × Nat) where
  commandKey blockOriginKey blockVersion approvalRevision := (blockOriginKey, blockVersion, approvalRevision)
  injective h := by simpa using h

/-- A call at a time when nothing fails. -/
def Event.at (now : Int) (id : String) (command : Command) : Event :=
  .call ⟨some (.text "account"), none, none, none, none, some (.text "work"), none, none, none, none, ""⟩
    ⟨now, id, true, true, false, true⟩ command

-- The second call for an item is not told to dispatch it.
example : (World.empty.run Hash.identity
    [.at 0 "a" (.reserveCommand "block" "version" [⟨0, "input", true⟩] none),
      .at 1 "b" (.beginProviderAttempt "a" 0), .at 2 "c" (.beginProviderAttempt "a" 0)]).dispatches =
    [("a", 0)] := by decide +kernel

/-- What an unknown outcome means for everything that comes after it. -/
structure FenceLaws (w w' : World κ) : Prop where
  /-- It is kept for good. -/
  kept : ∀ id receipt, w.stored.receipts.get id = some receipt → receipt.Uncertain →
    ∃ receipt', w'.stored.receipts.get id = some receipt' ∧ receipt.Follows receipt' ∧ receipt'.Uncertain
  /-- A later execution of its block is a retry of an earlier one. -/
  fenced : ∀ id receipt receipt' other, w.stored.receipts.get other = some receipt → receipt.Uncertain →
    w.stored.receipts.get id = none → w'.stored.receipts.get id = some receipt' →
      receipt'.blockOriginKey = receipt.blockOriginKey →
        ∃ predecessor, receipt'.predecessor = some predecessor ∧ w'.stored.HasReceipt predecessor

/-- A receipt whose outcome is uncertain is kept in every run, and a later execution of its block is
a retry of an earlier one. -/
theorem fence_laws (hash : Hash κ) (earlier later : List Event) :
    FenceLaws (World.empty.run hash earlier) ((World.empty.run hash earlier).run hash later) := by
  have h := ((World.Sound.empty hash).run earlier).sound
  have hrun := h.run later
  refine ⟨fun id receipt hget hun => ?_, fun id receipt receipt' other hother hun hnone hget horigin => ?_⟩
  · obtain ⟨receipt', hget'⟩ := hrun.advance.uncertain id receipt hget hun
    obtain ⟨old, hold, hfollows⟩ :=
      hrun.advance.receipts id (h.ledger.known ⟨receipt, hget⟩) receipt' hget'
    cases hget.symm.trans hold
    exact ⟨receipt', hget', hfollows, hfollows.uncertain hun⟩
  · have hretry := hrun.advance.fenced id receipt' hnone hget ⟨other, receipt, hother, horigin.symm, hun⟩
    cases hpredecessor : receipt'.predecessor with
    | none => exact absurd hpredecessor hretry
    | some predecessor =>
      exact ⟨predecessor, rfl, hrun.sound.ledger.linked.predecessor id receipt' predecessor hget hpredecessor⟩

/-- What a compaction takes away is the greatest set of candidates that may go together, and empty
without an account or a Work. -/
def Ledger.RetiresGreatest (data : Ledger κ) (context : Context) : Prop :=
  ∃ removed : List String, removed ⊆ data.candidates context ∧ data.Removable removed ∧
    (∀ id, id ∈ removed ↔
      data.HasReceipt id ∧ (data.compactCompletedWork context).receipts.get id = none) ∧
    (nonempty context.accountId = true → nonempty context.workSessionId = true →
      ∀ removable, removable ⊆ data.candidates context → data.Removable removable →
        removable ⊆ removed)

omit [DecidableEq κ] in
theorem Ledger.compact_greatest (data : Ledger κ) (context : Context) :
    data.RetiresGreatest context := by
  unfold RetiresGreatest compactCompletedWork
  split
  · rename_i hidle
    refine ⟨[], List.nil_subset _, ⟨by simp, by simp, by simp⟩, fun id => ?_, fun haccount hsession => ?_⟩
    · simp only [List.not_mem_nil, HasReceipt, false_iff, not_and]
      rintro ⟨receipt, hget⟩ hnone
      cases hget.symm.trans hnone
    · simp [haccount, hsession] at hidle
  · refine ⟨data.removable context, fun id => removable_candidates, removable_closed data context,
      fun id => ⟨fun hmem => ?_, ?_⟩, fun _ _ removable => removable_greatest⟩
    · obtain ⟨receipt, hget, -⟩ := of_candidates (removable_candidates hmem)
      refine ⟨⟨receipt, hget⟩, ?_⟩
      rw [without_receipts, hget, Option.filter_some, if_neg (by simp [hmem])]
    · rintro ⟨⟨receipt, hget⟩, hgone⟩
      by_contra hkept
      rw [without_receipts, hget, Option.filter_some, if_pos (decide_eq_true hkept)] at hgone
      cases hgone

/-- What a compaction takes away and what it leaves. -/
structure CompactionLaws (data : Ledger κ) (context : Context) : Prop where
  completed : ∀ id receipt, data.receipts.get id = some receipt →
    (data.compactCompletedWork context).receipts.get id = none →
      receipt.context.accountId = context.accountId ∧
        receipt.context.workSessionId ≠ context.workSessionId ∧ ∀ item ∈ receipt.items, item.state = .RESULT
  delivered : ∀ id delivery, data.deliveries.get id = some delivery →
    (data.compactCompletedWork context).deliveries.get id = none →
      delivery.state = .CONFIRMED ∧ (data.compactCompletedWork context).receipts.get delivery.executionId = none
  unchanged : ∀ id receipt, (data.compactCompletedWork context).receipts.get id = some receipt →
    data.receipts.get id = some receipt
  linked : (data.compactCompletedWork context).Linked
  greatest : data.RetiresGreatest context
  /-- The order of the entries does not matter. -/
  ordered : ∀ data', Ledger.Same data data' →
    Ledger.Same (data.compactCompletedWork context) (data'.compactCompletedWork context)

/-- Compaction of any reachable ledger removes the greatest set of entries that may go together, and
leaves no reference without its entry. -/
theorem compaction_laws (hash : Hash κ) (events : List Event) (context : Context) :
    CompactionLaws (World.empty.run hash events).stored context := by
  have h := ((World.Sound.empty hash).run events).sound.ledger
  refine ⟨fun id receipt hget hgone => Ledger.compacted_receipt hget hgone, fun id delivery hget hgone => ?_,
    fun id receipt hget => Ledger.compact_receipt hget, (h.compact context).linked,
    Ledger.compact_greatest _ context,
    fun data' hsame => hsame.compactCompletedWork context⟩
  · unfold Ledger.compactCompletedWork at hgone ⊢
    split at hgone
    · cases hget.symm.trans hgone
    · rename_i hactive
      rw [if_neg hactive]
      rw [Ledger.without_deliveries, hget, Option.filter_some] at hgone
      split at hgone
      · cases hgone
      · rename_i hgoes
        simp only [Bool.not_eq_true', Bool.not_eq_false, Bool.and_eq_true, decide_eq_true_eq] at hgoes
        refine ⟨hgoes.1, ?_⟩
        rw [Ledger.without_receipts]
        cases (World.run hash World.empty events).stored.receipts.get delivery.executionId with
        | none => rfl
        | some receipt => rw [Option.filter_some, if_neg (by simp [hgoes.2])]

end SellerAgents.CommandLedger
