import SellerAgents.CommandLedger.Compaction

namespace SellerAgents.CommandLedger
open Js (JsMap Properties)

/-- The states an item may have after a state: a dispatch and a known outcome are for good. -/
def ItemState.Follows : ItemState → ItemState → Prop
  | .RESERVED, _ => True
  | .PROVIDER_INTENT, after => after ≠ .RESERVED
  | .RESULT, after => after = .RESULT
  | .UNKNOWN, after => after = .UNKNOWN

theorem ItemState.Follows.refl (state : ItemState) : state.Follows state := by
  cases state <;> simp [Follows]

theorem ItemState.Follows.trans {a b c : ItemState} (h : a.Follows b) (h' : b.Follows c) : a.Follows c := by
  cases a <;> cases b <;> cases c <;> simp_all [Follows]

theorem ItemState.Follows.reserved {a b : ItemState} (h : a.Follows b) (hb : b = .RESERVED) :
    a = .RESERVED := by
  cases a <;> simp_all [Follows]

variable {κ : Type}

/-- What may become of an item. -/
def Item.Follows (item item' : Item κ) : Prop :=
  item'.ordinal = item.ordinal ∧ item.state.Follows item'.state

/-- What a receipt may become. -/
structure Receipt.Follows (receipt receipt' : Receipt κ) : Prop where
  executionId : receipt'.executionId = receipt.executionId
  commandKey : receipt'.commandKey = receipt.commandKey
  blockOriginKey : receipt'.blockOriginKey = receipt.blockOriginKey
  blockVersion : receipt'.blockVersion = receipt.blockVersion
  approvalRevision : receipt'.approvalRevision = receipt.approvalRevision
  predecessor : receipt'.predecessor = receipt.predecessor
  items : List.Forall₂ Item.Follows receipt.items receipt'.items

namespace Receipt

variable {receipt receipt' receipt'' : Receipt κ} {ordinal : Nat} {item : Item κ}

theorem Follows.refl (receipt : Receipt κ) : receipt.Follows receipt :=
  ⟨rfl, rfl, rfl, rfl, rfl, rfl, List.forall₂_same.mpr fun item _ => ⟨rfl, .refl item.state⟩⟩

theorem forall₂_trans {a b c : List (Item κ)} (h : List.Forall₂ Item.Follows a b)
    (h' : List.Forall₂ Item.Follows b c) : List.Forall₂ Item.Follows a c := by
  induction h generalizing c with
  | nil =>
    cases h'
    exact .nil
  | cons hitem _ ih =>
    cases h' with
    | cons hitem' hrest' => exact .cons ⟨hitem'.1.trans hitem.1, hitem.2.trans hitem'.2⟩ (ih hrest')

theorem Follows.trans (h : receipt.Follows receipt') (h' : receipt'.Follows receipt'') :
    receipt.Follows receipt'' :=
  ⟨h'.executionId.trans h.executionId, h'.commandKey.trans h.commandKey,
    h'.blockOriginKey.trans h.blockOriginKey, h'.blockVersion.trans h.blockVersion,
    h'.approvalRevision.trans h.approvalRevision, h'.predecessor.trans h.predecessor,
    forall₂_trans h.items h'.items⟩

/-- An item of the later receipt comes from one of the earlier. -/
theorem Follows.item_of (h : receipt.Follows receipt') {item' : Item κ}
    (hitem : receipt'.item ordinal = some item') :
    ∃ item, receipt.item ordinal = some item ∧ item.state.Follows item'.state := by
  obtain ⟨-, -, -, -, -, -, hitems⟩ := h
  unfold Receipt.item at hitem ⊢
  revert hitem
  generalize receipt.items = items at hitems
  generalize receipt'.items = items' at hitems
  intro hitem
  induction hitems with
  | nil => cases hitem
  | @cons first first' rest rest' hfirst _ ih =>
    by_cases heq : first'.ordinal = ordinal
    · rw [List.find?_cons_of_pos (by simpa using heq)] at hitem
      cases hitem
      exact ⟨first, List.find?_cons_of_pos (decide_eq_true (hfirst.1.symm.trans heq)), hfirst.2⟩
    · rw [List.find?_cons_of_neg (by simpa using heq)] at hitem
      obtain ⟨item, hfind, hfollows⟩ := ih hitem
      refine ⟨item, ?_, hfollows⟩
      rw [List.find?_cons_of_neg (by simpa using fun h => heq (hfirst.1.trans h)), hfind]

/-- Whether an outcome of a receipt is recorded as unknown. -/
def Uncertain (receipt : Receipt κ) : Prop := ∃ item ∈ receipt.items, item.state = .UNKNOWN

theorem Uncertain.unknown (h : receipt.Uncertain) : receipt.unknown = true := by
  obtain ⟨item, hmem, hstate⟩ := h
  exact List.any_eq_true.mpr ⟨item, hmem, by simp [Item.isUnknown, hstate]⟩

theorem Follows.uncertain (h : receipt.Follows receipt') (huncertain : receipt.Uncertain) :
    receipt'.Uncertain := by
  obtain ⟨item, hmem, hstate⟩ := huncertain
  have hitems := h.items
  unfold Uncertain
  revert hmem
  generalize receipt.items = items at hitems
  generalize receipt'.items = items' at hitems
  intro hmem
  induction hitems with
  | nil => cases hmem
  | @cons first first' rest rest' hfirst _ ih =>
    obtain rfl | hmem := List.mem_cons.mp hmem
    · refine ⟨first', List.mem_cons_self, ?_⟩
      have := hfirst.2
      rw [hstate] at this
      exact this
    · obtain ⟨item', hmem', hstate'⟩ := ih hmem
      exact ⟨item', List.mem_cons_of_mem _ hmem', hstate'⟩

theorem updateItem_item {f : Item κ → Item κ} (hf : ∀ item, (f item).ordinal = item.ordinal)
    (hitem : receipt.item ordinal = some item) :
    (receipt.updateItem ordinal f).item ordinal = some (f item) := by
  unfold Receipt.item at hitem ⊢
  unfold updateItem
  dsimp only
  revert hitem
  generalize receipt.items = items
  intro hitem
  induction items with
  | nil => cases hitem
  | cons first rest ih =>
    by_cases heq : first.ordinal = ordinal
    · rw [List.find?_cons_of_pos (by simpa using heq)] at hitem
      cases hitem
      rw [CommandLedger.updateItem, if_pos heq,
        List.find?_cons_of_pos (by simpa using (hf _).trans heq)]
    · rw [List.find?_cons_of_neg (by simpa using heq)] at hitem
      rw [CommandLedger.updateItem, if_neg heq, List.find?_cons_of_neg (by simpa using heq)]
      exact ih hitem

theorem follows_updateItem {f : Item κ → Item κ} (hf : ∀ item, (f item).ordinal = item.ordinal)
    (hitem : receipt.item ordinal = some item) (hstate : item.state.Follows (f item).state) :
    receipt.Follows (receipt.updateItem ordinal f) := by
  refine ⟨rfl, rfl, rfl, rfl, rfl, rfl, ?_⟩
  unfold Receipt.item at hitem
  change List.Forall₂ Item.Follows receipt.items (CommandLedger.updateItem ordinal f receipt.items)
  revert hitem
  generalize receipt.items = items
  intro hitem
  induction items with
  | nil => cases hitem
  | cons first rest ih =>
    by_cases heq : first.ordinal = ordinal
    · rw [List.find?_cons_of_pos (by simpa using heq)] at hitem
      cases hitem
      rw [CommandLedger.updateItem, if_pos heq]
      exact .cons ⟨hf _, hstate⟩ (List.forall₂_same.mpr fun item _ => ⟨rfl, .refl item.state⟩)
    · rw [List.find?_cons_of_neg (by simpa using heq)] at hitem
      rw [CommandLedger.updateItem, if_neg heq]
      exact .cons ⟨rfl, .refl _⟩ (ih hitem)

end Receipt

namespace Ledger

variable {hash : Hash κ} {seen seen' : List String} {data data' data'' : Ledger κ} {id : String}

def HasReceipt (data : Ledger κ) (id : String) : Prop := ∃ receipt, data.receipts.get id = some receipt

/-- A receipt under its own id, with the key of its approval, whose block and predecessor are in the
ledger. -/
structure ReceiptSound (hash : Hash κ) (seen : List String) (data : Ledger κ) (id : String)
    (receipt : Receipt κ) : Prop where
  seen : id ∈ seen
  named : receipt.executionId = id
  keyed : receipt.commandKey =
    hash.commandKey receipt.blockOriginKey receipt.blockVersion receipt.approvalRevision
  origin : ∃ revision, data.origins.get receipt.blockOriginKey = some revision ∧
    receipt.approvalRevision ≤ revision
  predecessor : ∀ target, receipt.predecessor = some target → data.HasReceipt target

/-- A RETRY approval whose block, predecessor and execution are in the ledger. -/
structure RetrySound (seen : List String) (data : Ledger κ) (id : String) (approval : RetryApproval) :
    Prop where
  seen : id ∈ seen
  named : approval.confirmationId = id
  origin : ∃ revision, data.origins.get approval.blockOriginKey = some revision
  predecessor : data.HasReceipt approval.predecessor
  consumed : ∀ executionId, approval.consumedBy = some executionId → data.HasReceipt executionId

/-- A COPY approval whose receipt is in the ledger, and the delivery that it was consumed for. -/
structure CopySound (seen : List String) (data : Ledger κ) (id : String) (approval : CopyApproval) :
    Prop where
  seen : id ∈ seen
  execution : data.HasReceipt approval.executionId
  consumed : ∀ deliveryId, approval.consumedBy = some deliveryId → ∃ delivery,
    data.deliveries.get deliveryId = some delivery ∧ delivery.executionId = approval.executionId

/-- The COPY approval that a delivery names has been consumed for it. -/
def Confirmed (data : Ledger κ) (id : String) (delivery : Delivery) : Prop :=
  ∃ confirmationId approval, delivery.confirmationId = some confirmationId ∧
    data.approvals.get confirmationId = some (.copy approval) ∧ approval.consumedBy = some id

/-- A delivery whose receipt is in the ledger, and its approval unless it is an original one. -/
structure DeliverySound (seen : List String) (data : Ledger κ) (id : String) (delivery : Delivery) :
    Prop where
  seen : id ∈ seen
  execution : data.HasReceipt delivery.executionId
  confirmed : delivery.original = false → data.Confirmed id delivery

/-- Every record that another one names is there, and no two receipts have one command key. -/
structure Sound (hash : Hash κ) (seen : List String) (data : Ledger κ) : Prop where
  receipts : ∀ id receipt, data.receipts.get id = some receipt → ReceiptSound hash seen data id receipt
  retries : ∀ id approval, data.approvals.get id = some (.retry approval) → RetrySound seen data id approval
  copies : ∀ id approval, data.approvals.get id = some (.copy approval) → CopySound seen data id approval
  deliveries : ∀ id delivery, data.deliveries.get id = some delivery → DeliverySound seen data id delivery
  distinct : ∀ id other receipt receipt', data.receipts.get id = some receipt →
    data.receipts.get other = some receipt' → receipt.commandKey = receipt'.commandKey → id = other

/-- What a writer keeps for the records that name others. -/
structure Grows (seen seen' : List String) (data data' : Ledger κ) : Prop where
  seen : seen ⊆ seen'
  receipts : ∀ id, data.HasReceipt id → data'.HasReceipt id
  origins : ∀ id revision, data.origins.get id = some revision →
    ∃ revision', data'.origins.get id = some revision' ∧ revision ≤ revision'
  deliveries : ∀ id delivery, data.deliveries.get id = some delivery →
    ∃ delivery', data'.deliveries.get id = some delivery' ∧ delivery'.executionId = delivery.executionId
  copies : ∀ id approval, data.approvals.get id = some (.copy approval) → ∃ approval',
    data'.approvals.get id = some (.copy approval') ∧
      ∀ deliveryId, approval.consumedBy = some deliveryId → approval'.consumedBy = some deliveryId

theorem Grows.receiptSound (h : Grows seen seen' data data') {receipt : Receipt κ}
    (hsound : ReceiptSound hash seen data id receipt) : ReceiptSound hash seen' data' id receipt := by
  refine ⟨h.seen hsound.seen, hsound.named, hsound.keyed, ?_, fun target htarget =>
    h.receipts target (hsound.predecessor target htarget)⟩
  obtain ⟨revision, hget, hle⟩ := hsound.origin
  obtain ⟨revision', hget', hle'⟩ := h.origins _ _ hget
  exact ⟨revision', hget', hle.trans hle'⟩

theorem Grows.retrySound (h : Grows seen seen' data data') {approval : RetryApproval}
    (hsound : RetrySound seen data id approval) : RetrySound seen' data' id approval := by
  refine ⟨h.seen hsound.seen, hsound.named, ?_, h.receipts _ hsound.predecessor,
    fun executionId hconsumed => h.receipts _ (hsound.consumed executionId hconsumed)⟩
  obtain ⟨revision, hget⟩ := hsound.origin
  obtain ⟨revision', hget', -⟩ := h.origins _ _ hget
  exact ⟨revision', hget'⟩

theorem Grows.copySound (h : Grows seen seen' data data') {approval : CopyApproval}
    (hsound : CopySound seen data id approval) : CopySound seen' data' id approval := by
  refine ⟨h.seen hsound.seen, h.receipts _ hsound.execution, fun deliveryId hconsumed => ?_⟩
  obtain ⟨delivery, hget, howner⟩ := hsound.consumed deliveryId hconsumed
  obtain ⟨delivery', hget', hsame⟩ := h.deliveries _ _ hget
  exact ⟨delivery', hget', hsame.trans howner⟩

theorem Grows.deliverySound (h : Grows seen seen' data data') {delivery : Delivery}
    (hsound : DeliverySound seen data id delivery) : DeliverySound seen' data' id delivery :=
  ⟨h.seen hsound.seen, h.receipts _ hsound.execution, fun horiginal => by
    obtain ⟨confirmationId, approval, hnames, hget, hconsumed⟩ := hsound.confirmed horiginal
    obtain ⟨approval', hget', hkeeps⟩ := h.copies _ _ hget
    exact ⟨confirmationId, approval', hnames, hget', hkeeps id hconsumed⟩⟩

/-- Approvals of one revision of one version of a block. -/
structure Agrees (approval approval' : RetryApproval) : Prop where
  origin : approval.blockOriginKey = approval'.blockOriginKey
  version : approval.blockVersion = approval'.blockVersion
  revision : approval.approvalRevision = approval'.approvalRevision

theorem Agrees.trans {a b c : RetryApproval} (h : Agrees a b) (h' : Agrees b c) : Agrees a c :=
  ⟨h.origin.trans h'.origin, h.version.trans h'.version, h.revision.trans h'.revision⟩

/-- What may have become of the records whose ids were seen. -/
structure Advance (seen : List String) (data data' : Ledger κ) : Prop where
  receipts : ∀ id ∈ seen, ∀ receipt', data'.receipts.get id = some receipt' →
    ∃ receipt, data.receipts.get id = some receipt ∧ receipt.Follows receipt'
  uncertain : ∀ id receipt, data.receipts.get id = some receipt → receipt.Uncertain → data'.HasReceipt id
  fenced : ∀ id receipt', data.receipts.get id = none → data'.receipts.get id = some receipt' →
    (∃ other receipt, data.receipts.get other = some receipt ∧
      receipt.blockOriginKey = receipt'.blockOriginKey ∧ receipt.Uncertain) → receipt'.predecessor ≠ none
  retries : ∀ id ∈ seen, ∀ approval', data'.approvals.get id = some (.retry approval') →
    ∃ approval, data.approvals.get id = some (.retry approval) ∧ Agrees approval' approval
  deliveries : ∀ id ∈ seen, ∀ delivery', data'.deliveries.get id = some delivery' →
    delivery'.state = .COPY_RESERVED →
      ∃ delivery, data.deliveries.get id = some delivery ∧ delivery.state = .COPY_RESERVED

theorem Advance.refl (seen : List String) (data : Ledger κ) : Advance seen data data :=
  ⟨fun _ _ receipt hget => ⟨receipt, hget, .refl receipt⟩, fun _ receipt hget _ => ⟨receipt, hget⟩,
    fun _ _ hnone hsome => (by cases hnone.symm.trans hsome),
    fun _ _ approval hget => ⟨approval, hget, ⟨rfl, rfl, rfl⟩⟩,
    fun _ _ delivery hget hstate => ⟨delivery, hget, hstate⟩⟩

theorem Advance.trans (h : Advance seen data data') (h' : Advance seen' data' data'')
    (hseen : seen ⊆ seen') (hbefore : ∀ id, data.HasReceipt id → id ∈ seen)
    (hmiddle : ∀ id, data'.HasReceipt id → id ∈ seen') : Advance seen data data'' := by
  have huncertain : ∀ id receipt, data.receipts.get id = some receipt → receipt.Uncertain →
      ∃ receipt', data'.receipts.get id = some receipt' ∧ receipt.Follows receipt' := by
    intro id receipt hget hun
    obtain ⟨receipt', hget'⟩ := h.uncertain id receipt hget hun
    obtain ⟨receipt₀, hget₀, hfollows⟩ := h.receipts id (hbefore id ⟨receipt, hget⟩) receipt' hget'
    cases hget.symm.trans hget₀
    exact ⟨receipt', hget', hfollows⟩
  refine ⟨fun id hid receipt'' hget => ?_, fun id receipt hget hun => ?_,
    fun id receipt'' hnone hget hother => ?_, fun id hid approval'' hget => ?_,
    fun id hid delivery'' hget hstate => ?_⟩
  · obtain ⟨receipt', hget', hfollows'⟩ := h'.receipts id (hseen hid) receipt'' hget
    obtain ⟨receipt, hget₀, hfollows⟩ := h.receipts id hid receipt' hget'
    exact ⟨receipt, hget₀, hfollows.trans hfollows'⟩
  · obtain ⟨receipt', hget', hfollows⟩ := huncertain id receipt hget hun
    exact h'.uncertain id receipt' hget' (hfollows.uncertain hun)
  · cases hmid : data'.receipts.get id with
    | none =>
      obtain ⟨other, receipt, hget₀, horigin, hun⟩ := hother
      obtain ⟨receipt', hget', hfollows⟩ := huncertain other receipt hget₀ hun
      exact h'.fenced id receipt'' hmid hget
        ⟨other, receipt', hget', hfollows.blockOriginKey.trans horigin, hfollows.uncertain hun⟩
    | some receipt' =>
      obtain ⟨receipt₁, hget₁, hfollows⟩ := h'.receipts id (hmiddle id ⟨receipt', hmid⟩) receipt'' hget
      cases hmid.symm.trans hget₁
      obtain ⟨other, receipt, hget₀, horigin, hun⟩ := hother
      rw [hfollows.predecessor]
      exact h.fenced id receipt' hnone hmid
        ⟨other, receipt, hget₀, horigin.trans hfollows.blockOriginKey, hun⟩
  · obtain ⟨approval', hget', hagrees'⟩ := h'.retries id (hseen hid) approval'' hget
    obtain ⟨approval, hget₀, hagrees⟩ := h.retries id hid approval' hget'
    exact ⟨approval, hget₀, hagrees'.trans hagrees⟩
  · obtain ⟨delivery', hget', hstate'⟩ := h'.deliveries id (hseen hid) delivery'' hget hstate
    exact h.deliveries id hid delivery' hget' hstate'

section Compaction

variable {context : Context}

/-- A compaction leaves no name of a record that goes. -/
theorem Sound.compact (h : data.Sound hash seen) (context : Context) :
    (data.compactCompletedWork context).Sound hash seen := by
  unfold compactCompletedWork
  split
  · exact h
  · have hclosed := removable_closed data context
    have hstays : ∀ id, data.HasReceipt id → id ∉ data.removable context →
        (data.without (data.removable context)).HasReceipt id := by
      rintro id ⟨receipt, hget⟩ hkept
      exact ⟨receipt, by rw [without_receipts, hget, Option.filter_some, if_pos (decide_eq_true hkept)]⟩
    have hreceipt : ∀ id receipt, (data.without (data.removable context)).receipts.get id = some receipt →
        data.receipts.get id = some receipt ∧ id ∉ data.removable context := by
      intro id receipt hget
      rw [without_receipts] at hget
      obtain ⟨hget, hkept⟩ := Option.filter_eq_some_iff.mp hget
      exact ⟨hget, of_decide_eq_true hkept⟩
    have happroval : ∀ id approval, (data.without (data.removable context)).approvals.get id = some approval →
        data.approvals.get id = some approval ∧
          data.retiredApproval (data.removable context) id approval = false := by
      intro id approval hget
      rw [without_approvals] at hget
      obtain ⟨hget, hkept⟩ := Option.filter_eq_some_iff.mp hget
      exact ⟨hget, by simpa using hkept⟩
    refine ⟨fun id receipt hget => ?_, fun id approval hget => ?_, fun id approval hget => ?_,
      fun id delivery hget => ?_, fun id other receipt receipt' hget hget' =>
        h.distinct id other receipt receipt' (hreceipt id receipt hget).1 (hreceipt other receipt' hget').1⟩
    · obtain ⟨hget₀, hkept⟩ := hreceipt id receipt hget
      have hsound := h.receipts id receipt hget₀
      refine ⟨hsound.seen, hsound.named, hsound.keyed, ?_, fun target htarget =>
        hstays target (hsound.predecessor target htarget)
          (hclosed.predecessor id receipt target hget₀ hkept htarget)⟩
      obtain ⟨revision, horigin, hle⟩ := hsound.origin
      exact ⟨revision, by rw [without_origins, horigin, Option.filter_some, if_pos (named_of_receipt hget)], hle⟩
    · obtain ⟨hget₀, hkept⟩ := happroval id _ hget
      have hsound := h.retries id approval hget₀
      have hpredecessor : approval.predecessor ∉ data.removable context := by
        intro hmem
        simp only [retiredApproval, hmem, decide_true, Bool.true_and] at hkept
        cases hconsumed : approval.consumedBy with
        | none =>
          rw [hconsumed] at hkept
          cases hkept
        | some executionId =>
          have hconsumedMem := (hclosed.retry id approval executionId hget₀ hconsumed).mp hmem
          rw [hconsumed, Option.all_some, decide_eq_false_iff_not] at hkept
          exact hkept hconsumedMem
      refine ⟨hsound.seen, hsound.named, ?_, hstays _ hsound.predecessor hpredecessor,
        fun executionId hconsumed => hstays _ (hsound.consumed executionId hconsumed) fun hmem =>
          hpredecessor ((hclosed.retry id approval executionId hget₀ hconsumed).mpr hmem)⟩
      obtain ⟨revision, horigin⟩ := hsound.origin
      exact ⟨revision, by rw [without_origins, horigin, Option.filter_some, if_pos (named_of_retry hget)]⟩
    · obtain ⟨hget₀, hkept⟩ := happroval id _ hget
      have hsound := h.copies id approval hget₀
      have hexecution : approval.executionId ∉ data.removable context := by
        intro hmem
        simp only [retiredApproval, hmem, decide_true, Bool.true_and, Bool.or_eq_false_iff] at hkept
        obtain hnone | hdone := hclosed.copy id approval hget₀ hmem
        · rw [hnone] at hkept
          cases hkept.1
        · cases hdone.symm.trans hkept.2
      refine ⟨hsound.seen, hstays _ hsound.execution hexecution, fun deliveryId hconsumed => ?_⟩
      obtain ⟨delivery, hdelivery, howner⟩ := hsound.consumed deliveryId hconsumed
      refine ⟨delivery, ?_, howner⟩
      rw [without_deliveries, hdelivery, Option.filter_some, howner, if_pos (by simp [hexecution])]
    · rw [without_deliveries] at hget
      obtain ⟨hget₀, hkept⟩ := Option.filter_eq_some_iff.mp hget
      have hsound := h.deliveries id delivery hget₀
      have hexecution : delivery.executionId ∉ data.removable context := by
        intro hmem
        have hconfirmed := confirmed_of_removable hmem hget₀ rfl
        simp [hconfirmed, hmem] at hkept
      refine ⟨hsound.seen, hstays _ hsound.execution hexecution, fun horiginal => ?_⟩
      -- Its approval is of the same receipt, and stays with it.
      obtain ⟨confirmationId, approval, hnames, happroval₀, hconsumed⟩ := hsound.confirmed horiginal
      obtain ⟨delivery', hget', howner⟩ := (h.copies _ _ happroval₀).consumed id hconsumed
      cases hget₀.symm.trans hget'
      refine ⟨confirmationId, approval, hnames, ?_, hconsumed⟩
      rw [without_approvals, happroval₀, Option.filter_some,
        if_pos (by simp [retiredApproval, ← howner, hexecution])]

theorem compact_receipt {receipt : Receipt κ}
    (hget : (data.compactCompletedWork context).receipts.get id = some receipt) :
    data.receipts.get id = some receipt := by
  unfold compactCompletedWork at hget
  split at hget
  · exact hget
  · rw [without_receipts] at hget
    exact (Option.filter_eq_some_iff.mp hget).1

/-- A receipt that a compaction takes away belongs to a completed earlier Work. -/
theorem compacted_receipt {receipt : Receipt κ} (hget : data.receipts.get id = some receipt)
    (hgone : (data.compactCompletedWork context).receipts.get id = none) :
    receipt.context.accountId = context.accountId ∧
      receipt.context.workSessionId ≠ context.workSessionId ∧
      ∀ item ∈ receipt.items, item.state = .RESULT := by
  unfold compactCompletedWork at hgone
  split at hgone
  · cases hget.symm.trans hgone
  · have hmem : id ∈ data.removable context := by
      by_contra hkept
      rw [without_receipts, hget, Option.filter_some, if_pos (decide_eq_true hkept)] at hgone
      cases hgone
    obtain ⟨receipt', hget', hcompleted⟩ := of_candidates (removable_candidates hmem)
    cases hget.symm.trans hget'
    exact hcompleted

theorem Advance.compact (seen : List String) (data : Ledger κ) (context : Context) :
    Advance seen data (data.compactCompletedWork context) := by
  refine ⟨fun id _ receipt hget => ⟨receipt, compact_receipt hget, .refl receipt⟩,
    fun id receipt hget hun => ?_, fun id receipt hnone hget => ?_, fun id _ approval hget => ?_,
    fun id _ delivery hget hstate => ?_⟩
  · cases hgone : (data.compactCompletedWork context).receipts.get id with
    | some receipt' => exact ⟨receipt', hgone⟩
    | none =>
      obtain ⟨item, hmem, hstate⟩ := hun
      cases hstate.symm.trans ((compacted_receipt hget hgone).2.2 item hmem)
  · cases hnone.symm.trans (compact_receipt hget)
  · unfold compactCompletedWork at hget
    split at hget
    · exact ⟨approval, hget, ⟨rfl, rfl, rfl⟩⟩
    · rw [without_approvals] at hget
      exact ⟨approval, (Option.filter_eq_some_iff.mp hget).1, ⟨rfl, rfl, rfl⟩⟩
  · unfold compactCompletedWork at hget
    split at hget
    · exact ⟨delivery, hget, hstate⟩
    · rw [without_deliveries] at hget
      exact ⟨delivery, (Option.filter_eq_some_iff.mp hget).1, hstate⟩

end Compaction

end Ledger

end SellerAgents.CommandLedger
