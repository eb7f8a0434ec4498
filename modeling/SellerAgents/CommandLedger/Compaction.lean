import SellerAgents.CommandLedger.Commands

namespace SellerAgents.CommandLedger
open Js (JsMap Properties)

namespace Ledger

variable {κ : Type} {data data' : Ledger κ} {context : Context} {id target : String}

theorem receiptRule_antitone (id : String) (receipt : Receipt κ) :
    (receiptRule id receipt).Antitone := by
  intro s t hsub x hx
  simp only [receiptRule, Bool.and_eq_true, decide_eq_true_eq] at hx ⊢
  exact ⟨fun hmem => hx.1 (hsub hmem), hx.2⟩

theorem approvalRule_antitone (data : Ledger κ) (id : String) (approval : Approval) :
    (data.approvalRule id approval).Antitone := by
  intro s t hsub x hx
  cases approval with
  | copy approval =>
    simp only [approvalRule, Bool.and_eq_true, Bool.or_eq_true, decide_eq_true_eq] at hx ⊢
    exact ⟨hx.1, hx.2.imp_left fun hnot hmem => hnot (hsub hmem)⟩
  | retry approval =>
    simp only [approvalRule, Bool.and_eq_true, Bool.or_eq_true, decide_eq_true_eq] at hx ⊢
    refine ⟨hx.1.imp (fun hnot hmem => hnot (hsub hmem)) fun hany => ?_, hx.2⟩
    obtain ⟨consumed, hconsumed, hnot⟩ := (Option.any_eq_true _ _).mp hany
    exact (Option.any_eq_true _ _).mpr ⟨consumed, hconsumed,
      decide_eq_true fun hmem => of_decide_eq_true hnot (hsub hmem)⟩

theorem mem_rules {rule : Pruning.Rule String} : rule ∈ data.rules ↔
    (∃ id receipt, data.receipts.get id = some receipt ∧ receiptRule id receipt = rule) ∨
      ∃ id approval, data.approvals.get id = some approval ∧ data.approvalRule id approval = rule := by
  have hentry : ∀ {α : Type} (m : JsMap String α) (P : String → α → Prop),
      (∃ entry ∈ m.entries, P entry.1 entry.2) ↔ ∃ id value, m.get id = some value ∧ P id value := by
    intro α m P
    constructor
    · rintro ⟨⟨id, value⟩, hmem, hP⟩
      exact ⟨id, value, Properties.get_of_mem m.nodup hmem, hP⟩
    · rintro ⟨id, value, hget, hP⟩
      exact ⟨(id, value), Properties.mem_of_get hget, hP⟩
  rw [rules, List.mem_append, List.mem_map, List.mem_map]
  exact or_congr (hentry data.receipts fun id receipt => receiptRule id receipt = rule)
    (hentry data.approvals fun id approval => data.approvalRule id approval = rule)

theorem rules_antitone (data : Ledger κ) : ∀ rule ∈ data.rules, Pruning.Rule.Antitone rule := by
  intro rule hrule
  obtain ⟨id, receipt, -, rfl⟩ | ⟨id, approval, -, rfl⟩ := mem_rules.mp hrule
  · exact receiptRule_antitone id receipt
  · exact approvalRule_antitone data id approval

/-- A set of receipts that may go together. -/
structure Removable (data : Ledger κ) (removable : List String) : Prop where
  predecessor : ∀ id receipt target, data.receipts.get id = some receipt → id ∉ removable →
    receipt.predecessor = some target → target ∉ removable
  copy : ∀ id approval, data.approvals.get id = some (.copy approval) →
    approval.executionId ∈ removable →
      approval.consumedBy = none ∨ data.completedCopy id approval = true
  retry : ∀ id approval executionId, data.approvals.get id = some (.retry approval) →
    approval.consumedBy = some executionId →
      (approval.predecessor ∈ removable ↔ executionId ∈ removable)

theorem closed_iff {removable : List String} :
    Pruning.Closed data.rules removable ↔ data.Removable removable := by
  constructor
  · intro h
    refine ⟨fun id receipt target hget hkept hpredecessor hmem => ?_, fun id approval hget hmem => ?_,
      fun id approval executionId hget hconsumed => ?_⟩
    · have hrule := h _ (mem_rules.mpr (.inl ⟨id, receipt, hget, rfl⟩)) target hmem
      simp [receiptRule, hkept, hpredecessor] at hrule
    · have hrule := h _ (mem_rules.mpr (.inr ⟨id, _, hget, rfl⟩)) _ hmem
      simp only [approvalRule, decide_true, Bool.true_and, Bool.or_eq_false_iff,
        Bool.and_eq_false_iff, Option.isSome_eq_false_iff, Option.isNone_iff_eq_none,
        Bool.not_eq_false'] at hrule
      exact hrule.2
    · constructor
      · intro hmem
        have hrule := h _ (mem_rules.mpr (.inr ⟨id, _, hget, rfl⟩)) _ hmem
        by_contra hnot
        simp [approvalRule, hconsumed, hnot] at hrule
      · intro hmem
        have hrule := h _ (mem_rules.mpr (.inr ⟨id, _, hget, rfl⟩)) _ hmem
        by_contra hnot
        simp [approvalRule, hconsumed, hnot] at hrule
  · intro h rule hrule x hx
    rw [Bool.eq_false_iff]
    obtain ⟨id, receipt, hget, rfl⟩ | ⟨id, approval, hget, rfl⟩ := mem_rules.mp hrule
    · intro htrue
      simp only [receiptRule, Bool.and_eq_true, decide_eq_true_eq] at htrue
      exact h.predecessor id receipt x hget htrue.1 htrue.2 hx
    · intro htrue
      cases approval with
      | copy approval =>
        simp only [approvalRule, Bool.and_eq_true, Bool.or_eq_true, decide_eq_true_eq,
          Bool.not_eq_true'] at htrue
        obtain ⟨rfl, hnot | ⟨hsome, hopen⟩⟩ := htrue
        · exact hnot hx
        · obtain hnone | hdone := h.copy id approval hget hx
          · rw [hnone] at hsome
            cases hsome
          · cases hdone.symm.trans hopen
      | retry approval =>
        simp only [approvalRule, Bool.and_eq_true, Bool.or_eq_true, decide_eq_true_eq] at htrue
        obtain ⟨hout, htarget⟩ := htrue
        cases hconsumed : approval.consumedBy with
        | none =>
          rw [hconsumed] at hout htarget
          have hpredecessor := hout.resolve_right (by simp)
          exact hpredecessor (htarget.resolve_right (by simp) ▸ hx)
        | some executionId =>
          have hiff := h.retry id approval executionId hget hconsumed
          rw [hconsumed, Option.any_some, decide_eq_true_eq, ← hiff, or_self] at hout
          obtain rfl | htarget := htarget
          · exact hout hx
          · rw [hconsumed, Option.some.injEq] at htarget
            exact hout (hiff.mpr (htarget ▸ hx))

theorem removable_closed (data : Ledger κ) (context : Context) :
    data.Removable (data.removable context) :=
  closed_iff.mp (Pruning.closed_prune _ _)

theorem removable_candidates (h : id ∈ data.removable context) : id ∈ data.candidates context :=
  (Pruning.prune_sublist _ _).subset h

/-- What goes is the greatest set that may. -/
theorem removable_greatest {removable : List String} (hcandidates : removable ⊆ data.candidates context)
    (h : data.Removable removable) : removable ⊆ data.removable context :=
  Pruning.subset_prune (rules_antitone data) (closed_iff.mpr h) hcandidates

/-- Only receipts of a completed earlier Work of the account go. -/
theorem of_candidates (h : id ∈ data.candidates context) : ∃ receipt,
    data.receipts.get id = some receipt ∧ receipt.context.accountId = context.accountId ∧
      receipt.context.workSessionId ≠ context.workSessionId ∧
      ∀ item ∈ receipt.items, item.state = .RESULT := by
  have hcompleted := (List.mem_filter.mp h).1
  obtain ⟨⟨name, receipt⟩, hmem, rfl⟩ := List.mem_map.mp hcompleted
  obtain ⟨hentry, hguard⟩ := List.mem_filter.mp hmem
  simp only [Bool.and_eq_true, decide_eq_true_eq, List.all_eq_true] at hguard
  exact ⟨receipt, Properties.get_of_mem data.receipts.nodup hentry, hguard.1.1.1.1, hguard.1.1.2,
    hguard.2⟩

/-- A delivery that is not confirmed keeps its receipt. -/
theorem confirmed_of_removable (h : id ∈ data.removable context) {deliveryId : String}
    {delivery : Delivery} (hget : data.deliveries.get deliveryId = some delivery)
    (howner : delivery.executionId = id) : delivery.state = .CONFIRMED := by
  have hall := (List.mem_filter.mp (removable_candidates h)).2
  rw [List.all_eq_true] at hall
  have hone := hall (deliveryId, delivery) (Properties.mem_of_get hget)
  simp only [Bool.or_eq_true, decide_eq_true_eq, ne_eq, howner, not_true_eq_false, false_or] at hone
  have hconfirmed := (Bool.and_eq_true_iff.mp hone).1
  unfold confirmedDelivery at hconfirmed
  split at hconfirmed
  · cases hconfirmed
  · simp only [Bool.and_eq_true, decide_eq_true_eq] at hconfirmed
    exact hconfirmed.1.1.1.1.1

section Without

variable (removable : List String)

@[simp] theorem without_receipts (id : String) : (data.without removable).receipts.get id =
    (data.receipts.get id).filter fun _ => id ∉ removable := by
  simp [without]

@[simp] theorem without_approvals (id : String) : (data.without removable).approvals.get id =
    (data.approvals.get id).filter fun approval => !data.retiredApproval removable id approval := by
  simp [without]

@[simp] theorem without_deliveries (id : String) : (data.without removable).deliveries.get id =
    (data.deliveries.get id).filter fun delivery =>
      !(delivery.state = .CONFIRMED && delivery.executionId ∈ removable) := by
  simp [without]

@[simp] theorem without_origins (id : String) : (data.without removable).origins.get id =
    (data.origins.get id).filter fun _ =>
      named (data.without removable).receipts (data.without removable).approvals id := by
  simp [without]

end Without

theorem named_of_receipt {receipts : JsMap String (Receipt κ)} {approvals : JsMap String Approval}
    {receipt : Receipt κ} (h : receipts.get id = some receipt) :
    named receipts approvals receipt.blockOriginKey = true := by
  have hany : receipts.entries.any (fun entry => entry.2.blockOriginKey = receipt.blockOriginKey) = true :=
    List.any_eq_true.mpr ⟨(id, receipt), Properties.mem_of_get h, decide_eq_true rfl⟩
  rw [named, hany, Bool.true_or]

theorem named_of_retry {receipts : JsMap String (Receipt κ)} {approvals : JsMap String Approval}
    {approval : RetryApproval} (h : approvals.get id = some (.retry approval)) :
    named receipts approvals approval.blockOriginKey = true := by
  rw [named, Bool.or_eq_true]
  exact .inr (List.any_eq_true.mpr ⟨(id, .retry approval), Properties.mem_of_get h, decide_eq_true rfl⟩)

/-- Ledgers with the same entries, in whatever order. -/
structure Same (data data' : Ledger κ) : Prop where
  origins : ∀ id, data.origins.get id = data'.origins.get id
  receipts : ∀ id, data.receipts.get id = data'.receipts.get id
  approvals : ∀ id, data.approvals.get id = data'.approvals.get id
  deliveries : ∀ id, data.deliveries.get id = data'.deliveries.get id

theorem mem_entries {α : Type} {m : JsMap String α} {id : String} {value : α} :
    (id, value) ∈ m.entries ↔ m.get id = some value :=
  ⟨Properties.get_of_mem m.nodup, Properties.mem_of_get⟩

theorem Same.entries {α : Type} {m m' : JsMap String α} (h : ∀ id, m.get id = m'.get id)
    (entry : String × α) : entry ∈ m.entries ↔ entry ∈ m'.entries := by
  rw [mem_entries, mem_entries, h]

theorem Same.confirmedDelivery (h : Same data data') (id : String) (delivery : Delivery) :
    data.confirmedDelivery id delivery = data'.confirmedDelivery id delivery := by
  simp only [Ledger.confirmedDelivery, h.receipts]

theorem Same.completedCopy (h : Same data data') (id : String) (approval : CopyApproval) :
    data.completedCopy id approval = data'.completedCopy id approval := by
  simp only [Ledger.completedCopy, h.receipts, h.deliveries, h.confirmedDelivery]

theorem Same.finishedDelivery (h : Same data data') (id : String) (delivery : Delivery) :
    data.finishedDelivery id delivery = data'.finishedDelivery id delivery := by
  simp only [Ledger.finishedDelivery, h.confirmedDelivery, h.approvals, h.completedCopy]

theorem Same.candidates (h : Same data data') (id : String) :
    id ∈ data.candidates context ↔ id ∈ data'.candidates context := by
  have hall : data.deliveries.entries.all (fun entry =>
      entry.2.executionId ≠ id || data.finishedDelivery entry.1 entry.2) =
      data'.deliveries.entries.all fun entry =>
        entry.2.executionId ≠ id || data'.finishedDelivery entry.1 entry.2 := by
    rw [Bool.eq_iff_iff, List.all_eq_true, List.all_eq_true]
    exact forall_congr' fun entry => by rw [Same.entries h.deliveries, h.finishedDelivery]
  have hcompleted : id ∈ data.completed context ↔ id ∈ data'.completed context := by
    simp only [completed, List.mem_map, List.mem_filter, Same.entries h.receipts]
  rw [Ledger.candidates, Ledger.candidates, List.mem_filter, List.mem_filter, hall, hcompleted]

theorem Same.approvalRule (h : Same data data') (id : String) (approval : Approval) :
    data.approvalRule id approval = data'.approvalRule id approval := by
  cases approval with
  | copy approval => simp only [Ledger.approvalRule, h.completedCopy]
  | retry approval => rfl

theorem Same.removable (h : Same data data') (id : String) :
    id ∈ data.removable context ↔ id ∈ data'.removable context := by
  refine Pruning.mem_prune_congr (rules_antitone data) (fun rule => ?_) (fun x => h.candidates x) id
  rw [mem_rules, mem_rules]
  simp only [h.receipts, h.approvals, h.approvalRule]

/-- What a compaction keeps does not depend on the order of the entries. -/
theorem Same.compactCompletedWork (h : Same data data') (context : Context) :
    Same (data.compactCompletedWork context) (data'.compactCompletedWork context) := by
  unfold Ledger.compactCompletedWork
  split
  · exact h
  · have hretired : ∀ id approval,
        data.retiredApproval (data.removable context) id approval =
          data'.retiredApproval (data'.removable context) id approval := by
      intro id approval
      cases approval <;> simp only [retiredApproval, h.removable, h.completedCopy]
    have hreceipts : ∀ id, (data.without (data.removable context)).receipts.get id =
        (data'.without (data'.removable context)).receipts.get id := fun id => by
      simp only [without_receipts, h.receipts, h.removable]
    have happrovals : ∀ id, (data.without (data.removable context)).approvals.get id =
        (data'.without (data'.removable context)).approvals.get id := fun id => by
      simp only [without_approvals, h.approvals, hretired]
    have hnamed : ∀ id, named (data.without (data.removable context)).receipts
        (data.without (data.removable context)).approvals id =
        named (data'.without (data'.removable context)).receipts
          (data'.without (data'.removable context)).approvals id := by
      intro id
      rw [Bool.eq_iff_iff, named, named, Bool.or_eq_true, Bool.or_eq_true, List.any_eq_true,
        List.any_eq_true, List.any_eq_true, List.any_eq_true]
      simp only [Same.entries hreceipts, Same.entries happrovals]
    refine ⟨fun id => ?_, hreceipts, happrovals, fun id => ?_⟩
    · simp only [without_origins, h.origins, hnamed]
    · simp only [without_deliveries, h.deliveries, h.removable]

end Ledger

end SellerAgents.CommandLedger
