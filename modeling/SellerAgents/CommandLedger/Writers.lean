import SellerAgents.CommandLedger.Moves
import SellerAgents.Js.Fallible

namespace SellerAgents.CommandLedger
open Js (JsMap Properties)

namespace Ledger

variable {κ : Type} {hash : Hash κ} {seen seen' : List String} {data data' : Ledger κ} {id : String}

theorem Sound.known (h : data.Sound hash seen) (hid : data.HasReceipt id) : id ∈ seen := by
  obtain ⟨receipt, hget⟩ := hid
  exact (h.receipts id receipt hget).seen

theorem Grows.refl (data : Ledger κ) (hseen : seen ⊆ seen') : Grows seen seen' data data :=
  ⟨hseen, fun _ hid => hid, fun _ revision hget => ⟨revision, hget, Nat.le_refl _⟩,
    fun _ delivery hget => ⟨delivery, hget, rfl⟩, fun _ approval hget => ⟨approval, hget, fun _ h => h⟩⟩

/-- A record that is left is an old one, or sound by itself. -/
theorem Grows.sound (hgrows : Grows seen seen' data data') (h : data.Sound hash seen)
    (hreceipts : ∀ id receipt, data'.receipts.get id = some receipt →
      data.receipts.get id = some receipt ∨ ReceiptSound hash seen' data' id receipt)
    (hretries : ∀ id approval, data'.approvals.get id = some (.retry approval) →
      data.approvals.get id = some (.retry approval) ∨ RetrySound seen' data' id approval)
    (hcopies : ∀ id approval, data'.approvals.get id = some (.copy approval) →
      data.approvals.get id = some (.copy approval) ∨ CopySound seen' data' id approval)
    (hdeliveries : ∀ id delivery, data'.deliveries.get id = some delivery →
      data.deliveries.get id = some delivery ∨ DeliverySound seen' data' id delivery)
    (hdistinct : ∀ id other receipt receipt', data'.receipts.get id = some receipt →
      data'.receipts.get other = some receipt' → receipt.commandKey = receipt'.commandKey → id = other) :
    data'.Sound hash seen' where
  receipts id receipt hget := (hreceipts id receipt hget).elim
    (fun hold => hgrows.receiptSound (h.receipts id receipt hold)) fun hnew => hnew
  retries id approval hget := (hretries id approval hget).elim
    (fun hold => hgrows.retrySound (h.retries id approval hold)) fun hnew => hnew
  copies id approval hget := (hcopies id approval hget).elim
    (fun hold => hgrows.copySound (h.copies id approval hold)) fun hnew => hnew
  deliveries id delivery hget := (hdeliveries id delivery hget).elim
    (fun hold => hgrows.deliverySound (h.deliveries id delivery hold)) fun hnew => hnew
  distinct := hdistinct

theorem Sound.mono (h : data.Sound hash seen) (hseen : seen ⊆ seen') : data.Sound hash seen' :=
  (Grows.refl data hseen).sound h (fun _ _ => .inl) (fun _ _ => .inl) (fun _ _ => .inl) (fun _ _ => .inl)
    h.distinct

theorem of_get_set {α : Type} {m : JsMap String α} {value found : α} {other : String}
    (h : (m.set id value).get other = some found) :
    other = id ∧ found = value ∨ m.get other = some found := by
  rw [JsMap.get_set] at h
  split at h
  · exact .inl ⟨‹_›, (Option.some.inj h).symm⟩
  · exact .inr h

theorem get_setReceipt (receipt : Receipt κ) (other : String) :
    (data.setReceipt id receipt).receipts.get other =
      if other = id then some receipt else data.receipts.get other :=
  JsMap.get_set _ _ _ _

theorem get_setDelivery (delivery : Delivery) (other : String) :
    (data.setDelivery id delivery).deliveries.get other =
      if other = id then some delivery else data.deliveries.get other :=
  JsMap.get_set _ _ _ _

/-! What each kind of write keeps. -/

theorem hasReceipt_setReceipt (receipt : Receipt κ) {other : String} (h : data.HasReceipt other) :
    (data.setReceipt id receipt).HasReceipt other := by
  obtain ⟨old, hget⟩ := h
  by_cases heq : other = id
  · exact ⟨receipt, by rw [get_setReceipt, if_pos heq]⟩
  · exact ⟨old, by rw [get_setReceipt, if_neg heq, hget]⟩

variable {receipt : Receipt κ}

section

variable (h : data.Sound hash seen)
include h

theorem Sound.setReceipt (hsound : ReceiptSound hash seen (data.setReceipt id receipt) id receipt)
    (hdistinct : ∀ other old, other ≠ id → data.receipts.get other = some old →
      old.commandKey ≠ receipt.commandKey) : (data.setReceipt id receipt).Sound hash seen := by
  have hrefl := Grows.refl data (List.Subset.refl seen)
  have hgrows : Grows seen seen data (data.setReceipt id receipt) :=
    ⟨hrefl.seen, fun _ => hasReceipt_setReceipt receipt, hrefl.origins, hrefl.deliveries, hrefl.copies⟩
  refine hgrows.sound h (fun other old hget => ?_) (fun _ _ => .inl) (fun _ _ => .inl) (fun _ _ => .inl)
    fun first other old old' hget hget' hkey => ?_
  · obtain ⟨rfl, rfl⟩ | hold := of_get_set hget
    · exact .inr hsound
    · exact .inl hold
  · by_contra hne
    obtain ⟨rfl, rfl⟩ | hold := of_get_set hget <;> obtain ⟨rfl, rfl⟩ | hold' := of_get_set hget'
    · exact hne rfl
    · exact hdistinct other old' (Ne.symm hne) hold' hkey.symm
    · exact hdistinct first old hne hold hkey
    · exact hne (h.distinct first other old old' hold hold' hkey)

/-- A receipt becomes what may follow it. -/
theorem Sound.follow {receipt' : Receipt κ} (hget : data.receipts.get id = some receipt)
    (hfollows : receipt.Follows receipt') :
    (data.setReceipt id receipt').Sound hash seen := by
  have hold := h.receipts id receipt hget
  refine h.setReceipt ⟨hold.seen, hfollows.executionId.trans hold.named, ?_, ?_, ?_⟩
    fun other old hne hother hkey => hne ?_
  · rw [hfollows.commandKey, hfollows.blockOriginKey, hfollows.blockVersion, hfollows.approvalRevision]
    exact hold.keyed
  · rw [hfollows.blockOriginKey, hfollows.approvalRevision]
    exact hold.origin
  · intro target htarget
    exact hasReceipt_setReceipt receipt' (hold.predecessor target (hfollows.predecessor ▸ htarget))
  · exact h.distinct other id old receipt hother hget (hkey.trans hfollows.commandKey)

/-- The revision of a block is opened or raised. -/
theorem Sound.raise (origin : String) (revision : Nat)
    (hle : ∀ old, data.origins.get origin = some old → old ≤ revision) :
    Sound hash seen { data with origins := data.origins.set origin revision } := by
  have hgrows : Grows seen seen data { data with origins := data.origins.set origin revision } := by
    have hrefl := Grows.refl data (List.Subset.refl seen)
    refine ⟨hrefl.seen, hrefl.receipts, fun other old hget => ?_, hrefl.deliveries, hrefl.copies⟩
    by_cases heq : other = origin
    · subst heq
      exact ⟨revision, JsMap.get_set_self _ _ _, hle old hget⟩
    · exact ⟨old, (JsMap.get_set_other _ _ heq).trans hget, Nat.le_refl _⟩
  exact hgrows.sound h (fun _ _ => .inl) (fun _ _ => .inl) (fun _ _ => .inl) (fun _ _ => .inl) h.distinct

/-- An approval is added, or one takes the place of another; a COPY approval is never replaced. -/
theorem Sound.setApproval {approval : Approval}
    (hretry : ∀ retry, approval = .retry retry → RetrySound seen data id retry)
    (hcopy : ∀ copy, approval = .copy copy → CopySound seen data id copy)
    (hfree : ∀ copy, data.approvals.get id ≠ some (.copy copy)) :
    (data.setApproval id approval).Sound hash seen := by
  have hrefl := Grows.refl data (List.Subset.refl seen)
  have hgrows : Grows seen seen data (data.setApproval id approval) := by
    refine ⟨hrefl.seen, hrefl.receipts, hrefl.origins, hrefl.deliveries, fun other copy hget => ?_⟩
    have hne : other ≠ id := by
      rintro rfl
      exact hfree copy hget
    exact ⟨copy, (JsMap.get_set_other _ _ hne).trans hget, fun _ hconsumed => hconsumed⟩
  refine hgrows.sound h (fun _ _ => .inl) (fun other old hget => ?_) (fun other old hget => ?_)
    (fun _ _ => .inl) h.distinct
  · obtain ⟨rfl, heq⟩ | hold := of_get_set hget
    · exact .inr (hgrows.retrySound (hretry old heq.symm))
    · exact .inl hold
  · obtain ⟨rfl, heq⟩ | hold := of_get_set hget
    · exact .inr (hgrows.copySound (hcopy old heq.symm))
    · exact .inl hold

theorem Sound.setRetry {approval : RetryApproval} (hsound : RetrySound seen data id approval)
    (hfree : ∀ copy, data.approvals.get id ≠ some (.copy copy)) :
    (data.setApproval id (.retry approval)).Sound hash seen := by
  refine h.setApproval (fun retry heq => ?_) (fun copy heq => ?_) hfree
  · cases heq
    exact hsound
  · cases heq

theorem Sound.setCopy {approval : CopyApproval} (hsound : CopySound seen data id approval)
    (hfree : ∀ copy, data.approvals.get id ≠ some (.copy copy)) :
    (data.setApproval id (.copy approval)).Sound hash seen := by
  refine h.setApproval (fun retry heq => ?_) (fun copy heq => ?_) hfree
  · cases heq
  · cases heq
    exact hsound

theorem Sound.setDelivery {delivery : Delivery} (hsound : DeliverySound seen data id delivery)
    (hsame : ∀ old, data.deliveries.get id = some old → delivery.executionId = old.executionId) :
    (data.setDelivery id delivery).Sound hash seen := by
  have hrefl := Grows.refl data (List.Subset.refl seen)
  have hgrows : Grows seen seen data (data.setDelivery id delivery) := by
    refine ⟨hrefl.seen, hrefl.receipts, hrefl.origins, fun other old hget => ?_, hrefl.copies⟩
    by_cases heq : other = id
    · exact ⟨delivery, by rw [get_setDelivery, if_pos heq], hsame old (heq ▸ hget)⟩
    · exact ⟨old, by rw [get_setDelivery, if_neg heq, hget], rfl⟩
  refine hgrows.sound h (fun _ _ => .inl) (fun _ _ => .inl) (fun _ _ => .inl) (fun other old hget => ?_)
    h.distinct
  obtain ⟨rfl, rfl⟩ | hold := of_get_set hget
  · exact .inr (hgrows.deliverySound hsound)
  · exact .inl hold

/-- A COPY approval is consumed for a new delivery, which names it. -/
theorem Sound.consume {confirmationId : String} {approval : CopyApproval} {delivery : Delivery}
    (happroval : data.approvals.get confirmationId = some (.copy approval))
    (hopen : approval.consumedBy = none) (hid : id ∉ seen)
    (howner : delivery.executionId = approval.executionId)
    (hnames : delivery.confirmationId = some confirmationId) :
    ((data.setApproval confirmationId (.copy { approval with consumedBy := some id })).setDelivery id
      delivery).Sound hash (id :: seen) := by
  have hrefl := Grows.refl data (List.subset_cons_self id seen)
  have hsound := h.copies _ approval happroval
  have hgrows : Grows seen (id :: seen) data ((data.setApproval confirmationId
      (.copy { approval with consumedBy := some id })).setDelivery id delivery) := by
    refine ⟨hrefl.seen, hrefl.receipts, hrefl.origins, fun other old hget => ?_, fun other old hget => ?_⟩
    · have hne : other ≠ id := by
        rintro rfl
        exact hid (h.deliveries _ old hget).seen
      exact ⟨old, (JsMap.get_set_other _ _ hne).trans hget, rfl⟩
    · by_cases heq : other = confirmationId
      · subst heq
        cases happroval.symm.trans hget
        exact ⟨_, JsMap.get_set_self _ _ _, fun _ hconsumed => (by cases hopen.symm.trans hconsumed)⟩
      · exact ⟨old, (JsMap.get_set_other _ _ heq).trans hget, fun _ hconsumed => hconsumed⟩
  refine hgrows.sound h (fun _ _ => .inl) (fun other old hget => ?_) (fun other old hget => ?_)
    (fun other old hget => ?_) h.distinct
  · obtain ⟨-, heq⟩ | hold := of_get_set hget
    · cases heq
    · exact .inl hold
  · obtain ⟨rfl, heq⟩ | hold := of_get_set hget
    · cases heq
      refine .inr ⟨hgrows.seen hsound.seen, hsound.execution, fun deliveryId hconsumed => ?_⟩
      cases hconsumed
      exact ⟨delivery, JsMap.get_set_self _ _ _, howner⟩
    · exact .inl hold
  · obtain ⟨rfl, rfl⟩ | hold := of_get_set hget
    · exact .inr ⟨List.mem_cons_self, howner ▸ hsound.execution, fun _ =>
        ⟨_, _, hnames, JsMap.get_set_self _ _ _, rfl⟩⟩
    · exact .inl hold

/-- No COPY approval is under an id that was not seen. -/
theorem Sound.free (hid : id ∉ seen) (copy : CopyApproval) :
    data.approvals.get id ≠ some (.copy copy) :=
  fun hget => hid (h.copies id copy hget).seen

end

/-! What each kind of write is to the records that were seen. -/

theorem Advance.next {data'' : Ledger κ} (h : Advance seen data data') (h' : Advance seen data' data'')
    (hbefore : ∀ id, data.HasReceipt id → id ∈ seen) (hmiddle : ∀ id, data'.HasReceipt id → id ∈ seen) :
    Advance seen data data'' :=
  h.trans h' (fun _ hmem => hmem) hbefore hmiddle

theorem Advance.follow {receipt' : Receipt κ} (hget : data.receipts.get id = some receipt)
    (hfollows : receipt.Follows receipt') : Advance seen data (data.setReceipt id receipt') := by
  have hrefl := Advance.refl seen data
  refine ⟨fun other _ new hnew => ?_, fun other old hold _ => hasReceipt_setReceipt receipt' ⟨old, hold⟩,
    fun other new hnone hnew => ?_, hrefl.retries, hrefl.deliveries⟩
  · obtain ⟨rfl, rfl⟩ | hold := of_get_set hnew
    · exact ⟨receipt, hget, hfollows⟩
    · exact ⟨new, hold, .refl new⟩
  · obtain ⟨rfl, rfl⟩ | hold := of_get_set hnew
    · cases hnone.symm.trans hget
    · cases hnone.symm.trans hold

theorem Advance.add (hnew : id ∉ seen)
    (hfence : receipt.predecessor = none → ∀ other old, data.receipts.get other = some old →
      old.blockOriginKey = receipt.blockOriginKey → ¬ old.Uncertain) :
    Advance seen data (data.setReceipt id receipt) := by
  have hrefl := Advance.refl seen data
  refine ⟨fun other hmem new hget => ?_, fun other old hold _ => hasReceipt_setReceipt receipt ⟨old, hold⟩,
    fun other new hnone hget hother => ?_, hrefl.retries, hrefl.deliveries⟩
  · have hne : other ≠ id := by
      rintro rfl
      exact hnew hmem
    rw [get_setReceipt, if_neg hne] at hget
    exact ⟨new, hget, .refl new⟩
  · obtain ⟨rfl, rfl⟩ | hold := of_get_set hget
    · obtain ⟨origin, old, hold, hsame, hun⟩ := hother
      exact fun hnone => hfence hnone origin old hold hsame hun
    · cases hnone.symm.trans hold

theorem Advance.raise (origin : String) (revision : Nat) :
    Advance seen data { data with origins := data.origins.set origin revision } :=
  have hrefl := Advance.refl seen data
  ⟨hrefl.receipts, hrefl.uncertain, hrefl.fenced, hrefl.retries, hrefl.deliveries⟩

theorem Advance.setApproval (approval : Approval)
    (hterms : ∀ retry, approval = .retry retry → id ∈ seen →
      ∃ old, data.approvals.get id = some (.retry old) ∧ Agrees retry old) :
    Advance seen data (data.setApproval id approval) := by
  have hrefl := Advance.refl seen data
  refine ⟨hrefl.receipts, hrefl.uncertain, hrefl.fenced, fun other hmem retry hget => ?_, hrefl.deliveries⟩
  obtain ⟨rfl, heq⟩ | hold := of_get_set hget
  · exact hterms retry heq.symm hmem
  · exact ⟨retry, hold, ⟨rfl, rfl, rfl⟩⟩

theorem Advance.setDelivery {delivery : Delivery}
    (hstate : id ∈ seen → delivery.state ≠ .COPY_RESERVED) :
    Advance seen data (data.setDelivery id delivery) := by
  have hrefl := Advance.refl seen data
  refine ⟨hrefl.receipts, hrefl.uncertain, hrefl.fenced, hrefl.retries, fun other hmem new hget hnew => ?_⟩
  obtain ⟨rfl, rfl⟩ | hold := of_get_set hget
  · exact absurd hnew (hstate hmem)
  · exact ⟨new, hold, hnew⟩

/-- What a writer does to a sound ledger. -/
structure Writes (hash : Hash κ) (seen seen' : List String) (data data' : Ledger κ) : Prop where
  sound : data'.Sound hash seen'
  advance : Advance seen data data'

theorem Writes.same (h : data.Sound hash seen) (hseen : seen ⊆ seen') : Writes hash seen seen' data data :=
  ⟨h.mono hseen, .refl seen data⟩

theorem receiptFor_ok {context : Context} (h : data.receiptFor id context = .ok receipt) :
    data.receipts.get id = some receipt ∧ receipt.context = context := by
  unfold receiptFor at h
  split at h
  · split at h
    · cases h
      exact ⟨‹_›, ‹_›⟩
    · cases h
  · cases h

theorem predecessorFor_ok {context : Context} (h : data.predecessorFor id context = .ok receipt) :
    data.receipts.get id = some receipt := by
  unfold predecessorFor at h
  split at h
  · split at h
    · cases h
      assumption
    · cases h
  · cases h

theorem accepted_ne_reserved {bufferDigest : Option String} {outcome : SuppliedOutcome} {state : ItemState}
    (h : accepted bufferDigest outcome = .ok state) : state ≠ .RESERVED := by
  rintro rfl
  cases outcome with
  | RESULT =>
    simp only [accepted] at h
    split at h <;> cases h
  | UNKNOWN => cases h
  | PROVEN_NOT_DISPATCHED => cases h
  | other => cases h

section Writers

variable {context : Context} {now : Int} {answer : Answer κ}

variable {buffer : Buffer} {blockVersion executionId : String}

section

variable (h : data.Sound hash seen)
include h

theorem reserve_writes [DecidableEq κ] (hid : id ∉ seen) {blockOriginKey : String}
    {captured : List Selected} {source : Option SuppliedSource}
    (hok : data.reserve (hash.commandKey blockOriginKey blockVersion 0) blockOriginKey blockVersion captured
      source context now id = .ok (data', answer)) : Writes hash seen (id :: seen) data data' := by
  have hsub : seen ⊆ id :: seen := List.subset_cons_self _ _
  unfold reserve at hok
  split at hok
  · cases hok
    exact .same h hsub
  · rename_i hnone
    split at hok
    · cases hok
    · split at hok
      · cases hok
      · rename_i hfence
        split at hok
        · cases hok
        · cases hok
          have hopened := (h.raise blockOriginKey ((data.origins.get blockOriginKey).getD 0)
            fun old hget => by rw [hget]; rfl).mono hsub
          refine ⟨hopened.setReceipt ⟨List.mem_cons_self, rfl, rfl,
            ⟨_, JsMap.get_set_self _ _ _, Nat.zero_le _⟩, by simp⟩ fun other old _ hget hkey => ?_, ?_⟩
          · have hfresh := List.find?_eq_none.mp hnone (other, old) (Properties.mem_of_get hget)
            exact hfresh (decide_eq_true hkey)
          · refine (Advance.raise _ _).next (Advance.add hid fun _ other old hget horigin hun => ?_)
              (fun _ => h.known) (fun _ => h.known)
            have hget₀ : data.receipts.get other = some old := hget
            obtain ⟨revision, hrevision, -⟩ := (h.receipts other old hget₀).origin
            rw [horigin] at hrevision
            refine hfence (Bool.and_eq_true_iff.mpr ⟨by rw [hrevision]; rfl, List.any_eq_true.mpr
              ⟨(other, old), Properties.mem_of_get hget₀, ?_⟩⟩)
            exact Bool.and_eq_true_iff.mpr ⟨decide_eq_true horigin, hun.unknown⟩

theorem begin_writes {ordinal : Nat}
    (hok : data.begin executionId ordinal context now id = .ok (data', answer)) :
    Writes hash seen (id :: seen) data data' := by
  have hsub : seen ⊆ id :: seen := List.subset_cons_self _ _
  obtain ⟨receipt, hfor, hok⟩ := Js.bind_eq_ok.mp hok
  have hget := (receiptFor_ok hfor).1
  split at hok
  · cases hok
  · rename_i item hitem
    split at hok
    · cases hok
      exact .same h hsub
    · rename_i hstate
      split at hok
      · cases hok
      · cases hok
        have hfollows : receipt.Follows (receipt.updateItem ordinal fun item =>
            { item with state := .PROVIDER_INTENT, providerAttemptId := some id, intentAt := some now }) := by
          refine Receipt.follows_updateItem (fun _ => rfl) hitem ?_
          rw [not_not.mp hstate]
          trivial
        exact ⟨(h.follow hget hfollows).mono hsub, .follow hget hfollows⟩

theorem recordOutcome_writes {providerAttemptId : String} {ordinal : Nat}
    {outcome : SuppliedOutcome} {bufferDigest : Option String}
    (hok : data.recordOutcome executionId ordinal providerAttemptId outcome bufferDigest context =
      .ok (data', answer)) : Writes hash seen (id :: seen) data data' := by
  have hsub : seen ⊆ id :: seen := List.subset_cons_self _ _
  obtain ⟨receipt, hfor, hok⟩ := Js.bind_eq_ok.mp hok
  have hget := (receiptFor_ok hfor).1
  split at hok
  · cases hok
  · rename_i item hitem
    split at hok
    · cases hok
    · rename_i hguard
      simp only [Bool.or_eq_true, decide_eq_true_eq, not_or, not_not, ne_eq] at hguard
      cases haccepted : accepted bufferDigest outcome with
      | error code =>
        rw [haccepted] at hok
        cases hok
      | ok state =>
        rw [haccepted] at hok
        cases hok
        have hnot := accepted_ne_reserved haccepted
        have hfollows : receipt.Follows (receipt.updateItem ordinal fun item =>
            { item with state := state, bufferDigest := bufferDigest }) := by
          refine Receipt.follows_updateItem (fun _ => rfl) hitem ?_
          rw [hguard.2]
          exact hnot
        exact ⟨(h.follow hget hfollows).mono hsub, .follow hget hfollows⟩

theorem retryPreview_writes (hid : id ∉ seen) {parserContract credentialRevision : String}
    {selection : List Selected}
    (hok : data.retryPreview executionId blockVersion selection parserContract credentialRevision context now
      id = .ok (data', answer)) : Writes hash seen (id :: seen) data data' := by
  have hsub : seen ⊆ id :: seen := List.subset_cons_self _ _
  obtain ⟨old, hfor, hok⟩ := Js.bind_eq_ok.mp hok
  have hget := predecessorFor_ok hfor
  split at hok
  · cases hok
  · split at hok
    · cases hok
    · split at hok
      · cases hok
      · split at hok
        · cases hok
        · rename_i revision horigin
          cases hok
          refine ⟨(h.mono hsub).setRetry
            ⟨List.mem_cons_self, rfl, ⟨revision, horigin⟩, ⟨old, hget⟩, by simp⟩ (h.free hid),
            .setApproval _ fun _ _ hmem => absurd hmem hid⟩

theorem retryConfirm_writes (hid : id ∉ seen) {preview : RetryApproval}
    (hpreview : ∀ approval, data.approvals.get preview.confirmationId = some (.retry approval) →
      Agrees approval preview) {parserContract credentialRevision : String}
    {selection : List Selected} (hok : data.retryConfirm
      (hash.commandKey preview.blockOriginKey preview.blockVersion (preview.approvalRevision + 1))
      preview.confirmationId selection blockVersion parserContract credentialRevision context now id =
        .ok (data', answer)) : Writes hash seen (id :: seen) data data' := by
  have hsub : seen ⊆ id :: seen := List.subset_cons_self _ _
  unfold retryConfirm at hok
  split at hok
  · rename_i approval happroval
    split at hok
    · cases hok
    · split at hok
      · cases hok
      · split at hok
        · cases hok
          exact .same h hsub
        · split at hok
          · cases hok
          · split at hok
            · cases hok
            · rename_i revision horigin
              split at hok
              · cases hok
              · rename_i hstale
                obtain ⟨old, hfor, hok⟩ := Js.bind_eq_ok.mp hok
                have hold := predecessorFor_ok hfor
                split at hok
                · cases hok
                · cases hok
                  obtain ⟨hsameOrigin, hsameVersion, hsameRevision⟩ := hpreview approval happroval
                  have hrevision : revision = approval.approvalRevision := not_not.mp hstale
                  have hsound := h.retries _ approval happroval
                  -- The revision is raised, the receipt added, and the approval then names it.
                  have hraised := (h.raise approval.blockOriginKey (revision + 1)
                    fun n hn => by cases horigin.symm.trans hn; exact Nat.le_succ _).mono hsub
                  refine ⟨Sound.setRetry (hraised.setReceipt ?_ ?_) ?_ ?_, ?_⟩
                  · refine ⟨List.mem_cons_self, rfl, ?_, ⟨_, JsMap.get_set_self _ _ _, Nat.le_refl _⟩, ?_⟩
                    · change hash.commandKey _ _ _ = hash.commandKey _ _ _
                      rw [hsameOrigin, hsameVersion, hrevision, hsameRevision]
                    · intro target htarget
                      cases htarget
                      exact hasReceipt_setReceipt _ ⟨old, hold⟩
                  · intro other receipt _ hget hkey
                    have hother := h.receipts other receipt hget
                    have hkeys := hash.injective (hother.keyed.symm.trans hkey)
                    obtain ⟨n, hn, hle⟩ := hother.origin
                    rw [hkeys.1, ← hsameOrigin] at hn
                    cases horigin.symm.trans hn
                    have hgreater := hkeys.2.2
                    omega
                  · refine ⟨hsub hsound.seen, hsound.named, ⟨_, JsMap.get_set_self _ _ _⟩,
                      hasReceipt_setReceipt _ ⟨old, hold⟩, fun executionId hconsumed => ?_⟩
                    cases hconsumed
                    exact ⟨_, by rw [get_setReceipt, if_pos rfl]⟩
                  · exact fun copy hcopy => by cases happroval.symm.trans hcopy
                  · have hterms : Advance seen data (data.setApproval preview.confirmationId
                        (.retry { approval with consumedBy := some id })) :=
                      .setApproval _ fun retry hretry _ => by
                        cases hretry
                        exact ⟨approval, happroval, ⟨rfl, rfl, rfl⟩⟩
                    refine (hterms.next (Advance.raise approval.blockOriginKey (revision + 1))
                      (fun _ => h.known) (fun _ => h.known)).next ?_ (fun _ => h.known) (fun _ => h.known)
                    exact Advance.add hid fun hnone => by cases hnone
  · cases hok

theorem recordBuffer_writes {bufferDigest : String} {expiresAt : Int}
    {previous : Option PreviousDelivery}
    (hok : data.recordBuffer executionId bufferDigest expiresAt previous context now = .ok (data', answer)) :
    Writes hash seen (id :: (previous.map PreviousDelivery.deliveryId).toList ++ seen) data data' := by
  have hsub : seen ⊆ id :: (previous.map PreviousDelivery.deliveryId).toList ++ seen :=
    List.subset_append_right _ _
  obtain ⟨receipt, hfor, hok⟩ := Js.bind_eq_ok.mp hok
  have hget := (receiptFor_ok hfor).1
  split at hok
  · cases hok
  · cases hrecorded : data.recordPrevious executionId bufferDigest expiresAt context previous with
    | error code =>
      rw [hrecorded] at hok
      cases hok
    | ok recorded =>
      rw [hrecorded] at hok
      cases hok
      have hmiddle : Writes hash seen (id :: (previous.map PreviousDelivery.deliveryId).toList ++ seen) data
          recorded ∧ recorded.receipts = data.receipts := by
        cases previous with
        | none =>
          cases hrecorded
          exact ⟨.same h hsub, rfl⟩
        | some previous =>
          unfold recordPrevious at hrecorded
          dsimp only at hrecorded
          split at hrecorded
          · cases hrecorded
          · rename_i confirmed _
            split at hrecorded
            · cases hrecorded
            · split at hrecorded
              · cases hrecorded
                exact ⟨.same h hsub, rfl⟩
              · rename_i hnew
                split at hrecorded
                · cases hrecorded
                · cases hrecorded
                  refine ⟨⟨(h.mono hsub).setDelivery ⟨?_, ⟨receipt, hget⟩, fun horiginal => ?_⟩
                    fun old hold => ?_, .setDelivery fun _ => ?_⟩, rfl⟩
                  · exact List.mem_cons_of_mem _ List.mem_cons_self
                  · cases horiginal
                  · rw [hold] at hnew
                    exact absurd rfl hnew
                  · cases confirmed <;> simp
      obtain ⟨hwrites, hsame⟩ := hmiddle
      have hfollows : receipt.Follows { receipt with deliveryBufferDigest := some bufferDigest } :=
        ⟨rfl, rfl, rfl, rfl, rfl, rfl, (Receipt.Follows.refl receipt).items⟩
      have hget' : recorded.receipts.get executionId = some receipt := hsame ▸ hget
      refine ⟨hwrites.sound.follow hget' hfollows, hwrites.advance.next (.follow hget' hfollows)
        (fun _ => h.known) fun other hother => h.known ?_⟩
      obtain ⟨found, hfound⟩ := hother
      exact ⟨found, hsame ▸ hfound⟩

theorem copyPreview_writes (hid : id ∉ seen)
    (hok : data.copyPreview executionId buffer context id = .ok (data', answer)) :
    Writes hash seen (id :: seen) data data' := by
  have hsub : seen ⊆ id :: seen := List.subset_cons_self _ _
  obtain ⟨receipt, hfor, hok⟩ := Js.bind_eq_ok.mp hok
  split at hok
  · cases hok
  · split at hok
    · cases hok
    · cases hok
      exact ⟨(h.mono hsub).setCopy
          ⟨List.mem_cons_self, ⟨receipt, (receiptFor_ok hfor).1⟩, by simp⟩ (h.free hid),
        .setApproval _ fun _ hretry => (by cases hretry)⟩

theorem copyConfirm_writes (hid : id ∉ seen) {confirmationId : String}
    (hok : data.copyConfirm confirmationId buffer context now id = .ok (data', answer)) :
    Writes hash seen (id :: seen) data data' := by
  have hsub : seen ⊆ id :: seen := List.subset_cons_self _ _
  unfold copyConfirm at hok
  split at hok
  · rename_i approval happroval
    split at hok
    · cases hok
    · obtain ⟨receipt, hfor, hok⟩ := Js.bind_eq_ok.mp hok
      have hget := (receiptFor_ok hfor).1
      split at hok
      · cases hok
      · split at hok
        · cases hok
          exact .same h hsub
        · rename_i hopen
          split at hok
          · cases hok
          · split at hok
            · cases hok
            · cases hok
              have hfollows : receipt.Follows
                  { receipt with deliveryRevision := approval.deliveryRevision + 1 } :=
                ⟨rfl, rfl, rfl, rfl, rfl, rfl, (Receipt.Follows.refl receipt).items⟩
              have hraised := h.follow hget hfollows
              refine ⟨hraised.consume happroval hopen hid (h.receipts _ receipt hget).named rfl, ?_⟩
              have hconsumed := (@Advance.follow _ seen _ _ _ _ hget hfollows).next
                (@Advance.setApproval _ _ _ confirmationId (.copy { approval with consumedBy := some id })
                  fun _ hretry => (by cases hretry))
                (fun _ => h.known) (fun _ => hraised.known)
              exact hconsumed.next (.setDelivery fun hmem => absurd hmem hid) (fun _ => h.known)
                (fun _ => hraised.known)
  · cases hok

theorem beginDelivery_writes {deliveryId : String}
    (hok : data.beginDelivery deliveryId buffer context now = .ok (data', answer)) :
    Writes hash seen (id :: seen) data data' := by
  have hsub : seen ⊆ id :: seen := List.subset_cons_self _ _
  unfold beginDelivery at hok
  split at hok
  · cases hok
  · rename_i delivery hget
    split at hok
    · cases hok
    · split at hok
      · cases hok
      · split at hok
        · cases hok
          exact .same h hsub
        · cases hok
          have hsound := h.deliveries _ delivery hget
          refine ⟨(h.mono hsub).setDelivery ⟨hsub hsound.seen, hsound.execution, hsound.confirmed⟩ fun old hold => ?_,
            .setDelivery fun _ => (by simp)⟩
          cases hget.symm.trans hold
          rfl

theorem recordCopy_writes {deliveryId : String} {confirmed : Bool}
    (hok : data.recordCopy deliveryId confirmed context = .ok (data', answer)) :
    Writes hash seen (id :: seen) data data' := by
  have hsub : seen ⊆ id :: seen := List.subset_cons_self _ _
  unfold recordCopy at hok
  split at hok
  · cases hok
  · rename_i delivery hget
    split at hok
    · cases hok
    · cases hok
      have hsound := h.deliveries _ delivery hget
      refine ⟨(h.mono hsub).setDelivery ⟨hsub hsound.seen, hsound.execution, hsound.confirmed⟩ fun old hold => ?_,
        .setDelivery fun _ => (by cases confirmed <;> simp)⟩
      cases hget.symm.trans hold
      rfl

end

end Writers

end Ledger

end SellerAgents.CommandLedger
