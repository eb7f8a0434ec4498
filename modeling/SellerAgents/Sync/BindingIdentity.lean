import Std.Data.String.ToNat
import SellerAgents.Sync.Reconciliation

open SellerAgents.Js

namespace SellerAgents.Sync

/-- The unit `|`, at which the parts of an identity are joined. -/
def separator : UInt16 := 124

/-- The parts that are compared; both sides have the account and the entity in front. -/
def comparedParts (payload : SyncPayload) : List JsString := (identityParts payload [] []).drop 2

/-- The two agree on every compared field. A null and an absent generation are equal. -/
structure FieldsAgree (left right : SyncPayload) : Prop where
  conversationKeyDigest : left.conversationKeyDigest = right.conversationKeyDigest
  bindingId : left.bindingId = right.bindingId
  bindingRevision : left.bindingRevision = right.bindingRevision
  storeId : left.storeId = right.storeId
  marketplace : left.marketplace = right.marketplace
  credentialRevision : left.credentialRevision = right.credentialRevision
  workGeneration : left.workGeneration.join = right.workGeneration.join
  state : stateKind left = stateKind right

/-- One is the other with its texts cut elsewhere: the pieces between separators are the same and in
the same order, but some field holds another number of separators. -/
def Recut (left right : SyncPayload) : Prop :=
  (comparedParts left).flatMap (·.splitOn separator) =
      (comparedParts right).flatMap (·.splitOn separator) ∧
    (comparedParts left).map (·.count separator) ≠ (comparedParts right).map (·.count separator)

theorem identityParts_eq (payload : SyncPayload) (accountId entityId : JsString) :
    identityParts payload accountId entityId = accountId :: entityId :: comparedParts payload := rfl

/-! Each field is read back from its part. -/

theorem chars_of_units {s : String} (hdigits : ∀ c ∈ s.toList, c.isDigit = true) :
    (units s).map (fun u => Char.ofNat u.toNat) = s.toList := by
  rw [units, List.map_map]
  conv_rhs => rw [← List.map_id s.toList]
  refine List.map_congr_left ?_
  intro c hc
  have hsmall : c.toNat < 65536 := by
    have hdigit := hdigits c hc
    simp only [Char.isDigit, Bool.and_eq_true, decide_eq_true_eq] at hdigit
    have hle : c.toNat ≤ 57 := hdigit.2
    omega
  simp [Nat.mod_eq_of_lt hsmall]

theorem revision_inj {m n : Nat} (h : units (toString m) = units (toString n)) : m = n := by
  have hdigits : ∀ k : Nat, ∀ c ∈ (toString k).toList, c.isDigit = true := by
    intro k c hc
    rw [Nat.toString_eq_repr, Nat.toList_repr] at hc
    exact Nat.isDigit_of_mem_toDigits (by decide) (by decide) hc
  have hchars := congrArg (List.map fun u => Char.ofNat u.toNat) h
  rw [chars_of_units (hdigits m), chars_of_units (hdigits n)] at hchars
  exact Nat.repr_inj.mp (String.toList_inj.mp hchars)

theorem nullable_inj {max : Nat} {left right : Option JsString}
    (hleft : nullableString max left = true) (hright : nullableString max right = true)
    (h : left.getD [] = right.getD []) : left = right := by
  cases left with
  | none =>
    cases right with
    | none => rfl
    | some s => simp_all [nullableString, bounded]
  | some s =>
    cases right with
    | none => simp_all [nullableString, bounded]
    | some t => simpa using h

theorem marketplace_inj {left right : Option Marketplace}
    (h : (left.map marketplaceName).getD [] = (right.map marketplaceName).getD []) :
    left = right := by
  revert h
  cases left with
  | none => rcases right with _ | _ | _ <;> decide
  | some m => cases m <;> rcases right with _ | _ | _ <;> decide

theorem bindingState_inj {left right : BindingState}
    (h : bindingStateName left = bindingStateName right) : left = right := by
  revert h
  cases left <;> cases right <;> decide

theorem nullable_of_optional {max : Nat} {s : Nullish JsString}
    (h : optionalString max s = true) : nullableString max s.join = true := by
  cases s with
  | none => rfl
  | some s => exact h

theorem texts_of_valid {payload : SyncPayload} (h : payload.valid = true) :
    nullableString 128 payload.bindingId = true ∧ nullableString 128 payload.storeId = true ∧
      nullableString 128 payload.credentialRevision = true ∧
      nullableString 160 payload.workGeneration.join = true := by
  simp only [SyncPayload.valid, Bool.and_eq_true] at h
  have hgeneration : optionalString 160 payload.workGeneration = true := by tauto
  exact ⟨by tauto, by tauto, by tauto, nullable_of_optional hgeneration⟩

variable {left right : SyncPayload}

theorem comparedParts_eq_iff (hleft : left.valid = true) (hright : right.valid = true) :
    comparedParts left = comparedParts right ↔ FieldsAgree left right := by
  constructor
  · intro h
    obtain ⟨hbinding, hstore, hcredential, hgeneration⟩ := texts_of_valid hleft
    obtain ⟨hbinding', hstore', hcredential', hgeneration'⟩ := texts_of_valid hright
    simp only [comparedParts, identityParts, List.drop_succ_cons, List.drop_zero,
      List.cons.injEq, and_true] at h
    obtain ⟨hdigest, hid, hrevision, hstoreId, hmarket, hcredentials, hwork, hstate⟩ := h
    exact {
      conversationKeyDigest := hdigest
      bindingId := nullable_inj hbinding hbinding' hid
      bindingRevision := revision_inj hrevision
      storeId := nullable_inj hstore hstore' hstoreId
      marketplace := marketplace_inj hmarket
      credentialRevision := nullable_inj hcredential hcredential' hcredentials
      workGeneration := nullable_inj hgeneration hgeneration' hwork
      state := bindingState_inj hstate }
  · intro h
    simp [comparedParts, identityParts, h.conversationKeyDigest, h.bindingId, h.bindingRevision,
      h.storeId, h.marketplace, h.credentialRevision, h.workGeneration, h.state]

/-- The identities are equal exactly when the pieces between the separators are. -/
theorem sameEffectiveBinding_iff (left right : SyncPayload) (accountId entityId : JsString) :
    sameEffectiveBinding left right accountId entityId = true ↔
      (comparedParts left).flatMap (·.splitOn separator) =
        (comparedParts right).flatMap (·.splitOn separator) := by
  have hsep : units "|" = [separator] := by decide
  rw [sameEffectiveBinding, decide_eq_true_eq, identity, identity, hsep,
    join_eq_iff separator (by simp [identityParts]) (by simp [identityParts]),
    identityParts_eq, identityParts_eq]
  simp [List.flatMap_cons]

theorem sameEffectiveBinding_iff_fieldsAgree {accountId entityId : JsString}
    (hleft : left.valid = true) (hright : right.valid = true) (hcut : ¬ Recut left right) :
    sameEffectiveBinding left right accountId entityId = true ↔ FieldsAgree left right := by
  rw [sameEffectiveBinding_iff, ← comparedParts_eq_iff hleft hright,
    parts_eq_iff separator (comparedParts left) (comparedParts right)]
  constructor
  · intro hpieces
    refine ⟨hpieces, ?_⟩
    by_contra hcounts
    exact hcut ⟨hpieces, hcounts⟩
  · exact And.left

theorem Recut.not_fieldsAgree (hleft : left.valid = true) (hright : right.valid = true)
    (h : Recut left right) : ¬ FieldsAgree left right := by
  intro hfields
  have hparts := (comparedParts_eq_iff hleft hright).mpr hfields
  exact h.2 (by rw [hparts])

theorem sanitizeExplicit_valid {entry : SyncEntry} (h : entry.valid = true) :
    (sanitizeExplicit entry).valid = true := by
  have hpayload : entry.payload.valid = true := by
    simp only [SyncEntry.valid, Bool.and_eq_true] at h
    tauto
  simp only [SyncPayload.valid, Bool.and_eq_true] at hpayload
  simp only [SyncPayload.valid, sanitizeExplicit, optionalString, Option.all_none,
    Bool.and_eq_true, and_true]
  tauto

section Answers

variable (localeCompare : JsString → JsString → Ordering)

/-- The answer is a conflict, or an update that stores what the entry asks for. -/
def AnsweredAsChange (desired : SyncPayload) (serverRevision : Nat) (result : SyncResult) : Prop :=
  result.outcome = .CONFLICT ∨
    result.outcome = .ACK ∧ result.serverRevision = serverRevision + 1 ∧
      ∃ state, result.serverState = some state ∧ FieldsAgree desired state

/-- Bindings are the same exactly when their fields agree, and a binding with other fields is
answered as a change. -/
def SameMeansEqualFields (current : SyncPayload) (entry : SyncEntry) : Prop :=
  let desired := sanitizeExplicit entry
  (∀ accountId entityId,
      sameEffectiveBinding desired current accountId entityId = true ↔
        FieldsAgree desired current) ∧
    (¬ FieldsAgree desired current →
      ∀ serverRevision principal receiveAtMs revokedInstallationIds,
        AnsweredAsChange desired serverRevision
          (applyReconciliationEntry localeCompare (some current) serverRevision entry principal
            receiveAtMs revokedInstallationIds))

variable {receiveAtMs : Int}

theorem FieldsAgree.reconciled {desired : SyncPayload} {classification : ReconciliationClass}
    {markers : List Marker} {actingInstallationId : JsString} {preferred : Preferred} :
    FieldsAgree desired
      (Sync.reconciled desired classification markers actingInstallationId receiveAtMs
        preferred) := by
  constructor <;> rfl

theorem applyExplicitEntry_changed {current : SyncPayload} {serverRevision : Nat}
    {entry : SyncEntry} {principal : Principal}
    (h : sameEffectiveBinding (sanitizeExplicit entry) current principal.accountId
      entry.entityId = false) :
    AnsweredAsChange (sanitizeExplicit entry) serverRevision
      (applyExplicitEntry (some current) serverRevision entry principal receiveAtMs) := by
  simp only [applyExplicitEntry, h, Bool.false_eq_true, if_false]
  by_cases hbase : entry.baseRevision = serverRevision
  · rw [if_neg (not_not.mpr hbase)]
    by_cases hrevision : (sanitizeExplicit entry).bindingRevision ≤ current.bindingRevision
    · rw [if_pos hrevision]
      exact Or.inl rfl
    · rw [if_neg hrevision]
      exact Or.inr ⟨rfl, rfl, _, rfl, FieldsAgree.reconciled⟩
  · rw [if_pos hbase]
    exact Or.inl rfl

theorem applyReconciliationEntry_explicit {current : Option SyncPayload} {serverRevision : Nat}
    {entry : SyncEntry} {principal : Principal} {revokedInstallationIds : List JsString}
    (hentry : entry.valid = true) (hkind : isExplicit entry.payload = true) :
    applyReconciliationEntry localeCompare current serverRevision entry principal receiveAtMs
        revokedInstallationIds =
      applyExplicitEntry current serverRevision entry principal receiveAtMs := by
  have hsame : entry.kind = entry.payload.kind := by
    simp only [SyncEntry.valid, Bool.and_eq_true, decide_eq_true_eq] at hentry
    tauto
  simp only [isExplicit, Bool.or_eq_true, decide_eq_true_eq, ← hsame] at hkind
  cases hkind with
  | inl hbind => simp only [applyReconciliationEntry, hbind]
  | inr hfinish => simp only [applyReconciliationEntry, hfinish]

/-- Two bindings that are schema-valid are taken for the same exactly when their fields agree,
unless one is the other with its fields cut at other places. -/
theorem same_iff_equal_fields (current : SyncPayload) (entry : SyncEntry)
    (hcurrent : current.valid = true) (hentry : entry.valid = true)
    (hkind : isExplicit entry.payload = true) :
    SameMeansEqualFields localeCompare current entry ↔
      ¬ Recut (sanitizeExplicit entry) current := by
  have hdesired := sanitizeExplicit_valid hentry
  constructor
  · intro h hcut
    have hsame := (sameEffectiveBinding_iff _ _ [] []).mpr hcut.1
    exact hcut.not_fieldsAgree hdesired hcurrent ((h.1 [] []).mp hsame)
  · intro hcut
    have hiff : ∀ accountId entityId,
        sameEffectiveBinding (sanitizeExplicit entry) current accountId entityId = true ↔
          FieldsAgree (sanitizeExplicit entry) current :=
      fun _ _ => sameEffectiveBinding_iff_fieldsAgree hdesired hcurrent hcut
    refine ⟨hiff, ?_⟩
    intro hfields serverRevision principal receiveAtMs revokedInstallationIds
    have hchanged := Bool.eq_false_iff.mpr (mt (hiff principal.accountId entry.entityId).mp hfields)
    rw [applyReconciliationEntry_explicit localeCompare hentry hkind]
    exact applyExplicitEntry_changed hchanged

/-! The generation of one is cut off its credential revision in the other. -/

def cutBinding (credentialRevision workGeneration : JsString) : SyncPayload where
  kind := .BINDING_UPSERT
  conversationKeyDigest := List.replicate 64 97
  bindingId := some (units "binding")
  bindingRevision := 1
  storeId := some (units "store")
  marketplace := some .ozon
  credentialRevision := some credentialRevision
  bindingState := some .BOUND
  workGeneration := some (some workGeneration)

def cutEntry (payload : SyncPayload) : SyncEntry where
  requestId := units "00000000-0000-0000-0000-000000000000"
  mutationId := units "mutation"
  entityId := units "entity"
  baseRevision := 1
  localSequence := 1
  mutationGeneration := units "generation"
  kind := .BINDING_UPSERT
  payload := payload

/-- A separator inside a field makes two different bindings read the same. -/
theorem same_of_recut :
    let entry := cutEntry (cutBinding (units "x|y") (units "z"))
    let current := cutBinding (units "x") (units "y|z")
    current.valid = true ∧ entry.valid = true ∧ isExplicit entry.payload = true ∧
      ¬ SameMeansEqualFields (fun _ _ => .eq) current entry := by
  refine ⟨by decide, by decide, by decide, ?_⟩
  intro h
  have hfields := (h.1 [] []).mp (by decide)
  exact absurd hfields.credentialRevision (by decide)

theorem same_iff_of_plain :
    SameMeansEqualFields (fun _ _ => .eq) (cutBinding (units "x") (units "y"))
        (cutEntry (cutBinding (units "x") (units "z"))) ↔
      ¬ Recut (sanitizeExplicit (cutEntry (cutBinding (units "x") (units "z"))))
        (cutBinding (units "x") (units "y")) :=
  same_iff_equal_fields _ _ _ (by decide) (by decide) (by decide)

end Answers

end SellerAgents.Sync
