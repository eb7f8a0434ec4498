import SellerAgents.Sync.Entities
import SellerAgents.Sync.StateLimits

open Relational SellerAgents.Js Ranking

namespace SellerAgents.Sync

/-- The limits of an accepted entry. -/
structure EntrySized (entry : SyncEntry) : Prop where
  entityId : bounded 128 entry.entityId = true
  digest : isSyncDigest entry.payload.conversationKeyDigest = true
  bindingId : nullableString 128 entry.payload.bindingId = true
  bindingRevision : safeNat entry.payload.bindingRevision = true
  storeId : nullableString 128 entry.payload.storeId = true
  credentialRevision : nullableString 128 entry.payload.credentialRevision = true
  deliveryMarkerId : optionalString 128 entry.payload.deliveryMarkerId = true
  workGeneration : optionalString 160 entry.payload.workGeneration = true
  deliveryOrder : entry.payload.deliveryOrder.all DeliveryOrder.valid = true
  name : entry.payload.name.all (bounded 80) = true
  providerAccountId : optionalString 128 entry.payload.providerAccountId = true
  metadataRevision : entry.payload.metadataRevision.all safeNat = true
  marker : entry.kind = .DELIVERY_MARKER → entry.payload.deliveryMarkerId.join.isSome = true
  binding : entry.kind.isStore = false → entry.payload.name = none ∧
    entry.payload.providerIdentityState = none ∧ entry.payload.metadataRevision = none ∧
    entry.payload.lifecycleState = none

theorem EntrySized.of_valid {entry : SyncEntry} (h : entry.valid = true) : EntrySized entry := by
  simp only [SyncEntry.valid, SyncPayload.valid, Bool.and_eq_true] at h
  obtain ⟨⟨⟨⟨⟨⟨⟨⟨⟨⟨-, -⟩, hentity⟩, -⟩, -⟩, -⟩, -⟩, hpayload⟩, -⟩, hmarker⟩, hstore⟩ := h
  obtain ⟨⟨⟨⟨⟨⟨⟨⟨⟨⟨⟨hdigest, hbinding⟩, hrevision⟩, hstoreId⟩, hcredential⟩, hdelivery⟩, hwork⟩,
    horder⟩, -⟩, hname⟩, hprovider⟩, hmetadata⟩ := hpayload
  refine ⟨hentity, hdigest, hbinding, hrevision, hstoreId, hcredential, hdelivery, hwork, horder,
    hname, hprovider, hmetadata, fun hkind => ?_, fun hkind => ?_⟩
  · rw [if_pos hkind] at hmarker
    exact hmarker
  · rw [hkind] at hstore
    simpa [and_assoc] using hstore

variable {receiveAtMs : Int} {localeCompare : JsString → JsString → Ordering} {max : Nat}
  {s : Nullish JsString} {current : Option SyncPayload} {platform : Platform}

theorem optionalString_le (h : optionalString max s = true) (hmax : 1 ≤ max) :
    ∀ t ∈ s, orNullBytes quotedBytes t ≤ 6 * max + 2 := by
  intro t ht
  rw [Option.mem_def] at ht
  subst ht
  exact nullableString_le h hmax

theorem optionalString_join (h : optionalString max s = true) :
    nullableString max s.join = true := by
  rcases s with _ | t
  · rfl
  · exact h

theorem nullableString_orNull {s : Option JsString} (h : nullableString max s = true) :
    nullableString max (orNull s) = true := by
  unfold orNull
  split
  · exact h
  · rfl

theorem mem_orNull {s : Option JsString} {t : JsString} (h : t ∈ orNull s) : t ∈ s := by
  unfold orNull at h
  split at h
  · exact h
  · cases h

theorem mem_orElse {s other : Option JsString} {t : JsString} (h : t ∈ orElse s other) :
    t ∈ s ∨ t ∈ other := by
  unfold orElse at h
  split at h
  · exact .inl h
  · exact .inr h

theorem syncKind_le (kind : SyncKind) : kind.bytes ≤ 17 := by
  cases kind <;> decide

variable {entry : SyncEntry} {state : SyncPayload}

theorem explicitSized_sanitizeExplicit (h : EntrySized entry) (hkind : entry.kind.isStore = false) :
    ExplicitSized (sanitizeExplicit entry) := by
  obtain ⟨hname, hidentity, hmetadata, hlifecycle⟩ := h.binding hkind
  have hstate : (if entry.kind = .FINISH then BindingState.FINISHED else .BOUND).bytes ≤ 10 := by
    split <;> decide
  refine ⟨?_, fun hstore => ?_, ?_⟩
  · unfold sanitizeExplicit SyncPayload.explicitFields bindingLimits
    simp only [hname, hidentity, hmetadata, hlifecycle]
    exact objectBytes_le
      (.cons (fieldLe_some (syncKind_le _)) (.cons (fieldLe_some (quotedBytes_digest h.digest).le)
      (.cons (fieldLe_some (nullableString_le h.bindingId (by decide)))
      (.cons (fieldLe_some (decimalBytes_safe h.bindingRevision))
      (.cons (fieldLe_some (nullableString_le h.storeId (by decide)))
      (.cons (fieldLe_some (marketplace_le _))
      (.cons (fieldLe_some (nullableString_le h.credentialRevision (by decide)))
      (.cons fieldLe_none (.cons (fieldLe_some hstate)
      (.cons (fieldLe_map (optionalString_le h.workGeneration (by decide)))
      (.cons fieldLe_none (.cons fieldLe_none
      (.cons (fieldLe_map (optionalString_le h.providerAccountId (by decide)))
      (.cons fieldLe_none (.cons fieldLe_none (.cons fieldLe_none .nil))))))))))))))))
  · rw [sanitizeExplicit] at hstore
    rw [hkind] at hstore
    cases hstore
  · intro id hid
    have hprovider := optionalString_join h.providerAccountId
    have hid' : entry.payload.providerAccountId.join = some id := hid
    rw [hid'] at hprovider
    exact quotedBytes_bounded hprovider

/-- The id of a store is shorter than its entity id. -/
theorem storeId_le (h : EntrySized entry) (hnames : NamesStore entry) :
    orNullBytes quotedBytes entry.payload.storeId ≤ 734 := by
  refine orNullBytes_le (fun storeId hstoreId => ?_) (by decide)
  have hid := hnames.2.1
  rw [Option.mem_def] at hstoreId
  rw [hstoreId, Option.map_some, Option.some.injEq] at hid
  have hlength := h.entityId
  rw [hid] at hlength
  simp only [bounded, List.length_append, Bool.and_eq_true, decide_eq_true_eq] at hlength
  have hprefix : (units "store:").length = 6 := by decide
  have hquoted := quotedBytes_le storeId
  omega

/-- The metadata of an entry, with its own provider account or a known one. -/
theorem explicitSized_store (h : EntrySized entry) (hnames : NamesStore entry)
    {identity : Option ProviderIdentityState} {provider : Option JsString}
    (hprovider : ∀ id ∈ provider, quotedBytes id ≤ 770) :
    ExplicitSized { storeStateFromEntry entry with
      providerIdentityState := identity, providerAccountId := some provider } := by
  have hbytes : objectBytes 0 (({ storeStateFromEntry entry with
      providerIdentityState := identity, providerAccountId := some provider } :
        SyncPayload).explicitFields 0) ≤ objectBytes 0 storeLimits := by
    have hidentity : ∀ value ∈ identity, value.bytes ≤ 13 := by
      intro value _
      cases value <;> decide
    have hlifecycle : (if entry.kind = .STORE_TOMBSTONE then LifecycleState.TOMBSTONED
        else .ACTIVE).bytes ≤ 12 := by
      split <;> decide
    have hname : ∀ name ∈ entry.payload.name, quotedBytes name ≤ 482 := by
      intro name hname
      have hall := h.name
      rw [Option.mem_def] at hname
      rw [hname] at hall
      exact quotedBytes_bounded hall
    have hmetadata : ∀ n ∈ entry.payload.metadataRevision, decimalBytes n ≤ 16 := by
      intro n hn
      have hall := h.metadataRevision
      rw [Option.mem_def] at hn
      rw [hn] at hall
      exact decimalBytes_safe hall
    have hcredential := nullableString_le (nullableString_orNull h.credentialRevision) (by decide)
    have hzero : decimalBytes 0 ≤ 1 := by decide
    unfold SyncPayload.explicitFields storeStateFromEntry storeLimits
    exact objectBytes_le
      (.cons (fieldLe_some (syncKind_le _)) (.cons (fieldLe_some (quotedBytes_digest h.digest).le)
      (.cons (fieldLe_some (Nat.le_refl 4)) (.cons (fieldLe_some hzero)
      (.cons (fieldLe_some (storeId_le h hnames)) (.cons (fieldLe_some (marketplace_le _))
      (.cons (fieldLe_some hcredential) (.cons fieldLe_none (.cons fieldLe_none
      (.cons fieldLe_none (.cons fieldLe_none (.cons (fieldLe_map hname)
      (.cons (fieldLe_some (orNullBytes_le hprovider (by decide)))
      (.cons (fieldLe_map hidentity) (.cons (fieldLe_map hmetadata)
      (.cons (fieldLe_some hlifecycle) .nil))))))))))))))))
  refine ⟨hbytes.trans (by decide), fun _ => hbytes, ?_⟩
  exact hprovider

theorem explicitSized_statedBy (h : EntrySized entry)
    (hcurrent : ∀ state ∈ current, ExplicitSized state) (hnames : entry.kind.isStore = true →
      NamesStore entry) : ExplicitSized (statedBy entry current) := by
  by_cases hstore : entry.kind.isStore = true
  · have hown : ∀ id ∈ (if entry.payload.providerIdentityState = some .CONFIRMED then
        orNull entry.payload.providerAccountId.join else none), quotedBytes id ≤ 770 := by
      intro id hid
      have hprovider := nullableString_orNull (optionalString_join h.providerAccountId)
      split at hid
      · rw [Option.mem_def] at hid
        rw [hid] at hprovider
        exact quotedBytes_bounded hprovider
      · cases hid
    have hdesired : ExplicitSized (storeStateFromEntry entry) := by
      have hsized := fun identity => @explicitSized_store entry h (hnames hstore) identity _ hown
      exact hsized (storeStateFromEntry entry).providerIdentityState
    cases current with
    | none =>
      rw [statedBy_store_none hstore]
      exact hdesired
    | some state =>
      rw [statedBy_store hstore]
      split
      · exact explicitSized_store h (hnames hstore) fun id hid =>
          (hcurrent state rfl).providerAccountId id (mem_orNull hid)
      · exact hdesired
  · rw [Bool.not_eq_true] at hstore
    have hstated : statedBy entry current = sanitizeExplicit entry := by
      unfold statedBy
      cases hk : entry.kind <;> simp_all [SyncKind.isStore]
    rw [hstated]
    exact explicitSized_sanitizeExplicit h hstore

/-! What the kernel makes of sized states. -/

theorem orderProvenance_le (provenance : OrderProvenance) : provenance.bytes ≤ 25 := by
  cases provenance <;> decide

theorem orNull_le (h : optionalString max s = true) (hmax : 1 ≤ max) :
    orNullBytes quotedBytes (orNull s.join) ≤ 6 * max + 2 :=
  nullableString_le (nullableString_orNull (optionalString_join h)) hmax

theorem deliveryOrder_valid (h : EntrySized entry) :
    (entry.payload.deliveryOrder.getD {}).valid = true := by
  cases horder : entry.payload.deliveryOrder with
  | none => decide
  | some order =>
    have hall := h.deliveryOrder
    rw [horder] at hall
    exact hall

theorem markerSized_markerFrom {principal : Principal} (h : EntrySized entry)
    (hkind : entry.kind = .DELIVERY_MARKER) (hdevice : quotedBytes principal.deviceId ≤ 38)
    (htime : safeInt receiveAtMs = true) :
    MarkerSized (markerFrom entry principal receiveAtMs) := by
  have horder := deliveryOrder_valid h
  simp only [DeliveryOrder.valid, Bool.and_eq_true] at horder
  obtain ⟨⟨⟨hai, hdelivered⟩, hsequence⟩, -⟩ := horder
  have hmarkerId : quotedBytes (markerFrom entry principal receiveAtMs).deliveryMarkerId ≤ 770 := by
    obtain ⟨id, hid⟩ := Option.isSome_iff_exists.mp (h.marker hkind)
    have hbounded := optionalString_join h.deliveryMarkerId
    rw [hid] at hbounded
    have htruthy : truthy (some id) = true := by
      cases id with
      | nil => exact absurd hbounded (by decide)
      | cons u rest => rfl
    simp only [markerFrom, hid, orElse, htruthy, if_true, Option.getD_some]
    exact quotedBytes_bounded hbounded
  have hdeliveredAt : orNullBytes intBytes
      (entry.payload.deliveryOrder.getD {}).clientDeliveredAtMs.join ≤ 17 := by
    refine orNullBytes_le (fun time ht => intBytes_safe ?_) (by decide)
    rw [Option.mem_def, Option.join_eq_some_iff] at ht
    rw [ht] at hdelivered
    exact hdelivered
  have hsequenceOf : orNullBytes decimalBytes
      (entry.payload.deliveryOrder.getD {}).clientSequence.join ≤ 16 := by
    refine orNullBytes_le (fun n hn => decimalBytes_safe ?_) (by decide)
    rw [Option.mem_def, Option.join_eq_some_iff] at hn
    rw [hn] at hsequence
    exact hsequence
  have hwork : orNullBytes quotedBytes (orNull (markerFrom entry principal receiveAtMs).workGeneration.join)
      ≤ 962 := by
    simp only [markerFrom, orNull_join]
    exact orNull_le h.workGeneration (by decide)
  refine ⟨hdevice, ?_⟩
  unfold Marker.bytes Marker.fields markerLimits
  exact objectBytes_le
    (.cons (fieldLe_some hdevice) (.cons fieldLe_none (.cons fieldLe_none
    (.cons (fieldLe_some hmarkerId) (.cons fieldLe_none
    (.cons (fieldLe_some (nullableString_le h.bindingId (by decide)))
    (.cons (fieldLe_some (decimalBytes_safe h.bindingRevision))
    (.cons (fieldLe_some (nullableString_le h.storeId (by decide)))
    (.cons (fieldLe_some (marketplace_le _)) (.cons (fieldLe_some hwork)
    (.cons (fieldLe_some (orNull_le hai (by decide))) (.cons (fieldLe_some hdeliveredAt)
    (.cons (fieldLe_some hsequenceOf) (.cons (fieldLe_some (orderProvenance_le _))
    (.cons (fieldLe_some (intBytes_safe htime)) (.cons fieldLe_none .nil))))))))))))))))

theorem preferredSized_reason {preferredState : PreferredState} {id : Option JsString}
    {reason : String} (hid : ∀ s ∈ id, quotedBytes s ≤ 38) (hreason : nameBytes reason ≤ 34) :
    PreferredSized ⟨preferredState, id, some (some (units reason))⟩ := by
  refine ⟨hid, fun s hs => ?_⟩
  obtain rfl : some (units reason) = s := Option.some.inj hs
  exact hreason

theorem Sized.preferredOf (h : Sized state) : PreferredSized (preferredOf state) := by
  unfold Sync.preferredOf
  cases hr : state.reconciliation with
  | none => exact ⟨by simp, by simp⟩
  | some reconciliation => exact (h.reconciliation reconciliation hr).preferred

theorem Sized.markersOf (h : Sized state) : ∀ marker ∈ markersOf state, MarkerSized marker := by
  unfold Sync.markersOf
  cases hr : state.reconciliation with
  | none => simp
  | some reconciliation => exact (h.reconciliation reconciliation hr).markers

theorem preferredSized_decision {candidates : List Marker} {acting : JsString}
    {revoked : List JsString} (h : Sized state)
    (hcandidates : ∀ marker ∈ candidates, MarkerSized marker) (hacting : quotedBytes acting ≤ 38) :
    PreferredSized (preferredDecision localeCompare state candidates acting revoked) := by
  have hprior := h.preferredOf.installationId
  unfold preferredDecision
  simp only []
  split
  · exact preferredSized_reason hprior (by decide)
  split
  · next selected hselected =>
    have hmem := List.mem_of_getLast? hselected
    rw [List.mem_insertionSort, List.mem_filter] at hmem
    apply preferredSized_reason
    · intro id hid
      obtain rfl : selected.installationId = id := Option.some.inj hid
      exact (hcandidates selected hmem.1).installationId
    · split <;> decide
  · apply preferredSized_reason
    · intro id hid
      rcases mem_orElse (mem_orNull hid) with hown | hold
      · obtain rfl : acting = id := Option.some.inj hown
        exact hacting
      · exact hprior id hold
    · split <;> decide

theorem not_isExplicit_of_store (h : state.kind.isStore = true) : isExplicit state = false := by
  unfold isExplicit
  cases hkind : state.kind <;> simp_all [SyncKind.isStore]

theorem isExplicit_of_eligible {marker : Marker} {accountId entityId : JsString}
    (h : markerEligible marker state accountId entityId = true) : isExplicit state = true := by
  by_contra hnot
  simp [markerEligible, hnot] at h

theorem sized_reconciled {classification : ReconciliationClass} {markers : List Marker}
    {acting : JsString} {preferred : Preferred} (hexplicit : ExplicitSized state)
    (hprior : ∀ reconciliation ∈ state.reconciliation, ReconciliationSized reconciliation)
    (hmarkers : ∀ marker ∈ markers, MarkerSized marker)
    (hunmarked : state.kind.isStore = true → markers = []) (hacting : quotedBytes acting ≤ 38)
    (htime : safeInt receiveAtMs = true) (hpreferred : PreferredSized preferred) :
    Sized (reconciled state classification markers acting receiveAtMs preferred) := by
  refine ⟨⟨hexplicit.bytes, hexplicit.store, hexplicit.providerAccountId⟩, ?_, fun hstore => ?_⟩
  rotate_left
  · rw [markersOf, reconciled, hunmarked hstore]
    rfl
  intro reconciliation hr
  simp only [reconciled, Option.mem_def, Option.some.injEq] at hr
  subst hr
  refine ⟨?_, ?_, ?_, ?_, ?_, hpreferred, ?_⟩
  · intro marker hmarker
    obtain ⟨original, horiginal, rfl⟩ := List.mem_map.mp hmarker
    have hsized := hmarkers original ((takeLast_sublist 4 markers).mem horiginal)
    refine ⟨hsized.installationId, ?_⟩
    rw [projected_projected]
    exact hsized.bytes
  · intro marker hmarker
    obtain ⟨original, -, rfl⟩ := List.mem_map.mp hmarker
    exact projected_projected original
  · rw [List.length_map]
    exact length_takeLast_le 4 markers
  · intro id hid
    have hmem := (takeLast_sublist 16 _).mem hid
    rw [List.mem_insertionSort, List.mem_eraseDups, List.mem_filter, List.mem_append,
      List.mem_singleton] at hmem
    rcases hmem.1 with hold | rfl
    · cases hr : state.reconciliation with
      | none => simp [hr] at hold
      | some prior =>
        rw [hr] at hold
        exact (hprior prior hr).observed id hold
    · exact hacting
  · exact length_takeLast_le 16 _
  · intro time ht
    obtain rfl : some receiveAtMs = time := Option.some.inj ht
    exact intBytes_safe htime

theorem applyStoreMetadataEntry_serverState (current : Option SyncPayload) (serverRevision : Nat)
    (hkind : entry.kind.isStore = true) :
    (applyStoreMetadataEntry current serverRevision entry).serverState = current ∨
      (NamesStore entry ∧ (applyStoreMetadataEntry current serverRevision entry).serverState =
        some (statedBy entry current)) := by
  unfold applyStoreMetadataEntry
  simp only []
  split
  · exact .inl rfl
  next hvalid =>
  have hnames : NamesStore entry := namesStore_iff.mpr hvalid
  cases current with
  | none => exact .inr ⟨hnames, by rw [statedBy_store_none hkind]⟩
  | some state =>
    rw [statedBy_store hkind]
    simp only []
    split_ifs <;> first
      | exact .inl rfl
      | exact .inr ⟨hnames, rfl⟩

/-- Every answer of the kernel to an accepted entry is sized, if the current state is. -/
theorem sized_answer {serverRevision : Nat} {principal : Principal} {revoked : List JsString}
    (hentry : EntrySized entry) (hdevice : quotedBytes principal.deviceId ≤ 38)
    (htime : safeInt receiveAtMs = true) (hcurrent : ∀ state ∈ current, Sized state) :
    ∀ state ∈ (applyReconciliationEntry localeCompare current serverRevision entry principal
      receiveAtMs revoked).serverState, Sized state := by
  have hkept : ∀ state ∈ current, ∀ classification preferred, PreferredSized preferred →
      Sized (reconciled state classification (markersOf state) principal.deviceId receiveAtMs
        preferred) :=
    fun state hstate classification preferred hpreferred =>
      sized_reconciled (hcurrent state hstate).explicit (hcurrent state hstate).reconciliation
        (hcurrent state hstate).markersOf (hcurrent state hstate).unmarked hdevice htime hpreferred
  have hstated : (entry.kind.isStore = true → NamesStore entry) →
      Sized (statedBy entry current) := by
    intro hnames
    have hnone := statedBy_reconciliation entry current
    refine ⟨explicitSized_statedBy hentry (fun state hstate => (hcurrent state hstate).explicit)
      hnames, fun r hr => ?_, fun _ => ?_⟩
    · rw [hnone] at hr
      cases hr
    · rw [markersOf, hnone]
      rfl
  have hstore : entry.kind.isStore = true → ∀ state ∈
      (applyStoreMetadataEntry current serverRevision entry).serverState, Sized state := by
    intro hkind state hstate
    rw [Option.mem_def] at hstate
    rcases applyStoreMetadataEntry_serverState current serverRevision hkind with hsame | ⟨hnames, hnew⟩
    · exact hcurrent state (hsame.symm.trans hstate)
    · obtain rfl : statedBy entry current = state := Option.some.inj (hnew.symm.trans hstate)
      exact hstated fun _ => hnames
  have hexplicit : entry.kind = .BINDING_UPSERT ∨ entry.kind = .FINISH → ∀ state ∈
      (applyExplicitEntry current serverRevision entry principal receiveAtMs).serverState,
        Sized state := by
    intro hkind
    have hnotStore : entry.kind.isStore = false := by
      rcases hkind with h | h <;> rw [h] <;> rfl
    have haccepted : Sized (reconciled (sanitizeExplicit entry) .IN_SYNC [] principal.deviceId
        receiveAtMs ⟨.VALID_CURRENT, some principal.deviceId,
          some (some (units "EXPLICIT_ACCEPTED_BINDING_ACTION"))⟩) := by
      refine sized_reconciled (explicitSized_sanitizeExplicit hentry hnotStore) (by
        simp [sanitizeExplicit]) (by simp) (fun _ => rfl) hdevice htime (preferredSized_reason ?_ (by decide))
      intro id hid
      obtain rfl : principal.deviceId = id := Option.some.inj hid
      exact hdevice
    unfold applyExplicitEntry
    cases current with
    | none =>
      intro state hstate
      obtain rfl := Option.some.inj hstate
      exact haccepted
    | some old =>
      have hold := fun classification =>
        hkept old rfl classification (preferredOf old) (hcurrent old rfl).preferredOf
      simp only []
      intro state hstate
      split_ifs at hstate
      all_goals
        obtain rfl := Option.some.inj hstate
        first
          | exact haccepted
          | exact hold _
  unfold applyReconciliationEntry
  cases hkind : entry.kind with
  | STORE_UPSERT | STORE_TOMBSTONE => exact hstore (by rw [hkind]; rfl)
  | BINDING_UPSERT => exact hexplicit (.inl hkind)
  | FINISH => exact hexplicit (.inr hkind)
  | DELIVERY_MARKER =>
    cases current with
    | none => simp
    | some old =>
      have hold := hcurrent old rfl
      have hmarker := markerSized_markerFrom hentry hkind hdevice htime
      have hmarkers : ∀ marker ∈ keepGreatest (MarkerLe localeCompare) Marker.installationId 4
          (markersOf old) (markerFrom entry principal receiveAtMs), MarkerSized marker := by
        intro marker hmem
        rcases mem_keepGreatest hmem with ⟨hstored, -⟩ | rfl
        · exact hold.markersOf marker hstored
        · exact hmarker
      unfold applyDeliveryMarker
      simp only []
      intro state hstate
      split_ifs at hstate with heligible
      all_goals obtain rfl := Option.some.inj hstate
      · exact hkept old rfl _ _ hold.preferredOf
      · exact hkept old rfl _ _ hold.preferredOf
      · have hexplicit := isExplicit_of_eligible (by simpa using heligible)
        refine sized_reconciled hold.explicit hold.reconciliation hmarkers (fun hstore => ?_) hdevice
          htime (preferredSized_decision hold hmarkers hdevice)
        rw [not_isExplicit_of_store hstore] at hexplicit
        cases hexplicit

/-- The states that the kernel makes from the empty one, with entries of the schema. -/
inductive Reachable (localeCompare : JsString → JsString → Ordering) : Option SyncPayload → Prop where
  | empty : Reachable localeCompare none
  | answer {current : Option SyncPayload} (h : Reachable localeCompare current)
      (serverRevision : Nat) (entry : SyncEntry) (principal : Principal) (receiveAtMs : Int)
      (revokedInstallationIds : List JsString) (hentry : entry.valid = true)
      (hdevice : isUuid principal.deviceId = true) (htime : safeInt receiveAtMs = true) :
      Reachable localeCompare (applyReconciliationEntry localeCompare current serverRevision entry
        principal receiveAtMs revokedInstallationIds).serverState

theorem Reachable.sized (h : Reachable localeCompare current) :
    ∀ state ∈ current, Sized state := by
  induction h with
  | empty => simp
  | answer _ _ _ _ _ _ hentry hdevice htime ih =>
    exact sized_answer (.of_valid hentry) (quotedBytes_uuid hdevice) htime ih

/-- The platform with `sync_entities_state_bounded` and `sync_request_receipts_state_bounded`. -/
def Platform.bounded (platform : Platform) : Platform :=
  { platform with accepts := fun state => platform.accepts state && state.jsonBytes 1 ≤ 4096 }

theorem jsonBytes_of_accepts (h : platform.bounded.accepts state = true) :
    state.jsonBytes 0 ≤ 4096 := by
  simp only [Platform.bounded, Bool.and_eq_true, decide_eq_true_eq] at h
  exact (jsonBytes_gap state).trans h.2

/-- Everything that a store holds passed the checks. -/
structure BoundedStore (store : SyncStore) : Prop where
  entities : ∀ row ∈ store.entities, row.state.jsonBytes 0 ≤ 4096
  receipts : ∀ receipt ∈ store.receipts, ∀ state ∈ receipt.result.serverState,
    state.jsonBytes 0 ≤ 4096

theorem Applied.boundedStore {store store' : SyncStore} {request : Request} {result : SyncResult}
    (h : Applied platform.bounded store request result store') (hb : BoundedStore store) :
    BoundedStore store' := by
  have hresult : ∀ state ∈ result.serverState, state.jsonBytes 0 ≤ 4096 := fun state hstate =>
    jsonBytes_of_accepts (h.accepted state hstate)
  refine ⟨fun row hrow => ?_, fun receipt hreceipt => ?_⟩
  · rw [h.entities_eq] at hrow
    rcases mem_answeredEntities hrow with hold | ⟨state, hwrite, rfl⟩
    · exact hb.entities row hold
    · apply hresult state
      unfold stateToWrite at hwrite
      split at hwrite
      · exact hwrite
      · cases hwrite
  · rw [h.receipts_eq, List.mem_append, List.mem_singleton] at hreceipt
    rcases hreceipt with hold | rfl
    · exact hb.receipts receipt hold
    · exact hresult

theorem BoundedStore.next {store : SyncStore} (hb : BoundedStore store) (step : SyncStep) :
    BoundedStore (step.next platform.bounded store) := by
  rcases step.next_cases platform.bounded store with hsame | ⟨tables, rfl, hnext⟩ |
    ⟨_, _, rfl, happlied⟩
  · rwa [hsame]
  · exact ⟨hb.entities, hb.receipts⟩
  · exact happlied.boundedStore hb

/-- A state of the kernel is within 25532 bytes, and a store's within 4096. What the repository
stores and answers is within 4096 bytes: the transaction of an entry whose state is longer changes
nothing. -/
theorem state_bounded (localeCompare : JsString → JsString → Ordering) :
    (∀ state, Reachable localeCompare (some state) → state.jsonBytes 0 ≤ 25532 ∧
      (state.kind.isStore = true → state.jsonBytes 0 ≤ 4096)) ∧
    ∀ (platform : Platform) (steps : List SyncStep),
      BoundedStore (run platform.bounded {} steps) ∧
      ∀ request, (SyncStep.apply request).next platform.bounded (run platform.bounded {} steps) =
          run platform.bounded {} steps ∨
        ∀ state ∈ (reconcile platform.bounded (run platform.bounded {} steps) request).serverState,
          state.jsonBytes 0 ≤ 4096 := by
  refine ⟨fun state hstate => ?_, fun platform steps => ⟨?_, fun request => ?_⟩⟩
  · have hsized := hstate.sized state rfl
    rw [← maxStateBytes_eq]
    exact ⟨hsized.jsonBytes_le, hsized.store_le⟩
  · exact run_induct steps ⟨by simp, by simp⟩ fun _ step hb => hb.next step
  · rcases (SyncStep.apply request).next_cases platform.bounded (run platform.bounded {} steps) with
      hsame | ⟨_, hstep, -⟩ | ⟨_, result, hstep, happlied⟩
    · exact .inl hsame
    · cases hstep
    · cases hstep
      rw [← happlied.result_eq]
      exact .inr fun state hstate => jsonBytes_of_accepts (happlied.accepted state hstate)

/-! A conversation whose texts are as long as the schema lets them be. -/

def longBinding : SyncPayload :=
  { sampleBinding with
    bindingId := some (List.replicate 128 97)
    storeId := some (List.replicate 128 97)
    credentialRevision := some (List.replicate 128 97)
    workGeneration := some (some (List.replicate 160 97)) }

def longBind : SyncEntry :=
  { sampleDelivery "message" with kind := .BINDING_UPSERT, payload := longBinding }

def longDelivery : SyncEntry :=
  { sampleDelivery "message" with
    payload :=
      { longBinding with
        kind := .DELIVERY_MARKER
        deliveryMarkerId := some (some (List.replicate 128 97))
        deliveryOrder := some { aiOrderId := some (some (List.replicate 240 97)) } } }

/-- The installation of one hexadecimal digit. -/
def longPrincipal (digit : String) : Principal :=
  samplePrincipal ("00000000-0000-4000-8000-00000000000" ++ digit)

theorem longBind_reachable : Reachable compare
    (applyReconciliationEntry compare none 0 longBind (longPrincipal "1") 1 []).serverState :=
  .answer .empty 0 longBind (longPrincipal "1") 1 [] (by decide +kernel) (by decide +kernel)
    (by decide)

theorem state_bounded_sample :
    ((applyReconciliationEntry compare none 0 longBind (longPrincipal "1") 1 []).serverState.all
      fun state => state.jsonBytes 0 ≤ 25532) = true := by
  have hreachable := longBind_reachable
  revert hreachable
  cases (applyReconciliationEntry compare none 0 longBind (longPrincipal "1") 1 []).serverState with
  | none => exact fun _ => rfl
  | some state =>
    intro hreachable
    simpa using (((state_bounded compare).1 state hreachable).1)

/-- Four accepted deliveries, all of ASCII texts, make a state that the storage refuses. -/
theorem four_long_deliveries_exceed :
    longBind.valid = true ∧ longDelivery.valid = true ∧
    (["1", "2", "3", "4"].all fun digit => isUuid (longPrincipal digit).deviceId) = true ∧
    ((["1", "2", "3", "4"].foldl (fun current digit =>
        (applyReconciliationEntry compare current 1 longDelivery (longPrincipal digit) 1
          []).serverState)
      (applyReconciliationEntry compare none 0 longBind (longPrincipal "1") 1 []).serverState).any
        fun state => 4096 < state.jsonBytes 0) = true := by
  refine ⟨by decide +kernel, by decide +kernel, by decide +kernel, by decide +kernel⟩

end SellerAgents.Sync
