import SellerAgents.Sync.StateSize

open SellerAgents.Js Ranking

namespace SellerAgents.Sync

theorem isPlain_of_between {u lo hi : UInt16} (h : (lo ≤ u && u ≤ hi) = true)
    (hlo : 35 ≤ lo.toNat) (hhi : hi.toNat < 92) : isPlain u = true := by
  simp only [isPlain, Bool.and_eq_true, decide_eq_true_eq, UInt16.le_iff_toNat_le] at h ⊢
  omega

variable {s : JsString} {limit : Nat} {key : String} {state : SyncPayload} {α : Type}

/-- A UUID text takes 38 bytes with its quotes. -/
theorem quotedBytes_uuid (h : isUuid s = true) : quotedBytes s ≤ 38 := by
  simp only [isUuid, Bool.or_eq_true, decide_eq_true_eq] at h
  rcases h with (hshape | rfl) | rfl
  · simp only [isUuidShape, Bool.and_eq_true, decide_eq_true_eq] at hshape
    obtain ⟨hlength, hall⟩ := hshape
    have hplain : s.all isPlain = true := by
      rw [List.all_eq_true] at hall ⊢
      intro u hu
      obtain ⟨i, hi, hget⟩ := List.mem_iff_getElem.mp hu
      have hunit := hall (u, i) (List.mem_zipIdx_iff_getElem?.mpr (by simp [hget.symm, hi]))
      simp only [] at hunit
      split at hunit
      · rw [decide_eq_true_eq] at hunit
        subst hunit
        decide
      · split at hunit
        · exact isPlain_of_between hunit (by decide) (by decide)
        · split at hunit
          · simp only [Bool.or_eq_true, decide_eq_true_eq] at hunit
            rcases hunit with ((((rfl | rfl) | rfl) | rfl) | rfl) | rfl <;> decide
          · exact isPlain_of_hex hunit
    rw [quotedBytes_plain hplain, hlength]
  · decide
  · decide

theorem quotedBytes_digest (h : isSyncDigest s = true) : quotedBytes s = 66 := by
  simp only [isSyncDigest, Bool.and_eq_true, decide_eq_true_eq] at h
  obtain ⟨hlength, hall⟩ := h
  have hplain : s.all isPlain = true := by
    rw [List.all_eq_true] at hall ⊢
    intro u hu
    apply isPlain_of_hex
    have hunit := hall u hu
    simp only [isHexDigit, Bool.or_eq_true] at hunit ⊢
    exact .inl hunit
  rw [quotedBytes_plain hplain, hlength]

theorem quotedBytes_bounded {max : Nat} (h : bounded max s = true) :
    quotedBytes s ≤ 6 * max + 2 := by
  simp only [bounded, Bool.and_eq_true, decide_eq_true_eq] at h
  have hquoted := quotedBytes_le s
  omega

theorem decimalBytes_safe {n : Nat} (h : safeNat n = true) : decimalBytes n ≤ 16 := by
  simp only [safeNat, decide_eq_true_eq] at h
  have hlog := Nat.log_mono_right (b := 10) h
  have hmax : Nat.log 10 9007199254740991 = 15 := by decide +kernel
  unfold decimalBytes
  omega

theorem intBytes_safe {n : Int} (h : safeInt n = true) : intBytes n ≤ 17 := by
  simp only [safeInt, Bool.and_eq_true, decide_eq_true_eq] at h
  have hdecimal : decimalBytes n.natAbs ≤ 16 := decimalBytes_safe (by
    simp only [safeNat, decide_eq_true_eq]
    omega)
  unfold intBytes
  split <;> omega

variable {value : Option α} {bytes : α → Nat}

theorem orNullBytes_le (h : ∀ a ∈ value, bytes a ≤ limit) (hlimit : 4 ≤ limit) :
    orNullBytes bytes value ≤ limit := by
  cases value with
  | none => exact hlimit
  | some a => exact h a rfl

theorem nullableString_le {max : Nat} {s : Option JsString} (h : nullableString max s = true)
    (hmax : 1 ≤ max) : orNullBytes quotedBytes s ≤ 6 * max + 2 := by
  refine orNullBytes_le (fun t ht => ?_) (by omega)
  rw [Option.mem_def] at ht
  subst ht
  exact quotedBytes_bounded h

theorem marketplace_le (marketplace : Option Marketplace) :
    orNullBytes Marketplace.bytes marketplace ≤ 13 := by
  rcases marketplace with _ | _ | _ <;> decide

/-! Objects whose fields are within the fields of another one. -/

/-- The field is absent or within the limit of the same name. -/
def FieldLe (field limit : String × Option Nat) : Prop :=
  field.1 = limit.1 ∧ ∀ bytes ∈ field.2, ∃ most ∈ limit.2, bytes ≤ most

theorem fieldLe_some {bytes : Nat} (h : bytes ≤ limit) :
    FieldLe (key, some bytes) (key, some limit) := by
  refine ⟨rfl, fun b hb => ⟨limit, rfl, ?_⟩⟩
  obtain rfl : bytes = b := Option.some.inj hb
  exact h

theorem fieldLe_none {limit : Option Nat} : FieldLe (key, none) (key, limit) := by
  refine ⟨rfl, fun b hb => ?_⟩
  cases hb

theorem fieldLe_map (h : ∀ a ∈ value, bytes a ≤ limit) :
    FieldLe (key, value.map bytes) (key, some limit) := by
  cases value with
  | none => exact fieldLe_none
  | some a => exact fieldLe_some (h a rfl)

theorem FieldLe.bytes_le {field limit : String × Option Nat} (h : FieldLe field limit) :
    fieldBytes 0 field ≤ fieldBytes 0 limit := by
  obtain ⟨hkey, hvalue⟩ := h
  unfold fieldBytes
  cases hf : field.2 with
  | none => exact Nat.zero_le _
  | some bytes =>
    obtain ⟨most, hmost, hle⟩ := hvalue bytes hf
    rw [Option.mem_def] at hmost
    rw [hmost, hkey]
    simp only []
    omega

theorem objectBytes_le {fields limits : List (String × Option Nat)}
    (h : List.Forall₂ FieldLe fields limits) : objectBytes 0 fields ≤ objectBytes 0 limits := by
  have hsum : (fields.map (fieldBytes 0)).sum ≤ (limits.map (fieldBytes 0)).sum := by
    induction h with
    | nil => exact Nat.le_refl _
    | cons hfield _ ih =>
      rw [List.map_cons, List.map_cons, List.sum_cons, List.sum_cons]
      exact Nat.add_le_add hfield.bytes_le ih
  unfold objectBytes
  omega

theorem fieldLe_refl (field : String × Option Nat) : FieldLe field field :=
  ⟨rfl, fun bytes hbytes => ⟨bytes, hbytes, Nat.le_refl bytes⟩⟩

theorem fieldLe_map_map {bytes' : α → Nat} (h : ∀ a, bytes a ≤ bytes' a) :
    FieldLe (key, value.map bytes) (key, value.map bytes') := by
  cases value with
  | none => exact fieldLe_none
  | some a => exact fieldLe_some (h a)

theorem FieldLe.bytes_gap {field field' : String × Option Nat} (h : FieldLe field field') :
    fieldBytes 0 field + (if field.2.isSome then 1 else 0) ≤ fieldBytes 1 field' := by
  obtain ⟨hkey, hvalue⟩ := h
  unfold fieldBytes
  cases hf : field.2 with
  | none => simp
  | some bytes =>
    obtain ⟨most, hmost, hle⟩ := hvalue bytes hf
    rw [Option.mem_def] at hmost
    rw [hmost, hkey]
    simp only [Option.isSome_some, if_true]
    omega

/-- The spaces after colons and commas only make an object longer. -/
theorem objectBytes_gap {fields fields' : List (String × Option Nat)}
    (h : List.Forall₂ FieldLe fields fields') (hsome : fields.any (·.2.isSome) = true) :
    objectBytes 0 fields ≤ objectBytes 1 fields' := by
  have hsum : (fields.map (fieldBytes 0)).sum + (if fields.any (·.2.isSome) then 1 else 0) ≤
      (fields'.map (fieldBytes 1)).sum := by
    clear hsome
    induction h with
    | nil => simp
    | @cons field field' rest rest' hfield _ ih =>
      have hbytes := hfield.bytes_gap
      simp only [List.map_cons, List.sum_cons, List.any_cons, Bool.or_eq_true] at ih ⊢
      split_ifs at hbytes ih ⊢ <;> first
        | omega
        | simp_all
  rw [if_pos hsome] at hsum
  unfold objectBytes
  omega

theorem arrayBytes_gap {bytes' : α → Nat} (h : ∀ a, bytes a ≤ bytes' a) (items : List α) :
    arrayBytes 0 (items.map bytes) ≤ arrayBytes 1 (items.map bytes') := by
  have hsum : ∀ items : List α, ((items.map bytes).map (1 + 0 + ·)).sum ≤
      ((items.map bytes').map (1 + 1 + ·)).sum := by
    intro items
    induction items with
    | nil => exact Nat.le_refl _
    | cons first rest ih =>
      have hfirst := h first
      simp only [List.map_cons, List.sum_cons] at ih ⊢
      omega
  cases items with
  | nil => exact Nat.le_refl _
  | cons first rest =>
    have hfirst := h first
    have hrest := hsum rest
    simp only [List.map_cons, arrayBytes]
    omega

theorem objectBytes_append (fields more : List (String × Option Nat)) :
    objectBytes 0 (fields ++ more) = objectBytes 0 fields + (more.map (fieldBytes 0)).sum := by
  unfold objectBytes
  rw [List.map_append, List.sum_append]
  omega

theorem arrayBytes_le {items : List Nat} {count : Nat} (hitems : ∀ item ∈ items, item ≤ limit)
    (hcount : items.length ≤ count) (hpos : 1 ≤ count) :
    arrayBytes 0 items ≤ 1 + count * (limit + 1) := by
  have hsum : ∀ items : List Nat, (∀ item ∈ items, item ≤ limit) →
      (items.map (1 + 0 + ·)).sum ≤ items.length * (limit + 1) := by
    intro items hitems
    induction items with
    | nil => simp
    | cons first rest ih =>
      rw [List.forall_mem_cons] at hitems
      have hrest := ih hitems.2
      rw [List.map_cons, List.sum_cons, List.length_cons, Nat.add_mul]
      omega
  cases items with
  | nil =>
    have hmul := Nat.mul_le_mul hpos (Nat.le_add_left 1 limit)
    simp only [arrayBytes]
    omega
  | cons first rest =>
    rw [List.forall_mem_cons] at hitems
    have hrest := hsum rest hitems.2
    have hmul := Nat.mul_le_mul_right (limit + 1) hcount
    rw [List.length_cons, Nat.add_mul] at hmul
    simp only [arrayBytes]
    omega

theorem forall₂_fieldLe_refl (fields : List (String × Option Nat)) :
    List.Forall₂ FieldLe fields fields :=
  List.forall₂_same.mpr fun field _ => fieldLe_refl field

theorem marker_bytes_gap (marker : Marker) : marker.bytes 0 ≤ marker.bytes 1 :=
  objectBytes_gap (forall₂_fieldLe_refl _) rfl

theorem deliveryOrder_bytes_gap (order : DeliveryOrder) : order.bytes 0 ≤ order.bytes 1 := by
  unfold DeliveryOrder.bytes
  simp only []
  split
  · exact Nat.le_refl _
  · next hsome =>
    apply objectBytes_gap (forall₂_fieldLe_refl _)
    rw [Bool.not_eq_true, List.all_eq_false] at hsome
    obtain ⟨field, hmem, hfield⟩ := hsome
    rw [List.any_eq_true]
    exact ⟨field, hmem, by simpa [Option.isSome_iff_ne_none] using hfield⟩

theorem reconciliation_bytes_gap (reconciliation : Reconciliation) :
    reconciliation.bytes 0 ≤ reconciliation.bytes 1 := by
  have hpreferred : reconciliation.preferred.bytes 0 ≤ reconciliation.preferred.bytes 1 :=
    objectBytes_gap (forall₂_fieldLe_refl _) rfl
  exact objectBytes_gap (.cons (fieldLe_refl _) (.cons (fieldLe_some hpreferred)
    (.cons (fieldLe_some (arrayBytes_gap marker_bytes_gap _))
      (.cons (fieldLe_some (arrayBytes_gap (fun _ => Nat.le_refl _) _))
        (.cons (fieldLe_refl _) .nil))))) rfl

/-- The text of `JSON.stringify` is not longer than the one of a `jsonb` value. -/
theorem jsonBytes_gap (state : SyncPayload) : state.jsonBytes 0 ≤ state.jsonBytes 1 := by
  apply objectBytes_gap ?_ rfl
  apply List.rel_append
  · repeat' first
      | exact List.Forall₂.nil
      | apply List.Forall₂.cons
      | exact fieldLe_refl _
      | exact fieldLe_map_map deliveryOrder_bytes_gap
  · exact .cons (fieldLe_map_map reconciliation_bytes_gap) .nil

/-! The limits of the schema, field by field. -/

/-- The most bytes that each field of a binding's state takes. -/
def bindingLimits : List (String × Option Nat) :=
  [("kind", some 17), ("conversationKeyDigest", some 66), ("bindingId", some 770),
    ("bindingRevision", some 16), ("storeId", some 770), ("marketplace", some 13),
    ("credentialRevision", some 770), ("deliveryMarkerId", none), ("bindingState", some 10),
    ("workGeneration", some 962), ("deliveryOrder", none), ("name", none),
    ("providerAccountId", some 770), ("providerIdentityState", none), ("metadataRevision", none),
    ("lifecycleState", none)]

/-- A store's id leaves room for its prefix in the entity id. -/
def storeLimits : List (String × Option Nat) :=
  [("kind", some 17), ("conversationKeyDigest", some 66), ("bindingId", some 4),
    ("bindingRevision", some 1), ("storeId", some 734), ("marketplace", some 13),
    ("credentialRevision", some 770), ("deliveryMarkerId", none), ("bindingState", none),
    ("workGeneration", none), ("deliveryOrder", none), ("name", some 482),
    ("providerAccountId", some 770), ("providerIdentityState", some 13),
    ("metadataRevision", some 16), ("lifecycleState", some 12)]

/-- The most bytes that each field of a marker takes. -/
def markerLimits : List (String × Option Nat) :=
  [("installationId", some 38), ("entityId", none), ("accountId", none),
    ("deliveryMarkerId", some 770), ("conversationKeyDigest", none), ("bindingId", some 770),
    ("bindingRevision", some 16), ("storeId", some 770), ("marketplace", some 13),
    ("workGeneration", some 962), ("aiOrderId", some 1442), ("clientDeliveredAtMs", some 17),
    ("clientSequence", some 16), ("orderProvenance", some 25), ("serverReceiveAtMs", some 17),
    ("revoked", none)]

def preferredLimits : List (String × Option Nat) :=
  [("state", some 22), ("installationId", some 38), ("reason", some 34)]

/-- Sixteen installations at most, beside an array of markers of some length. -/
def reconciliationLimits (markers : Nat) : List (String × Option Nat) :=
  [("classification", some 51), ("preferred", some (objectBytes 0 preferredLimits)),
    ("markers", some markers),
    ("observedInstallationIds", some (1 + 16 * (38 + 1))), ("serverReceiveAtMs", some 17)]

/-- The length of an array of four markers. -/
def maxMarkersBytes : Nat := 1 + 4 * (objectBytes 0 markerLimits + 1)

/-- The length that no state of the kernel exceeds. -/
def maxStateBytes : Nat :=
  objectBytes 0 (bindingLimits ++
    [("reconciliation", some (objectBytes 0 (reconciliationLimits maxMarkersBytes)))])

theorem maxStateBytes_eq : maxStateBytes = 25532 := by decide

/-- A store's state without markers is within the limit of the storage. -/
theorem storeBytes_le : objectBytes 0 (storeLimits ++
    [("reconciliation", some (objectBytes 0 (reconciliationLimits (arrayBytes 0 []))))]) ≤ 4096 := by
  decide

/-- A marker whose bytes keep the limits. -/
structure MarkerSized (marker : Marker) : Prop where
  installationId : quotedBytes marker.installationId ≤ 38
  bytes : marker.projected.bytes 0 ≤ objectBytes 0 markerLimits

structure PreferredSized (preferred : Preferred) : Prop where
  installationId : ∀ id ∈ preferred.installationId, quotedBytes id ≤ 38
  reason : ∀ reason ∈ preferred.reason, orNullBytes quotedBytes reason ≤ 34

/-- A reconciliation whose markers and preferred installation keep theirs. -/
structure ReconciliationSized (reconciliation : Reconciliation) : Prop where
  markers : ∀ marker ∈ reconciliation.markers, MarkerSized marker
  stored : ∀ marker ∈ reconciliation.markers, marker.projected = marker
  count : reconciliation.markers.length ≤ 4
  observed : ∀ id ∈ reconciliation.observedInstallationIds, quotedBytes id ≤ 38
  observedCount : reconciliation.observedInstallationIds.length ≤ 16
  preferred : PreferredSized reconciliation.preferred
  received : ∀ time ∈ reconciliation.serverReceiveAtMs, orNullBytes intBytes time ≤ 17

/-- The explicit fields of a state are within the limits of its kind. -/
structure ExplicitSized (state : SyncPayload) : Prop where
  bytes : objectBytes 0 (state.explicitFields 0) ≤ objectBytes 0 bindingLimits
  store : state.kind.isStore = true →
    objectBytes 0 (state.explicitFields 0) ≤ objectBytes 0 storeLimits
  providerAccountId : ∀ id ∈ state.providerAccountId.join, quotedBytes id ≤ 770

/-- What the kernel keeps of every state that it makes: the limits of its parts, and that no marker
ever enters a store's state. -/
structure Sized (state : SyncPayload) : Prop where
  explicit : ExplicitSized state
  reconciliation : ∀ reconciliation ∈ state.reconciliation, ReconciliationSized reconciliation
  unmarked : state.kind.isStore = true → markersOf state = []

theorem reconciliationClass_le (classification : ReconciliationClass) : classification.bytes ≤ 51 := by
  cases classification <;> decide

theorem preferredState_le (state : PreferredState) : state.bytes ≤ 22 := by
  cases state <;> decide

theorem PreferredSized.bytes_le {preferred : Preferred} (h : PreferredSized preferred) :
    preferred.bytes 0 ≤ objectBytes 0 preferredLimits :=
  objectBytes_le (.cons (fieldLe_some (preferredState_le _))
    (.cons (fieldLe_some (orNullBytes_le h.installationId (by decide)))
      (.cons (fieldLe_map h.reason) .nil)))

theorem ReconciliationSized.markers_le {reconciliation : Reconciliation}
    (h : ReconciliationSized reconciliation) :
    arrayBytes 0 (reconciliation.markers.map (Marker.bytes 0)) ≤ maxMarkersBytes := by
  refine arrayBytes_le (fun bytes hbytes => ?_) (by rw [List.length_map]; exact h.count) (by decide)
  obtain ⟨marker, hmarker, rfl⟩ := List.mem_map.mp hbytes
  have hsized := (h.markers marker hmarker).bytes
  rwa [h.stored marker hmarker] at hsized

theorem ReconciliationSized.bytes_le {reconciliation : Reconciliation}
    (h : ReconciliationSized reconciliation) {markers : Nat}
    (hmarkers : arrayBytes 0 (reconciliation.markers.map (Marker.bytes 0)) ≤ markers) :
    reconciliation.bytes 0 ≤ objectBytes 0 (reconciliationLimits markers) := by
  have hobserved : ∀ bytes ∈ reconciliation.observedInstallationIds.map quotedBytes, bytes ≤ 38 := by
    intro bytes hbytes
    obtain ⟨id, hid, rfl⟩ := List.mem_map.mp hbytes
    exact h.observed id hid
  exact objectBytes_le (.cons (fieldLe_some (reconciliationClass_le _))
    (.cons (fieldLe_some h.preferred.bytes_le) (.cons (fieldLe_some hmarkers)
      (.cons (fieldLe_some (arrayBytes_le hobserved (by rw [List.length_map]; exact h.observedCount)
        (by decide))) (.cons (fieldLe_map h.received) .nil)))))

/-- A state is as long as its explicit fields and its reconciliation may be. -/
theorem jsonBytes_le {limits : List (String × Option Nat)} {most : Nat}
    (hexplicit : objectBytes 0 (state.explicitFields 0) ≤ objectBytes 0 limits)
    (hreconciliation : ∀ reconciliation ∈ state.reconciliation, reconciliation.bytes 0 ≤ most) :
    state.jsonBytes 0 ≤ objectBytes 0 (limits ++ [("reconciliation", some most)]) := by
  have hfield : FieldLe ("reconciliation", state.reconciliation.map (Reconciliation.bytes 0))
      ("reconciliation", some most) := fieldLe_map hreconciliation
  have hbytes := hfield.bytes_le
  rw [SyncPayload.jsonBytes, objectBytes_append, objectBytes_append]
  simp only [List.map_cons, List.map_nil, List.sum_cons, List.sum_nil]
  omega

theorem Sized.jsonBytes_le (h : Sized state) :
    state.jsonBytes 0 ≤ maxStateBytes :=
  Sync.jsonBytes_le h.explicit.bytes fun reconciliation hr =>
    (h.reconciliation reconciliation hr).bytes_le (h.reconciliation reconciliation hr).markers_le

/-- A store's state is within the limit of the storage. -/
theorem Sized.store_le (h : Sized state) (hstore : state.kind.isStore = true) :
    state.jsonBytes 0 ≤ 4096 := by
  refine (Sync.jsonBytes_le (h.explicit.store hstore) fun reconciliation hr => ?_).trans storeBytes_le
  have hnone : reconciliation.markers = [] := by
    have hunmarked := h.unmarked hstore
    rw [Option.mem_def] at hr
    rwa [markersOf, hr] at hunmarked
  apply (h.reconciliation reconciliation hr).bytes_le
  rw [hnone, List.map_nil]

end SellerAgents.Sync
