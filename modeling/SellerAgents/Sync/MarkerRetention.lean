import SellerAgents.Sync.MarkerOrder

open SellerAgents.Js Ranking Std

namespace SellerAgents.Sync

/-- A delivery entry with what the kernel is called with beside it. -/
structure Arrival where
  entry : SyncEntry
  principal : Principal
  receiveAtMs : Int
  revokedInstallationIds : List JsString

/-- What is stored of the entry's marker. -/
def Arrival.marker (arrival : Arrival) : Marker :=
  (markerFrom arrival.entry arrival.principal arrival.receiveAtMs).projected

/-- The entry is a delivery marker of this binding. -/
def Arrival.Eligible (arrival : Arrival) (current : SyncPayload) : Prop :=
  arrival.entry.kind = .DELIVERY_MARKER ∧
    markerEligible (markerFrom arrival.entry arrival.principal arrival.receiveAtMs) current
      arrival.principal.accountId arrival.entry.entityId = true

instance (arrival : Arrival) (current : SyncPayload) : Decidable (arrival.Eligible current) :=
  inferInstanceAs (Decidable (_ ∧ _))

/-- The retained markers of a state, as they are stored. -/
def retained (state : SyncPayload) : List Marker := (markersOf state).map Marker.projected

/-- A marker without its receive time. -/
def Marker.untimed (marker : Marker) : Marker := { marker with serverReceiveAtMs := 0 }

section Deliver

variable (localeCompare : JsString → JsString → Ordering) (serverRevision : Nat)

/-- The state an arrival leaves. -/
def deliver (current : Option SyncPayload) (arrival : Arrival) : Option SyncPayload :=
  (applyReconciliationEntry localeCompare current serverRevision arrival.entry arrival.principal
    arrival.receiveAtMs arrival.revokedInstallationIds).serverState

/-- The state all arrivals leave, in their order. -/
def deliverAll (current : Option SyncPayload) (arrivals : List Arrival) : Option SyncPayload :=
  arrivals.foldl (deliver localeCompare serverRevision) current

/-- The retained markers are in order, one for each installation and at most four. -/
structure WellKept (state : SyncPayload) : Prop where
  sorted : (retained state).Pairwise (MarkerLe localeCompare)
  distinct : ((retained state).map Marker.installationId).Nodup
  length_le : (retained state).length ≤ 4

instance (state : SyncPayload) : Decidable (WellKept localeCompare state) :=
  decidable_of_iff (_ ∧ _ ∧ _)
    ⟨fun h => ⟨h.1, h.2.1, h.2.2⟩, fun h => ⟨h.sorted, h.distinct, h.length_le⟩⟩

/-- No marker arrives below the retained marker of its installation. -/
def ArriveOnTime : Option SyncPayload → List Arrival → Prop
  | _, [] => True
  | none, arrival :: rest => ArriveOnTime (deliver localeCompare serverRevision none arrival) rest
  | some state, arrival :: rest =>
    OnTime (MarkerLe localeCompare) Marker.installationId (retained state) arrival.marker ∧
      ArriveOnTime (deliver localeCompare serverRevision (some state) arrival) rest

instance : ∀ current arrivals, Decidable (ArriveOnTime localeCompare serverRevision current arrivals)
  | _, [] => isTrue trivial
  | none, arrival :: rest =>
    instDecidableArriveOnTime (deliver localeCompare serverRevision none arrival) rest
  | some state, arrival :: rest =>
    @instDecidableAnd _ _ (inferInstanceAs (Decidable (∀ old ∈ retained state, _)))
      (instDecidableArriveOnTime (deliver localeCompare serverRevision (some state) arrival) rest)

/-- The two markers are the same, or ordered alike with and without their receive times. -/
def OrderedUntimed (left right : Marker) : Prop :=
  left.untimed = right.untimed ∨
    (compareDeliveryMarkers localeCompare left right =
        compareDeliveryMarkers localeCompare left.untimed right.untimed ∧
      compareDeliveryMarkers localeCompare left right ≠ .eq)

instance (left right : Marker) : Decidable (OrderedUntimed localeCompare left right) :=
  inferInstanceAs (Decidable (_ ∨ _))

end Deliver

variable {localeCompare : JsString → JsString → Ordering} {serverRevision : Nat}
  {current state : SyncPayload} {arrivals arrivals' : List Arrival}

theorem retained_reconciled (state : SyncPayload) (classification : ReconciliationClass)
    (markers : List Marker) (actingInstallationId : JsString) (receiveAtMs : Int)
    (preferred : Preferred) :
    retained (reconciled state classification markers actingInstallationId receiveAtMs preferred) =
      (takeLast 4 markers).map Marker.projected := by
  simp [retained, markersOf, reconciled]

theorem eligible_reconciled {arrival : Arrival} {classification : ReconciliationClass}
    {markers : List Marker} {actingInstallationId : JsString} {receiveAtMs : Int}
    {preferred : Preferred} :
    arrival.Eligible (reconciled state classification markers actingInstallationId receiveAtMs
      preferred) ↔ arrival.Eligible state := Iff.rfl

/-- An eligible arrival takes the place of its installation's marker. -/
theorem deliver_eligible {arrival : Arrival} (h : arrival.Eligible current) :
    ∃ next, deliver localeCompare serverRevision (some current) arrival = some next ∧
      retained next = keepGreatest (MarkerLe localeCompare) Marker.installationId 4
        (retained current) arrival.marker ∧
      ∀ other : Arrival, other.Eligible next ↔ other.Eligible current := by
  obtain ⟨hkind, heligible⟩ := h
  have hstate : deliver localeCompare serverRevision (some current) arrival =
      some (reconciled current .IN_SYNC
        (keepGreatest (MarkerLe localeCompare) Marker.installationId 4 (markersOf current)
          (markerFrom arrival.entry arrival.principal arrival.receiveAtMs))
        arrival.principal.deviceId arrival.receiveAtMs
        (preferredDecision localeCompare current
          (keepGreatest (MarkerLe localeCompare) Marker.installationId 4 (markersOf current)
            (markerFrom arrival.entry arrival.principal arrival.receiveAtMs))
          arrival.principal.deviceId arrival.revokedInstallationIds)) := by
    simp [deliver, applyReconciliationEntry, hkind, applyDeliveryMarker, heligible]
  refine ⟨_, hstate, ?_, fun other => eligible_reconciled⟩
  rw [retained_reconciled, takeLast_eq_self length_keepGreatest_le, map_projected_keepGreatest]
  rfl

/-- Eligible arrivals fold over the retained markers. -/
theorem deliverAll_eligible (h : ∀ arrival ∈ arrivals, arrival.Eligible current) :
    ∃ next, deliverAll localeCompare serverRevision (some current) arrivals = some next ∧
      retained next = (arrivals.map Arrival.marker).foldl
        (keepGreatest (MarkerLe localeCompare) Marker.installationId 4) (retained current) := by
  induction arrivals generalizing current with
  | nil => exact ⟨current, rfl, rfl⟩
  | cons arrival rest ih =>
    obtain ⟨next, hnext, hretained, hsame⟩ :=
      @deliver_eligible localeCompare serverRevision _ _ (h arrival List.mem_cons_self)
    obtain ⟨last, hlast, hfold⟩ := ih fun other hother =>
      (hsame other).mpr (h other (List.mem_cons_of_mem _ hother))
    refine ⟨last, ?_, ?_⟩
    · rw [deliverAll, List.foldl_cons, hnext]
      exact hlast
    · rw [hfold, hretained, List.map_cons, List.foldl_cons]

theorem arriveOnTime_iff (h : ∀ arrival ∈ arrivals, arrival.Eligible current) :
    ArriveOnTime localeCompare serverRevision (some current) arrivals ↔
      InOrder (MarkerLe localeCompare) Marker.installationId 4 (retained current)
        (arrivals.map Arrival.marker) := by
  induction arrivals generalizing current with
  | nil => exact Iff.rfl
  | cons arrival rest ih =>
    obtain ⟨next, hnext, hretained, hsame⟩ :=
      @deliver_eligible localeCompare serverRevision _ _ (h arrival List.mem_cons_self)
    have heligible : ∀ other ∈ rest, other.Eligible next := fun other hother =>
      (hsame other).mpr (h other (List.mem_cons_of_mem _ hother))
    rw [ArriveOnTime, List.map_cons, InOrder, hnext, ih heligible, hretained]

theorem retention_self_iff [TransCmp localeCompare] :
    Retention (MarkerLe localeCompare) Marker.installationId 4 (retained state) (retained state) ↔
      WellKept localeCompare state := by
  constructor
  · exact fun h => ⟨h.sorted, h.distinct, h.length_le⟩
  · intro h
    refine ⟨h.sorted, h.distinct, h.length_le, fun item hitem => hitem, ?_, ?_⟩
    · intro item hitem other hother hsame
      have heq : other = item := List.inj_on_of_nodup_map h.distinct hother hitem hsame
      rw [heq]
      exact le_self item
    · exact fun other hother => .inl ⟨other, hother, rfl⟩

/-- After every arrival each installation's greatest marker is retained, cut to the four greatest,
exactly if the markers were well kept and all arrive on time. -/
theorem retention_iff_onTime [TransCmp localeCompare]
    (h : ∀ arrival ∈ arrivals, arrival.Eligible current) :
    (∀ done, done <+: arrivals → ∃ next,
        deliverAll localeCompare serverRevision (some current) done = some next ∧
        Retention (MarkerLe localeCompare) Marker.installationId 4
          (retained current ++ done.map Arrival.marker) (retained next)) ↔
      WellKept localeCompare current ∧
        ArriveOnTime localeCompare serverRevision (some current) arrivals := by
  have hprefix : ∀ done, done <+: arrivals → ∃ next,
      deliverAll localeCompare serverRevision (some current) done = some next ∧
      retained next = (done.map Arrival.marker).foldl
        (keepGreatest (MarkerLe localeCompare) Marker.installationId 4) (retained current) :=
    fun done hdone => deliverAll_eligible fun arrival hmem => h arrival (hdone.subset hmem)
  rw [arriveOnTime_iff h]
  constructor
  · intro hall
    have hself : Retention (MarkerLe localeCompare) Marker.installationId 4 (retained current)
        (retained current) := by
      obtain ⟨next, hnext, hretention⟩ := hall [] (List.nil_prefix)
      cases hnext
      simpa using hretention
    refine ⟨retention_self_iff.mp hself, (retention_prefixes_iff hself _).mp ?_⟩
    intro markers hmarkers
    obtain ⟨done, hdone, rfl⟩ := List.prefix_map_iff.mp hmarkers
    obtain ⟨next, hnext, hretention⟩ := hall done hdone
    obtain ⟨next', hnext', hfold⟩ := hprefix done hdone
    rw [hnext, Option.some.injEq] at hnext'
    subst hnext'
    rw [← hfold]
    exact hretention
  · rintro ⟨hkept, horder⟩ done hdone
    obtain ⟨next, hnext, hfold⟩ := hprefix done hdone
    refine ⟨next, hnext, ?_⟩
    rw [hfold]
    exact (retention_prefixes_iff (retention_self_iff.mpr hkept) _).mpr horder _
      (hdone.map Arrival.marker)

theorem OrderedUntimed.markerLe [TransCmp localeCompare] {left right : Marker}
    (h : OrderedUntimed localeCompare left right) (hle : MarkerLe localeCompare left right) :
    MarkerLe localeCompare left.untimed right.untimed := by
  rcases h with heq | ⟨hcompare, -⟩
  · rw [heq]
    exact le_self right.untimed
  · rw [MarkerLe, ← hcompare]
    exact hle

theorem OrderedUntimed.eq [TransCmp localeCompare] {left right : Marker}
    (h : OrderedUntimed localeCompare left right)
    (hle : MarkerLe localeCompare left.untimed right.untimed)
    (hge : MarkerLe localeCompare right.untimed left.untimed) : left.untimed = right.untimed := by
  rcases h with heq | ⟨hcompare, hne⟩
  · exact heq
  · have htie : compareDeliveryMarkers localeCompare left.untimed right.untimed = .eq :=
      OrientedCmp.isLE_antisymm hle hge
    exact absurd (hcompare.trans htie) hne

/-- Without its receive time a marker is a function of the entry and the principal. -/
theorem untimed_marker (arrival : Arrival) :
    arrival.marker.untimed = (markerFrom arrival.entry arrival.principal 0).projected := rfl

/-- The same arrivals in two orders, all on time, leave the same markers up to the receive times
where these decide no order. -/
theorem retained_untimed_eq [TransCmp localeCompare]
    (h : ∀ arrival ∈ arrivals, arrival.Eligible current)
    (h' : ∀ arrival ∈ arrivals', arrival.Eligible current) (hkept : WellKept localeCompare current)
    (honTime : ArriveOnTime localeCompare serverRevision (some current) arrivals)
    (honTime' : ArriveOnTime localeCompare serverRevision (some current) arrivals')
    (hsame : (arrivals.map fun arrival => (arrival.entry, arrival.principal)).Perm
      (arrivals'.map fun arrival => (arrival.entry, arrival.principal)))
    (hordered : ∀ left ∈ retained current ++ (arrivals ++ arrivals').map Arrival.marker,
      ∀ right ∈ retained current ++ (arrivals ++ arrivals').map Arrival.marker,
        OrderedUntimed localeCompare left right) :
    ∃ next next', deliverAll localeCompare serverRevision (some current) arrivals = some next ∧
      deliverAll localeCompare serverRevision (some current) arrivals' = some next' ∧
      (retained next).map Marker.untimed = (retained next').map Marker.untimed := by
  obtain ⟨next, hnext, hretention⟩ :=
    (retention_iff_onTime h).mpr ⟨hkept, honTime⟩ arrivals (List.prefix_refl _)
  obtain ⟨next', hnext', hretention'⟩ :=
    (retention_iff_onTime h').mpr ⟨hkept, honTime'⟩ arrivals' (List.prefix_refl _)
  refine ⟨next, next', hnext, hnext', ?_⟩
  have hleft : ∀ marker ∈ retained current ++ arrivals.map Arrival.marker,
      marker ∈ retained current ++ (arrivals ++ arrivals').map Arrival.marker := by
    simp only [List.map_append, List.mem_append]
    tauto
  have hright : ∀ marker ∈ retained current ++ arrivals'.map Arrival.marker,
      marker ∈ retained current ++ (arrivals ++ arrivals').map Arrival.marker := by
    simp only [List.map_append, List.mem_append]
    tauto
  have hentries : ((arrivals.map Arrival.marker).map Marker.untimed).Perm
      ((arrivals'.map Arrival.marker).map Marker.untimed) := by
    have hmap := hsame.map fun pair => (markerFrom pair.1 pair.2 0).projected
    simpa only [List.map_map, Function.comp_def, untimed_marker] using hmap
  have huntimed : Retention (MarkerLe localeCompare) Marker.installationId 4 _ _ :=
    hretention.map Marker.untimed (fun _ => rfl) fun a ha b hb =>
      (hordered a (hleft a ha) b (hleft b hb)).markerLe
  have huntimed' : Retention (MarkerLe localeCompare) Marker.installationId 4 _ _ :=
    hretention'.map Marker.untimed (fun _ => rfl) fun a ha b hb =>
      (hordered a (hright a ha) b (hright b hb)).markerLe
  refine huntimed.unique huntimed' ?_ ?_
  · intro marker
    rw [List.map_append, List.map_append, List.mem_append, List.mem_append, hentries.mem_iff]
  · intro left hleftMem right hrightMem hle hge
    obtain ⟨a, ha, rfl⟩ := List.mem_map.mp hleftMem
    obtain ⟨b, hb, rfl⟩ := List.mem_map.mp hrightMem
    exact (hordered a (hleft a ha) b (hleft b hb)).eq hle hge

/-- The retained markers are each installation's greatest, cut to the four greatest, after every
arrival exactly if they were well kept and no marker arrives below the retained one of its
installation; two such orders of the same entries leave the same markers up to the receive times,
where no receive time decides an order. -/
theorem retained_markers_iff_onTime [TransCmp localeCompare]
    (h : ∀ arrival ∈ arrivals, arrival.Eligible current) :
    ((∀ done, done <+: arrivals → ∃ next,
        deliverAll localeCompare serverRevision (some current) done = some next ∧
        Retention (MarkerLe localeCompare) Marker.installationId 4
          (retained current ++ done.map Arrival.marker) (retained next)) ↔
      WellKept localeCompare current ∧
        ArriveOnTime localeCompare serverRevision (some current) arrivals) ∧
    ∀ arrivals', (∀ arrival ∈ arrivals', arrival.Eligible current) →
      WellKept localeCompare current →
      ArriveOnTime localeCompare serverRevision (some current) arrivals →
      ArriveOnTime localeCompare serverRevision (some current) arrivals' →
      (arrivals.map fun arrival => (arrival.entry, arrival.principal)).Perm
        (arrivals'.map fun arrival => (arrival.entry, arrival.principal)) →
      (∀ left ∈ retained current ++ (arrivals ++ arrivals').map Arrival.marker,
        ∀ right ∈ retained current ++ (arrivals ++ arrivals').map Arrival.marker,
          OrderedUntimed localeCompare left right) →
      ∃ next next', deliverAll localeCompare serverRevision (some current) arrivals = some next ∧
        deliverAll localeCompare serverRevision (some current) arrivals' = some next' ∧
        (retained next).map Marker.untimed = (retained next').map Marker.untimed :=
  ⟨retention_iff_onTime h, fun _ h' hkept honTime honTime' hsame hordered =>
    retained_untimed_eq h h' hkept honTime honTime' hsame hordered⟩

/-! Samples. -/

def sampleDigest : JsString := List.replicate 64 97

/-- A state bound at revision 1 with no markers. -/
def sampleBinding : SyncPayload where
  kind := .BINDING_UPSERT
  conversationKeyDigest := sampleDigest
  bindingId := some (units "binding-1")
  bindingRevision := 1
  storeId := some (units "store-1")
  marketplace := some .ozon
  credentialRevision := none
  bindingState := some .BOUND

/-- A delivery of that binding, ordered by the given text. -/
def sampleDelivery (aiOrderId : String) : SyncEntry where
  requestId := units "00000000-0000-4000-8000-000000000010"
  mutationId := units "delivery"
  entityId := units "conversation:" ++ sampleDigest
  baseRevision := 1
  localSequence := 1
  mutationGeneration := units "generation"
  kind := .DELIVERY_MARKER
  payload :=
    { sampleBinding with
      kind := .DELIVERY_MARKER
      deliveryMarkerId := some (some (units "delivery"))
      deliveryOrder := some { aiOrderId := some (some (units aiOrderId)) } }

def samplePrincipal (deviceId : String) : Principal where
  accountId := units "00000000-0000-4000-8000-000000000001"
  deviceId := units deviceId
  sessionId := units "00000000-0000-4000-8000-000000000004"

def sampleArrival (deviceId aiOrderId : String) (receiveAtMs : Int) : Arrival where
  entry := sampleDelivery aiOrderId
  principal := samplePrincipal deviceId
  receiveAtMs := receiveAtMs
  revokedInstallationIds := []

theorem retained_markers_iff_onTime_sample :
    ∃ next next',
      deliverAll compare 1 (some sampleBinding)
        [sampleArrival "a" "message-2" 1, sampleArrival "b" "message-1" 2] = some next ∧
      deliverAll compare 1 (some sampleBinding)
        [sampleArrival "b" "message-1" 1, sampleArrival "a" "message-2" 2] = some next' ∧
      (retained next).map Marker.untimed = (retained next').map Marker.untimed :=
  (retained_markers_iff_onTime (by decide)).2 _ (by decide) (by decide) (by decide) (by decide)
    (by decide) (by decide)

/-- The same installation's two deliveries: the later one stays, whichever is greater. -/
theorem late_marker_displaces_greater :
    (∀ arrival ∈ [sampleArrival "a" "message-2" 1, sampleArrival "a" "message-1" 2],
      arrival.Eligible sampleBinding ∧ arrival.entry.valid = true) ∧
    WellKept compare sampleBinding ∧
    (deliverAll compare 1 (some sampleBinding)
        [sampleArrival "a" "message-2" 1, sampleArrival "a" "message-1" 2]).map
          (fun next => (retained next).map Marker.untimed) ≠
      (deliverAll compare 1 (some sampleBinding)
        [sampleArrival "a" "message-1" 1, sampleArrival "a" "message-2" 2]).map
          (fun next => (retained next).map Marker.untimed) ∧
    (deliverAll compare 1 (some sampleBinding)
        [sampleArrival "a" "message-2" 1, sampleArrival "a" "message-1" 2]).any
      (fun next => (retained next).all fun marker =>
        ¬ MarkerLe compare (sampleArrival "a" "message-2" 1).marker marker) = true := by
  refine ⟨by decide, by decide, by decide +kernel, by decide +kernel⟩

end SellerAgents.Sync
