import SellerAgents.Sync.Requests

open Relational Ranking SellerAgents.Js

namespace SellerAgents.Sync

/-- The preferred installation of the state is known not to be active. -/
def PreferredRevoked (authority : Authority) (accountId : JsString) (state : SyncPayload) : Prop :=
  ∃ id ∈ revokedInstallationIds authority accountId (some state),
    (preferredOf state).installationId = some id

instance (authority : Authority) (accountId : JsString) (state : SyncPayload) :
    Decidable (PreferredRevoked authority accountId state) :=
  inferInstanceAs (Decidable (∃ id ∈ revokedInstallationIds authority accountId (some state), _))

/-- The marker of a delivery request, under the canonical id of its conversation. -/
def Request.marker (request : Request) : Marker :=
  markerFrom (canonicalEntry request.entry) request.principal request.receiveAtMs

/-- The marker belongs to the binding. -/
def Request.MarkerEligible (request : Request) (state : SyncPayload) : Prop :=
  markerEligible request.marker state request.principal.accountId
    (canonicalEntityId request.entry) = true

instance (request : Request) (state : SyncPayload) : Decidable (request.MarkerEligible state) :=
  inferInstanceAs (Decidable (_ = true))

/-- The stored markers that are not revoked, with the arriving one. -/
def storedCandidates (state : SyncPayload) (marker : Marker) : List Marker :=
  (markersOf state).filter (fun stored => stored.revoked ≠ some true) ++ [marker]

/-- The markers that are retained with the arriving one. -/
def retainedCandidates (localeCompare : JsString → JsString → Ordering) (state : SyncPayload)
    (marker : Marker) : List Marker :=
  (keepGreatest (MarkerLe localeCompare) Marker.installationId 4 (markersOf state) marker).filter
    fun kept => kept.revoked ≠ some true

/-- The stored markers of installations other than the revoked one, with the arriving one. -/
def activeCandidates (state : SyncPayload) (marker : Marker) : List Marker :=
  (storedCandidates state marker).filter fun candidate =>
    some candidate.installationId ≠ (preferredOf state).installationId

/-- The installation has a greatest marker of the candidates. -/
def HasGreatest (localeCompare : JsString → JsString → Ordering) (candidates : List Marker)
    (installationId : Option JsString) : Prop :=
  ∃ greatest ∈ candidates, (∀ other ∈ candidates, MarkerLe localeCompare other greatest) ∧
    installationId = some greatest.installationId

instance (localeCompare : JsString → JsString → Ordering) (candidates : List Marker)
    (installationId : Option JsString) :
    Decidable (HasGreatest localeCompare candidates installationId) :=
  inferInstanceAs (Decidable (∃ greatest ∈ candidates, _))

variable {platform : Platform} {store store' : SyncStore} {request : Request} {result : SyncResult}
  {state : SyncPayload}

/-- Neither a stored marker nor the arriving one passes the filter of the replacement: the one lost
its conversation when it was stored, the other names it by its entity id. -/
theorem replacement_candidates_nil (hmarkers : StoredMarkers state) (hdigest : state.conversationKeyDigest ≠ [])
    (hid : canonicalEntityId request.entry = conversationEntityId state.conversationKeyDigest)
    {candidates : List Marker}
    (hcandidates : ∀ marker ∈ candidates, marker ∈ markersOf state ∨ marker = request.marker) :
    candidates.filter (fun marker => marker.revoked ≠ some true &&
      markerEligible marker state [] state.conversationKeyDigest) = [] := by
  rw [List.filter_eq_nil_iff]
  intro marker hmarker hpass
  rw [Bool.and_eq_true] at hpass
  have heligible := hpass.2
  unfold markerEligible at heligible
  rcases hcandidates marker hmarker with hstored | rfl
  · have hnone : marker.conversationKeyDigest = none := by
      rw [← hmarkers marker hstored]
      rfl
    simp [hnone] at heligible
  · have hentity : request.marker.entityId =
        some (conversationEntityId state.conversationKeyDigest) := by
      rw [← hid, ← canonicalEntry_entityId]
      rfl
    have hne : conversationEntityId state.conversationKeyDigest ≠ state.conversationKeyDigest := by
      intro heq
      have hlength := congrArg List.length heq
      simp [conversationEntityId, units] at hlength
      omega
    simp [hentity, hdigest, hne] at heligible

/-- With no eligible candidate the acting installation takes a revoked one's place. -/
theorem preferredDecision_revoked {localeCompare : JsString → JsString → Ordering}
    {candidates : List Marker} {actingInstallationId : JsString} {revoked : List JsString}
    (hrevoked : ∃ id ∈ revoked, (preferredOf state).installationId = some id)
    (hnone : candidates.filter (fun marker => marker.revoked ≠ some true &&
      markerEligible marker state [] state.conversationKeyDigest) = [])
    (hacting : actingInstallationId ≠ []) :
    (preferredDecision localeCompare state candidates actingInstallationId revoked).installationId =
      some actingInstallationId := by
  obtain ⟨id, hid, hpreferred⟩ := hrevoked
  have htruthy : truthy (some actingInstallationId) = true := truthy_some.mpr hacting
  unfold preferredDecision
  simp only [hnone, List.insertionSort_nil, List.getLast?_nil]
  simp [hpreferred, hid, orElse, orNull, htruthy]

theorem isUuid_ne_nil {s : JsString} (h : isUuid s = true) : s ≠ [] := by
  rintro rfl
  exact absurd h (by decide)

theorem isSyncDigest_ne_nil {s : JsString} (h : isSyncDigest s = true) : s ≠ [] := by
  rintro rfl
  exact absurd h (by decide)

/-- The installation that sends an eligible marker becomes the preferred one in the place of a
revoked one. -/
theorem Applied.preferred_replaced (h : Applied platform store request result store')
    (hc : Canonical store) (hvalid : request.valid = true)
    (hkind : request.entry.kind = .DELIVERY_MARKER) {row : SyncEntity}
    (hrow : entityAt store request.principal.accountId (canonicalEntityId request.entry) = some row)
    (heligible : request.MarkerEligible row.state)
    (hrevoked : PreferredRevoked store.authority request.principal.accountId row.state) :
    ∃ row', entityAt store' request.principal.accountId (canonicalEntityId request.entry) =
        some row' ∧
      (preferredOf row'.state).installationId = some request.principal.deviceId := by
  obtain ⟨hmem, -, hid⟩ := entityAt_mem hrow
  have hbinding : request.entry.kind.isBinding = true := by rw [hkind]; rfl
  have hcanonicalKind : (canonicalEntry request.entry).kind = .DELIVERY_MARKER := by
    rw [canonicalEntry_kind, hkind]
  have hdigestId : canonicalEntityId request.entry =
      conversationEntityId row.state.conversationKeyDigest := by
    rcases hc.named row hmem with ⟨hstore, -⟩ | ⟨-, hnamed⟩
    · rcases hc.bindingRow hbinding hrow with hk | hk <;> simp [hk, SyncKind.isStore] at hstore
    · exact hid.symm.trans hnamed
  have hdigest : row.state.conversationKeyDigest ≠ [] := by
    have hentry : canonicalEntityId request.entry =
        conversationEntityId request.entry.payload.conversationKeyDigest := if_pos hbinding
    rw [← conversationEntityId_inj (hentry.symm.trans hdigestId)]
    simp only [Request.valid, SyncEntry.valid, SyncPayload.valid, Bool.and_eq_true] at hvalid
    apply isSyncDigest_ne_nil
    tauto
  have hdevice : request.principal.deviceId ≠ [] := by
    simp only [Request.valid, Bool.and_eq_true] at hvalid
    exact isUuid_ne_nil hvalid.2
  have hresult := h.result_eq
  rw [reconcile, selected_head hc, hrow] at hresult
  simp only [Option.map_some, Option.getD_some, applyReconciliationEntry, hcanonicalKind] at hresult
  have heligible' : markerEligible (markerFrom (canonicalEntry request.entry) request.principal
      request.receiveAtMs) row.state request.principal.accountId
        (canonicalEntry request.entry).entityId = true := by
    rw [canonicalEntry_entityId]
    exact heligible
  simp only [applyDeliveryMarker, heligible', Bool.not_true, Bool.false_eq_true, if_false] at hresult
  have hwrite : ∃ state', stateToWrite result = some state' ∧
      (preferredOf state').installationId = some request.principal.deviceId := by
    rw [hresult]
    refine ⟨_, rfl, ?_⟩
    apply preferredDecision_revoked hrevoked ?_ hdevice
    apply replacement_candidates_nil (hc.markers row hmem) hdigest hdigestId
    intro marker hmarker
    exact (mem_keepGreatest hmarker).imp And.left id
  obtain ⟨state', hwrite, hpreferred⟩ := hwrite
  refine ⟨entityOf request result state', ?_, hpreferred⟩
  rw [h.entityAt_eq hc, if_pos ⟨rfl, rfl⟩, hwrite]
  rfl

/-- In every reachable store, where the preferred installation is revoked and an eligible marker is
processed, the new preferred installation owns a greatest candidate exactly if the sending one does.
-/
theorem preferred_replacement_iff (platform : Platform) (steps : List SyncStep) (request : Request)
    (hstore : store = run platform {} steps) (hvalid : request.valid = true)
    (hkind : request.entry.kind = .DELIVERY_MARKER) {row : SyncEntity}
    (hrow : entityAt store request.principal.accountId (canonicalEntityId request.entry) = some row)
    (heligible : request.MarkerEligible row.state)
    (hrevoked : PreferredRevoked store.authority request.principal.accountId row.state)
    (hfresh : store.receipts.find? request.isReceipt = none)
    (hok : apply platform request store = .ok (result, store')) :
    ∃ row', entityAt store' request.principal.accountId (canonicalEntityId request.entry) =
        some row' ∧
      ∀ candidates ∈ [storedCandidates row.state request.marker,
          activeCandidates row.state request.marker,
          retainedCandidates platform.localeCompare row.state request.marker],
        (HasGreatest platform.localeCompare candidates (preferredOf row'.state).installationId ↔
          HasGreatest platform.localeCompare candidates (some request.principal.deviceId)) := by
  have hc : Canonical store := by
    rw [hstore]
    exact canonical_run canonical_empty steps
  rcases apply_commits store result store' hok with happlied | ⟨-, prior, hprior, -⟩
  · obtain ⟨row', hrow', hpreferred⟩ :=
      happlied.preferred_replaced hc hvalid hkind hrow heligible hrevoked
    refine ⟨row', hrow', fun candidates _ => ?_⟩
    rw [hpreferred]
  · rw [hfresh] at hprior
    cases hprior

/-! A run in which the installation that bound a conversation is revoked. -/

def installationA : String := "00000000-0000-4000-8000-00000000000a"

def installationB : String := "00000000-0000-4000-8000-00000000000b"

def installationC : String := "00000000-0000-4000-8000-00000000000c"

def samplePrincipalOf (installation : String) : Principal :=
  { samplePrincipal installation with sessionId := units installation }

/-- Three installations of one account; the first one has this status. -/
def sampleAuthority (first : DeviceStatus) : Authority where
  users := [⟨units "user", .ACTIVE⟩]
  accounts := [⟨(samplePrincipal installationA).accountId, .ACTIVE⟩]
  devices := [(installationA, first), (installationB, .ACTIVE), (installationC, .ACTIVE)].map
    fun (installation, status) =>
      ⟨units installation, (samplePrincipal installation).accountId, units "user", status, none⟩
  sessions := [installationA, installationB, installationC].map fun installation =>
    ⟨units installation, (samplePrincipal installation).accountId, units installation, .ACTIVE, none⟩

def sampleBind : SyncEntry :=
  { sampleDelivery "message-1" with kind := .BINDING_UPSERT, payload := sampleBinding }

/-- The digests are the ones of the sample entries. -/
def deliveryPlatform : Platform where
  localeCompare := compare
  accepts _ := true
  fingerprint entry :=
    if entry = sampleBind then
      units "20b63dc2c4148f3a7eeab8825ead4e6b882d0647d23c3b57fd70e4365ca5211e"
    else if entry = sampleDelivery "message-1" then
      units "a432e2c78a577ea619e5f7dc2199d112faccf2a41d09395ad06a09aead7fff78"
    else if entry = sampleDelivery "message-2" then
      units "19a8232f9e384c2da296f601bb41dfd85fd06be2898282927e49f9f25b9fee25"
    else units "59ab7d9c778e5ed6aa654cfde3f4075561c924b0d90ce32c3df5bb07a5273aa1"

/-- The first installation binds, the second delivers, and the first one is revoked. -/
def sampleSteps : List SyncStep :=
  [.authority (sampleAuthority .ACTIVE),
    .apply ⟨samplePrincipalOf installationA, sampleBind, 1⟩,
    .apply ⟨samplePrincipalOf installationB, sampleDelivery "message-2", 2⟩,
    .authority (sampleAuthority .REVOKED)]

def sampleRequest (installation aiOrderId : String) : Request :=
  ⟨samplePrincipalOf installation, sampleDelivery aiOrderId, 3⟩

def sampleEntityId : JsString := conversationEntityId sampleDigest

def sampleStore : SyncStore := run deliveryPlatform {} sampleSteps

/-- The row of the sample conversation. -/
def sampleRow (store : SyncStore) : Option SyncEntity :=
  entityAt store (samplePrincipal installationA).accountId sampleEntityId

theorem preferred_replacement_iff_sample :
    ∃ row row', sampleRow sampleStore = some row ∧
      sampleRow ((SyncStep.apply (sampleRequest installationC "message-3")).next deliveryPlatform
        sampleStore) = some row' ∧
      ∀ candidates ∈ [storedCandidates row.state (sampleRequest installationC "message-3").marker,
          activeCandidates row.state (sampleRequest installationC "message-3").marker,
          retainedCandidates compare row.state (sampleRequest installationC "message-3").marker],
        (HasGreatest compare candidates (preferredOf row'.state).installationId ↔
          HasGreatest compare candidates (some (units installationC))) := by
  have hall : (sampleRow sampleStore).any (fun row =>
      (sampleRequest installationC "message-3").MarkerEligible row.state ∧
        PreferredRevoked sampleStore.authority (samplePrincipal installationA).accountId row.state) =
      true := by
    decide +kernel
  obtain ⟨row, hrow, hmarker⟩ := (Option.any_eq_true _ _).mp hall
  obtain ⟨heligible, hrevoked⟩ := of_decide_eq_true hmarker
  have hchanged : (SyncStep.apply (sampleRequest installationC "message-3")).next deliveryPlatform
      sampleStore ≠ sampleStore := by
    decide +kernel
  obtain ⟨result, hok⟩ := ok_of_changed hchanged
  obtain ⟨row', hrow', hiff⟩ := preferred_replacement_iff deliveryPlatform sampleSteps
    (sampleRequest installationC "message-3") rfl
    (by decide +kernel) rfl hrow heligible hrevoked (by decide +kernel) hok
  exact ⟨row, row', hrow, hrow', hiff⟩

/-- The second installation's marker is the greatest, and the third one, which sends the lesser,
becomes the preferred installation. -/
theorem sender_preferred_below_greatest :
    (sampleRequest installationC "message-1").valid = true ∧
    (sampleRow sampleStore).any (fun (row : SyncEntity) => decide
      ((sampleRequest installationC "message-1").MarkerEligible row.state ∧
      PreferredRevoked sampleStore.authority (samplePrincipal installationA).accountId row.state ∧
      ∀ candidates ∈ [storedCandidates row.state (sampleRequest installationC "message-1").marker,
          activeCandidates row.state (sampleRequest installationC "message-1").marker,
          retainedCandidates compare row.state (sampleRequest installationC "message-1").marker],
        HasGreatest compare candidates (some (units installationB)) ∧
          ¬ HasGreatest compare candidates (some (units installationC)))) = true ∧
    (sampleRow ((SyncStep.apply (sampleRequest installationC "message-1")).next deliveryPlatform
      sampleStore)).any (fun row' =>
        (preferredOf row'.state).installationId = some (units installationC)) = true := by
  refine ⟨by decide +kernel, by decide +kernel, by decide +kernel⟩

end SellerAgents.Sync
