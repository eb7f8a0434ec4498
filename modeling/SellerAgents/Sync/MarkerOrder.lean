import SellerAgents.Sync.Reconciliation

open SellerAgents.Js Ranking Std

namespace SellerAgents.Sync

theorem orNull_join (s : Nullish JsString) : orNull (some (orNull s.join)).join = orNull s.join := by
  cases h : truthy s.join <;> simp [orNull, h]

theorem truthy_orNull (s : Option JsString) : truthy (orNull s) = truthy s := by
  cases h : truthy s <;> simp [orNull, h]

theorem getD_orNull (s : Option JsString) : (orNull s).getD [] = s.getD [] := by
  match s with
  | none | some [] | some (_ :: _) => rfl

/-! What is stored of a marker orders as the marker does. -/

@[simp] theorem provenance_projected (marker : Marker) :
    marker.projected.provenance = marker.provenance := by
  have htruthy : truthy marker.projected.aiOrderId.join = truthy marker.aiOrderId.join := by
    rw [Marker.projected, Option.join_some, truthy_orNull]
  unfold Marker.provenance provenance
  rw [htruthy]
  rfl

@[simp] theorem projected_projected (marker : Marker) :
    marker.projected.projected = marker.projected := by
  simp only [Marker.projected, Marker.mk.injEq, true_and, and_true]
  exact ⟨congrArg some (orNull_join _), congrArg some (orNull_join _), rfl, rfl,
    provenance_projected marker⟩

section Order

variable {localeCompare : JsString → JsString → Ordering}

@[simp] theorem compareDeliveryMarkers_projected (left right : Marker) :
    compareDeliveryMarkers localeCompare left.projected right.projected =
      compareDeliveryMarkers localeCompare left right := by
  simp only [compareDeliveryMarkers, provenance_projected]
  simp only [compareText, Marker.projected, Option.join_some, getD_orNull, deliveredAt, sequenceOf]

theorem markerLe_projected {left right : Marker} :
    MarkerLe localeCompare left.projected right.projected ↔ MarkerLe localeCompare left right := by
  rw [MarkerLe, compareDeliveryMarkers_projected, MarkerLe]

/-- Retaining commutes with storing. -/
theorem map_projected_keepGreatest (n : Nat) (kept : List Marker) (marker : Marker) :
    (keepGreatest (MarkerLe localeCompare) Marker.installationId n kept marker).map
        Marker.projected =
      keepGreatest (MarkerLe localeCompare) Marker.installationId n (kept.map Marker.projected)
        marker.projected := by
  have hfilter : (kept.map Marker.projected).filter
        (fun other => other.installationId ≠ marker.projected.installationId) =
      (kept.filter fun other => other.installationId ≠ marker.installationId).map
        Marker.projected := by
    rw [List.filter_map]
    rfl
  rw [keepGreatest, keepGreatest, map_takeLast, hfilter,
    List.map_insertionSort (MarkerLe localeCompare) (MarkerLe localeCompare), List.map_append]
  · rfl
  · exact fun a _ b _ => markerLe_projected.symm

/-! `compareDeliveryMarkers` is lexicographic in these keys. -/

/-- An AI order outranks every other. -/
def Marker.orderRank (marker : Marker) : Nat := if marker.provenance = .AI_ORDERED then 1 else 0

def Marker.orderText (marker : Marker) : JsString := marker.aiOrderId.join.getD []

/-- The client's time and sequence and the receive time, which an AI order leaves out. -/
def Marker.orderTime (marker : Marker) : Option Int :=
  if marker.provenance = .AI_ORDERED then none else deliveredAt marker

def Marker.orderSequence (marker : Marker) : Int :=
  if marker.provenance = .AI_ORDERED then 0 else sequenceOf marker

def Marker.orderReceive (marker : Marker) : Int :=
  if marker.provenance = .AI_ORDERED then 0 else marker.serverReceiveAtMs

/-- `localeCompare` on one text of the marker. -/
def compareBy (localeCompare : JsString → JsString → Ordering) (text : Marker → JsString)
    (left right : Marker) : Ordering :=
  localeCompare (text left) (text right)

instance [TransCmp localeCompare] (text : Marker → JsString) :
    TransCmp (compareBy localeCompare text) where
  eq_swap {left right} :=
    show localeCompare (text left) (text right) = (localeCompare (text right) (text left)).swap from
      OrientedCmp.eq_swap
  isLE_trans {a b c} (hab hbc) :=
    show (localeCompare (text a) (text c)).isLE from
      @TransCmp.isLE_trans _ localeCompare _ _ (text b) _ hab hbc

theorem orderText_of_not_ai {marker : Marker} (h : marker.provenance ≠ .AI_ORDERED) :
    marker.orderText = [] := by
  unfold Marker.orderText
  cases hjoin : marker.aiOrderId.join with
  | none => rfl
  | some text =>
    cases text with
    | nil => rfl
    | cons u rest => simp [Marker.provenance, provenance, hjoin] at h

theorem compareDeliveryMarkers_eq [TransCmp localeCompare] :
    compareDeliveryMarkers localeCompare =
      compareLex (compareOn Marker.orderRank) (compareLex (compareBy localeCompare Marker.orderText)
        (compareLex (compareOn Marker.orderTime) (compareLex (compareOn Marker.orderSequence)
          (compareLex (compareOn Marker.orderReceive)
            (compareLex (compareBy localeCompare Marker.installationId)
              (compareBy localeCompare Marker.deliveryMarkerId)))))) := by
  funext left right
  unfold compareDeliveryMarkers
  simp only [compareLex, compareOn, compareBy]
  by_cases hleft : left.provenance = .AI_ORDERED <;> by_cases hright : right.provenance = .AI_ORDERED
  · simp [hleft, hright, Marker.orderRank, Marker.orderTime, Marker.orderSequence,
      Marker.orderReceive, compareText, Marker.orderText, ReflOrd.compare_self]
  · have hrank : compare left.orderRank right.orderRank = .gt := by
      simp only [Marker.orderRank, if_pos hleft, if_neg hright]
      rfl
    simp [hleft, hright, hrank]
  · have hrank : compare left.orderRank right.orderRank = .lt := by
      simp only [Marker.orderRank, if_neg hleft, if_pos hright]
      rfl
    simp [hleft, hright, hrank]
  · have hrank : compare left.orderRank right.orderRank = .eq := by
      simp [hleft, hright, Marker.orderRank]
    have htext : localeCompare left.orderText right.orderText = .eq := by
      rw [orderText_of_not_ai hleft, orderText_of_not_ai hright]
      exact ReflCmp.compare_self
    simp [hleft, hright, hrank, htext, Marker.orderTime, Marker.orderSequence, Marker.orderReceive]

instance [TransCmp localeCompare] : TransCmp (compareDeliveryMarkers localeCompare) := by
  rw [compareDeliveryMarkers_eq]
  infer_instance

instance [TransCmp localeCompare] : Std.Total (MarkerLe localeCompare) where
  total left right := by
    unfold MarkerLe
    have hswap : compareDeliveryMarkers localeCompare right left =
        (compareDeliveryMarkers localeCompare left right).swap := OrientedCmp.eq_swap
    rw [hswap]
    cases compareDeliveryMarkers localeCompare left right <;> simp

instance [TransCmp localeCompare] : IsTrans Marker (MarkerLe localeCompare) where
  trans _ _ _ hab hbc := @TransCmp.isLE_trans _ (compareDeliveryMarkers localeCompare) _ _ _ _ hab hbc

end Order

end SellerAgents.Sync
