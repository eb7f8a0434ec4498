import SellerAgents.Health.IncidentNotifications
import SellerAgents.Health.NotificationLaws

open Relational

namespace SellerAgents.Health

open Subscriptions (Date)

variable {Id Token : Type} {intents intents' : Intents Id Token} {i j n : Nat}
  {row row' : HealthNotificationIntent Id Token} {event : LlmHealthNotificationEvent Id}

/-! The intents of one incident. -/

/-- The intents of one incident, in the order in which they were recorded. -/
def intentsOf (i : Nat) (intents : Intents Id Token) : Intents Id Token :=
  intents.filter (·.incidentId = i)

theorem mem_intentsOf : row ∈ intentsOf i intents ↔ row ∈ intents ∧ row.incidentId = i := by
  simp [intentsOf]

/-- The record of an event under the given id. -/
def recordAt (n : Nat) (event : LlmHealthNotificationEvent Id) (view : Intents Id Token) :
    Intents Id Token :=
  if view.any (·.dedupKey = event.dedupKey) then view else view ++ [newIntent n event]

/-- An event under the key that is derived for it. -/
def LlmHealthNotificationEvent.Keyed (event : LlmHealthNotificationEvent Id) : Prop :=
  event.dedupKey = notificationDedupKey event.incidentId event.eventKind event.severity

/-- A row that a table can hold. -/
structure RowFiled (row : HealthNotificationIntent Id Token) : Prop where
  keyed : row.dedupKey = notificationDedupKey row.incidentId row.eventKind row.severity
  claimed : row.state = .CLAIMED → row.claimExpiresAt.isSome
  disabled : row.lastErrorCode = some .DISABLED_ROUTE →
    row.state = .SUPPRESSED ∧ row.suppressionReason ≠ some .MAINTENANCE_ENTERED

/-- A table of intents as the code keeps it. -/
structure Filed (intents : Intents Id Token) : Prop where
  numbered : Numbered intents
  rows : ∀ row ∈ intents, RowFiled row
  unique : UniqueBy (fun row => some row.dedupKey) intents

theorem filed_nil : Filed ([] : Intents Id Token) :=
  ⟨rfl, fun _ hrow => absurd hrow List.not_mem_nil, uniqueBy_nil _⟩

theorem Filed.eq_of_key (h : Filed intents) (hrow : row ∈ intents) (hrow' : row' ∈ intents)
    (hkey : row.dedupKey = row'.dedupKey) : row = row' :=
  h.unique.eq_of_key hrow hrow' (congrArg some hkey) rfl

theorem rowFiled_newIntent (hkeyed : event.Keyed) :
    RowFiled (newIntent n event : HealthNotificationIntent Id Token) :=
  ⟨hkeyed, nofun, nofun⟩

/-- What identifies a row. -/
structure SameKey (row row' : HealthNotificationIntent Id Token) : Prop where
  id : row'.id = row.id
  incidentId : row'.incidentId = row.incidentId
  eventKind : row'.eventKind = row.eventKind
  severity : row'.severity = row.severity
  dedupKey : row'.dedupKey = row.dedupKey

theorem SameKey.rfl : SameKey row row := ⟨Eq.refl _, Eq.refl _, Eq.refl _, Eq.refl _, Eq.refl _⟩

theorem SameKey.isProduct (h : SameKey row row') : row'.isProduct i = row.isProduct i := by
  unfold HealthNotificationIntent.isProduct
  rw [h.incidentId, h.eventKind]

section Map

variable {g : HealthNotificationIntent Id Token → HealthNotificationIntent Id Token}

theorem intentsOf_map (hg : ∀ row, SameKey row (g row)) (i : Nat) (intents : Intents Id Token) :
    intentsOf i (intents.map g) = (intentsOf i intents).map g := by
  unfold intentsOf
  rw [List.filter_map]
  refine congrArg (List.map g) (List.filter_congr fun row _ => ?_)
  simp only [Function.comp_apply, (hg row).incidentId]

theorem Filed.map (h : Filed intents) (hg : ∀ row, SameKey row (g row))
    (hrows : ∀ row ∈ intents, RowFiled row → RowFiled (g row)) : Filed (intents.map g) where
  numbered := h.numbered.map fun row => (hg row).id
  rows := by
    intro row' hrow'
    obtain ⟨row, hrow, rfl⟩ := List.mem_map.mp hrow'
    exact hrows row hrow (h.rows row hrow)
  unique := h.unique.map fun row _ => congrArg some (hg row).dedupKey

/-- A row under a condition that only the rows of one incident meet. -/
theorem map_intentsOf_other (hg : ∀ row, row.incidentId ≠ i → g row = row) (hij : i ≠ j)
    (intents : Intents Id Token) : (intentsOf j intents).map g = intentsOf j intents := by
  have hsame : (intentsOf j intents).map g = (intentsOf j intents).map id := by
    refine List.map_congr_left fun row hrow => ?_
    refine hg row fun heq => hij ?_
    rw [← heq, (mem_intentsOf.mp hrow).2]
  rw [hsame, List.map_id]

end Map

theorem any_intentsOf (h : Filed intents) (hkeyed : event.Keyed) :
    (intentsOf event.incidentId intents).any (·.dedupKey = event.dedupKey) =
      intents.any (·.dedupKey = event.dedupKey) := by
  rw [Bool.eq_iff_iff, List.any_eq_true, List.any_eq_true]
  constructor
  · rintro ⟨row, hrow, hkey⟩
    exact ⟨row, (mem_intentsOf.mp hrow).1, hkey⟩
  · rintro ⟨row, hrow, hkey⟩
    refine ⟨row, mem_intentsOf.mpr ⟨hrow, ?_⟩, hkey⟩
    have hsame := of_decide_eq_true hkey
    rw [(h.rows row hrow).keyed, hkeyed] at hsame
    exact congrArg NotificationDedupKey.incidentId hsame

theorem intentsOf_record (h : Filed intents) (hkeyed : event.Keyed) (i : Nat) :
    intentsOf i (recordLlmHealthNotification intents event).2 =
      if i = event.incidentId then recordAt intents.length event (intentsOf i intents)
      else intentsOf i intents := by
  unfold recordLlmHealthNotification recordAt
  by_cases heq : i = event.incidentId
  · subst heq
    rw [if_pos rfl, any_intentsOf h hkeyed]
    split
    · rfl
    · simp [intentsOf, newIntent]
  · rw [if_neg heq]
    split
    · rfl
    · simp [intentsOf, newIntent, Ne.symm heq]

theorem Filed.record (h : Filed intents) (hkeyed : event.Keyed) :
    Filed (recordLlmHealthNotification intents event).2 := by
  unfold recordLlmHealthNotification
  split
  · exact h
  · rename_i hany
    refine ⟨h.numbered.append event, ?_, ?_⟩
    · intro row hrow
      rcases List.mem_append.mp hrow with hrow | hrow
      · exact h.rows row hrow
      · obtain rfl := List.mem_singleton.mp hrow
        exact rowFiled_newIntent hkeyed
    · refine h.unique.insert fun other hother => .inr fun hsame => hany ?_
      exact List.any_eq_true.mpr ⟨other, hother, by simpa [newIntent] using hsame⟩

theorem length_le_record (intents : Intents Id Token) (event : LlmHealthNotificationEvent Id) :
    intents.length ≤ (recordLlmHealthNotification intents event).2.length := by
  unfold recordLlmHealthNotification
  split
  · exact le_refl _
  · simp

/-! Suppression and resumption. -/

theorem sameKey_ite {p : Bool} {f : HealthNotificationIntent Id Token → HealthNotificationIntent Id Token}
    (hf : SameKey row (f row)) : SameKey row (if p then f row else row) := by
  split
  · exact hf
  · exact .rfl

theorem sameKey_suppressed : SameKey row row.suppressed := ⟨rfl, rfl, rfl, rfl, rfl⟩

theorem sameKey_resumed {observedAt : Date} : SameKey row (row.resumed observedAt) :=
  ⟨rfl, rfl, rfl, rfl, rfl⟩

theorem sameKey_grouped {withinCooldown : Bool} : SameKey row (row.grouped event withinCooldown) :=
  ⟨rfl, rfl, rfl, rfl, rfl⟩

theorem intentsOf_suppress (i j : Nat) (intents : Intents Id Token) :
    intentsOf j (suppressLlmHealthProductNotifications intents i) =
      if j = i then suppressLlmHealthProductNotifications (intentsOf j intents) i
      else intentsOf j intents := by
  unfold suppressLlmHealthProductNotifications updateWhere
  rw [intentsOf_map fun row => sameKey_ite sameKey_suppressed]
  split
  · rfl
  · rename_i hne
    refine map_intentsOf_other (i := i) (fun row hrow => ?_) (Ne.symm hne) intents
    simp [HealthNotificationIntent.isProduct, hrow]

theorem Filed.suppress (h : Filed intents) (i : Nat) :
    Filed (suppressLlmHealthProductNotifications intents i) := by
  refine h.map (fun row => sameKey_ite sameKey_suppressed) fun row hrow hfiled => ?_
  split
  · rename_i hselected
    refine ⟨hfiled.keyed, nofun, fun hdisabled => ?_⟩
    simp only [Bool.and_eq_true, Bool.or_eq_true, decide_eq_true_eq] at hselected
    have hstate := (hfiled.disabled hdisabled).1
    rw [hstate] at hselected
    simp at hselected
  · exact hfiled

theorem length_suppress (i : Nat) (intents : Intents Id Token) :
    (suppressLlmHealthProductNotifications intents i).length = intents.length :=
  List.length_map _

theorem find_suppressedOpening (i : Nat) (intents : Intents Id Token) :
    (intentsOf i intents).find? (·.isSuppressedOpening i) =
      intents.find? (·.isSuppressedOpening i) := by
  unfold intentsOf
  rw [List.find?_filter]
  refine congrArg (fun p => intents.find? p) (funext fun row => ?_)
  simp only [HealthNotificationIntent.isSuppressedOpening]
  by_cases heq : row.incidentId = i
  · simp [heq]
  · simp [heq]

theorem intentsOf_resume (h : Filed intents) (i j : Nat) (observedAt : Date) :
    intentsOf j (resumeLlmHealthProductNotification intents i observedAt) =
      if j = i then resumeLlmHealthProductNotification (intentsOf j intents) i observedAt
      else intentsOf j intents := by
  unfold resumeLlmHealthProductNotification
  by_cases heq : j = i
  · subst heq
    rw [if_pos rfl, find_suppressedOpening]
    cases intents.find? (·.isSuppressedOpening j) with
    | none => rfl
    | some opening => exact intentsOf_map (fun row => sameKey_ite sameKey_resumed) j intents
  · rw [if_neg heq]
    cases hfind : intents.find? (·.isSuppressedOpening i) with
    | none => rfl
    | some opening =>
      have hmem := List.mem_of_find?_eq_some hfind
      have hopening := List.find?_some hfind
      simp only [HealthNotificationIntent.isSuppressedOpening, Bool.and_eq_true,
        decide_eq_true_eq] at hopening
      dsimp only
      unfold updateWhere
      rw [intentsOf_map fun row => sameKey_ite sameKey_resumed]
      refine (List.map_congr_left fun row hrow => ?_).trans (List.map_id _)
      obtain ⟨hrow, hj⟩ := mem_intentsOf.mp hrow
      refine if_neg fun hid => heq ?_
      have hfound := h.numbered.getIntent_of_mem hrow
      rw [of_decide_eq_true hid, h.numbered.getIntent_of_mem hmem] at hfound
      cases hfound
      exact hj.symm.trans hopening.1.1.1

theorem Filed.resume (h : Filed intents) (i : Nat) (observedAt : Date) :
    Filed (resumeLlmHealthProductNotification intents i observedAt) := by
  unfold resumeLlmHealthProductNotification
  split
  · exact h
  · rename_i opening hfind
    have hmem := List.mem_of_find?_eq_some hfind
    have hopening := List.find?_some hfind
    simp only [HealthNotificationIntent.isSuppressedOpening, Bool.and_eq_true,
      decide_eq_true_eq] at hopening
    refine h.map (fun row => sameKey_ite sameKey_resumed) fun row hrow hfiled => ?_
    split
    · rename_i hid
      have hfound := h.numbered.getIntent_of_mem hrow
      rw [of_decide_eq_true hid, h.numbered.getIntent_of_mem hmem] at hfound
      cases hfound
      refine ⟨hfiled.keyed, fun hclaimed => ?_, fun hdisabled => ?_⟩
      · cases hclaimed
      · exact absurd hopening.2 (hfiled.disabled hdisabled).2
    · exact hfiled

theorem length_resume (i : Nat) (observedAt : Date) (intents : Intents Id Token) :
    (resumeLlmHealthProductNotification intents i observedAt).length = intents.length := by
  unfold resumeLlmHealthProductNotification
  split
  · rfl
  · exact List.length_map _

end SellerAgents.Health
