import SellerAgents.ApiWatch.Retry

namespace SellerAgents.ApiWatch

open Js
open Subscriptions (Date)

theorem familyGroups_get_append (outcomes : List AcquisitionOutcome)
    (families : JsMap SwaggerSourceFamily (List AcquisitionOutcome)) (f : SwaggerSourceFamily) :
    ((outcomes.foldl
      (fun families outcome =>
        families.set outcome.sourceFamily
          ((families.get outcome.sourceFamily).getD [] ++ [outcome])) families).get f).getD [] =
      (families.get f).getD [] ++ outcomes.filter (·.sourceFamily = f) := by
  induction outcomes generalizing families with
  | nil => simp
  | cons outcome rest ih =>
    rw [List.foldl_cons, ih, JsMap.get_set]
    by_cases hf : f = outcome.sourceFamily
    · subst hf
      simp
    · rw [if_neg hf, List.filter_cons_of_neg (by simpa using fun h => hf h.symm)]

theorem familyGroups_get (outcomes : List AcquisitionOutcome) (f : SwaggerSourceFamily) :
    ((familyGroups outcomes).get f).getD [] = outcomes.filter (·.sourceFamily = f) := by
  rw [familyGroups, familyGroups_get_append]
  simp

/-- What a call gives a family to decide on. -/
def RetryCall.group : RetryCall → SwaggerSourceFamily → List AcquisitionOutcome
  | .decision sourceFamily outcome _, f => if sourceFamily = f then [outcome] else []
  | .pass outcomes _, f => outcomes.filter (·.sourceFamily = f)

def RetryCall.now : RetryCall → SwaggerSourceFamily → Date
  | .decision _ _ now, _ => now
  | .pass _ now, f => now f

namespace Retries

/-- The retries scheduled for one family. -/
def scheduledFor (s : Retries) (f : SwaggerSourceFamily) : List Date :=
  (s.scheduled.filter (·.1 = f)).map Prod.snd

/-- What a store holds of one family. -/
def view (s : Retries) (f : SwaggerSourceFamily) : Option ApiWatchRetryState × List Date :=
  (s.states.get f, s.scheduledFor f)

/-- Every state is stored under its own family, with no more retries than its class has. -/
def Sound (s : Retries) : Prop :=
  ∀ f, ∀ p ∈ s.states.get f, p.sourceFamily = f ∧ p.retryCount ≤ maxRetries p.failureClass

end Retries

/-- What deciding on a group may do to its family. -/
inductive FamilyMove (f : SwaggerSourceFamily) (group : List AcquisitionOutcome) (now : Date) :
    Option ApiWatchRetryState × List Date → Option ApiWatchRetryState × List Date → Prop where
  | idle (view) : FamilyMove f group now view view
  | cleared (previous times) (nonempty : group ≠ [])
      (acquired : ∀ o ∈ group, o.kind = .ACQUIRED_OFFICIAL_SOURCE_CANDIDATE) :
      FamilyMove f group now (previous, times) (none, times)
  | withdrawn (previous : ApiWatchRetryState) (times) (kind) (nonempty : group ≠ []) :
      FamilyMove f group now (some previous, times)
        (some (Retries.withdrawn previous kind now), times)
  | retried (previous times) (o : AcquisitionOutcome) (c) (id : Nat)
      (decided : representative group = some o) (failed : retryFailureClass o = some c)
      (automatic : requiresOperator group = false)
      (left : countedRetries previous c < maxRetries c)
      (kept : ∀ p ∈ previous, id = p.failureEpisodeId) :
      FamilyMove f group now (previous, times)
        (some
          { sourceFamily := f, failureEpisodeId := id, failureClass := c
            retryCount := countedRetries previous c + 1
            nextRetryAt :=
              some (dateAfter now (delayMs c (countedRetries previous c) o.retryAfterSeconds))
            lastAttemptAt := now, lastResult := o.kind, updatedAt := now },
          times ++ [dateAfter now (delayMs c (countedRetries previous c) o.retryAfterSeconds)])

namespace Retries

variable {s : Retries} {f g : SwaggerSourceFamily}

theorem view_save (value : ApiWatchRetryState) :
    (s.save value).view f =
      (if f = value.sourceFamily then some value else s.states.get f, s.scheduledFor f) := by
  rw [view, save, JsMap.get_set]
  rfl

theorem view_clear :
    (s.clear g).view f = (if f = g then none else s.states.get f, s.scheduledFor f) := by
  rw [view, clear, JsMap.get_delete]
  rfl

theorem view_scheduleEarlier (retryAt : Date) :
    (s.scheduleEarlier g retryAt).view f =
      (s.states.get f, if f = g then s.scheduledFor f ++ [retryAt] else s.scheduledFor f) := by
  rw [view, scheduleEarlier, scheduledFor, scheduledFor]
  by_cases h : f = g
  · simp [h]
  · simp [h, Ne.symm h]

theorem scheduledFor_save (value : ApiWatchRetryState) :
    (s.save value).scheduledFor f = s.scheduledFor f := rfl

theorem scheduledFor_episode (previous : Option ApiWatchRetryState) :
    (s.episode previous).2.scheduledFor f = s.scheduledFor f := by
  cases previous with
  | none => rfl
  | some state => rfl

theorem states_episode (previous : Option ApiWatchRetryState) :
    (s.episode previous).2.states = s.states := by
  cases previous with
  | none => rfl
  | some state => rfl

theorem episode_kept {previous : Option ApiWatchRetryState} :
    ∀ p ∈ previous, (s.episode previous).1 = p.failureEpisodeId := by
  intro p hp
  obtain rfl := Option.mem_def.mp hp
  rfl

end Retries

variable {o : AcquisitionOutcome} {group : List AcquisitionOutcome}

/-- Every move keeps a state under its family and within its budget. -/
theorem FamilyMove.sound {f : SwaggerSourceFamily} {now : Date}
    {v v' : Option ApiWatchRetryState × List Date} (h : FamilyMove f group now v v')
    (hv : ∀ p ∈ v.1, p.sourceFamily = f ∧ p.retryCount ≤ maxRetries p.failureClass) :
    ∀ p ∈ v'.1, p.sourceFamily = f ∧ p.retryCount ≤ maxRetries p.failureClass := by
  cases h with
  | idle => exact hv
  | cleared => simp
  | withdrawn previous times kind nonempty =>
    intro p hp
    cases hp
    exact hv previous rfl
  | retried previous times o c id decided failed automatic left kept =>
    intro p hp
    cases hp
    exact ⟨rfl, left⟩

theorem exists_of_maxRetries_le {previous : Option ApiWatchRetryState} {c}
    (h : maxRetries c ≤ countedRetries previous c) :
    ∃ p, previous = some p := by
  cases previous with
  | some p => exact ⟨p, rfl⟩
  | none => cases c <;> simp [countedRetries, maxRetries] at h

theorem kind_of_retryFailureClass {c} (h : retryFailureClass o = some c) :
    o.kind = .SOURCE_TEMPORARILY_UNAVAILABLE := by
  by_contra hkind
  rw [retryFailureClass, if_pos hkind] at h
  cases h

/-- What decides for a group. -/
theorem representative_cases (h : representative group = some o) :
    longestDelay (rateLimitedOutcomes group) = some o ∨
      (rateLimitedOutcomes group = [] ∧ (temporaryOutcomes group).head? = some o) ∨
      (temporaryOutcomes group = [] ∧
        group.find? (·.kind ≠ .ACQUIRED_OFFICIAL_SOURCE_CANDIDATE) = some o) ∨
      (∀ x ∈ group, x.kind = .ACQUIRED_OFFICIAL_SOURCE_CANDIDATE) := by
  unfold representative at h
  cases hlongest : longestDelay (rateLimitedOutcomes group) with
  | some longest =>
    rw [hlongest] at h
    exact .inl h
  | none =>
    rw [hlongest, Option.none_or] at h
    have hnone := List.argmax_eq_none.mp hlongest
    cases htemporary : (temporaryOutcomes group).head? with
    | some first =>
      rw [htemporary] at h
      exact .inr (.inl ⟨hnone, h⟩)
    | none =>
      rw [htemporary, Option.none_or] at h
      have hempty := List.head?_eq_none_iff.mp htemporary
      cases hfind : group.find? (·.kind ≠ .ACQUIRED_OFFICIAL_SOURCE_CANDIDATE) with
      | some first =>
        rw [hfind] at h
        exact .inr (.inr (.inl ⟨hempty, h⟩))
      | none =>
        refine .inr (.inr (.inr ?_))
        simpa using hfind

theorem mem_temporaryOutcomes :
    o ∈ temporaryOutcomes group ↔ o ∈ group ∧ ∃ c, retryFailureClass o = some c := by
  simp [temporaryOutcomes, Option.isSome_iff_exists]

theorem mem_rateLimitedOutcomes :
    o ∈ rateLimitedOutcomes group ↔ o ∈ group ∧ retryFailureClass o = some .HTTP_429 := by
  simp only [rateLimitedOutcomes, List.mem_filter, mem_temporaryOutcomes, decide_eq_true_eq]
  constructor
  · rintro ⟨⟨hmem, -⟩, hclass⟩
    exact ⟨hmem, hclass⟩
  · rintro ⟨hmem, hclass⟩
    exact ⟨⟨hmem, _, hclass⟩, hclass⟩

theorem representative_acquired (h : representative group = some o)
    (ho : o.kind = .ACQUIRED_OFFICIAL_SOURCE_CANDIDATE) :
    ∀ x ∈ group, x.kind = .ACQUIRED_OFFICIAL_SOURCE_CANDIDATE := by
  have hclass : ∀ c, retryFailureClass o ≠ some c := by
    intro c hc
    rw [kind_of_retryFailureClass hc] at ho
    cases ho
  rcases representative_cases h with hlongest | ⟨-, hhead⟩ | ⟨-, hfind⟩ | hall
  · exact absurd (mem_rateLimitedOutcomes.mp (List.argmax_mem hlongest)).2 (hclass _)
  · obtain ⟨-, c, hc⟩ := mem_temporaryOutcomes.mp (List.mem_of_head? hhead)
    exact absurd hc (hclass c)
  · have hkind := List.find?_some hfind
    simp [ho] at hkind
  · exact hall

namespace Retries

variable {s : Retries} {f g : SwaggerSourceFamily}

theorem Sound.withdrawn_sourceFamily {p : ApiWatchRetryState} (hs : s.Sound)
    (hp : s.states.get f = some p) (kind : OutcomeKind) (now : Date) :
    (withdrawn p kind now).sourceFamily = f := (hs f p hp).1

theorem applyRetryDecision_move (hs : s.Sound) {group : List AcquisitionOutcome}
    {o : AcquisitionOutcome} (now : Date) (hrep : representative group = some o)
    (hauto : (retryFailureClass o).isSome → requiresOperator group = false) :
    FamilyMove f group now (s.view f) ((s.applyRetryDecision f o now).2.view f) := by
  have hnonempty : group ≠ [] := by
    rintro rfl
    cases hrep
  unfold applyRetryDecision
  cases hclass : retryFailureClass o with
  | none =>
    by_cases hkind : o.kind = .ACQUIRED_OFFICIAL_SOURCE_CANDIDATE
    · rw [if_pos hkind, view_clear, if_pos rfl]
      exact .cleared _ _ hnonempty (representative_acquired hrep hkind)
    · rw [if_neg hkind]
      exact .idle _
  | some c =>
    dsimp only
    by_cases hmax : maxRetries c ≤ countedRetries (s.states.get f) c
    · obtain ⟨p, hp⟩ := exists_of_maxRetries_le hmax
      have hfamily := hs.withdrawn_sourceFamily hp o.kind now
      rw [if_pos hmax]
      simp only [exhausted, hp, view_save, hfamily, if_pos]
      rw [view, hp]
      exact .withdrawn p _ _ hnonempty
    · rw [if_neg hmax, view_scheduleEarlier, if_pos rfl, scheduledFor_save, scheduledFor_episode]
      simp only [save, JsMap.get_set_self]
      refine .retried _ _ o c _ hrep hclass (hauto ?_) (Nat.lt_of_not_le hmax) episode_kept
      rw [hclass]
      rfl

/-- A decision for one family leaves the others as they are. -/
theorem applyRetryDecision_other (hs : s.Sound) (o : AcquisitionOutcome) (now : Date)
    (hfg : f ≠ g) : (s.applyRetryDecision g o now).2.view f = s.view f := by
  unfold applyRetryDecision
  cases hclass : retryFailureClass o with
  | none =>
    by_cases hkind : o.kind = .ACQUIRED_OFFICIAL_SOURCE_CANDIDATE
    · rw [if_pos hkind, view_clear, if_neg hfg]
      rfl
    · rw [if_neg hkind]
  | some c =>
    dsimp only
    by_cases hmax : maxRetries c ≤ countedRetries (s.states.get g) c
    · obtain ⟨p, hp⟩ := exists_of_maxRetries_le hmax
      have hfamily := hs.withdrawn_sourceFamily hp o.kind now
      rw [if_pos hmax]
      simp only [exhausted, hp, view_save, hfamily, if_neg hfg]
      rfl
    · rw [if_neg hmax, view_scheduleEarlier, if_neg hfg, scheduledFor_save, scheduledFor_episode]
      simp only [save, JsMap.get_set, if_neg hfg]
      rw [states_episode]
      rfl

theorem decideFamily_move (hs : s.Sound) (group : List AcquisitionOutcome) (now : Date) :
    FamilyMove f group now (s.view f) ((s.decideFamily f group now).view f) := by
  unfold decideFamily
  by_cases hoperator : requiresOperator group = true
  · rw [if_pos hoperator]
    cases hp : s.states.get f with
    | none => exact .idle _
    | some p =>
      dsimp only
      rw [view_save, hs.withdrawn_sourceFamily hp, if_pos rfl, view, hp]
      refine .withdrawn p _ _ ?_
      rintro rfl
      cases hoperator
  · rw [if_neg hoperator]
    cases hrep : representative group with
    | none => exact .idle _
    | some o => exact applyRetryDecision_move hs now hrep fun _ => eq_false_of_ne_true hoperator

theorem decideFamily_other (hs : s.Sound) (group : List AcquisitionOutcome) (now : Date)
    (hfg : f ≠ g) : (s.decideFamily g group now).view f = s.view f := by
  unfold decideFamily
  by_cases hoperator : requiresOperator group = true
  · rw [if_pos hoperator]
    cases hp : s.states.get g with
    | none => rfl
    | some p =>
      dsimp only
      rw [view_save, hs.withdrawn_sourceFamily hp, if_neg hfg]
      rfl
  · rw [if_neg hoperator]
    cases representative group with
    | none => rfl
    | some o => exact applyRetryDecision_other hs o now hfg

theorem decideFamily_sound (hs : s.Sound) (group : List AcquisitionOutcome) (now : Date) :
    (s.decideFamily g group now).Sound := by
  intro f
  by_cases hfg : f = g
  · subst hfg
    exact (decideFamily_move hs group now).sound (hs f)
  · have hview := congrArg Prod.fst (decideFamily_other hs group now hfg)
    rw [view, view] at hview
    dsimp only at hview
    rw [hview]
    exact hs f

/-- The families of a pass, one after another. -/
def decideFamilies (now : SwaggerSourceFamily → Date)
    (groups : List (SwaggerSourceFamily × List AcquisitionOutcome)) (s : Retries) : Retries :=
  groups.foldl (fun s entry => s.decideFamily entry.1 entry.2 (now entry.1)) s

theorem decideFamilies_other (now : SwaggerSourceFamily → Date)
    {groups : List (SwaggerSourceFamily × List AcquisitionOutcome)} (hs : s.Sound)
    (h : f ∉ groups.map Prod.fst) : (decideFamilies now groups s).view f = s.view f := by
  induction groups generalizing s with
  | nil => rfl
  | cons entry rest ih =>
    rw [List.map_cons, List.mem_cons, not_or] at h
    rw [decideFamilies, List.foldl_cons, ← decideFamilies, ih (decideFamily_sound hs _ _) h.2]
    exact decideFamily_other hs _ _ h.1

/-- A pass moves each family by what it has collected of it. -/
theorem decideFamilies_move (now : SwaggerSourceFamily → Date)
    {groups : List (SwaggerSourceFamily × List AcquisitionOutcome)} (hs : s.Sound)
    (hnodup : (groups.map Prod.fst).Nodup) :
    FamilyMove f ((Properties.get groups f).getD []) (now f) (s.view f)
      ((decideFamilies now groups s).view f) := by
  induction groups generalizing s with
  | nil => exact .idle _
  | cons entry rest ih =>
    obtain ⟨g, group⟩ := entry
    rw [List.map_cons, List.nodup_cons] at hnodup
    rw [decideFamilies, List.foldl_cons, ← decideFamilies, Properties.get]
    have hsound := decideFamily_sound (g := g) hs group (now g)
    by_cases hgf : g = f
    · subst hgf
      rw [if_pos rfl, decideFamilies_other now hsound hnodup.1]
      exact decideFamily_move hs group (now g)
    · rw [if_neg hgf, ← decideFamily_other hs group (now g) (Ne.symm hgf)]
      exact ih hsound hnodup.2

theorem representative_singleton (o : AcquisitionOutcome) : representative [o] = some o := by
  unfold representative
  cases hlimited : longestDelay (rateLimitedOutcomes [o]) with
  | some x =>
    have hmem := mem_rateLimitedOutcomes.mp (List.argmax_mem hlimited)
    rw [List.mem_singleton.mp hmem.1]
    rfl
  | none =>
    cases htemporary : (temporaryOutcomes [o]).head? with
    | some x =>
      have hmem := mem_temporaryOutcomes.mp (List.mem_of_head? htemporary)
      rw [List.mem_singleton.mp hmem.1]
      rfl
    | none => by_cases hkind : o.kind = .ACQUIRED_OFFICIAL_SOURCE_CANDIDATE <;> simp [hkind]

theorem requiresOperator_singleton {o : AcquisitionOutcome} (h : (retryFailureClass o).isSome) :
    requiresOperator [o] = false := by
  obtain ⟨c, hc⟩ := Option.isSome_iff_exists.mp h
  simp [requiresOperator, kind_of_retryFailureClass hc]

theorem step_move (hs : s.Sound) (call : RetryCall) (f : SwaggerSourceFamily) :
    FamilyMove f (call.group f) (call.now f) (s.view f) ((s.step call).view f) := by
  cases call with
  | decision g o now =>
    by_cases hgf : g = f
    · subst hgf
      rw [RetryCall.group, if_pos rfl]
      exact applyRetryDecision_move hs now (representative_singleton o) requiresOperator_singleton
    · rw [RetryCall.group, if_neg hgf, step, applyRetryDecision_other hs o now (Ne.symm hgf)]
      exact .idle _
  | pass outcomes now =>
    rw [RetryCall.group, ← familyGroups_get]
    exact decideFamilies_move now hs (familyGroups outcomes).nodup

theorem step_sound (hs : s.Sound) (call : RetryCall) : (s.step call).Sound :=
  fun f => (step_move hs call f).sound (hs f)

theorem run_sound (hs : s.Sound) (calls : List RetryCall) : (s.run calls).Sound := by
  induction calls generalizing s with
  | nil => exact hs
  | cons call rest ih => exact ih (step_sound hs call)

end Retries

end SellerAgents.ApiWatch
