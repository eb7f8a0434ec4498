import Mathlib.Data.List.Dedup
import SellerAgents.Health.IncidentLaws

open SellerAgents.Concurrent (Episode Phase Sight)

namespace SellerAgents.Health

open Subscriptions (Date)

variable {Id Digest : Type} {d : Digests Digest} {t : List (IncidentRow Id Digest)} {s k : Digest}
  {run : HealthRun Id}

/-- The scope of the incidents that a run is about. -/
def incidentScopeOf (d : Digests Digest) (run : HealthRun Id) : Option Digest :=
  run.suite.map fun suite =>
    d.healthIncidentScopeSha256 (healthIncidentScopeIdentity suite.scope run.healthLevel)

theorem getClassification_suite {classification : HealthClassificationResult}
    {suite : HealthSuiteDefinition} (h : getClassification run = .ok (classification, suite)) :
    run.suite = some suite := by
  unfold getClassification at h
  cases hsuite : run.suite with
  | none =>
    rw [hsuite] at h
    cases h
  | some found =>
    rw [hsuite] at h
    dsimp only at h
    split at h
    · cases h
    · split at h
      · cases h
      · cases h
        rfl

theorem effectOf_inScope (h : ∀ x ∈ incidentScopeOf d run, x = s) :
    (effectOf d run).InScope s := by
  unfold effectOf
  cases hclass : getClassification run with
  | error error => trivial
  | ok classified =>
    obtain ⟨classification, suite⟩ := classified
    have hscope : d.healthIncidentScopeSha256
        (healthIncidentScopeIdentity suite.scope run.healthLevel) = s := by
      apply h
      rw [incidentScopeOf, getClassification_suite hclass]
      rfl
    dsimp only
    cases run.healthState with
    | UNKNOWN => trivial
    | _ => exact hscope

theorem effectOf_healthy (h : (effectOf d run).Says .HEALTHY) : run.healthState = .HEALTHY := by
  unfold effectOf at h
  cases hclass : getClassification run with
  | error error =>
    rw [hclass] at h
    cases h
  | ok classified =>
    rw [hclass] at h
    cases hstate : run.healthState with
    | HEALTHY => rfl
    | _ =>
      rw [hstate] at h
      cases h

variable [LinearOrder Id] [DecidableEq Digest]

/-- The status of the active incident of a key. -/
def activeStatus (t : List (IncidentRow Id Digest)) (k : Digest) : Option HealthIncidentStatus :=
  (activeByKey t k).map (·.status)

/-- The runs in the order of their completion, each once. -/
def inOrder (runs : List (HealthRun Id)) : List (HealthRun Id) :=
  runs.dedup.insertionSort fun run other => run.stamp ≤ other.stamp

/-- A call on a run comes in time: no healthy and no maintenance run after a failing one was handled
before it, unless an incident of its key has observed something as late; and an active incident that
has observed something after a healthy run has a failure handled as late. -/
def InTime (d : Digests Digest) (before : List (HealthRun Id)) (t : List (IncidentRow Id Digest))
    (run : HealthRun Id) : Prop :=
  ∀ k,
    ((effectOf d run).sight k = some .failure → ∀ x ∈ before,
      (effectOf d x).sight k = some .recovery ∨ (effectOf d x).sight k = some .maintenance →
        run.stamp < x.stamp → ∃ row ∈ rowsOf t k, run.stamp ≤ row.lastObserved) ∧
    ((effectOf d run).sight k = some .recovery → ∀ row ∈ rowsOf t k,
      isActiveIncidentStatus row.status = true → run.stamp < row.lastObserved →
        ∃ f ∈ before, (effectOf d f).sight k = some .failure ∧ run.stamp ≤ f.stamp)

/-- Calls that each come in time. -/
def InTimeRun (d : Digests Digest) :
    List (HealthRun Id) → List (IncidentRow Id Digest) → List (HealthRun Id) → Prop
  | _, _, [] => True
  | before, t, run :: rest =>
    InTime d before t run ∧ InTimeRun d (before ++ [run]) (handleRun d t run) rest

/-- The failures that calls record for incidents, opening or updating them. -/
def recordedFailures (d : Digests Digest) :
    List (IncidentRow Id Digest) → List (HealthRun Id) → List (Nat × HealthRun Id)
  | _, [] => []
  | t, run :: rest =>
    (match processCompletedHealthRun d t run with
      | .ok (result, _) =>
        if result.action = .OPENED || result.action = .UPDATED then
          result.incidentIds.map fun id => (id, run)
        else []
      | .error _ => []) ++ recordedFailures d (handleRun d t run) rest

/-- What calls show the episode of a key. -/
def sightsOf (d : Digests Digest) (k : Digest) (runs : List (HealthRun Id)) :
    List (Sight × Stamp Id) :=
  runs.filterMap fun run => ((effectOf d run).sight k).map fun sight => (sight, run.stamp)

variable {e : Episode (Stamp Id)} {runs : List (HealthRun Id)}

theorem handleRun_stands (hs : Sound s t) (hscope : ∀ x ∈ incidentScopeOf d run, x = s)
    (h : Stands (rowsOf t k) e) :
    Stands (rowsOf (handleRun d t run) k) (e.seeAll (sightsOf d k [run])) := by
  have hstep := effectTable_stands hs run (effectOf_inScope hscope) h
  rw [handleRun_eq d hs.nodup]
  cases hsight : (effectOf d run).sight k with
  | none =>
    have hnothing : sightsOf d k [run] = [] := by simp [sightsOf, hsight]
    rw [hsight] at hstep
    rw [hnothing]
    exact hstep
  | some sight =>
    have hshown : sightsOf d k [run] = [(sight, run.stamp)] := by simp [sightsOf, hsight]
    rw [hsight] at hstep
    rw [hshown]
    exact hstep

theorem handleRun_sound (hs : Sound s t) (hscope : ∀ x ∈ incidentScopeOf d run, x = s) :
    Sound s (handleRun d t run) := by
  rw [handleRun_eq d hs.nodup]
  exact effectTable_sound hs run (effectOf_inScope hscope)

omit [LinearOrder Id] in
theorem sightsOf_append (runs later : List (HealthRun Id)) :
    sightsOf d k (runs ++ later) = sightsOf d k runs ++ sightsOf d k later :=
  List.filterMap_append

omit [LinearOrder Id] in
theorem mem_sightsOf {sight : Sight} {stamp : Stamp Id} :
    (sight, stamp) ∈ sightsOf d k runs ↔
      ∃ run ∈ runs, (effectOf d run).sight k = some sight ∧ run.stamp = stamp := by
  rw [sightsOf, List.mem_filterMap]
  refine exists_congr fun run => and_congr_right fun _ => ?_
  rw [Option.map_eq_some_iff]
  constructor
  · rintro ⟨shown, hshown, heq⟩
    cases heq
    exact ⟨hshown, rfl⟩
  · rintro ⟨hshown, rfl⟩
    exact ⟨sight, hshown, rfl⟩

/-- A table of a scope's calls is sound, and shows each key what they say of it. -/
theorem handleRuns_sound (hs : Sound s t)
    (hscope : ∀ run ∈ runs, ∀ x ∈ incidentScopeOf d run, x = s) :
    Sound s (handleRuns d t runs) ∧ ∀ k e, Stands (rowsOf t k) e →
      Stands (rowsOf (handleRuns d t runs) k) (e.seeAll (sightsOf d k runs)) := by
  induction runs generalizing t with
  | nil => exact ⟨hs, fun k e h => h⟩
  | cons run rest ih =>
    have hrun := hscope run List.mem_cons_self
    obtain ⟨hsound, hstands⟩ :=
      ih (handleRun_sound hs hrun) fun other hother => hscope other (List.mem_cons_of_mem _ hother)
    refine ⟨hsound, fun k e h => ?_⟩
    have hrest := hstands k _ (handleRun_stands hs hrun h)
    rwa [Episode.seeAll, Episode.seeAll, ← List.foldl_append, ← sightsOf_append] at hrest

omit [DecidableEq Digest] in
theorem sound_nil : Sound s ([] : List (IncidentRow Id Digest)) where
  ids := rfl
  scope row hrow := by cases hrow
  stands k := ⟨{}, .absent (by ext r; simp [rowsOf])⟩

omit [DecidableEq Digest] in
theorem stands_nil : Stands (rowsOf ([] : List (IncidentRow Id Digest)) k) {} :=
  .absent (by ext r; simp [rowsOf])

/-- The status that a phase shows. -/
def phaseStatus : Phase → Option HealthIncidentStatus
  | .closed => none
  | .failing => some .OPEN
  | .maintained => some .MAINTENANCE

theorem Stands.activeStatus_eq (h : Stands (rowsOf t k) e) :
    activeStatus t k = phaseStatus e.phase := by
  unfold activeStatus
  cases hactive : activeByKey t k with
  | none =>
    have hterminal := activeByKey_none hactive
    cases h with
    | absent empty => rfl
    | settled row mem terminal latest => rfl
    | live row mem live others =>
      have hrow := live.active
      rw [hterminal row mem] at hrow
      cases hrow
  | some a =>
    obtain ⟨ha, hstatus⟩ := activeByKey_some hactive
    cases h with
    | absent empty => exact absurd ha (empty ▸ Set.notMem_empty a)
    | settled row mem terminal latest =>
      rw [terminal a ha] at hstatus
      cases hstatus
    | live row mem live others =>
      obtain rfl | ⟨hterminal, -⟩ := others a ha
      · rcases live with hopen | hmaintenance
        · simp [IncidentRow.phase, phaseStatus, hopen]
        · simp [IncidentRow.phase, phaseStatus, hmaintenance]
      · rw [hterminal] at hstatus
        cases hstatus

omit [DecidableEq Digest] in
/-- What a key's episode has noticed last is what one of its incidents has observed last. -/
theorem Stands.le_last_iff (h : Stands (rowsOf t k) e) (stamp : Stamp Id) :
    stamp ≤ e.last ↔ ∃ row ∈ rowsOf t k, stamp ≤ row.lastObserved := by
  cases h with
  | absent empty =>
    refine iff_of_false (WithBot.not_coe_le_bot stamp) ?_
    rintro ⟨row, hrow, -⟩
    rw [empty] at hrow
    exact hrow
  | settled row mem terminal latest =>
    rw [WithBot.coe_le_coe]
    exact ⟨fun h => ⟨row, mem, h⟩, fun ⟨r, hr, hle⟩ => hle.trans (latest r hr)⟩
  | live row mem live others =>
    rw [WithBot.coe_le_coe]
    refine ⟨fun h => ⟨row, mem, h⟩, fun ⟨r, hr, hle⟩ => ?_⟩
    obtain rfl | ⟨-, hlt⟩ := others r hr
    · exact hle
    · exact hle.trans hlt.le

omit [DecidableEq Digest] in
/-- The active incident of a key stands for its episode. -/
theorem Stands.active_iff (h : Stands (rowsOf t k) e) (stamp : Stamp Id) :
    (e.phase ≠ .closed ∧ stamp < e.last) ↔
      ∃ row ∈ rowsOf t k, isActiveIncidentStatus row.status = true ∧ stamp < row.lastObserved := by
  cases h with
  | absent empty =>
    refine iff_of_false (fun h => h.1 rfl) ?_
    rintro ⟨row, hrow, -⟩
    rw [empty] at hrow
    exact hrow
  | settled row mem terminal latest =>
    refine iff_of_false (fun h => h.1 rfl) ?_
    rintro ⟨r, hr, hactive, -⟩
    rw [terminal r hr] at hactive
    cases hactive
  | live row mem live others =>
    have hopen : row.phase ≠ .closed := by
      unfold IncidentRow.phase
      split <;> decide
    rw [WithBot.coe_lt_coe]
    constructor
    · rintro ⟨-, hlt⟩
      exact ⟨row, mem, live.active, hlt⟩
    · rintro ⟨r, hr, hactive, hlt⟩
      obtain rfl | ⟨hterminal, -⟩ := others r hr
      · exact ⟨hopen, hlt⟩
      · rw [hterminal] at hactive
        cases hactive

theorem inTime_iff {e : Digest → Episode (Stamp Id)} (h : ∀ k, Stands (rowsOf t k) (e k))
    (before : List (HealthRun Id)) (run : HealthRun Id) :
    InTime d before t run ↔ ∀ k, ∀ sight, (effectOf d run).sight k = some sight →
      (e k).Timely (sightsOf d k before) sight run.stamp := by
  refine forall_congr' fun k => ?_
  constructor
  · rintro ⟨hfailure, hrecovery⟩ sight hsight
    cases sight with
    | maintenance => trivial
    | failure =>
      intro stamp hseen hlt
      rw [(h k).le_last_iff]
      have hboth : ∃ x ∈ before, ((effectOf d x).sight k = some .recovery ∨
          (effectOf d x).sight k = some .maintenance) ∧ x.stamp = stamp := by
        rcases hseen with hseen | hseen
        · obtain ⟨x, hx, hshown, hstamp⟩ := mem_sightsOf.mp hseen
          exact ⟨x, hx, .inl hshown, hstamp⟩
        · obtain ⟨x, hx, hshown, hstamp⟩ := mem_sightsOf.mp hseen
          exact ⟨x, hx, .inr hshown, hstamp⟩
      obtain ⟨x, hx, hshown, rfl⟩ := hboth
      exact hfailure hsight x hx hshown hlt
    | recovery =>
      intro hopen hlt
      obtain ⟨row, hrow, hactive, hlater⟩ := ((h k).active_iff run.stamp).mp ⟨hopen, hlt⟩
      obtain ⟨f, hf, hshown, hle⟩ := hrecovery hsight row hrow hactive hlater
      exact ⟨f.stamp, mem_sightsOf.mpr ⟨f, hf, hshown, rfl⟩, hle⟩
  · intro htimely
    constructor
    · intro hsight x hx hshown hlt
      have hseen : (Sight.recovery, x.stamp) ∈ sightsOf d k before ∨
          (Sight.maintenance, x.stamp) ∈ sightsOf d k before :=
        hshown.imp (fun h => mem_sightsOf.mpr ⟨x, hx, h, rfl⟩) fun h =>
          mem_sightsOf.mpr ⟨x, hx, h, rfl⟩
      exact ((h k).le_last_iff run.stamp).mp (htimely _ hsight x.stamp hseen hlt)
    · intro hsight row hrow hactive hlater
      obtain ⟨hopen, hlt⟩ := ((h k).active_iff run.stamp).mpr ⟨row, hrow, hactive, hlater⟩
      obtain ⟨f, hf, hle⟩ := htimely _ hsight hopen hlt
      obtain ⟨x, hx, hshown, rfl⟩ := mem_sightsOf.mp hf
      exact ⟨x, hx, hshown, hle⟩

/-- One call shows an episode at most one sight. -/
theorem timelyRun_single (e : Episode (Stamp Id)) (seen : List (Sight × Stamp Id))
    (run : HealthRun Id) :
    Episode.TimelyRun e seen (sightsOf d k [run]) ↔
      ∀ sight, (effectOf d run).sight k = some sight → e.Timely seen sight run.stamp := by
  cases hsight : (effectOf d run).sight k with
  | none => simp [sightsOf, hsight, Episode.TimelyRun]
  | some sight => simp [sightsOf, hsight, Episode.TimelyRun]

theorem inTimeRun_iff (before : List (HealthRun Id)) (hs : Sound s t)
    (hscope : ∀ run ∈ runs, ∀ x ∈ incidentScopeOf d run, x = s) {e : Digest → Episode (Stamp Id)}
    (h : ∀ k, Stands (rowsOf t k) (e k)) :
    InTimeRun d before t runs ↔
      ∀ k, Episode.TimelyRun (e k) (sightsOf d k before) (sightsOf d k runs) := by
  induction runs generalizing before t e with
  | nil => exact iff_of_true trivial fun k => trivial
  | cons run rest ih =>
    have hrun := hscope run List.mem_cons_self
    have hrest := ih (before ++ [run]) (handleRun_sound hs hrun)
      (fun other hother => hscope other (List.mem_cons_of_mem _ hother))
      (e := fun k => (e k).seeAll (sightsOf d k [run])) fun k => handleRun_stands hs hrun (h k)
    rw [InTimeRun, inTime_iff h, hrest, ← forall_and]
    refine forall_congr' fun k => ?_
    rw [← timelyRun_single, sightsOf_append, ← Episode.timelyRun_append, ← sightsOf_append]
    rfl

theorem mem_inOrder : run ∈ inOrder runs ↔ run ∈ runs := by
  rw [inOrder, (List.perm_insertionSort _ _).mem_iff, List.mem_dedup]

/-- Runs in the order of their completion have rising stamps. -/
theorem inOrder_sorted (hid : ∀ r ∈ runs, ∀ r' ∈ runs, r.id = r'.id → r = r') :
    (inOrder runs).Pairwise fun run other => run.stamp < other.stamp := by
  have hnodup : (inOrder runs).Nodup :=
    (List.perm_insertionSort _ _).nodup_iff.mpr (List.nodup_dedup runs)
  have hle : (inOrder runs).Pairwise fun run other => run.stamp ≤ other.stamp :=
    List.pairwise_insertionSort _ _
  refine (hle.and hnodup).imp_of_mem fun {run other} hrun hother h => ?_
  refine lt_of_le_of_ne h.1 fun hstamp => h.2 ?_
  exact hid run (mem_inOrder.mp hrun) other (mem_inOrder.mp hother)
    (congrArg Prod.snd (toLex.injective hstamp))

omit [LinearOrder Id] in
theorem distinct_sightsOf (hid : ∀ r ∈ runs, ∀ r' ∈ runs, r.id = r'.id → r = r') :
    Episode.Distinct (sightsOf d k runs) := by
  rintro ⟨sight, stamp⟩ hs ⟨sight', stamp'⟩ hs' heq
  obtain ⟨run, hrun, hshown, hstamp⟩ := mem_sightsOf.mp hs
  obtain ⟨run', hrun', hshown', hstamp'⟩ := mem_sightsOf.mp hs'
  have hstamps : run.stamp = run'.stamp := hstamp.trans (heq.trans hstamp'.symm)
  obtain rfl := hid run hrun run' hrun' (congrArg Prod.snd (toLex.injective hstamps))
  rw [hshown] at hshown'
  cases hshown'
  exact Prod.ext rfl heq

/-- Where a key stands after runs handled in the order of their completion. -/
theorem inOrder_verdict (hscope : ∀ run ∈ runs, ∀ x ∈ incidentScopeOf d run, x = s)
    (hid : ∀ r ∈ runs, ∀ r' ∈ runs, r.id = r'.id → r = r') (k : Digest) :
    ∃ phase, Episode.Verdict (sightsOf d k runs) phase ∧
      activeStatus (handleRuns d [] (inOrder runs)) k = phaseStatus phase := by
  have hmem : ∀ sight, sight ∈ sightsOf d k (inOrder runs) ↔ sight ∈ sightsOf d k runs := by
    rintro ⟨sight, stamp⟩
    simp only [mem_sightsOf, mem_inOrder]
  have hdistinct : Episode.Distinct (sightsOf d k (inOrder runs)) :=
    (distinct_sightsOf hid).subset fun sight => (hmem sight).mp
  have hsorted : (sightsOf d k (inOrder runs)).Pairwise fun sight later => sight.2 < later.2 := by
    refine List.Pairwise.filterMap _ (fun run other hlt sight hsight later hlater => ?_)
      (inOrder_sorted hid)
    obtain ⟨shown, -, rfl⟩ := Option.map_eq_some_iff.mp hsight
    obtain ⟨shown', -, rfl⟩ := Option.map_eq_some_iff.mp hlater
    exact hlt
  have htimely := Episode.follows_nil.timelyRun_of_sorted hsorted (by simp) hdistinct
  have hfollows := Episode.follows_nil.seeAll hdistinct htimely
  have hstands := (handleRuns_sound (sound_nil (s := s))
    fun run hrun => hscope run (mem_inOrder.mp hrun)).2 k {} stands_nil
  rw [List.nil_append] at hfollows
  exact ⟨_, (Episode.Verdict.congr hmem _).mp hfollows.verdict, hstands.activeStatus_eq⟩

theorem phaseStatus_injective : Function.Injective phaseStatus := by
  intro p q h
  cases p <;> cases q <;> first | rfl | cases h

omit [LinearOrder Id] in
/-- The early runs of a scope show each key a beginning of what they all show it. -/
theorem prefix_sightsOf {sights : List (Sight × Stamp Id)} (h : sights <+: sightsOf d k runs) :
    ∃ early, early <+: runs ∧ sightsOf d k early = sights := by
  obtain ⟨later, hlater⟩ := h
  obtain ⟨early, rest, rfl, hearly, -⟩ := List.filterMap_eq_append_iff.mp hlater.symm
  exact ⟨early, List.prefix_append early rest, hearly⟩

/-- Every call leaves the active incidents of a scope as the runs in the order of their completion
would have left them, exactly when each call comes in time. -/
theorem inTimeRun_iff_inOrder (hscope : ∀ run ∈ runs, ∀ x ∈ incidentScopeOf d run, x = s)
    (hid : ∀ r ∈ runs, ∀ r' ∈ runs, r.id = r'.id → r = r') :
    InTimeRun d [] [] runs ↔ ∀ early, early <+: runs → ∀ k,
      activeStatus (handleRuns d [] early) k = activeStatus (handleRuns d [] (inOrder early)) k := by
  rw [inTimeRun_iff [] (sound_nil (s := s)) hscope (e := fun _ => {}) fun k => stands_nil]
  have hstep : ∀ k, Episode.TimelyRun {} (sightsOf d k []) (sightsOf d k runs) ↔
      ∀ sights, sights <+: sightsOf d k runs → Episode.Verdict sights (Episode.seeAll {} sights).phase :=
    fun k => Episode.follows_nil.timelyRun_iff (distinct_sightsOf hid)
  have hearly : ∀ early, early <+: runs → ∀ k,
      (activeStatus (handleRuns d [] early) k = activeStatus (handleRuns d [] (inOrder early)) k ↔
        Episode.Verdict (sightsOf d k early) (Episode.seeAll {} (sightsOf d k early)).phase) := by
    intro early hsub k
    have hscopeEarly : ∀ run ∈ early, ∀ x ∈ incidentScopeOf d run, x = s :=
      fun run hrun => hscope run (hsub.subset hrun)
    have hidEarly : ∀ r ∈ early, ∀ r' ∈ early, r.id = r'.id → r = r' :=
      fun r hr r' hr' => hid r (hsub.subset hr) r' (hsub.subset hr')
    obtain ⟨phase, hverdict, hordered⟩ := inOrder_verdict hscopeEarly hidEarly k
    have hstands := (handleRuns_sound (sound_nil (s := s)) hscopeEarly).2 k {} stands_nil
    rw [hordered, hstands.activeStatus_eq, phaseStatus_injective.eq_iff]
    constructor
    · intro heq
      rwa [heq]
    · intro hactual
      exact hactual.unique hverdict
  constructor
  · intro htimely early hprefix k
    refine (hearly early hprefix k).mpr ((hstep k).mp (htimely k) _ ?_)
    obtain ⟨rest, rfl⟩ := hprefix
    rw [sightsOf_append]
    exact List.prefix_append _ _
  · intro hall k
    refine (hstep k).mpr fun sights hsights => ?_
    obtain ⟨early, hprefix, rfl⟩ := prefix_sightsOf hsights
    exact (hearly early hprefix k).mp (hall early hprefix k)

/-- What a call makes of sound rows. -/
theorem handleRun_rows (hs : Sound s t) (hrun : run ∈ runs) (hrows : ∀ row ∈ t, RowSound runs row) :
    (∀ row ∈ handleRun d t run, RowSound runs row) ∧
      ∀ row ∈ t, ∃ row' ∈ handleRun d t run, row'.id = row.id ∧
        row.lastObserved ≤ row'.lastObserved ∧ row.lastSeen ≤ row'.lastSeen := by
  obtain ⟨g, hg, htable⟩ := effectTable_rows hs run (effectOf d run)
  have hsound := fun row hrow =>
    (hg row hrow).rowSound (hrows row hrow) hrun (fun h => effectOf_healthy h)
  rw [handleRun_eq d hs.nodup]
  have hmapped : ∀ row ∈ t.map g, RowSound runs row := by
    intro row hrow
    obtain ⟨old, hold, rfl⟩ := List.mem_map.mp hrow
    exact (hsound old hold).1
  have hkept : ∀ row ∈ t, ∃ row' ∈ t.map g, row'.id = row.id ∧
      row.lastObserved ≤ row'.lastObserved ∧ row.lastSeen ≤ row'.lastSeen := fun row hrow =>
    ⟨g row, List.mem_map_of_mem hrow, (hg row hrow).kept.2.2, (hsound row hrow).2⟩
  obtain heq | ⟨incidentScope, incidentKey, root, -, heq⟩ := htable
  · rw [heq]
    exact ⟨hmapped, hkept⟩
  · rw [heq]
    constructor
    · intro row hrow
      rcases List.mem_append.mp hrow with hrow | hrow
      · exact hmapped row hrow
      · rw [List.mem_singleton.mp hrow]
        exact ⟨.inl (.inl rfl), le_refl _, fun h => by cases h⟩
    · intro row hrow
      obtain ⟨row', hrow', hkeep⟩ := hkept row hrow
      exact ⟨row', List.mem_append_left _ hrow', hkeep⟩

omit [DecidableEq Digest] in
/-- A failure that an incident records is the latest that it has seen. -/
theorem observation_recorded {a : IncidentRow Id Digest}
    (h : (observation a run .FAILURE).1 = .OPENED ∨ (observation a run .FAILURE).1 = .UPDATED) :
    run.stamp ≤ ((observation a run .FAILURE).2 a).lastSeen := by
  unfold observation at h ⊢
  split at h
  · simp at h
  · rename_i hafter
    rw [if_neg hafter]
    dsimp only at h ⊢
    split at h
    · rename_i hlatest
      exact (failed_lastSeen (isAfter_iff.mp hlatest)).ge
    · simp at h

theorem observeFailure_recorded {incidentScope incidentKey : Digest}
    {root : Option BaselineContourKey} {result : HealthIncidentProcessingResult}
    {t' : List (IncidentRow Id Digest)}
    (h : observeFailure t incidentScope incidentKey run root = .ok (result, t'))
    (haction : result.action = .OPENED ∨ result.action = .UPDATED) :
    ∀ id ∈ result.incidentIds, ∃ row ∈ t', row.id = id ∧ run.stamp ≤ row.lastSeen := by
  unfold observeFailure at h
  cases hactive : activeByKey t incidentKey with
  | some a =>
    rw [hactive] at h
    obtain ⟨ha, -⟩ := activeByKey_some hactive
    obtain ⟨rfl, rfl⟩ := Prod.mk.inj (Except.ok.inj h)
    intro id hid
    rw [List.mem_singleton.mp hid]
    exact ⟨_, List.mem_map.mpr ⟨a, ha.1, if_pos rfl⟩, (observation_kept a a run .FAILURE).2.2,
      observation_recorded haction⟩
  | none =>
    rw [hactive] at h
    dsimp only at h
    split at h
    · cases h
      simp at haction
    · split at h
      · rename_i inserted hinsert
        cases h
        intro id hid
        unfold insertIncident at hinsert
        split at hinsert
        · cases hinsert
        · cases hinsert
          rw [List.mem_singleton.mp hid]
          exact ⟨_, List.mem_append_right _ List.mem_cons_self, rfl, le_refl _⟩
      · cases h

/-- A recorded failure is one that its incident has seen. -/
theorem recorded_step {result : HealthIncidentProcessingResult} {t' : List (IncidentRow Id Digest)}
    (h : processCompletedHealthRun d t run = .ok (result, t'))
    (haction : result.action = .OPENED ∨ result.action = .UPDATED) :
    ∀ id ∈ result.incidentIds, ∃ row ∈ t', row.id = id ∧ run.stamp ≤ row.lastSeen := by
  unfold processCompletedHealthRun at h
  cases hclass : getClassification run with
  | error error =>
    rw [hclass] at h
    cases h
  | ok classified =>
    obtain ⟨classification, suite⟩ := classified
    rw [hclass] at h
    dsimp only [bind, Except.bind] at h
    cases hstate : run.healthState with
    | UNKNOWN =>
      rw [hstate] at h
      cases h
      simp at haction
    | HEALTHY =>
      rw [hstate] at h
      cases h
      dsimp only at haction
      split at haction <;> simp at haction
    | MAINTENANCE =>
      rw [hstate] at h
      cases h
      dsimp only at haction
      split at haction <;> simp at haction
    | _ =>
      rw [hstate] at h
      exact observeFailure_recorded h haction

theorem recorded_mem {rest : List (HealthRun Id)} {entry : Nat × HealthRun Id}
    (h : entry ∈ recordedFailures d t (run :: rest)) :
    (entry.2 = run ∧ ∃ row ∈ handleRun d t run, row.id = entry.1 ∧ run.stamp ≤ row.lastSeen) ∨
      entry ∈ recordedFailures d (handleRun d t run) rest := by
  rw [recordedFailures, List.mem_append] at h
  rcases h with h | h
  · unfold handleRun
    cases hprocess : processCompletedHealthRun d t run with
    | error error =>
      rw [hprocess] at h
      cases h
    | ok processed =>
      obtain ⟨result, t'⟩ := processed
      rw [hprocess] at h
      dsimp only at h
      split at h
      · rename_i haction
        rw [Bool.or_eq_true, decide_eq_true_eq, decide_eq_true_eq] at haction
        obtain ⟨id, hid, rfl⟩ := List.mem_map.mp h
        exact .inl ⟨rfl, recorded_step hprocess haction id hid⟩
      · cases h
  · exact .inr h

/-- What the calls of a scope make of sound rows. -/
theorem handleRuns_rows {all : List (HealthRun Id)} (hs : Sound s t)
    (hscope : ∀ run ∈ runs, ∀ x ∈ incidentScopeOf d run, x = s) (hall : ∀ run ∈ runs, run ∈ all)
    (hrows : ∀ row ∈ t, RowSound all row) :
    (∀ row ∈ handleRuns d t runs, RowSound all row) ∧
      (∀ row ∈ t, ∃ row' ∈ handleRuns d t runs, row'.id = row.id ∧
        row.lastObserved ≤ row'.lastObserved ∧ row.lastSeen ≤ row'.lastSeen) ∧
      ∀ entry ∈ recordedFailures d t runs, ∃ row ∈ handleRuns d t runs, row.id = entry.1 ∧
        entry.2.stamp ≤ row.lastSeen := by
  induction runs generalizing t with
  | nil =>
    refine ⟨hrows, fun row hrow => ⟨row, hrow, rfl, le_refl _, le_refl _⟩, fun entry hentry => ?_⟩
    cases hentry
  | cons run rest ih =>
    have hrun := hscope run List.mem_cons_self
    obtain ⟨hstep, hkept⟩ := handleRun_rows (d := d) hs (hall run List.mem_cons_self) hrows
    obtain ⟨hrowsAfter, hkeptAfter, hrecorded⟩ := ih (handleRun_sound hs hrun)
      (fun other hother => hscope other (List.mem_cons_of_mem _ hother))
      (fun other hother => hall other (List.mem_cons_of_mem _ hother)) hstep
    refine ⟨hrowsAfter, fun row hrow => ?_, fun entry hentry => ?_⟩
    · obtain ⟨row', hrow', hid, hobserved, hseen⟩ := hkept row hrow
      obtain ⟨row'', hrow'', hid', hobserved', hseen'⟩ := hkeptAfter row' hrow'
      exact ⟨row'', hrow'', hid'.trans hid, hobserved.trans hobserved', hseen.trans hseen'⟩
    · rcases recorded_mem hentry with ⟨rfl, row, hrow, hid, hseen⟩ | hlater
      · obtain ⟨row', hrow', hid', -, hseen'⟩ := hkeptAfter row hrow
        exact ⟨row', hrow', hid'.trans hid, hseen.trans hseen'⟩
      · exact hrecorded entry hlater

omit [DecidableEq Digest] in
theorem lastObservedAt_le {row row' : IncidentRow Id Digest}
    (h : row.lastObserved ≤ row'.lastObserved) : row.lastObservedAt ≤ row'.lastObservedAt := by
  rcases Prod.Lex.le_iff.mp h with hlt | ⟨heq, -⟩
  · exact le_of_lt hlt
  · exact le_of_eq heq

/-- The incidents of one scope. Every call leaves them as the runs in the order of their completion
would have, exactly when each call comes in time; and whatever the order, a key has at most one
active incident, no `last_observed_at` goes back, and an incident is resolved by a healthy run that
is later than every failure recorded for it. -/
theorem incidents_in_any_order (d : Digests Digest) (s : Digest) (runs : List (HealthRun Id))
    (hscope : ∀ run ∈ runs, ∀ x ∈ incidentScopeOf d run, x = s)
    (hid : ∀ r ∈ runs, ∀ r' ∈ runs, r.id = r'.id → r = r') :
    (InTimeRun d [] [] runs ↔ ∀ early, early <+: runs → ∀ k,
      activeStatus (handleRuns d [] early) k = activeStatus (handleRuns d [] (inOrder early)) k) ∧
    ∀ early later, runs = early ++ later →
      (∀ row ∈ handleRuns d [] early, ∀ row' ∈ handleRuns d [] early,
        row.incidentKeySha256 = row'.incidentKeySha256 →
        isActiveIncidentStatus row.status = true → isActiveIncidentStatus row'.status = true →
          row = row') ∧
      (∀ row ∈ handleRuns d [] early, ∃ row' ∈ handleRuns d [] runs, row'.id = row.id ∧
        row.lastObservedAt ≤ row'.lastObservedAt) ∧
      ∀ row ∈ handleRuns d [] early, row.status = .RESOLVED →
        ∃ run ∈ early, run.healthState = .HEALTHY ∧ row.resolvedByRunId = some run.id ∧
          row.resolvedAt = some run.completedAt ∧
          ∀ failure, (row.id, failure) ∈ recordedFailures d [] early → failure.stamp < run.stamp := by
  refine ⟨inTimeRun_iff_inOrder hscope hid, ?_⟩
  rintro early later rfl
  have hscopeEarly : ∀ run ∈ early, ∀ x ∈ incidentScopeOf d run, x = s :=
    fun run hrun => hscope run (List.mem_append_left _ hrun)
  have hscopeLater : ∀ run ∈ later, ∀ x ∈ incidentScopeOf d run, x = s :=
    fun run hrun => hscope run (List.mem_append_right _ hrun)
  have hsound := (handleRuns_sound (sound_nil (s := s)) hscopeEarly).1
  obtain ⟨hrows, -, hrecorded⟩ := handleRuns_rows (sound_nil (s := s)) hscopeEarly
    (fun run hrun => hrun) fun row hrow => by cases hrow
  refine ⟨?_, ?_, ?_⟩
  · intro row hrow row' hrow' hkey hactive hactive'
    obtain ⟨e, he⟩ := hsound.stands row.incidentKeySha256
    have hmem : row ∈ rowsOf (handleRuns d [] early) row.incidentKeySha256 := ⟨hrow, rfl⟩
    have hmem' : row' ∈ rowsOf (handleRuns d [] early) row.incidentKeySha256 := ⟨hrow', hkey.symm⟩
    exact he.active_unique hmem hmem' hactive hactive'
  · intro row hrow
    have hall : ∀ row ∈ handleRuns d [] early, RowSound (early ++ later) row := fun row hrow =>
      (hrows row hrow).mono fun run hrun => List.mem_append_left _ hrun
    obtain ⟨-, hkept, -⟩ := handleRuns_rows hsound hscopeLater
      (fun run hrun => List.mem_append_right _ hrun) hall
    obtain ⟨row', hrow', hsame, hobserved, -⟩ := hkept row hrow
    refine ⟨row', ?_, hsame, lastObservedAt_le hobserved⟩
    rw [handleRuns, List.foldl_append]
    exact hrow'
  · intro row hrow hresolved
    obtain ⟨run, hrun, hstate, hby, hat, hseen⟩ := (hrows row hrow).resolved hresolved
    refine ⟨run, hrun, hstate, hby, hat, fun failure hfailure => ?_⟩
    obtain ⟨seen, hseenMem, hsame, hle⟩ := hrecorded _ hfailure
    obtain rfl := List.inj_on_of_nodup_map hsound.nodup hseenMem hrow hsame
    exact hle.trans_lt hseen

/-- A suite of one contour that is required. -/
def rootSuite : HealthSuiteDefinition where
  scope :=
    { adapterFamilyKey := "chat", surfaceKey := "web", variant := none, browserFamily := "chrome"
      profileId := "p", healthSuiteMachineKey := "baseline" }
  contours :=
    [{ key := .C02_CONVERSATION_ROOT, required := true, requiredForVariantIds := []
       failureSeverity := .CORE, absencePolicy := .FORBIDDEN
       primaryStrategyId := .CONVERSATION_ANCHOR, fallbackStrategyIds := [] }]

/-- The result of that contour, with one outcome everywhere. -/
def rootResult (observed : HealthObservationOutcome) (asserted : HealthAssertionOutcome) :
    HealthContourResult where
  contourKey := .C02_CONVERSATION_ROOT
  required := true
  failureSeverity := .CORE
  observationStatus := .PRESENT
  primaryStrategyId := .CONVERSATION_ANCHOR
  primaryStrategyOutcome := observed
  fallbackStrategyOutcomes := []
  selectedStrategyId := some .CONVERSATION_ANCHOR
  structuralOutcome := asserted
  behavioralOutcome := asserted
  fallbackQuality := .NOT_APPLICABLE
  environmentStatus := .VALID
  uncertaintyReason := none

def brokenRun : HealthRun Nat where
  id := 1
  suite := some rootSuite
  results := [rootResult .FAIL .FAIL]
  healthLevel := .H1
  healthState := .BROKEN
  operatorMaintenance := false
  completedAt := 1

def healthyRun : HealthRun Nat where
  id := 2
  suite := some rootSuite
  results := [rootResult .PASS .PASS]
  healthLevel := .H1
  healthState := .HEALTHY
  operatorMaintenance := false
  completedAt := 2

/-- Digests that keep what they digest. -/
def plainDigests : Digests (HealthIncidentScopeIdentity × Option (Option BaselineContourKey)) where
  healthIncidentScopeSha256 identity := (identity, none)
  healthIncidentKeySha256 identity root := (identity, some root)

def rootScope : HealthIncidentScopeIdentity × Option (Option BaselineContourKey) :=
  (healthIncidentScopeIdentity rootSuite.scope .H1, none)

def rootKey : HealthIncidentScopeIdentity × Option (Option BaselineContourKey) :=
  (healthIncidentScopeIdentity rootSuite.scope .H1, some (some .C02_CONVERSATION_ROOT))

theorem incidents_in_order_of_completion :
    (∀ row ∈ handleRuns plainDigests [] [brokenRun, healthyRun], row.status = .RESOLVED) ∧
      (InTimeRun plainDigests [] [] [brokenRun, healthyRun] ↔
        ∀ early, early <+: [brokenRun, healthyRun] → ∀ k,
          activeStatus (handleRuns plainDigests [] early) k =
            activeStatus (handleRuns plainDigests [] (inOrder early)) k) :=
  ⟨by decide +kernel,
    (incidents_in_any_order plainDigests rootScope [brokenRun, healthyRun]
      (by decide +kernel) (by decide +kernel)).1⟩

/-- A failure that is handled after the later healthy run opens an incident that stays open. -/
theorem late_failure_stays_open :
    activeStatus (handleRuns plainDigests [] [healthyRun, brokenRun]) rootKey = some .OPEN ∧
      inOrder [healthyRun, brokenRun] = [brokenRun, healthyRun] ∧
      activeStatus (handleRuns plainDigests [] [brokenRun, healthyRun]) rootKey = none := by
  decide +kernel

end SellerAgents.Health
