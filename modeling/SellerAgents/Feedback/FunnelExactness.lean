import SellerAgents.Feedback.FunnelCounts

open Ordered

namespace SellerAgents.Feedback

open Js

section Exactness

variable {funnel : FeedbackFunnelName} {start stop : Int} {records : List FunnelSignalRecord}

variable {stage : FeedbackFunnelStage} {reached : JsMap String Reached} {k : Nat} {id : String}

theorem get_stagesOf (h : (stagesOf funnel start stop records)[k]? = some (stage, reached))
    (id : String) :
    reached.get id = located funnel (sortedRecords start stop records) id k := by
  have hspec := get_reachedStages (sortedRecords_timed start stop records) (n := 0) rfl rfl h id
  rwa [Nat.zero_add] at hspec

theorem located_isSome :
    (located funnel (sortedRecords start stop records) id k).isSome ↔
      ∃ p, Reaches funnel start stop records id k p := by
  unfold located
  rw [Option.isSome_map]
  constructor
  · intro h
    obtain ⟨found, hfound⟩ := Option.isSome_iff_exists.mp h
    obtain ⟨before, -, hends, -⟩ := (chain_spec k).1 found.1 found.2 hfound
    obtain ⟨row, hrow, -⟩ := hends.holds
    obtain ⟨p, hp⟩ := sortedRecords_getElem? hrow
    exact ⟨p, reaches_of_endsAt hends row p hp⟩
  · rintro ⟨p, hp⟩
    obtain ⟨i, row, -, hends⟩ := endsAt_of_reaches hp
    cases hchain : chain (inStage funnel id) (sortedRecords start stop records) k with
    | none => exact absurd hends ((chain_spec k).2 hchain i)
    | some found => rfl

theorem stage_isSome (h : (stagesOf funnel start stop records)[k]? = some (stage, reached))
    (id : String) :
    (reached.get id).isSome ↔ ∃ p, Reaches funnel start stop records id k p := by
  rw [get_stagesOf h, located_isSome]

theorem entry_isSome (id : String) :
    ((entryTimes funnel (sortedRecords start stop records)).get id).isSome ↔
      ∃ p, Reaches funnel start stop records id 0 p := by
  rw [← located_isSome, get_entryTimes, located, Option.isSome_map, Option.isSome_map, chain]

theorem Reaches.earlier {p : Nat} (h : Reaches funnel start stop records id (k + 1) p) :
    ∃ p', Reaches funnel start stop records id k p' := by
  cases h with
  | next earlier _ _ _ _ _ => exact ⟨_, earlier⟩

theorem Reaches.entered {p : Nat} (h : Reaches funnel start stop records id k p) :
    ∃ p', Reaches funnel start stop records id 0 p' := by
  induction k generalizing p with
  | zero => exact ⟨p, h⟩
  | succ k ih =>
    obtain ⟨p', hp'⟩ := h.earlier
    exact ih hp'

theorem counted_eq_chain (k : Nat) (id : String) : counted funnel start stop records k id =
    (chain (inStage funnel id) (sortedRecords start stop records) k).map Prod.fst := by
  unfold counted
  cases hstage : (stagesOf funnel start stop records)[k]? with
  | some stage =>
    obtain ⟨stage, reached⟩ := stage
    rw [Option.bind_some, get_stagesOf hstage, located, Option.map_map]
    rfl
  | none =>
    have hlength := List.getElem?_eq_none_iff.mp hstage
    rw [stagesOf, length_reachedStages] at hlength
    rw [Option.bind_none, Option.map_none]
    cases hchain : chain (inStage funnel id) (sortedRecords start stop records) k with
    | none => rfl
    | some found =>
      obtain ⟨before, -, hends, -⟩ := (chain_spec k).1 found.1 found.2 hchain
      obtain ⟨row, -, hin⟩ := hends.holds
      have hevent := (inStage_iff.mp hin).1
      rw [List.getElem?_eq_none hlength] at hevent
      cases hevent

/-- The row that is counted ends the earliest of the chains. -/
theorem counted_eq_some {row : FunnelSignalRecord} :
    counted funnel start stop records k id = some row ↔
      ∃ p, records[p]? = some row ∧ Reaches funnel start stop records id k p ∧
        ∀ p' row', Reaches funnel start stop records id k p' → records[p']? = some row' →
          p' = p ∨ Before (·.occurredAt) (row, p) (row', p') := by
  rw [counted_eq_chain, Option.map_eq_some_iff]
  constructor
  · rintro ⟨found, hchain, rfl⟩
    obtain ⟨before, hrows, hends, hleast⟩ := (chain_spec k).1 found.1 found.2 hchain
    have hrow : (sortedRecords start stop records)[before.length]? = some found.1 := by
      rw [hrows]
      simp
    obtain ⟨p, hp⟩ := sortedRecords_getElem? hrow
    refine ⟨p, ((mem_placed start stop records).mp (List.mem_of_getElem? hp)).1,
      reaches_of_endsAt hends _ p hp, fun p' row' hreaches hrow' => ?_⟩
    obtain ⟨i, other, hi, hends'⟩ := endsAt_of_reaches hreaches
    have hother := ((mem_placed start stop records).mp (List.mem_of_getElem? hi)).1
    rw [hrow', Option.some.injEq] at hother
    rw [← hother] at hi
    rcases Nat.lt_or_eq_of_le (hleast i hends') with hlt | heq
    · exact .inr (before_of_index hp hi hlt)
    · rw [← heq, hp] at hi
      cases hi
      exact .inl rfl
  · rintro ⟨p, hrow, hreaches, hleast⟩
    obtain ⟨i, other, hi, hends⟩ := endsAt_of_reaches hreaches
    have hother := ((mem_placed start stop records).mp (List.mem_of_getElem? hi)).1
    rw [hrow, Option.some.injEq] at hother
    rw [← hother] at hi
    cases hchain : chain (inStage funnel id) (sortedRecords start stop records) k with
    | none => exact absurd hends ((chain_spec k).2 hchain i)
    | some found =>
      refine ⟨found, rfl, ?_⟩
      obtain ⟨before, hrows, hends', hleast'⟩ := (chain_spec k).1 found.1 found.2 hchain
      have hfirst : (sortedRecords start stop records)[before.length]? = some found.1 := by
        rw [hrows]
        simp
      obtain ⟨p', hp'⟩ := sortedRecords_getElem? hfirst
      have hget := ((mem_placed start stop records).mp (List.mem_of_getElem? hp')).1
      rcases hleast p' found.1 (reaches_of_endsAt hends' _ p' hp') hget with rfl | hbefore
      · rw [hrow, Option.some.injEq] at hget
        exact hget.symm
      · have hlt := index_lt hi hp' hbefore
        have hle := hleast' i hends
        omega

/-- What is counted for an entity depends on its own records alone. -/
theorem counted_own {records' : List FunnelSignalRecord}
    (h : (records'.filter fun row => knownEntity funnel row = some id) =
      records.filter fun row => knownEntity funnel row = some id) (k : Nat) :
    counted funnel start stop records' k id = counted funnel start stop records k id := by
  have hown : ∀ l : List FunnelSignalRecord, counted funnel start stop l k id =
      counted funnel start stop (l.filter fun row => knownEntity funnel row = some id) k id := by
    intro l
    have hfilter : sortedRecords start stop (l.filter fun row => knownEntity funnel row = some id) =
        (sortedRecords start stop l).filter fun row => knownEntity funnel row = some id := by
      unfold sortedRecords
      rw [filter_byKey, List.filter_filter, List.filter_filter]
      congr 2
      funext row
      exact Bool.and_comm _ _
    rw [counted_eq_chain, counted_eq_chain, hfilter, chain_filter, Option.map_map]
    · rfl
    · intro k row hin
      simpa using (inStage_iff.mp hin).2
  rw [hown records', hown records, h]

/-! The measures of a stage. -/

/-- What a measure of a stage says. Conversions, durations and percentiles are exact rationals,
where the source rounds to binary64. -/
structure Exact (funnel : FeedbackFunnelName) (start stop : Int) (records : List FunnelSignalRecord)
    (k : Nat) (metric : FeedbackFunnelStageMetric) : Prop where
  reached : metric.reachedCount =
    Set.ncard {id | ∃ p, Reaches funnel start stop records id k p}
  fromPrevious : ∀ value ∈ metric.conversionFromPrevious, 0 ≤ value ∧ value ≤ 1
  cumulative : ∀ value ∈ metric.cumulativeConversion, 0 ≤ value ∧ value ≤ 1
  durations : ∀ stage reached, (stagesOf funnel start stop records)[k]? = some (stage, reached) →
    ∀ value ∈ durations (entryTimes funnel (sortedRecords start stop records)) reached, 0 ≤ value
  median : ∀ value ∈ metric.medianSeconds, 0 ≤ value
  p90 : ∀ value ∈ metric.p90Seconds, 0 ≤ value

theorem durations_nonneg (h : (stagesOf funnel start stop records)[k]? = some (stage, reached)) :
    ∀ value ∈ durations (entryTimes funnel (sortedRecords start stop records)) reached, 0 ≤ value := by
  intro value hvalue
  obtain ⟨⟨id, row, i⟩, hmem, rfl⟩ := List.mem_map.mp hvalue
  have hget := Properties.get_of_mem reached.nodup hmem
  have hlocated := (get_stagesOf h id).symm.trans hget
  obtain ⟨found, hchain, hfound⟩ := Option.map_eq_some_iff.mp hlocated
  obtain ⟨entered, hentered, hle⟩ := entered_before (sortedRecords_timed start stop records) hchain
  have hrow : found.1 = row := congrArg Prod.fst hfound
  have hpos : (0 : ℚ) ≤ ((row.occurredAt - entered : Int) : ℚ) := by
    rw [hrow] at hle
    exact_mod_cast Int.sub_nonneg.mpr hle
  dsimp only
  rw [hentered, Option.getD_some]
  exact div_nonneg hpos (by norm_num)

theorem size_of_stage (h : (stagesOf funnel start stop records)[k]? = some (stage, reached)) :
    reached.size = Set.ncard {id | ∃ p, Reaches funnel start stop records id k p} := by
  rw [← ncard_keys]
  congr 1
  ext id
  exact stage_isSome h id

theorem exact_of_metric {metric : FeedbackFunnelStageMetric}
    (h : (calculateFunnel funnel start stop records).stages[k]? = some metric) :
    Exact funnel start stop records k metric := by
  obtain ⟨stage, reached, hstage, rfl⟩ := getElem?_stageMetrics
    (l := stagesOf funnel start stop records) h
  have hentry : reached.size ≤ (entryTimes funnel (sortedRecords start stop records)).size := by
    refine size_le_of_keys fun id hid => ?_
    obtain ⟨p, hp⟩ := (stage_isSome hstage id).mp hid
    exact (entry_isSome id).mpr hp.entered
  refine ⟨size_of_stage hstage, ?_, ?_, fun _ _ hstage => durations_nonneg hstage, ?_, ?_⟩
  · intro value hvalue
    cases k with
    | zero =>
      simp only [stageMetric, previousSize] at hvalue
      split at hvalue
      · cases hvalue
      · obtain rfl := Option.some.inj hvalue
        norm_num
    | succ k =>
      cases hprevious : (stagesOf funnel start stop records)[k]? with
      | none =>
        have hlength := List.getElem?_eq_none_iff.mp hprevious
        rw [List.getElem?_eq_none (by omega)] at hstage
        cases hstage
      | some before =>
        obtain ⟨stage', reached'⟩ := before
        have hle : reached.size ≤ reached'.size := by
          refine size_le_of_keys fun id hid => ?_
          obtain ⟨p, hp⟩ := (stage_isSome hstage id).mp hid
          exact (stage_isSome hprevious id).mpr hp.earlier
        simp only [stageMetric, previousSize, hprevious, Option.map_some] at hvalue
        exact conversion_bounds hle hvalue
  · exact fun value hvalue => conversion_bounds hentry hvalue
  · exact fun value hvalue => percentile_nonneg (durations_nonneg hstage) hvalue
  · exact fun value hvalue => percentile_nonneg (durations_nonneg hstage) hvalue

end Exactness

theorem map_stage_reachedStages (funnel : FeedbackFunnelName) (rows : List FunnelSignalRecord)
    (entry : JsMap String Int) (stages : List FeedbackFunnelStage)
    (previous : Option (JsMap String Reached)) (count : Option Nat) :
    (stageMetrics entry count (reachedStages funnel rows entry previous stages)).map (·.stage) =
      stages := by
  induction stages generalizing previous count with
  | nil => rfl
  | cons stage stages ih =>
    rw [reachedStages, stageMetrics, List.map_cons, ih]
    rfl

/-- A funnel counts at each stage the entities with a chain of records up to it, each with the
earliest record that ends one, and no entity by the records of another. -/
theorem funnel_counts_exact (funnel : FeedbackFunnelName) (start stop : Int)
    (records : List FunnelSignalRecord) :
    (calculateFunnel funnel start stop records).stages.map (·.stage) = FUNNEL_STAGES funnel ∧
    (∀ k metric, (calculateFunnel funnel start stop records).stages[k]? = some metric →
      Exact funnel start stop records k metric) ∧
    (∀ k id row, counted funnel start stop records k id = some row ↔
      ∃ p, records[p]? = some row ∧ Reaches funnel start stop records id k p ∧
        ∀ p' row', Reaches funnel start stop records id k p' → records[p']? = some row' →
          p' = p ∨ Before (·.occurredAt) (row, p) (row', p')) ∧
    (∀ k metric metric', (calculateFunnel funnel start stop records).stages[k]? = some metric →
      (calculateFunnel funnel start stop records).stages[k + 1]? = some metric' →
        metric'.reachedCount ≤ metric.reachedCount) ∧
    ∀ id records', (records'.filter fun row => knownEntity funnel row = some id) =
        (records.filter fun row => knownEntity funnel row = some id) →
      ∀ k, counted funnel start stop records' k id = counted funnel start stop records k id := by
  refine ⟨map_stage_reachedStages _ _ _ _ _ _, fun k metric => exact_of_metric, fun k id row => counted_eq_some, ?_,
    fun id records' hsame k => counted_own hsame k⟩
  intro k metric metric' h h'
  obtain ⟨stage, reached, hstage, rfl⟩ := getElem?_stageMetrics
    (l := stagesOf funnel start stop records) h
  obtain ⟨stage', reached', hstage', rfl⟩ := getElem?_stageMetrics
    (l := stagesOf funnel start stop records) h'
  refine size_le_of_keys fun id hid => ?_
  obtain ⟨p, hp⟩ := (stage_isSome hstage' id).mp hid
  exact (stage_isSome hstage id).mpr hp.earlier

end SellerAgents.Feedback
