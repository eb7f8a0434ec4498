import SellerAgents.Feedback.FunnelLaws

open Ordered

namespace SellerAgents.Feedback

open Js

/-! What a funnel is to count. -/

/-- A record of an entity inside the window. -/
structure Counts (funnel : FeedbackFunnelName) (start stop : Int) (id : String)
    (row : FunnelSignalRecord) : Prop where
  entity : knownEntity funnel row = some id
  start_le : start ≤ row.occurredAt
  lt_stop : row.occurredAt < stop

/-- An entity has records of the stages up to a stage, in increasing order of time and position in
the list, the last of them at a position. -/
inductive Reaches (funnel : FeedbackFunnelName) (start stop : Int) (records : List FunnelSignalRecord)
    (id : String) : Nat → Nat → Prop where
  | entry {p : Nat} {row : FunnelSignalRecord} (at_ : records[p]? = some row)
      (counts : Counts funnel start stop id row)
      (event : (FUNNEL_STAGES funnel)[0]? = some row.event) :
      Reaches funnel start stop records id 0 p
  | next {k p p' : Nat} {row row' : FunnelSignalRecord}
      (earlier : Reaches funnel start stop records id k p) (at_ : records[p]? = some row)
      (at_' : records[p']? = some row') (before : Before (·.occurredAt) (row, p) (row', p'))
      (counts : Counts funnel start stop id row')
      (event : (FUNNEL_STAGES funnel)[k + 1]? = some row'.event) :
      Reaches funnel start stop records id (k + 1) p'

/-- The stages of a calculation, with their maps. -/
def stagesOf (funnel : FeedbackFunnelName) (start stop : Int) (records : List FunnelSignalRecord) :
    List (FeedbackFunnelStage × JsMap String Reached) :=
  reachedStages funnel (sortedRecords start stop records)
    (entryTimes funnel (sortedRecords start stop records)) none (FUNNEL_STAGES funnel)

/-- The record that counts for an entity at a stage. -/
def counted (funnel : FeedbackFunnelName) (start stop : Int) (records : List FunnelSignalRecord)
    (k : Nat) (id : String) : Option FunnelSignalRecord :=
  ((stagesOf funnel start stop records)[k]?.bind fun stage => stage.2.get id).map Prod.fst

section Window

variable (funnel : FeedbackFunnelName) (start stop : Int) (records : List FunnelSignalRecord)

theorem sortedRecords_timed : Timed (sortedRecords start stop records) := pairwise_byKey _ _

/-- The sorted rows with their positions in the list. -/
def placed : List Reached :=
  byKey (fun found => found.1.occurredAt)
    (records.zipIdx.filter fun found => start ≤ found.1.occurredAt && found.1.occurredAt < stop)

theorem map_fst_placed : (placed start stop records).map Prod.fst = sortedRecords start stop records := by
  unfold placed sortedRecords
  rw [map_fst_byKey (fun row : FunnelSignalRecord => row.occurredAt)]
  congr 1
  conv_rhs => rw [← List.zipIdx_map_fst 0 records, List.filter_map]
  rfl

theorem mem_placed {row : FunnelSignalRecord} {p : Nat} : (row, p) ∈ placed start stop records ↔
    records[p]? = some row ∧ start ≤ row.occurredAt ∧ row.occurredAt < stop := by
  unfold placed
  rw [(byKey_perm _ _).mem_iff, List.mem_filter, List.mem_zipIdx_iff_getElem?]
  simp

theorem pairwise_placed : (placed start stop records).Pairwise (Before (·.occurredAt)) :=
  pairwise_before ((pairwise_zipIdx records).filter _)

variable {funnel start stop records}

theorem index_lt {i i' : Nat} {found found' : Reached} (h : (placed start stop records)[i]? = some found)
    (h' : (placed start stop records)[i']? = some found')
    (hbefore : Before (·.occurredAt) found found') : i < i' := by
  by_contra hnot
  rcases Nat.lt_or_eq_of_le (Nat.le_of_not_lt hnot) with hlt | heq
  · obtain ⟨hi, rfl⟩ := List.getElem?_eq_some_iff.mp h
    obtain ⟨hi', rfl⟩ := List.getElem?_eq_some_iff.mp h'
    exact hbefore.asymm
      (List.pairwise_iff_getElem.mp (pairwise_placed start stop records) i' i hi' hi hlt)
  · rw [heq, h] at h'
    cases h'
    exact hbefore.asymm hbefore

theorem before_of_index {i i' : Nat} {found found' : Reached}
    (h : (placed start stop records)[i]? = some found)
    (h' : (placed start stop records)[i']? = some found') (hlt : i < i') :
    Before (·.occurredAt) found found' := by
  obtain ⟨hi, rfl⟩ := List.getElem?_eq_some_iff.mp h
  obtain ⟨hi', rfl⟩ := List.getElem?_eq_some_iff.mp h'
  exact List.pairwise_iff_getElem.mp (pairwise_placed start stop records) i i' hi hi' hlt

theorem sortedRecords_getElem? {i : Nat} {row : FunnelSignalRecord}
    (h : (sortedRecords start stop records)[i]? = some row) :
    ∃ p, (placed start stop records)[i]? = some (row, p) := by
  rw [← map_fst_placed, List.getElem?_map] at h
  obtain ⟨found, hfound, rfl⟩ := Option.map_eq_some_iff.mp h
  exact ⟨found.2, hfound⟩

/-- The chains of the list are those of the sorted rows. -/
theorem endsAt_of_reaches {id : String} {k p : Nat} (h : Reaches funnel start stop records id k p) :
    ∃ i row, (placed start stop records)[i]? = some (row, p) ∧
      EndsAt (inStage funnel id) (sortedRecords start stop records) k i := by
  have hplace : ∀ {p row}, records[p]? = some row → Counts funnel start stop id row →
      ∃ i : Nat, (placed start stop records)[i]? = some (row, p) ∧
        (sortedRecords start stop records)[i]? = some row := by
    intro p row hrow hcounts
    have hmem : (row, p) ∈ placed start stop records :=
      (mem_placed start stop records).mpr ⟨hrow, hcounts.start_le, hcounts.lt_stop⟩
    obtain ⟨i, hi⟩ := List.mem_iff_getElem?.mp hmem
    refine ⟨i, hi, ?_⟩
    rw [← map_fst_placed, List.getElem?_map, hi]
    rfl
  induction h with
  | entry at_ counts event =>
    obtain ⟨i, hi, hrow⟩ := hplace at_ counts
    exact ⟨i, _, hi, .start hrow (inStage_iff.mpr ⟨event, counts.entity⟩)⟩
  | next earlier at_ at_' before counts event ih =>
    obtain ⟨j, found, hj, hends⟩ := ih
    obtain ⟨i, hi, hrow⟩ := hplace at_' counts
    have hfound : records[_]? = some found :=
      ((mem_placed start stop records).mp (List.mem_of_getElem? hj)).1
    rw [at_, Option.some.injEq] at hfound
    rw [← hfound] at hj
    exact ⟨i, _, hi, .next hends (index_lt hj hi before) hrow (inStage_iff.mpr ⟨event, counts.entity⟩)⟩

theorem reaches_of_endsAt {id : String} {k i : Nat}
    (h : EndsAt (inStage funnel id) (sortedRecords start stop records) k i) :
    ∀ row p, (placed start stop records)[i]? = some (row, p) →
      Reaches funnel start stop records id k p := by
  have hsame : ∀ {i : Nat} {a row : FunnelSignalRecord} {p : Nat},
      (sortedRecords start stop records)[i]? = some a →
      (placed start stop records)[i]? = some (row, p) → a = row := by
    intro i a row p ha hrow
    rw [← map_fst_placed, List.getElem?_map, hrow] at ha
    exact (Option.some.inj ha).symm
  have hcounts : ∀ {i : Nat} {row : FunnelSignalRecord} {p : Nat},
      (placed start stop records)[i]? = some (row, p) → knownEntity funnel row = some id →
      records[p]? = some row ∧ Counts funnel start stop id row := by
    intro i row p hrow hentity
    obtain ⟨hget, hstart, hstop⟩ := (mem_placed start stop records).mp (List.mem_of_getElem? hrow)
    exact ⟨hget, hentity, hstart, hstop⟩
  induction h with
  | start at_ holds =>
    intro row p hrow
    obtain rfl := hsame at_ hrow
    obtain ⟨hevent, hentity⟩ := inStage_iff.mp holds
    obtain ⟨hget, hcount⟩ := hcounts hrow hentity
    exact .entry hget hcount hevent
  | next earlier later at_ holds ih =>
    intro row p hrow
    obtain rfl := hsame at_ hrow
    obtain ⟨hevent, hentity⟩ := inStage_iff.mp holds
    obtain ⟨hget, hcount⟩ := hcounts hrow hentity
    obtain ⟨previous, hprevious, -⟩ := earlier.holds
    obtain ⟨p', hp'⟩ := sortedRecords_getElem? hprevious
    have hget' := ((mem_placed start stop records).mp (List.mem_of_getElem? hp')).1
    exact .next (ih previous p' hp') hget' hget (before_of_index hp' hrow later) hcount hevent

end Window

/-! The maps that the metrics are computed from. -/

section Stages

variable {funnel : FeedbackFunnelName} {rows : List FunnelSignalRecord}

/-- The map that the loop hands to a stage. -/
def Hands (funnel : FeedbackFunnelName) (rows : List FunnelSignalRecord)
    (previous : Option (JsMap String Reached)) : Nat → Prop
  | 0 => previous = none
  | k + 1 => ∃ reached, previous = some reached ∧ ∀ id, reached.get id = located funnel rows id k

theorem get_reachedStages (htimed : Timed rows) {stages : List FeedbackFunnelStage} {n : Nat}
    (hstages : stages = (FUNNEL_STAGES funnel).drop n) {previous : Option (JsMap String Reached)}
    (hprevious : Hands funnel rows previous n) {k : Nat} {stage : FeedbackFunnelStage}
    {reached : JsMap String Reached}
    (h : (reachedStages funnel rows (entryTimes funnel rows) previous stages)[k]? =
      some (stage, reached)) :
    ∀ id, reached.get id = located funnel rows id (n + k) := by
  induction stages generalizing n previous k with
  | nil => cases h
  | cons first rest ih =>
    have hfirst : (FUNNEL_STAGES funnel)[n]? = some first := by
      have hget := congrArg (·[0]?) hstages
      simpa using hget.symm
    have hrest : rest = (FUNNEL_STAGES funnel).drop (n + 1) := by
      have htail := congrArg List.tail hstages
      simpa using htail
    have hstep : ∀ id, (perEntity funnel rows (entryTimes funnel rows) previous first).get id =
        located funnel rows id n := by
      intro id
      cases n with
      | zero =>
        obtain rfl := hprevious
        exact get_perEntity_first hfirst htimed
      | succ n =>
        obtain ⟨before, rfl, hbefore⟩ := hprevious
        exact get_perEntity_next hfirst htimed (hbefore id)
    cases k with
    | zero =>
      cases h
      exact hstep
    | succ k =>
      rw [reachedStages, List.getElem?_cons_succ] at h
      have hnext := ih hrest (show Hands funnel rows _ (n + 1) from ⟨_, rfl, hstep⟩) h
      rwa [Nat.add_right_comm] at hnext

theorem length_reachedStages {entry : JsMap String Int} {stages : List FeedbackFunnelStage}
    {previous : Option (JsMap String Reached)} :
    (reachedStages funnel rows entry previous stages).length = stages.length := by
  induction stages generalizing previous with
  | nil => rfl
  | cons stage stages ih =>
    rw [reachedStages, List.length_cons, ih, List.length_cons]

/-- The size of the map before a stage. -/
def previousSize (previous : Option Nat) (l : List (FeedbackFunnelStage × JsMap String Reached)) :
    Nat → Option Nat
  | 0 => previous
  | k + 1 => l[k]?.map fun stage => stage.2.size

theorem getElem?_stageMetrics {entry : JsMap String Int} {previous : Option Nat}
    {l : List (FeedbackFunnelStage × JsMap String Reached)} {k : Nat}
    {metric : FeedbackFunnelStageMetric} (h : (stageMetrics entry previous l)[k]? = some metric) :
    ∃ stage reached, l[k]? = some (stage, reached) ∧
      metric = stageMetric entry (previousSize previous l k) stage reached := by
  induction l generalizing previous k with
  | nil => cases h
  | cons first rest ih =>
    obtain ⟨stage, reached⟩ := first
    rw [stageMetrics] at h
    cases k with
    | zero =>
      cases h
      exact ⟨stage, reached, rfl, rfl⟩
    | succ k =>
      rw [List.getElem?_cons_succ] at h
      obtain ⟨stage', reached', hget, hmetric⟩ := ih h
      refine ⟨stage', reached', hget, ?_⟩
      cases k with
      | zero => exact hmetric
      | succ k => exact hmetric

end Stages

/-! The bounds of the measures. -/

theorem conversion_bounds {count total : Nat} (h : count ≤ total) {value : ℚ}
    (hvalue : conversion count total = some value) : 0 ≤ value ∧ value ≤ 1 := by
  unfold conversion at hvalue
  split at hvalue
  · cases hvalue
  · rename_i hzero
    obtain rfl := Option.some.inj hvalue
    have hpos : (0 : ℚ) < total := by exact_mod_cast Nat.pos_of_ne_zero hzero
    have hle : (count : ℚ) ≤ total := by exact_mod_cast h
    exact ⟨by positivity, (div_le_one hpos).mpr hle⟩

theorem percentile_nonneg {values : List ℚ} (h : ∀ value ∈ values, 0 ≤ value) {fraction value : ℚ}
    (hvalue : percentile values fraction = some value) : 0 ≤ value := by
  have hsorted : ∀ value ∈ values.mergeSort fun a b => decide (a ≤ b), 0 ≤ value :=
    fun value hmem => h value ((List.mergeSort_perm _ _).mem_iff.mp hmem)
  have hgetD : ∀ i, 0 ≤ (values.mergeSort fun a b => decide (a ≤ b)).getD i 0 := by
    intro i
    rw [List.getD_eq_getElem?_getD]
    cases hget : (values.mergeSort fun a b => decide (a ≤ b))[i]? with
    | none => exact le_refl _
    | some value => exact hsorted value (List.mem_of_getElem? hget)
  unfold percentile at hvalue
  split at hvalue
  · cases hvalue
  · dsimp only at hvalue
    split at hvalue
    · obtain rfl := Option.some.inj hvalue
      have hlow := hgetD ((values.mergeSort fun a b => decide (a ≤ b)).length / 2 - 1)
      have hhigh := hgetD ((values.mergeSort fun a b => decide (a ≤ b)).length / 2)
      linarith
    · exact hsorted value (List.mem_of_getElem? hvalue)

theorem ncard_keys {α : Type} (m : JsMap String α) : Set.ncard {id | (m.get id).isSome} = m.size := by
  have hkeys : {id | (m.get id).isSome} = ↑(m.entries.map Prod.fst).toFinset := by
    ext id
    rw [Set.mem_ofPred_eq, Finset.mem_coe, List.mem_toFinset, List.mem_map, Option.isSome_iff_exists]
    constructor
    · rintro ⟨value, hget⟩
      exact ⟨(id, value), Properties.mem_of_get hget, rfl⟩
    · rintro ⟨entry, hmem, rfl⟩
      exact ⟨entry.2, Properties.get_of_mem m.nodup hmem⟩
  rw [hkeys, Set.ncard_coe_finset, List.toFinset_card_of_nodup m.nodup, List.length_map]
  rfl

theorem size_le_of_keys {α β : Type} {m : JsMap String α} {m' : JsMap String β}
    (h : ∀ id, (m.get id).isSome → (m'.get id).isSome) : m.size ≤ m'.size := by
  rw [← ncard_keys, ← ncard_keys]
  refine Set.ncard_le_ncard h ?_
  refine (m'.entries.map Prod.fst).toFinset.finite_toSet.subset fun id hid => ?_
  obtain ⟨value, hget⟩ := Option.isSome_iff_exists.mp hid
  rw [Finset.mem_coe, List.mem_toFinset]
  exact List.mem_map.mpr ⟨_, Properties.mem_of_get hget, rfl⟩

/-- No entity is in a stage before it has entered. -/
theorem entered_before {funnel : FeedbackFunnelName} {rows : List FunnelSignalRecord} {id : String}
    (htimed : Timed rows) {k : Nat} {found : FunnelSignalRecord × List FunnelSignalRecord}
    (h : chain (inStage funnel id) rows k = some found) :
    ∃ start, (entryTimes funnel rows).get id = some start ∧ start ≤ found.1.occurredAt := by
  induction k generalizing found with
  | zero =>
    rw [chain] at h
    refine ⟨found.1.occurredAt, ?_, le_refl _⟩
    rw [get_entryTimes, h]
    rfl
  | succ k ih =>
    rw [chain] at h
    obtain ⟨previous, hprevious, hnext⟩ := Option.bind_eq_some_iff.mp h
    obtain ⟨start, hstart, hle⟩ := ih hprevious
    obtain ⟨before, hrows, -, -⟩ := (chain_spec k).1 previous.1 previous.2 hprevious
    obtain ⟨between, htail, -, -⟩ := first_eq_some hnext
    rw [Timed, hrows, List.pairwise_append, List.pairwise_cons] at htimed
    have hlater := htimed.2.1.1 found.1 (by rw [htail]; simp)
    exact ⟨start, hstart, by omega⟩

end SellerAgents.Feedback
