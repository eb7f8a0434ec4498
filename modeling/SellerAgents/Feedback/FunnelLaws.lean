import Mathlib.Data.Set.Card
import SellerAgents.Feedback.Funnels
import SellerAgents.Ordered.Chains

open Ordered

namespace SellerAgents.Feedback

open Js

/-! What the loops of a stage keep for one entity. -/

variable {k : Nat} {β ρ : Type}

theorem get_keepFirst (pick : β → Option (String × ρ)) (kept : JsMap String ρ) (row : β)
    (id : String) : (keepFirst pick kept row).get id = (kept.get id).or
      ((pick row).bind fun found => if found.1 = id then some found.2 else none) := by
  unfold keepFirst
  cases pick row with
  | none => simp
  | some found =>
    obtain ⟨other, value⟩ := found
    dsimp only [Option.bind_some]
    by_cases hother : other = id
    · subst hother
      rw [if_pos rfl]
      cases hkept : kept.get other with
      | some old => simp [JsMap.has, hkept]
      | none => simp [JsMap.has, hkept]
    · rw [if_neg hother, Option.or_none]
      split
      · rfl
      · rw [JsMap.get_set_other _ _ (Ne.symm hother)]

theorem get_firstOfEach (pick : β → Option (String × ρ)) (rows : List β) (id : String) :
    (firstOfEach pick rows).get id = rows.findSome? fun row =>
      (pick row).bind fun found => if found.1 = id then some found.2 else none := by
  have hfold : ∀ kept : JsMap String ρ, (rows.foldl (keepFirst pick) kept).get id =
      (kept.get id).or (rows.findSome? fun row =>
        (pick row).bind fun found => if found.1 = id then some found.2 else none) := by
    induction rows with
    | nil => simp
    | cons row rows ih =>
      intro kept
      rw [List.foldl_cons, ih, get_keepFirst, List.findSome?_cons, Option.or_assoc]
      congr 1
      cases (pick row).bind fun found => if found.1 = id then some found.2 else none with
      | none => rfl
      | some value => rfl
  rw [firstOfEach, hfold, JsMap.get_empty, Option.none_or]

variable {funnel : FeedbackFunnelName} {rows : List FunnelSignalRecord} {id : String}

/-- A row of an entity for the stage of a number. -/
def inStage (funnel : FeedbackFunnelName) (id : String) (k : Nat) (row : FunnelSignalRecord) : Bool :=
  (FUNNEL_STAGES funnel)[k]? = some row.event && knownEntity funnel row = some id

theorem inStage_iff {row : FunnelSignalRecord} : inStage funnel id k row = true ↔
    (FUNNEL_STAGES funnel)[k]? = some row.event ∧ knownEntity funnel row = some id := by
  simp [inStage]

/-- The row that an entity reaches a stage with, and its index, when it takes every stage as early
as it can. -/
def located (funnel : FeedbackFunnelName) (rows : List FunnelSignalRecord) (id : String) (k : Nat) :
    Option Reached :=
  (chain (inStage funnel id) rows k).map fun found => (found.1, rows.length - found.2.length - 1)

theorem findSome?_zipIdx (q : FunnelSignalRecord → Bool) (n s : Nat) :
    ((rows.zipIdx s).findSome? fun found => if q found.1 && n ≤ found.2 then some found else none) =
      (first q (rows.drop (n - s))).map fun found =>
        (found.1, s + rows.length - found.2.length - 1) := by
  induction rows generalizing s with
  | nil => simp [first]
  | cons row rows ih =>
    rw [List.zipIdx_cons, List.findSome?_cons]
    by_cases hn : n ≤ s
    · rw [show n - s = 0 by omega, List.drop_zero, first]
      by_cases hq : q row = true
      · rw [if_pos (by simp [hq, hn]), if_pos hq]
        simp only [Option.map_some, List.length_cons]
        congr 2
        omega
      · rw [if_neg (by simp [hq]), if_neg hq, ih, show n - (s + 1) = 0 by omega, List.drop_zero]
        simp only [List.length_cons]
        congr 2
        ext found
        · rfl
        · simp only
          omega
    · rw [if_neg (by simp [hn]), ih, show n - s = n - (s + 1) + 1 by omega, List.drop_succ_cons]
      simp only [List.length_cons]
      congr 2
      ext found
      · rfl
      · simp only
        omega

theorem findSome?_eq_first (q : FunnelSignalRecord → Bool) (f : FunnelSignalRecord → β)
    (l : List FunnelSignalRecord) :
    (l.findSome? fun row => if q row then some (f row) else none) =
      (first q l).map fun found => f found.1 := by
  induction l with
  | nil => rfl
  | cons row l ih =>
    rw [List.findSome?_cons, first]
    by_cases hq : q row = true
    · rw [if_pos hq, if_pos hq]
      rfl
    · rw [if_neg hq, if_neg hq]
      exact ih

theorem get_entryTimes (funnel : FeedbackFunnelName) (rows : List FunnelSignalRecord) (id : String) :
    (entryTimes funnel rows).get id =
      (first (inStage funnel id 0) rows).map fun found => found.1.occurredAt := by
  unfold entryTimes
  rw [get_firstOfEach, ← findSome?_eq_first]
  congr 1
  funext row
  unfold inStage
  rw [← List.head?_eq_getElem?]
  cases knownEntity funnel row with
  | none => simp
  | some other =>
    by_cases hevent : (FUNNEL_STAGES funnel).head? = some row.event
    · by_cases hother : other = id <;> simp [hevent, hother]
    · simp [hevent]

/-! A row that is taken for a stage, or not. -/

section Stage

variable {entry : JsMap String Int} {stage : FeedbackFunnelStage} {row : FunnelSignalRecord}
  {rowIndex : Nat}

theorem reachedBy_first : ((reachedBy funnel entry none stage row rowIndex).bind fun found =>
    if found.1 = id then some found.2 else none) =
      if row.event = stage ∧ knownEntity funnel row = some id then
        (entry.get id).bind fun start =>
          if row.occurredAt < start then none else some (row, rowIndex)
      else none := by
  unfold reachedBy
  by_cases hevent : row.event = stage
  · cases hknown : knownEntity funnel row with
    | none => simp
    | some other =>
      cases hentry : entry.get other with
      | none =>
        by_cases hother : other = id
        · simp [← hother, hentry]
        · simp [hother, hentry]
      | some start =>
        by_cases hother : other = id
        · by_cases hlt : row.occurredAt < start <;> simp [hevent, hlt, ← hother, hentry]
        · by_cases hlt : row.occurredAt < start <;> simp [hevent, hlt, hother, hentry]
  · simp [hevent]

theorem reachedBy_next {previous : JsMap String Reached} :
    ((reachedBy funnel entry (some previous) stage row rowIndex).bind fun found =>
      if found.1 = id then some found.2 else none) =
        if row.event = stage ∧ knownEntity funnel row = some id then
          (entry.get id).bind fun _ => (previous.get id).bind fun before =>
            if row.occurredAt < before.1.occurredAt ∨ rowIndex ≤ before.2 then none
            else some (row, rowIndex)
        else none := by
  unfold reachedBy
  by_cases hevent : row.event = stage
  · cases hknown : knownEntity funnel row with
    | none => simp
    | some other =>
      cases hentry : entry.get other with
      | none =>
        by_cases hother : other = id
        · simp [← hother, hentry]
        · simp [hother, hentry]
      | some start =>
        cases hprevious : previous.get other with
        | none =>
          by_cases hother : other = id
          · simp [← hother, hentry, hprevious]
          · simp [hother, hentry, hprevious]
        | some before =>
          by_cases hother : other = id
          · by_cases hlt : row.occurredAt < before.1.occurredAt ∨ rowIndex ≤ before.2 <;>
              simp [hevent, hlt, ← hother, hentry, hprevious]
          · by_cases hlt : row.occurredAt < before.1.occurredAt ∨ rowIndex ≤ before.2 <;>
              simp [hevent, hlt, hother, hentry, hprevious]
  · simp [hevent]

end Stage

/-! The maps of the stages. -/

/-- The rows are in the order of their times. -/
def Timed (rows : List FunnelSignalRecord) : Prop :=
  rows.Pairwise fun a b => a.occurredAt ≤ b.occurredAt

theorem findSome?_congr {f g : β → Option ρ} {l : List β} (h : ∀ a ∈ l, f a = g a) :
    l.findSome? f = l.findSome? g := by
  induction l with
  | nil => rfl
  | cons a l ih =>
    rw [List.findSome?_cons, List.findSome?_cons, h a List.mem_cons_self,
      ih fun b hb => h b (List.mem_cons_of_mem _ hb)]

theorem Timed.le_of_first (h : Timed rows) {q : FunnelSignalRecord → Bool}
    {found : FunnelSignalRecord × List FunnelSignalRecord} (hfirst : first q rows = some found)
    {row : FunnelSignalRecord} (hrow : row ∈ rows) (hq : q row = true) :
    found.1.occurredAt ≤ row.occurredAt := by
  obtain ⟨before, hrows, -, hbefore⟩ := first_eq_some hfirst
  rw [Timed, hrows, List.pairwise_append, List.pairwise_cons] at h
  rw [hrows, List.mem_append, List.mem_cons] at hrow
  rcases hrow with hrow | rfl | hrow
  · rw [hbefore row hrow] at hq
    cases hq
  · exact le_refl _
  · exact h.2.1.1 row hrow

theorem get_perEntity_first {stage : FeedbackFunnelStage}
    (hstage : (FUNNEL_STAGES funnel)[0]? = some stage) (htimed : Timed rows) :
    (perEntity funnel rows (entryTimes funnel rows) none stage).get id = located funnel rows id 0 := by
  have hpick : ∀ found ∈ rows.zipIdx,
      ((reachedBy funnel (entryTimes funnel rows) none stage found.1 found.2).bind fun found =>
        if found.1 = id then some found.2 else none) =
          if inStage funnel id 0 found.1 && 0 ≤ found.2 then some found else none := by
    intro found hmem
    have hrow : found.1 ∈ rows := List.fst_mem_of_mem_zipIdx hmem
    rw [reachedBy_first]
    by_cases hin : inStage funnel id 0 found.1 = true
    · obtain ⟨hevent, hknown⟩ := inStage_iff.mp hin
      have hentered : found.1.event = stage := by
        rw [hstage, Option.some.injEq] at hevent
        exact hevent.symm
      rw [if_pos ⟨hentered, hknown⟩, if_pos (by simp [hin]), get_entryTimes]
      cases hfirst : first (inStage funnel id 0) rows with
      | none =>
        rw [first_eq_none hfirst _ hrow] at hin
        cases hin
      | some entered =>
        have hle := htimed.le_of_first hfirst hrow hin
        rw [Option.map_some, Option.bind_some, if_neg (by omega)]
    · have hout : ¬ (found.1.event = stage ∧ knownEntity funnel found.1 = some id) :=
        fun h => hin (inStage_iff.mpr ⟨by rw [hstage, h.1], h.2⟩)
      rw [if_neg hout, if_neg (by simp [hin])]
  unfold perEntity located
  rw [get_firstOfEach, chain]
  refine (findSome?_congr hpick).trans ?_
  rw [findSome?_zipIdx]
  simp

theorem chain_pred {q : Nat → FunnelSignalRecord → Bool} (h : (chain q rows (k + 1)).isSome) :
    (chain q rows k).isSome := by
  rw [chain] at h
  cases hchain : chain q rows k with
  | none =>
    rw [hchain] at h
    cases h
  | some found => rfl

theorem entry_of_chain (h : (chain (inStage funnel id) rows k).isSome) :
    ((entryTimes funnel rows).get id).isSome := by
  induction k with
  | zero =>
    rw [get_entryTimes, Option.isSome_map]
    exact h
  | succ k ih => exact ih (chain_pred h)

theorem get_perEntity_next {stage : FeedbackFunnelStage}
    (hstage : (FUNNEL_STAGES funnel)[k + 1]? = some stage) (htimed : Timed rows)
    {previous : JsMap String Reached} (hprevious : previous.get id = located funnel rows id k) :
    (perEntity funnel rows (entryTimes funnel rows) (some previous) stage).get id =
      located funnel rows id (k + 1) := by
  unfold perEntity
  rw [get_firstOfEach]
  cases hchain : chain (inStage funnel id) rows k with
  | none =>
    rw [located, chain, hchain]
    rw [located, hchain] at hprevious
    refine List.findSome?_eq_none_iff.mpr fun found _ => ?_
    refine reachedBy_next.trans ?_
    simp [hprevious]
  | some reached =>
    obtain ⟨before, hrows, -, -⟩ := (chain_spec k).1 reached.1 reached.2 hchain
    have hindex : rows.length - reached.2.length - 1 = before.length := by
      have hlength := congrArg List.length hrows
      rw [List.length_append, List.length_cons] at hlength
      omega
    have hdrop : rows.drop (before.length + 1) = reached.2 := by
      rw [hrows, List.drop_append]
      simp
    have hentry := @entry_of_chain k funnel rows id (by rw [hchain]; rfl)
    obtain ⟨start, hstart⟩ := Option.isSome_iff_exists.mp hentry
    rw [located, hchain, Option.map_some, hindex] at hprevious
    have hpick : ∀ found ∈ rows.zipIdx,
        ((reachedBy funnel (entryTimes funnel rows) (some previous) stage found.1 found.2).bind
          fun found => if found.1 = id then some found.2 else none) =
            if inStage funnel id (k + 1) found.1 && before.length + 1 ≤ found.2 then some found
            else none := by
      intro found hmem
      rw [reachedBy_next, hstart, hprevious, Option.bind_some, Option.bind_some]
      by_cases hin : inStage funnel id (k + 1) found.1 = true
      · obtain ⟨hevent, hknown⟩ := inStage_iff.mp hin
        rw [hstage, Option.some.injEq] at hevent
        rw [if_pos ⟨hevent.symm, hknown⟩]
        by_cases hlater : before.length + 1 ≤ found.2
        · -- A row behind the reached one is not earlier, as the rows are sorted.
          have hbehind : found.1 ∈ reached.2 := by
            have hget := List.mem_zipIdx_iff_getElem?.mp hmem
            rw [hrows, List.getElem?_append_right (by omega),
              show found.2 - before.length = found.2 - (before.length + 1) + 1 by omega,
              List.getElem?_cons_succ] at hget
            exact List.mem_of_getElem? hget
          rw [Timed, hrows, List.pairwise_append, List.pairwise_cons] at htimed
          have hle := htimed.2.1.1 _ hbehind
          rw [if_neg (by dsimp only; omega), if_pos (by simp [hin, hlater])]
        · rw [if_pos (by dsimp only; omega), if_neg (by simp [hlater])]
      · have hout : ¬ (found.1.event = stage ∧ knownEntity funnel found.1 = some id) :=
          fun h => hin (inStage_iff.mpr ⟨by rw [hstage, h.1], h.2⟩)
        rw [if_neg hout, if_neg (by simp [hin])]
    refine (findSome?_congr hpick).trans ?_
    rw [findSome?_zipIdx, located, chain, hchain, Option.bind_some, Nat.sub_zero, hdrop]
    simp

end SellerAgents.Feedback
