import Mathlib.Data.Rat.Floor
import SellerAgents.Js.Map
import SellerAgents.Ordered.Stable

open Ordered

namespace SellerAgents.Feedback

open Js

inductive FeedbackFunnelName where
  | ONBOARDING | FIRST_VALUE | SUPPORT

inductive FeedbackFunnelStage where
  | registration_started | account_created | device_activated | first_store_added | first_start
  | feedback_case_created | feedback_case_triaged | feedback_case_resolved | feedback_case_closed
deriving DecidableEq

def FUNNEL_STAGES : FeedbackFunnelName → List FeedbackFunnelStage
  | .ONBOARDING =>
    [.registration_started, .account_created, .device_activated, .first_store_added, .first_start]
  | .FIRST_VALUE => [.account_created, .device_activated, .first_store_added, .first_start]
  | .SUPPORT =>
    [.feedback_case_created, .feedback_case_triaged, .feedback_case_resolved, .feedback_case_closed]

inductive Dimension where
  | productVersion | extensionVersion | releaseIdentity | browserFamily | browserVersion
  | marketplace | supportCode

def dimensions : List Dimension :=
  [.productVersion, .extensionVersion, .releaseIdentity, .browserFamily, .browserVersion,
    .marketplace, .supportCode]

/-- A signal that an entity reached a stage. -/
structure FunnelSignalRecord where
  event : FeedbackFunnelStage
  accountId : Option String
  subjectId : Option String
  /-- In milliseconds. -/
  occurredAt : Int
  /-- `row[dimension]`. -/
  dimension : Dimension → Option String

def entityId (funnel : FeedbackFunnelName) (row : FunnelSignalRecord) : Option String :=
  match funnel with
  | .SUPPORT => row.subjectId
  | _ => row.accountId

/-- The entity of a row, where `if (id)` lets it through. -/
def knownEntity (funnel : FeedbackFunnelName) (row : FunnelSignalRecord) : Option String :=
  (entityId funnel row).filter (· ≠ "")

/-- What a row adds to a map that keeps the first value of each entity. -/
def keepFirst {β ρ : Type} (pick : β → Option (String × ρ)) (kept : JsMap String ρ) (row : β) :
    JsMap String ρ :=
  match pick row with
  | none => kept
  | some (id, value) => if kept.has id then kept else kept.set id value

/-- The loops that keep, for each entity, what the first row with something to keep gives. -/
def firstOfEach {β ρ : Type} (pick : β → Option (String × ρ)) (rows : List β) : JsMap String ρ :=
  rows.foldl (keepFirst pick) .empty

def percentile (values : List ℚ) (fraction : ℚ) : Option ℚ :=
  if values.isEmpty then none
  else
    let values := values.mergeSort fun a b => decide (a ≤ b)
    if fraction = 1 / 2 ∧ values.length % 2 = 0 then
      let middle := values.length / 2
      some ((values.getD (middle - 1) 0 + values.getD middle 0) / 2)
    else values[(⌈(values.length : ℚ) * fraction⌉.toNat - 1)]?

/-- A row that an entity has reached a stage with, and its index. -/
abbrev Reached : Type := FunnelSignalRecord × Nat

section Calculation

variable (funnel : FeedbackFunnelName)

/-- The rows of the window, by their time. -/
def sortedRecords (start stop : Int) (records : List FunnelSignalRecord) : List FunnelSignalRecord :=
  byKey (·.occurredAt) (records.filter fun row => start ≤ row.occurredAt && row.occurredAt < stop)

/-- The time at which each entity enters the funnel. -/
def entryTimes (rows : List FunnelSignalRecord) : JsMap String Int :=
  firstOfEach (fun row => (knownEntity funnel row).bind fun id =>
    if (FUNNEL_STAGES funnel).head? = some row.event then some (id, row.occurredAt) else none) rows

/-- What a row gives for a stage: a later stage counts only after this entity reached its
predecessor, and the order of the rows breaks ties. -/
def reachedBy (entry : JsMap String Int) (previous : Option (JsMap String Reached))
    (stage : FeedbackFunnelStage) (row : FunnelSignalRecord) (rowIndex : Nat) :
    Option (String × Reached) :=
  if row.event ≠ stage then none
  else
    (knownEntity funnel row).bind fun id => (entry.get id).bind fun start =>
      match previous with
      | none => if row.occurredAt < start then none else some (id, row, rowIndex)
      | some previous => (previous.get id).bind fun (before, previousIndex) =>
        if row.occurredAt < before.occurredAt || rowIndex ≤ previousIndex then none
        else some (id, row, rowIndex)

def perEntity (rows : List FunnelSignalRecord) (entry : JsMap String Int)
    (previous : Option (JsMap String Reached)) (stage : FeedbackFunnelStage) :
    JsMap String Reached :=
  firstOfEach (fun (row, rowIndex) => reachedBy funnel entry previous stage row rowIndex) rows.zipIdx

/-- The maps of the stages, each after its predecessor's. -/
def reachedStages (rows : List FunnelSignalRecord) (entry : JsMap String Int) :
    Option (JsMap String Reached) → List FeedbackFunnelStage →
      List (FeedbackFunnelStage × JsMap String Reached)
  | _, [] => []
  | previous, stage :: stages =>
    let reached := perEntity funnel rows entry previous stage
    (stage, reached) :: reachedStages rows entry (some reached) stages

structure FeedbackFunnelStageMetric where
  stage : FeedbackFunnelStage
  eligibleCount : Nat
  reachedCount : Nat
  conversionFromPrevious : Option ℚ
  cumulativeConversion : Option ℚ
  medianSeconds : Option ℚ
  p90Seconds : Option ℚ

structure FeedbackFunnelBreakdown where
  stage : FeedbackFunnelStage
  dimension : Dimension
  value : String
  count : Nat

structure FeedbackFunnelResponse where
  funnel : FeedbackFunnelName
  start : Int
  stop : Int
  cohortCount : Nat
  stages : List FeedbackFunnelStageMetric
  breakdowns : List FeedbackFunnelBreakdown

/-- A quotient of two counts, where the second is not zero. -/
def conversion (count total : Nat) : Option ℚ :=
  if total = 0 then none else some ((count : ℚ) / total)

/-- The seconds from the entry of an entity to a row of it. -/
def durations (entry : JsMap String Int) (reached : JsMap String Reached) : List ℚ :=
  reached.entries.map fun (id, row, _) =>
    ((row.occurredAt - (entry.get id).getD row.occurredAt : Int) : ℚ) / 1000

/-- The measures of a stage after a stage that so many entities have reached. -/
def stageMetric (entry : JsMap String Int) (previousCount : Option Nat)
    (stage : FeedbackFunnelStage) (reached : JsMap String Reached) : FeedbackFunnelStageMetric where
  stage := stage
  eligibleCount := entry.size
  reachedCount := reached.size
  conversionFromPrevious :=
    match previousCount with
    | none => if entry.size = 0 then none else some 1
    | some count => conversion reached.size count
  cumulativeConversion := conversion reached.size entry.size
  medianSeconds := percentile (durations entry reached) (1 / 2)
  p90Seconds := percentile (durations entry reached) (9 / 10)

def stageMetrics (entry : JsMap String Int) :
    Option Nat → List (FeedbackFunnelStage × JsMap String Reached) → List FeedbackFunnelStageMetric
  | _, [] => []
  | previousCount, (stage, reached) :: rest =>
    stageMetric entry previousCount stage reached ::
      stageMetrics entry (some reached.size) rest

/-- The values of a dimension in the rows of a stage, with the number of their entities. -/
def breakdown (stage : FeedbackFunnelStage) (reached : JsMap String Reached)
    (dimension : Dimension) : List FeedbackFunnelBreakdown :=
  let counts : JsMap String Nat := reached.entries.foldl (fun counts (_, row, _) =>
    match (row.dimension dimension).filter (· ≠ "") with
    | none => counts
    | some value => counts.set value ((counts.get value).getD 0 + 1)) .empty
  counts.entries.map fun (value, count) => ⟨stage, dimension, value, count⟩

def calculateFunnel (start stop : Int) (records : List FunnelSignalRecord) :
    FeedbackFunnelResponse :=
  let rows := sortedRecords start stop records
  let entry := entryTimes funnel rows
  let reached := reachedStages funnel rows entry none (FUNNEL_STAGES funnel)
  { funnel, start, stop
    cohortCount := entry.size
    stages := stageMetrics entry none reached
    breakdowns := reached.flatMap fun (stage, rows) => dimensions.flatMap (breakdown stage rows) }

end Calculation

end SellerAgents.Feedback
