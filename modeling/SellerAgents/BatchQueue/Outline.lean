import SellerAgents.BatchQueue.Protocol

open SellerAgents.Js SellerAgents.Execution Concurrent

namespace SellerAgents.BatchQueue

open Prog (only_ofExcept only_bind only_mono)

/-- A callback that fits every record and commits no intent. -/
def Callback.Calm (callback : Callback) : Prop :=
  (∀ current, callback.Fits current) ∧ callback.intents = []

/-- A command without a precondition that covers no entry in a later stage. -/
def Cmd.Calm : Cmd → Prop
  | .mutateOwner callback => callback.Calm
  | .port (.execute _) | .port (.finalizeOwner _ _) => False
  | _ => True

/-- A result that reports no unknown outcome. -/
def Reported (result : Option ProcessResult) : Prop :=
  ∀ r, result = some r → r.code ≠ .REQUEST_OUTCOME_UNKNOWN_NO_RETRY

/-- A program of calm commands that reports no unknown outcome. -/
abbrev Quiet (program : Program (Option ProcessResult)) : Prop := program.Only Cmd.Calm Reported

section Only

variable {calm : Cmd → Prop}

theorem only_port {query : Port} {ok : query.Answer → Prop} (hcalm : calm (.port query))
    (hok : ∀ answer, ok answer) : (port query).Only calm ok :=
  ⟨hcalm, fun _ => only_ofExcept fun answer _ => hok answer⟩

theorem only_mutateOwner {callback : Callback} {ok : Option Owner × Bool → Prop}
    (hcalm : calm (.mutateOwner callback)) (hok : ∀ answer, ok answer) :
    (mutateOwner callback).Only calm ok :=
  ⟨hcalm, fun _ => only_ofExcept fun answer _ => hok answer⟩

theorem only_getOwner {ok : Option Owner → Prop} (hcalm : calm .getOwner)
    (hok : ∀ answer, ok answer) : getOwner.Only calm ok :=
  ⟨hcalm, fun _ => only_ofExcept fun answer _ => hok answer⟩

theorem only_dateNow {ok : Int → Prop} (hcalm : calm .now) (hok : ∀ now, ok now) :
    dateNow.Only calm ok := ⟨hcalm, hok⟩

theorem only_randomUUID {ok : Uuid → Prop} (hcalm : calm .randomUUID) (hok : ∀ uuid, ok uuid) :
    randomUUID.Only calm ok := ⟨hcalm, hok⟩

theorem only_present {α : Type} {value : Option α} {ok : α → Prop} (hok : ∀ a, value = some a → ok a) :
    (present value).Only calm ok := by
  cases value with
  | none => trivial
  | some a => exact hok a rfl

/-- A loop of calm programs returns one result for every element. -/
theorem only_collect {α β : Type} {step : α → Program β} {items : List α}
    (hstep : ∀ a, (step a).Only calm fun _ => True) :
    (collect step items).Only calm fun results => results.length = items.length := by
  induction items with
  | nil => exact rfl
  | cons a rest ih =>
    refine only_bind (only_mono (hstep a) fun first _ => ?_)
    refine only_bind (only_mono ih fun others hothers => ?_)
    exact congrArg (· + 1) hothers

end Only

theorem quiet_next : Quiet next := by
  intro r h
  cases h

theorem quiet_finished {ok : Bool} {code : Code} (hcode : code ≠ .REQUEST_OUTCOME_UNKNOWN_NO_RETRY) :
    Quiet (finished ok code) := by
  rintro r ⟨⟩
  exact hcode

theorem quiet_failWith {code : Code} {message : String}
    (hcode : code ≠ .REQUEST_OUTCOME_UNKNOWN_NO_RETRY) : Quiet (failWith code message) :=
  only_bind (only_port trivial fun _ => quiet_finished hcode)

theorem quiet_afterStore {stored : Bool} {race : Code} {name : DiagnosticName}
    (hrace : race ≠ .REQUEST_OUTCOME_UNKNOWN_NO_RETRY) : Quiet (afterStore stored race name) := by
  unfold afterStore
  split
  · exact only_bind (only_port trivial fun _ => quiet_next)
  · exact quiet_finished hrace

theorem quiet_atGuidance (nextIndex : Nat) (entry : Entry) : Quiet (atGuidance nextIndex entry) := by
  refine only_bind (only_port trivial fun guidance => ?_)
  refine only_bind (only_port trivial fun _ => ?_)
  exact only_bind (only_mutateOwner ⟨fun _ => trivial, rfl⟩ fun _ => quiet_afterStore nofun)

theorem quiet_atPolicyError (nextIndex : Nat) (entry : Entry) :
    Quiet (atPolicyError nextIndex entry) := by
  refine only_bind (only_port trivial fun result => ?_)
  exact only_bind (only_mutateOwner ⟨fun _ => trivial, rfl⟩ fun _ => quiet_afterStore nofun)

theorem quiet_atPlanningError (nextIndex : Nat) (entry : Entry) :
    Quiet (atPlanningError nextIndex entry) := by
  refine only_bind (only_port trivial fun result => ?_)
  exact only_bind (only_mutateOwner ⟨fun _ => trivial, rfl⟩ fun _ => quiet_afterStore nofun)

theorem quiet_quotaWaiting (nextIndex : Nat) (quota : Option Quota) (groupId : Option JsString) :
    Quiet (quotaWaiting nextIndex quota groupId) := by
  refine only_bind (only_port trivial fun _ => ?_)
  rintro r ⟨⟩
  exact nofun

/-- A blocked recovery never blocks with the code of an unknown outcome. -/
def Recovered.Fine (outcome : Recovered) : Prop :=
  outcome ≠ .blocked .REQUEST_OUTCOME_UNKNOWN_NO_RETRY

theorem ofDecision_fine (decision : Decision) : (Recovered.ofDecision decision).Fine := by
  cases decision <;> simp [Recovered.Fine, Recovered.ofDecision]

theorem only_recoverBufferedSingle (owner : Owner) (index : Nat) (entry : Entry) :
    (recoverBufferedSingle owner index entry).Only Cmd.Calm Recovered.Fine := by
  refine only_bind (only_dateNow trivial fun now => ?_)
  split
  · split
    · exact nofun
    · refine only_bind (only_mutateOwner ⟨fun _ => trivial, rfl⟩ fun answer => ?_)
      show Recovered.Fine (if answer.2 then _ else _)
      split <;> exact nofun
  · exact ofDecision_fine _

theorem only_projectMembers (group : QueryGroup) (result : QueueResult) (error : Option JsError)
    (members : List (Option Entry)) :
    (projectMembers group result error members).Only Cmd.Calm
      fun results => results.length = members.length :=
  only_collect fun _ => only_port trivial fun _ => trivial

theorem only_projectOrExplain {group : QueryGroup} {result : QueueResult}
    {members : List (Option Entry)} {explain : Program Unit}
    (hexplain : explain.Only Cmd.Calm fun _ => True) :
    (projectOrExplain group result members explain).Only Cmd.Calm
      fun results => results.length = members.length := by
  refine only_bind (Prog.only_attempt ?_ fun error => ?_)
  · exact only_mono (only_projectMembers ..) fun results hlength => hlength
  · refine only_bind (only_mono (only_projectMembers ..) fun results hlength => ?_)
    exact only_bind (only_mono hexplain fun _ _ => hlength)

variable {indexes : List Nat} {nextIndex : Nat}

/-- The items of a group: one for every member, in order. -/
theorem map_zip_indexes {β : Type} {results : List β} (hlength : results.length = indexes.length) :
    (indexes.zip results).map (·.1) = indexes :=
  List.map_fst_zip (by omega)

/-- A callback on the items of a contiguous group is calm. -/
theorem contiguous_items {results : List (Option QueueResult)}
    (hcontiguous : Contiguous nextIndex indexes) (hlength : results.length = indexes.length) :
    Contiguous nextIndex ((indexes.zip results).map (·.1)) := by
  rw [map_zip_indexes hlength]
  exact hcontiguous

theorem only_recoverBufferedGroup {owner : Owner} {batch : Batch} {group : QueryGroup}
    (hcontiguous : Contiguous nextIndex group.member_indexes) :
    (recoverBufferedGroup owner batch nextIndex group).Only Cmd.Calm Recovered.Fine := by
  unfold recoverBufferedGroup
  simp only
  split
  · exact nofun
  · refine only_bind (only_mono (only_collect fun member => ?_) fun decisions _ => ?_)
    · exact only_bind (only_dateNow trivial fun _ => trivial)
    · split
      · exact ofDecision_fine _
      · split
        · exact nofun
        · rename_i physicalResult _
          refine only_bind (only_mono (only_projectOrExplain trivial) fun results hlength => ?_)
          rw [List.length_map] at hlength
          refine only_bind (only_mutateOwner
            ⟨fun _ => contiguous_items hcontiguous hlength, rfl⟩ fun answer => ?_)
          show Recovered.Fine (if answer.2 then _ else _)
          split <;> exact nofun

theorem only_receiveResponse {id : JsString} {response : ProviderResponse} :
    (receiveResponse indexes id response).Only Cmd.Calm fun _ => True := by
  refine only_bind (only_mutateOwner ⟨fun _ => trivial, rfl⟩ fun answer => ?_)
  obtain ⟨_, stored⟩ := answer
  cases stored <;> trivial

theorem only_storeDenial {entry : Option Entry} {error : JsError} :
    (storeDenial nextIndex entry error).Only Cmd.Calm fun _ => True := by
  refine only_bind (only_present fun pending _ => ?_)
  refine only_bind (only_port trivial fun result => ?_)
  exact only_bind (only_mutateOwner ⟨fun _ => trivial, rfl⟩ fun _ => trivial)

theorem quiet_prepare {preparation : Preparation} {failure : Code}
    {proceed : PortResult → Program (Option ProcessResult)}
    (hfailure : failure ≠ .REQUEST_OUTCOME_UNKNOWN_NO_RETRY)
    (hproceed : ∀ prepared, Quiet (proceed prepared)) : Quiet (prepare preparation failure proceed) := by
  refine only_bind (only_port trivial fun answer => ?_)
  cases answer with
  | none => exact quiet_finished hfailure
  | some prepared =>
    simp only
    split
    · exact hproceed prepared
    · rintro r ⟨⟩
      exact nofun

theorem quiet_preparations : Quiet preparations := by
  refine only_bind (only_port trivial fun _ => ?_)
  refine only_bind (only_getOwner trivial fun initialOwner => ?_)
  split
  · refine quiet_prepare nofun fun _ => ?_
    refine only_bind (only_getOwner trivial fun afterPolicy => ?_)
    split
    · refine quiet_prepare nofun fun prepared => ?_
      split
      · exact quiet_finished nofun
      · exact quiet_prepare nofun fun _ => quiet_next
    · exact quiet_next
  · exact quiet_next

end SellerAgents.BatchQueue
