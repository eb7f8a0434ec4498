import SellerAgents.Work.SessionModel

namespace SellerAgents.Work
open Js (JsString JsValue)

@[simp] theorem orElse_null_null : orElse .null .null = .null := rfl

variable {value : JsValue}

theorem orElse_of_truthy {other : JsValue} (h : isTruthy value = true) :
    orElse value other = value :=
  if_pos h

theorem orElse_of_falsy {other : JsValue} (h : isTruthy value = false) :
    orElse value other = other := by
  simp [orElse, h]

theorem isTruthy_orElse_null (value : JsValue) : isTruthy (orElse value .null) = isTruthy value := by
  cases h : isTruthy value with
  | true => rw [orElse_of_truthy h, h]
  | false =>
    rw [orElse_of_falsy h]
    rfl

/-- A step of a run. -/
structure Step where
  next : WorkState
  patch : Patch
  now : JsString

/-- The record after a run of accepted transitions; none when one is refused. -/
def run (record : WorkRecord) : List Step → Option WorkRecord
  | [] => some record
  | step :: steps =>
    (transition false record step.next step.patch step.now).toOption.bind fun next => run next steps

/-- What an accepted transition returns. -/
structure Accepted (record : WorkRecord) (step : Step) (result : WorkRecord) : Prop where
  state : result.state = some step.next
  revision : result.revision = Js.Double.roundNat (record.revision + 1)
  fence : record.finished = true → newStart (normalize record) step.next step.patch = none →
    step.next ∈ [WorkState.inactive, .finishing, .error]
  generation : result.workGeneration = (normalize record).workGeneration +
    if (newStart (normalize record) step.next step.patch).isSome ∨
      step.next = .finishing ∧ record.finished = false then 1 else 0
  bounded : result.workGeneration ≤ maxSafeInteger
  session : result.workSessionId =
    (newStart (normalize record) step.next step.patch).elim (normalize record).workSessionId .str
  intent : result.startIntentId = match newStart (normalize record) step.next step.patch with
    | some id => .str id
    | none => if step.next = .finishing ∨ step.next = .inactive then
        coalesce (step.patch.startIntentId.getD .undefined) (normalize record).startIntentId
      else (normalize record).startIntentId
  known : result.terminalStateKnown = ((newStart (normalize record) step.next step.patch).isSome ||
    (step.next = .finishing && !record.finished) || record.terminalStateKnown)
  finished : result.finished = if (newStart (normalize record) step.next step.patch).isSome then false
    else (step.next = .finishing && !record.finished) || record.finished

theorem transition_ok {unavailable : Bool} {record result : WorkRecord} {step : Step}
    (h : transition unavailable record step.next step.patch step.now = .ok result) :
    Accepted record step result := by
  unfold transition at h
  split at h
  · cases h
  · dsimp only at h
    split at h
    · cases h
    · split at h
      · cases h
      · rename_i hfence
        by_cases hbound : maxSafeInteger < (normalize record).workGeneration +
            if (newStart (normalize record) step.next step.patch).isSome ||
              (step.next = .finishing && !(normalize record).finished) then 1 else 0
        · rw [if_pos hbound] at h
          cases h
        · rw [if_neg hbound] at h
          obtain rfl := Except.ok.inj h
          refine ⟨rfl, rfl, fun hfinished hstart => ?_, ?_, Nat.le_of_not_lt hbound, rfl, rfl, rfl, rfl⟩
          · have hcurrent : (normalize record).finished = true := hfinished
            rw [hcurrent, hstart] at hfence
            simpa [or_iff_not_imp_left] using hfence
          · have hcurrent : (normalize record).finished = record.finished := rfl
            simp [hcurrent]

/-- A step is taken from an exact revision, and one that stops work gives a record without a work
session no start intent. -/
def Step.Prudent (step : Step) (record : WorkRecord) : Prop :=
  record.revision < 2 ^ 53 ∧ (step.next = .finishing ∨ step.next = .inactive →
    isTruthy (normalize record).workSessionId = true ∨
      isTruthy (step.patch.startIntentId.getD .undefined) = false)

/-- A run whose steps are all prudent. -/
def PrudentRun (record : WorkRecord) : List Step → Prop
  | [] => True
  | step :: steps => step.Prudent record ∧
    ∀ next, transition false record step.next step.patch step.now = .ok next → PrudentRun next steps

instance (step : Step) (record : WorkRecord) : Decidable (step.Prudent record) :=
  inferInstanceAs (Decidable (_ ∧ (_ → _)))

instance decidablePrudentRun (record : WorkRecord) : (steps : List Step) → Decidable (PrudentRun record steps)
  | [] => .isTrue trivial
  | step :: steps =>
    have : Decidable (∀ next, transition false record step.next step.patch step.now = .ok next →
        PrudentRun next steps) :=
      match htransition : transition false record step.next step.patch step.now with
      | .error _ => .isTrue fun _ h => by cases h
      | .ok value =>
        have := decidablePrudentRun value steps
        decidable_of_iff (PrudentRun value steps) ⟨fun h next heq => Except.ok.inj heq ▸ h, fun h => h value rfl⟩
    inferInstanceAs (Decidable (step.Prudent record ∧ _))

/-- A record that normalisation leaves as it is, as far as its work session goes. -/
structure Kept (record : WorkRecord) : Prop where
  session : (normalize record).workSessionId = record.workSessionId
  generation : record.workGeneration ≤ maxSafeInteger

theorem Kept.generation_eq {record : WorkRecord} (h : Kept record) :
    (normalize record).workGeneration = record.workGeneration := if_pos h.generation

theorem kept_normalize (record : WorkRecord) : Kept (normalize record) where
  session := by
    change orElse (orElse (orElse (orElse record.workSessionId record.startIntentId) .null)
      (orElse record.startIntentId .null)) .null = orElse (orElse record.workSessionId record.startIntentId) .null
    cases hsession : isTruthy (orElse record.workSessionId record.startIntentId) with
    | true =>
      rw [orElse_of_truthy hsession, orElse_of_truthy hsession, orElse_of_truthy hsession]
    | false =>
      have hintent : isTruthy record.startIntentId = false := by
        cases hown : isTruthy record.workSessionId with
        | true =>
          rw [orElse_of_truthy hown, hown] at hsession
          cases hsession
        | false => rwa [orElse_of_falsy hown] at hsession
      rw [orElse_of_falsy hsession, orElse_of_falsy hintent, orElse_null_null, orElse_null_null]
  generation := by
    change (if record.workGeneration ≤ maxSafeInteger then record.workGeneration else 0) ≤ maxSafeInteger
    split
    · assumption
    · exact Nat.zero_le _

theorem isTruthy_of_nonEmptyText {id : JsString} (h : nonEmptyText value = some id) :
    value = .str id ∧ isTruthy value = true := by
  cases value with
  | str text =>
    change (if text = [] then none else some text) = some id at h
    split at h
    · cases h
    · rename_i hne
      obtain rfl := Option.some.inj h
      exact ⟨rfl, by simpa [isTruthy] using hne⟩
  | _ => cases h

theorem newStart_some {current : WorkRecord} {next : WorkState} {patch : Patch} {id : JsString}
    (h : newStart current next patch = some id) :
    next = .binding ∧ patch.startIntentId = some (.str id) ∧ id ≠ [] ∧ current.workSessionId ≠ .str id := by
  obtain ⟨hid, hguard⟩ := Option.filter_eq_some_iff.mp h
  obtain ⟨value, hvalue, htext⟩ := Option.bind_eq_some_iff.mp hid
  obtain ⟨hnext, hother⟩ := of_decide_eq_true hguard
  obtain ⟨rfl, htruthy⟩ := isTruthy_of_nonEmptyText htext
  have hne : id ≠ [] := by simpa [isTruthy] using htruthy
  refine ⟨hnext, hvalue, hne, fun hsame => hother ?_⟩
  rw [hsame]
  exact if_neg hne

namespace Accepted

variable {record result : WorkRecord} {step : Step}

/-- A prudent step leaves a record that normalisation does not change. -/
theorem kept (h : Accepted record step result) (hprudent : step.Prudent record) : Kept result where
  session := by
    change orElse (orElse result.workSessionId result.startIntentId) .null = result.workSessionId
    have hsession := h.session
    have hintent := h.intent
    cases hstart : newStart (normalize record) step.next step.patch with
    | some id =>
      rw [hstart] at hsession
      have hid : isTruthy result.workSessionId = true := by
        rw [hsession]
        simpa [isTruthy] using (newStart_some hstart).2.2.1
      rw [orElse_of_truthy hid, orElse_of_truthy hid]
    | none =>
      rw [hstart] at hsession hintent
      have hsession : result.workSessionId = (normalize record).workSessionId := hsession
      cases htruthy : isTruthy (normalize record).workSessionId with
      | true =>
        rw [hsession, orElse_of_truthy htruthy, orElse_of_truthy htruthy]
      | false =>
        have hnormal : (normalize record).workSessionId = orElse (orElse record.workSessionId
          record.startIntentId) .null := rfl
        have hnull : (normalize record).workSessionId = .null := by
          rw [hnormal, isTruthy_orElse_null] at htruthy
          rw [hnormal, orElse_of_falsy htruthy]
        have hown : isTruthy (normalize record).startIntentId = false := by
          change isTruthy (orElse record.startIntentId .null) = false
          rw [isTruthy_orElse_null]
          rw [hnormal, isTruthy_orElse_null] at htruthy
          cases hrecord : isTruthy record.workSessionId with
          | true =>
            rw [orElse_of_truthy hrecord, hrecord] at htruthy
            cases htruthy
          | false => rwa [orElse_of_falsy hrecord] at htruthy
        have hfalsy : isTruthy result.startIntentId = false := by
          rw [hintent]
          dsimp only
          split
          · rename_i hstops
            have hpatch := (hprudent.2 hstops).resolve_left (by simp [htruthy])
            unfold coalesce
            split
            · exact hown
            · exact hown
            · exact hpatch
          · exact hown
        have hkept : orElse .null result.startIntentId = result.startIntentId := orElse_of_falsy rfl
        rw [hsession, hnull, hkept, orElse_of_falsy hfalsy]
  generation := h.bounded

theorem revision_succ (h : Accepted record step result) (hprudent : step.Prudent record) :
    result.revision = record.revision + 1 := by
  rw [h.revision]
  by_cases hsmall : record.revision + 1 < 2 ^ 53
  · exact if_pos hsmall
  · have hlast : record.revision + 1 = 2 ^ 53 := by
      have := hprudent.1
      omega
    rw [hlast]
    decide +kernel

/-- Without a new start and a finish the generation stays, and so does the work. -/
theorem generation_le (h : Accepted record step result) (hkept : Kept record) :
    record.workGeneration ≤ result.workGeneration ∧
      (record.workGeneration = result.workGeneration → result.workSessionId = record.workSessionId) := by
  have hgeneration := h.generation
  have hsession := h.session
  rw [hkept.generation_eq] at hgeneration
  rw [hkept.session] at hsession
  constructor
  · omega
  · intro heq
    cases hstart : newStart (normalize record) step.next step.patch with
    | some id => simp [hstart, heq] at hgeneration
    | none =>
      rw [hstart] at hsession
      exact hsession

end Accepted

variable {steps : List Step}

theorem PrudentRun.cons {record next : WorkRecord} {step : Step}
    (h : PrudentRun record (step :: steps))
    (hstep : transition false record step.next step.patch step.now = .ok next) :
    step.Prudent record ∧ PrudentRun next steps := ⟨h.1, h.2 next hstep⟩

/-- The first step of a run and what it keeps. -/
theorem run_step {record result : WorkRecord} {step : Step}
    (hprudent : PrudentRun record (step :: steps)) (hrun : run record (step :: steps) = some result) :
    ∃ next, Accepted record step next ∧ transition false record step.next step.patch step.now = .ok next ∧
      step.Prudent record ∧ Kept next ∧ PrudentRun next steps ∧ run next steps = some result := by
  unfold run at hrun
  obtain ⟨next, hnext, hrest⟩ := Option.bind_eq_some_iff.mp hrun
  cases htransition : transition false record step.next step.patch step.now with
  | error failure =>
    rw [htransition] at hnext
    cases hnext
  | ok value =>
    rw [htransition] at hnext
    obtain rfl := Option.some.inj hnext
    obtain ⟨hstep, hsteps⟩ := hprudent.cons htransition
    have haccepted := transition_ok htransition
    exact ⟨value, haccepted, rfl, hstep, haccepted.kept hstep, hsteps, hrest⟩

/-- Runs compose. -/
theorem run_append {record middle result : WorkRecord} {before later : List Step}
    (hbefore : run record before = some middle) (hlater : run middle later = some result) :
    run record (before ++ later) = some result := by
  induction before generalizing record with
  | nil =>
    obtain rfl := Option.some.inj hbefore
    exact hlater
  | cons step steps ih =>
    unfold run at hbefore
    obtain ⟨next, hnext, hrest⟩ := Option.bind_eq_some_iff.mp hbefore
    change ((transition false record step.next step.patch step.now).toOption.bind fun next =>
      run next (steps ++ later)) = some result
    rw [hnext, Option.bind_some]
    exact ih hrest

/-- The rest of a prudent run is prudent and starts from a kept record. -/
theorem run_kept {record middle : WorkRecord} {before later : List Step} (hkept : Kept record)
    (hprudent : PrudentRun record (before ++ later)) (hbefore : run record before = some middle) :
    Kept middle ∧ PrudentRun middle later := by
  induction before generalizing record with
  | nil =>
    obtain rfl := Option.some.inj hbefore
    exact ⟨hkept, hprudent⟩
  | cons step steps ih =>
    unfold run at hbefore
    obtain ⟨next, hnext, hrest⟩ := Option.bind_eq_some_iff.mp hbefore
    cases htransition : transition false record step.next step.patch step.now with
    | error failure =>
      rw [htransition] at hnext
      cases hnext
    | ok value =>
      rw [htransition] at hnext
      obtain rfl := Option.some.inj hnext
      obtain ⟨hstep, hsteps⟩ := PrudentRun.cons hprudent htransition
      exact ih ((transition_ok htransition).kept hstep) hsteps hrest

/-- Generations never fall, the revision counts the steps, and work is the same as long as its
generation is. -/
theorem run_generation {record result : WorkRecord} (hkept : Kept record)
    (hprudent : PrudentRun record steps) (hrun : run record steps = some result) :
    record.workGeneration ≤ result.workGeneration ∧
      result.revision = record.revision + steps.length ∧
      (record.workGeneration = result.workGeneration → record.workSessionId = result.workSessionId) := by
  induction steps generalizing record with
  | nil =>
    obtain rfl := Option.some.inj hrun
    exact ⟨Nat.le_refl _, rfl, fun _ => rfl⟩
  | cons step steps ih =>
    obtain ⟨next, haccepted, -, hstep, hnext, hsteps, hrest⟩ := run_step hprudent hrun
    obtain ⟨hle, hrevision, hsession⟩ := ih hnext hsteps hrest
    obtain ⟨hfirst, hsame⟩ := haccepted.generation_le hkept
    have hsucc := haccepted.revision_succ hstep
    refine ⟨Nat.le_trans hfirst hle, ?_, fun heq => ?_⟩
    · rw [List.length_cons]
      omega
    · have hmiddle : record.workGeneration = next.workGeneration := by omega
      exact (hsame hmiddle).symm.trans (hsession (by omega))

/-- A step that starts new work, from the record it is taken from. -/
def Step.Starts (step : Step) (record : WorkRecord) (id : JsString) : Prop :=
  newStart (normalize record) step.next step.patch = some id

/-- The states of work that is not over. -/
def working : List WorkState := [.pendingIdentity, .binding, .activeVisible, .activeHidden, .recovering]

/-- Finished work leaves its states only through a new start. -/
theorem run_revives {record result : WorkRecord} {state : WorkState} (hkept : Kept record)
    (hprudent : PrudentRun record steps) (hrun : run record steps = some result)
    (hfinished : record.finished = true) (hsteps : steps ≠ []) (hstate : result.state = some state)
    (hworking : state ∈ working) :
    record.workGeneration < result.workGeneration ∧ ∃ before step after middle id,
      steps = before ++ step :: after ∧ run record before = some middle ∧ step.Starts middle id := by
  induction steps generalizing record with
  | nil => exact absurd rfl hsteps
  | cons step steps ih =>
    obtain ⟨next, haccepted, htransition, -, hnext, hrestPrudent, hrest⟩ := run_step hprudent hrun
    cases hstart : newStart (normalize record) step.next step.patch with
    | some id =>
      have hgeneration := haccepted.generation
      rw [hkept.generation_eq, hstart, if_pos (.inl rfl)] at hgeneration
      have hle := (run_generation hnext hrestPrudent hrest).1
      exact ⟨by omega, [], step, steps, record, id, rfl, rfl, hstart⟩
    | none =>
      have hstays := haccepted.fence hfinished hstart
      have hstill : next.finished = true := by
        have hflag := haccepted.finished
        rw [hstart] at hflag
        simpa [hfinished] using hflag
      by_cases hlast : steps = []
      · subst hlast
        obtain rfl := Option.some.inj hrest
        have hsame : step.next = state := Option.some.inj (haccepted.state.symm.trans hstate)
        rw [hsame] at hstays
        simp only [working, List.mem_cons, List.not_mem_nil, or_false] at hworking hstays
        rcases hstays with rfl | rfl | rfl <;> simp at hworking
      · obtain ⟨hlt, before, start, after, middle, id, heq, hmiddle, hstarts⟩ :=
          ih hnext hrestPrudent hrest hstill hlast
        have hle := (haccepted.generation_le hkept).1
        refine ⟨Nat.lt_of_le_of_lt hle hlt, step :: before, start, after, middle, id, by rw [heq]; rfl, ?_,
          hstarts⟩
        unfold run
        rw [htransition]
        exact hmiddle

/-- Work whose record says that it is started and not finished was started by a step after which
none finished it, or before the run. -/
theorem run_started {record result : WorkRecord} (hkept : Kept record)
    (hprudent : PrudentRun record steps) (hrun : run record steps = some result)
    (hknown : result.terminalStateKnown = true) (hopen : result.finished = false) :
    (∃ before step after middle id, steps = before ++ step :: after ∧ run record before = some middle ∧
      step.Starts middle id ∧ result.workSessionId = .str id ∧ ∀ later ∈ after, later.next ≠ .finishing) ∨
    (record.terminalStateKnown = true ∧ record.finished = false ∧
      result.workSessionId = record.workSessionId ∧ ∀ later ∈ steps, later.next ≠ .finishing) := by
  induction steps generalizing record with
  | nil =>
    obtain rfl := Option.some.inj hrun
    exact .inr ⟨hknown, hopen, rfl, fun later hlater => by cases hlater⟩
  | cons step steps ih =>
    obtain ⟨next, haccepted, htransition, -, hnext, hrestPrudent, hrest⟩ := run_step hprudent hrun
    rcases ih hnext hrestPrudent hrest with ⟨before, start, after, middle, id, heq, hmiddle, hstarts, hid, hafter⟩ |
      ⟨hnextKnown, hnextOpen, hsame, hafter⟩
    · refine .inl ⟨step :: before, start, after, middle, id, by rw [heq]; rfl, ?_, hstarts, hid, hafter⟩
      unfold run
      rw [htransition]
      exact hmiddle
    · cases hstart : newStart (normalize record) step.next step.patch with
      | some id =>
        have hsession := haccepted.session
        rw [hstart] at hsession
        exact .inl ⟨[], step, steps, record, id, rfl, rfl, hstart, hsame.trans hsession, hafter⟩
      | none =>
        have hflag := haccepted.finished
        have hknowledge := haccepted.known
        have hsession := haccepted.session
        rw [hstart] at hflag hknowledge hsession
        rw [hkept.session] at hsession
        rw [hnextOpen] at hflag
        have hbefore : record.finished = false := by
          cases hrecord : record.finished with
          | true => simp [hrecord] at hflag
          | false => rfl
        have hother : step.next ≠ .finishing := by
          intro hfinishing
          simp [hfinishing, hbefore] at hflag
        refine .inr ⟨?_, hbefore, hsame.trans hsession, fun later hlater => ?_⟩
        · rw [hnextKnown] at hknowledge
          simpa [hother] using hknowledge.symm
        · rcases List.mem_cons.mp hlater with rfl | hold
          · exact hother
          · exact hafter later hold

/-- Work keeps its identity in every run from a normalised record whose steps are prudent: of two
records `earlier` and `later` of the run the generations, the revisions and the work sessions fit
together, finished work comes back only through a new start, and only started work may resume. -/
theorem work_session_identity (unavailable : Bool) (raw earlier later : WorkRecord) (before after : List Step)
    (hprudent : PrudentRun (normalize raw) (before ++ after))
    (hearlier : run (normalize raw) before = some earlier) (hlater : run earlier after = some later) :
    earlier.workGeneration ≤ later.workGeneration ∧
      later.revision = earlier.revision + after.length ∧
      (earlier.workGeneration = later.workGeneration → earlier.workSessionId = later.workSessionId) ∧
      (earlier.finished = true → after ≠ [] → ∀ state ∈ working, later.state = some state →
        earlier.workGeneration < later.workGeneration ∧ ∃ first step rest middle id,
          after = first ++ step :: rest ∧ run earlier first = some middle ∧ step.Starts middle id) ∧
      (canResume unavailable later = true →
        (∃ first step rest middle id, before ++ after = first ++ step :: rest ∧
          run (normalize raw) first = some middle ∧ step.Starts middle id ∧ later.workSessionId = .str id ∧
          ∀ other ∈ rest, other.next ≠ .finishing) ∨
        ((normalize raw).terminalStateKnown = true ∧ (normalize raw).finished = false ∧
          later.workSessionId = (normalize raw).workSessionId ∧
          isTruthy (normalize raw).workSessionId = true ∧
          ∀ other ∈ before ++ after, other.next ≠ .finishing)) := by
  have hstart := kept_normalize raw
  obtain ⟨hkept, hrest⟩ := run_kept hstart hprudent hearlier
  obtain ⟨hle, hrevision, hsession⟩ := run_generation hkept hrest hlater
  refine ⟨hle, hrevision, hsession, fun hfinished hsteps state hworking hstate => ?_, fun hresume => ?_⟩
  · exact run_revives hkept hrest hlater hfinished hsteps hstate hworking
  · have hwhole := run_append hearlier hlater
    have hkeptLater := (run_kept hkept ((List.append_nil after).symm ▸ hrest) hlater).1
    have hflags : later.terminalStateKnown = true ∧ later.finished = false ∧
        isTruthy (normalize later).workSessionId = true := by
      simp only [canResume, Bool.and_eq_true, Bool.not_eq_true'] at hresume
      exact ⟨hresume.1.1.2, hresume.1.2, hresume.2⟩
    rw [hkeptLater.session] at hflags
    rcases run_started hstart hprudent hwhole hflags.1 hflags.2.1 with hstarted | ⟨hknown, hopen, hsame, hnone⟩
    · exact .inl hstarted
    · exact .inr ⟨hknown, hopen, hsame, hsame ▸ hflags.2.2, hnone⟩

/-- What is stored before the first start. -/
def blank : WorkRecord where
  state := none
  revision := 0
  conversationKey := .str (Js.units "chat")
  origin := .undefined
  aiId := .undefined
  conversationId := .undefined
  startIntentId := .undefined
  workSessionId := .undefined
  workGeneration := 0
  terminalStateKnown := false
  finished := false
  finishedAt := .undefined
  updatedAt := .undefined
  error := .undefined
  admissionProvenance := none
  promptTree := none

def start (id : JsString) : Step := ⟨.binding, { Patch.empty with startIntentId := some (.str id) }, []⟩

def move (next : WorkState) : Step := ⟨next, Patch.empty, []⟩

/-- Work is started, hidden, finished and started anew. -/
theorem restarted_work_identity : ∃ earlier later,
    run (normalize blank) [start (Js.units "a"), move .activeVisible, move .finishing] = some earlier ∧
      run earlier [move .inactive, start (Js.units "b")] = some later ∧
      earlier.workGeneration < later.workGeneration := by
  have hrun : ((run (normalize blank) [start (Js.units "a"), move .activeVisible, move .finishing]).bind
      fun earlier => (run earlier [move .inactive, start (Js.units "b")]).map fun later =>
        (earlier.finished, later.state)) = some (true, some .binding) := by decide +kernel
  obtain ⟨earlier, hearlier, hrest⟩ := Option.bind_eq_some_iff.mp hrun
  obtain ⟨later, hlater, heq⟩ := Option.map_eq_some_iff.mp hrest
  obtain ⟨hfinished, hstate⟩ := Prod.mk.inj heq
  have hlaws := work_session_identity false blank earlier later
    [start (Js.units "a"), move .activeVisible, move .finishing] [move .inactive, start (Js.units "b")]
    (by decide +kernel) hearlier hlater
  exact ⟨earlier, later, hearlier, hlater, (hlaws.2.2.2.1 hfinished (by simp) .binding (by decide) hstate).1⟩

/-- A start intent that comes with a stop becomes a work session one step later. -/
theorem stop_makes_work_session : ∃ earlier later,
    run (normalize blank) [⟨.inactive, { Patch.empty with startIntentId := some (.str (Js.units "x")) }, []⟩] =
        some earlier ∧
      run earlier [move .inactive] = some later ∧ earlier.workGeneration = later.workGeneration ∧
      earlier.workSessionId = .null ∧ later.workSessionId = .str (Js.units "x") :=
  ⟨_, _, rfl, rfl, rfl, rfl, rfl⟩

end SellerAgents.Work
