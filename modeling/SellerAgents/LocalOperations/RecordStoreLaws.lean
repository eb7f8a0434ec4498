import SellerAgents.LocalOperations.RecordStore

open SellerAgents.Js

namespace SellerAgents.LocalOperations

variable {ρ τ : Type}

section Applied

/-- The record under a key, null when there is none. -/
def recordAt (records : JsMap String ρ) (key : String) : Current ρ :=
  match records.get key with
  | some value => .record value
  | none => .null

variable (stamp : ρ → τ → ρ)

/-- What a call is to make of the records; a mutator that throws leaves them as they are. -/
def applyCall (records : JsMap String ρ) (call : MutateCall ρ) (now : τ) : JsMap String ρ :=
  match call.mutator (recordAt records call.key) with
  | .throws => records
  | .returns none => records.delete call.key
  | .returns (some next) => records.set call.key (stamp next now)

/-- Calls applied one after the other. -/
def applyCalls (records : JsMap String ρ) (calls : List (MutateCall ρ × τ)) : JsMap String ρ :=
  calls.foldl (fun records call => applyCall stamp records call.1 call.2) records

/-- The confirmed calls with their readings of the clock. -/
def confirmedCall : MutateCall ρ × Settlement ρ τ → Option (MutateCall ρ × τ)
  | (call, .confirmed now _) => some (call, now)
  | _ => none

/-- The calls that were answered with success, with what they wrote. -/
def RecordStore.confirmed (s : RecordStore ρ τ) : List (MutateCall ρ × τ) :=
  s.settled.filterMap confirmedCall

end Applied

/-- Two maps of the same records. -/
def Agree (records others : JsMap String ρ) : Prop := ∀ key, records.get key = others.get key

/-- A call whose key is no member of `Object.prototype`, or whose mutator takes such a member for no
record and then makes no record under `__proto__`. -/
def MutateCall.Proper (call : MutateCall ρ) : Prop :=
  call.key ∈ objectPrototypeMembers → call.mutator (.inherited call.key) = call.mutator .null ∧
    (call.key = "__proto__" → ∀ value, call.mutator .null ≠ .returns (some value))

section Agreement

variable {stamp : ρ → τ → ρ} {records others : JsMap String ρ}

theorem Agree.trans {third : JsMap String ρ} (h : Agree records others) (h' : Agree others third) :
    Agree records third :=
  fun key => (h key).trans (h' key)

/-- Equal bytes are of the same records. -/
theorem agree_of_recordBytes (h : recordBytes records = recordBytes others) :
    Agree records others := by
  have hperm : records.entries.Perm others.entries := by
    have hleft := List.mergeSort_perm records.entries fun a b => a.1 ≤ b.1
    have hright := List.mergeSort_perm others.entries fun a b => a.1 ≤ b.1
    rw [recordBytes, recordBytes] at h
    rw [h] at hleft
    exact hleft.symm.trans hright
  intro key
  cases hget : records.get key with
  | some value =>
    have hmem := hperm.mem_iff.mp (Properties.mem_of_get hget)
    exact (Properties.get_of_mem others.nodup hmem).symm
  | none =>
    cases hother : others.get key with
    | none => rfl
    | some value =>
      have hmem := hperm.mem_iff.mpr (Properties.mem_of_get hother)
      rw [JsMap.get, Properties.get_of_mem records.nodup hmem] at hget
      cases hget

/-- The mutator of a proper call makes of what it is given what it makes of the record. -/
theorem MutateCall.Proper.outcome {call : MutateCall ρ} (h : call.Proper) :
    call.mutator (currentRecord records call.key) =
      call.mutator (LocalOperations.recordAt records call.key) := by
  rw [currentRecord, LocalOperations.recordAt]
  cases records.get call.key with
  | some value => rfl
  | none =>
    simp only
    split
    · rename_i hmember
      exact (h hmember).1
    · rfl

/-- What a proper call assigns is set. -/
theorem MutateCall.Proper.assign {call : MutateCall ρ} (h : call.Proper) {next : ρ}
    (houtcome : call.mutator (LocalOperations.recordAt records call.key) = .returns (some next))
    (value : ρ) : assignRecord records call.key value = records.set call.key value := by
  rw [assignRecord, if_neg]
  rintro ⟨hkey, hnone⟩
  have hmember : call.key ∈ objectPrototypeMembers := by
    rw [hkey]
    decide
  rw [LocalOperations.recordAt, hnone] at houtcome
  exact (h hmember).2 hkey next houtcome

theorem Agree.recordAt (h : Agree records others) (key : String) :
    recordAt records key = recordAt others key := by
  rw [LocalOperations.recordAt, LocalOperations.recordAt, h key]

end Agreement

section Calls

variable {stamp : ρ → τ → ρ} {records others : JsMap String ρ} {call : MutateCall ρ} {now : τ}

/-- What a call with a proper key writes is what it is to make of the records. -/
theorem nextRecords_agree (hproper : call.Proper) (h : Agree records others) {next : Option ρ}
    (houtcome : call.mutator (currentRecord records call.key) = .returns next) :
    Agree (nextRecords stamp records call.key next now) (applyCall stamp others call now) := by
  rw [hproper.outcome] at houtcome
  rw [h.recordAt] at houtcome
  intro key
  cases next with
  | none => simp only [nextRecords, applyCall, houtcome, JsMap.get_delete, h key]
  | some value =>
    rw [← h.recordAt] at houtcome
    have hset := hproper.assign houtcome (stamp value now)
    rw [h.recordAt] at houtcome
    simp only [nextRecords, applyCall, houtcome, hset, JsMap.get_set, h key]

theorem applyCalls_append (calls : List (MutateCall ρ × τ)) :
    applyCalls stamp records (calls ++ [(call, now)]) =
      applyCall stamp (applyCalls stamp records calls) call now := by
  rw [applyCalls, List.foldl_append]
  rfl

end Calls

namespace RecordStore

variable {s s' : RecordStore ρ τ}

/-- No write is in flight, none waits to be read back and none is unconfirmed. -/
def Quiet (s : RecordStore ρ τ) : Prop :=
  s.unconfirmed = false ∧ ∀ call phase, s.active = some (call, phase) →
    phase = .reading ∨ ∃ records, phase = .mutating records

/-- The records of the confirmed calls. -/
def expected (stamp : ρ → τ → ρ) (initial : JsMap String ρ) (s : RecordStore ρ τ) : JsMap String ρ :=
  applyCalls stamp initial s.confirmed

/-- What holds of a store whose calls have proper keys. -/
structure Inv (stamp : ρ → τ → ρ) (initial : JsMap String ρ) (s : RecordStore ρ τ) : Prop where
  queue : ∀ call ∈ s.queue, call.Proper
  active : ∀ call phase, s.active = some (call, phase) → call.Proper
  latched : s.unconfirmed = true → s.unavailable.isSome = true ∧ s.active = none
  stored : s.Quiet → Agree (s.stored.getD .empty) (s.expected stamp initial)
  mutating : ∀ call records, s.active = some (call, .mutating records) →
    Agree records (s.expected stamp initial)
  writing : ∀ call records now returned,
    s.active = some (call, .writing records now returned) ∨
      s.active = some (call, .confirming records now returned) →
    Agree records (applyCall stamp (s.expected stamp initial) call now)

theorem confirmed_settle (call : MutateCall ρ) (settlement : Settlement ρ τ) :
    (s.settle call settlement).confirmed =
      s.confirmed ++ (confirmedCall (call, settlement)).toList := by
  rw [confirmed, settle, List.filterMap_append, ← confirmed]
  cases h : confirmedCall (call, settlement) with
  | none => rw [List.filterMap_cons_none h]; rfl
  | some confirmed => rw [List.filterMap_cons_some h]; rfl

/-- A call that ends without a confirmed write leaves the expected records as they are. -/
theorem expected_settle {stamp : ρ → τ → ρ} {initial : JsMap String ρ} {call : MutateCall ρ}
    {settlement : Settlement ρ τ} (h : confirmedCall (call, settlement) = none) :
    (s.settle call settlement).expected stamp initial = s.expected stamp initial := by
  rw [expected, expected, confirmed_settle, h, Option.toList_none, List.append_nil]

variable {stamp : ρ → τ → ρ} {initial : JsMap String ρ} {call : MutateCall ρ}

theorem Inv.quiet_of_reading (h : s.Inv stamp initial) {phase : Phase ρ τ}
    (hactive : s.active = some (call, phase))
    (hphase : phase = .reading ∨ ∃ records, phase = .mutating records) : s.Quiet := by
  refine ⟨?_, fun other otherPhase hother => ?_⟩
  · cases hunconfirmed : s.unconfirmed with
    | false => rfl
    | true =>
      rw [(h.latched hunconfirmed).2] at hactive
      cases hactive
  · rw [hactive] at hother
    cases hother
    exact hphase

theorem Inv.unconfirmed_of_active (h : s.Inv stamp initial) {phase : Phase ρ τ}
    (hactive : s.active = some (call, phase)) : s.unconfirmed = false := by
  cases hunconfirmed : s.unconfirmed with
  | false => rfl
  | true =>
    rw [(h.latched hunconfirmed).2] at hactive
    cases hactive

/-- The invariant of a store in which no call runs. -/
theorem inv_idle (hactive : s.active = none) (hqueue : ∀ call ∈ s.queue, call.Proper)
    (hlatched : s.unconfirmed = true → s.unavailable.isSome = true)
    (hstored : s.unconfirmed = false → Agree (s.stored.getD .empty) (s.expected stamp initial)) :
    s.Inv stamp initial where
  queue := hqueue
  active := fun _ _ hsome => by rw [hactive] at hsome; cases hsome
  latched := fun hunconfirmed => ⟨hlatched hunconfirmed, hactive⟩
  stored := fun hquiet => hstored hquiet.1
  mutating := fun _ _ hsome => by rw [hactive] at hsome; cases hsome
  writing := by
    intro _ _ _ _ hsome
    rw [hactive] at hsome
    rcases hsome with hsome | hsome
    · cases hsome
    · cases hsome

/-- The call that runs ends without a write. -/
theorem Inv.settle (h : s.Inv stamp initial) {phase : Phase ρ τ} {settlement : Settlement ρ τ}
    (hactive : s.active = some (call, phase))
    (hphase : phase = .reading ∨ ∃ records, phase = .mutating records)
    (hnone : confirmedCall (call, settlement) = none) :
    (s.settle call settlement).Inv stamp initial := by
  refine inv_idle rfl h.queue (fun hunconfirmed => (h.latched hunconfirmed).1) fun _ => ?_
  rw [expected_settle hnone]
  exact h.stored (h.quiet_of_reading hactive hphase)

/-- The call that runs fails at a stage of its own. -/
theorem Inv.failStorage (h : s.Inv stamp initial) {phase : Phase ρ τ} {stage : Stage}
    (hactive : s.active = some (call, phase)) (hstage : stage = .read → phase = .reading) :
    (s.failStorage call stage).Inv stamp initial := by
  refine inv_idle rfl h.queue (fun _ => rfl) fun hunconfirmed => ?_
  have hboth : (s.unconfirmed || decide (stage ≠ .read)) = false := hunconfirmed
  rw [Bool.or_eq_false_iff, decide_eq_false_iff_not, not_not] at hboth
  have hsame : (s.failStorage call stage).expected stamp initial =
      (s.settle call (.failed stage)).expected stamp initial := rfl
  rw [hsame, expected_settle rfl]
  exact h.stored (h.quiet_of_reading hactive (.inl (hstage hboth.2)))

theorem not_quiet_of_mayLand (h : s.mayLand = true) : ¬ s.Quiet := by
  rintro ⟨hunconfirmed, hactive⟩
  rw [mayLand, hunconfirmed, Bool.false_or] at h
  split at h
  · rename_i call records now returned heq
    rcases hactive _ _ heq with hphase | ⟨_, hphase⟩
    · cases hphase
    · cases hphase
  · cases h

variable [DecidableEq ρ]

theorem Inv.step (h : s.Inv stamp initial) {action : Action ρ τ}
    (hproper : ∀ call, action = .mutate call → call.Proper) (hstep : step stamp s action = some s') :
    s'.Inv stamp initial := by
  cases action with
  | mutate call =>
    cases hstep
    refine ⟨fun other hmem => ?_, h.active, h.latched, h.stored, h.mutating, h.writing⟩
    rcases List.mem_append.mp hmem with hmem | hmem
    · exact h.queue other hmem
    · rw [List.mem_singleton.mp hmem]
      exact hproper call rfl
  | start =>
    simp only [LocalOperations.step] at hstep
    split at hstep
    · rename_i call rest hactive hqueue
      have hquiet : s.unconfirmed = false → s.Quiet := fun hunconfirmed =>
        ⟨hunconfirmed, fun _ _ hsome => by rw [hactive] at hsome; cases hsome⟩
      have hrest : ∀ other ∈ rest, other.Proper := fun other hmem =>
        h.queue other (hqueue ▸ List.mem_cons_of_mem _ hmem)
      split at hstep
      · rename_i hunavailable
        cases hstep
        refine inv_idle rfl hrest (fun _ => hunavailable) fun hunconfirmed => ?_
        rw [expected_settle rfl]
        exact h.stored (hquiet hunconfirmed)
      · rename_i hunavailable
        cases hstep
        refine ⟨hrest, ?_, fun hunconfirmed => ?_, fun hq => h.stored (hquiet hq.1), ?_, ?_⟩
        · intro other phase hsome
          cases hsome
          exact h.queue _ (hqueue ▸ List.mem_cons_self)
        · exact absurd (h.latched hunconfirmed).1 hunavailable
        · intro _ _ hsome
          cases hsome
        · rintro _ _ _ _ (hsome | hsome)
          · cases hsome
          · cases hsome
    · cases hstep
  | read ok =>
    simp only [LocalOperations.step] at hstep
    split at hstep
    · rename_i call hactive
      have hquiet := h.quiet_of_reading hactive (.inl rfl)
      split at hstep
      · cases hstep
        refine ⟨h.queue, ?_, fun hunconfirmed => ?_, fun _ => h.stored hquiet, ?_, ?_⟩
        · intro other phase hsome
          cases hsome
          exact h.active call _ hactive
        · rw [hquiet.1] at hunconfirmed
          cases hunconfirmed
        · intro other records hsome
          cases hsome
          exact h.stored hquiet
        · rintro _ _ _ _ (hsome | hsome)
          · cases hsome
          · cases hsome
      · cases hstep
        exact h.failStorage hactive fun _ => rfl
    · cases hstep
  | mutated now =>
    simp only [LocalOperations.step] at hstep
    split at hstep
    · rename_i call records hactive
      have hquiet := h.quiet_of_reading hactive (.inr ⟨records, rfl⟩)
      split at hstep
      · cases hstep
        exact h.settle hactive (.inr ⟨records, rfl⟩) rfl
      · rename_i next houtcome
        split at hstep
        · cases hstep
          exact h.settle hactive (.inr ⟨records, rfl⟩) rfl
        · cases hstep
          have hcall := h.active call _ hactive
          refine ⟨h.queue, ?_, fun hunconfirmed => ?_, fun hq => ?_, ?_, ?_⟩
          · intro other phase hsome
            cases hsome
            exact hcall
          · rw [hquiet.1] at hunconfirmed
            cases hunconfirmed
          · rcases hq.2 _ _ rfl with hphase | ⟨_, hphase⟩
            · cases hphase
            · cases hphase
          · intro _ _ hsome
            cases hsome
          · rintro _ _ _ _ (hsome | hsome)
            · cases hsome
              exact nextRecords_agree hcall (h.mutating call records hactive) houtcome
            · cases hsome
    · cases hstep
  | land content =>
    simp only [LocalOperations.step] at hstep
    split at hstep
    · rename_i hmay
      cases hstep
      exact ⟨h.queue, h.active, h.latched, fun hq => absurd hq (not_quiet_of_mayLand hmay),
        h.mutating, h.writing⟩
    · cases hstep
  | written ok =>
    simp only [LocalOperations.step] at hstep
    split at hstep
    · rename_i call records now returned hactive
      split at hstep
      · cases hstep
        refine ⟨h.queue, ?_, fun hunconfirmed => ?_, fun hq => ?_, ?_, ?_⟩
        · intro other phase hsome
          cases hsome
          exact h.active call _ hactive
        · rw [h.unconfirmed_of_active hactive] at hunconfirmed
          cases hunconfirmed
        · rcases hq.2 _ _ rfl with hphase | ⟨_, hphase⟩
          · cases hphase
          · cases hphase
        · intro _ _ hsome
          cases hsome
        · rintro _ _ _ _ (hsome | hsome)
          · cases hsome
          · cases hsome
            exact h.writing call records now returned (.inl hactive)
      · cases hstep
        exact h.failStorage hactive fun hstage => Stage.noConfusion hstage
    · cases hstep
  | readBack ok =>
    simp only [LocalOperations.step] at hstep
    split at hstep
    · rename_i call records now returned hactive
      split at hstep
      · rename_i hbytes
        cases hstep
        refine inv_idle rfl h.queue (fun hunconfirmed => (h.latched hunconfirmed).1) fun _ => ?_
        rw [Bool.and_eq_true, decide_eq_true_eq, Option.map_eq_some_iff] at hbytes
        obtain ⟨-, observed, hobserved, hsame⟩ := hbytes
        have hstored : (s.settle call (.confirmed now returned)).stored.getD .empty = observed := by
          rw [RecordStore.settle, hobserved, Option.getD_some]
        rw [hstored, expected, confirmed_settle]
        simp only [confirmedCall, Option.toList_some, applyCalls_append]
        exact (agree_of_recordBytes hsame).trans (h.writing call records now returned (.inr hactive))
      · cases hstep
        exact h.failStorage hactive fun hstage => Stage.noConfusion hstage
    · cases hstep
  | getFails =>
    cases hstep
    exact ⟨h.queue, h.active, fun hunconfirmed => ⟨rfl, (h.latched hunconfirmed).2⟩, h.stored,
      h.mutating, h.writing⟩

theorem Inv.run (h : s.Inv stamp initial) {actions : List (Action ρ τ)}
    (hproper : ∀ call, .mutate call ∈ actions → call.Proper) (hrun : run stamp s actions = some s') :
    s'.Inv stamp initial := by
  induction actions generalizing s with
  | nil =>
    cases hrun
    exact h
  | cons action rest ih =>
    rw [LocalOperations.run, List.foldlM_cons, Option.bind_eq_bind, Option.bind_eq_some_iff] at hrun
    obtain ⟨next, hstep, hrest⟩ := hrun
    have hnext := h.step (fun call heq => hproper call (heq ▸ List.mem_cons_self)) hstep
    exact ih hnext (fun call hmem => hproper call (List.mem_cons_of_mem _ hmem)) hrest

section Order

/-- The calls of a store: the settled ones, the one that runs and those that wait. -/
def calls (s : RecordStore ρ τ) : List (MutateCall ρ) :=
  s.settled.map Prod.fst ++ (s.active.map Prod.fst).toList ++ s.queue

/-- The call that an action issues. -/
def issued : Action ρ τ → Option (MutateCall ρ)
  | .mutate call => some call
  | _ => none

omit [DecidableEq ρ] in
theorem calls_settle {phase : Phase ρ τ} (hactive : s.active = some (call, phase))
    (settlement : Settlement ρ τ) : (s.settle call settlement).calls = s.calls := by
  simp [calls, RecordStore.settle, hactive]

theorem calls_step {action : Action ρ τ} (hstep : step stamp s action = some s') :
    s'.calls = s.calls ++ (issued action).toList := by
  have hfail : ∀ {call : MutateCall ρ} {phase : Phase ρ τ} (stage : Stage),
      s.active = some (call, phase) → (s.failStorage call stage).calls = s.calls :=
    fun stage hactive => calls_settle hactive (.failed stage)
  cases action with
  | mutate call =>
    cases hstep
    simp [calls, issued]
  | start =>
    simp only [step] at hstep
    split at hstep
    · rename_i call rest hactive hqueue
      split at hstep
      · cases hstep
        simp [calls, issued, RecordStore.settle, hactive, hqueue]
      · cases hstep
        simp [calls, issued, hactive, hqueue]
    · cases hstep
  | read ok =>
    simp only [step] at hstep
    split at hstep
    · rename_i call hactive
      split at hstep
      · cases hstep
        simp [calls, issued, hactive]
      · cases hstep
        simp [issued, hfail .read hactive]
    · cases hstep
  | mutated now =>
    simp only [step] at hstep
    split at hstep
    · rename_i call records hactive
      split at hstep
      · cases hstep
        simp [issued, calls_settle hactive]
      · split at hstep
        · cases hstep
          simp [issued, calls_settle hactive]
        · cases hstep
          simp [calls, issued, hactive]
    · cases hstep
  | land content =>
    simp only [step] at hstep
    split at hstep
    · cases hstep
      simp [calls, issued]
    · cases hstep
  | written ok =>
    simp only [step] at hstep
    split at hstep
    · rename_i call records now returned hactive
      split at hstep
      · cases hstep
        simp [calls, issued, hactive]
      · cases hstep
        simp [issued, hfail .write hactive]
    · cases hstep
  | readBack ok =>
    simp only [step] at hstep
    split at hstep
    · rename_i call records now returned hactive
      split at hstep
      · cases hstep
        simp [issued, calls_settle hactive]
      · cases hstep
        simp [issued, hfail .readback hactive]
    · cases hstep
  | getFails =>
    cases hstep
    simp [calls, issued]

/-- Calls are settled in the order in which they were issued. -/
theorem calls_run {actions : List (Action ρ τ)} (hrun : run stamp s actions = some s') :
    s'.calls = s.calls ++ actions.filterMap issued := by
  induction actions generalizing s with
  | nil =>
    cases hrun
    simp
  | cons action rest ih =>
    rw [LocalOperations.run, List.foldlM_cons, Option.bind_eq_bind, Option.bind_eq_some_iff] at hrun
    obtain ⟨next, hstep, hrest⟩ := hrun
    rw [ih hrest, calls_step hstep, List.append_assoc]
    cases hissued : issued action with
    | none => simp [hissued]
    | some call => simp [hissued]

end Order

section Latch

/-- A store with an unconfirmed write refuses every further call. -/
theorem refuses_step (hunavailable : s.unavailable.isSome = true) (hactive : s.active = none)
    {action : Action ρ τ} (hstep : step stamp s action = some s') :
    (s'.unavailable.isSome = true ∧ s'.active = none) ∧
      ∃ refused, s'.settled = s.settled ++ refused ∧
        ∀ entry ∈ refused, entry.2 = Settlement.unavailable := by
  cases action with
  | mutate call =>
    cases hstep
    exact ⟨⟨hunavailable, hactive⟩, [], by simp, by simp⟩
  | start =>
    simp only [step, hactive, hunavailable, if_true] at hstep
    split at hstep
    · rename_i call rest _ hqueue
      cases hstep
      exact ⟨⟨hunavailable, rfl⟩, [(call, .unavailable)], rfl, by simp⟩
    · cases hstep
  | read ok =>
    rw [step, hactive] at hstep
    cases hstep
  | mutated now =>
    rw [step, hactive] at hstep
    cases hstep
  | land content =>
    simp only [step] at hstep
    split at hstep
    · cases hstep
      exact ⟨⟨hunavailable, hactive⟩, [], by simp, by simp⟩
    · cases hstep
  | written ok =>
    rw [step, hactive] at hstep
    cases hstep
  | readBack ok =>
    rw [step, hactive] at hstep
    cases hstep
  | getFails =>
    cases hstep
    exact ⟨⟨rfl, hactive⟩, [], by simp, by simp⟩

theorem refuses_run (hunavailable : s.unavailable.isSome = true) (hactive : s.active = none)
    {actions : List (Action ρ τ)} (hrun : run stamp s actions = some s') :
    s'.active = none ∧ ∃ refused, s'.settled = s.settled ++ refused ∧
      ∀ entry ∈ refused, entry.2 = Settlement.unavailable := by
  induction actions generalizing s with
  | nil =>
    cases hrun
    exact ⟨hactive, [], by simp, by simp⟩
  | cons action rest ih =>
    rw [LocalOperations.run, List.foldlM_cons, Option.bind_eq_bind, Option.bind_eq_some_iff] at hrun
    obtain ⟨next, hstep, hrest⟩ := hrun
    obtain ⟨⟨hunavailable', hactive'⟩, first, hsettled, hfirst⟩ :=
      refuses_step hunavailable hactive hstep
    obtain ⟨hdone, others, hsettled', hothers⟩ := ih hunavailable' hactive' hrest
    refine ⟨hdone, first ++ others, ?_, ?_⟩
    · rw [hsettled', hsettled, List.append_assoc]
    · intro entry hmem
      rcases List.mem_append.mp hmem with hmem | hmem
      · exact hfirst entry hmem
      · exact hothers entry hmem

end Latch

section Progress

/-- With a storage that works the next call ends, and the store stays available. -/
theorem proceeds {rest : List (MutateCall ρ)} (now : τ) (hunavailable : s.unavailable = none)
    (hactive : s.active = none) (hqueue : s.queue = call :: rest) :
    ∃ actions s' settlement, run stamp s actions = some s' ∧ s'.queue = rest ∧ s'.active = none ∧
      s'.unavailable = none ∧ s'.settled = s.settled ++ [(call, settlement)] ∧
      (settlement = .mutatorThrew ∨ ∃ returned, settlement = .confirmed now returned) := by
  cases houtcome : call.mutator (currentRecord (s.stored.getD .empty) call.key) with
  | throws =>
    refine ⟨[.start, .read true, .mutated now],
      { s with queue := rest, active := none, settled := s.settled ++ [(call, .mutatorThrew)] },
      .mutatorThrew, ?_, rfl, rfl, hunavailable, rfl, .inl rfl⟩
    simp [run, step, RecordStore.settle, hactive, hqueue, hunavailable, houtcome]
  | returns next =>
    let records := nextRecords stamp (s.stored.getD .empty) call.key next now
    let returned := returnedRecord stamp (s.stored.getD .empty) call.key next now
    refine ⟨[.start, .read true, .mutated now, .land (some records), .written true, .readBack true],
      { s with
        stored := some records
        queue := rest
        active := none
        settled := s.settled ++ [(call, .confirmed now returned)] },
      .confirmed now returned, ?_, rfl, rfl, hunavailable, rfl, .inr ⟨returned, rfl⟩⟩
    simp [run, step, mayLand, RecordStore.settle, hactive, hqueue, hunavailable, houtcome, records,
      returned]

end Progress

/-- What a store is to keep to in every state `s` of its runs from `start`. -/
structure LosesNoUpdate (stamp : ρ → τ → ρ) (start s : RecordStore ρ τ)
    (actions : List (Action ρ τ)) : Prop where
  /-- Calls are settled in the order in which they were issued. -/
  order : s.calls = actions.filterMap issued
  /-- After a confirmed write the storage holds what the confirmed calls make one after the other. -/
  persisted : s.Quiet →
    Agree (s.stored.getD .empty) (applyCalls stamp (start.stored.getD .empty) s.confirmed)
  /-- A mutator that throws changes neither the storage nor the availability. -/
  throws : ∀ call records now, s.active = some (call, .mutating records) →
    call.mutator (currentRecord records call.key) = .throws →
    step stamp s (.mutated now) = some (s.settle call .mutatorThrew)
  /-- The next call of an available store can be run to its end. -/
  proceeds : ∀ call rest now, s.unavailable = none → s.active = none → s.queue = call :: rest →
    ∃ more s' settlement, run stamp s more = some s' ∧ s'.queue = rest ∧ s'.active = none ∧
      s'.unavailable = none ∧ s'.settled = s.settled ++ [(call, settlement)] ∧
      (settlement = .mutatorThrew ∨ ∃ returned, settlement = .confirmed now returned)
  /-- After an unconfirmed write no mutator runs and nothing is written. -/
  stops : s.unconfirmed = true → ∀ later s', run stamp s later = some s' → s'.active = none ∧
    ∃ refused, s'.settled = s.settled ++ refused ∧
      ∀ entry ∈ refused, entry.2 = Settlement.unavailable

/-- A run whose calls have proper keys loses no update. -/
theorem record_store_loses_no_update (stamp : ρ → τ → ρ) (stored : Option (JsMap String ρ))
    (actions : List (Action ρ τ)) (s : RecordStore ρ τ)
    (hproper : ∀ call, Action.mutate call ∈ actions → call.Proper)
    (hrun : run stamp { stored } actions = some s) : LosesNoUpdate stamp { stored } s actions := by
  have hstart : RecordStore.Inv stamp (stored.getD .empty) ({ stored } : RecordStore ρ τ) :=
    inv_idle rfl (fun _ hmem => absurd hmem List.not_mem_nil) (fun h => Bool.noConfusion h)
      fun _ _ => rfl
  have hinv := hstart.run hproper hrun
  refine ⟨calls_run hrun, hinv.stored, ?_, fun _ _ => proceeds, ?_⟩
  · intro call records now hactive hthrows
    simp [step, hactive, hthrows]
  · intro hunconfirmed later s' hlater
    obtain ⟨hunavailable, hactive⟩ := hinv.latched hunconfirmed
    exact refuses_run hunavailable hactive hlater

end RecordStore

section Runs

/-- Two updates of one record, a mutator that throws between them. -/
def twoUpdates : List (Action Nat Unit) :=
  [.mutate ⟨"chatgpt|a", fun _ => .returns (some 1)⟩, .mutate ⟨"chatgpt|a", fun _ => .throws⟩,
    .mutate ⟨"chatgpt|a", fun current => .returns (if current = .record 1 then some 2 else none)⟩,
    .start, .read true, .mutated (), .land (some (JsMap.empty.set "chatgpt|a" 1)), .written true,
    .readBack true, .start, .read true, .mutated (), .start, .read true, .mutated (),
    .land (some (JsMap.empty.set "chatgpt|a" 2)), .written true, .readBack true]

theorem record_store_two_updates : ∃ s : RecordStore Nat Unit,
    run (fun record _ => record) { stored := none } twoUpdates = some s ∧
      RecordStore.LosesNoUpdate (fun record _ => record) { stored := none } s twoUpdates := by
  have hproper : ∀ call, Action.mutate call ∈ twoUpdates → call.Proper := by
    intro call hmem
    simp only [twoUpdates, List.mem_cons, Action.mutate.injEq, reduceCtorEq, List.not_mem_nil,
      or_false] at hmem
    rcases hmem with rfl | rfl | rfl
    all_goals exact fun hmember => absurd hmember (by decide)
  obtain ⟨s, hrun⟩ : ∃ s, run (fun record _ => record) { stored := none } twoUpdates = some s :=
    Option.isSome_iff_exists.mp (by decide +kernel)
  exact ⟨s, hrun, RecordStore.record_store_loses_no_update _ none twoUpdates s hproper hrun⟩

/-- One update of the key `__proto__`, with a storage that works. -/
def prototypeUpdate : List (Action Nat Unit) :=
  [.mutate ⟨"__proto__", fun _ => .returns (some 1)⟩, .start, .read true, .mutated (),
    .land (some JsMap.empty), .written true, .readBack true]

/-- The update is confirmed, but the storage has no record of it. -/
theorem prototype_update_lost : ∃ s : RecordStore Nat Unit,
    run (fun record _ => record) { stored := none } prototypeUpdate = some s ∧
      s.settled.map Prod.snd = [.confirmed () (.record 1)] ∧ s.stored = some JsMap.empty ∧
      ¬ RecordStore.LosesNoUpdate (fun record _ => record) { stored := none } s prototypeUpdate := by
  let call : MutateCall Nat := ⟨"__proto__", fun _ => .returns (some 1)⟩
  let s : RecordStore Nat Unit :=
    { stored := some JsMap.empty, settled := [(call, .confirmed () (.record 1))] }
  refine ⟨s, ?_, rfl, rfl, fun h => ?_⟩
  · simp [prototypeUpdate, run, step, RecordStore.mayLand, RecordStore.settle, nextRecords,
      returnedRecord, assignRecord, call, s]
  · have hquiet : s.Quiet := by
      refine ⟨rfl, fun _ _ hsome => ?_⟩
      cases hsome
    have hkey := h.persisted hquiet "__proto__"
    simp [RecordStore.confirmed, confirmedCall, applyCalls, applyCall, call, s] at hkey

end Runs

end SellerAgents.LocalOperations
