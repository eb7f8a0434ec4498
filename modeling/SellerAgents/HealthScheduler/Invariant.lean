import SellerAgents.HealthScheduler.Cycle
import SellerAgents.HealthScheduler.Moves

open Relational Concurrent

namespace SellerAgents.HealthScheduler

variable {T : Type}

/-- What a cycle has done for a run. -/
inductive Deed where
  | claimed (run : HealthScheduledRun)
  | started (run : HealthScheduledRun)
  | called (run : HealthScheduledRun)
  | settled (run : HealthScheduledRun) (execution : Execution)

/-- What an answered call did to a run, and who made it. -/
def deedOf : HealthEvent T → Option (T × Deed)
  | .act t (.claimNext _) (.ok (some run)) _ _ => some (t, .claimed run)
  | .act t (.startRun _) (.ok run) _ _ => some (t, .started run)
  | .act t (.execute run) _ _ _ => some (t, .called run)
  | .act t (.settle run) execution _ _ => some (t, .settled run execution)
  | _ => none

/-- What the cycles have done, newest first. -/
def deeds (log : List (HealthEvent T)) : List (T × Deed) := log.filterMap deedOf

/-- The call of `execute` returned a failure that may be tried again. -/
def GaveUp (done : List (T × Deed)) (t : T) (run : HealthScheduledRun) : Prop :=
  ∃ failureClass failureCode,
    (t, .settled run (.returned (.FAILED failureClass failureCode))) ∈ done ∧
      classifyFailure failureClass failureCode = .FAILED_RETRYABLE

def Deed.starts (deed : Deed) (id : String) : Bool :=
  match deed with
  | .started run => run.id = id
  | _ => false

/-- How often a run was started. -/
def startsOf (done : List (T × Deed)) (id : String) : Nat := done.countP (·.2.starts id)

/-- What holds of the tables. -/
structure TablesInv (db : HealthDatabase) : Prop where
  ids : UniqueBy (fun r => some r.id) db.runs
  slots : UniqueBy (fun r => some r.slot) db.runs
  scheduleIds : UniqueBy (fun s => some s.scheduleId) db.schedules
  revisions : ∀ row ∈ db.runs, ∃ s ∈ db.schedules, s.scheduleId = row.scheduleId ∧
    row.scheduleRevision ≤ s.revision ∧
      (row.scheduleRevision = s.revision → row.monitorTarget = s.monitorTarget)
  targets : ∀ row ∈ db.runs, ∀ other ∈ db.runs, row.scheduleId = other.scheduleId →
    row.scheduleRevision = other.scheduleRevision → row.monitorTarget = other.monitorTarget
  attempts : ∀ row ∈ db.runs, 1 ≤ row.attempt

/-- What holds of the deeds: every call was started under a lease of its own. -/
structure DeedsInv (done : List (T × Deed)) (db : HealthDatabase) : Prop where
  nodup : done.Nodup
  claimed : ∀ t run, (t, .claimed run) ∈ done → ∃ l ∈ db.drawn, run.leaseId = some l
  claimers : ∀ t run t' run', (t, .claimed run) ∈ done → (t', .claimed run') ∈ done →
    run.leaseId = run'.leaseId → t = t'
  started : ∀ t run, (t, .started run) ∈ done →
    (∃ claim, (t, .claimed claim) ∈ done ∧ claim.leaseId = run.leaseId) ∧
      ∃ row ∈ db.runs, row.id = run.id ∧ row.probeLayer = run.probeLayer
  starters : ∀ t run t' run', (t, .started run) ∈ done → (t', .started run') ∈ done →
    run.leaseId = run'.leaseId → t = t' ∧ run = run'
  called : ∀ t run, (t, .called run) ∈ done → (t, .started run) ∈ done
  settled : ∀ t run execution, (t, .settled run execution) ∈ done → (t, .called run) ∈ done
  settledOnce : ∀ t run execution execution', (t, .settled run execution) ∈ done →
    (t, .settled run execution') ∈ done → execution = execution'

/-- What holds of the executions: an authenticated run that was started is given up by its call,
final, or still held under the lease of its start. -/
structure RunsInv (done : List (T × Deed)) (db : HealthDatabase) : Prop where
  held : ∀ t run, (t, .started run) ∈ done → run.probeLayer = .AUTHENTICATED_DEEP →
    GaveUp done t run ∨ ∀ row ∈ db.runs, row.id = run.id →
      row.Final ∨ (row.state = .RUNNING ∧ row.leaseId = run.leaseId)
  others : ∀ t run t' run', (t, .started run) ∈ done → (t', .started run') ∈ done →
    run.id = run'.id → run.probeLayer = .AUTHENTICATED_DEEP →
      (t = t' ∧ run = run') ∨ GaveUp done t run ∨ GaveUp done t' run'
  count : ∀ row ∈ db.runs, startsOf done row.id ≤ row.spent

/-- The invariant of the tables and of the deeds so far. -/
structure HealthInv (done : List (T × Deed)) (db : HealthDatabase) : Prop where
  tables : TablesInv db
  deeds : DeedsInv done db
  runs : RunsInv done db

theorem healthInv_start : HealthInv ([] : List (T × Deed)) {} where
  tables := by constructor <;> simp [UniqueBy]
  deeds := by constructor <;> simp
  runs := by constructor <;> simp

variable {done : List (T × Deed)} {db db' : HealthDatabase} {lease : Option String} {t : T}

variable {run : HealthScheduledRun} {l : String}

theorem GaveUp.mono {done' : List (T × Deed)} (h : GaveUp done t run) (hsub : ∀ d ∈ done, d ∈ done') : GaveUp done' t run := by
  obtain ⟨failureClass, failureCode, hmem, hretry⟩ := h
  exact ⟨failureClass, failureCode, hsub _ hmem, hretry⟩

/-! The moves of the runs. -/

theorem TablesInv.move (h : TablesInv db) (hm : RunsMove lease db db') : TablesInv db' := by
  obtain ⟨move, hruns, hmove⟩ := hm.runs
  obtain ⟨set, hschedules, hset⟩ := hm.schedules
  have hslot {row : ScheduledRunRow} (hrow : row ∈ db.runs) := (hmove row hrow).1.slot
  refine ⟨hm.ids h.ids, ?_, ?_, ?_, ?_, ?_⟩
  · rw [hruns]
    exact h.slots.map fun row hrow => congrArg some (hslot hrow)
  · rw [hschedules]
    exact h.scheduleIds.map fun s _ => congrArg some (hset s).scheduleId
  · rw [hruns, hschedules]
    intro row' hrow'
    obtain ⟨row, hrow, rfl⟩ := List.mem_map.mp hrow'
    obtain ⟨s, hs, hid, hle, htarget⟩ := h.revisions row hrow
    have hsame := hslot hrow
    simp only [ScheduledRunRow.slot, Prod.mk.injEq] at hsame
    refine ⟨set s, List.mem_map_of_mem hs, ?_⟩
    rw [(hset s).scheduleId, (hset s).revision, (hset s).monitorTarget, hsame.1, hsame.2.1,
      hsame.2.2.2]
    exact ⟨hid, hle, htarget⟩
  · rw [hruns]
    intro row' hrow' other' hother'
    obtain ⟨row, hrow, rfl⟩ := List.mem_map.mp hrow'
    obtain ⟨other, hother, rfl⟩ := List.mem_map.mp hother'
    have hsame := hslot hrow
    have hsame' := hslot hother
    simp only [ScheduledRunRow.slot, Prod.mk.injEq] at hsame hsame'
    rw [hsame.1, hsame.2.1, hsame.2.2.2, hsame'.1, hsame'.2.1, hsame'.2.2.2]
    exact h.targets row hrow other hother
  · rw [hruns]
    intro row' hrow'
    obtain ⟨row, hrow, rfl⟩ := List.mem_map.mp hrow'
    exact Nat.le_trans (h.attempts row hrow) (hmove row hrow).1.attempt

theorem DeedsInv.move (h : DeedsInv done db) (hm : RunsMove lease db db') : DeedsInv done db' := by
  obtain ⟨move, hruns, hmove⟩ := hm.runs
  refine { h with
    claimed := fun t run hdone => ?_
    started := fun t run hdone => ?_ }
  · obtain ⟨l, hl, hlease⟩ := h.claimed t run hdone
    exact ⟨l, hm.drawn l hl, hlease⟩
  · obtain ⟨hclaim, row, hrow, hid, hlayer⟩ := h.started t run hdone
    obtain ⟨hrowMove, -⟩ := hmove row hrow
    refine ⟨hclaim, move row, hruns ▸ List.mem_map_of_mem hrow, ?_⟩
    exact ⟨hrowMove.id.trans hid, hrowMove.probeLayer.trans hlayer⟩

/-- A run that its holder gives up was given up by its call. -/
def Released (done : List (T × Deed)) (lease : Option String) : Prop :=
  ∀ t run, (t, .started run) ∈ done → run.probeLayer = .AUTHENTICATED_DEEP → lease.isSome →
    run.leaseId = lease → GaveUp done t run

theorem RunsInv.move (h : RunsInv done db) (hd : DeedsInv done db) (ht : TablesInv db)
    (hm : RunsMove lease db db') (hlease : Released done lease) : RunsInv done db' := by
  obtain ⟨move, hruns, hmove⟩ := hm.runs
  refine { h with
    held := fun t run hdone hlayer => ?_
    count := fun row' hrow' => ?_ }
  · rcases h.held t run hdone hlayer with hgave | hheld
    · exact .inl hgave
    by_cases hgave : GaveUp done t run
    · exact .inl hgave
    refine .inr fun row' hrow' hid' => ?_
    rw [hruns] at hrow'
    obtain ⟨row, hrow, rfl⟩ := List.mem_map.mp hrow'
    obtain ⟨hrowMove, -⟩ := hmove row hrow
    have hid : row.id = run.id := hrowMove.id.symm.trans hid'
    obtain ⟨-, own, hown, hownId, hownLayer⟩ := hd.started t run hdone
    have heq : own = row := ht.ids.eq_of_key hown hrow (congrArg some (hownId.trans hid.symm)) rfl
    subst heq
    cases hrowMove.auth (hownLayer.trans hlayer) with
    | untouched hstate hleaseId =>
      unfold ScheduledRunRow.Final
      rw [hstate, hleaseId]
      exact hheld own hown hid
    | final hfinal => exact .inl hfinal
    | idle hidle =>
      rcases hheld own hown hid with hfinal | hrunning
      · exact absurd hfinal hidle.1
      · exact absurd hrunning.1 hidle.2
    | released hrunning hleaseId hsome =>
      rcases hheld own hown hid with hfinal | ⟨-, hsame⟩
      · simp [ScheduledRunRow.Final, hrunning] at hfinal
      · exact absurd (hlease t run hdone hlayer hsome (hsame.symm.trans hleaseId)) hgave
  · rw [hruns] at hrow'
    obtain ⟨row, hrow, rfl⟩ := List.mem_map.mp hrow'
    obtain ⟨hrowMove, -⟩ := hmove row hrow
    rw [hrowMove.id]
    exact Nat.le_trans (h.count row hrow) hrowMove.spent

theorem HealthInv.move (h : HealthInv done db) (hm : RunsMove lease db db')
    (hlease : Released done lease) : HealthInv done db' :=
  ⟨h.tables.move hm, h.deeds.move hm, h.runs.move h.deeds h.tables hm hlease⟩

theorem released_none : Released done none := fun _ _ _ _ hsome => by cases hsome

/-! New rows. -/

theorem TablesInv.materialized (h : TablesInv db) (hm : Materialized db db') : TablesInv db' := by
  obtain ⟨schedule, hschedule, hashing, id, createdAt, hid, hslot, rfl⟩ := hm.inserted
  have hknown : ∀ row ∈ db.runs, row.scheduleId = schedule.scheduleId →
      row.scheduleRevision = schedule.revision → row.monitorTarget = schedule.monitorTarget := by
    intro row hrow hsame hrevision
    obtain ⟨s, hs, hs', -, htarget⟩ := h.revisions row hrow
    have heq : s = schedule := h.scheduleIds.eq_of_key hs hschedule
      (congrArg some (hs'.trans hsame)) rfl
    subst heq
    exact htarget hrevision
  refine ⟨h.ids.insert hid, h.slots.insert hslot, h.scheduleIds, ?_, ?_, ?_⟩
  · intro row hrow
    rcases List.mem_append.mp hrow with hrow | hrow
    · exact h.revisions row hrow
    · rw [List.mem_singleton.mp hrow]
      exact ⟨schedule, hschedule, rfl, Nat.le_refl _, fun _ => rfl⟩
  · intro row hrow other hother hsame hrevision
    rcases List.mem_append.mp hrow with hrow | hrow <;>
      rcases List.mem_append.mp hother with hother | hother
    · exact h.targets row hrow other hother hsame hrevision
    · rw [List.mem_singleton.mp hother] at hsame hrevision ⊢
      exact hknown row hrow hsame hrevision
    · rw [List.mem_singleton.mp hrow] at hsame hrevision ⊢
      exact (hknown other hother hsame.symm hrevision.symm).symm
    · rw [List.mem_singleton.mp hrow, List.mem_singleton.mp hother]
  · intro row hrow
    rcases List.mem_append.mp hrow with hrow | hrow
    · exact h.attempts row hrow
    · rw [List.mem_singleton.mp hrow]
      exact Nat.le_refl 1

theorem startsOf_eq_zero {id : String} (hd : DeedsInv done db) (hid : ∀ row ∈ db.runs, row.id ≠ id) :
    startsOf done id = 0 := by
  refine List.countP_eq_zero.mpr fun deed hdeed hstarts => ?_
  obtain ⟨t, deed⟩ := deed
  cases deed with
  | started run =>
    obtain ⟨-, row, hrow, hrowId, -⟩ := hd.started t run hdeed
    exact hid row hrow (hrowId.trans (of_decide_eq_true hstarts))
  | _ => cases hstarts

theorem HealthInv.materialized (h : HealthInv done db) (hm : Materialized db db') :
    HealthInv done db' := by
  refine ⟨h.tables.materialized hm, ?_, ?_⟩
  · obtain ⟨schedule, -, hashing, id, createdAt, -, -, rfl⟩ := hm.inserted
    refine { h.deeds with started := fun t run hdone => ?_ }
    obtain ⟨hclaim, row, hrow, hrun⟩ := h.deeds.started t run hdone
    exact ⟨hclaim, row, List.mem_append_left _ hrow, hrun⟩
  · obtain ⟨schedule, -, hashing, id, createdAt, hid, -, rfl⟩ := hm.inserted
    have hother : ∀ row ∈ db.runs, row.id ≠ id := by
      intro row hrow hsame
      rcases hid row hrow with hnone | hne
      · cases hnone
      · exact hne (congrArg some hsame)
    refine { h.runs with
      held := fun t run hdone hlayer => ?_
      count := fun row hrow => ?_ }
    · refine (h.runs.held t run hdone hlayer).imp_right fun hheld row hrow hrowId => ?_
      rcases List.mem_append.mp hrow with hrow | hrow
      · exact hheld row hrow hrowId
      · obtain ⟨-, own, hown, hownId, -⟩ := h.deeds.started t run hdone
        rw [List.mem_singleton.mp hrow] at hrowId
        exact absurd (hownId.trans hrowId.symm) (hother own hown)
    · rcases List.mem_append.mp hrow with hrow | hrow
      · exact h.runs.count row hrow
      · rw [List.mem_singleton.mp hrow]
        exact (Nat.le_of_eq (startsOf_eq_zero h.deeds hother)).trans (Nat.zero_le _)

/-! The steps of the others. -/

theorem TablesInv.created (h : TablesInv db) (input : HealthSchedule)
    (hid : Fresh (fun s => some s.scheduleId) input db.schedules) :
    TablesInv { db with schedules := db.schedules ++ [input] } :=
  { h with
    scheduleIds := h.scheduleIds.insert hid
    revisions := fun row hrow => by
      obtain ⟨s, hs, hrest⟩ := h.revisions row hrow
      exact ⟨s, List.mem_append_left _ hs, hrest⟩ }

theorem TablesInv.updated (h : TablesInv db) (input : UpdateScheduleInput) :
    TablesInv { db with
      schedules := updateWhere (·.scheduleId = input.scheduleId) input.candidate db.schedules } :=
  { h with
    scheduleIds := h.scheduleIds.updateWhere fun _ _ _ => .inr rfl
    revisions := fun row hrow => by
      obtain ⟨s, hs, hid, hle, htarget⟩ := h.revisions row hrow
      by_cases hsame : s.scheduleId = input.scheduleId
      · refine ⟨input.candidate s, mem_updateWhere.mpr (.inr ⟨s, hs, decide_eq_true hsame, rfl⟩), hid,
          Nat.le_succ_of_le hle, fun hrevision => ?_⟩
        have hnext : row.scheduleRevision = s.revision + 1 := hrevision
        omega
      · exact ⟨s, mem_updateWhere.mpr (.inl ⟨hs, decide_eq_false hsame⟩), hid, hle, htarget⟩ }

/-- The schedules, the persisted results and the watermarks are the others' to change. -/
theorem HealthInv.tables_congr (h : HealthInv done db) (ht : TablesInv db')
    (hruns : db'.runs = db.runs) (hdrawn : db'.drawn = db.drawn) : HealthInv done db' where
  tables := ht
  deeds := { h.deeds with
    claimed := by rw [hdrawn]; exact h.deeds.claimed
    started := by rw [hruns]; exact h.deeds.started }
  runs := { h.runs with
    held := by rw [hruns]; exact h.runs.held
    count := by rw [hruns]; exact h.runs.count }

theorem createSchedule_commits (input : HealthSchedule) :
    Commits (createSchedule input) db fun _ db' =>
      Fresh (fun s => some s.scheduleId) input db.schedules ∧
        db' = { db with schedules := db.schedules ++ [input] } := by
  unfold createSchedule
  simp only [commits_bind, commits_get, commits_ensure, commits_modify]
  exact fun hid _ => ⟨hid, trivial⟩

theorem updateSchedule_commits (input : UpdateScheduleInput) :
    Commits (updateSchedule input) db fun _ db' => db' = { db with
      schedules := updateWhere (·.scheduleId = input.scheduleId) input.candidate db.schedules } := by
  unfold updateSchedule updateSchedules
  simp only [commits_bind, commits_get]
  split
  · exact commits_throw
  · simp only [commits_bind, commits_ensure, commits_modify]
    exact fun _ => trivial

theorem HealthInv.env (h : HealthInv done db) (he : EnvStep db db') : HealthInv done db' := by
  cases he with
  | created input run =>
    obtain ⟨hid, rfl⟩ := createSchedule_commits input _ _ run
    exact h.tables_congr (h.tables.created input hid) rfl rfl
  | updated input run =>
    obtain rfl := updateSchedule_commits input _ _ run
    exact h.tables_congr (h.tables.updated input) rfl rfl
  | persisted row => exact h.tables_congr { h.tables with } rfl rfl
  | retained watermarks => exact h.tables_congr { h.tables with } rfl rfl

/-! New deeds. -/

theorem RunsInv.push (h : RunsInv done db) {deed : T × Deed}
    (hstarted : ∀ run, deed.2 ≠ .started run) : RunsInv (deed :: done) db := by
  have hold {t : T} {run : HealthScheduledRun} (hdone : (t, .started run) ∈ deed :: done) :
      (t, .started run) ∈ done := by
    rcases List.mem_cons.mp hdone with hnew | hdone
    · exact absurd (congrArg Prod.snd hnew).symm (hstarted run)
    · exact hdone
  have hgave {t : T} {run : HealthScheduledRun} (hgave : GaveUp done t run) :
      GaveUp (deed :: done) t run := hgave.mono fun _ => List.mem_cons_of_mem _
  refine ⟨fun t run hdone hlayer => (h.held t run (hold hdone) hlayer).imp_left hgave,
    fun t run t' run' hdone hdone' hid hlayer => ?_, fun row hrow => ?_⟩
  · exact (h.others t run t' run' (hold hdone) (hold hdone') hid hlayer).imp_right
      (Or.imp hgave hgave)
  · have hnot : deed.2.starts row.id = false := by
      cases hdeed : deed.2 with
      | started run => exact absurd hdeed (hstarted run)
      | _ => rfl
    have hcount : startsOf (deed :: done) row.id = startsOf done row.id :=
      List.countP_cons_of_neg (by simp [hnot])
    rw [hcount]
    exact h.count row hrow

theorem DeedsInv.claim (h : DeedsInv done db') (hdrawn : l ∈ db'.drawn)
    (hlease : run.leaseId = some l)
    (hnew : ∀ t' run', (t', .claimed run') ∈ done → run'.leaseId ≠ some l) :
    DeedsInv ((t, .claimed run) :: done) db' where
  nodup := List.nodup_cons.mpr ⟨fun hdone => hnew t run hdone hlease, h.nodup⟩
  claimed t' run' hdone := by
    rcases List.mem_cons.mp hdone with heq | hdone
    · cases heq
      exact ⟨l, hdrawn, hlease⟩
    · exact h.claimed t' run' hdone
  claimers t₁ run₁ t₂ run₂ hdone hdone' hsame := by
    rcases List.mem_cons.mp hdone with heq | hdone <;>
      rcases List.mem_cons.mp hdone' with heq' | hdone'
    · cases heq
      cases heq'
      rfl
    · cases heq
      exact absurd (hsame.symm.trans hlease) (hnew t₂ run₂ hdone')
    · cases heq'
      exact absurd (hsame.trans hlease) (hnew t₁ run₁ hdone)
    · exact h.claimers t₁ run₁ t₂ run₂ hdone hdone' hsame
  started t' run' hdone := by
    have hold : (t', .started run') ∈ done := by simpa using hdone
    obtain ⟨⟨claim, hclaim, hsame⟩, hrow⟩ := h.started t' run' hold
    exact ⟨⟨claim, List.mem_cons_of_mem _ hclaim, hsame⟩, hrow⟩
  starters := by simpa using h.starters
  called := by simpa using h.called
  settled := by simpa using h.settled
  settledOnce := by simpa using h.settledOnce

theorem HealthInv.claim (h : HealthInv done db) (hm : RunsMove none db db') (hfresh : l ∉ db.drawn)
    (hdrawn : l ∈ db'.drawn) (hlease : run.leaseId = some l) :
    HealthInv ((t, .claimed run) :: done) db' := by
  have hmoved := h.move hm released_none
  refine ⟨hmoved.tables, hmoved.deeds.claim hdrawn hlease ?_, hmoved.runs.push fun _ hnew => by cases hnew⟩
  intro t' run' hdone hsame
  obtain ⟨l', hl', hlease'⟩ := h.deeds.claimed t' run' hdone
  rw [Option.some.inj (hlease'.symm.trans hsame)] at hl'
  exact hfresh hl'

/-- The thread may start a run under its own claim, once. -/
structure MayStart (done : List (T × Deed)) (t : T) (leaseId : String) : Prop where
  claimed : ∃ claim, (t, .claimed claim) ∈ done ∧ claim.leaseId = some leaseId
  fresh : ∀ run, (t, .started run) ∈ done → run.leaseId ≠ some leaseId

theorem DeedsInv.start (h : DeedsInv done db') (hlease : run.leaseId = some l)
    (hmay : MayStart done t l)
    (hrow : ∃ row ∈ db'.runs, row.id = run.id ∧ row.probeLayer = run.probeLayer) :
    DeedsInv ((t, .started run) :: done) db' := by
  obtain ⟨claim, hclaim, hclaimLease⟩ := hmay.claimed
  have hother (t' : T) (run' : HealthScheduledRun) (hdone : (t', .started run') ∈ done) :
      run'.leaseId ≠ some l := by
    intro hsame
    obtain ⟨⟨claim', hclaim', hsame'⟩, -⟩ := h.started t' run' hdone
    have heq : t = t' := h.claimers t claim t' claim' hclaim hclaim'
      (hclaimLease.trans (hsame.symm.trans hsame'.symm))
    subst heq
    exact hmay.fresh run' hdone hsame
  refine ⟨List.nodup_cons.mpr ⟨fun hdone => hother t run hdone hlease, h.nodup⟩,
    by simpa using h.claimed, by simpa using h.claimers, fun t' run' hdone => ?_,
    fun t₁ run₁ t₂ run₂ hdone hdone' hsame => ?_, fun t' run' hdone => ?_,
    by simpa using h.settled, by simpa using h.settledOnce⟩
  · rcases List.mem_cons.mp hdone with heq | hdone
    · cases heq
      exact ⟨⟨claim, List.mem_cons_of_mem _ hclaim, hclaimLease.trans hlease.symm⟩, hrow⟩
    · obtain ⟨⟨claim', hclaim', hsame'⟩, hrow'⟩ := h.started t' run' hdone
      exact ⟨⟨claim', List.mem_cons_of_mem _ hclaim', hsame'⟩, hrow'⟩
  · rcases List.mem_cons.mp hdone with heq | hdone <;>
      rcases List.mem_cons.mp hdone' with heq' | hdone'
    · cases heq
      cases heq'
      exact ⟨rfl, rfl⟩
    · cases heq
      exact absurd (hsame.symm.trans hlease) (hother t₂ run₂ hdone')
    · cases heq'
      exact absurd (hsame.trans hlease) (hother t₁ run₁ hdone)
    · exact h.starters t₁ run₁ t₂ run₂ hdone hdone' hsame
  · have hold : (t', .called run') ∈ done := by simpa using hdone
    exact List.mem_cons_of_mem _ (h.called t' run' hold)

/-- The start of a claimed run. -/
structure Starts (input : LeaseInput) (cadence : HealthScheduleCadence) (old : ScheduledRunRow)
    (db db' : HealthDatabase) : Prop where
  row : old ∈ db.runs
  holds : input.holds .CLAIMED old = true
  runs : db'.runs = updateWhere (input.holds .CLAIMED) (input.started cadence) db.runs

section Start

variable {input : LeaseInput} {cadence : HealthScheduleCadence} {old : ScheduledRunRow}

/-- The rows after the start: the run itself, and the others as they were. -/
theorem Starts.mem (hs : Starts input cadence old db db') (ht : TablesInv db)
    {row : ScheduledRunRow} (hrow : row ∈ db'.runs) :
    row = input.started cadence old ∨ (row ∈ db.runs ∧ row.id ≠ old.id) := by
  rw [hs.runs] at hrow
  have hid := LeaseInput.holds_iff.mp hs.holds
  rcases mem_updateWhere.mp hrow with ⟨hmem, hother⟩ | ⟨own, hown, hholds, rfl⟩
  · refine .inr ⟨hmem, fun hsame => ?_⟩
    have heq := ht.ids.eq_of_key hmem hs.row (congrArg some hsame) rfl
    rw [heq, hs.holds] at hother
    cases hother
  · have hown' := LeaseInput.holds_iff.mp hholds
    have heq := ht.ids.eq_of_key hown hs.row (congrArg some (hown'.1.trans hid.1.symm)) rfl
    exact .inl (heq ▸ rfl)

/-- Every earlier start of an authenticated run that is claimed again was given up. -/
theorem Starts.earlier (hs : Starts input cadence old db db') (ht : TablesInv db)
    (hd : DeedsInv done db) (hr : RunsInv done db) (hlayer : old.probeLayer = .AUTHENTICATED_DEEP)
    {run : HealthScheduledRun} (hdone : (t, .started run) ∈ done) (hid : run.id = old.id) :
    GaveUp done t run := by
  obtain ⟨-, row, hrow, hrowId, hrowLayer⟩ := hd.started t run hdone
  have heq := ht.ids.eq_of_key hrow hs.row (congrArg some (hrowId.trans hid)) rfl
  subst heq
  rcases hr.held t run hdone (hrowLayer.symm.trans hlayer) with hgave | hheld
  · exact hgave
  have hclaimed := (LeaseInput.holds_iff.mp hs.holds).2.1
  have hstate := hheld row hrow hrowId
  simp [ScheduledRunRow.Final, hclaimed] at hstate

theorem HealthInv.start (h : HealthInv done db) (hs : Starts input cadence old db db')
    (hm : RunsMove none db db') (hmay : MayStart done t input.leaseId) :
    HealthInv ((t, .started (input.started cadence old).toHealthScheduledRun) :: done) db' := by
  have hmoved := h.move hm released_none
  obtain ⟨-, hclaimed, -, hheld, -⟩ := LeaseInput.holds_iff.mp hs.holds
  have hown : input.started cadence old ∈ db'.runs := by
    rw [hs.runs]
    exact mem_updateWhere.mpr (.inr ⟨old, hs.row, hs.holds, rfl⟩)
  have hmono {t' : T} {run' : HealthScheduledRun} (hgave : GaveUp done t' run') :
      GaveUp ((t, .started (input.started cadence old).toHealthScheduledRun) :: done) t' run' :=
    hgave.mono fun _ => List.mem_cons_of_mem _
  refine ⟨hmoved.tables, hmoved.deeds.start hheld hmay ⟨_, hown, rfl, rfl⟩, ?_, ?_, ?_⟩
  · intro t' run' hdone hlayer
    rcases List.mem_cons.mp hdone with heq | hdone
    · cases heq
      refine .inr fun row hrow hid => ?_
      rcases hs.mem h.tables hrow with rfl | ⟨-, hother⟩
      · exact .inr ⟨rfl, rfl⟩
      · exact absurd hid hother
    · exact (hmoved.runs.held t' run' hdone hlayer).imp_left hmono
  · intro t₁ run₁ t₂ run₂ hdone hdone' hid hlayer
    rcases List.mem_cons.mp hdone with heq | hold <;>
      rcases List.mem_cons.mp hdone' with heq' | hold'
    · cases heq
      cases heq'
      exact .inl ⟨rfl, rfl⟩
    · cases heq
      exact .inr (.inr (hmono (hs.earlier h.tables h.deeds h.runs hlayer hold' hid.symm)))
    · cases heq'
      obtain ⟨-, row, hrow, hrowId, hrowLayer⟩ := h.deeds.started t₁ run₁ hold
      have heq := h.tables.ids.eq_of_key hrow hs.row (congrArg some (hrowId.trans hid)) rfl
      subst heq
      exact .inr (.inl (hmono (hs.earlier h.tables h.deeds h.runs (hrowLayer.trans hlayer) hold hid)))
    · exact (h.runs.others t₁ run₁ t₂ run₂ hold hold' hid hlayer).imp_right (Or.imp hmono hmono)
  · intro row hrow
    have hattempt := h.tables.attempts old hs.row
    have hcount := h.runs.count old hs.row
    rcases hs.mem h.tables hrow with rfl | ⟨hmem, hother⟩
    · have hone : startsOf ((t, .started (input.started cadence old).toHealthScheduledRun) :: done)
          old.id = startsOf done old.id + 1 := List.countP_cons_of_pos (decide_eq_true rfl)
      have hspent : old.spent = old.attempt - 1 := if_pos (.inr hclaimed)
      have hspent' : (input.started cadence old).spent = old.attempt := rfl
      change startsOf _ old.id ≤ _
      omega
    · have hnone : startsOf ((t, .started (input.started cadence old).toHealthScheduledRun) :: done)
          row.id = startsOf done row.id :=
        List.countP_cons_of_neg (by simpa [Deed.starts] using fun hsame => hother hsame.symm)
      rw [hnone]
      exact h.runs.count row hmem

end Start

theorem HealthInv.call (h : HealthInv done db) (hstarted : (t, .started run) ∈ done)
    (hnew : (t, .called run) ∉ done) :
    HealthInv ((t, .called run) :: done) db where
  tables := h.tables
  deeds :=
    { nodup := List.nodup_cons.mpr ⟨hnew, h.deeds.nodup⟩
      claimed := by simpa using h.deeds.claimed
      claimers := by simpa using h.deeds.claimers
      started := by simpa using h.deeds.started
      starters := by simpa using h.deeds.starters
      called := fun t' run' hdone => by
        rcases List.mem_cons.mp hdone with heq | hdone
        · cases heq
          exact List.mem_cons_of_mem _ hstarted
        · exact List.mem_cons_of_mem _ (h.deeds.called t' run' hdone)
      settled := fun t' run' execution hdone => by
        have hold : (t', .settled run' execution) ∈ done := by simpa using hdone
        exact List.mem_cons_of_mem _ (h.deeds.settled t' run' execution hold)
      settledOnce := by simpa using h.deeds.settledOnce }
  runs := h.runs.push fun _ hnew => by cases hnew

theorem HealthInv.settle (h : HealthInv done db) {execution : Execution}
    (hcalled : (t, .called run) ∈ done) (hnew : ∀ other, (t, .settled run other) ∉ done) :
    HealthInv ((t, .settled run execution) :: done) db where
  tables := h.tables
  deeds :=
    { nodup := List.nodup_cons.mpr ⟨hnew execution, h.deeds.nodup⟩
      claimed := by simpa using h.deeds.claimed
      claimers := by simpa using h.deeds.claimers
      started := by simpa using h.deeds.started
      starters := by simpa using h.deeds.starters
      called := by simpa using h.deeds.called
      settled := fun t' run' execution' hdone => by
        rcases List.mem_cons.mp hdone with heq | hdone
        · cases heq
          exact List.mem_cons_of_mem _ hcalled
        · exact List.mem_cons_of_mem _ (h.deeds.settled t' run' execution' hdone)
      settledOnce := fun t' run' first second hdone hdone' => by
        rcases List.mem_cons.mp hdone with heq | hdone <;>
          rcases List.mem_cons.mp hdone' with heq' | hdone'
        · cases heq
          cases heq'
          rfl
        · cases heq
          exact absurd hdone' (hnew second)
        · cases heq'
          exact absurd hdone (hnew first)
        · exact h.deeds.settledOnce t' run' first second hdone hdone' }
  runs := h.runs.push fun _ hnew => by cases hnew

end SellerAgents.HealthScheduler
