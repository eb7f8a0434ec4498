import SellerAgents.HealthScheduler.Repository

open Relational

namespace SellerAgents.HealthScheduler

open Subscriptions (Date)

/-! What a call does to a run. -/

/-- The attempts that a run has begun. -/
def ScheduledRunRow.spent (row : ScheduledRunRow) : Nat :=
  if row.state = .PENDING ∨ row.state = .CLAIMED then row.attempt - 1 else row.attempt

/-- No call takes a final run up again. -/
def ScheduledRunRow.Final (row : ScheduledRunRow) : Prop :=
  row.state = .SUCCEEDED ∨ row.state = .FAILED_TERMINAL

/-- A run that nobody executes and that is not final. -/
def ScheduledRunRow.Idle (row : ScheduledRunRow) : Prop := ¬ row.Final ∧ row.state ≠ .RUNNING

/-- What a call may do to an authenticated run. `lease` is the lease whose holder gives a running
run up for another attempt. -/
inductive AuthMove (lease : Option String) (row row' : ScheduledRunRow) : Prop where
  | untouched (state : row'.state = row.state) (leaseId : row'.leaseId = row.leaseId)
  | final (h : row'.Final)
  | idle (h : row.Idle)
  | released (running : row.state = .RUNNING) (held : row.leaseId = lease) (some : lease.isSome)

/-- What a transaction under a lease may do to a run. -/
structure RowMove (lease : Option String) (row row' : ScheduledRunRow) : Prop where
  id : row'.id = row.id
  slot : row'.slot = row.slot
  probeLayer : row'.probeLayer = row.probeLayer
  attempt : row.attempt ≤ row'.attempt
  spent : row.spent ≤ row'.spent
  auth : row.probeLayer = .AUTHENTICATED_DEEP → AuthMove lease row row'

/-- What a call may do to a schedule. -/
structure ScheduleMove (s s' : HealthSchedule) : Prop where
  scheduleId : s'.scheduleId = s.scheduleId
  revision : s'.revision = s.revision
  monitorTarget : s'.monitorTarget = s.monitorTarget
  cadence : s'.cadence = s.cadence

/-- What a call may do to the runs and the schedules. -/
structure RunsMove (lease : Option String) (db db' : HealthDatabase) : Prop where
  runs : ∃ move : ScheduledRunRow → ScheduledRunRow, db'.runs = db.runs.map move ∧
    ∀ row ∈ db.runs, RowMove lease row (move row) ∧
      ∀ m, db.maxAttempts row = some m → row.attempt ≤ m → (move row).attempt ≤ m
  schedules : ∃ move : HealthSchedule → HealthSchedule, db'.schedules = db.schedules.map move ∧
    ∀ s, ScheduleMove s (move s)
  drawn : ∀ l ∈ db.drawn, l ∈ db'.drawn

variable {lease : Option String} {db db' db'' : HealthDatabase} {row row' row'' : ScheduledRunRow}

theorem RowMove.refl (row : ScheduledRunRow) : RowMove lease row row where
  id := rfl
  slot := rfl
  probeLayer := rfl
  attempt := Nat.le_refl _
  spent := Nat.le_refl _
  auth _ := .untouched rfl rfl

theorem AuthMove.trans (h : AuthMove none row row') (h' : AuthMove none row' row'') :
    AuthMove none row row'' := by
  cases h with
  | idle hidle => exact .idle hidle
  | released hrunning hheld hsome => cases hsome
  | untouched hstate hleaseId =>
    cases h' with
    | untouched hstate' hleaseId' =>
      exact .untouched (hstate'.trans hstate) (hleaseId'.trans hleaseId)
    | final hfinal => exact .final hfinal
    | idle hidle =>
      refine .idle ⟨fun hfinal => hidle.1 ?_, fun hrunning => hidle.2 (hstate.trans hrunning)⟩
      unfold ScheduledRunRow.Final
      rw [hstate]
      exact hfinal
    | released hrunning hheld hsome => cases hsome
  | final hfinal =>
    cases h' with
    | untouched hstate' hleaseId' =>
      refine .final ?_
      unfold ScheduledRunRow.Final
      rw [hstate']
      exact hfinal
    | final hfinal' => exact .final hfinal'
    | idle hidle => exact absurd hfinal hidle.1
    | released hrunning hheld hsome => cases hsome

theorem RowMove.trans (h : RowMove none row row') (h' : RowMove none row' row'') :
    RowMove none row row'' where
  id := h'.id.trans h.id
  slot := h'.slot.trans h.slot
  probeLayer := h'.probeLayer.trans h.probeLayer
  attempt := Nat.le_trans h.attempt h'.attempt
  spent := Nat.le_trans h.spent h'.spent
  auth hlayer := (h.auth hlayer).trans (h'.auth (h.probeLayer.trans hlayer))

theorem RowMove.scheduleId (h : RowMove lease row row') : row'.scheduleId = row.scheduleId :=
  congrArg Prod.fst h.slot

theorem ScheduleMove.refl (s : HealthSchedule) : ScheduleMove s s := ⟨rfl, rfl, rfl, rfl⟩

theorem ScheduleMove.trans {s s' s'' : HealthSchedule} (h : ScheduleMove s s')
    (h' : ScheduleMove s' s'') : ScheduleMove s s'' :=
  ⟨h'.1.trans h.1, h'.2.trans h.2, h'.3.trans h.3, h'.4.trans h.4⟩

/-- The moves keep every cadence. -/
theorem maxAttempts_move {move : HealthSchedule → HealthSchedule}
    (hschedules : db'.schedules = db.schedules.map move) (hmove : ∀ s, ScheduleMove s (move s))
    (hid : row'.scheduleId = row.scheduleId) : db'.maxAttempts row' = db.maxAttempts row := by
  unfold HealthDatabase.maxAttempts HealthDatabase.getSchedule
  rw [hschedules, hid, List.find?_map]
  have hsame : (fun s : HealthSchedule => decide (s.scheduleId = row.scheduleId)) ∘ move =
      fun s => decide (s.scheduleId = row.scheduleId) := by
    funext s
    simp only [Function.comp_apply, (hmove s).scheduleId]
  rw [hsame]
  cases db.schedules.find? (·.scheduleId = row.scheduleId) with
  | none => rfl
  | some s => exact congrArg (some ·.maxAttempts) (hmove s).cadence

theorem RunsMove.refl (lease : Option String) (db : HealthDatabase) : RunsMove lease db db where
  runs := ⟨id, (List.map_id _).symm, fun row _ => ⟨.refl row, fun _ _ h => h⟩⟩
  schedules := ⟨id, (List.map_id _).symm, .refl⟩
  drawn _ h := h

theorem RunsMove.trans (h : RunsMove none db db') (h' : RunsMove none db' db'') :
    RunsMove none db db'' := by
  obtain ⟨move, hruns, hmove⟩ := h.runs
  obtain ⟨move', hruns', hmove'⟩ := h'.runs
  obtain ⟨set, hschedules, hset⟩ := h.schedules
  obtain ⟨set', hschedules', hset'⟩ := h'.schedules
  refine ⟨⟨move' ∘ move, ?_, fun row hrow => ?_⟩,
    ⟨set' ∘ set, ?_, fun s => (hset s).trans (hset' _)⟩, fun l hl => h'.drawn l (h.drawn l hl)⟩
  · rw [hruns', hruns, List.map_map]
  · have hrow' : move row ∈ db'.runs := hruns ▸ List.mem_map_of_mem hrow
    obtain ⟨hfirst, hwithin⟩ := hmove row hrow
    obtain ⟨hsecond, hwithin'⟩ := hmove' (move row) hrow'
    refine ⟨hfirst.trans hsecond, fun m hm hle => hwithin' m ?_ (hwithin m hm hle)⟩
    rw [maxAttempts_move hschedules hset hfirst.scheduleId]
    exact hm
  · rw [hschedules', hschedules, List.map_map]

section

variable (p : ScheduledRunRow → Bool) (set : ScheduledRunRow → ScheduledRunRow)
  (h : ∀ row ∈ db.runs, p row = true → RowMove lease row (set row))
include p set h

/-- An update of the runs. -/
theorem runsMove_updateWhere
    (hattempt : ∀ row ∈ db.runs, p row = true → ∀ m, db.maxAttempts row = some m →
      row.attempt ≤ m → (set row).attempt ≤ m) :
    RunsMove lease db { db with runs := updateWhere p set db.runs } where
  runs := by
    refine ⟨_, rfl, fun row hrow => ?_⟩
    by_cases hp : p row = true
    · rw [if_pos hp]
      exact ⟨h row hrow hp, hattempt row hrow hp⟩
    · rw [if_neg hp]
      exact ⟨.refl row, fun _ _ hle => hle⟩
  schedules := ⟨id, (List.map_id _).symm, .refl⟩
  drawn _ hl := hl

/-- An update of the runs that leaves their attempts. -/
theorem runsMove_ended (hattempt : ∀ row, (set row).attempt = row.attempt) :
    RunsMove lease db { db with runs := updateWhere p set db.runs } :=
  runsMove_updateWhere p set h fun row _ _ _ _ hle => by rwa [hattempt row]

end

theorem runsMove_schedules (scheduleId : String) (set : HealthSchedule → HealthSchedule)
    (h : ∀ s, ScheduleMove s (set s)) :
    RunsMove none db { db with
      schedules := updateWhere (·.scheduleId = scheduleId) set db.schedules } where
  runs := ⟨id, (List.map_id _).symm, fun row _ => ⟨.refl row, fun _ _ hle => hle⟩⟩
  schedules := by
    refine ⟨_, rfl, fun s => ?_⟩
    by_cases hs : s.scheduleId = scheduleId
    · rw [if_pos (decide_eq_true hs)]
      exact h s
    · rw [if_neg (by simpa using hs)]
      exact .refl s
  drawn _ hl := hl

/-! Ends of a run. -/

theorem spent_le_attempt (row : ScheduledRunRow) : row.spent ≤ row.attempt := by
  unfold ScheduledRunRow.spent
  split <;> omega

theorem spent_eq_attempt (row : ScheduledRunRow) (hpending : row.state ≠ .PENDING) (hclaimed : row.state ≠ .CLAIMED) :
    row.spent = row.attempt := by
  simp [ScheduledRunRow.spent, hpending, hclaimed]

/-- A move to a state in which the attempt has begun. -/
theorem rowMove_failed {state : HealthScheduledRunState} {nextAttemptAt : Option Date}
    {failureClass : HealthFailureClass} {failureCode : String} {now : Date}
    (hpending : state ≠ .PENDING) (hclaimed : state ≠ .CLAIMED)
    (hauth : row.probeLayer = .AUTHENTICATED_DEEP →
      AuthMove lease row (failed state nextAttemptAt failureClass failureCode now row)) :
    RowMove lease row (failed state nextAttemptAt failureClass failureCode now row) where
  id := rfl
  slot := rfl
  probeLayer := rfl
  attempt := Nat.le_refl _
  spent := by
    have hspent := spent_eq_attempt (failed state nextAttemptAt failureClass failureCode now row)
      hpending hclaimed
    exact (spent_le_attempt row).trans (Nat.le_of_eq hspent.symm)
  auth := hauth

theorem rowMove_succeeded (healthRunId : String) (healthState : HealthState) (now : Date)
    (row : ScheduledRunRow) : RowMove lease row (succeeded healthRunId healthState now row) where
  id := rfl
  slot := rfl
  probeLayer := rfl
  attempt := Nat.le_refl _
  spent := spent_le_attempt row
  auth _ := .final (.inl rfl)

/-! `claimNext`. -/

theorem abandoned_move (db : HealthDatabase) (now : Date) :
    RunsMove none db { db with
      runs := updateWhere (db.abandoned now) (endAbandoned now) db.runs } := by
  refine runsMove_ended _ _ (fun row hrow hp => ?_) fun _ => rfl
  exact rowMove_failed (by decide) (by decide) fun _ => .final (.inr rfl)

theorem leased_idle (h : row.leased = true) (hlayer : row.probeLayer = .AUTHENTICATED_DEEP) :
    row.Idle := by
  simp only [ScheduledRunRow.leased, hlayer, Bool.or_eq_true, Bool.and_eq_true,
    decide_eq_true_eq, ne_eq, not_true, and_false, or_false] at h
  simp [ScheduledRunRow.Idle, ScheduledRunRow.Final, h]

theorem exhausted_move (db : HealthDatabase) (now : Date) :
    RunsMove none db { db with
      runs := updateWhere (db.exhausted now) (endExhausted now) db.runs } := by
  refine runsMove_ended _ _ (fun row hrow hp => ?_) fun _ => rfl
  refine rowMove_failed (by decide) (by decide) fun hlayer => .idle (leased_idle ?_ hlayer)
  simp only [HealthDatabase.exhausted, Bool.and_eq_true] at hp
  exact hp.1.1

theorem claimable_idle {now : Date} (h : db.claimable now row = true)
    (hlayer : row.probeLayer = .AUTHENTICATED_DEEP) : row.Idle := by
  simp only [HealthDatabase.claimable, Bool.or_eq_true, Bool.and_eq_true, decide_eq_true_eq] at h
  obtain (⟨hpending, -⟩ | ⟨⟨hretry, -⟩, -⟩) | ⟨⟨hleased, -⟩, -⟩ := h
  · simp [ScheduledRunRow.Idle, ScheduledRunRow.Final, hpending]
  · rcases hretry with hstate | hstate <;>
      simp [ScheduledRunRow.Idle, ScheduledRunRow.Final, hstate]
  · exact leased_idle hleased hlayer

/-- Only a pending run is claimed without a further attempt. -/
theorem claimable_attempt {now : Date} (h : db.claimable now row = true) {m : Nat}
    (hm : db.maxAttempts row = some m) : row.state = .PENDING ∨ row.attempt < m := by
  simp only [HealthDatabase.claimable, hm, Option.any_some, Bool.or_eq_true, Bool.and_eq_true,
    decide_eq_true_eq] at h
  obtain (⟨hpending, -⟩ | ⟨-, hlt⟩) | ⟨-, hlt⟩ := h
  · exact .inl hpending
  · exact .inr hlt
  · exact .inr hlt

theorem claimed_attempt (input : ClaimInput) (leaseId : String) (row : ScheduledRunRow) :
    (input.claimed leaseId row).attempt =
      if row.state = .PENDING then row.attempt else row.attempt + 1 := rfl

theorem rowMove_claimed (input : ClaimInput) (leaseId : String)
    (hidle : row.probeLayer = .AUTHENTICATED_DEEP → row.Idle) :
    RowMove none row (input.claimed leaseId row) where
  id := rfl
  slot := rfl
  probeLayer := rfl
  attempt := by
    rw [claimed_attempt]
    split <;> omega
  spent := by
    have hclaimed : (input.claimed leaseId row).spent = (input.claimed leaseId row).attempt - 1 :=
      if_pos (.inr rfl)
    rw [hclaimed, claimed_attempt]
    split
    · rename_i hpending
      exact Nat.le_of_eq (if_pos (.inl hpending))
    · exact spent_le_attempt row
  auth hlayer := .idle (hidle hlayer)

theorem mem_head?_insertionSort {α : Type} {r : α → α → Prop} [DecidableRel r] {rows : List α}
    {first : α} (h : (rows.insertionSort r).head? = some first) : first ∈ rows :=
  (List.mem_insertionSort r).mp (List.mem_of_head? h)

theorem claimFirst_move (hids : UniqueBy (fun r => some r.id) db.runs) (leaseId : String)
    (input : ClaimInput) :
    Commits (claimFirst leaseId input) db fun answer db' =>
      RunsMove none db db' ∧ ∀ run ∈ answer, run.leaseId = some leaseId ∧ leaseId ∈ db'.drawn := by
  unfold claimFirst
  simp only [commits_bind, commits_get]
  split
  · simp only [commits_pure]
    exact ⟨.refl none db, fun run hrun => absurd hrun (Option.not_mem_none run)⟩
  rename_i row hfirst
  obtain ⟨hrow, hclaimable⟩ := List.mem_filter.mp (mem_head?_insertionSort hfirst)
  unfold assertScheduledRunTransition updateSchedules
  simp only [commits_bind, commits_ensure, commits_modify, commits_pure]
  intro _
  -- only the row itself has its id
  have hself (other : ScheduledRunRow) (hother : other ∈ db.runs)
      (hid : decide (other.id = row.id) = true) : other = row :=
    hids.eq_of_key hother hrow (congrArg some (of_decide_eq_true hid)) rfl
  have hclaimed : RunsMove none db { db with
      runs := updateWhere (·.id = row.id) (input.claimed leaseId) db.runs
      drawn := leaseId :: db.drawn } := by
    have hmove : RunsMove none db { db with
        runs := updateWhere (·.id = row.id) (input.claimed leaseId) db.runs } := by
      refine runsMove_updateWhere _ _ (fun other hother hid => ?_) ?_
      · refine rowMove_claimed input leaseId fun hlayer => ?_
        exact claimable_idle (hself other hother hid ▸ hclaimable) hlayer
      intro other hother hid m hm hle
      have heq := hself other hother hid
      subst heq
      rw [claimed_attempt]
      rcases claimable_attempt hclaimable hm with hpending | hlt
      · rw [if_pos hpending]
        exact hle
      · split <;> omega
    exact { hmove with drawn := fun l hl => List.mem_cons_of_mem _ hl }
  refine ⟨hclaimed.trans (runsMove_schedules row.scheduleId _ fun s => ⟨rfl, rfl, rfl, rfl⟩), ?_⟩
  intro run hrun
  cases hrun
  exact ⟨rfl, List.mem_cons_self⟩

theorem RunsMove.ids (h : RunsMove lease db db') (hids : UniqueBy (fun r => some r.id) db.runs) :
    UniqueBy (fun r => some r.id) db'.runs := by
  obtain ⟨move, hruns, hmove⟩ := h.runs
  rw [hruns]
  exact hids.map fun row hrow => congrArg some (hmove row hrow).1.id

theorem claimNext_move (hids : UniqueBy (fun r => some r.id) db.runs) (leaseId : String)
    (input : ClaimInput) :
    Commits (claimNext leaseId input) db fun answer db' =>
      RunsMove none db db' ∧ ∀ run ∈ answer, run.leaseId = some leaseId ∧ leaseId ∈ db'.drawn := by
  unfold claimNext
  simp only [commits_bind, commits_modify]
  have hended := (abandoned_move db input.now).trans (exhausted_move _ input.now)
  refine (claimFirst_move (hended.ids hids) leaseId input).mono fun answer db' hclaim => ?_
  exact ⟨hended.trans hclaim.1, hclaim.2⟩

/-! The calls under a lease. -/

theorem LeaseInput.holds_iff {input : LeaseInput} {state : HealthScheduledRunState} :
    input.holds state row = true ↔ row.id = input.runId ∧ row.state = state ∧
      row.ownerId = some input.ownerId ∧ row.leaseId = some input.leaseId ∧
        row.leaseExpiresAt.any (input.now < ·) = true := by
  simp only [LeaseInput.holds, Bool.and_eq_true, decide_eq_true_eq, and_assoc]

variable (input : LeaseInput)

theorem updateLeased_commits (state : HealthScheduledRunState)
    (set : ScheduledRunRow → ScheduledRunRow) :
    Commits (updateLeased input state set) db fun row db' =>
      (∃ old ∈ db.runs, input.holds state old = true ∧ row = set old) ∧
        db' = { db with runs := updateWhere (input.holds state) set db.runs } := by
  unfold updateLeased
  simp only [commits_bind, commits_get]
  split
  · exact commits_throw
  rename_i old hfind
  simp only [commits_bind, commits_modify, commits_pure]
  exact ⟨⟨old, List.mem_of_find?_eq_some hfind, List.find?_some hfind, rfl⟩, trivial⟩

theorem ownRun_commits :
    Commits (ownRun input) db fun current db' => db' = db ∧ current ∈ db.runs ∧
      current.id = input.runId := by
  unfold ownRun
  simp only [commits_bind, commits_get]
  split
  · exact commits_throw
  rename_i current hfind
  simp only [commits_bind, commits_ensure, commits_pure]
  have hid := List.find?_some hfind
  rw [decide_eq_true_eq] at hid
  exact fun _ => ⟨trivial, List.mem_of_find?_eq_some hfind, hid⟩

theorem cadence_commits (scheduleId : String) :
    Commits (cadence scheduleId) db fun _ db' => db' = db := by
  unfold cadence
  simp only [commits_bind, commits_get]
  split
  · exact commits_throw
  · simp only [commits_pure]

theorem startRun_commits :
    Commits (startRun input) db fun run db' => ∃ cadence,
      (∃ old ∈ db.runs, input.holds .CLAIMED old = true ∧
        run = (input.started cadence old).toHealthScheduledRun) ∧
      db' = { db with
        runs := updateWhere (input.holds .CLAIMED) (input.started cadence) db.runs } := by
  unfold startRun assertScheduledRunTransition
  simp only [commits_bind, commits_ensure]
  refine (ownRun_commits input).mono fun current db₁ hown => ?_
  obtain ⟨rfl, -, -⟩ := hown
  intro _
  refine (cadence_commits _).mono fun cadence db₂ hsame => ?_
  subst hsame
  refine (updateLeased_commits input .CLAIMED _).mono fun row db' hrow => ?_
  obtain ⟨⟨old, hold, hholds, rfl⟩, rfl⟩ := hrow
  rw [commits_pure]
  exact ⟨cadence, ⟨old, hold, hholds, rfl⟩, rfl⟩

theorem rowMove_started (cadence : HealthScheduleCadence) (hclaimed : row.state = .CLAIMED) :
    RowMove none row (input.started cadence row) where
  id := rfl
  slot := rfl
  probeLayer := rfl
  attempt := Nat.le_refl _
  spent := spent_le_attempt row
  auth _ := .idle (by simp [ScheduledRunRow.Idle, ScheduledRunRow.Final, hclaimed])

theorem started_move (cadence : HealthScheduleCadence) :
    RunsMove none db { db with
      runs := updateWhere (input.holds .CLAIMED) (input.started cadence) db.runs } := by
  refine runsMove_ended _ _ (fun row hrow hholds => ?_) fun _ => rfl
  exact rowMove_started input cadence (LeaseInput.holds_iff.mp hholds).2.1

theorem finishSuccess_move (healthRunId : String) (healthState : HealthState) :
    Commits (finishSuccess input healthRunId healthState) db fun _ db' => RunsMove none db db' := by
  unfold finishSuccess assertScheduledRunTransition updateSchedules
  simp only [commits_bind, commits_ensure, commits_get, commits_modify, commits_pure]
  refine (ownRun_commits input).mono fun current db₁ hown => ?_
  obtain ⟨rfl, -, -⟩ := hown
  intro _ _ _
  refine (updateLeased_commits input .RUNNING _).mono fun row db' hrow => ?_
  obtain ⟨-, rfl⟩ := hrow
  have hended : RunsMove none db₁ { db₁ with
      runs := updateWhere (input.holds .RUNNING) (succeeded healthRunId healthState input.now)
        db₁.runs } :=
    runsMove_ended _ _ (fun row _ _ => rowMove_succeeded healthRunId healthState input.now row)
      fun _ => rfl
  exact hended.trans (runsMove_schedules current.scheduleId _ fun s => ⟨rfl, rfl, rfl, rfl⟩)

/-- The lease whose holder gives the run up for another attempt, when it reports a failure. -/
def LeaseInput.retried (input : LeaseInput) (failureClass : HealthFailureClass)
    (failureCode : String) : Option String :=
  if classifyFailure failureClass failureCode = .FAILED_RETRYABLE then some input.leaseId else none

theorem classifyFailure_cases (failureClass : HealthFailureClass) (failureCode : String) :
    classifyFailure failureClass failureCode = .FAILED_TERMINAL ∨
      classifyFailure failureClass failureCode = .FAILED_RETRYABLE := by
  unfold classifyFailure
  dsimp only
  split
  · exact .inl rfl
  · exact .inr rfl

theorem finishFailure_move (failureClass : HealthFailureClass) (failureCode : String) :
    Commits (finishFailure input failureClass failureCode) db fun _ db' =>
      RunsMove (input.retried failureClass failureCode) db db' := by
  unfold finishFailure assertScheduledRunTransition
  simp only [commits_bind, commits_ensure, commits_pure]
  refine (ownRun_commits input).mono fun current db₁ hown => ?_
  obtain ⟨rfl, -, -⟩ := hown
  refine (cadence_commits _).mono fun cadence db₂ hsame => ?_
  subst hsame
  intro _
  refine (updateLeased_commits input .RUNNING _).mono fun row db' hrow => ?_
  obtain ⟨-, rfl⟩ := hrow
  refine runsMove_ended _ _ (fun row hrow hholds => ?_) fun _ => rfl
  obtain ⟨-, hrunning, -, hheld, -⟩ := LeaseInput.holds_iff.mp hholds
  have hstate : failureState cadence current.attempt failureClass failureCode = .FAILED_TERMINAL ∨
      (failureState cadence current.attempt failureClass failureCode = .FAILED_RETRYABLE ∧
        input.retried failureClass failureCode = some input.leaseId) := by
    unfold failureState LeaseInput.retried
    rcases classifyFailure_cases failureClass failureCode with hterminal | hretry
    · simp [hterminal]
    · rw [hretry, if_pos rfl]
      split
      · exact .inl rfl
      · exact .inr ⟨rfl, rfl⟩
  rcases hstate with hterminal | ⟨hretry, hlease⟩
  · rw [hterminal]
    exact rowMove_failed (by decide) (by decide) fun _ => .final (.inr rfl)
  · rw [hretry, hlease]
    exact rowMove_failed (by decide) (by decide) fun _ => .released hrunning hheld rfl

theorem timeoutRun_move (failureCode : String) :
    Commits (timeoutRun input failureCode) db fun _ db' =>
      RunsMove (some input.leaseId) db db' := by
  unfold timeoutRun assertScheduledRunTransition
  simp only [commits_bind, commits_ensure, commits_pure]
  refine (ownRun_commits input).mono fun current db₁ hown => ?_
  obtain ⟨rfl, -, -⟩ := hown
  intro _
  refine (updateLeased_commits input .RUNNING _).mono fun row db' hrow => ?_
  obtain ⟨-, rfl⟩ := hrow
  refine runsMove_ended _ _ (fun row hrow hholds => ?_) fun _ => rfl
  obtain ⟨-, hrunning, -, hheld, -⟩ := LeaseInput.holds_iff.mp hholds
  exact rowMove_failed (by decide) (by decide) fun _ => .released hrunning hheld rfl

/-! `reconcilePersistedResults`. -/

theorem reconcileRun_move (runId : String) (health : HealthRun) (now : Date) :
    Commits (reconcileRun runId health now) db fun _ db' => RunsMove none db db' := by
  unfold reconcileRun updateSchedules
  simp only [commits_bind, commits_get]
  split
  · simp only [commits_pure]
    exact .refl none db
  rename_i row hfind
  simp only [commits_bind, commits_ensure, commits_modify, commits_pure]
  intro _
  have hended : RunsMove none db { db with
      runs := updateWhere (fun row => row.id = runId && row.reconcilable)
        (succeeded health.id health.healthState now) db.runs } :=
    runsMove_ended _ _ (fun row _ _ => rowMove_succeeded health.id health.healthState now row)
      fun _ => rfl
  exact hended.trans (runsMove_schedules row.scheduleId _ fun s => ⟨rfl, rfl, rfl, rfl⟩)

theorem reconcileAll_move (incident : HealthRun → Except String Unit) (now : Date)
    (candidates : List (ScheduledRunRow × HealthRun)) (recovered : Nat) :
    RunsMove none db (reconcileAll incident now candidates recovered db).2 := by
  induction candidates generalizing recovered db with
  | nil => exact .refl none db
  | cons candidate rest ih =>
    obtain ⟨row, health⟩ := candidate
    unfold reconcileAll
    split
    · exact .refl none db
    split
    · exact .refl none db
    · rename_i updated db' hrun
      exact (reconcileRun_move row.id health now _ _ hrun).trans (ih _)

/-! `materializeDueSlot`. -/

/-- The due slot of a schedule gets its run. -/
structure Materialized (db db' : HealthDatabase) : Prop where
  inserted : ∃ schedule ∈ db.schedules, ∃ (hashing : Hashing) (id : String) (createdAt : Date),
    Fresh (fun r => some r.id) (schedule.dueRun hashing id createdAt) db.runs ∧
      Fresh (fun r => some r.slot) (schedule.dueRun hashing id createdAt) db.runs ∧
        db' = { db with runs := db.runs ++ [schedule.dueRun hashing id createdAt] }

theorem insertRun_commits (new : ScheduledRunRow) :
    Commits (insertRun new) db fun _ db' => db' = db ∨
      (Fresh (fun r => some r.id) new db.runs ∧ Fresh (fun r => some r.slot) new db.runs ∧
        db' = { db with runs := db.runs ++ [new] }) := by
  unfold insertRun
  simp only [commits_bind, commits_get, commits_ite, commits_ensure, commits_modify, commits_pure]
  refine ⟨fun _ => .inl trivial, fun hslot hid _ => .inr ⟨hid, not_not.mp hslot, trivial⟩⟩

theorem materializeDueSlot_move (hashing : Hashing) (id : String) (createdAt : Date)
    (scheduleId : String) (now : Date) :
    Commits (materializeDueSlot hashing id createdAt scheduleId now) db fun _ db' =>
      ∃ mid, (mid = db ∨ Materialized db mid) ∧ RunsMove none mid db' := by
  unfold materializeDueSlot updateSchedules
  simp only [commits_bind, commits_get]
  split
  · exact commits_throw
  rename_i schedule hfind
  have hschedule := List.mem_of_find?_eq_some hfind
  simp only [commits_ite, commits_pure, commits_bind, commits_modify]
  refine ⟨fun _ => ⟨db, .inl rfl, .refl none db⟩, fun _ => ?_⟩
  have hadvanced (mid : HealthDatabase) : RunsMove none mid { mid with
      schedules := updateWhere (·.scheduleId = schedule.scheduleId) (fun s =>
        if s.revision = schedule.revision then
          { s with nextDueAt := nextDueAfterMaterialization schedule now }
        else s) mid.schedules } := by
    refine runsMove_schedules schedule.scheduleId _ fun s => ?_
    split
    · exact ⟨rfl, rfl, rfl, rfl⟩
    · exact .refl s
  refine ⟨fun _ => ⟨db, .inl rfl, hadvanced db⟩, fun _ => ?_⟩
  refine (insertRun_commits _).mono fun _ mid hmid => ?_
  refine ⟨mid, hmid.imp_right fun hinserted => ?_, hadvanced mid⟩
  exact ⟨schedule, hschedule, hashing, id, createdAt, hinserted⟩

end SellerAgents.HealthScheduler
