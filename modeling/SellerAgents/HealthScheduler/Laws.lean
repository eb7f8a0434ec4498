import SellerAgents.Concurrent.Replay
import SellerAgents.HealthScheduler.Leases
import SellerAgents.HealthScheduler.Protocol

open Relational Concurrent

namespace SellerAgents.HealthScheduler

open Subscriptions (Date)

variable {T : Type} {done : List (T × Deed)} {db db' : HealthDatabase} {hashing : Hashing}
  {options : T → CycleOptions} {allowed : HealthDatabase → HealthDatabase → Prop}

/-! The order of the calls. -/

/-- When an authenticated run is called, every earlier call of it gave it up. -/
def ProbesOrdered : List (T × Deed) → Prop
  | [] => True
  | (_, deed) :: earlier =>
    (∀ run, deed = .called run → run.probeLayer = .AUTHENTICATED_DEEP → ∀ t' run',
      (t', .called run') ∈ earlier → run'.id = run.id → GaveUp earlier t' run') ∧
      ProbesOrdered earlier

theorem ProbesOrdered.split {later earlier : List (T × Deed)} {t : T} {deed : Deed}
    (h : ProbesOrdered (later ++ (t, deed) :: earlier)) :
    ProbesOrdered ((t, deed) :: earlier) := by
  induction later with
  | nil => exact h
  | cons first rest ih => exact ih h.2

variable [DecidableEq T]

def Deed.calls (deed : Deed) (id : String) : Bool :=
  match deed with
  | .called run => run.id = id
  | _ => false

/-- How often `execute` was called for a run. -/
def callsOf (done : List (T × Deed)) (id : String) : Nat := done.countP (·.2.calls id)

/-- What any command does to the runs. -/
theorem effect_moves (hids : UniqueBy (fun r => some r.id) db.runs) {command : Cmd}
    {answer : command.Answer} (h : Effect hashing command db answer db') :
    ∃ lease mid, (mid = db ∨ Materialized db mid) ∧ RunsMove lease mid db' := by
  cases command with
  | now => exact ⟨none, db, .inl rfl, h ▸ .refl none db⟩
  | reconcilePersistedResults now =>
    obtain ⟨incident, rfl, -⟩ := h
    exact ⟨none, db, .inl rfl, reconcileAll_move incident now _ 0⟩
  | listDueSchedules now =>
    have hsame := Performs.keeps h (listDueSchedules_commits now) rfl
    exact ⟨none, db, .inl rfl, hsame ▸ .refl none db⟩
  | materializeDueSlot scheduleId now =>
    obtain ⟨id, createdAt, hperforms⟩ := h
    obtain ⟨mid, hmid, hmove⟩ := hperforms.keeps
      (P := fun db' => ∃ mid, (mid = db ∨ Materialized db mid) ∧ RunsMove none mid db')
      (materializeDueSlot_move hashing id createdAt scheduleId now) ⟨db, .inl rfl, .refl none db⟩
    exact ⟨none, mid, hmid, hmove⟩
  | claimNext input =>
    obtain ⟨leaseId, -, hperforms⟩ := h
    refine ⟨none, db, .inl rfl, hperforms.keeps ?_ (.refl none db)⟩
    exact (claimNext_move hids leaseId input).mono fun _ _ hmove => hmove.1
  | startRun input =>
    refine ⟨none, db, .inl rfl, Performs.keeps h ?_ (.refl none db)⟩
    refine (startRun_commits input).mono fun _ db' hstarted => ?_
    obtain ⟨cadence, -, rfl⟩ := hstarted
    exact started_move input cadence
  | finishSuccess input healthRunId healthState =>
    exact ⟨none, db, .inl rfl,
      Performs.keeps h (finishSuccess_move input healthRunId healthState) (.refl none db)⟩
  | finishFailure input failureClass failureCode =>
    exact ⟨_, db, .inl rfl,
      Performs.keeps h (finishFailure_move input failureClass failureCode) (.refl _ db)⟩
  | timeoutRun input failureCode =>
    exact ⟨_, db, .inl rfl, Performs.keeps h (timeoutRun_move input failureCode) (.refl _ db)⟩
  | execute run => exact ⟨none, db, .inl rfl, h ▸ .refl none db⟩
  | settle run => exact ⟨none, db, .inl rfl, h.1 ▸ .refl none db⟩

omit [DecidableEq T] in
theorem EnvStep.runs_eq (h : EnvStep db db') : db'.runs = db.runs := by
  cases h with
  | created input run =>
    obtain ⟨-, rfl⟩ := createSchedule_commits input _ _ run
    rfl
  | updated input run =>
    obtain rfl := updateSchedule_commits input _ _ run
    rfl
  | persisted row => rfl
  | retained watermarks => rfl

/-- A step of the others that keeps the cadence of a schedule. -/
def KeepsCadence (scheduleId : String) (db db' : HealthDatabase) : Prop :=
  ∀ s s', db.getSchedule scheduleId = some s → db'.getSchedule scheduleId = some s' →
    s'.cadence = s.cadence

/-- The runs of the schedule stay within its attempts. -/
def Bounded (scheduleId : String) (db : HealthDatabase) : Prop :=
  ∀ row ∈ db.runs, row.scheduleId = scheduleId → ∀ m, db.maxAttempts row = some m → row.attempt ≤ m

variable {scheduleId : String}

omit [DecidableEq T] in
theorem Bounded.moved {lease : Option String} (h : Bounded scheduleId db)
    (hm : RunsMove lease db db') : Bounded scheduleId db' := by
  obtain ⟨move, hruns, hmove⟩ := hm.runs
  obtain ⟨set, hschedules, hset⟩ := hm.schedules
  intro row' hrow' hid m hm'
  rw [hruns] at hrow'
  obtain ⟨row, hrow, rfl⟩ := List.mem_map.mp hrow'
  obtain ⟨hrowMove, hwithin⟩ := hmove row hrow
  rw [maxAttempts_move hschedules hset hrowMove.scheduleId] at hm'
  exact hwithin m hm' (h row hrow (hrowMove.scheduleId.symm.trans hid) m hm')

omit [DecidableEq T] in
theorem Bounded.materialized (h : Bounded scheduleId db) (hm : Materialized db db') :
    Bounded scheduleId db' := by
  obtain ⟨schedule, -, hashing, id, createdAt, -, -, rfl⟩ := hm.inserted
  intro row hrow hid m hm'
  rcases List.mem_append.mp hrow with hrow | hrow
  · exact h row hrow hid m hm'
  · rw [List.mem_singleton.mp hrow] at hm' ⊢
    obtain ⟨found, -, rfl⟩ := Option.map_eq_some_iff.mp hm'
    exact found.cadence.attempts_bounds.1

omit [DecidableEq T] in
theorem Bounded.env (h : Bounded scheduleId db) (ht : TablesInv db) (he : EnvStep db db')
    (hkeeps : KeepsCadence scheduleId db db') : Bounded scheduleId db' := by
  have hruns := he.runs_eq
  intro row hrow hid m hm
  rw [hruns] at hrow
  obtain ⟨s', hs', rfl⟩ := Option.map_eq_some_iff.mp hm
  obtain ⟨s, hs, hsame, -⟩ := ht.revisions row hrow
  have hfound : db.getSchedule row.scheduleId = some s :=
    ht.scheduleIds.find_eq_some (fun _ _ hp => congrArg some (of_decide_eq_true hp)) hs
      (decide_eq_true hsame)
  rw [hid] at hfound hs'
  rw [hkeeps s s' hfound hs']
  refine h row hrow hid _ ?_
  unfold HealthDatabase.maxAttempts
  rw [hid, hfound]
  rfl

/-! Leases that end. -/

omit [DecidableEq T] in
/-- Only a claim grants a lease. -/
theorem effect_leases {command : Cmd} {answer : command.Answer}
    (hother : ∀ input, command ≠ .claimNext input) (h : Effect hashing command db answer db') :
    LeasesKept db db' := by
  cases command with
  | now => exact h ▸ refl _
  | reconcilePersistedResults now =>
    obtain ⟨incident, rfl, -⟩ := h
    exact reconcileAll_leases incident now _ 0 db
  | listDueSchedules now =>
    have hsame := Performs.keeps h (listDueSchedules_commits now) rfl
    exact hsame ▸ refl _
  | materializeDueSlot scheduleId now =>
    obtain ⟨id, createdAt, hperforms⟩ := h
    exact hperforms.keeps (keeps_materializeDueSlot hashing id createdAt scheduleId now db) (refl db)
  | claimNext input => exact absurd rfl (hother input)
  | startRun input => exact Performs.keeps h (keeps_startRun input db) (refl db)
  | finishSuccess input healthRunId healthState =>
    exact Performs.keeps h (keeps_finishSuccess input healthRunId healthState db) (refl db)
  | finishFailure input failureClass failureCode =>
    exact Performs.keeps h (keeps_finishFailure input failureClass failureCode db) (refl db)
  | timeoutRun input failureCode =>
    exact Performs.keeps h (keeps_timeoutRun input failureCode db) (refl db)
  | execute run => exact h ▸ refl _
  | settle run => exact h.1 ▸ refl _

/-- A claimed or running run gets another lease only from a claim, and only if the clock of the
claim has reached the end of the lease that the run has. -/
def TakenExpired : HealthEvent T → Prop
  | .act _ command _ pre post => ∀ row ∈ pre.runs, row.Held → ∀ row' ∈ post.runs,
    row'.id = row.id → row'.leaseId.isSome → row'.leaseId ≠ row.leaseId →
      ∃ input expiresAt, command = .claimNext input ∧ row.leaseExpiresAt = some expiresAt ∧
        expiresAt ≤ input.now
  | .env pre post => post.runs = pre.runs
  | .finish _ _ _ => True

/-- A call of `execute` that has not ended. -/
def Executing (done : List (T × Deed)) (t : T) (run : HealthScheduledRun) : Prop :=
  (t, .called run) ∈ done ∧ ∀ execution, (t, .settled run execution) ∉ done

/-- What every interleaving of the cycles keeps. -/
structure SchedulerLaws (w : HealthWorld T) : Prop where
  /-- An authenticated run is called again only if every earlier call of it returned a failure that
  may be tried again. -/
  neverRepeated : ∀ later earlier t run, deeds w.log = later ++ (t, .called run) :: earlier →
    run.probeLayer = .AUTHENTICATED_DEEP → ∀ t' run', (t', .called run') ∈ earlier →
      run'.id = run.id → GaveUp earlier t' run' ∧
        ∀ execution, (t', .settled run' execution) ∈ deeds w.log →
          ∃ failureClass failureCode, execution = .returned (.FAILED failureClass failureCode) ∧
            classifyFailure failureClass failureCode = .FAILED_RETRYABLE
  oneRun : UniqueBy (fun r => some (r.scheduleId, r.scheduleRevision, r.dueSlotAt)) w.state.runs
  /-- Of the calls that have not ended one at most has the lease of the run's row. -/
  oneOwner : ∀ t run t' run', Executing (deeds w.log) t run → Executing (deeds w.log) t' run' →
    ∀ row ∈ w.state.runs, run.id = row.id → run'.id = row.id → row.leaseId = run.leaseId →
      row.leaseId = run'.leaseId → t = t' ∧ run = run'
  /-- While a lease is valid no other owner gets the run. -/
  takenExpired : ∀ event ∈ w.log, TakenExpired event

/-- A lease id that was not drawn. -/
def freshLease (drawn : List String) : String := drawn.foldr (· ++ ·) "lease"

theorem freshLease_length (drawn : List String) :
    0 < (freshLease drawn).length ∧ ∀ l ∈ drawn, l.length < (freshLease drawn).length := by
  induction drawn with
  | nil => exact ⟨by decide, fun _ h => absurd h List.not_mem_nil⟩
  | cons first rest ih =>
    have hlength : (freshLease (first :: rest)).length =
        first.length + (freshLease rest).length := String.length_append first _
    refine ⟨by omega, fun l hl => ?_⟩
    rcases List.mem_cons.mp hl with rfl | hl
    · omega
    · have hlt := ih.2 l hl
      omega

theorem freshLease_fresh (drawn : List String) : freshLease drawn ∉ drawn :=
  fun h => Nat.lt_irrefl _ ((freshLease_length drawn).2 _ h)

/-- The answer of a transaction, and the database after it. -/
def performed {α : Type} (x : Tx HealthDatabase α) (db : HealthDatabase) :
    Except String α × HealthDatabase :=
  match x db with
  | .ok (value, db') => (.ok value, db')
  | .error error => (.error error, db)

theorem performed_performs {α : Type} (x : Tx HealthDatabase α) (db : HealthDatabase) :
    Performs x db (performed x db).1 (performed x db).2 := by
  unfold performed
  cases hrun : x db with
  | error error => exact .inr ⟨⟨error, rfl⟩, rfl⟩
  | ok result => exact .inl ⟨result.1, hrun, .inl rfl⟩

def sampleHashing : Hashing := ⟨id, fun _ => ""⟩

/-- The answers of a replayed cycle at a fixed time; every execution rejects. -/
def sampleAnswer (now : Date) : (command : Cmd) → HealthDatabase → command.Answer × HealthDatabase
  | .now, db => (now, db)
  | .reconcilePersistedResults now, db => reconcilePersistedResults (fun _ => .ok ()) now db
  | .listDueSchedules now, db => performed (listDueSchedules now) db
  | .materializeDueSlot scheduleId now, db =>
    performed (materializeDueSlot sampleHashing "run" now scheduleId now) db
  | .claimNext input, db => performed (claimNext (freshLease db.drawn) input) db
  | .startRun input, db => performed (startRun input) db
  | .finishSuccess input healthRunId healthState, db =>
    performed (finishSuccess input healthRunId healthState) db
  | .finishFailure input failureClass failureCode, db =>
    performed (finishFailure input failureClass failureCode) db
  | .timeoutRun input failureCode, db => performed (timeoutRun input failureCode) db
  | .execute _, db => ((), db)
  | .settle _, db => (.threw none, db)

theorem sampleAnswer_effect (now : Date) (command : Cmd) (db : HealthDatabase) :
    Effect sampleHashing command db (sampleAnswer now command db).1
      (sampleAnswer now command db).2 := by
  cases command with
  | now => rfl
  | reconcilePersistedResults now => exact ⟨fun _ => .ok (), rfl, .inl rfl⟩
  | listDueSchedules now => exact performed_performs _ db
  | materializeDueSlot scheduleId now => exact ⟨"run", now, performed_performs _ db⟩
  | claimNext input => exact ⟨freshLease db.drawn, freshLease_fresh _, performed_performs _ db⟩
  | startRun input => exact performed_performs _ db
  | finishSuccess input healthRunId healthState => exact performed_performs _ db
  | finishFailure input failureClass failureCode => exact performed_performs _ db
  | timeoutRun input failureCode => exact performed_performs _ db
  | execute run => rfl
  | settle run => exact ⟨rfl, fun h => by cases h⟩

def sampleSchedule : HealthSchedule where
  scheduleId := "schedule"
  monitorTarget := "ozon_authenticated"
  provider := "ozon"
  surface := "SELLER"
  probeLayer := .AUTHENTICATED_DEEP
  enabled := true
  cadence := ⟨21600, 180, 3, by decide, by decide, by decide⟩
  nextDueAt := 0
  revision := 1

/-- Two owners, the second an hour after the first. -/
def sampleOptions (second : Bool) : CycleOptions :=
  ⟨if second then "owner-2" else "owner-1", 600000, 2⟩

def sampleScheduler : System Bool Cmd Cmd.Answer String SchedulerCycleSummary HealthDatabase :=
  scheduler sampleHashing sampleOptions (KeepsCadence "schedule")

/-- The schedule is created and both cycles run, one after the other. -/
def sampleRun : Config Bool Cmd Cmd.Answer String SchedulerCycleSummary HealthDatabase :=
  (List.replicate 20 false ++ List.replicate 20 true).foldl
    (sampleScheduler.turn fun second => sampleAnswer (if second then 3600000 else 0))
    ⟨fun _ => .idle, (World.start {}).env { schedules := [sampleSchedule] }⟩

theorem sampleRun_reachable : sampleScheduler.Reachable {} sampleRun := by
  have hcreated : EnvStep {} { schedules := [sampleSchedule] } := .created sampleSchedule rfl
  refine Relation.ReflTransGen.head (.env ⟨hcreated, fun s s' hs _ => by cases hs⟩) ?_
  exact System.turns_steps (fun second command w => sampleAnswer_effect _ command w.state) _ _

end SellerAgents.HealthScheduler
