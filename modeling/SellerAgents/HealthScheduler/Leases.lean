import SellerAgents.HealthScheduler.Cycle
import SellerAgents.HealthScheduler.Moves

open Relational Concurrent

namespace SellerAgents.HealthScheduler

open Subscriptions (Date)

/-- No lease is granted or moved: what is held was held before by the same run, until the same time.
-/
structure LeasesKept (db db' : HealthDatabase) : Prop where
  held : ∀ row' ∈ db'.runs, ∀ l, row'.leaseId = some l → ∃ row ∈ db.runs, row.id = row'.id ∧
    row.leaseId = some l ∧ row.leaseExpiresAt = row'.leaseExpiresAt
  drawn : ∀ l ∈ db.drawn, l ∈ db'.drawn

instance : Std.Refl LeasesKept where
  refl _ := ⟨fun row hrow _ hl => ⟨row, hrow, rfl, hl, rfl⟩, fun _ h => h⟩

instance : IsTrans HealthDatabase LeasesKept where
  trans db db' db'' h h' := by
    refine ⟨fun row'' hrow'' l hl => ?_, fun l hl => h'.drawn l (h.drawn l hl)⟩
    obtain ⟨row', hrow', hid', hl', hexpires'⟩ := h'.held row'' hrow'' l hl
    obtain ⟨row, hrow, hid, hl, hexpires⟩ := h.held row' hrow' l hl'
    exact ⟨row, hrow, hid.trans hid', hl, hexpires.trans hexpires'⟩

variable {db db' : HealthDatabase}

/-- A change of rows that takes leases away or leaves them. -/
theorem leasesKept_update {p : ScheduledRunRow → Bool} {set : ScheduledRunRow → ScheduledRunRow}
    (hid : ∀ row, (set row).id = row.id) (hset : ∀ row, (set row).leaseId = none ∨
      ((set row).leaseId = row.leaseId ∧ (set row).leaseExpiresAt = row.leaseExpiresAt)) :
    LeasesKept db { db with runs := updateWhere p set db.runs } where
  drawn _ h := h
  held row' hrow' l hl := by
    rcases mem_updateWhere.mp hrow' with ⟨hrow, -⟩ | ⟨row, hrow, -, rfl⟩
    · exact ⟨row', hrow, rfl, hl, rfl⟩
    · rcases hset row with hnone | ⟨hsame, hexpires⟩
      · rw [hnone] at hl
        cases hl
      · exact ⟨row, hrow, (hid row).symm, hsame ▸ hl, hexpires.symm⟩

theorem leasesKept_schedules (schedules : List HealthSchedule) :
    LeasesKept db { db with schedules := schedules } :=
  ⟨fun row hrow _ hl => ⟨row, hrow, rfl, hl, rfl⟩, fun _ h => h⟩

theorem keeps_updateSchedules (scheduleId : String) (set : HealthSchedule → HealthSchedule) :
    Keeps LeasesKept (updateSchedules scheduleId set) := by
  intro db
  rw [updateSchedules, commits_modify]
  exact leasesKept_schedules _

theorem keeps_of_same {α : Type} {x : Tx HealthDatabase α}
    (h : ∀ db, Commits x db fun _ db' => db' = db) : Keeps LeasesKept x :=
  fun db => (h db).mono fun _ _ hsame => hsame ▸ refl _

variable (input : LeaseInput)

theorem keeps_ownRun : Keeps LeasesKept (ownRun input) :=
  keeps_of_same fun _ => (ownRun_commits input).mono fun _ _ h => h.1

theorem keeps_cadence (scheduleId : String) : Keeps LeasesKept (cadence scheduleId) :=
  keeps_of_same fun _ => cadence_commits scheduleId

theorem keeps_updateLeased (state : HealthScheduledRunState)
    {set : ScheduledRunRow → ScheduledRunRow} (hid : ∀ row, (set row).id = row.id)
    (hset : ∀ row, (set row).leaseId = none ∨
      ((set row).leaseId = row.leaseId ∧ (set row).leaseExpiresAt = row.leaseExpiresAt)) :
    Keeps LeasesKept (updateLeased input state set) :=
  fun _ => (updateLeased_commits input state set).mono fun _ _ h => h.2 ▸ leasesKept_update hid hset

theorem keeps_startRun : Keeps LeasesKept (startRun input) := by
  unfold startRun assertScheduledRunTransition
  refine keeps_bind (keeps_ownRun input) fun current => ?_
  refine keeps_bind (keeps_ensure _ _) fun _ => ?_
  refine keeps_bind (keeps_cadence _) fun cadence => ?_
  refine keeps_bind (keeps_updateLeased input _ (fun _ => rfl) fun _ => .inr ⟨rfl, rfl⟩) fun row => ?_
  exact keeps_pure _

theorem keeps_finishSuccess (healthRunId : String) (healthState : HealthState) :
    Keeps LeasesKept (finishSuccess input healthRunId healthState) := by
  unfold finishSuccess assertScheduledRunTransition
  refine keeps_bind (keeps_ownRun input) fun current => ?_
  refine keeps_bind (keeps_ensure _ _) fun _ => ?_
  refine keeps_bind keeps_get fun db => ?_
  refine keeps_bind (keeps_ensure _ _) fun _ => ?_
  refine keeps_bind (keeps_ensure _ _) fun _ => ?_
  refine keeps_bind (keeps_updateLeased input _ (fun _ => rfl) fun _ => .inl rfl) fun row => ?_
  refine keeps_bind (keeps_updateSchedules _ _) fun _ => ?_
  exact keeps_pure _

theorem keeps_finishFailure (failureClass : HealthFailureClass) (failureCode : String) :
    Keeps LeasesKept (finishFailure input failureClass failureCode) := by
  unfold finishFailure assertScheduledRunTransition
  refine keeps_bind (keeps_ownRun input) fun current => ?_
  refine keeps_bind (keeps_cadence _) fun cadence => ?_
  refine keeps_bind (keeps_ensure _ _) fun _ => ?_
  refine keeps_bind (keeps_updateLeased input _ (fun _ => rfl) fun _ => .inl rfl) fun row => ?_
  exact keeps_pure _

theorem keeps_timeoutRun (failureCode : String) :
    Keeps LeasesKept (timeoutRun input failureCode) := by
  unfold timeoutRun assertScheduledRunTransition
  refine keeps_bind (keeps_ownRun input) fun current => ?_
  refine keeps_bind (keeps_ensure _ _) fun _ => ?_
  refine keeps_bind (keeps_updateLeased input _ (fun _ => rfl) fun _ => .inl rfl) fun row => ?_
  exact keeps_pure _

theorem keeps_insertRun {row : ScheduledRunRow} (hrow : row.leaseId = none) :
    Keeps LeasesKept (insertRun row) := by
  intro db
  refine (insertRun_commits row).mono fun _ db' h => ?_
  rcases h with rfl | ⟨-, -, rfl⟩
  · exact refl db'
  · refine ⟨fun row' hrow' l hl => ?_, fun _ h => h⟩
    rcases List.mem_append.mp hrow' with hold | hnew
    · exact ⟨row', hold, rfl, hl, rfl⟩
    · rw [List.mem_singleton.mp hnew, hrow] at hl
      cases hl

theorem keeps_materializeDueSlot (hashing : Hashing) (id : String) (createdAt : Date)
    (scheduleId : String) (now : Date) :
    Keeps LeasesKept (materializeDueSlot hashing id createdAt scheduleId now) := by
  unfold materializeDueSlot
  refine keeps_bind keeps_get fun db => ?_
  split
  · exact keeps_throw _
  · rename_i schedule _
    refine keeps_ite (fun _ => keeps_pure _) fun _ => ?_
    have hadvanced : ∀ inserted : Option HealthScheduledRun, Keeps LeasesKept (do
        updateSchedules schedule.scheduleId fun s =>
          if s.revision = schedule.revision then
            { s with nextDueAt := nextDueAfterMaterialization schedule now }
          else s
        return inserted) :=
      fun _ => keeps_bind (keeps_updateSchedules _ _) fun _ => keeps_pure _
    refine keeps_ite (fun _ => ?_) fun _ => ?_
    · exact keeps_bind (keeps_pure _) hadvanced
    · exact keeps_bind (keeps_insertRun rfl) hadvanced

theorem keeps_reconcileRun (runId : String) (health : HealthRun) (now : Date) :
    Keeps LeasesKept (reconcileRun runId health now) := by
  unfold reconcileRun
  refine keeps_bind keeps_get fun db => ?_
  split
  · exact keeps_pure _
  · refine keeps_bind (keeps_ensure _ _) fun _ => ?_
    refine keeps_bind (fun db => ?_) fun _ =>
      keeps_bind (keeps_updateSchedules _ _) fun _ => keeps_pure _
    rw [commits_modify]
    exact leasesKept_update (fun _ => rfl) fun _ => .inl rfl

theorem reconcileAll_leases (incident : HealthRun → Except String Unit) (now : Date)
    (candidates : List (ScheduledRunRow × HealthRun)) (recovered : Nat) (db : HealthDatabase) :
    LeasesKept db (reconcileAll incident now candidates recovered db).2 := by
  induction candidates generalizing recovered db with
  | nil => exact refl db
  | cons candidate rest ih =>
    obtain ⟨row, health⟩ := candidate
    unfold reconcileAll
    split
    · exact refl db
    · split
      · exact refl db
      · rename_i updated db' hrun
        exact IsTrans.trans _ _ _ (keeps_reconcileRun row.id health now _ _ _ hrun) (ih _ _)

/-- A claim grants the drawn lease for `leaseMs` from the time it is told, and moves no other. -/
structure LeaseGranted (leaseId : String) (input : ClaimInput) (db db' : HealthDatabase) : Prop where
  held : ∀ row' ∈ db'.runs, ∀ l, row'.leaseId = some l →
    (l = leaseId ∧ row'.leaseExpiresAt = some (input.now + input.leaseMs)) ∨
      ∃ row ∈ db.runs, row.leaseId = some l ∧ row.leaseExpiresAt = row'.leaseExpiresAt
  drawn : ∀ l ∈ leaseId :: db.drawn, l ∈ db'.drawn

theorem claimFirst_leases (leaseId : String) (input : ClaimInput) :
    Commits (claimFirst leaseId input) db fun answer db' =>
      (answer = none ∧ db' = db) ∨
        ∃ claim, answer = some claim ∧ claim.leaseId = some leaseId ∧
          claim.leaseExpiresAt = some (input.now + input.leaseMs) ∧
          LeaseGranted leaseId input db db' := by
  unfold claimFirst assertScheduledRunTransition updateSchedules
  simp only [commits_bind, commits_get]
  split
  · rw [commits_pure]
    exact .inl ⟨rfl, rfl⟩
  · simp only [commits_bind, commits_ensure, commits_modify, commits_pure]
    intro _
    refine .inr ⟨_, rfl, rfl, rfl, fun row' hrow' l hl => ?_, fun _ h => h⟩
    rcases mem_updateWhere.mp hrow' with ⟨hrow, -⟩ | ⟨row, -, -, rfl⟩
    · exact .inr ⟨row', hrow, hl, rfl⟩
    · exact .inl ⟨(Option.some.inj hl).symm, rfl⟩

theorem claimNext_leases (leaseId : String) (input : ClaimInput) :
    Commits (claimNext leaseId input) db fun answer db' =>
      (answer = none ∧ LeasesKept db db') ∨
        ∃ claim, answer = some claim ∧ claim.leaseId = some leaseId ∧
          claim.leaseExpiresAt = some (input.now + input.leaseMs) ∧
          LeaseGranted leaseId input db db' := by
  unfold claimNext
  have hends : ∀ (p : HealthDatabase → ScheduledRunRow → Bool)
      (set : ScheduledRunRow → ScheduledRunRow), (∀ row, (set row).id = row.id) →
      (∀ row, (set row).leaseId = none) → Keeps LeasesKept (modify fun db => { db with runs := updateWhere (p db) set db.runs }) := by
    intro p set hid hset db
    rw [commits_modify]
    exact leasesKept_update hid fun row => .inl (hset row)
  rw [commits_bind]
  refine (hends (·.abandoned input.now) (endAbandoned input.now) (fun _ => rfl) (fun _ => rfl) db).mono fun _ mid hmid => ?_
  rw [commits_bind]
  refine (hends (·.exhausted input.now) (endExhausted input.now) (fun _ => rfl) (fun _ => rfl) mid).mono fun _ mid' hmid' => ?_
  have hended : LeasesKept db mid' := IsTrans.trans _ _ _ hmid hmid'
  refine (claimFirst_leases leaseId input).mono fun answer db' h => ?_
  rcases h with ⟨hnone, rfl⟩ | ⟨claim, hclaim, hlease, hexpires, hgranted⟩
  · exact .inl ⟨hnone, hended⟩
  · refine .inr ⟨claim, hclaim, hlease, hexpires, fun row' hrow' l hl => ?_, fun l hl => ?_⟩
    · refine (hgranted.held row' hrow' l hl).imp_right fun hheld => ?_
      obtain ⟨row, hrow, hl, hsame⟩ := hheld
      obtain ⟨old, hold, -, hl', hsame'⟩ := hended.held row hrow l hl
      exact ⟨old, hold, hl', hsame'.trans hsame⟩
    · refine hgranted.drawn l ?_
      exact List.mem_cons.mpr ((List.mem_cons.mp hl).imp_right (hended.drawn l))

/-! What a claim takes. -/

/-- A lease has the run, claimed or running. -/
def ScheduledRunRow.Held (row : ScheduledRunRow) : Prop :=
  row.state = .CLAIMED ∨ row.state = .RUNNING

/-- Whoever holds a run until after `now` keeps it: the row stays as it is. -/
def HoldersKept (now : Date) (db db' : HealthDatabase) : Prop :=
  ∀ row' ∈ db'.runs, ∃ row ∈ db.runs, row.id = row'.id ∧
    (row.Held → row.expired now = false → row' = row)

theorem HoldersKept.trans {now : Date} {mid : HealthDatabase} (h : HoldersKept now db mid)
    (h' : HoldersKept now mid db') : HoldersKept now db db' := by
  intro row'' hrow''
  obtain ⟨row', hrow', hid', hkept'⟩ := h' row'' hrow''
  obtain ⟨row, hrow, hid, hkept⟩ := h row' hrow'
  refine ⟨row, hrow, hid.trans hid', fun hheld hexpired => ?_⟩
  obtain rfl := hkept hheld hexpired
  exact hkept' hheld hexpired

end SellerAgents.HealthScheduler
