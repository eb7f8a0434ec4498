import SellerAgents.Profiles.Lifecycle

open Relational

namespace SellerAgents.Profiles

variable {Uuid Json α : Type} {rules : ContentRules Json}
  {catalog : Catalog Uuid} {t t' : Tables Uuid Json} {c : ProfileMutationContext Uuid}

/-! What the statements of the repository read and write. -/

theorem commits_parsed {x : Except String α} {post : α → Tables Uuid Json → Prop}
    (h : ∀ value, x = .ok value → post value t) :
    Commits (parsed x : ProfileTx Uuid Json α) t post := by
  cases x with
  | error message => exact commits_throw
  | ok value => exact commits_pure.mpr (h value rfl)

variable {mode : AssignmentMode} {command : Command Uuid Json}
  {assignmentId baseline bps revision : Nat} {expected : Option Nat} {profileId : Uuid}

theorem commits_loadAssignment {post : Assignment Uuid → Tables Uuid Json → Prop}
    (h : ∀ row ∈ t.assignments, row.id = assignmentId → post row t) :
    Commits (loadAssignment assignmentId) t post := by
  unfold loadAssignment
  rw [commits_bind, commits_get]
  split
  · exact commits_throw
  · rename_i row hfind
    have hid := List.find?_some hfind
    exact commits_pure.mpr (h row (List.mem_of_find?_eq_some hfind) (of_decide_eq_true hid))

variable [DecidableEq Uuid]

theorem commits_loadRevision {post : ProfileRevision Uuid Json → Tables Uuid Json → Prop}
    (h : ∀ row ∈ t.profileRevisions, post row t) :
    Commits (loadRevision profileId revision) t post := by
  unfold loadRevision
  rw [commits_bind, commits_get]
  split
  · exact commits_throw
  · rename_i row hfind
    exact commits_pure.mpr (h row (List.mem_of_find?_eq_some hfind))

omit [DecidableEq Uuid] in
theorem commits_mutateAssignment
    {action : Assignment Uuid → Option (AssignmentRevision Uuid) → ProfileTx Uuid Json α}
    {post : α → Tables Uuid Json → Prop} (h : ∀ a ∈ t.assignments, a.id = assignmentId →
      Commits (action a (latestRevision t.assignmentRevisions assignmentId)) t post) :
    Commits (mutateAssignment catalog assignmentId expected c action) t post := by
  unfold mutateAssignment authorize checkExpected latestAssignmentRevision
  simp only [commits_bind, commits_ensure, commits_get, commits_pure]
  intro _
  exact commits_loadAssignment fun a ha hid _ => h a ha hid

/-- What an insert of an assignment revision commits. -/
def Inserts (rules : ContentRules Json) (catalog : Catalog Uuid) (t : Tables Uuid Json)
    (row : AssignmentRevision Uuid) (t' : Tables Uuid Json) : Prop :=
  AssignmentRevisionValidate rules catalog t row ∧
    t' = { t with assignmentRevisions := t.assignmentRevisions ++ [row] }

theorem commits_insertAssignmentRevision (rules : ContentRules Json) (catalog : Catalog Uuid)
    (t : Tables Uuid Json) (assignmentId : Nat) (mode : AssignmentMode) (baseline : Nat)
    (candidate : Option Nat) (percentageBps : Nat) (c : ProfileMutationContext Uuid) :
    Commits (insertAssignmentRevision rules catalog assignmentId mode baseline candidate
      percentageBps c) t fun row t' => Inserts rules catalog t row t' ∧
        row = nextAssignmentRevision catalog t.assignmentRevisions assignmentId mode baseline
          candidate percentageBps c := by
  unfold insertAssignmentRevision
  simp only [commits_bind, commits_get, commits_ensure, commits_modify, commits_pure]
  exact fun hvalid _ => ⟨⟨hvalid, rfl⟩, trivial⟩

/-! The commands on an assignment. -/

/-- What the row of a command has to do with the latest one. -/
def Command.Relates (command : Command Uuid Json) (latest row : AssignmentRevision Uuid) : Prop :=
  (command.continuesRollout = true → latest.mode ≠ .DIRECT ∧ row.mode ≠ .DIRECT ∧
    row.baselineProfileRevisionId = latest.baselineProfileRevisionId ∧
    row.candidateProfileRevisionId = latest.candidateProfileRevisionId) ∧
  (command.completesRollout = true → row.mode = .DIRECT ∧
    latest.candidateProfileRevisionId = some row.baselineProfileRevisionId)

/-- The row that a command has inserted, and the one before it for those that need one. -/
def Revises (rules : ContentRules Json) (command : Command Uuid Json) (catalog : Catalog Uuid)
    (t : Tables Uuid Json) (row : AssignmentRevision Uuid) (t' : Tables Uuid Json) : Prop :=
  Inserts rules catalog t row t' ∧
    (command.continuesRollout = true ∨ command.completesRollout = true →
      ∃ latest, latestRevision t.assignmentRevisions row.assignmentId = some latest ∧
        row.revision = latest.revision + 1 ∧ command.Relates latest row)

/-- An insert by a command that needs no row before it. -/
theorem commits_insert_direct {candidate : Option Nat}
    (hcontinues : command.continuesRollout = false) (hcompletes : command.completesRollout = false) :
    Commits (insertAssignmentRevision rules catalog assignmentId mode baseline candidate bps c) t
      (Revises rules command catalog t) := by
  refine (commits_insertAssignmentRevision _ _ _ _ _ _ _ _ _).mono fun row t' h => ⟨h.1, ?_⟩
  rintro (hcommand | hcommand)
  · rw [hcontinues] at hcommand
    cases hcommand
  · rw [hcompletes] at hcommand
    cases hcommand

theorem commits_assignDirect :
    Commits (assignDirect rules catalog assignmentId baseline expected c) t
      (Revises rules (.assignDirect assignmentId baseline expected) catalog t) := by
  unfold assignDirect
  rw [commits_bind]
  refine commits_parsed fun ctx _ => ?_
  rw [commits_bind, commits_ensure]
  intro _
  refine commits_mutateAssignment fun a ha hid => ?_
  unfold assertTargets
  simp only [commits_bind, commits_get, commits_ensure]
  intro _
  exact commits_insert_direct rfl rfl

theorem commits_rollback {target expected : Nat} :
    Commits (rollbackProfileAssignment rules catalog assignmentId target expected c) t
      (Revises rules (.rollbackProfileAssignment assignmentId target expected) catalog t) := by
  unfold rollbackProfileAssignment
  rw [commits_bind, commits_ensure]
  intro _
  rw [commits_bind]
  refine commits_parsed fun ctx _ => ?_
  refine commits_mutateAssignment fun a ha hid => ?_
  unfold assertTargets
  simp only [commits_bind, commits_get, commits_ensure]
  intro _
  exact commits_insert_direct rfl rfl

theorem commits_startRollout {candidate : Nat} {percentageBps : ℚ} :
    Commits (startRollout rules catalog assignmentId baseline candidate percentageBps expected c) t
      (Revises rules (.startRollout assignmentId baseline candidate percentageBps expected) catalog
        t) := by
  unfold startRollout startProfileRolloutInTransaction percentage authorize assertTargets checkExpected
    latestAssignmentRevision
  simp only [commits_bind, commits_get, commits_ensure, commits_pure]
  intro _ _
  refine commits_parsed fun ctx _ => ?_
  intro _
  refine commits_parsed fun ctx _ => ?_
  intro _ _
  refine commits_loadAssignment fun a ha hid => ?_
  intro _ _
  exact commits_insert_direct rfl rfl

omit [DecidableEq Uuid] in
/-- A row that follows the latest one of its assignment. -/
theorem exists_latest {latest : AssignmentRevision Uuid}
    (hlatest : latestRevision t.assignmentRevisions assignmentId = some latest)
    {row : AssignmentRevision Uuid} {candidate : Option Nat}
    (hrow : row = nextAssignmentRevision catalog t.assignmentRevisions assignmentId mode baseline
      candidate bps c) (hrelates : command.Relates latest row) :
    ∃ latest, latestRevision t.assignmentRevisions row.assignmentId = some latest ∧
      row.revision = latest.revision + 1 ∧ command.Relates latest row := by
  refine ⟨latest, ?_, ?_, hrelates⟩
  · rw [hrow]
    exact hlatest
  · rw [hrow, nextAssignmentRevision, hlatest]
    rfl

/-- An insert that goes on with the rollout of the latest row. -/
theorem commits_insert_continuing {latest : AssignmentRevision Uuid}
    (hlatest : latestRevision t.assignmentRevisions assignmentId = some latest)
    (hactive : latest.mode ≠ .DIRECT) (hmode : mode ≠ .DIRECT)
    (hcompletes : command.completesRollout = false) :
    Commits (insertAssignmentRevision rules catalog assignmentId mode
      latest.baselineProfileRevisionId latest.candidateProfileRevisionId bps c) t
      (Revises rules command catalog t) := by
  refine (commits_insertAssignmentRevision _ _ _ _ _ _ _ _ _).mono fun row t' h => ⟨h.1, fun _ => ?_⟩
  refine exists_latest hlatest h.2 ⟨fun _ => ?_, fun hcommand => ?_⟩
  · rw [h.2]
    exact ⟨hactive, hmode, rfl, rfl⟩
  · rw [hcompletes] at hcommand
    cases hcommand

theorem commits_change {percentageBps : ℚ} {expected : Nat} :
    Commits (changeRolloutPercentage rules catalog assignmentId percentageBps expected c) t
      (Revises rules (.changeRolloutPercentage assignmentId percentageBps expected) catalog t) := by
  unfold changeRolloutPercentage percentage
  simp only [commits_bind, commits_ensure, commits_pure]
  intro _ _
  refine commits_parsed fun ctx _ => ?_
  refine commits_mutateAssignment fun a ha hid => ?_
  split
  · exact commits_throw
  · rename_i latest hfilter
    obtain ⟨hlatest, hmode⟩ := Option.filter_eq_some_iff.mp hfilter
    have hactive : latest.mode ≠ .DIRECT := by
      rw [of_decide_eq_true hmode]
      decide
    exact commits_insert_continuing (hid ▸ hlatest) hactive (by decide) rfl

theorem commits_pause :
    Commits (pauseProfileRollout rules catalog assignmentId expected c) t
      (Revises rules (.pauseProfileRollout assignmentId expected) catalog t) := by
  unfold pauseProfileRollout expectedRevision
  rw [commits_bind]
  refine commits_parsed fun ctx _ => ?_
  rw [commits_bind, commits_ensure]
  intro _
  refine commits_mutateAssignment fun a ha hid => ?_
  split
  · exact commits_throw
  · rename_i latest hfilter
    obtain ⟨hlatest, hmode⟩ := Option.filter_eq_some_iff.mp hfilter
    have hactive : latest.mode ≠ .DIRECT := by
      rw [of_decide_eq_true hmode]
      decide
    exact commits_insert_continuing (hid ▸ hlatest) hactive (by decide) rfl

theorem commits_resume {percentageBps : Option ℚ} :
    Commits (resumeProfileRollout rules catalog assignmentId expected percentageBps c) t
      (Revises rules (.resumeProfileRollout assignmentId expected percentageBps) catalog t) := by
  unfold resumeProfileRollout expectedRevision
  rw [commits_bind]
  refine commits_parsed fun ctx _ => ?_
  rw [commits_bind, commits_ensure]
  intro _
  refine commits_mutateAssignment fun a ha hid => ?_
  split
  · exact commits_throw
  · rename_i latest hfilter
    obtain ⟨hlatest, hpaused⟩ := Option.filter_eq_some_iff.mp hfilter
    simp only [Bool.and_eq_true, decide_eq_true_eq] at hpaused
    unfold percentage
    simp only [commits_bind, commits_ensure, commits_pure]
    intro _
    have hactive : latest.mode ≠ .DIRECT := by
      rw [hpaused.1]
      decide
    exact commits_insert_continuing (hid ▸ hlatest) hactive (by decide) rfl

theorem commits_complete :
    Commits (completeRollout rules catalog assignmentId expected c) t
      (Revises rules (.completeRollout assignmentId expected) catalog t) := by
  unfold completeRollout expectedRevision
  rw [commits_bind]
  refine commits_parsed fun ctx _ => ?_
  rw [commits_bind, commits_ensure]
  intro _
  refine commits_mutateAssignment fun a ha hid => ?_
  split
  · exact commits_throw
  · rename_i candidate hcandidate
    obtain ⟨latest, hfilter, hnamed⟩ := Option.bind_eq_some_iff.mp hcandidate
    obtain ⟨hlatest, -⟩ := Option.filter_eq_some_iff.mp hfilter
    refine (commits_insertAssignmentRevision _ _ _ _ _ _ _ _ _).mono fun row t' h => ⟨h.1, fun _ => ?_⟩
    refine exists_latest (hid ▸ hlatest) h.2 ⟨fun hcontinues => ?_, fun _ => ?_⟩
    · cases hcontinues
    · rw [h.2]
      exact ⟨rfl, hnamed⟩

/-! All commands. -/

variable [DecidableEq Json]

/-- What an update of a profile revision commits. -/
def Updates (t : Tables Uuid Json) (row row' : ProfileRevision Uuid Json)
    (t' : Tables Uuid Json) : Prop :=
  row ∈ t.profileRevisions ∧ ProfileRevisionGuard row row' ∧ LifecycleGuard row row' ∧
    RetirementGuard t.assignmentRevisions row row' ∧ ∃ set, row' = set row ∧
      t' = { t with profileRevisions := updateWhere (·.id = row.id) set t.profileRevisions }

theorem commits_updateProfileRevision {row : ProfileRevision Uuid Json}
    (hrow : row ∈ t.profileRevisions) (set : ProfileRevision Uuid Json → ProfileRevision Uuid Json) :
    Commits (updateProfileRevision rules catalog row set) t fun row' t' => Updates t row row' t' := by
  unfold updateProfileRevision
  simp only [commits_bind, commits_get, commits_ensure, commits_modify, commits_pure]
  rintro ⟨hidentity, hlifecycle, hretirement⟩ _ _ _
  exact ⟨hrow, hidentity, hlifecycle, hretirement, set, rfl, rfl⟩

/-- What a step writes. -/
inductive Effect (rules : ContentRules Json) (catalog : Catalog Uuid) (t : Tables Uuid Json) :
    Written Uuid Json → Tables Uuid Json → Prop where
  | drafted (row : ProfileRevision Uuid Json) (new : row.id = t.profileRevisions.length)
      (draft : row.state = .DRAFT) : Effect rules catalog t (.profileRevision row)
        { t with profileRevisions := t.profileRevisions ++ [row] }
  | updated (row row' : ProfileRevision Uuid Json) (t' : Tables Uuid Json)
      (updates : Updates t row row' t') : Effect rules catalog t (.profileRevision row') t'
  | opened (row : Assignment Uuid) (new : row.id = t.assignments.length) :
      Effect rules catalog t (.assignment row) { t with assignments := t.assignments ++ [row] }
  | revised (row : AssignmentRevision Uuid) (t' : Tables Uuid Json)
      (inserts : Inserts rules catalog t row t') : Effect rules catalog t (.assignmentRevision row) t'

theorem commits_transition {target : ProfileRevisionState} :
    Commits (transition rules catalog profileId revision target c) t
      fun row' t' => ∃ row, Updates t row row' t' := by
  unfold transition authorize
  simp only [commits_bind, commits_ensure]
  intro _
  refine commits_loadRevision fun row hrow _ => ?_
  have hupdate : Commits (updateProfileRevision rules catalog row fun r => { r with state := target })
      t fun row' t' => ∃ row, Updates t row row' t' :=
    (commits_updateProfileRevision hrow _).mono fun row' t' h => ⟨row, h⟩
  rw [commits_ite, commits_bind]
  refine ⟨fun _ => ?_, fun _ => hupdate⟩
  refine commits_parsed fun validated _ => ?_
  rw [commits_bind, commits_ensure]
  exact fun _ => hupdate

theorem commits_publish :
    Commits (publishProfileRevisionInTransaction rules catalog profileId revision c) t
      fun row' t' => ∃ row, Updates t row row' t' := by
  unfold publishProfileRevisionInTransaction
  rw [commits_bind]
  refine commits_parsed fun ctx _ => ?_
  rw [commits_bind]
  refine commits_loadRevision fun row hrow => ?_
  rw [commits_bind, commits_ensure]
  exact fun _ => (commits_updateProfileRevision hrow _).mono fun row' t' h => ⟨row, h⟩

omit [DecidableEq Json] in
theorem commits_createDraft {content compatibility : Json} :
    Commits (createDraftProfileRevision rules catalog profileId content compatibility c) t
      fun row t' => Effect rules catalog t (.profileRevision row) t' := by
  unfold createDraftProfileRevision authorize
  rw [commits_bind]
  refine commits_parsed fun ctx _ => ?_
  rw [commits_bind]
  refine commits_parsed fun validated _ => ?_
  rw [commits_bind, commits_ensure]
  intro _
  split
  · exact commits_throw
  · simp only [commits_bind, commits_get, commits_ensure, commits_modify, commits_pure]
    exact fun _ _ => .drafted _ rfl rfl

theorem commits_updateDraft {content compatibility : Json} {expected : String} :
    Commits (updateDraftProfileRevision rules catalog profileId revision content compatibility
      expected c) t fun row' t' => ∃ row, Updates t row row' t' := by
  unfold updateDraftProfileRevision authorize
  rw [commits_bind]
  refine commits_parsed fun ctx _ => ?_
  rw [commits_bind]
  refine commits_parsed fun validated _ => ?_
  rw [commits_bind, commits_ensure]
  intro _
  rw [commits_bind, commits_ensure]
  intro _
  rw [commits_bind]
  refine commits_loadRevision fun row hrow => ?_
  simp only [commits_bind, commits_ensure]
  exact fun _ _ => (commits_updateProfileRevision hrow _).mono fun row' t' h => ⟨row, h⟩

omit [DecidableEq Json] in
theorem commits_createScope {scope : AssignmentScope Uuid} {seed : CohortSeed} :
    Commits (createAssignmentScope catalog scope seed c) t
      fun row t' => Effect rules catalog t (.assignment row) t' := by
  unfold createAssignmentScope authorize
  rw [commits_bind]
  refine commits_parsed fun ctx _ => ?_
  simp only [commits_bind, commits_get, commits_ensure, commits_modify, commits_pure]
  exact fun _ _ _ _ => .opened _ rfl

/-- What a step commits. -/
theorem commits_execute (rules : ContentRules Json) (step : Step Uuid Json) (t : Tables Uuid Json) :
    Commits (step.execute rules) t fun written t' => Effect rules step.catalog t written t' ∧
      ∀ row, written = .assignmentRevision row → Revises rules step.command step.catalog t row t' := by
  obtain ⟨command, sender, catalog⟩ := step
  have hupdates : ∀ {x : ProfileTx Uuid Json (ProfileRevision Uuid Json)},
      Commits x t (fun row' t' => ∃ row, Updates t row row' t') →
      Commits (Written.profileRevision <$> x) t fun written t' =>
        Effect rules catalog t written t' ∧
          ∀ row, written = .assignmentRevision row → Revises rules command catalog t row t' := by
    intro x h
    rw [commits_map]
    refine h.mono fun row' t' ⟨row, hupdate⟩ => ⟨.updated row row' t' hupdate, fun row heq => ?_⟩
    cases heq
  have hrevises : ∀ {x : ProfileTx Uuid Json (AssignmentRevision Uuid)},
      Commits x t (Revises rules command catalog t) →
      Commits (Written.assignmentRevision <$> x) t fun written t' =>
        Effect rules catalog t written t' ∧
          ∀ row, written = .assignmentRevision row → Revises rules command catalog t row t' := by
    intro x h
    rw [commits_map]
    refine h.mono fun row t' hrow => ⟨.revised row t' hrow.1, fun row heq => ?_⟩
    cases heq
    exact hrow
  cases command with
  | createDraftProfileRevision profileId content compatibility =>
    refine commits_map.mpr (commits_createDraft.mono fun row t' h => ⟨h, fun row heq => ?_⟩)
    cases heq
  | updateDraftProfileRevision profileId revision content compatibility expected =>
    exact hupdates commits_updateDraft
  | markProfileRevisionCandidate profileId revision =>
    refine commits_bind.mpr (commits_parsed fun ctx _ => ?_)
    exact hupdates commits_transition
  | publishProfileRevision profileId revision =>
    refine commits_bind.mpr (commits_parsed fun ctx _ => ?_)
    refine commits_bind.mpr ((commits_ensure).mpr fun _ => ?_)
    exact hupdates commits_publish
  | retireProfileRevision profileId revision =>
    refine commits_bind.mpr (commits_parsed fun ctx _ => ?_)
    exact hupdates commits_transition
  | createAssignmentScope scope seed =>
    refine commits_map.mpr (commits_createScope.mono fun row t' h => ⟨h, fun row heq => ?_⟩)
    cases heq
  | assignDirect assignmentId baseline expected => exact hrevises commits_assignDirect
  | startRollout assignmentId baseline candidate percentageBps expected =>
    exact hrevises commits_startRollout
  | changeRolloutPercentage assignmentId percentageBps expected => exact hrevises commits_change
  | pauseProfileRollout assignmentId expected => exact hrevises commits_pause
  | resumeProfileRollout assignmentId expected percentageBps => exact hrevises commits_resume
  | completeRollout assignmentId expected => exact hrevises commits_complete
  | rollbackProfileAssignment assignmentId profileRevisionId expected =>
    exact hrevises commits_rollback

end SellerAgents.Profiles
