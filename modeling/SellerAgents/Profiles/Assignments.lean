import Mathlib.Data.List.Nodup
import SellerAgents.Profiles.LifecycleLaws
import SellerAgents.Relational.Journal

namespace SellerAgents.Profiles

/-! `selectRolloutCandidateV1` and `selectAssignedProfileRevision`. -/

def P7_PROFILE_ROLLOUT_KEY : String := "ai.profile.assignment"

def AssignmentSubjectKind.text : AssignmentSubjectKind → String
  | .ACCOUNT => "ACCOUNT"
  | .DEVICE => "DEVICE"

def utf8 (text : String) : List UInt8 := text.toUTF8.toList

/-- What a bucket is the hash of. -/
def rolloutBytes (rolloutKey : String) (cohortSeed : CohortSeed) (subjectKind : AssignmentSubjectKind)
    (subjectId : String) : List UInt8 :=
  utf8 "product-control-plane/rollout/v1\x00" ++ utf8 rolloutKey ++ [0] ++ cohortSeed.toList ++ [0] ++
    utf8 subjectKind.text ++ [0] ++ utf8 subjectId

/-- `readBigUInt64BE(0)` of a digest. -/
def readBigUInt64BE (digest : List UInt8) : Nat :=
  (digest.take 8).foldl (fun acc byte => acc * 256 + byte.toNat) 0

variable (sha256 : List UInt8 → List UInt8)

/-- The bucket of a subject, out of ten thousand. -/
def rolloutBucketV1 (rolloutKey : String) (cohortSeed : CohortSeed)
    (subjectKind : AssignmentSubjectKind) (subjectId : String) : Nat :=
  readBigUInt64BE (sha256 (rolloutBytes rolloutKey cohortSeed subjectKind subjectId)) % 10000

/-- The selection for a rollout that is active. -/
def selectRolloutCandidateV1 (active : Bool) (percentageBps : Nat) (rolloutKey : String)
    (cohortSeed : CohortSeed) (subjectKind : AssignmentSubjectKind) (subjectId : String) :
    Except String Bool :=
  if 10000 < percentageBps then .error "invalid rollout percentage"
  else .ok (active && rolloutBucketV1 sha256 rolloutKey cohortSeed subjectKind subjectId < percentageBps)

/-- What a subject is served of a revision of an assignment. -/
def selectAssignedProfileRevision {Uuid : Type} (row : AssignmentRevision Uuid)
    (cohortSeed : CohortSeed) (subjectKind : AssignmentSubjectKind) (subjectId : String) :
    Except String Nat :=
  if 10000 < row.percentageBps then .error "AssignmentPercentageSchema"
  else
    match row.mode, row.candidateProfileRevisionId with
    | .ROLLOUT, some candidate => do
      let selected ← selectRolloutCandidateV1 sha256 true row.percentageBps P7_PROFILE_ROLLOUT_KEY
        cohortSeed subjectKind subjectId
      return if selected then candidate else row.baselineProfileRevisionId
    | _, _ => .ok row.baselineProfileRevisionId

end SellerAgents.Profiles

open Relational

namespace SellerAgents.Profiles

variable {Uuid Json : Type} {t t' : Tables Uuid Json} {rows : List (AssignmentRevision Uuid)}
  {row row' latest : AssignmentRevision Uuid}

/-! What every sequence of commands keeps. -/

/-- The revisions of one assignment. -/
def revisionsOf (a : Nat) (rows : List (AssignmentRevision Uuid)) : List (AssignmentRevision Uuid) :=
  rows.filter (·.assignmentId = a)

theorem mem_revisionsOf {a : Nat} : row ∈ revisionsOf a rows ↔ row ∈ rows ∧ row.assignmentId = a := by
  simp [revisionsOf]

/-- A published revision, in use or not. -/
def ProfileRevision.Released (r : ProfileRevision Uuid Json) : Prop :=
  r.state = .PUBLISHED ∨ r.state = .RETIRED

/-- Revisions are numbered in order, and what a latest assignment serves is published. -/
structure Sound (t : Tables Uuid Json) : Prop where
  profiles : t.profileRevisions.map (·.id) = List.range t.profileRevisions.length
  numbered : ∀ a, (revisionsOf a t.assignmentRevisions).map (·.revision) =
    List.range' 1 (revisionsOf a t.assignmentRevisions).length
  shaped : ∀ row ∈ t.assignmentRevisions, row.Shaped
  servable : ∀ row ∈ t.assignmentRevisions, row.isLatest t.assignmentRevisions = true →
    ∀ target ∈ row.targets, ∃ r ∈ t.profileRevisions, r.id = target ∧ r.state = .PUBLISHED

theorem sound_nil : Sound (⟨[], [], []⟩ : Tables Uuid Json) where
  profiles := rfl
  numbered _ := rfl
  shaped _ hrow := absurd hrow List.not_mem_nil
  servable _ hrow := absurd hrow List.not_mem_nil

/-- Later tables: the history goes on, and what has been published stays as it is. -/
structure Extends (t t' : Tables Uuid Json) : Prop where
  history : t.assignmentRevisions <+: t'.assignmentRevisions
  scopes : t.assignments <+: t'.assignments
  released : ∀ r ∈ t.profileRevisions, ∃ r' ∈ t'.profileRevisions, r'.id = r.id ∧
    (r.Released → r'.Released ∧ r'.content = r.content)

theorem Extends.rfl : Extends t t :=
  ⟨List.prefix_refl _, List.prefix_refl _, fun r hr => ⟨r, hr, Eq.refl _, fun h => ⟨h, Eq.refl _⟩⟩⟩

theorem Extends.trans {t'' : Tables Uuid Json} (h : Extends t t') (h' : Extends t' t'') :
    Extends t t'' where
  history := h.history.trans h'.history
  scopes := h.scopes.trans h'.scopes
  released r hr := by
    obtain ⟨r', hr', hid, hkept⟩ := h.released r hr
    obtain ⟨r'', hr'', hid', hkept'⟩ := h'.released r' hr'
    refine ⟨r'', hr'', hid'.trans hid, fun hreleased => ?_⟩
    obtain ⟨hreleased', hcontent⟩ := hkept hreleased
    obtain ⟨hreleased'', hcontent'⟩ := hkept' hreleased'
    exact ⟨hreleased'', hcontent'.trans hcontent⟩

theorem Sound.nodup (h : Sound t) : (t.profileRevisions.map (·.id)).Nodup :=
  h.profiles ▸ List.nodup_range

theorem Sound.eq_of_id (h : Sound t) {r r' : ProfileRevision Uuid Json}
    (hr : r ∈ t.profileRevisions) (hr' : r' ∈ t.profileRevisions) (hid : r.id = r'.id) : r = r' :=
  List.inj_on_of_nodup_map h.nodup hr hr' hid

/-- A revision number names one row of an assignment. -/
theorem Sound.eq_of_revision (h : Sound t) (hrow : row ∈ t.assignmentRevisions)
    (hrow' : row' ∈ t.assignmentRevisions) (hassignment : row.assignmentId = row'.assignmentId)
    (hrevision : row.revision = row'.revision) : row = row' := by
  have hnodup : ((revisionsOf row'.assignmentId t.assignmentRevisions).map (·.revision)).Nodup :=
    h.numbered _ ▸ List.nodup_range' _
  exact List.inj_on_of_nodup_map hnodup (mem_revisionsOf.mpr ⟨hrow, hassignment⟩)
    (mem_revisionsOf.mpr ⟨hrow', Eq.refl _⟩) hrevision

theorem latestRevision_isLatest {a : Nat} (h : latestRevision rows a = some latest) :
    latest ∈ rows ∧ latest.assignmentId = a ∧ latest.isLatest rows = true := by
  have hmem := List.argmax_mem h
  obtain ⟨hrow, hassignment⟩ := List.mem_filter.mp hmem
  have hassignment : latest.assignmentId = a := of_decide_eq_true hassignment
  refine ⟨hrow, hassignment, List.all_eq_true.mpr fun other hother => ?_⟩
  simp only [Bool.or_eq_true, decide_eq_true_eq]
  by_cases hsame : other.assignmentId = latest.assignmentId
  · refine .inr (List.le_of_mem_argmax (List.mem_filter.mpr ⟨hother, ?_⟩) h)
    exact decide_eq_true (hsame.trans hassignment)
  · exact .inl hsame

section Updates

variable {r r' : ProfileRevision Uuid Json} (h : Sound t)
  (hupdates : Updates t r r' t')

include h hupdates in
/-- The rows of an update: the one row that is rewritten, and the others. -/
theorem mem_updates {other : ProfileRevision Uuid Json} (hother : other ∈ t.profileRevisions) :
    (other = r ∧ r' ∈ t'.profileRevisions) ∨ (other.id ≠ r.id ∧ other ∈ t'.profileRevisions) := by
  obtain ⟨hr, -, -, -, set, rfl, rfl⟩ := hupdates
  by_cases hid : other.id = r.id
  · obtain rfl := h.eq_of_id hother hr hid
    exact .inl ⟨rfl, mem_updateWhere.mpr (.inr ⟨other, hother, by simp, rfl⟩)⟩
  · exact .inr ⟨hid, mem_updateWhere.mpr (.inl ⟨hother, by simp [hid]⟩)⟩

include h hupdates in
theorem updates_sound : Sound t' := by
  have hmem : ∀ other ∈ t.profileRevisions, (other = r ∧ r' ∈ t'.profileRevisions) ∨
      (other.id ≠ r.id ∧ other ∈ t'.profileRevisions) := fun other => mem_updates h hupdates
  obtain ⟨hr, hidentity, hlifecycle, hretirement, set, rfl, rfl⟩ := hupdates
  constructor
  · have hids : (updateWhere (·.id = r.id) set t.profileRevisions).map (·.id) =
        t.profileRevisions.map (·.id) := by
      refine map_updateWhere _ fun other hother hid => ?_
      obtain rfl := h.eq_of_id hother hr (of_decide_eq_true hid)
      exact hidentity.1.symm
    have hlength : (updateWhere (·.id = r.id) set t.profileRevisions).length =
        t.profileRevisions.length := List.length_map _
    rw [hids, hlength, h.profiles]
  · exact h.numbered
  · exact h.shaped
  · intro row hrow hlatest target htarget
    obtain ⟨other, hother, hid, hpublished⟩ := h.servable row hrow hlatest target htarget
    rcases hmem other hother with ⟨rfl, hnew⟩ | ⟨-, hkept⟩
    · unfold LifecycleGuard at hlifecycle
      rw [hpublished] at hlifecycle
      have hfree := hretirement hpublished hlifecycle.1 row hrow hlatest
      rw [hid] at hfree
      exact absurd htarget hfree
    · exact ⟨other, hkept, hid, hpublished⟩

include h hupdates in
theorem updates_extends : Extends t t' := by
  have hmem : ∀ other ∈ t.profileRevisions, (other = r ∧ r' ∈ t'.profileRevisions) ∨
      (other.id ≠ r.id ∧ other ∈ t'.profileRevisions) := fun other => mem_updates h hupdates
  obtain ⟨hr, hidentity, hlifecycle, hretirement, set, rfl, rfl⟩ := hupdates
  refine ⟨List.prefix_refl _, List.prefix_refl _, fun other hother => ?_⟩
  rcases hmem other hother with ⟨rfl, hnew⟩ | ⟨-, hkept⟩
  · refine ⟨set other, hnew, hidentity.1.symm, fun hreleased => ?_⟩
    obtain ⟨-, -, -, -, -, -, -, hretired, hpublished⟩ := hidentity
    obtain ⟨hstate, hcontent, -⟩ := hpublished (hreleased.resolve_right hretired)
    exact ⟨hstate, hcontent.symm⟩
  · exact ⟨other, hkept, rfl, fun h => ⟨h, rfl⟩⟩

end Updates

variable [DecidableEq Uuid] {rules : ContentRules Json} {catalog : Catalog Uuid}

theorem published_of_eligible {a : Assignment Uuid} {r : ProfileRevision Uuid Json}
    (h : eligible rules catalog a r = true) : r.state = .PUBLISHED := by
  unfold eligible at h
  cases hprofile : catalog.profile r.profileId with
  | none =>
    rw [hprofile] at h
    cases h
  | some p =>
    rw [hprofile] at h
    simp only [Option.any_some, Bool.and_eq_true, decide_eq_true_eq] at h
    exact h.1.1.1.1.1.1.1.1

section Inserts

variable (h : Sound t) (hinserts : Inserts rules catalog t row t')

include h hinserts in
theorem inserts_sound : Sound t' := by
  obtain ⟨⟨hrevision, htargets, hshaped, -⟩, rfl⟩ := hinserts
  constructor
  · exact h.profiles
  · intro a
    unfold revisionsOf
    rw [List.filter_append]
    by_cases ha : row.assignmentId = a
    · subst ha
      rw [List.filter_cons_of_pos (by simp), List.filter_nil, List.map_append, List.map_singleton,
        List.length_append, List.length_singleton, List.range'_concat]
      have hnumbered := h.numbered row.assignmentId
      unfold revisionsOf at hnumbered
      rw [hnumbered, hrevision, hnumbered]
      have hmax : ∀ n, (List.range' 1 n).foldr max 0 = n := by
        intro n
        cases n with
        | zero => rfl
        | succ n =>
          rw [foldr_max_range' 1 (n + 1) Nat.one_pos n.succ_pos]
          omega
      rw [hmax, Nat.one_mul, Nat.add_comm 1]
    · rw [List.filter_cons_of_neg (by simpa using ha), List.filter_nil, List.append_nil]
      exact h.numbered a
  · intro other hother
    rcases List.mem_append.mp hother with hother | hother
    · exact h.shaped other hother
    · obtain rfl := List.mem_singleton.mp hother
      exact hshaped
  · intro other hother hlatest target htarget
    rcases List.mem_append.mp hother with hother | hother
    · refine h.servable other hother ?_ target htarget
      refine List.all_eq_true.mpr fun third hthird => ?_
      exact List.all_eq_true.mp hlatest third (List.mem_append_left _ hthird)
    · obtain rfl := List.mem_singleton.mp hother
      have hnamed : target ∈ other.baselineProfileRevisionId ::
          other.candidateProfileRevisionId.toList := by
        unfold AssignmentRevision.targets at htarget
        split at htarget
        · rw [List.mem_singleton.mp htarget]
          exact List.mem_cons_self
        · exact htarget
      obtain ⟨r, hr, hid, heligible⟩ := htargets target hnamed
      obtain ⟨a, -, heligible⟩ := List.any_eq_true.mp heligible
      exact ⟨r, hr, hid, published_of_eligible (Bool.and_eq_true_iff.mp heligible).2⟩

include hinserts in
theorem inserts_extends : Extends t t' := by
  obtain ⟨-, rfl⟩ := hinserts
  exact ⟨List.prefix_append _ _, List.prefix_refl _, fun r hr => ⟨r, hr, rfl, fun h => ⟨h, rfl⟩⟩⟩

end Inserts

section Run

variable [DecidableEq Json] {steps : List (Step Uuid Json)} {step : Step Uuid Json}
  {written : Written Uuid Json}

omit [DecidableEq Json] in
theorem effect_sound (h : Sound t) (heffect : Effect rules catalog t written t') :
    Sound t' ∧ Extends t t' := by
  cases heffect with
  | drafted row new draft =>
    refine ⟨⟨?_, h.numbered, h.shaped, fun other hother hlatest target htarget => ?_⟩,
      ⟨List.prefix_refl _, List.prefix_refl _, fun r hr => ?_⟩⟩
    · rw [List.map_append, h.profiles, List.length_append, List.map_singleton, new,
        List.length_singleton, List.range_succ]
    · obtain ⟨r, hr, hpublished⟩ := h.servable other hother hlatest target htarget
      exact ⟨r, List.mem_append_left _ hr, hpublished⟩
    · exact ⟨r, List.mem_append_left _ hr, rfl, fun h => ⟨h, rfl⟩⟩
  | updated row row' t' updates => exact ⟨updates_sound h updates, updates_extends h updates⟩
  | opened row new =>
    exact ⟨⟨h.profiles, h.numbered, h.shaped, h.servable⟩, List.prefix_refl _, List.prefix_append _ _,
      fun r hr => ⟨r, hr, rfl, fun h => ⟨h, rfl⟩⟩⟩
  | revised row t' inserts => exact ⟨inserts_sound h inserts, inserts_extends inserts⟩

/-- What the log says of the rows that it has inserted. -/
def Logged (log : List (Entry Uuid Json)) (t : Tables Uuid Json) : Prop :=
  ∀ entry ∈ log, ∀ row, entry.outcome = .ok (.assignmentRevision row) →
    row ∈ t.assignmentRevisions ∧ (entry.step.command.continuesRollout = true ∨
        entry.step.command.completesRollout = true →
      ∃ latest ∈ t.assignmentRevisions, latest.assignmentId = row.assignmentId ∧
        row.revision = latest.revision + 1 ∧ entry.step.command.Relates latest row)

omit [DecidableEq Uuid] [DecidableEq Json] in
theorem Logged.mono {log : List (Entry Uuid Json)} (h : Logged log t)
    (hhistory : t.assignmentRevisions <+: t'.assignmentRevisions) : Logged log t' := by
  intro entry hentry row hrow
  obtain ⟨hmem, hlatest⟩ := h entry hentry row hrow
  refine ⟨hhistory.subset hmem, fun hcommand => ?_⟩
  obtain ⟨latest, hlatestMem, hrest⟩ := hlatest hcommand
  exact ⟨latest, hhistory.subset hlatestMem, hrest⟩

/-- What one more step keeps. -/
theorem advance_sound (rules : ContentRules Json)
    {acc : Tables Uuid Json × List (Entry Uuid Json)} (h : Sound acc.1) (hlogged : Logged acc.2 acc.1) (step : Step Uuid Json) :
    Sound (advance rules acc step).1 ∧ Extends acc.1 (advance rules acc step).1 ∧
      Logged (advance rules acc step).2 (advance rules acc step).1 := by
  unfold advance
  split
  · rename_i written t' hexecute
    obtain ⟨heffect, hrevises⟩ := commits_execute rules step acc.1 written t' hexecute
    obtain ⟨hsound, hextends⟩ := effect_sound h heffect
    refine ⟨hsound, hextends, fun entry hentry row hrow => ?_⟩
    rcases List.mem_append.mp hentry with hentry | hentry
    · exact hlogged.mono hextends.history entry hentry row hrow
    · obtain rfl := List.mem_singleton.mp hentry
      cases hrow
      obtain ⟨⟨-, rfl⟩, hlatest⟩ := hrevises row rfl
      refine ⟨List.mem_append_right _ (List.mem_singleton_self row), fun hcommand => ?_⟩
      obtain ⟨latest, hfound, hrevision, hrelates⟩ := hlatest hcommand
      obtain ⟨hmem, hassignment, -⟩ := latestRevision_isLatest hfound
      exact ⟨latest, List.mem_append_left _ hmem, hassignment, hrevision, hrelates⟩
  · refine ⟨h, .rfl, fun entry hentry row hrow => ?_⟩
    rcases List.mem_append.mp hentry with hentry | hentry
    · exact hlogged entry hentry row hrow
    · obtain rfl := List.mem_singleton.mp hentry
      cases hrow

theorem foldl_advance_sound (rules : ContentRules Json)
    {acc : Tables Uuid Json × List (Entry Uuid Json)} (h : Sound acc.1) (hlogged : Logged acc.2 acc.1) (steps : List (Step Uuid Json)) :
    Sound (steps.foldl (advance rules) acc).1 ∧ Extends acc.1 (steps.foldl (advance rules) acc).1 ∧
      Logged (steps.foldl (advance rules) acc).2 (steps.foldl (advance rules) acc).1 := by
  induction steps generalizing acc with
  | nil => exact ⟨h, .rfl, hlogged⟩
  | cons step steps ih =>
    obtain ⟨hsound, hextends, hlogged'⟩ := advance_sound rules h hlogged step
    obtain ⟨hsound', hextends', hlogged''⟩ := ih hsound hlogged'
    exact ⟨hsound', hextends.trans hextends', hlogged''⟩

theorem run_sound (rules : ContentRules Json) (steps : List (Step Uuid Json)) :
    Sound (run rules steps).1 ∧ Logged (run rules steps).2 (run rules steps).1 := by
  let acc : Tables Uuid Json × List (Entry Uuid Json) := (⟨[], [], []⟩, [])
  have hlogged : Logged acc.2 acc.1 := fun _ hentry => absurd hentry List.not_mem_nil
  have hsound : Sound acc.1 := sound_nil
  obtain ⟨hsound, -, hlogged⟩ := foldl_advance_sound rules hsound hlogged steps
  exact ⟨hsound, hlogged⟩

/-- A longer run extends a shorter one. -/
theorem run_extends (rules : ContentRules Json) (steps later : List (Step Uuid Json)) :
    Extends (run rules steps).1 (run rules (steps ++ later)).1 := by
  obtain ⟨hsound, hlogged⟩ := run_sound rules steps
  unfold run
  rw [List.foldl_append]
  exact (foldl_advance_sound rules hsound hlogged later).2.1

/-! Rollouts. -/

/-- The rows that the commands of one rollout have inserted after a row of it. -/
inductive Along (log : List (Entry Uuid Json)) (start : AssignmentRevision Uuid) :
    AssignmentRevision Uuid → Prop where
  | start : Along log start start
  | next {row : AssignmentRevision Uuid} (older : Along log start row) (entry : Entry Uuid Json)
      (mem : entry ∈ log) (continues : entry.step.command.continuesRollout = true)
      (row' : AssignmentRevision Uuid) (outcome : entry.outcome = .ok (.assignmentRevision row'))
      (assignment : row'.assignmentId = row.assignmentId) (revision : row'.revision = row.revision + 1) :
      Along log start row'

/-- What a rollout keeps. -/
structure SameRollout (start row : AssignmentRevision Uuid) : Prop where
  assignment : row.assignmentId = start.assignmentId
  baseline : row.baselineProfileRevisionId = start.baselineProfileRevisionId
  candidate : row.candidateProfileRevisionId = start.candidateProfileRevisionId
  mode : row.mode ≠ .DIRECT

omit [DecidableEq Uuid] [DecidableEq Json] in
theorem Along.sameRollout {log : List (Entry Uuid Json)} {start row : AssignmentRevision Uuid}
    (h : Along log start row) (hsound : Sound t) (hlogged : Logged log t)
    (hstart : start ∈ t.assignmentRevisions) (hmode : start.mode ≠ .DIRECT) :
    row ∈ t.assignmentRevisions ∧ SameRollout start row := by
  induction h with
  | start => exact ⟨hstart, rfl, rfl, rfl, hmode⟩
  | next older entry mem continues row' outcome assignment revision ih =>
    obtain ⟨hrow, hsame⟩ := ih
    obtain ⟨hrow', hlatest⟩ := hlogged entry mem row' outcome
    obtain ⟨latest, hlatestMem, hassignment, hrevision, hrelates⟩ := hlatest (.inl continues)
    obtain rfl := hsound.eq_of_revision hlatestMem hrow (hassignment.trans assignment)
      (Nat.succ.inj (hrevision.symm.trans revision))
    obtain ⟨-, hmode', hbaseline, hcandidate⟩ := hrelates.1 continues
    exact ⟨hrow', assignment.trans hsame.assignment, hbaseline.trans hsame.baseline,
      hcandidate.trans hsame.candidate, hmode'⟩

omit [DecidableEq Uuid] [DecidableEq Json] in
/-- What a completion serves is the candidate. -/
theorem completed_of_sameRollout {log : List (Entry Uuid Json)}
    {start row done : AssignmentRevision Uuid} (hsame : SameRollout start row) (hsound : Sound t)
    (hlogged : Logged log t) (hrow : row ∈ t.assignmentRevisions) {entry : Entry Uuid Json}
    (hentry : entry ∈ log) (hcompletes : entry.step.command.completesRollout = true)
    (houtcome : entry.outcome = .ok (.assignmentRevision done))
    (hassignment : done.assignmentId = row.assignmentId) (hrevision : done.revision = row.revision + 1) :
    done ∈ t.assignmentRevisions ∧ done.mode = .DIRECT ∧
      start.candidateProfileRevisionId = some done.baselineProfileRevisionId := by
  obtain ⟨hdone, hlatest⟩ := hlogged entry hentry done houtcome
  obtain ⟨latest, hlatestMem, hassignment', hrevision', hrelates⟩ := hlatest (.inr hcompletes)
  obtain rfl := hsound.eq_of_revision hlatestMem hrow (hassignment'.trans hassignment)
    (Nat.succ.inj (hrevision'.symm.trans hrevision))
  obtain ⟨hdirect, hcandidate⟩ := hrelates.2 hcompletes
  exact ⟨hdone, hdirect, hsame.candidate.symm.trans hcandidate⟩

end Run

section Selection

variable (sha256 : List UInt8 → List UInt8) (a : Assignment Uuid) (subjectId : String)

/-- What a subject of an assignment is served of a row. -/
def served (row : AssignmentRevision Uuid) : Except String Nat :=
  selectAssignedProfileRevision sha256 row a.cohortSeed a.subjectKind subjectId

/-- The bucket of the subject. -/
def bucketOf : Nat :=
  rolloutBucketV1 sha256 P7_PROFILE_ROLLOUT_KEY a.cohortSeed a.subjectKind subjectId

omit [DecidableEq Uuid] in
/-- The candidate goes to the buckets below the percentage, while the rollout is active. -/
theorem served_eq (hshaped : row.Shaped) {candidate : Nat}
    (hcandidate : row.candidateProfileRevisionId = some candidate) :
    served sha256 a subjectId row = .ok (if row.mode = .ROLLOUT ∧
      bucketOf sha256 a subjectId < row.percentageBps then candidate
        else row.baselineProfileRevisionId) := by
  obtain ⟨-, hbps, -⟩ := hshaped
  unfold served selectAssignedProfileRevision selectRolloutCandidateV1
  rw [if_neg (Nat.not_lt.mpr hbps), if_neg (Nat.not_lt.mpr hbps), hcandidate]
  cases hmode : row.mode with
  | DIRECT => simp
  | PAUSED => simp
  | ROLLOUT => simp [bucketOf, bind, Except.bind, pure, Except.pure]

omit [DecidableEq Uuid] in
theorem served_direct (hshaped : row.Shaped) (hmode : row.mode = .DIRECT) :
    served sha256 a subjectId row = .ok row.baselineProfileRevisionId := by
  obtain ⟨-, hbps, -⟩ := hshaped
  unfold served selectAssignedProfileRevision
  rw [if_neg (Nat.not_lt.mpr hbps), hmode]

/-- How what a subject is served moves along a rollout, from one of its rows to a later one. -/
structure Sticky (served : AssignmentRevision Uuid → Except String Nat)
    (log : List (Entry Uuid Json)) (start row : AssignmentRevision Uuid) : Prop where
  raised : start.mode = .ROLLOUT → row.mode = .ROLLOUT → start.percentageBps ≤ row.percentageBps →
    ∀ candidate ∈ start.candidateProfileRevisionId, served start = .ok candidate →
      served row = .ok candidate
  paused : row.mode = .PAUSED → served row = .ok start.baselineProfileRevisionId
  resumed : start.mode = .ROLLOUT → row.mode = .ROLLOUT → row.percentageBps = start.percentageBps →
    served row = served start
  completed : ∀ entry ∈ log, entry.step.command.completesRollout = true →
    ∀ done, entry.outcome = .ok (.assignmentRevision done) → done.assignmentId = row.assignmentId →
      done.revision = row.revision + 1 →
        ∃ candidate ∈ start.candidateProfileRevisionId, served done = .ok candidate

omit [DecidableEq Uuid] in
theorem sticky_of_sameRollout {log : List (Entry Uuid Json)} {start : AssignmentRevision Uuid}
    (hsound : Sound t) (hlogged : Logged log t) (hstart : start ∈ t.assignmentRevisions)
    (hmode : start.mode ≠ .DIRECT) (hrow : row ∈ t.assignmentRevisions)
    (hsame : SameRollout start row) : Sticky (served sha256 a subjectId) log start row := by
  have hshaped := hsound.shaped start hstart
  obtain ⟨-, -, hkind⟩ := hshaped
  obtain ⟨-, hsome, hdiffer⟩ := hkind.resolve_left fun hdirect => hmode hdirect.1
  obtain ⟨candidate, hcandidate⟩ := Option.ne_none_iff_exists'.mp hsome
  rw [hcandidate, Ne, Option.some.injEq] at hdiffer
  have hservedStart := served_eq sha256 a subjectId (hsound.shaped start hstart) hcandidate
  have hserved := served_eq sha256 a subjectId (hsound.shaped row hrow)
    (hsame.candidate.trans hcandidate)
  rw [hsame.baseline] at hserved
  constructor
  · intro hactive hactive' hraised other hother hselected
    obtain rfl := Option.some.inj (hcandidate.symm.trans hother)
    rw [hservedStart, Except.ok.injEq] at hselected
    have hbucket : bucketOf sha256 a subjectId < start.percentageBps := by
      by_contra hnot
      rw [if_neg fun h => hnot h.2] at hselected
      exact hdiffer hselected.symm
    rw [hserved, if_pos ⟨hactive', hbucket.trans_le hraised⟩]
  · intro hpaused
    have hinactive : ¬ (row.mode = .ROLLOUT ∧ bucketOf sha256 a subjectId < row.percentageBps) := by
      rintro ⟨hactive, -⟩
      cases hpaused.symm.trans hactive
    rw [hserved, if_neg hinactive]
  · intro hactive hactive' hequal
    rw [hserved, hservedStart, hactive, hactive', hequal]
  · intro entry hentry hcompletes done houtcome hassignment hrevision
    obtain ⟨hdone, hdirect, hnamed⟩ := completed_of_sameRollout hsame hsound hlogged hrow hentry
      hcompletes houtcome hassignment hrevision
    exact ⟨_, hnamed, served_direct sha256 a subjectId (hsound.shaped done hdone) hdirect⟩

end Selection

section Claim

variable [DecidableEq Json]

/-- After every sequence of commands: the revisions of an assignment are numbered without gaps and
stay as they are, the latest one names revisions that are published, what has been published keeps
its content, and no subject is moved back along a rollout. -/
theorem assignments_servable_and_sticky (rules : ContentRules Json)
    (steps later : List (Step Uuid Json)) :
    (∀ a, (revisionsOf a (run rules steps).1.assignmentRevisions).map (·.revision) =
        List.range' 1 (revisionsOf a (run rules steps).1.assignmentRevisions).length) ∧
      (run rules steps).1.assignmentRevisions <+:
        (run rules (steps ++ later)).1.assignmentRevisions ∧
      (∀ a latest, latestRevision (run rules steps).1.assignmentRevisions a = some latest →
        ∀ target ∈ latest.targets, ∃ r ∈ (run rules steps).1.profileRevisions,
          r.id = target ∧ r.state = .PUBLISHED) ∧
      (∀ r ∈ (run rules steps).1.profileRevisions, r.Released →
        ∃ r' ∈ (run rules (steps ++ later)).1.profileRevisions, r'.id = r.id ∧ r'.Released ∧
          r'.content = r.content) ∧
      ∀ sha256 subjectId, ∀ a ∈ (run rules steps).1.assignments,
        ∀ start ∈ (run rules steps).1.assignmentRevisions, start.assignmentId = a.id →
          start.mode ≠ .DIRECT → ∀ row, Along (run rules steps).2 start row →
            Sticky (served sha256 a subjectId) (run rules steps).2 start row := by
  obtain ⟨hsound, hlogged⟩ := run_sound rules steps
  have hextends := run_extends rules steps later
  refine ⟨hsound.numbered, hextends.history, fun a latest hlatest => ?_, fun r hr hreleased => ?_, ?_⟩
  · obtain ⟨hmem, -, hisLatest⟩ := latestRevision_isLatest hlatest
    exact hsound.servable latest hmem hisLatest
  · obtain ⟨r', hr', hid, hkept⟩ := hextends.released r hr
    exact ⟨r', hr', hid, hkept hreleased⟩
  · intro sha256 subjectId a ha start hstart hassignment hmode row halong
    obtain ⟨hrow, hsame⟩ := halong.sameRollout hsound hlogged hstart hmode
    exact sticky_of_sameRollout sha256 a subjectId hsound hlogged hstart hmode hrow hsame

end Claim

/-- Contents that are accepted as they are, for every browser. -/
def plainRules : ContentRules Nat where
  validateProfileContent content compatibility := .ok ⟨content, compatibility, ""⟩
  browserFamilies _ := [.chrome, .opera, .yandex_chromium, .firefox, .safari]
  persisted _ := true

/-- One profile for everything, and nothing that refuses. -/
def plainCatalog : Catalog Nat where
  profile _ := some ⟨0, 0, none, .ACTIVE⟩
  adapterStatus _ := some .ACTIVE
  surfaceStatus _ _ := some .ACTIVE
  variantStatus _ _ := some .ACTIVE
  now := 0
  authorized _ := true
  refuses := false

def plainStep (command : Command Nat Nat) : Step Nat Nat :=
  ⟨command, ⟨.SYSTEM, none, "c", "r"⟩, plainCatalog⟩

/-- A rollout of a second revision that is paused, resumed and completed. -/
def completedRollout : List (Step Nat Nat) :=
  [.createDraftProfileRevision 0 1 1, .markProfileRevisionCandidate 0 1, .publishProfileRevision 0 1,
    .createDraftProfileRevision 0 2 2, .markProfileRevisionCandidate 0 2,
    .publishProfileRevision 0 2, .createAssignmentScope ⟨0, 0, none, .chrome, .DEVICE⟩
      (Vector.replicate 32 0), .assignDirect 0 0 none, .startRollout 0 0 1 500 (some 1),
    .changeRolloutPercentage 0 2500 2, .pauseProfileRollout 0 (some 3),
    .resumeProfileRollout 0 (some 4) none, .completeRollout 0 (some 5),
    .retireProfileRevision 0 1].map plainStep

example : ((run plainRules completedRollout).2.all (·.outcome.isOk) &&
    ((run plainRules completedRollout).1.assignmentRevisions.map fun row =>
      (row.revision, row.mode, row.percentageBps)) =
        [(1, .DIRECT, 0), (2, .ROLLOUT, 500), (3, .ROLLOUT, 2500), (4, .PAUSED, 2500),
          (5, .ROLLOUT, 2500), (6, .DIRECT, 0)]) = true := by
  decide +kernel

end SellerAgents.Profiles
