import SellerAgents.ApiWatch.Store
import SellerAgents.Concurrent.Replay

open Concurrent

namespace SellerAgents.ApiWatch

open Js
open Subscriptions (Date)

abbrev WatchWorld (T : Type) : Type :=
  World T Cmd Cmd.Answer Failure (List ApiWatchIncident) Incidents

abbrev WatchEvent (T : Type) : Type :=
  Event T Cmd Cmd.Answer Failure (List ApiWatchIncident) Incidents

/-- A call of a store is atomic; it may fail before it does anything, and its answer may be lost. -/
def Performed {α : Type} (result : Except Failure α × Incidents) (s : Incidents)
    (answer : Except Failure α) (s' : Incidents) : Prop :=
  (answer = result.1 ∨ ∃ error, answer = .error error) ∧ s' = result.2 ∨
    (∃ error, answer = .error error) ∧ s' = s

/-- What a command does. -/
def Effect (store : ApiWatchIncidentStore) :
    (command : Cmd) → Incidents → command.Answer → Incidents → Prop
  | .observe input, s, answer, s' => Performed (store.observe s input) s answer s'
  | .resolve key resolvedAt expected, s, answer, s' =>
    Performed (store.resolve s key resolvedAt expected) s answer s'
  | .listOpen, s, answer, s' => (answer = .ok (store.listOpen s) ∨ ∃ error, answer = .error error) ∧ s' = s
  | .notify _ _, s, _, s' => s' = s

/-- Every thread is one evaluation. -/
def evaluators {T : Type} (store : ApiWatchIncidentStore) (sha256 : String → String)
    (evaluations : T → Evaluation) :
    System T Cmd Cmd.Answer Failure (List ApiWatchIncident) Incidents where
  prelude t := ((evaluations t).evaluateApiWatchIncidents sha256).bind fun incidents => .ret (some incidents)
  body _ := .ret none
  effect _ command w answer s' := Effect store command w.state answer s'
  env _ _ := False

variable {T : Type} (store : ApiWatchIncidentStore)

/-! What the history of a run says. -/

/-- The event opens an incident of the key: an observation of it returns `opened`. -/
def Opened (key : String) : WatchEvent T → Prop
  | .act _ (.observe input) _ pre post => input.incidentKey = key ∧
    ∃ incident, store.observe pre input = (.ok (incident, true), post)
  | _ => False

/-- The event resolves the incident of the key. -/
def Resolved (key : String) : WatchEvent T → Prop
  | .act _ (.resolve other resolvedAt expected) _ pre post => other = key ∧
    ∃ incident, store.resolve pre other resolvedAt expected = (.ok (some incident), post)
  | _ => False

/-- The last transition of the key opened an incident. -/
def LastOpened (key : String) : List (WatchEvent T) → Prop
  | [] => False
  | event :: earlier => Opened store key event ∨ ¬ Resolved store key event ∧ LastOpened key earlier

/-- The evaluation closes this version of an incident. -/
def Closes (t : T) (row : ApiWatchIncident) (event : WatchEvent T) : Prop :=
  ∃ resolvedAt expected answer pre post incident,
    event = .act t (.resolve row.incidentKey resolvedAt expected) answer pre post ∧
    pre.records.get row.incidentKey = some row ∧
    store.resolve pre row.incidentKey resolvedAt expected = (.ok (some incident), post)

/-- The evaluation has listed this version of an incident as open. -/
def Listed (t : T) (incident : ApiWatchIncident) (log : List (WatchEvent T)) : Prop :=
  ∃ pre post, .act t .listOpen (.ok (store.listOpen pre)) pre post ∈ log ∧
    incident ∈ store.listOpen pre

/-- The evaluation has observed the key. -/
def Observes (t : T) (key : String) (log : List (WatchEvent T)) : Prop :=
  ∃ input answer pre post, .act t (.observe input) answer pre post ∈ log ∧ input.incidentKey = key

/-- The evaluation has asked for a resolution. -/
def Resolves (t : T) (log : List (WatchEvent T)) : Prop :=
  ∃ key resolvedAt expected answer pre post,
    Event.act t (.resolve key resolvedAt expected) answer pre post ∈ log

/-- The proof of recovery of a product incident: every source of its document, or of its recorded
family set, is at the accepted baseline. -/
def ProductRecovery (sha256 : String → String) (e : Evaluation) (row : ApiWatchIncident) : Prop :=
  (row.sourceFamily.isSome = true ∧ row.documentKey.isSome = true ∧
    (∃ source ∈ e.familySources row.sourceFamily, source.documentKey = row.documentKey) ∧
    ∀ source ∈ e.familySources row.sourceFamily, source.documentKey = row.documentKey →
      atAcceptedBaseline source = true) ∨
  (row.documentKey = none ∧
    familyAbsenceSummary sha256 (e.familySources row.sourceFamily) = some row.safeSummaryCode ∧
    ∀ source ∈ e.familySources row.sourceFamily, atAcceptedBaseline source = true)

variable (sha256 : String → String) (evaluations : T → Evaluation)

/-- What an evaluation has when it closes a version of an incident. -/
structure ClosingLaws (t : T) (row : ApiWatchIncident) (earlier : List (WatchEvent T)) : Prop where
  listed : Listed store t row earlier
  completed : (evaluations t).report.state = .COMPLETED
  acquisition : row.incidentType = .SOURCE_AUTHORITY_BLOCKED → ∃ family,
    row.sourceFamily = some family ∧ family ∈ (evaluations t).acceptedFamilies
  product : isProductIncidentType row.incidentType = true →
    ProductRecovery sha256 (evaluations t) row

/-- The laws of one event. -/
structure EventLaws (earlier : List (WatchEvent T)) (event : WatchEvent T) : Prop where
  opens : ∀ key, Opened store key event → ¬ LastOpened store key earlier
  resolves : ∀ key, Resolved store key event → LastOpened store key earlier
  closing : ∀ t row, Closes store t row event → ClosingLaws store sha256 evaluations t row earlier
  unobserved : ∀ t row, Closes store t row event → ¬ Observes t row.incidentKey earlier
  observing : ∀ t input answer pre post, event = .act t (.observe input) answer pre post →
    ¬ Resolves t earlier

/-- The laws of every event of a history. -/
def Lawful : List (WatchEvent T) → Prop
  | [] => True
  | event :: earlier => EventLaws store sha256 evaluations earlier event ∧ Lawful earlier

/-! The proof outline. -/

/-- The versions that were listed are still there, or newer ones are. -/
def Versioned (log : List (WatchEvent T)) (s : Incidents) : Prop :=
  ∀ t listed, Listed store t listed log → ∃ row, s.records.get listed.incidentKey = some row ∧
    listed.occurrenceCount ≤ row.occurrenceCount ∧
    (row.occurrenceCount = listed.occurrenceCount → row.state = .OPEN → row = listed)

/-- The key has an open incident. -/
def IsOpen (s : Incidents) (key : String) : Prop :=
  ∃ row, s.records.get key = some row ∧ row.state = .OPEN

/-- The last transitions are the states of the records. -/
def Tracked (log : List (WatchEvent T)) (s : Incidents) : Prop :=
  ∀ key, LastOpened store key log ↔ IsOpen s key

/-- The preconditions of the commands. -/
def Pre (t : T) (command : Cmd) (w : WatchWorld T) : Prop :=
  match command with
  | .observe _ => ¬ Resolves t w.log
  | .resolve key _ expected => (evaluations t).report.state = .COMPLETED ∧
    ∃ listed activeKeys, Listed store t listed w.log ∧ listed.incidentKey = key ∧
      listed.occurrenceCount = expected ∧ (evaluations t).closes sha256 activeKeys listed = true ∧
      ∀ other, Observes t other w.log → other ∈ activeKeys
  | _ => True

/-- Others leave the thread's own events alone. -/
def Rely (t : T) (w w' : WatchWorld T) : Prop :=
  ∀ command answer pre post, Event.act t command answer pre post ∈ w'.log ↔
    Event.act t command answer pre post ∈ w.log

/-- The proof outline of the evaluations. -/
def outline : System.Protocol T Cmd Cmd.Answer Failure (List ApiWatchIncident) Incidents where
  inv w := store.Valid w.state ∧ Versioned store w.log w.state ∧ Tracked store w.log w.state ∧
    Lawful store sha256 evaluations w.log
  pre t command w := Pre store sha256 evaluations t command w
  rely t w w' := Rely t w w'
  post _ _ _ := True

section Steps

variable {store} {sha256} {evaluations}
variable {t : T} {s s' : Incidents}

variable {row : ApiWatchIncident} {key : String} {w' : WatchWorld T}

theorem isOpen_set {records : JsMap String ApiWatchIncident} {other : String} {drawn : Nat} :
    IsOpen ⟨records.set key row, drawn⟩ other ↔
      if other = key then row.state = .OPEN else IsOpen ⟨records, drawn⟩ other := by
  unfold IsOpen
  dsimp only
  rw [JsMap.get_set]
  by_cases hother : other = key
  · simp [hother]
  · simp [hother]

/-- The transitions of a step are the changes of the keys' states. -/
theorem transition_iff {command : Cmd} {answer : command.Answer} (hvalid : store.Valid s)
    (heff : Effect store command s answer s') (key : String) :
    (Opened store key (.act t command answer s s') ↔ ¬ IsOpen s key ∧ IsOpen s' key) ∧
    (Resolved store key (.act t command answer s s') ↔ IsOpen s key ∧ ¬ IsOpen s' key) := by
  have hquiet (h : s' = s) : ¬ (¬ IsOpen s key ∧ IsOpen s' key) ∧ ¬ (IsOpen s key ∧ ¬ IsOpen s' key) := by
    subst h
    exact ⟨fun h => h.1 h.2, fun h => h.2 h.1⟩
  cases command with
  | notify kind incident => exact ⟨iff_of_false id (hquiet heff).1, iff_of_false id (hquiet heff).2⟩
  | listOpen => exact ⟨iff_of_false id (hquiet heff.2).1, iff_of_false id (hquiet heff.2).2⟩
  | observe input =>
    have hresult := store.observe_result input hvalid
    unfold Opened Resolved
    unfold Effect Performed at heff
    dsimp only at heff ⊢
    generalize store.observe s input = result at hresult heff ⊢
    obtain ⟨returned, s₁⟩ := result
    cases hresult with
    | refused error =>
      have hsame := heff.elim And.right And.right
      exact ⟨iff_of_false (by simp) (hquiet hsame).1, iff_of_false id (hquiet hsame).2⟩
    | seen incident drawn hkey hopen hcount =>
      have hflag : (s.records.get input.incidentKey).all (·.state ≠ .OPEN) = true ↔
          ¬ IsOpen s input.incidentKey := by
        unfold IsOpen
        cases s.records.get input.incidentKey <;> simp
      have hafter : IsOpen ⟨s.records.set input.incidentKey incident, drawn⟩ input.incidentKey :=
        ⟨incident, JsMap.get_set_self _ _ _, hopen⟩
      rcases heff with ⟨-, hs'⟩ | ⟨-, hs'⟩
      · subst hs'
        by_cases hother : input.incidentKey = key
        · subst hother
          refine ⟨⟨fun ⟨_, found, heq⟩ => ?_, fun h => ⟨rfl, incident, ?_⟩⟩,
            iff_of_false id fun h => h.2 hafter⟩
          · simp only [Prod.mk.injEq, Except.ok.injEq] at heq
            exact ⟨hflag.mp heq.1.2, hafter⟩
          · rw [hflag.mpr h.1]
        · have hsame : IsOpen ⟨s.records.set input.incidentKey incident, drawn⟩ key ↔ IsOpen s key := by
            rw [isOpen_set, if_neg (Ne.symm hother)]
            exact Iff.rfl
          simp [hother, hsame]
      · have hno : ¬ ∃ found, (Except.ok (incident,
              (s.records.get input.incidentKey).all (·.state ≠ .OPEN)),
              (⟨s.records.set input.incidentKey incident, drawn⟩ : Incidents)) =
            ((.ok (found, true) : Except Failure (ApiWatchIncident × Bool)), s') := by
          rintro ⟨found, heq⟩
          simp only [Prod.mk.injEq, Except.ok.injEq, hflag] at heq
          rw [heq.2, hs'] at hafter
          exact heq.1.2 hafter
        exact ⟨iff_of_false (fun h => hno h.2) (hquiet hs').1, iff_of_false id (hquiet hs').2⟩
  | resolve other resolvedAt expected =>
    have hresult := store.resolve_result other resolvedAt expected hvalid
    unfold Opened Resolved
    unfold Effect Performed at heff
    dsimp only at heff ⊢
    generalize store.resolve s other resolvedAt expected = result at hresult heff ⊢
    obtain ⟨returned, s₁⟩ := result
    cases hresult with
    | refused error =>
      have hsame := heff.elim And.right And.right
      exact ⟨iff_of_false id (hquiet hsame).1, iff_of_false (by simp) (hquiet hsame).2⟩
    | kept =>
      have hsame := heff.elim And.right And.right
      exact ⟨iff_of_false id (hquiet hsame).1, iff_of_false (by simp) (hquiet hsame).2⟩
    | resolved row hfound hversion =>
      have hbefore : IsOpen s other := by
        simp only [ApiWatchIncident.isVersion, Bool.and_eq_true, decide_eq_true_eq] at hversion
        exact ⟨row, hfound, hversion.1⟩
      have hafter : ¬ IsOpen { s with records := s.records.set other (row.resolved resolvedAt) } other := by
        rw [isOpen_set, if_pos rfl]
        simp [ApiWatchIncident.resolved]
      rcases heff with ⟨-, hs'⟩ | ⟨-, hs'⟩
      · subst hs'
        by_cases hother : other = key
        · subst hother
          simp [hbefore, hafter]
        · have hsame : IsOpen { s with records := s.records.set other (row.resolved resolvedAt) } key ↔
              IsOpen s key := by
            rw [isOpen_set, if_neg (Ne.symm hother)]
          simp [hother, hsame]
      · have hno : ¬ ∃ incident, ((.ok (some (row.resolved resolvedAt)),
              { s with records := s.records.set other (row.resolved resolvedAt) }) :
              Except Failure (Option ApiWatchIncident) × Incidents) = (.ok (some incident), s') := by
          rintro ⟨incident, heq⟩
          simp only [Prod.mk.injEq] at heq
          rw [heq.2, hs'] at hafter
          exact hafter hbefore
        exact ⟨iff_of_false id (hquiet hs').1, iff_of_false (fun h => hno h.2) (hquiet hs').2⟩

/-- A record is left alone, observed again, or resolved. -/
def Newer (s s' : Incidents) : Prop :=
  ∀ key row, s.records.get key = some row → ∃ row', s'.records.get key = some row' ∧
    (row' = row ∨ row.occurrenceCount < row'.occurrenceCount ∨
      row'.occurrenceCount = row.occurrenceCount ∧ row'.state ≠ .OPEN)

theorem Newer.refl (s : Incidents) : Newer s s := fun _ row h => ⟨row, h, .inl rfl⟩

theorem Newer.set {drawn : Nat}
    (h : ∀ old, s.records.get key = some old → old.occurrenceCount < row.occurrenceCount ∨
      row.occurrenceCount = old.occurrenceCount ∧ row.state ≠ .OPEN) :
    Newer s ⟨s.records.set key row, drawn⟩ := by
  intro other old hold
  dsimp only
  rw [JsMap.get_set]
  by_cases hother : other = key
  · subst hother
    exact ⟨row, if_pos rfl, .inr (h old hold)⟩
  · exact ⟨old, by rw [if_neg hother, hold], .inl rfl⟩

theorem Effect.newer {command : Cmd} {answer : command.Answer} (hvalid : store.Valid s)
    (heff : Effect store command s answer s') : store.Valid s' ∧ Newer s s' := by
  cases command with
  | notify kind incident =>
    obtain rfl : s' = s := heff
    exact ⟨hvalid, .refl _⟩
  | listOpen =>
    obtain ⟨-, rfl⟩ := heff
    exact ⟨hvalid, .refl _⟩
  | observe input =>
    have hresult := store.observe_result input hvalid
    have hvalid' := store.observe_valid input hvalid
    rcases heff with ⟨-, rfl⟩ | ⟨-, rfl⟩
    · refine ⟨hvalid', ?_⟩
      generalize store.observe s input = result at hresult
      obtain ⟨returned, s₁⟩ := result
      cases hresult with
      | refused error => exact .refl _
      | seen incident drawn hkey hopen hcount =>
        refine .set fun old hold => .inl ?_
        rw [hcount, hold]
        exact Nat.lt_succ_self _
    · exact ⟨hvalid, .refl _⟩
  | resolve other resolvedAt expected =>
    have hresult := store.resolve_result other resolvedAt expected hvalid
    have hvalid' := store.resolve_valid other resolvedAt expected hvalid
    rcases heff with ⟨-, rfl⟩ | ⟨-, rfl⟩
    · refine ⟨hvalid', ?_⟩
      generalize store.resolve s other resolvedAt expected = result at hresult
      obtain ⟨returned, s₁⟩ := result
      cases hresult with
      | refused error => exact .refl _
      | kept => exact .refl _
      | resolved row hfound hversion =>
        refine .set fun old hold => .inr ?_
        rw [hfound] at hold
        cases hold
        exact ⟨rfl, ApiWatchIncidentState.noConfusion⟩
    · exact ⟨hvalid, .refl _⟩

variable {w : WatchWorld T} {command : Cmd} {answer : command.Answer}

theorem Versioned.act (h : Versioned store w.log w.state) (hvalid : store.Valid w.state)
    (heff : Effect store command w.state answer s') :
    Versioned store (w.act t command answer s').log s' := by
  obtain ⟨-, hnewer⟩ := heff.newer hvalid
  rintro t' listed ⟨pre, post, hmem, hlisted⟩
  rcases List.mem_cons.mp hmem with heq | hmem
  · cases heq
    obtain ⟨hget, hopen⟩ := (store.mem_listOpen hvalid).mp hlisted
    obtain ⟨-, rfl⟩ := heff
    exact ⟨listed, hget, Nat.le_refl _, fun _ _ => rfl⟩
  · obtain ⟨row, hrow, hle, hsame⟩ := h t' listed ⟨pre, post, hmem, hlisted⟩
    obtain ⟨row', hrow', hcase⟩ := hnewer _ row hrow
    refine ⟨row', hrow', ?_, fun hcount hopen => ?_⟩
    · rcases hcase with rfl | hlt | ⟨hcount, -⟩ <;> omega
    · rcases hcase with rfl | hlt | ⟨-, hclosed⟩
      · exact hsame hcount hopen
      · omega
      · exact absurd hopen hclosed

theorem Tracked.act (h : Tracked store w.log w.state) (hvalid : store.Valid w.state)
    (heff : Effect store command w.state answer s') :
    Tracked store (w.act t command answer s').log s' := by
  intro key
  obtain ⟨hopened, hresolved⟩ := transition_iff (t := t) hvalid heff key
  have hbefore : LastOpened store key w.log ↔ IsOpen w.state key := h key
  rw [World.act_log, LastOpened, hopened, hresolved, hbefore]
  tauto

theorem productRecovery_of {e : Evaluation} (h : e.productRecovered sha256 row = true) :
    ProductRecovery sha256 e row := by
  unfold Evaluation.productRecovered at h
  simp only [Bool.and_eq_true, Bool.or_eq_true] at h
  rcases h.2 with ⟨hsome, hall⟩ | hfamily
  · unfold Evaluation.matchingDocumentSources at hsome hall
    split at hsome
    · rename_i hscope
      rw [if_pos hscope] at hall
      refine .inl ⟨hscope.1, hscope.2, ?_, fun source hmem hdocument => ?_⟩
      · simpa [List.isEmpty_iff, List.filter_eq_nil_iff] using hsome
      · exact List.all_eq_true.mp hall source
          (List.mem_filter.mpr ⟨hmem, by simpa using hdocument⟩)
    · simp at hsome
  · simp only [Evaluation.familyRecovered, Bool.and_eq_true, decide_eq_true_eq] at hfamily
    obtain ⟨⟨⟨hdocument, hsummary⟩, hall⟩, -⟩ := hfamily
    exact .inr ⟨Option.isNone_iff_eq_none.mp hdocument, hsummary.symm, List.all_eq_true.mp hall⟩

/-- What a resolution under its precondition closes. -/
theorem closing_laws (hversioned : Versioned store w.log w.state) (hvalid : store.Valid w.state)
    (hpre : Pre store sha256 evaluations t command w) {t' : T}
    (hcloses : Closes store t' row (.act t command answer w.state s')) :
    ClosingLaws store sha256 evaluations t' row w.log ∧ ¬ Observes t' row.incidentKey w.log := by
  obtain ⟨resolvedAt, expected, answer', pre, post, incident, heq, hrow, hresolved⟩ := hcloses
  cases heq
  obtain ⟨hcompleted, listed, activeKeys, hlisted, hkey, rfl, hcloses, hactive⟩ := hpre
  have hresult := store.resolve_result row.incidentKey resolvedAt listed.occurrenceCount hvalid
  rw [hresolved] at hresult
  obtain ⟨found, hfound, hversion⟩ : ∃ found, w.state.records.get row.incidentKey = some found ∧
      found.isVersion listed.occurrenceCount = true := by
    cases hresult with
    | resolved found hfound hversion => exact ⟨found, hfound, hversion⟩
  rw [hrow, Option.some.injEq] at hfound
  subst hfound
  simp only [ApiWatchIncident.isVersion, Bool.and_eq_true, decide_eq_true_eq] at hversion
  obtain ⟨current, hcurrent, -, hsame⟩ := hversioned t listed hlisted
  rw [hkey, hrow, Option.some.injEq] at hcurrent
  subst hcurrent
  obtain rfl := hsame hversion.2 hversion.1
  simp only [Evaluation.closes, Bool.and_eq_true, decide_eq_true_eq] at hcloses
  obtain ⟨⟨hinactive, hblocked⟩, hrecovered⟩ := hcloses
  refine ⟨⟨hlisted, hcompleted, fun htype => ?_, fun htype => ?_⟩, fun hobserves =>
    hinactive (hactive _ hobserves)⟩
  · cases hfamily : row.sourceFamily with
    | none => simp [htype, hfamily] at hblocked
    | some family => exact ⟨family, rfl, by simpa [htype, hfamily] using hblocked⟩
  · refine productRecovery_of ?_
    have hother : Evaluation.acquisitionRecovered row = false := by
      unfold Evaluation.acquisitionRecovered
      revert htype
      cases row.incidentType <;> decide
    simpa [hother] using hrecovered

/-- A command performed under its precondition keeps the invariant. -/
theorem step_act (hinv : (outline store sha256 evaluations).inv w)
    (hpre : Pre store sha256 evaluations t command w)
    (heff : Effect store command w.state answer s') :
    (outline store sha256 evaluations).inv (w.act t command answer s') := by
  obtain ⟨hvalid, hversioned, htracked, hlawful⟩ := hinv
  refine ⟨(heff.newer hvalid).1, hversioned.act hvalid heff, htracked.act hvalid heff, ⟨?_, hlawful⟩⟩
  have htransition := transition_iff (t := t) hvalid heff
  constructor
  · intro key hopened hbefore
    exact ((htransition key).1.mp hopened).1 ((htracked key).mp hbefore)
  · intro key hresolved
    exact (htracked key).mpr ((htransition key).2.mp hresolved).1
  · exact fun t' row hcloses => (closing_laws hversioned hvalid hpre hcloses).1
  · exact fun t' row hcloses => (closing_laws hversioned hvalid hpre hcloses).2
  · rintro t' input answer' pre post heq
    cases heq
    exact hpre

theorem step_finish (hinv : (outline store sha256 evaluations).inv w)
    (outcome : Except Failure (List ApiWatchIncident)) :
    (outline store sha256 evaluations).inv (w.finish t outcome) := by
  obtain ⟨hvalid, hversioned, htracked, hlawful⟩ := hinv
  refine ⟨hvalid, ?_, fun key => ?_, ⟨⟨fun _ h => h.elim, fun _ h => h.elim, ?_, ?_, ?_⟩, hlawful⟩⟩
  · rintro t' listed ⟨pre, post, hmem, hlisted⟩
    rcases List.mem_cons.mp hmem with heq | hmem
    · cases heq
    · exact hversioned t' listed ⟨pre, post, hmem, hlisted⟩
  · rw [World.finish_log, LastOpened, World.finish_state, ← htracked key]
    exact ⟨fun h => h.elim False.elim And.right, fun h => .inr ⟨id, h⟩⟩
  · rintro t' row ⟨_, _, _, _, _, _, heq, -⟩
    cases heq
  · rintro t' row ⟨_, _, _, _, _, _, heq, -⟩
    cases heq
  · rintro t' input answer' pre post heq
    cases heq

/-! What others leave of a thread's own history. -/

theorem Rely.observes (h : Rely t w w') :
    Observes t key w'.log ↔ Observes t key w.log := by
  unfold Observes
  simp only [h _ _ _ _]

theorem Rely.resolves (h : Rely t w w') : Resolves t w'.log ↔ Resolves t w.log := by
  unfold Resolves
  simp only [h _ _ _ _]

theorem Rely.listed (h : Rely t w w') {incident : ApiWatchIncident} :
    Listed store t incident w'.log ↔ Listed store t incident w.log := by
  unfold Listed
  simp only [h _ _ _ _]

theorem observes_act : Observes t key (w.act t command answer s').log ↔
    (∃ input, command = .observe input ∧ input.incidentKey = key) ∨ Observes t key w.log := by
  constructor
  · rintro ⟨input, answer', pre, post, hmem, hkey⟩
    rcases List.mem_cons.mp hmem with heq | hmem
    · cases heq
      exact .inl ⟨input, rfl, hkey⟩
    · exact .inr ⟨input, answer', pre, post, hmem, hkey⟩
  · rintro (⟨input, rfl, hkey⟩ | ⟨input, answer', pre, post, hmem, hkey⟩)
    · exact ⟨input, answer, w.state, s', List.mem_cons_self, hkey⟩
    · exact ⟨input, answer', pre, post, List.mem_cons_of_mem _ hmem, hkey⟩

theorem not_resolves_act (h : ¬ Resolves t w.log)
    (hcommand : ∀ key resolvedAt expected, command ≠ .resolve key resolvedAt expected) :
    ¬ Resolves t (w.act t command answer s').log := by
  rintro ⟨key, resolvedAt, expected, answer', pre, post, hmem⟩
  rcases List.mem_cons.mp hmem with heq | hmem
  · cases heq
    exact hcommand key resolvedAt expected rfl
  · exact h ⟨key, resolvedAt, expected, answer', pre, post, hmem⟩

theorem Listed.act {incident : ApiWatchIncident} (h : Listed store t incident w.log) :
    Listed store t incident (w.act t command answer s').log := by
  obtain ⟨pre, post, hmem, hlisted⟩ := h
  exact ⟨pre, post, List.mem_cons_of_mem _ hmem, hlisted⟩

end Steps

/-! The evaluations meet the preconditions. -/

section Programs

variable {store} {sha256} {evaluations}
variable {t : T} {w : WatchWorld T}

/-- The proof outline at a thread. -/
abbrev Wp (store : ApiWatchIncidentStore) (sha256 : String → String) (evaluations : T → Evaluation)
    (t : T) {α : Type} (p : Program α) (Q : α → WatchWorld T → Prop) (w : WatchWorld T) : Prop :=
  System.wp (outline store sha256 evaluations) (evaluators store sha256 evaluations) t p Q
    (fun _ _ => True) w

theorem wp_bind {α β : Type} {p : Program α} {f : α → Program β} {Q : β → WatchWorld T → Prop}
    (h : Wp store sha256 evaluations t p (fun value => Wp store sha256 evaluations t (f value) Q) w) :
    Wp store sha256 evaluations t (p.bind f) Q w :=
  System.wp_bind (fun _ _ _ _ _ _ => Iff.rfl) h

theorem wp_ofExcept {α : Type} {result : Except Failure α} {Q : α → WatchWorld T → Prop}
    (h : ∀ value, result = .ok value → ∀ w', Rely t w w' → Q value w') :
    Wp store sha256 evaluations t (Prog.ofExcept result) Q w := by
  cases result with
  | ok value => exact fun w' hrely _ => h value rfl w' hrely
  | error error => exact fun _ _ _ => trivial

/-- Before the resolutions: every key that the evaluation has observed is active. -/
structure Observing (t : T) (activeKeys : List String) (w : WatchWorld T) : Prop where
  unresolved : ¬ Resolves t w.log
  active : ∀ key, Observes t key w.log → key ∈ activeKeys

variable {incidents : List ApiWatchIncident} {activeKeys : List String}

theorem Observing.rely {w' : WatchWorld T} (h : Observing t activeKeys w) (hrely : Rely t w w') :
    Observing t activeKeys w' where
  unresolved := by
    rw [hrely.resolves]
    exact h.unresolved
  active key hkey := h.active key (hrely.observes.mp hkey)

theorem notify_wp {kind : EventKind} {incident : ApiWatchIncident} {I : WatchWorld T → Prop}
    (hrely : ∀ w w', I w → Rely t w w' → I w')
    (hact : ∀ (w : WatchWorld T) (answer : Except Failure Unit) s', I w →
      I (w.act t (.notify kind incident) answer s')) (h : I w) :
    Wp store sha256 evaluations t ((evaluations t).notify kind incident) (fun _ w' => I w') w := by
  unfold Evaluation.notify
  split
  · intro w₁ hrely₁ _
    refine ⟨trivial, fun answer s' _ _ => wp_ofExcept fun _ _ w₂ hrely₂ => ?_⟩
    exact hrely _ _ (hact _ _ _ (hrely _ _ h hrely₁)) hrely₂
  · exact fun w₁ hrely₁ _ => hrely _ _ h hrely₁

theorem observeAndNotify_wp (h : Observing t activeKeys w) (input : Observation) :
    Wp store sha256 evaluations t ((evaluations t).observeAndNotify input)
      (fun value w' => Observing t (value.incidentKey :: activeKeys) w') w := by
  unfold Evaluation.observeAndNotify
  simp only [Prog.bind_eq, Prog.act_bind]
  intro w₁ hrely₁ hinv
  have h₁ := h.rely hrely₁
  refine ⟨h₁.unresolved, fun answer s' heff _ => wp_bind (wp_ofExcept fun result hok w₂ hrely₂ => ?_)⟩
  have hkey : result.1.incidentKey = input.incidentKey := by
    have hresult := store.observe_result input hinv.1
    have hanswer : answer = (store.observe w₁.state input).1 := by
      rcases heff with ⟨hanswer | ⟨error, herror⟩, -⟩ | ⟨⟨error, herror⟩, -⟩
      · exact hanswer
      · rw [hok] at herror
        cases herror
      · rw [hok] at herror
        cases herror
    rw [← hanswer, hok] at hresult
    generalize (store.observe w₁.state input).2 = s₂ at hresult
    cases hresult with
    | seen incident drawn hkey hopen hcount => exact hkey
  have hobserved : Observing t (result.1.incidentKey :: activeKeys) (w₁.act t (.observe input) answer s') := by
    refine ⟨not_resolves_act h₁.unresolved fun _ _ _ => Cmd.noConfusion, fun key hobserves => ?_⟩
    rcases observes_act.mp hobserves with ⟨other, heq, rfl⟩ | hobserves
    · cases heq
      rw [hkey]
      exact List.mem_cons_self
    · exact List.mem_cons_of_mem _ (h₁.active key hobserves)
  have hnotify (w : WatchWorld T) (answer : Except Failure Unit) (s' : Incidents)
      (h : Observing t (result.1.incidentKey :: activeKeys) w) :
      Observing t (result.1.incidentKey :: activeKeys) (w.act t (.notify .OPENED result.1) answer s') := by
    refine ⟨not_resolves_act h.unresolved fun _ _ _ => Cmd.noConfusion, fun key hobserves => ?_⟩
    rcases observes_act.mp hobserves with ⟨other, heq, -⟩ | hobserves
    · cases heq
    · exact h.active key hobserves
  split
  · refine wp_bind (System.wp_mono (notify_wp (fun _ _ h hrely => h.rely hrely) hnotify
      (hobserved.rely hrely₂)) (fun _ w₃ _ h w₄ hrely₄ _ => h.rely hrely₄) fun _ _ _ _ => trivial)
  · exact fun w₃ hrely₃ _ => (hobserved.rely hrely₂).rely hrely₃

theorem observeAll_wp (inputs : List Observation) (h : Observing t activeKeys w) :
    Wp store sha256 evaluations t ((evaluations t).observeAll inputs activeKeys)
      (fun activeKeys' w' => Observing t activeKeys' w') w := by
  induction inputs generalizing activeKeys w with
  | nil => exact fun w' hrely _ => h.rely hrely
  | cons input rest ih =>
    exact wp_bind (System.wp_mono (observeAndNotify_wp h input) (fun value w' _ h' => ih h')
      fun _ _ _ _ => trivial)

/-- During the resolutions: the incidents are listed ones. -/
structure Closing (store : ApiWatchIncidentStore) (t : T) (activeKeys : List String)
    (incidents : List ApiWatchIncident) (w : WatchWorld T) : Prop where
  listed : ∀ incident ∈ incidents, Listed store t incident w.log
  active : ∀ key, Observes t key w.log → key ∈ activeKeys

theorem Closing.rely {w' : WatchWorld T} (h : Closing store t activeKeys incidents w)
    (hrely : Rely t w w') :
    Closing store t activeKeys incidents w' where
  listed incident hmem := hrely.listed.mpr (h.listed incident hmem)
  active key hkey := h.active key (hrely.observes.mp hkey)

theorem Closing.act {command : Cmd} {answer : command.Answer} {s' : Incidents}
    (h : Closing store t activeKeys incidents w) (hcommand : ∀ input, command ≠ .observe input) :
    Closing store t activeKeys incidents (w.act t command answer s') where
  listed incident hmem := (h.listed incident hmem).act
  active key hkey := by
    rcases observes_act.mp hkey with ⟨input, heq, -⟩ | hkey
    · exact absurd heq (hcommand input)
    · exact h.active key hkey

theorem close_wp (h : Closing store t activeKeys incidents w)
    (hcompleted : (evaluations t).report.state = .COMPLETED) {incident : ApiWatchIncident}
    (hmem : incident ∈ incidents)
    (hcloses : (evaluations t).closes sha256 activeKeys incident = true) :
    Wp store sha256 evaluations t ((evaluations t).close incident)
      (fun _ w' => Closing store t activeKeys incidents w') w := by
  unfold Evaluation.close
  simp only [Prog.bind_eq, Prog.act_bind]
  intro w₁ hrely₁ _
  have h₁ := h.rely hrely₁
  refine ⟨⟨hcompleted, incident, activeKeys, h₁.listed incident hmem, rfl, rfl, hcloses, h₁.active⟩,
    fun answer s' _ _ => wp_bind (wp_ofExcept fun resolved _ w₂ hrely₂ => ?_)⟩
  have h₂ : Closing store t activeKeys incidents w₂ :=
    (h₁.act fun _ => Cmd.noConfusion).rely hrely₂
  cases resolved with
  | none => exact fun w₃ hrely₃ _ => h₂.rely hrely₃
  | some resolved =>
    exact notify_wp (fun _ _ h hrely => h.rely hrely)
      (fun _ _ _ h => h.act fun _ => Cmd.noConfusion) h₂

theorem closeAll_wp (hcompleted : (evaluations t).report.state = .COMPLETED)
    (rest : List ApiWatchIncident) (hrest : rest ⊆ incidents)
    (h : Closing store t activeKeys incidents w) :
    Wp store sha256 evaluations t ((evaluations t).closeAll sha256 activeKeys rest)
      (fun _ _ => True) w := by
  induction rest generalizing w with
  | nil => exact fun _ _ _ => trivial
  | cons incident rest ih =>
    have hmem : incident ∈ incidents := hrest List.mem_cons_self
    have hrest' : rest ⊆ incidents := fun _ hother => hrest (List.mem_cons_of_mem _ hother)
    unfold Evaluation.closeAll
    split
    · rename_i hcloses
      exact wp_bind (System.wp_mono (close_wp h hcompleted hmem hcloses)
        (fun _ w' _ h' => ih hrest' h') fun _ _ _ _ => trivial)
    · exact ih hrest' h

theorem listOpen_wp {I : List ApiWatchIncident → WatchWorld T → Prop}
    (h : ∀ w₁ incidents s' w₂, Rely t w w₁ → Effect store .listOpen w₁.state (.ok incidents) s' →
      Rely t (w₁.act t .listOpen (.ok incidents) s') w₂ → I incidents w₂) :
    Wp store sha256 evaluations t Evaluation.listOpen I w := by
  intro w₁ hrely₁ _
  refine ⟨trivial, fun answer s' heff _ => wp_ofExcept fun incidents hok w₂ hrely₂ => ?_⟩
  subst hok
  exact h w₁ incidents s' w₂ hrely₁ heff hrely₂

theorem evaluate_wp (h : Observing t [] w) :
    Wp store sha256 evaluations t ((evaluations t).evaluateApiWatchIncidents sha256)
      (fun _ _ => True) w := by
  unfold Evaluation.evaluateApiWatchIncidents
  refine wp_bind (System.wp_mono (observeAll_wp _ h) (fun activeKeys w' _ h' => ?_)
    fun _ _ _ _ => trivial)
  split
  · rename_i hcompleted
    refine wp_bind (listOpen_wp fun w₁ incidents s' w₂ hrely₁ heff hrely₂ => ?_)
    have hclosing : Closing store t activeKeys incidents
        (w₁.act t .listOpen (.ok incidents) s') := by
      have h₁ := h'.rely hrely₁
      refine ⟨fun incident hmem => ?_, fun key hobserves => ?_⟩
      · obtain ⟨hanswer | ⟨error, herror⟩, rfl⟩ := heff
        · cases hanswer
          exact ⟨w₁.state, w₁.state, List.mem_cons_self, hmem⟩
        · cases herror
      · rcases observes_act.mp hobserves with ⟨input, heq, -⟩ | hobserves
        · cases heq
        · exact h₁.active key hobserves
    exact wp_bind (System.wp_mono
      (closeAll_wp hcompleted incidents (List.Subset.refl _) (hclosing.rely hrely₂))
      (fun _ _ _ _ => listOpen_wp fun _ _ _ _ _ _ _ => trivial) fun _ _ _ _ => trivial)
  · exact listOpen_wp fun _ _ _ _ _ _ _ => trivial

end Programs

/-- The outline is sound from the empty store. -/
theorem outline_sound (sha256 : String → String) (evaluations : T → Evaluation) :
    System.FreshSound (evaluators store sha256 evaluations) (outline store sha256 evaluations) {} where
  rely_refl _ _ _ _ _ _ := Iff.rfl
  rely_trans _ _ _ _ h h' command answer pre post :=
    (h' command answer pre post).trans (h command answer pre post)
  start := by
    refine ⟨store.valid_empty, ?_, fun key => ?_, trivial⟩
    · rintro t listed ⟨pre, post, hmem, -⟩
      cases hmem
    · refine iff_of_false id ?_
      rintro ⟨row, hrow, -⟩
      cases hrow
  act t command w answer s' hinv hpre heff := by
    refine ⟨step_act hinv hpre heff, fun other hne command' answer' pre post => ?_⟩
    refine ⟨fun hmem => ?_, List.mem_cons_of_mem _⟩
    rcases List.mem_cons.mp hmem with heq | hmem
    · cases heq
      exact absurd rfl hne
    · exact hmem
  env _ _ _ henv := henv.elim
  finish t outcome w hinv _ := by
    refine ⟨step_finish hinv outcome, fun other command answer pre post => ?_⟩
    refine ⟨fun hmem => ?_, List.mem_cons_of_mem _⟩
    rcases List.mem_cons.mp hmem with heq | hmem
    · cases heq
    · exact hmem
  prelude t w hinv hfresh := by
    refine wp_bind (System.wp_mono (evaluate_wp ⟨?_, ?_⟩) (fun _ _ _ _ _ _ _ => trivial)
      fun _ _ _ _ => trivial)
    · rintro ⟨key, resolvedAt, expected, answer, pre, post, hmem⟩
      exact hfresh _ _ _ _ hmem
    · rintro key ⟨input, answer, pre, post, hmem, -⟩
      exact absurd hmem (hfresh _ _ _ _)
  body _ _ _ _ _ _ := trivial

/-! The laws of a run. -/

/-- The laws of the incidents of a history: the transitions of a key alternate and begin with an
opening, what an evaluation has observed it never resolves, and what it closes is the very version
that it listed, with its proof of recovery. -/
structure LifecycleLaws (log : List (WatchEvent T)) : Prop where
  opens : ∀ later event earlier key, log = later ++ event :: earlier →
    Opened store key event → ¬ LastOpened store key earlier
  resolves : ∀ later event earlier key, log = later ++ event :: earlier →
    Resolved store key event → LastOpened store key earlier
  closes : ∀ later event earlier t row, log = later ++ event :: earlier →
    Closes store t row event → ClosingLaws store sha256 evaluations t row earlier
  unobserved : ∀ event ∈ log, ∀ t row, Closes store t row event → ¬ Observes t row.incidentKey log

/-- Every source row of the family of a closed authority incident is accepted. -/
def BlockedLaw (log : List (WatchEvent T)) : Prop :=
  ∀ event ∈ log, ∀ t row, Closes store t row event → row.incidentType = .SOURCE_AUTHORITY_BLOCKED →
    ∀ source ∈ (evaluations t).familySources row.sourceFamily, isAccepted source = true

/-- Whenever an evaluation of a completed report lists the open incidents, the report accepts all
the source rows of the family of an open authority incident, or none. -/
def Uniform (log : List (WatchEvent T)) : Prop :=
  ∀ t answer pre post, .act t .listOpen answer pre post ∈ log →
    (evaluations t).report.state = .COMPLETED → ∀ incident ∈ store.listOpen pre,
    incident.incidentType = .SOURCE_AUTHORITY_BLOCKED → ∀ family,
    incident.sourceFamily = some family → family ∈ (evaluations t).acceptedFamilies →
    ∀ source ∈ (evaluations t).familySources (some family), isAccepted source = true

section Laws

variable {store} {sha256} {evaluations}

variable {log : List (WatchEvent T)}

theorem Lawful.suffix {later : List (WatchEvent T)}
    (h : Lawful store sha256 evaluations (later ++ log)) : Lawful store sha256 evaluations log := by
  induction later with
  | nil => exact h
  | cons event later ih => exact ih h.2

theorem Closes.resolves {t : T} {row : ApiWatchIncident} {event : WatchEvent T}
    (h : Closes store t row event) (hmem : event ∈ log) :
    Resolves t log := by
  obtain ⟨resolvedAt, expected, answer, pre, post, incident, rfl, -, -⟩ := h
  exact ⟨_, _, _, _, _, _, hmem⟩

/-- An evaluation that resolves an incident has not observed its key, neither before nor after. -/
theorem Lawful.unobserved (h : Lawful store sha256 evaluations log) {event : WatchEvent T}
    (hmem : event ∈ log) {t : T} {row : ApiWatchIncident} (hcloses : Closes store t row event) :
    ¬ Observes t row.incidentKey log := by
  induction log with
  | nil => cases hmem
  | cons last earlier ih =>
    rintro ⟨input, answer, pre, post, hobserves, hkey⟩
    rcases List.mem_cons.mp hmem with rfl | hbefore
    · rcases List.mem_cons.mp hobserves with heq | hobserves
      · obtain ⟨_, _, _, _, _, _, rfl, -, -⟩ := hcloses
        cases heq
      · exact h.1.unobserved t row hcloses ⟨input, answer, pre, post, hobserves, hkey⟩
    · rcases List.mem_cons.mp hobserves with heq | hobserves
      · exact h.1.observing t input answer pre post heq.symm (hcloses.resolves hbefore)
      · exact ih h.2 hbefore ⟨input, answer, pre, post, hobserves, hkey⟩

theorem Lawful.laws (h : Lawful store sha256 evaluations log) :
    LifecycleLaws store sha256 evaluations log where
  opens later event earlier key hlog := by
    rw [hlog] at h
    exact h.suffix.1.opens key
  resolves later event earlier key hlog := by
    rw [hlog] at h
    exact h.suffix.1.resolves key
  closes later event earlier t row hlog := by
    rw [hlog] at h
    exact h.suffix.1.closing t row
  unobserved event hmem t row := h.unobserved hmem

theorem Lawful.blocked (h : Lawful store sha256 evaluations log)
    (huniform : Uniform store evaluations log) : BlockedLaw store evaluations log := by
  intro event hmem t row hcloses htype
  obtain ⟨later, earlier, rfl⟩ := List.append_of_mem hmem
  have hclosing := h.suffix.1.closing t row hcloses
  obtain ⟨pre, post, hlisting, hlisted⟩ := hclosing.listed
  obtain ⟨family, hfamily, haccepted⟩ := hclosing.acquisition htype
  rw [hfamily]
  exact huniform t _ pre post (List.mem_append_right _ (List.mem_cons_of_mem _ hlisting))
    hclosing.completed row hlisted htype family hfamily haccepted

/-- Incidents over any interleaving of evaluations: the laws hold in every run, and the law of
authority incidents in every run whose listings are uniform. -/
theorem incident_lifecycle [DecidableEq T] (store : ApiWatchIncidentStore)
    (sha256 : String → String) (evaluations : T → Evaluation)
    {cfg : Config T Cmd Cmd.Answer Failure (List ApiWatchIncident) Incidents}
    (h : (evaluators store sha256 evaluations).Reachable {} cfg) :
    LifecycleLaws store sha256 evaluations cfg.world.log ∧
      (Uniform store evaluations cfg.world.log → BlockedLaw store evaluations cfg.world.log) := by
  have hlawful := ((outline_sound store sha256 evaluations).reachable h).1.2.2.2
  exact ⟨hlawful.laws, hlawful.blocked⟩

end Laws

/-! A replayed run. -/

/-- The answers of a store and a notifier that do not fail. -/
def undisturbed (store : ApiWatchIncidentStore) (command : Cmd) (s : Incidents) :
    command.Answer × Incidents :=
  match command with
  | .observe input => store.observe s input
  | .resolve key resolvedAt expected => store.resolve s key resolvedAt expected
  | .listOpen => (.ok (store.listOpen s), s)
  | .notify _ _ => (.ok (), s)

theorem undisturbed_effect (command : Cmd) (s : Incidents) :
    Effect store command s (undisturbed store command s).1 (undisturbed store command s).2 := by
  cases command with
  | observe input => exact .inl ⟨.inl rfl, rfl⟩
  | resolve key resolvedAt expected => exact .inl ⟨.inl rfl, rfl⟩
  | listOpen => exact ⟨.inl rfl, rfl⟩
  | notify kind incident => rfl

/-- The version that an event closes. -/
def closedVersion : WatchEvent T → Option (T × ApiWatchIncident)
  | .act t (.resolve key resolvedAt expected) _ pre post =>
    match store.resolve pre key resolvedAt expected with
    | (.ok (some _), s) =>
      if s = post then ((pre.records.get key).filter (·.incidentKey = key)).map fun row => (t, row)
      else none
    | _ => none
  | _ => none

theorem closes_of_closedVersion {event : WatchEvent T} {t : T} {row : ApiWatchIncident}
    (h : closedVersion store event = some (t, row)) : Closes store t row event := by
  unfold closedVersion at h
  split at h
  · rename_i t' key resolvedAt expected answer pre post
    split at h
    · rename_i incident s hresolved
      split at h
      · rename_i hpost
        simp only [Option.map_eq_some_iff, Option.filter_eq_some_iff, decide_eq_true_eq,
          Prod.mk.injEq] at h
        obtain ⟨_, ⟨hrow, rfl⟩, rfl, rfl⟩ := h
        subst hpost
        exact ⟨resolvedAt, expected, answer, pre, s, incident, rfl, hrow, hresolved⟩
      · cases h
    · cases h
  · cases h

/-- A source row of a family's document. -/
def sampleSource (documentKey : String) (accepted : Bool) : ApiWatchReportSourceOutcome where
  sourceFamily := .OZON_SELLER
  documentKey := some documentKey
  acquisitionOutcome := if accepted then "ACQUIRED_OFFICIAL_SOURCE_CANDIDATE" else "SOURCE_URL_AUTHORITY_MISSING"
  authorityStatus := if accepted then some .AUTHORITY_ACCEPTED else none
  snapshotSha256 := if accepted then some "snapshot" else none
  baseSnapshotSha256 := none
  blockerCode := if accepted then none else some "SOURCE_URL_AUTHORITY_MISSING"
  errorCode := none
  changeMode := if accepted then some .FIRST_SNAPSHOT else none

/-- First a report without the authority of a source, then a completed report in which the source is
accepted and another of its family is `finance`. -/
def sampleEvaluations (finance : ApiWatchReportSourceOutcome) : Bool → Evaluation
  | false => ⟨⟨"blocked", .BLOCKED, [sampleSource "seller" false]⟩, [], [], true, 1000⟩
  | true => ⟨⟨"completed", .COMPLETED, [sampleSource "seller" true, finance]⟩, [], [], true, 2000⟩

/-- The two evaluations, one after the other. -/
def sampleRun (finance : ApiWatchReportSourceOutcome) :
    Config Bool Cmd Cmd.Answer Failure (List ApiWatchIncident) Incidents :=
  (evaluators (memoryStore fun _ _ => true) (fun _ => "") (sampleEvaluations finance)).replay
    (fun _ => undisturbed (memoryStore fun _ _ => true)) (List.replicate 6 false ++ List.replicate 8 true)
    {}

theorem sampleRun_reachable (finance : ApiWatchReportSourceOutcome) :
    (evaluators (memoryStore fun _ _ => true) (fun _ => "") (sampleEvaluations finance)).Reachable {}
      (sampleRun finance) :=
  System.replay_reachable (fun _ c w => undisturbed_effect (memoryStore fun _ _ => true) c w.state) _ _

/-- The incident of the replayed runs, as it is listed and closed. -/
def sampleIncident : ApiWatchIncident :=
  (incidentInput (fun _ => "") .SOURCE_AUTHORITY_BLOCKED (some .OZON_SELLER) none
    ⟨"blocked", .BLOCKED, [sampleSource "seller" false]⟩ .BLOCKING_RISK "SOURCE_URL_AUTHORITY_MISSING"
    1000 none none).created 0

theorem sampleRun_closes {log : List (WatchEvent Bool)}
    (h : (true, sampleIncident) ∈ log.filterMap (closedVersion (memoryStore fun _ _ => true))) :
    ∃ event ∈ log, Closes (memoryStore fun _ _ => true) true sampleIncident event := by
  obtain ⟨event, hmem, hevent⟩ := List.mem_filterMap.mp h
  exact ⟨event, hmem, closes_of_closedVersion _ hevent⟩

/-- A source that is still under review. -/
def reviewed : ApiWatchReportSourceOutcome :=
  { sampleSource "finance" true with authorityStatus := some .AUTHORITY_REVIEW_REQUIRED }

/-- An authority incident is resolved by a report that does not accept every source row of its
family. -/
theorem blocked_incident_resolved :
    (evaluators (memoryStore fun _ _ => true) (fun _ => "") (sampleEvaluations reviewed)).Reachable {}
        (sampleRun reviewed) ∧
      ¬ BlockedLaw (memoryStore fun _ _ => true) (sampleEvaluations reviewed)
        (sampleRun reviewed).world.log := by
  refine ⟨sampleRun_reachable reviewed, fun hlaw => ?_⟩
  obtain ⟨event, hmem, hcloses⟩ := @sampleRun_closes (sampleRun reviewed).world.log (by decide +kernel)
  have haccepted := hlaw event hmem true sampleIncident hcloses rfl reviewed (by decide)
  exact absurd haccepted (by decide)

/-- Where the whole family is accepted, the incident is closed for it. -/
theorem incident_lifecycle_sample :
    ¬ Observes true sampleIncident.incidentKey (sampleRun (sampleSource "finance" true)).world.log ∧
      ∀ source ∈ (sampleEvaluations (sampleSource "finance" true) true).familySources
        sampleIncident.sourceFamily, isAccepted source = true := by
  have hlaws := incident_lifecycle _ _ _ (sampleRun_reachable (sampleSource "finance" true))
  obtain ⟨event, hmem, hcloses⟩ :=
    @sampleRun_closes (sampleRun (sampleSource "finance" true)).world.log (by decide +kernel)
  refine ⟨hlaws.1.unobserved event hmem true sampleIncident hcloses,
    hlaws.2 ?_ event hmem true sampleIncident hcloses rfl⟩
  intro t answer pre post _ hcompleted incident _ _ family _ _
  cases t with
  | false => cases hcompleted
  | true => cases family <;> decide

end SellerAgents.ApiWatch
