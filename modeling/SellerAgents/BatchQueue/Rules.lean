import SellerAgents.BatchQueue.Outline

open SellerAgents.Js SellerAgents.Execution Concurrent

namespace SellerAgents.BatchQueue

theorem isUuidUnit_not_white {u : UInt16} (h : isUuidUnit u = true) : isWhite u = false := by
  have hrange : 45 ≤ u.toNat ∧ u.toNat ≤ 102 := by
    simp only [isUuidUnit, isDigit, Bool.or_eq_true, Bool.and_eq_true, decide_eq_true_eq,
      beq_iff_eq] at h
    rcases h with (⟨hlow, hhigh⟩ | ⟨hlow, hhigh⟩) | rfl
    · exact ⟨le_trans (by decide) (UInt16.le_iff_toNat_le.mp hlow),
        le_trans (UInt16.le_iff_toNat_le.mp hhigh) (by decide)⟩
    · exact ⟨le_trans (by decide) (UInt16.le_iff_toNat_le.mp hlow), UInt16.le_iff_toNat_le.mp hhigh⟩
    · decide
  rw [← UInt16.ofNat_toNat (x := u)]
  generalize u.toNat = v at hrange
  obtain ⟨hlow, hhigh⟩ := hrange
  interval_cases v <;> decide

/-- A drawn attempt id is stored as it is. -/
theorem text_attemptId (uuid : Uuid) : text 240 (attemptId uuid) = some (attemptId uuid) := by
  refine text_of_not_white (fun u hu => ?_) (by simp [attemptId, units]) ?_
  · rcases List.mem_append.mp hu with hu | hu
    · have hall : (units "provider-attempt-").all (fun u => !isWhite u) = true := by decide
      simpa using List.all_eq_true.mp hall u hu
    · exact isUuidUnit_not_white (List.all_eq_true.mp uuid.digits u hu)
  · have hprefix : (units "provider-attempt-").length = 17 := by decide
    simp [attemptId, uuid.length, hprefix]

variable {call : Call} {now : Int} {id : JsString} {indexes : List Nat}

/-- What `createIntent` returns is a committed intent under its id. -/
theorem createIntent_ok {input : AttemptInput} {attempt : ProviderAttempt}
    (h : ProviderOutcome.createIntent input now = .ok attempt) :
    attempt.state = .DISPATCH_INTENT_COMMITTED ∧
      attempt.provider_attempt_id = text 240 input.provider_attempt_id := by
  simp only [ProviderOutcome.createIntent] at h
  split at h
  · cases h
  · cases h
    exact ⟨rfl, rfl⟩

theorem attemptInput_ok {owner : Owner} {entry : Option Entry} {index : Nat} {input : AttemptInput}
    (h : attemptInput call owner entry index id = .ok input) :
    input.provider_attempt_id = id := by
  unfold attemptInput at h
  cases hlogical : logicalId owner index with
  | error e => simp [hlogical, bind, Except.bind] at h
  | ok logical =>
    cases hexecution : executionId owner with
    | error e => simp [hlogical, hexecution, bind, Except.bind] at h
    | ok execution =>
      simp only [hlogical, hexecution, bind, Except.bind, pure, Except.pure, Except.ok.injEq] at h
      subst h
      rfl

/-- The attempts of a request: one committed intent for every index. -/
theorem createAttempts_ok {owner : Owner} {entryForIndex : Nat → Option Entry}
    {attempts : List (Nat × ProviderAttempt)}
    (h : createAttempts call owner entryForIndex id now indexes = .ok attempts) :
    attempts.map (·.1) = indexes ∧ ∀ item ∈ attempts,
      item.2.state = .DISPATCH_INTENT_COMMITTED ∧ item.2.provider_attempt_id = text 240 id := by
  induction indexes generalizing attempts with
  | nil =>
    cases h
    exact ⟨rfl, by simp⟩
  | cons index rest ih =>
    simp only [createAttempts, bind, Except.bind] at h
    split at h
    · cases h
    · rename_i input hinput
      split at h
      · cases h
      · rename_i attempt hattempt
        split at h
        · cases h
        · rename_i others hothers
          cases h
          obtain ⟨hkeys, hstates⟩ := ih hothers
          refine ⟨by simp [hkeys], fun item hmem => ?_⟩
          rcases List.mem_cons.mp hmem with rfl | hmem
          · have hintent := createIntent_ok hattempt
            rw [attemptInput_ok hinput] at hintent
            exact hintent
          · exact hstates item hmem

/-- A stored intent is held by every entry of its request. -/
theorem commitAttemptIntent_holds {attempts : List (Nat × ProviderAttempt)} {current : Option Owner}
    {next : Owner} (h : commitAttemptIntent call id attempts now current = .store next)
    (hnodup : (attempts.map (·.1)).Nodup)
    (hattempts : ∀ item ∈ attempts, item.2.state = .DISPATCH_INTENT_COMMITTED ∧
      item.2.provider_attempt_id = some id) :
    HoldsIntent (some next) id (attempts.map (·.1)) := by
  obtain ⟨owner, batch, rfl, hbatch, _, _, h⟩ := whenLive_store.mp h
  split at h
  · cases h
  · rename_i entries hentries
    simp only [Write.store.injEq] at h
    subst h
    refine ⟨_, rfl, fun i hi => ?_⟩
    obtain ⟨⟨index, attempt⟩, hmem, rfl⟩ := List.mem_map.mp hi
    obtain ⟨e, e', he, hu, he'⟩ := updateEntries_spec hnodup hentries hmem
    simp only [commitEntry, Option.ite_none_right_eq_some, Option.some.injEq] at hu
    obtain ⟨⟨hstatus, _⟩, rfl⟩ := hu
    exact ⟨_, attempt, he', hstatus, rfl, rfl, hattempts _ hmem⟩

variable {T : Type} {calls : T → Call} {start : Option Owner} {t : T}

/-- A thread may commit the intents of these entries. -/
def MayCommit (t : T) (indexes : List Nat) (w : QueueWorld T) : Prop :=
  ∀ i ∈ indexes, GrantedTo t i w.log ∧ uses .intent i w.log = 0 ∧ uses .dispatch i w.log = 0

/-- A thread may call `execute` for these entries. -/
def MayDispatch (t : T) (id : JsString) (indexes : List Nat) (w : QueueWorld T) : Prop :=
  (∀ i ∈ indexes, GrantedTo t i w.log ∧ uses .dispatch i w.log = 0) ∧
    ∃ event ∈ w.log, HoldsIntent (recordAfter event) id indexes

theorem MayCommit.mono {w w' : QueueWorld T} (h : MayCommit t indexes w) (hrely : QueueRely t w w') : MayCommit t indexes w' := by
  intro i hi
  obtain ⟨hgranted, hintent, hdispatch⟩ := h i hi
  exact ⟨hgranted.mono hrely.log, by rw [hrely.uses _ _ hgranted, hintent],
    by rw [hrely.uses _ _ hgranted, hdispatch]⟩

theorem MayDispatch.mono {w w' : QueueWorld T} (h : MayDispatch t id indexes w)
    (hrely : QueueRely t w w') : MayDispatch t id indexes w' := by
  obtain ⟨hgranted, event, hmem, hholds⟩ := h
  refine ⟨fun i hi => ?_, event, hrely.log.subset hmem, hholds⟩
  obtain ⟨hg, hdispatch⟩ := hgranted i hi
  exact ⟨hg.mono hrely.log, by rw [hrely.uses _ _ hg, hdispatch]⟩

/-- The weakest preconditions of the queue. -/
abbrev Wp (calls : T → Call) (start : Option Owner) (t : T) {α : Type} (program : Program α)
    (Q : α → QueueWorld T → Prop) (E : JsError → QueueWorld T → Prop) (w : QueueWorld T) : Prop :=
  System.wp (outline start) (queue calls) t program Q E w

/-- The worlds a thread may find itself in later. -/
def Later (start : Option Owner) (t : T) (w w' : QueueWorld T) : Prop :=
  QueueRely t w w' ∧ QueueInv start w'

section Rules

variable {α β : Type} {Q : β → QueueWorld T → Prop} {E : JsError → QueueWorld T → Prop}
  {w : QueueWorld T}

/-- Calm commands have no precondition and leave what the thread relies on. -/
theorem Cmd.Calm.step {command : Cmd} (hcalm : command.Calm) (w : QueueWorld T)
    (hinv : QueueInv start w) : QueuePre start t command w ∧ ∀ call answer next,
      Effect call command w.state answer next → QueueRely t w (w.act t command answer next) := by
  have hpre : QueuePre start t command w := by
    cases command with
    | mutateOwner callback => exact ⟨hcalm.1 w.state, by simp [hcalm.2]⟩
    | port query => cases query <;> trivial
    | _ => trivial
  refine ⟨hpre, fun call answer next heffect =>
    QueueRely.act hinv hpre heffect fun stage hstage => ?_⟩
  cases command with
  | mutateOwner callback => exact Cmd.covers_mutateOwner hcalm.2 answer hstage
  | port query => cases query <;> cases stage <;> first | rfl | exact absurd hcalm id
  | _ => cases stage <;> rfl

/-- The rule for a calm program. -/
theorem wp_calm {p : Program β} {ok : β → Prop} (hp : p.Only Cmd.Calm ok)
    (hQ : ∀ value, ok value → ∀ w', Later start t w w' → Q value w')
    (hE : ∀ error w', Later start t w w' → E error w') : Wp calls start t p Q E w :=
  System.wp_only (fun _ _ _ _ => QueueRely.trans)
    (fun _ hc w hinv => ⟨(hc.step w hinv).1,
      fun r s heffect _ => (hc.step w hinv).2 (calls t) r s heffect⟩)
    hp (fun value hok w' hr hinv => hQ value hok w' ⟨hr, hinv⟩)
    (fun error w' hr hinv => hE error w' ⟨hr, hinv⟩)

/-- The rule for a calm program followed by another one. -/
theorem wp_calm_bind {p : Program α} {f : α → Program β} {ok : α → Prop} (hp : p.Only Cmd.Calm ok)
    (hf : ∀ value, ok value → ∀ w', Later start t w w' → Wp calls start t (f value) Q E w')
    (hE : ∀ error w', Later start t w w' → E error w') : Wp calls start t (p.bind f) Q E w :=
  System.wp_bind QueueRely.refl (wp_calm hp hf hE)

/-- The rule of a calm port. -/
theorem wp_port_bind {query : Port} {f : query.Answer → Program β} (hcalm : (Cmd.port query).Calm)
    (hf : ∀ answer w', Later start t w w' → Wp calls start t (f answer) Q E w')
    (hE : ∀ error w', Later start t w w' → E error w') :
    Wp calls start t ((port query).bind f) Q E w := by
  have honly : (port query).Only Cmd.Calm fun _ => True := only_port hcalm fun _ => trivial
  exact wp_calm_bind honly (fun answer _ => hf answer) hE

/-- The rule of `Date.now()`. -/
theorem wp_dateNow_bind {f : Int → Program β}
    (hf : ∀ now w', Later start t w w' → Wp calls start t (f now) Q E w')
    (hE : ∀ error w', Later start t w w' → E error w') :
    Wp calls start t (dateNow.bind f) Q E w := by
  have honly : dateNow.Only Cmd.Calm fun _ => True := only_dateNow trivial fun _ => trivial
  exact wp_calm_bind honly (fun now _ => hf now) hE

/-- The rule of `crypto.randomUUID()`. -/
theorem wp_randomUUID_bind {f : Uuid → Program β}
    (hf : ∀ uuid w', Later start t w w' → Wp calls start t (f uuid) Q E w')
    (hE : ∀ error w', Later start t w w' → E error w') :
    Wp calls start t (randomUUID.bind f) Q E w := by
  have honly : randomUUID.Only Cmd.Calm fun _ => True := only_randomUUID trivial fun _ => trivial
  exact wp_calm_bind honly (fun uuid _ => hf uuid) hE

/-- The rule for a quiet program at the end of an iteration. -/
theorem wp_quiet {p : Program (Option ProcessResult)} (hp : Quiet p) :
    Wp calls start t p (System.ending (outline start) t) (fun _ _ => True) w := by
  refine wp_calm hp (fun value hreported w' _ => ?_) fun _ _ _ => trivial
  cases value with
  | none => trivial
  | some result => exact fun hcode => absurd hcode (hreported result rfl)

/-- The rule of `mutateOwner` with a callback that commits no intent. -/
theorem wp_mutateOwner_bind {callback : Callback} {f : Option Owner × Bool → Program β}
    (hfits : ∀ w', Later start t w w' → callback.Fits w'.state) (hintents : callback.intents = [])
    (hf : ∀ record stored w', Later start t w w' →
      (∃ pre post, .act t (.mutateOwner callback) (.ok (record, stored)) pre post ∈ w'.log) →
      (stored = true → MayCommit t callback.grants w') →
      Wp calls start t (f (record, stored)) Q E w')
    (hE : ∀ error w', Later start t w w' → E error w') :
    Wp calls start t ((mutateOwner callback).bind f) Q E w := by
  refine System.wp_bind QueueRely.refl fun w' hr hinv => ?_
  have hpre : QueuePre start t (.mutateOwner callback) w' :=
    ⟨hfits w' ⟨hr, hinv⟩, by simp [hintents]⟩
  refine ⟨hpre, fun answer next heffect hinv' => ?_⟩
  have hown : QueueRely t w' (w'.act t (.mutateOwner callback) answer next) :=
    QueueRely.act hinv hpre heffect fun stage => Cmd.covers_mutateOwner hintents answer
  cases answer with
  | error error => exact fun w'' hr' hinv'' => hE error w'' ⟨hr.trans (hown.trans hr'), hinv''⟩
  | ok result =>
    obtain ⟨record, stored⟩ := result
    intro w'' hr' hinv''
    have hmem : .act t (.mutateOwner callback) (.ok (record, stored)) w'.state next ∈ w''.log :=
      hr'.log.subset List.mem_cons_self
    refine hf record stored w'' ⟨hr.trans (hown.trans hr'), hinv''⟩ ⟨_, _, hmem⟩ ?_
    rintro rfl
    refine MayCommit.mono (fun i hi => ?_) hr'
    have hpending := ((Pushes.act hpre heffect).grants i hi).1
    obtain ⟨b, e, hb, he, hp⟩ := hpending
    have hzero := hinv.uses_eq_zero (hinv.not_granted hb he hp)
    have hquiet : ∀ stage, stage ≠ .grant →
        uses stage i (w'.act t (.mutateOwner callback) (.ok (record, true)) next).log = 0 := by
      intro stage hstage
      rw [World.act_log, uses_cons_of_notMem, hzero]
      rw [coveredBy, Cmd.covers_mutateOwner hintents _ hstage]
      exact List.not_mem_nil
    exact ⟨⟨_, List.mem_cons_self, rfl, hi⟩, hquiet _ (by decide), hquiet _ (by decide)⟩

/-- The rule of `getOwner`: the answer is the record of some earlier moment. -/
theorem wp_getOwner_bind {f : Option Owner → Program β}
    (hf : ∀ record w', Later start t w w' → StateProgress record w'.state →
      (Prefixed start → Prefixed record) → Wp calls start t (f record) Q E w')
    (hE : ∀ error w', Later start t w w' → E error w') :
    Wp calls start t (getOwner.bind f) Q E w := by
  refine System.wp_bind QueueRely.refl fun w' hr hinv => ⟨trivial, fun answer next heffect _ => ?_⟩
  have hown : QueueRely t w' (w'.act t .getOwner answer next) :=
    ((show Cmd.getOwner.Calm from trivial).step w' hinv).2 (calls t) answer next heffect
  rcases heffect.1 with rfl | ⟨error, rfl⟩
  · intro w'' hr' hinv''
    exact hf w'.state w'' ⟨hr.trans (hown.trans hr'), hinv''⟩ (hown.state.trans hr'.state)
      hinv.prefixed
  · exact fun w'' hr' hinv'' => hE error w'' ⟨hr.trans (hown.trans hr'), hinv''⟩

/-- The rule of `finalizeOwner`. -/
theorem wp_finalizeOwner_bind {owner : Owner} {entries : List Entry} {f : PortResult → Program β}
    (hpre : ∀ w', Later start t w w' → Prefixed start →
      AllComplete w'.state ∧ ∀ e ∈ entries, e.status = .complete)
    (hf : ∀ result w', Later start t w w' → Wp calls start t (f result) Q E w')
    (hE : ∀ error w', Later start t w w' → E error w') :
    Wp calls start t ((port (.finalizeOwner owner entries)).bind f) Q E w := by
  refine System.wp_bind QueueRely.refl fun w' hr hinv => ⟨hpre w' ⟨hr, hinv⟩, ?_⟩
  intro answer next heffect _
  have hrecord : Effect (calls t) (.port (.finalizeOwner owner entries)) w'.state answer next := heffect
  have hown : QueueRely t w' (w'.act t (.port (.finalizeOwner owner entries)) answer next) :=
    QueueRely.act hinv (hpre w' ⟨hr, hinv⟩) hrecord fun stage _ => by cases stage <;> rfl
  cases answer with
  | error error => exact fun w'' hr' hinv'' => hE error w'' ⟨hr.trans (hown.trans hr'), hinv''⟩
  | ok result => exact fun w'' hr' hinv'' => hf result w'' ⟨hr.trans (hown.trans hr'), hinv''⟩

/-- The rule of `execute`: afterwards nothing of the request is left to guard. -/
theorem wp_execute {request : ExecuteRequest}
    {Q : (Port.execute request).Answer → QueueWorld T → Prop}
    (hmay : MayDispatch t request.providerAttemptId request.indexes w)
    (hQ : ∀ answer w', QueueInv start w' → Q answer w')
    (hE : ∀ error w', QueueInv start w' → E error w') :
    Wp calls start t (port (.execute request)) Q E w := by
  intro w' hr hinv
  refine ⟨hmay.mono hr, fun answer next heffect hinv' => ?_⟩
  cases answer with
  | error error => exact fun w'' _ hinv'' => hE error w'' hinv''
  | ok result => exact fun w'' _ hinv'' => hQ result w'' hinv''

/-- The rule of `commitIntent`. -/
theorem wp_commitIntent_bind {owner : Owner} {indexes : List Nat}
    {entryForIndex : Nat → Option Entry} {uuid : Uuid} {f : Option Owner × Bool → Program β}
    (hnodup : indexes.Nodup) (hmay : MayCommit t indexes w)
    (hf : ∀ record stored w', QueueInv start w' →
      (stored = true → MayDispatch t (attemptId uuid) indexes w') →
      Wp calls start t (f (record, stored)) Q E w')
    (hE : ∀ error w', QueueInv start w' → E error w') :
    Wp calls start t ((commitIntent (calls t) owner indexes entryForIndex (attemptId uuid)).bind f)
      Q E w := by
  refine System.wp_bind QueueRely.refl ?_
  refine wp_dateNow_bind (fun now w₁ h₁ => ?_) fun error w' h => hE error w' h.2
  refine wp_calm_bind (Prog.only_ofExcept fun attempts h => h) (fun attempts hattempts w₂ h₂ => ?_)
    fun error w' h => hE error w' h.2
  obtain ⟨hkeys, hstates⟩ := createAttempts_ok hattempts
  rw [text_attemptId] at hstates
  have hmay₂ := hmay.mono (h₁.1.trans h₂.1)
  intro w' hr hinv
  have hmay' := hmay₂.mono hr
  have hpre : QueuePre start t (.mutateOwner (.commitAttemptIntent (attemptId uuid) attempts)) w' := by
    refine ⟨⟨by rw [hkeys]; exact hnodup, fun item hmem => (hstates item hmem).1⟩, fun i hi => ?_⟩
    rw [Callback.intents, hkeys] at hi
    exact ⟨(hmay' i hi).1, (hmay' i hi).2.1⟩
  refine ⟨hpre, fun answer next heffect hinv' => ?_⟩
  cases answer with
  | error error => exact fun w'' _ hinv'' => hE error w'' hinv''
  | ok result =>
    obtain ⟨record, stored⟩ := result
    intro w'' hr' hinv''
    refine hf record stored w'' hinv'' ?_
    rintro rfl
    refine MayDispatch.mono ⟨fun i hi => ?_, ?_⟩ hr'
    · obtain ⟨hgranted, _, hdispatch⟩ := hmay' i hi
      refine ⟨hgranted.mono (List.suffix_cons _ _), ?_⟩
      rw [World.act_log, uses_cons_of_notMem (by simp [coveredBy, Cmd.covers]), hdispatch]
    · refine ⟨_, List.mem_cons_self, ?_⟩
      rcases effect_mutateOwner heffect with ⟨now', next', hrun, hanswer, rfl⟩ | ⟨hanswer, _⟩
      · have hholds := commitAttemptIntent_holds hrun (by rw [hkeys]; exact hnodup) hstates
        rw [hkeys] at hholds
        exact hholds
      · rcases hanswer with hanswer | ⟨error, hanswer⟩ <;> cases hanswer

/-- The rule for a calm program that has nothing left to guard. -/
theorem wp_calm_end {p : Program β} {ok : β → Prop} (hp : p.Only Cmd.Calm ok)
    (hQ : ∀ value, ok value → ∀ w', QueueInv start w' → Q value w')
    (hE : ∀ error w', QueueInv start w' → E error w') : Wp calls start t p Q E w :=
  wp_calm hp (fun value hok w' h => hQ value hok w' h.2) fun error w' h => hE error w' h.2

end Rules

end SellerAgents.BatchQueue
