import SellerAgents.BatchQueue.Rules

open SellerAgents.Js SellerAgents.Execution Concurrent

namespace SellerAgents.BatchQueue

open Prog (only_bind only_mono)

variable {batch : Batch} {entry : Entry} {startedAt : Int} {id : JsString} {planning : JsValue}
  {indexes : List Nat} {nextIndex : Nat} {profile : Option AcquisitionProfile}
  {command : Option Command} {quota : Option Quota} {owner : Owner} {group : QueryGroup}

theorem only_groupErrors {members : List (Option Entry)} {physicalAttemptId : JsString}
    {error : JsError} :
    (groupErrors group members physicalAttemptId startedAt error).Only Cmd.Calm
      fun results => results.length = members.length :=
  only_bind (only_dateNow trivial fun _ => only_collect fun _ => only_port trivial fun _ => trivial)

theorem only_projectAnswer {members : List (Option Entry)} {physicalResult : QueueResult}
    {response : Option ProviderResponse} :
    (projectAnswer group indexes members id physicalResult response).Only Cmd.Calm
      fun results => results.length = members.length := by
  have hrest : (if physicalResult.ok then do
        port (.storeCache (some group.physical_command) physicalResult none)
        projectOrExplain group physicalResult members
          (port (.diagnostic .BATCH_COALESCED_PROJECTION_FAILED))
      else projectMembers group physicalResult none members : Program _).Only Cmd.Calm
        fun results => results.length = members.length := by
    split
    · refine only_bind (only_port trivial fun _ => ?_)
      exact only_projectOrExplain (only_port trivial fun _ => trivial)
    · exact only_projectMembers ..
  cases response with
  | none => exact hrest
  | some r => exact only_bind (only_mono only_receiveResponse fun _ _ => hrest)

theorem only_projectSuccess {call : Call} {result : Option QueueResult} :
    (projectSuccess call entry command profile result).Only Cmd.Calm fun _ => True := by
  unfold projectSuccess
  split
  · trivial
  · refine only_bind (only_present fun physical _ => ?_)
    split
    · exact only_bind (only_port trivial fun _ => only_port trivial fun _ => trivial)
    · trivial

theorem only_settleAnswer {call : Call} {result : Option QueueResult}
    {response : Option ProviderResponse} :
    (settleAnswer call nextIndex entry command profile id result response).Only Cmd.Calm
      fun _ => True := by
  cases response with
  | none => exact only_projectSuccess
  | some r => exact only_bind (only_mono only_receiveResponse fun _ _ => only_projectSuccess)

theorem only_explainError {error : JsError} :
    (explainError entry planning startedAt error).Only Cmd.Calm fun _ => True := by
  refine only_bind (only_dateNow trivial fun now => ?_)
  refine only_bind (Prog.only_attempt (only_port trivial fun result => ?_) fun error => ?_)
  · trivial
  · exact only_bind (only_port trivial fun _ => trivial)

variable {T : Type} {calls : T → Call} {start : Option Owner} {t : T} {w : QueueWorld T}
  {E : JsError → QueueWorld T → Prop}

/-- The `try` statement of the single path calls `execute` once, under its permission. -/
theorem requestSingle_wp {Q : Option QueueResult → QueueWorld T → Prop}
    (hmay : MayDispatch t id [nextIndex] w) (hQ : ∀ result w', QueueInv start w' → Q result w')
    (hE : ∀ error w', QueueInv start w' → E error w') :
    Wp calls start t (requestSingle (calls t) owner nextIndex entry command planning profile quota id
      startedAt) Q E w := by
  have hcaught : ∀ error w', QueueInv start w' →
      Wp calls start t (explainError entry planning startedAt error) Q E w' :=
    fun error w' _ => wp_calm_end only_explainError (fun value _ w' => hQ value w') hE
  refine System.wp_bind QueueRely.refl (System.wp_attempt ?_)
  refine System.wp_bind QueueRely.refl ?_
  refine wp_calm_bind (Prog.only_ofExcept fun value h => h) (fun logicalExecutionId _ w₁ h₁ => ?_)
    fun error w' h => hcaught error w' h.2
  refine wp_execute (hmay.mono h₁.1) ?_ hcaught
  rintro ⟨result, response⟩ w₂ _
  exact wp_calm_end only_settleAnswer
    (fun value _ w' _ w'' _ hinv => hQ value w'' hinv) hcaught

/-- The `try` statement of the group path calls `execute` once, under its permission, and has a
result for every member. -/
theorem requestGroup_wp {physicalAttemptId : JsString}
    {Q : List (Option QueueResult) × Option QueueResult → QueueWorld T → Prop}
    (hmay : MayDispatch t id indexes w)
    (hQ : ∀ results physicalResult w', results.length = indexes.length → QueueInv start w' →
      Q (results, physicalResult) w') (hE : ∀ error w', QueueInv start w' → E error w') :
    Wp calls start t (requestGroup owner batch nextIndex group indexes quota id physicalAttemptId
      startedAt) Q E w := by
  have hmembers : (indexes.map fun index => batch.entries[index]?).length = indexes.length :=
    List.length_map _
  have hfailed : ∀ (error : JsError) (physicalResult : Option QueueResult) w', QueueInv start w' →
      Wp calls start t ((groupErrors group (indexes.map fun index => batch.entries[index]?)
        physicalAttemptId startedAt error).bind fun results => .ret (results, physicalResult)) Q E w' := by
    intro error physicalResult w' _
    refine wp_calm_end (only_bind (only_mono only_groupErrors fun results hlength => ?_))
      (fun answer (hlength : answer.1.length = indexes.length) w' => hQ answer.1 answer.2 w' hlength) hE
    exact hlength.trans hmembers
  refine System.wp_bind QueueRely.refl (System.wp_attempt ?_)
  refine wp_calm_bind (only_present fun leader h => h) (fun leader _ w₁ h₁ => ?_)
    fun error w' h => hfailed error none w' h.2
  refine wp_port_bind trivial (fun planning w₂ h₂ => ?_) fun error w' h => hfailed error none w' h.2
  refine wp_calm_bind (Prog.only_ofExcept fun value h => h) (fun logicalExecutionId _ w₃ h₃ => ?_)
    fun error w' h => hfailed error none w' h.2
  refine wp_execute (hmay.mono (h₁.1.trans (h₂.1.trans h₃.1))) ?_
    fun error w' => hfailed error none w'
  rintro ⟨result, response⟩ w₄ _
  refine System.wp_bind QueueRely.refl (System.wp_attempt ?_)
  refine wp_calm_end only_projectAnswer (fun results hlength w' _ w'' _ hinv => ?_)
    fun error w' => hfailed error _ w'
  exact hQ results _ w'' (hlength.trans hmembers) hinv

/-- The single path from its intent on. -/
theorem sendSingle_wp (hmay : MayCommit t [nextIndex] w) :
    Wp calls start t (sendSingle (calls t) owner batch nextIndex command planning profile quota)
      (System.ending (outline start) t) (fun _ _ => True) w := by
  refine wp_randomUUID_bind (fun uuid w₁ h₁ => ?_) fun _ _ _ => trivial
  refine wp_commitIntent_bind (by simp) (hmay.mono h₁.1)
    (fun record stored w₂ _ hdispatch => ?_) fun _ _ _ => trivial
  rcases record with _ | owner
  · exact wp_quiet (quiet_failWith nofun)
  cases stored with
  | false => exact wp_quiet (quiet_failWith nofun)
  | true =>
    refine wp_calm_bind (only_present fun liveEntry h => h) (fun liveEntry _ w₃ h₃ => ?_)
      fun _ _ _ => trivial
    refine wp_port_bind trivial (fun _ w₄ h₄ => ?_) fun _ _ _ => trivial
    refine wp_dateNow_bind (fun startedAt w₅ h₅ => ?_) fun _ _ _ => trivial
    refine System.wp_bind QueueRely.refl (requestSingle_wp
      ((hdispatch rfl).mono (h₃.1.trans (h₄.1.trans h₅.1))) (fun result w₆ _ => ?_)
      fun _ _ _ => trivial)
    refine wp_quiet (only_bind (only_mutateOwner ⟨fun _ => trivial, rfl⟩ fun answer => ?_))
    obtain ⟨_, stored⟩ := answer
    cases stored with
    | false => exact quiet_failWith nofun
    | true =>
      refine only_bind (only_port trivial fun _ => ?_)
      split
      · exact quiet_failWith nofun
      · exact quiet_next

/-- The single path from its grant on. -/
theorem dispatchSingle_wp (hmay : MayCommit t [nextIndex] w) :
    Wp calls start t (dispatchSingle (calls t) owner batch nextIndex command planning profile quota)
      (System.ending (outline start) t) (fun _ _ => True) w := by
  unfold dispatchSingle
  simp only
  split
  · have hbefore : (port .beforeProviderDispatch).attempt.Only Cmd.Calm fun _ => True :=
      Prog.only_attempt (only_port trivial fun _ => trivial) fun _ => trivial
    refine wp_calm_bind hbefore (fun outcome _ w₁ h₁ => ?_) fun _ _ _ => trivial
    cases outcome with
    | ok _ => exact sendSingle_wp (hmay.mono h₁.1)
    | error error =>
      refine wp_quiet ?_
      simp only
      split
      · refine only_bind (only_mono only_storeDenial fun stored _ => ?_)
        cases stored with
        | true => exact quiet_next
        | false => trivial
      · trivial
  · exact sendSingle_wp hmay

/-- The branch of the loop for an entry that is requested on its own. -/
theorem atSingle_wp :
    Wp calls start t (atSingle (calls t) nextIndex entry) (System.ending (outline start) t)
      (fun _ _ => True) w := by
  refine wp_port_bind trivial (fun hit w₁ h₁ => ?_) fun _ _ _ => trivial
  split
  · refine wp_quiet (only_bind (only_port trivial fun result => ?_))
    exact only_bind (only_mutateOwner ⟨fun _ => trivial, rfl⟩ fun _ => quiet_afterStore nofun)
  · refine wp_port_bind trivial (fun profile w₂ h₂ => ?_) fun _ _ _ => trivial
    refine wp_port_bind trivial (fun planning w₃ h₃ => ?_) fun _ _ _ => trivial
    refine wp_port_bind trivial (fun decision w₄ h₄ => ?_) fun _ _ _ => trivial
    simp only
    split
    · refine wp_quiet (only_bind (only_port trivial fun result => ?_))
      exact only_bind (only_mutateOwner ⟨fun _ => trivial, rfl⟩ fun _ => quiet_afterStore nofun)
    · split
      · exact wp_quiet (quiet_quotaWaiting ..)
      · refine wp_mutateOwner_bind (fun _ _ => trivial) rfl
          (fun record stored w₅ _ _ hmay => ?_) fun _ _ _ => trivial
        rcases record with _ | owner
        · exact wp_quiet quiet_next
        cases stored with
        | false => exact wp_quiet quiet_next
        | true =>
          refine wp_calm_bind (only_present fun batch h => h) (fun batch _ w₆ h₆ => ?_)
            fun _ _ _ => trivial
          exact dispatchSingle_wp ((hmay rfl).mono h₆.1)

section

variable (hcontiguous : Contiguous nextIndex indexes)
include hcontiguous

/-- The group path from its intent on. -/
theorem sendGroup_wp (hmay : MayCommit t indexes w) :
    Wp calls start t (sendGroup (calls t) owner batch nextIndex group indexes quota)
      (System.ending (outline start) t) (fun _ _ => True) w := by
  refine wp_randomUUID_bind (fun uuid w₁ h₁ => ?_) fun _ _ _ => trivial
  refine wp_commitIntent_bind hcontiguous.nodup (hmay.mono h₁.1)
    (fun record stored w₂ _ hdispatch => ?_) fun _ _ _ => trivial
  rcases record with _ | owner
  · exact wp_quiet (quiet_failWith nofun)
  cases stored with
  | false => exact wp_quiet (quiet_failWith nofun)
  | true =>
    refine wp_calm_bind (only_present fun batch h => h) (fun batch _ w₃ h₃ => ?_)
      fun _ _ _ => trivial
    refine wp_port_bind trivial (fun _ w₄ h₄ => ?_) fun _ _ _ => trivial
    refine wp_dateNow_bind (fun startedAt w₅ h₅ => ?_) fun _ _ _ => trivial
    refine wp_randomUUID_bind (fun physical w₆ h₆ => ?_) fun _ _ _ => trivial
    refine System.wp_bind QueueRely.refl (requestGroup_wp
      ((hdispatch rfl).mono (h₃.1.trans (h₄.1.trans (h₅.1.trans h₆.1))))
      (fun results physicalResult w₇ hlength _ => ?_) fun _ _ _ => trivial)
    refine wp_quiet (only_bind (only_mutateOwner
      ⟨fun _ => contiguous_items hcontiguous hlength, rfl⟩ fun answer => ?_))
    obtain ⟨_, stored⟩ := answer
    cases stored with
    | false => exact quiet_failWith nofun
    | true => exact only_bind (only_port trivial fun _ => quiet_next)

/-- The group path from its grant on. -/
theorem dispatchGroup_wp (hmay : MayCommit t indexes w) :
    Wp calls start t (dispatchGroup (calls t) owner batch nextIndex group indexes quota)
      (System.ending (outline start) t) (fun _ _ => True) w := by
  unfold dispatchGroup
  split
  · refine wp_port_bind trivial (fun _ w₁ h₁ => ?_) fun _ _ _ => trivial
    exact sendGroup_wp hcontiguous (hmay.mono h₁.1)
  · exact sendGroup_wp hcontiguous hmay

/-- The group path from its quota on. -/
theorem scheduleGroup_wp :
    Wp calls start t (scheduleGroup (calls t) batch nextIndex id group indexes)
      (System.ending (outline start) t) (fun _ _ => True) w := by
  refine wp_port_bind trivial (fun decision w₁ h₁ => ?_) fun _ _ _ => trivial
  simp only
  split
  · refine wp_quiet (only_bind (only_mono
      (only_collect fun _ => only_port trivial fun _ => trivial) fun results hlength => ?_))
    rw [List.length_map] at hlength
    exact only_bind (only_mutateOwner
      ⟨fun _ => contiguous_items hcontiguous hlength, rfl⟩ fun _ => quiet_afterStore nofun)
  · split
    · exact wp_quiet (quiet_quotaWaiting ..)
    · refine wp_mutateOwner_bind (fun _ _ => hcontiguous) rfl
        (fun record stored w₂ _ _ hmay => ?_) fun _ _ _ => trivial
      rcases record with _ | owner
      · exact wp_quiet quiet_next
      cases stored with
      | false => exact wp_quiet quiet_next
      | true =>
        refine wp_calm_bind (only_present fun batch h => h) (fun batch _ w₃ h₃ => ?_)
          fun _ _ _ => trivial
        exact dispatchGroup_wp hcontiguous ((hmay rfl).mono h₃.1)

/-- The group path from its cache on. -/
theorem serveGroup_wp :
    Wp calls start t (serveGroup (calls t) batch nextIndex id group indexes)
      (System.ending (outline start) t) (fun _ _ => True) w := by
  refine wp_port_bind trivial (fun hit w₁ h₁ => ?_) fun _ _ _ => trivial
  simp only
  split
  · refine wp_quiet (only_bind (only_mono (only_projectMembers ..) fun results hlength => ?_))
    rw [List.length_map] at hlength
    exact only_bind (only_mutateOwner
      ⟨fun _ => contiguous_items hcontiguous hlength, rfl⟩ fun _ => quiet_afterStore nofun)
  · exact scheduleGroup_wp hcontiguous

end

/-- The branch of the loop for the leader of a group. -/
theorem atGroup_wp : Wp calls start t (atGroup (calls t) owner batch nextIndex entry id)
      (System.ending (outline start) t) (fun _ _ => True) w := by
  unfold atGroup
  split
  · exact wp_quiet (quiet_failWith nofun)
  · rename_i group hgroup
    simp only
    split
    · rename_i hrange
      have hlength : 2 ≤ group.member_indexes.length := by
        have hfilter := (Option.filter_eq_some_iff.mp hgroup).2
        simp only [Bool.and_eq_true, decide_eq_true_eq] at hfilter
        exact hfilter.2
      have hcontiguous : Contiguous nextIndex group.member_indexes :=
        ⟨List.length_pos_iff.mp (by omega), hrange⟩
      split
      · refine wp_calm_bind (only_recoverBufferedGroup hcontiguous) (fun outcome hfine w₁ h₁ => ?_)
          fun _ _ _ => trivial
        cases outcome with
        | recovered => exact wp_quiet (only_bind (only_port trivial fun _ => quiet_next))
        | blocked code => exact wp_quiet (quiet_failWith fun h => hfine (congrArg _ h))
        | other => exact serveGroup_wp hcontiguous
      · exact serveGroup_wp hcontiguous
    · exact wp_quiet (quiet_failWith nofun)

/-- The branch of the loop for a started entry: an unknown outcome is only reported after the entry
was marked. -/
theorem atRequesting_wp :
    Wp calls start t (atRequesting (calls t) batch nextIndex) (System.ending (outline start) t)
      (fun _ _ => True) w := by
  unfold atRequesting
  simp only
  split
  · refine wp_mutateOwner_bind (fun _ _ => trivial) rfl
      (fun record stored w₁ h₁ hevent _ => ?_) fun _ _ _ => trivial
    obtain ⟨pre, post, hmem⟩ := hevent
    have hmarked : MarkedBy t nextIndex w₁.log := ⟨_, pre, post, hmem⟩
    refine wp_port_bind trivial (fun _ w₂ h₂ => ?_) fun _ _ _ => trivial
    refine wp_port_bind trivial (fun _ w₃ h₃ => ?_) fun _ _ _ => trivial
    exact fun w₄ hr _ _ => ⟨nextIndex, hmarked.mono
      (h₂.1.log.trans (h₃.1.log.trans hr.log))⟩
  · exact wp_quiet (quiet_finished nofun)

/-- The branches of the loop by the kind of the entry. -/
theorem atKind_wp :
    Wp calls start t (atKind (calls t) owner batch nextIndex entry)
      (System.ending (outline start) t) (fun _ _ => True) w := by
  unfold atKind
  split
  · exact wp_quiet (quiet_atGuidance ..)
  · exact wp_quiet (quiet_atGuidance ..)
  · exact wp_quiet (quiet_atPolicyError ..)
  · exact wp_quiet (quiet_atPlanningError ..)
  · split
    · exact atGroup_wp
    · exact atSingle_wp

/-- The loop's work at the next entry of a record that was read before. -/
theorem atEntry_wp (hbatch : owner.batch = some batch)
    (hentry : batch.entries[nextIndex]? = some entry) (hread : StateProgress (some owner) w.state) :
    Wp calls start t (atEntry (calls t) owner batch nextIndex entry)
      (System.ending (outline start) t) (fun _ _ => True) w := by
  unfold atEntry
  split
  · rename_i hcomplete
    refine wp_mutateOwner_bind (fun w' h b' e' hb' he' => ?_) rfl
      (fun record stored w₁ _ _ _ => wp_quiet quiet_next) fun _ _ _ => trivial
    -- the entry was complete when it was read, and complete entries stay complete
    obtain ⟨b, hb, hprogress⟩ := (hread.trans h.1.state).source hb'
    rw [batchOf_some, hbatch, Option.some.injEq] at hb
    subst hb
    exact (hprogress.entries hentry he').complete hcomplete
  · split
    · split
      · refine wp_calm_bind (only_recoverBufferedSingle ..) (fun outcome hfine w₁ _ => ?_)
          fun _ _ _ => trivial
        cases outcome with
        | recovered => exact wp_quiet (only_bind (only_port trivial fun _ => quiet_next))
        | blocked code => exact wp_quiet (quiet_failWith fun h => hfine (congrArg _ h))
        | other => exact atRequesting_wp
      · exact atRequesting_wp
    · exact atKind_wp

/-- A batch whose next index is behind its entries has only complete entries. -/
theorem Batch.PrefixComplete.all {b : Batch} (h : b.PrefixComplete)
    (hlength : b.entries.length ≤ b.next_index) : ∀ e ∈ b.entries, e.status = .complete := by
  intro e hmem
  obtain ⟨i, hi, rfl⟩ := List.getElem_of_mem hmem
  exact h i _ (by omega) (List.getElem?_eq_getElem hi)

/-- One iteration of the loop. -/
theorem iteration_wp : Wp calls start t (iteration (calls t)) (System.ending (outline start) t)
    (fun _ _ => True) w := by
  refine wp_getOwner_bind (fun record w₁ h₁ hread hprefixed => ?_) fun _ _ _ => trivial
  cases record with
  | none => exact wp_quiet (quiet_finished nofun)
  | some owner =>
    simp only
    split
    · split
      · exact wp_quiet (by rintro r ⟨⟩; exact nofun)
      · rename_i batch hfilter
        have hbatch : owner.batch = some batch := (Option.filter_eq_some_iff.mp hfilter).1
        split
        · rename_i hlength
          refine wp_finalizeOwner_bind (fun w' h hstart => ?_)
            (fun result w' _ => wp_quiet (by rintro r ⟨⟩; exact nofun)) fun _ _ _ => trivial
          have hcomplete := (hprefixed hstart batch hbatch).all hlength
          refine ⟨fun b' hb' e' hmem => ?_, hcomplete⟩
          obtain ⟨b, hb, hprogress⟩ := (hread.trans h.1.state).source hb'
          rw [batchOf_some, hbatch, Option.some.injEq] at hb
          subst hb
          obtain ⟨i, hi, rfl⟩ := List.getElem_of_mem hmem
          obtain ⟨e, he, hentry⟩ := hprogress.source (List.getElem?_eq_getElem hi)
          exact hentry.complete (hcomplete e (List.mem_of_getElem? he))
        · split
          · exact wp_quiet (quiet_failWith nofun)
          · rename_i entry hentry
            exact atEntry_wp hbatch hentry hread
    · exact wp_quiet (quiet_finished nofun)

/-- The proof outline of the queue is sound from every record. -/
theorem outline_sound (calls : T → Call) (start : Option Owner) :
    System.Sound (queue calls) (outline start) start where
  rely_refl := QueueRely.refl
  rely_trans _ _ _ _ := QueueRely.trans
  start :=
    { prefixed := id
      started := by rintro t i ⟨_, hmem, _⟩; simp at hmem
      unique := by rintro t t' i ⟨_, hmem, _⟩; simp at hmem
      owned := by intro event stage i hmem; simp at hmem
      once := by simp
      ordered := trivial }
  act t c w r s' hinv hpre heffect := by
    have hpush := Pushes.act hpre heffect
    exact ⟨hinv.push hpush, fun other hother =>
      hpush.rely hinv fun _ _ hthread => hother (Option.some.inj hthread).symm⟩
  env w s' hinv henv := by
    have hpush : Pushes start w (.env w.state s') s' :=
      .quiet henv.stateProgress (fun _ => rfl) rfl
    exact ⟨hinv.push hpush, fun t => hpush.rely hinv fun _ _ => nofun⟩
  finish t o w hinv _ := by
    have hpush : Pushes start w (.finish t o w.state) w.state :=
      .quiet (.refl _) (fun _ => rfl) rfl
    exact ⟨hinv.push hpush, fun t => hpush.rely hinv fun _ _ => nofun⟩
  prelude t w _ := wp_quiet quiet_preparations
  body t w _ := iteration_wp

end SellerAgents.BatchQueue
