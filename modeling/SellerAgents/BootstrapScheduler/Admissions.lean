import SellerAgents.BootstrapScheduler.Register

namespace SellerAgents.BootstrapScheduler
open Js (JsMap Properties)

namespace Register

variable {r : Register} {id : Nat} {job : Job}

def join (r : Register) (id : Nat) (deadline : Int) (signal : Bool) : Register :=
  { r with
    jobs := Function.update r.jobs id ((r.jobs id).map fun job =>
      { job with waiters := job.waiters ++ [r.nextWaiter] })
    waiters := Function.update r.waiters r.nextWaiter (some ⟨id, deadline, signal, none⟩)
    nextWaiter := r.nextWaiter + 1 }

def enqueue (r : Register) (job : Job) : Register :=
  { r with
    jobs := Function.update r.jobs r.nextJob (some job)
    nextJob := r.nextJob + 1
    scopes := r.scopes.set job.key r.nextJob
    queue := r.queue ++ [r.nextJob] }

def activate (r : Register) (id : Nat) (job : Job) (deadline : Int) : Register :=
  { r with
    jobs := Function.update r.jobs id (some { job with state := .active, activeDeadline := some deadline })
    queue := r.queue.tail
    active := some id
    launches := r.launches ++ [id] }

def launch (r : Register) (id : Nat) (job : Job) : Register :=
  { r with
    jobs := Function.update r.jobs id (some { job with dispatched := true })
    launches := r.launches.erase id
    runs := id :: r.runs
    running := id :: r.running }

namespace Coherent

theorem waiter_known (h : r.Coherent) {waiter : Nat} {entry : Waiter}
    (hentry : r.waiters waiter = some entry) : waiter < r.nextWaiter := by
  by_contra hle
  rw [h.freshWaiter waiter (Nat.le_of_not_lt hle)] at hentry
  cases hentry

/-- A new waiter of a job. -/
theorem join (h : r.Coherent) (hjob : r.jobs id = some job) (deadline : Int) (signal : Bool) :
    (r.join id deadline signal).Coherent := by
  have hold : ∀ waiter entry, r.waiters waiter = some entry →
      (r.join id deadline signal).waiters waiter = some entry := fun waiter entry hentry =>
    (Function.update_of_ne (Nat.ne_of_lt (h.waiter_known hentry)) _ _).trans hentry
  have hself : (r.join id deadline signal).waiters r.nextWaiter = some ⟨id, deadline, signal, none⟩ :=
    Function.update_self ..
  have hjobs : (r.join id deadline signal).jobs =
      Function.update r.jobs id (some { job with waiters := job.waiters ++ [r.nextWaiter] }) := by
    simp only [Register.join, hjob, Option.map_some]
  have hp : Persists [] r (r.join id deadline signal) :=
    persists_update hjobs hjob rfl (fun hsettled => ⟨hsettled, rfl⟩) fun _ hmem =>
      .inr (List.mem_append_left _ hmem)
  refine ⟨?_, ?_, ?_, ?_, h.once, fun other hmem => hp.known (h.known other hmem), fun key other hscope =>
    (h.placed key other hscope).imp_right hp.keyed, ?_, h.single, h.shut, h.ran, h.capacity⟩
  · intro other job₁ hjob₁
    obtain ⟨rfl, rfl⟩ | ⟨-, hjob₀⟩ := update_cases hjobs hjob₁
    · have hsound := h.jobs other job hjob
      refine ⟨hsound.queued, hsound.alone, hsound.waiting, hsound.dispatched, ?_, ?_,
        hsound.committing⟩
      · refine List.nodup_append.mpr ⟨hsound.distinct, List.nodup_singleton _, ?_⟩
        rintro waiter hmem _ hlast rfl
        obtain ⟨entry, hentry, -⟩ := hsound.listed waiter hmem
        exact Nat.ne_of_lt (h.waiter_known hentry) (List.mem_singleton.mp hlast)
      · intro waiter hmem
        obtain hmem | hmem := List.mem_append.mp hmem
        · obtain ⟨entry, hentry, hrest⟩ := hsound.listed waiter hmem
          exact ⟨entry, hold waiter entry hentry, hrest⟩
        · rw [List.mem_singleton.mp hmem]
          exact ⟨_, hself, rfl, rfl⟩
    · exact (h.jobs other job₁ hjob₀).carry Iff.rfl (fun hactive => hactive) Iff.rfl (fun hq => hq) hold
  · intro waiter entry hentry
    by_cases heq : waiter = r.nextWaiter
    · subst heq
      cases hself.symm.trans hentry
      exact ⟨⟨_, (congrFun hjobs id).trans (Function.update_self ..), fun _ =>
        List.mem_append_right _ (List.mem_singleton_self _)⟩, fun hresolved => (nomatch hresolved)⟩
    · exact hp.waiter (fun _ hran => hran)
        (h.waiters waiter entry ((Function.update_of_ne heq _ _).symm.trans hentry)) List.not_mem_nil
  · intro other hle
    rw [hjobs]
    exact h.fresh_update hjob _ hle
  · intro waiter hle
    exact (Function.update_of_ne (Nat.ne_of_gt hle) _ _).trans
      (h.freshWaiter waiter (Nat.le_of_succ_le hle))
  · intro waiter outcome
    refine (h.recorded waiter outcome).trans ⟨fun ⟨entry, hentry, hverdict⟩ =>
      ⟨entry, hold waiter entry hentry, hverdict⟩, fun ⟨entry, hentry, hverdict⟩ => ?_⟩
    by_cases heq : waiter = r.nextWaiter
    · subst heq
      cases hself.symm.trans hentry
      cases hverdict
    · exact ⟨entry, (Function.update_of_ne heq _ _).symm.trans hentry, hverdict⟩

/-- A new job without waiters. -/
theorem enqueue (h : r.Coherent) (hroom : r.scopes.entries.length < 2) (hstate : job.state = .queued)
    (hdispatched : job.dispatched = false) (hcommit : job.commitStarted = false)
    (hwaiters : job.waiters = []) : (r.enqueue job).Coherent := by
  have hnone : r.jobs r.nextJob = none := h.freshJob _ (Nat.le_refl _)
  have hfresh : r.nextJob ∉ r.queue ++ r.launches ++ r.runs := by
    intro hmem
    obtain ⟨job₀, hjob₀⟩ := h.known _ hmem
    cases hnone.symm.trans hjob₀
  have hold : ∀ other job₀, r.jobs other = some job₀ → (r.enqueue job).jobs other = some job₀ :=
    fun other job₀ hjob₀ =>
      (Function.update_of_ne (Nat.ne_of_lt (h.job_known hjob₀)) _ _).trans hjob₀
  have hp : Persists [] r (r.enqueue job) := fun other job₀ hjob₀ =>
    ⟨job₀, hold other job₀ hjob₀, rfl, fun hsettled => ⟨hsettled, rfl⟩, fun _ hmem => .inr hmem⟩
  have hself : (r.enqueue job).jobs r.nextJob = some job := Function.update_self ..
  have hmem : r.nextJob ∈ (r.enqueue job).queue := List.mem_append_right _ (List.mem_singleton_self _)
  refine ⟨?_, ?_, ?_, h.freshWaiter, ?_, ?_, ?_, h.recorded, h.single, h.shut, h.ran,
    Nat.le_trans (Properties.length_set_le _ _ _) hroom⟩
  · intro other job₁ hjob₁
    by_cases heq : other = r.nextJob
    · subst heq
      cases hself.symm.trans hjob₁
      refine ⟨fun _ => hmem, fun hactive => ?_, fun _ => .inl hstate, ?_, ?_, ?_, fun hcommitting => ?_⟩
      · cases hstate.symm.trans hactive
      · rw [hdispatched]
        exact ⟨fun hfalse => (nomatch hfalse), fun hruns =>
          absurd (List.mem_append_right _ hruns) hfresh⟩
      · rw [hwaiters]
        exact List.nodup_nil
      · rw [hwaiters]
        exact fun _ hnil => absurd hnil List.not_mem_nil
      · cases hcommit.symm.trans hcommitting
    · refine (h.jobs other job₁ ((Function.update_of_ne heq _ _).symm.trans hjob₁)).carry ?_
        (fun hactive => hactive) Iff.rfl (fun hq => hq) fun _ _ hentry => hentry
      exact ⟨fun hin => (List.mem_append.mp hin).resolve_right fun hlast =>
        heq (List.mem_singleton.mp hlast), List.mem_append_left _⟩
  · exact fun waiter entry hentry =>
      hp.waiter (fun _ hran => hran) (h.waiters waiter entry hentry) List.not_mem_nil
  · intro other hle
    exact (Function.update_of_ne (Nat.ne_of_gt hle) _ _).trans
      (h.freshJob other (Nat.le_of_succ_le hle))
  · have hperm : (r.queue ++ [r.nextJob] ++ r.launches ++ r.runs).Perm
        (r.nextJob :: (r.queue ++ r.launches ++ r.runs)) := by
      rw [List.append_assoc r.queue, List.append_assoc r.queue, List.singleton_append,
        List.cons_append, List.append_assoc r.queue]
      exact List.perm_middle
    exact hperm.nodup_iff.mpr (List.nodup_cons.mpr ⟨hfresh, h.once⟩)
  · intro other hin
    by_cases heq : other = r.nextJob
    · exact ⟨job, heq ▸ hself⟩
    · have hbefore : other ∈ r.queue ++ r.launches ++ r.runs := by
        simp only [Register.enqueue, List.mem_append, List.mem_singleton, heq, or_false] at hin ⊢
        exact hin
      exact hp.known (h.known other hbefore)
  · intro key other hscope
    simp only [Register.enqueue, JsMap.get_set] at hscope
    split at hscope
    · rename_i hkey
      cases hscope
      exact ⟨.inl hmem, job, hself, hkey.symm⟩
    · exact (h.placed key other hscope).imp (Or.imp_left (List.mem_append_left _)) hp.keyed

/-- The first job of the queue becomes the active one. -/
theorem activate (h : r.Coherent) (hjob : r.jobs id = some job) (hhead : r.queue.head? = some id)
    (hidle : r.active = none) (deadline : Int) : (r.activate id job deadline).Coherent := by
  obtain ⟨rest, hqueue⟩ : ∃ rest, r.queue = id :: rest := by
    cases hcons : r.queue with
    | nil => rw [hcons] at hhead; cases hhead
    | cons first rest =>
      rw [hcons, List.head?_cons, Option.some.injEq] at hhead
      exact ⟨rest, by rw [hhead]⟩
  have htail : (r.activate id job deadline).queue = rest := by
    change r.queue.tail = rest
    rw [hqueue, List.tail_cons]
  have hin : id ∈ r.queue := hqueue ▸ List.mem_cons_self
  have hsound := h.jobs id job hjob
  have hlive : job.state ≠ .settled := by
    intro hsettled
    have hwait := hsound.waiting hin
    rw [hsettled] at hwait
    exact hwait.elim nofun nofun
  have hsplit : ∀ other, other ≠ id → other ∈ r.queue →
      other ∈ (r.activate id job deadline).queue := by
    intro other hne hmem
    rw [hqueue] at hmem
    exact htail ▸ (List.mem_cons.mp hmem).resolve_left hne
  have hp : Persists [] r (r.activate id job deadline) :=
    persists_update rfl hjob rfl (fun hsettled => absurd hsettled hlive) fun _ hmem => .inr hmem
  have hnodup := h.queue_nodup
  rw [hqueue, List.nodup_cons] at hnodup
  refine ⟨?_, fun waiter entry hentry => hp.waiter (fun _ hran => hran) (h.waiters waiter entry hentry)
      List.not_mem_nil, fun other => h.fresh_update hjob _, h.freshWaiter, ?_, ?_, ?_, h.recorded,
    h.single, h.shut, h.ran, h.capacity⟩
  · intro other job₁ hjob₁
    obtain ⟨rfl, rfl⟩ | ⟨hne, hjob₀⟩ := update_cases rfl hjob₁
    · exact ⟨fun hqueued => (nomatch hqueued), fun _ => rfl,
        fun hmem => absurd (htail ▸ hmem) hnodup.1, hsound.dispatched, hsound.distinct,
        hsound.listed, fun _ => .inl rfl⟩
    · exact (h.jobs other job₁ hjob₀).carry ⟨List.mem_of_mem_tail, hsplit other hne⟩
        (fun hactive => (nomatch hidle.symm.trans hactive)) Iff.rfl (fun hq => hq) fun _ _ hentry => hentry
  · have hperm : ((r.activate id job deadline).queue ++ (r.launches ++ [id]) ++ r.runs).Perm
        (r.queue ++ r.launches ++ r.runs) := by
      rw [htail, hqueue, List.append_assoc rest, List.append_assoc r.launches,
        List.singleton_append, List.cons_append, List.cons_append, List.append_assoc rest,
        ← List.append_assoc rest, ← List.append_assoc rest]
      exact List.perm_middle
    exact hperm.nodup_iff.mpr h.once
  · intro other hmem
    refine hp.known ?_
    by_cases heq : other = id
    · exact ⟨job, heq ▸ hjob⟩
    · simp only [Register.activate, List.mem_append, List.mem_singleton, heq, or_false] at hmem
      refine h.known other ?_
      rw [List.mem_append, List.mem_append]
      exact hmem.imp_left (Or.imp_left List.mem_of_mem_tail)
  · intro key other hscope
    obtain ⟨hplace, hkeyed⟩ := h.placed key other hscope
    refine ⟨?_, hp.keyed hkeyed⟩
    by_cases heq : other = id
    · exact .inr (congrArg some heq.symm)
    · exact .inl (hplace.elim (hsplit other heq) fun hactive => (nomatch hidle.symm.trans hactive))

/-- The run of an activated job is called. -/
theorem launch (h : r.Coherent) (hjob : r.jobs id = some job) (hlaunch : id ∈ r.launches) :
    (r.launch id job).Coherent := by
  have hsound := h.jobs id job hjob
  have hp : Persists [] r (r.launch id job) :=
    persists_update rfl hjob rfl (fun hsettled => ⟨hsettled, rfl⟩) fun _ hmem => .inr hmem
  refine ⟨?_, fun waiter entry hentry => hp.waiter (fun _ => List.mem_cons_of_mem _)
      (h.waiters waiter entry hentry) List.not_mem_nil, fun other => h.fresh_update hjob _, h.freshWaiter,
    ?_, ?_, fun key other hscope => (h.placed key other hscope).imp_right hp.keyed, h.recorded,
    h.single, h.shut, ?_, h.capacity⟩
  · intro other job₁ hjob₁
    obtain ⟨rfl, rfl⟩ | ⟨hne, hjob₀⟩ := update_cases rfl hjob₁
    · exact ⟨hsound.queued, hsound.alone, hsound.waiting, ⟨fun _ => List.mem_cons_self, fun _ => rfl⟩,
        hsound.distinct, hsound.listed, hsound.committing⟩
    · exact (h.jobs other job₁ hjob₀).carry Iff.rfl (fun hactive => hactive)
        ⟨fun hmem => (List.mem_cons.mp hmem).resolve_left hne, List.mem_cons_of_mem _⟩ (fun hq => hq)
        fun _ _ hentry => hentry
  · have hperm : (r.queue ++ r.launches.erase id ++ id :: r.runs).Perm
        (r.queue ++ r.launches ++ r.runs) := by
      refine List.perm_middle.trans ?_
      rw [← List.cons_append]
      refine List.Perm.append_right _ (List.perm_middle.symm.trans ?_)
      exact (List.perm_cons_erase hlaunch).symm.append_left _
    exact hperm.nodup_iff.mpr h.once
  · intro other hmem
    have hbefore : other ∈ r.queue ++ r.launches ++ r.runs := by
      simp only [Register.launch, List.mem_append, List.mem_cons] at hmem ⊢
      obtain (hmem | hmem) | rfl | hmem := hmem
      · exact .inl (.inl hmem)
      · exact .inl (.inr (List.mem_of_mem_erase hmem))
      · exact .inl (.inr hlaunch)
      · exact .inr hmem
    exact hp.known (h.known other hbefore)
  · intro other hmem
    exact (List.mem_cons.mp hmem).elim (fun heq => heq ▸ List.mem_cons_self) fun hmem =>
      List.mem_cons_of_mem _ (h.ran other hmem)

end Coherent

end Register

end SellerAgents.BootstrapScheduler
