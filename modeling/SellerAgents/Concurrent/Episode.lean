import Mathlib.Order.WithBot

namespace SellerAgents.Concurrent

/-- What an observer sees of a thing that may fail, recover and be maintained. -/
inductive Sight where
  | failure | recovery | maintenance
deriving DecidableEq

/-- Where an episode stands. -/
inductive Phase where
  | closed | failing | maintained
deriving DecidableEq

/-- An episode of failures: where it stands, and the latest time that it has taken notice of. -/
structure Episode (τ : Type) where
  phase : Phase := .closed
  last : WithBot τ := ⊥

namespace Episode

variable {τ : Type} [LinearOrder τ]

/-- A closed episode takes notice of failures only, any of what is later than its last notice. -/
def see (e : Episode τ) (sight : Sight) (t : τ) : Episode τ :=
  if t ≤ e.last then e
  else
    match sight with
    | .failure => { phase := .failing, last := t }
    | .recovery => if e.phase = .closed then e else { phase := .closed, last := t }
    | .maintenance => if e.phase = .closed then e else { phase := .maintained, last := t }

/-- An episode after a list of sights. -/
def seeAll (e : Episode τ) (sights : List (Sight × τ)) : Episode τ :=
  sights.foldl (fun e s => e.see s.1 s.2) e

/-- The phase that what was seen amounts to, in whatever order it came: closed when a recovery
follows every failure, failing when nothing follows some failure. -/
def Verdict (seen : List (Sight × τ)) : Phase → Prop
  | .closed => ∀ f, (.failure, f) ∈ seen → ∃ t, (.recovery, t) ∈ seen ∧ f < t
  | .failing => ∃ f, (.failure, f) ∈ seen ∧
      ∀ t, (.recovery, t) ∈ seen ∨ (.maintenance, t) ∈ seen → t ≤ f
  | .maintained => (∃ f, (.failure, f) ∈ seen ∧ ∀ t, (.recovery, t) ∈ seen → t ≤ f) ∧
      ∀ f, (.failure, f) ∈ seen → ∃ t, ((.recovery, t) ∈ seen ∨ (.maintenance, t) ∈ seen) ∧ f < t

variable {seen : List (Sight × τ)} {e : Episode τ} {t : τ}

theorem Verdict.congr {others : List (Sight × τ)} (h : ∀ s, s ∈ seen ↔ s ∈ others) (p : Phase) :
    Verdict seen p ↔ Verdict others p := by
  cases p <;> simp only [Verdict, h]

theorem Verdict.unique {p q : Phase} (hp : Verdict seen p) (hq : Verdict seen q) : p = q := by
  have hfailing : ∀ {r}, Verdict seen .failing → Verdict seen r → r = .failing := by
    rintro r ⟨f, hf, hlast⟩ hr
    cases r with
    | failing => rfl
    | closed =>
      obtain ⟨t, ht, hlt⟩ := hr f hf
      exact absurd (hlast t (.inl ht)) (not_le.mpr hlt)
    | maintained =>
      obtain ⟨t, ht, hlt⟩ := hr.2 f hf
      exact absurd (hlast t ht) (not_le.mpr hlt)
  have hclosed : Verdict seen .closed → ¬ Verdict seen .maintained := by
    rintro hclosed ⟨⟨f, hf, hlast⟩, -⟩
    obtain ⟨t, ht, hlt⟩ := hclosed f hf
    exact absurd (hlast t ht) (not_le.mpr hlt)
  cases p with
  | failing => exact (hfailing hp hq).symm
  | closed =>
    cases q with
    | closed => rfl
    | failing => exact hfailing hq hp
    | maintained => exact absurd hq (hclosed hp)
  | maintained =>
    cases q with
    | closed => exact absurd hp (hclosed hq)
    | failing => exact hfailing hq hp
    | maintained => rfl

/-- The sight that puts an episode into a phase. -/
def Phase.sight : Phase → Sight
  | .closed => .recovery
  | .failing => .failure
  | .maintained => .maintenance

/-- An episode stands where it should, has taken notice of the failures that were seen, and stands
there for what it noticed last. -/
structure Follows (e : Episode τ) (seen : List (Sight × τ)) : Prop where
  verdict : Verdict seen e.phase
  noticed : ∀ f, (.failure, f) ∈ seen → f ≤ e.last
  latest : (e.phase = .closed ∧ e.last = ⊥) ∨ ∃ x, (Phase.sight e.phase, x) ∈ seen ∧ e.last = x

/-- What was seen at one time is one sight. -/
def Distinct (seen : List (Sight × τ)) : Prop :=
  ∀ s ∈ seen, ∀ s' ∈ seen, s.2 = s'.2 → s = s'

/-- A sight that comes in time: no recovery and no maintenance after a failure was seen before it,
unless the episode has noticed something as late; and an episode that has noticed something after a
recovery has seen a failure as late. -/
def Timely (e : Episode τ) (seen : List (Sight × τ)) : Sight → τ → Prop
  | .failure, t => ∀ x, (.recovery, x) ∈ seen ∨ (.maintenance, x) ∈ seen → t < x → t ≤ e.last
  | .recovery, t => e.phase ≠ .closed → t < e.last → ∃ f, (.failure, f) ∈ seen ∧ t ≤ f
  | .maintenance, _ => True

theorem follows_nil : Follows ({} : Episode τ) [] where
  verdict f hf := by cases hf
  noticed f hf := by cases hf
  latest := .inl ⟨rfl, rfl⟩

omit [LinearOrder τ] in
theorem mem_snoc {s s' : Sight × τ} : s' ∈ seen ++ [s] ↔ s' ∈ seen ∨ s' = s := by
  rw [List.mem_append, List.mem_singleton]

variable {sights : List (Sight × τ)} {sight : Sight}

/-- A closed episode stays closed, whatever follows but a failure. -/
theorem Verdict.closed_snoc (h : Verdict seen .closed) (hsight : sight ≠ .failure) :
    Verdict (seen ++ [(sight, t)]) .closed := by
  intro f hf
  rcases mem_snoc.mp hf with hf | heq
  · obtain ⟨x, hx, hlt⟩ := h f hf
    exact ⟨x, mem_snoc.mpr (.inl hx), hlt⟩
  · cases heq
    exact absurd rfl hsight

/-- A sight that an episode has already looked past leaves it where it should be. -/
theorem Follows.past (h : e.Follows seen) (hpast : t ≤ e.last)
    (hdistinct : Distinct (seen ++ [(sight, t)])) (htimely : e.Timely seen sight t) :
    Verdict (seen ++ [(sight, t)]) e.phase := by
  obtain ⟨phase, last⟩ := e
  obtain ⟨hverdict, hnoticed, hlatest⟩ := h
  dsimp only at hverdict hnoticed hlatest hpast ⊢
  -- what was noticed last is no older than the sight, and another sight than it or the same
  obtain ⟨-, rfl⟩ | ⟨x, hx, rfl⟩ := hlatest
  · exact absurd hpast (WithBot.not_coe_le_bot t)
  have htx : t ≤ x := WithBot.coe_le_coe.mp hpast
  have hother : sight ≠ Phase.sight phase → t < x := by
    intro hne
    refine lt_of_le_of_ne htx fun heq => hne ?_
    have hsame := hdistinct _ (mem_snoc.mpr (.inr rfl)) _ (mem_snoc.mpr (.inl hx)) heq
    exact congrArg Prod.fst hsame
  have hold : ∀ {s}, s ∈ seen → s ∈ seen ++ [(sight, t)] := fun hs => mem_snoc.mpr (.inl hs)
  cases phase with
  | closed =>
    intro f hf
    rcases mem_snoc.mp hf with hf | heq
    · obtain ⟨y, hy, hlt⟩ := hverdict f hf
      exact ⟨y, hold hy, hlt⟩
    · cases heq
      exact ⟨x, hold hx, hother (by decide)⟩
  | failing =>
    obtain ⟨f, hf, hlast⟩ := hverdict
    have hfx : f ≤ x := WithBot.coe_le_coe.mp (hnoticed f hf)
    refine ⟨x, hold hx, fun y hy => ?_⟩
    rcases hy.imp mem_snoc.mp mem_snoc.mp with (hy | heq) | (hy | heq)
    · exact (hlast y (.inl hy)).trans hfx
    · cases heq
      exact htx
    · exact (hlast y (.inr hy)).trans hfx
    · cases heq
      exact htx
  | maintained =>
    obtain ⟨⟨f, hf, hlast⟩, hafter⟩ := hverdict
    constructor
    · cases sight with
      | recovery =>
        obtain ⟨f', hf', hle⟩ := htimely (fun hphase => by cases hphase)
          (WithBot.coe_lt_coe.mpr (hother (by decide)))
        rcases le_total f f' with hff | hff
        · refine ⟨f', hold hf', fun y hy => ?_⟩
          rcases mem_snoc.mp hy with hy | heq
          · exact (hlast y hy).trans hff
          · cases heq
            exact hle
        · refine ⟨f, hold hf, fun y hy => ?_⟩
          rcases mem_snoc.mp hy with hy | heq
          · exact hlast y hy
          · cases heq
            exact hle.trans hff
      | _ =>
        refine ⟨f, hold hf, fun y hy => ?_⟩
        rcases mem_snoc.mp hy with hy | heq
        · exact hlast y hy
        · cases heq
    · intro f' hf'
      rcases mem_snoc.mp hf' with hf' | heq
      · obtain ⟨y, hy, hlt⟩ := hafter f' hf'
        exact ⟨y, hy.imp hold hold, hlt⟩
      · cases heq
        exact ⟨x, .inr (hold hx), hother (by decide)⟩

theorem see_of_le (h : t ≤ e.last) : e.see sight t = e := if_pos h

/-- A later sight in time puts an episode where it should be. -/
theorem Follows.later (h : e.Follows seen) (hlater : ¬ t ≤ e.last) (htimely : e.Timely seen sight t) :
    Verdict (seen ++ [(sight, t)]) (e.see sight t).phase := by
  have hbefore : ∀ f, (.failure, f) ∈ seen → f < t := fun f hf =>
    WithBot.coe_lt_coe.mp ((h.noticed f hf).trans_lt (not_le.mp hlater))
  have hold : ∀ {s}, s ∈ seen → s ∈ seen ++ [(sight, t)] := fun hs => mem_snoc.mpr (.inl hs)
  unfold see
  rw [if_neg hlater]
  cases sight with
  | failure =>
    refine ⟨t, mem_snoc.mpr (.inr rfl), fun y hy => ?_⟩
    have hy' : (.recovery, y) ∈ seen ∨ (.maintenance, y) ∈ seen := by
      simpa [mem_snoc] using hy
    by_contra hlt
    exact hlater (htimely y hy' (not_le.mp hlt))
  | recovery =>
    by_cases hclosed : e.phase = .closed
    · have hverdict := h.verdict
      dsimp only
      rw [if_pos hclosed]
      rw [hclosed] at hverdict ⊢
      exact hverdict.closed_snoc (by decide)
    · dsimp only
      rw [if_neg hclosed]
      intro f hf
      rcases mem_snoc.mp hf with hf | heq
      · exact ⟨t, mem_snoc.mpr (.inr rfl), hbefore f hf⟩
      · cases heq
  | maintenance =>
    by_cases hclosed : e.phase = .closed
    · have hverdict := h.verdict
      dsimp only
      rw [if_pos hclosed]
      rw [hclosed] at hverdict ⊢
      exact hverdict.closed_snoc (by decide)
    · dsimp only
      rw [if_neg hclosed]
      have hfailed : ∃ f, (.failure, f) ∈ seen ∧ ∀ y, (.recovery, y) ∈ seen → y ≤ f := by
        have hverdict := h.verdict
        cases hphase : e.phase with
        | closed => exact absurd hphase hclosed
        | failing =>
          rw [hphase] at hverdict
          obtain ⟨f, hf, hlast⟩ := hverdict
          exact ⟨f, hf, fun y hy => hlast y (.inl hy)⟩
        | maintained =>
          rw [hphase] at hverdict
          exact hverdict.1
      obtain ⟨f, hf, hlast⟩ := hfailed
      refine ⟨⟨f, hold hf, fun y hy => ?_⟩, fun f' hf' => ?_⟩
      · rcases mem_snoc.mp hy with hy | heq
        · exact hlast y hy
        · cases heq
      · rcases mem_snoc.mp hf' with hf' | heq
        · exact ⟨t, .inr (mem_snoc.mpr (.inr rfl)), hbefore f' hf'⟩
        · cases heq

theorem Follows.verdict_see (h : e.Follows seen) (hdistinct : Distinct (seen ++ [(sight, t)]))
    (htimely : e.Timely seen sight t) :
    Verdict (seen ++ [(sight, t)]) (e.see sight t).phase := by
  by_cases hpast : t ≤ e.last
  · rw [see_of_le hpast]
    exact h.past hpast hdistinct htimely
  · exact h.later hpast htimely

theorem last_le_see (e : Episode τ) (sight : Sight) (t : τ) : e.last ≤ (e.see sight t).last := by
  by_cases hpast : t ≤ e.last
  · rw [see_of_le hpast]
  · have hlt := (not_le.mp hpast).le
    unfold see
    rw [if_neg hpast]
    cases sight with
    | failure => exact hlt
    | recovery => by_cases hclosed : e.phase = .closed <;> simp [hclosed, hlt]
    | maintenance => by_cases hclosed : e.phase = .closed <;> simp [hclosed, hlt]

theorem le_last_see_failure (e : Episode τ) (t : τ) : t ≤ (e.see .failure t).last := by
  by_cases hpast : t ≤ e.last
  · rwa [see_of_le hpast]
  · unfold see
    rw [if_neg hpast]

/-- What an episode noticed last put it into its phase. -/
theorem Follows.latest_see (h : e.Follows seen) (sight : Sight) (t : τ) :
    ((e.see sight t).phase = .closed ∧ (e.see sight t).last = ⊥) ∨
      ∃ x, (Phase.sight (e.see sight t).phase, x) ∈ seen ++ [(sight, t)] ∧
        (e.see sight t).last = x := by
  have hkept : (e.phase = .closed ∧ e.last = ⊥) ∨
      ∃ x, (Phase.sight e.phase, x) ∈ seen ++ [(sight, t)] ∧ e.last = x :=
    h.latest.imp_right fun ⟨x, hx, hlast⟩ => ⟨x, mem_snoc.mpr (.inl hx), hlast⟩
  by_cases hpast : t ≤ e.last
  · rw [see_of_le hpast]
    exact hkept
  · unfold see
    rw [if_neg hpast]
    cases sight with
    | failure => exact .inr ⟨t, mem_snoc.mpr (.inr rfl), rfl⟩
    | recovery =>
      by_cases hclosed : e.phase = .closed
      · simp only [if_pos hclosed]
        exact hkept
      · simp only [if_neg hclosed]
        exact .inr ⟨t, mem_snoc.mpr (.inr rfl), rfl⟩
    | maintenance =>
      by_cases hclosed : e.phase = .closed
      · simp only [if_pos hclosed]
        exact hkept
      · simp only [if_neg hclosed]
        exact .inr ⟨t, mem_snoc.mpr (.inr rfl), rfl⟩

/-- A sight in time keeps an episode in step. -/
theorem Follows.see (h : e.Follows seen) (hdistinct : Distinct (seen ++ [(sight, t)]))
    (htimely : e.Timely seen sight t) :
    (e.see sight t).Follows (seen ++ [(sight, t)]) where
  verdict := h.verdict_see hdistinct htimely
  noticed f hf := by
    rcases mem_snoc.mp hf with hf | heq
    · exact (h.noticed f hf).trans (last_le_see e sight t)
    · cases heq
      exact le_last_see_failure e _
  latest := h.latest_see sight t

/-- A sight that does not come in time leaves an episode where it should not be. -/
theorem Follows.timely_of_verdict (h : e.Follows seen)
    (hverdict : Verdict (seen ++ [(sight, t)]) (e.see sight t).phase) : e.Timely seen sight t := by
  cases sight with
  | maintenance => trivial
  | failure =>
    intro x hx hlt
    by_contra hpast
    unfold Episode.see at hverdict
    rw [if_neg hpast] at hverdict
    obtain ⟨f, hf, hlast⟩ := hverdict
    have hxf : x ≤ f := hlast x (hx.imp (fun h => mem_snoc.mpr (.inl h)) fun h => mem_snoc.mpr (.inl h))
    rcases mem_snoc.mp hf with hf | heq
    · have hft : f < t := WithBot.coe_lt_coe.mp ((h.noticed f hf).trans_lt (not_le.mp hpast))
      exact absurd hxf (not_le.mpr (hft.trans hlt))
    · cases heq
      exact absurd hxf (not_le.mpr hlt)
  | recovery =>
    intro hopen hlt
    by_contra hnone
    push Not at hnone
    rw [see_of_le hlt.le] at hverdict
    refine hopen (hverdict.unique fun f hf => ?_)
    rcases mem_snoc.mp hf with hf | heq
    · exact ⟨t, mem_snoc.mpr (.inr rfl), hnone f hf⟩
    · cases heq

/-- Sights that each come in time. -/
def TimelyRun : Episode τ → List (Sight × τ) → List (Sight × τ) → Prop
  | _, _, [] => True
  | e, seen, s :: rest => e.Timely seen s.1 s.2 ∧ TimelyRun (e.see s.1 s.2) (seen ++ [s]) rest

theorem timelyRun_append (e : Episode τ) (seen sights later : List (Sight × τ)) :
    TimelyRun e seen (sights ++ later) ↔
      TimelyRun e seen sights ∧ TimelyRun (e.seeAll sights) (seen ++ sights) later := by
  induction sights generalizing e seen with
  | nil => simp [TimelyRun, seeAll]
  | cons s rest ih =>
    have hrest := ih (e.see s.1 s.2) (seen ++ [s])
    rw [List.append_assoc, List.singleton_append] at hrest
    rw [List.cons_append, TimelyRun, TimelyRun, hrest, and_assoc]
    rfl

omit [LinearOrder τ] in
theorem Distinct.subset {others : List (Sight × τ)} (h : Distinct others)
    (hsub : ∀ s ∈ seen, s ∈ others) : Distinct seen :=
  fun s hs s' hs' heq => h s (hsub s hs) s' (hsub s' hs') heq

theorem Follows.seeAll (h : e.Follows seen) (hdistinct : Distinct (seen ++ sights))
    (htimely : TimelyRun e seen sights) :
    (e.seeAll sights).Follows (seen ++ sights) := by
  induction sights generalizing e seen with
  | nil => rwa [List.append_nil]
  | cons s rest ih =>
    rw [List.append_cons] at hdistinct ⊢
    have hfirst := hdistinct.subset fun x => List.mem_append_left rest
    exact ih (h.see hfirst htimely.1) hdistinct htimely.2

/-- An episode stands where it should after every sight of a run exactly when each comes in time. -/
theorem Follows.timelyRun_iff (h : e.Follows seen) (hdistinct : Distinct (seen ++ sights)) :
    TimelyRun e seen sights ↔
      ∀ early, early <+: sights → Verdict (seen ++ early) (e.seeAll early).phase := by
  induction sights generalizing e seen with
  | nil =>
    refine iff_of_true trivial fun early hearly => ?_
    rw [List.prefix_nil.mp hearly, List.append_nil]
    exact h.verdict
  | cons s rest ih =>
    rw [List.append_cons] at hdistinct
    have hfirst := hdistinct.subset fun x => List.mem_append_left rest
    constructor
    · rintro ⟨htimely, hrest⟩ early hearly
      rcases List.prefix_cons_iff.mp hearly with rfl | ⟨later, rfl, hlater⟩
      · rw [List.append_nil]
        exact h.verdict
      · rw [List.append_cons]
        exact (ih (h.see hfirst htimely) hdistinct).mp hrest later hlater
    · intro hverdict
      have htimely := h.timely_of_verdict (hverdict [s] (List.prefix_append [s] rest))
      refine ⟨htimely, (ih (h.see hfirst htimely) hdistinct).mpr fun later hlater => ?_⟩
      have hboth := hverdict (s :: later) ((List.prefix_cons_inj s).mpr hlater)
      rwa [List.append_cons] at hboth

/-- Sights in the order of their times each come in time. -/
theorem Follows.timelyRun_of_sorted (h : e.Follows seen)
    (hsorted : sights.Pairwise fun s s' => s.2 < s'.2)
    (hlater : ∀ s ∈ seen, ∀ s' ∈ sights, s.2 < s'.2) (hdistinct : Distinct (seen ++ sights)) :
    TimelyRun e seen sights := by
  induction sights generalizing e seen with
  | nil => trivial
  | cons s rest ih =>
    obtain ⟨sight, t⟩ := s
    rw [List.append_cons] at hdistinct
    have hfirst := hdistinct.subset fun x => List.mem_append_left rest
    obtain ⟨hhead, hrest⟩ := List.pairwise_cons.mp hsorted
    have htimely : e.Timely seen sight t := by
      cases sight with
      | maintenance => trivial
      | failure =>
        rintro x (hx | hx) hlt
        · exact absurd (hlater _ hx _ List.mem_cons_self) hlt.asymm
        · exact absurd (hlater _ hx _ List.mem_cons_self) hlt.asymm
      | recovery =>
        intro hopen hlt
        obtain ⟨hclosed, -⟩ | ⟨x, hx, hlast⟩ := h.latest
        · exact absurd hclosed hopen
        · rw [hlast, WithBot.coe_lt_coe] at hlt
          exact absurd (hlater _ hx _ List.mem_cons_self) hlt.asymm
    refine ⟨htimely, ih (h.see hfirst htimely) hrest ?_ hdistinct⟩
    intro s' hs' s'' hs''
    rcases mem_snoc.mp hs' with hs' | rfl
    · exact hlater s' hs' s'' (List.mem_cons_of_mem _ hs'')
    · exact hhead s'' hs''

end Episode

end SellerAgents.Concurrent
