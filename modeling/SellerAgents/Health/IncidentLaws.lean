import SellerAgents.Health.IncidentTable

open SellerAgents.Concurrent (Episode Phase Sight)

namespace SellerAgents.Health

open Subscriptions (Date)

variable {Id Digest : Type} [LinearOrder Id] {t : List (IncidentRow Id Digest)}
  {s k : Digest} {run : HealthRun Id} {e : Episode (Stamp Id)}

/-- The scope that a run is about. -/
def RunEffect.InScope (s : Digest) : RunEffect Digest → Prop
  | .silent => True
  | .healthy incidentScope => incidentScope = s
  | .maintenance incidentScope => incidentScope = s
  | .failure incidentScope _ _ => incidentScope = s

/-- What a run shows the episode of a key. -/
def RunEffect.sight [DecidableEq Digest] (k : Digest) : RunEffect Digest → Option Sight
  | .silent => none
  | .healthy _ => some .recovery
  | .maintenance _ => some .maintenance
  | .failure _ incidentKey _ => if incidentKey = k then some .failure else none

/-- A table whose incidents are all of one scope. -/
structure Sound (s : Digest) (t : List (IncidentRow Id Digest)) : Prop where
  ids : t.map (·.id) = List.range t.length
  scope : ∀ row ∈ t, row.incidentScopeSha256 = s
  stands : ∀ k, ∃ e, Stands (rowsOf t k) e

theorem Sound.nodup (h : Sound s t) : (t.map (·.id)).Nodup := h.ids ▸ List.nodup_range

variable {row : IncidentRow Id Digest} {g : IncidentRow Id Digest → IncidentRow Id Digest}
  {runs : List (HealthRun Id)} {effect : RunEffect Digest}

omit [LinearOrder Id] in
theorem mem_rowsOf :
    row ∈ rowsOf t k ↔ row ∈ t ∧ row.incidentKeySha256 = k := Iff.rfl

omit [LinearOrder Id] in
/-- A pass over a table that keeps the keys changes the rows of each key apart. -/
theorem mem_rowsOf_map (hkey : ∀ row, (g row).incidentKeySha256 = row.incidentKeySha256)
    {r : IncidentRow Id Digest} :
    r ∈ rowsOf (t.map g) k ↔ ∃ row ∈ rowsOf t k, g row = r := by
  rw [mem_rowsOf, List.mem_map]
  constructor
  · rintro ⟨⟨row, hrow, rfl⟩, hk⟩
    exact ⟨row, ⟨hrow, (hkey row).symm.trans hk⟩, rfl⟩
  · rintro ⟨row, ⟨hrow, hk⟩, rfl⟩
    exact ⟨⟨row, hrow, rfl⟩, (hkey row).trans hk⟩

omit [LinearOrder Id] in
theorem rowsOf_map_id (hkey : ∀ row, (g row).incidentKeySha256 = row.incidentKeySha256)
    (hid : ∀ row ∈ rowsOf t k, g row = row) : rowsOf (t.map g) k = rowsOf t k := by
  ext r
  rw [mem_rowsOf_map hkey]
  constructor
  · rintro ⟨row, hrow, rfl⟩
    rwa [hid row hrow]
  · intro hr
    exact ⟨r, hr, hid r hr⟩

omit [LinearOrder Id] in
theorem rowsOf_map_replaced (hkey : ∀ row, (g row).incidentKeySha256 = row.incidentKeySha256)
    {a : IncidentRow Id Digest} (ha : a ∈ rowsOf t k)
    (hid : ∀ row ∈ rowsOf t k, row ≠ a → g row = row) :
    rowsOf (t.map g) k = replaced (rowsOf t k) a (g a) := by
  ext r
  rw [mem_rowsOf_map hkey]
  constructor
  · rintro ⟨row, hrow, rfl⟩
    by_cases heq : row = a
    · exact .inl (by rw [heq])
    · rw [hid row hrow heq]
      exact .inr ⟨hrow, heq⟩
  · rintro (rfl | ⟨hr, hne⟩)
    · exact ⟨a, ha, rfl⟩
    · exact ⟨r, hr, hid r hr hne⟩

/-- A closed episode does not notice a recovery or a maintenance. -/
theorem see_closed {sight : Sight} {stamp : Stamp Id} (hclosed : e.phase = .closed)
    (hsight : sight ≠ .failure) : e.see sight stamp = e := by
  unfold Episode.see
  split
  · rfl
  · cases sight with
    | failure => exact absurd rfl hsight
    | recovery => rfl
    | maintenance => rfl

variable [DecidableEq Digest]

/-- A run that speaks of the scope shows every key what it says. -/
theorem scopeTable_stands (hs : Sound s t) (run : HealthRun Id) {state : ObservedState}
    (hstate : state ≠ .FAILURE) (h : Stands (rowsOf t k) e) :
    Stands (rowsOf (scopeTable t s run state) k) (e.see state.sight run.stamp) := by
  have hsight : state.sight ≠ .failure := by cases state <;> simp_all [ObservedState.sight]
  have hkey : ∀ row : IncidentRow Id Digest,
      (if row.incidentScopeSha256 = s && isActiveIncidentStatus row.status then
        row.seenBy run state else row).incidentKeySha256 = row.incidentKeySha256 := by
    intro row
    split
    · exact (observation_kept row row run state).1
    · rfl
  have hterminal : ∀ row : IncidentRow Id Digest, isActiveIncidentStatus row.status = false →
      (if row.incidentScopeSha256 = s && isActiveIncidentStatus row.status then
        row.seenBy run state else row) = row := by
    intro row hrow
    rw [hrow, Bool.and_false, if_neg (by decide)]
  unfold scopeTable
  cases h with
  | absent empty =>
    rw [rowsOf_map_id hkey fun row hrow => absurd hrow (empty ▸ Set.notMem_empty row), empty,
      see_closed rfl hsight]
    exact .absent rfl
  | settled row mem terminal latest =>
    rw [rowsOf_map_id hkey fun row hrow => hterminal row (terminal row hrow),
      see_closed rfl hsight]
    exact .settled row mem terminal latest
  | live row mem live others =>
    rw [rowsOf_map_replaced hkey mem fun r hr hne => hterminal r ((others r hr).resolve_left hne).1,
      if_pos (by simp [hs.scope row mem.1, live.active])]
    exact Stands.seenBy mem live others run state

omit [LinearOrder Id] in
theorem activeByKey_some {a : IncidentRow Id Digest} (h : activeByKey t k = some a) :
    a ∈ rowsOf t k ∧ isActiveIncidentStatus a.status = true := by
  have hp := List.find?_some h
  rw [Bool.and_eq_true, decide_eq_true_eq] at hp
  exact ⟨⟨List.mem_of_find?_eq_some h, hp.1⟩, hp.2⟩

omit [LinearOrder Id] in
theorem activeByKey_none (h : activeByKey t k = none) :
    ∀ row ∈ rowsOf t k, isActiveIncidentStatus row.status = false := by
  intro row hrow
  have hnot := List.find?_eq_none.mp h row hrow.1
  simpa [hrow.2] using hnot

omit [LinearOrder Id] [DecidableEq Digest] in
theorem mem_rowsOf_append {r : IncidentRow Id Digest} :
    r ∈ rowsOf (t ++ [row]) k ↔ r ∈ rowsOf t k ∨ (r = row ∧ row.incidentKeySha256 = k) := by
  rw [mem_rowsOf, mem_rowsOf, List.mem_append, List.mem_singleton]
  constructor
  · rintro ⟨hr | rfl, hk⟩
    · exact .inl ⟨hr, hk⟩
    · exact .inr ⟨rfl, hk⟩
  · rintro (⟨hr, hk⟩ | ⟨rfl, hk⟩)
    · exact ⟨.inl hr, hk⟩
    · exact ⟨.inr rfl, hk⟩

omit [DecidableEq Digest] in
/-- A failure opens an incident for a key whose incidents have all been settled before. -/
theorem newIncident_stands (root : Option BaselineContourKey) (run : HealthRun Id)
    (hbefore : ∀ r ∈ rowsOf t k,
      isActiveIncidentStatus r.status = false ∧ r.lastObserved < run.stamp) :
    Stands (rowsOf (t ++ [newIncident t s k run root]) k)
      { phase := .failing, last := run.stamp } := by
  refine Stands.of_live (mem_rowsOf_append.mpr (.inr ⟨rfl, rfl⟩)) (.inl rfl) ?_ rfl rfl
  intro r hr
  rcases mem_rowsOf_append.mp hr with hr | ⟨rfl, -⟩
  · exact .inr (hbefore r hr)
  · exact .inl rfl

/-- The latest terminal incident of a key that has only such. -/
theorem latestTerminalByKey_of_terminal
    (hterminal : ∀ r ∈ rowsOf t k, isActiveIncidentStatus r.status = false)
    (hrow : row ∈ rowsOf t k) (hlatest : ∀ r ∈ rowsOf t k, r.lastObserved ≤ row.lastObserved) :
    ∃ terminal, latestTerminalByKey t k = some terminal ∧
      terminal.lastObserved = row.lastObserved := by
  have hmem : ∀ {r}, r ∈ rowsOf t k → r ∈ t.filter fun row =>
      row.incidentKeySha256 = k && !isActiveIncidentStatus row.status := by
    intro r hr
    exact List.mem_filter.mpr ⟨hr.1, by simp [hr.2, hterminal r hr]⟩
  cases hfind : latestTerminalByKey t k with
  | none =>
    have hempty := List.argmax_eq_none.mp hfind
    have hnot := hmem hrow
    rw [hempty] at hnot
    cases hnot
  | some terminal =>
    refine ⟨terminal, rfl, le_antisymm (hlatest terminal ?_) ?_⟩
    · have hin := List.mem_filter.mp (List.argmax_mem hfind)
      rw [Bool.and_eq_true, decide_eq_true_eq] at hin
      exact ⟨hin.1, hin.2.1⟩
    · exact List.le_of_mem_argmax (hmem hrow) hfind

/-- A failure shows its key a failure, and the others nothing. -/
theorem failTable_stands (hs : Sound s t) (run : HealthRun Id) (key : Digest)
    (root : Option BaselineContourKey) (h : Stands (rowsOf t k) e) :
    Stands (rowsOf (failTable t s key run root) k)
      (if key = k then e.see .failure run.stamp else e) := by
  unfold failTable
  cases hactive : activeByKey t key with
  | some a =>
    obtain ⟨ha, hstatus⟩ := activeByKey_some hactive
    have hkey : ∀ row : IncidentRow Id Digest,
        (if row.id = a.id then (observation a run .FAILURE).2 row else row).incidentKeySha256 =
          row.incidentKeySha256 := by
      intro row
      split
      · exact (observation_kept a row run .FAILURE).1
      · rfl
    have hother : ∀ row ∈ t, row ≠ a →
        (if row.id = a.id then (observation a run .FAILURE).2 row else row) = row := by
      intro row hrow hne
      exact if_neg fun hid => hne (List.inj_on_of_nodup_map hs.nodup hrow ha.1 hid)
    dsimp only
    unfold updateRow
    by_cases hk : key = k
    · subst hk
      rw [if_pos rfl]
      cases h with
      | absent empty => exact absurd ha (empty ▸ Set.notMem_empty a)
      | settled row mem terminal latest =>
        rw [terminal a ha] at hstatus
        cases hstatus
      | live row mem live others =>
        obtain rfl | ⟨hterminal, -⟩ := others a ha
        · rw [rowsOf_map_replaced hkey ha fun r hr => hother r hr.1, if_pos rfl]
          exact Stands.seenBy ha live others run .FAILURE
        · rw [hterminal] at hstatus
          cases hstatus
    · rw [if_neg hk, rowsOf_map_id hkey fun row hrow => hother row hrow.1 ?_]
      · exact h
      · rintro rfl
        exact hk (ha.2.symm.trans hrow.2)
  | none =>
    have hterminal := activeByKey_none hactive
    dsimp only
    by_cases hk : key = k
    · subst hk
      rw [if_pos rfl]
      cases h with
      | absent empty =>
        have hnone : latestTerminalByKey t key = none := by
          rw [latestTerminalByKey, List.argmax_eq_none, List.filter_eq_nil_iff]
          intro row hrow hp
          rw [Bool.and_eq_true, decide_eq_true_eq] at hp
          exact Set.notMem_empty row (empty ▸ (⟨hrow, hp.1⟩ : row ∈ rowsOf t key))
        rw [hnone, Option.any_none, if_neg (by decide)]
        refine newIncident_stands root run fun r hr => ?_
        rw [empty] at hr
        exact absurd hr (Set.notMem_empty r)
      | settled row mem terminal latest =>
        obtain ⟨last, hlast, hsame⟩ := latestTerminalByKey_of_terminal terminal mem latest
        rw [hlast, Option.any_some, hsame]
        unfold Episode.see
        by_cases hlate : run.stamp ≤ row.lastObserved
        · rw [if_pos (by simpa using hlate), if_pos (WithBot.coe_le_coe.mpr hlate)]
          exact .settled row mem terminal latest
        · rw [if_neg (by simpa using hlate), if_neg (mt WithBot.coe_le_coe.mp hlate)]
          refine newIncident_stands root run fun r hr => ⟨terminal r hr, ?_⟩
          exact (latest r hr).trans_lt (not_le.mp hlate)
      | live row mem live others =>
        have hactiveRow := live.active
        rw [hterminal row mem] at hactiveRow
        cases hactiveRow
    · rw [if_neg hk]
      split
      · exact h
      · have hrows : rowsOf (t ++ [newIncident t s key run root]) k = rowsOf t k := by
          ext r
          rw [mem_rowsOf_append]
          exact or_iff_left fun h => hk h.2
        rw [hrows]
        exact h

/-- A run shows the episode of a key what it says of it. -/
theorem effectTable_stands (hs : Sound s t) (run : HealthRun Id) (hscope : effect.InScope s)
    (h : Stands (rowsOf t k) e) :
    Stands (rowsOf (effectTable t run effect) k)
      ((effect.sight k).elim e fun sight => e.see sight run.stamp) := by
  cases effect with
  | silent => exact h
  | healthy incidentScope =>
    obtain rfl : incidentScope = s := hscope
    exact scopeTable_stands hs run (by decide) h
  | maintenance incidentScope =>
    obtain rfl : incidentScope = s := hscope
    exact scopeTable_stands hs run (by decide) h
  | failure incidentScope incidentKey root =>
    obtain rfl : incidentScope = s := hscope
    have hfail := failTable_stands hs run incidentKey root h
    rw [RunEffect.sight]
    by_cases hk : incidentKey = k
    · rw [if_pos hk] at hfail ⊢
      exact hfail
    · rw [if_neg hk] at hfail ⊢
      exact hfail

/-- The observation that a run makes. -/
def RunEffect.Says : RunEffect Digest → ObservedState → Prop
  | .silent, _ => False
  | .healthy _, state => state = .HEALTHY
  | .maintenance _, state => state = .MAINTENANCE
  | .failure _ _ _, state => state = .FAILURE

/-- A row and what one run has made of it. -/
def Evolves (run : HealthRun Id) (effect : RunEffect Digest) (row row' : IncidentRow Id Digest) :
    Prop :=
  row' = row ∨
    (isActiveIncidentStatus row.status = true ∧ ∃ state, effect.Says state ∧
      row' = row.seenBy run state)

/-- A run changes the rows one by one, and a failure may add one. -/
theorem effectTable_rows (hs : Sound s t) (run : HealthRun Id) (effect : RunEffect Digest) :
    ∃ g : IncidentRow Id Digest → IncidentRow Id Digest,
      (∀ row ∈ t, Evolves run effect row (g row)) ∧
      (effectTable t run effect = t.map g ∨
        ∃ incidentScope incidentKey root, effect = .failure incidentScope incidentKey root ∧
          effectTable t run effect = t.map g ++ [newIncident t incidentScope incidentKey run root]) := by
  have hscopeRow : ∀ incidentScope state, effect.Says state → ∀ row ∈ t,
      Evolves run effect row
        (if row.incidentScopeSha256 = incidentScope && isActiveIncidentStatus row.status then
          row.seenBy run state else row) := by
    intro incidentScope state hsays row _
    split
    · rename_i hcond
      rw [Bool.and_eq_true] at hcond
      exact .inr ⟨hcond.2, state, hsays, rfl⟩
    · exact .inl rfl
  cases effect with
  | silent => exact ⟨id, fun row _ => .inl rfl, .inl (List.map_id t).symm⟩
  | healthy incidentScope => exact ⟨_, hscopeRow incidentScope .HEALTHY rfl, .inl rfl⟩
  | maintenance incidentScope => exact ⟨_, hscopeRow incidentScope .MAINTENANCE rfl, .inl rfl⟩
  | failure incidentScope incidentKey root =>
    dsimp only [effectTable]
    unfold failTable
    cases hactive : activeByKey t incidentKey with
    | some a =>
      obtain ⟨ha, hstatus⟩ := activeByKey_some hactive
      refine ⟨fun row => if row.id = a.id then (observation a run .FAILURE).2 row else row, ?_,
        .inl rfl⟩
      intro row hrow
      by_cases hid : row.id = a.id
      · obtain rfl := List.inj_on_of_nodup_map hs.nodup hrow ha.1 hid
        exact .inr ⟨hstatus, .FAILURE, rfl, if_pos rfl⟩
      · exact .inl (if_neg hid)
    | none =>
      refine ⟨id, fun row _ => .inl rfl, ?_⟩
      rw [List.map_id]
      dsimp only
      split
      · exact .inl rfl
      · exact .inr ⟨_, _, _, rfl, rfl⟩

omit [DecidableEq Digest] in
theorem Evolves.kept {row' : IncidentRow Id Digest} (h : Evolves run effect row row') :
    row'.incidentKeySha256 = row.incidentKeySha256 ∧
      row'.incidentScopeSha256 = row.incidentScopeSha256 ∧ row'.id = row.id := by
  obtain rfl | ⟨-, state, -, rfl⟩ := h
  · exact ⟨rfl, rfl, rfl⟩
  · exact observation_kept row row run state

theorem effectTable_sound (hs : Sound s t) (run : HealthRun Id) (hscope : effect.InScope s) :
    Sound s (effectTable t run effect) := by
  obtain ⟨g, hg, htable⟩ := effectTable_rows hs run effect
  have hids : (t.map g).map (·.id) = List.range t.length := by
    rw [List.map_map, ← hs.ids]
    exact List.map_congr_left fun row hrow => (hg row hrow).kept.2.2
  have hscopes : ∀ row ∈ t.map g, row.incidentScopeSha256 = s := by
    intro row' hrow'
    obtain ⟨row, hrow, rfl⟩ := List.mem_map.mp hrow'
    exact (hg row hrow).kept.2.1.trans (hs.scope row hrow)
  have hstands : ∀ k, ∃ e, Stands (rowsOf (effectTable t run effect) k) e := fun k =>
    (hs.stands k).elim fun e he => ⟨_, effectTable_stands hs run hscope he⟩
  obtain heq | ⟨incidentScope, incidentKey, root, rfl, heq⟩ := htable
  · exact ⟨by rw [heq, List.length_map, hids], by rwa [heq], hstands⟩
  · obtain rfl : incidentScope = s := hscope
    refine ⟨?_, ?_, hstands⟩
    · rw [heq, List.map_append, hids, List.length_append, List.length_map, List.length_singleton,
        List.range_succ]
      rfl
    · intro row hrow
      rw [heq, List.mem_append, List.mem_singleton] at hrow
      rcases hrow with hrow | rfl
      · exact hscopes row hrow
      · rfl

/-- What holds of every row that runs alone have made. -/
structure RowSound (runs : List (HealthRun Id)) (row : IncidentRow Id Digest) : Prop where
  status : row.Live ∨ row.status = .RESOLVED
  seen : row.lastSeen ≤ row.lastObserved
  resolved : row.status = .RESOLVED → ∃ run ∈ runs, run.healthState = .HEALTHY ∧
    row.resolvedByRunId = some run.id ∧ row.resolvedAt = some run.completedAt ∧
    row.lastSeen < run.stamp

omit [DecidableEq Digest] in
theorem RowSound.mono {all : List (HealthRun Id)} (h : RowSound runs row)
    (hall : ∀ run ∈ runs, run ∈ all) : RowSound all row where
  status := h.status
  seen := h.seen
  resolved hresolved := by
    obtain ⟨run, hrun, hby⟩ := h.resolved hresolved
    exact ⟨run, hall run hrun, hby⟩

omit [DecidableEq Digest] in
theorem RowSound.live (h : RowSound runs row) (hactive : isActiveIncidentStatus row.status = true) :
    row.Live := by
  rcases h.status with hlive | hresolved
  · exact hlive
  · rw [hresolved] at hactive
    cases hactive

omit [DecidableEq Digest] in
theorem failed_lastSeen (h : row.lastSeen < run.stamp) :
    (row.failed run).lastSeen = run.stamp := by
  have hlatest : row.latestFailure run = true := isAfter_iff.mpr h
  rw [IncidentRow.lastSeen, IncidentRow.failed, hlatest]
  rfl

omit [DecidableEq Digest] in
/-- What a run makes of a row stays sound, and does not go back. -/
theorem Evolves.rowSound {row' : IncidentRow Id Digest} (h : Evolves run effect row row')
    (hrow : RowSound runs row) (hrun : run ∈ runs)
    (hhealthy : effect.Says .HEALTHY → run.healthState = .HEALTHY) :
    RowSound runs row' ∧ row.lastObserved ≤ row'.lastObserved ∧ row.lastSeen ≤ row'.lastSeen := by
  obtain rfl | ⟨hactive, state, hsays, rfl⟩ := h
  · exact ⟨hrow, le_refl _, le_refl _⟩
  · have hlive := hrow.live hactive
    by_cases hafter : row.lastObserved < run.stamp
    · have hseen := hrow.seen.trans_lt hafter
      obtain ⟨hresolved, hmaintained, hfailed⟩ := seenBy_of_after hafter hlive
      cases state with
      | HEALTHY =>
        rw [hresolved]
        exact ⟨⟨.inr rfl, hseen.le, fun _ => ⟨run, hrun, hhealthy hsays, rfl, rfl, hseen⟩⟩,
          hafter.le, le_refl _⟩
      | MAINTENANCE =>
        rw [hmaintained]
        exact ⟨⟨.inl (.inr rfl), hseen.le, fun h => by cases h⟩, hafter.le, le_refl _⟩
      | FAILURE =>
        have hstatus : (row.failed run).status = .OPEN := by
          rcases hlive with hstatus | hstatus <;> simp [IncidentRow.failed, hstatus]
        have hlast := failed_lastSeen hseen
        rw [hfailed]
        refine ⟨⟨.inl (.inl hstatus), hlast.le, fun h => ?_⟩, hafter.le, ?_⟩
        · rw [hstatus] at h
          cases h
        · rw [hlast]
          exact hseen.le
    · rw [seenBy_of_not_after hafter]
      exact ⟨hrow, le_refl _, le_refl _⟩

end SellerAgents.Health
