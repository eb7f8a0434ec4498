import Mathlib.Order.Nat
import SellerAgents.HealthRetention.CompactState

open Relational SellerAgents.Health

namespace SellerAgents.HealthRetention

variable {ρ δ : Type} [LinearOrder ρ]

section Sightings

variable {a b c : Sighting ρ}

theorem isAfter_iff : isAfter a b = true ↔
    b.observedAt < a.observedAt ∨ a.observedAt = b.observedAt ∧ b.runId < a.runId := by
  simp [isAfter]

theorem isAfter_irrefl (a : Sighting ρ) : isAfter a a = false := by
  simp [isAfter]

theorem isAfter_trans (hab : isAfter a b = true) (hbc : isAfter b c = true) :
    isAfter a c = true := by
  rw [isAfter_iff] at *
  rcases hab with hab | ⟨hab, hids⟩
  · rcases hbc with hbc | ⟨hbc, -⟩
    · exact .inl (hbc.trans hab)
    · exact .inl (hbc ▸ hab)
  · rcases hbc with hbc | ⟨hbc, hids'⟩
    · exact .inl (hab ▸ hbc)
    · exact .inr ⟨hab.trans hbc, hids'.trans hids⟩

theorem isAfter_asymm (h : isAfter a b = true) : isAfter b a = false := by
  by_contra hba
  rw [Bool.not_eq_false] at hba
  have haa := isAfter_trans h hba
  rw [isAfter_irrefl] at haa
  cases haa

/-- Of two different sightings one is after the other. -/
theorem isAfter_total (h : a ≠ b) : isAfter a b = true ∨ isAfter b a = true := by
  rw [isAfter_iff, isAfter_iff]
  obtain ⟨atA, runA⟩ := a
  obtain ⟨atB, runB⟩ := b
  rcases lt_trichotomy atA atB with hlt | rfl | hgt
  · exact .inr (.inl hlt)
  · rcases lt_trichotomy runA runB with hlt | rfl | hgt
    · exact .inr (.inr ⟨rfl, hlt⟩)
    · exact absurd rfl h
    · exact .inl (.inr ⟨rfl, hgt⟩)
  · exact .inl (.inl hgt)

theorem eq_of_not_isAfter (hab : isAfter a b = false) (hba : isAfter b a = false) : a = b := by
  by_contra hne
  rcases isAfter_total hne with h | h
  · rw [hab] at h
    cases h
  · rw [hba] at h
    cases h

/-- What is after one that is not before another is after the other too. -/
theorem isAfter_of_le (hab : isAfter a b = true) (hcb : isAfter c b = false) :
    isAfter a c = true := by
  by_cases hbc : b = c
  · exact hbc ▸ hab
  · rcases isAfter_total hbc with h | h
    · exact isAfter_trans hab h
    · rw [hcb] at h
      cases h

end Sightings

section Sorted

variable {rows : List (RecentState ρ δ)}

theorem rowLe_iff {a b : RecentState ρ δ} : rowLe a b = true ↔
    isAfter b.sighting a.sighting = true ∨ a.sighting = b.sighting ∧ a.slot ≤ b.slot := by
  simp [rowLe]

theorem rowLe_trans (a b c : RecentState ρ δ) (hab : rowLe a b = true) (hbc : rowLe b c = true) :
    rowLe a c = true := by
  rw [rowLe_iff] at *
  rcases hab with hab | ⟨hab, hslots⟩
  · rcases hbc with hbc | ⟨hbc, -⟩
    · exact .inl (isAfter_trans hbc hab)
    · exact .inl (hbc ▸ hab)
  · rcases hbc with hbc | ⟨hbc, hslots'⟩
    · exact .inl (hab ▸ hbc)
    · exact .inr ⟨hab.trans hbc, hslots.trans hslots'⟩

theorem rowLe_total (a b : RecentState ρ δ) : (rowLe a b || rowLe b a) = true := by
  rw [Bool.or_eq_true, rowLe_iff, rowLe_iff]
  by_cases h : a.sighting = b.sighting
  · rcases le_total a.slot b.slot with hle | hle
    · exact .inl (.inr ⟨h, hle⟩)
    · exact .inr (.inr ⟨h.symm, hle⟩)
  · exact (isAfter_total h).symm.imp .inl .inl

theorem not_isAfter_of_rowLe {a b : RecentState ρ δ} (h : rowLe a b = true) :
    isAfter a.sighting b.sighting = false := by
  rcases rowLe_iff.mp h with h | ⟨h, -⟩
  · exact isAfter_asymm h
  · rw [h]
    exact isAfter_irrefl _

theorem pairwise_sorted (rows : List (RecentState ρ δ)) :
    (rows.mergeSort rowLe).Pairwise fun a b => isAfter a.sighting b.sighting = false :=
  (List.pairwise_mergeSort rowLe_trans rowLe_total rows).imp not_isAfter_of_rowLe

/-- No row was seen before the first one. -/
theorem head_sorted (rows : List (RecentState ρ δ)) {first : RecentState ρ δ}
    (h : (rows.mergeSort rowLe).head? = some first) :
    ∀ row ∈ rows, isAfter first.sighting row.sighting = false := by
  intro row hmem
  obtain ⟨rest, heq⟩ := List.head?_eq_some_iff.mp h
  have hpairwise := pairwise_sorted rows
  have hmem : row ∈ rows.mergeSort rowLe := List.mem_mergeSort.mpr hmem
  rw [heq, List.mem_cons] at hmem
  rw [heq, List.pairwise_cons] at hpairwise
  rcases hmem with rfl | hmem
  · exact isAfter_irrefl _
  · exact hpairwise.1 row hmem

/-- No decisive row was seen after the latest one. -/
theorem latestDecisive_sorted {latest : RecentState ρ δ}
    (h : latestDecisive (rows.mergeSort rowLe) = some latest) :
    (latest ∈ rows ∧ latest.healthState ≠ .UNKNOWN) ∧
      ∀ row ∈ rows, row.healthState ≠ .UNKNOWN → isAfter row.sighting latest.sighting = false := by
  rw [latestDecisive] at h
  obtain ⟨before, heq⟩ := List.getLast?_eq_some_iff.mp h
  have hmem : ∀ row, row ∈ before ++ [latest] ↔ row ∈ rows ∧ row.healthState ≠ .UNKNOWN := by
    intro row
    rw [← heq, List.mem_filter, List.mem_mergeSort]
    simp
  refine ⟨(hmem latest).mp (by simp), fun row hrow hdecisive => ?_⟩
  have hpairwise := (pairwise_sorted rows).filter (·.healthState ≠ .UNKNOWN)
  rw [heq, List.pairwise_append] at hpairwise
  rcases List.mem_append.mp ((hmem row).mpr ⟨hrow, hdecisive⟩) with hbefore | hlast
  · exact hpairwise.2.2 row hbefore latest (by simp)
  · rw [List.mem_singleton.mp hlast]
    exact isAfter_irrefl _

theorem oldestUnknown_sorted {row : RecentState ρ δ}
    (h : oldestUnknown (rows.mergeSort rowLe) = some row) :
    row ∈ rows ∧ row.healthState = .UNKNOWN := by
  have hmem := List.mem_of_find?_eq_some h
  have hunknown := List.find?_some h
  rw [List.mem_mergeSort] at hmem
  exact ⟨hmem, by simpa using hunknown⟩

theorem all_decisive {row : RecentState ρ δ} (h : oldestUnknown (rows.mergeSort rowLe) = none)
    (hmem : row ∈ rows) : row.healthState ≠ .UNKNOWN := by
  have hnone := List.find?_eq_none.mp h row (List.mem_mergeSort.mpr hmem)
  simpa using hnone

end Sorted

section Recent

/-- A row holds what an observation was: its result, its state and its sighting. -/
structure RecentState.Shows (row : RecentState ρ δ) (seen : Incoming ρ δ) : Prop where
  result : row.normalizedResultSha256 = seen.normalizedResultSha256
  healthState : row.healthState = seen.observation.classification
  classificationBasis : row.classificationBasis = seen.observation.classificationBasis
  surfaceOutcome : row.surfaceOutcome = seen.observation.surfaceOutcome
  blocker : row.blocker = seen.observation.blocker
  summary : row.summary = compactNoSessionState seen.observation
  sighting : row.sighting = seen.sighting

/-- The observation of a greatest sighting among those that meet a condition. -/
def IsNewest (seen : List (Incoming ρ δ)) (p : Incoming ρ δ → Bool) (newest : Incoming ρ δ) : Prop :=
  (newest ∈ seen ∧ p newest = true) ∧
    ∀ other ∈ seen, p other = true → isAfter other.sighting newest.sighting = false

/-- What the recent rows of a scope keep of the observations that it has seen. -/
structure RecentOf (seen : List (Incoming ρ δ)) (rows : List (RecentState ρ δ)) : Prop where
  shows' : ∀ row ∈ rows, ∃ o ∈ seen, row.Shows o
  results : (rows.map (·.normalizedResultSha256)).Nodup
  slots : (rows.map (·.slot)).Nodup
  range : ∀ row ∈ rows, row.slot ∈ [1, 2, 3]
  newest : ∀ o, IsNewest seen Incoming.isDecisive o → ∃ row ∈ rows, row.Shows o

/-- What observations of one scope have in common. -/
structure Distinct (seen : List (Incoming ρ δ)) : Prop where
  runs : (seen.map (·.receipt.runId)).Nodup
  classified : ∀ a ∈ seen, ∀ b ∈ seen, a.normalizedResultSha256 = b.normalizedResultSha256 →
    a.observation.classification = b.observation.classification

variable {seen : List (Incoming ρ δ)} {rows : List (RecentState ρ δ)} {incoming : Incoming ρ δ}

omit [LinearOrder ρ] in
theorem Distinct.eq_of_sighting (h : Distinct seen) {a b : Incoming ρ δ} (ha : a ∈ seen)
    (hb : b ∈ seen) (heq : a.sighting = b.sighting) : a = b :=
  List.inj_on_of_nodup_map h.runs ha hb (congrArg Sighting.runId heq)

variable {o : Incoming ρ δ} {row : RecentState ρ δ}

omit [LinearOrder ρ] in
theorem Distinct.fresh (h : Distinct (seen ++ [incoming])) (ho : o ∈ seen) :
    o.sighting ≠ incoming.sighting := by
  intro heq
  have hruns := h.runs
  rw [List.map_append, List.nodup_append] at hruns
  exact hruns.2.2 _ (List.mem_map_of_mem ho) _ (List.mem_singleton_self _) (congrArg Sighting.runId heq)

/-- The newest observation before another came is the newest still unless the other is after it. -/
theorem IsNewest.of_append {p : Incoming ρ δ → Bool} (h : IsNewest (seen ++ [incoming]) p o)
    (hne : o ≠ incoming) : IsNewest seen p o := by
  obtain ⟨⟨hmem, hp⟩, hmax⟩ := h
  refine ⟨⟨?_, hp⟩, fun other hother => hmax other (List.mem_append_left _ hother)⟩
  rcases List.mem_append.mp hmem with hmem | hmem
  · exact hmem
  · exact absurd (List.mem_singleton.mp hmem) hne

omit [LinearOrder ρ] in
theorem RecentState.Shows.decisive (h : row.Shows o) :
    row.healthState ≠ .UNKNOWN ↔ o.isDecisive = true := by
  rw [h.healthState, Incoming.isDecisive, decide_eq_true_eq]

omit [LinearOrder ρ] in
theorem entry_shows (slot : Nat) : (incoming.entry slot).Shows incoming :=
  ⟨rfl, rfl, rfl, rfl, rfl, rfl, rfl⟩

/-- A row repeated by a later observation shows it. -/
theorem repeated_later (hresult : row.normalizedResultSha256 = incoming.normalizedResultSha256)
    (hafter : isAfter incoming.sighting row.sighting = true) :
    (row.repeated incoming true).Shows incoming := by
  refine ⟨hresult, rfl, rfl, rfl, rfl, rfl, ?_⟩
  have hat : (row.repeated incoming true).lastSeenAt = incoming.observedAt := by
    simp only [RecentState.repeated]
    split
    · rfl
    · rename_i hnot
      rcases isAfter_iff.mp hafter with hlt | ⟨heq, -⟩
      · exact absurd hlt hnot
      · exact heq.symm
  rw [RecentState.sighting, hat]
  rfl

/-- A row repeated by an earlier observation shows what it showed. -/
theorem repeated_earlier (h : row.Shows o) (hafter : isAfter incoming.sighting row.sighting = false) :
    (row.repeated incoming false).Shows o := by
  refine ⟨h.result, h.healthState, h.classificationBasis, h.surfaceOutcome, h.blocker, h.summary, ?_⟩
  have hat : (row.repeated incoming false).lastSeenAt = row.lastSeenAt := by
    simp only [RecentState.repeated]
    split
    · rename_i hlt
      rw [isAfter_iff.mpr (.inl hlt)] at hafter
      cases hafter
    · rfl
  rw [RecentState.sighting, hat]
  exact h.sighting

theorem repeated_shows (h : row.Shows o)
    (hresult : row.normalizedResultSha256 = incoming.normalizedResultSha256) :
    (row.repeated incoming (isAfter incoming.sighting row.sighting)).Shows incoming ∨
      (row.repeated incoming (isAfter incoming.sighting row.sighting)).Shows o := by
  cases hafter : isAfter incoming.sighting row.sighting with
  | true => exact .inl (repeated_later hresult hafter)
  | false => exact .inr (repeated_earlier h hafter)

omit [LinearOrder ρ] in
/-- Without a free slot all three are taken. -/
theorem full_of_freeSlot (h : freeSlot rows = none) :
    1 ∈ rows.map (·.slot) ∧ 2 ∈ rows.map (·.slot) ∧ 3 ∈ rows.map (·.slot) := by
  have hall := List.find?_eq_none.mp h
  have htaken : ∀ slot ∈ [1, 2, 3], slot ∈ rows.map (·.slot) := by
    intro slot hslot
    have hused := hall slot hslot
    simpa using hused
  exact ⟨htaken 1 (by simp), htaken 2 (by simp), htaken 3 (by simp)⟩

omit [LinearOrder ρ] in
theorem freeSlot_spec {slot : Nat} (h : freeSlot rows = some slot) :
    slot ∈ [1, 2, 3] ∧ slot ∉ rows.map (·.slot) := by
  refine ⟨List.mem_of_find?_eq_some h, ?_⟩
  have hfree := List.find?_some h
  simpa using hfree

theorem replacement_mem (h : replacement (rows.mergeSort rowLe) incoming = some row) :
    row ∈ rows := by
  have hmem : ((oldestUnknown (rows.mergeSort rowLe)).orElse fun _ => (rows.mergeSort rowLe).head?) =
      some row → row ∈ rows := by
    intro heq
    cases hunknown : oldestUnknown (rows.mergeSort rowLe) with
    | some oldest =>
      rw [hunknown] at heq
      cases heq
      exact (oldestUnknown_sorted hunknown).1
    | none =>
      rw [hunknown] at heq
      exact List.mem_mergeSort.mp (List.mem_of_head? heq)
  rw [replacement] at h
  split_ifs at h
  · exact hmem h
  · exact hmem h

/-- In a full scope a newest decisive result always gets a slot. -/
theorem replacement_newest (h : RecentOf seen rows) (hdistinct : Distinct (seen ++ [incoming]))
    (hnewest : IsNewest (seen ++ [incoming]) Incoming.isDecisive incoming)
    (hfull : freeSlot rows = none) :
    ∃ row ∈ rows, replacement (rows.mergeSort rowLe) incoming = some row ∧
      mayReplace (rows.mergeSort rowLe) incoming row = true := by
  have hdecisive := hnewest.1.2
  -- Every decisive row shows an observation that the incoming one is after.
  have hafter : ∀ row ∈ rows, row.healthState ≠ .UNKNOWN →
      isAfter incoming.sighting row.sighting = true := by
    intro row hmem hstate
    obtain ⟨o, ho, hshows⟩ := h.shows' row hmem
    have hbefore := hnewest.2 o (List.mem_append_left _ ho) (hshows.decisive.mp hstate)
    rw [hshows.sighting]
    rcases isAfter_total (hdistinct.fresh ho) with hlater | hlater
    · rw [hbefore] at hlater
      cases hlater
    · exact hlater
  have hadvances : (latestDecisive (rows.mergeSort rowLe)).all
      (fun row => isAfter incoming.sighting row.sighting) = true := by
    cases hlatest : latestDecisive (rows.mergeSort rowLe) with
    | none => rfl
    | some latest =>
      obtain ⟨⟨hmem, hstate⟩, -⟩ := latestDecisive_sorted hlatest
      exact hafter latest hmem hstate
  rw [replacement]
  simp only [hdecisive, hadvances, Bool.and_self, if_true, mayReplace, Bool.true_and]
  cases hunknown : oldestUnknown (rows.mergeSort rowLe) with
  | some row => exact ⟨row, (oldestUnknown_sorted hunknown).1, rfl, rfl⟩
  | none =>
    cases hhead : (rows.mergeSort rowLe).head? with
    | none =>
      rw [List.head?_eq_none_iff] at hhead
      have hempty : rows = [] := List.eq_nil_of_length_eq_zero (by
        rw [← @List.length_mergeSort _ rowLe, hhead]
        rfl)
      have hfirst := (full_of_freeSlot hfull).1
      rw [hempty] at hfirst
      cases hfirst
    | some row =>
      have hmem : row ∈ rows := List.mem_mergeSort.mp (List.mem_of_head? hhead)
      exact ⟨row, hmem, rfl, hafter row hmem (all_decisive hunknown hmem)⟩

/-- In a full scope no other result takes the slot of the newest decisive one. -/
theorem replacement_spares (h : RecentOf seen rows) (hdistinct : Distinct (seen ++ [incoming]))
    (hnewest : IsNewest (seen ++ [incoming]) Incoming.isDecisive o) (hfull : freeSlot rows = none)
    (hmem : row ∈ rows) (hshows : row.Shows o) :
    replacement (rows.mergeSort rowLe) incoming ≠ some row := by
  intro hreplaced
  have hstate : row.healthState ≠ .UNKNOWN := hshows.decisive.mpr hnewest.1.2
  rw [replacement] at hreplaced
  cases hdecisive : incoming.isDecisive with
  | true =>
    simp only [hdecisive, Bool.true_and, if_true] at hreplaced
    split at hreplaced
    · rename_i hadvances
      cases hlatest : latestDecisive (rows.mergeSort rowLe) with
      | none =>
        rw [latestDecisive, List.getLast?_eq_none_iff, List.filter_eq_nil_iff] at hlatest
        exact hlatest row (List.mem_mergeSort.mpr hmem) (by simpa using hstate)
      | some latest =>
        rw [hlatest] at hadvances
        have hlater := isAfter_of_le hadvances ((latestDecisive_sorted hlatest).2 row hmem hstate)
        have hearlier := hnewest.2 incoming (by simp) hdecisive
        rw [← hshows.sighting, hlater] at hearlier
        cases hearlier
    · cases hreplaced
  | false =>
    simp only [hdecisive, Bool.false_eq_true, if_false] at hreplaced
    cases hunknown : oldestUnknown (rows.mergeSort rowLe) with
    | some oldest =>
      rw [hunknown] at hreplaced
      cases hreplaced
      exact hstate (oldestUnknown_sorted hunknown).2
    | none =>
      rw [hunknown] at hreplaced
      have hhead := head_sorted rows hreplaced
      -- A decisive row other than the newest one would show the same observation.
      have hsame : ∀ other ∈ rows, other = row := by
        intro other hother
        obtain ⟨o', ho', hshows'⟩ := h.shows' other hother
        have hlate := hnewest.2 o' (List.mem_append_left _ ho')
          (hshows'.decisive.mp (all_decisive hunknown hother))
        have hearly := hhead other hother
        rw [hshows.sighting, hshows'.sighting] at hearly
        have heq := hdistinct.eq_of_sighting hnewest.1.1 (List.mem_append_left _ ho')
          (eq_of_not_isAfter hearly hlate)
        subst heq
        exact List.inj_on_of_nodup_map h.results hother hmem (hshows'.result.trans hshows.result.symm)
      obtain ⟨hone, htwo, -⟩ := full_of_freeSlot hfull
      obtain ⟨first, hfirst, hslot⟩ := List.mem_map.mp hone
      obtain ⟨second, hsecond, hslot'⟩ := List.mem_map.mp htwo
      rw [hsame first hfirst] at hslot
      rw [hsame second hsecond, hslot] at hslot'
      cases hslot'

omit [LinearOrder ρ] in
theorem shows_append (h : ∃ o ∈ seen, row.Shows o) :
    ∃ o ∈ seen ++ [incoming], row.Shows o := by
  obtain ⟨o, ho, hshows⟩ := h
  exact ⟨o, List.mem_append_left _ ho, hshows⟩

/-- A scope that changes no row keeps its newest decisive result. -/
theorem RecentOf.unchanged (h : RecentOf seen rows)
    (hnewest : ¬ IsNewest (seen ++ [incoming]) Incoming.isDecisive incoming) :
    RecentOf (seen ++ [incoming]) rows where
  shows' := fun row hmem => shows_append (h.shows' row hmem)
  results := h.results
  slots := h.slots
  range := h.range
  newest := fun o ho => h.newest o (ho.of_append fun heq => hnewest (heq ▸ ho))

/-- A new result in a free slot. -/
theorem RecentOf.inserts (h : RecentOf seen rows) {slot : Nat} (hfree : freeSlot rows = some slot)
    (hnew : ∀ row ∈ rows, row.normalizedResultSha256 ≠ incoming.normalizedResultSha256) :
    RecentOf (seen ++ [incoming]) (rows ++ [incoming.entry slot]) := by
  obtain ⟨hslot, hunused⟩ := freeSlot_spec hfree
  refine ⟨?_, ?_, ?_, ?_, ?_⟩
  · intro row hmem
    rcases List.mem_append.mp hmem with hmem | hmem
    · exact shows_append (h.shows' row hmem)
    · rw [List.mem_singleton.mp hmem]
      exact ⟨incoming, by simp, entry_shows slot⟩
  · rw [List.map_append, List.map_singleton, List.nodup_append]
    refine ⟨h.results, List.nodup_singleton _, ?_⟩
    rintro _ hmem _ hsingle heq
    obtain ⟨row, hrow, rfl⟩ := List.mem_map.mp hmem
    rw [List.mem_singleton.mp hsingle] at heq
    exact hnew row hrow heq
  · rw [List.map_append, List.map_singleton, List.nodup_append]
    refine ⟨h.slots, List.nodup_singleton _, ?_⟩
    rintro taken hmem _ hsingle rfl
    rw [List.mem_singleton.mp hsingle] at hmem
    exact hunused hmem
  · intro row hmem
    rcases List.mem_append.mp hmem with hmem | hmem
    · exact h.range row hmem
    · rw [List.mem_singleton.mp hmem]
      exact hslot
  · intro o ho
    by_cases hne : o = incoming
    · exact ⟨incoming.entry slot, by simp, hne ▸ entry_shows slot⟩
    · obtain ⟨row, hmem, hshows⟩ := h.newest o (ho.of_append hne)
      exact ⟨row, List.mem_append_left _ hmem, hshows⟩

/-- A result that is seen again. -/
theorem RecentOf.repeats (h : RecentOf seen rows) (hdistinct : Distinct (seen ++ [incoming]))
    {matching : RecentState ρ δ} (hmatching : matching ∈ rows)
    (hresult : matching.normalizedResultSha256 = incoming.normalizedResultSha256)
    {p : RecentState ρ δ → Bool} (hp : ∀ row ∈ rows, p row = true ↔
      row.normalizedResultSha256 = incoming.normalizedResultSha256) :
    RecentOf (seen ++ [incoming]) (updateWhere p
      (·.repeated incoming (isAfter incoming.sighting matching.sighting)) rows) := by
  have honly : ∀ row ∈ rows, p row = true → row = matching := fun row hrow hrow' =>
    List.inj_on_of_nodup_map h.results hrow hmatching (((hp row hrow).mp hrow').trans hresult.symm)
  have hupdated : matching.repeated incoming (isAfter incoming.sighting matching.sighting) ∈
      updateWhere p (·.repeated incoming (isAfter incoming.sighting matching.sighting)) rows :=
    mem_updateWhere.mpr (.inr ⟨matching, hmatching, (hp matching hmatching).mpr hresult, rfl⟩)
  obtain ⟨o, ho, hshows⟩ := h.shows' matching hmatching
  refine ⟨?_, ?_, ?_, ?_, ?_⟩
  · intro row hmem
    rcases mem_updateWhere.mp hmem with ⟨hmem, -⟩ | ⟨old, hold, hpold, rfl⟩
    · exact shows_append (h.shows' row hmem)
    · rw [honly old hold hpold]
      rcases repeated_shows hshows hresult with hnew | hkept
      · exact ⟨incoming, by simp, hnew⟩
      · exact ⟨o, List.mem_append_left _ ho, hkept⟩
  · rw [map_updateWhere]
    · exact h.results
    · exact fun _ _ _ => rfl
  · rw [map_updateWhere]
    · exact h.slots
    · exact fun _ _ _ => rfl
  · intro row hmem
    rcases mem_updateWhere.mp hmem with ⟨hmem, -⟩ | ⟨old, hold, -, rfl⟩
    · exact h.range row hmem
    · exact h.range old hold
  · intro newest hnewest
    have hclass : o.isDecisive = incoming.isDecisive := by
      have hclassified := hdistinct.classified o (List.mem_append_left _ ho) incoming (by simp)
        (hshows.result.symm.trans hresult)
      rw [Incoming.isDecisive, Incoming.isDecisive, hclassified]
    by_cases hne : newest = incoming
    · -- The matching row shows a decisive observation that the newest one is after.
      subst hne
      refine ⟨_, hupdated, ?_⟩
      have hbefore := hnewest.2 o (List.mem_append_left _ ho) (hclass.trans hnewest.1.2)
      have hafter : isAfter newest.sighting matching.sighting = true := by
        rw [hshows.sighting]
        rcases isAfter_total (hdistinct.fresh ho) with hlater | hlater
        · rw [hbefore] at hlater
          cases hlater
        · exact hlater
      rw [hafter]
      exact repeated_later hresult hafter
    · obtain ⟨row, hmem, hrow⟩ := h.newest newest (hnewest.of_append hne)
      by_cases hprow : p row = true
      · obtain rfl := honly row hmem hprow
        refine ⟨_, hupdated, ?_⟩
        have hdecisive : incoming.isDecisive = true :=
          hclass.symm.trans (hshows.decisive.mp (hrow.decisive.mpr hnewest.1.2))
        have hearlier := hnewest.2 incoming (by simp) hdecisive
        rw [← hrow.sighting] at hearlier
        rw [hearlier]
        exact repeated_earlier hrow hearlier
      · exact ⟨row, mem_updateWhere.mpr (.inl ⟨hmem, by simpa using hprow⟩), hrow⟩

/-- A new result in the slot of another. -/
theorem RecentOf.replaces (h : RecentOf seen rows) (hmem : row ∈ rows)
    (hnew : ∀ row ∈ rows, row.normalizedResultSha256 ≠ incoming.normalizedResultSha256)
    (hspared : ∀ o, IsNewest (seen ++ [incoming]) Incoming.isDecisive o → o ≠ incoming →
      ¬ row.Shows o) {p : RecentState ρ δ → Bool}
    (hp : ∀ old ∈ rows, p old = true ↔ old.slot = row.slot) :
    RecentOf (seen ++ [incoming]) (updateWhere p (fun old => incoming.entry old.slot) rows) := by
  have honly : ∀ old ∈ rows, p old = true → old = row := fun old hold hpold =>
    List.inj_on_of_nodup_map h.slots hold hmem ((hp old hold).mp hpold)
  refine ⟨?_, ?_, ?_, ?_, ?_⟩
  · intro found hfound
    rcases mem_updateWhere.mp hfound with ⟨hfound, -⟩ | ⟨old, hold, -, rfl⟩
    · exact shows_append (h.shows' found hfound)
    · exact ⟨incoming, by simp, entry_shows _⟩
  · rw [updateWhere, List.map_map]
    refine List.Nodup.map_on ?_ (h.slots.of_map _)
    intro a ha b hb heq
    simp only [Function.comp_apply] at heq
    split at heq
    · rename_i hpa
      split at heq
      · rename_i hpb
        rw [honly a ha hpa, honly b hb hpb]
      · exact absurd heq.symm (hnew b hb)
    · split at heq
      · exact absurd heq (hnew a ha)
      · exact List.inj_on_of_nodup_map h.results ha hb heq
  · rw [map_updateWhere]
    · exact h.slots
    · exact fun _ _ _ => rfl
  · intro found hfound
    rcases mem_updateWhere.mp hfound with ⟨hfound, -⟩ | ⟨old, hold, -, rfl⟩
    · exact h.range found hfound
    · exact h.range old hold
  · intro o ho
    by_cases hne : o = incoming
    · exact ⟨incoming.entry row.slot,
        mem_updateWhere.mpr (.inr ⟨row, hmem, (hp row hmem).mpr rfl, rfl⟩), hne ▸ entry_shows _⟩
    · obtain ⟨found, hfound, hshows⟩ := h.newest o (ho.of_append hne)
      refine ⟨found, mem_updateWhere.mpr (.inl ⟨hfound, ?_⟩), hshows⟩
      by_contra hpfound
      rw [honly found hfound (by simpa using hpfound)] at hshows
      exact hspared o ho hne hshows

end Recent

end SellerAgents.HealthRetention
