import Mathlib.Data.List.Chain
import Mathlib.Data.List.MinMax

namespace Relational

variable {ρ σ : Type}

/-- The journal of one state: its moves are numbered from one, the first starts from nothing, each
later one starts where the one before it ended, and the last one ended in the state. -/
structure Journal (number : ρ → Nat) (source : ρ → Option σ) (target : ρ → σ) (rows : List ρ)
    (state : σ) : Prop where
  numbered : rows.map number = List.range' 1 rows.length
  first : ∀ row ∈ rows.head?, source row = none
  chained : rows.IsChain fun row next => source next = some (target row)
  last : rows.getLast?.map target = some state

variable {number : ρ → Nat} {source : ρ → Option σ} {target : ρ → σ} {rows : List ρ} {state : σ}

theorem Journal.single {row : ρ} (hnumber : number row = 1) (hsource : source row = none) :
    Journal number source target [row] (target row) where
  numbered := by simp [hnumber]
  first := by simp [hsource]
  chained := List.isChain_singleton row
  last := rfl

/-- A journal ends in its last move. -/
theorem Journal.exists_concat (h : Journal number source target rows state) :
    ∃ before last, rows = before ++ [last] ∧ target last = state := by
  rcases List.eq_nil_or_concat rows with rfl | ⟨before, last, rfl⟩
  · simpa using h.last
  · exact ⟨before, last, List.concat_eq_append, by simpa using h.last⟩

theorem Journal.number_lt {before : List ρ} {last : ρ}
    (h : Journal number source target (before ++ [last]) state) :
    number last = before.length + 1 ∧ ∀ row ∈ before, number row ≤ before.length := by
  have hnumbered := h.numbered
  rw [List.length_append, List.length_singleton, List.range'_concat, List.map_append] at hnumbered
  obtain ⟨hbefore, hlast⟩ := List.append_inj hnumbered (by simp)
  constructor
  · simp only [List.map_cons, List.map_nil, List.cons.injEq] at hlast
    omega
  · intro row hrow
    have hmem : number row ∈ List.range' 1 before.length := hbefore ▸ List.mem_map_of_mem hrow
    rw [List.mem_range'_1] at hmem
    omega

/-- `COALESCE(MAX(number),0)` of a journal is its length. -/
theorem foldr_max_range' (start length : Nat) (hstart : 0 < start) (hlength : 0 < length) :
    (List.range' start length).foldr max 0 = start + length - 1 := by
  induction length generalizing start with
  | zero => omega
  | succ length ih =>
    rw [List.range'_succ, List.foldr_cons]
    cases length with
    | zero => simp
    | succ length =>
      rw [ih (start + 1) (by omega) (by omega)]
      omega

theorem Journal.max_number (h : Journal number source target rows state) :
    (rows.map number).foldr max 0 = rows.length := by
  obtain ⟨before, last, rfl, -⟩ := h.exists_concat
  rw [h.numbered, foldr_max_range' 1 _ (by omega) (by simp)]
  omega

/-- Among the moves of any kind the one of the highest number is the last. -/
theorem Journal.argmax_number {before : List ρ} {last : ρ}
    (h : Journal number source target (before ++ [last]) state) {p : ρ → Bool}
    (hlast : p last = true) : ((before ++ [last]).filter p).argmax number = some last := by
  obtain ⟨hnumber, hbefore⟩ := h.number_lt
  rw [List.filter_append, List.filter_cons_of_pos hlast, List.filter_nil, List.argmax_concat]
  cases hmax : (before.filter p).argmax number with
  | none => rfl
  | some row =>
    have hrow := hbefore row (List.mem_of_mem_filter (List.argmax_mem hmax))
    simp only [ite_eq_left_iff]
    omega

theorem Journal.concat {row : ρ} (h : Journal number source target rows state)
    (hnumber : number row = rows.length + 1) (hsource : source row = some state) :
    Journal number source target (rows ++ [row]) (target row) where
  numbered := by
    rw [List.length_append, List.length_singleton, List.range'_concat, List.map_append, h.numbered,
      List.map_singleton, hnumber]
    congr 2
    omega
  first := by
    obtain ⟨before, last, rfl, -⟩ := h.exists_concat
    have hfirst := h.first
    cases before with
    | nil => exact hfirst
    | cons first rest => exact hfirst
  chained := by
    refine h.chained.append (List.isChain_singleton row) fun last hlast next hnext => ?_
    have hstate := h.last
    rw [Option.mem_def.mp hlast, Option.map_some, Option.some.injEq] at hstate
    rw [List.head?_cons, Option.mem_some_iff] at hnext
    rw [← hnext, hsource, hstate]
  last := by simp

/-- The state before the last move is where the move before it ended. -/
theorem Journal.source_last {before : List ρ} {last : ρ}
    (h : Journal number source target (before ++ [last]) state) :
    source last = before.getLast?.map target := by
  rcases List.eq_nil_or_concat before with rfl | ⟨earlier, previous, rfl⟩
  · exact h.first last rfl
  · have hchained := h.chained
    rw [List.concat_eq_append] at hchained ⊢
    have hpair := (List.isChain_append.mp hchained).2.2 previous (by simp) last (by simp)
    simpa using hpair

end Relational
