import Mathlib.Data.List.Pairwise
import Mathlib.Tactic.Basic

namespace Relational

variable {ρ κ : Type}

/-- `UPDATE … SET … WHERE …`. -/
def updateWhere (p : ρ → Bool) (f : ρ → ρ) (rows : List ρ) : List ρ :=
  rows.map fun row => if p row then f row else row

variable {rows : List ρ} {k : κ} {row : ρ} {p q : ρ → Bool} {key : ρ → Option κ} {f : ρ → ρ}

theorem mem_updateWhere :
    row ∈ updateWhere p f rows ↔
      (row ∈ rows ∧ p row = false) ∨ ∃ old ∈ rows, p old = true ∧ f old = row := by
  simp only [updateWhere, List.mem_map]
  constructor
  · rintro ⟨old, hmem, hold⟩
    by_cases hp : p old = true
    · rw [if_pos hp] at hold
      exact .inr ⟨old, hmem, hp, hold⟩
    · rw [if_neg hp] at hold
      subst hold
      exact .inl ⟨hmem, by simpa using hp⟩
  · rintro (⟨hmem, hp⟩ | ⟨old, hmem, hp, hold⟩)
    · exact ⟨row, hmem, by simp [hp]⟩
    · exact ⟨old, hmem, by simp [hp, hold]⟩

theorem updateWhere_of_none (h : ∀ row ∈ rows, p row = false) : updateWhere p f rows = rows := by
  unfold updateWhere
  calc rows.map (fun row => if p row then f row else row) = rows.map id :=
        List.map_congr_left fun row hmem => by simp [h row hmem]
    _ = rows := List.map_id rows

theorem map_updateWhere {α : Type} (g : ρ → α)
    (hkeep : ∀ row ∈ rows, p row = true → g (f row) = g row) :
    (updateWhere p f rows).map g = rows.map g := by
  simp only [updateWhere, List.map_map]
  apply List.map_congr_left
  intro row hmem
  by_cases hp : p row = true
  · simp [hp, hkeep row hmem hp]
  · simp [hp]

/-- An update that keeps a column commutes with a selection by it. -/
theorem filter_updateWhere {g : ρ → Bool} (rows : List ρ)
    (h : ∀ row, p row = true → g (f row) = g row) :
    (updateWhere p f rows).filter g = updateWhere p f (rows.filter g) := by
  have hstep : ∀ row, g (if p row then f row else row) = g row := by
    intro row
    split
    · exact h row ‹_›
    · rfl
  induction rows with
  | nil => rfl
  | cons row rest ih =>
    rw [updateWhere, List.map_cons, List.filter_cons, hstep, ← updateWhere, ih, List.filter_cons]
    split
    · rfl
    · rfl

/-- The row that is looked up under the update's own condition is the updated one. -/
theorem find?_updateWhere_self (hfind : rows.find? p = some row) (hkeep : p (f row) = true) :
    (updateWhere p f rows).find? p = some (f row) := by
  induction rows with
  | nil => simp at hfind
  | cons first rest ih =>
    rw [updateWhere, List.map_cons]
    by_cases hp : p first = true
    · rw [List.find?_cons_of_pos hp, Option.some.injEq] at hfind
      subst hfind
      rw [if_pos hp, List.find?_cons_of_pos hkeep]
    · rw [List.find?_cons_of_neg hp] at hfind
      rw [if_neg hp, List.find?_cons_of_neg hp]
      exact ih hfind

/-- A lookup that neither sees the old nor the new rows of an update is as before. -/
theorem find?_updateWhere_other (h : ∀ row ∈ rows, p row = true → q row = false ∧ q (f row) = false) :
    (updateWhere p f rows).find? q = rows.find? q := by
  induction rows with
  | nil => rfl
  | cons first rest ih =>
    have hrest := ih fun row hmem => h row (List.mem_cons_of_mem _ hmem)
    rw [updateWhere, List.map_cons, List.find?_cons, List.find?_cons]
    rw [updateWhere] at hrest
    by_cases hp : p first = true
    · obtain ⟨hold, hnew⟩ := h first List.mem_cons_self hp
      rw [if_pos hp, hold, hnew, hrest]
    · rw [if_neg hp, hrest]

/-- An update that takes rows out of a count does not raise it. -/
theorem countP_updateWhere_le (hoff : ∀ row ∈ rows, q row = true → p (f row) = false) :
    (updateWhere q f rows).countP p ≤ rows.countP p := by
  unfold updateWhere
  rw [List.countP_map]
  refine List.countP_mono_left fun row hmem hp => ?_
  by_cases hq : q row = true
  · simp [hq, hoff row hmem hq] at hp
  · simpa [hq] using hp

/-- An update that takes a counted row out of a count lowers it. -/
theorem countP_updateWhere_lt (hmem : row ∈ rows) (hq : q row = true) (hp : p row = true)
    (hoff : ∀ row ∈ rows, q row = true → p (f row) = false) :
    (updateWhere q f rows).countP p < rows.countP p := by
  induction rows with
  | nil => cases hmem
  | cons first rest ih =>
    have hrest : ∀ row ∈ rest, q row = true → p (f row) = false :=
      fun row hmem => hoff row (List.mem_cons_of_mem _ hmem)
    have hle := countP_updateWhere_le hrest
    rw [updateWhere, List.map_cons, ← updateWhere, List.countP_cons, List.countP_cons]
    rcases List.mem_cons.mp hmem with rfl | hmem
    · rw [if_pos hq, hoff row List.mem_cons_self hq, hp]
      simp only [Bool.false_eq_true, if_false, if_true]
      omega
    · have hlt := ih hmem hrest
      by_cases hfirst : q first = true
      · rw [if_pos hfirst, hoff first List.mem_cons_self hfirst]
        simp only [Bool.false_eq_true, if_false]
        omega
      · rw [if_neg hfirst]
        omega

/-- A unique index on `key`; rows without a key are not indexed. -/
def UniqueBy (key : ρ → Option κ) (rows : List ρ) : Prop :=
  rows.Pairwise fun a b => key a = none ∨ key a ≠ key b

instance [DecidableEq κ] (key : ρ → Option κ) (rows : List ρ) : Decidable (UniqueBy key rows) :=
  inferInstanceAs (Decidable (List.Pairwise _ rows))

theorem uniqueBy_nil (key : ρ → Option κ) : UniqueBy key [] := List.Pairwise.nil

/-- Two rows under one indexed key are one row. -/
theorem UniqueBy.eq_of_key (h : UniqueBy key rows) {a b : ρ} (ha : a ∈ rows) (hb : b ∈ rows)
    (hka : key a = some k) (hkb : key b = some k) : a = b := by
  by_contra hne
  have hsymm : Std.Symm fun x y => key x = none ∨ key x ≠ key y := ⟨fun x y hxy => by
    by_cases hy : key y = none
    · exact .inl hy
    · refine .inr fun heq => ?_
      rcases hxy with hx | hx
      · exact hy (heq.trans hx)
      · exact hx heq.symm⟩
  rcases List.Pairwise.forall h ha hb hne with hnone | hdiff
  · simp [hka] at hnone
  · exact hdiff (hka.trans hkb.symm)

/-- The check an insert makes against the index. -/
def Fresh (key : ρ → Option κ) (row : ρ) (rows : List ρ) : Prop :=
  ∀ other ∈ rows, key row = none ∨ key other ≠ key row

instance [DecidableEq κ] (key : ρ → Option κ) (row : ρ) (rows : List ρ) :
    Decidable (Fresh key row rows) :=
  inferInstanceAs (Decidable (∀ other ∈ rows, _))

theorem UniqueBy.insert (h : UniqueBy key rows) (hfresh : Fresh key row rows) :
    UniqueBy key (rows ++ [row]) := by
  refine List.pairwise_append.mpr ⟨h, List.pairwise_singleton _ _, ?_⟩
  intro a ha b hb
  rw [List.mem_singleton] at hb
  subst hb
  rcases hfresh a ha with hnone | hdiff
  · by_cases hka : key a = none
    · exact .inl hka
    · exact .inr (by rw [hnone]; exact hka)
  · exact .inr hdiff

/-- An update that keeps a row's key or takes it out of the index keeps the index. -/
theorem UniqueBy.updateWhere (h : UniqueBy key rows)
    (hkey : ∀ row ∈ rows, p row = true → key (f row) = none ∨ key (f row) = key row) :
    UniqueBy key (updateWhere p f rows) := by
  have hnew : ∀ row ∈ rows, key (if p row then f row else row) = none ∨
      key (if p row then f row else row) = key row := by
    intro row hmem
    by_cases hp : p row = true
    · simpa [hp] using hkey row hmem hp
    · simp [hp]
  refine List.pairwise_map.mpr (List.Pairwise.imp_of_mem ?_ h)
  intro a b ha hb hab
  rcases hnew a ha with ha' | ha'
  · exact .inl ha'
  · rcases hab with hnone | hdiff
    · exact .inl (ha'.trans hnone)
    · by_cases hnone : key a = none
      · exact .inl (ha'.trans hnone)
      · refine .inr fun heq => ?_
        rcases hnew b hb with hb' | hb'
        · exact hnone (ha'.symm.trans (heq.trans hb'))
        · exact hdiff (ha'.symm.trans (heq.trans hb'))

/-- A rewriting of the rows that keeps their keys keeps the index. -/
theorem UniqueBy.map (h : UniqueBy key rows) (hkey : ∀ row ∈ rows, key (f row) = key row) :
    UniqueBy key (rows.map f) := by
  refine List.pairwise_map.mpr (List.Pairwise.imp_of_mem ?_ h)
  intro a b ha hb hab
  rw [hkey a ha, hkey b hb]
  exact hab

/-- Under a unique index an update by key rewrites the one row that has it. -/
theorem UniqueBy.find_eq_some (h : UniqueBy key rows)
    (hp : ∀ row ∈ rows, p row = true → key row = some k) (hmem : row ∈ rows) (hrow : p row = true) :
    rows.find? p = some row := by
  cases hfind : rows.find? p with
  | none => simp [List.find?_eq_none.mp hfind row hmem] at hrow
  | some found =>
    have hfound := List.mem_of_find?_eq_some hfind
    have heq := h.eq_of_key hfound hmem (hp found hfound (List.find?_some hfind)) (hp row hmem hrow)
    rw [heq]

/-- An update by key rewrites the row that is found and leaves all others. -/
theorem UniqueBy.mem_updateWhere (h : UniqueBy key rows)
    (hp : ∀ row ∈ rows, p row = true → key row = some k) (hfind : rows.find? p = some row)
    {other : ρ} :
    other ∈ Relational.updateWhere p f rows ↔ (other ∈ rows ∧ p other = false) ∨ other = f row := by
  have hmem := List.mem_of_find?_eq_some hfind
  have hrow := List.find?_some hfind
  rw [Relational.mem_updateWhere]
  constructor
  · rintro (hother | ⟨old, hold, hpold, rfl⟩)
    · exact .inl hother
    · rw [h.eq_of_key hold hmem (hp old hold hpold) (hp row hmem hrow)]
      exact .inr rfl
  · rintro (hother | rfl)
    · exact .inl hother
    · exact .inr ⟨row, hmem, hrow, rfl⟩

end Relational
