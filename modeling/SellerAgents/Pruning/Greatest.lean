import Mathlib.Data.List.Basic

namespace Pruning

variable {α : Type}

/-- Which elements of a set a rule takes out, given the set. -/
abbrev Rule (α : Type) : Type := List α → α → Bool

/-- A rule that takes out of a smaller set what it takes out of a larger one. -/
def Rule.Antitone (rule : Rule α) : Prop :=
  ∀ s t : List α, s ⊆ t → ∀ x, rule t x = true → rule s x = true

/-- One pass of the rules, each on what the ones before it have left. -/
def pass (rules : List (Rule α)) (s : List α) : List α :=
  rules.foldl (fun s rule => s.filter fun x => !rule s x) s

/-- Passes of the rules until one takes nothing out; `fuel` bounds their number. -/
def passes (rules : List (Rule α)) : Nat → List α → List α
  | 0, s => s
  | fuel + 1, s => if (pass rules s).length = s.length then s else passes rules fuel (pass rules s)

/-- What is left when no rule takes anything out any more. -/
def prune (rules : List (Rule α)) (s : List α) : List α := passes rules s.length s

/-- No rule takes anything out of a set. -/
def Closed (rules : List (Rule α)) (s : List α) : Prop :=
  ∀ rule ∈ rules, ∀ x ∈ s, rule s x = false

variable {rules : List (Rule α)} {s t : List α}

theorem pass_sublist (rules : List (Rule α)) (s : List α) : (pass rules s).Sublist s := by
  induction rules generalizing s with
  | nil => exact List.Sublist.refl s
  | cons rule rest ih => exact (ih _).trans List.filter_sublist

theorem passes_sublist (rules : List (Rule α)) (fuel : Nat) (s : List α) :
    (passes rules fuel s).Sublist s := by
  induction fuel generalizing s with
  | zero => exact List.Sublist.refl s
  | succ fuel ih =>
    rw [passes]
    split
    · exact List.Sublist.refl s
    · exact (ih _).trans (pass_sublist rules s)

theorem prune_sublist (rules : List (Rule α)) (s : List α) : (prune rules s).Sublist s :=
  passes_sublist rules s.length s

/-- A pass that takes nothing out has met a closed set. -/
theorem closed_of_pass (h : (pass rules s).length = s.length) : Closed rules s := by
  induction rules generalizing s with
  | nil => exact fun rule hrule => absurd hrule List.not_mem_nil
  | cons first rest ih =>
    have hrest := (pass_sublist rest (s.filter fun x => !first s x)).length_le
    have hfirst := List.length_filter_le (fun x => !first s x) s
    change (pass rest (s.filter fun x => !first s x)).length = s.length at h
    have hsame : s.filter (fun x => !first s x) = s :=
      List.filter_sublist.eq_of_length (Nat.le_antisymm hfirst (h ▸ hrest))
    rw [hsame] at h
    intro rule hrule x hx
    obtain rfl | hrule := List.mem_cons.mp hrule
    · have hkept : x ∈ s.filter fun x => !rule s x := hsame.symm ▸ hx
      simpa using (List.mem_filter.mp hkept).2
    · exact ih h rule hrule x hx

theorem closed_passes (rules : List (Rule α)) {fuel : Nat} (h : s.length ≤ fuel) :
    Closed rules (passes rules fuel s) := by
  induction fuel generalizing s with
  | zero =>
    have hnil : s = [] := List.eq_nil_of_length_eq_zero (Nat.le_zero.mp h)
    subst hnil
    exact fun _ _ x hx => absurd hx List.not_mem_nil
  | succ fuel ih =>
    rw [passes]
    split
    · rename_i hsame
      exact closed_of_pass hsame
    · rename_i hless
      have hle := (pass_sublist rules s).length_le
      exact ih (by omega)

/-- What is left is closed. -/
theorem closed_prune (rules : List (Rule α)) (s : List α) : Closed rules (prune rules s) :=
  closed_passes rules (Nat.le_refl _)

/-- A pass keeps a closed part. -/
theorem subset_pass (hanti : ∀ rule ∈ rules, Rule.Antitone rule) (hclosed : Closed rules t)
    (h : t ⊆ s) : t ⊆ pass rules s := by
  induction rules generalizing s with
  | nil => exact h
  | cons first rest ih =>
    refine ih (fun rule hrule => hanti rule (List.mem_cons_of_mem _ hrule))
      (fun rule hrule => hclosed rule (List.mem_cons_of_mem _ hrule)) fun x hx => ?_
    refine List.mem_filter.mpr ⟨h hx, ?_⟩
    cases hrule : first s x with
    | false => rfl
    | true =>
      have hsmall := hanti first List.mem_cons_self t s h x hrule
      rw [hclosed first List.mem_cons_self x hx] at hsmall
      cases hsmall

/-- What is left is the greatest closed part. -/
theorem subset_prune (hanti : ∀ rule ∈ rules, Rule.Antitone rule) (hclosed : Closed rules t)
    (h : t ⊆ s) : t ⊆ prune rules s := by
  have hpasses : ∀ fuel s, t ⊆ s → t ⊆ passes rules fuel s := by
    intro fuel
    induction fuel with
    | zero => exact fun _ h => h
    | succ fuel ih =>
      intro s h
      rw [passes]
      split
      · exact h
      · exact ih _ (subset_pass hanti hclosed h)
  exact hpasses _ _ h

theorem closed_congr {rules' : List (Rule α)} (hrules : ∀ rule, rule ∈ rules ↔ rule ∈ rules') :
    Closed rules s ↔ Closed rules' s :=
  ⟨fun h rule hrule => h rule ((hrules rule).mpr hrule), fun h rule hrule => h rule ((hrules rule).mp hrule)⟩

/-- The order of the rules and of the elements does not matter. -/
theorem mem_prune_congr {rules' : List (Rule α)} (hanti : ∀ rule ∈ rules, Rule.Antitone rule)
    (hrules : ∀ rule, rule ∈ rules ↔ rule ∈ rules') (hs : ∀ x, x ∈ s ↔ x ∈ t) (x : α) :
    x ∈ prune rules s ↔ x ∈ prune rules' t := by
  have hanti' : ∀ rule ∈ rules', Rule.Antitone rule := fun rule hrule =>
    hanti rule ((hrules rule).mpr hrule)
  refine ⟨fun hx => ?_, fun hx => ?_⟩
  · exact subset_prune hanti' ((closed_congr hrules).mp (closed_prune rules s))
      (fun y hy => (hs y).mp ((prune_sublist rules s).subset hy)) hx
  · exact subset_prune hanti ((closed_congr hrules).mpr (closed_prune rules' t))
      (fun y hy => (hs y).mpr ((prune_sublist rules' t).subset hy)) hx

end Pruning
