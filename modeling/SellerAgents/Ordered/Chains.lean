import Mathlib.Data.List.Basic

namespace Ordered

variable {α : Type}

/-- The first element that meets a condition, and what follows it. -/
def first (q : α → Bool) : List α → Option (α × List α)
  | [] => none
  | a :: rest => if q a then some (a, rest) else first q rest

/-- Elements that meet the conditions in turn, each the first after the one before. -/
def chain (q : Nat → α → Bool) (l : List α) : Nat → Option (α × List α)
  | 0 => first (q 0) l
  | k + 1 => (chain q l k).bind fun found => first (q (k + 1)) found.2

/-- Some elements at increasing positions meet the conditions in turn, the last of them at position
`i`. -/
inductive EndsAt (q : Nat → α → Bool) (l : List α) : Nat → Nat → Prop where
  | start {i : Nat} {a : α} (at_ : l[i]? = some a) (holds : q 0 a = true) : EndsAt q l 0 i
  | next {k j i : Nat} {a : α} (earlier : EndsAt q l k j) (later : j < i) (at_ : l[i]? = some a)
      (holds : q (k + 1) a = true) : EndsAt q l (k + 1) i

theorem first_eq_none {q : α → Bool} {l : List α} (h : first q l = none) : ∀ a ∈ l, q a = false := by
  induction l with
  | nil =>
    intro a ha
    cases ha
  | cons b l ih =>
    unfold first at h
    by_cases hb : q b = true
    · rw [if_pos hb] at h
      cases h
    · rw [if_neg hb] at h
      intro a ha
      cases ha with
      | head => simpa using hb
      | tail _ ha => exact ih h a ha

theorem first_eq_some {q : α → Bool} {l : List α} {a : α} {rest : List α}
    (h : first q l = some (a, rest)) :
    ∃ before, l = before ++ a :: rest ∧ q a = true ∧ ∀ b ∈ before, q b = false := by
  induction l with
  | nil => cases h
  | cons b l ih =>
    unfold first at h
    by_cases hb : q b = true
    · rw [if_pos hb] at h
      cases h
      exact ⟨[], rfl, hb, fun c hc => absurd hc List.not_mem_nil⟩
    · rw [if_neg hb] at h
      obtain ⟨before, rfl, ha, hbefore⟩ := ih h
      refine ⟨b :: before, rfl, ha, fun c hc => ?_⟩
      cases hc with
      | head => simpa using hb
      | tail _ hc => exact hbefore c hc

theorem first_filter {q p : α → Bool} (h : ∀ a, q a = true → p a = true) (l : List α) :
    first q (l.filter p) = (first q l).map fun found => (found.1, found.2.filter p) := by
  induction l with
  | nil => rfl
  | cons a l ih =>
    by_cases hq : q a = true
    · rw [List.filter_cons_of_pos (h a hq), first, first, if_pos hq, if_pos hq]
      rfl
    · rw [first, if_neg hq, ← ih]
      by_cases hp : p a = true
      · rw [List.filter_cons_of_pos hp, first, if_neg hq]
      · rw [List.filter_cons_of_neg hp]

/-- A chain only depends on the elements that can be in it. -/
theorem chain_filter {q : Nat → α → Bool} {p : α → Bool} (h : ∀ k a, q k a = true → p a = true)
    (l : List α) (k : Nat) :
    chain q (l.filter p) k = (chain q l k).map fun found => (found.1, found.2.filter p) := by
  induction k with
  | zero => exact first_filter (h 0) l
  | succ k ih =>
    rw [chain, chain, ih]
    cases chain q l k with
    | none => rfl
    | some found => exact first_filter (h (k + 1)) found.2

variable {q : Nat → α → Bool} {l : List α}

theorem EndsAt.holds {k i : Nat} (h : EndsAt q l k i) : ∃ a, l[i]? = some a ∧ q k a = true := by
  cases h with
  | start at_ holds => exact ⟨_, at_, holds⟩
  | next _ _ at_ holds => exact ⟨_, at_, holds⟩

/-- No chain ends before the one that takes every element as early as it can. -/
theorem chain_spec (k : Nat) :
    (∀ a rest, chain q l k = some (a, rest) → ∃ before, l = before ++ a :: rest ∧
      EndsAt q l k before.length ∧ ∀ i, EndsAt q l k i → before.length ≤ i) ∧
    (chain q l k = none → ∀ i, ¬ EndsAt q l k i) := by
  induction k with
  | zero =>
    constructor
    · intro a rest h
      obtain ⟨before, hl, ha, hbefore⟩ := first_eq_some h
      refine ⟨before, hl, .start (by simp [hl]) ha, fun i hi => ?_⟩
      obtain ⟨b, hb, hq⟩ := hi.holds
      by_contra hlt
      rw [hl, List.getElem?_append_left (by omega)] at hb
      have hfalse := hbefore b (List.mem_of_getElem? hb)
      rw [hq] at hfalse
      cases hfalse
    · intro h i hi
      obtain ⟨b, hb, hq⟩ := hi.holds
      have hfalse := first_eq_none h b (List.mem_of_getElem? hb)
      rw [hq] at hfalse
      cases hfalse
  | succ k ih =>
    cases hprevious : chain q l k with
    | none =>
      rw [chain, hprevious, Option.bind_none]
      constructor
      · intro a rest h
        cases h
      · intro _ i hi
        cases hi with
        | next earlier _ _ _ => exact ih.2 hprevious _ earlier
    | some found =>
      obtain ⟨previous, tail⟩ := found
      obtain ⟨before, hl, hends, hleast⟩ := ih.1 previous tail hprevious
      -- What may follow the earliest chain stands behind it.
      have hbehind : ∀ i b, l[i]? = some b → before.length < i → b ∈ tail ∧
          ∃ offset, i = before.length + 1 + offset ∧ tail[offset]? = some b := by
        intro i b hb hlt
        have hoffset : tail[i - (before.length + 1)]? = some b := by
          rw [hl, List.getElem?_append_right (by omega)] at hb
          rw [← hb, show i - before.length = i - (before.length + 1) + 1 by omega,
            List.getElem?_cons_succ]
        exact ⟨List.mem_of_getElem? hoffset, i - (before.length + 1), by omega, hoffset⟩
      rw [chain, hprevious, Option.bind_some]
      dsimp only
      constructor
      · intro a rest h
        obtain ⟨between, htail, ha, hbetween⟩ := first_eq_some h
        refine ⟨before ++ previous :: between, by rw [hl, htail]; simp, ?_, fun i hi => ?_⟩
        · refine .next hends ?_ (by rw [hl, htail]; simp) ha
          simp
        · cases hi with
          | next earlier later at_ holds =>
            obtain ⟨hmem, offset, hi, hget⟩ := hbehind _ _ at_ (Nat.lt_of_le_of_lt (hleast _ earlier) later)
            by_contra hlt
            simp only [List.length_append, List.length_cons] at hlt
            rw [htail, List.getElem?_append_left (by omega)] at hget
            have hfalse := hbetween _ (List.mem_of_getElem? hget)
            rw [holds] at hfalse
            cases hfalse
      · intro h i hi
        cases hi with
        | next earlier later at_ holds =>
          obtain ⟨hmem, -⟩ := hbehind _ _ at_ (Nat.lt_of_le_of_lt (hleast _ earlier) later)
          have hfalse := first_eq_none h _ hmem
          rw [holds] at hfalse
          cases hfalse

end Ordered
