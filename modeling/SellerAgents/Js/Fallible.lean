import Mathlib.Tactic.Common

namespace SellerAgents.Js

section

variable {ε α β : Type}

theorem bind_eq_ok {x : Except ε α} {f : α → Except ε β} {b : β} :
    (x >>= f) = .ok b ↔ ∃ a, x = .ok a ∧ f a = .ok b := by
  cases x with
  | error e => exact iff_of_false (fun h => by cases h) fun ⟨a, h, _⟩ => by cases h
  | ok a => exact ⟨fun h => ⟨a, rfl, h⟩, fun ⟨_, ha, h⟩ => by cases ha; exact h⟩

theorem map_eq_ok {x : Except ε α} {f : α → β} {b : β} : x.map f = .ok b ↔ ∃ a, x = .ok a ∧ f a = b := by
  cases x with
  | error e => exact iff_of_false (fun h => by cases h) fun ⟨a, h, _⟩ => by cases h
  | ok a => exact ⟨fun h => ⟨a, rfl, Except.ok.inj h⟩, fun ⟨_, ha, h⟩ => by cases ha; exact congrArg _ h⟩

/-- A result is found past a check only where the check does not throw. -/
theorem check_eq_ok {c : Prop} [Decidable c] {e : ε} {f : α → Except ε β} {rest : Except ε β}
    {b : β} : (if c then throw e >>= f else rest) = .ok b ↔ ¬ c ∧ rest = .ok b := by
  by_cases hc : c
  · rw [if_pos hc]
    exact iff_of_false (fun h => by cases h) fun h => h.1 hc
  · rw [if_neg hc]
    exact (and_iff_right hc).symm

end

end SellerAgents.Js
