import Mathlib.Tactic.Basic

namespace SellerAgents.Js

/-- An object used as a map: its own properties in the order of their insertion. -/
abbrev Properties (κ α : Type) : Type := List (κ × α)

/-- The members of `Object.prototype`, which an object used as a map shows under keys that it does
not have. -/
def objectPrototypeMembers : List String :=
  ["constructor", "__defineGetter__", "__defineSetter__", "hasOwnProperty", "__lookupGetter__",
    "__lookupSetter__", "isPrototypeOf", "propertyIsEnumerable", "toString", "valueOf", "__proto__",
    "toLocaleString"]

namespace Properties

variable {κ α : Type} [DecidableEq κ]

/-- `object[key]`. -/
def get : Properties κ α → κ → Option α
  | [], _ => none
  | (name, value) :: rest, key => if name = key then some value else get rest key

/-- `object[key] = value`. -/
def set : Properties κ α → κ → α → Properties κ α
  | [], key, value => [(key, value)]
  | (name, old) :: rest, key, value =>
    if name = key then (name, value) :: rest else (name, old) :: set rest key value

@[simp] theorem get_set_self (object : Properties κ α) (key : κ) (value : α) :
    (object.set key value).get key = some value := by
  induction object with
  | nil => simp [set, get]
  | cons property rest ih =>
    obtain ⟨name, old⟩ := property
    by_cases hname : name = key
    · simp [set, get, hname]
    · simp [set, get, hname, ih]

theorem get_set_other (object : Properties κ α) {key other : κ} (value : α) (h : other ≠ key) :
    (object.set key value).get other = object.get other := by
  induction object with
  | nil => simp [set, get, Ne.symm h]
  | cons property rest ih =>
    obtain ⟨name, old⟩ := property
    by_cases hname : name = key
    · subst hname
      simp [set, get, Ne.symm h]
    · rw [set, if_neg hname, get, get]
      by_cases hother : name = other
      · rw [if_pos hother, if_pos hother]
      · rw [if_neg hother, if_neg hother, ih]

theorem length_set_le (object : Properties κ α) (key : κ) (value : α) :
    (object.set key value).length ≤ object.length + 1 := by
  induction object with
  | nil => exact Nat.le_refl _
  | cons property rest ih =>
    obtain ⟨name, old⟩ := property
    rw [set]
    split
    · exact Nat.le_succ _
    · exact Nat.succ_le_succ ih

end Properties

end SellerAgents.Js
