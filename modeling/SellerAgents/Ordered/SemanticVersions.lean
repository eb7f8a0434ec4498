import Mathlib.Tactic.Basic

open Std

namespace Ordered

/-- An identifier of a prerelease, with its texts in `τ`. -/
inductive Identifier (τ : Type) where
  | numeric (n : Nat)
  | alphanumeric (text : τ)

/-- A semantic version without its build, which has no precedence. -/
structure SemanticVersion (τ : Type) where
  major : Nat
  minor : Nat
  patch : Nat
  prerelease : List (Identifier τ)

variable {τ : Type}

section Comparison

variable (text : τ → τ → Ordering)

/-- Numbers by their values, texts by their own order, numbers before texts. -/
def Identifier.cmp : Identifier τ → Identifier τ → Ordering
  | .numeric m, .numeric n => compare m n
  | .numeric _, .alphanumeric _ => .lt
  | .alphanumeric _, .numeric _ => .gt
  | .alphanumeric a, .alphanumeric b => text a b

/-- Identifiers from left to right, the longer list after its prefixes, no prerelease after all. -/
def prereleaseCmp : List (Identifier τ) → List (Identifier τ) → Ordering
  | [], [] => .eq
  | [], _ :: _ => .gt
  | _ :: _, [] => .lt
  | a :: as, b :: bs => List.compareLex (Identifier.cmp text) (a :: as) (b :: bs)

def precedence : SemanticVersion τ → SemanticVersion τ → Ordering :=
  compareLex (compareOn SemanticVersion.major) <|
    compareLex (compareOn SemanticVersion.minor) <|
      compareLex (compareOn SemanticVersion.patch) fun a b =>
        prereleaseCmp text a.prerelease b.prerelease

end Comparison

variable {text : τ → τ → Ordering}

instance [OrientedCmp text] : OrientedCmp (Identifier.cmp text) where
  eq_swap {a b} := by
    cases a with
    | numeric m =>
      cases b with
      | numeric n => exact OrientedOrd.eq_swap
      | alphanumeric t => rfl
    | alphanumeric s =>
      cases b with
      | numeric n => rfl
      | alphanumeric t => exact @OrientedCmp.eq_swap _ text _ _ _

instance [TransCmp text] : TransCmp (Identifier.cmp text) where
  isLE_trans {a b c} hab hbc := by
    cases a with
    | numeric m =>
      cases c with
      | alphanumeric t => rfl
      | numeric k =>
        cases b with
        | numeric n => exact TransOrd.isLE_trans hab hbc
        | alphanumeric t => cases hbc
    | alphanumeric s =>
      cases b with
      | numeric n => cases hab
      | alphanumeric t =>
        cases c with
        | numeric k => cases hbc
        | alphanumeric u => exact @TransCmp.isLE_trans _ text _ _ _ _ hab hbc

instance [OrientedCmp text] : OrientedCmp (prereleaseCmp text) where
  eq_swap {as bs} := by
    cases as with
    | nil =>
      cases bs with
      | nil => rfl
      | cons b bs => rfl
    | cons a as =>
      cases bs with
      | nil => rfl
      | cons b bs => exact @OrientedCmp.eq_swap _ (List.compareLex (Identifier.cmp text)) _ _ _

instance [TransCmp text] : TransCmp (prereleaseCmp text) where
  isLE_trans {as bs cs} hab hbc := by
    cases cs with
    | nil =>
      cases as with
      | nil => rfl
      | cons a as => rfl
    | cons c cs =>
      cases bs with
      | nil => cases hbc
      | cons b bs =>
        cases as with
        | nil => cases hab
        | cons a as => exact @TransCmp.isLE_trans _ (List.compareLex (Identifier.cmp text)) _ _ _ _ hab hbc

/-- The precedence of versions is a total preorder. -/
instance [TransCmp text] : TransCmp (precedence text) := by
  have hprerelease : TransCmp fun a b : SemanticVersion τ =>
      prereleaseCmp text a.prerelease b.prerelease :=
    { eq_swap := by
        intro a b
        exact @OrientedCmp.eq_swap _ (prereleaseCmp text) _ _ _
      isLE_trans := by
        intro a b c hab hbc
        exact @TransCmp.isLE_trans _ (prereleaseCmp text) _ _ _ _ hab hbc }
  exact inferInstanceAs (TransCmp (compareLex _ _))

end Ordered
