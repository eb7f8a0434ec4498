import Mathlib.Data.List.DropRight

namespace SellerAgents.Js

/-- A JavaScript string: its UTF-16 code units. -/
abbrev JsString : Type := List UInt16

/-- The code units of a text that has no character outside the first plane. -/
def units (s : String) : JsString := s.toList.map fun c => UInt16.ofNat c.toNat

/-- The code units `String.prototype.trim` removes: WhiteSpace and LineTerminator. -/
def isWhite (u : UInt16) : Bool :=
  [9, 10, 11, 12, 13, 0x20, 0xA0, 0x1680, 0x2028, 0x2029, 0x202F, 0x205F, 0x3000, 0xFEFF].contains u ||
    (0x2000 ≤ u && u ≤ 0x200A)

/-- `String.prototype.trimEnd`. -/
def trimEnd (s : JsString) : JsString := s.rdropWhile isWhite

/-- `String.prototype.trim`. -/
def trim (s : JsString) : JsString := trimEnd (s.dropWhile isWhite)

/-- `text(value, max)` of the execution modules on a value that is already a string: trimmed, cut to
`max` units, and null when nothing is left. -/
def text (max : Nat) (s : JsString) : Option JsString :=
  let output := trim s
  if output = [] then none else some (output.take max)

/-- `text(value, max)` on a value that may be null or undefined. -/
def textOf (max : Nat) (s : Option JsString) : Option JsString := text max (s.getD [])

/-- Whether a string or null is truthy. -/
def truthy : Option JsString → Bool
  | some (_ :: _) => true
  | _ => false

/-- `value || null` on a string or null. -/
def orNull (s : Option JsString) : Option JsString := if truthy s then s else none

/-- `value || other` on strings or null. -/
def orElse (s other : Option JsString) : Option JsString := if truthy s then s else other

@[simp] theorem truthy_none : truthy none = false := rfl

@[simp] theorem truthy_nil : truthy (some []) = false := rfl

@[simp] theorem truthy_cons (u : UInt16) (s : JsString) : truthy (some (u :: s)) = true := rfl

theorem truthy_some {s : JsString} : truthy (some s) = true ↔ s ≠ [] := by
  cases s <;> simp

/-- A string is trimmed at its end when its last unit, if any, is not white. -/
theorem trimEnd_eq_self {s : JsString} : trimEnd s = s ↔ ∀ h : s ≠ [], ¬ isWhite (s.getLast h) :=
  List.rdropWhile_eq_self_iff

/-- A string without white space is its own trimmed form. -/
theorem trim_of_not_white {s : JsString} (h : ∀ u ∈ s, isWhite u = false) : trim s = s := by
  have hstart : s.dropWhile isWhite = s := by
    cases s with
    | nil => rfl
    | cons u s => simp [h u (by simp)]
  unfold trim
  rw [hstart, trimEnd_eq_self]
  intro hne
  simp [h _ (List.getLast_mem hne)]

/-- `text` leaves a short string without white space as it is. -/
theorem text_of_not_white {max : Nat} {s : JsString} (h : ∀ u ∈ s, isWhite u = false)
    (hne : s ≠ []) (hmax : s.length ≤ max) : text max s = some s := by
  simp [text, trim_of_not_white h, hne, List.take_of_length_le hmax]

/-- The first half of a surrogate pair. -/
def isHighSurrogate (u : UInt16) : Bool := 0xD800 ≤ u.toNat && u.toNat ≤ 0xDBFF

/-- The second half of a surrogate pair. -/
def isLowSurrogate (u : UInt16) : Bool := 0xDC00 ≤ u.toNat && u.toNat ≤ 0xDFFF

/-- The code points of a string. A lone surrogate reads as U+FFFD, as `TextEncoder` has it. -/
def codePoints : JsString → List Nat
  | [] => []
  | [u] => [if isHighSurrogate u || isLowSurrogate u then 0xFFFD else u.toNat]
  | u :: v :: rest =>
    if isHighSurrogate u && isLowSurrogate v then
      (0x10000 + (u.toNat - 0xD800) * 0x400 + (v.toNat - 0xDC00)) :: codePoints rest
    else
      (if isHighSurrogate u || isLowSurrogate u then 0xFFFD else u.toNat) :: codePoints (v :: rest)

/-- The UTF-8 bytes of a code point. -/
def utf8Bytes (c : Nat) : List UInt8 :=
  if c < 0x80 then [UInt8.ofNat c]
  else if c < 0x800 then [UInt8.ofNat (0xC0 + c / 0x40), UInt8.ofNat (0x80 + c % 0x40)]
  else if c < 0x10000 then
    [UInt8.ofNat (0xE0 + c / 0x1000), UInt8.ofNat (0x80 + c / 0x40 % 0x40),
      UInt8.ofNat (0x80 + c % 0x40)]
  else
    [UInt8.ofNat (0xF0 + c / 0x40000), UInt8.ofNat (0x80 + c / 0x1000 % 0x40),
      UInt8.ofNat (0x80 + c / 0x40 % 0x40), UInt8.ofNat (0x80 + c % 0x40)]

/-- `new TextEncoder().encode(text)`. -/
def utf8Encode (s : JsString) : List UInt8 := (codePoints s).flatMap utf8Bytes

section Join

variable {α : Type} [DecidableEq α]

theorem length_splitOn (sep : α) (s : List α) : (s.splitOn sep).length = s.count sep + 1 := by
  induction s with
  | nil => simp
  | cons u s ih =>
    rw [List.splitOn_cons_eq_if_modifyHead]
    by_cases hu : u = sep
    · simp [hu, ih]
    · simp [hu, ih]

/-- Cut at the separator, a joined text falls into the pieces of its parts. -/
theorem splitOn_join (sep : α) {parts : List (List α)} (hne : parts ≠ []) :
    (List.intercalate [sep] parts).splitOn sep = parts.flatMap (·.splitOn sep) := by
  induction parts with
  | nil => exact absurd rfl hne
  | cons part rest ih =>
    cases rest with
    | nil => simp
    | cons next rest =>
      have htail := ih (List.cons_ne_nil next rest)
      rw [List.intercalate_cons_cons, List.append_assoc, List.singleton_append,
        List.splitOn_append_cons_self, htail]
      simp only [List.flatMap_cons]

theorem join_eq_iff (sep : α) {left right : List (List α)} (hleft : left ≠ [])
    (hright : right ≠ []) :
    List.intercalate [sep] left = List.intercalate [sep] right ↔
      left.flatMap (·.splitOn sep) = right.flatMap (·.splitOn sep) := by
  rw [← splitOn_join sep hleft, ← splitOn_join sep hright]
  constructor
  · intro h
    rw [h]
  · intro h
    have hback := congrArg (List.intercalate [sep]) h
    rwa [List.intercalate_splitOn, List.intercalate_splitOn] at hback

/-- A list of parts is its pieces in order together with the separators of each part. -/
theorem parts_eq_iff (sep : α) (left right : List (List α)) :
    left = right ↔
      left.flatMap (·.splitOn sep) = right.flatMap (·.splitOn sep) ∧
        left.map (·.count sep) = right.map (·.count sep) := by
  constructor
  · rintro rfl
    exact ⟨rfl, rfl⟩
  · rintro ⟨hpieces, hcounts⟩
    have hlengths : (left.map (·.splitOn sep)).map List.length =
        (right.map (·.splitOn sep)).map List.length := by
      have hsucc := congrArg (List.map (· + 1)) hcounts
      simpa [List.map_map, Function.comp_def, length_splitOn] using hsucc
    have hsplit : left.map (·.splitOn sep) = right.map (·.splitOn sep) :=
      List.eq_iff_flatten_eq.mpr ⟨hpieces, hlengths⟩
    have hback := congrArg (List.map (List.intercalate [sep])) hsplit
    simpa [List.map_map, Function.comp_def] using hback

end Join

end SellerAgents.Js
