import SellerAgents.Js.Number

namespace SellerAgents.Js

/-- A JavaScript value without functions or shared references, as `JSON.parse` and the provider
ports produce them. -/
inductive JsValue where
  | undefined
  | null
  | bool (value : Bool)
  | num (value : Double)
  | nan
  | infinity (neg : Bool)
  | str (value : JsString)
  | arr (items : List JsValue)
  | obj (fields : List (JsString × JsValue))

/-- A JavaScript number, finite or not. -/
inductive Number where
  | finite (value : Double)
  | nan
  | infinity (neg : Bool)
deriving DecidableEq

namespace Number

/-- The number 0. -/
def zero : Number := .finite (.zero false)

/-- The number 200. -/
def twoHundred : Number := .finite ⟨false, 200 * 2 ^ 45, -45, by decide⟩

/-- Whether a number is truthy. -/
def isTruthy : Number → Bool
  | .finite d => d.man ≠ 0
  | .nan => false
  | .infinity _ => true

/-- `Number(value || 0)` on a number or undefined. -/
def orZero : Option Number → Number
  | some n => if n.isTruthy then n else zero
  | none => zero

/-- `number(value, fallback)` of the recovery module on a number or undefined, with a fallback of 0.
-/
def finiteOrZero : Option Number → Number
  | some (.finite d) => .finite d
  | _ => zero

end Number

/-- The UTF-8 length of one unit inside a `JSON.stringify` string, with the next unit to tell a
surrogate pair from a lone surrogate. The low half of a pair is counted with the high half. -/
def unitBytes (pairedHigh : Bool) (u : UInt16) (next : Option UInt16) : Nat :=
  let v := u.toNat
  let isLow (w : UInt16) : Bool := 0xDC00 ≤ w.toNat && w.toNat ≤ 0xDFFF
  if v = 34 ∨ v = 92 then 2
  else if v = 8 ∨ v = 9 ∨ v = 10 ∨ v = 12 ∨ v = 13 then 2
  else if v < 0x20 then 6
  else if v < 0x80 then 1
  else if v < 0x800 then 2
  else if 0xD800 ≤ v ∧ v ≤ 0xDBFF then if next.any isLow then 4 else 6
  else if isLow u then if pairedHigh then 0 else 6
  else 3

/-- The UTF-8 length of the units of a `JSON.stringify` string. -/
def stringBytes : Bool → JsString → Nat
  | _, [] => 0
  | pairedHigh, u :: rest =>
    unitBytes pairedHigh u rest.head? +
      stringBytes (0xD800 ≤ u.toNat && u.toNat ≤ 0xDBFF) rest

/-- The UTF-8 length of a quoted `JSON.stringify` string. -/
def quotedBytes (s : JsString) : Nat := 2 + stringBytes false s

mutual

/-- The UTF-8 length of `JSON.stringify(value)`. An undefined array item prints as null and an
undefined field is left out. -/
def JsValue.jsonBytes : JsValue → Nat
  | .undefined => 4
  | .null => 4
  | .bool value => if value then 4 else 5
  | .num value => value.toText.length
  | .nan | .infinity _ => 4
  | .str value => quotedBytes value
  | .arr items => 2 + JsValue.itemsBytes items
  | .obj fields => 2 + JsValue.fieldsBytes false fields

/-- The length of the items of an array with the commas between them. -/
def JsValue.itemsBytes : List JsValue → Nat
  | [] => 0
  | [item] => item.jsonBytes
  | item :: rest => item.jsonBytes + 1 + JsValue.itemsBytes rest

/-- The length of the fields of an object with the commas between them; `comma` says whether a
printed field precedes. -/
def JsValue.fieldsBytes (comma : Bool) : List (JsString × JsValue) → Nat
  | [] => 0
  | (_, .undefined) :: rest => JsValue.fieldsBytes comma rest
  | (key, value) :: rest =>
    (if comma then 1 else 0) + quotedBytes key + 1 + value.jsonBytes +
      JsValue.fieldsBytes true rest

end

/-- A number or a string, the two kinds of values an identity field has. -/
inductive Field where
  | str (value : JsString)
  | num (value : Double)

namespace Field

/-- `String(value)`. -/
def toText : Field → JsString
  | .str value => value
  | .num value => value.toText

/-- Whether the value is truthy. -/
def isTruthy : Field → Bool
  | .str value => value ≠ []
  | .num value => value.man ≠ 0

/-- `Number(value)` when it is finite. -/
def toNumber : Field → Option Double
  | .str value => Js.toNumber value
  | .num value => some value

end Field

end SellerAgents.Js
