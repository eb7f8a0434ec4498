import SellerAgents.Js.Properties
import SellerAgents.Js.Value

namespace SellerAgents.Js

namespace Number

/-- `Number.isInteger`. -/
def isInteger : Number → Bool
  | .finite d => d.fraction.1 % d.fraction.2 = 0
  | _ => false

/-- `value < 0`. -/
def isNegative : Number → Bool
  | .finite d => d.neg && d.man ≠ 0
  | .infinity neg => neg
  | .nan => false

/-- `value > k`, for a natural number `k`. -/
def exceeds (k : Nat) : Number → Bool
  | .finite d => !d.neg && k * d.fraction.2 < d.fraction.1
  | .infinity neg => !neg
  | .nan => false

/-- `Number.isSafeInteger(value) && value >= 0`. -/
def isSafeNatural (value : Number) : Bool :=
  value.isInteger && !value.isNegative && !value.exceeds 9007199254740991

/-- `left === right`. -/
def same : Number → Number → Bool
  | .finite left, .finite right => left.same right
  | .infinity left, .infinity right => left = right
  | _, _ => false

theorem same_self {value : Number} (h : value.isInteger = true) : value.same value = true := by
  cases value with
  | finite d => simp [same, Double.same]
  | nan => cases h
  | infinity neg => cases h

theorem isInteger_of_safe {value : Number} (h : value.isSafeNatural = true) :
    value.isInteger = true := by
  simp only [isSafeNatural, Bool.and_eq_true] at h
  exact h.1.1

end Number

/-- A value that one module hands to another: an object has each of its keys once, and a text has no
lone surrogate. -/
inductive Data where
  | undefined
  | null
  | bool (value : Bool)
  | number (value : Number)
  | text (value : String)
  | array (items : List Data)
  | object (fields : List (String × Data))

namespace Data

/-- `value?.[key]`. -/
def get : Data → String → Data
  | .object fields, key => (Properties.get fields key).getD .undefined
  | _, _ => .undefined

/-- An object that is no array. -/
def isPlain : Data → Bool
  | .object _ => true
  | _ => false

/-- Whether the keys of an object are the expected ones, in any order. -/
def hasKeys (value : Data) (expected : List String) : Bool :=
  match value with
  | .object fields => (fields.map Prod.fst).isPerm expected
  | _ => false

def asBool : Data → Option Bool
  | .bool value => some value
  | _ => none

def asNumber : Data → Option Number
  | .number value => some value
  | _ => none

def asText : Data → Option String
  | .text value => some value
  | _ => none

def asArray : Data → Option (List Data)
  | .array items => some items
  | _ => none

def isNull : Data → Bool
  | .null => true
  | _ => false

/-- `value === text`. -/
def isText (value : Data) (text : String) : Bool := value.asText = some text

/-- `value === true` or `value === false`. -/
def isBool (value : Data) (flag : Bool) : Bool := value.asBool = some flag

@[simp] theorem get_object (fields : Properties String Data) (key : String) :
    (Data.object fields).get key = (Properties.get fields key).getD .undefined := rfl

@[simp] theorem hasKeys_object (fields : Properties String Data) (expected : List String) :
    (Data.object fields).hasKeys expected = (fields.map Prod.fst).isPerm expected := rfl

@[simp] theorem asBool_bool (value : Bool) : (Data.bool value).asBool = some value := rfl

@[simp] theorem asNumber_number (value : Number) : (Data.number value).asNumber = some value := rfl

@[simp] theorem asText_text (value : String) : (Data.text value).asText = some value := rfl

@[simp] theorem asArray_array (items : List Data) : (Data.array items).asArray = some items := rfl

@[simp] theorem isNull_null : Data.null.isNull = true := rfl

@[simp] theorem isPlain_object (fields : Properties String Data) :
    (Data.object fields).isPlain = true := rfl

@[simp] theorem isText_text (value text : String) :
    (Data.text value).isText text = decide (value = text) := by
  simp [isText]

@[simp] theorem isBool_bool (value flag : Bool) :
    (Data.bool value).isBool flag = decide (value = flag) := by
  simp [isBool]

end Data

/-- The number of UTF-16 units of a text. -/
def utf16Length (value : String) : Nat :=
  (value.toList.map fun c => if c.toNat < 0x10000 then 1 else 2).sum

/-- `value === value.trim()`. -/
def isTrimmed (value : String) : Bool :=
  let white (c : Char) : Bool := c.toNat < 0x10000 && isWhite (UInt16.ofNat c.toNat)
  !(value.toList.head?.any white) && !(value.toList.getLast?.any white)

/-- `/^[A-Z0-9_]{1,100}$/`. -/
def isCode (value : String) : Bool :=
  let units := value.toList
  1 ≤ units.length && units.length ≤ 100 &&
    units.all fun c => ('A' ≤ c && c ≤ 'Z') || ('0' ≤ c && c ≤ '9') || c = '_'

/-- `/^[a-f0-9]{64}$/`. -/
def isSha256 (value : String) : Bool :=
  let units := value.toList
  units.length = 64 && units.all fun c => ('a' ≤ c && c ≤ 'f') || ('0' ≤ c && c ≤ '9')

end SellerAgents.Js
