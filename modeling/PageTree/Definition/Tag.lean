import PageTree.Text.Case
import PageTree.Value.Convert

/-!
# Type tags

A declared piece of data has a type tag.  `TypeTag.coerce` fits a stored value to a tag where that
loses nothing: numerals become numbers, whole floats become integers, and the words for truth values
become truth values.  Every tag has a zero value, which stands in for data that is missing or does
not fit.
-/

namespace PageTree

/-- The type of a declared piece of data. -/
inductive TypeTag where
  | integer
  | number
  | string
  | boolean
  | array
  | object
  | any
  deriving DecidableEq, Repr

/-- Why a value does not fit a tag. -/
inductive CoercionFault where
  | unknownTag (tag : Value)
  | truthInteger
  | notInteger (v : Value)
  | truthNumber
  | notNumber (v : Value)
  | notString (kind : String)
  | notBoolean (v : Value)
  | notArray (kind : String)
  | notObject (kind : String)

/-- The text of a coercion fault. -/
def CoercionFault.message : CoercionFault → String
  | unknownTag tag => "unknown type tag " ++ tag.show
  | truthInteger => "boolean is not an integer"
  | notInteger v => v.show ++ " is not an integer"
  | truthNumber => "boolean is not a number"
  | notNumber v => v.show ++ " is not a number"
  | notString kind => kind ++ " is not a string"
  | notBoolean v => v.show ++ " is not a boolean"
  | notArray kind => kind ++ " is not an array"
  | notObject kind => kind ++ " is not an object"

namespace TypeTag

/-- The names of the tags: their own and short ones. -/
def names : List (String × TypeTag) :=
  [("integer", integer), ("int", integer), ("number", number), ("float", number),
    ("string", string), ("str", string), ("boolean", boolean), ("bool", boolean),
    ("array", array), ("list", array), ("object", object), ("dict", object), ("any", any)]

/-- The tag of a name. -/
def ofName? (name : String) : Option TypeTag :=
  (names.find? (·.1 == name)).map (·.2)

/-- The own names of all tags in alphabetic order. -/
def sortedNames : List String :=
  ["any", "array", "boolean", "integer", "number", "object", "string"]

/-- The tag that a value names, if it names one; a value that cannot be looked up is a fault. -/
def ofValue? (v : Value) : Except Fault (Option TypeTag) :=
  match v with
  | .str s => .ok (ofName? s)
  | _ => do
    let _ ← v.toKey
    return none

/-- The value that stands in for missing data. -/
def zero : TypeTag → Value
  | integer => .int 0
  | number => .int 0
  | string => .str ""
  | boolean => .bool false
  | array => .list []
  | object => .map []
  | any => .null

/-- The words for truth values. -/
def truthWord? (s : String) : Option Bool :=
  let word := Text.lower (Text.trim s)
  if ["true", "1", "yes", "on"].contains word then some true
  else if ["false", "0", "no", "off", ""].contains word then some false
  else none

/-- Fits a value to the integers. -/
def coerceInteger (v : Value) : Except CoercionFault Value :=
  match v with
  | .bool _ => .error .truthInteger
  | .int i => .ok (.int i)
  | .float x =>
    let b := Binary.ofFloat x
    if b.isIntegral then .ok (.int (b.truncate?.getD 0)) else .error (.notInteger v)
  | .str s =>
    match Numeral.readInt (Text.trim s) with
    | .ok i => .ok (.int i)
    | .error _ => .error (.notInteger v)
  | _ => .error (.notInteger v)

/-- Fits a value to the numbers. -/
def coerceNumber (v : Value) : Except CoercionFault Value :=
  match v with
  | .bool _ => .error .truthNumber
  | .int i => .ok (.int i)
  | .float x => .ok (.float x)
  | .str s =>
    match Numeral.readFloat? (Text.trim s) with
    | some x => .ok (.float x)
    | none => .error (.notNumber v)
  | _ => .error (.notNumber v)

/-- Fits a value to the truth values. -/
def coerceBoolean (v : Value) : Except CoercionFault Value :=
  match v with
  | .bool b => .ok (.bool b)
  | .int i =>
    if i = 0 then .ok (.bool false)
    else if i = 1 then .ok (.bool true)
    else .error (.notBoolean v)
  | .str s =>
    match truthWord? s with
    | some b => .ok (.bool b)
    | none => .error (.notBoolean v)
  | _ => .error (.notBoolean v)

/-- Fits a value to a tag. -/
def coerce (tag : TypeTag) (v : Value) : Except CoercionFault Value :=
  match tag with
  | any => .ok v
  | integer => coerceInteger v
  | number => coerceNumber v
  | string =>
    match v with
    | .str s => .ok (.str s)
    | .int i => .ok (.str (toString i))
    | .float x => .ok (.str (Decimal.shortest x))
    | _ => .error (.notString v.kind)
  | boolean => coerceBoolean v
  | array =>
    match v with
    | .list vs => .ok (.list vs)
    | .tuple vs => .ok (.list vs)
    | _ => .error (.notArray v.kind)
  | object =>
    match v with
    | .map entries => .ok (.map entries)
    | _ => .error (.notObject v.kind)

/-- Fits a value to the tag that another value names. -/
def coerceTo (tag v : Value) : Except Fault (Except CoercionFault Value) := do
  match ← ofValue? tag with
  | some t => return t.coerce v
  | none => return .error (.unknownTag tag)

/-- The zero value of the tag that a value names; that of `any` for an unknown name. -/
def zeroOf (tag : Value) : Except Fault Value := do
  return ((← ofValue? tag).getD any).zero

end TypeTag

end PageTree
