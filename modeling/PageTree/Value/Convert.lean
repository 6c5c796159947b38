import PageTree.Fault
import PageTree.Number.Numeral
import PageTree.Value.Equality

/-!
# Conversions of values

Values read as other kinds of data: as the list of their elements, as a mapping, as a whole number
or as a float.  Each conversion says by its fault why it is impossible.
-/

namespace PageTree

/-- The octets of a byte string as characters; those outside ASCII stand for no character of a
numeral. -/
def asciiText (bs : List UInt8) : String :=
  String.ofList (bs.map fun b => if b < 128 then Char.ofNat b.toNat else Char.ofNat 0xfffd)

namespace Value

/-- The elements of a collection: those of a sequence, the keys of a mapping, the characters of a
text or the octets of a byte string. -/
def elements? : Value → Option (List Value)
  | list vs => some vs
  | tuple vs => some vs
  | map entries => some ((Entries.keys entries).map Key.toValue)
  | str s => some (s.toList.map fun c => str (String.singleton c))
  | bytes bs => some (bs.map fun b => int b.toNat)
  | _ => none

/-- The elements of a collection; other values have none. -/
def elements (v : Value) : Except Fault (List Value) :=
  match v.elements? with
  | some vs => .ok vs
  | none => .error (.notIterable v.kind)

/-- A value as a key. -/
def toKey (v : Value) : Except Fault Key :=
  match v.toKey? with
  | some k => .ok k
  | none => .error (.notKey v.kind)

/-- The entry that an element of a list of entries stands for. -/
def toEntry (index : Nat) (v : Value) : Except Fault (Key × Value) :=
  match v.elements? with
  | none => .error (.notEntry index)
  | some [k, w] => do
    let k ← k.toKey
    return (k, w)
  | some vs => .error (.entryLength index vs.length)

/-- The entries that the elements of a list stand for, counted from `index` on. -/
def toEntriesFrom (index : Nat) : List Value → Except Fault Entries
  | [] => .ok []
  | v :: vs => do
    let e ← v.toEntry index
    let es ← toEntriesFrom (index + 1) vs
    return e :: es

/-- A value as a mapping: a mapping itself, or a list of pairs. -/
def toEntries : Value → Except Fault Entries
  | map entries => .ok entries
  | v => do
    let vs ← v.elements
    let es ← toEntriesFrom 0 vs
    return Entries.ofList es

/-- The entries of a value that has to be a mapping. -/
def entries : Value → Except Fault Entries
  | map es => .ok es
  | v => .error (.notMapping v.kind)

/-- The entries of a value on which an operation of mappings is used. -/
def entriesFor (operation : String) : Value → Except Fault Entries
  | map es => .ok es
  | v => .error (.noOperation v.kind operation)

/-- The whole number that a text stands for; `v` is the value to be named in a fault. -/
def readInteger (v : Value) (s : String) : Except Fault Int :=
  match Numeral.readInt s with
  | .ok i => .ok i
  | .error .malformed => .error (.badInteger v)
  | .error (.tooLong digits) => .error (.longInteger digits)

/-- A value as a whole number; floats lose their fraction. -/
def toInteger (v : Value) : Except Fault Int :=
  match v with
  | int i => .ok i
  | bool b => .ok (if b then 1 else 0)
  | float x =>
    match Binary.ofFloat x with
    | .nan => .error .nanInteger
    | .infinite _ => .error .infiniteInteger
    | b => .ok (b.truncate?.getD 0)
  | str s => readInteger v s
  | bytes bs => readInteger v (asciiText bs)
  | _ => .error (.notInteger v.kind)

/-- A whole number as a float, unless it is too large. -/
def floatOfInt (i : Int) : Except Fault Float :=
  let x := Float.ofInt i
  match Binary.ofFloat x with
  | .infinite _ => .error .largeFloat
  | _ => .ok x

/-- A value as a float. -/
def toFloat (v : Value) : Except Fault Float :=
  match v with
  | int i => floatOfInt i
  | bool b => .ok (if b then 1.0 else 0.0)
  | float x => .ok x
  | str s =>
    match Numeral.readFloat? s with
    | some x => .ok x
    | none => .error (.badFloat v)
  | bytes bs =>
    match Numeral.readFloat? (asciiText bs) with
    | some x => .ok x
    | none => .error (.badFloat v)
  | _ => .error (.notFloat v.kind)

/-- A list repeated a number of times; none if the number is not positive. -/
def repeated {α : Type} (i : Int) (xs : List α) : List α :=
  (List.replicate i.toNat xs).flatten

/-- A whole number times a value: a product of numbers, or a sequence repeated. -/
def timesInt (i : Int) (v : Value) : Except Fault Value :=
  match v with
  | int j => .ok (int (i * j))
  | bool b => .ok (int (if b then i else 0))
  | float x => do
    let y ← floatOfInt i
    return float (y * x)
  | str s => .ok (str (String.ofList (repeated i s.toList)))
  | bytes bs => .ok (bytes (repeated i bs))
  | list vs => .ok (list (repeated i vs))
  | tuple vs => .ok (tuple (repeated i vs))
  | _ => .error (.noProduct "int" v.kind)

end Value

end PageTree
