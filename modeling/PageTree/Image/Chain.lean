import PageTree.Url.Library
import PageTree.Value.Convert

/-!
# Image addresses

The server of an image scales and crops it as the query parameters of its address say.  An
`ImageOperation` is one such parameter: `ImageOperation.argument` computes its value, where the
density multiplies dimensions but neither crops nor quality.  `Image.setParams` sets parameters of
an address, which a library of addresses reads and writes.
-/

namespace PageTree

/-- What can be asked of the server of an image. -/
inductive ImageOperation where
  | width
  | height
  | resize
  | fit
  | crop
  | quality
  deriving DecidableEq, Repr

namespace ImageOperation

/-- The parameter of an operation. -/
def name : ImageOperation → String
  | width => "w"
  | height => "h"
  | resize => "resize"
  | fit => "fit"
  | crop => "crop"
  | quality => "quality"

/-- All operations. -/
def all : List ImageOperation :=
  [width, height, resize, fit, crop, quality]

/-- The operation of a parameter. -/
def ofName? (s : String) : Option ImageOperation :=
  all.find? (·.name == s)

/-- The arguments of an operation; a density may follow them. -/
def arguments : ImageOperation → List String
  | width => ["width"]
  | height => ["height"]
  | resize => ["width", "height"]
  | fit => ["width", "height"]
  | crop => ["x", "y", "width", "height"]
  | quality => ["percentage"]

/-- The name under which faults list an operation. -/
def label (op : ImageOperation) : String :=
  "ImageTransformChain." ++ op.name

/-- A value as a whole number without its sign. -/
def magnitude (v : Value) : Except Fault Int := do
  let i ← v.toInteger
  return i.natAbs

/-- A dimension at a density. -/
def scaled (density v : Value) : Except Fault String := do
  let i ← magnitude v
  let w ← density.timesInt i
  return w.text

/-- Texts joined by commas. -/
def commas (parts : List String) : String :=
  String.intercalate "," parts

/-- The value of the parameter of an operation, given its arguments and a density. -/
def argument (op : ImageOperation) (args : List Value) (density : Value) : Except Fault String :=
  match op with
  | quality => do
    let parts ← args.mapM magnitude
    return commas (parts.map toString)
  | crop => .ok (commas (args.map Value.text))
  | _ => do
    let parts ← args.mapM (scaled density)
    return commas parts

/-- Splits the arguments of a call into those of the operation and the density, which is one when
it is left out. -/
def bindArguments (op : ImageOperation) (args : List Value) : Except Fault (List Value × Value) :=
  let count := op.arguments.length
  if args.length < count then
    .error (.missingArguments op.label (op.arguments.drop args.length))
  else if count + 1 < args.length then
    .error (.extraArguments op.label (count + 1) (count + 2) (args.length + 1))
  else .ok (args.take count, args.getD count (.int 1))

end ImageOperation

namespace Image

variable [UrlLibrary]

/-- An address without its query. -/
def base (address : String) : String :=
  String.ofList (address.toList.takeWhile (· != '?'))

/-- An address with query parameters set in turn. -/
def setParams (address : String) (pairs : List (String × String)) : Except Fault String := do
  let u ← UrlLibrary.read address
  let query := pairs.foldl (fun q (k, v) => UrlLibrary.setParam q k v) (UrlLibrary.params u)
  let w ← UrlLibrary.withQuery u query.toText
  return UrlLibrary.write w

/-- An address with an operation applied. -/
def apply (address : String) (op : ImageOperation) (args : List Value) : Except Fault String := do
  let (args, density) ← op.bindArguments args
  let value ← op.argument args density
  setParams address [(op.name, value)]

/-- An address with the parameters of a mapping set; nothing changes when it is empty. -/
def applyParams (address : String) (given : Value) : Except Fault String :=
  if given.truthy then
    match UrlLibrary.read address, given with
    | .error e, _ => .error e
    | .ok _, .map entries => setParams address (entries.map fun (k, v) => (k.text, v.text))
    | .ok _, v => .error (.noOperation v.kind "items")
  else .ok address

/-- The arguments that a mapping of operations gives to one of them. -/
def argumentsOf : Value → List Value
  | .list vs => vs
  | .tuple vs => vs
  | v => [v]

/-- Applies the operations of a mapping in turn at a density; names of no operation are passed
over. -/
def applyEntries (density : Value) (address : String) : Entries → Except Fault String
  | [] => .ok address
  | (.str name, v) :: rest =>
    match ImageOperation.ofName? name with
    | some op => do
      let next ← apply address op (argumentsOf v ++ [density])
      applyEntries density next rest
    | none => applyEntries density address rest
  | _ :: rest => applyEntries density address rest

/-- Applies the operations that a value gives, which has to be a mapping. -/
def applyAll (address : String) (operations density : Value) : Except Fault String := do
  let entries ← operations.entriesFor "items"
  applyEntries density address entries

/-- Performs what is given by name on an address: an operation, several operations at an optional
density, or setting parameters. -/
def perform (address name : String) (args : List Value) : Except Fault String :=
  match ImageOperation.ofName? name, name, args with
  | some op, _, args => apply address op args
  | none, "apply_transforms", [operations] => applyAll address operations (.int 1)
  | none, "apply_transforms", [operations, density] => applyAll address operations density
  | none, "apply_transform", [params] => applyParams address params
  | none, _, args => .error (.extraArguments name 1 2 args.length)

end Image

end PageTree
