import PageTree.Site.Page
import PageTree.Wire.Tree

/-!
# Answers

What the service can be asked for, and what it answers: a status with a location or a document as
its body, or a fault where there is no answer.
-/

namespace PageTree

/-- An answer of the service. -/
structure Answer where
  status : Nat
  location : Option String
  body : Option Json
  /-- What a page was built from, if one was. -/
  built : Option PageRequest

/-- Why the service has no answer. -/
inductive ServiceFault where
  | fault (e : Fault)
  | unwritable (e : JsonWriteFault)
  /-- The answer holds a float that no document can hold. -/
  | infinite
  /-- A definition has parts of the wrong kind. -/
  | badDefinition

/-- The text of a fault of the service. -/
def ServiceFault.message : ServiceFault → String
  | fault e => e.message
  | unwritable e => (WireFault.unwritable e).message
  | infinite => "Out of range float values are not JSON compliant"
  | badDefinition => "the definition has parts of the wrong kind"

namespace Answer

/-- An answer without a body. -/
def redirect (status : Nat) (location : String) : Answer where
  status := status
  location := some location
  body := none
  built := none

/-- An answer with a body. -/
def withBody (status : Nat) (body : Json) : Answer where
  status := status
  location := none
  body := some body
  built := none

/-- The answer that says why something was not found. -/
def notFound (detail : String) : Answer :=
  withBody 404 (.object [("detail", .str detail)])

end Answer

mutual

/-- Whether all floats of a document are finite. -/
def Json.isFinite : Json → Bool
  | .float x =>
    match Binary.ofFloat x with
    | .finite .. => true
    | _ => false
  | .array items => Json.allFinite items
  | .object members => Json.membersFinite members
  | _ => true

/-- Whether all floats of the items are finite. -/
def Json.allFinite : List Json → Bool
  | [] => true
  | j :: js => j.isFinite && Json.allFinite js

/-- Whether all floats of the members are finite. -/
def Json.membersFinite : List (String × Json) → Bool
  | [] => true
  | (_, j) :: rest => j.isFinite && Json.membersFinite rest

end

namespace Service

/-- What the service can be asked for. -/
inductive Route where
  | health
  | components
  | typeList
  | typeInfo (name : String)
  | docs
  deriving DecidableEq, Repr

/-- A value as the body of an answer. -/
def bodyOf (v : Value) : Except ServiceFault Json := do
  let j ← v.toJson?.mapError .unwritable
  if j.isFinite then return j else throw .infinite

end Service

end PageTree
