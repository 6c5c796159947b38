import PageTree.Value.Basic

/-!
# Equality of values

Numbers are equal by what they count, whatever their kind: `1`, `1.0` and `true` are one value to
`Key.same` and `Value.agree`.  Sequences are equal elementwise, mappings when they give equal values
to the same keys, in any order, and nodes when type, configuration and children are equal.

`Value.agree` takes the equality of floats as a parameter.  `Value.same` counts a float that is not
a number as equal to itself, as it is for two uses of one datum; `Value.equal` does not.
-/

namespace PageTree

mutual

/-- Whether two keys name the same entry. -/
def Key.same : Key → Key → Bool
  | .null, .null => true
  | .bool b, .bool c => b == c
  | .bool b, .int j => (if b then 1 else 0) == j
  | .bool b, .float y => floatEqInt y (if b then 1 else 0)
  | .int i, .bool c => i == (if c then 1 else 0)
  | .int i, .int j => i == j
  | .int i, .float y => floatEqInt y i
  | .float x, .bool c => floatEqInt x (if c then 1 else 0)
  | .float x, .int j => floatEqInt x j
  | .float x, .float y => floatSame x y
  | .str s, .str t => s == t
  | .bytes a, .bytes b => a == b
  | .moment a, .moment b => a.same b
  | .tuple ks, .tuple ls => Key.sameAll ks ls
  | .callable a, .callable b => a == b
  | _, _ => false

/-- Whether two lists of keys are the same one by one. -/
def Key.sameAll : List Key → List Key → Bool
  | [], [] => true
  | k :: ks, l :: ls => k.same l && Key.sameAll ks ls
  | _, _ => false

end

namespace Entries

/-- The value of a key in a mapping. -/
def get? {α : Type} : List (Key × α) → Key → Option α
  | [], _ => none
  | (l, v) :: rest, k => if l.same k then some v else get? rest k

/-- Whether a mapping has an entry for a key. -/
def has {α : Type} (entries : List (Key × α)) (k : Key) : Bool :=
  (get? entries k).isSome

/-- A mapping with one entry set: an entry that exists keeps its place, a new one comes last. -/
def set {α : Type} : List (Key × α) → Key → α → List (Key × α)
  | [], k, v => [(k, v)]
  | (l, w) :: rest, k, v => if l.same k then (l, v) :: rest else (l, w) :: set rest k v

/-- A mapping with the entries of another set one after the other. -/
def merge {α : Type} (base upper : List (Key × α)) : List (Key × α) :=
  upper.foldl (fun acc (k, v) => set acc k v) base

/-- The mapping that a list of entries denotes when later ones win. -/
def ofList {α : Type} (entries : List (Key × α)) : List (Key × α) :=
  merge [] entries

/-- Takes the first entry of a key out of a mapping: its value and the other entries. -/
def take? {α : Type} : List (Key × α) → Key → Option (α × List (Key × α))
  | [], _ => none
  | (l, v) :: rest, k =>
    if l.same k then some (v, rest)
    else (take? rest k).map fun (w, others) => (w, (l, v) :: others)

/-- A mapping without the entry for a key. -/
def erase {α : Type} (entries : List (Key × α)) (k : Key) : List (Key × α) :=
  entries.filter fun (l, _) => !l.same k

/-- The value of a text key in a mapping. -/
def find? {α : Type} (entries : List (Key × α)) (name : String) : Option α :=
  get? entries (.str name)

/-- The keys of a mapping in order. -/
def keys {α : Type} (entries : List (Key × α)) : List Key :=
  entries.map (·.1)

end Entries

/-- The value of a text key in a mapping, or nothing in its place. -/
def Entries.lookup (entries : Entries) (name : String) : Value :=
  (Entries.find? entries name).getD .null

mutual

/-- Whether two attachments agree. -/
def Value.agreeMedia (f : Float → Float → Bool) :
    Attachment Key Value → Attachment Key Value → Bool
  | ⟨i, u, a, c, e, crops⟩, ⟨i', u', a', c', e', crops'⟩ =>
    i == i' && u == u' && a == a' && c == c' && e == e' && Value.agreeEntries f crops crops'
termination_by structural x => x

/-- Whether two optional attachments agree. -/
def Value.agreeImage (f : Float → Float → Bool) :
    Option (Attachment Key Value) → Option (Attachment Key Value) → Bool
  | none, none => true
  | some a, some b => Value.agreeMedia f a b
  | _, _ => false
termination_by structural x => x

/-- Whether two documents agree. -/
def Value.agreeDocument (f : Float → Float → Bool) :
    Document Key Value → Document Key Value → Bool
  | ⟨i, t, c, e, p, a, tags, image, extra⟩, ⟨i', t', c', e', p', a', tags', image', extra'⟩ =>
    i == i' && t == t' && c == c' && e == e' && p == p' && a == a' &&
      tags.map (fun x => (x.name, x.link)) == tags'.map (fun x => (x.name, x.link)) &&
      Value.agreeImage f image image' && Value.agreeEntries f extra extra'
termination_by structural x => x

/-- Whether two lists of documents agree. -/
def Value.agreeDocuments (f : Float → Float → Bool) :
    List (Document Key Value) → List (Document Key Value) → Bool
  | [], [] => true
  | d :: ds, e :: es => Value.agreeDocument f d e && Value.agreeDocuments f ds es
  | _, _ => false
termination_by structural x => x

/-- Whether two query results agree. -/
def Value.agreeQuery (f : Float → Float → Bool) :
    QueryResult Key Value → QueryResult Key Value → Bool
  | ⟨ds, n, s⟩, ⟨es, n', s'⟩ => Value.agreeDocuments f ds es && n == n' && s == s'
termination_by structural x => x

/-- Whether two values agree, given when two floats do. -/
def Value.agree (f : Float → Float → Bool) : Value → Value → Bool
  | .null, .null => true
  | .bool b, .bool c => b == c
  | .bool b, .int j => (if b then 1 else 0) == j
  | .bool b, .float y => floatEqInt y (if b then 1 else 0)
  | .int i, .bool c => i == (if c then 1 else 0)
  | .int i, .int j => i == j
  | .int i, .float y => floatEqInt y i
  | .float x, .bool c => floatEqInt x (if c then 1 else 0)
  | .float x, .int j => floatEqInt x j
  | .float x, .float y => f x y
  | .str s, .str t => s == t
  | .bytes a, .bytes b => a == b
  | .moment a, .moment b => a.same b
  | .list vs, .list ws => Value.agreeAll f vs ws
  | .tuple vs, .tuple ws => Value.agreeAll f vs ws
  | .map es, .map gs => Value.agreeEntries f es gs
  | .node n, .node m => Node.agree f n m
  | .query q, .query r => Value.agreeQuery f q r
  | .callable a, .callable b => a == b
  | _, _ => false
termination_by structural x => x

/-- Whether two lists of values agree one by one. -/
def Value.agreeAll (f : Float → Float → Bool) : List Value → List Value → Bool
  | [], [] => true
  | v :: vs, w :: ws => Value.agree f v w && Value.agreeAll f vs ws
  | _, _ => false
termination_by structural x => x

/-- Whether the entries of two mappings can be matched off one by one, each with an agreeing one of
the same key. -/
def Value.agreeEntries (f : Float → Float → Bool) :
    List (Key × Value) → List (Key × Value) → Bool
  | [], gs => gs.isEmpty
  | (k, v) :: rest, gs =>
    match Entries.take? gs k with
    | some (w, others) => Value.agree f v w && Value.agreeEntries f rest others
    | none => false
termination_by structural x => x

/-- Whether two nodes agree. -/
def Node.agree (f : Float → Float → Bool) : Node → Node → Bool
  | .mk t c cs, .mk t' c' cs' =>
    t == t' && Value.agreeEntries f c c' && Child.agreeAll f cs cs'
termination_by structural x => x

/-- Whether two children agree. -/
def Child.agree (f : Float → Float → Bool) : Child → Child → Bool
  | .text s, .text t => s == t
  | .node n, .node m => Node.agree f n m
  | _, _ => false
termination_by structural x => x

/-- Whether two lists of children agree one by one. -/
def Child.agreeAll (f : Float → Float → Bool) : List Child → List Child → Bool
  | [], [] => true
  | a :: as, b :: bs => Child.agree f a b && Child.agreeAll f as bs
  | _, _ => false
termination_by structural x => x

end

/-- Equality of values in which a datum that is not a number equals itself. -/
def Value.same : Value → Value → Bool := Value.agree floatSame

/-- Equality of values in which nothing equals a datum that is not a number. -/
def Value.equal : Value → Value → Bool := Value.agree floatEq

/-- Equality of nodes in which a datum that is not a number equals itself. -/
def Node.same : Node → Node → Bool := Node.agree floatSame

/-- Equality of nodes in which nothing equals a datum that is not a number. -/
def Node.equal : Node → Node → Bool := Node.agree floatEq

/-- Equality of lists of children in which a datum that is not a number equals itself. -/
def Child.sameAll : List Child → List Child → Bool := Child.agreeAll floatSame

end PageTree
