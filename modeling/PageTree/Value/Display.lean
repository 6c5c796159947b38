import PageTree.Number.Decimal
import PageTree.Text.Quoted
import PageTree.Value.Basic

/-!
# Showing values

How messages, traces and documentation show a value.  `Value.show` writes it so that it could be
read back, with texts between quotation marks; `Value.text` writes a text or a moment as it is and
every other value as `show` does.
-/

namespace PageTree

/-- Texts joined by a separator. -/
def joinWith (sep : String) : List String → String
  | [] => ""
  | [s] => s
  | s :: rest => s ++ sep ++ joinWith sep rest

/-- The name of a truth value. -/
def showBool (b : Bool) : String :=
  if b then "True" else "False"

/-- A sequence in round brackets; one element alone is followed by a comma. -/
def showTuple (items : List String) : String :=
  match items with
  | [s] => "(" ++ s ++ ",)"
  | _ => "(" ++ joinWith ", " items ++ ")"

/-- A sequence in square brackets. -/
def showList (items : List String) : String :=
  "[" ++ joinWith ", " items ++ "]"

/-- A mapping in braces. -/
def showMap (items : List String) : String :=
  "\x7b" ++ joinWith ", " items ++ "\x7d"

/-- A record: its name and its fields in round brackets. -/
def showRecord (name : String) (fields : List (String × String)) : String :=
  name ++ "(" ++ joinWith ", " (fields.map fun (k, v) => k ++ "=" ++ v) ++ ")"

mutual

/-- A key as it is shown. -/
def Key.show : Key → String
  | .null => "None"
  | .bool b => showBool b
  | .int i => toString i
  | .float x => Decimal.shortest x
  | .str s => Text.quote s
  | .bytes bs => Text.quoteBytes bs
  | .moment m => m.show
  | .tuple ks => showTuple (Key.showAll ks)
  | .callable handle => "<function " ++ handle ++ ">"

/-- Keys as they are shown. -/
def Key.showAll : List Key → List String
  | [] => []
  | k :: ks => k.show :: Key.showAll ks

end

/-- A key as plain text. -/
def Key.text : Key → String
  | .str s => s
  | .moment m => m.text
  | k => k.show

/-- A tag of a document as it is shown. -/
def Term.show (t : Term) : String :=
  showRecord "Term" [("name", Text.quote t.name), ("link", Text.quote t.link)]

mutual

/-- A value as it is shown. -/
def Value.show : Value → String
  | .null => "None"
  | .bool b => showBool b
  | .int i => toString i
  | .float x => Decimal.shortest x
  | .str s => Text.quote s
  | .bytes bs => Text.quoteBytes bs
  | .moment m => m.show
  | .list vs => showList (Value.showAll vs)
  | .tuple vs => showTuple (Value.showAll vs)
  | .map entries => showMap (Value.showEntries entries)
  | .node n => Node.show n
  | .query q => Value.showQuery q
  | .callable handle => "<function " ++ handle ++ ">"

/-- Values as they are shown. -/
def Value.showAll : List Value → List String
  | [] => []
  | v :: vs => v.show :: Value.showAll vs

/-- The entries of a mapping as they are shown. -/
def Value.showEntries : List (Key × Value) → List String
  | [] => []
  | (k, v) :: rest => (k.show ++ ": " ++ v.show) :: Value.showEntries rest

/-- A node as it is shown: of its children only their number. -/
def Node.show : Node → String
  | .mk t c cs =>
    showRecord "Component"
      [("type", Text.quote t), ("config", showMap (Value.showEntries c)),
        ("children", toString cs.length)]

/-- An attachment as it is shown. -/
def Value.showMedia : Attachment Key Value → String
  | ⟨i, u, a, c, e, crops⟩ =>
    showRecord "Attachment"
      [("id", toString i), ("url", Text.quote u), ("alt", Text.quote a),
        ("caption", Text.quote c), ("excerpt", Text.quote e),
        ("crops", showMap (Value.showEntries crops))]

/-- An optional attachment as it is shown. -/
def Value.showImage : Option (Attachment Key Value) → String
  | none => "None"
  | some a => Value.showMedia a

/-- A document as it is shown. -/
def Value.showDocument : Document Key Value → String
  | ⟨i, t, c, e, p, a, tags, image, extra⟩ =>
    showRecord "Document"
      [("id", toString i), ("title", Text.quote t), ("content", Text.quote c),
        ("excerpt", Text.quote e), ("permalink", Text.quote p), ("author", Text.quote a),
        ("tags", showList (tags.map Term.show)), ("featured_image", Value.showImage image),
        ("meta", showMap (Value.showEntries extra))]

/-- Documents as they are shown. -/
def Value.showDocuments : List (Document Key Value) → List String
  | [] => []
  | d :: ds => Value.showDocument d :: Value.showDocuments ds

/-- A query result as it is shown. -/
def Value.showQuery : QueryResult Key Value → String
  | ⟨ds, n, s⟩ =>
    showRecord "QueryResult"
      [("documents", showList (Value.showDocuments ds)), ("is_404", showBool n),
        ("is_search", showBool s)]

end

/-- A value as plain text: a text as it is, a moment as it is written, every other value as it is
shown. -/
def Value.text : Value → String
  | .str s => s
  | .moment m => m.text
  | v => v.show

/-- A list of texts as it is shown. -/
def showTexts (items : List String) : String :=
  showList (items.map Text.quote)

end PageTree
