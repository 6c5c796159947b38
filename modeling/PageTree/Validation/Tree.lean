import PageTree.Text.Blank
import PageTree.Validation.Finding
import PageTree.Value.Equality

/-!
# Validation of trees

Whether data can be read as a tree.  A tree is a text or a mapping with a type, whose configuration
is a mapping and whose children are a list of trees; both may be missing.  Where the known types are
given, an unknown one is worth a warning, since such nodes stay as they are.
-/

namespace PageTree.Tree

/-- What stands after the last slash of a type. -/
def lastPart (type : String) : List Char :=
  (type.toList.reverse.takeWhile (· != '/')).reverse

/-- The known types in which the last part of a type occurs. -/
def similarTypes (known : List String) (type : String) : List String :=
  known.filter fun t => Text.occursIn (lastPart type) t.toList

/-- A warning about a type that is not known. -/
def unknownType (known : List String) (path type : String) : Finding :=
  let similar := similarTypes known type
  .warning ("Unknown component type: '" ++ type ++ "'") (some path)
    (some
      (if similar.isEmpty then "Node will pass through unresolved"
        else "Similar types: " ++ showTexts similar))

/-- The type that data gives, under the first of its two names. -/
def typeOf (entries : Entries) : Value :=
  match Entries.find? entries "type" with
  | some t => t
  | none => Entries.lookup entries "name"

/-- Findings about the type of a node. -/
def checkType (known : Option (List String)) (path : String) (entries : Entries) : List Finding :=
  match typeOf entries with
  | .null =>
    [.error "Node missing 'type'" (some path) (some "Add 'type' (use \"\" for a fragment)")]
  | .str type =>
    match known with
    | none => []
    | some known => if type = "" || known.contains type then [] else [unknownType known path type]
  | _ => [.error "Node 'type' must be a string" (some path) none]

/-- Findings about the configuration of a node. -/
def checkConfig (path : String) (entries : Entries) : List Finding :=
  match Entries.lookup entries "config" with
  | .null => []
  | .map _ => []
  | _ => [.error "Node 'config' must be a mapping" (some (path ++ ".config")) none]

mutual

/-- Findings about the data of a tree. -/
def checkNode (known : Option (List String)) (path : String) : Value → List Finding
  | .str _ => []
  | .map entries =>
    checkType known path entries ++ checkConfig path entries ++ checkChildren known path entries
  | v => [.error ("Node must be a mapping or text, got " ++ v.kind) (some path) none]

/-- Findings about the children under the first entry for them. -/
def checkChildren (known : Option (List String)) (path : String) :
    List (Key × Value) → List Finding
  | [] => []
  | (k, v) :: rest =>
    if k.same (.str "children") then checkList known (path ++ ".children") v
    else checkChildren known path rest

/-- Findings about a value that has to be a list of children. -/
def checkList (known : Option (List String)) (path : String) : Value → List Finding
  | .null => []
  | .list vs => checkItems known path 0 vs
  | _ => [.error "Node 'children' must be a list" (some path) none]

/-- Findings about children, counted from `i` on. -/
def checkItems (known : Option (List String)) (path : String) (i : Nat) :
    List Value → List Finding
  | [] => []
  | .null :: vs => checkItems known path (i + 1) vs
  | v :: vs =>
    checkNode known (path ++ "[" ++ toString i ++ "]") v ++ checkItems known path (i + 1) vs

end

/-- Validates the data of a tree. -/
def validate (known : Option (List String)) (data : Value) : Findings :=
  .ofList (checkNode known "root" data)

end PageTree.Tree
