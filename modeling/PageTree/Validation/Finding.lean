import PageTree.Value.Display

/-!
# Findings

What a validation finds: each `Finding` has a severity, a message and, where it helps, the place it
is about and a suggestion.  A `Findings` report collects them and says whether the data is valid.
-/

namespace PageTree

/-- How severe a finding is. -/
inductive Severity where
  | error
  | warning
  | info
  | other (name : String)
  deriving DecidableEq, Repr

namespace Severity

/-- The name of a severity. -/
def name : Severity → String
  | error => "error"
  | warning => "warning"
  | info => "info"
  | other name => name

/-- The severity of a name. -/
def ofName : String → Severity
  | "error" => error
  | "warning" => warning
  | "info" => info
  | name => other name

/-- The mark in front of a finding. -/
def mark : Severity → String
  | error => "✗"
  | warning => "⚠"
  | info => "ℹ"
  | other _ => "•"

end Severity

/-- One thing that a validation found. -/
structure Finding where
  severity : Severity
  message : String
  /-- The place in the data. -/
  location : Option String
  suggestion : Option String
  deriving DecidableEq, Repr

namespace Finding

/-- An error. -/
def error (message : String) (location suggestion : Option String) : Finding :=
  ⟨.error, message, location, suggestion⟩

/-- A warning. -/
def warning (message : String) (location suggestion : Option String) : Finding :=
  ⟨.warning, message, location, suggestion⟩

/-- Whether a finding is an error. -/
def isError (f : Finding) : Bool :=
  f.severity == .error

/-- Whether a finding is a warning. -/
def isWarning (f : Finding) : Bool :=
  f.severity == .warning

/-- A line for a part of a finding that is there and not empty. -/
def detail (label : String) : Option String → List String
  | none => []
  | some s => if s = "" then [] else ["  " ++ label ++ ": " ++ s]

/-- A finding as text. -/
def text (f : Finding) : String :=
  joinWith "\n"
    ((f.severity.mark ++ " " ++ f.message) ::
      (detail "Location" f.location ++ detail "Suggestion" f.suggestion))

end Finding

/-- The result of a validation. -/
structure Findings where
  valid : Bool
  items : List Finding
  deriving DecidableEq, Repr

namespace Findings

/-- The result that a list of findings makes: valid unless there is an error among them. -/
def ofList (items : List Finding) : Findings where
  valid := !items.any Finding.isError
  items := items

/-- The errors among the findings. -/
def errors (r : Findings) : List Finding :=
  r.items.filter Finding.isError

/-- The warnings among the findings. -/
def warnings (r : Findings) : List Finding :=
  r.items.filter Finding.isWarning

/-- Findings under a heading with their number; nothing when there are none. -/
def paragraph (heading : String) (items : List Finding) : List String :=
  if items.isEmpty then []
  else
    (heading ++ " (" ++ toString items.length ++ "):") :: items.map fun f => "  " ++ f.text

/-- The result of a validation as text. -/
def text (r : Findings) : String :=
  if r.items.isEmpty then "✓ Validation passed with no issues"
  else
    joinWith "\n"
      (("Validation " ++ if r.valid then "PASSED with warnings" else "FAILED") ::
        String.ofList (List.replicate 50 '=') ::
        (paragraph "Errors" r.errors ++ paragraph "\nWarnings" r.warnings))

end Findings

end PageTree
