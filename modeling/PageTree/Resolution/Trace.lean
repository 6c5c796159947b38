import PageTree.Number.Decimal
import PageTree.Value.Display

/-!
# Traces

A `Trace` describes one application of a definition at one place of a tree.  A `TraceLevel` says
which traces are kept and whether they show data and configuration.  A `Tracer` collects the traces
of a caller who opens and ends them by hand.
-/

namespace PageTree

/-- How much is traced. -/
inductive TraceLevel where
  | none
  | errors
  | steps
  | detailed
  deriving DecidableEq, Repr

namespace TraceLevel

/-- The level of a name in lower case. -/
def ofName? : String → Option TraceLevel
  | "none" => some none
  | "errors" => some errors
  | "steps" => some steps
  | "detailed" => some detailed
  | _ => Option.none

/-- The name of a level in capitals. -/
def name : TraceLevel → String
  | none => "NONE"
  | errors => "ERRORS"
  | steps => "STEPS"
  | detailed => "DETAILED"

/-- The names of all levels in alphabetic order. -/
def sortedNames : List String :=
  ["detailed", "errors", "none", "steps"]

end TraceLevel

/-- Why an application failed: the kind of the failure and its text. -/
structure TraceError where
  kind : String
  message : String
  deriving DecidableEq

/-- The kind under which a trace lists a failure that is a mere message. -/
def TraceError.warningKind : String := "ResolutionWarning"

/-- One application of a definition. -/
structure Trace where
  index : Nat
  nodeType : String
  depth : Int
  duration : Float
  data : Entries
  config : Entries
  /-- The type of what replaced the node: `text` for a text, nothing for a dropped node. -/
  resultType : Option String
  error : Option TraceError
  recovered : Bool

namespace Trace

/-- A trace of an application that has just begun. -/
def start (index : Nat) (nodeType : String) (depth : Int) (data config : Entries) : Trace where
  index := index
  nodeType := nodeType
  depth := depth
  duration := 0.0
  data := data
  config := config
  resultType := none
  error := none
  recovered := false

/-- A trace of an application that has ended.  A failure noted before stays. -/
def finish (t : Trace) (resultType : Option String) (error : Option TraceError)
    (recovered : Bool) : Trace :=
  match error with
  | none => { t with resultType }
  | some e => { t with resultType, error := some e, recovered }

/-- Whether an application succeeded. -/
def success (t : Trace) : Bool :=
  t.error.isNone

/-- Whether a trace is kept at a level. -/
def keptAt (level : TraceLevel) (t : Trace) : Bool :=
  match level with
  | .none => false
  | .errors => !t.success
  | .steps => true
  | .detailed => true

/-- A trace as it is shown at a level: with data and configuration only at the most detailed. -/
def atLevel (level : TraceLevel) (t : Trace) : Trace :=
  match level with
  | .detailed => t
  | _ => { t with data := [], config := [] }

/-- A trace in one line. -/
def text (t : Trace) : String :=
  let status := if t.success then "✓" else "✗"
  let result := match t.resultType with
    | some r => if r ≠ "" && r ≠ t.nodeType then " -> " ++ r else ""
    | none => ""
  let time :=
    if (Binary.ofFloat t.duration).order? (Binary.ofInt 0) = some .gt then
      " " ++ Decimal.fixed 1 t.duration ++ "ms"
    else ""
  status ++ " Node " ++ toString t.index ++ ": " ++ t.nodeType ++ result ++ " (depth " ++
    toString t.depth ++ ")" ++ time

/-- The most characters of a value that a trace shows. -/
def valueWidth : Nat := 80

/-- A value in a trace, cut off when it is long. -/
def clipped (v : Value) : String :=
  let cs := v.text.toList
  if valueWidth < cs.length then String.ofList (cs.take valueWidth) ++ "..." else v.text

/-- Entries in a trace, one a line, under a heading. -/
def paragraph (heading : String) (entries : Entries) : List String :=
  if entries.isEmpty then []
  else ("  " ++ heading ++ ":") :: entries.map fun (k, v) => "    " ++ k.text ++ ": " ++ clipped v

/-- A trace with all it knows. -/
def detailedText (t : Trace) : String :=
  let error := match t.error with
    | some e => if e.message = "" then [] else ["  Error: " ++ e.message]
    | none => []
  joinWith "\n" (t.text :: paragraph "Data" t.data ++ paragraph "Config" t.config ++ error)

/-- A summary of traces. -/
def summary (ts : List Trace) : String :=
  if ts.isEmpty then "No traces recorded"
  else
    let failed := ts.filter fun t => !t.success
    let lines :=
      ["Resolution Trace Summary:", "  Total nodes traced: " ++ toString ts.length,
        "  Errors: " ++ toString failed.length,
        "  Recovered: " ++ toString (ts.filter (·.recovered)).length]
    let failures :=
      if failed.isEmpty then [] else "\nError nodes:" :: failed.map fun t => "  " ++ t.text
    joinWith "\n" (lines ++ failures)

end Trace

/-- A collection of traces that are opened and ended by hand.  A trace can be ended again, which
lists it again. -/
structure Tracer where
  level : TraceLevel
  opened : List Trace
  listed : List Nat

namespace Tracer

/-- A tracer without traces. -/
def empty (level : TraceLevel) : Tracer where
  level := level
  opened := []
  listed := []

/-- Opens a trace; its number is the count of those opened before. -/
def start (t : Tracer) (nodeType : String) (depth : Int) (data config : Entries) : Tracer :=
  let trace := Trace.start t.opened.length nodeType depth data config
  { t with opened := t.opened ++ [trace.atLevel t.level] }

/-- Ends the trace of the given number, which took the given time. -/
def finish (t : Tracer) (index : Nat) (resultType : Option String) (error : Option TraceError)
    (recovered : Bool) (duration : Float) : Tracer :=
  match t.opened[index]? with
  | none => t
  | some trace =>
    let trace := { trace.finish resultType error recovered with duration }
    { t with
      opened := t.opened.set index trace
      listed := if trace.keptAt t.level then t.listed ++ [index] else t.listed }

/-- The listed traces. -/
def traces (t : Tracer) : List Trace :=
  t.listed.filterMap fun i => t.opened[i]?

end Tracer

end PageTree
