import PageTree.Value.Display
import PageTree.Value.Equality

/-!
# Records

What a resolution reports besides its result.  A `Record` is a problem at one node, a `Notice` is a
line of the log, and `Counters` count what was done.
-/

namespace PageTree

/-- The kinds of problems. -/
inductive RecordKind where
  | depthExceeded
  | transformFailed
  | invalidResult
  | coercion
  | other (name : String)
  deriving DecidableEq

/-- The name of a kind of problem. -/
def RecordKind.name : RecordKind → String
  | depthExceeded => "depth_exceeded"
  | transformFailed => "transform_failed"
  | invalidResult => "invalid_result"
  | coercion => "coercion"
  | other name => name

/-- How a resolution goes on after a problem. -/
inductive Recovery where
  | stopped
  | keptNode
  | zeroValue
  | other (name : String)
  deriving DecidableEq

/-- The name of a recovery. -/
def Recovery.name : Recovery → String
  | stopped => "stopped"
  | keptNode => "kept_node"
  | zeroValue => "zero_value"
  | other name => name

/-- A problem at one node. -/
structure Record where
  kind : RecordKind
  message : String
  nodeType : Option String
  depth : Option Int
  details : Entries
  recovered : Bool
  recovery : Option Recovery

/-- A record as text. -/
def Record.text (r : Record) : String :=
  let place := match r.nodeType with
    | some t => if t = "" then "" else " [" ++ t ++ "]"
    | none => ""
  r.kind.name ++ place ++ ": " ++ r.message

/-- The importance of a line of the log. -/
inductive NoticeLevel where
  | warning
  | error
  deriving DecidableEq

/-- The name of a level of the log. -/
def NoticeLevel.name : NoticeLevel → String
  | warning => "WARNING"
  | error => "ERROR"

/-- A line of the log. -/
structure Notice where
  level : NoticeLevel
  text : String

/-- A warning. -/
def Notice.warn (text : String) : Notice :=
  ⟨.warning, text⟩

/-- A line that reports an error. -/
def Notice.fail (text : String) : Notice :=
  ⟨.error, text⟩

/-- What was done in a resolution. -/
structure Counters where
  visited : Nat
  applied : Nat
  passed : Nat
  texts : Nat
  dropped : Nat
  exceeded : Nat
  deepest : Nat
  deriving DecidableEq, Repr

namespace Counters

/-- Nothing was done. -/
def zero : Counters := ⟨0, 0, 0, 0, 0, 0, 0⟩

/-- What two parts of a resolution did together. -/
def add (a b : Counters) : Counters where
  visited := a.visited + b.visited
  applied := a.applied + b.applied
  passed := a.passed + b.passed
  texts := a.texts + b.texts
  dropped := a.dropped + b.dropped
  exceeded := a.exceeded + b.exceeded
  deepest := max a.deepest b.deepest

end Counters

end PageTree
