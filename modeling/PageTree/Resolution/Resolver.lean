import PageTree.Registry.Basic
import PageTree.Resolution.Trace

/-!
# Resolution

A resolver walks a tree and applies the definitions of a registry.  At every node it looks up the
definition of the node's type, fills in the defaults, selects the data the definition asks for, and
runs its transform.  A changed result is resolved again at the same place, so that a change of type
selects another definition; then the children are resolved, those included that a transform has just
made.

Every level of nesting costs one unit of depth, and so does every repeated application at one place
after the first change.  All recursion is on the units of depth that are left, the *room*: a node
that is met with no room left is returned as it stands.  A failure at one node is recorded and never
stops the rest.

`Run` carries the report of a computation along with its result, also when the computation fails.
Reports only ever grow at their end.
-/

namespace PageTree

/-- What a resolution reports: its problems, one trace for each application, its counts and its log.
Traces are numbered by their place. -/
structure Report where
  records : List Record
  traces : List Trace
  counters : Counters
  notices : List Notice

namespace Report

/-- Nothing was reported. -/
def empty : Report where
  records := []
  traces := []
  counters := Counters.zero
  notices := []

/-- A report followed by another. -/
def append (a b : Report) : Report where
  records := a.records ++ b.records
  traces := a.traces ++ b.traces
  counters := a.counters.add b.counters
  notices := a.notices ++ b.notices

/-- A report of counts only. -/
def counting (c : Counters) : Report :=
  { empty with counters := c }

/-- The numbered traces that are kept at a level. -/
def tracesAt (r : Report) (level : TraceLevel) : List Trace :=
  ((r.traces.mapIdx fun i t => { t with index := i }).filter (·.keptAt level)).map
    (·.atLevel level)

end Report

/-- A computation with its report. -/
structure Run (α : Type) where
  report : Report
  result : Except Fault α

namespace Run

/-- A computation without anything to report. -/
def pure {α : Type} (a : α) : Run α :=
  ⟨Report.empty, .ok a⟩

/-- A computation that fails without anything to report. -/
def fail {α : Type} (e : Fault) : Run α :=
  ⟨Report.empty, .error e⟩

/-- A computation followed by one that uses its result. -/
def bind {α β : Type} (x : Run α) (f : α → Run β) : Run β :=
  match x.result with
  | .error e => ⟨x.report, .error e⟩
  | .ok a => ⟨x.report.append (f a).report, (f a).result⟩

instance : Monad Run where
  pure := Run.pure
  bind := Run.bind

/-- A report by itself. -/
def tell (r : Report) : Run Unit :=
  ⟨r, .ok ()⟩

/-- A result that may be a fault, with nothing to report. -/
def lift {α : Type} (x : Except Fault α) : Run α :=
  ⟨Report.empty, x⟩

end Run

/-- What a resolver works with. -/
structure Resolver where
  registry : Registry
  maxDepth : Nat
  traceLevel : TraceLevel
  strict : Bool

/-- What an application of a definition gives. -/
inductive Applied where
  /-- The application failed; the node with its defaults stays. -/
  | failed (n : Node)
  | dropped
  | text (s : String)
  | node (n : Node)

/-- How a place of the tree goes on after one round. -/
inductive Turn where
  /-- The node is final, and its children are resolved next. -/
  | settled (n : Node)
  /-- The place is dropped or becomes a text. -/
  | ended (c : Option Child)
  /-- The node has changed and is resolved again. -/
  | changed (n : Node)

namespace Resolver

/-- Records a problem at a node. -/
def report (kind : RecordKind) (message : String) (n : Node) (depth : Nat) (details : Entries)
    (recovery : Recovery) : Record where
  kind := kind
  message := message
  nodeType := some n.type
  depth := some depth
  details := details
  recovered := true
  recovery := some recovery

/-- What a resolution reports when a piece of data does not fit its declaration. -/
def misfit (n : Node) (depth : Nat) (name : Key) (r : Requirement) (e : CoercionFault) : Report :=
  { Report.empty with
    records :=
      [report .coercion
        ("'" ++ name.text ++ "' from '" ++ r.source.text ++ "': " ++ e.message) n depth []
        .zeroValue]
    notices :=
      [Notice.warn
        ("Component '" ++ n.type ++ "': data '" ++ name.text ++ "' from '" ++ r.source.text ++
          "' is not " ++ r.type.text ++ " (" ++ e.message ++ "); using zero value")] }

/-- Selects one piece of declared data from the context. -/
def selectOne (context : Context) (n : Node) (depth : Nat) (name : Key) (r : Requirement) :
    Run Value := do
  let key ← Run.lift r.source.toKey
  match (context.get? key).getD .null with
  | .null => if r.default.isNull then Run.lift (TypeTag.zeroOf r.type) else Run.pure r.default
  | v =>
    match ← Run.lift (TypeTag.coerceTo r.type v) with
    | .ok w => Run.pure w
    | .error e => do
      Run.tell (misfit n depth name r e)
      Run.lift (TypeTag.zeroOf r.type)

/-- Selects all declared data from the context. -/
def select (context : Context) (n : Node) (depth : Nat) :
    List (Key × Requirement) → Run Entries
  | [] => Run.pure []
  | (name, r) :: rest => do
    let v ← selectOne context n depth name r
    let vs ← select context n depth rest
    Run.pure ((name, v) :: vs)

/-- The trace of an application, its place still to be numbered. -/
def trace (n : Node) (depth : Nat) (data : Entries) (resultType : Option String)
    (error : Option TraceError) : Trace :=
  (Trace.start 0 n.type depth data n.config).finish resultType error true

/-- What a resolution reports when the transform of a node fails. -/
def transformFailure (n : Node) (depth : Nat) (data : Entries) (e : Fault) : Report :=
  { Report.empty with
    records :=
      [report .transformFailed e.message n depth [(.str "exception", .str e.kind)] .keptNode]
    traces := [trace n depth data (some n.type) (some ⟨e.kind, e.message⟩)]
    notices :=
      [Notice.warn ("Transform for component '" ++ n.type ++ "' failed: " ++ e.message)] }

/-- What a resolution reports when a transform gives something that is no node. -/
def invalidResult (n : Node) (depth : Nat) (data : Entries) (reason : String) : Report :=
  let message :=
    "Transform for component '" ++ n.type ++ "' returned an invalid node: " ++ reason
  { Report.empty with
    records := [report .invalidResult message n depth [] .keptNode]
    traces := [trace n depth data (some n.type) (some ⟨TraceError.warningKind, message⟩)]
    notices := [Notice.warn message] }

/-- What a resolution reports when it meets a node at a depth with no room left. -/
def exceeded (maxDepth : Nat) (n : Node) (depth : Nat) : Report :=
  let message :=
    "Maximum resolution depth " ++ toString maxDepth ++ " reached at component '" ++ n.type ++
      "'; returning it unresolved"
  { records := [report .depthExceeded message n depth [] .stopped]
    traces := [trace n depth [] (some n.type) (some ⟨TraceError.warningKind, message⟩)]
    counters := { Counters.zero with exceeded := 1, deepest := depth }
    notices := [Notice.warn message] }

/-- What the result of a transform stands for, or why it stands for nothing. -/
def normalize (v : Value) : Except String Applied :=
  match v with
  | .null => .ok .dropped
  | .str s => .ok (.text s)
  | .node n => .ok (.node n)
  | .map entries =>
    match Node.ofValue (.map entries) with
    | .ok n => .ok (.node n)
    | .error e => .error e.message
  | _ => .error ("transform returned " ++ v.kind)

/-- The type that the trace of a successful application gives to its result. -/
def resultType : Applied → Option String
  | .failed n => some n.type
  | .dropped => none
  | .text _ => some "text"
  | .node n => some n.type

/-- Runs the action of a definition on a node that has its defaults. -/
def act (context : Context) (a : Action) (n : Node) (data : Entries) : Except Fault Value :=
  match a with
  | .run t => t.apply n data context
  | .inert v => .error (.notCallable v.kind)

/-- Judges what an action gave. -/
def judge (n : Node) (depth : Nat) (data : Entries) (result : Except Fault Value) :
    Run Applied :=
  match result with
  | .error e => ⟨transformFailure n depth data e, .ok (.failed n)⟩
  | .ok v =>
    match normalize v with
    | .error reason => ⟨invalidResult n depth data reason, .ok (.failed n)⟩
    | .ok a => ⟨{ Report.empty with traces := [trace n depth data (resultType a) none] }, .ok a⟩

/-- Applies a definition to a node. -/
def applyDefinition (context : Context) (d : Definition) (n : Node) (depth : Nat) :
    Run Applied := do
  Run.tell (Report.counting { Counters.zero with applied := 1 })
  let n := n.withDefaults d.defaults
  match d.action with
  | none => Run.pure (.node n)
  | some a => do
    let data ← select context n depth d.requirements
    judge n depth data (act context a n data)

/-- What one round at a place leads to, given what the definition of the node made of it. -/
def turnOf (d : Definition) (n : Node) : Applied → Run Turn
  | .failed m => Run.pure (.settled m)
  | .dropped => ⟨Report.counting { Counters.zero with dropped := 1 }, .ok (.ended none)⟩
  | .text s =>
    ⟨Report.counting { Counters.zero with texts := 1 }, .ok (.ended (some (.text s)))⟩
  | .node m =>
    -- without a transform, the node has only got its defaults
    if m.same n || d.action.isNone then Run.pure (.settled m) else Run.pure (.changed m)

/-- One round at a place: a node without a definition passes through. -/
def turn (r : Resolver) (context : Context) (depth : Nat) (n : Node) : Run Turn := do
  Run.tell (Report.counting { Counters.zero with deepest := depth })
  match r.registry.get? n.type with
  | none =>
    ⟨Report.counting { Counters.zero with passed := if n.type = "" then 0 else 1 },
      .ok (.settled n)⟩
  | some d => do
    let a ← applyDefinition context d n depth
    turnOf d n a

/-- Resolves children one after the other, given how a node is resolved; what is dropped is left
out. -/
def resolveList (visit : Node → Run (Option Child)) : List Child → Run (List Child)
  | [] => Run.pure []
  | .text s :: cs => do
    Run.tell (Report.counting { Counters.zero with texts := 1 })
    let rest ← resolveList visit cs
    Run.pure (.text s :: rest)
  | .node n :: cs => do
    let c ← visit n
    let rest ← resolveList visit cs
    Run.pure (c.toList ++ rest)

/-- A final node with resolved children: the node itself when they are as before, and otherwise
without texts that became empty. -/
def rebuild (n : Node) (children : List Child) : Node :=
  if Child.sameAll children n.children then n
  else n.withChildren (children.filter fun c => !c.isEmpty)

/-- Resolves the children of a final node. -/
def descend (visit : Node → Run (Option Child)) (n : Node) : Run (Option Child) :=
  if n.children.isEmpty then Run.pure (some (.node n))
  else do
    let children ← resolveList visit n.children
    Run.pure (some (.node (rebuild n children)))

/-- Goes on after a round, given how children are resolved and how a changed node is. -/
def proceed (visit again : Node → Run (Option Child)) : Turn → Run (Option Child)
  | .settled n => descend visit n
  | .ended c => Run.pure c
  | .changed n => again n

/-- A node that is met at a depth with no room left. -/
def stop (r : Resolver) (n : Node) (depth : Nat) : Run (Option Child) :=
  ⟨exceeded r.maxDepth n depth, .ok (some (.node n))⟩

/-- Counts a node that is visited for the first time. -/
def countVisit : Report :=
  Report.counting { Counters.zero with visited := 1 }

mutual

/-- Resolves a node that has just been reached, with the given room left. -/
def visit (r : Resolver) (context : Context) : Nat → Node → Run (Option Child)
  | 0, n => do
    Run.tell countVisit
    r.stop n r.maxDepth
  | room + 1, n => do
    Run.tell countVisit
    let t ← r.turn context (r.maxDepth - (room + 1)) n
    -- the first change at a place costs no room, and every later one does
    proceed (r.visit context room)
      (fun m => do
        let t ← r.turn context (r.maxDepth - (room + 1)) m
        proceed (r.visit context room) (r.again context room) t) t

/-- Resolves a node that has been changed more than once at its place, with the given room left. -/
def again (r : Resolver) (context : Context) : Nat → Node → Run (Option Child)
  | 0, n => r.stop n r.maxDepth
  | room + 1, n => do
    let t ← r.turn context (r.maxDepth - (room + 1)) n
    proceed (r.visit context room) (r.again context room) t

end

/-- The root of a tree: a text, a node, or data in storage shape. -/
def rootOf (v : Value) : Except Fault Child :=
  match v with
  | .str s => .ok (.text s)
  | _ => Child.node <$> Node.ofValue v

/-- Resolves a tree. -/
def resolveTree (r : Resolver) (context : Context) (root : Value) : Run (Option Child) := do
  match ← Run.lift (rootOf root) with
  | .text s => ⟨Report.counting { Counters.zero with texts := 1 }, .ok (some (.text s))⟩
  | .node n => r.visit context r.maxDepth n

/-- Resolves a sequence of trees; what is dropped is left out. -/
def resolveTrees (r : Resolver) (context : Context) : List Value → Run (List Child)
  | [] => Run.pure []
  | v :: vs => do
    let c ← r.resolveTree context v
    let cs ← resolveTrees r context vs
    Run.pure (c.toList ++ cs)

end Resolver

/-- A tree after its resolution. -/
structure Resolution (α : Type) where
  tree : α
  records : List Record
  counters : Counters
  traces : List Trace

/-- Why a resolution gives no tree: a fault outside all transforms, or, for a strict resolver, the
problems that were recorded. -/
inductive ResolutionFault where
  | fault (e : Fault)
  | strict (first : Record) (records : List Record)

/-- The text of a resolution fault. -/
def ResolutionFault.message : ResolutionFault → String
  | fault e => e.message
  | strict first records =>
    "Resolution recorded " ++ toString records.length ++ " error(s): " ++ first.text

namespace Resolver

/-- Finishes a run: a strict resolver refuses one that recorded a problem. -/
def finish {α : Type} (r : Resolver) (run : Run α) : Except ResolutionFault (Resolution α) :=
  match run.result with
  | .error e => .error (.fault e)
  | .ok tree =>
    match run.report.records with
    | first :: rest =>
      if r.strict then .error (.strict first (first :: rest))
      else
        .ok ⟨tree, first :: rest, run.report.counters, run.report.tracesAt r.traceLevel⟩
    | [] => .ok ⟨tree, [], run.report.counters, run.report.tracesAt r.traceLevel⟩

/-- The depth bound that a setting gives: the least whole number that is not below it. -/
def depthOf (setting : Value) : Except Fault Nat := do
  let bound ← match setting with
    | .int i => .ok i
    | .bool b => .ok (if b then 1 else 0)
    | .float x =>
      match Binary.ofFloat x with
      | .finite s m e =>
        let whole := (Binary.finite s m e).truncate?.getD 0
        .ok (if (Binary.ofInt whole).order? (.finite s m e) = some .lt then whole + 1 else whole)
      | _ => .error .infiniteInteger
    | v => .error (.notInteger v.kind)
  if bound < 1 then .error .badDepth else .ok bound.toNat

/-- The depth bound of a resolver for which none is given. -/
def defaultDepth : Nat := 32

end Resolver

end PageTree
