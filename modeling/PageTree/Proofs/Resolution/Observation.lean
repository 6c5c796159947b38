import Mathlib.Data.List.Basic
import Mathlib.Data.List.Induction
import PageTree.Proofs.Resolution.Rules

/-!
# Observation

How closely a resolution is watched, and whether its resolver is strict, has no part in what it
does.

The run of a tree does not depend on the level of its traces nor on strictness
(`resolveTree_observing`).  A tracer that opens and ends one trace for each application, in order,
lists the traces that a report shows at its level (`Tracer.traces_recordAll`): a trace that is not
kept still takes a number, so that the numbers are the same at all levels.

`Watched` collects what this means for the outcomes of one run at all levels, and
`observation_does_not_interfere` states it for one tree and for several.
-/

namespace PageTree

namespace Trace

/-- A trace without the data and the configuration of its node. -/
def bare (t : Trace) : Trace :=
  { t with data := [], config := [] }

/-- An application that was recovered from exactly if it failed. -/
def Ended (t : Trace) : Prop :=
  t.recovered = t.error.isSome

/-- A trace is kept at a level whatever its number is. -/
lemma keptAt_number (level : TraceLevel) (t : Trace) (i : Nat) :
    Trace.keptAt level { t with index := i } = t.keptAt level := by
  cases level <;> rfl

end Trace

/-! ## A tracer that is fed with applications -/

namespace Tracer

/-- Opens the trace of an application, and ends it. -/
def record (t : Tracer) (x : Trace) : Tracer :=
  (t.start x.nodeType x.depth x.data x.config).finish t.opened.length x.resultType x.error
    x.recovered x.duration

/-- Records applications one after the other. -/
def recordAll (t : Tracer) (xs : List Trace) : Tracer :=
  xs.foldl record t

/-- Opening and ending the trace of an application gives that trace, as it is shown at the level. -/
lemma finish_start {x : Trace} (hx : x.Ended) (level : TraceLevel) (i : Nat) :
    { (((Trace.start i x.nodeType x.depth x.data x.config).atLevel level).finish x.resultType
        x.error x.recovered) with duration := x.duration } =
      Trace.atLevel level { x with index := i } := by
  obtain ⟨index, type, depth, duration, data, config, result, error, recovered⟩ := x
  have hrecovered : recovered = error.isSome := hx
  subst hrecovered
  cases level <;> cases error <;> rfl

/-- A recorded application is opened last, and listed if it is kept at the level. -/
lemma record_eq {x : Trace} (hx : x.Ended) (t : Tracer) :
    t.record x =
      { level := t.level
        opened := t.opened ++ [Trace.atLevel t.level { x with index := t.opened.length }]
        listed := if x.keptAt t.level then t.listed ++ [t.opened.length] else t.listed } := by
  have hkept : Trace.keptAt t.level (Trace.atLevel t.level { x with index := t.opened.length }) =
      x.keptAt t.level := by
    cases t.level <;> rfl
  have hopened : (t.opened ++ [(Trace.start t.opened.length x.nodeType x.depth x.data
      x.config).atLevel t.level])[t.opened.length]? =
        some ((Trace.start t.opened.length x.nodeType x.depth x.data x.config).atLevel t.level) :=
    List.getElem?_concat_length
  unfold record start finish
  simp only [hopened, finish_start hx, hkept, List.set_append_right _ _ (Nat.le_refl _),
    Nat.sub_self, List.set_cons_zero]

/-- A tracer has recorded applications: it has opened one trace for each of them, and lists those
that a report shows at its level. -/
structure Records (level : TraceLevel) (xs : List Trace) (t : Tracer) : Prop where
  atLevel : t.level = level
  opened : t.opened.length = xs.length
  listed : ∀ i ∈ t.listed, i < xs.length
  traces : t.traces = { Report.empty with traces := xs }.tracesAt level

/-- An empty tracer has recorded nothing. -/
lemma records_empty (level : TraceLevel) : Records level [] (Tracer.empty level) where
  atLevel := rfl
  opened := rfl
  listed := by
    intro i hi
    cases hi
  traces := rfl

/-- The traces that are shown of one more application. -/
lemma tracesAt_concat (level : TraceLevel) (xs : List Trace) (x : Trace) :
    { Report.empty with traces := xs ++ [x] }.tracesAt level =
      { Report.empty with traces := xs }.tracesAt level ++
        if x.keptAt level then [Trace.atLevel level { x with index := xs.length }] else [] := by
  unfold Report.tracesAt
  simp only [List.mapIdx_concat, List.filter_append, List.map_append, List.filter_cons,
    List.filter_nil, Trace.keptAt_number]
  split <;> rfl

/-- Recording one more application. -/
lemma Records.record {level : TraceLevel} {xs : List Trace} {t : Tracer} (h : Records level xs t)
    {x : Trace} (hx : x.Ended) : Records level (xs ++ [x]) (t.record x) := by
  obtain ⟨rfl, hopened, hlisted, htraces⟩ := h
  -- what was opened before keeps its place
  have hbefore : t.listed.filterMap (fun i => (t.opened ++
      [Trace.atLevel t.level { x with index := t.opened.length }])[i]?) = t.traces := by
    refine List.filterMap_congr fun i hi => ?_
    exact List.getElem?_append_left (hopened ▸ hlisted i hi)
  rw [record_eq hx]
  refine ⟨rfl, ?_, ?_, ?_⟩
  · simp only [List.length_append, hopened, List.length_singleton]
  · intro i hi
    rw [List.length_append, List.length_singleton]
    split at hi
    · rcases List.mem_append.mp hi with hi | hi
      · exact Nat.lt_succ_of_lt (hlisted i hi)
      · rw [List.mem_singleton.mp hi, hopened]
        exact Nat.lt_succ_self _
    · exact Nat.lt_succ_of_lt (hlisted i hi)
  · rw [tracesAt_concat, ← htraces, ← hopened]
    unfold Tracer.traces at hbefore ⊢
    split
    · rw [List.filterMap_append, hbefore]
      simp
    · rw [hbefore, List.append_nil]

/-- A tracer that records applications one after the other lists what a report of them shows. -/
theorem traces_recordAll (level : TraceLevel) (xs : List Trace) (hxs : ∀ x ∈ xs, x.Ended) :
    Records level xs ((Tracer.empty level).recordAll xs) := by
  induction xs using List.reverseRecOn with
  | nil => exact records_empty level
  | append_singleton xs x ih =>
    have hbefore := ih fun y hy => hxs y (List.mem_append_left _ hy)
    have hx := hxs x (List.mem_append_right _ List.mem_cons_self)
    unfold recordAll at hbefore ⊢
    rw [List.foldl_append]
    exact hbefore.record hx

end Tracer

namespace Resolver

variable (context : Context) (r : Resolver)

/-! ## Runs at all levels -/

/-- A resolver that observes at a level, and is strict or not. -/
def observing (r : Resolver) (level : TraceLevel) (strict : Bool) : Resolver :=
  { r with traceLevel := level, strict }

/-- What is given back for a tree: its resolution, or why there is none. -/
def outcome (root : Value) : Except ResolutionFault (Resolution (Option Child)) :=
  r.finish (r.resolveTree context root)

/-- What is given back for several trees. -/
def outcomes (roots : List Value) : Except ResolutionFault (Resolution (List Child)) :=
  r.finish (r.resolveTrees context roots)

/-- Neither the level nor strictness has a part in the work at a node. -/
lemma visit_observing (level : TraceLevel) (strict : Bool) (room : Nat) :
    (r.observing level strict).visit context room = r.visit context room ∧
      (r.observing level strict).again context room = r.again context room := by
  have hturn : (r.observing level strict).turn context = r.turn context := rfl
  induction room with
  | zero => exact ⟨rfl, rfl⟩
  | succ room ih =>
    obtain ⟨hvisit, hagain⟩ := ih
    have hagain' : (r.observing level strict).again context (room + 1) =
        r.again context (room + 1) := by
      funext n
      rw [again, again, hturn, hvisit, hagain]
      rfl
    refine ⟨?_, hagain'⟩
    funext n
    rw [visit, visit, hturn, hvisit, hagain]
    rfl

/-- The run of a tree is the same at every level, strict or not. -/
lemma resolveTree_observing (level : TraceLevel) (strict : Bool) (root : Value) :
    (r.observing level strict).resolveTree context root = r.resolveTree context root := by
  have hvisit := (visit_observing context r level strict r.maxDepth).1
  unfold resolveTree
  rw [← hvisit]
  rfl

/-- The run of several trees is the same at every level, strict or not. -/
lemma resolveTrees_observing (level : TraceLevel) (strict : Bool) (roots : List Value) :
    (r.observing level strict).resolveTrees context roots = r.resolveTrees context roots := by
  induction roots with
  | nil => rfl
  | cons root roots ih => rw [resolveTrees_cons, resolveTrees_cons, resolveTree_observing, ih]

/-! ## The applications of a run -/

/-- A report of applications that have ended. -/
def AllEnded (report : Report) : Prop :=
  ∀ x ∈ report.traces, x.Ended

/-- The trace of an application has ended. -/
lemma trace_ended (n : Node) (depth : Nat) (data : Entries) (result : Option String)
    (error : Option TraceError) : (trace n depth data result error).Ended := by
  cases error <;> rfl

/-- Judging what a transform gave reports one application, which has ended. -/
lemma judge_allEnded (n : Node) (depth : Nat) (data : Entries) (x : Except Fault Value) :
    AllEnded (judge n depth data x).report := by
  intro t ht
  unfold judge at ht
  split at ht
  · rw [List.mem_singleton.mp ht]
    exact trace_ended _ _ _ _ _
  · split at ht
    · rw [List.mem_singleton.mp ht]
      exact trace_ended _ _ _ _ _
    · rw [List.mem_singleton.mp ht]
      exact trace_ended _ _ _ _ _

/-- A round reports applications that have ended. -/
lemma turn_allEnded (depth : Nat) (n : Node) : AllEnded (r.turn context depth n).report := by
  cases hd : r.registry.get? n.type with
  | none =>
    rw [turn_undefined context r hd]
    intro t ht
    cases ht
  | some d =>
    cases ha : d.action with
    | none =>
      rw [turn_inert context r hd ha]
      intro t ht
      cases ht
    | some a =>
      have hselect := select_report context (n.withDefaults d.defaults) depth d.requirements
      cases hdata : dataFor context d.requirements with
      | error e =>
        rw [turn_starved context r hd ha hdata]
        intro t ht
        rw [Report.traces_append, hselect.traces] at ht
        cases ht
      | ok data =>
        obtain ⟨v, hv, -⟩ := judge_spec (n.withDefaults d.defaults) depth data
          (act context a (n.withDefaults d.defaults) data)
        rw [turn_judges context r hd ha hdata hv]
        intro t ht
        rw [Report.traces_append, Report.traces_append, Report.traces_append, hselect.traces,
          turnOf_traces, List.append_nil] at ht
        exact judge_allEnded _ _ _ _ t ht

/-- Every step of a resolution reports applications that have ended. -/
lemma allEnded_composes : Composes context r AllEnded where
  empty := by
    intro t ht
    cases ht
  append a b ha hb := by
    intro t ht
    rcases List.mem_append.mp ht with ht | ht
    · exact ha t ht
    · exact hb t ht
  visit := by
    intro t ht
    cases ht
  text := by
    intro t ht
    cases ht
  turn depth n _ := turn_allEnded context r depth n
  stop n := by
    intro t ht
    rw [List.mem_singleton.mp ht]
    exact trace_ended _ _ _ _ _

/-! ## Outcomes -/

/-- The outcomes of one run that gives `tree`, by the level at which it is observed and by
strictness.  A lenient resolver gives the tree, the problems and the counts whatever the level is.
A strict one gives the same if there was no problem, and otherwise fails with exactly the problems.
The traces are those of a tracer that recorded all applications.  At the highest level there is one
for each of them, numbered in order, with the data and the configuration that were recorded; the
steps are these without data and configuration, the level of failures has the failures among the
steps, and the lowest one has none. -/
structure Watched {α : Type} (run : Run α) (tree : α)
    (f : TraceLevel → Bool → Except ResolutionFault (Resolution α)) : Prop where
  lenient : ∀ level, f level false =
    .ok ⟨tree, run.report.records, run.report.counters, run.report.tracesAt level⟩
  strict_ok : run.report.records = [] → ∀ level, f level true = f level false
  strict_fails : ∀ first rest, run.report.records = first :: rest → ∀ level,
    f level true = .error (.strict first run.report.records)
  none : run.report.tracesAt .none = []
  errors : run.report.tracesAt .errors = (run.report.tracesAt .steps).filter fun t => !t.success
  steps : run.report.tracesAt .steps = (run.report.tracesAt .detailed).map Trace.bare
  detailed : run.report.tracesAt .detailed =
    run.report.traces.mapIdx fun i t => { t with index := i }
  recorded : ∀ level, run.report.tracesAt level =
    ((Tracer.empty level).recordAll run.report.traces).traces

/-- The numbers of the traces, and which of them succeeded, are the same at the level of failures
and at that of all steps. -/
lemma tracesAt_errors (report : Report) :
    report.tracesAt .errors = (report.tracesAt .steps).filter fun t => !t.success := by
  have hsuccess : ((fun t => !t.success) ∘ Trace.atLevel .steps) = Trace.keptAt .errors := rfl
  have hsteps : ∀ t : Trace, t.keptAt .steps = true := fun _ => rfl
  unfold Report.tracesAt
  rw [List.filter_map, hsuccess, List.filter_filter]
  simp only [hsteps, Bool.and_true]
  rfl

/-- At the highest level every application has a trace, with all that was recorded. -/
lemma tracesAt_detailed (report : Report) :
    report.tracesAt .detailed = report.traces.mapIdx fun i t => { t with index := i } := by
  have hkept : ∀ t : Trace, t.keptAt .detailed = true := fun _ => rfl
  have hshown : Trace.atLevel .detailed = id := rfl
  unfold Report.tracesAt
  simp only [hkept, List.filter_true, hshown, List.map_id]

/-- The steps are the same traces without data and configuration. -/
lemma tracesAt_steps (report : Report) :
    report.tracesAt .steps = (report.tracesAt .detailed).map Trace.bare := by
  unfold Report.tracesAt
  rw [List.map_map]
  rfl

/-- At the lowest level no trace is there. -/
lemma tracesAt_none (report : Report) : report.tracesAt .none = [] := by
  have hnone : ∀ t : Trace, t.keptAt .none = false := fun _ => rfl
  unfold Report.tracesAt
  simp only [hnone, List.filter_false, List.map_nil]

/-- Finishing a run of ended applications that gives a tree, at every level and strictly or not. -/
lemma watched_finish {α : Type} {run : Run α} {tree : α} (htree : run.result = .ok tree)
    (hended : AllEnded run.report) :
    Watched run tree fun level strict => (r.observing level strict).finish run where
  lenient level := by
    unfold finish
    rw [htree]
    cases run.report.records <;> rfl
  strict_ok hrecords level := by
    unfold finish
    rw [htree, hrecords]
    rfl
  strict_fails first rest hrecords level := by
    unfold finish
    rw [htree, hrecords]
    rfl
  none := tracesAt_none run.report
  errors := tracesAt_errors run.report
  steps := tracesAt_steps run.report
  detailed := tracesAt_detailed run.report
  recorded level := (Tracer.traces_recordAll level run.report.traces hended).traces.symm

/-- A run that fails outside all transforms fails at every level, strictly or not. -/
lemma finish_of_fault {α : Type} {run : Run α} {e : Fault} (he : run.result = .error e) :
    r.finish run = .error (.fault e) := by
  unfold finish
  rw [he]

/-- Observation does not interfere.  For every tree, and for several trees, either the run fails
outside all transforms, at every level, strictly or not, or its outcomes at all levels are those of
one run (`Watched`). -/
theorem observation_does_not_interfere :
    (∀ root,
      (∃ e, (r.resolveTree context root).result = .error e ∧
        ∀ level strict, outcome context (r.observing level strict) root = .error (.fault e)) ∨
      ∃ tree, (r.resolveTree context root).result = .ok tree ∧
        Watched (r.resolveTree context root) tree fun level strict =>
          outcome context (r.observing level strict) root) ∧
    (∀ roots,
      (∃ e, (r.resolveTrees context roots).result = .error e ∧
        ∀ level strict, outcomes context (r.observing level strict) roots = .error (.fault e)) ∨
      ∃ trees, (r.resolveTrees context roots).result = .ok trees ∧
        Watched (r.resolveTrees context roots) trees fun level strict =>
          outcomes context (r.observing level strict) roots) := by
  have hcomposes := allEnded_composes context r
  refine ⟨fun root => ?_, fun roots => ?_⟩
  · have hended := ((resolves_iff context r root _).mpr rfl).report hcomposes
    unfold outcome
    simp only [resolveTree_observing]
    cases hrun : (r.resolveTree context root).result with
    | error e => exact Or.inl ⟨e, rfl, fun level strict => finish_of_fault _ hrun⟩
    | ok tree => exact Or.inr ⟨tree, rfl, watched_finish r hrun hended⟩
  · have hended := resolveTrees_report hcomposes roots
    unfold outcomes
    simp only [resolveTrees_observing]
    cases hrun : (r.resolveTrees context roots).result with
    | error e => exact Or.inl ⟨e, rfl, fun level strict => finish_of_fault _ hrun⟩
    | ok trees => exact Or.inr ⟨trees, rfl, watched_finish r hrun hended⟩

end Resolver

end PageTree
