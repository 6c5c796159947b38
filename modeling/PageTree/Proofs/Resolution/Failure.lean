import PageTree.Proofs.Resolution.Place

/-!
# Failures stay local

An application that fails is recorded once and leaves its node as it was, with the defaults of its
definition (`KeepsNode`).  It ends the rounds at its place, and the children of the node are
resolved as those of any other node.

What is reported for a node is what is reported for its place, followed by the reports of its
children, each resolved separately one level deeper.  `Apart` says what this means for the problems,
the counts and the numbered traces: none of them depends on what stands before or after.
-/

namespace PageTree

namespace Resolver

variable (context : Context) (r : Resolver)

/-- The application of the definition `d` to the node `m`, which `k` changes at a place have led to,
fails and is recorded once, besides misfits of data.  It is the last one at its place, and the node
is kept as it was, with the defaults of the definition. -/
def KeepsNode (depth k : Nat) (n m : Node) (d : Definition) : Prop :=
  ∃ (earlier : Report) (misfits : List Record) (failure : Record),
    visitAt context r depth n =
      (descend (visitAt context r (depth + (k - 1) + 1)) (m.withDefaults d.defaults)).after
        (countVisit.append (earlier.append (r.turn context (depth + (k - 1)) m).report)) ∧
    earlier.counters.applied = k ∧
    (r.turn context (depth + (k - 1)) m).report.counters.applied = 1 ∧
    (r.turn context (depth + (k - 1)) m).report.records = misfits ++ [failure] ∧
    (∀ c ∈ earlier.records ++ misfits, c.kind = .coercion) ∧
    IsFailure failure ∧
    failure.nodeType = some m.type ∧
    failure.depth = some ((depth + (k - 1) : Nat) : Int)

/-- The report of a child that is resolved separately at a depth. -/
def separateReport (depth : Nat) (c : Child) : Report :=
  (resolveChild (visitAt context r depth) c).report

/-- The reports of the children that are resolved after a place, each one separately: there are none
unless the place ends in a final node. -/
def childReports : Ending → List Report
  | .settled depth n => n.children.map (separateReport context r (depth + 1))
  | .ended _ => []
  | .exceeded _ => []

/-- A whole report has three parts, one after the other: the problems follow each other, the counts
are added, and the traces of a part are numbered from the number of applications before it. -/
structure Apart (left mid right whole : Report) : Prop where
  records : whole.records = left.records ++ mid.records ++ right.records
  counters : whole.counters = (left.counters.add mid.counters).add right.counters
  traces : ∀ level, whole.tracesAt level =
    left.tracesAt level ++
      (mid.tracesAt level).map (Trace.shift left.traces.length) ++
      (right.tracesAt level).map (Trace.shift (left.traces.length + mid.traces.length))

/-- One of several reports is a part of the whole. -/
lemma apart_concat (own mid : Report) (before after : List Report) :
    Apart (own.append (Report.concat before)) mid (Report.concat after)
      (own.append (Report.concat (before ++ mid :: after))) := by
  have hparts : own.append (Report.concat (before ++ mid :: after)) =
      ((own.append (Report.concat before)).append mid).append (Report.concat after) := by
    rw [Report.concat_append, Report.concat, Report.append_assoc, Report.append_assoc]
  rw [hparts]
  refine ⟨rfl, rfl, fun level => ?_⟩
  have hlength : ((own.append (Report.concat before)).append mid).traces.length =
      (own.append (Report.concat before)).traces.length + mid.traces.length :=
    List.length_append
  rw [Report.tracesAt_append, Report.tracesAt_append, hlength]

/-- A failure at a place is recorded once, is the last application there, and keeps the node. -/
lemma keepsNode_of_unusable {depth k : Nat} {n m : Node} {d : Definition}
    {x : Except Fault Value} (h : Changes context r k n m) (hroom : depth + (k - 1) < r.maxDepth)
    (hd : r.Transforms context m d x) (hx : Unusable x) : KeepsNode context r depth k n m d := by
  obtain ⟨earlier, deepest, hearlier, -, hvisit⟩ :=
    visitAt_of_closes context r h (.settled (.failed d x hd hx)) hroom
  obtain ⟨misfits, failure, hmisfits, hfailure, htype, hdepth, hrecords⟩ :=
    turn_records_of_fails context r ⟨d, x, hd, hx⟩ (depth + (k - 1))
  refine ⟨earlier, misfits, failure, hvisit, ?_, ?_, hrecords, ?_, hfailure, htype, hdepth⟩
  · rw [hearlier.counters]
  · rw [turn_counters context r (.failed d x hd hx), countsOf, hd.1]
    rfl
  · intro c hc
    rcases List.mem_append.mp hc with hc | hc
    · exact hearlier.kind c hc
    · exact hmisfits c hc

/-- What is reported for a node: the report of its place, and then those of the children that are
resolved after it. -/
lemma visitAt_report {depth : Nat} {n : Node} {z : Ending} {o : Option Child}
    (hdepth : depth ≤ r.maxDepth) (hz : (place context r depth n).result = .ok z)
    (ho : (visitAt context r depth n).result = .ok o) :
    (visitAt context r depth n).report =
      (countVisit.append (place context r depth n).report).append
        (Report.concat (childReports context r z)) := by
  have hvisit := visitAt_eq_place context r hdepth n
  rw [Run.bind_of_ok hz] at hvisit
  rw [hvisit, Run.after_report, Report.append_assoc]
  cases z with
  | settled e m =>
    have hdescend : (descend (visitAt context r (e + 1)) m).result = .ok o := by
      rw [hvisit] at ho
      exact ho
    obtain ⟨os, hos, -⟩ := results_of_descend _ hdescend
    rw [finishPlace, descend_of_results _ hos]
    rfl
  | ended c => rfl
  | exceeded m => rfl

/-- The report of each child is a part of what is reported for the node. -/
lemma apart_of_childReports {depth : Nat} {n : Node} {z : Ending} {o : Option Child}
    (hdepth : depth ≤ r.maxDepth) (hz : (place context r depth n).result = .ok z)
    (ho : (visitAt context r depth n).result = .ok o) {before after : List Report} {mid : Report}
    (hreports : childReports context r z = before ++ mid :: after) :
    Apart
      ((countVisit.append (place context r depth n).report).append (Report.concat before)) mid
      (Report.concat after) (visitAt context r depth n).report := by
  rw [visitAt_report context r hdepth hz ho, hreports]
  exact apart_concat _ _ _ _

/-- The round at a node without a definition does not look at its children. -/
lemma place_withChildren {depth : Nat} (hlt : depth < r.maxDepth) {n : Node}
    (hn : r.registry.get? n.type = none) (cs : List Child) :
    place context r depth (n.withChildren cs) =
      ⟨(r.turn context depth n).report, .ok (.settled depth (n.withChildren cs))⟩ := by
  have hundefined : r.registry.get? (n.withChildren cs).type = none := hn
  rw [place_undefined context r hlt hundefined, turn_undefined context r hn,
    turn_undefined context r hundefined]
  rfl

/-- Failures stay local.  A failing application adds one problem besides misfits of data, ends the
rounds at its place and keeps the node with its defaults.  The report of a node consists of that of
its place and those of the children after it, resolved separately one level deeper, so that no child
has a part in what is reported for the others: below a node without a definition, what stands around
the report of a child is the same whatever the child is. -/
theorem failures_stay_local :
    (∀ depth k n m d x, Changes context r k n m → depth + (k - 1) < r.maxDepth →
      r.Transforms context m d x → Unusable x →
        KeepsNode context r depth k n m d ∧
        m.withDefaults d.defaults = .mk m.type (Entries.merge d.defaults m.config) m.children) ∧
    (∀ depth n z o, depth ≤ r.maxDepth → (place context r depth n).result = .ok z →
      (visitAt context r depth n).result = .ok o →
        (visitAt context r depth n).report =
          (countVisit.append (place context r depth n).report).append
            (Report.concat (childReports context r z)) ∧
        ∀ before mid after, childReports context r z = before ++ mid :: after →
          Apart ((countVisit.append (place context r depth n).report).append
            (Report.concat before)) mid (Report.concat after)
            (visitAt context r depth n).report) ∧
    (∀ depth (n : Node) before after, depth < r.maxDepth → r.registry.get? n.type = none →
      ∃ left right, ∀ c o,
        (visitAt context r depth (n.withChildren (before ++ c :: after))).result = .ok o →
        Apart left (separateReport context r (depth + 1) c) right
          (visitAt context r depth (n.withChildren (before ++ c :: after))).report) := by
  refine ⟨?_, ?_, ?_⟩
  · intro depth k n m d x h hroom hd hx
    exact ⟨keepsNode_of_unusable context r h hroom hd hx, rfl⟩
  · intro depth n z o hdepth hz ho
    refine ⟨visitAt_report context r hdepth hz ho, fun before mid after hreports => ?_⟩
    exact apart_of_childReports context r hdepth hz ho hreports
  · intro depth n before after hlt hn
    refine ⟨(countVisit.append (r.turn context depth n).report).append
      (Report.concat (before.map (separateReport context r (depth + 1)))),
      Report.concat (after.map (separateReport context r (depth + 1))), fun c o ho => ?_⟩
    have hplace := place_withChildren context r hlt hn (before ++ c :: after)
    have hpart := apart_of_childReports context r (Nat.le_of_lt hlt)
      (congrArg Run.result hplace) ho List.map_append
    rw [hplace] at hpart
    exact hpart

/-- A definition whose transform raises a fault. -/
def broken : Definition where
  name := "broken"
  defaults := [(.str "size", .int 1)]
  requirements := []
  action := some (.run ⟨"broken", "", "", fun _ _ _ => .error .badDepth⟩)
  description := .null
  source := none

/-- A resolver with one definition, which always fails. -/
def breaking : Resolver where
  registry := ⟨[("broken", broken)], true⟩
  maxDepth := 2
  traceLevel := .errors
  strict := false

/-- A node whose definition always fails keeps to itself, at its place and among other children. -/
theorem failures_stay_local_broken :
    KeepsNode Context.empty breaking 1 0 (.mk "broken" [] []) (.mk "broken" [] []) broken ∧
      ∃ left right, Apart left
        (separateReport Context.empty breaking 1 (.node (.mk "broken" [] []))) right
        (visitAt Context.empty breaking 0 (.mk "box" []
          [.text "a", .node (.mk "broken" [] []), .text "b"])).report := by
  obtain ⟨hkeeps, -, hapart⟩ := failures_stay_local Context.empty breaking
  have htransforms : breaking.Transforms Context.empty (.mk "broken" [] []) broken
      (.error .badDepth) := ⟨rfl, _, [], rfl, rfl, rfl⟩
  obtain ⟨left, right, hbox⟩ :=
    hapart 0 (.mk "box" [] []) [.text "a"] [.text "b"] (by decide) rfl
  exact ⟨(hkeeps 1 0 _ _ _ _ (.none _) (by decide) htransforms (.raised _)).1, left, right,
    hbox (.node (.mk "broken" [] [])) _ rfl⟩

end Resolver

end PageTree
