import Mathlib.Tactic.Basic
import PageTree.Resolution.Resolver

/-!
# Reports and runs

A report only grows at its end: `Report.append` is associative, `Report.empty` is neutral, counts
are added and the greatest depth is the maximum.  `Report.concat` joins a list of reports.

`Report.tracesAt` numbers the traces of a whole run.  The traces of a report that follows another
one are its own traces with their numbers moved up by the number of applications before
(`Report.tracesAt_append`).

A `Run` carries its report along.  `Run.bind_of_ok` and `Run.bind_of_error` say what a sequence of
two computations reports and gives, and `Run.bind_assoc` and its companions are the laws that let
computations be regrouped.  `Run.after` puts a report in front of a computation.
-/

namespace PageTree

namespace Counters

variable (a b c : Counters)

/-- Counts of nothing are neutral on the left. -/
@[simp] theorem zero_add : zero.add a = a := by
  cases a
  simp [add, zero]

/-- Counts of nothing are neutral on the right. -/
@[simp] theorem add_zero : a.add zero = a := by
  cases a
  simp [add, zero]

/-- Counts can be added in any grouping. -/
theorem add_assoc : (a.add b).add c = a.add (b.add c) := by
  simp only [add, Nat.add_assoc, Nat.max_assoc]

end Counters

namespace Report

variable (a b c : Report)

@[simp] theorem records_append : (a.append b).records = a.records ++ b.records := rfl

@[simp] theorem traces_append : (a.append b).traces = a.traces ++ b.traces := rfl

@[simp] theorem counters_append : (a.append b).counters = a.counters.add b.counters := rfl

@[simp] theorem notices_append : (a.append b).notices = a.notices ++ b.notices := rfl

/-- The empty report is neutral on the left. -/
@[simp] theorem empty_append : empty.append a = a := by
  cases a
  simp [append, empty]

/-- The empty report is neutral on the right. -/
@[simp] theorem append_empty : a.append empty = a := by
  cases a
  simp [append, empty]

/-- Reports can be appended in any grouping. -/
theorem append_assoc : (a.append b).append c = a.append (b.append c) := by
  simp only [append, List.append_assoc, Counters.add_assoc]

/-- Counts one after the other are added. -/
theorem counting_append (a b : Counters) :
    (counting a).append (counting b) = counting (a.add b) := rfl

/-- Reports one after the other. -/
def concat : List Report → Report
  | [] => empty
  | r :: rs => r.append (concat rs)

/-- Reports one after the other can be joined in two parts. -/
theorem concat_append (rs ss : List Report) :
    concat (rs ++ ss) = (concat rs).append (concat ss) := by
  induction rs with
  | nil => rw [List.nil_append, concat, empty_append]
  | cons r rs ih => rw [List.cons_append, concat, concat, ih, append_assoc]

end Report

/-- A trace with its number moved up. -/
def Trace.shift (k : Nat) (t : Trace) : Trace :=
  { t with index := t.index + k }

/-- The traces of a report that follows another one are its own, moved up by the number of
applications before, whichever of them are kept. -/
theorem Report.tracesAt_append (a b : Report) (level : TraceLevel) :
    (a.append b).tracesAt level =
      a.tracesAt level ++ (b.tracesAt level).map (Trace.shift a.traces.length) := by
  have hkept : (Trace.keptAt level ∘ Trace.shift a.traces.length) = Trace.keptAt level := by
    funext t
    cases level <;> rfl
  have hlevel : Trace.atLevel level ∘ Trace.shift a.traces.length =
      Trace.shift a.traces.length ∘ Trace.atLevel level := by
    funext t
    cases level <;> rfl
  have hnumber : (b.traces.mapIdx fun i t => { t with index := i + a.traces.length }) =
      (b.traces.mapIdx fun i t => { t with index := i }).map (Trace.shift a.traces.length) := by
    refine List.ext_getElem (by simp) fun i _ _ => ?_
    simp [Trace.shift]
  simp only [tracesAt, traces_append, List.mapIdx_append, List.filter_append, List.map_append]
  rw [hnumber, List.filter_map, List.map_map, List.map_map, hkept, hlevel]

namespace Run

variable {α β γ : Type}

/-- A computation that gives a result is followed by what uses it. -/
theorem bind_of_ok {x : Run α} {a : α} (h : x.result = .ok a) (f : α → Run β) :
    x.bind f = ⟨x.report.append (f a).report, (f a).result⟩ := by
  rw [bind, h]

/-- A computation that fails is followed by nothing. -/
theorem bind_of_error {x : Run α} {e : Fault} (h : x.result = .error e) (f : α → Run β) :
    x.bind f = ⟨x.report, .error e⟩ := by
  rw [bind, h]

/-- A computation with more reported in front. -/
def after (x : Run α) (a : Report) : Run α :=
  ⟨a.append x.report, x.result⟩

/-- What is reported in front comes first in the report. -/
@[simp] theorem after_report (x : Run α) (a : Report) :
    (x.after a).report = a.append x.report := rfl

/-- What is reported in front does not change the result. -/
@[simp] theorem after_result (x : Run α) (a : Report) : (x.after a).result = x.result := rfl

/-- Two reports in front are one. -/
theorem after_after (x : Run α) (a b : Report) : (x.after b).after a = x.after (a.append b) := by
  rw [after, after, after, Report.append_assoc]

/-- What is reported in front of the first computation is in front of the sequence. -/
theorem after_bind (x : Run α) (a : Report) (f : α → Run β) :
    (x.after a).bind f = (x.bind f).after a := by
  cases hx : x.result with
  | error e =>
    have ha : (x.after a).result = .error e := hx
    rw [bind_of_error hx, bind_of_error ha]
    rfl
  | ok b =>
    have ha : (x.after a).result = .ok b := hx
    rw [bind_of_ok hx, bind_of_ok ha, after_report, Report.append_assoc]
    rfl

/-- Working on with a result that is there reports nothing more. -/
theorem bind_pure_report (x : Run α) (f : α → β) :
    (x.bind fun a => pure (f a)).report = x.report := by
  cases hx : x.result with
  | error e => rw [bind_of_error hx]
  | ok a => rw [bind_of_ok hx, pure, Report.append_empty]

/-- A result without a report adds nothing in front. -/
@[simp] theorem pure_bind (a : α) (f : α → Run β) : (pure a).bind f = f a := by
  rw [bind_of_ok rfl, pure, Report.empty_append]

/-- A report by itself stands in front of what follows. -/
theorem tell_bind (r : Report) (f : Unit → Run β) :
    (tell r).bind f = ⟨r.append (f ()).report, (f ()).result⟩ :=
  bind_of_ok rfl f

/-- Two reports by themselves are one. -/
theorem tell_bind_tell (a b : Report) (f : Unit → Run β) :
    ((tell a).bind fun _ => (tell b).bind f) = (tell (a.append b)).bind f := by
  rw [tell_bind, tell_bind, tell_bind, Report.append_assoc]

/-- Computations can be grouped in any way. -/
theorem bind_assoc (x : Run α) (f : α → Run β) (g : β → Run γ) :
    (x.bind f).bind g = x.bind fun a => (f a).bind g := by
  cases hx : x.result with
  | error e => rw [bind_of_error hx, bind_of_error hx, bind_of_error rfl]
  | ok a =>
    rw [bind_of_ok hx, bind_of_ok hx]
    cases ha : (f a).result with
    | error e => rw [bind_of_error ha, bind_of_error rfl]
    | ok b => rw [bind_of_ok ha, bind_of_ok rfl, Report.append_assoc]

/-- The notation for sequences stands for `Run.bind`. -/
theorem bind_eq (x : Run α) (f : α → Run β) : x >>= f = x.bind f := rfl

/-- A sequence that gives a result is made of two computations that do. -/
theorem bind_result_eq_ok_iff (x : Run α) (f : α → Run β) (b : β) :
    (x.bind f).result = .ok b ↔ ∃ a, x.result = .ok a ∧ (f a).result = .ok b := by
  cases hx : x.result with
  | error e => simp [bind_of_error hx]
  | ok a => simp [bind_of_ok hx]

end Run

end PageTree
