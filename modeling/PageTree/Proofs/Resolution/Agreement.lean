import Mathlib.Data.List.Forall2
import PageTree.Proofs.Resolution.Bound
import PageTree.Proofs.Resolution.Observation
import PageTree.Proofs.Resolution.Steps

/-!
# Agreement of the logs

A resolution keeps three logs, its problems, its traces and its counts, and gives a tree.  None of
the logs is computed from another, and yet they agree (`logs_agree`).

What the logs are compared with are the events of a run, read off its steps: a transform is called
at a node, or a node is met with no room left.  `Leaves` says which trace an event leaves.  `Agrees`
collects what holds of logs that tell the same events, and `Accounts` ties them to the steps; both
hold of every single step and of steps one after the other.
-/

namespace PageTree

/-- A failure as a log tells it. -/
structure Failure where
  nodeType : Option String
  depth : Option Int
  message : String

/-- The failure that a trace tells of, if it does. -/
def Trace.failure? (t : Trace) : Option Failure :=
  t.error.map fun e => ⟨some t.nodeType, some t.depth, e.message⟩

/-- The failure that a problem tells of.  Data that do not fit are no failure. -/
def Record.failure? (c : Record) : Option Failure :=
  if c.kind = .coercion then none else some ⟨c.nodeType, c.depth, c.message⟩

/-- Whether an application succeeded. -/
def Applied.succeeded : Applied → Bool
  | .failed _ => false
  | _ => true

namespace Resolver

variable (context : Context) (r : Resolver)

/-- What leaves a trace. -/
inductive Event where
  /-- A transform is called on a node and gives this. -/
  | call (depth : Nat) (n : Node) (x : Except Fault Value)
  /-- A node is met with no room left. -/
  | stop (n : Node)

namespace Event

/-- Whether an event is a call of a transform. -/
def isCall : Event → Bool
  | call .. => true
  | stop _ => false

/-- Whether an event is a node that is met with no room left. -/
def isStop : Event → Bool
  | call .. => false
  | stop _ => true

/-- Whether an event is a call of a transform that returns a text. -/
def returnsText : Event → Bool
  | call _ _ (.ok (.str _)) => true
  | _ => false

end Event

/-- The call that a round at a node makes: there is none if the type of the node has no definition,
the definition has no transform, or its data cannot be selected. -/
def callAt (depth : Nat) (n : Node) : Option Event :=
  match r.registry.get? n.type with
  | none => none
  | some d =>
    match d.action, dataFor context d.requirements with
    | some a, .ok data =>
      some (.call depth (n.withDefaults d.defaults)
        (act context a (n.withDefaults d.defaults) data))
    | _, _ => none

/-- The event of a step, if it has one. -/
def Step.event? : Step → Option Event
  | .round depth n => callAt context r depth n
  | .stop n => some (.stop n)
  | _ => none

/-- The events of steps in order. -/
def eventsOf (steps : List Step) : List Event :=
  steps.flatMap fun s => (s.event? context r).toList

/-- The events of the resolution of a tree. -/
def events (n : Node) : List Event :=
  eventsOf context r (visitSteps context r r.maxDepth n)

/-- The trace that an event leaves.  It has the type and the depth of the node.  That of a call
succeeds exactly if the call did, and then has the type of what replaces the node; that of a node
without room is a failure. -/
inductive Leaves : Event → Trace → Prop where
  | call {depth : Nat} {n : Node} {x : Except Fault Value} {t : Trace} (v : Applied)
      (hv : Verdict n x v) (htype : t.nodeType = n.type) (hdepth : t.depth = depth)
      (hsuccess : t.success = v.succeeded) (hresult : t.resultType = resultType v) :
      Leaves (.call depth n x) t
  | stop {n : Node} {t : Trace} (htype : t.nodeType = n.type) (hdepth : t.depth = r.maxDepth)
      (hsuccess : t.success = false) : Leaves (.stop n) t

/-- Whether a trace tells of a node that was dropped. -/
def tellsDrop (t : Trace) : Bool :=
  t.success && t.resultType.isNone

/-- The logs of a run agree with its events and with each other. -/
structure Agrees (events : List Event) (records : List Record) (traces : List Trace)
    (counters : Counters) : Prop where
  /-- There is one trace for each event, in order. -/
  left : List.Forall₂ (Leaves r) events traces
  /-- The traces that failed are the problems other than misfits of data, in order. -/
  failures : traces.filterMap Trace.failure? = records.filterMap Record.failure?
  exceeded : counters.exceeded = records.countP (·.kind = .depthExceeded)
  stopped : counters.exceeded = events.countP Event.isStop
  dropped : counters.dropped = traces.countP tellsDrop

/-- A report accounts for steps and their events. -/
structure Accounts (steps : List Step) (events : List Event) (report : Report) : Prop where
  agrees : Agrees r events report.records report.traces report.counters
  visited : report.counters.visited = steps.countP Step.enters
  stopped : events.countP Event.isStop = steps.countP Step.stops
  ended : steps.countP (Step.ends context r) =
    report.counters.dropped + events.countP Event.returnsText

/-! ## Single steps -/

/-- Misfits of data are no failures. -/
lemma failures_of_coercion {records : List Record} (h : ∀ c ∈ records, c.kind = .coercion) :
    records.filterMap Record.failure? = [] := by
  refine List.filterMap_eq_nil_iff.mpr fun c hc => ?_
  rw [Record.failure?, if_pos (h c hc)]

/-- What a transform returns stands for nothing or for what succeeded. -/
lemma succeeded_of_normalize {w : Value} {v : Applied} (h : normalize w = .ok v) :
    v.succeeded = true := by
  unfold normalize at h
  split at h
  · cases h
    rfl
  · cases h
    rfl
  · cases h
    rfl
  · split at h
    · cases h
      rfl
    · cases h
  · cases h

/-- Judging what a transform gave leaves one trace, which tells the verdict, and a problem for a
failure only, which tells the same. -/
lemma judge_logs (n : Node) (depth : Nat) (data : Entries) (x : Except Fault Value) :
    ∃ v t, (judge n depth data x).result = .ok v ∧ Verdict n x v ∧
      (judge n depth data x).report.traces = [t] ∧ Leaves r (.call depth n x) t ∧
      t.success = v.succeeded ∧ t.resultType = resultType v ∧
      (judge n depth data x).report.records.filterMap Record.failure? =
        [t].filterMap Trace.failure? := by
  obtain ⟨v, hv, hverdict, -, -⟩ := judge_spec n depth data x
  have hleaves : ∀ t : Trace, t.nodeType = n.type → t.depth = depth →
      t.success = v.succeeded → t.resultType = resultType v → Leaves r (.call depth n x) t :=
    fun t htype hdepth hsuccess hresult => .call v hverdict htype hdepth hsuccess hresult
  cases x with
  | error e =>
    cases hv
    exact ⟨_, _, rfl, hverdict, rfl, hleaves _ rfl rfl rfl rfl, rfl, rfl, rfl⟩
  | ok w =>
    cases hw : normalize w with
    | error reason =>
      have hjudge : judge n depth data (.ok w) =
          ⟨invalidResult n depth data reason, .ok (.failed n)⟩ := by rw [judge, hw]
      rw [hjudge] at hv ⊢
      cases hv
      exact ⟨_, _, rfl, hverdict, rfl, hleaves _ rfl rfl rfl rfl, rfl, rfl, rfl⟩
    | ok a =>
      have hjudge : judge n depth data (.ok w) =
          ⟨{ Report.empty with traces := [trace n depth data (resultType a) none] }, .ok a⟩ := by
        rw [judge, hw]
      rw [hjudge] at hv ⊢
      cases hv
      have hsuccess := (succeeded_of_normalize hw).symm
      exact ⟨_, _, rfl, hverdict, rfl, hleaves _ rfl rfl hsuccess rfl, hsuccess, rfl, rfl⟩

/-- A verdict on what a transform returned: a text came out exactly if one was returned. -/
lemma Verdict.returnsText {n : Node} {x : Except Fault Value} {v : Applied} (h : Verdict n x v)
    (depth : Nat) (m : Node) :
    (Event.call depth m x).returnsText = true ↔ ∃ s, v = .text s := by
  cases h with
  | failed hx =>
    cases hx with
    | raised | malformed => simp [Event.returnsText]
    | stranger w _ _ htext _ =>
      cases w with
      | str s => exact absurd rfl (htext s)
      | _ => simp [Event.returnsText]
  | dropped hx =>
    subst hx
    simp [Event.returnsText]
  | text s hx =>
    subst hx
    simp [Event.returnsText]
  | node m hm => cases hm <;> simp [Event.returnsText]

/-- A round that makes no call leaves no trace, records no failure, and settles its node unless the
data for a transform are missing. -/
lemma accounts_round_of_no_call {depth : Nat} {n : Node} {report : Report}
    {result : Except Fault Turn} (hturn : r.turn context depth n = ⟨report, result⟩)
    (htraces : report.traces = []) (hrecords : ∀ c ∈ report.records, c.kind = .coercion)
    (hresult : (∃ m, result = .ok (.settled m)) ∨ ∃ e, result = .error e) :
    Accounts context r [.round depth n] [] (r.turn context depth n).report := by
  have hcounters := turn_counters context r (round_turn context r depth n) depth
  have hends : Step.ends context r (.round depth n) = false := by
    rw [Step.ends, hturn]
    rcases hresult with ⟨m, rfl⟩ | ⟨e, rfl⟩ <;> rfl
  have hdrops : dropsOf (r.turn context depth n).result = 0 := by
    rw [hturn]
    rcases hresult with ⟨m, rfl⟩ | ⟨e, rfl⟩ <;> rfl
  replace htraces : (r.turn context depth n).report.traces = [] := hturn ▸ htraces
  replace hrecords : ∀ c ∈ (r.turn context depth n).report.records, c.kind = .coercion :=
    hturn ▸ hrecords
  refine ⟨⟨?_, ?_, ?_, ?_, ?_⟩, ?_, rfl, ?_⟩
  · rw [htraces]
    exact .nil
  · rw [htraces, failures_of_coercion hrecords]
    rfl
  · rw [hcounters, countsOf, eq_comm]
    refine List.countP_eq_zero.mpr fun c hc => ?_
    rw [hrecords c hc]
    simp
  · rw [hcounters]
    rfl
  · rw [htraces, hcounters]
    exact hdrops
  · rw [hcounters]
    rfl
  · rw [hcounters, List.countP_cons_of_neg (by simp [hends])]
    exact hdrops.symm

/-- A node that a transform returned is final or changed. -/
lemma turnOf_node (d : Definition) (n m : Node) :
    (turnOf d n (.node m)).result = .ok (.settled m) ∨
      (turnOf d n (.node m)).result = .ok (.changed m) := by
  rw [turnOf]
  split
  · exact Or.inl rfl
  · exact Or.inr rfl

/-- A round that calls a transform leaves the trace of the call. -/
lemma accounts_round_of_call {d : Definition} {a : Action} {data : Entries} {depth : Nat} {n : Node}
    (hd : r.registry.get? n.type = some d) (ha : d.action = some a)
    (hdata : dataFor context d.requirements = .ok data) :
    Accounts context r [.round depth n]
      [.call depth (n.withDefaults d.defaults) (act context a (n.withDefaults d.defaults) data)]
      (r.turn context depth n).report := by
  obtain ⟨v, t, hv, hverdict, htraces, hleaves, hsuccess, hresult, hfailures⟩ :=
    judge_logs r (n.withDefaults d.defaults) depth data
      (act context a (n.withDefaults d.defaults) data)
  have hselect := select_report context (n.withDefaults d.defaults) depth d.requirements
  have hturn := turn_judges context r hd ha hdata hv
  have hcounters := turn_counters context r (round_turn context r depth n) depth
  have hoverall : (r.turn context depth n).report.traces = [t] := by
    rw [hturn, Report.traces_append, Report.traces_append, Report.traces_append, hselect.traces,
      htraces, turnOf_traces]
    rfl
  have hnext : (r.turn context depth n).result = (turnOf d n v).result := by rw [hturn]
  have hdropped : (r.turn context depth n).report.counters.dropped = [t].countP tellsDrop := by
    rw [hcounters, countsOf, hnext, List.countP_singleton, tellsDrop, hsuccess, hresult]
    cases v with
    | failed | dropped | text => rfl
    | node m => rcases turnOf_node d n m with hm | hm <;> rw [hm] <;> rfl
  have htext := hverdict.returnsText depth (n.withDefaults d.defaults)
  refine ⟨⟨?_, ?_, ?_, ?_, hoverall ▸ hdropped⟩, ?_, rfl, ?_⟩
  · rw [hoverall]
    exact .cons hleaves .nil
  · rw [hoverall, hturn, Report.records_append, Report.records_append, Report.records_append,
      turnOf_records, List.append_nil, List.filterMap_append, List.filterMap_append,
      failures_of_coercion hselect.kind, hfailures]
    rfl
  · rw [hcounters, countsOf, eq_comm]
    refine List.countP_eq_zero.mpr fun c hc => ?_
    simpa using turn_records_ne_depthExceeded context r depth n c hc
  · rw [hcounters]
    rfl
  · rw [hcounters]
    rfl
  · rw [hdropped, List.countP_singleton, List.countP_singleton, List.countP_singleton, tellsDrop,
      hsuccess, hresult, Step.ends, hnext]
    cases v with
    | failed | dropped => simp [htext, turnOf, Run.pure, Applied.succeeded, resultType]
    | text s => simp [htext, turnOf, Applied.succeeded, resultType]
    | node m =>
      rcases turnOf_node d n m with hm | hm <;>
        simp [hm, htext, Applied.succeeded, resultType]

/-- A round accounts for itself and for the call it makes, if it makes one. -/
lemma accounts_round (depth : Nat) (n : Node) :
    Accounts context r [.round depth n] (callAt context r depth n).toList
      (r.turn context depth n).report := by
  cases hd : r.registry.get? n.type with
  | none =>
    have hcall : callAt context r depth n = none := by rw [callAt, hd]
    rw [hcall]
    exact accounts_round_of_no_call context r (turn_undefined context r hd depth) rfl nofun
      (.inl ⟨n, rfl⟩)
  | some d =>
    cases ha : d.action with
    | none =>
      have hcall : callAt context r depth n = none := by
        rw [callAt, hd]
        simp only [ha]
      rw [hcall]
      exact accounts_round_of_no_call context r (turn_inert context r hd ha depth) rfl nofun
        (.inl ⟨n.withDefaults d.defaults, rfl⟩)
    | some a =>
      cases hdata : dataFor context d.requirements with
      | error e =>
        have hselect := select_report context (n.withDefaults d.defaults) depth d.requirements
        have hcall : callAt context r depth n = none := by
          rw [callAt, hd]
          simp only [ha, hdata]
        rw [hcall]
        refine accounts_round_of_no_call context r (turn_starved context r hd ha hdata depth) ?_ ?_
          (.inr ⟨e, rfl⟩)
        · rw [Report.traces_append, hselect.traces]
          rfl
        · rw [Report.records_append]
          exact hselect.kind
      | ok data =>
        have hcall : callAt context r depth n = some (.call depth (n.withDefaults d.defaults)
            (act context a (n.withDefaults d.defaults) data)) := by
          rw [callAt, hd]
          simp only [ha, hdata]
        rw [hcall]
        exact accounts_round_of_call context r hd ha hdata

/-- Reaching a node leaves nothing in the logs but its count. -/
lemma accounts_enter : Accounts context r [.enter] [] countVisit :=
  ⟨⟨.nil, rfl, rfl, rfl, rfl⟩, rfl, rfl, rfl⟩

/-- A text leaves nothing in the logs but its count. -/
lemma accounts_text :
    Accounts context r [.text] [] (Report.counting { Counters.zero with texts := 1 }) :=
  ⟨⟨.nil, rfl, rfl, rfl, rfl⟩, rfl, rfl, rfl⟩

/-- A node without room leaves a failure in all logs. -/
lemma accounts_stop (n : Node) :
    Accounts context r [.stop n] [.stop n] (exceeded r.maxDepth n r.maxDepth) :=
  ⟨⟨.cons (.stop rfl rfl rfl) .nil, rfl, rfl, rfl, rfl⟩, rfl, rfl, rfl⟩

/-- Every step accounts for itself. -/
lemma accounts_step (s : Step) :
    Accounts context r [s] (s.event? context r).toList (s.report context r) := by
  cases s with
  | enter => exact accounts_enter context r
  | text => exact accounts_text context r
  | round depth n => exact accounts_round context r depth n
  | stop n => exact accounts_stop context r n

/-! ## Runs -/

variable {context r}

/-- Logs that agree, one after the other, agree. -/
lemma Agrees.append {events more : List Event} {a b : Report}
    (ha : Agrees r events a.records a.traces a.counters)
    (hb : Agrees r more b.records b.traces b.counters) :
    Agrees r (events ++ more) (a.append b).records (a.append b).traces (a.append b).counters where
  left := List.rel_append ha.left hb.left
  failures := by
    rw [Report.traces_append, Report.records_append, List.filterMap_append, List.filterMap_append,
      ha.failures, hb.failures]
  exceeded := by
    rw [Report.records_append, List.countP_append, ← ha.exceeded, ← hb.exceeded]
    rfl
  stopped := by
    rw [List.countP_append, ← ha.stopped, ← hb.stopped]
    rfl
  dropped := by
    rw [Report.traces_append, List.countP_append, ← ha.dropped, ← hb.dropped]
    rfl

/-- Reports that account for steps, one after the other, account for all of them. -/
lemma Accounts.append {steps others : List Step} {events more : List Event} {a b : Report}
    (ha : Accounts context r steps events a) (hb : Accounts context r others more b) :
    Accounts context r (steps ++ others) (events ++ more) (a.append b) where
  agrees := ha.agrees.append hb.agrees
  visited := by
    rw [List.countP_append, ← ha.visited, ← hb.visited]
    rfl
  stopped := by rw [List.countP_append, List.countP_append, ha.stopped, hb.stopped]
  ended := by
    have hdropped : (a.append b).counters.dropped = a.counters.dropped + b.counters.dropped := rfl
    rw [List.countP_append, List.countP_append, ha.ended, hb.ended, hdropped]
    omega

variable (context r)

/-- What a list of steps reports accounts for the steps and their events. -/
theorem accounts_steps (steps : List Step) :
    Accounts context r steps (eventsOf context r steps) (reportOf context r steps) := by
  induction steps with
  | nil => exact ⟨⟨.nil, rfl, rfl, rfl, rfl⟩, rfl, rfl, rfl⟩
  | cons s steps ih => exact (accounts_step context r s).append ih

variable {r} in
/-- Of a trace only the type, the depth, the success and the result matter for what left it. -/
lemma Leaves.congr {e : Event} {t u : Trace} (h : Leaves r e t) (htype : u.nodeType = t.nodeType)
    (hdepth : u.depth = t.depth) (hsuccess : u.success = t.success)
    (hresult : u.resultType = t.resultType) : Leaves r e u := by
  cases h with
  | call v hv htype' hdepth' hsuccess' hresult' =>
    exact .call v hv (htype.trans htype') (hdepth.trans hdepth') (hsuccess.trans hsuccess')
      (hresult.trans hresult')
  | stop htype' hdepth' hsuccess' =>
    exact .stop (htype.trans htype') (hdepth.trans hdepth') (hsuccess.trans hsuccess')

/-- A trace without its number and without the data and the configuration of its node. -/
def plain (t : Trace) : Trace :=
  { t with index := 0, data := [], config := [] }

variable {r} in
/-- The logs still agree if the traces are numbered, or show less of the data. -/
lemma Agrees.of_plain {events : List Event} {records : List Record} {traces shown : List Trace}
    {counters : Counters} (h : Agrees r events records traces counters)
    (hshown : shown.map plain = traces.map plain) : Agrees r events records shown counters where
  left := by
    have hplain : List.Forall₂ (Leaves r) events (shown.map plain) := by
      rw [hshown]
      exact List.forall₂_map_right_iff.mpr (h.left.imp fun e t ht => ht.congr rfl rfl rfl rfl)
    exact (List.forall₂_map_right_iff.mp hplain).imp fun e t ht => ht.congr rfl rfl rfl rfl
  failures := by
    have hplain : ∀ ts : List Trace,
        ts.filterMap Trace.failure? = (ts.map plain).filterMap Trace.failure? := by
      intro ts
      rw [List.filterMap_map]
      rfl
    rw [hplain, hshown, ← hplain, h.failures]
  exceeded := h.exceeded
  stopped := h.stopped
  dropped := by
    have hplain : ∀ ts : List Trace, ts.countP tellsDrop = (ts.map plain).countP tellsDrop := by
      intro ts
      rw [List.countP_map]
      rfl
    rw [hplain, hshown, ← hplain, h.dropped]

/-- The two levels at which every application has a trace. -/
lemma tracesAt_every {level : TraceLevel} (hlevel : level = .steps ∨ level = .detailed)
    (report : Report) :
    (report.tracesAt level).map plain = report.traces.map plain ∧
      (report.tracesAt level).map (·.index) = List.range (report.tracesAt level).length := by
  have hplain : (report.tracesAt .detailed).map plain = report.traces.map plain := by
    rw [tracesAt_detailed]
    refine List.ext_getElem (by simp) fun i _ _ => ?_
    simp [plain]
  have hindex : (report.tracesAt .detailed).map (·.index) =
      List.range (report.tracesAt .detailed).length := by
    rw [tracesAt_detailed]
    refine List.ext_getElem (by simp) fun i _ _ => ?_
    simp
  rcases hlevel with rfl | rfl
  · rw [tracesAt_steps, List.map_map, List.map_map, List.length_map]
    exact ⟨hplain, hindex⟩
  · exact ⟨hplain, hindex⟩

/-- What is given back for a run that is finished. -/
lemma finish_eq_ok {α : Type} {run : Run α} {res : Resolution α} (h : r.finish run = .ok res) :
    run.result = .ok res.tree ∧ res.records = run.report.records ∧
      res.counters = run.report.counters ∧ res.traces = run.report.tracesAt r.traceLevel := by
  unfold finish at h
  cases hresult : run.result with
  | error e =>
    rw [hresult] at h
    cases h
  | ok tree =>
    rw [hresult] at h
    cases hrecords : run.report.records with
    | nil =>
      rw [hrecords] at h
      cases h
      exact ⟨rfl, rfl, rfl, rfl⟩
    | cons first rest =>
      rw [hrecords] at h
      dsimp only at h
      split at h
      · cases h
      · cases h
        exact ⟨rfl, rfl, rfl, rfl⟩

/-- An event is a call, or a node that is met with no room left. -/
lemma length_eq_calls_add_stops (events : List Event) :
    events.length = events.countP Event.isCall + events.countP Event.isStop := by
  have hnot : events.countP Event.isStop = events.countP fun e => decide ¬ e.isCall = true :=
    List.countP_congr fun e _ => by cases e <;> simp [Event.isStop, Event.isCall]
  rw [hnot]
  exact List.length_eq_countP_add_countP Event.isCall

/-- The logs of a resolution agree with its events and with each other, wherever every application
has a trace.  What is reported is what its steps report.  The failures among the traces are the
problems other than misfits of data, one for one and in order, with the same type, depth and
message.  The traces are numbered in order, and there are as many as calls of transforms and nodes
without room together.  As many nodes are counted without room as there are problems of depth, and
as many as dropped as there are traces of success without a result.  If no node was without room,
then every node that was visited is there in the tree, but for those that were dropped and those for
which a transform returned a text. -/
theorem logs_agree (hlevel : r.traceLevel = .steps ∨ r.traceLevel = .detailed) (n : Node)
    (res : Resolution (Option Child)) (h : outcome context r (.node n) = .ok res) :
    (r.resolveTree context (.node n)).report =
      reportOf context r (visitSteps context r r.maxDepth n) ∧
    Agrees r (events context r n) res.records res.traces res.counters ∧
    res.traces.map (·.index) = List.range res.traces.length ∧
    res.traces.length = (events context r n).countP Event.isCall + res.counters.exceeded ∧
    (res.counters.exceeded = 0 →
      nodesOf res.tree + res.counters.dropped + (events context r n).countP Event.returnsText =
        res.counters.visited) := by
  have hrun : r.resolveTree context (.node n) = r.visit context r.maxDepth n :=
    resolveTree_eq context r (.node n)
  obtain ⟨htree, hrecords, hcounters, htraces⟩ := finish_eq_ok r h
  obtain ⟨hreport, hnodes⟩ := visit_follows context r r.maxDepth n
  obtain ⟨hagrees, hvisited, hstopped, hended⟩ :=
    accounts_steps context r (visitSteps context r r.maxDepth n)
  obtain ⟨hplain, hindex⟩ := tracesAt_every hlevel (r.resolveTree context (.node n)).report
  rw [← hreport, ← hrun] at hagrees hvisited hended
  rw [← htraces] at hplain hindex
  rw [← hcounters] at hagrees hvisited hended
  rw [← hrecords] at hagrees
  have hshown := hagrees.of_plain hplain
  refine ⟨hrun ▸ hreport, hshown, hindex, ?_, fun hroom => ?_⟩
  · rw [← hshown.left.length_eq, length_eq_calls_add_stops, hshown.stopped]
    rfl
  · have hstops : (visitSteps context r r.maxDepth n).countP Step.stops = 0 := by
      rw [← hstopped, ← hroom, hagrees.stopped]
    have hall := hnodes res.tree (hrun ▸ htree) hstops
    rw [hended, ← hvisited] at hall
    rw [Nat.add_assoc]
    exact hall

/-- A definition with a transform that does not look at its node. -/
def constantly (name : String) (x : Except Fault Value) : String × Definition :=
  (name, { Definition.blank name with action := some (.run ⟨name, "", "", fun _ _ _ => x⟩) })

/-- A resolver with a definition that gives a node children, and one each that drops a node, puts a
text in its place, and fails. -/
def mixing : Resolver where
  registry :=
    ⟨[constantly "list" (.ok (.node (.mk "list" []
        [.node (.mk "gap" [] []), .node (.mk "word" [] []), .node (.mk "broken" [] []),
          .node (.mk "leaf" [] [])]))),
      constantly "gap" (.ok .null), constantly "word" (.ok (.str "a")),
      constantly "broken" (.error .badDepth)], true⟩
  maxDepth := defaultDepth
  traceLevel := .steps
  strict := false

/-- Of the five nodes that are visited, the children all made by a transform, one is dropped, one
becomes a text, and three are there in the tree; five calls leave five traces, one of them of a
failure. -/
theorem logs_agree_mixing :
    (mixing.traceLevel = .steps ∨ mixing.traceLevel = .detailed) ∧
      ∃ res, outcome Context.empty mixing (.node (.mk "list" [] [])) = .ok res ∧
        res.counters.exceeded = 0 ∧ res.counters.visited = 5 ∧ res.traces.length = 5 ∧
        (res.traces.filterMap Trace.failure?).length = 1 ∧
        (res.records.filterMap Record.failure?).length = 1 ∧
        nodesOf res.tree + 1 + 1 = 5 := by
  have hlevel : mixing.traceLevel = .steps ∨ mixing.traceLevel = .detailed := Or.inl rfl
  obtain ⟨-, hagrees, -, htraces, hnodes⟩ :=
    logs_agree Context.empty mixing hlevel (.mk "list" [] []) _ rfl
  refine ⟨hlevel, _, rfl, rfl, rfl, htraces, rfl, ?_, hnodes rfl⟩
  rw [← hagrees.failures]
  rfl

end Resolver

end PageTree
