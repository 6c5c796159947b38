import PageTree.Proofs.Node.Measure
import PageTree.Proofs.Resolution.Children
import PageTree.Proofs.Resolution.Round

/-!
# Steps

A resolution is made of steps: a node is reached, a round is made at a node, a text is passed by, or
a node is met with no room left.  `visitSteps` lists the steps of the work at a node and below it in
the order in which they are made.

The list accounts for the run (`visit_follows`).  What is reported are the reports of the steps, one
after the other.  Every node that is reached is there in the tree that comes out, unless a round
ends its place, which drops the node or puts a text there: generated children are reached as all
others are, a failed application keeps its node, and giving a node its old children back in the
place of same new ones changes no number of nodes.
-/

namespace PageTree

namespace Resolver

/-- One step of a resolution. -/
inductive Step where
  /-- A node is reached. -/
  | enter
  /-- A text among children is passed by. -/
  | text
  /-- A round is made at a node. -/
  | round (depth : Nat) (n : Node)
  /-- A node is met with no room left. -/
  | stop (n : Node)

variable (context : Context) (r : Resolver)

namespace Step

/-- What a step reports. -/
def report : Step → Report
  | enter => countVisit
  | text => Report.counting { Counters.zero with texts := 1 }
  | round depth n => (r.turn context depth n).report
  | stop n => exceeded r.maxDepth n r.maxDepth

/-- Whether a node is reached in a step. -/
def enters : Step → Bool
  | enter => true
  | _ => false

/-- Whether a node is met with no room left in a step. -/
def stops : Step → Bool
  | stop _ => true
  | _ => false

/-- Whether a step ends a place, so that no node stays there. -/
def ends : Step → Bool
  | round depth n =>
    match (r.turn context depth n).result with
    | .ok (.ended _) => true
    | _ => false
  | _ => false

end Step

/-- What a list of steps reports. -/
def reportOf (steps : List Step) : Report :=
  Report.concat (steps.map (Step.report context r))

/-! ## The steps of a run -/

/-- The steps of resolving children one after the other, given how a node is resolved and in which
steps.  A fault ends them. -/
def listSteps (visit : Node → Run (Option Child)) (steps : Node → List Step) :
    List Child → List Step
  | [] => []
  | .text _ :: cs => .text :: listSteps visit steps cs
  | .node n :: cs =>
    steps n ++
      match (visit n).result with
      | .ok _ => listSteps visit steps cs
      | .error _ => []

/-- The steps after a round, given those of the children and those of a changed node. -/
def proceedSteps (visit : Node → Run (Option Child)) (steps again : Node → List Step) :
    Except Fault Turn → List Step
  | .ok (.settled n) => listSteps visit steps n.children
  | .ok (.ended _) => []
  | .ok (.changed n) => again n
  | .error _ => []

/-- A round at a node, and the steps after it. -/
def roundSteps (depth : Nat) (visit : Node → Run (Option Child)) (steps again : Node → List Step)
    (n : Node) : List Step :=
  .round depth n :: proceedSteps visit steps again (r.turn context depth n).result

mutual

/-- The steps of resolving a node that has just been reached, with the given room left. -/
def visitSteps : Nat → Node → List Step
  | 0, n => [.enter, .stop n]
  | room + 1, n =>
    .enter :: roundSteps context r (r.maxDepth - (room + 1)) (r.visit context room)
      (visitSteps room)
      (roundSteps context r (r.maxDepth - (room + 1)) (r.visit context room) (visitSteps room)
        (againSteps room)) n

/-- The steps of resolving a node that has been changed more than once at its place, with the given
room left. -/
def againSteps : Nat → Node → List Step
  | 0, n => [.stop n]
  | room + 1, n =>
    roundSteps context r (r.maxDepth - (room + 1)) (r.visit context room) (visitSteps room)
      (againSteps room) n

end

/-! ## Steps and runs -/

/-- A first step, and then the others. -/
lemma reportOf_cons (s : Step) (steps : List Step) :
    reportOf context r (s :: steps) = (s.report context r).append (reportOf context r steps) := rfl

/-- Steps after steps. -/
lemma reportOf_append (steps more : List Step) :
    reportOf context r (steps ++ more) =
      (reportOf context r steps).append (reportOf context r more) := by
  rw [reportOf, List.map_append, Report.concat_append]
  rfl

/-- The number of nodes in some children. -/
def nodesIn (cs : List Child) : Nat :=
  (Child.types cs).length

/-- The number of nodes in what becomes of a place. -/
def nodesOf (c : Option Child) : Nat :=
  nodesIn c.toList

/-- Steps account for a run that begins with some places entered already.  They report what the run
does, and if they never stop for want of room, then every place that is entered is left with one
node or is ended. -/
structure Follows {α : Type} (size : α → Nat) (places : Nat) (x : Run α) (steps : List Step) :
    Prop where
  report : x.report = reportOf context r steps
  nodes : ∀ a, x.result = .ok a → steps.countP Step.stops = 0 →
    size a + steps.countP (Step.ends context r) = steps.countP Step.enters + places

/-- The nodes of children, one after the other. -/
lemma nodesIn_cons (c : Child) (cs : List Child) :
    nodesIn (c :: cs) = nodesIn [c] + nodesIn cs := by
  rw [nodesIn, Child.types_cons, List.length_append]
  rfl

/-- The nodes of what becomes of a place, and of the children after it. -/
lemma nodesIn_toList_append (c : Option Child) (cs : List Child) :
    nodesIn (c.toList ++ cs) = nodesOf c + nodesIn cs := by
  cases c with
  | none => exact (Nat.zero_add _).symm
  | some c => exact nodesIn_cons c cs

/-- Leaving out empty texts leaves out no node. -/
lemma nodesIn_kept (cs : List Child) : nodesIn (cs.filter fun c => !c.isEmpty) = nodesIn cs := by
  induction cs with
  | nil => rfl
  | cons c cs ih =>
    rw [List.filter_cons]
    split
    · rw [nodesIn_cons, ih, ← nodesIn_cons]
    · rename_i hempty
      cases c with
      | text s =>
        rw [nodesIn_cons, ih]
        exact (Nat.zero_add _).symm
      | node n => exact absurd rfl hempty

/-- A final node with its resolved children has one node more than these, also where it keeps its
old children. -/
lemma nodesOf_rebuild (n : Node) (cs : List Child) :
    nodesOf (some (.node (rebuild n cs))) = nodesIn cs + 1 := by
  have hnode : ∀ m : Node, nodesOf (some (.node m)) = nodesIn m.children + 1 := by
    intro m
    have htypes : nodesOf (some (.node m)) = m.types.length :=
      congrArg List.length (Child.types_node m)
    rw [htypes, Node.types_eq]
    rfl
  rw [hnode, rebuild]
  split
  · rename_i hsame
    have htypes : Child.types cs = Child.types n.children :=
      Child.foldAll_eq_of_same _ _ _ _ _ _ hsame
    rw [nodesIn, nodesIn, htypes]
  · rw [Node.withChildren, Node.children, nodesIn_kept]

/-- A place that a round has ended holds no node. -/
lemma nodesOf_ended {depth : Nat} {n : Node} {c : Option Child}
    (h : (r.turn context depth n).result = .ok (.ended c)) : nodesOf c = 0 := by
  have hround := (turn_result_iff context r depth n _).mp h
  cases hround with
  | dropped => rfl
  | text => rfl

variable {context r}

/-- The steps of children follow their resolution, if those of each node do. -/
lemma resolveList_follows {visit : Node → Run (Option Child)} {steps : Node → List Step}
    (h : ∀ n, Follows context r nodesOf 0 (visit n) (steps n)) (cs : List Child) :
    Follows context r nodesIn 0 (resolveList visit cs) (listSteps visit steps cs) := by
  induction cs with
  | nil =>
    refine ⟨rfl, fun rs hrs _ => ?_⟩
    cases hrs
    rfl
  | cons c cs ih =>
    obtain ⟨hreport, hnodes⟩ := ih
    cases c with
    | text s =>
      rw [resolveList, listSteps, Run.bind_eq, Run.tell_bind, Run.bind_eq]
      refine ⟨?_, fun rs hrs hstops => ?_⟩
      · rw [reportOf_cons, ← hreport, ← Run.bind_pure_report (resolveList visit cs)]
        rfl
      · obtain ⟨rest, hrest, hrs⟩ := (Run.bind_result_eq_ok_iff _ _ _).mp hrs
        cases hrs
        have hothers := hnodes rest hrest hstops
        have htext : nodesIn [.text s] = 0 := rfl
        rw [nodesIn_cons, htext, Nat.zero_add, List.countP_cons_of_neg (by simp [Step.ends]),
          List.countP_cons_of_neg (by simp [Step.enters])]
        exact hothers
    | node n =>
      obtain ⟨hreport', hnodes'⟩ := h n
      rw [resolveList, listSteps, Run.bind_eq]
      cases hn : (visit n).result with
      | error e =>
        rw [Run.bind_of_error hn, List.append_nil]
        refine ⟨hreport', fun rs hrs _ => ?_⟩
        cases hrs
      | ok c =>
        rw [Run.bind_of_ok hn, Run.bind_eq]
        refine ⟨?_, fun rs hrs hstops => ?_⟩
        · rw [reportOf_append, ← hreport', ← hreport,
            ← Run.bind_pure_report (resolveList visit cs)]
        · obtain ⟨rest, hrest, hrs⟩ := (Run.bind_result_eq_ok_iff _ _ _).mp hrs
          cases hrs
          rw [List.countP_append] at hstops
          have hfirst := hnodes' c hn (Nat.eq_zero_of_add_eq_zero_right hstops)
          have hothers := hnodes rest hrest (Nat.eq_zero_of_add_eq_zero_left hstops)
          rw [nodesIn_toList_append, List.countP_append, List.countP_append]
          dsimp only
          omega

/-- The steps of a round and of what comes after it follow the work at a node that has been entered,
if they do so for the children and for a changed node. -/
lemma round_follows {visit again : Node → Run (Option Child)} {steps more : Node → List Step}
    (h : ∀ n, Follows context r nodesOf 0 (visit n) (steps n))
    (hmore : ∀ n, Follows context r nodesOf 1 (again n) (more n)) (depth : Nat) (n : Node) :
    Follows context r nodesOf 1 ((r.turn context depth n).bind (proceed visit again))
      (roundSteps context r depth visit steps more n) := by
  unfold roundSteps
  cases ht : (r.turn context depth n).result with
  | error e =>
    rw [Run.bind_of_error ht]
    refine ⟨?_, fun c hc => nomatch hc⟩
    rw [proceedSteps, reportOf_cons]
    exact (Report.append_empty _).symm
  | ok t =>
    rw [Run.bind_of_ok ht]
    cases t with
    | settled m =>
      obtain ⟨hreport, hnodes⟩ := resolveList_follows h m.children
      have hround : Step.ends context r (.round depth n) = false := by rw [Step.ends, ht]
      rw [proceed, proceedSteps, descend_eq]
      refine ⟨?_, fun c hc hstops => ?_⟩
      · rw [reportOf_cons, ← hreport, Run.bind_pure_report]
        rfl
      · obtain ⟨cs, hcs, hc⟩ := (Run.bind_result_eq_ok_iff _ _ _).mp hc
        cases hc
        have hchildren := hnodes cs hcs hstops
        rw [nodesOf_rebuild, List.countP_cons_of_neg (by simp [hround]),
          List.countP_cons_of_neg (by simp [Step.enters])]
        omega
    | ended c =>
      have hround : Step.ends context r (.round depth n) = true := by rw [Step.ends, ht]
      rw [proceed, proceedSteps]
      refine ⟨rfl, fun a ha _ => ?_⟩
      cases ha
      rw [nodesOf_ended context r ht, List.countP_cons_of_pos hround]
      rfl
    | changed m =>
      obtain ⟨hreport, hnodes⟩ := hmore m
      have hround : Step.ends context r (.round depth n) = false := by rw [Step.ends, ht]
      rw [proceed, proceedSteps]
      refine ⟨?_, fun c hc hstops => ?_⟩
      · rw [reportOf_cons, ← hreport]
        rfl
      · have hagain := hnodes c hc hstops
        rw [List.countP_cons_of_neg (by simp [hround]),
          List.countP_cons_of_neg (by simp [Step.enters])]
        exact hagain

/-- Steps that begin with reaching a node follow the work at it. -/
lemma enter_follows {x : Run (Option Child)} {steps : List Step}
    (h : Follows context r nodesOf 1 x steps) :
    Follows context r nodesOf 0 ((Run.tell countVisit).bind fun _ => x) (.enter :: steps) := by
  obtain ⟨hreport, hnodes⟩ := h
  rw [Run.tell_bind]
  refine ⟨?_, fun c hc hstops => ?_⟩
  · rw [reportOf_cons, ← hreport]
    rfl
  · have hplace := hnodes c hc hstops
    rw [List.countP_cons_of_neg (by simp [Step.ends]), List.countP_cons_of_pos rfl]
    omega

/-- A node for which no room is left. -/
lemma stop_follows (n : Node) : Follows context r nodesOf 1 (r.stop n r.maxDepth) [.stop n] where
  report := (Report.append_empty _).symm
  nodes := by
    intro c _ hstops
    cases hstops

variable (context r)

/-- The steps of the work at a node follow it: their reports make up what is reported, and every
node that is reached stays unless its place is ended. -/
theorem visit_follows (room : Nat) (n : Node) :
    Follows context r nodesOf 0 (r.visit context room n) (visitSteps context r room n) := by
  have hboth : (∀ n, Follows context r nodesOf 0 (r.visit context room n)
      (visitSteps context r room n)) ∧
      ∀ n, Follows context r nodesOf 1 (r.again context room n) (againSteps context r room n) := by
    induction room with
    | zero => exact ⟨fun n => enter_follows (stop_follows n), fun n => stop_follows n⟩
    | succ room ih =>
      obtain ⟨hvisit, hagain⟩ := ih
      have hround := round_follows hvisit hagain (r.maxDepth - (room + 1))
      refine ⟨fun n => ?_, fun n => ?_⟩
      · rw [visit, visitSteps]
        exact enter_follows (round_follows hvisit hround _ n)
      · rw [again, againSteps]
        exact hround n
  exact hboth.1 n

end Resolver

end PageTree
