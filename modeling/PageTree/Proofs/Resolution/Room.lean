import PageTree.Proofs.Resolution.Rules

/-!
# Room to spare

A resolution in which no place runs out of room (`Fits`) is the same under every greater bound on
the depth: the same trees, and the same report of problems, counts, traces and log.  This is the
main statement, `resolution_unchanged_by_room`.

The bound is read only where the depth is checked before a round.  A derivation of the loop at a
place that records no problem of depth never uses the rule for the case that no room is left, so
that it is a derivation under the greater bound as well.  The children follow in lock step, by
induction on the room that the smaller bound leaves.
-/

namespace PageTree

namespace Resolver

/-- A resolver with another bound on the depth. -/
def withBound (r : Resolver) (bound : Nat) : Resolver :=
  { r with maxDepth := bound }

/-- A report in which no place ran out of room. -/
def Fits (report : Report) : Prop :=
  ∀ c ∈ report.records, c.kind ≠ .depthExceeded

/-- Where two reports fit together, each of them fits. -/
lemma Fits.of_append {a b : Report} (h : Fits (a.append b)) : Fits a ∧ Fits b :=
  ⟨fun c hc => h c (List.mem_append_left _ hc), fun c hc => h c (List.mem_append_right _ hc)⟩

/-- Where a sequence of computations fits, its first one fits. -/
lemma Fits.of_bind {α β : Type} {x : Run α} {f : α → Run β} (h : Fits (x.bind f).report) :
    Fits x.report := by
  cases hx : x.result with
  | error e =>
    rw [Run.bind_of_error hx] at h
    exact h
  | ok a =>
    rw [Run.bind_of_ok hx] at h
    exact h.of_append.1

/-- A node for which no room is left does not fit. -/
lemma not_fits_exceeded (bound : Nat) (n : Node) (depth : Nat) :
    ¬ Fits (exceeded bound n depth) := by
  intro h
  exact h _ List.mem_cons_self rfl

variable {context : Context} {r : Resolver} {bound : Nat}

/-- The loop at a place is the same under a greater bound if it fits. -/
lemma Loops.withBound (hle : r.maxDepth ≤ bound) {depth changes : Nat} {n : Node}
    {x : Run Ending} (h : Loops context r depth changes n x) (hfits : Fits x.report) :
    Loops context (r.withBound bound) depth changes n x := by
  induction h with
  | stops => exact absurd hfits (not_fits_exceeded _ _ _)
  | raises hlt ht => exact .raises (Nat.lt_of_lt_of_le hlt hle) ht
  | settles hlt ht => exact .settles (Nat.lt_of_lt_of_le hlt hle) ht
  | ends hlt ht => exact .ends (Nat.lt_of_lt_of_le hlt hle) ht
  | changes hlt ht _ ih =>
    have hrest := ih hfits.of_append.2
    exact .changes (Nat.lt_of_lt_of_le hlt hle) ht hrest

/-- The work at a place is the same under a greater bound if it fits. -/
lemma place_withBound (hle : r.maxDepth ≤ bound) {depth : Nat} (hdepth : depth ≤ r.maxDepth)
    {n : Node} (hfits : Fits (place context r depth n).report) :
    place context (r.withBound bound) depth n = place context r depth n := by
  have hloop := (loops_iff context r hdepth n _).mpr rfl
  have hdepth' : depth ≤ (r.withBound bound).maxDepth := Nat.le_trans hdepth hle
  exact ((loops_iff context (r.withBound bound) hdepth' n _).mp (hloop.withBound hle hfits)).symm

/-- Children are resolved in the same way under a greater bound if they fit, given that the nodes at
their depth are. -/
lemma resolveList_withBound {depth : Nat}
    (hnodes : ∀ n, Fits (visitAt context r depth n).report →
      visitAt context (r.withBound bound) depth n = visitAt context r depth n)
    {cs : List Child} (hfits : Fits (resolveList (visitAt context r depth) cs).report) :
    resolveList (visitAt context (r.withBound bound) depth) cs =
      resolveList (visitAt context r depth) cs := by
  induction cs with
  | nil => rw [resolveList, resolveList]
  | cons c cs ih =>
    rw [resolveList_cons] at hfits
    have hchild : resolveChild (visitAt context (r.withBound bound) depth) c =
        resolveChild (visitAt context r depth) c := by
      cases c with
      | text s => rw [resolveChild, resolveChild]
      | node n => exact hnodes n hfits.of_bind
    rw [resolveList_cons, resolveList_cons, hchild]
    cases hc : (resolveChild (visitAt context r depth) c).result with
    | error e => rw [Run.bind_of_error hc, Run.bind_of_error hc]
    | ok o =>
      rw [Run.bind_of_ok hc] at hfits
      rw [ih hfits.of_append.2.of_bind]

/-- A node with its children is resolved in the same way under a greater bound if it fits. -/
lemma visitAt_withBound (hle : r.maxDepth ≤ bound) {depth : Nat} (hdepth : depth ≤ r.maxDepth)
    {n : Node} (hfits : Fits (visitAt context r depth n).report) :
    visitAt context (r.withBound bound) depth n = visitAt context r depth n := by
  -- the induction is on the room that is left under the smaller bound
  induction hroom : r.maxDepth - depth using Nat.strongRecOn generalizing depth n with
  | _ room ih =>
    have hdepth' : depth ≤ (r.withBound bound).maxDepth := Nat.le_trans hdepth hle
    rw [visitAt_eq_place context r hdepth] at hfits
    have hwork := hfits.of_append.2
    rw [visitAt_eq_place context (r.withBound bound) hdepth', visitAt_eq_place context r hdepth,
      place_withBound hle hdepth hwork.of_bind]
    cases hz : (place context r depth n).result with
    | error e => rw [Run.bind_of_error hz, Run.bind_of_error hz]
    | ok z =>
      rw [Run.bind_of_ok hz] at hwork
      have hfinish : finishPlace context (r.withBound bound) z = finishPlace context r z := by
        cases z with
        | ended c => rfl
        | exceeded m => rfl
        | settled e m =>
          obtain ⟨hfrom, hlt, -⟩ := place_settled context r hdepth hz
          have hchildren := hwork.of_append.2
          rw [finishPlace, descend_eq] at hchildren
          rw [finishPlace, finishPlace, descend_eq, descend_eq]
          rw [resolveList_withBound (fun p hp => ih _ (by omega) hlt hp rfl) hchildren.of_bind]
      rw [Run.bind_of_ok hz, Run.bind_of_ok hz, hfinish]

/-- A tree that fits gives the same run under a greater bound. -/
lemma resolveTree_withBound (hle : r.maxDepth ≤ bound) {root : Value}
    (hfits : Fits (r.resolveTree context root).report) :
    (r.withBound bound).resolveTree context root = r.resolveTree context root := by
  rw [resolveTree_eq] at hfits
  rw [resolveTree_eq, resolveTree_eq]
  cases hroot : rootOf root with
  | error e => rfl
  | ok c =>
    rw [hroot] at hfits
    cases c with
    | text s => rfl
    | node n => exact visitAt_withBound hle (Nat.zero_le _) hfits

/-- Trees that fit give the same run under a greater bound. -/
lemma resolveTrees_withBound (hle : r.maxDepth ≤ bound) {roots : List Value}
    (hfits : Fits (r.resolveTrees context roots).report) :
    (r.withBound bound).resolveTrees context roots = r.resolveTrees context roots := by
  induction roots with
  | nil => rfl
  | cons root roots ih =>
    rw [resolveTrees_cons] at hfits
    rw [resolveTrees_cons, resolveTrees_cons, resolveTree_withBound hle hfits.of_bind]
    cases hroot : (r.resolveTree context root).result with
    | error e => rw [Run.bind_of_error hroot, Run.bind_of_error hroot]
    | ok c =>
      rw [Run.bind_of_ok hroot] at hfits
      have hrest := hfits.of_append.2.of_bind
      rw [ih hrest]

variable (context r)

/-- Raising the bound on the depth changes nothing in a run without a problem of depth, neither its
trees nor anything it reports, for one tree as for several. -/
theorem resolution_unchanged_by_room (bound : Nat) (hle : r.maxDepth ≤ bound) :
    (∀ root, Fits (r.resolveTree context root).report →
      (r.withBound bound).resolveTree context root = r.resolveTree context root ∧
      (r.withBound bound).finish ((r.withBound bound).resolveTree context root) =
        r.finish (r.resolveTree context root)) ∧
    (∀ roots, Fits (r.resolveTrees context roots).report →
      (r.withBound bound).resolveTrees context roots = r.resolveTrees context roots ∧
      (r.withBound bound).finish ((r.withBound bound).resolveTrees context roots) =
        r.finish (r.resolveTrees context roots)) := by
  refine ⟨fun root hfits => ?_, fun roots hfits => ?_⟩
  · have hrun := resolveTree_withBound hle hfits
    refine ⟨hrun, ?_⟩
    rw [hrun]
    rfl
  · have hrun := resolveTrees_withBound hle hfits
    refine ⟨hrun, ?_⟩
    rw [hrun]
    rfl

/-- A resolver with one definition, whose transform puts a node of another type below its own. -/
def planting : Resolver where
  registry :=
    ⟨[("pot", { Definition.blank "pot" with
      action := some (.run ⟨"plant", "", "", fun n _ _ =>
        .ok (.node (n.withChildren [.node (.mk "plant" [] [])]))⟩) })], true⟩
  maxDepth := 2
  traceLevel := .errors
  strict := false

/-- A node whose child is made in the run needs a bound of two, and any greater one does as well. -/
theorem resolution_unchanged_by_room_planting :
    planting.maxDepth ≤ 7 ∧
      Fits (planting.resolveTree Context.empty (.node (.mk "pot" [] []))).report ∧
      (planting.withBound 7).resolveTree Context.empty (.node (.mk "pot" [] [])) =
        planting.resolveTree Context.empty (.node (.mk "pot" [] [])) := by
  have hle : planting.maxDepth ≤ 7 := by decide
  have hrecords :
      (planting.resolveTree Context.empty (.node (.mk "pot" [] []))).report.records = [] := rfl
  have hfits : Fits (planting.resolveTree Context.empty (.node (.mk "pot" [] []))).report := by
    intro c hc
    rw [hrecords] at hc
    cases hc
  obtain ⟨htree, -⟩ := resolution_unchanged_by_room Context.empty planting 7 hle
  exact ⟨hle, hfits, (htree _ hfits).1⟩

end Resolver

end PageTree
