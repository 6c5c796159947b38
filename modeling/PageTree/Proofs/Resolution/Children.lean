import PageTree.Proofs.Resolution.Report

/-!
# Children

The children of a final node are resolved one after the other.  `resolveChild` resolves one of them
separately, and `resolveList_of_results` says that the whole list gives the separate results in
order, without what is dropped, and reports the separate reports in order: no child can tell what
its siblings are.
-/

namespace PageTree

namespace Resolver

variable (visit : Node → Run (Option Child))

/-- Resolves one child separately, given how a node is resolved. -/
def resolveChild : Child → Run (Option Child)
  | .text s => ⟨Report.counting { Counters.zero with texts := 1 }, .ok (some (.text s))⟩
  | .node n => visit n

/-- The first child is resolved, and then the others are. -/
lemma resolveList_cons (c : Child) (cs : List Child) :
    resolveList visit (c :: cs) =
      (resolveChild visit c).bind fun o => (resolveList visit cs).bind fun rest =>
        Run.pure (o.toList ++ rest) := by
  cases c with
  | node n => rfl
  | text s =>
    rw [resolveList, Run.bind_eq, Run.tell_bind, resolveChild, Run.bind_of_ok rfl]
    rfl

/-- Children with a result each have the results in order, without what is dropped, and the reports
in order. -/
theorem resolveList_of_results {cs : List Child} {os : List (Option Child)}
    (h : cs.map (fun c => (resolveChild visit c).result) = os.map Except.ok) :
    resolveList visit cs =
      ⟨Report.concat (cs.map fun c => (resolveChild visit c).report),
        .ok (os.flatMap Option.toList)⟩ := by
  induction cs generalizing os with
  | nil =>
    cases os with
    | nil => rfl
    | cons o os => cases h
  | cons c cs ih =>
    cases os with
    | nil => cases h
    | cons o os =>
      rw [List.map_cons, List.map_cons, List.cons.injEq] at h
      rw [resolveList_cons, Run.bind_of_ok h.1, Run.bind_of_ok (congrArg Run.result (ih h.2)),
        ih h.2, Run.pure, Report.append_empty]
      rfl

/-- If the children have a result together, then each of them has one. -/
theorem results_of_resolveList {cs rs : List Child} (h : (resolveList visit cs).result = .ok rs) :
    ∃ os : List (Option Child),
      cs.map (fun c => (resolveChild visit c).result) = os.map Except.ok ∧
        rs = os.flatMap Option.toList := by
  induction cs generalizing rs with
  | nil =>
    cases h
    exact ⟨[], rfl, rfl⟩
  | cons c cs ih =>
    rw [resolveList_cons, Run.bind_result_eq_ok_iff] at h
    obtain ⟨o, ho, h⟩ := h
    obtain ⟨rest, hrest, h⟩ := (Run.bind_result_eq_ok_iff _ _ _).mp h
    cases h
    obtain ⟨os, hos, rfl⟩ := ih hrest
    refine ⟨o :: os, ?_, rfl⟩
    rw [List.map_cons, List.map_cons, ho, hos]

/-- The children that are kept in a node: all but empty texts.  Nodes that are read or built have no
empty texts among their children in the first place. -/
def kept (cs : List Child) : List Child :=
  cs.filter fun c => !c.isEmpty

/-- Keeping what is kept changes nothing. -/
@[simp] lemma kept_kept (cs : List Child) : kept (kept cs) = kept cs := by
  unfold kept
  rw [List.filter_filter]
  simp only [Bool.and_self]

/-- A final node is given the kept results of its children, unless these are the same as the
children it has. -/
lemma rebuild_eq (n : Node) (cs : List Child) :
    rebuild n cs = if Child.sameAll cs n.children then n else n.withChildren (kept cs) :=
  rfl

/-- Resolving the children of a node that has none changes nothing, so that this case needs no
extra care. -/
lemma descend_eq (n : Node) :
    descend visit n =
      (resolveList visit n.children).bind fun cs => Run.pure (some (.node (rebuild n cs))) := by
  unfold descend
  split
  · rename_i h
    have hnil : n.children = [] := List.isEmpty_iff.mp h
    have hrebuild : rebuild n [] = n := by
      rw [rebuild, hnil]
      exact if_pos rfl
    rw [hnil, resolveList, Run.pure_bind, hrebuild]
  · rfl

/-- The children of a final node are there in what becomes of it, and their reports are all there is
to report. -/
lemma descend_of_results {n : Node} {os : List (Option Child)}
    (h : n.children.map (fun c => (resolveChild visit c).result) = os.map Except.ok) :
    descend visit n =
      ⟨Report.concat (n.children.map fun c => (resolveChild visit c).report),
        .ok (some (.node (rebuild n (os.flatMap Option.toList))))⟩ := by
  rw [descend_eq, resolveList_of_results visit h, Run.bind_of_ok rfl, Run.pure,
    Report.append_empty]

/-- What becomes of a final node: the node with the separate results of its children. -/
lemma results_of_descend {n : Node} {o : Option Child} (h : (descend visit n).result = .ok o) :
    ∃ os : List (Option Child),
      n.children.map (fun c => (resolveChild visit c).result) = os.map Except.ok ∧
        o = some (.node (rebuild n (os.flatMap Option.toList))) := by
  rw [descend_eq, Run.bind_result_eq_ok_iff] at h
  obtain ⟨cs, hcs, h⟩ := h
  obtain ⟨os, hos, rfl⟩ := results_of_resolveList visit hcs
  cases h
  exact ⟨os, hos, rfl⟩

end Resolver

end PageTree
