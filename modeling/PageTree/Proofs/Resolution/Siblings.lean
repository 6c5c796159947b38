import PageTree.Proofs.Resolution.Place
import PageTree.Proofs.Value.Same
import PageTree.Wire.Tree

/-!
# Children and their siblings

The children of a node without a definition are resolved separately, and the node is given their
results.  This holds up to sameness always (`resolved_children`), but not to the letter: where all
results are the same as the children from before, the node stays as it was, and what the definitions
of the children changed within sameness, the order of keys or the kinds of numbers, is lost.

`resolved_children` has the exact condition under which the results are kept to the letter.  It
looks at all children at once: `children_depend_on_siblings` shows a child whose result is lost when
it stands alone and kept beside another child.
-/

namespace PageTree

namespace Resolver

variable (context : Context) (r : Resolver)

/-- The node in place of which a node without a definition is put, given the separate results of its
children. -/
lemma visitAt_undefined {depth : Nat} (hlt : depth < r.maxDepth) {n : Node}
    (hn : r.registry.get? n.type = none) {os : List (Option Child)}
    (hos : n.children.map (fun c => (resolveChild (visitAt context r (depth + 1)) c).result) =
      os.map Except.ok) :
    (visitAt context r depth n).result =
      .ok (some (.node (rebuild n (os.flatMap Option.toList)))) :=
  visitAt_of_settled context r hlt (.undefined hn) hos

/-- A node without a definition keeps its type and configuration, and its children become the same
as the separate results of resolving them one level deeper, without what is dropped and without
empty texts.  They are these results to the letter exactly if the results are not the same as the
children from before, or do not differ from them at all. -/
theorem resolved_children (depth : Nat) (hlt : depth < r.maxDepth) (n : Node)
    (hn : r.registry.get? n.type = none) (os : List (Option Child))
    (hos : n.children.map (fun c => (resolveChild (visitAt context r (depth + 1)) c).result) =
      os.map Except.ok) :
    ∃ out, (visitAt context r depth n).result = .ok (some (.node out)) ∧
      out.type = n.type ∧ out.config = n.config ∧
      Child.sameAll (kept out.children) (kept (os.flatMap Option.toList)) = true ∧
      (out.children = kept (os.flatMap Option.toList) ↔
        (Child.sameAll (os.flatMap Option.toList) n.children = true →
          n.children = kept (os.flatMap Option.toList))) := by
  refine ⟨_, visitAt_undefined context r hlt hn hos, ?_⟩
  cases hsame : Child.sameAll (os.flatMap Option.toList) n.children with
  | true =>
    rw [rebuild_eq, if_pos hsame]
    refine ⟨rfl, rfl, Child.sameAll_filter (Child.sameAll_symm hsame), ?_⟩
    exact ⟨fun h _ => h, fun h => h rfl⟩
  | false =>
    rw [rebuild_eq, hsame, if_neg Bool.false_ne_true, Node.withChildren, Node.children, kept_kept]
    refine ⟨rfl, rfl, Child.sameAll_refl _, ?_⟩
    exact ⟨fun _ h => absurd h Bool.false_ne_true, fun _ => rfl⟩

/-- A resolver with one definition, whose transform sets an entry to `true`. -/
def flagging : Resolver where
  registry :=
    ⟨[("flag", { Definition.blank "flag" with
      action := some (.run ⟨"flag", "", "", fun n _ _ =>
        .ok (.node (n.setConfig (.str "n") (.bool true)))⟩) })], true⟩
  maxDepth := defaultDepth
  traceLevel := .errors
  strict := false

/-- A node of the defined type. -/
def flag (v : Value) : Node :=
  .mk "flag" [(.str "n", v)] []

/-- A node without a definition that holds some nodes. -/
def box (ns : List Node) : Node :=
  .mk "box" [] (ns.map Child.node)

/-- What a definition makes of a child beside another one is there. -/
theorem resolved_children_flag :
    0 < flagging.maxDepth ∧ ∃ out,
      (visitAt Context.empty flagging 0 (box [flag (.int 1), flag (.int 2)])).result =
        .ok (some (.node out)) ∧
      out.children = [.node (flag (.bool true)), .node (flag (.bool true))] := by
  have hlt : 0 < flagging.maxDepth := by decide
  obtain ⟨out, hout, -, -, -, hiff⟩ := resolved_children Context.empty flagging 0 hlt
    (box [flag (.int 1), flag (.int 2)]) rfl
    [some (.node (flag (.bool true))), some (.node (flag (.bool true)))] rfl
  refine ⟨hlt, out, hout, hiff.mpr fun h => ?_⟩
  exact absurd h (by decide)

/-- The children of a node without a definition are the separate results of resolving them. -/
def ChildrenApart : Prop :=
  ∀ (depth : Nat) (n : Node) (os : List (Option Child)) (out : Node),
    depth < r.maxDepth → r.registry.get? n.type = none →
    n.children.map (fun c => (resolveChild (visitAt context r (depth + 1)) c).result) =
      os.map Except.ok →
    (visitAt context r depth n).result = .ok (some (.node out)) →
    out.children = kept (os.flatMap Option.toList)

/-- A child for which `1` becomes `true` when it is resolved separately keeps `1` as an only child,
and not beside a child that really changes, and the difference can be seen on the wire. -/
theorem children_depend_on_siblings :
    (visitAt Context.empty flagging 1 (flag (.int 1))).result =
      .ok (some (.node (flag (.bool true)))) ∧
    (visitAt Context.empty flagging 0 (box [flag (.int 1)])).result =
      .ok (some (.node (box [flag (.int 1)]))) ∧
    (visitAt Context.empty flagging 0 (box [flag (.int 1), flag (.int 2)])).result =
      .ok (some (.node (box [flag (.bool true), flag (.bool true)]))) ∧
    (Wire.toJson Json.Style.oneLine false (.node (flag (.int 1)))).toOption ≠
      (Wire.toJson Json.Style.oneLine false (.node (flag (.bool true)))).toOption ∧
    ¬ ChildrenApart Context.empty flagging := by
  have halone : (visitAt Context.empty flagging 0 (box [flag (.int 1)])).result =
      .ok (some (.node (box [flag (.int 1)]))) := rfl
  refine ⟨rfl, halone, rfl, by decide, fun h => ?_⟩
  have hchildren := h 0 (box [flag (.int 1)]) [some (.node (flag (.bool true)))] _ (by decide) rfl
    rfl halone
  cases hchildren

end Resolver

end PageTree
