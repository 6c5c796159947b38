import PageTree.Proofs.Value.Same

/-!
# Measures of trees

What can be counted in a tree without a look at configurations: the types of its nodes in order, its
texts in order, and its height.  All of them are folds over the tree (`Node.fold`), and so they
agree on trees that are the same (`Node.fold_eq_of_same`): sameness leaves open how the keys of a
configuration are ordered and of what kind its numbers are, and nothing else.
-/

namespace PageTree

section Fold

variable {α : Type} (node : String → α → α) (text : String → α) (join : α → α → α) (nothing : α)

mutual

/-- Puts a tree together again from its types and texts. -/
def Node.fold : Node → α
  | .mk type _ children => node type (Child.foldAll children)

/-- Puts children together, one after the other. -/
def Child.foldAll : List Child → α
  | [] => nothing
  | .text s :: cs => join (text s) (Child.foldAll cs)
  | .node n :: cs => join n.fold (Child.foldAll cs)

end

mutual

/-- Trees that are the same have the same folds. -/
theorem Node.fold_eq_of_same : (n m : Node) → n.same m = true →
    n.fold node text join nothing = m.fold node text join nothing
  | .mk t c cs, .mk t' c' cs' => by
    intro h
    simp only [Node.same, Node.agree, Bool.and_eq_true, beq_iff_eq] at h
    rw [Node.fold, Node.fold, h.1.1, Child.foldAll_eq_of_same cs cs' h.2]

/-- Children that are the same have the same folds. -/
theorem Child.foldAll_eq_of_same : (cs ds : List Child) → Child.sameAll cs ds = true →
    Child.foldAll node text join nothing cs = Child.foldAll node text join nothing ds
  | [], [], _ => rfl
  | [], _ :: _, h => nomatch h
  | .text s :: cs, [], h => nomatch h
  | .node n :: cs, [], h => nomatch h
  | .text s :: cs, .text t :: ds, h => by
    simp only [Child.sameAll, Child.agreeAll, Child.agree, Bool.and_eq_true, beq_iff_eq] at h
    rw [Child.foldAll, Child.foldAll, h.1, Child.foldAll_eq_of_same cs ds h.2]
  | .node n :: cs, .node m :: ds, h => by
    simp only [Child.sameAll, Child.agreeAll, Child.agree, Bool.and_eq_true] at h
    rw [Child.foldAll, Child.foldAll, Node.fold_eq_of_same n m h.1,
      Child.foldAll_eq_of_same cs ds h.2]
  | .text s :: cs, .node m :: ds, h => by simp [Child.sameAll, Child.agreeAll, Child.agree] at h
  | .node n :: cs, .text t :: ds, h => by simp [Child.sameAll, Child.agreeAll, Child.agree] at h

end

end Fold

/-- The types of the nodes of a tree in order, that of the root first. -/
def Node.types (n : Node) : List String :=
  n.fold (fun t ts => t :: ts) (fun _ => []) (· ++ ·) []

/-- The types of the nodes below some children. -/
def Child.types (cs : List Child) : List String :=
  Child.foldAll (fun t ts => t :: ts) (fun _ => []) (· ++ ·) [] cs

/-- The texts of a tree in order. -/
def Node.texts (n : Node) : List String :=
  n.fold (fun _ ss => ss) (fun s => [s]) (· ++ ·) []

/-- The texts below some children. -/
def Child.texts (cs : List Child) : List String :=
  Child.foldAll (fun _ ss => ss) (fun s => [s]) (· ++ ·) [] cs

/-- The number of levels of a tree that hold a node. -/
def Node.levels (n : Node) : Nat :=
  n.fold (fun _ k => k + 1) (fun _ => 0) max 0

/-- The number of levels below some children that hold a node. -/
def Child.levels (cs : List Child) : Nat :=
  Child.foldAll (fun _ k => k + 1) (fun _ => 0) max 0 cs

/-- The level of the deepest node of a tree, with the root on level 0. -/
def Node.height (n : Node) : Nat :=
  n.levels - 1

namespace Node

/-- The types of a tree are that of its root and those of its children. -/
lemma types_eq (n : Node) : n.types = n.type :: Child.types n.children := by
  cases n
  rfl

/-- The texts of a tree are those of its children. -/
lemma texts_eq (n : Node) : n.texts = Child.texts n.children := by
  cases n
  rfl

/-- The root of a tree stands on a level of its own. -/
lemma levels_eq (n : Node) : n.levels = Child.levels n.children + 1 := by
  cases n
  rfl

end Node

namespace Child

/-- The types of children, one after the other. -/
lemma types_cons (c : Child) (cs : List Child) : types (c :: cs) = types [c] ++ types cs := by
  cases c <;> simp [types, foldAll]

/-- The types of siblings, one list after the other. -/
lemma types_append (cs ds : List Child) : types (cs ++ ds) = types cs ++ types ds := by
  induction cs with
  | nil => rfl
  | cons c cs ih => rw [List.cons_append, types_cons, ih, types_cons c cs, List.append_assoc]

/-- The texts of children, one after the other. -/
lemma texts_cons (c : Child) (cs : List Child) : texts (c :: cs) = texts [c] ++ texts cs := by
  cases c <;> simp [texts, foldAll]

/-- The levels of children, one after the other. -/
lemma levels_cons (c : Child) (cs : List Child) :
    levels (c :: cs) = max (levels [c]) (levels cs) := by
  cases c <;> simp [levels, foldAll]

/-- The types of a single node. -/
@[simp] lemma types_node (n : Node) : types [.node n] = n.types :=
  List.append_nil _

/-- The texts of a single node. -/
@[simp] lemma texts_node (n : Node) : texts [.node n] = n.texts :=
  List.append_nil _

/-- The levels of a single node. -/
@[simp] lemma levels_node (n : Node) : levels [.node n] = n.levels :=
  Nat.max_zero _

/-- A child has no more levels than all the children together. -/
lemma levels_le_of_mem {n : Node} {cs : List Child} (h : Child.node n ∈ cs) :
    n.levels ≤ levels cs := by
  induction cs with
  | nil => cases h
  | cons c cs ih =>
    rw [levels_cons]
    rcases List.mem_cons.mp h with rfl | h
    · rw [levels_node]
      exact Nat.le_max_left _ _
    · exact Nat.le_trans (ih h) (Nat.le_max_right _ _)

end Child

end PageTree
