import Mathlib.Data.List.Forall2
import PageTree.Proofs.Node.Measure
import PageTree.Proofs.Wire.Collision

/-!
# Fragments are contracted on the wire

A fragment among children stands for its own children.  `spliced` puts them in its place, again and
again, until no fragment is left among the siblings; `Contracts` says that a wire tree has, at every
node, the spliced children of the node it comes from, each of them contracted below, the same type
and the recased configuration.

Nothing is lost, doubled or moved on the way: the texts and the nodes that are no fragments, in
order from the top (`items`), are those of the tree that is rendered, with recased configurations.
The main statement is `fragments_are_contracted`.
-/

namespace PageTree.Wire

mutual

/-- What a node gives among children: itself, or what its children give if it is a fragment. -/
def inPlace : Node → List Child
  | .mk type config cs => if type = "" then spliced cs else [.node (.mk type config cs)]

/-- Children with each fragment among them replaced by its own children, down to siblings that are
no fragments. -/
def spliced : List Child → List Child
  | [] => []
  | .text s :: rest => .text s :: spliced rest
  | .node n :: rest => inPlace n ++ spliced rest

end

/-- A wire tree has the shape of a tree with fragments contracted. -/
inductive Contracts : Child → Child → Prop where
  /-- A text stays what it is. -/
  | text (s : String) : Contracts (.text s) (.text s)
  /-- A node keeps its type, its configuration is recased, and its spliced children are
  contracted one by one. -/
  | node (type : String) (config : Entries) {cs ws : List Child}
      (children : List.Forall₂ Contracts (spliced cs) ws) :
      Contracts (.node (.mk type config cs)) (.node (.mk type (formEntries config) ws))

/-- What is written of a child: a text, or the type and configuration of a node. -/
inductive Item where
  | text (s : String)
  | node (type : String) (config : Entries)

mutual

/-- The items of a node: its own, unless it is a fragment, and those of its children. -/
def nodeItems : Node → List Item
  | .mk type config cs => if type = "" then items cs else .node type config :: items cs

/-- The texts and the nodes that are no fragments, from the top and in order. -/
def items : List Child → List Item
  | [] => []
  | .text s :: rest => .text s :: items rest
  | .node n :: rest => nodeItems n ++ items rest

end

/-- An item with its configuration recased. -/
def Item.recased : Item → Item
  | .text s => .text s
  | .node type config => .node type (formEntries config)

/-- Some children have become others: the spliced ones, contracted one by one, with the same items
in the same order and without fragments among children at any depth. -/
structure Contraction (cs ws : List Child) : Prop where
  children : List.Forall₂ Contracts (spliced cs) ws
  items_eq : items ws = (items cs).map Item.recased
  no_fragment : "" ∉ Child.types ws

/-! ## Siblings one after the other -/

/-- Items of siblings, one after the other. -/
lemma items_append (cs ds : List Child) : items (cs ++ ds) = items cs ++ items ds := by
  induction cs with
  | nil => rfl
  | cons c cs ih =>
    cases c with
    | text s => rw [List.cons_append, items, items, ih, List.cons_append]
    | node n => rw [List.cons_append, items, items, ih, List.append_assoc]

/-- The form of a fragment is that of its children. -/
lemma formChildren_fragment (config : Entries) (ks cs : List Child) :
    formChildren (.node (.mk "" config ks) :: cs) = formChildren (ks ++ cs) := by
  rw [formChildren, if_pos rfl, formChildren_append]

/-- A fragment reaches the mappings that its children reach. -/
lemma childMappings_fragment (config : Entries) (ks cs : List Child) :
    childMappings (.node (.mk "" config ks) :: cs) = childMappings (ks ++ cs) := by
  rw [childMappings, if_pos rfl, childMappings_append]

/-! ## What the form keeps -/

mutual

/-- The form of a single child is made of what it gives in its place. -/
theorem forall₂_inPlace : (n : Node) →
    List.Forall₂ Contracts (inPlace n) (formChildren [.node n])
  | .mk type config cs => by
    have hcs := forall₂_formChildren cs
    rw [inPlace, formChildren, formChildren]
    split
    · rw [List.append_nil]
      exact hcs
    · exact List.Forall₂.cons (.node type config hcs) List.Forall₂.nil

/-- The form of siblings is made of their spliced children. -/
theorem forall₂_formChildren : (cs : List Child) →
    List.Forall₂ Contracts (spliced cs) (formChildren cs)
  | [] => List.Forall₂.nil
  | .text s :: rest => List.Forall₂.cons (.text s) (forall₂_formChildren rest)
  | .node n :: rest => by
    rw [spliced, formChildren_cons]
    exact List.rel_append (forall₂_inPlace n) (forall₂_formChildren rest)

end

mutual

/-- The form of a single child has its items. -/
theorem items_formChild : (n : Node) →
    items (formChildren [.node n]) = (nodeItems n).map Item.recased
  | .mk type config cs => by
    have hcs := items_formChildren cs
    rw [formChildren, formChildren, nodeItems]
    split
    · rw [List.append_nil, hcs]
    · rename_i h
      rw [items, nodeItems, if_neg h, items, List.append_nil, hcs, List.map_cons, Item.recased]

/-- The form of siblings has their items. -/
theorem items_formChildren : (cs : List Child) →
    items (formChildren cs) = (items cs).map Item.recased
  | [] => rfl
  | .text s :: rest => by
    rw [formChildren, items, items, items_formChildren rest, List.map_cons, Item.recased]
  | .node n :: rest => by
    rw [formChildren_cons, items_append, items, items_formChild n, items_formChildren rest,
      List.map_append]

end

mutual

/-- No fragment is left in the form of a single child. -/
theorem not_mem_types_formChild : (n : Node) → "" ∉ Child.types (formChildren [.node n])
  | .mk type config cs => by
    have hcs := not_mem_types_formChildren cs
    rw [formChildren, formChildren]
    split
    · rw [List.append_nil]
      exact hcs
    · rename_i h
      rw [Child.types_node, Node.types_eq, List.mem_cons]
      exact not_or.mpr ⟨Ne.symm h, hcs⟩

/-- No fragment is left among children in the form of siblings. -/
theorem not_mem_types_formChildren : (cs : List Child) → "" ∉ Child.types (formChildren cs)
  | [] => List.not_mem_nil
  | .text s :: rest => by
    rw [formChildren, Child.types_cons]
    exact not_mem_types_formChildren rest
  | .node n :: rest => by
    rw [formChildren_cons, Child.types_append, List.mem_append]
    exact not_or.mpr ⟨not_mem_types_formChild n, not_mem_types_formChildren rest⟩

end

/-- The form of siblings is their contraction. -/
lemma contraction_formChildren (cs : List Child) : Contraction cs (formChildren cs) where
  children := forall₂_formChildren cs
  items_eq := items_formChildren cs
  no_fragment := not_mem_types_formChildren cs

/-! ## Rendering -/

/-- A node that is rendered keeps its type, and its configuration is recased and its children are
contracted. -/
lemma contraction_of_node {path : String} {n w : Node} (h : node path n = .ok w) :
    w.type = n.type ∧ w.config = formEntries n.config ∧ Contraction n.children w.children := by
  obtain ⟨type, config, cs⟩ := n
  rw [node_eq, settle_eq_ok_iff] at h
  obtain ⟨-, rfl⟩ := h
  rw [formNode]
  exact ⟨rfl, rfl, contraction_formChildren cs⟩

/-- Siblings that are rendered are contracted. -/
lemma contraction_of_children {path : String} {i : Nat} {cs ws : List Child}
    (h : children path i cs = .ok ws) : Contraction cs ws := by
  rw [children_eq, settle_eq_ok_iff] at h
  obtain ⟨-, rfl⟩ := h
  exact contraction_formChildren cs

/-- A node in a configuration is rendered as a node and then written in storage shape. -/
lemma exists_node_of_value {path : String} {n : Node} {v : Value}
    (h : value path (.node n) = .ok v) : ∃ w, node path n = .ok w ∧ v = w.toValue := by
  rw [value] at h
  cases hw : node path n with
  | error e =>
    rw [hw] at h
    cases h
  | ok w =>
    rw [hw] at h
    cases h
    exact ⟨w, rfl, rfl⟩

/-- A fragment between siblings gives what its children would give in its place. -/
lemma children_fragment_iff (path : String) (i : Nat) (before : List Child) (config : Entries)
    (ks after ws : List Child) :
    children path i (before ++ .node (.mk "" config ks) :: after) = .ok ws ↔
      children path i (before ++ ks ++ after) = .ok ws := by
  have hform : formChildren (before ++ .node (.mk "" config ks) :: after) =
      formChildren (before ++ ks ++ after) := by
    rw [formChildren_append, formChildren_fragment, List.append_assoc, formChildren_append before]
  have hreached : childMappings (before ++ .node (.mk "" config ks) :: after) =
      childMappings (before ++ ks ++ after) := by
    rw [childMappings_append, childMappings_fragment, List.append_assoc,
      childMappings_append before]
  rw [children_eq_ok_iff, children_eq_ok_iff, hform, hreached]

/-- A node that is rendered keeps its type and has its configuration recased and its children
contracted, and a node in a configuration is rendered likewise.  Siblings are contracted too; an
empty fragment gives nothing, and a fragment between siblings gives what its children would give in
its place. -/
theorem fragments_are_contracted :
    (∀ path n w, node path n = .ok w →
      w.type = n.type ∧ w.config = formEntries n.config ∧ Contraction n.children w.children) ∧
    (∀ path n v, value path (.node n) = .ok v → ∃ w, node path n = .ok w ∧ v = w.toValue) ∧
    (∀ path i cs ws, children path i cs = .ok ws → Contraction cs ws) ∧
    (∀ path i config, children path i [.node (.mk "" config [])] = .ok []) ∧
    ∀ path i before config ks after ws,
      children path i (before ++ .node (.mk "" config ks) :: after) = .ok ws ↔
        children path i (before ++ ks ++ after) = .ok ws := by
  refine ⟨fun path n w h => ?_, fun path n v h => ?_, fun path i cs ws h => ?_,
    fun path i config => ?_, children_fragment_iff⟩
  · exact contraction_of_node h
  · exact exists_node_of_value h
  · exact contraction_of_children h
  · have h := children_fragment_iff path i [] config [] [] []
    exact h.mpr rfl

/-- A page with fragments in fragments, one of them empty. -/
def nested : Node :=
  .mk "page" [] [.node (.mk "" [] [.text "a", .node (.mk "" [] []),
    .node (.mk "box" [(.str "foo_bar", .int 1)] [.node (.mk "" [] [.text "b"])])]), .text "c"]

/-- The page with its fragments contracted. -/
def flat : Node :=
  .mk "page" [] [.text "a", .node (.mk "box" [(.str "fooBar", .int 1)] [.text "b"]), .text "c"]

/-- The nested page is rendered, and so the flat one is its contraction. -/
theorem fragments_are_contracted_nested :
    node rootPath nested = .ok flat ∧ flat.type = nested.type ∧
      flat.config = formEntries nested.config ∧ Contraction nested.children flat.children := by
  have hnode : node rootPath nested = .ok flat := by rfl
  exact ⟨hnode, fragments_are_contracted.1 rootPath nested flat hnode⟩

end PageTree.Wire
