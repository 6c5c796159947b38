import PageTree.Proofs.Builtin.Idempotence
import PageTree.Proofs.Markup.Node
import PageTree.Proofs.Resolution.Full

/-!
# The built-in definitions make full nodes

No transform of the built-in definitions puts an empty text below a node (`makesFull`).  Most of
them leave the children of a node as they are.  Those that make children of their own make nodes
without children, for the tags of a document, or nodes with the texts of its markup, which are left
out where they are empty.
-/

namespace PageTree

/-- A node is full if it has the children of a full one. -/
lemma Node.Full.of_children {n m : Node} (h : n.Full) (hchildren : m.children = n.children) :
    m.Full := by
  rw [full_iff] at h ⊢
  rw [hchildren]
  exact h

/-- Nodes that are full stand among full children. -/
lemma Child.allFull_nodes {ns : List Node} (h : ∀ n ∈ ns, n.Full) :
    AllFull (ns.map Child.node) := by
  refine (allFull_iff _).mpr fun c hc => ?_
  obtain ⟨n, hn, rfl⟩ := List.mem_map.mp hc
  exact (allFull_node n).mpr (h n hn)

/-- The nodes of a body are full: an element without a text has no children. -/
lemma Markup.full_of_nodesOf [MarkupLibrary] {markup : String} {names : Value} {nodes : List Node}
    (h : nodesOf markup names = .ok nodes) : ∀ n ∈ nodes, n.Full := by
  intro n hn
  obtain ⟨-, name, e, -, -, he⟩ := exists_element h n hn
  obtain ⟨type, -, he⟩ := (bind_eq_ok_iff _ _ _).mp he
  cases he
  exact (Node.full_iff _).mpr (Child.allFull_text_unless Child.allFull_nil)

namespace Builtin

open Resolver

variable {n : Node} {data : Entries} {context : Context} {v : Value}

/-- Tags become nodes without children. -/
lemma full_postTags (h : postTags n data context = .ok v) : v.Full := by
  cases h
  refine (Node.full_iff _).mpr ((Child.allFull_iff _).mpr fun c hc => ?_)
  obtain ⟨t, -, rfl⟩ := List.mem_map.mp hc
  exact (Child.allFull_node _).mpr ((Node.full_iff _).mpr Child.allFull_nil)

/-- A body becomes a container of full nodes. -/
lemma full_postContent [MarkupLibrary] (h : postContent n data context = .ok v) : v.Full := by
  unfold postContent at h
  split at h
  · cases h
    exact (Node.full_iff _).mpr Child.allFull_nil
  · obtain ⟨nodes, hnodes, h⟩ := (bind_eq_ok_iff _ _ _).mp h
    cases h
    exact (Node.full_iff _).mpr (Child.allFull_nodes (Markup.full_of_nodesOf hnodes))

/-- The transforms for documents make full nodes of full ones. -/
lemma full_post [MarkupLibrary] (hn : n.Full) :
    ∀ e ∈ postTable, e.2.2.2 n data context = .ok v → v.Full := by
  have htext : ∀ s, (Value.str s).Full := fun _ => trivial
  simp only [postTable, List.forall_mem_cons, List.not_mem_nil, false_implies, implies_true,
    and_true]
  refine ⟨?_, ?_, ?_, ?_, ?_, full_postTags, full_postContent⟩
  · intro h
    obtain ⟨s, rfl⟩ := exists_text_of_postTitle h
    exact htext s
  · intro h
    unfold postExcerpt at h
    split at h <;> cases h <;> exact htext _
  · intro h
    cases h
    exact hn.of_children rfl
  · intro h
    unfold postByline at h
    split at h <;> cases h <;> exact hn.of_children rfl
  · intro h
    cases h
    exact hn.of_children rfl

/-- The built-in definitions put no empty text below a node. -/
theorem makesFull [Surroundings] (settings : ImageSettings) (context : Context) (maxDepth : Nat)
    (level : TraceLevel) (strict : Bool) :
    MakesFull context (resolver settings maxDepth level strict) := by
  rintro n d v hn ⟨hd, a, data, ha, -, h⟩
  replace hn := (full_withDefaults n d.defaults).mpr hn
  cases kind_of_get? hd with
  | inert d haction =>
    rw [haction] at ha
    cases ha
  | footer =>
    cases ha
    obtain rfl := Except.ok.inj ((fillCopyright_eq _ data context).symm.trans h)
    exact hn.of_children rfl
  | post d hd =>
    obtain ⟨e, he, -, -, -, t, ht, happly⟩ := exists_of_mem_postDefinitions hd
    obtain rfl : Action.run t = a := Option.some.inj (ht.symm.trans ha)
    rw [act, happly] at h
    exact full_post hn e he h
  | image =>
    cases ha
    obtain ⟨config, -, rfl⟩ :=
      (map_eq_ok_iff _ _ _).mp ((showImage_eq settings _ data context).symm.trans h)
    exact hn.of_children rfl

end Builtin

end PageTree
