import PageTree.Builtin.Post
import PageTree.Proofs.Outcome

/-!
# The nodes of a body

The nodes that the markup of a document makes are flat: each has the name of one of the elements
that are shown for its type, texts in its configuration and no nodes among its children
(`flat_of_nodesOf`).
-/

namespace PageTree.Markup

/-- A node as markup makes them: it is named for an element that is shown, its configuration holds
texts, and its children are texts. -/
structure Flat (n : Node) : Prop where
  type : n.type ∈ Builtin.contentTags
  config : ∃ attributes : List (String × String),
    n.config = attributes.map fun a => (Key.str a.1, Value.str a.2)
  children : ∃ texts : List String, n.children = texts.map Child.text

/-- A node of a body is no fragment. -/
lemma Flat.type_ne_empty {n : Node} (h : Flat n) : n.type ≠ "" := by
  have hnames : ∀ name ∈ Builtin.contentTags, name ≠ "" := by decide
  exact hnames n.type h.type

/-- A node of a body is written with its attributes and its texts. -/
lemma Flat.exists_mk {n : Node} (h : Flat n) :
    ∃ (type : String) (attributes : List (String × String)) (texts : List String), type ≠ "" ∧
      n = .mk type (attributes.map fun a => (Key.str a.1, Value.str a.2))
        (texts.map Child.text) := by
  have hne := h.type_ne_empty
  obtain ⟨type, config, cs⟩ := n
  obtain ⟨-, ⟨attributes, hconfig⟩, texts, hcs⟩ := h
  rw [Node.type_mk] at hne
  rw [Node.config_mk] at hconfig
  rw [Node.children_mk] at hcs
  exact ⟨type, attributes, texts, hne, by rw [hconfig, hcs]⟩

/-- The node of an element is flat under a name that is shown. -/
lemma flat_of_nodeOf {name : String} (hname : name ∈ Builtin.contentTags) {e : Element}
    {n : Node} (h : nodeOf (.str name) e = .ok n) : Flat n := by
  cases h
  refine ⟨hname, ⟨e.attributes.map fun a => (a.1, a.2.value), ?_⟩, ?_⟩
  · rw [List.map_map]
    rfl
  · by_cases htext : e.text = ""
    · exact ⟨[], if_pos htext⟩
    · exact ⟨[e.text], if_neg htext⟩

variable [MarkupLibrary]

/-- A body with a node is made of elements that are found. -/
lemma exists_elements {markup : String} {names : Value} {nodes : List Node}
    (h : nodesOf markup names = .ok nodes) {n : Node} (hn : n ∈ nodes) :
    markup ≠ "" ∧ ∃ all, MarkupLibrary.elementsOf markup = some (.ok all) := by
  unfold nodesOf at h
  split at h
  · cases h
    cases hn
  · rename_i hne
    split at h
    · cases h
    · cases h
    · exact ⟨hne, _, by assumption⟩

/-- The nodes of a body are made of elements, each under one of the names that are shown. -/
lemma exists_element {markup : String} {names : Value} {nodes : List Node}
    (h : nodesOf markup names = .ok nodes) :
    ∀ n ∈ nodes, ∃ shown name e, names.elements = .ok shown ∧ name ∈ shown ∧
      nodeOf name e = .ok n := by
  intro n hn
  unfold nodesOf at h
  split at h
  · cases h
    cases hn
  · split at h
    · cases h
    · cases h
    · obtain ⟨shown, hshown, hrest⟩ := (bind_eq_ok_iff _ _ _).mp h
      obtain ⟨groups, hgroups, hflatten⟩ := (bind_eq_ok_iff _ _ _).mp hrest
      cases hflatten
      obtain ⟨group, hgroup, hn⟩ := List.mem_flatten.mp hn
      obtain ⟨name, hname, hnamed⟩ := exists_of_mem_mapM hgroups hgroup
      obtain ⟨e, -, he⟩ := exists_of_mem_mapM hnamed hn
      exact ⟨shown, name, e, hshown, hname, he⟩

/-- The nodes of a body are flat. -/
theorem flat_of_nodesOf {markup : String} {nodes : List Node}
    (h : nodesOf markup (.list (Builtin.contentTags.map .str)) = .ok nodes) :
    ∀ n ∈ nodes, Flat n := by
  intro n hn
  obtain ⟨shown, v, e, hshown, hv, he⟩ := exists_element h n hn
  have hnames : Builtin.contentTags.map .str = shown := Except.ok.inj hshown
  rw [← hnames] at hv
  obtain ⟨name, hname, rfl⟩ := List.mem_map.mp hv
  exact flat_of_nodeOf hname he

end PageTree.Markup
