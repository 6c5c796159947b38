import PageTree.Proofs.Node.Storage

/-!
# Nodes that can be had

A node comes about in one of the ways that `Making` lists: it is constructed from data, read from
its storage shape, made of another node by a change of one part, or built step by step.  The data
for this may hold nodes again, which have come about before.  `Obtained` says of a node that it can
be had so, in any number of turns.

The data decide whether the new node is full: it is if all nodes in the data are (`Making.full`).
So each node that can be had is full, at every depth (`Obtained.full`), and with this the storage
shape keeps everything: `storage_round_trip` says that such a node is read back as it was written,
which data are read, and that what is written of a node that was read is a normal form.
-/

namespace PageTree

/-! ## Nodes in data -/

mutual

/-- The nodes in a value, wherever they stand in its sequences and mappings.  What is inside a node
belongs to it. -/
def Value.nodes : Value → List Node
  | .list vs => Value.nodesAmong vs
  | .tuple vs => Value.nodesAmong vs
  | .map es => Value.nodesUnder es
  | .node n => [n]
  | _ => []

/-- The nodes in the elements of a sequence. -/
def Value.nodesAmong : List Value → List Node
  | [] => []
  | v :: vs => v.nodes ++ Value.nodesAmong vs

/-- The nodes in the values of entries. -/
def Value.nodesUnder : List (Key × Value) → List Node
  | [] => []
  | (_, v) :: es => v.nodes ++ Value.nodesUnder es

end

mutual

/-- A value is full if all nodes in it are. -/
lemma Value.full_of_nodes : (v : Value) → (∀ n ∈ v.nodes, n.Full) → v.Full
  | .list vs, h | .tuple vs, h => Value.itemsFull_of_nodes vs h
  | .map es, h => Value.entriesFull_of_nodes es h
  | .node n, h => h n List.mem_cons_self
  | .null, _ | .bool _, _ | .int _, _ | .float _, _ | .str _, _ | .bytes _, _ | .moment _, _
  | .query _, _ | .callable _, _ => trivial

/-- Elements of a sequence are full if all nodes in them are. -/
lemma Value.itemsFull_of_nodes : (vs : List Value) → (∀ n ∈ Value.nodesAmong vs, n.Full) →
    Value.ItemsFull vs
  | [], _ => trivial
  | v :: vs, h => by
    have hboth := List.forall_mem_append.mp h
    exact ⟨Value.full_of_nodes v hboth.1, Value.itemsFull_of_nodes vs hboth.2⟩

/-- Entries are full if all nodes in their values are. -/
lemma Value.entriesFull_of_nodes : (es : List (Key × Value)) →
    (∀ n ∈ Value.nodesUnder es, n.Full) → Value.EntriesFull es
  | [], _ => trivial
  | (k, v) :: es, h => by
    have hboth := List.forall_mem_append.mp h
    exact ⟨Value.full_of_nodes v hboth.1, Value.entriesFull_of_nodes es hboth.2⟩

end

namespace Value

/-- Elements of a sequence are full exactly if each of them is. -/
lemma itemsFull_iff (vs : List Value) : ItemsFull vs ↔ ∀ v ∈ vs, v.Full := by
  induction vs with
  | nil => exact iff_of_true trivial nofun
  | cons v vs ih => rw [ItemsFull, ih, List.forall_mem_cons]

/-- Sequences one after the other are full if each of them is. -/
lemma ItemsFull.append {vs ws : List Value} (hvs : ItemsFull vs) (hws : ItemsFull ws) :
    ItemsFull (vs ++ ws) := by
  rw [itemsFull_iff] at hvs hws ⊢
  exact List.forall_mem_append.mpr ⟨hvs, hws⟩

mutual

/-- There are no nodes in a key. -/
lemma full_toValue : (k : Key) → k.toValue.Full
  | .tuple ks => itemsFull_toValues ks
  | .null | .bool _ | .int _ | .float _ | .str _ | .bytes _ | .moment _ | .callable _ => trivial

/-- There are no nodes in the components of a key. -/
lemma itemsFull_toValues : (ks : List Key) → ItemsFull (Key.toValue.toValues ks)
  | [] => trivial
  | k :: ks => ⟨full_toValue k, itemsFull_toValues ks⟩

end

/-- The elements of a full value are full. -/
lemma itemsFull_of_elements {v : Value} {vs : List Value} (hv : v.Full) (h : v.elements = .ok vs) :
    ItemsFull vs := by
  cases v with
  | list ws =>
    cases h
    exact hv
  | tuple ws =>
    cases h
    exact hv
  | map es =>
    cases h
    rw [itemsFull_iff, List.forall_mem_map]
    intro k _
    exact full_toValue k
  | str s =>
    cases h
    rw [itemsFull_iff, List.forall_mem_map]
    intro c _
    trivial
  | bytes bs =>
    cases h
    rw [itemsFull_iff, List.forall_mem_map]
    intro b _
    trivial
  | _ => cases h

end Value

/-- Children that are full are full values. -/
lemma Child.AllFull.itemsFull {cs : List Child} (h : AllFull cs) :
    Value.ItemsFull (cs.map Child.toValue) := by
  rw [Value.itemsFull_iff, List.forall_mem_map]
  intro c hc
  have hfull := (Child.allFull_iff cs).mp h c hc
  cases c with
  | text s => trivial
  | node n => exact (Child.allFull_node n).mp hfull

/-! ## Making nodes -/

/-- The data of a step on a builder. -/
def Builder.Step.data : Builder.Step → List Value
  | .setType type => [type]
  | .setConfig key value => [key, value]
  | .mergeConfig values => [values]
  | .addChild child => [child]
  | .setChildren children => [children]

/-- The builder after some steps.  A step that fails counts as far as it gets. -/
def Builder.after (b : Builder) (steps : List Builder.Step) : Builder :=
  steps.foldl (fun b s => (b.step s).1) b

/-- A change of a node, as the step on a builder that it corresponds to: another child is added by
giving the node its old children and the new one. -/
def Node.step (n : Node) : Builder.Step → Except Fault Node
  | .setType type => n.withTypeOf type
  | .setConfig key value => do
    let k ← key.toKey
    return n.setConfig k value
  | .mergeConfig values => n.withConfigOf values
  | .addChild child => n.withChildrenOf (.tuple (n.children.map Child.toValue ++ [child]))
  | .setChildren children => n.withChildrenOf children

/-- What a builder starts from: a type and a configuration, or a node. -/
inductive Origin where
  | fresh (type config : Value)
  | of (n : Node)

namespace Origin

/-- The data that a builder starts from. -/
def data : Origin → List Value
  | fresh type config => [type, config]
  | of n => [.node n]

/-- The builder at the start. -/
def builder : Origin → Except Fault Builder
  | fresh type config => Builder.start type config
  | of n => .ok (Builder.ofNode n)

end Origin

/-- A way to make a node. -/
inductive Making where
  | construct (type config children : Value)
  | shorthand (type config children : Value)
  | read (data : Value)
  | change (n : Node) (s : Builder.Step)
  | withDefaults (n : Node) (defaults : Value)
  | build (o : Origin) (steps : List Builder.Step)

namespace Making

/-- The data that a node is made of. -/
def data : Making → List Value
  | construct type config children => [type, config, children]
  | shorthand type config children => [type, config, children]
  | read data => [data]
  | change n s => .node n :: s.data
  | withDefaults n defaults => [.node n, defaults]
  | build o steps => o.data ++ steps.flatMap Builder.Step.data

/-- The nodes in the data that a node is made of. -/
def nodes (m : Making) : List Node :=
  Value.nodesAmong m.data

/-- The node that is made. -/
def run : Making → Except Fault Node
  | construct type config children => Node.build type config children
  | shorthand type config children => Node.make type config children
  | read data => Node.ofValue data
  | change n s => n.step s
  | withDefaults n defaults => n.withDefaultsOf defaults
  | build o steps => do
    let b ← o.builder
    (b.after steps).build

end Making

/-- A node that can be had: it is made of data in which all nodes can be had. -/
inductive Obtained : Node → Prop where
  | made (m : Making) (n : Node) (hnodes : ∀ k ∈ m.nodes, Obtained k) (h : m.run = .ok n) :
      Obtained n

/-! ## All of them are full -/

namespace Node

open Child

/-- A node that is constructed of full children is full. -/
lemma full_of_build {type config children : Value} {n : Node} (hchildren : children.Full)
    (h : build type config children = .ok n) : n.Full := by
  obtain ⟨name, -, h⟩ := (bind_eq_ok_iff _ _ _).mp h
  obtain ⟨entries, -, h⟩ := (bind_eq_ok_iff _ _ _).mp h
  obtain ⟨cs, hcs, h⟩ := (bind_eq_ok_iff _ _ _).mp h
  cases h
  exact (full_iff _).mpr (allFull_childrenOf children cs hchildren hcs)

/-- A node that is made of full children is full. -/
lemma full_of_make {type config children : Value} {n : Node} (hchildren : children.Full)
    (h : make type config children = .ok n) : n.Full := by
  obtain ⟨entries, -, h⟩ := (bind_eq_ok_iff _ _ _).mp h
  obtain ⟨items, hitems, h⟩ := (bind_eq_ok_iff _ _ _).mp h
  have hgiven : (children.orElse (.tuple [])).Full := by
    rw [Value.orElse]
    split
    · exact hchildren
    · trivial
  have hfull : (Value.tuple items).Full := Value.itemsFull_of_elements hgiven hitems
  exact full_of_build hfull h

/-- A node with full children in the place of its own is full. -/
lemma full_of_withChildrenOf {n m : Node} {children : Value} (hchildren : children.Full)
    (h : n.withChildrenOf children = .ok m) : m.Full := by
  obtain ⟨vs, hvs, h⟩ := (bind_eq_ok_iff _ _ _).mp h
  obtain ⟨cs, hcs, h⟩ := (bind_eq_ok_iff _ _ _).mp h
  cases h
  have hfull := Value.itemsFull_of_elements hchildren hvs
  exact (full_iff _).mpr (allFull_childrenOfList vs cs hfull hcs)

/-- A change of a full node by full data leaves it full. -/
lemma full_of_step {n m : Node} {s : Builder.Step} (hn : n.Full) (hs : Value.ItemsFull s.data)
    (h : n.step s = .ok m) : m.Full := by
  have hcs := (full_iff n).mp hn
  cases s with
  | setType type =>
    obtain ⟨name, -, h⟩ := (bind_eq_ok_iff _ _ _).mp h
    cases h
    exact (full_iff _).mpr hcs
  | setConfig key value =>
    obtain ⟨k, -, h⟩ := (bind_eq_ok_iff _ _ _).mp h
    cases h
    exact (full_iff _).mpr hcs
  | mergeConfig values =>
    obtain ⟨entries, -, h⟩ := (bind_eq_ok_iff _ _ _).mp h
    cases h
    exact (full_iff _).mpr hcs
  | addChild child =>
    have hall : (Value.tuple (n.children.map Child.toValue ++ [child])).Full :=
      Value.ItemsFull.append hcs.itemsFull hs
    exact full_of_withChildrenOf hall h
  | setChildren children => exact full_of_withChildrenOf hs.1 h

end Node

namespace Builder

/-- A step with full data leaves the children of a builder full. -/
lemma itemsFull_step {b : Builder} {s : Step} (hb : Value.ItemsFull b.children)
    (hs : Value.ItemsFull s.data) : Value.ItemsFull (b.step s).1.children := by
  cases s with
  | setType type => exact hb
  | setConfig key value =>
    rw [step]
    split
    · exact hb
    · exact hb
  | mergeConfig values => exact hb
  | addChild child => exact Value.ItemsFull.append hb hs
  | setChildren children =>
    rw [step]
    split
    · exact hb
    · rename_i vs hvs
      exact Value.itemsFull_of_elements hs.1 hvs

/-- Steps with full data leave the children of a builder full. -/
lemma itemsFull_after {b : Builder} {steps : List Step} (hb : Value.ItemsFull b.children)
    (hsteps : ∀ s ∈ steps, Value.ItemsFull s.data) :
    Value.ItemsFull (b.after steps).children := by
  induction steps generalizing b with
  | nil => exact hb
  | cons s steps ih =>
    rw [List.forall_mem_cons] at hsteps
    exact ih (itemsFull_step hb hsteps.1) hsteps.2

end Builder

/-- A builder that starts from full data has full children. -/
lemma Origin.itemsFull_builder {o : Origin} {b : Builder} (ho : Value.ItemsFull o.data)
    (h : o.builder = .ok b) : Value.ItemsFull b.children := by
  cases o with
  | fresh type config =>
    obtain ⟨entries, -, h⟩ := (bind_eq_ok_iff _ _ _).mp h
    cases h
    trivial
  | of n =>
    cases h
    exact ((Node.full_iff n).mp ho.1).itemsFull

/-- A node that is made of full data is full. -/
lemma Making.full {m : Making} {n : Node} (hdata : Value.ItemsFull m.data) (h : m.run = .ok n) :
    n.Full := by
  cases m with
  | construct type config children => exact Node.full_of_build hdata.2.2.1 h
  | shorthand type config children => exact Node.full_of_make hdata.2.2.1 h
  | read data => exact Node.full_of_ofValue data n hdata.1 h
  | change k s => exact Node.full_of_step hdata.1 hdata.2 h
  | withDefaults k defaults =>
    obtain ⟨entries, -, h⟩ := (bind_eq_ok_iff _ _ _).mp h
    cases h
    exact (Node.full_iff _).mpr ((Node.full_iff k).mp hdata.1)
  | build o steps =>
    obtain ⟨b, hb, h⟩ := (bind_eq_ok_iff _ _ _).mp h
    rw [Value.itemsFull_iff] at hdata
    obtain ⟨horigin, hsteps⟩ := List.forall_mem_append.mp hdata
    have hstart := Origin.itemsFull_builder ((Value.itemsFull_iff _).mpr horigin) hb
    have hafter : (Value.tuple (b.after steps).children).Full := by
      refine Builder.itemsFull_after hstart ?_
      intro s hs
      rw [Value.itemsFull_iff]
      intro v hv
      exact hsteps v (List.mem_flatMap.mpr ⟨s, hs, hv⟩)
    exact Node.full_of_build hafter h

/-- A node that can be had is full. -/
theorem Obtained.full {n : Node} (h : Obtained n) : n.Full := by
  induction h with
  | made m n _ h ih => exact Making.full (Value.itemsFull_of_nodes m.data ih) h

/-- A node that is read from data can be had if all nodes in the data can. -/
lemma Obtained.read {d : Value} {n : Node} (hnodes : ∀ k ∈ d.nodes, Obtained k)
    (h : Node.ofValue d = .ok n) : Obtained n := by
  refine .made (.read d) n ?_ h
  intro k hk
  rw [Making.nodes, Making.data, Value.nodesAmong, Value.nodesAmong, List.append_nil] at hk
  exact hnodes k hk

/-! ## The round trip -/

/-- A node that can be had has no empty text at any depth, and it is read back from its storage
shape as it is, with its configuration in order.  The data that are read are those of the grammar,
and what is written of a node that is read from data is written again when it is read. -/
theorem storage_round_trip :
    (∀ n, Obtained n → n.Full ∧ Node.ofValue n.toValue = .ok n) ∧
      (∀ d, (∃ n, Node.ofValue d = .ok n) ↔ Node.Storable d) ∧
      ∀ d n, (∀ k ∈ d.nodes, Obtained k) → Node.ofValue d = .ok n →
        ∃ m, Node.ofValue n.toValue = .ok m ∧ m.toValue = n.toValue := by
  have hread : ∀ n, Obtained n → n.Full ∧ Node.ofValue n.toValue = .ok n := by
    intro n hn
    exact ⟨hn.full, Node.ofValue_toValue n hn.full⟩
  refine ⟨hread, Node.exists_ofValue_iff, ?_⟩
  intro d n hnodes h
  exact ⟨n, (hread n (.read hnodes h)).2, rfl⟩

/-- A list with an empty child, one that is missing and one in its storage shape, whose type is
given as a name: it is read without the first two, and it is written and read back as it is. -/
theorem storage_round_trip_list :
    ∃ n, Node.ofValue (.map [(.str "name", .str "list"), (.str "children", .list [.str "", .null,
        .map [(.str "type", .str "item"), (.str "config", .map [(.str "n", .int 1)])]])]) = .ok n ∧
      n.children.length = 1 ∧ n.Full ∧ Node.ofValue n.toValue = .ok n := by
  have hread : Node.ofValue (.map [(.str "name", .str "list"), (.str "children", .list [.str "",
      .null, .map [(.str "type", .str "item"), (.str "config", .map [(.str "n", .int 1)])]])]) =
      .ok (.mk "list" [] [.node (.mk "item" [(.str "n", .int 1)] [])]) := rfl
  have hobtained := Obtained.read (fun _ hk => absurd hk List.not_mem_nil) hread
  exact ⟨_, hread, rfl, storage_round_trip.1 _ hobtained⟩

end PageTree
