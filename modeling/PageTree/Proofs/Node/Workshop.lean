import Mathlib.Data.List.Nodup
import Mathlib.Tactic.Lemma
import PageTree.Node.Builder

/-!
# Builders that are changed in place

A `Builder` is a value, and a step gives another one.  A process has builders that are changed in
place: the configuration of a builder is a mapping that is written to, its children are a list that
grows, and both are known to the builder by their numbers only.  A node that was built has a mapping
too.  `Workshop` is this second picture, with any number of builders and nodes, in which it can be
said whether two of them share a mapping; `Bench` is the first one.

No two share anything (`Workshop.Apart`), since whoever is started or built gets copies.  So a step
on one builder shows in this builder and nowhere else (`Workshop.writes_write`), and a workshop
always holds what a bench holds (`Workshop.Apart.run`), where nodes stay as they were built
(`Bench.nodes_prefix_foldl`).
-/

namespace PageTree

/-- What is done with builders and nodes, which are known by their numbers. -/
inductive Builder.Act where
  | start (type config : Value)
  /-- Takes in a node that was made in another way. -/
  | place (n : Node)
  /-- Starts a builder with the parts of a node. -/
  | resume (node : Nat)
  | step (builder : Nat) (s : Step)
  | build (builder : Nat)

/-- Builders and the nodes that are there, in the order in which they were made. -/
structure Bench where
  builders : List Builder
  nodes : List Node

/-- Does one act.  One that fails leaves everything but the builder of a step as it was. -/
def Bench.act (b : Bench) : Builder.Act → Bench
  | .start type config =>
    match Builder.start type config with
    | .error _ => b
    | .ok builder => { b with builders := b.builders ++ [builder] }
  | .place n => { b with nodes := b.nodes ++ [n] }
  | .resume k =>
    match b.nodes[k]? with
    | none => b
    | some n => { b with builders := b.builders ++ [Builder.ofNode n] }
  | .step i s =>
    match b.builders[i]? with
    | none => b
    | some builder => { b with builders := b.builders.set i (builder.step s).1 }
  | .build i =>
    match b.builders[i]? with
    | none => b
    | some builder =>
      match builder.build with
      | .error _ => b
      | .ok n => { b with nodes := b.nodes ++ [n] }

/-- A builder that is changed in place: its type, and the numbers of its configuration and of its
list of children. -/
structure Desk where
  type : Value
  config : Nat
  children : Nat

/-- A node in a workshop: its type, the number of its configuration, and its children. -/
structure Piece where
  type : String
  config : Nat
  children : List Child

/-- The mappings and lists that were made one after the other, and the builders and nodes that know
them by their numbers. -/
structure Workshop where
  configs : List Entries
  lists : List (List Value)
  builders : List Desk
  nodes : List Piece

namespace Workshop

/-- A workshop in which nothing was made. -/
def empty : Workshop where
  configs := []
  lists := []
  builders := []
  nodes := []

/-- What the mapping with a number holds. -/
def config (w : Workshop) (i : Nat) : Entries :=
  (w.configs[i]?).getD []

/-- What the list with a number holds. -/
def list (w : Workshop) (i : Nat) : List Value :=
  (w.lists[i]?).getD []

/-- What a builder holds. -/
def builder (w : Workshop) (d : Desk) : Builder where
  type := d.type
  config := w.config d.config
  children := w.list d.children

/-- What a node holds. -/
def node (w : Workshop) (p : Piece) : Node :=
  .mk p.type (w.config p.config) p.children

/-- All that builders and nodes hold. -/
def contents (w : Workshop) : Bench where
  builders := w.builders.map w.builder
  nodes := w.nodes.map w.node

/-- Makes a builder, with a mapping and a list of its own. -/
def addBuilder (w : Workshop) (b : Builder) : Workshop where
  configs := w.configs ++ [b.config]
  lists := w.lists ++ [b.children]
  builders := w.builders ++ [⟨b.type, w.configs.length, w.lists.length⟩]
  nodes := w.nodes

/-- Makes a node, with a mapping of its own. -/
def addNode (w : Workshop) (n : Node) : Workshop :=
  { w with
    configs := w.configs ++ [n.config]
    nodes := w.nodes ++ [⟨n.type, w.configs.length, n.children⟩] }

/-- Takes a step on the builder with number `i`, in its mapping and its list.  Only new children
come in a list of their own. -/
def write (w : Workshop) (i : Nat) (d : Desk) : Builder.Step → Workshop
  | .setType type => { w with builders := w.builders.set i { d with type } }
  | .setConfig key value =>
    match key.toKey with
    | .error _ => w
    | .ok k => { w with configs := w.configs.modify d.config (Entries.set · k value) }
  | .mergeConfig values =>
    let entries := (Builder.givenEntries values).1
    { w with configs := w.configs.modify d.config (Entries.merge · entries) }
  | .addChild child => { w with lists := w.lists.modify d.children (· ++ [child]) }
  | .setChildren children =>
    match children.elements with
    | .error _ => w
    | .ok vs =>
      { w with
        lists := w.lists ++ [vs]
        builders := w.builders.set i { d with children := w.lists.length } }

/-- Does one act. -/
def act (w : Workshop) : Builder.Act → Workshop
  | .start type config =>
    match Builder.start type config with
    | .error _ => w
    | .ok b => w.addBuilder b
  | .place n => w.addNode n
  | .resume k =>
    match w.nodes[k]? with
    | none => w
    | some p => w.addBuilder (Builder.ofNode (w.node p))
  | .step i s =>
    match w.builders[i]? with
    | none => w
    | some d => w.write i d s
  | .build i =>
    match w.builders[i]? with
    | none => w
    | some d =>
      match (w.builder d).build with
      | .error _ => w
      | .ok n => w.addNode n

/-- Does acts one after the other. -/
def run (acts : List Builder.Act) (w : Workshop) : Workshop :=
  acts.foldl act w

/-- The numbers of the mappings that nodes and builders know. -/
def configNumbers (w : Workshop) : List Nat :=
  w.nodes.map Piece.config ++ w.builders.map Desk.config

/-- The numbers of the lists that builders know. -/
def listNumbers (w : Workshop) : List Nat :=
  w.builders.map Desk.children

end Workshop

/-- Numbers that were given out one after the other up to `n`, and that nothing shares. -/
structure Owned (cs : List Nat) (n : Nat) : Prop where
  nodup : cs.Nodup
  lt : ∀ c ∈ cs, c < n

namespace Owned

variable {cs ds : List Nat} {n : Nat}

/-- The next number is not given out. -/
lemma not_mem (h : Owned cs n) : n ∉ cs :=
  fun hn => Nat.lt_irrefl n (h.lt n hn)

/-- The next number can be given out. -/
lemma insert (h : Owned (cs ++ ds) n) : Owned (cs ++ n :: ds) (n + 1) where
  nodup := List.nodup_middle.mpr (List.nodup_cons.mpr ⟨h.not_mem, h.nodup⟩)
  lt c hc := by
    have hcases : c = n ∨ c ∈ cs ++ ds := by simpa [or_left_comm] using hc
    rcases hcases with rfl | hmem
    · exact Nat.lt_succ_self c
    · exact Nat.lt_succ_of_lt (h.lt c hmem)

/-- The next number can take the place of another one. -/
lemma set (h : Owned cs n) (i : Nat) : Owned (cs.set i n) (n + 1) where
  nodup := h.nodup.set h.not_mem
  lt c hc := by
    rcases List.mem_or_eq_of_mem_set hc with hmem | rfl
    · exact Nat.lt_succ_of_lt (h.lt c hmem)
    · exact Nat.lt_succ_self c

/-- What stands in two places is not the same. -/
lemma ne {i j a b : Nat} (h : Owned cs n) (ha : cs[i]? = some a) (hb : cs[j]? = some b)
    (hij : i ≠ j) : a ≠ b := by
  rintro rfl
  have hlt : i < cs.length := (List.getElem?_eq_some_iff.mp ha).1
  exact hij ((List.getElem?_inj hlt h.nodup).mp (ha.trans hb.symm))

end Owned

namespace Workshop

/-- Builders and nodes share no mapping and no list. -/
structure Apart (w : Workshop) : Prop where
  configs : Owned w.configNumbers w.configs.length
  lists : Owned w.listNumbers w.lists.length

variable {w w' : Workshop} {i j : Nat} {d e : Desk}

namespace Apart

/-- The mapping and the list of a builder were made. -/
lemma builder_lt (h : Apart w) (hd : d ∈ w.builders) :
    d.config < w.configs.length ∧ d.children < w.lists.length := by
  have hconfig : d.config ∈ w.configNumbers := List.mem_append_right _ (List.mem_map_of_mem hd)
  exact ⟨h.configs.lt _ hconfig, h.lists.lt _ (List.mem_map_of_mem hd)⟩

/-- The mapping of a node was made. -/
lemma node_lt (h : Apart w) {p : Piece} (hp : p ∈ w.nodes) : p.config < w.configs.length :=
  h.configs.lt _ (List.mem_append_left _ (List.mem_map_of_mem hp))

/-- A node and a builder have mappings of their own. -/
lemma node_ne (h : Apart w) {p : Piece} (hp : p ∈ w.nodes) (hd : d ∈ w.builders) :
    p.config ≠ d.config := by
  have hdisjoint := (List.nodup_append.mp h.configs.nodup).2.2
  exact hdisjoint _ (List.mem_map_of_mem hp) _ (List.mem_map_of_mem hd)

/-- Two builders have mappings and lists of their own. -/
lemma builder_ne (h : Apart w) (hd : w.builders[i]? = some d) (he : w.builders[j]? = some e)
    (hij : i ≠ j) : d.config ≠ e.config ∧ d.children ≠ e.children := by
  have hbuilders : Owned (w.builders.map Desk.config) w.configs.length :=
    ⟨(List.nodup_append.mp h.configs.nodup).2.1,
      fun c hc => h.configs.lt c (List.mem_append_right _ hc)⟩
  have hat : ∀ (f : Desk → Nat) (k : Nat) (a : Desk), w.builders[k]? = some a →
      (w.builders.map f)[k]? = some (f a) := by
    intro f k a ha
    rw [List.getElem?_map, ha]
    rfl
  exact ⟨hbuilders.ne (hat _ _ _ hd) (hat _ _ _ he) hij,
    h.lists.ne (hat _ _ _ hd) (hat _ _ _ he) hij⟩

end Apart

/-- Nothing is shared where nothing was made. -/
lemma apart_empty : Apart empty :=
  ⟨⟨List.nodup_nil, nofun⟩, ⟨List.nodup_nil, nofun⟩⟩

/-! ## What is made -/

/-- What builders and nodes hold is the same when more is made. -/
lemma Apart.kept (h : Apart w) (w' : Workshop) (hconfigs : w.configs <+: w'.configs)
    (hlists : w.lists <+: w'.lists) :
    (∀ d ∈ w.builders, w'.builder d = w.builder d) ∧ ∀ p ∈ w.nodes, w'.node p = w.node p := by
  have hconfig : ∀ c < w.configs.length, w'.config c = w.config c := by
    intro c hc
    obtain ⟨more, hmore⟩ := hconfigs
    rw [config, ← hmore, List.getElem?_append_left hc, config]
  have hlist : ∀ c < w.lists.length, w'.list c = w.list c := by
    intro c hc
    obtain ⟨more, hmore⟩ := hlists
    rw [list, ← hmore, List.getElem?_append_left hc, list]
  constructor
  · intro d hd
    obtain ⟨hc, hl⟩ := h.builder_lt hd
    rw [builder, hconfig _ hc, hlist _ hl, builder]
  · intro p hp
    rw [node, hconfig _ (h.node_lt hp), node]

/-- A builder that is made shares nothing. -/
lemma Apart.addBuilder (h : Apart w) (b : Builder) : Apart (w.addBuilder b) where
  configs := by
    have hnext : Owned (w.configNumbers ++ [w.configs.length]) (w.configs.length + 1) :=
      Owned.insert (by rw [List.append_nil]; exact h.configs)
    simpa [configNumbers, Workshop.addBuilder] using hnext
  lists := by
    have hnext : Owned (w.listNumbers ++ [w.lists.length]) (w.lists.length + 1) :=
      Owned.insert (by rw [List.append_nil]; exact h.lists)
    simpa [listNumbers, Workshop.addBuilder] using hnext

/-- A builder that is made comes behind the others, and all the others hold what they held. -/
lemma contents_addBuilder (h : Apart w) (b : Builder) :
    (w.addBuilder b).contents = { w.contents with builders := w.contents.builders ++ [b] } := by
  obtain ⟨hbuilders, hnodes⟩ :=
    h.kept (w.addBuilder b) (List.prefix_append _ _) (List.prefix_append _ _)
  have hnew : (w.addBuilder b).builder ⟨b.type, w.configs.length, w.lists.length⟩ = b := by
    simp [builder, config, list, Workshop.addBuilder]
  have hall : (w.addBuilder b).contents.builders = w.contents.builders ++ [b] := by
    rw [contents, Workshop.addBuilder, List.map_append, List.map_singleton]
    exact congrArg₂ _ (List.map_congr_left hbuilders) (congrArg (fun b => [b]) hnew)
  rw [← hall]
  exact congrArg (Bench.mk _) (List.map_congr_left hnodes)

/-- A node that is made shares nothing. -/
lemma Apart.addNode (h : Apart w) (n : Node) : Apart (w.addNode n) where
  configs := by
    have hnext := Owned.insert h.configs
    simpa [configNumbers, Workshop.addNode] using hnext
  lists := h.lists

/-- A node that is made comes behind the others, and all the others hold what they held. -/
lemma contents_addNode (h : Apart w) (n : Node) :
    (w.addNode n).contents = { w.contents with nodes := w.contents.nodes ++ [n] } := by
  obtain ⟨hbuilders, hnodes⟩ :=
    h.kept (w.addNode n) (List.prefix_append _ _) (List.prefix_refl _)
  have hnew : (w.addNode n).node ⟨n.type, w.configs.length, n.children⟩ = n := by
    cases n
    simp [node, config, Workshop.addNode]
  have hall : (w.addNode n).contents.nodes = w.contents.nodes ++ [n] := by
    rw [contents, Workshop.addNode, List.map_append, List.map_singleton]
    exact congrArg₂ _ (List.map_congr_left hnodes) (congrArg (fun n => [n]) hnew)
  rw [← hall]
  exact congrArg (Bench.mk · _) (List.map_congr_left hbuilders)

/-! ## What is changed -/

/-- From `w` to `w'` the builder with number `i` was changed so that it holds `b`, and nothing else
was. -/
structure Writes (w w' : Workshop) (i : Nat) (b : Builder) : Prop where
  length : w'.builders.length = w.builders.length
  written : (w'.builders[i]?).map w'.builder = some b
  others : ∀ j, j ≠ i → (w'.builders[j]?).map w'.builder = (w.builders[j]?).map w.builder
  nodes : w'.nodes.map w'.node = w.nodes.map w.node

/-- Where one builder was changed, all the others and the nodes hold what they held. -/
lemma Writes.contents_eq {b : Builder} (h : Writes w w' i b) :
    w'.contents = { w.contents with builders := w.contents.builders.set i b } := by
  have hbuilders : w'.contents.builders = w.contents.builders.set i b := by
    refine List.ext_getElem? fun j => ?_
    have hread : ∀ v : Workshop, v.contents.builders[j]? = (v.builders[j]?).map v.builder :=
      fun v => List.getElem?_map
    rw [hread, List.getElem?_set]
    split
    · rename_i hij
      subst hij
      have hlt : i < w.contents.builders.length := by
        have hsome : i < w'.builders.length := by
          by_contra hge
          have hwritten := h.written
          rw [List.getElem?_eq_none (Nat.le_of_not_lt hge)] at hwritten
          cases hwritten
        rw [contents, List.length_map, ← h.length]
        exact hsome
      rw [if_pos hlt, h.written]
    · rename_i hij
      rw [hread, h.others j (Ne.symm hij)]
  rw [← hbuilders]
  exact congrArg (Bench.mk _) h.nodes

/-- A mapping that is written to is that of its builder only. -/
lemma writes_config (h : Apart w) (hd : w.builders[i]? = some d) (f : Entries → Entries) :
    Writes w { w with configs := w.configs.modify d.config f } i
      { w.builder d with config := f (w.config d.config) } := by
  have hmem := List.mem_of_getElem? hd
  set w' : Workshop := { w with configs := w.configs.modify d.config f } with hw'
  have hsame : w'.config d.config = f (w.config d.config) := by
    have hlt := (h.builder_lt hmem).1
    simp [config, hw', List.getElem?_eq_getElem hlt]
  have hother : ∀ c, d.config ≠ c → w'.config c = w.config c := by
    intro c hc
    rw [config, hw', List.getElem?_modify_ne _ _ hc, config]
  exact {
    length := rfl
    written := by
      rw [hw', hd, Option.map_some, builder, hsame]
      rfl
    others := by
      intro j hj
      change (w.builders[j]?).map w'.builder = _
      cases he : w.builders[j]? with
      | none => rfl
      | some e =>
        have hne := (h.builder_ne hd he hj.symm).1
        rw [Option.map_some, builder, hother _ hne]
        rfl
    nodes := by
      refine List.map_congr_left fun p hp => ?_
      rw [node, hother _ (h.node_ne hp hmem).symm]
      rfl }

/-- A list that is written to is that of its builder only. -/
lemma writes_list (h : Apart w) (hd : w.builders[i]? = some d) (f : List Value → List Value) :
    Writes w { w with lists := w.lists.modify d.children f } i
      { w.builder d with children := f (w.list d.children) } := by
  have hmem := List.mem_of_getElem? hd
  set w' : Workshop := { w with lists := w.lists.modify d.children f } with hw'
  have hsame : w'.list d.children = f (w.list d.children) := by
    have hlt := (h.builder_lt hmem).2
    simp [list, hw', List.getElem?_eq_getElem hlt]
  have hother : ∀ c, d.children ≠ c → w'.list c = w.list c := by
    intro c hc
    rw [list, hw', List.getElem?_modify_ne _ _ hc, list]
  exact {
    length := rfl
    written := by
      rw [hw', hd, Option.map_some, builder, hsame]
      rfl
    others := by
      intro j hj
      change (w.builders[j]?).map w'.builder = _
      cases he : w.builders[j]? with
      | none => rfl
      | some e =>
        have hne := (h.builder_ne hd he hj.symm).2
        rw [Option.map_some, builder, hother _ hne]
        rfl
    nodes := rfl }

/-- A builder that is given another type, or a list that is made for it, shows this itself only. -/
lemma writes_set (h : Apart w) (hd : w.builders[i]? = some d) (e : Desk)
    (more : List (List Value)) :
    Writes w { w with lists := w.lists ++ more, builders := w.builders.set i e } i
      (builder { w with lists := w.lists ++ more } e) := by
  have hlt : i < w.builders.length := (List.getElem?_eq_some_iff.mp hd).1
  obtain ⟨hbuilders, hnodes⟩ := h.kept
    { w with lists := w.lists ++ more, builders := w.builders.set i e }
    (List.prefix_refl _) (List.prefix_append _ _)
  exact {
    length := List.length_set
    written := by
      rw [List.getElem?_set_self hlt]
      rfl
    others := by
      intro j hj
      rw [List.getElem?_set_ne hj.symm]
      cases he : w.builders[j]? with
      | none => rfl
      | some e => exact congrArg some (hbuilders e (List.mem_of_getElem? he))
    nodes := List.map_congr_left hnodes }

/-- A builder on which nothing is changed holds what it held. -/
lemma writes_self (hd : w.builders[i]? = some d) : Writes w w i (w.builder d) where
  length := rfl
  written := by rw [hd, Option.map_some]
  others _ _ := rfl
  nodes := rfl

/-- A step in place shows in its builder, which holds what the step makes of it, and nowhere
else. -/
theorem writes_write (h : Apart w) (hd : w.builders[i]? = some d) (s : Builder.Step) :
    Writes w (w.write i d s) i ((w.builder d).step s).1 := by
  cases s with
  | setType type =>
    have hset := writes_set h hd { d with type } []
    rw [List.append_nil] at hset
    exact hset
  | setConfig key value =>
    rw [write, Builder.step]
    cases key.toKey with
    | error e => exact writes_self hd
    | ok k => exact writes_config h hd _
  | mergeConfig values => exact writes_config h hd _
  | addChild child => exact writes_list h hd _
  | setChildren children =>
    rw [write, Builder.step]
    cases children.elements with
    | error e => exact writes_self hd
    | ok vs =>
      have hset := writes_set h hd { d with children := w.lists.length } [vs]
      have hnew : builder { w with lists := w.lists ++ [vs] }
          { d with children := w.lists.length } = (w.builder d).setChildren vs := by
        simp [builder, list, config, Builder.setChildren]
      rw [hnew] at hset
      exact hset

/-- Nothing is shared where the same numbers are known and as much was made. -/
lemma Apart.congr (h : Apart w) (hconfigs : w'.configNumbers = w.configNumbers)
    (hlists : w'.listNumbers = w.listNumbers) (hmappings : w'.configs.length = w.configs.length)
    (hrows : w'.lists.length = w.lists.length) : Apart w' := by
  refine ⟨?_, ?_⟩
  · rw [hconfigs, hmappings]
    exact h.configs
  · rw [hlists, hrows]
    exact h.lists

/-- After a step in place, nothing is shared either. -/
lemma Apart.write (h : Apart w) (hd : w.builders[i]? = some d) (s : Builder.Step) :
    Apart (w.write i d s) := by
  -- a builder that is replaced by one with the same mapping or list knows the same numbers
  have hsame : ∀ (f : Desk → Nat) (e : Desk), f e = f d →
      (w.builders.set i e).map f = w.builders.map f := by
    intro f e he
    have hget : (w.builders.map f)[i]? = some (f d) := by
      rw [List.getElem?_map, hd]
      rfl
    obtain ⟨hlt, hvalue⟩ := List.getElem?_eq_some_iff.mp hget
    rw [List.map_set, he, ← hvalue, List.set_getElem_self]
  cases s with
  | setType type =>
    have hconfigs := hsame Desk.config { d with type } rfl
    have hlists := hsame Desk.children { d with type } rfl
    exact h.congr (congrArg (w.nodes.map Piece.config ++ ·) hconfigs) hlists rfl rfl
  | setConfig key value =>
    rw [Workshop.write]
    cases key.toKey with
    | error e => exact h
    | ok k => exact h.congr rfl rfl (List.length_modify _ _ _) rfl
  | mergeConfig values => exact h.congr rfl rfl (List.length_modify _ _ _) rfl
  | addChild child => exact h.congr rfl rfl rfl (List.length_modify _ _ _)
  | setChildren children =>
    rw [Workshop.write]
    cases children.elements with
    | error e => exact h
    | ok vs =>
      have hconfigs := hsame Desk.config { d with children := w.lists.length } rfl
      refine ⟨?_, ?_⟩
      · dsimp only [configNumbers]
        rw [hconfigs]
        exact h.configs
      · have hnext := h.lists.set i
        simpa [listNumbers, List.map_set] using hnext

/-! ## What acts do -/

/-- One act keeps builders and nodes apart, and does to what they hold what it does on a bench. -/
theorem Apart.act (h : Apart w) (a : Builder.Act) :
    Apart (w.act a) ∧ (w.act a).contents = w.contents.act a := by
  have hbuilder : ∀ i, w.contents.builders[i]? = (w.builders[i]?).map w.builder :=
    fun i => List.getElem?_map
  cases a with
  | start type config =>
    rw [Workshop.act, Bench.act]
    cases Builder.start type config with
    | error e => exact ⟨h, rfl⟩
    | ok b => exact ⟨h.addBuilder b, contents_addBuilder h b⟩
  | place n => exact ⟨h.addNode n, contents_addNode h n⟩
  | resume k =>
    have hnode : w.contents.nodes[k]? = (w.nodes[k]?).map w.node := List.getElem?_map
    rw [Workshop.act, Bench.act, hnode]
    cases w.nodes[k]? with
    | none => exact ⟨h, rfl⟩
    | some p => exact ⟨h.addBuilder _, contents_addBuilder h _⟩
  | step i s =>
    rw [Workshop.act, Bench.act, hbuilder]
    cases hd : w.builders[i]? with
    | none => exact ⟨h, rfl⟩
    | some d => exact ⟨h.write hd s, (writes_write h hd s).contents_eq⟩
  | build i =>
    rw [Workshop.act, Bench.act, hbuilder]
    cases w.builders[i]? with
    | none => exact ⟨h, rfl⟩
    | some d =>
      dsimp only [Option.map_some]
      cases (w.builder d).build with
      | error e => exact ⟨h, rfl⟩
      | ok n => exact ⟨h.addNode n, contents_addNode h n⟩

/-- Acts keep builders and nodes apart, and do to what they hold what they do on a bench. -/
theorem Apart.run (h : Apart w) (acts : List Builder.Act) :
    Apart (w.run acts) ∧ (w.run acts).contents = acts.foldl Bench.act w.contents := by
  induction acts generalizing w with
  | nil => exact ⟨h, rfl⟩
  | cons a acts ih =>
    obtain ⟨hact, hcontents⟩ := h.act a
    obtain ⟨hrun, hall⟩ := ih hact
    refine ⟨hrun, ?_⟩
    rw [List.foldl_cons, ← hcontents]
    exact hall

end Workshop

namespace Bench

/-- An act leaves the nodes that are there as they are. -/
lemma nodes_prefix_act (b : Bench) (a : Builder.Act) : b.nodes <+: (b.act a).nodes := by
  cases a with
  | place n => exact List.prefix_append _ _
  | start | resume | step =>
    rw [act]
    split <;> exact List.prefix_refl _
  | build i =>
    rw [act]
    split
    · exact List.prefix_refl _
    · split
      · exact List.prefix_refl _
      · exact List.prefix_append _ _

/-- Acts leave the nodes that are there as they are. -/
lemma nodes_prefix_foldl (b : Bench) (acts : List Builder.Act) :
    b.nodes <+: (acts.foldl act b).nodes := by
  induction acts generalizing b with
  | nil => exact List.prefix_refl _
  | cons a acts ih => exact (nodes_prefix_act b a).trans (ih (b.act a))

end Bench

end PageTree
