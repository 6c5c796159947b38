import PageTree.Proofs.Node.Obtained
import PageTree.Proofs.Node.Workshop

/-!
# Builders and changes of nodes

A builder checks nothing before the node is built, while a node that is changed is checked at every
change, and its children are read and rid of empty texts each time.  As long as the changes succeed
this makes no difference: the builder holds what is read as the parts of the node
(`Builder.Holds`), and a step on the builder keeps up with a change of the node
(`Builder.Holds.step`).

`builder_follows_changes` says this of any number of steps, from any start, and that nodes that are
built on the way stay as they are whatever is done with the builders afterwards.
-/

namespace PageTree

namespace Origin

/-- The node to start from. -/
def node : Origin → Except Fault Node
  | fresh type config => Node.make type config .null
  | of n => .ok n

end Origin

/-- Takes a step on a builder, unless it fails. -/
def Builder.tryStep (b : Builder) (s : Step) : Except Fault Builder :=
  match b.step s with
  | (b, none) => .ok b
  | (_, some e) => .error e

/-- The parts that a builder has are read as those of a node. -/
structure Builder.Holds (b : Builder) (n : Node) : Prop where
  type : b.type = .str n.type
  config : b.config = n.config
  children : Node.childrenOfList b.children = .ok n.children

/-- Children that are read are no empty texts. -/
lemma Node.isEmpty_eq_false_of_childrenOfList {vs : List Value} {cs : List Child}
    (h : childrenOfList vs = .ok cs) : ∀ c ∈ cs, c.isEmpty = false := by
  induction vs generalizing cs with
  | nil =>
    cases h
    nofun
  | cons v vs ih =>
    obtain ⟨as, bs, has, hbs, rfl⟩ := (childrenOfList_cons_eq_ok_iff v vs cs).mp h
    refine List.forall_mem_append.mpr ⟨?_, ih hbs⟩
    cases v with
    | null =>
      cases has
      nofun
    | str s =>
      by_cases hs : s = ""
      · have hnone : as = [] := by simpa [childrenOfList, hs] using has.symm
        rw [hnone]
        nofun
      · have hone : as = [.text s] := by simpa [childrenOfList, hs] using has.symm
        rw [hone, List.forall_mem_singleton]
        exact beq_eq_false_iff_ne.mpr hs
    | node n =>
      cases has
      exact List.forall_mem_singleton.mpr rfl
    | map es =>
      rw [childrenOfList] at has
      cases hn : ofValue (.map es) with
      | error e =>
        rw [hn] at has
        cases has
      | ok n =>
        rw [hn] at has
        cases has
        exact List.forall_mem_singleton.mpr rfl
    | _ => cases has

/-- A node is read back from the children that it has and further ones if these are read. -/
lemma Node.childrenOfList_old_append {vs ws : List Value} {cs ds : List Child}
    (hcs : childrenOfList vs = .ok cs) (h : childrenOfList (cs.map Child.toValue ++ ws) = .ok ds) :
    childrenOfList (vs ++ ws) = .ok ds := by
  obtain ⟨as, bs, has, hbs, rfl⟩ := (childrenOfList_append_eq_ok_iff _ _ _).mp h
  have hread := childrenOfList_map_toValue (isEmpty_eq_false_of_childrenOfList hcs)
  have hsame : cs = as := Except.ok.inj (hread.symm.trans has)
  exact (childrenOfList_append_eq_ok_iff _ _ _).mpr ⟨cs, bs, hcs, hbs, hsame ▸ rfl⟩

namespace Builder

variable {b : Builder} {n m : Node}

/-- A builder builds the node whose parts it has. -/
lemma Holds.build_eq (h : Holds b n) : b.build = .ok n := by
  have hnode : Node.mk n.type n.config n.children = n := by
    cases n
    rfl
  have hread : Node.childrenOf (.tuple b.children) = .ok n.children := h.children
  rw [build, h.type, h.config]
  -- a text and a mapping are checked at once
  exact (bind_eq_ok_iff _ _ _).mpr ⟨n.children, hread, congrArg _ hnode⟩

/-- A builder that starts where a full node does has its parts. -/
lemma exists_holds {o : Origin} (h : o.node = .ok n) (hn : n.Full) :
    ∃ b, o.builder = .ok b ∧ Holds b n := by
  cases o with
  | fresh type config =>
    obtain ⟨entries, hentries, h⟩ := (bind_eq_ok_iff _ _ _).mp h
    obtain ⟨items, hitems, h⟩ := (bind_eq_ok_iff _ _ _).mp h
    obtain ⟨name, hname, h⟩ := (bind_eq_ok_iff _ _ _).mp h
    cases hitems
    cases h
    have htype : type = .str name := by
      cases type <;> cases hname
      rfl
    refine ⟨⟨type, entries, []⟩, ?_, ⟨htype, rfl, rfl⟩⟩
    exact (bind_eq_ok_iff _ _ _).mpr ⟨entries, hentries, rfl⟩
  | of k =>
    cases h
    have hfull := (Node.full_iff n).mp hn
    exact ⟨_, rfl, rfl, rfl, Node.childrenOfList_map_toValue hfull.isEmpty_eq_false⟩

/-- A step on a builder that has the parts of a node keeps up with the change of the node. -/
theorem Holds.step (h : Holds b n) {s : Step} (hs : n.step s = .ok m) :
    ∃ b', b.tryStep s = .ok b' ∧ Holds b' m := by
  cases s with
  | setType type =>
    obtain ⟨name, hname, hs⟩ := (bind_eq_ok_iff _ _ _).mp hs
    cases hs
    have htype : type = .str name := by
      cases type <;> cases hname
      rfl
    exact ⟨b.setType type, rfl, htype, h.config, h.children⟩
  | setConfig key value =>
    obtain ⟨k, hk, hs⟩ := (bind_eq_ok_iff _ _ _).mp hs
    cases hs
    refine ⟨b.setConfig k value, ?_, h.type, ?_, h.children⟩
    · rw [tryStep, Builder.step, hk]
    · exact congrArg (Entries.set · k value) h.config
  | mergeConfig values =>
    obtain ⟨entries, hentries, hs⟩ := (bind_eq_ok_iff _ _ _).mp hs
    cases hs
    have hvalues : values = .map entries := by
      cases values <;> cases hentries
      rfl
    subst hvalues
    exact ⟨b.mergeConfig entries, rfl, h.type, congrArg (Entries.merge · entries) h.config,
      h.children⟩
  | addChild child =>
    obtain ⟨cs, hcs, hs⟩ := (bind_eq_ok_iff _ _ _).mp hs
    cases hs
    exact ⟨b.addChild child, rfl, h.type, h.config, Node.childrenOfList_old_append h.children hcs⟩
  | setChildren children =>
    obtain ⟨vs, hvs, hs⟩ := (bind_eq_ok_iff _ _ _).mp hs
    obtain ⟨cs, hcs, hs⟩ := (bind_eq_ok_iff _ _ _).mp hs
    cases hs
    refine ⟨b.setChildren vs, ?_, h.type, h.config, hcs⟩
    rw [tryStep, Builder.step, hvs]

/-- Steps on a builder that has the parts of a node keep up with the changes of the node. -/
theorem Holds.steps (h : Holds b n) {steps : List Step} (hs : steps.foldlM Node.step n = .ok m) :
    ∃ b', steps.foldlM tryStep b = .ok b' ∧ Holds b' m := by
  induction steps generalizing b n with
  | nil =>
    cases hs
    exact ⟨b, rfl, h⟩
  | cons s steps ih =>
    rw [List.foldlM_cons] at hs
    obtain ⟨k, hk, hs⟩ := (bind_eq_ok_iff _ _ _).mp hs
    obtain ⟨a, ha, hheld⟩ := h.step hk
    obtain ⟨b', hb', hlast⟩ := ih hheld hs
    refine ⟨b', ?_, hlast⟩
    rw [List.foldlM_cons]
    exact (bind_eq_ok_iff _ _ _).mpr ⟨a, ha, hb'⟩

end Builder

/-- Wherever a node can be changed step by step, a builder with the same start takes the same steps
and builds the same node.  Builders that are changed in place do what builders do that are values,
and nodes that were built stay as they are, whatever is done with builders and nodes later. -/
theorem builder_follows_changes :
    (∀ (o : Origin) n₀, o.node = .ok n₀ → n₀.Full → ∃ b₀, o.builder = .ok b₀ ∧
        ∀ (steps : List Builder.Step) n, steps.foldlM Node.step n₀ = .ok n →
          ∃ b, steps.foldlM Builder.tryStep b₀ = .ok b ∧ b.build = .ok n) ∧
      (∀ acts, (Workshop.empty.run acts).contents = acts.foldl Bench.act ⟨[], []⟩) ∧
      ∀ acts later, (Workshop.empty.run acts).contents.nodes <+:
        (Workshop.empty.run (acts ++ later)).contents.nodes := by
  have hrun : ∀ acts, (Workshop.empty.run acts).contents = acts.foldl Bench.act ⟨[], []⟩ :=
    fun acts => (Workshop.apart_empty.run acts).2
  refine ⟨?_, hrun, ?_⟩
  · intro o n₀ h hfull
    obtain ⟨b₀, hb₀, hheld⟩ := Builder.exists_holds h hfull
    refine ⟨b₀, hb₀, ?_⟩
    intro steps n hn
    obtain ⟨b, hb, hlast⟩ := hheld.steps hn
    exact ⟨b, hb, hlast.build_eq⟩
  · intro acts later
    rw [hrun, hrun, List.foldl_append]
    exact Bench.nodes_prefix_foldl _ later

/-- An image that gets a text, a missing child, a line break in its storage shape and another type
at last. -/
theorem builder_follows_changes_figure :
    ∃ b₀, (Origin.fresh (.str "image") .null).builder = .ok b₀ ∧
      ∃ b, [.setConfig (.str "alt") (.str "A cat"), .addChild .null,
          .addChild (.map [(.str "name", .str "br")]), .setType (.str "figure")].foldlM
            Builder.tryStep b₀ = .ok b ∧
        b.build = .ok (.mk "figure" [(.str "alt", .str "A cat")] [.node (.mk "br" [] [])]) := by
  obtain ⟨b₀, hb₀, hsteps⟩ := builder_follows_changes.1 (.fresh (.str "image") .null)
    (.mk "image" [] []) rfl (by decide)
  exact ⟨b₀, hb₀, hsteps _ _ rfl⟩

end PageTree
