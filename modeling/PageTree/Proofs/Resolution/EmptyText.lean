import PageTree.Proofs.Builtin.Full
import PageTree.Proofs.Resolution.Fragment
import PageTree.Proofs.Resolution.Siblings

/-!
# Empty texts

A node keeps no empty text among its children, and so no list of children below a tree that was
resolved has one, before and after it is rendered.  A sequence of trees is no list of children: what
a tree became stands in it also if it is an empty text (`empty_texts_stand_at_top`).

Hence a sequence of trees and a fragment around them do not give the same list.  The fragment has
the children that the sequence has without its empty texts, as long as it gets a unit of depth more
for the level that it adds (`visitAt_around`).
-/

namespace PageTree

open Resolver

namespace Wire

/-! ## Rendering keeps texts -/

mutual

/-- Rendering keeps the texts of a node. -/
theorem texts_formNode : (n : Node) → (formNode n).texts = n.texts
  | .mk type config cs => by
    rw [formNode, Node.texts_eq, Node.children, texts_formChildren cs, Node.texts_eq, Node.children]

/-- Rendering keeps the texts of siblings. -/
theorem texts_formChildren : (cs : List Child) → Child.texts (formChildren cs) = Child.texts cs
  | [] => rfl
  | .text s :: rest => by
    rw [formChildren, Child.texts_cons, texts_formChildren rest, Child.texts_cons (.text s) rest]
  | .node (.mk type config cs) :: rest => by
    have hnode := texts_formNode (.mk type config cs)
    have hrest := texts_formChildren rest
    rw [Child.texts_cons _ rest, Child.texts_node, ← hnode, ← hrest, formChildren, formNode,
      Node.texts_eq, Node.children]
    split
    · rw [Child.texts_append]
    · rw [Child.texts_cons, Child.texts_node, Node.texts_eq, Node.children]

end

/-- Siblings without empty texts among or below them are rendered to such siblings. -/
lemma allFull_formChildren {cs : List Child} (h : Child.AllFull cs) :
    Child.AllFull (formChildren cs) := by
  rw [Child.AllFull, texts_formChildren]
  exact h

end Wire

namespace Child.NodesFull

variable {cs : List Child}

/-- Rendering passes to the kept siblings, and it neither makes an empty text nor takes one away. -/
lemma form_kept : {cs : List Child} → NodesFull cs →
    Wire.formChildren (kept cs) = kept (Wire.formChildren cs) ∧
      (.text "" ∈ Wire.formChildren cs ↔ .text "" ∈ cs)
  | [], _ => ⟨rfl, .rfl⟩
  | .text s :: rest, h => by
    obtain ⟨hkept, hmem⟩ := form_kept h.of_cons
    rw [Wire.formChildren, List.mem_cons, List.mem_cons, hmem]
    refine ⟨?_, .rfl⟩
    rw [kept_cons, kept_cons]
    split
    · exact hkept
    · rw [Wire.formChildren, hkept]
  | .node (.mk type config ks) :: rest, h => by
    obtain ⟨hkept, hmem⟩ := form_kept h.of_cons
    have hks : AllFull (Wire.formChildren ks) :=
      Wire.allFull_formChildren ((Node.full_iff _).mp (h _ List.mem_cons_self))
    have hnode : kept (.node (.mk type config ks) :: rest) =
        .node (.mk type config ks) :: kept rest := rfl
    rw [hnode, Wire.formChildren, Wire.formChildren]
    split
    · -- the children of a fragment have no empty texts among them
      have hfree := hks.isEmpty_eq_false
      constructor
      · rw [kept_append, kept_of_full hfree, hkept]
      · have hempty : Child.text "" ∉ Wire.formChildren ks := fun hc =>
          absurd (hfree _ hc) (by decide)
        rw [List.mem_append, hmem, List.mem_cons, or_iff_right hempty, or_iff_right (by nofun)]
    · constructor
      · rw [hkept]
        rfl
      · rw [List.mem_cons, List.mem_cons, hmem, or_iff_right (by nofun), or_iff_right (by nofun)]

/-- Siblings with full nodes are rendered to such siblings. -/
lemma formChildren (h : NodesFull cs) : NodesFull (Wire.formChildren cs) := by
  intro n hn
  have hfull := Wire.allFull_formChildren h.allFull_kept
  rw [h.form_kept.1, allFull_iff] at hfull
  exact (allFull_node n).mp (hfull (.node n) (List.mem_filter.mpr ⟨hn, rfl⟩))

end Child.NodesFull

namespace Resolver

variable {context : Context} {r : Resolver}

/-! ## Sequences of trees -/

/-- Data are read as the roots of trees, one by one. -/
def Roots (roots : List Value) (ds : List Child) : Prop :=
  List.Forall₂ (fun v c => rootOf v = .ok c) roots ds

/-- A tree is resolved like a child that is reached at depth 0. -/
lemma resolveTree_of_rootOf {root : Value} {c : Child} (h : rootOf root = .ok c) :
    r.resolveTree context root = resolveChild (visitAt context r 0) c := by
  rw [resolveTree_eq, h]
  cases c <;> rfl

/-- Trees are resolved like children that are reached at depth 0. -/
lemma resolveTrees_of_roots {roots : List Value} {ds : List Child} (h : Roots roots ds) :
    r.resolveTrees context roots = resolveList (visitAt context r 0) ds := by
  induction h with
  | nil => rfl
  | cons hroot _ ih => rw [resolveTrees_cons, resolveList_cons, resolveTree_of_rootOf hroot, ih]

/-- Trees that have a resolution are read. -/
lemma exists_roots {roots : List Value} {cs : List Child}
    (h : (r.resolveTrees context roots).result = .ok cs) : ∃ ds, Roots roots ds := by
  induction roots generalizing cs with
  | nil => exact ⟨[], .nil⟩
  | cons root roots ih =>
    rw [resolveTrees_cons] at h
    obtain ⟨o, ho, h⟩ := (Run.bind_result_eq_ok_iff _ _ _).mp h
    obtain ⟨rest, hrest, -⟩ := (Run.bind_result_eq_ok_iff _ _ _).mp h
    obtain ⟨ds, hds⟩ := ih hrest
    rw [resolveTree_eq] at ho
    cases hroot : rootOf root with
    | error e =>
      rw [hroot] at ho
      cases ho
    | ok c => exact ⟨c :: ds, .cons hroot hds⟩

/-- What stands in the result is what one of the trees became. -/
lemma mem_resolveTrees_iff {roots : List Value} {cs : List Child}
    (h : (r.resolveTrees context roots).result = .ok cs) (c : Child) :
    c ∈ cs ↔ ∃ v ∈ roots, (r.resolveTree context v).result = .ok (some c) := by
  induction roots generalizing cs with
  | nil =>
    cases h
    simp
  | cons root roots ih =>
    rw [resolveTrees_cons] at h
    obtain ⟨o, ho, h⟩ := (Run.bind_result_eq_ok_iff _ _ _).mp h
    obtain ⟨rest, hrest, h⟩ := (Run.bind_result_eq_ok_iff _ _ _).mp h
    cases h
    simp only [List.mem_append, Option.mem_toList, ih hrest, List.mem_cons, or_and_right, exists_or,
      exists_eq_left, ho, Except.ok.injEq]

/-- The children of a fragment around trees are their roots without the empty texts. -/
lemma childrenOfList_roots {roots : List Value} {ds : List Child} (h : Roots roots ds) :
    Node.childrenOfList roots = .ok (kept ds) := by
  induction h with
  | nil => rfl
  | @cons v c vs cs hroot _ ih =>
    rw [kept_cons]
    cases v with
    | str s =>
      cases hroot
      rw [Node.childrenOfList, ih, Child.isEmpty]
      simp only [beq_iff_eq]
    | node n =>
      cases hroot
      rw [Node.childrenOfList, ih]
      rfl
    | map es =>
      obtain ⟨n, hn, heq⟩ := (map_eq_ok_iff _ _ _).mp hroot
      cases heq
      rw [Node.childrenOfList, hn, ih]
      rfl
    | _ => cases hroot

/-! ## Fragments around trees -/

/-- Children are resolved to the same ones, but for empty texts, if they have no empty texts to
begin with. -/
lemma resolveList_kept {visit : Node → Run (Option Child)} {ds cs : List Child}
    (h : (resolveList visit ds).result = .ok cs) :
    ∃ cs', (resolveList visit (kept ds)).result = .ok cs' ∧ kept cs' = kept cs := by
  induction ds generalizing cs with
  | nil => exact ⟨cs, h, rfl⟩
  | cons d ds ih =>
    rw [resolveList_cons] at h
    obtain ⟨o, ho, h⟩ := (Run.bind_result_eq_ok_iff _ _ _).mp h
    obtain ⟨rest, hrest, h⟩ := (Run.bind_result_eq_ok_iff _ _ _).mp h
    cases h
    obtain ⟨rest', hrest', hkept⟩ := ih hrest
    cases hd : d.isEmpty with
    | true =>
      -- an empty text is resolved to itself
      obtain rfl : d = .text "" := by
        cases d with
        | text s => rw [eq_of_beq hd]
        | node n => cases hd
      cases ho
      exact ⟨rest', hrest', hkept⟩
    | false =>
      refine ⟨o.toList ++ rest', ?_, ?_⟩
      · rw [kept_cons, hd, if_neg Bool.false_ne_true, resolveList_cons, Run.bind_of_ok ho,
          Run.bind_of_ok hrest']
        rfl
      · rw [kept_append, kept_append, hkept]

/-- With a unit of depth more, a fragment keeps its configuration and gets, up to sameness, what its
children become at depth 0, without empty texts. -/
lemma visitAt_around (hfree : r.registry.get? "" = none) (fragment : Entries) {ds cs : List Child}
    (h : (resolveList (visitAt context r 0) ds).result = .ok cs) :
    ∃ ks, (visitAt context (r.withBound (r.maxDepth + 1)) 0 (.mk "" fragment (kept ds))).result =
        .ok (some (.node (.mk "" fragment ks))) ∧
      Child.sameAll ks (kept cs) = true := by
  obtain ⟨cs', hcs', hkept⟩ := resolveList_kept h
  -- the room that is left below the fragment is that of the sequence
  have hdeeper :=
    resolveList_echoes (visit_echoes context r (r.maxDepth + 1) r.maxDepth).1 (kept ds)
  have hresult : (resolveList (visitAt context (r.withBound (r.maxDepth + 1)) 1) (kept ds)).result =
      .ok cs' := hdeeper.result.eq.symm.trans hcs'
  obtain ⟨os, hos, rfl⟩ := results_of_resolveList _ hresult
  have hvisit := visitAt_undefined context (r.withBound (r.maxDepth + 1)) (Nat.succ_pos _)
    (n := .mk "" fragment (kept ds)) hfree hos
  rw [rebuild_eq_mk] at hvisit
  refine ⟨_, hvisit, ?_⟩
  rw [← hkept]
  exact sameAll_rebuild (n := .mk "" fragment (kept ds)) (kept_kept ds) _

end Resolver

namespace Wire

/-! ## Fragments around siblings -/

/-- Siblings are rendered exactly if the keys of each mapping that is reached become different
names. -/
lemma siblings_eq_ok_iff (cs ws : List Child) :
    siblings cs = .ok ws ↔ Every Apart (childMappings cs) ∧ ws = formChildren cs := by
  rw [siblings, children_eq_ok_iff]
  simp only [Every, apart_iff]

/-- Empty texts have no mappings. -/
lemma childMappings_kept (cs : List Child) : childMappings (kept cs) = childMappings cs := by
  induction cs with
  | nil => rfl
  | cons c cs ih =>
    rw [kept_cons]
    cases c with
    | text s => split <;> simp only [childMappings, ih]
    | node n =>
      obtain ⟨type, config, ks⟩ := n
      rw [Child.isEmpty, if_neg Bool.false_ne_true, childMappings, childMappings, ih]

/-- Where siblings are rendered, so is a fragment whose children are the same but for empty texts,
and with children that are the same but for empty texts. -/
lemma exists_node_around {ks cs ws : List Child} (hcs : Child.NodesFull cs)
    (hws : siblings cs = .ok ws) (hks : Child.sameAll ks (kept cs) = true) :
    ∃ w, node rootPath (.mk "" [] ks) = .ok w ∧ Child.sameAll w.children (kept ws) = true := by
  obtain ⟨happart, rfl⟩ := (siblings_eq_ok_iff cs ws).mp hws
  have hcanonical := (Child.agreeAll_iff _ _).mp hks
  rw [← childMappings_kept] at happart
  obtain ⟨hks', hforms⟩ := children_same _ _ hcanonical.symm happart
  refine ⟨_, (node_eq_ok_iff _ _ _).mpr ⟨?_, rfl⟩, ?_⟩
  · rw [nodeMappings, every_cons]
    exact ⟨List.nodup_nil, hks'⟩
  · rw [← hcs.form_kept.1]
    exact (Child.agreeAll_iff _ _).mpr hforms.symm

end Wire

/-- Children that are the same as full ones are full. -/
lemma Child.AllFull.of_sameAll {cs ds : List Child} (h : AllFull ds)
    (hsame : sameAll cs ds = true) : AllFull cs := by
  rw [AllFull, texts, foldAll_eq_of_same _ _ _ _ _ _ hsame]
  exact h

namespace Resolver

variable (context : Context) (r : Resolver)

/-- In the wire form of a sequence of trees that was resolved, no node has an empty text below it.
An empty text stands at the top exactly if one of the trees was resolved to it.  A fragment around
the trees, resolved with a unit of depth more, gets the children that stand in the sequence, without
the empty texts, and so the two lists are the same exactly if there is no empty text at the top. -/
theorem empty_texts_stand_at_top [YamlLibrary] (lib : Library)
    (hreachable : r.registry.Reachable lib)
    (hmakes : MakesFull context r) (roots : List Value) (hroots : ∀ v ∈ roots, v.Full)
    (cs ws : List Child) (hcs : (r.resolveTrees context roots).result = .ok cs)
    (hws : Wire.siblings cs = .ok ws) :
    (∀ n, .node n ∈ ws → n.Full) ∧
    (.text "" ∈ ws ↔ ∃ v ∈ roots, (r.resolveTree context v).result = .ok (some (.text ""))) ∧
    ∃ fragment m w, Node.build (.str "") (.map []) (.list roots) = .ok fragment ∧
      ((r.withBound (r.maxDepth + 1)).resolveTree context (.node fragment)).result =
        .ok (some (.node m)) ∧
      Wire.node Wire.rootPath m = .ok w ∧
      Child.sameAll w.children (kept ws) = true ∧
      (Child.sameAll w.children ws = true ↔ .text "" ∉ ws) := by
  have hnodes : Child.NodesFull cs := by
    intro n hn
    obtain ⟨v, hv, hresult⟩ := (mem_resolveTrees_iff hcs _).mp hn
    exact hmakes.resolveTree (hroots v hv) hresult
  have hform : ws = Wire.formChildren cs := ((Wire.siblings_eq_ok_iff cs ws).mp hws).2
  have hwire : Child.NodesFull ws := hform ▸ hnodes.formChildren
  have htop : .text "" ∈ ws ↔ .text "" ∈ cs := hform ▸ hnodes.form_kept.2
  refine ⟨hwire, htop.trans (mem_resolveTrees_iff hcs _), ?_⟩
  obtain ⟨ds, hds⟩ := exists_roots hcs
  rw [resolveTrees_of_roots hds] at hcs
  obtain ⟨ks, hvisit, hks⟩ := visitAt_around hreachable.get?_empty [] hcs
  obtain ⟨w, hw, hsame⟩ := Wire.exists_node_around hnodes hws hks
  refine ⟨.mk "" [] (kept ds), .mk "" [] ks, w, ?_, ?_, hw, hsame, ?_⟩
  · rw [Node.build, Node.childrenOf, childrenOfList_roots hds]
    rfl
  · rw [resolveTree_eq]
    exact hvisit
  · have hfull : Child.AllFull w.children := hwire.allFull_kept.of_sameAll hsame
    constructor
    · intro h hempty
      have hws := hfull.of_sameAll (Child.sameAll_symm h)
      exact absurd (hws.isEmpty_eq_false _ hempty) (by decide)
    · intro hempty
      rwa [kept_of_full (fun c hc => ?_)] at hsame
      cases c with
      | text s => exact beq_eq_false_iff_ne.mpr fun hs => hempty (hs ▸ hc)
      | node n => rfl

open scoped Standard

/-- A resolver with the built-in definitions. -/
def shipped : Resolver :=
  Builtin.resolver .empty defaultDepth .errors false

/-- A place for the excerpt of the current document. -/
def excerpt : Node :=
  .mk "post/excerpt" [] []

/-- Without a current document, an excerpt at the top is an empty text, and an excerpt in a node is
left out. -/
theorem empty_texts_stand_at_top_excerpt :
    shipped.registry.Reachable .shipped ∧ MakesFull Context.empty shipped ∧
    ∃ ws fragment m w,
      Wire.siblings [.text "x", .text "", .node (.mk "box" [] [.text "y"])] = .ok ws ∧
      .text "" ∈ ws ∧
      Node.build (.str "") (.map [])
        (.list [.str "x", .node excerpt, .node (.mk "box" [] [.node excerpt, .text "y"])]) =
          .ok fragment ∧
      ((shipped.withBound (shipped.maxDepth + 1)).resolveTree Context.empty
        (.node fragment)).result = .ok (some (.node m)) ∧
      Wire.node Wire.rootPath m = .ok w ∧
      Child.sameAll w.children (kept ws) = true ∧ Child.sameAll w.children ws = false := by
  have hreachable : shipped.registry.Reachable .shipped := Registry.reachable_storeAll _ _
  have hmakes : MakesFull Context.empty shipped := Builtin.makesFull _ _ _ _ _
  have hexcerpt : excerpt.Full := by decide
  have hbox : (Node.mk "box" [] [.node excerpt, .text "y"]).Full := by decide
  have hroots : ∀ v ∈ [.str "x", .node excerpt, .node (.mk "box" [] [.node excerpt, .text "y"])],
      Value.Full v := by
    simp only [List.forall_mem_cons, List.not_mem_nil, false_implies, implies_true, and_true]
    exact ⟨trivial, hexcerpt, hbox⟩
  obtain ⟨-, hempty, fragment, m, w, hfragment, hm, hw, hsame, hiff⟩ :=
    empty_texts_stand_at_top Context.empty shipped .shipped hreachable hmakes
      [.str "x", .node excerpt, .node (.mk "box" [] [.node excerpt, .text "y"])] hroots
      [.text "x", .text "", .node (.mk "box" [] [.text "y"])]
      [.text "x", .text "", .node (.mk "box" [] [.text "y"])] rfl rfl
  have hmem := hempty.mpr ⟨.node excerpt, by simp, rfl⟩
  refine ⟨hreachable, hmakes, _, fragment, m, w, rfl, hmem, hfragment, hm, hw, hsame, ?_⟩
  exact Bool.eq_false_iff.mpr fun h => hiff.mp h hmem

/-- No empty text stands among trees that were resolved and rendered. -/
def SendsNoEmptyText : Prop :=
  ∀ roots cs ws, (∀ v ∈ roots, Value.Full v) → (r.resolveTrees context roots).result = .ok cs →
    Wire.siblings cs = .ok ws → .text "" ∉ ws

/-- Without a current document, an excerpt among trees is sent as an empty text; in a fragment
around the trees it is not sent. -/
theorem excerpt_is_sent_empty :
    (shipped.resolveTrees Context.empty [.node excerpt, .str "x"]).result =
      .ok [.text "", .text "x"] ∧
    Wire.siblings [.text "", .text "x"] = .ok [.text "", .text "x"] ∧
    (shipped.resolveTree Context.empty
      (.node (.mk "" [] [.node excerpt, .text "x"]))).result =
        .ok (some (.node (.mk "" [] [.text "x"]))) ∧
    ¬ SendsNoEmptyText Context.empty shipped := by
  refine ⟨rfl, rfl, rfl, fun h => ?_⟩
  have hexcerpt : excerpt.Full := by decide
  have hroots : ∀ v ∈ [Value.node excerpt, .str "x"], v.Full := by
    simp only [List.forall_mem_cons, List.not_mem_nil, false_implies, implies_true, and_true]
    exact ⟨hexcerpt, trivial⟩
  exact h _ _ _ hroots rfl rfl List.mem_cons_self

end Resolver

end PageTree
