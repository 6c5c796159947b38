import PageTree.Proofs.Resolution.Rules
import PageTree.Proofs.Value.Mapping

/-!
# Resolving twice

A node is steady (`Steady`) if a round leaves it as it is, whatever children it has.  A place
settles at once (`SettlesAtOnce`) if its node comes to rest in a text or in a steady node, after one
change at most.  The first change at a place is free, so that the children of the steady node are
resolved one below the place, and they are again when the result is resolved once more: both runs
meet every node at the same depth.

If all places settle at once, then resolving the result of a resolution gives it back to the letter
(`resolveTree_again`), whatever the bound on the depth is.  The last section says which definitions
let their places settle at once.
-/

namespace PageTree

namespace Resolver

variable (context : Context) (r : Resolver)

/-- A round leaves a node as it is, whatever children the node is given. -/
def Steady (m : Node) : Prop :=
  ∀ cs, r.Round context (m.withChildren cs) (.ok (.settled (m.withChildren cs)))

/-- A round makes a text of a node, or a steady node. -/
inductive ComesToRest (n : Node) : Prop where
  | text (s : String) (h : r.Round context n (.ok (.ended (some (.text s)))))
  | node (m : Node) (h : r.Round context n (.ok (.settled m))) (hm : Steady context r m)

/-- A node comes to rest after one change at most. -/
inductive SettlesAtOnce (n : Node) : Prop where
  | rests (h : ComesToRest context r n)
  | changes (m : Node) (h : r.Round context n (.ok (.changed m))) (hm : ComesToRest context r m)

/-- Resolving a child at a depth gives it back. -/
def Again (depth : Nat) (c : Child) : Prop :=
  (resolveChild (visitAt context r depth) c).result = .ok (some c)

variable {context r}

/-- A place that settles at once ends with a text, or with a steady node at its own depth. -/
lemma place_of_settlesAtOnce {depth : Nat} {n : Node} (h : SettlesAtOnce context r n)
    (hlt : depth < r.maxDepth) :
    (∃ s, (place context r depth n).result = .ok (.ended (some (.text s)))) ∨
      ∃ m, Steady context r m ∧ (place context r depth n).result = .ok (.settled depth m) := by
  obtain ⟨k, p, hk, hp, hrest⟩ :
      ∃ k p, k ≤ 1 ∧ Changes context r k n p ∧ ComesToRest context r p := by
    cases h with
    | rests h => exact ⟨0, n, Nat.zero_le 1, .none n, h⟩
    | changes m h hm => exact ⟨1, m, Nat.le_refl 1, .more h (.none m), hm⟩
  have hdepth : depth + (k - 1) = depth := by omega
  have hroom : depth + (k - 1) < r.maxDepth := by omega
  cases hrest with
  | text s hround =>
    obtain ⟨earlier, deepest, -, -, hplace⟩ := place_of_closes context r hp (.ended hround) hroom
    exact Or.inl ⟨s, by rw [hplace]⟩
  | node m hround hm =>
    obtain ⟨earlier, deepest, -, -, hplace⟩ := place_of_closes context r hp (.settled hround) hroom
    rw [hdepth] at hplace
    exact Or.inr ⟨m, hm, by rw [hplace]⟩

/-- A round makes a steady node final as it is. -/
lemma Steady.round {m : Node} (h : Steady context r m) : r.Round context m (.ok (.settled m)) := by
  have hround := h m.children
  rwa [Node.withChildren_children] at hround

/-- A steady node is given back if all its children are. -/
lemma again_of_steady {depth : Nat} {m : Node} (hm : Steady context r m) (hlt : depth < r.maxDepth)
    (h : ∀ c ∈ m.children, Again context r (depth + 1) c) : Again context r depth (.node m) := by
  have hos : m.children.map (fun c => (resolveChild (visitAt context r (depth + 1)) c).result) =
      (m.children.map some).map Except.ok := by
    rw [List.map_map]
    exact List.map_congr_left h
  have hflat : (m.children.map some).flatMap Option.toList = m.children := by
    rw [List.flatMap_map]
    exact List.flatMap_singleton' _
  refine (visitAt_of_settled context r hlt hm.round hos).trans ?_
  rw [hflat, rebuild_eq, if_pos (Child.sameAll_refl _)]

/-- The node that a steady node becomes is given back if the results of its children are. -/
lemma rebuild_again {depth : Nat} {m : Node} {os : List (Option Child)}
    (hm : Steady context r m) (hlt : depth < r.maxDepth)
    (hos : m.children.map (fun c => (resolveChild (visitAt context r (depth + 1)) c).result) =
      os.map Except.ok)
    (hagain : ∀ c ∈ os.flatMap Option.toList, Again context r (depth + 1) c) :
    Again context r depth (.node (rebuild m (os.flatMap Option.toList))) := by
  rw [rebuild_eq]
  split
  · -- the node keeps its children, which have the same results as before
    rename_i hsame
    have hvisit := visitAt_of_settled context r hlt hm.round hos
    rw [rebuild_eq, if_pos hsame] at hvisit
    exact hvisit
  · have hsteady : Steady context r (m.withChildren (kept (os.flatMap Option.toList))) :=
      fun cs => hm cs
    exact again_of_steady hsteady hlt fun c hc => hagain c (List.mem_filter.mp hc).1

/-- If every child becomes something that is given back, then the results of some children are given
back. -/
lemma exists_results_again {depth : Nat}
    (h : ∀ c, ∃ d, (resolveChild (visitAt context r depth) c).result = .ok (some d) ∧
      Again context r depth d) (cs : List Child) :
    ∃ os : List (Option Child),
      cs.map (fun c => (resolveChild (visitAt context r depth) c).result) = os.map Except.ok ∧
        ∀ d ∈ os.flatMap Option.toList, Again context r depth d := by
  induction cs with
  | nil => exact ⟨[], rfl, fun d hd => nomatch hd⟩
  | cons c cs ih =>
    obtain ⟨d, hd, hagain⟩ := h c
    obtain ⟨os, hos, hrest⟩ := ih
    refine ⟨some d :: os, by rw [List.map_cons, List.map_cons, hd, hos], fun e he => ?_⟩
    rcases List.mem_cons.mp he with rfl | he
    · exact hagain
    · exact hrest e he

/-- If all places settle at once, then every node becomes something that is given back at the same
depth. -/
theorem visitAt_again (h : ∀ n, SettlesAtOnce context r n) {depth : Nat} (hle : depth ≤ r.maxDepth)
    (n : Node) :
    ∃ c, (visitAt context r depth n).result = .ok (some c) ∧ Again context r depth c := by
  -- the induction is on the room that is left: children are reached at greater depths
  induction hroom : r.maxDepth - depth using Nat.strongRecOn generalizing depth n with
  | _ room ih =>
    rcases Nat.lt_or_eq_of_le hle with hlt | rfl
    · rcases place_of_settlesAtOnce (h n) hlt with ⟨s, hs⟩ | ⟨m, hm, hsettled⟩
      · refine ⟨.text s, ?_, rfl⟩
        rw [visitAt_eq_place context r hle, Run.bind_of_ok hs]
        rfl
      · have hchild : ∀ c, ∃ d, (resolveChild (visitAt context r (depth + 1)) c).result =
            .ok (some d) ∧ Again context r (depth + 1) d := by
          intro c
          cases c with
          | text s => exact ⟨.text s, rfl, rfl⟩
          | node p => exact ih _ (by omega) hlt p rfl
        obtain ⟨os, hos, hagain⟩ := exists_results_again hchild m.children
        refine ⟨_, ?_, rebuild_again hm hlt hos hagain⟩
        rw [visitAt_eq_place context r hle, Run.bind_of_ok hsettled, finishPlace,
          descend_of_results _ hos]
        rfl
    · -- without room the node is given back as it stands, both times
      refine ⟨.node n, ?_, ?_⟩
      · rw [visitAt_eq_place context r hle, place_maxDepth]
        rfl
      · rw [Again, resolveChild, visitAt_eq_place context r hle, place_maxDepth]
        rfl

/-- If all places settle at once, then resolving the result of a resolution gives it back. -/
theorem resolveTree_again (h : ∀ n, SettlesAtOnce context r n) (t : Child) :
    ∃ u : Child, (r.resolveTree context t.toValue).result = .ok (some u) ∧
      (r.resolveTree context u.toValue).result = .ok (some u) := by
  have htree : ∀ c : Child, (r.resolveTree context c.toValue).result =
      (resolveChild (visitAt context r 0) c).result := by
    intro c
    rw [resolveTree_eq]
    cases c <;> rfl
  cases t with
  | text s => exact ⟨.text s, htree _, htree _⟩
  | node n =>
    obtain ⟨u, hu, hagain⟩ := visitAt_again h (Nat.zero_le _) n
    exact ⟨u, (htree _).trans hu, (htree u).trans hagain⟩

/-! ## Definitions whose places settle at once -/

/-- Filling in defaults twice is the same as filling them in once, whatever the children are. -/
lemma withDefaults_withChildren {defaults : Entries} (h : Entries.Distinct defaults) (n : Node)
    (cs : List Child) :
    ((n.withDefaults defaults).withChildren cs).withDefaults defaults =
      (n.withDefaults defaults).withChildren cs := by
  simp only [Node.withDefaults, Node.withChildren, Node.type_mk, Node.config_mk, Node.children_mk,
    Entries.merge_merge_self h]

/-- A node without a definition comes to rest. -/
lemma comesToRest_undefined {n : Node} (h : r.registry.get? n.type = none) :
    ComesToRest context r n :=
  .node n (.undefined h) fun _ => .undefined h

/-- A node whose definition has no transform comes to rest. -/
lemma comesToRest_inert {n : Node} {d : Definition} (h : r.registry.get? n.type = some d)
    (ha : d.action = none) (hdefaults : Entries.Distinct d.defaults) :
    ComesToRest context r n := by
  refine .node (n.withDefaults d.defaults) (.inert d h ha) fun cs => ?_
  have hround : r.Round context ((n.withDefaults d.defaults).withChildren cs) _ := .inert d h ha
  rwa [withDefaults_withChildren hdefaults] at hround

/-- A node whose transform fails, with any children, comes to rest. -/
lemma comesToRest_failed {n : Node} {d : Definition} {a : Action} {data : Entries} {e : Fault}
    (h : r.registry.get? n.type = some d) (ha : d.action = some a)
    (hdata : dataFor context d.requirements = .ok data) (hdefaults : Entries.Distinct d.defaults)
    (he : ∀ cs, act context a ((n.withDefaults d.defaults).withChildren cs) data = .error e) :
    ComesToRest context r n := by
  have hfails : act context a (n.withDefaults d.defaults) data = .error e := he n.children
  refine .node (n.withDefaults d.defaults)
    (.failed d _ ⟨h, a, data, ha, hdata, hfails⟩ (.raised e)) fun cs => ?_
  have hagain : act context a
      (((n.withDefaults d.defaults).withChildren cs).withDefaults d.defaults) data = .error e := by
    rw [withDefaults_withChildren hdefaults]
    exact he cs
  have hround : r.Round context ((n.withDefaults d.defaults).withChildren cs) _ :=
    .failed d _ ⟨h, a, data, ha, hdata, hagain⟩ (.raised e)
  rwa [withDefaults_withChildren hdefaults] at hround

/-- A transform that gives a node of another type changes the node. -/
lemma changed_of_type_ne {n m : Node} {d : Definition}
    (h : r.Transforms context n d (.ok (.node m))) (htype : m.type ≠ n.type) :
    r.Round context n (.ok (.changed m)) := by
  have hsame : m.same n = false := by
    refine Bool.eq_false_iff.mpr fun hs => htype ?_
    have hc := (Node.agree_iff m n).mp hs
    rw [Node.canonical_eq, Node.canonical_eq, Canonical.node.injEq] at hc
    exact hc.1
  exact .changed d _ m h (.node m) hsame

/-- A node that is given another type settles at once if it comes to rest with that type. -/
lemma settlesAtOnce_of_type_ne {n m : Node} {d : Definition}
    (h : r.Transforms context n d (.ok (.node m))) (htype : m.type ≠ n.type)
    (hm : ComesToRest context r m) : SettlesAtOnce context r n :=
  .changes m (changed_of_type_ne h htype) hm

/-- A node whose transform works on the configuration only settles at once, if the transform gives
back every configuration that it has made. -/
lemma settlesAtOnce_of_config {n : Node} {d : Definition} {a : Action} {data : Entries}
    {f : Entries → Except Fault Entries} (h : r.registry.get? n.type = some d)
    (ha : d.action = some a) (hdata : dataFor context d.requirements = .ok data)
    (hdefaults : Entries.Distinct d.defaults)
    (hf : ∀ m : Node, act context a m data =
      (f m.config).map fun config => .node (.mk m.type config m.children))
    (hagain : ∀ c g, f (Entries.merge d.defaults c) = .ok g →
      f (Entries.merge d.defaults g) = .ok g) : SettlesAtOnce context r n := by
  cases hg : f (n.withDefaults d.defaults).config with
  | error e =>
    refine .rests (comesToRest_failed h ha hdata hdefaults (e := e) fun cs => ?_)
    rw [hf]
    exact congrArg (Except.map _) hg
  | ok g =>
    have hgives : ∀ c cs, f (Entries.merge d.defaults c) = .ok g →
        r.Transforms context (.mk n.type c cs) d (.ok (.node (.mk n.type g cs))) := by
      intro c cs hc
      refine ⟨h, a, data, ha, hdata, ?_⟩
      rw [hf]
      exact congrArg (Except.map _) hc
    have hsteady : Steady context r (.mk n.type g n.children) := fun cs =>
      .kept d _ _ (hgives g cs (hagain _ g hg)) (.node _) (Node.same_refl _)
    have hfirst := hgives n.config n.children hg
    cases hs : (Node.mk n.type g n.children).same n with
    | true =>
      exact .rests (.node _ (.kept d _ _ hfirst (.node _) hs) hsteady)
    | false =>
      exact .changes _ (.changed d _ _ hfirst (.node _) hs)
        (.node _ (hsteady n.children) hsteady)

end Resolver

end PageTree
