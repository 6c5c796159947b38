import PageTree.Proofs.Node.Full
import PageTree.Proofs.Resolution.Invariant

/-!
# Resolution of full nodes

A node is built without empty texts among its children, and so are the nodes that transforms make
(`MakesFull`).  Hence whatever node a resolution gives is full (`MakesFull.resolveTree`): texts that
become empty are left out when a node is given its resolved children.
-/

namespace PageTree

open Resolver

/-- The first one of some children is kept unless it is an empty text. -/
lemma Resolver.kept_cons (c : Child) (cs : List Child) :
    kept (c :: cs) = if c.isEmpty then kept cs else c :: kept cs := by
  unfold kept
  rw [List.filter_cons]
  cases c.isEmpty <;> rfl

/-- Siblings among which the nodes are full: at the top there may be empty texts. -/
def Child.NodesFull (cs : List Child) : Prop :=
  ∀ n, Child.node n ∈ cs → n.Full

namespace Child.NodesFull

variable {c : Child} {cs : List Child}

lemma of_cons (h : NodesFull (c :: cs)) : NodesFull cs :=
  fun n hn => h n (List.mem_cons_of_mem c hn)

/-- Of siblings with full nodes, the kept ones are full. -/
lemma allFull_kept (h : NodesFull cs) : AllFull (kept cs) := by
  refine (allFull_iff _).mpr fun c hc => ?_
  obtain ⟨hc, hfull⟩ := List.mem_filter.mp hc
  cases c with
  | text s =>
    rw [Bool.not_eq_true', isEmpty, beq_eq_false_iff_ne] at hfull
    exact (allFull_text s).mpr hfull
  | node n => exact (allFull_node n).mpr (h n hc)

end Child.NodesFull

namespace Resolver

variable {context : Context} {r : Resolver}

/-- Transforms put no empty text below a node: they are built from full nodes. -/
def MakesFull (context : Context) (r : Resolver) : Prop :=
  ∀ n d v, n.Full → r.Transforms context n d (.ok v) → v.Full

/-- What a transform makes of a full node is full. -/
lemma MakesFull.made (h : MakesFull context r) {n m : Node} {d : Definition}
    {x : Except Fault Value} (hn : n.Full) (hx : r.Transforms context n d x) (hm : Makes x m) :
    m.Full := by
  cases hm with
  | node => exact h n d _ hn hx
  | shape es _ hread => exact Node.full_of_ofValue (.map es) m (h n d _ hn hx) hread

/-- Defaults leave the children of a node as they are. -/
lemma full_withDefaults (n : Node) (defaults : Entries) :
    (n.withDefaults defaults).Full ↔ n.Full := by
  rw [Node.full_iff, Node.full_iff]
  rfl

/-- Being full goes through a whole resolution. -/
lemma MakesFull.preserves (h : MakesFull context r) : Preserves context r Node.Full where
  settled n m hn hround := by
    cases hround with
    | undefined => exact hn
    | inert d => exact (full_withDefaults n d.defaults).mpr hn
    | failed d => exact (full_withDefaults n d.defaults).mpr hn
    | kept d x m hx hm => exact h.made hn hx hm
  changed n m hn hround := by
    cases hround with
    | changed d x m hx hm => exact h.made hn hx hm
  children n hn c hc m hm := by
    subst hm
    exact (Child.allFull_node m).mp ((Child.allFull_iff _).mp ((Node.full_iff n).mp hn) _ hc)
  withChildren n cs _ hcs :=
    (Node.full_iff _).mpr (Child.NodesFull.allFull_kept fun m hm => hcs _ hm m rfl)

/-- A tree in which all nodes are full is resolved to such a tree. -/
lemma MakesFull.resolveTree (h : MakesFull context r) {root : Value} (hroot : root.Full)
    {n : Node} (hn : (r.resolveTree context root).result = .ok (some (.node n))) : n.Full := by
  refine h.preserves.resolveTree (fun m hm => ?_) _ hn n rfl
  cases root with
  | str s => cases hm
  | _ =>
    obtain ⟨m', hm', heq⟩ := (map_eq_ok_iff _ _ _).mp hm
    cases heq
    exact Node.full_of_ofValue _ _ hroot hm'

end Resolver

end PageTree
