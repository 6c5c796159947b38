import PageTree.Proofs.Resolution.Children
import PageTree.Proofs.Resolution.Round

/-!
# What a resolution keeps

A property of nodes that every round keeps, that the children of a node have with it, and that a
node has with other children if they have it, is a property of whatever a resolution gives
(`Preserves.resolveTree`).

The walk over the tree asks for no more than that: what holds of the results of a sequence of
computations is said by `Run.Ensures`, and from the rounds it carries over to places and children by
induction on the room.
-/

namespace PageTree

namespace Run

variable {α β : Type}

/-- A result of a computation, if there is one, has a property. -/
def Ensures (P : α → Prop) (x : Run α) : Prop :=
  ∀ a, x.result = .ok a → P a

/-- A computation without a fault ensures what holds of its result. -/
lemma ensures_of_ok {P : α → Prop} {x : Run α} {a : α} (h : x.result = .ok a) (ha : P a) :
    x.Ensures P := by
  intro b hb
  rw [h] at hb
  cases hb
  exact ha

/-- A sequence ensures what its second part ensures after the results of the first. -/
lemma Ensures.bind {P : α → Prop} {Q : β → Prop} {x : Run α} {f : α → Run β} (hx : x.Ensures P)
    (hf : ∀ a, P a → (f a).Ensures Q) : (x.bind f).Ensures Q := by
  intro b hb
  cases hresult : x.result with
  | error e =>
    rw [bind_of_error hresult] at hb
    cases hb
  | ok a =>
    rw [bind_of_ok hresult] at hb
    exact hf a (hx a hresult) b hb

end Run

namespace Resolver

/-- What holds of every node holds of a child, whatever texts are. -/
def Holds (P : Node → Prop) (c : Child) : Prop :=
  ∀ n, c = .node n → P n

/-- What holds of every node holds of a place after a round. -/
def HoldsNext (P : Node → Prop) : Turn → Prop
  | .settled n => P n
  | .ended c => ∀ n, c = some (.node n) → P n
  | .changed n => P n

/-- What holds of every node holds of what is left at a place. -/
def HoldsAt (P : Node → Prop) (c : Option Child) : Prop :=
  ∀ n, c = some (.node n) → P n

/-- A property of nodes that goes from a node to what a round makes of it, to its children, and back
from the children that are kept to the node. -/
structure Preserves (context : Context) (r : Resolver) (P : Node → Prop) : Prop where
  settled : ∀ n m, P n → r.Round context n (.ok (.settled m)) → P m
  changed : ∀ n m, P n → r.Round context n (.ok (.changed m)) → P m
  children : ∀ n, P n → ∀ c ∈ n.children, Holds P c
  withChildren : ∀ n cs, P n → (∀ c ∈ cs, Holds P c) → P (n.withChildren (kept cs))

variable {context : Context} {r : Resolver} {P : Node → Prop}

/-- A round keeps the property. -/
lemma Preserves.turn (h : Preserves context r P) (depth : Nat) {n : Node} (hn : P n) :
    (r.turn context depth n).Ensures (HoldsNext P) := by
  intro t ht
  have hround := round_turn context r depth n
  rw [ht] at hround
  cases t with
  | settled m => exact h.settled n m hn hround
  | changed m => exact h.changed n m hn hround
  | ended c =>
    -- what a place ends with is a text or nothing
    cases hround with
    | dropped | text => nofun

/-- Children keep the property if the nodes among them do. -/
lemma Preserves.resolveList {visit : Node → Run (Option Child)}
    (hvisit : ∀ n, P n → (visit n).Ensures (HoldsAt P)) {cs : List Child}
    (hcs : ∀ c ∈ cs, Holds P c) :
    (resolveList visit cs).Ensures fun rs => ∀ c ∈ rs, Holds P c := by
  induction cs with
  | nil => exact Run.ensures_of_ok rfl nofun
  | cons c cs ih =>
    rw [List.forall_mem_cons] at hcs
    have hchild : (resolveChild visit c).Ensures (HoldsAt P) := by
      cases c with
      | text s => exact Run.ensures_of_ok rfl nofun
      | node n => exact hvisit n (hcs.1 n rfl)
    rw [resolveList_cons]
    refine hchild.bind fun o ho => (ih hcs.2).bind fun rest hrest => ?_
    refine Run.ensures_of_ok rfl fun d hd => ?_
    rcases List.mem_append.mp hd with hd | hd
    · intro n hn
      rw [Option.mem_toList, hn] at hd
      exact ho n hd
    · exact hrest d hd

/-- A node that is put together again keeps the property. -/
lemma Preserves.rebuild (h : Preserves context r P) {n : Node} (hn : P n) {cs : List Child}
    (hcs : ∀ c ∈ cs, Holds P c) : P (rebuild n cs) := by
  rw [rebuild_eq]
  split
  · exact hn
  · exact h.withChildren n cs hn hcs

/-- After a round, a place keeps the property if its children and the changed node do. -/
lemma Preserves.proceed (h : Preserves context r P) {visit again : Node → Run (Option Child)}
    (hvisit : ∀ n, P n → (visit n).Ensures (HoldsAt P))
    (hagain : ∀ n, P n → (again n).Ensures (HoldsAt P)) {t : Turn} (ht : HoldsNext P t) :
    (proceed visit again t).Ensures (HoldsAt P) := by
  cases t with
  | settled n =>
    rw [Resolver.proceed, descend_eq]
    refine (resolveList hvisit (h.children n ht)).bind fun cs hcs => ?_
    refine Run.ensures_of_ok rfl fun m hm => ?_
    cases hm
    exact h.rebuild ht hcs
  | ended c => exact Run.ensures_of_ok rfl ht
  | changed n => exact hagain n ht

/-- A node that is met without room is left as it is. -/
lemma stop_ensures {n : Node} (hn : P n) (depth : Nat) :
    (r.stop n depth).Ensures (HoldsAt P) := by
  refine Run.ensures_of_ok rfl fun m hm => ?_
  cases hm
  exact hn

/-- A walk keeps the property. -/
lemma Preserves.visit (h : Preserves context r P) (room : Nat) :
    (∀ n, P n → (r.visit context room n).Ensures (HoldsAt P)) ∧
      ∀ n, P n → (r.again context room n).Ensures (HoldsAt P) := by
  have hcount : (Run.tell countVisit).Ensures fun _ => True := fun _ _ => trivial
  induction room with
  | zero =>
    constructor
    · intro n hn
      rw [Resolver.visit]
      exact hcount.bind fun _ _ => stop_ensures hn _
    · intro n hn
      rw [again]
      exact stop_ensures hn _
  | succ room ih =>
    obtain ⟨hvisit, hagain⟩ := ih
    constructor
    · intro n hn
      rw [Resolver.visit]
      refine hcount.bind fun _ _ => (h.turn _ hn).bind fun t ht => ?_
      refine h.proceed hvisit (fun m hm => ?_) ht
      exact (h.turn _ hm).bind fun u hu => h.proceed hvisit hagain hu
    · intro n hn
      rw [again]
      exact (h.turn _ hn).bind fun t ht => h.proceed hvisit hagain ht

/-- What a resolution gives has the property if the tree has it. -/
theorem Preserves.resolveTree (h : Preserves context r P) {root : Value}
    (hroot : ∀ n, rootOf root = .ok (.node n) → P n) :
    (r.resolveTree context root).Ensures (HoldsAt P) := by
  have hlift : (Run.lift (rootOf root)).Ensures (Holds P) := by
    intro c hc n hn
    subst hn
    exact hroot n hc
  refine hlift.bind fun c hc => ?_
  cases c with
  | text s => exact Run.ensures_of_ok rfl nofun
  | node n => exact (h.visit r.maxDepth).1 n (hc n rfl)

end Resolver

end PageTree
