import Mathlib.Data.List.Forall2
import Mathlib.Tactic.ByContra
import PageTree.Proofs.Resolution.Room

/-!
# Depth shows in reports only

A resolution reads the depth of a node in two places: it checks that there is room for another
round, and it writes the depth into what it reports.  Hence a node that is resolved one level deeper
becomes the same, with the same problems but for their depth, as long as there is room
(`visitAt_deeper`).

Two problems are alike (`Alike`) if they differ in nothing but the depth, and `Echoes` says that two
computations report problems that are alike, in the same order, and give corresponding results.  It
composes over sequences of computations, so that the two runs are followed in lock step, function by
function.
-/

namespace PageTree

namespace Resolver

/-! ## Computations side by side -/

/-- Two problems are of the same kind, at nodes of the same type, with the same message.  The
message of a problem of depth names the bound and may be another one. -/
structure Alike (c d : Record) : Prop where
  kind : c.kind = d.kind
  nodeType : c.nodeType = d.nodeType
  message : c.kind ≠ .depthExceeded → c.message = d.message

/-- Every problem is like itself. -/
lemma Alike.refl (c : Record) : Alike c c :=
  ⟨rfl, rfl, fun _ => rfl⟩

/-- Problems are like themselves one by one. -/
lemma forall₂_alike_refl (cs : List Record) : List.Forall₂ Alike cs cs :=
  List.forall₂_same.mpr fun c _ => Alike.refl c

section Echoes

variable {α β γ δ : Type}

/-- Two results are the same fault, or values that correspond. -/
inductive Corresponds (R : α → β → Prop) : Except Fault α → Except Fault β → Prop where
  | fault (e : Fault) : Corresponds R (.error e) (.error e)
  | value {a : α} {b : β} (h : R a b) : Corresponds R (.ok a) (.ok b)

/-- Two computations give corresponding results and report problems that are alike one by one. -/
structure Echoes (R : α → β → Prop) (x : Run α) (y : Run β) : Prop where
  result : Corresponds R x.result y.result
  records : List.Forall₂ Alike x.report.records y.report.records

variable {R : α → β → Prop} {S : γ → δ → Prop}

/-- Equal results correspond. -/
lemma corresponds_eq (x : Except Fault α) : Corresponds Eq x x := by
  cases x with
  | error e => exact .fault e
  | ok a => exact .value rfl

/-- Results that correspond by equality are equal. -/
lemma Corresponds.eq {x y : Except Fault α} (h : Corresponds Eq x y) : x = y := by
  cases h with
  | fault e => rfl
  | value h => rw [h]

/-- Every computation echoes itself. -/
lemma echoes_self (x : Run α) : Echoes Eq x x :=
  ⟨corresponds_eq x.result, forall₂_alike_refl _⟩

/-- Corresponding values echo each other. -/
lemma echoes_pure {a : α} {b : β} (h : R a b) : Echoes R (Run.pure a) (Run.pure b) :=
  ⟨.value h, List.Forall₂.nil⟩

/-- Sequences of computations that echo each other do so as well. -/
lemma Echoes.bind {x : Run α} {y : Run β} {f : α → Run γ} {g : β → Run δ} (h : Echoes R x y)
    (hf : ∀ a b, R a b → Echoes S (f a) (g b)) : Echoes S (x.bind f) (y.bind g) := by
  obtain ⟨hresult, hrecords⟩ := h
  generalize hx : x.result = u at hresult
  generalize hy : y.result = v at hresult
  cases hresult with
  | fault e =>
    rw [Run.bind_of_error hx, Run.bind_of_error hy]
    exact ⟨.fault e, hrecords⟩
  | @value a b hab =>
    have hrest := hf a b hab
    rw [Run.bind_of_ok hx, Run.bind_of_ok hy]
    exact ⟨hrest.result, List.rel_append hrecords hrest.records⟩

/-- Reports in front with problems that are alike do not disturb. -/
lemma Echoes.after {x : Run α} {y : Run β} (h : Echoes R x y) {a b : Report}
    (hab : List.Forall₂ Alike a.records b.records) : Echoes R (x.after a) (y.after b) :=
  ⟨h.result, List.rel_append hab h.records⟩

end Echoes

/-- What is said of a problem besides its depth: its kind, its message and the type of the node. -/
def gist (c : Record) : RecordKind × String × Option String :=
  (c.kind, c.message, c.nodeType)

/-- Where no place ran out of room, problems that are alike one by one say the same. -/
lemma gist_eq_of_alike {cs ds : List Record} (h : List.Forall₂ Alike cs ds)
    (hfits : ∀ d ∈ ds, d.kind ≠ .depthExceeded) : cs.map gist = ds.map gist := by
  induction h with
  | nil => rfl
  | @cons c d cs ds hcd _ ih =>
    have hkind : c.kind ≠ .depthExceeded := hcd.kind ▸ hfits d List.mem_cons_self
    have hrest := ih fun x hx => hfits x (List.mem_cons_of_mem d hx)
    have hgist : gist c = gist d := by
      rw [gist, gist, hcd.kind, hcd.nodeType, hcd.message hkind]
    rw [List.map_cons, List.map_cons, hgist, hrest]

/-! ## One round at two depths -/

section Round

variable (context : Context) (r : Resolver)

/-- A misfit of data is reported alike at every depth. -/
lemma alike_misfit (n : Node) (depth depth' : Nat) (name : Key) (q : Requirement)
    (e : CoercionFault) : List.Forall₂ Alike (misfit n depth name q e).records
      (misfit n depth' name q e).records :=
  List.Forall₂.cons ⟨rfl, rfl, fun _ => rfl⟩ List.Forall₂.nil

/-- One piece of data is selected in the same way at every depth. -/
lemma selectOne_echoes (n : Node) (depth depth' : Nat) (name : Key) (q : Requirement) :
    Echoes Eq (selectOne context n depth name q) (selectOne context n depth' name q) := by
  unfold selectOne
  refine (echoes_self _).bind ?_
  rintro key _ rfl
  split
  · split <;> exact echoes_self _
  · refine (echoes_self _).bind ?_
    rintro c _ rfl
    cases c with
    | ok w => exact echoes_self _
    | error e =>
      have htell : Echoes Eq (Run.tell (misfit n depth name q e))
          (Run.tell (misfit n depth' name q e)) :=
        ⟨.value rfl, alike_misfit n depth depth' name q e⟩
      exact htell.bind fun _ _ _ => echoes_self _

/-- The declared data are selected in the same way at every depth. -/
lemma select_echoes (n : Node) (depth depth' : Nat) (requirements : List (Key × Requirement)) :
    Echoes Eq (select context n depth requirements) (select context n depth' requirements) := by
  induction requirements with
  | nil => exact echoes_self _
  | cons e rest ih =>
    obtain ⟨name, q⟩ := e
    refine (selectOne_echoes context n depth depth' name q).bind ?_
    rintro v _ rfl
    refine ih.bind ?_
    rintro vs _ rfl
    exact echoes_self _

/-- What a transform gave is judged in the same way at every depth. -/
lemma judge_echoes (n : Node) (depth depth' : Nat) (data : Entries) (x : Except Fault Value) :
    Echoes Eq (judge n depth data x) (judge n depth' data x) := by
  cases x with
  | error e => exact ⟨.value rfl, .cons ⟨rfl, rfl, fun _ => rfl⟩ .nil⟩
  | ok v =>
    rw [judge, judge]
    cases normalize v with
    | error reason => exact ⟨.value rfl, .cons ⟨rfl, rfl, fun _ => rfl⟩ .nil⟩
    | ok a => exact ⟨.value rfl, .nil⟩

/-- A round is the same at every depth and under every bound. -/
lemma turn_echoes (bound depth depth' : Nat) (n : Node) :
    Echoes Eq (r.turn context depth n) ((r.withBound bound).turn context depth' n) := by
  cases hd : r.registry.get? n.type with
  | none =>
    have hd' : (r.withBound bound).registry.get? n.type = none := hd
    rw [turn_undefined context r hd, turn_undefined context (r.withBound bound) hd']
    exact ⟨.value rfl, .nil⟩
  | some d =>
    have hd' : (r.withBound bound).registry.get? n.type = some d := hd
    cases ha : d.action with
    | none =>
      rw [turn_inert context r hd ha, turn_inert context (r.withBound bound) hd' ha]
      exact ⟨.value rfl, .nil⟩
    | some a =>
      rw [turn_active context r hd ha, turn_active context (r.withBound bound) hd' ha]
      have hopening : Echoes Eq (Run.tell (opening depth)) (Run.tell (opening depth')) :=
        ⟨.value rfl, .nil⟩
      refine hopening.bind fun _ _ _ => ?_
      refine (select_echoes context _ depth depth' d.requirements).bind ?_
      rintro data _ rfl
      refine (judge_echoes _ depth depth' data _).bind ?_
      rintro v _ rfl
      exact echoes_self _

end Round

/-! ## Whole trees at two depths -/

section Trees

variable {visit again visit' again' : Node → Run (Option Child)}

/-- Children are resolved in the same way if nodes are. -/
lemma resolveList_echoes (h : ∀ n, Echoes Eq (visit n) (visit' n)) (cs : List Child) :
    Echoes Eq (resolveList visit cs) (resolveList visit' cs) := by
  induction cs with
  | nil => exact echoes_self _
  | cons c cs ih =>
    have hchild : Echoes Eq (resolveChild visit c) (resolveChild visit' c) := by
      cases c with
      | text s => exact echoes_self _
      | node n => exact h n
    rw [resolveList_cons, resolveList_cons]
    refine hchild.bind ?_
    rintro o _ rfl
    refine ih.bind ?_
    rintro rest _ rfl
    exact echoes_self _

/-- A place goes on in the same way if nodes are resolved in the same way. -/
lemma proceed_echoes (h : ∀ n, Echoes Eq (visit n) (visit' n))
    (hagain : ∀ n, Echoes Eq (again n) (again' n)) (t : Turn) :
    Echoes Eq (proceed visit again t) (proceed visit' again' t) := by
  cases t with
  | settled n =>
    rw [proceed, proceed, descend_eq, descend_eq]
    refine (resolveList_echoes h n.children).bind ?_
    rintro cs _ rfl
    exact echoes_self _
  | ended c => exact echoes_self _
  | changed n => exact hagain n

variable (context : Context) (r : Resolver)

/-- Nodes for which there is no room are alike under every bound. -/
lemma stop_echoes (bound depth depth' : Nat) (n : Node) :
    Echoes Eq (r.stop n depth) ((r.withBound bound).stop n depth') :=
  ⟨.value rfl, .cons ⟨rfl, rfl, fun h => absurd rfl h⟩ .nil⟩

/-- With the same room left a resolution is the same under every bound. -/
lemma visit_echoes (bound room : Nat) :
    (∀ n, Echoes Eq (r.visit context room n) ((r.withBound bound).visit context room n)) ∧
      ∀ n, Echoes Eq (r.again context room n) ((r.withBound bound).again context room n) := by
  induction room with
  | zero =>
    refine ⟨fun n => ?_, fun n => stop_echoes r bound _ _ n⟩
    rw [visit, visit]
    exact (echoes_self _).bind fun _ _ _ => stop_echoes r bound _ _ n
  | succ room ih =>
    obtain ⟨hvisit, hagain⟩ := ih
    have hround : ∀ n, Echoes Eq (r.again context (room + 1) n)
        ((r.withBound bound).again context (room + 1) n) := by
      intro n
      refine (turn_echoes context r bound _ _ n).bind ?_
      rintro t _ rfl
      exact proceed_echoes hvisit hagain t
    refine ⟨fun n => ?_, hround⟩
    rw [visit, visit]
    refine (echoes_self _).bind fun _ _ _ => ?_
    refine (turn_echoes context r bound _ _ n).bind ?_
    rintro t _ rfl
    -- the second round at a place is written out in `visit`
    exact proceed_echoes hvisit hround t

/-- A node that fits is reached with room for it. -/
lemma lt_maxDepth_of_fits {depth : Nat} {n : Node}
    (hfits : Fits (visitAt context r depth n).report) : depth < r.maxDepth := by
  by_contra hge
  have hroom : r.maxDepth - depth = 0 := by omega
  unfold visitAt at hfits
  rw [hroom, visit, Run.bind_eq, Run.tell_bind] at hfits
  exact not_fits_exceeded _ _ _ hfits.of_append.2

/-- A node that is resolved one level deeper, with room for it, becomes the same and has problems
that are alike. -/
theorem visitAt_deeper {depth : Nat} {n : Node}
    (hfits : Fits (visitAt context r (depth + 1) n).report) :
    Echoes Eq (visitAt context r depth n) (visitAt context r (depth + 1) n) := by
  have hdepth := Nat.le_of_lt (lt_maxDepth_of_fits context r hfits)
  -- both bounds leave the same room: one more unit above, one more level below
  have hroom : r.maxDepth + 1 - (depth + 1) = r.maxDepth - depth := by omega
  have hshift := (visit_echoes context r (r.maxDepth + 1) (r.maxDepth - depth)).1 n
  have hbound := visitAt_withBound (Nat.le_succ r.maxDepth) hdepth hfits
  rw [← hbound]
  have hvisit : visitAt context (r.withBound (r.maxDepth + 1)) (depth + 1) n =
      (r.withBound (r.maxDepth + 1)).visit context (r.maxDepth - depth) n := by
    rw [← hroom]
    rfl
  rw [hvisit]
  exact hshift

/-- Children that are resolved one level deeper, with room for them, become the same and have
problems that are alike. -/
theorem resolveList_deeper {depth : Nat} {cs : List Child}
    (hfits : Fits (resolveList (visitAt context r (depth + 1)) cs).report) :
    Echoes Eq (resolveList (visitAt context r depth) cs)
      (resolveList (visitAt context r (depth + 1)) cs) := by
  induction cs with
  | nil => exact echoes_self _
  | cons c cs ih =>
    rw [resolveList_cons] at hfits
    have hchild : Echoes Eq (resolveChild (visitAt context r depth) c)
        (resolveChild (visitAt context r (depth + 1)) c) := by
      cases c with
      | text s => exact echoes_self _
      | node n => exact visitAt_deeper context r hfits.of_bind
    rw [resolveList_cons, resolveList_cons]
    cases hc : (resolveChild (visitAt context r (depth + 1)) c).result with
    | error e =>
      have hc' := hchild.result.eq.trans hc
      rw [Run.bind_of_error hc, Run.bind_of_error hc']
      exact ⟨.fault e, hchild.records⟩
    | ok o =>
      rw [Run.bind_of_ok hc] at hfits
      have hrest := ih hfits.of_append.2.of_bind
      refine hchild.bind ?_
      rintro o _ rfl
      refine hrest.bind ?_
      rintro rest _ rfl
      exact echoes_self _

end Trees

end Resolver

end PageTree
