import PageTree.Proofs.Resolution.Children
import PageTree.Proofs.Resolution.Round

/-!
# Places

A place of the tree is worked on in rounds.  The first round is made at the depth of the place; as
long as rounds change the node another one follows, at the same depth after the first change and one
deeper after every further one.

`Resolver.place` is this loop without the children: it ends with a final node and its depth, with a
text or nothing, or with a node for which no room is left.  `visitAt_eq_place` takes the work at a
node apart into its place and its children.

`Changes k n m` says that `k` rounds change `n` into `m`.  The loop follows the changes
(`place_of_changes`), so that what happens at a place is read off the round after them: it closes
the place when it does not change the node and there is room for it (`place_of_closes`), and
otherwise the loop runs out of room after a fixed number of rounds (`place_of_changes_all`).
-/

namespace PageTree

namespace Resolver

variable (context : Context) (r : Resolver)

/-- How the loop at a place ends. -/
inductive Ending where
  /-- The node is final at this depth, and its children are resolved one below. -/
  | settled (depth : Nat) (n : Node)
  /-- The place is dropped or becomes a text. -/
  | ended (c : Option Child)
  /-- No room is left for the node. -/
  | exceeded (n : Node)

/-- How the loop at a place goes on after a round at a depth, given how it does with a changed
node. -/
def follow (depth : Nat) (again : Node → Run Ending) : Turn → Run Ending
  | .settled n => Run.pure (.settled depth n)
  | .ended c => Run.pure (.ended c)
  | .changed n => again n

/-- The loop at a place whose node has been changed, with the given room left. -/
def rounds : Nat → Node → Run Ending
  | 0, n => ⟨exceeded r.maxDepth n r.maxDepth, .ok (.exceeded n)⟩
  | room + 1, n =>
    (r.turn context (r.maxDepth - (room + 1)) n).bind
      (follow (r.maxDepth - (room + 1)) (rounds room))

/-- The loop at a place whose node has been changed, at a depth. -/
def roundsAt (depth : Nat) (n : Node) : Run Ending :=
  rounds context r (r.maxDepth - depth) n

/-- The loop at a place that is entered at a depth. -/
def place (depth : Nat) (n : Node) : Run Ending :=
  if depth < r.maxDepth then (r.turn context depth n).bind (follow depth (roundsAt context r depth))
  else ⟨exceeded r.maxDepth n r.maxDepth, .ok (.exceeded n)⟩

/-- Resolves a node that is reached at a depth. -/
def visitAt (depth : Nat) (n : Node) : Run (Option Child) :=
  r.visit context (r.maxDepth - depth) n

/-- What is left to do after the loop at a place: the children of a final node. -/
def finishPlace : Ending → Run (Option Child)
  | .settled depth n => descend (visitAt context r (depth + 1)) n
  | .ended c => Run.pure c
  | .exceeded n => Run.pure (some (.node n))

/-! ## Depths in place of room -/

/-- One round with room for it. -/
lemma roundsAt_of_lt {depth : Nat} (h : depth < r.maxDepth) (n : Node) :
    roundsAt context r depth n =
      (r.turn context depth n).bind (follow depth (roundsAt context r (depth + 1))) := by
  obtain ⟨room, hroom⟩ : ∃ room, r.maxDepth - depth = room + 1 :=
    Nat.exists_eq_add_one_of_ne_zero (by omega)
  have hdepth : r.maxDepth - (room + 1) = depth := by omega
  have hnext : r.maxDepth - (depth + 1) = room := by omega
  unfold roundsAt
  rw [hroom, rounds, hdepth, hnext]

/-- No round without room. -/
lemma roundsAt_maxDepth (n : Node) :
    roundsAt context r r.maxDepth n =
      ⟨exceeded r.maxDepth n r.maxDepth, .ok (.exceeded n)⟩ := by
  unfold roundsAt
  rw [Nat.sub_self, rounds]

/-- The first round at a place with room for it. -/
lemma place_of_lt {depth : Nat} (h : depth < r.maxDepth) (n : Node) :
    place context r depth n =
      (r.turn context depth n).bind (follow depth (roundsAt context r depth)) :=
  if_pos h

/-- No round at a place without room. -/
lemma place_maxDepth (n : Node) :
    place context r r.maxDepth n =
      ⟨exceeded r.maxDepth n r.maxDepth, .ok (.exceeded n)⟩ :=
  if_neg (Nat.lt_irrefl _)

/-- Going on after a round and then with the children is the same in one step. -/
lemma follow_bind_finishPlace (depth : Nat) (again : Node → Run Ending)
    (again' : Node → Run (Option Child))
    (h : ∀ n, (again n).bind (finishPlace context r) = again' n) (t : Turn) :
    (follow depth again t).bind (finishPlace context r) =
      proceed (visitAt context r (depth + 1)) again' t := by
  cases t with
  | settled n => rw [follow, Run.pure_bind, finishPlace, proceed]
  | ended c => rw [follow, Run.pure_bind, finishPlace, proceed]
  | changed n => rw [follow, h, proceed]

/-- The loop at a place whose node has been changed, and then the children. -/
lemma again_eq_rounds (room : Nat) (hroom : room ≤ r.maxDepth) (n : Node) :
    r.again context room n = (rounds context r room n).bind (finishPlace context r) := by
  induction room generalizing n with
  | zero =>
    rw [again, rounds, Run.bind_of_ok rfl, finishPlace, Run.pure, Report.append_empty]
    rfl
  | succ room ih =>
    have hbelow : r.maxDepth - (r.maxDepth - (room + 1) + 1) = room := by omega
    have hfollow : (fun t => (follow (r.maxDepth - (room + 1)) (rounds context r room) t).bind
        (finishPlace context r)) = proceed (r.visit context room) (r.again context room) := by
      funext t
      rw [follow_bind_finishPlace context r _ _ (r.again context room)
        (fun m => (ih (by omega) m).symm)]
      unfold visitAt
      rw [hbelow]
    rw [again, rounds, Run.bind_eq, Run.bind_assoc, hfollow]

/-- The work at a node is the loop at its place and then its children. -/
theorem visitAt_eq_place {depth : Nat} (h : depth ≤ r.maxDepth) (n : Node) :
    visitAt context r depth n =
      ((place context r depth n).bind (finishPlace context r)).after countVisit := by
  rcases Nat.lt_or_eq_of_le h with hlt | rfl
  · obtain ⟨room, hroom⟩ : ∃ room, r.maxDepth - depth = room + 1 :=
      Nat.exists_eq_add_one_of_ne_zero (by omega)
    have hdepth : r.maxDepth - (room + 1) = depth := by omega
    have hbelow : r.maxDepth - (depth + 1) = room := by omega
    have hfollow : (fun t => (follow depth (roundsAt context r depth) t).bind
        (finishPlace context r)) = proceed (r.visit context room) (r.again context (room + 1)) := by
      funext t
      rw [follow_bind_finishPlace context r _ _ (r.again context (room + 1)) fun m => ?_]
      · unfold visitAt
        rw [hbelow]
      · unfold roundsAt
        rw [hroom]
        exact (again_eq_rounds context r (room + 1) (by omega) m).symm
    -- the second round at a place is written out in `visit`
    have hvisit : r.visit context (room + 1) n = ((r.turn context depth n).bind
        (proceed (r.visit context room) (r.again context (room + 1)))).after countVisit := by
      rw [visit, Run.bind_eq, Run.tell_bind, hdepth]
      have hagain : r.again context (room + 1) = fun m => (r.turn context depth m).bind
          (proceed (r.visit context room) (r.again context room)) := by
        funext m
        rw [again, Run.bind_eq, hdepth]
      rw [hagain]
      rfl
    rw [place_of_lt context r hlt, Run.bind_assoc, hfollow, ← hvisit, visitAt, hroom]
  · rw [place_maxDepth, visitAt, Nat.sub_self, visit, Run.bind_eq, Run.tell_bind,
      Run.bind_of_ok rfl, finishPlace, Run.pure, Report.append_empty]
    rfl

/-! ## Changes -/

/-- A number of rounds, one after the other, change a node into another. -/
inductive Changes : Nat → Node → Node → Prop where
  | none (n : Node) : Changes 0 n n
  | more {k : Nat} {n m p : Node} (h : r.Round context n (.ok (.changed m)))
      (hrest : Changes k m p) : Changes (k + 1) n p

/-- Fewer rounds change a node as well. -/
lemma Changes.fewer {j k : Nat} {n m : Node} (h : Changes context r k n m) (hj : j ≤ k) :
    ∃ p, Changes context r j n p := by
  induction h generalizing j with
  | none n =>
    obtain rfl := Nat.le_zero.mp hj
    exact ⟨n, .none n⟩
  | @more k n m p hround _ ih =>
    cases j with
    | zero => exact ⟨n, .none n⟩
    | succ j =>
      obtain ⟨q, hq⟩ := ih (Nat.le_of_succ_le_succ hj)
      exact ⟨q, .more hround hq⟩

/-- What a round that does not change a node makes of its place at a depth. -/
inductive Closes (depth : Nat) (n : Node) : Except Fault Ending → Prop where
  | settled {m : Node} (h : r.Round context n (.ok (.settled m))) :
      Closes depth n (.ok (.settled depth m))
  | ended {c : Option Child} (h : r.Round context n (.ok (.ended c))) :
      Closes depth n (.ok (.ended c))
  | fault {e : Fault} (h : r.Round context n (.error e)) : Closes depth n (.error e)

/-- A node is changed as often as wanted, or at some point a round closes the place. -/
lemma changes_or_closes (k : Nat) (n : Node) :
    (∃ m, Changes context r k n m) ∨
      ∃ j m, j < k ∧ Changes context r j n m ∧ ∀ depth, ∃ z, Closes context r depth m z := by
  induction k generalizing n with
  | zero => exact Or.inl ⟨n, .none n⟩
  | succ k ih =>
    have hclosed : (∀ depth, ∃ z, Closes context r depth n z) → (∃ j m, j < k + 1 ∧
        Changes context r j n m ∧ ∀ depth, ∃ z, Closes context r depth m z) :=
      fun h => ⟨0, n, Nat.succ_pos k, .none n, h⟩
    cases hround : (r.turn context 0 n).result with
    | error e =>
      have h := (turn_result_iff context r 0 n _).mp hround
      exact Or.inr (hclosed fun depth => ⟨_, .fault h⟩)
    | ok t =>
      have h := (turn_result_iff context r 0 n _).mp hround
      cases t with
      | settled m => exact Or.inr (hclosed fun depth => ⟨_, .settled h⟩)
      | ended c => exact Or.inr (hclosed fun depth => ⟨_, .ended h⟩)
      | changed m =>
        rcases ih m with ⟨p, hp⟩ | ⟨j, p, hj, hp, hz⟩
        · exact Or.inl ⟨p, .more h hp⟩
        · exact Or.inr ⟨j + 1, p, by omega, .more h hp, hz⟩

/-- What is reported by a number of rounds that change a node, the last of them at a depth: misfits
of data, and one application for each round. -/
structure Changing (k deepest : Nat) (report : Report) : Prop where
  kind : ∀ c ∈ report.records, c.kind = .coercion
  counters : report.counters = { Counters.zero with applied := k, deepest := deepest }

/-- No rounds report nothing. -/
lemma changing_empty : Changing 0 0 Report.empty where
  kind := by
    intro c hc
    cases hc
  counters := rfl

/-- Rounds that change a node after other such rounds. -/
lemma Changing.append {j k d e : Nat} {a b : Report} (ha : Changing j d a) (hb : Changing k e b) :
    Changing (j + k) (max d e) (a.append b) where
  kind := by
    intro c hc
    rcases List.mem_append.mp hc with hc | hc
    · exact ha.kind c hc
    · exact hb.kind c hc
  counters := by
    rw [Report.counters_append, ha.counters, hb.counters]
    rfl

/-- One round that changes a node. -/
lemma changing_turn {n m : Node} (h : r.Round context n (.ok (.changed m))) (depth : Nat) :
    Changing 1 depth (r.turn context depth n).report where
  kind := by
    refine turn_records_of_not_fails context r ?_ depth
    rintro ⟨d, x, hx, hbad⟩
    have hfailed := turn_result_of_verdict context r hx (.failed hbad) depth
    rw [turn_result_of_round context r h] at hfailed
    cases hfailed
  counters := by
    have hdefined : (r.registry.get? n.type).isSome = true := by
      cases h with
      | changed d x m hx => rw [hx.1, Option.isSome_some]
    rw [turn_counters context r h, countsOf, hdefined]
    rfl

/-- The loop of a changed node follows further changes, each one deeper than the one before. -/
lemma roundsAt_of_changes {k depth : Nat} {n m : Node} (h : Changes context r k n m)
    (hroom : depth + k ≤ r.maxDepth) :
    ∃ earlier deepest, Changing k deepest earlier ∧ deepest ≤ depth + k ∧
      roundsAt context r depth n = (roundsAt context r (depth + k) m).after earlier := by
  induction h generalizing depth with
  | none n =>
    refine ⟨Report.empty, 0, changing_empty, Nat.zero_le _, ?_⟩
    rw [Run.after, Report.empty_append]
    rfl
  | @more k n m p hround _ ih =>
    obtain ⟨earlier, deepest, hearlier, hdeepest, hrest⟩ := @ih (depth + 1) (by omega)
    refine ⟨(r.turn context depth n).report.append earlier, max depth deepest, ?_, by omega, ?_⟩
    · rw [Nat.add_comm k 1]
      exact (changing_turn context r hround depth).append hearlier
    · rw [roundsAt_of_lt context r (by omega),
        Run.bind_of_ok (turn_result_of_round context r hround depth), follow, hrest,
        Nat.add_right_comm depth 1 k, Nat.add_assoc depth k 1, ← Run.after_after]
      rfl

/-- The loop at a place follows the changes that its rounds make.  The first of them is free: the
next round is made at the same depth. -/
theorem place_of_changes {k depth : Nat} {n m : Node} (h : Changes context r (k + 1) n m)
    (hlt : depth < r.maxDepth) (hroom : depth + k ≤ r.maxDepth) :
    ∃ earlier deepest, Changing (k + 1) deepest earlier ∧ deepest ≤ depth + k ∧
      place context r depth n = (roundsAt context r (depth + k) m).after earlier := by
  cases h with
  | @more k n p m hround hrest =>
    obtain ⟨earlier, deepest, hearlier, hdeepest, hplace⟩ :=
      roundsAt_of_changes context r hrest hroom
    refine ⟨(r.turn context depth n).report.append earlier, max depth deepest, ?_, by omega, ?_⟩
    · rw [Nat.add_comm k 1]
      exact (changing_turn context r hround depth).append hearlier
    · rw [place_of_lt context r hlt, Run.bind_of_ok (turn_result_of_round context r hround depth),
        follow, hplace, ← Run.after_after]
      rfl

/-- A round that does not change the node ends the loop. -/
lemma turn_bind_follow_of_closes {depth : Nat} {n : Node} {z : Except Fault Ending}
    (h : Closes context r depth n z) (again : Node → Run Ending) :
    (r.turn context depth n).bind (follow depth again) =
      ⟨(r.turn context depth n).report, z⟩ := by
  cases h with
  | settled h =>
    rw [Run.bind_of_ok (turn_result_of_round context r h depth), follow, Run.pure,
      Report.append_empty]
  | ended h =>
    rw [Run.bind_of_ok (turn_result_of_round context r h depth), follow, Run.pure,
      Report.append_empty]
  | fault h => rw [Run.bind_of_error (turn_result_of_round context r h depth)]

/-- The loop at a place whose first round makes its node final. -/
lemma place_of_settled {depth : Nat} (hlt : depth < r.maxDepth) {n m : Node}
    (h : r.Round context n (.ok (.settled m))) :
    place context r depth n =
      ⟨(r.turn context depth n).report, .ok (.settled depth m)⟩ := by
  rw [place_of_lt context r hlt]
  exact turn_bind_follow_of_closes context r (.settled h) _

/-- The loop at a place whose node has no definition. -/
lemma place_undefined {depth : Nat} (hlt : depth < r.maxDepth) {n : Node}
    (h : r.registry.get? n.type = none) :
    place context r depth n =
      ⟨(r.turn context depth n).report, .ok (.settled depth n)⟩ :=
  place_of_settled context r hlt (.undefined h)

/-- A place whose first round makes its node final is given the separate results of the children of
that node. -/
lemma visitAt_of_settled {depth : Nat} (hlt : depth < r.maxDepth) {n m : Node}
    (h : r.Round context n (.ok (.settled m))) {os : List (Option Child)}
    (hos : m.children.map (fun c => (resolveChild (visitAt context r (depth + 1)) c).result) =
      os.map Except.ok) :
    (visitAt context r depth n).result =
      .ok (some (.node (rebuild m (os.flatMap Option.toList)))) := by
  rw [visitAt_eq_place context r (Nat.le_of_lt hlt), place_of_settled context r hlt h,
    Run.bind_of_ok rfl, finishPlace, descend_of_results _ hos]
  rfl

/-- A place is closed by the first round that does not change its node, if there is room for that
round: it is made as many units below the place as there are changes after the first. -/
theorem place_of_closes {k depth : Nat} {n m : Node} {z : Except Fault Ending}
    (h : Changes context r k n m) (hz : Closes context r (depth + (k - 1)) m z)
    (hroom : depth + (k - 1) < r.maxDepth) :
    ∃ earlier deepest, Changing k deepest earlier ∧ deepest ≤ depth + (k - 1) ∧
      place context r depth n =
        ⟨earlier.append (r.turn context (depth + (k - 1)) m).report, z⟩ := by
  cases k with
  | zero =>
    cases h
    rw [Nat.zero_sub, Nat.add_zero] at hz hroom ⊢
    refine ⟨Report.empty, 0, changing_empty, Nat.zero_le _, ?_⟩
    rw [place_of_lt context r hroom, Report.empty_append]
    exact turn_bind_follow_of_closes context r hz _
  | succ k =>
    rw [Nat.add_sub_cancel] at hz hroom ⊢
    obtain ⟨earlier, deepest, hearlier, hdeepest, hplace⟩ :=
      place_of_changes context r h (by omega) (Nat.le_of_lt hroom)
    refine ⟨earlier, deepest, hearlier, hdeepest, ?_⟩
    rw [hplace, roundsAt_of_lt context r hroom, turn_bind_follow_of_closes context r hz]
    rfl

/-- The work at a node whose place is closed: the rounds there, and then what they leave to do. -/
theorem visitAt_of_closes {k depth : Nat} {n m : Node} {z : Except Fault Ending}
    (h : Changes context r k n m) (hz : Closes context r (depth + (k - 1)) m z)
    (hroom : depth + (k - 1) < r.maxDepth) :
    ∃ earlier deepest, Changing k deepest earlier ∧ deepest ≤ depth + (k - 1) ∧
      visitAt context r depth n =
        (Run.mk (countVisit.append
          (earlier.append (r.turn context (depth + (k - 1)) m).report)) z).bind
          (finishPlace context r) := by
  obtain ⟨earlier, deepest, hearlier, hdeepest, hplace⟩ := place_of_closes context r h hz hroom
  refine ⟨earlier, deepest, hearlier, hdeepest, ?_⟩
  rw [visitAt_eq_place context r (by omega), hplace, ← Run.after_bind]
  rfl

/-- A place where the changes do not end early enough runs out of room: two rounds are made at its
depth and one at every depth below. -/
theorem place_of_changes_all {depth : Nat} {n m : Node} (hlt : depth < r.maxDepth)
    (h : Changes context r (r.maxDepth - depth + 1) n m) :
    ∃ earlier deepest, Changing (r.maxDepth - depth + 1) deepest earlier ∧
      deepest ≤ r.maxDepth ∧
      place context r depth n =
        ⟨earlier.append (exceeded r.maxDepth m r.maxDepth), .ok (.exceeded m)⟩ := by
  have hdepth : depth + (r.maxDepth - depth) = r.maxDepth := by omega
  obtain ⟨earlier, deepest, hearlier, hdeepest, hplace⟩ :=
    place_of_changes context r h hlt (Nat.le_of_eq hdepth)
  rw [hdepth] at hdeepest hplace
  refine ⟨earlier, deepest, hearlier, hdeepest, ?_⟩
  rw [hplace, roundsAt_maxDepth]
  rfl

/-- Either a round closes a place while there is room, or the changes go on until there is none. -/
theorem place_cases {depth : Nat} (hlt : depth < r.maxDepth) (n : Node) :
    (∃ k m z, Changes context r k n m ∧ Closes context r (depth + (k - 1)) m z ∧
      depth + (k - 1) < r.maxDepth) ∨
      ∃ m, Changes context r (r.maxDepth - depth + 1) n m := by
  rcases changes_or_closes context r (r.maxDepth - depth + 1) n with h | ⟨k, m, hk, hm, hz⟩
  · exact Or.inr h
  · obtain ⟨z, hz⟩ := hz (depth + (k - 1))
    exact Or.inl ⟨k, m, z, hm, hz, by omega⟩

/-- The final node of a place comes out of a round at a depth within the bound. -/
theorem place_settled {depth e : Nat} (h : depth ≤ r.maxDepth) {n m : Node}
    (hm : (place context r depth n).result = .ok (.settled e m)) :
    depth ≤ e ∧ e < r.maxDepth ∧
      ∃ k p, Changes context r k n p ∧ r.Round context p (.ok (.settled m)) ∧
        e = depth + (k - 1) := by
  rcases Nat.lt_or_eq_of_le h with hlt | rfl
  · rcases place_cases context r hlt n with ⟨k, p, z, hp, hz, hroom⟩ | ⟨p, hp⟩
    · obtain ⟨earlier, deepest, -, -, hplace⟩ := place_of_closes context r hp hz hroom
      rw [hplace] at hm
      cases hm
      cases hz with
      | settled hround => exact ⟨Nat.le_add_right _ _, hroom, k, p, hp, hround, rfl⟩
    · obtain ⟨earlier, deepest, -, -, hplace⟩ := place_of_changes_all context r hlt hp
      rw [hplace] at hm
      cases hm
  · rw [place_maxDepth] at hm
    cases hm

end Resolver

end PageTree
