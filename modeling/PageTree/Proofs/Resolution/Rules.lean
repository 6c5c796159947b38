import PageTree.Proofs.Resolution.Place

/-!
# Rules of resolution

What a resolution does, as rules without any measure of the room that is left: a depth that grows, a
count of the changes at a place, and a check of the depth before every round.

`Loops` has the rules of the loop at a place, `Enters` those of a node with its children, `Passes`
those of a list of children, and `Resolves` those of a whole tree.  A derivation is finite, so that
having one means that the resolution comes to an end.  `resolves_iff` says that every tree has
exactly one derivation, and that it derives what `Resolver.resolveTree` computes.
-/

namespace PageTree

namespace Resolver

variable (context : Context) (r : Resolver)

/-- The loop at a place, at a depth and after a number of changes. -/
inductive Loops : Nat → Nat → Node → Run Ending → Prop where
  /-- The bound is checked before every round. -/
  | stops {depth changes : Nat} {n : Node} (h : r.maxDepth ≤ depth) :
      Loops depth changes n ⟨exceeded r.maxDepth n depth, .ok (.exceeded n)⟩
  | raises {depth changes : Nat} {n : Node} {e : Fault} (h : depth < r.maxDepth)
      (ht : (r.turn context depth n).result = .error e) :
      Loops depth changes n ⟨(r.turn context depth n).report, .error e⟩
  | settles {depth changes : Nat} {n m : Node} (h : depth < r.maxDepth)
      (ht : (r.turn context depth n).result = .ok (.settled m)) :
      Loops depth changes n ⟨(r.turn context depth n).report, .ok (.settled depth m)⟩
  | ends {depth changes : Nat} {n : Node} {c : Option Child} (h : depth < r.maxDepth)
      (ht : (r.turn context depth n).result = .ok (.ended c)) :
      Loops depth changes n ⟨(r.turn context depth n).report, .ok (.ended c)⟩
  /-- Every change after the first costs a unit of depth. -/
  | changes {depth changes : Nat} {n m : Node} {x : Run Ending} (h : depth < r.maxDepth)
      (ht : (r.turn context depth n).result = .ok (.changed m))
      (hx : Loops (if 1 < changes + 1 then depth + 1 else depth) (changes + 1) m x) :
      Loops depth changes n (x.after (r.turn context depth n).report)

mutual

/-- A node that is reached at a depth, with all its children. -/
inductive Enters : Nat → Node → Run (Option Child) → Prop where
  | raises {depth : Nat} {n : Node} {x : Run Ending} {e : Fault} (hx : Loops context r depth 0 n x)
      (he : x.result = .error e) : Enters depth n (Run.after ⟨x.report, .error e⟩ countVisit)
  | ends {depth : Nat} {n : Node} {x : Run Ending} {c : Option Child}
      (hx : Loops context r depth 0 n x) (hc : x.result = .ok (.ended c)) :
      Enters depth n (Run.after ⟨x.report, .ok c⟩ countVisit)
  | stops {depth : Nat} {n m : Node} {x : Run Ending} (hx : Loops context r depth 0 n x)
      (hm : x.result = .ok (.exceeded m)) :
      Enters depth n (Run.after ⟨x.report, .ok (some (.node m))⟩ countVisit)
  /-- The children of the final node are resolved one below the depth that was reached. -/
  | settles {depth e : Nat} {n m : Node} {x : Run Ending} {ys : Run (List Child)}
      (hx : Loops context r depth 0 n x) (hm : x.result = .ok (.settled e m))
      (hys : Passes (e + 1) m.children ys) :
      Enters depth n (Run.after
        ((ys.bind fun cs => Run.pure (some (.node (rebuild m cs)))).after x.report) countVisit)

/-- Children that are reached at a depth, one after the other. -/
inductive Passes : Nat → List Child → Run (List Child) → Prop where
  | nil {depth : Nat} : Passes depth [] (Run.pure [])
  | text {depth : Nat} {s : String} {cs : List Child} {ys : Run (List Child)}
      (hys : Passes depth cs ys) :
      Passes depth (.text s :: cs) (Run.after (ys.bind fun rest => Run.pure (.text s :: rest))
        (Report.counting { Counters.zero with texts := 1 }))
  | node {depth : Nat} {n : Node} {c : Option Child} {cs : List Child} {y : Run (Option Child)}
      {ys : Run (List Child)} (hy : Enters depth n y) (hc : y.result = .ok c)
      (hys : Passes depth cs ys) :
      Passes depth (.node n :: cs)
        (Run.after (ys.bind fun rest => Run.pure (c.toList ++ rest)) y.report)
  | raises {depth : Nat} {n : Node} {cs : List Child} {y : Run (Option Child)} {e : Fault}
      (hy : Enters depth n y) (he : y.result = .error e) :
      Passes depth (.node n :: cs) ⟨y.report, .error e⟩

end

/-- The root of a tree, in any form. -/
inductive Resolves : Value → Run (Option Child) → Prop where
  | malformed {root : Value} {e : Fault} (h : rootOf root = .error e) :
      Resolves root ⟨Report.empty, .error e⟩
  | text {root : Value} {s : String} (h : rootOf root = .ok (.text s)) :
      Resolves root
        ⟨Report.counting { Counters.zero with texts := 1 }, .ok (some (.text s))⟩
  | node {root : Value} {n : Node} {y : Run (Option Child)} (h : rootOf root = .ok (.node n))
      (hy : Enters context r 0 n y) : Resolves root y

/-! ## The loop at a place -/

/-- One round of the loop, given how it goes on with a changed node. -/
lemma loops_iff_follow {depth changes : Nat} (h : depth < r.maxDepth)
    {again : Node → Run Ending}
    (hagain : ∀ m x, Loops context r (if 1 < changes + 1 then depth + 1 else depth) (changes + 1)
      m x ↔ x = again m) (n : Node) (x : Run Ending) :
    Loops context r depth changes n x ↔
      x = (r.turn context depth n).bind (follow depth again) := by
  constructor
  · intro hx
    cases hx with
    | stops hstop => exact absurd h (Nat.not_lt.mpr hstop)
    | raises _ ht => rw [Run.bind_of_error ht]
    | settles _ ht => rw [Run.bind_of_ok ht, follow, Run.pure, Report.append_empty]
    | ends _ ht => rw [Run.bind_of_ok ht, follow, Run.pure, Report.append_empty]
    | changes _ ht hm =>
      rw [Run.bind_of_ok ht, follow, ← (hagain _ _).mp hm]
      rfl
  · rintro rfl
    cases ht : (r.turn context depth n).result with
    | error e =>
      rw [Run.bind_of_error ht]
      exact .raises h ht
    | ok t =>
      cases t with
      | settled m =>
        rw [Run.bind_of_ok ht, follow, Run.pure, Report.append_empty]
        exact .settles h ht
      | ended c =>
        rw [Run.bind_of_ok ht, follow, Run.pure, Report.append_empty]
        exact .ends h ht
      | changed m =>
        rw [Run.bind_of_ok ht, follow]
        exact .changes h ht ((hagain m _).mpr rfl)

/-- Without room the loop makes no round. -/
lemma loops_maxDepth_iff (changes : Nat) (n : Node) (x : Run Ending) :
    Loops context r r.maxDepth changes n x ↔
      x = ⟨exceeded r.maxDepth n r.maxDepth, .ok (.exceeded n)⟩ := by
  constructor
  · intro hx
    cases hx with
    | stops => rfl
    | raises h | settles h | ends h | changes h => exact absurd h (Nat.lt_irrefl _)
  · rintro rfl
    exact .stops (Nat.le_refl _)

/-- The loop at a place whose node has been changed has one derivation. -/
lemma loops_succ_iff (room : Nat) {depth : Nat} (h : depth + room = r.maxDepth) (changes : Nat)
    (n : Node) (x : Run Ending) :
    Loops context r depth (changes + 1) n x ↔ x = roundsAt context r depth n := by
  induction room generalizing depth changes n x with
  | zero =>
    obtain rfl : depth = r.maxDepth := h
    rw [roundsAt_maxDepth, loops_maxDepth_iff]
  | succ room ih =>
    have hlt : depth < r.maxDepth := by omega
    rw [roundsAt_of_lt context r hlt]
    refine loops_iff_follow context r hlt (fun m y => ?_) n x
    rw [if_pos (by omega)]
    exact ih (by omega) (changes + 1) m y

/-- The loop at a place has one derivation, of what `place` computes. -/
theorem loops_iff {depth : Nat} (h : depth ≤ r.maxDepth) (n : Node) (x : Run Ending) :
    Loops context r depth 0 n x ↔ x = place context r depth n := by
  rcases Nat.lt_or_eq_of_le h with hlt | rfl
  · rw [place_of_lt context r hlt]
    refine loops_iff_follow context r hlt (fun m y => ?_) n x
    -- the first change is free
    rw [if_neg (Nat.lt_irrefl 1)]
    exact loops_succ_iff context r (r.maxDepth - depth) (by omega) 0 m y
  · rw [place_maxDepth, loops_maxDepth_iff]

/-! ## Whole trees -/

/-- Children have one derivation if every node at their depth has one. -/
lemma passes_iff {depth : Nat}
    (h : ∀ n y, Enters context r depth n y ↔ y = visitAt context r depth n) (cs : List Child)
    (ys : Run (List Child)) :
    Passes context r depth cs ys ↔ ys = resolveList (visitAt context r depth) cs := by
  induction cs generalizing ys with
  | nil =>
    constructor
    · intro hys
      cases hys
      rfl
    · rintro rfl
      exact .nil
  | cons c cs ih =>
    cases c with
    | text s =>
      rw [resolveList_cons, resolveChild, Run.bind_of_ok rfl]
      constructor
      · intro hys
        cases hys with
        | text hcs =>
          rw [(ih _).mp hcs]
          rfl
      · rintro rfl
        exact .text ((ih _).mpr rfl)
    | node n =>
      rw [resolveList_cons, resolveChild]
      constructor
      · intro hys
        cases hys with
        | node hy hc hcs =>
          rw [← (h n _).mp hy, Run.bind_of_ok hc, ← (ih _).mp hcs]
          rfl
        | raises hy he => rw [← (h n _).mp hy, Run.bind_of_error he]
      · rintro rfl
        cases hc : (visitAt context r depth n).result with
        | error e =>
          rw [Run.bind_of_error hc]
          exact .raises ((h n _).mpr rfl) hc
        | ok c =>
          rw [Run.bind_of_ok hc]
          exact .node ((h n _).mpr rfl) hc ((ih _).mpr rfl)

/-- A node has one derivation, of what `visitAt` computes. -/
theorem enters_iff {depth : Nat} (h : depth ≤ r.maxDepth) (n : Node) (y : Run (Option Child)) :
    Enters context r depth n y ↔ y = visitAt context r depth n := by
  -- the induction is on the room that is left: children are reached at greater depths
  induction hroom : r.maxDepth - depth using Nat.strongRecOn generalizing depth n y with
  | _ room ih =>
    have hchildren : ∀ {e m}, (place context r depth n).result = .ok (.settled e m) → ∀ ys,
        Passes context r (e + 1) m.children ys ↔
          ys = resolveList (visitAt context r (e + 1)) m.children := by
      intro e m hm
      obtain ⟨hle, hlt, -⟩ := place_settled context r h hm
      exact passes_iff context r (fun n y => ih _ (by omega) (by omega) n y rfl) m.children
    rw [visitAt_eq_place context r h]
    constructor
    · intro hy
      cases hy with
      | raises hx he =>
        rw [(loops_iff context r h n _).mp hx] at he ⊢
        rw [Run.bind_of_error he]
      | ends hx hc =>
        rw [(loops_iff context r h n _).mp hx] at hc ⊢
        rw [Run.bind_of_ok hc, finishPlace, Run.pure, Report.append_empty]
      | stops hx hm =>
        rw [(loops_iff context r h n _).mp hx] at hm ⊢
        rw [Run.bind_of_ok hm, finishPlace, Run.pure, Report.append_empty]
      | settles hx hm hys =>
        rw [(loops_iff context r h n _).mp hx] at hm ⊢
        rw [Run.bind_of_ok hm, finishPlace, descend_eq, (hchildren hm _).mp hys]
        rfl
    · rintro rfl
      have hx := (loops_iff context r h n _).mpr rfl
      cases hz : (place context r depth n).result with
      | error e =>
        rw [Run.bind_of_error hz]
        exact .raises hx hz
      | ok z =>
        cases z with
        | settled e m =>
          rw [Run.bind_of_ok hz, finishPlace, descend_eq]
          exact .settles hx hz ((hchildren hz _).mpr rfl)
        | ended c =>
          rw [Run.bind_of_ok hz, finishPlace, Run.pure, Report.append_empty]
          exact .ends hx hz
        | exceeded m =>
          rw [Run.bind_of_ok hz, finishPlace, Run.pure, Report.append_empty]
          exact .stops hx hz

/-- What `resolveTree` computes, by the form of the root. -/
lemma resolveTree_eq (root : Value) :
    r.resolveTree context root =
      match rootOf root with
      | .error e => ⟨Report.empty, .error e⟩
      | .ok (.text s) =>
        ⟨Report.counting { Counters.zero with texts := 1 }, .ok (some (.text s))⟩
      | .ok (.node n) => visitAt context r 0 n := by
  rw [resolveTree, Run.bind_eq]
  cases h : rootOf root with
  | error e => rw [Run.bind_of_error rfl]; rfl
  | ok c =>
    rw [Run.bind_of_ok rfl]
    cases c with
    | text s => exact congrArg (Run.mk · _) (Report.empty_append _)
    | node n => exact congrArg (Run.mk · _) (Report.empty_append _)

/-- The first of several trees is resolved, and then the others are. -/
lemma resolveTrees_cons (root : Value) (roots : List Value) :
    r.resolveTrees context (root :: roots) =
      (r.resolveTree context root).bind fun c => (r.resolveTrees context roots).bind fun cs =>
        Run.pure (c.toList ++ cs) := rfl

/-- Every tree has exactly one derivation, of what `resolveTree` computes. -/
theorem resolves_iff (root : Value) (y : Run (Option Child)) :
    Resolves context r root y ↔ y = r.resolveTree context root := by
  rw [resolveTree_eq]
  constructor
  · intro hy
    cases hy with
    | malformed h => rw [h]
    | text h => rw [h]
    | node h hy =>
      rw [h]
      exact (enters_iff context r (Nat.zero_le _) _ _).mp hy
  · rintro rfl
    cases h : rootOf root with
    | error e => exact .malformed h
    | ok c =>
      cases c with
      | text s => exact .text h
      | node n => exact .node h ((enters_iff context r (Nat.zero_le _) _ _).mpr rfl)

/-! ## What holds of every report -/

/-- A property of reports that holds of what every single step of a resolution reports, and of
reports one after the other. -/
structure Composes (P : Report → Prop) : Prop where
  empty : P Report.empty
  append : ∀ a b, P a → P b → P (a.append b)
  visit : P countVisit
  text : P (Report.counting { Counters.zero with texts := 1 })
  turn : ∀ depth n, depth < r.maxDepth → P (r.turn context depth n).report
  stop : ∀ n, P (exceeded r.maxDepth n r.maxDepth)

variable {context r} {P : Report → Prop}

/-- A sequence of computations reports what its parts report. -/
lemma Composes.bind (hP : Composes context r P) {α β : Type} {x : Run α} {f : α → Run β}
    (hx : P x.report) (hf : ∀ a, x.result = .ok a → P (f a).report) : P (x.bind f).report := by
  cases h : x.result with
  | error e =>
    rw [Run.bind_of_error h]
    exact hx
  | ok a =>
    rw [Run.bind_of_ok h]
    exact hP.append _ _ hx (hf a h)

/-- The loop at a place reports what its rounds report. -/
lemma Loops.report (hP : Composes context r P) {depth changes : Nat} {n : Node} {x : Run Ending}
    (h : Loops context r depth changes n x) (hdepth : depth ≤ r.maxDepth) : P x.report := by
  induction h with
  | @stops depth _ n hstop =>
    obtain rfl : depth = r.maxDepth := Nat.le_antisymm hdepth hstop
    exact hP.stop n
  | raises hlt | settles hlt | ends hlt => exact hP.turn _ _ hlt
  | changes hlt _ _ ih =>
    refine hP.append _ _ (hP.turn _ _ hlt) (ih ?_)
    split <;> omega

mutual

/-- A node reports what its place and its children report. -/
theorem Enters.report (hP : Composes context r P) {depth : Nat} {n : Node}
    {y : Run (Option Child)} (h : Enters context r depth n y) (hdepth : depth ≤ r.maxDepth) :
    P y.report := by
  cases h with
  | raises hx | ends hx | stops hx => exact hP.append _ _ hP.visit (hx.report hP hdepth)
  | settles hx hm hys =>
    have hplace := (loops_iff context r hdepth n _).mp hx
    obtain ⟨-, hlt, -⟩ := place_settled context r hdepth (hplace ▸ hm)
    refine hP.append _ _ hP.visit (hP.append _ _ (hx.report hP hdepth) ?_)
    exact hP.bind (hys.report hP hlt) fun cs _ => hP.empty

/-- Children report what each of them reports. -/
theorem Passes.report (hP : Composes context r P) {depth : Nat} {cs : List Child}
    {ys : Run (List Child)} (h : Passes context r depth cs ys) (hdepth : depth ≤ r.maxDepth) :
    P ys.report := by
  cases h with
  | nil => exact hP.empty
  | text hys => exact hP.append _ _ hP.text (hP.bind (hys.report hP hdepth) fun _ _ => hP.empty)
  | node hy hc hys =>
    exact hP.append _ _ (hy.report hP hdepth) (hP.bind (hys.report hP hdepth) fun _ _ => hP.empty)
  | raises hy he => exact hy.report hP hdepth

end

/-- What holds of every step of a resolution holds of the whole report of a tree. -/
theorem Resolves.report (hP : Composes context r P) {root : Value} {y : Run (Option Child)}
    (h : Resolves context r root y) : P y.report := by
  cases h with
  | malformed => exact hP.empty
  | text => exact hP.text
  | node _ hy => exact hy.report hP (Nat.zero_le _)

/-- What holds of every step of a resolution holds of the whole report of several trees. -/
theorem resolveTrees_report (hP : Composes context r P) (roots : List Value) :
    P (r.resolveTrees context roots).report := by
  induction roots with
  | nil => exact hP.empty
  | cons root roots ih =>
    have hroot := ((resolves_iff context r root _).mpr rfl).report hP
    rw [resolveTrees_cons]
    exact hP.bind hroot fun c _ => hP.bind ih fun cs _ => hP.empty

end Resolver

end PageTree
