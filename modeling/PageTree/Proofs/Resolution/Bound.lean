import PageTree.Proofs.Resolution.Rules

/-!
# The depth bound

Every resolution comes to an end within the bound on its depth, whatever the transforms of its
definitions make of the nodes (`resolution_bounded`).

A place entered at a depth below the bound settles normally exactly when the changes of its node are
few enough: the first of them is free, and every other one costs a unit of depth.  A place with too
many changes makes a fixed number of applications and gives the last node back as it stands
(`RunsOut`).  The greatest depth of a whole resolution is the bound exactly when some place ran out
of room.
-/

namespace PageTree

namespace Resolver

variable (context : Context) (r : Resolver)

/-- The loop at a place does not run out of room. -/
def SettlesNormally (depth : Nat) (n : Node) : Prop :=
  ∀ m, (place context r depth n).result ≠ .ok (.exceeded m)

/-- A place is closed with `z` by a round at the node `m` after `k` changes: what is reported for
the place itself counts an application for each change, and one more if `m` has a definition, goes
down to the depth of the last round, and has no problem of depth.  What is left to do is
`finishPlace`, which resolves the children of a final node one below its depth. -/
def ClosesNormally (depth k : Nat) (n m : Node) (z : Except Fault Ending) : Prop :=
  ∃ own : Report,
    visitAt context r depth n = (Run.mk own z).bind (finishPlace context r) ∧
    own.counters.visited = 1 ∧
    own.counters.applied = k + (if (r.registry.get? m.type).isSome then 1 else 0) ∧
    own.counters.exceeded = 0 ∧
    own.counters.deepest = depth + (k - 1) ∧
    ∀ c ∈ own.records, c.kind ≠ .depthExceeded

/-- A place runs out of room: after two applications at its own depth and one at every depth below,
all of which change the node, it gives the last node back with nothing below it visited, and records
one problem of depth, at the bound. -/
def RunsOut (depth : Nat) (n m : Node) : Prop :=
  Changes context r (r.maxDepth - depth + 1) n m ∧
  ∃ own : Report,
    visitAt context r depth n = ⟨own, .ok (some (.node m))⟩ ∧
    own.counters =
      { Counters.zero with
        visited := 1
        applied := r.maxDepth - depth + 1
        exceeded := 1
        deepest := r.maxDepth } ∧
    ∃ stop : Record, own.records.filter (·.kind = .depthExceeded) = [stop] ∧
      stop.nodeType = some m.type ∧ stop.depth = some (r.maxDepth : Int)

/-- A round that closes a place records no problem of depth. -/
lemma turn_records_ne_depthExceeded (depth : Nat) (n : Node) :
    ∀ c ∈ (r.turn context depth n).report.records, c.kind ≠ .depthExceeded := by
  intro c hc hkind
  by_cases h : r.Fails context n
  · obtain ⟨misfits, e, hmisfits, he, -, -, hrecords⟩ := turn_records_of_fails context r h depth
    rw [hrecords] at hc
    rcases List.mem_append.mp hc with hc | hc
    · rw [hmisfits c hc] at hkind
      cases hkind
    · rw [List.mem_singleton.mp hc] at hkind
      rcases he with he | he
      · rw [he] at hkind
        cases hkind
      · rw [he] at hkind
        cases hkind
  · rw [turn_records_of_not_fails context r h depth c hc] at hkind
    cases hkind

/-- A place with room for the round that closes it is closed normally. -/
lemma closesNormally_of_closes {k depth : Nat} {n m : Node} {z : Except Fault Ending}
    (h : Changes context r k n m) (hz : Closes context r (depth + (k - 1)) m z)
    (hroom : depth + (k - 1) < r.maxDepth) : ClosesNormally context r depth k n m z := by
  obtain ⟨earlier, deepest, hearlier, hdeepest, hvisit⟩ := visitAt_of_closes context r h hz hroom
  have hturn := turn_counters context r (round_turn context r (depth + (k - 1)) m)
    (depth + (k - 1))
  have hcounters : (countVisit.append
      (earlier.append (r.turn context (depth + (k - 1)) m).report)).counters =
      countVisit.counters.add ({ Counters.zero with applied := k, deepest := deepest }.add
        (countsOf r m (depth + (k - 1)) (r.turn context (depth + (k - 1)) m).result)) := by
    rw [Report.counters_append, Report.counters_append, hearlier.counters, hturn]
  refine ⟨countVisit.append (earlier.append (r.turn context (depth + (k - 1)) m).report),
    hvisit, ?_, ?_, ?_, ?_, ?_⟩
  · rw [hcounters]
    rfl
  · rw [hcounters]
    exact Nat.zero_add _
  · rw [hcounters]
    rfl
  · rw [hcounters]
    change max 0 (max deepest (depth + (k - 1))) = depth + (k - 1)
    omega
  · intro c hc
    rcases List.mem_append.mp hc with hc | hc
    · cases hc
    rcases List.mem_append.mp hc with hc | hc
    · rw [hearlier.kind c hc]
      simp
    · exact turn_records_ne_depthExceeded context r _ m c hc

/-- A place where the changes do not end early enough runs out of room. -/
lemma runsOut_of_changes {depth : Nat} {n m : Node} (hlt : depth < r.maxDepth)
    (h : Changes context r (r.maxDepth - depth + 1) n m) : RunsOut context r depth n m := by
  obtain ⟨earlier, deepest, hearlier, hdeepest, hplace⟩ := place_of_changes_all context r hlt h
  obtain ⟨stop, hstop, hkind, htype, hdepth⟩ :
      ∃ stop, (exceeded r.maxDepth m r.maxDepth).records = [stop] ∧ stop.kind = .depthExceeded ∧
        stop.nodeType = some m.type ∧ stop.depth = some (r.maxDepth : Int) :=
    ⟨_, rfl, rfl, rfl, rfl⟩
  refine ⟨h, countVisit.append (earlier.append (exceeded r.maxDepth m r.maxDepth)), ?_, ?_,
    stop, ?_, htype, hdepth⟩
  · rw [visitAt_eq_place context r (Nat.le_of_lt hlt), hplace, Run.bind_of_ok rfl, finishPlace,
      Run.pure, Report.append_empty]
    rfl
  · have hmax : max deepest r.maxDepth = r.maxDepth := Nat.max_eq_right hdeepest
    rw [Report.counters_append, Report.counters_append, hearlier.counters]
    simp [countVisit, exceeded, Report.counting, Counters.add, Counters.zero, hmax]
  · have hearly : earlier.records.filter (·.kind = .depthExceeded) = [] := by
      refine List.filter_eq_nil_iff.mpr fun c hc => ?_
      rw [hearlier.kind c hc]
      simp
    have hvisit : countVisit.records = [] := rfl
    rw [Report.records_append, Report.records_append, hvisit, List.nil_append, List.filter_append,
      hearly, hstop, List.nil_append]
    exact List.filter_eq_self.mpr fun c hc => by rw [List.mem_singleton.mp hc, hkind]; rfl

/-- A place does not settle normally exactly when its node is changed too often. -/
lemma not_settlesNormally_iff {depth : Nat} {n : Node} (hlt : depth < r.maxDepth) :
    ¬ SettlesNormally context r depth n ↔
      ∃ m, Changes context r (r.maxDepth - depth + 1) n m := by
  constructor
  · intro h
    rcases place_cases context r hlt n with ⟨k, m, z, hm, hz, hroom⟩ | hm
    · refine absurd (fun p hp => ?_) h
      obtain ⟨earlier, deepest, -, -, hplace⟩ := place_of_closes context r hm hz hroom
      rw [hplace] at hp
      cases hp
      cases hz
    · exact hm
  · rintro ⟨m, hm⟩ h
    obtain ⟨earlier, deepest, -, -, hplace⟩ := place_of_changes_all context r hlt hm
    exact h m (by rw [hplace])

/-- A place settles normally exactly when there is room for the round that closes it. -/
lemma settlesNormally_iff {k depth : Nat} {n m : Node} {z : Except Fault Ending}
    (hlt : depth < r.maxDepth) (h : Changes context r k n m)
    (hz : Closes context r (depth + (k - 1)) m z) :
    SettlesNormally context r depth n ↔ depth + (k - 1) < r.maxDepth := by
  constructor
  · intro hsettles
    refine Nat.lt_of_not_le fun hroom => ?_
    obtain ⟨p, hp⟩ := h.fewer context r (show r.maxDepth - depth + 1 ≤ k by omega)
    exact (not_settlesNormally_iff context r hlt).mpr ⟨p, hp⟩ hsettles
  · intro hroom p hp
    obtain ⟨earlier, deepest, -, -, hplace⟩ := place_of_closes context r h hz hroom
    rw [hplace] at hp
    cases hp
    cases hz

/-- The greatest depth of a report keeps to the bound, and reaches it exactly when a place ran out
of room. -/
def KeepsBound (report : Report) : Prop :=
  report.counters.deepest ≤ r.maxDepth ∧
    (report.counters.deepest = r.maxDepth ↔ 0 < report.counters.exceeded)

/-- Every step of a resolution keeps to the bound. -/
lemma keepsBound_composes (hbound : 1 ≤ r.maxDepth) : Composes context r (KeepsBound r) where
  empty := by
    constructor <;> simp [Report.empty, Counters.zero]; omega
  append a b ha hb := by
    obtain ⟨hle, hiff⟩ := ha
    obtain ⟨hle', hiff'⟩ := hb
    change max a.counters.deepest b.counters.deepest ≤ r.maxDepth ∧
      (max a.counters.deepest b.counters.deepest = r.maxDepth ↔
        0 < a.counters.exceeded + b.counters.exceeded)
    omega
  visit := by
    constructor <;> simp [countVisit, Report.counting, Counters.zero]; omega
  text := by
    constructor <;> simp [Report.counting, Counters.zero]; omega
  turn depth n hlt := by
    unfold KeepsBound
    rw [turn_counters context r (round_turn context r depth n)]
    change depth ≤ r.maxDepth ∧ (depth = r.maxDepth ↔ 0 < 0)
    omega
  stop n := by
    change r.maxDepth ≤ r.maxDepth ∧ (r.maxDepth = r.maxDepth ↔ 0 < 1)
    omega

/-- Every resolution ends, by the rules, in the one result that `resolveTree` computes.  A place
below the bound settles normally exactly when the changes after the first one leave room for the
round that closes it; then its children are resolved one below that round, and otherwise it runs out
of room.  A place at the bound makes no application.  The greatest depth keeps to the bound, and
reaches it exactly when a place ran out of room. -/
theorem resolution_bounded (hbound : 1 ≤ r.maxDepth) :
    (∀ root y, Resolves context r root y ↔ y = r.resolveTree context root) ∧
    (∀ depth n, depth < r.maxDepth →
      (∀ k m z, Changes context r k n m → Closes context r (depth + (k - 1)) m z →
        (SettlesNormally context r depth n ↔ depth + (k - 1) < r.maxDepth) ∧
        (depth + (k - 1) < r.maxDepth → ClosesNormally context r depth k n m z)) ∧
      (¬ SettlesNormally context r depth n ↔
        ∃ m, Changes context r (r.maxDepth - depth + 1) n m) ∧
      (∀ m, Changes context r (r.maxDepth - depth + 1) n m → RunsOut context r depth n m)) ∧
    (∀ n, visitAt context r r.maxDepth n = (r.stop n r.maxDepth).after countVisit) ∧
    (∀ root, KeepsBound r (r.resolveTree context root).report) := by
  refine ⟨resolves_iff context r, ?_, ?_, ?_⟩
  · intro depth n hlt
    refine ⟨fun k m z h hz => ⟨?_, ?_⟩, ?_, fun m => ?_⟩
    · exact settlesNormally_iff context r hlt h hz
    · exact closesNormally_of_closes context r h hz
    · exact not_settlesNormally_iff context r hlt
    · exact runsOut_of_changes context r hlt
  · intro n
    rw [visitAt, Nat.sub_self, visit, Run.bind_eq, Run.tell_bind]
    rfl
  · intro root
    exact ((resolves_iff context r root _).mpr rfl).report (keepsBound_composes context r hbound)

/-- A resolver with one definition, whose transform puts one more text among the children of a
node. -/
def growing : Resolver where
  registry :=
    ⟨[("grow", { Definition.blank "grow" with
      action := some (.run ⟨"grow", "", "", fun n _ _ =>
        .ok (.node (n.withChildren (.text "x" :: n.children)))⟩) })], true⟩
  maxDepth := 2
  traceLevel := .errors
  strict := false

/-- A node of the defined type with a number of texts. -/
def grown (k : Nat) : Node :=
  .mk "grow" [] (List.replicate k (.text "x"))

/-- With a bound of two, a node that is changed for ever is given back after three applications, and
a node without a definition settles at once. -/
theorem resolution_bounded_growing :
    1 ≤ growing.maxDepth ∧
      RunsOut Context.empty growing 0 (grown 0) (grown 3) ∧
      ClosesNormally Context.empty growing 0 0 (.mk "leaf" [] []) (.mk "leaf" [] [])
        (.ok (.settled 0 (.mk "leaf" [] []))) ∧
      KeepsBound growing (growing.resolveTree Context.empty (.node (grown 0))).report := by
  have hbound : 1 ≤ growing.maxDepth := by decide
  obtain ⟨-, hplaces, -, hkeeps⟩ := resolution_bounded Context.empty growing hbound
  have hround :
      ∀ k < 3, growing.Round Context.empty (grown k) (.ok (.changed (grown (k + 1)))) := by
    intro k hk
    refine (turn_result_iff Context.empty growing 0 _ _).mp ?_
    match k, hk with
    | 0, _ => rfl
    | 1, _ => rfl
    | 2, _ => rfl
  have hchanges : Changes Context.empty growing 3 (grown 0) (grown 3) :=
    .more (hround 0 (by decide)) (.more (hround 1 (by decide))
      (.more (hround 2 (by decide)) (.none _)))
  refine ⟨hbound, (hplaces 0 (grown 0) (by decide)).2.2 (grown 3) hchanges, ?_, hkeeps _⟩
  refine ((hplaces 0 _ (by decide)).1 0 _ _ (.none _) (.settled ?_)).2 (by decide)
  exact (turn_result_iff Context.empty growing 0 _ _).mp rfl

end Resolver

end PageTree
