import PageTree.Proofs.Resolution.Rules
import PageTree.Proofs.Value.Entries
import PageTree.Proofs.Value.Same

/-!
# Nothing is left unresolved

A node is at rest (`AtRest`) if no further round would change it: its type has no definition, or its
definition only fills in defaults that are there, or the transform gives the node back.

In a run without failures every node of the resulting tree, at every level, has come to rest before
its children were resolved (`Resolved`).  This is the main statement, `resolved_of_clean`.  Nodes of
the result may have been made by transforms at any point of the run, and they may be the nodes from
before the resolution of their children, where these came out the same; therefore `Resolved` is
stated up to sameness, and passes from a node to every node that is the same.
-/

namespace PageTree

namespace Resolver

variable (context : Context) (r : Resolver)

/-- No further round would change a node. -/
inductive AtRest (m : Node) : Prop where
  /-- The type of the node has no definition. -/
  | undefined (h : r.registry.get? m.type = none)
  /-- The definition has no transform, and the node has all its defaults. -/
  | inert (d : Definition) (h : r.registry.get? m.type = some d) (ha : d.action = none)
      (hdefaults : ∀ e ∈ d.defaults, Entries.has m.config e.1 = true)
  /-- The transform gives back the same node. -/
  | stable (d : Definition) (x : Except Fault Value) (m' : Node) (h : r.Transforms context m d x)
      (hx : Makes x m') (hs : m'.same m = true)

/-- A node is what becomes of a node `m` at rest: it is the same as `m` but for its children, and
these are the same as the results of resolving some children `cs` of `m` one below a depth, without
what is dropped and without empty texts. -/
def Resolved (level : Nat) (n : Node) : Prop :=
  ∃ (depth : Nat) (m : Node) (cs : List Child) (os : List (Option Child)),
    level ≤ depth ∧ depth < r.maxDepth ∧ AtRest context r m ∧
    (n.withChildren cs).same m = true ∧
    cs.map (fun c => (resolveChild (visitAt context r (depth + 1)) c).result) =
      os.map Except.ok ∧
    Child.sameAll (kept n.children) (kept (os.flatMap Option.toList)) = true

/-- A node stands a number of levels below another one. -/
inductive Within : Nat → Node → Node → Prop where
  | here (n : Node) : Within 0 n n
  | deeper {level : Nat} {n c p : Node} (hc : Child.node c ∈ n.children) (h : Within level c p) :
      Within (level + 1) n p

/-- A report has no problem that leaves a node unresolved. -/
def Clean (report : Report) : Prop :=
  ∀ c ∈ report.records,
    c.kind ≠ .depthExceeded ∧ c.kind ≠ .transformFailed ∧ c.kind ≠ .invalidResult

/-! ## Sameness -/

/-- Same nodes have same nodes below them. -/
lemma Within.same {level : Nat} {n n' p : Node} (h : Within level n p) (hn : n'.same n = true) :
    ∃ p', Within level n' p' ∧ p'.same p = true := by
  induction h generalizing n' with
  | here n => exact ⟨n', .here n', hn⟩
  | deeper hc _ ih =>
    obtain ⟨c', hc', hsame⟩ := Child.exists_same_of_mem (Node.sameAll_children hn) hc
    obtain ⟨p', hp', hsame'⟩ := ih hsame
    exact ⟨p', .deeper hc' hp', hsame'⟩

/-- What is the same as a resolved node is resolved. -/
lemma Resolved.of_same {level : Nat} {n n' : Node} (h : Resolved context r level n)
    (hn : n.same n' = true) : Resolved context r level n' := by
  obtain ⟨depth, m, cs, os, hlevel, hdepth, hm, hsame, hos, hkept⟩ := h
  refine ⟨depth, m, cs, os, hlevel, hdepth, hm, ?_, hos, ?_⟩
  · exact Node.same_trans (Node.same_withChildren (Node.same_symm hn) cs) hsame
  · have hchildren := Child.sameAll_filter (Node.sameAll_children (Node.same_symm hn))
    exact Child.sameAll_trans hchildren hkept

/-! ## One place -/

/-- The final node of a place where no application failed is the same as a node at rest. -/
lemma exists_atRest_of_round {n m : Node} (h : r.Round context n (.ok (.settled m)))
    (hfails : ¬ r.Fails context n) : ∃ p, AtRest context r p ∧ m.same p = true := by
  cases h with
  | undefined h => exact ⟨n, .undefined h, Node.same_refl n⟩
  | inert d h ha =>
    refine ⟨n.withDefaults d.defaults, .inert d h ha fun e he => ?_, Node.same_refl _⟩
    exact Entries.has_merge (Entries.has_of_mem he) n.config
  | failed d x h hx => exact absurd ⟨d, x, h, hx⟩ hfails
  | kept d x m h hx hs => exact ⟨n, .stable d x m h hx hs, hs⟩

/-- What is left of a clean report is clean. -/
lemma Clean.of_append {a b : Report} (h : Clean (a.append b)) : Clean a ∧ Clean b :=
  ⟨fun c hc => h c (List.mem_append_left _ hc), fun c hc => h c (List.mem_append_right _ hc)⟩

/-- Reports that are clean together are clean. -/
lemma Clean.of_concat {rs : List Report} (h : Clean (Report.concat rs)) : ∀ a ∈ rs, Clean a := by
  induction rs with
  | nil =>
    intro a ha
    cases ha
  | cons b rs ih =>
    obtain ⟨hb, hrs⟩ := Clean.of_append h
    intro a ha
    rcases List.mem_cons.mp ha with rfl | ha
    · exact hb
    · exact ih hrs a ha

/-- A node without room leaves a problem behind. -/
lemma not_clean_exceeded (n : Node) (depth : Nat) : ¬ Clean (exceeded r.maxDepth n depth) := by
  intro h
  exact (h _ List.mem_cons_self).1 rfl

/-- A round without a problem is none at which the application fails. -/
lemma not_fails_of_clean {depth : Nat} {n : Node}
    (h : Clean (r.turn context depth n).report) : ¬ r.Fails context n := by
  intro hfails
  obtain ⟨misfits, e, -, he, -, -, hrecords⟩ := turn_records_of_fails context r hfails depth
  have hmem : e ∈ (r.turn context depth n).report.records := by
    rw [hrecords]
    exact List.mem_append_right _ List.mem_cons_self
  rcases he with he | he
  · exact (h e hmem).2.1 he
  · exact (h e hmem).2.2 he

/-- A place that becomes a node without a problem ends in a final node, which has come to rest. -/
lemma place_of_clean {depth : Nat} {n t : Node} (hdepth : depth ≤ r.maxDepth)
    (h : (visitAt context r depth n).result = .ok (some (.node t)))
    (hclean : Clean (visitAt context r depth n).report) :
    ∃ e m p, depth ≤ e ∧ e < r.maxDepth ∧
      (place context r depth n).result = .ok (.settled e m) ∧ AtRest context r p ∧
      m.same p = true := by
  rw [visitAt_eq_place context r hdepth] at h hclean
  obtain ⟨-, hclean⟩ := Clean.of_append hclean
  rcases Nat.lt_or_eq_of_le hdepth with hlt | rfl
  · rcases place_cases context r hlt n with ⟨k, p, z, hp, hz, hroom⟩ | ⟨p, hp⟩
    · obtain ⟨earlier, deepest, -, -, hplace⟩ := place_of_closes context r hp hz hroom
      rw [hplace] at h hclean ⊢
      cases hz with
      | fault => cases h
      | ended hround =>
        rw [Run.after_result, Run.bind_of_ok rfl, finishPlace] at h
        cases h
        cases hround
      | @settled m hround =>
        rw [Run.bind_of_ok rfl] at hclean
        have hturn := (Clean.of_append (Clean.of_append hclean).1).2
        obtain ⟨q, hq, hsame⟩ :=
          exists_atRest_of_round context r hround (not_fails_of_clean context r hturn)
        exact ⟨depth + (k - 1), m, q, Nat.le_add_right _ _, hroom, rfl, hq, hsame⟩
    · obtain ⟨earlier, deepest, -, -, hplace⟩ := place_of_changes_all context r hlt hp
      rw [hplace, Run.bind_of_ok rfl] at hclean
      exact absurd (Clean.of_append (Clean.of_append hclean).1).2 (not_clean_exceeded r _ _)
  · rw [place_maxDepth, Run.bind_of_ok rfl] at hclean
    exact absurd (Clean.of_append hclean).1 (not_clean_exceeded r _ _)

/-- What becomes of a final node that has come to rest is resolved. -/
lemma resolved_rebuild {e level : Nat} {m p : Node} {os : List (Option Child)} (hlevel : level ≤ e)
    (he : e < r.maxDepth) (hp : AtRest context r p) (hsame : m.same p = true)
    (hos : m.children.map (fun c => (resolveChild (visitAt context r (e + 1)) c).result) =
      os.map Except.ok) :
    Resolved context r level (rebuild m (os.flatMap Option.toList)) := by
  refine ⟨e, p, m.children, os, hlevel, he, hp, ?_, hos, ?_⟩
  · rw [rebuild_eq]
    split
    · rw [Node.withChildren_children]
      exact hsame
    · rw [Node.withChildren_withChildren, Node.withChildren_children]
      exact hsame
  · rw [rebuild_eq]
    split
    · rename_i hchildren
      exact Child.sameAll_filter (Child.sameAll_symm hchildren)
    · rw [Node.withChildren, Node.children, kept_kept, Child.sameAll_refl]

/-- A node below what becomes of a final node is the same as one below the result of a child. -/
lemma exists_within_of_rebuild {level : Nat} {m c p : Node} {cs : List Child}
    (hc : Child.node c ∈ (rebuild m cs).children) (hp : Within level c p) :
    ∃ c' p', Child.node c' ∈ cs ∧ Within level c' p' ∧ p'.same p = true := by
  unfold rebuild at hc
  split at hc
  · rename_i hchildren
    obtain ⟨c', hc', hsame⟩ := Child.exists_same_of_mem hchildren hc
    obtain ⟨p', hp', hsame'⟩ := hp.same hsame
    exact ⟨c', p', hc', hp', hsame'⟩
  · exact ⟨c, p, (List.mem_filter.mp hc).1, hp, Node.same_refl p⟩

/-- A node among the results of children is the result of one of them. -/
lemma exists_child_of_result {visit : Node → Run (Option Child)} {cs : List Child}
    {os : List (Option Child)} {c : Node}
    (h : cs.map (fun c => (resolveChild visit c).result) = os.map Except.ok)
    (hc : Child.node c ∈ os.flatMap Option.toList) :
    ∃ n, Child.node n ∈ cs ∧ (visit n).result = .ok (some (.node c)) := by
  obtain ⟨o, ho, hmem⟩ := List.mem_flatMap.mp hc
  obtain rfl : o = some (.node c) := by
    cases o with
    | none => cases hmem
    | some d => rw [List.mem_singleton.mp hmem]
  have hresult : Except.ok (some (Child.node c)) ∈
      cs.map fun c => (resolveChild visit c).result := by
    rw [h]
    exact List.mem_map_of_mem ho
  obtain ⟨d, hd, hresult⟩ := List.mem_map.mp hresult
  cases d with
  | text s => cases hresult
  | node n => exact ⟨n, hd, hresult⟩

/-! ## Whole trees -/

/-- A node that becomes a node without a problem comes to rest, and is given the results of its
children, which have no problem either. -/
lemma visitAt_of_clean {depth : Nat} {n t : Node} (hdepth : depth ≤ r.maxDepth)
    (h : (visitAt context r depth n).result = .ok (some (.node t)))
    (hclean : Clean (visitAt context r depth n).report) :
    ∃ (e : Nat) (m p : Node) (os : List (Option Child)),
      depth ≤ e ∧ e < r.maxDepth ∧ AtRest context r p ∧ m.same p = true ∧
      m.children.map (fun c => (resolveChild (visitAt context r (e + 1)) c).result) =
        os.map Except.ok ∧
      t = rebuild m (os.flatMap Option.toList) ∧
      ∀ c ∈ m.children, Clean (resolveChild (visitAt context r (e + 1)) c).report := by
  obtain ⟨e, m, p, hle, hlt, hm, hp, hsame⟩ := place_of_clean context r hdepth h hclean
  rw [visitAt_eq_place context r hdepth, Run.bind_of_ok hm, finishPlace] at h hclean
  obtain ⟨os, hos, ht⟩ := results_of_descend _ h
  cases ht
  refine ⟨e, m, p, os, hle, hlt, hp, hsame, hos, rfl, fun c hc => ?_⟩
  rw [descend_of_results _ hos] at hclean
  exact Clean.of_concat (Clean.of_append (Clean.of_append hclean).2).2 _ (List.mem_map_of_mem hc)

/-- Below a node that becomes a node without a problem everything is resolved. -/
lemma resolved_of_visitAt {depth level : Nat} {n t p : Node} (hdepth : depth ≤ r.maxDepth)
    (h : (visitAt context r depth n).result = .ok (some (.node t)))
    (hclean : Clean (visitAt context r depth n).report) (hp : Within level t p) :
    Resolved context r (depth + level) p := by
  -- every level below is reached at a depth that has grown by one at least
  induction level generalizing depth n t p with
  | zero =>
    obtain ⟨e, m, q, os, hle, hlt, hq, hsame, hos, rfl, -⟩ :=
      visitAt_of_clean context r hdepth h hclean
    cases hp
    exact resolved_rebuild context r hle hlt hq hsame hos
  | succ level ih =>
    obtain ⟨e, m, q, os, hle, hlt, -, -, hos, rfl, hchildren⟩ :=
      visitAt_of_clean context r hdepth h hclean
    cases hp with
    | deeper hc hp =>
      obtain ⟨c', p', hc', hp', hsame'⟩ := exists_within_of_rebuild hc hp
      obtain ⟨n', hn', hresult⟩ := exists_child_of_result hos hc'
      have hresolved := ih hlt hresult (hchildren _ hn') hp'
      obtain ⟨depth', m', cs', os', hdepth', rest⟩ := hresolved.of_same context r hsame'
      exact ⟨depth', m', cs', os', by omega, rest⟩

/-- In the result of a run without failures nothing is left unresolved: every node, at every level,
is what becomes of a node at rest when its children are resolved one level deeper. -/
theorem resolved_of_clean (root : Value) (t : Node)
    (h : (r.resolveTree context root).result = .ok (some (.node t)))
    (hclean : Clean (r.resolveTree context root).report) {level : Nat} {n : Node}
    (hn : Within level t n) : Resolved context r level n := by
  rw [resolveTree_eq] at h hclean
  cases hroot : rootOf root with
  | error e =>
    rw [hroot] at h
    cases h
  | ok c =>
    rw [hroot] at h hclean
    cases c with
    | text s => cases h
    | node m =>
      have hresolved := resolved_of_visitAt context r (Nat.zero_le _) h hclean hn
      rwa [Nat.zero_add] at hresolved

/-- A resolver that gives one type another name, and fills in a default for that name. -/
def aliasing : Resolver where
  registry :=
    ⟨[("old", { Definition.blank "old" with
        action := some (.run ⟨"rename", "", "", fun n _ _ => .ok (.node (n.withType "new"))⟩) }),
      ("new", { Definition.blank "new" with defaults := [(.str "size", .int 1)] })], true⟩
  maxDepth := 2
  traceLevel := .errors
  strict := false

/-- A tree with a node of the old type. -/
def aliased : Node :=
  .mk "box" [] [.node (.mk "old" [] [.text "a"]), .text "b"]

/-- The node that the one of the old type becomes. -/
def unaliased : Node :=
  .mk "new" [(.str "size", .int 1)] [.text "a"]

/-- A node of the old type becomes one of the new type with its default, and is resolved. -/
theorem resolved_of_clean_aliased :
    (aliasing.resolveTree Context.empty (.node aliased)).result =
        .ok (some (.node (.mk "box" [] [.node unaliased, .text "b"]))) ∧
      Clean (aliasing.resolveTree Context.empty (.node aliased)).report ∧
      Within 1 (.mk "box" [] [.node unaliased, .text "b"]) unaliased ∧
      Resolved Context.empty aliasing 1 unaliased := by
  have hresult : (aliasing.resolveTree Context.empty (.node aliased)).result =
      .ok (some (.node (.mk "box" [] [.node unaliased, .text "b"]))) := rfl
  have hrecords : (aliasing.resolveTree Context.empty (.node aliased)).report.records = [] := rfl
  have hclean : Clean (aliasing.resolveTree Context.empty (.node aliased)).report := by
    intro c hc
    rw [hrecords] at hc
    cases hc
  have hwithin : Within 1 (.mk "box" [] [.node unaliased, .text "b"]) unaliased :=
    .deeper List.mem_cons_self (.here unaliased)
  exact ⟨hresult, hclean, hwithin,
    resolved_of_clean Context.empty aliasing (.node aliased) _ hresult hclean hwithin⟩

end Resolver

end PageTree
