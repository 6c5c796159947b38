import PageTree.Proofs.Node.Measure
import PageTree.Proofs.Resolution.Settled
import PageTree.Proofs.Value.Mapping

/-!
# Settled trees

A node stays (`Stays`) if the first round at it gives it back: its type has no definition, its
definition only has defaults that are there, or its transform gives a same node.  A tree is fixed
(`Fixed`) if its root stays, and all the children of what the root is given back as are fixed as
well.

Resolving a fixed tree gives a same tree, without a problem, and counts every node once
(`resolution_of_fixed`).  The children that count are those that the transform gives back: a
transform may list the keys of a mapping in another order, say, or put `true` in the place of `1`,
which leaves the node the same, and a definition below can tell the difference.  So it is not enough
that every node of the tree itself stays (`resolution_of_staying_nodes_moves`).
-/

namespace PageTree

namespace Resolver

variable (context : Context) (r : Resolver)

/-- What the context holds for a requirement, if it holds anything, fits the type that is asked
for. -/
def Fitting (q : Requirement) : Prop :=
  ∀ key v, q.source.toKey = .ok key → context.get? key = some v → v ≠ .null →
    ∃ w, TypeTag.coerceTo q.type v = .ok (.ok w)

/-- The first round at a node gives it back as `m`, which is the same. -/
inductive Stays (n : Node) : Node → Prop where
  /-- The type of the node has no definition. -/
  | undefined (h : r.registry.get? n.type = none) : Stays n n
  /-- The definition has no transform, and the node has all its defaults.  Both are mappings, which
  list each key once. -/
  | inert (d : Definition) (h : r.registry.get? n.type = some d) (ha : d.action = none)
      (hdefaults : Entries.Distinct d.defaults) (hconfig : Entries.Distinct n.config)
      (hall : ∀ e ∈ d.defaults, Entries.has n.config e.1 = true) :
      Stays n (n.withDefaults d.defaults)
  /-- The transform gives back a same node, and its data fit. -/
  | stable (d : Definition) (x : Except Fault Value) (m : Node) (h : r.Transforms context n d x)
      (hx : Makes x m) (hs : m.same n = true)
      (hfit : ∀ e ∈ d.requirements, Fitting context e.2) : Stays n m

/-- A tree in which every node stays, from the root down: below a node these are the children that
the round at it gives back. -/
inductive Fixed : Node → Prop where
  | mk {n m : Node} (h : Stays context r n m) (hbelow : ∀ c, Child.node c ∈ m.children → Fixed c) :
      Fixed n

/-! ## Computations without problems -/

/-- A computation gives a result with a property, has no problem, and counts this. -/
def Quiet {α : Type} (x : Run α) (P : α → Prop) (c : Counters) : Prop :=
  ∃ a, x.result = .ok a ∧ P a ∧ x.report.records = [] ∧ x.report.counters = c

/-- Sequences of computations without problems have no problems, and their counts are added. -/
lemma Quiet.bind {α β : Type} {x : Run α} {f : α → Run β} {P : α → Prop} {Q : β → Prop}
    {c c' : Counters} (hx : Quiet x P c) (hf : ∀ a, P a → Quiet (f a) Q c') :
    Quiet (x.bind f) Q (c.add c') := by
  obtain ⟨a, ha, hP, hrecords, hcounters⟩ := hx
  obtain ⟨b, hb, hQ, hrecords', hcounters'⟩ := hf a hP
  rw [Run.bind_of_ok ha]
  refine ⟨b, hb, hQ, ?_, ?_⟩
  · rw [Report.records_append, hrecords, hrecords', List.append_nil]
  · rw [Report.counters_append, hcounters, hcounters']

/-- A result by itself has no problem and counts nothing. -/
lemma quiet_pure {α : Type} {P : α → Prop} {a : α} (h : P a) :
    Quiet (Run.pure a) P Counters.zero :=
  ⟨a, rfl, h, rfl, rfl⟩

/-- A sequence of computations that record no problems records none. -/
lemma records_bind {α β : Type} {x : Run α} {f : α → Run β} (hx : x.report.records = [])
    (hf : ∀ a, x.result = .ok a → (f a).report.records = []) : (x.bind f).report.records = [] := by
  cases h : x.result with
  | error e =>
    rw [Run.bind_of_error h]
    exact hx
  | ok a =>
    rw [Run.bind_of_ok h, Report.records_append, hx, hf a h, List.nil_append]

/-! ## One round -/

/-- Data that fit are selected without a problem. -/
lemma selectOne_records {q : Requirement} (h : Fitting context q) (n : Node) (depth : Nat)
    (name : Key) : (selectOne context n depth name q).report.records = [] := by
  unfold selectOne
  refine records_bind rfl fun key hkey => ?_
  split
  · split <;> rfl
  · rename_i hnull
    refine records_bind rfl fun c hc => ?_
    cases hv : context.get? key with
    | none =>
      rw [hv] at hnull
      exact absurd rfl hnull
    | some v =>
      rw [hv] at hnull hc
      obtain ⟨w, hw⟩ := h key v hkey hv hnull
      cases hw.symm.trans hc
      rfl

/-- Data that all fit are selected without a problem. -/
lemma select_records {requirements : List (Key × Requirement)}
    (h : ∀ e ∈ requirements, Fitting context e.2) (n : Node) (depth : Nat) :
    (select context n depth requirements).report.records = [] := by
  induction requirements with
  | nil => rfl
  | cons e rest ih =>
    obtain ⟨name, q⟩ := e
    refine records_bind (selectOne_records context (h _ List.mem_cons_self) n depth name) ?_
    intro v _
    exact records_bind (ih fun e he => h e (List.mem_cons_of_mem _ he)) fun vs _ => rfl

variable {context r}

/-- A node that stays comes out of a round as a final node. -/
lemma Stays.round {n m : Node} (h : Stays context r n m) :
    r.Round context n (.ok (.settled m)) := by
  cases h with
  | undefined h => exact .undefined h
  | inert d h ha => exact .inert d h ha
  | stable d x m h hx hs => exact .kept d x m h hx hs

/-- A node that stays is given back the same. -/
lemma Stays.same {n m : Node} (h : Stays context r n m) : m.same n = true := by
  cases h with
  | undefined h => exact Node.same_refl n
  | inert d h ha hdefaults hconfig hall =>
    refine (Node.agree_iff _ _).mpr ?_
    rw [Node.canonical_eq, Node.canonical_eq, Node.withDefaults, Node.type, Node.config,
      Node.children, canonicalEntries_merge_of_has hdefaults hconfig hall]
  | stable d x m h hx hs => exact hs

/-- A round at a node that stays has no problem. -/
lemma Stays.records {n m : Node} (h : Stays context r n m) (depth : Nat) :
    (r.turn context depth n).report.records = [] := by
  cases h with
  | undefined h => rw [turn_undefined context r h]; rfl
  | inert d h ha => rw [turn_inert context r h ha]; rfl
  | stable d x m h hx hs hfit =>
    obtain ⟨hd, a, data, ha, hdata, rfl⟩ := h
    obtain ⟨v, hv, hverdict, -, hrecords⟩ := judge_spec (n.withDefaults d.defaults) depth
      data (act context a (n.withDefaults d.defaults) data)
    rw [hverdict.unique (.node m hx)] at hv hrecords
    rw [turn_judges context r hd ha hdata hv, Report.records_append, Report.records_append,
      Report.records_append, select_records context hfit, hrecords, turnOf_records]
    rfl

variable (r)

/-- The counts of a run over nodes with these types, and over these texts, from a depth on and on a
number of levels, in which every node stays. -/
def census (depth : Nat) (types texts : List String) (levels : Nat) : Counters where
  visited := types.length
  applied := types.countP r.registry.has
  passed := types.countP fun t => !(r.registry.has t || t == "")
  texts := texts.length
  dropped := 0
  exceeded := 0
  deepest := if levels = 0 then 0 else depth + (levels - 1)

/-- Counts of runs that start at the same depth are added. -/
lemma census_add (depth : Nat) (ts ts' ss ss' : List String) (k k' : Nat) :
    (census r depth ts ss k).add (census r depth ts' ss' k') =
      census r depth (ts ++ ts') (ss ++ ss') (max k k') := by
  have hdeepest : max (if k = 0 then 0 else depth + (k - 1))
      (if k' = 0 then 0 else depth + (k' - 1)) =
        if max k k' = 0 then 0 else depth + (max k k' - 1) := by
    split <;> split <;> split <;> omega
  simp only [census, Counters.add, List.length_append, List.countP_append, hdeepest, Nat.add_zero]

/-- The counts of children, one after the other. -/
lemma census_children (depth : Nat) (c : Child) (cs : List Child) :
    census r depth (Child.types (c :: cs)) (Child.texts (c :: cs)) (Child.levels (c :: cs)) =
      (census r depth (Child.types [c]) (Child.texts [c]) (Child.levels [c])).add
        (census r depth (Child.types cs) (Child.texts cs) (Child.levels cs)) := by
  rw [census_add, ← Child.types_cons, ← Child.texts_cons, ← Child.levels_cons]

/-- The counts of a node that stays are those of the visit, of its round, and of its children. -/
lemma census_node (depth : Nat) (n m : Node) (ts ss : List String) (k : Nat) :
    countVisit.counters.add ((countsOf r n depth (.ok (.settled m))).add
        (census r (depth + 1) ts ss k)) =
      census r depth (n.type :: ts) ss (k + 1) := by
  have hdeepest : max 0 (max depth (if k = 0 then 0 else depth + 1 + (k - 1))) =
      if k + 1 = 0 then 0 else depth + (k + 1 - 1) := by
    rw [if_neg (Nat.succ_ne_zero k)]
    split <;> omega
  have happlied : (if (r.registry.get? n.type).isSome then 1 else 0) =
      if r.registry.has n.type then 1 else 0 := rfl
  have hpassed : (if (r.registry.get? n.type).isSome || n.type = "" then 0 else 1) =
      if !(r.registry.has n.type || n.type == "") then 1 else 0 := by
    have hnot : ∀ b : Bool, (if b then 0 else 1) = if !b then 1 else 0 := by decide
    exact hnot _
  simp only [census, countsOf, countVisit, Report.counting, Counters.add, Counters.zero, textsOf,
    dropsOf, Report.empty, List.countP_cons, List.length_cons, hdeepest, Counters.mk.injEq]
  rw [happlied, hpassed]
  exact ⟨by omega, by omega, by omega, by omega, trivial, trivial, trivial⟩

variable {r}

/-! ## Whole trees -/

/-- Children that stay are the same after their resolution. -/
lemma resolveList_quiet {depth : Nat} {cs : List Child}
    (h : ∀ c ∈ cs, Quiet (resolveChild (visitAt context r depth) c)
      (fun o => ∃ d, o = some d ∧ Child.agree floatSame d c = true)
      (census r depth (Child.types [c]) (Child.texts [c]) (Child.levels [c]))) :
    Quiet (resolveList (visitAt context r depth) cs) (fun ds => Child.sameAll ds cs = true)
      (census r depth (Child.types cs) (Child.texts cs) (Child.levels cs)) := by
  induction cs with
  | nil => exact quiet_pure rfl
  | cons c cs ih =>
    have hrest := ih fun c hc => h c (List.mem_cons_of_mem _ hc)
    rw [resolveList_cons, census_children]
    refine (h c List.mem_cons_self).bind fun o ⟨d, ho, hd⟩ => ?_
    rw [← Counters.add_zero (census r depth (Child.types cs) _ _)]
    refine hrest.bind fun ds hds => quiet_pure ?_
    rw [ho]
    exact Bool.and_eq_true_iff.mpr ⟨hd, hds⟩

/-- A fixed tree is the same after its resolution, if there is room for all its levels. -/
lemma visitAt_fixed {n : Node} (h : Fixed context r n) (depth : Nat)
    (hroom : depth + n.levels ≤ r.maxDepth) :
    Quiet (visitAt context r depth n) (fun o => ∃ t : Node, o = some (.node t) ∧ t.same n = true)
      (census r depth n.types n.texts n.levels) := by
  -- the induction follows the children that are met, which those of the tree are the same as
  induction h generalizing depth with
  | @mk n m h _ ih =>
    have hsame := Child.sameAll_symm (Node.sameAll_children h.same)
    rw [Node.levels_eq] at hroom
    have htypes : Child.types n.children = Child.types m.children :=
      Child.foldAll_eq_of_same _ _ _ _ _ _ hsame
    have htexts : Child.texts n.children = Child.texts m.children :=
      Child.foldAll_eq_of_same _ _ _ _ _ _ hsame
    have hlevels : Child.levels n.children = Child.levels m.children :=
      Child.foldAll_eq_of_same _ _ _ _ _ _ hsame
    have hlt : depth < r.maxDepth := by omega
    have hvisit : Quiet (Run.tell countVisit) (fun _ => True) countVisit.counters :=
      ⟨(), rfl, trivial, rfl, rfl⟩
    have hplace : Quiet (place context r depth n) (· = .settled depth m)
        (countsOf r n depth (.ok (.settled m))) := by
      rw [place_of_settled context r hlt h.round]
      exact ⟨_, rfl, rfl, h.records depth, turn_counters context r h.round depth⟩
    have hchildren : Quiet (resolveList (visitAt context r (depth + 1)) m.children)
        (fun ds => Child.sameAll ds m.children = true)
        (census r (depth + 1) (Child.types n.children) (Child.texts n.children)
          (Child.levels n.children)) := by
      rw [htypes, htexts, hlevels]
      refine resolveList_quiet fun c hc => ?_
      cases c with
      | text s => exact ⟨_, rfl, ⟨_, rfl, beq_self_eq_true s⟩, rfl, rfl⟩
      | node c =>
        have hle := Child.levels_le_of_mem hc
        obtain ⟨o, ho, ⟨t, rfl, ht⟩, hrecords, hcounters⟩ := ih c hc (depth + 1) (by omega)
        refine ⟨_, ho, ⟨_, rfl, ht⟩, hrecords, ?_⟩
        rw [Child.types_node, Child.texts_node, Child.levels_node]
        exact hcounters
    have htree : visitAt context r depth n = (Run.tell countVisit).bind fun _ =>
        (place context r depth n).bind (finishPlace context r) := by
      rw [visitAt_eq_place context r (Nat.le_of_lt hlt), Run.tell_bind]
      rfl
    rw [htree, Node.types_eq, Node.texts_eq, Node.levels_eq, ← census_node r depth n m]
    refine hvisit.bind fun _ _ => hplace.bind fun z hz => ?_
    rw [hz, finishPlace, descend_eq, ← Counters.add_zero (census r (depth + 1) _ _ _)]
    refine hchildren.bind fun ds hds => quiet_pure ⟨_, rfl, ?_⟩
    rw [rebuild_eq, if_pos hds]
    exact h.same

variable (context r)

/-- Resolving a tree gives a same tree without a problem, and counts each of its nodes and texts
once. -/
def KeepsTree (n : Node) : Prop :=
  ∃ t : Node, (r.resolveTree context (.node n)).result = .ok (some (.node t)) ∧
    t.same n = true ∧
    (r.resolveTree context (.node n)).report.records = [] ∧
    (r.resolveTree context (.node n)).report.counters =
      { visited := n.types.length
        applied := n.types.countP r.registry.has
        passed := n.types.countP fun t => !(r.registry.has t || t == "")
        texts := n.texts.length
        dropped := 0
        exceeded := 0
        deepest := n.height }

/-- A fixed tree whose height is below the bound is kept by its resolution. -/
theorem resolution_of_fixed (n : Node) (h : Fixed context r n) (hroom : n.height < r.maxDepth) :
    KeepsTree context r n := by
  have hlevels := Node.levels_eq n
  have hbound : 0 + n.levels ≤ r.maxDepth := by
    rw [Node.height] at hroom
    omega
  have htree : r.resolveTree context (.node n) = visitAt context r 0 n :=
    resolveTree_eq context r (.node n)
  obtain ⟨o, ho, ⟨t, rfl, ht⟩, hrecords, hcounters⟩ := visitAt_fixed h 0 hbound
  rw [KeepsTree, htree]
  refine ⟨t, ho, ht, hrecords, hcounters.trans ?_⟩
  rw [census, if_neg (by omega), Nat.zero_add]
  rfl

/-- A node that shows a text. -/
def item (s : String) : Child :=
  .node (.mk "item" [(.str "value", .str s)] [])

/-- A node with a mapping of some keys that shows some texts. -/
def listed (keys shown : List String) : Node :=
  .mk "list" [(.str "keys", .map (keys.map fun k => (.str k, .int 1)))] (shown.map item)

/-- A node with another one in it. -/
def paged (n : Node) : Node :=
  .mk "page" [] [.node n]

/-- Shows the keys of the mapping of a node, in their order. -/
def showKeys : Transform where
  name := "list"
  home := ""
  doc := ""
  apply n _ _ :=
    match Entries.lookup n.config "keys" with
    | .map es => .ok (.node (n.withChildren ((Entries.keys es).map fun k => item k.text)))
    | _ => .ok (.node n)

/-- Puts a node with two keys, and these keys shown in alphabetic order, below another one. -/
def listBelow (keys : List String) : Transform where
  name := "page"
  home := ""
  doc := ""
  apply n _ _ := .ok (.node (n.withChildren [.node (listed keys ["a", "b"])]))

/-- A resolver that shows keys below a page, which lists them in an order. -/
def listing (keys : List String) : Resolver where
  registry :=
    ⟨[("page", { Definition.blank "page" with action := some (.run (listBelow keys)) }),
      ("list", { Definition.blank "list" with action := some (.run showKeys) })], true⟩
  maxDepth := defaultDepth
  traceLevel := .errors
  strict := false

/-- A node that shows a text stays. -/
lemma stays_item (keys : List String) (s : String) :
    Stays Context.empty (listing keys) (.mk "item" [(.str "value", .str s)] [])
      (.mk "item" [(.str "value", .str s)] []) :=
  .undefined rfl

/-- A node that shows its keys in their order stays. -/
lemma stays_listed (keys : List String) :
    Stays Context.empty (listing keys) (listed ["a", "b"] ["a", "b"])
      (listed ["a", "b"] ["a", "b"]) :=
  .stable _ _ _ ⟨rfl, _, _, rfl, rfl, rfl⟩ (.node _) (Node.same_refl _) fun _ h => nomatch h

/-- A page that lists the keys in the order in which they are shown is kept by its resolution. -/
theorem resolution_of_fixed_listing :
    Fixed Context.empty (listing ["a", "b"]) (paged (listed ["a", "b"] ["a", "b"])) ∧
      (paged (listed ["a", "b"] ["a", "b"])).height < (listing ["a", "b"]).maxDepth ∧
      KeepsTree Context.empty (listing ["a", "b"]) (paged (listed ["a", "b"] ["a", "b"])) := by
  have hpage : Stays Context.empty (listing ["a", "b"]) (paged (listed ["a", "b"] ["a", "b"]))
      (paged (listed ["a", "b"] ["a", "b"])) :=
    .stable _ _ _ ⟨rfl, _, _, rfl, rfl, rfl⟩ (.node _) (Node.same_refl _) fun _ h => nomatch h
  have hfixed : Fixed Context.empty (listing ["a", "b"])
      (paged (listed ["a", "b"] ["a", "b"])) := by
    refine .mk hpage fun c hc => ?_
    cases List.mem_singleton.mp hc
    refine .mk (stays_listed _) fun c hc => ?_
    obtain ⟨s, -, hs⟩ := List.mem_map.mp hc
    cases hs
    refine .mk (stays_item _ s) fun c hc => nomatch hc
  exact ⟨hfixed, by decide, resolution_of_fixed Context.empty _ _ hfixed (by decide)⟩

/-- A tree below the bound is kept by its resolution as soon as each of its nodes stays. -/
def KeptByNodes : Prop :=
  ∀ n : Node, (∀ level p, Within level n p → ∃ m, Stays context r p m) →
    n.height < r.maxDepth → KeepsTree context r n

/-- A page that lists the same keys in another order stays as a node, and the list below it stays
as well; but the list that the page is given back with shows the keys in the other order. -/
theorem resolution_of_staying_nodes_moves :
    ¬ KeptByNodes Context.empty (listing ["b", "a"]) := by
  have hpage : Stays Context.empty (listing ["b", "a"]) (paged (listed ["a", "b"] ["a", "b"]))
      (paged (listed ["b", "a"] ["a", "b"])) :=
    .stable _ _ _ ⟨rfl, _, _, rfl, rfl, rfl⟩ (.node _) (by decide) fun _ h => nomatch h
  have hresult : ((listing ["b", "a"]).resolveTree Context.empty
      (.node (paged (listed ["a", "b"] ["a", "b"])))).result =
        .ok (some (.node (paged (listed ["b", "a"] ["b", "a"])))) := rfl
  have hstays : ∀ level p, Within level (paged (listed ["a", "b"] ["a", "b"])) p →
      ∃ m, Stays Context.empty (listing ["b", "a"]) p m := by
    intro level p hp
    cases hp with
    | here => exact ⟨_, hpage⟩
    | deeper hc hp =>
      cases List.mem_singleton.mp hc
      cases hp with
      | here => exact ⟨_, stays_listed _⟩
      | deeper hc hp =>
        obtain ⟨s, -, hs⟩ := List.mem_map.mp hc
        cases hs
        cases hp with
        | here => exact ⟨_, stays_item _ s⟩
        | deeper hc => exact nomatch hc
  intro h
  obtain ⟨t, ht, hsame, -⟩ := h (paged (listed ["a", "b"] ["a", "b"])) hstays (by decide)
  cases hresult.symm.trans ht
  exact absurd hsame (by decide)

end Resolver

end PageTree
