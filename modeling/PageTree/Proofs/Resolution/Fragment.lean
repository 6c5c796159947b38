import PageTree.Proofs.Registry.History
import PageTree.Proofs.Resolution.Depth
import PageTree.Proofs.Wire.Fragment
import PageTree.Proofs.Wire.Same

/-!
# Grouping children into a fragment

Children of a node that no transform replaces can be grouped: a fragment is put in the place of some
of them, and they become its children.  On the wire nothing of that is seen
(`fragments_are_transparent`).

Three things come together.  The children that are grouped are resolved one level deeper, which
shows in the depth of their problems only.  No operation on a registry defines the type of
fragments, so that a fragment passes through.  And rendering puts the children of a fragment in its
place; since a node whose children have all become the same keeps those it had, the two lists of
children that are rendered are not equal to the letter, but the same.
-/

namespace PageTree

namespace Wire

/-- A node that is not rendered has two keys that become one name. -/
lemma exists_collision (path : String) {n : Node} (h : ¬ Every Apart (nodeMappings n)) :
    ∃ k l name place, node path n = .error (.collision k l name place) := by
  cases hn : node path n with
  | ok w => exact absurd ((node_eq_ok_iff path n w).mp hn).1 h
  | error e =>
    rw [node_eq, settle_eq_error_iff] at hn
    obtain ⟨-, s, -, -, hfault, -⟩ := hn
    obtain ⟨l, -, -, rfl⟩ := Site.exists_of_fault? hfault
    exact ⟨l, s.key, _, _, rfl⟩

/-- Two nodes are rendered alike: both have a wire form, of the same type and configuration and with
children that are the same, or both have two keys that become one name. -/
inductive RenderedAlike (n m : Node) : Prop where
  | rendered {w v : Node} (hn : node rootPath n = .ok w) (hm : node rootPath m = .ok v)
    (type : w.type = v.type) (config : w.config = v.config)
    (children : Child.sameAll w.children v.children = true)
  | refused {k l name k' l' name' : Key} {place place' : String}
    (hn : node rootPath n = .error (.collision k l name place))
    (hm : node rootPath m = .error (.collision k' l' name' place'))

/-- Children that are the same are all rendered or none of them is. -/
lemma every_apart_iff {cs ds : List Child} (h : canonicalChildren cs = canonicalChildren ds) :
    Every Apart (childMappings cs) ↔ Every Apart (childMappings ds) :=
  ⟨fun hcs => (children_same cs ds h hcs).1, fun hds => (children_same ds cs h.symm hds).1⟩

/-- Nodes of one type and configuration are rendered alike if the children of the second one are the
same as those of the first one, but for some of them that stand in a fragment. -/
lemma renderedAlike_of_fragment (type : String) (config fragment : Entries)
    {cs ds before ks group after : List Child}
    (hcs : Child.sameAll cs (before ++ group ++ after) = true)
    (hds : Child.sameAll ds (before ++ .node (.mk "" fragment ks) :: after) = true)
    (hks : Child.sameAll ks group = true) :
    RenderedAlike (.mk type config cs) (.mk type config ds) := by
  unfold Child.sameAll at hcs hds hks
  rw [Child.agreeAll_iff] at hcs hds hks
  -- the children with the fragment taken apart
  have hspliced : canonicalChildren cs = canonicalChildren (before ++ ks ++ after) := by
    simp only [hcs, canonicalChildren_append, hks]
  have hmappings : childMappings (before ++ .node (.mk "" fragment ks) :: after) =
      childMappings (before ++ ks ++ after) := by
    rw [childMappings_append, childMappings_fragment, List.append_assoc,
      childMappings_append before]
  have hforms : formChildren (before ++ .node (.mk "" fragment ks) :: after) =
      formChildren (before ++ ks ++ after) := by
    rw [formChildren_append, formChildren_fragment, List.append_assoc, formChildren_append before]
  have hreached : Every Apart (nodeMappings (.mk type config cs)) ↔
      Every Apart (nodeMappings (.mk type config ds)) := by
    rw [nodeMappings, nodeMappings, every_cons, every_cons, every_append, every_append,
      every_apart_iff hspliced, ← hmappings, every_apart_iff hds]
  by_cases hcs' : Every Apart (nodeMappings (.mk type config cs))
  · have hds' := hreached.mp hcs'
    refine .rendered ((node_eq_ok_iff _ _ _).mpr ⟨hcs', rfl⟩)
      ((node_eq_ok_iff _ _ _).mpr ⟨hds', rfl⟩) rfl rfl ?_
    rw [nodeMappings, every_cons, every_append] at hcs' hds'
    have hform := (children_same cs _ hspliced hcs'.2.2).2
    have hform' := (children_same ds _ hds hds'.2.2).2
    exact (Child.agreeAll_iff _ _).mpr (hform.trans ((congrArg _ hforms).symm.trans hform'.symm))
  · obtain ⟨k, l, name, place, hn⟩ := exists_collision rootPath hcs'
    obtain ⟨k', l', name', place', hm⟩ :=
      exists_collision rootPath fun h => hcs' (hreached.mpr h)
    exact .refused hn hm

end Wire

/-- A sequence that ends with its result is the computation itself. -/
lemma Run.bind_pure {α : Type} (x : Run α) : x.bind Run.pure = x := by
  cases hx : x.result with
  | error e =>
    rw [Run.bind_of_error hx, ← hx]
  | ok a =>
    rw [Run.bind_of_ok hx, Run.pure, Report.append_empty, ← hx]

namespace Resolver

/-- Children are resolved in two parts. -/
lemma resolveList_append (visit : Node → Run (Option Child)) (cs ds : List Child) :
    resolveList visit (cs ++ ds) =
      (resolveList visit cs).bind fun xs => (resolveList visit ds).bind fun ys =>
        Run.pure (xs ++ ys) := by
  induction cs with
  | nil =>
    have hnil : (fun ys : List Child => Run.pure ([] ++ ys)) = Run.pure := rfl
    rw [List.nil_append, resolveList, Run.pure_bind, hnil, Run.bind_pure]
  | cons c cs ih =>
    rw [List.cons_append, resolveList_cons, resolveList_cons, ih, Run.bind_assoc]
    simp only [Run.bind_assoc, Run.pure_bind, List.append_assoc]

variable (context : Context) (r : Resolver)

/-- The definition of a type, if there is one, has no transform. -/
def Inert (type : String) : Prop :=
  ∀ d, r.registry.get? type = some d → d.action = none

/-- A node that no transform replaces is given its resolved children.  What else becomes of it, and
what is reported of it, does not depend on the children, and it has no problem itself. -/
lemma visitAt_inert {type : String} (hinert : Inert r type) (config : Entries) {depth : Nat}
    (hlt : depth < r.maxDepth) :
    ∃ config' report, report.records = [] ∧ ∀ cs,
      visitAt context r depth (.mk type config cs) =
        ((resolveList (visitAt context r (depth + 1)) cs).bind fun rs =>
          Run.pure (some (.node (rebuild (.mk type config' cs) rs)))).after report := by
  have hvisit : ∀ {n m : Node}, r.Round context n (.ok (.settled m)) →
      visitAt context r depth n =
        ((resolveList (visitAt context r (depth + 1)) m.children).bind fun rs =>
          Run.pure (some (.node (rebuild m rs)))).after
            (countVisit.append (r.turn context depth n).report) := by
    intro n m h
    rw [visitAt_eq_place context r (Nat.le_of_lt hlt), place_of_settled context r hlt h,
      Run.bind_of_ok rfl, finishPlace, descend_eq, ← Run.after_after]
    rfl
  cases hd : r.registry.get? type with
  | none =>
    have hd' : ∀ cs, r.registry.get? (Node.mk type config cs).type = none := fun _ => hd
    refine ⟨config, countVisit.append (r.turn context depth (.mk type config [])).report, ?_,
      fun cs => ?_⟩
    · rw [turn_undefined context r (hd' [])]
      rfl
    · rw [hvisit (.undefined (hd' cs)), turn_undefined context r (hd' cs),
        turn_undefined context r (hd' [])]
      rfl
  | some d =>
    have ha := hinert d hd
    refine ⟨Entries.merge d.defaults config, countVisit.append (opening depth), rfl, fun cs => ?_⟩
    have hd' : r.registry.get? (Node.mk type config cs).type = some d := hd
    rw [hvisit (.inert d hd' ha), turn_inert context r hd' ha]
    rfl

/-- A node without empty texts gets children that are the same as the kept results. -/
lemma sameAll_rebuild {n : Node} (hfull : kept n.children = n.children) (rs : List Child) :
    Child.sameAll (rebuild n rs).children (kept rs) = true := by
  cases hsame : Child.sameAll rs n.children with
  | true =>
    have hkept := Child.sameAll_filter (Child.sameAll_symm hsame)
    rw [rebuild_eq, if_pos hsame]
    change Child.sameAll (kept n.children) (kept rs) = true at hkept
    rwa [hfull] at hkept
  | false =>
    rw [rebuild_eq, hsame, if_neg Bool.false_ne_true]
    exact Child.sameAll_refl _

/-- A node is rebuilt with its type and configuration. -/
lemma rebuild_eq_mk (type : String) (config : Entries) (cs rs : List Child) :
    rebuild (.mk type config cs) rs =
      .mk type config (rebuild (.mk type config cs) rs).children := by
  rw [rebuild_eq]
  split <;> rfl

/-- Kept children in two parts. -/
lemma kept_append (cs ds : List Child) : kept (cs ++ ds) = kept cs ++ kept ds :=
  List.filter_append _ _

/-- Children without empty texts are all kept. -/
lemma kept_of_full {cs : List Child} (h : ∀ c ∈ cs, c.isEmpty = false) : kept cs = cs := by
  refine List.filter_eq_self.mpr fun c hc => ?_
  rw [h c hc]
  rfl

/-- The results of some children and the result of the fragment in which they stand. -/
def Stands (fragment : Entries) (gs : List Child) (o : Option Child) : Prop :=
  ∃ ks, o = some (.node (.mk "" fragment ks)) ∧ Child.sameAll ks (kept gs) = true

/-- A fragment that fits becomes one again, and its children become what they become without it. -/
lemma visitAt_fragment (hfree : r.registry.get? "" = none) {depth : Nat} {group : List Child}
    (fragment : Entries) (hfull : kept group = group)
    (hfits : Fits (visitAt context r depth (.mk "" fragment group)).report) :
    ∃ fragment', Echoes (Stands fragment') (resolveList (visitAt context r depth) group)
      (visitAt context r depth (.mk "" fragment group)) := by
  have hinert : Inert r "" := by
    intro d hd
    rw [hfree] at hd
    cases hd
  obtain ⟨fragment', report, hreport, hvisit⟩ :=
    visitAt_inert context r hinert fragment (lt_maxDepth_of_fits context r hfits)
  refine ⟨fragment', ?_⟩
  rw [hvisit] at hfits ⊢
  have hdeeper := resolveList_deeper context r hfits.of_append.2.of_bind
  have hrebuilt : Echoes (Stands fragment')
      ((resolveList (visitAt context r depth) group).bind Run.pure)
      ((resolveList (visitAt context r (depth + 1)) group).bind fun gs =>
        Run.pure (some (.node (rebuild (.mk "" fragment' group) gs)))) := by
    refine hdeeper.bind ?_
    rintro gs _ rfl
    refine echoes_pure ⟨_, ?_, sameAll_rebuild (n := .mk "" fragment' group) hfull gs⟩
    rw [← rebuild_eq_mk]
  rw [Run.bind_pure] at hrebuilt
  refine ⟨hrebuilt.result, ?_⟩
  -- what the fragment itself reports holds no problem
  rw [Run.after_report, Report.records_append, hreport, List.nil_append]
  exact hrebuilt.records

/-- Two lists of results are the same, but some of the first one stand in a fragment in the second
one. -/
def Grouped (fragment : Entries) (flat grouped : List Child) : Prop :=
  ∃ bs gs as ks, flat = bs ++ gs ++ as ∧ grouped = bs ++ .node (.mk "" fragment ks) :: as ∧
    Child.sameAll ks (kept gs) = true

/-- Children of which some stand in a fragment are resolved like those without it. -/
lemma resolveList_grouped (hfree : r.registry.get? "" = none) {depth : Nat}
    {before group after : List Child} (fragment : Entries) (hfull : kept group = group)
    (hfits : Fits (resolveList (visitAt context r depth)
      (before ++ .node (.mk "" fragment group) :: after)).report) :
    ∃ fragment', Echoes (Grouped fragment')
      (resolveList (visitAt context r depth) (before ++ group ++ after))
      (resolveList (visitAt context r depth)
        (before ++ .node (.mk "" fragment group) :: after)) := by
  rw [resolveList_append, resolveList_cons] at hfits
  rw [List.append_assoc, resolveList_append, resolveList_append _ group, resolveList_append,
    resolveList_cons]
  cases hbefore : (resolveList (visitAt context r depth) before).result with
  | error e =>
    rw [Run.bind_of_error hbefore, Run.bind_of_error hbefore]
    exact ⟨fragment, .fault e, forall₂_alike_refl _⟩
  | ok bs =>
    rw [Run.bind_of_ok hbefore] at hfits
    obtain ⟨fragment', hfragment⟩ :=
      visitAt_fragment context r hfree fragment hfull hfits.of_append.2.of_bind.of_bind
    refine ⟨fragment', (echoes_self _).bind ?_⟩
    rintro bs _ rfl
    have hrest : Echoes (fun rest rest' => ∃ gs as ks, rest = gs ++ as ∧
          rest' = .node (.mk "" fragment' ks) :: as ∧ Child.sameAll ks (kept gs) = true)
        ((resolveList (visitAt context r depth) group).bind fun gs =>
          (resolveList (visitAt context r depth) after).bind fun as => Run.pure (gs ++ as))
        ((visitAt context r depth (.mk "" fragment group)).bind fun o =>
          (resolveList (visitAt context r depth) after).bind fun as =>
            Run.pure (o.toList ++ as)) := by
      refine hfragment.bind ?_
      rintro gs o ⟨ks, rfl, hks⟩
      refine (echoes_self _).bind ?_
      rintro as _ rfl
      exact echoes_pure ⟨gs, as, ks, rfl, rfl, hks⟩
    refine hrest.bind ?_
    rintro rest rest' ⟨gs, as, ks, rfl, rfl, hks⟩
    exact echoes_pure ⟨bs, gs, as, ks, (List.append_assoc _ _ _).symm, rfl, hks⟩

/-- Nodes that are rebuilt with results of which some stand in a fragment are rendered alike. -/
lemma renderedAlike_rebuild (type : String) (config : Entries) {fragment : Entries}
    {cs ds flat grouped : List Child} (hcs : kept cs = cs) (hds : kept ds = ds)
    (h : Grouped fragment flat grouped) :
    Wire.RenderedAlike (rebuild (.mk type config cs) flat)
      (rebuild (.mk type config ds) grouped) := by
  obtain ⟨bs, gs, as, ks, rfl, rfl, hks⟩ := h
  have hflat := sameAll_rebuild (n := .mk type config cs) hcs (bs ++ gs ++ as)
  have hgrouped := sameAll_rebuild (n := .mk type config ds) hds
    (bs ++ .node (.mk "" fragment ks) :: as)
  rw [kept_append, kept_append] at hflat
  rw [kept_append] at hgrouped
  rw [rebuild_eq_mk, rebuild_eq_mk _ _ ds]
  exact Wire.renderedAlike_of_fragment type config fragment hflat hgrouped hks

/-- Two results are nodes that are rendered alike. -/
def BothRendered (o o' : Option Child) : Prop :=
  ∃ n m, o = some (.node n) ∧ o' = some (.node m) ∧ Wire.RenderedAlike n m

/-- A node that no transform replaces, and some of whose children stand in a fragment, goes the way
of the node without the fragment. -/
lemma visitAt_grouped (hfree : r.registry.get? "" = none) {type : String} (hinert : Inert r type)
    (config fragment : Entries) {depth : Nat} {before group after : List Child}
    (hfull : ∀ c ∈ before ++ group ++ after, c.isEmpty = false)
    (hfits : Fits (visitAt context r depth
      (.mk type config (before ++ .node (.mk "" fragment group) :: after))).report) :
    Echoes BothRendered (visitAt context r depth (.mk type config (before ++ group ++ after)))
      (visitAt context r depth
        (.mk type config (before ++ .node (.mk "" fragment group) :: after))) := by
  have hflat := kept_of_full hfull
  have hgrouped : kept (before ++ .node (.mk "" fragment group) :: after) =
      before ++ .node (.mk "" fragment group) :: after := by
    refine kept_of_full ?_
    simp only [List.forall_mem_append, List.forall_mem_cons] at hfull ⊢
    exact ⟨hfull.1.1, rfl, hfull.2⟩
  have hgroup : kept group = group := by
    simp only [List.forall_mem_append] at hfull
    exact kept_of_full hfull.1.2
  obtain ⟨config', report, -, hvisit⟩ :=
    visitAt_inert context r hinert config (lt_maxDepth_of_fits context r hfits)
  rw [hvisit] at hfits
  obtain ⟨fragment', hechoes⟩ :=
    resolveList_grouped context r hfree fragment hgroup hfits.of_append.2.of_bind
  rw [hvisit, hvisit]
  refine Echoes.after (hechoes.bind ?_) (forall₂_alike_refl _)
  intro rs rs' h
  exact echoes_pure ⟨_, _, rfl, rfl, renderedAlike_rebuild type config' hflat hgrouped h⟩

/-- Some children of a node that no transform replaces stand in a fragment, or they do not.  As long
as there is room, the node fails in the same way or becomes two nodes that are rendered alike, and
the problems are of the same kinds, at nodes of the same types and with the same messages. -/
theorem fragments_are_transparent [YamlLibrary] (lib : Library)
    (hreachable : r.registry.Reachable lib) (type : String) (hinert : Inert r type)
    (config fragment : Entries) (before group after : List Child)
    (hfull : ∀ c ∈ before ++ group ++ after, c.isEmpty = false)
    (hfits : Fits (r.resolveTree context
      (.node (.mk type config (before ++ .node (.mk "" fragment group) :: after)))).report) :
    let flat := r.resolveTree context (.node (.mk type config (before ++ group ++ after)))
    let grouped := r.resolveTree context
      (.node (.mk type config (before ++ .node (.mk "" fragment group) :: after)))
    ((∃ e, flat.result = .error e ∧ grouped.result = .error e) ∨
      ∃ n m, flat.result = .ok (some (.node n)) ∧ grouped.result = .ok (some (.node m)) ∧
        Wire.RenderedAlike n m) ∧
    flat.report.records.map gist = grouped.report.records.map gist := by
  have htree : ∀ n, r.resolveTree context (.node n) = visitAt context r 0 n := fun n =>
    resolveTree_eq context r (.node n)
  rw [htree] at hfits
  simp only [htree]
  have hechoes := visitAt_grouped context r hreachable.get?_empty hinert config fragment hfull hfits
  refine ⟨?_, gist_eq_of_alike hechoes.records hfits⟩
  have hresult := hechoes.result
  generalize (visitAt context r 0 (.mk type config (before ++ group ++ after))).result = x
    at hresult ⊢
  generalize (visitAt context r 0 (.mk type config
    (before ++ .node (.mk "" fragment group) :: after))).result = y at hresult ⊢
  cases hresult with
  | fault e => exact .inl ⟨e, rfl, rfl⟩
  | value h =>
    obtain ⟨n, m, rfl, rfl, halike⟩ := h
    exact .inr ⟨n, m, rfl, rfl, halike⟩

open scoped Standard

/-- A resolver with one definition, whose transform fails. -/
def failing : Resolver where
  registry :=
    (Operation.run .empty [.store "odd" { Definition.blank "odd" with
      action := some (.run ⟨"fail", "", "", fun _ _ _ => .error (.raised "ValueError" "odd")⟩) }]
      Shelf.empty).registry
  maxDepth := 4
  traceLevel := .errors
  strict := false

/-- A page with a node that fails between two texts. -/
def oddPage : Node :=
  .mk "page" [] [.text "a", .node (.mk "odd" [] []), .text "c"]

/-- The page with its node in a fragment. -/
def oddGrouped : Node :=
  .mk "page" [] [.text "a", .node (.mk "" [(.str "key", .int 1)] [.node (.mk "odd" [] [])]),
    .text "c"]

/-- The node of the page fails in the fragment as it does without, and the two pages are rendered
alike. -/
theorem fragments_are_transparent_failing :
    failing.registry.Reachable .empty ∧ Inert failing "page" ∧
    Fits (failing.resolveTree Context.empty (.node oddGrouped)).report ∧
    (failing.resolveTree Context.empty (.node oddPage)).report.records.map gist =
      [(.transformFailed, "odd", some "odd")] ∧
    (failing.resolveTree Context.empty (.node oddGrouped)).report.records.map gist =
      [(.transformFailed, "odd", some "odd")] ∧
    ∃ n m, (failing.resolveTree Context.empty (.node oddPage)).result = .ok (some (.node n)) ∧
      (failing.resolveTree Context.empty (.node oddGrouped)).result = .ok (some (.node m)) ∧
      Wire.RenderedAlike n m := by
  have hreachable : failing.registry.Reachable .empty := ⟨_, rfl⟩
  have hinert : Inert failing "page" := by
    intro d hd
    cases hd
  have hrecords : (failing.resolveTree Context.empty (.node oddGrouped)).report.records.map gist =
      [(.transformFailed, "odd", some "odd")] := rfl
  have hfits : Fits (failing.resolveTree Context.empty (.node oddGrouped)).report := by
    intro c hc
    have hmem := List.mem_map_of_mem (f := gist) hc
    rw [hrecords, List.mem_singleton] at hmem
    have hkind : c.kind = .transformFailed := congrArg Prod.fst hmem
    rw [hkind]
    nofun
  have hfull : ∀ c ∈ [Child.text "a"] ++ [.node (.mk "odd" [] [])] ++ [.text "c"],
      c.isEmpty = false := by decide
  obtain ⟨halike, hgists⟩ := fragments_are_transparent Context.empty failing .empty hreachable
    "page" hinert [] [(.str "key", .int 1)] [.text "a"] [.node (.mk "odd" [] [])] [.text "c"] hfull
    hfits
  refine ⟨hreachable, hinert, hfits, hgists.trans hrecords, hrecords, ?_⟩
  rcases halike with ⟨e, -, he⟩ | hrendered
  · cases he
  · exact hrendered

end Resolver

end PageTree
