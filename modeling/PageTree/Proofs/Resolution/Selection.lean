import PageTree.Proofs.Registry.Declared
import PageTree.Proofs.Resolution.Children
import PageTree.Proofs.Resolution.Round

/-!
# Resolution with accepted declarations

A fault of a transform is recorded and the resolution goes on, but the declared data are selected
outside of that guard.  This module says when selecting can end a resolution, for registries whose
definitions come from accepted declarations (`Registry.Declared`).

The type tags of such definitions are known, so data are fitted to them, and stood in for, without a
fault (`dataFor_of_known`).  What is left is the source of a requirement, which validation does not
look at: as soon as a node needs data, a source that cannot be a key, such as a list, is a fault,
whatever the context holds.  `always_resolves_iff` says that every tree has a resolution in every
context exactly if the definitions with a transform have no such source, and that no other fault
ends a resolution.

The walk over the tree adds no fault of its own: `Run.FaultsIn` says which faults a computation can
end with, and from the rounds it carries over to whole resolutions (`visit_faultsIn`).
-/

namespace PageTree

/-! ## Definitions of accepted declarations -/

namespace Requirement

/-- The type of a requirement is a known tag. -/
def Known (q : Requirement) : Prop :=
  ∃ t, TypeTag.ofValue? q.type = .ok (some t)

/-- A requirement can be looked up in a context. -/
def Sourced (q : Requirement) : Prop :=
  q.source.toKey? ≠ none

/-- A requirement that is declared with a known tag has it. -/
lemma known_of_tagged {name : Key} {spec : Value} {q : Requirement}
    (h : Declaration.Tagged spec) (hq : ofValue name spec = .ok q) : q.Known := by
  obtain ⟨s, t, ht, rfl | ⟨es, rfl, htype⟩⟩ := h
  · cases hq
    exact ⟨t, congrArg Except.ok ht⟩
  · cases hq
    refine ⟨t, ?_⟩
    rw [htype]
    exact congrArg Except.ok ht

/-- Requirements that are declared with known tags have them. -/
lemma known_of_ofEntries {es : Entries} (h : ∀ e ∈ es, Declaration.Tagged e.2)
    {qs : List (Key × Requirement)} (hqs : ofEntries es = .ok qs) : ∀ q ∈ qs, q.2.Known := by
  intro q hq
  obtain ⟨e, he, -, hread⟩ := exists_of_mem_forall₂ (forall₂_ofEntries hqs) hq
  exact known_of_tagged (h e he) hread

end Requirement

namespace Definition

/-- The definition is what some accepted declaration makes. -/
def Declared (d : Definition) : Prop :=
  ∃ lib source name entries findings,
    Declaration.validate (.map entries) = .ok findings ∧ findings.valid = true ∧
      Entries.lookup entries "name" = .str name ∧ ofDeclaration lib source name entries = .ok d

/-- The requirements of an accepted declaration have known tags. -/
lemma Declared.known {d : Definition} (h : d.Declared) : ∀ q ∈ d.requirements, q.2.Known := by
  obtain ⟨lib, source, name, entries, findings, hfindings, hvalid, -, hd⟩ := h
  obtain ⟨es, hes, htagged⟩ := (Declaration.accepted_of_valid hfindings hvalid).requirements
  obtain ⟨action, defaults, requirements, qs, -, -, hrequirements, hqs, rfl⟩ :=
    (ofDeclaration_eq_ok_iff lib source name entries d).mp hd
  rw [mappingEntry, hes, Value.toEntries] at hrequirements
  cases hrequirements
  exact Requirement.known_of_ofEntries htagged hqs

end Definition

namespace Registry

/-- Every definition of a registry is made by an accepted declaration, and stored under a name that
it is given. -/
def Declared (g : Registry) : Prop :=
  ∀ name d, g.get? name = some d → ∃ d' : Definition, d'.Declared ∧ d = { d' with name := name }

/-- The data that the transforms of a registry need can be looked up. -/
def Sourced (g : Registry) : Prop :=
  ∀ name d, g.get? name = some d → d.action ≠ none → ∀ q ∈ d.requirements, q.2.Sourced

/-- A fault of a source that a transform of a registry needs and that cannot be a key. -/
def Unsourced (g : Registry) (e : Fault) : Prop :=
  ∃ name d q, g.get? name = some d ∧ d.action ≠ none ∧ q ∈ d.requirements ∧
    ¬ q.2.Sourced ∧ e = .notKey q.2.source.kind

/-- Where all data can be looked up there is no such fault. -/
lemma Sourced.not_unsourced {g : Registry} (h : g.Sourced) (e : Fault) : ¬ g.Unsourced e := by
  rintro ⟨name, d, q, hd, haction, hq, hsource, -⟩
  exact hsource (h name d hd haction q hq)

/-- The requirements of the definitions in a declared registry have known tags. -/
lemma Declared.known {g : Registry} (h : g.Declared) {name : String} {d : Definition}
    (hd : g.get? name = some d) : ∀ q ∈ d.requirements, q.2.Known := by
  obtain ⟨d', hdeclared, rfl⟩ := h name d hd
  exact hdeclared.known

end Registry

/-! ## The faults of a computation -/

namespace Run

variable {α β : Type}

/-- If a computation fails, it is with one of the given faults. -/
def FaultsIn (P : Fault → Prop) (x : Run α) : Prop :=
  ∀ e, x.result = .error e → P e

variable {P : Fault → Prop}

/-- A computation with a result does not fail. -/
lemma faultsIn_of_ok {x : Run α} {a : α} (h : x.result = .ok a) : x.FaultsIn P := by
  intro e he
  rw [h] at he
  cases he

/-- The faults of a sequence are those of its parts. -/
lemma FaultsIn.bind {x : Run α} {f : α → Run β} (hx : x.FaultsIn P)
    (hf : ∀ a, (f a).FaultsIn P) : (x.bind f).FaultsIn P := by
  intro e he
  cases hresult : x.result with
  | error e' =>
    rw [bind_of_error hresult] at he
    cases he
    exact hx e hresult
  | ok a =>
    rw [bind_of_ok hresult] at he
    exact hf a e he

end Run

namespace Resolver

/-! ## Selecting declared data -/

section Data

variable (context : Context)

/-- A piece of data whose source cannot be a key is a fault in every context. -/
lemma selectOne_of_not_sourced {q : Requirement} (h : ¬ q.Sourced) (n : Node) (depth : Nat)
    (name : Key) : (selectOne context n depth name q).result = .error (.notKey q.source.kind) := by
  have hkey : (Run.lift q.source.toKey).result = .error (.notKey q.source.kind) := by
    unfold Value.toKey
    rw [Classical.not_not.mp h]
    rfl
  unfold selectOne
  rw [Run.bind_eq, Run.bind_of_error hkey]

/-- Data of known types are selected if all their sources can be keys, and the first source that
cannot be one is a fault; what the context holds does not matter. -/
lemma dataFor_of_known {requirements : List (Key × Requirement)}
    (h : ∀ q ∈ requirements, q.2.Known) :
    ((∀ q ∈ requirements, q.2.Sourced) ∧ ∃ data, dataFor context requirements = .ok data) ∨
      ∃ q ∈ requirements, ¬ q.2.Sourced ∧
        dataFor context requirements = .error (.notKey q.2.source.kind) := by
  unfold dataFor
  induction requirements with
  | nil => exact .inl ⟨nofun, [], rfl⟩
  | cons q rest ih =>
    obtain ⟨name, q⟩ := q
    rw [List.forall_mem_cons] at h
    by_cases hsource : q.Sourced
    · obtain ⟨key, hkey⟩ := Option.ne_none_iff_exists'.mp hsource
      obtain ⟨t, ht⟩ := h.1
      obtain ⟨v, hv⟩ := exists_selectOne context ((Value.toKey_eq_ok_iff _ _).mpr hkey) ht default 0
        name
      rw [select, Run.bind_eq, Run.bind_of_ok hv, Run.bind_eq]
      rcases ih h.2 with ⟨hrest, vs, hvs⟩ | ⟨p, hp, hunsourced, hfault⟩
      · rw [Run.bind_of_ok hvs]
        exact .inl ⟨List.forall_mem_cons.mpr ⟨hsource, hrest⟩, _, rfl⟩
      · rw [Run.bind_of_error hfault]
        exact .inr ⟨p, List.mem_cons_of_mem _ hp, hunsourced, rfl⟩
    · refine .inr ⟨(name, q), List.mem_cons_self, hsource, ?_⟩
      rw [select, Run.bind_eq, Run.bind_of_error
        (selectOne_of_not_sourced context hsource default 0 name)]

end Data

/-! ## The faults of a walk -/

section Walk

variable {context : Context} {r : Resolver} {P : Fault → Prop}

/-- Children fail as nodes do. -/
lemma resolveList_faultsIn {visit : Node → Run (Option Child)} (h : ∀ n, (visit n).FaultsIn P)
    (cs : List Child) : (resolveList visit cs).FaultsIn P := by
  induction cs with
  | nil => exact Run.faultsIn_of_ok rfl
  | cons c cs ih =>
    have hchild : (resolveChild visit c).FaultsIn P := by
      cases c with
      | text s => exact Run.faultsIn_of_ok rfl
      | node n => exact h n
    rw [resolveList_cons]
    exact hchild.bind fun o => ih.bind fun rest => Run.faultsIn_of_ok rfl

/-- After a round, a place fails as its children do, or as the changed node does. -/
lemma proceed_faultsIn {visit again : Node → Run (Option Child)} (h : ∀ n, (visit n).FaultsIn P)
    (hagain : ∀ n, (again n).FaultsIn P) (t : Turn) : (proceed visit again t).FaultsIn P := by
  cases t with
  | settled n =>
    rw [proceed, descend_eq]
    exact (resolveList_faultsIn h n.children).bind fun cs => Run.faultsIn_of_ok rfl
  | ended c => exact Run.faultsIn_of_ok rfl
  | changed n => exact hagain n

/-- A walk fails only as its rounds do. -/
lemma visit_faultsIn (hturn : ∀ depth n, (r.turn context depth n).FaultsIn P) (room : Nat) :
    (∀ n, (r.visit context room n).FaultsIn P) ∧ ∀ n, (r.again context room n).FaultsIn P := by
  induction room with
  | zero =>
    constructor
    · intro n
      exact Run.faultsIn_of_ok rfl
    · intro n
      exact Run.faultsIn_of_ok rfl
  | succ room ih =>
    obtain ⟨hvisit, hagain⟩ := ih
    constructor
    · intro n
      have htell : (Run.tell countVisit).FaultsIn P := Run.faultsIn_of_ok rfl
      rw [visit]
      refine htell.bind fun _ => (hturn _ n).bind fun t => ?_
      refine proceed_faultsIn hvisit (fun m => ?_) t
      exact (hturn _ m).bind (proceed_faultsIn hvisit hagain)
    · intro n
      rw [again]
      exact (hturn _ n).bind (proceed_faultsIn hvisit hagain)

end Walk

/-! ## Resolution -/

section Resolution

variable (r : Resolver) (hregistry : r.registry.Declared)

include hregistry

/-- A round fails only for a source that cannot be a key. -/
lemma turn_faultsIn (context : Context) (depth : Nat) (n : Node) :
    (r.turn context depth n).FaultsIn r.registry.Unsourced := by
  intro e he
  have hround := round_turn context r depth n
  rw [he] at hround
  cases hround with
  | starved d a _ hd ha hdata =>
    have haction : d.action ≠ none := by
      rw [ha]
      exact Option.some_ne_none a
    rcases dataFor_of_known context (hregistry.known hd) with
      ⟨-, data, hok⟩ | ⟨q, hq, hsource, hfault⟩
    · rw [hok] at hdata
      cases hdata
    · rw [hfault] at hdata
      cases hdata
      exact ⟨n.type, d, q, hd, haction, hq, hsource, rfl⟩

/-- A node whose definition needs data that cannot be looked up ends every walk that comes to it
with room left. -/
lemma visit_of_not_sourced {d : Definition} {n : Node} (hd : r.registry.get? n.type = some d)
    (haction : d.action ≠ none) (hsource : ¬ ∀ q ∈ d.requirements, q.2.Sourced)
    (context : Context) (room : Nat) :
    ∃ e, (r.visit context (room + 1) n).result = .error e := by
  obtain ⟨a, ha⟩ := Option.ne_none_iff_exists'.mp haction
  rcases dataFor_of_known context (hregistry.known hd) with ⟨hall, -⟩ | ⟨q, -, -, hfault⟩
  · exact absurd hall hsource
  · have hturn : (r.turn context (r.maxDepth - (room + 1)) n).result =
        .error (.notKey q.2.source.kind) :=
      turn_result_of_round context r (.starved d a _ hd ha hfault) _
    rw [visit, Run.bind_eq, Run.tell_bind, Run.bind_eq, Run.bind_of_error hturn]
    exact ⟨_, rfl⟩

/-- If every walk from the root gives a result, then all data that transforms need can be looked
up. -/
lemma sourced_of_visits (hdepth : 0 < r.maxDepth) {context : Context}
    (h : ∀ n, ∃ o, (r.visit context r.maxDepth n).result = .ok o) : r.registry.Sourced := by
  intro name d hd haction
  -- a node that is nothing but its type comes to its definition at once
  refine Classical.byContradiction fun hsource => ?_
  obtain ⟨room, hroom⟩ := Nat.exists_eq_add_one.mpr hdepth
  obtain ⟨o, ho⟩ := h (.mk name [] [])
  obtain ⟨e, he⟩ := r.visit_of_not_sourced hregistry (n := .mk name [] []) hd haction hsource
    context room
  rw [hroom, he] at ho
  cases ho

end Resolution

/-- The resolution of a tree is the walk from its root. -/
lemma resolveTree_node (r : Resolver) (context : Context) (n : Node) :
    r.resolveTree context (.node n) = r.visit context r.maxDepth n := by
  have hroot : Run.lift (rootOf (.node n)) = Run.pure (.node n) := rfl
  rw [resolveTree, hroot, Run.bind_eq, Run.pure_bind]

/-- A resolver that is not strict gives a resolution exactly if the walk gives a result. -/
lemma exists_finish_iff {α : Type} {r : Resolver} (hstrict : r.strict = false) (run : Run α) :
    (∃ t, r.finish run = .ok t) ↔ ∃ a, run.result = .ok a := by
  unfold finish
  cases run.result with
  | error e => exact iff_of_false nofun nofun
  | ok a =>
    refine iff_of_true ?_ ⟨a, rfl⟩
    cases run.report.records with
    | nil => exact ⟨_, rfl⟩
    | cons first rest =>
      simp only [hstrict]
      exact ⟨_, rfl⟩

/-- With the definitions of accepted declarations, a resolver that is not strict gives a resolution
of every tree in every context exactly if the sources of all data that transforms need can be keys;
and where there is no resolution, such a source is at fault and nothing else. -/
theorem always_resolves_iff (r : Resolver) (hstrict : r.strict = false) (hdepth : 0 < r.maxDepth)
    (hregistry : r.registry.Declared) :
    ((∀ context n, ∃ t, r.finish (r.resolveTree context (.node n)) = .ok t) ↔
      r.registry.Sourced) ∧
    ∀ context n e, r.finish (r.resolveTree context (.node n)) = .error e →
      ∃ f, e = .fault f ∧ r.registry.Unsourced f := by
  have hwalk : ∀ context n, (r.visit context r.maxDepth n).FaultsIn r.registry.Unsourced :=
    fun context => (visit_faultsIn (r.turn_faultsIn hregistry context) r.maxDepth).1
  simp only [exists_finish_iff hstrict, resolveTree_node]
  refine ⟨⟨?_, ?_⟩, ?_⟩
  · intro h
    exact r.sourced_of_visits hregistry hdepth (h Context.empty)
  · intro hsourced context n
    cases hresult : (r.visit context r.maxDepth n).result with
    | ok a => exact ⟨a, rfl⟩
    | error e => exact absurd (hwalk context n e hresult) (hsourced.not_unsourced e)
  · intro context n e he
    cases hresult : (r.visit context r.maxDepth n).result with
    | error f =>
      refine ⟨f, ?_, hwalk context n f hresult⟩
      rw [finish, hresult] at he
      cases he
      rfl
    | ok a =>
      obtain ⟨t, ht⟩ := (exists_finish_iff hstrict _).mpr ⟨a, hresult⟩
      rw [ht] at he
      cases he

/-! ## Two sources -/

/-- A declaration whose transform needs one piece of data. -/
def needing (source : Value) : Entries :=
  [(.str "name", .str "x"),
    (.str "data_requirements", .map [(.str "p", .map [(.str "source", source)])]),
    (.str "transform", .callable "keep")]

/-- The definition of a needy declaration, whose transform keeps the node. -/
def needy (source : Value) : Definition :=
  { Definition.blank "x" with
    requirements := [(.str "p", ⟨.str "any", source.orElse (.str "p"), .null, .str ""⟩)]
    action := some (.run ⟨"keep", "", "", fun n _ _ => .ok (.node n)⟩) }

/-- A resolver with nothing but the definition of a needy declaration. -/
def selecting (source : Value) : Resolver where
  registry := ⟨[("x", needy source)], true⟩
  maxDepth := defaultDepth
  traceLevel := .errors
  strict := false

/-- The definition is made by the declaration, which is accepted whatever the source is. -/
lemma needy_declared (source : Value) : (needy source).Declared :=
  ⟨{ Library.empty with
      ofHandle := fun _ => some ⟨"keep", "", "", fun n _ _ => .ok (.node n)⟩ },
    none, "x", needing source, _, rfl, rfl, rfl, rfl⟩

/-- The only definition is the needy one. -/
lemma get?_selecting {source : Value} {name : String} {d : Definition}
    (h : (selecting source).registry.get? name = some d) : name = "x" ∧ d = needy source := by
  obtain ⟨e, he, rfl⟩ := Option.map_eq_some_iff.mp h
  have hname := List.find?_some he
  rw [List.mem_singleton.mp (List.mem_of_find?_eq_some he)] at hname ⊢
  exact ⟨(eq_of_beq hname).symm, rfl⟩

/-- The resolver has definitions of accepted declarations only. -/
lemma selecting_declared (source : Value) : (selecting source).registry.Declared := by
  intro name d hd
  obtain ⟨rfl, rfl⟩ := get?_selecting hd
  exact ⟨needy source, needy_declared source, rfl⟩

/-- With a text as its source, the declaration ends no resolution. -/
theorem always_resolves_iff_selecting :
    (selecting (.str "a")).strict = false ∧ 0 < (selecting (.str "a")).maxDepth ∧
    (selecting (.str "a")).registry.Declared ∧
    ∀ context n, ∃ t,
      (selecting (.str "a")).finish
        ((selecting (.str "a")).resolveTree context (.node n)) = .ok t := by
  have hdepth : 0 < (selecting (.str "a")).maxDepth := by decide
  refine ⟨rfl, hdepth, selecting_declared _, ?_⟩
  refine (always_resolves_iff (selecting (.str "a")) rfl hdepth (selecting_declared _)).1.mpr ?_
  intro name d hd _ q hq
  obtain ⟨rfl, rfl⟩ := get?_selecting hd
  rw [List.mem_singleton.mp hq]
  exact Option.some_ne_none _

/-- With a list as its source, the declaration is accepted as well, and a node of its type ends the
resolution. -/
theorem listed_source_ends_resolution :
    (selecting (.list [.str "a"])).strict = false ∧
    0 < (selecting (.list [.str "a"])).maxDepth ∧
    (selecting (.list [.str "a"])).registry.Declared ∧
    (selecting (.list [.str "a"])).finish
      ((selecting (.list [.str "a"])).resolveTree Context.empty (.node (.mk "x" [] []))) =
        .error (.fault (.notKey "list")) :=
  ⟨rfl, by decide, selecting_declared _, rfl⟩

end Resolver

end PageTree
