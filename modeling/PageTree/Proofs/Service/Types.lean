import PageTree.Proofs.Registry.Groups
import PageTree.Proofs.Service.Description

/-!
# Answers about types

The service lists all types in the groups of their names (`Registry.Lists`, `answer_types`), and it
describes a type under a path that ends in its name.  A path with a line feed has no route, but for
one at its end, which is not looked at (`route?_typePath`).  So a type is described exactly if its
name has no line feed and its definition can be described (`described_iff`).

For a registry of built-in definitions and declaration files this says which of the listed types
are described: all built-in ones, and of the others those whose name has no line feed and whose
declaration is presentable (`types_are_listed_and_described`).
-/

namespace PageTree

open Filling

/-! ## The list of types -/

/-- Groups of names that list a registry: the groups have different names, each has names, in
order, that belong to it, and together they have every registered name once. -/
structure Registry.Lists (r : Registry) (groups : List (String × List String)) : Prop where
  distinct : (groups.map (·.1)).Nodup
  grouped : ∀ e ∈ groups, e.2 ≠ [] ∧ e.2.Pairwise (· < ·) ∧ ∀ n ∈ e.2, Registry.BelongsTo n e.1
  once : (groups.flatMap (·.2)).Nodup
  exact : ∀ n, n ∈ groups.flatMap (·.2) ↔ r.has n = true

/-- The groups of all types list a registry, and they have as many names as there are
definitions. -/
lemma Registry.Consistent.lists {r : Registry} (h : r.Consistent) :
    r.Lists (Registry.grouped r.types) ∧
      ((Registry.grouped r.types).flatMap (·.2)).length = r.size := by
  have hperm := Registry.grouped_perm r.types
  have hnames : r.types.Perm r.names := Registry.types_perm r
  refine ⟨⟨Registry.nodup_grouped r.types, ?_, ?_, fun n => ?_⟩, ?_⟩
  · rintro ⟨group, names⟩ he
    obtain ⟨hin, hne⟩ := (Registry.mem_grouped_iff r.types group names).mp he
    subst hin
    refine ⟨hne, (Registry.types_sorted h.distinct).filter _, fun n hn => ?_⟩
    exact (Registry.groupOf_eq_iff n group).mp ((Registry.mem_inGroup_iff _ _ _).mp hn).2
  · exact (hperm.trans hnames).nodup_iff.mpr h.distinct
  · rw [hperm.mem_iff, Registry.mem_types_iff]
  · rw [hperm.length_eq, hnames.length_eq, Registry.names, List.length_map, Registry.size]

namespace Service

/-- The document with groups of names and a number. -/
def typesDocument (groups : List (String × List String)) (total : Nat) : Json :=
  .object [("types", .object (groups.map fun e => (e.1, .array (e.2.map .str)))),
    ("total", .int total)]

/-- Names as a document. -/
lemma toJsons?_names (names : List String) :
    Value.toJsons? (names.map .str) = .ok (names.map .str) ∧
      Json.allFinite (names.map .str) = true := by
  induction names with
  | nil => exact ⟨rfl, rfl⟩
  | cons n names ih =>
    refine ⟨?_, ?_⟩
    · rw [List.map_cons, Value.toJsons?, ih.1]
      rfl
    · rw [List.map_cons, Json.allFinite, ih.2]
      rfl

/-- Groups of names as a document. -/
lemma toMembers?_groups (groups : List (String × List String)) :
    Value.toMembers? (groups.map fun e => (Key.str e.1, Value.list (e.2.map .str))) =
        .ok (groups.map fun e => (e.1, Json.array (e.2.map .str))) ∧
      Json.membersFinite (groups.map fun e => (e.1, Json.array (e.2.map .str))) = true := by
  induction groups with
  | nil => exact ⟨rfl, rfl⟩
  | cons e groups ih =>
    obtain ⟨hnames, hfinite⟩ := toJsons?_names e.2
    refine ⟨?_, ?_⟩
    · rw [List.map_cons, Value.toMembers?, Value.toJson?, hnames, ih.1]
      rfl
    · rw [List.map_cons, Json.membersFinite, Json.isFinite, hfinite, ih.2]
      rfl

section Types

variable (s : Service)

/-- The list of types is answered in every case. -/
lemma typeList_eq : s.typeList = .ok (.withBody 200
    (typesDocument (Registry.grouped s.registry.types) s.registry.size)) := by
  obtain ⟨hmembers, hfinite⟩ := toMembers?_groups (Registry.grouped s.registry.types)
  unfold typeList
  refine (bind_eq_ok_iff _ _ _).mpr ⟨_, (bodyOf_eq_ok_iff _ _).mpr ⟨?_, ?_⟩, rfl⟩
  · rw [Value.toJson?, Value.toMembers?, Value.toJson?, hmembers]
    rfl
  · simp [typesDocument, Json.isFinite, Json.membersFinite, hfinite]

variable [WebFramework]

/-- A type is described: whatever the query is, a request for it is answered with what is given out
for the description of its definition, and that has its name. -/
def Described (name : String) : Prop :=
  ∀ query, ∃ info members, s.registry.describe name = some info ∧
    TypeSchema.bodyOf info = .ok (.object members) ∧
    members.lookup "name" = some (.str name) ∧
    s.answer ⟨typePath name, query⟩ = .ok (.withBody 200 (.object members))

variable [LawfulWebFramework]

/-- The answer to a request for the list of types. -/
lemma answer_types (query : String) : s.answer ⟨typesPath, query⟩ = .ok (.withBody 200
    (typesDocument (Registry.grouped s.registry.types) s.registry.size)) := by
  rw [← s.typeList_eq, answer, LawfulWebFramework.types]
  rfl

/-! ## Descriptions -/

/-- What is given out for a definition has its name. -/
lemma exists_members_of_bodyOf {d : Definition} {j : Json}
    (h : TypeSchema.bodyOf (Registry.describeDefinition d) = .ok j) :
    ∃ members, j = .object members ∧ members.lookup "name" = some (.str d.name) := by
  obtain ⟨t, ht, hj⟩ := (TypeSchema.bodyOf_eq_ok_iff _ _).mp h
  obtain ⟨_, _, _, _, _, _, rfl⟩ := (TypeSchema.ofInfo?_describeDefinition_eq_some_iff d t).mp ht
  exact TypeSchema.exists_members_of_document hj

omit [LawfulWebFramework] in
/-- What is answered about a type with success is what is given out for its definition. -/
lemma typeInfo_eq_ok_iff (name : String) (j : Json) :
    s.typeInfo name = .ok (.withBody 200 j) ↔ ∃ d, s.registry.get? name = some d ∧
      TypeSchema.bodyOf (Registry.describeDefinition d) = .ok j := by
  unfold typeInfo Registry.describe
  cases s.registry.get? name with
  | none => simp [Answer.notFound, Answer.withBody]
  | some d =>
    simp only [Option.map_some, Option.some.injEq, exists_eq_left']
    constructor
    · intro h
      obtain ⟨body, hbody, hanswer⟩ := (bind_eq_ok_iff _ _ _).mp h
      cases hanswer
      exact hbody
    · exact fun h => (bind_eq_ok_iff _ _ _).mpr ⟨j, h, rfl⟩

/-- A registered type is described exactly if its name has no line feed and its definition can be
described. -/
theorem described_iff (hs : s.registry.Consistent) {name : String} {d : Definition}
    (hd : s.registry.get? name = some d) :
    s.Described name ↔ '\n' ∉ name.toList ∧ Shown d := by
  have hcarried : ∀ {m e}, s.registry.get? m = some e → e.name = m :=
    fun he => (hs.named _ (Registry.mem_of_get? he)).2
  have hdescribe : s.registry.describe name = some (Registry.describeDefinition d) := by
    rw [Registry.describe, hd, Option.map_some]
  constructor
  · intro h
    obtain ⟨info, members, hinfo, hbody, hlookup, hanswer⟩ := h ""
    rw [hdescribe, Option.some.injEq] at hinfo
    subst hinfo
    refine ⟨fun hfeed => ?_, .object members, hbody⟩
    unfold answer at hanswer
    rcases LawfulWebFramework.strayed "" hfeed with
      ⟨other, hne, hroute⟩ | ⟨a, hstatus, hroute⟩
    · -- the answer is about another type, and has its name
      rw [hroute] at hanswer
      obtain ⟨e, he, hother⟩ := (s.typeInfo_eq_ok_iff other _).mp hanswer
      obtain ⟨members', hmembers, hname⟩ := exists_members_of_bodyOf hother
      cases hmembers
      rw [hlookup, hcarried he, Option.some.injEq, Json.str.injEq] at hname
      exact hne hname.symm
    · rw [hroute, Except.ok.injEq] at hanswer
      exact hstatus (congrArg Answer.status hanswer)
  · rintro ⟨hfeed, j, hj⟩ query
    obtain ⟨members, rfl, hlookup⟩ := exists_members_of_bodyOf hj
    rw [hcarried hd] at hlookup
    refine ⟨_, members, hdescribe, hj, hlookup, ?_⟩
    rw [answer, LawfulWebFramework.named query hfeed]
    exact (s.typeInfo_eq_ok_iff name _).mpr ⟨d, hd, hj⟩

/-! ## Registries of declaration files -/

/-- The service lists and describes the types of a registry that was filled with built-in
definitions and declaration files.  Every registered name is listed once, in the group that it
belongs to, with the number of definitions.  Each listed type is a built-in one or was given by an
accepted declaration.  The built-in ones are described, and of the others those whose name has no
line feed and whose declaration is presentable. -/
theorem types_are_listed_and_described [Surroundings] [YamlLibrary] {lib : Library} {shelf : Shelf}
    (h : Stocked lib shelf) (hs : s.registry = shelf.registry) :
    (∃ groups, s.registry.Lists groups ∧ (groups.flatMap (·.2)).length = s.registry.size ∧
      ∀ query, s.answer ⟨typesPath, query⟩ =
        .ok (.withBody 200 (typesDocument groups s.registry.size))) ∧
    ∀ name d, s.registry.get? name = some d →
      ((∃ settings, d ∈ Builtin.definitions settings) ∨
        ∃ p entries, declared lib p entries = .ok (name, d)) ∧
      (∀ settings, d ∈ Builtin.definitions settings → s.Described name) ∧
      ∀ p entries, declared lib p entries = .ok (name, d) →
        (s.Described name ↔ '\n' ∉ name.toList ∧ Presentable entries) := by
  have haccounted := h.accounted
  rw [← hs] at haccounted
  obtain ⟨hlists, hlength⟩ := haccounted.consistent.lists
  refine ⟨⟨_, hlists, hlength, s.answer_types⟩, fun name d hd => ?_⟩
  have hdescribed := s.described_iff haccounted.consistent hd
  have hname : d.name = name := (haccounted.consistent.named _ (Registry.mem_of_get? hd)).2
  refine ⟨?_, fun settings hbuiltin => ?_, fun p entries hdeclared => ?_⟩
  · have hfrom := haccounted.comesFrom _ (Registry.mem_of_get? hd)
    generalize hpair : (name, d) = e at hfrom
    cases hfrom with
    | builtin hbuiltin =>
      cases hpair
      exact .inl ⟨_, hbuiltin⟩
    | file he =>
      subst hpair
      exact .inr ⟨_, _, he⟩
  · rw [hdescribed, ← hname]
    exact ⟨(Builtin.name_of_mem_definitions hbuiltin).2, shown_of_builtin settings d hbuiltin⟩
  · rw [hdescribed, shown_iff_presentable hdeclared]

end Types

open scoped Standard

/-- A shelf with the built-in definitions. -/
def builtinShelf : Shelf :=
  (outcome (storeBuiltins .empty) Shelf.empty).2

/-- The load of one file into the built-in definitions. -/
def loadOne (files : Files) (overrides : Value) : Except RegistryFault String × Shelf :=
  outcome (loadDeclaration .empty files "d/x.yaml" overrides) builtinShelf

/-- A service with the built-in definitions and that of one file. -/
def withOne (files : Files) (overrides : Value) : Service where
  registry := (loadOne files overrides).2.registry
  site := Site.empty
  builder := fun q => .ok (Page.usual q)
  maxDepth := .int 32
  traceLevel := .errors

/-- The definition of the file is stored under its name. -/
lemma loadOne_eq {files : Files} {overrides : Value} {text name : String} {entries : Entries}
    {d : Definition} (htext : files.readText? (.ofText "d/x.yaml") = some text)
    (hentries : fileEntries (.ofText "d/x.yaml") text overrides = .ok entries)
    (hdeclared : declared .empty (.ofText "d/x.yaml") entries = .ok (name, d)) :
    (loadOne files overrides).1 = .ok name ∧
      (withOne files overrides).registry.get? name = some { d with name } := by
  have hstores := loadDeclaration_storesOn .empty files builtinShelf "d/x.yaml" overrides
  have hpath : declarationPath (.ofText "d/x.yaml") = .ok (.ofText "d/x.yaml") := rfl
  have hdefinition : fileDefinition .empty (.ofText "d/x.yaml") text overrides = .ok (name, d) :=
    (bind_eq_ok_iff _ _ _).mpr ⟨entries, hentries, hdeclared⟩
  rw [loadedDefinition_of_readText? .empty hpath htext, hdefinition] at hstores
  obtain ⟨-, hanswer, hleaves⟩ := hstores.of_ok
  have hthawed : builtinShelf.registry.frozen = false := rfl
  rw [answerOn_of_thawed hthawed] at hanswer
  rw [Registry.takeAll_of_thawed hthawed] at hleaves
  refine ⟨hanswer, ?_⟩
  change (outcome (loadDeclaration .empty files "d/x.yaml" overrides)
    builtinShelf).2.registry.get? name = _
  rw [hleaves]
  exact Registry.get?_insertAll_of_isLast _ ⟨[], [], rfl, nofun⟩

/-- The definition of the plain declaration is listed and described. -/
theorem types_are_listed_and_described_plain :
    (∃ groups, (withOne plainFiles .null).registry.Lists groups ∧
      ∀ query, (withOne plainFiles .null).answer ⟨typesPath, query⟩ =
        .ok (.withBody 200 (typesDocument groups (withOne plainFiles .null).registry.size))) ∧
    (withOne plainFiles .null).registry.has "x" = true ∧
    (withOne plainFiles .null).Described "x" := by
  have hstocked : Stocked .empty (loadOne plainFiles .null).2 :=
    .file (.builtins .start .empty) plainFiles "d/x.yaml" .null
  have hdeclared : declared .empty (.ofText "d/x.yaml") [(.str "name", .str "x")] =
      .ok ("x", { Definition.blank "x" with source := some "d/x.yaml" }) := rfl
  obtain ⟨-, hget⟩ := loadOne_eq readText?_plainFiles (fileEntries_plain .null) hdeclared
  obtain ⟨⟨groups, hlists, -, hanswer⟩, htypes⟩ :=
    types_are_listed_and_described (withOne plainFiles .null) hstocked rfl
  obtain ⟨-, -, hdescribed⟩ := htypes "x" _ hget
  -- nothing but the name is declared
  have hpresentable : Presentable [(.str "name", .str "x")] := by
    refine ⟨⟨"", rfl⟩, fun defaults h => ?_, fun requirements h => ?_⟩
    · cases h
    · cases h
  refine ⟨⟨groups, hlists, hanswer⟩, ?_, (hdescribed _ _ hdeclared).mpr ⟨by decide, hpresentable⟩⟩
  rw [Registry.has, hget, Option.isSome_some]

/-- A directory with one declaration, of a name with a line feed. -/
def feedFiles : Files :=
  Files.none.add "d/x.yaml" (.octets "name: \"a\\nb\"\n".toUTF8.toList)

/-- A declaration with a line feed in its name is loaded and listed, but there is no route to it. -/
theorem name_with_line_feed_is_not_found :
    Stocked .empty (loadOne feedFiles .null).2 ∧ (loadOne feedFiles .null).1 = .ok "a\nb" ∧
    (withOne feedFiles .null).registry.has "a\nb" = true ∧
    (withOne feedFiles .null).answer ⟨typePath "a\nb", ""⟩ = .ok (.notFound "Not Found") := by
  have htext : feedFiles.readText? (.ofText "d/x.yaml") = some "name: \"a\\nb\"\n" := by
    decide +kernel
  have hdata : parseData (.ofText "d/x.yaml") "name: \"a\\nb\"\n" =
      .ok (.map [(.str "name", .str "a\nb")]) := eq_of_onlyEntry? (by decide +kernel)
  have hentries : fileEntries (.ofText "d/x.yaml") "name: \"a\\nb\"\n" .null =
      .ok [(.str "name", .str "a\nb")] := by
    unfold fileEntries parseDeclaration
    rw [hdata]
    rfl
  have hdeclared : declared .empty (.ofText "d/x.yaml") [(.str "name", .str "a\nb")] =
      .ok ("a\nb", { Definition.blank "a\nb" with source := some "d/x.yaml" }) := rfl
  obtain ⟨hloaded, hget⟩ := loadOne_eq htext hentries hdeclared
  refine ⟨.file (.builtins .start .empty) feedFiles "d/x.yaml" .null, hloaded, ?_, ?_⟩
  · rw [Registry.has, hget, Option.isSome_some]
  · have hroute : route? (typePath "a\nb") = none := by decide +kernel
    have hother : (decide (typePath "a\nb" ≠ "/") &&
        ((route? (otherSlash (typePath "a\nb"))).isSome ||
          isOwn (otherSlash (typePath "a\nb")))) = false := by decide +kernel
    have hdispatch : WebFramework.dispatch ⟨typePath "a\nb", ""⟩ =
        .answered (.notFound "Not Found") := by
      change dispatch _ = _
      unfold dispatch
      rw [hroute]
      dsimp only
      rw [isOwn_typePath, if_neg Bool.false_ne_true, if_neg (ne_true_of_eq_false hother)]
    rw [answer, hdispatch]

/-- A declaration whose description is set to nothing is loaded and listed, but the service has no
answer about it. -/
theorem empty_description_has_no_answer :
    (loadOne plainFiles (.map [(.str "description", .null)])).1 = .ok "x" ∧
    (withOne plainFiles (.map [(.str "description", .null)])).answer ⟨typePath "x", ""⟩ =
      .error .badDefinition := by
  have hentries : fileEntries (.ofText "d/x.yaml") "name: x\n"
      (.map [(.str "description", .null)]) =
        .ok [(.str "name", .str "x"), (.str "description", .null)] := by
    rw [fileEntries_plain]
    rfl
  have hdeclared : declared .empty (.ofText "d/x.yaml")
      [(.str "name", .str "x"), (.str "description", .null)] =
        .ok ("x", { Definition.blank "x" with
          description := .null
          source := some "d/x.yaml" }) := rfl
  obtain ⟨hloaded, hget⟩ := loadOne_eq readText?_plainFiles hentries hdeclared
  refine ⟨hloaded, ?_⟩
  rw [answer, LawfulWebFramework.named "" (by decide)]
  change typeInfo _ "x" = _
  unfold typeInfo Registry.describe
  rw [hget]
  rfl

end Service

end PageTree
