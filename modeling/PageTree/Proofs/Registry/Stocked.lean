import PageTree.Builtin.Library
import PageTree.Proofs.Registry.Directories

/-!
# Registries of built-in definitions and declaration files

A registry is filled with the built-in definitions and with declaration files, single ones or those
of directories, in any order (`Stocked`).  Each of its definitions is then a built-in one or was
given by the declaration in a file, under whose name it stands (`Stocked.accounted`).
-/

namespace PageTree

namespace Registry

/-- What a registry has after definitions were handed to it: those that it had, and the new ones
under their names. -/
lemma mem_takeAll {r : Registry} {given : List (String × Definition)} {e : String × Definition}
    (h : e ∈ (r.takeAll given).definitions) :
    e ∈ r.definitions ∨ ∃ d, (e.1, d) ∈ given ∧ e.2 = { d with name := e.1 } := by
  cases hfrozen : r.frozen with
  | true =>
    rw [takeAll_of_frozen hfrozen] at h
    exact .inl h
  | false =>
    rw [takeAll_of_thawed hfrozen, insertAll] at h
    clear hfrozen
    induction given generalizing r with
    | nil => exact .inl h
    | cons f given ih =>
      rcases ih h with hold | ⟨d, hd, he⟩
      · rcases mem_store hold with rfl | hold
        · exact .inr ⟨f.2, List.mem_cons_self, rfl⟩
        · exact .inl hold
      · exact .inr ⟨d, List.mem_cons_of_mem _ hd, he⟩

/-- Definitions that are handed over under names keep a registry consistent. -/
lemma Consistent.takeAll {r : Registry} (h : r.Consistent) {given : List (String × Definition)}
    (hnamed : ∀ e ∈ given, e.1 ≠ "") : (r.takeAll given).Consistent := by
  unfold Registry.takeAll
  split
  · exact h
  · exact h.insertAll hnamed

end Registry

namespace Builtin

/-- The names of the built-in definitions. -/
def names : List String :=
  ["container", "footer", "html", "social-links", "post/title", "post/excerpt", "post/permalink",
    "post/byline", "post/social-sharing", "post/tags", "post/content", "image"]

variable [Surroundings]

/-- The built-in definitions have these names in any surroundings and with any settings. -/
lemma map_name_definitions (settings : ImageSettings) :
    (definitions settings).map (·.name) = names :=
  rfl

/-- The names of the built-in definitions are not empty and have no line feed. -/
lemma name_of_mem_definitions {settings : ImageSettings} {d : Definition}
    (h : d ∈ definitions settings) : d.name ≠ "" ∧ '\n' ∉ d.name.toList := by
  have hmem := List.mem_map_of_mem (f := (·.name)) h
  rw [map_name_definitions] at hmem
  have hall : ∀ n ∈ names, n ≠ "" ∧ '\n' ∉ n.toList := by decide +kernel
  exact hall _ hmem

end Builtin

namespace Filling

/-! ## Where definitions come from -/

section Declared

variable {lib : Library}

/-- A declaration gives its definition the name that it has. -/
lemma name_of_declared {p : Path} {entries : Entries} {e : String × Definition}
    (h : declared lib p entries = .ok e) : e.2.name = e.1 := by
  obtain ⟨-, -, hd⟩ := declared_eq_ok lib p h
  obtain ⟨_, _, _, _, -, -, -, -, hparts⟩ := (Definition.ofDeclaration_eq_ok_iff _ _ _ _ _).mp hd
  rw [hparts]

/-- A declaration that gives a definition is an accepted one. -/
lemma accepted_of_declared {p : Path} {entries : Entries} {e : String × Definition}
    (h : declared lib p entries = .ok e) : Declaration.Accepted entries := by
  obtain ⟨findings, hfindings, -⟩ := (bind_eq_ok_iff _ _ _).mp h
  rw [mapError_eq_ok_iff] at hfindings
  rw [declared_of_findings lib p hfindings] at h
  by_cases hvalid : findings.valid = true
  · exact Declaration.accepted_of_valid hfindings hvalid
  · rw [if_neg hvalid] at h
    cases h

end Declared

/-- Of a sequence each definition is supplied by a part. -/
lemma mem_given_andThen {a b : Supply} {e : String × Definition} (h : e ∈ (a.andThen b).given) :
    e ∈ a.given ∨ e ∈ b.given := by
  cases hfault : a.fault with
  | none =>
    rw [Supply.andThen_of_none hfault] at h
    exact List.mem_append.mp h
  | some f =>
    rw [Supply.andThen_of_some hfault] at h
    exact .inl h

/-- Storing definitions with names supplies them. -/
lemma supplies_storeAll {ds : List Definition} (h : ∀ d ∈ ds, d.name ≠ "") :
    Supplies (storeAll ds) ⟨ds.map fun d => (d.name, d), none⟩ fun _ => ds.map (·.name) := by
  induction ds with
  | nil => exact supplies_pure []
  | cons d ds ih =>
    rw [List.forall_mem_cons] at h
    exact (supplies_store h.1 d).bind fun _ => (ih h.2).map fun names => d.name :: names

variable [Surroundings]

/-- A definition is a built-in one, or the declaration in a file gives it. -/
inductive ComesFrom (lib : Library) : String × Definition → Prop
  | builtin {settings : ImageSettings} {d : Definition} (hd : d ∈ Builtin.definitions settings) :
    ComesFrom lib (d.name, d)
  | file {p : Path} {entries : Entries} {e : String × Definition}
    (he : declared lib p entries = .ok e) : ComesFrom lib e

/-- All definitions of a registry are built-in ones or come from declaration files. -/
structure Accounted (lib : Library) (r : Registry) : Prop where
  consistent : r.Consistent
  comesFrom : ∀ e ∈ r.definitions, ComesFrom lib e

section ComesFrom

variable {lib : Library}

/-- What comes from somewhere stands under its own name. -/
lemma ComesFrom.name {e : String × Definition} (h : ComesFrom lib e) : e.2.name = e.1 := by
  cases h with
  | builtin _ => rfl
  | file he => exact name_of_declared he

/-- A computation that supplies built-in definitions, or some from declaration files, leaves no
others. -/
lemma Accounted.of_supplies {α : Type} {x : Filling α} {a : Supply} {value : Registry → α}
    {s : Shelf} (hs : Accounted lib s.registry) (hx : Supplies x a value)
    (hgiven : ∀ e ∈ a.given, ComesFrom lib e) : Accounted lib (outcome x s).2.registry := by
  rw [hx.leaves s]
  refine ⟨hs.consistent.takeAll hx.named, fun e he => ?_⟩
  rcases Registry.mem_takeAll he with hold | ⟨d, hd, hname⟩
  · exact hs.comesFrom e hold
  · have hfrom := hgiven _ hd
    have hsame : e = (e.1, d) := by
      refine Prod.ext rfl ?_
      rw [hname, ← hfrom.name]
    rw [hsame]
    exact hfrom

end ComesFrom

/-! ## What files supply -/

variable [YamlLibrary]

section Files

variable {lib : Library}

/-- What the text of a file gives is given by the declaration in it. -/
lemma ComesFrom.of_fileDefinition {p : Path} {text : String} {overrides : Value}
    {e : String × Definition} (h : fileDefinition lib p text overrides = .ok e) :
    ComesFrom lib e := by
  unfold fileDefinition at h
  obtain ⟨entries, -, hdeclared⟩ := (bind_eq_ok_iff _ _ _).mp h
  exact .file hdeclared

/-- So it is with the file that a load means. -/
lemma ComesFrom.of_loadedDefinition {files : Files} {path : String} {overrides : Value}
    {e : String × Definition} (h : loadedDefinition lib files path overrides = .ok e) :
    ComesFrom lib e := by
  unfold loadedDefinition at h
  obtain ⟨p, -, hrest⟩ := (bind_eq_ok_iff _ _ _).mp h
  split at hrest
  · split at hrest
    · exact .of_fileDefinition hrest
    · cases hrest
  · cases hrest

/-- And so it is with a file of a directory. -/
lemma ComesFrom.of_definitionAt {files : Files} {p : Path} {e : String × Definition}
    (h : definitionAt lib files p = .ok e) : ComesFrom lib e := by
  unfold definitionAt at h
  split at h
  · exact .of_fileDefinition h
  · cases h

/-- What files supply that are no plug-ins comes from their declarations. -/
lemma comesFrom_of_mem_ofFiles {files : Files} {ps : List Path}
    (hplugin : ∀ p ∈ ps, ¬ IsPlugin files p) :
    ∀ e ∈ (Supply.ofFiles lib files ps).given, ComesFrom lib e := by
  induction ps with
  | nil => nofun
  | cons p ps ih =>
    rw [List.forall_mem_cons] at hplugin
    intro e he
    rcases mem_given_andThen he with hfirst | hrest
    · by_cases hdeclaration : IsDeclaration files p
      · rw [Supply.ofFile_of_isDeclaration hdeclaration] at hfirst
        cases hd : definitionAt lib files p with
        | error f =>
          rw [hd] at hfirst
          cases hfirst
        | ok e' =>
          rw [hd] at hfirst
          cases List.mem_singleton.mp hfirst
          exact .of_definitionAt hd
      · rw [Supply.ofFile_of_not hdeclaration hplugin.1] at hfirst
        cases hfirst
    · exact ih hplugin.2 e hrest

end Files

/-! ## Filling a registry -/

/-- A shelf whose registry was filled with the built-in definitions and with declaration files,
whether or not all of them were accepted.  Directories with plug-ins are left out. -/
inductive Stocked (lib : Library) : Shelf → Prop
  | start : Stocked lib Shelf.empty
  | builtins {s : Shelf} (past : Stocked lib s) (settings : ImageSettings) :
    Stocked lib (outcome (storeBuiltins settings) s).2
  | file {s : Shelf} (past : Stocked lib s) (files : Files) (path : String) (overrides : Value) :
    Stocked lib (outcome (loadDeclaration lib files path overrides) s).2
  | directories {s : Shelf} (past : Stocked lib s) {files : Files} {directories : Value}
    (hplugin : ∀ p ∈ Filling.visits files directories, ¬ IsPlugin files p) :
    Stocked lib (outcome (loadDirectories lib files directories) s).2
  | frozen {s : Shelf} (past : Stocked lib s) : Stocked lib (outcome freeze s).2

/-- A registry that is filled with built-in definitions and declaration files has no others. -/
theorem Stocked.accounted {lib : Library} {s : Shelf} (h : Stocked lib s) :
    Accounted lib s.registry := by
  induction h with
  | start => exact ⟨.empty, nofun⟩
  | builtins _ settings ih =>
    refine ih.of_supplies (supplies_storeAll fun d hd =>
      (Builtin.name_of_mem_definitions hd).1) fun e he => ?_
    obtain ⟨d, hd, rfl⟩ := List.mem_map.mp he
    exact .builtin hd
  | @file s _ files path overrides ih =>
    -- the supply is known of the load that answers its name as a list
    have hload := supplies_of_storesOn fun s => loadDeclaration_storesOn lib files s path overrides
    have hsame : (outcome (loadDeclaration lib files path overrides >>= fun name =>
        pure [name]) s).2 = (outcome (loadDeclaration lib files path overrides) s).2 := by
      rw [outcome_bind_pure _ fun name => [name]]
    rw [← hsame]
    refine ih.of_supplies hload fun e he => ?_
    cases hd : loadedDefinition lib files path overrides with
    | error f =>
      rw [hd] at he
      cases he
    | ok e' =>
      rw [hd] at he
      cases List.mem_singleton.mp he
      exact .of_loadedDefinition hd
  | directories _ hplugin ih =>
    refine ih.of_supplies (supplies_loadDirectories lib _ _) ?_
    rw [Supply.given_ofDirectories]
    exact comesFrom_of_mem_ofFiles hplugin
  | frozen _ ih => exact ⟨ih.consistent.freeze, ih.comesFrom⟩

end Filling

end PageTree
