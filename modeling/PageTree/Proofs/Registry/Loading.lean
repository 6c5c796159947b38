import PageTree.Proofs.Registry.Supply
import PageTree.Standard

/-!
# Broken declarations surface

A load stores the definition of a file, or it leaves the registry as it is (`StoresOn`).  Where the
declaration of the file is not stray, a definition that is not stored is refused by a fault of
definitions that names the file (`Surfaced`), and a load of directories does so file by file, up to
the first one that is refused (`Sweep`).

A load of directories has an `Itinerary`: it goes through the directories in turn, and it ends with
a fault where one of them is none or in a home that nobody has.  Stray declarations are neither
stored nor refused: `strange_declarations_escape` has one of each kind.
-/

namespace PageTree

namespace Filling

/-! ## Storing the definition of a file -/

/-- The definition that a file gives is stored in a registry, or the registry stays as it is: there
is no definition, or the registry is frozen. -/
inductive Stores (r : Registry) :
    Except RegistryFault (String × Definition) → Except RegistryFault String → Registry → Prop where
  | failed (e : RegistryFault) : Stores r (.error e) (.error e) r
  | frozen {name : String} {d : Definition} (hfrozen : r.frozen = true) :
    Stores r (.ok (name, d)) (.error (.frozen name)) r
  | stored {name : String} {d : Definition} (hname : name ≠ "") (hfrozen : r.frozen = false) :
    Stores r (.ok (name, d)) (.ok name) (r.insert name d)

/-- Where there is no definition, nothing is stored. -/
lemma Stores.of_error {r r' : Registry} {e : RegistryFault} {y : Except RegistryFault String}
    (h : Stores r (.error e) y r') : y = .error e ∧ r' = r := by
  cases h
  exact ⟨rfl, rfl⟩

/-- A definition is handed to the registry, and its name is answered. -/
lemma Stores.of_ok {r r' : Registry} {name : String} {d : Definition}
    {y : Except RegistryFault String} (h : Stores r (.ok (name, d)) y r') :
    (r.frozen = true ∨ name ≠ "") ∧ y = answerOn r [(name, d)] (.ok name) ∧
      r' = r.takeAll [(name, d)] := by
  cases h with
  | frozen hfrozen =>
    rw [answerOn_of_frozen hfrozen, Registry.takeAll_of_frozen hfrozen]
    exact ⟨.inl hfrozen, rfl, rfl⟩
  | stored hname hfrozen =>
    rw [answerOn_of_thawed hfrozen, Registry.takeAll_of_thawed hfrozen]
    exact ⟨.inr hname, rfl, rfl⟩

/-- A computation on a shelf stores a definition, or leaves the registry as it is. -/
def StoresOn (s : Shelf) (x : Except RegistryFault (String × Definition)) (c : Filling String) :
    Prop :=
  Stores s.registry x (outcome c s).1 (outcome c s).2.registry

section Stores

variable {α : Type} (lib : Library) (files : Files) (s : Shelf)

/-- A fault leaves the registry as it is. -/
lemma storesOn_error (e : RegistryFault) : StoresOn s (.error e) (lift (.error e)) :=
  .failed e

/-- What comes before a definition may be a fault. -/
lemma StoresOn.bind {s : Shelf} (x : Except RegistryFault α)
    {f : α → Except RegistryFault (String × Definition)} {c : α → Filling String}
    (h : ∀ a, x = .ok a → StoresOn s (f a) (c a)) : StoresOn s (x >>= f) (lift x >>= c) := by
  cases x with
  | error e => exact .failed e
  | ok a => exact h a rfl

/-- Warnings may come before a definition is stored. -/
lemma StoresOn.after_warnAll {x : Except RegistryFault (String × Definition)}
    {c : Filling String} (h : ∀ t, StoresOn t x c) (path : Path) (findings : List Finding) :
    StoresOn s x (warnAll path findings >>= fun _ => c) := by
  induction findings generalizing s with
  | nil => exact h s
  | cons f findings ih =>
    have hrest := ih
      { s with notices := s.notices ++ [Notice.warn (path.text ++ ": " ++ f.message)] }
    unfold StoresOn at *
    rw [warnAll, bind_assoc, outcome_bind_of_ok (outcome_warn s _)]
    exact hrest

/-- A definition with a name is stored unless the registry is frozen. -/
lemma storesOn_store {name : String} (hname : name ≠ "") (d : Definition) :
    StoresOn s (.ok (name, d)) (store name d >>= fun _ => pure name) := by
  have hstore := outcome_store name d s hname
  unfold StoresOn
  cases hfrozen : s.registry.frozen with
  | true =>
    rw [if_pos hfrozen] at hstore
    rw [outcome_bind_of_error hstore]
    exact .frozen hfrozen
  | false =>
    rw [if_neg (ne_true_of_eq_false hfrozen)] at hstore
    rw [outcome_bind_of_ok hstore]
    exact .stored hname hfrozen

/-- Registering a declaration stores the definition that it gives. -/
lemma registerEntries_storesOn (path : Path) (entries : Entries) :
    StoresOn s (declared lib path entries) (registerEntries lib path entries) := by
  refine .bind _ fun findings hfindings => ?_
  by_cases hvalid : findings.valid = true
  · rw [if_pos hvalid, if_pos hvalid]
    refine .after_warnAll s (fun t => ?_) path _
    refine .bind _ fun d hd => storesOn_store t ?_ d
    -- the name of a valid declaration is not empty
    rw [mapError_eq_ok_iff] at hfindings
    obtain ⟨name, hname, hempty⟩ := (Declaration.accepted_of_valid hfindings hvalid).name
    rw [hname]
    exact hempty
  · rw [if_neg hvalid, if_neg hvalid]
    exact storesOn_error s _

/-- Reading a file and going on with its text stores what the text gives. -/
lemma StoresOn.after_readText {f : String → Except RegistryFault (String × Definition)}
    {c : String → Filling String} (path : Path) (h : ∀ text, StoresOn s (f text) (c text)) :
    StoresOn s
      (match files.readText? path with
        | some text => f text
        | none => .error (readFault files path))
      (readText files path >>= c) := by
  unfold readText
  cases files.readText? path with
  | some text => exact h text
  | none => exact .failed _

variable [YamlLibrary]

/-- Storing the definition that the text of a file gives. -/
lemma fileDefinition_storesOn (path : Path) (text : String) (overrides : Value) :
    StoresOn s (fileDefinition lib path text overrides)
      (lift (parseDeclaration path text) >>= fun entries =>
        lift (override entries overrides) >>= fun entries => registerEntries lib path entries) := by
  unfold fileDefinition fileEntries
  rw [bind_assoc]
  refine .bind _ fun entries _ => .bind _ fun entries _ => ?_
  exact registerEntries_storesOn lib s path entries

/-- Loading a declaration file stores the definition that the file gives. -/
theorem loadDeclaration_storesOn (path : String) (overrides : Value) :
    StoresOn s (loadedDefinition lib files path overrides)
      (loadDeclaration lib files path overrides) := by
  refine .bind _ fun p _ => ?_
  by_cases hfile : files.has p = true
  · rw [if_pos hfile, if_pos hfile]
    exact .after_readText files s p fun text => fileDefinition_storesOn lib s p text overrides
  · rw [if_neg hfile, if_neg hfile]
    exact storesOn_error s _

end Stores

/-! ## Files that surface -/

/-- A file was loaded into a registry.  The definition that its declaration gives is stored under
the name that the declaration has, or the file is refused by a fault of definitions that names it
and the registry is as before. -/
inductive Surfaced (lib : Library) (path : Path) (declaration : Except RegistryFault Entries)
    (r : Registry) : Except RegistryFault String → Registry → Prop where
  | registered {entries : Entries} {name : String} {d : Definition}
    (hentries : declaration = .ok entries)
    (hname : Entries.lookup entries "name" = .str name) (hempty : name ≠ "")
    (hd : Definition.ofDeclaration lib (some path.text) name entries = .ok d) :
    Surfaced lib path declaration r (.ok name) (r.insert name d)
  | refused {e : DefinitionFault} (hpath : e.path = some path.text) :
    Surfaced lib path declaration r (.error (.definition e)) r

/-- On a registry that is not frozen the files that surface are those whose declaration is not
stray. -/
lemma surfaced_iff [YamlLibrary] (lib : Library) {path : Path} {text : String}
    (hlegible : Legible path text) {overrides : Value}
    (hoverrides : overrides = .null ∨ ∃ upper, overrides = .map upper)
    {r r' : Registry} (hfrozen : r.frozen = false) {y : Except RegistryFault String}
    (h : Stores r (fileDefinition lib path text overrides) y r') :
    Surfaced lib path (fileEntries path text overrides) r y r' ↔
      ¬ StrayFile path text overrides := by
  rw [← surfaces_iff lib hlegible hoverrides]
  generalize hx : fileDefinition lib path text overrides = x at h
  constructor
  · intro hsurfaced
    cases h with
    | failed e =>
      cases hsurfaced with
      | refused hpath => exact .inr ⟨_, rfl, hpath⟩
    | frozen _ => exact .inl ⟨_, _, rfl⟩
    | stored _ _ => exact .inl ⟨_, _, rfl⟩
  · rintro (⟨name, d, rfl⟩ | ⟨e, rfl, hpath⟩)
    · obtain ⟨entries, hentries, hdeclared⟩ := (bind_eq_ok_iff _ _ _).mp hx
      obtain ⟨hempty, hname, hd⟩ := declared_eq_ok lib path hdeclared
      cases h with
      | frozen h =>
        rw [hfrozen] at h
        cases h
      | stored _ _ => exact .registered hentries hname hempty hd
    · cases h with
      | failed _ => exact .refused hpath

/-! ## Directories -/

/-- A file of a directory is not passed over whatever its ending. -/
def IsVisible (files : Files) (p : Path) : Prop :=
  (isHidden p.name || files.isDirectory p) = false

/-- A file of a directory is read as a declaration: it has the ending of one, and the system does
not refuse to read it. -/
def IsDeclaration (files : Files) (p : Path) : Prop :=
  IsVisible files p ∧ p.suffix ∈ declarationEndings ∧ files.refusal? p = none

/-- A file of a directory is run as a plug-in. -/
def IsPlugin (files : Files) (p : Path) : Prop :=
  IsVisible files p ∧ p.suffix = pluginEnding

/-- The definition that the declaration file at a path gives, with its name. -/
def definitionAt [YamlLibrary] (lib : Library) (files : Files) (p : Path) :
    Except RegistryFault (String × Definition) :=
  match files.readText? p with
  | some text => fileDefinition lib p text .null
  | none => .error (readFault files p)

/-- What the plug-in at a path supplies. -/
def pluginSupply (lib : Library) (files : Files) (p : Path) : Supply :=
  .ofPlugin lib (pluginAt files p)

/-- The names of definitions under which a registry has nothing yet. -/
def fresh (r : Registry) (given : List (String × Definition)) : List String :=
  (r.insertAll given).types.filter fun t => !r.types.contains t

/-- The names that a load of a plug-in answers: those of its definitions that are new, and none if
the plug-in fails. -/
def pluginNames (lib : Library) (files : Files) (p : Path) (r : Registry) : List String :=
  if (pluginSupply lib files p).fault.isNone then fresh r (pluginSupply lib files p).given else []

/-- A load of files one after the other: each declaration is stored or refused, and the first one
that is refused ends the load. -/
inductive Sweep [YamlLibrary] (lib : Library) (files : Files) :
    List Path → Registry → Except RegistryFault (List String) → Registry → Prop where
  | done (r : Registry) : Sweep lib files [] r (.ok []) r
  /-- A file that is neither read as a declaration nor run as a plug-in is passed over. -/
  | passed {p : Path} {ps : List Path} {r r' : Registry} {x : Except RegistryFault (List String)}
    (hdeclaration : ¬ IsDeclaration files p) (hplugin : ¬ IsPlugin files p)
    (rest : Sweep lib files ps r x r') : Sweep lib files (p :: ps) r x r'
  /-- A plug-in only stores what it supplies. -/
  | plugin {p : Path} {ps : List Path} {r r' : Registry} {x : Except RegistryFault (List String)}
    (hplugin : IsPlugin files p)
    (rest : Sweep lib files ps (r.insertAll (pluginSupply lib files p).given) x r') :
    Sweep lib files (p :: ps) r (x.map (pluginNames lib files p r ++ ·)) r'
  | registered {p : Path} {ps : List Path} {text name : String} {r r₁ r' : Registry}
    {x : Except RegistryFault (List String)} (hdeclaration : IsDeclaration files p)
    (htext : files.readText? p = some text)
    (hfile : Surfaced lib p (fileEntries p text .null) r (.ok name) r₁)
    (rest : Sweep lib files ps r₁ x r') : Sweep lib files (p :: ps) r (x.map ([name] ++ ·)) r'
  | refused {p : Path} {ps : List Path} {text : String} {r : Registry} {e : RegistryFault}
    (hdeclaration : IsDeclaration files p) (htext : files.readText? p = some text)
    (hfile : Surfaced lib p (fileEntries p text .null) r (.error e) r) :
    Sweep lib files (p :: ps) r (.error e) r

/-- Where a load of directories goes: through directories in turn, and then to a fault, if one of
them cannot be gone to. -/
structure Itinerary where
  directories : List Path
  fault : Option RegistryFault

/-- The directories that labelled values mean, up to the first one that means none. -/
def itineraryOf (files : Files) : List (String × Value) → Itinerary
  | [] => ⟨[], none⟩
  | (_, v) :: rest =>
    match directoryOf files v with
    | .ok directory =>
      let others := itineraryOf files rest
      ⟨directory :: others.directories, others.fault⟩
    | .error e => ⟨[], some e⟩

/-- Where a load of directories goes. -/
def itinerary (files : Files) (directories : Value) : Itinerary :=
  match labelled directories with
  | .ok items => itineraryOf files items
  | .error e => ⟨[], some e⟩

/-- The files of a directory in the order in which they are loaded. -/
def filesIn (files : Files) (directory : Path) : List Path :=
  if files.isDirectory directory then (files.namesIn directory).map directory.child else []

/-- The files that a load of directories visits, in the order in which it does. -/
def visits (files : Files) (directories : Value) : List Path :=
  (itinerary files directories).directories.flatMap (filesIn files)

/-- What is answered where a fault comes after a load. -/
def endingIn (fault : Option RegistryFault) (x : Except RegistryFault (List String)) :
    Except RegistryFault (List String) :=
  match fault with
  | none => x
  | some e => x >>= fun _ => .error e

/-- A declaration file is read, and it is not stray. -/
def Sound [YamlLibrary] (files : Files) (p : Path) : Prop :=
  ∃ text, files.readText? p = some text ∧ Legible p text ∧ ¬ StrayFile p text .null

/-! ### File by file -/

/-- No plug-in is a declaration. -/
lemma not_isDeclaration_of_isPlugin (files : Files) {p : Path} (h : IsPlugin files p) :
    ¬ IsDeclaration files p := by
  rintro ⟨-, hsuffix, -⟩
  rw [h.2] at hsuffix
  exact absurd hsuffix (by decide)

/-- A place in a directory has the name it was made with. -/
lemma name_child (directory : Path) (name : String) : (directory.child name).name = name := by
  rw [Path.name, Path.child, List.getLast?_concat, Option.getD_some]

/-- Names are put in front of an answer whether or not a fault comes after it. -/
lemma map_endingIn (fault : Option RegistryFault) (x : Except RegistryFault (List String))
    (f : List String → List String) :
    (endingIn fault x).map f = endingIn fault (x.map f) := by
  cases fault with
  | none => rfl
  | some e => cases x <;> rfl

section Sweep

variable [YamlLibrary] (lib : Library) (files : Files)

/-- A computation on a shelf is a load of files one after the other, after which a fault may come.
-/
def SweepOn (s : Shelf) (ps : List Path) (fault : Option RegistryFault)
    (c : Filling (List String)) : Prop :=
  ∃ x, (outcome c s).1 = endingIn fault x ∧
    Sweep lib files ps s.registry x (outcome c s).2.registry

/-- What a load of a directory does with one of its files. -/
def visitFile (p : Path) : Filling (List String) :=
  if isHidden p.name || files.isDirectory p then pure [] else loadFile lib files p

/-- A visible file is loaded. -/
lemma visitFile_of_isVisible {p : Path} (h : IsVisible files p) :
    visitFile lib files p = loadFile lib files p :=
  if_neg (ne_true_of_eq_false h)

/-- Visiting a declaration stores the definition that it gives. -/
lemma visitFile_of_isDeclaration {p : Path} (h : IsDeclaration files p) :
    ∃ c, (∀ s, StoresOn s (definitionAt lib files p) c) ∧
      visitFile lib files p = c >>= fun name => pure [name] := by
  refine ⟨_, fun s => .after_readText files s p fun text =>
    fileDefinition_storesOn lib s p text .null, ?_⟩
  have hplugin : ¬ p.suffix = pluginEnding := fun hsuffix =>
    not_isDeclaration_of_isPlugin files ⟨h.1, hsuffix⟩ h
  have hending : declarationEndings.contains p.suffix = true := List.contains_iff_mem.mpr h.2.1
  rw [visitFile_of_isVisible lib files h.1]
  unfold loadFile
  rw [if_neg hplugin, if_pos hending, h.2.2]
  simp only [bind_assoc]
  rfl

/-- A declaration file that the system refuses to read is skipped with a warning. -/
lemma visitFile_of_refusal? {p : Path} (hvisible : IsVisible files p)
    (hsuffix : p.suffix ∈ declarationEndings) {reason : String}
    (hreason : files.refusal? p = some reason) :
    visitFile lib files p =
      warn ("Skipping unreadable component declaration " ++ p.text ++ ": " ++ reason) >>= fun _ =>
        pure [] := by
  have hplugin : ¬ p.suffix = pluginEnding := by
    intro h
    rw [h] at hsuffix
    exact absurd hsuffix (by decide)
  have hending : declarationEndings.contains p.suffix = true := List.contains_iff_mem.mpr hsuffix
  rw [visitFile_of_isVisible lib files hvisible]
  unfold loadFile
  rw [if_neg hplugin, if_pos hending, hreason]

/-- Visiting a file that is neither a declaration nor a plug-in stores nothing. -/
lemma supplies_visitFile_of_not {p : Path} (hdeclaration : ¬ IsDeclaration files p)
    (hplugin : ¬ IsPlugin files p) : Supplies (visitFile lib files p) .nothing fun _ => [] := by
  by_cases hvisible : IsVisible files p
  · by_cases hsuffix : p.suffix ∈ declarationEndings
    · cases hreason : files.refusal? p with
      | none => exact absurd ⟨hvisible, hsuffix, hreason⟩ hdeclaration
      | some reason =>
        rw [visitFile_of_refusal? lib files hvisible hsuffix hreason]
        exact (supplies_warn _).map fun _ => []
    · have hending : ¬ declarationEndings.contains p.suffix = true := fun h =>
        hsuffix (List.contains_iff_mem.mp h)
      rw [visitFile_of_isVisible lib files hvisible]
      unfold loadFile
      rw [if_neg fun h => hplugin ⟨hvisible, h⟩, if_neg hending]
      exact supplies_pure []
  · unfold visitFile
    rw [if_pos (Bool.not_eq_false _ ▸ hvisible)]
    exact supplies_pure []

/-- Visiting a plug-in stores what it supplies.  The answer has the names that are new, unless the
plug-in has a fault. -/
lemma supplies_visitFile_of_isPlugin {p : Path} (h : IsPlugin files p) :
    Supplies (visitFile lib files p) ⟨(pluginSupply lib files p).given, none⟩
      (pluginNames lib files p) := by
  have hafter : ∀ (before : Registry) (loaded : Bool),
      Supplies
        (if loaded then
          registry >>= fun r => pure (r.types.filter fun t => !before.types.contains t)
        else pure [])
        .nothing
        fun r => if loaded then r.types.filter fun t => !before.types.contains t else [] := by
    intro before loaded
    cases loaded with
    | true => exact supplies_registry.map _
    | false => exact supplies_pure []
  have hload := supplies_registry.bind fun before =>
    (supplies_loadPlugin lib p (pluginAt files p)).bind fun loaded => hafter before loaded
  rw [visitFile_of_isVisible lib files h.1]
  unfold loadFile
  rw [if_pos h.2]
  rw [Supply.andThen_nothing, Supply.nothing_andThen] at hload
  exact hload

/-- Visiting a file is a load of it alone. -/
lemma visitFile_sweepOn {p : Path} {s : Shelf} (hs : s.registry.frozen = false)
    (hsound : IsDeclaration files p → Sound files p) :
    SweepOn lib files s [p] none (visitFile lib files p) := by
  refine ⟨_, rfl, ?_⟩
  by_cases hplugin : IsPlugin files p
  · have hvisit := supplies_visitFile_of_isPlugin lib files hplugin
    have hanswer := hvisit.answer s
    have hleaves := hvisit.leaves s
    have hsweep : Sweep lib files [p] s.registry _ _ := .plugin hplugin (.done _)
    rw [answerOn_of_thawed hs, Supply.result_of_none rfl] at hanswer
    rw [Registry.takeAll_of_thawed hs] at hleaves
    simp only [Except.map, List.append_nil] at hsweep
    rw [hanswer, hleaves]
    exact hsweep
  · by_cases hdeclaration : IsDeclaration files p
    · obtain ⟨text, htext, hlegible, hstray⟩ := hsound hdeclaration
      obtain ⟨c, hc, hvisit⟩ := visitFile_of_isDeclaration lib files hdeclaration
      have hstores := hc s
      unfold definitionAt at hstores
      rw [htext] at hstores
      have hsurfaced := (surfaced_iff lib hlegible (.inl rfl) hs hstores).mpr hstray
      rw [hvisit]
      rcases hrun : outcome c s with ⟨result, t⟩
      rw [hrun] at hsurfaced
      cases result with
      | error e =>
        rw [outcome_bind_of_error hrun]
        -- a file that is refused leaves the registry as it is
        generalize t.registry = r at hsurfaced
        cases hsurfaced with
        | refused hpath => exact .refused hdeclaration htext (.refused hpath)
      | ok name =>
        rw [outcome_bind_of_ok hrun]
        exact .registered hdeclaration htext hsurfaced (.done t.registry)
    · have hvisit := supplies_visitFile_of_not lib files hdeclaration hplugin
      have hanswer := hvisit.answer s
      have hleaves := hvisit.leaves s
      rw [Supply.nothing, answerOn_nil] at hanswer
      rw [Supply.nothing, Registry.takeAll_nil] at hleaves
      rw [hanswer, hleaves]
      exact .passed hdeclaration hplugin (.done s.registry)

variable {lib files}

/-- A load of files does not freeze a registry. -/
lemma Sweep.frozen_eq {ps : List Path} {r r' : Registry} {x : Except RegistryFault (List String)}
    (h : Sweep lib files ps r x r') : r'.frozen = r.frozen := by
  induction h with
  | done r => rfl
  | passed _ _ _ ih => exact ih
  | plugin _ _ ih => exact ih.trans (Registry.frozen_insertAll _ _)
  | registered _ _ hfile _ ih =>
    cases hfile
    exact ih
  | refused _ _ _ => rfl

/-- Files are loaded after others. -/
lemma Sweep.append {ps qs : List Path} {r r₁ r' : Registry} {names : List String}
    {x : Except RegistryFault (List String)} (h : Sweep lib files ps r (.ok names) r₁)
    (h' : Sweep lib files qs r₁ x r') :
    Sweep lib files (ps ++ qs) r (x.map (names ++ ·)) r' := by
  have hmap : ∀ (first rest : List String),
      (x.map (rest ++ ·)).map (first ++ ·) = x.map ((first ++ rest) ++ ·) := by
    intro first rest
    cases x with
    | error e => rfl
    | ok others =>
      simp only [Except.map, List.append_assoc]
  generalize hy : (Except.ok names : Except RegistryFault (List String)) = y at h
  induction h generalizing names with
  | done r =>
    cases hy
    have hnil : x.map ([] ++ ·) = x := by cases x <;> rfl
    rw [hnil]
    exact h'
  | passed hdeclaration hplugin _ ih => exact .passed hdeclaration hplugin (ih h' hy)
  | @plugin p ps r r' z hplugin _ ih =>
    cases z with
    | error e => cases hy
    | ok rest =>
      cases hy
      rw [← hmap]
      exact .plugin hplugin (ih h' rfl)
  | @registered p ps text name r r₁ r' z hdeclaration htext hfile _ ih =>
    cases z with
    | error e => cases hy
    | ok rest =>
      cases hy
      rw [← hmap]
      exact .registered hdeclaration htext hfile (ih h' rfl)
  | refused _ _ _ => cases hy

/-- Files are not loaded after one that is refused. -/
lemma Sweep.append_of_error {ps : List Path} {r r' : Registry} {e : RegistryFault}
    (h : Sweep lib files ps r (.error e) r') (qs : List Path) :
    Sweep lib files (ps ++ qs) r (.error e) r' := by
  generalize hy : (Except.error e : Except RegistryFault (List String)) = y at h
  induction h with
  | done r => cases hy
  | passed hdeclaration hplugin _ ih => exact .passed hdeclaration hplugin (ih hy)
  | @plugin p ps r r' z hplugin _ ih =>
    cases z with
    | error e =>
      cases hy
      exact .plugin hplugin (ih rfl)
    | ok rest => cases hy
  | @registered p ps text name r r₁ r' z hdeclaration htext hfile _ ih =>
    cases z with
    | error e =>
      cases hy
      exact .registered hdeclaration htext hfile (ih rfl)
    | ok rest => cases hy
  | refused hdeclaration htext hfile =>
    cases hy
    exact .refused hdeclaration htext hfile

/-- Loads of files one after the other are a load of all of them. -/
lemma SweepOn.append {ps qs : List Path} {fault : Option RegistryFault}
    {c d : Filling (List String)} {s : Shelf} (hs : s.registry.frozen = false)
    (hc : SweepOn lib files s ps none c)
    (hd : ∀ t : Shelf, t.registry.frozen = false → SweepOn lib files t qs fault d) :
    SweepOn lib files s (ps ++ qs) fault
      (c >>= fun first => d >>= fun others => pure (first ++ others)) := by
  obtain ⟨x, hx, hsweep⟩ := hc
  have hfrozen := hsweep.frozen_eq
  rcases hrun : outcome c s with ⟨result, t⟩
  rw [hrun] at hx hsweep hfrozen
  change result = x at hx
  subst hx
  cases result with
  | error e =>
    refine ⟨.error e, ?_, ?_⟩
    · rw [outcome_bind_of_error hrun]
      cases fault <;> rfl
    · rw [outcome_bind_of_error hrun]
      exact hsweep.append_of_error qs
  | ok first =>
    obtain ⟨y, hy, hrest⟩ := hd t (hfrozen.trans hs)
    refine ⟨y.map (first ++ ·), ?_, ?_⟩
    · rw [outcome_bind_of_ok hrun, outcome_bind_pure, hy]
      exact map_endingIn fault y _
    · rw [outcome_bind_of_ok hrun, outcome_bind_pure]
      exact hsweep.append hrest

variable (lib files)

/-- What holds of the visits of files, of nothing and of faults, and passes to sequences, holds of
loads of directories. -/
lemma loadDirectories_induction
    {R : List Path → Option RegistryFault → Filling (List String) → Prop}
    (hnil : R [] none (pure [])) (hwarn : ∀ text, R [] none (warn text >>= fun _ => pure []))
    (hfault : ∀ e, R [] (some e) (lift (.error e)))
    (happend : ∀ ps qs fault c d, R ps none c → R qs fault d →
      R (ps ++ qs) fault (c >>= fun first => d >>= fun others => pure (first ++ others)))
    (directories : Value)
    (hvisit : ∀ p ∈ visits files directories, R [p] none (visitFile lib files p)) :
    R (visits files directories) (itinerary files directories).fault
      (loadDirectories lib files directories) := by
  have hnames : ∀ (directory : Path) (names : List String),
      (∀ p ∈ names.map directory.child, R [p] none (visitFile lib files p)) →
      R (names.map directory.child) none (loadNames lib files directory names) := by
    intro directory names h
    induction names with
    | nil => exact hnil
    | cons name names ih =>
      rw [List.map_cons, List.forall_mem_cons] at h
      have hfirst := h.1
      unfold visitFile at hfirst
      rw [name_child] at hfirst
      rw [loadNames_cons]
      exact happend _ _ _ _ _ hfirst (ih h.2)
  have hdirectory : ∀ (label : String) (directory : Path),
      (∀ p ∈ filesIn files directory, R [p] none (visitFile lib files p)) →
      R (filesIn files directory) none (loadDirectory lib files label directory) := by
    intro label directory h
    unfold filesIn loadDirectory at *
    by_cases hdirectory : files.isDirectory directory = true
    · rw [if_pos hdirectory] at h
      rw [if_pos hdirectory, if_pos hdirectory]
      exact hnames _ _ h
    · rw [if_neg hdirectory, if_neg hdirectory]
      exact hwarn _
  have hitems : ∀ items : List (String × Value),
      (∀ p ∈ (itineraryOf files items).directories.flatMap (filesIn files),
        R [p] none (visitFile lib files p)) →
      R ((itineraryOf files items).directories.flatMap (filesIn files))
        (itineraryOf files items).fault (loadLabelled lib files items) := by
    intro items h
    induction items with
    | nil => exact hnil
    | cons item items ih =>
      rw [loadLabelled_cons]
      unfold itineraryOf at h ⊢
      cases hmeans : directoryOf files item.2 with
      | error e => exact hfault e
      | ok directory =>
        simp only [hmeans, List.flatMap_cons, List.forall_mem_append] at h ⊢
        exact happend _ _ _ _ _ (hdirectory item.1 directory h.1) (ih h.2)
  unfold visits itinerary loadDirectories at *
  cases hlabelled : labelled directories with
  | error e => exact hfault e
  | ok items =>
    rw [hlabelled] at hvisit
    exact hitems items hvisit

/-- A load of directories is a load of all their files. -/
lemma loadDirectories_sweepOn {directories : Value} {s : Shelf} (hs : s.registry.frozen = false)
    (hsound : ∀ p ∈ visits files directories, IsDeclaration files p → Sound files p) :
    SweepOn lib files s (visits files directories) (itinerary files directories).fault
      (loadDirectories lib files directories) := by
  have hload := loadDirectories_induction lib files
    (R := fun ps fault c => ∀ s : Shelf, s.registry.frozen = false →
      SweepOn lib files s ps fault c)
    (fun s _ => ⟨.ok [], rfl, .done s.registry⟩) (fun _ s _ => ⟨.ok [], rfl, .done s.registry⟩)
    (fun _ s _ => ⟨.ok [], rfl, .done s.registry⟩)
    (fun _ _ _ _ _ hc hd s hs => (hc s hs).append hs hd) directories
    fun p hp s hs => visitFile_sweepOn lib files hs (hsound p hp)
  exact hload s hs

end Sweep

/-! ## Loads that surface -/

/-- A file with a text is there. -/
lemma has_of_readText? {files : Files} {p : Path} {text : String}
    (h : files.readText? p = some text) : files.has p = true := by
  unfold Files.readText? at h
  unfold Files.has
  cases hget : files.get? p with
  | none =>
    rw [hget] at h
    cases h
  | some e => rfl

section Surface

variable [YamlLibrary]

/-- A load of a file that is there stores what its text gives. -/
lemma loadedDefinition_of_readText? (lib : Library) {files : Files} {path : String} {p : Path}
    {text : String} (hpath : declarationPath (.ofText path) = .ok p)
    (htext : files.readText? p = some text) (overrides : Value) :
    loadedDefinition lib files path overrides = fileDefinition lib p text overrides := by
  unfold loadedDefinition
  rw [hpath]
  change (if files.has p = true then _ else _) = _
  rw [if_pos (has_of_readText? htext), htext]

/-- Data have findings unless a type tag cannot be looked up.  On a registry that is not frozen, the
text of a declaration file, with overrides laid over it, is registered or refused exactly if it is
not stray; and directories whose declaration files are not stray are loaded file by file, up to the
first directory that is none or has no home. -/
theorem declarations_surface (lib : Library) (files : Files) :
    (∀ data, (∃ findings, Declaration.validate data = .ok findings) ↔
      ¬ Declaration.HasStrangeTag data) ∧
    (∀ path p text overrides s, declarationPath (.ofText path) = .ok p →
      files.readText? p = some text → Legible p text →
      (overrides = .null ∨ ∃ upper, overrides = .map upper) → s.registry.frozen = false →
      (Surfaced lib p (fileEntries p text overrides) s.registry
        (outcome (loadDeclaration lib files path overrides) s).1
        (outcome (loadDeclaration lib files path overrides) s).2.registry ↔
          ¬ StrayFile p text overrides)) ∧
    ∀ directories s,
      (∀ p ∈ visits files directories, IsDeclaration files p → Sound files p) →
      s.registry.frozen = false →
      ∃ x, (outcome (loadDirectories lib files directories) s).1 =
          endingIn (itinerary files directories).fault x ∧
        Sweep lib files (visits files directories) s.registry x
          (outcome (loadDirectories lib files directories) s).2.registry := by
  refine ⟨Declaration.exists_validate_iff, ?_, ?_⟩
  · intro path p text overrides s hpath htext hlegible hoverrides hs
    have hstores := loadDeclaration_storesOn lib files s path overrides
    rw [loadedDefinition_of_readText? lib hpath htext] at hstores
    exact surfaced_iff lib hlegible hoverrides hs hstores
  · intro directories s hsound hs
    exact loadDirectories_sweepOn lib files hs hsound

end Surface

open scoped Standard

/-- A directory with one declaration, of a name only. -/
def plainFiles : Files :=
  Files.none.add "d/x.yaml" (.octets "name: x\n".toUTF8.toList)

/-- The text of the plain declaration. -/
lemma readText?_plainFiles : plainFiles.readText? (.ofText "d/x.yaml") = some "name: x\n" := by
  decide +kernel

/-- The name and the text of the only entry of data, if it has one. -/
def onlyEntry? : Value → Option (String × String)
  | .map [(.str name, .str s)] => some (name, s)
  | _ => none

/-- Data with one entry are a mapping with it. -/
lemma eq_of_onlyEntry? {x : Except RegistryFault Value} {name s : String}
    (h : x.toOption.bind onlyEntry? = some (name, s)) : x = .ok (.map [(.str name, .str s)]) := by
  cases x with
  | error e => cases h
  | ok v =>
    rw [Except.toOption, Option.bind_some] at h
    unfold onlyEntry? at h
    split at h
    · cases h
      rfl
    · cases h

/-- The data in the text of the plain declaration. -/
lemma parseData_plain :
    parseData (.ofText "d/x.yaml") "name: x\n" = .ok (.map [(.str "name", .str "x")]) :=
  eq_of_onlyEntry? (by decide +kernel)

/-- The plain declaration with overrides. -/
lemma fileEntries_plain (overrides : Value) :
    fileEntries (.ofText "d/x.yaml") "name: x\n" overrides =
      override [(.str "name", .str "x")] overrides := by
  unfold fileEntries parseDeclaration
  rw [parseData_plain]
  rfl

/-- The plain declaration is registered from its file and with its directory. -/
theorem declarations_surface_plain :
    Surfaced .empty (.ofText "d/x.yaml") (.ok [(.str "name", .str "x")]) .empty
      (outcome (loadDeclaration .empty plainFiles "d/x.yaml" .null) Shelf.empty).1
      (outcome (loadDeclaration .empty plainFiles "d/x.yaml" .null) Shelf.empty).2.registry ∧
    Sweep .empty plainFiles [.ofText "d/x.yaml"] .empty
      (outcome (loadDirectories .empty plainFiles (.list [.str "d"])) Shelf.empty).1
      (outcome (loadDirectories .empty plainFiles (.list [.str "d"])) Shelf.empty).2.registry := by
  obtain ⟨-, hfile, hdirectories⟩ := declarations_surface .empty plainFiles
  have hentries : fileEntries (.ofText "d/x.yaml") "name: x\n" .null =
      .ok [(.str "name", .str "x")] := fileEntries_plain .null
  have hlegible : Legible (.ofText "d/x.yaml") "name: x\n" := by
    intro e he
    rw [parseData_plain] at he
    cases he
  have hstray : ¬ StrayFile (.ofText "d/x.yaml") "name: x\n" .null := by
    rintro ⟨entries, he, hstrange | ⟨-, target, htarget, -⟩⟩
    · rw [hentries] at he
      cases he
      exact (Declaration.exists_validate_iff _).mp ⟨_, rfl⟩ hstrange
    · rw [hentries] at he
      cases he
      cases htarget
  have hvisits : visits plainFiles (.list [.str "d"]) = [.ofText "d/x.yaml"] := by decide +kernel
  constructor
  · rw [← hentries]
    exact (hfile "d/x.yaml" _ _ .null Shelf.empty rfl readText?_plainFiles hlegible (.inl rfl)
      rfl).mpr hstray
  · have hsound : ∀ p ∈ visits plainFiles (.list [.str "d"]), IsDeclaration plainFiles p →
        Sound plainFiles p := by
      rw [hvisits]
      intro p hp _
      rw [List.mem_singleton.mp hp]
      exact ⟨_, readText?_plainFiles, hlegible, hstray⟩
    obtain ⟨x, hanswer, hsweep⟩ := hdirectories (.list [.str "d"]) Shelf.empty hsound rfl
    rw [hvisits] at hsweep
    rw [hanswer]
    exact hsweep

/-- A type tag that is a list has no findings, and a transform whose path starts with a dot is a
fault that is none of definitions. -/
theorem strange_declarations_escape :
    (¬ ∃ findings, Declaration.validate (.map [(.str "name", .str "x"),
      (.str "data_requirements", .map [(.str "p", .map [(.str "type", .list [])])])]) =
        .ok findings) ∧
    (outcome (loadDeclaration .empty plainFiles "d/x.yaml"
      (.map [(.str "transform", .str ".a:b")])) Shelf.empty).1 = .error (.relativeImport ".a") := by
  constructor
  · rintro ⟨findings, h⟩
    cases h
  · have hstores := loadDeclaration_storesOn .empty plainFiles Shelf.empty "d/x.yaml"
      (.map [(.str "transform", .str ".a:b")])
    have hpath : declarationPath (.ofText "d/x.yaml") = .ok (.ofText "d/x.yaml") := rfl
    rw [loadedDefinition_of_readText? .empty hpath readText?_plainFiles, fileDefinition,
      fileEntries_plain] at hstores
    have hdeclared :
        (override [(.str "name", .str "x")] (.map [(.str "transform", .str ".a:b")]) >>=
          declared .empty (.ofText "d/x.yaml")) = .error (.relativeImport ".a") := rfl
    rw [hdeclared] at hstores
    -- a fault is passed on
    unfold StoresOn at hstores
    generalize (outcome _ _).1 = x at hstores ⊢
    generalize (outcome _ _).2.registry = r at hstores
    cases hstores
    rfl

end Filling

end PageTree
