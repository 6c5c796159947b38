import PageTree.Proofs.Files
import PageTree.Proofs.Registry.Loading

/-!
# Loads of directories

A load of directories visits their files one after the other.  What it stores and what it answers is
put together from what the single files supply (`Supply.ofFiles`, `listed`): a declaration file
supplies its definition or refuses the load, and a plug-in supplies what it registers and never
refuses.  This is shown for one visit and passes to the load (`supplies_loadDirectories`), which may
end with a fault of its own at a directory that is in a home nobody has (`Supply.ofDirectories`).

Without plug-ins a load is a fold over the declaration files that ends at the first faulty one, and
files that the system refuses to read are passed over (`directories_load_in_order`,
`refused_file_is_passed_over`).  With plug-ins the answer is not always what was registered: it has
the names that declaration files give, but of those that plug-ins register only the new ones
(`listed_names_are_declared_or_new`, `overwritten_name_is_not_listed`).
-/

namespace PageTree

namespace Filling

/-! ## What files supply -/

instance (files : Files) (p : Path) : Decidable (IsVisible files p) :=
  inferInstanceAs (Decidable (_ = _))

instance (files : Files) (p : Path) : Decidable (IsDeclaration files p) :=
  inferInstanceAs (Decidable (_ ∧ _))

instance (files : Files) (p : Path) : Decidable (IsPlugin files p) :=
  inferInstanceAs (Decidable (_ ∧ _))

namespace Supply

/-- A definition is stored, or there is a fault. -/
def ofDefinition : Except RegistryFault (String × Definition) → Supply
  | .ok e => ⟨[e], none⟩
  | .error e => failed e

variable [YamlLibrary] (lib : Library) (files : Files)

/-- What a file of a directory supplies to a load.  The fault of a plug-in is no fault of the
load. -/
def ofFile (p : Path) : Supply :=
  if IsPlugin files p then ⟨(pluginSupply lib files p).given, none⟩
  else if IsDeclaration files p then ofDefinition (definitionAt lib files p)
  else nothing

/-- What files supply that are loaded one after the other. -/
def ofFiles : List Path → Supply
  | [] => nothing
  | p :: ps => (ofFile lib files p).andThen (ofFiles ps)

/-- What a load of directories supplies: what the files do that it visits, and in the end the fault
by which it is stopped, if there is one. -/
def ofDirectories (directories : Value) : Supply :=
  (ofFiles lib files (visits files directories)).andThen ⟨[], (itinerary files directories).fault⟩

variable {lib files}

/-- A plug-in supplies what it registers. -/
lemma ofFile_of_isPlugin {p : Path} (h : IsPlugin files p) :
    ofFile lib files p = ⟨(pluginSupply lib files p).given, none⟩ :=
  if_pos h

/-- A declaration file supplies its definition. -/
lemma ofFile_of_isDeclaration {p : Path} (h : IsDeclaration files p) :
    ofFile lib files p = ofDefinition (definitionAt lib files p) := by
  unfold ofFile
  rw [if_neg fun hplugin => not_isDeclaration_of_isPlugin files hplugin h, if_pos h]

/-- Any other file supplies nothing. -/
lemma ofFile_of_not {p : Path} (hdeclaration : ¬ IsDeclaration files p)
    (hplugin : ¬ IsPlugin files p) : ofFile lib files p = nothing := by
  unfold ofFile
  rw [if_neg hplugin, if_neg hdeclaration]

/-- Files supply what they do after others, if these refuse no load. -/
lemma ofFiles_append (ps qs : List Path) :
    ofFiles lib files (ps ++ qs) = (ofFiles lib files ps).andThen (ofFiles lib files qs) := by
  induction ps with
  | nil => rfl
  | cons p ps ih => rw [List.cons_append, ofFiles, ih, ofFiles, andThen_assoc]

/-- A load of directories stores what their files supply. -/
lemma given_ofDirectories (directories : Value) :
    (ofDirectories lib files directories).given =
      (ofFiles lib files (visits files directories)).given := by
  unfold ofDirectories andThen
  split
  · exact List.append_nil _
  · rfl

/-- The fault of a load is that of a file, or else the one by which it is stopped. -/
lemma fault_ofDirectories (directories : Value) :
    (ofDirectories lib files directories).fault =
      (ofFiles lib files (visits files directories)).fault.or
        (itinerary files directories).fault :=
  fault_andThen

/-- Files that refuse no load supply what each of them supplies. -/
lemma given_ofFiles {ps : List Path} (h : (ofFiles lib files ps).fault = none) :
    (ofFiles lib files ps).given = ps.flatMap fun p => (ofFile lib files p).given := by
  induction ps with
  | nil => rfl
  | cons p ps ih =>
    rw [ofFiles, fault_andThen, Option.or_eq_none_iff] at h
    rw [ofFiles, andThen_of_none h.1, ih h.2, List.flatMap_cons]

end Supply

/-! ## What loads answer -/

/-- A plug-in with a fault is skipped, with a warning (`outcome_loadPlugin_of_fault`). -/
def Skipped (lib : Library) (files : Files) (p : Path) : Prop :=
  IsPlugin files p ∧ (pluginSupply lib files p).fault.isSome = true

/-- The names that a visit of a file answers. -/
def namesOf [YamlLibrary] (lib : Library) (files : Files) (p : Path) (r : Registry) :
    List String :=
  if IsPlugin files p then pluginNames lib files p r
  else (Supply.ofFile lib files p).given.map (·.1)

/-- The names that a load of files answers, if it is not refused. -/
def listed [YamlLibrary] (lib : Library) (files : Files) : List Path → Registry → List String
  | [], _ => []
  | p :: ps, r =>
    namesOf lib files p r ++ listed lib files ps (r.insertAll (Supply.ofFile lib files p).given)

/-- A computation that stores a definition supplies it. -/
lemma supplies_of_storesOn {x : Except RegistryFault (String × Definition)} {c : Filling String}
    (h : ∀ s, StoresOn s x c) :
    Supplies (c >>= fun name => pure [name]) (.ofDefinition x)
      fun _ => (Supply.ofDefinition x).given.map (·.1) := by
  rcases x with e | ⟨name, d⟩
  · have hc : Supplies c (.failed e) fun _ => "" := by
      refine ⟨List.forall_mem_nil _, fun s => ?_, fun s => ?_⟩
      · simp [(h s).of_error.1, Supply.failed, Supply.result]
      · simp [(h s).of_error.2, Supply.failed]
    refine (hc.map fun name => [name]).congr fun hfault => ?_
    exact absurd hfault (Option.some_ne_none e)
  · have hnamed : ∀ e ∈ [(name, d)], e.1 ≠ "" := by
      intro e he
      rw [List.mem_singleton.mp he]
      exact (h Shelf.empty).of_ok.1.resolve_left Bool.false_ne_true
    have hc : Supplies c ⟨[(name, d)], none⟩ fun _ => name :=
      ⟨hnamed, fun s => (h s).of_ok.2.1, fun s => (h s).of_ok.2.2⟩
    exact hc.map fun name => [name]

section Load

variable [YamlLibrary] (lib : Library) (files : Files)

/-- The names of files are listed after those of others, in view of what the others gave. -/
lemma listed_append {ps : List Path} (h : (Supply.ofFiles lib files ps).fault = none)
    (qs : List Path) (r : Registry) :
    listed lib files (ps ++ qs) r = listed lib files ps r ++
      listed lib files qs (r.insertAll (Supply.ofFiles lib files ps).given) := by
  induction ps generalizing r with
  | nil => rfl
  | cons p ps ih =>
    rw [Supply.ofFiles, Supply.fault_andThen, Option.or_eq_none_iff] at h
    rw [Supply.ofFiles, Supply.andThen_of_none h.1, Registry.insertAll_append, List.cons_append,
      listed, listed, ih h.2, List.append_assoc]

/-- A visit of a file stores what the file supplies. -/
lemma supplies_visitFile (p : Path) :
    Supplies (visitFile lib files p) (.ofFile lib files p) (namesOf lib files p) := by
  unfold namesOf
  by_cases hplugin : IsPlugin files p
  · simp only [if_pos hplugin]
    rw [Supply.ofFile_of_isPlugin hplugin]
    exact supplies_visitFile_of_isPlugin lib files hplugin
  · simp only [if_neg hplugin]
    by_cases hdeclaration : IsDeclaration files p
    · obtain ⟨c, hc, hvisit⟩ := visitFile_of_isDeclaration lib files hdeclaration
      rw [Supply.ofFile_of_isDeclaration hdeclaration, hvisit]
      exact supplies_of_storesOn hc
    · rw [Supply.ofFile_of_not hdeclaration hplugin]
      exact supplies_visitFile_of_not lib files hdeclaration hplugin

/-- A load of directories stores what it supplies. -/
theorem supplies_loadDirectories (directories : Value) :
    Supplies (loadDirectories lib files directories) (.ofDirectories lib files directories)
      (listed lib files (visits files directories)) := by
  refine loadDirectories_induction lib files
    (R := fun ps fault c =>
      Supplies c ((Supply.ofFiles lib files ps).andThen ⟨[], fault⟩) (listed lib files ps))
    (supplies_pure []) (fun text => (supplies_warn text).map fun _ => [])
    (fun e => supplies_error e _) ?_ directories ?_
  · intro ps qs fault c d hc hd
    have hboth := hc.bind fun first => hd.map fun others => first ++ others
    change Supplies _ ((Supply.andThen _ .nothing).andThen _) _ at hboth
    rw [Supply.andThen_nothing, ← Supply.andThen_assoc, ← Supply.ofFiles_append] at hboth
    refine hboth.congr fun hfault r => ?_
    rw [Supply.fault_andThen, Supply.ofFiles_append, Supply.fault_andThen, Option.or_eq_none_iff,
      Option.or_eq_none_iff] at hfault
    change listed lib files ps r ++ listed lib files qs
      (r.insertAll (Supply.andThen _ .nothing).given) = _
    rw [Supply.andThen_nothing]
    exact (listed_append lib files hfault.1.1 qs r).symm
  · intro p _
    have hvisit := supplies_visitFile lib files p
    change Supplies _ (Supply.andThen _ .nothing) _
    rw [Supply.andThen_nothing, Supply.ofFiles, Supply.ofFiles, Supply.andThen_nothing]
    refine hvisit.congr fun _ r => ?_
    rw [listed, listed, List.append_nil]

end Load

/-! ## Loads without plug-ins -/

section Fold

variable [YamlLibrary] {lib : Library} {files : Files} {ps : List Path}

/-- Files that all give definitions supply these. -/
lemma ofFiles_of_forall₂ (hplugin : ∀ p ∈ ps, ¬ IsPlugin files p)
    {given : List (String × Definition)}
    (h : List.Forall₂ (fun p e => definitionAt lib files p = .ok e)
      (ps.filter fun p => IsDeclaration files p) given) :
    Supply.ofFiles lib files ps = ⟨given, none⟩ := by
  induction ps generalizing given with
  | nil =>
    rw [List.filter_nil, List.forall₂_nil_left_iff] at h
    rw [h]
    rfl
  | cons p ps ih =>
    rw [List.forall_mem_cons] at hplugin
    by_cases hdeclaration : IsDeclaration files p
    · rw [List.filter_cons_of_pos (by simpa using hdeclaration), List.forall₂_cons_left_iff] at h
      obtain ⟨e, rest, he, hrest, rfl⟩ := h
      rw [Supply.ofFiles, ih hplugin.2 hrest, Supply.ofFile_of_isDeclaration hdeclaration, he]
      rfl
    · rw [List.filter_cons_of_neg (by simpa using hdeclaration)] at h
      rw [Supply.ofFiles, ih hplugin.2 h, Supply.ofFile_of_not hdeclaration hplugin.1]
      rfl

/-- Files that give definitions up to a first fault supply these and the fault. -/
lemma ofFiles_of_error (hplugin : ∀ p ∈ ps, ¬ IsPlugin files p) {before after : List Path}
    {p : Path} (hps : ps.filter (fun p => IsDeclaration files p) = before ++ p :: after)
    {given : List (String × Definition)}
    (hbefore : List.Forall₂ (fun p e => definitionAt lib files p = .ok e) before given)
    {e : RegistryFault} (he : definitionAt lib files p = .error e) :
    Supply.ofFiles lib files ps = ⟨given, some e⟩ := by
  obtain ⟨front, back, rfl, hfront, hback⟩ := List.filter_eq_append_iff.mp hps
  obtain ⟨passed, rest, rfl, hpassed, hp, -⟩ := List.filter_eq_cons_iff.mp hback
  rw [List.forall_mem_append, List.forall_mem_append] at hplugin
  have hfrontSupply : Supply.ofFiles lib files front = ⟨given, none⟩ := by
    refine ofFiles_of_forall₂ hplugin.1 ?_
    rw [hfront]
    exact hbefore
  have hpassedSupply : Supply.ofFiles lib files passed = ⟨[], none⟩ := by
    refine ofFiles_of_forall₂ hplugin.2.1 ?_
    rw [List.filter_eq_nil_iff.mpr hpassed]
    exact .nil
  have hpSupply : Supply.ofFile lib files p = .failed e := by
    rw [Supply.ofFile_of_isDeclaration (by simpa using hp), he]
    rfl
  rw [Supply.ofFiles_append, Supply.ofFiles_append, hfrontSupply, hpassedSupply, Supply.ofFiles,
    hpSupply]
  simp [Supply.andThen, Supply.failed]

/-- The names that files without plug-ins list are those of the definitions that they give. -/
lemma listed_of_not_isPlugin (hplugin : ∀ p ∈ ps, ¬ IsPlugin files p)
    (hfault : (Supply.ofFiles lib files ps).fault = none) (r : Registry) :
    listed lib files ps r = (Supply.ofFiles lib files ps).given.map (·.1) := by
  induction ps generalizing r with
  | nil => rfl
  | cons p ps ih =>
    rw [List.forall_mem_cons] at hplugin
    rw [Supply.ofFiles, Supply.fault_andThen, Option.or_eq_none_iff] at hfault
    rw [listed, namesOf, if_neg hplugin.1, ih hplugin.2 hfault.2, Supply.ofFiles,
      Supply.andThen_of_none hfault.1, List.map_append]

end Fold

/-- A file gives a definition under the name that it declares. -/
lemma definitionAt_eq_ok [YamlLibrary] {lib : Library} {files : Files} {p : Path} {name : String}
    {d : Definition} (h : definitionAt lib files p = .ok (name, d)) :
    ∃ text entries, files.readText? p = some text ∧ fileEntries p text .null = .ok entries ∧
      Entries.lookup entries "name" = .str name ∧
      Definition.ofDeclaration lib (some p.text) name entries = .ok d := by
  unfold definitionAt at h
  cases htext : files.readText? p with
  | none =>
    rw [htext] at h
    cases h
  | some text =>
    rw [htext] at h
    obtain ⟨entries, hentries, hdeclared⟩ := (bind_eq_ok_iff _ _ _).mp h
    obtain ⟨-, hname, hd⟩ := declared_eq_ok lib p hdeclared
    exact ⟨text, entries, rfl, hentries, hname, hd⟩

/-- A file that the system refuses to read is no declaration of a load: it is passed over with a
warning, and the registry stays as it is. -/
lemma refused_file_is_passed_over [YamlLibrary] (lib : Library) {files : Files} {p : Path}
    {reason : String} (hvisible : IsVisible files p) (hsuffix : p.suffix ∈ declarationEndings)
    (hreason : files.refusal? p = some reason) (s : Shelf) :
    ¬ IsDeclaration files p ∧
      outcome (visitFile lib files p) s = (.ok [], { s with notices := s.notices ++
        [Notice.warn ("Skipping unreadable component declaration " ++ p.text ++ ": " ++
          reason)] }) := by
  refine ⟨fun h => ?_, ?_⟩
  · rw [h.2.2] at hreason
    cases hreason
  · rw [visitFile_of_refusal? lib files hvisible hsuffix hreason]
    rfl

/-- A load of directories without plug-ins, on a registry that is not frozen.  The declaration files
are taken directory by directory and, in a directory, in the order of their names; one that the
system refuses to read is passed over with a warning.  If all of them give definitions, these are
stored in this order and their names are the answer, or the fault of a directory that is none or in
a home that nobody has: the directories behind it are not visited.  Otherwise the definitions in
front of the first faulty file are stored, and its fault is the answer.  Each definition is stored
under the name that its file declares; the name then stands for the last one that was stored under
it, and the other names stand for what they stood for. -/
theorem directories_load_in_order [YamlLibrary] (lib : Library) (files : Files)
    {directories : Value} {s : Shelf}
    (hplugin : ∀ p ∈ visits files directories, ¬ IsPlugin files p)
    (hs : s.registry.frozen = false) :
    (∀ given,
      List.Forall₂ (fun p e => definitionAt lib files p = .ok e)
        ((visits files directories).filter fun p => IsDeclaration files p) given →
      (outcome (loadDirectories lib files directories) s).1 =
        endingIn (itinerary files directories).fault (.ok (given.map (·.1))) ∧
      (outcome (loadDirectories lib files directories) s).2.registry =
        s.registry.insertAll given) ∧
    (∀ before p after given e,
      (visits files directories).filter (fun p => IsDeclaration files p) = before ++ p :: after →
      List.Forall₂ (fun p e => definitionAt lib files p = .ok e) before given →
      definitionAt lib files p = .error e →
      (outcome (loadDirectories lib files directories) s).1 = .error e ∧
      (outcome (loadDirectories lib files directories) s).2.registry =
        s.registry.insertAll given) ∧
    (∀ directory, (files.namesIn directory).Pairwise (· < ·)) ∧
    (∀ p reason t, IsVisible files p → p.suffix ∈ declarationEndings →
      files.refusal? p = some reason →
      ¬ IsDeclaration files p ∧
        outcome (visitFile lib files p) t = (.ok [], { t with notices := t.notices ++
          [Notice.warn ("Skipping unreadable component declaration " ++ p.text ++ ": " ++
            reason)] })) ∧
    (∀ p name d, definitionAt lib files p = .ok (name, d) →
      ∃ text entries, files.readText? p = some text ∧ fileEntries p text .null = .ok entries ∧
        Entries.lookup entries "name" = .str name ∧
        Definition.ofDeclaration lib (some p.text) name entries = .ok d) ∧
    ∀ given m,
      (∀ d, Registry.IsLast given m d →
        (s.registry.insertAll given).get? m = some { d with name := m }) ∧
      ((∀ e ∈ given, e.1 ≠ m) → (s.registry.insertAll given).get? m = s.registry.get? m) := by
  have hload := supplies_loadDirectories lib files directories
  have hanswer := hload.answer s
  have hleaves := hload.leaves s
  rw [answerOn_of_thawed hs] at hanswer
  rw [Registry.takeAll_of_thawed hs, Supply.given_ofDirectories] at hleaves
  refine ⟨fun given h => ?_, fun before p after given e hsplit hbefore he => ?_,
    files.pairwise_namesIn, fun p reason t hvisible hsuffix hreason =>
      refused_file_is_passed_over lib hvisible hsuffix hreason t,
    fun _ _ _ => definitionAt_eq_ok, fun given m => ⟨?_, ?_⟩⟩
  · have hsupply := ofFiles_of_forall₂ hplugin h
    have hlisted := listed_of_not_isPlugin hplugin (by rw [hsupply]) s.registry
    rw [hlisted, hsupply] at hanswer
    rw [hsupply] at hleaves
    refine ⟨?_, hleaves⟩
    rw [hanswer, Supply.result, Supply.fault_ofDirectories, hsupply, Option.none_or]
    cases (itinerary files directories).fault <;> rfl
  · have hsupply := ofFiles_of_error hplugin hsplit hbefore he
    rw [hsupply] at hleaves
    refine ⟨?_, hleaves⟩
    rw [hanswer, Supply.result, Supply.fault_ofDirectories, hsupply]
    rfl
  · exact fun d hd => Registry.get?_insertAll_of_isLast _ hd
  · exact Registry.get?_insertAll_of_forall_ne _

section

open scoped Standard

/-- A directory with the plain declaration, an empty file and another declaration. -/
def brokenFiles : Files :=
  (plainFiles.add "d/y.json" (.octets [])).add "d/z.yaml" (.octets "name: z\n".toUTF8.toList)

/-- The plain declaration is stored in front of the empty file, and the last one is not. -/
theorem directories_load_up_to_empty_file :
    ∃ d e, (outcome (loadDirectories .empty brokenFiles (.list [.str "d"])) Shelf.empty).1 =
        .error e ∧
      (outcome (loadDirectories .empty brokenFiles (.list [.str "d"])) Shelf.empty).2.registry =
        Registry.empty.insertAll [("x", d)] := by
  have hnames : brokenFiles.namesIn (.ofText "d") = ["x.yaml", "y.json", "z.yaml"] :=
    List.mergeSort_of_pairwise (l := ["x.yaml", "y.json", "z.yaml"]) (by decide +kernel)
  have hdirectory : brokenFiles.isDirectory (.ofText "d") = true := by decide +kernel
  have hgoes : (itinerary brokenFiles (.list [.str "d"])).directories = [.ofText "d"] := by
    decide +kernel
  have hvisits : visits brokenFiles (.list [.str "d"]) =
      [.ofText "d/x.yaml", .ofText "d/y.json", .ofText "d/z.yaml"] := by
    simp only [visits, hgoes, filesIn, List.flatMap_cons, List.flatMap_nil, if_pos hdirectory,
      hnames]
    decide +kernel
  have hplugin : ∀ p ∈ visits brokenFiles (.list [.str "d"]), ¬ IsPlugin brokenFiles p := by
    rw [hvisits]
    decide +kernel
  have heligible : (visits brokenFiles (.list [.str "d"])).filter
      (fun p => IsDeclaration brokenFiles p) =
        [.ofText "d/x.yaml"] ++ .ofText "d/y.json" :: [.ofText "d/z.yaml"] := by
    rw [hvisits]
    decide +kernel
  obtain ⟨d, hd⟩ : ∃ d, definitionAt .empty brokenFiles (.ofText "d/x.yaml") = .ok ("x", d) := by
    have htext : brokenFiles.readText? (.ofText "d/x.yaml") = some "name: x\n" := by
      decide +kernel
    unfold definitionAt fileDefinition
    simp only [htext, fileEntries_plain]
    exact ⟨_, rfl⟩
  obtain ⟨e, he⟩ : ∃ e, definitionAt .empty brokenFiles (.ofText "d/y.json") = .error e := by
    have htext : brokenFiles.readText? (.ofText "d/y.json") = some "" := by decide +kernel
    unfold definitionAt
    rw [htext]
    exact ⟨_, rfl⟩
  have hthawed : Shelf.empty.registry.frozen = false := rfl
  obtain ⟨-, hfault, -⟩ := directories_load_in_order .empty brokenFiles hplugin hthawed
  exact ⟨d, e, hfault _ _ _ _ e heligible (.cons hd .nil) he⟩

/-- A directory with a declaration that the system refuses to read. -/
def refusedFiles : Files :=
  Files.none.add "d/x.yaml" (.unreadable "[Errno 13] Permission denied: 'd/x.yaml'")

/-- A file that cannot be read is not registered, and a directory that is not there can have an
effect: in a home that nobody has it ends the load. -/
theorem refused_file_and_lost_home_are_not_loaded :
    ((outcome (loadDirectories .empty refusedFiles (.list [.str "d"])) Shelf.empty).1 = .ok [] ∧
      (outcome (loadDirectories .empty refusedFiles (.list [.str "d"])) Shelf.empty).2.registry =
        Registry.empty) ∧
    (plainFiles.isDirectory (.ofText "~unknown/d") = false ∧
      (outcome (loadDirectories .empty plainFiles (.list [.str "~unknown/d", .str "d"]))
        Shelf.empty).1 = .error .noHome ∧
      (outcome (loadDirectories .empty plainFiles (.list [.str "~unknown/d", .str "d"]))
        Shelf.empty).2.registry = Registry.empty) := by
  have hrefused : ∀ p ∈ visits refusedFiles (.list [.str "d"]), ¬ IsPlugin refusedFiles p := by
    decide +kernel
  have hlost : ∀ p ∈ visits plainFiles (.list [.str "~unknown/d", .str "d"]),
      ¬ IsPlugin plainFiles p := by
    decide +kernel
  have hdeclarations : (visits refusedFiles (.list [.str "d"])).filter
      (fun p => IsDeclaration refusedFiles p) = [] := by
    decide +kernel
  have hvisits : visits plainFiles (.list [.str "~unknown/d", .str "d"]) = [] := by decide +kernel
  have hthawed : Shelf.empty.registry.frozen = false := rfl
  obtain ⟨hpassed, -⟩ := directories_load_in_order .empty refusedFiles hrefused hthawed
  obtain ⟨hended, -⟩ := directories_load_in_order .empty plainFiles hlost hthawed
  rw [hdeclarations] at hpassed
  rw [hvisits] at hended
  exact ⟨hpassed [] .nil, by decide +kernel, hended [] .nil⟩

end

/-! ## Names that a load lists -/

/-- A declaration file gives a definition of a name. -/
def Declares [YamlLibrary] (lib : Library) (files : Files) (p : Path) (m : String) : Prop :=
  IsDeclaration files p ∧ ∃ d, definitionAt lib files p = .ok (m, d)

/-- A plug-in registers a definition of a name. -/
def Hooks (lib : Library) (files : Files) (p : Path) (m : String) : Prop :=
  IsPlugin files p ∧ m ∈ (pluginSupply lib files p).given.map (·.1)

/-- The new names are those of definitions under which nothing was stored. -/
lemma mem_fresh_iff (r : Registry) (given : List (String × Definition)) (m : String) :
    m ∈ fresh r given ↔ m ∈ given.map (·.1) ∧ r.has m = false := by
  unfold fresh
  rw [List.mem_filter, Registry.mem_types_iff, Registry.has_insertAll, Bool.not_eq_true',
    Bool.eq_false_iff, Ne, List.contains_iff_mem, Registry.mem_types_iff, Bool.eq_false_iff]
  tauto

section Listed

variable [YamlLibrary] {lib : Library} {files : Files}

/-- The names that a file supplies. -/
lemma mem_given_ofFile_iff (p : Path) (m : String) :
    m ∈ (Supply.ofFile lib files p).given.map (·.1) ↔
      Declares lib files p m ∨ Hooks lib files p m := by
  unfold Declares Hooks
  by_cases hplugin : IsPlugin files p
  · have hdeclaration := not_isDeclaration_of_isPlugin files hplugin
    rw [Supply.ofFile_of_isPlugin hplugin]
    simp [hplugin, hdeclaration]
  · by_cases hdeclaration : IsDeclaration files p
    · rw [Supply.ofFile_of_isDeclaration hdeclaration]
      cases hd : definitionAt lib files p with
      | error e => simp [hplugin, Supply.ofDefinition, Supply.failed]
      | ok e =>
        obtain ⟨name, d⟩ := e
        simp [hplugin, hdeclaration, Supply.ofDefinition, eq_comm]
    · rw [Supply.ofFile_of_not hdeclaration hplugin]
      simp [hplugin, hdeclaration, Supply.nothing]

/-- A visit lists what a declaration gives, and of what a plug-in registers the names that are
new. -/
lemma mem_namesOf_iff {p : Path} (hskipped : ¬ Skipped lib files p) (r : Registry) (m : String) :
    m ∈ namesOf lib files p r ↔
      Declares lib files p m ∨ (r.has m = false ∧ Hooks lib files p m) := by
  unfold namesOf
  by_cases hplugin : IsPlugin files p
  · have hfault : (pluginSupply lib files p).fault.isNone = true := by
      rw [Option.isNone_iff_eq_none, ← Option.not_isSome_iff_eq_none]
      exact fun h => hskipped ⟨hplugin, h⟩
    have hdeclaration : ¬ Declares lib files p m :=
      fun h => not_isDeclaration_of_isPlugin files hplugin h.1
    rw [if_pos hplugin, pluginNames, if_pos hfault, mem_fresh_iff, Hooks]
    tauto
  · rw [if_neg hplugin, mem_given_ofFile_iff, Hooks]
    tauto

/-- A load lists what declarations give, and of what plug-ins register the names that were new when
the load began. -/
lemma mem_listed_iff {ps : List Path} (hskipped : ∀ p ∈ ps, ¬ Skipped lib files p) (r : Registry)
    (m : String) :
    m ∈ listed lib files ps r ↔ (∃ p ∈ ps, Declares lib files p m) ∨
      (r.has m = false ∧ ∃ p ∈ ps, Hooks lib files p m) := by
  induction ps generalizing r with
  | nil => simp [listed]
  | cons p ps ih =>
    rw [List.forall_mem_cons] at hskipped
    have hhas := Registry.has_insertAll r (Supply.ofFile lib files p).given m
    rw [mem_given_ofFile_iff] at hhas
    rw [listed, List.mem_append, mem_namesOf_iff hskipped.1, ih hskipped.2, Bool.eq_false_iff,
      Bool.eq_false_iff, Ne, Ne, hhas]
    simp only [List.mem_cons, exists_eq_or_imp]
    by_cases hdeclares : Declares lib files p m
    · simp [hdeclares]
    · by_cases hhooks : Hooks lib files p m
      · simp [hdeclares, hhooks, or_comm]
      · simp [hdeclares, hhooks]

end Listed

/-- A load that is not refused has stored all that its files give, also if this is nothing. -/
lemma registry_of_loaded [YamlLibrary] {lib : Library} {files : Files} {directories : Value}
    {s : Shelf} {names : List String}
    (hload : (outcome (loadDirectories lib files directories) s).1 = .ok names) :
    names = listed lib files (visits files directories) s.registry ∧
      (outcome (loadDirectories lib files directories) s).2.registry = s.registry.insertAll
        ((visits files directories).flatMap fun p => (Supply.ofFile lib files p).given) := by
  have hsupplies := supplies_loadDirectories lib files directories
  have hanswer := hsupplies.answer s
  have hleaves := hsupplies.leaves s
  rcases answerOn_cases s.registry (Supply.ofDirectories lib files directories).given with
    ⟨htaken, h⟩ | ⟨-, name, h⟩
  · rw [h, hload] at hanswer
    cases hfault : (Supply.ofDirectories lib files directories).fault with
    | none =>
      rw [Supply.result_of_none hfault, Except.ok.injEq] at hanswer
      rw [Supply.fault_ofDirectories, Option.or_eq_none_iff] at hfault
      rw [htaken, Supply.given_ofDirectories, Supply.given_ofFiles hfault.1] at hleaves
      exact ⟨hanswer, hleaves⟩
    | some e =>
      rw [Supply.result_of_some hfault] at hanswer
      cases hanswer
  · rw [h, hload] at hanswer
    cases hanswer

/-- A load of directories that skips no plug-in and is not refused, on any registry.  All that its
files give is stored.  The answer has the names that declaration files give, and those that plug-ins
register where nothing was stored before the load.  So it has all names that were registered exactly
if each name that a plug-in registered anew is also given by a declaration file. -/
theorem listed_names_are_declared_or_new [YamlLibrary] (lib : Library) (files : Files)
    {directories : Value} {s : Shelf} {names : List String}
    (hskipped : ∀ p ∈ visits files directories, ¬ Skipped lib files p)
    (hload : (outcome (loadDirectories lib files directories) s).1 = .ok names) :
    (outcome (loadDirectories lib files directories) s).2.registry = s.registry.insertAll
      ((visits files directories).flatMap fun p => (Supply.ofFile lib files p).given) ∧
    (∀ m, m ∈ names ↔ (∃ p ∈ visits files directories, Declares lib files p m) ∨
      (s.registry.has m = false ∧ ∃ p ∈ visits files directories, Hooks lib files p m)) ∧
    ((∀ m, m ∈ names ↔
        ∃ p ∈ visits files directories, Declares lib files p m ∨ Hooks lib files p m) ↔
      ∀ p ∈ visits files directories, ∀ m, Hooks lib files p m → s.registry.has m = true →
        ∃ p' ∈ visits files directories, Declares lib files p' m) := by
  obtain ⟨rfl, hregistry⟩ := registry_of_loaded hload
  have hnames := mem_listed_iff hskipped s.registry
  refine ⟨hregistry, hnames, ?_⟩
  constructor
  · intro hall p hp m hhooks hhas
    have hlisted := (hall m).mpr ⟨p, hp, .inr hhooks⟩
    rcases (hnames m).mp hlisted with hdeclares | ⟨hnew, -⟩
    · exact hdeclares
    · rw [hhas] at hnew
      cases hnew
  · intro hdeclared m
    rw [hnames]
    constructor
    · rintro (⟨p, hp, h⟩ | ⟨-, p, hp, h⟩)
      · exact ⟨p, hp, .inl h⟩
      · exact ⟨p, hp, .inr h⟩
    · rintro ⟨p, hp, h | h⟩
      · exact .inl ⟨p, hp, h⟩
      · by_cases hhas : s.registry.has m = true
        · exact .inl (hdeclared p hp m h hhas)
        · exact .inr ⟨Bool.eq_false_iff.mpr hhas, p, hp, h⟩

open scoped Standard

/-- A directory with a plug-in that registers one name. -/
def hookFiles : Files :=
  Files.none.add "d/m.py" (.plugin ⟨none, true, [("x", .null)], none⟩)

/-- The plug-in is the only file that is visited, and it is not skipped. -/
lemma visits_hookFiles : visits hookFiles (.list [.str "d"]) = [.ofText "d/m.py"] ∧
    Hooks .empty hookFiles (.ofText "d/m.py") "x" ∧
    ¬ Skipped .empty hookFiles (.ofText "d/m.py") := by
  refine ⟨by decide +kernel, ⟨by decide +kernel, ?_⟩, ?_⟩
  · exact List.mem_singleton.mpr rfl
  · rintro ⟨-, h⟩
    cases h

/-- A name that is new is listed. -/
theorem listed_names_are_new_in_empty_registry :
    (outcome (loadDirectories .empty hookFiles (.list [.str "d"])) Shelf.empty).1 = .ok ["x"] ∧
    ∀ m, m ∈ ["x"] ↔ ∃ p ∈ visits hookFiles (.list [.str "d"]),
      Declares .empty hookFiles p m ∨ Hooks .empty hookFiles p m := by
  obtain ⟨hvisits, -, hskipped⟩ := visits_hookFiles
  have hload : (outcome (loadDirectories .empty hookFiles (.list [.str "d"])) Shelf.empty).1 =
      .ok ["x"] := (toOption_eq_some_iff _ _).mp (by decide +kernel)
  have hall : ∀ p ∈ visits hookFiles (.list [.str "d"]), ¬ Skipped .empty hookFiles p := by
    rw [hvisits]
    exact List.forall_mem_singleton.mpr hskipped
  obtain ⟨-, -, hiff⟩ := listed_names_are_declared_or_new .empty hookFiles hall hload
  refine ⟨hload, hiff.mpr ?_⟩
  intro p _ m _ hhas
  cases hhas

/-- A name that a plug-in registers anew is not listed: the load answers nothing, although it stores
a definition under the name. -/
theorem overwritten_name_is_not_listed :
    (outcome (loadDirectories .empty hookFiles (.list [.str "d"]))
      ⟨Registry.empty.insert "x" (Definition.blank "x"), []⟩).1 = .ok [] ∧
    ∃ p ∈ visits hookFiles (.list [.str "d"]),
      Hooks .empty hookFiles p "x" ∧ ¬ Skipped .empty hookFiles p := by
  obtain ⟨hvisits, hhooks, hskipped⟩ := visits_hookFiles
  refine ⟨(toOption_eq_some_iff _ _).mp (by decide +kernel), .ofText "d/m.py", ?_, hhooks,
    hskipped⟩
  rw [hvisits]
  exact List.mem_singleton.mpr rfl

end Filling

end PageTree
