import PageTree.Proofs.Validation.Declaration
import PageTree.Registry.Loading

/-!
# The definition of a declaration file

A declaration file is parsed, overridden, validated and made a definition before anything is stored,
so what it gives does not depend on a registry: `fileDefinition` is the definition or the fault.

The fault is one of definitions and names the file, but for two kinds of declarations (`Stray`):
those with a type tag that cannot be looked up, and those that validate but name their transform by
a path that starts with a dot (`surfaces_iff`).
-/

namespace PageTree

/-! ## Transforms by path -/

namespace Library

/-- The path of a function starts with a dot. -/
def Relative (target : String) : Prop :=
  ∃ home member, Text.cut? ':' target.toList = some (home, member) ∧ member ≠ [] ∧
    home.head? = some '.'

variable (lib : Library) (source : Option String)

/-- A path with a module and a function in it is relative if the module starts with a dot. -/
lemma relative_iff {target : String} {home member : List Char}
    (hcut : Text.cut? ':' target.toList = some (home, member)) (hmember : member ≠ []) :
    Relative target ↔ home.head? = some '.' := by
  constructor
  · rintro ⟨home', member', hsome, -, hhead⟩
    rw [hcut] at hsome
    cases hsome
    exact hhead
  · intro hhead
    exact ⟨home, member, hcut, hmember, hhead⟩

/-- A path that is not relative leads to a function or is a fault of the definition. -/
lemma error_of_resolve_of_not_relative {target : String} {e : RegistryFault}
    (hrelative : ¬ Relative target) (h : lib.resolve source target = .error e) :
    ∃ c, e = .definition ⟨c, source, []⟩ := by
  unfold resolve at h
  cases hcut : Text.cut? ':' target.toList with
  | none =>
    rw [hcut] at h
    cases h
    exact ⟨_, rfl⟩
  | some p =>
    obtain ⟨home, member⟩ := p
    simp only [hcut] at h
    by_cases hempty : (decide (home = []) || decide (member = [])) = true
    · rw [if_pos hempty] at h
      cases h
      exact ⟨_, rfl⟩
    · have hmember : member ≠ [] := by
        rintro rfl
        exact hempty (Bool.or_true _)
      rw [if_neg hempty, if_neg (mt (relative_iff hcut hmember).mpr hrelative)] at h
      -- the module is looked up, and then the function in it
      split at h
      · cases h
        exact ⟨_, rfl⟩
      · split at h
        · cases h
        · split at h
          · cases h
            exact ⟨_, rfl⟩
          · cases h
            exact ⟨_, rfl⟩

/-- A path that starts with a dot leads nowhere. -/
lemma resolve_of_relative {target : String} (h : Relative target) :
    ∃ home, lib.resolve source target = .error (.relativeImport home) := by
  obtain ⟨home, member, hcut, hmember, hhead⟩ := h
  have hhome : home ≠ [] := by
    rintro rfl
    cases hhead
  have hempty : ¬ (decide (home = []) || decide (member = [])) = true := by
    simp [hhome, hmember]
  refine ⟨String.ofList home, ?_⟩
  unfold resolve
  simp only [hcut, if_neg hempty, if_pos hhead]

/-- A path that does not lead to a function is a fault of the definition, unless it starts with a
dot. -/
lemma error_of_resolve {target : String} {e : RegistryFault}
    (h : lib.resolve source target = .error e) :
    (¬ Relative target ∧ ∃ c, e = .definition ⟨c, source, []⟩) ∨
      (Relative target ∧ ∃ home, e = .relativeImport home) := by
  by_cases hrelative : Relative target
  · obtain ⟨home, hhome⟩ := resolve_of_relative lib source hrelative
    rw [hhome] at h
    cases h
    exact .inr ⟨hrelative, home, rfl⟩
  · exact .inl ⟨hrelative, error_of_resolve_of_not_relative lib source hrelative h⟩

/-- What keeps a transform from being run is its path. -/
lemma resolve_of_actionOf {v : Value} {e : RegistryFault} (h : lib.actionOf source v = .error e) :
    ∃ target, v = .str target ∧ lib.resolve source target = .error e := by
  cases v with
  | str target =>
    rw [actionOf] at h
    cases hresolve : lib.resolve source target with
    | ok t =>
      rw [hresolve] at h
      cases h
    | error e' =>
      rw [hresolve] at h
      cases h
      exact ⟨target, rfl, hresolve⟩
  | callable handle =>
    rw [actionOf] at h
    split at h
    · cases h
    · cases h
  | _ => cases h

end Library

/-! ## Definitions of accepted declarations -/

namespace Requirement

/-- A requirement with a known tag can be read. -/
lemma exists_ofValue {spec : Value} (h : Declaration.Tagged spec) (name : Key) :
    ∃ q, ofValue name spec = .ok q := by
  obtain ⟨s, t, -, rfl | ⟨es, rfl, -⟩⟩ := h
  · exact ⟨_, rfl⟩
  · exact ⟨_, rfl⟩

/-- Requirements with known tags can be read. -/
lemma exists_ofEntries {es : Entries} (h : ∀ e ∈ es, Declaration.Tagged e.2) :
    ∃ qs, ofEntries es = .ok qs := by
  induction es with
  | nil => exact ⟨[], rfl⟩
  | cons e es ih =>
    obtain ⟨name, spec⟩ := e
    rw [List.forall_mem_cons] at h
    obtain ⟨q, hq⟩ := exists_ofValue h.1 name
    obtain ⟨qs, hqs⟩ := ih h.2
    refine ⟨(name, q) :: qs, ?_⟩
    rw [ofEntries]
    exact (bind_eq_ok_iff _ _ _).mpr ⟨q, hq, (bind_eq_ok_iff _ _ _).mpr ⟨qs, hqs, rfl⟩⟩

/-- Requirements that are read have the names and come from the specifications that are given. -/
lemma forall₂_ofEntries {es : Entries} {qs : List (Key × Requirement)} (h : ofEntries es = .ok qs) :
    List.Forall₂ (fun e q => e.1 = q.1 ∧ ofValue e.1 e.2 = .ok q.2) es qs := by
  induction es generalizing qs with
  | nil =>
    cases h
    exact .nil
  | cons e es ih =>
    obtain ⟨name, spec⟩ := e
    rw [ofEntries] at h
    obtain ⟨q, hq, hrest⟩ := (bind_eq_ok_iff _ _ _).mp h
    obtain ⟨others, hothers, hlast⟩ := (bind_eq_ok_iff _ _ _).mp hrest
    cases hlast
    exact .cons ⟨rfl, hq⟩ (ih hothers)

end Requirement

namespace Definition

variable (lib : Library) (source : Option String) (name : String)

/-- Without a transform to run there is no definition. -/
lemma ofDeclaration_of_error {entries : Entries} {e : RegistryFault}
    (h : lib.actionOf source (Entries.lookup entries "transform") = .error e) :
    ofDeclaration lib source name entries = .error e := by
  unfold ofDeclaration
  rw [h]
  rfl

/-- A declaration gives a definition exactly if its parts can be read. -/
lemma ofDeclaration_eq_ok_iff (entries : Entries) (d : Definition) :
    ofDeclaration lib source name entries = .ok d ↔
      ∃ action defaults requirements qs,
        lib.actionOf source (Entries.lookup entries "transform") = .ok action ∧
        mappingEntry entries "default_config" = .ok defaults ∧
        mappingEntry entries "data_requirements" = .ok requirements ∧
        Requirement.ofEntries requirements = .ok qs ∧
        d = { name, defaults, requirements := qs, action, source,
              description := (Entries.find? entries "description").getD (.str "") } := by
  unfold ofDeclaration
  constructor
  · intro h
    obtain ⟨action, haction, hparts⟩ := (bind_eq_ok_iff _ _ _).mp h
    obtain ⟨defaults, hdefaults, hrest⟩ := (bind_eq_ok_iff _ _ _).mp
      ((mapError_eq_ok_iff _ _ _).mp hparts)
    obtain ⟨requirements, hrequirements, hlast⟩ := (bind_eq_ok_iff _ _ _).mp hrest
    obtain ⟨qs, hqs, hd⟩ := (bind_eq_ok_iff _ _ _).mp hlast
    cases hd
    exact ⟨action, defaults, requirements, qs, haction, hdefaults, hrequirements, hqs, rfl⟩
  · rintro ⟨action, defaults, requirements, qs, haction, hdefaults, hrequirements, hqs, rfl⟩
    refine (bind_eq_ok_iff _ _ _).mpr ⟨action, haction, (mapError_eq_ok_iff _ _ _).mpr ?_⟩
    refine (bind_eq_ok_iff _ _ _).mpr ⟨defaults, hdefaults, ?_⟩
    refine (bind_eq_ok_iff _ _ _).mpr ⟨requirements, hrequirements, ?_⟩
    exact (bind_eq_ok_iff _ _ _).mpr ⟨qs, hqs, rfl⟩

/-- Where there is no definition, a part of it is at fault or the transform is. -/
lemma error_of_ofDeclaration {entries : Entries} {e : RegistryFault}
    (h : ofDeclaration lib source name entries = .error e) :
    (∃ f, e = .fault f) ∨
      lib.actionOf source (Entries.lookup entries "transform") = .error e := by
  unfold ofDeclaration at h
  cases haction : lib.actionOf source (Entries.lookup entries "transform") with
  | error e' =>
    rw [haction] at h
    cases h
    exact .inr rfl
  | ok action =>
    rw [haction] at h
    obtain ⟨f, -, hf⟩ := (mapError_eq_error_iff _ _ _).mp h
    exact .inl ⟨f, hf.symm⟩

/-- An accepted declaration with a transform to run gives a definition. -/
lemma exists_ofDeclaration {entries : Entries} (haccepted : Declaration.Accepted entries)
    {action : Option Action}
    (h : lib.actionOf source (Entries.lookup entries "transform") = .ok action) :
    ∃ d, ofDeclaration lib source name entries = .ok d := by
  obtain ⟨defaults, hdefaults⟩ := haccepted.defaults
  obtain ⟨requirements, hrequirements, htagged⟩ := haccepted.requirements
  obtain ⟨qs, hqs⟩ := Requirement.exists_ofEntries htagged
  refine ⟨_, (ofDeclaration_eq_ok_iff lib source name entries _).mpr
    ⟨action, defaults, requirements, qs, h, ?_, ?_, hqs, rfl⟩⟩
  · rw [mappingEntry, hdefaults, Value.toEntries]
  · rw [mappingEntry, hrequirements, Value.toEntries]

end Definition

namespace Filling

/-! ## The definition of a file -/

/-- The definition that the declaration in a file gives, with its name. -/
def declared (lib : Library) (path : Path) (entries : Entries) :
    Except RegistryFault (String × Definition) := do
  let findings ← (Declaration.validate (.map entries)).mapError .fault
  if findings.valid then
    let name := (Entries.lookup entries "name").text
    let d ← Definition.ofDeclaration lib (some path.text) name entries
    return (name, d)
  else .error (faultIn path (.invalid path.text) (findings.errors.map (·.message)))

/-- The declaration in the text of a file, with overrides laid over it. -/
def fileEntries [YamlLibrary] (path : Path) (text : String) (overrides : Value) :
    Except RegistryFault Entries := do
  let entries ← parseDeclaration path text
  override entries overrides

/-- The definition that the text of a file gives. -/
def fileDefinition [YamlLibrary] (lib : Library) (path : Path) (text : String)
    (overrides : Value) : Except RegistryFault (String × Definition) := do
  let entries ← fileEntries path text overrides
  declared lib path entries

/-- The definition that a declaration file gives. -/
def loadedDefinition [YamlLibrary] (lib : Library) (files : Files) (path : String)
    (overrides : Value) : Except RegistryFault (String × Definition) := do
  let path ← declarationPath (.ofText path)
  if files.has path then
    match files.readText? path with
    | some text => fileDefinition lib path text overrides
    | none => .error (readFault files path)
  else .error (faultIn path (.noFile path.text) [])

section Declared

variable (lib : Library) (path : Path)

/-- The findings about a declaration decide what is made of it. -/
lemma declared_of_findings {entries : Entries} {findings : Findings}
    (h : Declaration.validate (.map entries) = .ok findings) :
    declared lib path entries =
      if findings.valid = true then
        (Definition.ofDeclaration lib (some path.text) (Entries.lookup entries "name").text
          entries).map fun d => ((Entries.lookup entries "name").text, d)
      else .error (faultIn path (.invalid path.text) (findings.errors.map (·.message))) := by
  unfold declared
  rw [h]
  rfl

/-- A declaration without findings is a fault that is none of definitions. -/
lemma declared_of_strange {entries : Entries} (h : Declaration.HasStrangeTag (.map entries)) :
    ∃ e, declared lib path entries = .error (.fault e) := by
  unfold declared
  cases hvalidate : Declaration.validate (.map entries) with
  | error e => exact ⟨e, rfl⟩
  | ok findings =>
    exact absurd h ((Declaration.exists_validate_iff _).mp ⟨findings, hvalidate⟩)

/-- What a declaration gives has the name that the declaration has, and this is not empty. -/
lemma declared_eq_ok {entries : Entries} {name : String} {d : Definition}
    (h : declared lib path entries = .ok (name, d)) :
    name ≠ "" ∧ Entries.lookup entries "name" = .str name ∧
      Definition.ofDeclaration lib (some path.text) name entries = .ok d := by
  obtain ⟨findings, hfindings, hrest⟩ := (bind_eq_ok_iff _ _ _).mp h
  rw [mapError_eq_ok_iff] at hfindings
  rw [declared_of_findings lib path hfindings] at h
  by_cases hvalid : findings.valid = true
  · rw [if_pos hvalid] at h
    obtain ⟨s, hs, hempty⟩ := (Declaration.accepted_of_valid hfindings hvalid).name
    obtain ⟨d', hd, hpair⟩ := (map_eq_ok_iff _ _ _).mp h
    rw [hs, Value.text] at hd hpair
    cases hpair
    exact ⟨hempty, hs, hd⟩
  · rw [if_neg hvalid] at h
    cases h

end Declared

/-! ## Stray declarations -/

/-- A declaration that is neither stored nor refused: a type tag cannot be looked up, or it is valid
and names its transform by a path that starts with a dot. -/
def Stray (entries : Entries) : Prop :=
  Declaration.HasStrangeTag (.map entries) ∨
    (∃ findings, Declaration.validate (.map entries) = .ok findings ∧ findings.valid = true) ∧
      ∃ target, Entries.lookup entries "transform" = .str target ∧ Library.Relative target

/-- What a file gives is a definition, or a fault of definitions that names the file. -/
def Surfaces (path : Path) (x : Except RegistryFault (String × Definition)) : Prop :=
  (∃ name d, x = .ok (name, d)) ∨ ∃ e, x = .error (.definition e) ∧ e.path = some path.text

section Surfaces

variable (lib : Library) (path : Path)

/-- A fault that is none of definitions does not surface. -/
lemma not_surfaces_of_error {x : Except RegistryFault (String × Definition)} {e : RegistryFault}
    (h : x = .error e) (he : ∀ f, e ≠ .definition f) : ¬ Surfaces path x := by
  rintro (⟨name, d, hok⟩ | ⟨f, hf, -⟩)
  · rw [h] at hok
    cases hok
  · rw [h] at hf
    cases hf
    exact he f rfl

/-- The definition of an accepted declaration surfaces unless its transform has a path that starts
with a dot. -/
lemma surfaces_of_accepted {entries : Entries} (haccepted : Declaration.Accepted entries)
    (name : String) :
    Surfaces path ((Definition.ofDeclaration lib (some path.text) name entries).map (name, ·)) ↔
      ¬ ∃ target, Entries.lookup entries "transform" = .str target ∧ Library.Relative target := by
  cases haction : lib.actionOf (some path.text) (Entries.lookup entries "transform") with
  | ok action =>
    obtain ⟨d, hd⟩ := Definition.exists_ofDeclaration lib (some path.text) name haccepted haction
    rw [hd]
    refine iff_of_true (.inl ⟨_, d, rfl⟩) ?_
    rintro ⟨target, htarget, hrelative⟩
    obtain ⟨home, hhome⟩ := lib.resolve_of_relative (some path.text) hrelative
    rw [htarget, Library.actionOf, hhome] at haction
    cases haction
  | error e =>
    obtain ⟨target, htarget, hresolve⟩ := lib.resolve_of_actionOf _ haction
    rw [Definition.ofDeclaration_of_error lib _ _ haction]
    rcases lib.error_of_resolve _ hresolve with ⟨hrelative, c, rfl⟩ | ⟨hrelative, home, rfl⟩
    · refine iff_of_true (.inr ⟨_, rfl, rfl⟩) ?_
      rintro ⟨target', htarget', hrelative'⟩
      rw [htarget] at htarget'
      cases htarget'
      exact hrelative hrelative'
    · exact iff_of_false (not_surfaces_of_error path rfl nofun)
        fun h => h ⟨target, htarget, hrelative⟩

/-- The declarations that surface are those that are not stray. -/
lemma surfaces_declared_iff (entries : Entries) :
    Surfaces path (declared lib path entries) ↔ ¬ Stray entries := by
  by_cases hstrange : Declaration.HasStrangeTag (.map entries)
  · obtain ⟨e, he⟩ := declared_of_strange lib path hstrange
    exact iff_of_false (not_surfaces_of_error path he nofun) fun h => h (.inl hstrange)
  · obtain ⟨findings, hfindings⟩ := (Declaration.exists_validate_iff _).mpr hstrange
    have hstray : Stray entries ↔ findings.valid = true ∧
        ∃ target, Entries.lookup entries "transform" = .str target ∧ Library.Relative target := by
      constructor
      · rintro (h | ⟨⟨findings', hfindings', hvalid⟩, htarget⟩)
        · exact absurd h hstrange
        · rw [hfindings'] at hfindings
          cases hfindings
          exact ⟨hvalid, htarget⟩
      · rintro ⟨hvalid, htarget⟩
        exact .inr ⟨⟨findings, hfindings, hvalid⟩, htarget⟩
    rw [declared_of_findings lib path hfindings, hstray]
    by_cases hvalid : findings.valid = true
    · rw [if_pos hvalid, surfaces_of_accepted lib path
        (Declaration.accepted_of_valid hfindings hvalid)]
      exact not_congr (and_iff_right hvalid).symm
    · rw [if_neg hvalid]
      exact iff_of_true (.inr ⟨_, rfl, rfl⟩) fun h => hvalid h.1

variable [YamlLibrary]

/-- The text of a file is data, or no document of its format.  What is left out are documents whose
data cannot be made, as if a numeral has too many digits. -/
def Legible (path : Path) (text : String) : Prop :=
  ∀ e, parseData path text ≠ .error (.fault e)

/-- A text that is not data is a fault that names the file. -/
lemma error_of_parseData {path : Path} {text : String} (hlegible : Legible path text)
    {e : RegistryFault} (h : parseData path text = .error e) :
    ∃ c, e = faultIn path c [] := by
  have hfault := hlegible
  unfold Legible at hfault
  unfold parseData at h hfault
  by_cases hjson : path.suffix = ".json"
  · rw [if_pos hjson] at h hfault
    cases hread : Json.read text with
    | ok j =>
      rw [hread] at h
      cases h
    | error reason =>
      simp only [hread] at h hfault
      cases hmisfit : reason.misfit with
      | longInteger digits =>
        simp only [hmisfit] at hfault
        exact absurd rfl (hfault _)
      | _ =>
        simp only [hmisfit] at h
        cases h
        exact ⟨_, rfl⟩
  · rw [if_neg hjson] at h
    rw [if_neg hjson] at hfault
    cases hread : YamlLibrary.load text with
    | ok v =>
      rw [hread] at h
      cases h
    | error misfit =>
      cases misfit with
      | unparsable reason =>
        rw [hread] at h
        cases h
        exact ⟨_, rfl⟩
      | fault e =>
        rw [hread] at hfault
        exact absurd rfl (hfault e)

/-- A text that is no declaration is a fault that names the file. -/
lemma error_of_parseDeclaration {path : Path} {text : String} (hlegible : Legible path text)
    {e : RegistryFault} (h : parseDeclaration path text = .error e) :
    ∃ c, e = faultIn path c [] := by
  unfold parseDeclaration at h
  cases hdata : parseData path text with
  | error e' =>
    rw [hdata] at h
    cases h
    exact error_of_parseData hlegible hdata
  | ok v =>
    rw [hdata] at h
    cases v with
    | map entries =>
      simp only [bind, Except.bind] at h
      by_cases hname : (Entries.lookup entries "name").truthy = true
      · rw [if_pos hname] at h
        cases h
      · rw [if_neg hname] at h
        cases h
        exact ⟨_, rfl⟩
    | _ =>
      cases h
      exact ⟨_, rfl⟩

omit [YamlLibrary] in
/-- Nothing, or a mapping, can be laid over a declaration. -/
lemma exists_override (entries : Entries) {overrides : Value}
    (h : overrides = .null ∨ ∃ upper, overrides = .map upper) :
    ∃ es, override entries overrides = .ok es := by
  rcases h with rfl | ⟨upper, rfl⟩
  · exact ⟨entries, rfl⟩
  · unfold override
    split
    · exact ⟨_, rfl⟩
    · exact ⟨entries, rfl⟩

/-- A declaration with overrides is there, or its file is at fault. -/
lemma error_of_fileEntries {path : Path} {text : String} (hlegible : Legible path text)
    {overrides : Value} (hoverrides : overrides = .null ∨ ∃ upper, overrides = .map upper)
    {e : RegistryFault} (h : fileEntries path text overrides = .error e) :
    ∃ c, e = faultIn path c [] := by
  unfold fileEntries at h
  cases hparsed : parseDeclaration path text with
  | error e' =>
    rw [hparsed] at h
    cases h
    exact error_of_parseDeclaration hlegible hparsed
  | ok entries =>
    obtain ⟨es, hes⟩ := exists_override entries hoverrides
    rw [hparsed] at h
    change override entries overrides = .error e at h
    rw [hes] at h
    cases h

/-- The declaration of a file is stray. -/
def StrayFile (path : Path) (text : String) (overrides : Value) : Prop :=
  ∃ entries, fileEntries path text overrides = .ok entries ∧ Stray entries

/-- The files that surface are those whose declaration is not stray. -/
theorem surfaces_iff {path : Path} {text : String} (hlegible : Legible path text)
    {overrides : Value} (hoverrides : overrides = .null ∨ ∃ upper, overrides = .map upper) :
    Surfaces path (fileDefinition lib path text overrides) ↔ ¬ StrayFile path text overrides := by
  unfold fileDefinition StrayFile
  cases hentries : fileEntries path text overrides with
  | error e =>
    obtain ⟨c, rfl⟩ := error_of_fileEntries hlegible hoverrides hentries
    refine iff_of_true (.inr ⟨_, rfl, rfl⟩) ?_
    rintro ⟨entries, h, -⟩
    cases h
  | ok entries =>
    have hstray : (∃ es, Except.ok entries = (Except.ok es : Except RegistryFault Entries) ∧
        Stray es) ↔ Stray entries := by
      constructor
      · rintro ⟨es, h, hes⟩
        cases h
        exact hes
      · intro h
        exact ⟨entries, rfl, h⟩
    rw [hstray]
    exact surfaces_declared_iff lib path entries

end Surfaces

end Filling

end PageTree
