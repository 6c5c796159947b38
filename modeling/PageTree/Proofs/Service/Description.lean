import PageTree.Proofs.Registry.Stocked
import PageTree.Proofs.Service.Article
import PageTree.Proofs.Service.Schema

/-!
# Definitions that can be described

The service describes a definition if the framework takes its parts for the fields of the answer and
writes them (`Shown`).  The built-in definitions are such.  What a declaration file gives is not
always: the validation leaves open what its description is, what its defaults hold, and where its
requirements come from.  `Presentable` says of an accepted declaration what is asked for besides
(`shown_iff_presentable`).
-/

namespace PageTree

namespace Service

open WebFramework Filling

section Shown

variable [WebFramework]

/-- A definition can be described: there is something to give out for its description. -/
def Shown (d : Definition) : Prop :=
  ∃ j, TypeSchema.bodyOf (Registry.describeDefinition d) = .ok j

/-- The parts of a requirement are taken for texts. -/
structure ShownRequirement (q : Requirement) : Prop where
  type : Takes q.type
  source : Takes q.source
  description : Takes q.description

/-- The description of a requirement is read if its parts are taken for texts. -/
lemma exists_ofInfo?_describeRequirement_iff (q : Requirement) :
    (∃ a, RequirementSchema.ofInfo? (Registry.describeRequirement q) = some a) ↔
      ShownRequirement q := by
  simp only [RequirementSchema.ofInfo?_describeRequirement_eq_some_iff]
  constructor
  · rintro ⟨-, type, source, description, htype, hsource, hdescription, -⟩
    exact ⟨⟨type, htype⟩, ⟨source, hsource⟩, ⟨description, hdescription⟩⟩
  · rintro ⟨⟨type, htype⟩, ⟨source, hsource⟩, ⟨description, hdescription⟩⟩
    exact ⟨_, type, source, description, htype, hsource, hdescription, rfl⟩

/-- Of requirements that are read, what stands in for missing data is written if it is written of
the last one under each name. -/
lemma forall_mem_requirements_iff {qs : List (Key × Requirement)}
    {l : List (String × RequirementSchema)}
    (h : namedEntries? RequirementSchema.ofInfo?
      (qs.map fun e => (e.1, Registry.describeRequirement e.2)) = some l)
    (hqs : ∀ e ∈ qs, ShownRequirement e.2) :
    (∀ p ∈ l, Writes p.2.default) ↔ ∀ e, IsLastNamed qs e → Writes e.2.default := by
  rw [forall_mem_namedEntries?_iff h fun a => Writes a.default]
  refine forall_isLastNamed_iff (List.forall₂_map_left_iff.mpr (List.forall₂_same.mpr ?_))
  intro e he
  refine ⟨rfl, ?_⟩
  simp only [RequirementSchema.ofInfo?_describeRequirement_eq_some_iff]
  constructor
  · intro hall
    obtain ⟨⟨type, htype⟩, ⟨source, hsource⟩, ⟨description, hdescription⟩⟩ := hqs e he
    exact hall _ ⟨type, source, description, htype, hsource, hdescription, rfl⟩
  · rintro hwrites a ⟨type, source, description, -, -, -, rfl⟩
    exact hwrites

/-- What a definition needs to be described. -/
theorem shown_iff [LawfulWebFramework] (d : Definition) :
    Shown d ↔ Takes d.description ∧
      (∀ e ∈ d.defaults, Takes e.1.toValue) ∧ (∀ e, IsLastNamed d.defaults e → Writes e.2) ∧
      (∀ e ∈ d.requirements, Takes e.1.toValue ∧ ShownRequirement e.2) ∧
      ∀ e, IsLastNamed d.requirements e → Writes e.2.default := by
  have hdefaults : (∃ l, namedEntries? some d.defaults = some l) ↔
      ∀ e ∈ d.defaults, Takes e.1.toValue := by
    rw [exists_namedEntries?_iff]
    exact forall₂_congr fun e _ => and_iff_left ⟨e.2, rfl⟩
  have hrequirements : (∃ l, namedEntries? RequirementSchema.ofInfo?
      (d.requirements.map fun e => (e.1, Registry.describeRequirement e.2)) = some l) ↔
      ∀ e ∈ d.requirements, Takes e.1.toValue ∧ ShownRequirement e.2 := by
    simp only [exists_namedEntries?_iff, List.forall_mem_map,
      exists_ofInfo?_describeRequirement_iff]
  have hwritten : ∀ {l}, namedEntries? some d.defaults = some l →
      ((∀ p ∈ l, Writes p.2) ↔ ∀ e, IsLastNamed d.defaults e → Writes e.2) := by
    intro l hl
    rw [forall_mem_namedEntries?_iff hl]
    simp only [Option.some.injEq, forall_eq']
  unfold Shown
  simp only [TypeSchema.bodyOf_eq_ok_iff, TypeSchema.ofInfo?_describeDefinition_eq_some_iff]
  constructor
  · rintro ⟨j, t, ⟨description, defaults, requirements, h1, h2, h3, rfl⟩, hj⟩
    obtain ⟨hdocuments, hothers⟩ := (TypeSchema.exists_document_iff _).mp ⟨j, hj⟩
    have hread := hrequirements.mp ⟨requirements, h3⟩
    exact ⟨⟨description, h1⟩, hdefaults.mp ⟨defaults, h2⟩, (hwritten h2).mp hdocuments, hread,
      (forall_mem_requirements_iff h3 fun e he => (hread e he).2).mp hothers⟩
  · rintro ⟨⟨description, h1⟩, hkeys, hdocuments, hread, hothers⟩
    obtain ⟨defaults, h2⟩ := hdefaults.mpr hkeys
    obtain ⟨requirements, h3⟩ := hrequirements.mpr hread
    obtain ⟨j, hj⟩ := (TypeSchema.exists_document_iff
      ⟨d.name, description, defaults, requirements, d.actionName, d.source⟩).mpr
        ⟨(hwritten h2).mpr hdocuments,
          (forall_mem_requirements_iff h3 fun e he => (hread e he).2).mpr hothers⟩
    exact ⟨j, _, ⟨description, defaults, requirements, h1, h2, h3, rfl⟩, hj⟩

end Shown

/-! ## Built-in definitions -/

/-- Whether a value is a text. -/
def isText : Value → Bool
  | .str _ => true
  | _ => false

/-- Whether a definition consists of texts and plain data. -/
def isPlainDefinition (d : Definition) : Bool :=
  isText d.description && Value.entriesPlain d.defaults &&
    d.requirements.all fun e => isText e.1.toValue && isText e.2.type && isText e.2.source &&
      isText e.2.description && e.2.default.isPlain

/-- The entries of plain data have texts for names and plain data for values. -/
lemma forall_mem_of_plain {es : Entries} (h : Value.entriesPlain es = true) :
    ∀ e ∈ es, isText e.1.toValue = true ∧ e.2.isPlain = true := by
  induction es with
  | nil => exact List.forall_mem_nil _
  | cons e es ih =>
    obtain ⟨k, v⟩ := e
    cases k with
    | str name =>
      rw [Value.entriesPlain, Bool.and_eq_true] at h
      exact List.forall_mem_cons.mpr ⟨⟨rfl, h.1⟩, ih h.2⟩
    | _ => cases h

section Builtins

variable [WebFramework] [LawfulWebFramework]

/-- A text is taken for one. -/
lemma takes_of_isText {v : Value} (h : isText v = true) : Takes v := by
  cases v with
  | str s => exact ⟨s, LawfulWebFramework.text s⟩
  | _ => cases h

/-- A definition of texts and plain data can be described. -/
lemma shown_of_isPlainDefinition {d : Definition} (h : isPlainDefinition d = true) : Shown d := by
  simp only [isPlainDefinition, Bool.and_eq_true, List.all_eq_true] at h
  obtain ⟨⟨hdescription, hdefaults⟩, hrequirements⟩ := h
  have hentries := forall_mem_of_plain hdefaults
  refine (shown_iff d).mpr ⟨takes_of_isText hdescription, fun e he => ?_, fun e he => ?_,
    fun e he => ?_, fun e he => ?_⟩
  · exact takes_of_isText (hentries e he).1
  · exact LawfulWebFramework.plain (hentries e he.mem).2
  · obtain ⟨⟨⟨⟨hkey, htype⟩, hsource⟩, hdescription⟩, -⟩ := hrequirements e he
    exact ⟨takes_of_isText hkey, takes_of_isText htype, takes_of_isText hsource,
      takes_of_isText hdescription⟩
  · exact LawfulWebFramework.plain (hrequirements e he.mem).2

/-- The built-in definitions can be described. -/
lemma shown_of_builtin [Surroundings] (settings : ImageSettings) :
    ∀ d ∈ Builtin.definitions settings, Shown d := by
  intro d hd
  refine shown_of_isPlainDefinition ?_
  have hall : (Builtin.definitions settings).all isPlainDefinition = true := rfl
  exact List.all_eq_true.mp hall d hd

end Builtins

/-! ## Declarations -/

/-- What holds of the entries that an accepted declaration has under a name holds of those of the
mapping there; where there is none, there are no entries. -/
lemma mappingEntry_iff {entries : Entries} {name : String} {es : Entries}
    (hshape : ∃ es, (Entries.lookup entries name).orElse (.map []) = .map es)
    (hes : mappingEntry entries name = .ok es) {P : Entries → Prop} (hnil : P []) :
    P es ↔ ∀ es', Entries.lookup entries name = .map es' → P es' := by
  obtain ⟨es'', hes''⟩ := hshape
  rw [mappingEntry, hes'', Value.toEntries, Except.ok.injEq] at hes
  subst hes
  by_cases hmap : ∃ given, Entries.lookup entries name = .map given
  · obtain ⟨given, hgiven⟩ := hmap
    rw [hgiven, Declaration.orElse_map] at hes''
    cases hes''
    constructor
    · intro h es' hes'
      rw [hgiven] at hes'
      cases hes'
      exact h
    · exact fun h => h _ hgiven
  · unfold Value.orElse at hes''
    split at hes''
    · exact absurd ⟨_, hes''⟩ hmap
    · cases hes''
      exact iff_of_true hnil fun es' hes' => absurd ⟨es', hes'⟩ hmap

section Declarations

variable [WebFramework]

/-- The description that a declaration gives is taken for a text; nothing in its place is none. -/
def DescribesItself (entries : Entries) : Prop :=
  Takes ((Entries.find? entries "description").getD (.str ""))

/-- What the description of a requirement asks for besides the validation. -/
structure PresentableRequirement (spec : Entries) : Prop where
  /-- Without a source that counts as true, the name of the requirement stands for it. -/
  source : (Entries.lookup spec "source").truthy = true → Takes (Entries.lookup spec "source")
  description : DescribesItself spec

/-- What the description of a definition asks for besides the validation. -/
structure Presentable (entries : Entries) : Prop where
  description : DescribesItself entries
  defaults : ∀ defaults, Entries.lookup entries "default_config" = .map defaults →
    (∀ e ∈ defaults, Takes e.1.toValue) ∧ ∀ e, IsLastNamed defaults e → Writes e.2
  requirements : ∀ requirements, Entries.lookup entries "data_requirements" = .map requirements →
    (∀ e ∈ requirements, Takes e.1.toValue ∧
      ∀ spec, e.2 = .map spec → PresentableRequirement spec) ∧
    ∀ e, IsLastNamed requirements e →
      ∀ spec, e.2 = .map spec → Writes (Entries.lookup spec "default")

variable [LawfulWebFramework]

/-- A requirement with a known tag can be described if its declaration is presentable. -/
lemma shownRequirement_iff {name : Key} {spec : Value} {q : Requirement}
    (hname : Takes name.toValue) (htagged : Declaration.Tagged spec)
    (hq : Requirement.ofValue name spec = .ok q) :
    ShownRequirement q ↔ ∀ es, spec = .map es → PresentableRequirement es := by
  have htext : ∀ s, Takes (.str s) := fun s => ⟨s, LawfulWebFramework.text s⟩
  obtain ⟨s, t, -, rfl | ⟨es, rfl, htag⟩⟩ := htagged
  · cases hq
    exact iff_of_true ⟨htext s, hname, htext ""⟩ nofun
  · cases hq
    have hsource : Takes ((Entries.lookup es "source").orElse name.toValue) ↔
        ((Entries.lookup es "source").truthy = true → Takes (Entries.lookup es "source")) := by
      unfold Value.orElse
      split
      · rename_i htruthy
        exact ⟨fun h _ => h, fun h => h htruthy⟩
      · rename_i hfalsy
        exact iff_of_true hname fun h => absurd h hfalsy
    constructor
    · intro h es' hes'
      cases hes'
      exact ⟨hsource.mp h.source, h.description⟩
    · intro h
      obtain ⟨hgiven, hdescription⟩ := h es rfl
      refine ⟨?_, hsource.mpr hgiven, hdescription⟩
      dsimp only
      rw [htag]
      exact htext s

/-- What stands in for missing data is written if what the declaration has for it is. -/
lemma writes_default_iff {name : Key} {spec : Value} {q : Requirement}
    (htagged : Declaration.Tagged spec) (hq : Requirement.ofValue name spec = .ok q) :
    Writes q.default ↔ ∀ es, spec = .map es → Writes (Entries.lookup es "default") := by
  obtain ⟨s, t, -, rfl | ⟨es, rfl, -⟩⟩ := htagged
  · cases hq
    exact iff_of_true (LawfulWebFramework.plain rfl) nofun
  · cases hq
    constructor
    · intro h es' hes'
      cases hes'
      exact h
    · exact fun h => h es rfl

/-- What an accepted declaration gives can be described exactly if the declaration is
presentable. -/
theorem shown_iff_presentable {lib : Library} {p : Path} {entries : Entries} {name : String}
    {d : Definition} (h : declared lib p entries = .ok (name, d)) :
    Shown d ↔ Presentable entries := by
  have haccepted := accepted_of_declared h
  obtain ⟨-, -, hd⟩ := declared_eq_ok lib p h
  obtain ⟨action, defaults, requirements, qs, -, hdefaults, hrequirements, hqs, rfl⟩ :=
    (Definition.ofDeclaration_eq_ok_iff _ _ _ _ _).mp hd
  obtain ⟨es, hes, htagged⟩ := haccepted.requirements
  have hsame : requirements = es := by
    rw [mappingEntry, hes, Value.toEntries, Except.ok.injEq] at hrequirements
    exact hrequirements.symm
  subst hsame
  -- a requirement and what the declaration has for it
  have hpairs := (List.forall₂_and_left _ _).mpr ⟨htagged, Requirement.forall₂_ofEntries hqs⟩
  have hread : (∀ e ∈ qs, Takes e.1.toValue ∧ ShownRequirement e.2) ↔
      ∀ e ∈ requirements, Takes e.1.toValue ∧
        ∀ spec, e.2 = .map spec → PresentableRequirement spec := by
    refine (forall_mem_iff_of_forall₂ (hpairs.imp ?_)).symm
    rintro e q ⟨htag, hkey, hq⟩
    rw [← hkey]
    exact and_congr_right fun htakes => (shownRequirement_iff htakes htag hq).symm
  have hwritten : (∀ e, IsLastNamed qs e → Writes e.2.default) ↔
      ∀ e, IsLastNamed requirements e →
        ∀ spec, e.2 = .map spec → Writes (Entries.lookup spec "default") := by
    refine (forall_isLastNamed_iff (hpairs.imp ?_)).symm
    rintro e q ⟨htag, hkey, hq⟩
    exact ⟨hkey, (writes_default_iff htag hq).symm⟩
  have hdefaults := mappingEntry_iff haccepted.defaults hdefaults
    (P := fun es => (∀ e ∈ es, Takes e.1.toValue) ∧ ∀ e, IsLastNamed es e → Writes e.2)
    ⟨List.forall_mem_nil _, fun e he => absurd he (not_isLastNamed_nil e)⟩
  have hrequirements := mappingEntry_iff ⟨_, hes⟩ hrequirements
    (P := fun es => (∀ e ∈ es, Takes e.1.toValue ∧
        ∀ spec, e.2 = .map spec → PresentableRequirement spec) ∧
      ∀ e, IsLastNamed es e → ∀ spec, e.2 = .map spec → Writes (Entries.lookup spec "default"))
    ⟨List.forall_mem_nil _, fun e he => absurd he (not_isLastNamed_nil e)⟩
  rw [shown_iff]
  dsimp only
  rw [hread, hwritten]
  constructor
  · rintro ⟨hdescription, hkeys, hdocuments, hreads, hwrites⟩
    exact ⟨hdescription, hdefaults.mp ⟨hkeys, hdocuments⟩, hrequirements.mp ⟨hreads, hwrites⟩⟩
  · intro hpresentable
    obtain ⟨hkeys, hdocuments⟩ := hdefaults.mpr hpresentable.defaults
    obtain ⟨hreads, hwrites⟩ := hrequirements.mpr hpresentable.requirements
    exact ⟨hpresentable.description, hkeys, hdocuments, hreads, hwrites⟩

end Declarations

end Service

end PageTree
