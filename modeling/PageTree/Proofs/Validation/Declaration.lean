import PageTree.Proofs.Outcome
import PageTree.Validation.Declaration

/-!
# Declarations that are accepted

The validation of a declaration ends with findings, unless it comes to the type tag of a requirement
that cannot be looked up at all, such as a list (`exists_validate_iff`).  What it finds no error in
has the shape that a definition is made of (`Accepted`): a name, mappings or nothing where mappings
are asked for, requirements with known tags, and a transform that is a function or looks like the
path of one.  The source of a requirement is not looked at.
-/

namespace PageTree

/-- A value that cannot be a key is a fault as one. -/
lemma Value.toKey_eq_ok_iff (v : Value) (k : Key) : v.toKey = .ok k ↔ v.toKey? = some k := by
  unfold Value.toKey
  cases v.toKey? with
  | none => exact iff_of_false nofun nofun
  | some l => rw [Except.ok.injEq, Option.some.injEq]

namespace TypeTag

/-- Whether a value names a tag can be said of the values that can be keys. -/
lemma exists_ofValue?_iff (v : Value) : (∃ o, ofValue? v = .ok o) ↔ v.toKey? ≠ none := by
  have hother : (∃ o, (v.toKey >>= fun _ => pure none : Except Fault (Option TypeTag)) = .ok o) ↔
      v.toKey? ≠ none := by
    unfold Value.toKey
    cases v.toKey? with
    | none =>
      refine iff_of_false ?_ (fun h => h rfl)
      rintro ⟨o, ho⟩
      cases ho
    | some k => exact iff_of_true ⟨none, rfl⟩ (Option.some_ne_none k)
  cases v with
  | str s => exact iff_of_true ⟨ofName? s, rfl⟩ (Option.some_ne_none _)
  | _ => exact hother

/-- Only texts name tags. -/
lemma exists_str_of_ofValue? {v : Value} {t : TypeTag} (h : ofValue? v = .ok (some t)) :
    ∃ s, v = .str s ∧ ofName? s = some t := by
  have hother : (v.toKey >>= fun _ => pure none : Except Fault (Option TypeTag)) ≠
      .ok (some t) := by
    cases v.toKey with
    | error e => nofun
    | ok k => nofun
  cases v with
  | str s =>
    rw [ofValue?, Except.ok.injEq] at h
    exact ⟨s, rfl, h⟩
  | _ => exact absurd h hother

end TypeTag

namespace Declaration

/-! ## When there are findings -/

/-- The type tag of a requirement is a value that cannot be looked up. -/
def StrangeTag (spec : Value) : Prop :=
  ∃ es tag, spec = .map es ∧ Entries.find? es "type" = some tag ∧ tag.toKey? = none

/-- A declaration has a requirement with a strange type tag. -/
def HasStrangeTag (data : Value) : Prop :=
  ∃ entries requirements, data = .map entries ∧
    Entries.lookup entries "data_requirements" = .map requirements ∧
    ∃ e ∈ requirements, StrangeTag e.2

/-- There are findings about a tag if it can be looked up. -/
lemma exists_checkTag_iff (name : Key) (tag : Value) :
    (∃ fs, checkTag name tag = .ok fs) ↔ tag.toKey? ≠ none := by
  rw [← TypeTag.exists_ofValue?_iff]
  unfold checkTag
  cases h : TypeTag.ofValue? tag with
  | error e =>
    refine iff_of_false ?_ nofun
    rintro ⟨fs, hfs⟩
    cases hfs
  | ok o =>
    refine iff_of_true ?_ ⟨o, rfl⟩
    cases o with
    | none => exact ⟨_, rfl⟩
    | some t => exact ⟨_, rfl⟩

/-- There are findings about a requirement if its tag is not strange. -/
lemma exists_checkRequirement_iff (name : Key) (spec : Value) :
    (∃ fs, checkRequirement name spec = .ok fs) ↔ ¬ StrangeTag spec := by
  cases spec with
  | str s =>
    refine iff_of_true ((exists_checkTag_iff name (.str s)).mpr (Option.some_ne_none _)) ?_
    rintro ⟨es, tag, h, -⟩
    cases h
  | map es =>
    have hstrange : StrangeTag (.map es) ↔
        ((Entries.find? es "type").getD (.str "any")).toKey? = none := by
      constructor
      · rintro ⟨es', tag, h, htag, hkey⟩
        cases h
        rw [htag]
        exact hkey
      · intro hkey
        cases htag : Entries.find? es "type" with
        | none =>
          rw [htag] at hkey
          cases hkey
        | some tag =>
          rw [htag] at hkey
          exact ⟨es, tag, rfl, htag, hkey⟩
    rw [hstrange, checkRequirement]
    split
    · rename_i hnull
      rw [hnull]
      exact iff_of_true ⟨_, rfl⟩ (Option.some_ne_none _)
    · exact exists_checkTag_iff name _
  | _ =>
    refine iff_of_true ⟨_, rfl⟩ ?_
    rintro ⟨es, tag, h, -⟩
    cases h

/-- There are findings about requirements if none of their tags is strange. -/
lemma exists_checkRequirements_iff (requirements : Entries) :
    (∃ fs, checkRequirements requirements = .ok fs) ↔ ∀ e ∈ requirements, ¬ StrangeTag e.2 := by
  induction requirements with
  | nil => exact iff_of_true ⟨[], rfl⟩ nofun
  | cons e rest ih =>
    obtain ⟨name, spec⟩ := e
    rw [List.forall_mem_cons, ← ih, ← exists_checkRequirement_iff name spec, checkRequirements]
    constructor
    · rintro ⟨fs, hfs⟩
      obtain ⟨first, hfirst, hrest⟩ := (bind_eq_ok_iff _ _ _).mp hfs
      obtain ⟨others, hothers, -⟩ := (bind_eq_ok_iff _ _ _).mp hrest
      exact ⟨⟨first, hfirst⟩, others, hothers⟩
    · rintro ⟨⟨first, hfirst⟩, others, hothers⟩
      refine ⟨first ++ others, (bind_eq_ok_iff _ _ _).mpr ⟨first, hfirst, ?_⟩⟩
      exact (bind_eq_ok_iff _ _ _).mpr ⟨others, hothers, rfl⟩

/-- A validation gives findings exactly if no requirement has a strange type tag. -/
theorem exists_validate_iff (data : Value) :
    (∃ findings, validate data = .ok findings) ↔ ¬ HasStrangeTag data := by
  cases data with
  | map entries =>
    have hdata : (∃ findings, validate (.map entries) = .ok findings) ↔
        ∃ fs, checkData entries = .ok fs := by
      unfold validate
      constructor
      · rintro ⟨findings, h⟩
        obtain ⟨fs, hfs, -⟩ := (bind_eq_ok_iff _ _ _).mp h
        exact ⟨fs, hfs⟩
      · rintro ⟨fs, hfs⟩
        exact ⟨_, (bind_eq_ok_iff _ _ _).mpr ⟨fs, hfs, rfl⟩⟩
    rw [hdata]
    constructor
    · rintro ⟨fs, hfs⟩ ⟨entries', requirements, h, hlookup, e, he, hstrange⟩
      cases h
      rw [checkData, hlookup] at hfs
      exact (exists_checkRequirements_iff requirements).mp ⟨fs, hfs⟩ e he hstrange
    · intro h
      cases hlookup : Entries.lookup entries "data_requirements" with
      | map requirements =>
        rw [checkData, hlookup]
        refine (exists_checkRequirements_iff requirements).mpr fun e he hstrange => ?_
        exact h ⟨entries, requirements, rfl, hlookup, e, he, hstrange⟩
      | _ =>
        rw [checkData, hlookup]
        exact ⟨_, rfl⟩
  | _ =>
    refine iff_of_true ⟨_, rfl⟩ ?_
    rintro ⟨entries, requirements, h, -⟩
    cases h

/-! ## What is accepted -/

/-- A requirement is a known tag or a mapping with one, which may be left out. -/
def Tagged (spec : Value) : Prop :=
  ∃ s t, TypeTag.ofName? s = some t ∧ (spec = .str s ∨
    ∃ es, spec = .map es ∧ (Entries.find? es "type").getD (.str "any") = .str s)

/-- The shape of the declarations in which no error is found. -/
structure Accepted (entries : Entries) : Prop where
  name : ∃ s, Entries.lookup entries "name" = .str s ∧ s ≠ ""
  defaults : ∃ es, (Entries.lookup entries "default_config").orElse (.map []) = .map es
  requirements : ∃ es, (Entries.lookup entries "data_requirements").orElse (.map []) = .map es ∧
    ∀ e ∈ es, Tagged e.2
  transform : Entries.lookup entries "transform" = .null ∨
    (∃ handle, Entries.lookup entries "transform" = .callable handle) ∨
    ∃ s, Entries.lookup entries "transform" = .str s ∧ ':' ∈ s.toList

/-- Nothing, or a mapping, stands for a mapping. -/
lemma orElse_map (es : Entries) : (Value.map es).orElse (.map []) = .map es := by
  cases es with
  | nil => rfl
  | cons e es => rfl

/-- A tag without errors is known. -/
lemma exists_ofName?_of_checkTag {name : Key} {tag : Value} {fs : List Finding}
    (h : checkTag name tag = .ok fs) (hfs : ∀ f ∈ fs, f.isError = false) :
    ∃ s t, tag = .str s ∧ TypeTag.ofName? s = some t := by
  obtain ⟨o, ho, hrest⟩ := (bind_eq_ok_iff _ _ _).mp h
  cases o with
  | some t =>
    obtain ⟨s, rfl, ht⟩ := TypeTag.exists_str_of_ofValue? ho
    exact ⟨s, t, rfl, ht⟩
  | none =>
    cases hrest
    cases hfs _ List.mem_cons_self

/-- A requirement without errors has a known tag. -/
lemma tagged_of_checkRequirement {name : Key} {spec : Value} {fs : List Finding}
    (h : checkRequirement name spec = .ok fs) (hfs : ∀ f ∈ fs, f.isError = false) :
    Tagged spec := by
  cases spec with
  | str s =>
    obtain ⟨s', t, hs, ht⟩ := exists_ofName?_of_checkTag h hfs
    exact ⟨s', t, ht, .inl hs⟩
  | map es =>
    rw [checkRequirement] at h
    split at h
    · cases h
      cases hfs _ List.mem_cons_self
    · obtain ⟨s, t, hs, ht⟩ := exists_ofName?_of_checkTag h hfs
      exact ⟨s, t, ht, .inr ⟨es, rfl, hs⟩⟩
  | _ =>
    cases h
    cases hfs _ List.mem_cons_self

/-- Requirements without errors have known tags. -/
lemma tagged_of_checkRequirements {requirements : Entries} {fs : List Finding}
    (h : checkRequirements requirements = .ok fs) (hfs : ∀ f ∈ fs, f.isError = false) :
    ∀ e ∈ requirements, Tagged e.2 := by
  induction requirements generalizing fs with
  | nil => nofun
  | cons e rest ih =>
    obtain ⟨name, spec⟩ := e
    obtain ⟨first, hfirst, hrest⟩ := (bind_eq_ok_iff _ _ _).mp h
    obtain ⟨others, hothers, hall⟩ := (bind_eq_ok_iff _ _ _).mp hrest
    cases hall
    rw [List.forall_mem_append] at hfs
    exact List.forall_mem_cons.mpr
      ⟨tagged_of_checkRequirement hfirst hfs.1, ih hothers hfs.2⟩

/-- A name without errors is a text that is not empty. -/
lemma name_of_checkName {entries : Entries} (h : ∀ f ∈ checkName entries, f.isError = false) :
    ∃ s, Entries.lookup entries "name" = .str s ∧ s ≠ "" := by
  unfold checkName at h
  split at h
  · rename_i s hs
    refine ⟨s, hs, fun hempty => ?_⟩
    rw [if_pos hempty] at h
    cases h _ List.mem_cons_self
  · cases h _ List.mem_cons_self

/-- Defaults without errors are a mapping or nothing. -/
lemma defaults_of_checkDefaults {entries : Entries}
    (h : ∀ f ∈ checkDefaults entries, f.isError = false) :
    ∃ es, (Entries.lookup entries "default_config").orElse (.map []) = .map es := by
  unfold checkDefaults at h
  split at h
  · rename_i hnull
    rw [hnull]
    exact ⟨[], rfl⟩
  · rename_i es hmap
    rw [hmap]
    exact ⟨es, orElse_map es⟩
  · cases h _ List.mem_cons_self

/-- Requirements without errors are a mapping of known tags or nothing. -/
lemma requirements_of_checkData {entries : Entries} {fs : List Finding}
    (h : checkData entries = .ok fs) (hfs : ∀ f ∈ fs, f.isError = false) :
    ∃ es, (Entries.lookup entries "data_requirements").orElse (.map []) = .map es ∧
      ∀ e ∈ es, Tagged e.2 := by
  unfold checkData at h
  split at h
  · rename_i hnull
    rw [hnull]
    exact ⟨[], rfl, nofun⟩
  · rename_i es hmap
    rw [hmap]
    exact ⟨es, orElse_map es, tagged_of_checkRequirements h hfs⟩
  · cases h
    cases hfs _ List.mem_cons_self

/-- A transform without errors is nothing, a function, or a text with a colon in it. -/
lemma transform_of_checkTransform {entries : Entries}
    (h : ∀ f ∈ checkTransform entries, f.isError = false) :
    Entries.lookup entries "transform" = .null ∨
      (∃ handle, Entries.lookup entries "transform" = .callable handle) ∨
      ∃ s, Entries.lookup entries "transform" = .str s ∧ ':' ∈ s.toList := by
  unfold checkTransform at h
  split at h
  · rename_i hnull
    exact .inl hnull
  · rename_i handle hcallable
    exact .inr (.inl ⟨handle, hcallable⟩)
  · rename_i s hs
    by_cases hcolon : s.toList.contains ':' = true
    · exact .inr (.inr ⟨s, hs, List.contains_iff_mem.mp hcolon⟩)
    · rw [if_neg hcolon] at h
      cases h _ List.mem_cons_self
  · cases h _ List.mem_cons_self

/-- A declaration in which no error is found has the shape of a definition. -/
theorem accepted_of_valid {entries : Entries} {findings : Findings}
    (h : validate (.map entries) = .ok findings) (hvalid : findings.valid = true) :
    Accepted entries := by
  obtain ⟨fromData, hdata, hfindings⟩ := (bind_eq_ok_iff _ _ _).mp h
  cases hfindings
  have hitems : ∀ f ∈ checkName entries ++ checkKeys entries ++ checkDefaults entries ++ fromData ++
      checkTransform entries, f.isError = false := by
    intro f hf
    rw [Findings.ofList, Bool.not_eq_true', List.any_eq_false] at hvalid
    exact Bool.eq_false_iff.mpr (hvalid f hf)
  simp only [List.forall_mem_append] at hitems
  obtain ⟨⟨⟨⟨hname, -⟩, hdefaults⟩, hrequirements⟩, htransform⟩ := hitems
  exact ⟨name_of_checkName hname, defaults_of_checkDefaults hdefaults,
    requirements_of_checkData hdata hrequirements, transform_of_checkTransform htransform⟩

end Declaration

end PageTree
