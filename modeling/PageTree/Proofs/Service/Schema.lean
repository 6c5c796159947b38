import PageTree.Proofs.Service.Framework
import PageTree.Proofs.Url.Query
import PageTree.Registry.Basic

/-!
# Reading and writing schemas

A definition is given out as its schema: the framework reads the fields of its description and
writes them.  Both are said here for the description of a definition: when it is read
(`ofInfo?_describeDefinition_eq_some_iff`), and when what was read is written
(`exists_document_iff`).

Different keys of a mapping may be taken for one name.  Then the last entry under the name is the
one that is written (`lookup_namedEntries?_iff`).
-/

namespace PageTree

open WebFramework

/-! ## Mappings with names -/

section Names

variable {α β : Type}

/-- Where the entries of a name were taken out, others are found as before. -/
lemma lookup_filter_of_ne {first name : String} (h : name ≠ first) (l : List (String × α)) :
    (l.filter (·.1 != first)).lookup name = l.lookup name := by
  induction l with
  | nil => rfl
  | cons p l ih =>
    obtain ⟨n, a⟩ := p
    rw [List.filter_cons, QueryParams.lookup_cons_eq]
    by_cases hn : n = first
    · rw [if_neg (by simp [hn]), ih, if_neg fun hname => h (hname.trans hn)]
    · rw [if_pos (by simp [hn]), QueryParams.lookup_cons_eq, ih]

variable [WebFramework]

/-- An entry is the last one that is taken for its name. -/
def IsLastNamed (es : List (Key × α)) (e : Key × α) : Prop :=
  ∃ before after, es = before ++ e :: after ∧ ∀ f ∈ after, text? f.1.toValue ≠ text? e.1.toValue

/-- The first entry is the last one of its name if no other is taken for it. -/
lemma isLastNamed_cons_iff (e f : Key × α) (es : List (Key × α)) :
    IsLastNamed (e :: es) f ↔
      IsLastNamed es f ∨ f = e ∧ ∀ g ∈ es, text? g.1.toValue ≠ text? e.1.toValue := by
  constructor
  · rintro ⟨_ | ⟨d, before⟩, after, hes, hlast⟩
    · cases hes
      exact .inr ⟨rfl, hlast⟩
    · cases hes
      exact .inl ⟨before, after, rfl, hlast⟩
  · rintro (⟨before, after, rfl, hlast⟩ | ⟨rfl, hlast⟩)
    · exact ⟨e :: before, after, rfl, hlast⟩
    · exact ⟨[], es, rfl, hlast⟩

/-- Of the entries that are taken for one name there is a last one. -/
lemma exists_isLastNamed {es : List (Key × α)} {e : Key × α} (he : e ∈ es) :
    ∃ f, IsLastNamed es f ∧ text? f.1.toValue = text? e.1.toValue := by
  induction es generalizing e with
  | nil => cases he
  | cons d es ih =>
    by_cases hlater : ∃ g ∈ es, text? g.1.toValue = text? e.1.toValue
    · obtain ⟨g, hg, hsame⟩ := hlater
      obtain ⟨f, hf, hname⟩ := ih hg
      exact ⟨f, (isLastNamed_cons_iff d f es).mpr (.inl hf), hname.trans hsame⟩
    · have hnone : ∀ g ∈ es, text? g.1.toValue ≠ text? e.1.toValue :=
        fun g hg hsame => hlater ⟨g, hg, hsame⟩
      rcases List.mem_cons.mp he with rfl | he
      · exact ⟨e, (isLastNamed_cons_iff e e es).mpr (.inr ⟨rfl, hnone⟩), rfl⟩
      · exact absurd rfl (hnone e he)

/-- The last entry of a name is an entry. -/
lemma IsLastNamed.mem {es : List (Key × α)} {e : Key × α} (h : IsLastNamed es e) : e ∈ es := by
  obtain ⟨before, after, rfl, -⟩ := h
  exact List.mem_append_right _ List.mem_cons_self

/-- There is no last entry without entries. -/
lemma not_isLastNamed_nil (e : Key × α) : ¬ IsLastNamed [] e :=
  fun h => nomatch h.mem

/-- Which entries are the last ones depends on the keys only. -/
lemma exists_isLastNamed_of_forall₂ {R : Key × α → Key × β → Prop}
    (hkeys : ∀ e f, R e f → e.1 = f.1) {es : List (Key × α)} {fs : List (Key × β)}
    (h : List.Forall₂ R es fs) {f : Key × β}
    (hf : IsLastNamed fs f) : ∃ e, IsLastNamed es e ∧ R e f := by
  induction h with
  | nil => exact absurd hf (not_isLastNamed_nil f)
  | @cons e g es fs heg hrest ih =>
    rcases (isLastNamed_cons_iff g f fs).mp hf with hlater | ⟨rfl, hnone⟩
    · obtain ⟨d, hd, hdf⟩ := ih hlater
      exact ⟨d, (isLastNamed_cons_iff e d es).mpr (.inl hd), hdf⟩
    · refine ⟨e, (isLastNamed_cons_iff e e es).mpr (.inr ⟨rfl, fun d hd => ?_⟩), heg⟩
      obtain ⟨g, hg, hdg⟩ := exists_of_mem_forall₂ hrest.flip hd
      rw [hkeys d g hdg, hkeys e f heg]
      exact hnone g hg

/-- What is said of the last entries is said of those that go with them. -/
lemma forall_isLastNamed_iff {P : Key × α → Prop} {Q : Key × β → Prop} {es : List (Key × α)}
    {fs : List (Key × β)} (h : List.Forall₂ (fun e f => e.1 = f.1 ∧ (P e ↔ Q f)) es fs) :
    (∀ e, IsLastNamed es e → P e) ↔ ∀ f, IsLastNamed fs f → Q f := by
  constructor
  · intro hall f hf
    obtain ⟨e, he, -, hiff⟩ := exists_isLastNamed_of_forall₂ (fun _ _ hef => hef.1) h hf
    exact hiff.mp (hall e he)
  · intro hall e he
    obtain ⟨f, hf, -, hiff⟩ :=
      exists_isLastNamed_of_forall₂ (fun _ _ hef => hef.1.symm) h.flip he
    exact hiff.mpr (hall f hf)

/-! ### Reading -/

variable {read : Value → Option α}

/-- The names and values that are read of a mapping, entry by entry. -/
lemma namedEntries?_cons_eq_some_iff (e : Key × Value) (es : Entries) (l : List (String × α)) :
    namedEntries? read (e :: es) = some l ↔ ∃ name a others, text? e.1.toValue = some name ∧
      read e.2 = some a ∧ namedEntries? read es = some others ∧
      l = (name, (others.lookup name).getD a) :: others.filter (·.1 != name) := by
  obtain ⟨k, v⟩ := e
  rw [namedEntries?]
  simp only [bind, Option.bind_eq_some_iff, pure, Option.some.injEq]
  constructor
  · rintro ⟨name, hname, a, ha, others, hothers, rfl⟩
    exact ⟨name, a, others, hname, ha, hothers, rfl⟩
  · rintro ⟨name, a, others, hname, ha, hothers, rfl⟩
    exact ⟨name, hname, a, ha, others, hothers, rfl⟩

/-- A mapping is read if its keys are taken for names and its values can be read. -/
lemma exists_namedEntries?_iff (es : Entries) :
    (∃ l, namedEntries? read es = some l) ↔
      ∀ e ∈ es, Takes e.1.toValue ∧ ∃ a, read e.2 = some a := by
  induction es with
  | nil => exact iff_of_true ⟨[], rfl⟩ (List.forall_mem_nil _)
  | cons e es ih =>
    rw [List.forall_mem_cons, ← ih]
    simp only [namedEntries?_cons_eq_some_iff]
    constructor
    · rintro ⟨l, name, a, others, hname, ha, hothers, -⟩
      exact ⟨⟨⟨name, hname⟩, a, ha⟩, others, hothers⟩
    · rintro ⟨⟨⟨name, hname⟩, a, ha⟩, others, hothers⟩
      exact ⟨_, name, a, others, hname, ha, hothers, rfl⟩

/-- The names that are read of a mapping are different. -/
lemma nodup_namedEntries? {es : Entries} {l : List (String × α)}
    (h : namedEntries? read es = some l) : (l.map (·.1)).Nodup := by
  induction es generalizing l with
  | nil =>
    cases h
    exact List.nodup_nil
  | cons e es ih =>
    obtain ⟨name, a, others, -, -, hothers, rfl⟩ := (namedEntries?_cons_eq_some_iff _ _ _).mp h
    rw [List.map_cons, List.nodup_cons]
    refine ⟨?_, (ih hothers).sublist (List.filter_sublist.map _)⟩
    simp

/-- What is read of a mapping under a name is the value of the last entry that is taken for it. -/
theorem lookup_namedEntries?_iff {es : Entries} {l : List (String × α)}
    (h : namedEntries? read es = some l) (name : String) (a : α) :
    l.lookup name = some a ↔
      ∃ e, IsLastNamed es e ∧ text? e.1.toValue = some name ∧ read e.2 = some a := by
  induction es generalizing l name a with
  | nil =>
    cases h
    exact iff_of_false nofun fun ⟨e, he, _⟩ => not_isLastNamed_nil e he
  | cons e es ih =>
    have hread := (exists_namedEntries?_iff (e :: es)).mp ⟨l, h⟩
    obtain ⟨first, b, others, hfirst, hb, hothers, rfl⟩ :=
      (namedEntries?_cons_eq_some_iff _ _ _).mp h
    have hlookup := ih hothers
    rw [QueryParams.lookup_cons_eq]
    simp only [isLastNamed_cons_iff]
    by_cases hname : name = first
    · subst hname
      rw [if_pos rfl, Option.some.injEq]
      cases hlater : others.lookup name with
      | some c =>
        -- the name is given again, and what stands there counts
        obtain ⟨d, hd, hdname, hdread⟩ := (hlookup name c).mp hlater
        constructor
        · rintro rfl
          exact ⟨d, .inl hd, hdname, hdread⟩
        · rintro ⟨f, hf | ⟨rfl, hnone⟩, hfname, hfread⟩
          · have ha := (hlookup name a).mpr ⟨f, hf, hfname, hfread⟩
            exact Option.some.inj (hlater.symm.trans ha)
          · exact absurd (hdname.trans hfirst.symm) (hnone d hd.mem)
      | none =>
        constructor
        · rintro rfl
          refine ⟨e, .inr ⟨rfl, fun g hg hsame => ?_⟩, hfirst, hb⟩
          obtain ⟨f, hf, hfname⟩ := exists_isLastNamed hg
          obtain ⟨-, c, hc⟩ := hread f (List.mem_cons_of_mem e hf.mem)
          have hfound := (hlookup name c).mpr ⟨f, hf, (hfname.trans hsame).trans hfirst, hc⟩
          cases hlater.symm.trans hfound
        · rintro ⟨f, hf | ⟨rfl, -⟩, hfname, hfread⟩
          · cases hlater.symm.trans ((hlookup name a).mpr ⟨f, hf, hfname, hfread⟩)
          · exact Option.some.inj (hb.symm.trans hfread)
    · rw [if_neg hname, lookup_filter_of_ne hname, hlookup]
      constructor
      · rintro ⟨f, hf, hrest⟩
        exact ⟨f, .inl hf, hrest⟩
      · rintro ⟨f, hf | ⟨rfl, -⟩, hfname, hfread⟩
        · exact ⟨f, hf, hfname, hfread⟩
        · exact absurd (Option.some.inj (hfname.symm.trans hfirst)) hname

/-- What is said of all that is read of a mapping is said of what the last entries hold. -/
lemma forall_mem_namedEntries?_iff {es : Entries} {l : List (String × α)}
    (h : namedEntries? read es = some l) (P : α → Prop) :
    (∀ p ∈ l, P p.2) ↔ ∀ e, IsLastNamed es e → ∀ a, read e.2 = some a → P a := by
  constructor
  · intro hall e he a ha
    obtain ⟨⟨name, hname⟩, -⟩ := (exists_namedEntries?_iff es).mp ⟨l, h⟩ e he.mem
    have hlookup := (lookup_namedEntries?_iff h name a).mpr ⟨e, he, hname, ha⟩
    obtain ⟨before, after, rfl, -⟩ := List.lookup_eq_some_iff.mp hlookup
    exact hall (name, a) (List.mem_append_right _ List.mem_cons_self)
  · intro hall p hp
    have hlookup := QueryParams.lookup_of_nodup (nodup_namedEntries? h) hp
    obtain ⟨e, he, -, ha⟩ := (lookup_namedEntries?_iff h p.1 p.2).mp hlookup
    exact hall e he p.2 ha

end Names

/-! ## Writing -/

/-- Members are written if all values are. -/
lemma exists_namedDocuments_iff {α : Type} (write : α → Except ServiceFault Json)
    (l : List (String × α)) :
    (∃ js, namedDocuments write l = .ok js) ↔ ∀ p ∈ l, ∃ j, write p.2 = .ok j := by
  induction l with
  | nil => exact iff_of_true ⟨[], rfl⟩ (List.forall_mem_nil _)
  | cons p l ih =>
    obtain ⟨name, a⟩ := p
    rw [List.forall_mem_cons, ← ih, namedDocuments]
    constructor
    · rintro ⟨js, hjs⟩
      obtain ⟨j, hj, hrest⟩ := (bind_eq_ok_iff _ _ _).mp hjs
      obtain ⟨others, hothers, -⟩ := (bind_eq_ok_iff _ _ _).mp hrest
      exact ⟨⟨j, hj⟩, others, hothers⟩
    · rintro ⟨⟨j, hj⟩, others, hothers⟩
      exact ⟨(name, j) :: others, (bind_eq_ok_iff _ _ _).mpr
        ⟨j, hj, (bind_eq_ok_iff _ _ _).mpr ⟨others, hothers, rfl⟩⟩⟩

section Schemas

variable [WebFramework]

/-- A requirement is written if what stands in for missing data is. -/
lemma RequirementSchema.exists_document_iff (q : RequirementSchema) :
    (∃ j, q.document = .ok j) ↔ Writes q.default := by
  constructor
  · rintro ⟨j, hj⟩
    obtain ⟨default, hdefault, -⟩ := (bind_eq_ok_iff _ _ _).mp hj
    exact ⟨default, hdefault⟩
  · rintro ⟨default, hdefault⟩
    exact ⟨_, (bind_eq_ok_iff _ _ _).mpr ⟨default, hdefault, rfl⟩⟩

namespace TypeSchema

/-- A definition is written if its defaults are and what stands in for missing data. -/
lemma exists_document_iff (t : TypeSchema) :
    (∃ j, t.document = .ok j) ↔ (∀ p ∈ t.defaultConfig, Writes p.2) ∧
      ∀ p ∈ t.dataRequirements, Writes p.2.default := by
  have hdefaults := exists_namedDocuments_iff WebFramework.document t.defaultConfig
  have hrequirements := exists_namedDocuments_iff RequirementSchema.document t.dataRequirements
  simp only [RequirementSchema.exists_document_iff] at hrequirements
  rw [← hrequirements]
  refine Iff.trans ?_ (and_congr_left' hdefaults)
  constructor
  · rintro ⟨j, hj⟩
    obtain ⟨defaults, h1, hrest⟩ := (bind_eq_ok_iff _ _ _).mp hj
    obtain ⟨requirements, h2, -⟩ := (bind_eq_ok_iff _ _ _).mp hrest
    exact ⟨⟨defaults, h1⟩, requirements, h2⟩
  · rintro ⟨⟨defaults, h1⟩, requirements, h2⟩
    exact ⟨_, (bind_eq_ok_iff _ _ _).mpr
      ⟨defaults, h1, (bind_eq_ok_iff _ _ _).mpr ⟨requirements, h2, rfl⟩⟩⟩

/-- What is written of a definition has its name. -/
lemma exists_members_of_document {t : TypeSchema} {j : Json} (h : t.document = .ok j) :
    ∃ members, j = .object members ∧ members.lookup "name" = some (.str t.name) := by
  obtain ⟨defaults, -, hrest⟩ := (bind_eq_ok_iff _ _ _).mp h
  obtain ⟨requirements, -, hj⟩ := (bind_eq_ok_iff _ _ _).mp hrest
  cases hj
  exact ⟨_, rfl, rfl⟩

/-- What is given out for a description is what is written of the schema that is read of it. -/
lemma bodyOf_eq_ok_iff (info : Value) (j : Json) :
    bodyOf info = .ok j ↔ ∃ t, ofInfo? info = some t ∧ t.document = .ok j := by
  unfold bodyOf
  cases ofInfo? info with
  | none => exact iff_of_false nofun nofun
  | some t => simp

end TypeSchema

/-! ## Reading descriptions -/

/-- The description of a requirement is read if its fields are taken for texts. -/
lemma RequirementSchema.ofInfo?_describeRequirement_eq_some_iff (q : Requirement)
    (a : RequirementSchema) :
    RequirementSchema.ofInfo? (Registry.describeRequirement q) = some a ↔
      ∃ type source description, text? q.type = some type ∧ text? q.source = some source ∧
        text? q.description = some description ∧ a = ⟨type, source, q.default, description⟩ := by
  change ((text? q.type).bind fun type => (text? q.source).bind fun source =>
    (text? q.description).bind fun description =>
      some (RequirementSchema.mk type source q.default description)) = some a ↔ _
  simp only [Option.bind_eq_some_iff, Option.some.injEq]
  constructor
  · rintro ⟨type, htype, source, hsource, description, hdescription, rfl⟩
    exact ⟨type, source, description, htype, hsource, hdescription, rfl⟩
  · rintro ⟨type, source, description, htype, hsource, hdescription, rfl⟩
    exact ⟨type, htype, source, hsource, description, hdescription, rfl⟩

variable [LawfulWebFramework]

/-- A text that may be missing is read as it is. -/
lemma optionalText?_optionText (o : Option String) :
    optionalText? (Registry.optionText o) = some o := by
  cases o with
  | none => rfl
  | some s =>
    change (text? (.str s)).map some = _
    rw [LawfulWebFramework.text]
    rfl

/-- The description of a definition is read if its mappings are and its own description is taken for
a text. -/
lemma TypeSchema.ofInfo?_describeDefinition_eq_some_iff (d : Definition) (t : TypeSchema) :
    TypeSchema.ofInfo? (Registry.describeDefinition d) = some t ↔
      ∃ description defaults requirements, text? d.description = some description ∧
        namedEntries? some d.defaults = some defaults ∧
        namedEntries? RequirementSchema.ofInfo?
          (d.requirements.map fun e => (e.1, Registry.describeRequirement e.2)) =
            some requirements ∧
        t = ⟨d.name, description, defaults, requirements, d.actionName, d.source⟩ := by
  change ((text? (.str d.name)).bind fun name => (text? d.description).bind fun description =>
    (namedEntries? some d.defaults).bind fun defaults =>
    (namedEntries? RequirementSchema.ofInfo?
      (d.requirements.map fun e => (e.1, Registry.describeRequirement e.2))).bind
        fun requirements =>
    (optionalText? (Registry.optionText d.actionName)).bind fun transform =>
    (optionalText? (Registry.optionText d.source)).bind fun source =>
      some (TypeSchema.mk name description defaults requirements transform source)) = some t ↔ _
  rw [LawfulWebFramework.text, optionalText?_optionText, optionalText?_optionText]
  simp only [Option.bind_some, Option.bind_eq_some_iff, Option.some.injEq]
  constructor
  · rintro ⟨description, h1, defaults, h2, requirements, h3, rfl⟩
    exact ⟨description, defaults, requirements, h1, h2, h3, rfl⟩
  · rintro ⟨description, defaults, requirements, h1, h2, h3, rfl⟩
    exact ⟨description, h1, defaults, h2, requirements, h3, rfl⟩

end Schemas

end PageTree
