import PageTree.Proofs.Registry.Groups
import PageTree.Proofs.Registry.History

/-!
# The documentation of a registry

The documentation is a list of sections in the order of their headings, one for each group of names.
A section has the entries of the types in its group, so that the sections together have one entry
for each registered type (`Documents`).

The documentation of a namespace is about the types whose names start with the namespace and a
slash.  For most groups these are the types of the group, and what comes out is their section
(`namespace_docs_are_section_iff`).  The general group is an exception where it has names without a
slash, which are in no namespace (`general_docs_lack_names_without_slash`); and so is the group of
names that start with a slash, since the empty namespace stands for no restriction.
-/

namespace PageTree

open Text

/-- A part of the documentation: the name of a group, and the types in it with their definitions. -/
structure Section where
  heading : String
  entries : List (String × Definition)

namespace Section

/-- A section line by line. -/
def lines (s : Section) : List String :=
  ("## " ++ s.heading ++ "\n") :: s.entries.flatMap fun e => Registry.docEntry e.1 e.2

/-- A section as text. -/
def text (s : Section) : String :=
  joinWith "\n" s.lines

end Section

/-! ## The length of joined lines -/

/-- The number of characters of lines, with one for the end of each. -/
def weight : List String → Nat
  | [] => 0
  | l :: rest => l.length + 1 + weight rest

lemma weight_cons (l : String) (rest : List String) :
    weight (l :: rest) = l.length + 1 + weight rest :=
  rfl

lemma weight_append (a b : List String) : weight (a ++ b) = weight a + weight b := by
  induction a with
  | nil => rw [List.nil_append, weight, Nat.zero_add]
  | cons l a ih => rw [List.cons_append, weight_cons, weight_cons, ih, ← Nat.add_assoc]

lemma weight_perm {a b : List String} (h : a.Perm b) : weight a = weight b := by
  induction h with
  | nil => rfl
  | cons l _ ih => rw [weight_cons, weight_cons, ih]
  | swap l m rest =>
    simp only [weight_cons]
    omega
  | trans _ _ ih ih' => exact ih.trans ih'

/-- A line in front of others is followed by a line feed. -/
lemma joinWith_cons (l : String) {rest : List String} (h : rest ≠ []) :
    joinWith "\n" (l :: rest) = l ++ "\n" ++ joinWith "\n" rest := by
  rw [joinWith]
  exact h

/-- Joined lines end with the last character of the last line. -/
lemma length_joinWith (lines : List String) :
    (joinWith "\n" lines).length = weight lines - 1 := by
  induction lines with
  | nil => rfl
  | cons l rest ih =>
    cases rest with
    | nil => simp [joinWith, weight]
    | cons l' rest =>
      have hend : "\n".length = 1 := rfl
      have hrest := weight_cons l' rest
      rw [joinWith_cons _ (List.cons_ne_nil _ _), String.length_append, String.length_append, ih,
        weight_cons l, hend]
      omega

/-- Lines that are joined to the same text, and of which some are not empty, have the same
weight. -/
lemma weight_eq_of_joinWith_eq {a b : List String} (h : joinWith "\n" a = joinWith "\n" b)
    (hb : 1 < weight b) : weight a = weight b := by
  have hlength := congrArg String.length h
  rw [length_joinWith, length_joinWith] at hlength
  omega

/-- Lines that are joined in two parts. -/
lemma joinWith_append {a b : List String} (ha : a ≠ []) (hb : b ≠ []) :
    joinWith "\n" (a ++ b) = joinWith "\n" a ++ "\n" ++ joinWith "\n" b := by
  induction a with
  | nil => exact absurd rfl ha
  | cons l a ih =>
    by_cases hnil : a = []
    · subst hnil
      rw [List.singleton_append, joinWith_cons _ hb, joinWith]
    · rw [List.cons_append, joinWith_cons _ (List.append_ne_nil_of_left_ne_nil hnil b), ih hnil,
        joinWith_cons _ hnil]
      simp only [String.append_assoc]

/-- The lines of sections make the texts of the sections joined by line feeds. -/
lemma Section.joinWith_lines (sections : List Section) :
    joinWith "\n" (sections.flatMap lines) = joinWith "\n" (sections.map text) := by
  induction sections with
  | nil => rfl
  | cons s rest ih =>
    rw [List.flatMap_cons, List.map_cons]
    cases rest with
    | nil => simp [joinWith, text]
    | cons s' rest =>
      have hlines : s.lines ≠ [] := List.cons_ne_nil _ _
      have hothers : (s' :: rest).flatMap lines ≠ [] := List.cons_ne_nil _ _
      have htexts : (s' :: rest).map text ≠ [] := List.cons_ne_nil _ _
      rw [joinWith_append hlines hothers, ih, joinWith_cons _ htexts, text]

/-- A section has a heading, so that its text is not empty. -/
lemma Section.one_lt_weight_lines (s : Section) : 1 < weight s.lines := by
  have hmark : "## ".length = 3 := rfl
  rw [lines, weight_cons, String.length_append, String.length_append, hmark]
  omega

/-- Several sections together have more characters than one of them. -/
lemma Section.weight_lines_lt {sections : List Section} {s : Section} (hs : s ∈ sections)
    (hne : sections ≠ [s]) : weight s.lines < weight (sections.flatMap lines) := by
  obtain ⟨before, after, rfl⟩ := List.append_of_mem hs
  rw [List.flatMap_append, List.flatMap_cons, weight_append, weight_append]
  cases before with
  | cons s' before =>
    have hother := s'.one_lt_weight_lines
    rw [List.flatMap_cons, weight_append]
    omega
  | nil =>
    cases after with
    | cons s' after =>
      have hother := s'.one_lt_weight_lines
      rw [List.flatMap_cons, weight_append]
      omega
    | nil => exact absurd rfl hne

namespace Registry

variable (r : Registry)

/-! ## Sections -/

/-- A registered type with its definition. -/
def item? (n : String) : Option (String × Definition) :=
  (r.get? n).map (n, ·)

/-- The section of a group of names. -/
def sectionOf (names : List String) (group : String) : Section where
  heading := group
  entries := (inGroup group names).filterMap r.item?

/-- The sections of names in the order of their headings. -/
def sections (names : List String) : List Section :=
  (sortNames ((grouped names).map (·.1))).map (r.sectionOf names)

/-- The lines of a group of names are those of its section. -/
lemma docSection_inGroup (names : List String) (group : String) :
    r.docSection group (inGroup group names) = (r.sectionOf names group).lines := by
  unfold docSection sectionOf Section.lines
  congr 1
  induction inGroup group names with
  | nil => rfl
  | cons n ns ih =>
    rw [List.flatMap_cons, ih, List.filterMap_cons, item?]
    cases r.get? n <;> rfl

/-- The headings are the names of the groups that have names. -/
lemma mem_headings_iff (names : List String) (group : String) :
    group ∈ sortNames ((grouped names).map (·.1)) ↔ inGroup group names ≠ [] := by
  rw [sortNames, List.mem_mergeSort, mem_map_fst_grouped_iff]

/-- The sections of names are those of the groups that have names. -/
lemma mem_sections_iff (names : List String) (s : Section) :
    s ∈ r.sections names ↔ ∃ group, inGroup group names ≠ [] ∧ r.sectionOf names group = s := by
  unfold sections
  rw [List.mem_map]
  exact exists_congr fun group => and_congr_left' (mem_headings_iff names group)

/-- The documentation of names consists of their sections. -/
lemma docsOf_eq (names : List String) :
    r.docsOf names = joinWith "\n" ((r.sections names).flatMap Section.lines) := by
  unfold docsOf sections
  dsimp only
  rw [List.flatMap_map]
  congr 1
  refine List.flatMap_congr fun group hgroup => ?_
  rw [mem_headings_iff] at hgroup
  rw [find?_grouped, if_neg hgroup]
  exact r.docSection_inGroup names group

/-- Names of one group have its section alone, and no names have none. -/
lemma sections_of_forall {names : List String} {group : String}
    (h : ∀ n ∈ names, groupOf n = group) :
    r.sections names = if names = [] then [] else [r.sectionOf names group] := by
  have hall := inGroup_eq_self h
  have hnodup : (sortNames ((grouped names).map (·.1))).Nodup :=
    (List.mergeSort_perm _ _).nodup_iff.mpr (nodup_grouped names)
  have hmem : ∀ g, g ∈ sortNames ((grouped names).map (·.1)) ↔ names ≠ [] ∧ g = group := by
    intro g
    rw [mem_headings_iff]
    constructor
    · intro hne
      obtain ⟨n, hn⟩ := List.exists_mem_of_ne_nil _ hne
      rw [mem_inGroup_iff] at hn
      exact ⟨List.ne_nil_of_mem hn.1, hn.2.symm.trans (h n hn.1)⟩
    · rintro ⟨hne, rfl⟩
      rwa [hall]
  unfold sections
  split
  · rename_i hnil
    rw [List.map_eq_nil_iff, List.eq_nil_iff_forall_not_mem]
    exact fun g hg => ((hmem g).mp hg).1 hnil
  · rename_i hne
    have hsingle : sortNames ((grouped names).map (·.1)) = [group] := by
      refine List.perm_singleton.mp ((List.perm_ext_iff_of_nodup hnodup
        (List.nodup_singleton group)).mpr fun g => ?_)
      rw [hmem, List.mem_singleton, and_iff_right hne]
    rw [hsingle, List.map_singleton]

/-! ## One entry for each type -/

/-- The names of the entries of a section are the names of its group, if all of them are
registered. -/
lemma map_fst_entries {names : List String} (h : ∀ n ∈ names, r.has n = true) (group : String) :
    (r.sectionOf names group).entries.map (·.1) = inGroup group names := by
  have hgroup : ∀ n ∈ inGroup group names, r.has n = true :=
    fun n hn => h n ((mem_inGroup_iff _ _ _).mp hn).1
  unfold sectionOf
  dsimp only
  generalize inGroup group names = ns at hgroup ⊢
  induction ns with
  | nil => rfl
  | cons n ns ih =>
    rw [List.forall_mem_cons] at hgroup
    obtain ⟨d, hd⟩ := Option.isSome_iff_exists.mp hgroup.1
    have hitem : r.item? n = some (n, d) := by rw [item?, hd, Option.map_some]
    rw [List.filterMap_cons_some hitem, List.map_cons, ih hgroup.2]

/-- The sections of names have each of them once. -/
lemma map_fst_sections_perm {names : List String} (h : ∀ n ∈ names, r.has n = true) :
    (((r.sections names).flatMap Section.entries).map (·.1)).Perm names := by
  have hsections : ((r.sections names).flatMap Section.entries).map (·.1) =
      (sortNames ((grouped names).map (·.1))).flatMap (inGroup · names) := by
    rw [sections, List.flatMap_map, List.map_flatMap]
    exact List.flatMap_congr fun group _ => r.map_fst_entries h group
  have hgroups : ((grouped names).map (·.1)).flatMap (inGroup · names) =
      (grouped names).flatMap (·.2) := by
    rw [List.flatMap_map]
    exact List.flatMap_congr fun e he => ((mem_grouped_iff names e.1 e.2).mp he).1.symm
  rw [hsections]
  refine ((List.mergeSort_perm _ _).flatMap_right _).trans ?_
  rw [hgroups]
  exact grouped_perm names

/-- Sections that document a registry: they stand in the order of their headings; each has entries,
in the order of their names, and those names belong to the group of the heading; and together they
have one entry for each registered type. -/
structure Documents (sections : List Section) : Prop where
  sorted : (sections.map Section.heading).Pairwise (· < ·)
  grouped : ∀ s ∈ sections, s.entries ≠ [] ∧ (s.entries.map (·.1)).Pairwise (· < ·) ∧
    ∀ e ∈ s.entries, BelongsTo e.1 s.heading
  distinct : ((sections.flatMap Section.entries).map (·.1)).Nodup
  exact : ∀ n d, (n, d) ∈ sections.flatMap Section.entries ↔ r.get? n = some d

/-- All types that are listed are registered. -/
lemma has_of_mem_types : ∀ n ∈ r.types, r.has n = true :=
  fun n hn => (mem_types_iff r n).mp hn

variable {r}

/-- The sections of all types document the registry. -/
lemma Consistent.documents (h : r.Consistent) : r.Documents (r.sections r.types) where
  sorted := by
    have hheadings : (r.sections r.types).map Section.heading =
        sortNames ((Registry.grouped r.types).map (·.1)) := by
      rw [sections, List.map_map]
      exact List.map_id _
    rw [hheadings]
    exact pairwise_sortNames (nodup_grouped r.types)
  grouped := by
    intro s hs
    obtain ⟨group, hgroup, rfl⟩ := (r.mem_sections_iff _ _).mp hs
    have hnames := r.map_fst_entries r.has_of_mem_types group
    refine ⟨fun hnil => hgroup ?_, ?_, fun e he => ?_⟩
    · rw [← hnames, hnil, List.map_nil]
    · rw [hnames]
      exact (types_sorted h.distinct).filter _
    · have hmem := List.mem_map_of_mem (f := (·.1)) he
      rw [hnames, mem_inGroup_iff] at hmem
      exact (groupOf_eq_iff e.1 group).mp hmem.2
  distinct := by
    have hnodup : r.types.Nodup := (types_perm r).nodup_iff.mpr h.distinct
    exact (r.map_fst_sections_perm r.has_of_mem_types).nodup_iff.mpr hnodup
  exact := by
    intro n d
    rw [List.mem_flatMap]
    constructor
    · rintro ⟨s, hs, he⟩
      obtain ⟨group, -, rfl⟩ := (r.mem_sections_iff _ _).mp hs
      obtain ⟨m, -, hitem⟩ := List.mem_filterMap.mp he
      obtain ⟨e, he, hpair⟩ := Option.map_eq_some_iff.mp hitem
      cases hpair
      exact he
    · intro hd
      have hhas : r.has n = true := by rw [has, hd, Option.isSome_some]
      have hgroup : n ∈ inGroup (groupOf n) r.types :=
        (mem_inGroup_iff _ _ _).mpr ⟨(mem_types_iff r n).mpr hhas, rfl⟩
      refine ⟨_, (r.mem_sections_iff _ _).mpr ⟨_, List.ne_nil_of_mem hgroup, rfl⟩, ?_⟩
      refine List.mem_filterMap.mpr ⟨n, hgroup, ?_⟩
      rw [item?, hd, Option.map_some]

/-! ## The documentation of a namespace -/

/-- A name starts with a namespace and a slash exactly if it belongs to the group of that name and
has a slash. -/
lemma startsWith_slash_iff {group : String} (hgroup : '/' ∉ group.toList) (n : String) :
    startsWith (group ++ "/").toList n.toList = true ↔ groupOf n = group ∧ '/' ∈ n.toList := by
  rw [startsWith, List.isPrefixOf_iff_prefix, groupOf_eq_iff]
  constructor
  · rintro ⟨rest, hrest⟩
    have hname : n = group ++ "/" ++ String.ofList rest := by
      rw [← String.toList_inj, String.toList_append, String.toList_ofList, hrest]
    refine ⟨.inl ⟨hgroup, _, hname⟩, ?_⟩
    rw [hname]
    exact slash_mem group _
  · rintro ⟨⟨-, rest, rfl⟩ | ⟨hno, -⟩, hslash⟩
    · exact ⟨rest.toList, String.toList_append.symm⟩
    · exact absurd hslash hno

/-- The types in a namespace are those of its group that have a slash. -/
lemma typesIn_eq (r : Registry) {group : String} (hgroup : '/' ∉ group.toList) :
    r.typesIn group = (inGroup group r.types).filter ('/' ∈ ·.toList) := by
  rw [typesIn, inGroup, List.filter_filter]
  refine List.filter_congr fun n _ => ?_
  rw [Bool.eq_iff_iff, startsWith_slash_iff hgroup, Bool.and_eq_true, decide_eq_true_eq, beq_iff_eq,
    and_comm]

section Weight

variable (r : Registry)

/-- The entries of names line by line. -/
def entryLines (names : List String) : List String :=
  (names.filterMap r.item?).flatMap fun e => docEntry e.1 e.2

/-- The entries of names are those of some of them and those of the others. -/
lemma weight_entryLines_filter (p : String → Bool) (names : List String) :
    weight (r.entryLines names) =
      weight (r.entryLines (names.filter p)) + weight (r.entryLines (names.filter (!p ·))) := by
  rw [← weight_append]
  unfold entryLines
  rw [← List.flatMap_append, ← List.filterMap_append]
  exact weight_perm (((List.filter_append_perm p names).symm.filterMap _).flatMap_right _)

/-- An entry has lines. -/
lemma weight_docEntry_pos (n : String) (d : Definition) : 0 < weight (docEntry n d) := by
  obtain ⟨rest, hrest⟩ : ∃ rest, docEntry n d = ("### `" ++ n ++ "`") :: rest := ⟨_, rfl⟩
  rw [hrest, weight_cons]
  omega

/-- Names of which one is registered have entries. -/
lemma weight_entryLines_pos {names : List String} {n : String} (hn : n ∈ names)
    (h : r.has n = true) : 0 < weight (r.entryLines names) := by
  obtain ⟨before, after, rfl⟩ := List.append_of_mem hn
  obtain ⟨d, hd⟩ := Option.isSome_iff_exists.mp h
  have hitem : r.item? n = some (n, d) := by rw [item?, hd, Option.map_some]
  have hfirst := weight_docEntry_pos n d
  unfold entryLines
  rw [List.filterMap_append, List.filterMap_cons_some hitem, List.flatMap_append,
    List.flatMap_cons, weight_append, weight_append]
  dsimp only
  omega

/-- Without the entry of a registered type there are fewer characters. -/
lemma weight_entryLines_filter_lt {p : String → Bool} {names : List String} {n : String}
    (hn : n ∈ names) (hp : p n = false) (h : r.has n = true) :
    weight (r.entryLines (names.filter p)) < weight (r.entryLines names) := by
  have hparts := r.weight_entryLines_filter p names
  have hlost : 0 < weight (r.entryLines (names.filter (!p ·))) :=
    r.weight_entryLines_pos (List.mem_filter.mpr ⟨hn, by rw [hp, Bool.not_false]⟩) h
  omega

end Weight

/-- The lines of a section are its heading and the entries of its group. -/
lemma weight_sectionOf (names : List String) (group : String) :
    weight (r.sectionOf names group).lines =
      ("## " ++ group ++ "\n").length + 1 + weight (r.entryLines (inGroup group names)) :=
  weight_cons _ _

/-- The documentation of the namespace of a group is the section of the group exactly if all names
of the group have a slash. -/
lemma docs_namespace_iff {group : String} (hslash : '/' ∉ group.toList) (hgroup : group ≠ "")
    (hnames : inGroup group r.types ≠ []) :
    r.docs (some group) = (r.sectionOf r.types group).text ↔
      ∀ n ∈ inGroup group r.types, '/' ∈ n.toList := by
  have hscope : r.docs (some group) =
      r.docsOf ((inGroup group r.types).filter ('/' ∈ ·.toList)) := by
    rw [← typesIn_eq r hslash]
    exact if_neg hgroup
  have hin : ∀ n ∈ (inGroup group r.types).filter ('/' ∈ ·.toList), groupOf n = group :=
    fun n hn => ((mem_inGroup_iff _ _ _).mp (List.mem_of_mem_filter hn)).2
  rw [hscope, docsOf_eq, r.sections_of_forall hin]
  constructor
  · intro htext n hn
    by_contra hno
    -- the text is shorter without the entry of the name
    have hweight := weight_eq_of_joinWith_eq htext (Section.one_lt_weight_lines _)
    have hlt := r.weight_entryLines_filter_lt (p := fun m => decide ('/' ∈ m.toList)) hn
      (decide_eq_false hno) (r.has_of_mem_types n ((mem_inGroup_iff _ _ _).mp hn).1)
    rw [weight_sectionOf] at hweight
    split at hweight
    · rw [List.flatMap_nil, weight] at hweight
      omega
    · rw [List.flatMap_singleton, weight_sectionOf, inGroup_eq_self hin] at hweight
      omega
  · intro hall
    have hfilter : (inGroup group r.types).filter ('/' ∈ ·.toList) = inGroup group r.types :=
      List.filter_eq_self.mpr fun n hn => decide_eq_true (hall n hn)
    rw [hfilter] at hin ⊢
    rw [if_neg hnames, List.flatMap_singleton, sectionOf, inGroup_eq_self hin]
    rfl

/-- The text of a section comes out for the empty namespace exactly if it is the only section. -/
lemma docs_empty_iff {s : Section} (hs : s ∈ r.sections r.types) :
    r.docs (some "") = s.text ↔ r.sections r.types = [s] := by
  have hscope : r.docs (some "") = r.docsOf r.types := by rw [docs, if_pos rfl]
  rw [hscope, docsOf_eq]
  constructor
  · intro htext
    by_contra hne
    have hweight := weight_eq_of_joinWith_eq htext s.one_lt_weight_lines
    have hlt := Section.weight_lines_lt hs hne
    omega
  · intro hone
    rw [hone, List.flatMap_singleton, Section.text]

/-- The documentation of a registry is a list of sections that have one entry for each type.  No
heading has a slash, and the documentation of a heading as a namespace is the section exactly if
the heading is not the empty one, or there is no other section, and if all names of the section
have a slash in case that it is the general one. -/
theorem namespace_docs_are_section_iff [YamlLibrary] (lib : Library) (ops : List Operation) :
    ∃ sections, (Operation.run lib ops Shelf.empty).registry.Documents sections ∧
      (Operation.run lib ops Shelf.empty).registry.docs none =
        joinWith "\n" (sections.map Section.text) ∧
      ∀ s ∈ sections, '/' ∉ s.heading.toList ∧
        ((Operation.run lib ops Shelf.empty).registry.docs (some s.heading) = s.text ↔
          (s.heading = "" → sections = [s]) ∧
          (s.heading = generalGroup → ∀ e ∈ s.entries, '/' ∈ e.1.toList)) := by
  obtain ⟨-, -, -, hconsistent, -⟩ := exists_history lib ops
  generalize (Operation.run lib ops Shelf.empty).registry = r at hconsistent ⊢
  have hdocs := hconsistent.documents
  refine ⟨r.sections r.types, hdocs, ?_, fun s hs => ?_⟩
  · rw [← Section.joinWith_lines]
    exact r.docsOf_eq r.types
  obtain ⟨group, hnames, rfl⟩ := (r.mem_sections_iff _ _).mp hs
  obtain ⟨n, hn⟩ := List.exists_mem_of_ne_nil _ hnames
  have hslash := ((groupOf_eq_iff n group).mp ((mem_inGroup_iff _ _ _).mp hn).2).slash_not_mem
  have hentries : (∀ e ∈ (r.sectionOf r.types group).entries, '/' ∈ e.1.toList) ↔
      ∀ n ∈ inGroup group r.types, '/' ∈ n.toList := by
    rw [← r.map_fst_entries r.has_of_mem_types group, List.forall_mem_map]
  refine ⟨hslash, ?_⟩
  rw [hentries]
  change r.docs (some group) = _ ↔ (group = "" → _) ∧ (group = generalGroup → _)
  by_cases hempty : group = ""
  · subst hempty
    rw [docs_empty_iff hs, and_iff_left fun h => absurd h (by decide)]
    exact ⟨fun h _ => h, fun h => h rfl⟩
  · rw [docs_namespace_iff hslash hempty hnames, and_iff_right fun h => absurd h hempty]
    constructor
    · exact fun h _ => h
    · intro h n hn
      by_cases hgeneral : group = generalGroup
      · exact h hgeneral n hn
      · refine slash_mem_of_groupOf_ne ?_
        rwa [((mem_inGroup_iff _ _ _).mp hn).2]

open scoped Standard in
/-- A type without a slash stands under the general heading, and the documentation of that heading
as a namespace is empty. -/
theorem general_docs_lack_names_without_slash :
    (Operation.run .empty [.register "footer" .null] Shelf.empty).registry.docs none =
        "## general\n\n### `footer`\n---\n" ∧
      (Operation.run .empty [.register "footer" .null] Shelf.empty).registry.docs
        (some "general") = "" := by
  decide +kernel

end Registry

end PageTree
