import PageTree.Proofs.Config.Schema
import PageTree.Resolution.Resolver

/-!
# Configurations that were checked

`Config.problems` checks what is given, `Config.merge` lays it over the defaults, and the program
uses the result.  The checks pass over null and do not look at every setting.  A configuration
without problems is usable exactly if it is `Filled`: a port and a depth bound that are given are
not null, and a host, a trace level and an image for missing ones that are given are texts.  To
conform to the schema it must be `Literal` too: the schema lists trace levels in lower case, where
the checks and the program take letters of any case, and it wants texts as breakpoints.

`Checked` says what the absence of problems means for single settings.  Each setting over the
defaults is the one that is given, or else the default (`setting?_merge`), which passes every check,
so that what is needed is compared with what is checked one setting at a time.
-/

namespace PageTree.Config

open Entries (get? keys find? Distinct)

/-! ## What is checked -/

/-- What a configuration is without problems, setting by setting. -/
structure Checked (d : Entries) : Prop where
  known : ∀ k ∈ keys d, isKnown sections k = true
  directories : ∀ v, section? d "definition_dirs" = some v → isTextList v = true
  server : IsMapped d "server"
  serverKeys : ∀ k ∈ keys (sectionEntries d "server"), isKnown ["host", "port"] k = true
  port : ∀ v, setting? d "server" "port" = some v →
    v = .null ∨ ∃ i, v = .int i ∧ 1 ≤ i ∧ i ≤ 65535
  resolution : IsMapped d "resolution"
  resolutionKeys : ∀ k ∈ keys (sectionEntries d "resolution"),
    isKnown ["max_depth", "trace_level"] k = true
  depth : ∀ v, setting? d "resolution" "max_depth" = some v → v = .null ∨ ∃ i, v = .int i ∧ 1 ≤ i
  level : ∀ v, setting? d "resolution" "trace_level" = some v →
    v = .null ∨ ∃ l, TraceLevel.ofName? (Text.lower v.text) = some l
  images : IsMapped d "images"
  imageKeys : ∀ k ∈ keys (sectionEntries d "images"),
    isKnown ["sizes", "breakpoints", "missing_image_url"] k = true
  sizes : ∀ v, setting? d "images" "sizes" = some v → ∃ es, v = .map es
  breakpoints : ∀ v, setting? d "images" "breakpoints" = some v → ∃ es, v = .map es

/-- A requirement is no problem if it holds. -/
@[simp] lemma require_eq_nil_iff (holds : Bool) (problem : String) :
    require holds problem = [] ↔ holds = true := by
  cases holds <;> simp [require]

/-- Keys are no problem if they are known. -/
@[simp] lemma unknownKeys_eq_nil_iff (what : String) (known : List String) (entries : Entries) :
    unknownKeys what known entries = [] ↔ ∀ k ∈ keys entries, isKnown known k = true := by
  simp [unknownKeys]

/-- A section is no problem if it is missing or passes its check. -/
@[simp] lemma sectionProblems_eq_nil_iff (config : Entries) (name : String)
    (check : Value → List String) :
    sectionProblems config name check = [] ↔ ∀ v, section? config name = some v → check v = [] := by
  unfold sectionProblems
  cases section? config name <;> simp

/-- A setting that may be null is null or a whole number in its range. -/
lemma isWholeWhere_lookup (p : Int → Bool) (entries : Entries) (name : String) :
    isWholeWhere p (Entries.lookup entries name) = true ↔
      ∀ v, find? entries name = some v → v = .null ∨ ∃ i, v = .int i ∧ p i = true := by
  unfold Entries.lookup
  cases find? entries name with
  | none => simp [isWholeWhere]
  | some v => cases v <;> simp [isWholeWhere]

/-- A trace level is null or names one. -/
lemma isLevelName_lookup (entries : Entries) (name : String) :
    isLevelName (Entries.lookup entries name) = true ↔
      ∀ v, find? entries name = some v →
        v = .null ∨ ∃ l, TraceLevel.ofName? (Text.lower v.text) = some l := by
  unfold Entries.lookup isLevelName
  cases find? entries name with
  | none => simp [Value.isNull]
  | some v => cases v <;> simp [Value.isNull, Option.isSome_iff_exists]

/-- An entry that has to be a mapping is one, or it is missing. -/
lemma mappingProblems_eq_nil_iff (entries : Entries) (name : String) :
    mappingProblems entries name = [] ↔
      ∀ v, find? entries name = some v → ∃ es, v = .map es := by
  unfold mappingProblems
  cases find? entries name with
  | none => simp
  | some v => cases v <;> simp [isMapping]

/-- A check of a section passes if the section is a mapping, or missing, whose entries pass. -/
lemma section_check_iff {check : Value → List String} {P : Entries → Prop}
    (hcheck : ∀ v, check v = [] ↔ ∃ es, v = .map es ∧ P es) (hempty : P []) (d : Entries)
    (name : String) :
    (∀ v, section? d name = some v → check v = []) ↔
      IsMapped d name ∧ P (sectionEntries d name) := by
  unfold IsMapped sectionEntries
  cases section? d name with
  | none => simp [hempty]
  | some v =>
    simp only [Option.some.injEq, forall_eq', hcheck]
    constructor
    · rintro ⟨es, rfl, hes⟩
      exact ⟨⟨es, rfl⟩, hes⟩
    · rintro ⟨⟨es, rfl⟩, hes⟩
      exact ⟨es, rfl, hes⟩

/-- The server is without problems. -/
lemma serverProblems_eq_nil_iff (v : Value) :
    serverProblems v = [] ↔ ∃ es, v = .map es ∧
      (∀ k ∈ keys es, isKnown ["host", "port"] k = true) ∧
      ∀ v, find? es "port" = some v → v = .null ∨ ∃ i, v = .int i ∧ 1 ≤ i ∧ i ≤ 65535 := by
  cases v with
  | map es => simp [serverProblems, isWholeWhere_lookup]
  | _ => simp [serverProblems]

/-- The resolution is without problems. -/
lemma resolutionProblems_eq_nil_iff (v : Value) :
    resolutionProblems v = [] ↔ ∃ es, v = .map es ∧
      (∀ k ∈ keys es, isKnown ["max_depth", "trace_level"] k = true) ∧
      (∀ v, find? es "max_depth" = some v → v = .null ∨ ∃ i, v = .int i ∧ 1 ≤ i) ∧
      ∀ v, find? es "trace_level" = some v →
        v = .null ∨ ∃ l, TraceLevel.ofName? (Text.lower v.text) = some l := by
  cases v with
  | map es => simp [resolutionProblems, isWholeWhere_lookup, isLevelName_lookup]
  | _ => simp [resolutionProblems]

/-- The images are without problems. -/
lemma imageProblems_eq_nil_iff (v : Value) :
    imageProblems v = [] ↔ ∃ es, v = .map es ∧
      (∀ k ∈ keys es, isKnown ["sizes", "breakpoints", "missing_image_url"] k = true) ∧
      (∀ v, find? es "sizes" = some v → ∃ es, v = .map es) ∧
      ∀ v, find? es "breakpoints" = some v → ∃ es, v = .map es := by
  cases v with
  | map es => simp [imageProblems, mappingProblems_eq_nil_iff]
  | _ => simp [imageProblems]

/-- A configuration has no problems exactly if it is checked. -/
theorem problems_eq_nil_iff (d : Entries) : problems (.map d) = [] ↔ Checked d := by
  have hnone : ∀ name, find? ([] : Entries) name = none := fun _ => rfl
  have hkeys : keys ([] : Entries) = [] := rfl
  have hserver := section_check_iff serverProblems_eq_nil_iff (by simp [hnone, hkeys]) d "server"
  have hresolution := section_check_iff resolutionProblems_eq_nil_iff (by simp [hnone, hkeys]) d
    "resolution"
  have himages := section_check_iff imageProblems_eq_nil_iff (by simp [hnone, hkeys]) d "images"
  simp only [problems, List.append_eq_nil_iff, unknownKeys_eq_nil_iff, sectionProblems_eq_nil_iff,
    directoryProblems, require_eq_nil_iff, hserver, hresolution, himages]
  constructor
  · rintro ⟨⟨⟨⟨hknown, hdirectories⟩, hserver, hserverKeys, hport⟩, hresolution, hresolutionKeys,
      hdepth, hlevel⟩, himages, himageKeys, hsizes, hbreakpoints⟩
    exact ⟨hknown, hdirectories, hserver, hserverKeys, hport, hresolution, hresolutionKeys, hdepth,
      hlevel, himages, himageKeys, hsizes, hbreakpoints⟩
  · intro h
    exact ⟨⟨⟨⟨h.known, h.directories⟩, h.server, h.serverKeys, h.port⟩, h.resolution,
      h.resolutionKeys, h.depth, h.level⟩, h.images, h.imageKeys, h.sizes, h.breakpoints⟩

/-! ## What is used -/

/-- The mappings of a configuration list each key once. -/
structure WellKeyed (d : Entries) : Prop where
  keys : Distinct d
  sections : ∀ name, Distinct (sectionEntries d name)
  breakpoints : ∀ es, setting? d "images" "breakpoints" = some (.map es) → Distinct es

/-- What the program needs of a configuration, and what it reads from it. -/
structure Usable (config : Entries) : Prop where
  depth : ∃ n : Nat, 1 ≤ n ∧ depthSetting config = .ok (.int n) ∧ Resolver.depthOf (.int n) = .ok n
  port : ∃ i : Int, setting? config "server" "port" = some (.int i) ∧ 1 ≤ i ∧ i ≤ 65535
  level : ∃ name l, setting? config "resolution" "trace_level" = some (.str name) ∧
    TraceLevel.ofName? (Text.lower name) = some l ∧ traceLevel config = .ok l
  host : ∃ s, setting? config "server" "host" = some (.str s)
  directories : ∃ vs, section? config "definition_dirs" = some (.list vs) ∧
    isTextList (.list vs) = true ∧ directories config = .ok vs
  images : ∃ sizes breakpoints missing, setting? config "images" "sizes" = some (.map sizes) ∧
    setting? config "images" "breakpoints" = some (.map breakpoints) ∧
    setting? config "images" "missing_image_url" = some (.str missing) ∧
    imageSettings config = .ok ⟨sizes, breakpoints, .str missing⟩

/-- What the checks leave open: nothing is null where a number is needed, and what has to be a text
is one. -/
structure Filled (d : Entries) : Prop where
  host : ∀ v, setting? d "server" "host" = some v → isText v = true
  port : setting? d "server" "port" ≠ some .null
  depth : setting? d "resolution" "max_depth" ≠ some .null
  level : ∀ v, setting? d "resolution" "trace_level" = some v → isText v = true
  missing : ∀ v, setting? d "images" "missing_image_url" = some v → isText v = true

/-- What the schema asks for besides: the trace level is named as the schema lists it, and
breakpoints are texts. -/
structure Literal (d : Entries) : Prop where
  level : ∀ s, setting? d "resolution" "trace_level" = some (.str s) → s ∈ TraceLevel.sortedNames
  breakpoints : ∀ es, setting? d "images" "breakpoints" = some (.map es) →
    ∀ e ∈ es, isText e.2 = true

section Merged

variable {d : Entries} (hd : WellKeyed d) (h : Checked d)

include hd

/-- A setting whose default is no mapping is the one that is given, or else the default.  What holds
of the default holds of the setting if it holds of what is given. -/
lemma exists_setting {sectionName : String} (name : String) (hmapped : IsMapped d sectionName)
    {entries : Entries} (hbase : section? defaults sectionName = some (.map entries))
    {default : Value} (hdefault : find? entries name = some default)
    (hplain : ∀ es, default ≠ .map es) :
    ∃ w, setting? (merge defaults d) sectionName name = some w ∧
      ∀ P : Value → Prop, P default →
        (P w ↔ ∀ v, setting? d sectionName name = some v → P v) := by
  rw [setting?_merge hd.keys hmapped (hd.sections _) hbase hdefault]
  cases setting? d sectionName name with
  | none => exact ⟨default, rfl, fun P hP => iff_of_true hP nofun⟩
  | some v =>
    have hmerged : mergeValue (some default) v = v :=
      mergeValue_of_not_map (fun es hes => hplain es (Option.some.inj hes)) v
    refine ⟨v, congrArg some hmerged, fun P _ => ?_⟩
    simp only [Option.some.injEq, forall_eq']

/-- Where what is given is null or as needed, the setting is as needed unless null is given. -/
lemma exists_unless_null {sectionName : String} (name : String) (hmapped : IsMapped d sectionName)
    {entries : Entries} (hbase : section? defaults sectionName = some (.map entries))
    {default : Value} (hdefault : find? entries name = some default)
    (hplain : ∀ es, default ≠ .map es) {P : Value → Prop} (hP : P default) (hnull : ¬ P .null)
    (hgiven : ∀ v, setting? d sectionName name = some v → v = .null ∨ P v) :
    ∃ w, setting? (merge defaults d) sectionName name = some w ∧
      (P w ↔ setting? d sectionName name ≠ some .null) := by
  obtain ⟨w, hw, hiff⟩ := exists_setting hd name hmapped hbase hdefault hplain
  refine ⟨w, hw, (hiff P hP).trans ⟨fun hall hset => hnull (hall _ hset), fun hne v hv => ?_⟩⟩
  exact (hgiven v hv).resolve_left fun hv' => hne (hv' ▸ hv)

/-- A setting whose default is the empty mapping is the mapping that is given, or else empty. -/
lemma exists_mapping {sectionName : String} (name : String) (hmapped : IsMapped d sectionName)
    {entries : Entries} (hbase : section? defaults sectionName = some (.map entries))
    (hdefault : find? entries name = some (.map []))
    (hgiven : ∀ v, setting? d sectionName name = some v → ∃ es, v = .map es) :
    ∃ u, setting? (merge defaults d) sectionName name = some (.map (merge [] u)) ∧
      (setting? d sectionName name = some (.map u) ∨
        setting? d sectionName name = none ∧ u = []) := by
  rw [setting?_merge hd.keys hmapped (hd.sections _) hbase hdefault]
  cases hset : setting? d sectionName name with
  | none => exact ⟨[], by rw [merge_nil], .inr ⟨rfl, rfl⟩⟩
  | some v =>
    obtain ⟨u, rfl⟩ := hgiven v hset
    exact ⟨u, congrArg some (mergeValue_map [] u), .inl rfl⟩

include h

/-- The host is a text if a given one is. -/
lemma exists_host : ∃ w, setting? (merge defaults d) "server" "host" = some w ∧
    (isText w = true ↔ ∀ v, setting? d "server" "host" = some v → isText v = true) := by
  obtain ⟨w, hw, hiff⟩ := exists_setting hd "host" h.server rfl rfl nofun
  exact ⟨w, hw, hiff (isText · = true) rfl⟩

/-- The port is a whole number in its range unless null is given. -/
lemma exists_port : ∃ w, setting? (merge defaults d) "server" "port" = some w ∧
    ((∃ i, w = .int i ∧ 1 ≤ i ∧ i ≤ 65535) ↔ setting? d "server" "port" ≠ some .null) :=
  exists_unless_null hd "port" h.server rfl rfl nofun ⟨Settings.port, rfl, by decide, by decide⟩
    nofun h.port

/-- The depth bound is a positive whole number unless null is given. -/
lemma exists_depth : ∃ w, setting? (merge defaults d) "resolution" "max_depth" = some w ∧
    ((∃ i, w = .int i ∧ 1 ≤ i) ↔ setting? d "resolution" "max_depth" ≠ some .null) :=
  exists_unless_null hd "max_depth" h.resolution rfl rfl nofun ⟨Settings.maxDepth, rfl, by decide⟩
    nofun h.depth

/-- The trace level is a text if a given one is, and then it names a level in letters of any
case. -/
lemma exists_level : ∃ w, setting? (merge defaults d) "resolution" "trace_level" = some w ∧
    (isText w = true ↔ ∀ v, setting? d "resolution" "trace_level" = some v → isText v = true) ∧
    ((∃ s ∈ TraceLevel.sortedNames, w = .str s) ↔
      ∀ v, setting? d "resolution" "trace_level" = some v →
        ∃ s ∈ TraceLevel.sortedNames, v = .str s) ∧
    ∀ s, w = .str s → ∃ l, TraceLevel.ofName? (Text.lower s) = some l := by
  obtain ⟨w, hw, hiff⟩ := exists_setting hd "trace_level" h.resolution rfl rfl nofun
  have hlisted := hiff (fun w => ∃ s ∈ TraceLevel.sortedNames, w = .str s)
    ⟨Settings.traceLevel, by decide, rfl⟩
  have hnamed := hiff
    (fun w => w = .null ∨ ∃ l, TraceLevel.ofName? (Text.lower w.text) = some l)
    (.inr ⟨.errors, rfl⟩)
  refine ⟨w, hw, hiff (isText · = true) rfl, hlisted, ?_⟩
  rintro s rfl
  exact (hnamed.mpr h.level).resolve_left nofun

/-- The image that stands for a missing one is a text if a given one is. -/
lemma exists_missing : ∃ w, setting? (merge defaults d) "images" "missing_image_url" = some w ∧
    (isText w = true ↔
      ∀ v, setting? d "images" "missing_image_url" = some v → isText v = true) := by
  obtain ⟨w, hw, hiff⟩ := exists_setting hd "missing_image_url" h.images rfl rfl nofun
  exact ⟨w, hw, hiff (isText · = true) rfl⟩

/-- The sizes of images are a mapping. -/
lemma exists_sizes : ∃ es, setting? (merge defaults d) "images" "sizes" = some (.map es) := by
  obtain ⟨u, hu, -⟩ := exists_mapping hd "sizes" h.images rfl rfl h.sizes
  exact ⟨_, hu⟩

/-- The breakpoints are a mapping, whose values are texts if given ones are. -/
lemma exists_breakpoints :
    ∃ es, setting? (merge defaults d) "images" "breakpoints" = some (.map es) ∧
      ((∀ e ∈ es, isText e.2 = true) ↔
        ∀ u, setting? d "images" "breakpoints" = some (.map u) → ∀ e ∈ u, isText e.2 = true) := by
  obtain ⟨u, hu, hset⟩ := exists_mapping hd "breakpoints" h.images rfl rfl h.breakpoints
  refine ⟨_, hu, ?_⟩
  rcases hset with hset | ⟨hset, rfl⟩
  · rw [forall_values_merge_nil (hd.breakpoints u hset) (isText · = true), hset]
    simp only [Option.some.injEq, Value.map.injEq, forall_eq']
  · rw [merge_nil, hset]
    exact iff_of_true nofun nofun

/-- The directories of definitions are a list of texts. -/
lemma exists_directories : ∃ vs, section? (merge defaults d) "definition_dirs" = some (.list vs) ∧
    isTextList (.list vs) = true := by
  have hget := get?_merge defaults hd.keys (.str "definition_dirs")
  have hdefault : get? defaults (.str "definition_dirs") = some defaultDirectories := rfl
  rw [section?, find?, hget, hdefault]
  cases hgiven : get? d (.str "definition_dirs") with
  | none => exact ⟨_, rfl, rfl⟩
  | some v =>
    have htexts := h.directories v hgiven
    cases v with
    | list vs => exact ⟨vs, rfl, htexts⟩
    | _ => cases htexts

end Merged

/-! ## What is read -/

/-- A mapping, or else an empty one, is the mapping. -/
lemma orElse_map (es : Entries) : (Value.map es).orElse (.map []) = .map es := by
  cases es <;> rfl

/-- A list, or else an empty one, is the list. -/
lemma orElse_list (vs : List Value) : (Value.list vs).orElse (.list []) = .list vs := by
  cases vs <;> rfl

/-- The directories that are configured are read. -/
lemma directories_eq {config : Entries} {vs : List Value}
    (h : section? config "definition_dirs" = some (.list vs)) : directories config = .ok vs := by
  have hlookup : Entries.lookup config "definition_dirs" = .list vs := congrArg (·.getD .null) h
  rw [directories, hlookup, orElse_list]
  rfl

/-- A section that has a setting is a mapping. -/
lemma exists_of_setting? {config : Entries} {sectionName name : String} {v : Value}
    (h : setting? config sectionName name = some v) :
    ∃ es, section? config sectionName = some (.map es) ∧
      ∀ name, find? es name = setting? config sectionName name := by
  unfold setting? sectionEntries at *
  split at h
  · rename_i es hes
    exact ⟨es, hes, fun _ => rfl⟩
  · cases h

/-- A setting of the resolution is read from its section. -/
lemma resolutionSetting?_eq {config : Entries} {name : String} {v : Value}
    (h : setting? config "resolution" name = some v) :
    resolutionSetting? config name = .ok (some v) := by
  obtain ⟨es, hsection, hfind⟩ := exists_of_setting? h
  have hentries : (Value.map es).entriesFor "get" = .ok es := rfl
  rw [resolutionSetting?, hsection, Option.getD_some, hentries]
  exact congrArg Except.ok ((hfind name).trans h)

/-- The depth bound is read from its section. -/
lemma depthSetting_eq {config : Entries} {v : Value}
    (h : setting? config "resolution" "max_depth" = some v) : depthSetting config = .ok v := by
  rw [depthSetting, resolutionSetting?_eq h]
  rfl

/-- The trace level is the one that is named in letters of any case. -/
lemma traceLevel_eq {config : Entries} {name : String} {l : TraceLevel}
    (h : setting? config "resolution" "trace_level" = some (.str name))
    (hl : TraceLevel.ofName? (Text.lower name) = some l) : traceLevel config = .ok l := by
  have htext : (Value.str name).text = name := rfl
  rw [traceLevel, resolutionSetting?_eq h]
  simp only [bind, Except.bind, Option.getD_some, htext, hl]
  rfl

/-- The settings for images are read from their section. -/
lemma imageSettings_eq {config sizes breakpoints : Entries} {missing : Value}
    (hsizes : setting? config "images" "sizes" = some (.map sizes))
    (hbreakpoints : setting? config "images" "breakpoints" = some (.map breakpoints))
    (hmissing : setting? config "images" "missing_image_url" = some missing) :
    imageSettings config = .ok ⟨sizes, breakpoints, missing⟩ := by
  obtain ⟨es, hsection, hfind⟩ := exists_of_setting? hsizes
  have himages : Entries.lookup config "images" = .map es := congrArg (·.getD .null) hsection
  have hlookup : ∀ name v, setting? config "images" name = some v → Entries.lookup es name = v :=
    fun name v hv => congrArg (·.getD .null) ((hfind name).trans hv)
  have hentries : (Value.map es).entriesFor "get" = .ok es := rfl
  have hmapping : ∀ gs, (Value.map gs).toEntries = .ok gs := fun _ => rfl
  have hfound := (hfind "missing_image_url").trans hmissing
  rw [imageSettings, himages, orElse_map, hentries]
  simp only [bind, Except.bind]
  rw [hlookup _ _ hsizes, hlookup _ _ hbreakpoints, orElse_map, orElse_map, hmapping, hmapping,
    hfound]
  rfl

/-- A positive whole number is a depth bound. -/
lemma depthOf_int {i : Int} (h : 1 ≤ i) : Resolver.depthOf (.int i) = .ok i.toNat := by
  have hbound : ¬ i < 1 := Int.not_lt.mpr h
  simp only [Resolver.depthOf, bind, Except.bind, if_neg hbound]

variable {d : Entries}

/-- What was checked is usable over the defaults exactly if nothing is left open. -/
lemma usable_iff (hd : WellKeyed d) (h : Checked d) :
    Usable (merge defaults d) ↔ Filled d := by
  obtain ⟨host, hhost, hhost'⟩ := exists_host hd h
  obtain ⟨port, hport, hport'⟩ := exists_port hd h
  obtain ⟨depth, hdepth, hdepth'⟩ := exists_depth hd h
  obtain ⟨level, hlevel, hlevel', -, hnamed⟩ := exists_level hd h
  obtain ⟨missing, hmissing, hmissing'⟩ := exists_missing hd h
  obtain ⟨sizes, hsizes⟩ := exists_sizes hd h
  obtain ⟨breakpoints, hbreakpoints, -⟩ := exists_breakpoints hd h
  obtain ⟨vs, hvs, htexts⟩ := exists_directories hd h
  have hdepthSetting := depthSetting_eq hdepth
  constructor
  · intro hu
    refine ⟨hhost'.mp ?_, hport'.mp ?_, hdepth'.mp ?_, hlevel'.mp ?_, hmissing'.mp ?_⟩
    · obtain ⟨s, hs⟩ := hu.host
      exact isText_iff.mpr ⟨s, Option.some.inj (hhost.symm.trans hs)⟩
    · obtain ⟨i, hi, hrange⟩ := hu.port
      exact ⟨i, Option.some.inj (hport.symm.trans hi), hrange⟩
    · obtain ⟨n, hn, hset, -⟩ := hu.depth
      exact ⟨n, Except.ok.inj (hdepthSetting.symm.trans hset), by exact_mod_cast hn⟩
    · obtain ⟨name, -, hname, -, -⟩ := hu.level
      exact isText_iff.mpr ⟨name, Option.some.inj (hlevel.symm.trans hname)⟩
    · obtain ⟨-, -, s, -, -, hs, -⟩ := hu.images
      exact isText_iff.mpr ⟨s, Option.some.inj (hmissing.symm.trans hs)⟩
  · intro hf
    obtain ⟨s, rfl⟩ := isText_iff.mp (hhost'.mpr hf.host)
    obtain ⟨i, rfl, hrange⟩ := hport'.mpr hf.port
    obtain ⟨k, rfl, hk⟩ := hdepth'.mpr hf.depth
    obtain ⟨name, rfl⟩ := isText_iff.mp (hlevel'.mpr hf.level)
    obtain ⟨url, rfl⟩ := isText_iff.mp (hmissing'.mpr hf.missing)
    obtain ⟨l, hl⟩ := hnamed name rfl
    have hnat : ((k.toNat : Nat) : Int) = k := Int.toNat_of_nonneg (Int.le_trans (by decide) hk)
    exact {
      depth := ⟨k.toNat, by omega, hnat.symm ▸ hdepthSetting, hnat.symm ▸ depthOf_int hk⟩
      port := ⟨i, hport, hrange⟩
      level := ⟨name, l, hlevel, hl, traceLevel_eq hlevel hl⟩
      host := ⟨s, hhost⟩
      directories := ⟨vs, hvs, htexts, directories_eq hvs⟩
      images := ⟨sizes, breakpoints, url, hsizes, hbreakpoints, hmissing,
        imageSettings_eq hsizes hbreakpoints hmissing⟩ }

/-- A section over the defaults conforms to a schema of its settings if each setting conforms to its
own schema. -/
lemma conforms_over {fields entries : Entries} {known : List String} {name : String}
    (hknown : keys fields = known.map .str) (hfields : Distinct fields)
    (hbase : section? defaults name = some (.map entries)) (hentries : Distinct entries)
    (hkeys : ∀ k ∈ keys entries, isKnown known k = true) (hd : Distinct d)
    (hmapped : IsMapped d name)
    (hgiven : ∀ k ∈ keys (sectionEntries d name), isKnown known k = true) :
    (∀ v, get? (merge defaults d) (.str name) = some v →
      Schema.conforms (closed fields) v = true) ↔
      ∀ f ∈ fields, ∀ v, get? (sectionEntries (merge defaults d) name) f.1 = some v →
        Schema.conforms f.2 v = true := by
  have hsection := section?_merge hd hmapped hbase
  have hall : ∀ k ∈ keys (merge entries (sectionEntries d name)), isKnown known k = true :=
    fun k hk => (mem_keys_merge hk).elim (hkeys k) (hgiven k)
  have hget : get? (merge defaults d) (.str name) = _ := hsection
  rw [sectionEntries_of_some hsection, hget,
    ← conforms_section hknown hfields (distinct_merge hentries _) hall]
  simp only [Option.some.injEq, forall_eq']

section Conforms

variable (hd : WellKeyed d) (h : Checked d)

include hd h

/-- The server conforms to its schema if the host is a text and the port is not null. -/
lemma conforms_server :
    (∀ v, get? (merge defaults d) (.str "server") = some v →
      Schema.conforms (closed serverFields) v = true) ↔
      (∀ v, setting? d "server" "host" = some v → isText v = true) ∧
        setting? d "server" "port" ≠ some .null := by
  obtain ⟨host, hhost, hhost'⟩ := exists_host hd h
  obtain ⟨port, hport, hport'⟩ := exists_port hd h
  change get? _ _ = _ at hhost hport
  rw [conforms_over rfl (by unfold Distinct; decide) rfl (by unfold Distinct; decide) (by decide)
    hd.keys h.server h.serverKeys, ← hhost', ← hport']
  simp only [serverFields, List.forall_mem_cons, List.not_mem_nil, false_implies, implies_true,
    and_true, hhost, hport, Option.some.injEq, forall_eq', conforms_text, conforms_port]

/-- The resolution conforms to its schema if the depth bound is not null and the trace level is
named as the schema lists it. -/
lemma conforms_resolution :
    (∀ v, get? (merge defaults d) (.str "resolution") = some v →
      Schema.conforms (closed resolutionFields) v = true) ↔
      setting? d "resolution" "max_depth" ≠ some .null ∧
        ∀ v, setting? d "resolution" "trace_level" = some v →
          ∃ s ∈ TraceLevel.sortedNames, v = .str s := by
  obtain ⟨depth, hdepth, hdepth'⟩ := exists_depth hd h
  obtain ⟨level, hlevel, -, hlisted, -⟩ := exists_level hd h
  change get? _ _ = _ at hdepth hlevel
  rw [conforms_over rfl (by unfold Distinct; decide) rfl (by unfold Distinct; decide) (by decide)
    hd.keys h.resolution h.resolutionKeys, ← hdepth', ← hlisted]
  simp only [resolutionFields, List.forall_mem_cons, List.not_mem_nil, false_implies, implies_true,
    and_true, hdepth, hlevel, Option.some.injEq, forall_eq', conforms_depth, conforms_level]

/-- The images conform to their schema if the breakpoints are texts and so is what stands for a
missing image. -/
lemma conforms_images :
    (∀ v, get? (merge defaults d) (.str "images") = some v →
      Schema.conforms (closed imageFields) v = true) ↔
      (∀ u, setting? d "images" "breakpoints" = some (.map u) → ∀ e ∈ u, isText e.2 = true) ∧
        ∀ v, setting? d "images" "missing_image_url" = some v → isText v = true := by
  obtain ⟨missing, hmissing, hmissing'⟩ := exists_missing hd h
  obtain ⟨sizes, hsizes⟩ := exists_sizes hd h
  obtain ⟨breakpoints, hbreakpoints, hbreakpoints'⟩ := exists_breakpoints hd h
  change get? _ _ = _ at hmissing hsizes hbreakpoints
  rw [conforms_over rfl (by unfold Distinct; decide) rfl (by unfold Distinct; decide) (by decide)
    hd.keys h.images h.imageKeys, ← hmissing', ← hbreakpoints']
  simp only [imageFields, List.forall_mem_cons, List.not_mem_nil, false_implies, implies_true,
    and_true, hmissing, hsizes, hbreakpoints, Option.some.injEq, forall_eq', conforms_text,
    conforms_mapping, conforms_textMapping, Value.map.injEq, exists_eq', exists_eq_left', true_and]

/-- What was checked conforms to the schema over the defaults exactly if nothing is left open and it
is literal. -/
lemma conforms_iff :
    Schema.conforms schema (.map (merge defaults d)) = true ↔ Filled d ∧ Literal d := by
  obtain ⟨vs, hvs, htexts⟩ := exists_directories hd h
  have hdefaults : Distinct defaults := by unfold Distinct; decide
  have hbase : ∀ k ∈ keys defaults, isKnown sections k = true := by decide
  have hknown : ∀ k ∈ keys (merge defaults d), isKnown sections k = true :=
    fun k hk => (mem_keys_merge hk).elim (hbase k) (h.known k)
  change get? _ _ = _ at hvs
  rw [conforms_schema (distinct_merge hdefaults d), and_iff_right hknown]
  simp only [sectionFields, List.forall_mem_cons, List.not_mem_nil, false_implies, implies_true,
    and_true, hvs, Option.some.injEq, forall_eq', conforms_texts, htexts, true_and,
    conforms_server hd h, conforms_resolution hd h, conforms_images hd h]
  constructor
  · rintro ⟨⟨hhost, hport⟩, ⟨hdepth, hlevel⟩, hbreakpoints, hmissing⟩
    refine ⟨⟨hhost, hport, hdepth, fun v hv => ?_, hmissing⟩, fun s hs => ?_, hbreakpoints⟩
    · obtain ⟨s, -, rfl⟩ := hlevel v hv
      rfl
    · obtain ⟨t, ht, hst⟩ := hlevel _ hs
      rwa [Value.str.inj hst]
  · rintro ⟨hfilled, hliteral⟩
    refine ⟨⟨hfilled.host, hfilled.port⟩, ⟨hfilled.depth, fun v hv => ?_⟩, hliteral.breakpoints,
      hfilled.missing⟩
    obtain ⟨s, rfl⟩ := isText_iff.mp (hfilled.level v hv)
    exact ⟨s, hliteral.level s hv, rfl⟩

end Conforms

/-! ## Checked configurations -/

/-- A configuration without problems is usable over the defaults exactly if it is filled, and
conforms to the schema exactly if it is literal besides. -/
theorem checked_config_is_usable {d : Entries} (hd : WellKeyed d) (h : problems (.map d) = []) :
    (Usable (merge defaults d) ↔ Filled d) ∧
      (Schema.conforms schema (.map (merge defaults d)) = true ↔ Filled d ∧ Literal d) :=
  have hchecked := (problems_eq_nil_iff d).mp h
  ⟨usable_iff hd hchecked, conforms_iff hd hchecked⟩

/-- A server in a local network, with a depth bound, a trace level and a breakpoint. -/
def localServer : Entries :=
  [(.str "server", .map [(.str "host", .str "10.0.0.7"), (.str "port", .int 8080)]),
    (.str "resolution", .map [(.str "max_depth", .int 8), (.str "trace_level", .str "detailed")]),
    (.str "images", .map [(.str "breakpoints", .map [(.str "md", .str "768px")])])]

theorem checked_config_is_usable_localServer :
    WellKeyed localServer ∧ problems (.map localServer) = [] ∧
      Usable (merge defaults localServer) ∧
      Schema.conforms schema (.map (merge defaults localServer)) = true := by
  have hkeyed : WellKeyed localServer := by
    refine ⟨by unfold Distinct; decide, distinct_sectionEntries ?_, fun es hes => ?_⟩
    · simp only [localServer, List.forall_mem_cons, List.not_mem_nil, false_implies, implies_true,
        and_true, Value.map.injEq, forall_eq']
      unfold Distinct
      decide
    · cases hes
      unfold Distinct
      decide
  have hfilled : Filled localServer := by
    refine ⟨fun v hv => ?_, nofun, nofun, fun v hv => ?_, nofun⟩ <;> cases hv <;> rfl
  have hliteral : Literal localServer := by
    refine ⟨fun s hs => ?_, fun es hes => ?_⟩
    · cases hs
      decide
    · cases hes
      decide
  have hchecked : problems (.map localServer) = [] := rfl
  obtain ⟨husable, hconforms⟩ := checked_config_is_usable hkeyed hchecked
  exact ⟨hkeyed, hchecked, husable.mpr hfilled, hconforms.mpr ⟨hfilled, hliteral⟩⟩

/-- A depth bound of null is no problem, but it takes the place of the default and is no bound. -/
theorem null_depth_is_checked :
    let d : Entries := [(.str "resolution", .map [(.str "max_depth", .null)])]
    WellKeyed d ∧ problems (.map d) = [] ∧ ¬ Usable (merge defaults d) ∧
      Schema.conforms schema (.map (merge defaults d)) = false ∧
      depthSetting (merge defaults d) = .ok .null ∧
      Resolver.depthOf .null = .error (.notInteger "NoneType") := by
  refine ⟨⟨?_, distinct_sectionEntries ?_, nofun⟩, rfl, fun husable => ?_, rfl, rfl, rfl⟩
  · unfold Distinct
    decide
  · simp only [List.forall_mem_cons, List.not_mem_nil, false_implies, implies_true, and_true,
      Value.map.injEq, forall_eq']
    unfold Distinct
    decide
  · obtain ⟨n, -, hn, -⟩ := husable.depth
    cases hn

end PageTree.Config
