import PageTree.Proofs.Registry.Directories

/-!
# What plug-ins leave behind

A plug-in that fails is skipped, but what it registered before stays.  Here a load of directories is
compared with the load without the file of one plug-in (`Files.without`).  The other files are
visited in the same order and supply the same, so what is stored without the plug-in is what is
stored with it, less what was stored from its place (`storedIn_without`).  A name stands for what
was stored under it last, so the plug-in shows in the names that it stored last and in no other
(`plugin_leaves_its_last_definitions`).
-/

namespace PageTree

namespace Filling

/-! ## Loads without one of the files -/

section Visits

variable {files : Files} {directories : Value}

/-- A file that is visited is in a directory. -/
lemma exists_of_mem_visits {p : Path} (h : p ∈ visits files directories) :
    ∃ (directory : Path) (names : List String) (name : String), p = directory.child name ∧
      directory.absolute = false ∧ files.follow? [] directory.parts = some names ∧
      files.isDirectoryAt names = true := by
  obtain ⟨directory, -, hp⟩ := List.mem_flatMap.mp h
  unfold filesIn at hp
  split at hp
  · next hdirectory =>
    obtain ⟨name, -, rfl⟩ := List.mem_map.mp hp
    obtain ⟨hrelative, names, hfollow, hnames⟩ := (files.isDirectory_iff _).mp hdirectory
    exact ⟨_, names, name, rfl, hrelative, hfollow, hnames⟩
  · cases hp

/-- A visible file is at a place that is in a directory, and has its last name. -/
lemma exists_isLeaf {p : Path} (h : p ∈ visits files directories) (hvisible : IsVisible files p) :
    ∃ names, files.follow? [] p.parts = some (names ++ [p.name]) ∧
      files.IsLeaf (names ++ [p.name]) := by
  obtain ⟨directory, names, name, rfl, hrelative, hfollow, hdirectory⟩ := exists_of_mem_visits h
  rw [IsVisible, name_child, Bool.or_eq_false_iff] at hvisible
  have hname : name ≠ ".." := by
    rintro rfl
    exact absurd hvisible.1 (by decide)
  have hchild := Files.follow?_child hfollow hdirectory name
  rw [if_neg hname] at hchild
  have hreached := Files.reached_of_follow? Files.reached_nil hfollow
  rw [name_child]
  refine ⟨names, hchild, by simp, ?_, ?_, (hreached.concat hdirectory hname).forward⟩
  · rw [List.dropLast_concat]
    exact hdirectory
  · rw [Bool.eq_false_iff]
    intro hplace
    have hchildDirectory := (files.isDirectory_iff (directory.child name)).mpr
      ⟨hrelative, _, hchild, hplace⟩
    rw [hvisible.2] at hchildDirectory
    cases hchildDirectory

/-- Where a load goes depends on the home directories only. -/
lemma itinerary_remove (place : List String) :
    itinerary (files.remove place) directories = itinerary files directories := by
  have hitems : ∀ items, itineraryOf (files.remove place) items = itineraryOf files items := by
    intro items
    induction items with
    | nil => rfl
    | cons item items ih =>
      have hdirectory : directoryOf (files.remove place) item.2 = directoryOf files item.2 := rfl
      simp only [itineraryOf, hdirectory, ih]
  unfold itinerary
  simp only [hitems]

/-- Without a file the others are visited. -/
lemma visits_remove {place : List String} (h : files.IsLeaf place) :
    visits (files.remove place) directories =
      (visits files directories).filter fun p => files.follow? [] p.parts ≠ some place := by
  unfold visits
  rw [itinerary_remove, List.filter_flatMap]
  refine List.flatMap_congr fun directory _ => ?_
  unfold filesIn
  rw [h.isDirectory_remove]
  split
  · next hdirectory =>
    obtain ⟨-, names, hfollow, hnames⟩ := (files.isDirectory_iff _).mp hdirectory
    rw [h.namesIn_remove hfollow hnames, List.filter_map]
    refine congrArg (List.map _) (List.filter_congr fun name _ => ?_)
    have hplace := Files.follow?_child_eq_some_iff hfollow hnames h.file h.forward name
    simp [hplace]
  · rfl

variable [YamlLibrary] {lib : Library}

/-- What a file supplies depends on what its path leads to. -/
lemma ofFile_congr {files' : Files} {p : Path} (h : files'.get? p = files.get? p) :
    Supply.ofFile lib files' p = Supply.ofFile lib files p := by
  have hvisible : IsVisible files' p ↔ IsVisible files p := by
    unfold IsVisible Files.isDirectory
    rw [h]
  have hplugin : pluginSupply lib files' p = pluginSupply lib files p := by
    unfold pluginSupply pluginAt
    rw [h]
  have hrefusal : files'.refusal? p = files.refusal? p := by
    unfold Files.refusal?
    rw [h]
  have hdefinition : definitionAt lib files' p = definitionAt lib files p := by
    unfold definitionAt Files.readText? readFault
    rw [h, hrefusal]
  have hdeclaration : IsDeclaration files' p ↔ IsDeclaration files p := by
    unfold IsDeclaration
    rw [hvisible, hrefusal]
  unfold Supply.ofFile
  rw [hplugin, hdefinition]
  exact if_congr (and_congr_left' hvisible) rfl (if_congr hdeclaration rfl rfl)

/-- Two paths lead to the same place. -/
def SamePlace (files : Files) (p q : Path) : Prop :=
  files.follow? [] p.parts = files.follow? [] q.parts

instance (files : Files) (p q : Path) : Decidable (SamePlace files p q) :=
  inferInstanceAs (Decidable (_ = _))

/-- Each visit of the place of a plug-in supplies what the plug-in does. -/
lemma ofFile_of_samePlace {p q : Path} (hp : p ∈ visits files directories)
    (hq : q ∈ visits files directories) (hplugin : IsPlugin files q) (hsame : SamePlace files p q) :
    Supply.ofFile lib files p = ⟨(pluginSupply lib files q).given, none⟩ := by
  obtain ⟨names, hplace, hleaf⟩ := exists_isLeaf hq hplugin.1
  have hname : p.name = q.name := by
    obtain ⟨directory, front, name, rfl, -, hfollow, hdirectory⟩ := exists_of_mem_visits hp
    have heq := (Files.follow?_child_eq_some_iff hfollow hdirectory hleaf.file hleaf.forward
      name).mp (hsame.trans hplace)
    rw [name_child]
    exact (List.append_inj' heq rfl).2 |> List.singleton_inj.mp
  have hget : files.get? p = files.get? q := by
    have hrelative : ∀ p ∈ visits files directories, p.absolute = false := by
      intro p hp
      obtain ⟨directory, -, name, rfl, h, -⟩ := exists_of_mem_visits hp
      exact h
    unfold Files.get?
    rw [hrelative p hp, hrelative q hq, hsame]
  have hisPlugin : IsPlugin files p := by
    unfold IsPlugin IsVisible Files.isDirectory Path.suffix
    rw [hname, hget]
    exact hplugin
  rw [Supply.ofFile_of_isPlugin hisPlugin]
  unfold pluginSupply pluginAt
  rw [hget]

/-! ## What a load stores -/

/-- The definitions that files give to a load one after the other, each with its file. -/
def deliveries (lib : Library) (files : Files) : List Path → List (Path × String × Definition)
  | [] => []
  | p :: ps =>
    (Supply.ofFile lib files p).given.map (fun e => (p, e)) ++
      if (Supply.ofFile lib files p).fault.isNone then deliveries lib files ps else []

/-- The definitions that a load of directories stores in a registry, each with its file.  In a
frozen registry it stores none. -/
def storedIn (r : Registry) (lib : Library) (files : Files) (directories : Value) :
    List (Path × String × Definition) :=
  if r.frozen then [] else deliveries lib files (visits files directories)

/-- A file gives the last definition that is stored under a name. -/
def IsLastStored (stored : List (Path × String × Definition)) (p : Path) (m : String)
    (d : Definition) : Prop :=
  ∃ before after, stored = before ++ (p, m, d) :: after ∧ ∀ e ∈ after, e.2.1 ≠ m

/-- Without the files these are the definitions that the files supply. -/
lemma map_deliveries (ps : List Path) :
    (deliveries lib files ps).map (·.2) = (Supply.ofFiles lib files ps).given := by
  induction ps with
  | nil => rfl
  | cons p ps ih =>
    rw [deliveries, List.map_append, List.map_map, Supply.ofFiles]
    cases hfault : (Supply.ofFile lib files p).fault with
    | none => simp [Supply.andThen_of_none hfault, ih, Function.comp_def]
    | some e => simp [Supply.andThen_of_some hfault, Function.comp_def]

/-- Without a plug-in a load stores what the other files deliver. -/
lemma storedIn_without {q : Path} (hq : q ∈ visits files directories) (hplugin : IsPlugin files q)
    (r : Registry) :
    storedIn r lib (files.without q) directories =
      (storedIn r lib files directories).filter fun e => ¬ SamePlace files e.1 q := by
  obtain ⟨names, hplace, hleaf⟩ := exists_isLeaf hq hplugin.1
  have hwithout : files.without q = files.remove (names ++ [q.name]) := by
    rw [Files.without, hplace]
  have hother : ∀ p, ¬ SamePlace files p q →
      Supply.ofFile lib (files.without q) p = Supply.ofFile lib files p := by
    intro p hp
    refine ofFile_congr ?_
    rw [hwithout, hleaf.get?_remove, if_neg]
    rw [← hplace]
    exact hp
  have hdeliveries : ∀ ps, (∀ p ∈ ps, p ∈ visits files directories) →
      deliveries lib (files.without q) (ps.filter fun p => ¬ SamePlace files p q) =
        (deliveries lib files ps).filter fun e => ¬ SamePlace files e.1 q := by
    intro ps hps
    induction ps with
    | nil => rfl
    | cons p ps ih =>
      rw [List.forall_mem_cons] at hps
      have hrest := ih hps.2
      by_cases hsame : SamePlace files p q
      · rw [List.filter_cons_of_neg (by simpa using hsame), hrest, deliveries,
          ofFile_of_samePlace hps.1 hq hplugin hsame, List.filter_append, List.filter_map]
        simp [hsame, Function.comp_def]
      · rw [List.filter_cons_of_pos (by simpa using hsame), deliveries, deliveries, hother p hsame,
          hrest, List.filter_append, List.filter_map]
        cases (Supply.ofFile lib files p).fault with
        | none => simp [hsame, Function.comp_def]
        | some e => simp [hsame, Function.comp_def]
  unfold storedIn
  split
  · rfl
  · rw [hwithout, visits_remove hleaf, ← hwithout, ← hdeliveries _ fun p hp => hp, ← hplace]
    rfl

/-- What is stored from the place of a plug-in was registered by the plug-in. -/
lemma mem_given_of_mem_storedIn {q : Path} (hq : q ∈ visits files directories)
    (hplugin : IsPlugin files q) {r : Registry} {e : Path × String × Definition}
    (he : e ∈ storedIn r lib files directories) (hsame : SamePlace files e.1 q) :
    e.2 ∈ (pluginSupply lib files q).given := by
  have hdeliveries : ∀ ps, (∀ p ∈ ps, p ∈ visits files directories) → e ∈ deliveries lib files ps →
      e.2 ∈ (pluginSupply lib files q).given := by
    intro ps hps he
    induction ps with
    | nil => cases he
    | cons p ps ih =>
      rw [List.forall_mem_cons] at hps
      rw [deliveries, List.mem_append] at he
      rcases he with he | he
      · obtain ⟨d, hd, rfl⟩ := List.mem_map.mp he
        rw [ofFile_of_samePlace hps.1 hq hplugin hsame] at hd
        exact hd
      · split at he
        · exact ih hps.2 he
        · cases he
  unfold storedIn at he
  split at he
  · cases he
  · exact hdeliveries _ (fun p hp => hp) he

end Visits

/-! ## Last definitions -/

section Last

variable {stored : List (Path × String × Definition)} {p : Path} {m : String} {d : Definition}

/-- The last definition under a name is the last one also if the files are forgotten. -/
lemma IsLastStored.isLast (h : IsLastStored stored p m d) :
    Registry.IsLast (stored.map (·.2)) m d := by
  obtain ⟨before, after, rfl, hafter⟩ := h
  exact ⟨before.map (·.2), after.map (·.2), by simp, List.forall_mem_map.mpr hafter⟩

/-- A definition stays the last one among those of some files. -/
lemma IsLastStored.filter (h : IsLastStored stored p m d) (keep : Path → Bool)
    (hp : keep p = true) : IsLastStored (stored.filter fun e => keep e.1) p m d := by
  obtain ⟨before, after, rfl, hafter⟩ := h
  refine ⟨before.filter fun e => keep e.1, after.filter fun e => keep e.1, ?_, ?_⟩
  · rw [List.filter_append, List.filter_cons, if_pos hp]
  · exact fun e he => hafter e (List.mem_of_mem_filter he)

/-- There is a last definition under a name, unless there is none at all. -/
lemma forall_ne_or_exists_isLastStored (stored : List (Path × String × Definition)) (m : String) :
    (∀ e ∈ stored, e.2.1 ≠ m) ∨ ∃ p d, IsLastStored stored p m d := by
  induction stored with
  | nil => exact .inl nofun
  | cons e stored ih =>
    rcases ih with hnone | ⟨p, d, before, after, rfl, hafter⟩
    · by_cases he : e.2.1 = m
      · obtain ⟨p, name, d⟩ := e
        subst he
        exact .inr ⟨p, d, [], stored, rfl, hnone⟩
      · exact .inl (List.forall_mem_cons.mpr ⟨he, hnone⟩)
    · exact .inr ⟨p, d, e :: before, after, rfl, hafter⟩

end Last

/-! ## Leftovers -/

/-- The registry after a load of directories, also after one that is refused. -/
def afterLoad [YamlLibrary] (lib : Library) (files : Files) (directories : Value) (s : Shelf) :
    Registry :=
  (outcome (loadDirectories lib files directories) s).2.registry

section Leftovers

variable [YamlLibrary] {lib : Library} {files : Files} {directories : Value} {s : Shelf}
  {p q : Path} {m : String} {d : Definition}

/-- A load stores what its files deliver. -/
lemma afterLoad_eq : afterLoad lib files directories s =
    s.registry.insertAll ((storedIn s.registry lib files directories).map (·.2)) := by
  rw [afterLoad, (supplies_loadDirectories lib files directories).leaves, storedIn]
  cases hfrozen : s.registry.frozen with
  | true =>
    rw [Registry.takeAll_of_frozen hfrozen]
    rfl
  | false =>
    rw [Registry.takeAll_of_thawed hfrozen, Supply.given_ofDirectories, ← map_deliveries]
    rfl

/-- A name stands for the last definition that is stored under it. -/
lemma get?_afterLoad_of_isLastStored
    (h : IsLastStored (storedIn s.registry lib files directories) p m d) :
    (afterLoad lib files directories s).get? m = some { d with name := m } := by
  rw [afterLoad_eq]
  exact Registry.get?_insertAll_of_isLast _ h.isLast

variable (hq : q ∈ visits files directories) (hplugin : IsPlugin files q)

include hq hplugin

/-- Without a plug-in a load stores what is not from its place. -/
lemma afterLoad_without : afterLoad lib (files.without q) directories s = s.registry.insertAll
    (((storedIn s.registry lib files directories).filter fun e => ¬ SamePlace files e.1 q).map
      (·.2)) := by
  rw [← storedIn_without hq hplugin]
  exact afterLoad_eq

/-- Without a plug-in a name stands for the last definition if the plug-in did not store it. -/
lemma get?_afterLoad_without_of_isLastStored
    (h : IsLastStored (storedIn s.registry lib files directories) p m d)
    (hp : ¬ SamePlace files p q) :
    (afterLoad lib (files.without q) directories s).get? m = some { d with name := m } := by
  have hkept := h.filter (fun p => ¬ SamePlace files p q) (by simpa using hp)
  rw [afterLoad_without hq hplugin]
  exact Registry.get?_insertAll_of_isLast _ hkept.isLast

/-- A name under which nothing is stored stands for the same without a plug-in. -/
lemma get?_afterLoad_eq_of_forall_ne
    (h : ∀ e ∈ storedIn s.registry lib files directories, e.2.1 ≠ m) :
    (afterLoad lib files directories s).get? m =
      (afterLoad lib (files.without q) directories s).get? m := by
  have hkept : ∀ e ∈ (storedIn s.registry lib files directories).filter
      fun e => ¬ SamePlace files e.1 q, e.2.1 ≠ m :=
    fun e he => h e (List.mem_of_mem_filter he)
  rw [afterLoad_eq, afterLoad_without hq hplugin,
    Registry.get?_insertAll_of_forall_ne _ (List.forall_mem_map.mpr h),
    Registry.get?_insertAll_of_forall_ne _ (List.forall_mem_map.mpr hkept)]

/-- A load does the same without a plug-in exactly if the names that the plug-in stored last are
given equal definitions without it. -/
lemma afterLoad_eq_without_iff (lib : Library) (s : Shelf) :
    (∀ m, (afterLoad lib files directories s).get? m =
        (afterLoad lib (files.without q) directories s).get? m) ↔
      ∀ p m d, IsLastStored (storedIn s.registry lib files directories) p m d →
        SamePlace files p q →
        (afterLoad lib (files.without q) directories s).get? m = some { d with name := m } := by
  constructor
  · intro hall p m d h _
    rw [← hall m, get?_afterLoad_of_isLastStored h]
  · intro hsame m
    rcases forall_ne_or_exists_isLastStored (storedIn s.registry lib files directories) m with
      h | ⟨p, d, h⟩
    · exact get?_afterLoad_eq_of_forall_ne hq hplugin h
    · rw [get?_afterLoad_of_isLastStored h]
      by_cases hp : SamePlace files p q
      · exact (hsame p m d h hp).symm
      · exact (get?_afterLoad_without_of_isLastStored hq hplugin h hp).symm

end Leftovers

/-- A plug-in, skipped or not, among the files of directories that are loaded into any registry.
Where the plug-in stored the last definition of a name, this one stays, and the plug-in registered
it.  All other names stand for what they stand for without the plug-in.  So the registry is the same
as without the plug-in exactly if each name of the first kind is given an equal definition without
it; in particular if the plug-in registers nothing. -/
theorem plugin_leaves_its_last_definitions [YamlLibrary] (lib : Library) (files : Files)
    {directories : Value} (s : Shelf) {q : Path}
    (hq : q ∈ visits files directories) (hplugin : IsPlugin files q) :
    (∀ p m d, IsLastStored (storedIn s.registry lib files directories) p m d →
      (SamePlace files p q → (m, d) ∈ (pluginSupply lib files q).given ∧
        (afterLoad lib files directories s).get? m = some { d with name := m }) ∧
      (¬ SamePlace files p q → (afterLoad lib files directories s).get? m =
        (afterLoad lib (files.without q) directories s).get? m)) ∧
    (∀ m, (∀ e ∈ storedIn s.registry lib files directories, e.2.1 ≠ m) →
      (afterLoad lib files directories s).get? m =
        (afterLoad lib (files.without q) directories s).get? m) ∧
    ((∀ m, (afterLoad lib files directories s).get? m =
        (afterLoad lib (files.without q) directories s).get? m) ↔
      ∀ p m d, IsLastStored (storedIn s.registry lib files directories) p m d →
        SamePlace files p q →
        (afterLoad lib (files.without q) directories s).get? m = some { d with name := m }) ∧
    ((pluginSupply lib files q).given = [] →
      ∀ m, (afterLoad lib files directories s).get? m =
        (afterLoad lib (files.without q) directories s).get? m) := by
  have hregistered : ∀ p m d, IsLastStored (storedIn s.registry lib files directories) p m d →
      SamePlace files p q → (m, d) ∈ (pluginSupply lib files q).given := by
    rintro p m d ⟨before, after, hsplit, -⟩ hp
    have hmem : (p, m, d) ∈ storedIn s.registry lib files directories := by simp [hsplit]
    exact mem_given_of_mem_storedIn hq hplugin hmem hp
  have hiff := afterLoad_eq_without_iff hq hplugin lib s
  refine ⟨fun p m d h => ⟨fun hp => ?_, fun hp => ?_⟩, fun m => ?_, hiff, fun hnothing => ?_⟩
  · exact ⟨hregistered p m d h hp, get?_afterLoad_of_isLastStored h⟩
  · rw [get?_afterLoad_of_isLastStored h,
      get?_afterLoad_without_of_isLastStored hq hplugin h hp]
  · exact get?_afterLoad_eq_of_forall_ne hq hplugin
  · refine hiff.mpr fun p m d h hp => ?_
    have hmem := hregistered p m d h hp
    rw [hnothing] at hmem
    cases hmem

open scoped Standard

/-- A directory with a plug-in that registers one name and then fails. -/
def failingFiles : Files :=
  Files.none.add "d/m.py" (.plugin ⟨none, true, [("x", .null)], some "late"⟩)

/-- The plug-in is the only file that is visited. -/
lemma visits_failingFiles : visits failingFiles (.list [.str "d"]) = [.ofText "d/m.py"] := by
  decide +kernel

/-- The definition that was registered before the failure stays. -/
theorem failing_plugin_leaves_its_last_definition :
    (afterLoad .empty failingFiles (.list [.str "d"]) Shelf.empty).get? "x" =
      some (Definition.blank "x") := by
  have hq : Path.ofText "d/m.py" ∈ visits failingFiles (.list [.str "d"]) := by
    rw [visits_failingFiles]
    exact List.mem_singleton.mpr rfl
  have hplugin : IsPlugin failingFiles (.ofText "d/m.py") := by decide +kernel
  have hstored : storedIn Shelf.empty.registry .empty failingFiles (.list [.str "d"]) =
      [(.ofText "d/m.py", "x", Definition.blank "x")] := by
    rw [storedIn, visits_failingFiles, deliveries, Supply.ofFile_of_isPlugin hplugin]
    rfl
  have hlast : IsLastStored (storedIn Shelf.empty.registry .empty failingFiles (.list [.str "d"]))
      (.ofText "d/m.py") "x" (Definition.blank "x") := ⟨[], [], hstored, nofun⟩
  obtain ⟨hstays, -⟩ := plugin_leaves_its_last_definitions .empty failingFiles Shelf.empty hq
    hplugin
  exact ((hstays _ _ _ hlast).1 rfl).2

/-- A plug-in that is skipped leaves a definition that is not there without it. -/
theorem skipped_plugin_leaves_definition :
    Skipped .empty failingFiles (.ofText "d/m.py") ∧
    (outcome (loadDirectories .empty failingFiles (.list [.str "d"])) Shelf.empty).2.notices.map
      (·.text) = ["Failed to import component module d/m.py: late"] ∧
    (afterLoad .empty failingFiles (.list [.str "d"]) Shelf.empty).has "x" = true ∧
    (afterLoad .empty (failingFiles.without (.ofText "d/m.py")) (.list [.str "d"])
      Shelf.empty).has "x" = false := by
  refine ⟨⟨by decide +kernel, rfl⟩, ?_, ?_, ?_⟩
  · decide +kernel
  · decide +kernel
  · decide +kernel

end Filling

end PageTree
