import PageTree.Files
import PageTree.Proofs.Registry.Table

/-!
# Files and directories

What stands at a place is found by its names (`lookup?`), a path is followed to a place through
directories (`follow?`), and a directory lists the names in it (`namesIn`).  A place that a path
leads to is `Reached`: all on the way to it are directories.

A file can be taken away (`remove`).  Nothing else changes: other places hold what they held, paths
lead where they led, and directories list the other names (`lookup?_remove`, `follow?_remove`,
`namesIn_remove`).
-/

namespace PageTree.Files

/-! ## Reading directories -/

/-- A list from which later occurrences were removed has no element twice. -/
lemma nodup_eraseDups {α : Type} [BEq α] [LawfulBEq α] : ∀ l : List α, l.eraseDups.Nodup
  | [] => List.nodup_nil
  | a :: l => by
    rw [List.eraseDups_cons, List.nodup_cons, List.mem_eraseDups, List.mem_filter]
    exact ⟨by simp, nodup_eraseDups (l.filter fun b => !b == a)⟩
termination_by l => l.length
decreasing_by exact Nat.lt_succ_of_le (List.length_filter_le _ _)

section Listing

variable (fs : Files)

/-- The names in a directory are listed in alphabetic order, each of them once. -/
lemma pairwise_namesIn (directory : Path) : (fs.namesIn directory).Pairwise (· < ·) := by
  unfold namesIn
  split
  · exact List.Pairwise.nil
  · exact Registry.pairwise_sortNames (nodup_eraseDups _)

/-- The next name on the way to an entry. -/
lemma head?_drop_eq_some_iff (names way : List String) (name : String) :
    (names.isPrefixOf way = true ∧ (way.drop names.length).head? = some name) ↔
      names ++ [name] <+: way := by
  rw [List.isPrefixOf_iff_prefix]
  constructor
  · rintro ⟨⟨rest, rfl⟩, hhead⟩
    rw [List.drop_left] at hhead
    obtain ⟨more, rfl⟩ := List.head?_eq_some_iff.mp hhead
    exact ⟨more, by simp⟩
  · rintro ⟨more, rfl⟩
    simp

/-- A directory lists the names through which entries are reached. -/
lemma mem_namesIn_iff {directory : Path} {names : List String}
    (h : fs.follow? [] directory.parts = some names) (name : String) :
    name ∈ fs.namesIn directory ↔ ∃ e ∈ fs.entries, names ++ [name] <+: e.1 := by
  unfold namesIn
  rw [h, List.mem_mergeSort, List.mem_eraseDups, List.mem_filterMap]
  refine exists_congr fun e => and_congr_right fun _ => ?_
  rw [← head?_drop_eq_some_iff]
  by_cases hpre : names.isPrefixOf e.1 = true
  · simp [hpre]
  · simp [hpre]

/-- A directory is found by its names. -/
lemma isDirectoryAt_iff (names : List String) :
    fs.isDirectoryAt names = true ↔ fs.lookup? names = some .directory := by
  unfold isDirectoryAt
  split
  · simp_all
  · simp_all

/-- A directory is on the way to an entry, or it is the root. -/
lemma exists_of_isDirectoryAt {names : List String} (h : fs.isDirectoryAt names = true) :
    names = [] ∨ ∃ e ∈ fs.entries, names <+: e.1 := by
  rw [isDirectoryAt_iff] at h
  unfold lookup? at h
  split at h
  · next e hfind =>
    have hmem := List.mem_of_find?_eq_some hfind
    have heq := List.find?_some hfind
    simp only [beq_iff_eq] at heq
    exact .inr ⟨_, hmem, heq ▸ List.prefix_refl _⟩
  · split at h
    · next hway =>
      rw [Bool.or_eq_true, List.isEmpty_iff, List.any_eq_true] at hway
      refine hway.imp_right ?_
      rintro ⟨e, he, hpre⟩
      exact ⟨e, he, List.isPrefixOf_iff_prefix.mp hpre⟩
    · cases h

/-- A path leads to a directory if it leads to a place that is one. -/
lemma isDirectory_iff (p : Path) :
    fs.isDirectory p = true ↔ p.absolute = false ∧
      ∃ names, fs.follow? [] p.parts = some names ∧ fs.isDirectoryAt names = true := by
  unfold isDirectory get?
  by_cases habsolute : p.absolute = true
  · simp [habsolute]
  · have hrelative : p.absolute = false := Bool.eq_false_iff.mpr habsolute
    rw [if_neg habsolute]
    cases hfollow : fs.follow? [] p.parts with
    | none => simp
    | some names => simp [hrelative, isDirectoryAt]

end Listing

/-! ## Following paths -/

/-- A part of a path leads on from a directory, or back to the one that this is in. -/
lemma follow?_cons (fs : Files) (names : List String) (part : String) (rest : List String) :
    fs.follow? names (part :: rest) =
      if fs.isDirectoryAt names.reverse then
        if part = ".." then
          match names with
          | [] => Option.none
          | _ :: above => fs.follow? above rest
        else fs.follow? (part :: names) rest
      else Option.none := by
  cases names <;> rfl

/-- A place that a path leads to: on the way there are only directories, and the names lead
forward. -/
structure Reached (fs : Files) (names : List String) : Prop where
  above : ∀ front, front <+: names → front ≠ names → fs.isDirectoryAt front = true
  forward : ".." ∉ names

section Reached

variable {fs : Files} {names : List String}

/-- The root is reached. -/
lemma reached_nil : Reached fs [] := by
  refine ⟨fun front hpre hne => ?_, nofun⟩
  exact absurd (List.prefix_nil.mp hpre) hne

/-- What a reached place is in is reached. -/
lemma Reached.of_leads (h : Reached fs names) {front : List String} (hfront : front <+: names) :
    Reached fs front := by
  refine ⟨fun way hway hne => ?_, fun hmem => h.forward (hfront.subset hmem)⟩
  refine h.above way (hway.trans hfront) ?_
  rintro rfl
  exact hne (hway.eq_of_length_le hfront.length_le)

/-- What is in a directory that is reached is reached. -/
lemma Reached.concat (h : Reached fs names) (hdirectory : fs.isDirectoryAt names = true)
    {name : String} (hname : name ≠ "..") : Reached fs (names ++ [name]) := by
  constructor
  · intro front hpre hne
    rcases List.prefix_concat_iff.mp hpre with rfl | hpre
    · exact absurd rfl hne
    · by_cases heq : front = names
      · rw [heq]
        exact hdirectory
      · exact h.above front hpre heq
  · intro hmem
    rw [List.mem_append, List.mem_singleton] at hmem
    exact hmem.elim h.forward fun heq => hname heq.symm

/-- A place below one that is no directory is not reached. -/
lemma Reached.eq_of_leads (h : Reached fs names) {place : List String}
    (hplace : fs.isDirectoryAt place = false) (hpre : place <+: names) : place = names := by
  by_contra hne
  rw [h.above place hpre hne] at hplace
  cases hplace

/-- Paths lead to places that are reached. -/
lemma reached_of_follow? {out : List String} (h : Reached fs names.reverse) {parts : List String}
    (hfollow : fs.follow? names parts = some out) : Reached fs out := by
  induction parts generalizing names with
  | nil =>
    cases hfollow
    exact h
  | cons part parts ih =>
    rw [follow?_cons] at hfollow
    split at hfollow
    · next hdirectory =>
      split at hfollow
      · split at hfollow
        · cases hfollow
        · next name above =>
          refine ih (h.of_leads ?_) hfollow
          rw [List.reverse_cons]
          exact List.prefix_append _ _
      · next hpart =>
        refine ih ?_ hfollow
        rw [List.reverse_cons]
        exact h.concat hdirectory hpart
    · cases hfollow

/-- A path is followed in two parts. -/
lemma follow?_append (names front back : List String) :
    fs.follow? names (front ++ back) =
      (fs.follow? names front).bind fun out => fs.follow? out.reverse back := by
  induction front generalizing names with
  | nil => simp [follow?]
  | cons part front ih =>
    rw [List.cons_append, follow?_cons, follow?_cons]
    split
    · split
      · split
        · rfl
        · exact ih _
      · exact ih _
    · rfl

/-- A path to what is in a directory leads to a directory above, or on from the directory. -/
lemma follow?_child {directory : Path} (h : fs.follow? [] directory.parts = some names)
    (hdirectory : fs.isDirectoryAt names = true) (name : String) :
    fs.follow? [] (directory.child name).parts =
      if name = ".." then
        match names.reverse with
        | [] => Option.none
        | _ :: above => some above.reverse
      else some (names ++ [name]) := by
  rw [Path.child, follow?_append, h, Option.bind_some, follow?_cons, List.reverse_reverse,
    if_pos hdirectory]
  split
  · rfl
  · simp [follow?]

/-- Who goes into a directory and does not come to a directory goes on from it. -/
lemma follow?_child_eq_some_iff {directory : Path}
    (h : fs.follow? [] directory.parts = some names) (hdirectory : fs.isDirectoryAt names = true)
    {place : List String} (hplace : fs.isDirectoryAt place = false) (hforward : ".." ∉ place)
    (name : String) :
    fs.follow? [] (directory.child name).parts = some place ↔ names ++ [name] = place := by
  have hreached := reached_of_follow? reached_nil h
  rw [follow?_child h hdirectory]
  by_cases hname : name = ".."
  · rw [if_pos hname]
    constructor
    · intro habove
      split at habove
      · cases habove
      · next part above hreverse =>
        cases habove
        have hnames : names = above.reverse ++ [part] := by
          rw [← List.reverse_reverse names, hreverse, List.reverse_cons]
        rw [hreached.above above.reverse ⟨[part], hnames.symm⟩ (by simp [hnames])] at hplace
        cases hplace
    · rintro rfl
      exact absurd (by simp [hname]) hforward
  · rw [if_neg hname, Option.some.injEq]

end Reached

/-! ## Taking a file away -/

/-- The table without what stands at a place.  The directory that it is in stays. -/
def remove (fs : Files) (place : List String) : Files :=
  { fs with
    entries := (place.dropLast, .directory) :: fs.entries.filter fun e => !place.isPrefixOf e.1 }

/-- Entries other than those of the place are found as before. -/
lemma find?_remove (fs : Files) {place names : List String} (hparent : names ≠ place.dropLast) :
    (fs.remove place).entries.find? (·.1 == names) =
      if place <+: names then Option.none else fs.entries.find? (·.1 == names) := by
  have hfirst : (place.dropLast == names) = false := beq_false_of_ne (Ne.symm hparent)
  rw [remove, List.find?_cons, hfirst, List.find?_filter]
  by_cases hpre : place <+: names
  · rw [if_pos hpre, List.find?_eq_none]
    intro e _ hfound
    rw [decide_eq_true_eq, beq_iff_eq, Bool.not_eq_true', Bool.eq_false_iff, Ne,
      List.isPrefixOf_iff_prefix] at hfound
    exact hfound.1 (hfound.2 ▸ hpre)
  · rw [if_neg hpre]
    have hnot : place.isPrefixOf names = false := by
      rw [Bool.eq_false_iff, Ne, List.isPrefixOf_iff_prefix]
      exact hpre
    refine congrArg (fs.entries.find? ·) (funext fun e => ?_)
    by_cases heq : e.1 = names
    · simp [heq, hnot]
    · simp [heq]

/-- The files without the one that a path leads to. -/
def without (fs : Files) (p : Path) : Files :=
  match fs.follow? [] p.parts with
  | some place => fs.remove place
  | Option.none => fs

/-- A place that is in a directory and is none. -/
structure IsLeaf (fs : Files) (place : List String) : Prop where
  ne_nil : place ≠ []
  parent : fs.isDirectoryAt place.dropLast = true
  file : fs.isDirectoryAt place = false
  forward : ".." ∉ place

namespace IsLeaf

variable {fs : Files} {place : List String} (h : IsLeaf fs place)

include h

/-- A place is not below itself. -/
lemma not_prefix_dropLast : ¬ place <+: place.dropLast := by
  intro hpre
  have hlength := hpre.length_le
  have hpos := List.length_pos_iff.mpr h.ne_nil
  rw [List.length_dropLast] at hlength
  omega

/-- What leads to a place leads to its directory, but for the place. -/
lemma prefix_dropLast {names : List String} (hpre : names <+: place) (hne : names ≠ place) :
    names <+: place.dropLast := by
  have hplace := List.dropLast_append_getLast h.ne_nil
  rw [← hplace, List.prefix_concat_iff] at hpre
  refine hpre.resolve_left fun heq => hne ?_
  rw [heq, hplace]

/-- What leads to an entry still leads to one, unless it leads through the place. -/
lemma exists_entry_remove_iff {names : List String} (hne : names ≠ []) :
    (∃ e ∈ (fs.remove place).entries, names <+: e.1) ↔
      ¬ place <+: names ∧ ∃ e ∈ fs.entries, names <+: e.1 := by
  unfold remove
  simp only [List.mem_cons, exists_eq_or_imp, List.mem_filter, Bool.not_eq_true',
    ← Bool.not_eq_true, List.isPrefixOf_iff_prefix]
  constructor
  · rintro (hpre | ⟨e, ⟨he, hnot⟩, hpre⟩)
    · refine ⟨fun hplace => h.not_prefix_dropLast (hplace.trans hpre), ?_⟩
      rcases fs.exists_of_isDirectoryAt h.parent with hnil | ⟨e, he, hparent⟩
      · rw [hnil] at hpre
        exact absurd (List.prefix_nil.mp hpre) hne
      · exact ⟨e, he, hpre.trans hparent⟩
    · exact ⟨fun hplace => hnot (hplace.trans hpre), e, he, hpre⟩
  · rintro ⟨hnot, e, he, hpre⟩
    by_cases hplace : place <+: e.1
    · -- the entry is gone, but its way leads through the directory
      left
      have hcompare := List.prefix_or_prefix_of_prefix hpre hplace
      exact h.prefix_dropLast (hcompare.resolve_right hnot)
        fun heq => hnot (heq ▸ List.prefix_refl _)
    · exact .inr ⟨e, ⟨he, hplace⟩, hpre⟩

/-- Other places hold what they held. -/
lemma lookup?_remove (names : List String) :
    (fs.remove place).lookup? names =
      if place <+: names then Option.none else fs.lookup? names := by
  by_cases hparent : names = place.dropLast
  · rw [hparent, if_neg h.not_prefix_dropLast, (fs.isDirectoryAt_iff _).mp h.parent]
    simp [lookup?, remove]
  · have hleads : (names.isEmpty || (fs.remove place).entries.any fun e => names.isPrefixOf e.1) =
        true ↔ ¬ place <+: names ∧
          (names.isEmpty || fs.entries.any fun e => names.isPrefixOf e.1) = true := by
      simp only [Bool.or_eq_true, List.isEmpty_iff, List.any_eq_true, List.isPrefixOf_iff_prefix]
      by_cases hnil : names = []
      · have hnot : ¬ place <+: [] := fun hpre => h.ne_nil (List.prefix_nil.mp hpre)
        simp [hnil, hnot]
      · simp only [hnil, false_or]
        exact h.exists_entry_remove_iff hnil
    unfold lookup?
    rw [fs.find?_remove hparent]
    by_cases hpre : place <+: names
    · rw [if_pos hpre, if_pos hpre]
      exact if_neg fun hboth => (hleads.mp hboth).1 hpre
    · rw [if_neg hpre, if_neg hpre]
      cases fs.entries.find? (·.1 == names) with
      | some e => rfl
      | none => exact if_congr (hleads.trans (and_iff_right hpre)) rfl rfl

/-- The place and what is below it are no directories, and other places are what they were. -/
lemma isDirectoryAt_remove {names : List String} (hnames : Reached fs names) :
    (fs.remove place).isDirectoryAt names = fs.isDirectoryAt names := by
  unfold isDirectoryAt
  rw [h.lookup?_remove]
  by_cases hpre : place <+: names
  · have heq := hnames.eq_of_leads h.file hpre
    have hfile := h.file
    unfold isDirectoryAt at hfile
    rw [if_pos hpre, ← heq, hfile]
  · rw [if_neg hpre]

/-- Paths lead where they led. -/
lemma follow?_remove {names : List String} (hnames : Reached fs names.reverse)
    (parts : List String) :
    (fs.remove place).follow? names parts = fs.follow? names parts := by
  induction parts generalizing names with
  | nil => rfl
  | cons part parts ih =>
    rw [follow?_cons, follow?_cons, h.isDirectoryAt_remove hnames]
    split
    · next hdirectory =>
      split
      · split
        · rfl
        · next name above =>
          refine ih (hnames.of_leads ?_)
          rw [List.reverse_cons]
          exact List.prefix_append _ _
      · next hpart =>
        refine ih ?_
        rw [List.reverse_cons]
        exact hnames.concat hdirectory hpart
    · rfl

/-- Paths lead to what they led to, but for those to the place. -/
lemma get?_remove (p : Path) :
    (fs.remove place).get? p =
      if fs.follow? [] p.parts = some place then Option.none else fs.get? p := by
  unfold get?
  by_cases habsolute : p.absolute = true
  · rw [if_pos habsolute, if_pos habsolute, ite_self]
  · rw [if_neg habsolute, if_neg habsolute, h.follow?_remove reached_nil]
    cases hfollow : fs.follow? [] p.parts with
    | none => rfl
    | some names =>
      have hreached := reached_of_follow? reached_nil hfollow
      simp only [h.lookup?_remove, Option.some.injEq]
      by_cases hpre : place <+: names
      · rw [if_pos hpre, if_pos (hreached.eq_of_leads h.file hpre).symm]
      · have hne : names ≠ place := by
          rintro rfl
          exact hpre (List.prefix_refl _)
        rw [if_neg hpre, if_neg hne]

/-- Paths lead to directories if they led to some. -/
lemma isDirectory_remove (p : Path) : (fs.remove place).isDirectory p = fs.isDirectory p := by
  unfold isDirectory
  rw [h.get?_remove]
  by_cases hfollow : fs.follow? [] p.parts = some place
  · have hnot : ¬ fs.isDirectory p = true := by
      rw [isDirectory_iff, hfollow]
      rintro ⟨-, names, hnames, hdirectory⟩
      rw [← Option.some.inj hnames, h.file] at hdirectory
      cases hdirectory
    rw [if_pos hfollow]
    exact (Bool.eq_false_iff.mpr hnot).symm
  · rw [if_neg hfollow]

/-- Directories list the names that they listed, but for the place. -/
lemma namesIn_remove {directory : Path} {names : List String}
    (hfollow : fs.follow? [] directory.parts = some names)
    (hdirectory : fs.isDirectoryAt names = true) :
    (fs.remove place).namesIn directory =
      (fs.namesIn directory).filter fun name => names ++ [name] ≠ place := by
  have hfollow' : (fs.remove place).follow? [] directory.parts = some names := by
    rw [h.follow?_remove reached_nil, hfollow]
  have hsorted := (fs.pairwise_namesIn directory).filter fun name => names ++ [name] ≠ place
  have hsorted' := (fs.remove place).pairwise_namesIn directory
  refine List.Perm.eq_of_pairwise ?_ hsorted' hsorted ?_
  · intro a b _ _ hab hba
    exact absurd (String.lt_trans hab hba) (String.lt_irrefl a)
  · have hdistinct : ∀ {a b : String}, a < b → a ≠ b := by
      rintro a b hab rfl
      exact String.lt_irrefl a hab
    rw [List.perm_ext_iff_of_nodup (hsorted'.imp hdistinct) (hsorted.imp hdistinct)]
    intro name
    rw [List.mem_filter, mem_namesIn_iff _ hfollow', mem_namesIn_iff _ hfollow,
      h.exists_entry_remove_iff (by simp), and_comm]
    refine and_congr_right fun _ => ?_
    rw [decide_eq_true_eq, not_iff_not]
    constructor
    · intro hpre
      refine (List.prefix_concat_iff.mp hpre).elim Eq.symm fun hpre => ?_
      -- nothing is in the place, since it is no directory
      have heq := (reached_of_follow? reached_nil hfollow).eq_of_leads h.file hpre
      rw [← heq, h.file] at hdirectory
      cases hdirectory
    · intro heq
      exact heq ▸ List.prefix_refl _

end IsLeaf

end PageTree.Files
