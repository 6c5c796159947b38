import Mathlib.Data.List.Induction
import PageTree.Proofs.Registry.Table
import PageTree.Proofs.Text.Blank

/-!
# Names by group

The list of types and their documentation have the names of a registry in groups.  A name belongs to
the group that stands before its first slash, and without a slash to the general group
(`BelongsTo`, `groupOf_eq_iff`).

`grouped` goes through the names and adds each to its group.  The groups that come out have
different names, and each holds the names that belong to it in their order (`mem_grouped_iff`), so
that together they hold every name once (`grouped_perm`).
-/

namespace PageTree.Registry

open Text

/-! ## The group of a name -/

/-- A group stands before the first slash of a name, or the name has no slash and the group is the
general one. -/
def BelongsTo (name group : String) : Prop :=
  ('/' ∉ group.toList ∧ ∃ rest, name = group ++ "/" ++ rest) ∨
    ('/' ∉ name.toList ∧ group = generalGroup)

/-- The characters of a name with a group in front of it. -/
lemma toList_slash (group rest : String) :
    (group ++ "/" ++ rest).toList = group.toList ++ '/' :: rest.toList := by
  simp

/-- There is a slash in a name with a group in front of it. -/
lemma slash_mem (group rest : String) : '/' ∈ (group ++ "/" ++ rest).toList := by
  rw [toList_slash]
  exact List.mem_append_right _ List.mem_cons_self

/-- Each name belongs to its group and to no other one. -/
lemma groupOf_eq_iff (name group : String) : groupOf name = group ↔ BelongsTo name group := by
  unfold groupOf
  cases hcut : cut? '/' name.toList with
  | none =>
    have hslash := not_mem_of_cut? hcut
    constructor
    · intro h
      exact .inr ⟨hslash, h.symm⟩
    · rintro (⟨-, rest, rfl⟩ | ⟨-, rfl⟩)
      · exact absurd (slash_mem group rest) hslash
      · rfl
  | some p =>
    obtain ⟨before, rest⟩ := p
    obtain ⟨hname, hslash⟩ := eq_of_cut? hcut
    constructor
    · rintro rfl
      refine .inl ⟨by rwa [String.toList_ofList], String.ofList rest, ?_⟩
      rw [← String.toList_inj, toList_slash, String.toList_ofList, String.toList_ofList, hname]
    · rintro (⟨hgroup, rest', rfl⟩ | ⟨hno, -⟩)
      · rw [toList_slash, cut?_append hgroup] at hcut
        cases hcut
        exact String.ofList_toList
      · rw [hname] at hno
        exact absurd (List.mem_append_right _ List.mem_cons_self) hno

/-- No group has a slash in it. -/
lemma BelongsTo.slash_not_mem {name group : String} (h : BelongsTo name group) :
    '/' ∉ group.toList := by
  rcases h with ⟨hgroup, -⟩ | ⟨-, rfl⟩
  · exact hgroup
  · decide

/-- Names without a slash are in the general group, so that a name of another one has a slash. -/
lemma slash_mem_of_groupOf_ne {name : String} (h : groupOf name ≠ generalGroup) :
    '/' ∈ name.toList := by
  rcases (groupOf_eq_iff name _).mp rfl with ⟨-, rest, hname⟩ | ⟨-, hgeneral⟩
  · rw [hname]
    exact slash_mem _ rest
  · exact absurd hgeneral h

/-- The names of a group, in their order. -/
def inGroup (group : String) (names : List String) : List String :=
  names.filter (groupOf · == group)

/-- The names of a group are those that belong to it. -/
lemma mem_inGroup_iff (group : String) (names : List String) (n : String) :
    n ∈ inGroup group names ↔ n ∈ names ∧ groupOf n = group := by
  rw [inGroup, List.mem_filter, beq_iff_eq]

/-- Names that all belong to a group are the names of the group. -/
lemma inGroup_eq_self {group : String} {names : List String}
    (h : ∀ n ∈ names, groupOf n = group) : inGroup group names = names :=
  List.filter_eq_self.mpr fun n hn => beq_iff_eq.mpr (h n hn)

/-- One more name is the last one of its group. -/
lemma inGroup_concat (group : String) (names : List String) (n : String) :
    inGroup group (names ++ [n]) =
      if groupOf n = group then inGroup group names ++ [n] else inGroup group names := by
  unfold inGroup
  rw [List.filter_append]
  split
  · rename_i h
    simp [h]
  · rename_i h
    simp [h]

/-! ## Adding a name -/

section AddToGroup

variable (group name : String) (groups : List (String × List String))

/-- A name is added behind the others of its group, and the other groups stay as they are. -/
lemma find?_addToGroup (g : String) :
    (addToGroup group name groups).find? (·.1 == g) =
      if group = g then some (g, (groups.find? (·.1 == g)).elim [] (·.2) ++ [name])
      else groups.find? (·.1 == g) := by
  induction groups with
  | nil =>
    rw [addToGroup, List.find?_cons]
    by_cases hg : group = g
    · simp [hg]
    · simp [hg, beq_false_of_ne hg]
  | cons e groups ih =>
    obtain ⟨first, ns⟩ := e
    rw [addToGroup]
    by_cases hfirst : first = group
    · rw [if_pos hfirst, List.find?_cons, List.find?_cons, hfirst]
      by_cases hg : group = g
      · simp [hg]
      · simp [hg, beq_false_of_ne hg]
    · rw [if_neg hfirst, List.find?_cons, List.find?_cons, ih]
      by_cases hg : first = g
      · have hother : group ≠ g := fun h => hfirst (hg.trans h.symm)
        simp [hg, hother]
      · simp [beq_false_of_ne hg]

/-- A group that is new comes last. -/
lemma map_fst_addToGroup :
    (addToGroup group name groups).map (·.1) =
      if group ∈ groups.map (·.1) then groups.map (·.1) else groups.map (·.1) ++ [group] := by
  induction groups with
  | nil => rfl
  | cons e groups ih =>
    obtain ⟨first, ns⟩ := e
    rw [addToGroup]
    by_cases hfirst : first = group
    · simp [hfirst]
    · have hmem : group ∈ first :: groups.map (·.1) ↔ group ∈ groups.map (·.1) := by
        rw [List.mem_cons, or_iff_right (Ne.symm hfirst)]
      rw [if_neg hfirst, List.map_cons, ih, List.map_cons]
      simp only [hmem]
      split <;> rfl

/-- The groups together hold one name more. -/
lemma addToGroup_perm :
    ((addToGroup group name groups).flatMap (·.2)).Perm (groups.flatMap (·.2) ++ [name]) := by
  induction groups with
  | nil => exact .refl _
  | cons e groups ih =>
    obtain ⟨first, ns⟩ := e
    rw [addToGroup]
    split
    · rw [List.flatMap_cons, List.flatMap_cons, List.append_assoc, List.append_assoc]
      exact List.perm_append_comm.append_left ns
    · rw [List.flatMap_cons, List.flatMap_cons, List.append_assoc]
      exact ih.append_left ns

end AddToGroup

/-! ## All groups -/

/-- One more name is added to the groups of the others. -/
lemma grouped_concat (names : List String) (n : String) :
    grouped (names ++ [n]) = addToGroup (groupOf n) n (grouped names) := by
  unfold grouped
  rw [List.foldl_append]
  rfl

/-- The groups hold every name once. -/
lemma grouped_perm (names : List String) : ((grouped names).flatMap (·.2)).Perm names := by
  induction names using List.reverseRecOn with
  | nil => exact .refl _
  | append_singleton names n ih =>
    rw [grouped_concat]
    exact (addToGroup_perm _ n _).trans (ih.append_right [n])

/-- No two groups have the same name. -/
lemma nodup_grouped (names : List String) : ((grouped names).map (·.1)).Nodup := by
  induction names using List.reverseRecOn with
  | nil => exact List.nodup_nil
  | append_singleton names n ih =>
    rw [grouped_concat, map_fst_addToGroup]
    split
    · exact ih
    · rename_i hnew
      exact ih.append (List.nodup_singleton _) (by simpa using hnew)

/-- Under the name of a group stand the names that belong to it, if there are any. -/
lemma find?_grouped (names : List String) (g : String) :
    (grouped names).find? (·.1 == g) =
      if inGroup g names = [] then none else some (g, inGroup g names) := by
  induction names using List.reverseRecOn with
  | nil => rfl
  | append_singleton names n ih =>
    rw [grouped_concat, find?_addToGroup, ih, inGroup_concat]
    by_cases hg : groupOf n = g
    · have hnew : inGroup g names ++ [n] ≠ [] :=
        List.append_ne_nil_of_right_ne_nil _ (List.cons_ne_nil _ _)
      rw [if_pos hg, if_pos hg, if_neg hnew]
      by_cases hnil : inGroup g names = []
      · rw [if_pos hnil, hnil]
        rfl
      · rw [if_neg hnil]
        rfl
    · rw [if_neg hg, if_neg hg]

/-- There is a group for each group that a name belongs to. -/
lemma mem_map_fst_grouped_iff (names : List String) (g : String) :
    g ∈ (grouped names).map (·.1) ↔ inGroup g names ≠ [] := by
  have hfind : ((grouped names).find? (·.1 == g)).isSome ↔ g ∈ (grouped names).map (·.1) := by
    rw [List.find?_isSome, List.mem_map]
    simp only [beq_iff_eq]
  rw [← hfind, find?_grouped]
  by_cases h : inGroup g names = []
  · simp [h]
  · simp [h]

/-- A group holds the names that belong to it, and it is there if there are any. -/
lemma mem_grouped_iff (names : List String) (g : String) (ns : List String) :
    (g, ns) ∈ grouped names ↔ ns = inGroup g names ∧ ns ≠ [] := by
  have hfind := find?_grouped names g
  constructor
  · intro h
    have hne := (mem_map_fst_grouped_iff names g).mp (List.mem_map_of_mem h)
    rw [if_neg hne] at hfind
    -- no other group has the name
    have hsame := List.inj_on_of_nodup_map (nodup_grouped names) (List.mem_of_find?_eq_some hfind) h
      rfl
    cases hsame
    exact ⟨rfl, hne⟩
  · rintro ⟨rfl, hne⟩
    rw [if_neg hne] at hfind
    exact List.mem_of_find?_eq_some hfind

end PageTree.Registry
