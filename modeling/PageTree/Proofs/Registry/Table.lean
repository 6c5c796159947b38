import Mathlib.Data.List.Basic
import Mathlib.Data.List.Nodup
import Mathlib.Tactic.Lemma
import PageTree.Registry.Basic

/-!
# Registries as finite maps

The definitions of a registry are a list of entries, and four questions read it: what a name stands
for, whether it is defined, how many names there are, and which ones.  Here the answers are those of
one finite map (`Describes`), as long as no name is listed twice and every definition carries the
name it is listed under (`Consistent`).

Storing and removing definitions keep a registry consistent, and each changes the map at one name
only (`get?_insert`, `get?_erase`).
-/

namespace PageTree.Registry

/-! ## Looking up names -/

/-- The names that a registry lists. -/
def names (r : Registry) : List String :=
  r.definitions.map (·.1)

/-- A name is looked up in the first entry and then in the others. -/
lemma get?_cons (n : String) (d : Definition) (rest : List (String × Definition)) (frozen : Bool)
    (m : String) :
    get? ⟨(n, d) :: rest, frozen⟩ m = if n = m then some d else get? ⟨rest, frozen⟩ m := by
  unfold get?
  rw [List.find?_cons]
  by_cases hm : n = m
  · simp [hm]
  · have hne : (n == m) = false := beq_false_of_ne hm
    simp only [hne, if_neg hm]

/-- A name stands for what was stored under it last, and the other names for what they stood for. -/
lemma get?_insert (r : Registry) (name : String) (d : Definition) (m : String) :
    (r.insert name d).get? m = if name = m then some { d with name } else r.get? m := by
  obtain ⟨definitions, frozen⟩ := r
  unfold insert
  induction definitions with
  | nil => rw [store, get?_cons]
  | cons e rest ih =>
    obtain ⟨n, f⟩ := e
    rw [store, get?_cons]
    by_cases hn : n = name
    · rw [if_pos hn, get?_cons, hn]
      by_cases hm : name = m
      · rw [if_pos hm, if_pos hm]
      · rw [if_neg hm, if_neg hm, if_neg hm]
    · rw [if_neg hn, get?_cons]
      by_cases hm : n = m
      · have hne : name ≠ m := fun h => hn (hm.trans h.symm)
        rw [if_pos hm, if_neg hne, if_pos hm]
      · rw [if_neg hm, if_neg hm]
        exact ih

/-- A name that was removed stands for nothing, and the other names for what they stood for. -/
lemma get?_erase (r : Registry) (name m : String) :
    (r.erase name).get? m = if name = m then none else r.get? m := by
  obtain ⟨definitions, frozen⟩ := r
  simp only [erase]
  induction definitions with
  | nil => exact (ite_self none).symm
  | cons e rest ih =>
    obtain ⟨n, d⟩ := e
    rw [get?_cons]
    by_cases hn : n = name
    · rw [List.filter_cons_of_neg (by simpa using hn), ih, hn]
      by_cases hm : name = m
      · rw [if_pos hm, if_pos hm]
      · rw [if_neg hm, if_neg hm, if_neg hm]
    · rw [List.filter_cons_of_pos (by simpa using hn), get?_cons]
      by_cases hm : n = m
      · have hne : name ≠ m := fun h => hn (hm.trans h.symm)
        rw [if_pos hm, if_neg hne, if_pos hm]
      · rw [if_neg hm, if_neg hm]
        exact ih

/-- A name is listed exactly if it stands for something. -/
lemma mem_names_iff (r : Registry) (m : String) : m ∈ r.names ↔ r.has m = true := by
  unfold names has get?
  rw [Option.isSome_map, List.find?_isSome, List.mem_map]
  simp only [beq_iff_eq]

/-- What a name stands for is listed under it. -/
lemma mem_of_get? {r : Registry} {m : String} {d : Definition} (h : r.get? m = some d) :
    (m, d) ∈ r.definitions := by
  unfold get? at h
  obtain ⟨⟨n, e⟩, hfind, rfl⟩ := Option.map_eq_some_iff.mp h
  have hn : n = m := by simpa using List.find?_some hfind
  have hmem := List.mem_of_find?_eq_some hfind
  rwa [hn] at hmem

/-! ## Consistent registries -/

/-- No name is listed twice, none is empty, and every definition carries the name it is listed
under. -/
structure Consistent (r : Registry) : Prop where
  distinct : r.names.Nodup
  named : ∀ e ∈ r.definitions, e.1 ≠ "" ∧ e.2.name = e.1

/-- The entries after a definition was stored are the new one and some of those from before. -/
lemma mem_store {name : String} {d : Definition} {definitions : List (String × Definition)}
    {e : String × Definition} (h : e ∈ store name d definitions) :
    e = (name, d) ∨ e ∈ definitions := by
  induction definitions with
  | nil =>
    rw [store, List.mem_singleton] at h
    exact .inl h
  | cons f rest ih =>
    obtain ⟨n, g⟩ := f
    rw [store] at h
    by_cases hn : n = name
    · rw [if_pos hn, hn, List.mem_cons] at h
      exact h.imp_right (List.mem_cons_of_mem _)
    · rw [if_neg hn, List.mem_cons] at h
      rcases h with rfl | h
      · exact .inr List.mem_cons_self
      · exact (ih h).imp_right (List.mem_cons_of_mem _)

/-- Storing a definition lists no name twice. -/
lemma nodup_store {definitions : List (String × Definition)}
    (h : (definitions.map (·.1)).Nodup) (name : String) (d : Definition) :
    ((store name d definitions).map (·.1)).Nodup := by
  induction definitions with
  | nil => exact List.nodup_singleton name
  | cons e rest ih =>
    obtain ⟨n, f⟩ := e
    rw [List.map_cons, List.nodup_cons] at h
    obtain ⟨hn, hrest⟩ := h
    rw [store]
    by_cases heq : n = name
    · rw [if_pos heq]
      exact List.nodup_cons.mpr ⟨hn, hrest⟩
    · rw [if_neg heq, List.map_cons, List.nodup_cons]
      refine ⟨fun hmem => ?_, ih hrest⟩
      -- the name in front is neither the new one nor listed behind
      obtain ⟨e, he, hfst⟩ := List.mem_map.mp hmem
      rcases mem_store he with rfl | hold
      · exact heq hfst.symm
      · exact hn (List.mem_map.mpr ⟨e, hold, hfst⟩)

namespace Consistent

variable {r : Registry}

/-- The empty registry is consistent. -/
lemma empty : Consistent Registry.empty :=
  ⟨List.nodup_nil, nofun⟩

/-- Storing a definition under a name that is not empty keeps a registry consistent. -/
lemma insert (h : Consistent r) {name : String} (hname : name ≠ "") (d : Definition) :
    Consistent (r.insert name d) where
  distinct := nodup_store h.distinct name _
  named := by
    intro e he
    rcases mem_store he with rfl | hold
    · exact ⟨hname, rfl⟩
    · exact h.named e hold

/-- Removing a definition keeps a registry consistent. -/
lemma erase (h : Consistent r) (name : String) : Consistent (r.erase name) where
  distinct := h.distinct.sublist (List.Sublist.map _ List.filter_sublist)
  named := fun e he => h.named e (List.mem_of_mem_filter he)

/-- Freezing keeps a registry consistent. -/
lemma freeze (h : Consistent r) : Consistent r.freeze :=
  ⟨h.distinct, h.named⟩

end Consistent

/-! ## One finite map -/

/-- The questions that a registry answers are answered as one finite map has it. -/
structure Describes (r : Registry) (f : String → Option Definition) : Prop where
  /-- A name stands for its value. -/
  get : ∀ m, r.get? m = f m
  /-- The names with a value are defined. -/
  has : ∀ m, r.has m = (f m).isSome
  /-- The names with a value are listed. -/
  mem_types : ∀ m, m ∈ r.types ↔ (f m).isSome = true
  /-- Each name is listed once, in alphabetic order. -/
  sorted : r.types.Pairwise (· < ·)
  /-- The names are counted. -/
  size : r.size = r.types.length
  /-- A name with a value is not empty, and its value carries the name. -/
  named : ∀ m d, f m = some d → m ≠ "" ∧ d.name = m

/-- The types of a registry are its names in another order. -/
lemma types_perm (r : Registry) : r.types.Perm r.names :=
  List.mergeSort_perm _ _

/-- A type is listed exactly if it stands for something. -/
lemma mem_types_iff (r : Registry) (m : String) : m ∈ r.types ↔ r.has m = true := by
  rw [(types_perm r).mem_iff, mem_names_iff]

/-- Names that are not listed twice are sorted in strictly alphabetic order. -/
lemma pairwise_sortNames {names : List String} (h : names.Nodup) :
    (sortNames names).Pairwise (· < ·) := by
  have htrans : ∀ a b c : String, decide (a ≤ b) = true → decide (b ≤ c) = true →
      decide (a ≤ c) = true := by
    intro a b c hab hbc
    rw [decide_eq_true_eq] at *
    exact String.le_trans hab hbc
  have htotal : ∀ a b : String, (decide (a ≤ b) || decide (b ≤ a)) = true := by
    intro a b
    rw [Bool.or_eq_true, decide_eq_true_eq, decide_eq_true_eq]
    exact String.le_total a b
  have hle := List.pairwise_mergeSort htrans htotal names
  have hne : (sortNames names).Nodup := (List.mergeSort_perm _ _).nodup_iff.mpr h
  refine (hle.and hne).imp ?_
  rintro a b ⟨hab, hdiff⟩
  exact Std.lt_of_le_of_ne (decide_eq_true_eq.mp hab) hdiff

/-- The types of a registry are listed in strictly alphabetic order. -/
lemma types_sorted {r : Registry} (h : r.names.Nodup) : r.types.Pairwise (· < ·) :=
  pairwise_sortNames h

/-- A consistent registry answers as the map of its look-ups has it. -/
lemma Consistent.describes {r : Registry} (h : Consistent r) {f : String → Option Definition}
    (hf : ∀ m, r.get? m = f m) : Describes r f where
  get := hf
  has := fun m => by rw [Registry.has, hf]
  mem_types := by
    intro m
    rw [mem_types_iff, Registry.has, hf]
  sorted := types_sorted h.distinct
  size := by
    rw [(types_perm r).length_eq, names, List.length_map, Registry.size]
  named := by
    intro m d hd
    rw [← hf] at hd
    exact h.named (m, d) (mem_of_get? hd)

end PageTree.Registry
