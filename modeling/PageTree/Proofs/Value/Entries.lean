import PageTree.Proofs.Value.Quantity

/-!
# Keys of mappings

Setting an entry and merging entries over a mapping keep the keys that are there, and the entry of a
text comes from one of the two (`mem_or_mem_of_mem_merge`).  The entry that a name is looked up in
is one of the mapping, and so it is smaller than the mapping.
-/

namespace PageTree

namespace Entries

variable {α : Type}

/-- A key that is listed is stored. -/
theorem has_of_mem {es : List (Key × α)} {k : Key} {v : α} (h : (k, v) ∈ es) :
    has es k = true := by
  unfold has
  induction es with
  | nil => cases h
  | cons e es ih =>
    obtain ⟨l, w⟩ := e
    rw [get?]
    split
    · rfl
    · rename_i hl
      rcases List.mem_cons.mp h with hhead | htail
      · cases hhead
        exact absurd (Key.same_refl k) hl
      · exact ih htail

/-- Setting an entry keeps the keys that are stored. -/
theorem has_set {es : List (Key × α)} {k : Key} (h : has es k = true) (l : Key) (v : α) :
    has (set es l v) k = true := by
  unfold has at *
  induction es with
  | nil => cases h
  | cons e es ih =>
    obtain ⟨m, w⟩ := e
    rw [get?] at h
    rw [set]
    split
    · rw [get?]
      split
      · rfl
      · rename_i hm
        rwa [if_neg hm] at h
    · rw [get?]
      split
      · rfl
      · rename_i hm
        rw [if_neg hm] at h
        exact ih h

/-- Merging entries over a mapping keeps the keys that are stored. -/
theorem has_merge {base : List (Key × α)} {k : Key} (h : has base k = true)
    (upper : List (Key × α)) : has (merge base upper) k = true := by
  unfold merge
  induction upper generalizing base with
  | nil => exact h
  | cons e upper ih => exact ih (has_set h e.1 e.2)

/-! ## Entries for a text -/

/-- A key that names the same entry as a text is the text. -/
lemma eq_of_same_str {k : Key} {name : String} (h : k.same (.str name) = true) : k = .str name := by
  cases k with
  | str s =>
    rw [Key.same, beq_iff_eq] at h
    rw [h]
  | _ => cases h

/-- An entry for a text is there when another entry is set, unless it is the one that is set. -/
lemma mem_of_mem_set {es : List (Key × α)} {k : Key} {v w : α} {name : String}
    (h : (Key.str name, w) ∈ set es k v) :
    (Key.str name, w) ∈ es ∨ k = .str name ∧ w = v := by
  induction es with
  | nil =>
    rw [set, List.mem_singleton, Prod.mk.injEq] at h
    exact .inr ⟨h.1.symm, h.2⟩
  | cons e es ih =>
    obtain ⟨l, u⟩ := e
    rw [set] at h
    split at h
    · rename_i hl
      rcases List.mem_cons.mp h with hhead | hrest
      · cases hhead
        rw [Key.same_comm] at hl
        exact .inr ⟨eq_of_same_str hl, rfl⟩
      · exact .inl (List.mem_cons_of_mem _ hrest)
    · rcases List.mem_cons.mp h with hhead | hrest
      · exact .inl (hhead ▸ List.mem_cons_self)
      · exact (ih hrest).imp_left (List.mem_cons_of_mem _)

/-- An entry for a text comes from one of two mappings that are merged. -/
lemma mem_or_mem_of_mem_merge {base upper : List (Key × α)} {w : α} {name : String}
    (h : (Key.str name, w) ∈ merge base upper) :
    (Key.str name, w) ∈ base ∨ (Key.str name, w) ∈ upper := by
  unfold merge at h
  induction upper generalizing base with
  | nil => exact .inl h
  | cons e upper ih =>
    rcases ih h with hset | hupper
    · refine (mem_of_mem_set hset).imp_right fun he => ?_
      rw [he.2, ← he.1]
      exact List.mem_cons_self
    · exact .inr (List.mem_cons_of_mem _ hupper)

/-! ## Looking up a name -/

/-- What looks for the first entry of a name looks the name up. -/
lemma eq_lookup {f : Entries → α} {g : Value → α} {name : String} (hnil : f [] = g .null)
    (hcons : ∀ k v rest, f ((k, v) :: rest) = if k.same (.str name) then g v else f rest)
    (entries : Entries) : f entries = g (lookup entries name) := by
  induction entries with
  | nil => exact hnil
  | cons e rest ih =>
    obtain ⟨k, v⟩ := e
    rw [hcons, lookup, find?, get?]
    split
    · rfl
    · exact ih

/-- A name that is looked up has an entry, unless nothing is found. -/
lemma exists_mem_of_lookup {entries : Entries} {name : String} (h : lookup entries name ≠ .null) :
    ∃ e ∈ entries, e.2 = lookup entries name := by
  induction entries with
  | nil => exact absurd rfl h
  | cons e rest ih =>
    obtain ⟨k, v⟩ := e
    by_cases hk : k.same (.str name) = true
    · refine ⟨(k, v), List.mem_cons_self, ?_⟩
      rw [lookup, find?, get?, if_pos hk]
      rfl
    · have hrest : lookup ((k, v) :: rest) name = lookup rest name := by
        rw [lookup, find?, get?, if_neg hk]
        rfl
      rw [hrest] at h ⊢
      obtain ⟨e, he, hvalue⟩ := ih h
      exact ⟨e, List.mem_cons_of_mem _ he, hvalue⟩

/-- The value of an entry is smaller than a mapping that lists it. -/
lemma sizeOf_lt_of_mem {entries : Entries} {e : Key × Value} (he : e ∈ entries) :
    sizeOf e.2 < sizeOf (Value.map entries) := by
  have hlist : sizeOf e < sizeOf entries := List.sizeOf_lt_of_mem he
  have hpair : sizeOf e.2 < sizeOf e := by
    obtain ⟨k, v⟩ := e
    simp only [Prod.mk.sizeOf_spec]
    omega
  rw [Value.map.sizeOf_spec]
  omega

end Entries

end PageTree
