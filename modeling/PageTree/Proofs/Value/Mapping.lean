import Mathlib.Data.List.Infix
import PageTree.Proofs.Value.Entries
import PageTree.Proofs.Value.Same

/-!
# Mappings

A list of entries is a mapping if each key is listed once (`Entries.Distinct`).  Setting entries and
merging mappings keeps this, and leaves the keys that are there in their places, with new ones at
the end.

What is stored after a merge is said by `Entries.get?_merge`: the upper mapping wins.  Merging a
mapping over one that it extends gives it back to the letter (`Entries.merge_eq_of_prefix`), so that
filling in defaults twice is the same as filling them in once.  Two mappings with the same values
for all keys are the same (`canonicalEntries_eq_of_get?`), whatever the order of their entries is.
-/

namespace PageTree

namespace Entries

variable {α : Type}

/-- Each key is listed once. -/
def Distinct (es : List (Key × α)) : Prop :=
  (keys es).Pairwise fun k l => k.same l = false

/-! ## Looking up -/

/-- A key is not stored if no listed key is the same. -/
lemma get?_eq_none_iff (es : List (Key × α)) (k : Key) :
    get? es k = none ↔ ∀ l ∈ keys es, l.same k = false := by
  induction es with
  | nil => simp [get?, keys]
  | cons e es ih =>
    obtain ⟨l, v⟩ := e
    rw [get?]
    cases hl : l.same k with
    | true => simp [keys, hl]
    | false =>
      rw [if_neg Bool.false_ne_true, ih]
      simp [keys, hl]

/-- What is stored for a key stands in an entry with the same key. -/
lemma exists_of_get? {es : List (Key × α)} {k : Key} {v : α} (h : get? es k = some v) :
    ∃ e ∈ es, e.1.same k = true ∧ e.2 = v := by
  induction es with
  | nil => cases h
  | cons e es ih =>
    obtain ⟨l, w⟩ := e
    rw [get?] at h
    split at h
    · rename_i hl
      cases h
      exact ⟨_, List.mem_cons_self, hl, rfl⟩
    · obtain ⟨e, he, hv⟩ := ih h
      exact ⟨e, List.mem_cons_of_mem _ he, hv⟩

/-- Setting an entry changes what is stored for its key only. -/
theorem get?_set (es : List (Key × α)) (k : Key) (v : α) (l : Key) :
    get? (set es k v) l = if k.same l then some v else get? es l := by
  induction es with
  | nil => rfl
  | cons e es ih =>
    obtain ⟨m, w⟩ := e
    rw [set]
    cases hm : m.same k with
    | true =>
      rw [if_pos rfl, get?, get?, Key.same_congr hm l]
      split <;> rfl
    | false =>
      rw [if_neg Bool.false_ne_true, get?, get?, ih]
      cases hml : m.same l with
      | false => rfl
      | true =>
        have hkl : k.same l = false := by
          rw [Key.same_comm k l, ← Key.same_congr hml k]
          exact hm
        rw [hkl, if_pos rfl, if_neg Bool.false_ne_true, if_pos rfl]

/-- Keys that are the same have the same value. -/
lemma get?_congr (es : List (Key × α)) {k l : Key} (h : k.same l = true) :
    get? es k = get? es l := by
  induction es with
  | nil => rfl
  | cons e es ih =>
    obtain ⟨m, w⟩ := e
    rw [get?, get?, ih, Key.same_comm m k, Key.same_comm m l, Key.same_congr h m]

/-! ## Merging, entry by entry -/

/-- Merging nothing changes nothing. -/
lemma merge_nil (base : List (Key × α)) : merge base [] = base := rfl

/-- The first entry is set, and then the others are merged. -/
lemma merge_cons (base : List (Key × α)) (k : Key) (v : α) (upper : List (Key × α)) :
    merge base ((k, v) :: upper) = merge (set base k v) upper := rfl

/-- Setting an entry that is there already changes nothing. -/
theorem set_eq_self {es : List (Key × α)} {k : Key} {v : α} (h : get? es k = some v) :
    set es k v = es := by
  induction es with
  | nil => cases h
  | cons e es ih =>
    obtain ⟨m, w⟩ := e
    rw [get?] at h
    rw [set]
    split
    · rename_i hm
      rw [if_pos hm] at h
      cases h
      rfl
    · rename_i hm
      rw [if_neg hm] at h
      rw [ih h]

/-- Merging entries that are there already changes nothing. -/
theorem merge_eq_self {es upper : List (Key × α)} (h : ∀ e ∈ upper, get? es e.1 = some e.2) :
    merge es upper = es := by
  induction upper with
  | nil => rfl
  | cons e upper ih =>
    obtain ⟨k, v⟩ := e
    have hset : set es k v = es := set_eq_self (h (k, v) List.mem_cons_self)
    rw [merge_cons, hset]
    exact ih fun e he => h e (List.mem_cons_of_mem _ he)

/-- In a mapping, each entry is stored. -/
lemma get?_of_mem {es : List (Key × α)} (hes : Distinct es) {e : Key × α} (he : e ∈ es) :
    get? es e.1 = some e.2 := by
  induction es with
  | nil => cases he
  | cons f es ih =>
    obtain ⟨hf, hes⟩ := List.pairwise_cons.mp hes
    rcases List.mem_cons.mp he with rfl | he
    · rw [get?, Key.same_refl, if_pos rfl]
    · have hne := hf e.1 (List.mem_map_of_mem he)
      rw [get?, hne, if_neg Bool.false_ne_true]
      exact ih hes he

/-- What is stored after merging a mapping over another one: the upper one wins. -/
theorem get?_merge (base : List (Key × α)) {upper : List (Key × α)} (h : Distinct upper)
    (k : Key) : get? (merge base upper) k = (get? upper k).or (get? base k) := by
  induction upper generalizing base with
  | nil => rfl
  | cons e upper ih =>
    obtain ⟨l, v⟩ := e
    obtain ⟨hl, hupper⟩ := List.pairwise_cons.mp h
    rw [merge_cons, ih (set base l v) hupper, get?_set, get?]
    cases hk : l.same k with
    | false => rfl
    | true =>
      have hnone : get? upper k = none := by
        refine (get?_eq_none_iff upper k).mpr fun m hm => ?_
        rw [Key.same_comm m k, ← Key.same_congr hk m]
        exact hl m hm
      rw [hnone]
      rfl

/-! ## Keys in their places -/

/-- Setting an entry keeps the keys in their places and adds a new one at the end. -/
lemma keys_set (es : List (Key × α)) (k : Key) (v : α) :
    keys (set es k v) = if has es k then keys es else keys es ++ [k] := by
  unfold has
  induction es with
  | nil => rfl
  | cons e es ih =>
    obtain ⟨m, w⟩ := e
    unfold keys at ih ⊢
    rw [set, get?]
    cases m.same k with
    | true => rfl
    | false =>
      rw [if_neg Bool.false_ne_true, if_neg Bool.false_ne_true, List.map_cons, ih]
      split <;> rfl

/-- Setting an entry of a mapping gives a mapping. -/
lemma Distinct.set {es : List (Key × α)} (h : Distinct es) (k : Key) (v : α) :
    Distinct (set es k v) := by
  unfold Distinct at *
  rw [keys_set]
  cases hk : has es k with
  | true => exact h
  | false =>
    have hnone : get? es k = none := Option.isNone_iff_eq_none.mp (Option.isSome_eq_false_iff.mp hk)
    rw [if_neg Bool.false_ne_true, List.pairwise_append]
    refine ⟨h, List.pairwise_singleton _ _, fun l hl m hm => ?_⟩
    rw [List.mem_singleton.mp hm]
    exact (get?_eq_none_iff es k).mp hnone l hl

/-- Merging entries over a mapping gives a mapping. -/
lemma Distinct.merge {base : List (Key × α)} (h : Distinct base) (upper : List (Key × α)) :
    Distinct (merge base upper) := by
  induction upper generalizing base with
  | nil => exact h
  | cons e upper ih =>
    obtain ⟨k, v⟩ := e
    rw [merge_cons]
    exact ih (h.set k v)

/-- Setting an entry keeps the keys that are there in front. -/
lemma keys_prefix_set (es : List (Key × α)) (k : Key) (v : α) : keys es <+: keys (set es k v) := by
  rw [keys_set]
  split
  · exact List.prefix_refl _
  · exact List.prefix_append _ _

/-- Merging entries keeps the keys that are there in front. -/
lemma keys_prefix_merge (base upper : List (Key × α)) : keys base <+: keys (merge base upper) := by
  induction upper generalizing base with
  | nil => exact List.prefix_refl _
  | cons e upper ih =>
    obtain ⟨k, v⟩ := e
    rw [merge_cons]
    exact (keys_prefix_set base k v).trans (ih (set base k v))

/-- Setting an entry behind others that do not have its key. -/
lemma set_append {done : List (Key × α)} {k : Key} (h : get? done k = none)
    (es : List (Key × α)) (v : α) : set (done ++ es) k v = done ++ set es k v := by
  induction done with
  | nil => rfl
  | cons e done ih =>
    obtain ⟨l, w⟩ := e
    rw [get?] at h
    split at h
    · cases h
    · rename_i hl
      rw [List.cons_append, set, if_neg hl, ih h, List.cons_append]

/-- Merging behind others a mapping that has none of their keys and extends what is there. -/
lemma merge_append {done base upper : List (Key × α)} (hkeys : keys base <+: keys upper)
    (h : Distinct (done ++ upper)) : merge (done ++ base) upper = done ++ upper := by
  induction upper generalizing done base with
  | nil =>
    have hbase : base = [] := List.map_eq_nil_iff.mp (List.prefix_nil.mp hkeys)
    rw [hbase, merge_nil]
  | cons e upper ih =>
    obtain ⟨k, v⟩ := e
    have hfresh : get? done k = none := by
      refine (get?_eq_none_iff done k).mpr fun l hl => ?_
      unfold Distinct keys at h
      rw [List.map_append, List.pairwise_append] at h
      exact h.2.2 l hl k List.mem_cons_self
    -- the entry is set in its place in front of what is still to come
    have hset : ∃ rest, set base k v = (k, v) :: rest ∧ keys rest <+: keys upper := by
      cases base with
      | nil => exact ⟨[], rfl, List.nil_prefix⟩
      | cons e base =>
        obtain ⟨l, w⟩ := e
        obtain ⟨hl, hrest⟩ := List.cons_prefix_cons.mp hkeys
        cases hl
        refine ⟨base, ?_, hrest⟩
        rw [set, Key.same_refl, if_pos rfl]
    obtain ⟨rest, hset, hrest⟩ := hset
    have hdone : done ++ (k, v) :: upper = (done ++ [(k, v)]) ++ upper := by simp
    have hbase : done ++ (k, v) :: rest = (done ++ [(k, v)]) ++ rest := by simp
    rw [hdone] at h
    rw [merge_cons, set_append hfresh, hset, hbase, ih hrest h, hdone]

/-- Merging a mapping over one that it extends gives it back. -/
theorem merge_eq_of_prefix {base upper : List (Key × α)} (hkeys : keys base <+: keys upper)
    (h : Distinct upper) : merge base upper = upper := by
  have hdistinct : Distinct ([] ++ upper) := h
  exact merge_append hkeys hdistinct

/-- Filling in defaults twice is the same as filling them in once. -/
theorem merge_merge_self {base : List (Key × α)} (h : Distinct base) (upper : List (Key × α)) :
    merge base (merge base upper) = merge base upper :=
  merge_eq_of_prefix (keys_prefix_merge base upper) (h.merge upper)

/-- What has the entries of a mapping in front, with other values maybe, and is a mapping if that is
one. -/
def Extends (base es : List (Key × α)) : Prop :=
  keys base <+: keys es ∧ (Distinct base → Distinct es)

/-- Every mapping extends itself. -/
lemma Extends.refl (es : List (Key × α)) : Extends es es :=
  ⟨List.prefix_refl _, id⟩

/-- What extends an extension extends the mapping. -/
lemma Extends.trans {as bs cs : List (Key × α)} (h : Extends as bs) (h' : Extends bs cs) :
    Extends as cs :=
  ⟨h.1.trans h'.1, h'.2 ∘ h.2⟩

/-- Setting an entry extends a mapping. -/
lemma extends_set (es : List (Key × α)) (k : Key) (v : α) : Extends es (set es k v) :=
  ⟨keys_prefix_set es k v, fun h => h.set k v⟩

/-- Merging entries over a mapping extends it. -/
lemma extends_merge (base upper : List (Key × α)) : Extends base (merge base upper) :=
  ⟨keys_prefix_merge base upper, fun h => h.merge upper⟩

/-- Merging an extension over a mapping gives the extension. -/
lemma Extends.merge_eq {base es : List (Key × α)} (h : Extends base es) (hbase : Distinct base) :
    merge base es = es :=
  merge_eq_of_prefix h.1 (h.2 hbase)

end Entries

/-! ## Sameness of mappings -/

/-- A mapping gives no values for what is the canonical form of none of its keys. -/
lemma canonicalEntries_eq_nil {es : Entries} {c : CanonicalKey}
    (h : ∀ k ∈ Entries.keys es, k.canonical ≠ c) : canonicalEntries es c = [] := by
  induction es with
  | nil => rw [canonicalEntries]
  | cons e es ih =>
    obtain ⟨k, v⟩ := e
    rw [canonicalEntries, pushEntry_of_ne (h k List.mem_cons_self)]
    exact ih fun l hl => h l (List.mem_cons_of_mem _ hl)

/-- A mapping gives at most one value for a key: the one that is stored. -/
lemma canonicalEntries_of_distinct {es : Entries} (h : Entries.Distinct es) (k : Key) :
    canonicalEntries es k.canonical = ((Entries.get? es k).map Value.canonical).toList := by
  induction es with
  | nil => rw [canonicalEntries]; rfl
  | cons e es ih =>
    obtain ⟨l, v⟩ := e
    obtain ⟨hl, hes⟩ := List.pairwise_cons.mp h
    rw [canonicalEntries, Entries.get?]
    cases hk : l.same k with
    | true =>
      have hnone : canonicalEntries es k.canonical = [] := by
        refine canonicalEntries_eq_nil fun m hm hc => ?_
        have hlm : l.same m = true := by
          rw [Key.same_iff_canonical, hc]
          exact (Key.same_iff_canonical l k).mp hk
        rw [hl m hm] at hlm
        cases hlm
      rw [(Key.same_iff_canonical l k).mp hk, pushEntry_self, hnone]
      rfl
    | false =>
      have hne : l.canonical ≠ k.canonical := by
        intro hc
        rw [(Key.same_iff_canonical l k).mpr hc] at hk
        cases hk
      rw [pushEntry_of_ne hne, ih hes]
      rfl

/-- Mappings with the same values for all keys are the same. -/
theorem canonicalEntries_eq_of_get? {es gs : Entries} (hes : Entries.Distinct es)
    (hgs : Entries.Distinct gs) (h : ∀ k, Entries.get? es k = Entries.get? gs k) :
    canonicalEntries es = canonicalEntries gs := by
  funext c
  by_cases hc : ∃ k : Key, k.canonical = c
  · obtain ⟨k, rfl⟩ := hc
    rw [canonicalEntries_of_distinct hes, canonicalEntries_of_distinct hgs, h k]
  · have hnone : ∀ k : Key, k.canonical ≠ c := fun k hk => hc ⟨k, hk⟩
    rw [canonicalEntries_eq_nil fun k _ => hnone k, canonicalEntries_eq_nil fun k _ => hnone k]

/-- Filling in defaults for keys that are all there gives a same mapping. -/
theorem canonicalEntries_merge_of_has {defaults config : Entries}
    (hdefaults : Entries.Distinct defaults) (hconfig : Entries.Distinct config)
    (h : ∀ e ∈ defaults, Entries.has config e.1 = true) :
    canonicalEntries (Entries.merge defaults config) = canonicalEntries config := by
  refine canonicalEntries_eq_of_get? (hdefaults.merge config) hconfig fun k => ?_
  rw [Entries.get?_merge defaults hconfig]
  cases hk : Entries.get? config k with
  | some v => rfl
  | none =>
    -- a key that is not there is no default either
    refine (Entries.get?_eq_none_iff defaults k).mpr fun l hl => ?_
    obtain ⟨e, he, rfl⟩ := List.mem_map.mp hl
    cases hsame : e.1.same k with
    | false => rfl
    | true =>
      have hstored := h e he
      rw [Entries.has, Entries.get?_congr config hsame, hk] at hstored
      cases hstored

end PageTree
