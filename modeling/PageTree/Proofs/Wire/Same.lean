import PageTree.Proofs.Wire.Member

/-!
# Rendering respects sameness

Data that are the same are rendered alike: either all of them have keys that become one name, or all
of their wire forms are the same again (`value_same`, `children_same`).  The order of entries does
not matter, since a collision is about two keys of one mapping wherever they stand, and the kinds of
numbers do not either, since only texts are recased.

A mapping is compared with another one by taking the entries out of it one by one.  The entry that
is taken out can as well stand in front (`canonicalEntries_form_middle`), but only where no two keys
become one name: among entries of one name the order is kept.
-/

namespace PageTree

/-- An entry that is taken out of a mapping stands somewhere in it. -/
lemma Entries.exists_middle_of_take? {es others : Entries} {k : Key} {w : Value}
    (h : Entries.take? es k = some (w, others)) :
    ∃ before l after, es = before ++ (l, w) :: after ∧ others = before ++ after ∧
      l.same k = true := by
  induction es generalizing others with
  | nil => cases h
  | cons e es ih =>
    obtain ⟨l, v⟩ := e
    rw [Entries.take?] at h
    split at h
    · rename_i hl
      cases h
      exact ⟨[], l, es, rfl, rfl, hl⟩
    · obtain ⟨⟨x, rest⟩, hrest, hx⟩ := Option.map_eq_some_iff.mp h
      cases hx
      obtain ⟨before, m, after, rfl, rfl, hm⟩ := ih hrest
      exact ⟨(l, v) :: before, m, after, rfl, rfl, hm⟩

namespace Wire

/-! ## Names -/

/-- Keys that name the same entry become the same name. -/
lemma canonical_recaseKey {k l : Key} (h : k.canonical = l.canonical) :
    (recaseKey k).canonical = (recaseKey l).canonical := by
  cases k with
  | str s =>
    cases l with
    | str t =>
      rw [Key.canonical, Key.canonical, CanonicalKey.str.injEq] at h
      rw [h]
    | _ => cases h
  | _ =>
    cases l with
    | str t => cases h
    | _ => exact h

/-- The names that the entries of a mapping get. -/
noncomputable def slots (ks : List Key) : List CanonicalKey :=
  ks.map fun k => (recaseKey k).canonical

/-- Keys become different names. -/
def Apart (ks : List Key) : Prop :=
  (slots ks).Nodup

/-- Keys do not collide exactly if they become different names. -/
lemma apart_iff (es : Entries) : Apart (Entries.keys es) ↔ ¬ Collides es := by
  have hne : ∀ k l : Key, (recaseKey k).same (recaseKey l) = false ↔
      (recaseKey k).canonical ≠ (recaseKey l).canonical := by
    intro k l
    rw [Ne, ← Key.same_iff_canonical, Bool.not_eq_true]
  rw [not_collides_iff, Apart, slots, List.Nodup, List.pairwise_map]
  simp only [hne]

/-- A node is rendered exactly if the keys of each mapping that is reached become different
names. -/
lemma node_eq_ok_iff (path : String) (n w : Node) :
    node path n = .ok w ↔ Every Apart (nodeMappings n) ∧ w = formNode n := by
  rw [node_eq, settle_eq_ok_iff_of_met fun earlier k => node_met_iff earlier k path n]
  simp only [Every, apart_iff]

/-- Entries are rendered as a mapping exactly if the keys of each mapping that is reached, their own
among them, become different names. -/
lemma entries_eq_ok_iff (path : String) (es fs : Entries) :
    entries path [] es = .ok fs ↔ Every Apart (valueMappings (.map es)) ∧ fs = formEntries es := by
  have heq : entries path [] es = settle (entrySites path [] es) (formEntries es) :=
    entries_eq path [] es
  have hmet : ∀ earlier k, Met (entrySites path [] es) earlier k ↔
      Listed (valueMappings (.map es)) earlier k := by
    intro earlier k
    rw [valueMappings, listed_cons, entries_met_iff]
  rw [heq, settle_eq_ok_iff_of_met hmet]
  simp only [Every, apart_iff]

/-- The names of mappings that are matched off are the same in another order. -/
lemma slots_perm : (es gs : Entries) → Value.agreeEntries floatSame es gs = true →
    (slots (Entries.keys es)).Perm (slots (Entries.keys gs))
  | [], gs, h => by
    rw [Value.agreeEntries, List.isEmpty_iff] at h
    rw [h]
  | (k, v) :: rest, gs, h => by
    rw [Value.agreeEntries] at h
    cases htake : Entries.take? gs k with
    | none =>
      rw [htake] at h
      cases h
    | some p =>
      obtain ⟨w, others⟩ := p
      rw [htake, Bool.and_eq_true] at h
      obtain ⟨before, l, after, rfl, rfl, hl⟩ := Entries.exists_middle_of_take? htake
      have hrest := slots_perm rest _ h.2
      have hname : (recaseKey k).canonical = (recaseKey l).canonical :=
        (canonical_recaseKey ((Key.same_iff_canonical l k).mp hl)).symm
      simp only [slots, Entries.keys, List.map_append, List.map_cons] at hrest ⊢
      rw [hname]
      exact (hrest.cons _).trans List.perm_middle.symm

/-- In the form of a mapping whose keys become different names, each entry can as well stand in
front. -/
lemma canonicalEntries_form_middle {before after : Entries} {l : Key} {w : Value}
    (h : Apart (Entries.keys (before ++ (l, w) :: after))) :
    canonicalEntries (formEntries (before ++ (l, w) :: after)) =
      pushEntry (recaseKey l).canonical (form w).canonical
        (canonicalEntries (formEntries (before ++ after))) := by
  induction before with
  | nil => rw [List.nil_append, List.nil_append, formEntries, canonicalEntries]
  | cons e before ih =>
    obtain ⟨m, x⟩ := e
    simp only [Apart, slots, Entries.keys, List.cons_append, List.map_cons, List.nodup_cons] at h
    obtain ⟨hm, hrest⟩ := h
    -- the name of the entry in front is not the one of the entry in the middle
    have hne : (recaseKey m).canonical ≠ (recaseKey l).canonical := by
      intro heq
      refine hm ?_
      rw [heq]
      simp
    have hrest' := ih hrest
    rw [List.cons_append, List.cons_append, formEntries, formEntries, canonicalEntries,
      canonicalEntries, hrest', pushEntry_comm hne]

/-! ## Storage shapes -/

/-- The canonical forms of siblings, one after the other. -/
lemma canonicalChildren_append (cs ds : List Child) :
    canonicalChildren (cs ++ ds) = canonicalChildren cs ++ canonicalChildren ds := by
  induction cs with
  | nil => rw [canonicalChildren, List.nil_append, List.nil_append]
  | cons c cs ih =>
    rw [List.cons_append, canonicalChildren, canonicalChildren, ih, List.cons_append]

mutual

/-- Nodes that are the same have storage shapes that are the same. -/
theorem toValue_same : (n m : Node) → n.canonical = m.canonical →
    n.toValue.canonical = m.toValue.canonical
  | .mk t c cs, .mk t' c' cs', h => by
    rw [Node.canonical, Node.canonical, Canonical.node.injEq] at h
    obtain ⟨rfl, hc, hcs⟩ := h
    have hvalues := childValues_same cs cs' hcs
    simp only [Node.toValue, Value.canonical, canonicalEntries, hc, hvalues]

/-- Children that are the same have storage shapes that are the same. -/
theorem childValues_same : (cs ds : List Child) → canonicalChildren cs = canonicalChildren ds →
    canonicalValues (Node.childValues cs) = canonicalValues (Node.childValues ds)
  | [], [], _ => rfl
  | [], d :: ds, h => by
    rw [canonicalChildren, canonicalChildren] at h
    cases h
  | .text s :: cs, ds, h => by
    cases ds with
    | nil =>
      rw [canonicalChildren, canonicalChildren] at h
      cases h
    | cons d ds =>
      rw [canonicalChildren, canonicalChildren, List.cons.injEq] at h
      obtain ⟨hd, hrest⟩ := h
      have hvalues := childValues_same cs ds hrest
      cases d with
      | text t =>
        simp only [Child.canonical] at hd
        simp only [Node.childValues, canonicalValues, Value.canonical, hd, hvalues]
      | node m =>
        rw [Child.canonical, Child.canonical, Node.canonical_eq] at hd
        cases hd
  | .node n :: cs, ds, h => by
    cases ds with
    | nil =>
      rw [canonicalChildren, canonicalChildren] at h
      cases h
    | cons d ds =>
      rw [canonicalChildren, canonicalChildren, List.cons.injEq] at h
      obtain ⟨hd, hrest⟩ := h
      have hvalues := childValues_same cs ds hrest
      cases d with
      | text t =>
        rw [Child.canonical, Child.canonical, Node.canonical_eq] at hd
        cases hd
      | node m =>
        have hshape := toValue_same n m hd
        simp only [Node.childValues, canonicalValues, hshape, hvalues]

end

/-! ## Forms -/

mutual

/-- Values that are the same are rendered alike. -/
theorem value_same (v w : Value) (h : v.canonical = w.canonical)
    (hv : Every Apart (valueMappings v)) :
    Every Apart (valueMappings w) ∧ (form v).canonical = (form w).canonical := by
  cases v <;> cases w
  case list.list vs ws =>
    rw [Value.canonical, Value.canonical, Canonical.list.injEq] at h
    obtain ⟨hreached, hforms⟩ := values_same vs ws h hv
    refine ⟨hreached, ?_⟩
    simp only [form, Value.canonical, hforms]
  case tuple.tuple vs ws =>
    rw [Value.canonical, Value.canonical, Canonical.tuple.injEq] at h
    obtain ⟨hreached, hforms⟩ := values_same vs ws h hv
    refine ⟨hreached, ?_⟩
    simp only [form, Value.canonical, hforms]
  case map.map es gs =>
    rw [Value.canonical, Value.canonical, Canonical.map.injEq] at h
    rw [valueMappings, every_cons] at hv ⊢
    obtain ⟨hkeys, hreached, hforms⟩ := entries_same es gs h hv.1 hv.2
    refine ⟨⟨hkeys, hreached⟩, ?_⟩
    simp only [form, Value.canonical, hforms]
  case node.node n m =>
    rw [Value.canonical, Value.canonical] at h
    obtain ⟨hreached, hforms⟩ := node_same n m h hv
    exact ⟨hreached, toValue_same _ _ hforms⟩
  -- neither of two other values reaches a mapping, and they are their own forms
  all_goals first
    | exact ⟨every_nil, h⟩
    | simp only [Value.canonical, Node.canonical_eq, canonicalQuery_eq, reduceCtorEq] at h

/-- The elements of sequences that are the same are rendered alike. -/
theorem values_same : (vs ws : List Value) → canonicalValues vs = canonicalValues ws →
    Every Apart (itemMappings vs) →
    Every Apart (itemMappings ws) ∧ canonicalValues (forms vs) = canonicalValues (forms ws)
  | [], [], _, hvs => ⟨hvs, rfl⟩
  | [], w :: ws, h, _ => by
    rw [canonicalValues, canonicalValues] at h
    cases h
  | v :: vs, [], h, _ => by
    rw [canonicalValues, canonicalValues] at h
    cases h
  | v :: vs, w :: ws, h, hvs => by
    rw [canonicalValues, canonicalValues, List.cons.injEq] at h
    rw [itemMappings, every_append] at hvs ⊢
    obtain ⟨hreached, hform⟩ := value_same v w h.1 hvs.1
    obtain ⟨hreached', hforms⟩ := values_same vs ws h.2 hvs.2
    refine ⟨⟨hreached, hreached'⟩, ?_⟩
    simp only [forms, canonicalValues, hform, hforms]

/-- Mappings that are the same are rendered alike. -/
theorem entries_same : (es gs : List (Key × Value)) → canonicalEntries es = canonicalEntries gs →
    Apart (Entries.keys es) → Every Apart (entryMappings es) →
    Apart (Entries.keys gs) ∧ Every Apart (entryMappings gs) ∧
      canonicalEntries (formEntries es) = canonicalEntries (formEntries gs)
  | [], gs, h, hkeys, hes => by
    rw [canonicalEntries_eq_nil_iff] at h
    rw [h]
    exact ⟨hkeys, hes, rfl⟩
  | (k, v) :: rest, gs, h, hkeys, hes => by
    have hmatched := (Value.agreeEntries_iff ((k, v) :: rest) gs).mpr h
    have hkeys' : Apart (Entries.keys gs) := (slots_perm _ _ hmatched).nodup_iff.mp hkeys
    rw [Value.agreeEntries] at hmatched
    cases htake : Entries.take? gs k with
    | none =>
      rw [htake] at hmatched
      cases hmatched
    | some p =>
      obtain ⟨w, others⟩ := p
      rw [htake, Bool.and_eq_true, Value.agree_iff, Value.agreeEntries_iff] at hmatched
      obtain ⟨before, l, after, rfl, rfl, hl⟩ := Entries.exists_middle_of_take? htake
      have hname : (recaseKey l).canonical = (recaseKey k).canonical :=
        canonical_recaseKey ((Key.same_iff_canonical l k).mp hl)
      rw [entryMappings, every_append] at hes
      obtain ⟨hreached, hform⟩ := value_same v w hmatched.1 hes.1
      have hrest : Apart (Entries.keys rest) := (List.nodup_cons.mp hkeys).2
      obtain ⟨-, hothers, hforms⟩ := entries_same rest (before ++ after) hmatched.2 hrest hes.2
      refine ⟨hkeys', ?_, ?_⟩
      · rw [every_entryMappings] at hothers ⊢
        intro e he
        rcases List.mem_append.mp he with hbefore | hmiddle
        · exact hothers e (List.mem_append_left after hbefore)
        · rcases List.mem_cons.mp hmiddle with rfl | hafter
          · exact hreached
          · exact hothers e (List.mem_append_right before hafter)
      · rw [canonicalEntries_form_middle hkeys', formEntries, canonicalEntries, hname, hform,
          hforms]

/-- Nodes that are the same are rendered alike. -/
theorem node_same : (n m : Node) → n.canonical = m.canonical → Every Apart (nodeMappings n) →
    Every Apart (nodeMappings m) ∧ (formNode n).canonical = (formNode m).canonical
  | .mk type config cs, .mk type' config' ds, h, hn => by
    rw [Node.canonical, Node.canonical, Canonical.node.injEq] at h
    obtain ⟨rfl, hconfig, hchildren⟩ := h
    rw [nodeMappings, every_cons, every_append] at hn ⊢
    obtain ⟨hkeys, hentries, hcs⟩ := hn
    obtain ⟨hkeys', hentries', hforms⟩ := entries_same config config' hconfig hkeys hentries
    obtain ⟨hds, hforms'⟩ := children_same cs ds hchildren hcs
    refine ⟨⟨hkeys', hentries', hds⟩, ?_⟩
    simp only [formNode, Node.canonical, hforms, hforms']

/-- Children that are the same are rendered alike. -/
theorem children_same : (cs ds : List Child) → canonicalChildren cs = canonicalChildren ds →
    Every Apart (childMappings cs) →
    Every Apart (childMappings ds) ∧
      canonicalChildren (formChildren cs) = canonicalChildren (formChildren ds)
  | [], [], _, hcs => ⟨hcs, rfl⟩
  | [], d :: ds, h, _ => by
    rw [canonicalChildren, canonicalChildren] at h
    cases h
  | c :: cs, [], h, _ => by
    rw [canonicalChildren, canonicalChildren] at h
    cases h
  | .text s :: cs, .text t :: ds, h, hcs => by
    rw [canonicalChildren, canonicalChildren, List.cons.injEq] at h
    rw [childMappings] at hcs ⊢
    obtain ⟨hds, hforms⟩ := children_same cs ds h.2 hcs
    refine ⟨hds, ?_⟩
    simp only [formChildren, canonicalChildren, h.1, hforms]
  | .text s :: cs, .node m :: ds, h, _ => by
    simp only [canonicalChildren, Child.canonical, Node.canonical_eq, List.cons.injEq,
      reduceCtorEq, false_and] at h
  | .node n :: cs, .text t :: ds, h, _ => by
    simp only [canonicalChildren, Child.canonical, Node.canonical_eq, List.cons.injEq,
      reduceCtorEq, false_and] at h
  | .node (.mk type config ks) :: cs, .node (.mk type' config' ls) :: ds, h, hcs => by
    simp only [canonicalChildren, Child.canonical, Node.canonical, List.cons.injEq,
      Canonical.node.injEq] at h
    obtain ⟨⟨rfl, hconfig, hinner⟩, hrest⟩ := h
    rw [childMappings] at hcs ⊢
    rw [formChildren, formChildren]
    by_cases htype : type = ""
    · rw [if_pos htype, every_append] at hcs
      obtain ⟨hls, hinner'⟩ := children_same ks ls hinner hcs.1
      obtain ⟨hds, hrest'⟩ := children_same cs ds hrest hcs.2
      rw [if_pos htype, if_pos htype, if_pos htype, every_append, canonicalChildren_append,
        canonicalChildren_append, hinner', hrest']
      exact ⟨⟨hls, hds⟩, rfl⟩
    · rw [if_neg htype, every_cons, every_append, every_append] at hcs
      obtain ⟨hkeys, hentries, hks, hcs⟩ := hcs
      obtain ⟨hkeys', hentries', hforms⟩ := entries_same config config' hconfig hkeys hentries
      obtain ⟨hls, hinner'⟩ := children_same ks ls hinner hks
      obtain ⟨hds, hrest'⟩ := children_same cs ds hrest hcs
      rw [if_neg htype, if_neg htype, if_neg htype, every_cons, every_append, every_append]
      refine ⟨⟨hkeys', hentries', hls, hds⟩, ?_⟩
      simp only [canonicalChildren, Child.canonical, Node.canonical, hforms, hinner', hrest']

end

end Wire

end PageTree
