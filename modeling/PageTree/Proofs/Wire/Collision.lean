import Mathlib.Data.List.Pairwise
import PageTree.Proofs.Wire.Form

/-!
# Rendering fails at the first collision

Two keys of a mapping collide if they become one name.  A rendering fails exactly if a mapping that
it reaches has colliding keys, and what it fails with names the later key of the first such pair, in
the order in which entries are met (`rendering_fails_at_first_collision`).

Which mappings are reached is said without paths: `valueMappings` lists them, and leaves out the
configurations of fragments among children.  The two lists belong together: the entries that are met
are the entries of the mappings that are reached, each behind the keys in front of it
(`value_met_iff`).  Hence an entry whose name is taken is met exactly if a mapping with colliding
keys is reached, and the rest is `settle`.
-/

namespace PageTree.Wire

/-- A key of a mapping becomes the name of a key in front of it. -/
def Collides (es : Entries) : Prop :=
  ∃ earlier k later, Entries.keys es = earlier ++ k :: later ∧
    ∃ l ∈ earlier, (recaseKey l).same (recaseKey k) = true

/-- Keys do not collide exactly if, taken two by two, they become different names. -/
lemma not_collides_iff (es : Entries) :
    ¬ Collides es ↔
      (Entries.keys es).Pairwise fun l k => (recaseKey l).same (recaseKey k) = false := by
  unfold Collides
  induction Entries.keys es with
  | nil =>
    refine iff_of_true ?_ List.Pairwise.nil
    rintro ⟨earlier, k, later, hkeys, -⟩
    cases earlier <;> cases hkeys
  | cons m ks ih =>
    rw [List.pairwise_cons, ← ih]
    constructor
    · intro h
      constructor
      · intro k hk
        obtain ⟨mid, later, rfl⟩ := List.append_of_mem hk
        refine Bool.eq_false_iff.mpr fun hsame => h ?_
        exact ⟨m :: mid, k, later, rfl, m, List.mem_cons_self, hsame⟩
      · rintro ⟨earlier, k, later, rfl, l, hl, hsame⟩
        exact h ⟨m :: earlier, k, later, rfl, l, List.mem_cons_of_mem m hl, hsame⟩
    · rintro ⟨hm, hks⟩ ⟨earlier, k, later, hkeys, l, hl, hsame⟩
      cases earlier with
      | nil => cases hl
      | cons m' earlier =>
        rw [List.cons_append, List.cons.injEq] at hkeys
        obtain ⟨rfl, rfl⟩ := hkeys
        rcases List.mem_cons.mp hl with rfl | hl
        · have hfree := hm k (List.mem_append_right _ List.mem_cons_self)
          rw [hsame] at hfree
          cases hfree
        · exact hks ⟨earlier, k, later, rfl, l, hl, hsame⟩

/-- In a mapping, where each key is listed once, keys collide exactly if two different ones become
the same name. -/
lemma collides_iff {es : Entries} (h : Entries.Distinct es) :
    Collides es ↔ ∃ k ∈ Entries.keys es, ∃ l ∈ Entries.keys es,
      k.same l = false ∧ (recaseKey k).same (recaseKey l) = true := by
  constructor
  · rintro ⟨earlier, k, later, hkeys, l, hl, hsame⟩
    unfold Entries.Distinct at h
    rw [hkeys, List.pairwise_append] at h
    have hne : l.same k = false := h.2.2 l hl k List.mem_cons_self
    rw [hkeys]
    exact ⟨l, List.mem_append_left _ hl, k, List.mem_append_right _ List.mem_cons_self, hne, hsame⟩
  · rintro ⟨k, hk, l, hl, hne, hsame⟩
    by_contra hfree
    rw [not_collides_iff] at hfree
    -- it does not matter which of the two keys stands in front
    have hsymm : Std.Symm fun l k : Key => (recaseKey l).same (recaseKey k) = false := by
      refine ⟨fun m o hmo => ?_⟩
      rw [Key.same_comm]
      exact hmo
    have hdiff : k ≠ l := by
      rintro rfl
      rw [Key.same_refl] at hne
      cases hne
    rw [hfree.forall hk hl hdiff] at hsame
    cases hsame

/-! ## The mappings that are reached -/

mutual

/-- The mappings that rendering a value reaches. -/
def valueMappings : Value → List Entries
  | .list vs => itemMappings vs
  | .tuple vs => itemMappings vs
  | .map es => es :: entryMappings es
  | .node n => nodeMappings n
  | _ => []

/-- The mappings that rendering the elements of a sequence reaches. -/
def itemMappings : List Value → List Entries
  | [] => []
  | v :: vs => valueMappings v ++ itemMappings vs

/-- The mappings that rendering the values of entries reaches. -/
def entryMappings : List (Key × Value) → List Entries
  | [] => []
  | (_, v) :: rest => valueMappings v ++ entryMappings rest

/-- The mappings that rendering a node reaches, its configuration among them. -/
def nodeMappings : Node → List Entries
  | .mk _ config cs => config :: (entryMappings config ++ childMappings cs)

/-- The mappings that rendering children reaches; the configuration of a fragment is not. -/
def childMappings : List Child → List Entries
  | [] => []
  | .text _ :: rest => childMappings rest
  | .node (.mk type config cs) :: rest =>
    if type = "" then childMappings cs ++ childMappings rest
    else config :: (entryMappings config ++ (childMappings cs ++ childMappings rest))

end

/-- The mappings that siblings reach, one after the other. -/
lemma childMappings_append (cs ds : List Child) :
    childMappings (cs ++ ds) = childMappings cs ++ childMappings ds := by
  induction cs with
  | nil => rfl
  | cons c cs ih =>
    rcases c with s | ⟨type, config, ks⟩
    · rw [List.cons_append, childMappings, childMappings, ih]
    · rw [List.cons_append, childMappings, childMappings, ih]
      split <;> simp only [List.cons_append, List.append_assoc]

/-- The mappings that rendering a tree reaches. -/
def treeMappings : Child → List Entries
  | .text _ => []
  | .node n => nodeMappings n

/-! ## Entries that are met and entries that are listed -/

/-- A key is met behind some keys. -/
def Met (sites : List Site) (earlier : List Key) (k : Key) : Prop :=
  ∃ s ∈ sites, s.earlier = earlier ∧ s.key = k

/-- A key is listed behind some keys in one of the mappings. -/
def Listed (reached : List Entries) (earlier : List Key) (k : Key) : Prop :=
  ∃ es ∈ reached, ∃ later, Entries.keys es = earlier ++ k :: later

/-- A key is listed behind some keys if these begin with `front`, and the rest of them and it with
what follows it are the keys of the entries. -/
def Behind (front : List Key) (es : Entries) (earlier : List Key) (k : Key) : Prop :=
  ∃ mid later, Entries.keys es = mid ++ k :: later ∧ earlier = front ++ mid

section Lists

variable {earlier : List Key} {k : Key}

lemma not_met_nil : ¬ Met [] earlier k := by
  rintro ⟨s, hs, -⟩
  cases hs

lemma met_append (sites others : List Site) :
    Met (sites ++ others) earlier k ↔ Met sites earlier k ∨ Met others earlier k := by
  simp only [Met, List.mem_append, or_and_right, exists_or]

lemma met_cons (s : Site) (sites : List Site) :
    Met (s :: sites) earlier k ↔ (s.earlier = earlier ∧ s.key = k) ∨ Met sites earlier k := by
  simp only [Met, List.mem_cons, or_and_right, exists_or, exists_eq_left]

lemma not_listed_nil : ¬ Listed [] earlier k := by
  rintro ⟨es, hes, -⟩
  cases hes

lemma listed_append (reached others : List Entries) :
    Listed (reached ++ others) earlier k ↔ Listed reached earlier k ∨ Listed others earlier k := by
  simp only [Listed, List.mem_append, or_and_right, exists_or]

/-- The keys of a first mapping stand behind nothing. -/
lemma listed_cons (es : Entries) (reached : List Entries) :
    Listed (es :: reached) earlier k ↔ Behind [] es earlier k ∨ Listed reached earlier k := by
  simp only [Listed, Behind, List.mem_cons, or_and_right, exists_or, exists_eq_left,
    List.nil_append]
  constructor
  · rintro (⟨later, h⟩ | h)
    · exact .inl ⟨earlier, later, h, rfl⟩
    · exact .inr h
  · rintro (⟨mid, later, h, rfl⟩ | h)
    · exact .inl ⟨later, h⟩
    · exact .inr h

lemma not_behind_nil (front : List Key) : ¬ Behind front [] earlier k := by
  rintro ⟨mid, later, h, -⟩
  cases mid <;> cases h

/-- The first entry stands behind `front`, the others behind its key too. -/
lemma behind_cons (front : List Key) (l : Key) (v : Value) (rest : Entries) :
    Behind front ((l, v) :: rest) earlier k ↔
      (front = earlier ∧ l = k) ∨ Behind (front ++ [l]) rest earlier k := by
  have hkeys : Entries.keys ((l, v) :: rest) = l :: Entries.keys rest := rfl
  unfold Behind
  rw [hkeys]
  constructor
  · rintro ⟨mid, later, h, rfl⟩
    cases mid with
    | nil =>
      rw [List.nil_append, List.cons.injEq] at h
      exact .inl ⟨(List.append_nil front).symm, h.1⟩
    | cons m mid =>
      rw [List.cons_append, List.cons.injEq] at h
      refine .inr ⟨mid, later, h.2, ?_⟩
      rw [h.1, List.append_assoc, List.singleton_append]
  · rintro (⟨rfl, rfl⟩ | ⟨mid, later, h, rfl⟩)
    · exact ⟨[], Entries.keys rest, rfl, (List.append_nil front).symm⟩
    · refine ⟨l :: mid, later, ?_, ?_⟩
      · rw [h, List.cons_append]
      · rw [List.append_assoc, List.singleton_append]

end Lists

section Met

variable (earlier : List Key) (k : Key)

mutual

/-- What is met in a value is what the mappings list that are reached from it. -/
theorem value_met_iff (path : String) : (v : Value) →
    (Met (valueSites path v) earlier k ↔ Listed (valueMappings v) earlier k)
  | .list vs => by rw [valueSites, valueMappings, items_met_iff path 0 vs]
  | .tuple vs => by rw [valueSites, valueMappings, items_met_iff path 0 vs]
  | .map es => by rw [valueSites, valueMappings, listed_cons, entries_met_iff path [] es]
  | .node n => by rw [valueSites, valueMappings, node_met_iff path n]
  | .null => iff_of_false not_met_nil not_listed_nil
  | .bool _ => iff_of_false not_met_nil not_listed_nil
  | .int _ => iff_of_false not_met_nil not_listed_nil
  | .float _ => iff_of_false not_met_nil not_listed_nil
  | .str _ => iff_of_false not_met_nil not_listed_nil
  | .bytes _ => iff_of_false not_met_nil not_listed_nil
  | .moment _ => iff_of_false not_met_nil not_listed_nil
  | .query _ => iff_of_false not_met_nil not_listed_nil
  | .callable _ => iff_of_false not_met_nil not_listed_nil

/-- What is met in the elements of a sequence. -/
theorem items_met_iff (path : String) (i : Nat) : (vs : List Value) →
    (Met (itemSites path i vs) earlier k ↔ Listed (itemMappings vs) earlier k)
  | [] => iff_of_false not_met_nil not_listed_nil
  | v :: vs => by
    rw [itemSites, itemMappings, met_append, listed_append, value_met_iff (itemPath path i) v,
      items_met_iff path (i + 1) vs]

/-- What is met in the entries of a mapping behind some keys of it. -/
theorem entries_met_iff (path : String) (front : List Key) : (es : List (Key × Value)) →
    (Met (entrySites path front es) earlier k ↔
      Behind front es earlier k ∨ Listed (entryMappings es) earlier k)
  | [] => by
    rw [entrySites, entryMappings]
    exact iff_of_false not_met_nil (not_or.mpr ⟨not_behind_nil front, not_listed_nil⟩)
  | (l, v) :: rest => by
    rw [entrySites, entryMappings, met_cons, met_append, behind_cons, listed_append,
      value_met_iff (entryPath path l) v, entries_met_iff path (front ++ [l]) rest]
    tauto

/-- What is met in a node. -/
theorem node_met_iff (path : String) : (n : Node) →
    (Met (nodeSites path n) earlier k ↔ Listed (nodeMappings n) earlier k)
  | .mk type config cs => by
    rw [nodeSites, nodeMappings, met_append, listed_cons, listed_append,
      entries_met_iff (path ++ ".config") [] config, children_met_iff (path ++ ".children") 0 cs,
      or_assoc]

/-- What is met in children. -/
theorem children_met_iff (path : String) (i : Nat) : (cs : List Child) →
    (Met (childSites path i cs) earlier k ↔ Listed (childMappings cs) earlier k)
  | [] => iff_of_false not_met_nil not_listed_nil
  | .text s :: rest => by rw [childSites, childMappings, children_met_iff path (i + 1) rest]
  | .node (.mk type config cs) :: rest => by
    have hcs := children_met_iff (itemPath path i ++ ".children") 0 cs
    have hrest := children_met_iff path (i + 1) rest
    rw [childSites, childMappings]
    split
    · rw [met_append, listed_append, hcs, hrest]
    · rw [met_append, met_append, listed_cons, listed_append, listed_append,
        entries_met_iff (itemPath path i ++ ".config") [] config, hcs, hrest, or_assoc]

end

end Met

/-! ## The first collision -/

/-- A rendering fails exactly if one of the mappings that it reaches has colliding keys.  It meets
the entries of these mappings in the order of the sites, and it fails with the collision at the
first of them whose name is taken. -/
structure FailsAtFirst {α : Type} (x : Except WireFault α) (reached : List Entries)
    (sites : List Site) : Prop where
  /-- There is a failure exactly if there is a collision. -/
  fails_iff : (∃ e, x = .error e) ↔ ∃ es ∈ reached, Collides es
  /-- The sites are the entries of the mappings that are reached. -/
  met_iff : ∀ earlier k, Met sites earlier k ↔ Listed reached earlier k
  /-- A failure is the collision at a site whose name is taken, behind sites whose names are
  free. -/
  first : ∀ e, x = .error e → ∃ before s after l, sites = before ++ s :: after ∧
    (∀ t ∈ before, ∀ m ∈ t.earlier, (recaseKey m).same (recaseKey t.key) = false) ∧
    l ∈ s.earlier ∧ (recaseKey l).same (recaseKey s.key) = true ∧
    e = .collision l s.key (recaseKey s.key) (entryPath s.path s.key)

namespace Site

/-- The name of an entry is free if no key in front becomes it. -/
lemma fault?_eq_none_iff (s : Site) :
    s.fault? = none ↔ ∀ l ∈ s.earlier, (recaseKey l).same (recaseKey s.key) = false := by
  rw [fault?, rival?, Option.map_eq_none_iff, List.find?_eq_none]
  simp only [Bool.not_eq_true]

/-- A fault is the collision with a key in front. -/
lemma exists_of_fault? {s : Site} {e : WireFault} (h : s.fault? = some e) :
    ∃ l ∈ s.earlier, (recaseKey l).same (recaseKey s.key) = true ∧
      e = .collision l s.key (recaseKey s.key) (entryPath s.path s.key) := by
  rw [fault?, rival?, Option.map_eq_some_iff] at h
  obtain ⟨l, hl, rfl⟩ := h
  have hsame : (recaseKey l).same (recaseKey s.key) = true := by
    simpa only using List.find?_some hl
  exact ⟨l, List.mem_of_find?_eq_some hl, hsame, rfl⟩

end Site

/-- An entry whose name is taken is met exactly if a mapping with colliding keys is reached. -/
lemma exists_fault_iff {sites : List Site} {reached : List Entries}
    (h : ∀ earlier k, Met sites earlier k ↔ Listed reached earlier k) :
    (∃ s ∈ sites, s.fault? ≠ none) ↔ ∃ es ∈ reached, Collides es := by
  constructor
  · rintro ⟨s, hs, hfault⟩
    obtain ⟨e, he⟩ := Option.ne_none_iff_exists'.mp hfault
    obtain ⟨l, hl, hsame, -⟩ := Site.exists_of_fault? he
    obtain ⟨es, hes, later, hkeys⟩ := (h s.earlier s.key).mp ⟨s, hs, rfl, rfl⟩
    exact ⟨es, hes, s.earlier, s.key, later, hkeys, l, hl, hsame⟩
  · rintro ⟨es, hes, earlier, k, later, hkeys, l, hl, hsame⟩
    obtain ⟨s, hs, rfl, rfl⟩ := (h earlier k).mpr ⟨es, hes, later, hkeys⟩
    refine ⟨s, hs, fun hnone => ?_⟩
    have hfree := (Site.fault?_eq_none_iff s).mp hnone l hl
    rw [hsame] at hfree
    cases hfree

/-- What is settled by its sites is there exactly if no mapping that is reached has colliding
keys. -/
lemma settle_eq_ok_iff_of_met {α : Type} {sites : List Site} {reached : List Entries}
    (h : ∀ earlier k, Met sites earlier k ↔ Listed reached earlier k) {a b : α} :
    settle sites a = .ok b ↔ (∀ es ∈ reached, ¬ Collides es) ∧ b = a := by
  have hfaults := not_congr (exists_fault_iff h)
  push Not at hfaults
  rw [settle_eq_ok_iff, hfaults]

/-- What is settled by its sites fails at the first collision. -/
lemma failsAtFirst_settle {α : Type} {sites : List Site} {reached : List Entries}
    (h : ∀ earlier k, Met sites earlier k ↔ Listed reached earlier k) (a : α) :
    FailsAtFirst (settle sites a) reached sites where
  fails_iff := by
    rw [← exists_fault_iff h]
    constructor
    · rintro ⟨e, he⟩
      obtain ⟨before, s, after, hsites, hfault, -⟩ := settle_eq_error_iff.mp he
      refine ⟨s, ?_, ?_⟩
      · rw [hsites]
        exact List.mem_append_right _ List.mem_cons_self
      · rw [hfault]
        exact Option.some_ne_none e
    · rintro ⟨s, hs, hfault⟩
      cases hx : settle sites a with
      | error e => exact ⟨e, rfl⟩
      | ok b => exact absurd ((settle_eq_ok_iff.mp hx).1 s hs) hfault
  met_iff := h
  first := by
    intro e he
    obtain ⟨before, s, after, hsites, hfault, hbefore⟩ := settle_eq_error_iff.mp he
    obtain ⟨l, hl, hsame, hcollision⟩ := Site.exists_of_fault? hfault
    exact ⟨before, s, after, l, hsites,
      fun t ht => (Site.fault?_eq_none_iff t).mp (hbefore t ht), hl, hsame, hcollision⟩

/-- What is met in a tree is what the mappings list that are reached from it. -/
lemma tree_met_iff (path : String) (c : Child) (earlier : List Key) (k : Key) :
    Met (treeSites path c) earlier k ↔ Listed (treeMappings c) earlier k := by
  cases c with
  | text s => exact iff_of_false not_met_nil not_listed_nil
  | node n => exact node_met_iff earlier k path n

/-- A tree has a wire form exactly if no mapping that is reached has colliding keys. -/
theorem tree_eq_ok_iff (path : String) {c w : Child} :
    tree path c = .ok w ↔ (∀ es ∈ treeMappings c, ¬ Collides es) ∧ w = formTree c := by
  rw [tree_eq, settle_eq_ok_iff_of_met (tree_met_iff path c)]

/-- Siblings have a wire form exactly if no mapping that is reached has colliding keys. -/
theorem children_eq_ok_iff (path : String) (i : Nat) {cs ws : List Child} :
    children path i cs = .ok ws ↔
      (∀ es ∈ childMappings cs, ¬ Collides es) ∧ ws = formChildren cs := by
  rw [children_eq, settle_eq_ok_iff_of_met fun earlier k => children_met_iff earlier k path i cs]

/-- A value that is a tree is rendered as that tree. -/
lemma ofValue_toValue (c : Child) : ofValue c.toValue = tree rootPath c := by
  cases c <;> rfl

/-- Every tree and every list of siblings, whatever the resolution made them of, fails to be
rendered exactly if a mapping that is reached has two different keys that become one name, and then
with the collision at the first entry whose name is taken. -/
theorem rendering_fails_at_first_collision :
    (∀ c : Child, FailsAtFirst (ofValue c.toValue) (treeMappings c) (treeSites rootPath c)) ∧
    (∀ cs : List Child, FailsAtFirst (siblingsOf (cs.map Child.toValue)) (childMappings cs)
      (childSites "children" 0 cs)) ∧
    ∀ es : Entries, Entries.Distinct es →
      (Collides es ↔ ∃ k ∈ Entries.keys es, ∃ l ∈ Entries.keys es,
        k.same l = false ∧ (recaseKey k).same (recaseKey l) = true) := by
  refine ⟨fun c => ?_, fun cs => ?_, fun es hes => collides_iff hes⟩
  · rw [ofValue_toValue, tree_eq]
    exact failsAtFirst_settle (tree_met_iff rootPath c) _
  · rw [siblingsOf, siblingsFrom_eq]
    exact failsAtFirst_settle (fun earlier k => children_met_iff earlier k "children" 0 cs) _

/-- A mapping with two keys that become the name `fooBar`. -/
def doubled : Entries :=
  [(.str "foo_bar", .int 1), (.str "fooBar", .int 2)]

/-- The node with the doubled name in its configuration is not rendered. -/
theorem rendering_fails_at_first_collision_doubled :
    Entries.Distinct doubled ∧ Collides doubled ∧
      ∃ e, ofValue (.node (.mk "box" doubled [])) = .error e := by
  obtain ⟨htree, -, hcollides⟩ := rendering_fails_at_first_collision
  have hdistinct : Entries.Distinct doubled := by
    unfold Entries.Distinct
    decide
  have hnames : (recaseKey (.str "foo_bar")).same (recaseKey (.str "fooBar")) = true := by rfl
  have h : Collides doubled :=
    (hcollides doubled hdistinct).mpr ⟨.str "foo_bar", List.mem_cons_self, .str "fooBar",
      List.mem_cons_of_mem _ List.mem_cons_self, by decide, hnames⟩
  refine ⟨hdistinct, h, ?_⟩
  exact (htree (.node (.mk "box" doubled []))).fails_iff.mpr ⟨doubled, List.mem_cons_self, h⟩

end PageTree.Wire
