import Mathlib.Data.List.Nodup
import PageTree.Proofs.Outcome
import PageTree.Proofs.Wire.Collision

/-!
# Member names on the wire

A key is compared with the keys in front of it before it becomes the name of a member.  Keys that
are not texts get their names only when a document is written: `1` becomes `"1"`, nothing becomes
`"null"`.  So two keys may pass as different and still give two members of one name
(`member_named_twice`).

That is the only way in which it happens.  An object of the document is either the storage shape of
a node or comes from a mapping that rendering reaches, and sorting only moves members about; so the
names in all objects are different exactly if, in each mapping that is reached, no key that is not a
text gets the name of another key (`members_apart_iff`).
-/

namespace PageTree

namespace Json

mutual

/-- The objects of a document, each with its members. -/
def objects : Json → List (List (String × Json))
  | .array items => itemObjects items
  | .object members => members :: memberObjects members
  | _ => []

/-- The objects of documents. -/
def itemObjects : List Json → List (List (String × Json))
  | [] => []
  | j :: js => j.objects ++ itemObjects js

/-- The objects of the values of members. -/
def memberObjects : List (String × Json) → List (List (String × Json))
  | [] => []
  | (_, j) :: rest => j.objects ++ memberObjects rest

end

/-- No object of a document has two members of one name. -/
def NamesDistinct (j : Json) : Prop :=
  ∀ members ∈ j.objects, (members.map (·.1)).Nodup

end Json

namespace Wire

/-- The document that is written for a value. -/
def document (sorted : Bool) (v : Value) : Except WireFault Json := do
  let v ← if sorted then v.sortKeys?.mapError .unwritable else .ok v
  v.toJson?.mapError .unwritable

/-- The text that is written is that of the document. -/
lemma write_eq (style : Json.Style) (sorted : Bool) (v : Value) :
    write style sorted v = (·.render style) <$> document sorted v := by
  have hplain : ∀ w : Value, (w.toJson?.mapError WireFault.unwritable >>= fun j =>
      Except.ok (j.render style)) =
      (·.render style) <$> w.toJson?.mapError WireFault.unwritable := by
    intro w
    cases w.toJson?.mapError WireFault.unwritable <;> rfl
  unfold write document
  cases sorted with
  | false => exact hplain v
  | true =>
    cases h : v.sortKeys?.mapError WireFault.unwritable with
    | error e => rfl
    | ok w => exact hplain w

/-! ## Keys of all mappings that are reached -/

/-- The keys of each of the mappings have a property. -/
def Every (P : List Key → Prop) (reached : List Entries) : Prop :=
  ∀ es ∈ reached, P (Entries.keys es)

section Every

variable {P : List Key → Prop}

lemma every_nil : Every P [] := nofun

@[simp] lemma every_append (reached others : List Entries) :
    Every P (reached ++ others) ↔ Every P reached ∧ Every P others :=
  List.forall_mem_append

@[simp] lemma every_cons (es : Entries) (reached : List Entries) :
    Every P (es :: reached) ↔ P (Entries.keys es) ∧ Every P reached :=
  List.forall_mem_cons

/-- What is reached from the values of entries is reached from one of them. -/
lemma every_entryMappings (es : Entries) :
    Every P (entryMappings es) ↔ ∀ e ∈ es, Every P (valueMappings e.2) := by
  induction es with
  | nil => exact iff_of_true every_nil nofun
  | cons e es ih =>
    rw [entryMappings, every_append, ih, List.forall_mem_cons]

/-- Sequences reach what their elements reach. -/
lemma every_itemMappings (vs : List Value) :
    Every P (itemMappings vs) ↔ ∀ v ∈ vs, Every P (valueMappings v) := by
  induction vs with
  | nil => exact iff_of_true every_nil nofun
  | cons v vs ih =>
    rw [itemMappings, every_append, ih, List.forall_mem_cons]

end Every

/-! ## Documents -/

/-- The names that the keys of a mapping get as members. -/
def namesOf (ks : List Key) : List (Except JsonWriteFault String) :=
  ks.map Json.memberName

/-- The names of members. -/
def memberNames (members : List (String × Json)) : List (Except JsonWriteFault String) :=
  members.map fun m => .ok m.1

mutual

/-- The objects of the document of a value are the mappings that are reached from it. -/
theorem objects_of_toJson? : (v : Value) → (j : Json) → v.toJson? = .ok j →
    j.objects.map memberNames = (valueMappings v).map fun es => namesOf (Entries.keys es)
  | .list vs, j, h => by
    obtain ⟨js, hjs, rfl⟩ := (map_eq_ok_iff _ _ _).mp h
    exact objects_of_toJsons? vs js hjs
  | .tuple vs, j, h => by
    obtain ⟨js, hjs, rfl⟩ := (map_eq_ok_iff _ _ _).mp h
    exact objects_of_toJsons? vs js hjs
  | .map es, j, h => by
    obtain ⟨members, hmembers, rfl⟩ := (map_eq_ok_iff _ _ _).mp h
    obtain ⟨hnames, hobjects⟩ := objects_of_toMembers? es members hmembers
    rw [Json.objects, valueMappings, List.map_cons, List.map_cons, hnames, hobjects]
  | .null, j, h | .bool _, j, h | .int _, j, h | .float _, j, h | .str _, j, h => by
    cases h
    rfl
  | .bytes _, j, h | .moment _, j, h | .node _, j, h | .query _, j, h
  | .callable _, j, h => nomatch h

/-- The objects of documents of values. -/
theorem objects_of_toJsons? : (vs : List Value) → (js : List Json) →
    Value.toJsons? vs = .ok js →
    (Json.itemObjects js).map memberNames =
      (itemMappings vs).map fun es => namesOf (Entries.keys es)
  | [], js, h => by
    cases h
    rfl
  | v :: vs, js, h => by
    obtain ⟨j, hj, h⟩ := (bind_eq_ok_iff _ _ _).mp h
    obtain ⟨rest, hrest, h⟩ := (bind_eq_ok_iff _ _ _).mp h
    cases h
    rw [Json.itemObjects, itemMappings, List.map_append, List.map_append,
      objects_of_toJson? v j hj, objects_of_toJsons? vs rest hrest]

/-- Members have the names of the keys, and their values the objects of the values. -/
theorem objects_of_toMembers? : (es : List (Key × Value)) → (members : List (String × Json)) →
    Value.toMembers? es = .ok members →
    memberNames members = namesOf (Entries.keys es) ∧
      (Json.memberObjects members).map memberNames =
        (entryMappings es).map fun es => namesOf (Entries.keys es)
  | [], members, h => by
    cases h
    exact ⟨rfl, rfl⟩
  | (k, v) :: es, members, h => by
    obtain ⟨name, hname, h⟩ := (bind_eq_ok_iff _ _ _).mp h
    obtain ⟨j, hj, h⟩ := (bind_eq_ok_iff _ _ _).mp h
    obtain ⟨rest, hrest, h⟩ := (bind_eq_ok_iff _ _ _).mp h
    cases h
    obtain ⟨hnames, hobjects⟩ := objects_of_toMembers? es rest hrest
    constructor
    · change .ok name :: memberNames rest = Json.memberName k :: namesOf (Entries.keys es)
      rw [hname, hnames]
    · rw [Json.memberObjects, entryMappings, List.map_append, List.map_append,
        objects_of_toJson? v j hj, hobjects]

end

/-- The names in a document are different exactly if those of the keys are, in each mapping that is
reached from its value. -/
lemma namesDistinct_iff {v : Value} {j : Json} (h : v.toJson? = .ok j) :
    j.NamesDistinct ↔ Every (fun ks => (namesOf ks).Nodup) (valueMappings v) := by
  have hobjects : j.NamesDistinct ↔ ∀ names ∈ j.objects.map memberNames, names.Nodup := by
    rw [List.forall_mem_map]
    refine forall₂_congr fun members _ => ?_
    have hinj : Function.Injective (Except.ok : String → Except JsonWriteFault String) :=
      fun _ _ h => Except.ok.inj h
    have hnames : memberNames members = (members.map (·.1)).map .ok := by
      rw [List.map_map]
      rfl
    rw [hnames, List.nodup_map_iff hinj]
  rw [hobjects, objects_of_toJson? v j h, List.forall_mem_map]
  rfl

/-! ## Sorting -/

/-- An insertion only moves entries about. -/
lemma perm_of_insertSorted {e : Key × Value} {es fs : Entries}
    (h : Json.insertSorted e es = some fs) : fs.Perm (e :: es) := by
  induction es generalizing fs with
  | nil =>
    cases h
    exact .refl _
  | cons f es ih =>
    rw [Json.insertSorted] at h
    obtain ⟨o, -, h⟩ := Option.bind_eq_some_iff.mp h
    split at h
    · cases h
      exact .refl _
    · obtain ⟨rest, hrest, h⟩ := Option.bind_eq_some_iff.mp h
      cases h
      exact ((ih hrest).cons f).trans (.swap e f es)

/-- Sorting only moves entries about. -/
lemma perm_of_sortEntries? {es fs : Entries} (h : Json.sortEntries? es = some fs) :
    fs.Perm es := by
  unfold Json.sortEntries? at h
  have hfrom : ∀ (es acc fs : Entries),
      es.foldlM (fun acc e => Json.insertSorted e acc) acc = some fs → fs.Perm (es ++ acc) := by
    intro es
    induction es with
    | nil =>
      intro acc fs h
      cases h
      exact .refl _
    | cons e es ih =>
      intro acc fs h
      rw [List.foldlM_cons] at h
      obtain ⟨next, hnext, h⟩ := Option.bind_eq_some_iff.mp h
      refine (ih next fs h).trans ?_
      exact ((perm_of_insertSorted hnext).append_left es).trans List.perm_middle
  have hperm := hfrom es [] fs h
  rwa [List.append_nil] at hperm

section Sorting

variable {P : List Key → Prop}

mutual

/-- Sorting keeps what the keys of mappings have in any order. -/
theorem every_of_sortKeys? (hP : ∀ ks ls : List Key, ks.Perm ls → (P ks ↔ P ls)) :
    (v w : Value) → v.sortKeys? = .ok w →
    (Every P (valueMappings w) ↔ Every P (valueMappings v))
  | .list vs, w, h => by
    obtain ⟨ws, hws, rfl⟩ := (map_eq_ok_iff _ _ _).mp h
    exact every_of_sortKeysAll? hP vs ws hws
  | .tuple vs, w, h => by
    obtain ⟨ws, hws, rfl⟩ := (map_eq_ok_iff _ _ _).mp h
    exact every_of_sortKeysAll? hP vs ws hws
  | .map es, w, h => by
    obtain ⟨fs, hfs, h⟩ := (bind_eq_ok_iff _ _ _).mp h
    obtain ⟨hkeys, hvalues⟩ := every_of_sortKeysEntries? hP es fs hfs
    split at h
    · rename_i sorted hsorted
      cases h
      have hperm : sorted.Perm fs := perm_of_sortEntries? hsorted
      have hown : P (Entries.keys sorted) ↔ P (Entries.keys es) := by
        rw [← hkeys]
        exact hP _ _ (hperm.map _)
      have hmoved : Every P (entryMappings sorted) ↔ Every P (entryMappings fs) := by
        rw [every_entryMappings, every_entryMappings]
        exact forall_congr' fun e => imp_congr_left hperm.mem_iff
      rw [valueMappings, valueMappings, every_cons, every_cons, hown, hmoved, hvalues]
    · cases h
  | .null, w, h | .bool _, w, h | .int _, w, h | .float _, w, h | .str _, w, h | .bytes _, w, h
  | .moment _, w, h | .node _, w, h | .query _, w, h | .callable _, w, h => by
    cases h
    rfl

/-- Sorting in the elements of a sequence. -/
theorem every_of_sortKeysAll? (hP : ∀ ks ls : List Key, ks.Perm ls → (P ks ↔ P ls)) :
    (vs ws : List Value) → Value.sortKeysAll? vs = .ok ws →
    (Every P (itemMappings ws) ↔ Every P (itemMappings vs))
  | [], ws, h => by
    cases h
    rfl
  | v :: vs, ws, h => by
    obtain ⟨w, hw, h⟩ := (bind_eq_ok_iff _ _ _).mp h
    obtain ⟨rest, hrest, h⟩ := (bind_eq_ok_iff _ _ _).mp h
    cases h
    rw [itemMappings, itemMappings, every_append, every_append, every_of_sortKeys? hP v w hw,
      every_of_sortKeysAll? hP vs rest hrest]

/-- Sorting in the values of entries. -/
theorem every_of_sortKeysEntries?
    (hP : ∀ ks ls : List Key, ks.Perm ls → (P ks ↔ P ls)) :
    (es fs : List (Key × Value)) → Value.sortKeysEntries? es = .ok fs →
    Entries.keys fs = Entries.keys es ∧
      (Every P (entryMappings fs) ↔ Every P (entryMappings es))
  | [], fs, h => by
    cases h
    exact ⟨rfl, .rfl⟩
  | (k, v) :: es, fs, h => by
    obtain ⟨w, hw, h⟩ := (bind_eq_ok_iff _ _ _).mp h
    obtain ⟨rest, hrest, h⟩ := (bind_eq_ok_iff _ _ _).mp h
    cases h
    obtain ⟨hkeys, hvalues⟩ := every_of_sortKeysEntries? hP es rest hrest
    constructor
    · change k :: Entries.keys rest = k :: Entries.keys es
      rw [hkeys]
    · rw [entryMappings, entryMappings, every_append, every_append, every_of_sortKeys? hP v w hw,
        hvalues]

end

end Sorting

/-! ## The wire form -/

/-- The keys of the storage shape of a node. -/
def nodeKeys : List Key :=
  [.str "type", .str "config", .str "children"]

/-- Storage shapes of siblings, one list after the other. -/
lemma childValues_append (cs ds : List Child) :
    Node.childValues (cs ++ ds) = Node.childValues cs ++ Node.childValues ds := by
  induction cs with
  | nil => rfl
  | cons c cs ih =>
    cases c <;> rw [List.cons_append, Node.childValues, ih, Node.childValues, List.cons_append]

section Form

variable {P : List Key → Prop}

/-- The storage shape of a node reaches its own keys, its configuration and its children. -/
lemma every_node (hP : P nodeKeys) (type : String) (config : Entries) (cs : List Child) :
    Every P (valueMappings (Node.mk type config cs).toValue) ↔
      P (Entries.keys config) ∧ Every P (entryMappings config) ∧
        Every P (itemMappings (Node.childValues cs)) := by
  have hkeys : P (Entries.keys [(Key.str "type", Value.str type), (.str "config", .map config),
      (.str "children", .list (Node.childValues cs))]) := hP
  rw [Node.toValue, valueMappings, every_cons, every_entryMappings]
  simp only [List.forall_mem_cons, valueMappings, every_cons, every_nil, true_and, hkeys,
    List.not_mem_nil, false_imp_iff, implies_true, and_true, and_assoc]

mutual

/-- The keys of what is reached from the form of a value are the recased ones. -/
theorem every_form (hP : P nodeKeys) : (v : Value) → (Every P (valueMappings (form v)) ↔
    Every (fun ks => P (ks.map recaseKey)) (valueMappings v))
  | .list vs => by rw [form, valueMappings, valueMappings, every_forms hP vs]
  | .tuple vs => by rw [form, valueMappings, valueMappings, every_forms hP vs]
  | .map es => by
    rw [form, valueMappings, valueMappings, every_cons, every_cons, keys_formEntries,
      every_formEntries hP es]
  | .node n => by rw [form, valueMappings, every_formNode hP n]
  | .null | .bool _ | .int _ | .float _ | .str _ | .bytes _ | .moment _ | .query _
  | .callable _ =>
    iff_of_true every_nil every_nil

/-- The forms of the elements of a sequence. -/
theorem every_forms (hP : P nodeKeys) : (vs : List Value) → (Every P (itemMappings (forms vs)) ↔
    Every (fun ks => P (ks.map recaseKey)) (itemMappings vs))
  | [] => iff_of_true every_nil every_nil
  | v :: vs => by
    rw [forms, itemMappings, itemMappings, every_append, every_append, every_form hP v,
      every_forms hP vs]

/-- The forms of the values of entries. -/
theorem every_formEntries (hP : P nodeKeys) : (es : List (Key × Value)) →
    (Every P (entryMappings (formEntries es)) ↔
      Every (fun ks => P (ks.map recaseKey)) (entryMappings es))
  | [] => iff_of_true every_nil every_nil
  | (k, v) :: es => by
    rw [formEntries, entryMappings, entryMappings, every_append, every_append, every_form hP v,
      every_formEntries hP es]

/-- The storage shape of the form of a node. -/
theorem every_formNode (hP : P nodeKeys) : (n : Node) →
    (Every P (valueMappings (formNode n).toValue) ↔
      Every (fun ks => P (ks.map recaseKey)) (nodeMappings n))
  | .mk type config cs => by
    rw [formNode, every_node hP, nodeMappings, every_cons, every_append, keys_formEntries,
      every_formEntries hP config, every_formChildren hP cs]

/-- The storage shapes of the forms of children. -/
theorem every_formChildren (hP : P nodeKeys) : (cs : List Child) →
    (Every P (itemMappings (Node.childValues (formChildren cs))) ↔
      Every (fun ks => P (ks.map recaseKey)) (childMappings cs))
  | [] => iff_of_true every_nil every_nil
  | .text s :: rest => by
    have htext : valueMappings (.str s) = [] := rfl
    rw [formChildren, Node.childValues, itemMappings, childMappings, htext, List.nil_append,
      every_formChildren hP rest]
  | .node (.mk type config cs) :: rest => by
    have hcs := every_formChildren hP cs
    have hrest := every_formChildren hP rest
    rw [formChildren, childMappings]
    split
    · rw [childValues_append, every_itemMappings, List.forall_mem_append, ← every_itemMappings,
        ← every_itemMappings, every_append, hcs, hrest]
    · rw [Node.childValues, itemMappings, every_append, every_node hP, every_cons, every_append,
        every_append, keys_formEntries, every_formEntries hP config, hcs, hrest]
      simp only [and_assoc]

end

end Form

/-! ## Names that are apart -/

/-- No key of a mapping that is not a text gets the name of another key. -/
def NamesApart (es : Entries) : Prop :=
  (Entries.keys es).Pairwise fun k l =>
    (∃ s t, k = .str s ∧ l = .str t) ∨
      Json.memberName (recaseKey k) ≠ Json.memberName (recaseKey l)

/-- Where no keys collide, the names of all keys are different if they are apart: two texts that do
not become the same key do not get the same name either. -/
lemma nodup_namesOf_iff {es : Entries} (h : ¬ Collides es) :
    (namesOf ((Entries.keys es).map recaseKey)).Nodup ↔ NamesApart es := by
  rw [not_collides_iff] at h
  unfold namesOf NamesApart
  rw [List.map_map, List.nodup_iff_pairwise_ne, List.pairwise_map]
  constructor
  · intro hne
    exact hne.imp fun hkl => .inr hkl
  · intro hapart
    refine (h.and hapart).imp ?_
    rintro k l ⟨hfree, ⟨s, t, rfl, rfl⟩ | hne⟩
    · -- the two texts stay texts, and so they get themselves as names
      intro hname
      have hsame : recase s = recase t := Except.ok.inj hname
      rw [recaseKey, recaseKey, hsame, Key.same_refl] at hfree
      cases hfree
    · exact hne

/-- A tree in storage shape is written as a value. -/
lemma shape_formTree (c : Child) : shape (formTree c) = form c.toValue := by
  cases c with
  | text s => rfl
  | node n => rw [formTree, shape, Child.toValue, form]

/-- Whether or not mappings are sorted, the names in the document of a value are different exactly
if those of the keys are, in each mapping that is reached from the value. -/
lemma namesDistinct_document_iff {sorted : Bool} {v : Value} {j : Json}
    (h : document sorted v = .ok j) :
    j.NamesDistinct ↔ Every (fun ks => (namesOf ks).Nodup) (valueMappings v) := by
  cases sorted with
  | false => exact namesDistinct_iff ((mapError_eq_ok_iff _ _ _).mp h)
  | true =>
    obtain ⟨w, hw, h⟩ := (bind_eq_ok_iff _ _ _).mp h
    rw [mapError_eq_ok_iff] at hw h
    have hperm : ∀ ks ls : List Key, ks.Perm ls → ((namesOf ks).Nodup ↔ (namesOf ls).Nodup) :=
      fun _ _ hks => (hks.map _).nodup_iff
    rw [namesDistinct_iff h, every_of_sortKeys? hperm v w hw]

/-- When a tree is written, the members of every object of the document have different names exactly
if, in every mapping that is reached, no key that is not a text gets the name of another key. -/
theorem names_distinct_iff_apart (style : Json.Style) (sorted : Bool) (c : Child) (text : String)
    (h : toJson style sorted c.toValue = .ok text) :
    ∃ w j, ofValue c.toValue = .ok w ∧ document sorted (shape w) = .ok j ∧
      text = j.render style ∧ (j.NamesDistinct ↔ ∀ es ∈ treeMappings c, NamesApart es) := by
  obtain ⟨w, hw, h⟩ := (bind_eq_ok_iff _ _ _).mp h
  rw [write_eq] at h
  obtain ⟨j, hj, htext⟩ := (map_eq_ok_iff _ _ _).mp h
  refine ⟨w, j, hw, hj, htext.symm, ?_⟩
  rw [ofValue_toValue, tree_eq_ok_iff] at hw
  obtain ⟨hfree, rfl⟩ := hw
  have hreached : treeMappings c = valueMappings c.toValue := by cases c <;> rfl
  have hnode : (namesOf nodeKeys).Nodup := by decide
  rw [namesDistinct_document_iff hj, shape_formTree, every_form hnode, ← hreached]
  exact forall₂_congr fun es hes => nodup_namesOf_iff (hfree es hes)

/-- A node with a text and a number as keys that get different names. -/
def numbered : Child :=
  .node (.mk "x" [(.str "foo_bar", .str "a"), (.int 1, .str "b")] [])

/-- The members of the numbered node have different names. -/
theorem names_distinct_iff_apart_numbered :
    ∃ j : Json, toJson .oneLine false numbered.toValue = .ok (j.render .oneLine) ∧
      j.NamesDistinct := by
  have h : toJson .oneLine false numbered.toValue =
      .ok ((Json.object [("type", .str "x"),
        ("config", .object [("fooBar", .str "a"), ("1", .str "b")]),
        ("children", .array [])]).render .oneLine) := by rfl
  obtain ⟨w, j, -, -, htext, hiff⟩ := names_distinct_iff_apart .oneLine false numbered _ h
  refine ⟨j, htext ▸ h, hiff.mpr fun es hes => ?_⟩
  have hes : es = [(.str "foo_bar", .str "a"), (.int 1, .str "b")] := List.mem_singleton.mp hes
  have hrecased : recaseKey (.str "foo_bar") = .str "fooBar" := by rfl
  have hne : Json.memberName (recaseKey (.str "foo_bar")) ≠
      Json.memberName (recaseKey (.int 1)) := by
    rw [hrecased]
    decide
  subst hes
  refine List.pairwise_cons.mpr ⟨fun k hk => ?_, List.pairwise_singleton _ _⟩
  rw [List.mem_singleton.mp hk]
  exact .inr hne

/-- A node with a text and a number as keys that get one name. -/
def ambiguous : Child :=
  .node (.mk "x" [(.str "1", .str "a"), (.int 1, .str "b")] [])

/-- The ambiguous node is written, and the object of its configuration has two members of one
name. -/
theorem member_named_twice :
    ∃ j : Json, toJson .oneLine false ambiguous.toValue = .ok (j.render .oneLine) ∧
      [("1", .str "a"), ("1", .str "b")] ∈ j.objects ∧ ¬ j.NamesDistinct := by
  have hmem : [("1", Json.str "a"), ("1", .str "b")] ∈ (Json.object [("type", .str "x"),
      ("config", .object [("1", .str "a"), ("1", .str "b")]), ("children", .array [])]).objects :=
    List.mem_cons_of_mem _ List.mem_cons_self
  refine ⟨_, by rfl, hmem, fun h => ?_⟩
  have hnodup := h _ hmem
  revert hnodup
  decide

end Wire

end PageTree
