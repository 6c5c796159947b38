import PageTree.Node.Builder
import PageTree.Proofs.Node.Full
import PageTree.Proofs.Value.Entries

/-!
# The storage shape of nodes

Reading and writing of nodes.  `Storable` is the grammar of the data that are read: a node, or a
mapping with a text for its type whose configuration and children may be missing or empty.  These
are the data that `Node.ofValue` reads, and no others (`exists_ofValue_iff`).

A list of children is read element by element (`childrenOfList_append_eq_ok_iff`), and children that
are written are read back (`childrenOfList_map_toValue`, `childrenOfList_childValues`).  So a full
node is read back as it was written (`ofValue_toValue`), with its configuration in order.
-/

namespace PageTree

namespace Node

/-! ## Children one after the other -/

/-- The first element of a list stands for its children, and the others stand for theirs. -/
lemma childrenOfList_cons_eq_ok_iff (v : Value) (vs : List Value) (cs : List Child) :
    childrenOfList (v :: vs) = .ok cs ↔
      ∃ as bs, childrenOfList [v] = .ok as ∧ childrenOfList vs = .ok bs ∧ cs = as ++ bs := by
  cases v with
  | null => simp [childrenOfList]
  | str s =>
    cases hvs : childrenOfList vs with
    | error e => simp [childrenOfList, hvs]
    | ok bs => by_cases hs : s = "" <;> simp [childrenOfList, hvs, hs, eq_comm]
  | node n =>
    cases hvs : childrenOfList vs with
    | error e => simp [childrenOfList, hvs]
    | ok bs => simp [childrenOfList, hvs, eq_comm]
  | map es =>
    cases hn : ofValue (.map es) with
    | error e => simp [childrenOfList, hn]
    | ok n =>
      cases hvs : childrenOfList vs with
      | error e => simp [childrenOfList, hn, hvs]
      | ok bs => simp [childrenOfList, hn, hvs, eq_comm]
  | _ => simp [childrenOfList]

/-- The elements of two lists stand for the children of the one and then those of the other. -/
lemma childrenOfList_append_eq_ok_iff (vs ws : List Value) (cs : List Child) :
    childrenOfList (vs ++ ws) = .ok cs ↔
      ∃ as bs, childrenOfList vs = .ok as ∧ childrenOfList ws = .ok bs ∧ cs = as ++ bs := by
  induction vs generalizing cs with
  | nil => simp [childrenOfList]
  | cons v vs ih =>
    rw [List.cons_append, childrenOfList_cons_eq_ok_iff]
    constructor
    · rintro ⟨first, others, hfirst, hothers, rfl⟩
      obtain ⟨as, bs, has, hbs, rfl⟩ := (ih others).mp hothers
      refine ⟨first ++ as, bs, ?_, hbs, (List.append_assoc _ _ _).symm⟩
      exact (childrenOfList_cons_eq_ok_iff _ _ _).mpr ⟨first, as, hfirst, has, rfl⟩
    · rintro ⟨cs, bs, hcs, hbs, rfl⟩
      obtain ⟨first, as, hfirst, has, rfl⟩ := (childrenOfList_cons_eq_ok_iff _ _ _).mp hcs
      exact ⟨first, as ++ bs, hfirst, (ih _).mpr ⟨as, bs, has, hbs, rfl⟩, List.append_assoc _ _ _⟩

/-- Children that are no empty texts are read as themselves. -/
lemma childrenOfList_map_toValue {cs : List Child} (h : ∀ c ∈ cs, c.isEmpty = false) :
    childrenOfList (cs.map Child.toValue) = .ok cs := by
  induction cs with
  | nil => rfl
  | cons c cs ih =>
    rw [List.forall_mem_cons] at h
    rw [List.map_cons, childrenOfList_cons_eq_ok_iff]
    refine ⟨[c], cs, ?_, ih h.2, rfl⟩
    cases c with
    | text s =>
      have hs : s ≠ "" := beq_eq_false_iff_ne.mp h.1
      simp [Child.toValue, childrenOfList, hs]
    | node n => rfl

/-- Keys stand for the same children as their values do. -/
lemma childrenOfKeys_eq (ks : List Key) :
    childrenOfKeys ks = childrenOfList (ks.map Key.toValue) := by
  induction ks with
  | nil => rfl
  | cons k ks ih =>
    cases k with
    | null => exact ih
    | str s =>
      rw [childrenOfKeys, ih, List.map_cons, Key.toValue, childrenOfList]
      cases childrenOfList (ks.map Key.toValue) <;> rfl
    | _ => rfl

/-- A list can be read as children if each of its elements is nothing, a text or read as a node. -/
lemma exists_childrenOfList_iff (vs : List Value) :
    (∃ cs, childrenOfList vs = .ok cs) ↔
      ∀ v ∈ vs, v ≠ .null → (∀ s, v ≠ .str s) → ∃ n, ofValue v = .ok n := by
  induction vs with
  | nil => exact iff_of_true ⟨[], rfl⟩ nofun
  | cons v vs ih =>
    have hfirst : (∃ cs, childrenOfList [v] = .ok cs) ↔
        (v ≠ .null → (∀ s, v ≠ .str s) → ∃ n, ofValue v = .ok n) := by
      cases v with
      | null => simp [childrenOfList]
      | str s => simp [childrenOfList]
      | node n => simp [childrenOfList, ofValue]
      | map es => cases hn : ofValue (.map es) <;> simp [childrenOfList, hn]
      | _ => simp [childrenOfList, ofValue]
    rw [List.forall_mem_cons, ← ih, ← hfirst]
    constructor
    · rintro ⟨cs, hcs⟩
      obtain ⟨as, bs, has, hbs, -⟩ := (childrenOfList_cons_eq_ok_iff _ _ _).mp hcs
      exact ⟨⟨as, has⟩, bs, hbs⟩
    · rintro ⟨⟨as, has⟩, bs, hbs⟩
      exact ⟨as ++ bs, (childrenOfList_cons_eq_ok_iff _ _ _).mpr ⟨as, bs, has, hbs, rfl⟩⟩

/-! ## The grammar -/

/-- The type that entries give: the text under `type`, or else that under `name`, or else the empty
text. -/
def GivesType (entries : Entries) (type : String) : Prop :=
  Entries.find? entries "type" = some (.str type) ∨
    Entries.find? entries "type" = none ∧
      (Entries.find? entries "name" = some (.str type) ∨
        Entries.find? entries "name" = none ∧ type = "")

/-- A value can stand for a configuration: it counts as false, or it is a mapping. -/
def IsConfig (v : Value) : Prop :=
  v.truthy = false ∨ ∃ entries, v = .map entries

/-- The elements of a value that can stand for children: none if it counts as false, and otherwise
those of a collection other than a text or octets. -/
inductive Lists (v : Value) : List Value → Prop where
  | empty (h : v.truthy = false) : Lists v []
  | collection (vs : List Value) (h : v.elements? = some vs) (htext : ∀ s, v ≠ .str s)
      (hbytes : ∀ bs, v ≠ .bytes bs) : Lists v vs

/-- The data of a node.  A node stands for itself. -/
inductive Storable : Value → Prop where
  | node (n : Node) : Storable (.node n)
  | map (entries : Entries) (type : String) (vs : List Value) (htype : GivesType entries type)
      (hconfig : IsConfig (Entries.lookup entries "config"))
      (hlists : Lists (Entries.lookup entries "children") vs)
      (hchildren : ∀ v ∈ vs, v ≠ .null → (∀ s, v ≠ .str s) → Storable v) :
      Storable (.map entries)

/-- The type of a node is a text exactly if entries give it. -/
lemma checkType_typeEntry_iff (entries : Entries) (s : String) :
    checkType (typeEntry entries) = .ok s ↔ GivesType entries s := by
  have htext : ∀ v, checkType v = .ok s ↔ v = .str s := by
    intro v
    cases v <;> simp [checkType]
  rw [htext, typeEntry, GivesType]
  cases Entries.find? entries "type" with
  | some t => simp
  | none => cases Entries.find? entries "name" <;> simp [eq_comm]

/-- What can stand for a configuration is checked to be one. -/
lemma exists_checkConfig_iff (type : String) (v : Value) :
    (∃ config, checkConfig type (v.orElse (.map [])) = .ok config) ↔ IsConfig v := by
  rw [Value.orElse, IsConfig]
  by_cases h : v.truthy = true
  · rw [if_pos h]
    cases v <;> simp [checkConfig, h]
  · rw [if_neg h]
    exact iff_of_true ⟨[], rfl⟩ (.inl (Bool.eq_false_iff.mpr h))

/-- The children of a node are checked exactly if they are listed. -/
lemma checkChildren_eq_ok_iff (type v : Value) :
    checkChildren type v = .ok () ↔ ∃ vs, Lists v vs := by
  constructor
  · intro h
    by_cases hv : v.truthy = true
    · cases v with
      | list vs => exact ⟨vs, .collection _ rfl nofun nofun⟩
      | tuple vs => exact ⟨vs, .collection _ rfl nofun nofun⟩
      | map es => exact ⟨_, .collection _ rfl nofun nofun⟩
      | _ => simp [checkChildren, hv] at h
    · exact ⟨[], .empty (Bool.eq_false_iff.mpr hv)⟩
  · rintro ⟨vs, hvs⟩
    cases hvs with
    | empty h => cases v <;> simp [checkChildren, h]
    | collection _ h htext hbytes =>
      cases v with
      | list | tuple | map => rfl
      | str s => exact absurd rfl (htext s)
      | bytes bs => exact absurd rfl (hbytes bs)
      | _ => cases h

/-- A value that counts as false stands for no children. -/
lemma childrenOf_of_not_truthy {v : Value} (h : v.truthy = false) : childrenOf v = .ok [] := by
  cases v with
  | str s =>
    have hs : s = "" := by simpa [Value.truthy] using h
    rw [hs]
    rfl
  | bytes bs =>
    cases bs with
    | nil => rfl
    | cons => cases h
  | list vs =>
    cases vs with
    | nil => rfl
    | cons => cases h
  | tuple vs =>
    cases vs with
    | nil => rfl
    | cons => cases h
  | map es =>
    cases es with
    | nil => rfl
    | cons => cases h
  | _ => simp [childrenOf, h]

/-- The children of a node are read from the list of them. -/
lemma Lists.childrenOf_eq {v : Value} {vs : List Value} (h : Lists v vs) :
    childrenOf v = childrenOfList vs := by
  cases h with
  | empty h => exact childrenOf_of_not_truthy h
  | collection _ h htext hbytes =>
    cases v with
    | list vs =>
      cases h
      rfl
    | tuple vs =>
      cases h
      rfl
    | map es =>
      cases h
      rw [childrenOf, childrenOfKeys_eq]
    | str s => exact absurd rfl (htext s)
    | bytes bs => exact absurd rfl (hbytes bs)
    | _ => cases h

/-- The children of a node are read from the first entry for them. -/
lemma childrenEntry_eq (entries : List (Key × Value)) :
    childrenEntry entries = childrenOf (Entries.lookup entries "children") :=
  Entries.eq_lookup rfl (fun _ _ _ => by rw [childrenEntry]) entries

/-- The type and the configuration of a node are given if its parts are in order. -/
lemma header_eq_ok_iff (entries : Entries) (type : String) (config : Entries) :
    header entries = .ok (type, config) ↔
      (∃ vs, Lists (Entries.lookup entries "children") vs) ∧ GivesType entries type ∧
        checkConfig type ((Entries.lookup entries "config").orElse (.map [])) = .ok config := by
  rw [← checkChildren_eq_ok_iff (typeEntry entries), ← checkType_typeEntry_iff]
  constructor
  · intro h
    obtain ⟨u, hchildren, h⟩ := (bind_eq_ok_iff _ _ _).mp h
    obtain ⟨t, htype, h⟩ := (bind_eq_ok_iff _ _ _).mp h
    obtain ⟨c, hconfig, h⟩ := (bind_eq_ok_iff _ _ _).mp h
    cases h
    exact ⟨hchildren, htype, hconfig⟩
  · rintro ⟨hchildren, htype, hconfig⟩
    refine (bind_eq_ok_iff _ _ _).mpr ⟨(), hchildren, ?_⟩
    refine (bind_eq_ok_iff _ _ _).mpr ⟨type, htype, ?_⟩
    exact (bind_eq_ok_iff _ _ _).mpr ⟨config, hconfig, rfl⟩

/-- A mapping is read as a node made of its parts. -/
lemma ofValue_map_eq_ok_iff (entries : Entries) (n : Node) :
    ofValue (.map entries) = .ok n ↔
      ∃ type config cs, header entries = .ok (type, config) ∧
        childrenOf (Entries.lookup entries "children") = .ok cs ∧ n = .mk type config cs := by
  rw [ofValue, ← childrenEntry_eq]
  cases header entries with
  | error e => simp
  | ok h =>
    obtain ⟨type, config⟩ := h
    cases childrenEntry entries with
    | error e => simp
    | ok cs => simp [eq_comm]

/-- A mapping is read as a node if it gives a type and what can stand for a configuration, and if
its children are listed and can be read. -/
lemma exists_ofValue_map_iff (entries : Entries) :
    (∃ n, ofValue (.map entries) = .ok n) ↔
      ∃ type vs, GivesType entries type ∧ IsConfig (Entries.lookup entries "config") ∧
        Lists (Entries.lookup entries "children") vs ∧ ∃ cs, childrenOfList vs = .ok cs := by
  simp only [ofValue_map_eq_ok_iff, header_eq_ok_iff]
  constructor
  · rintro ⟨-, type, config, cs, ⟨⟨vs, hvs⟩, htype, hconfig⟩, hcs, rfl⟩
    refine ⟨type, vs, htype, (exists_checkConfig_iff type _).mp ⟨config, hconfig⟩, hvs, cs, ?_⟩
    rw [← hvs.childrenOf_eq, hcs]
  · rintro ⟨type, vs, htype, hconfig, hvs, cs, hcs⟩
    obtain ⟨config, hconfig⟩ := (exists_checkConfig_iff type _).mpr hconfig
    refine ⟨_, type, config, cs, ⟨⟨vs, hvs⟩, htype, hconfig⟩, ?_, rfl⟩
    rw [hvs.childrenOf_eq, hcs]

/-- The data of the grammar are read. -/
lemma Storable.exists_ofValue {d : Value} (h : Storable d) : ∃ n, ofValue d = .ok n := by
  induction h with
  | node n => exact ⟨n, rfl⟩
  | map entries type vs htype hconfig hlists hchildren ih =>
    exact (exists_ofValue_map_iff entries).mpr
      ⟨type, vs, htype, hconfig, hlists, (exists_childrenOfList_iff vs).mpr ih⟩

/-- A mapping among the listed children of a mapping is smaller than it. -/
lemma Lists.sizeOf_lt {entries es : Entries} {vs : List Value}
    (h : Lists (Entries.lookup entries "children") vs) (hes : .map es ∈ vs) :
    sizeOf (Value.map es) < sizeOf (Value.map entries) := by
  have hlookup : ∀ v, Entries.lookup entries "children" = v → v ≠ .null →
      sizeOf v < sizeOf (Value.map entries) := by
    rintro v rfl hnull
    obtain ⟨e, he, hvalue⟩ := Entries.exists_mem_of_lookup hnull
    exact hvalue ▸ Entries.sizeOf_lt_of_mem he
  generalize hchildren : Entries.lookup entries "children" = v at h
  cases h with
  | empty h => cases hes
  | collection _ h htext hbytes =>
    cases v with
    | list ws =>
      cases h
      have hsmaller : sizeOf (Value.map es) < sizeOf vs := List.sizeOf_lt_of_mem hes
      have hlist := hlookup _ hchildren nofun
      rw [Value.list.sizeOf_spec] at hlist
      omega
    | tuple ws =>
      cases h
      have hsmaller : sizeOf (Value.map es) < sizeOf vs := List.sizeOf_lt_of_mem hes
      have hlist := hlookup _ hchildren nofun
      rw [Value.tuple.sizeOf_spec] at hlist
      omega
    | map gs =>
      -- keys are no mappings
      cases h
      obtain ⟨k, -, hk⟩ := List.mem_map.mp hes
      cases k <;> cases hk
    | str s => exact absurd rfl (htext s)
    | bytes bs => exact absurd rfl (hbytes bs)
    | _ => cases h

/-- What is read is in the grammar. -/
lemma storable_of_ofValue {d : Value} {n : Node} (h : ofValue d = .ok n) : Storable d := by
  induction hsize : sizeOf d using Nat.strong_induction_on generalizing d n with
  | h size ih =>
    subst hsize
    cases d with
    | node m => exact .node m
    | map entries =>
      obtain ⟨type, vs, htype, hconfig, hlists, hread⟩ :=
        (exists_ofValue_map_iff entries).mp ⟨n, h⟩
      refine .map entries type vs htype hconfig hlists fun v hv hnull htext => ?_
      obtain ⟨m, hm⟩ := (exists_childrenOfList_iff vs).mp hread v hv hnull htext
      cases v with
      | node m => exact .node m
      | map es => exact ih _ (hlists.sizeOf_lt hv) hm rfl
      | _ => cases hm
    | _ => cases h

/-- The data that are read are those of the grammar. -/
theorem exists_ofValue_iff (d : Value) : (∃ n, ofValue d = .ok n) ↔ Storable d :=
  ⟨fun ⟨_, h⟩ => storable_of_ofValue h, Storable.exists_ofValue⟩

/-! ## Writing and reading -/

/-- The parts of a node under their names are read as the node if its children are. -/
lemma ofValue_parts (type : String) (config : Entries) {vs : List Value} {cs : List Child}
    (h : childrenOfList vs = .ok cs) :
    ofValue (.map [(.str "type", .str type), (.str "config", .map config),
      (.str "children", .list vs)]) = .ok (.mk type config cs) := by
  have hconfig : (Value.map config).orElse (.map []) = .map config := by
    cases config <;> rfl
  refine (ofValue_map_eq_ok_iff _ _).mpr ⟨type, config, cs, ?_, h, rfl⟩
  refine (header_eq_ok_iff _ _ _).mpr ⟨⟨vs, .collection _ rfl nofun nofun⟩, .inl rfl, ?_⟩
  exact congrArg (checkConfig type) hconfig

mutual

/-- A full node is read back as it was written. -/
theorem ofValue_toValue : (n : Node) → n.Full → ofValue n.toValue = .ok n
  | .mk type config cs, h => by
    rw [toValue]
    exact ofValue_parts type config (childrenOfList_childValues cs ((full_iff _).mp h))

/-- Full children are read back as they were written. -/
theorem childrenOfList_childValues : (cs : List Child) → Child.AllFull cs →
    childrenOfList (childValues cs) = .ok cs
  | [], _ => rfl
  | .text s :: cs, h => by
    obtain ⟨hs, hcs⟩ := (Child.allFull_cons _ _).mp h
    rw [childValues, childrenOfList, childrenOfList_childValues cs hcs]
    dsimp only
    rw [if_neg ((Child.allFull_text s).mp hs)]
  | .node n :: cs, h => by
    obtain ⟨hn, hcs⟩ := (Child.allFull_cons _ _).mp h
    have hread := ofValue_toValue n ((Child.allFull_node n).mp hn)
    rw [childValues]
    cases n with
    | mk type config ds =>
      rw [toValue] at hread ⊢
      rw [childrenOfList, hread, childrenOfList_childValues cs hcs]

end

end Node

end PageTree
