import Mathlib.Tactic.Lemma
import PageTree.Json.Basic
import PageTree.Proofs.Outcome

/-!
# Data that can be written

A document holds data, and it has a name for every member of an object.  `Value.Writable` says which
values are such data.  With `nested` set a configuration may hold nodes, which the wire form turns
into data; without it there are no nodes, and then the writable values are those that have a
document (`writable_iff_toJson?`).

What is read from a document is writable (`Json.writable_toValue`), and so is what is set in or
merged over entries that are.
-/

namespace PageTree

/-- A key gets a name as a member of an object. -/
def Key.Named (k : Key) : Prop :=
  ∃ name, Json.memberName k = .ok name

mutual

/-- A value holds only data; with `nested` set, nodes in it count as data too. -/
def Value.Writable (nested : Bool) : Value → Prop
  | .list vs => Value.ItemsWritable nested vs
  | .tuple vs => Value.ItemsWritable nested vs
  | .map es => Value.EntriesWritable nested es
  | .node n => nested = true ∧ Node.Writable nested n
  | .bytes _ => False
  | .moment _ => False
  | .query _ => False
  | .callable _ => False
  | _ => True

/-- The elements of a sequence hold only data. -/
def Value.ItemsWritable (nested : Bool) : List Value → Prop
  | [] => True
  | v :: vs => v.Writable nested ∧ Value.ItemsWritable nested vs

/-- The entries of a mapping have names and hold only data. -/
def Value.EntriesWritable (nested : Bool) : List (Key × Value) → Prop
  | [] => True
  | (k, v) :: rest => (k.Named ∧ v.Writable nested) ∧ Value.EntriesWritable nested rest

/-- All configurations of a node and the nodes below it hold only data. -/
def Node.Writable (nested : Bool) : Node → Prop
  | .mk _ config cs => Value.EntriesWritable nested config ∧ Node.ChildrenWritable nested cs

/-- All configurations of children and the nodes below them hold only data. -/
def Node.ChildrenWritable (nested : Bool) : List Child → Prop
  | [] => True
  | .text _ :: cs => Node.ChildrenWritable nested cs
  | .node n :: cs => Node.Writable nested n ∧ Node.ChildrenWritable nested cs

end

/-- All configurations of a tree hold only data. -/
def Child.Writable (nested : Bool) (c : Child) : Prop :=
  ∀ n, c = .node n → n.Writable nested

/-! ## The parts of what is writable -/

section Parts

variable {nested : Bool}

/-- The elements of a sequence, one by one. -/
lemma itemsWritable_iff {vs : List Value} :
    Value.ItemsWritable nested vs ↔ ∀ v ∈ vs, v.Writable nested := by
  induction vs with
  | nil => exact iff_of_true trivial nofun
  | cons v vs ih => rw [Value.ItemsWritable, ih, List.forall_mem_cons]

/-- Children, one by one. -/
lemma childrenWritable_iff {cs : List Child} :
    Node.ChildrenWritable nested cs ↔ ∀ c ∈ cs, c.Writable nested := by
  induction cs with
  | nil => exact iff_of_true trivial nofun
  | cons c cs ih =>
    rw [List.forall_mem_cons, ← ih]
    cases c with
    | text s =>
      have htext : (Child.text s).Writable nested := nofun
      rw [Node.ChildrenWritable, and_iff_right htext]
    | node n =>
      have hnode : (Child.node n).Writable nested ↔ n.Writable nested := by
        constructor
        · intro h
          exact h n rfl
        · intro h m hm
          cases hm
          exact h
      rw [Node.ChildrenWritable, hnode]

/-- A node is writable if its configuration and its children are. -/
lemma node_writable_iff {n : Node} :
    n.Writable nested ↔
      Value.EntriesWritable nested n.config ∧ ∀ c ∈ n.children, c.Writable nested := by
  obtain ⟨type, config, cs⟩ := n
  rw [Node.Writable, childrenWritable_iff]
  rfl

/-- What is found in a mapping of data is data. -/
lemma writable_of_get? {es : Entries} (h : Value.EntriesWritable nested es) {k : Key} {v : Value}
    (hv : Entries.get? es k = some v) : v.Writable nested := by
  induction es with
  | nil => cases hv
  | cons e es ih =>
    obtain ⟨l, w⟩ := e
    rw [Value.EntriesWritable] at h
    rw [Entries.get?] at hv
    split at hv
    · cases hv
      exact h.1.2
    · exact ih h.2 hv

/-- An entry that is set in a mapping of data leaves it one. -/
lemma entriesWritable_set {es : Entries} (h : Value.EntriesWritable nested es) {k : Key} {v : Value}
    (hk : k.Named) (hv : v.Writable nested) :
    Value.EntriesWritable nested (Entries.set es k v) := by
  induction es with
  | nil => exact ⟨⟨hk, hv⟩, trivial⟩
  | cons e es ih =>
    obtain ⟨l, w⟩ := e
    rw [Value.EntriesWritable] at h
    rw [Entries.set]
    split
    · exact ⟨⟨h.1.1, hv⟩, h.2⟩
    · exact ⟨h.1, ih h.2⟩

/-- Data merged over data is data. -/
lemma entriesWritable_merge {base upper : Entries} (hbase : Value.EntriesWritable nested base)
    (hupper : Value.EntriesWritable nested upper) :
    Value.EntriesWritable nested (Entries.merge base upper) := by
  unfold Entries.merge
  induction upper generalizing base with
  | nil => exact hbase
  | cons e upper ih =>
    obtain ⟨k, v⟩ := e
    rw [Value.EntriesWritable] at hupper
    exact ih (entriesWritable_set hbase hupper.1.1 hupper.1.2) hupper.2

end Parts

/-! ## Documents -/

mutual

/-- What is read from a document is writable. -/
theorem Json.writable_toValue (nested : Bool) : (j : Json) → j.toValue.Writable nested
  | .null | .bool _ | .int _ | .float _ | .str _ => trivial
  | .array items => Json.writable_toValues nested items
  | .object members => by
    rw [Json.toValue]
    exact entriesWritable_merge trivial (Json.writable_toEntries nested members)

/-- The items of a document are writable. -/
theorem Json.writable_toValues (nested : Bool) : (js : List Json) →
    Value.ItemsWritable nested (Json.toValues js)
  | [] => trivial
  | j :: js => ⟨Json.writable_toValue nested j, Json.writable_toValues nested js⟩

/-- The members of a document are writable. -/
theorem Json.writable_toEntries (nested : Bool) : (members : List (String × Json)) →
    Value.EntriesWritable nested (Json.toEntries members)
  | [] => trivial
  | (name, j) :: rest =>
    ⟨⟨⟨name, rfl⟩, Json.writable_toValue nested j⟩, Json.writable_toEntries nested rest⟩

end

mutual

/-- A value without nodes is writable exactly if it has a document. -/
theorem writable_iff_toJson? : (v : Value) → (v.Writable false ↔ ∃ j, v.toJson? = .ok j)
  | .null | .bool _ | .int _ | .float _ | .str _ => iff_of_true trivial ⟨_, rfl⟩
  | .bytes _ | .moment _ | .query _ | .callable _ => iff_of_false id nofun
  | .node _ => iff_of_false (fun h => Bool.false_ne_true h.1) nofun
  | .list vs | .tuple vs => by
    rw [Value.Writable, itemsWritable_iff_toJsons? vs]
    constructor
    · rintro ⟨js, hjs⟩
      exact ⟨.array js, (map_eq_ok_iff _ _ _).mpr ⟨js, hjs, rfl⟩⟩
    · rintro ⟨j, hj⟩
      obtain ⟨js, hjs, -⟩ := (map_eq_ok_iff _ _ _).mp hj
      exact ⟨js, hjs⟩
  | .map es => by
    rw [Value.Writable, entriesWritable_iff_toMembers? es]
    constructor
    · rintro ⟨members, hmembers⟩
      exact ⟨.object members, (map_eq_ok_iff _ _ _).mpr ⟨members, hmembers, rfl⟩⟩
    · rintro ⟨j, hj⟩
      obtain ⟨members, hmembers, -⟩ := (map_eq_ok_iff _ _ _).mp hj
      exact ⟨members, hmembers⟩

/-- The elements of a sequence without nodes. -/
theorem itemsWritable_iff_toJsons? : (vs : List Value) →
    (Value.ItemsWritable false vs ↔ ∃ js, Value.toJsons? vs = .ok js)
  | [] => iff_of_true trivial ⟨_, rfl⟩
  | v :: vs => by
    rw [Value.ItemsWritable, writable_iff_toJson? v, itemsWritable_iff_toJsons? vs]
    constructor
    · rintro ⟨⟨j, hj⟩, js, hjs⟩
      exact ⟨j :: js, (bind_eq_ok_iff _ _ _).mpr
        ⟨j, hj, (bind_eq_ok_iff _ _ _).mpr ⟨js, hjs, rfl⟩⟩⟩
    · rintro ⟨all, hall⟩
      obtain ⟨j, hj, hrest⟩ := (bind_eq_ok_iff _ _ _).mp hall
      obtain ⟨js, hjs, -⟩ := (bind_eq_ok_iff _ _ _).mp hrest
      exact ⟨⟨j, hj⟩, js, hjs⟩

/-- The entries of a mapping without nodes. -/
theorem entriesWritable_iff_toMembers? : (es : List (Key × Value)) →
    (Value.EntriesWritable false es ↔ ∃ members, Value.toMembers? es = .ok members)
  | [] => iff_of_true trivial ⟨_, rfl⟩
  | (k, v) :: es => by
    rw [Value.EntriesWritable, writable_iff_toJson? v, entriesWritable_iff_toMembers? es]
    constructor
    · rintro ⟨⟨⟨name, hname⟩, j, hj⟩, members, hmembers⟩
      exact ⟨(name, j) :: members, (bind_eq_ok_iff _ _ _).mpr ⟨name, hname,
        (bind_eq_ok_iff _ _ _).mpr ⟨j, hj, (bind_eq_ok_iff _ _ _).mpr ⟨members, hmembers, rfl⟩⟩⟩⟩
    · rintro ⟨all, hall⟩
      obtain ⟨name, hname, h1⟩ := (bind_eq_ok_iff _ _ _).mp hall
      obtain ⟨j, hj, h2⟩ := (bind_eq_ok_iff _ _ _).mp h1
      obtain ⟨members, hmembers, -⟩ := (bind_eq_ok_iff _ _ _).mp h2
      exact ⟨⟨⟨name, hname⟩, j, hj⟩, members, hmembers⟩

end

end PageTree
