import PageTree.Proofs.Json.Writable
import PageTree.Proofs.Wire.Form

/-!
# Wire forms can be written

The wire form turns the nodes in configurations into data and recases keys, and a key that has a
name as a member of an object still has one.  So the form of writable data is writable without any
nodes, and the wire form of a writable tree has a document (`exists_toJson?_shape`).
-/

namespace PageTree.Wire

variable {nested : Bool}

/-- A recased key has a name if the key has one. -/
lemma named_recaseKey {k : Key} (h : k.Named) : (recaseKey k).Named := by
  cases k with
  | str s => exact ⟨recase s, rfl⟩
  | _ => exact h

/-- The storage shape of a node is data if its configuration and the shapes of its children are. -/
lemma writable_toValue {type : String} {config : Entries} {cs : List Child}
    (hconfig : Value.EntriesWritable false config)
    (hcs : Value.ItemsWritable false (Node.childValues cs)) :
    (Node.mk type config cs).toValue.Writable false := by
  have hnamed : ∀ s, Key.Named (.str s) := fun s => ⟨s, rfl⟩
  rw [Node.toValue]
  exact ⟨⟨hnamed _, trivial⟩, ⟨hnamed _, hconfig⟩, ⟨hnamed _, hcs⟩, trivial⟩

/-- Shapes of siblings are data if those of each part are. -/
lemma writable_childValues_append {cs ds : List Child}
    (hcs : Value.ItemsWritable false (Node.childValues cs))
    (hds : Value.ItemsWritable false (Node.childValues ds)) :
    Value.ItemsWritable false (Node.childValues (cs ++ ds)) := by
  induction cs with
  | nil => exact hds
  | cons c cs ih =>
    cases c with
    | text s => exact ⟨trivial, ih hcs.2⟩
    | node n => exact ⟨hcs.1, ih hcs.2⟩

mutual

/-- The form of data is data without nodes. -/
theorem writable_form : (v : Value) → v.Writable nested → (form v).Writable false
  | .null, _ | .bool _, _ | .int _, _ | .float _, _ | .str _, _ => trivial
  | .bytes _, h | .moment _, h | .query _, h | .callable _, h => h.elim
  | .list vs, h | .tuple vs, h => by
    rw [form]
    exact writable_forms vs h
  | .map es, h => by
    rw [form]
    exact writable_formEntries es h
  | .node n, h => by
    rw [form]
    exact writable_formNode n h.2

/-- The forms of the elements of a sequence. -/
theorem writable_forms : (vs : List Value) → Value.ItemsWritable nested vs →
    Value.ItemsWritable false (forms vs)
  | [], _ => trivial
  | v :: vs, h => by
    rw [forms]
    exact ⟨writable_form v h.1, writable_forms vs h.2⟩

/-- The forms of entries. -/
theorem writable_formEntries : (es : List (Key × Value)) → Value.EntriesWritable nested es →
    Value.EntriesWritable false (formEntries es)
  | [], _ => trivial
  | (k, v) :: rest, h => by
    rw [formEntries]
    exact ⟨⟨named_recaseKey h.1.1, writable_form v h.1.2⟩, writable_formEntries rest h.2⟩

/-- The storage shape of the form of a node. -/
theorem writable_formNode : (n : Node) → n.Writable nested → (formNode n).toValue.Writable false
  | .mk type config cs, h => by
    rw [formNode]
    exact writable_toValue (writable_formEntries config h.1) (writable_formChildren cs h.2)

/-- The storage shapes of the forms of children. -/
theorem writable_formChildren : (cs : List Child) → Node.ChildrenWritable nested cs →
    Value.ItemsWritable false (Node.childValues (formChildren cs))
  | [], _ => trivial
  | .text s :: rest, h => by
    rw [formChildren]
    exact ⟨trivial, writable_formChildren rest h⟩
  | .node (.mk type config cs) :: rest, h => by
    rw [formChildren]
    have hcs := writable_formChildren cs h.1.2
    have hrest := writable_formChildren rest h.2
    split
    · exact writable_childValues_append hcs hrest
    · exact ⟨writable_toValue (writable_formEntries config h.1.1) hcs, hrest⟩

end

/-- The wire form of a tree of data is data without nodes. -/
theorem writable_shape {c : Child} (h : c.Writable nested) :
    (shape (formTree c)).Writable false := by
  cases c with
  | text s => trivial
  | node n => exact writable_formNode n (h n rfl)

end PageTree.Wire
