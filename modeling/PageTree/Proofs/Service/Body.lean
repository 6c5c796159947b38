import PageTree.Proofs.Outcome
import PageTree.Service.Basic

/-!
# Bodies of texts

Most of what the service sends is made of texts: the types of nodes, the names and values of their
configurations and their children.  Such data has a document, since there are names for all members,
and no floats that could be infinite (`Textual.hasDocument`).
-/

namespace PageTree

/-- The shapes of children are their shapes one by one. -/
lemma Node.childValues_eq (cs : List Child) : Node.childValues cs = cs.map Wire.shape := by
  induction cs with
  | nil => rfl
  | cons c cs ih => cases c <;> rw [Node.childValues, ih] <;> rfl

/-- A value is made of texts and whole numbers, and all its names are texts. -/
inductive Textual : Value → Prop
  | str (s : String) : Textual (.str s)
  | int (i : Int) : Textual (.int i)
  | list (vs : List Value) (h : ∀ v ∈ vs, Textual v) : Textual (.list vs)
  | map (es : Entries) (hnames : ∀ e ∈ es, ∃ name, e.1 = .str name)
      (h : ∀ e ∈ es, Textual e.2) : Textual (.map es)

namespace Textual

/-- A value has a document in which all floats are finite. -/
def HasDocument (v : Value) : Prop :=
  ∃ j, v.toJson? = .ok j ∧ j.isFinite = true

/-- The elements of a list have documents together if each has one. -/
lemma exists_items {vs : List Value} (h : ∀ v ∈ vs, HasDocument v) :
    ∃ js, Value.toJsons? vs = .ok js ∧ Json.allFinite js = true := by
  induction vs with
  | nil => exact ⟨[], rfl, rfl⟩
  | cons v vs ih =>
    rw [List.forall_mem_cons] at h
    obtain ⟨⟨j, hj, hfinite⟩, hrest⟩ := h
    obtain ⟨js, hjs, hall⟩ := ih hrest
    refine ⟨j :: js, ?_, ?_⟩
    · rw [Value.toJsons?, hj, hjs]
      rfl
    · rw [Json.allFinite, hfinite, hall, Bool.and_self]

/-- Entries are members together if each has a name and a document. -/
lemma exists_members {es : Entries} (hnames : ∀ e ∈ es, ∃ name, e.1 = Key.str name)
    (h : ∀ e ∈ es, HasDocument e.2) :
    ∃ members, Value.toMembers? es = .ok members ∧ Json.membersFinite members = true := by
  induction es with
  | nil => exact ⟨[], rfl, rfl⟩
  | cons e es ih =>
    obtain ⟨k, v⟩ := e
    rw [List.forall_mem_cons] at hnames h
    obtain ⟨⟨name, hname⟩, hothers⟩ := hnames
    obtain ⟨⟨j, hj, hfinite⟩, hrest⟩ := h
    obtain ⟨members, hmembers, hall⟩ := ih hothers hrest
    refine ⟨(name, j) :: members, ?_, ?_⟩
    · have hkey : k = .str name := hname
      rw [Value.toMembers?, hkey, hj, hmembers]
      rfl
    · rw [Json.membersFinite, hfinite, hall, Bool.and_self]

/-- What is made of texts has a document. -/
theorem hasDocument {v : Value} (h : Textual v) : HasDocument v := by
  induction h with
  | str s => exact ⟨.str s, rfl, rfl⟩
  | int i => exact ⟨.int i, rfl, rfl⟩
  | list vs _ ih =>
    obtain ⟨js, hjs, hall⟩ := exists_items ih
    exact ⟨.array js, by rw [Value.toJson?, hjs]; rfl, hall⟩
  | map es hnames _ ih =>
    obtain ⟨members, hmembers, hall⟩ := exists_members hnames ih
    exact ⟨.object members, by rw [Value.toJson?, hmembers]; rfl, hall⟩

/-- A configuration is made of texts. -/
def Plain (config : Entries) : Prop :=
  ∀ e ∈ config, ∃ name s, e = (Key.str name, Value.str s)

/-- The shape of a node is made of texts if its configuration and the shapes of its children are. -/
lemma shape_node {type : String} {config : Entries} {cs : List Child} (hconfig : Plain config)
    (hcs : ∀ c ∈ cs, Textual (Wire.shape c)) :
    Textual (Wire.shape (.node (.mk type config cs))) := by
  have hentries : Textual (.map config) := by
    refine .map config (fun e he => ?_) fun e he => ?_
    · obtain ⟨name, s, rfl⟩ := hconfig e he
      exact ⟨name, rfl⟩
    · obtain ⟨name, s, rfl⟩ := hconfig e he
      exact .str s
  have hchildren : Textual (.list (Node.childValues cs)) := by
    rw [Node.childValues_eq]
    exact .list _ (List.forall_mem_map.mpr hcs)
  rw [Wire.shape, Node.toValue]
  refine .map _ ?_ ?_
  · simp
  · simp only [List.forall_mem_cons]
    exact ⟨.str type, hentries, hchildren, List.forall_mem_nil _⟩

end Textual

end PageTree
