import PageTree.Proofs.Node.Measure
import PageTree.Proofs.Outcome

/-!
# Trees without empty texts

A node is full if no text below it is empty, at any depth: `""` is not among its texts
(`Node.texts`).  Nodes are made in ways that leave empty texts out, so that data in which all nodes
are full are read as a full node (`Node.full_of_ofValue`).

`Value.Full` says of a value that all nodes in it are full, wherever they stand in its sequences and
mappings.
-/

namespace PageTree

namespace Child

/-- The text of a single text. -/
@[simp] lemma texts_text (s : String) : texts [.text s] = [s] := rfl

/-- Texts of siblings, one list after the other. -/
lemma texts_append (cs ds : List Child) : texts (cs ++ ds) = texts cs ++ texts ds := by
  induction cs with
  | nil => rfl
  | cons c cs ih => rw [List.cons_append, texts_cons, ih, texts_cons c cs, List.append_assoc]

end Child

/-- No text below a node is empty. -/
def Node.Full (n : Node) : Prop :=
  "" ∉ n.texts

/-- No text among some children or below them is empty. -/
def Child.AllFull (cs : List Child) : Prop :=
  "" ∉ texts cs

instance (n : Node) : Decidable n.Full :=
  inferInstanceAs (Decidable ("" ∉ n.texts))

/-- A node is full if its children are. -/
lemma Node.full_iff (n : Node) : n.Full ↔ Child.AllFull n.children := by
  rw [Full, texts_eq, Child.AllFull]

namespace Child

lemma allFull_nil : AllFull [] :=
  List.not_mem_nil

/-- Children are full exactly if the first one and the others are. -/
lemma allFull_cons (c : Child) (cs : List Child) :
    AllFull (c :: cs) ↔ AllFull [c] ∧ AllFull cs := by
  rw [AllFull, texts_cons, List.mem_append, not_or]
  rfl

/-- A text is full if it is not empty. -/
@[simp] lemma allFull_text (s : String) : AllFull [.text s] ↔ s ≠ "" := by
  rw [AllFull, texts_text, List.mem_singleton]
  exact ne_comm

/-- A single node is full if it is. -/
@[simp] lemma allFull_node (n : Node) : AllFull [.node n] ↔ n.Full := by
  rw [AllFull, texts_node, Node.Full]

/-- Children are full exactly if each of them is. -/
lemma allFull_iff (cs : List Child) : AllFull cs ↔ ∀ c ∈ cs, AllFull [c] := by
  induction cs with
  | nil => exact iff_of_true allFull_nil nofun
  | cons c cs ih => rw [allFull_cons, ih, List.forall_mem_cons]

/-- Full children hold no empty text. -/
lemma AllFull.isEmpty_eq_false {cs : List Child} (h : AllFull cs) :
    ∀ c ∈ cs, c.isEmpty = false := by
  intro c hc
  have hfull := (allFull_iff cs).mp h c hc
  cases c with
  | text s => exact beq_eq_false_iff_ne.mpr ((allFull_text s).mp hfull)
  | node n => rfl

/-- A text that is put in front of full children unless it is empty leaves them full. -/
lemma allFull_text_unless {s : String} {cs : List Child} (h : AllFull cs) :
    AllFull (if s = "" then cs else .text s :: cs) := by
  split
  · exact h
  · rename_i hs
    exact (allFull_cons _ _).mpr ⟨(allFull_text s).mpr hs, h⟩

end Child

/-! ## Reading -/

mutual

/-- All nodes in a value are full. -/
def Value.Full : Value → Prop
  | .list vs => Value.ItemsFull vs
  | .tuple vs => Value.ItemsFull vs
  | .map es => Value.EntriesFull es
  | .node n => n.Full
  | _ => True

/-- All nodes in the elements of a sequence are full. -/
def Value.ItemsFull : List Value → Prop
  | [] => True
  | v :: vs => v.Full ∧ Value.ItemsFull vs

/-- All nodes in the values of entries are full. -/
def Value.EntriesFull : List (Key × Value) → Prop
  | [] => True
  | (_, v) :: es => v.Full ∧ Value.EntriesFull es

end

namespace Node

open Child

/-- The characters of a text are no empty texts. -/
lemma allFull_childrenOfText (s : String) : AllFull (childrenOfText s) := by
  refine (allFull_iff _).mpr fun c hc => ?_
  obtain ⟨a, -, rfl⟩ := List.mem_map.mp hc
  simp

/-- Keys that are read as children are no empty texts. -/
lemma allFull_childrenOfKeys {ks : List Key} {cs : List Child} (h : childrenOfKeys ks = .ok cs) :
    AllFull cs := by
  induction ks generalizing cs with
  | nil =>
    cases h
    exact allFull_nil
  | cons k ks ih =>
    cases k with
    | null => exact ih h
    | str s =>
      obtain ⟨rest, hrest, h⟩ := (bind_eq_ok_iff _ _ _).mp h
      cases h
      exact allFull_text_unless (ih hrest)
    | _ => cases h

mutual

/-- Data in which all nodes are full are read as a full node. -/
theorem full_of_ofValue : (v : Value) → (n : Node) → v.Full → ofValue v = .ok n → n.Full
  | .node m, n, hv, h => by
    cases h
    exact hv
  | .map es, n, hv, h => by
    rw [ofValue] at h
    split at h
    · cases h
    · split at h
      · cases h
      · rename_i cs hcs
        cases h
        exact (full_iff _).mpr (allFull_childrenEntry es cs hv hcs)
  | .null, n, _, h | .bool _, n, _, h | .int _, n, _, h | .float _, n, _, h | .str _, n, _, h
  | .bytes _, n, _, h | .moment _, n, _, h | .list _, n, _, h | .tuple _, n, _, h
  | .query _, n, _, h | .callable _, n, _, h => by cases h

/-- The children under the first entry for them are full. -/
theorem allFull_childrenEntry : (es : List (Key × Value)) → (cs : List Child) →
    Value.EntriesFull es → childrenEntry es = .ok cs → AllFull cs
  | [], cs, _, h => by
    cases h
    exact allFull_nil
  | (k, v) :: es, cs, hes, h => by
    rw [childrenEntry] at h
    split at h
    · exact allFull_childrenOf v cs hes.1 h
    · exact allFull_childrenEntry es cs hes.2 h

/-- The children that a value stands for are full. -/
theorem allFull_childrenOf : (v : Value) → (cs : List Child) → v.Full → childrenOf v = .ok cs →
    AllFull cs
  | .list vs, cs, hv, h | .tuple vs, cs, hv, h => allFull_childrenOfList vs cs hv h
  | .map es, cs, _, h => allFull_childrenOfKeys h
  | .str s, cs, _, h => by
    cases h
    exact allFull_childrenOfText s
  | .bytes (b :: bs), cs, _, h => by cases h
  | .bytes [], cs, _, h | .null, cs, _, h | .bool _, cs, _, h | .int _, cs, _, h
  | .float _, cs, _, h | .moment _, cs, _, h | .node _, cs, _, h | .query _, cs, _, h
  | .callable _, cs, _, h => by
    rw [childrenOf] at h
    · split at h
      · cases h
      · cases h
        exact allFull_nil
    all_goals nofun

/-- The children that the elements of a list stand for are full. -/
theorem allFull_childrenOfList : (vs : List Value) → (cs : List Child) → Value.ItemsFull vs →
    childrenOfList vs = .ok cs → AllFull cs
  | [], cs, _, h => by
    cases h
    exact allFull_nil
  | .null :: vs, cs, hvs, h => allFull_childrenOfList vs cs hvs.2 h
  | .str s :: vs, cs, hvs, h => by
    rw [childrenOfList] at h
    split at h
    · cases h
    · rename_i rest hrest
      cases h
      exact allFull_text_unless (allFull_childrenOfList vs rest hvs.2 hrest)
  | .node n :: vs, cs, hvs, h => by
    rw [childrenOfList] at h
    split at h
    · cases h
    · rename_i rest hrest
      cases h
      exact (allFull_cons _ _).mpr
        ⟨(allFull_node n).mpr hvs.1, allFull_childrenOfList vs rest hvs.2 hrest⟩
  | .map es :: vs, cs, hvs, h => by
    rw [childrenOfList] at h
    split at h
    · cases h
    · rename_i n hn
      split at h
      · cases h
      · rename_i rest hrest
        cases h
        exact (allFull_cons _ _).mpr ⟨(allFull_node n).mpr (full_of_ofValue (.map es) n hvs.1 hn),
          allFull_childrenOfList vs rest hvs.2 hrest⟩
  | .bool _ :: _, cs, _, h | .int _ :: _, cs, _, h | .float _ :: _, cs, _, h
  | .bytes _ :: _, cs, _, h | .moment _ :: _, cs, _, h | .list _ :: _, cs, _, h
  | .tuple _ :: _, cs, _, h | .query _ :: _, cs, _, h | .callable _ :: _, cs, _, h => by cases h

end

end Node

end PageTree
