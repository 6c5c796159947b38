import PageTree.Node.Basic
import PageTree.Proofs.Value.Quantity

/-!
# Sameness is equality of canonical forms

`Value.same` and `Node.same` compare data as the program does: numbers by what they count, mappings
without regard to the order of their entries, sequences and nodes part by part.

A `Canonical` is a datum up to these differences.  In it a mapping is a function that gives, for
every key, the values listed for it, so that the order of entries with different keys is out of the
way.  The main statement, `Value.agree_iff`, is that two data are the same exactly when their
canonical forms are equal.  Hence `Value.same`, `Node.same` and `Child.sameAll` are equivalences on
all data, and a node may be replaced by a same one under `Node.withChildren`.
-/

namespace PageTree

open Classical in
/-- A mapping up to order with one more entry in front. -/
noncomputable def pushEntry {α : Type} (k : CanonicalKey) (a : α) (m : CanonicalKey → List α) :
    CanonicalKey → List α :=
  fun l => if k = l then a :: m l else m l

/-- The new entry stands at its own key. -/
lemma pushEntry_self {α : Type} (k : CanonicalKey) (a : α) (m : CanonicalKey → List α) :
    pushEntry k a m k = a :: m k :=
  if_pos rfl

/-- The other keys are as before. -/
lemma pushEntry_of_ne {α : Type} {k l : CanonicalKey} (h : k ≠ l) (a : α)
    (m : CanonicalKey → List α) : pushEntry k a m l = m l :=
  if_neg h

/-- Entries in front of mappings can be compared apart. -/
lemma pushEntry_inj {α : Type} (k : CanonicalKey) (a b : α) (m m' : CanonicalKey → List α) :
    pushEntry k a m = pushEntry k b m' ↔ a = b ∧ m = m' := by
  constructor
  · intro h
    have hk := congrFun h k
    rw [pushEntry_self, pushEntry_self, List.cons.injEq] at hk
    refine ⟨hk.1, funext fun l => ?_⟩
    by_cases hl : k = l
    · exact hl ▸ hk.2
    · rw [← pushEntry_of_ne hl a m, h, pushEntry_of_ne hl]
  · rintro ⟨rfl, rfl⟩
    rfl

/-- Entries with different keys can be put in front in any order. -/
lemma pushEntry_comm {α : Type} {k l : CanonicalKey} (h : k ≠ l) (a b : α)
    (m : CanonicalKey → List α) :
    pushEntry k a (pushEntry l b m) = pushEntry l b (pushEntry k a m) := by
  funext c
  by_cases hk : k = c
  · subst hk
    rw [pushEntry_self, pushEntry_of_ne h.symm, pushEntry_of_ne h.symm, pushEntry_self]
  · rw [pushEntry_of_ne hk]
    by_cases hl : l = c
    · subst hl
      rw [pushEntry_self, pushEntry_self, pushEntry_of_ne hk]
    · rw [pushEntry_of_ne hl, pushEntry_of_ne hl, pushEntry_of_ne hk]

/-- A datum up to sameness. -/
inductive Canonical where
  | null
  | number (q : Quantity)
  | str (s : String)
  | bytes (bs : List UInt8)
  | moment (mark : Option Bool × Int)
  | callable (handle : String)
  | list (cs : List Canonical)
  | tuple (cs : List Canonical)
  | map (m : CanonicalKey → List Canonical)
  | node (type : String) (config : CanonicalKey → List Canonical) (children : List Canonical)
  | media (id : Int) (url alt caption excerpt : String) (crops : CanonicalKey → List Canonical)
  | document (id : Int) (title content excerpt permalink author : String)
      (tags : List (String × String)) (image : Option Canonical)
      (extra : CanonicalKey → List Canonical)
  | query (documents : List Canonical) (notFound search : Bool)

mutual

/-- The canonical form of an attachment. -/
noncomputable def canonicalMedia : Attachment Key Value → Canonical
  | ⟨i, u, a, c, e, crops⟩ => .media i u a c e (canonicalEntries crops)

/-- The canonical form of an optional attachment. -/
noncomputable def canonicalImage : Option (Attachment Key Value) → Option Canonical
  | none => none
  | some a => some (canonicalMedia a)

/-- The canonical form of a document. -/
noncomputable def canonicalDocument : Document Key Value → Canonical
  | ⟨i, t, c, e, p, a, tags, image, extra⟩ =>
    .document i t c e p a (tags.map fun x => (x.name, x.link)) (canonicalImage image)
      (canonicalEntries extra)

/-- The canonical forms of documents. -/
noncomputable def canonicalDocuments : List (Document Key Value) → List Canonical
  | [] => []
  | d :: ds => canonicalDocument d :: canonicalDocuments ds

/-- The canonical form of a query result. -/
noncomputable def canonicalQuery : QueryResult Key Value → Canonical
  | ⟨ds, n, s⟩ => .query (canonicalDocuments ds) n s

/-- The canonical form of a value. -/
noncomputable def Value.canonical : Value → Canonical
  | .null => .null
  | .bool b => .number (.exact (if b then 1 else 0))
  | .int i => .number (.exact i)
  | .float x => .number (quantityOf x)
  | .str s => .str s
  | .bytes bs => .bytes bs
  | .moment m => .moment m.mark
  | .list vs => .list (canonicalValues vs)
  | .tuple vs => .tuple (canonicalValues vs)
  | .map es => .map (canonicalEntries es)
  | .node n => n.canonical
  | .query q => canonicalQuery q
  | .callable h => .callable h

/-- The canonical forms of values. -/
noncomputable def canonicalValues : List Value → List Canonical
  | [] => []
  | v :: vs => v.canonical :: canonicalValues vs

/-- The canonical form of a mapping: the values of every key. -/
noncomputable def canonicalEntries : List (Key × Value) → CanonicalKey → List Canonical
  | [] => fun _ => []
  | (k, v) :: es => pushEntry k.canonical v.canonical (canonicalEntries es)

/-- The canonical form of a node. -/
noncomputable def Node.canonical : Node → Canonical
  | .mk t c cs => .node t (canonicalEntries c) (canonicalChildren cs)

/-- The canonical form of a child. -/
noncomputable def Child.canonical : Child → Canonical
  | .text s => .str s
  | .node n => n.canonical

/-- The canonical forms of children. -/
noncomputable def canonicalChildren : List Child → List Canonical
  | [] => []
  | c :: cs => c.canonical :: canonicalChildren cs

end

/-- The canonical form of a node by its parts. -/
lemma Node.canonical_eq (n : Node) :
    n.canonical =
      .node n.type (canonicalEntries n.config) (canonicalChildren n.children) := by
  obtain ⟨t, c, cs⟩ := n
  rw [Node.canonical, Node.type, Node.config, Node.children]

/-- The canonical form of a query result by its parts. -/
lemma canonicalQuery_eq (q : QueryResult Key Value) :
    canonicalQuery q = .query (canonicalDocuments q.documents) q.notFound q.search := by
  obtain ⟨ds, n, s⟩ := q
  rw [canonicalQuery]

/-! ## Matching off entries -/

/-- Nothing can be taken out for a key without values. -/
lemma canonicalEntries_of_take?_none {es : Entries} {k : Key}
    (h : Entries.take? es k = none) : canonicalEntries es k.canonical = [] := by
  induction es with
  | nil => rw [canonicalEntries]
  | cons e es ih =>
    obtain ⟨l, v⟩ := e
    rw [Entries.take?] at h
    split at h
    · cases h
    · rename_i hl
      have hne : l.canonical ≠ k.canonical := fun hc => hl ((Key.same_iff_canonical l k).mpr hc)
      rw [canonicalEntries, pushEntry_of_ne hne]
      exact ih (Option.map_eq_none_iff.mp h)

/-- The entry that is taken out can as well stand in front. -/
lemma canonicalEntries_of_take?_some {es others : Entries} {k : Key} {w : Value}
    (h : Entries.take? es k = some (w, others)) :
    canonicalEntries es = pushEntry k.canonical w.canonical (canonicalEntries others) := by
  induction es generalizing others with
  | nil => cases h
  | cons e es ih =>
    obtain ⟨l, v⟩ := e
    rw [Entries.take?] at h
    split at h
    · rename_i hl
      cases h
      rw [canonicalEntries, (Key.same_iff_canonical l k).mp hl]
    · rename_i hl
      obtain ⟨⟨x, rest⟩, hrest, hx⟩ := Option.map_eq_some_iff.mp h
      cases hx
      have hne : l.canonical ≠ k.canonical := fun hc => hl ((Key.same_iff_canonical l k).mpr hc)
      rw [canonicalEntries, canonicalEntries, ih hrest, pushEntry_comm hne]

/-- Only the empty mapping has no values at all. -/
lemma canonicalEntries_eq_nil_iff (es : Entries) :
    canonicalEntries [] = canonicalEntries es ↔ es = [] := by
  constructor
  · intro h
    cases es with
    | nil => rfl
    | cons e es =>
      obtain ⟨k, v⟩ := e
      have hk := congrFun h k.canonical
      rw [canonicalEntries, canonicalEntries, pushEntry_self] at hk
      cases hk
  · rintro rfl
    rfl

/-! ## Sameness of all data -/

mutual

/-- Attachments are the same exactly when their canonical forms are equal. -/
theorem Value.agreeMedia_iff : (a b : Attachment Key Value) →
    (Value.agreeMedia floatSame a b = true ↔ canonicalMedia a = canonicalMedia b)
  | ⟨i, u, a, c, e, crops⟩, ⟨i', u', a', c', e', crops'⟩ => by
    simp only [Value.agreeMedia, canonicalMedia, Bool.and_eq_true, beq_iff_eq,
      Canonical.media.injEq, Value.agreeEntries_iff crops crops', and_assoc]

/-- Optional attachments are the same exactly when their canonical forms are equal. -/
theorem Value.agreeImage_iff : (a b : Option (Attachment Key Value)) →
    (Value.agreeImage floatSame a b = true ↔ canonicalImage a = canonicalImage b)
  | none, none => by simp [Value.agreeImage]
  | none, some b => by simp [Value.agreeImage, canonicalImage]
  | some a, none => by simp [Value.agreeImage, canonicalImage]
  | some a, some b => by
    rw [Value.agreeImage, canonicalImage, canonicalImage, Option.some.injEq,
      Value.agreeMedia_iff a b]

/-- Documents are the same exactly when their canonical forms are equal. -/
theorem Value.agreeDocument_iff : (d e : Document Key Value) →
    (Value.agreeDocument floatSame d e = true ↔ canonicalDocument d = canonicalDocument e)
  | ⟨i, t, c, e, p, a, tags, image, extra⟩, ⟨i', t', c', e', p', a', tags', image', extra'⟩ => by
    simp only [Value.agreeDocument, canonicalDocument, Bool.and_eq_true, beq_iff_eq,
      Canonical.document.injEq, Value.agreeImage_iff image image',
      Value.agreeEntries_iff extra extra', and_assoc]

/-- Lists of documents are the same exactly when their canonical forms are equal. -/
theorem Value.agreeDocuments_iff : (ds es : List (Document Key Value)) →
    (Value.agreeDocuments floatSame ds es = true ↔ canonicalDocuments ds = canonicalDocuments es)
  | [], [] => by simp [Value.agreeDocuments]
  | [], e :: es => by simp [Value.agreeDocuments, canonicalDocuments]
  | d :: ds, [] => by simp [Value.agreeDocuments, canonicalDocuments]
  | d :: ds, e :: es => by
    rw [Value.agreeDocuments, canonicalDocuments, canonicalDocuments, List.cons.injEq,
      Bool.and_eq_true, Value.agreeDocument_iff d e, Value.agreeDocuments_iff ds es]

/-- Query results are the same exactly when their canonical forms are equal. -/
theorem Value.agreeQuery_iff : (q r : QueryResult Key Value) →
    (Value.agreeQuery floatSame q r = true ↔ canonicalQuery q = canonicalQuery r)
  | ⟨ds, n, s⟩, ⟨es, n', s'⟩ => by
    simp only [Value.agreeQuery, canonicalQuery, Bool.and_eq_true, beq_iff_eq,
      Canonical.query.injEq, Value.agreeDocuments_iff ds es, and_assoc]

/-- Values are the same exactly when their canonical forms are equal. -/
theorem Value.agree_iff (v w : Value) :
    Value.agree floatSame v w = true ↔ v.canonical = w.canonical := by
  cases v <;> cases w <;>
    simp only [Value.agree, Moment.same, Value.canonical, Node.canonical_eq, canonicalQuery_eq,
      reduceCtorEq, Bool.false_eq_true, beq_iff_eq, Canonical.number.injEq, Canonical.str.injEq,
      Canonical.bytes.injEq, Canonical.moment.injEq, Canonical.callable.injEq, Canonical.list.injEq,
      Canonical.tuple.injEq, Canonical.map.injEq, exact_truth, exact_int_eq_iff, floatEqInt_iff,
      floatSame_iff]
  case bool.bool b c => cases b <;> cases c <;> simp
  case bool.float => exact eq_comm
  case int.float => exact eq_comm
  case list.list vs ws => exact Value.agreeAll_iff vs ws
  case tuple.tuple vs ws => exact Value.agreeAll_iff vs ws
  case map.map es gs => exact Value.agreeEntries_iff es gs
  case node.node n m =>
    rw [← Node.canonical_eq, ← Node.canonical_eq]
    exact Node.agree_iff n m
  case query.query q r =>
    rw [← canonicalQuery_eq, ← canonicalQuery_eq]
    exact Value.agreeQuery_iff q r

/-- Lists of values are the same exactly when their canonical forms are equal. -/
theorem Value.agreeAll_iff : (vs ws : List Value) →
    (Value.agreeAll floatSame vs ws = true ↔ canonicalValues vs = canonicalValues ws)
  | [], [] => by simp [Value.agreeAll]
  | [], w :: ws => by simp [Value.agreeAll, canonicalValues]
  | v :: vs, [] => by simp [Value.agreeAll, canonicalValues]
  | v :: vs, w :: ws => by
    rw [Value.agreeAll, canonicalValues, canonicalValues, List.cons.injEq, Bool.and_eq_true,
      Value.agree_iff v w, Value.agreeAll_iff vs ws]

/-- Mappings are the same exactly when their canonical forms are equal. -/
theorem Value.agreeEntries_iff : (es gs : List (Key × Value)) →
    (Value.agreeEntries floatSame es gs = true ↔ canonicalEntries es = canonicalEntries gs)
  | [], gs => by
    rw [Value.agreeEntries, List.isEmpty_iff, canonicalEntries_eq_nil_iff]
  | (k, v) :: es, gs => by
    rw [Value.agreeEntries]
    split
    · rename_i w others htake
      rw [Bool.and_eq_true, Value.agree_iff v w, Value.agreeEntries_iff es others,
        canonicalEntries_of_take?_some htake, canonicalEntries, pushEntry_inj]
    · rename_i htake
      simp only [Bool.false_eq_true, false_iff]
      intro h
      have hk := congrFun h k.canonical
      rw [canonicalEntries, pushEntry_self, canonicalEntries_of_take?_none htake] at hk
      cases hk

/-- Nodes are the same exactly when their canonical forms are equal. -/
theorem Node.agree_iff : (n m : Node) →
    (Node.agree floatSame n m = true ↔ n.canonical = m.canonical)
  | .mk t c cs, .mk t' c' cs' => by
    simp only [Node.agree, Node.canonical, Bool.and_eq_true, beq_iff_eq, Canonical.node.injEq,
      Value.agreeEntries_iff c c', Child.agreeAll_iff cs cs', and_assoc]

/-- Children are the same exactly when their canonical forms are equal. -/
theorem Child.agree_iff : (c d : Child) →
    (Child.agree floatSame c d = true ↔ c.canonical = d.canonical)
  | .text s, .text t => by simp [Child.agree, Child.canonical]
  | .text s, .node (.mk _ _ _) => by simp [Child.agree, Child.canonical, Node.canonical]
  | .node (.mk _ _ _), .text s => by simp [Child.agree, Child.canonical, Node.canonical]
  | .node n, .node m => by rw [Child.agree, Child.canonical, Child.canonical, Node.agree_iff n m]

/-- Lists of children are the same exactly when their canonical forms are equal. -/
theorem Child.agreeAll_iff : (cs ds : List Child) →
    (Child.agreeAll floatSame cs ds = true ↔ canonicalChildren cs = canonicalChildren ds)
  | [], [] => by simp [Child.agreeAll]
  | [], d :: ds => by simp [Child.agreeAll, canonicalChildren]
  | c :: cs, [] => by simp [Child.agreeAll, canonicalChildren]
  | c :: cs, d :: ds => by
    rw [Child.agreeAll, canonicalChildren, canonicalChildren, List.cons.injEq, Bool.and_eq_true,
      Child.agree_iff c d, Child.agreeAll_iff cs ds]

end

/-! ## Sameness of nodes and children -/

namespace Node

/-- A node is the same as itself. -/
@[simp] theorem same_refl (n : Node) : n.same n = true :=
  (Node.agree_iff n n).mpr rfl

/-- Sameness of nodes is symmetric. -/
theorem same_symm {n m : Node} (h : n.same m = true) : m.same n = true :=
  (Node.agree_iff m n).mpr ((Node.agree_iff n m).mp h).symm

/-- Sameness of nodes is transitive. -/
theorem same_trans {n m o : Node} (h : n.same m = true) (h' : m.same o = true) :
    n.same o = true :=
  (Node.agree_iff n o).mpr (((Node.agree_iff n m).mp h).trans ((Node.agree_iff m o).mp h'))

/-- Same nodes have same children. -/
theorem sameAll_children {n m : Node} (h : n.same m = true) :
    Child.sameAll n.children m.children = true := by
  have hc := (Node.agree_iff n m).mp h
  rw [canonical_eq, canonical_eq, Canonical.node.injEq] at hc
  exact (Child.agreeAll_iff _ _).mpr hc.2.2

/-- Same nodes stay the same when they are given the same children. -/
theorem same_withChildren {n m : Node} (h : n.same m = true) (cs : List Child) :
    (n.withChildren cs).same (m.withChildren cs) = true := by
  have hc := (Node.agree_iff n m).mp h
  rw [canonical_eq, canonical_eq, Canonical.node.injEq] at hc
  refine (Node.agree_iff _ _).mpr ?_
  rw [withChildren, withChildren, canonical, canonical, hc.1, hc.2.1]

/-- Giving a node its own children changes nothing. -/
@[simp] theorem withChildren_children (n : Node) : n.withChildren n.children = n := by
  cases n
  rfl

/-- Of two changes of the children only the last one counts. -/
@[simp] theorem withChildren_withChildren (n : Node) (cs ds : List Child) :
    (n.withChildren cs).withChildren ds = n.withChildren ds := rfl

end Node

namespace Child

/-- A list of children is the same as itself. -/
@[simp] theorem sameAll_refl (cs : List Child) : sameAll cs cs = true :=
  (Child.agreeAll_iff cs cs).mpr rfl

/-- Sameness of lists of children is symmetric. -/
theorem sameAll_symm {cs ds : List Child} (h : sameAll cs ds = true) : sameAll ds cs = true :=
  (Child.agreeAll_iff ds cs).mpr ((Child.agreeAll_iff cs ds).mp h).symm

/-- Sameness of lists of children is transitive. -/
theorem sameAll_trans {cs ds es : List Child} (h : sameAll cs ds = true)
    (h' : sameAll ds es = true) : sameAll cs es = true :=
  (Child.agreeAll_iff cs es).mpr
    (((Child.agreeAll_iff cs ds).mp h).trans ((Child.agreeAll_iff ds es).mp h'))

/-- Children that are the same one by one are empty texts in the same places. -/
theorem isEmpty_eq_of_agree {c d : Child} (h : Child.agree floatSame c d = true) :
    c.isEmpty = d.isEmpty := by
  cases c <;> cases d <;> simp_all [Child.agree, Child.isEmpty]

/-- Sameness passes to the children that are not empty texts. -/
theorem sameAll_filter {cs ds : List Child} (h : sameAll cs ds = true) :
    sameAll (cs.filter fun c => !c.isEmpty) (ds.filter fun c => !c.isEmpty) = true := by
  unfold sameAll at *
  induction cs generalizing ds with
  | nil =>
    cases ds with
    | nil => rfl
    | cons d ds => cases h
  | cons c cs ih =>
    cases ds with
    | nil => cases h
    | cons d ds =>
      rw [agreeAll, Bool.and_eq_true] at h
      have hempty := isEmpty_eq_of_agree h.1
      cases he : d.isEmpty with
      | true => simpa [he, hempty] using ih h.2
      | false => simpa [he, hempty, agreeAll, h.1] using ih h.2

/-- A node in a list has a same node in every list that is the same one by one. -/
theorem exists_same_of_mem {cs ds : List Child} (h : sameAll cs ds = true) {n : Node}
    (hn : Child.node n ∈ ds) : ∃ m, Child.node m ∈ cs ∧ m.same n = true := by
  unfold sameAll at h
  induction cs generalizing ds with
  | nil =>
    cases ds with
    | nil => cases hn
    | cons d ds => cases h
  | cons c cs ih =>
    cases ds with
    | nil => cases hn
    | cons d ds =>
      rw [agreeAll, Bool.and_eq_true] at h
      rcases List.mem_cons.mp hn with rfl | hn
      · cases c with
        | text s => cases h.1
        | node m => exact ⟨m, List.mem_cons_self, h.1⟩
      · obtain ⟨m, hm, hsame⟩ := ih h.2 hn
        exact ⟨m, List.mem_cons_of_mem c hm, hsame⟩

end Child

end PageTree
