import Mathlib.Data.List.Basic
import PageTree.Proofs.Value.Mapping
import PageTree.Wire.Tree

/-!
# The wire form and the entries on the way

Rendering does two things at once: it rewrites a tree, and it watches for keys that become the name
of a key in front of them.  Here the two are told apart.

The first is `form`: what a value becomes if names are not looked at.  The second is the list of the
entries that are met, in the order in which they are met (`valueSites`): the configuration of a node
comes before its children, an entry before what its value holds, and of a fragment among children
only the children are met.  A `Site` knows the keys in front of it, and so whether it is at fault
(`Site.fault?`).

The equations `value_eq`, `node_eq` and `children_eq` put both together again: rendering fails with
the fault of the first site that has one, and gives the form if none has.
-/

namespace PageTree.Wire

/-! ## The form of a value -/

mutual

/-- What a value becomes, whether or not its keys get different names. -/
def form : Value → Value
  | .list vs => .list (forms vs)
  | .tuple vs => .list (forms vs)
  | .map es => .map (formEntries es)
  | .node n => (formNode n).toValue
  | v => v

/-- What the elements of a sequence become. -/
def forms : List Value → List Value
  | [] => []
  | v :: vs => form v :: forms vs

/-- What the entries of a mapping become. -/
def formEntries : List (Key × Value) → List (Key × Value)
  | [] => []
  | (k, v) :: rest => (recaseKey k, form v) :: formEntries rest

/-- What a node becomes. -/
def formNode : Node → Node
  | .mk type config cs => .mk type (formEntries config) (formChildren cs)

/-- What children become: a fragment gives its own children. -/
def formChildren : List Child → List Child
  | [] => []
  | .text s :: rest => .text s :: formChildren rest
  | .node (.mk type config cs) :: rest =>
    if type = "" then formChildren cs ++ formChildren rest
    else .node (.mk type (formEntries config) (formChildren cs)) :: formChildren rest

end

/-- The keys of what a mapping becomes. -/
lemma keys_formEntries (es : Entries) :
    Entries.keys (formEntries es) = (Entries.keys es).map recaseKey := by
  induction es with
  | nil => rfl
  | cons e es ih =>
    obtain ⟨k, v⟩ := e
    change recaseKey k :: Entries.keys (formEntries es) =
      recaseKey k :: (Entries.keys es).map recaseKey
    rw [ih]

/-! ## The entries that are met -/

/-- An entry that rendering meets: the path of its mapping, the keys in front of it and its own. -/
structure Site where
  path : String
  earlier : List Key
  key : Key

namespace Site

/-- The first key in front that becomes the same name. -/
def rival? (s : Site) : Option Key :=
  s.earlier.find? fun l => (recaseKey l).same (recaseKey s.key)

/-- The fault of an entry whose name is taken. -/
def fault? (s : Site) : Option WireFault :=
  s.rival?.map fun l => .collision l s.key (recaseKey s.key) (entryPath s.path s.key)

end Site

mutual

/-- The entries that are met in a value. -/
def valueSites (path : String) : Value → List Site
  | .list vs => itemSites path 0 vs
  | .tuple vs => itemSites path 0 vs
  | .map es => entrySites path [] es
  | .node n => nodeSites path n
  | _ => []

/-- The entries that are met in the elements of a sequence, counted from `i` on. -/
def itemSites (path : String) (i : Nat) : List Value → List Site
  | [] => []
  | v :: vs => valueSites (itemPath path i) v ++ itemSites path (i + 1) vs

/-- The entries that are met in a mapping behind some keys of it. -/
def entrySites (path : String) (earlier : List Key) : List (Key × Value) → List Site
  | [] => []
  | (k, v) :: rest =>
    ⟨path, earlier, k⟩ ::
      (valueSites (entryPath path k) v ++ entrySites path (earlier ++ [k]) rest)

/-- The entries that are met in a node. -/
def nodeSites (path : String) : Node → List Site
  | .mk _ config cs =>
    entrySites (path ++ ".config") [] config ++ childSites (path ++ ".children") 0 cs

/-- The entries that are met in children, counted from `i` on. -/
def childSites (path : String) (i : Nat) : List Child → List Site
  | [] => []
  | .text _ :: rest => childSites path (i + 1) rest
  | .node (.mk type config cs) :: rest =>
    if type = "" then
      childSites (itemPath path i ++ ".children") 0 cs ++ childSites path (i + 1) rest
    else
      entrySites (itemPath path i ++ ".config") [] config ++
        (childSites (itemPath path i ++ ".children") 0 cs ++ childSites path (i + 1) rest)

end

/-! ## Rendering settled by its sites -/

section Settle

variable {α β : Type}

/-- The fault of the first site that has one, or else a result. -/
def settle (sites : List Site) (a : α) : Except WireFault α :=
  match sites.findSome? Site.fault? with
  | some e => .error e
  | none => .ok a

/-- Without sites there is a result. -/
@[simp] lemma settle_nil (a : α) : settle [] a = .ok a := rfl

/-- A result is changed after all sites were met. -/
lemma map_settle (f : α → β) (sites : List Site) (a : α) :
    f <$> settle sites a = settle sites (f a) := by
  unfold settle
  cases sites.findSome? Site.fault? <;> rfl

/-- What goes on after some sites meets its own sites behind them. -/
lemma settle_bind {sites others : List Site} {a : α} {b : β} {k : α → Except WireFault β}
    (h : k a = settle others b) : (settle sites a >>= k) = settle (sites ++ others) b := by
  unfold settle at *
  rw [List.findSome?_append]
  cases sites.findSome? Site.fault? with
  | some e => rfl
  | none => exact h

/-- A first site that is at fault settles the matter. -/
lemma settle_cons_of_some {s : Site} {e : WireFault} (h : s.fault? = some e) (sites : List Site)
    (a : α) : settle (s :: sites) a = .error e := by
  unfold settle
  rw [List.findSome?_cons, h]

/-- A first site that is not at fault leaves the matter to the others. -/
lemma settle_cons_of_none {s : Site} (h : s.fault? = none) (sites : List Site) (a : α) :
    settle (s :: sites) a = settle sites a := by
  unfold settle
  rw [List.findSome?_cons, h]

/-- There is a result exactly if no site is at fault, and then it is the one that was to be. -/
lemma settle_eq_ok_iff {sites : List Site} {a b : α} :
    settle sites a = .ok b ↔ (∀ s ∈ sites, s.fault? = none) ∧ b = a := by
  unfold settle
  cases h : sites.findSome? Site.fault? with
  | none =>
    rw [List.findSome?_eq_none_iff] at h
    constructor
    · intro hb
      cases hb
      exact ⟨h, rfl⟩
    · rintro ⟨-, rfl⟩
      rfl
  | some e =>
    constructor
    · intro hb
      cases hb
    · rintro ⟨hnone, -⟩
      rw [List.findSome?_eq_none_iff.mpr hnone] at h
      cases h

/-- A fault is that of a site behind sites without one. -/
lemma settle_eq_error_iff {sites : List Site} {a : α} {e : WireFault} :
    settle sites a = .error e ↔
      ∃ before s after, sites = before ++ s :: after ∧ s.fault? = some e ∧
        ∀ t ∈ before, t.fault? = none := by
  unfold settle
  rw [← List.findSome?_eq_some_iff]
  cases sites.findSome? Site.fault? with
  | none =>
    constructor
    · intro h
      cases h
    · intro h
      cases h
  | some e' => rw [Except.error.injEq, Option.some.injEq]

end Settle

/-- Among keys that took their names, a name is found under the first of them that becomes it. -/
lemma get?_taken (earlier : List Key) (name : Key) :
    Entries.get? (earlier.map fun k => (recaseKey k, k)) name =
      earlier.find? fun l => (recaseKey l).same name := by
  induction earlier with
  | nil => rfl
  | cons k earlier ih =>
    rw [List.map_cons, Entries.get?, List.find?_cons, ih]
    cases (recaseKey k).same name <;> rfl

mutual

/-- Rendering a value. -/
theorem value_eq (path : String) : (v : Value) →
    value path v = settle (valueSites path v) (form v)
  | .list vs => by rw [value, valueSites, form, values_eq path 0 vs, map_settle]
  | .tuple vs => by rw [value, valueSites, form, values_eq path 0 vs, map_settle]
  | .map es => by
    have h : entries path [] es = settle (entrySites path [] es) (formEntries es) :=
      entries_eq path [] es
    rw [value, valueSites, form, h, map_settle]
  | .node n => by rw [value, valueSites, form, node_eq path n, map_settle]
  | .null => rfl
  | .bool _ => rfl
  | .int _ => rfl
  | .float _ => rfl
  | .str _ => rfl
  | .bytes _ => rfl
  | .moment _ => rfl
  | .query _ => rfl
  | .callable _ => rfl

/-- Rendering the elements of a sequence. -/
theorem values_eq (path : String) (i : Nat) : (vs : List Value) →
    values path i vs = settle (itemSites path i vs) (forms vs)
  | [] => rfl
  | v :: vs => by
    rw [values, itemSites, forms, value_eq (itemPath path i) v, values_eq path (i + 1) vs]
    exact settle_bind (map_settle (form v :: ·) _ _)

/-- Rendering the entries of a mapping behind some keys of it. -/
theorem entries_eq (path : String) (earlier : List Key) : (es : List (Key × Value)) →
    entries path (earlier.map fun k => (recaseKey k, k)) es =
      settle (entrySites path earlier es) (formEntries es)
  | [] => rfl
  | (k, v) :: rest => by
    have hrest := entries_eq path (earlier ++ [k]) rest
    rw [List.map_append] at hrest
    rw [entries, entrySites, formEntries, get?_taken]
    cases h : earlier.find? fun l => (recaseKey l).same (recaseKey k) with
    | some l =>
      have hfault : Site.fault? ⟨path, earlier, k⟩ =
          some (.collision l k (recaseKey k) (entryPath path k)) := by
        rw [Site.fault?, Site.rival?, h]
        rfl
      rw [settle_cons_of_some hfault]
      rfl
    | none =>
      have hfault : Site.fault? ⟨path, earlier, k⟩ = none := by
        rw [Site.fault?, Site.rival?, h]
        rfl
      rw [settle_cons_of_none hfault, value_eq (entryPath path k) v]
      refine settle_bind ?_
      rw [List.map_singleton] at hrest
      rw [hrest]
      exact map_settle ((recaseKey k, form v) :: ·) _ _

/-- Rendering a node. -/
theorem node_eq (path : String) : (n : Node) →
    node path n = settle (nodeSites path n) (formNode n)
  | .mk type config cs => by
    have hconfig : entries (path ++ ".config") [] config =
        settle (entrySites (path ++ ".config") [] config) (formEntries config) :=
      entries_eq (path ++ ".config") [] config
    rw [node, nodeSites, formNode, hconfig, children_eq (path ++ ".children") 0 cs]
    exact settle_bind (map_settle (Node.mk type (formEntries config) ·) _ _)

/-- Rendering children. -/
theorem children_eq (path : String) (i : Nat) : (cs : List Child) →
    children path i cs = settle (childSites path i cs) (formChildren cs)
  | [] => rfl
  | .text s :: rest => by
    rw [children, childSites, formChildren, children_eq path (i + 1) rest]
    exact map_settle (Child.text s :: ·) _ _
  | .node (.mk type config cs) :: rest => by
    have hconfig : entries (itemPath path i ++ ".config") [] config =
        settle (entrySites (itemPath path i ++ ".config") [] config) (formEntries config) :=
      entries_eq (itemPath path i ++ ".config") [] config
    rw [children, childSites, formChildren, hconfig,
      children_eq (itemPath path i ++ ".children") 0 cs, children_eq path (i + 1) rest]
    split
    · exact settle_bind (map_settle (formChildren cs ++ ·) _ _)
    · refine settle_bind (settle_bind ?_)
      exact map_settle (Child.node (.mk type (formEntries config) (formChildren cs)) :: ·) _ _

end

/-! ## Trees and siblings -/

/-- What a tree becomes; a fragment stays one here. -/
def formTree : Child → Child
  | .text s => .text s
  | .node n => .node (formNode n)

/-- The entries that are met in a tree. -/
def treeSites (path : String) : Child → List Site
  | .text _ => []
  | .node n => nodeSites path n

/-- Rendering a tree. -/
theorem tree_eq (path : String) (c : Child) :
    tree path c = settle (treeSites path c) (formTree c) := by
  cases c with
  | text s => rfl
  | node n => rw [tree, treeSites, formTree, node_eq, map_settle]

/-- The forms of children, one after the other. -/
lemma formChildren_cons (c : Child) (cs : List Child) :
    formChildren (c :: cs) = formChildren [c] ++ formChildren cs := by
  rcases c with s | ⟨type, config, ds⟩
  · rfl
  · rw [formChildren, formChildren]
    split
    · rw [formChildren, List.append_nil]
    · rw [formChildren, List.singleton_append]

/-- Forms of siblings, one after the other. -/
lemma formChildren_append (cs ds : List Child) :
    formChildren (cs ++ ds) = formChildren cs ++ formChildren ds := by
  induction cs with
  | nil => rw [formChildren, List.nil_append, List.nil_append]
  | cons c cs ih =>
    rw [List.cons_append, formChildren_cons, ih, formChildren_cons c cs, List.append_assoc]

/-- The entries that are met in children, one child after the other. -/
lemma childSites_cons (path : String) (i : Nat) (c : Child) (cs : List Child) :
    childSites path i (c :: cs) = childSites path i [c] ++ childSites path (i + 1) cs := by
  rcases c with s | ⟨type, config, ds⟩
  · rfl
  · rw [childSites, childSites]
    split <;> simp only [childSites, List.append_nil, List.append_assoc]

/-- Rendering siblings that are given as values. -/
theorem siblingsFrom_eq (path : String) (i : Nat) (cs : List Child) :
    siblingsFrom path i (cs.map Child.toValue) =
      settle (childSites path i cs) (formChildren cs) := by
  induction cs generalizing i with
  | nil => rfl
  | cons c cs ih =>
    have hc : treeOf (itemPath path i) c.toValue = .ok c := by cases c <;> rfl
    rw [List.map_cons, siblingsFrom, hc, childSites_cons, formChildren_cons, ih (i + 1)]
    change (children path i [c] >>= _) = _
    rw [children_eq]
    exact settle_bind (map_settle (formChildren [c] ++ ·) _ _)

end PageTree.Wire
