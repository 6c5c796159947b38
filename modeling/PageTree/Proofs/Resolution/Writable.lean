import PageTree.Proofs.Resolution.Invariant
import PageTree.Proofs.Validation.Tree
import PageTree.Proofs.Wire.Writable

/-!
# Resolution of data that can be written

A tree that is read from data holds only data in its configurations.  If the definitions of a
registry keep this, that is, if their defaults are data and their transforms make nodes of data out
of nodes of data, then so does a whole resolution (`writable_of_resolveTree`).
-/

namespace PageTree

variable {nested : Bool}

/-- Definitions keep the configurations of nodes writable. -/
structure Resolver.KeepsWritable (r : Resolver) (nested : Bool) (context : Context) : Prop where
  defaults : ∀ type d, r.registry.get? type = some d → Value.EntriesWritable nested d.defaults
  made : ∀ n d x m, n.Writable nested → r.Transforms context n d x → Resolver.Makes x m →
    m.Writable nested

/-- A configuration that is data, or missing, is data. -/
lemma Tree.writable_configured {v : Value} (hv : v.Writable nested) {config : Entries}
    (h : configured v = some config) : Value.EntriesWritable nested config := by
  cases v with
  | null =>
    cases h
    trivial
  | map es =>
    cases h
    exact hv
  | _ => cases h

/-- Children that are data, or missing, are data. -/
lemma Tree.writable_listed {v : Value} (hv : v.Writable nested) {vs : List Value}
    (h : listed v = some vs) : ∀ w ∈ vs, w.Writable nested := by
  cases v with
  | null =>
    cases h
    nofun
  | list ws =>
    cases h
    exact itemsWritable_iff.mp hv
  | _ => cases h

/-- What stands under a name in data, or nothing in its place, is data. -/
lemma writable_lookup {es : Entries} (h : Value.EntriesWritable nested es) (name : String) :
    (Entries.lookup es name).Writable nested := by
  unfold Entries.lookup Entries.find?
  cases hv : Entries.get? es (.str name) with
  | none => trivial
  | some v => exact writable_of_get? h hv

mutual

/-- A tree that is read from data is writable. -/
theorem Tree.Reads.writable : {d : Value} → {c : Child} → Tree.Reads d c → d.Writable nested →
    c.Writable nested
  | _, _, .text s, _ => nofun
  | _, _, .node entries type config vs cs htype hconfig hlisted hchildren, hd => by
    intro n hn
    cases hn
    have hvs := Tree.writable_listed (writable_lookup hd "children") hlisted
    refine node_writable_iff.mpr ⟨?_, ?_⟩
    · exact Tree.writable_configured (writable_lookup hd "config") hconfig
    · exact Tree.writable_of_readsAll hchildren fun v hv => hvs v (List.mem_filter.mp hv).1

/-- Trees that are read from data are writable. -/
theorem Tree.writable_of_readsAll : {vs : List Value} → {cs : List Child} →
    List.Forall₂ Tree.Reads vs cs → (∀ v ∈ vs, v.Writable nested) → ∀ c ∈ cs, c.Writable nested
  | _, _, .nil, _ => nofun
  | _, _, .cons h hs, hvs => by
    rw [List.forall_mem_cons] at hvs ⊢
    exact ⟨h.writable hvs.1, Tree.writable_of_readsAll hs hvs.2⟩

end

namespace Resolver

variable {context : Context} {r : Resolver}

/-- Filling in defaults keeps a node writable. -/
lemma KeepsWritable.withDefaults (h : r.KeepsWritable nested context) {n : Node}
    (hn : n.Writable nested) {d : Definition} (hd : r.registry.get? n.type = some d) :
    (n.withDefaults d.defaults).Writable nested := by
  rw [node_writable_iff] at hn ⊢
  exact ⟨entriesWritable_merge (h.defaults _ _ hd) hn.1, hn.2⟩

/-- Being writable goes through a whole resolution. -/
lemma KeepsWritable.preserves (h : r.KeepsWritable nested context) :
    Preserves context r (Node.Writable nested) where
  settled n m hn hround := by
    cases hround with
    | undefined => exact hn
    | inert d hd => exact h.withDefaults hn hd
    | failed d x hx => exact h.withDefaults hn hx.1
    | kept d x m hx hm => exact h.made n d x m hn hx hm
  changed n m hn hround := by
    cases hround with
    | changed d x m hx hm => exact h.made n d x m hn hx hm
  children n hn := (node_writable_iff.mp hn).2
  withChildren n cs hn hcs := node_writable_iff.mpr
    ⟨(node_writable_iff.mp hn).1, fun c hc => hcs c (List.mem_of_mem_filter hc)⟩

/-- What a tree of data is resolved to is writable. -/
theorem KeepsWritable.resolveTree (h : r.KeepsWritable nested context) {root : Value}
    (hroot : Tree.WellFormed root) (hdata : root.Writable nested) {t : Child}
    (ht : (r.resolveTree context root).result = .ok (some t)) : t.Writable nested := by
  obtain ⟨c, hc, hreads⟩ := hroot.exists_reads
  have hread : ∀ n, rootOf root = .ok (.node n) → n.Writable nested := by
    intro n hn
    rw [hc] at hn
    cases hn
    exact hreads.writable hdata n rfl
  intro n hn
  exact h.preserves.resolveTree hread (some t) ht n (congrArg some hn)

end Resolver

end PageTree
