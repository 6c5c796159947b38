import PageTree.Proofs.Builtin.Article

/-!
# Bodies of documents

Whatever the markup of a document is, its body is resolved: to a container of the elements that are
shown, or, where the markup is rejected, to the node that asked for it (`visitAt_body`).  What the
page then becomes is only refused for an element that is shown and has two attributes that get the
same name (`refused_page_iff`, `refused_body_iff`).
-/

namespace PageTree

namespace Markup

/-- The node that an element makes under a name. -/
def madeNode (name : String) (e : Element) : Node :=
  .mk name (configOf e) (if e.text = "" then [] else [.text e.text])

/-- The keys of what an element is configured with are the names of its attributes. -/
lemma keys_configOf (e : Element) :
    Entries.keys (configOf e) = e.attributes.map fun a => Key.str a.1 := by
  rw [Entries.keys, configOf, List.map_map]
  rfl

/-- The attributes of an element collide unless they get different names. -/
lemma collides_configOf_iff (e : Element) :
    Wire.Collides (configOf e) ↔ ¬ (e.attributes.map fun a => Wire.recase a.1).Nodup := by
  have hsame : ∀ a b : String × Attribute,
      (Wire.recaseKey (.str a.1)).same (Wire.recaseKey (.str b.1)) = false ↔
        Wire.recase a.1 ≠ Wire.recase b.1 := by
    intro a b
    rw [Wire.recaseKey, Wire.recaseKey, Key.same, beq_eq_false_iff_ne]
  rw [← not_not (a := Wire.Collides _), Wire.not_collides_iff, keys_configOf, List.Nodup,
    List.pairwise_map, List.pairwise_map]
  simp only [hsame]

/-! ## The elements that are shown -/

variable [MarkupLibrary]

/-- The nodes of the elements that are shown, for one name after the other. -/
def shownNodes (all : List Element) : List Node :=
  Builtin.contentTags.flatMap fun name =>
    (all.filter (MarkupLibrary.selects (.str name))).map (madeNode name)

/-- The elements of one name make their nodes. -/
lemma nodesNamed_eq (all : List Element) (name : String) :
    nodesNamed all (.str name) =
      .ok ((all.filter (MarkupLibrary.selects (.str name))).map (madeNode name)) := by
  have hnode : nodeOf (.str name) = fun e => .ok (madeNode name e) := rfl
  rw [nodesNamed, hnode]
  exact List.mapM_pure

/-- The body of a markup that is not rejected is made of the elements that are shown. -/
lemma nodesOf_eq {markup : String} {all : List Element} (hne : markup ≠ "")
    (h : MarkupLibrary.elementsOf markup = some (.ok all)) :
    nodesOf markup (.list (Builtin.contentTags.map .str)) = .ok (shownNodes all) := by
  have hgroups : ∀ names : List String, (names.map Value.str).mapM (nodesNamed all) =
      .ok (names.map fun name =>
        (all.filter (MarkupLibrary.selects (.str name))).map (madeNode name)) := by
    intro names
    induction names with
    | nil => rfl
    | cons name names ih =>
      rw [List.map_cons, List.mapM_cons, nodesNamed_eq, ih]
      rfl
  have helements : (Value.list (Builtin.contentTags.map .str)).elements =
      .ok (Builtin.contentTags.map .str) := rfl
  unfold nodesOf
  rw [if_neg hne, h]
  dsimp only
  rw [helements]
  change ((Builtin.contentTags.map Value.str).mapM (nodesNamed all) >>= _) = _
  rw [hgroups]
  exact congrArg Except.ok (List.flatMap_def).symm

/-- The elements that are shown are those that one of the names selects. -/
lemma mem_shownNodes_iff {all : List Element} {n : Node} :
    n ∈ shownNodes all ↔ ∃ e ∈ all, ∃ name ∈ Builtin.contentTags,
      MarkupLibrary.selects (.str name) e = true ∧ n = madeNode name e := by
  rw [shownNodes, List.mem_flatMap]
  constructor
  · rintro ⟨name, hname, hn⟩
    obtain ⟨e, he, rfl⟩ := List.mem_map.mp hn
    obtain ⟨hmem, hselected⟩ := List.mem_filter.mp he
    exact ⟨e, hmem, name, hname, hselected, rfl⟩
  · rintro ⟨e, he, name, hname, hselected, rfl⟩
    exact ⟨name, hname, List.mem_map.mpr ⟨e, List.mem_filter.mpr ⟨he, hselected⟩, rfl⟩⟩

/-- In a markup text, where the given elements are found, an element is shown and has two attributes
that get the same name when they are sent. -/
structure ClashesAt (markup : String) (found : Except Fault (List Element)) (e : Element) :
    Prop where
  ne_empty : markup ≠ ""
  mem : ∃ all, found = .ok all ∧ e ∈ all
  shown : ∃ name ∈ Builtin.contentTags, MarkupLibrary.selects (.str name) e = true
  clash : ¬ (e.attributes.map fun a => Wire.recase a.1).Nodup

end Markup

namespace Builtin

open Resolver

/-! ## The body -/

/-- What becomes of the body of a document with the given markup. -/
def bodyNode [MarkupLibrary] (markup : String) : Node :=
  match Markup.nodesOf markup (.list (contentTags.map .str)) with
  | .ok nodes => stored "fullBleed" (nodes.map .node)
  | .error _ => .mk "post/content" [] []

section Resolution

variable [Surroundings] {settings : ImageSettings} {r : Resolver} {context : Context}
  {d : Document Key Value} {depth : Nat}
  (hr : ∀ name, r.registry.get? name = (registry settings).get? name)

include hr

/-- The body of a document is resolved, whatever its markup is. -/
theorem visitAt_body (hlt : depth + 1 < r.maxDepth) (hshows : Shows context d) :
    (visitAt context r depth (.mk "post/content" [] [])).result =
      .ok (some (.node (bodyNode d.content))) := by
  unfold bodyNode
  cases hnodes : Markup.nodesOf d.content (.list (contentTags.map .str)) with
  | ok nodes => exact visitAt_content hr hlt hshows hnodes
  | error e =>
    obtain ⟨f, hdefaults, hf⟩ := transforms_content hr hshows
    rw [hnodes] at hf
    exact visitAt_of_failed (by omega) hdefaults hf

end Resolution

/-! ## Names on the wire -/

/-- A mapping that rendering siblings reaches has keys that become the same name. -/
def Refused (cs : List Child) (es : Entries) : Prop :=
  es ∈ Wire.childMappings cs ∧ Wire.Collides es

variable {es : Entries}

/-- Mappings of siblings, one after the other. -/
lemma refused_append (cs ds : List Child) :
    Refused (cs ++ ds) es ↔ Refused cs es ∨ Refused ds es := by
  rw [Refused, Wire.childMappings_append, List.mem_append, or_and_right]
  rfl

/-- Where a single entry is all there is, nothing collides. -/
lemma not_refused_of_singleton {cs : List Child} {k : Key} {v : Value}
    (h : Wire.childMappings cs = [[(k, v)]]) : ¬ Refused cs es := by
  rintro ⟨hmem, hcollides⟩
  rw [h, List.mem_singleton] at hmem
  rw [hmem] at hcollides
  exact (Wire.not_collides_iff _).mpr (List.pairwise_singleton _ _) hcollides

/-- Rendering texts reaches no mappings. -/
lemma childMappings_texts (texts : List String) : Wire.childMappings (texts.map .text) = [] := by
  induction texts with
  | nil => rfl
  | cons s texts ih => rw [List.map_cons, Wire.childMappings, ih]

/-- Rendering attributes reaches no mappings. -/
lemma entryMappings_texts (attributes : List (String × String)) :
    Wire.entryMappings (attributes.map fun a => (Key.str a.1, Value.str a.2)) = [] := by
  induction attributes with
  | nil => rfl
  | cons a attributes ih =>
    rw [List.map_cons, Wire.entryMappings, ih]
    rfl

/-- What stands in the place of a title is not refused. -/
lemma not_refused_titleParts (d : Document Key Value) : ¬ Refused (titleParts d) es := by
  rintro ⟨hmem, hcollides⟩
  rcases titleParts_cases d with h | ⟨title, h⟩ | h <;> rw [h] at hmem
  · cases hmem
  · cases hmem
  · obtain rfl := List.mem_singleton.mp hmem
    exact (Wire.not_collides_iff _).mpr List.Pairwise.nil hcollides

/-- Raw markup is not refused. -/
lemma not_refused_html (content : String) : ¬ Refused [.node (htmlNode content)] es :=
  not_refused_of_singleton rfl

/-- Links to tags are not refused. -/
lemma not_refused_tags (tags : List Term) :
    ¬ Refused [.node (.mk "" [] (tags.map tagNode))] es := by
  have hmappings : Wire.childMappings [.node (.mk "" [] (tags.map tagNode))] =
      Wire.childMappings (tags.map tagNode) ++ [] := rfl
  rw [Refused, hmappings, List.append_nil]
  induction tags with
  | nil => exact fun h => List.not_mem_nil h.1
  | cons t tags ih =>
    have hrest : ¬ Refused (tags.map tagNode) es := ih rfl
    exact fun h => ((refused_append [tagNode t] _).mp h).elim (not_refused_html _) hrest

/-- A container is refused for what it holds. -/
lemma refused_stored_iff (theme : String) (cs : List Child) :
    Refused [.node (stored theme cs)] es ↔ Refused cs es := by
  have hmappings : Wire.childMappings [.node (stored theme cs)] =
      [(.str "theme_name", .str theme), (.str "max_width", .str "lg")] ::
        (Wire.childMappings cs ++ []) := rfl
  have hconfig : ¬ Wire.Collides
      [(.str "theme_name", .str theme), (.str "max_width", .str "lg")] := by
    rw [Wire.not_collides_iff]
    change List.Pairwise (fun l k => (Wire.recaseKey l).same (Wire.recaseKey k) = false)
      [Key.str "theme_name", .str "max_width"]
    decide
  rw [Refused, hmappings, List.append_nil, List.mem_cons, or_and_right]
  refine or_iff_right ?_
  rintro ⟨rfl, hcollides⟩
  exact hconfig hcollides

/-- The page of a document is refused for its body. -/
theorem refused_page_iff (d : Document Key Value) (body : Node) :
    Refused [.node (resolvedPage d body)] es ↔ Refused [.node body] es := by
  have hparts : [Child.node (htmlNode d.author), .node body,
      .node (.mk "" [] (d.tags.map tagNode))] = [.node (htmlNode d.author)] ++ ([.node body] ++
        [.node (.mk "" [] (d.tags.map tagNode))]) := rfl
  rw [resolvedPage, refused_stored_iff, refused_append, or_iff_right (not_refused_titleParts _),
    hparts, refused_append, or_iff_right (not_refused_html _), refused_append,
    or_iff_left (not_refused_tags _)]

/-- Rendering the nodes of a body reaches their configurations. -/
lemma childMappings_flat {nodes : List Node} (h : ∀ n ∈ nodes, Markup.Flat n) :
    Wire.childMappings (nodes.map .node) = nodes.map (·.config) := by
  induction nodes with
  | nil => rfl
  | cons n nodes ih =>
    rw [List.forall_mem_cons] at h
    obtain ⟨type, attributes, texts, hne, rfl⟩ := h.1.exists_mk
    rw [List.map_cons, Wire.childMappings, if_neg hne, ih h.2, childMappings_texts,
      List.map_cons, Node.config_mk, entryMappings_texts]
    rfl

/-- The body of a document is refused for an element that is shown and has attributes that clash. -/
theorem refused_body_iff [MarkupLibrary] {markup : String}
    {found : Except Fault (List Markup.Element)}
    (hfound : MarkupLibrary.elementsOf markup = some found) :
    Refused [.node (bodyNode markup)] es ↔
      ∃ e, Markup.ClashesAt markup found e ∧ es = Markup.configOf e := by
  cases hnodes : Markup.nodesOf markup (.list (contentTags.map .str)) with
  | error e =>
    have hbody : bodyNode markup = .mk "post/content" [] [] := by rw [bodyNode, hnodes]
    refine iff_of_false ?_ ?_
    · rintro ⟨hmem, hcollides⟩
      rw [hbody] at hmem
      obtain rfl := List.mem_singleton.mp hmem
      exact (Wire.not_collides_iff _).mpr List.Pairwise.nil hcollides
    · rintro ⟨e, ⟨hne, ⟨all, rfl, -⟩, -, -⟩, -⟩
      rw [Markup.nodesOf_eq hne hfound] at hnodes
      cases hnodes
  | ok nodes =>
    rw [bodyNode, hnodes]
    dsimp only
    rw [refused_stored_iff, Refused, childMappings_flat (Markup.flat_of_nodesOf hnodes),
      List.mem_map]
    constructor
    · rintro ⟨⟨n, hn, rfl⟩, hcollides⟩
      obtain ⟨hne, all, hall⟩ := Markup.exists_elements hnodes hn
      rw [Markup.nodesOf_eq hne hall] at hnodes
      cases hnodes
      obtain ⟨e, he, name, hname, hselected, rfl⟩ := Markup.mem_shownNodes_iff.mp hn
      have hsame : found = .ok all := Option.some.inj (hfound.symm.trans hall)
      exact ⟨e, ⟨hne, ⟨all, hsame, he⟩, ⟨name, hname, hselected⟩,
        (Markup.collides_configOf_iff e).mp hcollides⟩, rfl⟩
    · rintro ⟨e, ⟨hne, ⟨all, rfl, he⟩, ⟨name, hname, hselected⟩, hclash⟩, rfl⟩
      rw [Markup.nodesOf_eq hne hfound] at hnodes
      cases hnodes
      exact ⟨⟨_, Markup.mem_shownNodes_iff.mpr ⟨e, he, name, hname, hselected, rfl⟩, rfl⟩,
        (Markup.collides_configOf_iff e).mpr hclash⟩

end Builtin

end PageTree
