import PageTree.Proofs.Builtin.Body
import PageTree.Proofs.Service.Article
import PageTree.Proofs.Service.Body

/-!
# The answer about any document

A request for the only document of a path always has an answer (`answer_of_document`).  It is the
envelope with the page of the document, whatever its texts are and also where its markup is
rejected, with one exception: an element of the body that is shown and has two attributes that get
the same name when they are sent is answered with an explanation instead
(`clashing_attributes_take_page_down`).

The rest of what is sent is made of texts under names that differ: the page around the body
(`textual_sentPage`), and the footer that is sent along if it is asked for (`send_defaults`).
-/

namespace PageTree

/-! ## The page that is sent -/

namespace Builtin

open Resolver

/-- What is sent for the body of a document with the given markup. -/
def sentBody [MarkupLibrary] (markup : String) : Node :=
  match Markup.nodesOf markup (.list (contentTags.map .str)) with
  | .ok nodes => containerNode "fullBleed" (nodes.map fun n => .node (recased n))
  | .error _ => .mk "post/content" [] []

/-- The body of a document as it is sent. -/
lemma formChildren_body [MarkupLibrary] (markup : String) (rest : List Child) :
    Wire.formChildren (.node (bodyNode markup) :: rest) =
      .node (sentBody markup) :: Wire.formChildren rest := by
  unfold bodyNode sentBody
  cases hnodes : Markup.nodesOf markup (.list (contentTags.map .str)) with
  | ok nodes =>
    dsimp only
    rw [formChildren_stored, formChildren_flat (Markup.flat_of_nodesOf hnodes)]
  | error e => rfl

/-- Texts are texts on the wire. -/
lemma textual_texts (texts : List String) :
    ∀ c ∈ texts.map Child.text, Textual (Wire.shape c) := by
  rw [List.forall_mem_map]
  exact fun s _ => .str s

/-- What stands in the place of a title is made of texts. -/
lemma textual_titleParts (d : Document Key Value) :
    ∀ c ∈ titleParts d, Textual (Wire.shape c) := by
  rcases titleParts_cases d with h | ⟨title, h⟩ | h <;> rw [h]
  · exact List.forall_mem_nil _
  · exact List.forall_mem_singleton.mpr (.str title)
  · exact List.forall_mem_singleton.mpr
      (Textual.shape_node (List.forall_mem_nil _) (List.forall_mem_nil _))

/-- Raw markup is made of texts. -/
lemma textual_html (content : String) : Textual (Wire.shape (.node (htmlNode content))) :=
  Textual.shape_node (List.forall_mem_singleton.mpr ⟨_, _, rfl⟩) (List.forall_mem_nil _)

/-- A container is made of texts if what it holds is. -/
lemma textual_container (theme : String) {cs : List Child}
    (h : ∀ c ∈ cs, Textual (Wire.shape c)) :
    Textual (Wire.shape (.node (containerNode theme cs))) := by
  refine Textual.shape_node ?_ h
  simp [Textual.Plain]

/-- The page of a document is made of texts if its body is. -/
lemma textual_sentPage (d : Document Key Value) {body : Node}
    (h : Textual (Wire.shape (.node body))) :
    Textual (Wire.shape (.node (sentPage d body))) := by
  refine textual_container _ ?_
  have hparts : ∀ c ∈ [Child.node (htmlNode d.author), .node body], Textual (Wire.shape c) := by
    rw [List.forall_mem_cons, List.forall_mem_singleton]
    exact ⟨textual_html d.author, h⟩
  exact List.forall_mem_append.mpr ⟨List.forall_mem_append.mpr ⟨textual_titleParts d, hparts⟩,
    List.forall_mem_map.mpr fun t _ => textual_html (tagAnchor t)⟩

/-- A node of a body is made of texts. -/
lemma textual_recased {n : Node} (h : Markup.Flat n) :
    Textual (Wire.shape (.node (recased n))) := by
  obtain ⟨-, ⟨attributes, hconfig⟩, texts, htexts⟩ := h
  refine Textual.shape_node ?_ ?_
  · rw [hconfig, List.map_map]
    exact List.forall_mem_map.mpr fun a _ => ⟨_, _, rfl⟩
  · rw [htexts]
    exact textual_texts texts

/-- What is sent for the body of a document is made of texts. -/
lemma textual_sentBody [MarkupLibrary] (markup : String) :
    Textual (Wire.shape (.node (sentBody markup))) := by
  unfold sentBody
  cases hnodes : Markup.nodesOf markup (.list (contentTags.map .str)) with
  | ok nodes =>
    refine textual_container _ (List.forall_mem_map.mpr fun n hn => ?_)
    exact textual_recased (Markup.flat_of_nodesOf hnodes n hn)
  | error e => exact Textual.shape_node (List.forall_mem_nil _) (List.forall_mem_nil _)

/-! ## The footer -/

section Footer

variable [Surroundings]

/-- The footer of a site without a holder, once it is resolved. -/
def plainFooter : Node :=
  .mk "footer" [(.str "copyright", .str (copyrightLine (.str ""))),
    (.str "copyright_holder", .str "")] []

/-- The footer of a site is resolved. -/
lemma resolveTrees_footer {settings : ImageSettings} {r : Resolver} {context : Context}
    (hr : ∀ name, r.registry.get? name = (registry settings).get? name) (hlt : 0 < r.maxDepth) :
    (r.resolveTrees context [.node (.mk "footer" [] [])]).result = .ok [.node plainFooter] := by
  have hget : r.registry.get? "footer" = some footer := (hr "footer").trans rfl
  have hfilled : r.Transforms context (.mk "footer" [] []) footer (.ok (.node plainFooter)) :=
    ⟨hget, _, [], rfl, rfl, rfl⟩
  have hkept : r.Transforms context plainFooter footer (.ok (.node plainFooter)) :=
    ⟨hget, _, [], rfl, rfl, rfl⟩
  exact resolveTrees_of_root (visitAt_of_changed hlt
    (.changed footer _ plainFooter hfilled (.node _) rfl)
    (.kept footer _ plainFooter hkept (.node _) (Node.same_refl _)) (map_resolveChild_nil _))

/-- The footer of a site is not refused. -/
lemma not_refused_footer {es : Entries} : ¬ Refused [.node plainFooter] es := by
  rintro ⟨hmem, hcollides⟩
  obtain rfl := List.mem_singleton.mp hmem
  refine (Wire.not_collides_iff _).mpr ?_ hcollides
  change List.Pairwise (fun l k => (Wire.recaseKey l).same (Wire.recaseKey k) = false)
    [Key.str "copyright", .str "copyright_holder"]
  decide

end Footer

end Builtin

/-! ## What is sent -/

namespace Service

open Builtin

/-- Trees are sent in the form of what they are resolved to, if no mapping is refused. -/
lemma send_of_free {r : Resolver} {context : Context} {trees : List Value} {cs : List Child}
    (hcs : (r.resolveTrees context trees).result = .ok cs) (hfree : ∀ es, ¬ Refused cs es) :
    send r context trees = .ok (.list ((Wire.formChildren cs).map Wire.shape)) := by
  have hwire : Wire.siblings cs = .ok (Wire.formChildren cs) :=
    (Wire.children_eq_ok_iff _ _).mpr ⟨fun es hes hcollides => hfree es ⟨hes, hcollides⟩, rfl⟩
  rw [send, hcs]
  change ((Wire.siblings cs).mapError Stopped.wire >>= _) = _
  rw [hwire]
  rfl

/-- If a mapping is refused, then two keys of such a mapping are named for it. -/
lemma exists_collision {cs : List Child} {es : Entries} (h : Refused cs es) :
    ∃ gs l k path, Refused cs gs ∧ l ∈ Entries.keys gs ∧ k ∈ Entries.keys gs ∧
      (Wire.recaseKey l).same (Wire.recaseKey k) = true ∧
      Wire.siblings cs =
        .error (.collision l k (Wire.recaseKey k) (Wire.entryPath path k)) := by
  have hfails := Wire.failsAtFirst_settle
    (fun earlier k => Wire.children_met_iff earlier k "children" 0 cs) (Wire.formChildren cs)
  rw [← Wire.children_eq] at hfails
  obtain ⟨e, he⟩ := hfails.fails_iff.mpr ⟨es, h.1, h.2⟩
  obtain ⟨before, s, after, l, hsites, -, hl, hsame, rfl⟩ := hfails.first e he
  have hmet : Wire.Met (Wire.childSites "children" 0 cs) s.earlier s.key := by
    refine ⟨s, ?_, rfl, rfl⟩
    rw [hsites]
    exact List.mem_append_right _ List.mem_cons_self
  obtain ⟨gs, hgs, later, hkeys⟩ := (hfails.met_iff s.earlier s.key).mp hmet
  refine ⟨gs, l, s.key, s.path, ⟨hgs, s.earlier, s.key, later, hkeys, l, hl, hsame⟩, ?_, ?_, hsame,
    he⟩
  · rw [hkeys]
    exact List.mem_append_left _ hl
  · rw [hkeys]
    exact List.mem_append_right _ List.mem_cons_self

/-- Trees with a mapping that is refused are not sent. -/
lemma send_of_refused {r : Resolver} {context : Context} {trees : List Value} {cs : List Child}
    (hcs : (r.resolveTrees context trees).result = .ok cs) {e : WireFault}
    (he : Wire.siblings cs = .error e) : send r context trees = .error (.wire e) := by
  rw [send, hcs]
  change ((Wire.siblings cs).mapError Stopped.wire >>= _) = _
  rw [he]
  rfl

/-- The trees of the site that are sent along with the usual page: none or its footer. -/
lemma send_defaults [Surroundings] {settings : ImageSettings} {r : Resolver}
    (hr : ∀ name, r.registry.get? name = (Builtin.registry settings).get? name)
    (hlt : 0 < r.maxDepth) (context : Context) (q : PageRequest) :
    ∃ vs, send r context (Page.usual q).defaults = .ok (.list vs) ∧ ∀ v ∈ vs, Textual v := by
  by_cases hsite : q.context = Page.siteContext
  · have hdefaults : (Page.usual q).defaults = [.node (.mk "footer" [] [])] := if_pos hsite
    rw [hdefaults, send_of_free (resolveTrees_footer hr hlt) fun _ => not_refused_footer]
    refine ⟨_, rfl, List.forall_mem_map.mpr ?_⟩
    refine List.forall_mem_singleton.mpr (Textual.shape_node ?_ (List.forall_mem_nil _))
    simp [Textual.Plain, Wire.formEntries, Wire.recaseKey, Wire.form]
  · have hdefaults : (Page.usual q).defaults = [] := if_neg hsite
    rw [hdefaults]
    exact ⟨[], rfl, List.forall_mem_nil _⟩

/-- The body of an answer with a single tree. -/
lemma bodyOf_envelope {vs : List Value} {js : List Json} {v : Value} {page : Json}
    (hjs : Value.toJsons? vs = .ok js ∧ Json.allFinite js = true)
    (hpage : v.toJson? = .ok page ∧ page.isFinite = true) :
    bodyOf (.map [(.str "defaults", .list vs), (.str "page", .list [v]),
      (.str "providers", .list []), (.str "redirectTo", .str ""),
      (.str "redirectStatus", .int 0)]) =
      .ok (.object [("defaults", .array js), ("page", .array [page]), ("providers", .array []),
        ("redirectTo", .str ""), ("redirectStatus", .int 0)]) := by
  have hjson : (Value.map [(.str "defaults", .list vs), (.str "page", .list [v]),
      (.str "providers", .list []), (.str "redirectTo", .str ""),
      (.str "redirectStatus", .int 0)]).toJson? =
      .ok (.object [("defaults", .array js), ("page", .array [page]), ("providers", .array []),
        ("redirectTo", .str ""), ("redirectStatus", .int 0)]) := by
    simp only [Value.toJson?, Value.toMembers?, Value.toJsons?, hjs.1, hpage.1]
    rfl
  have hfinite : (Json.object [("defaults", .array js), ("page", .array [page]),
      ("providers", .array []), ("redirectTo", .str ""),
      ("redirectStatus", .int 0)]).isFinite = true := by
    simp only [Json.isFinite, Json.membersFinite, Json.allFinite, hjs.2, hpage.2, Bool.and_self]
  rw [bodyOf, hjson]
  exact if_pos hfinite

/-- A page that cannot be sent is explained. -/
lemma pageAnswer_of_wire {s : Service} {q : PageRequest} {bound : Nat} {p : Page}
    (hbound : Resolver.depthOf s.maxDepth = .ok bound) (hp : s.builder q = .ok p) {e : WireFault}
    (he : envelope
      { registry := s.registry, maxDepth := bound, traceLevel := s.traceLevel, strict := false }
      (contextOf q.result) p = .error (.wire e)) :
    ∃ a, s.pageAnswer q = .ok a ∧ a.status = 500 ∧ a.body = (failure e).body := by
  refine ⟨{ failure e with built := some q }, ?_, rfl, rfl⟩
  rw [pageAnswer, hbound, hp]
  dsimp only [Except.mapError, bind, Except.bind]
  rw [he]
  rfl

section Envelope

variable [Surroundings] {settings : ImageSettings} {r : Resolver}
  (hr : ∀ name, r.registry.get? name = (Builtin.registry settings).get? name)
  (hdepth : 3 ≤ r.maxDepth) {q : PageRequest} {d : Document Key Value}
  (hd : q.result.documents = [d]) (hid : d.id ≠ 0) (hthere : q.result.notFound = false)
  {found : Except Fault (List Markup.Element)}
  (hfound : MarkupLibrary.elementsOf d.content = some found)

include hr hdepth hd hid hthere

/-- The trees of the usual page are resolved to the page of the document. -/
lemma resolveTrees_usual :
    (r.resolveTrees (contextOf q.result) (Page.usual q).page).result =
      .ok [.node (resolvedPage d (bodyNode d.content))] := by
  have hshows := shows_contextOf hd hid
  rw [(usual_of_singleton hd hthere).1]
  exact resolveTrees_page hr (by omega) hshows (visitAt_body hr (by omega) hshows)

include hfound

/-- The usual page of a document is sent if no attributes of its body clash. -/
lemma envelope_of_not_clashes (hfree : ¬ ∃ e, Markup.ClashesAt d.content found e) :
    ∃ v defaults page, envelope r (contextOf q.result) (Page.usual q) = .ok v ∧
      (Wire.shape (.node (sentPage d (sentBody d.content)))).toJson? = .ok page ∧
      bodyOf v = .ok (.object [("defaults", .array defaults), ("page", .array [page]),
        ("providers", .array []), ("redirectTo", .str ""), ("redirectStatus", .int 0)]) := by
  have hnone : ∀ es, ¬ Refused [.node (resolvedPage d (bodyNode d.content))] es := by
    intro es hes
    obtain ⟨e, he, -⟩ := (refused_body_iff hfound).mp ((refused_page_iff d _).mp hes)
    exact hfree ⟨e, he⟩
  have hpage := send_of_free (resolveTrees_usual hr hdepth hd hid hthere) hnone
  rw [formChildren_page d (formChildren_body d.content), List.map_singleton] at hpage
  obtain ⟨vs, hvs, htextual⟩ :=
    send_defaults hr (by omega) (contextOf q.result) q
  obtain ⟨js, hjs⟩ := Textual.exists_items fun v hv => (htextual v hv).hasDocument
  obtain ⟨page, hjson⟩ := (textual_sentPage d (textual_sentBody d.content)).hasDocument
  refine ⟨_, js, page, ?_, hjson.1, bodyOf_envelope hjs hjson⟩
  rw [envelope, hvs, hpage]
  rfl

/-- The usual page of a document is not sent if attributes of its body clash. -/
lemma envelope_of_clashes (hclash : ∃ e, Markup.ClashesAt d.content found e) :
    ∃ e first second path, Markup.ClashesAt d.content found e ∧
      first ∈ e.attributes.map (·.1) ∧ second ∈ e.attributes.map (·.1) ∧
      Wire.recase first = Wire.recase second ∧
      envelope r (contextOf q.result) (Page.usual q) =
        .error (.wire (.collision (.str first) (.str second) (.str (Wire.recase second))
          (Wire.entryPath path (.str second)))) := by
  have hrefused : ∀ es, Refused [.node (resolvedPage d (bodyNode d.content))] es ↔
      ∃ e, Markup.ClashesAt d.content found e ∧ es = Markup.configOf e :=
    fun es => (refused_page_iff d _).trans (refused_body_iff hfound)
  obtain ⟨e, he⟩ := hclash
  obtain ⟨gs, l, k, path, hgs, hl, hk, hsame, hwire⟩ :=
    exists_collision ((hrefused _).mpr ⟨e, he, rfl⟩)
  obtain ⟨f, hf, rfl⟩ := (hrefused gs).mp hgs
  rw [Markup.keys_configOf] at hl hk
  obtain ⟨a, ha, rfl⟩ := List.mem_map.mp hl
  obtain ⟨b, hb, rfl⟩ := List.mem_map.mp hk
  have hnames : Wire.recase a.1 = Wire.recase b.1 := by
    rw [Wire.recaseKey, Wire.recaseKey, Key.same, beq_iff_eq] at hsame
    exact hsame
  obtain ⟨vs, hvs, -⟩ := send_defaults hr (by omega) (contextOf q.result) q
  refine ⟨f, a.1, b.1, path, hf, List.mem_map_of_mem ha, List.mem_map_of_mem hb, hnames, ?_⟩
  rw [envelope, hvs]
  change (send r (contextOf q.result) (Page.usual q).page >>= _) = _
  rw [send_of_refused (resolveTrees_usual hr hdepth hd hid hthere) hwire]
  rfl

end Envelope

/-- A collision is explained with its place. -/
lemma body_failure (first second name k : Key) (path : String) :
    (failure (.collision first second name (Wire.entryPath path k))).body =
      some (.object [("error", .str "SerializationError"),
        ("message", .str ("Config keys " ++ first.show ++ " and " ++ second.show ++
          " both serialize to " ++ name.show)),
        ("path", .str (Wire.entryPath path k))]) := by
  have hplace : Wire.entryPath path k ≠ "" := by
    simp [Wire.entryPath]
  rw [failure]
  dsimp only [WireFault.path]
  rw [if_neg hplace]
  rfl

/-- A request for the only document of a path with a slash at its end has an answer, whatever texts
the document has.  Unless an element that is shown of its body has attributes that clash, the answer
is a success and has the envelope for its body, with the page of the document as its only tree; and
otherwise it says that two attributes of such an element become the same name, and where. -/
theorem answer_of_document [Surroundings] [WebFramework] (s : Service) (settings : ImageSettings)
    (hregistry : ∀ name, s.registry.get? name = (Builtin.registry settings).get? name)
    (hbuilder : s.builder = fun q => .ok (Page.usual q))
    {bound : Nat} (hbound : Resolver.depthOf s.maxDepth = .ok bound) (hdepth : 3 ≤ bound)
    (req : Request) (hroute : WebFramework.dispatch req = .handled .components)
    (hslash : (s.question req).path.toList.getLast? = some '/')
    {d : Document Key Value} (hd : (s.question req).result.documents = [d]) (hid : d.id ≠ 0)
    {found : Except Fault (List Markup.Element)}
    (hfound : MarkupLibrary.elementsOf d.content = some found) :
    ∃ a, s.answer req = .ok a ∧
      ((¬ ∃ e, Markup.ClashesAt d.content found e) → a.status = 200 ∧
        ∃ defaults page,
          (Wire.shape (.node (Builtin.sentPage d (Builtin.sentBody d.content)))).toJson? =
            .ok page ∧
          a.body = some (.object [("defaults", .array defaults), ("page", .array [page]),
            ("providers", .array []), ("redirectTo", .str ""), ("redirectStatus", .int 0)])) ∧
      ((∃ e, Markup.ClashesAt d.content found e) → a.status = 500 ∧
        ∃ e first second path, Markup.ClashesAt d.content found e ∧
          first ∈ e.attributes.map (·.1) ∧ second ∈ e.attributes.map (·.1) ∧
          Wire.recase first = Wire.recase second ∧
          a.body = some (.object [("error", .str "SerializationError"),
            ("message", .str ("Config keys " ++ (Key.str first).show ++ " and " ++
              (Key.str second).show ++ " both serialize to " ++
              (Key.str (Wire.recase second)).show)),
            ("path", .str (Wire.entryPath path (.str second)))])) := by
  have hanswer : s.answer req = s.pageAnswer (s.question req) := by
    rw [answer, hroute]
    change s.components req = _
    rw [components]
    simp only [hslash, ne_eq, not_true_eq_false, decide_false, Bool.false_and, Bool.false_eq_true,
      if_false]
  have hthere : (s.question req).result.notFound = false := by
    refine notFound_of_hasDocuments ?_
    change (s.question req).result.hasDocuments = true
    rw [QueryResult.hasDocuments, hd]
    rfl
  have hp : s.builder (s.question req) = .ok (Page.usual (s.question req)) :=
    congrFun hbuilder _
  let r : Resolver :=
    { registry := s.registry, maxDepth := bound, traceLevel := s.traceLevel, strict := false }
  rw [hanswer]
  by_cases hclash : ∃ e, Markup.ClashesAt d.content found e
  · obtain ⟨e, first, second, path, he, hfirst, hsecond, hnames, henvelope⟩ :=
      envelope_of_clashes (r := r) hregistry hdepth hd hid hthere hfound hclash
    obtain ⟨a, ha, hstatus, hbody⟩ := pageAnswer_of_wire hbound hp henvelope
    rw [body_failure] at hbody
    exact ⟨a, ha, fun hfree => absurd hclash hfree,
      fun _ => ⟨hstatus, e, first, second, path, he, hfirst, hsecond, hnames, hbody⟩⟩
  · obtain ⟨v, defaults, page, henvelope, hsent, hbody⟩ :=
      envelope_of_not_clashes (r := r) hregistry hdepth hd hid hthere hfound hclash
    obtain ⟨a, ha, hstatus, hjson⟩ := pageAnswer_of_envelope hbound hp henvelope hbody hthere
    exact ⟨a, ha, fun _ => ⟨hstatus, defaults, page, hsent, hjson⟩, fun h => absurd h hclash⟩

open scoped Standard

/-- The page of a document whose attributes do not clash, where no more than three levels may be
resolved. -/
theorem answer_of_document_fish :
    ∃ a, fishShop.answer (asking "/fish/") = .ok a ∧ a.status = 200 ∧
      ∃ defaults page,
        (Wire.shape (.node (Builtin.sentPage fish (Builtin.sentBody fish.content)))).toJson? =
          .ok page ∧
        a.body = some (.object [("defaults", .array defaults), ("page", .array [page]),
          ("providers", .array []), ("redirectTo", .str ""), ("redirectStatus", .int 0)]) := by
  have hquestion := question_asking fishShop "/fish/"
  have hslash : (fishShop.question (asking "/fish/")).path.toList.getLast? = some '/' := by
    rw [hquestion]
    decide
  have hd : (fishShop.question (asking "/fish/")).result.documents = [fish] := by
    rw [hquestion]
    rfl
  have hbound : Resolver.depthOf fishShop.maxDepth = .ok 3 := rfl
  have helements : MarkupLibrary.elementsOf fish.content =
      some (.ok [⟨"p", [("class", .words ["a", "b"])], "hi"⟩]) := by
    have hread : Markup.elementsOf fish.content =
        .ok [⟨"p", [("class", .words ["a", "b"])], "hi"⟩] := by decide +kernel
    change (if Markup.hasStrayReference fish.content.toList then none else _) = _
    rw [if_neg (by decide +kernel), hread]
    rfl
  have hfree : ¬ ∃ e, Markup.ClashesAt fish.content
      (.ok [⟨"p", [("class", .words ["a", "b"])], "hi"⟩]) e := by
    rintro ⟨e, -, ⟨all, hall, hmem⟩, -, hclash⟩
    cases hall
    obtain rfl := List.mem_singleton.mp hmem
    exact hclash (List.nodup_singleton _)
  obtain ⟨a, ha, hshown, -⟩ := answer_of_document fishShop .empty (fun _ => rfl) rfl hbound
    (Nat.le_refl 3) (asking "/fish/") rfl hslash hd (by decide) helements
  exact ⟨a, ha, hshown hfree⟩

/-- A document with two attributes that get the same name when they are sent. -/
def twins : Document Key Value :=
  ⟨1, "A", "<p a=\"1\" a_=\"2\">hi</p>", "", "/a/", "", [], none, []⟩

/-- A service for a single document with the usual pages and the usual bound on the depth. -/
def twinShop : Service where
  registry := Builtin.registry .empty
  site := Site.empty.add "/a/" [twins]
  builder := fun q => .ok (Page.usual q)
  maxDepth := .int Settings.maxDepth
  traceLevel := .errors

/-- The attributes of one paragraph take the page of a document down, although the document has a
number and is the only one of its path. -/
theorem clashing_attributes_take_page_down :
    (twinShop.question (asking "/a/")).path = "/a/" ∧
      (twinShop.question (asking "/a/")).result.documents = [twins] ∧ twins.id ≠ 0 ∧
      ∃ a, twinShop.answer (asking "/a/") = .ok a ∧ a.status = 500 := by
  have hquestion := question_asking twinShop "/a/"
  have hstatus : (twinShop.answer (asking "/a/")).toOption.map (·.status) = some 500 := by
    decide +kernel
  refine ⟨congrArg PageRequest.path hquestion, ?_, by decide, ?_⟩
  · rw [hquestion]
    rfl
  · cases ha : twinShop.answer (asking "/a/") with
    | error e =>
      rw [ha] at hstatus
      cases hstatus
    | ok a =>
      rw [ha] at hstatus
      exact ⟨a, rfl, Option.some.inj hstatus⟩

end Service

end PageTree
