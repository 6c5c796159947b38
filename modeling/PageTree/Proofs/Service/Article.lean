import PageTree.Proofs.Builtin.Article
import PageTree.Proofs.Service.Redirect

/-!
# The answer about a single document

A request for a path with exactly one document is answered with the page of the document.  The
context of the request names the document, so that the parts of the page find it
(`shows_contextOf`); they are resolved where the bound on the depth is at least three; and what is
sent is one container with the title, the author, the body and the tags (`answer_is_article`).

There is one kind of title that is not read, and the node that asks for it is sent in its place
(`unread_title_stays_in_page`).
-/

namespace PageTree

/-- A reference by a decimal number with more digits than are read is not replaced. -/
lemma Markup.unescape?_of_long {digits : List Char} (hdigits : ∀ c ∈ digits, c.isDigit = true)
    (hlong : Numeral.maxDigits < digits.length) :
    unescape? (String.ofList ('&' :: '#' :: digits)) = .error (.longInteger digits.length) := by
  have hall : digits.takeWhile Char.isDigit = digits := List.takeWhile_eq_self_iff.mpr hdigits
  have hfirst : longReference? ('&' :: '#' :: digits) = some digits.length := by
    rw [longReference?, List.drop_one, List.tail_cons, hall]
    exact if_pos ⟨rfl, rfl, hlong⟩
  rw [unescape?, String.toList_ofList, hfirst]

namespace Service

/-- The context of a request with one document names the document, and it is found. -/
lemma shows_contextOf {q : QueryResult Key Value} {d : Document Key Value}
    (hq : q.documents = [d]) (hid : d.id ≠ 0) : Builtin.Shows (contextOf q) d := by
  have hentries : contextOf q =
      ⟨[(.str Context.documentKey, .int d.id), (.str Context.queryKey, .query q)]⟩ := by
    rw [contextOf, documentId, hq]
    rfl
  have htruthy : (Value.int d.id).truthy = true := bne_iff_ne.mpr hid
  have hequal : Value.equal (.int d.id) (.int d.id) = true := beq_self_eq_true d.id
  refine ⟨[(.str Builtin.postId, .int d.id)], ?_, ?_⟩
  · rw [hentries]
    rfl
  · have hdocument : q.document? (.int d.id) = some d := by
      rw [QueryResult.document?, if_pos htruthy, hq,
        List.find?_cons_of_pos (p := fun e : Document Key Value => Value.equal (.int e.id)
          (.int d.id)) hequal]
    rw [hentries]
    exact hdocument

/-- The members of a document are those of the entries, one after the other. -/
lemma toMembers?_cons_eq_ok {name : String} {v : Value} {rest : Entries}
    {members : List (String × Json)} (h : Value.toMembers? ((.str name, v) :: rest) = .ok members) :
    ∃ j others, v.toJson? = .ok j ∧ Value.toMembers? rest = .ok others ∧
      members = (name, j) :: others := by
  rw [Value.toMembers?] at h
  obtain ⟨name', hname, h1⟩ := (bind_eq_ok_iff _ _ _).mp h
  obtain ⟨j, hj, h2⟩ := (bind_eq_ok_iff _ _ _).mp h1
  obtain ⟨others, hothers, h3⟩ := (bind_eq_ok_iff _ _ _).mp h2
  cases hname
  cases h3
  exact ⟨j, others, hj, hothers, rfl⟩

/-- A list of one value is written as an array of one document. -/
lemma toJson?_singleton_eq_ok {v : Value} {j : Json} (h : (Value.list [v]).toJson? = .ok j) :
    ∃ i, v.toJson? = .ok i ∧ j = .array [i] := by
  rw [Value.toJson?, Value.toJsons?, Value.toJsons?] at h
  obtain ⟨js, hjs, rfl⟩ := (map_eq_ok_iff _ _ _).mp h
  obtain ⟨i, hi, h1⟩ := (bind_eq_ok_iff _ _ _).mp hjs
  cases h1
  exact ⟨i, hi, rfl⟩

/-- A body is written as the document that its value is. -/
lemma toJson?_of_bodyOf {v : Value} {j : Json} (h : bodyOf v = .ok j) : v.toJson? = .ok j := by
  obtain ⟨i, hi, h1⟩ := (bind_eq_ok_iff _ _ _).mp h
  rw [mapError_eq_ok_iff] at hi
  split at h1
  · cases h1
    exact hi
  · cases h1

/-- A page that is sent with a tree among its trees is made of three lists of trees. -/
lemma envelope_eq_ok {r : Resolver} {context : Context} {p : Page} {v : Value}
    (h : envelope r context p = .ok v) :
    ∃ defaults page providers, send r context p.page = .ok page ∧
      send r context p.providers = .ok providers ∧
      v = .map [(.str "defaults", defaults), (.str "page", page),
        (.str "providers", providers),
        (.str "redirectTo", .str p.redirectTo),
        (.str "redirectStatus", .int p.redirectStatus)] := by
  obtain ⟨defaults, -, h1⟩ := (bind_eq_ok_iff _ _ _).mp h
  obtain ⟨page, hpage, h2⟩ := (bind_eq_ok_iff _ _ _).mp h1
  obtain ⟨providers, hproviders, h3⟩ := (bind_eq_ok_iff _ _ _).mp h2
  cases h3
  exact ⟨defaults, page, providers, hpage, hproviders, rfl⟩

/-- Trees that are sent are the wire form of what they are resolved to. -/
lemma send_eq_ok {r : Resolver} {context : Context} {trees : List Value} {cs : List Child}
    {v : Value} (hcs : (r.resolveTrees context trees).result = .ok cs)
    (h : send r context trees = .ok v) : v = .list ((Wire.formChildren cs).map Wire.shape) := by
  rw [send, hcs] at h
  obtain ⟨children, hchildren, h1⟩ := (bind_eq_ok_iff _ _ _).mp h
  obtain ⟨wire, hwire, h2⟩ := (bind_eq_ok_iff _ _ _).mp h1
  cases hchildren
  rw [mapError_eq_ok_iff, Wire.siblings, Wire.children_eq_ok_iff] at hwire
  cases h2
  rw [hwire.2]

/-- A page of one tree, without providers and without a redirect, is an object whose members say
so. -/
lemma toJson?_of_singleton {defaults v : Value} {j : Json}
    (h : (Value.map [(.str "defaults", defaults), (.str "page", .list [v]),
      (.str "providers", .list []), (.str "redirectTo", .str ""),
      (.str "redirectStatus", .int 0)]).toJson? = .ok j) :
    ∃ first page, v.toJson? = .ok page ∧
      j = .object [("defaults", first), ("page", .array [page]), ("providers", .array []),
        ("redirectTo", .str ""), ("redirectStatus", .int 0)] := by
  rw [Value.toJson?] at h
  obtain ⟨members, hmembers, rfl⟩ := (map_eq_ok_iff _ _ _).mp h
  obtain ⟨first, _, -, h1, rfl⟩ := toMembers?_cons_eq_ok hmembers
  obtain ⟨pages, _, hpages, h2, rfl⟩ := toMembers?_cons_eq_ok h1
  obtain ⟨page, hpage, rfl⟩ := toJson?_singleton_eq_ok hpages
  -- nothing that follows depends on the tree
  cases h2
  exact ⟨first, page, hpage, rfl⟩

/-- The usual page of a request with one document consists of the parts of the document. -/
lemma usual_of_singleton {q : PageRequest} {d : Document Key Value}
    (hd : q.result.documents = [d]) (hfound : q.result.notFound = false) :
    (Page.usual q).page = [Page.article] ∧ (Page.usual q).providers = [] := by
  refine ⟨?_, rfl⟩
  simp only [Page.usual, hfound, hd, Bool.false_eq_true, if_false]

/-- An answer with a page and the status of success has the page as its body. -/
lemma pageAnswer_eq_ok {s : Service} {q : PageRequest} {a : Answer} (h : s.pageAnswer q = .ok a)
    (h200 : a.status = 200) {bound : Nat} (hbound : Resolver.depthOf s.maxDepth = .ok bound)
    {p : Page} (hp : s.builder q = .ok p) :
    q.result.notFound = false ∧
    ∃ v j, envelope
        { registry := s.registry, maxDepth := bound, traceLevel := s.traceLevel, strict := false }
        (contextOf q.result) p = .ok v ∧
      bodyOf v = .ok j ∧ a.body = some j := by
  obtain ⟨n, hn, h1⟩ := (bind_eq_ok_iff _ _ _).mp h
  obtain ⟨p', hp', h2⟩ := (bind_eq_ok_iff _ _ _).mp h1
  rw [hbound] at hn
  rw [hp] at hp'
  cases hn
  cases hp'
  dsimp only at h2
  split at h2
  · rename_i v hv
    obtain ⟨body, hbody, h3⟩ := (bind_eq_ok_iff _ _ _).mp h2
    cases h3
    refine ⟨?_, v, body, hv, hbody, rfl⟩
    cases hmissing : q.result.notFound with
    | false => rfl
    | true =>
      have hstatus : (if q.result.notFound then 404 else 200 : Nat) = 200 := h200
      rw [hmissing] at hstatus
      cases hstatus
  · cases h2
    cases h200
  · cases h2

/-- A page that can be sent is the body of the answer. -/
lemma pageAnswer_of_envelope {s : Service} {q : PageRequest} {bound : Nat}
    (hbound : Resolver.depthOf s.maxDepth = .ok bound) {p : Page} (hp : s.builder q = .ok p)
    {v : Value} {j : Json}
    (hv : envelope
      { registry := s.registry, maxDepth := bound, traceLevel := s.traceLevel, strict := false }
      (contextOf q.result) p = .ok v)
    (hj : bodyOf v = .ok j) (hfound : q.result.notFound = false) :
    ∃ a, s.pageAnswer q = .ok a ∧ a.status = 200 ∧ a.body = some j := by
  refine ⟨{ Answer.withBody 200 j with built := some q }, ?_, rfl, rfl⟩
  rw [pageAnswer, hbound, hp]
  dsimp only [Except.mapError, bind, Except.bind]
  rw [hv]
  dsimp only
  rw [hj, hfound]
  rfl

/-- A request for the only document of a path with a slash at its end, answered with success, is
answered with the page of the document and nothing else, whatever texts, tags and body the document
has. -/
theorem answer_is_article [Surroundings] (s : Service) (settings : ImageSettings)
    (hregistry : ∀ name, s.registry.get? name = (Builtin.registry settings).get? name)
    (hbuilder : s.builder = fun q => .ok (Page.usual q))
    {bound : Nat} (hbound : Resolver.depthOf s.maxDepth = .ok bound) (hdepth : 3 ≤ bound)
    (req : Request) (hslash : (s.question req).path.toList.getLast? = some '/')
    {d : Document Key Value} (hd : (s.question req).result.documents = [d]) (hid : d.id ≠ 0)
    {nodes : List Node}
    (hnodes : Markup.nodesOf d.content (.list (Builtin.contentTags.map .str)) = .ok nodes)
    {a : Answer} (ha : s.components req = .ok a) (h200 : a.status = 200) :
    ∃ defaults page,
      (Wire.shape (.node (Builtin.articlePage d nodes))).toJson? = .ok page ∧
      a.body = some (.object [("defaults", defaults), ("page", .array [page]),
        ("providers", .array []), ("redirectTo", .str ""), ("redirectStatus", .int 0)]) := by
  have hanswer : s.pageAnswer (s.question req) = .ok a := by
    rw [components] at ha
    simpa only [hslash, ne_eq, not_true_eq_false, decide_false, Bool.false_and, Bool.false_eq_true,
      if_false] using ha
  obtain ⟨hfound, v, j, hv, hj, hbody⟩ :=
    pageAnswer_eq_ok hanswer h200 hbound (congrFun hbuilder (s.question req))
  obtain ⟨defaults, page, providers, hpage, hproviders, rfl⟩ := envelope_eq_ok hv
  obtain ⟨hparts, hnone⟩ := usual_of_singleton hd hfound
  -- what is sent for the page
  rw [hparts] at hpage
  have hresolved := Builtin.resolveTrees_article
    (r :=
      { registry := s.registry, maxDepth := bound, traceLevel := s.traceLevel, strict := false })
    hregistry hdepth (shows_contextOf hd hid) hnodes
  rw [send_eq_ok hresolved hpage,
    Builtin.formChildren_article d (Markup.flat_of_nodesOf hnodes)] at hj
  -- what is sent for the providers
  rw [hnone] at hproviders
  cases hproviders
  obtain ⟨first, sent, hsent, rfl⟩ := toJson?_of_singleton (toJson?_of_bodyOf hj)
  exact ⟨first, sent, hsent, hbody⟩

open scoped Standard

/-- A document with a title, an author, a body and a tag. -/
def fish : Document Key Value :=
  ⟨1, "Fish &amp; chips", "<p class=\"a b\">hi</p>", "", "/fish/", "Ann", [⟨"sea", "/sea/"⟩], none,
    []⟩

/-- A service that shows a single document at a single path, with the usual pages. -/
def fishShop : Service where
  registry := Builtin.registry .empty
  site := Site.empty.add "/fish/" [fish]
  builder := fun q => .ok (Page.usual q)
  maxDepth := .int 3
  traceLevel := .errors

/-- The page of a document with all parts, where no more than three levels may be resolved. -/
theorem answer_is_article_fish :
    ∃ nodes a defaults page,
      Markup.nodesOf fish.content (.list (Builtin.contentTags.map .str)) = .ok nodes ∧
      nodes.map (·.type) = ["p"] ∧
      fishShop.components (asking "/fish/") = .ok a ∧ a.status = 200 ∧
      (Wire.shape (.node (Builtin.articlePage fish nodes))).toJson? = .ok page ∧
      a.body = some (.object [("defaults", defaults), ("page", .array [page]),
        ("providers", .array []), ("redirectTo", .str ""), ("redirectStatus", .int 0)]) := by
  have hquestion := question_asking fishShop "/fish/"
  have htypes : (Markup.nodesOf fish.content
      (.list (Builtin.contentTags.map .str))).toOption.map (·.map (·.type)) = some ["p"] := by
    decide +kernel
  have hstatus : (fishShop.components (asking "/fish/")).toOption.map (·.status) = some 200 := by
    decide +kernel
  cases hnodes : Markup.nodesOf fish.content (.list (Builtin.contentTags.map .str)) with
  | error e =>
    rw [hnodes] at htypes
    cases htypes
  | ok nodes =>
    cases ha : fishShop.components (asking "/fish/") with
    | error e =>
      rw [ha] at hstatus
      cases hstatus
    | ok a =>
      rw [hnodes] at htypes
      rw [ha] at hstatus
      have hslash : (fishShop.question (asking "/fish/")).path.toList.getLast? = some '/' := by
        rw [hquestion]
        decide
      have hd : (fishShop.question (asking "/fish/")).result.documents = [fish] := by
        rw [hquestion]
        rfl
      have hbound : Resolver.depthOf fishShop.maxDepth = .ok 3 := rfl
      obtain ⟨defaults, page, hpage, hbody⟩ := answer_is_article fishShop .empty (fun _ => rfl) rfl
        hbound (Nat.le_refl 3) (asking "/fish/") hslash hd (by decide) hnodes ha
        (Option.some.inj hstatus)
      exact ⟨nodes, a, defaults, page, rfl, Option.some.inj htypes, rfl, Option.some.inj hstatus,
        hpage, hbody⟩

/-- A document whose title refers to a character by a number with more digits than are read. -/
def numbered : Document Key Value :=
  ⟨1, String.ofList ('&' :: '#' :: List.replicate 4301 '1'), "", "", "/fish/", "Ann", [], none, []⟩

/-- The title of this document is not read. -/
lemma titleParts_numbered : Builtin.titleParts numbered = [.node (.mk "post/title" [] [])] := by
  refine Builtin.titleParts_of_error (Markup.unescape?_of_long (fun c hc => ?_) ?_)
  · rw [List.eq_of_mem_replicate hc]
    rfl
  · rw [List.length_replicate]
    decide

/-- A service that shows this document at the same path. -/
def numberedShop : Service :=
  { fishShop with site := Site.empty.add "/fish/" [numbered] }

/-- In the page of a document whose title is not read, the node that asked for the title stands in
its place, although the page is answered with success. -/
theorem unread_title_stays_in_page :
    (numberedShop.question (asking "/fish/")).path = "/fish/" ∧
      (numberedShop.question (asking "/fish/")).result.documents = [numbered] ∧ numbered.id ≠ 0 ∧
      ∃ a rest, numberedShop.components (asking "/fish/") = .ok a ∧ a.status = 200 ∧
        a.body = some (.object [("defaults", .array []),
          ("page", .array [.object [("type", .str "container"),
            ("config", .object [("themeName", .str "default"), ("maxWidth", .str "lg")]),
            ("children", .array (.object [("type", .str "post/title"), ("config", .object []),
              ("children", .array [])] :: rest))]]),
          ("providers", .array []), ("redirectTo", .str ""), ("redirectStatus", .int 0)]) := by
  have hquestion := question_asking numberedShop "/fish/"
  have hanswer : numberedShop.components (asking "/fish/") =
      numberedShop.pageAnswer ⟨"/fish/", "page", numberedShop.site.query "/fish/" false, []⟩ := by
    rw [components, hquestion]
    exact if_neg (by decide)
  rw [hquestion, hanswer]
  refine ⟨rfl, rfl, by decide, ?_⟩
  generalize hq : PageRequest.mk "/fish/" "page" (numberedShop.site.query "/fish/" false) [] = q
  have hdocuments : q.result.documents = [numbered] := by rw [← hq]; rfl
  have hthere : q.result.notFound = false := by rw [← hq]; rfl
  let r : Resolver :=
    { registry := numberedShop.registry, maxDepth := 3, traceLevel := .errors, strict := false }
  have hnodes : Markup.nodesOf numbered.content (.list (Builtin.contentTags.map .str)) = .ok [] :=
    rfl
  have hresolved := Builtin.resolveTrees_article (r := r) (fun _ => rfl) (Nat.le_refl 3)
    (shows_contextOf hdocuments (by decide)) hnodes
  have hpage : send r (contextOf q.result) (Page.usual q).page =
      .ok (.list [Wire.shape (.node (Builtin.articlePage numbered []))]) := by
    rw [(usual_of_singleton hdocuments hthere).1, send, hresolved, Builtin.articlePage,
      Builtin.resolvedArticle, Builtin.resolvedPage, titleParts_numbered]
    rfl
  have henvelope : envelope r (contextOf q.result) (Page.usual q) =
      .ok (.map [(.str "defaults", .list []),
        (.str "page", .list [Wire.shape (.node (Builtin.articlePage numbered []))]),
        (.str "providers", .list []), (.str "redirectTo", .str ""),
        (.str "redirectStatus", .int 0)]) := by
    rw [envelope, hpage, ← hq]
    rfl
  rw [Builtin.articlePage, titleParts_numbered] at henvelope
  obtain ⟨a, ha, hstatus, hbody⟩ :=
    pageAnswer_of_envelope (s := numberedShop) rfl rfl henvelope rfl hthere
  exact ⟨a, _, ha, hstatus, hbody⟩

end Service

end PageTree
