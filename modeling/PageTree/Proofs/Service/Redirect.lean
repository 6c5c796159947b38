import PageTree.Proofs.Service.Form
import PageTree.Proofs.Site.Path
import PageTree.Service.Basic

/-!
# The redirect to a slash

A request for a path that shows something is redirected to the path with a slash at its end.  The
target of the redirect names the other parameters as they were, and it is answered with a page and
not redirected again (`slash_redirect_carries`).

What the page is about is another question.  The route looks at the path as it was asked for, and
the site at its normal form.  For a path that takes a slash the two agree, and the target shows what
the path shows.  White space at the end of a path is hidden by the slash behind it, and there is no
page for what is then asked for (`redirect_hides_page`).
-/

namespace PageTree

open Text

namespace Service

/-! ## The parameters of the target -/

/-- A parameter of the target of a redirect: the path has a slash more. -/
def withSlash (path : String) (p : String × String) : String × String :=
  if p.1 = "path" then (p.1, path ++ "/") else p

/-- The parameters of the target of a redirect. -/
def slashParams (req : Request) (path : String) : List (String × String) :=
  req.params.map (withSlash path)

/-- The request that a redirect leads to. -/
def slashTarget (req : Request) (path : String) : Request :=
  ⟨treesPath, Request.form (slashParams req path)⟩

/-- A parameter keeps its name. -/
@[simp] lemma withSlash_fst (path : String) (p : String × String) : (withSlash path p).1 = p.1 := by
  unfold withSlash
  split <;> rfl

/-- A parameter of another name stays as it is. -/
lemma withSlash_of_ne (path : String) {p : String × String} (h : p.1 ≠ "path") :
    withSlash path p = p :=
  if_neg h

/-- The path is redirected to the target with its parameters, unless one of them has the name that
no address can be made with. -/
lemma slashRedirect_eq (req : Request) (path : String) :
    slashRedirect req path =
      if (slashParams req path).any (·.1 == unlinkable) then
        .error (.fault (.extraArguments unlinkable 1 1 2))
      else .ok (.redirect 301 (Request.location treesPath (slashTarget req path).query)) := by
  rw [slashRedirect]
  rfl

section Target

variable (req : Request) (path : String)

/-- The target has the parameters that it was made with. -/
lemma params_slashTarget : (slashTarget req path).params = slashParams req path := by
  have hnames : (slashParams req path).map (·.1) = req.params.map (·.1) := by
    rw [slashParams, List.map_map]
    exact List.map_congr_left fun p _ => withSlash_fst path p
  refine Request.params_form ?_ treesPath
  rw [hnames]
  exact Request.nodup_params req

/-- What is found under a name in the target is what is found in the request. -/
lemma find?_slashTarget (name : String) :
    (slashTarget req path).params.find? (·.1 == name) =
      (req.params.find? (·.1 == name)).map (withSlash path) := by
  have hsame : ((·.1 == name) ∘ withSlash path : String × String → Bool) = (·.1 == name) := by
    funext p
    simp
  rw [params_slashTarget, slashParams, List.find?_map, hsame]

/-- The other parameters have the values that they had. -/
lemma param?_slashTarget_of_ne {name : String} (h : name ≠ "path") :
    (slashTarget req path).param? name = req.param? name := by
  rw [Request.param?, Request.param?, find?_slashTarget]
  cases hfind : req.params.find? (·.1 == name) with
  | none => rfl
  | some p =>
    have hp : p.1 = name := by simpa using List.find?_some hfind
    have hne : p.1 ≠ "path" := hp ▸ h
    rw [Option.map_some, withSlash_of_ne path hne]

/-- The path of the target has a slash more, if a path is given. -/
lemma param?_slashTarget_path (h : req.param? "path" ≠ none) :
    (slashTarget req path).param? "path" = some (path ++ "/") := by
  rw [Request.param?] at h ⊢
  rw [find?_slashTarget]
  cases hfind : req.params.find? (·.1 == "path") with
  | none =>
    rw [hfind] at h
    exact absurd rfl h
  | some p =>
    have hp : p.1 = "path" := by simpa using List.find?_some hfind
    rw [Option.map_some, Option.map_some, withSlash, if_pos hp]

/-- The parameters that the service does not use itself are as they were. -/
lemma filter_slashTarget :
    ((slashTarget req path).params.filter fun (k, _) => !reservedParams.contains k) =
      req.params.filter fun (k, _) => !reservedParams.contains k := by
  have hsame : ((fun (k, _) => !reservedParams.contains k) ∘ withSlash path :
      String × String → Bool) = fun (k, _) => !reservedParams.contains k := by
    funext p
    simp
  rw [params_slashTarget, slashParams, List.filter_map, hsame]
  refine (List.map_congr_left fun p hp => ?_).trans (List.map_id _)
  refine withSlash_of_ne path fun hpath => ?_
  have hkeep := List.of_mem_filter hp
  simp [hpath, reservedParams] at hkeep

end Target

/-! ## What the target asks for -/

section Question

variable (s : Service) (req : Request)

/-- A path without a slash at its end was given with the request. -/
lemma param?_path_ne_none (h : (s.question req).path.toList.getLast? ≠ some '/') :
    req.param? "path" ≠ none := by
  intro hnone
  have hpath : (s.question req).path = "/" := by
    rw [question, hnone]
    rfl
  rw [hpath] at h
  exact h (by decide)

/-- The target asks for the path with a slash more, and for the rest as it was. -/
lemma question_slashTarget (h : (s.question req).path.toList.getLast? ≠ some '/') :
    s.question (slashTarget req (s.question req).path) =
      { s.question req with
        path := (s.question req).path ++ "/"
        result := s.site.query ((s.question req).path ++ "/")
          ((s.question req).params.any (·.1 == "s")) } := by
  have hpath := param?_slashTarget_path req (s.question req).path (s.param?_path_ne_none req h)
  rw [question, hpath, filter_slashTarget, param?_slashTarget_of_ne _ _ (by decide)]
  rfl

/-- The target has a parameter, since a path was given. -/
lemma slashParams_ne_nil (h : (s.question req).path.toList.getLast? ≠ some '/') :
    slashParams req (s.question req).path ≠ [] := by
  intro hnil
  refine s.param?_path_ne_none req h ?_
  rw [slashParams, List.map_eq_nil_iff] at hnil
  rw [Request.param?, hnil]
  rfl

/-- Whatever the site is, the target shows the same documents, exactly if the path takes a slash. -/
lemma result_slashTarget_iff (h : (s.question req).path.toList.getLast? ≠ some '/') :
    (∀ site, (({ s with site } : Service).question
      (slashTarget req (s.question req).path)).result =
        (({ s with site } : Service).question req).result) ↔
      TakesSlash (s.question req).path := by
  rw [← Site.query_append_slash_iff _ ((s.question req).params.any (·.1 == "s"))]
  refine forall_congr' fun site => ?_
  have hsite := ({ s with site } : Service).question_slashTarget req h
  have hpath : (({ s with site } : Service).question req).path = (s.question req).path := rfl
  rw [← hpath, hsite]
  rfl

/-- A path with a slash at its end is answered with a page. -/
lemma components_of_slash {path : String} (h : (s.question req).path = path ++ "/") :
    s.components req = s.pageAnswer (s.question req) := by
  have hlast : (s.question req).path.toList.getLast? = some '/' := by
    rw [h, String.toList_append]
    exact List.getLast?_concat
  rw [components]
  simp only [hlast, ne_eq, not_true_eq_false, decide_false, Bool.false_and, Bool.false_eq_true,
    if_false]

/-- A page is never a redirect, and it is not found only if there is nothing for its path. -/
lemma status_of_pageAnswer {q : PageRequest} {a : Answer} (h : s.pageAnswer q = .ok a) :
    a.status ≠ 301 ∧ (a.status = 404 → q.result.notFound = true) := by
  obtain ⟨bound, -, h⟩ := (bind_eq_ok_iff _ _ _).mp h
  obtain ⟨page, -, h⟩ := (bind_eq_ok_iff _ _ _).mp h
  dsimp only at h
  split at h
  · obtain ⟨body, -, h⟩ := (bind_eq_ok_iff _ _ _).mp h
    cases h
    cases hmissing : q.result.notFound with
    | true => exact ⟨(by decide : (404 : Nat) ≠ 301), fun _ => rfl⟩
    | false =>
      exact ⟨(by decide : (200 : Nat) ≠ 301),
        fun h404 => absurd h404 (by decide : (200 : Nat) ≠ 404)⟩
  · cases h
    exact ⟨(by decide : (500 : Nat) ≠ 301),
      fun h404 => absurd h404 (by decide : (500 : Nat) ≠ 404)⟩
  · cases h

/-- What is found is not missing. -/
lemma notFound_of_hasDocuments {site : Site} {path : String} {search : Bool}
    (h : (site.query path search).hasDocuments = true) :
    (site.query path search).notFound = false := by
  unfold Site.query at h ⊢
  split
  · rename_i hnil
    rw [hnil] at h
    cases h
  · rfl

/-- Only a path without a slash at its end, for which there is something, is redirected. -/
lemma redirected_of_status {a : Answer} (h : s.components req = .ok a) (h301 : a.status = 301) :
    (s.question req).path.toList.getLast? ≠ some '/' ∧
      (s.question req).result.hasDocuments = true ∧
      a.location = some (Request.location treesPath
        (slashTarget req (s.question req).path).query) := by
  rw [components] at h
  split at h
  · rename_i hcondition
    rw [Bool.and_eq_true, decide_eq_true_eq] at hcondition
    rw [slashRedirect_eq] at h
    split at h
    · cases h
    · cases h
      exact ⟨hcondition.1, hcondition.2, rfl⟩
  · exact absurd h301 (s.status_of_pageAnswer h).1

end Question

/-! ## The redirect -/

/-- A request that is answered with a redirect leads to another one, which a client reads off the
address unless it is too long.  That one is answered with a page and not redirected again.  It names
the path with a slash more, and the context and all other parameters as they were.  It shows the
same documents, whatever the site is, exactly if the path takes a slash; and then the page is not
missing. -/
theorem slash_redirect_carries [Client] [LawfulClient] (s : Service) (req : Request) (a : Answer)
    (h : s.components req = .ok a) (h301 : a.status = 301) :
    ∃ next : Request,
      a.location = some (Request.location next.path next.query) ∧
      ((Request.location next.path next.query).toList.length ≤ Url.maxLength →
        Client.request (Request.location next.path next.query) none = .ok next) ∧
      s.components next = s.pageAnswer (s.question next) ∧
      (∀ b, s.components next = .ok b → b.status ≠ 301) ∧
      (s.question next).path = (s.question req).path ++ "/" ∧
      (s.question next).context = (s.question req).context ∧
      (s.question next).params = (s.question req).params ∧
      ((∀ site, (({ s with site } : Service).question next).result =
          (({ s with site } : Service).question req).result) ↔
        TakesSlash (s.question req).path) ∧
      (TakesSlash (s.question req).path →
        (s.question next).result = (s.question req).result ∧
        ∀ b, s.components next = .ok b → b.status ≠ 404) := by
  obtain ⟨hlast, hdocuments, hlocation⟩ := s.redirected_of_status req h h301
  have hquestion := s.question_slashTarget req hlast
  have hpage := s.components_of_slash (slashTarget req (s.question req).path)
    (congrArg PageRequest.path hquestion)
  have hsites := s.result_slashTarget_iff req hlast
  refine ⟨slashTarget req (s.question req).path, hlocation, ?_, hpage, ?_, ?_, ?_, ?_, hsites, ?_⟩
  · exact LawfulClient.request_location (s.slashParams_ne_nil req hlast)
  · intro b hb
    rw [hpage] at hb
    exact (s.status_of_pageAnswer hb).1
  · rw [hquestion]
  · rw [hquestion]
  · rw [hquestion]
  · intro htakes
    have hresult := hsites.mpr htakes s.site
    refine ⟨hresult, fun b hb h404 => ?_⟩
    rw [hpage] at hb
    have hmissing := (s.status_of_pageAnswer hb).2 h404
    have hfound : (s.question req).result.notFound = false := notFound_of_hasDocuments hdocuments
    rw [hresult, hfound] at hmissing
    cases hmissing

/-! ## Two paths -/

/-- A request for a path. -/
def asking (path : String) : Request :=
  ⟨treesPath, Request.form [("path", path)]⟩

/-- The only parameter of a request for a path is the path. -/
lemma params_asking (path : String) : (asking path).params = [("path", path)] := by
  have hnames : ([("path", path)].map (·.1)).Nodup := List.nodup_singleton "path"
  exact Request.params_form hnames treesPath

/-- A request for a path asks for nothing else. -/
lemma question_asking (s : Service) (path : String) :
    s.question (asking path) = ⟨path, "page", s.site.query path false, []⟩ := by
  have hpath : (asking path).param? "path" = some path := by
    rw [Request.param?, params_asking]
    rfl
  have hcontext : (asking path).param? "context" = none := by
    rw [Request.param?, params_asking]
    rfl
  rw [question, hpath, hcontext, params_asking]
  rfl

/-- A path without a slash at its end, for which there is something, is redirected. -/
lemma components_asking (s : Service) (path : String) (hlast : path.toList.getLast? ≠ some '/')
    (hdocuments : (s.site.query path false).hasDocuments = true) :
    s.components (asking path) =
      .ok (.redirect 301 (Request.location treesPath (asking (path ++ "/")).query)) := by
  have hparams : slashParams (asking path) path = [("path", path ++ "/")] := by
    rw [slashParams, params_asking]
    rfl
  have hcondition : (decide (path.toList.getLast? ≠ some '/') &&
      (s.site.query path false).hasDocuments) = true := by
    rw [hdocuments, Bool.and_true]
    exact decide_eq_true hlast
  rw [components, question_asking]
  refine (if_pos hcondition).trans ?_
  rw [slashRedirect_eq, slashTarget, hparams]
  rfl

/-- A service with a single document at a single path. -/
def about : Service where
  registry := Registry.empty
  site := Site.empty.add "/about/" [⟨1, "", "", "", "", "", [], none, []⟩]
  builder := fun q => .ok (Page.usual q)
  maxDepth := .int 32
  traceLevel := .errors

open scoped Standard

/-- A path without a slash at its end takes one: the redirect leads to the same document. -/
theorem slash_redirect_carries_about :
    about.components (asking "/about") =
      .ok (.redirect 301 (Request.location treesPath (asking "/about/").query)) ∧
    ∃ next : Request,
      (about.question next).result = (about.question (asking "/about")).result ∧
      ∀ b, about.components next = .ok b → b.status ≠ 301 ∧ b.status ≠ 404 := by
  have hredirect := components_asking about "/about" (by decide) (by decide +kernel)
  have htakes : TakesSlash (about.question (asking "/about")).path := by
    rw [question_asking]
    decide
  obtain ⟨next, -, -, -, hstatus, -, -, -, -, hkeeps⟩ :=
    slash_redirect_carries about (asking "/about") _ hredirect rfl
  exact ⟨hredirect, next, (hkeeps htakes).1, fun b hb => ⟨hstatus b hb, (hkeeps htakes).2 b hb⟩⟩

/-- White space at the end of a path is not looked at when the path is asked for, but it is once
there is a slash behind it: the redirect leads to a path for which there is nothing. -/
theorem redirect_hides_page :
    about.components (asking "/about ") =
      .ok (.redirect 301 "http://testserver/components?path=%2Fabout+%2F") ∧
    Client.request "http://testserver/components?path=%2Fabout+%2F" none =
      .ok (asking "/about /") ∧
    ∃ b, about.components (asking "/about /") = .ok b ∧ b.status = 404 := by
  have hform : Request.location treesPath (Request.form [("path", "/about /")]) =
      "http://testserver/components?path=%2Fabout+%2F" := by decide +kernel
  refine ⟨?_, ?_, ?_⟩
  · have hredirect := components_asking about "/about " (by decide) (by decide +kernel)
    exact hredirect.trans (congrArg (fun l => Except.ok (Answer.redirect 301 l)) hform)
  · have hpairs : [("path", "/about /")] ≠ [] := List.cons_ne_nil _ _
    have htarget := LawfulClient.request_location hpairs
    rw [← hform]
    exact htarget (by decide +kernel)
  · have hpath : (about.question (asking "/about /")).path = "/about " ++ "/" :=
      congrArg PageRequest.path (question_asking about "/about /")
    have hpage := about.components_of_slash (asking "/about /") hpath
    rw [hpage, question_asking]
    exact ⟨_, rfl, rfl⟩

end Service

end PageTree
