import PageTree.Proofs.Url.Query
import PageTree.Proofs.Url.Stays
import PageTree.Standard

/-!
# Reading back a form

A redirect carries parameters as the query of an address.  Written as a form, parameters with
different names are read back as they were (`params_form`): letters and marks that need no escape
stand for themselves, spaces are plus signs, and everything else is escaped, so that neither
ampersands nor equality signs occur inside a name or a value.  For the same reason an address keeps
a form as it is, and a request for the address has the form as its query.  A client is relied on to
make such a request (`LawfulClient`), and the standard one does (`ofTarget_location`).
-/

namespace PageTree

open Text

namespace Request

/-! ## The characters of a form -/

/-- A character of a form is one that needs no escape, a plus sign or the start of an escape. -/
lemma mem_formText {s : String} {c : Char} (h : c ∈ formText s) :
    isUnreserved c = true ∨ c = '+' ∨ c = '%' := by
  obtain ⟨d, -, hc⟩ := List.mem_flatMap.mp h
  split at hc
  · exact .inr (.inl (List.mem_singleton.mp hc))
  · rcases mem_percentChar hc with hsafe | hsafe | rfl
    · exact .inl hsafe
    · exact .inl hsafe
    · exact .inr (.inr rfl)

/-- A character that is neither kept nor part of an escape does not occur in a form. -/
lemma not_mem_formText {d : Char} (hd : isUnreserved d = false) (hplus : d ≠ '+')
    (hpercent : d ≠ '%') (s : String) : d ∉ formText s := by
  intro h
  rcases mem_formText h with hc | hc | hc
  · rw [hc] at hd
    cases hd
  · exact hplus hc
  · exact hpercent hc

/-- A parameter as it is written in a form. -/
def formPair (p : String × String) : List Char :=
  formText p.1 ++ '=' :: formText p.2

/-- Parameters are written one after the other. -/
lemma form_eq (pairs : List (String × String)) :
    form pairs = String.ofList (QueryParams.joinPieces (pairs.map formPair)) := rfl

/-- There is no ampersand inside a parameter. -/
lemma not_mem_formPair (p : String × String) : '&' ∉ formPair p := by
  have htext : ∀ s, '&' ∉ formText s := not_mem_formText (by decide) (by decide) (by decide)
  rw [formPair, List.mem_append, List.mem_cons, not_or, not_or]
  exact ⟨htext p.1, by decide, htext p.2⟩

/-! ## Reading parameters -/

/-- Whether a character is kept when a form is read. -/
def isKept (c : Char) : Bool :=
  isUnreserved c || c == ' '

/-- With plus signs read as spaces, a character of a form is as an address has it. -/
lemma map_percentChar (c : Char) :
    (if c = ' ' then ['+'] else percentChar isUnreserved c).map
      (fun c => if c = '+' then ' ' else c) = percentChar isKept c := by
  unfold percentChar isKept
  split
  · rename_i hc
    rw [hc]
    rfl
  · rename_i hc
    have hspace : (c == ' ') = false := beq_false_of_ne hc
    rw [hspace, Bool.or_false]
    split
    · rename_i hsafe
      rw [List.map_singleton, if_neg (ne_of_isUnreserved hsafe (by decide))]
    · have hplus : ∀ d ∈ (encodeChar c).flatMap percentOctet,
          (if d = '+' then ' ' else d) = id d := by
        intro d hd
        obtain ⟨b, hb, hd⟩ := List.mem_flatMap.mp hd
        rcases mem_percentOctet (encodeChar_lt c b hb) hd with hsafe | rfl
        · exact if_neg (ne_of_isUnreserved hsafe (by decide))
        · rfl
      rw [List.map_congr_left hplus, List.map_id]

/-- A name or value is read as it was written. -/
lemma decodePiece_formText (s : String) : QueryParams.decodePiece (formText s) = s := by
  have hmap : (formText s).map (fun c => if c = '+' then ' ' else c) =
      percentEncode isKept s.toList := by
    rw [formText, List.map_flatMap, percentEncode]
    congr 1
    funext c
    exact map_percentChar c
  rw [QueryParams.decodePiece, hmap, percentDecode_percentEncode (by decide), String.ofList_toList]

/-- A parameter is read as it was written. -/
lemma decodePair_formPair (p : String × String) : QueryParams.decodePair (formPair p) = p := by
  have hequals : '=' ∉ formText p.1 := not_mem_formText (by decide) (by decide) (by decide) p.1
  rw [QueryParams.decodePair, formPair, cut?_append hequals]
  dsimp only
  rw [decodePiece_formText, decodePiece_formText]

/-- Parameters are read one after the other as they were written. -/
lemma pairsOfText_form (pairs : List (String × String)) :
    QueryParams.pairsOfText (form pairs) = pairs := by
  have hne : ∀ p, formPair p ≠ [] :=
    fun p => List.append_ne_nil_of_right_ne_nil _ (List.cons_ne_nil _ _)
  exact QueryParams.pairsOfText_joinPieces not_mem_formPair hne decodePair_formPair pairs

/-- Parameters with different names are read back from a form. -/
theorem params_form {pairs : List (String × String)} (h : (pairs.map (·.1)).Nodup)
    (path : String) : params ⟨path, form pairs⟩ = pairs := by
  let q : QueryParams := pairs.map fun p => (p.1, [p.2])
  have hlisted : QueryParams.Listed ([] ++ q) := by
    refine ⟨?_, fun e he => ?_⟩
    · rwa [List.nil_append, List.map_map]
    · obtain ⟨p, -, rfl⟩ := List.mem_map.mp he
      exact List.cons_ne_nil _ _
  have hitems : q.items = pairs := by
    rw [QueryParams.items, List.flatMap_map]
    exact List.flatMap_singleton' pairs
  have hcollect := QueryParams.foldl_add_items hlisted
  rw [hitems, List.nil_append] at hcollect
  rw [params, QueryParams.ofText, pairsOfText_form, QueryParams.ofPairs, hcollect, List.map_map]
  exact (List.map_congr_left fun _ _ => rfl).trans (List.map_id pairs)

/-- The parameters of a request have different names. -/
theorem nodup_params (r : Request) : (r.params.map (·.1)).Nodup := by
  rw [params, List.map_map]
  exact (QueryParams.listed_ofText r.query).nodup

/-! ## The address of a form -/

/-- The characters of a form are kept in a query. -/
lemma keeps_form {pairs : List (String × String)} :
    ∀ c ∈ (form pairs).toList, Url.keeps Url.querySafe c = true := by
  have htext : ∀ s, ∀ c ∈ formText s, Url.keeps Url.querySafe c = true := by
    intro s c hc
    rcases mem_formText hc with hsafe | rfl | rfl
    · rw [Url.keeps, hsafe, Bool.true_or]
    · decide
    · decide
  intro c hc
  rw [form_eq, String.toList_ofList] at hc
  rcases QueryParams.mem_joinPieces hc with rfl | ⟨piece, hpiece, hc⟩
  · decide
  · obtain ⟨p, -, rfl⟩ := List.mem_map.mp hpiece
    rw [formPair, List.mem_append, List.mem_cons] at hc
    rcases hc with hc | rfl | hc
    · exact htext p.1 c hc
    · decide
    · exact htext p.2 c hc

/-- The address that trees are asked for under, with a query. -/
def treesUrl (query : String) : Url where
  scheme := "http"
  userinfo := ""
  host := host
  port := none
  path := "/components"
  query := some query
  fragment := none

/-- The parts of an address of trees, with a query. -/
def treesParts (query : String) : Url.Raw :=
  ⟨"http".toList, host.toList, "/components".toList, some query.toList, none⟩

/-- A form with parameters is not empty. -/
lemma form_ne_empty {pairs : List (String × String)} (h : pairs ≠ []) : form pairs ≠ "" := by
  intro hempty
  have hread := pairsOfText_form pairs
  rw [hempty] at hread
  exact h hread.symm

/-- The text of an address of trees with a query. -/
lemma toText_treesUrl {query : String} (h : query ≠ "") :
    (treesUrl query).toText = location "/components" query := by
  have hauthority : (treesUrl query).authority = host := by
    unfold Url.authority treesUrl
    dsimp only
    rw [if_pos rfl, if_neg (by decide)]
    decide
  have haddress : "http" ++ ":" ++ ("//" ++ host) ++ "/components" =
      "http://" ++ host ++ "/components" := by decide
  have hscheme : ¬ (treesUrl query).scheme = "" := (by decide : ¬ "http" = "")
  unfold Url.toText
  rw [hauthority, location, if_neg h, ← haddress, if_neg hscheme, if_neg (by decide)]
  exact String.append_empty

/-- A text without percent signs stands for itself. -/
lemma unescape_eq_self {s : String} (h : '%' ∉ s.toList) : unescape s = s := by
  have hkeep : percentEncode (· != '%') s.toList = s.toList := by
    refine percentEncode_eq_self fun c hc => bne_iff_ne.mpr ?_
    rintro rfl
    exact h hc
  have hdecode : percentDecode (percentEncode (· != '%') s.toList) = s.toList :=
    percentDecode_percentEncode rfl s.toList
  rw [hkeep] at hdecode
  rw [unescape, hdecode, String.ofList_toList]

section Names

variable [Url.HostNames]

/-- The parts of an address of trees are in normal form. -/
lemma ofRaw_treesParts (pairs : List (String × String)) :
    Url.ofRaw (treesParts (form pairs)) = .ok (treesUrl (form pairs)) := by
  have hparts : ∀ query, Url.ofRaw (treesParts query) =
      .ok (treesUrl (String.ofList (Url.escape Url.querySafe query.toList))) := by
    intro query
    rfl
  rw [hparts, Url.escape_eq_self _ (by decide) keeps_form, String.ofList_toList]

/-- An address of trees is in normal form. -/
lemma normal_treesUrl (pairs : List (String × String)) : (treesUrl (form pairs)).Normal := by
  have hsplit : (treesParts (form pairs)).Split := by
    refine ⟨?_, ?_, ?_⟩
    · intro c hc
      exact List.all_eq_true.mp (by decide : "http".toList.all Url.isSchemeChar) c hc
    · rintro c hc
      cases hc
      decide
    · intro c hc
      have hkeep : Url.keeps Url.userinfoSafe c = true :=
        List.all_eq_true.mp (by decide : host.toList.all (Url.keeps Url.userinfoSafe)) c hc
      exact Url.inner_of_keeps_userinfoSafe hkeep
  exact ((Url.ofRaw_eq_ok_iff _ _).mp (ofRaw_treesParts pairs)).normal hsplit

/-- The address of a form is taken apart into its parts. -/
lemma parse_location {pairs : List (String × String)} (hpairs : pairs ≠ [])
    (hlength : (location "/components" (form pairs)).toList.length ≤ Url.maxLength) :
    Url.parse (location "/components" (form pairs)) = .ok (treesUrl (form pairs)) := by
  have hhost : Url.normalHost (Url.hostText host) = .ok host := by rfl
  have hstays : (treesUrl (form pairs)).Stays := ⟨⟨nofun, nofun⟩, hhost⟩
  have htext := toText_treesUrl (form_ne_empty hpairs)
  rw [← htext] at hlength ⊢
  exact Url.parse_toText (normal_treesUrl pairs) hstays rfl hlength

/-- A request for the address of a form has the form as its query, unless the address is too
long. -/
theorem ofTarget_location {pairs : List (String × String)} (hpairs : pairs ≠ [])
    (hlength : (location "/components" (form pairs)).toList.length ≤ Url.maxLength) :
    ofTarget (location "/components" (form pairs)) none = .ok ⟨"/components", form pairs⟩ := by
  have hslash : '/' :: dropLeading (· == '/') (treesUrl (form pairs)).path.toList =
      "/components".toList := by
    have hpath : (treesUrl (form pairs)).path = "/components" := rfl
    rw [hpath]
    decide
  have haddress : addressOf (treesUrl (form pairs)) (some (form pairs)) =
      .ok (treesUrl (form pairs)) := by
    rw [addressOf, hslash]
    exact ofRaw_treesParts pairs
  have hpath : unescape "/components" = "/components" :=
    unescape_eq_self (s := "/components") (by decide)
  rw [ofTarget, parse_location hpairs hlength]
  refine (bind_eq_ok_iff _ _ _).mpr ⟨_, rfl, (bind_eq_ok_iff _ _ _).mpr ⟨_, haddress, ?_⟩⟩
  have hrequest : (⟨unescape (unescape "/components"), (some (form pairs)).getD ""⟩ : Request) =
      ⟨"/components", form pairs⟩ := by
    rw [hpath, hpath]
    rfl
  exact congrArg Except.ok hrequest

end Names

end Request

/-! ## Clients -/

/-- The law of a client: it asks for the trees at an address with a form as the form says, unless
the address is too long. -/
class LawfulClient [Client] : Prop where
  request_location : ∀ {pairs : List (String × String)}, pairs ≠ [] →
    (Request.location "/components" (Request.form pairs)).toList.length ≤ Url.maxLength →
    Client.request (Request.location "/components" (Request.form pairs)) none =
      .ok ⟨"/components", Request.form pairs⟩

namespace Standard

/-- The client that the definitions on targets make obeys the law. -/
scoped instance lawfulClient [Url.HostNames] : LawfulClient where
  request_location hpairs hlength :=
    (mapError_eq_ok_iff _ _ _).mpr (Request.ofTarget_location hpairs hlength)

end Standard

end PageTree
