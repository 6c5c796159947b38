import PageTree.Image.Responsive
import PageTree.Proofs.Image.Density

/-!
# Candidates that are read back

The candidates of an image are joined by commas, and commas may stand in their addresses as well.
They are told apart all the same: an address is one word that does not begin with a comma
(`Url.Solid`), so that a candidate ends where its width does.  `candidate?` reads one candidate at
the start of a text, and `candidatesIn` all that follow one another.

Operations keep an address solid (`solid_of_setEach`).  So what is read from a set of candidates
is, source by source, what its operations make of the address that all sources share
(`candidateSet_read_back`).
-/

namespace PageTree.Image

open Text (isBlank digitValue? ofDigits cut? cut?_append eq_of_cut?)
open Url (paramsOf listed_paramsOf)
open UrlLibrary (LawfulQueries LawfulTexts solid_write)

/-! ## Reading -/

/-- Whether a text is one word that does not begin with a comma. -/
def isWord (cs : List Char) : Bool :=
  cs.head?.any (· != ',') && cs.all fun c => !isBlank c

/-- Whether a text is a numeral, with the decimal digits of any script. -/
def isNumeral (cs : List Char) : Bool :=
  !cs.isEmpty && cs.all fun c => (digitValue? c).isSome

/-- Reads a candidate at the start of a text: a word that does not begin with a comma, a space, a
numeral and the letter `w`.  The text behind it is left. -/
def candidate? (cs : List Char) : Option ((String × Int) × List Char) :=
  (cut? ' ' cs).bind fun (word, behind) =>
    (cut? 'w' behind).bind fun (numeral, rest) =>
      if isWord word && isNumeral numeral then
        some ((String.ofList word, ofDigits 10 (numeral.filterMap digitValue?)), rest)
      else none

/-- What a candidate is read from: a word and a numeral, and what is left behind them. -/
lemma eq_of_candidate? {cs rest : List Char} {c : String × Int}
    (h : candidate? cs = some (c, rest)) :
    ∃ word numeral, cs = word ++ ' ' :: (numeral ++ 'w' :: rest) ∧ isWord word = true := by
  obtain ⟨⟨word, behind⟩, hword, h⟩ := Option.bind_eq_some_iff.mp h
  obtain ⟨⟨numeral, others⟩, hnumeral, h⟩ := Option.bind_eq_some_iff.mp h
  dsimp only at h
  split at h
  · rename_i hboth
    cases h
    rw [Bool.and_eq_true] at hboth
    refine ⟨word, numeral, ?_, hboth.1⟩
    rw [(eq_of_cut? hword).1, (eq_of_cut? hnumeral).1]
  · cases h

/-- A candidate is read from a part of the text. -/
lemma length_lt_of_candidate? {cs rest : List Char} {c : String × Int}
    (h : candidate? cs = some (c, rest)) : rest.length < cs.length := by
  obtain ⟨word, numeral, rfl, -⟩ := eq_of_candidate? h
  simp only [List.length_append, List.length_cons]
  omega

/-- The candidates in a text, in order: where none begins, a character is passed over. -/
def candidatesIn (cs : List Char) : List (String × Int) :=
  match h : candidate? cs with
  | some (c, rest) =>
    have := length_lt_of_candidate? h
    c :: candidatesIn rest
  | none =>
    match cs with
    | [] => []
    | _ :: cs => candidatesIn cs
termination_by cs.length

/-- The characters of a candidate. -/
lemma toList_candidateText (address : String) (n : Nat) :
    (candidateText (address, (n : Int))).toList =
      address.toList ++ ' ' :: (Nat.toDigits 10 n ++ ['w']) := by
  have hnumber : (toString (n : Int)).toList = Nat.toDigits 10 n := String.toList_ofList
  unfold candidateText
  rw [String.toList_append, String.toList_append, String.toList_append, hnumber]
  simp

/-- A solid address is a word. -/
lemma isWord_of_solid {cs : List Char} (h : Url.Solid cs) : isWord cs = true := by
  rw [isWord, Bool.and_eq_true, List.all_eq_true]
  constructor
  · cases cs with
    | nil => exact absurd rfl h.ne_nil
    | cons c cs => exact bne_iff_ne.mpr fun hc => h.comma (congrArg some hc)
  · intro c hc
    rw [h.isBlank c hc]
    rfl

/-- The decimals of a number are a numeral. -/
lemma isNumeral_toDigits (n : Nat) : isNumeral (Nat.toDigits 10 n) = true := by
  rw [isNumeral, Bool.and_eq_true, List.all_eq_true]
  exact ⟨by simp, (Text.ofDigits_toDigits n).1⟩

/-- A candidate in front of any text is read. -/
lemma candidate?_append {address : String} (h : Url.Solid address.toList) (n : Nat)
    (rest : List Char) :
    candidate? ((candidateText (address, (n : Int))).toList ++ rest) =
      some ((address, (n : Int)), rest) := by
  have happend : (candidateText (address, (n : Int))).toList ++ rest =
      address.toList ++ ' ' :: (Nat.toDigits 10 n ++ 'w' :: rest) := by
    rw [toList_candidateText]
    simp
  have hspace : ' ' ∉ address.toList := fun hmem => nomatch h.isBlank ' ' hmem
  have hletter : 'w' ∉ Nat.toDigits 10 n := fun hmem =>
    nomatch (Text.ofDigits_toDigits n).1 'w' hmem
  unfold candidate?
  rw [happend, cut?_append hspace, Option.bind_some]
  dsimp only
  rw [cut?_append hletter, Option.bind_some, isWord_of_solid h, isNumeral_toDigits, Bool.and_true,
    if_pos rfl, String.ofList_toList, (Text.ofDigits_toDigits n).2]

/-- Candidates in front of a text are read before those in the text. -/
lemma candidatesIn_append {address : String} (h : Url.Solid address.toList) (n : Nat)
    (rest : List Char) :
    candidatesIn ((candidateText (address, (n : Int))).toList ++ rest) =
      (address, (n : Int)) :: candidatesIn rest := by
  rw [candidatesIn]
  split
  · rename_i hread
    rw [candidate?_append h] at hread
    cases hread
    rfl
  · rename_i hread
    rw [candidate?_append h] at hread
    cases hread

/-- No candidate begins with a comma. -/
lemma candidatesIn_comma (cs : List Char) : candidatesIn (',' :: cs) = candidatesIn cs := by
  rw [candidatesIn]
  split
  · rename_i c rest hread
    obtain ⟨word, numeral, happend, hword⟩ := eq_of_candidate? hread
    cases word with
    | nil => cases hword
    | cons d word =>
      rw [List.cons_append] at happend
      rw [← (List.cons.inj happend).1] at hword
      cases hword
  · rfl

/-- Nothing is read from nothing. -/
lemma candidatesIn_nil : candidatesIn [] = [] := by
  rw [candidatesIn]
  rfl

/-- A candidate that can be told from others: its address is solid, and its width has no sign. -/
def Legible (c : String × Int) : Prop :=
  Url.Solid c.1.toList ∧ ∃ n : Nat, c.2 = n

/-- Candidates that are joined by commas are read back. -/
theorem candidatesIn_join {cs : List (String × Int)} (h : ∀ c ∈ cs, Legible c) :
    candidatesIn (String.intercalate "," (cs.map candidateText)).toList = cs := by
  induction cs with
  | nil => exact candidatesIn_nil
  | cons c cs ih =>
    rw [List.forall_mem_cons] at h
    obtain ⟨address, width⟩ := c
    obtain ⟨⟨hsolid, n, rfl⟩, hrest⟩ := h
    cases cs with
    | nil =>
      have hread := candidatesIn_append hsolid n []
      rwa [List.append_nil, candidatesIn_nil] at hread
    | cons d cs =>
      rw [List.map_cons, List.map_cons, String.intercalate_cons_cons, String.toList_append,
        String.toList_append, List.append_assoc, candidatesIn_append hsolid]
      have hcomma : ",".toList = [','] := rfl
      rw [hcomma, List.singleton_append, candidatesIn_comma, ← List.map_cons, ih hrest]

/-! ## The candidates of a source -/

/-- The descriptor of a source as a whole number. -/
def descriptor (source : Value) : Except Fault Int := do
  let entries ← source.entriesFor "get"
  ((Entries.find? entries "descriptor").getD (.int 0)).toInteger

/-- The width that a source announces is its descriptor without the sign. -/
lemma descriptorOf_eq_ok_iff (source : Value) (width : Int) :
    descriptorOf source = .ok width ↔ ∃ i, descriptor source = .ok i ∧ width = i.natAbs := by
  unfold descriptorOf descriptor ImageOperation.magnitude
  constructor
  · intro h
    obtain ⟨entries, hentries, h⟩ := (bind_eq_ok_iff _ _ _).mp h
    obtain ⟨i, hi, h⟩ := (bind_eq_ok_iff _ _ _).mp h
    cases h
    exact ⟨i, (bind_eq_ok_iff _ _ _).mpr ⟨entries, hentries, hi⟩, rfl⟩
  · rintro ⟨i, hi, rfl⟩
    obtain ⟨entries, hentries, hi⟩ := (bind_eq_ok_iff _ _ _).mp hi
    refine (bind_eq_ok_iff _ _ _).mpr ⟨entries, hentries, ?_⟩
    exact (bind_eq_ok_iff _ _ _).mpr ⟨i, hi, rfl⟩

section Library

variable [UrlLibrary]

/-- A candidate of a source at a density.  Its address comes from the one that all sources share by
the operations of the source, so that all other parameters are those of that address; its width is
the descriptor without the sign times the density. -/
structure Candidate (address : String) (source : Value) (density : Nat) (c : String × Int) :
    Prop where
  applied : ∃ operations, operationsOf source = .ok (.map operations) ∧
    applyAll address (.map operations) (.int density) = .ok c.1 ∧
    ∀ name, (∀ call ∈ callsOf operations, call.1.name ≠ name) →
      (paramsOf c.1).lookup name = (paramsOf address).lookup name
  width : ∃ i : Int, descriptor source = .ok i ∧ c.2 = density * i.natAbs

/-- The candidates of a source: with `retina` the one at twice the size, and then the plain one. -/
inductive Offers (address : String) (source : Value) : Bool → List (String × Int) → Prop
  | plain {c : String × Int} (hc : Candidate address source 1 c) : Offers address source false [c]
  | retina {double c : String × Int} (hdouble : Candidate address source 2 double)
      (hc : Candidate address source 1 c) : Offers address source true [double, c]

/-- What the operations of a source make of an address is a candidate. -/
lemma candidate_of_applyAll [LawfulQueries] {address result : String} {source operations : Value}
    {i : Int} (hoperations : operationsOf source = .ok operations) (hi : descriptor source = .ok i)
    (density : Nat) (h : applyAll address operations (.int density) = .ok result) :
    Candidate address source density (result, density * i.natAbs) := by
  obtain ⟨entries, hentries, -⟩ := (bind_eq_ok_iff _ _ _).mp h
  have hmap : operations = .map entries := by
    cases operations with
    | map es =>
      cases hentries
      rfl
    | _ => cases hentries
  rw [hmap] at hoperations h
  obtain ⟨pairs, hpairs, hupdated⟩ := exists_updated_of_applyAll h
  refine ⟨⟨entries, hoperations, h, ?_⟩, i, hi, rfl⟩
  intro name hname
  exact lookup_of_not_given (gives_of_pairsOf hpairs) hupdated hname

/-- A source offers its candidates. -/
lemma offers_of_candidates [LawfulQueries] {address : String} {source : Value} {retina : Bool}
    {group : List (String × Int)} (h : candidates address retina source = .ok group) :
    Offers address source retina group := by
  obtain ⟨operations, hoperations, h⟩ := (bind_eq_ok_iff _ _ _).mp h
  obtain ⟨width, hwidth, h⟩ := (bind_eq_ok_iff _ _ _).mp h
  obtain ⟨plain, hplain, h⟩ := (bind_eq_ok_iff _ _ _).mp h
  obtain ⟨i, hi, rfl⟩ := (descriptorOf_eq_ok_iff _ _).mp hwidth
  have hsingle := candidate_of_applyAll hoperations hi 1 hplain
  rw [Nat.cast_one, one_mul] at hsingle
  cases retina with
  | false =>
    cases h
    exact .plain hsingle
  | true =>
    obtain ⟨double, hdouble, h⟩ := (bind_eq_ok_iff _ _ _).mp h
    cases h
    have htwice := candidate_of_applyAll hoperations hi 2 hdouble
    rw [mul_comm] at htwice
    exact .retina htwice hsingle

variable [LawfulTexts]

/-- Setting parameters keeps an address solid. -/
lemma solid_of_setEach {address result : String} {pairs : List (String × String)}
    (hsolid : Url.Solid address.toList) (h : setEach address pairs = .ok result) :
    Url.Solid result.toList := by
  induction pairs generalizing address with
  | nil =>
    cases h
    exact hsolid
  | cons p pairs ih =>
    rw [setEach, List.foldlM_cons] at h
    obtain ⟨next, hnext, h⟩ := (bind_eq_ok_iff _ _ _).mp h
    obtain ⟨u, w, hu, hw, rfl⟩ := (setParams_eq_ok_iff _ _ _).mp hnext
    have hlisted := (listed_paramsOf address).setAll [p]
    have hnodup : ([p].map Prod.fst).Nodup := List.nodup_singleton p.1
    have hvalue := (listed_paramsOf address).lookup_setAll hnodup (List.mem_singleton_self p)
    refine ih (solid_write hsolid hu hlisted ?_ hw) h
    intro hnone
    rw [hnone] at hvalue
    cases hvalue

/-- A candidate of a solid address can be told from others. -/
lemma Candidate.legible {address : String} {source : Value} {density : Nat} {c : String × Int}
    (hsolid : Url.Solid address.toList) (h : Candidate address source density c) : Legible c := by
  obtain ⟨entries, -, happly, -⟩ := h.applied
  obtain ⟨i, -, hwidth⟩ := h.width
  obtain ⟨pairs, -, heach⟩ := (applyEntries_eq_ok_iff _ _ _ _).mp happly
  refine ⟨solid_of_setEach hsolid heach, density * i.natAbs, ?_⟩
  rw [hwidth, Nat.cast_mul]

/-- A source offers one candidate, or two with `retina`, and each can be told from others. -/
lemma Offers.legible {address : String} {source : Value} {retina : Bool}
    {group : List (String × Int)} (hsolid : Url.Solid address.toList)
    (h : Offers address source retina group) :
    group.length = (if retina then 2 else 1) ∧ ∀ c ∈ group, Legible c := by
  cases h with
  | plain hc =>
    refine ⟨rfl, ?_⟩
    rw [List.forall_mem_singleton]
    exact hc.legible hsolid
  | retina hdouble hc =>
    refine ⟨rfl, ?_⟩
    rw [List.forall_mem_cons, List.forall_mem_singleton]
    exact ⟨hdouble.legible hsolid, hc.legible hsolid⟩

/-- What sources offer can be told apart, and they offer as much each. -/
lemma legible_of_offers {address : String} {sources : List Value} {retina : Bool}
    {groups : List (List (String × Int))} (hsolid : Url.Solid address.toList)
    (h : List.Forall₂ (fun source group => Offers address source retina group) sources groups) :
    groups.flatten.length = (if retina then 2 else 1) * sources.length ∧
      ∀ c ∈ groups.flatten, Legible c := by
  induction h with
  | nil => exact ⟨rfl, nofun⟩
  | cons hoffer _ ih =>
    obtain ⟨hlength, hlegible⟩ := hoffer.legible hsolid
    rw [List.flatten_cons, List.length_append, hlength, ih.1, List.length_cons, Nat.mul_succ,
      Nat.add_comm, List.forall_mem_append]
    exact ⟨rfl, hlegible, ih.2⟩

/-- What is read from the set of candidates of a solid address is what the sources offer, in their
order, and nothing else: with `retina` each offers two candidates, and otherwise one. -/
theorem candidateSet_read_back {address : String} (hsolid : Url.Solid address.toList)
    {sources : List Value} {retina : Bool} {text : String}
    (h : candidateSet address sources retina = .ok text) :
    ∃ groups, List.Forall₂ (fun source group => Offers address source retina group) sources groups ∧
      candidatesIn text.toList = groups.flatten ∧
      (candidatesIn text.toList).length = (if retina then 2 else 1) * sources.length := by
  obtain ⟨groups, hgroups, h⟩ := (bind_eq_ok_iff _ _ _).mp h
  cases h
  have hoffers := (forall₂_of_mapM hgroups).imp fun _ _ => offers_of_candidates
  obtain ⟨hlength, hlegible⟩ := legible_of_offers hsolid hoffers
  have hread := candidatesIn_join hlegible
  exact ⟨groups, hoffers, hread, by rw [hread, hlength]⟩

end Library

open scoped Standard

/-- Sources of an image: one with a size, whose descriptor is negative, and one without
operations. -/
def widthSources : List Value :=
  [.map [(.str "transforms", .map [(.str "resize", .list [.int 100, .int 50])]),
      (.str "descriptor", .int (-100))],
    .map [(.str "descriptor", .int 50)]]

/-- The candidates of an image with commas in its address. -/
theorem candidateSet_read_back_commas :
    Url.Solid "http://a/x,1.jpg?b=2,3".toList ∧
      candidateSet "http://a/x,1.jpg?b=2,3" widthSources true =
        .ok ("http://a/x,1.jpg?b=2,3&resize=200,100 200w," ++
          "http://a/x,1.jpg?b=2,3&resize=100,50 100w," ++
          "http://a/x,1.jpg?b=2,3 100w,http://a/x,1.jpg?b=2,3 50w") ∧
      ∃ groups,
        List.Forall₂ (fun source group => Offers "http://a/x,1.jpg?b=2,3" source true group)
          widthSources groups ∧
        candidatesIn
          ("http://a/x,1.jpg?b=2,3&resize=200,100 200w," ++
            "http://a/x,1.jpg?b=2,3&resize=100,50 100w," ++
            "http://a/x,1.jpg?b=2,3 100w,http://a/x,1.jpg?b=2,3 50w").toList = groups.flatten ∧
        groups.flatten.length = 4 := by
  have hsolid : Url.Solid "http://a/x,1.jpg?b=2,3".toList :=
    ⟨by decide, by simp [isBlank], by decide, by decide⟩
  have hset := (toOption_eq_some_iff (candidateSet "http://a/x,1.jpg?b=2,3" widthSources true)
    ("http://a/x,1.jpg?b=2,3&resize=200,100 200w,http://a/x,1.jpg?b=2,3&resize=100,50 100w," ++
      "http://a/x,1.jpg?b=2,3 100w,http://a/x,1.jpg?b=2,3 50w")).mp (by decide +kernel)
  obtain ⟨groups, hoffers, hread, hlength⟩ := candidateSet_read_back hsolid hset
  rw [hread] at hlength
  exact ⟨hsolid, hset, groups, hoffers, hread, hlength⟩

/-- The colon in front of this address is lost with the first operation, so that its candidate
begins with a comma and is not read back. -/
theorem comma_behind_colon_is_lost :
    ":,a" ≠ "" ∧ (∀ c ∈ ":,a".toList, isBlank c = false) ∧ ":,a".toList.head? ≠ some ',' ∧
      ∃ source text, candidateSet ":,a" [source] false = .ok text ∧
        ¬ ∃ groups, List.Forall₂ (fun source group => Offers ":,a" source false group) [source]
            groups ∧ candidatesIn text.toList = groups.flatten := by
  refine ⟨by decide, by simp [isBlank], by decide,
    .map [(.str "transforms", .map [(.str "w", .int 100)]), (.str "descriptor", .int 100)],
    ",a?w=100 100w", (toOption_eq_some_iff _ _).mp (by decide +kernel), ?_⟩
  rintro ⟨groups, hoffers, hread⟩
  have hsolid : Url.Solid "a?w=100".toList := ⟨by decide, by simp [isBlank], by decide, by decide⟩
  have hcandidate : ",a?w=100 100w".toList =
      ',' :: ((candidateText ("a?w=100", (100 : Nat))).toList ++ []) := by decide
  rw [hcandidate, candidatesIn_comma, candidatesIn_append hsolid, candidatesIn_nil] at hread
  cases hoffers with
  | cons hoffer hrest =>
    cases hrest
    cases hoffer with
    | plain hc =>
      obtain ⟨operations, hoperations, happly, -⟩ := hc.applied
      cases hoperations
      cases hread
      have hfirst : applyAll ":,a" (.map [(.str "w", .int 100)]) (.int 1) = .ok ",a?w=100" :=
        (toOption_eq_some_iff _ _).mp (by decide +kernel)
      have hsame := Except.ok.inj (happly.symm.trans hfirst)
      exact absurd hsame (by decide)

end PageTree.Image
