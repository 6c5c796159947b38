import Mathlib.Data.List.Nodup
import PageTree.Proofs.Text.Blank
import PageTree.Proofs.Text.Percent
import PageTree.Url.Query

/-!
# Query parameters as ordered mappings

The parameters that are read from a query name each parameter once and give it at least one value
(`Listed`).  Parameters of this kind are read back as they were written (`ofText_toText`): every
character that is written is kept in a query, and neither ampersands nor equality signs occur
inside a name or a value.

What setting parameters one after the other comes to is said by `Updated`, without regard to how
it is done: the names that are there stay in their places with new ones behind, and a name has the
last value that it was given, or else the values that it had.
-/

namespace PageTree.QueryParams

open Text

/-- Each name is listed once, and has a value. -/
structure Listed (q : QueryParams) : Prop where
  nodup : (q.map Prod.fst).Nodup
  values : ∀ e ∈ q, e.2 ≠ []

/-! ## Joined pieces -/

/-- Pieces are joined one after the other. -/
lemma joinPieces_cons (p q : List Char) (rest : List (List Char)) :
    joinPieces (p :: q :: rest) = p ++ '&' :: joinPieces (q :: rest) := rfl

/-- Pieces without ampersands are told apart by the ampersands between them. -/
lemma splitWhere_joinPieces {pieces : List (List Char)} (hne : pieces ≠ [])
    (h : ∀ piece ∈ pieces, '&' ∉ piece) :
    splitWhere (· == '&') (joinPieces pieces) = pieces := by
  have hpiece : ∀ piece : List Char, '&' ∉ piece → ∀ c ∈ piece, (c == '&') = false := by
    intro piece hamp c hc
    refine beq_false_of_ne ?_
    rintro rfl
    exact hamp hc
  induction pieces with
  | nil => exact absurd rfl hne
  | cons piece rest ih =>
    rw [List.forall_mem_cons] at h
    cases rest with
    | nil => exact splitWhere_of_forall (hpiece piece h.1)
    | cons other others =>
      rw [joinPieces_cons, splitWhere_append (p := (· == '&')) rfl,
        splitWhere_of_forall (hpiece piece h.1), ih (List.cons_ne_nil _ _) h.2]
      rfl

/-- The characters of joined pieces are ampersands and those of the pieces. -/
lemma mem_joinPieces {pieces : List (List Char)} {c : Char} (h : c ∈ joinPieces pieces) :
    c = '&' ∨ ∃ piece ∈ pieces, c ∈ piece := by
  induction pieces with
  | nil => cases h
  | cons piece rest ih =>
    cases rest with
    | nil => exact .inr ⟨piece, List.mem_cons_self, h⟩
    | cons other others =>
      rw [joinPieces_cons, List.mem_append, List.mem_cons] at h
      rcases h with h | rfl | h
      · exact .inr ⟨piece, List.mem_cons_self, h⟩
      · exact .inl rfl
      · exact (ih h).imp_right fun ⟨p, hp, hc⟩ => ⟨p, List.mem_cons_of_mem _ hp, hc⟩

/-- Parameters are read one after the other as they were written, if each is by itself. -/
lemma pairsOfText_joinPieces {write : String × String → List Char}
    (hamp : ∀ p, '&' ∉ write p) (hne : ∀ p, write p ≠ []) (hread : ∀ p, decodePair (write p) = p)
    (pairs : List (String × String)) :
    pairsOfText (String.ofList (joinPieces (pairs.map write))) = pairs := by
  cases pairs with
  | nil => rfl
  | cons p pairs =>
    have hpieces : ∀ piece ∈ (p :: pairs).map write, '&' ∉ piece := by
      intro piece hpiece
      obtain ⟨q, -, rfl⟩ := List.mem_map.mp hpiece
      exact hamp q
    have hfull : ∀ piece ∈ (p :: pairs).map write, (!piece.isEmpty) = true := by
      intro piece hpiece
      obtain ⟨q, -, rfl⟩ := List.mem_map.mp hpiece
      rw [Bool.not_eq_true', List.isEmpty_eq_false_iff]
      exact hne q
    have hid : decodePair ∘ write = id := funext hread
    rw [pairsOfText, String.toList_ofList, splitWhere_joinPieces (by simp) hpieces,
      List.filter_eq_self.mpr hfull, List.map_map, hid, List.map_id]

/-! ## Collecting parameters -/

/-- A value of a new name comes last. -/
lemma add_of_not_mem {q : QueryParams} {name : String} (h : name ∉ q.map Prod.fst)
    (value : String) : q.add name value = q ++ [(name, [value])] := by
  induction q with
  | nil => rfl
  | cons e q ih =>
    rw [List.map_cons, List.mem_cons, not_or] at h
    rw [add, if_neg (Ne.symm h.1), ih h.2, List.cons_append]

/-- A value of the last name joins the values that it has. -/
lemma add_last {q : QueryParams} {name : String} (h : name ∉ q.map Prod.fst)
    (values : List String) (value : String) :
    QueryParams.add (q ++ [(name, values)]) name value = q ++ [(name, values ++ [value])] := by
  induction q with
  | nil => exact if_pos rfl
  | cons e q ih =>
    rw [List.map_cons, List.mem_cons, not_or] at h
    rw [List.cons_append, add, if_neg (Ne.symm h.1), ih h.2, List.cons_append]

/-- The names after a value was added: those that were there, and a new one at the end. -/
lemma names_add (q : QueryParams) (name value : String) :
    (q.add name value).map Prod.fst =
      if name ∈ q.map Prod.fst then q.map Prod.fst else q.map Prod.fst ++ [name] := by
  induction q with
  | nil => rfl
  | cons e q ih =>
    obtain ⟨n, vs⟩ := e
    rw [add]
    by_cases hn : n = name
    · rw [if_pos hn, if_pos (List.mem_map.mpr ⟨(n, vs), List.mem_cons_self, hn⟩)]
      rfl
    · rw [if_neg hn, List.map_cons, ih, List.map_cons]
      by_cases hmem : name ∈ q.map Prod.fst
      · rw [if_pos hmem, if_pos (List.mem_cons_of_mem _ hmem)]
      · rw [if_neg hmem, if_neg (List.not_mem_cons_of_ne_of_not_mem (Ne.symm hn) hmem)]
        rfl

/-- A name that is put at the end unless it is there leaves the names different. -/
lemma nodup_concat_unless {names : List String} (h : names.Nodup) (name : String) :
    (if name ∈ names then names else names ++ [name]).Nodup := by
  split
  · exact h
  · rename_i hname
    rw [List.nodup_append]
    refine ⟨h, List.nodup_singleton name, ?_⟩
    intro n hn m hm heq
    rw [List.mem_singleton.mp hm] at heq
    exact hname (heq ▸ hn)

/-- Adding a value keeps parameters listed. -/
lemma Listed.add {q : QueryParams} (h : Listed q) (name value : String) :
    Listed (q.add name value) where
  nodup := by
    rw [names_add]
    exact nodup_concat_unless h.nodup name
  values := by
    have hvalues := h.values
    clear h
    induction q with
    | nil => exact List.forall_mem_singleton.mpr (List.cons_ne_nil _ _)
    | cons e q ih =>
      rw [List.forall_mem_cons] at hvalues
      rw [QueryParams.add]
      split
      · exact List.forall_mem_cons.mpr
          ⟨List.append_ne_nil_of_right_ne_nil _ (List.cons_ne_nil _ _), hvalues.2⟩
      · exact List.forall_mem_cons.mpr ⟨hvalues.1, ih hvalues.2⟩

/-- The parameters of a query are listed. -/
theorem listed_ofText (s : String) : Listed (ofText s) := by
  have hfold : ∀ (pairs : List (String × String)) (q : QueryParams), Listed q →
      Listed (pairs.foldl (fun q p => q.add p.1 p.2) q) := by
    intro pairs
    induction pairs with
    | nil => exact fun q hq => hq
    | cons p pairs ih => exact fun q hq => ih _ (hq.add p.1 p.2)
  exact hfold _ [] ⟨List.nodup_nil, fun _ he => absurd he List.not_mem_nil⟩

/-- The values of a name are collected behind those that it has. -/
lemma foldl_add_values {q : QueryParams} {name : String} (h : name ∉ q.map Prod.fst)
    (values others : List String) :
    (others.map fun v => (name, v)).foldl (fun q (k, v) => QueryParams.add q k v)
      (q ++ [(name, values)]) = q ++ [(name, values ++ others)] := by
  induction others generalizing values with
  | nil => rw [List.map_nil, List.foldl_nil, List.append_nil]
  | cons v others ih =>
    rw [List.map_cons, List.foldl_cons]
    dsimp only
    rw [add_last h, ih, List.append_assoc, List.singleton_append]

/-- Listed parameters are collected from all their values. -/
lemma foldl_add_items {q done : QueryParams} (h : Listed (done ++ q)) :
    q.items.foldl (fun q (k, v) => QueryParams.add q k v) done = done ++ q := by
  induction q generalizing done with
  | nil => rw [List.append_nil]; rfl
  | cons e q ih =>
    obtain ⟨n, vs⟩ := e
    have hname : n ∉ done.map Prod.fst := by
      intro hmem
      have hnodup := h.nodup
      rw [List.map_append, List.map_cons] at hnodup
      exact (List.nodup_append.mp hnodup).2.2 n hmem n List.mem_cons_self rfl
    have hvalues : vs ≠ [] := h.values (n, vs) (List.mem_append_right _ List.mem_cons_self)
    obtain ⟨v, others, rfl⟩ := List.exists_cons_of_ne_nil hvalues
    have hrest : Listed ((done ++ [(n, v :: others)]) ++ q) := by
      rwa [List.append_assoc, List.singleton_append]
    have hfirst := foldl_add_values hname [v] others
    rw [items, List.flatMap_cons, List.foldl_append]
    dsimp only
    rw [List.map_cons, List.foldl_cons]
    dsimp only
    rw [add_of_not_mem hname, hfirst]
    exact (ih hrest).trans (List.append_assoc _ _ _)

/-! ## Reading back -/

/-- A character that is neither kept nor part of an escape is not written. -/
lemma not_mem_percentEncode {safe : Char → Bool} {d : Char} (hsafe : safe d = false)
    (hd : isUnreserved d = false) (hsign : d ≠ '%') (cs : List Char) :
    d ∉ percentEncode safe cs := by
  intro h
  obtain ⟨c, -, hc⟩ := List.mem_flatMap.mp h
  rcases mem_percentChar hc with h | h | h
  · rw [h] at hsafe
    cases hsafe
  · rw [h] at hd
    cases hd
  · exact hsign h

/-- What is written without plus signs and bare percent signs is read as it was. -/
lemma decodePiece_percentEncode {safe : Char → Bool} (hplus : safe '+' = false)
    (hsign : safe '%' = false) (s : String) :
    decodePiece (percentEncode safe s.toList) = s := by
  have hnone : '+' ∉ percentEncode safe s.toList :=
    not_mem_percentEncode hplus (by decide) (by decide) _
  have hsame : (percentEncode safe s.toList).map (fun c => if c = '+' then ' ' else c) =
      percentEncode safe s.toList := by
    refine (List.map_congr_left fun c hc => ?_).trans (List.map_id _)
    refine if_neg ?_
    rintro rfl
    exact hnone hc
  rw [decodePiece, hsame, percentDecode_percentEncode hsign, String.ofList_toList]

/-- A parameter as it is written in a query. -/
def writePair (p : String × String) : List Char :=
  encodeName p.1 ++ '=' :: encodeValue p.2

/-- Parameters are written one after the other. -/
lemma toText_eq (q : QueryParams) :
    q.toText = String.ofList (joinPieces (q.items.map writePair)) := rfl

/-- A parameter is read as it was written. -/
lemma decodePair_writePair (p : String × String) : decodePair (writePair p) = p := by
  have hequals : '=' ∉ encodeName p.1 :=
    not_mem_percentEncode (by decide) (by decide) (by decide) _
  have hname : decodePiece (encodeName p.1) = p.1 :=
    decodePiece_percentEncode (by decide) (by decide) p.1
  have hvalue : decodePiece (encodeValue p.2) = p.2 :=
    decodePiece_percentEncode (by decide) (by decide) p.2
  rw [decodePair, writePair, cut?_append hequals]
  dsimp only
  rw [hname, hvalue]

/-- Listed parameters are read back as they were written. -/
theorem ofText_toText {q : QueryParams} (h : Listed q) : ofText q.toText = q := by
  have hamp : ∀ p, '&' ∉ writePair p := by
    intro p
    rw [writePair, List.mem_append, List.mem_cons, not_or, not_or]
    exact ⟨not_mem_percentEncode (by decide) (by decide) (by decide) _, by decide,
      not_mem_percentEncode (by decide) (by decide) (by decide) _⟩
  have hne : ∀ p, writePair p ≠ [] :=
    fun p => List.append_ne_nil_of_right_ne_nil _ (List.cons_ne_nil _ _)
  rw [ofText, toText_eq, pairsOfText_joinPieces hamp hne decodePair_writePair, ofPairs]
  exact foldl_add_items h

/-- The characters of a query that is written: ampersands, equality signs, and those of names and
values. -/
lemma mem_toText {q : QueryParams} {c : Char} (h : c ∈ q.toText.toList) :
    isUnreserved c = true ∨ c = '&' ∨ c = '=' ∨ c = ',' ∨ c = '%' := by
  rw [toText_eq, String.toList_ofList] at h
  rcases mem_joinPieces h with rfl | ⟨piece, hpiece, hc⟩
  · exact .inr (.inl rfl)
  · obtain ⟨p, -, rfl⟩ := List.mem_map.mp hpiece
    rcases List.mem_append.mp hc with hc | hc
    · obtain ⟨d, -, hc⟩ := List.mem_flatMap.mp hc
      rcases mem_percentChar hc with hsafe | hsafe | rfl
      · exact .inl hsafe
      · exact .inl hsafe
      · simp
    · rcases List.mem_cons.mp hc with rfl | hc
      · simp
      · obtain ⟨d, -, hc⟩ := List.mem_flatMap.mp hc
        rcases mem_percentChar hc with hsafe | hsafe | rfl
        · rcases Bool.or_eq_true_iff.mp hsafe with hsafe | hcomma
          · exact .inl hsafe
          · rw [eq_of_beq hcomma]
            simp
        · exact .inl hsafe
        · simp

/-! ## Setting parameters -/

/-- Parameters with values that are given one after the other. -/
def setAll (q : QueryParams) (pairs : List (String × String)) : QueryParams :=
  pairs.foldl (fun q (k, v) => q.set k v) q

/-- Nothing is set. -/
lemma setAll_nil (q : QueryParams) : q.setAll [] = q :=
  List.foldl_nil

/-- Parameters that are set in turn are set together. -/
lemma setAll_append (q : QueryParams) (pairs others : List (String × String)) :
    q.setAll (pairs ++ others) = (q.setAll pairs).setAll others :=
  List.foldl_append

/-- What parameters are after pairs of names and values were set: the names that were there stay in
their places, and new ones come behind them in the order in which they are first given.  A name has
the last value that it is given, and the values that it had if it is given none. -/
structure Updated (q : QueryParams) (pairs : List (String × String)) (q' : QueryParams) : Prop where
  names : q'.map Prod.fst = (q.map Prod.fst ++ pairs.map Prod.fst).eraseDups
  values : ∀ name, q'.lookup name =
    ((pairs.reverse.lookup name).map fun v => [v]).or (q.lookup name)

/-- A parameter that is set has the place that a value of it would be added to. -/
lemma names_set (q : QueryParams) (name value : String) :
    (q.set name value).map Prod.fst =
      if name ∈ q.map Prod.fst then q.map Prod.fst else q.map Prod.fst ++ [name] := by
  rw [← names_add q name value]
  induction q with
  | nil => rfl
  | cons e q ih =>
    obtain ⟨n, vs⟩ := e
    rw [set, add]
    split
    · rfl
    · exact congrArg (n :: ·) ih

/-- Setting a parameter keeps parameters listed. -/
lemma Listed.set {q : QueryParams} (h : Listed q) (name value : String) :
    Listed (q.set name value) where
  nodup := by
    rw [names_set]
    exact nodup_concat_unless h.nodup name
  values := by
    have hvalues := h.values
    clear h
    induction q with
    | nil => exact List.forall_mem_singleton.mpr (List.cons_ne_nil _ _)
    | cons e q ih =>
      rw [List.forall_mem_cons] at hvalues
      rw [QueryParams.set]
      split
      · exact List.forall_mem_cons.mpr ⟨List.cons_ne_nil _ _, hvalues.2⟩
      · exact List.forall_mem_cons.mpr ⟨hvalues.1, ih hvalues.2⟩

/-- Setting parameters keeps them listed. -/
lemma Listed.setAll {q : QueryParams} (h : Listed q) (pairs : List (String × String)) :
    Listed (q.setAll pairs) := by
  unfold QueryParams.setAll
  induction pairs generalizing q with
  | nil => exact h
  | cons p pairs ih => exact ih (h.set p.1 p.2)

/-- Looking up a name among parameters of which the first is given. -/
lemma lookup_cons_eq {α : Type} (n : String) (a : α) (q : List (String × α)) (name : String) :
    List.lookup name ((n, a) :: q) = if name = n then some a else q.lookup name := by
  rw [List.lookup_cons]
  by_cases h : name = n
  · rw [if_pos h, beq_iff_eq.mpr h]
  · rw [if_neg h, beq_false_of_ne h]

/-- A parameter that is set has its new value only, and the others have what they had. -/
lemma lookup_set (q : QueryParams) (name value other : String) :
    (q.set name value).lookup other = if other = name then some [value] else q.lookup other := by
  induction q with
  | nil => rw [set, lookup_cons_eq]
  | cons e q ih =>
    obtain ⟨n, vs⟩ := e
    rw [set, lookup_cons_eq]
    by_cases hn : n = name
    · rw [if_pos hn, lookup_cons_eq, hn]
      split <;> rfl
    · rw [if_neg hn, lookup_cons_eq, ih]
      by_cases hother : other = n
      · rw [if_pos hother, if_pos hother, if_neg fun h => hn (hother.symm.trans h)]
      · rw [if_neg hother, if_neg hother]

/-- Different names are left as they are when repetitions are dropped. -/
lemma eraseDups_of_nodup {names : List String} (h : names.Nodup) : names.eraseDups = names := by
  induction names with
  | nil => rfl
  | cons n names ih =>
    rw [List.nodup_cons] at h
    have hfilter : names.filter (fun m => !m == n) = names := by
      refine List.filter_eq_self.mpr fun m hm => ?_
      rw [Bool.not_eq_true', beq_eq_false_iff_ne]
      rintro rfl
      exact h.1 hm
    rw [List.eraseDups_cons, hfilter, ih h.2]

/-- A name that is there is dropped behind. -/
lemma eraseDups_append_cons_of_mem {names : List String} {n : String} (h : n ∈ names)
    (others : List String) : (names ++ n :: others).eraseDups = (names ++ others).eraseDups := by
  have hremove : (n :: others).removeAll names = others.removeAll names :=
    List.filter_cons_of_neg (by simp [h])
  rw [List.eraseDups_append, List.eraseDups_append, hremove]

/-- Setting parameters one after the other updates them. -/
theorem updated_setAll {q : QueryParams} (h : Listed q) (pairs : List (String × String)) :
    Updated q pairs (q.setAll pairs) := by
  unfold setAll
  induction pairs generalizing q with
  | nil =>
    refine ⟨?_, fun name => rfl⟩
    rw [List.map_nil, List.append_nil, eraseDups_of_nodup h.nodup]
    rfl
  | cons p pairs ih =>
    obtain ⟨k, v⟩ := p
    obtain ⟨hnames, hvalues⟩ := ih (h.set k v)
    refine ⟨?_, ?_⟩
    · rw [List.foldl_cons]
      dsimp only
      rw [hnames, names_set, List.map_cons]
      split
      · rename_i hmem
        exact (eraseDups_append_cons_of_mem hmem _).symm
      · rw [List.append_assoc, List.singleton_append]
    · intro name
      rw [List.foldl_cons]
      dsimp only
      rw [hvalues, lookup_set, List.reverse_cons, List.lookup_append]
      cases pairs.reverse.lookup name with
      | some w => rfl
      | none =>
        by_cases hname : name = k
        · simp [hname]
        · simp [hname, List.lookup_cons, beq_false_of_ne hname]

/-- A parameter that has the value it is given stays as it is. -/
lemma set_eq_self {q : QueryParams} {name value : String} (h : q.lookup name = some [value]) :
    q.set name value = q := by
  induction q with
  | nil => cases h
  | cons e q ih =>
    obtain ⟨n, vs⟩ := e
    rw [lookup_cons_eq] at h
    rw [set]
    by_cases hn : n = name
    · rw [if_pos hn.symm] at h
      rw [if_pos hn, Option.some.inj h]
    · rw [if_neg (Ne.symm hn)] at h
      rw [if_neg hn, ih h]

/-- A pair is looked up by its name if the names are different. -/
lemma lookup_of_nodup {α : Type} {pairs : List (String × α)} (h : (pairs.map Prod.fst).Nodup)
    {p : String × α} (hp : p ∈ pairs) : pairs.lookup p.1 = some p.2 := by
  induction pairs with
  | nil => cases hp
  | cons e pairs ih =>
    rw [List.map_cons, List.nodup_cons] at h
    rcases List.mem_cons.mp hp with rfl | hp
    · exact List.lookup_cons_self
    · have hne : p.1 ≠ e.1 := by
        intro heq
        exact h.1 (heq ▸ List.mem_map_of_mem hp)
      rw [List.lookup_cons, beq_false_of_ne hne]
      exact ih h.2 hp

/-- Where each name is given once, it has the value that it is given. -/
lemma Updated.lookup_of_mem {q q' : QueryParams} {pairs : List (String × String)}
    (h : Updated q pairs q') (hpairs : (pairs.map Prod.fst).Nodup) {p : String × String}
    (hp : p ∈ pairs) : q'.lookup p.1 = some [p.2] := by
  have hreverse : (pairs.reverse.map Prod.fst).Nodup := by
    rw [List.map_reverse, List.nodup_reverse]
    exact hpairs
  rw [h.values, lookup_of_nodup hreverse (List.mem_reverse.mpr hp)]
  rfl

/-- Parameters of different names that were set have the values that they were given. -/
lemma Listed.lookup_setAll {q : QueryParams} (hq : Listed q) {pairs : List (String × String)}
    (hpairs : (pairs.map Prod.fst).Nodup) {p : String × String} (hp : p ∈ pairs) :
    (q.setAll pairs).lookup p.1 = some [p.2] :=
  (updated_setAll hq pairs).lookup_of_mem hpairs hp

end PageTree.QueryParams
