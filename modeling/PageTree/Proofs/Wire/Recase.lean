import PageTree.Proofs.Text.Blank
import PageTree.Proofs.Wire.Same

/-!
# Recasing what is recased

The wire form of a node is a fixed point: rendering it once more, as a mapping, meets no collision
and changes nothing (`wire_form_is_fixed`).

For one name this comes down to its first letter.  Between separators only first letters change, and
once the words are joined no separator is left, so that a second run meets a single word
(`joinWords_ascii`).  The first letter of that word was put in upper case and then in lower
case, which for letters of ASCII is lower case for good; beyond ASCII it is not, and the theorem
asks for names in ASCII.

That the second run meets no collision follows from the first one.  The keys which it meets are the
names that the first run gave, these are different, and recasing leaves each of them as it is
(`apart_map_recaseKey`).
-/

namespace PageTree.Wire

/-! ## Letters -/

/-- All characters of a text are ASCII. -/
def Ascii (cs : List Char) : Prop :=
  ∀ c ∈ cs, c.toNat < 128

-- The instance is named because characters can also be decided for all at once, which takes long.
instance : DecidablePred Ascii :=
  fun cs => List.decidableBAll (fun c : Char => c.toNat < 128) cs

/-- What holds of the first 128 characters holds of every character of ASCII. -/
lemma forall_ascii {P : Char → Prop} (h : ∀ n : Fin 128, P (Char.ofNat n)) {c : Char}
    (hc : c.toNat < 128) : P c := by
  have hc' := h ⟨c.toNat, hc⟩
  rwa [Char.ofNat_toNat] at hc'

/-- Lower case can be taken back where a letter was put in upper case. -/
lemma toUpper_toLower_toUpper {c : Char} (h : c.toNat < 128) :
    c.toUpper.toLower.toUpper = c.toUpper :=
  forall_ascii (P := fun c => c.toUpper.toLower.toUpper = c.toUpper) (by decide +kernel) h

/-- The characters that make a word: those of ASCII other than the separator. -/
def IsLetter (c : Char) : Prop :=
  c.toNat < 128 ∧ c ≠ separator

/-- A letter stays one in upper case. -/
lemma IsLetter.toUpper {c : Char} (h : IsLetter c) : IsLetter c.toUpper :=
  forall_ascii (P := fun c => c ≠ separator → c.toUpper.toNat < 128 ∧ c.toUpper ≠ separator)
    (by decide +kernel) h.1 h.2

/-- A letter stays one in lower case. -/
lemma IsLetter.toLower {c : Char} (h : IsLetter c) : IsLetter c.toLower :=
  forall_ascii (P := fun c => c ≠ separator → c.toLower.toNat < 128 ∧ c.toLower ≠ separator)
    (by decide +kernel) h.1 h.2

/-- A word of ASCII gets a single character in upper case in front. -/
lemma capitalize_cons {c : Char} (h : c.toNat < 128) (cs : List Char) :
    Text.capitalize (c :: cs) = c.toUpper :: cs := by
  rw [Text.capitalize, Text.upperChar, if_pos h, List.singleton_append]

/-- A word of ASCII gets a single character in lower case in front. -/
lemma uncapitalize_cons {c : Char} (h : c.toNat < 128) (cs : List Char) :
    Text.uncapitalize (c :: cs) = c.toLower :: cs := by
  rw [Text.uncapitalize, Text.lowerChar, if_pos h, List.singleton_append]

/-! ## Words -/

/-- A text of letters. -/
def Word (cs : List Char) : Prop :=
  ∀ c ∈ cs, IsLetter c

/-- A text starts in upper case, if with anything: lower case can be taken back. -/
def StartsUpper (cs : List Char) : Prop :=
  ∀ c ∈ cs.head?, c.toLower.toUpper = c

/-- A word is no more than its first letter in upper case away from starting in upper case. -/
lemma capitalize_word {w : List Char} (h : Word w) :
    Word (Text.capitalize w) ∧ StartsUpper (Text.capitalize w) ∧
      (Text.capitalize w = [] ↔ w = []) := by
  cases w with
  | nil => exact ⟨nofun, nofun, .rfl⟩
  | cons c w =>
    obtain ⟨hc, hw⟩ := List.forall_mem_cons.mp h
    rw [capitalize_cons hc.1]
    refine ⟨List.forall_mem_cons.mpr ⟨hc.toUpper, hw⟩, ?_, iff_of_false nofun nofun⟩
    rintro d ⟨⟩
    exact toUpper_toLower_toUpper hc.1

/-- A word stays one with its first letter in lower case. -/
lemma uncapitalize_word {w : List Char} (h : Word w) :
    Word (Text.uncapitalize w) ∧ (Text.uncapitalize w = [] ↔ w = []) := by
  cases w with
  | nil => exact ⟨nofun, .rfl⟩
  | cons c w =>
    obtain ⟨hc, hw⟩ := List.forall_mem_cons.mp h
    rw [uncapitalize_cons hc.1]
    exact ⟨List.forall_mem_cons.mpr ⟨hc.toLower, hw⟩, iff_of_false nofun nofun⟩

/-- Words that are joined are a word, which starts in upper case and has letters if the words
have. -/
lemma joined_words {ws : List (List Char)} (h : ∀ w ∈ ws, Word w) :
    Word (ws.flatMap Text.capitalize) ∧ StartsUpper (ws.flatMap Text.capitalize) ∧
      (ws.flatMap Text.capitalize = [] ↔ ws.flatten = []) := by
  induction ws with
  | nil => exact ⟨nofun, nofun, .rfl⟩
  | cons w ws ih =>
    obtain ⟨hw, hws⟩ := List.forall_mem_cons.mp h
    obtain ⟨hword, hupper, hnil⟩ := capitalize_word hw
    obtain ⟨hwords, huppers, hnils⟩ := ih hws
    rw [List.flatMap_cons, List.flatten_cons]
    refine ⟨List.forall_mem_append.mpr ⟨hword, hwords⟩, fun c hc => ?_, ?_⟩
    · rw [List.head?_append, Option.mem_def, Option.or_eq_some_iff] at hc
      rcases hc with hc | ⟨-, hc⟩
      · exact hupper c hc
      · exact huppers c hc
    · rw [List.append_eq_nil_iff, List.append_eq_nil_iff, hnil, hnils]

/-- The pieces of a text are made of its characters other than separators. -/
lemma flatten_splitWhere (p : Char → Bool) (cs : List Char) :
    (Text.splitWhere p cs).flatten = cs.filter fun c => !p c := by
  have hcons : ∀ (c : Char) (ws : List (List Char)),
      (Text.consWord c ws).flatten = c :: ws.flatten := by
    intro c ws
    cases ws <;> rfl
  induction cs with
  | nil => rfl
  | cons c cs ih =>
    rw [Text.splitWhere, List.filter_cons]
    cases hc : p c with
    | true =>
      rw [if_pos rfl, List.flatten_cons, List.nil_append, ih]
      rfl
    | false =>
      rw [if_neg Bool.false_ne_true, hcons, ih]
      rfl

/-- The pieces of a text of ASCII are words. -/
lemma word_of_mem_splitWhere {cs : List Char} (h : Ascii cs) :
    ∀ w ∈ Text.splitWhere (· == separator) cs, Word w := by
  intro w hw c hc
  have hmem : c ∈ (Text.splitWhere (· == separator) cs).flatten := List.mem_flatten_of_mem hw hc
  rw [flatten_splitWhere, List.mem_filter, Bool.not_eq_true', beq_eq_false_iff_ne] at hmem
  exact ⟨h c hmem.1, hmem.2⟩

/-- A word that starts in upper case is joined to itself with its first letter in lower case, and
so is what it is joined to. -/
lemma joinWords_uncapitalize {cs : List Char} (hword : Word cs) (hupper : StartsUpper cs) :
    joinWords (Text.uncapitalize cs) = Text.uncapitalize cs := by
  cases cs with
  | nil => rfl
  | cons c cs =>
    obtain ⟨hc, hcs⟩ := List.forall_mem_cons.mp hword
    have hone : Text.splitWhere (· == separator) (c.toLower :: cs) = [c.toLower :: cs] := by
      refine Text.splitWhere_of_forall (List.forall_mem_cons.mpr ⟨?_, fun d hd => ?_⟩)
      · exact beq_eq_false_iff_ne.mpr hc.toLower.2
      · exact beq_eq_false_iff_ne.mpr (hcs d hd).2
    rw [uncapitalize_cons hc.1, joinWords, hone, List.flatMap_singleton,
      capitalize_cons hc.toLower.1, hupper c rfl, uncapitalize_cons hc.1]

/-- The words of a text of ASCII, joined: a word again, empty only if the text has no letters, and
joining it once more changes nothing. -/
lemma joinWords_ascii {cs : List Char} (h : Ascii cs) :
    joinWords (joinWords cs) = joinWords cs ∧ Word (joinWords cs) ∧
      (joinWords cs = [] ↔ ∀ c ∈ cs, c = separator) := by
  obtain ⟨hword, hupper, hnil⟩ := joined_words (word_of_mem_splitWhere h)
  obtain ⟨hlower, hempty⟩ := uncapitalize_word hword
  refine ⟨joinWords_uncapitalize hword hupper, hlower, ?_⟩
  rw [joinWords, hempty, hnil, flatten_splitWhere, List.filter_eq_nil_iff]
  simp only [Bool.not_eq_true, Bool.not_eq_false', beq_iff_eq]

/-- What recasing makes of a name: the name itself, if it is a number or has no letters, and the
joined words otherwise. -/
lemma recase_cases (s : String) :
    (recase s = s ∧ (s.toList.all Text.isDigit = true ∨ joinWords s.toList = [])) ∨
      (recase s = String.ofList (joinWords s.toList) ∧ joinWords s.toList ≠ []) := by
  unfold recase
  dsimp only
  split
  · rename_i hdigits
    exact .inl ⟨rfl, .inl hdigits⟩
  · split
    · rename_i hnil
      exact .inl ⟨rfl, .inr hnil⟩
    · rename_i hne
      exact .inr ⟨rfl, hne⟩

/-- Joined words are recased to themselves if they are joined to themselves. -/
lemma recase_ofList {cs : List Char} (h : joinWords cs = cs) :
    recase (String.ofList cs) = String.ofList cs := by
  rcases recase_cases (String.ofList cs) with ⟨hself, -⟩ | ⟨hjoined, -⟩
  · exact hself
  · rw [hjoined, String.toList_ofList, h]

/-- Recasing a name of ASCII once more changes nothing. -/
lemma recase_recase {s : String} (h : Ascii s.toList) : recase (recase s) = recase s := by
  rcases recase_cases s with ⟨hself, -⟩ | ⟨hjoined, -⟩
  · rw [hself, hself]
  · rw [hjoined]
    exact recase_ofList (joinWords_ascii h).1

-- The capital sharp s has a lower case whose upper case is another one.
example : recase "ẞ" = "ß" ∧ recase "ß" = "sS" := by decide +kernel

/-- A recased name of ASCII has a separator in it exactly if the name is made of separators. -/
lemma separator_mem_recase_iff {s : String} (h : Ascii s.toList) :
    separator ∈ (recase s).toList ↔ s.toList ≠ [] ∧ ∀ c ∈ s.toList, c = separator := by
  obtain ⟨-, hword, hnil⟩ := joinWords_ascii h
  rcases recase_cases s with ⟨hself, hdigits | hempty⟩ | ⟨hjoined, hne⟩
  · -- a separator is no digit
    rw [hself]
    have hdigit : separator ∉ s.toList := fun hmem => by
      have hsep := List.all_eq_true.mp hdigits separator hmem
      revert hsep
      decide
    refine iff_of_false hdigit ?_
    rintro ⟨hfull, hall⟩
    obtain ⟨c, hc⟩ := List.exists_mem_of_ne_nil _ hfull
    exact hdigit (hall c hc ▸ hc)
  · rw [hself, and_iff_left (hnil.mp hempty)]
    refine ⟨List.ne_nil_of_mem, fun hfull => ?_⟩
    obtain ⟨c, hc⟩ := List.exists_mem_of_ne_nil _ hfull
    exact hnil.mp hempty c hc ▸ hc
  · rw [hjoined, String.toList_ofList]
    refine iff_of_false (fun hmem => (hword _ hmem).2 rfl) ?_
    rintro ⟨-, hall⟩
    exact hne (hnil.mpr hall)

/-! ## Trees -/

/-- A key is ASCII if it is a text of ASCII, or no text at all. -/
def AsciiKey : Key → Prop
  | .str s => Ascii s.toList
  | _ => True

instance : DecidablePred AsciiKey
  | .str s => inferInstanceAs (Decidable (Ascii s.toList))
  | .null | .bool _ | .int _ | .float _ | .bytes _ | .moment _ | .tuple _ | .callable _ =>
    .isTrue trivial

/-- The texts among keys are ASCII. -/
def AsciiKeys (ks : List Key) : Prop :=
  ∀ k ∈ ks, AsciiKey k

/-- Recasing a key once more changes nothing. -/
lemma recaseKey_recaseKey {k : Key} (h : AsciiKey k) : recaseKey (recaseKey k) = recaseKey k := by
  cases k with
  | str s => rw [recaseKey, recaseKey, recase_recase h]
  | _ => rfl

/-- Recasing keys once more changes nothing. -/
lemma map_recaseKey_map {ks : List Key} (h : AsciiKeys ks) :
    (ks.map recaseKey).map recaseKey = ks.map recaseKey := by
  rw [List.map_map]
  exact List.map_congr_left fun k hk => recaseKey_recaseKey (h k hk)

/-- Names are apart if the keys that become them are. -/
lemma apart_map_recaseKey {ks : List Key} (h : AsciiKeys ks) :
    Apart (ks.map recaseKey) ↔ Apart ks := by
  have hslots : ∀ ls : List Key, slots ls = (ls.map recaseKey).map Key.canonical := by
    intro ls
    rw [List.map_map]
    rfl
  rw [Apart, Apart, hslots, hslots, map_recaseKey_map h]

/-- The keys of the storage shape of a node become different names. -/
lemma apart_nodeKeys : Apart nodeKeys := by
  have hslots : slots nodeKeys = [.str "type", .str "config", .str "children"] := by rfl
  rw [Apart, hslots]
  simp

/-- Siblings without fragments keep their number and order in the storage shape: the shape of a form
is a form if that of each node is. -/
lemma forms_childValues_node {n : Node} {cs : List Child} (hn : form n.toValue = n.toValue)
    (hcs : forms (Node.childValues cs) = Node.childValues cs) :
    forms (Node.childValues (.node n :: cs)) = Node.childValues (.node n :: cs) := by
  rw [Node.childValues, forms, hn, hcs]

/-- A text is its own form. -/
lemma form_str (s : String) : form (.str s) = .str s := rfl

/-- The storage shape of a node has a form like itself if its configuration and children have. -/
lemma form_toValue {type : String} {config : Entries} {cs : List Child}
    (hconfig : formEntries config = config)
    (hcs : forms (Node.childValues cs) = Node.childValues cs) :
    form (Node.mk type config cs).toValue = (Node.mk type config cs).toValue := by
  have htype : recaseKey (.str "type") = .str "type" := by rfl
  have hname : recaseKey (.str "config") = .str "config" := by rfl
  have hchildren : recaseKey (.str "children") = .str "children" := by rfl
  rw [Node.toValue, form, formEntries, formEntries, formEntries, formEntries, form_str, form, form,
    hconfig, hcs, htype, hname, hchildren]

/-- Storage shapes of siblings that are their own forms, one list after the other. -/
lemma forms_append (vs ws : List Value) : forms (vs ++ ws) = forms vs ++ forms ws := by
  induction vs with
  | nil => rw [forms, List.nil_append, List.nil_append]
  | cons v vs ih => rw [List.cons_append, forms, forms, ih, List.cons_append]

mutual

/-- The form of a form is the form. -/
theorem form_form : (v : Value) → Every AsciiKeys (valueMappings v) → form (form v) = form v
  | .list vs, h | .tuple vs, h => by rw [form, form, forms_forms vs h]
  | .map es, h => by
    rw [valueMappings, every_cons] at h
    rw [form, form, formEntries_formEntries es h.1 h.2]
  | .node n, h => by rw [form, form_formNode n h]
  | .null, _ | .bool _, _ | .int _, _ | .float _, _ | .str _, _ | .bytes _, _ | .moment _, _
  | .query _, _ | .callable _, _ => rfl

/-- The forms of forms of elements. -/
theorem forms_forms : (vs : List Value) → Every AsciiKeys (itemMappings vs) →
    forms (forms vs) = forms vs
  | [], _ => rfl
  | v :: vs, h => by
    rw [itemMappings, every_append] at h
    rw [forms, forms, form_form v h.1, forms_forms vs h.2]

/-- The forms of forms of entries. -/
theorem formEntries_formEntries : (es : List (Key × Value)) → AsciiKeys (Entries.keys es) →
    Every AsciiKeys (entryMappings es) → formEntries (formEntries es) = formEntries es
  | [], _, _ => rfl
  | (k, v) :: es, hkeys, h => by
    rw [entryMappings, every_append] at h
    obtain ⟨hk, hrest⟩ := List.forall_mem_cons.mp hkeys
    rw [formEntries, formEntries, recaseKey_recaseKey hk, form_form v h.1,
      formEntries_formEntries es hrest h.2]

/-- The form of the storage shape of the form of a node. -/
theorem form_formNode : (n : Node) → Every AsciiKeys (nodeMappings n) →
    form (formNode n).toValue = (formNode n).toValue
  | .mk type config cs, h => by
    rw [nodeMappings, every_cons, every_append] at h
    rw [formNode]
    exact form_toValue (formEntries_formEntries config h.1 h.2.1) (forms_formChildren cs h.2.2)

/-- The forms of the storage shapes of the forms of children. -/
theorem forms_formChildren : (cs : List Child) → Every AsciiKeys (childMappings cs) →
    forms (Node.childValues (formChildren cs)) = Node.childValues (formChildren cs)
  | [], _ => rfl
  | .text s :: rest, h => by
    rw [formChildren, Node.childValues, forms, form_str, forms_formChildren rest h]
  | .node (.mk type config cs) :: rest, h => by
    rw [childMappings] at h
    rw [formChildren]
    split at h
    · rename_i hfragment
      rw [every_append] at h
      rw [if_pos hfragment, childValues_append, forms_append, forms_formChildren cs h.1,
        forms_formChildren rest h.2]
    · rename_i hfragment
      rw [every_cons, every_append, every_append] at h
      rw [if_neg hfragment]
      exact forms_childValues_node
        (form_toValue (formEntries_formEntries config h.1 h.2.1) (forms_formChildren cs h.2.2.1))
        (forms_formChildren rest h.2.2.2)

end

/-- What is rendered, with keys of ASCII, is rendered to itself as a mapping: no two names collide,
and all entries stay as they are and where they are.  For a single name of ASCII, recasing it twice
is recasing it once, and a separator is left only in a name that is made of separators. -/
theorem wire_form_is_fixed :
    (∀ path n w, Every AsciiKeys (nodeMappings n) → node path n = .ok w →
      ∃ es, w.toValue = .map es ∧ ∀ place, entries place [] es = .ok es) ∧
    (∀ s : String, Ascii s.toList → recase (recase s) = recase s) ∧
    ∀ s : String, Ascii s.toList → (separator ∈ (recase s).toList ↔
      s.toList ≠ [] ∧ ∀ c ∈ s.toList, c = separator) := by
  refine ⟨fun path n w hascii hw => ?_, fun s => recase_recase, fun s => separator_mem_recase_iff⟩
  obtain ⟨hapart, rfl⟩ := (node_eq_ok_iff path n w).mp hw
  have hform := form_formNode n hascii
  have hreached : Every Apart (valueMappings (formNode n).toValue) := by
    rw [every_formNode apart_nodeKeys]
    exact fun es hes => (apart_map_recaseKey (hascii es hes)).mpr (hapart es hes)
  generalize formNode n = w at hform hreached
  obtain ⟨type, config, cs⟩ := w
  refine ⟨_, rfl, fun place => ?_⟩
  rw [entries_eq_ok_iff]
  exact ⟨hreached, (Value.map.inj hform).symm⟩

/-- A page with names of all kinds: separators in front, behind and alone, words that are numbers,
capitals, and keys that are no texts, in mappings in sequences and in a node in a configuration. -/
def spelled : Node :=
  .mk "page" [(.str "_lead_in", .tuple [.map [(.str "1_2", .null), (.str "__", .null)]]),
      (.str "Http_URL_", .node (.mk "box" [(.str "fooBar", .int 1), (.int 7, .str "x")] [])),
      (.str "a__b", .map [(.str "", .bool true)])]
    [.node (.mk "" [(.str "no_matter", .null)]
      [.text "t", .node (.mk "p" [(.str "z_1", .null)] [])])]

/-- The page as it is sent. -/
def spelledForm : Node :=
  .mk "page" [(.str "leadIn", .list [.map [(.str "12", .null), (.str "__", .null)]]),
      (.str "httpURL", (Node.mk "box" [(.str "fooBar", .int 1), (.int 7, .str "x")] []).toValue),
      (.str "aB", .map [(.str "", .bool true)])]
    [.text "t", .node (.mk "p" [(.str "z1", .null)] [])]

/-- The page is rendered, and what is sent is rendered to itself. -/
theorem wire_form_is_fixed_spelled :
    Every AsciiKeys (nodeMappings spelled) ∧ node rootPath spelled = .ok spelledForm ∧
      recase (recase "_lead_in") = recase "_lead_in" ∧
      ∃ es, spelledForm.toValue = .map es ∧ ∀ place, entries place [] es = .ok es := by
  have hascii : ∀ es ∈ nodeMappings spelled, ∀ k ∈ Entries.keys es, AsciiKey k := by
    decide +kernel
  have hnode : node rootPath spelled = .ok spelledForm := by rfl
  obtain ⟨hfixed, hrecase, -⟩ := wire_form_is_fixed
  exact ⟨hascii, hnode, hrecase "_lead_in" (by decide),
    hfixed rootPath spelled spelledForm hascii hnode⟩

end PageTree.Wire
