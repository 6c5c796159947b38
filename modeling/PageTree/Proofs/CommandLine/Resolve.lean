import PageTree.Proofs.CommandLine.Session
import PageTree.Proofs.Resolution.Rules
import PageTree.Proofs.Resolution.Writable
import PageTree.Proofs.Wire.Collision

/-!
# All wire forms or none

The command line reads a file, validates every tree in it, resolves the trees one after the other,
brings each into its wire form, and prints the lot at the very end.  Each of these steps can end the
session before anything is printed: a tree that is not valid, a problem recorded in a strict
resolution, and keys that collide in a resolved tree.  `GoesThrough` says that none of this happens.

`AllOrNone` is what the session owes: if everything goes through, it prints one document with the
wire forms of all trees that are not dropped and ends well; otherwise it ends with exit code 1, and
all it prints are the reports on trees that are not valid, none of which is a document.

`prints_all_or_none` says that it does, provided that the definitions keep configurations writable
and that whatever they ask for can be looked up.  The second condition is about type tags as well as
sources: a tag that cannot be looked up, such as a list, ends the session by a crash, although
nothing is wrong with the trees (`unhashable_tag_crashes`).
-/

namespace PageTree.CommandLine

/-! ## What the session owes -/

/-- What becomes of a tree: nothing if it is dropped, and its wire form otherwise. -/
def Sends (r : Resolver) (context : Context) (root : Value) (out : List Value) : Prop :=
  ((r.resolveTree context root).result = .ok none ∧ out = []) ∨
    ∃ tree wire, (r.resolveTree context root).result = .ok (some tree) ∧
      Wire.tree Wire.rootPath tree = .ok wire ∧ out = [Wire.shape wire]

/-- Nothing keeps a tree that is resolved from being sent: a strict resolution records no problem,
and no mapping of the resolved tree has colliding keys. -/
structure Clears (r : Resolver) (context : Context) (root : Value) : Prop where
  unrecorded : r.strict = true → (r.resolveTree context root).report.records = []
  apart : ∀ tree, (r.resolveTree context root).result = .ok (some tree) →
    ∀ es ∈ Wire.treeMappings tree, ¬ Wire.Collides es

/-- All trees are valid, and nothing keeps any of them from being sent. -/
structure GoesThrough (r : Resolver) (context : Context) (roots : List Value) : Prop where
  valid : ∀ root ∈ roots, (Tree.validate (some r.registry.types) root).valid = true
  clear : ∀ root ∈ roots, Clears r context root

/-- The reports on the trees that are not valid. -/
def reports (r : Registry) (roots : List Value) : List String :=
  ((roots.map (Tree.validate (some r.types))).filter fun f => !f.valid).map Findings.text

/-- A session prints the wire forms of all trees in the data of a file, or of none. -/
structure AllOrNone (r : Resolver) (context : Context) (style : Json.Style) (data : Value)
    (session : Session Unit) : Prop where
  ends_well_iff : ∀ t, (session.run t).1 = .ok () ↔ GoesThrough r context (rootsOf data)
  all : GoesThrough r context (rootsOf data) → ∃ outs document,
    List.Forall₂ (Sends r context) (rootsOf data) outs ∧
      (outputOf data outs.flatten).toJson? = .ok document ∧
      Prints session [document.render style] (.ok ())
  none : ¬ GoesThrough r context (rootsOf data) →
    Prints session (reports r.registry (rootsOf data)) (.error (.exit 1)) ∧
      ∀ line ∈ reports r.registry (rootsOf data), ∀ document, Json.read line ≠ .ok document

/-! ## Validation -/

/-- There are no reports on trees that are all valid. -/
lemma reports_of_valid {r : Registry} {roots : List Value}
    (h : ∀ root ∈ roots, (Tree.validate (some r.types) root).valid = true) :
    reports r roots = [] := by
  rw [reports, List.map_eq_nil_iff, List.filter_eq_nil_iff, List.forall_mem_map]
  intro root hroot
  rw [h root hroot]
  decide

/-- Validation prints the reports on the trees that are not valid, and says whether all are. -/
lemma prints_validateAll (r : Registry) (roots : List Value) :
    Prints (validateAll r roots) (reports r roots)
      (.ok (roots.all fun root => (Tree.validate (some r.types) root).valid)) := by
  induction roots with
  | nil => exact prints_pure true
  | cons root roots ih =>
    rw [validateAll]
    refine (prints_log _).after ?_
    have hrest : Prints (do
        let others ← validateAll r roots
        pure ((Tree.validate (some r.types) root).valid && others)) (reports r roots)
        (.ok ((root :: roots).all fun root => (Tree.validate (some r.types) root).valid)) := by
      have hboth := ih.bind
        (f := fun others => pure ((Tree.validate (some r.types) root).valid && others))
        (prints_pure _)
      rwa [List.append_nil] at hboth
    cases hvalid : (Tree.validate (some r.types) root).valid with
    | true =>
      have hreports : reports r (root :: roots) = reports r roots := by
        rw [reports, List.map_cons, List.filter_cons_of_neg (by rw [hvalid]; decide)]
        rfl
      rw [hreports]
      rw [hvalid] at hrest
      exact hrest
    | false =>
      have hreports : reports r (root :: roots) =
          [(Tree.validate (some r.types) root).text] ++ reports r roots := by
        rw [reports, List.map_cons, List.filter_cons_of_pos (by rw [hvalid]; decide)]
        rfl
      rw [hreports]
      rw [hvalid] at hrest
      exact (prints_print _).bind hrest

/-- A text that starts with the first letter of a report is no document. -/
lemma read_of_initial {text : String} {rest : List Char} (h : text.toList = 'V' :: rest)
    (document : Json) : Json.read text ≠ .ok document := by
  have hvalue : Json.readValue (2 * ('V' :: rest).length + 2) (Json.skipSpace ('V' :: rest)) =
      .error (.expectedValue, 'V' :: rest) := rfl
  have hmark : ('V' :: rest).head? ≠ some (Char.ofNat 0xfeff) := by
    rw [List.head?_cons, ne_eq, Option.some.injEq]
    decide
  rw [Json.read, h, if_neg hmark, hvalue]
  nofun

/-- The report on data that is not valid starts with a heading. -/
lemma exists_text_of_invalid {known : Option (List String)} {d : Value}
    (h : (Tree.validate known d).valid = false) :
    ∃ rest, (Tree.validate known d).text.toList = 'V' :: rest := by
  have hitems : (Tree.validate known d).items.isEmpty = false := by
    rw [Tree.validate, Findings.ofList] at h ⊢
    cases hfindings : Tree.checkNode known "root" d with
    | nil =>
      rw [hfindings] at h
      cases h
    | cons f fs => rfl
  have hheading : "Validation ".toList = 'V' :: "alidation ".toList := by decide
  have htext : ∀ line lines, ∃ more, joinWith "\n" (("Validation " ++ "FAILED") :: line :: lines) =
      "Validation " ++ more := fun line lines => by
    rw [joinWith, String.append_assoc, String.append_assoc]
    · exact ⟨_, rfl⟩
    · exact List.cons_ne_nil _ _
  rw [Findings.text, hitems, h]
  obtain ⟨more, hmore⟩ := htext (String.ofList (List.replicate 50 '='))
    (Findings.paragraph "Errors" (Tree.validate known d).errors ++
      Findings.paragraph "\nWarnings" (Tree.validate known d).warnings)
  refine ⟨"alidation ".toList ++ more.toList, ?_⟩
  simp only [Bool.false_eq_true, if_false]
  rw [hmore, String.toList_append, hheading]
  rfl

/-- The reports on trees that are not valid are no documents. -/
lemma read_report {r : Registry} {roots : List Value} {line : String}
    (h : line ∈ reports r roots) (document : Json) : Json.read line ≠ .ok document := by
  obtain ⟨f, hf, rfl⟩ := List.mem_map.mp h
  obtain ⟨hmem, hinvalid⟩ := List.mem_filter.mp hf
  obtain ⟨root, -, rfl⟩ := List.mem_map.mp hmem
  rw [Bool.not_eq_true'] at hinvalid
  obtain ⟨rest, hrest⟩ := exists_text_of_invalid hinvalid
  exact read_of_initial hrest document

/-! ## Resolution -/

section Resolve

variable {r : Resolver} {context : Context} {root : Value}

/-- A resolution that does not fail is finished if a strict one records no problem. -/
lemma finish_of_unrecorded {c : Option Child} {run : Run (Option Child)} (hrun : run.result = .ok c)
    (h : r.strict = true → run.report.records = []) :
    ∃ resolution, r.finish run = .ok resolution ∧ resolution.tree = c := by
  unfold Resolver.finish
  rw [hrun]
  dsimp only
  cases hrecords : run.report.records with
  | nil => exact ⟨_, rfl, rfl⟩
  | cons first rest =>
    have hlenient : r.strict = false := by
      refine Bool.eq_false_iff.mpr fun hstrict => ?_
      rw [h hstrict] at hrecords
      cases hrecords
    dsimp only
    rw [hlenient]
    exact ⟨_, rfl, rfl⟩

/-- A strict resolution is refused for the problems that it records. -/
lemma finish_of_recorded {c : Option Child} {run : Run (Option Child)} (hrun : run.result = .ok c)
    (hstrict : r.strict = true) (h : run.report.records ≠ []) :
    ∃ first rest, r.finish run = .error (.strict first rest) := by
  unfold Resolver.finish
  rw [hrun]
  dsimp only
  cases hrecords : run.report.records with
  | nil => exact absurd hrecords h
  | cons first rest =>
    dsimp only
    rw [if_pos hstrict]
    exact ⟨_, _, rfl⟩

/-- A resolution that fails ends the session by a crash. -/
lemma prints_resolveRoot_of_error {e : Fault}
    (hresult : (r.resolveTree context root).result = .error e) :
    Prints (resolveRoot r context root) [] (.error (.crash (.fault e))) := by
  have hfinish : r.finish (r.resolveTree context root) = .error (.fault e) := by
    rw [Resolver.finish, hresult]
  refine (prints_log _).after ?_
  rw [hfinish]
  exact prints_crash _

/-- A tree that nothing keeps from being sent is sent without a word. -/
lemma exists_sends {c : Option Child} (hresult : (r.resolveTree context root).result = .ok c)
    (h : Clears r context root) :
    ∃ out, Sends r context root out ∧ Prints (resolveRoot r context root) [] (.ok out) := by
  obtain ⟨resolution, hfinish, htree⟩ := finish_of_unrecorded hresult h.unrecorded
  cases c with
  | none =>
    refine ⟨[], .inl ⟨hresult, rfl⟩, (prints_log _).after ?_⟩
    rw [hfinish]
    dsimp only
    rw [htree]
    exact prints_pure []
  | some tree =>
    have hwire := (Wire.tree_eq_ok_iff Wire.rootPath).mpr ⟨h.apart tree hresult, rfl⟩
    refine ⟨_, .inr ⟨tree, _, hresult, hwire, rfl⟩, (prints_log _).after ?_⟩
    rw [hfinish]
    dsimp only
    rw [htree]
    dsimp only
    rw [hwire]
    exact prints_pure _

/-- A tree that something keeps from being sent ends the session without a word. -/
lemma prints_resolveRoot_of_not_clears {c : Option Child}
    (hresult : (r.resolveTree context root).result = .ok c) (h : ¬ Clears r context root) :
    Prints (resolveRoot r context root) [] (.error (.exit 1)) := by
  refine (prints_log _).after ?_
  by_cases hunrecorded : r.strict = true → (r.resolveTree context root).report.records = []
  · -- then two keys of the resolved tree collide
    obtain ⟨resolution, hfinish, htree⟩ := finish_of_unrecorded hresult hunrecorded
    rw [hfinish]
    dsimp only
    rw [htree]
    cases c with
    | none =>
      refine absurd ⟨hunrecorded, fun tree htree => ?_⟩ h
      rw [hresult] at htree
      cases htree
    | some tree =>
      dsimp only
      cases hwire : Wire.tree Wire.rootPath tree with
      | ok wire =>
        refine absurd ⟨hunrecorded, fun other hother => ?_⟩ h
        rw [hresult] at hother
        cases hother
        exact ((Wire.tree_eq_ok_iff _).mp hwire).1
      | error e => exact (prints_log _).after (prints_exit 1)
  · obtain ⟨hstrict, hrecorded⟩ := Classical.not_imp.mp hunrecorded
    obtain ⟨first, rest, hfinish⟩ := finish_of_recorded hresult hstrict hrecorded
    rw [hfinish]
    exact (prints_log _).after ((prints_forIn_logError rest _).after (prints_exit 1))

/-- Trees that nothing keeps from being sent are sent in order. -/
lemma exists_sends_all {roots : List Value}
    (hresults : ∀ root ∈ roots, ∃ c, (r.resolveTree context root).result = .ok c)
    (h : ∀ root ∈ roots, Clears r context root) :
    ∃ outs, List.Forall₂ (Sends r context) roots outs ∧
      Prints (resolveAll r context roots) [] (.ok outs.flatten) := by
  induction roots with
  | nil => exact ⟨[], .nil, prints_pure []⟩
  | cons root roots ih =>
    rw [List.forall_mem_cons] at hresults h
    obtain ⟨c, hc⟩ := hresults.1
    obtain ⟨out, hsends, hprints⟩ := exists_sends hc h.1
    obtain ⟨outs, hall, hothers⟩ := ih hresults.2 h.2
    refine ⟨out :: outs, .cons hsends hall, ?_⟩
    exact hprints.after (hothers.after (prints_pure _))

/-- A tree that something keeps from being sent keeps all trees from being sent. -/
lemma prints_resolveAll_of_not_clears {roots : List Value}
    (hresults : ∀ root ∈ roots, ∃ c, (r.resolveTree context root).result = .ok c)
    (h : ¬ ∀ root ∈ roots, Clears r context root) :
    Prints (resolveAll r context roots) [] (.error (.exit 1)) := by
  induction roots with
  | nil => exact absurd nofun h
  | cons root roots ih =>
    rw [List.forall_mem_cons] at hresults h
    obtain ⟨c, hc⟩ := hresults.1
    by_cases hclears : Clears r context root
    · obtain ⟨out, -, hprints⟩ := exists_sends hc hclears
      have hothers := ih hresults.2 fun hall => h ⟨hclears, hall⟩
      exact hprints.after (hothers.bind_error _)
    · exact (prints_resolveRoot_of_not_clears hc hclears).bind_error _

/-- Where everything can be looked up, the resolution of a tree has a result. -/
lemma exists_resolveTree (hlookable : r.registry.Lookable) (hroot : Tree.WellFormed root) :
    ∃ c, (r.resolveTree context root).result = .ok c := by
  obtain ⟨c, hc, -⟩ := hroot.exists_reads
  rw [Resolver.resolveTree_eq context r, hc]
  cases c with
  | text s => exact ⟨_, rfl⟩
  | node n => exact Resolver.exists_visit hlookable context r.maxDepth n

/-- What is sent of a tree that is not dropped is its wire form. -/
lemma Sends.eq_of_result {out : List Value} (h : Sends r context root out) {tree wire : Child}
    (hresult : (r.resolveTree context root).result = .ok (some tree))
    (hwire : Wire.tree Wire.rootPath tree = .ok wire) : out = [Wire.shape wire] := by
  rcases h with ⟨hnone, -⟩ | ⟨tree', wire', hresult', hwire', rfl⟩
  · rw [hresult] at hnone
    cases hnone
  · rw [hresult] at hresult'
    cases hresult'
    rw [hwire] at hwire'
    cases hwire'
    rfl

/-- What is sent of a tree of data can be written. -/
lemma Sends.writable {nested : Bool} (hkeeps : r.KeepsWritable nested context)
    (hroot : Tree.WellFormed root) (hdata : root.Writable nested) {out : List Value}
    (h : Sends r context root out) : ∀ v ∈ out, v.Writable false := by
  rcases h with ⟨-, rfl⟩ | ⟨tree, wire, hresult, hwire, rfl⟩
  · nofun
  · obtain ⟨-, rfl⟩ := (Wire.tree_eq_ok_iff _).mp hwire
    have htree : tree.Writable nested := hkeeps.resolveTree hroot hdata hresult
    rw [List.forall_mem_singleton]
    exact Wire.writable_shape htree

end Resolve

/-! ## The whole session -/

/-- The data in the file of a tree are those of a document. -/
lemma exists_json_of_readTree {files : Files} {path : Path} {data : Value}
    (h : readTree files path = .ok data) : ∃ j : Json, data = j.toValue := by
  unfold readTree at h
  split at h
  · split at h <;> cases h
  · cases h
  · cases h
  · split at h
    · cases h
    · split at h
      · rename_i j _
        cases h
        exact ⟨j, rfl⟩
      · split at h <;> cases h

/-- The trees in a document are data. -/
lemma writable_rootsOf (nested : Bool) (j : Json) :
    ∀ root ∈ rootsOf j.toValue, root.Writable nested := by
  have hdata := Json.writable_toValue nested j
  unfold rootsOf
  split
  · rename_i vs hvs
    rw [hvs] at hdata
    exact itemsWritable_iff.mp hdata
  · exact List.forall_mem_singleton.mpr hdata

/-- A value that has a document is printed as that. -/
lemma prints_document {v : Value} {document : Json} (h : v.toJson? = .ok document)
    (style : Json.Style) : Prints (printDocument style v) [document.render style] (.ok ()) := by
  have hwrite : Wire.write style false v =
      (v.toJson?.mapError .unwritable >>= fun j => pure (j.render style)) := rfl
  rw [printDocument, hwrite, h]
  exact prints_print _

/-- What is printed for trees whose wire forms can be written can be written. -/
lemma exists_document_of_outputOf (data : Value) {wire : List Value}
    (h : ∀ v ∈ wire, v.Writable false) :
    ∃ document, (outputOf data wire).toJson? = .ok document := by
  have hhead : (wire.headD .null).Writable false := by
    cases wire with
    | nil => trivial
    | cons v vs => exact h v List.mem_cons_self
  rw [← writable_iff_toJson?]
  unfold outputOf
  split
  · exact itemsWritable_iff.mpr h
  · exact hhead

section File

variable {files : Files} {r : Registry} {job : Job} {path : Path} {data : Value} {bound : Nat}

/-- Trees that are not all valid are reported, and then the session is left. -/
lemma prints_resolveFile_of_invalid (hread : readTree files path = .ok data)
    (h : ¬ ∀ root ∈ rootsOf data, (Tree.validate (some r.types) root).valid = true) :
    Prints (resolveFile files r job path) (reports r (rootsOf data)) (.error (.exit 1)) := by
  have hchecked := prints_validateAll r (rootsOf data)
  rw [Bool.eq_false_iff.mpr (mt List.all_eq_true.mp h)] at hchecked
  have hleft := hchecked.bind
    (f := fun valid => if valid then
      if job.validateOnly then Session.print "✓ Tree is valid" else printTrees r job data
      else Session.exit 1) (prints_exit 1)
  rw [List.append_nil] at hleft
  exact (prints_lift hread).after hleft

/-- For trees that are all valid the session prints what comes of their resolution. -/
lemma prints_resolveFile_of_valid (hread : readTree files path = .ok data)
    (hresolve : job.validateOnly = false)
    (h : ∀ root ∈ rootsOf data, (Tree.validate (some r.types) root).valid = true)
    {lines : List String} {outcome : Except Ending Unit}
    (htrees : Prints (printTrees r job data) lines outcome) :
    Prints (resolveFile files r job path) lines outcome := by
  have hchecked := prints_validateAll r (rootsOf data)
  rw [reports_of_valid h, List.all_eq_true.mpr h] at hchecked
  refine (prints_lift hread).after (hchecked.after ?_)
  rw [if_pos rfl, hresolve, if_neg Bool.false_ne_true]
  exact htrees

/-- Wire forms that can be written are printed as one document. -/
lemma prints_printTrees (hbound : Resolver.depthOf job.maxDepth = .ok bound) {wire : List Value}
    (hwire : Prints (resolveAll (job.resolver r bound) job.context (rootsOf data)) [] (.ok wire))
    {document : Json} (h : (outputOf data wire).toJson? = .ok document) :
    Prints (printTrees r job data) [document.render job.style] (.ok ()) :=
  (prints_lift ((mapError_eq_ok_iff _ _ _).mpr hbound)).after
    (hwire.after (prints_document h job.style))

/-- A resolution that ends the session does so before anything is printed. -/
lemma prints_printTrees_of_error (hbound : Resolver.depthOf job.maxDepth = .ok bound) {e : Ending}
    (h : Prints (resolveAll (job.resolver r bound) job.context (rootsOf data)) [] (.error e)) :
    Prints (printTrees r job data) [] (.error e) :=
  (prints_lift ((mapError_eq_ok_iff _ _ _).mpr hbound)).after (h.bind_error _)

end File

/-- What is sent of trees of data can be written. -/
lemma writable_of_sends {r : Resolver} {context : Context} {nested : Bool}
    (hkeeps : r.KeepsWritable nested context) {roots : List Value} {outs : List (List Value)}
    (h : List.Forall₂ (Sends r context) roots outs) (hroots : ∀ root ∈ roots, Tree.WellFormed root)
    (hdata : ∀ root ∈ roots, root.Writable nested) : ∀ v ∈ outs.flatten, v.Writable false := by
  induction h with
  | nil => nofun
  | cons hsends _ ih =>
    rw [List.forall_mem_cons] at hroots hdata
    rw [List.flatten_cons, List.forall_mem_append]
    exact ⟨hsends.writable hkeeps hroots.1 hdata.1, ih hroots.2 hdata.2⟩

/-- For a file that holds a document, a registry whose definitions keep configurations writable and
whose declared data can be looked up, and a bound on the depth: the session prints the wire forms of
all trees that are not dropped if all are valid, in strict mode none records a problem, and no
resolved one has colliding keys; and otherwise it ends with exit code 1 and prints none. -/
theorem prints_all_or_none (files : Files) (r : Registry) (job : Job) (path : Path) {data : Value}
    (hread : readTree files path = .ok data) (hresolve : job.validateOnly = false) {bound : Nat}
    (hbound : Resolver.depthOf job.maxDepth = .ok bound) (hlookable : r.Lookable) {nested : Bool}
    (hkeeps : (job.resolver r bound).KeepsWritable nested job.context) :
    AllOrNone (job.resolver r bound) job.context job.style data (resolveFile files r job path) := by
  obtain ⟨j, hj⟩ := exists_json_of_readTree hread
  have hdata : ∀ root ∈ rootsOf data, root.Writable nested := hj ▸ writable_rootsOf nested j
  have hformed : (∀ root ∈ rootsOf data, (Tree.validate (some r.types) root).valid = true) →
      ∀ root ∈ rootsOf data, Tree.WellFormed root :=
    fun hvalid root hroot => (Tree.valid_iff_wellFormed _ root).mp (hvalid root hroot)
  have hresults : (∀ root ∈ rootsOf data, Tree.WellFormed root) → ∀ root ∈ rootsOf data,
      ∃ c, ((job.resolver r bound).resolveTree job.context root).result = .ok c :=
    fun hroots root hroot => exists_resolveTree hlookable (hroots root hroot)
  have hall : GoesThrough (job.resolver r bound) job.context (rootsOf data) →
      ∃ outs document, List.Forall₂ (Sends (job.resolver r bound) job.context) (rootsOf data) outs ∧
        (outputOf data outs.flatten).toJson? = .ok document ∧
        Prints (resolveFile files r job path) [document.render job.style] (.ok ()) := by
    intro hthrough
    have hroots := hformed hthrough.valid
    obtain ⟨outs, hsends, hwire⟩ := exists_sends_all (hresults hroots) hthrough.clear
    obtain ⟨document, hdocument⟩ :=
      exists_document_of_outputOf data (writable_of_sends hkeeps hsends hroots hdata)
    exact ⟨outs, document, hsends, hdocument, prints_resolveFile_of_valid hread hresolve
      hthrough.valid (prints_printTrees hbound hwire hdocument)⟩
  have hnone : ¬ GoesThrough (job.resolver r bound) job.context (rootsOf data) →
      Prints (resolveFile files r job path) (reports r (rootsOf data)) (.error (.exit 1)) := by
    intro hnot
    by_cases hvalid : ∀ root ∈ rootsOf data, (Tree.validate (some r.types) root).valid = true
    · have hclear : ¬ ∀ root ∈ rootsOf data, Clears (job.resolver r bound) job.context root :=
        fun hclear => hnot ⟨hvalid, hclear⟩
      rw [reports_of_valid hvalid]
      exact prints_resolveFile_of_valid hread hresolve hvalid (prints_printTrees_of_error hbound
        (prints_resolveAll_of_not_clears (hresults (hformed hvalid)) hclear))
    · exact prints_resolveFile_of_invalid hread hvalid
  refine ⟨fun t => ?_, hall, fun hnot => ⟨hnone hnot, fun line hline => read_report hline⟩⟩
  constructor
  · intro hok
    by_contra hnot
    rw [(hnone hnot t).1] at hok
    cases hok
  · intro hthrough
    obtain ⟨outs, document, -, -, hprints⟩ := hall hthrough
    exact (hprints t).1

/-! ## Two registries -/

/-- A definition that gives its nodes another name.  It asks the context for a datum whose type is
named by the given value. -/
def renamer (tag : Value) : Definition :=
  { Definition.blank "old" with
    requirements := [(.str "size", ⟨tag, .str "size", .null, .str ""⟩)]
    action := some (.run ⟨"rename", "", "", fun n _ _ => .ok (.node (n.withType "new"))⟩) }

/-- The registry with this definition. -/
def renames (tag : Value) : Registry where
  definitions := [("old", renamer tag)]
  frozen := true

/-- The text of a file with a text and a node that is renamed. -/
def pagesText : String :=
  "[\"a\",\x7b\"name\":\"old\"\x7d]"

/-- The file. -/
def pages : Files :=
  ⟨[(["t.json"], .octets (pagesText.toList.map fun c => c.toNat.toUInt8))], []⟩

/-- The path of the file. -/
def pagesPath : Path := ⟨false, ["t.json"]⟩

/-- The node in the file. -/
def oldNode : Value := .map [(.str "name", .str "old")]

/-- What stands in the file. -/
def pagesData : Value := .list [.str "a", oldNode]

/-- Resolve in strict mode, in a context without entries. -/
def strictly : Job where
  entries := []
  maxDepth := .int 8
  traceLevel := .errors
  strict := true
  validateOnly := false
  style := .oneLine

/-- The file is read. -/
lemma readTree_pages : readTree pages pagesPath = .ok pagesData := by
  have htext : pages.readText? pagesPath = some pagesText := by decide +kernel
  have hchars : pagesText.toList =
      ['[', '"', 'a', '"', ',', '\x7b', '"', 'n', 'a', 'm', 'e', '"', ':', '"', 'o', 'l', 'd', '"',
        '\x7d', ']'] := by decide
  have hread : Json.read pagesText =
      .ok (.array [.str "a", .object [("name", .str "old")]]) := by
    rw [Json.read, hchars]
    rfl
  have hfile : pages.get? pagesPath =
      some (.octets (pagesText.toList.map fun c => c.toNat.toUInt8)) := rfl
  rw [readTree, hfile, htext]
  dsimp only
  rw [hread]
  rfl

/-- There is one definition. -/
lemma eq_renamer {tag : Value} {name : String} {d : Definition}
    (h : (renames tag).get? name = some d) : d = renamer tag := by
  obtain ⟨e, he, rfl⟩ := Option.map_eq_some_iff.mp h
  rw [List.mem_singleton.mp (List.mem_of_find?_eq_some he)]

/-- Renaming keeps configurations writable. -/
lemma keepsWritable_renames (tag : Value) :
    (strictly.resolver (renames tag) 8).KeepsWritable false strictly.context where
  defaults type d hd := by
    rw [eq_renamer hd]
    trivial
  made n d x m hn hx hm := by
    obtain ⟨hd, a, data, haction, -, rfl⟩ := hx
    rw [eq_renamer hd] at haction hm
    cases haction
    cases hm
    rw [node_writable_iff] at hn ⊢
    exact ⟨entriesWritable_merge trivial hn.1, hn.2⟩

/-- The trees in the file are valid. -/
lemma valid_pages (tag : Value) : ∀ root ∈ rootsOf pagesData,
    (Tree.validate (some (renames tag).types) root).valid = true := by
  have hold : (Tree.validate (some (renames tag).types) oldNode).valid = true :=
    (Tree.valid_iff_wellFormed _ _).mpr
      (.node _ "old" [] [] (.inr ⟨rfl, rfl⟩) rfl rfl (List.forall_mem_nil _))
  exact List.forall_mem_cons.mpr ⟨rfl, List.forall_mem_singleton.mpr hold⟩

/-- With a known type tag the node is renamed, and both trees of the file are printed. -/
theorem prints_all_or_none_pages :
    AllOrNone (strictly.resolver (renames (.str "integer")) 8) strictly.context .oneLine pagesData
      (resolveFile pages (renames (.str "integer")) strictly pagesPath) ∧
    Prints (resolveFile pages (renames (.str "integer")) strictly pagesPath)
      [(Json.array [.str "a", .object [("type", .str "new"), ("config", .object []),
        ("children", .array [])]]).render .oneLine] (.ok ()) := by
  have hlookable : (renames (.str "integer")).Lookable := by
    intro name d hd
    rw [eq_renamer hd]
    exact List.forall_mem_singleton.mpr ⟨nofun, nofun⟩
  have hall := prints_all_or_none pages (renames (.str "integer")) strictly pagesPath readTree_pages
    rfl rfl hlookable (keepsWritable_renames _)
  refine ⟨hall, ?_⟩
  have hfirst : ((strictly.resolver (renames (.str "integer")) 8).resolveTree strictly.context
      (.str "a")).result = .ok (some (.text "a")) := rfl
  have hsecond : ((strictly.resolver (renames (.str "integer")) 8).resolveTree strictly.context
      oldNode).result = .ok (some (.node (.mk "new" [] []))) := rfl
  have hclear : ∀ root ∈ rootsOf pagesData,
      Clears (strictly.resolver (renames (.str "integer")) 8) strictly.context root := by
    refine List.forall_mem_cons.mpr ⟨⟨fun _ => rfl, fun tree htree => ?_⟩,
      List.forall_mem_singleton.mpr ⟨fun _ => rfl, fun tree htree => ?_⟩⟩
    · rw [hfirst] at htree
      cases htree
      nofun
    · rw [hsecond] at htree
      cases htree
      intro es hes
      rw [List.mem_singleton.mp hes, Wire.not_collides_iff]
      exact .nil
  obtain ⟨outs, document, hsends, hdocument, hprints⟩ := hall.all ⟨valid_pages _, hclear⟩
  cases hsends with
  | cons hone hrest =>
    cases hrest with
    | cons htwo hnil =>
      cases hnil
      rw [hone.eq_of_result hfirst rfl, htwo.eq_of_result hsecond rfl] at hdocument
      cases hdocument
      exact hprints

/-- With a list for its type tag the requirement cannot be looked up.  The source is a text,
configurations stay writable, and nothing is wrong with the trees in the file; but the session ends
by a crash. -/
theorem unhashable_tag_crashes :
    readTree pages pagesPath = .ok pagesData ∧ strictly.validateOnly = false ∧
    Resolver.depthOf strictly.maxDepth = .ok 8 ∧
    (∀ name d, (renames (.list [])).get? name = some d →
      ∀ q ∈ d.requirements, ∃ s, q.2.source = .str s) ∧
    (strictly.resolver (renames (.list [])) 8).KeepsWritable false strictly.context ∧
    GoesThrough (strictly.resolver (renames (.list [])) 8) strictly.context (rootsOf pagesData) ∧
    Prints (resolveFile pages (renames (.list [])) strictly pagesPath) []
      (.error (.crash (.fault (.notKey "list")))) ∧
    ¬ AllOrNone (strictly.resolver (renames (.list [])) 8) strictly.context .oneLine pagesData
      (resolveFile pages (renames (.list [])) strictly pagesPath) := by
  have hfirst : ((strictly.resolver (renames (.list [])) 8).resolveTree strictly.context
      (.str "a")).result = .ok (some (.text "a")) := rfl
  have hsecond : ((strictly.resolver (renames (.list [])) 8).resolveTree strictly.context
      oldNode).result = .error (.notKey "list") := rfl
  have htext : Clears (strictly.resolver (renames (.list [])) 8) strictly.context (.str "a") := by
    refine ⟨fun _ => rfl, fun tree htree => ?_⟩
    rw [hfirst] at htree
    cases htree
    nofun
  have hnode : Clears (strictly.resolver (renames (.list [])) 8) strictly.context oldNode := by
    refine ⟨fun _ => rfl, fun tree htree => ?_⟩
    rw [hsecond] at htree
    cases htree
  have hthrough : GoesThrough (strictly.resolver (renames (.list [])) 8) strictly.context
      (rootsOf pagesData) :=
    ⟨valid_pages _, List.forall_mem_cons.mpr ⟨htext, List.forall_mem_singleton.mpr hnode⟩⟩
  have hcrash : Prints (resolveFile pages (renames (.list [])) strictly pagesPath) []
      (.error (.crash (.fault (.notKey "list")))) := by
    obtain ⟨out, -, hout⟩ := exists_sends hfirst htext
    have hall : Prints (resolveAll (strictly.resolver (renames (.list [])) 8) strictly.context
        (rootsOf pagesData)) [] (.error (.crash (.fault (.notKey "list")))) :=
      hout.after (((prints_resolveRoot_of_error hsecond).bind_error _).bind_error _)
    exact prints_resolveFile_of_valid readTree_pages rfl (valid_pages _)
      (prints_printTrees_of_error rfl hall)
  refine ⟨readTree_pages, rfl, rfl, ?_, keepsWritable_renames _, hthrough, hcrash, fun h => ?_⟩
  · intro name d hd
    rw [eq_renamer hd]
    exact List.forall_mem_singleton.mpr ⟨"size", rfl⟩
  · have hwell := (h.ends_well_iff ⟨[], []⟩).mpr hthrough
    rw [(hcrash ⟨[], []⟩).1] at hwell
    cases hwell

end PageTree.CommandLine
