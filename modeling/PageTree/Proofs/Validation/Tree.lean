import PageTree.Proofs.Node.Storage
import PageTree.Proofs.Registry.Table
import PageTree.Proofs.Resolution.Lookup
import PageTree.Validation.Tree

/-!
# What a valid tree is

Validation and reading walk through the same data one without the other: `checkNode` lists findings,
`Node.ofValue` makes a node.  `WellFormed` says which data are a tree: a text, or a mapping with a
text for its type, whose configuration and children may be missing, and whose children are trees or
nothing.

`valid_iff_wellFormed` says that these are the data in which validation finds no error.  They are
all read, and `Reads` says as what: every mapping as a node of its type with the children that are
`shown`, that is, neither missing nor empty texts.  What is still found are warnings, and they are
those about the nodes of the listing `nodes` whose types are not known.
-/

namespace PageTree.Tree

/-! ## The data of a tree -/

/-- The type that the entries of a node give. -/
def GivesType (entries : Entries) (type : String) : Prop :=
  Entries.find? entries "type" = some (.str type) ∨
    Entries.find? entries "type" = none ∧ Entries.find? entries "name" = some (.str type)

/-- The configuration that a value stands for, if it can. -/
def configured : Value → Option Entries
  | .null => some []
  | .map entries => some entries
  | _ => none

/-- The children that a value stands for, if it can. -/
def listed : Value → Option (List Value)
  | .null => some []
  | .list vs => some vs
  | _ => none

/-- The data of a tree. -/
inductive WellFormed : Value → Prop where
  | text (s : String) : WellFormed (.str s)
  | node (entries : Entries) (type : String) (config : Entries) (vs : List Value)
      (htype : GivesType entries type)
      (hconfig : configured (Entries.lookup entries "config") = some config)
      (hlisted : listed (Entries.lookup entries "children") = some vs)
      (hchildren : ∀ v ∈ vs, v ≠ .null → WellFormed v) : WellFormed (.map entries)

/-- A list of trees and of nothing, or nothing in its place. -/
def WellListed (v : Value) : Prop :=
  ∃ vs, listed v = some vs ∧ ∀ w ∈ vs, w ≠ .null → WellFormed w

/-- Whether an element of a list of children stands for a child. -/
def shown : Value → Bool
  | .null => false
  | .str s => s != ""
  | _ => true

/-- The tree that data is read as. -/
inductive Reads : Value → Child → Prop where
  | text (s : String) : Reads (.str s) (.text s)
  | node (entries : Entries) (type : String) (config : Entries) (vs : List Value)
      (cs : List Child) (htype : GivesType entries type)
      (hconfig : configured (Entries.lookup entries "config") = some config)
      (hlisted : listed (Entries.lookup entries "children") = some vs)
      (hchildren : List.Forall₂ Reads (vs.filter shown) cs) :
      Reads (.map entries) (.node (.mk type config cs))

/-! ## Validation -/

/-- There is no error among findings. -/
def Clean (fs : List Finding) : Prop :=
  ∀ f ∈ fs, f.isError = false

lemma clean_nil : Clean [] := nofun

@[simp] lemma clean_append (fs gs : List Finding) : Clean (fs ++ gs) ↔ Clean fs ∧ Clean gs :=
  List.forall_mem_append

/-- A single finding is clean if it is no error. -/
@[simp] lemma clean_singleton (f : Finding) : Clean [f] ↔ f.isError = false :=
  List.forall_mem_singleton

/-- Data is valid if there is no error among the findings. -/
lemma valid_iff (known : Option (List String)) (d : Value) :
    (validate known d).valid = true ↔ Clean (checkNode known "root" d) := by
  rw [validate, Findings.ofList, Bool.not_eq_true', List.any_eq_false]
  exact forall₂_congr fun f _ => Bool.eq_false_iff.symm

/-- The type of a node is clean if a text is given for it. -/
lemma clean_checkType_iff (known : Option (List String)) (path : String) (entries : Entries) :
    Clean (checkType known path entries) ↔ ∃ type, GivesType entries type := by
  have htype : (∃ type, GivesType entries type) ↔ ∃ type, typeOf entries = .str type := by
    unfold GivesType typeOf Entries.lookup
    cases Entries.find? entries "type" with
    | some t => simp
    | none => cases Entries.find? entries "name" <;> simp
  rw [htype, checkType]
  cases typeOf entries with
  | str s =>
    refine iff_of_true ?_ ⟨s, rfl⟩
    cases known with
    | none => exact clean_nil
    | some known =>
      dsimp only
      split
      · exact clean_nil
      · exact (clean_singleton _).mpr rfl
  | _ => exact iff_of_false (by simp [Finding.error, Finding.isError]) nofun

/-- The configuration of a node is clean if it is a mapping or nothing. -/
lemma clean_checkConfig_iff (path : String) (entries : Entries) :
    Clean (checkConfig path entries) ↔
      ∃ config, configured (Entries.lookup entries "config") = some config := by
  rw [checkConfig]
  cases Entries.lookup entries "config" with
  | null => exact iff_of_true clean_nil ⟨[], rfl⟩
  | map es => exact iff_of_true clean_nil ⟨es, rfl⟩
  | _ => exact iff_of_false (by simp [Finding.error, Finding.isError]) nofun

/-- Children that are missing are passed over. -/
lemma checkItems_null (known : Option (List String)) (path : String) (i : Nat) (vs : List Value) :
    checkItems known path i (.null :: vs) = checkItems known path (i + 1) vs := by
  rw [checkItems]

/-- Children that are there are checked one after the other. -/
lemma checkItems_cons (known : Option (List String)) (path : String) (i : Nat) {v : Value}
    (hv : v ≠ .null) (vs : List Value) :
    checkItems known path i (v :: vs) =
      checkNode known (path ++ "[" ++ toString i ++ "]") v ++
        checkItems known path (i + 1) vs := by
  rw [checkItems]
  exact hv

/-- A mapping is a tree if its parts are in order. -/
lemma wellFormed_map_iff (entries : Entries) :
    WellFormed (.map entries) ↔ (∃ type, GivesType entries type) ∧
      (∃ config, configured (Entries.lookup entries "config") = some config) ∧
      WellListed (Entries.lookup entries "children") := by
  constructor
  · intro h
    cases h with
    | node _ type config vs htype hconfig hlisted hchildren =>
      exact ⟨⟨type, htype⟩, ⟨config, hconfig⟩, vs, hlisted, hchildren⟩
  · rintro ⟨⟨type, htype⟩, ⟨config, hconfig⟩, vs, hlisted, hchildren⟩
    exact .node entries type config vs htype hconfig hlisted hchildren

mutual

/-- No error is found in data exactly if it is a tree. -/
theorem clean_checkNode_iff (known : Option (List String)) (path : String) :
    (v : Value) → (Clean (checkNode known path v) ↔ WellFormed v)
  | .str s => by
    rw [checkNode]
    exact iff_of_true clean_nil (.text s)
  | .map entries => by
    rw [checkNode, clean_append, clean_append, clean_checkType_iff, clean_checkConfig_iff,
      clean_checkChildren_iff known path entries, wellFormed_map_iff, and_assoc]
  | .null | .bool _ | .int _ | .float _ | .bytes _ | .moment _ | .list _ | .tuple _ | .node _
  | .query _ | .callable _ => by
    refine iff_of_false ?_ nofun
    simp [checkNode, Finding.error, Finding.isError]

/-- No error is found about children exactly if their first entry is a list of trees. -/
theorem clean_checkChildren_iff (known : Option (List String)) (path : String) :
    (entries : List (Key × Value)) → (Clean (checkChildren known path entries) ↔
      WellListed (Entries.lookup entries "children"))
  | [] => by
    rw [checkChildren]
    exact iff_of_true clean_nil ⟨[], rfl, nofun⟩
  | (k, v) :: rest => by
    rw [checkChildren, Entries.lookup, Entries.find?, Entries.get?]
    split
    · exact clean_checkList_iff known (path ++ ".children") v
    · exact clean_checkChildren_iff known path rest

/-- No error is found in a value exactly if it is a list of trees. -/
theorem clean_checkList_iff (known : Option (List String)) (path : String) :
    (v : Value) → (Clean (checkList known path v) ↔ WellListed v)
  | .null => by
    rw [checkList]
    exact iff_of_true clean_nil ⟨[], rfl, nofun⟩
  | .list vs => by
    rw [checkList, clean_checkItems_iff known path 0 vs]
    simp [WellListed, listed]
  | .str _ | .map _ | .bool _ | .int _ | .float _ | .bytes _ | .moment _ | .tuple _ | .node _
  | .query _ | .callable _ => by
    simp [checkList, Finding.error, Finding.isError, WellListed, listed]

/-- No error is found in the elements of a list exactly if those that are there are trees. -/
theorem clean_checkItems_iff (known : Option (List String)) (path : String) (i : Nat) :
    (vs : List Value) → (Clean (checkItems known path i vs) ↔
      ∀ v ∈ vs, v ≠ .null → WellFormed v)
  | [] => by
    rw [checkItems]
    exact iff_of_true clean_nil nofun
  | v :: vs => by
    have hrest := clean_checkItems_iff known path (i + 1) vs
    have hfirst := clean_checkNode_iff known (path ++ "[" ++ toString i ++ "]") v
    rw [List.forall_mem_cons, ← hrest, ← hfirst]
    by_cases hv : v = .null
    · rw [hv, checkItems_null]
      simp
    · rw [checkItems_cons known path i hv, clean_append]
      simp [hv]

end

/-- Validation accepts exactly the data of trees, whatever types are known. -/
theorem valid_iff_wellFormed (known : Option (List String)) (d : Value) :
    (validate known d).valid = true ↔ WellFormed d :=
  (valid_iff known d).trans (clean_checkNode_iff known "root" d)

/-! ## Reading -/

/-- The type of a tree is the one that is read. -/
lemma GivesType.typeEntry_eq {entries : Entries} {type : String} (h : GivesType entries type) :
    Node.typeEntry entries = .str type := by
  unfold Node.typeEntry
  rcases h with h | ⟨hnone, h⟩
  · rw [h]
  · rw [hnone, h]
    rfl

/-- The type of a tree is the one that is checked. -/
lemma GivesType.typeOf_eq {entries : Entries} {type : String} (h : GivesType entries type) :
    typeOf entries = .str type := by
  unfold typeOf Entries.lookup
  rcases h with h | ⟨hnone, h⟩
  · rw [h]
  · rw [hnone, h]
    rfl

/-- The configuration of a tree is read. -/
lemma checkConfig_of_configured {v : Value} {config : Entries} (h : configured v = some config)
    (type : String) : Node.checkConfig type (v.orElse (.map [])) = .ok config := by
  cases v with
  | null =>
    cases h
    rfl
  | map es =>
    cases h
    rw [Declaration.orElse_map, Node.checkConfig]
  | _ => cases h

/-- What nothing and lists have in common holds of what lists children. -/
lemma eq_of_listed {α : Type} {g : Value → α} {f : List Value → α} (hnull : g .null = f [])
    (hlist : ∀ vs, g (.list vs) = f vs) {v : Value} {vs : List Value} (h : listed v = some vs) :
    g v = f vs := by
  cases v with
  | null =>
    cases h
    exact hnull
  | list =>
    cases h
    exact hlist vs
  | _ => cases h

/-- Children that are listed are read as their list. -/
lemma childrenOf_of_listed {v : Value} {vs : List Value} (h : listed v = some vs) :
    Node.childrenOf v = Node.childrenOfList vs :=
  eq_of_listed rfl (fun _ => by rw [Node.childrenOf]) h

/-- Children that are listed are a collection. -/
lemma checkChildren_of_listed {v : Value} {vs : List Value} (h : listed v = some vs)
    (type : Value) : Node.checkChildren type v = .ok () := by
  cases v with
  | null | list => rfl
  | _ => cases h

/-- A mapping is read as a node if its parts are. -/
lemma ofValue_map {entries : Entries} {type : String} {config : Entries} {vs : List Value}
    {cs : List Child} (htype : GivesType entries type)
    (hconfig : configured (Entries.lookup entries "config") = some config)
    (hlisted : listed (Entries.lookup entries "children") = some vs)
    (hcs : Node.childrenOfList vs = .ok cs) :
    Node.ofValue (.map entries) = .ok (.mk type config cs) := by
  have hheader : Node.header entries = .ok (type, config) := by
    rw [Node.header, htype.typeEntry_eq, checkChildren_of_listed hlisted]
    simp only [bind, Except.bind, Node.checkType, checkConfig_of_configured hconfig]
    rfl
  rw [Node.ofValue, hheader]
  dsimp only
  rw [Node.childrenEntry_eq, childrenOf_of_listed hlisted, hcs]

/-- A tree in a list stands for a child in front of the others, unless it is an empty text. -/
lemma childrenOfList_cons {v : Value} {c : Child} {vs : List Value} {cs : List Child}
    (hc : Resolver.rootOf v = .ok c) (hv : WellFormed v) (hcs : Node.childrenOfList vs = .ok cs) :
    Node.childrenOfList (v :: vs) = .ok (if shown v then c :: cs else cs) := by
  cases hv with
  | text s =>
    cases hc
    rw [Node.childrenOfList, hcs]
    by_cases hs : s = "" <;> simp [shown, hs]
  | node entries =>
    obtain ⟨n, hn, rfl⟩ := (map_eq_ok_iff _ _ _).mp hc
    rw [Node.childrenOfList, hn, hcs]
    rfl

/-- A list of data that are read is read as the children that are shown. -/
lemma exists_childrenOfList {vs : List Value} (hvs : ∀ v ∈ vs, v ≠ .null → WellFormed v)
    (h : ∀ v ∈ vs, v ≠ .null → ∃ c, Resolver.rootOf v = .ok c ∧ Reads v c) :
    ∃ cs, Node.childrenOfList vs = .ok cs ∧ List.Forall₂ Reads (vs.filter shown) cs := by
  induction vs with
  | nil => exact ⟨[], rfl, .nil⟩
  | cons v vs ih =>
    rw [List.forall_mem_cons] at hvs h
    obtain ⟨cs, hcs, hreads⟩ := ih hvs.2 h.2
    by_cases hv : v = .null
    · subst hv
      exact ⟨cs, by rw [Node.childrenOfList, hcs], hreads⟩
    · obtain ⟨c, hc, hread⟩ := h.1 hv
      refine ⟨_, childrenOfList_cons hc (hvs.1 hv) hcs, ?_⟩
      by_cases hs : shown v = true
      · rw [List.filter_cons_of_pos hs, if_pos hs]
        exact .cons hread hreads
      · rw [List.filter_cons_of_neg hs, if_neg hs]
        exact hreads

/-- A tree is read. -/
lemma WellFormed.exists_reads {d : Value} (h : WellFormed d) :
    ∃ c, Resolver.rootOf d = .ok c ∧ Reads d c := by
  induction h with
  | text s => exact ⟨.text s, rfl, .text s⟩
  | node entries type config vs htype hconfig hlisted hchildren ih =>
    obtain ⟨cs, hcs, hreads⟩ := exists_childrenOfList hchildren ih
    refine ⟨.node (.mk type config cs), ?_, .node entries type config vs cs htype hconfig hlisted
      hreads⟩
    exact (map_eq_ok_iff _ _ _).mpr ⟨_, ofValue_map htype hconfig hlisted hcs, rfl⟩

/-! ## The nodes of a tree -/

/-- The type of a node, or the empty text where none is given. -/
def typeName (entries : Entries) : String :=
  match typeOf entries with
  | .str s => s
  | _ => ""

mutual

/-- The places and types of the nodes of a tree, each in front of those below it. -/
def nodes (path : String) : Value → List (String × String)
  | .map entries => (path, typeName entries) :: childNodes path entries
  | _ => []

/-- The nodes below the first entry for children. -/
def childNodes (path : String) : List (Key × Value) → List (String × String)
  | [] => []
  | (k, v) :: rest =>
    if k.same (.str "children") then listedNodes (path ++ ".children") v else childNodes path rest

/-- The nodes below a value that has to be a list of children. -/
def listedNodes (path : String) : Value → List (String × String)
  | .list vs => itemNodes path 0 vs
  | _ => []

/-- The nodes below children, counted from `i` on. -/
def itemNodes (path : String) (i : Nat) : List Value → List (String × String)
  | [] => []
  | v :: vs => nodes (path ++ "[" ++ toString i ++ "]") v ++ itemNodes path (i + 1) vs

end

/-- The nodes below a node are those below the children that are listed. -/
lemma childNodes_of_listed {entries : Entries} {vs : List Value}
    (h : listed (Entries.lookup entries "children") = some vs) (path : String) :
    childNodes path entries = itemNodes (path ++ ".children") 0 vs := by
  have hwalk :=
    Entries.eq_lookup (f := childNodes path) rfl (fun _ _ _ => by rw [childNodes]) entries
  rw [hwalk]
  exact eq_of_listed rfl (fun _ => by rw [listedNodes]) h

/-- The children of a node that are checked are those that are listed. -/
lemma checkItems_of_listed {entries : Entries} {vs : List Value}
    (h : listed (Entries.lookup entries "children") = some vs) (known : Option (List String))
    (path : String) :
    checkChildren known path entries = checkItems known (path ++ ".children") 0 vs := by
  have hwalk := Entries.eq_lookup (f := checkChildren known path) rfl
    (fun _ _ _ => by rw [checkChildren]) entries
  rw [hwalk]
  exact eq_of_listed rfl (fun _ => by rw [checkList]) h

/-- The name of the type of a tree is the type that is given. -/
lemma GivesType.typeName_eq {entries : Entries} {type : String} (h : GivesType entries type) :
    typeName entries = type := by
  rw [typeName, h.typeOf_eq]

/-- The types of the nodes below a list are those below the children that it stands for. -/
lemma map_itemNodes {vs : List Value} (hvs : ∀ v ∈ vs, v ≠ .null → WellFormed v)
    (h : ∀ v ∈ vs, v ≠ .null → ∀ c, Resolver.rootOf v = .ok c → ∀ path,
      (nodes path v).map (·.2) = Child.types [c]) {cs : List Child}
    (hcs : Node.childrenOfList vs = .ok cs) (path : String) (i : Nat) :
    (itemNodes path i vs).map (·.2) = Child.types cs := by
  induction vs generalizing cs i with
  | nil =>
    cases hcs
    rfl
  | cons v vs ih =>
    rw [List.forall_mem_cons] at hvs h
    obtain ⟨ds, hds, -⟩ := exists_childrenOfList hvs.2 fun w hw hnull =>
      (hvs.2 w hw hnull).exists_reads
    have hrest := ih hvs.2 h.2 hds (i + 1)
    rw [itemNodes, List.map_append, hrest]
    by_cases hv : v = .null
    · rw [hv, Node.childrenOfList, hds] at hcs
      cases hcs
      rw [hv]
      rfl
    · obtain ⟨c, hc, -⟩ := (hvs.1 hv).exists_reads
      rw [childrenOfList_cons hc (hvs.1 hv) hds] at hcs
      cases hcs
      rw [h.1 hv c hc]
      split
      · exact (Child.types_cons c ds).symm
      · -- what is not shown has no nodes
        rename_i hs
        cases hvs.1 hv with
        | text s =>
          cases hc
          rfl
        | node entries => exact absurd rfl hs

/-- The types of the nodes of a tree are those of the tree that is read. -/
lemma WellFormed.map_nodes {d : Value} (h : WellFormed d) :
    ∀ c, Resolver.rootOf d = .ok c → ∀ path, (nodes path d).map (·.2) = Child.types [c] := by
  induction h with
  | text s =>
    intro c hc path
    cases hc
    rfl
  | node entries type config vs htype hconfig hlisted hchildren ih =>
    intro c hc path
    obtain ⟨cs, hcs, -⟩ := exists_childrenOfList hchildren fun v hv hnull =>
      (hchildren v hv hnull).exists_reads
    obtain ⟨n, hn, rfl⟩ := (map_eq_ok_iff _ _ _).mp hc
    rw [ofValue_map htype hconfig hlisted hcs] at hn
    cases hn
    rw [nodes, childNodes_of_listed hlisted, List.map_cons, map_itemNodes hchildren ih hcs,
      Child.types_node, Node.types_eq, htype.typeName_eq]
    rfl

/-! ## Warnings -/

/-- Whether a node is worth a warning: its type is neither empty nor known. -/
def isUnknown (known : List String) (node : String × String) : Bool :=
  node.2 != "" && !known.contains node.2

/-- The warnings about nodes. -/
def warningsOf (known : List String) (ns : List (String × String)) : List Finding :=
  (ns.filter (isUnknown known)).map fun node => unknownType known node.1 node.2

lemma warningsOf_append (known : List String) (ms ns : List (String × String)) :
    warningsOf known (ms ++ ns) = warningsOf known ms ++ warningsOf known ns := by
  rw [warningsOf, List.filter_append, List.map_append]
  rfl

/-- What is found about the type of a tree is the warning about it. -/
lemma GivesType.checkType_eq {entries : Entries} {type : String} (h : GivesType entries type)
    (known : List String) (path : String) :
    checkType (some known) path entries = warningsOf known [(path, type)] := by
  rw [checkType, h.typeOf_eq]
  by_cases hempty : type = "" <;> by_cases hknown : type ∈ known <;>
    simp [warningsOf, isUnknown, hempty, hknown]

/-- What is found about trees in a list are the warnings about their nodes. -/
lemma checkItems_eq_warningsOf {known : List String} {vs : List Value}
    (h : ∀ v ∈ vs, v ≠ .null → ∀ path,
      checkNode (some known) path v = warningsOf known (nodes path v)) (path : String) (i : Nat) :
    checkItems (some known) path i vs = warningsOf known (itemNodes path i vs) := by
  induction vs generalizing i with
  | nil => rfl
  | cons v vs ih =>
    rw [List.forall_mem_cons] at h
    rw [itemNodes, warningsOf_append, ← ih h.2]
    by_cases hv : v = .null
    · rw [hv, checkItems_null]
      rfl
    · rw [checkItems_cons (some known) path i hv, h.1 hv]

/-- What is found about a tree are the warnings about its nodes. -/
lemma WellFormed.checkNode_eq {d : Value} (h : WellFormed d) (known : List String) :
    ∀ path, checkNode (some known) path d = warningsOf known (nodes path d) := by
  induction h with
  | text s =>
    intro path
    rfl
  | node entries type config vs htype hconfig hlisted hchildren ih =>
    intro path
    have hclean : checkConfig path entries = [] := by
      rw [checkConfig]
      cases hv : Entries.lookup entries "config" with
      | null | map => rfl
      | _ =>
        rw [hv] at hconfig
        cases hconfig
    rw [checkNode, nodes, hclean, htype.checkType_eq, checkItems_of_listed hlisted,
      checkItems_eq_warningsOf ih, htype.typeName_eq, childNodes_of_listed hlisted, List.append_nil,
      ← warningsOf_append, List.singleton_append]

/-- The types that a registry lists are those that it defines. -/
lemma contains_types (g : Registry) (type : String) : g.types.contains type = g.has type := by
  rw [Bool.eq_iff_iff, List.contains_iff_mem, Registry.mem_types_iff]

/-! ## Resolution -/

/-- The resolution of a tree fails only for what cannot be looked up. -/
lemma WellFormed.resolveTree_faultsIn {d : Value} (h : WellFormed d) (r : Resolver)
    (context : Context) : (r.resolveTree context d).FaultsIn Fault.IsLookup := by
  obtain ⟨c, hc, -⟩ := h.exists_reads
  have hroot : (Run.lift (Resolver.rootOf d)).FaultsIn Fault.IsLookup :=
    Run.faultsIn_of_ok hc
  refine hroot.bind fun root => ?_
  cases root with
  | text s => exact Run.faultsIn_of_ok rfl
  | node n =>
    exact (Resolver.visit_faultsIn (r.turn_faultsIn_lookup context) r.maxDepth).1 n

/-! ## The gate -/

/-- Validation is a sound gate in front of reading and resolution.  It accepts exactly the data of
trees, whatever types are known.  Data that it accepts is a text or is read as a node, with the same
types at the same places once missing children and empty texts are left out, and resolving it never
fails for the shape of the data.  What is still found about it are warnings, one for each node, in
pre-order, whose type is neither empty nor defined. -/
theorem validation_is_gate (d : Value) :
    (∀ known, (validate known d).valid = true ↔ WellFormed d) ∧
    (WellFormed d →
      ((∃ s, d = .str s) ∨
        ∃ n, Node.ofValue d = .ok n ∧ Reads d (.node n) ∧
          (nodes "root" d).map (·.2) = n.types) ∧
      (∀ (r : Resolver) context e, (r.resolveTree context d).result = .error e →
        e.kind ≠ "ValueError") ∧
      ∀ g : Registry,
        (validate (some g.types) d).warnings = (validate (some g.types) d).items ∧
        (validate (some g.types) d).items =
          ((nodes "root" d).filter fun node => node.2 != "" && !g.has node.2).map
            fun node => unknownType g.types node.1 node.2) := by
  refine ⟨fun known => valid_iff_wellFormed known d, fun h => ⟨?_, ?_, fun g => ?_⟩⟩
  · obtain ⟨c, hc, hread⟩ := h.exists_reads
    have htypes := h.map_nodes c hc "root"
    cases hread with
    | text s => exact .inl ⟨s, rfl⟩
    | node entries type config vs cs htype hconfig hlisted hchildren =>
      obtain ⟨n, hn, hnode⟩ := (map_eq_ok_iff _ _ _).mp hc
      cases hnode
      refine .inr ⟨_, hn, .node entries type config vs cs htype hconfig hlisted hchildren, ?_⟩
      rw [htypes, Child.types_node]
  · intro r context e he
    obtain ⟨kind, rfl⟩ := h.resolveTree_faultsIn r context e he
    simp [Fault.kind]
  · have hitems : (validate (some g.types) d).items = warningsOf g.types (nodes "root" d) :=
      h.checkNode_eq g.types "root"
    have hunknown : isUnknown g.types = fun node => node.2 != "" && !g.has node.2 := by
      funext node
      rw [isUnknown, contains_types]
    refine ⟨?_, ?_⟩
    · rw [Findings.warnings, hitems, List.filter_eq_self]
      intro f hf
      obtain ⟨node, -, rfl⟩ := List.mem_map.mp hf
      rfl
    · rw [hitems, warningsOf, hunknown]

/-- A page with a missing child, an empty text, a text and a node with another name for its type. -/
def samplePage : Value :=
  .map [(.str "type", .str "page"), (.str "config", .null),
    (.str "children", .list [.null, .str "", .str "a", .map [(.str "name", .str "x/y")]])]

/-- The sample page is a tree, and with nothing defined there is a warning about each of its two
nodes. -/
theorem validation_is_gate_samplePage :
    WellFormed samplePage ∧
    (∃ n, Node.ofValue samplePage = .ok n ∧ Reads samplePage (.node n) ∧
      (nodes "root" samplePage).map (·.2) = n.types) ∧
    (∀ (r : Resolver) context e, (r.resolveTree context samplePage).result = .error e →
      e.kind ≠ "ValueError") ∧
    (validate (some Registry.empty.types) samplePage).items =
      [unknownType [] "root" "page", unknownType [] "root.children[3]" "x/y"] := by
  have h : WellFormed samplePage :=
    ((validation_is_gate samplePage).1 none).mp rfl
  obtain ⟨hread, hresolve, hwarnings⟩ := (validation_is_gate samplePage).2 h
  refine ⟨h, hread.resolve_left nofun, hresolve, ?_⟩
  have htypes : Registry.empty.types = [] := List.mergeSort_nil
  rw [(hwarnings Registry.empty).2, htypes]
  rfl

end PageTree.Tree
