import Mathlib.Data.List.Forall2
import PageTree.Proofs.Definition.Tag
import PageTree.Proofs.Resolution.Selection

/-!
# The data of a transform

Before a transform runs, the data that its definition declares are selected from the context.
`Requirement.Delivers` says which value a requirement is given: its default where nothing is stored,
else the stored value as it fits the type, else the zero value of the type.  A stored value that
does not fit is a misfit (`Requirement.misfit?`) and leads to a record.

`selectOne_spec` says this of one requirement and `select_spec`, by induction over the declaration,
of all of them: the names come in the order of the declaration, and so do the records.
`data_match_declaration` puts this into an application of a definition.
-/

namespace PageTree

namespace Requirement

variable (context : Context) (q : Requirement)

/-- The tag that the type of a requirement names; `any` for a type that names none. -/
def tag : TypeTag :=
  match TypeTag.ofValue? q.type with
  | .ok (some t) => t
  | _ => .any

/-- What the context holds for a requirement, or nothing in its place. -/
def stored : Value :=
  (q.source.toKey?.bind context.get?).getD .null

/-- Nothing is stored for the requirement, and it has a default. -/
def Defaulted : Prop :=
  q.stored context = .null ∧ q.default ≠ .null

/-- The value that a requirement is given. -/
inductive Delivers : Value → Prop where
  | default (h : q.Defaulted context) : Delivers q.default
  | missing (hstored : q.stored context = .null) (hdefault : q.default = .null) :
      Delivers q.tag.zero
  | fitted (v : Value) (hstored : q.stored context ≠ .null)
      (hfit : q.tag.coerce (q.stored context) = .ok v) : Delivers v
  | misfit (e : CoercionFault) (hstored : q.stored context ≠ .null)
      (hfit : q.tag.coerce (q.stored context) = .error e) : Delivers q.tag.zero

/-- The values that the type of a requirement allows: for `any` what is stored, or nothing. -/
def Allows (v : Value) : Prop :=
  match q.tag with
  | .any => v = q.stored context ∨ v = .null
  | t => t.Holds v

/-- Why what is stored does not fit the requirement, if something is stored that does not. -/
def misfit? : Option CoercionFault :=
  match q.stored context with
  | .null => none
  | v =>
    match q.tag.coerce v with
    | .ok _ => none
    | .error e => some e

variable {context q}

/-- The tag of a requirement of known type is the one that the type names. -/
lemma Known.ofValue?_eq (h : q.Known) : TypeTag.ofValue? q.type = .ok (some q.tag) := by
  obtain ⟨t, ht⟩ := h
  rw [tag, ht]

/-- A value in the domain of the type is allowed, if the type is not `any`. -/
lemma allows_of_holds {v : Value} (h : q.tag.Holds v) (hany : q.tag ≠ .any) :
    q.Allows context v := by
  unfold Allows
  split
  · contradiction
  · exact h

/-- The zero value of the type is allowed. -/
lemma allows_zero : q.Allows context q.tag.zero := by
  by_cases hany : q.tag = .any
  · unfold Allows
    rw [hany]
    exact .inr rfl
  · exact allows_of_holds q.tag.holds_zero hany

/-- What is stored is allowed as it fits the type. -/
lemma allows_of_coerce {v : Value} (h : q.tag.coerce (q.stored context) = .ok v) :
    q.Allows context v := by
  by_cases hany : q.tag = .any
  · rw [hany] at h
    cases h
    unfold Allows
    rw [hany]
    exact .inl rfl
  · exact allows_of_holds (TypeTag.holds_of_coerce h) hany

/-- A value that a requirement is given is its default or one that its type allows. -/
lemma Delivers.allows {v : Value} (h : q.Delivers context v) :
    q.Defaulted context ∧ v = q.default ∨ ¬ q.Defaulted context ∧ q.Allows context v := by
  cases h with
  | default h => exact .inl ⟨h, rfl⟩
  | missing hstored hdefault => exact .inr ⟨fun h => h.2 hdefault, allows_zero⟩
  | fitted v hstored hfit => exact .inr ⟨fun h => hstored h.1, allows_of_coerce hfit⟩
  | misfit e hstored hfit => exact .inr ⟨fun h => hstored h.1, allows_zero⟩

/-- Where nothing is stored there is no misfit. -/
lemma misfit?_of_missing (h : q.stored context = .null) : q.misfit? context = none := by
  rw [misfit?, h]

/-- What is stored is a misfit exactly if it does not fit. -/
lemma misfit?_of_stored (h : q.stored context ≠ .null) :
    q.misfit? context =
      match q.tag.coerce (q.stored context) with
      | .ok _ => none
      | .error e => some e := by
  unfold misfit?
  split
  · contradiction
  · rfl

end Requirement

namespace Resolver

variable (context : Context)

/-- The record of a stored value that does not fit its requirement. -/
def misfitRecord (n : Node) (depth : Nat) (name : Key) (q : Requirement) (e : CoercionFault) :
    Record :=
  report .coercion ("'" ++ name.text ++ "' from '" ++ q.source.text ++ "': " ++ e.message)
    n depth [] .zeroValue

/-- The record that selecting one piece of data leaves, if it leaves one. -/
def misfitRecord? (n : Node) (depth : Nat) (name : Key) (q : Requirement) : Option Record :=
  (q.misfit? context).map (misfitRecord n depth name q)

/-- One piece of data that is declared with a known type and can be looked up is given its value,
with a record exactly for a misfit. -/
lemma selectOne_spec {q : Requirement} (hknown : q.Known) (hsource : q.Sourced) (n : Node)
    (depth : Nat) (name : Key) :
    ∃ v, (selectOne context n depth name q).result = .ok v ∧ q.Delivers context v ∧
      (selectOne context n depth name q).report.records =
        (misfitRecord? context n depth name q).toList := by
  obtain ⟨key, hkey⟩ := Option.ne_none_iff_exists'.mp hsource
  have hlookup : (Run.lift q.source.toKey).result = .ok key := (Value.toKey_eq_ok_iff _ _).mpr hkey
  have hstored : q.stored context = (context.get? key).getD .null := by
    rw [Requirement.stored, hkey, Option.bind_some]
  have hzero : Run.lift (TypeTag.zeroOf q.type) = Run.pure q.tag.zero := by
    rw [TypeTag.zeroOf, hknown.ofValue?_eq]
    rfl
  have hcoerce : ∀ v, Run.lift (TypeTag.coerceTo q.type v) = Run.pure (q.tag.coerce v) := by
    intro v
    rw [TypeTag.coerceTo, hknown.ofValue?_eq]
    rfl
  have hreport : (Run.lift q.source.toKey).report = Report.empty := rfl
  unfold selectOne
  rw [Run.bind_eq, Run.bind_of_ok hlookup, hreport, Report.empty_append, ← hstored, misfitRecord?]
  dsimp only
  split
  · -- nothing is stored
    rename_i hnull
    rw [Requirement.misfit?_of_missing hnull]
    split
    · rename_i hdefault
      have hmissing : q.default = .null := by
        cases hq : q.default with
        | null => rfl
        | _ =>
          rw [hq] at hdefault
          cases hdefault
      rw [hzero]
      exact ⟨_, rfl, .missing hnull hmissing, rfl⟩
    · rename_i hdefault
      refine ⟨_, rfl, .default ⟨hnull, ?_⟩, rfl⟩
      intro hmissing
      rw [hmissing] at hdefault
      exact hdefault rfl
  · -- what is stored is fitted to the type
    rename_i v hnull
    rw [Requirement.misfit?_of_stored hnull, hcoerce, Run.bind_eq, Run.pure_bind]
    cases hfit : q.tag.coerce (q.stored context) with
    | ok w => exact ⟨w, rfl, .fitted w hnull hfit, rfl⟩
    | error e =>
      dsimp only
      rw [Run.bind_eq, Run.tell_bind, hzero]
      exact ⟨_, rfl, .misfit e hnull hfit, rfl⟩

/-- All declared data are given their values under their names, in the order of the declaration, and
so are the records of the misfits. -/
lemma select_spec {requirements : List (Key × Requirement)}
    (h : ∀ q ∈ requirements, q.2.Known ∧ q.2.Sourced) (n : Node) (depth : Nat) :
    ∃ data, (select context n depth requirements).result = .ok data ∧
      data.map (·.1) = requirements.map (·.1) ∧
      List.Forall₂ (fun q e => Requirement.Delivers context q.2 e.2) requirements data ∧
      (select context n depth requirements).report.records =
        requirements.filterMap fun q => misfitRecord? context n depth q.1 q.2 := by
  induction requirements with
  | nil => exact ⟨[], rfl, rfl, .nil, rfl⟩
  | cons q rest ih =>
    obtain ⟨name, q⟩ := q
    rw [List.forall_mem_cons] at h
    obtain ⟨v, hv, hdelivers, hrecord⟩ := selectOne_spec context h.1.1 h.1.2 n depth name
    obtain ⟨data, hdata, hnames, hall, hrecords⟩ := ih h.2
    rw [select, Run.bind_eq, Run.bind_of_ok hv, Run.bind_eq, Run.bind_of_ok hdata]
    refine ⟨(name, v) :: data, rfl, ?_, .cons hdelivers hall, ?_⟩
    · rw [List.map_cons, List.map_cons, hnames]
    · rw [Run.pure, Report.append_empty, Report.records_append, hrecord, hrecords]
      rw [List.filterMap_cons]
      cases misfitRecord? context n depth name q <;> rfl

/-- An application selects the data and runs the action on them; what is said about the data is
reported first. -/
lemma applyDefinition_eq {d : Definition} {a : Action} (haction : d.action = some a) {n : Node}
    {depth : Nat} {data : Entries}
    (hdata : (select context (n.withDefaults d.defaults) depth d.requirements).result = .ok data) :
    applyDefinition context d n depth =
      (judge (n.withDefaults d.defaults) depth data
        (act context a (n.withDefaults d.defaults) data)).after
        ((Report.counting { Counters.zero with applied := 1 }).append
          (select context (n.withDefaults d.defaults) depth d.requirements).report) := by
  rw [applyDefinition, haction, Run.bind_eq, Run.tell_bind]
  dsimp only
  rw [Run.bind_eq, Run.bind_of_ok hdata, Run.after, Report.append_assoc]

/-- The data that an action is run on match their declaration.  They have the declared names in
order.  Each value is the default of its requirement where nothing is stored and there is a default,
and otherwise one that the declared type allows: what is stored as it fits the type, or the zero
value of the type.  There is one record, in order, for each requirement whose stored value does not
fit.  Fitting a value again to its tag under any name leaves it as it is, and so does fitting the
zero value of a tag. -/
theorem data_match_declaration {d : Definition} {a : Action} (haction : d.action = some a)
    (hdata : ∀ q ∈ d.requirements, q.2.Known ∧ q.2.Sourced) (n : Node) (depth : Nat) :
    (∃ data bag,
      applyDefinition context d n depth =
        (judge (n.withDefaults d.defaults) depth data
          (act context a (n.withDefaults d.defaults) data)).after
          ((Report.counting { Counters.zero with applied := 1 }).append bag) ∧
      data.map (·.1) = d.requirements.map (·.1) ∧
      List.Forall₂ (fun q e => Requirement.Delivers context q.2 e.2 ∧
        (q.2.Defaulted context ∧ e.2 = q.2.default ∨
          ¬ q.2.Defaulted context ∧ q.2.Allows context e.2)) d.requirements data ∧
      bag.records = d.requirements.filterMap fun q =>
        misfitRecord? context (n.withDefaults d.defaults) depth q.1 q.2) ∧
    (∀ name other v w, TypeTag.coerceTo (.str name) v = .ok (.ok w) →
      TypeTag.ofName? other = TypeTag.ofName? name →
        TypeTag.coerceTo (.str other) w = .ok (.ok w)) ∧
    ∀ name, TypeTag.ofName? name ≠ none →
      ∃ v, TypeTag.zeroOf (.str name) = .ok v ∧ TypeTag.coerceTo (.str name) v = .ok (.ok v) := by
  refine ⟨?_, ?_, ?_⟩
  · obtain ⟨data, hselected, hnames, hall, hrecords⟩ :=
      select_spec context hdata (n.withDefaults d.defaults) depth
    refine ⟨data, _, applyDefinition_eq context haction hselected, hnames, ?_, hrecords⟩
    exact hall.imp fun q e hdelivers => ⟨hdelivers, hdelivers.allows⟩
  · intro name other v w hfit hother
    obtain ⟨t, ht, hcoerce⟩ := TypeTag.exists_tag_of_coerceTo hfit
    rw [TypeTag.coerceTo_name (hother.trans ht), TypeTag.coerce_idempotent hcoerce]
  · intro name hname
    obtain ⟨t, ht⟩ := Option.ne_none_iff_exists'.mp hname
    refine ⟨t.zero, TypeTag.zeroOf_name ht, ?_⟩
    rw [TypeTag.coerceTo_name ht, TypeTag.coerce_of_holds t.holds_zero]

/-- A definition whose transform asks for a count, a width, a title and a list. -/
def asking : Definition :=
  { Definition.blank "x" with
    requirements :=
      [(.str "count", ⟨.str "int", .str "n", .null, .str ""⟩),
        (.str "width", ⟨.str "number", .str "width", .int 8, .str ""⟩),
        (.str "title", ⟨.str "string", .str "title", .str "none", .str ""⟩),
        (.str "items", ⟨.str "list", .str "items", .null, .str ""⟩)]
    action := some (.run ⟨"keep", "", "", fun n _ _ => .ok (.node n)⟩) }

/-- A context with a numeral for the count, a truth value for the width and no title. -/
def answering : Context :=
  ⟨[(.str "n", .str "7"), (.str "width", .bool true), (.str "items", .tuple [.int 1])]⟩

/-- The data come under their names in order, and of the stored values only the truth value does not
fit: there is one record, which is about the width. -/
theorem data_match_declaration_asking :
    (∀ q ∈ asking.requirements, q.2.Known ∧ q.2.Sourced) ∧
    ∃ data bag,
      applyDefinition answering asking default 0 =
        (judge (default : Node) 0 data (.ok (.node default))).after
          ((Report.counting { Counters.zero with applied := 1 }).append bag) ∧
      data.map (·.1) = [.str "count", .str "width", .str "title", .str "items"] ∧
      bag.records =
        [misfitRecord default 0 (.str "width")
          ⟨.str "number", .str "width", .int 8, .str ""⟩ .truthNumber] := by
  have h : ∀ q ∈ asking.requirements, q.2.Known ∧ q.2.Sourced := by
    simp only [asking, List.forall_mem_cons]
    exact ⟨⟨⟨.integer, rfl⟩, nofun⟩, ⟨⟨.number, rfl⟩, nofun⟩, ⟨⟨.string, rfl⟩, nofun⟩,
      ⟨⟨.array, rfl⟩, nofun⟩, nofun⟩
  obtain ⟨⟨data, bag, hrun, hnames, -, hrecords⟩, -, -⟩ :=
    data_match_declaration answering (d := asking) rfl h default 0
  exact ⟨h, data, bag, hrun, hnames, hrecords⟩

end Resolver

end PageTree
