import Mathlib.Tactic.ByContra
import PageTree.Config.Check
import PageTree.Proofs.Config.Merge

/-!
# Schemas

`Config.schema` describes configurations in the vocabulary of JSON Schema.  `Schema.conforms` says
what such a description means, for the keywords that occur in it: a schema is a truth value, which
admits everything or nothing, or a mapping of keywords.  The keywords for a value itself are checked
one by one; the elements of a list and the members of a mapping have schemas of their own.

A schema that names the members of a mapping and admits no others asks for each member that is there
(`conforms_closed_iff`).  With it the meaning of each part of `Config.schema` is worked out.
-/

namespace PageTree

namespace Schema

open Entries (get? keys find? has Distinct)

/-- Whether a value is of a type.  A truth value is no number. -/
def hasType : String → Value → Bool
  | "object", .map _ => true
  | "array", .list _ => true
  | "string", .str _ => true
  | "integer", .int _ => true
  | _, _ => false

/-- Whether a value meets one keyword of a schema.  Bounds ask nothing of what is no number, and
keywords for elements and members are none for the value itself. -/
def meets (k : Key) (argument v : Value) : Bool :=
  match k, argument, v with
  | .str "type", .str type, v => hasType type v
  | .str "minimum", .int bound, .int i => bound ≤ i
  | .str "maximum", .int bound, .int i => i ≤ bound
  | .str "enum", .list vs, v => vs.any (·.equal v)
  | _, _, _ => true

/-- Whether a schema admits a value, apart from its elements and members. -/
def admits (schema v : Value) : Bool :=
  match schema with
  | .bool b => b
  | .map keywords => keywords.all fun e => meets e.1 e.2 v
  | _ => false

/-- A keyword of a schema. -/
def keyword? (schema : Value) (name : String) : Option Value :=
  match schema with
  | .map keywords => find? keywords name
  | _ => none

/-- The members that a schema names. -/
def properties (schema : Value) : Entries :=
  match keyword? schema "properties" with
  | some (.map properties) => properties
  | _ => []

/-- The schema of a member, if there is one: its own, or else the one of members that are not
named. -/
def memberSchema? (schema : Value) (k : Key) : Option Value :=
  (get? (properties schema) k).or (keyword? schema "additionalProperties")

/-- The schema of an element, if there is one. -/
def itemSchema? (schema : Value) : Option Value :=
  keyword? schema "items"

mutual

/-- Whether a value is what a schema describes. -/
def conforms (schema : Value) : Value → Bool
  | .list vs => admits schema (.list vs) && itemsConform (itemSchema? schema) vs
  | .map es => admits schema (.map es) && membersConform schema es
  | v => admits schema v

/-- Whether all elements of a list are what a schema describes, if there is one. -/
def itemsConform (schema : Option Value) : List Value → Bool
  | [] => true
  | v :: vs =>
    (match schema with
      | none => true
      | some s => conforms s v) && itemsConform schema vs

/-- Whether all members of a mapping are what their schemas describe, if they have one. -/
def membersConform (schema : Value) : List (Key × Value) → Bool
  | [] => true
  | (k, v) :: es =>
    (match memberSchema? schema k with
      | none => true
      | some s => conforms s v) && membersConform schema es

end

/-! ## Lists and mappings -/

/-- Elements, one by one. -/
lemma itemsConform_iff (schema : Option Value) (vs : List Value) :
    itemsConform schema vs = true ↔ ∀ v ∈ vs, ∀ s, schema = some s → conforms s v = true := by
  induction vs with
  | nil => exact iff_of_true (by rw [itemsConform]) nofun
  | cons v vs ih =>
    rw [List.forall_mem_cons, ← ih]
    cases schema <;> simp [itemsConform]

/-- Members, one by one. -/
lemma membersConform_iff (schema : Value) (es : Entries) :
    membersConform schema es = true ↔
      ∀ e ∈ es, ∀ s, memberSchema? schema e.1 = some s → conforms s e.2 = true := by
  induction es with
  | nil => exact iff_of_true (by rw [membersConform]) nofun
  | cons e es ih =>
    rw [List.forall_mem_cons, ← ih]
    cases h : memberSchema? schema e.1 <;> simp [membersConform, h]

/-- The schema of falsity describes nothing. -/
lemma not_conforms_false (v : Value) : ¬ conforms (.bool false) v = true := by
  cases v <;> simp [conforms, admits]

/-- A mapping conforms to a schema that names its members and admits no others if its keys are
named, and if each member that is there conforms to its own schema. -/
lemma conforms_closed_iff {schema : Value} {fields es : Entries} (hfields : Distinct fields)
    (hmembers : ∀ k, memberSchema? schema k = some ((get? fields k).getD (.bool false)))
    (hadmits : admits schema (.map es) = true) (hes : Distinct es) :
    conforms schema (.map es) = true ↔
      (∀ k ∈ keys es, has fields k = true) ∧
        ∀ f ∈ fields, ∀ v, get? es f.1 = some v → conforms f.2 v = true := by
  rw [conforms, hadmits, Bool.true_and, membersConform_iff]
  simp only [hmembers, Option.some.injEq, forall_eq']
  constructor
  · intro h
    refine ⟨fun k hk => ?_, fun f hf v hv => ?_⟩
    · obtain ⟨e, he, rfl⟩ := List.mem_map.mp hk
      rw [has]
      by_contra hnone
      have hconforms := h e he
      rw [Option.not_isSome_iff_eq_none.mp hnone] at hconforms
      exact not_conforms_false _ hconforms
    · obtain ⟨e, he, hsame, rfl⟩ := Entries.exists_of_get? hv
      have hconforms := h e he
      rwa [Entries.get?_congr fields hsame, Entries.get?_of_mem hfields hf] at hconforms
  · rintro ⟨hknown, hvalues⟩ e he
    obtain ⟨s, hs⟩ := Option.isSome_iff_exists.mp (hknown e.1 (List.mem_map_of_mem he))
    obtain ⟨f, hf, hsame, rfl⟩ := Entries.exists_of_get? hs
    rw [hs]
    refine hvalues f hf e.2 ?_
    rw [Entries.get?_congr es hsame, Entries.get?_of_mem hes he]

end Schema

namespace Config

open Schema
open Entries (get? keys find? has Distinct)

/-! ## The parts of the schema of configurations -/

variable {v : Value}

/-- A text is one. -/
lemma isText_iff : isText v = true ↔ ∃ s, v = .str s := by
  cases v with
  | str s => exact iff_of_true rfl ⟨s, rfl⟩
  | _ => exact iff_of_false nofun nofun

/-- A text is asked for. -/
lemma conforms_text : conforms (typed "string" []) v = true ↔ isText v = true := by
  cases v <;> exact Iff.rfl

/-- A list of texts is asked for. -/
lemma conforms_texts :
    conforms (typed "array" [(.str "items", typed "string" [])]) v = true ↔
      isTextList v = true := by
  cases v with
  | list vs =>
    have hitem : itemSchema? (typed "array" [(.str "items", typed "string" [])]) =
        some (typed "string" []) := rfl
    have hadmits : admits (typed "array" [(.str "items", typed "string" [])]) (.list vs) = true :=
      rfl
    rw [conforms, hadmits, hitem, Bool.true_and, itemsConform_iff, isTextList, List.all_eq_true]
    simp only [Option.some.injEq, forall_eq', conforms_text]
  | _ => exact iff_of_false nofun nofun

/-- A whole number between two bounds is asked for. -/
lemma conforms_port :
    conforms (typed "integer" [(.str "minimum", .int 1), (.str "maximum", .int 65535)]) v = true ↔
      ∃ i, v = .int i ∧ 1 ≤ i ∧ i ≤ 65535 := by
  cases v with
  | int i => simp [conforms, admits, meets, hasType, typed]
  | _ => exact iff_of_false nofun nofun

/-- A positive whole number is asked for. -/
lemma conforms_depth :
    conforms (typed "integer" [(.str "minimum", .int 1)]) v = true ↔ ∃ i, v = .int i ∧ 1 ≤ i := by
  cases v with
  | int i => simp [conforms, admits, meets, hasType, typed]
  | _ => exact iff_of_false nofun nofun

/-- The name of a trace level is asked for, in lower case. -/
lemma conforms_level :
    conforms (typed "string" [(.str "enum", .list (TraceLevel.sortedNames.map .str))]) v = true ↔
      ∃ s ∈ TraceLevel.sortedNames, v = .str s := by
  cases v with
  | str s => simp [conforms, admits, meets, hasType, typed, Value.equal, Value.agree]
  | _ => exact iff_of_false nofun nofun

/-- A mapping is asked for. -/
lemma conforms_mapping : conforms (typed "object" []) v = true ↔ ∃ es, v = .map es := by
  cases v with
  | map es =>
    have hfree : ∀ k, memberSchema? (typed "object" []) k = none := fun _ => rfl
    have hadmits : admits (typed "object" []) (.map es) = true := rfl
    rw [conforms, hadmits, Bool.true_and, membersConform_iff]
    simp [hfree]
  | _ => exact iff_of_false nofun nofun

/-- A mapping to texts is asked for. -/
lemma conforms_textMapping :
    conforms (typed "object" [(.str "additionalProperties", typed "string" [])]) v = true ↔
      ∃ es, v = .map es ∧ ∀ e ∈ es, isText e.2 = true := by
  cases v with
  | map es =>
    have htext : ∀ k, memberSchema? (typed "object"
        [(.str "additionalProperties", typed "string" [])]) k = some (typed "string" []) :=
      fun _ => rfl
    have hadmits : admits (typed "object" [(.str "additionalProperties", typed "string" [])])
        (.map es) = true := rfl
    rw [conforms, hadmits, Bool.true_and, membersConform_iff]
    simp [htext, conforms_text]
  | _ => exact iff_of_false nofun nofun

/-- A mapping with named members and no others is asked for. -/
lemma conforms_closed {fields es : Entries} (hfields : Distinct fields) (hes : Distinct es) :
    conforms (closed fields) (.map es) = true ↔
      (∀ k ∈ keys es, has fields k = true) ∧
        ∀ f ∈ fields, ∀ v, get? es f.1 = some v → conforms f.2 v = true := by
  refine conforms_closed_iff hfields (fun k => ?_) rfl hes
  have hmember : memberSchema? (closed fields) k = (get? fields k).or (some (.bool false)) := rfl
  rw [hmember]
  cases get? fields k <;> rfl

/-- The keys that are stored are the known ones. -/
lemma has_eq_isKnown {fields : Entries} {known : List String} (h : keys fields = known.map .str)
    (k : Key) : has fields k = isKnown known k := by
  rw [Bool.eq_iff_iff, Entries.has_iff, h]
  cases k <;> simp [isKnown, Key.same]

/-! ## The schema of configurations -/

/-- The settings of the server with their schemas. -/
def serverFields : Entries :=
  [(.str "host", typed "string" []),
    (.str "port", typed "integer" [(.str "minimum", .int 1), (.str "maximum", .int 65535)])]

/-- The settings of the resolution with their schemas. -/
def resolutionFields : Entries :=
  [(.str "max_depth", typed "integer" [(.str "minimum", .int 1)]),
    (.str "trace_level", typed "string" [(.str "enum", .list (TraceLevel.sortedNames.map .str))])]

/-- The settings of images with their schemas. -/
def imageFields : Entries :=
  [(.str "sizes", typed "object" []),
    (.str "breakpoints", typed "object" [(.str "additionalProperties", typed "string" [])]),
    (.str "missing_image_url", typed "string" [])]

/-- The sections with their schemas. -/
def sectionFields : Entries :=
  [(.str "definition_dirs", typed "array" [(.str "items", typed "string" [])]),
    (.str "server", closed serverFields),
    (.str "resolution", closed resolutionFields),
    (.str "images", closed imageFields)]

/-- A configuration is asked for known sections, each with its own schema. -/
lemma conforms_schema {config : Entries} (hconfig : Distinct config) :
    conforms schema (.map config) = true ↔
      (∀ k ∈ keys config, isKnown sections k = true) ∧
        ∀ f ∈ sectionFields, ∀ v, get? config f.1 = some v → conforms f.2 v = true := by
  have hfields : Distinct sectionFields := by unfold Distinct; decide
  have hknown : keys sectionFields = sections.map .str := rfl
  have hmembers : ∀ k, memberSchema? schema k =
      some ((get? sectionFields k).getD (.bool false)) := by
    intro k
    have hmember : memberSchema? schema k = (get? sectionFields k).or (some (.bool false)) := rfl
    rw [hmember]
    cases get? sectionFields k <;> rfl
  rw [conforms_closed_iff hfields hmembers rfl hconfig]
  simp only [has_eq_isKnown hknown]

/-- A section is asked for known settings, each with its own schema. -/
lemma conforms_section {fields es : Entries} {known : List String}
    (hknown : keys fields = known.map .str) (hfields : Distinct fields) (hes : Distinct es)
    (hkeys : ∀ k ∈ keys es, isKnown known k = true) :
    conforms (closed fields) (.map es) = true ↔
      ∀ f ∈ fields, ∀ v, get? es f.1 = some v → conforms f.2 v = true := by
  rw [conforms_closed hfields hes]
  simp only [has_eq_isKnown hknown, and_iff_right_iff_imp]
  exact fun _ => hkeys

end Config

end PageTree
