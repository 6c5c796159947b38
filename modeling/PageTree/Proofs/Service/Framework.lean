import PageTree.Proofs.Service.Body
import PageTree.Standard

/-!
# Laws of a framework

What the service relies on when a framework hands over the requests about types and gives out their
descriptions (`LawfulWebFramework`).  The rest of a path is the name of a type, unless it has a line
feed; texts are taken as they are; and plain data has a document.  Nothing is said of other values,
which a framework may take or refuse.

The framework that the definitions on routes make is such (`Standard.lawfulWebFramework`).
-/

namespace PageTree

/-! ## Plain data -/

mutual

/-- Whether a value is plain data: made of texts, truth values and finite floats, and with texts for
names. -/
def Value.isPlain : Value → Bool
  | .null | .bool _ | .str _ => true
  | .float x => (Json.float x).isFinite
  | .list vs => Value.allPlain vs
  | .map es => Value.entriesPlain es
  | _ => false

/-- Whether values are plain data. -/
def Value.allPlain : List Value → Bool
  | [] => true
  | v :: vs => v.isPlain && Value.allPlain vs

/-- Whether entries have texts for names and plain data for values. -/
def Value.entriesPlain : List (Key × Value) → Bool
  | [] => true
  | (.str _, v) :: rest => v.isPlain && Value.entriesPlain rest
  | _ => false

end

namespace Service

/-- The path under which the types are listed. -/
def typesPath : String := "/component-types"

/-- The path under which a type is described. -/
def typePath (name : String) : String :=
  String.ofList typePrefix ++ name

end Service

/-! ## Laws -/

namespace WebFramework

variable [WebFramework]

/-- A field of texts takes a value. -/
def Takes (v : Value) : Prop :=
  ∃ s, text? v = some s

/-- A field of data is written for a value. -/
def Writes (v : Value) : Prop :=
  ∃ j, document v = .ok j

end WebFramework

open Service in
/-- Laws of a framework that hands over requests about types and gives out their descriptions. -/
class LawfulWebFramework [WebFramework] : Prop where
  /-- The list of types has a path of its own. -/
  types : ∀ query, WebFramework.dispatch ⟨typesPath, query⟩ = .handled .typeList
  /-- The rest of a path is the name of a type if it has no line feed. -/
  named : ∀ {name : String} (query : String), '\n' ∉ name.toList →
    WebFramework.dispatch ⟨typePath name, query⟩ = .handled (.typeInfo name)
  /-- A path with a line feed is about another type, or the framework answers it without success. -/
  strayed : ∀ {name : String} (query : String), '\n' ∈ name.toList →
    (∃ other, other ≠ name ∧
      WebFramework.dispatch ⟨typePath name, query⟩ = .handled (.typeInfo other)) ∨
    ∃ a, a.status ≠ 200 ∧ WebFramework.dispatch ⟨typePath name, query⟩ = .answered a
  /-- A text is taken as it is. -/
  text : ∀ s, WebFramework.text? (.str s) = some s
  /-- Plain data is written. -/
  plain : ∀ {v : Value}, v.isPlain = true → WebFramework.Writes v

/-! ## The framework that the definitions make -/

namespace Service

/-- A line feed at the end of a path is one at the end of the name in it. -/
lemma withoutLineEnd_typePrefix (name : List Char) :
    withoutLineEnd (typePrefix ++ name) = typePrefix ++ withoutLineEnd name := by
  unfold withoutLineEnd
  cases name with
  | nil => decide +kernel
  | cons c name =>
    have hne : c :: name ≠ [] := List.cons_ne_nil c name
    rw [List.getLast?_append_of_ne_nil _ hne, List.dropLast_append_of_ne_nil hne]
    split <;> rfl

/-- A name without a line feed is the one that is asked for. -/
lemma withoutLineEnd_of_not_mem {name : List Char} (h : '\n' ∉ name) : withoutLineEnd name = name :=
  if_neg fun hlast => h (List.mem_of_getLast? hlast)

/-- A path in which the name of a type stands is none of those that are whole. -/
lemma ofList_typePrefix_ne {path : String} (h : ¬ typePrefix <+: path.toList) (rest : List Char) :
    String.ofList (typePrefix ++ rest) ≠ path := by
  rintro rfl
  rw [String.toList_ofList] at h
  exact h (List.prefix_append _ _)

/-- The path of a type without the line feed at its end. -/
lemma withoutLineEnd_typePath (name : String) :
    withoutLineEnd (typePath name).toList = typePrefix ++ withoutLineEnd name.toList := by
  rw [typePath, String.toList_append, String.toList_ofList, withoutLineEnd_typePrefix]

/-- The path of a type has no route if a line feed stands in front of the end of the name. -/
lemma route?_typePath (name : String) :
    route? (typePath name) = if '\n' ∈ withoutLineEnd name.toList then none
      else some (.typeInfo (String.ofList (withoutLineEnd name.toList))) := by
  unfold route?
  dsimp only
  rw [withoutLineEnd_typePath]
  generalize withoutLineEnd name.toList = rest
  have hprefix : typePrefix.isPrefixOf (typePrefix ++ rest) = true :=
    List.isPrefixOf_iff_prefix.mpr (List.prefix_append _ _)
  split
  · rename_i h
    exact absurd h (ofList_typePrefix_ne (by decide +kernel) rest)
  · rename_i h
    exact absurd h (ofList_typePrefix_ne (by decide +kernel) rest)
  · rename_i h
    exact absurd h (ofList_typePrefix_ne (by decide +kernel) rest)
  · rename_i h
    exact absurd h (ofList_typePrefix_ne (by decide +kernel) rest)
  · rw [if_pos hprefix, List.drop_left]
    by_cases hfeed : '\n' ∈ rest
    · simp [hfeed]
    · simp [hfeed]

/-- No page of the framework itself stands under the path of a type. -/
lemma isOwn_typePath (name : String) : isOwn (typePath name) = false := by
  have hother : ∀ path ∈ ownPaths, ¬ typePrefix <+: path.toList := by decide +kernel
  rw [isOwn, withoutLineEnd_typePath, ← Bool.not_eq_true, List.contains_iff_mem]
  exact fun h => ofList_typePrefix_ne (hother _ h) _ rfl

/-- A request that has a route is handled on it. -/
lemma dispatch_of_route? {req : Request} {route : Route} (h : route? req.path = some route) :
    dispatch req = .handled route := by
  unfold dispatch
  rw [h]

/-- A request that has no route is answered without success unless there is a page of the framework
for it. -/
lemma dispatch_of_route?_eq_none {req : Request} (hroute : route? req.path = none)
    (hown : isOwn req.path = false) : ∃ a, a.status ≠ 200 ∧ dispatch req = .answered a := by
  unfold dispatch
  rw [hroute]
  dsimp only
  rw [hown, if_neg Bool.false_ne_true]
  split
  · exact ⟨_, (by decide : 307 ≠ 200), rfl⟩
  · exact ⟨_, (by decide : 404 ≠ 200), rfl⟩

mutual

/-- There are no moments in plain data. -/
theorem withMomentTexts_of_isPlain : (v : Value) → v.isPlain = true → withMomentTexts v = v
  | .list vs, h => congrArg Value.list (allWithMomentTexts_of_allPlain vs h)
  | .map es, h => congrArg Value.map (entriesWithMomentTexts_of_entriesPlain es h)
  | .null, _ | .bool _, _ | .float _, _ | .str _, _ => rfl

/-- There are no moments in values that are plain data. -/
theorem allWithMomentTexts_of_allPlain : (vs : List Value) → Value.allPlain vs = true →
    allWithMomentTexts vs = vs
  | [], _ => rfl
  | v :: vs, h => by
    rw [Value.allPlain, Bool.and_eq_true] at h
    rw [allWithMomentTexts, withMomentTexts_of_isPlain v h.1,
      allWithMomentTexts_of_allPlain vs h.2]

/-- There are no moments in entries that are plain data. -/
theorem entriesWithMomentTexts_of_entriesPlain : (es : Entries) → Value.entriesPlain es = true →
    entriesWithMomentTexts es = es
  | [], _ => rfl
  | (.str _, v) :: es, h => by
    rw [Value.entriesPlain, Bool.and_eq_true] at h
    rw [entriesWithMomentTexts, withMomentTexts_of_isPlain v h.1,
      entriesWithMomentTexts_of_entriesPlain es h.2]
    nofun

end

end Service

namespace Textual

mutual

/-- Plain data has a document. -/
theorem hasDocument_of_isPlain : (v : Value) → v.isPlain = true → HasDocument v
  | .null, _ => ⟨.null, rfl, rfl⟩
  | .bool b, _ => ⟨.bool b, rfl, rfl⟩
  | .str s, _ => ⟨.str s, rfl, rfl⟩
  | .float x, h => ⟨.float x, rfl, h⟩
  | .list vs, h => by
    obtain ⟨js, hjs, hfinite⟩ := exists_items (forall_mem_of_allPlain vs h)
    exact ⟨.array js, (map_eq_ok_iff _ _ _).mpr ⟨js, hjs, rfl⟩, hfinite⟩
  | .map es, h => by
    obtain ⟨hnames, hdocuments⟩ := forall_mem_of_entriesPlain es h
    obtain ⟨members, hmembers, hfinite⟩ := exists_members hnames hdocuments
    exact ⟨.object members, (map_eq_ok_iff _ _ _).mpr ⟨members, hmembers, rfl⟩, hfinite⟩

/-- Values that are plain data have documents. -/
theorem forall_mem_of_allPlain : (vs : List Value) → Value.allPlain vs = true →
    ∀ v ∈ vs, HasDocument v
  | [], _ => List.forall_mem_nil _
  | v :: vs, h => by
    rw [Value.allPlain, Bool.and_eq_true] at h
    exact List.forall_mem_cons.mpr
      ⟨hasDocument_of_isPlain v h.1, forall_mem_of_allPlain vs h.2⟩

/-- Entries that are plain data have texts for names, and their values have documents. -/
theorem forall_mem_of_entriesPlain : (es : Entries) → Value.entriesPlain es = true →
    (∀ e ∈ es, ∃ name, e.1 = Key.str name) ∧ ∀ e ∈ es, HasDocument e.2
  | [], _ => ⟨List.forall_mem_nil _, List.forall_mem_nil _⟩
  | (.str name, v) :: es, h => by
    rw [Value.entriesPlain, Bool.and_eq_true] at h
    obtain ⟨hnames, hdocuments⟩ := forall_mem_of_entriesPlain es h.2
    exact ⟨List.forall_mem_cons.mpr ⟨⟨name, rfl⟩, hnames⟩,
      List.forall_mem_cons.mpr ⟨hasDocument_of_isPlain v h.1, hdocuments⟩⟩

end

end Textual

namespace Service

/-- A value is a body of an answer if its document has finite floats only. -/
lemma bodyOf_eq_ok_iff (v : Value) (j : Json) :
    bodyOf v = .ok j ↔ v.toJson? = .ok j ∧ j.isFinite = true := by
  unfold bodyOf
  constructor
  · intro h
    obtain ⟨i, hi, hrest⟩ := (bind_eq_ok_iff _ _ _).mp h
    split at hrest
    · rename_i hfinite
      cases hrest
      exact ⟨(mapError_eq_ok_iff _ _ _).mp hi, hfinite⟩
    · cases hrest
  · rintro ⟨hj, hfinite⟩
    refine (bind_eq_ok_iff _ _ _).mpr ⟨j, (mapError_eq_ok_iff _ _ _).mpr hj, ?_⟩
    rw [if_pos hfinite]
    rfl

/-- Plain data is written in a field of data. -/
lemma exists_fieldDocument {v : Value} (h : v.isPlain = true) : ∃ j, fieldDocument v = .ok j := by
  obtain ⟨j, hj⟩ := Textual.hasDocument_of_isPlain v h
  refine ⟨j, ?_⟩
  rw [fieldDocument, withMomentTexts_of_isPlain v h]
  exact (bodyOf_eq_ok_iff v j).mpr hj

end Service

open scoped Standard

open Service in
/-- The framework that the definitions on routes make is lawful. -/
scoped instance Standard.lawfulWebFramework : LawfulWebFramework where
  types query := by
    have hroute : route? typesPath = some .typeList := by decide +kernel
    exact dispatch_of_route? hroute
  named {name} query hfeed := by
    have hroute := route?_typePath name
    rw [withoutLineEnd_of_not_mem hfeed, if_neg hfeed, String.ofList_toList] at hroute
    exact dispatch_of_route? hroute
  strayed {name} query hfeed := by
    have hroute := route?_typePath name
    by_cases hwithin : '\n' ∈ withoutLineEnd name.toList
    · rw [if_pos hwithin] at hroute
      exact .inr (dispatch_of_route?_eq_none hroute (isOwn_typePath name))
    · rw [if_neg hwithin] at hroute
      refine .inl ⟨String.ofList (withoutLineEnd name.toList), ?_, dispatch_of_route? hroute⟩
      intro hsame
      rw [← hsame, String.toList_ofList] at hfeed
      exact hwithin hfeed
  text _ := rfl
  plain := exists_fieldDocument

end PageTree
