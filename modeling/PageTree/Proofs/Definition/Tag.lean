import Mathlib.Tactic.Lemma
import PageTree.Definition.Tag

/-!
# The values of a type tag

A type tag stands for a domain of values (`TypeTag.Holds`).  Whatever is fitted to a tag lies in its
domain (`holds_of_coerce`), and what lies there fits as it is (`coerce_of_holds`), so that fitting a
value twice changes nothing more.  The zero value of a tag lies in its domain as well.

Names of tags come in through `TypeTag.ofName?`: all names of one tag fit values alike
(`coerceTo_name`).
-/

namespace PageTree

namespace TypeTag

/-- The values that a tag stands for: truth values are no numbers, and `any` stands for all
values. -/
inductive Holds : TypeTag → Value → Prop where
  | integer (i : Int) : Holds .integer (.int i)
  | whole (i : Int) : Holds .number (.int i)
  | number (x : Float) : Holds .number (.float x)
  | string (s : String) : Holds .string (.str s)
  | boolean (b : Bool) : Holds .boolean (.bool b)
  | array (vs : List Value) : Holds .array (.list vs)
  | object (es : Entries) : Holds .object (.map es)
  | any (v : Value) : Holds .any v

/-- A value of the domain of a tag fits as it is. -/
lemma coerce_of_holds {t : TypeTag} {v : Value} (h : t.Holds v) : t.coerce v = .ok v := by
  cases h <;> rfl

/-- The zero value of a tag is in its domain. -/
lemma holds_zero (t : TypeTag) : t.Holds t.zero := by
  cases t with
  | integer => exact .integer 0
  | number => exact .whole 0
  | string => exact .string ""
  | boolean => exact .boolean false
  | array => exact .array []
  | object => exact .object []
  | any => exact .any .null

/-- What is fitted to the integers is a whole number. -/
lemma holds_of_coerceInteger {v w : Value} (h : coerceInteger v = .ok w) : Holds .integer w := by
  cases v with
  | int i =>
    cases h
    exact .integer i
  | float x =>
    unfold coerceInteger at h
    dsimp only at h
    split at h
    · cases h
      exact .integer _
    · cases h
  | str s =>
    unfold coerceInteger at h
    dsimp only at h
    split at h
    · cases h
      exact .integer _
    · cases h
  | _ => cases h

/-- What is fitted to the numbers is a whole number or a float. -/
lemma holds_of_coerceNumber {v w : Value} (h : coerceNumber v = .ok w) : Holds .number w := by
  cases v with
  | int i =>
    cases h
    exact .whole i
  | float x =>
    cases h
    exact .number x
  | str s =>
    unfold coerceNumber at h
    dsimp only at h
    split at h
    · cases h
      exact .number _
    · cases h
  | _ => cases h

/-- What is fitted to the truth values is one. -/
lemma holds_of_coerceBoolean {v w : Value} (h : coerceBoolean v = .ok w) : Holds .boolean w := by
  cases v with
  | bool b =>
    cases h
    exact .boolean b
  | int i =>
    unfold coerceBoolean at h
    dsimp only at h
    split at h
    · cases h
      exact .boolean false
    · split at h
      · cases h
        exact .boolean true
      · cases h
  | str s =>
    unfold coerceBoolean at h
    dsimp only at h
    split at h
    · cases h
      exact .boolean _
    · cases h
  | _ => cases h

/-- What is fitted to a tag is in its domain. -/
lemma holds_of_coerce {t : TypeTag} {v w : Value} (h : t.coerce v = .ok w) : t.Holds w := by
  unfold coerce at h
  cases t with
  | integer => exact holds_of_coerceInteger h
  | number => exact holds_of_coerceNumber h
  | boolean => exact holds_of_coerceBoolean h
  | any => exact .any w
  | string =>
    cases v with
    | str | int | float =>
      cases h
      exact .string _
    | _ => cases h
  | array =>
    cases v with
    | list | tuple =>
      cases h
      exact .array _
    | _ => cases h
  | object =>
    cases v with
    | map =>
      cases h
      exact .object _
    | _ => cases h

/-- Fitting a value that has been fitted changes nothing more. -/
theorem coerce_idempotent {t : TypeTag} {v w : Value} (h : t.coerce v = .ok w) :
    t.coerce w = .ok w :=
  coerce_of_holds (holds_of_coerce h)

/-! ## Names of tags -/

/-- A name of a tag fits values as the tag does. -/
lemma coerceTo_name {name : String} {t : TypeTag} (h : ofName? name = some t) (v : Value) :
    coerceTo (.str name) v = .ok (t.coerce v) := by
  have hname : ofValue? (.str name) = .ok (some t) := congrArg Except.ok h
  rw [coerceTo, hname]
  rfl

/-- A name of a tag stands for the zero value of the tag. -/
lemma zeroOf_name {name : String} {t : TypeTag} (h : ofName? name = some t) :
    zeroOf (.str name) = .ok t.zero := by
  have hname : ofValue? (.str name) = .ok (some t) := congrArg Except.ok h
  rw [zeroOf, hname]
  rfl

/-- Only the name of a tag fits values. -/
lemma exists_tag_of_coerceTo {name : String} {v w : Value}
    (h : coerceTo (.str name) v = .ok (.ok w)) :
    ∃ t, ofName? name = some t ∧ t.coerce v = .ok w := by
  cases hname : ofName? name with
  | none =>
    have hunknown : coerceTo (.str name) v = .ok (.error (.unknownTag (.str name))) := by
      rw [coerceTo, ofValue?, hname]
      rfl
    rw [hunknown] at h
    cases h
  | some t =>
    rw [coerceTo_name hname] at h
    exact ⟨t, rfl, Except.ok.inj h⟩

end TypeTag

end PageTree
