import Mathlib.Tactic.ByContra
import PageTree.Proofs.Text.Blank
import PageTree.Site.Basic

/-!
# Paths with a slash more

A site compares paths in normal form, without white space around them and with a slash at both ends.
A slash that is put at the end of a path therefore makes no difference, unless it hides white space:
`"/about "` shows what `"/about/"` shows, and `"/about /"` does not.  `TakesSlash` says when a slash
may be added, and `normalPath_append_slash_iff` that it says so exactly.
-/

namespace PageTree

open Text

/-- Apart from the white space in front of it, a path does not end in white space. -/
def TakesSlash (path : String) : Prop :=
  ∀ c ∈ (dropLeading isBlank path.toList).getLast?, isBlank c = false

instance (path : String) : Decidable (TakesSlash path) :=
  decidable_of_iff ((dropLeading isBlank path.toList).getLast?.all (!isBlank ·) = true) (by
    rw [Option.all_eq_true]
    simp only [Bool.not_eq_true', TakesSlash, Option.mem_def])

/-- A path without white space in front of it, and without slashes around what is left. -/
def innerPath (path : String) : List Char :=
  trimWhere (· == '/') (trim path).toList

/-- Normal forms are equal if what stands between their slashes is. -/
lemma normalPath_eq_iff (p q : String) :
    normalPath p = normalPath q ↔ innerPath p = innerPath q := by
  have hinj : ∀ a b : List Char, (if a.isEmpty then [] else a ++ ['/']) =
      (if b.isEmpty then [] else b ++ ['/']) ↔ a = b := by
    intro a b
    cases a <;> cases b <;> simp
  rw [normalPath, normalPath, String.ofList_inj, List.cons.injEq]
  exact (and_iff_right rfl).trans (hinj _ _)

section Slash

variable (cs : List Char)

/-- A slash at the end of a text is none of its blanks. -/
lemma trimWhere_isBlank_concat_slash :
    trimWhere isBlank (cs ++ ['/']) = dropLeading isBlank cs ++ ['/'] := by
  have hslash : isBlank '/' = false := by decide
  rw [trimWhere, dropLeading_append_cons hslash, dropTrailing_concat hslash]

/-- White space at the end of a text is not trimmed with its slashes. -/
lemma trimWhere_slash_append_blank {blanks : List Char} (hne : blanks ≠ [])
    (hblanks : ∀ c ∈ blanks, isBlank c = true) :
    trimWhere (· == '/') (cs ++ blanks) = dropLeading (· == '/') cs ++ blanks := by
  have hnot : ∀ c ∈ blanks, (c == '/') = false := by
    intro c hc
    refine beq_false_of_ne ?_
    rintro rfl
    exact absurd (hblanks _ hc) (by decide)
  have hlead : dropLeading (· == '/') (cs ++ blanks) = dropLeading (· == '/') cs ++ blanks := by
    cases blanks with
    | nil => exact absurd rfl hne
    | cons c blanks =>
      exact dropLeading_append_cons (p := (· == '/')) (hnot c List.mem_cons_self) cs blanks
  rw [trimWhere, hlead]
  obtain rfl | ⟨init, c, rfl⟩ := List.eq_nil_or_concat blanks
  · exact absurd rfl hne
  · rw [List.concat_eq_append, ← List.append_assoc]
    exact dropTrailing_concat (p := (· == '/')) (hnot c (by simp)) _

/-- Slashes around a text are trimmed, one more at its end with them. -/
lemma trimWhere_slash_concat_slash :
    trimWhere (· == '/') (cs ++ ['/']) = trimWhere (· == '/') cs := by
  unfold trimWhere dropLeading
  induction cs with
  | nil => rfl
  | cons c cs ih =>
    rw [List.cons_append, List.dropWhile_cons, List.dropWhile_cons]
    split
    · exact ih
    · rw [← List.cons_append]
      exact dropTrailing_concat_of_pos (p := (· == '/')) rfl _

end Slash

/-- What stands in a path with a slash more, between the slashes. -/
lemma innerPath_append_slash (path : String) :
    innerPath (path ++ "/") = trimWhere (· == '/') (dropLeading isBlank path.toList) := by
  have hchars : (path ++ "/").toList = path.toList ++ ['/'] := String.toList_append
  rw [innerPath, trim, String.toList_ofList, hchars, trimWhere_isBlank_concat_slash,
    trimWhere_slash_concat_slash]

/-- Trimming the slashes of a text takes white space at its end away exactly if there is none. -/
lemma trimWhere_slash_eq_iff (kept blanks : List Char) (h : ∀ c ∈ blanks, isBlank c = true) :
    trimWhere (· == '/') (kept ++ blanks) = trimWhere (· == '/') kept ↔ blanks = [] := by
  by_cases hne : blanks = []
  · rw [hne, List.append_nil]
    exact iff_of_true rfl rfl
  · -- trimming makes nothing longer, and the blanks stay
    refine iff_of_false (fun heq => ?_) hne
    rw [trimWhere_slash_append_blank kept hne h, trimWhere] at heq
    obtain ⟨slashes, hslashes, -⟩ :=
      exists_append_dropTrailing (p := (· == '/')) (dropLeading (· == '/') kept)
    have hlength := congrArg List.length hslashes
    rw [← heq] at hlength
    have hpos := List.length_pos_iff.mpr hne
    simp only [List.length_append] at hlength
    omega

/-- A path with a slash more has the same normal form exactly if it takes a slash. -/
theorem normalPath_append_slash_iff (path : String) :
    normalPath (path ++ "/") = normalPath path ↔ TakesSlash path := by
  rw [normalPath_eq_iff, innerPath_append_slash, TakesSlash, ← dropTrailing_eq_self_iff, innerPath,
    trim, String.toList_ofList]
  obtain ⟨blanks, hsplit, hblanks⟩ :=
    exists_append_dropTrailing (p := isBlank) (dropLeading isBlank path.toList)
  have htrim : trimWhere isBlank path.toList =
      dropTrailing isBlank (dropLeading isBlank path.toList) := rfl
  rw [htrim]
  generalize dropTrailing isBlank (dropLeading isBlank path.toList) = kept at hsplit ⊢
  rw [hsplit, trimWhere_slash_eq_iff kept blanks hblanks, List.self_eq_append_right]

namespace Site

/-- What a site shows depends on the normal form of a path only. -/
lemma query_congr {p q : String} (h : normalPath p = normalPath q) (s : Site) (search : Bool) :
    s.query p search = s.query q search := by
  rw [query, query, h]

/-- A site with documents at one path shows them at the paths with its normal form. -/
lemma query_add_empty (p q : String) (d : Document Key Value) (search : Bool) :
    (empty.add p [d]).query q search =
      if normalPath p = normalPath q then ⟨[d], false, search⟩ else QueryResult.missing := by
  have hdocuments : documentsAt (empty.add p [d]).pages (normalPath q) =
      if normalPath p = normalPath q then [d] else [] := by
    unfold documentsAt
    have hpages : (empty.add p [d]).pages = [(normalPath p, [d])] := rfl
    rw [hpages, List.find?_singleton]
    by_cases h : normalPath p = normalPath q <;> simp [h]
  rw [query, hdocuments]
  by_cases h : normalPath p = normalPath q
  · rw [if_pos h, if_pos h]
  · rw [if_neg h, if_neg h]

/-- With a slash more at the end of a path every site shows the same exactly if the path takes a
slash. -/
theorem query_append_slash_iff (path : String) (search : Bool) :
    (∀ s : Site, s.query (path ++ "/") search = s.query path search) ↔ TakesSlash path := by
  rw [← normalPath_append_slash_iff]
  constructor
  · intro h
    -- a site with nothing but this path tells the two apart
    by_contra hne
    have hshow := h (empty.add path [⟨1, "", "", "", "", "", [], none, []⟩])
    rw [query_add_empty, query_add_empty, if_neg (Ne.symm hne), if_pos rfl] at hshow
    cases hshow
  · intro h s
    exact query_congr h s search

end Site

end PageTree
