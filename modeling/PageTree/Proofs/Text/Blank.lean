import Mathlib.Data.List.Induction
import Mathlib.Tactic.Lemma
import PageTree.Text.Blank

/-!
# Splitting and trimming texts

Splitting undoes joining: a text is cut at the first place where the separator stands
(`cut?_append`, `splitWhere_append`).  Trimming takes characters away at the ends and nowhere else;
a character that is put at the end and is not to be trimmed keeps what stands in front of it
(`dropTrailing_concat`).
-/

namespace PageTree.Text

/-! ## Splitting -/

/-- A text is cut where the separator stands first. -/
lemma cut?_append {sep : Char} {a : List Char} (h : sep ∉ a) (b : List Char) :
    cut? sep (a ++ sep :: b) = some (a, b) := by
  induction a with
  | nil =>
    rw [List.nil_append, cut?]
    exact if_pos rfl
  | cons c a ih =>
    rw [List.mem_cons, not_or] at h
    rw [List.cons_append, cut?, if_neg (Ne.symm h.1), ih h.2, Option.map_some]

/-- A text without the separator is not cut. -/
lemma cut?_eq_none {sep : Char} {cs : List Char} (h : sep ∉ cs) : cut? sep cs = none := by
  induction cs with
  | nil => rfl
  | cons c cs ih =>
    rw [List.mem_cons, not_or] at h
    rw [cut?, if_neg (Ne.symm h.1), ih h.2, Option.map_none]

/-- A text without separators is one piece. -/
lemma splitWhere_of_forall {p : Char → Bool} {cs : List Char} (h : ∀ c ∈ cs, p c = false) :
    splitWhere p cs = [cs] := by
  induction cs with
  | nil => rfl
  | cons c cs ih =>
    rw [List.forall_mem_cons] at h
    rw [splitWhere, h.1, ih h.2]
    rfl

/-- A text that is cut is what is in front of the separator, where it does not occur, and what is
behind. -/
lemma eq_of_cut? {sep : Char} {cs a b : List Char} (h : cut? sep cs = some (a, b)) :
    cs = a ++ sep :: b ∧ sep ∉ a := by
  induction cs generalizing a with
  | nil => cases h
  | cons c cs ih =>
    rw [cut?] at h
    split at h
    · rename_i hc
      cases h
      exact ⟨by rw [hc, List.nil_append], List.not_mem_nil⟩
    · rename_i hc
      obtain ⟨⟨front, rest⟩, hcut, heq⟩ := Option.map_eq_some_iff.mp h
      cases heq
      obtain ⟨rfl, hnot⟩ := ih hcut
      exact ⟨rfl, List.not_mem_cons_of_ne_of_not_mem (Ne.symm hc) hnot⟩

/-- A text that is not cut does not hold the separator. -/
lemma not_mem_of_cut? {sep : Char} {cs : List Char} (h : cut? sep cs = none) : sep ∉ cs := by
  intro hmem
  obtain ⟨a, b, rfl, hnot⟩ := List.eq_append_cons_of_mem hmem
  rw [cut?_append hnot] at h
  cases h

section Split

variable {p : Char → Bool}

/-- There is at least one piece. -/
lemma exists_splitWhere (cs : List Char) : ∃ w ws, splitWhere p cs = w :: ws := by
  cases cs with
  | nil => exact ⟨[], [], rfl⟩
  | cons c cs =>
    rw [splitWhere]
    split
    · exact ⟨_, _, rfl⟩
    · cases splitWhere p cs <;> exact ⟨_, _, rfl⟩

/-- A text with a separator in it falls into the pieces in front of it and those behind. -/
lemma splitWhere_append {sep : Char} (hsep : p sep = true) (a b : List Char) :
    splitWhere p (a ++ sep :: b) = splitWhere p a ++ splitWhere p b := by
  induction a with
  | nil =>
    have hfirst : splitWhere p (sep :: b) = [] :: splitWhere p b := if_pos hsep
    rw [List.nil_append, hfirst]
    rfl
  | cons c a ih =>
    rw [List.cons_append, splitWhere, splitWhere, ih]
    split
    · rfl
    · obtain ⟨w, ws, hws⟩ := exists_splitWhere (p := p) a
      rw [hws]
      rfl

/-- There are no separators in the pieces. -/
lemma forall_of_mem_splitWhere {cs w : List Char} (h : w ∈ splitWhere p cs) :
    ∀ c ∈ w, p c = false := by
  induction cs generalizing w with
  | nil =>
    rw [List.mem_singleton.mp h]
    nofun
  | cons c cs ih =>
    rw [splitWhere] at h
    split at h
    · rcases List.mem_cons.mp h with rfl | h
      · nofun
      · exact ih h
    · rename_i hc
      obtain ⟨v, vs, hvs⟩ := exists_splitWhere (p := p) cs
      rw [hvs, consWord, List.mem_cons] at h
      rw [hvs] at ih
      rcases h with rfl | h
      · exact List.forall_mem_cons.mpr
          ⟨Bool.eq_false_iff.mpr hc, ih List.mem_cons_self⟩
      · exact ih (List.mem_cons_of_mem _ h)

/-- A character of a text is a separator or stands in a piece. -/
lemma exists_mem_splitWhere {cs : List Char} {c : Char} (h : c ∈ cs) :
    p c = true ∨ ∃ w ∈ splitWhere p cs, c ∈ w := by
  induction cs with
  | nil => cases h
  | cons d cs ih =>
    rw [splitWhere]
    split
    · rename_i hd
      rcases List.mem_cons.mp h with rfl | h
      · exact .inl hd
      · exact (ih h).imp_right fun ⟨w, hw, hc⟩ => ⟨w, List.mem_cons_of_mem _ hw, hc⟩
    · obtain ⟨v, vs, hvs⟩ := exists_splitWhere (p := p) cs
      rw [hvs] at ih ⊢
      rw [consWord]
      rcases List.mem_cons.mp h with rfl | h
      · exact .inr ⟨_, List.mem_cons_self, List.mem_cons_self⟩
      · refine (ih h).imp_right ?_
        rintro ⟨w, hw, hc⟩
        rcases List.mem_cons.mp hw with rfl | hw
        · exact ⟨_, List.mem_cons_self, List.mem_cons_of_mem _ hc⟩
        · exact ⟨w, List.mem_cons_of_mem _ hw, hc⟩

/-- A text without separators that is put in front goes to the first piece. -/
lemma splitWhere_prepend {a b w : List Char} {ws : List (List Char)}
    (ha : ∀ c ∈ a, p c = false) (hb : splitWhere p b = w :: ws) :
    splitWhere p (a ++ b) = (a ++ w) :: ws := by
  induction a with
  | nil => exact hb
  | cons c a ih =>
    rw [List.forall_mem_cons] at ha
    rw [List.cons_append, splitWhere, ha.1, ih ha.2]
    rfl

end Split

/-! ## Trimming -/

section Trim

variable {p : Char → Bool}

/-- A last character that is not to be trimmed stays. -/
lemma dropTrailing_concat {c : Char} (h : p c = false) (cs : List Char) :
    dropTrailing p (cs ++ [c]) = cs ++ [c] := by
  have hkeep : ¬ p c = true := by simp [h]
  rw [dropTrailing, List.reverse_concat, List.dropWhile_cons_of_neg hkeep, List.reverse_cons,
    List.reverse_reverse]

/-- A last character that is to be trimmed goes. -/
lemma dropTrailing_concat_of_pos {c : Char} (h : p c = true) (cs : List Char) :
    dropTrailing p (cs ++ [c]) = dropTrailing p cs := by
  rw [dropTrailing, List.reverse_concat, List.dropWhile_cons_of_pos h, dropTrailing]

/-- Trimming the end takes nothing away in front. -/
lemma exists_append_dropTrailing (cs : List Char) :
    ∃ tail, cs = dropTrailing p cs ++ tail ∧ ∀ c ∈ tail, p c = true := by
  refine ⟨(cs.reverse.takeWhile p).reverse, ?_, ?_⟩
  · rw [dropTrailing, ← List.reverse_append, List.takeWhile_append_dropWhile, List.reverse_reverse]
  · intro c hc
    exact List.all_eq_true.mp List.all_takeWhile c (List.mem_reverse.mp hc)

/-- Trimming the start ends in front of a character that is not to be trimmed. -/
lemma dropLeading_append_cons {c : Char} (h : p c = false) (a b : List Char) :
    dropLeading p (a ++ c :: b) = dropLeading p a ++ c :: b := by
  unfold dropLeading
  induction a with
  | nil => exact List.dropWhile_cons_of_neg (Bool.eq_false_iff.mp h)
  | cons d a ih =>
    by_cases hd : p d = true
    · rw [List.cons_append, List.dropWhile_cons_of_pos hd, ih, List.dropWhile_cons_of_pos hd]
    · rw [List.cons_append, List.dropWhile_cons_of_neg hd, List.dropWhile_cons_of_neg hd,
        List.cons_append]

/-- A text that does not end in what is trimmed stays as it is, and no other does. -/
lemma dropTrailing_eq_self_iff (cs : List Char) :
    dropTrailing p cs = cs ↔ ∀ c ∈ cs.getLast?, p c = false := by
  induction cs using List.reverseRecOn with
  | nil => exact iff_of_true rfl nofun
  | append_singleton cs c ih =>
    rw [List.getLast?_concat]
    cases hc : p c with
    | false => exact iff_of_true (dropTrailing_concat hc cs) (by simp [hc])
    | true =>
      refine iff_of_false (fun h => ?_) (by simp [hc])
      obtain ⟨tail, htail, -⟩ := exists_append_dropTrailing (p := p) cs
      rw [dropTrailing_concat_of_pos hc] at h
      have hlength := congrArg List.length htail
      rw [h] at hlength
      simp only [List.length_append, List.length_singleton] at hlength
      omega

/-- A text without characters to be trimmed stays as it is. -/
lemma trimWhere_of_forall {cs : List Char} (h : ∀ c ∈ cs, p c = false) : trimWhere p cs = cs := by
  have hlead : ∀ ds : List Char, (∀ c ∈ ds, p c = false) → ds.dropWhile p = ds := by
    intro ds hds
    cases ds with
    | nil => rfl
    | cons c ds =>
      have hc := hds c List.mem_cons_self
      exact List.dropWhile_cons_of_neg (Bool.eq_false_iff.mp hc)
  have hreverse : ∀ c ∈ cs.reverse, p c = false := fun c hc => h c (List.mem_reverse.mp hc)
  rw [trimWhere, dropLeading, hlead cs h, dropTrailing, hlead _ hreverse, List.reverse_reverse]

end Trim

end PageTree.Text
