import PageTree.Proofs.Image.Chain

/-!
# Values of image operations

The value of an operation is made of its arguments and of a density that comes behind them
(`valueAt`).  If all arguments are given, the density multiplies those that are dimensions; if the
last one is missing, the density is taken for that one (`valueAt_eq_ok_iff`).

So the value at density two is twice that at density one if the arguments are dimensions, and the
same if they are not, exactly if the density is taken for no argument that matters
(`Proportional`, `doubled_iff`, `same_iff`).
-/

namespace PageTree

namespace ImageOperation

/-! ## Values of operations -/

/-- Whether the arguments of an operation are dimensions, which the density multiplies. -/
def scales : ImageOperation → Bool
  | crop => false
  | quality => false
  | _ => true

/-- Numbers as the value of a parameter. -/
def numerals (ns : List Nat) : String :=
  commas (ns.map toString)

/-- The value of an operation at a density that is passed behind its arguments. -/
def valueAt (op : ImageOperation) (args : List Value) (density : Value) : Except Fault String := do
  let (bound, density') ← op.bindArguments (args ++ [density])
  op.argument bound density'

/-- Texts joined by commas end in the last one. -/
lemma exists_commas_concat (parts : List String) :
    ∃ front, ∀ part, commas (parts ++ [part]) = front ++ part := by
  induction parts with
  | nil => exact ⟨"", fun part => by simp [commas]⟩
  | cons p parts ih =>
    obtain ⟨front, hfront⟩ := ih
    refine ⟨p ++ "," ++ front, fun part => ?_⟩
    have hcons : commas (p :: (parts ++ [part])) = p ++ "," ++ commas (parts ++ [part]) := by
      cases parts <;> simp [commas, String.intercalate_cons_cons]
    rw [List.cons_append, hcons, hfront]
    exact String.append_assoc.symm

/-- Numbers can be read back from the value of a parameter. -/
lemma numerals_inj {ns ms : List Nat} (hns : ns ≠ []) (hms : ms ≠ [])
    (h : numerals ns = numerals ms) : ns = ms := by
  have hsplit : ∀ ns : List Nat, ns ≠ [] →
      (numerals ns).toList.splitOn ',' = (ns.map toString).map String.toList := by
    intro ns hne
    have hcomma : ∀ l ∈ (ns.map toString).map String.toList, ',' ∉ l := by
      rw [List.map_map]
      intro l hl hmem
      obtain ⟨n, -, rfl⟩ := List.mem_map.mp hl
      have hdigits : (String.toList ∘ toString) n = Nat.toDigits 10 n := String.toList_ofList
      rw [hdigits] at hmem
      have hdigit : ','.isDigit = true :=
        Nat.isDigit_of_mem_toDigits (by decide) (by decide) hmem
      cases hdigit
    rw [numerals, commas, String.toList_intercalate]
    exact List.splitOn_intercalate ',' hcomma (by simpa using hne)
  have htexts : (ns.map toString).map String.toList = (ms.map toString).map String.toList := by
    rw [← hsplit ns hns, h, hsplit ms hms]
  rw [List.map_map, List.map_map] at htexts
  refine List.map_injective_iff.mpr ?_ htexts
  intro n m hnm
  exact Nat.repr_inj.mp (String.toList_injective hnm)

/-! ## The arguments of a call -/

/-- A call takes as many arguments as its operation has with a density behind them, or one less and
then takes the density for the last one. -/
lemma bindArguments_eq_ok_iff (op : ImageOperation) (args : List Value) (density : Value)
    (bound : List Value) (density' : Value) :
    op.bindArguments (args ++ [density]) = .ok (bound, density') ↔
      (args.length = op.arguments.length ∧ bound = args ∧ density' = density) ∨
        (args.length + 1 = op.arguments.length ∧ bound = args ++ [density] ∧
          density' = .int 1) := by
  unfold bindArguments
  dsimp only
  rw [List.length_append, List.length_singleton]
  constructor
  · intro h
    split at h
    · cases h
    · split at h
      · cases h
      · cases h
        by_cases hall : args.length = op.arguments.length
        · refine .inl ⟨hall, ?_, ?_⟩
          · rw [← hall, List.take_left]
          · rw [← hall, List.getD_append_right _ _ _ _ (Nat.le_refl _), Nat.sub_self]
            rfl
        · have hshort : args.length + 1 = op.arguments.length := by omega
          refine .inr ⟨hshort, ?_, ?_⟩
          · rw [← hshort, List.take_of_length_le (by simp)]
          · rw [← hshort, List.getD_eq_default _ _ (by simp)]
  · rintro (⟨hall, rfl, rfl⟩ | ⟨hshort, rfl, rfl⟩)
    · rw [if_neg (by omega), if_neg (by omega), ← hall, List.take_left,
        List.getD_append_right _ _ _ _ (Nat.le_refl _), Nat.sub_self]
      rfl
    · rw [if_neg (by omega), if_neg (by omega), ← hshort, List.take_of_length_le (by simp),
        List.getD_eq_default _ _ (by simp)]

/-- Numbers without their signs. -/
lemma exists_sizes {args : List Value} {is : List Int} (h : args.mapM magnitude = .ok is) :
    ∃ ns : List Nat, is = ns.map Nat.cast := by
  induction args generalizing is with
  | nil =>
    cases h
    exact ⟨[], rfl⟩
  | cons v args ih =>
    rw [List.mapM_cons] at h
    obtain ⟨i, hi, h⟩ := (bind_eq_ok_iff _ _ _).mp h
    obtain ⟨js, hjs, h⟩ := (bind_eq_ok_iff _ _ _).mp h
    obtain ⟨j, -, hj⟩ := (bind_eq_ok_iff _ _ _).mp hi
    obtain ⟨ns, rfl⟩ := ih hjs
    cases hj
    cases h
    exact ⟨j.natAbs :: ns, rfl⟩

/-- Dimensions at a density are the numbers times the density. -/
lemma mapM_scaled_eq_ok_iff (args : List Value) (d : Nat) (parts : List String) :
    args.mapM (scaled (.int d)) = .ok parts ↔
      ∃ ns : List Nat, args.mapM magnitude = .ok (ns.map Nat.cast) ∧
        parts = (ns.map (· * d)).map toString := by
  induction args generalizing parts with
  | nil =>
    constructor
    · intro h
      cases h
      exact ⟨[], rfl, rfl⟩
    · rintro ⟨ns, hns, rfl⟩
      cases ns with
      | nil => rfl
      | cons => cases hns
  | cons v args ih =>
    rw [List.mapM_cons, List.mapM_cons]
    constructor
    · intro h
      obtain ⟨part, hpart, h⟩ := (bind_eq_ok_iff _ _ _).mp h
      obtain ⟨others, hothers, h⟩ := (bind_eq_ok_iff _ _ _).mp h
      obtain ⟨i, hi, hpart⟩ := (bind_eq_ok_iff _ _ _).mp hpart
      obtain ⟨j, hj, hi'⟩ := (bind_eq_ok_iff _ _ _).mp hi
      obtain ⟨ns, hns, rfl⟩ := (ih others).mp hothers
      cases hi'
      cases hpart
      cases h
      refine ⟨j.natAbs :: ns, ?_, rfl⟩
      rw [hi, hns]
      rfl
    · rintro ⟨ns, hns, rfl⟩
      obtain ⟨i, hi, h⟩ := (bind_eq_ok_iff _ _ _).mp hns
      obtain ⟨js, hjs, h⟩ := (bind_eq_ok_iff _ _ _).mp h
      cases ns with
      | nil => cases h
      | cons n ns =>
        have hhead : i :: js = ((n : Int) :: ns.map Nat.cast) := Except.ok.inj h
        obtain ⟨rfl, rfl⟩ := List.cons.inj hhead
        rw [(ih _).mpr ⟨ns, hjs, rfl⟩, scaled, hi]
        rfl

section Values

variable {op : ImageOperation} {args : List Value}

/-- The value of an operation is that of its arguments if all of them are given, and otherwise that
of its arguments and the density. -/
lemma valueAt_eq_ok_iff (density : Value) (s : String) :
    op.valueAt args density = .ok s ↔
      (args.length = op.arguments.length ∧ op.argument args density = .ok s) ∨
        (args.length + 1 = op.arguments.length ∧
          op.argument (args ++ [density]) (.int 1) = .ok s) := by
  unfold valueAt
  constructor
  · intro h
    obtain ⟨⟨bound, density'⟩, hbound, hvalue⟩ := (bind_eq_ok_iff _ _ _).mp h
    rcases (bindArguments_eq_ok_iff _ _ _ _ _).mp hbound with ⟨hall, rfl, rfl⟩ | ⟨hshort, rfl, rfl⟩
    · exact .inl ⟨hall, hvalue⟩
    · exact .inr ⟨hshort, hvalue⟩
  · rintro (⟨hall, h⟩ | ⟨hshort, h⟩)
    · refine (bind_eq_ok_iff _ _ _).mpr ⟨(args, density), ?_, h⟩
      exact (bindArguments_eq_ok_iff _ _ _ _ _).mpr (.inl ⟨hall, rfl, rfl⟩)
    · refine (bind_eq_ok_iff _ _ _).mpr ⟨(args ++ [density], .int 1), ?_, h⟩
      exact (bindArguments_eq_ok_iff _ _ _ _ _).mpr (.inr ⟨hshort, rfl, rfl⟩)

/-- The value of an operation with dimensions. -/
lemma argument_of_scales (h : op.scales = true) (d : Nat) (s : String) :
    op.argument args (.int d) = .ok s ↔
      ∃ ns : List Nat, args.mapM magnitude = .ok (ns.map Nat.cast) ∧
        s = numerals (ns.map (· * d)) := by
  have hscaled : op.argument args (.int d) =
      (args.mapM (scaled (.int d))).bind fun parts => .ok (commas parts) := by
    cases op with
    | crop | quality => cases h
    | width | height | resize | fit => rfl
  rw [hscaled, bind_eq_ok_iff]
  constructor
  · rintro ⟨parts, hparts, hs⟩
    obtain ⟨ns, hns, rfl⟩ := (mapM_scaled_eq_ok_iff _ _ _).mp hparts
    cases hs
    exact ⟨ns, hns, rfl⟩
  · rintro ⟨ns, hns, rfl⟩
    exact ⟨_, (mapM_scaled_eq_ok_iff _ _ _).mpr ⟨ns, hns, rfl⟩, rfl⟩

/-- The value of any other operation does not depend on the density. -/
lemma argument_of_not_scales (h : op.scales = false) (density density' : Value) :
    op.argument args density = op.argument args density' := by
  cases op with
  | crop | quality => rfl
  | width | height | resize | fit => cases h

/-- The quality is given as a number. -/
lemma exists_of_quality {density : Value} {s : String}
    (h : quality.argument args density = .ok s) :
    ∃ ns : List Nat, args.mapM magnitude = .ok (ns.map Nat.cast) ∧ s = numerals ns := by
  obtain ⟨is, his, hs⟩ := (bind_eq_ok_iff _ _ _).mp h
  obtain ⟨ns, rfl⟩ := exists_sizes his
  cases hs
  refine ⟨ns, his, ?_⟩
  rw [numerals, List.map_map]
  rfl

/-- The numbers of arguments with a natural number behind them. -/
lemma exists_of_concat {d : Nat} {ns : List Nat}
    (h : (args ++ [Value.int d]).mapM magnitude = .ok (ns.map Nat.cast)) :
    ∃ ms : List Nat, args.mapM magnitude = .ok (ms.map Nat.cast) ∧ ns = ms ++ [d] := by
  rw [List.mapM_append] at h
  obtain ⟨is, his, h⟩ := (bind_eq_ok_iff _ _ _).mp h
  obtain ⟨ms, rfl⟩ := exists_sizes his
  refine ⟨ms, his, ?_⟩
  have hcast : (ms ++ [d]).map (Nat.cast : Nat → Int) = ns.map Nat.cast := by
    rw [List.map_append]
    exact Except.ok.inj h
  exact (List.map_injective_iff.mpr Nat.cast_injective hcast).symm

/-- Without dimensions, the values of an operation differ if densities that differ are taken for an
argument. -/
lemma ne_of_incomplete (h : op.scales = false) {s s' : String}
    (hs : op.argument (args ++ [.int (1 : Nat)]) (.int 1) = .ok s)
    (hs' : op.argument (args ++ [.int (2 : Nat)]) (.int 1) = .ok s') : s' ≠ s := by
  rintro rfl
  cases op with
  | width | height | resize | fit => cases h
  | crop =>
    obtain ⟨front, hfront⟩ := exists_commas_concat (args.map Value.text)
    rw [argument, List.map_append, List.map_singleton, hfront] at hs hs'
    have hlast := (String.append_right_inj front).mp (Except.ok.inj (hs.trans hs'.symm))
    exact absurd hlast (by decide)
  | quality =>
    obtain ⟨ns, hns, hvalue⟩ := exists_of_quality hs
    obtain ⟨ns', hns', hvalue'⟩ := exists_of_quality hs'
    obtain ⟨ms, hms, rfl⟩ := exists_of_concat hns
    obtain ⟨ms', hms', rfl⟩ := exists_of_concat hns'
    have hsame := numerals_inj (by simp) (by simp) (hvalue.symm.trans hvalue')
    have hlast := (List.append_inj' hsame rfl).2
    cases hlast

/-- Arguments among which the density is not taken for one that matters: all are given, or the
density is a dimension and all others are zero. -/
def Proportional (op : ImageOperation) (args : List Value) : Prop :=
  args.length = op.arguments.length ∨
    op.scales = true ∧ ∀ v ∈ args, magnitude v = .ok 0

/-- The arguments of an operation are as many as its numbers. -/
lemma length_of_sizes {ns : List Nat} (h : args.mapM magnitude = .ok (ns.map Nat.cast)) :
    ns.length = args.length := by
  induction args generalizing ns with
  | nil =>
    cases ns with
    | nil => rfl
    | cons => cases h
  | cons v args ih =>
    rw [List.mapM_cons] at h
    obtain ⟨i, -, h⟩ := (bind_eq_ok_iff _ _ _).mp h
    obtain ⟨is, his, h⟩ := (bind_eq_ok_iff _ _ _).mp h
    cases ns with
    | nil => cases h
    | cons n ns =>
      have hcons : i :: is = (n : Int) :: ns.map Nat.cast := Except.ok.inj h
      rw [(List.cons.inj hcons).2] at his
      rw [List.length_cons, List.length_cons, ih his]

/-- Numbers are all zero exactly if the arguments are. -/
lemma forall_eq_zero_iff {ns : List Nat} (h : args.mapM magnitude = .ok (ns.map Nat.cast)) :
    (∀ n ∈ ns, n = 0) ↔ ∀ v ∈ args, magnitude v = .ok 0 := by
  induction args generalizing ns with
  | nil =>
    cases ns with
    | nil => exact iff_of_true nofun nofun
    | cons => cases h
  | cons v args ih =>
    rw [List.mapM_cons] at h
    obtain ⟨i, hi, h⟩ := (bind_eq_ok_iff _ _ _).mp h
    obtain ⟨is, his, h⟩ := (bind_eq_ok_iff _ _ _).mp h
    cases ns with
    | nil => cases h
    | cons n ns =>
      have hcons : i :: is = (n : Int) :: ns.map Nat.cast := Except.ok.inj h
      obtain ⟨rfl, rfl⟩ := List.cons.inj hcons
      rw [List.forall_mem_cons, List.forall_mem_cons, ih his, hi, Except.ok.injEq,
        Int.natCast_eq_zero]

/-- Every operation has an argument. -/
lemma arguments_ne_nil (op : ImageOperation) : op.arguments ≠ [] := by
  cases op <;> exact List.cons_ne_nil _ _

/-- Twice the numbers are the numbers exactly if all are zero. -/
lemma map_double_eq_self_iff (ns : List Nat) : ns.map (2 * ·) = ns ↔ ∀ n ∈ ns, n = 0 := by
  have hid : ns.map (2 * ·) = ns ↔ ∀ n ∈ ns, 2 * n = id n := by
    rw [← List.map_inj_left, List.map_id]
  rw [hid]
  refine forall₂_congr fun n _ => ?_
  rw [id]
  omega

/-- The values of an operation with dimensions are at twice the size exactly if no density is taken
for one that matters. -/
theorem doubled_iff (h : op.scales = true) {s s' : String}
    (hs : op.valueAt args (.int (1 : Nat)) = .ok s)
    (hs' : op.valueAt args (.int (2 : Nat)) = .ok s') :
    (∃ ns : List Nat, ns.length = op.arguments.length ∧ s = numerals ns ∧
      s' = numerals (ns.map (2 * ·))) ↔ op.Proportional args := by
  have hdouble : ∀ ns : List Nat, ns.map (· * 2) = ns.map (2 * ·) :=
    fun ns => List.map_congr_left fun n _ => Nat.mul_comm n 2
  have hsingle : ∀ ns : List Nat, ns.map (· * 1) = ns := by simp
  rcases (valueAt_eq_ok_iff _ _).mp hs with ⟨hall, hvalue⟩ | ⟨hshort, hvalue⟩
  · rcases (valueAt_eq_ok_iff _ _).mp hs' with ⟨-, hvalue'⟩ | ⟨hshort, -⟩
    · obtain ⟨ns, hns, rfl⟩ := (argument_of_scales h 1 s).mp hvalue
      obtain ⟨ms, hms, rfl⟩ := (argument_of_scales h 2 s').mp hvalue'
      have hsame : ms = ns :=
        List.map_injective_iff.mpr Nat.cast_injective (Except.ok.inj (hms.symm.trans hns))
      refine iff_of_true ⟨ns, (length_of_sizes hns).trans hall, ?_, ?_⟩ (.inl hall)
      · rw [hsingle]
      · rw [hsame, hdouble]
    · omega
  · rcases (valueAt_eq_ok_iff _ _).mp hs' with ⟨hall, -⟩ | ⟨-, hvalue'⟩
    · omega
    · -- the density is the last dimension
      obtain ⟨ns, hns, rfl⟩ := (argument_of_scales h 1 s).mp hvalue
      obtain ⟨ms, hms, rfl⟩ := (argument_of_scales h 1 s').mp hvalue'
      obtain ⟨given, hgiven, rfl⟩ := exists_of_concat hns
      obtain ⟨given', hgiven', rfl⟩ := exists_of_concat hms
      have hsame : given' = given :=
        List.map_injective_iff.mpr Nat.cast_injective (Except.ok.inj (hgiven'.symm.trans hgiven))
      rw [hsingle, hsingle, hsame, Proportional, ← forall_eq_zero_iff hgiven,
        ← map_double_eq_self_iff]
      constructor
      · rintro ⟨ns, hlength, hns, hms⟩
        have hne : ns ≠ [] := by
          rintro rfl
          exact arguments_ne_nil op (List.length_eq_zero_iff.mp hlength.symm)
        have hfirst := numerals_inj (by simp) hne hns
        have hsecond := numerals_inj (by simp) (by simpa using hne) hms
        rw [← hfirst, List.map_append] at hsecond
        exact .inr ⟨h, (List.append_inj' hsecond rfl).1.symm⟩
      · rintro (hall | ⟨-, hzeros⟩)
        · omega
        · refine ⟨given ++ [1], ?_, rfl, ?_⟩
          · rw [List.length_append, length_of_sizes hgiven, ← hshort]
            rfl
          · rw [List.map_append, hzeros]
            rfl

/-- The values of an operation without dimensions are the same exactly if no density is taken for
one that matters. -/
theorem same_iff (h : op.scales = false) {s s' : String}
    (hs : op.valueAt args (.int (1 : Nat)) = .ok s)
    (hs' : op.valueAt args (.int (2 : Nat)) = .ok s') :
    s' = s ↔ op.Proportional args := by
  rcases (valueAt_eq_ok_iff _ _).mp hs with ⟨hall, hvalue⟩ | ⟨hshort, hvalue⟩
  · rcases (valueAt_eq_ok_iff _ _).mp hs' with ⟨-, hvalue'⟩ | ⟨hshort, -⟩
    · rw [argument_of_not_scales h _ (.int (1 : Nat)), hvalue] at hvalue'
      exact iff_of_true (Except.ok.inj hvalue').symm (.inl hall)
    · omega
  · rcases (valueAt_eq_ok_iff _ _).mp hs' with ⟨hall, -⟩ | ⟨-, hvalue'⟩
    · omega
    · refine iff_of_false (ne_of_incomplete h hvalue hvalue') ?_
      rintro (hall | ⟨hscales, -⟩)
      · omega
      · rw [h] at hscales
        cases hscales

end Values

end ImageOperation

end PageTree
