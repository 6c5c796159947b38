import PageTree.Proofs.Image.Operation

/-!
# Images at twice the size

The operations of a mapping are applied once as they are and once at twice the size, and then every
dimension should be twice what it was and everything else the same (`Doubled`).

The parameters that an address has are read off its text (`paramsOf`), and operations update them
with what they give (`exists_updated_of_applyAll`).  `retina_doubles_iff` says that the names of the
parameters are the same at both sizes, and that the parameters are at twice the size exactly if no
operation of the mapping takes the density for an argument that matters.
-/

namespace PageTree

namespace Image

open QueryParams (Updated)
open Url (paramsOf listed_paramsOf)
open UrlLibrary (LawfulQueries)

/-! ## The operations of a mapping -/

/-- An operation with its arguments. -/
abbrev Call := ImageOperation × List Value

/-- The operation that an entry asks for. -/
def callOf : Key × Value → Option Call
  | (.str name, v) => (ImageOperation.ofName? name).map fun op => (op, argumentsOf v)
  | _ => none

/-- The operations that the entries of a mapping ask for. -/
def callsOf (entries : Entries) : List Call :=
  entries.filterMap callOf

/-- A parameter that an operation gives at a density. -/
def Gives (density : Value) (c : Call) (p : String × String) : Prop :=
  p.1 = c.1.name ∧ c.1.valueAt c.2 density = .ok p.2

/-- The parameters of a mapping are those that its operations give. -/
lemma gives_of_pairsOf {density : Value} {entries : Entries} {pairs : List (String × String)}
    (h : pairsOf density entries = .ok pairs) :
    List.Forall₂ (Gives density) (callsOf entries) pairs := by
  induction entries generalizing pairs with
  | nil =>
    cases h
    exact .nil
  | cons e rest ih =>
    obtain ⟨k, v⟩ := e
    unfold callsOf
    rw [List.filterMap_cons]
    cases k with
    | str name =>
      rw [pairsOf] at h
      rw [callOf]
      cases hop : ImageOperation.ofName? name with
      | none =>
        rw [hop] at h
        exact ih h
      | some op =>
        rw [hop] at h
        obtain ⟨⟨bound, density'⟩, hbound, h⟩ := (bind_eq_ok_iff _ _ _).mp h
        obtain ⟨value, hvalue, h⟩ := (bind_eq_ok_iff _ _ _).mp h
        obtain ⟨others, hothers, h⟩ := (bind_eq_ok_iff _ _ _).mp h
        cases h
        refine .cons ⟨rfl, ?_⟩ (ih hothers)
        exact (bind_eq_ok_iff _ _ _).mpr ⟨(bound, density'), hbound, hvalue⟩
    | _ => exact ih h

/-- The parameters that operations give have their names. -/
lemma names_of_gives {density : Value} {calls : List Call} {pairs : List (String × String)}
    (h : List.Forall₂ (Gives density) calls pairs) :
    pairs.map Prod.fst = calls.map fun c => c.1.name := by
  induction h with
  | nil => rfl
  | cons hp _ ih => rw [List.map_cons, List.map_cons, hp.1, ih]

/-- Every operation gives one of the parameters. -/
lemma exists_gives {density : Value} {calls : List Call} {pairs : List (String × String)}
    (h : List.Forall₂ (Gives density) calls pairs) {c : Call} (hc : c ∈ calls) :
    ∃ p ∈ pairs, Gives density c p := by
  induction h with
  | nil => cases hc
  | cons hp _ ih =>
    rcases List.mem_cons.mp hc with rfl | hc
    · exact ⟨_, List.mem_cons_self, hp⟩
    · obtain ⟨p, hmem, hp⟩ := ih hc
      exact ⟨p, List.mem_cons_of_mem _ hmem, hp⟩

/-! ## The parameters of an address -/

/-- Operations update the parameters of an address with what they give. -/
theorem exists_updated_of_applyAll [UrlLibrary] [LawfulQueries] {address result : String}
    {entries : Entries} {density : Value}
    (h : applyAll address (.map entries) density = .ok result) :
    ∃ pairs, pairsOf density entries = .ok pairs ∧
      Updated (paramsOf address) pairs (paramsOf result) := by
  obtain ⟨pairs, hpairs, heach⟩ := (applyEntries_eq_ok_iff _ _ _ _).mp h
  refine ⟨pairs, hpairs, ?_⟩
  rw [paramsOf_setEach heach]
  exact QueryParams.updated_setAll (listed_paramsOf address) pairs

/-! ## Twice the size -/

/-- Parameters at twice the size after the same operations: the same names in the same order, the
dimensions of the operations doubled, and everything else as it is. -/
structure Doubled (calls : List Call) (q q' : QueryParams) : Prop where
  names : q'.map Prod.fst = q.map Prod.fst
  dimensions : ∀ c ∈ calls, c.1.scales = true → ∃ ns : List Nat,
    ns.length = c.1.arguments.length ∧ q.lookup c.1.name = some [ImageOperation.numerals ns] ∧
      q'.lookup c.1.name = some [ImageOperation.numerals (ns.map (2 * ·))]
  others : ∀ name, (∀ c ∈ calls, c.1.scales = true → c.1.name ≠ name) →
    q'.lookup name = q.lookup name

section Update

variable {calls : List Call} {base q q' : QueryParams} {pairs pairs' : List (String × String)}

/-- Updates with what the same operations give leave the same names in the same order. -/
lemma names_eq_of_updated {density density' : Value}
    (hgives : List.Forall₂ (Gives density) calls pairs)
    (hgives' : List.Forall₂ (Gives density') calls pairs')
    (hq : Updated base pairs q) (hq' : Updated base pairs' q') :
    q'.map Prod.fst = q.map Prod.fst := by
  rw [hq.names, hq'.names, names_of_gives hgives, names_of_gives hgives']

/-- A parameter that is not given keeps its values. -/
lemma lookup_of_not_given {density : Value} (hgives : List.Forall₂ (Gives density) calls pairs)
    (hq : Updated base pairs q) {name : String} (h : ∀ c ∈ calls, c.1.name ≠ name) :
    q.lookup name = base.lookup name := by
  have hnone : pairs.reverse.lookup name = none := by
    rw [List.lookup_eq_none_iff]
    intro p hp
    have hname : p.1 ∈ calls.map fun c => c.1.name := by
      rw [← names_of_gives hgives]
      exact List.mem_map_of_mem (List.mem_reverse.mp hp)
    obtain ⟨c, hc, hcp⟩ := List.mem_map.mp hname
    rw [← hcp]
    exact bne_iff_ne.mpr (h c hc).symm
  rw [hq.values, hnone]
  rfl

/-- Different operations have different names. -/
lemma name_injective : Function.Injective ImageOperation.name := by
  intro op op' h
  cases op <;> cases op' <;> first | rfl | exact absurd h (by decide)

/-- The parameters of an address are at twice the size exactly if the density is taken for nothing
that matters. -/
theorem doubled_iff_of_updated (hdistinct : (calls.map fun c => c.1.name).Nodup)
    (hgives : List.Forall₂ (Gives (.int (1 : Nat))) calls pairs)
    (hgives' : List.Forall₂ (Gives (.int (2 : Nat))) calls pairs')
    (hq : Updated base pairs q) (hq' : Updated base pairs' q') :
    Doubled calls q q' ↔ ∀ c ∈ calls, c.1.Proportional c.2 := by
  have hvalues : ∀ c ∈ calls, ∃ s s', c.1.valueAt c.2 (.int (1 : Nat)) = .ok s ∧
      c.1.valueAt c.2 (.int (2 : Nat)) = .ok s' ∧ q.lookup c.1.name = some [s] ∧
      q'.lookup c.1.name = some [s'] := by
    intro c hc
    obtain ⟨p, hp, hpname, hpvalue⟩ := exists_gives hgives hc
    obtain ⟨p', hp', hpname', hpvalue'⟩ := exists_gives hgives' hc
    refine ⟨p.2, p'.2, hpvalue, hpvalue', ?_, ?_⟩
    · rw [← hpname]
      exact hq.lookup_of_mem (names_of_gives hgives ▸ hdistinct) hp
    · rw [← hpname']
      exact hq'.lookup_of_mem (names_of_gives hgives' ▸ hdistinct) hp'
  constructor
  · intro h c hc
    obtain ⟨s, s', hs, hs', hlookup, hlookup'⟩ := hvalues c hc
    cases hscales : c.1.scales with
    | true =>
      obtain ⟨ns, hlength, hns, hns'⟩ := h.dimensions c hc hscales
      rw [hlookup, Option.some.injEq, List.singleton_inj] at hns
      rw [hlookup', Option.some.injEq, List.singleton_inj] at hns'
      exact (ImageOperation.doubled_iff hscales hs hs').mp ⟨ns, hlength, hns, hns'⟩
    | false =>
      have hothers := h.others c.1.name fun e _ he hname => by
        rw [name_injective hname, hscales] at he
        cases he
      rw [hlookup, hlookup', Option.some.injEq, List.singleton_inj] at hothers
      exact (ImageOperation.same_iff hscales hs hs').mp hothers
  · intro h
    refine ⟨names_eq_of_updated hgives hgives' hq hq', fun c hc hscales => ?_, fun name hname => ?_⟩
    · obtain ⟨s, s', hs, hs', hlookup, hlookup'⟩ := hvalues c hc
      obtain ⟨ns, hlength, rfl, rfl⟩ := (ImageOperation.doubled_iff hscales hs hs').mpr (h c hc)
      exact ⟨ns, hlength, hlookup, hlookup'⟩
    · by_cases hgiven : ∃ c ∈ calls, c.1.name = name
      · obtain ⟨c, hc, rfl⟩ := hgiven
        obtain ⟨s, s', hs, hs', hlookup, hlookup'⟩ := hvalues c hc
        have hscales : c.1.scales = false :=
          Bool.eq_false_iff.mpr fun hscales => hname c hc hscales rfl
        rw [hlookup, hlookup', (ImageOperation.same_iff hscales hs hs').mpr (h c hc)]
      · push Not at hgiven
        rw [lookup_of_not_given hgives hq hgiven, lookup_of_not_given hgives' hq' hgiven]

end Update

/-- The operations of a mapping that are applied to an address once as they are and once at twice
the size leave parameters with the same names in the same order.  The second address is at twice the
size, that is, its dimensions are those of the first doubled and everything else is equal, exactly
if every operation is given all its arguments, or lacks a dimension beside which there is none but
zero. -/
theorem retina_doubles_iff [UrlLibrary] [LawfulQueries] {address : String} {entries : Entries}
    (hentries : Entries.Distinct entries) {plain double : String}
    (hplain : applyAll address (.map entries) (.int 1) = .ok plain)
    (hdouble : applyAll address (.map entries) (.int 2) = .ok double) :
    (paramsOf double).map Prod.fst = (paramsOf plain).map Prod.fst ∧
      (Doubled (callsOf entries) (paramsOf plain) (paramsOf double) ↔
        ∀ c ∈ callsOf entries, c.1.Proportional c.2) := by
  obtain ⟨pairs, hpairs, hupdated⟩ := exists_updated_of_applyAll hplain
  obtain ⟨pairs', hpairs', hupdated'⟩ := exists_updated_of_applyAll hdouble
  have hgives := gives_of_pairsOf hpairs
  have hgives' := gives_of_pairsOf hpairs'
  refine ⟨names_eq_of_updated hgives hgives' hupdated hupdated', ?_⟩
  refine doubled_iff_of_updated ?_ hgives hgives' hupdated hupdated'
  rw [← names_of_gives hgives]
  exact nodup_pairsOf hentries hpairs

open scoped Standard

/-- Operations with all their arguments: a dimension by itself, a negative one, and a crop. -/
def sizedOperations : Entries :=
  [(.str "w", .int 120), (.str "resize", .list [.int (-800), .int 450]), (.str "blur", .int 3),
    (.str "crop", .list [.int 1, .int 2, .int 3, .int 4])]

/-- A photo at its size and at twice its size. -/
theorem retina_doubles_iff_photo :
    Entries.Distinct sizedOperations ∧
      applyAll "http://a/x.jpg?v=1" (.map sizedOperations) (.int 1) =
        .ok "http://a/x.jpg?v=1&w=120&resize=800,450&crop=1,2,3,4" ∧
      applyAll "http://a/x.jpg?v=1" (.map sizedOperations) (.int 2) =
        .ok "http://a/x.jpg?v=1&w=240&resize=1600,900&crop=1,2,3,4" ∧
      Doubled (callsOf sizedOperations)
        (paramsOf "http://a/x.jpg?v=1&w=120&resize=800,450&crop=1,2,3,4")
        (paramsOf "http://a/x.jpg?v=1&w=240&resize=1600,900&crop=1,2,3,4") := by
  have hentries : Entries.Distinct sizedOperations := by
    unfold Entries.Distinct
    decide
  have hplain : applyAll "http://a/x.jpg?v=1" (.map sizedOperations) (.int 1) =
      .ok "http://a/x.jpg?v=1&w=120&resize=800,450&crop=1,2,3,4" :=
    (toOption_eq_some_iff _ _).mp (by decide +kernel)
  have hdouble : applyAll "http://a/x.jpg?v=1" (.map sizedOperations) (.int 2) =
      .ok "http://a/x.jpg?v=1&w=240&resize=1600,900&crop=1,2,3,4" :=
    (toOption_eq_some_iff _ _).mp (by decide +kernel)
  have hcalls : (callsOf sizedOperations).map (fun c => (c.1, c.2.length)) =
      [(.width, 1), (.resize, 2), (.crop, 4)] := by decide
  refine ⟨hentries, hplain, hdouble, ((retina_doubles_iff hentries hplain hdouble).2).mpr ?_⟩
  intro c hc
  have hlength : (c.1, c.2.length) ∈ [(ImageOperation.width, 1), (.resize, 2), (.crop, 4)] :=
    hcalls ▸ List.mem_map_of_mem hc
  simp only [List.mem_cons, Prod.mk.injEq, List.not_mem_nil, or_false] at hlength
  rcases hlength with ⟨hop, hlength⟩ | ⟨hop, hlength⟩ | ⟨hop, hlength⟩ <;>
    exact .inl (by rw [hlength, hop]; rfl)

/-- A crop that lacks its height is given the density for it, so that the crop at twice the size is
another one. -/
theorem short_crop_takes_density :
    applyAll "http://a/x.jpg" (.map [(.str "crop", .list [.int 1, .int 2, .int 3])]) (.int 1) =
        .ok "http://a/x.jpg?crop=1,2,3,1" ∧
      applyAll "http://a/x.jpg" (.map [(.str "crop", .list [.int 1, .int 2, .int 3])]) (.int 2) =
        .ok "http://a/x.jpg?crop=1,2,3,2" ∧
      ¬ Doubled (callsOf [(.str "crop", .list [.int 1, .int 2, .int 3])])
        (paramsOf "http://a/x.jpg?crop=1,2,3,1") (paramsOf "http://a/x.jpg?crop=1,2,3,2") := by
  have hplain : paramsOf "http://a/x.jpg?crop=1,2,3,1" = [("crop", ["1,2,3,1"])] := by
    decide +kernel
  have hdouble : paramsOf "http://a/x.jpg?crop=1,2,3,2" = [("crop", ["1,2,3,2"])] := by
    decide +kernel
  refine ⟨(toOption_eq_some_iff _ _).mp (by decide +kernel),
    (toOption_eq_some_iff _ _).mp (by decide +kernel), fun h => ?_⟩
  have hcrop := h.others "crop" (by decide)
  rw [hplain, hdouble] at hcrop
  exact absurd hcrop (by decide)

end Image

end PageTree
