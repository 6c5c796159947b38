import PageTree.Proofs.Url.Query
import PageTree.Url.Library

/-!
# Laws of a library of addresses

What the program relies on when a library reads, changes and writes addresses for it.  Parameters
are an ordered mapping, and what is written of them is read back (`LawfulQueries`).  The query of an
address has no influence on its other parts, and an address that is read as it was before its query
was changed can be changed like that one (`LawfulParts`).  The text of an address has no blanks that
were not in the text it was read from, and begins with no comma of its own (`LawfulTexts`).

That the other parts are always kept is no law.  An address may be written in such a way that it is
read as another one, and whether it is, is a property of the address (`KeepsPlace`, `KeepsParts`).
-/

namespace PageTree

namespace Url

/-- The parameters in the text of an address, whether or not its other parts are accepted. -/
def paramsOf (address : String) : QueryParams :=
  QueryParams.ofText (((Raw.ofText address.toList).query.map fun q =>
    String.ofList (escape querySafe q)).getD "")

/-- The parameters of an address are listed. -/
lemma listed_paramsOf (address : String) : QueryParams.Listed (paramsOf address) :=
  QueryParams.listed_ofText _

/-- Two addresses with the same scheme, host, path and fragment. -/
structure SameParts (u v : Url) : Prop where
  scheme : v.scheme = u.scheme
  host : v.host = u.host
  path : v.path = u.path
  fragment : v.fragment = u.fragment

/-- One word, with neither a comma in front nor a colon and a comma. -/
structure Solid (cs : List Char) : Prop where
  ne_nil : cs ≠ []
  isBlank : ∀ c ∈ cs, Text.isBlank c = false
  comma : cs.head? ≠ some ','
  colon : ¬ [':', ','] <+: cs

end Url

namespace UrlLibrary

variable [UrlLibrary]

/-- An address was read, its query was changed to the given parameters, and what was written of it
was read. -/
structure Returns (u : Url) (q : QueryParams) (w v : Url) : Prop where
  changed : withQuery u q.toText = .ok w
  read : read (write w) = .ok v

/-- Laws of query parameters. -/
class LawfulQueries : Prop where
  /-- An address has the parameters in its text. -/
  params_of_read : ∀ {s : String} {u : Url}, read s = .ok u → params u = Url.paramsOf s
  /-- Parameters are an ordered mapping. -/
  setParam_eq : ∀ {q : QueryParams}, q.Listed → ∀ name value : String,
    setParam q name value = q.set name value
  /-- Parameters are read back from the query in which they are written. -/
  paramsOf_write : ∀ {s : String} {u w : Url} {q : QueryParams}, read s = .ok u → q.Listed →
    withQuery u q.toText = .ok w → Url.paramsOf (write w) = q

/-- Laws of the other parts. -/
class LawfulParts : Prop extends LawfulQueries where
  /-- The query of an address has no influence on the other parts. -/
  sameParts : ∀ {s : String} {u : Url} {q q' : QueryParams} {w w' v v' : Url}, read s = .ok u →
    Returns u q w v → Returns u q' w' v' → Url.SameParts v v'
  /-- An address that is read with the scheme, the path and the fragment that it had before its
  query was changed can be changed like it was then. -/
  withQuery_again : ∀ {s : String} {u : Url} {q : QueryParams} {w v : Url}, read s = .ok u →
    Returns u q w v → v.scheme = u.scheme → v.path = u.path → v.fragment = u.fragment →
    ∀ q' : QueryParams, withQuery v q'.toText = withQuery u q'.toText

/-- Laws of the text of an address whose query was changed. -/
class LawfulTexts : Prop extends LawfulQueries where
  /-- There are no blanks in it if there were none. -/
  isBlank_write : ∀ {s : String} {u w : Url} {q : QueryParams}, read s = .ok u →
    (∀ c ∈ s.toList, Text.isBlank c = false) → withQuery u q.toText = .ok w →
    ∀ c ∈ (write w).toList, Text.isBlank c = false
  /-- It does not begin with a colon: that of an empty scheme is left out. -/
  colon_write : ∀ {s : String} {u w : Url} {q : QueryParams}, read s = .ok u →
    withQuery u q.toText = .ok w → (write w).toList.head? ≠ some ':'
  /-- It begins with a comma only if it did before, up to such a colon. -/
  comma_write : ∀ {s : String} {u w : Url} {q : QueryParams}, read s = .ok u →
    withQuery u q.toText = .ok w → (write w).toList.head? = some ',' →
    s.toList.head? = some ',' ∨ [':', ','] <+: s.toList

/-! ## What is kept -/

/-- Whatever the parameters of an address are changed to, it has the same scheme, path and fragment
when it is written and read again. -/
structure KeepsPlace (u : Url) : Prop where
  scheme : ∀ {q w v}, Returns u q w v → v.scheme = u.scheme
  path : ∀ {q w v}, Returns u q w v → v.path = u.path
  fragment : ∀ {q w v}, Returns u q w v → v.fragment = u.fragment

/-- It has the same host as well. -/
structure KeepsParts (u : Url) : Prop extends KeepsPlace u where
  host : ∀ {q w v}, Returns u q w v → v.host = u.host

/-- An address takes any parameters, and what is written of it is read, up to a limit on the number
of characters. -/
structure Takes (limit : Nat) (u : Url) : Prop where
  takes : ∀ q : QueryParams, q.toText.length ≤ limit → ∃ w, withQuery u q.toText = .ok w
  reads : ∀ (q : QueryParams) (w : Url), withQuery u q.toText = .ok w →
    (write w).length ≤ limit → ∃ v, read (write w) = .ok v

section Parts

variable [LawfulParts] {s : String} {u : Url} {q : QueryParams} {w v : Url}

/-- An address that keeps its place can be changed again like the first time. -/
lemma KeepsPlace.withQuery_eq (hplace : KeepsPlace u) (hu : read s = .ok u) (h : Returns u q w v)
    (q' : QueryParams) : withQuery v q'.toText = withQuery u q'.toText :=
  LawfulParts.withQuery_again hu h (hplace.scheme h) (hplace.path h) (hplace.fragment h) q'

end Parts

section Texts

variable [LawfulTexts] {s : String} {u w : Url} {q : QueryParams}

/-- An address that is solid stays so when its query is changed, unless it has no parameters then.
-/
lemma solid_write (hsolid : Url.Solid s.toList) (hu : read s = .ok u) (hq : q.Listed) (hne : q ≠ [])
    (hw : withQuery u q.toText = .ok w) : Url.Solid (write w).toList := by
  refine ⟨?_, LawfulTexts.isBlank_write hu hsolid.isBlank hw, fun hhead => ?_, ?_⟩
  · -- there are no parameters in the empty text
    intro hempty
    have hparams := LawfulQueries.paramsOf_write hu hq hw
    rw [String.toList_eq_nil_iff.mp hempty] at hparams
    exact hne hparams.symm
  · rcases LawfulTexts.comma_write hu hw hhead with hcomma | hcolon
    · exact hsolid.comma hcomma
    · exact hsolid.colon hcolon
  · rintro ⟨rest, hrest⟩
    exact LawfulTexts.colon_write hu hw (by rw [← hrest]; rfl)

end Texts

end UrlLibrary

end PageTree
