import PageTree.Proofs.Resolution.Selection

/-!
# The faults of a resolution

A transform that fails ends nothing, since its fault is recorded.  What a resolution can end with is
a fault of the data that definitions declare: with no assumption on the definitions, it is a source
or a type tag that cannot be looked up (`turn_faultsIn_lookup`).  Where all of them can be looked
up, a resolution always ends with a result (`exists_visit`).
-/

namespace PageTree

/-- A fault of a value that cannot be looked up. -/
def Fault.IsLookup (e : Fault) : Prop :=
  ∃ kind, e = .notKey kind

/-- The type tag of a requirement can be looked up, whether or not it is known. -/
def Requirement.Typed (q : Requirement) : Prop :=
  q.type.toKey? ≠ none

/-- Whatever the definitions of a registry ask for can be looked up. -/
def Registry.Lookable (g : Registry) : Prop :=
  ∀ name d, g.get? name = some d → ∀ q ∈ d.requirements, q.2.Sourced ∧ q.2.Typed

/-- A type tag that can be looked up is known or unknown. -/
lemma Requirement.Typed.exists_tag {q : Requirement} (h : q.Typed) :
    ∃ tag, TypeTag.ofValue? q.type = .ok tag := by
  obtain ⟨k, hk⟩ := Option.ne_none_iff_exists'.mp h
  unfold TypeTag.ofValue?
  split
  · exact ⟨_, rfl⟩
  · rw [(Value.toKey_eq_ok_iff _ _).mpr hk]
    exact ⟨none, rfl⟩

/-- What is made of a result fails as the result does. -/
lemma lift_map_faultsIn {α β : Type} {P : Fault → Prop} {x : Except Fault α}
    (h : (Run.lift x).FaultsIn P) (f : α → β) :
    (Run.lift (x >>= fun a => pure (f a))).FaultsIn P := by
  intro e he
  cases x with
  | error e' =>
    cases he
    exact h e rfl
  | ok a => cases he

namespace Resolver

/-- A value that is no key is at fault, and nothing else. -/
lemma lift_toKey_faultsIn (v : Value) : (Run.lift v.toKey).FaultsIn Fault.IsLookup := by
  intro e he
  have hkey : v.toKey = .error e := he
  unfold Value.toKey at hkey
  split at hkey
  · cases hkey
  · cases hkey
    exact ⟨v.kind, rfl⟩

/-- Looking up a type tag fails only for a value that is no key. -/
lemma lift_ofValue?_faultsIn (v : Value) :
    (Run.lift (TypeTag.ofValue? v)).FaultsIn Fault.IsLookup := by
  have hother := lift_map_faultsIn (lift_toKey_faultsIn v) fun _ => (none : Option TypeTag)
  cases v with
  | str s => exact Run.faultsIn_of_ok rfl
  | _ => exact hother

/-- Standing in for missing data fails only for a type tag that cannot be looked up. -/
lemma lift_zeroOf_faultsIn (tag : Value) :
    (Run.lift (TypeTag.zeroOf tag)).FaultsIn Fault.IsLookup :=
  lift_map_faultsIn (lift_ofValue?_faultsIn tag) _

/-- Fitting data to a type tag fails only if the tag cannot be looked up. -/
lemma lift_coerceTo_faultsIn (tag v : Value) :
    (Run.lift (TypeTag.coerceTo tag v)).FaultsIn Fault.IsLookup := by
  have hmatch : TypeTag.coerceTo tag v = (TypeTag.ofValue? tag >>= fun o =>
      pure (o.elim (.error (.unknownTag tag)) (·.coerce v))) := by
    unfold TypeTag.coerceTo
    congr 1
    funext o
    cases o <;> rfl
  rw [hmatch]
  exact lift_map_faultsIn (lift_ofValue?_faultsIn tag) _

/-- Selecting a piece of data fails only for what cannot be looked up. -/
lemma selectOne_faultsIn (context : Context) (n : Node) (depth : Nat) (name : Key)
    (q : Requirement) :
    (selectOne context n depth name q).FaultsIn Fault.IsLookup := by
  unfold selectOne
  refine (lift_toKey_faultsIn q.source).bind fun key => ?_
  split
  · split
    · exact lift_zeroOf_faultsIn q.type
    · exact Run.faultsIn_of_ok rfl
  · refine (lift_coerceTo_faultsIn q.type _).bind fun x => ?_
    cases x with
    | ok w => exact Run.faultsIn_of_ok rfl
    | error e =>
      have htell : (Run.tell (misfit n depth name q e)).FaultsIn Fault.IsLookup :=
        Run.faultsIn_of_ok rfl
      exact htell.bind fun _ => lift_zeroOf_faultsIn q.type

/-- Selecting data fails only for what cannot be looked up. -/
lemma select_faultsIn (context : Context) (n : Node) (depth : Nat)
    (requirements : List (Key × Requirement)) :
    (select context n depth requirements).FaultsIn Fault.IsLookup := by
  induction requirements with
  | nil => exact Run.faultsIn_of_ok rfl
  | cons e rest ih =>
    refine (selectOne_faultsIn context n depth e.1 e.2).bind fun v => ?_
    exact ih.bind fun vs => Run.faultsIn_of_ok rfl

/-- A round fails only for what cannot be looked up. -/
lemma turn_faultsIn_lookup (r : Resolver) (context : Context) (depth : Nat) (n : Node) :
    (r.turn context depth n).FaultsIn Fault.IsLookup := by
  intro e he
  have hround := round_turn context r depth n
  rw [he] at hround
  cases hround with
  | starved d a _ hd ha hdata => exact select_faultsIn context default 0 d.requirements e hdata

/-- Where everything can be looked up, no round fails. -/
lemma turn_not_fails {r : Resolver} (h : r.registry.Lookable) (context : Context) (depth : Nat)
    (n : Node) : (r.turn context depth n).FaultsIn fun _ => False := by
  intro e he
  have hround := round_turn context r depth n
  rw [he] at hround
  cases hround with
  | starved d a _ hd ha hdata =>
    have hlooked : ∀ q ∈ d.requirements, ∃ key tag, q.2.source.toKey = .ok key ∧
        TypeTag.ofValue? q.2.type = .ok tag := by
      intro q hq
      obtain ⟨hsource, htype⟩ := h _ d hd q hq
      obtain ⟨key, hkey⟩ := Option.ne_none_iff_exists'.mp hsource
      obtain ⟨tag, htag⟩ := htype.exists_tag
      exact ⟨key, tag, (Value.toKey_eq_ok_iff _ _).mpr hkey, htag⟩
    obtain ⟨data, hselected⟩ := exists_dataFor context hlooked
    rw [hselected] at hdata
    cases hdata

/-- Where everything can be looked up, a walk has a result. -/
theorem exists_visit {r : Resolver} (h : r.registry.Lookable) (context : Context) (room : Nat)
    (n : Node) : ∃ c, (r.visit context room n).result = .ok c := by
  cases hresult : (r.visit context room n).result with
  | ok c => exact ⟨c, rfl⟩
  | error e => exact ((visit_faultsIn (turn_not_fails h context) room).1 n e hresult).elim

end Resolver

end PageTree
