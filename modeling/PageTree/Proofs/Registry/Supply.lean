import PageTree.Proofs.Registry.Declared
import PageTree.Proofs.Registry.Filling

/-!
# What computations supply

Filling a registry stores definitions one after the other and ends with a result or with a fault.
Which ones these are does not depend on the registry, a frozen one apart: it is reported with the
first definition.  `Supply` has the definitions and the fault, and `Supplies` says that a
computation has a supply.  The supply of a sequence is made of those of its parts
(`Supplies.bind`).

A plug-in supplies the definitions that it registers before its first failure, and the fault of
this failure (`Supply.ofPlugin`, `supplies_loadPlugin`).
-/

namespace PageTree

namespace Registry

variable (r : Registry)

/-- Definitions are stored after others. -/
lemma insertAll_append (added more : List (String × Definition)) :
    r.insertAll (added ++ more) = (r.insertAll added).insertAll more := by
  unfold insertAll
  rw [List.foldl_append]

/-- A definition is the last one that is given under a name. -/
def IsLast (given : List (String × Definition)) (name : String) (d : Definition) : Prop :=
  ∃ before after, given = before ++ (name, d) :: after ∧ ∀ e ∈ after, e.1 ≠ name

/-- A name under which nothing is stored stands for what it stood for. -/
lemma get?_insertAll_of_forall_ne {given : List (String × Definition)} {m : String}
    (h : ∀ e ∈ given, e.1 ≠ m) : (r.insertAll given).get? m = r.get? m := by
  unfold insertAll
  induction given generalizing r with
  | nil => rfl
  | cons e given ih =>
    rw [List.forall_mem_cons] at h
    rw [List.foldl_cons, ih _ h.2, get?_insert, if_neg h.1]

/-- A name stands for the last definition that is stored under it. -/
lemma get?_insertAll_of_isLast {given : List (String × Definition)} {m : String} {d : Definition}
    (h : IsLast given m d) : (r.insertAll given).get? m = some { d with name := m } := by
  obtain ⟨before, after, rfl, hafter⟩ := h
  have hfirst : r.insertAll (before ++ (m, d) :: after) =
      ((r.insertAll before).insert m d).insertAll after := by
    rw [insertAll_append]
    rfl
  rw [hfirst, get?_insertAll_of_forall_ne _ hafter, get?_insert, if_pos rfl]

/-- The names that are defined after definitions were stored. -/
lemma has_insertAll (given : List (String × Definition)) (m : String) :
    (r.insertAll given).has m = true ↔ r.has m = true ∨ m ∈ given.map (·.1) := by
  unfold insertAll
  induction given generalizing r with
  | nil => simp
  | cons e given ih =>
    have hfirst : (r.insert e.1 e.2).has m = true ↔ m = e.1 ∨ r.has m = true := by
      unfold has
      rw [get?_insert]
      by_cases hm : e.1 = m
      · simp [hm]
      · simp [hm, Ne.symm hm]
    rw [List.foldl_cons, ih, hfirst, List.map_cons, List.mem_cons]
    tauto

/-- The registry after definitions were handed to it; a frozen one takes none. -/
def takeAll (given : List (String × Definition)) : Registry :=
  if r.frozen then r else r.insertAll given

/-- A registry that is not frozen takes all definitions. -/
lemma takeAll_of_thawed {r : Registry} (h : r.frozen = false)
    (given : List (String × Definition)) : r.takeAll given = r.insertAll given := by
  simp [takeAll, h]

/-- A frozen registry stays as it is. -/
lemma takeAll_of_frozen {r : Registry} (h : r.frozen = true)
    (given : List (String × Definition)) : r.takeAll given = r := by
  simp [takeAll, h]

@[simp] lemma takeAll_nil : r.takeAll [] = r := by
  simp [takeAll, insertAll]

@[simp] lemma frozen_takeAll (given : List (String × Definition)) :
    (r.takeAll given).frozen = r.frozen := by
  unfold takeAll
  split
  · rfl
  · exact frozen_insertAll r given

/-- Definitions are handed over after others. -/
lemma takeAll_append (given more : List (String × Definition)) :
    r.takeAll (given ++ more) = (r.takeAll given).takeAll more := by
  cases h : r.frozen with
  | true => simp [takeAll, h]
  | false =>
    have h' : (r.takeAll given).frozen = false := by simp [h]
    rw [takeAll_of_thawed h', takeAll_of_thawed h, takeAll_of_thawed h, insertAll_append]

end Registry

namespace Filling

/-! ## Supplies -/

/-- Definitions that are stored one after the other, and the fault that comes then, if any. -/
structure Supply where
  given : List (String × Definition)
  fault : Option RegistryFault

namespace Supply

/-- Nothing is stored. -/
def nothing : Supply := ⟨[], none⟩

/-- A fault comes before anything is stored. -/
def failed (e : RegistryFault) : Supply := ⟨[], some e⟩

/-- What comes after a fault is not stored any more. -/
def andThen (a b : Supply) : Supply :=
  match a.fault with
  | none => ⟨a.given ++ b.given, b.fault⟩
  | some _ => a

/-- A result, where no fault comes. -/
def result {α : Type} (a : Supply) (x : α) : Except RegistryFault α :=
  match a.fault with
  | none => .ok x
  | some e => .error e

section AndThen

variable {a b : Supply}

lemma andThen_of_none (h : a.fault = none) :
    a.andThen b = ⟨a.given ++ b.given, b.fault⟩ := by
  simp [andThen, h]

lemma andThen_of_some {e : RegistryFault} (h : a.fault = some e) : a.andThen b = a := by
  simp [andThen, h]

/-- The first fault of a sequence is its fault. -/
lemma fault_andThen : (a.andThen b).fault = a.fault.or b.fault := by
  unfold andThen
  cases h : a.fault with
  | none => rfl
  | some e => exact h

lemma result_of_none {α : Type} (h : a.fault = none) (x : α) : a.result x = .ok x := by
  simp [result, h]

lemma result_of_some {α : Type} {e : RegistryFault} (h : a.fault = some e) (x : α) :
    a.result x = .error e := by
  simp [result, h]

@[simp] lemma nothing_andThen : nothing.andThen b = b :=
  rfl

@[simp] lemma andThen_nothing : a.andThen nothing = a := by
  cases h : a.fault with
  | none =>
    rw [andThen_of_none h]
    simp [nothing, ← h]
  | some e => exact andThen_of_some h

lemma andThen_assoc (c : Supply) : (a.andThen b).andThen c = a.andThen (b.andThen c) := by
  cases h : a.fault with
  | none =>
    rw [andThen_of_none h, andThen_of_none h]
    cases hb : b.fault with
    | none => simp [andThen, hb]
    | some e => simp [andThen, hb]
  | some e => rw [andThen_of_some h, andThen_of_some h, andThen_of_some h]

end AndThen

end Supply

/-! ## Computations that have a supply -/

/-- A result after definitions were handed to a registry.  A frozen one is reported with the name of
the first of them. -/
def answerOn {α : Type} (r : Registry) (given : List (String × Definition))
    (y : Except RegistryFault α) : Except RegistryFault α :=
  match r.frozen, given with
  | true, e :: _ => .error (.frozen e.1)
  | _, _ => y

/-- A computation stores what it supplies, whatever registry it runs on.  Without a fault its result
is the given one. -/
structure Supplies {α : Type} (x : Filling α) (a : Supply) (value : Registry → α) : Prop where
  named : ∀ e ∈ a.given, e.1 ≠ ""
  answer : ∀ s, (outcome x s).1 = answerOn s.registry a.given (a.result (value s.registry))
  leaves : ∀ s, (outcome x s).2.registry = s.registry.takeAll a.given

section AnswerOn

variable {α : Type} {r : Registry}

/-- Where nothing is frozen the result is answered. -/
lemma answerOn_of_thawed (h : r.frozen = false) (given : List (String × Definition))
    (y : Except RegistryFault α) : answerOn r given y = y := by
  simp [answerOn, h]

/-- A frozen registry is reported with the first definition. -/
lemma answerOn_of_frozen (h : r.frozen = true) (e : String × Definition)
    (given : List (String × Definition)) (y : Except RegistryFault α) :
    answerOn r (e :: given) y = .error (.frozen e.1) := by
  simp [answerOn, h]

@[simp] lemma answerOn_nil (y : Except RegistryFault α) : answerOn r [] y = y := by
  simp [answerOn]

/-- Definitions that are handed over after others do not change which one is reported. -/
lemma answerOn_append (given more : List (String × Definition)) (y : Except RegistryFault α) :
    answerOn r (given ++ more) y = answerOn r given (answerOn r more y) := by
  cases h : r.frozen with
  | false => simp only [answerOn_of_thawed h]
  | true =>
    cases given with
    | nil => rw [List.nil_append, answerOn_nil]
    | cons e given => rw [List.cons_append, answerOn_of_frozen h, answerOn_of_frozen h]

lemma answerOn_congr {r' : Registry} (h : r.frozen = r'.frozen)
    (given : List (String × Definition)) (y : Except RegistryFault α) :
    answerOn r given y = answerOn r' given y := by
  simp only [answerOn, h]

/-- Definitions are all stored, or a frozen registry is reported. -/
lemma answerOn_cases (r : Registry) (given : List (String × Definition)) :
    (r.takeAll given = r.insertAll given ∧
      ∀ {α : Type} (y : Except RegistryFault α), answerOn r given y = y) ∨
    (r.frozen = true ∧
      ∃ name, ∀ {α : Type} (y : Except RegistryFault α),
        answerOn r given y = .error (.frozen name)) := by
  cases h : r.frozen with
  | false => exact .inl ⟨Registry.takeAll_of_thawed h given, answerOn_of_thawed h given⟩
  | true =>
    cases given with
    | nil => exact .inl ⟨Registry.takeAll_of_frozen h [], answerOn_nil⟩
    | cons e given => exact .inr ⟨rfl, e.1, answerOn_of_frozen h e given⟩

end AnswerOn

section Supplies

variable {α β : Type} {x : Filling α} {a : Supply} {value : Registry → α}

/-- The result matters only where there is no fault. -/
lemma Supplies.congr (hx : Supplies x a value) {value' : Registry → α}
    (h : a.fault = none → ∀ r, value r = value' r) : Supplies x a value' := by
  refine ⟨hx.named, fun s => ?_, hx.leaves⟩
  have hanswer := hx.answer s
  cases hfault : a.fault with
  | none =>
    rw [h hfault] at hanswer
    exact hanswer
  | some e =>
    rw [Supply.result_of_some hfault] at hanswer ⊢
    exact hanswer

lemma supplies_pure (v : α) : Supplies (pure v : Filling α) .nothing fun _ => v := by
  refine ⟨nofun, fun s => ?_, fun s => ?_⟩
  · simp [Supply.nothing, Supply.result]
  · simp [Supply.nothing]

lemma supplies_registry : Supplies registry .nothing id := by
  refine ⟨nofun, fun s => ?_, fun s => ?_⟩
  · simp [Supply.nothing, Supply.result]
  · simp [Supply.nothing]

lemma supplies_warn (text : String) : Supplies (warn text) .nothing fun _ => () := by
  refine ⟨nofun, fun s => ?_, fun s => ?_⟩
  · simp [Supply.nothing, Supply.result]
  · simp [Supply.nothing]

lemma supplies_error (e : RegistryFault) (value : Registry → α) :
    Supplies (lift (.error e)) (.failed e) value := by
  refine ⟨nofun, fun s => ?_, fun s => ?_⟩
  · simp [Supply.failed, Supply.result]
  · simp [Supply.failed]

/-- After a fault a sequence ends. -/
lemma Supplies.bind_of_fault (hx : Supplies x a value) {e : RegistryFault}
    (hfault : a.fault = some e) (f : α → Filling β) (value' : Registry → β) :
    Supplies (x >>= f) a value' := by
  have hrun : ∀ s : Shelf, ∃ e', outcome (x >>= f) s = (.error e', (outcome x s).2) ∧
      answerOn s.registry a.given (a.result (value' s.registry)) = .error e' := by
    intro s
    have hanswer := hx.answer s
    rw [Supply.result_of_some hfault] at hanswer ⊢
    rcases answerOn_cases s.registry a.given with ⟨-, h⟩ | ⟨-, name, h⟩
    · rw [h] at hanswer
      exact ⟨e, outcome_bind_of_error (Prod.ext hanswer rfl) f, h _⟩
    · rw [h] at hanswer
      exact ⟨.frozen name, outcome_bind_of_error (Prod.ext hanswer rfl) f, h _⟩
  refine ⟨hx.named, fun s => ?_, fun s => ?_⟩
  · obtain ⟨e', hbind, hanswer⟩ := hrun s
    rw [hbind, hanswer]
  · obtain ⟨e', hbind, -⟩ := hrun s
    rw [hbind]
    exact hx.leaves s

/-- After a result a sequence goes on, unless a frozen registry stops it. -/
lemma Supplies.bind_of_result (hx : Supplies x a value) (hfault : a.fault = none)
    {f : α → Filling β} {b : Supply} {value' : α → Registry → β}
    (hf : ∀ v, Supplies (f v) b (value' v)) :
    Supplies (x >>= f) ⟨a.given ++ b.given, b.fault⟩
      fun r => value' (value r) (r.insertAll a.given) := by
  have hrun : ∀ s : Shelf,
      (outcome (x >>= f) s).1 = answerOn s.registry (a.given ++ b.given)
        (b.result (value' (value s.registry) (s.registry.insertAll a.given))) ∧
      (outcome (x >>= f) s).2.registry = s.registry.takeAll (a.given ++ b.given) := by
    intro s
    have hanswer := hx.answer s
    have hleaves := hx.leaves s
    rw [Supply.result_of_none hfault] at hanswer
    rw [answerOn_append, Registry.takeAll_append]
    rcases answerOn_cases s.registry a.given with ⟨htaken, h⟩ | ⟨hfrozen, name, h⟩
    · rw [h] at hanswer
      rw [outcome_bind_of_ok (Prod.ext hanswer rfl), (hf _).answer, (hf _).leaves, hleaves, h]
      refine ⟨?_, rfl⟩
      rw [← htaken]
      exact answerOn_congr (Registry.frozen_takeAll _ _) _ _
    · rw [h] at hanswer
      rw [outcome_bind_of_error (Prod.ext hanswer rfl), h, hleaves]
      refine ⟨rfl, ?_⟩
      rw [Registry.takeAll_of_frozen hfrozen, Registry.takeAll_of_frozen hfrozen]
  have hnamed : ∀ e ∈ a.given ++ b.given, e.1 ≠ "" := by
    intro e he
    exact (List.mem_append.mp he).elim (hx.named e) ((hf (value .empty)).named e)
  exact ⟨hnamed, fun s => (hrun s).1, fun s => (hrun s).2⟩

/-- A sequence stores what its parts supply; the second part sees the registry that the first one
leaves. -/
lemma Supplies.bind (hx : Supplies x a value) {f : α → Filling β} {b : Supply}
    {value' : α → Registry → β} (hf : ∀ v, Supplies (f v) b (value' v)) :
    Supplies (x >>= f) (a.andThen b)
      fun r => value' (value r) (r.insertAll a.given) := by
  cases hfault : a.fault with
  | some e =>
    rw [Supply.andThen_of_some hfault]
    exact hx.bind_of_fault hfault f _
  | none =>
    rw [Supply.andThen_of_none hfault]
    exact hx.bind_of_result hfault hf

/-- A result is changed after the computation. -/
lemma Supplies.map (hx : Supplies x a value) (g : α → β) :
    Supplies (x >>= fun v => pure (g v)) a fun r => g (value r) := by
  have hbind := hx.bind fun v => supplies_pure (g v)
  rw [Supply.andThen_nothing] at hbind
  exact hbind

end Supplies

/-! ## Plug-ins -/

namespace Supply

variable (lib : Library)

/-- What declarations supply that are registered one after the other.  One without a name supplies
nothing. -/
def ofPairs : List (String × Value) → Supply
  | [] => nothing
  | (name, declaration) :: rest =>
    if name = "" then ofPairs rest
    else
      match definitionOf lib name declaration with
      | .ok d => (Supply.mk [(name, d)] none).andThen (ofPairs rest)
      | .error e => failed e

/-- What a module supplies that may end with a message. -/
def raised (message : Option String) : Supply :=
  ⟨[], message.map fun text => .fault (.raised "RuntimeError" text)⟩

/-- What a plug-in supplies: the definitions that it registers, and the fault with which it is
loaded or ends. -/
def ofPlugin (p : Plugin) : Supply :=
  (raised p.refusal).andThen
    (if p.hook then (ofPairs lib p.registrations).andThen (raised p.failure) else nothing)

end Supply

section Plugins

variable (lib : Library)

/-- A declaration that gives no definition is not refused for a frozen registry. -/
lemma definitionOf_ne_frozen (name m : String) (declaration : Value) :
    definitionOf lib name declaration ≠ .error (.frozen m) := by
  intro h
  cases declaration with
  | null => cases h
  | map entries =>
    rcases Definition.error_of_ofDeclaration lib none name h with ⟨f, hf⟩ | haction
    · cases hf
    · obtain ⟨target, -, hresolve⟩ := lib.resolve_of_actionOf none haction
      rcases lib.error_of_resolve none hresolve with ⟨-, c, hc⟩ | ⟨-, home, hhome⟩
      · cases hc
      · cases hhome
  | _ => cases h

/-- A definition with a name is stored. -/
lemma supplies_store {name : String} (hname : name ≠ "") (d : Definition) :
    Supplies (store name d) ⟨[(name, d)], none⟩ fun _ => true := by
  have hstored : ∀ s, (outcome (store name d) s).1 = answerOn s.registry [(name, d)] (.ok true) ∧
      (outcome (store name d) s).2.registry = s.registry.takeAll [(name, d)] := by
    intro s
    rw [outcome_store name d s hname]
    cases h : s.registry.frozen with
    | true =>
      rw [answerOn_of_frozen h, Registry.takeAll_of_frozen h]
      exact ⟨rfl, rfl⟩
    | false =>
      rw [answerOn_of_thawed h, Registry.takeAll_of_thawed h]
      exact ⟨rfl, rfl⟩
  have hnamed : ∀ e ∈ [(name, d)], e.1 ≠ "" := by
    intro e he
    rw [List.mem_singleton.mp he]
    exact hname
  exact ⟨hnamed, fun s => (hstored s).1, fun s => (hstored s).2⟩

/-- Registering a declaration stores what it supplies alone. -/
lemma supplies_register (name : String) (declaration : Value) :
    Supplies (register lib name declaration) (.ofPairs lib [(name, declaration)])
      fun _ => name != "" := by
  unfold Supply.ofPairs
  by_cases hname : name = ""
  · rw [if_pos hname]
    unfold register
    rw [if_pos hname, hname]
    exact (supplies_warn _).map fun _ => false
  · rw [if_neg hname]
    rw [register_of_named lib name hname, bne_iff_ne.mpr hname]
    cases definitionOf lib name declaration with
    | error e => exact supplies_error e _
    | ok d => exact supplies_store hname d

/-- Registering declarations stores what they supply. -/
lemma supplies_registerPairs (pairs : List (String × Value)) :
    Supplies (registerPairs lib pairs) (.ofPairs lib pairs) fun _ => () := by
  induction pairs with
  | nil => exact supplies_pure ()
  | cons e pairs ih =>
    obtain ⟨name, declaration⟩ := e
    have hsplit : Supply.ofPairs lib ((name, declaration) :: pairs) =
        (Supply.ofPairs lib [(name, declaration)]).andThen (.ofPairs lib pairs) := by
      simp only [Supply.ofPairs]
      split
      · rfl
      · cases definitionOf lib name declaration <;> rfl
    rw [hsplit]
    exact (supplies_register lib name declaration).bind fun _ => ih

/-- No declaration that is registered has a frozen registry for its fault. -/
lemma fault_ofPairs_ne_frozen (pairs : List (String × Value)) (name : String) :
    (Supply.ofPairs lib pairs).fault ≠ some (.frozen name) := by
  induction pairs with
  | nil => nofun
  | cons e pairs ih =>
    obtain ⟨m, declaration⟩ := e
    unfold Supply.ofPairs
    split
    · exact ih
    · cases hd : definitionOf lib m declaration with
      | ok d => exact ih
      | error e =>
        intro h
        rw [Option.some.inj h] at hd
        exact definitionOf_ne_frozen lib m name declaration hd

/-- So a frozen registry is never what a plug-in itself reports. -/
lemma fault_ofPlugin_ne_frozen (p : Plugin) (name : String) :
    (Supply.ofPlugin lib p).fault ≠ some (.frozen name) := by
  have hraised : ∀ message, (Supply.raised message).fault ≠ some (.frozen name) := by
    intro message
    cases message <;> simp [Supply.raised]
  have hpairs := fault_ofPairs_ne_frozen lib p.registrations name
  unfold Supply.ofPlugin
  rw [Supply.fault_andThen]
  split
  · rw [Supply.fault_andThen]
    simp [Option.or_eq_some_iff, hraised, hpairs]
  · simp [hraised, Supply.nothing]

/-- A message ends a plug-in, and no message does not. -/
lemma supplies_raised (message : Option String) :
    Supplies
      (match message with
        | some text => lift (.error (.fault (.raised "RuntimeError" text)))
        | none => pure ())
      (.raised message) fun _ => () := by
  cases message with
  | some text => exact supplies_error _ _
  | none => exact supplies_pure ()

/-- Running a plug-in stores what it supplies. -/
lemma supplies_runPlugin (p : Plugin) :
    Supplies (runPlugin lib p) (.ofPlugin lib p) fun _ => () := by
  unfold runPlugin Supply.ofPlugin
  cases p.refusal with
  | some message => exact supplies_error _ _
  | none =>
    by_cases hhook : p.hook = true
    · simp only [if_pos hhook]
      exact (supplies_registerPairs lib p.registrations).bind fun _ => supplies_raised p.failure
    · simp only [if_neg hhook]
      exact supplies_pure ()

/-- Loading a plug-in stores what it supplies.  Its fault is caught, and it does not take back what
was stored before. -/
theorem supplies_loadPlugin (path : Path) (p : Plugin) :
    Supplies (loadPlugin lib path p) ⟨(Supply.ofPlugin lib p).given, none⟩
      fun _ => (Supply.ofPlugin lib p).fault.isNone := by
  have hinner := (supplies_runPlugin lib p).map fun _ => true
  have hrun : ∀ s : Shelf,
      (outcome (loadPlugin lib path p) s).1 = answerOn s.registry (Supply.ofPlugin lib p).given
        (.ok (Supply.ofPlugin lib p).fault.isNone) ∧
      (outcome (loadPlugin lib path p) s).2.registry =
        s.registry.takeAll (Supply.ofPlugin lib p).given := by
    intro s
    have hanswer := hinner.answer s
    have hleaves := hinner.leaves s
    unfold loadPlugin
    rcases answerOn_cases s.registry (Supply.ofPlugin lib p).given with ⟨-, h⟩ | ⟨-, name, h⟩
    · rw [h] at hanswer ⊢
      cases hfault : (Supply.ofPlugin lib p).fault with
      | none =>
        rw [Supply.result_of_none hfault] at hanswer
        rw [outcome_tryCatch_of_ok (Prod.ext hanswer rfl)]
        exact ⟨rfl, hleaves⟩
      | some e =>
        rw [Supply.result_of_some hfault] at hanswer
        rw [outcome_tryCatch_of_error (Prod.ext hanswer rfl)]
        cases e with
        | frozen name => exact absurd hfault (fault_ofPlugin_ne_frozen lib p name)
        | _ => exact ⟨rfl, hleaves⟩
    · rw [h] at hanswer ⊢
      rw [outcome_tryCatch_of_error (Prod.ext hanswer rfl)]
      exact ⟨rfl, hleaves⟩
  exact ⟨(supplies_runPlugin lib p).named, fun s => (hrun s).1, fun s => (hrun s).2⟩

end Plugins

end Filling

end PageTree
