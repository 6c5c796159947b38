import Mathlib.Data.List.Induction
import PageTree.Proofs.Registry.Directories

/-!
# The history of a registry

A registry is filled by operations of six kinds, and each may fail.  What the operations did to it
is a list of events (`History`): a definition was stored under a name, or a name was removed.  At
every time the registry answers as the latest event of each name has it, whatever operations were
done and whichever of them failed (`registry_follows_history`).  What a load of directories stores
is what their files supply (`Supply.ofDirectories`), also if it fails in the end.

The steps are lawful (`Lawful`): what fails changes nothing, and after the registry was frozen
nothing is changed any more.
-/

namespace PageTree

open Filling

/-! ## Events -/

/-- What happened to a registry. -/
inductive Event where
  | stored (name : String) (d : Definition)
  | removed (name : String)

/-- What a name stands for after events, the latest of them first, if it stood for `f` before. -/
def Event.replay (f : String → Option Definition) : List Event → String → Option Definition
  | [], m => f m
  | .stored name d :: earlier, m =>
    if name = m then some { d with name } else replay f earlier m
  | .removed name :: earlier, m => if name = m then none else replay f earlier m

/-- Definitions that were stored one after the other, as events. -/
def Event.ofAdded (added : List (String × Definition)) : List Event :=
  added.reverse.map fun e => .stored e.1 e.2

namespace Event

/-- Events that follow others. -/
lemma replay_append (f : String → Option Definition) (new events : List Event) :
    replay f (new ++ events) = replay (replay f events) new := by
  funext m
  induction new with
  | nil => rfl
  | cons e new ih => cases e <;> simp only [List.cons_append, replay, ih]

end Event

namespace Registry

/-- Names stand for what was stored under them last. -/
lemma get?_insertAll (r : Registry) (added : List (String × Definition)) :
    (r.insertAll added).get? = Event.replay r.get? (Event.ofAdded added) := by
  unfold insertAll Event.ofAdded
  induction added generalizing r with
  | nil => rfl
  | cons e added ih =>
    have hfirst : (r.insert e.1 e.2).get? = Event.replay r.get? [.stored e.1 e.2] := by
      funext m
      rw [get?_insert]
      rfl
    rw [List.foldl_cons, ih, hfirst, List.reverse_cons, List.map_append, Event.replay_append]
    rfl

/-- To remove a name that is not there changes nothing. -/
lemma erase_of_not_has {r : Registry} {name : String} (h : r.has name = false) :
    r.erase name = r := by
  have hall : ∀ e ∈ r.definitions, (e.1 != name) = true := by
    intro e he
    rw [bne_iff_ne]
    rintro rfl
    have hmem := (mem_names_iff r e.1).mp (List.mem_map_of_mem he)
    rw [h] at hmem
    cases hmem
  obtain ⟨definitions, frozen⟩ := r
  rw [erase, List.filter_eq_self.mpr hall]

end Registry

/-! ## Operations -/

/-- What can be done with a registry. -/
inductive Operation where
  /-- Registers a declaration, or nothing, under a name. -/
  | register (name : String) (declaration : Value)
  /-- Registers a definition under a name. -/
  | store (name : String) (d : Definition)
  | unregister (name : String)
  | freeze
  | load (files : Files) (path : String) (overrides : Value)
  | loadDirectories (files : Files) (directories : Value)

/-- What an operation answers. -/
inductive Reply where
  | done
  | flag (b : Bool)
  | names (names : List String)

section Operations

variable [YamlLibrary]

namespace Operation

variable (lib : Library)

/-- Does an operation. -/
def perform : Operation → Filling Reply
  | register name declaration => Filling.register lib name declaration >>= fun b => pure (.flag b)
  | store name d => Filling.store name d >>= fun b => pure (.flag b)
  | unregister name => Filling.unregister name >>= fun b => pure (.flag b)
  | freeze => Filling.freeze >>= fun _ => pure .done
  | load files path overrides =>
    loadDeclaration lib files path overrides >>= fun name => pure (.names [name])
  | loadDirectories files directories =>
    Filling.loadDirectories lib files directories >>= fun names => pure (.names names)

/-- What an operation answers on a shelf. -/
def reply (op : Operation) (s : Shelf) : Except RegistryFault Reply :=
  (outcome (op.perform lib) s).1

/-- The shelf after an operation. -/
def next (op : Operation) (s : Shelf) : Shelf :=
  (outcome (op.perform lib) s).2

/-- The shelf after operations that were done one after the other, whether or not they failed. -/
def run (ops : List Operation) (s : Shelf) : Shelf :=
  ops.foldl (fun s op => op.next lib s) s

end Operation

/-! ## What was done -/

/-- What an operation did, given what it answered. -/
inductive Did (lib : Library) : Operation → Except RegistryFault Reply → List Event → Prop where
  /-- A declaration that was registered gave a definition. -/
  | registered {name : String} {declaration : Value} {d : Definition} (hname : name ≠ "")
    (hd : definitionOf lib name declaration = .ok d) :
    Did lib (.register name declaration) (.ok (.flag true)) [.stored name d]
  | stored {name : String} (d : Definition) (hname : name ≠ "") :
    Did lib (.store name d) (.ok (.flag true)) [.stored name d]
  /-- What has no name was not registered. -/
  | unnamed (declaration : Value) : Did lib (.register "" declaration) (.ok (.flag false)) []
  | nameless (d : Definition) : Did lib (.store "" d) (.ok (.flag false)) []
  | removed (name : String) : Did lib (.unregister name) (.ok (.flag true)) [.removed name]
  | absent (name : String) : Did lib (.unregister name) (.ok (.flag false)) []
  | frozen : Did lib .freeze (.ok .done) []
  /-- A file that was loaded gave a definition. -/
  | loaded {files : Files} {path name : String} {overrides : Value} {d : Definition}
    (hname : name ≠ "") (hd : loadedDefinition lib files path overrides = .ok (name, d)) :
    Did lib (.load files path overrides) (.ok (.names [name])) [.stored name d]
  /-- Directories that were loaded gave what their files supply, also if the load failed in the
  end. -/
  | swept (files : Files) (directories : Value) (names : List String) :
    Did lib (.loadDirectories files directories)
      ((Supply.ofDirectories lib files directories).result (.names names))
      (Event.ofAdded (Supply.ofDirectories lib files directories).given)
  /-- Directories came too late for their first definition. -/
  | overdue {files : Files} {directories : Value} {e : String × Definition}
    (hfirst : (Supply.ofDirectories lib files directories).given.head? = some e) :
    Did lib (.loadDirectories files directories) (.error (.frozen e.1)) []
  /-- Every other operation that fails does nothing. -/
  | failed {op : Operation} (e : RegistryFault)
    (hop : ∀ files directories, op ≠ .loadDirectories files directories) :
    Did lib op (.error e) []

/-- The operations that were done from the beginning on, the shelf they led to, and what they did,
the latest event first. -/
inductive History (lib : Library) : List Operation → Shelf → List Event → Prop where
  | start : History lib [] Shelf.empty []
  | step {ops : List Operation} {s : Shelf} {events new : List Event} (op : Operation)
    (past : History lib ops s events) (hdid : Did lib op (op.reply lib s) new) :
    History lib (ops ++ [op]) (op.next lib s) (new ++ events)

/-! ## Steps -/

/-- What one operation does to a registry, given the events. -/
structure Step (lib : Library) (op : Operation) (s : Shelf) (new : List Event) : Prop where
  did : Did lib op (op.reply lib s) new
  get : (op.next lib s).registry.get? = Event.replay s.registry.get? new
  consistent : s.registry.Consistent → (op.next lib s).registry.Consistent
  /-- Without events the registry stays as it is, unless it is frozen. -/
  idle : new = [] → op ≠ .freeze → (op.next lib s).registry = s.registry
  /-- A frozen registry stays as it is. -/
  stays : s.registry.frozen = true → (op.next lib s).registry = s.registry
  /-- Only freezing freezes a registry. -/
  frozen_iff : (op.next lib s).registry.frozen = true ↔ s.registry.frozen = true ∨ op = .freeze

section Step

variable {lib : Library} {op : Operation} {s : Shelf}

/-- An operation that leaves the registry as it is. -/
lemma Step.of_unchanged {answer : Except RegistryFault Reply} {t : Shelf}
    (hrun : outcome (op.perform lib) s = (answer, t)) (ht : t.registry = s.registry)
    (hdid : Did lib op answer []) (hop : op ≠ .freeze) : Step lib op s [] := by
  have hnext : (op.next lib s).registry = s.registry := by rw [Operation.next, hrun, ht]
  refine ⟨?_, ?_, fun hr => ?_, fun _ _ => hnext, fun _ => hnext, ?_⟩
  · rw [Operation.reply, hrun]
    exact hdid
  · rw [hnext]
    rfl
  · rwa [hnext]
  · rw [hnext]
    exact (or_iff_left hop).symm

/-- An operation that stores definitions with names. -/
lemma Step.of_insertAll {given : List (String × Definition)} (hfrozen : s.registry.frozen = false)
    (hnamed : ∀ e ∈ given, e.1 ≠ "")
    (hnext : (op.next lib s).registry = s.registry.insertAll given)
    (hdid : Did lib op (op.reply lib s) (Event.ofAdded given)) (hop : op ≠ .freeze) :
    Step lib op s (Event.ofAdded given) := by
  refine ⟨hdid, ?_, fun hr => ?_, fun hnil _ => ?_, fun htrue => ?_, ?_⟩
  · rw [hnext, Registry.get?_insertAll]
  · rw [hnext]
    exact hr.insertAll hnamed
  · rw [Event.ofAdded, List.map_eq_nil_iff, List.reverse_eq_nil_iff] at hnil
    rw [hnext, hnil]
    rfl
  · rw [hfrozen] at htrue
    cases htrue
  · rw [hnext, Registry.frozen_insertAll]
    exact (or_iff_left hop).symm

/-- An operation that stores a definition with a name. -/
lemma Step.of_stored {answer : Except RegistryFault Reply} {t : Shelf} {name : String}
    {d : Definition} (hrun : outcome (op.perform lib) s = (answer, t))
    (hfrozen : s.registry.frozen = false) (hname : name ≠ "")
    (ht : t.registry = s.registry.insert name d) (hdid : Did lib op answer [.stored name d])
    (hop : op ≠ .freeze) : Step lib op s [.stored name d] := by
  have hnamed : ∀ e ∈ [(name, d)], e.1 ≠ "" := by
    intro e he
    rw [List.mem_singleton.mp he]
    exact hname
  have hnext : (op.next lib s).registry = s.registry.insertAll [(name, d)] := by
    rw [Operation.next, hrun, ht]
    rfl
  have hreply : Did lib op (op.reply lib s) [.stored name d] := by
    rw [Operation.reply, hrun]
    exact hdid
  exact Step.of_insertAll hfrozen hnamed hnext hreply hop

/-- An operation that comes to storing a definition with a name. -/
lemma exists_step_of_store {name : String} {d : Definition}
    (hrun : outcome (op.perform lib) s =
      outcome (store name d >>= fun b => pure (Reply.flag b)) s)
    (hname : name ≠ "") (hop : op ≠ .freeze) (hfailed : ∀ e, Did lib op (.error e) [])
    (hdid : Did lib op (.ok (.flag true)) [.stored name d]) : ∃ new, Step lib op s new := by
  rw [outcome_bind_pure, outcome_store name d s hname] at hrun
  cases hfrozen : s.registry.frozen with
  | true =>
    rw [if_pos hfrozen] at hrun
    exact ⟨[], .of_unchanged hrun rfl (hfailed _) hop⟩
  | false =>
    rw [if_neg (ne_true_of_eq_false hfrozen)] at hrun
    exact ⟨_, .of_stored hrun hfrozen hname rfl hdid hop⟩

variable (lib s)

/-- Storing a definition is a step. -/
lemma exists_step_store (name : String) (d : Definition) :
    ∃ new, Step lib (.store name d) s new := by
  by_cases hname : name = ""
  · subst hname
    exact ⟨[], .of_unchanged rfl rfl (.nameless d) nofun⟩
  · exact exists_step_of_store rfl hname nofun (fun e => .failed e nofun) (.stored d hname)

/-- Registering a declaration is a step. -/
lemma exists_step_register (name : String) (declaration : Value) :
    ∃ new, Step lib (.register name declaration) s new := by
  by_cases hname : name = ""
  · subst hname
    have hrefuse : register lib "" declaration = refuse := if_pos rfl
    have hrun : outcome (Operation.perform lib (.register "" declaration)) s =
        (.ok (.flag false), (outcome refuse s).2) := by
      rw [Operation.perform, hrefuse, outcome_bind_pure, (outcome_refuse s).1]
      rfl
    exact ⟨[], .of_unchanged hrun (outcome_refuse s).2 (.unnamed declaration) nofun⟩
  · have hregister := outcome_bind_pure (register lib name declaration) Reply.flag s
    rw [register_eq lib name s hname] at hregister
    cases hd : definitionOf lib name declaration with
    | error e =>
      rw [hd, outcome_bind_of_error (outcome_lift s _)] at hregister
      exact ⟨[], .of_unchanged hregister rfl (.failed e nofun) nofun⟩
    | ok d =>
      rw [hd, outcome_bind_of_ok (outcome_lift s _), ← outcome_bind_pure] at hregister
      exact exists_step_of_store hregister hname nofun (fun e => .failed e nofun)
        (.registered hname hd)

/-- Removing a name is a step. -/
lemma exists_step_unregister (name : String) : ∃ new, Step lib (.unregister name) s new := by
  have hrun := outcome_bind_pure (unregister name) Reply.flag s
  rw [outcome_unregister] at hrun
  cases hfrozen : s.registry.frozen with
  | true =>
    rw [if_pos hfrozen] at hrun
    exact ⟨[], .of_unchanged hrun rfl (.failed _ nofun) nofun⟩
  | false =>
    rw [if_neg (ne_true_of_eq_false hfrozen)] at hrun
    cases hhas : s.registry.has name with
    | false =>
      rw [hhas, Registry.erase_of_not_has hhas] at hrun
      exact ⟨[], .of_unchanged hrun rfl (.absent name) nofun⟩
    | true =>
      rw [hhas] at hrun
      have hnext : (Operation.next lib (.unregister name) s).registry =
          s.registry.erase name := by
        rw [Operation.next, Operation.perform, hrun]
      refine ⟨[.removed name], ?_, ?_, fun hr => ?_, nofun, fun htrue => ?_, ?_⟩
      · rw [Operation.reply, Operation.perform, hrun]
        exact .removed name
      · rw [hnext]
        funext m
        rw [Registry.get?_erase]
        rfl
      · rw [hnext]
        exact hr.erase name
      · rw [hfrozen] at htrue
        cases htrue
      · rw [hnext]
        exact (or_iff_left nofun).symm

/-- Loading a file is a step. -/
lemma exists_step_load (files : Files) (path : String) (overrides : Value) :
    ∃ new, Step lib (.load files path overrides) s new := by
  have hrun := outcome_bind_pure (loadDeclaration lib files path overrides)
    (fun name => Reply.names [name]) s
  have hstores := loadDeclaration_storesOn lib files s path overrides
  unfold StoresOn at hstores
  rcases hload : outcome (loadDeclaration lib files path overrides) s with ⟨result, t⟩
  rw [hload] at hrun hstores
  generalize hx : loadedDefinition lib files path overrides = x at hstores
  generalize ht : t.registry = r at hstores
  cases hstores with
  | failed e => exact ⟨[], .of_unchanged hrun ht (.failed e nofun) nofun⟩
  | frozen hfrozen => exact ⟨[], .of_unchanged hrun ht (.failed _ nofun) nofun⟩
  | stored hname hfrozen =>
    exact ⟨_, .of_stored hrun hfrozen hname ht (.loaded hname hx) nofun⟩

/-- Loading directories is a step. -/
lemma exists_step_loadDirectories (files : Files) (directories : Value) :
    ∃ new, Step lib (.loadDirectories files directories) s new := by
  have hload := supplies_loadDirectories lib files directories
  have hanswer := (hload.map Reply.names).answer s
  have hleaves := (hload.map Reply.names).leaves s
  have hdid : Did lib _ _ _ := .swept files directories
    (listed lib files (Filling.visits files directories) s.registry)
  cases hfrozen : s.registry.frozen with
  | false =>
    rw [answerOn_of_thawed hfrozen] at hanswer
    rw [Registry.takeAll_of_thawed hfrozen] at hleaves
    refine ⟨_, .of_insertAll hfrozen hload.named hleaves ?_ nofun⟩
    rw [Operation.reply, Operation.perform, hanswer]
    exact hdid
  | true =>
    rw [Registry.takeAll_of_frozen hfrozen] at hleaves
    have hreply : Did lib (.loadDirectories files directories)
        (answerOn s.registry (Supply.ofDirectories lib files directories).given
          ((Supply.ofDirectories lib files directories).result
            (.names (listed lib files (Filling.visits files directories) s.registry)))) [] := by
      cases hgiven : (Supply.ofDirectories lib files directories).given with
      | nil =>
        rw [hgiven] at hdid
        rw [answerOn_nil]
        exact hdid
      | cons e given =>
        have hfirst : (Supply.ofDirectories lib files directories).given.head? = some e := by
          rw [hgiven, List.head?_cons]
        rw [answerOn_of_frozen hfrozen]
        exact .overdue hfirst
    exact ⟨[], .of_unchanged (Prod.ext hanswer rfl) hleaves hreply nofun⟩

/-- Every operation is a step. -/
theorem exists_step (op : Operation) : ∃ new, Step lib op s new := by
  cases op with
  | register name declaration => exact exists_step_register lib s name declaration
  | store name d => exact exists_step_store lib s name d
  | unregister name => exact exists_step_unregister lib s name
  | freeze =>
    refine ⟨[], .frozen, rfl, fun hr => hr.freeze, fun _ hop => absurd rfl hop, fun htrue => ?_, ?_⟩
    · change s.registry.freeze = s.registry
      rw [Registry.freeze, ← htrue]
    · exact iff_of_true rfl (.inr rfl)
  | load files path overrides => exact exists_step_load lib s files path overrides
  | loadDirectories files directories => exact exists_step_loadDirectories lib s files directories

end Step

/-! ## Runs -/

/-- An operation answers whether it did something. -/
def Operation.IsEntry : Operation → Prop
  | .register _ _ => True
  | .store _ _ => True
  | .unregister _ => True
  | _ => False

/-- An operation would change what a name stands for. -/
inductive Operation.Attempts (lib : Library) : Operation → String → Prop where
  | register {name : String} {declaration : Value} {d : Definition} (hname : name ≠ "")
    (hd : definitionOf lib name declaration = .ok d) :
    Attempts lib (.register name declaration) name
  | store {name : String} (d : Definition) (hname : name ≠ "") : Attempts lib (.store name d) name
  | unregister (name : String) : Attempts lib (.unregister name) name

/-- What an operation does where it fails, where it removes a name, and where it comes too late. -/
structure Lawful (lib : Library) (s : Shelf) (op : Operation) : Prop where
  /-- To register or to remove without success changes nothing. -/
  unchanged : op.IsEntry → op.reply lib s ≠ .ok (.flag true) →
    (op.next lib s).registry = s.registry
  /-- Removing a name says whether it was there, and removes that name only. -/
  unregister : ∀ name, op = .unregister name → s.registry.frozen = false →
    op.reply lib s = .ok (.flag (s.registry.has name)) ∧
    ∀ m, (op.next lib s).registry.get? m = if name = m then none else s.registry.get? m
  /-- Nothing changes a frozen registry. -/
  stays : s.registry.frozen = true → (op.next lib s).registry = s.registry
  /-- A frozen registry is named as the reason why a name is not changed. -/
  raises : s.registry.frozen = true → ∀ name, op.Attempts lib name →
    op.reply lib s = .error (.frozen name)

section Runs

variable (lib : Library)

/-- To register or to remove without success changes nothing. -/
lemma unchanged_of_reply {s : Shelf} {op : Operation} (hentry : op.IsEntry)
    (hreply : op.reply lib s ≠ .ok (.flag true)) :
    (op.next lib s).registry = s.registry := by
  obtain ⟨new, hstep⟩ := exists_step lib s op
  have hnew : new = [] := by
    have hdid := hstep.did
    generalize op.reply lib s = answer at hdid hreply
    cases hdid with
    | swept _ _ _ => cases hentry
    | overdue _ => cases hentry
    | loaded _ _ => cases hentry
    | registered _ _ => exact absurd rfl hreply
    | stored _ _ => exact absurd rfl hreply
    | removed _ => exact absurd rfl hreply
    | _ => rfl
  refine hstep.idle hnew ?_
  rintro rfl
  cases hentry

/-- Removing a name from a registry that is not frozen. -/
lemma unregister_of_thawed {s : Shelf} (hfrozen : s.registry.frozen = false) (name : String) :
    (Operation.unregister name).reply lib s = .ok (.flag (s.registry.has name)) ∧
      ∀ m, ((Operation.unregister name).next lib s).registry.get? m =
        if name = m then none else s.registry.get? m := by
  have hrun := outcome_bind_pure (unregister name) Reply.flag s
  rw [outcome_unregister, if_neg (ne_true_of_eq_false hfrozen)] at hrun
  rw [Operation.reply, Operation.next, Operation.perform, hrun]
  exact ⟨rfl, Registry.get?_erase s.registry name⟩

/-- Whoever comes too late to change what a name stands for is told so. -/
lemma reply_of_frozen {s : Shelf} (hfrozen : s.registry.frozen = true) {op : Operation}
    {name : String} (hattempts : op.Attempts lib name) :
    op.reply lib s = .error (.frozen name) := by
  cases hattempts with
  | @register _ declaration d hname hd =>
    have hrun := outcome_bind_pure (register lib name declaration) Reply.flag s
    rw [register_eq lib name s hname, hd, outcome_bind_of_ok (outcome_lift s _),
      outcome_store name d s hname, if_pos hfrozen] at hrun
    rw [Operation.reply, Operation.perform, hrun]
    rfl
  | store d hname =>
    have hrun := outcome_bind_pure (store name d) Reply.flag s
    rw [outcome_store name d s hname, if_pos hfrozen] at hrun
    rw [Operation.reply, Operation.perform, hrun]
    rfl
  | unregister =>
    have hrun := outcome_bind_pure (unregister name) Reply.flag s
    rw [outcome_unregister, if_pos hfrozen] at hrun
    rw [Operation.reply, Operation.perform, hrun]
    rfl

/-- An operation on any shelf is lawful. -/
lemma lawful (s : Shelf) (op : Operation) : Lawful lib s op where
  unchanged := unchanged_of_reply lib
  unregister := by
    rintro name rfl hfrozen
    exact unregister_of_thawed lib hfrozen name
  stays := by
    obtain ⟨new, hstep⟩ := exists_step lib s op
    exact hstep.stays
  raises := fun hfrozen _ hattempts => reply_of_frozen lib hfrozen hattempts

/-- One more operation is done at the end of a run. -/
lemma Operation.run_concat (ops : List Operation) (op : Operation) (s : Shelf) :
    Operation.run lib (ops ++ [op]) s = op.next lib (Operation.run lib ops s) := by
  unfold Operation.run
  rw [List.foldl_append]
  rfl

/-- What a run from the beginning has done, and the registry it leads to. -/
lemma exists_history (ops : List Operation) :
    ∃ events, History lib ops (Operation.run lib ops Shelf.empty) events ∧
      (Operation.run lib ops Shelf.empty).registry.get? = Event.replay (fun _ => none) events ∧
      (Operation.run lib ops Shelf.empty).registry.Consistent ∧
      ((Operation.run lib ops Shelf.empty).registry.frozen = true ↔ .freeze ∈ ops) := by
  -- the induction is on the last operation, whose shelf is the one the others led to
  induction ops using List.reverseRecOn with
  | nil => exact ⟨[], .start, rfl, .empty, iff_of_false nofun nofun⟩
  | append_singleton ops op ih =>
    obtain ⟨events, hhistory, hget, hconsistent, hfrozen⟩ := ih
    obtain ⟨new, hstep⟩ := exists_step lib (Operation.run lib ops Shelf.empty) op
    rw [Operation.run_concat]
    refine ⟨new ++ events, .step op hhistory hstep.did, ?_, hstep.consistent hconsistent, ?_⟩
    · rw [hstep.get, hget, Event.replay_append]
    · rw [hstep.frozen_iff, hfrozen, List.mem_append, List.mem_singleton, eq_comm]

/-- A registry that operations led to from the empty one. -/
def Registry.Reachable (r : Registry) : Prop :=
  ∃ ops, r = (Operation.run lib ops Shelf.empty).registry

/-- Storing definitions is a run of operations that store one of them each, up to the first one that
is refused. -/
lemma exists_run_storeAll (ds : List Definition) (s : Shelf) :
    ∃ ops, (outcome (storeAll ds) s).2 = Operation.run lib ops s := by
  induction ds generalizing s with
  | nil => exact ⟨[], rfl⟩
  | cons d ds ih =>
    rcases hstore : outcome (store d.name d) s with ⟨result, t⟩
    have hnext : (Operation.store d.name d).next lib s = t := by
      rw [Operation.next, Operation.perform, outcome_bind_pure, hstore]
    rw [storeAll]
    cases result with
    | error e =>
      rw [outcome_bind_of_error hstore]
      exact ⟨[.store d.name d], hnext.symm⟩
    | ok b =>
      obtain ⟨ops, hops⟩ := ih t
      rw [outcome_bind_of_ok hstore, outcome_bind_pure, hops, ← hnext]
      exact ⟨.store d.name d :: ops, rfl⟩

/-- A registry that is filled with definitions is reachable. -/
lemma Registry.reachable_storeAll (ds : List Definition) :
    Registry.Reachable lib (outcome (storeAll ds) Shelf.empty).2.registry := by
  obtain ⟨ops, hops⟩ := exists_run_storeAll lib ds Shelf.empty
  exact ⟨ops, congrArg Shelf.registry hops⟩

variable {lib}

/-- No operation defines the empty name. -/
lemma Registry.Reachable.get?_empty {r : Registry} (h : r.Reachable lib) : r.get? "" = none := by
  obtain ⟨ops, rfl⟩ := h
  obtain ⟨-, -, -, hconsistent, -⟩ := exists_history lib ops
  rw [Option.eq_none_iff_forall_ne_some]
  intro d hd
  exact (hconsistent.named _ (Registry.mem_of_get? hd)).1 rfl

variable (lib)

/-- Whatever was done to an empty registry, it answers as a finite map in which each name stands for
what was stored under it last.  It is frozen exactly if it was frozen at some time, and every
further operation is lawful. -/
theorem registry_follows_history (ops : List Operation) :
    ∃ events, History lib ops (Operation.run lib ops Shelf.empty) events ∧
      (Operation.run lib ops Shelf.empty).registry.Describes
        (Event.replay (fun _ => none) events) ∧
      ((Operation.run lib ops Shelf.empty).registry.frozen = true ↔ .freeze ∈ ops) ∧
      ∀ op, Lawful lib (Operation.run lib ops Shelf.empty) op := by
  obtain ⟨events, hhistory, hget, hconsistent, hfrozen⟩ := exists_history lib ops
  exact ⟨events, hhistory, hconsistent.describes (congrFun hget), hfrozen, lawful lib _⟩

end Runs

end Operations

open scoped Standard

/-- A directory with a plug-in that registers a name with a description. -/
def describingFiles : Files :=
  Files.none.add "d/m.py"
    (.plugin ⟨none, true, [("x", .map [(.str "description", .str "new")])], none⟩)

/-- A name is registered, overwritten by a plug-in, and removed. -/
def rewriting : List Operation :=
  [.register "x" .null, .loadDirectories describingFiles (.list [.str "d"]), .unregister "x"]

/-- The registry after the first operations of the run. -/
def rewritten (n : Nat) : Registry :=
  (Operation.run .empty (rewriting.take n) Shelf.empty).registry

/-- After each operation of the run the name stands for what was stored under it last, and in the
end for nothing. -/
theorem registry_follows_rewriting :
    ((rewritten 1).get? "x").map (·.description.text) = some "" ∧
    ((rewritten 2).get? "x").map (·.description.text) = some "new" ∧
    (rewritten 3).has "x" = false ∧
    ∀ n, ∃ events, History .empty (rewriting.take n)
        (Operation.run .empty (rewriting.take n) Shelf.empty) events ∧
      (rewritten n).Describes (Event.replay (fun _ => none) events) := by
  refine ⟨by decide +kernel, by decide +kernel, by decide +kernel, fun n => ?_⟩
  obtain ⟨events, hhistory, hdescribes, -⟩ := registry_follows_history .empty (rewriting.take n)
  exact ⟨events, hhistory, hdescribes⟩

end PageTree
