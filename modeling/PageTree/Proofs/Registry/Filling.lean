import PageTree.Proofs.Registry.Table
import PageTree.Registry.Loading

/-!
# What filling does to a registry

A computation on a shelf gives a result or a fault, and in both cases it leaves a shelf
(`outcome`).  A sequence of computations ends with the first fault (`outcome_bind_of_ok`,
`outcome_bind_of_error`), and a load of directories is such a sequence (`loadNames_cons`,
`loadLabelled_cons`).
-/

namespace PageTree

namespace Registry

/-- The registry after some definitions were stored one after the other. -/
def insertAll (r : Registry) (added : List (String × Definition)) : Registry :=
  added.foldl (fun r e => r.insert e.1 e.2) r

/-- Storing definitions does not freeze a registry. -/
lemma frozen_insertAll (r : Registry) (added : List (String × Definition)) :
    (r.insertAll added).frozen = r.frozen := by
  unfold insertAll
  induction added generalizing r with
  | nil => rfl
  | cons e added ih => exact ih (r.insert e.1 e.2)

/-- Storing definitions under names keeps a registry consistent. -/
lemma Consistent.insertAll {r : Registry} (h : Consistent r) {added : List (String × Definition)}
    (hnamed : ∀ e ∈ added, e.1 ≠ "") : Consistent (r.insertAll added) := by
  unfold Registry.insertAll
  induction added generalizing r with
  | nil => exact h
  | cons e added ih =>
    have hfirst := h.insert (hnamed e List.mem_cons_self) e.2
    exact ih hfirst fun f hf => hnamed f (List.mem_cons_of_mem e hf)

end Registry

namespace Filling

variable {α β : Type}

/-- What a computation gives on a shelf, and the shelf that it leaves. -/
def outcome (x : Filling α) (s : Shelf) : Except RegistryFault α × Shelf :=
  x.run s

/-! ## Running sequences -/

section Run

variable (s : Shelf)

@[simp] lemma outcome_pure (a : α) : outcome (pure a) s = (.ok a, s) := rfl

@[simp] lemma outcome_registry : outcome registry s = (.ok s.registry, s) := rfl

@[simp] lemma outcome_lift (x : Except RegistryFault α) : outcome (lift x) s = (x, s) := rfl

@[simp] lemma outcome_warn (text : String) :
    outcome (warn text) s = (.ok (), { s with notices := s.notices ++ [Notice.warn text] }) := rfl

@[simp] lemma outcome_replace (r : Registry) :
    outcome (replace r) s = (.ok (), { s with registry := r }) := rfl

variable {s}

/-- After a result the computation goes on with it. -/
lemma outcome_bind_of_ok {x : Filling α} {a : α} {t : Shelf} (h : outcome x s = (.ok a, t))
    (f : α → Filling β) : outcome (x >>= f) s = outcome (f a) t := by
  have hbind : outcome (x >>= f) s = ExceptT.bindCont f (outcome x s).1 (outcome x s).2 := rfl
  rw [hbind, h]
  rfl

/-- After a fault the computation ends. -/
lemma outcome_bind_of_error {x : Filling α} {e : RegistryFault} {t : Shelf}
    (h : outcome x s = (.error e, t)) (f : α → Filling β) :
    outcome (x >>= f) s = (.error e, t) := by
  have hbind : outcome (x >>= f) s = ExceptT.bindCont f (outcome x s).1 (outcome x s).2 := rfl
  rw [hbind, h]
  rfl

/-- A result is changed after the computation. -/
lemma outcome_bind_pure (c : Filling α) (g : α → β) (s : Shelf) :
    outcome (c >>= fun a => pure (g a)) s = ((outcome c s).1.map g, (outcome c s).2) := by
  rcases hrun : outcome c s with ⟨result, t⟩
  cases result with
  | error e =>
    rw [outcome_bind_of_error hrun]
    rfl
  | ok a =>
    rw [outcome_bind_of_ok hrun]
    rfl

/-- A result is not caught. -/
lemma outcome_tryCatch_of_ok {x : Filling α} {a : α} {t : Shelf} (h : outcome x s = (.ok a, t))
    (f : RegistryFault → Filling α) : outcome (tryCatch x f) s = (.ok a, t) := by
  have hx : x s = (.ok a, t) := h
  simp only [outcome, ExceptT.run, tryCatch, tryCatchThe, MonadExceptOf.tryCatch,
    ExceptT.tryCatch, ExceptT.mk, bind, StateT.bind, hx]
  rfl

/-- A fault is caught with the shelf that is left. -/
lemma outcome_tryCatch_of_error {x : Filling α} {e : RegistryFault} {t : Shelf}
    (h : outcome x s = (.error e, t)) (f : RegistryFault → Filling α) :
    outcome (tryCatch x f) s = outcome (f e) t := by
  have hx : x s = (.error e, t) := h
  simp only [outcome, ExceptT.run, tryCatch, tryCatchThe, MonadExceptOf.tryCatch,
    ExceptT.tryCatch, ExceptT.mk, bind, StateT.bind, hx]

end Run

/-! ## Storing and removing -/

section Store

variable (lib : Library) (name : String) (d : Definition) (s : Shelf)

/-- A definition without a name is refused with a warning. -/
lemma outcome_refuse : (outcome refuse s).1 = .ok false ∧
    (outcome refuse s).2.registry = s.registry :=
  ⟨rfl, rfl⟩

/-- A definition with a name is stored, or the registry is frozen. -/
lemma outcome_store (hname : name ≠ "") : outcome (store name d) s =
    if s.registry.frozen then (.error (.frozen name), s)
    else (.ok true, { s with registry := s.registry.insert name d }) := by
  rw [store, if_neg hname, outcome_bind_of_ok (outcome_registry s)]
  by_cases hfrozen : s.registry.frozen = true
  · have hput : s.registry.put name d = .error (.frozen name) := if_pos hfrozen
    rw [if_pos hfrozen, hput, outcome_bind_of_error (outcome_lift s _)]
  · have hput : s.registry.put name d = .ok (s.registry.insert name d) := if_neg hfrozen
    rw [if_neg hfrozen, hput, outcome_bind_of_ok (outcome_lift s _),
      outcome_bind_of_ok (outcome_replace s _), outcome_pure]

/-- A name is removed, or the registry is frozen. -/
lemma outcome_unregister : outcome (unregister name) s =
    if s.registry.frozen then (.error (.frozen name), s)
    else (.ok (s.registry.has name), { s with registry := s.registry.erase name }) := by
  rw [unregister, outcome_bind_of_ok (outcome_registry s)]
  by_cases hfrozen : s.registry.frozen = true
  · have hremove : s.registry.remove name = .error (.frozen name) := if_pos hfrozen
    rw [if_pos hfrozen, hremove, outcome_bind_of_error (outcome_lift s _)]
  · have hremove : s.registry.remove name = .ok (s.registry.has name, s.registry.erase name) :=
      if_neg hfrozen
    rw [if_neg hfrozen, hremove, outcome_bind_of_ok (outcome_lift s _),
      outcome_bind_of_ok (outcome_replace s _), outcome_pure]

/-- The definition that a declaration gives under a name; nothing gives a blank one. -/
def definitionOf (lib : Library) (name : String) : Value → Except RegistryFault Definition
  | .null => .ok (Definition.blank name)
  | .map entries => Definition.ofDeclaration lib none name entries
  | v => .error (.fault (.noOperation v.kind "name"))

/-- Under a name that is not empty, a declaration is made a definition, and this is stored. -/
lemma register_of_named (hname : name ≠ "") (declaration : Value) :
    register lib name declaration = lift (definitionOf lib name declaration) >>= store name := by
  unfold register
  rw [if_neg hname]
  cases declaration <;> rfl

lemma register_eq (hname : name ≠ "") (declaration : Value) :
    outcome (register lib name declaration) s =
      outcome (lift (definitionOf lib name declaration) >>= store name) s := by
  rw [register_of_named lib name hname]

end Store

/-! ## Loads of directories -/

section Loading

variable [YamlLibrary] (lib : Library) (files : Files)

/-- The files of a directory are loaded one after the other. -/
lemma loadNames_cons (directory : Path) (name : String) (names : List String) :
    loadNames lib files directory (name :: names) =
      (if isHidden name || files.isDirectory (directory.child name) then pure []
        else loadFile lib files (directory.child name)) >>= fun first =>
      loadNames lib files directory names >>= fun others => pure (first ++ others) := by
  rw [loadNames]
  split <;> rfl

/-- Loads a labelled directory; a missing one is worth a warning. -/
def loadDirectory (label : String) (directory : Path) : Filling (List String) :=
  if files.isDirectory directory then loadNames lib files directory (files.namesIn directory)
  else
    warn ("Component directory not found (" ++ label ++ "): " ++ directory.text) >>= fun _ =>
      pure []

/-- Labelled directories are loaded one after the other. -/
lemma loadLabelled_cons (item : String × Value) (items : List (String × Value)) :
    loadLabelled lib files (item :: items) =
      lift (directoryOf files item.2) >>= fun directory =>
      loadDirectory lib files item.1 directory >>= fun first =>
      loadLabelled lib files items >>= fun others => pure (first ++ others) := by
  obtain ⟨label, directory⟩ := item
  rw [loadLabelled]
  unfold loadDirectory
  refine bind_congr fun directory => ?_
  split <;> rfl

end Loading

end Filling

end PageTree
