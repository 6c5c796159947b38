import Mathlib.Tactic.Lemma
import PageTree.Context
import PageTree.Proofs.Value.Entries
import PageTree.Proofs.Value.Mapping

/-!
# Nested requests

`Scopes` keeps the contexts of nested requests in a stack.  A process keeps them in another way: it
makes one store after the other, a variable says which of them is in use, and whoever enters a scope
remembers what was in use before.  A store outside all scopes is made when it is first asked for.
`Stores` is this second picture, in which it can be said that a store is the same as before, and
`Shows` relates the two; every operation preserves it (`Shows.step`).

What properly nested operations do is said once (`Writes`): they merge the entries that are set
outside their own scopes over the store in use, and leave everything else as it was.  A scope with
properly nested operations inside brings back what was in use, and all stores that were there are
as they were (`exists_restores`).  Both are proved along the nesting, and hold from every state.
-/

namespace PageTree

/-- What is done with the contexts of nested requests. -/
inductive ScopeOp where
  | enter (entries named : Entries)
  | leave
  /-- Merges entries over the current context. -/
  | set (entries : Entries)
  /-- Asks for the current context. -/
  | get

/-- The context that is made where none is in use. -/
def Context.initial : Context :=
  ⟨seeded .null .null⟩

/-- Operations that leave each scope that they enter, and no other, with the entries that they set
outside these scopes. -/
inductive Nested : List ScopeOp → List Entries → Prop where
  | nil : Nested [] []
  | get {ops : List ScopeOp} {ws : List Entries} (h : Nested ops ws) : Nested (.get :: ops) ws
  | set {ops : List ScopeOp} {ws : List Entries} (entries : Entries) (h : Nested ops ws) :
      Nested (.set entries :: ops) (entries :: ws)
  | scope {inner ops : List ScopeOp} {vs ws : List Entries} (entries named : Entries)
      (hinner : Nested inner vs) (h : Nested ops ws) :
      Nested (.enter entries named :: inner ++ .leave :: ops) ws

/-- Operations of which nothing but the end may be missing: some scopes are still open. -/
inductive Proper : List ScopeOp → Prop where
  | outside {history : List ScopeOp} {ws : List Entries} (h : Nested history ws) : Proper history
  | inside {before inner : List ScopeOp} {ws : List Entries} (entries named : Entries)
      (hbefore : Proper before) (hinner : Nested inner ws) :
      Proper (before ++ .enter entries named :: inner)

/-- Does one operation on a stack of contexts, unless it leaves a scope where none is open. -/
def Scopes.step (s : Scopes) : ScopeOp → Option Scopes
  | .enter entries named => some (s.enter entries named)
  | .leave => s.leave?.map Prod.snd
  | .set entries => some (s.set entries)
  | .get => some s.current.2

/-- Does operations one after the other. -/
def Scopes.run (ops : List ScopeOp) (s : Scopes) : Option Scopes :=
  ops.foldlM Scopes.step s

/-- Stores that were made one after the other.  A store is known by its number. -/
structure Stores where
  made : List Context
  /-- The number of the store in use. -/
  current : Option Nat
  /-- What was in use when each open scope was entered, innermost first. -/
  saved : List (Option Nat)

namespace Stores

/-- No store has been made. -/
def none : Stores where
  made := []
  current := Option.none
  saved := []

/-- Makes a store and takes it into use. -/
def make (s : Stores) (c : Context) : Stores :=
  { s with made := s.made ++ [c], current := some s.made.length }

/-- The number of the store in use, which is made if there is none. -/
def get (s : Stores) : Nat × Stores :=
  match s.current with
  | some i => (i, s)
  | Option.none => (s.made.length, s.make Context.initial)

/-- Merges entries over the store in use. -/
def set (s : Stores) (entries : Entries) : Stores :=
  { s.get.2 with made := s.get.2.made.modify s.get.1 (·.set entries) }

/-- Enters a scope with a store of its own. -/
def enter (s : Stores) (entries named : Entries) : Stores :=
  { s.make (Context.request entries named) with saved := s.current :: s.saved }

/-- Leaves the innermost scope. -/
def leave? (s : Stores) : Option Stores :=
  match s.saved with
  | [] => Option.none
  | current :: saved => some { s with current, saved }

/-- Does one operation, unless it leaves a scope where none is open. -/
def step (s : Stores) : ScopeOp → Option Stores
  | .enter entries named => some (s.enter entries named)
  | .leave => s.leave?
  | .set entries => some (s.set entries)
  | .get => some s.get.2

/-- Does operations one after the other. -/
def run (ops : List ScopeOp) (s : Stores) : Option Stores :=
  ops.foldlM step s

/-- What the store in use holds; without one, what it would be made with. -/
def context (s : Stores) : Context :=
  (s.current.bind (s.made[·]?)).getD Context.initial

/-- The number of the store in use is that of a store. -/
def Valid (s : Stores) : Prop :=
  ∀ i, s.current = some i → i < s.made.length

/-- One operation, and then the others. -/
lemma run_cons (op : ScopeOp) (ops : List ScopeOp) (s : Stores) :
    run (op :: ops) s = (s.step op).bind (run ops) :=
  List.foldlM_cons

/-- Some operations, and then the others. -/
lemma run_append (ops others : List ScopeOp) (s : Stores) :
    run (ops ++ others) s = (run ops s).bind (run others) :=
  List.foldlM_append

/-! ## The store in use -/

/-- Without a store in use, one is made. -/
lemma get_of_none {s : Stores} (h : s.current = Option.none) :
    s.get = (s.made.length, s.make Context.initial) := by
  rw [get, h]

/-- A store in use stays in use. -/
lemma get_of_some {s : Stores} {i : Nat} (h : s.current = some i) : s.get = (i, s) := by
  rw [get, h]

/-- What the store in use holds. -/
lemma context_of_some {s : Stores} {i : Nat} (h : s.current = some i) :
    s.context = (s.made[i]?).getD Context.initial := by
  rw [context, h]
  rfl

/-- What would be in use if it were asked for. -/
lemma context_of_none {s : Stores} (h : s.current = Option.none) :
    s.context = Context.initial := by
  rw [context, h]
  rfl

/-! ## Nested operations -/

/-- On the way from `s` to `t`, entries were merged over the store in use, one after the other, and
nothing else was changed: the same store is in use, a new one only if there was none, and what the
open scopes remember and what the other stores hold is as it was. -/
structure Writes (s : Stores) (ws : List Entries) (t : Stores) : Prop where
  valid : t.Valid
  context : t.context = ws.foldl Context.set s.context
  stays : ∀ i, s.current = some i → t.current = some i
  fresh : ∀ i, t.current = some i → s.current = some i ∨ s.made.length ≤ i
  saved : t.saved = s.saved
  others : ∀ i < s.made.length, s.current ≠ some i → t.made[i]? = s.made[i]?
  grows : s.made.length ≤ t.made.length

/-- From `s` to `t` stores were made, and nothing else was changed. -/
structure Restores (s t : Stores) : Prop where
  current : t.current = s.current
  saved : t.saved = s.saved
  made : ∀ i < s.made.length, t.made[i]? = s.made[i]?
  grows : s.made.length ≤ t.made.length

/-- Where stores are made and nothing else is changed, nothing is written. -/
lemma Restores.writes {s t : Stores} (h : Restores s t) (hs : s.Valid) : Writes s [] t where
  valid i hi := Nat.lt_of_lt_of_le (hs i (h.current ▸ hi)) h.grows
  context := by
    cases hcurrent : s.current with
    | none => rw [context_of_none hcurrent, context_of_none (h.current.trans hcurrent)]; rfl
    | some i =>
      rw [context_of_some hcurrent, context_of_some (h.current.trans hcurrent),
        h.made i (hs i hcurrent)]
      rfl
  stays i hi := h.current.trans hi
  fresh i hi := .inl (h.current ▸ hi)
  saved := h.saved
  others i hi _ := h.made i hi
  grows := h.grows

variable {s t u : Stores} {ws vs : List Entries}

/-- To do nothing writes nothing. -/
lemma writes_refl (hs : s.Valid) : Writes s [] s :=
  Restores.writes ⟨rfl, rfl, fun _ _ => rfl, Nat.le_refl _⟩ hs

/-- What is written first and then is written together. -/
lemma Writes.trans (h : Writes s ws t) (h' : Writes t vs u) : Writes s (ws ++ vs) u where
  valid := h'.valid
  context := by rw [h'.context, h.context, List.foldl_append]
  stays i hi := h'.stays i (h.stays i hi)
  fresh i hi := by
    rcases h'.fresh i hi with hi | hi
    · exact h.fresh i hi
    · exact .inr (Nat.le_trans h.grows hi)
  saved := h'.saved.trans h.saved
  others i hi hne := by
    have hne' : t.current ≠ some i := by
      intro ht
      rcases h.fresh i ht with hs | hge
      · exact hne hs
      · exact absurd hi (Nat.not_lt.mpr hge)
    rw [h'.others i (Nat.lt_of_lt_of_le hi h.grows) hne', h.others i hi hne]
  grows := Nat.le_trans h.grows h'.grows

/-- A store that is made stands behind the others. -/
lemma made_make (s : Stores) (c : Context) :
    (s.make c).made[s.made.length]? = some c ∧
      ∀ i < s.made.length, (s.make c).made[i]? = s.made[i]? :=
  ⟨List.getElem?_concat_length, fun _ hi => List.getElem?_append_left hi⟩

/-- A store that is made is in use, and holds what it was made with. -/
lemma context_make (s : Stores) (c : Context) : (s.make c).context = c := by
  have hcurrent : (s.make c).current = some s.made.length := rfl
  rw [context_of_some hcurrent, (made_make s c).1]
  rfl

/-- The store that is made is there. -/
lemma valid_make (s : Stores) (c : Context) : (s.make c).Valid := by
  rintro i hi
  cases hi
  rw [make, List.length_append]
  exact Nat.lt_succ_self _

/-- A scope that is entered has a store of its own. -/
lemma enter_spec (s : Stores) (entries named : Entries) :
    (s.enter entries named).Valid ∧ (s.enter entries named).current = some s.made.length ∧
      (s.enter entries named).context = Context.request entries named :=
  ⟨valid_make s _, rfl, context_make s _⟩

/-- To ask for the store in use writes nothing, and it is in use afterwards. -/
lemma writes_get (hs : s.Valid) : Writes s [] s.get.2 ∧ s.get.2.current = some s.get.1 := by
  cases h : s.current with
  | some i =>
    rw [get_of_some h]
    exact ⟨writes_refl hs, h⟩
  | none =>
    rw [get_of_none h]
    refine ⟨{ valid := valid_make s _, context := ?_, stays := ?_, fresh := ?_, saved := rfl,
              others := fun i hi _ => (made_make s _).2 i hi, grows := ?_ }, rfl⟩
    · rw [context_make, context_of_none h]
      rfl
    · rw [h]
      nofun
    · intro i hi
      cases hi
      exact .inr (Nat.le_refl _)
    · rw [make, List.length_append]
      exact Nat.le_add_right _ _

/-- Entries are merged over what the store in use holds. -/
lemma context_write {i : Nat} (h : s.current = some i) (hlt : i < s.made.length)
    (entries : Entries) :
    ({ s with made := s.made.modify i (·.set entries) } : Stores).context =
      s.context.set entries := by
  have hafter : ({ s with made := s.made.modify i (·.set entries) } : Stores).current = some i := h
  rw [context_of_some hafter, context_of_some h, List.getElem?_modify_eq,
    List.getElem?_eq_getElem hlt]
  rfl

/-- Setting entries writes them into the store in use. -/
lemma writes_set (hs : s.Valid) (entries : Entries) : Writes s [entries] (s.set entries) := by
  obtain ⟨hget, hcurrent⟩ := writes_get hs
  suffices hset : Writes s.get.2 [entries] (s.set entries) from hget.trans hset
  rw [set]
  generalize s.get.2 = t at hget hcurrent ⊢
  generalize s.get.1 = i at hcurrent ⊢
  have hlt : i < t.made.length := hget.valid i hcurrent
  have hlength := List.length_modify (fun c => Context.set c entries) t.made i
  exact {
    valid := fun j hj => hlength ▸ hget.valid j hj
    context := context_write hcurrent hlt entries
    stays := fun _ hj => hj
    fresh := fun _ hj => .inl hj
    saved := rfl
    others := fun j _ hne => List.getElem?_modify_ne _ _ fun h => hne (h ▸ hcurrent)
    grows := Nat.le_of_eq hlength.symm }

/-- A scope with a store of its own is entered, and nested operations in it change no store that was
there.  When it is left, what was in use is in use again. -/
lemma exists_restores {inner : List ScopeOp}
    (hinner : ∀ s : Stores, s.Valid → ∃ t, run inner s = some t ∧ Writes s vs t) (s : Stores)
    (entries named : Entries) :
    ∃ t u, run (.enter entries named :: inner) s = some t ∧
      Writes (s.enter entries named) vs t ∧ (∀ i < s.made.length, t.made[i]? = s.made[i]?) ∧
      run (.enter entries named :: inner ++ [.leave]) s = some u ∧ Restores s u := by
  obtain ⟨hvalid, hcurrent, -⟩ := enter_spec s entries named
  obtain ⟨t, ht, hwrites⟩ := hinner _ hvalid
  have hrun : run (.enter entries named :: inner) s = some t := ht
  have hgrows : s.made.length ≤ (s.enter entries named).made.length := by
    rw [enter, make, List.length_append]
    exact Nat.le_add_right _ _
  have hmade : ∀ i < s.made.length, t.made[i]? = s.made[i]? := by
    intro i hi
    -- the store in use is a new one
    have hne : (s.enter entries named).current ≠ some i := fun h =>
      absurd hi (Nat.not_lt.mpr (Nat.le_of_eq (Option.some.inj (hcurrent.symm.trans h))))
    rw [hwrites.others i (Nat.lt_of_lt_of_le hi hgrows) hne]
    exact (made_make s _).2 i hi
  refine ⟨t, { t with current := s.current, saved := s.saved }, hrun, hwrites, hmade, ?_, rfl, rfl,
    hmade, Nat.le_trans hgrows hwrites.grows⟩
  rw [run_append, hrun, Option.bind_some, run_cons, step, leave?, hwrites.saved]
  rfl

/-- Nested operations can be done, and they write their entries into the store in use. -/
theorem exists_writes {ops : List ScopeOp} (h : Nested ops ws) (hs : s.Valid) :
    ∃ t, run ops s = some t ∧ Writes s ws t := by
  induction h generalizing s with
  | nil => exact ⟨s, rfl, writes_refl hs⟩
  | get _ ih =>
    obtain ⟨hget, -⟩ := writes_get hs
    obtain ⟨t, ht, hwrites⟩ := ih hget.valid
    exact ⟨t, ht, hget.trans hwrites⟩
  | set entries _ ih =>
    have hset := writes_set hs entries
    obtain ⟨t, ht, hwrites⟩ := ih hset.valid
    exact ⟨t, ht, hset.trans hwrites⟩
  | scope entries named _ _ ihinner ih =>
    obtain ⟨-, t, -, -, -, ht, hrestores⟩ := exists_restores (fun _ => ihinner) s entries named
    have hscope := hrestores.writes hs
    obtain ⟨u, hu, hwrites⟩ := ih hscope.valid
    refine ⟨u, ?_, hscope.trans hwrites⟩
    rw [List.append_cons, run_append, ht, Option.bind_some, hu]

/-! ## Stores and stacks -/

/-- A stack of contexts has what the stores hold: that of the store in use on top, and below it
those that are in use when the open scopes are left.  The store of a scope is younger than those
below it, so that no two places of the stack are one store. -/
inductive Stacks (made : List Context) : Option Nat → List (Option Nat) → Scopes → Prop where
  | unused : Stacks made Option.none [] .none
  | outside {i : Nat} {c : Context} (h : made[i]? = some c) : Stacks made (some i) [] ⟨[], some c⟩
  | inside {i : Nat} {c : Context} {current : Option Nat} {saved : List (Option Nat)}
      {inner : List Context} {outer : Option Context} (h : made[i]? = some c)
      (hyounger : ∀ j, some j ∈ current :: saved → j < i)
      (hrest : Stacks made current saved ⟨inner, outer⟩) :
      Stacks made (some i) (current :: saved) ⟨c :: inner, outer⟩

/-- A stack of contexts shows what the stores hold. -/
def Shows (s : Stores) (σ : Scopes) : Prop :=
  Stacks s.made s.current s.saved σ

variable {σ τ : Scopes} {made : List Context} {current : Option Nat} {saved : List (Option Nat)}

/-- Stores that stand in a stack have been made. -/
lemma Stacks.lt_length (h : Stacks made current saved σ) :
    ∀ i, some i ∈ current :: saved → i < made.length := by
  induction h with
  | unused => simp
  | outside h =>
    obtain ⟨hlt, -⟩ := List.getElem?_eq_some_iff.mp h
    simpa using hlt
  | inside h _ _ ih =>
    obtain ⟨hlt, -⟩ := List.getElem?_eq_some_iff.mp h
    intro j hj
    rcases List.mem_cons.mp hj with hj | hj
    · cases hj
      exact hlt
    · exact ih j hj

/-- A stack stays as it is when its stores do. -/
lemma Stacks.congr (h : Stacks made current saved σ) {others : List Context}
    (hmade : ∀ i, some i ∈ current :: saved → others[i]? = made[i]?) :
    Stacks others current saved σ := by
  induction h with
  | unused => exact .unused
  | outside h => exact .outside ((hmade _ List.mem_cons_self).trans h)
  | inside h hyounger _ ih =>
    refine .inside ((hmade _ List.mem_cons_self).trans h) hyounger (ih fun j hj => ?_)
    exact hmade j (List.mem_cons_of_mem _ hj)

/-- Stores are shown by one stack only. -/
lemma Stacks.unique (h : Stacks made current saved σ) (h' : Stacks made current saved τ) :
    σ = τ := by
  induction h generalizing τ with
  | unused =>
    cases h'
    rfl
  | outside h =>
    cases h' with
    | outside h' =>
      rw [h] at h'
      cases h'
      rfl
  | inside h _ _ ih =>
    cases h' with
    | inside h' _ hrest' =>
      rw [h] at h'
      cases h'
      cases ih hrest'
      rfl

/-- Without stores there are no contexts. -/
lemma shows_none : Shows none .none :=
  .unused

/-- The store in use has been made. -/
lemma Shows.valid (h : s.Shows σ) : s.Valid :=
  fun i hi => h.lt_length i (hi ▸ List.mem_cons_self)

/-- Where stores are made and nothing else is changed, the stack stays as it is. -/
lemma Shows.of_restores (h : s.Shows σ) (hrestores : Restores s t) : t.Shows σ := by
  rw [Shows, hrestores.current, hrestores.saved]
  exact h.congr fun i hi => hrestores.made i (h.lt_length i hi)

/-- The current context is what the store in use holds. -/
lemma Shows.context (h : s.Shows σ) : σ.current.1 = s.context := by
  obtain ⟨made, current, saved⟩ := s
  cases h with
  | unused => rfl
  | outside h | inside h =>
    rw [context_of_some rfl, h]
    rfl

/-- Entering a scope makes a store for the top of the stack. -/
lemma Shows.enter (h : s.Shows σ) (entries named : Entries) :
    (s.enter entries named).Shows (σ.enter entries named) := by
  obtain ⟨hnew, hold⟩ := made_make s (Context.request entries named)
  refine .inside hnew h.lt_length ?_
  exact h.congr fun i hi => hold i (h.lt_length i hi)

/-- Asking for the current context makes a store if there is none. -/
lemma Shows.get (h : s.Shows σ) : s.get.2.Shows σ.current.2 := by
  obtain ⟨made, current, saved⟩ := s
  cases h with
  | unused => exact .outside (made_make ⟨made, Option.none, []⟩ Context.initial).1
  | outside h => exact .outside h
  | inside h hyounger hrest => exact .inside h hyounger hrest

/-- Entries are merged over the store in use, and so over the top of the stack. -/
lemma Shows.set (h : s.Shows σ) (entries : Entries) : (s.set entries).Shows (σ.set entries) := by
  have hset : σ.set entries = σ.current.2.set entries := by
    obtain ⟨inner, outer⟩ := σ
    cases inner <;> rfl
  obtain ⟨-, hcurrent⟩ := writes_get h.valid
  have hget := h.get
  rw [hset, Stores.set]
  generalize σ.current.2 = τ at hget ⊢
  generalize s.get.1 = i at hcurrent ⊢
  generalize s.get.2 = t at hcurrent hget ⊢
  obtain ⟨made, current, saved⟩ := t
  obtain rfl : current = some i := hcurrent
  cases hget with
  | outside h =>
    refine .outside ?_
    rw [List.getElem?_modify_eq, h]
    rfl
  | inside h hyounger hrest =>
    refine .inside ?_ hyounger (hrest.congr fun j hj => ?_)
    · rw [List.getElem?_modify_eq, h]
      rfl
    · exact List.getElem?_modify_ne _ _ (Nat.ne_of_gt (hyounger j hj))

/-- An operation on the stores and on the stack that shows them is refused in both pictures, or it
is done in both. -/
theorem Shows.step (h : s.Shows σ) (op : ScopeOp) :
    Option.Rel Shows (s.step op) (σ.step op) := by
  cases op with
  | enter entries named => exact .some (h.enter entries named)
  | set entries => exact .some (h.set entries)
  | get => exact .some h.get
  | leave =>
    obtain ⟨made, current, saved⟩ := s
    cases h with
    | unused | outside => exact .none
    | inside _ _ hrest => exact .some hrest

/-- Operations on the stores and on the stack that shows them are refused in both pictures, or they
are done in both. -/
theorem Shows.run (h : s.Shows σ) (ops : List ScopeOp) :
    Option.Rel Shows (s.run ops) (σ.run ops) := by
  induction ops generalizing s σ with
  | nil => exact .some h
  | cons op ops ih =>
    have hstep := h.step op
    rw [run_cons, Scopes.run, List.foldlM_cons, Option.bind_eq_bind]
    generalize s.step op = x at hstep ⊢
    generalize σ.step op = y at hstep ⊢
    cases hstep with
    | none => exact .none
    | some hnext => exact ih hnext

/-! ## Histories -/

/-- The store that is in use after a history from the beginning.  Inside a scope it is the one that
was made when the scope was entered, after all stores from before, and it holds what it was made
with and what was set outside the scopes within; outside all scopes it starts with the initial
context. -/
inductive InUse : List ScopeOp → Stores → Prop where
  | outside {history : List ScopeOp} {ws : List Entries} {s : Stores} (h : Nested history ws)
      (saved : s.saved = []) (context : s.context = ws.foldl Context.set Context.initial) :
      InUse history s
  | inside {before inner : List ScopeOp} {ws : List Entries} {t s : Stores}
      (entries named : Entries) (hbefore : run before none = some t) (hinner : Nested inner ws)
      (current : s.current = some t.made.length) (saved : s.saved = t.current :: t.saved)
      (context : s.context = ws.foldl Context.set (Context.request entries named)) :
      InUse (before ++ .enter entries named :: inner) s

/-- A proper history can be done, and the store of the innermost open scope is in use after it. -/
lemma exists_inUse {history : List ScopeOp} (h : Proper history) :
    ∃ s, run history none = some s ∧ s.Valid ∧ InUse history s := by
  induction h with
  | outside h =>
    have hvalid : none.Valid := nofun
    obtain ⟨s, hs, hwrites⟩ := exists_writes h hvalid
    exact ⟨s, hs, hwrites.valid, .outside h hwrites.saved hwrites.context⟩
  | @inside before inner ws entries named _ hinner ih =>
    obtain ⟨t, ht, -, -⟩ := ih
    obtain ⟨hvalid, hcurrent, hcontext⟩ := enter_spec t entries named
    obtain ⟨s, hs, hwrites⟩ := exists_writes hinner hvalid
    refine ⟨s, ?_, hwrites.valid, .inside entries named ht hinner (hwrites.stays _ hcurrent)
      hwrites.saved (hcontext ▸ hwrites.context)⟩
    rw [run_append, ht, Option.bind_some, run_cons]
    exact hs

/-- What holds wherever a history may have led.  The current context is what the store in use
holds.  That store stays in use when other scopes are entered and left, and gets nothing but what is
set outside them.  A scope that is entered has a new store, made of what was given.  When it is left
after nested operations, the stack is the one from before: the store from before is in use again,
and every store that was there holds what it held. -/
structure Isolated (s : Stores) (σ : Scopes) : Prop where
  current : s.get.2.made[s.get.1]? = some σ.current.1
  stays : ∀ ops ws, Nested ops ws → ∃ t τ, run (.get :: ops) s = some t ∧
    Scopes.run (.get :: ops) σ = some τ ∧ t.get = (s.get.1, t) ∧
    τ.current.1 = ws.foldl Context.set σ.current.1
  entered : ∀ entries named inner ws, Nested inner ws → ∃ t τ,
    run (.enter entries named :: inner) s = some t ∧
    Scopes.run (.enter entries named :: inner) σ = some τ ∧ t.get = (s.made.length, t) ∧
    τ.current.1 = ws.foldl Context.set (Context.request entries named) ∧
    ∀ i < s.made.length, t.made[i]? = s.made[i]?
  restored : ∀ entries named inner ws, Nested inner ws → ∃ u,
    run (.enter entries named :: inner ++ [.leave]) s = some u ∧
    Scopes.run (.enter entries named :: inner ++ [.leave]) σ = some σ ∧
    u.current = s.current ∧ ∀ i < s.made.length, u.made[i]? = s.made[i]?

/-- Operations that can be done on the stores can be done on the stack that shows them. -/
lemma Shows.exists_run (h : s.Shows σ) {ops : List ScopeOp} (ht : s.run ops = some t) :
    ∃ τ, Scopes.run ops σ = some τ ∧ t.Shows τ := by
  have hrun := h.run ops
  rw [ht] at hrun
  generalize Scopes.run ops σ = y at hrun ⊢
  cases hrun with
  | some hshows => exact ⟨_, rfl, hshows⟩

/-- Stores and the stack that shows them are isolated. -/
lemma Shows.isolated (h : s.Shows σ) : Isolated s σ where
  current := by
    obtain ⟨hget, hcurrent⟩ := writes_get h.valid
    have hlt := hget.valid _ hcurrent
    have hcontext := context_of_some hcurrent
    rw [List.getElem?_eq_getElem hlt, Option.getD_some] at hcontext
    rw [List.getElem?_eq_getElem hlt, h.context, ← hcontext, hget.context]
    rfl
  stays ops ws hops := by
    obtain ⟨hget, hcurrent⟩ := writes_get h.valid
    obtain ⟨t, ht, hwrites⟩ := exists_writes hops hget.valid
    have hrun : s.run (.get :: ops) = some t := ht
    obtain ⟨τ, hτ, hshows⟩ := h.exists_run hrun
    refine ⟨t, τ, hrun, hτ, get_of_some (hwrites.stays _ hcurrent), ?_⟩
    rw [hshows.context, hwrites.context, hget.context, h.context]
    rfl
  entered entries named inner ws hinner := by
    obtain ⟨-, hcurrent, hcontext⟩ := enter_spec s entries named
    obtain ⟨t, -, ht, hwrites, hmade, -, -⟩ :=
      exists_restores (fun _ => exists_writes hinner) s entries named
    obtain ⟨τ, hτ, hshows⟩ := h.exists_run ht
    refine ⟨t, τ, ht, hτ, get_of_some (hwrites.stays _ hcurrent), ?_, hmade⟩
    rw [hshows.context, hwrites.context, hcontext]
  restored entries named inner ws hinner := by
    obtain ⟨-, u, -, -, -, hu, hrestores⟩ :=
      exists_restores (fun _ => exists_writes hinner) s entries named
    obtain ⟨τ, hτ, hshows⟩ := h.exists_run hu
    obtain rfl := Stacks.unique hshows (h.of_restores hrestores)
    exact ⟨u, hu, hτ, hrestores.current, hrestores.made⟩

end Stores

/-- The context of a new request has the two entries of every request.  What it gives for a name is
the named entry, or else the given one, or else the one that every request starts with. -/
lemma Context.request_spec {entries named : Entries} (hentries : Entries.Distinct entries)
    (hnamed : Entries.Distinct named) :
    (Context.request entries named).has (.str Context.documentKey) = true ∧
      (Context.request entries named).has (.str Context.queryKey) = true ∧
      ∀ k, (Context.request entries named).get? k =
        ((Entries.get? named k).or (Entries.get? entries k)).or (Context.initial.get? k) := by
  have hhas : ∀ k, Context.initial.has k = true → (Context.request entries named).has k = true :=
    fun k h => Entries.has_merge (Entries.has_merge h entries) named
  refine ⟨hhas _ rfl, hhas _ rfl, fun k => ?_⟩
  rw [Context.request, Context.set, Context.get?, Entries.get?_merge _ hnamed, Context.set,
    Entries.get?_merge _ hentries, Option.or_assoc]
  rfl

/-- After every proper history the store of the innermost open scope is in use, and what is done in
a scope is isolated from everything else.  A new scope starts with the entries of every request,
with the given ones over them, and with the named ones over those. -/
theorem scopes_are_isolated (history : List ScopeOp) (h : Proper history) :
    (∃ s σ, Stores.run history .none = some s ∧ Scopes.run history .none = some σ ∧
      Stores.InUse history s ∧ Stores.Isolated s σ) ∧
    ∀ entries named, Entries.Distinct entries → Entries.Distinct named →
      (Context.request entries named).has (.str Context.documentKey) = true ∧
      (Context.request entries named).has (.str Context.queryKey) = true ∧
      ∀ k, (Context.request entries named).get? k =
        ((Entries.get? named k).or (Entries.get? entries k)).or (Context.initial.get? k) := by
  obtain ⟨s, hs, -, huse⟩ := Stores.exists_inUse h
  obtain ⟨σ, hσ, hshows⟩ := Stores.shows_none.exists_run hs
  exact ⟨⟨s, σ, hs, hσ, huse, hshows.isolated⟩, fun _ _ => Context.request_spec⟩

/-- A process that sets an entry outside all scopes, enters a scope, enters and leaves another one
in it, and is still in the first one. -/
def visits : List ScopeOp :=
  [.set [(.str "site", .str "A")]] ++
    .enter [(.str "documentId", .int 7), (.str "site", .str "B")] [(.str "site", .str "C")] ::
      (.enter [] [] :: [.set [(.str "documentId", .int 1)]] ++
        .leave :: [.set [(.str "page", .int 2)]])

/-- The second store is in use after the visits, with what was set outside the inner scope, and the
store outside all scopes has only what was set there. -/
theorem scopes_are_isolated_visits :
    Proper visits ∧ ∃ s σ, Stores.run visits .none = some s ∧ Scopes.run visits .none = some σ ∧
      Stores.Isolated s σ ∧ s.current = some 1 ∧
      σ.current.1.entries = [(.str "documentId", .int 7), (.str "query", .null),
        (.str "site", .str "C"), (.str "page", .int 2)] ∧
      σ.outer = some ⟨[(.str "documentId", .null), (.str "query", .null),
        (.str "site", .str "A")]⟩ := by
  have hproper : Proper visits :=
    .inside _ _ (.outside (.set _ .nil)) (.scope _ _ (.set _ .nil) (.set _ .nil))
  obtain ⟨⟨s, σ, hs, hσ, -, hisolated⟩, -⟩ := scopes_are_isolated visits hproper
  refine ⟨hproper, s, σ, hs, hσ, hisolated, ?_⟩
  cases hs
  cases hσ
  exact ⟨rfl, rfl, rfl⟩

end PageTree
