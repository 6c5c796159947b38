import PageTree.Proofs.Resolution.Report

/-!
# One round at a place

`Resolver.turn` makes one round: it looks up the definition of a node, applies it and says how the
place goes on.  This module says once what a round can do, so that later proofs never open it.

`Round` lists the outcomes, and `turn_result_iff` says that they are exactly those of `turn`, at
every depth: the depth is written into reports and steers nothing.  The report of a round has the
counts of `turn_counters`.  Its problems are misfits of data, followed by one failure if the
application failed (`turn_records_of_fails`) and by nothing otherwise (`turn_records_of_not_fails`).
-/

namespace PageTree

namespace Resolver

variable (context : Context)

/-! ## The declared data -/

/-- A report of nothing but misfits of data. -/
structure Coercing (report : Report) : Prop where
  kind : ∀ x ∈ report.records, x.kind = .coercion
  traces : report.traces = []
  counters : report.counters = Counters.zero

/-- Nothing is reported as a misfit. -/
lemma coercing_empty : Coercing Report.empty := by
  refine ⟨?_, rfl, rfl⟩
  intro x hx
  cases hx

/-- Misfits after misfits are misfits. -/
lemma Coercing.append {a b : Report} (ha : Coercing a) (hb : Coercing b) :
    Coercing (a.append b) where
  kind := by
    intro x hx
    rcases List.mem_append.mp hx with hx | hx
    · exact ha.kind x hx
    · exact hb.kind x hx
  traces := by rw [Report.traces_append, ha.traces, hb.traces, List.append_nil]
  counters := by rw [Report.counters_append, ha.counters, hb.counters, Counters.add_zero]

/-- A misfit is one. -/
lemma coercing_misfit (n : Node) (depth : Nat) (name : Key) (q : Requirement)
    (e : CoercionFault) : Coercing (misfit n depth name q e) := by
  refine ⟨?_, rfl, rfl⟩
  intro x hx
  rw [List.mem_singleton.mp hx]
  rfl

/-- Two computations give the same, and the first reports only misfits. -/
def Selects {α : Type} (x y : Run α) : Prop :=
  x.result = y.result ∧ Coercing x.report

/-- Computations that report nothing give the same as themselves. -/
lemma selects_lift {α : Type} (x : Except Fault α) : Selects (Run.lift x) (Run.lift x) :=
  ⟨rfl, coercing_empty⟩

/-- Sequences of such computations are such computations. -/
lemma Selects.bind {α β : Type} {x y : Run α} {f g : α → Run β} (h : Selects x y)
    (hf : ∀ a, Selects (f a) (g a)) : Selects (x.bind f) (y.bind g) := by
  obtain ⟨hresult, hreport⟩ := h
  cases hx : x.result with
  | error e =>
    rw [Run.bind_of_error hx, Run.bind_of_error (hresult ▸ hx)]
    exact ⟨rfl, hreport⟩
  | ok a =>
    rw [Run.bind_of_ok hx, Run.bind_of_ok (hresult ▸ hx)]
    exact ⟨(hf a).1, hreport.append (hf a).2⟩

/-- The data that a definition asks for, as the context gives them. -/
def dataFor (requirements : List (Key × Requirement)) : Except Fault Entries :=
  (select context default 0 requirements).result

/-- One piece of data is the same at every node and depth. -/
lemma selectOne_selects (n m : Node) (depth depth' : Nat) (name : Key) (q : Requirement) :
    Selects (selectOne context n depth name q) (selectOne context m depth' name q) := by
  unfold selectOne
  refine (selects_lift _).bind fun key => ?_
  split
  · split
    · exact selects_lift _
    · exact ⟨rfl, coercing_empty⟩
  · refine (selects_lift _).bind fun c => ?_
    cases c with
    | ok w => exact ⟨rfl, coercing_empty⟩
    | error e =>
      have hmisfit : Selects (Run.tell (misfit n depth name q e))
          (Run.tell (misfit m depth' name q e)) := ⟨rfl, coercing_misfit n depth name q e⟩
      exact hmisfit.bind fun _ => selects_lift _

/-- The declared data are the same at every node and depth. -/
lemma select_selects (n m : Node) (depth depth' : Nat) (requirements : List (Key × Requirement)) :
    Selects (select context n depth requirements) (select context m depth' requirements) := by
  induction requirements with
  | nil => exact ⟨rfl, coercing_empty⟩
  | cons e rest ih =>
    obtain ⟨name, q⟩ := e
    refine (selectOne_selects context n m depth depth' name q).bind fun v => ?_
    exact ih.bind fun vs => ⟨rfl, coercing_empty⟩

/-- Selecting the declared data gives the data of the context, at every node and depth. -/
theorem select_result (n : Node) (depth : Nat) (requirements : List (Key × Requirement)) :
    (select context n depth requirements).result = dataFor context requirements :=
  (select_selects context n default depth 0 requirements).1

/-- Selecting the declared data reports only misfits. -/
theorem select_report (n : Node) (depth : Nat) (requirements : List (Key × Requirement)) :
    Coercing (select context n depth requirements).report :=
  (select_selects context n n depth depth requirements).2

/-- A piece of data whose source and whose type can be looked up is selected in every context. -/
lemma exists_selectOne {q : Requirement} {key : Key} {tag : Option TypeTag}
    (hkey : q.source.toKey = .ok key) (htag : TypeTag.ofValue? q.type = .ok tag)
    (n : Node) (depth : Nat) (name : Key) :
    ∃ v, (selectOne context n depth name q).result = .ok v := by
  have hzero : ∃ v, TypeTag.zeroOf q.type = .ok v := by
    rw [TypeTag.zeroOf, htag]
    exact ⟨_, rfl⟩
  have hcoerce : ∀ v, ∃ x, TypeTag.coerceTo q.type v = .ok x := by
    intro v
    rw [TypeTag.coerceTo, htag]
    cases tag with
    | none => exact ⟨_, rfl⟩
    | some t => exact ⟨_, rfl⟩
  have hlift : ∀ v, ∃ x, (Run.lift (TypeTag.coerceTo q.type v)).result = .ok x := hcoerce
  have hsource : (Run.lift q.source.toKey).result = .ok key := hkey
  unfold selectOne
  rw [Run.bind_eq, Run.bind_of_ok hsource]
  dsimp only
  split
  · split
    · exact hzero
    · exact ⟨_, rfl⟩
  · obtain ⟨x, hx⟩ := hlift ((context.get? key).getD .null)
    rw [Run.bind_eq, Run.bind_of_ok hx]
    cases x with
    | ok w => exact ⟨w, rfl⟩
    | error e =>
      dsimp only
      rw [Run.bind_eq, Run.tell_bind]
      exact hzero

/-- Data whose sources and whose types can be looked up are selected in every context. -/
lemma exists_dataFor {requirements : List (Key × Requirement)}
    (h : ∀ e ∈ requirements, ∃ key tag, e.2.source.toKey = .ok key ∧
      TypeTag.ofValue? e.2.type = .ok tag) :
    ∃ data, dataFor context requirements = .ok data := by
  unfold dataFor
  induction requirements with
  | nil => exact ⟨[], rfl⟩
  | cons e rest ih =>
    obtain ⟨name, q⟩ := e
    obtain ⟨key, tag, hkey, htag⟩ := h _ List.mem_cons_self
    obtain ⟨v, hv⟩ := exists_selectOne context hkey htag default 0 name
    obtain ⟨vs, hvs⟩ := ih fun e he => h e (List.mem_cons_of_mem _ he)
    rw [select, Run.bind_eq, Run.bind_of_ok hv, Run.bind_eq, Run.bind_of_ok hvs]
    exact ⟨_, rfl⟩

/-! ## What an application makes of a node -/

/-- What a transform gave stands for nothing: it raised a fault, or it returned something that is
neither a node nor a mapping nor a text nor nothing, or a mapping that is not the storage shape of a
node. -/
inductive Unusable : Except Fault Value → Prop where
  | raised (e : Fault) : Unusable (.error e)
  | stranger (v : Value) (hmap : ∀ es, v ≠ .map es) (hnode : ∀ n, v ≠ .node n)
      (htext : ∀ s, v ≠ .str s) (hnull : v ≠ .null) : Unusable (.ok v)
  | malformed (es : Entries) (e : Fault) (h : Node.ofValue (.map es) = .error e) :
      Unusable (.ok (.map es))

/-- What a transform gave stands for a node: it is the node or its storage shape. -/
inductive Makes : Except Fault Value → Node → Prop where
  | node (n : Node) : Makes (.ok (.node n)) n
  | shape (es : Entries) (n : Node) (h : Node.ofValue (.map es) = .ok n) :
      Makes (.ok (.map es)) n

/-- What `judge` decides about what a transform gave. -/
inductive Verdict (n : Node) (x : Except Fault Value) : Applied → Prop where
  | failed (h : Unusable x) : Verdict n x (.failed n)
  | dropped (h : x = .ok .null) : Verdict n x .dropped
  | text (s : String) (h : x = .ok (.str s)) : Verdict n x (.text s)
  | node (m : Node) (h : Makes x m) : Verdict n x (.node m)

/-- A problem of an application that failed. -/
def IsFailure (x : Record) : Prop :=
  x.kind = .transformFailed ∨ x.kind = .invalidResult

/-- The problems that an application records besides misfits: one for a failure, at its node and
depth, and none for anything else. -/
def Records (n : Node) (depth : Nat) (a : Applied) (records : List Record) : Prop :=
  match a with
  | .failed _ =>
    ∃ e, records = [e] ∧ IsFailure e ∧ e.nodeType = some n.type ∧ e.depth = some (depth : Int)
  | _ => records = []

/-- Judging decides in one of the four ways, counts nothing, and records a problem only for a
failure. -/
lemma judge_spec (n : Node) (depth : Nat) (data : Entries) (x : Except Fault Value) :
    ∃ a, (judge n depth data x).result = .ok a ∧ Verdict n x a ∧
      (judge n depth data x).report.counters = Counters.zero ∧
      Records n depth a (judge n depth data x).report.records := by
  cases x with
  | error e =>
    exact ⟨.failed n, rfl, .failed (.raised e), rfl, _, rfl, Or.inl rfl, rfl, rfl⟩
  | ok v =>
    cases v with
    | null => exact ⟨.dropped, rfl, .dropped rfl, rfl, rfl⟩
    | str s => exact ⟨.text s, rfl, .text s rfl, rfl, rfl⟩
    | node m => exact ⟨.node m, rfl, .node m (.node m), rfl, rfl⟩
    | map es =>
      cases h : Node.ofValue (.map es) with
      | ok m =>
        have hj : judge n depth data (.ok (.map es)) =
            ⟨{ Report.empty with traces := [trace n depth data (some m.type) none] },
              .ok (.node m)⟩ := by
          rw [judge, normalize, h]
          rfl
        rw [hj]
        exact ⟨.node m, rfl, .node m (.shape es m h), rfl, rfl⟩
      | error e =>
        have hj : judge n depth data (.ok (.map es)) =
            ⟨invalidResult n depth data e.message, .ok (.failed n)⟩ := by
          rw [judge, normalize, h]
        rw [hj]
        exact ⟨.failed n, rfl, .failed (.malformed es e h), rfl, _, rfl, Or.inr rfl, rfl, rfl⟩
    | bool | int | float | bytes | moment | list | tuple | query | callable =>
      refine ⟨.failed n, rfl, .failed (.stranger _ ?_ ?_ ?_ ?_), rfl, _, rfl, Or.inr rfl, rfl, rfl⟩
      all_goals (intros; simp)

/-! ## The outcomes of a round -/

variable (r : Resolver)

/-- The transform of the definition `d` of a node, run on the node with its defaults and on the
declared data, gave `x`. -/
def Transforms (n : Node) (d : Definition) (x : Except Fault Value) : Prop :=
  r.registry.get? n.type = some d ∧ ∃ a data, d.action = some a ∧
    dataFor context d.requirements = .ok data ∧ act context a (n.withDefaults d.defaults) data = x

/-- The outcomes of a round at a node. -/
inductive Round (n : Node) : Except Fault Turn → Prop where
  /-- The type of the node has no definition. -/
  | undefined (h : r.registry.get? n.type = none) : Round n (.ok (.settled n))
  /-- The definition has no transform. -/
  | inert (d : Definition) (h : r.registry.get? n.type = some d) (ha : d.action = none) :
      Round n (.ok (.settled (n.withDefaults d.defaults)))
  /-- The declared data cannot be selected. -/
  | starved (d : Definition) (a : Action) (e : Fault) (h : r.registry.get? n.type = some d)
      (ha : d.action = some a) (he : dataFor context d.requirements = .error e) :
      Round n (.error e)
  | failed (d : Definition) (x : Except Fault Value) (h : Transforms context r n d x)
      (hx : Unusable x) : Round n (.ok (.settled (n.withDefaults d.defaults)))
  | dropped (d : Definition) (h : Transforms context r n d (.ok .null)) :
      Round n (.ok (.ended none))
  | text (d : Definition) (s : String) (h : Transforms context r n d (.ok (.str s))) :
      Round n (.ok (.ended (some (.text s))))
  /-- The transform gave back the same node. -/
  | kept (d : Definition) (x : Except Fault Value) (m : Node) (h : Transforms context r n d x)
      (hx : Makes x m) (hs : m.same n = true) : Round n (.ok (.settled m))
  | changed (d : Definition) (x : Except Fault Value) (m : Node)
      (h : Transforms context r n d x) (hx : Makes x m) (hs : m.same n = false) :
      Round n (.ok (.changed m))

/-- What a round reports as soon as it has found a definition. -/
def opening (depth : Nat) : Report :=
  Report.counting { Counters.zero with applied := 1, deepest := depth }

/-- The depth is counted first, and then the application. -/
lemma counting_opening (depth : Nat) :
    (Report.counting { Counters.zero with deepest := depth }).append
      (Report.counting { Counters.zero with applied := 1 }) = opening depth := by
  simp [opening, Report.counting_append, Counters.add, Counters.zero]

/-- A round at a node without a definition. -/
lemma turn_undefined {n : Node} (h : r.registry.get? n.type = none) (depth : Nat) :
    r.turn context depth n =
      ⟨Report.counting
        { Counters.zero with passed := if n.type = "" then 0 else 1, deepest := depth },
        .ok (.settled n)⟩ := by
  simp [turn, h, Run.bind_eq, Run.tell_bind, Report.counting_append, Counters.add, Counters.zero]

/-- A round at a node whose definition has no transform. -/
lemma turn_inert {n : Node} {d : Definition} (h : r.registry.get? n.type = some d)
    (ha : d.action = none) (depth : Nat) :
    r.turn context depth n = ⟨opening depth, .ok (.settled (n.withDefaults d.defaults))⟩ := by
  simp only [turn, h, applyDefinition, ha, Run.bind_eq, Run.bind_assoc, Run.tell_bind_tell,
    counting_opening, Run.pure_bind, turnOf, Option.isNone_none, Bool.or_true, if_true]
  rw [Run.tell_bind, Run.pure, Report.append_empty]

/-- A round at a node whose definition has a transform: the data are selected, and then the result
of the transform is judged. -/
lemma turn_active {n : Node} {d : Definition} {a : Action}
    (h : r.registry.get? n.type = some d) (ha : d.action = some a) (depth : Nat) :
    r.turn context depth n =
      (Run.tell (opening depth)).bind fun _ =>
        (select context (n.withDefaults d.defaults) depth d.requirements).bind fun data =>
          (judge (n.withDefaults d.defaults) depth data
            (act context a (n.withDefaults d.defaults) data)).bind (turnOf d n) := by
  simp only [turn, h, applyDefinition, ha, Run.bind_eq, Run.bind_assoc, Run.tell_bind_tell,
    counting_opening]

/-- A round at a node whose declared data cannot be selected. -/
lemma turn_starved {n : Node} {d : Definition} {a : Action} {e : Fault}
    (h : r.registry.get? n.type = some d) (ha : d.action = some a)
    (he : dataFor context d.requirements = .error e) (depth : Nat) :
    r.turn context depth n =
      ⟨(opening depth).append
        (select context (n.withDefaults d.defaults) depth d.requirements).report,
        .error e⟩ := by
  have hselect := select_result context (n.withDefaults d.defaults) depth d.requirements
  rw [he] at hselect
  rw [turn_active context r h ha, Run.bind_of_error hselect, Run.tell_bind]

/-- A round at a node whose transform is run reports the selection of the data, what is judged of
the transform, and how the place goes on, in this order. -/
lemma turn_judges {n : Node} {d : Definition} {a : Action} {data : Entries} {v : Applied}
    {depth : Nat} (h : r.registry.get? n.type = some d) (ha : d.action = some a)
    (hdata : dataFor context d.requirements = .ok data)
    (hv : (judge (n.withDefaults d.defaults) depth data
      (act context a (n.withDefaults d.defaults) data)).result = .ok v) :
    r.turn context depth n =
      ⟨(opening depth).append
        ((select context (n.withDefaults d.defaults) depth d.requirements).report.append
          ((judge (n.withDefaults d.defaults) depth data
            (act context a (n.withDefaults d.defaults) data)).report.append
            (turnOf d n v).report)),
        (turnOf d n v).result⟩ := by
  have hselect := select_result context (n.withDefaults d.defaults) depth d.requirements
  rw [hdata] at hselect
  rw [turn_active context r h ha, Run.bind_of_ok hselect, Run.bind_of_ok hv, Run.tell_bind]

/-- A round at a node whose transform is run. -/
lemma turn_transforms {n : Node} {d : Definition} {x : Except Fault Value}
    (h : r.Transforms context n d x) (depth : Nat) :
    ∃ (v : Applied) (misfits judged : Report),
      Verdict (n.withDefaults d.defaults) x v ∧ Coercing misfits ∧
      judged.counters = Counters.zero ∧
      Records (n.withDefaults d.defaults) depth v judged.records ∧
      r.turn context depth n =
        ⟨(opening depth).append (misfits.append (judged.append (turnOf d n v).report)),
          (turnOf d n v).result⟩ := by
  obtain ⟨hd, a, data, ha, hdata, rfl⟩ := h
  obtain ⟨v, hv, hverdict, hcounters, hrecords⟩ := judge_spec (n.withDefaults d.defaults) depth
    data (act context a (n.withDefaults d.defaults) data)
  exact ⟨v, _, _, hverdict,
    select_report context (n.withDefaults d.defaults) depth d.requirements, hcounters, hrecords,
    turn_judges context r hd ha hdata hv⟩

/-- What is usable for nothing makes no node. -/
lemma Unusable.not_makes {x : Except Fault Value} {m : Node} (h : Unusable x) (hm : Makes x m) :
    False := by
  cases hm with
  | node =>
    cases h with
    | stranger _ _ hnode => exact hnode m rfl
  | shape es _ hes =>
    cases h with
    | stranger _ hmap => exact hmap es rfl
    | malformed _ e he => rw [he] at hes; cases hes

/-- What a transform gave makes at most one node. -/
lemma Makes.unique {x : Except Fault Value} {m m' : Node} (h : Makes x m) (h' : Makes x m') :
    m = m' := by
  cases h with
  | node => cases h'; rfl
  | shape es _ hes =>
    cases h' with
    | shape _ _ hes' => rw [hes] at hes'; cases hes'; rfl

/-- A verdict is determined by what the transform gave. -/
lemma Verdict.unique {n : Node} {x : Except Fault Value} {v v' : Applied} (h : Verdict n x v)
    (h' : Verdict n x v') : v = v' := by
  cases h with
  | failed hx =>
    cases h' with
    | failed => rfl
    | dropped h => subst h; cases hx with | stranger _ _ _ _ hnull => exact absurd rfl hnull
    | text s h => subst h; cases hx with | stranger _ _ _ htext => exact absurd rfl (htext s)
    | node m hm => exact (hx.not_makes hm).elim
  | dropped hx =>
    subst hx
    cases h' with
    | failed hbad => cases hbad with | stranger _ _ _ _ hnull => exact absurd rfl hnull
    | dropped => rfl
    | text s h => cases h
    | node m hm => cases hm
  | text s hx =>
    subst hx
    cases h' with
    | failed hbad => cases hbad with | stranger _ _ _ htext => exact absurd rfl (htext s)
    | dropped h => cases h
    | text s' h => cases h; rfl
    | node m hm => cases hm
  | node m hm =>
    cases h' with
    | failed hbad => exact (hbad.not_makes hm).elim
    | dropped h => subst h; cases hm
    | text s h => subst h; cases hm
    | node m' hm' => rw [hm.unique hm']

/-- How a place goes on after a verdict on a transform. -/
lemma round_of_verdict {n : Node} {d : Definition} {x : Except Fault Value} {v : Applied}
    (h : r.Transforms context n d x) (hv : Verdict (n.withDefaults d.defaults) x v) :
    r.Round context n (turnOf d n v).result := by
  have haction : d.action.isNone = false := by
    obtain ⟨-, a, -, ha, -⟩ := h
    rw [ha, Option.isNone_some]
  cases hv with
  | failed hx => exact .failed d x h hx
  | dropped hx => exact .dropped d (hx ▸ h)
  | text s hx => exact .text d s (hx ▸ h)
  | node m hm =>
    rw [turnOf, haction, Bool.or_false]
    split
    · rename_i hs
      exact .kept d x m h hm hs
    · rename_i hs
      exact .changed d x m h hm (Bool.eq_false_iff.mpr hs)

/-- A round ends in one of its outcomes, at every depth. -/
theorem round_turn (depth : Nat) (n : Node) :
    r.Round context n (r.turn context depth n).result := by
  cases hd : r.registry.get? n.type with
  | none =>
    rw [turn_undefined context r hd]
    exact .undefined hd
  | some d =>
    cases ha : d.action with
    | none =>
      rw [turn_inert context r hd ha]
      exact .inert d hd ha
    | some a =>
      cases hdata : dataFor context d.requirements with
      | error e =>
        rw [turn_starved context r hd ha hdata]
        exact .starved d a e hd ha hdata
      | ok data =>
        have h : r.Transforms context n d (act context a (n.withDefaults d.defaults) data) :=
          ⟨hd, a, data, ha, hdata, rfl⟩
        obtain ⟨v, misfits, judged, hv, -, -, -, hturn⟩ := turn_transforms context r h depth
        rw [hturn]
        exact round_of_verdict context r h hv

/-- The outcome of a round that runs a transform, by the verdict on what the transform gave. -/
lemma turn_result_of_verdict {n : Node} {d : Definition} {x : Except Fault Value} {v : Applied}
    (h : r.Transforms context n d x) (hv : Verdict (n.withDefaults d.defaults) x v)
    (depth : Nat) : (r.turn context depth n).result = (turnOf d n v).result := by
  obtain ⟨v', misfits, judged, hv', -, -, -, hturn⟩ := turn_transforms context r h depth
  rw [hturn, hv.unique hv']

/-- A round ends in no other outcome. -/
theorem turn_result_of_round {n : Node} {x : Except Fault Turn} (h : r.Round context n x)
    (depth : Nat) : (r.turn context depth n).result = x := by
  cases h with
  | undefined h => rw [turn_undefined context r h]
  | inert d h ha => rw [turn_inert context r h ha]
  | starved d a e h ha he => rw [turn_starved context r h ha he]
  | failed d x h hx => exact turn_result_of_verdict context r h (.failed hx) depth
  | dropped d h => exact turn_result_of_verdict context r h (.dropped rfl) depth
  | text d s h => exact turn_result_of_verdict context r h (.text s rfl) depth
  | kept d x m h hx hs =>
    rw [turn_result_of_verdict context r h (.node m hx), turnOf, hs, Bool.true_or, if_pos rfl]
    rfl
  | changed d x m h hx hs =>
    obtain ⟨-, a, -, ha, -⟩ := id h
    rw [turn_result_of_verdict context r h (.node m hx), turnOf, hs, ha, Option.isNone_some,
      Bool.or_false, if_neg Bool.false_ne_true]
    rfl

/-- The outcomes of a round are those of `turn`, at every depth. -/
theorem turn_result_iff (depth : Nat) (n : Node) (x : Except Fault Turn) :
    (r.turn context depth n).result = x ↔ r.Round context n x :=
  ⟨fun h => h ▸ round_turn context r depth n, fun h => turn_result_of_round context r h depth⟩

/-! ## What a round reports -/

/-- The texts that a round counts. -/
def textsOf : Except Fault Turn → Nat
  | .ok (.ended (some _)) => 1
  | _ => 0

/-- The dropped nodes that a round counts. -/
def dropsOf : Except Fault Turn → Nat
  | .ok (.ended none) => 1
  | _ => 0

/-- The counts of a round at a depth that ends in an outcome. -/
def countsOf (n : Node) (depth : Nat) (x : Except Fault Turn) : Counters where
  visited := 0
  applied := if (r.registry.get? n.type).isSome then 1 else 0
  passed := if (r.registry.get? n.type).isSome || n.type = "" then 0 else 1
  texts := textsOf x
  dropped := dropsOf x
  exceeded := 0
  deepest := depth

/-- The counts of a round that runs a transform. -/
lemma turn_counters_of_verdict {n : Node} {d : Definition} {x : Except Fault Value} {v : Applied}
    (h : r.Transforms context n d x) (hv : Verdict (n.withDefaults d.defaults) x v)
    (depth : Nat) :
    (r.turn context depth n).report.counters =
      (opening depth).counters.add (turnOf d n v).report.counters := by
  obtain ⟨v', misfits, judged, hv', hmisfits, hjudged, -, hturn⟩ :=
    turn_transforms context r h depth
  rw [hturn, hv.unique hv', Report.counters_append, Report.counters_append, Report.counters_append,
    hmisfits.counters, hjudged, Counters.zero_add, Counters.zero_add]

/-- The counts of a round follow from its outcome. -/
theorem turn_counters {n : Node} {x : Except Fault Turn} (h : r.Round context n x) (depth : Nat) :
    (r.turn context depth n).report.counters = countsOf r n depth x := by
  cases h with
  | undefined h =>
    rw [turn_undefined context r h, countsOf, h]
    simp only [Option.isSome_none, Bool.false_or, decide_eq_true_eq]
    rfl
  | inert d h ha =>
    rw [turn_inert context r h ha, countsOf, h]
    rfl
  | starved d a e h ha he =>
    have hselect := select_report context (n.withDefaults d.defaults) depth d.requirements
    rw [turn_starved context r h ha he, countsOf, h, Report.counters_append, hselect.counters,
      Counters.add_zero]
    rfl
  | failed d x h hx =>
    rw [turn_counters_of_verdict context r h (.failed hx), countsOf, h.1]
    exact Counters.add_zero _
  | dropped d h =>
    rw [turn_counters_of_verdict context r h (.dropped rfl), countsOf, h.1]
    simp [turnOf, opening, Report.counting, Counters.add, Counters.zero, textsOf, dropsOf]
  | text d s h =>
    rw [turn_counters_of_verdict context r h (.text s rfl), countsOf, h.1]
    simp [turnOf, opening, Report.counting, Counters.add, Counters.zero, textsOf, dropsOf]
  | kept d x m h hx hs =>
    rw [turn_counters_of_verdict context r h (.node m hx), countsOf, h.1, turnOf, hs,
      Bool.true_or, if_pos rfl]
    exact Counters.add_zero _
  | changed d x m h hx hs =>
    obtain ⟨-, a, -, ha, -⟩ := id h
    rw [turn_counters_of_verdict context r h (.node m hx), countsOf, h.1, turnOf, hs, ha,
      Option.isNone_some, Bool.or_false, if_neg Bool.false_ne_true]
    exact Counters.add_zero _

/-- An application at a node fails. -/
def Fails (n : Node) : Prop :=
  ∃ d x, r.Transforms context n d x ∧ Unusable x

/-- Going on after a verdict records no problem. -/
lemma turnOf_records (d : Definition) (n : Node) (v : Applied) :
    (turnOf d n v).report.records = [] := by
  cases v with
  | failed | dropped | text => rfl
  | node m =>
    rw [turnOf]
    split <;> rfl

/-- Going on after a verdict leaves no trace. -/
lemma turnOf_traces (d : Definition) (n : Node) (v : Applied) :
    (turnOf d n v).report.traces = [] := by
  cases v with
  | failed | dropped | text => rfl
  | node m =>
    rw [turnOf]
    split <;> rfl

/-- The problems of a round that runs a transform: misfits, and then those of the verdict. -/
lemma turn_records_of_verdict {n : Node} {d : Definition} {x : Except Fault Value} {v : Applied}
    (h : r.Transforms context n d x) (hv : Verdict (n.withDefaults d.defaults) x v)
    (depth : Nat) :
    ∃ misfits judged : List Record, (∀ c ∈ misfits, c.kind = .coercion) ∧
      Records (n.withDefaults d.defaults) depth v judged ∧
      (r.turn context depth n).report.records = misfits ++ judged := by
  obtain ⟨v', misfits, judged, hv', hmisfits, -, hjudged, hturn⟩ :=
    turn_transforms context r h depth
  rw [← hv.unique hv'] at hjudged hturn
  refine ⟨misfits.records, judged.records, hmisfits.kind, hjudged, ?_⟩
  rw [hturn]
  simp [turnOf_records, opening, Report.counting, Report.empty]

/-- A round at which the application fails records misfits of data and then one failure, at the node
and its depth. -/
theorem turn_records_of_fails {n : Node} (h : r.Fails context n) (depth : Nat) :
    ∃ (misfits : List Record) (e : Record), (∀ c ∈ misfits, c.kind = .coercion) ∧
      IsFailure e ∧ e.nodeType = some n.type ∧ e.depth = some (depth : Int) ∧
      (r.turn context depth n).report.records = misfits ++ [e] := by
  obtain ⟨d, x, hx, hbad⟩ := h
  obtain ⟨misfits, judged, hmisfits, ⟨e, rfl, he, htype, hdepth⟩, hrecords⟩ :=
    turn_records_of_verdict context r hx (.failed hbad) depth
  exact ⟨misfits, e, hmisfits, he, htype, hdepth, hrecords⟩

/-- Every other round records only misfits of data. -/
theorem turn_records_of_not_fails {n : Node} (h : ¬ r.Fails context n) (depth : Nat) :
    ∀ c ∈ (r.turn context depth n).report.records, c.kind = .coercion := by
  -- a verdict that is no failure records nothing
  have hverdict : ∀ {d x v}, r.Transforms context n d x →
      Verdict (n.withDefaults d.defaults) x v → (∀ m, v ≠ .failed m) →
      ∀ c ∈ (r.turn context depth n).report.records, c.kind = .coercion := by
    intro d x v hx hv hok c hc
    obtain ⟨misfits, judged, hmisfits, hjudged, hrecords⟩ :=
      turn_records_of_verdict context r hx hv depth
    have hnil : judged = [] := by
      cases v with
      | failed m => exact absurd rfl (hok m)
      | dropped | text | node => exact hjudged
    rw [hrecords, hnil, List.append_nil] at hc
    exact hmisfits c hc
  have hround := round_turn context r depth n
  generalize (r.turn context depth n).result = x at hround
  cases hround with
  | undefined h =>
    intro c hc
    rw [turn_undefined context r h] at hc
    cases hc
  | inert d h ha =>
    intro c hc
    rw [turn_inert context r h ha] at hc
    cases hc
  | starved d a e h ha he =>
    intro c hc
    rw [turn_starved context r h ha he, Report.records_append] at hc
    exact (select_report context _ depth d.requirements).kind c hc
  | failed d x hx hbad => exact absurd ⟨d, x, hx, hbad⟩ h
  | dropped d hx => exact hverdict hx (.dropped rfl) fun m => by simp
  | text d s hx => exact hverdict hx (.text s rfl) fun m => by simp
  | kept d x m hx hm hs => exact hverdict hx (.node m hm) fun m => by simp
  | changed d x m hx hm hs => exact hverdict hx (.node m hm) fun m => by simp

end Resolver

end PageTree
