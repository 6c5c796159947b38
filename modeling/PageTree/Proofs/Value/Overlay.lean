import PageTree.Config.Basic
import PageTree.Proofs.Value.Mapping
import PageTree.Registry.Declaration

/-!
# Mappings over mappings

Declarations are laid over declarations by `Value.overlay`, and configurations over configurations
by `Config.mergeValue`.  The two recursions differ in one point only, what they make of a list over
a list, so both are cases of `Value.lay`, which takes this as a parameter (`lay_append`, `lay_snd`).

What is laid over a value is said by paths of keys (`Value.at?`): what stands at the end of a path
afterwards depends on what stood there before on both sides (`at?_lay`), and on nothing else but the
values that are no mappings on the way.  `overlay_keeps_both` reads from this which values are kept,
which are replaced and where all the others come from.
-/

namespace PageTree

open Entries (get? has keys Distinct)

namespace Value

/-! ## Paths of keys -/

/-- What stands in a value at the end of a path of keys that leads through mappings. -/
def at? : List Key → Value → Option Value
  | [], v => some v
  | k :: path, .map es => (get? es k).bind (at? path)
  | _ :: _, _ => none

/-- All mappings that paths lead to list each key once. -/
def WellKeyed (v : Value) : Prop :=
  ∀ path es, at? path v = some (.map es) → Distinct es

/-- A value is a mapping. -/
def IsMap (v : Value) : Prop :=
  ∃ es, v = .map es

/-- No path goes on behind a value: it is no mapping, or an empty one. -/
def IsLeaf (v : Value) : Prop :=
  ∀ es, v = .map es → es = []

/-- Two values of a kind that is merged: two mappings or two lists. -/
inductive Meets : Value → Value → Prop where
  | map (es gs : Entries) : Meets (.map es) (.map gs)
  | list (vs ws : List Value) : Meets (.list vs) (.list ws)

section Path

variable {v : Value} {es : Entries} {path : List Key} {k : Key}

@[simp] lemma at?_nil (v : Value) : at? [] v = some v := by
  rw [at?]

@[simp] lemma at?_cons_map (k : Key) (path : List Key) (es : Entries) :
    at? (k :: path) (.map es) = (get? es k).bind (at? path) := by
  rw [at?]

/-- No path goes on behind a value that is no mapping. -/
lemma at?_cons_of_not_isMap (h : ¬ v.IsMap) (k : Key) (path : List Key) :
    at? (k :: path) v = none := by
  cases v with
  | map es => exact absurd ⟨es, rfl⟩ h
  | _ => rfl

/-- A path that goes on leads through a mapping. -/
lemma isMap_of_at?_cons {w : Value} (h : at? (k :: path) v = some w) : v.IsMap := by
  by_contra hmap
  have hnone := at?_cons_of_not_isMap hmap k path
  rw [hnone] at h
  cases h

/-- A path that is followed by another one. -/
lemma at?_append (p q : List Key) (v : Value) : at? (p ++ q) v = (at? p v).bind (at? q) := by
  induction p generalizing v with
  | nil => simp
  | cons k p ih =>
    by_cases hmap : v.IsMap
    · obtain ⟨es, rfl⟩ := hmap
      rw [List.cons_append, at?_cons_map, at?_cons_map, Option.bind_assoc]
      exact congrArg _ (funext ih)
    · rw [List.cons_append, at?_cons_of_not_isMap hmap, at?_cons_of_not_isMap hmap]
      rfl

/-- The entries of a mapping list each key once. -/
lemma WellKeyed.distinct (h : WellKeyed (.map es)) : Distinct es :=
  h [] es (at?_nil _)

/-- A value that is no mapping has no keys. -/
lemma wellKeyed_of_not_isMap (h : ¬ v.IsMap) : v.WellKeyed := by
  rintro (_ | ⟨k, path⟩) es hes
  · rw [at?_nil] at hes
    cases hes
    exact absurd ⟨es, rfl⟩ h
  · rw [at?_cons_of_not_isMap h] at hes
    cases hes

/-- What stands in a mapping lists each key once as well. -/
lemma WellKeyed.of_get? (h : WellKeyed (.map es)) (hv : get? es k = some v) : v.WellKeyed := by
  intro path gs hgs
  refine h (k :: path) gs ?_
  rw [at?_cons_map, hv]
  exact hgs

/-- A mapping lists each key once at all places if it does and its values do. -/
lemma wellKeyed_map_iff (es : Entries) :
    WellKeyed (.map es) ↔ Distinct es ∧ ∀ e ∈ es, e.2.WellKeyed := by
  constructor
  · intro h
    exact ⟨h.distinct, fun e he => h.of_get? (Entries.get?_of_mem h.distinct he)⟩
  · rintro ⟨hdistinct, hvalues⟩ (_ | ⟨k, path⟩) gs hgs
    · rw [at?_nil] at hgs
      cases hgs
      exact hdistinct
    · rw [at?_cons_map] at hgs
      obtain ⟨w, hw, hpath⟩ := Option.bind_eq_some_iff.mp hgs
      obtain ⟨e, he, -, rfl⟩ := Entries.exists_of_get? hw
      exact hvalues e he path gs hpath

end Path

/-! ## Laying a value over another one -/

/-- What a list over a list becomes. -/
abbrev Join := List Value → List Value → List Value

mutual

/-- A value laid over another one, which may be missing, given what a list over a list becomes. -/
def lay (join : Join) (base : Option Value) : Value → Value
  | .map upper =>
    match base with
    | some (.map entries) => .map (layEntries join entries upper)
    | _ => .map upper
  | .list vs =>
    match base with
    | some (.list ws) => .list (join ws vs)
    | _ => .list vs
  | v => v

/-- Entries laid over others one after the other. -/
def layEntries (join : Join) (base : Entries) : List (Key × Value) → Entries
  | [] => base
  | (k, v) :: rest => layEntries join (Entries.set base k (lay join (get? base k) v)) rest

end

/-- A list over a list is joined with it. -/
@[simp] lemma lay_list (join : Join) (ws vs : List Value) :
    lay join (some (.list ws)) (.list vs) = .list (join ws vs) := by
  rw [lay]

/-- A mapping over a mapping is merged with it. -/
@[simp] lemma lay_map (join : Join) (es upper : Entries) :
    lay join (some (.map es)) (.map upper) = .map (layEntries join es upper) := by
  rw [lay]

/-- A value that meets none of its kind takes the place of what was there. -/
lemma lay_of_not_meets (join : Join) {base : Option Value} {v : Value}
    (h : ∀ b, base = some b → ¬ b.Meets v) : lay join base v = v := by
  cases v with
  | map upper =>
    rw [lay]
    rintro es rfl
    exact h _ rfl (.map es upper)
  | list vs =>
    rw [lay]
    rintro ws rfl
    exact h _ rfl (.list ws vs)
  | _ => rfl

/-- A value is laid over nothing. -/
@[simp] lemma lay_none (join : Join) (v : Value) : lay join none v = v :=
  lay_of_not_meets join nofun

mutual

/-- Declarations put one list behind the other. -/
lemma lay_append (base : Option Value) (v : Value) : lay (· ++ ·) base v = overlay base v := by
  cases v with
  | map upper =>
    cases base with
    | none => rfl
    | some b =>
      cases b with
      | map es => rw [lay, overlay, layEntries_append es upper]
      | _ => rfl
  | list vs =>
    cases base with
    | none => rfl
    | some b => cases b <;> rfl
  | _ => rfl

/-- Declarations put one list behind the other, entry by entry. -/
lemma layEntries_append (base : Entries) (upper : List (Key × Value)) :
    layEntries (· ++ ·) base upper = overlayEntries base upper := by
  cases upper with
  | nil => rfl
  | cons e rest =>
    rw [layEntries, overlayEntries, lay_append _ e.2, layEntries_append _ rest]

end

mutual

/-- Configurations replace a list by the other one. -/
lemma lay_snd (base : Option Value) (v : Value) :
    lay (fun _ ws => ws) base v = Config.mergeValue base v := by
  cases v with
  | map upper =>
    cases base with
    | none => rfl
    | some b =>
      cases b with
      | map es => rw [lay, Config.mergeValue, layEntries_snd es upper]
      | _ => rfl
  | list vs =>
    cases base with
    | none => rfl
    | some b => cases b <;> rfl
  | _ => rfl

/-- Configurations replace a list by the other one, entry by entry. -/
lemma layEntries_snd (base : Entries) (upper : List (Key × Value)) :
    layEntries (fun _ ws => ws) base upper = Config.merge base upper := by
  cases upper with
  | nil => rfl
  | cons e rest => rw [layEntries, Config.merge, lay_snd _ e.2, layEntries_snd _ rest]

end

/-! ## Entry by entry -/

section Entry

variable (join : Join)

/-- Nothing is laid over entries. -/
@[simp] lemma layEntries_nil (base : Entries) : layEntries join base [] = base := by
  rw [layEntries]

/-- The first entry is laid over the others, and then the remaining ones are. -/
lemma layEntries_cons (base : Entries) (k : Key) (v : Value) (upper : Entries) :
    layEntries join base ((k, v) :: upper) =
      layEntries join (Entries.set base k (lay join (get? base k) v)) upper := by
  rw [layEntries]

/-- What is stored for a key after laying entries over others. -/
theorem get?_layEntries (base : Entries) {upper : Entries} (h : Distinct upper) (k : Key) :
    get? (layEntries join base upper) k =
      match get? upper k with
      | some v => some (lay join (get? base k) v)
      | none => get? base k := by
  induction upper generalizing base with
  | nil => rw [layEntries_nil, get?]
  | cons e upper ih =>
    obtain ⟨l, v⟩ := e
    obtain ⟨hl, hupper⟩ := List.pairwise_cons.mp h
    rw [layEntries_cons, ih _ hupper, Entries.get?_set, get?]
    cases hk : l.same k with
    | false => rfl
    | true =>
      have hnone : get? upper k = none := by
        refine (Entries.get?_eq_none_iff upper k).mpr fun m hm => ?_
        rw [Key.same_comm m k, ← Key.same_congr hk m]
        exact hl m hm
      rw [hnone, if_pos rfl, if_pos rfl, Entries.get?_congr base hk]

/-- Keys keep their places, and new ones come last in the order in which they are laid. -/
theorem keys_layEntries (base : Entries) {upper : Entries} (h : Distinct upper) :
    keys (layEntries join base upper) =
      keys base ++ (keys upper).filter fun k => !has base k := by
  induction upper generalizing base with
  | nil => simp [keys]
  | cons e upper ih =>
    obtain ⟨k, v⟩ := e
    obtain ⟨hk, hupper⟩ := List.pairwise_cons.mp h
    have hcons : keys ((k, v) :: upper) = k :: keys upper := rfl
    rw [layEntries_cons, ih _ hupper, hcons]
    -- the key that is set is none of those that follow
    have hset : ∀ l ∈ keys upper, ∀ w, has (Entries.set base k w) l = has base l := by
      intro l hl w
      have hne : ¬ k.same l = true := ne_true_of_eq_false (hk l hl)
      rw [has, has, Entries.get?_set, if_neg hne]
    have hfilter : ∀ w, (keys upper).filter (fun l => !has (Entries.set base k w) l) =
        (keys upper).filter fun l => !has base l := by
      intro w
      refine List.filter_congr fun l hl => ?_
      rw [hset l hl w]
    rw [hfilter, Entries.keys_set]
    cases hhas : has base k with
    | true => simp [hhas]
    | false => simp [hhas]

/-- Entries whose keys are new are put behind the others. -/
lemma layEntries_of_distinct {base upper : Entries} (h : Distinct (base ++ upper)) :
    layEntries join base upper = base ++ upper := by
  induction upper generalizing base with
  | nil => simp
  | cons e upper ih =>
    obtain ⟨k, v⟩ := e
    have hnone : get? base k = none := by
      refine (Entries.get?_eq_none_iff base k).mpr fun l hl => ?_
      unfold Distinct keys at h
      rw [List.map_append, List.pairwise_append] at h
      exact h.2.2 l hl k List.mem_cons_self
    have hset : Entries.set base k v = base ++ [(k, v)] := by
      have happend := Entries.set_append hnone [] v
      rwa [List.append_nil] at happend
    have hsplit : base ++ (k, v) :: upper = (base ++ [(k, v)]) ++ upper := by simp
    rw [hsplit] at h
    rw [layEntries_cons, hnone, lay_none, hset, ih h, hsplit]

/-- Entries that are laid over the same entries in two ways come out the same if each of them
does. -/
lemma layEntries_congr {join' : Join} (base : Entries) {upper : Entries} (h : Distinct upper)
    (heq : ∀ e ∈ upper, lay join (get? base e.1) e.2 = lay join' (get? base e.1) e.2) :
    layEntries join base upper = layEntries join' base upper := by
  induction upper generalizing base with
  | nil => rw [layEntries_nil, layEntries_nil]
  | cons e upper ih =>
    obtain ⟨k, v⟩ := e
    obtain ⟨hk, hupper⟩ := List.pairwise_cons.mp h
    rw [List.forall_mem_cons] at heq
    obtain ⟨hfirst, hrest⟩ := heq
    rw [layEntries_cons, layEntries_cons, hfirst]
    refine ih _ hupper fun e he => ?_
    have hne : ¬ k.same e.1 = true := ne_true_of_eq_false (hk e.1 (List.mem_map_of_mem he))
    rw [Entries.get?_set, if_neg hne]
    exact hrest e he

end Entry

/-! ## Path by path -/

section Lay

variable (join : Join) {v : Value}

/-- What is laid over a value stands over what stood at the same place. -/
theorem at?_lay (hv : v.WellKeyed) (base : Option Value) {path : List Key} {w : Value}
    (h : at? path v = some w) :
    at? path (lay join base v) = some (lay join (base.bind (at? path)) w) := by
  induction path generalizing v base with
  | nil =>
    rw [at?_nil] at h
    cases h
    have hbind : base.bind (at? []) = base := by cases base <;> rfl
    rw [at?_nil, hbind]
  | cons k path ih =>
    obtain ⟨upper, rfl⟩ := isMap_of_at?_cons h
    rw [at?_cons_map] at h
    obtain ⟨u, hu, hw⟩ := Option.bind_eq_some_iff.mp h
    by_cases hbase : ∃ es, base = some (.map es)
    · obtain ⟨es, rfl⟩ := hbase
      rw [lay_map, at?_cons_map, get?_layEntries join es hv.distinct, hu, Option.bind_some,
        ih (hv.of_get? hu) _ hw, Option.bind_some, at?_cons_map]
    · -- what is no mapping goes away with all that is laid over it
      have hmeets : ∀ b, base = some b → ¬ b.Meets (.map upper) := by
        rintro b rfl hb
        cases hb
        exact hbase ⟨_, rfl⟩
      have hnone : base.bind (at? (k :: path)) = none := by
        rw [Option.bind_eq_none_iff]
        rintro b rfl
        refine at?_cons_of_not_isMap ?_ k path
        rintro ⟨es, rfl⟩
        exact hbase ⟨es, rfl⟩
      rw [lay_of_not_meets join hmeets, hnone, lay_none, at?_cons_map]
      exact h

/-- Where nothing is laid, what is there was there before. -/
theorem at?_of_at?_lay (hv : v.WellKeyed) (base : Option Value) {path : List Key} {u : Value}
    (h : at? path v = none) (hu : at? path (lay join base v) = some u) :
    base.bind (at? path) = some u := by
  induction path generalizing v base with
  | nil => cases h
  | cons k path ih =>
    by_cases hmeets : ∃ b, base = some b ∧ b.Meets v
    · obtain ⟨b, rfl, hb⟩ := hmeets
      cases hb with
      | list vs ws => cases hu
      | map es upper =>
        rw [at?_cons_map] at h
        rw [lay_map, at?_cons_map, get?_layEntries join es hv.distinct] at hu
        rw [Option.bind_some, at?_cons_map]
        cases hk : get? upper k with
        | none =>
          rw [hk] at hu
          exact hu
        | some w =>
          rw [hk] at h hu
          exact ih (hv.of_get? hk) _ h hu
    · rw [lay_of_not_meets join fun b hb hbv => hmeets ⟨b, hb, hbv⟩, h] at hu
      cases hu

/-- Where nothing is laid, what was there stays if the way to it leads through mappings only. -/
theorem at?_lay_of_forall_isMap (hv : v.WellKeyed) {base : Value} {path : List Key} {u : Value}
    (h : at? path v = none) (hu : at? path base = some u)
    (hmaps : ∀ q w, q <+: path → at? q v = some w → w.IsMap) :
    at? path (lay join (some base) v) = some u := by
  induction path generalizing v base with
  | nil => cases h
  | cons k path ih =>
    obtain ⟨upper, rfl⟩ := hmaps [] v List.nil_prefix (at?_nil v)
    obtain ⟨es, rfl⟩ := isMap_of_at?_cons hu
    rw [at?_cons_map] at h hu
    obtain ⟨b, hb, hbu⟩ := Option.bind_eq_some_iff.mp hu
    rw [lay_map, at?_cons_map, get?_layEntries join es hv.distinct]
    cases hk : get? upper k with
    | none =>
      rw [hb]
      exact hbu
    | some w =>
      rw [hk] at h
      rw [hb]
      refine ih (hv.of_get? hk) h hbu fun q x hq hx => hmaps (k :: q) x ?_ ?_
      · exact List.cons_prefix_cons.mpr ⟨rfl, hq⟩
      · rw [at?_cons_map, hk]
        exact hx

/-- Where nothing is laid, it does not matter what a list over a list becomes. -/
lemma at?_lay_eq_of_none (join' : Join) (hv : v.WellKeyed) (base : Option Value)
    {path : List Key} (h : at? path v = none) :
    at? path (lay join base v) = at? path (lay join' base v) := by
  induction path generalizing v base with
  | nil => cases h
  | cons k path ih =>
    by_cases hmeets : ∃ b, base = some b ∧ b.Meets v
    · obtain ⟨b, rfl, hb⟩ := hmeets
      cases hb with
      | list vs ws => rfl
      | map es upper =>
        rw [at?_cons_map] at h
        rw [lay_map, lay_map, at?_cons_map, at?_cons_map, get?_layEntries join es hv.distinct,
          get?_layEntries join' es hv.distinct]
        cases hk : get? upper k with
        | none => rfl
        | some w =>
          rw [hk] at h
          exact ih (hv.of_get? hk) _ h
    · have hnot : ∀ b, base = some b → ¬ b.Meets v := fun b hb hbv => hmeets ⟨b, hb, hbv⟩
      rw [lay_of_not_meets join hnot, lay_of_not_meets join' hnot]

/-- A value that is laid over another one in two ways comes out the same if every list over a list
does. -/
theorem lay_congr {join join' : Join} (base : Option Value) (v : Value) (hv : v.WellKeyed)
    (h : ∀ path vs ws, base.bind (at? path) = some (.list vs) → at? path v = some (.list ws) →
      join vs ws = join' vs ws) : lay join base v = lay join' base v := by
  -- the values of a mapping are smaller than the mapping
  induction hsize : sizeOf v using Nat.strong_induction_on generalizing base v with
  | _ n ih =>
  subst hsize
  by_cases hmeets : ∃ b, base = some b ∧ b.Meets v
  · obtain ⟨b, rfl, hb⟩ := hmeets
    cases hb with
    | list vs ws => rw [lay_list, lay_list, h [] vs ws rfl rfl]
    | map es upper =>
      rw [lay_map, lay_map]
      refine congrArg Value.map (layEntries_congr join es hv.distinct fun e he => ?_)
      have hget := Entries.get?_of_mem hv.distinct he
      refine ih _ (Entries.sizeOf_lt_of_mem he) (get? es e.1) e.2 (hv.of_get? hget) ?_ rfl
      intro path vs ws hvs hws
      refine h (e.1 :: path) vs ws ?_ ?_
      · rw [Option.bind_some, at?_cons_map]
        exact hvs
      · rw [at?_cons_map, hget]
        exact hws
  · have hnot : ∀ b, base = some b → ¬ b.Meets v := fun b hb hbv => hmeets ⟨b, hb, hbv⟩
    rw [lay_of_not_meets join hnot, lay_of_not_meets join' hnot]

end Lay

/-! ## What is kept -/

/-- What stands in a value that was laid over another one, place by place. -/
structure Laid (join : Join) (base upper result : Value) : Prop where
  /-- A value that meets none of its kind stands where it is laid. -/
  replaced : ∀ path w, at? path upper = some w →
    (∀ v, at? path base = some v → ¬ v.Meets w) → at? path result = some w
  /-- A list that meets a list is joined with it. -/
  lists : ∀ path vs ws, at? path base = some (.list vs) → at? path upper = some (.list ws) →
    at? path result = some (.list (join vs ws))
  /-- A mapping that meets a mapping leaves its keys in their places, and adds its own at the end in
  their order. -/
  maps : ∀ path es gs, at? path base = some (.map es) → at? path upper = some (.map gs) →
    ∃ ms, at? path result = some (.map ms) ∧
      keys ms = keys es ++ (keys gs).filter fun k => !has es k
  /-- What nothing is laid on stays, if all that is laid on the way to it is merged. -/
  kept : ∀ path v, at? path base = some v → at? path upper = none →
    (∀ q u w, q <+: path → at? q base = some u → at? q upper = some w → u.Meets w) →
    at? path result = some v
  /-- What has no entries comes from one of the two sides, or it is two lists joined. -/
  leaves : ∀ path v, at? path result = some v → v.IsLeaf →
    at? path base = some v ∨ at? path upper = some v ∨
      ∃ vs ws, at? path base = some (.list vs) ∧ at? path upper = some (.list ws) ∧
        v = .list (join vs ws)

/-- Two values at one place are the same, or they are mappings with the same keys. -/
def SameAt (x y : Option Value) : Prop :=
  x = y ∨ ∃ es gs, x = some (.map es) ∧ y = some (.map gs) ∧ keys es = keys gs

section Laid

variable (join : Join) {base v : Value}

/-- What nothing is laid on stays, if all that is laid on the way to it is merged. -/
lemma at?_lay_of_meets (hv : v.WellKeyed) {path : List Key} {u : Value}
    (hu : at? path base = some u) (hnone : at? path v = none)
    (hmeets : ∀ q u w, q <+: path → at? q base = some u → at? q v = some w → u.Meets w) :
    at? path (lay join (some base) v) = some u := by
  refine at?_lay_of_forall_isMap join hv hnone hu fun q w hq hw => ?_
  obtain ⟨rest, rfl⟩ := hq
  -- the path goes on behind what is laid, as nothing is laid at its end
  rw [at?_append] at hu hnone
  obtain ⟨b, hb, hbu⟩ := Option.bind_eq_some_iff.mp hu
  have hmeet : b.Meets w := hmeets q b w (List.prefix_append q rest) hb hw
  cases hmeet with
  | map es gs => exact ⟨gs, rfl⟩
  | list vs ws =>
    cases rest with
    | nil =>
      rw [hw] at hnone
      cases hnone
    | cons k rest => cases hbu

/-- What has no entries where something is laid was there before, or is what is laid, or it is two
lists joined. -/
lemma leaf_of_lay (hv : v.WellKeyed) {path : List Key} {u w : Value} (hw : at? path v = some w)
    (hu : lay join (at? path base) w = u) (hleaf : u.IsLeaf) :
    at? path base = some u ∨ w = u ∨
      ∃ vs ws, at? path base = some (.list vs) ∧ w = .list ws ∧ u = .list (join vs ws) := by
  by_cases hmeets : ∃ b, at? path base = some b ∧ b.Meets w
  · obtain ⟨b, hb, hbw⟩ := hmeets
    rw [hb] at hu
    cases hbw with
    | map es gs =>
      rw [lay_map] at hu
      cases hu
      -- without entries, there is nothing to be laid and nothing that it is laid on
      have hkeys := keys_layEntries join es (hv path gs hw)
      rw [hleaf _ rfl] at hkeys ⊢
      have hes : es = [] := List.map_eq_nil_iff.mp (List.append_eq_nil_iff.mp hkeys.symm).1
      rw [hes] at hb
      exact .inl hb
    | list vs ws =>
      rw [lay_list] at hu
      cases hu
      exact .inr (.inr ⟨vs, ws, hb, rfl, rfl⟩)
  · have hnot : ∀ b, at? path base = some b → ¬ b.Meets w := fun b hb hbw => hmeets ⟨b, hb, hbw⟩
    rw [lay_of_not_meets join hnot] at hu
    exact .inr (.inl hu)

/-- What is laid over a value keeps what it should. -/
theorem laid_lay (hv : v.WellKeyed) (base : Value) :
    Laid join base v (lay join (some base) v) where
  replaced := by
    intro path w hw hmeets
    rw [at?_lay join hv (some base) hw, Option.bind_some, lay_of_not_meets join hmeets]
  lists := by
    intro path vs ws hvs hws
    rw [at?_lay join hv (some base) hws, Option.bind_some, hvs, lay_list]
  maps := by
    intro path es gs hes hgs
    have hdistinct : Distinct gs := hv path gs hgs
    refine ⟨layEntries join es gs, ?_, keys_layEntries join es hdistinct⟩
    rw [at?_lay join hv (some base) hgs, Option.bind_some, hes, lay_map]
  kept _ _ hu hnone hmeets := at?_lay_of_meets join hv hu hnone hmeets
  leaves := by
    intro path u hu hleaf
    cases hw : at? path v with
    | none => exact .inl (at?_of_at?_lay join hv (some base) hw hu)
    | some w =>
      rw [at?_lay join hv (some base) hw, Option.bind_some] at hu
      rcases leaf_of_lay join hv hw (Option.some.inj hu) hleaf with
        hbase | rfl | ⟨vs, ws, hvs, rfl, hjoin⟩
      · exact .inl hbase
      · exact .inr (.inl rfl)
      · exact .inr (.inr ⟨vs, ws, hvs, rfl, hjoin⟩)

/-- Two ways to join lists make a difference only where a list is laid over a list. -/
theorem sameAt_lay (join' : Join) (hv : v.WellKeyed) {path : List Key}
    (h : ¬ ∃ vs ws, at? path base = some (.list vs) ∧ at? path v = some (.list ws)) :
    SameAt (at? path (lay join (some base) v)) (at? path (lay join' (some base) v)) := by
  cases hw : at? path v with
  | none => exact .inl (at?_lay_eq_of_none join join' hv (some base) hw)
  | some w =>
    rw [at?_lay join hv _ hw, at?_lay join' hv _ hw, Option.bind_some]
    by_cases hmeets : ∃ b, at? path base = some b ∧ b.Meets w
    · obtain ⟨b, hb, hbw⟩ := hmeets
      cases hbw with
      | list vs ws => exact absurd ⟨vs, ws, hb, hw⟩ h
      | map es gs =>
        have hdistinct : Distinct gs := hv path gs hw
        rw [hb, lay_map, lay_map]
        refine .inr ⟨_, _, rfl, rfl, ?_⟩
        rw [keys_layEntries join es hdistinct, keys_layEntries join' es hdistinct]
    · have hnot : ∀ b, at? path base = some b → ¬ b.Meets w := fun b hb hbw => hmeets ⟨b, hb, hbw⟩
      rw [lay_of_not_meets join hnot, lay_of_not_meets join' hnot]
      exact .inl rfl

end Laid

/-- Laying a mapping over another one loses nothing that it should keep, for declarations, which put
lists one behind the other, and for configurations, which take the upper list.  Nothing is changed
by an empty mapping on either side.  The two agree where no list meets a list, and altogether if
there is no such place. -/
theorem overlay_keeps_both (base : Entries) {upper : Entries} (h : (Value.map upper).WellKeyed) :
    Laid (· ++ ·) (.map base) (.map upper) (.map (overlayEntries base upper)) ∧
    Laid (fun _ ws => ws) (.map base) (.map upper) (.map (Config.merge base upper)) ∧
    (overlayEntries base [] = base ∧ overlayEntries [] upper = upper) ∧
    (Config.merge base [] = base ∧ Config.merge [] upper = upper) ∧
    (∀ path, (¬ ∃ vs ws, at? path (.map base) = some (.list vs) ∧
        at? path (.map upper) = some (.list ws)) →
      SameAt (at? path (.map (Config.merge base upper)))
        (at? path (.map (overlayEntries base upper)))) ∧
    ((¬ ∃ path vs ws, at? path (.map base) = some (.list vs) ∧
        at? path (.map upper) = some (.list ws)) →
      Config.merge base upper = overlayEntries base upper) := by
  have hnil : ∀ join, layEntries join [] upper = upper := fun join =>
    layEntries_of_distinct join h.distinct
  simp only [← layEntries_append, ← layEntries_snd, ← lay_map]
  refine ⟨laid_lay _ h _, laid_lay _ h _, ⟨layEntries_nil _ _, hnil _⟩,
    ⟨layEntries_nil _ _, hnil _⟩, fun path hpath => sameAt_lay _ _ h hpath, fun hlists => ?_⟩
  have hlay : lay (fun _ ws => ws) (some (.map base)) (.map upper) =
      lay (· ++ ·) (some (.map base)) (.map upper) :=
    lay_congr _ _ h fun path vs ws hvs hws => absurd ⟨path, vs, ws, hvs, hws⟩ hlists
  rw [lay_map, lay_map] at hlay
  exact Value.map.inj hlay

/-- The settings of a list of services. -/
def services : Entries :=
  [(.str "services", .map [(.str "twitter", .str "")]), (.str "order", .list [.str "twitter"]),
    (.str "title", .map [(.str "text", .str "Follow")])]

/-- Settings for another service, with a title that is a text. -/
def moreServices : Entries :=
  [(.str "order", .list [.str "github"]), (.str "title", .str "Us"),
    (.str "services", .map [(.str "github", .str "me")])]

/-- Services are laid over services: the mappings are merged, the lists put one behind the other,
and the title is replaced. -/
theorem overlay_keeps_both_services :
    (Value.map moreServices).WellKeyed ∧
    Laid (· ++ ·) (.map services) (.map moreServices)
      (.map (overlayEntries services moreServices)) ∧
    overlayEntries services moreServices =
      [(.str "services", .map [(.str "twitter", .str ""), (.str "github", .str "me")]),
        (.str "order", .list [.str "twitter", .str "github"]), (.str "title", .str "Us")] := by
  have hlist : (Value.list [.str "github"]).WellKeyed := wellKeyed_of_not_isMap nofun
  have htext : ∀ s, (Value.str s).WellKeyed := fun s => wellKeyed_of_not_isMap nofun
  have hinner : (Value.map [(.str "github", .str "me")]).WellKeyed := by
    rw [wellKeyed_map_iff, List.forall_mem_singleton]
    exact ⟨List.pairwise_singleton _ _, htext "me"⟩
  have hkeyed : (Value.map moreServices).WellKeyed := by
    rw [wellKeyed_map_iff]
    refine ⟨by unfold Distinct; decide, ?_⟩
    simp [moreServices, hlist, htext, hinner]
  exact ⟨hkeyed, (overlay_keeps_both services hkeyed).1, rfl⟩

end Value

end PageTree
