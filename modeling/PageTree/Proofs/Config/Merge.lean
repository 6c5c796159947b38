import PageTree.Proofs.Value.Overlay

/-!
# Configurations over configurations

`Config.merge` lays a configuration over another one, key by key and at every depth.  What is stored
for a key afterwards is said once (`get?_merge`): what was there, if the upper configuration has
nothing for the key, and otherwise what `mergeValue` makes of both.  Keys come from one of the two
configurations, and each is still listed once.

A setting is an entry of a section.  Over defaults that have the section, a setting is what the
upper configuration sets, or else the default (`setting?_merge`).
-/

namespace PageTree

namespace Entries

variable {α : Type}

/-- A key is stored if a listed key is the same. -/
lemma has_iff (es : List (Key × α)) (k : Key) :
    has es k = true ↔ ∃ l ∈ keys es, l.same k = true := by
  have hnone := get?_eq_none_iff es k
  rw [has, Option.isSome_iff_ne_none, Ne, hnone]
  simp only [not_forall, Bool.not_eq_false, exists_prop]

end Entries

namespace Config

open Entries (get? keys find? Distinct)

/-- Nothing is changed where there is no mapping to be merged. -/
lemma mergeValue_of_not_map {base : Option Value} (h : ∀ es, base ≠ some (.map es)) (v : Value) :
    mergeValue base v = v := by
  cases v with
  | map upper =>
    rw [mergeValue]
    exact h
  | _ => rfl

/-- A mapping over a mapping is merged with it. -/
@[simp] lemma mergeValue_map (base upper : Entries) :
    mergeValue (some (.map base)) (.map upper) = .map (merge base upper) := by
  rw [mergeValue]

/-- The first entry is laid over the others, and then the remaining ones are. -/
lemma merge_cons (base : Entries) (k : Key) (v : Value) (upper : Entries) :
    merge base ((k, v) :: upper) =
      merge (Entries.set base k (mergeValue (get? base k) v)) upper := by
  rw [merge]

/-- Nothing is laid over a configuration. -/
@[simp] lemma merge_nil (base : Entries) : merge base [] = base := by
  rw [merge]

/-- What is stored after laying a configuration over another one. -/
theorem get?_merge (base : Entries) {upper : Entries} (h : Distinct upper) (k : Key) :
    get? (merge base upper) k =
      match get? upper k with
      | some v => some (mergeValue (get? base k) v)
      | none => get? base k := by
  have hget := Value.get?_layEntries (fun _ ws => ws) base h k
  rw [Value.layEntries_snd] at hget
  rw [hget]
  cases get? upper k with
  | none => rfl
  | some v => exact congrArg some (Value.lay_snd _ v)

/-- Laying a configuration over another one lists each key once. -/
lemma distinct_merge {base : Entries} (h : Distinct base) (upper : Entries) :
    Distinct (merge base upper) := by
  induction upper generalizing base with
  | nil =>
    rw [merge_nil]
    exact h
  | cons e upper ih =>
    rw [merge_cons]
    exact ih (h.set _ _)

/-- Keys come from one of the two configurations. -/
lemma mem_keys_merge {base upper : Entries} {k : Key} (h : k ∈ keys (merge base upper)) :
    k ∈ keys base ∨ k ∈ keys upper := by
  induction upper generalizing base with
  | nil =>
    rw [merge_nil] at h
    exact .inl h
  | cons e upper ih =>
    obtain ⟨l, v⟩ := e
    rw [merge_cons] at h
    rcases ih h with h | h
    · rw [Entries.keys_set] at h
      split at h
      · exact .inl h
      · rcases List.mem_append.mp h with h | h
        · exact .inl h
        · rw [List.mem_singleton.mp h]
          exact .inr List.mem_cons_self
    · exact .inr (List.mem_cons_of_mem _ h)

/-- Laid over nothing, a configuration keeps its values. -/
lemma forall_values_merge_nil {upper : Entries} (h : Distinct upper) (P : Value → Prop) :
    (∀ e ∈ merge [] upper, P e.2) ↔ ∀ e ∈ upper, P e.2 := by
  have hget : ∀ k, get? (merge [] upper) k = get? upper k := by
    intro k
    have hnone : get? ([] : Entries) k = none := rfl
    rw [get?_merge [] h, hnone]
    cases get? upper k with
    | none => rfl
    | some w => exact congrArg some (mergeValue_of_not_map (fun _ h => by cases h) w)
  have hnil : Distinct ([] : Entries) := List.Pairwise.nil
  have hmerged := distinct_merge hnil upper
  constructor
  · intro hall e he
    obtain ⟨f, hf, -, hv⟩ := Entries.exists_of_get? ((hget e.1).trans (Entries.get?_of_mem h he))
    exact hv ▸ hall f hf
  · intro hall e he
    obtain ⟨f, hf, -, hv⟩ :=
      Entries.exists_of_get? ((hget e.1).symm.trans (Entries.get?_of_mem hmerged he))
    exact hv ▸ hall f hf

/-! ## Settings -/

/-- The entries of a section; one that is missing has none. -/
def sectionEntries (config : Entries) (sectionName : String) : Entries :=
  match section? config sectionName with
  | some (.map entries) => entries
  | _ => []

/-- A setting of a section, if it is there. -/
def setting? (config : Entries) (sectionName name : String) : Option Value :=
  find? (sectionEntries config sectionName) name

/-- A section is a mapping, unless it is missing. -/
def IsMapped (config : Entries) (sectionName : String) : Prop :=
  ∀ v, section? config sectionName = some v → ∃ entries, v = .map entries

variable {base upper entries : Entries} {sectionName : String}

/-- A section that is a mapping has its entries. -/
lemma sectionEntries_of_some (h : section? base sectionName = some (.map entries)) :
    sectionEntries base sectionName = entries := by
  rw [sectionEntries, h]

/-- Sections list each key once if all mappings of a configuration do. -/
lemma distinct_sectionEntries (h : ∀ e ∈ base, ∀ entries, e.2 = .map entries → Distinct entries)
    (sectionName : String) : Distinct (sectionEntries base sectionName) := by
  unfold sectionEntries
  split
  · rename_i entries hentries
    obtain ⟨e, he, -, hvalue⟩ := Entries.exists_of_get? hentries
    exact h e he entries hvalue
  · exact List.Pairwise.nil

/-- A section over the same section is merged with it. -/
lemma section?_merge (hupper : Distinct upper) (hmapped : IsMapped upper sectionName)
    (hbase : section? base sectionName = some (.map entries)) :
    (section? (merge base upper) sectionName) =
      some (.map (merge entries (sectionEntries upper sectionName))) := by
  have hget := get?_merge base hupper (.str sectionName)
  change section? (merge base upper) sectionName = _ at hget
  change get? base (.str sectionName) = _ at hbase
  rw [hget, hbase, sectionEntries, section?, find?]
  cases hgiven : get? upper (.str sectionName) with
  | none => exact congrArg (some ∘ Value.map) (merge_nil entries).symm
  | some v =>
    obtain ⟨given, rfl⟩ := hmapped v hgiven
    exact congrArg some (mergeValue_map entries given)

/-- A setting is what the upper configuration sets, merged with the default if both are mappings, or
else the default. -/
lemma setting?_merge (hupper : Distinct upper) (hmapped : IsMapped upper sectionName)
    (hdistinct : Distinct (sectionEntries upper sectionName))
    (hbase : section? base sectionName = some (.map entries)) {name : String} {default : Value}
    (hdefault : find? entries name = some default) :
    setting? (merge base upper) sectionName name =
      some (match setting? upper sectionName name with
        | some v => mergeValue (some default) v
        | none => default) := by
  have hsection := sectionEntries_of_some (section?_merge hupper hmapped hbase)
  have hget := get?_merge entries hdistinct (.str name)
  change get? entries (.str name) = _ at hdefault
  rw [setting?, hsection, setting?, find?, hget, hdefault, find?]
  cases get? (sectionEntries upper sectionName) (.str name) <;> rfl

end Config

end PageTree
