import PageTree.Image.Responsive
import PageTree.Proofs.Outcome
import PageTree.Proofs.Value.Mapping

/-!
# The fields of an image are derived once

`Image.configure` derives the fields of an image from its configuration.  What it reads it leaves as
it is, or replaces by what it has read (`Image.Keeps`): the name of the size, the choice of pictures
and the text that stands for the image.  So deriving the fields of a configuration that has them
gives it back to the letter (`Image.configure_again`).

The same is said of the attachment that gives an image its address: a configuration that shows an
attachment (`Image.Shows`) is given back by `Image.applyAttachment`, and deriving fields does not
change what a configuration shows.
-/

namespace PageTree

mutual

/-- A key stands for the value that it was made of. -/
theorem Value.toValue_of_toKey? : (v : Value) → (k : Key) → v.toKey? = some k → k.toValue = v
  | .null, k, h | .bool _, k, h | .int _, k, h | .float _, k, h | .str _, k, h
  | .bytes _, k, h | .moment _, k, h | .callable _, k, h => by
    cases h
    rfl
  | .tuple vs, k, h => by
    obtain ⟨ks, hks, rfl⟩ := Option.map_eq_some_iff.mp h
    rw [Key.toValue, Value.toValues_of_toKeys? vs ks hks]
  | .list _, k, h | .map _, k, h | .node _, k, h | .query _, k, h => nomatch h

/-- Keys stand for the values that they were made of. -/
theorem Value.toValues_of_toKeys? : (vs : List Value) → (ks : List Key) →
    Value.toKeys? vs = some ks → Key.toValue.toValues ks = vs
  | [], ks, h => by
    cases h
    rfl
  | v :: vs, ks, h => by
    obtain ⟨k, hk, h⟩ := Option.bind_eq_some_iff.mp h
    obtain ⟨ls, hls, h⟩ := Option.bind_eq_some_iff.mp h
    cases h
    rw [Key.toValue.toValues, Value.toValue_of_toKey? v k hk, Value.toValues_of_toKeys? vs ls hls]

end

/-- A value that is read as a key is what the key stands for. -/
theorem Value.toValue_of_toKey {v : Value} {k : Key} (h : v.toKey = .ok k) : k.toValue = v := by
  unfold Value.toKey at h
  split at h
  · rename_i l hl
    cases h
    exact Value.toValue_of_toKey? v k hl
  · cases h

/-- A value that counts as true stands for itself. -/
lemma Value.orElse_of_truthy {v : Value} (h : v.truthy = true) (w : Value) : v.orElse w = v :=
  if_pos h

/-- A value that does not count as true is replaced. -/
lemma Value.orElse_of_not_truthy {v : Value} (h : v.truthy = false) (w : Value) :
    v.orElse w = w := by
  rw [orElse, h, if_neg Bool.false_ne_true]

/-- Replacing a value that does not count as true a second time changes nothing. -/
lemma Value.orElse_orElse (v w : Value) : (v.orElse w).orElse w = v.orElse w := by
  cases h : v.truthy with
  | true => rw [orElse_of_truthy h, orElse_of_truthy h]
  | false =>
    rw [orElse_of_not_truthy h]
    exact ite_self w

namespace Entries

/-- Setting an entry changes what is found under its name only. -/
lemma find?_set (es : Entries) (name : String) (v : Value) (other : String) :
    find? (set es (.str name) v) other = if name = other then some v else find? es other := by
  unfold find?
  rw [get?_set]
  simp [Key.same]

/-- What is found under a name is looked up there. -/
lemma lookup_congr {es gs : Entries} {name : String} (h : find? es name = find? gs name) :
    lookup es name = lookup gs name := by
  rw [lookup, lookup, h]

end Entries

namespace Image

/-! ## Derived fields -/

/-- The name of the size that a configuration asks for. -/
def sizeName (config : Entries) : Value :=
  (Entries.lookup config "image_size").orElse (.str "full")

/-- The size of a name. -/
def sizeAt (settings : ImageSettings) (name : Key) : Value :=
  (Entries.get? settings.sizes name).getD .null

/-- The address that a configuration gives, or else the one that stands in for it. -/
def addressIn (config : Entries) (settings : ImageSettings) : Value :=
  (Entries.lookup config "url").orElse settings.missing

/-- The choice of pictures that a configuration makes. -/
def pictureIn (config : Entries) : Value :=
  .bool (Entries.lookup config "picture").truthy

/-- The text that stands for the image. -/
def altIn (config : Entries) : Value :=
  (Entries.lookup config "alt").orElse (.str "")

/-- Fields are derived for a known size, and otherwise only the address is set. -/
lemma configure_eq [UrlLibrary] (config : Entries) (settings : ImageSettings) :
    configure config settings .null .null =
      (sizeName config).toKey.bind fun name =>
        if (sizeAt settings name).truthy then
          (responsiveFields config settings name (addressIn config settings) (sizeAt settings name)
            (pictureIn config)).bind fun fields => .ok (Entries.merge config fields)
        else .ok (Entries.set config (.str "src") (addressIn config settings)) :=
  rfl

/-- The fields of an image of a known size. -/
lemma responsiveFields_spec [UrlLibrary] {config fields : Entries} {settings : ImageSettings}
    {name : Key} {url size picture : Value}
    (h : responsiveFields config settings name url size picture = .ok fields) :
    ∃ sources src srcset tags original room : Value, fields =
      [(.str "image_size", name.toValue), (.str "sources", sources), (.str "src", src),
        (.str "srcset", srcset), (.str "source_tags", tags), (.str "picture", picture),
        (.str "original_url", original), (.str "aspect_ratio_padding", room),
        (.str "alt", altIn config)] := by
  obtain ⟨sources, -, h⟩ := (bind_eq_ok_iff _ _ _).mp h
  obtain ⟨address, -, h⟩ := (bind_eq_ok_iff _ _ _).mp h
  obtain ⟨src, -, h⟩ := (bind_eq_ok_iff _ _ _).mp h
  obtain ⟨srcset, -, h⟩ := (bind_eq_ok_iff _ _ _).mp h
  -- there are entries for sources, or none
  split at h
  all_goals
    obtain ⟨tags, -, h⟩ := (bind_eq_ok_iff _ _ _).mp h
    obtain ⟨room, -, h⟩ := (bind_eq_ok_iff _ _ _).mp h
    cases h
    exact ⟨_, _, _, _, _, _, rfl⟩

/-- One configuration has what another one gives an image: what the fields are derived from is the
same in both. -/
structure Keeps (config derived : Entries) : Prop where
  size : sizeName derived = sizeName config
  address : Entries.find? derived "url" = Entries.find? config "url"
  attachment : Entries.find? derived "attachment_id" = Entries.find? config "attachment_id"
  crops : Entries.find? derived "crops" = Entries.find? config "crops"
  retina : Entries.find? derived "retina" = Entries.find? config "retina"
  ratio : Entries.find? derived "aspect_ratio" = Entries.find? config "aspect_ratio"
  picture : pictureIn derived = pictureIn config
  alt : Entries.find? derived "alt" = Entries.find? config "alt" ∨
    Entries.find? derived "alt" = some (altIn config)

/-- The same text stands for the image. -/
lemma Keeps.altIn {config derived : Entries} (h : Keeps config derived) :
    altIn derived = altIn config := by
  rcases h.alt with halt | halt
  · rw [Image.altIn, Image.altIn, Entries.lookup_congr halt]
  · rw [Image.altIn, Entries.lookup, halt]
    exact Value.orElse_orElse _ _

/-- The same address is given. -/
lemma Keeps.addressIn {config derived : Entries} (h : Keeps config derived)
    (settings : ImageSettings) : addressIn derived settings = addressIn config settings := by
  rw [Image.addressIn, Image.addressIn, Entries.lookup_congr h.address]

/-- The same fields are derived. -/
lemma Keeps.responsiveFields [UrlLibrary] {config derived : Entries} (h : Keeps config derived)
    (settings : ImageSettings) (name : Key) (url size picture : Value) :
    responsiveFields derived settings name url size picture =
      responsiveFields config settings name url size picture := by
  have halt := h.altIn
  unfold Image.altIn at halt
  unfold Image.responsiveFields sourcesOf
  rw [Entries.lookup_congr h.crops, Entries.lookup_congr h.retina, Entries.lookup_congr h.ratio,
    halt]

/-- Setting the address of an image keeps what the fields are derived from. -/
lemma keeps_set_src (config : Entries) (v : Value) :
    Keeps config (Entries.set config (.str "src") v) := by
  have hfind : ∀ other, other ≠ "src" →
      Entries.find? (Entries.set config (.str "src") v) other = Entries.find? config other := by
    intro other hother
    rw [Entries.find?_set, if_neg (Ne.symm hother)]
  exact {
    size := by rw [sizeName, sizeName, Entries.lookup_congr (hfind _ (by decide))]
    address := hfind _ (by decide)
    attachment := hfind _ (by decide)
    crops := hfind _ (by decide)
    retina := hfind _ (by decide)
    ratio := hfind _ (by decide)
    picture := by rw [pictureIn, pictureIn, Entries.lookup_congr (hfind _ (by decide))]
    alt := Or.inl (hfind _ (by decide)) }

/-- The name of a size counts as true. -/
lemma sizeName_truthy (config : Entries) : (sizeName config).truthy = true := by
  unfold sizeName Value.orElse
  split
  · assumption
  · rfl

/-- Merging derived fields keeps what they are derived from. -/
lemma keeps_merge_fields [UrlLibrary] {config fields : Entries} {settings : ImageSettings}
    {name : Key} {url size : Value} (hname : (sizeName config).toKey = .ok name)
    (h : responsiveFields config settings name url size (pictureIn config) = .ok fields) :
    Keeps config (Entries.merge config fields) ∧
      Entries.merge (Entries.merge config fields) fields = Entries.merge config fields := by
  obtain ⟨sources, src, srcset, tags, original, room, rfl⟩ := responsiveFields_spec h
  have hdistinct : Entries.Distinct
      [(Key.str "image_size", name.toValue), (.str "sources", sources), (.str "src", src),
        (.str "srcset", srcset), (.str "source_tags", tags), (.str "picture", pictureIn config),
        (.str "original_url", original), (.str "aspect_ratio_padding", room),
        (.str "alt", altIn config)] := by
    change List.Pairwise (fun k l => k.same l = false)
      [Key.str "image_size", .str "sources", .str "src", .str "srcset", .str "source_tags",
        .str "picture", .str "original_url", .str "aspect_ratio_padding", .str "alt"]
    decide
  have hget := fun k => Entries.get?_merge config hdistinct k
  refine ⟨?_, Entries.merge_eq_self fun e he => ?_⟩
  · exact {
      size := by
        rw [sizeName, Entries.lookup, Entries.find?, hget, Value.toValue_of_toKey hname]
        exact Value.orElse_of_truthy (sizeName_truthy config) _
      address := hget _
      attachment := hget _
      crops := hget _
      retina := hget _
      ratio := hget _
      picture := by
        rw [pictureIn, Entries.lookup, Entries.find?, hget]
        rfl
      alt := Or.inr (hget _) }
  · rw [hget, Entries.get?_of_mem hdistinct he]
    rfl

/-- Deriving the fields of an image extends its configuration, and keeps what the fields are derived
from. -/
theorem configure_keeps [UrlLibrary] {config derived : Entries} {settings : ImageSettings}
    (h : configure config settings .null .null = .ok derived) :
    Entries.Extends config derived ∧ Keeps config derived ∧
      configure derived settings .null .null = .ok derived := by
  rw [configure_eq] at h
  obtain ⟨name, hname, h⟩ := (bind_eq_ok_iff _ _ _).mp h
  cases hsize : (sizeAt settings name).truthy with
  | true =>
    rw [hsize, if_pos rfl] at h
    obtain ⟨fields, hfields, h⟩ := (bind_eq_ok_iff _ _ _).mp h
    cases h
    obtain ⟨hkeeps, hmerge⟩ := keeps_merge_fields hname hfields
    refine ⟨Entries.extends_merge config fields, hkeeps, ?_⟩
    rw [configure_eq, hkeeps.size, hname, Except.bind, hsize, if_pos rfl, hkeeps.addressIn,
      hkeeps.picture, hkeeps.responsiveFields, hfields, Except.bind, hmerge]
  | false =>
    rw [hsize, if_neg Bool.false_ne_true] at h
    cases h
    have hkeeps := keeps_set_src config (addressIn config settings)
    refine ⟨Entries.extends_set config _ _, hkeeps, ?_⟩
    have hset : Entries.get? (Entries.set config (.str "src") (addressIn config settings))
        (.str "src") = some (addressIn config settings) := by
      rw [Entries.get?_set, Key.same_refl, if_pos rfl]
    rw [configure_eq, hkeeps.size, hname, Except.bind, hsize, if_neg Bool.false_ne_true,
      hkeeps.addressIn, Entries.set_eq_self hset]

/-! ## Attachments -/

/-- A configuration with an entry, unless it has one that counts as true. -/
def fill (config : Entries) (name : String) (v : Value) : Entries :=
  if (Entries.lookup config name).truthy then config else Entries.set config (.str name) v

/-- An entry is there that counts as true, or the given one is. -/
def Filled (config : Entries) (name : String) (v : Value) : Prop :=
  (Entries.lookup config name).truthy = true ∨ Entries.find? config name = some v

/-- Filling in an entry leaves the others as they are. -/
lemma find?_fill {name other : String} (h : name ≠ other) (config : Entries) (v : Value) :
    Entries.find? (fill config name v) other = Entries.find? config other := by
  unfold fill
  split
  · rfl
  · rw [Entries.find?_set, if_neg h]

/-- An entry is there after it has been filled in. -/
lemma filled_fill (config : Entries) (name : String) (v : Value) :
    Filled (fill config name v) name v := by
  unfold fill
  split
  · rename_i h
    exact Or.inl h
  · refine Or.inr ?_
    rw [Entries.find?_set, if_pos rfl]

/-- An entry that is there is not filled in. -/
lemma Filled.fill_eq {config : Entries} {name : String} {v : Value} (h : Filled config name v) :
    fill config name v = config := by
  unfold fill
  split
  · rfl
  · rename_i hfalse
    exact Entries.set_eq_self (h.resolve_left hfalse)

/-- Whether an entry is there depends on what is found under its name. -/
lemma Filled.congr {config config' : Entries} {name : String} {v : Value}
    (h : Filled config name v) (hfind : Entries.find? config' name = Entries.find? config name) :
    Filled config' name v := by
  rw [Filled, Entries.lookup_congr hfind, hfind]
  exact h

/-- Filling in an entry extends a configuration. -/
lemma extends_fill (config : Entries) (name : String) (v : Value) :
    Entries.Extends config (fill config name v) := by
  unfold fill
  split
  · exact .refl config
  · exact Entries.extends_set config _ v

/-- The crops that an attachment gives. -/
def cropsOf (a : Media) : Value :=
  .map (a.crops.filter fun (_, v) => v.truthy)

/-- The text that an attachment gives. -/
def textOf (a : Media) : Value :=
  .str ((([a.alt, a.caption, a.excerpt] : List String).find? (· ≠ "")).getD "")

/-- An attachment gives its number and its address, and fills in its crops and its text. -/
lemma applyAttachment_eq (config : Entries) (a : Media) :
    applyAttachment config a =
      fill (fill (Entries.set (Entries.set config (.str "attachment_id") (.int a.id)) (.str "url")
        (.str (base a.url))) "crops" (cropsOf a)) "alt" (textOf a) :=
  rfl

/-- A configuration shows an attachment: it has its number and address, and its crops and its text
where there are no others. -/
structure Shows (config : Entries) (a : Media) : Prop where
  attachment : Entries.find? config "attachment_id" = some (.int a.id)
  address : Entries.find? config "url" = some (.str (base a.url))
  crops : Filled config "crops" (cropsOf a)
  alt : Filled config "alt" (textOf a)

/-- An attachment is shown by the configuration that it is applied to. -/
lemma shows_applyAttachment (config : Entries) (a : Media) :
    Shows (applyAttachment config a) a := by
  rw [applyAttachment_eq]
  refine ⟨?_, ?_, ?_, filled_fill _ _ _⟩
  · rw [find?_fill (by decide), find?_fill (by decide), Entries.find?_set, if_neg (by decide),
      Entries.find?_set, if_pos rfl]
  · rw [find?_fill (by decide), find?_fill (by decide), Entries.find?_set, if_pos rfl]
  · exact (filled_fill _ _ _).congr (find?_fill (by decide) _ _)

/-- A configuration that shows an attachment does not change when it is applied. -/
lemma Shows.applyAttachment {config : Entries} {a : Media} (h : Shows config a) :
    applyAttachment config a = config := by
  rw [applyAttachment_eq, Entries.set_eq_self h.attachment, Entries.set_eq_self h.address,
    h.crops.fill_eq, h.alt.fill_eq]

/-- Applying an attachment extends a configuration. -/
lemma extends_applyAttachment (config : Entries) (a : Media) :
    Entries.Extends config (Image.applyAttachment config a) := by
  rw [applyAttachment_eq]
  exact (Entries.extends_set _ _ _).trans ((Entries.extends_set _ _ _).trans
    ((extends_fill _ _ _).trans (extends_fill _ _ _)))

/-- A configuration shows the same attachment when fields are derived. -/
lemma Shows.of_keeps {config derived : Entries} {a : Media} (h : Shows config a)
    (hkeeps : Keeps config derived) : Shows derived a where
  attachment := hkeeps.attachment.trans h.attachment
  address := hkeeps.address.trans h.address
  crops := h.crops.congr hkeeps.crops
  alt := by
    rcases hkeeps.alt with halt | halt
    · exact h.alt.congr halt
    · rcases h.alt with htrue | htext
      · have hlookup : Entries.lookup derived "alt" = Entries.lookup config "alt" := by
          rw [Entries.lookup, halt]
          exact Value.orElse_of_truthy htrue _
        exact Or.inl (hlookup ▸ htrue)
      · -- a text that is missing is the empty one
        refine Or.inr (halt.trans ?_)
        rw [altIn, Entries.lookup, htext, Option.getD_some, textOf, Value.orElse]
        split
        · rfl
        · rename_i hfalse
          simp only [Value.truthy, bne_iff_ne, ne_eq, not_not] at hfalse
          rw [hfalse]

end Image

end PageTree
