import PageTree.Image.Chain
import PageTree.Number.Decimal

/-!
# Responsive images

The fields of an image that let a client choose among candidates: a set of addresses with their
widths, sources with media conditions, a tiny placeholder, and the padding that keeps room for the
image.  `Image.configure` derives them from the named size of an image.
-/

namespace PageTree

/-- The named sizes and breakpoints of a site, and the address of the image that stands in for a
missing one. -/
structure ImageSettings where
  sizes : Entries
  breakpoints : Entries
  missing : Value

/-- Settings without sizes. -/
def ImageSettings.empty : ImageSettings where
  sizes := []
  breakpoints := []
  missing := .str ""

namespace Image

variable [UrlLibrary]

/-- A value under a name of a mapping. -/
def field (v : Value) (name : String) : Except Fault Value := do
  let entries ← v.entriesFor "get"
  return Entries.lookup entries name

/-- The width that a breakpoint stands for: its own, or its name taken literally. -/
def bound (label : String) (breakpoints : Entries) (name : Value) : Except Fault (Option String) :=
  if name.truthy then do
    let k ← name.toKey
    let width := (Entries.get? breakpoints k).getD name
    return some ("(" ++ label ++ ": " ++ width.text ++ ")")
  else .ok none

/-- The media condition of a source: a literal one, or the bounds that breakpoints give. -/
def media (given : Value) (breakpoints : Entries) : Except Fault String :=
  match given with
  | .map entries =>
    let custom := Entries.lookup entries "custom"
    if custom.truthy then .ok custom.text
    else do
      let least ← bound "min-width" breakpoints (Entries.lookup entries "min")
      let most ← bound "max-width" breakpoints (Entries.lookup entries "max")
      match least, most with
      | some a, some b => return a ++ " and " ++ b
      | some a, none => return a
      | none, some b => return b
      | none, none => return "all"
  | _ => .ok ""

/-- The operations of a source. -/
def operationsOf (source : Value) : Except Fault Value := do
  let given ← field source "transforms"
  return given.orElse (.map [])

/-- The width that a source announces. -/
def descriptorOf (source : Value) : Except Fault Int := do
  let entries ← source.entriesFor "get"
  ImageOperation.magnitude ((Entries.find? entries "descriptor").getD (.int 0))

/-- The candidates of one source: with `retina` one of double size comes first. -/
def candidates (address : String) (retina : Bool) (source : Value) :
    Except Fault (List (String × Int)) := do
  let operations ← operationsOf source
  let width ← descriptorOf source
  let plain ← applyAll address operations (.int 1)
  if retina then
    let double ← applyAll address operations (.int 2)
    return [(double, width * 2), (plain, width)]
  else return [(plain, width)]

/-- A candidate as text. -/
def candidateText (c : String × Int) : String :=
  c.1 ++ " " ++ toString c.2 ++ "w"

/-- The candidates of all sources as text. -/
def candidateSet (address : String) (sources : List Value) (retina : Bool) :
    Except Fault String := do
  let all ← sources.mapM (candidates address retina)
  return String.intercalate "," (all.flatten.map candidateText)

/-- The entry of one source in a choice of pictures. -/
def sourceTag (address : String) (breakpoints : Entries) (retina : Bool) (source : Value) :
    Except Fault Value := do
  let operations ← operationsOf source
  let plain ← applyAll address operations (.int 1)
  let set ← if retina then do
      let double ← applyAll address operations (.int 2)
      pure (plain ++ " 1x, " ++ double ++ " 2x")
    else pure plain
  let entries ← source.entriesFor "get"
  let condition ← media ((Entries.find? entries "media").getD (.str "")) breakpoints
  return .map [(.str "srcset", .str set), (.str "media", .str condition)]

/-- The entries of all sources in a choice of pictures. -/
def sourceTags (address : String) (sources : List Value) (breakpoints : Entries) (retina : Bool) :
    Except Fault (List Value) :=
  sources.mapM (sourceTag address breakpoints retina)

/-- The quality of a placeholder. -/
def placeholderQuality : Int := 60

/-- The width of a placeholder. -/
def placeholderWidth : Int := 60

/-- The address of a placeholder of low quality. -/
def placeholder (address : String) (ratio : Value) : Except Fault String := do
  let address ← apply address .quality [.int placeholderQuality]
  let height ← (ratio.orElse (.int 0)).timesInt placeholderWidth
  let height ← height.toInteger
  apply address .resize [.int placeholderWidth, .int height]

/-- The padding that keeps room for an image of the given ratio. -/
def padding (ratio : Value) : Except Fault String :=
  if ratio.truthy then do
    let x ← ratio.toFloat
    return "padding-bottom: " ++ Decimal.general (x * 100.0) ++ "%;"
  else .ok ""

/-- The first elements of a sequence. -/
def firstElements (n : Nat) (v : Value) : Except Fault (List Value) :=
  match v with
  | .list vs => .ok (vs.take n)
  | .tuple vs => .ok (vs.take n)
  | .str s => .ok ((s.toList.take n).map fun c => .str (String.singleton c))
  | .bytes bs => .ok ((bs.take n).map fun b => .int b.toNat)
  | .map _ => .error (.notKey "slice")
  | _ => .error (.notSequence v.kind)

/-- A number of pixels. -/
def pixels (i : Int) : Value :=
  .str (toString i ++ "px")

/-- The crop from the corners `(x₁, y₁)` and `(x₂, y₂)`. -/
def cropOf (coordinates : Value) : Except Fault Value := do
  let vs ← firstElements 4 coordinates
  let numbers ← vs.mapM Value.toInteger
  match numbers with
  | [x₁, y₁, x₂, y₂] => return .list [pixels x₁, pixels y₁, pixels (x₂ - x₁), pixels (y₂ - y₁)]
  | _ => throw (.tooFew 4 numbers.length)

/-- A source with a crop in front of its operations. -/
def cropSource (crop source : Value) : Except Fault Value := do
  let entries ← source.toEntries
  let operations ← ((Entries.lookup entries "transforms").orElse (.map [])).entries
  let operations := Entries.merge [(.str "crop", crop)] operations
  return .map (Entries.set entries (.str "transforms") (.map operations))

/-- Sources with the crop that stored coordinates give. -/
def cropSources (sources : List Value) (coordinates : Value) : Except Fault (List Value) := do
  let crop ← cropOf coordinates
  sources.mapM (cropSource crop)

/-- An address that is given as data. -/
def addressOf : Value → Except Fault String
  | .str s => .ok s
  | v => .error (.addressNotText v)

/-- The sources of a size, cropped as the configuration of an image says. -/
def sourcesOf (config : Entries) (name : Key) (size : Value) : Except Fault (List Value) := do
  let given ← field size "sources"
  let sources ← (given.orElse (.list [])).elements
  let crops ← ((Entries.lookup config "crops").orElse (.map [])).entriesFor "get"
  let coordinates := (Entries.get? crops name).getD .null
  if coordinates.truthy then cropSources sources coordinates else return sources

/-- The fields that an image of a known size gets. -/
def responsiveFields (config : Entries) (settings : ImageSettings) (name : Key) (url size : Value)
    (picture : Value) : Except Fault Entries := do
  let sources ← sourcesOf config name size
  let retina := (Entries.lookup config "retina").truthy
  let ratio := Entries.lookup config "aspect_ratio"
  let address ← addressOf url
  let src ← placeholder address (ratio.orElse (.int 0))
  let srcset ← candidateSet address sources retina
  let tags ←
    if picture.truthy then sourceTags address sources settings.breakpoints retina else pure []
  let room ← padding ratio
  return [(.str "image_size", name.toValue), (.str "sources", .list sources),
    (.str "src", .str src), (.str "srcset", .str srcset), (.str "source_tags", .list tags),
    (.str "picture", picture), (.str "original_url", .str (base address)),
    (.str "aspect_ratio_padding", .str room),
    (.str "alt", (Entries.lookup config "alt").orElse (.str ""))]

/-- Derives the fields of an image for a named size.  The name and the choice of pictures may be
given; an image of an unknown size only gets its address. -/
def configure (config : Entries) (settings : ImageSettings) (name picture : Value) :
    Except Fault Entries := do
  let name := name.orElse ((Entries.lookup config "image_size").orElse (.str "full"))
  let picture :=
    if picture.isNull then .bool (Entries.lookup config "picture").truthy else picture
  let url := (Entries.lookup config "url").orElse settings.missing
  let name ← name.toKey
  let size := (Entries.get? settings.sizes name).getD .null
  if size.truthy then
    let fields ← responsiveFields config settings name url size picture
    return Entries.merge config fields
  else return Entries.set config (.str "src") url

/-- The configuration of an image with what an attachment gives: its address without a query, and
its crops and a text where none are configured. -/
def applyAttachment (config : Entries) (a : Media) : Entries :=
  let config := Entries.set config (.str "attachment_id") (.int a.id)
  let config := Entries.set config (.str "url") (.str (base a.url))
  let config :=
    if (Entries.lookup config "crops").truthy then config
    else Entries.set config (.str "crops") (.map (a.crops.filter fun (_, v) => v.truthy))
  if (Entries.lookup config "alt").truthy then config
  else
    let texts := [a.alt, a.caption, a.excerpt]
    Entries.set config (.str "alt") (.str ((texts.find? (· ≠ "")).getD ""))

end Image

end PageTree
