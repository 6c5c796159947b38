import PageTree.Markup.Element
import PageTree.Service.Client
import PageTree.Service.Routing
import PageTree.Surroundings
import PageTree.Yaml.Document
import PageTree.Yaml.Library

/-!
# Standard surroundings

The libraries that the definitions on addresses, queries, markup, YAML and routes make, as the
surroundings in which the program is run.  Host names with other characters than those of ASCII are
not accepted, markup is not read if it refers by number to code points that are no characters, and a
YAML document has neither anchors nor tags.
-/

namespace PageTree.Standard

/-- No host names with other characters than those of ASCII. -/
scoped instance asciiHostNames : Url.HostNames where
  ascii? _ := none
  isUnreserved_of_ascii? := nofun

/-- The library that the definitions on addresses and queries make. -/
scoped instance urlLibrary [Url.HostNames] : UrlLibrary where
  read s := (Url.parse s).mapError fun e => .address e.message
  write := Url.toText
  params u := QueryParams.ofText (u.query.getD "")
  setParam := QueryParams.set
  withQuery u query := (u.withQuery query).mapError fun e => .address e.message

/-- The library that the definitions on markup make. -/
scoped instance markupLibrary : MarkupLibrary where
  elementsOf markup :=
    if Markup.hasStrayReference markup.toList then none
    else some ((Markup.elementsOf markup).mapError fun e => .rejectedMarkup e.message)
  selects := Markup.selects

/-- The library that the definitions on YAML make. -/
scoped instance yamlLibrary : YamlLibrary where
  load text :=
    match Yaml.read text with
    | none => .error (.unparsable "the text is no document")
    | some v =>
      if Yaml.hasStrayTimestamp text then
        .error (.fault (.raised "ValueError" "a part of a moment is out of range"))
      else .ok v

/-- The framework that the definitions on routes make. -/
scoped instance webFramework : WebFramework where
  dispatch := Service.dispatch
  text? := Service.fieldText?
  document := Service.fieldDocument

/-- The client that the definitions on targets make. -/
scoped instance client [Url.HostNames] : Client where
  request target params :=
    (Request.ofTarget target params).mapError fun e => Fault.address e.message

/-- A calendar that stands still. -/
scoped instance calendar : Calendar where
  year := 2024

/-- The standard libraries and the calendar that stands still. -/
scoped instance surroundings : Surroundings where

end PageTree.Standard
