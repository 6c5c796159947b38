import PageTree.Service.Library

/-!
# Routes

How a framework finds the handler of a request by its path, and what it answers itself: the pages of
its own, a redirect where there is a page with or without a slash at the end of the path, and that
there is nothing.
-/

namespace PageTree

namespace Service

/-- What stands in front of the name of a type in a path. -/
def typePrefix : List Char := "/component-types/".toList

/-- A path without the line feed at its end. -/
def withoutLineEnd (path : List Char) : List Char :=
  if path.getLast? = some '\n' then path.dropLast else path

/-- The route of a path, if it has one. -/
def route? (path : String) : Option Route :=
  let cs := withoutLineEnd path.toList
  match String.ofList cs with
  | "/health" => some .health
  | "/components" => some .components
  | "/component-types" => some .typeList
  | "/docs/component-types" => some .docs
  | _ =>
    if typePrefix.isPrefixOf cs then
      let name := cs.drop typePrefix.length
      if name.contains '\n' then none else some (.typeInfo (String.ofList name))
    else none

/-- The paths of the pages that a framework has by itself: a description of the service and three
that show it. -/
def ownPaths : List String :=
  ["/openapi.json", "/docs", "/docs/oauth2-redirect", "/redoc"]

/-- Whether a framework has a page of its own at a path. -/
def isOwn (path : String) : Bool :=
  ownPaths.contains (String.ofList (withoutLineEnd path.toList))

/-- The path with a slash more at its end, or with none. -/
def otherSlash (path : String) : String :=
  let cs := path.toList
  if cs.getLast? = some '/' then String.ofList (Text.dropTrailing (· == '/') cs) else path ++ "/"

/-- The characters that stay as they are in the address of a redirect. -/
def locationSafe (c : Char) : Bool :=
  Text.isUnreserved c || ":/%#?=@[]!$&'()*+,;".toList.contains c

/-- A location with escapes for the characters that may not stand there. -/
def escapeLocation (s : String) : String :=
  String.ofList (Text.percentEncode locationSafe s.toList)

/-- What becomes of a request. -/
def dispatch (req : Request) : Dispatched :=
  match route? req.path with
  | some route => .handled route
  | none =>
    let other := otherSlash req.path
    if isOwn req.path then
      .answered { status := 200, location := none, body := none, built := none }
    else if req.path ≠ "/" && ((route? other).isSome || isOwn other) then
      .answered (.redirect 307 (escapeLocation (Request.location other req.query)))
    else .answered (.notFound "Not Found")

/-- The text that a field of texts takes a value for. -/
def fieldText? : Value → Option String
  | .str s => some s
  | .bytes bs => (Text.decode? (bs.map (·.toNat))).map String.ofList
  | _ => none

/-- A moment in the form in which it is written in documents. -/
def momentText (m : Moment) : String :=
  match m.time with
  | none => m.dateText
  | some t =>
    let clock := Moment.timeText { t with ahead := none }
    let ahead := match t.ahead with
      | none => ""
      | some minutes => if minutes = 0 then "Z" else Moment.aheadText minutes
    m.dateText ++ "T" ++ clock ++ ahead

mutual

/-- A value with its moments as texts. -/
def withMomentTexts : Value → Value
  | .moment m => .str (momentText m)
  | .list vs => .list (allWithMomentTexts vs)
  | .tuple vs => .tuple (allWithMomentTexts vs)
  | .map entries => .map (entriesWithMomentTexts entries)
  | v => v

/-- Values with their moments as texts. -/
def allWithMomentTexts : List Value → List Value
  | [] => []
  | v :: vs => withMomentTexts v :: allWithMomentTexts vs

/-- Entries with the moments in them as texts. -/
def entriesWithMomentTexts : Entries → Entries
  | [] => []
  | (.moment m, v) :: rest =>
    (.str (momentText m), withMomentTexts v) :: entriesWithMomentTexts rest
  | (k, v) :: rest => (k, withMomentTexts v) :: entriesWithMomentTexts rest

end

/-- The document that a field of data is written as. -/
def fieldDocument (v : Value) : Except ServiceFault Json :=
  bodyOf (withMomentTexts v)

end Service

end PageTree
