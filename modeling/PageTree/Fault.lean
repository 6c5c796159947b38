import PageTree.Value.Display

/-!
# Faults

What can go wrong when values are used: each constructor of `Fault` is a cause.  A fault has a kind,
under which records list it, and a message.
-/

namespace PageTree

/-- A cause for which an operation on values fails. -/
inductive Fault where
  /-- A transform reported a failure of its own. -/
  | raised (kind message : String)
  /-- The data of a node is no mapping. -/
  | nodeNotMapping (kind : String)
  /-- The type of a node is no text. -/
  | nodeTypeNotText (kind : String)
  /-- The configuration of a node is no mapping. -/
  | configNotMapping (type : String)
  /-- The children of a node are no list. -/
  | childrenNotList (type : Value)
  /-- A child is neither text nor node. -/
  | invalidChild (child : Value)
  /-- A data requirement is neither a mapping nor a type tag. -/
  | badRequirement (name : Key)
  /-- The depth bound of a resolver is below one. -/
  | badDepth
  /-- A value that has to be a mapping is none. -/
  | notMapping (kind : String)
  /-- A value that has to be walked through is no collection. -/
  | notIterable (kind : String)
  /-- A value cannot name an entry of a mapping. -/
  | notKey (kind : String)
  /-- An element of a list of entries is no pair at all. -/
  | notEntry (index : Nat)
  /-- An element of a list of entries does not have two parts. -/
  | entryLength (index length : Nat)
  /-- A value does not have an operation. -/
  | noOperation (kind operation : String)
  /-- A value is used as a function. -/
  | notCallable (kind : String)
  /-- A value is used as a sequence. -/
  | notSequence (kind : String)
  /-- A value is used as a path. -/
  | notPath (kind : String)
  /-- A value cannot be read as a whole number. -/
  | notInteger (kind : String)
  /-- A text is no whole number. -/
  | badInteger (text : Value)
  /-- A numeral of a whole number has too many digits. -/
  | longInteger (digits : Nat)
  /-- A float that is no number has no whole part. -/
  | nanInteger
  /-- An infinity has no whole part. -/
  | infiniteInteger
  /-- A value cannot be read as a float. -/
  | notFloat (kind : String)
  /-- A text is no float. -/
  | badFloat (text : Value)
  /-- A whole number is too large for a float. -/
  | largeFloat
  /-- Two values cannot be multiplied. -/
  | noProduct (left right : String)
  /-- Two values cannot be subtracted. -/
  | noDifference (left right : String)
  /-- A sequence has fewer elements than are taken from it. -/
  | tooFew (expected got : Nat)
  /-- An operation misses arguments. -/
  | missingArguments (operation : String) (names : List String)
  /-- An operation gets more arguments than it takes. -/
  | extraArguments (operation : String) (least most given : Nat)
  /-- The address of an image is no text. -/
  | addressNotText (v : Value)
  /-- A text is no address. -/
  | address (reason : String)
  /-- A text is no markup. -/
  | rejectedMarkup (reason : String)
  /-- What a markup text holds is no text of characters. -/
  | noCharacters

instance : Inhabited Fault := ⟨.badDepth⟩

namespace Fault

/-- The kind of a fault. -/
def kind : Fault → String
  | raised kind _ => kind
  | nodeNotMapping _ => "ValueError"
  | nodeTypeNotText _ => "ValueError"
  | configNotMapping _ => "ValueError"
  | childrenNotList _ => "ValueError"
  | invalidChild _ => "ValueError"
  | badRequirement _ => "ValueError"
  | badDepth => "ValueError"
  | notMapping _ => "TypeError"
  | notIterable _ => "TypeError"
  | notKey _ => "TypeError"
  | notEntry _ => "TypeError"
  | entryLength _ _ => "ValueError"
  | noOperation _ _ => "AttributeError"
  | notCallable _ => "TypeError"
  | notSequence _ => "TypeError"
  | notPath _ => "TypeError"
  | notInteger _ => "TypeError"
  | badInteger _ => "ValueError"
  | longInteger _ => "ValueError"
  | nanInteger => "ValueError"
  | infiniteInteger => "OverflowError"
  | notFloat _ => "TypeError"
  | badFloat _ => "ValueError"
  | largeFloat => "OverflowError"
  | noProduct _ _ => "TypeError"
  | noDifference _ _ => "TypeError"
  | tooFew _ _ => "ValueError"
  | missingArguments _ _ => "TypeError"
  | extraArguments _ _ _ _ => "TypeError"
  | addressNotText _ => "TypeError"
  | address _ => "InvalidURL"
  | rejectedMarkup _ => "ParserRejectedMarkup"
  | noCharacters => "NoCharacters"

/-- Names in quotation marks, the last one after "and". -/
def listNames : List String → String
  | [] => ""
  | [a] => Text.quote a
  | [a, b] => Text.quote a ++ " and " ++ Text.quote b
  | [a, b, c] => Text.quote a ++ ", " ++ Text.quote b ++ ", and " ++ Text.quote c
  | a :: rest => Text.quote a ++ ", " ++ listNames rest

/-- The ending of a noun after a count. -/
def plural (n : Nat) : String :=
  if n = 1 then "" else "s"

/-- The first `n` characters of a text. -/
def clip (n : Nat) (s : String) : String :=
  String.ofList (s.toList.take n)

/-- The text of a fault. -/
def message : Fault → String
  | raised _ message => message
  | nodeNotMapping kind => "Component data must be a mapping, got " ++ kind
  | nodeTypeNotText kind => "Component type must be a string, got " ++ kind
  | configNotMapping type => "Component " ++ Text.quote type ++ ": config must be a mapping"
  | childrenNotList type => "Component " ++ type.show ++ ": children must be a list"
  | invalidChild child => "Invalid child node: " ++ child.show
  | badRequirement name =>
    "Data requirement '" ++ name.text ++ "' must be a mapping or type string"
  | badDepth => "max_depth must be at least 1"
  | notMapping kind => "'" ++ kind ++ "' object is not a mapping"
  | notIterable kind => "'" ++ kind ++ "' object is not iterable"
  | notKey kind => "unhashable type: '" ++ kind ++ "'"
  | notEntry i =>
    "cannot convert dictionary update sequence element #" ++ toString i ++ " to a sequence"
  | entryLength i n =>
    "dictionary update sequence element #" ++ toString i ++ " has length " ++ toString n ++
      "; 2 is required"
  | noOperation kind operation =>
    "'" ++ kind ++ "' object has no attribute '" ++ operation ++ "'"
  | notCallable kind => "'" ++ kind ++ "' object is not callable"
  | notSequence kind => "'" ++ kind ++ "' object is not subscriptable"
  | notPath kind => "expected str, bytes or os.PathLike object, not " ++ kind
  | notInteger kind =>
    "int() argument must be a string, a bytes-like object or a real number, not '" ++ kind ++ "'"
  | badInteger text => "invalid literal for int() with base 10: " ++ clip 200 text.show
  | longInteger digits =>
    "Exceeds the limit (4300 digits) for integer string conversion: value has " ++
      toString digits ++ " digits; use sys.set_int_max_str_digits() to increase the limit"
  | nanInteger => "cannot convert float NaN to integer"
  | infiniteInteger => "cannot convert float infinity to integer"
  | notFloat kind => "float() argument must be a string or a real number, not '" ++ kind ++ "'"
  | badFloat text => "could not convert string to float: " ++ text.show
  | largeFloat => "int too large to convert to float"
  | noProduct left right =>
    "unsupported operand type(s) for *: '" ++ left ++ "' and '" ++ right ++ "'"
  | noDifference left right =>
    "unsupported operand type(s) for -: '" ++ left ++ "' and '" ++ right ++ "'"
  | tooFew expected got =>
    "not enough values to unpack (expected " ++ toString expected ++ ", got " ++ toString got ++ ")"
  | missingArguments operation names =>
    operation ++ "() missing " ++ toString names.length ++ " required positional argument" ++
      plural names.length ++ ": " ++ listNames names
  | extraArguments operation least most given =>
    operation ++ "() takes from " ++ toString least ++ " to " ++ toString most ++
      " positional arguments but " ++ toString given ++ " were given"
  | addressNotText v =>
    "Invalid type for url.  Expected str or httpx.URL, got <class '" ++ v.kind ++ "'>: " ++ v.show
  | address reason => reason
  | rejectedMarkup reason =>
    "The markup you provided was rejected by the parser. Trying a different parser or a " ++
      "different encoding may help.\n\nOriginal error(s) from parser:\n  AssertionError: " ++ reason
  | noCharacters => "the markup refers to code points that are no characters"

end Fault

end PageTree
