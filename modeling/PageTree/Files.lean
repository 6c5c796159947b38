import PageTree.Text.Blank
import PageTree.Text.Quoted
import PageTree.Text.Utf8
import PageTree.Value.Basic

/-!
# Files

The files that definitions, configurations and trees are read from, as a table of paths and
contents.  A `Path` is kept in normal form: without empty parts and without parts that are a single
dot.  A file holds octets, or it is a plug-in: a module of the host that registers definitions when
it is loaded.

`Files.readText?` reads a file as text: its octets are decoded strictly, and every kind of line end
becomes a line feed.  `Files.refusal?` says why the system does not give the octets at all.  A
relative path whose first name starts with a tilde means a place in the home directory of a user,
once `Files.expandHome?` has followed it.
-/

namespace PageTree

/-- A place in the file system, given by the names on the way to it. -/
structure Path where
  absolute : Bool
  parts : List String
  deriving DecidableEq

namespace Path

/-- Reads a path: empty parts and single dots are left out. -/
def ofText (s : String) : Path where
  absolute := s.toList.head? == some '/'
  parts := (Text.splitAt '/' s).filter fun p => p ≠ "" && p ≠ "."

/-- A path as text; the empty one is a dot. -/
def text (p : Path) : String :=
  let joined := String.intercalate "/" p.parts
  if p.absolute then "/" ++ joined else if joined = "" then "." else joined

/-- The last name of a path. -/
def name (p : Path) : String :=
  p.parts.getLast?.getD ""

/-- The place of the last dot of a name that is neither its first nor its last character. -/
def suffixOf (name : List Char) : List Char :=
  match Text.cut? '.' name.reverse with
  | some (after, before) => if after = [] || before = [] then [] else '.' :: after.reverse
  | none => []

/-- The ending of the last name of a path, with its dot. -/
def suffix (p : Path) : String :=
  String.ofList (suffixOf p.name.toList)

/-- A path with another last name, if it has one at all. -/
def withName? (p : Path) (name : String) : Option Path :=
  if p.name = "" then none else some { p with parts := p.parts.dropLast ++ [name] }

/-- The place of a name inside a directory. -/
def child (p : Path) (name : String) : Path :=
  { p with parts := p.parts ++ [name] }

end Path

/-- What a plug-in does when it is loaded. -/
structure Plugin where
  /-- The message with which loading the module fails, if it does. -/
  refusal : Option String
  /-- Whether the module registers definitions at all. -/
  hook : Bool
  /-- The names and declarations it registers in turn. -/
  registrations : List (String × Value)
  /-- The message with which it fails after registering them, if it does. -/
  failure : Option String

/-- A plug-in that registers nothing. -/
def Plugin.idle : Plugin where
  refusal := none
  hook := false
  registrations := []
  failure := none

/-- What stands at a place in the file system. -/
inductive FileEntry where
  | directory
  | octets (bs : List UInt8)
  | plugin (p : Plugin)
  /-- A file that the system refuses to read, for a reason. -/
  | unreadable (reason : String)

/-- A table of files and directories by the names on the way to them. -/
structure Files where
  entries : List (List String × FileEntry)
  /-- The home directories, by the names of their users; that of the user who runs the program is
  under the empty name. -/
  homes : List (String × Path) := []

namespace Files

/-- No files. -/
def none : Files where
  entries := []

/-- Adds what stands at a place. -/
def add (fs : Files) (path : String) (e : FileEntry) : Files :=
  { fs with entries := fs.entries ++ [((Path.ofText path).parts, e)] }

/-- What stands at the end of a list of names.  Everything on the way to an entry is a directory. -/
def lookup? (fs : Files) (names : List String) : Option FileEntry :=
  match fs.entries.find? (·.1 == names) with
  | some (_, e) => some e
  | Option.none =>
    if names.isEmpty || fs.entries.any (fun (n, _) => names.isPrefixOf n) then some .directory
    else Option.none

/-- Whether a list of names leads to a directory. -/
def isDirectoryAt (fs : Files) (names : List String) : Bool :=
  match fs.lookup? names with
  | some .directory => true
  | _ => false

/-- The names that lead to the end of a path once its double dots are followed back; the names are
collected in reverse. -/
def follow? (fs : Files) : List String → List String → Option (List String)
  | names, [] => some names.reverse
  | names, part :: rest =>
    if fs.isDirectoryAt names.reverse then
      if part = ".." then
        match names with
        | [] => Option.none
        | _ :: above => fs.follow? above rest
      else fs.follow? (part :: names) rest
    else Option.none

/-- What a path leads to. -/
def get? (fs : Files) (p : Path) : Option FileEntry :=
  if p.absolute then Option.none
  else
    match fs.follow? [] p.parts with
    | some names => fs.lookup? names
    | Option.none => Option.none

/-- Whether a path leads to something. -/
def has (fs : Files) (p : Path) : Bool :=
  (fs.get? p).isSome

/-- Whether a path leads to a directory. -/
def isDirectory (fs : Files) (p : Path) : Bool :=
  match fs.get? p with
  | some .directory => true
  | _ => false

/-- The names of what stands directly in a directory, in the order of their characters. -/
def namesIn (fs : Files) (p : Path) : List String :=
  match fs.follow? [] p.parts with
  | Option.none => []
  | some names =>
    ((fs.entries.filterMap fun (n, _) =>
      if names.isPrefixOf n then (n.drop names.length).head? else Option.none).eraseDups).mergeSort
        fun a b => decide (a ≤ b)

/-- Line ends of every kind as line feeds. -/
def unifyLines : List Char → List Char
  | [] => []
  | '\r' :: '\n' :: cs => '\n' :: unifyLines cs
  | '\r' :: cs => '\n' :: unifyLines cs
  | c :: cs => c :: unifyLines cs

/-- The text that octets encode, if they encode one. -/
def decodeText? (bs : List UInt8) : Option String :=
  (Text.decode? (bs.map (·.toNat))).map fun cs => String.ofList (unifyLines cs)

/-- The text at the end of a path, if there is a file with one. -/
def readText? (fs : Files) (p : Path) : Option String :=
  match fs.get? p with
  | some (.octets bs) => decodeText? bs
  | _ => Option.none

/-- The reason for which the system does not give the octets at the end of a path. -/
def refusal? (fs : Files) (p : Path) : Option String :=
  match fs.get? p with
  | some (.unreadable reason) => some reason
  | some .directory => some ("[Errno 21] Is a directory: " ++ Text.quote p.text)
  | _ => Option.none

/-- A path with the home directory of a user in the place of a first name that starts with a tilde,
if there is such a directory.  Every other path stays as it is. -/
def expandHome? (fs : Files) (p : Path) : Option Path :=
  match p.absolute, p.parts with
  | false, first :: rest =>
    match first.toList with
    | '~' :: user =>
      ((fs.homes.find? fun (name, _) => name.toList == user).map (·.2)).map fun home =>
        { home with parts := home.parts ++ rest }
    | _ => some p
  | _, _ => some p

end Files

end PageTree
