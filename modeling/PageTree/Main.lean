import PageTree.CommandLine.Basic
import PageTree.Standard

/-!
# The program

`main` runs a command line on the files below the working directory.  It reads what the words of the
command line and the configuration name, and it leaves everything else to `CommandLine.run`: the
text of the outcome goes to the standard output, its log to the standard error.
-/

namespace PageTree

/-- Adds what stands at a place to a table, if there is anything: a file, or a directory by itself.
-/
def readFileInto (files : Files) (place : String) : IO Files := do
  try
    let content ← IO.FS.readBinFile place
    return files.add place (.octets content.toList)
  catch
    | .noFileOrDirectory .. => return files
    | .inappropriateType .. => return files.add place .directory
    | e => return files.add place (.unreadable (toString e))

/-- Adds what stands at a place to a table: a file, or a directory with the files in it. -/
def readPlaceInto (files : Files) (place : String) : IO Files := do
  try
    let entries ← (← IO.FS.realPath place).readDir
    entries.foldlM
      (fun files entry => readFileInto files (place ++ "/" ++ entry.fileName))
      (files.add place .directory)
  catch _ => readFileInto files place

/-- A line of the log. -/
def noticeLine (n : Notice) : String :=
  "[" ++ n.level.name ++ "] " ++ n.text

end PageTree

open PageTree in
open scoped PageTree.Standard in
/-- Runs the program on the words of its command line. -/
def main (words : List String) : IO UInt32 := do
  let home := (← IO.getEnv "HOME").toList.map fun home => ("", Path.ofText home)
  let named := { Files.none with homes := home }
  let files ← (CommandLine.namedPlaces words).foldlM readPlaceInto named
  let files ← (CommandLine.configuredPlaces files words).foldlM readPlaceInto files
  match CommandLine.run .shipped files words with
  | .error crash =>
    IO.eprintln crash.message
    return 1
  | .ok outcome =>
    for notice in outcome.notices do IO.eprintln (noticeLine notice)
    if outcome.exitCode = 2 then IO.eprint CommandLine.usage
    IO.print outcome.printed
    return UInt32.ofNat outcome.exitCode
