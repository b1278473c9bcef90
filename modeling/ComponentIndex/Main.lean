/-
**The program.**

The project is read from the disk, the request is run on it, and its outcome is printed: the records
on the standard output, the log on the standard error.  Everything is decided elsewhere.

Main definitions:

* `ComponentIndex.Disk.readSite` — the root of a project on the disk;
* `ComponentIndex.Program.run` — a run of the program.
-/

import ComponentIndex.Command.Run

set_option relaxedAutoImplicit false
set_option autoImplicit false

namespace ComponentIndex

namespace Disk

/-- Where a link leads: a path from its directory, which lies at the given depth of the project, or
the root of the disk if the project is left. -/
def linkTarget (root : Text) (depth : Nat) (real : Text) : Text :=
  let inside := root ++ Text.ofString "/"
  if inside.isPrefixOf real then
    Text.join "/" (List.replicate depth (Text.ofString "..") ++ [real.drop inside.length])
  else "/"

/-- An entry of a directory at the given depth of the project. Directories that are skipped are read
as empty ones, and what is neither a directory nor a link nor a file as an empty file. -/
partial def readEntry (root : Text) (depth : Nat) (e : IO.FS.DirEntry) :
    IO (Option (Text × Project.Entry)) := do
  let name := Text.ofString e.fileName
  try
    match (← e.path.symlinkMetadata).type with
    | .dir =>
      if Project.Entry.skippedDirectories.contains name then return some (name, .directory [])
      let inner ← (← e.path.readDir).toList.filterMapM (readEntry root (depth + 1))
      return some (name, .directory inner)
    | .symlink =>
      let real ← IO.FS.realPath e.path
      return some (name, .link (linkTarget root depth (Text.ofString real.toString)))
    | .file => return some (name, .file (← IO.FS.readBinFile e.path).toList)
    | .other => return none
  catch _ => return none

/-- A path with the home directory in place of a tilde at its beginning. -/
def expandHome (path : String) : IO String := do
  match path.toList, ← IO.getEnv "HOME" with
  | ['~'], some home => return home
  | '~' :: '/' :: rest, some home => return home ++ "/" ++ String.ofList rest
  | _, _ => return path

/-- What is at the root of a project; a root that is no directory is empty. -/
def readRoot (root : String) (entries : IO (Array IO.FS.DirEntry)) : IO Project.Entry := do
  try
    return .directory (← (← entries).toList.filterMapM (readEntry (Text.ofString root) 0))
  catch _ => return .directory []

/-- The root of a project at a path of the disk. Where nothing is, the project is empty. -/
def readSite (path : String) : IO Site := do
  let path ← expandHome path
  try
    let real ← IO.FS.realPath path
    return ⟨Text.ofString real.toString, ← readRoot real.toString real.readDir⟩
  catch _ => return ⟨Text.ofString path, .directory []⟩

end Disk

namespace Program

/-- How the program is used. -/
def usage : String := "usage: vueindex [-h] [-v] \x7bscan,stubs,vfor\x7d [root]"

/-- The exit code of a run that fails. -/
def failedCode : UInt32 := 1

/-- Runs a request and prints its outcome. -/
def runRequest (r : Request) : IO UInt32 := do
  let site ← Disk.readSite r.root.toDisplay
  match r.command.run site r.verbose with
  | .ok outcome =>
    for line in outcome.printed do IO.println line.toDisplay
    for line in outcome.logged do IO.eprintln line.toDisplay
    return outcome.exitCode.toUInt32
  | .error failure =>
    IO.eprintln ("error: " ++ failure.message.toDisplay)
    return failedCode

/-- A run of the program with the given arguments. -/
def run (arguments : List String) : IO UInt32 := do
  match Arguments.parse (arguments.map Text.ofString) with
  | .request r => runRequest r
  | .help =>
    IO.println usage
    return 0
  | .refused =>
    IO.eprintln usage
    return Command.refusedCode.toUInt32

end Program

end ComponentIndex

/-- The program. -/
def main (arguments : List String) : IO UInt32 := ComponentIndex.Program.run arguments
