/-
**Commands.**

A command prints records, one a line, and logs what it does if it is told to.  Settings that are
refused end it with an error.

Main definitions:

* `ComponentIndex.Site` — the root of a project, with its name in messages;
* `ComponentIndex.Outcome` — what a command prints and logs, and its exit code;
* `ComponentIndex.Command.records` — the records that a command prints;
* `ComponentIndex.Request.run` — the outcome of a request.
-/

import ComponentIndex.Command.Arguments
import ComponentIndex.Command.Notice
import ComponentIndex.Index.Record
import ComponentIndex.Json.Writer

set_option relaxedAutoImplicit false
set_option autoImplicit false

namespace ComponentIndex

/-- The root of a project. -/
structure Site where
  /-- Its name in messages. -/
  name : Text
  /-- What is there. -/
  entry : Project.Entry

/-- The root at a path in a tree that has a name of its own. What lies outside of the tree is
empty. -/
def Site.at (treeName : Text) (tree : Project.Entry) (path : Text) : Site :=
  let isOutside := path.head? = some ('/' : CodePoint) || path.head? = some ('~' : CodePoint)
  match if isOutside then none else tree.realPath? (path.splitOn '/') with
  | some real => ⟨Text.join "/" (treeName :: real), (tree.at? real).getD (.directory [])⟩
  | none => ⟨path, .directory []⟩

/-- What a command prints and logs. -/
structure Outcome where
  /-- The exit code. -/
  exitCode : Nat
  /-- The lines that are printed. -/
  printed : List Text
  /-- The lines that are logged. -/
  logged : List Text
deriving DecidableEq

namespace Command

/-- The occurrences that are printed, file by file in the order of their positions. -/
def occurrences (indexes : List FileIndex) : List Occurrence :=
  indexes.flatMap FileIndex.sortedOccurrences

/-- The literals that are printed. -/
def stubLiterals (indexes : List FileIndex) : List StubLiteral := indexes.flatMap FileIndex.stubs

/-- The records that a command prints. -/
def records [Parsers] (x : ExtensionPoint) (s : Settings) (root : Project.Entry) :
    Command → Except Failure (List Data)
  | scan => do return (occurrences (← Project.scan x s root)).map Occurrence.record
  | stubs => do return (stubLiterals (← Project.scan x s root)).map StubLiteral.record
  | loops => do
    let active ← Project.isActive s root
    return (← Project.scanLoops x s active root).map LoopType.record

/-- What a command logs. -/
def notices [Parsers] (x : ExtensionPoint) (s : Settings) (site : Site) :
    Command → Except Failure (List Notice)
  | scan | stubs => do
    return (← Project.sourceFiles s site.entry).flatMap fun (path, bytes) =>
      Notice.ofFile x s path.toText bytes
  | loops => do
    let active ← Project.isActive s site.entry
    let files ← Project.componentFiles s site.entry
    return Notice.ofManifest site.name s site.entry ++
      (if active then [] else [.inactive site.name]) ++
      files.flatMap fun (path, bytes) => Notice.ofLoops path.toText bytes

/-- The lines of some records. A record that holds a surrogate cannot be written. -/
def lines (records : List Data) : Except Failure (List Text) :=
  records.mapM fun r =>
    match Json.write? r with
    | some t => .ok t
    | none => .error .unwritable

/-- The exit code of a command whose settings or arguments are refused. -/
def refusedCode : Nat := 2

/-- The outcome where the settings are refused. -/
def refusedSettings (site : Site) (p : Settings.Problem) : Outcome where
  exitCode := refusedCode
  printed := []
  logged := [Text.ofString "error: " ++
    p.message (Text.join "/" [site.name, Project.settingsFile])]

/-- The outcome with the given settings. -/
def runWith [Parsers] (s : Settings) (site : Site) (verbose : Bool) (c : Command) :
    Except Failure Outcome := do
  let printed ← lines (← c.records .standard s site.entry)
  let logged ← if verbose then c.notices .standard s site else pure []
  return ⟨0, printed, logged.map Notice.line⟩

/-- The outcome of a command. -/
def run [Parsers] (site : Site) (verbose : Bool) (c : Command) : Except Failure Outcome := do
  match ← Project.settingsOf site.entry with
  | .ok s => c.runWith s site verbose
  | .error p => return refusedSettings site p

end Command

/-- The outcome of a request in a tree of files. -/
def Request.run [Parsers] (treeName : Text) (tree : Project.Entry) (r : Request) :
    Except Failure Outcome :=
  r.command.run (Site.at treeName tree r.root) r.verbose

end ComponentIndex
