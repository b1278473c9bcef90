/-
**Scanning a project.**

Main definitions:

* `ComponentIndex.Project.settingsOf` — the settings of a project;
* `ComponentIndex.Project.sourceFiles` — the source files of a project;
* `ComponentIndex.Project.scan` — the indexes of its files;
* `ComponentIndex.Project.scanLoops` — the types of the loop variables of its components.
-/

import ComponentIndex.Index.File
import ComponentIndex.Project.Detection
import ComponentIndex.Settings.Reader

set_option relaxedAutoImplicit false
set_option autoImplicit false

namespace ComponentIndex.Project

/-- The name of the settings file. -/
def settingsFile : Text := "vueindex.toml"

/-- The settings of a project: those of its settings file, or the standard ones if there is none. -/
def settingsOf (root : Entry) : Except Failure (Except Settings.Problem Settings) :=
  match root.readFile? [settingsFile] with
  | some bytes => Settings.ofBytes bytes
  | none => return .ok .standard

/-- The source file with a given path and bytes. -/
def loadedFile [Parsers] (componentExtensions : List Text) (path : Text) (bytes : List UInt8) :
    SourceFile :=
  SourceFile.ofBytes path bytes (FileType.ofPath path componentExtensions)

/-- The source file at a path, if there is a file. -/
def loadFile? [Parsers] (componentExtensions : List Text) (path : Text) (root : Entry) :
    Option SourceFile :=
  (root.readFile? (FileName.components path)).map (loadedFile componentExtensions path)

/-- The source files of a project with their bytes. -/
def sourceFiles (s : Settings) (root : Entry) : Except Failure (List (Path × List UInt8)) :=
  (Search.ofSettings s).run root

/-- The indexes of the source files of a project. -/
def scan [Parsers] (x : ExtensionPoint) (s : Settings) (root : Entry) :
    Except Failure (List FileIndex) := do
  return (← sourceFiles s root).map fun (path, bytes) =>
    FileIndex.ofFile x (loadedFile s.componentExtensions path.toText bytes)

/-- The component files of a project with their bytes. -/
def componentFiles (s : Settings) (root : Entry) : Except Failure (List (Path × List UInt8)) := do
  return (← sourceFiles s root).filter fun (path, _) =>
    s.componentExtensions.contains (extensionOf path).lower

/-- The types of the loop variables of the components of a project. -/
def scanLoops [Parsers] (x : ExtensionPoint) (s : Settings) (active : Bool) (root : Entry) :
    Except Failure (List LoopType) := do
  return (← componentFiles s root).flatMap fun (path, bytes) =>
    loopTypes x path.toText bytes active

end ComponentIndex.Project
