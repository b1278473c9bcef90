/-
**Discovery of source files.**

The source files of a project are the files with one of the given extensions that no rules file
ignores, that match some of the patterns to include, if there are any, and none of those to exclude.
Links are not followed and directories of dependencies not entered.  The files come in the order of
their paths.

Main definitions:

* `ComponentIndex.Project.Filter`, `ComponentIndex.Project.Filter.accepts` — the conditions on a path;
* `ComponentIndex.Project.matchers` — the rules files that count;
* `ComponentIndex.Project.Search`, `ComponentIndex.Project.Search.run` — the search for files.
-/

import ComponentIndex.Project.Glob
import ComponentIndex.Project.Ignore
import ComponentIndex.Project.Tree
import ComponentIndex.Settings.Basic

set_option relaxedAutoImplicit false
set_option autoImplicit false

namespace ComponentIndex.Project

/-! ### Conditions on a path -/

/-- The extension of the file at a path. -/
def extensionOf (path : Path) : Text := FileName.suffix (path.getLast?.getD [])

/-- Some directory on a path is skipped. -/
def passesSkipped (path : Path) : Bool := path.dropLast.any Entry.skippedDirectories.contains

/-- The conditions on the path of a source file. -/
structure Filter where
  /-- Its extension in lower case is one of these. -/
  extensions : List Text
  /-- It matches one of these patterns, if there are any. -/
  includes : List Text := []
  /-- It matches none of these patterns. -/
  excludes : List Text := []
  /-- It is ignored by none of these rules files. -/
  matchers : List Ignore.Matcher := []

namespace Filter

/-- The extension is one of those that are sought, and no directory is skipped. -/
def allowsName (f : Filter) (path : Path) : Bool :=
  f.extensions.contains (extensionOf path).lower && !passesSkipped path

/-- The patterns to include and to exclude allow a path. -/
def allowsPath (f : Filter) (path : Path) : Bool :=
  let t := path.toText
  (f.includes.isEmpty || f.includes.any (Glob.accepts · t)) &&
    !f.excludes.any (Glob.accepts · t)

/-- The path of a file meets the conditions. -/
def accepts (f : Filter) (path : Path) : Except Failure Bool := do
  if !f.allowsName path then return false
  if ← Ignore.Matcher.someIgnores path f.matchers then return false
  return f.allowsPath path

/-- The path leads to a file, not by a link, and meets the conditions. -/
def acceptsEntry (f : Filter) (path : Path) (root : Entry) : Except Failure Bool :=
  match root.lookup? path with
  | some (.file _) => f.accepts path
  | _ => return false

end Filter

/-! ### Rules files -/

/-- The name of a rules file. -/
def rulesFile : Text := ".gitignore"

/-- Files in the order of their paths. -/
def byPath {α : Type} (files : List (Path × α)) : List (Path × α) :=
  sortBy (fun a b => a.1.toText.less b.1.toText) files

/-- The rules files of a project: that of its root, or those of all directories. -/
def rulesFiles (nested : Bool) (root : Entry) : List (Path × List UInt8) :=
  byPath (root.sourceFiles.filter fun (path, _) =>
    path.getLast? = some rulesFile && (nested || path.length = 1))

/-- The rules files of a project that count. -/
def matchers (nested : Bool) (root : Entry) : Except Failure (List Ignore.Matcher) :=
  (rulesFiles nested root).mapM fun (path, bytes) => Ignore.Matcher.ofBytes path.dropLast bytes

/-! ### The search -/

/-- A search for source files. -/
structure Search where
  /-- Their extensions. -/
  extensions : List Text
  /-- The patterns to include. -/
  includes : List Text := []
  /-- The patterns to exclude. -/
  excludes : List Text := []
  /-- The rules files of all directories count. -/
  nestedIgnore : Bool := false

namespace Search

/-- The search that settings ask for. -/
def ofSettings (s : Settings) : Search where
  extensions := s.extensions
  includes := s.includes
  excludes := s.excludes
  nestedIgnore := s.nestedIgnore

/-- The conditions of a search in a project. -/
def filterIn (s : Search) (root : Entry) : Except Failure Filter := do
  return { extensions := s.extensions.map Text.lower
           includes := s.includes
           excludes := s.excludes
           matchers := ← matchers s.nestedIgnore root }

/-- The source files of a project with their bytes, in the order of their paths. -/
def run (s : Search) (root : Entry) : Except Failure (List (Path × List UInt8)) := do
  let f ← s.filterIn root
  return byPath (← root.sourceFiles.filterM fun (path, _) => f.accepts path)

end Search

end ComponentIndex.Project
