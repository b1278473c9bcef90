/-
**Settings of a project.**

The settings say which files belong to a project, which of them are components, and whether the
framework is active.  Extensions are kept in lower case with a dot before them.

Main definitions:

* `ComponentIndex.Settings` — the settings, and their values where nothing is said;
* `ComponentIndex.Settings.normalExtension` — the form in which an extension is kept;
* `ComponentIndex.Settings.extensions` — the extensions of all source files.
-/

import ComponentIndex.SourceFile
import ComponentIndex.Text.Order

set_option relaxedAutoImplicit false
set_option autoImplicit false

namespace ComponentIndex

/-- The extensions of scripts where nothing else is said. -/
def defaultScriptExtensions : List Text := [".js", ".mjs", ".cjs", ".jsx"]

/-- The settings of a project. -/
structure Settings where
  /-- The patterns of the files that belong to the project; all files if there is none. -/
  includes : List Text := []
  /-- The patterns of the files that do not belong to it. -/
  excludes : List Text := []
  /-- The rules files of all directories count, not only that of the root. -/
  nestedIgnore : Bool := false
  /-- The extensions of scripts. -/
  scriptExtensions : List Text := defaultScriptExtensions
  /-- The extensions of components. -/
  componentExtensions : List Text := defaultComponentExtensions
  /-- The framework is active or not; if nothing is said, the project tells. -/
  enabled : Option Bool := none
deriving DecidableEq

namespace Settings

/-- The settings where nothing is said. -/
def standard : Settings := {}

/-- An extension in lower case with a dot before it. -/
def normalExtension (t : Text) : Text :=
  let lowered := t.lower
  if lowered.head? = some ('.' : CodePoint) then lowered else ('.' : CodePoint) :: lowered

/-- A text names an extension if it holds something beside dots. -/
def namesExtension (t : Text) : Bool := t.any fun c => c ≠ ('.' : CodePoint)

/-- The extensions of all source files, those of scripts first, each once. -/
def extensions (s : Settings) : List Text := distinct (s.scriptExtensions ++ s.componentExtensions)

end Settings

end ComponentIndex
