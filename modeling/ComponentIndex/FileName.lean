/-
**File names.**

Paths are written with slashes; a backslash counts as one.  A path has *components*, its parts that
are neither empty nor a single dot; its *base name* is the last of them, and a *stem* or a *suffix*
is cut off a name at its last dot.

Main definitions:

* `ComponentIndex.FileName.components`, `ComponentIndex.FileName.baseName` — the parts of a path and
  the last of them;
* `ComponentIndex.FileName.stem` — the base name cut at its last dot;
* `ComponentIndex.FileName.afterLastSlash` — the other way to name a file;
* `ComponentIndex.FileName.suffix` — a name from its last dot on.
-/

import ComponentIndex.Text.Basic

set_option relaxedAutoImplicit false
set_option autoImplicit false

namespace ComponentIndex.FileName

/-- A path with slashes for its backslashes. -/
def withSlashes (path : Text) : Text := path.replace '\\' '/'

/-- The parts of a path that name something: neither empty nor a single dot. -/
def components (path : Text) : List Text :=
  (path.splitOn '/').filter fun part => part != [] && part != Text.ofString "."

/-- The last component of a path; empty if it has none. -/
def baseName (path : Text) : Text := (components path).getLast?.getD []

/-- The base name of a path without its last extension. -/
def stem (path : Text) : Text :=
  let base := baseName (withSlashes path)
  (base.beforeLast? '.').getD base

/-- What follows the last separator of a path. -/
def afterLastSlash (path : Text) : Text := (withSlashes path).afterLast '/'

/-- A name from its last dot on, if that dot is neither its first nor its last character. -/
def suffix (name : Text) : Text :=
  let extension := name.afterLast '.'
  if extension.length + 1 < name.length && extension != [] then ('.' : CodePoint) :: extension
  else []

end ComponentIndex.FileName
