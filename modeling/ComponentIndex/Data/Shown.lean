/-
**Data values in messages.**

Main definitions:

* `ComponentIndex.Data.shown` — the text of a value: texts are quoted, lists stand in brackets and
  tables in braces.
-/

import ComponentIndex.Data.Basic
import ComponentIndex.Number.Shortest
import ComponentIndex.Text.Quoted

set_option relaxedAutoImplicit false
set_option autoImplicit false

namespace ComponentIndex.Data

mutual

/-- The text of a value. -/
def shown : Data → Text
  | .null => "None"
  | .bool b => Text.ofString (if b then "True" else "False")
  | .int n => Text.ofString (toString n)
  | .float x => x.shown
  | .text t => t.quoted
  | .moment m => m.shown
  | .list items => ('[' : CodePoint) :: Text.join ", " (shownItems items) ++ Text.ofString "]"
  | .table entries =>
    ('\x7b' : CodePoint) :: Text.join ", " (shownEntries entries) ++ [('\x7d' : CodePoint)]

/-- The texts of some values. -/
def shownItems : List Data → List Text
  | [] => []
  | d :: ds => shown d :: shownItems ds

/-- The texts of some entries of a table. -/
def shownEntries : List (Text × Data) → List Text
  | [] => []
  | (key, d) :: entries => (key.quoted ++ Text.ofString ": " ++ shown d) :: shownEntries entries

end

end ComponentIndex.Data
