/-
**Writing JSON.**

Records are written on one line without blanks, the keys of a table in their order by code points,
and with no escapes but those that JSON needs.  A surrogate cannot be written.

Main definitions:

* `ComponentIndex.Json.quoted` — a text as JSON;
* `ComponentIndex.Json.write` — a value as JSON;
* `ComponentIndex.Json.write?` — the same, unless a surrogate is in the way.
-/

import ComponentIndex.Data.Shown
import ComponentIndex.Text.Order

set_option relaxedAutoImplicit false
set_option autoImplicit false

namespace ComponentIndex.Json

/-- A code point inside quotes. -/
def escaped (c : CodePoint) : Text :=
  if c = ('"' : CodePoint) || c = ('\\' : CodePoint) then [('\\' : CodePoint), c]
  else if 0x20 ≤ c.val then [c]
  else if c.val = 0x08 then "\\b"
  else if c.val = 0x09 then "\\t"
  else if c.val = 0x0A then "\\n"
  else if c.val = 0x0C then "\\f"
  else if c.val = 0x0D then "\\r"
  else Text.ofString "\\u" ++ Text.hexDigits 4 c.val

/-- A text between quotes. -/
def quoted (t : Text) : Text := ('"' : CodePoint) :: t.flatMap escaped ++ Text.ofString "\""

mutual

/-- A value as JSON. A number that JSON cannot spell is written as null, a moment as a text. -/
def write : Data → Text
  | .null => "null"
  | .bool b => Text.ofString (if b then "true" else "false")
  | .int n => Text.ofString (toString n)
  | .float x => if x.isFinite then x.shown else Text.ofString "null"
  | .text t => quoted t
  | .moment m => quoted m.shown
  | .list items => ('[' : CodePoint) :: Text.join "," (writeItems items) ++ Text.ofString "]"
  | .table entries =>
    ('\x7b' : CodePoint) ::
      Text.join "," ((sortBy (fun a b => a.1.less b.1) (writeEntries entries)).map Prod.snd) ++
      [('\x7d' : CodePoint)]

/-- Some values as JSON. -/
def writeItems : List Data → List Text
  | [] => []
  | d :: ds => write d :: writeItems ds

/-- The entries of a table as JSON, each beside its key. -/
def writeEntries : List (Text × Data) → List (Text × Text)
  | [] => []
  | (key, d) :: entries =>
    (key, quoted key ++ ('\x3a' : CodePoint) :: write d) :: writeEntries entries

end

/-- A value as JSON, if it holds no surrogate. -/
def write? (d : Data) : Option Text :=
  let t := write d
  if t.isScalar then some t else none

end ComponentIndex.Json
