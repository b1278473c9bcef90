/-
**Data values.**

What a settings file or a manifest holds is data: trees of lists and tables over scalars.  The
entries of a table keep the order in which their keys came first, and a later value of a key
replaces an earlier one.

Main definitions:

* `ComponentIndex.Data` — the values;
* `ComponentIndex.Data.put`, `ComponentIndex.Data.field?` — writing and reading a table.
-/

import ComponentIndex.Data.Moment
import ComponentIndex.Number.Binary64

set_option relaxedAutoImplicit false
set_option autoImplicit false

namespace ComponentIndex

/-- A data value. -/
inductive Data where
  /-- No value. -/
  | null
  /-- A truth value. -/
  | bool (b : Bool)
  /-- A whole number of any size. -/
  | int (n : Int)
  /-- A number of limited precision. -/
  | float (x : Binary64)
  /-- A text. -/
  | text (t : Text)
  /-- A day or a time. -/
  | moment (m : Moment)
  /-- A list. -/
  | list (items : List Data)
  /-- A table: keys with their values. -/
  | table (entries : List (Text × Data))

namespace Data

instance : Inhabited Data := ⟨.null⟩

/-- Entries with the value of a key replaced, or the key added at the end. -/
def put (key : Text) (value : Data) : List (Text × Data) → List (Text × Data)
  | [] => [(key, value)]
  | (k, v) :: rest => if k = key then (key, value) :: rest else (k, v) :: put key value rest

/-- The table with the given entries; of several values of a key the last one counts. -/
def ofEntries (entries : List (Text × Data)) : Data :=
  .table (entries.foldl (fun es (key, value) => put key value es) [])

/-- The value of a key, if the value is a table that has it. -/
def field? (key : Text) : Data → Option Data
  | .table entries => entries.lookup key
  | _ => none

/-- The value is a table that has a key. -/
def hasField (key : Text) (d : Data) : Bool := (d.field? key).isSome

end Data

end ComponentIndex
