/-
**Growing a tree of tables.**

The statements of a settings file write to one tree of tables.  What may be written later depends on
how a table came about: a table that is written as a value can never be written to, and one that a
header has opened can neither be opened again nor be reached by the keys of another table.  Such
facts are kept as marks on paths.

Main definitions:

* `ComponentIndex.Toml.PathMark`, `ComponentIndex.Toml.isMarked` — marks on paths;
* `ComponentIndex.Toml.modifyAt?` — changing the table at a path, which is made if it is missing;
* `ComponentIndex.Toml.insertNew?` — adding an entry under a new key;
* `ComponentIndex.Toml.ofPairs?` — the table of the pairs between braces.
-/

import ComponentIndex.Data.Basic

set_option relaxedAutoImplicit false
set_option autoImplicit false

namespace ComponentIndex.Toml

/-- The keys from the root to a value. -/
abbrev Path := List Text

/-- A fact about a path. -/
inductive PathFact where
  /-- The value and all below it is complete. -/
  | frozen
  /-- The table has been opened. -/
  | opened
deriving DecidableEq

/-- A path with a fact about it. -/
structure PathMark where
  /-- The path. -/
  path : Path
  /-- The fact. -/
  kind : PathFact

/-- A fact holds of a path: it is marked so, or lies below a frozen one. -/
def isMarked (kind : PathFact) (path : Path) (marks : List PathMark) : Bool :=
  marks.any fun m =>
    m.kind = kind && (m.path = path || (kind = .frozen && m.path.isPrefixOf path))

/-- The marks without those on a path and below it. -/
def unmark (path : Path) (marks : List PathMark) : List PathMark :=
  marks.filter fun m => !path.isPrefixOf m.path

/-- The value is a table or a list. -/
def isContainer : Data → Bool
  | .table _ | .list _ => true
  | _ => false

/-- The entries of a table after the table at a path has been changed. Missing tables are made; a
list stands for its last item if `entersLists`. -/
def modifyAt? (entersLists : Bool)
    (change : List (Text × Data) → Option (List (Text × Data))) :
    Path → List (Text × Data) → Option (List (Text × Data))
  | [], entries => change entries
  | key :: path, entries =>
    match entries.lookup key with
    | none =>
      (modifyAt? entersLists change path []).map fun inner => Data.put key (.table inner) entries
    | some (.table inner) =>
      (modifyAt? entersLists change path inner).map fun inner => Data.put key (.table inner) entries
    | some (.list items) =>
      match items.getLast? with
      | some (.table inner) =>
        if entersLists then
          (modifyAt? entersLists change path inner).map fun inner =>
            Data.put key (.list (items.dropLast ++ [.table inner])) entries
        else none
      | _ => none
    | some _ => none

/-- The entries with one more under a key that is not there yet. -/
def insertNew? (key : Text) (value : Data) (entries : List (Text × Data)) :
    Option (List (Text × Data)) :=
  if (entries.lookup key).isSome then none else some (Data.put key value entries)

/-- The entries with an empty table added to the list under a key, which is made if it is missing. -/
def addToList? (key : Text) (entries : List (Text × Data)) : Option (List (Text × Data)) :=
  match entries.lookup key with
  | none => some (Data.put key (.list [.table []]) entries)
  | some (.list items) => some (Data.put key (.list (items ++ [.table []])) entries)
  | some _ => none

/-- The last key of a path, and the path before it. -/
def splitLast? (path : Path) : Option (Path × Text) :=
  path.getLast?.map fun key => (path.dropLast, key)

/-- One more pair of a table between braces. -/
def addPair? (state : List PathMark × List (Text × Data)) (pair : Path × Data) :
    Option (List PathMark × List (Text × Data)) := do
  let (marks, entries) := state
  let (path, value) := pair
  let (parent, key) ← splitLast? path
  guard (!isMarked .frozen path marks)
  let entries ← modifyAt? false (insertNew? key value) parent entries
  return (if isContainer value then ⟨path, .frozen⟩ :: marks else marks, entries)

/-- The table of the pairs between braces. -/
def ofPairs? (pairs : List (Path × Data)) : Option Data :=
  (pairs.foldlM addPair? ([], [])).map fun (_, entries) => .table entries

end ComponentIndex.Toml
