/-
**Settings files as data.**

The statements of a settings file are carried out one after the other; each may be refused by what
was written before.

Main definitions:

* `ComponentIndex.Toml.Document` — what has been written so far;
* `ComponentIndex.Toml.Document.carryOut?` — the effect of a statement;
* `ComponentIndex.Toml.parse?` — the table that a text spells.
-/

import ComponentIndex.Toml.Statement

set_option relaxedAutoImplicit false
set_option autoImplicit false

namespace ComponentIndex.Toml

/-- What has been written so far. -/
structure Document where
  /-- The tree. -/
  entries : List (Text × Data)
  /-- The table of the last header. -/
  header : Path
  /-- The facts about paths. -/
  marks : List PathMark
  /-- The tables that the dotted keys since the last header have reached; they count as opened from
  the next header on. -/
  reached : List Path

namespace Document

/-- The document before its first statement. -/
def empty : Document := ⟨[], [], [], []⟩

/-- The paths of the tables that a dotted key leads through, below the table of the header. -/
def between (header : Path) (keyPath : Path) : List Path :=
  (List.range (keyPath.length - 1)).map fun i => header ++ keyPath.take (i + 1)

/-- The effect of a pair. -/
def addPair? (keyPath : Path) (value : Data) (d : Document) : Option Document := do
  let (parent, key) ← splitLast? keyPath
  let containers := between d.header keyPath
  guard (containers.all fun path => !isMarked .opened path d.marks)
  guard (!isMarked .frozen (d.header ++ parent) d.marks)
  let entries ← modifyAt? true (insertNew? key value) (d.header ++ parent) d.entries
  let marks := if isContainer value then ⟨d.header ++ keyPath, .frozen⟩ :: d.marks else d.marks
  return { d with entries := entries, marks := marks, reached := d.reached ++ containers }

/-- The document in which the tables reached by dotted keys count as opened. -/
def settled (d : Document) : Document :=
  { d with marks := d.reached.map (⟨·, .opened⟩) ++ d.marks, reached := [] }

/-- The effect of the header of a table. -/
def openTable? (path : Path) (d : Document) : Option Document := do
  guard (!isMarked .opened path d.marks && !isMarked .frozen path d.marks)
  let entries ← modifyAt? true some path d.entries
  return { d with entries := entries, header := path, marks := ⟨path, .opened⟩ :: d.marks }

/-- The effect of the header of one more table of a list. -/
def openListItem? (path : Path) (d : Document) : Option Document := do
  guard (!isMarked .frozen path d.marks)
  let (parent, key) ← splitLast? path
  let entries ← modifyAt? true (addToList? key) parent d.entries
  return { d with
    entries := entries, header := path, marks := ⟨path, .opened⟩ :: unmark path d.marks }

/-- The effect of a statement, unless it is refused. -/
def carryOut? (d : Document) : Statement → Option Document
  | .pair path value => d.addPair? path value
  | .table path => d.settled.openTable? path
  | .listItem path => d.settled.openListItem? path

end Document

/-- The table that a text spells. -/
def parse? (t : Text) : Option Data := do
  let statements ← statements? t
  let d ← statements.foldlM Document.carryOut? .empty
  return .table d.entries

end ComponentIndex.Toml
