/-
**Records as data.**

Main definitions:

* `ComponentIndex.Occurrence.record`, `ComponentIndex.StubLiteral.record`,
  `ComponentIndex.LoopType.record` — the three kinds of records, each with the version of its form.
-/

import ComponentIndex.Data.Basic
import ComponentIndex.Index.File

set_option relaxedAutoImplicit false
set_option autoImplicit false

namespace ComponentIndex

/-- The entry that tells the version of a record's form. -/
def versionEntry : Text × Data := ("schema_version", .int schemaVersion)

/-- A field that holds a text. -/
def Data.textEntry (key : String) (t : Text) : Text × Data := (key, .text t)

/-- A field that holds a natural number. -/
def Data.natEntry (key : String) (n : Nat) : Text × Data := (key, .int n)

open Data (textEntry natEntry)

/-- The record of an occurrence. -/
def Occurrence.record (o : Occurrence) : Data :=
  .table [textEntry "path" o.path, textEntry "index" o.index, textEntry "name" o.name,
    natEntry "start_line" o.startLine, natEntry "start_col" o.startCol, versionEntry]

/-- The record of a literal. -/
def StubLiteral.record (s : StubLiteral) : Data :=
  .table [textEntry "path" s.path, textEntry "text" s.text, natEntry "start_line" s.startLine,
    natEntry "start_col" s.startCol, versionEntry]

/-- The record of the type of a loop variable. -/
def LoopType.record (l : LoopType) : Data :=
  .table [textEntry "path" l.path, textEntry "expression" l.expression,
    textEntry "variable" l.variableName, textEntry "element_type" l.elementType,
    natEntry "line" l.line, natEntry "col" l.col, versionEntry]

end ComponentIndex
