/-
**The index of a file.**

Indexing a file yields its elements, the occurrences of those whose key is known, and the literals
that its stub keeps.  The loops of a component file yield the types of their variables.

Main definitions:

* `ComponentIndex.Occurrence`, `ComponentIndex.StubLiteral`, `ComponentIndex.LoopType` — the
  records;
* `ComponentIndex.FileIndex`, `ComponentIndex.FileIndex.ofFile` — everything about one file;
* `ComponentIndex.loopTypesIn`, `ComponentIndex.loopTypes` — the types of the loop variables of a
  component file, given its document or its bytes.
-/

import ComponentIndex.Index.Extension

set_option relaxedAutoImplicit false
set_option autoImplicit false

namespace ComponentIndex

/-- The version of the records that are written. -/
def schemaVersion : Nat := 1

/-- An occurrence of an element in an index. -/
structure Occurrence where
  /-- The path of the file. -/
  path : Text
  /-- The index. -/
  index : Text
  /-- The name of the element. -/
  name : Text
  /-- The row of the declaring property. -/
  startLine : Nat
  /-- The column of the declaring property. -/
  startCol : Nat
deriving DecidableEq

/-- A literal that the stub of its file keeps. -/
structure StubLiteral where
  /-- The path of the file. -/
  path : Text
  /-- The literal. -/
  text : Text
  /-- The row of the literal. -/
  startLine : Nat
  /-- The column of the literal. -/
  startCol : Nat
deriving DecidableEq

/-- The type of a loop variable. -/
structure LoopType where
  /-- The path of the file. -/
  path : Text
  /-- The text of the loop. -/
  expression : Text
  /-- The variable. -/
  variableName : Text
  /-- The type of the elements. -/
  elementType : Text
  /-- The row of the element that carries the loop. -/
  line : Nat
  /-- The column of the element that carries the loop. -/
  col : Nat
deriving DecidableEq

/-! ### Elements and literals -/

/-- The record of an element of a file, if its key is known. -/
def Occurrence.ofElement? (x : ExtensionPoint) (file : SourceFile) (e : Element) :
    Option Occurrence :=
  (x.occurrence? e).map fun (index, name) =>
    ⟨file.path, index, name, file.lineOf e.declaring.node, file.colOf e.declaring.node⟩

/-- The order of occurrences by row and column. -/
def Occurrence.before (a b : Occurrence) : Bool :=
  a.startLine < b.startLine || (a.startLine == b.startLine && a.startCol < b.startCol)

/-- The record of a literal of a file. -/
def StubLiteral.ofLiteral (file : SourceFile) (literal : Script.Cursor) : StubLiteral :=
  ⟨file.path, literal.text, file.lineOf literal.node, file.colOf literal.node⟩

/-- Everything that the handlers find in one file. -/
structure FileIndex where
  /-- The file. -/
  file : SourceFile
  /-- Its elements. -/
  payload : Payload
  /-- The occurrences of its elements. -/
  occurrences : List Occurrence
  /-- The literals that its stub keeps. -/
  stubs : List StubLiteral

namespace FileIndex

/-- The index of a file. -/
def ofFile (x : ExtensionPoint) (file : SourceFile) : FileIndex where
  file := file
  payload := x.collect file
  occurrences := (x.collect file).filterMap (Occurrence.ofElement? x file)
  stubs := (file.root.literals.filter (x.keeps file)).map (StubLiteral.ofLiteral file)

/-- The occurrences of a file in the order of their positions. -/
def sortedOccurrences (i : FileIndex) : List Occurrence := sortBy Occurrence.before i.occurrences

end FileIndex

/-! ### Loops -/

/-- The types of the variables of one loop of a component file. -/
def loopTypesOf [Parsers] (x : ExtensionPoint) (path : Text) (active : Bool)
    (d : Markup.LoopDirective) : List LoopType :=
  match Loop.Expression.ofText? d.value with
  | none => []
  | some loop =>
    loop.variables.filterMap fun v =>
      (x.loopType? v active).map fun type => ⟨path, d.value, v.binder.name, type, d.line, d.col⟩

/-- The types of the loop variables of a document in document order. -/
def loopTypesIn [Parsers] (x : ExtensionPoint) (path : Text) (bytes : List UInt8)
    (document : Markup.Node) (active : Bool) : List LoopType :=
  (Markup.loopsIn bytes document).flatMap (loopTypesOf x path active)

/-- The types of the loop variables of a component file in document order. -/
def loopTypes [Parsers] (x : ExtensionPoint) (path : Text) (bytes : List UInt8)
    (active : Bool) : List LoopType :=
  loopTypesIn x path bytes (Parsers.markup bytes) active

end ComponentIndex
