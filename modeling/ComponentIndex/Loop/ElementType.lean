/-
**The types of the elements of a collection.**

Only literal collections are understood: an array of literals, a number that is counted up to, and a
string.  The type of an array joins the kinds of its elements in the order of their first
appearance; one element of unknown kind makes it unknown.

Main definitions:

* `ComponentIndex.Loop.literalKind?` — the type of a literal;
* `ComponentIndex.Loop.elementType?` — the type of the elements of a collection;
* `ComponentIndex.Loop.TypeLog` — the types that have been found, each with its loop.
-/

import ComponentIndex.Loop.Expression
import ComponentIndex.Text.Order

set_option relaxedAutoImplicit false
set_option autoImplicit false

namespace ComponentIndex.Loop

open Script (Cursor)

/-- The type of a literal, by its kind. -/
def literalKind? : Script.Kind → Option Text
  | .string | .templateString => some "string"
  | .number => some "number"
  | .trueLiteral | .falseLiteral => some "boolean"
  | .nullLiteral => some "null"
  | .regex => some "RegExp"
  | .object => some "object"
  | .array => some "array"
  | .arrowFunction | .functionExpression => some "function"
  | _ => none

/-- The type of the elements of an array: it is known if there are elements and all are known. -/
def arrayElementType? (array : Cursor) : Option Text :=
  match array.significantChildren.mapM fun c => literalKind? c.kind with
  | some (kind :: kinds) => some (Text.join "|" (distinct (kind :: kinds)))
  | _ => none

/-- The type of the elements of a collection. -/
def elementType? (collection : Cursor) : Option Text :=
  match collection.kind with
  | .array => arrayElementType? collection
  | .number => some "number"
  | .string | .templateString => some "string"
  | _ => none

/-- The types that have been found, with the loops they were found for. -/
structure TypeLog where
  /-- The entries in the order in which they were found. -/
  types : List (Text × Expression)

namespace TypeLog

/-- The log without entries. -/
def empty : TypeLog := ⟨[]⟩

/-- Adds an entry at the end. -/
def add (type : Text) (loop : Expression) (log : TypeLog) : TypeLog := ⟨log.types ++ [(type, loop)]⟩

/-- The type found last. -/
def last? (log : TypeLog) : Option Text := log.types.getLast?.map Prod.fst

end TypeLog

/-- Finds the type of the elements of a collection and logs it; tells whether it is known. -/
def findElementType (log : TypeLog) (collection : Cursor) (loop : Expression) : Bool × TypeLog :=
  match elementType? collection with
  | some type => (true, log.add type loop)
  | none => (false, log)

end ComponentIndex.Loop
