/-
**Loop expressions.**

A loop expression `alias in collection` names what it iterates over and the variables it binds.  An
alias list in parentheses binds several; it is split at the commas outside of brackets.  The keyword
is the first `in` or `of` between blanks.

Main definitions:

* `ComponentIndex.Loop.splitAliases` — the parts of an alias list;
* `ComponentIndex.Loop.splitExpression?` — alias and collection of a loop;
* `ComponentIndex.Loop.Expression`, `ComponentIndex.Loop.Expression.ofText?` — a loop that has been
  read;
* `ComponentIndex.Loop.Expression.reference?` — the collection as an expression.
-/

import ComponentIndex.Parsers
import ComponentIndex.Text.Blank

set_option relaxedAutoImplicit false
set_option autoImplicit false

namespace ComponentIndex.Loop

/-! ### Alias lists -/

/-- The bracket that closes an opening one. -/
def closerOf? (c : CodePoint) : Option CodePoint :=
  if c = ('(' : CodePoint) then some ')'
  else if c = ('[' : CodePoint) then some ']'
  else if c = ('\x7b' : CodePoint) then some '\x7d'
  else none

/-- The parts of a text between its commas outside of brackets. The brackets still to be closed are
given innermost first, and what the current part holds so far from its end; a bracket that closes
none of them is an ordinary character. -/
def splitParts (closers : List CodePoint) (current : Text) : Text → List Text
  | [] => [current.reverse]
  | c :: t =>
    match closerOf? c with
    | some closer => splitParts (closer :: closers) (c :: current) t
    | none =>
      if closers.head? = some c then splitParts closers.tail (c :: current) t
      else if c = (',' : CodePoint) && closers.isEmpty then
        current.reverse :: splitParts closers [] t
      else splitParts closers (c :: current) t

/-- The aliases of a list: the parts between the commas outside of brackets, stripped, without those
that are blank. -/
def splitAliases (t : Text) : List Text :=
  ((splitParts [] [] t).map Text.strip).filter fun part => part != []

/-! ### Alias and collection -/

/-- What follows a keyword and at least one blank. -/
def afterKeyword? (keyword t : Text) : Option Text :=
  if keyword.isPrefixOf t then
    match t.drop keyword.length with
    | [] => none
    | c :: rest => if c.isBlank then some (Text.stripStart rest) else none
  else none

/-- What follows blanks, a keyword and blanks at the beginning of a text. -/
def collectionAfter? (t : Text) : Option Text :=
  match t with
  | [] => none
  | c :: rest =>
    if c.isBlank then
      let word := Text.stripStart rest
      (afterKeyword? "in" word).or (afterKeyword? "of" word)
    else none

/-- The text before the first place where blanks, a keyword and blanks follow, and the text behind
them; `before` is what has been passed, from its end. -/
def splitAtKeyword? (before : Text) : Text → Option (Text × Text)
  | [] => none
  | c :: t =>
    match collectionAfter? (c :: t) with
    | some collection => some (before.reverse, collection)
    | none => splitAtKeyword? (c :: before) t

/-- The alias and the collection of a loop, both stripped. -/
def splitExpression? (t : Text) : Option (Text × Text) :=
  (splitAtKeyword? [] t.strip).map fun (bound, collection) => (bound.strip, collection.strip)

/-! ### Loops -/

/-- A variable that a loop binds. Variables can share a name, so each has a number of its own. -/
structure Binder where
  /-- The number of the variable. -/
  id : Nat
  /-- The name or the pattern by which it is bound. -/
  name : Text
deriving DecidableEq

/-- The variables with the given names, numbered from the given number on. -/
def bindersFrom : Nat → List Text → List Binder
  | _, [] => []
  | id, name :: names => ⟨id, name⟩ :: bindersFrom (id + 1) names

/-- A loop that has been read. -/
structure Expression where
  /-- The text of the loop. -/
  text : Text
  /-- The text of its collection. -/
  collectionText : Text
  /-- The tree of its collection, in parentheses; a loop without a collection has none. -/
  collection? : Option Script.Node
  /-- The aliases stand in a list. -/
  hasAliasList : Bool
  /-- Its variables; the first one stands for the element. -/
  binders : List Binder

namespace Expression

/-- The collection in parentheses, as a script. -/
def collectionSource (collection : Text) : Text :=
  ('(' : CodePoint) :: collection ++ Text.ofString ");"

/-- The text between the parentheses of an alias list. -/
def aliasList? (bound : Text) : Option Text :=
  if bound.head? = some ('(' : CodePoint) && bound.getLast? = some (')' : CodePoint) then
    some (bound.drop 1).dropLast
  else none

/-- The names that an alias binds: those of a list, or the alias itself. -/
def namesOf (bound : Text) : List Text :=
  match aliasList? bound with
  | some list => splitAliases list
  | none => if bound = [] then [] else [bound]

/-- The loop with a given alias and collection. The collection is read from its bytes; it is part of a
source, which is UTF-8, so that no surrogate occurs in it. -/
def ofParts [Parsers] (text bound collection : Text) : Expression where
  text := text
  collectionText := collection
  collection? :=
    if collection = [] then none
    else some (Parsers.script (Utf8.encode (collectionSource collection)))
  hasAliasList := (aliasList? bound).isSome
  binders := bindersFrom 0 (namesOf bound)

/-- The loop that a text spells, if it has a keyword. -/
def ofText? [Parsers] (text : Text) : Option Expression :=
  (splitExpression? text).map fun (bound, collection) => ofParts text bound collection

/-- The collection as an expression: what the parentheses of the first statement enclose. -/
def reference? (e : Expression) : Option Script.Cursor :=
  match e.collection? with
  | none => none
  | some tree =>
    match (Script.Cursor.root tree).namedChildren.head? with
    | none => none
    | some statement =>
      if statement.kind ≠ .expressionStatement then none
      else
        match statement.namedChildren.head? with
        | none => none
        | some wrapper =>
          if wrapper.kind ≠ .parenthesizedExpression then none
          else wrapper.significantChildren.head?

end Expression

end ComponentIndex.Loop
