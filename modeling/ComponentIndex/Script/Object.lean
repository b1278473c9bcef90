/-
**Object literals and their properties.**

The properties of an object literal are its pairs, methods and shorthands; spreads and comments are
not.  A property is looked up by the name of its key, whether that is written as a name or as a
string literal; only pairs are found, and of several the first.

Main definitions:

* `ComponentIndex.Script.Node.hasKey` — a pair with a given key;
* `ComponentIndex.Script.Cursor.properties` — the properties of an object literal;
* `ComponentIndex.Script.Node.findProperty?`, `ComponentIndex.Script.Node.findPropertyValue?` — the
  look-up.
-/

import ComponentIndex.Script.StringLiteral
import ComponentIndex.Script.Traversal

set_option relaxedAutoImplicit false
set_option autoImplicit false

namespace ComponentIndex.Script

namespace Node

/-- The properties of an object literal in source order. -/
def properties (n : Node) : List Node := n.children.filter fun c => c.kind.isProperty

/-- The key of a pair spells a name, as an identifier or as a string literal. -/
def spellsKey (name : Text) (key : Node) : Bool :=
  (key.kind = .propertyIdentifier && key.text = name) || key.stringValue? = some name

/-- The property is a pair with the given key. -/
def hasKey (name : Text) (n : Node) : Bool :=
  n.kind = .pair && (n.childIn? .key).any (spellsKey name)

/-- The first pair of an object literal with a given key. -/
def findProperty? (name : Text) (n : Node) : Option Node := n.properties.find? (hasKey name)

/-- The value of the first pair of an object literal with a given key. -/
def findPropertyValue? (name : Text) (n : Node) : Option Node :=
  (n.findProperty? name).bind (childIn? .value)

/-- The string that stands as the value of a key of an object literal. -/
def stringProperty? (name : Text) (n : Node) : Option Text :=
  (n.findPropertyValue? name).bind stringValue?

end Node

namespace Cursor

/-- The properties of an object literal in source order. -/
def properties (c : Cursor) : List Cursor := c.children.filter fun d => d.kind.isProperty

/-- The properties of all object literals below a node, object by object in pre-order. -/
def allProperties (c : Cursor) : List Cursor := (c.nodesOfKind .object).flatMap properties

end Cursor

end ComponentIndex.Script
