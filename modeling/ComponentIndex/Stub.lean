/-
**Literals that are kept in stubs.**

The elements of arrays and the values of `required` are kept where they can belong to a descriptor:
anywhere in a component file, and elsewhere inside a call whose callee mentions `Vue`.  The search
for that call ends at the statement.

Main definitions:

* `ComponentIndex.Stub.nearestCall?` — the call that encloses a node within its statement;
* `ComponentIndex.Stub.isInsideDescriptor` — that call mentions `Vue`;
* `ComponentIndex.Stub.isSignificant` — a node that is worth keeping;
* `ComponentIndex.Stub.isKept` — a literal that is kept.
-/

import ComponentIndex.Script.Reference
import ComponentIndex.Script.Traversal
import ComponentIndex.SourceFile

set_option relaxedAutoImplicit false
set_option autoImplicit false

namespace ComponentIndex.Stub

open Script (Cursor)

/-- The value of a pair whose key is the name `required`. -/
def isRequiredValue (literal parent : Cursor) : Bool :=
  parent.kind = .pair && (parent.childIn? .value).any literal.isSame &&
    (parent.node.childIn? .key).any fun key =>
      key.kind = .propertyIdentifier && key.text = Text.ofString "required"

/-- The innermost call among some ancestors, nearest first, none of which before it is an expression
statement. -/
def callAmong? : List Cursor → Option Cursor
  | [] => none
  | c :: cs =>
    if c.kind.isCall then some c
    else if c.kind = .expressionStatement then none
    else callAmong? cs

/-- The innermost call that encloses a node within its statement. -/
def nearestCall? (c : Cursor) : Option Cursor := callAmong? c.ancestors

/-- The node stands in a call whose callee is a plain reference that mentions `Vue`. -/
def isInsideDescriptor (c : Cursor) : Bool :=
  match nearestCall? c with
  | none => false
  | some call => call.node.calleeChain?.any fun names => names.contains (Text.ofString "Vue")

/-- The node is an array element or the value of `required` where a descriptor can be. -/
def isSignificant (c : Cursor) (file : SourceFile) : Bool :=
  match c.parent? with
  | none => false
  | some parent =>
    (parent.kind = .array || isRequiredValue c parent) &&
      (file.isComponent || isInsideDescriptor c)

/-- The node is a literal that is kept in the stub of its file. -/
def isKept (c : Cursor) (file : SourceFile) : Bool := c.kind.isLiteral && isSignificant c file

end ComponentIndex.Stub
