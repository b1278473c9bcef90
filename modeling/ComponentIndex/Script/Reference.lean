/-
**References: dotted names and what calls refer to.**

A reference is plain when it is an identifier or a chain of plain member accesses that starts with
one: no optional link, no computed or private member, no call on the way.  The names of such a
chain are what a call is recognized by.

Main definitions:

* `ComponentIndex.Script.Node.referenceChain?` — the names of a plain reference;
* `ComponentIndex.Script.Node.refersTo` — being exactly a given chain;
* `ComponentIndex.Script.Cursor.callee?`, `ComponentIndex.Script.Cursor.callArguments` — the parts
  of a call.
-/

import ComponentIndex.Script.Node

set_option relaxedAutoImplicit false
set_option autoImplicit false

namespace ComponentIndex.Script

namespace Node

/-- The name of the accessed member, if the access is plain: not optional, and by a public name. -/
def plainMember? (children : List Node) : Option Text :=
  if children.any fun c => c.kind = .optionalChain then none
  else
    match children.find? fun c => c.role = some .property with
    | some p => if p.kind = .propertyIdentifier then some p.text else none
    | none => none

mutual

/-- The names of a plain reference, the outermost object first. -/
def referenceChain? : Node → Option (List Text)
  | ⟨kind, _, _, text, children⟩ =>
    match kind with
    | .identifier => some [text]
    | .memberExpression =>
      match plainMember? children with
      | none => none
      | some name => (objectChain? children).map (· ++ [name])
    | _ => none

/-- The names of the plain reference that stands in the role of the object among some children. -/
def objectChain? : List Node → Option (List Text)
  | [] => none
  | n :: ns => if n.role = some .object then referenceChain? n else objectChain? ns

end

/-- The node is exactly the reference with the given names. -/
def refersTo (names : List Text) (n : Node) : Bool := n.referenceChain? = some names

/-- What a call or a `new` expression applies. -/
def callee? (n : Node) : Option Node :=
  match n.kind with
  | .callExpression => n.childIn? .function
  | .newExpression => n.childIn? .constructor
  | _ => none

/-- The names of the callee of a call, if it is a plain reference. -/
def calleeChain? (n : Node) : Option (List Text) := n.callee?.bind referenceChain?

/-- The callee of a call is exactly the reference with the given names. -/
def calls (names : List Text) (n : Node) : Bool := n.calleeChain? = some names

end Node

namespace Cursor

/-- The arguments of a call: the named children of its argument list that are no comments. A call
that is applied to a template has none. -/
def callArguments (c : Cursor) : List Cursor :=
  match c.childIn? .arguments with
  | some args => if args.kind = .arguments then args.significantChildren else []
  | none => []

end Cursor

end ComponentIndex.Script
