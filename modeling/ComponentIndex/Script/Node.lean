/-
**Syntax trees of scripts.**

A node has a kind, a role in its parent, the byte offset at which it starts, the text it spans and
its children in source order.  A node knows nothing of its parent; where the surroundings of a node
matter it is reached by a *cursor*, which remembers the way from the root.  Two nodes of one tree
are the same exactly when the ways to them are.

Main definitions:

* `ComponentIndex.Script.Node` — syntax trees;
* `ComponentIndex.Script.Cursor` — a node with the way to it;
* `ComponentIndex.Script.Cursor.parent?`, `ComponentIndex.Script.Cursor.children`,
  `ComponentIndex.Script.Cursor.childIn?` — moving in a tree;
* `ComponentIndex.Script.Cursor.isSame` — being the same node of a tree.
-/

import ComponentIndex.Script.Kind

set_option relaxedAutoImplicit false
set_option autoImplicit false

namespace ComponentIndex.Script

/-- A node of a syntax tree. -/
structure Node where
  /-- What the node is. -/
  kind : Kind
  /-- The part it plays in its parent, if it is one of the recorded roles. -/
  role : Option Role
  /-- The offset of its first byte in the source. -/
  start : Nat
  /-- The text it spans. -/
  text : Text
  /-- Its children in source order, punctuation and comments included. -/
  children : List Node

namespace Node

instance : Inhabited Node := ⟨⟨.program, none, 0, [], []⟩⟩

/-- The node with another role. -/
def withRole (role : Role) (n : Node) : Node := { n with role := some role }

/-- The children that are neither punctuation nor keywords. -/
def namedChildren (n : Node) : List Node := n.children.filter fun c => c.kind.isNamed

/-- The first child in a given role. -/
def childIn? (role : Role) (n : Node) : Option Node := n.children.find? fun c => c.role = some role

mutual

/-- The number of nodes of a tree. -/
def size : Node → Nat
  | ⟨_, _, _, _, children⟩ => 1 + sizeAll children

/-- The number of nodes of a list of trees. -/
def sizeAll : List Node → Nat
  | [] => 0
  | n :: ns => n.size + sizeAll ns

end

theorem size_eq (n : Node) : 1 + sizeAll n.children = n.size := by
  cases n
  rfl

end Node

/-- One step of the way to a node: a parent, and which of its children the way goes on with. -/
structure Crumb where
  /-- The parent. -/
  parent : Node
  /-- The index of the child. -/
  index : Nat

/-- A node with the way to it from the root, the last step first. -/
structure Cursor where
  /-- The node. -/
  node : Node
  /-- The steps from the root to the node, the last one first. -/
  crumbs : List Crumb

namespace Cursor

/-- The root of a tree. -/
def root (n : Node) : Cursor := ⟨n, []⟩

/-- The kind of the node. -/
def kind (c : Cursor) : Kind := c.node.kind

/-- The text of the node. -/
def text (c : Cursor) : Text := c.node.text

/-- The indices on the way to the node, the last one first. -/
def path (c : Cursor) : List Nat := c.crumbs.map Crumb.index

/-- Two cursors into one tree stand at the same node. -/
def isSame (a b : Cursor) : Bool := a.path == b.path

/-- The parent of the node; the root has none. -/
def parent? (c : Cursor) : Option Cursor :=
  match c.crumbs with
  | [] => none
  | crumb :: crumbs => some ⟨crumb.parent, crumbs⟩

/-- The ancestors of the node, the parent first. -/
def ancestors (c : Cursor) : List Cursor := go c.crumbs
where
  /-- The ancestors along the given steps. -/
  go : List Crumb → List Cursor
    | [] => []
    | crumb :: crumbs => ⟨crumb.parent, crumbs⟩ :: go crumbs

/-- The given child of the node. -/
def child (c : Cursor) (index : Nat) (n : Node) : Cursor := ⟨n, ⟨c.node, index⟩ :: c.crumbs⟩

/-- Cursors to a list of children, the first of which has the given index. -/
def childrenFrom (c : Cursor) : Nat → List Node → List Cursor
  | _, [] => []
  | index, n :: ns => c.child index n :: childrenFrom c (index + 1) ns

/-- The children of the node. -/
def children (c : Cursor) : List Cursor := c.childrenFrom 0 c.node.children

/-- The children of the node that are neither punctuation nor keywords. -/
def namedChildren (c : Cursor) : List Cursor := c.children.filter fun d => d.kind.isNamed

/-- The named children of the node that are no comments. -/
def significantChildren (c : Cursor) : List Cursor :=
  c.namedChildren.filter fun d => d.kind ≠ .comment

/-- The first child of the node in a given role. -/
def childIn? (role : Role) (c : Cursor) : Option Cursor :=
  c.children.find? fun d => d.node.role = some role

end Cursor

end ComponentIndex.Script
