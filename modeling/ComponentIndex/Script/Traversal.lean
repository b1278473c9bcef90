/-
**Traversals of a syntax tree.**

The nodes of a tree are visited in pre-order: a parent before its children, and the children from
left to right.  The traversal keeps the subtrees that remain on a stack.  The search for literals
does not enter a literal.

Main definitions:

* `ComponentIndex.Script.Cursor.walk` — the traversal with a stack, which enters the nodes it is
  told to;
* `ComponentIndex.Script.Cursor.nodesOfKind` — the nodes of one kind below a node, itself included;
* `ComponentIndex.Script.Cursor.literals` — the outermost literals below a node;
* `ComponentIndex.Script.Cursor.preorder` — pre-order by recursion on the tree.
-/

import ComponentIndex.Script.Node

set_option relaxedAutoImplicit false
set_option autoImplicit false

namespace ComponentIndex.Script.Cursor

/-! ### Pre-order by recursion -/

mutual

/-- The nodes of a tree reached by the given steps, in pre-order. -/
def preorderAt (crumbs : List Crumb) : Node → List Cursor
  | ⟨kind, role, start, text, children⟩ =>
    ⟨⟨kind, role, start, text, children⟩, crumbs⟩ ::
      preorderOfChildren ⟨kind, role, start, text, children⟩ crumbs 0 children

/-- The nodes of the children of `parent` from the given index on, in pre-order. -/
def preorderOfChildren (parent : Node) (crumbs : List Crumb) : Nat → List Node → List Cursor
  | _, [] => []
  | index, n :: ns =>
    preorderAt (⟨parent, index⟩ :: crumbs) n ++ preorderOfChildren parent crumbs (index + 1) ns

end

/-- The nodes below a node, itself included, in pre-order. -/
def preorder (c : Cursor) : List Cursor := preorderAt c.crumbs c.node

/-! ### The traversal with a stack -/

/-- The number of nodes below the nodes of a stack. -/
def stackSize : List Cursor → Nat
  | [] => 0
  | c :: stack => c.node.size + stackSize stack

theorem stackSize_cons (c : Cursor) (stack : List Cursor) :
    stackSize (c :: stack) = c.node.size + stackSize stack := rfl

theorem stackSize_childrenFrom (c : Cursor) (index : Nat) (ns : List Node) :
    stackSize (c.childrenFrom index ns) = Node.sizeAll ns := by
  induction ns generalizing index with
  | nil => rfl
  | cons n ns ih =>
    have := ih (index + 1)
    rw [childrenFrom, stackSize_cons, this]
    rfl

theorem stackSize_append (s t : List Cursor) :
    stackSize (s ++ t) = stackSize s + stackSize t := by
  induction s with
  | nil => rw [List.nil_append, stackSize, Nat.zero_add]
  | cons c s ih => rw [List.cons_append, stackSize_cons, stackSize_cons, ih, Nat.add_assoc]

theorem stackSize_children (c : Cursor) : stackSize c.children + 1 = c.node.size := by
  rw [children, stackSize_childrenFrom, ← Node.size_eq, Nat.add_comm]

/-- The nodes met when the stack is worked off from its top: each node is met before its children,
and the children are only looked at if the node is entered. -/
def walk (enters : Cursor → Bool) : List Cursor → List Cursor
  | [] => []
  | c :: stack =>
    if enters c then c :: walk enters (c.children ++ stack) else c :: walk enters stack
termination_by stack => stackSize stack
decreasing_by
  · have := stackSize_children c
    rw [stackSize_append, stackSize_cons]
    omega
  · have := stackSize_children c
    rw [stackSize_cons]
    omega

/-- The nodes of one kind below a node, itself included, in pre-order. -/
def nodesOfKind (kind : Kind) (c : Cursor) : List Cursor :=
  (walk (fun _ => true) [c]).filter fun d => d.kind = kind

/-- The literals below a node, itself included, that lie in no other literal, in pre-order. -/
def literals (c : Cursor) : List Cursor :=
  (walk (fun d => !d.kind.isLiteral) [c]).filter fun d => d.kind.isLiteral

end ComponentIndex.Script.Cursor
