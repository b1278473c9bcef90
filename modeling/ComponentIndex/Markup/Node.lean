/-
**Syntax trees of markup.**

Main definitions:

* `ComponentIndex.Markup.Kind`, `ComponentIndex.Markup.Node` — the trees;
* `ComponentIndex.Markup.Node.preorder` — a node and all below it, parents before children;
* `ComponentIndex.Markup.Node.walk` — the same with a stack of the subtrees that remain;
* `ComponentIndex.Markup.Node.tagName`, `ComponentIndex.Markup.Node.attribute?` — reading the start
  tag of an element.
-/

import ComponentIndex.Text.LowerCase

set_option relaxedAutoImplicit false
set_option autoImplicit false

namespace ComponentIndex.Markup

/-- The kind of a node. -/
inductive Kind where
  /-- A kind that no decision looks at, such as that of a stretch which cannot be made out. -/
  | other (name : Text)
  | document | doctype | element | scriptElement | styleElement | startTag | selfClosingTag
  | endTag | strayEndTag | tagName | attribute | attributeName | quotedAttributeValue
  | attributeValue | rawText | text | entity | comment
deriving DecidableEq

/-- A node of a tree. -/
structure Node where
  /-- What the node is. -/
  kind : Kind
  /-- The offset of its first byte. -/
  start : Nat
  /-- The offset behind its last byte. -/
  stop : Nat
  /-- The text it spans. -/
  text : Text
  /-- Its children in source order. -/
  children : List Node

namespace Node

instance : Inhabited Node := ⟨⟨.document, 0, 0, [], []⟩⟩

mutual

/-- A node and all below it, parents before children and children from left to right. -/
def preorder : Node → List Node
  | ⟨kind, start, stop, text, children⟩ =>
    ⟨kind, start, stop, text, children⟩ :: preorderAll children

/-- The nodes of several trees, one tree after the other. -/
def preorderAll : List Node → List Node
  | [] => []
  | n :: ns => preorder n ++ preorderAll ns

end

mutual

/-- The number of nodes of a tree. -/
def size : Node → Nat
  | ⟨_, _, _, _, children⟩ => 1 + sizeAll children

/-- The number of nodes of several trees. -/
def sizeAll : List Node → Nat
  | [] => 0
  | n :: ns => n.size + sizeAll ns

end

theorem sizeAll_cons (n : Node) (ns : List Node) :
    sizeAll (n :: ns) = 1 + sizeAll n.children + sizeAll ns := by
  cases n
  rfl

theorem sizeAll_append (ns ms : List Node) : sizeAll (ns ++ ms) = sizeAll ns + sizeAll ms := by
  induction ns with
  | nil => rw [List.nil_append, sizeAll, Nat.zero_add]
  | cons n ns ih =>
    rw [List.cons_append, sizeAll_cons, sizeAll_cons, ih]
    omega

/-- The nodes met when the stack is worked off from its top: each node is met before its children,
which are pushed in its place. -/
def walk : List Node → List Node
  | [] => []
  | n :: stack => n :: walk (n.children ++ stack)
termination_by stack => sizeAll stack
decreasing_by
  rw [sizeAll_append, sizeAll_cons]
  omega

/-- The first child of a given kind. -/
def childOf? (kind : Kind) (n : Node) : Option Node := n.children.find? fun c => c.kind = kind

/-- The tag that opens an element. -/
def openingTag? (n : Node) : Option Node :=
  n.children.find? fun c => c.kind = .startTag || c.kind = .selfClosingTag

/-- The name of an element in lower case; empty if it has no tag. -/
def tagName (n : Node) : Text :=
  match n.openingTag?.bind (childOf? .tagName) with
  | some name => name.text.lower
  | none => []

/-- The value of an attribute: the text between the quotes, which may be empty, or the bare value;
an attribute without a value has none. -/
def attributeValueIn? : List Node → Option Text
  | [] => none
  | n :: ns =>
    match n.kind with
    | .attributeValue => some n.text
    | .quotedAttributeValue =>
      match n.childOf? .attributeValue with
      | some inner => some inner.text
      | none => some []
    | _ => attributeValueIn? ns

/-- The name and the value of an attribute. -/
def attributeEntry? (n : Node) : Option (Text × Option Text) :=
  if n.kind = .attribute then
    (n.childOf? .attributeName).map fun name => (name.text, attributeValueIn? n.children)
  else none

/-- The attributes of an element in source order. -/
def attributes (n : Node) : List (Text × Option Text) :=
  match n.openingTag? with
  | some tag => tag.children.filterMap attributeEntry?
  | none => []

/-- The value of the first attribute with a given name; `none` if there is no such attribute, or if
it has no value. -/
def attribute? (name : Text) (n : Node) : Option Text := (n.attributes.lookup name).join

end Node

end ComponentIndex.Markup
