/-
**The sections of a component file.**

A component file holds a script section and a template section at its top level.  The script is the
content of the first script element there; the loops of the template are the `v-for` attributes of
the elements in the first `template` element there, itself included.

Main definitions:

* `ComponentIndex.Markup.ScriptBlock`, `ComponentIndex.Markup.findScript?` — the script section;
* `ComponentIndex.Markup.LoopDirective`, `ComponentIndex.Markup.loopsIn`,
  `ComponentIndex.Markup.findLoops` — the loops.
-/

import ComponentIndex.Parsers
import ComponentIndex.Text.Position

set_option relaxedAutoImplicit false
set_option autoImplicit false

namespace ComponentIndex.Markup

/-! ### The script section -/

/-- The script section of a component file. -/
structure ScriptBlock where
  /-- The bytes of the script. -/
  source : List UInt8
  /-- The offset of the script in the file. -/
  startByte : Nat
  /-- The zero-based row of the file in which the script starts. -/
  startRow : Nat
  /-- The language the script claims to be written in. -/
  lang : Option Text
deriving DecidableEq

/-- The script section that an element is, if it is a script element with content. -/
def Node.scriptBlock? (bytes : List UInt8) (n : Node) : Option ScriptBlock :=
  if n.kind = .scriptElement then
    (n.childOf? .rawText).map fun raw =>
      { source := (bytes.drop raw.start).take (raw.stop - raw.start)
        startByte := raw.start
        startRow := rowAt bytes raw.start
        lang := n.attribute? "lang" }
  else none

/-- The first script section of a component file. -/
def findScript? [Parsers] (bytes : List UInt8) : Option ScriptBlock :=
  (Parsers.markup bytes).children.findSome? (Node.scriptBlock? bytes)

/-! ### The loops of the template -/

/-- A `v-for` attribute of an element of the template. -/
structure LoopDirective where
  /-- The name of the element in lower case. -/
  tag : Text
  /-- The value of the attribute as it is spelled. -/
  value : Text
  /-- The row of the element, counted from one. -/
  line : Nat
  /-- The column of the element in bytes, counted from one. -/
  col : Nat
deriving DecidableEq

/-- The loop that an element carries, if any. -/
def Node.loop? (bytes : List UInt8) (n : Node) : Option LoopDirective :=
  if n.kind = .element then
    match n.attribute? "v-for", n.openingTag? with
    | some (c :: value), some tag =>
      some ⟨n.tagName, c :: value, rowAt bytes tag.start + 1, columnAt bytes tag.start + 1⟩
    | _, _ => none
  else none

/-- The element is the template of a component. -/
def Node.isTemplate (n : Node) : Bool :=
  n.kind = .element && n.tagName == Text.ofString "template"

/-- The loops below a node, itself included, in document order. -/
def Node.loops (bytes : List UInt8) (n : Node) : List LoopDirective :=
  (Node.walk [n]).filterMap (Node.loop? bytes)

/-- The loops of the template of a document in document order. -/
def loopsIn (bytes : List UInt8) (document : Node) : List LoopDirective :=
  match document.children.find? Node.isTemplate with
  | some template => template.loops bytes
  | none => []

/-- The loops of the template of a component file in document order. -/
def findLoops [Parsers] (bytes : List UInt8) : List LoopDirective :=
  loopsIn bytes (Parsers.markup bytes)

end ComponentIndex.Markup
