/-
**Implicit elements.**

An implicit element is a symbol that no declaration of the script names: the component or the
options that a descriptor describes.  The elements of a file are collected into a payload, which
only grows.

Main definitions:

* `ComponentIndex.Element` — a symbol with the property that declares it;
* `ComponentIndex.Element.ofProperty?` — the element that a property declares;
* `ComponentIndex.Payload`, `ComponentIndex.Payload.visit`, `ComponentIndex.Payload.process` — the
  elements met so far, and two ways to go on.
-/

import ComponentIndex.Index.Registry

set_option relaxedAutoImplicit false
set_option autoImplicit false

namespace ComponentIndex

/-- A symbol that a descriptor stands for. -/
structure Element where
  /-- The name of the symbol. -/
  name : Text
  /-- The key of the index it belongs to. -/
  key : Text
  /-- The property that opens the descriptor. -/
  declaring : Script.Cursor

namespace Element

/-- The element of a descriptor that a property opens. -/
def ofMatch (property : Script.Cursor) (m : Descriptor.Match) : Element :=
  ⟨m.name, m.key.label, property⟩

/-- The element that a property declares, if it opens a descriptor. -/
def ofProperty? (property : Script.Cursor) (file : SourceFile) : Option Element :=
  (Descriptor.ofProperty? property file).map (ofMatch property)

/-- The index and the name under which the element occurs, if its key is registered. -/
def occurrence? (r : Registry) (e : Element) : Option (Text × Text) :=
  (r.lookup? e.key).map fun index => (index, e.name)

end Element

/-- The elements of a file in the order in which they were met. -/
abbrev Payload := List Element

namespace Payload

/-- The payload after a property: the element it declares is added at the end. -/
def visit (property : Script.Cursor) (file : SourceFile) (p : Payload) : Payload :=
  p ++ (Element.ofProperty? property file).toList

/-- The payload after a property, which is made when there is none and the property declares an
element. A payload that is given stays, even if it is empty. -/
def process (property : Script.Cursor) (file : SourceFile) : Option Payload → Option Payload
  | some p => some (p.visit property file)
  | none => (Element.ofProperty? property file).map fun e => [e]

end Payload

end ComponentIndex
