/-
**Descriptors: object literals that describe a component.**

Three shapes of object literals are descriptors: the second argument of a registration
`Vue.component("name", {…})`, the default export of a component file, and the first argument of
`new Vue({…})` or `Vue.extend({…})`.  A descriptor is recognized at the first property of the
literal, and only if the literal is not the value of another property.

Main definitions:

* `ComponentIndex.Descriptor.Key` — the index that a descriptor belongs to;
* `ComponentIndex.Descriptor.Match` — what a descriptor declares;
* `ComponentIndex.Descriptor.openedObject?` — the literal that a property opens;
* `ComponentIndex.Descriptor.ofExport?`, `ComponentIndex.Descriptor.ofRegistration?`,
  `ComponentIndex.Descriptor.ofInstance?` — the three shapes;
* `ComponentIndex.Descriptor.ofProperty?` — the descriptor that a property opens.
-/

import ComponentIndex.Script.Object
import ComponentIndex.Script.Reference
import ComponentIndex.SourceFile

set_option relaxedAutoImplicit false
set_option autoImplicit false

namespace ComponentIndex.Descriptor

open Script (Cursor Node)

/-- The index that a descriptor belongs to. -/
inductive Key where
  /-- Components. -/
  | components
  /-- Options of instances. -/
  | options
deriving DecidableEq

namespace Key

/-- The text of a key. -/
def label : Key → Text
  | components => "vuec"
  | options => "vueo"

/-- The key with a given text. -/
def ofLabel? (text : Text) : Option Key := [components, options].find? fun k => k.label = text

/-- The message about a text that is no key. -/
def unknownMessage (text : Text) : Text := text.quoted ++ Text.ofString " is not a valid IndexKey"

end Key

/-- What a descriptor declares. -/
structure Match where
  /-- The name of the component or the element an instance is bound to. -/
  name : Text
  /-- The index it belongs to. -/
  key : Key
deriving DecidableEq

/-! ### Where a descriptor stands -/

/-- The object literal that a property opens: the property is its first one, and the literal is not
the value of another property. -/
def openedObject? (property : Cursor) : Option Cursor :=
  match property.parent? with
  | none => none
  | some object =>
    if object.kind ≠ .object then none
    else if !object.properties.head?.any property.isSame then none
    else
      match object.parent? with
      | none => none
      | some parent => if parent.kind = .pair then none else some object

/-- The call in whose arguments a literal stands. -/
def enclosingCall? (object : Cursor) : Option Cursor :=
  match object.parent? with
  | none => none
  | some args =>
    if args.kind ≠ .arguments then none
    else
      match args.parent? with
      | none => none
      | some call => if call.kind.isCall then some call else none

/-- The argument of a call at an index is the given literal. -/
def isArgument (index : Nat) (object call : Cursor) : Bool :=
  call.callArguments[index]?.any object.isSame

/-- The literal is the value of a default export. -/
def isDefaultExport (object : Cursor) : Bool :=
  match object.parent? with
  | none => false
  | some parent =>
    parent.kind = .exportStatement &&
      (parent.node.children.any fun c => c.kind = .token "default") &&
      (parent.childIn? .value).any object.isSame

/-! ### The three shapes -/

/-- A component by its file: the default export of a component file, named by its property `name` or
else by the file. -/
def ofExport? (object : Cursor) (file : SourceFile) : Option Match :=
  if file.isComponent && isDefaultExport object then
    some ⟨(object.node.stringProperty? "name").getD file.stem, .components⟩
  else none

/-- The reference by which components are registered. -/
def registration : List Text := ["Vue", "component"]

/-- The reference by which components are extended. -/
def extension : List Text := ["Vue", "extend"]

/-- The reference by which instances are made. -/
def instanceMaker : List Text := ["Vue"]

/-- A component by registration, named by the first argument as it is spelled. -/
def ofRegistration? (object : Cursor) : Option Match :=
  match enclosingCall? object with
  | none => none
  | some call =>
    if call.kind = .callExpression && call.node.calls registration && isArgument 1 object call then
      match call.callArguments.head? with
      | some name =>
        if name.kind = .string then some ⟨name.node.unquotedText, .components⟩ else none
      | none => none
    else none

/-- The literal describes an instance: it is the first argument of `new Vue` or `Vue.extend`. -/
def isInstance (object : Cursor) : Bool :=
  match enclosingCall? object with
  | none => false
  | some call =>
    isArgument 0 object call &&
      (if call.kind = .newExpression then call.node.calls instanceMaker
       else call.node.calls extension)

/-- An instance, named by the element it is bound to. -/
def ofInstance? (object : Cursor) : Option Match :=
  if isInstance object then some ⟨(object.node.stringProperty? "el").getD [], .options⟩ else none

/-- The descriptor that a property opens. -/
def ofProperty? (property : Cursor) (file : SourceFile) : Option Match :=
  match openedObject? property with
  | none => none
  | some object =>
    if isDefaultExport object && file.isComponent then ofExport? object file
    else (ofRegistration? object).or (ofInstance? object)

end ComponentIndex.Descriptor
