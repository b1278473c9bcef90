/-
**The extension point of the index.**

Frameworks take part in indexing through handlers.  A handler has a name, by which it is unique, and
a registry of its own.  All handlers see every property; the first one whose registry knows the key
of an element emits its occurrence.

Main definitions:

* `ComponentIndex.Handler`, `ComponentIndex.ExtensionPoint` — the handlers in the order of their
  registration;
* `ComponentIndex.ExtensionPoint.register` — adding a handler under a new name;
* `ComponentIndex.ExtensionPoint.collect` — the payload of a file;
* `ComponentIndex.ExtensionPoint.occurrence?` — the occurrence of an element.
-/

import ComponentIndex.Index.Element
import ComponentIndex.Loop.Forward
import ComponentIndex.Stub

set_option relaxedAutoImplicit false
set_option autoImplicit false

namespace ComponentIndex

/-- A framework that takes part in indexing. -/
structure Handler where
  /-- The name of the framework. -/
  name : Text
  /-- The indexes it knows. -/
  registry : Registry

/-- The handler that is there where nothing else is said. -/
def Handler.standard : Handler := ⟨"vue", .standard⟩

/-- The handlers in the order of their registration. -/
structure ExtensionPoint where
  /-- The handlers. -/
  handlers : List Handler

/-- Why a handler is refused. -/
inductive RegistrationError where
  /-- A handler of that name is there already. -/
  | alreadyRegistered (name : Text)
deriving DecidableEq

/-- The message about a handler that is refused. -/
def RegistrationError.message : RegistrationError → Text
  | alreadyRegistered name =>
    Text.ofString "Framework handler '" ++ name ++ Text.ofString "' is already registered"

namespace ExtensionPoint

/-- The extension point without handlers. -/
def empty : ExtensionPoint := ⟨[]⟩

/-- The names of the handlers. -/
def names (x : ExtensionPoint) : List Text := x.handlers.map Handler.name

/-- Adds a handler, unless its name is taken. -/
def register (h : Handler) (x : ExtensionPoint) : Except RegistrationError ExtensionPoint :=
  if x.handlers.any fun g => g.name = h.name then .error (.alreadyRegistered h.name)
  else .ok ⟨x.handlers ++ [h]⟩

/-- The extension point with the given handlers, registered in order. -/
def ofHandlers (hs : List Handler) : Except RegistrationError ExtensionPoint :=
  hs.foldlM (fun x h => x.register h) empty

/-- The extension point with the standard handler. -/
def standard : ExtensionPoint := ⟨[.standard]⟩

/-! ### Elements -/

/-- The payload after all handlers have seen a property. -/
def process (x : ExtensionPoint) (file : SourceFile) (given : Option Payload)
    (property : Script.Cursor) : Option Payload :=
  x.handlers.foldl (fun p _ => Payload.process property file p) given

/-- The payload of a file: all handlers see all its properties. -/
def collect (x : ExtensionPoint) (file : SourceFile) : Payload :=
  (file.root.allProperties.foldl (x.process file) none).getD []

/-- The occurrence of an element: that of the first handler that knows its key. -/
def occurrence? (x : ExtensionPoint) (e : Element) : Option (Text × Text) :=
  x.handlers.findSome? fun h => e.occurrence? h.registry

/-- The occurrence of an element in the eyes of each handler. -/
def allOccurrences (x : ExtensionPoint) (e : Element) : List (Option (Text × Text)) :=
  x.handlers.map fun h => e.occurrence? h.registry

/-! ### Stubs and loops -/

/-- Some handler keeps a literal in the stub of its file. -/
def keeps (x : ExtensionPoint) (file : SourceFile) (literal : Script.Cursor) : Bool :=
  x.handlers.any fun _ => Stub.isKept literal file

/-- The type of a loop variable, if some handler finds it; all of them share one log. -/
def loopType? (x : ExtensionPoint) (v : Loop.Variable) (active : Bool) : Option Text :=
  if x.handlers.any fun _ => (Loop.typeOf v active).1 then (Loop.typeOf v active).2.last? else none

end ExtensionPoint

end ComponentIndex
