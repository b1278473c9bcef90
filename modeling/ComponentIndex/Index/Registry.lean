/-
**The registry of indexes.**

A registry maps the keys of elements to the identifiers of indexes.  Keys are texts; the two keys of
descriptors stand for their texts.  The last registration of a key wins and keeps its place.

Main definitions:

* `ComponentIndex.Registry` — the map;
* `ComponentIndex.Registry.register`, `ComponentIndex.Registry.lookup?` — writing and reading;
* `ComponentIndex.Registry.items` — the entries sorted by key;
* `ComponentIndex.Registry.standard` — the registry of the two descriptor keys.
-/

import ComponentIndex.Descriptor
import ComponentIndex.Text.Order

set_option relaxedAutoImplicit false
set_option autoImplicit false

namespace ComponentIndex

/-- A map from keys to the identifiers of indexes, in the order of first registration. -/
structure Registry where
  /-- The entries. -/
  entries : List (Text × Text)

namespace Registry

/-- The registry without entries. -/
def empty : Registry := ⟨[]⟩

/-- Entries with the value of a key replaced, or the key added at the end. -/
def put (key index : Text) : List (Text × Text) → List (Text × Text)
  | [] => [(key, index)]
  | (k, v) :: rest => if k = key then (key, index) :: rest else (k, v) :: put key index rest

/-- The registry in which a key stands for an index. -/
def register (key index : Text) (r : Registry) : Registry := ⟨put key index r.entries⟩

/-- The registry with the given entries, registered in order. -/
def ofList (entries : List (Text × Text)) : Registry :=
  entries.foldl (fun r (key, index) => r.register key index) empty

/-- The index that a key stands for. -/
def lookup? (key : Text) (r : Registry) : Option Text := r.entries.lookup key

/-- A key stands for an index. -/
def contains (key : Text) (r : Registry) : Bool := (r.lookup? key).isSome

/-- The number of keys. -/
def size (r : Registry) : Nat := r.entries.length

/-- The entries sorted by key. -/
def items (r : Registry) : List (Text × Text) := sortBy (fun a b => a.1.less b.1) r.entries

/-- The identifier of the index of components. -/
def componentsIndex : Text := "vue.components"

/-- The identifier of the index of options. -/
def optionsIndex : Text := "vue.options"

/-- The registry of the two keys of descriptors. -/
def standard : Registry :=
  (empty.register Descriptor.Key.components.label componentsIndex).register
    Descriptor.Key.options.label optionsIndex

end Registry

end ComponentIndex
