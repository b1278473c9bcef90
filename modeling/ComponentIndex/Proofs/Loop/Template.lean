/-
**The typed loops of a template.**

An element of the template yields a record when it carries a loop that binds variables and whose
collection is a literal.  The record names the first variable and stands at the tag that opens the
element.

Main definitions:

* `ComponentIndex.CarriesLoop` — an element carries a loop that has a record;
* `ComponentIndex.LoopType.ofElement?` — the record of an element.

Main results:

* `ComponentIndex.loopTypesIn_standard` — **the loop types of a document**.
-/

import ComponentIndex.Index.File
import ComponentIndex.Proofs.Loop.Variable
import ComponentIndex.Proofs.Markup.Traversal
import Mathlib.Data.List.Basic

set_option relaxedAutoImplicit false
set_option autoImplicit false

namespace ComponentIndex

open Loop (Expression)

/-! ### The loops of elements -/

namespace Markup.Node

theorem loop?_eq_some_iff {bytes : List UInt8} {n : Markup.Node} {d : LoopDirective} :
    n.loop? bytes = some d ↔
      n.kind = .element ∧ ∃ tag value, n.openingTag? = some tag ∧
        HasAttribute tag.children "v-for" value ∧ value ≠ [] ∧
        d = ⟨n.tagName, value, rowAt bytes tag.start + 1, columnAt bytes tag.start + 1⟩ := by
  rw [loop?]
  constructor
  · intro h
    split at h
    · split at h
      · rename_i hkind _ _ c value tag hattribute htag
        obtain ⟨tag', htag', hvalue⟩ := attribute?_eq_some_iff.1 hattribute
        obtain rfl : tag = tag' := Option.some.inj (htag.symm.trans htag')
        exact ⟨hkind, tag, c :: value, htag, hvalue, List.cons_ne_nil _ _,
          (Option.some.inj h).symm⟩
      · cases h
    · cases h
  · rintro ⟨hkind, tag, value, htag, hvalue, hne, rfl⟩
    obtain ⟨c, value, rfl⟩ := List.exists_cons_of_ne_nil hne
    rw [if_pos hkind, attribute?_eq_some_iff.2 ⟨tag, htag, hvalue⟩, htag]

end Markup.Node

variable [Parsers]

/-- An element carries a loop: the first `v-for` attribute of the tag that opens it spells a loop
that gives its first variable a type. -/
def CarriesLoop (path : Text) (bytes : List UInt8) (n : Markup.Node) (record : LoopType) : Prop :=
  n.kind = .element ∧ ∃ tag value loop first type, n.openingTag? = some tag ∧
    Markup.Node.HasAttribute tag.children "v-for" value ∧ value ≠ [] ∧
    Expression.ofText? value = some loop ∧ loop.TypesFirst first type ∧
    record = ⟨path, value, first.name, type, rowAt bytes tag.start + 1,
      columnAt bytes tag.start + 1⟩

/-- The record of a loop that is read off an element, if its first variable has a type. -/
def LoopType.ofDirective? (path : Text) (active : Bool) (d : Markup.LoopDirective) :
    Option LoopType :=
  (Expression.ofText? d.value).bind fun loop => loop.variables.head?.bind fun v =>
    (ExtensionPoint.standard.loopType? v active).map fun type =>
      ⟨path, d.value, v.binder.name, type, d.line, d.col⟩

/-- The record of the loop that an element carries. -/
def LoopType.ofElement? (path : Text) (bytes : List UInt8) (n : Markup.Node) : Option LoopType :=
  (n.loop? bytes).bind (ofDirective? path true)

theorem loopTypesOf_standard (path : Text) (active : Bool) (d : Markup.LoopDirective) :
    loopTypesOf .standard path active d = (LoopType.ofDirective? path active d).toList := by
  rw [loopTypesOf, LoopType.ofDirective?]
  cases hloop : Expression.ofText? d.value with
  | none => rfl
  | some loop =>
      let record (v : Loop.Variable) (type : Text) : LoopType :=
        ⟨path, d.value, v.binder.name, type, d.line, d.col⟩
      exact ExtensionPoint.filterMap_loopType? hloop active record

namespace LoopType

theorem ofDirective?_inactive (path : Text) (d : Markup.LoopDirective) :
    ofDirective? path false d = none := by
  simp [ofDirective?, ExtensionPoint.loopType?_standard]

theorem ofDirective?_eq_some_iff {path : Text} {d : Markup.LoopDirective} {record : LoopType} :
    ofDirective? path true d = some record ↔
      ∃ loop first type, Expression.ofText? d.value = some loop ∧ loop.TypesFirst first type ∧
        record = ⟨path, d.value, first.name, type, d.line, d.col⟩ := by
  simp only [ofDirective?, Option.bind_eq_some_iff, Option.map_eq_some_iff, Expression.variables,
    List.head?_map]
  constructor
  · rintro ⟨loop, hloop, _, ⟨first, hfirst, rfl⟩, type, htype, rfl⟩
    obtain ⟨-, first', -, htypes⟩ := ExtensionPoint.loopType?_eq_some_iff.1 htype
    obtain ⟨others, hbinders⟩ := htypes.1
    rw [hbinders, List.head?_cons, Option.some.injEq] at hfirst
    subst hfirst
    exact ⟨loop, first', type, hloop, htypes, rfl⟩
  · rintro ⟨loop, first, type, hloop, htypes, rfl⟩
    obtain ⟨others, hbinders⟩ := htypes.1
    exact ⟨loop, hloop, _, ⟨first, by rw [hbinders, List.head?_cons], rfl⟩, type,
      ExtensionPoint.loopType?_eq_some_iff.2 ⟨rfl, first, rfl, htypes⟩, rfl⟩

/-- An element has a record exactly when it carries a loop. -/
theorem ofElement?_eq_some_iff {path : Text} {bytes : List UInt8} {n : Markup.Node}
    {record : LoopType} :
    ofElement? path bytes n = some record ↔ CarriesLoop path bytes n record := by
  simp only [ofElement?, Option.bind_eq_some_iff, Markup.Node.loop?_eq_some_iff,
    ofDirective?_eq_some_iff, CarriesLoop]
  constructor
  · rintro ⟨_, ⟨hkind, tag, value, htag, hvalue, hne, rfl⟩, loop, first, type, hloop, htypes, rfl⟩
    exact ⟨hkind, tag, value, loop, first, type, htag, hvalue, hne, hloop, htypes, rfl⟩
  · rintro ⟨hkind, tag, value, loop, first, type, htag, hvalue, hne, hloop, htypes, rfl⟩
    exact ⟨_, ⟨hkind, tag, value, htag, hvalue, hne, rfl⟩, loop, first, type, hloop, htypes, rfl⟩

end LoopType

/-! ### The loops of a document -/

/-- **The loop types of a document** are the records of the elements of its template that carry a
loop, one for each of them and in pre-order; there are none while the framework is inactive. -/
theorem loopTypesIn_standard (path : Text) (bytes : List UInt8) (document : Markup.Node) :
    loopTypesIn .standard path bytes document false = [] ∧
      loopTypesIn .standard path bytes document true =
        document.templateNodes.filterMap (LoopType.ofElement? path bytes) ∧
      ∀ n record, LoopType.ofElement? path bytes n = some record ↔
        CarriesLoop path bytes n record := by
  have hrecords : ∀ active, loopTypesIn .standard path bytes document active =
      (Markup.loopsIn bytes document).filterMap (LoopType.ofDirective? path active) := by
    intro active
    rw [loopTypesIn, List.filterMap_eq_flatMap_toList]
    exact List.flatMap_congr fun d _ => loopTypesOf_standard path active d
  refine ⟨?_, ?_, fun n record => LoopType.ofElement?_eq_some_iff⟩
  · rw [hrecords, List.filterMap_eq_nil_iff]
    intro d _
    exact LoopType.ofDirective?_inactive path d
  · rw [hrecords, Markup.loopsIn_eq, List.filterMap_filterMap]
    rfl

end ComponentIndex
