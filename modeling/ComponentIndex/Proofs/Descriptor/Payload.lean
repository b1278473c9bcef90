/-
**The payload of a file.**

The handlers see the properties one by one and decide upwards from each.  All in all, the standard
handler lists the object literals that are descriptors, in pre-order, each with its first property.

Main definitions:

* `ComponentIndex.Declares` — an object literal declares an element;
* `ComponentIndex.Element.ofObject?` — the element that an object literal declares.

Main results:

* `ComponentIndex.Descriptor.ofProperty?_of_mem_properties` — only the first property of a literal
  opens a descriptor;
* `ComponentIndex.ExtensionPoint.collect_standard` — **the payload of a file** is the list of the
  elements that its object literals declare, in pre-order.
-/

import ComponentIndex.Index.Extension
import ComponentIndex.Proofs.Descriptor.Shape

set_option relaxedAutoImplicit false
set_option autoImplicit false

namespace ComponentIndex

open Script (Cursor Node)

/-! ### The first property of a literal -/

namespace Descriptor

theorem ofProperty?_eq_bind (property : Cursor) (file : SourceFile) :
    ofProperty? property file = (openedObject? property).bind (shape? file) := by
  rw [ofProperty?]
  cases openedObject? property with
  | none => rfl
  | some object => rfl

/-- A literal without a parent, or with a pair as its parent, is no descriptor. -/
theorem shape?_eq_none {tree : Node} {object : Cursor} {file : SourceFile}
    (hobject : object.IsIn tree)
    (h : ∀ parent, object.parent? = some parent → parent.kind = .pair) :
    shape? file object = none := by
  have hargument : ∀ index call, ¬IsArgument index call object := by
    intro index call hargument
    obtain ⟨args, hparent, hkind⟩ := hargument.parent
    simp [h args hparent] at hkind
  rw [Option.eq_none_iff_forall_ne_some]
  intro m hm
  cases (shape?_eq_some_iff hobject).1 hm with
  | exported _ hvalue =>
      obtain ⟨statement, hparent, hkind⟩ := hvalue.parent
      simp [h statement hparent] at hkind
  | registered _ _ hobject' => exact hargument _ _ hobject'
  | created _ _ hobject' => exact hargument _ _ hobject'
  | extended _ _ hobject' => exact hargument _ _ hobject'

theorem head?_any_isSame {tree : Node} {object property : Cursor} (hobject : object.IsIn tree)
    (hproperty : property ∈ object.properties) :
    (object.properties.head?.any property.isSame) = true ↔
      object.properties.head? = some property := by
  have hin : ∀ p ∈ object.properties, p.IsIn tree := fun p hp =>
    hobject.of_mem_children (List.mem_of_mem_filter hp)
  exact Cursor.any_isSame_iff (hin property hproperty) fun first hfirst =>
    hin first (List.mem_of_head? hfirst)

/-- Only the first property of a literal opens a descriptor: the one that the literal is by where it
stands. -/
theorem ofProperty?_of_mem_properties (file : SourceFile) {tree : Node}
    {object property : Cursor} (hobject : object.IsIn tree) (hkind : object.kind = .object)
    (hproperty : property ∈ object.properties) (m : Match) :
    ofProperty? property file = some m ↔
      object.properties.head? = some property ∧ shape? file object = some m := by
  have hparent := Cursor.parent?_of_mem_children (List.mem_of_mem_filter hproperty)
  rw [ofProperty?_eq_bind, openedObject?]
  simp only [hparent, hkind, ne_eq, not_true_eq_false, if_false]
  by_cases hfirst : object.properties.head? = some property
  · have hany := (head?_any_isSame hobject hproperty).2 hfirst
    rw [and_iff_right hfirst]
    simp only [hany, Bool.not_true, Bool.false_eq_true, if_false]
    cases hgrand : object.parent? with
    | none =>
        rw [shape?_eq_none hobject (by simp [hgrand])]
        rfl
    | some parent =>
        by_cases hpair : parent.kind = .pair
        · rw [shape?_eq_none hobject (by simpa [hgrand] using hpair)]
          simp [hpair]
        · simp [hpair]
  · have hany := mt (head?_any_isSame hobject hproperty).1 hfirst
    simp [hany, hfirst]

end Descriptor

/-! ### The elements of a file -/

/-- An object literal declares an element: the literal is a descriptor, and its first property is
the one that declares the element. -/
def Declares (file : SourceFile) (object : Cursor) (e : Element) : Prop :=
  object.kind = .object ∧ object.properties.head? = some e.declaring ∧
    ∃ m, Descriptor.Describes file object m ∧ e.name = m.name ∧ e.key = m.key.label

namespace Element

/-- The element that an object literal declares. -/
def ofObject? (file : SourceFile) (object : Cursor) : Option Element :=
  if object.kind = .object then
    object.properties.head?.bind fun first => (Descriptor.shape? file object).map (ofMatch first)
  else none

theorem ofObject?_eq_some_iff {tree : Node} {file : SourceFile} {object : Cursor} {e : Element}
    (hobject : object.IsIn tree) : ofObject? file object = some e ↔ Declares file object e := by
  rw [ofObject?, Declares]
  by_cases hkind : object.kind = .object
  · rw [if_pos hkind, and_iff_right hkind]
    simp only [Option.bind_eq_some_iff, Option.map_eq_some_iff,
      Descriptor.shape?_eq_some_iff hobject]
    constructor
    · rintro ⟨first, hfirst, m, hm, rfl⟩
      exact ⟨hfirst, m, hm, rfl, rfl⟩
    · rintro ⟨hfirst, m, hm, hname, hkey⟩
      obtain ⟨name, key, declaring⟩ := e
      obtain rfl : name = m.name := hname
      obtain rfl : key = m.key.label := hkey
      exact ⟨declaring, hfirst, m, hm, rfl⟩
  · rw [if_neg hkind]
    simp [hkind]

/-- Of all properties of an object literal at most the first one declares an element. -/
theorem filterMap_ofProperty? {tree : Node} {file : SourceFile} {object : Cursor}
    (hobject : object.IsIn tree) (hkind : object.kind = .object) :
    (object.properties.filterMap fun p => ofProperty? p file) =
      (ofObject? file object).toList := by
  have hproperty := fun p (hp : p ∈ object.properties) m =>
    Descriptor.ofProperty?_of_mem_properties file hobject hkind hp m
  have hnodup : object.properties.Nodup := (Cursor.nodup_children object).filter _
  rw [ofObject?, if_pos hkind]
  cases hall : object.properties with
  | nil => rfl
  | cons first rest =>
      rw [hall, List.nodup_cons] at hnodup
      rw [hall] at hproperty
      -- A later property would have to be the first one again.
      have hrest : (rest.filterMap fun p => ofProperty? p file) = [] := by
        rw [List.filterMap_eq_nil_iff]
        intro p hp
        rw [ofProperty?, Option.map_eq_none_iff, Option.eq_none_iff_forall_ne_some]
        intro m hm
        have hfirst := ((hproperty p (List.mem_cons_of_mem _ hp) m).1 hm).1
        obtain rfl : first = p := Option.some.inj hfirst
        exact hnodup.1 hp
      have hshape : Descriptor.ofProperty? first file = Descriptor.shape? file object := by
        refine Option.ext fun m => ?_
        rw [hproperty first List.mem_cons_self m]
        simp
      rw [List.filterMap_cons, hrest, ofProperty?, hshape, List.head?_cons, Option.bind_some]
      cases Descriptor.shape? file object with
      | none => rfl
      | some m => rfl

end Element

namespace ExtensionPoint

theorem process_standard (file : SourceFile) (given : Option Payload) (property : Cursor) :
    standard.process file given property = Payload.process property file given := rfl

/-- After some properties a payload holds what it held before and the elements they declare. -/
theorem getD_foldl_process (file : SourceFile) (properties : List Cursor)
    (given : Option Payload) :
    (properties.foldl (standard.process file) given).getD [] =
      given.getD [] ++ properties.filterMap fun p => Element.ofProperty? p file := by
  induction properties generalizing given with
  | nil => simp
  | cons p properties ih =>
      rw [List.foldl_cons, ih, process_standard, List.filterMap_cons]
      cases given with
      | none =>
          rw [Payload.process]
          cases Element.ofProperty? p file with
          | none => simp
          | some e => simp
      | some payload =>
          rw [Payload.process, Payload.visit]
          cases Element.ofProperty? p file with
          | none => simp
          | some e => simp

theorem collect_eq_filterMap (file : SourceFile) :
    standard.collect file = file.root.preorder.filterMap (Element.ofObject? file) := by
  have hobject : ∀ o ∈ file.root.preorder.filter (fun o => o.kind = .object),
      (o.properties.filterMap fun p => Element.ofProperty? p file) =
        (Element.ofObject? file o).toList := by
    intro o ho
    obtain ⟨hmem, hkind⟩ := List.mem_filter.1 ho
    exact Element.filterMap_ofProperty? (Cursor.mem_preorder_iff.1 hmem) (by simpa using hkind)
  calc standard.collect file
      = file.root.allProperties.filterMap fun p => Element.ofProperty? p file := by
        rw [collect, getD_foldl_process, Option.getD_none, List.nil_append]
    _ = (file.root.preorder.filter fun o => o.kind = .object).flatMap fun o =>
          (Element.ofObject? file o).toList := by
        rw [Cursor.allProperties, Cursor.nodesOfKind_eq, List.filterMap_flatMap,
          List.flatMap_congr hobject]
    _ = file.root.preorder.filterMap (Element.ofObject? file) := by
        rw [← List.filterMap_eq_flatMap_toList, List.filterMap_filter]
        refine List.filterMap_congr fun o _ => ?_
        by_cases hkind : o.kind = .object
        · simp [hkind]
        · simp [hkind, Element.ofObject?]

/-- **The payload of a file** lists the elements that its object literals declare, in pre-order. -/
theorem collect_standard (file : SourceFile) :
    standard.collect file = file.root.preorder.filterMap (Element.ofObject? file) ∧
      ∀ object ∈ file.root.preorder, ∀ e,
        Element.ofObject? file object = some e ↔ Declares file object e :=
  ⟨collect_eq_filterMap file, fun _ hobject _ =>
    Element.ofObject?_eq_some_iff (Cursor.mem_preorder_iff.1 hobject)⟩

end ExtensionPoint

end ComponentIndex
