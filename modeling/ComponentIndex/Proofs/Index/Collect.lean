/-
**The payload for any handlers.**

Each handler of an extension point sees each property, so that each element of a file is collected once
for each handler.  Where there is no handler at all there is no payload, and no literal is kept.

Main results:

* `ComponentIndex.ExtensionPoint.collect_eq_flatMap` — **the payload of a file**, for any handlers;
* `ComponentIndex.ExtensionPoint.map_collect` — what is read off its elements;
* `ComponentIndex.ExtensionPoint.keeps_congr` — the literals that are kept, for any handlers.
-/

import ComponentIndex.Index.File

set_option relaxedAutoImplicit false
set_option autoImplicit false

namespace ComponentIndex

open Script (Cursor)

namespace ExtensionPoint

theorem getD_payloadProcess (file : SourceFile) (property : Cursor) (given : Option Payload) :
    (Payload.process property file given).getD [] =
      given.getD [] ++ (Element.ofProperty? property file).toList := by
  cases given with
  | none =>
      rw [Payload.process]
      cases Element.ofProperty? property file with
      | none => rfl
      | some e => rfl
  | some p => rfl

/-- After a property a payload holds what it held before and the element of the property, once for
each handler. -/
theorem getD_process (x : ExtensionPoint) (file : SourceFile) (given : Option Payload)
    (property : Cursor) :
    (x.process file given property).getD [] =
      given.getD [] ++
        (Element.ofProperty? property file).toList.flatMap (List.replicate x.handlers.length) := by
  obtain ⟨handlers⟩ := x
  rw [process]
  induction handlers generalizing given with
  | nil =>
      cases Element.ofProperty? property file with
      | none => simp
      | some e => simp
  | cons h handlers ih =>
      rw [List.foldl_cons, ih, getD_payloadProcess, List.append_assoc]
      cases Element.ofProperty? property file with
      | none => rfl
      | some e => simp [List.replicate_succ]

theorem getD_foldl (x : ExtensionPoint) (file : SourceFile) (properties : List Cursor)
    (given : Option Payload) :
    (properties.foldl (x.process file) given).getD [] =
      given.getD [] ++ (properties.filterMap fun p => Element.ofProperty? p file).flatMap
        (List.replicate x.handlers.length) := by
  induction properties generalizing given with
  | nil => simp
  | cons p properties ih =>
      rw [List.foldl_cons, ih, getD_process, List.append_assoc]
      cases hp : Element.ofProperty? p file with
      | none => simp [hp]
      | some e => simp [hp]

/-- **The payload of a file** holds the elements that its properties declare, each once for each
handler. -/
theorem collect_eq_flatMap (x : ExtensionPoint) (file : SourceFile) :
    x.collect file =
      (file.root.allProperties.filterMap fun p => Element.ofProperty? p file).flatMap
        (List.replicate x.handlers.length) := by
  rw [collect, getD_foldl, Option.getD_none, List.nil_append]

/-- What is read off the elements of a payload, property by property. -/
theorem map_collect {α : Type} (f : Element → α) (x : ExtensionPoint) (file : SourceFile) :
    (x.collect file).map f =
      (file.root.allProperties.filterMap fun p => (Element.ofProperty? p file).map f).flatMap
        (List.replicate x.handlers.length) := by
  rw [collect_eq_flatMap]
  induction file.root.allProperties with
  | nil => rfl
  | cons p properties ih =>
      cases hp : Element.ofProperty? p file with
      | none => simpa [hp] using ih
      | some e => simpa [hp] using ih

/-- Some handler keeps a literal if it keeps another one about which all decide alike. -/
theorem keeps_congr (x : ExtensionPoint) {file file' : SourceFile} {c d : Cursor}
    (h : Stub.isKept c file = Stub.isKept d file') : x.keeps file c = x.keeps file' d := by
  rw [keeps, keeps, h]

end ExtensionPoint

end ComponentIndex
