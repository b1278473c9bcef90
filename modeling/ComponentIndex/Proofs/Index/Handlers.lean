/-
**Several handlers.**

All handlers of an extension point take part in indexing a file, each with a registry of its own.  Each
of them collects every element, so that the payload holds an element once for each handler.  Of an
element the first handler whose registry knows its key records the occurrence, and none of the others
does.  A literal is kept if there is any handler at all.

Main definitions:

* `ComponentIndex.ExtensionPoint.FirstKnows` — the first handler whose registry knows a key;
* `ComponentIndex.Occurrence.IsOf` — an occurrence is the one of an element.

Main results:

* `ComponentIndex.ExtensionPoint.occurrence?_eq_some_iff` — the index of an element;
* `ComponentIndex.FileIndex.ofFile_handlers` — **the index of a file**, for any handlers.
-/

import ComponentIndex.Proofs.Index.Collect
import ComponentIndex.Proofs.Lists

set_option relaxedAutoImplicit false
set_option autoImplicit false

namespace ComponentIndex

namespace ExtensionPoint

/-! ### The handler that records an element -/

/-- The handler at a place is the first one whose registry knows a key, and there the key stands for an
index. -/
structure FirstKnows (x : ExtensionPoint) (key : Text) (i : Nat) (index : Text) : Prop where
  /-- In its registry the key stands for the index. -/
  known : ∃ h, x.handlers[i]? = some h ∧ h.registry.lookup? key = some index
  /-- No handler before it knows the key. -/
  first : ∀ j < i, ∀ h, x.handlers[j]? = some h → h.registry.lookup? key = none

/-- Some handler knows a key. -/
def knows (x : ExtensionPoint) (key : Text) : Bool :=
  x.handlers.any fun h => h.registry.contains key

section

variable {handler : Handler} {handlers : List Handler} {key index : Text} {i : Nat}

theorem not_firstKnows_nil : ¬FirstKnows ⟨[]⟩ key i index := by
  rintro ⟨⟨h, hi, -⟩, -⟩
  cases hi

theorem firstKnows_zero_iff :
    FirstKnows ⟨handler :: handlers⟩ key 0 index ↔ handler.registry.lookup? key = some index := by
  constructor
  · rintro ⟨⟨h, hi, hknown⟩, -⟩
    obtain rfl : handler = h := Option.some.inj hi
    exact hknown
  · intro hknown
    exact ⟨⟨handler, rfl, hknown⟩, nofun⟩

theorem firstKnows_succ_iff :
    FirstKnows ⟨handler :: handlers⟩ key (i + 1) index ↔
      handler.registry.lookup? key = none ∧ FirstKnows ⟨handlers⟩ key i index := by
  constructor
  · rintro ⟨hknown, hfirst⟩
    exact ⟨hfirst 0 (Nat.succ_pos i) handler rfl, hknown, fun j hj h hh =>
      hfirst (j + 1) (Nat.succ_lt_succ hj) h hh⟩
  · rintro ⟨hnone, hknown, hfirst⟩
    refine ⟨hknown, fun j hj h hh => ?_⟩
    cases j with
    | zero =>
        obtain rfl : handler = h := Option.some.inj hh
        exact hnone
    | succ j => exact hfirst j (Nat.lt_of_succ_lt_succ hj) h hh

end

/-- An element occurs in the index that its key stands for in the first registry that knows it. -/
theorem occurrence?_eq_some_iff {x : ExtensionPoint} {e : Element} {p : Text × Text} :
    x.occurrence? e = some p ↔ ∃ i index, x.FirstKnows e.key i index ∧ p = (index, e.name) := by
  obtain ⟨handlers⟩ := x
  rw [occurrence?]
  dsimp only
  induction handlers with
  | nil => simp [not_firstKnows_nil]
  | cons handler handlers ih =>
      rw [List.findSome?_cons, Element.occurrence?]
      cases hkey : handler.registry.lookup? e.key with
      | none =>
          rw [Option.map_none]
          dsimp only
          rw [ih]
          constructor
          · rintro ⟨i, index, hfirst, rfl⟩
            exact ⟨i + 1, index, firstKnows_succ_iff.2 ⟨hkey, hfirst⟩, rfl⟩
          · rintro ⟨i, index, hfirst, rfl⟩
            cases i with
            | zero =>
                rw [firstKnows_zero_iff, hkey] at hfirst
                cases hfirst
            | succ i => exact ⟨i, index, (firstKnows_succ_iff.1 hfirst).2, rfl⟩
      | some index =>
          rw [Option.map_some]
          dsimp only
          rw [Option.some.injEq]
          constructor
          · rintro rfl
            exact ⟨0, index, firstKnows_zero_iff.2 hkey, rfl⟩
          · rintro ⟨i, index', hfirst, rfl⟩
            cases i with
            | zero =>
                rw [firstKnows_zero_iff, hkey] at hfirst
                rw [Option.some.inj hfirst]
            | succ i =>
                rw [firstKnows_succ_iff, hkey] at hfirst
                cases hfirst.1

/-- An element occurs in some index if some handler knows its key. -/
theorem isSome_occurrence? (x : ExtensionPoint) (e : Element) :
    (x.occurrence? e).isSome = x.knows e.key := by
  rw [occurrence?, List.isSome_findSome?, knows]
  refine List.any_congr rfl fun h => ?_
  rw [Element.occurrence?, Option.isSome_map]
  rfl

end ExtensionPoint

/-! ### The index of a file -/

/-- An occurrence is the one of an element: it stands in the index of the first handler that knows the
key of the element, under its name, where the property that declares it starts. -/
def Occurrence.IsOf (x : ExtensionPoint) (file : SourceFile) (e : Element) (o : Occurrence) : Prop :=
  ∃ i index, x.FirstKnows e.key i index ∧
    o = ⟨file.path, index, e.name, file.lineOf e.declaring.node, file.colOf e.declaring.node⟩

theorem Occurrence.isOf_iff {x : ExtensionPoint} {file : SourceFile} {e : Element}
    {o : Occurrence} : o.IsOf x file e ↔ ofElement? x file e = some o := by
  rw [IsOf, ofElement?, Option.map_eq_some_iff]
  constructor
  · rintro ⟨i, index, hfirst, rfl⟩
    exact ⟨_, ExtensionPoint.occurrence?_eq_some_iff.2 ⟨i, index, hfirst, rfl⟩, rfl⟩
  · rintro ⟨p, hp, rfl⟩
    obtain ⟨i, index, hfirst, rfl⟩ := ExtensionPoint.occurrence?_eq_some_iff.1 hp
    exact ⟨i, index, hfirst, rfl⟩

namespace FileIndex

/-- The payload holds each element once for each handler, one after the other. -/
theorem payload_eq_flatMap (x : ExtensionPoint) (h : Handler) (file : SourceFile) :
    (ofFile x file).payload =
      (ofFile ⟨[h]⟩ file).payload.flatMap (List.replicate x.handlers.length) := by
  rw [ofFile, ofFile, ExtensionPoint.collect_eq_flatMap, ExtensionPoint.collect_eq_flatMap]
  dsimp only
  rw [List.length_singleton, List.flatMap_assoc]
  simp

/-- Each element whose key is known has one occurrence, in the order of the payload. -/
theorem forall₂_occurrences (x : ExtensionPoint) (file : SourceFile) :
    List.Forall₂ (fun e o => o.IsOf x file e)
      ((ofFile x file).payload.filter fun e => x.knows e.key) (ofFile x file).occurrences := by
  refine forall₂_filterMap (f := Occurrence.ofElement? x file) (fun e => ?_)
    (fun e o ho => Occurrence.isOf_iff.2 ho) _
  rw [Occurrence.ofElement?, Option.isSome_map, x.isSome_occurrence? e]

/-- The literals that are kept are the same for all extension points with a handler. -/
theorem stubs_congr {x y : ExtensionPoint} (hx : x.handlers ≠ []) (hy : y.handlers ≠ [])
    (file : SourceFile) : (ofFile x file).stubs = (ofFile y file).stubs := by
  have hkeeps : ∀ {x : ExtensionPoint}, x.handlers ≠ [] → x.keeps file = (Stub.isKept · file) := by
    intro x hx
    funext literal
    rw [ExtensionPoint.keeps]
    cases Stub.isKept literal file with
    | false => simp
    | true => simpa using List.exists_mem_of_ne_nil _ hx
  rw [ofFile, ofFile, hkeeps hx, hkeeps hy]

/-- Without a handler nothing is found. -/
theorem ofFile_of_handlers_eq_nil {x : ExtensionPoint} (h : x.handlers = []) (file : SourceFile) :
    ofFile x file = ⟨file, [], [], []⟩ := by
  have hpayload : x.collect file = [] := by
    rw [ExtensionPoint.collect_eq_flatMap, h]
    simp
  have hkeeps : x.keeps file = fun _ => false := by
    funext literal
    rw [ExtensionPoint.keeps, h, List.any_nil]
  rw [ofFile, hpayload, hkeeps, List.filter_false]
  rfl

/-- **The index of a file, for any handlers.** The payload is that of any single handler with each
element once for each handler. The occurrences are, in the order of the payload, those of the elements
whose key some handler knows, each in the index of the first handler that knows it. The literals that
are kept do not depend on the handlers, as long as there is one; without a handler nothing is found. -/
theorem ofFile_handlers (x : ExtensionPoint) (file : SourceFile) :
    (∀ h, (ofFile x file).payload =
        (ofFile ⟨[h]⟩ file).payload.flatMap (List.replicate x.handlers.length)) ∧
      List.Forall₂ (fun e o => o.IsOf x file e)
        ((ofFile x file).payload.filter fun e => x.knows e.key) (ofFile x file).occurrences ∧
      (∀ y : ExtensionPoint, x.handlers ≠ [] → y.handlers ≠ [] →
        (ofFile x file).stubs = (ofFile y file).stubs) ∧
      (x.handlers = [] → ofFile x file = ⟨file, [], [], []⟩) :=
  ⟨fun h => payload_eq_flatMap x h file, forall₂_occurrences x file,
    fun _ hx hy => stubs_congr hx hy file, fun h => ofFile_of_handlers_eq_nil h file⟩

/-- Three handlers: the first one knows the key of options alone, the others that of components. -/
def threeHandlers : ExtensionPoint where
  handlers :=
    [⟨"a", .ofList [("vueo", "a.options")]⟩, ⟨"b", .ofList [("vuec", "b.components")]⟩,
      ⟨"c", .ofList [("vuec", "c.components")]⟩]

/-- A script that registers a component. -/
def registeringFile : SourceFile :=
  .ofScript "a.js" "Vue.component('d', \x7bp: [1]\x7d)".toUTF8.toList

theorem ofFile_handlers_threeHandlers :
    threeHandlers.handlers ≠ [] ∧ ExtensionPoint.empty.handlers = [] ∧
      (ofFile threeHandlers registeringFile).payload.map Element.name = ["d", "d", "d"] ∧
      (ofFile threeHandlers registeringFile).occurrences =
        List.replicate 3 ⟨"a.js", "b.components", "d", 1, 21⟩ ∧
      (ofFile threeHandlers registeringFile).stubs = [⟨"a.js", "1", 1, 25⟩] ∧
      (ofFile .empty registeringFile).payload = [] := by
  obtain ⟨hpayload, -, hstubs, -⟩ := ofFile_handlers threeHandlers registeringFile
  obtain ⟨-, -, -, hnothing⟩ := ofFile_handlers .empty registeringFile
  refine ⟨List.cons_ne_nil _ _, rfl, ?_, by decide +kernel, ?_, ?_⟩
  · rw [hpayload .standard]
    decide +kernel
  · rw [hstubs .standard (List.cons_ne_nil _ _) (List.cons_ne_nil _ _)]
    decide +kernel
  · rw [hnothing rfl]

end FileIndex

end ComponentIndex
