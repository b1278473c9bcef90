/-
**Indexing statement by statement.**

What is found in a program is what is found in its statements, one after the other: its elements, their
occurrences and the literals that its stub keeps.  No statement bears on what is found in another one,
although decisions climb from a node without a bound and all elements go into one payload.

Main definitions:

* `ComponentIndex.SourceFile.withStatements` — a file with other statements in its program;
* `ComponentIndex.Element.shown` — the name, the key and the declaring node of an element.

Main results:

* `ComponentIndex.FileIndex.ofFile_append` — **the index of two lists of statements**, and so of any
  list of statements.
-/

import ComponentIndex.Proofs.Descriptor.Faithful
import ComponentIndex.Proofs.Index.Collect
import ComponentIndex.Proofs.Lists
import ComponentIndex.Proofs.Script.Statement

set_option relaxedAutoImplicit false
set_option autoImplicit false

namespace ComponentIndex

open Script (Cursor Kind Node)

/-- A file with other statements in its program. -/
def SourceFile.withStatements (file : SourceFile) (statements : List Node) : SourceFile :=
  { file with tree := file.tree.withStatements statements }

/-- The name, the key and the declaring node of an element. -/
def Element.shown (e : Element) : Text × Text × Node := (e.name, e.key, e.declaring.node)

namespace FileIndex

/-- Occurrences depend on the names, the keys and the declaring nodes of elements. -/
theorem occurrences_eq_filterMap (x : ExtensionPoint) (file : SourceFile) :
    (ofFile x file).occurrences =
      ((ofFile x file).payload.map Element.shown).filterMap fun shown =>
        Occurrence.ofElement? x file ⟨shown.1, shown.2.1, Cursor.root shown.2.2⟩ := by
  rw [List.filterMap_map]
  rfl

section

variable (x : ExtensionPoint) {file : SourceFile} (hprogram : file.tree.kind = .program)
  (ss ts us : List Node) (offset : Nat)

theorem root_withStatements :
    (file.withStatements us).root = Cursor.root (file.tree.withStatements us) := rfl

include hprogram

/-- A property of a part declares in the whole what it declares in the part. -/
theorem shown_within {property : Cursor}
    (h : property ∈ (Cursor.root (file.tree.withStatements us)).allProperties) :
    (Element.ofProperty? (property.within (file.tree.withStatements (ss ++ ts)) offset)
        (file.withStatements (ss ++ ts))).map Element.shown =
      (Element.ofProperty? property (file.withStatements us)).map Element.shown := by
  obtain ⟨hproperty, hkind⟩ := Cursor.isIn_of_mem_allProperties h
  have hcomment : property.kind ≠ .comment := Kind.ne_of_test hkind rfl
  have hroot : property.kind ≠ .program := Kind.ne_of_test hkind rfl
  have hmatch : Descriptor.ofProperty?
      (property.within (file.tree.withStatements (ss ++ ts)) offset)
        (file.withStatements (ss ++ ts)) =
      Descriptor.ofProperty? property (file.withStatements us) :=
    Descriptor.ofProperty?_map (Cursor.isFaithful_statements hprogram ss ts us offset) hproperty
      (Node.isAside_of_kind hcomment)
  rw [Element.ofProperty?, Element.ofProperty?, hmatch, Option.map_map, Option.map_map]
  congr 1
  funext m
  rw [Function.comp_apply, Function.comp_apply, Element.shown, Element.shown, Element.ofMatch,
    Element.ofMatch, Cursor.node_within (hproperty.crumbs_ne_nil hprogram hroot)]

theorem filterMap_shown_within :
    ((Cursor.root (file.tree.withStatements us)).allProperties.map
        (Cursor.within (file.tree.withStatements (ss ++ ts)) offset)).filterMap
          (fun p => (Element.ofProperty? p (file.withStatements (ss ++ ts))).map Element.shown) =
      (Cursor.root (file.tree.withStatements us)).allProperties.filterMap
        fun p => (Element.ofProperty? p (file.withStatements us)).map Element.shown := by
  rw [List.filterMap_map]
  exact List.filterMap_congr fun p hp => shown_within hprogram ss ts us offset hp

/-- The elements of two lists of statements. -/
theorem payload_append :
    (ofFile x (file.withStatements (ss ++ ts))).payload.map Element.shown =
      (ofFile x (file.withStatements ss)).payload.map Element.shown ++
        (ofFile x (file.withStatements ts)).payload.map Element.shown := by
  rw [ofFile, ofFile, ofFile, ExtensionPoint.map_collect, ExtensionPoint.map_collect,
    ExtensionPoint.map_collect, root_withStatements, root_withStatements, root_withStatements,
    Cursor.allProperties_append hprogram, List.filterMap_append, List.flatMap_append,
    filterMap_shown_within hprogram, filterMap_shown_within hprogram]

/-- The occurrences in two lists of statements. -/
theorem occurrences_append :
    (ofFile x (file.withStatements (ss ++ ts))).occurrences =
      (ofFile x (file.withStatements ss)).occurrences ++
        (ofFile x (file.withStatements ts)).occurrences := by
  rw [occurrences_eq_filterMap, occurrences_eq_filterMap, occurrences_eq_filterMap,
    payload_append x hprogram, List.filterMap_append]
  rfl

/-- A literal of a part is kept in the whole as it is kept in the part. -/
theorem stubs_within :
    (((Cursor.root (file.tree.withStatements us)).literals.map
        (Cursor.within (file.tree.withStatements (ss ++ ts)) offset)).filter
          (x.keeps (file.withStatements (ss ++ ts)))).map
            (StubLiteral.ofLiteral (file.withStatements (ss ++ ts))) =
      (ofFile x (file.withStatements us)).stubs := by
  have hkeeps : ∀ c ∈ (Cursor.root (file.tree.withStatements us)).literals,
      x.keeps (file.withStatements (ss ++ ts))
          (c.within (file.tree.withStatements (ss ++ ts)) offset) =
        x.keeps (file.withStatements us) c := by
    intro c hc
    have hkept : Stub.isKept (c.within (file.tree.withStatements (ss ++ ts)) offset)
        (file.withStatements us) = Stub.isKept c (file.withStatements us) :=
      Stub.isKept_map (Cursor.isFaithful_statements hprogram ss ts us offset)
        (Cursor.isIn_of_mem_literals hc).1
    exact x.keeps_congr hkept
  rw [List.filter_map, List.map_map, ofFile, root_withStatements]
  rw [List.filter_congr fun c hc => (Function.comp_apply).trans (hkeeps c hc)]
  refine List.map_congr_left fun c hc => ?_
  obtain ⟨hin, hliteral⟩ := Cursor.isIn_of_mem_literals (List.mem_of_mem_filter hc)
  have hroot : c.kind ≠ .program := Kind.ne_of_test hliteral rfl
  have hnode : (c.within (file.tree.withStatements (ss ++ ts)) offset).node = c.node :=
    Cursor.node_within (hin.crumbs_ne_nil hprogram hroot)
  rw [Function.comp_apply, StubLiteral.ofLiteral, StubLiteral.ofLiteral, Cursor.text, Cursor.text,
    hnode]
  rfl

/-- The stub of two lists of statements. -/
theorem stubs_append :
    (ofFile x (file.withStatements (ss ++ ts))).stubs =
      (ofFile x (file.withStatements ss)).stubs ++ (ofFile x (file.withStatements ts)).stubs := by
  rw [← stubs_within x hprogram ss ts ss 0, ← stubs_within x hprogram ss ts ts ss.length, ofFile,
    root_withStatements, Cursor.literals_append hprogram, List.filter_append, List.map_append]

/-- **The index of two lists of statements** is put together from those of each: the elements with
their declaring nodes, the occurrences and the literals of the stub. So the index of a program is put
together from those of its single statements. -/
theorem ofFile_append :
    (ofFile x (file.withStatements (ss ++ ts))).payload.map Element.shown =
        (ofFile x (file.withStatements ss)).payload.map Element.shown ++
          (ofFile x (file.withStatements ts)).payload.map Element.shown ∧
      (ofFile x (file.withStatements (ss ++ ts))).occurrences =
        (ofFile x (file.withStatements ss)).occurrences ++
          (ofFile x (file.withStatements ts)).occurrences ∧
      (ofFile x (file.withStatements (ss ++ ts))).stubs =
        (ofFile x (file.withStatements ss)).stubs ++
          (ofFile x (file.withStatements ts)).stubs ∧
      (ofFile x (file.withStatements us)).payload.map Element.shown =
        us.flatMap (fun s => (ofFile x (file.withStatements [s])).payload.map Element.shown) ∧
      (ofFile x (file.withStatements us)).occurrences =
        us.flatMap (fun s => (ofFile x (file.withStatements [s])).occurrences) ∧
      (ofFile x (file.withStatements us)).stubs =
        us.flatMap fun s => (ofFile x (file.withStatements [s])).stubs := by
  refine ⟨payload_append x hprogram ss ts, occurrences_append x hprogram ss ts,
    stubs_append x hprogram ss ts, ?_, ?_, ?_⟩
  · exact eq_flatMap_of_append
      (f := fun us => (ofFile x (file.withStatements us)).payload.map Element.shown)
      (payload_append x hprogram) us
  · exact eq_flatMap_of_append (f := fun us => (ofFile x (file.withStatements us)).occurrences)
      (occurrences_append x hprogram) us
  · exact eq_flatMap_of_append (f := fun us => (ofFile x (file.withStatements us)).stubs)
      (stubs_append x hprogram) us

end

/-- A script of two statements, in each of which something is found. -/
def twoStatements : SourceFile :=
  .ofScript "a.js"
    "Vue.component('b', \x7bp: [1]\x7d);\nnew Vue(\x7bel: 'x', q: [2]\x7d)".toUTF8.toList

theorem ofFile_append_twoStatements :
    twoStatements.tree.kind = .program ∧
      (ofFile .standard (twoStatements.withStatements
          (twoStatements.tree.children.take 1 ++ twoStatements.tree.children.drop 1))).occurrences =
        [⟨"a.js", "vue.components", "b", 1, 21⟩, ⟨"a.js", "vue.options", "x", 2, 10⟩] ∧
      (ofFile .standard (twoStatements.withStatements
          (twoStatements.tree.children.take 1 ++ twoStatements.tree.children.drop 1))).stubs =
        [⟨"a.js", "1", 1, 25⟩, ⟨"a.js", "2", 2, 23⟩] := by
  have hprogram : twoStatements.tree.kind = .program := by decide +kernel
  obtain ⟨-, hoccurrences, hstubs, -⟩ := ofFile_append .standard hprogram
    (twoStatements.tree.children.take 1) (twoStatements.tree.children.drop 1) []
  refine ⟨hprogram, ?_, ?_⟩
  · rw [hoccurrences]
    decide +kernel
  · rw [hstubs]
    decide +kernel

end FileIndex

end ComponentIndex
