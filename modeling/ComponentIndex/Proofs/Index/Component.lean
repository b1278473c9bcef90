/-
**Positions in component files.**

The tree of a component covers its script section alone.  The rows of its nodes are those of the
file, and what stands around the section only moves them.  The columns are those of the file too,
but for the nodes on the row on which the section starts: there they are counted from its beginning.
All this rests on the section being a slice of the file, and on nodes that start within it.

Main definitions:

* `ComponentIndex.SourceFile.startingAt` — a file whose script starts in another row;
* `ComponentIndex.Occurrence.movedBy`, `ComponentIndex.StubLiteral.movedBy` — records moved down by
  some rows.

Main results:

* `ComponentIndex.SourceFile.columnAt_component` — **columns**, with the one that the first row
  misses;
* `ComponentIndex.FileIndex.lines_component` — **rows**, and the records of two components with the
  same script.
-/

import ComponentIndex.Index.File
import ComponentIndex.Proofs.Markup.Section
import ComponentIndex.Proofs.Parsers

set_option relaxedAutoImplicit false
set_option autoImplicit false

namespace ComponentIndex

open Markup (ScriptBlock findScript? isSliceOf_of_findScript?)
open Script (Cursor)

/-! ### Nodes -/

namespace SourceFile

section

variable [p : Parsers] {path : Text} {bytes : List UInt8} {b : ScriptBlock} {c : Cursor}

theorem ofBytes_component (h : findScript? bytes = some b) :
    ofBytes path bytes .component = ofScriptBlock path (some b) := by
  rw [ofBytes, h]

theorem start_le_of_component (hp : p.StayWithin) (h : findScript? bytes = some b)
    (hc : c.IsIn (ofBytes path bytes .component).tree) : c.node.start ≤ b.source.length := by
  rw [ofBytes_component h] at hc
  exact (hc.startsWithin (hp.script b.source)).start_le

/-- The row of a node in a component is its row in the file. -/
theorem lineOf_component (hp : p.StayWithin) (h : findScript? bytes = some b)
    (hc : c.IsIn (ofBytes path bytes .component).tree) :
    (ofBytes path bytes .component).lineOf c.node =
      rowAt bytes (b.startByte + c.node.start) + 1 := by
  have hrow := (isSliceOf_of_findScript? h).rowAt_add (start_le_of_component hp h hc)
  rw [ofBytes_component h, lineOf, ofScriptBlock]
  dsimp only
  omega

/-- **The column of a node** in a component is its column in the file, except on the row on which
the script section starts: there the columns before the section are missing. -/
theorem columnAt_component (hp : p.StayWithin) (h : findScript? bytes = some b)
    (hc : c.IsIn (ofBytes path bytes .component).tree) :
    columnAt bytes (b.startByte + c.node.start) + 1 =
      (ofBytes path bytes .component).colOf c.node +
        (if rowAt b.source c.node.start = 0 then columnAt bytes b.startByte else 0) := by
  have hcolumn := (isSliceOf_of_findScript? h).columnAt_add (start_le_of_component hp h hc)
  rw [ofBytes_component h, colOf, ofScriptBlock]
  dsimp only
  omega

end

/-- A component whose script starts on the row of its tag. -/
def onTagRow : List UInt8 := "<script>export default \x7bname: 'a'\x7d</script>".toUTF8.toList

/-- The script of the component on one row. -/
def onTagRowBlock : ScriptBlock where
  source := "export default \x7bname: 'a'\x7d".toUTF8.toList
  startByte := 8
  startRow := 0
  lang := none

theorem findScript?_onTagRow : findScript? onTagRow = some onTagRowBlock := by decide +kernel

theorem columnAt_component_onTagRow :
    findScript? onTagRow = some onTagRowBlock ∧
      ∃ c ∈ (ofBytes "a.vue" onTagRow .component).root.preorder, c.kind = .pair ∧
        (ofBytes "a.vue" onTagRow .component).colOf c.node = 17 ∧
        columnAt onTagRow (8 + c.node.start) + 1 = 17 + 8 := by
  obtain ⟨c, hc, hkind, hcol, hrow⟩ : ∃ c ∈ (ofBytes "a.vue" onTagRow .component).root.preorder,
      c.kind = .pair ∧ (ofBytes "a.vue" onTagRow .component).colOf c.node = 17 ∧
        rowAt onTagRowBlock.source c.node.start = 0 := by decide +kernel
  have hbefore : columnAt onTagRow onTagRowBlock.startByte = 8 := by decide +kernel
  have hcolumn := columnAt_component Parsers.ofGrammars_stayWithin findScript?_onTagRow
    (Cursor.mem_preorder_iff.1 hc)
  rw [hcol, if_pos hrow, hbefore] at hcolumn
  exact ⟨findScript?_onTagRow, c, hc, hkind, hcol, hcolumn⟩

/-- Columns of components are not those of the file: on the row of the tag they are less. -/
theorem colOf_ne_onTagRow :
    ¬∀ (path : Text) (bytes : List UInt8) (b : ScriptBlock) (c : Cursor),
      findScript? bytes = some b → c.IsIn (ofBytes path bytes .component).tree →
        (ofBytes path bytes .component).colOf c.node =
          columnAt bytes (b.startByte + c.node.start) + 1 := by
  intro h
  have hcol := h "a.vue" onTagRow onTagRowBlock _ findScript?_onTagRow (Cursor.isIn_root _)
  revert hcol
  decide +kernel

/-! ### Moving the script -/

/-- The same file with its script starting in another row. -/
def startingAt (row : Nat) (file : SourceFile) : SourceFile := { file with lineOffset := row }

end SourceFile

/-- The occurrence some rows further down. -/
def Occurrence.movedBy (rows : Nat) (o : Occurrence) : Occurrence :=
  { o with startLine := o.startLine + rows }

/-- The literal some rows further down. -/
def StubLiteral.movedBy (rows : Nat) (s : StubLiteral) : StubLiteral :=
  { s with startLine := s.startLine + rows }

section

variable (x : ExtensionPoint) (file : SourceFile) (row : Nat)

/-- The elements of a file do not depend on the row in which its script starts. -/
theorem ExtensionPoint.collect_startingAt : x.collect (file.startingAt row) = x.collect file := rfl

/-- Neither do the literals that its stub keeps. -/
theorem ExtensionPoint.keeps_startingAt : x.keeps (file.startingAt row) = x.keeps file := rfl

theorem SourceFile.lineOf_startingAt (n : Script.Node) :
    (file.startingAt row).lineOf n + file.lineOffset = file.lineOf n + row := by
  rw [lineOf, lineOf, startingAt]
  dsimp only
  omega

namespace FileIndex

theorem occurrences_startingAt :
    (ofFile x (file.startingAt row)).occurrences.map (Occurrence.movedBy file.lineOffset) =
      (ofFile x file).occurrences.map (Occurrence.movedBy row) := by
  have h (e : Element) :
      (Occurrence.ofElement? x (file.startingAt row) e).map (Occurrence.movedBy file.lineOffset) =
        (Occurrence.ofElement? x file e).map (Occurrence.movedBy row) := by
    rw [Occurrence.ofElement?, Occurrence.ofElement?, Option.map_map, Option.map_map]
    congr 1
    funext name
    dsimp only [Function.comp_apply, Occurrence.movedBy]
    rw [SourceFile.lineOf_startingAt]
    rfl
  rw [ofFile, ofFile, x.collect_startingAt, List.map_filterMap, List.map_filterMap]
  simp only [h]

theorem stubs_startingAt :
    (ofFile x (file.startingAt row)).stubs.map (StubLiteral.movedBy file.lineOffset) =
      (ofFile x file).stubs.map (StubLiteral.movedBy row) := by
  rw [ofFile, ofFile, x.keeps_startingAt, List.map_map, List.map_map]
  refine List.map_congr_left fun c _ => ?_
  dsimp only [Function.comp_apply, StubLiteral.movedBy, StubLiteral.ofLiteral]
  rw [SourceFile.lineOf_startingAt]
  rfl

/-- **The rows of a component** are those of the file, and the script section is a slice of it.  Two
components with the same script have the same records, but for the rows: these differ by the rows in
which the two scripts start, so they agree when each is moved down by the row of the other. -/
theorem lines_component [p : Parsers] (hp : p.StayWithin) {path : Text} {bytes : List UInt8}
    {b : ScriptBlock} (h : findScript? bytes = some b) :
    b.source = (bytes.drop b.startByte).take b.source.length ∧
      (∀ c : Cursor, c.IsIn (SourceFile.ofBytes path bytes .component).tree →
        (SourceFile.ofBytes path bytes .component).lineOf c.node =
          rowAt bytes (b.startByte + c.node.start) + 1) ∧
      ∀ (x : ExtensionPoint) (bytes' : List UInt8) (b' : ScriptBlock),
        findScript? bytes' = some b' → b'.source = b.source →
          (ofFile x (.ofBytes path bytes' .component)).occurrences.map
                (Occurrence.movedBy b.startRow) =
              (ofFile x (.ofBytes path bytes .component)).occurrences.map
                (Occurrence.movedBy b'.startRow) ∧
            (ofFile x (.ofBytes path bytes' .component)).stubs.map
                (StubLiteral.movedBy b.startRow) =
              (ofFile x (.ofBytes path bytes .component)).stubs.map
                (StubLiteral.movedBy b'.startRow) := by
  refine ⟨(isSliceOf_of_findScript? h).source_eq, fun c hc => SourceFile.lineOf_component hp h hc, ?_⟩
  intro x bytes' b' h' hsource
  have hmoved : SourceFile.ofBytes path bytes' .component =
      (SourceFile.ofScriptBlock path (some b)).startingAt b'.startRow := by
    rw [SourceFile.ofBytes_component h', SourceFile.ofScriptBlock, hsource]
    rfl
  rw [hmoved, SourceFile.ofBytes_component h]
  exact ⟨occurrences_startingAt x (.ofScriptBlock path (some b)) b'.startRow,
    stubs_startingAt x (.ofScriptBlock path (some b)) b'.startRow⟩

/-- A component with its script at the top. -/
def scriptFirst : List UInt8 :=
  "<script>\nexport default \x7bname: 'a', x: [1]\x7d\n</script>\n".toUTF8.toList

/-- A component with the same script below an element. -/
def scriptLast : List UInt8 :=
  "<p/>\r\n\n<script lang='js'>\nexport default \x7bname: 'a', x: [1]\x7d\n</script>".toUTF8.toList

/-- The script of both components, as a section of the given place and language. -/
def sharedScript (startByte startRow : Nat) (lang : Option Text) : ScriptBlock where
  source := "\nexport default \x7bname: 'a', x: [1]\x7d\n".toUTF8.toList
  startByte := startByte
  startRow := startRow
  lang := lang

theorem lines_component_sharedScript :
    findScript? scriptFirst = some (sharedScript 8 0 none) ∧
      findScript? scriptLast = some (sharedScript 25 2 (some "js")) ∧
      (ofFile .standard (.ofBytes "a.vue" scriptLast .component)).occurrences.map
        (Occurrence.movedBy 0) = [⟨"a.vue", Registry.componentsIndex, "a", 2 + 2, 17⟩] ∧
      (ofFile .standard (.ofBytes "a.vue" scriptLast .component)).stubs.map
        (StubLiteral.movedBy 0) = [⟨"a.vue", "1", 2 + 2, 32⟩] := by
  have hfirst : findScript? scriptFirst = some (sharedScript 8 0 none) := by decide +kernel
  have hlast : findScript? scriptLast = some (sharedScript 25 2 (some "js")) := by decide +kernel
  obtain ⟨-, -, hrecords⟩ :=
    @lines_component _ Parsers.ofGrammars_stayWithin "a.vue" _ _ hfirst
  obtain ⟨hoccurrences, hstubs⟩ := hrecords .standard scriptLast _ hlast rfl
  exact ⟨hfirst, hlast, hoccurrences.trans (by decide +kernel), hstubs.trans (by decide +kernel)⟩

end FileIndex

end

end ComponentIndex
