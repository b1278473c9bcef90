/-
**Sections are slices of their file.**

Main definitions:

* `ComponentIndex.Markup.ScriptBlock.IsSliceOf` — a script section is a part of a file.

Main results:

* `ComponentIndex.Markup.isSliceOf_of_findScript?` — **the script section is the slice of the file
  that starts where it says**, in the row it says;
* `ComponentIndex.Markup.ScriptBlock.IsSliceOf.rowAt_add`,
  `ComponentIndex.Markup.ScriptBlock.IsSliceOf.columnAt_add` — positions in the section and in the
  file.
-/

import ComponentIndex.Markup.Section
import ComponentIndex.Proofs.Text.Position

set_option relaxedAutoImplicit false
set_option autoImplicit false

namespace ComponentIndex.Markup

/-- The bytes of a script section are those of the file from its first byte on, and its row is the
one in which it starts there. -/
structure ScriptBlock.IsSliceOf (bytes : List UInt8) (b : ScriptBlock) : Prop where
  /-- The bytes of the section. -/
  source_eq : b.source = (bytes.drop b.startByte).take b.source.length
  /-- Its row. -/
  startRow_eq : b.startRow = rowAt bytes b.startByte

theorem isSliceOf_of_scriptBlock? {bytes : List UInt8} {n : Node} {b : ScriptBlock}
    (h : n.scriptBlock? bytes = some b) : b.IsSliceOf bytes := by
  rw [Node.scriptBlock?] at h
  split at h
  · obtain ⟨raw, -, rfl⟩ := Option.map_eq_some_iff.1 h
    refine ⟨?_, rfl⟩
    dsimp only
    rw [List.length_take, List.take_eq_take_iff, Nat.min_assoc, Nat.min_self]
  · cases h

/-- The script section of a component file is a slice of the file. -/
theorem isSliceOf_of_findScript? [Parsers] {bytes : List UInt8} {b : ScriptBlock}
    (h : findScript? bytes = some b) : b.IsSliceOf bytes := by
  obtain ⟨n, -, hn⟩ := List.exists_of_findSome?_eq_some h
  exact isSliceOf_of_scriptBlock? hn

/-! ### Positions in a section -/

namespace ScriptBlock.IsSliceOf

variable {bytes : List UInt8} {b : ScriptBlock} {i : Nat}

/-- The row of a place in the section is counted from the row in which the section starts. -/
theorem rowAt_add (h : b.IsSliceOf bytes) (hi : i ≤ b.source.length) :
    rowAt bytes (b.startByte + i) = b.startRow + rowAt b.source i := by
  have hrow := Position.rowAt_slice (h.source_eq ▸ hi)
  rwa [← h.source_eq, ← h.startRow_eq] at hrow

/-- The column of a place in the section is its column in the file, except on the first row of the
section, where the columns before the section are missing. -/
theorem columnAt_add (h : b.IsSliceOf bytes) (hi : i ≤ b.source.length) :
    columnAt bytes (b.startByte + i) =
      columnAt b.source i + (if rowAt b.source i = 0 then columnAt bytes b.startByte else 0) := by
  have hcolumn := Position.columnAt_slice (h.source_eq ▸ hi)
  rwa [← h.source_eq] at hcolumn

end ScriptBlock.IsSliceOf

end ComponentIndex.Markup
