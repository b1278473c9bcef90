/-
**Positions follow offsets.**

Of two different places in a source, the later one has a later row, or the same row and a later
column.

Main definitions:

* `ComponentIndex.Position` — a row and a column, compared by row and then by column.

Main results:

* `ComponentIndex.Position.ofOffset_before` — positions follow offsets;
* `ComponentIndex.Position.rowAt_slice`, `ComponentIndex.Position.columnAt_slice` — positions in a
  slice of a source.
-/

import Mathlib.Data.List.TakeWhile
import ComponentIndex.Text.Position

set_option relaxedAutoImplicit false
set_option autoImplicit false

namespace ComponentIndex

/-- A row and a column. -/
structure Position where
  /-- The row. -/
  row : Nat
  /-- The column. -/
  column : Nat

namespace Position

/-- The order of positions: by row, and within a row by column. -/
def Before (a b : Position) : Prop := a.row < b.row ∨ a.row = b.row ∧ a.column < b.column

theorem Before.trans {a b c : Position} (hab : a.Before b) (hbc : b.Before c) : a.Before c := by
  unfold Before at hab hbc ⊢
  omega

theorem Before.irrefl (a : Position) : ¬a.Before a := by
  unfold Before
  omega

/-- The position of an offset, both numbers counted from zero. -/
def ofOffset (bytes : List UInt8) (offset : Nat) : Position :=
  ⟨rowAt bytes offset, columnAt bytes offset⟩

theorem rowAt_eq_add {bytes : List UInt8} {i j : Nat} (h : i ≤ j) :
    rowAt bytes j = rowAt bytes i + ((bytes.drop i).take (j - i)).count 0x0A := by
  obtain ⟨n, rfl⟩ := Nat.exists_eq_add_of_le h
  rw [rowAt, rowAt, List.take_add, List.count_append, Nat.add_sub_cancel_left]

/-- On one row the column grows by the number of bytes that are passed. -/
theorem columnAt_eq_add {bytes : List UInt8} {i j : Nat} (h : i ≤ j)
    (hrow : ((bytes.drop i).take (j - i)).count 0x0A = 0) :
    columnAt bytes j = columnAt bytes i + ((bytes.drop i).take (j - i)).length := by
  obtain ⟨n, rfl⟩ := Nat.exists_eq_add_of_le h
  rw [Nat.add_sub_cancel_left] at hrow ⊢
  -- No line ends among the bytes that are passed, so counting back goes through all of them.
  have hall : ∀ b ∈ ((bytes.drop i).take n).reverse, (b != 0x0A) = true := by
    intro b hb
    rw [List.mem_reverse] at hb
    rw [bne_iff_ne]
    rintro rfl
    exact absurd hrow (Nat.pos_iff_ne_zero.1 (List.count_pos_iff.2 hb))
  rw [columnAt, columnAt, List.take_add, List.reverse_append, List.takeWhile_append_of_pos hall,
    List.length_append, List.length_reverse, Nat.add_comm]

/-! ### Slices -/

section

variable {bytes : List UInt8} {start length i : Nat}

/-- Before a place in a slice stand the bytes before the slice and the first bytes of it. -/
theorem take_slice (h : i ≤ ((bytes.drop start).take length).length) :
    bytes.take (start + i) = bytes.take start ++ ((bytes.drop start).take length).take i := by
  have hi : i ≤ length := Nat.le_trans h (List.length_take_le _ _)
  rw [List.take_add, List.take_take, Nat.min_eq_left hi]

/-- Counting back goes through all of a source exactly if no line ends in it. -/
theorem length_takeWhile_reverse_iff :
    (bytes.reverse.takeWhile (· != 0x0A)).length = bytes.reverse.length ↔
      bytes.count 0x0A = 0 := by
  rw [List.count_eq_zero]
  constructor
  · intro h hmem
    have hself := (List.takeWhile_prefix _).eq_of_length h
    rw [List.takeWhile_eq_self_iff] at hself
    exact absurd (hself 0x0A (List.mem_reverse.2 hmem)) (by decide)
  · intro h
    rw [List.takeWhile_eq_self_iff.2]
    intro b hb
    rw [bne_iff_ne]
    rintro rfl
    exact h (List.mem_reverse.1 hb)

/-- The row of a place in a slice. -/
theorem rowAt_slice (h : i ≤ ((bytes.drop start).take length).length) :
    rowAt bytes (start + i) = rowAt bytes start + rowAt ((bytes.drop start).take length) i := by
  rw [rowAt, take_slice h, List.count_append, rowAt, rowAt]

/-- The column of a place in a slice: on the first row of the slice, what stands before the slice on
that row is left of it. -/
theorem columnAt_slice (h : i ≤ ((bytes.drop start).take length).length) :
    columnAt bytes (start + i) =
      columnAt ((bytes.drop start).take length) i +
        (if rowAt ((bytes.drop start).take length) i = 0 then columnAt bytes start else 0) := by
  rw [columnAt, columnAt, columnAt, rowAt, take_slice h, List.reverse_append, List.takeWhile_append,
    if_congr length_takeWhile_reverse_iff rfl rfl]
  split
  next hrow => rw [List.length_append, length_takeWhile_reverse_iff.2 hrow]
  · rfl

end

/-- Positions follow offsets. -/
theorem ofOffset_before {bytes : List UInt8} {i j : Nat} (hij : i < j) (hj : j ≤ bytes.length) :
    (ofOffset bytes i).Before (ofOffset bytes j) := by
  have hle := Nat.le_of_lt hij
  have hrow : rowAt bytes j = _ := rowAt_eq_add hle
  rw [Before, ofOffset, ofOffset]
  cases hcount : ((bytes.drop i).take (j - i)).count 0x0A with
  | zero =>
      have hcolumn := columnAt_eq_add hle hcount
      rw [List.length_take, List.length_drop] at hcolumn
      right
      constructor
      · rw [hrow, hcount, Nat.add_zero]
      · dsimp only
        omega
  | succ n =>
      left
      dsimp only
      omega

end Position

end ComponentIndex
