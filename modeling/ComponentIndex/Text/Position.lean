/-
**Rows and columns.**

A place in a source is an offset in bytes.  Only a line feed ends a row, and columns count bytes.

Main definitions:

* `ComponentIndex.rowAt`, `ComponentIndex.columnAt` — the zero-based row and column of an offset.
-/

import ComponentIndex.Text.Basic

set_option relaxedAutoImplicit false
set_option autoImplicit false

namespace ComponentIndex

/-- The number of rows that end before an offset. -/
def rowAt (bytes : List UInt8) (offset : Nat) : Nat := (bytes.take offset).count 0x0A

/-- The number of bytes between an offset and the beginning of its row. -/
def columnAt (bytes : List UInt8) (offset : Nat) : Nat :=
  ((bytes.take offset).reverse.takeWhile (· != 0x0A)).length

end ComponentIndex
