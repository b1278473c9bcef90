/-
**Blank code points and stripping.**

One set of blanks serves the whole library: the line ends and the tabulators, the four separators
`U+001C … U+001F`, and the spaces of Unicode, no-break spaces among them.  The byte-order mark and
the zero-width space are no blanks.

Main definitions:

* `ComponentIndex.CodePoint.isBlank` — the set;
* `ComponentIndex.Text.strip` — a text without the blanks at its two ends;
* `ComponentIndex.Text.lines` — the lines of a text whose lines end in `LF`, `CR` or both.
-/

import ComponentIndex.Text.Basic

set_option relaxedAutoImplicit false
set_option autoImplicit false

namespace ComponentIndex

/-- A blank: what a strip takes off and what separates words. -/
def CodePoint.isBlank (c : CodePoint) : Bool :=
  let n := c.val
  (0x09 ≤ n && n ≤ 0x0D) || (0x1C ≤ n && n ≤ 0x20) || n == 0x85 || n == 0xA0 || n == 0x1680 ||
    (0x2000 ≤ n && n ≤ 0x200A) || n == 0x2028 || n == 0x2029 || n == 0x202F || n == 0x205F ||
    n == 0x3000

namespace Text

/-- A text without the blanks at its beginning. -/
def stripStart (t : Text) : Text := t.dropWhile CodePoint.isBlank

/-- A text without the blanks at its end. -/
def stripEnd (t : Text) : Text := (t.reverse.dropWhile CodePoint.isBlank).reverse

/-- A text without the blanks at its two ends. -/
def strip (t : Text) : Text := stripEnd (stripStart t)

/-- The lines of a text: `LF`, `CR` and `CR LF` end a line, and what follows the last end is a line
unless it is empty. -/
def lines : Text → List Text
  | [] => []
  | c :: t =>
    if c.val = 0x0A then [] :: lines t
    else if c.val = 0x0D then
      match t with
      | [] => [[]]
      | d :: t' => if d.val = 0x0A then [] :: lines t' else [] :: lines (d :: t')
    else
      match lines t with
      | [] => [[c]]
      | line :: rest => (c :: line) :: rest

end Text

end ComponentIndex
