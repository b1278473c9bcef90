/-
**Surrogate pairs.**

A string literal may spell a character outside the basic plane as two escapes, one for each half of
a surrogate pair.  Such halves are joined to the one character they spell, but only when every
surrogate of the text has its partner: a text with a surrogate that stands alone is not well-formed
UTF-16 and stays as it is spelled.

Main definitions:

* `ComponentIndex.Utf16.joinPair` — the character of a pair;
* `ComponentIndex.Utf16.join?` — all pairs joined, if no surrogate stands alone;
* `ComponentIndex.Utf16.joinPairs` — the same, with the text itself where that fails;
* `ComponentIndex.Utf16.units` — the UTF-16 code units of a text.
-/

import ComponentIndex.Text.Basic

set_option relaxedAutoImplicit false
set_option autoImplicit false

namespace ComponentIndex.Utf16

/-- The character that a high and a low surrogate spell. -/
def joinPair (high low : CodePoint) : CodePoint where
  val := 0x10000 + high.val % 0x400 * 0x400 + low.val % 0x400
  val_lt := by omega

/-- The text with every surrogate pair joined; `none` if some surrogate stands alone. -/
def join? : Text → Option Text
  | [] => some []
  | [c] => if c.isSurrogate then none else some [c]
  | c :: d :: t =>
    if c.isHighSurrogate then
      if d.isLowSurrogate then (join? t).map (joinPair c d :: ·) else none
    else if c.isLowSurrogate then none
    else (join? (d :: t)).map (c :: ·)

/-- The text with its surrogate pairs joined, unless some surrogate stands alone. -/
def joinPairs (t : Text) : Text := (join? t).getD t

/-- The UTF-16 code units of one code point; a surrogate is its own unit. -/
def unitsOfPoint (c : CodePoint) : List Nat :=
  if c.val < 0x10000 then [c.val]
  else [0xD800 + (c.val - 0x10000) / 0x400, 0xDC00 + (c.val - 0x10000) % 0x400]

/-- The UTF-16 code units of a text. -/
def units (t : Text) : List Nat := t.flatMap unitsOfPoint

end ComponentIndex.Utf16
