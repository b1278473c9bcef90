/-
**Quoted texts.**

Messages show a text between quotes with everything unprintable escaped.  Single quotes are used,
unless the text holds a single quote and no double quote.

Main definitions:

* `ComponentIndex.Text.quote` — which quote is used;
* `ComponentIndex.Text.quoted` — the quoted text;
* `ComponentIndex.Text.unquoted` — a literal without its quotes, escapes left as they are spelled.
-/

import ComponentIndex.Text.LowerCase
import ComponentIndex.Text.Quoted.Table

set_option relaxedAutoImplicit false
set_option autoImplicit false

namespace ComponentIndex

/-- The code point is shown as itself in a quoted text. -/
def CodePoint.isPrintable (c : CodePoint) : Bool := !c.inRanges Text.unprintableRanges

namespace Text

/-! ### Writing a quoted text -/

/-- A number in lower-case hexadecimal digits, with leading zeros up to a width. -/
def hexDigits (width n : Nat) : Text :=
  let digits := (Nat.toDigits 16 n).map CodePoint.ofChar
  List.replicate (width - digits.length) ('0' : CodePoint) ++ digits

/-- The quote of a quoted text: a double quote when that spares an escape, else a single one. -/
def quote (t : Text) : CodePoint :=
  if t.contains ('\'' : CodePoint) && !t.contains ('"' : CodePoint) then '"' else '\''

/-- One code point of a quoted text. -/
def quotedPoint (q c : CodePoint) : Text :=
  if c = q || c = ('\\' : CodePoint) then [('\\' : CodePoint), c]
  else if c.val = 0x09 then "\\t"
  else if c.val = 0x0A then "\\n"
  else if c.val = 0x0D then "\\r"
  else if c.isPrintable then [c]
  else if c.val < 0x100 then ofString "\\x" ++ hexDigits 2 c.val
  else if c.val < 0x10000 then ofString "\\u" ++ hexDigits 4 c.val
  else ofString "\\U" ++ hexDigits 8 c.val

/-- A text between quotes, with what cannot be printed escaped. -/
def quoted (t : Text) : Text :=
  let q := t.quote
  q :: t.flatMap (quotedPoint q) ++ [q]

/-! ### Taking quotes off -/

/-- A quote of a string or a template literal. -/
def isQuote (c : CodePoint) : Bool := c = ('\'' : CodePoint) || c = ('"' : CodePoint) || c = ('\x60' : CodePoint)

/-- A text without one pair of matching quotes around it; of a literal that is not closed the
opening quote is taken off, and any other text is left alone. -/
def unquoted : Text → Text
  | [] => []
  | q :: rest =>
    if isQuote q then
      match rest.getLast? with
      | some last => if last = q then rest.dropLast else rest
      | none => rest
    else q :: rest

end Text

end ComponentIndex
