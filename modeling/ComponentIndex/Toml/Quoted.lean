/-
**Texts of settings files.**

A text stands between double quotes, with escapes, or between single quotes, without any.  Three
quotes instead of one open a text that may span lines; it ends at the next three, and up to two more
quotes behind them still belong to it.

Main definitions:

* `ComponentIndex.Toml.basicText`, `ComponentIndex.Toml.literalText` — texts on one line;
* `ComponentIndex.Toml.text` — a text of any of the four forms.
-/

import ComponentIndex.Text.Scan

set_option relaxedAutoImplicit false
set_option autoImplicit false

namespace ComponentIndex.Toml

/-! ### Classes of characters -/

/-- A blank inside a line. -/
def isTabOrSpace (c : CodePoint) : Bool := c.val = 0x20 || c.val = 0x09

/-- A blank or a line end. -/
def isSpaceOrNewline (c : CodePoint) : Bool := isTabOrSpace c || c.val = 0x0A

/-- A character that may stand in a line of a text or of a comment: no control but the tabulator. -/
def isLineCharacter (c : CodePoint) : Bool := (0x20 ≤ c.val && c.val ≠ 0x7F) || c.val = 0x09

/-- A character that may stand in a text that spans lines. -/
def isTextCharacter (c : CodePoint) : Bool := isLineCharacter c || c.val = 0x0A

/-! ### Escapes -/

/-- The character with the number that a count of hexadecimal digits spells. -/
def numbered (count : Nat) : Scan CodePoint := do
  let digits ← Scan.exactly CodePoint.isHexDigit count
  match CodePoint.ofNat? (Text.hexValue digits) with
  | some c =>
    guard (!c.isSurrogate)
    return c
  | none => failure

/-- The characters that letters name after a backslash. -/
def namedEscapes : List (CodePoint × CodePoint) :=
  [('b', '\x08'), ('t', '\t'), ('n', '\n'), ('f', '\x0c'), ('r', '\r'), ('"', '"'), ('\\', '\\')]

/-- What an escape stands for whose backslash has been read. -/
def escape : Scan Text := do
  let c ← Scan.one fun _ => true
  if c = ('u' : CodePoint) then return [← numbered 4]
  else if c = ('U' : CodePoint) then return [← numbered 8]
  else
    match namedEscapes.lookup c with
    | some d => return [d]
    | none => failure

/-- A line end that does not belong to the text, with the blanks before it and all blanks and line
ends behind it, after a backslash. -/
def lineContinuation : Scan Text := do
  Scan.skip isTabOrSpace
  Scan.point '\n'
  Scan.skip isSpaceOrNewline
  return []

/-! ### Texts -/

/-- A piece of a text between double quotes. -/
def basicPiece (plain : CodePoint → Bool) (escaped : Scan Text) : Scan Text := do
  if ← Scan.accepts '\\' then escaped else return [← Scan.one plain]

/-- A text on one line between double quotes. -/
def basicText : Scan Text := do
  Scan.point '"'
  List.flatten <$> Scan.manyTill (Scan.point '"') (basicPiece isLineCharacter escape)

/-- A text on one line between single quotes. -/
def literalText : Scan Text := do
  Scan.point '\''
  Scan.manyTill (Scan.point '\'') (Scan.one isLineCharacter)

/-- Up to two quotes that belong to the text whose closing quotes have just been read. -/
def extraQuotes (quote : CodePoint) : Scan Text := do
  if ← Scan.accepts quote then
    if ← Scan.accepts quote then return [quote, quote] else return [quote]
  else return []

/-- A text that may span lines, of pieces between three quotes; a line end right behind the opening
quotes does not belong to it. -/
def linesText (quote : CodePoint) (piece : Scan Text) : Scan Text := do
  let quotes := [quote, quote, quote]
  Scan.word quotes
  let _ ← Scan.accepts '\n'
  let pieces ← Scan.manyTill (Scan.word quotes) piece
  return pieces.flatten ++ (← extraQuotes quote)

/-- A text that may span lines between double quotes. -/
def basicLines : Scan Text := linesText '"' (basicPiece isTextCharacter (lineContinuation <|> escape))

/-- A text that may span lines between single quotes. -/
def literalLines : Scan Text := linesText '\'' do return [← Scan.one isTextCharacter]

/-- A text of any form. -/
def text : Scan Text := do
  if ← Scan.sees "\"\"\"" then basicLines
  else if ← Scan.sees "'''" then literalLines
  else basicText <|> literalText

end ComponentIndex.Toml
