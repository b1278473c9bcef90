/-
**Reading JSON.**

The reader is strict: one value with nothing but blanks around it, no control character inside a
text, no surrogate without its partner, and no number beyond the binary64 format.  Lists and tables
nest at most 1024 deep.

Main definitions:

* `ComponentIndex.Json.value` — the scanner of a value;
* `ComponentIndex.Json.parse?`, `ComponentIndex.Json.ofBytes?` — the value of a text or of bytes.
-/

import ComponentIndex.Data.Basic
import ComponentIndex.Text.Scan
import ComponentIndex.Text.Utf16
import ComponentIndex.Text.Utf8

set_option relaxedAutoImplicit false
set_option autoImplicit false

namespace ComponentIndex.Json

/-- The greatest depth to which lists and tables nest. -/
def maxDepth : Nat := 1024

/-- A blank between two symbols. -/
def isSpace (c : CodePoint) : Bool := c.val = 0x20 || c.val = 0x09 || c.val = 0x0A || c.val = 0x0D

/-- Passes blanks. -/
def spaces : Scan Unit := Scan.skip isSpace

/-! ### Texts -/

/-- A code point that stands for itself in a text. -/
def isPlain (c : CodePoint) : Bool :=
  0x20 ≤ c.val && c ≠ ('"' : CodePoint) && c ≠ ('\\' : CodePoint)

/-- The code point of the four hexadecimal digits after `\u`. -/
def unit : Scan CodePoint := do
  let digits ← Scan.exactly CodePoint.isHexDigit 4
  match CodePoint.ofNat? (Text.hexValue digits) with
  | some c => return c
  | none => failure

/-- The code point that one or two escapes by number spell; a surrogate needs its partner. -/
def numbered : Scan CodePoint := do
  let c ← unit
  if c.isHighSurrogate then
    Scan.word "\\u"
    let d ← unit
    guard d.isLowSurrogate
    return Utf16.joinPair c d
  else
    guard (!c.isSurrogate)
    return c

/-- The code point that a letter after a backslash names. -/
def letter (c : CodePoint) : Option CodePoint :=
  [(('"' : CodePoint), ('"' : CodePoint)), ('\\', '\\'), ('/', '/'), ('b', '\x08'), ('f', '\x0c'),
    ('n', '\n'), ('r', '\r'), ('t', '\t')].lookup c

/-- What follows a backslash. -/
def escape : Scan CodePoint := do
  let c ← Scan.one fun _ => true
  if c = ('u' : CodePoint) then numbered
  else
    match letter c with
    | some d => return d
    | none => failure

/-- One code point of a text. -/
def piece : Scan CodePoint := do
  if ← Scan.accepts '\\' then escape else Scan.one isPlain

/-- A text between quotes. -/
def text : Scan Text := do
  Scan.point '"'
  Scan.manyTill (Scan.point '"') piece

/-! ### Numbers -/

/-- The digits after a point, if there is one. -/
def fraction : Scan (Option Text) := do
  if ← Scan.accepts '.' then some <$> Scan.span1 CodePoint.isDigit else return none

/-- The sign of an exponent; the result tells whether it is negative. -/
def exponentSign : Scan Bool := do
  if ← Scan.accepts '-' then return true
  else
    let _ ← Scan.accepts '+'
    return false

/-- An exponent, if there is one. -/
def exponent : Scan (Option Int) := do
  match ← Scan.peek? with
  | none => return none
  | some c =>
    if c = ('e' : CodePoint) || c = ('E' : CodePoint) then
      Scan.point c
      let negative ← exponentSign
      let digits ← Scan.span1 CodePoint.isDigit
      let n : Int := Text.digitValue 10 digits
      return some (if negative then -n else n)
    else return none

/-- The digits before the point: no zero stands before another digit. -/
def whole : Scan Text := do
  let digits ← Scan.span1 CodePoint.isDigit
  guard (digits.length = 1 || digits.head? ≠ some ('0' : CodePoint))
  return digits

/-- A number: whole unless it has a fraction or an exponent. -/
def number : Scan Data := do
  let negative ← Scan.accepts '-'
  let digits ← whole
  let decimals ← fraction
  let power ← exponent
  match decimals, power with
  | none, none =>
    let n : Int := Text.digitValue 10 digits
    return .int (if negative then -n else n)
  | _, _ =>
    let after := decimals.getD []
    let x := Binary64.ofDecimal negative (Text.digitValue 10 (digits ++ after))
      (power.getD 0 - after.length)
    guard x.isFinite
    return .float x

/-! ### Values -/

/-- A word that stands for a value. -/
def constant : Scan Data :=
  (do Scan.word "null"; return .null) <|> (do Scan.word "true"; return .bool true) <|>
    (do Scan.word "false"; return .bool false)

/-- Items between commas, up to a closing bracket. -/
def items {α : Type} (closer : CodePoint) (item : Scan α) : Scan (List α) := do
  spaces
  if ← Scan.accepts closer then return []
  else
    let xs ← Scan.separated (do Scan.point ','; spaces) (do let x ← item; spaces; return x)
    Scan.point closer
    return xs

/-- An entry of a table. -/
def entry (value : Scan Data) : Scan (Text × Data) := do
  let key ← text
  spaces
  Scan.point ':'
  spaces
  return (key, ← value)

/-- A value in which lists and tables nest at most as deep as told. -/
def value : Nat → Scan Data
  | 0 => (Data.text <$> text) <|> number <|> constant
  | depth + 1 =>
    (do Scan.point '['; .list <$> items ']' (value depth)) <|>
      (do Scan.point '\x7b'; Data.ofEntries <$> items '\x7d' (entry (value depth))) <|>
      (Data.text <$> text) <|> number <|> constant

/-- The value that a text spells. -/
def parse? (t : Text) : Option Data :=
  Scan.all? (do spaces; let d ← value maxDepth; spaces; return d) t

/-- The value that some bytes spell in UTF-8. -/
def ofBytes? (bytes : List UInt8) : Option Data := (Utf8.decode? bytes).bind parse?

end ComponentIndex.Json
