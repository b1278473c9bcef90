/-
**The statements of a settings file.**

Each line holds at most one statement: a pair of a key and a value, the header of a table, or the
header of one more table of a list.  Keys are dotted paths.  A comment may end any line.

Main definitions:

* `ComponentIndex.Toml.Statement` — the statements;
* `ComponentIndex.Toml.value` — the scanner of a value;
* `ComponentIndex.Toml.statements?` — the statements of a text.
-/

import ComponentIndex.Toml.Quoted
import ComponentIndex.Toml.Scalar
import ComponentIndex.Toml.Tree

set_option relaxedAutoImplicit false
set_option autoImplicit false

namespace ComponentIndex.Toml

/-- A statement. -/
inductive Statement where
  /-- A value for a key. -/
  | pair (path : Path) (value : Data)
  /-- The header of a table. -/
  | table (path : Path)
  /-- The header of one more table of a list. -/
  | listItem (path : Path)

/-! ### Blanks and comments -/

/-- Passes blanks inside a line. -/
def spaces : Scan Unit := Scan.skip isTabOrSpace

/-- A comment to the end of the line. -/
def comment : Scan Unit := do
  Scan.point '#'
  let t ← Scan.span fun c => c.val ≠ 0x0A
  guard (t.all isLineCharacter)

/-- Passes blanks, line ends and comments. -/
def gap : Scan Unit := do
  Scan.skip isSpaceOrNewline
  let _ ← Scan.many (do comment; Scan.skip isSpaceOrNewline)
  return ()

/-! ### Keys -/

/-- A character of a key without quotes. -/
def isBareKeyCharacter (c : CodePoint) : Bool :=
  c.isEnglishLetter || c.isDigit || c = ('-' : CodePoint) || c = ('_' : CodePoint)

/-- One part of a key. -/
def keyPart : Scan Text := Scan.span1 isBareKeyCharacter <|> literalText <|> basicText

/-- A dotted key, with the blanks behind it. -/
def key : Scan Path :=
  Scan.separated (do Scan.point '.'; spaces) (do let part ← keyPart; spaces; return part)

/-! ### Values -/

/-- A pair of a key and a value. -/
def pair (value : Scan Data) : Scan (Path × Data) := do
  let path ← key
  Scan.point '='
  spaces
  return (path, ← value)

/-- A list; a comma may follow its last item. -/
def list (value : Scan Data) : Scan Data := do
  Scan.point '['
  gap
  let items ← Scan.manyTill (Scan.point ']') do
    let item ← value
    gap
    if !(← Scan.sees "]") then
      Scan.point ','
      gap
    return item
  return .list items

/-- A table between braces. -/
def inlineTable (value : Scan Data) : Scan Data := do
  Scan.point '\x7b'
  spaces
  if ← Scan.accepts '\x7d' then return .table []
  else
    let pairs ← Scan.separated (do Scan.point ','; spaces) (do let p ← pair value; spaces; return p)
    Scan.point '\x7d'
    match ofPairs? pairs with
    | some d => return d
    | none => failure

/-- A value in which lists and tables nest less deep than told. -/
def value : Nat → Scan Data
  | 0 => failure
  | depth + 1 =>
    (.text <$> text) <|> list (value depth) <|> inlineTable (value depth) <|> scalar

/-! ### Lines -/

/-- A statement; values nest less deep than told. -/
def statement (depth : Nat) : Scan Statement :=
  (do
    Scan.word "[["
    spaces
    let path ← key
    Scan.word "]]"
    return .listItem path) <|>
  (do
    Scan.point '['
    spaces
    let path ← key
    Scan.point ']'
    return .table path) <|>
  (do
    let (path, d) ← pair (value depth)
    return .pair path d)

/-- A line: a statement or none, and a comment or none. -/
def line (depth : Nat) : Scan (Option Statement) := do
  spaces
  let s ← Scan.option? (statement depth)
  spaces
  let _ ← Scan.option? comment
  return s

/-- A text in which every line ends in a line feed alone. -/
def withoutCarriageReturns : Text → Text
  | [] => []
  | c :: t =>
    if c.val = 0x0D && t.head?.any (·.val = 0x0A) then withoutCarriageReturns t
    else c :: withoutCarriageReturns t

/-- The statements of a text. -/
def statements? (t : Text) : Option (List Statement) :=
  let source := withoutCarriageReturns t
  (Scan.all? (Scan.separated (Scan.point '\n') (line (source.length + 1))) source).map
    (List.filterMap id)

end ComponentIndex.Toml
