/-
**Text as a list of code points.**

Names read off a source file can hold a surrogate that stands alone (`'\uD800'` is a legal string
literal), which no `Char` represents.  A text is therefore a list of code points, the surrogates
among them; a text without surrogates is what UTF-8 can carry.

Main definitions:

* `ComponentIndex.CodePoint` — a number below `0x110000`;
* `ComponentIndex.Text` — a list of code points, with literals read off Lean strings;
* `ComponentIndex.Text.isScalar` — no surrogate occurs;
* `ComponentIndex.Text.less` — the order by code points.
-/

set_option relaxedAutoImplicit false
set_option autoImplicit false

namespace ComponentIndex

/-- A code point, a surrogate included. -/
structure CodePoint where
  /-- The number of the code point. -/
  val : Nat
  /-- There are `0x110000` code points. -/
  val_lt : val < 0x110000
deriving DecidableEq, Hashable

namespace CodePoint

/-- The code point of a character. -/
def ofChar (c : Char) : CodePoint where
  val := c.toNat
  val_lt := by
    rcases c.valid with h | ⟨_, h⟩
    · exact Nat.lt_trans h (by decide)
    · exact h

instance : Coe Char CodePoint := ⟨ofChar⟩

instance : Inhabited CodePoint := ⟨'\x00'⟩

/-- The code point with a given number, if there is one. -/
def ofNat? (n : Nat) : Option CodePoint :=
  if h : n < 0x110000 then some ⟨n, h⟩ else none

/-- A surrogate that opens a pair. -/
def isHighSurrogate (c : CodePoint) : Bool := 0xD800 ≤ c.val && c.val ≤ 0xDBFF

/-- A surrogate that closes a pair. -/
def isLowSurrogate (c : CodePoint) : Bool := 0xDC00 ≤ c.val && c.val ≤ 0xDFFF

/-- A surrogate of either half. -/
def isSurrogate (c : CodePoint) : Bool := 0xD800 ≤ c.val && c.val ≤ 0xDFFF

/-- The character of a code point; a surrogate has none. -/
def toChar? (c : CodePoint) : Option Char :=
  if h : c.val.isValidChar then some (Char.ofNatAux c.val h) else none

/-- Whether the code point lies in the closed range from `lo` to `hi`. -/
def isBetween (lo hi : Char) (c : CodePoint) : Bool := lo.toNat ≤ c.val && c.val ≤ hi.toNat

/-- A decimal digit. -/
def isDigit (c : CodePoint) : Bool := c.isBetween '0' '9'

/-- An octal digit. -/
def isOctalDigit (c : CodePoint) : Bool := c.isBetween '0' '7'

/-- The value of a hexadecimal digit in either case. -/
def hexValue? (c : CodePoint) : Option Nat :=
  if c.isBetween '0' '9' then some (c.val - '0'.toNat)
  else if c.isBetween 'a' 'f' then some (c.val - 'a'.toNat + 10)
  else if c.isBetween 'A' 'F' then some (c.val - 'A'.toNat + 10)
  else none

/-- A hexadecimal digit in either case. -/
def isHexDigit (c : CodePoint) : Bool := c.hexValue?.isSome

/-- A letter of the English alphabet in either case. -/
def isEnglishLetter (c : CodePoint) : Bool := c.isBetween 'a' 'z' || c.isBetween 'A' 'Z'

end CodePoint

/-- A text: a list of code points. -/
abbrev Text := List CodePoint

namespace Text

/-- The text of a string. -/
def ofString (s : String) : Text := s.toList.map CodePoint.ofChar

instance : Coe String Text := ⟨ofString⟩

/-- The text of a number in decimal digits. -/
def ofNat (n : Nat) : Text := ofString (toString n)

/-- The string of a text without surrogates; a surrogate becomes the replacement character. -/
def toDisplay (t : Text) : String := String.ofList (t.map fun c => c.toChar?.getD '\ufffd')

/-- No surrogate occurs, so the text can be written in UTF-8. -/
def isScalar (t : Text) : Bool := t.all fun c => !c.isSurrogate

/-- The value of a run of digits in base `base`, the digits given by their values. -/
def valueInBase (base : Nat) (digits : List Nat) : Nat :=
  digits.foldl (fun n d => n * base + d) 0

/-- The value of a text of hexadecimal digits; other code points count as zero. -/
def hexValue (t : Text) : Nat := valueInBase 16 (t.map fun c => c.hexValue?.getD 0)

/-- The value of a text of decimal or octal digits in base `base`. -/
def digitValue (base : Nat) (t : Text) : Nat := valueInBase base (t.map fun c => c.val - '0'.toNat)

/-- The order of texts by code points: the first difference decides, and a proper beginning comes
first. -/
def less : Text → Text → Bool
  | _, [] => false
  | [], _ :: _ => true
  | a :: s, b :: t => a.val < b.val || (a.val == b.val && less s t)

/-- The reflexive form of the order by code points. -/
def atMost (s t : Text) : Bool := !less t s

/-- The parts of a text between the occurrences of a code point; there is one part more than there
are occurrences. -/
def splitOn (sep : CodePoint) : Text → List Text
  | [] => [[]]
  | c :: t =>
    match splitOn sep t with
    | [] => [[c]]
    | part :: parts => if c = sep then [] :: part :: parts else (c :: part) :: parts

/-- The texts in order, with a separator between neighbours. -/
def join (sep : Text) (parts : List Text) : Text := (parts.intersperse sep).flatten

/-- What follows the last occurrence of `sep`, or the whole text. -/
def afterLast (sep : CodePoint) (t : Text) : Text := (t.reverse.takeWhile (· ≠ sep)).reverse

/-- What precedes the last occurrence of `sep`, if there is one. -/
def beforeLast? (sep : CodePoint) (t : Text) : Option Text :=
  match t.reverse.dropWhile (· ≠ sep) with
  | [] => none
  | _ :: before => some before.reverse

/-- What remains of a text behind each run of code points with a property at its beginning, the empty
run first. -/
def behindRuns (p : CodePoint → Bool) : Text → List Text
  | [] => [[]]
  | c :: t => (c :: t) :: if p c then behindRuns p t else []

/-- Every occurrence of one code point replaced by another. -/
def replace (old new : CodePoint) (t : Text) : Text := t.map fun c => if c = old then new else c

end Text

end ComponentIndex
