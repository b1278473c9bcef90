/-
**Numbers and moments of settings files.**

Single underscores may separate the digits of a number.  Whole numbers are written in four bases,
decimals with a fraction or an exponent.  A moment is a day, a time, or both.

Main definitions:

* `ComponentIndex.Toml.number` — a number;
* `ComponentIndex.Toml.moment` — a day, a time or both;
* `ComponentIndex.Toml.scalar` — any value that is neither a text nor made of other values.
-/

import ComponentIndex.Data.Basic
import ComponentIndex.Text.Scan

set_option relaxedAutoImplicit false
set_option autoImplicit false

namespace ComponentIndex.Toml

/-! ### Digits -/

/-- Further digits, each of which an underscore may precede, and what follows them. -/
def furtherDigits (p : CodePoint → Bool) : Text → Text × Text
  | [] => ([], [])
  | c :: t =>
    if p c then
      let (digits, rest) := furtherDigits p t
      (c :: digits, rest)
    else if c = ('_' : CodePoint) && t.head?.any p then furtherDigits p t
    else ([], c :: t)

/-- One or more digits that single underscores may separate; the underscores are left out. -/
def digits (p : CodePoint → Bool) : Scan Text := do
  let first ← Scan.one p
  let (more, rest) := furtherDigits p (← get)
  set rest
  return first :: more

/-- A sign, if there is one; the result tells whether it is negative. -/
def sign : Scan Bool := do
  if ← Scan.accepts '-' then return true
  else
    let _ ← Scan.accepts '+'
    return false

/-- A whole number with a sign. -/
def signed (negative : Bool) (n : Nat) : Int := if negative then -n else n

/-! ### Numbers -/

/-- A whole number in a base that letters announce. -/
def basedNumber : Scan Data :=
  (do Scan.word "0x"; return .int (Text.hexValue (← digits CodePoint.isHexDigit))) <|>
    (do Scan.word "0b"; return .int (Text.digitValue 2 (← digits (·.isBetween '0' '1')))) <|>
    (do Scan.word "0o"; return .int (Text.digitValue 8 (← digits CodePoint.isOctalDigit)))

/-- The digits before a point: a zero alone, or digits that do not begin with one. -/
def wholeDigits : Scan Text :=
  (do Scan.point '0'; return "0") <|> digits CodePoint.isDigit

/-- The digits behind a point. -/
def fraction : Scan Text := do
  Scan.point '.'
  digits CodePoint.isDigit

/-- An exponent. -/
def exponent : Scan Int := do
  let _ ← Scan.one fun c => c = ('e' : CodePoint) || c = ('E' : CodePoint)
  let negative ← sign
  return signed negative (Text.digitValue 10 (← digits CodePoint.isDigit))

/-- A decimal number: whole unless it has a fraction or an exponent. -/
def decimalNumber : Scan Data := do
  let negative ← sign
  let whole ← wholeDigits
  let decimals ← Scan.option? fraction
  let power ← Scan.option? exponent
  if decimals.isNone && power.isNone then
    return .int (signed negative (Text.digitValue 10 whole))
  else
    let after := decimals.getD []
    return .float (Binary64.ofDecimal negative (Text.digitValue 10 (whole ++ after))
      (power.getD 0 - after.length))

/-- A number that is written as a word. -/
def namedNumber : Scan Data := do
  let negative ← sign
  (do Scan.word "inf"; return .float (.infinite negative)) <|>
    (do Scan.word "nan"; return .float .nan)

/-- A number. -/
def number : Scan Data := basedNumber <|> decimalNumber <|> namedNumber

/-! ### Moments -/

/-- A number of two digits up to a bound. -/
def twoDigits (most : Nat) : Scan Nat := do
  let n := Text.digitValue 10 (← Scan.exactly CodePoint.isDigit 2)
  guard (n ≤ most)
  return n

/-- A day. -/
def date : Scan Date := do
  let year := Text.digitValue 10 (← Scan.exactly CodePoint.isDigit 4)
  Scan.point '-'
  let month ← twoDigits 12
  Scan.point '-'
  let day ← twoDigits 31
  match Date.ofParts? year month day with
  | some d => return d
  | none => failure

/-- The millionths of a second that the digits behind a point spell; further digits do not count. -/
def microseconds (digits : Text) : Nat :=
  let six := digits.take 6
  Text.digitValue 10 six * Nat.pow 10 (6 - six.length)

/-- A time of day. -/
def clock : Scan Clock := do
  let hour ← twoDigits 23
  Scan.point ':'
  let minute ← twoDigits 59
  Scan.point ':'
  let second ← twoDigits 59
  let decimals ← Scan.option? (do Scan.point '.'; Scan.span1 CodePoint.isDigit)
  return ⟨hour, minute, second, microseconds (decimals.getD [])⟩

/-- The offset from universal time in minutes. -/
def offset : Scan Int := do
  let c ← Scan.one fun c => (Text.ofString "Zz+-").contains c
  if c = ('Z' : CodePoint) || c = ('z' : CodePoint) then return 0
  else
    let hours ← twoDigits 23
    Scan.point ':'
    let minutes ← twoDigits 59
    return signed (c = ('-' : CodePoint)) (hours * 60 + minutes)

/-- The time that may follow a day, with its offset. -/
def timeOfDay : Scan (Clock × Option Int) := do
  let _ ← Scan.one fun c => (Text.ofString "Tt ").contains c
  let c ← clock
  return (c, ← Scan.option? offset)

/-- A day, a time or both. -/
def moment : Scan Moment :=
  (do
    let d ← date
    match ← Scan.option? timeOfDay with
    | some (c, zone) => return .dateTime d c zone
    | none => return .date d) <|>
  (.time <$> clock)

/-- A value that is neither a text nor made of other values. -/
def scalar : Scan Data :=
  (do Scan.word "true"; return .bool true) <|> (do Scan.word "false"; return .bool false) <|>
    (.moment <$> moment) <|> number

end ComponentIndex.Toml
