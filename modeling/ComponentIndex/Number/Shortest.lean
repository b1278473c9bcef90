/-
**The shortest decimal of a binary64 number.**

A number is written with the fewest digits that are read back as the same number, and of the
decimals of that length with the nearest one.  Numbers from `10 ^ -4` up to `10 ^ 16` are written
positionally.

Main definitions:

* `ComponentIndex.Shortest.ofPositive` — digits and exponent of the shortest decimal;
* `ComponentIndex.Binary64.shown` — the text of a number.
-/

import ComponentIndex.Number.Binary64
import ComponentIndex.Text.Basic

set_option relaxedAutoImplicit false
set_option autoImplicit false

namespace ComponentIndex

/-- The decimal `digits * 10 ^ exponent`. -/
structure Shortest where
  /-- The digits as a number. -/
  digits : Nat
  /-- The power of ten of the last digit. -/
  exponent : Int

namespace Shortest

open Binary64 (scaled roundDiv decimalSize)

/-- The exponent of the power of ten just below a positive quotient. -/
def logOfRatio (num den : Nat) : Int :=
  let guess : Int := (decimalSize num : Int) - (decimalSize den : Int)
  let (n, d) := scaled 10 num den guess
  if n < d then guess - 1 else guess

/-- Four times the distance from `significand * 2 ^ exponent` down to the end of the interval of
numbers that are read as it, in units of the last place. -/
def lowerGap (significand : Nat) (exponent : Int) : Nat :=
  if 2 * significand = Binary64.significandBound && Binary64.minExponent < exponent then 1 else 2

/-- The decimal `digits * 10 ^ place` is read as `significand * 2 ^ exponent`. -/
def readsBack (significand : Nat) (exponent : Int) (digits : Nat) (place : Int) : Bool :=
  let (n, d) := scaled 10 (4 * digits) 1 (-place)
  let (num, den) := scaled 2 n d exponent
  let low := (4 * significand - lowerGap significand exponent) * den
  let high := (4 * significand + 2) * den
  if significand % 2 = 0 then low ≤ num && num ≤ high else low < num && num < high

/-- The decimal with its last digit at `place` that is read as `significand * 2 ^ exponent`: of the
two neighbours on that grid the nearer one, if it or else the other is read back. -/
def onGrid? (significand : Nat) (exponent : Int) (place : Int) : Option Shortest :=
  let (num, den) := scaled 2 significand 1 (-exponent)
  let (n, d) := scaled 10 num den place
  let near := roundDiv n d
  let below := n / d
  let far := if near = below then below + 1 else below
  if readsBack significand exponent near place then some ⟨near, place⟩
  else if readsBack significand exponent far place then some ⟨far, place⟩
  else none

/-- The first grid with a decimal that is read back, from `place` downwards. -/
def search (significand : Nat) (exponent : Int) : Nat → Int → Shortest
  | 0, place => ⟨0, place⟩
  | n + 1, place =>
    match onGrid? significand exponent place with
    | some s => s
    | none => search significand exponent n (place - 1)

/-- The shortest decimal of the positive number `significand * 2 ^ exponent`. -/
def ofPositive (significand : Nat) (exponent : Int) : Shortest :=
  let (num, den) := scaled 2 significand 1 (-exponent)
  search significand exponent 18 (logOfRatio num den)

end Shortest

namespace Binary64

/-- Digits without the zeros at their end. -/
def withoutTrailingZeros (digits : Text) : Text :=
  (digits.reverse.dropWhile (· = ('0' : CodePoint))).reverse

/-- Digits as a positional decimal, `point` digits of which stand before the point. -/
def positional (digits : Text) (point : Int) : Text :=
  if point ≤ 0 then Text.ofString "0." ++ List.replicate (-point).toNat ('0' : CodePoint) ++ digits
  else
    let whole := digits.take point.toNat
    let fraction := digits.drop point.toNat
    whole ++ List.replicate (point.toNat - whole.length) ('0' : CodePoint) ++ Text.ofString "." ++
      (if fraction = [] then Text.ofString "0" else fraction)

/-- Digits with one of them before the point, and the power of ten, in at least two digits. -/
def scientific (digits : Text) (power : Int) : Text :=
  let exponent := Text.ofNat power.natAbs
  digits.take 1 ++ (if digits.length ≤ 1 then [] else ('.' : CodePoint) :: digits.drop 1) ++
    Text.ofString (if power < 0 then "e-" else "e+") ++
    (if exponent.length < 2 then ('0' : CodePoint) :: exponent else exponent)

/-- The text of the positive number `significand * 2 ^ exponent`. -/
def shownPositive (significand : Nat) (exponent : Int) : Text :=
  let s := Shortest.ofPositive significand exponent
  let all := Text.ofNat s.digits
  let digits := withoutTrailingZeros all
  let point : Int := all.length + s.exponent
  if -4 < point && point ≤ 16 then positional digits point else scientific digits (point - 1)

/-- The text of a number. -/
def shown : Binary64 → Text
  | .finite negative significand exponent =>
    (if negative then Text.ofString "-" else []) ++
      (if significand = 0 then Text.ofString "0.0" else shownPositive significand exponent)
  | .infinite negative => Text.ofString (if negative then "-inf" else "inf")
  | .nan => "nan"

end Binary64

end ComponentIndex
