/-
**Numbers of the binary64 format.**

A finite number is a significand below `2 ^ 53` times a power of two not below `2 ^ -1074`.  A
decimal is read as the nearest such number, of two equally near ones as the one with the even
significand; what lies beyond the largest one is infinite.

Main definitions:

* `ComponentIndex.Binary64` — the numbers;
* `ComponentIndex.Binary64.roundDiv` — a quotient rounded to the nearest integer;
* `ComponentIndex.Binary64.ofRatio`, `ComponentIndex.Binary64.ofDecimal` — rounding to the format.
-/

set_option relaxedAutoImplicit false
set_option autoImplicit false

namespace ComponentIndex

/-- A number of the binary64 format. -/
inductive Binary64 where
  /-- The number `± significand * 2 ^ exponent`. -/
  | finite (negative : Bool) (significand : Nat) (exponent : Int)
  /-- An infinite number. -/
  | infinite (negative : Bool)
  /-- No number. -/
  | nan
deriving DecidableEq

namespace Binary64

/-- The least exponent. -/
def minExponent : Int := -1074

/-- The greatest exponent. -/
def maxExponent : Int := 971

/-- The least number with one binary digit more than a significand may have. -/
def significandBound : Nat := 0x20000000000000

/-- The zero of either sign. -/
def zero (negative : Bool) : Binary64 := .finite negative 0 minExponent

/-- A quotient rounded to the nearest integer, a half to the even one. -/
def roundDiv (num den : Nat) : Nat :=
  let rest := 2 * (num % den)
  if rest < den then num / den
  else if den < rest then num / den + 1
  else num / den + num / den % 2

/-- Numerator and denominator of `num / den / base ^ exponent`. -/
def scaled (base num den : Nat) (exponent : Int) : Nat × Nat :=
  if 0 ≤ exponent then (num, den * Nat.pow base exponent.toNat)
  else (num * Nat.pow base (-exponent).toNat, den)

/-- The exponent of the power of two just below a positive quotient. -/
def logOfRatio (num den : Nat) : Int :=
  let guess : Int := (Nat.log2 num : Int) - (Nat.log2 den : Int)
  let (n, d) := scaled 2 num den guess
  if n < d then guess - 1 else guess

/-- A significand with an exponent as a number, once the significand is brought below `2 ^ 53`. -/
def normal (negative : Bool) (significand : Nat) (exponent : Int) : Binary64 :=
  if significand < significandBound then
    if maxExponent < exponent then .infinite negative else .finite negative significand exponent
  else if maxExponent < exponent + 1 then .infinite negative
  else .finite negative (significand / 2) (exponent + 1)

/-- The number nearest to a quotient. -/
def ofRatio (negative : Bool) (num den : Nat) : Binary64 :=
  if num = 0 then zero negative
  else
    let exponent := max (logOfRatio num den - 52) minExponent
    let (n, d) := scaled 2 num den exponent
    normal negative (roundDiv n d) exponent

/-- The number of decimal digits of a natural number. -/
def decimalSize (n : Nat) : Nat := (Nat.toDigits 10 n).length

/-- The number nearest to `± digits * 10 ^ exponent`. Exponents far outside of the range of the
format are not worked out. -/
def ofDecimal (negative : Bool) (digits : Nat) (exponent : Int) : Binary64 :=
  if digits = 0 then zero negative
  else
    let size := exponent + decimalSize digits
    if 400 < size then .infinite negative
    else if size < -400 then zero negative
    else
      let (num, den) := scaled 10 digits 1 (-exponent)
      ofRatio negative num den

/-- The number is zero, of either sign. -/
def isZero : Binary64 → Bool
  | .finite _ significand _ => significand == 0
  | _ => false

/-- The number is one. -/
def isOne (x : Binary64) : Bool := x = ofRatio false 1 1

/-- The number is finite. -/
def isFinite : Binary64 → Bool
  | .finite .. => true
  | _ => false

end Binary64

end ComponentIndex
