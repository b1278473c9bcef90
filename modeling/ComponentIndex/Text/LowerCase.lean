/-
**Lower case.**

The lower-case form of a text maps each character by the simple mapping of the character database,
with the two exceptions that are not a matter of one character alone: a capital `I` with a dot above
becomes `i` with a combining dot, and a capital sigma takes its final form where it ends a word.

Main definitions:

* `ComponentIndex.CodePoint.simpleLower` — the mapping of one character to one;
* `ComponentIndex.Text.sigmaEndsWord` — whether a capital sigma takes its final form;
* `ComponentIndex.Text.lower` — the lower-case form of a text.
-/

import ComponentIndex.Text.Basic
import ComponentIndex.Text.LowerCase.Table

set_option relaxedAutoImplicit false
set_option autoImplicit false

namespace ComponentIndex

/-- The run of the mapping that holds a number, applied to it. -/
def Text.lowerOfRuns (n : Nat) : List (Nat × Nat × Nat × Nat) → Nat
  | [] => n
  | (first, last, step, image) :: runs =>
    if first ≤ n && n ≤ last && (n - first) % step == 0 then image + (n - first)
    else lowerOfRuns n runs

namespace CodePoint

/-- The lower-case form of a character, where it is a single character. -/
def simpleLower (c : CodePoint) : CodePoint :=
  if c.val < 0x80 then
    if c.isBetween 'A' 'Z' then (ofNat? (c.val + 0x20)).getD c else c
  else (ofNat? (Text.lowerOfRuns c.val Text.lowerRuns)).getD c

/-- The code point lies in one of a list of closed ranges. -/
def inRanges (ranges : List (Nat × Nat)) (c : CodePoint) : Bool :=
  ranges.any fun (lo, hi) => lo ≤ c.val && c.val ≤ hi

/-- A character that has an upper-case and a lower-case form. -/
def isCased (c : CodePoint) : Bool := c.inRanges Text.casedRanges

/-- A character that is looked through when the end of a word is sought. -/
def isCaseIgnorable (c : CodePoint) : Bool := c.inRanges Text.caseIgnorableRanges

end CodePoint

namespace Text

/-- The first code point that is not case-ignorable is cased. -/
def opensCased (t : Text) : Bool :=
  (t.find? fun c => !c.isCaseIgnorable).any CodePoint.isCased

/-- A capital sigma ends a word when a cased letter precedes it and none follows it. The text before
it is given from its end. -/
def sigmaEndsWord (before after : Text) : Bool := opensCased before && !opensCased after

/-- The lower-case form of a text that follows `before`, the latter given from its end. -/
def lowerAfter (before : Text) : Text → Text
  | [] => []
  | c :: t =>
    (if c.val = 0x130 then ["i", "\u0307"].flatMap ofString
     else if c.val = 0x3A3 then
      if sigmaEndsWord before t then ofString "ς" else ofString "σ"
     else [c.simpleLower]) ++ lowerAfter (c :: before) t

/-- The lower-case form of a text. -/
def lower (t : Text) : Text := lowerAfter [] t

end Text

end ComponentIndex
