/-
**Sets of characters in patterns.**

A pattern names a set of characters between brackets.  The first character between them may be an
exclamation mark, and the first one behind that may be a closing bracket without closing the set.

Main definitions:

* `ComponentIndex.CharSet` — ranges of code points, or all code points outside of them;
* `ComponentIndex.CharSet.bracketed?` — what stands between brackets, and what follows them.
-/

import ComponentIndex.Text.Basic

set_option relaxedAutoImplicit false
set_option autoImplicit false

namespace ComponentIndex

/-- A set of code points. -/
structure CharSet where
  /-- The ranges name what is outside of the set. -/
  negated : Bool
  /-- Closed ranges. -/
  ranges : List (CodePoint × CodePoint)
deriving DecidableEq

namespace CharSet

/-- The code point is in the set. -/
def contains (s : CharSet) (c : CodePoint) : Bool :=
  s.negated != s.ranges.any fun (lo, hi) => lo.val ≤ c.val && c.val ≤ hi.val

/-- The set of one code point. -/
def single (c : CodePoint) : CharSet := ⟨false, [(c, c)]⟩

/-- The set of all code points but one. -/
def except (c : CodePoint) : CharSet := ⟨true, [(c, c)]⟩

/-- The set of all code points. -/
def everything : CharSet := ⟨true, []⟩

/-- The empty set. -/
def nothing : CharSet := ⟨false, []⟩

/-- The number of characters behind an opening bracket that cannot close the set. -/
def leadLength (t : Text) : Nat :=
  let mark := if t.head? = some ('!' : CodePoint) then 1 else 0
  if (t.drop mark).head? = some (']' : CodePoint) then mark + 1 else mark

/-- What stands between an opening bracket, which has been read, and its closing bracket, and what
follows that; `none` if the set is not closed. -/
def bracketed? (t : Text) : Option (Text × Text) :=
  let lead := leadLength t
  let body := t.drop lead
  match body.dropWhile (· ≠ (']' : CodePoint)) with
  | [] => none
  | _ :: rest => some (t.take lead ++ body.takeWhile (· ≠ (']' : CodePoint)), rest)

theorem length_lt_of_dropWhile {t rest : Text} {p : CodePoint → Bool} {n : Nat} {c : CodePoint}
    (h : (t.drop n).dropWhile p = c :: rest) : rest.length < t.length := by
  have h₁ := ((t.drop n).dropWhile_sublist p).length_le
  rw [h, List.length_cons, List.length_drop] at h₁
  omega

theorem length_lt_of_bracketed? {t body rest : Text} (h : bracketed? t = some (body, rest)) :
    rest.length < t.length := by
  unfold bracketed? at h
  simp only at h
  split at h
  · cases h
  · rename_i hd
    cases h
    exact length_lt_of_dropWhile hd

end CharSet

end ComponentIndex
