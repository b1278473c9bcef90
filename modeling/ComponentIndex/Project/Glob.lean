/-
**Glob patterns.**

A glob is matched against a whole path: a star stands for any text, slashes included, a question mark
for any one character, and a set of characters for one of its members.  A hyphen between two members
of a set makes a range; a range whose end precedes its beginning is left out.

Main definitions:

* `ComponentIndex.Glob.Piece`, `ComponentIndex.Glob.parse` — patterns;
* `ComponentIndex.Glob.accepts` — a path matches a pattern;
* `ComponentIndex.Glob.setOf` — the set that stands between brackets.
-/

import ComponentIndex.Text.CharSet

set_option relaxedAutoImplicit false
set_option autoImplicit false

namespace ComponentIndex.Glob

/-- A piece of a pattern. -/
inductive Piece where
  /-- Any text. -/
  | anything
  /-- One character of a set. -/
  | one (s : CharSet)
deriving DecidableEq

/-! ### Sets of characters -/

/-- The hyphen. -/
def hyphen : CodePoint := '-'

/-- A text cut at the hyphens that can make ranges, the first of which is sought behind `least`
characters; behind each of them at least two characters precede the next one. A hyphen at the end
makes no range. -/
def cutAtHyphens (least : Nat) (t : Text) : List Text :=
  let before := t.take least ++ (t.drop least).takeWhile (· ≠ hyphen)
  match h : (t.drop least).dropWhile (· ≠ hyphen) with
  | [] => [t]
  | [_] => [before ++ [hyphen]]
  | _ :: c :: rest =>
    have := CharSet.length_lt_of_dropWhile h
    before :: cutAtHyphens 2 (c :: rest)
termination_by t.length

/-- The chunk at the left of a range joined with those at the right of it, the range left out if its
end precedes its beginning. -/
def joinChunk (left : Text) (chunks : List Text) : List Text :=
  match left.getLast?, chunks with
  | some lo, (hi :: right) :: rest =>
    if hi.val < lo.val then (left.dropLast ++ right) :: rest else left :: chunks
  | _, _ => left :: chunks

/-- The chunks of a set without the ranges that hold nothing, from the last one to the first. -/
def withoutEmptyRanges (chunks : List Text) : List Text := chunks.foldr joinChunk []

/-- The code points of a text as ranges of one. -/
def singles (t : Text) : List (CodePoint × CodePoint) := t.map fun c => (c, c)

/-- The members of a set: those of its chunks, and the ranges from the last code point of a chunk to
the first one of the next. Next to an empty chunk the hyphen itself is a member. -/
def membersOf : List Text → List (CodePoint × CodePoint)
  | [] => []
  | [chunk] => singles chunk
  | left :: right :: rest =>
    (match left.getLast?, right.head? with
     | some lo, some hi => [(lo, hi)]
     | _, _ => [(hyphen, hyphen)]) ++ singles left ++ membersOf (right :: rest)

/-- The set that is spelled between brackets. -/
def setOf (body : Text) : CharSet :=
  let least := if body.head? = some ('!' : CodePoint) then 2 else 1
  match withoutEmptyRanges (cutAtHyphens least body) with
  | [] => .nothing
  | first :: rest =>
    if first.head? = some ('!' : CodePoint) then ⟨true, membersOf (first.tail :: rest)⟩
    else ⟨false, membersOf (first :: rest)⟩

/-! ### Patterns -/

/-- The pieces of a pattern. A bracket that is not closed stands for itself. -/
def parse : Text → List Piece
  | [] => []
  | c :: t =>
    if c = ('*' : CodePoint) then .anything :: parse t
    else if c = ('?' : CodePoint) then .one .everything :: parse t
    else if c = ('[' : CodePoint) then
      match h : CharSet.bracketed? t with
      | some (body, rest) =>
        have := CharSet.length_lt_of_bracketed? h
        .one (setOf body) :: parse rest
      | none => .one (.single c) :: parse t
    else .one (.single c) :: parse t
termination_by t => t.length
decreasing_by all_goals simp only [List.length_cons]; omega

/-- A text is spelled by some pieces. -/
def matchesPieces : List Piece → Text → Bool
  | [], t => t.isEmpty
  | .anything :: pieces, t => (Text.behindRuns (fun _ => true) t).any (matchesPieces pieces)
  | .one _ :: _, [] => false
  | .one s :: pieces, c :: t => s.contains c && matchesPieces pieces t

/-- A path matches a pattern. -/
def accepts (pattern path : Text) : Bool := matchesPieces (parse pattern) path

end ComponentIndex.Glob
