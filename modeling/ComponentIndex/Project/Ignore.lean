/-
**Ignore rules.**

A rules file holds one pattern a line.  A pattern is tied to the directory of its file if it has a
slash before its last character, and is else sought below any directory.  A star or a question mark
never stands for a slash, two stars between slashes stand for directories, and a slash at the end
asks for a directory.  An exclamation mark takes back what earlier rules ignore.

Main definitions:

* `ComponentIndex.Ignore.Element`, `ComponentIndex.Ignore.elementsOf?` — patterns;
* `ComponentIndex.Ignore.Rule`, `ComponentIndex.Ignore.Rule.ofLine?` — the rule of a line;
* `ComponentIndex.Ignore.Rule.accepts` — a path matches a rule;
* `ComponentIndex.Ignore.Matcher`, `ComponentIndex.Ignore.Matcher.ignores` — the rules of a file.
-/

import ComponentIndex.Failure
import ComponentIndex.Text.Blank
import ComponentIndex.Text.CharSet

set_option relaxedAutoImplicit false
set_option autoImplicit false

namespace ComponentIndex.Ignore

/-! ### Patterns -/

/-- An element of a pattern. -/
inductive Element where
  /-- One character of a set. -/
  | one (s : CharSet)
  /-- Any text without a slash. -/
  | segment
  /-- Any text on one line. -/
  | anything
  /-- Nothing, or any text on one line that ends with a slash. -/
  | directories
  /-- A set that cannot be read. -/
  | unreadable
deriving DecidableEq

/-- The slash. -/
def slash : CodePoint := '/'

/-- The members of a set; `none` if a range ends before it begins. -/
def rangesOf? : Text → Option (List (CodePoint × CodePoint))
  | [] => some []
  | [c] => some [(c, c)]
  | [c, d] => some [(c, c), (d, d)]
  | lo :: d :: hi :: t =>
    if d = ('-' : CodePoint) then
      if hi.val < lo.val then none else (rangesOf? t).map ((lo, hi) :: ·)
    else (rangesOf? (d :: hi :: t)).map ((lo, lo) :: ·)

/-- The set that is spelled between brackets, slashes left out. Something has to be spelled there,
and something behind the exclamation mark that negates a set. -/
def setOf? (body : Text) : Option Element :=
  match body.filter (· ≠ slash) with
  | [] => none
  | c :: t =>
    let negated := c = ('!' : CodePoint)
    if negated && t = [] then some .unreadable
    else
      match rangesOf? (if negated then t else c :: t) with
      | some ranges => some (.one ⟨negated, ranges⟩)
      | none => some .unreadable

/-- The elements of a pattern; `none` if nothing is spelled between two brackets. A bracket that is
not closed stands for itself. -/
def elementsOf? : Text → Option (List Element)
  | [] => some []
  | c :: t =>
    if c = ('*' : CodePoint) then
      match t with
      | [] => some [.segment]
      | d :: t' =>
        if d = ('*' : CodePoint) then
          match t' with
          | [] => some [.anything]
          | e :: t'' =>
            if e = slash then (elementsOf? t'').map (.directories :: ·)
            else (elementsOf? (e :: t'')).map (.anything :: ·)
        else (elementsOf? (d :: t')).map (.segment :: ·)
    else if c = ('?' : CodePoint) then (elementsOf? t).map (.one (.except slash) :: ·)
    else if c = ('[' : CodePoint) then
      match h : CharSet.bracketed? t with
      | some (body, rest) =>
        have := CharSet.length_lt_of_bracketed? h
        match setOf? body with
        | some e => (elementsOf? rest).map (e :: ·)
        | none => none
      | none => (elementsOf? t).map (.one (.single c) :: ·)
    else (elementsOf? t).map (.one (.single c) :: ·)
termination_by t => t.length
decreasing_by all_goals simp only [List.length_cons]; omega

/-- Elements spell the beginning of a text, and `stop` holds of what follows. -/
def spells (stop : Text → Bool) : List Element → Text → Bool
  | [], t => stop t
  | .one _ :: _, [] => false
  | .one s :: es, c :: t => s.contains c && spells stop es t
  | .segment :: es, t => (Text.behindRuns (· ≠ slash) t).any (spells stop es)
  | .anything :: es, t => (Text.behindRuns (·.val ≠ 0x0A) t).any (spells stop es)
  | .directories :: es, t =>
    spells stop es t || (Text.behindRuns (·.val ≠ 0x0A) t).any fun u =>
      match u with
      | [] => false
      | c :: u' => c = slash && spells stop es u'
  | .unreadable :: _, _ => false

/-! ### Rules -/

/-- A rule. -/
structure Rule where
  /-- The pattern. -/
  elements : List Element
  /-- The rule takes back what earlier rules ignore. -/
  negated : Bool
  /-- The pattern is tied to the directory of the rules file. -/
  anchored : Bool
  /-- The pattern asks for a directory. -/
  directoryOnly : Bool
deriving DecidableEq

/-- The end of a path, up to a line end that is left out. -/
def isEnd (t : Text) : Bool := t = [] || t = Text.ofString "\n"

namespace Rule

/-- What may follow the text that the pattern spells. -/
def stops (r : Rule) (t : Text) : Bool :=
  if !r.directoryOnly then isEnd t
  else
    let below := t.head? = some slash
    if r.negated then below && isEnd t.tail else isEnd t || below

/-- Where the pattern may begin in a path: at its beginning, and behind slashes unless it is tied to
the beginning. -/
def starts (r : Rule) (path : Text) : List Text :=
  path :: if r.anchored then [] else
    (Text.behindRuns (fun _ => true) path).filterMap fun t =>
      if t.head? = some slash then some t.tail else none

/-- All sets of the pattern can be read. -/
def isReadable (r : Rule) : Bool := r.elements.all fun e => e ≠ .unreadable

/-- A path matches a rule. -/
def accepts (r : Rule) (path : Text) : Bool := (r.starts path).any (spells r.stops r.elements)

/-! ### Reading a rule -/

/-- A pattern in which stars stand alone, but for two that fill the space between slashes. The first
argument tells whether the run of stars that may come next begins there, the second one how long it
is so far. -/
def mergeStars : Bool → Nat → Text → Text
  | _, _, [] => []
  | opens, stars, c :: t =>
    if c = ('*' : CodePoint) then
      let next := (t.dropWhile (· = ('*' : CodePoint))).head?
      let kept := stars = 0 || (stars = 1 && opens && (next = none || next = some slash))
      if kept then c :: mergeStars opens (stars + 1) t else mergeStars opens (stars + 1) t
    else c :: mergeStars (c = slash) 0 t

/-- A pattern without the spaces at its end, looked at from an index downwards; the first two
characters stay. A space with a backslash before it stays without the backslash, and so do all
spaces before it. -/
def trimSpaces (strips : Bool) : Nat → Text → Text
  | 0, t => t
  | 1, t => t
  | i + 2, t =>
    if t[i + 2]? = some (' ' : CodePoint) then
      if t[i + 1]? = some ('\\' : CodePoint) then
        trimSpaces false i (t.take (i + 1) ++ t.drop (i + 2))
      else trimSpaces strips (i + 1) (if strips then t.take (i + 2) else t)
    else t

/-- A text without a given character at its beginning. -/
def withoutLeading (c : CodePoint) (t : Text) : Text := if t.head? = some c then t.tail else t

/-- A text that is not empty. -/
def nonempty? (t : Text) : Option Text := if t = [] then none else some t

/-- A pattern without the backslash that keeps its first character from being a mark; a backslash
does not stand alone. -/
def unescapedStart? (t : Text) : Option Text :=
  if t.head? = some ('\\' : CodePoint) then
    match t[1]? with
    | none => none
    | some c =>
      if c = ('#' : CodePoint) || c = ('!' : CodePoint) then some t.tail else some t
  else nonempty? t

/-- The rule of a pattern that asks for something; `none` if nothing is left of the pattern. -/
def ofPattern? (negated : Bool) (pattern : Text) : Option Rule := do
  let last ← pattern.getLast?
  let inner ← nonempty? (withoutLeading slash pattern)
  let everywhere := (Text.ofString "**").isPrefixOf inner
  let inner ← nonempty? (if everywhere then inner.drop 2 else inner)
  let inner ← nonempty? (withoutLeading slash inner)
  let inner ← unescapedStart? (if inner.getLast? = some slash then inner.dropLast else inner)
  let elements ← elementsOf? (trimSpaces true (inner.length - 1) inner)
  return { elements := elements
           negated := negated
           anchored := !everywhere && pattern.dropLast.contains slash
           directoryOnly := last = slash }

/-- The rule of a line. Blank lines, comments and a slash alone are none; a line is refused if
nothing is left of its pattern. -/
def ofLine? (line : Text) : Except Failure (Option Rule) :=
  if line.strip = [] || line.head? = some ('#' : CodePoint) then .ok none
  else
    let negated := line.head? = some ('!' : CodePoint)
    let pattern := mergeStars true 0 (if negated then line.tail else line)
    if pattern.stripEnd = [slash] then .ok none
    else
      match ofPattern? negated pattern with
      | some r => .ok (some r)
      | none => .error .emptyPattern

end Rule

/-! ### Rules files -/

/-- The rules of a file, and the directory it lies in. -/
structure Matcher where
  /-- The directory. -/
  base : List Text
  /-- The rules. -/
  rules : List Rule

namespace Matcher

/-- The rules of a file that holds the given bytes. -/
def ofBytes (base : List Text) (bytes : List UInt8) : Except Failure Matcher := do
  match Utf8.decode? bytes with
  | none => throw .undecodable
  | some t =>
    let rules ← t.lines.mapM Rule.ofLine?
    return ⟨base, rules.filterMap id⟩

/-- The first of some rules that a path matches. A rule that cannot be read is refused when its turn
comes. -/
def firstAccepting (path : Text) : List Rule → Except Failure (Option Rule)
  | [] => .ok none
  | r :: rs =>
    if !r.isReadable then .error .malformedPattern
    else if r.accepts path then .ok (some r)
    else firstAccepting path rs

/-- The rules in the order in which they are asked: if some rule takes back, the last one first. -/
def asked (m : Matcher) : List Rule :=
  if m.rules.any Rule.negated then m.rules.reverse else m.rules

/-- A file is ignored. The rules say nothing about files outside of their directory. -/
def ignores (m : Matcher) (path : List Text) : Except Failure Bool :=
  if m.base.isPrefixOf path then do
    let r ← firstAccepting (Text.join [slash] (path.drop m.base.length)) m.asked
    return r.any fun r => !r.negated
  else return false

/-- A file is ignored by some of the rules files. -/
def someIgnores (path : List Text) : List Matcher → Except Failure Bool
  | [] => return false
  | m :: ms => do
    if ← m.ignores path then return true
    someIgnores path ms

end Matcher

end ComponentIndex.Ignore
