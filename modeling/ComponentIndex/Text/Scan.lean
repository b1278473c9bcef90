/-
**Scanners.**

A scanner reads something off the beginning of a text and leaves the rest, or refuses the text.
Where a scanner repeats another one, the length of the text bounds the number of repetitions.

Main definitions:

* `ComponentIndex.Scan` — scanners; an alternative starts again where the refused one started;
* `ComponentIndex.Scan.one`, `ComponentIndex.Scan.word`, `ComponentIndex.Scan.span` — reading a code
  point, a given text and the longest run of code points;
* `ComponentIndex.Scan.manyTill`, `ComponentIndex.Scan.separated` — repetition;
* `ComponentIndex.Scan.all?` — what a scanner reads if nothing is left.
-/

import ComponentIndex.Text.Basic

set_option relaxedAutoImplicit false
set_option autoImplicit false

namespace ComponentIndex

/-- A scanner of things of type `α`. -/
abbrev Scan (α : Type) := StateT Text Option α

namespace Scan

variable {α : Type}

/-! ### Single steps -/

/-- What follows, without reading it. -/
def peek? : Scan (Option CodePoint) := do return (← get).head?

/-- A given text follows. -/
def sees (t : Text) : Scan Bool := do return t.isPrefixOf (← get)

/-- Nothing follows. -/
def isAtEnd : Scan Bool := do return (← get).isEmpty

/-- Reads a code point with a property. -/
def one (p : CodePoint → Bool) : Scan CodePoint := do
  match ← get with
  | [] => failure
  | c :: rest =>
    guard (p c)
    set rest
    return c

/-- Reads a given code point. -/
def point (c : CodePoint) : Scan Unit := discard (one (· = c))

/-- Reads a given text. -/
def word (t : Text) : Scan Unit := do
  let rest ← get
  guard (t.isPrefixOf rest)
  set (rest.drop t.length)

/-- Reads a given code point if it follows, and tells whether it did. -/
def accepts (c : CodePoint) : Scan Bool := (do point c; return true) <|> return false

/-- Reads the longest run of code points with a property. -/
def span (p : CodePoint → Bool) : Scan Text := do
  let rest ← get
  set (rest.dropWhile p)
  return rest.takeWhile p

/-- Passes the longest run of code points with a property. -/
def skip (p : CodePoint → Bool) : Scan Unit := modify (List.dropWhile p)

/-- Reads the longest run of code points with a property, which is not empty. -/
def span1 (p : CodePoint → Bool) : Scan Text := do
  let run ← span p
  guard (run != [])
  return run

/-- Reads a number of code points with a property. -/
def exactly (p : CodePoint → Bool) : Nat → Scan Text
  | 0 => return []
  | n + 1 => do
    let c ← one p
    return c :: (← exactly p n)

/-- Reads something if it is there. -/
def option? (p : Scan α) : Scan (Option α) := (some <$> p) <|> return none

/-! ### Repetition -/

/-- Reads things until `stop` reads something, at most as often as told. -/
def manyTillWithin (stop : Scan Unit) (p : Scan α) : Nat → Scan (List α)
  | 0 => failure
  | n + 1 => (do stop; return []) <|> do
    let x ← p
    return x :: (← manyTillWithin stop p n)

/-- Reads things until `stop` reads something. -/
def manyTill (stop : Scan Unit) (p : Scan α) : Scan (List α) := do
  manyTillWithin stop p ((← get).length + 1)

/-- Reads things as long as there are any, at most as many as told. -/
def manyWithin (p : Scan α) : Nat → Scan (List α)
  | 0 => return []
  | n + 1 => do
    match ← option? p with
    | some x => return x :: (← manyWithin p n)
    | none => return []

/-- Reads things as long as there are any. -/
def many (p : Scan α) : Scan (List α) := do manyWithin p (← get).length

/-- Reads things with a separator between neighbours, at most as many as told. -/
def separatedWithin (separator : Scan Unit) (p : Scan α) : Nat → Scan (List α)
  | 0 => failure
  | n + 1 => do
    let x ← p
    match ← option? separator with
    | some _ => return x :: (← separatedWithin separator p n)
    | none => return [x]

/-- Reads one or more things with a separator between neighbours. -/
def separated (separator : Scan Unit) (p : Scan α) : Scan (List α) := do
  separatedWithin separator p ((← get).length + 1)

/-- What is read off a whole text. -/
def all? (p : Scan α) (t : Text) : Option α :=
  match p.run t with
  | some (x, []) => some x
  | _ => none

end Scan

end ComponentIndex
