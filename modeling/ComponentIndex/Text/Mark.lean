/-
**Places in a source.**

A mark is a place in a source: the glyphs that follow it and the number of bytes before it.  All
reading moves marks forward, and the text between two marks is read off the earlier one.

Main definitions:

* `ComponentIndex.Mark` — a place;
* `ComponentIndex.Mark.next`, `ComponentIndex.Mark.skipWhile`, `ComponentIndex.Mark.skipText?` —
  moving forward;
* `ComponentIndex.Mark.textTo` — the text up to a later place.
-/

import ComponentIndex.Text.Utf8

set_option relaxedAutoImplicit false
set_option autoImplicit false

namespace ComponentIndex

/-- A place in a source. -/
structure Mark where
  /-- What follows. -/
  rest : List Glyph
  /-- The number of bytes before it. -/
  offset : Nat

namespace Mark

instance : Inhabited Mark := ⟨⟨[], 0⟩⟩

/-- The beginning of a source. -/
def atStart (bytes : List UInt8) : Mark := ⟨Utf8.glyphs bytes, 0⟩

/-- Nothing follows. -/
def atEnd (m : Mark) : Bool := m.rest.isEmpty

/-- The code point that follows, unless it is a stray byte or the end. -/
def point? (m : Mark) : Option CodePoint := m.rest.head?.bind Glyph.point?

/-- A given code point follows. -/
def sees (c : CodePoint) (m : Mark) : Bool := m.point? == some c

/-- A code point with a given property follows. -/
def seesAny (p : CodePoint → Bool) (m : Mark) : Bool := m.point?.any p

/-- The place behind the next glyph. -/
def next (m : Mark) : Mark :=
  match m.rest with
  | [] => m
  | g :: rest => ⟨rest, m.offset + g.width⟩

/-- The place behind a number of glyphs. -/
def skip : Nat → Mark → Mark
  | 0, m => m
  | n + 1, m => skip n m.next

/-- The place behind the longest run of glyphs with a property. -/
def skipGlyphs (p : Glyph → Bool) (m : Mark) : Mark := go m.rest m.offset
where
  /-- The search, with the bytes passed so far. -/
  go : List Glyph → Nat → Mark
    | [], offset => ⟨[], offset⟩
    | g :: rest, offset => if p g then go rest (offset + g.width) else ⟨g :: rest, offset⟩

/-- The place behind the longest run of code points with a property. -/
def skipWhile (p : CodePoint → Bool) (m : Mark) : Mark := m.skipGlyphs (·.satisfies p)

/-- The place behind a given text, if it follows. -/
def skipText? : Text → Mark → Option Mark
  | [], m => some m
  | c :: t, m => if m.sees c then skipText? t m.next else none

/-- A given text follows. -/
def startsWith (t : Text) (m : Mark) : Bool := (m.skipText? t).isSome

/-- The glyphs up to the place with `stop` bytes before it. -/
def glyphsTo (stop : Nat) (m : Mark) : List Glyph := go m.rest m.offset
where
  /-- The glyphs from a place with the given number of bytes before it. -/
  go : List Glyph → Nat → List Glyph
    | [], _ => []
    | g :: rest, offset => if offset < stop then g :: go rest (offset + g.width) else []

/-- The text up to a later place; stray bytes leave no trace in it. -/
def textTo (m stop : Mark) : Text := Glyph.textOf (m.glyphsTo stop.offset)

end Mark

end ComponentIndex
