/-
**UTF-8.**

Sources are bytes and need not be well formed.  A list of bytes is read as a list of *glyphs*: each
is either a code point with the one to four bytes that spell it, or a single byte that belongs to no
spelling.  A lenient reader drops the latter, a strict one refuses them.

Main definitions:

* `ComponentIndex.Glyph`, `ComponentIndex.Utf8.glyphs` — what is read at each position;
* `ComponentIndex.Utf8.decodeLenient`, `ComponentIndex.Utf8.decode?` — the two readers;
* `ComponentIndex.Utf8.encode` — the bytes of a text.
-/

import ComponentIndex.Text.Basic

set_option relaxedAutoImplicit false
set_option autoImplicit false

namespace ComponentIndex

/-- What stands at one position of a source: a code point, or a byte that spells none. -/
structure Glyph where
  /-- The code point; `none` for a byte outside every well-formed sequence. -/
  point? : Option CodePoint
  /-- The number of bytes it takes. -/
  width : Nat
deriving DecidableEq

namespace Glyph

/-- A byte that belongs to no well-formed sequence. -/
def stray : Glyph := ⟨none, 1⟩

instance : Inhabited Glyph := ⟨stray⟩

/-- The glyph is a given code point. -/
def is (c : CodePoint) (g : Glyph) : Bool := g.point? == some c

/-- The glyph is a code point with a given property. -/
def satisfies (p : CodePoint → Bool) (g : Glyph) : Bool := g.point?.any p

/-- The text of a run of glyphs; stray bytes leave no trace. -/
def textOf (gs : List Glyph) : Text := gs.filterMap Glyph.point?

end Glyph

namespace Utf8

/-! ### Reading -/

/-- A byte that continues a sequence. -/
def isTail (b : UInt8) : Bool := 0x80 ≤ b && b ≤ 0xBF

/-- The six payload bits of a continuation byte. -/
def tailBits (b : UInt8) : Nat := b.toNat % 0x40

/-- The code point of a well-formed two-byte sequence. -/
def pointOfTwo? (a b : UInt8) : Option CodePoint :=
  if 0xC2 ≤ a && a ≤ 0xDF && isTail b then
    CodePoint.ofNat? (a.toNat % 0x20 * 0x40 + tailBits b)
  else none

/-- The code point of a well-formed three-byte sequence: the shortest spelling of no surrogate. -/
def pointOfThree? (a b c : UInt8) : Option CodePoint :=
  if 0xE0 ≤ a && a ≤ 0xEF && isTail b && isTail c && (a != 0xE0 || 0xA0 ≤ b) &&
      (a != 0xED || b ≤ 0x9F) then
    CodePoint.ofNat? (a.toNat % 0x10 * 0x1000 + tailBits b * 0x40 + tailBits c)
  else none

/-- The code point of a well-formed four-byte sequence. -/
def pointOfFour? (a b c d : UInt8) : Option CodePoint :=
  if 0xF0 ≤ a && a ≤ 0xF4 && isTail b && isTail c && isTail d && (a != 0xF0 || 0x90 ≤ b) &&
      (a != 0xF4 || b ≤ 0x8F) then
    CodePoint.ofNat? (a.toNat % 8 * 0x40000 + tailBits b * 0x1000 + tailBits c * 0x40 + tailBits d)
  else none

/-- The glyph at the beginning of a list of bytes. -/
def firstGlyph (a : UInt8) (rest : List UInt8) : Glyph :=
  if a < 0x80 then ⟨CodePoint.ofNat? a.toNat, 1⟩
  else
    match rest with
    | [] => .stray
    | b :: rest =>
      match pointOfTwo? a b with
      | some p => ⟨some p, 2⟩
      | none =>
        match rest with
        | [] => .stray
        | c :: rest =>
          match pointOfThree? a b c with
          | some p => ⟨some p, 3⟩
          | none =>
            match rest with
            | [] => .stray
            | d :: _ =>
              match pointOfFour? a b c d with
              | some p => ⟨some p, 4⟩
              | none => .stray

/-- The glyphs of a list of bytes, read with `skip` bytes of the current glyph still to pass. -/
def glyphsFrom : Nat → List UInt8 → List Glyph
  | _, [] => []
  | skip + 1, _ :: rest => glyphsFrom skip rest
  | 0, a :: rest =>
    let g := firstGlyph a rest
    g :: glyphsFrom (g.width - 1) rest

/-- The glyphs of a list of bytes. -/
def glyphs (bytes : List UInt8) : List Glyph := glyphsFrom 0 bytes

/-- The text of a list of bytes; bytes outside every well-formed sequence are dropped. -/
def decodeLenient (bytes : List UInt8) : Text := Glyph.textOf (glyphs bytes)

/-- The text of a list of bytes, if all of it is well formed. -/
def decode? (bytes : List UInt8) : Option Text := (glyphs bytes).mapM Glyph.point?

/-! ### Writing -/

/-- The bytes that spell one code point. -/
def encodePoint (c : CodePoint) : List UInt8 :=
  let n := c.val
  if n < 0x80 then [n.toUInt8]
  else if n < 0x800 then [(0xC0 + n / 0x40).toUInt8, (0x80 + n % 0x40).toUInt8]
  else if n < 0x10000 then
    [(0xE0 + n / 0x1000).toUInt8, (0x80 + n / 0x40 % 0x40).toUInt8, (0x80 + n % 0x40).toUInt8]
  else
    [(0xF0 + n / 0x40000).toUInt8, (0x80 + n / 0x1000 % 0x40).toUInt8,
      (0x80 + n / 0x40 % 0x40).toUInt8, (0x80 + n % 0x40).toUInt8]

/-- The bytes of a text. -/
def encode (t : Text) : List UInt8 := t.flatMap encodePoint

/-- The number of bytes of a text. -/
def byteLength (t : Text) : Nat := (encode t).length

end Utf8

end ComponentIndex
