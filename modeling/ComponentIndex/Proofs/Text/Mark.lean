/-
**Places lie within their source.**

A place lies within a source of some size if the glyphs that follow it fit between it and the end,
and spell no surrogate, as nothing in UTF-8 does.  The beginning of a source lies within it, and moving
forward never leaves it.

Main definitions:

* `ComponentIndex.Utf8.totalWidth` — the bytes that glyphs take;
* `ComponentIndex.Mark.IsWithin` — a place lies within a source of the given size;
* `ComponentIndex.Located` — things whose places can lie within a source.

Main results:

* `ComponentIndex.Mark.isWithin_atStart` — the beginning of a source lies within it;
* `ComponentIndex.Mark.IsWithin.next`, `ComponentIndex.Mark.IsWithin.skipGlyphs`,
  `ComponentIndex.Mark.IsWithin.skipText?` — **moving forward stays within the source**;
* `ComponentIndex.Mark.IsWithin.isScalar_textTo` — no surrogate occurs in the text up to a place.
-/

import ComponentIndex.Proofs.Text.Scalar
import ComponentIndex.Text.Mark

set_option relaxedAutoImplicit false
set_option autoImplicit false

namespace ComponentIndex

/-! ### The glyphs of a source -/

namespace Utf8

/-- The bytes that some glyphs take. -/
def totalWidth : List Glyph → Nat
  | [] => 0
  | g :: gs => g.width + totalWidth gs

/-- A glyph takes at least one byte, and no more than there are. -/
theorem width_firstGlyph (a : UInt8) (rest : List UInt8) :
    0 < (firstGlyph a rest).width ∧ (firstGlyph a rest).width ≤ rest.length + 1 := by
  unfold firstGlyph
  repeat' split
  all_goals simp [Glyph.stray]

theorem width_pos_of_mem_glyphsFrom {skip : Nat} {bytes : List UInt8} {g : Glyph}
    (h : g ∈ glyphsFrom skip bytes) : 0 < g.width := by
  induction bytes generalizing skip with
  | nil => simp [glyphsFrom] at h
  | cons a rest ih =>
      cases skip with
      | succ skip => exact ih h
      | zero =>
          rcases List.mem_cons.1 h with rfl | h
          · exact (width_firstGlyph a rest).1
          · exact ih h

/-- The glyphs of a source are as wide as it is long. -/
theorem totalWidth_glyphsFrom {skip : Nat} {bytes : List UInt8} (h : skip ≤ bytes.length) :
    totalWidth (glyphsFrom skip bytes) + skip = bytes.length := by
  induction bytes generalizing skip with
  | nil => simpa [glyphsFrom, totalWidth] using h
  | cons a rest ih =>
      rw [List.length_cons] at h ⊢
      cases skip with
      | succ skip =>
          have := @ih skip (by omega)
          rw [glyphsFrom]
          omega
      | zero =>
          have hwidth := width_firstGlyph a rest
          have := @ih ((firstGlyph a rest).width - 1) (by omega)
          rw [glyphsFrom, totalWidth]
          omega

end Utf8

namespace Mark

/-! ### Places within a source -/

/-- The place lies within a source of the given size: what follows it fits behind it. -/
structure IsWithin (size : Nat) (m : Mark) : Prop where
  /-- Each glyph that follows takes some bytes. -/
  solid : ∀ g ∈ m.rest, 0 < g.width
  /-- No glyph that follows spells a surrogate. -/
  scalar : ∀ g ∈ m.rest, g.IsScalar
  /-- The glyphs that follow end with the source or before. -/
  fits : m.offset + Utf8.totalWidth m.rest ≤ size

/-- The beginning of a source lies within it. -/
theorem isWithin_atStart (bytes : List UInt8) : (atStart bytes).IsWithin bytes.length where
  solid _ h := Utf8.width_pos_of_mem_glyphsFrom h
  scalar _ h := Utf8.isScalar_of_mem_glyphsFrom h
  fits := by
    have := Utf8.totalWidth_glyphsFrom (Nat.zero_le bytes.length)
    dsimp only [atStart, Utf8.glyphs]
    omega

namespace IsWithin

variable {size : Nat} {m : Mark}

theorem offset_le (h : m.IsWithin size) : m.offset ≤ size := by
  have := h.fits
  omega

/-- The step by which a search moves on. -/
theorem tail {g : Glyph} {rest : List Glyph} {offset : Nat}
    (h : (⟨g :: rest, offset⟩ : Mark).IsWithin size) :
    (⟨rest, offset + g.width⟩ : Mark).IsWithin size := by
  obtain ⟨hsolid, hscalar, hfits⟩ := h
  rw [Utf8.totalWidth] at hfits
  exact ⟨fun g hg => hsolid g (List.mem_cons_of_mem _ hg),
    fun g hg => hscalar g (List.mem_cons_of_mem _ hg), by dsimp only at hfits ⊢; omega⟩

theorem next (h : m.IsWithin size) : m.next.IsWithin size := by
  obtain ⟨rest, offset⟩ := m
  cases rest with
  | nil => exact h
  | cons g rest => exact h.tail

theorem skip (h : m.IsWithin size) (n : Nat) : (m.skip n).IsWithin size := by
  induction n generalizing m with
  | zero => exact h
  | succ n ih => exact ih h.next

theorem skipGlyphs (h : m.IsWithin size) (p : Glyph → Bool) : (m.skipGlyphs p).IsWithin size := by
  obtain ⟨rest, offset⟩ := m
  rw [Mark.skipGlyphs]
  induction rest generalizing offset with
  | nil => exact h
  | cons g rest ih =>
      rw [skipGlyphs.go]
      split
      · exact ih _ h.tail
      · exact h

theorem skipWhile (h : m.IsWithin size) (p : CodePoint → Bool) : (m.skipWhile p).IsWithin size :=
  h.skipGlyphs _

/-- No surrogate occurs in the text from a place on. -/
theorem isScalar_textTo (h : m.IsWithin size) (stop : Mark) : (m.textTo stop).isScalar = true := by
  obtain ⟨rest, offset⟩ := m
  refine Glyph.isScalar_textOf ?_
  rw [glyphsTo]
  induction rest generalizing offset with
  | nil => exact nofun
  | cons g rest ih =>
      rw [glyphsTo.go]
      split
      · exact List.forall_mem_cons.2 ⟨h.scalar g List.mem_cons_self, ih _ h.tail⟩
      · exact nofun

/-- A choice between two places. -/
theorem ite {m' : Mark} (h : m.IsWithin size) (h' : m'.IsWithin size) (c : Prop) [Decidable c] :
    (if c then m else m').IsWithin size := by
  split
  · exact h
  · exact h'

end IsWithin

end Mark

/-! ### What lies within a source -/

/-- Things that are read from a source and hold places in it. -/
class Located (α : Type) where
  /-- All places in it lie within a source of the given size. -/
  LiesWithin : Nat → α → Prop

open Located (LiesWithin)

namespace Located

variable {α β : Type} {size : Nat}

instance : Located Mark := ⟨Mark.IsWithin⟩

instance : Located Unit := ⟨fun _ _ => True⟩

instance : Located Bool := ⟨fun _ _ => True⟩

instance [Located α] : Located (Option α) := ⟨fun size o => ∀ a ∈ o, LiesWithin size a⟩

instance [Located α] : Located (List α) := ⟨fun size as => ∀ a ∈ as, LiesWithin size a⟩

instance [Located α] [Located β] : Located (α × β) :=
  ⟨fun size p => LiesWithin size p.1 ∧ LiesWithin size p.2⟩

theorem liesWithin_none [Located α] : LiesWithin size (none : Option α) := nofun

theorem liesWithin_some [Located α] {a : α} :
    LiesWithin size (some a) ↔ LiesWithin size a := by
  simp [LiesWithin]

theorem liesWithin_map [Located α] [Located β] {f : α → β} {o : Option α}
    (ho : LiesWithin size o) (hf : ∀ a, LiesWithin size a → LiesWithin size (f a)) :
    LiesWithin size (o.map f) := by
  intro b hb
  obtain ⟨a, ha, rfl⟩ := Option.map_eq_some_iff.1 hb
  exact hf a (ho a ha)

theorem liesWithin_pair [Located α] [Located β] {a : α} {b : β} :
    LiesWithin size (a, b) ↔ LiesWithin size a ∧ LiesWithin size b := Iff.rfl

theorem liesWithin_nil [Located α] : LiesWithin size ([] : List α) := nofun

theorem liesWithin_cons [Located α] {a : α} {as : List α} :
    LiesWithin size (a :: as) ↔ LiesWithin size a ∧ LiesWithin size as := List.forall_mem_cons

theorem liesWithin_singleton [Located α] {a : α} :
    LiesWithin size [a] ↔ LiesWithin size a := List.forall_mem_singleton

theorem liesWithin_append [Located α] {as bs : List α} :
    LiesWithin size (as ++ bs) ↔ LiesWithin size as ∧ LiesWithin size bs := List.forall_mem_append

theorem liesWithin_reverse [Located α] {as : List α} :
    LiesWithin size as.reverse ↔ LiesWithin size as := by
  simp [LiesWithin]

theorem liesWithin_or [Located α] {o o' : Option α} (h : LiesWithin size o)
    (h' : LiesWithin size o') : LiesWithin size (o.or o') := by
  cases o with
  | none => exact h'
  | some a => exact h

end Located

/-- A text that follows ends within the source. -/
theorem Mark.IsWithin.skipText? {size : Nat} {m : Mark} (h : m.IsWithin size) (t : Text) :
    LiesWithin size (m.skipText? t) := by
  induction t generalizing m with
  | nil => exact Located.liesWithin_some.2 h
  | cons c t ih =>
      rw [Mark.skipText?]
      split
      · exact ih h.next
      · exact Located.liesWithin_none

end ComponentIndex
