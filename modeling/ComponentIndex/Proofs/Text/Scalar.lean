/-
**Texts without surrogates.**

UTF-8 spells no surrogate, so that none occurs in a text that is read off a source.  It is only an
escape of a string literal that can bring one in.

Main definitions:

* `ComponentIndex.Glyph.IsScalar` — a glyph spells no surrogate.

Main results:

* `ComponentIndex.Text.isScalar_join` — texts that are put together;
* `ComponentIndex.Text.isScalar_of_subset` — parts of a text;
* `ComponentIndex.Utf8.isScalar_of_mem_glyphsFrom` — **UTF-8 spells no surrogate**.
-/

import ComponentIndex.Proofs.Text.Join
import ComponentIndex.Text.Utf8
import Mathlib.Data.List.Basic

set_option relaxedAutoImplicit false
set_option autoImplicit false

namespace ComponentIndex

/-! ### Texts -/

theorem CodePoint.isSurrogate_eq_true_iff {c : CodePoint} :
    c.isSurrogate = true ↔ 0xD800 ≤ c.val ∧ c.val ≤ 0xDFFF := by
  simp only [isSurrogate, Bool.and_eq_true, decide_eq_true_eq]

/-- No character is a surrogate. -/
theorem CodePoint.isSurrogate_ofChar (c : Char) : (ofChar c).isSurrogate = false := by
  rw [← Bool.not_eq_true, isSurrogate_eq_true_iff]
  change ¬(0xD800 ≤ c.toNat ∧ c.toNat ≤ 0xDFFF)
  have hvalid : c.toNat < 0xD800 ∨ 0xDFFF < c.toNat ∧ c.toNat < 0x110000 := c.valid
  omega

namespace Text

theorem isScalar_iff {t : Text} : t.isScalar = true ↔ ∀ c ∈ t, c.isSurrogate = false := by
  simp only [isScalar, List.all_eq_true, Bool.not_eq_true']

theorem isScalar_of_subset {s t : Text} (hst : s ⊆ t) (h : t.isScalar = true) :
    s.isScalar = true :=
  isScalar_iff.2 fun c hc => isScalar_iff.1 h c (hst hc)

theorem isScalar_ofString (s : String) : (ofString s).isScalar = true := by
  rw [isScalar_iff, ofString, List.forall_mem_map]
  exact fun c _ => CodePoint.isSurrogate_ofChar c

theorem isScalar_join {sep : Text} {parts : List Text} (hsep : sep.isScalar = true) :
    (join sep parts).isScalar = true ↔ ∀ part ∈ parts, part.isScalar = true := by
  simp only [isScalar_iff] at hsep ⊢
  exact forall_mem_join hsep

end Text

/-! ### UTF-8 -/

/-- A glyph spells no surrogate. -/
def Glyph.IsScalar (g : Glyph) : Prop := ∀ c, g.point? = some c → c.isSurrogate = false

theorem Glyph.isScalar_textOf {gs : List Glyph} (h : ∀ g ∈ gs, g.IsScalar) :
    (textOf gs).isScalar = true := by
  rw [Text.isScalar_iff]
  intro c hc
  obtain ⟨g, hg, hpoint⟩ := List.mem_filterMap.1 hc
  exact h g hg c hpoint

namespace Utf8

theorem val_of_ofNat? {n : Nat} {c : CodePoint} (h : CodePoint.ofNat? n = some c) : c.val = n := by
  rw [CodePoint.ofNat?] at h
  split at h
  · obtain rfl := Option.some.inj h
    rfl
  · cases h

theorem isSurrogate_of_pointOfTwo? {a b : UInt8} {p : CodePoint} (h : pointOfTwo? a b = some p) :
    p.isSurrogate = false := by
  rw [pointOfTwo?] at h
  split at h
  · have hval := val_of_ofNat? h
    rw [← Bool.not_eq_true, CodePoint.isSurrogate_eq_true_iff, hval, tailBits]
    omega
  · cases h

theorem isSurrogate_of_pointOfThree? {a b c : UInt8} {p : CodePoint}
    (h : pointOfThree? a b c = some p) : p.isSurrogate = false := by
  rw [pointOfThree?] at h
  split at h
  next hspelled =>
    have hval := val_of_ofNat? h
    rw [← Bool.not_eq_true, CodePoint.isSurrogate_eq_true_iff, hval, tailBits, tailBits]
    simp only [isTail, Bool.and_eq_true, Bool.or_eq_true, decide_eq_true_eq, bne_iff_ne, ne_eq,
      UInt8.le_iff_toNat_le, ← UInt8.toNat_inj, UInt8.reduceToNat] at hspelled
    omega
  · cases h

theorem isSurrogate_of_pointOfFour? {a b c d : UInt8} {p : CodePoint}
    (h : pointOfFour? a b c d = some p) : p.isSurrogate = false := by
  rw [pointOfFour?] at h
  split at h
  next hspelled =>
    have hval := val_of_ofNat? h
    rw [← Bool.not_eq_true, CodePoint.isSurrogate_eq_true_iff, hval, tailBits, tailBits, tailBits]
    simp only [isTail, Bool.and_eq_true, Bool.or_eq_true, decide_eq_true_eq, bne_iff_ne, ne_eq,
      UInt8.le_iff_toNat_le, ← UInt8.toNat_inj, UInt8.reduceToNat] at hspelled
    omega
  · cases h

theorem isScalar_firstGlyph (a : UInt8) (rest : List UInt8) : (firstGlyph a rest).IsScalar := by
  have hstray : Glyph.stray.IsScalar := nofun
  unfold firstGlyph
  split
  · intro c hc
    have hval := val_of_ofNat? hc
    have := a.toNat_lt
    rw [← Bool.not_eq_true, CodePoint.isSurrogate_eq_true_iff, hval]
    omega
  split
  · exact hstray
  split
  next hp =>
    rintro _ ⟨⟩
    exact isSurrogate_of_pointOfTwo? hp
  split
  · exact hstray
  split
  next hp =>
    rintro _ ⟨⟩
    exact isSurrogate_of_pointOfThree? hp
  split
  · exact hstray
  split
  next hp =>
    rintro _ ⟨⟩
    exact isSurrogate_of_pointOfFour? hp
  · exact hstray

/-- **UTF-8 spells no surrogate.** -/
theorem isScalar_of_mem_glyphsFrom {skip : Nat} {bytes : List UInt8} {g : Glyph}
    (h : g ∈ glyphsFrom skip bytes) : g.IsScalar := by
  induction bytes generalizing skip with
  | nil => simp [glyphsFrom] at h
  | cons a rest ih =>
      cases skip with
      | succ skip => exact ih h
      | zero =>
          rcases List.mem_cons.1 h with rfl | h
          · exact isScalar_firstGlyph a rest
          · exact ih h

end Utf8

end ComponentIndex
