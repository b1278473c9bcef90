/-
**Reading what was written.**

The bytes of a text are read as the text, unless a surrogate occurs in it, which no bytes spell.

Main results:

* `ComponentIndex.Utf8.firstGlyph_encodePoint` — **a code point is read back**, whatever follows it;
* `ComponentIndex.Utf8.decode?_encode_iff` — so is a text, unless a surrogate occurs in it.
-/

import ComponentIndex.Proofs.Lists
import ComponentIndex.Proofs.Text.Scalar

set_option relaxedAutoImplicit false
set_option autoImplicit false

namespace ComponentIndex.Utf8

/-! ### Code points -/

section

variable {c : CodePoint}

theorem toNat_toUInt8 {n : Nat} (h : n < 0x100) : n.toUInt8.toNat = n :=
  UInt8.toNat_ofNat_of_lt' h

theorem ofNat?_eq_some {n : Nat} (h : n = c.val) : CodePoint.ofNat? n = some c := by
  subst h
  exact dif_pos c.val_lt

/-- Two bytes spell the code points from `0x80` on. -/
theorem pointOfTwo?_encode (hlow : 0x80 ≤ c.val) (hhigh : c.val < 0x800) :
    pointOfTwo? (0xC0 + c.val / 0x40).toUInt8 (0x80 + c.val % 0x40).toUInt8 = some c := by
  have ha : (0xC0 + c.val / 0x40).toUInt8.toNat = 0xC0 + c.val / 0x40 := toNat_toUInt8 (by omega)
  have hb : (0x80 + c.val % 0x40).toUInt8.toNat = 0x80 + c.val % 0x40 := toNat_toUInt8 (by omega)
  rw [pointOfTwo?, if_pos]
  · rw [tailBits, ha, hb]
    exact ofNat?_eq_some (by omega)
  · simp only [isTail, Bool.and_eq_true, decide_eq_true_eq, UInt8.le_iff_toNat_le, ha, hb,
      UInt8.reduceToNat]
    omega

/-- Three bytes spell the code points from `0x800` on, but for the surrogates. -/
theorem pointOfThree?_encode (hlow : 0x800 ≤ c.val) (hhigh : c.val < 0x10000)
    (hscalar : c.isSurrogate = false) :
    pointOfThree? (0xE0 + c.val / 0x1000).toUInt8 (0x80 + c.val / 0x40 % 0x40).toUInt8
      (0x80 + c.val % 0x40).toUInt8 = some c := by
  have ha : (0xE0 + c.val / 0x1000).toUInt8.toNat = 0xE0 + c.val / 0x1000 :=
    toNat_toUInt8 (by omega)
  have hb : (0x80 + c.val / 0x40 % 0x40).toUInt8.toNat = 0x80 + c.val / 0x40 % 0x40 :=
    toNat_toUInt8 (by omega)
  have hc : (0x80 + c.val % 0x40).toUInt8.toNat = 0x80 + c.val % 0x40 := toNat_toUInt8 (by omega)
  rw [← Bool.not_eq_true, CodePoint.isSurrogate_eq_true_iff] at hscalar
  rw [pointOfThree?, if_pos]
  · rw [tailBits, tailBits, ha, hb, hc]
    exact ofNat?_eq_some (by omega)
  · simp only [isTail, Bool.and_eq_true, Bool.or_eq_true, decide_eq_true_eq, bne_iff_ne, ne_eq,
      UInt8.le_iff_toNat_le, ← UInt8.toNat_inj, ha, hb, hc, UInt8.reduceToNat]
    omega

/-- Four bytes spell the code points from `0x10000` on. -/
theorem pointOfFour?_encode (hlow : 0x10000 ≤ c.val) :
    pointOfFour? (0xF0 + c.val / 0x40000).toUInt8 (0x80 + c.val / 0x1000 % 0x40).toUInt8
      (0x80 + c.val / 0x40 % 0x40).toUInt8 (0x80 + c.val % 0x40).toUInt8 = some c := by
  have hhigh := c.val_lt
  have ha : (0xF0 + c.val / 0x40000).toUInt8.toNat = 0xF0 + c.val / 0x40000 :=
    toNat_toUInt8 (by omega)
  have hb : (0x80 + c.val / 0x1000 % 0x40).toUInt8.toNat = 0x80 + c.val / 0x1000 % 0x40 :=
    toNat_toUInt8 (by omega)
  have hc : (0x80 + c.val / 0x40 % 0x40).toUInt8.toNat = 0x80 + c.val / 0x40 % 0x40 :=
    toNat_toUInt8 (by omega)
  have hd : (0x80 + c.val % 0x40).toUInt8.toNat = 0x80 + c.val % 0x40 := toNat_toUInt8 (by omega)
  rw [pointOfFour?, if_pos]
  · rw [tailBits, tailBits, tailBits, ha, hb, hc, hd]
    exact ofNat?_eq_some (by omega)
  · simp only [isTail, Bool.and_eq_true, Bool.or_eq_true, decide_eq_true_eq, bne_iff_ne, ne_eq,
      UInt8.le_iff_toNat_le, ← UInt8.toNat_inj, ha, hb, hc, hd, UInt8.reduceToNat]
    omega

/-- A byte that opens a longer sequence opens no shorter one. -/
theorem pointOfTwo?_eq_none {a : UInt8} (ha : 0xDF < a.toNat) (b : UInt8) :
    pointOfTwo? a b = none := by
  rw [pointOfTwo?, if_neg]
  simp only [Bool.and_eq_true, decide_eq_true_eq, UInt8.le_iff_toNat_le, UInt8.reduceToNat]
  omega

theorem pointOfThree?_eq_none {a : UInt8} (ha : 0xEF < a.toNat) (b c : UInt8) :
    pointOfThree? a b c = none := by
  rw [pointOfThree?, if_neg]
  simp only [Bool.and_eq_true, decide_eq_true_eq, UInt8.le_iff_toNat_le, UInt8.reduceToNat]
  omega

/-- **A code point is read back**, whatever follows its bytes. -/
theorem firstGlyph_encodePoint (hscalar : c.isSurrogate = false) :
    ∃ a tail, encodePoint c = a :: tail ∧
      ∀ rest, firstGlyph a (tail ++ rest) = ⟨some c, (encodePoint c).length⟩ := by
  have hlt := c.val_lt
  -- A byte that is not alone is none of the first half.
  have hlong : ∀ {n : Nat}, 0x80 ≤ n → n < 0x100 → ¬n.toUInt8 < 0x80 := by
    intro n hlow hhigh
    rw [UInt8.not_lt, UInt8.le_iff_toNat_le, toNat_toUInt8 hhigh]
    exact hlow
  rw [encodePoint]
  split
  next hone =>
    refine ⟨_, _, rfl, fun rest => ?_⟩
    have ha : c.val.toUInt8.toNat = c.val := toNat_toUInt8 (by omega)
    have hshort : c.val.toUInt8 < 0x80 := by
      rw [UInt8.lt_iff_toNat_lt, ha]
      exact hone
    rw [firstGlyph.eq_def, if_pos hshort, ha, ofNat?_eq_some rfl]
    rfl
  split
  next hone htwo =>
    refine ⟨_, _, rfl, fun rest => ?_⟩
    rw [firstGlyph.eq_def, if_neg (hlong (by omega) (by omega))]
    simp only [List.cons_append, List.nil_append, pointOfTwo?_encode (by omega) htwo]
    rfl
  split
  next hone htwo hthree =>
    refine ⟨_, _, rfl, fun rest => ?_⟩
    have ha : 0xDF < (0xE0 + c.val / 0x1000).toUInt8.toNat := by
      rw [toNat_toUInt8 (by omega)]
      omega
    rw [firstGlyph.eq_def, if_neg (hlong (by omega) (by omega))]
    simp only [List.cons_append, List.nil_append, pointOfTwo?_eq_none ha,
      pointOfThree?_encode (by omega) hthree hscalar]
    rfl
  next hone htwo hthree =>
    refine ⟨_, _, rfl, fun rest => ?_⟩
    have ha : 0xEF < (0xF0 + c.val / 0x40000).toUInt8.toNat := by
      rw [toNat_toUInt8 (by omega)]
      omega
    rw [firstGlyph.eq_def, if_neg (hlong (by omega) (by omega))]
    simp only [List.cons_append, List.nil_append, pointOfTwo?_eq_none (Nat.lt_trans (by decide) ha),
      pointOfThree?_eq_none ha, pointOfFour?_encode (Nat.le_of_not_lt hthree)]
    rfl

end

/-! ### Texts -/

theorem glyphsFrom_append (bytes rest : List UInt8) :
    glyphsFrom bytes.length (bytes ++ rest) = glyphsFrom 0 rest := by
  induction bytes with
  | nil => rfl
  | cons b bytes ih => exact ih

/-- Each code point of a text is read as one glyph. -/
theorem glyphs_encode {t : Text} (h : t.isScalar = true) :
    glyphs (encode t) = t.map fun c => ⟨some c, (encodePoint c).length⟩ := by
  rw [Text.isScalar_iff] at h
  induction t with
  | nil => rfl
  | cons c t ih =>
      obtain ⟨hc, ht⟩ := List.forall_mem_cons.1 h
      obtain ⟨a, tail, hbytes, hfirst⟩ := firstGlyph_encodePoint hc
      have hrest : glyphsFrom 0 (encode t) = t.map fun c => ⟨some c, (encodePoint c).length⟩ := ih ht
      rw [glyphs, encode, List.flatMap_cons, hbytes, List.cons_append, glyphsFrom, hfirst, hbytes,
        List.map_cons, hbytes, List.length_cons, Nat.add_sub_cancel, glyphsFrom_append, ← encode,
        hrest]

/-- What a strict reader reads holds no surrogate. -/
theorem isScalar_of_decode? {bytes : List UInt8} {t : Text} (h : decode? bytes = some t) :
    t.isScalar = true := by
  rw [decode?, mapM_eq_some_iff] at h
  rw [Text.isScalar_iff]
  intro c hc
  obtain ⟨g, hg, hpoint⟩ := List.mem_map.1 (h ▸ List.mem_map_of_mem hc)
  exact isScalar_of_mem_glyphsFrom hg c hpoint

/-- **The texts that are read back** from their bytes are those without surrogates. -/
theorem decode?_encode_iff {t : Text} : decode? (encode t) = some t ↔ t.isScalar = true := by
  refine ⟨isScalar_of_decode?, fun h => ?_⟩
  rw [decode?, glyphs_encode h, mapM_eq_some_iff, List.map_map]
  rfl

end ComponentIndex.Utf8
