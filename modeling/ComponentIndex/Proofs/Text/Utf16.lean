/-
**Joining surrogate pairs.**

A text in which each character outside the basic plane is written as its two surrogates is joined to
the text of its characters.

Main results:

* `ComponentIndex.CodePoint.isSurrogate_eq_true_iff_or` — the two halves of a pair;
* `ComponentIndex.Utf16.join?_cons`, `ComponentIndex.Utf16.join?_append` — characters stay;
* `ComponentIndex.Utf16.join?_pair` — **the two halves of a character are joined**.
-/

import ComponentIndex.Proofs.Text.Order
import ComponentIndex.Proofs.Text.Scalar
import ComponentIndex.Text.Utf16

set_option relaxedAutoImplicit false
set_option autoImplicit false

namespace ComponentIndex

namespace CodePoint

theorem isHighSurrogate_eq_true_iff {c : CodePoint} :
    c.isHighSurrogate = true ↔ 0xD800 ≤ c.val ∧ c.val ≤ 0xDBFF := by
  simp only [isHighSurrogate, Bool.and_eq_true, decide_eq_true_eq]

theorem isLowSurrogate_eq_true_iff {c : CodePoint} :
    c.isLowSurrogate = true ↔ 0xDC00 ≤ c.val ∧ c.val ≤ 0xDFFF := by
  simp only [isLowSurrogate, Bool.and_eq_true, decide_eq_true_eq]

/-- A surrogate is one half of a pair or the other. -/
theorem isSurrogate_eq_true_iff_or {c : CodePoint} :
    c.isSurrogate = true ↔ c.isHighSurrogate = true ∨ c.isLowSurrogate = true := by
  rw [isSurrogate_eq_true_iff, isHighSurrogate_eq_true_iff, isLowSurrogate_eq_true_iff]
  omega

theorem isSurrogate_eq_false_iff {c : CodePoint} :
    c.isSurrogate = false ↔ c.isHighSurrogate = false ∧ c.isLowSurrogate = false := by
  simp only [← Bool.not_eq_true, isSurrogate_eq_true_iff_or, not_or]

theorem not_isLowSurrogate_of_isHighSurrogate {c : CodePoint} (h : c.isHighSurrogate = true) :
    c.isLowSurrogate = false := by
  rw [← Bool.not_eq_true, isLowSurrogate_eq_true_iff]
  have := isHighSurrogate_eq_true_iff.1 h
  omega

theorem not_isHighSurrogate_of_isLowSurrogate {c : CodePoint} (h : c.isLowSurrogate = true) :
    c.isHighSurrogate = false := by
  rw [← Bool.not_eq_true, isHighSurrogate_eq_true_iff]
  have := isLowSurrogate_eq_true_iff.1 h
  omega

end CodePoint

namespace Utf16

/-- A character that is no surrogate stays. -/
theorem join?_cons {c : CodePoint} (hc : c.isSurrogate = false) (t : Text) :
    join? (c :: t) = (join? t).map (c :: ·) := by
  cases t with
  | nil =>
      simp [join?, hc]
  | cons d t =>
      obtain ⟨hhigh, hlow⟩ := CodePoint.isSurrogate_eq_false_iff.1 hc
      rw [join?, if_neg (by simp [hhigh]), if_neg (by simp [hlow])]

/-- A text without surrogates stays. -/
theorem join?_append {s : Text} (hs : s.isScalar = true) (t : Text) :
    join? (s ++ t) = (join? t).map (s ++ ·) := by
  induction s with
  | nil => simp
  | cons c s ih =>
      rw [Text.isScalar, List.all_cons, Bool.and_eq_true, Bool.not_eq_true'] at hs
      rw [List.cons_append, join?_cons hs.1, ih hs.2, Option.map_map]
      rfl

/-- The two halves of a character outside the basic plane are joined to it. -/
theorem join?_pair {c high low : CodePoint} (h : unitsOfPoint c = [high.val, low.val]) (t : Text) :
    join? (high :: low :: t) = (join? t).map (c :: ·) := by
  have hc := c.val_lt
  have hbasic : ¬c.val < 0x10000 := by
    intro hlt
    simp [unitsOfPoint, hlt] at h
  rw [unitsOfPoint, if_neg hbasic] at h
  obtain ⟨hhigh, hlow⟩ : 0xD800 + (c.val - 0x10000) / 0x400 = high.val ∧
      0xDC00 + (c.val - 0x10000) % 0x400 = low.val := by simpa using h
  have hjoin : joinPair high low = c := by
    apply CodePoint.ext_val
    rw [joinPair]
    dsimp only
    omega
  rw [join?, if_pos, if_pos, hjoin]
  · rw [CodePoint.isLowSurrogate_eq_true_iff]
    omega
  · rw [CodePoint.isHighSurrogate_eq_true_iff]
    omega

end Utf16

end ComponentIndex
