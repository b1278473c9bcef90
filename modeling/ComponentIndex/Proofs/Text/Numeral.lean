/-
**Numerals.**

A numeral is a row of digits, the first one the most significant.  It may begin with zeros, and a
digit above nine may be written in either case.

Main definitions:

* `ComponentIndex.CodePoint.SpellsDigit` — a code point stands for a digit;
* `ComponentIndex.Numeral` — a text is a numeral of a number.

Main results:

* `ComponentIndex.numeral_hex_iff`, `ComponentIndex.numeral_octal_iff` — **numerals in base sixteen
  and in base eight** are the texts of such digits, and their values are the numbers.
-/

import ComponentIndex.Text.Basic
import Mathlib.Data.List.Induction

set_option relaxedAutoImplicit false
set_option autoImplicit false

namespace ComponentIndex

/-- The code point stands for a digit in lower or in upper case. -/
def CodePoint.SpellsDigit (d : Nat) (c : CodePoint) : Prop :=
  (Text.ofString "0123456789abcdef")[d]? = some c ∨
    (Text.ofString "0123456789ABCDEF")[d]? = some c

instance (d : Nat) (c : CodePoint) : Decidable (c.SpellsDigit d) :=
  inferInstanceAs (Decidable (_ ∨ _))

/-- The text is a numeral of a number in a base, which may begin with zeros. -/
inductive Numeral (base : Nat) : Nat → Text → Prop
  /-- No digits. -/
  | nil : Numeral base 0 []
  /-- One more digit at the end. -/
  | snoc {n d : Nat} {t : Text} {c : CodePoint} :
    Numeral base n t → d < base → c.SpellsDigit d → Numeral base (n * base + d) (t ++ [c])

namespace CodePoint

theorem ofNat?_val (c : CodePoint) : ofNat? c.val = some c := dif_pos c.val_lt

theorem SpellsDigit.hexValue?_eq {d : Nat} {c : CodePoint} (h : c.SpellsDigit d) :
    c.hexValue? = some d := by
  have hdigits : ∀ d < 16,
      (Text.ofString "0123456789abcdef")[d]?.bind hexValue? = some d ∧
        (Text.ofString "0123456789ABCDEF")[d]?.bind hexValue? = some d := by decide
  rcases h with h | h
  all_goals
    obtain ⟨hd, -⟩ := List.getElem?_eq_some_iff.1 h
    have := hdigits d hd
    rw [h] at this
  · exact this.1
  · exact this.2

theorem SpellsDigit.octal {d : Nat} {c : CodePoint} (h : c.SpellsDigit d) (hd : d < 8) :
    c.isOctalDigit = true ∧ c.val - '0'.toNat = d := by
  -- Below eight the two cases of a digit are one.
  have hcase : ∀ d < 8, (Text.ofString "0123456789ABCDEF")[d]? =
      (Text.ofString "0123456789abcdef")[d]? := by decide
  have hdigits : ∀ d < 8, ∀ c ∈ (Text.ofString "0123456789abcdef")[d]?,
      isOctalDigit c = true ∧ c.val - '0'.toNat = d := by decide
  rw [SpellsDigit, hcase d hd, or_self] at h
  exact hdigits d hd c h

theorem spellsDigit_of_hexValue? {d : Nat} {c : CodePoint} (h : c.hexValue? = some d) :
    d < 16 ∧ c.SpellsDigit d := by
  have hdigits : ∀ n < 103, ∀ hn : n < 0x110000,
      ∀ d ∈ hexValue? ⟨n, hn⟩, d < 16 ∧ SpellsDigit d ⟨n, hn⟩ := by decide
  have hsmall : c.val < 103 := by
    by_contra hlarge
    have hnone : c.hexValue? = none := by
      rw [hexValue?, if_neg, if_neg, if_neg]
      all_goals
        simp [isBetween]
        omega
    exact absurd h (by simp [hnone])
  exact hdigits c.val hsmall c.val_lt d h

theorem spellsDigit_of_isOctalDigit {c : CodePoint} (h : c.isOctalDigit = true) :
    c.val - '0'.toNat < 8 ∧ c.SpellsDigit (c.val - '0'.toNat) := by
  have hdigits : ∀ n ≤ 55, 48 ≤ n → ∀ hn : n < 0x110000,
      n - '0'.toNat < 8 ∧ SpellsDigit (n - '0'.toNat) ⟨n, hn⟩ := by decide
  obtain ⟨hlo, hhi⟩ : 48 ≤ c.val ∧ c.val ≤ 55 := by simpa [isOctalDigit, isBetween] using h
  exact hdigits c.val hhi hlo c.val_lt

end CodePoint

namespace Numeral

variable {base n : Nat} {t : Text}

/-- What holds of all digits of a base holds of all code points of a numeral. -/
theorem forall_mem (h : Numeral base n t) {p : CodePoint → Prop}
    (hp : ∀ d < base, ∀ c : CodePoint, c.SpellsDigit d → p c) : ∀ c ∈ t, p c := by
  induction h with
  | nil => simp
  | snoc ht hd hc ih =>
      rw [List.forall_mem_append, List.forall_mem_singleton]
      exact ⟨ih, hp _ hd _ hc⟩

/-- A numeral has the value of its number under any reading of its digits. -/
theorem valueInBase_eq (h : Numeral base n t) {value : CodePoint → Nat}
    (hvalue : ∀ d < base, ∀ c : CodePoint, c.SpellsDigit d → value c = d) :
    Text.valueInBase base (t.map value) = n := by
  induction h with
  | nil => rfl
  | snoc ht hd hc ih =>
      rw [Text.valueInBase] at ih ⊢
      rw [List.map_append, List.foldl_append, ih, List.map_singleton, hvalue _ hd _ hc]
      rfl

end Numeral

/-- A text of digits is a numeral of its value. -/
theorem numeral_valueInBase {base : Nat} {value : CodePoint → Nat} {t : Text}
    (h : ∀ c ∈ t, value c < base ∧ c.SpellsDigit (value c)) :
    Numeral base (Text.valueInBase base (t.map value)) t := by
  induction t using List.reverseRecOn with
  | nil => exact .nil
  | append_singleton t c ih =>
      rw [List.forall_mem_append, List.forall_mem_singleton] at h
      obtain ⟨ht, hd, hc⟩ := h
      rw [List.map_append, Text.valueInBase, List.foldl_append]
      exact (ih ht).snoc hd hc

/-- The hexadecimal numerals of a number are the texts of hexadecimal digits with its value. -/
theorem numeral_hex_iff {n : Nat} {t : Text} :
    Numeral 16 n t ↔ t.all CodePoint.isHexDigit = true ∧ Text.hexValue t = n := by
  rw [List.all_eq_true]
  constructor
  · intro h
    refine ⟨h.forall_mem fun d _ c hc => ?_, h.valueInBase_eq fun d _ c hc => ?_⟩
    · rw [CodePoint.isHexDigit, hc.hexValue?_eq, Option.isSome_some]
    · rw [hc.hexValue?_eq, Option.getD_some]
  · rintro ⟨hall, rfl⟩
    refine numeral_valueInBase fun c hc => ?_
    obtain ⟨d, hd⟩ := Option.isSome_iff_exists.1 (hall c hc)
    rw [hd, Option.getD_some]
    exact CodePoint.spellsDigit_of_hexValue? hd

/-- The octal numerals of a number are the texts of octal digits with its value. -/
theorem numeral_octal_iff {n : Nat} {t : Text} :
    Numeral 8 n t ↔ t.all CodePoint.isOctalDigit = true ∧ Text.digitValue 8 t = n := by
  rw [List.all_eq_true]
  constructor
  · intro h
    exact ⟨h.forall_mem fun d hd c hc => (hc.octal hd).1,
      h.valueInBase_eq fun d hd c hc => (hc.octal hd).2⟩
  · rintro ⟨hall, rfl⟩
    exact numeral_valueInBase fun c hc => CodePoint.spellsDigit_of_isOctalDigit (hall c hc)

end ComponentIndex
