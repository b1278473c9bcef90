/-
**Stripping.**

A strip takes a run of blanks off each end of a text and nothing else.  What is left has no blank at
either end, and a text that has none is left as it is.

Main definitions:

* `ComponentIndex.Text.IsBlank` — a run of blanks;
* `ComponentIndex.Text.IsTrimmed` — no blank stands at either end.

Main results:

* `ComponentIndex.Text.exists_eq_append_strip` — a text is its strip between two runs of blanks;
* `ComponentIndex.Text.isTrimmed_strip`, `ComponentIndex.Text.IsTrimmed.strip_eq` — **what a strip
  leaves** and what it leaves alone;
* `ComponentIndex.Text.strip_eq_nil_iff` — nothing is left of blanks only.
-/

import ComponentIndex.Text.Blank
import Mathlib.Data.List.TakeWhile

set_option relaxedAutoImplicit false
set_option autoImplicit false

namespace ComponentIndex.Text

/-- A run of blanks, possibly an empty one. -/
def IsBlank (t : Text) : Prop := ∀ c ∈ t, c.isBlank = true

/-- No blank stands at either end of a text. -/
structure IsTrimmed (t : Text) : Prop where
  /-- The text does not begin with a blank. -/
  head : ∀ c ∈ t.head?, c.isBlank = false
  /-- The text does not end with a blank. -/
  last : ∀ c ∈ t.getLast?, c.isBlank = false

instance (t : Text) : Decidable t.IsBlank := inferInstanceAs (Decidable (∀ c ∈ t, _))

instance (t : Text) : Decidable t.IsTrimmed :=
  decidable_of_iff ((∀ c ∈ t.head?, c.isBlank = false) ∧ ∀ c ∈ t.getLast?, c.isBlank = false)
    ⟨fun h => ⟨h.1, h.2⟩, fun h => ⟨h.head, h.last⟩⟩

/-! ### The beginning of a text -/

/-- A text is a run of blanks and what is left without the blanks at its beginning. -/
theorem exists_eq_append_stripStart (t : Text) : ∃ w, IsBlank w ∧ t = w ++ t.stripStart :=
  ⟨t.takeWhile CodePoint.isBlank, fun _ hc => List.mem_takeWhile_imp hc,
    List.takeWhile_append_dropWhile.symm⟩

theorem head?_stripStart (t : Text) : ∀ c ∈ t.stripStart.head?, c.isBlank = false := by
  intro c hc
  have hnot := List.head?_dropWhile_not CodePoint.isBlank t
  rw [stripStart] at hc
  rw [Option.mem_def.1 hc] at hnot
  simpa using hnot

theorem stripStart_append {w : Text} (hw : w.IsBlank) (t : Text) :
    (w ++ t).stripStart = t.stripStart :=
  List.dropWhile_append_of_pos hw

theorem stripStart_cons_of_not_blank {c : CodePoint} (hc : c.isBlank = false) (t : Text) :
    stripStart (c :: t) = c :: t :=
  List.dropWhile_cons_of_neg (by simp [hc])

/-- A text that does not begin with a blank stays. -/
theorem stripStart_eq_self {t : Text} (h : ∀ c ∈ t.head?, c.isBlank = false) :
    t.stripStart = t := by
  cases t with
  | nil => rfl
  | cons c t => exact stripStart_cons_of_not_blank (h c rfl) t

/-- A text that does not begin with a blank stays together with what follows it. -/
theorem stripStart_append_eq_self {s : Text} (hne : s ≠ []) (h : ∀ c ∈ s.head?, c.isBlank = false)
    (t : Text) : (s ++ t).stripStart = s ++ t := by
  cases s with
  | nil => exact absurd rfl hne
  | cons c s => exact stripStart_cons_of_not_blank (h c rfl) _

/-! ### Both ends -/

theorem stripEnd_eq (t : Text) : t.stripEnd = (stripStart t.reverse).reverse := rfl

/-- What a strip takes off the end of a text is a run of blanks. -/
theorem exists_stripStart_eq_append (t : Text) : ∃ w, IsBlank w ∧ t.stripStart = t.strip ++ w := by
  obtain ⟨w, hw, ht⟩ := exists_eq_append_stripStart t.stripStart.reverse
  refine ⟨w.reverse, fun c hc => hw c (List.mem_reverse.1 hc), ?_⟩
  rw [strip, stripEnd_eq, ← List.reverse_append, ← ht, List.reverse_reverse]

/-- A text is its strip between two runs of blanks. -/
theorem exists_eq_append_strip (t : Text) :
    ∃ w w', IsBlank w ∧ IsBlank w' ∧ t = w ++ (t.strip ++ w') := by
  obtain ⟨w, hw, ht⟩ := exists_eq_append_stripStart t
  obtain ⟨w', hw', ht'⟩ := exists_stripStart_eq_append t
  exact ⟨w, w', hw, hw', by rw [← ht', ← ht]⟩

/-- A strip leaves no blank at either end. -/
theorem isTrimmed_strip (t : Text) : t.strip.IsTrimmed := by
  constructor
  · intro c hc
    -- What is taken off the end does not reach the beginning unless nothing is left.
    obtain ⟨w, -, ht⟩ := exists_stripStart_eq_append t
    refine head?_stripStart t c ?_
    rw [Option.mem_def] at hc ⊢
    rw [ht, List.head?_append, hc, Option.some_or]
  · rw [strip, stripEnd_eq, List.getLast?_reverse]
    exact head?_stripStart _

/-- A text without blanks at its ends is left as it is. -/
theorem IsTrimmed.strip_eq {t : Text} (h : t.IsTrimmed) : t.strip = t := by
  have hend : ∀ c ∈ t.reverse.head?, c.isBlank = false := by
    rw [List.head?_reverse]
    exact h.last
  rw [strip, stripStart_eq_self h.head, stripEnd_eq, stripStart_eq_self hend, List.reverse_reverse]

theorem strip_strip (t : Text) : t.strip.strip = t.strip := (isTrimmed_strip t).strip_eq

/-- Nothing is left of a text exactly if it is made of blanks. -/
theorem strip_eq_nil_iff {t : Text} : t.strip = [] ↔ t.IsBlank := by
  obtain ⟨w, w', hw, hw', ht⟩ := exists_eq_append_strip t
  constructor
  · intro hnil
    rw [ht, hnil, List.nil_append]
    exact List.forall_mem_append.2 ⟨hw, hw'⟩
  · intro hblank
    cases hstrip : t.strip with
    | nil => rfl
    | cons c rest =>
        have hc : c.isBlank = false := (isTrimmed_strip t).head c (by rw [hstrip]; rfl)
        have hmem : c ∈ t := by
          rw [ht, hstrip]
          simp
        rw [hblank c hmem] at hc
        cases hc

theorem strip_infix (t : Text) : t.strip <:+: t := by
  obtain ⟨w, w', -, -, ht⟩ := exists_eq_append_strip t
  exact ⟨w, w', by rw [List.append_assoc, ← ht]⟩

/-- Two texts without blanks at their ends make one, whatever stands between them. -/
theorem isTrimmed_append {s t : Text} (hs : s.IsTrimmed) (hsne : s ≠ []) (ht : t.IsTrimmed)
    (htne : t ≠ []) (middle : Text) : (s ++ (middle ++ t)).IsTrimmed := by
  have hhead : (s ++ (middle ++ t)).head? = s.head? := by
    rw [List.head?_append, List.head?_eq_some_head hsne, Option.some_or]
  have hlast : (s ++ (middle ++ t)).getLast? = t.getLast? := by
    rw [List.getLast?_append, List.getLast?_append, List.getLast?_eq_some_getLast htne,
      Option.some_or, Option.some_or]
  exact ⟨hhead ▸ hs.head, hlast ▸ ht.last⟩

end ComponentIndex.Text
