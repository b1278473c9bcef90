/-
**Suffixes of file names.**

Main definitions:

* `ComponentIndex.FileName.IsCut` — a name is cut at its last dot into two parts;
* `ComponentIndex.FileName.IsSuffix` — the suffix of a name.

Main results:

* `ComponentIndex.Text.afterLast_eq_of_suffix` — the last separator of a text;
* `ComponentIndex.FileName.suffix_eq_nil_or` — **a suffix** is empty, or the end of the name from
  its last dot on;
* `ComponentIndex.FileName.isSuffix_iff` — the suffix that is computed is the suffix of the name.
-/

import Mathlib.Data.List.TakeWhile
import ComponentIndex.FileName

set_option relaxedAutoImplicit false
set_option autoImplicit false

namespace ComponentIndex

/-- A text is what stands before the last separator, the separator and what follows it, unless all
of it follows the last separator. -/
theorem Text.afterLast_eq_self_or (sep : CodePoint) (t : Text) :
    t.afterLast sep = t ∨ ∃ before, t = before ++ sep :: t.afterLast sep := by
  have ht : t = (t.reverse.dropWhile (· ≠ sep)).reverse ++ t.afterLast sep := by
    rw [afterLast, ← List.reverse_append, List.takeWhile_append_dropWhile, List.reverse_reverse]
  cases hdrop : t.reverse.dropWhile (· ≠ sep) with
  | nil =>
      rw [hdrop, List.reverse_nil, List.nil_append] at ht
      exact Or.inl ht.symm
  | cons c before =>
      have hc : c = sep := by
        have := List.head?_dropWhile_not (· ≠ sep) t.reverse
        rw [hdrop] at this
        simpa using this
      rw [hdrop, hc, List.reverse_cons, List.append_assoc] at ht
      exact Or.inr ⟨before.reverse, ht⟩

theorem Text.not_mem_afterLast (sep : CodePoint) (t : Text) : sep ∉ t.afterLast sep := by
  rw [afterLast, List.mem_reverse]
  intro h
  simpa using List.mem_takeWhile_imp h

/-- A text without a separator is passed over, backwards, on the way to the last one. -/
theorem Text.ne_of_mem_reverse {sep : CodePoint} {t : Text} (h : sep ∉ t) :
    ∀ c ∈ t.reverse, decide (c ≠ sep) = true := by
  intro c hc
  rw [decide_eq_true_eq]
  rintro rfl
  exact h (List.mem_reverse.1 hc)

/-- The end of a text from a separator on, if no further one occurs in it. -/
theorem Text.afterLast_eq_of_suffix {sep : CodePoint} {last t : Text} (hlast : sep ∉ last)
    (h : sep :: last <:+ t) : t.afterLast sep = last := by
  obtain ⟨before, rfl⟩ := h
  rw [afterLast, List.reverse_append, List.reverse_cons, List.append_assoc,
    List.takeWhile_append_of_pos (ne_of_mem_reverse hlast), List.singleton_append,
    List.takeWhile_cons_of_neg (by simp), List.append_nil, List.reverse_reverse]

namespace FileName

/-- The last dot of a name stands between two parts neither of which is empty. -/
def IsCut (name before extension : Text) : Prop :=
  before ≠ [] ∧ extension ≠ [] ∧ ('.' : CodePoint) ∉ extension ∧
    name = before ++ ('.' : CodePoint) :: extension

/-- The suffix of a name: the name from its last dot on, if that dot is neither the first nor the
last character, and otherwise nothing. -/
def IsSuffix (name suffix : Text) : Prop :=
  (∃ before extension, IsCut name before extension ∧ suffix = ('.' : CodePoint) :: extension) ∨
    (∀ before extension, ¬IsCut name before extension) ∧ suffix = []

theorem IsCut.suffix_eq {name before extension : Text} (h : IsCut name before extension) :
    suffix name = ('.' : CodePoint) :: extension := by
  obtain ⟨hbefore, hextension, hdot, rfl⟩ := h
  have hlast : (before ++ ('.' : CodePoint) :: extension).afterLast '.' = extension :=
    Text.afterLast_eq_of_suffix hdot (List.suffix_append _ _)
  have hlength : 0 < before.length := List.length_pos_iff.2 hbefore
  rw [suffix, hlast, if_pos]
  rw [Bool.and_eq_true, decide_eq_true_eq, List.length_append, List.length_cons]
  exact ⟨by omega, by simpa using hextension⟩

/-- A name that has a suffix is cut at its last dot. -/
theorem exists_isCut_of_suffix_ne_nil {name : Text} (h : suffix name ≠ []) :
    ∃ before extension, IsCut name before extension := by
  rw [suffix] at h
  split at h
  next hlong =>
    rw [Bool.and_eq_true, decide_eq_true_eq, bne_iff_ne] at hlong
    rcases Text.afterLast_eq_self_or '.' name with hself | ⟨before, hname⟩
    · rw [hself] at hlong
      omega
    · refine ⟨before, _, ?_, hlong.2, Text.not_mem_afterLast _ _, hname⟩
      rintro rfl
      have hlength := congrArg List.length hname
      simp only [List.nil_append, List.length_cons] at hlength
      omega
  · exact absurd rfl h

/-- **A suffix** is empty, or it is the end of the name from its last dot on. -/
theorem suffix_eq_nil_or (name : Text) :
    suffix name = [] ∨ ∃ before extension : Text, ('.' : CodePoint) ∉ extension ∧
      name = before ++ ('.' : CodePoint) :: extension ∧
        suffix name = ('.' : CodePoint) :: extension := by
  by_cases hne : suffix name = []
  · exact Or.inl hne
  · obtain ⟨before, extension, hcut⟩ := exists_isCut_of_suffix_ne_nil hne
    obtain ⟨-, -, hdot, hname⟩ := id hcut
    exact Or.inr ⟨before, extension, hdot, hname, hcut.suffix_eq⟩

/-- The suffix that is computed is the suffix of the name. -/
theorem isSuffix_iff {name t : Text} : IsSuffix name t ↔ suffix name = t := by
  constructor
  · rintro (⟨before, extension, hcut, rfl⟩ | ⟨hcut, rfl⟩)
    · exact hcut.suffix_eq
    · by_contra hne
      obtain ⟨before, extension, h⟩ := exists_isCut_of_suffix_ne_nil hne
      exact hcut before extension h
  · rintro rfl
    by_cases hne : suffix name = []
    · refine Or.inr ⟨fun before extension hcut => ?_, hne⟩
      rw [hcut.suffix_eq] at hne
      cases hne
    · obtain ⟨before, extension, hcut⟩ := exists_isCut_of_suffix_ne_nil hne
      exact Or.inl ⟨before, extension, hcut, hcut.suffix_eq⟩

end FileName

end ComponentIndex
