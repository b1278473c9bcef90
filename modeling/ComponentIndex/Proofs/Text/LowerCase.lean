/-
**Lower case and dots.**

The lower-case form of a text is read character by character, but for a capital sigma, whose form
depends on its surroundings.  Dots stay where they are, and no others appear.

Main results:

* `ComponentIndex.Text.lower_suffix` — the end of a text in lower case, if no capital sigma occurs
  in it;
* `ComponentIndex.Text.dot_not_mem_lower`, `ComponentIndex.Text.head?_lower_eq_dot_iff` — no dots
  appear, and none at the beginning is lost;
* `ComponentIndex.Text.lower_lower` — the lower-case form of a lower-case form.
-/

import ComponentIndex.Proofs.Text.Numeral
import ComponentIndex.Proofs.Text.Order
import ComponentIndex.Text.LowerCase

set_option relaxedAutoImplicit false
set_option autoImplicit false

namespace ComponentIndex

/-! ### Single characters -/

/-- The mapping stays above a bound if the number and all images are above it. -/
theorem Text.le_lowerOfRuns {k n : Nat} {runs : List (Nat × Nat × Nat × Nat)} (hn : k ≤ n)
    (hruns : ∀ run ∈ runs, k ≤ run.2.2.2) : k ≤ lowerOfRuns n runs := by
  induction runs with
  | nil => exact hn
  | cons run runs ih =>
      obtain ⟨first, last, step, image⟩ := run
      rw [List.forall_mem_cons] at hruns
      rw [lowerOfRuns]
      split
      · exact Nat.le_add_right_of_le hruns.1
      · exact ih hruns.2

/-- Only a dot is mapped to a dot. -/
theorem CodePoint.simpleLower_ne_dot {c : CodePoint} (h : c ≠ '.') : c.simpleLower ≠ '.' := by
  have hval : c.val ≠ 0x2E := fun hval => h (ext_val hval)
  suffices hlower : c.simpleLower.val ≠ 0x2E from fun hdot => hlower (congrArg val hdot)
  have hgetD {n : Nat} (hn : n ≠ 0x2E) : ((ofNat? n).getD c).val ≠ 0x2E := by
    rw [ofNat?]
    split
    · exact hn
    · exact hval
  rw [simpleLower]
  split
  · split
    next hletter =>
      simp only [isBetween, Bool.and_eq_true, decide_eq_true_eq] at hletter
      have hlo : 0x41 ≤ c.val := hletter.1
      exact hgetD (by omega)
    · exact hval
  next hbeyond =>
    have himages : ∀ run ∈ Text.lowerRuns, 0x2F ≤ run.2.2.2 := by decide +kernel
    have := Text.le_lowerOfRuns (show 0x2F ≤ c.val by omega) himages
    exact hgetD (by omega)

namespace Text

/-! ### The end of a text -/

/-- The lower-case form of a text ends with that of its end, read where it stands. -/
theorem exists_lowerAfter_append (before s t : Text) :
    ∃ s', lowerAfter before (s ++ t) = s' ++ lowerAfter (s.reverse ++ before) t := by
  induction s generalizing before with
  | nil => exact ⟨[], rfl⟩
  | cons c s ih =>
      obtain ⟨s', hs'⟩ := ih (c :: before)
      have hbefore : (c :: s).reverse ++ before = s.reverse ++ c :: before := by simp
      rw [hbefore, List.cons_append, lowerAfter, hs', ← List.append_assoc]
      exact ⟨_, rfl⟩

/-- Without a capital sigma it does not matter what stands before a text. -/
theorem lowerAfter_eq_lower {t : Text} (h : ('Σ' : CodePoint) ∉ t) (before : Text) :
    lowerAfter before t = lower t := by
  have hgo (before' : Text) : lowerAfter before t = lowerAfter before' t := by
    induction t generalizing before before' with
    | nil => rfl
    | cons c t ih =>
        rw [List.mem_cons, not_or] at h
        have hc : c.val ≠ 0x3A3 := fun hc => h.1 (CodePoint.ext_val hc.symm)
        rw [lowerAfter, lowerAfter, if_neg hc, if_neg hc, ih h.2]
  exact hgo []

/-- **The end of a text in lower case** is the lower-case form of its end, if no capital sigma
occurs in that. -/
theorem lower_suffix {s t : Text} (h : ('Σ' : CodePoint) ∉ t) : lower t <:+ lower (s ++ t) := by
  obtain ⟨s', hs'⟩ := exists_lowerAfter_append [] s t
  rw [lowerAfter_eq_lower h] at hs'
  exact ⟨s', hs'.symm⟩

/-! ### Dots -/

theorem lower_dot_cons {t : Text} (h : ('Σ' : CodePoint) ∉ t) :
    lower (('.' : CodePoint) :: t) = ('.' : CodePoint) :: lower t := by
  rw [lower, lowerAfter, lowerAfter_eq_lower h, if_neg (by decide), if_neg (by decide)]
  rfl

/-- No dots appear in the lower-case form of a text. -/
theorem dot_not_mem_lower {t : Text} (h : ('.' : CodePoint) ∉ t) : ('.' : CodePoint) ∉ lower t := by
  rw [lower]
  generalize [] = before
  induction t generalizing before with
  | nil => exact List.not_mem_nil
  | cons c t ih =>
      rw [List.mem_cons, not_or] at h
      rw [lowerAfter, List.mem_append, not_or]
      refine ⟨?_, ih h.2 _⟩
      split
      · decide
      split
      · split
        · decide
        · decide
      · rw [List.mem_singleton]
        exact Ne.symm (CodePoint.simpleLower_ne_dot (Ne.symm h.1))

/-- A character becomes something that a dot opens only if it is a dot. -/
theorem exists_lowerAfter_cons (before : Text) (c : CodePoint) (t : Text) :
    ∃ d image, lowerAfter before (c :: t) = d :: (image ++ lowerAfter (c :: before) t) ∧
      (d = ('.' : CodePoint) ↔ c = ('.' : CodePoint)) := by
  rw [lowerAfter]
  split
  next hdotted =>
    refine ⟨'i', _, rfl, iff_of_false (by decide) ?_⟩
    rintro rfl
    cases hdotted
  · split
    next hsigma =>
      have hc : c ≠ ('.' : CodePoint) := by
        rintro rfl
        cases hsigma
      split
      · exact ⟨'ς', _, rfl, iff_of_false (by decide) hc⟩
      · exact ⟨'σ', _, rfl, iff_of_false (by decide) hc⟩
    · refine ⟨c.simpleLower, [], rfl, ?_⟩
      constructor
      · intro hlower
        by_contra hc
        exact CodePoint.simpleLower_ne_dot hc hlower
      · rintro rfl
        decide

/-- A dot opens the lower-case form of a text exactly if it opens the text. -/
theorem head?_lower_eq_dot_iff {t : Text} :
    (lower t).head? = some ('.' : CodePoint) ↔ t.head? = some ('.' : CodePoint) := by
  cases t with
  | nil => rfl
  | cons c t =>
      obtain ⟨d, image, hlower, hdot⟩ := exists_lowerAfter_cons [] c t
      rw [lower, hlower, List.head?_cons, List.head?_cons, Option.some.injEq, Option.some.injEq, hdot]

/-- What is not a dot becomes something that is none. -/
theorem exists_ne_dot_lower {t : Text} (h : ∃ c ∈ t, c ≠ ('.' : CodePoint)) :
    ∃ c ∈ lower t, c ≠ ('.' : CodePoint) := by
  rw [lower]
  generalize [] = before
  induction t generalizing before with
  | nil =>
      obtain ⟨c, hc, -⟩ := h
      cases hc
  | cons c t ih =>
      obtain ⟨d, image, hlower, hdot⟩ := exists_lowerAfter_cons before c t
      rw [hlower]
      by_cases hc : c = ('.' : CodePoint)
      · have hrest : ∃ e ∈ t, e ≠ ('.' : CodePoint) := by
          obtain ⟨e, he, hne⟩ := h
          rcases List.mem_cons.1 he with rfl | he
          · exact absurd hc hne
          · exact ⟨e, he, hne⟩
        obtain ⟨e, he, hne⟩ := ih hrest (c :: before)
        exact ⟨e, List.mem_cons_of_mem _ (List.mem_append_right _ he), hne⟩
      · exact ⟨d, List.mem_cons_self, mt hdot.1 hc⟩

/-- Only the empty text has an empty lower-case form. -/
theorem lower_eq_nil_iff {t : Text} : lower t = [] ↔ t = [] := by
  cases t with
  | nil => simp [lower, lowerAfter]
  | cons c t =>
      rw [lower, lowerAfter]
      simp only [List.append_eq_nil_iff, reduceCtorEq, iff_false, not_and]
      intro h
      split at h
      · cases h
      split at h
      · split at h
        all_goals cases h
      · cases h

/-! ### Lower case of lower case -/

/-- The images of one run are met by none of the characters of another one: they lie before or behind
it, or fall into the gaps between its characters. -/
def imagesMiss (run run' : Nat × Nat × Nat × Nat) : Bool :=
  Nat.blt (run.2.2.2 + (run.2.1 - run.1)) run'.1 || Nat.blt run'.2.1 run.2.2.2 ||
    ((run.2.2.1 == 2 || run.1 == run.2.1) && run'.2.2.1 == 2 && (run.2.2.2 + run'.1) % 2 == 1)

/-- A run holds a number. -/
def Holds (n : Nat) (run : Nat × Nat × Nat × Nat) : Prop :=
  run.1 ≤ n ∧ n ≤ run.2.1 ∧ (n - run.1) % run.2.2.1 = 0

theorem not_holds_of_imagesMiss {run run' : Nat × Nat × Nat × Nat} (h : imagesMiss run run')
    {n : Nat} (hn : Holds n run) : ¬Holds (run.2.2.2 + (n - run.1)) run' := by
  obtain ⟨first, last, step, image⟩ := run
  obtain ⟨first', last', step', image'⟩ := run'
  simp only [imagesMiss, Bool.or_eq_true, Bool.and_eq_true, Nat.blt_eq, beq_iff_eq] at h
  simp only [Holds] at hn ⊢
  rcases h with (hbefore | hbehind) | ⟨⟨rfl | rfl, rfl⟩, hodd⟩
  · omega
  · omega
  · omega
  · omega

theorem lowerOfRuns_eq_self {n : Nat} {runs : List (Nat × Nat × Nat × Nat)}
    (h : ∀ run ∈ runs, ¬Holds n run) : lowerOfRuns n runs = n := by
  induction runs with
  | nil => rfl
  | cons run runs ih =>
      rw [List.forall_mem_cons] at h
      rw [lowerOfRuns, ih h.2, if_neg]
      simpa [Holds, and_assoc] using h.1

/-- The mapping leaves a number alone unless some run holds it. -/
theorem lowerOfRuns_eq_self_or (n : Nat) (runs : List (Nat × Nat × Nat × Nat)) :
    lowerOfRuns n runs = n ∨
      ∃ run ∈ runs, Holds n run ∧ lowerOfRuns n runs = run.2.2.2 + (n - run.1) := by
  induction runs with
  | nil => exact Or.inl rfl
  | cons run runs ih =>
      rw [lowerOfRuns]
      split
      next hholds =>
        simp only [Bool.and_eq_true, decide_eq_true_eq, beq_iff_eq, and_assoc] at hholds
        exact Or.inr ⟨run, List.mem_cons_self, hholds, rfl⟩
      · rcases ih with hself | ⟨run', hrun, h⟩
        · exact Or.inl hself
        · exact Or.inr ⟨run', List.mem_cons_of_mem _ hrun, h⟩

/-- The two characters whose lower-case form is not a matter of the mapping, as runs. -/
def specialRuns : List (Nat × Nat × Nat × Nat) := [(0x130, 0x130, 2, 0), (0x3A3, 0x3A3, 2, 0)]

theorem imagesMiss_of_mem : ∀ run ∈ lowerRuns, ∀ run' ∈ specialRuns ++ lowerRuns,
    imagesMiss run run' = true := by
  simp only [← List.all_eq_true]
  decide +kernel

end Text

namespace CodePoint

/-- The mapping of the letters of the English alphabet is that of the first run. -/
theorem simpleLower_eq (c : CodePoint) :
    c.simpleLower = (ofNat? (Text.lowerOfRuns c.val Text.lowerRuns)).getD c := by
  rw [simpleLower]
  split
  next hsmall =>
    have hruns : Text.lowerRuns = (0x41, 0x5A, 1, 0x61) :: Text.lowerRuns.tail := rfl
    have hothers : ∀ run ∈ Text.lowerRuns.tail, 0x80 ≤ run.1 := by decide +kernel
    have hrest : Text.lowerOfRuns c.val Text.lowerRuns.tail = c.val := by
      refine Text.lowerOfRuns_eq_self fun run hrun hholds => ?_
      have hfirst := hothers run hrun
      have hle := hholds.1
      omega
    rw [hruns, Text.lowerOfRuns, hrest]
    simp only [isBetween, Bool.and_eq_true, decide_eq_true_eq]
    by_cases hletter : 'A'.toNat ≤ c.val ∧ c.val ≤ 'Z'.toNat
    · have hlo : 0x41 ≤ c.val := hletter.1
      have hhi : c.val ≤ 0x5A := hletter.2
      have hvalue : c.val + 0x20 = 0x61 + (c.val - 0x41) := by omega
      rw [if_pos hletter, if_pos ⟨hletter, beq_iff_eq.2 (Nat.mod_one _)⟩, hvalue]
    · rw [if_neg hletter, if_neg fun h => hletter h.1, ofNat?_val]
      rfl
  · rfl

/-- The character is its own lower-case form wherever it stands. -/
def IsLowered (c : CodePoint) : Prop := c.val ≠ 0x130 ∧ c.val ≠ 0x3A3 ∧ c.simpleLower = c

theorem isLowered_simpleLower {c : CodePoint} (hdotted : c.val ≠ 0x130) (hsigma : c.val ≠ 0x3A3) :
    c.simpleLower.IsLowered := by
  by_cases hself : c.simpleLower = c
  · rw [hself]
    exact ⟨hdotted, hsigma, hself⟩
  · have hlower := simpleLower_eq c
    rcases Text.lowerOfRuns_eq_self_or c.val Text.lowerRuns with hval | ⟨run, hrun, hholds, himage⟩
    · rw [hval, ofNat?_val] at hlower
      exact absurd hlower hself
    · have hmiss : ∀ run' ∈ Text.specialRuns ++ Text.lowerRuns,
          ¬Text.Holds (Text.lowerOfRuns c.val Text.lowerRuns) run' := by
        intro run' hrun'
        rw [himage]
        exact Text.not_holds_of_imagesMiss (Text.imagesMiss_of_mem run hrun run' hrun') hholds
      have hfixed := Text.lowerOfRuns_eq_self fun run' hrun' =>
        hmiss run' (List.mem_append_right _ hrun')
      cases hd : ofNat? (Text.lowerOfRuns c.val Text.lowerRuns) with
      | none =>
          rw [hd] at hlower
          exact absurd hlower hself
      | some d =>
          have hdval : d.val = Text.lowerOfRuns c.val Text.lowerRuns := by
            rw [ofNat?] at hd
            split at hd
            · rw [← Option.some.inj hd]
            · cases hd
          rw [← hdval] at hmiss hfixed
          rw [hlower, hd, Option.getD_some]
          refine ⟨fun hd130 => ?_, fun hd3A3 => ?_, ?_⟩
          · exact hmiss _ List.mem_cons_self (by rw [hd130, Text.Holds]; decide)
          · exact hmiss _ (List.mem_cons_of_mem _ List.mem_cons_self)
              (by rw [hd3A3, Text.Holds]; decide)
          · rw [simpleLower_eq, hfixed, ofNat?_val, Option.getD_some]

end CodePoint

namespace Text

theorem lowerAfter_eq_self {before t : Text} (h : ∀ c ∈ t, c.IsLowered) :
    lowerAfter before t = t := by
  induction t generalizing before with
  | nil => rfl
  | cons c t ih =>
      rw [List.forall_mem_cons] at h
      obtain ⟨⟨hdotted, hsigma, hself⟩, ht⟩ := h
      rw [lowerAfter, if_neg hdotted, if_neg hsigma, hself, ih ht]
      rfl

theorem isLowered_of_mem_lowerAfter {before t : Text} {c : CodePoint}
    (h : c ∈ lowerAfter before t) : c.IsLowered := by
  have hspecial : ∀ c ∈ Text.ofString "i\u0307ςσ", c.IsLowered := by
    simp only [CodePoint.IsLowered]
    decide +kernel
  induction t generalizing before with
  | nil => cases h
  | cons d t ih =>
      rw [lowerAfter, List.mem_append] at h
      rcases h with h | h
      · split at h
        · exact hspecial c (List.mem_of_mem_take (i := 2) h)
        next hdotted =>
          split at h
          · split at h
            · exact hspecial c (List.mem_of_mem_drop (i := 2) (List.mem_of_mem_take (i := 1) h))
            · exact hspecial c (List.mem_of_mem_drop (i := 3) h)
          next hsigma =>
            rw [List.mem_singleton] at h
            rw [h]
            exact CodePoint.isLowered_simpleLower hdotted hsigma
      · exact ih h

theorem sigma_not_mem_lower (t : Text) : ('Σ' : CodePoint) ∉ lower t := fun h =>
  (isLowered_of_mem_lowerAfter h).2.1 rfl

/-- **The lower-case form of a lower-case form** is that form itself. -/
theorem lower_lower (t : Text) : t.lower.lower = t.lower :=
  lowerAfter_eq_self fun _ => isLowered_of_mem_lowerAfter

end Text

end ComponentIndex
