/-
**Surrogates with and without a partner.**

Joining the surrogate pairs of a text never changes its UTF-16 code units.  It is all or nothing: if every
surrogate has its partner, all pairs are joined and no surrogate is left, and if a single one stands alone
the text stays as it is, its pairs included.

Main definitions:

* `ComponentIndex.Utf16.HasPair` — a high surrogate stands before a low one;
* `ComponentIndex.Utf16.HasLoneSurrogate` — a surrogate has no partner.

Main results:

* `ComponentIndex.Utf16.join?_eq_some_iff` — the text that a text is joined to is the one with the same
  units and no surrogates;
* `ComponentIndex.Utf16.join?_eq_none_iff` — **what is not joined**;
* `ComponentIndex.Utf16.units_joinPairs`, `ComponentIndex.Utf16.hasPair_joinPairs_iff`,
  `ComponentIndex.Utf16.joinPairs_eq_iff` — joining where it is possible.
-/

import ComponentIndex.Proofs.Text.Utf16

set_option relaxedAutoImplicit false
set_option autoImplicit false

namespace ComponentIndex.Utf16

/-- A high surrogate of the text has a low one behind it. -/
def HasPair (t : Text) : Prop :=
  ∃ high low : CodePoint, high.isHighSurrogate = true ∧ low.isLowSurrogate = true ∧
    [high, low] <:+: t

/-- A surrogate has no partner among its neighbours: a high one has no low one behind it, or a low one
has no high one before it. -/
def IsLone (before? : Option CodePoint) (c : CodePoint) (after? : Option CodePoint) : Prop :=
  c.isHighSurrogate = true ∧ (∀ d ∈ after?, d.isLowSurrogate = false) ∨
    c.isLowSurrogate = true ∧ ∀ d ∈ before?, d.isHighSurrogate = false

/-- A surrogate of the text has no partner. -/
def HasLoneSurrogate (t : Text) : Prop :=
  ∃ before c after, t = before ++ c :: after ∧ IsLone before.getLast? c after.head?

/-! ### Pairs and lone surrogates at the beginning of a text -/

/-- A text begins with a character that is no surrogate, with a pair or with a lone surrogate. -/
theorem surrogateInduction {motive : Text → Prop} (nil : motive [])
    (scalar : ∀ c t, c.isSurrogate = false → motive t → motive (c :: t))
    (pair : ∀ high low t, high.isHighSurrogate = true → low.isLowSurrogate = true → motive t →
      motive (high :: low :: t))
    (lone : ∀ c t, IsLone none c t.head? → motive (c :: t)) (t : Text) : motive t := by
  induction hn : t.length using Nat.strongRecOn generalizing t with
  | ind n ih =>
      cases t with
      | nil => exact nil
      | cons c t =>
          rw [List.length_cons] at hn
          by_cases hsurrogate : c.isSurrogate = true
          · rcases CodePoint.isSurrogate_eq_true_iff_or.1 hsurrogate with hhigh | hlow
            · by_cases hpair : ∃ low ∈ t.head?, low.isLowSurrogate = true
              · obtain ⟨low, hhead, hlow⟩ := hpair
                obtain ⟨t, rfl⟩ := List.head?_eq_some_iff.1 hhead
                rw [List.length_cons] at hn
                exact pair c low t hhigh hlow (ih t.length (by omega) t rfl)
              · refine lone c t (Or.inl ⟨hhigh, fun d hd => ?_⟩)
                rw [← Bool.not_eq_true]
                exact fun hlow => hpair ⟨d, hd, hlow⟩
            · exact lone c t (Or.inr ⟨hlow, fun d hd => absurd hd (Option.not_mem_none d)⟩)
          · exact scalar c t (Bool.eq_false_iff.2 hsurrogate) (ih t.length (by omega) t rfl)

theorem unitsOfPoint_of_lt {c : CodePoint} (h : c.val < 0x10000) : unitsOfPoint c = [c.val] :=
  if_pos h

/-- The units of a pair are its two halves. -/
theorem unitsOfPoint_joinPair {high low : CodePoint} (hhigh : high.isHighSurrogate = true)
    (hlow : low.isLowSurrogate = true) : unitsOfPoint (joinPair high low) = [high.val, low.val] := by
  rw [CodePoint.isHighSurrogate_eq_true_iff] at hhigh
  rw [CodePoint.isLowSurrogate_eq_true_iff] at hlow
  rw [unitsOfPoint, joinPair, if_neg (by dsimp only; omega)]
  simp only [List.cons.injEq, and_true]
  omega

theorem isSurrogate_joinPair (high low : CodePoint) : (joinPair high low).isSurrogate = false := by
  rw [← Bool.not_eq_true, CodePoint.isSurrogate_eq_true_iff, joinPair]
  dsimp only
  omega

theorem units_cons (c : CodePoint) (t : Text) : units (c :: t) = unitsOfPoint c ++ units t :=
  List.flatMap_cons

theorem units_pair {high low : CodePoint} (hhigh : high.isHighSurrogate = true)
    (hlow : low.isLowSurrogate = true) (t : Text) :
    units (high :: low :: t) = [high.val, low.val] ++ units t := by
  rw [CodePoint.isHighSurrogate_eq_true_iff] at hhigh
  rw [CodePoint.isLowSurrogate_eq_true_iff] at hlow
  rw [units_cons, units_cons, unitsOfPoint_of_lt (by omega), unitsOfPoint_of_lt (by omega)]
  rfl

/-- A text that begins with a lone surrogate is not joined. -/
theorem join?_of_isLone {c : CodePoint} {t : Text} (h : IsLone none c t.head?) :
    join? (c :: t) = none := by
  have hsurrogate : c.isSurrogate = true :=
    CodePoint.isSurrogate_eq_true_iff_or.2 (h.imp And.left And.left)
  cases t with
  | nil => rw [join?, if_pos hsurrogate]
  | cons d t =>
      rcases h with ⟨hhigh, hafter⟩ | ⟨hlow, -⟩
      · rw [join?, if_pos hhigh, if_neg (by simp [hafter d rfl])]
      · rw [join?, if_neg (by simp [CodePoint.not_isHighSurrogate_of_isLowSurrogate hlow]),
          if_pos hlow]

/-! ### Texts that are joined -/

/-- A text is joined to one with the same units and without surrogates. -/
theorem isScalar_and_units_of_join? {t s : Text} (h : join? t = some s) :
    s.isScalar = true ∧ units s = units t := by
  induction t using surrogateInduction generalizing s with
  | nil =>
      obtain rfl := Option.some.inj h
      exact ⟨rfl, rfl⟩
  | scalar c t hc ih =>
      rw [join?_cons hc] at h
      obtain ⟨s, hs, rfl⟩ := Option.map_eq_some_iff.1 h
      obtain ⟨hscalar, hunits⟩ := ih hs
      rw [Text.isScalar_iff] at hscalar ⊢
      exact ⟨List.forall_mem_cons.2 ⟨hc, hscalar⟩, by rw [units_cons, units_cons, hunits]⟩
  | pair high low t hhigh hlow ih =>
      have hunitsOf := unitsOfPoint_joinPair hhigh hlow
      rw [join?_pair hunitsOf] at h
      obtain ⟨s, hs, rfl⟩ := Option.map_eq_some_iff.1 h
      obtain ⟨hscalar, hunits⟩ := ih hs
      rw [Text.isScalar_iff] at hscalar ⊢
      refine ⟨List.forall_mem_cons.2 ⟨isSurrogate_joinPair high low, hscalar⟩, ?_⟩
      rw [units_cons, hunitsOf, hunits, units_pair hhigh hlow]
  | lone c t hlone =>
      rw [join?_of_isLone hlone] at h
      cases h

/-- A code point is one unit, which is its number, or it is two, which are surrogates. -/
theorem unitsOfPoint_cases (c : CodePoint) :
    c.val < 0x10000 ∧ unitsOfPoint c = [c.val] ∨
      ∃ high low, unitsOfPoint c = [high, low] ∧ 0xD800 ≤ high ∧ high ≤ 0xDBFF ∧ 0xDC00 ≤ low ∧
        low ≤ 0xDFFF ∧ c.val = 0x10000 + (high - 0xD800) * 0x400 + (low - 0xDC00) := by
  by_cases hbasic : c.val < 0x10000
  · exact Or.inl ⟨hbasic, unitsOfPoint_of_lt hbasic⟩
  · have hlt := c.val_lt
    refine Or.inr ⟨_, _, if_neg hbasic, ?_⟩
    omega

theorem units_eq_nil_iff {t : Text} : units t = [] ↔ t = [] := by
  constructor
  · intro h
    cases t with
    | nil => rfl
    | cons c t =>
        rw [units_cons] at h
        rcases unitsOfPoint_cases c with ⟨-, hunits⟩ | ⟨high, low, hunits, -⟩
        · rw [hunits] at h
          cases h
        · rw [hunits] at h
          cases h
  · rintro rfl
    rfl

/-- A text that begins with the unit of a basic character begins with this character. -/
theorem exists_of_units_eq_cons {c : CodePoint} {t : Text} {us : List Nat}
    (hc : c.isHighSurrogate = false) (h : units t = c.val :: us) (hbasic : c.val < 0x10000) :
    ∃ t', t = c :: t' ∧ units t' = us := by
  rw [← Bool.not_eq_true, CodePoint.isHighSurrogate_eq_true_iff] at hc
  cases t with
  | nil => cases h
  | cons d t =>
      rw [units_cons] at h
      rcases unitsOfPoint_cases d with ⟨-, hd⟩ | ⟨high, low, hd, hhigh⟩
      · rw [hd, List.singleton_append, List.cons.injEq] at h
        obtain rfl := CodePoint.ext_val h.1
        exact ⟨t, rfl, h.2⟩
      · rw [hd, List.cons_append, List.cons.injEq] at h
        omega

/-- A text that begins with the two units of a character begins with the character or its halves. -/
theorem join?_of_units_eq_pair {c : CodePoint} {t : Text} {us : List Nat}
    (hc : ¬c.val < 0x10000) (h : units t = unitsOfPoint c ++ us) :
    ∃ t', units t' = us ∧ join? t = (join? t').map (c :: ·) := by
  obtain ⟨hbasic, -⟩ | ⟨high, low, hunits, hhigh⟩ := unitsOfPoint_cases c
  · exact absurd hbasic hc
  rw [hunits] at h
  cases t with
  | nil => cases h
  | cons d t =>
      rw [units_cons] at h
      rcases unitsOfPoint_cases d with ⟨-, hd⟩ | ⟨high', low', hd, hhigh'⟩
      · obtain ⟨e, rfl⟩ : ∃ e : CodePoint, e.val = low := ⟨⟨low, by omega⟩, rfl⟩
        rw [hd, List.singleton_append, List.cons_append, List.cons.injEq, List.singleton_append] at h
        have hlow : e.isHighSurrogate = false := by
          rw [← Bool.not_eq_true, CodePoint.isHighSurrogate_eq_true_iff]
          omega
        obtain ⟨t', rfl, ht'⟩ := exists_of_units_eq_cons hlow h.2 (by omega)
        exact ⟨t', ht', join?_pair (by rw [hunits, h.1]) t'⟩
      · simp only [hd, List.cons_append, List.nil_append, List.cons.injEq] at h
        obtain rfl : c = d := CodePoint.ext_val (by omega)
        refine ⟨t, h.2.2, join?_cons ?_ t⟩
        rw [← Bool.not_eq_true, CodePoint.isSurrogate_eq_true_iff]
        omega

/-- The text without surrogates that has given units is the one to which all texts with these units are
joined. -/
theorem join?_of_units_eq {s t : Text} (hs : s.isScalar = true) (h : units t = units s) :
    join? t = some s := by
  induction s generalizing t with
  | nil =>
      obtain rfl := units_eq_nil_iff.1 h
      rfl
  | cons c s ih =>
      obtain ⟨hc, hs⟩ := List.forall_mem_cons.1 (Text.isScalar_iff.1 hs)
      rw [units_cons] at h
      by_cases hbasic : c.val < 0x10000
      · rw [unitsOfPoint_of_lt hbasic, List.singleton_append] at h
        obtain ⟨t, rfl, ht⟩ :=
          exists_of_units_eq_cons (CodePoint.isSurrogate_eq_false_iff.1 hc).1 h hbasic
        rw [join?_cons hc, ih (Text.isScalar_iff.2 hs) ht, Option.map_some]
      · obtain ⟨t', ht', hjoin⟩ := join?_of_units_eq_pair hbasic h
        rw [hjoin, ih (Text.isScalar_iff.2 hs) ht', Option.map_some]

/-- **What a text is joined to** is the text with the same units and without surrogates. -/
theorem join?_eq_some_iff {s t : Text} :
    join? t = some s ↔ s.isScalar = true ∧ units t = units s := by
  constructor
  · intro h
    obtain ⟨hscalar, hunits⟩ := isScalar_and_units_of_join? h
    exact ⟨hscalar, hunits.symm⟩
  · rintro ⟨hscalar, hunits⟩
    exact join?_of_units_eq hscalar hunits

/-- Whether and how a text is joined depends on its units only. -/
theorem join?_eq_of_units_eq {s t : Text} (h : units s = units t) : join? s = join? t := by
  ext v
  rw [join?_eq_some_iff, join?_eq_some_iff, h]

/-! ### Texts that are not joined -/

theorem IsLone.of_or {before? other? : Option CodePoint} {c : CodePoint} {after? : Option CodePoint}
    (h : IsLone (before?.or other?) c after?) : IsLone before? c after? := by
  refine h.imp_right (And.imp_right fun hbefore d hd => hbefore d ?_)
  rw [Option.mem_def.1 hd, Option.some_or]
  rfl

theorem IsLone.or {before? other? : Option CodePoint} {c : CodePoint} {after? : Option CodePoint}
    (h : IsLone before? c after?) (hother : ∀ d ∈ other?, d.isHighSurrogate = false) :
    IsLone (before?.or other?) c after? := by
  refine h.imp_right (And.imp_right fun hbefore d hd => ?_)
  rcases Option.or_eq_some_iff.1 hd with hd | ⟨-, hd⟩
  · exact hbefore d hd
  · exact hother d hd

/-- A lone surrogate is still one behind a text that does not end in a high surrogate. -/
theorem HasLoneSurrogate.append_left {t : Text} (h : HasLoneSurrogate t) {s : Text}
    (hs : ∀ d ∈ s.getLast?, d.isHighSurrogate = false) : HasLoneSurrogate (s ++ t) := by
  obtain ⟨before, c, after, rfl, hlone⟩ := h
  refine ⟨s ++ before, c, after, (List.append_assoc _ _ _).symm, ?_⟩
  rw [List.getLast?_append]
  exact hlone.or hs

/-- Behind a character that is no surrogate only the rest of a text can hold a lone one. -/
theorem HasLoneSurrogate.of_cons {c : CodePoint} {t : Text} (hc : c.isSurrogate = false)
    (h : HasLoneSurrogate (c :: t)) : HasLoneSurrogate t := by
  obtain ⟨before, d, after, h, hlone⟩ := h
  cases before with
  | nil =>
      obtain ⟨rfl, -⟩ := List.cons.inj h
      rw [CodePoint.isSurrogate_eq_true_iff_or.2 (hlone.imp And.left And.left)] at hc
      cases hc
  | cons b before =>
      obtain ⟨-, rfl⟩ := List.cons.inj h
      refine ⟨before, d, after, rfl, ?_⟩
      rw [← List.singleton_append, List.getLast?_append] at hlone
      exact hlone.of_or

/-- Behind a pair only the rest of a text can hold a lone surrogate. -/
theorem HasLoneSurrogate.of_pair {high low : CodePoint} {t : Text}
    (hhigh : high.isHighSurrogate = true) (hlow : low.isLowSurrogate = true)
    (h : HasLoneSurrogate (high :: low :: t)) : HasLoneSurrogate t := by
  obtain ⟨before, d, after, ht, hlone⟩ := h
  cases before with
  | nil =>
      obtain ⟨rfl, rfl⟩ := List.cons.inj ht.symm
      rcases hlone with ⟨-, hafter⟩ | ⟨hlow', -⟩
      · rw [hafter low rfl] at hlow
        cases hlow
      · rw [CodePoint.not_isLowSurrogate_of_isHighSurrogate hhigh] at hlow'
        cases hlow'
  | cons b before =>
      obtain ⟨rfl, hrest⟩ := List.cons.inj ht.symm
      cases before with
      | nil =>
          obtain ⟨rfl, rfl⟩ := List.cons.inj hrest
          rcases hlone with ⟨hhigh', -⟩ | ⟨-, hbefore⟩
          · rw [CodePoint.not_isHighSurrogate_of_isLowSurrogate hlow] at hhigh'
            cases hhigh'
          · rw [hbefore b rfl] at hhigh
            cases hhigh
      | cons b' before =>
          obtain ⟨-, rfl⟩ := List.cons.inj hrest
          refine ⟨before, d, after, rfl, ?_⟩
          have hsplit : b :: b' :: before = [b, b'] ++ before := rfl
          rw [hsplit, List.getLast?_append] at hlone
          exact hlone.of_or

/-- **A text is not joined** exactly if a surrogate stands alone in it. -/
theorem join?_eq_none_iff {t : Text} : join? t = none ↔ HasLoneSurrogate t := by
  induction t using surrogateInduction with
  | nil =>
      constructor
      · intro h
        cases h
      · rintro ⟨before, c, after, h, -⟩
        simp at h
  | scalar c t hc ih =>
      rw [join?_cons hc, Option.map_eq_none_iff, show _ ↔ _ from ih]
      constructor
      · intro h
        refine h.append_left (s := [c]) ?_
        rintro d ⟨⟩
        exact (CodePoint.isSurrogate_eq_false_iff.1 hc).1
      · exact .of_cons hc
  | pair high low t hhigh hlow ih =>
      rw [join?_pair (unitsOfPoint_joinPair hhigh hlow), Option.map_eq_none_iff, show _ ↔ _ from ih]
      constructor
      · intro h
        refine h.append_left (s := [high, low]) ?_
        rintro d ⟨⟩
        exact CodePoint.not_isHighSurrogate_of_isLowSurrogate hlow
      · exact .of_pair hhigh hlow
  | lone c t hlone =>
      rw [join?_of_isLone hlone]
      exact iff_of_true rfl ⟨[], c, t, rfl, hlone⟩

instance (t : Text) : Decidable (HasLoneSurrogate t) := decidable_of_iff _ join?_eq_none_iff

/-! ### Joining where it is possible -/

/-- Joining keeps the units of a text. -/
theorem units_joinPairs (t : Text) : units (joinPairs t) = units t := by
  rw [joinPairs]
  cases h : join? t with
  | none => rfl
  | some s => exact (isScalar_and_units_of_join? h).2

theorem joinPairs_of_hasLoneSurrogate {t : Text} (h : HasLoneSurrogate t) : joinPairs t = t := by
  rw [joinPairs, join?_eq_none_iff.2 h, Option.getD_none]

/-- No surrogate is left in a text in which none stands alone. -/
theorem isScalar_joinPairs {t : Text} (h : ¬HasLoneSurrogate t) :
    (joinPairs t).isScalar = true := by
  obtain ⟨s, hs⟩ := Option.ne_none_iff_exists'.1 (mt join?_eq_none_iff.1 h)
  rw [joinPairs, hs, Option.getD_some]
  exact (isScalar_and_units_of_join? hs).1

theorem not_hasPair_of_isScalar {t : Text} (h : t.isScalar = true) : ¬HasPair t := by
  rintro ⟨high, low, hhigh, -, hpair⟩
  have hnot := Text.isScalar_iff.1 h high (hpair.subset List.mem_cons_self)
  rw [(CodePoint.isSurrogate_eq_false_iff.1 hnot).1] at hhigh
  cases hhigh

/-- **A pair is left** exactly if there was one and a surrogate stands alone beside it. -/
theorem hasPair_joinPairs_iff {t : Text} :
    HasPair (joinPairs t) ↔ HasPair t ∧ HasLoneSurrogate t := by
  by_cases hlone : HasLoneSurrogate t
  · rw [joinPairs_of_hasLoneSurrogate hlone, and_iff_left hlone]
  · exact iff_of_false (not_hasPair_of_isScalar (isScalar_joinPairs hlone)) fun h => hlone h.2

/-- Texts with the same units are joined to the same text, unless a surrogate stands alone in them: then
they stay what they are. -/
theorem joinPairs_eq_iff {s t : Text} (h : units s = units t) :
    joinPairs s = joinPairs t ↔ (HasLoneSurrogate t → s = t) := by
  by_cases hlone : HasLoneSurrogate t
  · have hlone' : HasLoneSurrogate s := by
      rwa [← join?_eq_none_iff, join?_eq_of_units_eq h, join?_eq_none_iff]
    rw [joinPairs_of_hasLoneSurrogate hlone, joinPairs_of_hasLoneSurrogate hlone',
      imp_iff_right hlone]
  · obtain ⟨v, hv⟩ := Option.ne_none_iff_exists'.1 (mt join?_eq_none_iff.1 hlone)
    have hsame : joinPairs s = joinPairs t := by
      rw [joinPairs, joinPairs, join?_eq_of_units_eq h, hv, Option.getD_some, Option.getD_some]
    exact iff_of_true hsame fun h => absurd h hlone

end ComponentIndex.Utf16
