/-
**Where a loop is cut.**

A loop `alias in collection` is cut at the first keyword between blanks, whatever stands before and
behind it: a keyword inside of a name is none, and of several keywords in a row the first one cuts that
has something in front of it.  Nothing of the loop but the blanks around the keyword is lost.  No surrogate
stands in a loop that is read off a file, so that the bytes of its collection are UTF-8.

Main definitions:

* `ComponentIndex.Loop.HasKeyword` — a keyword stands in a text with a blank on each side;
* `ComponentIndex.Loop.IsCut`, `ComponentIndex.Loop.IsFirstCut` — the ways to cut a text at a keyword,
  and the one with the shortest alias;
* `ComponentIndex.Loop.Expression.IsReadAs` — a loop has a given alias and collection.

Main results:

* `ComponentIndex.Loop.splitExpression?_eq_some_iff`, `ComponentIndex.Loop.splitExpression?_eq_none_iff`
  — the cut that is found;
* `ComponentIndex.Loop.IsFirstCut.of_isAlias` — an alias without a keyword is read back;
* `ComponentIndex.Loop.Expression.ofText?_exact` — **the loop that a text spells**.
-/

import ComponentIndex.Proofs.Loop.AliasList

set_option relaxedAutoImplicit false
set_option autoImplicit false

namespace ComponentIndex.Loop

/-! ### Keywords -/

/-- The words that stand between an alias and a collection. -/
def keywords : List Text := ["in", "of"]

/-- A keyword stands in the text with a blank on each side. -/
def HasKeyword (t : Text) : Prop :=
  ∃ k ∈ keywords, ∃ b b' : CodePoint, b.isBlank = true ∧ b'.isBlank = true ∧ b :: (k ++ [b']) <:+: t

/-- A run of blanks with at least one of them. -/
structure IsGap (w : Text) : Prop where
  /-- There is a blank. -/
  ne_nil : w ≠ []
  /-- There are blanks only. -/
  isBlank : w.IsBlank

/-- A text is an alias, a gap, a keyword, a gap and a collection. -/
def IsCut (t bound collection : Text) : Prop :=
  ∃ w k w', IsGap w ∧ k ∈ keywords ∧ IsGap w' ∧ t = bound ++ (w ++ (k ++ (w' ++ collection)))

/-- A text is cut at its first keyword, and nothing but blanks is lost. -/
structure IsFirstCut (t bound collection : Text) : Prop where
  /-- The text is cut at a keyword. -/
  isCut : IsCut t bound collection
  /-- No other cut has a shorter alias. -/
  shortest : ∀ bound' collection', IsCut t bound' collection' → bound.length ≤ bound'.length
  /-- There is an alias. -/
  bound_ne_nil : bound ≠ []
  /-- The alias has no blanks at its ends. -/
  isTrimmed_bound : bound.IsTrimmed
  /-- There is a collection. -/
  collection_ne_nil : collection ≠ []
  /-- The collection has no blanks at its ends. -/
  isTrimmed_collection : collection.IsTrimmed

theorem ne_nil_of_mem_keywords {k : Text} (h : k ∈ keywords) : k ≠ [] := by
  have hall : ∀ k ∈ keywords, k ≠ [] := by decide
  exact hall k h

theorem not_isBlank_of_mem_keywords {k : Text} (h : k ∈ keywords) {c : CodePoint} (hc : c ∈ k) :
    c.isBlank = false := by
  have hall : ∀ k ∈ keywords, ∀ c ∈ k, c.isBlank = false := by decide
  exact hall k h c hc

theorem stripStart_keyword {k : Text} (h : k ∈ keywords) (t : Text) :
    Text.stripStart (k ++ t) = k ++ t :=
  Text.stripStart_append_eq_self (ne_nil_of_mem_keywords h)
    (fun _ hc => not_isBlank_of_mem_keywords h (List.mem_of_head? hc)) t

/-! ### Gaps -/

theorem isGap_cons {b : CodePoint} {w : Text} (hb : b.isBlank = true) (hw : w.IsBlank) :
    IsGap (b :: w) :=
  ⟨List.cons_ne_nil _ _, List.forall_mem_cons.2 ⟨hb, hw⟩⟩

theorem IsGap.exists_cons {w : Text} (h : IsGap w) :
    ∃ b rest, w = b :: rest ∧ b.isBlank = true ∧ Text.IsBlank rest := by
  obtain ⟨b, rest, rfl⟩ := List.exists_cons_of_ne_nil h.ne_nil
  obtain ⟨hb, hrest⟩ := List.forall_mem_cons.1 h.isBlank
  exact ⟨b, rest, rfl, hb, hrest⟩

theorem IsGap.exists_concat {w : Text} (h : IsGap w) :
    ∃ rest b, w = rest ++ [b] ∧ b.isBlank = true :=
  ⟨w.dropLast, w.getLast h.ne_nil, (List.dropLast_concat_getLast h.ne_nil).symm,
    h.isBlank _ (List.getLast_mem _)⟩

/-- A text with a keyword between blanks can be cut, and no other text can. -/
theorem hasKeyword_iff_exists_isCut {t : Text} :
    HasKeyword t ↔ ∃ bound collection, IsCut t bound collection := by
  constructor
  · rintro ⟨k, hk, b, b', hb, hb', before, after, rfl⟩
    have hnil : Text.IsBlank [] := List.forall_mem_nil _
    exact ⟨before, after, [b], k, [b'], isGap_cons hb hnil, hk, isGap_cons hb' hnil, by simp⟩
  · rintro ⟨bound, collection, w, k, w', hw, hk, hw', rfl⟩
    obtain ⟨before, b, rfl, hb⟩ := hw.exists_concat
    obtain ⟨b', after, rfl, hb', -⟩ := hw'.exists_cons
    exact ⟨k, hk, b, b', hb, hb', bound ++ before, after ++ collection, by simp⟩

/-! ### What follows a keyword -/

theorem afterKeyword?_eq_some_iff {k t collection : Text} :
    afterKeyword? k t = some collection ↔
      ∃ b rest, b.isBlank = true ∧ t = k ++ b :: rest ∧ collection = Text.stripStart rest := by
  rw [afterKeyword?]
  constructor
  · intro h
    split at h
    next hprefix =>
      obtain ⟨rest, rfl⟩ := List.isPrefixOf_iff_prefix.1 hprefix
      rw [List.drop_left] at h
      split at h
      · cases h
      next b rest =>
        split at h
        next hb => exact ⟨b, rest, hb, rfl, (Option.some.inj h).symm⟩
        next => cases h
    next => cases h
  · rintro ⟨b, rest, hb, rfl, rfl⟩
    rw [if_pos (List.isPrefixOf_iff_prefix.2 (List.prefix_append _ _)), List.drop_left]
    exact if_pos hb

/-- A gap, a keyword and a gap are passed at the beginning of a text. -/
theorem collectionAfter?_of_isCut {t collection : Text} (h : IsCut t [] collection) :
    collectionAfter? t = some collection.stripStart := by
  obtain ⟨w, k, w', hw, hk, hw', rfl⟩ := h
  obtain ⟨b, rest, rfl, hb, hrest⟩ := hw.exists_cons
  obtain ⟨b', rest', rfl, hb', hrest'⟩ := hw'.exists_cons
  have hafter : afterKeyword? k (k ++ (b' :: rest' ++ collection)) = some collection.stripStart :=
    afterKeyword?_eq_some_iff.2
      ⟨b', rest' ++ collection, hb', rfl, (Text.stripStart_append hrest' collection).symm⟩
  rw [List.nil_append, List.cons_append, collectionAfter?, if_pos hb, Text.stripStart_append hrest,
    stripStart_keyword hk]
  dsimp only
  rcases List.mem_cons.1 hk with rfl | hk
  · rw [hafter, Option.some_or]
  · -- The other keyword begins with another letter.
    obtain rfl := List.mem_singleton.1 hk
    have hother : afterKeyword? "in" ("of" ++ (b' :: rest' ++ collection)) = none := rfl
    rw [hother, Option.none_or, hafter]

/-- What is found behind a keyword stands there, and does not begin with a blank. -/
theorem isCut_of_collectionAfter? {t collection : Text} (h : collectionAfter? t = some collection) :
    IsCut t [] collection ∧ ∀ c ∈ collection.head?, c.isBlank = false := by
  have hkeyword : ∃ b rest, t = b :: rest ∧ b.isBlank = true ∧
      ∃ k ∈ keywords, afterKeyword? k (Text.stripStart rest) = some collection := by
    rw [collectionAfter?.eq_def] at h
    split at h
    · cases h
    next b rest =>
      split at h
      next hb =>
        refine ⟨b, rest, rfl, hb, ?_⟩
        rcases Option.or_eq_some_iff.1 h with h | ⟨-, h⟩
        · exact ⟨_, List.mem_cons_self, h⟩
        · exact ⟨_, List.mem_cons_of_mem _ List.mem_cons_self, h⟩
      next => cases h
  obtain ⟨b, rest, rfl, hb, k, hk, hafter⟩ := hkeyword
  obtain ⟨b', rest', hb', hrest', rfl⟩ := afterKeyword?_eq_some_iff.1 hafter
  obtain ⟨w, hw, hgap⟩ := Text.exists_eq_append_stripStart rest
  obtain ⟨w', hw', hgap'⟩ := Text.exists_eq_append_stripStart rest'
  refine ⟨⟨b :: w, k, b' :: w', isGap_cons hb hw, hk, isGap_cons hb' hw', ?_⟩,
    Text.head?_stripStart rest'⟩
  rw [List.nil_append, List.cons_append, List.cons_append, ← hgap', ← hrest', ← hgap]

/-! ### The first keyword -/

theorem isCut_append_iff {before t collection : Text} :
    IsCut (before ++ t) before collection ↔ IsCut t [] collection := by
  simp only [IsCut, List.nil_append, List.append_cancel_left_eq]

theorem IsCut.exists_rest {t bound collection : Text} (h : IsCut t bound collection) :
    ∃ rest, t = bound ++ rest ∧ IsCut rest [] collection := by
  obtain ⟨w, k, w', hw, hk, hw', rfl⟩ := h
  exact ⟨_, rfl, w, k, w', hw, hk, hw', rfl⟩

theorem splitAtKeyword?_cons (before : Text) (c : CodePoint) (t : Text) :
    splitAtKeyword? before (c :: t) =
      match collectionAfter? (c :: t) with
      | some collection => some (before.reverse, collection)
      | none => splitAtKeyword? (c :: before) t := by
  rfl

/-- A text is passed without a cut if it has no keyword. -/
theorem collectionAfter?_of_splitAtKeyword?_eq_none {before t : Text}
    (h : splitAtKeyword? before t = none) {passed rest : Text} (ht : t = passed ++ rest) :
    collectionAfter? rest = none := by
  induction t generalizing before passed with
  | nil =>
      obtain ⟨rfl, rfl⟩ := List.append_eq_nil_iff.1 ht.symm
      rfl
  | cons c t ih =>
      rw [splitAtKeyword?_cons] at h
      split at h
      · cases h
      next hnone =>
        cases passed with
        | nil =>
            rw [List.nil_append] at ht
            rw [← ht, hnone]
        | cons d passed =>
            rw [List.cons_append, List.cons.injEq] at ht
            exact ih h ht.2

/-- What is passed before the cut has no place behind which a keyword follows. -/
theorem exists_of_splitAtKeyword? {before t bound collection : Text}
    (h : splitAtKeyword? before t = some (bound, collection)) :
    ∃ passed rest, t = passed ++ rest ∧ bound = before.reverse ++ passed ∧
      collectionAfter? rest = some collection ∧
      ∀ passed' rest', t = passed' ++ rest' → passed'.length < passed.length →
        collectionAfter? rest' = none := by
  induction t generalizing before with
  | nil => cases (show none = some (bound, collection) from h)
  | cons c t ih =>
      rw [splitAtKeyword?_cons] at h
      split at h
      next collection' hcollection =>
        obtain ⟨rfl, rfl⟩ := Prod.mk.inj (Option.some.inj h)
        exact ⟨[], c :: t, rfl, (List.append_nil _).symm, hcollection,
          fun _ _ _ hlength => absurd hlength (Nat.not_lt_zero _)⟩
      next hnone =>
        obtain ⟨passed, rest, rfl, rfl, hrest, hfirst⟩ := ih h
        refine ⟨c :: passed, rest, rfl, by simp, hrest, ?_⟩
        intro passed' rest' ht hlength
        cases passed' with
        | nil =>
            rw [List.nil_append] at ht
            rw [← ht, hnone]
        | cons d passed' =>
            rw [List.cons_append, List.cons.injEq] at ht
            exact hfirst passed' rest' ht.2 (Nat.lt_of_succ_lt_succ hlength)

/-- A text is cut if it has a keyword. -/
theorem splitAtKeyword?_eq_none_iff {t : Text} : splitAtKeyword? [] t = none ↔ ¬HasKeyword t := by
  rw [hasKeyword_iff_exists_isCut]
  constructor
  · rintro hnone ⟨bound, collection, hcut⟩
    obtain ⟨rest, ht, hrest⟩ := hcut.exists_rest
    have hsome := collectionAfter?_of_isCut hrest
    rw [collectionAfter?_of_splitAtKeyword?_eq_none hnone ht] at hsome
    cases hsome
  · intro hcut
    rw [Option.eq_none_iff_forall_ne_some]
    rintro ⟨bound, collection⟩ hsome
    obtain ⟨passed, rest, rfl, -, hrest, -⟩ := exists_of_splitAtKeyword? hsome
    exact hcut ⟨passed, collection, isCut_append_iff.2 (isCut_of_collectionAfter? hrest).1⟩

instance (t : Text) : Decidable (HasKeyword t) :=
  decidable_of_iff (splitAtKeyword? [] t ≠ none) (by rw [ne_eq, splitAtKeyword?_eq_none_iff, not_not])

/-- The shortest cut of a stripped text loses nothing but blanks. -/
theorem IsFirstCut.of_shortest {t bound collection : Text} (ht : t.IsTrimmed)
    (hcut : IsCut t bound collection) (hhead : ∀ c ∈ collection.head?, c.isBlank = false)
    (hshortest : ∀ bound' collection', IsCut t bound' collection' →
      bound.length ≤ bound'.length) : IsFirstCut t bound collection := by
  obtain ⟨w, k, w', hw, hk, hw', rfl⟩ := id hcut
  have hbound : bound ≠ [] := by
    rintro rfl
    obtain ⟨b, rest, rfl, hb, -⟩ := hw.exists_cons
    have hnot : b.isBlank = false := ht.head b rfl
    rw [hb] at hnot
    cases hnot
  have hcollection : collection ≠ [] := by
    rintro rfl
    obtain ⟨rest, b, rfl, hb⟩ := hw'.exists_concat
    have hnot : b.isBlank = false := ht.last b (by simp)
    rw [hb] at hnot
    cases hnot
  refine ⟨hcut, hshortest, hbound, ⟨?_, ?_⟩, hcollection, hhead, ?_⟩
  · intro c hc
    refine ht.head c ?_
    rw [Option.mem_def, List.head?_append, hc, Option.some_or]
  · -- A blank at the end of the alias could as well begin the gap behind it.
    intro c hc
    obtain ⟨shorter, rfl⟩ := List.getLast?_eq_some_iff.1 hc
    rw [← Bool.not_eq_true]
    intro hblank
    have hlength := hshortest shorter collection
      ⟨c :: w, k, w', isGap_cons hblank hw.isBlank, hk, hw', by simp⟩
    rw [List.length_append, List.length_singleton] at hlength
    omega
  · intro c hc
    refine ht.last c ?_
    simp only [Option.mem_def, List.getLast?_append] at hc ⊢
    rw [hc]
    rfl

/-- The place at which a stripped text is cut is that of its first keyword. -/
theorem isFirstCut_of_splitAtKeyword? {t bound collection : Text} (ht : t.IsTrimmed)
    (h : splitAtKeyword? [] t = some (bound, collection)) : IsFirstCut t bound collection := by
  obtain ⟨passed, rest, rfl, hbound, hrest, hfirst⟩ := exists_of_splitAtKeyword? h
  obtain rfl : bound = passed := hbound
  obtain ⟨hcut, hhead⟩ := isCut_of_collectionAfter? hrest
  refine .of_shortest ht (isCut_append_iff.2 hcut) hhead fun bound' collection' hcut' => ?_
  by_contra hlength
  obtain ⟨rest', ht', hrest'⟩ := hcut'.exists_rest
  have hsome := collectionAfter?_of_isCut hrest'
  rw [hfirst bound' rest' ht' (Nat.lt_of_not_le hlength)] at hsome
  cases hsome

/-- A text has one first cut. -/
theorem IsFirstCut.unique {t bound collection bound' collection' : Text}
    (h : IsFirstCut t bound collection) (h' : IsFirstCut t bound' collection') :
    bound = bound' ∧ collection = collection' := by
  obtain ⟨rest, ht, hrest⟩ := h.isCut.exists_rest
  obtain ⟨rest', ht', hrest'⟩ := h'.isCut.exists_rest
  have hlength : bound.length = bound'.length :=
    Nat.le_antisymm (h.shortest _ _ h'.isCut) (h'.shortest _ _ h.isCut)
  obtain ⟨rfl, rfl⟩ := List.append_inj (ht.symm.trans ht') hlength
  have hfound := collectionAfter?_of_isCut hrest
  rw [collectionAfter?_of_isCut hrest', Text.stripStart_eq_self h.isTrimmed_collection.head,
    Text.stripStart_eq_self h'.isTrimmed_collection.head] at hfound
  exact ⟨rfl, (Option.some.inj hfound).symm⟩

theorem splitExpression?_eq (t : Text) : splitExpression? t = splitAtKeyword? [] t.strip := by
  rw [splitExpression?]
  cases hsplit : splitAtKeyword? [] t.strip with
  | none => rfl
  | some parts =>
      have hcut : IsFirstCut t.strip parts.1 parts.2 :=
        isFirstCut_of_splitAtKeyword? t.isTrimmed_strip hsplit
      change some (parts.1.strip, parts.2.strip) = some parts
      rw [hcut.isTrimmed_bound.strip_eq, hcut.isTrimmed_collection.strip_eq]

/-- A text without a keyword between blanks is no loop. -/
theorem splitExpression?_eq_none_iff {t : Text} :
    splitExpression? t = none ↔ ¬HasKeyword t.strip := by
  rw [splitExpression?_eq, splitAtKeyword?_eq_none_iff]

/-- A loop is cut at its first keyword. -/
theorem splitExpression?_eq_some_iff {t bound collection : Text} :
    splitExpression? t = some (bound, collection) ↔ IsFirstCut t.strip bound collection := by
  constructor
  · intro h
    exact isFirstCut_of_splitAtKeyword? t.isTrimmed_strip (splitExpression?_eq t ▸ h)
  · intro h
    have hkeyword : HasKeyword t.strip := hasKeyword_iff_exists_isCut.2 ⟨_, _, h.isCut⟩
    obtain ⟨⟨bound', collection'⟩, hsplit⟩ :=
      Option.ne_none_iff_exists'.1 (mt splitAtKeyword?_eq_none_iff.1 (not_not_intro hkeyword))
    obtain ⟨rfl, rfl⟩ := h.unique (isFirstCut_of_splitAtKeyword? t.isTrimmed_strip hsplit)
    rw [splitExpression?_eq, hsplit]

/-! ### Aliases without a keyword -/

/-- A text that can be the alias of a loop: it is stripped and not empty, and no keyword stands in it
between blanks even with a blank behind it. -/
structure IsAlias (bound : Text) : Prop where
  /-- There is something. -/
  ne_nil : bound ≠ []
  /-- There are no blanks at its ends. -/
  isTrimmed : bound.IsTrimmed
  /-- There is no keyword, and none at its end. -/
  not_hasKeyword : ∃ b : CodePoint, b.isBlank = true ∧ ¬HasKeyword (bound ++ [b])

theorem HasKeyword.append_left {t : Text} (h : HasKeyword t) (before : Text) :
    HasKeyword (before ++ t) := by
  obtain ⟨k, hk, b, b', hb, hb', hinfix⟩ := h
  exact ⟨k, hk, b, b', hb, hb', hinfix.trans (List.suffix_append _ _).isInfix⟩

theorem HasKeyword.append_right {t : Text} (h : HasKeyword t) (after : Text) :
    HasKeyword (t ++ after) := by
  obtain ⟨k, hk, b, b', hb, hb', hinfix⟩ := h
  exact ⟨k, hk, b, b', hb, hb', hinfix.trans (List.prefix_append _ _).isInfix⟩

/-- A text that begins with a gap and goes on with a keyword, and does not end with a blank, reaches into
the keyword. -/
theorem exists_core_of_append {a rest w k tail : Text} (hne : a ≠ [])
    (hlast : ∀ c ∈ a.getLast?, c.isBlank = false) (hw : IsGap w) (hk : k ∈ keywords)
    (h : a ++ rest = w ++ (k ++ tail)) :
    ∃ blanks core, IsGap blanks ∧ a = blanks ++ core ∧ core ≠ [] ∧ core ++ rest = k ++ tail := by
  obtain ⟨blanks, hblanks, ha⟩ := Text.exists_eq_append_stripStart a
  have hhead := Text.head?_stripStart a
  generalize Text.stripStart a = core at ha hhead
  subst ha
  have hcore : core ≠ [] := by
    rintro rfl
    rw [List.append_nil] at hne hlast
    have hnot := hlast _ (List.getLast?_eq_some_getLast hne)
    rw [hblanks _ (List.getLast_mem hne)] at hnot
    cases hnot
  have hkeyword : core ++ rest = k ++ tail := by
    have hstrip := congrArg Text.stripStart h
    rwa [List.append_assoc, Text.stripStart_append hblanks,
      Text.stripStart_append_eq_self hcore hhead, Text.stripStart_append hw.isBlank,
      stripStart_keyword hk] at hstrip
  refine ⟨blanks, core, ⟨?_, hblanks⟩, rfl, hcore, hkeyword⟩
  rintro rfl
  rw [List.nil_append, hkeyword, List.self_eq_append_left] at h
  exact hw.ne_nil h

/-- Before a gap stands the whole keyword, or more than the keyword and a blank. -/
theorem eq_or_exists_of_keyword_append {core gap rest k w' after : Text} (hne : core ≠ [])
    (hgap : IsGap gap) (hk : k ∈ keywords) (hw' : IsGap w')
    (h : core ++ (gap ++ rest) = k ++ (w' ++ after)) :
    core = k ∨ ∃ b more, b.isBlank = true ∧ core = k ++ b :: more := by
  obtain ⟨g, gap', rfl, hg, -⟩ := hgap.exists_cons
  obtain ⟨b, w', rfl, hb, -⟩ := hw'.exists_cons
  rcases List.append_eq_append_iff.1 h with ⟨letters, rfl, hletters⟩ | ⟨more, rfl, hmore⟩
  · cases letters with
    | nil => exact Or.inl (List.append_nil _).symm
    | cons c letters =>
        -- The gap would begin inside of the keyword.
        obtain rfl : g = c := (List.cons.inj hletters).1
        rw [not_isBlank_of_mem_keywords hk (by simp)] at hg
        cases hg
  · cases more with
    | nil => exact Or.inl (List.append_nil _)
    | cons c more =>
        obtain rfl : b = c := (List.cons.inj hmore).1
        exact Or.inr ⟨b, more, hb, rfl⟩

/-- If a text with a gap behind it begins with a gap, a keyword and a gap, the keyword stands in the text
or at its end. -/
theorem hasKeyword_concat_of_append {a gap rest w k w' after : Text} {b : CodePoint} (hne : a ≠ [])
    (hlast : ∀ c ∈ a.getLast?, c.isBlank = false) (hgap : IsGap gap) (hb : b.isBlank = true)
    (hw : IsGap w) (hk : k ∈ keywords) (hw' : IsGap w')
    (h : a ++ (gap ++ rest) = w ++ (k ++ (w' ++ after))) : HasKeyword (a ++ [b]) := by
  obtain ⟨blanks, core, hblanks, rfl, hcore, hkeyword⟩ := exists_core_of_append hne hlast hw hk h
  obtain ⟨before, b₀, rfl, hb₀⟩ := hblanks.exists_concat
  rcases eq_or_exists_of_keyword_append hcore hgap hk hw' hkeyword with rfl | ⟨b', more, hb', rfl⟩
  · exact ⟨core, hk, b₀, b, hb₀, hb, before, [], by simp⟩
  · exact ⟨k, hk, b₀, b', hb₀, hb', before, more ++ [b], by simp⟩

/-- An alias without a keyword, any keyword and a collection are read back. -/
theorem IsFirstCut.of_isAlias {bound w k w' collection : Text} (hbound : IsAlias bound)
    (hw : IsGap w) (hk : k ∈ keywords) (hw' : IsGap w') (hne : collection ≠ [])
    (hcollection : collection.IsTrimmed) :
    IsFirstCut (bound ++ (w ++ (k ++ (w' ++ collection)))) bound collection := by
  refine ⟨⟨w, k, w', hw, hk, hw', rfl⟩, ?_, hbound.ne_nil, hbound.isTrimmed, hne, hcollection⟩
  rintro bound' collection' ⟨w₁, k₁, w₁', hw₁, hk₁, hw₁', h⟩
  by_contra hlength
  obtain ⟨rest, rfl⟩ : bound' <+: bound :=
    List.prefix_of_prefix_length_le ⟨_, h.symm⟩ ⟨_, rfl⟩ (Nat.le_of_not_le hlength)
  have hrest : rest ≠ [] := by
    rintro rfl
    exact hlength (by rw [List.append_nil])
  have hlast : ∀ c ∈ rest.getLast?, c.isBlank = false := by
    intro c hc
    refine hbound.isTrimmed.last c ?_
    rw [Option.mem_def, List.getLast?_append, hc, Option.some_or]
  obtain ⟨b, hb, hkeyword⟩ := hbound.not_hasKeyword
  rw [List.append_assoc, List.append_cancel_left_eq] at h
  refine hkeyword ?_
  rw [List.append_assoc]
  exact (hasKeyword_concat_of_append hrest hlast hw hb hw₁ hk₁ hw₁' h).append_left bound'

/-! ### The loop that is read -/

namespace Expression

theorem map_name_bindersFrom (id : Nat) (names : List Text) :
    (bindersFrom id names).map Binder.name = names := by
  induction names generalizing id with
  | nil => rfl
  | cons name names ih => rw [bindersFrom, List.map_cons, ih]

/-- An alias in parentheses is a list. -/
theorem aliasList?_eq_some_iff {bound list : Text} :
    aliasList? bound = some list ↔
      bound = ('(' : CodePoint) :: (list ++ [(')' : CodePoint)]) := by
  rw [aliasList?]
  constructor
  · intro h
    split at h
    next hends =>
      rw [Bool.and_eq_true, decide_eq_true_eq, decide_eq_true_eq] at hends
      obtain ⟨rest, rfl⟩ := List.head?_eq_some_iff.1 hends.1
      cases rest with
      | nil => exact absurd hends.2 (by decide)
      | cons c rest =>
          rw [List.getLast?_cons_cons] at hends
          obtain ⟨inner, hinner⟩ := List.getLast?_eq_some_iff.1 hends.2
          rw [hinner, List.drop_one, List.tail_cons, List.dropLast_concat] at h
          rw [hinner, Option.some.inj h]
    next => cases h
  · rintro rfl
    have hlast : (('(' : CodePoint) :: (list ++ [(')' : CodePoint)])).getLast? =
        some (')' : CodePoint) := by
      rw [← List.cons_append, List.getLast?_concat]
    rw [hlast, List.head?_cons, List.drop_one, List.tail_cons, List.dropLast_concat]
    rfl

theorem namesOf_of_aliasList? {bound list : Text} (h : aliasList? bound = some list) :
    namesOf bound = splitAliases list := by
  rw [namesOf, h]

/-- An alias that is no list in parentheses is the only name. -/
theorem namesOf_of_not_aliasList? {bound : Text} (h : aliasList? bound = none) (hne : bound ≠ []) :
    namesOf bound = [bound] := by
  rw [namesOf, h]
  exact if_neg hne

/-- Only a list of commas and blanks in parentheses has no name. -/
theorem namesOf_eq_nil_iff {bound : Text} (hne : bound ≠ []) :
    namesOf bound = [] ↔
      ∃ list, bound = ('(' : CodePoint) :: (list ++ [(')' : CodePoint)]) ∧ IsSeparating list := by
  simp only [← aliasList?_eq_some_iff]
  cases hlist : aliasList? bound with
  | none => simp [namesOf_of_not_aliasList? hlist hne]
  | some list => simp [namesOf_of_aliasList? hlist, splitAliases_eq_nil_iff]

section

variable [Parsers]

/-- A loop that is spelled by a text has a given alias and a given collection. -/
structure IsReadAs (e : Expression) (t bound collection : Text) : Prop where
  /-- The text of the loop. -/
  text_eq : e.text = t
  /-- The text of its collection. -/
  collectionText_eq : e.collectionText = collection
  /-- The collection is always read as a script, in parentheses, by whatever parser is in use. -/
  collection?_eq : e.collection? = some (Parsers.script (Utf8.encode (collectionSource collection)))
  /-- The alias is a list if it stands in parentheses. -/
  hasAliasList_eq : e.hasAliasList = (aliasList? bound).isSome
  /-- The variables have the names that the alias binds. -/
  names_eq : e.binders.map Binder.name = namesOf bound
  /-- There is no variable only if nothing but commas and blanks stands between parentheses. -/
  binders_eq_nil_iff : e.binders = [] ↔
    ∃ list, bound = ('(' : CodePoint) :: (list ++ [(')' : CodePoint)]) ∧ IsSeparating list

theorem isReadAs_ofParts {t bound collection : Text} (hbound : bound ≠ [])
    (hcollection : collection ≠ []) :
    (ofParts t bound collection).IsReadAs t bound collection where
  text_eq := rfl
  collectionText_eq := rfl
  collection?_eq := if_neg hcollection
  hasAliasList_eq := rfl
  names_eq := map_name_bindersFrom 0 _
  binders_eq_nil_iff := by
    rw [← namesOf_eq_nil_iff hbound, ← map_name_bindersFrom 0 (namesOf bound), List.map_eq_nil_iff]
    rfl

theorem exists_ofText?_of_isFirstCut {t bound collection : Text}
    (h : IsFirstCut t.strip bound collection) :
    ∃ e, ofText? t = some e ∧ e.IsReadAs t bound collection := by
  refine ⟨ofParts t bound collection, ?_, isReadAs_ofParts h.bound_ne_nil h.collection_ne_nil⟩
  rw [ofText?, splitExpression?_eq_some_iff.2 h, Option.map_some]

/-- The loop of an alias without a keyword, any keyword and a collection. -/
theorem exists_ofText?_of_isAlias {bound w k w' collection : Text} (hbound : IsAlias bound)
    (hw : IsGap w) (hk : k ∈ keywords) (hw' : IsGap w') (hne : collection ≠ [])
    (hcollection : collection.IsTrimmed) :
    ∃ e, ofText? (bound ++ (w ++ (k ++ (w' ++ collection)))) = some e ∧
      e.IsReadAs (bound ++ (w ++ (k ++ (w' ++ collection)))) bound collection := by
  refine exists_ofText?_of_isFirstCut ?_
  have hstrip := (Text.isTrimmed_append hbound.isTrimmed hbound.ne_nil hcollection hne
    (w ++ (k ++ w'))).strip_eq
  simp only [List.append_assoc] at hstrip
  rw [hstrip]
  exact .of_isAlias hbound hw hk hw' hne hcollection

/-- **The loop that a text spells**: a text without a keyword between blanks spells none; any other one
is cut at its first keyword, with nothing lost but the blanks at the cut; and an alias without a keyword,
any keyword and a collection are read back, whatever blanks stand between them. A text is cut in this way even
if a surrogate occurs in it; then the collection has no bytes of its own, but no file spells such a loop
(`decode?_collectionSource_of_mem_findLoops`). -/
theorem ofText?_exact (t : Text) :
    (ofText? t = none ↔ ¬HasKeyword t.strip) ∧
      (HasKeyword t.strip → ∃ bound collection e, IsFirstCut t.strip bound collection ∧
        ofText? t = some e ∧ e.IsReadAs t bound collection) ∧
      ∀ bound w k w' collection : Text, IsAlias bound → IsGap w → k ∈ keywords → IsGap w' →
        collection ≠ [] → collection.IsTrimmed → t = bound ++ (w ++ (k ++ (w' ++ collection))) →
          ∃ e, ofText? t = some e ∧ e.IsReadAs t bound collection := by
  refine ⟨?_, ?_, ?_⟩
  · rw [ofText?, Option.map_eq_none_iff, splitExpression?_eq_none_iff]
  · intro hkeyword
    obtain ⟨⟨bound, collection⟩, hsplit⟩ :=
      Option.ne_none_iff_exists'.1 (mt splitExpression?_eq_none_iff.1 (not_not_intro hkeyword))
    have hcut := splitExpression?_eq_some_iff.1 hsplit
    obtain ⟨e, he, hread⟩ := exists_ofText?_of_isFirstCut hcut
    exact ⟨bound, collection, e, hcut, he, hread⟩
  · rintro bound w k w' collection hbound hw hk hw' hne hcollection rfl
    exact exists_ofText?_of_isAlias hbound hw hk hw' hne hcollection

end

/-- Of two keywords in a row the first one cuts, unless it is itself the alias. -/
theorem ofText?_exact_adjacentKeywords :
    (HasKeyword (Text.strip " x in in y ") ∧ ∃ bound collection e,
      IsFirstCut (Text.strip " x in in y ") bound collection ∧
        ofText? " x in in y " = some e ∧ e.IsReadAs " x in in y " bound collection) ∧
      IsAlias "in" ∧ ∃ e, ofText? "in\tof\n\u3000of of" = some e ∧
        e.IsReadAs "in\tof\n\u3000of of" "in" "of of" := by
  have hkeyword : HasKeyword (Text.strip " x in in y ") := by decide
  have halias : IsAlias "in" := ⟨by decide, by decide, ' ', by decide, by decide⟩
  refine ⟨⟨hkeyword, (ofText?_exact " x in in y ").2.1 hkeyword⟩, halias, ?_⟩
  exact (ofText?_exact _).2.2 "in" "\t" "of" "\n\u3000" "of of" halias ⟨by decide, by decide⟩
    (by decide) ⟨by decide, by decide⟩ (by decide) (by decide) rfl

end Expression

end ComponentIndex.Loop
