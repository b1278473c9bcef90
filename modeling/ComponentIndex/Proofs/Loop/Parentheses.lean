/-
**Parentheses around an alias list.**

Parentheses decide whether an alias is split: an alias in parentheses binds the aliases of its list, and
an alias without them binds one variable, even if commas stand in it outside of brackets.  So the
parentheses of a loop can be left out exactly where the list is not cut.

Main results:

* `ComponentIndex.Loop.IsAlias.parenthesized` — an alias is still one in parentheses;
* `ComponentIndex.Loop.Expression.names_parenthesized` — **the variables of a loop with and without
  parentheses** around its alias;
* `ComponentIndex.Loop.Expression.names_bareList` — a list without parentheses is one variable.
-/

import ComponentIndex.Proofs.Loop.Keyword

set_option relaxedAutoImplicit false
set_option autoImplicit false

namespace ComponentIndex.Loop

/-- No keyword begins with a code point that is no blank. -/
theorem HasKeyword.of_cons {c : CodePoint} {t : Text} (hc : c.isBlank = false)
    (h : HasKeyword (c :: t)) : HasKeyword t := by
  obtain ⟨k, hk, b, b', hb, hb', hinfix⟩ := h
  rcases List.infix_cons_iff.1 hinfix with hprefix | hinfix
  · obtain ⟨rfl, -⟩ := List.cons_prefix_cons.1 hprefix
    rw [hc] at hb
    cases hb
  · exact ⟨k, hk, b, b', hb, hb', hinfix⟩

/-- A keyword of a text and one more code point stands in the text, or at its end before a blank. -/
theorem HasKeyword.of_concat {t : Text} {c : CodePoint} (h : HasKeyword (t ++ [c])) :
    HasKeyword t ∨
      c.isBlank = true ∧ ∃ k ∈ keywords, ∃ b : CodePoint, b.isBlank = true ∧ b :: k <:+ t := by
  obtain ⟨k, hk, b, b', hb, hb', hinfix⟩ := h
  rcases List.infix_concat_iff.1 hinfix with hsuffix | hinfix
  · rcases List.suffix_concat_iff.1 hsuffix with hnil | ⟨s, hs, hst⟩
    · cases hnil
    · rw [← List.cons_append] at hs
      obtain ⟨rfl, hlast⟩ := List.append_inj' hs rfl
      obtain rfl : b' = c := List.singleton_inj.1 hlast
      exact Or.inr ⟨hb', k, hk, b, hb, hst⟩
  · exact Or.inl ⟨k, hk, b, b', hb, hb', hinfix⟩

/-- A keyword in parentheses stands between them. -/
theorem HasKeyword.of_parenthesized {bound : Text} {b : CodePoint}
    (h : HasKeyword (('(' : CodePoint) :: (bound ++ [(')' : CodePoint)]) ++ [b])) :
    HasKeyword bound := by
  have hopen : CodePoint.isBlank '(' = false := by decide
  have hclose : CodePoint.isBlank ')' = false := by decide
  have hletter : ∀ k ∈ keywords, (')' : CodePoint) ∉ k := by decide
  rw [← List.cons_append] at h
  rcases h.of_concat with h | ⟨-, k, hk, b', hb', hsuffix⟩
  · rcases h.of_concat with h | ⟨hblank, -⟩
    · exact h.of_cons hopen
    · rw [hclose] at hblank
      cases hblank
  · -- The closing parenthesis would be the last letter of a keyword.
    rcases List.suffix_concat_iff.1 hsuffix with hnil | ⟨s, hs, -⟩
    · cases hnil
    · have hmem : (')' : CodePoint) ∈ b' :: k := by
        rw [hs]
        exact List.mem_concat_self
      rcases List.mem_cons.1 hmem with rfl | hmem
      · rw [hclose] at hb'
        cases hb'
      · exact absurd hmem (hletter k hk)

/-- An alias is still one in parentheses. -/
theorem IsAlias.parenthesized {bound : Text} (h : IsAlias bound) :
    IsAlias (('(' : CodePoint) :: (bound ++ [(')' : CodePoint)])) := by
  obtain ⟨b, hb, hkeyword⟩ := h.not_hasKeyword
  refine ⟨List.cons_ne_nil _ _, ⟨?_, ?_⟩, b, hb, fun hparen => hkeyword ?_⟩
  · rintro c ⟨⟩
    decide
  · rw [← List.cons_append, List.getLast?_concat]
    rintro c ⟨⟩
    decide
  · exact hparen.of_parenthesized.append_right [b]

namespace Expression

/-- The variables of a loop whose alias has no keyword have the names that the alias binds. -/
theorem exists_names_of_isAlias [Parsers] {bound collection : Text} (hbound : IsAlias bound)
    (hne : collection ≠ []) (hcollection : collection.IsTrimmed) :
    ∃ e, ofText? (bound ++ (" in " ++ collection)) = some e ∧
      e.binders.map Binder.name = namesOf bound := by
  have hgap : IsGap " " := ⟨by decide, by decide⟩
  obtain ⟨e, he, hread⟩ :=
    exists_ofText?_of_isAlias hbound hgap List.mem_cons_self hgap hne hcollection
  exact ⟨e, he, hread.names_eq⟩

theorem aliasList?_parenthesized (list : Text) :
    aliasList? (('(' : CodePoint) :: (list ++ [(')' : CodePoint)])) = some list :=
  aliasList?_eq_some_iff.2 rfl

theorem aliasList?_of_head?_ne {bound : Text} (h : bound.head? ≠ some ('(' : CodePoint)) :
    aliasList? bound = none := by
  rw [Option.eq_none_iff_forall_ne_some]
  rintro list hlist
  exact h (aliasList?_eq_some_iff.1 hlist ▸ rfl)

/-- **The variables of a loop with and without parentheses** around its alias: in parentheses the alias
is split, and without them it is one variable.  The two loops bind the same names, and the same name
first, exactly if no comma of the alias stands outside of brackets.  As for all loops, the collections of
those that a file spells hold no surrogate (`decode?_collectionSource_of_mem_findLoops`). -/
theorem names_parenthesized [Parsers] {bound collection : Text} (hbound : IsAlias bound)
    (hopen : bound.head? ≠ some ('(' : CodePoint)) (hne : collection ≠ [])
    (hcollection : collection.IsTrimmed) :
    ∃ e e', ofText? (bound ++ (" in " ++ collection)) = some e ∧
      ofText? (('(' : CodePoint) :: (bound ++ [(')' : CodePoint)]) ++ (" in " ++ collection)) =
        some e' ∧
      e.binders.map Binder.name = [bound] ∧ e'.binders.map Binder.name = splitAliases bound ∧
      (e.binders.map Binder.name = e'.binders.map Binder.name ↔ ¬HasSeparator bound) ∧
      (e.binders.head?.map Binder.name = e'.binders.head?.map Binder.name ↔
        ¬HasSeparator bound) := by
  obtain ⟨e, he, hnames⟩ := exists_names_of_isAlias hbound hne hcollection
  obtain ⟨e', he', hnames'⟩ := exists_names_of_isAlias hbound.parenthesized hne hcollection
  rw [namesOf_of_not_aliasList? (aliasList?_of_head?_ne hopen) hbound.ne_nil] at hnames
  rw [namesOf_of_aliasList? (aliasList?_parenthesized bound)] at hnames'
  have hself := splitAliases_eq_self_iff hbound.isTrimmed hbound.ne_nil
  refine ⟨e, e', he, he', hnames, hnames', ?_, ?_⟩
  · rw [hnames, hnames', eq_comm, hself]
  · rw [← List.head?_map, ← List.head?_map, hnames, hnames', List.head?_cons]
    constructor
    · intro hhead
      exact not_hasSeparator_of_mem_splitAliases (List.mem_of_head? hhead.symm)
    · intro hsep
      rw [hself.2 hsep, List.head?_cons]

/-- A pattern in braces is one variable either way. -/
theorem names_parenthesized_pattern :
    IsAlias "\x7b id, label \x7d" ∧ ¬HasSeparator "\x7b id, label \x7d" ∧
      ∃ e e', ofText? "\x7b id, label \x7d in items" = some e ∧
        ofText? "(\x7b id, label \x7d) in items" = some e' ∧
        e.binders.map Binder.name = e'.binders.map Binder.name := by
  have halias : IsAlias "\x7b id, label \x7d" :=
    ⟨by decide, by decide, ' ', by decide, by decide⟩
  have hsep : ¬HasSeparator "\x7b id, label \x7d" := by decide
  have hcollection : Text.IsTrimmed "items" := by decide
  obtain ⟨e, e', he, he', -, -, hsame, -⟩ :=
    names_parenthesized halias (by decide) (by decide) hcollection
  exact ⟨halias, hsep, e, e', he, he', hsame.2 hsep⟩

/-- A list without parentheses is one variable, and in parentheses it is two. -/
theorem names_bareList :
    IsAlias "item, index" ∧ Text.IsTrimmed "items" ∧
      ∃ e e', ofText? "item, index in items" = some e ∧
        ofText? "(item, index) in items" = some e' ∧
        e.binders.map Binder.name = [("item, index" : Text)] ∧
        e'.binders.map Binder.name = [("item" : Text), ("index" : Text)] ∧
        splitAliases "item, index" = [("item" : Text), ("index" : Text)] ∧
        e.binders.map Binder.name ≠ e'.binders.map Binder.name := by
  have halias : IsAlias "item, index" := ⟨by decide, by decide, ' ', by decide, by decide⟩
  have hcollection : Text.IsTrimmed "items" := by decide
  obtain ⟨e, he, hnames⟩ := exists_names_of_isAlias halias (by decide) hcollection
  obtain ⟨e', he', hnames'⟩ := exists_names_of_isAlias halias.parenthesized (by decide) hcollection
  refine ⟨halias, hcollection, e, e', he, he', hnames, hnames', by decide, ?_⟩
  rw [hnames, hnames']
  decide

end Expression

end ComponentIndex.Loop
