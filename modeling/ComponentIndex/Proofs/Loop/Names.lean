/-
**What a loop names is part of its text.**

The names that a loop binds and its collection are cut out of its text, and the types of elements are fixed
words.  So if no surrogate occurs in the text of a loop, as in everything that a file spells, none occurs in
its record, and the collection has bytes from which it can be read again.

Main results:

* `ComponentIndex.Loop.Expression.name_subset` — a name is part of the text of its loop;
* `ComponentIndex.Loop.Expression.decode?_collectionSource_of_mem_findLoops` — **collections** are read as
  they are spelled;
* `ComponentIndex.Loop.isScalar_of_hasElementType` — the types of elements;
* `ComponentIndex.LoopType.isSpelledIn_of_mem_loopTypes` — **the record of a loop** holds no surrogate.
-/

import ComponentIndex.Proofs.Loop.Keyword
import ComponentIndex.Proofs.Loop.Template
import ComponentIndex.Proofs.Parsers
import ComponentIndex.Proofs.Text.Order
import ComponentIndex.Proofs.Text.Utf8

set_option relaxedAutoImplicit false
set_option autoImplicit false

namespace ComponentIndex

namespace Loop

/-! ### Names and collections -/

/-- Alias and collection of a loop are parts of its text. -/
theorem splitExpression?_subset {t bound collection : Text}
    (h : splitExpression? t = some (bound, collection)) : bound ⊆ t ∧ collection ⊆ t := by
  obtain ⟨w, k, w', -, -, -, hcut⟩ := (splitExpression?_eq_some_iff.1 h).isCut
  have hstrip : t.strip ⊆ t := t.strip_infix.subset
  simp only [hcut, List.append_subset] at hstrip
  exact ⟨hstrip.1, hstrip.2.2.2.2⟩

namespace Expression

theorem namesOf_subset {bound name : Text} (h : name ∈ namesOf bound) : name ⊆ bound := by
  cases hlist : aliasList? bound with
  | some list =>
      rw [namesOf_of_aliasList? hlist] at h
      obtain rfl := aliasList?_eq_some_iff.1 hlist
      have hinner : list ⊆ ('(' : CodePoint) :: (list ++ [(')' : CodePoint)]) :=
        fun c hc => List.mem_cons_of_mem _ (List.mem_append_left _ hc)
      exact fun c hc => hinner ((infix_of_mem_splitAliases h).subset hc)
  | none =>
      by_cases hnil : bound = []
      · subst hnil
        cases h
      · rw [namesOf_of_not_aliasList? hlist hnil] at h
        obtain rfl := List.mem_singleton.1 h
        exact List.Subset.refl _

/-- The name of a variable is part of the text of its loop. -/
theorem name_subset [Parsers] {text : Text} {e : Expression} (h : ofText? text = some e) {b : Binder}
    (hb : b ∈ e.binders) : b.name ⊆ text := by
  obtain ⟨⟨bound, collection⟩, hsplit, rfl⟩ := Option.map_eq_some_iff.1 h
  have hname : b.name ∈ namesOf bound :=
    map_name_bindersFrom 0 (namesOf bound) ▸ List.mem_map_of_mem hb
  exact fun c hc => (splitExpression?_subset hsplit).1 (namesOf_subset hname hc)

/-- If no surrogate occurs in the text of a loop, the bytes of its collection, in parentheses, are read as
that collection. -/
theorem decode?_collectionSource [Parsers] {text : Text} {e : Expression} (ht : text.isScalar = true)
    (h : ofText? text = some e) :
    Utf8.decode? (Utf8.encode (collectionSource e.collectionText)) =
      some (collectionSource e.collectionText) := by
  obtain ⟨⟨bound, collection⟩, hsplit, rfl⟩ := Option.map_eq_some_iff.1 h
  have hcollection : collection.isScalar = true :=
    Text.isScalar_of_subset (splitExpression?_subset hsplit).2 ht
  rw [Text.isScalar_iff] at hcollection
  rw [Utf8.decode?_encode_iff, Text.isScalar_iff, collectionSource, List.cons_append,
    List.forall_mem_cons, List.forall_mem_append]
  exact ⟨CodePoint.isSurrogate_ofChar _, hcollection, Text.isScalar_iff.1 (Text.isScalar_ofString _)⟩

/-- **The collections of a component file** are read as they are spelled, as no surrogate occurs in any of
them. -/
theorem decode?_collectionSource_of_mem_findLoops [p : Parsers] (hp : p.StayWithin)
    {bytes : List UInt8} {d : Markup.LoopDirective} (hd : d ∈ Markup.findLoops bytes)
    {e : Expression} (h : ofText? d.value = some e) :
    Utf8.decode? (Utf8.encode (collectionSource e.collectionText)) =
      some (collectionSource e.collectionText) :=
  decode?_collectionSource (Markup.isScalar_value_of_mem_loopsIn (hp.markup bytes) hd) h

end Expression

/-! ### Types -/

theorem isScalar_of_literalKind? {kind : Script.Kind} {type : Text}
    (h : literalKind? kind = some type) : type.isScalar = true := by
  rw [literalKind?.eq_def] at h
  split at h
  all_goals first
    | cases h; exact Text.isScalar_ofString _
    | cases h

/-- No surrogate occurs in the type of the elements of a collection. -/
theorem isScalar_of_hasElementType {collection : Script.Cursor} {type : Text}
    (h : HasElementType collection type) : type.isScalar = true := by
  cases h with
  | number => exact Text.isScalar_ofString _
  | string => exact Text.isScalar_ofString _
  | array kinds hkind hne hkinds =>
      rw [Text.isScalar_join (Text.isScalar_ofString _)]
      intro kind hmem
      have hsome : some kind ∈ kinds.map some := List.mem_map_of_mem (mem_distinct.1 hmem)
      rw [← hkinds] at hsome
      obtain ⟨e, -, he⟩ := List.mem_map.1 hsome
      exact isScalar_of_literalKind? he

end Loop

/-! ### Records -/

namespace LoopType

/-- The record of a loop names its file; no surrogate occurs in what else it tells. -/
structure IsSpelledIn (path : Text) (l : LoopType) : Prop where
  /-- The file. -/
  path_eq : l.path = path
  /-- The text of the loop. -/
  expression : l.expression.isScalar = true
  /-- The variable. -/
  variableName : l.variableName.isScalar = true
  /-- The type of the elements. -/
  elementType : l.elementType.isScalar = true

theorem isSpelledIn_of_ofDirective? [Parsers] {path : Text} {d : Markup.LoopDirective} {l : LoopType}
    (hd : d.value.isScalar = true) (h : ofDirective? path true d = some l) : l.IsSpelledIn path := by
  obtain ⟨loop, first, type, hloop, ⟨⟨others, hbinders⟩, collection, -, htype⟩, rfl⟩ :=
    ofDirective?_eq_some_iff.1 h
  have hfirst : first ∈ loop.binders := hbinders ▸ List.mem_cons_self
  exact ⟨rfl, hd, Text.isScalar_of_subset (Loop.Expression.name_subset hloop hfirst) hd,
    Loop.isScalar_of_hasElementType htype⟩

/-- **The record of a loop** of a component file holds no surrogate, its path apart. -/
theorem isSpelledIn_of_mem_loopTypes [p : Parsers] (hp : p.StayWithin) {path : Text}
    {bytes : List UInt8} {l : LoopType} (h : l ∈ loopTypes .standard path bytes true) :
    l.IsSpelledIn path := by
  obtain ⟨d, hd, hl⟩ := List.mem_flatMap.1 h
  rw [loopTypesOf_standard, Option.mem_toList] at hl
  exact isSpelledIn_of_ofDirective? (Markup.isScalar_value_of_mem_loopsIn (hp.markup bytes) hd) hl

end LoopType

end ComponentIndex
