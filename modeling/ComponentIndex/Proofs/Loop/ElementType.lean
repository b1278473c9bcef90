/-
**The type of an array literal.**

The elements of an array are its named children that are no comments.  If there are any and each of
them is a literal of known kind, the type of the array names their kinds, each once, in the order of
their first appearance, and is logged once.  Otherwise the array has no type and the log stays as it
is.  All that counts of an element is its kind, and where that kind comes first.

Main definitions:

* `ComponentIndex.Loop.elements`, `ComponentIndex.Loop.AreKnown`, `ComponentIndex.Loop.literalKinds` —
  what the elements of an array are, and the kinds of those that are literals;
* `ComponentIndex.Loop.IsTypedBy`, `ComponentIndex.Loop.IsUntyped` — what the calculator does with an
  array;
* `ComponentIndex.Loop.Repeats` — a list some items of which come again.

Main results:

* `ComponentIndex.Loop.findElementType_of_areKnown`, `ComponentIndex.Loop.findElementType_of_not_areKnown`
  — what the calculator finds and logs;
* `ComponentIndex.Loop.literalKinds_of_repeats` — repeated elements bring nothing new;
* `ComponentIndex.Loop.findElementType_array` — **the type of an array**.
-/

import ComponentIndex.Proofs.Loop.Variable
import ComponentIndex.Proofs.Text.Join
import ComponentIndex.Proofs.Text.Order

set_option relaxedAutoImplicit false
set_option autoImplicit false

namespace ComponentIndex.Loop

open Script (Cursor)

/-! ### The elements of an array -/

/-- What the elements of an array are. -/
def elements (array : Cursor) : List Script.Kind := array.significantChildren.map Cursor.kind

/-- There are elements, and the literal kind of each is known. -/
structure AreKnown (es : List Script.Kind) : Prop where
  /-- There is an element. -/
  ne_nil : es ≠ []
  /-- Each element has a literal kind. -/
  known : ∀ e ∈ es, literalKind? e ≠ none

/-- The literal kinds of elements, in their order. -/
def literalKinds (es : List Script.Kind) : List Text := es.filterMap literalKind?

theorem map_literalKind?_eq_iff {es : List Script.Kind} {kinds : List Text} :
    es.map literalKind? = kinds.map some ↔
      (∀ e ∈ es, literalKind? e ≠ none) ∧ kinds = literalKinds es := by
  induction es generalizing kinds with
  | nil => cases kinds <;> simp [literalKinds]
  | cons e es ih =>
      rw [literalKinds, List.forall_mem_cons]
      cases he : literalKind? e with
      | none => cases kinds <;> simp [he]
      | some kind =>
          rw [List.filterMap_cons_some he]
          cases kinds with
          | nil => simp
          | cons k kinds =>
              rw [List.map_cons, List.map_cons, List.cons.injEq, ih, he, Option.some.injEq,
                List.cons.injEq, literalKinds]
              simp only [ne_eq, reduceCtorEq, not_false_eq_true, true_and]
              exact ⟨fun ⟨hk, hknown, hkinds⟩ => ⟨hknown, hk.symm, hkinds⟩,
                fun ⟨hknown, hk, hkinds⟩ => ⟨hk.symm, hknown, hkinds⟩⟩

theorem literalKinds_append (es es' : List Script.Kind) :
    literalKinds (es ++ es') = literalKinds es ++ literalKinds es' := List.filterMap_append

theorem literalKinds_ne_nil {es : List Script.Kind} (h : AreKnown es) : literalKinds es ≠ [] := by
  obtain ⟨e, rest, rfl⟩ := List.exists_cons_of_ne_nil h.ne_nil
  obtain ⟨kind, hkind⟩ := Option.ne_none_iff_exists'.1 (h.known e List.mem_cons_self)
  rw [literalKinds, List.filterMap_cons_some hkind]
  exact List.cons_ne_nil _ _

/-- The type of an array names the kinds of its elements, if they are known. -/
theorem arrayElementType?_eq_some_iff_areKnown {array : Cursor} {type : Text} :
    arrayElementType? array = some type ↔
      AreKnown (elements array) ∧
        type = Text.join "|" (distinct (literalKinds (elements array))) := by
  have hmap : array.significantChildren.map (fun e => literalKind? e.kind) =
      (elements array).map literalKind? := by
    rw [elements, List.map_map]
    rfl
  simp only [arrayElementType?_eq_some_iff, hmap, map_literalKind?_eq_iff]
  constructor
  · rintro ⟨_, hne, ⟨hknown, rfl⟩, rfl⟩
    refine ⟨⟨fun hnil => hne ?_, hknown⟩, rfl⟩
    rw [hnil]
    rfl
  · rintro ⟨hknown, rfl⟩
    exact ⟨_, literalKinds_ne_nil hknown, ⟨hknown.known, rfl⟩, rfl⟩

section

variable {array : Cursor} (hkind : array.kind = .array) (log : TypeLog) (loop : Expression)
include hkind

theorem findElementType_of_areKnown (h : AreKnown (elements array)) :
    findElementType log array loop =
      (true, log.add (Text.join "|" (distinct (literalKinds (elements array)))) loop) := by
  rw [findElementType, elementType?, hkind]
  dsimp only
  rw [arrayElementType?_eq_some_iff_areKnown.2 ⟨h, rfl⟩]

theorem findElementType_of_not_areKnown (h : ¬AreKnown (elements array)) :
    findElementType log array loop = (false, log) := by
  have hnone : arrayElementType? array = none := by
    rw [Option.eq_none_iff_forall_ne_some]
    exact fun type htype => h (arrayElementType?_eq_some_iff_areKnown.1 htype).1
  rw [findElementType, elementType?, hkind]
  dsimp only
  rw [hnone]

theorem findElementType_eq_true_iff :
    (findElementType log array loop).1 = true ↔ AreKnown (elements array) := by
  by_cases h : AreKnown (elements array)
  · simp [findElementType_of_areKnown hkind log loop h, h]
  · simp [findElementType_of_not_areKnown hkind log loop h, h]

end

/-! ### Elements that come again -/

/-- A list some items of which come again further on, as often as one likes. -/
inductive Repeats {α : Type} (xs : List α) : List α → Prop
  /-- Nothing comes again. -/
  | refl : Repeats xs xs
  /-- An item comes once more behind its first appearance. -/
  | again {front rest : List α} {x : α} (h : Repeats xs (front ++ rest)) (hx : x ∈ front) :
      Repeats xs (front ++ x :: rest)

theorem Repeats.mem_iff {α : Type} {xs ys : List α} (h : Repeats xs ys) (a : α) :
    a ∈ ys ↔ a ∈ xs := by
  induction h with
  | refl => rfl
  | again h hx ih =>
      rw [← ih, List.mem_append, List.mem_cons, List.mem_append]
      constructor
      · rintro (ha | rfl | ha)
        · exact Or.inl ha
        · exact Or.inl hx
        · exact Or.inr ha
      · exact Or.imp_right Or.inr

theorem areKnown_iff_of_repeats {es es' : List Script.Kind} (h : Repeats es es') :
    AreKnown es' ↔ AreKnown es := by
  have hmem := h.mem_iff
  constructor <;> rintro ⟨hne, hknown⟩
  · refine ⟨fun hnil => hne ?_, fun e he => hknown e ((hmem e).2 he)⟩
    exact List.eq_nil_iff_forall_not_mem.2 fun e he => by simpa [hnil] using (hmem e).1 he
  · refine ⟨fun hnil => hne ?_, fun e he => hknown e ((hmem e).1 he)⟩
    exact List.eq_nil_iff_forall_not_mem.2 fun e he => by simpa [hnil] using (hmem e).2 he

/-- Elements that come again bring no new kind. -/
theorem literalKinds_of_repeats {es es' : List Script.Kind} (h : Repeats es es') :
    distinct (literalKinds es') = distinct (literalKinds es) := by
  induction h with
  | refl => rfl
  | @again front rest e h he ih =>
      rw [← ih, literalKinds_append, literalKinds_append]
      cases hkind : literalKind? e with
      | none => rw [literalKinds, literalKinds, List.filterMap_cons_none hkind, literalKinds]
      | some kind =>
          have hfront : kind ∈ literalKinds front := List.mem_filterMap.2 ⟨e, he, hkind⟩
          rw [show literalKinds (e :: rest) = kind :: literalKinds rest from
            List.filterMap_cons_some hkind]
          exact distinct_append_cons_of_mem hfront _

/-! ### The type of an array -/

/-- No kind holds the separator of kinds. -/
theorem not_mem_of_literalKind? {e : Script.Kind} {kind : Text} (h : literalKind? e = some kind) :
    ('|' : CodePoint) ∉ kind := by
  rw [literalKind?.eq_def] at h
  split at h
  all_goals first
    | (obtain rfl := Option.some.inj h; decide)
    | cases h

/-- The calculator finds the type of an array, which names the given kinds, and logs it once. -/
structure IsTypedBy (array : Cursor) (kinds : List Text) : Prop where
  /-- They are the kinds of the elements, each once, in the order of their first appearance. -/
  names : NamesOnce (literalKinds (elements array)) kinds
  /-- They are what stands between the separators of the type. -/
  parts : Text.splitOn '|' (Text.join "|" kinds) = kinds
  /-- The type is found, and stands behind all that the log held before. -/
  finds : ∀ log loop, findElementType log array loop =
    (true, ⟨log.types ++ [(Text.join "|" kinds, loop)]⟩)

/-- The calculator finds no type of an array and leaves the log as it is. -/
def IsUntyped (array : Cursor) : Prop :=
  ∀ log loop, findElementType log array loop = (false, log)

section

variable {array : Cursor} (hkind : array.kind = .array)
include hkind

theorem isTypedBy_of_areKnown (h : AreKnown (elements array)) :
    IsTypedBy array (distinct (literalKinds (elements array))) where
  names := namesOnce_distinct _
  parts := by
    refine Text.splitOn_join (fun hnil => ?_) fun kind hmem => ?_
    · obtain ⟨kind, kinds, hkinds⟩ := List.exists_cons_of_ne_nil (literalKinds_ne_nil h)
      have hmem : kind ∈ distinct (literalKinds (elements array)) :=
        mem_distinct.2 (hkinds ▸ List.mem_cons_self)
      rw [hnil] at hmem
      cases hmem
    · obtain ⟨e, -, he⟩ := List.mem_filterMap.1 (mem_distinct.1 hmem)
      exact not_mem_of_literalKind? he
  finds log loop := findElementType_of_areKnown hkind log loop h

theorem IsTypedBy.areKnown {kinds : List Text} (h : IsTypedBy array kinds) :
    AreKnown (elements array) := by
  rw [← findElementType_eq_true_iff hkind .empty ⟨[], [], none, false, []⟩, h.finds]

/-- **The type of an array.** A type is found exactly if the array has elements and all of them are
literals of known kind. It then names their kinds, each once and in the order of their first
appearance, and is logged once; otherwise the log stays as it is. An array whose elements are those of
two arrays that have types, in a row, names the kinds of the first one and behind them the kinds of
the second one that are not among them. Elements that come again change nothing, and one element of
unknown kind suffices for the array to have no type. -/
theorem findElementType_array :
    (∀ log loop, (findElementType log array loop).1 = true ↔ AreKnown (elements array)) ∧
      (AreKnown (elements array) → ∃ kinds, IsTypedBy array kinds) ∧
      (¬AreKnown (elements array) → IsUntyped array) ∧
      (∀ first second : Cursor, first.kind = .array → second.kind = .array →
        elements array = elements first ++ elements second →
        ∀ kinds kinds', IsTypedBy first kinds → IsTypedBy second kinds' →
          IsTypedBy array (kinds ++ kinds'.filter fun k => !kinds.contains k)) ∧
      (∀ short : Cursor, short.kind = .array → Repeats (elements short) (elements array) →
        ∀ log loop, findElementType log array loop = findElementType log short loop) ∧
      ∀ e ∈ elements array, literalKind? e = none → IsUntyped array := by
  refine ⟨findElementType_eq_true_iff hkind, fun h => ⟨_, isTypedBy_of_areKnown hkind h⟩,
    fun h log loop => findElementType_of_not_areKnown hkind log loop h, ?_, ?_, ?_⟩
  · intro first second hfirst hsecond hall kinds kinds' h h'
    obtain rfl := h.names.eq_distinct
    obtain rfl := h'.names.eq_distinct
    have hknown := h.areKnown hfirst
    have hknown' := h'.areKnown hsecond
    rw [← distinct_append, ← literalKinds_append, ← hall]
    refine isTypedBy_of_areKnown hkind ⟨?_, ?_⟩
    · rw [hall]
      exact List.append_ne_nil_of_left_ne_nil hknown.ne_nil _
    · rw [hall]
      exact List.forall_mem_append.2 ⟨hknown.known, hknown'.known⟩
  · intro short hshort hrepeats log loop
    by_cases h : AreKnown (elements short)
    · rw [findElementType_of_areKnown hshort log loop h, ← literalKinds_of_repeats hrepeats]
      exact findElementType_of_areKnown hkind log loop ((areKnown_iff_of_repeats hrepeats).2 h)
    · rw [findElementType_of_not_areKnown hshort log loop h]
      exact findElementType_of_not_areKnown hkind log loop
        (mt (areKnown_iff_of_repeats hrepeats).1 h)
  · intro e he hnone log loop
    exact findElementType_of_not_areKnown hkind log loop fun h => h.known e he hnone

end

/-- The array that a collection spells. -/
def spelledArray (collection : Text) : Cursor :=
  (Expression.ofParts collection "n" collection).reference?.getD (Cursor.root default)

theorem findElementType_array_mixed :
    IsTypedBy (spelledArray "[1, 'a']") ["number", "string"] ∧
      IsTypedBy (spelledArray "[1, 'a', /* b */ null, `c`]") ["number", "string", "null"] ∧
      (∀ log loop, findElementType log (spelledArray "[1, 1, 'a', 2]") loop =
        findElementType log (spelledArray "[1, 'a']") loop) ∧
      IsUntyped (spelledArray "[1, b]") := by
  obtain ⟨hshort, heshort⟩ : (spelledArray "[1, 'a']").kind = .array ∧
      elements (spelledArray "[1, 'a']") = [Script.Kind.number, .string] := by decide +kernel
  obtain ⟨hother, heother⟩ : (spelledArray "[null, `c`]").kind = .array ∧
      elements (spelledArray "[null, `c`]") = [Script.Kind.nullLiteral, .templateString] := by
    decide +kernel
  obtain ⟨hall, heall⟩ : (spelledArray "[1, 'a', /* b */ null, `c`]").kind = .array ∧
      elements (spelledArray "[1, 'a', /* b */ null, `c`]") =
        [Script.Kind.number, .string, .nullLiteral, .templateString] := by decide +kernel
  obtain ⟨hagain, heagain⟩ : (spelledArray "[1, 1, 'a', 2]").kind = .array ∧
      elements (spelledArray "[1, 1, 'a', 2]") =
        [Script.Kind.number, .number, .string, .number] := by decide +kernel
  obtain ⟨hunknown, heunknown⟩ : (spelledArray "[1, b]").kind = .array ∧
      elements (spelledArray "[1, b]") = [Script.Kind.number, .identifier] := by decide +kernel
  obtain ⟨-, htyped, -⟩ := findElementType_array hshort
  obtain ⟨-, htyped', -⟩ := findElementType_array hother
  obtain ⟨-, -, -, hjoined, -⟩ := findElementType_array hall
  obtain ⟨-, -, -, -, hrepeated, -⟩ := findElementType_array hagain
  obtain ⟨-, -, -, -, -, huntyped⟩ := findElementType_array hunknown
  obtain ⟨kinds, hkinds⟩ := htyped (heshort ▸ ⟨by decide, by decide⟩)
  obtain ⟨kinds', hkinds'⟩ := htyped' (heother ▸ ⟨by decide, by decide⟩)
  have heq : kinds = (["number", "string"] : List Text) :=
    hkinds.names.eq_distinct.trans (by rw [heshort]; decide)
  have heq' : kinds' = (["null", "string"] : List Text) :=
    hkinds'.names.eq_distinct.trans (by rw [heother]; decide)
  rw [heq] at hkinds
  rw [heq'] at hkinds'
  have honce : Repeats [Script.Kind.number, .string] ([.number] ++ .number :: [.string]) :=
    .again .refl (by decide)
  have htwice : Repeats [Script.Kind.number, .string] ([.number, .number, .string] ++ .number :: []) :=
    .again honce (by decide)
  refine ⟨hkinds, ?_, hrepeated _ hshort ?_, huntyped .identifier (by simp [heunknown]) rfl⟩
  · exact hjoined _ _ hshort hother (by rw [heall, heshort, heother]; rfl) _ _ hkinds hkinds'
  · rw [heshort, heagain]
    exact htwice

end ComponentIndex.Loop
