/-
**The type of a loop variable.**

The variables of a loop are numbered, so that exactly the first one leads to its collection.  That
variable has the type of the elements of the collection; no other variable has a type.

Main definitions:

* `ComponentIndex.Loop.HasElementType` — the elements of a collection have a type;
* `ComponentIndex.Loop.Expression.TypesFirst` — a loop gives its first variable a type.

Main results:

* `ComponentIndex.Loop.elementType?_eq_some_iff` — the calculator finds the type of the elements;
* `ComponentIndex.ExtensionPoint.loopType?_eq_some_iff` — the type of a variable of a loop;
* `ComponentIndex.ExtensionPoint.filterMap_loopType?` — only the first variable has a type.
-/

import ComponentIndex.Index.Extension
import ComponentIndex.Proofs.Lists

set_option relaxedAutoImplicit false
set_option autoImplicit false

namespace ComponentIndex

namespace Loop

open Script (Cursor)

/-! ### The elements of a collection -/

/-- The elements of a collection have a type: a number is counted up to, a string is made of
strings, and an array of literals has the kinds of its elements, each named once. -/
inductive HasElementType (collection : Cursor) : Text → Prop
  /-- The collection is a number. -/
  | number (hkind : collection.kind = .number) : HasElementType collection "number"
  /-- The collection is a string or a template. -/
  | string (hkind : collection.kind = .string ∨ collection.kind = .templateString) :
      HasElementType collection "string"
  /-- The collection is an array with elements, all of which are literals. -/
  | array (kinds : List Text) (hkind : collection.kind = .array) (hne : kinds ≠ [])
      (hkinds : collection.significantChildren.map (fun e => literalKind? e.kind) =
        kinds.map some) :
      HasElementType collection (Text.join "|" (distinct kinds))

theorem arrayElementType?_eq_some_iff {array : Cursor} {type : Text} :
    arrayElementType? array = some type ↔
      ∃ kinds, kinds ≠ [] ∧
        array.significantChildren.map (fun e => literalKind? e.kind) = kinds.map some ∧
        type = Text.join "|" (distinct kinds) := by
  simp only [← mapM_eq_some_iff, arrayElementType?]
  constructor
  · intro h
    split at h
    · obtain rfl := Option.some.inj h
      exact ⟨_, List.cons_ne_nil _ _, ‹_›, rfl⟩
    · cases h
  · rintro ⟨kinds, hne, hkinds, rfl⟩
    obtain ⟨kind, kinds, rfl⟩ := List.exists_cons_of_ne_nil hne
    rw [hkinds]

/-- The calculator finds the type that the elements of a collection have. -/
theorem elementType?_eq_some_iff {collection : Cursor} {type : Text} :
    elementType? collection = some type ↔ HasElementType collection type := by
  constructor
  · intro h
    rw [elementType?] at h
    split at h
    · obtain ⟨kinds, hne, hkinds, rfl⟩ := arrayElementType?_eq_some_iff.1 h
      exact .array kinds ‹_› hne hkinds
    · obtain rfl := Option.some.inj h
      exact .number ‹_›
    · obtain rfl := Option.some.inj h
      exact .string (Or.inl ‹_›)
    · obtain rfl := Option.some.inj h
      exact .string (Or.inr ‹_›)
    · cases h
  · intro h
    rw [elementType?]
    cases h with
    | number hkind => rw [hkind]
    | string hkind => rcases hkind with hkind | hkind <;> rw [hkind]
    | array kinds hkind hne hkinds =>
        rw [hkind]
        exact arrayElementType?_eq_some_iff.2 ⟨kinds, hne, hkinds, rfl⟩

/-! ### The variables of a loop -/

namespace Expression

theorem le_id_of_mem_bindersFrom {id : Nat} {names : List Text} {b : Binder}
    (h : b ∈ bindersFrom id names) : id ≤ b.id := by
  induction names generalizing id with
  | nil => simp [bindersFrom] at h
  | cons name names ih =>
      rw [bindersFrom] at h
      rcases List.mem_cons.1 h with rfl | h
      · exact Nat.le_refl _
      · exact Nat.le_of_succ_le (ih h)

/-- No later variable of a loop has the number of the first one. -/
theorem id_ne_of_ofText? [Parsers] {text : Text} {e : Expression} (h : ofText? text = some e) {first : Binder}
    {others : List Binder} (hbinders : e.binders = first :: others) :
    ∀ b ∈ others, b.id ≠ first.id := by
  obtain ⟨⟨bound, collection⟩, -, rfl⟩ := Option.map_eq_some_iff.1 h
  change bindersFrom 0 (namesOf bound) = first :: others at hbinders
  cases hnames : namesOf bound with
  | nil => simp [hnames, bindersFrom] at hbinders
  | cons name names =>
      rw [hnames, bindersFrom, List.cons.injEq] at hbinders
      obtain ⟨rfl, rfl⟩ := hbinders
      intro b hb
      have := le_id_of_mem_bindersFrom hb
      dsimp only
      omega

theorem enclosing?_variable (e : Expression) (b : Binder) :
    (⟨b, templateLanguage, e.parent⟩ : Variable).enclosing? = some e := by
  rw [Variable.enclosing?, parent]
  cases e.hasAliasList <;> rfl

/-- A query for a variable of a loop leads to the collection of that loop if the variable has the
number of the first one. -/
theorem forwardTarget?_variable (e : Expression) (b : Binder) {target : Cursor × Expression} :
    forwardTarget? (.variable ⟨b, templateLanguage, e.parent⟩) = some target ↔
      ∃ first others collection, e.binders = first :: others ∧ first.id = b.id ∧
        e.reference? = some collection ∧ target = (collection, e) := by
  simp only [forwardTarget?, ne_eq, not_true_eq_false, if_false, enclosing?_variable]
  constructor
  · intro h
    split at h
    · split at h
      · exact ⟨_, _, _, ‹_›, ‹_›, ‹_›, (Option.some.inj h).symm⟩
      · cases h
    · cases h
  · rintro ⟨first, others, collection, hbinders, hid, hcollection, rfl⟩
    rw [hbinders, hcollection]
    dsimp only
    rw [if_pos hid]

/-- A loop gives its first variable a type: that of the elements of its collection. -/
def TypesFirst (e : Expression) (first : Binder) (type : Text) : Prop :=
  (∃ others, e.binders = first :: others) ∧
    ∃ collection, e.reference? = some collection ∧ HasElementType collection type

end Expression

/-- The answer for a variable: the type of the elements of the collection it leads to. -/
theorem typeOf_eq (v : Variable) (active : Bool) :
    typeOf v active =
      match (if active then forwardTarget? (.variable v) else none) with
      | some (collection, loop) => findElementType .empty collection loop
      | none => (false, .empty) := by
  rw [typeOf, forward]
  cases active with
  | false => rfl
  | true =>
      simp only [if_true]
      cases forwardTarget? (.variable v) with
      | none => rfl
      | some target => rfl

end Loop

namespace ExtensionPoint

open Loop (Variable Binder Expression)

/-- The standard handler types a variable by the collection that it leads to. -/
theorem loopType?_standard (v : Variable) (active : Bool) :
    standard.loopType? v active =
      (if active then Loop.forwardTarget? (.variable v) else none).bind fun target =>
        Loop.elementType? target.1 := by
  rw [loopType?, Loop.typeOf_eq]
  cases (if active then Loop.forwardTarget? (.variable v) else none) with
  | none => rfl
  | some target =>
      simp only [Loop.findElementType, standard, Option.bind_some, List.any_cons, List.any_nil,
        Bool.or_false]
      cases Loop.elementType? target.1 <;> rfl

/-- The standard handler gives the first variable of a loop its type, and no type to the others. -/
theorem loopType?_eq_some_iff {e : Expression} {b : Binder} {active : Bool} {type : Text} :
    standard.loopType? ⟨b, Loop.templateLanguage, e.parent⟩ active = some type ↔
      active = true ∧ ∃ first, first.id = b.id ∧ e.TypesFirst first type := by
  rw [loopType?_standard]
  cases active with
  | false => simp
  | true =>
      simp only [if_true, Option.bind_eq_some_iff, Expression.forwardTarget?_variable,
        Loop.elementType?_eq_some_iff, true_and]
      constructor
      · rintro ⟨_, ⟨first, others, collection, hbinders, hid, hcollection, rfl⟩, htype⟩
        exact ⟨first, hid, ⟨others, hbinders⟩, collection, hcollection, htype⟩
      · rintro ⟨first, hid, ⟨others, hbinders⟩, collection, hcollection, htype⟩
        exact ⟨_, ⟨first, others, collection, hbinders, hid, hcollection, rfl⟩, htype⟩

/-- Of the variables of a loop only the first one can have a type. -/
theorem filterMap_loopType? [Parsers] {text : Text} {e : Expression}
    (h : Expression.ofText? text = some e) (active : Bool) {α : Type} (f : Variable → Text → α) :
    e.variables.filterMap (fun v => (standard.loopType? v active).map (f v)) =
      (e.variables.head?.bind fun v => (standard.loopType? v active).map (f v)).toList := by
  cases hbinders : e.binders with
  | nil => simp [Expression.variables, hbinders]
  | cons first others =>
      have hothers : ∀ b ∈ others,
          standard.loopType? ⟨b, Loop.templateLanguage, e.parent⟩ active = none := by
        -- A variable that leads to the collection has the number of the first one.
        intro b hb
        rw [Option.eq_none_iff_forall_ne_some]
        intro type htype
        obtain ⟨-, first', hid, ⟨others', hbinders'⟩, -⟩ := loopType?_eq_some_iff.1 htype
        obtain rfl : first' = first := (List.cons.inj (hbinders'.symm.trans hbinders)).1
        exact Expression.id_ne_of_ofText? h hbinders b hb hid.symm
      have hrest : (others.map fun b => (⟨b, Loop.templateLanguage, e.parent⟩ : Variable)).filterMap
          (fun v => (standard.loopType? v active).map (f v)) = [] := by
        rw [List.filterMap_eq_nil_iff, List.forall_mem_map]
        intro b hb
        rw [hothers b hb, Option.map_none]
      rw [Expression.variables, hbinders, List.map_cons, List.filterMap_cons, hrest,
        List.head?_cons, Option.bind_some]
      cases (standard.loopType? ⟨first, Loop.templateLanguage, e.parent⟩ active).map (f _) <;> rfl

end ExtensionPoint

end ComponentIndex
