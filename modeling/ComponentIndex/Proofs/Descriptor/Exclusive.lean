/-
**The shapes of descriptors exclude each other.**

The parent of a literal decides between an export and an argument, the call around it between a
registration and an instance, and the callee and the position among the arguments between the two
ways of an instance.  At most one of the three tests finds something, and none does if the literal is
the value of a property.  So neither the order of the tests matters nor that a property is looked at
for what its literal stands in.

Main definitions:

* `ComponentIndex.Descriptor.tests` — the three tests;
* `ComponentIndex.Descriptor.Opens` — a property is the first one of a literal;
* `ComponentIndex.Descriptor.ofPropertyIn?` — the descriptor that a property opens, with the tests in
  another order and with or without a look at what the literal stands in.

Main results:

* `ComponentIndex.Descriptor.shape?_eq_some_iff_exists_test` — what a literal declares is what one of
  the tests finds;
* `ComponentIndex.Descriptor.tests_exclusive` — **the tests exclude each other**, and a property
  opens the descriptor that any of them finds.
-/

import ComponentIndex.Proofs.Descriptor.Payload

set_option relaxedAutoImplicit false
set_option autoImplicit false

namespace ComponentIndex.Descriptor

open Script (Cursor Node)

/-- The three tests of a literal in a file. -/
def tests (file : SourceFile) : List (Cursor → Option Match) :=
  [fun object => ofExport? object file, ofRegistration?, ofInstance?]

/-! ### At most one test finds something -/

section

variable {tree : Node} {object : Cursor} {file : SourceFile}

/-- An exported literal is no argument, so it is neither registered nor an instance. -/
theorem ofRegistration?_and_ofInstance?_of_isExported (hobject : object.IsIn tree)
    (h : IsExported object) : ofRegistration? object = none ∧ ofInstance? object = none := by
  constructor
  · rw [Option.eq_none_iff_forall_ne_some]
    intro m hm
    obtain ⟨call, -, -, -, hargument, -⟩ := (ofRegistration?_eq_some_iff hobject).1 hm
    exact h.not_isArgument 1 call hargument
  · rw [Option.eq_none_iff_forall_ne_some]
    intro m hm
    obtain ⟨call, hargument, -⟩ := (isInstance_iff hobject).1 (ofInstance?_eq_some_iff.1 hm).1
    exact h.not_isArgument 0 call hargument

/-- If one test finds something, the later ones find nothing. -/
theorem tests_later_eq_none (hobject : object.IsIn tree) (file : SourceFile) :
    ((ofExport? object file).isSome = true →
      ofRegistration? object = none ∧ ofInstance? object = none) ∧
    ((ofRegistration? object).isSome = true → ofInstance? object = none) := by
  constructor
  · intro h
    obtain ⟨m, hm⟩ := Option.isSome_iff_exists.1 h
    obtain ⟨-, hexported, -⟩ := (ofExport?_eq_some_iff hobject).1 hm
    exact ofRegistration?_and_ofInstance?_of_isExported hobject hexported
  · intro h
    obtain ⟨m, hm⟩ := Option.isSome_iff_exists.1 h
    exact ofInstance?_eq_none hobject hm

theorem countP_tests_le_one (hobject : object.IsIn tree) :
    (tests file).countP (fun test => (test object).isSome) ≤ 1 := by
  obtain ⟨hexport, hregistration⟩ := tests_later_eq_none hobject file
  rw [tests, List.countP_cons, List.countP_cons, List.countP_singleton]
  cases hfirst : (ofExport? object file).isSome with
  | true =>
      obtain ⟨hnone, hnone'⟩ := hexport hfirst
      rw [hnone, hnone']
      decide
  | false =>
      cases hsecond : (ofRegistration? object).isSome with
      | true =>
          rw [hregistration hsecond]
          decide
      | false =>
          cases (ofInstance? object).isSome <;> decide

/-- What a literal declares is what one of the tests finds. -/
theorem shape?_eq_some_iff_exists_test (hobject : object.IsIn tree) {m : Match} :
    shape? file object = some m ↔ ∃ test ∈ tests file, test object = some m := by
  obtain ⟨hexport, hregistration⟩ := tests_later_eq_none hobject file
  simp only [tests, List.exists_mem_cons_iff, List.not_mem_nil, false_and, exists_false, or_false]
  rw [shape?, ofExport?, Bool.and_comm]
  by_cases hexported : (file.isComponent && isDefaultExport object) = true
  · rw [ofExport?, if_pos hexported] at hexport
    obtain ⟨hnone, hnone'⟩ := hexport rfl
    rw [if_pos hexported, hnone, hnone']
    simp
  · rw [if_neg hexported, if_neg hexported, Option.or_eq_some_iff]
    simp only [reduceCtorEq, false_or]
    constructor
    · rintro (h | ⟨-, h⟩)
      · exact .inl h
      · exact .inr h
    · rintro (h | h)
      · exact .inl h
      · -- A registration that is found would be no instance.
        cases hsecond : ofRegistration? object with
        | none => exact .inr ⟨rfl, h⟩
        | some m' =>
            rw [hregistration (by rw [hsecond]; rfl)] at h
            cases h

/-- A literal for which some test finds something stands in a node that is no pair. -/
theorem exists_parent_of_shape? (hobject : object.IsIn tree) {m : Match}
    (h : shape? file object = some m) :
    ∃ parent, object.parent? = some parent ∧ parent.kind ≠ .pair := by
  by_contra hnone
  push Not at hnone
  rw [shape?_eq_none hobject hnone] at h
  cases h

/-- In any order the tests find what one of them finds. -/
theorem findSome?_tests (hobject : object.IsIn tree) {order : List (Cursor → Option Match)}
    (horder : order.Perm (tests file)) :
    (order.findSome? fun test => test object) = shape? file object := by
  refine Option.ext fun m => ?_
  rw [shape?_eq_some_iff_exists_test hobject]
  constructor
  · intro h
    obtain ⟨test, htest, hm⟩ := List.exists_of_findSome?_eq_some h
    exact ⟨test, horder.mem_iff.1 htest, hm⟩
  · rintro ⟨test, htest, hm⟩
    have hsome : (order.findSome? fun test => test object).isSome = true := by
      rw [List.findSome?_isSome_iff]
      exact ⟨test, horder.mem_iff.2 htest, by rw [hm]; rfl⟩
    obtain ⟨m', hm'⟩ := Option.isSome_iff_exists.1 hsome
    -- Whatever is found is what the literal declares, and that is one thing.
    obtain ⟨test', htest', hfound⟩ := List.exists_of_findSome?_eq_some hm'
    have hshape := (shape?_eq_some_iff_exists_test hobject).2 ⟨test, htest, hm⟩
    have hshape' := (shape?_eq_some_iff_exists_test hobject).2
      ⟨test', horder.mem_iff.1 htest', hfound⟩
    rw [hm', ← hshape, ← hshape']

end

/-! ### The first property of a literal -/

/-- The property is the first one of an object literal. -/
def Opens (property object : Cursor) : Prop :=
  object.kind = .object ∧ object.properties.head? = some property

/-- The object literal that a property opens, with or without a look at what the literal stands in. -/
def openedObjectIn? (guarded : Bool) (property : Cursor) : Option Cursor :=
  match property.parent? with
  | none => none
  | some object =>
    if object.kind ≠ .object then none
    else if !object.properties.head?.any property.isSame then none
    else
      match object.parent? with
      | none => none
      | some parent => if guarded && parent.kind = .pair then none else some object

/-- The descriptor that a property opens, with the tests in some order and with or without a look at
what its literal stands in. -/
def ofPropertyIn? (guarded : Bool) (order : List (Cursor → Option Match)) (property : Cursor) :
    Option Match :=
  (openedObjectIn? guarded property).bind fun object => order.findSome? fun test => test object

section

variable {tree : Node} {property object : Cursor} {file : SourceFile}

theorem openedObjectIn?_true (property : Cursor) :
    openedObjectIn? true property = openedObject? property := by
  simp only [openedObjectIn?, Bool.true_and, decide_eq_true_eq]
  rfl

theorem Opens.parent? (h : Opens property object) : property.parent? = some object :=
  Cursor.parent?_of_mem_children (List.mem_of_mem_filter (List.mem_of_head? h.2))

theorem openedObjectIn?_eq_some_iff (hproperty : property.IsIn tree) {guarded : Bool} :
    openedObjectIn? guarded property = some object ↔
      Opens property object ∧
        ∃ parent, object.parent? = some parent ∧ (guarded = true → parent.kind ≠ .pair) := by
  have hfirst : ∀ o, property.parent? = some o →
      (o.properties.head?.any property.isSame = true ↔ o.properties.head? = some property) := by
    intro o ho
    refine Cursor.any_isSame_iff hproperty fun first hmem => ?_
    refine (hproperty.parent ho).1.of_mem_children (d := first) ?_
    exact List.mem_of_mem_filter (List.mem_of_head? hmem)
  rw [openedObjectIn?]
  constructor
  · intro h
    split at h
    · cases h
    next o ho =>
    split at h
    · cases h
    next hkind =>
    split at h
    · cases h
    next hany =>
    split at h
    · cases h
    next parent hparent =>
    split at h
    · cases h
    next hpair =>
    obtain rfl := Option.some.inj h
    rw [Bool.not_eq_true', Bool.not_eq_false, hfirst o ho] at hany
    refine ⟨⟨not_not.1 hkind, hany⟩, parent, hparent, fun hguarded => ?_⟩
    simpa [hguarded] using hpair
  · rintro ⟨hopens, parent, hparent, hpair⟩
    have hobject := hopens.parent?
    have hany := (hfirst object hobject).2 hopens.2
    have hguard : ¬(guarded && decide (parent.kind = .pair)) = true := by
      rw [Bool.and_eq_true, decide_eq_true_eq]
      exact fun h => hpair h.1 h.2
    simp only [hobject, hopens.1, ne_eq, not_true_eq_false, if_false, hany, Bool.not_true,
      Bool.false_eq_true, hparent, if_neg hguard]

/-- A property opens what its literal declares, in whatever order and way it is asked for. -/
theorem ofPropertyIn?_eq_some_iff (hproperty : property.IsIn tree) {guarded : Bool}
    {order : List (Cursor → Option Match)} (horder : order.Perm (tests file)) {m : Match} :
    ofPropertyIn? guarded order property = some m ↔
      ∃ object, Opens property object ∧ shape? file object = some m := by
  rw [ofPropertyIn?, Option.bind_eq_some_iff]
  constructor
  · rintro ⟨object, hobject, hm⟩
    obtain ⟨hopens, -⟩ := (openedObjectIn?_eq_some_iff hproperty).1 hobject
    rw [findSome?_tests (hproperty.parent hopens.parent?).1 horder] at hm
    exact ⟨object, hopens, hm⟩
  · rintro ⟨object, hopens, hm⟩
    have hobject := (hproperty.parent hopens.parent?).1
    obtain ⟨parent, hparent, hpair⟩ := exists_parent_of_shape? hobject hm
    refine ⟨object, (openedObjectIn?_eq_some_iff hproperty).2 ⟨hopens, parent, hparent, ?_⟩, ?_⟩
    · exact fun _ => hpair
    · rw [findSome?_tests hobject horder, hm]

theorem ofProperty?_eq_ofPropertyIn? (hproperty : property.IsIn tree) :
    ofProperty? property file = ofPropertyIn? true (tests file) property := by
  rw [ofProperty?_eq_bind, ofPropertyIn?, openedObjectIn?_true]
  cases hobject : openedObject? property with
  | none => rfl
  | some object =>
      rw [← openedObjectIn?_true, openedObjectIn?_eq_some_iff hproperty] at hobject
      rw [Option.bind_some, Option.bind_some,
        findSome?_tests (hproperty.parent hobject.1.parent?).1 (List.Perm.refl _)]

end

/-- **The tests exclude each other**: at most one of them finds something at a node, and none if the
node stands in a pair.  A property opens what one of the tests finds at the literal whose first
property it is, and nothing otherwise; the order of the tests does not matter, nor does a look at what
the literal stands in. -/
theorem tests_exclusive {tree : Node} {object property : Cursor} (hobject : object.IsIn tree)
    (hproperty : property.IsIn tree) (file : SourceFile) :
    ((tests file).countP (fun test => (test object).isSome) ≤ 1 ∧
      ∀ parent, object.parent? = some parent → parent.kind = .pair →
        ∀ test ∈ tests file, test object = none) ∧
    (∀ m, ofProperty? property file = some m ↔
      ∃ o, Opens property o ∧ ∃ test ∈ tests file, test o = some m) ∧
    ∀ guarded order, order.Perm (tests file) →
      ofPropertyIn? guarded order property = ofProperty? property file := by
  refine ⟨⟨countP_tests_le_one hobject, ?_⟩, fun m => ?_, fun guarded order horder => ?_⟩
  · intro parent hparent hpair test htest
    rw [Option.eq_none_iff_forall_ne_some]
    intro m hm
    obtain ⟨parent', hparent', hpair'⟩ := exists_parent_of_shape? hobject
      ((shape?_eq_some_iff_exists_test hobject).2 ⟨test, htest, hm⟩)
    obtain rfl := Option.some.inj (hparent.symm.trans hparent')
    exact hpair' hpair
  · rw [ofProperty?_eq_ofPropertyIn? hproperty,
      ofPropertyIn?_eq_some_iff hproperty (List.Perm.refl _)]
    refine exists_congr fun o => and_congr_right fun hopens => ?_
    exact shape?_eq_some_iff_exists_test (hproperty.parent hopens.parent?).1
  · rw [ofProperty?_eq_ofPropertyIn? hproperty]
    refine Option.ext fun m => ?_
    rw [ofPropertyIn?_eq_some_iff hproperty horder,
      ofPropertyIn?_eq_some_iff hproperty (List.Perm.refl _)]

/-- A script in which a literal is registered and holds another one. -/
def nestedFile : SourceFile :=
  .ofScript "a.js" (Utf8.encode "Vue.component('a', {data: {x: 1}})")

theorem tests_exclusive_nested :
    ∃ inner first : Cursor, inner.IsIn nestedFile.tree ∧ first.IsIn nestedFile.tree ∧
      (∀ test ∈ tests nestedFile, test inner = none) ∧
      ofPropertyIn? false (tests nestedFile).reverse first = some ⟨"a", .components⟩ := by
  obtain ⟨outer, inner, hobjects⟩ : ∃ outer inner : Cursor,
      (nestedFile.root.preorder.filter fun c => c.kind = .object) = [outer, inner] :=
    List.length_eq_two.1 (by decide +kernel)
  obtain ⟨first, second, hpairs⟩ : ∃ first second : Cursor,
      (nestedFile.root.preorder.filter fun c => c.kind = .pair) = [first, second] :=
    List.length_eq_two.1 (by decide +kernel)
  have hinner : inner.IsIn nestedFile.tree := by
    have hmem : inner ∈ [outer, inner] := by simp
    rw [← hobjects] at hmem
    exact Cursor.mem_preorder_iff.1 (List.mem_of_mem_filter hmem)
  have hfirst : first.IsIn nestedFile.tree := by
    have hmem : first ∈ [first, second] := by simp
    rw [← hpairs] at hmem
    exact Cursor.mem_preorder_iff.1 (List.mem_of_mem_filter hmem)
  have hparents : ((nestedFile.root.preorder.filter fun c => c.kind = .object).map
      fun c => c.parent?.map Cursor.kind) = [some .arguments, some .pair] := by
    decide +kernel
  have hopened : ((nestedFile.root.preorder.filter fun c => c.kind = .pair).map
      fun c => ofProperty? c nestedFile) = [some ⟨"a", .components⟩, none] := by
    decide +kernel
  rw [hobjects, List.map_cons, List.map_singleton, List.cons.injEq, List.singleton_inj] at hparents
  rw [hpairs, List.map_cons, List.map_singleton, List.cons.injEq] at hopened
  obtain ⟨parent, hparent, hkind⟩ := Option.map_eq_some_iff.1 hparents.2
  obtain ⟨⟨-, hnone⟩, -, horder⟩ := tests_exclusive hinner hfirst nestedFile
  refine ⟨inner, first, hinner, hfirst, hnone parent hparent hkind, ?_⟩
  rw [horder false _ (List.reverse_perm _), hopened.1]

end ComponentIndex.Descriptor
