/-
**The shapes of descriptors as a relation.**

An object literal is a descriptor by where it stands: as the value of a default export of a
component file, as the second argument of `Vue.component` behind a string literal, or as the first
argument of `new Vue` or `Vue.extend`.  The three tests of `ComponentIndex.Descriptor`, which look
upwards from the literal, find exactly these.

Main definitions:

* `ComponentIndex.Script.Node.SpellsAt`, `ComponentIndex.Script.Node.IsNamed` — the text at a key of
  a literal, and the name that it gives;
* `ComponentIndex.Descriptor.IsArgument` — a literal is a given argument of a call;
* `ComponentIndex.Descriptor.Describes` — a literal is a descriptor.

Main results:

* `ComponentIndex.Descriptor.ofExport?_eq_some_iff`,
  `ComponentIndex.Descriptor.ofRegistration?_eq_some_iff`,
  `ComponentIndex.Descriptor.ofInstance?_eq_some_iff` — the three tests;
* `ComponentIndex.Descriptor.shape?_eq_some_iff` — all of them in their order.
-/

import ComponentIndex.Descriptor
import ComponentIndex.Proofs.Script.Preorder
import ComponentIndex.Proofs.Script.Reference
import Mathlib.Data.List.Basic

set_option relaxedAutoImplicit false
set_option autoImplicit false

namespace ComponentIndex

open Script (Cursor Node)

/-! ### The text at a key -/

namespace Script.Node

/-- The first pair of a literal with the given key has a string literal with the given value as its
value. -/
def SpellsAt (key : Text) (object : Node) (t : Text) : Prop :=
  ∃ before pair after value, object.properties = before ++ pair :: after ∧
    (∀ p ∈ before, ¬p.hasKey key) ∧ pair.hasKey key ∧
    pair.childIn? .value = some value ∧ value.stringValue? = some t

/-- The name that a literal gives at a key: the text there, or another name if there is none. -/
def IsNamed (key otherwise : Text) (object : Node) (name : Text) : Prop :=
  object.SpellsAt key name ∨ (∀ t, ¬object.SpellsAt key t) ∧ name = otherwise

theorem stringProperty?_eq_some_iff {key t : Text} {object : Node} :
    object.stringProperty? key = some t ↔ object.SpellsAt key t := by
  rw [stringProperty?, findPropertyValue?, findProperty?]
  constructor
  · intro h
    obtain ⟨value, h, ht⟩ := Option.bind_eq_some_iff.1 h
    obtain ⟨pair, h, hvalue⟩ := Option.bind_eq_some_iff.1 h
    obtain ⟨hkey, before, after, hsplit, hbefore⟩ := List.find?_eq_some_iff_append.1 h
    exact ⟨before, pair, after, value, hsplit, by simpa using hbefore, hkey, hvalue, ht⟩
  · rintro ⟨before, pair, after, value, hsplit, hbefore, hkey, hvalue, ht⟩
    have hfind : object.properties.find? (hasKey key) = some pair :=
      List.find?_eq_some_iff_append.2 ⟨hkey, before, after, hsplit, by simpa using hbefore⟩
    rw [hfind, Option.bind_some, hvalue, Option.bind_some, ht]

theorem getD_stringProperty? {key otherwise name : Text} {object : Node} :
    (object.stringProperty? key).getD otherwise = name ↔ object.IsNamed key otherwise name := by
  rw [IsNamed]
  cases h : object.stringProperty? key with
  | none =>
      have hnot : ∀ t, ¬object.SpellsAt key t := fun t ht => by
        rw [stringProperty?_eq_some_iff.2 ht] at h
        simp at h
      rw [Option.getD_none]
      exact ⟨fun hname => Or.inr ⟨hnot, hname.symm⟩,
        fun hname => (hname.resolve_left (hnot name)).2.symm⟩
  | some t =>
      have ht := stringProperty?_eq_some_iff.1 h
      rw [Option.getD_some]
      constructor
      · rintro rfl
        exact Or.inl ht
      · rintro (hname | ⟨hnot, -⟩)
        · rw [stringProperty?_eq_some_iff.2 hname] at h
          exact (Option.some.inj h).symm
        · exact absurd ht (hnot t)

end Script.Node

namespace Descriptor

/-! ### Descriptors by where they stand -/

/-- The literal is the argument of a call at an index, comments not counted. -/
def IsArgument (index : Nat) (call object : Cursor) : Prop :=
  ∃ args, call.childIn? .arguments = some args ∧ args.kind = .arguments ∧
    args.significantChildren[index]? = some object

/-- The literal is the exported value of a default export. -/
def IsExported (object : Cursor) : Prop :=
  ∃ statement : Cursor, statement.kind = .exportStatement ∧
    (∃ c ∈ statement.node.children, c.kind = .token "default") ∧
    statement.childIn? .value = some object

/-- An object literal is a descriptor that declares something. -/
inductive Describes (file : SourceFile) (object : Cursor) : Match → Prop
  | exported {name : Text} (hfile : file.isComponent = true) (hvalue : IsExported object)
      (hname : object.node.IsNamed "name" file.stem name) :
      Describes file object ⟨name, .components⟩
  | registered {call first : Cursor} (hkind : call.kind = .callExpression)
      (hcallee : call.node.Applies .function ["Vue", "component"])
      (hobject : IsArgument 1 call object) (hfirst : IsArgument 0 call first)
      (hstring : first.kind = .string) :
      Describes file object ⟨first.node.unquotedText, .components⟩
  | created {call : Cursor} {name : Text} (hkind : call.kind = .newExpression)
      (hcallee : call.node.Applies .constructor ["Vue"]) (hobject : IsArgument 0 call object)
      (hname : object.node.IsNamed "el" [] name) : Describes file object ⟨name, .options⟩
  | extended {call : Cursor} {name : Text} (hkind : call.kind = .callExpression)
      (hcallee : call.node.Applies .function ["Vue", "extend"]) (hobject : IsArgument 0 call object)
      (hname : object.node.IsNamed "el" [] name) : Describes file object ⟨name, .options⟩

/-! ### Looking upwards -/

section

variable {tree : Node} {object call first : Cursor} {index : Nat}

theorem mem_children_of_childIn? {role : Script.Role} {c d : Cursor}
    (h : c.childIn? role = some d) : d ∈ c.children := List.mem_of_find?_eq_some h

theorem mem_children_of_significantChildren {c d : Cursor}
    (h : c.significantChildren[index]? = some d) : d ∈ c.children :=
  List.mem_of_mem_filter (List.mem_of_mem_filter (List.mem_of_getElem? h))

theorem isArgument_iff_getElem? :
    IsArgument index call object ↔ call.callArguments[index]? = some object := by
  rw [IsArgument, Cursor.callArguments]
  cases hargs : call.childIn? .arguments with
  | none => simp
  | some args =>
      by_cases hkind : args.kind = .arguments
      · simp [hkind]
      · simp [hkind]

/-- The call among whose arguments a literal stands encloses the literal. -/
theorem IsArgument.enclosingCall? (h : IsArgument index call object)
    (hcall : call.kind.isCall = true) : enclosingCall? object = some call := by
  obtain ⟨args, hargs, hkind, hobject⟩ := h
  have hparent := Cursor.parent?_of_mem_children (mem_children_of_significantChildren hobject)
  have hgrand := Cursor.parent?_of_mem_children (mem_children_of_childIn? hargs)
  simp only [Descriptor.enclosingCall?, hparent, hgrand, hkind, hcall, ne_eq, not_true_eq_false,
    if_false, if_true]

theorem isIn_of_enclosingCall? (hobject : object.IsIn tree)
    (h : enclosingCall? object = some call) : call.IsIn tree ∧ call.kind.isCall = true := by
  rw [Descriptor.enclosingCall?] at h
  cases hparent : object.parent? with
  | none => simp [hparent] at h
  | some args =>
      simp only [hparent, ne_eq, ite_not] at h
      split at h
      · cases hgrand : args.parent? with
        | none => simp [hgrand] at h
        | some c =>
            simp only [hgrand] at h
            split at h
            · rename_i hcall
              obtain rfl := Option.some.inj h
              exact ⟨((hobject.parent hparent).1.parent hgrand).1, hcall⟩
            · simp at h
      · simp at h

theorem isArgument_eq_true_iff (hobject : object.IsIn tree) (hcall : call.IsIn tree) :
    isArgument index object call = true ↔ IsArgument index call object := by
  rw [isArgument_iff_getElem?, isArgument]
  refine Cursor.any_isSame_iff hobject fun found hfound => ?_
  obtain ⟨args, hargs, -, hmem⟩ := isArgument_iff_getElem?.2 hfound
  exact (hcall.of_mem_children (mem_children_of_childIn? hargs)).of_mem_children
    (mem_children_of_significantChildren hmem)

/-- A literal stands among the arguments of the call around it, or of none. -/
theorem enclosingCall?_and_isArgument_iff (hobject : object.IsIn tree) :
    (enclosingCall? object = some call ∧ isArgument index object call = true) ↔
      call.kind.isCall = true ∧ IsArgument index call object := by
  constructor
  · rintro ⟨henclosing, hargument⟩
    obtain ⟨hcall, hkind⟩ := isIn_of_enclosingCall? hobject henclosing
    exact ⟨hkind, (isArgument_eq_true_iff hobject hcall).1 hargument⟩
  · rintro ⟨hkind, hargument⟩
    have henclosing := hargument.enclosingCall? hkind
    have hcall := (isIn_of_enclosingCall? hobject henclosing).1
    exact ⟨henclosing, (isArgument_eq_true_iff hobject hcall).2 hargument⟩

theorem isDefaultExport_iff (hobject : object.IsIn tree) :
    isDefaultExport object = true ↔ IsExported object := by
  have hup : ∀ statement : Cursor, statement.childIn? .value = some object →
      object.parent? = some statement := fun statement h =>
    Cursor.parent?_of_mem_children (mem_children_of_childIn? h)
  rw [isDefaultExport, IsExported]
  cases hparent : object.parent? with
  | none =>
      simp only [Bool.false_eq_true, false_iff]
      rintro ⟨statement, -, -, hvalue⟩
      rw [hup statement hvalue] at hparent
      simp at hparent
  | some parent =>
      have hparentIn := (hobject.parent hparent).1
      have hvalue : (parent.childIn? .value).any object.isSame = true ↔
          parent.childIn? .value = some object :=
        Cursor.any_isSame_iff hobject fun found hfound =>
          hparentIn.of_mem_children (mem_children_of_childIn? hfound)
      simp only [Bool.and_eq_true, decide_eq_true_eq, List.any_eq_true, hvalue]
      constructor
      · rintro ⟨⟨hkind, hdefault⟩, hvalue⟩
        exact ⟨parent, hkind, hdefault, hvalue⟩
      · rintro ⟨statement, hkind, hdefault, hvalue⟩
        obtain rfl := Option.some.inj (hparent.symm.trans (hup statement hvalue))
        exact ⟨⟨hkind, hdefault⟩, hvalue⟩

end

/-! ### The three tests -/

section

variable {tree : Node} {object : Cursor} {file : SourceFile} {m : Match}

theorem ofExport?_eq_some_iff (hobject : object.IsIn tree) :
    ofExport? object file = some m ↔
      file.isComponent = true ∧ IsExported object ∧ m.key = .components ∧
        object.node.IsNamed "name" file.stem m.name := by
  rw [ofExport?, ← isDefaultExport_iff hobject, ← Node.getD_stringProperty?]
  obtain ⟨name, key⟩ := m
  by_cases hfile : file.isComponent = true
  · by_cases hvalue : isDefaultExport object = true
    · simp only [hfile, hvalue, Bool.and_self, if_true, Option.some.injEq, Match.mk.injEq,
        true_and]
      rw [and_comm, @eq_comm _ Key.components]
    · simp [hvalue]
  · simp [hfile]

theorem ofRegistration?_eq_some_iff (hobject : object.IsIn tree) :
    ofRegistration? object = some m ↔
      ∃ call first : Cursor, call.kind = .callExpression ∧
        call.node.Applies .function ["Vue", "component"] ∧ IsArgument 1 call object ∧
        IsArgument 0 call first ∧ first.kind = .string ∧
        m = ⟨first.node.unquotedText, .components⟩ := by
  have hcalls : ∀ call : Cursor, call.kind = .callExpression →
      (call.node.calls registration = true ↔
        call.node.Applies .function ["Vue", "component"]) := fun call hkind => by
    have hkind' : call.node.kind = .callExpression := hkind
    rw [Node.calls_iff, registration]
    simp [hkind']
  rw [ofRegistration?]
  constructor
  · intro h
    cases henclosing : enclosingCall? object with
    | none => simp [henclosing] at h
    | some call =>
        simp only [henclosing] at h
        split at h
        · rename_i htest
          simp only [Bool.and_eq_true, decide_eq_true_eq] at htest
          obtain ⟨⟨hkind, hcallee⟩, hargument⟩ := htest
          obtain ⟨-, hobject'⟩ :=
            (enclosingCall?_and_isArgument_iff hobject).1 ⟨henclosing, hargument⟩
          cases hfirst : call.callArguments.head? with
          | none => simp [hfirst] at h
          | some first =>
              simp only [hfirst] at h
              split at h
              · rename_i hstring
                rw [List.head?_eq_getElem?] at hfirst
                exact ⟨call, first, hkind, (hcalls call hkind).1 hcallee, hobject',
                  isArgument_iff_getElem?.2 hfirst, hstring, (Option.some.inj h).symm⟩
              · simp at h
        · simp at h
  · rintro ⟨call, first, hkind, hcallee, hobject', hfirst, hstring, rfl⟩
    obtain ⟨henclosing, hargument⟩ := (enclosingCall?_and_isArgument_iff hobject).2
      ⟨by rw [hkind]; rfl, hobject'⟩
    rw [isArgument_iff_getElem?, ← List.head?_eq_getElem?] at hfirst
    simp [henclosing, hkind, (hcalls call hkind).2 hcallee, hargument, hfirst, hstring]

theorem isInstance_iff (hobject : object.IsIn tree) :
    isInstance object = true ↔
      ∃ call : Cursor, IsArgument 0 call object ∧
        (call.kind = .newExpression ∧ call.node.Applies .constructor ["Vue"] ∨
          call.kind = .callExpression ∧ call.node.Applies .function ["Vue", "extend"]) := by
  have hcalls : ∀ call : Cursor, call.kind.isCall = true →
      ((if call.kind = .newExpression then call.node.calls instanceMaker
        else call.node.calls extension) = true ↔
        (call.kind = .newExpression ∧ call.node.Applies .constructor ["Vue"] ∨
          call.kind = .callExpression ∧ call.node.Applies .function ["Vue", "extend"])) := by
    intro call hcall
    by_cases hnew : call.kind = .newExpression
    · have hnew' : call.node.kind = .newExpression := hnew
      rw [if_pos hnew, Node.calls_iff, instanceMaker]
      simp [hnew, hnew']
    · have hkind : call.kind = .callExpression := by
        revert hcall hnew
        cases call.kind <;> simp [Script.Kind.isCall]
      have hkind' : call.node.kind = .callExpression := hkind
      rw [if_neg hnew, Node.calls_iff, extension]
      simp [hkind, hkind']
  rw [isInstance]
  constructor
  · intro h
    cases henclosing : enclosingCall? object with
    | none => simp [henclosing] at h
    | some call =>
        simp only [henclosing, Bool.and_eq_true] at h
        obtain ⟨hkind, hargument⟩ :=
          (enclosingCall?_and_isArgument_iff hobject).1 ⟨henclosing, h.1⟩
        exact ⟨call, hargument, (hcalls call hkind).1 h.2⟩
  · rintro ⟨call, hargument, hcallee⟩
    have hkind : call.kind.isCall = true := by
      rcases hcallee with ⟨hkind, -⟩ | ⟨hkind, -⟩
      · rw [hkind]; rfl
      · rw [hkind]; rfl
    obtain ⟨henclosing, hargument'⟩ :=
      (enclosingCall?_and_isArgument_iff hobject).2 ⟨hkind, hargument⟩
    simp only [henclosing, Bool.and_eq_true]
    exact ⟨hargument', (hcalls call hkind).2 hcallee⟩

theorem ofInstance?_eq_some_iff :
    ofInstance? object = some m ↔
      isInstance object = true ∧ m.key = .options ∧ object.node.IsNamed "el" [] m.name := by
  rw [ofInstance?, ← Node.getD_stringProperty?]
  obtain ⟨name, key⟩ := m
  by_cases hinstance : isInstance object = true
  · simp only [hinstance, if_true, Option.some.injEq, Match.mk.injEq, true_and]
    rw [and_comm, @eq_comm _ Key.options]
  · simp [hinstance]

/-! ### All tests in their order -/

/-- What a literal declares by where it stands. -/
def shape? (file : SourceFile) (object : Cursor) : Option Match :=
  if isDefaultExport object && file.isComponent then ofExport? object file
  else (ofRegistration? object).or (ofInstance? object)

theorem IsArgument.parent {index : Nat} {call : Cursor} (h : IsArgument index call object) :
    ∃ args : Cursor, object.parent? = some args ∧ args.kind = .arguments := by
  obtain ⟨args, -, hkind, hobject⟩ := h
  exact ⟨args, Cursor.parent?_of_mem_children (mem_children_of_significantChildren hobject), hkind⟩

theorem IsExported.parent (h : IsExported object) :
    ∃ statement : Cursor, object.parent? = some statement ∧ statement.kind = .exportStatement := by
  obtain ⟨statement, hkind, -, hvalue⟩ := h
  exact ⟨statement, Cursor.parent?_of_mem_children (mem_children_of_childIn? hvalue), hkind⟩

/-- An exported literal is no argument. -/
theorem IsExported.not_isArgument (h : IsExported object) (index : Nat) (call : Cursor) :
    ¬IsArgument index call object := by
  intro hargument
  obtain ⟨statement, hparent, hkind⟩ := h.parent
  obtain ⟨args, hparent', hkind'⟩ := hargument.parent
  rw [hparent] at hparent'
  obtain rfl := Option.some.inj hparent'
  simp [hkind] at hkind'

/-- A registered literal describes no instance: the call around it applies one reference only. -/
theorem ofInstance?_eq_none (hobject : object.IsIn tree) {m : Match}
    (h : ofRegistration? object = some m) : ofInstance? object = none := by
  obtain ⟨call, first, hkind, hcallee, hargument, -⟩ := (ofRegistration?_eq_some_iff hobject).1 h
  rw [ofInstance?, if_neg]
  intro hinstance
  obtain ⟨call', hargument', hcallee'⟩ := (isInstance_iff hobject).1 hinstance
  have hcall := hargument.enclosingCall? (by rw [hkind]; rfl)
  have hcall' := hargument'.enclosingCall? (by
    rcases hcallee' with ⟨h, -⟩ | ⟨h, -⟩ <;> rw [h] <;> rfl)
  -- Both are arguments of the one call around the literal, whose callee has one spelling.
  rw [hcall] at hcall'
  obtain rfl := Option.some.inj hcall'
  rcases hcallee' with ⟨hnew, -⟩ | ⟨-, hextend⟩
  · simp [hkind] at hnew
  · obtain ⟨f, hf, hreference⟩ := hcallee
    obtain ⟨f', hf', hreference'⟩ := hextend
    rw [hf] at hf'
    obtain rfl := Option.some.inj hf'
    have hnames := hreference.referenceChain?.symm.trans hreference'.referenceChain?
    exact absurd (Option.some.inj hnames) (by decide)

/-- The tests find the descriptors. -/
theorem shape?_eq_some_iff (hobject : object.IsIn tree) :
    shape? file object = some m ↔ Describes file object m := by
  rw [shape?]
  by_cases hexported : IsExported object ∧ file.isComponent = true
  · have htest : (isDefaultExport object && file.isComponent) = true := by
      rw [(isDefaultExport_iff hobject).2 hexported.1, hexported.2]
      rfl
    -- The parent of an exported literal is a statement, so the literal is no argument as well.
    rw [if_pos htest, ofExport?_eq_some_iff hobject]
    obtain ⟨name, key⟩ := m
    constructor
    · rintro ⟨hfile, hvalue, rfl, hname⟩
      exact .exported hfile hvalue hname
    · intro h
      cases h with
      | exported hfile hvalue hname => exact ⟨hfile, hvalue, rfl, hname⟩
      | registered _ _ hargument => exact absurd hargument (hexported.1.not_isArgument _ _)
      | created _ _ hargument => exact absurd hargument (hexported.1.not_isArgument _ _)
      | extended _ _ hargument => exact absurd hargument (hexported.1.not_isArgument _ _)
  · have htest : ¬(isDefaultExport object && file.isComponent) = true := by
      rw [Bool.and_eq_true, isDefaultExport_iff hobject]
      exact hexported
    rw [if_neg htest, Option.or_eq_some_iff]
    constructor
    · rintro (h | ⟨-, h⟩)
      · obtain ⟨call, first, hkind, hcallee, hargument, hfirst, hstring, rfl⟩ :=
          (ofRegistration?_eq_some_iff hobject).1 h
        exact .registered hkind hcallee hargument hfirst hstring
      · obtain ⟨name, key⟩ := m
        obtain ⟨hinstance, rfl, hname⟩ := ofInstance?_eq_some_iff.1 h
        obtain ⟨call, hargument, ⟨hkind, hcallee⟩ | ⟨hkind, hcallee⟩⟩ :=
          (isInstance_iff hobject).1 hinstance
        · exact .created hkind hcallee hargument hname
        · exact .extended hkind hcallee hargument hname
    · intro h
      -- An instance is only asked for where no registration is found; none can be in its way.
      have hor : ofInstance? object = some m →
          ofRegistration? object = some m ∨
            ofRegistration? object = none ∧ ofInstance? object = some m := fun h => by
        cases hregistered : ofRegistration? object with
        | none => exact Or.inr ⟨rfl, h⟩
        | some m' => simp [ofInstance?_eq_none hobject hregistered] at h
      cases h with
      | exported hfile hvalue => exact absurd ⟨hvalue, hfile⟩ hexported
      | registered hkind hcallee hargument hfirst hstring =>
          exact Or.inl ((ofRegistration?_eq_some_iff hobject).2
            ⟨_, _, hkind, hcallee, hargument, hfirst, hstring, rfl⟩)
      | created hkind hcallee hargument hname =>
          exact hor (ofInstance?_eq_some_iff.2
            ⟨(isInstance_iff hobject).2 ⟨_, hargument, Or.inl ⟨hkind, hcallee⟩⟩, rfl, hname⟩)
      | extended hkind hcallee hargument hname =>
          exact hor (ofInstance?_eq_some_iff.2
            ⟨(isInstance_iff hobject).2 ⟨_, hargument, Or.inr ⟨hkind, hcallee⟩⟩, rfl, hname⟩)

end

end Descriptor

end ComponentIndex
