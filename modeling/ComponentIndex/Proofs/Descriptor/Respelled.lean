/-
**Descriptors do not depend on how keys are written.**

An exported component is named by the string at its key `name`, and an instance by the one at `el`.
Where the literal stands is told by nodes that are no keys, and the string is found whatever the
spelling of the key.  So a tree with other spellings of keys has the same components and instances,
under the same names.

Main results:

* `ComponentIndex.Descriptor.ofExport?_of_respelled`,
  `ComponentIndex.Descriptor.ofInstance?_of_respelled` — the two shapes;
* `ComponentIndex.Descriptor.keys_areSpelledFreely` — **keys, however they are written**.
-/

import ComponentIndex.Descriptor
import ComponentIndex.Proofs.Script.KeySpelling
import ComponentIndex.Script.Program

set_option relaxedAutoImplicit false
set_option autoImplicit false

namespace ComponentIndex.Descriptor

open Script (Cursor Kind Node Role)

variable {object object' : Cursor}

/-! ### Where a descriptor stands -/

/-- The call around a literal is found again. -/
theorem enclosingCall?_of_respelled (h : object.Respelled object') :
    Option.Rel (fun call call' => Cursor.Respelled call call' ∧ call.kind.isCall = true)
      (enclosingCall? object) (enclosingCall? object') := by
  have hparent := h.parent?
  rw [enclosingCall?, enclosingCall?]
  generalize object.parent? = args?, object'.parent? = args?' at hparent
  cases hparent with
  | none => exact .none
  | @some args args' hargs =>
      have hgrand := hargs.parent?
      simp only [hargs.kind_eq]
      split
      · exact .none
      · generalize args.parent? = call?, args'.parent? = call?' at hgrand
        cases hgrand with
        | none => exact .none
        | some hcall =>
            simp only [hcall.kind_eq]
            split
            next hiscall => exact .some ⟨hcall, hiscall⟩
            · exact .none

/-- A literal stands at the same index among the arguments. -/
theorem isArgument_of_respelled {call call' : Cursor} (h : object.Respelled object')
    (hcall : call.Respelled call') (hiscall : call.kind.isCall = true) (index : Nat) :
    isArgument index object' call' = isArgument index object call := by
  have hargs := hcall.callArguments (Kind.ne_of_test hiscall rfl)
  exact any_eq_of_rel (fun _ _ hargument => h.isSame_eq hargument)
    (forall₂_getElem? hargs index)

theorem isDefaultExport_of_respelled (h : object.Respelled object') :
    isDefaultExport object' = isDefaultExport object := by
  have hparent := h.parent?
  rw [isDefaultExport, isDefaultExport]
  generalize object.parent? = parent?, object'.parent? = parent?' at hparent
  cases hparent with
  | none => rfl
  | @some parent parent' hparent =>
      -- Of the children of a pair the key might have another kind; a statement is no pair.
      simp only [hparent.kind_eq]
      by_cases hkind : parent.kind = .exportStatement
      · have hpair : parent.kind ≠ .pair := by rw [hkind]; decide
        rw [Node.any_kind_eq (hparent.node.children hpair),
          any_eq_of_rel (fun _ _ hvalue => h.isSame_eq hvalue)
            (hparent.childIn? hpair .value)]
      · rw [decide_eq_false hkind, Bool.false_and, Bool.false_and, Bool.false_and, Bool.false_and]

theorem isInstance_of_respelled (h : object.Respelled object') :
    isInstance object' = isInstance object := by
  have henclosing := enclosingCall?_of_respelled h
  rw [isInstance, isInstance]
  generalize enclosingCall? object = call?, enclosingCall? object' = call?' at henclosing
  cases henclosing with
  | none => rfl
  | some hcall =>
      obtain ⟨hcall, hiscall⟩ := hcall
      simp only [isArgument_of_respelled h hcall hiscall, hcall.kind_eq, hcall.node.calls_eq]

/-! ### The names of descriptors -/

/-- An exported component has the same name. -/
theorem ofExport?_of_respelled (h : object.Respelled object') (hkind : object.kind = .object)
    (file : SourceFile) : ofExport? object' file = ofExport? object file := by
  rw [ofExport?, ofExport?, isDefaultExport_of_respelled h,
    h.node.stringProperty?_eq (by rw [← Cursor.kind, hkind]; decide)]

/-- An instance has the same name. -/
theorem ofInstance?_of_respelled (h : object.Respelled object') (hkind : object.kind = .object) :
    ofInstance? object' = ofInstance? object := by
  rw [ofInstance?, ofInstance?, isInstance_of_respelled h,
    h.node.stringProperty?_eq (by rw [← Cursor.kind, hkind]; decide)]

/-- **Keys, however they are written.** The first pair in source order whose key is a name with the
given text, or a string literal with it as its value, is found in an object literal, and nothing else
is. If keys are written in other such ways, in the literal or around it, the pair that is found stands
at the same place, and the literal gives an exported component and an instance the same name. So it is
for each literal of a tree, as none stands inside of a name or a string. -/
theorem keys_areSpelledFreely :
    (∀ (object : Node) (name : Text),
      (∀ p, object.findProperty? name = some p ↔
        ∃ before after, object.children = before ++ p :: after ∧ Node.IsKeyed name p ∧
          ∀ q ∈ before, ¬Node.IsKeyed name q) ∧
      (object.findProperty? name = none ↔ ∀ q ∈ object.children, ¬Node.IsKeyed name q)) ∧
    (∀ object object' : Cursor, object.Respelled object' → object.kind = .object →
      (∀ name, (object.findProperty? name).map Cursor.node = object.node.findProperty? name ∧
        (object'.findProperty? name).map Cursor.path =
          (object.findProperty? name).map Cursor.path) ∧
      (∀ file, ofExport? object' file = ofExport? object file) ∧
      ofInstance? object' = ofInstance? object) ∧
    ∀ tree tree' : Node, tree.Respelled tree' → ∀ object : Cursor, object.IsIn tree →
      object.kind = .object →
      (∀ a ∈ object.ancestors, a.kind ≠ .propertyIdentifier ∧ a.kind ≠ .string) →
        ∃ object', object'.IsIn tree' ∧ object.Respelled object' := by
  refine ⟨fun object name => ?_, fun object object' h hkind => ?_, ?_⟩
  · exact ⟨fun p => Node.findProperty?_eq_some_iff, Node.findProperty?_eq_none_iff⟩
  · refine ⟨fun name => ⟨object.map_node_findProperty? name, ?_⟩, ofExport?_of_respelled h hkind,
      ofInstance?_of_respelled h hkind⟩
    exact map_eq_of_rel (fun _ _ hpair => hpair.path_eq)
      (h.findProperty? (by rw [hkind]; decide) name)
  · intro tree tree' htree object hobject hkind hancestors
    refine Cursor.exists_respelled htree hobject (List.forall_mem_cons.2 ⟨?_, hancestors⟩)
    rw [hkind]
    decide

/-- An instance whose keys are written as names where that is possible. -/
def plainInstance : Node :=
  Script.parse "new Vue(\x7b'a b': \x7bel: c\x7d, el: '#d', el: e\x7d)".toUTF8.toList

/-- The same instance, whose keys are written with quotes and escapes. -/
def quotedInstance : Node :=
  Script.parse
    "new Vue(\x7b\"a\\x20b\": \x7b'el': c\x7d, \"\\u0065l\": '#d', 'el': e\x7d)".toUTF8.toList

theorem keys_areSpelledFreely_quoted :
    plainInstance.Respelled quotedInstance ∧
      ∃ object object', object.IsIn plainInstance ∧ object'.IsIn quotedInstance ∧
        ofInstance? object = some ⟨"#d", .options⟩ ∧
        ofInstance? object' = some ⟨"#d", .options⟩ := by
  obtain ⟨-, hnames, hexists⟩ := keys_areSpelledFreely
  have htree : plainInstance.Respelled quotedInstance := by decide +kernel
  obtain ⟨object, hmem, hkind, hancestors, hnamed⟩ :
      ∃ object ∈ (Cursor.root plainInstance).preorder, object.kind = .object ∧
        (∀ a ∈ object.ancestors, a.kind ≠ .propertyIdentifier ∧ a.kind ≠ .string) ∧
        ofInstance? object = some ⟨"#d", .options⟩ := by decide +kernel
  have hobject := Cursor.mem_preorder_iff.1 hmem
  obtain ⟨object', hobject', h⟩ := hexists _ _ htree object hobject hkind hancestors
  exact ⟨htree, object, object', hobject, hobject', hnamed,
    (hnames object object' h hkind).2.2.trans hnamed⟩

end ComponentIndex.Descriptor
