/-
**Decisions along a faithful map.**

Whether a property opens a descriptor, and whether a literal is kept, is decided upwards from the node.
A faithful map of the nodes of a tree keeps each step of these decisions, and so their outcome.

Main results:

* `ComponentIndex.Descriptor.openedObject?_map` — the literal that a property opens;
* `ComponentIndex.Descriptor.ofProperty?_map` — **the descriptor that a property opens**;
* `ComponentIndex.Stub.isInsideDescriptor_map` — the call around a node;
* `ComponentIndex.Stub.isKept_map` — **the literals that are kept**.
-/

import ComponentIndex.Proofs.Descriptor.Shape
import ComponentIndex.Proofs.Script.Faithful
import ComponentIndex.Proofs.Stub

set_option relaxedAutoImplicit false
set_option autoImplicit false

namespace ComponentIndex

open Script (Cursor Kind Node Role)
open Script.Cursor (IsFaithful)

theorem Script.Node.isAside_of_kind {n : Node} (h : n.kind ≠ .comment) : n.isAside = false := by
  rw [isAside, decide_eq_false h, Bool.false_and]

theorem Script.Node.isAside_of_role {n : Node} {role : Role} (h : n.role = some role) :
    n.isAside = false := by
  rw [isAside, h]
  simp

theorem Script.Cursor.isAside_of_object {object : Cursor} (h : object.kind = .object) :
    object.node.isAside = false :=
  Node.isAside_of_kind (by rw [← Cursor.kind, h]; decide)

section

variable {tree : Node} {φ : Cursor → Cursor} {file : SourceFile}

/-- A text that is read is kept. -/
theorem Script.Cursor.IsFaithful.text (hφ : IsFaithful tree φ) {c : Cursor} (hc : c.IsIn tree)
    (htextual : c.kind.isTextual = true) : (φ c).text = c.text := by
  have hkind : c.kind ≠ .program := Kind.ne_of_test htextual rfl
  rcases hφ.node hc hkind with h | h
  · rw [Cursor.text, h]
    rfl
  · rw [Cursor.text, h]
    exact Node.text_bare htextual

namespace Descriptor

/-! ### Where a descriptor stands -/

/-- The first property of a literal is found on the way. -/
theorem isIn_of_head?_properties {object first : Cursor} (hobject : object.IsIn tree)
    (h : object.properties.head? = some first) : first.IsIn tree ∧ first.node.isAside = false := by
  obtain ⟨hin, hkind⟩ := Cursor.isIn_of_mem_properties hobject (List.mem_of_head? h)
  exact ⟨hin, Node.isAside_of_kind (Kind.ne_of_test hkind rfl)⟩

/-- **The literal that a property opens** is mapped to the literal that its image opens. -/
theorem openedObject?_map (hφ : IsFaithful tree φ) {property : Cursor}
    (hproperty : property.IsIn tree) (haside : property.node.isAside = false) :
    openedObject? (φ property) = (openedObject? property).map φ := by
  rw [openedObject?, openedObject?, hφ.parent? hproperty]
  cases hparent : property.parent? with
  | none => rfl
  | some object =>
      have hobject := (hproperty.parent hparent).1
      simp only [Option.map_some, hφ.kind hobject]
      by_cases hkind : object.kind = .object
      · have hne : object.kind ≠ .program := by rw [hkind]; decide
        rw [if_neg (not_not_intro hkind), if_neg (not_not_intro hkind),
          hφ.properties hobject hne, List.head?_map,
          hφ.any_isSame hproperty haside fun first hfirst =>
            isIn_of_head?_properties hobject hfirst, hφ.parent? hobject]
        split
        · rfl
        · cases hgrand : object.parent? with
          | none => rfl
          | some parent =>
              simp only [Option.map_some, hφ.kind (hobject.parent hgrand).1]
              split
              · rfl
              · rfl
      · rw [if_pos hkind, if_pos hkind, Option.map_none]

theorem isIn_of_openedObject? {property object : Cursor} (hproperty : property.IsIn tree)
    (h : openedObject? property = some object) : object.IsIn tree ∧ object.kind = .object := by
  rw [openedObject?] at h
  cases hparent : property.parent? with
  | none =>
      rw [hparent] at h
      cases h
  | some parent =>
      simp only [hparent] at h
      split at h
      · cases h
      next hkind =>
        split at h
        · cases h
        · split at h
          · cases h
          · split at h
            · cases h
            · obtain rfl := Option.some.inj h
              exact ⟨(hproperty.parent hparent).1, Classical.not_not.1 hkind⟩

/-- Only the properties of a literal open it. -/
theorem openedObject?_eq_none {property : Cursor} (hproperty : property.IsIn tree)
    (h : property.kind.isProperty = false) : openedObject? property = none := by
  rw [openedObject?]
  cases hparent : property.parent? with
  | none => rfl
  | some object =>
      have hobject := (hproperty.parent hparent).1
      have hfirst : object.properties.head?.any property.isSame = false := by
        cases hhead : object.properties.head? with
        | none => rfl
        | some first =>
            obtain ⟨hmem, hkind⟩ := List.mem_filter.1 (List.mem_of_head? hhead)
            rw [Option.any_some, Bool.eq_false_iff, ne_eq,
              Cursor.isSame_iff hproperty (hobject.of_mem_children hmem)]
            rintro rfl
            rw [h] at hkind
            cases hkind
      simp only [hfirst, Bool.not_false, if_true]
      split
      · rfl
      · rfl

/-- The call around a literal is mapped to the call around its image. -/
theorem enclosingCall?_map (hφ : IsFaithful tree φ) {object : Cursor} (hobject : object.IsIn tree) :
    enclosingCall? (φ object) = (enclosingCall? object).map φ := by
  rw [enclosingCall?, enclosingCall?, hφ.parent? hobject]
  cases hparent : object.parent? with
  | none => rfl
  | some args =>
      have hargs := (hobject.parent hparent).1
      simp only [Option.map_some, hφ.kind hargs]
      split
      · rfl
      · rw [hφ.parent? hargs]
        cases hgrand : args.parent? with
        | none => rfl
        | some call =>
            simp only [Option.map_some, hφ.kind (hargs.parent hgrand).1]
            split
            · rfl
            · rfl

/-- A literal stands at the same index among the arguments. -/
theorem isArgument_map (hφ : IsFaithful tree φ) {object call : Cursor} (hobject : object.IsIn tree)
    (haside : object.node.isAside = false) (hcall : call.IsIn tree)
    (hkind : call.kind ≠ .program) (index : Nat) :
    isArgument index (φ object) (φ call) = isArgument index object call := by
  rw [isArgument, isArgument, hφ.callArguments hcall hkind, List.getElem?_map,
    hφ.any_isSame hobject haside fun d hd => ?_]
  obtain ⟨hin, hcomment⟩ := Cursor.isIn_of_mem_callArguments hcall (List.mem_of_getElem? hd)
  exact ⟨hin, Node.isAside_of_kind hcomment⟩

theorem isDefaultExport_map (hφ : IsFaithful tree φ) {object : Cursor} (hobject : object.IsIn tree)
    (haside : object.node.isAside = false) :
    isDefaultExport (φ object) = isDefaultExport object := by
  rw [isDefaultExport, isDefaultExport, hφ.parent? hobject]
  cases hparent : object.parent? with
  | none => rfl
  | some parent =>
      have hin := (hobject.parent hparent).1
      simp only [Option.map_some, hφ.kind hin]
      by_cases hkind : parent.kind = .exportStatement
      · have hne : parent.kind ≠ .program := by rw [hkind]; decide
        have hdefault : ((φ parent).node.children.any fun c => c.kind = .token "default") =
            parent.node.children.any fun c => c.kind = .token "default" :=
          hφ.read hin hne (f := fun n => n.children.any fun c => c.kind = .token "default")
            fun n => n.any_children_bare (by decide)
        rw [hdefault, hφ.childIn? hin hne, hφ.any_isSame hobject haside fun d hd =>
          ⟨Cursor.isIn_of_childIn? hin hd, Node.isAside_of_role (Cursor.role_of_childIn? hd)⟩]
      · rw [decide_eq_false hkind, Bool.false_and, Bool.false_and, Bool.false_and, Bool.false_and]

/-! ### The descriptor that a property opens -/

section

variable {object : Cursor}

theorem stringProperty?_map (hφ : IsFaithful tree φ) (hobject : object.IsIn tree)
    (hkind : object.kind = .object) (key : Text) :
    (φ object).node.stringProperty? key = object.node.stringProperty? key :=
  hφ.read hobject (by rw [hkind]; decide) (f := Node.stringProperty? key)
    fun n => n.stringProperty?_bare key

theorem calls_map (hφ : IsFaithful tree φ) {call : Cursor} (hcall : call.IsIn tree)
    (hkind : call.kind ≠ .program) (names : List Text) :
    (φ call).node.calls names = call.node.calls names :=
  hφ.read hcall hkind (f := Node.calls names) fun n => by
    rw [Node.calls, Node.calls, Node.calleeChain?_bare]

theorem ofExport?_map (hφ : IsFaithful tree φ) (hobject : object.IsIn tree)
    (hkind : object.kind = .object) : ofExport? (φ object) file = ofExport? object file := by
  have haside := Cursor.isAside_of_object hkind
  rw [ofExport?, ofExport?, isDefaultExport_map hφ hobject haside,
    stringProperty?_map hφ hobject hkind]

theorem ofRegistration?_map (hφ : IsFaithful tree φ) (hobject : object.IsIn tree)
    (hkind : object.kind = .object) : ofRegistration? (φ object) = ofRegistration? object := by
  have haside := Cursor.isAside_of_object hkind
  rw [ofRegistration?, ofRegistration?, enclosingCall?_map hφ hobject]
  cases henclosing : enclosingCall? object with
  | none => rfl
  | some call =>
      obtain ⟨hcall, hiscall⟩ := isIn_of_enclosingCall? hobject henclosing
      have hne : call.kind ≠ .program := Kind.ne_of_test hiscall rfl
      simp only [Option.map_some, hφ.kind hcall, calls_map hφ hcall hne,
        isArgument_map hφ hobject haside hcall hne, hφ.callArguments hcall hne, List.head?_map]
      cases hhead : call.callArguments.head? with
      | none => rfl
      | some name =>
          have hname := (Cursor.isIn_of_mem_callArguments hcall (List.mem_of_head? hhead)).1
          simp only [Option.map_some, hφ.kind hname]
          by_cases hstring : name.kind = .string
          · have htext : (φ name).node.text = name.node.text :=
              hφ.text hname (by rw [hstring]; rfl)
            rw [Node.unquotedText, Node.unquotedText, htext]
          · rw [if_neg hstring, if_neg hstring]

theorem ofInstance?_map (hφ : IsFaithful tree φ) (hobject : object.IsIn tree)
    (hkind : object.kind = .object) : ofInstance? (φ object) = ofInstance? object := by
  have haside := Cursor.isAside_of_object hkind
  have hinstance : isInstance (φ object) = isInstance object := by
    rw [isInstance, isInstance, enclosingCall?_map hφ hobject]
    cases henclosing : enclosingCall? object with
    | none => rfl
    | some call =>
        obtain ⟨hcall, hiscall⟩ := isIn_of_enclosingCall? hobject henclosing
        have hne : call.kind ≠ .program := Kind.ne_of_test hiscall rfl
        simp only [Option.map_some, hφ.kind hcall, calls_map hφ hcall hne,
          isArgument_map hφ hobject haside hcall hne]
  rw [ofInstance?, ofInstance?, hinstance, stringProperty?_map hφ hobject hkind]

end

/-- **The descriptor that a property opens** is the one that its image opens. -/
theorem ofProperty?_map (hφ : IsFaithful tree φ) {property : Cursor} (hproperty : property.IsIn tree)
    (haside : property.node.isAside = false) :
    ofProperty? (φ property) file = ofProperty? property file := by
  rw [ofProperty?, ofProperty?, openedObject?_map hφ hproperty haside]
  cases hopened : openedObject? property with
  | none => rfl
  | some object =>
      obtain ⟨hobject, hkind⟩ := isIn_of_openedObject? hproperty hopened
      simp only [Option.map_some, isDefaultExport_map hφ hobject (Cursor.isAside_of_object hkind),
        ofExport?_map hφ hobject hkind, ofRegistration?_map hφ hobject hkind,
        ofInstance?_map hφ hobject hkind]

end Descriptor

/-! ### The literals that are kept -/

namespace Stub

theorem callAmong?_map (hφ : IsFaithful tree φ) {cs : List Cursor} (hcs : ∀ c ∈ cs, c.IsIn tree) :
    callAmong? (cs.map φ) = (callAmong? cs).map φ := by
  induction cs with
  | nil => rfl
  | cons c cs ih =>
      rw [List.forall_mem_cons] at hcs
      rw [List.map_cons, callAmong?, callAmong?, hφ.kind hcs.1, ih hcs.2]
      split
      · rfl
      · split
        · rfl
        · rfl

theorem isIn_of_callAmong? {cs : List Cursor} (hcs : ∀ c ∈ cs, c.IsIn tree) {call : Cursor}
    (h : callAmong? cs = some call) : call.IsIn tree ∧ call.kind.isCall = true := by
  obtain ⟨hcall, before, after, rfl, -⟩ := callAmong?_eq_some_iff.1 h
  exact ⟨hcs call (List.mem_append_right before List.mem_cons_self), hcall⟩

/-- Whether the call around a node mentions the framework is the same after the map. -/
theorem isInsideDescriptor_map (hφ : IsFaithful tree φ) {c : Cursor} (hc : c.IsIn tree) :
    isInsideDescriptor (φ c) = isInsideDescriptor c := by
  have hancestors : ∀ a ∈ c.ancestors, a.IsIn tree := fun a ha => hc.of_mem_ancestors ha
  rw [isInsideDescriptor, isInsideDescriptor, nearestCall?, nearestCall?, hφ.ancestors hc,
    callAmong?_map hφ hancestors]
  cases hcall : callAmong? c.ancestors with
  | none => rfl
  | some call =>
      obtain ⟨hin, hiscall⟩ := isIn_of_callAmong? hancestors hcall
      have hchain : (φ call).node.calleeChain? = call.node.calleeChain? :=
        hφ.read hin (Kind.ne_of_test hiscall rfl) Node.calleeChain?_bare
      simp only [Option.map_some, hchain]

/-- A node that plays another role in its parent is not required. -/
theorem isRequiredValue_eq_false {c parent : Cursor} (hc : c.IsIn tree)
    (hparent : c.parent? = some parent) (hrole : c.node.role ≠ some .value) :
    isRequiredValue c parent = false := by
  rw [Bool.eq_false_iff, ne_eq, isRequiredValue_iff hc hparent]
  rintro ⟨pair, key, -, -, hvalue, -⟩
  exact hrole (Cursor.role_of_childIn? hvalue)

theorem isRequiredValue_map (hφ : IsFaithful tree φ) {c parent : Cursor} (hc : c.IsIn tree)
    (haside : c.node.isAside = false) (hparent : c.parent? = some parent) :
    isRequiredValue (φ c) (φ parent) = isRequiredValue c parent := by
  have hin := (hc.parent hparent).1
  rw [isRequiredValue, isRequiredValue, hφ.kind hin]
  by_cases hkind : parent.kind = .pair
  · have hne : parent.kind ≠ .program := by rw [hkind]; decide
    have hkey : ((φ parent).node.childIn? .key).any (fun key =>
          key.kind = .propertyIdentifier && key.text = Text.ofString "required") =
        (parent.node.childIn? .key).any fun key =>
          key.kind = .propertyIdentifier && key.text = Text.ofString "required" := by
      refine hφ.read hin hne (f := fun n => (n.childIn? .key).any fun key =>
        key.kind = .propertyIdentifier && key.text = Text.ofString "required") fun n => ?_
      rw [Node.childIn?_bare, Option.any_map]
      congr 1
      funext key
      rw [Node.kind_bare]
      by_cases hname : key.kind = .propertyIdentifier
      · rw [Node.text_bare (by rw [hname]; rfl)]
      · rw [decide_eq_false hname, Bool.false_and, Bool.false_and]
    rw [hkey, hφ.childIn? hin hne, hφ.any_isSame hc haside fun d hd =>
      ⟨Cursor.isIn_of_childIn? hin hd, Node.isAside_of_role (Cursor.role_of_childIn? hd)⟩]
  · rw [decide_eq_false hkind, Bool.false_and, Bool.false_and, Bool.false_and, Bool.false_and]

theorem isSignificant_map (hφ : IsFaithful tree φ) {c : Cursor} (hc : c.IsIn tree)
    (haside : c.node.isAside = false) : isSignificant (φ c) file = isSignificant c file := by
  rw [isSignificant, isSignificant, hφ.parent? hc]
  cases hparent : c.parent? with
  | none => rfl
  | some parent =>
      simp only [Option.map_some, hφ.kind (hc.parent hparent).1,
        isRequiredValue_map hφ hc haside hparent, isInsideDescriptor_map hφ hc]

/-- **A literal is kept** if its image is. -/
theorem isKept_map (hφ : IsFaithful tree φ) {c : Cursor} (hc : c.IsIn tree) :
    isKept (φ c) file = isKept c file := by
  rw [isKept, isKept, hφ.kind hc]
  cases hliteral : c.kind.isLiteral with
  | false => rfl
  | true =>
      have haside : c.node.isAside = false := Node.isAside_of_kind (Kind.ne_of_test hliteral rfl)
      rw [isSignificant_map hφ hc haside]

end Stub

end

end ComponentIndex
