/-
**Plain references as a relation.**

A plain reference is an identifier, or a member access by a public name that is not optional, of an
object that is a plain reference itself.  The names of a reference are read off by
`ComponentIndex.Script.Node.referenceChain?`.

Main definitions:

* `ComponentIndex.Script.Node.IsReference` — a node is the plain reference with given names;
* `ComponentIndex.Script.Node.Applies` — a call or a `new` expression applies such a reference.

Main results:

* `ComponentIndex.Script.Node.referenceChain?_eq_some_iff` — the names that are read off a node are
  those of the reference it is.
-/

import ComponentIndex.Script.Reference

set_option relaxedAutoImplicit false
set_option autoImplicit false

namespace ComponentIndex.Script.Node

/-- The node is the plain reference with the given names. -/
inductive IsReference : Node → List Text → Prop
  | identifier {n : Node} (hkind : n.kind = .identifier) : IsReference n [n.text]
  | member {n object property : Node} {names : List Text} (hkind : n.kind = .memberExpression)
      (hlink : ∀ c ∈ n.children, c.kind ≠ .optionalChain)
      (hproperty : n.childIn? .property = some property)
      (hname : property.kind = .propertyIdentifier)
      (hobject : n.childIn? .object = some object) (hchain : IsReference object names) :
      IsReference n (names ++ [property.text])

/-- The child in a given role is the plain reference with the given names. -/
def Applies (role : Role) (names : List Text) (n : Node) : Prop :=
  ∃ callee, n.childIn? role = some callee ∧ callee.IsReference names

/-! ### The names of a reference -/

theorem size_lt_of_mem_children {n c : Node} (h : c ∈ n.children) : c.size < n.size := by
  have hmem : ∀ ns : List Node, c ∈ ns → c.size ≤ sizeAll ns := by
    intro ns
    induction ns with
    | nil => simp
    | cons m ns ih =>
        intro hc
        rw [sizeAll]
        rcases List.mem_cons.1 hc with rfl | hc
        · omega
        · have := ih hc
          omega
  have := hmem n.children h
  rw [← size_eq n]
  omega

theorem mem_children_of_childIn? {role : Role} {n c : Node} (h : n.childIn? role = some c) :
    c ∈ n.children := List.mem_of_find?_eq_some h

theorem objectChain?_eq (ns : List Node) :
    objectChain? ns = (ns.find? fun c => c.role = some .object).bind referenceChain? := by
  induction ns with
  | nil => rfl
  | cons n ns ih =>
      rw [objectChain?, List.find?_cons]
      by_cases h : n.role = some .object
      · simp [h]
      · simp [h, ih]

/-- The name of an accessed member: the access is not optional, and the name is public. -/
theorem plainMember?_eq_some_iff {n : Node} {name : Text} :
    plainMember? n.children = some name ↔
      (∀ c ∈ n.children, c.kind ≠ .optionalChain) ∧
        ∃ property, n.childIn? .property = some property ∧
          property.kind = .propertyIdentifier ∧ property.text = name := by
  have hlink : (n.children.any fun c => c.kind = .optionalChain) = false ↔
      ∀ c ∈ n.children, c.kind ≠ .optionalChain := by simp
  cases h : n.children.any fun c => c.kind = .optionalChain with
  | true =>
      have hnot : ¬∀ c ∈ n.children, c.kind ≠ .optionalChain := by
        rw [← hlink, h]
        exact Bool.noConfusion
      simp [plainMember?, h, hnot]
  | false =>
      rw [h] at hlink
      rw [plainMember?, h, if_neg Bool.false_ne_true, and_iff_right (hlink.1 rfl)]
      cases hproperty : n.childIn? .property with
      | none =>
          rw [childIn?] at hproperty
          simp [hproperty]
      | some property =>
          rw [childIn?] at hproperty
          simp [hproperty]

theorem referenceChain?_member {n : Node} (h : n.kind = .memberExpression) :
    n.referenceChain? =
      (plainMember? n.children).bind fun name =>
        ((n.childIn? .object).bind referenceChain?).map (· ++ [name]) := by
  obtain ⟨kind, role, start, text, children⟩ := n
  obtain rfl : kind = .memberExpression := h
  rw [referenceChain?, objectChain?_eq]
  cases plainMember? children with
  | none => rfl
  | some name => rfl

theorem referenceChain?_identifier {n : Node} (h : n.kind = .identifier) :
    n.referenceChain? = some [n.text] := by
  obtain ⟨kind, role, start, text, children⟩ := n
  obtain rfl : kind = .identifier := h
  rw [referenceChain?]

theorem referenceChain?_other {n : Node} (h : n.kind ≠ .identifier)
    (h' : n.kind ≠ .memberExpression) : n.referenceChain? = none := by
  obtain ⟨kind, role, start, text, children⟩ := n
  rw [referenceChain?]
  · exact h
  · exact h'

theorem IsReference.referenceChain? {n : Node} {names : List Text} (h : n.IsReference names) :
    n.referenceChain? = some names := by
  induction h with
  | identifier hkind => exact referenceChain?_identifier hkind
  | @member n object property names hkind hlink hproperty hname hobject _ ih =>
      have hplain : plainMember? n.children = some property.text :=
        plainMember?_eq_some_iff.2 ⟨hlink, property, hproperty, hname, rfl⟩
      rw [referenceChain?_member hkind, hplain, hobject, Option.bind_some, Option.bind_some, ih]
      rfl

theorem isReference_of_referenceChain? {n : Node} {names : List Text}
    (h : n.referenceChain? = some names) : n.IsReference names := by
  -- The object of a member access is found by its role, so the recursion goes down by size.
  induction hsize : n.size using Nat.strongRecOn generalizing n names with
  | ind size ih =>
      by_cases hid : n.kind = .identifier
      · rw [referenceChain?_identifier hid] at h
        obtain rfl := Option.some.inj h
        exact .identifier hid
      · by_cases hmember : n.kind = .memberExpression
        · rw [referenceChain?_member hmember] at h
          obtain ⟨name, hplain, h⟩ := Option.bind_eq_some_iff.1 h
          obtain ⟨chain, hchain, rfl⟩ := Option.map_eq_some_iff.1 h
          obtain ⟨object, hobject, hchain⟩ := Option.bind_eq_some_iff.1 hchain
          obtain ⟨hlink, property, hproperty, hname, rfl⟩ := plainMember?_eq_some_iff.1 hplain
          have hlt := size_lt_of_mem_children (mem_children_of_childIn? hobject)
          exact .member hmember hlink hproperty hname hobject
            (ih object.size (hsize ▸ hlt) hchain rfl)
        · rw [referenceChain?_other hid hmember] at h
          simp at h

/-- The names that are read off a node are those of the plain reference it is. -/
theorem referenceChain?_eq_some_iff {n : Node} {names : List Text} :
    n.referenceChain? = some names ↔ n.IsReference names :=
  ⟨isReference_of_referenceChain?, IsReference.referenceChain?⟩

/-! ### What a call applies -/

theorem calleeChain?_eq_some_iff {n : Node} {names : List Text} :
    n.calleeChain? = some names ↔
      (n.kind = .callExpression ∧ n.Applies .function names) ∨
        (n.kind = .newExpression ∧ n.Applies .constructor names) := by
  rw [calleeChain?, callee?]
  split
  · rename_i hkind
    simp [hkind, Option.bind_eq_some_iff, referenceChain?_eq_some_iff, Applies]
  · rename_i hkind
    simp [hkind, Option.bind_eq_some_iff, referenceChain?_eq_some_iff, Applies]
  · rename_i hcall hnew
    simp only [Option.bind_none, reduceCtorEq, false_iff]
    rintro (⟨h, -⟩ | ⟨h, -⟩)
    · exact hcall h
    · exact hnew h

theorem calls_iff {n : Node} {names : List Text} :
    n.calls names = true ↔
      (n.kind = .callExpression ∧ n.Applies .function names) ∨
        (n.kind = .newExpression ∧ n.Applies .constructor names) := by
  rw [calls, decide_eq_true_iff, calleeChain?_eq_some_iff]

end ComponentIndex.Script.Node
