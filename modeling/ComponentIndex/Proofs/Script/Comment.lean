/-
**Trees without their comments.**

A comment can stand between any two tokens, so every decision about a tree has to pass over it.  The
*bare* form of a tree holds what decisions may depend on: comments are left out, and so are the places
of nodes and the texts that nothing reads.  What a node spells, the pairs that it holds and the names
that it refers to are those of its bare form.

Main definitions:

* `ComponentIndex.Script.Node.isPlainComment` — a comment as it can stand anywhere;
* `ComponentIndex.Script.Node.bare` — the bare form of a tree;
* `ComponentIndex.Script.Node.Commented` — a tree with comments inserted.

Main results:

* `ComponentIndex.Script.Node.bare_eq_of_commented` — **inserting comments** does not change the bare
  form;
* `ComponentIndex.Script.Node.stringProperty?_bare`, `ComponentIndex.Script.Node.findProperty?_bare`,
  `ComponentIndex.Script.Node.calleeChain?_bare` — what is read off the bare form.
-/

import ComponentIndex.Proofs.Script.Reference
import ComponentIndex.Script.Object

set_option relaxedAutoImplicit false
set_option autoImplicit false

namespace ComponentIndex.Script

/-! ### Bare trees -/

/-- The texts of nodes of this kind are read: those of literals, of what a string literal is made of,
and of names. -/
def Kind.isTextual (kind : Kind) : Bool :=
  kind.isLiteral || kind = .stringFragment || kind = .escapeSequence || kind = .identifier ||
    kind = .propertyIdentifier

/-- A kind that passes a test is none that fails it. -/
theorem Kind.ne_of_test {p : Kind → Bool} {kind other : Kind} (h : p kind = true)
    (hother : p other = false) : kind ≠ other := by
  rintro rfl
  rw [h] at hother
  cases hother

namespace Node

/-- A comment as it can stand anywhere: it plays no role and has no children. -/
def isPlainComment (n : Node) : Bool :=
  n.kind = .comment && n.role = none && n.children.isEmpty

/-- The node is no comment that can stand anywhere. -/
def stays (n : Node) : Bool := !n.isPlainComment

mutual

/-- The tree without its comments, the places of its nodes and the texts that nothing reads. -/
def bare : Node → Node
  | ⟨kind, role, _, text, children⟩ =>
    ⟨kind, role, 0, if kind.isTextual then text else [], bareAll children⟩

/-- The bare forms of some nodes, without the comments among them. -/
def bareAll : List Node → List Node
  | [] => []
  | n :: ns => if n.stays then n.bare :: bareAll ns else bareAll ns

end

@[simp] theorem kind_bare (n : Node) : n.bare.kind = n.kind := by
  obtain ⟨kind, role, start, text, children⟩ := n
  rw [bare]

@[simp] theorem role_bare (n : Node) : n.bare.role = n.role := by
  obtain ⟨kind, role, start, text, children⟩ := n
  rw [bare]

theorem bareAll_eq (ns : List Node) : bareAll ns = (ns.filter stays).map bare := by
  induction ns with
  | nil => rw [bareAll, List.filter_nil, List.map_nil]
  | cons n ns ih =>
      rw [bareAll, List.filter_cons, ih]
      split
      · rw [List.map_cons]
      · rfl

theorem children_bare (n : Node) : n.bare.children = (n.children.filter stays).map bare := by
  obtain ⟨kind, role, start, text, children⟩ := n
  rw [bare, bareAll_eq]

theorem text_bare {n : Node} (h : n.kind.isTextual = true) : n.bare.text = n.text := by
  obtain ⟨kind, role, start, text, children⟩ := n
  rw [bare, if_pos h]

theorem stays_of_kind {n : Node} (h : n.kind ≠ .comment) : n.stays = true := by
  simp [stays, isPlainComment, h]

theorem stays_of_role {n : Node} (h : n.role ≠ none) : n.stays = true := by
  simp [stays, isPlainComment, h]

theorem stays_of_mem_children {n c : Node} (h : c ∈ n.children) : n.stays = true := by
  have hne : n.children.isEmpty = false := by
    rw [List.isEmpty_eq_false_iff]
    exact List.ne_nil_of_mem h
  simp [stays, isPlainComment, hne]

theorem kind_of_not_stays {n : Node} (h : n.stays = false) : n.kind = .comment := by
  by_cases hkind : n.kind = .comment
  · exact hkind
  · rw [stays_of_kind hkind] at h
    cases h

theorem role_of_not_stays {n : Node} (h : n.stays = false) : n.role = none := by
  by_cases hrole : n.role = none
  · exact hrole
  · rw [stays_of_role hrole] at h
    cases h

/-! ### Trees with comments inserted -/

mutual

/-- The second tree is the first one with comments inserted among the children of inner nodes whose
kinds are open to them. Nodes may have moved, and only texts that are read are still the same. -/
inductive Commented (opens : Kind → Bool) : Node → Node → Prop
  | node {kind : Kind} {role : Option Role} {start start' : Nat} {text text' : Text}
      {children children' : List Node} (htext : kind.isTextual = true → text' = text)
      (hchildren : CommentedAll opens (opens kind && !children.isEmpty) children children') :
      Commented opens ⟨kind, role, start, text, children⟩ ⟨kind, role, start', text', children'⟩

/-- The second list is the first one with comments inserted into its trees and, if it is open to
them, between these. -/
inductive CommentedAll (opens : Kind → Bool) : Bool → List Node → List Node → Prop
  | nil {isOpen : Bool} : CommentedAll opens isOpen [] []
  | cons {isOpen : Bool} {n n' : Node} {ns ns' : List Node} (hhead : Commented opens n n')
      (htail : CommentedAll opens isOpen ns ns') : CommentedAll opens isOpen (n :: ns) (n' :: ns')
  | insert {isOpen : Bool} {comment : Node} {ns ns' : List Node} (hopen : isOpen = true)
      (hcomment : comment.isPlainComment = true) (htail : CommentedAll opens isOpen ns ns') :
      CommentedAll opens isOpen ns (comment :: ns')

end

section

variable {opens : Kind → Bool} {n n' : Node}

theorem Commented.kind_eq (h : Commented opens n n') : n'.kind = n.kind := by
  cases h
  rfl

theorem Commented.role_eq (h : Commented opens n n') : n'.role = n.role := by
  cases h
  rfl

/-- Comments are inserted into inner nodes only, so that a comment stays one. -/
theorem Commented.stays_eq (h : Commented opens n n') : n'.stays = n.stays := by
  cases h with
  | @node kind role start start' text text' children children' htext hchildren =>
      cases children with
      | nil =>
          rw [List.isEmpty_nil, Bool.not_true, Bool.and_false] at hchildren
          cases hchildren with
          | nil => rfl
          | insert hopen => cases hopen
      | cons c cs =>
          cases hchildren with
          | cons hhead htail => simp [stays, isPlainComment]
          | insert hopen hcomment htail => simp [stays, isPlainComment]

mutual

/-- **Inserting comments** does not change the bare form of a tree. -/
theorem bare_eq_of_commented :
    ∀ {n n' : Node}, Commented opens n n' → n'.bare = n.bare
  | _, _, .node htext hchildren => by
    rw [bare, bare, bareAll_eq_of_commented hchildren]
    split
    next hkind => rw [htext hkind]
    · rfl

theorem bareAll_eq_of_commented :
    ∀ {isOpen : Bool} {ns ns' : List Node}, CommentedAll opens isOpen ns ns' →
      bareAll ns' = bareAll ns
  | _, _, _, .nil => rfl
  | _, _, _, .cons hhead htail => by
    rw [bareAll, bareAll, hhead.stays_eq, bare_eq_of_commented hhead,
      bareAll_eq_of_commented htail]
  | _, _, _, .insert _ hcomment htail => by
    rw [bareAll, stays, hcomment, bareAll_eq_of_commented htail]
    rfl

end

end

/-! ### What is read off a bare tree -/

section

variable (n : Node)

/-- Children that are selected by kind and role, comments left out, are selected in the bare form. -/
theorem filter_children_bare {p : Kind → Option Role → Bool} (hp : p .comment none = false) :
    n.bare.children.filter (fun c => p c.kind c.role) =
      (n.children.filter fun c => p c.kind c.role).map bare := by
  have hstays : ∀ c : Node, (p c.bare.kind c.bare.role && c.stays) = p c.kind c.role := by
    intro c
    rw [kind_bare, role_bare]
    cases hc : c.stays with
    | true => rw [Bool.and_true]
    | false =>
        rw [kind_of_not_stays hc, role_of_not_stays hc, hp]
        rfl
  rw [children_bare, List.filter_map, List.filter_filter]
  simp only [Function.comp_apply, hstays]

/-- A child that is sought by kind and role, comments left out, is found in the bare form. -/
theorem find?_children_bare {p : Kind → Option Role → Bool} (hp : p .comment none = false) :
    n.bare.children.find? (fun c => p c.kind c.role) =
      (n.children.find? fun c => p c.kind c.role).map bare := by
  rw [← List.head?_filter, filter_children_bare n hp, List.head?_map, List.head?_filter]

@[simp] theorem childIn?_bare (role : Role) : n.bare.childIn? role = (n.childIn? role).map bare :=
  n.find?_children_bare (p := fun _ r => r = some role) rfl

@[simp] theorem properties_bare : n.bare.properties = n.properties.map bare :=
  n.filter_children_bare (p := fun kind _ => kind.isProperty) rfl

/-- A child of a kind, other than a comment, is there in the bare form too. -/
theorem any_children_bare {kind : Kind} (hkind : kind ≠ .comment) :
    (n.bare.children.any fun c => c.kind = kind) = n.children.any fun c => c.kind = kind := by
  have hp : decide (Kind.comment = kind) = false := decide_eq_false (Ne.symm hkind)
  have hfind := n.find?_children_bare (p := fun k _ => k = kind) hp
  rw [← List.isSome_find?, ← List.isSome_find?, hfind, Option.isSome_map]

/-! #### Strings and keys -/

theorem fragmentValue_bare : n.bare.fragmentValue = n.fragmentValue := by
  rw [fragmentValue, fragmentValue, kind_bare]
  cases htextual : n.kind.isTextual with
  | true => rw [text_bare htextual]
  | false =>
      have hfragment : n.kind ≠ .stringFragment :=
        (Kind.ne_of_test (p := Kind.isTextual) rfl htextual).symm
      have hescape : n.kind ≠ .escapeSequence :=
        (Kind.ne_of_test (p := Kind.isTextual) rfl htextual).symm
      split
      · contradiction
      · contradiction
      · rfl

theorem spelledValue_bare : n.bare.spelledValue = n.spelledValue := by
  rw [spelledValue, spelledValue, children_bare]
  induction n.children with
  | nil => rfl
  | cons c cs ih =>
      rw [List.filter_cons, List.flatMap_cons, ← ih]
      cases hc : c.stays with
      | true =>
          rw [if_pos rfl, List.map_cons, List.flatMap_cons, fragmentValue_bare]
      | false =>
          -- A comment among the fragments adds nothing.
          rw [if_neg Bool.false_ne_true, fragmentValue, kind_of_not_stays hc]
          rfl

@[simp] theorem stringValue?_bare : n.bare.stringValue? = n.stringValue? := by
  rw [stringValue?, stringValue?, kind_bare, spelledValue_bare]

@[simp] theorem spellsKey_bare (name : Text) : spellsKey name n.bare = spellsKey name n := by
  rw [spellsKey, spellsKey, kind_bare, stringValue?_bare]
  by_cases hkind : n.kind = .propertyIdentifier
  · rw [text_bare (by rw [hkind]; rfl)]
  · rw [decide_eq_false hkind, Bool.false_and, Bool.false_and]

@[simp] theorem hasKey_bare (name : Text) : n.bare.hasKey name = n.hasKey name := by
  rw [hasKey, hasKey, kind_bare, childIn?_bare, Option.any_map]
  simp only [spellsKey_bare]

/-- **The pair with a given key** is the same in the bare form. -/
theorem findProperty?_bare (name : Text) :
    n.bare.findProperty? name = (n.findProperty? name).map bare := by
  rw [findProperty?, findProperty?, properties_bare, List.find?_map]
  simp only [Function.comp_def, hasKey_bare]

/-- The string at a key is the same in the bare form. -/
@[simp] theorem stringProperty?_bare (name : Text) :
    n.bare.stringProperty? name = n.stringProperty? name := by
  rw [stringProperty?, stringProperty?, findPropertyValue?, findPropertyValue?, findProperty?_bare]
  cases n.findProperty? name with
  | none => rfl
  | some pair =>
      rw [Option.map_some, Option.bind_some, Option.bind_some, childIn?_bare, Option.bind_map]
      simp only [Function.comp_def, stringValue?_bare]

/-! #### References -/

theorem plainMember?_bare : plainMember? n.bare.children = plainMember? n.children := by
  have hproperty : (n.bare.children.find? fun c => c.role = some .property) =
      (n.children.find? fun c => c.role = some .property).map bare := childIn?_bare n .property
  rw [plainMember?, plainMember?, n.any_children_bare (by decide), hproperty]
  split
  · rfl
  · cases n.children.find? fun c => c.role = some .property with
    | none => rfl
    | some property =>
        simp only [Option.map_some, kind_bare]
        split
        next hkind => rw [text_bare (by rw [hkind]; rfl)]
        · rfl

/-- **The names of a reference** are read off the bare form. -/
@[simp] theorem referenceChain?_bare : n.bare.referenceChain? = n.referenceChain? := by
  -- The object of a member access is found by its role, so the recursion goes down by size.
  induction hsize : n.size using Nat.strongRecOn generalizing n with
  | ind size ih =>
      by_cases hid : n.kind = .identifier
      · rw [referenceChain?_identifier hid, referenceChain?_identifier (by rw [kind_bare, hid]),
          text_bare (by rw [hid]; rfl)]
      · by_cases hmember : n.kind = .memberExpression
        · rw [referenceChain?_member hmember, referenceChain?_member (by rw [kind_bare, hmember]),
            plainMember?_bare, childIn?_bare]
          cases hobject : n.childIn? .object with
          | none => rfl
          | some object =>
              have hlt := size_lt_of_mem_children (mem_children_of_childIn? hobject)
              rw [Option.map_some, Option.bind_some, Option.bind_some,
                ih object.size (hsize ▸ hlt) object rfl]
        · rw [referenceChain?_other hid hmember, referenceChain?_other]
          · rwa [kind_bare]
          · rwa [kind_bare]

/-- The names of what a call applies are read off the bare form. -/
@[simp] theorem calleeChain?_bare : n.bare.calleeChain? = n.calleeChain? := by
  have hcallee : n.bare.callee? = n.callee?.map bare := by
    rw [callee?, callee?, kind_bare]
    split
    · exact childIn?_bare n .function
    · exact childIn?_bare n .constructor
    · rfl
  rw [calleeChain?, calleeChain?, hcallee, Option.bind_map]
  simp only [Function.comp_def, referenceChain?_bare]

end

end Node

end ComponentIndex.Script
