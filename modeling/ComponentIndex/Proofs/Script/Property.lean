/-
**Where properties start.**

In a tree that is laid out, with each object literal opened by a brace, no two properties of object
literals start at the same place: the properties of an outer literal and those of an inner one are
parted by the brace of the inner one.

Main definitions:

* `ComponentIndex.Script.Kind.isMember` — properties and opening braces, which are never empty;
* `ComponentIndex.Script.Node.OpensWithBrace` — a brace stands before the properties of a node.

Main results:

* `ComponentIndex.Script.Cursor.property_start_ne` — **properties start at different places**.
-/

import ComponentIndex.Proofs.Script.Layout
import ComponentIndex.Script.Object

set_option relaxedAutoImplicit false
set_option autoImplicit false

namespace ComponentIndex.Script

/-! ### Opening braces -/

/-- The brace that opens an object literal. -/
def Kind.openBrace : Kind := .token "\x7b"

/-- A property or an opening brace. -/
def Kind.isMember (kind : Kind) : Bool := kind.isProperty || kind = .openBrace

/-- Of the properties and opening braces among the children of a node, a brace comes first. -/
def Node.OpensWithBrace (n : Node) : Prop :=
  ∃ brace, n.children.find? (fun c => c.kind.isMember) = some brace ∧ brace.kind = .openBrace

instance (n : Node) : Decidable n.OpensWithBrace :=
  decidable_of_iff
    ((n.children.find? fun c => c.kind.isMember).any (fun c => c.kind = .openBrace) = true) (by
      simp only [Option.any_eq_true, decide_eq_true_eq]
      rfl)

theorem Kind.ne_openBrace {kind : Kind} (h : kind.isProperty = true) : kind ≠ .openBrace := by
  rintro rfl
  cases h

section

variable {solid : Kind → Bool}

/-- What comes after a node that is not empty starts after the place where the node can start. -/
theorem Fill.start_lt_of_mem_append {lo hi : Nat} {before after : List Node} {b n : Node}
    (h : Fill solid lo hi (before ++ b :: after)) (hb : solid b.kind = true) (hn : n ∈ after) :
    lo < n.start := by
  induction before generalizing lo with
  | nil =>
      obtain ⟨mid, hlo, hends, hafter⟩ := fill_cons.1 h
      have := (Node.endsAt_iff.1 hends).2.1 hb
      have := (hafter.endsAt_of_mem hn).1
      omega
  | cons m before ih =>
      obtain ⟨mid, hlo, hends, hrest⟩ := fill_cons.1 h
      have := (Node.endsAt_iff.1 hends).1
      have := ih hrest
      omega

end

/-- The properties of a literal start behind the place where the literal starts. -/
theorem Node.EndsAt.start_lt_of_property {n p : Node} {stop : Nat}
    (hn : n.EndsAt Kind.isMember stop) (hbrace : n.OpensWithBrace) (hp : p ∈ n.children)
    (hproperty : p.kind.isProperty = true) :
    n.start < p.start := by
  obtain ⟨brace, hfirst, hkind⟩ := hbrace
  obtain ⟨hmember, before, after, hchildren, hbefore⟩ := List.find?_eq_some_iff_append.1 hfirst
  have hfill := (Node.endsAt_iff.1 hn).2.2
  rw [hchildren] at hfill hp
  rcases List.mem_append.1 hp with hp | hp
  · have := hbefore p hp
    simp [Kind.isMember, hproperty] at this
  · rcases List.mem_cons.1 hp with rfl | hp
    · exact absurd hkind (Kind.ne_openBrace hproperty)
    · exact hfill.start_lt_of_mem_append hmember hp

namespace Cursor

/-! ### Properties of one tree -/

section

variable {tree : Node} {size : Nat} (hlayout : tree.IsLaidOut Kind.isMember size)
  (hbraces : ∀ o ∈ (root tree).preorder, o.kind = .object → o.node.OpensWithBrace)

include hlayout hbraces

/-- A property starts before all properties of object literals that come after it in pre-order. -/
theorem property_start_lt {p q object object' : Cursor} (hobject : object.IsIn tree)
    (hobject' : object'.IsIn tree) (hkind' : object'.kind = .object) (hp : p ∈ object.children)
    (hq : q ∈ object'.children) (hpkind : p.kind.isProperty = true)
    (hqkind : q.kind.isProperty = true) (h : p ∈ q.ancestors ∨ EndsBefore Kind.isMember p q) :
    p.node.start < q.node.start := by
  rcases h with habove | hends
  · -- The literal of the inner property lies in the outer one, and its brace parts the two.
    rw [ancestors_of_mem_children hq, List.mem_cons] at habove
    rcases habove with rfl | habove
    · rw [hkind'] at hpkind
      cases hpkind
    · obtain ⟨stop, -, hpends⟩ := endsAt_of_mem_children hlayout hobject hp
      obtain ⟨hle, stop', -, hends⟩ := endsAt_of_mem_preorder hpends
        (hobject'.mem_preorder_of_mem_ancestors habove)
      have := hends.start_lt_of_property (hbraces object' (mem_preorder_iff.2 hobject') hkind')
        (mem_children_node hq) hqkind
      omega
  · exact hends.start_lt (by simp [Kind.isMember, hpkind])

/-- **Properties start at different places.** -/
theorem property_start_ne {p q object object' : Cursor} (hobject : object.IsIn tree)
    (hobject' : object'.IsIn tree) (hkind : object.kind = .object) (hkind' : object'.kind = .object)
    (hp : p ∈ object.properties) (hq : q ∈ object'.properties) (hne : p ≠ q) :
    p.node.start ≠ q.node.start := by
  obtain ⟨hp, hpkind⟩ := List.mem_filter.1 hp
  obtain ⟨hq, hqkind⟩ := List.mem_filter.1 hq
  rcases comparable hlayout (hobject.of_mem_children hp) (hobject'.of_mem_children hq) hne with
    h | h
  · have := property_start_lt hlayout hbraces hobject hobject' hkind' hp hq hpkind hqkind h
    omega
  · have := property_start_lt hlayout hbraces hobject' hobject hkind hq hp hqkind hpkind h
    omega

end

end Cursor

end ComponentIndex.Script
