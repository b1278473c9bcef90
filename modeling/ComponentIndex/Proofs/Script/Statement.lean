/-
**The statements of a program.**

The nodes of a program that has some of the statements of another one are nodes of that one too: the
ways to them begin at another root, and with the index that the statement has there.  This embedding is
faithful, and the traversals of a program run through its statements one after the other.

Main definitions:

* `ComponentIndex.Script.Node.withStatements` — a program with other statements;
* `ComponentIndex.Script.Cursor.within` — a node of a part of a program, seen in the whole.

Main results:

* `ComponentIndex.Script.Cursor.isFaithful_within` — **the embedding** keeps what decisions look at;
* `ComponentIndex.Script.Cursor.allProperties_append`, `ComponentIndex.Script.Cursor.literals_append`
  — the traversals of a program with two lists of statements.
-/

import ComponentIndex.Proofs.Script.Faithful
import Mathlib.Data.List.Basic

set_option relaxedAutoImplicit false
set_option autoImplicit false

namespace ComponentIndex.Script

/-- A program with other statements; all else about it stays. -/
def Node.withStatements (program : Node) (statements : List Node) : Node :=
  { program with children := statements }

namespace Cursor

/-! ### The embedding -/

/-- The steps in a part of a program, seen in the whole; the statements of the part come behind
`offset` others. -/
def stepsWithin (whole : Node) (offset : Nat) : List Crumb → List Crumb
  | [] => []
  | [crumb] => [⟨whole, offset + crumb.index⟩]
  | crumb :: next :: crumbs => crumb :: stepsWithin whole offset (next :: crumbs)

/-- A node of a part of a program, seen in the whole. The root of the part becomes that of the
whole. -/
def within (whole : Node) (offset : Nat) : Cursor → Cursor
  | ⟨_, []⟩ => root whole
  | ⟨n, crumb :: crumbs⟩ => ⟨n, stepsWithin whole offset (crumb :: crumbs)⟩

section

variable {whole : Node} {offset : Nat} {c : Cursor}

theorem node_within (hc : c.crumbs ≠ []) : (c.within whole offset).node = c.node := by
  obtain ⟨n, crumbs⟩ := c
  cases crumbs with
  | nil => exact absurd rfl hc
  | cons crumb crumbs => rfl

theorem parent?_within (c : Cursor) :
    (c.within whole offset).parent? = c.parent?.map (within whole offset) := by
  obtain ⟨n, crumbs⟩ := c
  cases crumbs with
  | nil => rfl
  | cons crumb crumbs =>
      cases crumbs with
      | nil => rfl
      | cons next crumbs => rfl

theorem child_within (hc : c.crumbs ≠ []) (index : Nat) (n : Node) :
    (c.child index n).within whole offset = (c.within whole offset).child index n := by
  obtain ⟨m, crumbs⟩ := c
  cases crumbs with
  | nil => exact absurd rfl hc
  | cons crumb crumbs => rfl

theorem childrenFrom_within (hc : c.crumbs ≠ []) (index : Nat) (ns : List Node) :
    (c.within whole offset).childrenFrom index ns =
      (c.childrenFrom index ns).map (within whole offset) := by
  induction ns generalizing index with
  | nil => rfl
  | cons n ns ih => rw [childrenFrom, childrenFrom, List.map_cons, child_within hc, ih]

/-- Below the root the children of a node are the same in the whole. -/
theorem children_within (hc : c.crumbs ≠ []) :
    (c.within whole offset).children = c.children.map (within whole offset) := by
  rw [children, children, node_within hc, childrenFrom_within hc]

/-- The statements of a part are statements of the whole. -/
theorem statements_within (part whole : Node) (offset index : Nat) (ns : List Node) :
    (root whole).childrenFrom (offset + index) ns =
      ((root part).childrenFrom index ns).map (within whole offset) := by
  induction ns generalizing index with
  | nil => rfl
  | cons n ns ih =>
      rw [childrenFrom, childrenFrom, List.map_cons, ← ih]
      rfl

theorem crumbs_ne_nil_of_mem_children {d : Cursor} (h : d ∈ c.children) : d.crumbs ≠ [] := by
  obtain ⟨i, hi⟩ := crumbs_of_mem_children h
  rw [hi]
  exact List.cons_ne_nil _ _

/-- What lies below a node is the same in the whole. -/
theorem preorder_within (hc : c.crumbs ≠ []) :
    (c.within whole offset).preorder = c.preorder.map (within whole offset) := by
  induction c using inductionOn with
  | step c ih =>
      rw [preorder_eq, preorder_eq, List.map_cons, children_within hc, List.flatMap_map,
        List.map_flatMap]
      congr 1
      exact List.flatMap_congr fun d hd => ih d hd (crumbs_ne_nil_of_mem_children hd)

/-! ### The ways to nodes -/

/-- The indices on the way to a node, seen in the whole. -/
def pathWithin (offset : Nat) : List Nat → List Nat
  | [] => []
  | [i] => [offset + i]
  | i :: j :: path => i :: pathWithin offset (j :: path)

theorem path_within (c : Cursor) : (c.within whole offset).path = pathWithin offset c.path := by
  obtain ⟨n, crumbs⟩ := c
  cases crumbs with
  | nil => rfl
  | cons crumb crumbs =>
      rw [within, path, path]
      induction crumbs generalizing crumb with
      | nil => rfl
      | cons next crumbs ih =>
          rw [stepsWithin, List.map_cons, ih]
          rfl

theorem pathWithin_eq_nil_iff {p : List Nat} : pathWithin offset p = [] ↔ p = [] := by
  cases p with
  | nil => simp [pathWithin]
  | cons i p =>
      cases p with
      | nil => simp [pathWithin]
      | cons j p => simp [pathWithin]

theorem pathWithin_injective {p q : List Nat} (h : pathWithin offset p = pathWithin offset q) :
    p = q := by
  induction p using pathWithin.induct generalizing q with
  | case1 => exact (pathWithin_eq_nil_iff.1 h.symm).symm
  | case2 i =>
      cases q with
      | nil => cases h
      | cons j q =>
          cases q with
          | nil =>
              rw [pathWithin, pathWithin, List.cons.injEq] at h
              have hij : i = j := by omega
              rw [hij]
          | cons k q =>
              rw [pathWithin, pathWithin, List.cons.injEq] at h
              cases pathWithin_eq_nil_iff.1 h.2.symm
  | case3 i j path ih =>
      cases q with
      | nil => cases h
      | cons k q =>
          cases q with
          | nil =>
              rw [pathWithin, pathWithin, List.cons.injEq] at h
              cases pathWithin_eq_nil_iff.1 h.2
          | cons l q =>
              rw [pathWithin, pathWithin, List.cons.injEq] at h
              rw [h.1, ih h.2]

end

/-- The root of a program is a program, so that all other nodes have steps behind them. -/
theorem IsIn.crumbs_ne_nil {program : Node} {c : Cursor} (hc : c.IsIn program)
    (hprogram : program.kind = .program) (hkind : c.kind ≠ .program) : c.crumbs ≠ [] := by
  obtain ⟨n, crumbs⟩ := c
  rintro rfl
  obtain rfl : n = program := hc
  exact hkind hprogram

/-- **The embedding** of a part of a program keeps what decisions look at. -/
theorem isFaithful_within {part whole : Node} (hpart : part.kind = .program)
    (hwhole : whole.kind = .program) (offset : Nat) :
    IsFaithful part (within whole offset) := by
  have hkind {c : Cursor} (hc : c.IsIn part) : (c.within whole offset).kind = c.kind := by
    obtain ⟨n, crumbs⟩ := c
    cases crumbs with
    | nil =>
        obtain rfl : n = part := hc
        exact hwhole.trans hpart.symm
    | cons crumb crumbs => rfl
  refine ⟨hkind, fun hc hkind => Or.inl (node_within (hc.crumbs_ne_nil hpart hkind)),
    fun _ => parent?_within _, ?_, ?_⟩
  · intro c hc hne p _
    rw [children_within (hc.crumbs_ne_nil hpart hne), List.filter_map]
    congr 1
    refine List.filter_congr fun d hd => ?_
    rw [Function.comp_apply, hkind (hc.of_mem_children hd),
      node_within (crumbs_ne_nil_of_mem_children hd)]
  · intro c d _ _ _ _
    rw [isSame, isSame, Bool.eq_iff_iff, beq_iff_eq, beq_iff_eq, path_within, path_within]
    exact ⟨pathWithin_injective, congrArg _⟩

/-! ### Traversals of a program -/

theorem childrenFrom_append (c : Cursor) (index : Nat) (ns ms : List Node) :
    c.childrenFrom index (ns ++ ms) =
      c.childrenFrom index ns ++ c.childrenFrom (index + ns.length) ms := by
  induction ns generalizing index with
  | nil => rfl
  | cons n ns ih =>
      rw [List.cons_append, childrenFrom, childrenFrom, ih, List.cons_append, List.length_cons,
        Nat.add_right_comm, Nat.add_assoc]

section

variable {program : Node} (hprogram : program.kind = .program) (ss ts : List Node)

/-- What is selected among the nodes below some statements of a program. -/
theorem filter_preorder_statements {p : Cursor → Bool} (whole : Node) (offset : Nat)
    (hp : ∀ d : Cursor, d.IsIn (program.withStatements ss) → p (d.within whole offset) = p d) :
    (((root whole).childrenFrom offset ss).flatMap preorder).filter p =
      (((root (program.withStatements ss)).children.flatMap preorder).filter p).map
        (within whole offset) := by
  have hstatements : (root whole).childrenFrom offset ss =
      (root (program.withStatements ss)).children.map (within whole offset) :=
    statements_within (program.withStatements ss) whole offset 0 ss
  have hbelow : ((root (program.withStatements ss)).children.map (within whole offset)).flatMap
      preorder = ((root (program.withStatements ss)).children.flatMap preorder).map
        (within whole offset) := by
    rw [List.flatMap_map, List.map_flatMap]
    exact List.flatMap_congr fun d hd => preorder_within (crumbs_ne_nil_of_mem_children hd)
  rw [hstatements, hbelow, List.filter_map]
  congr 1
  refine List.filter_congr fun d hd => hp d ?_
  obtain ⟨e, he, hde⟩ := List.mem_flatMap.1 hd
  exact ((isIn_root _).of_mem_children he).of_mem_preorder hde

/-- Nodes that are selected in a program, its root not among them, are selected statement by
statement. -/
theorem filter_preorder_append {p : Cursor → Bool}
    (hroot : ∀ us, p (root (program.withStatements us)) = false)
    (hp : ∀ us offset d, d.IsIn (program.withStatements us) →
      p (d.within (program.withStatements (ss ++ ts)) offset) = p d) :
    (root (program.withStatements (ss ++ ts))).preorder.filter p =
      ((root (program.withStatements ss)).preorder.filter p).map
          (within (program.withStatements (ss ++ ts)) 0) ++
        ((root (program.withStatements ts)).preorder.filter p).map
          (within (program.withStatements (ss ++ ts)) ss.length) := by
  have hbelow : ∀ us, (root (program.withStatements us)).preorder.filter p =
      ((root (program.withStatements us)).children.flatMap preorder).filter p := by
    intro us
    rw [preorder_eq, List.filter_cons_of_neg (by rw [hroot]; exact Bool.false_ne_true)]
  have hchildren : (root (program.withStatements (ss ++ ts))).children =
      (root (program.withStatements (ss ++ ts))).childrenFrom 0 ss ++
        (root (program.withStatements (ss ++ ts))).childrenFrom ss.length ts := by
    have happend := childrenFrom_append (root (program.withStatements (ss ++ ts))) 0 ss ts
    rwa [Nat.zero_add] at happend
  rw [hbelow, hbelow, hbelow, hchildren, List.flatMap_append, List.filter_append,
    filter_preorder_statements ss _ _ (hp ss 0), filter_preorder_statements ts _ _ (hp ts _)]

include hprogram

theorem kind_root (us : List Node) : (root (program.withStatements us)).kind = .program := hprogram

theorem isFaithful_statements (us : List Node) (offset : Nat) :
    IsFaithful (program.withStatements us)
      (within (program.withStatements (ss ++ ts)) offset) := by
  have hpart : (program.withStatements us).kind = .program := hprogram
  have hwhole : (program.withStatements (ss ++ ts)).kind = .program := hprogram
  exact isFaithful_within hpart hwhole offset

/-- **The properties of a program** are those of its statements, one after the other. -/
theorem allProperties_append :
    (root (program.withStatements (ss ++ ts))).allProperties =
      (root (program.withStatements ss)).allProperties.map
          (within (program.withStatements (ss ++ ts)) 0) ++
        (root (program.withStatements ts)).allProperties.map
          (within (program.withStatements (ss ++ ts)) ss.length) := by
  have hroot : ∀ us, decide ((root (program.withStatements us)).kind = .object) = false := by
    intro us
    rw [kind_root hprogram]
    rfl
  have hobjects := filter_preorder_append ss ts (p := fun d => d.kind = .object) hroot
    fun us offset d hd => by rw [(isFaithful_statements hprogram ss ts us offset).kind hd]
  have hproperties : ∀ us offset,
      (((root (program.withStatements us)).preorder.filter fun d => d.kind = .object).map
          (within (program.withStatements (ss ++ ts)) offset)).flatMap properties =
        (((root (program.withStatements us)).preorder.filter fun d => d.kind = .object).flatMap
          properties).map (within (program.withStatements (ss ++ ts)) offset) := by
    intro us offset
    rw [List.flatMap_map, List.map_flatMap]
    refine List.flatMap_congr fun d hd => ?_
    obtain ⟨hmem, hkind⟩ := List.mem_filter.1 hd
    refine (isFaithful_statements hprogram ss ts us offset).properties (mem_preorder_iff.1 hmem) ?_
    rw [of_decide_eq_true hkind]
    decide
  rw [allProperties, allProperties, allProperties, nodesOfKind_eq, nodesOfKind_eq, nodesOfKind_eq,
    hobjects, List.flatMap_append, hproperties, hproperties]

/-- **The outermost literals of a program** are those of its statements, one after the other. -/
theorem literals_append :
    (root (program.withStatements (ss ++ ts))).literals =
      (root (program.withStatements ss)).literals.map
          (within (program.withStatements (ss ++ ts)) 0) ++
        (root (program.withStatements ts)).literals.map
          (within (program.withStatements (ss ++ ts)) ss.length) := by
  rw [literals_root, literals_root, literals_root]
  refine filter_preorder_append ss ts (fun us => ?_) fun us offset d hd => ?_
  · rw [kind_root hprogram]
    rfl
  · have hfaithful := isFaithful_statements hprogram ss ts us offset
    rw [hfaithful.kind hd, hfaithful.ancestors hd, List.all_map]
    congr 1
    rw [Bool.eq_iff_iff, List.all_eq_true, List.all_eq_true]
    refine forall₂_congr fun a ha => ?_
    rw [Function.comp_apply, hfaithful.kind (hd.of_mem_ancestors ha)]

end

end Cursor

end ComponentIndex.Script
