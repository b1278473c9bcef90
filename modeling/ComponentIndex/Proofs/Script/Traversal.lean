/-
**The turns of a traversal.**

A traversal is a loop over a stack of nodes whose subtrees remain.  In each turn the node on top is taken
off; it is yielded if it is sought, and if it is entered its children are pushed in its place, the last
one first.  The stack itself can grow in a turn, but fewer nodes remain below it, so the loop ends on every
tree.  What it yields is what a recursion yields that lists a parent before its children.

Main definitions:

* `ComponentIndex.Script.Cursor.IsReached` — all nodes on the way to a node are entered;
* `ComponentIndex.Script.Traversal`, `ComponentIndex.Script.Traversal.turn?` — a traversal between two
  turns, and one turn;
* `ComponentIndex.Script.Traversal.Ends` — the loop ends after some turns, with the nodes it yielded;
* `ComponentIndex.Script.Cursor.IsOutermostLiteral` — a literal that lies in no other one.

Main results:

* `ComponentIndex.Script.Cursor.walk_singleton_eq_filter` — what a traversal meets below a node;
* `ComponentIndex.Script.Traversal.stackSize_turn?`, `ComponentIndex.Script.Traversal.walk_turn?` — what
  one turn does to the nodes that remain;
* `ComponentIndex.Script.Traversal.ends_walk` — what a whole run yields;
* `ComponentIndex.Script.Cursor.traversals_listPreorder` — **the traversals list pre-order**.
-/

import ComponentIndex.Proofs.Script.Preorder
import ComponentIndex.Script.Program
import Mathlib.Data.List.Nodup

set_option relaxedAutoImplicit false
set_option autoImplicit false

namespace ComponentIndex.Script

namespace Cursor

/-! ### Ancestors -/

theorem length_lt_of_mem_ancestors {a c : Cursor} (h : a ∈ c.ancestors) :
    a.crumbs.length < c.crumbs.length := by
  obtain ⟨n, crumbs⟩ := c
  rw [ancestors] at h
  dsimp only at h ⊢
  induction crumbs with
  | nil => cases h
  | cons crumb crumbs ih =>
      rw [List.length_cons]
      rcases List.mem_cons.1 h with rfl | h
      · exact Nat.lt_succ_self _
      · exact Nat.lt_succ_of_lt (ih h)

/-- No node lies below a node and above it. -/
theorem not_mem_ancestors_of_mem_preorder {a c : Cursor} (h : a ∈ c.preorder) : a ∉ c.ancestors := by
  intro habove
  have hlt := length_lt_of_mem_ancestors habove
  have hle := (suffix_of_mem_preorder h).length_le
  omega

/-- Going up from a node below `c` one passes nodes below `c`, and then those above it. -/
theorem mem_preorder_or_mem_ancestors {a c d : Cursor} (hd : d ∈ c.preorder) (ha : a ∈ d.ancestors) :
    a ∈ c.preorder ∨ a ∈ c.ancestors := by
  induction c using inductionOn with
  | step c ih =>
      rcases mem_preorder.1 hd with rfl | ⟨e, he, hde⟩
      · exact Or.inr ha
      · rcases ih e he hde with hmem | hmem
        · exact Or.inl (mem_preorder.2 (Or.inr ⟨e, he, hmem⟩))
        · rw [ancestors_of_mem_children he] at hmem
          rcases List.mem_cons.1 hmem with rfl | hmem
          · exact Or.inl (self_mem_preorder _)
          · exact Or.inr hmem

/-! ### What is met below a node -/

/-- What a traversal meets depends only on which of the nodes below the stack it enters. -/
theorem walk_congr {enters enters' : Cursor → Bool} (stack : List Cursor)
    (h : ∀ d ∈ stack.flatMap preorder, enters d = enters' d) :
    walk enters stack = walk enters' stack := by
  induction stack using walk.induct enters with
  | case1 => rw [walk, walk]
  | case2 c stack hc ih =>
      rw [List.flatMap_cons, List.forall_mem_append] at h
      have hself := h.1 c (self_mem_preorder c)
      have hnext : ∀ d ∈ (c.children ++ stack).flatMap preorder, enters d = enters' d := by
        intro d hd
        rcases List.mem_append.1 (List.flatMap_append ▸ hd) with hd | hd
        · exact h.1 d (preorder_eq c ▸ List.mem_cons_of_mem _ hd)
        · exact h.2 d hd
      rw [walk, if_pos hc, walk, if_pos (hself ▸ hc), ih hnext]
  | case3 c stack hc ih =>
      rw [List.flatMap_cons, List.forall_mem_append] at h
      have hself := h.1 c (self_mem_preorder c)
      rw [walk, if_neg hc, walk, if_neg (hself ▸ hc), ih h.2]

/-- All nodes on the way from `c` to `d` are entered, `c` included and `d` not. -/
def IsReached (enters : Cursor → Bool) (c d : Cursor) : Prop :=
  ∀ a ∈ c.preorder, a ∈ d.ancestors → enters a = true

open scoped Classical in
/-- A traversal that starts at `c` meets, in pre-order, the nodes that it reaches from there. -/
theorem walk_singleton_eq_filter (enters : Cursor → Bool) (c : Cursor) :
    walk enters [c] = c.preorder.filter fun d => IsReached enters c d := by
  -- The nodes above `c` are not met, so they may count as entered.
  have hbelow : ∀ d ∈ [c].flatMap preorder,
      enters d = (enters d || decide (d ∈ c.ancestors)) := by
    intro d hd
    rw [List.flatMap_singleton] at hd
    simp [not_mem_ancestors_of_mem_preorder hd]
  have habove : ∀ d ∈ [c], d.ancestors.all fun a => enters a || decide (a ∈ c.ancestors) := by
    intro d hd
    rw [List.mem_singleton.1 hd, List.all_eq_true]
    intro a ha
    simp [ha]
  rw [walk_congr [c] hbelow, walk_eq_filter [c] habove, List.flatMap_singleton]
  refine List.filter_congr fun d hd => ?_
  rw [Bool.eq_iff_iff, List.all_eq_true, decide_eq_true_eq]
  constructor
  · intro h a ha hda
    simpa [not_mem_ancestors_of_mem_preorder ha] using h a hda
  · intro h a hda
    rcases mem_preorder_or_mem_ancestors hd hda with ha | ha
    · simp [h a ha hda]
    · simp [ha]

end Cursor

/-! ### Turn by turn -/

/-- A traversal between two turns. -/
structure Traversal where
  /-- The nodes whose subtrees remain; the last one is on top of the stack. -/
  stack : List Cursor
  /-- The nodes that have been yielded, in order. -/
  yielded : List Cursor

namespace Traversal

open Cursor (walk stackSize)

section

variable (seeks enters : Cursor → Bool)

/-- One turn: the node on top is taken off the stack and yielded if it is sought, and if it is entered
its children are pushed, the last one first.  With nothing on the stack there is no further turn. -/
def turn? (t : Traversal) : Option Traversal :=
  t.stack.getLast?.map fun c =>
    { stack := t.stack.dropLast ++ if enters c then c.children.reverse else []
      yielded := t.yielded ++ if seeks c then [c] else [] }

/-- The loop ends after a number of turns, and has then yielded the given nodes. -/
inductive Ends : Traversal → Nat → List Cursor → Prop
  | finished {t : Traversal} (h : t.turn? seeks enters = none) : Ends t 0 t.yielded
  | turn {t t' : Traversal} {turns : Nat} {found : List Cursor}
      (h : t.turn? seeks enters = some t') (hrest : Ends t' turns found) : Ends t (turns + 1) found

end

variable {seeks enters : Cursor → Bool} {t t' : Traversal}

theorem turn?_eq_none_iff : t.turn? seeks enters = none ↔ t.stack = [] := by
  rw [turn?, Option.map_eq_none_iff, List.getLast?_eq_none_iff]

/-- What a turn does. -/
theorem turn_cases (h : t.turn? seeks enters = some t') :
    ∃ below c, t.stack = below ++ [c] ∧
      t'.stack = below ++ (if enters c then c.children.reverse else []) ∧
      t'.yielded = t.yielded ++ [c].filter seeks := by
  obtain ⟨c, hc, rfl⟩ := Option.map_eq_some_iff.1 h
  obtain ⟨below, hbelow⟩ := List.getLast?_eq_some_iff.1 hc
  refine ⟨below, c, hbelow, by rw [hbelow, List.dropLast_concat], ?_⟩
  cases hseeks : seeks c <;> simp [hseeks]

theorem stackSize_reverse (s : List Cursor) : stackSize s.reverse = stackSize s := by
  induction s with
  | nil => rfl
  | cons c s ih =>
      rw [List.reverse_cons, Cursor.stackSize_append, ih, Cursor.stackSize_cons,
        Cursor.stackSize_cons, stackSize, Nat.add_zero, Nat.add_comm]

/-- A turn leaves fewer nodes on the stack and below it. -/
theorem stackSize_turn? (h : t.turn? seeks enters = some t') :
    stackSize t'.stack < stackSize t.stack := by
  obtain ⟨below, c, hstack, hstack', -⟩ := turn_cases h
  have hchildren := Cursor.stackSize_children c
  rw [hstack, hstack', Cursor.stackSize_append, Cursor.stackSize_append, Cursor.stackSize_cons]
  split
  · rw [stackSize_reverse]
    omega
  · simp only [stackSize]
    omega

/-- A turn takes the first one off the nodes that are still to be met, and yields it if it is sought. -/
theorem walk_turn? (h : t.turn? seeks enters = some t') :
    ∃ c, walk enters t.stack.reverse = c :: walk enters t'.stack.reverse ∧
      t'.yielded = t.yielded ++ [c].filter seeks := by
  obtain ⟨below, c, hstack, hstack', hyielded⟩ := turn_cases h
  refine ⟨c, ?_, hyielded⟩
  rw [hstack, hstack', List.reverse_append, List.reverse_singleton, List.singleton_append]
  by_cases hc : enters c = true
  · rw [walk, if_pos hc, if_pos hc, List.reverse_append, List.reverse_reverse]
  · rw [walk, if_neg hc, if_neg hc, List.append_nil]

/-- A run takes one turn for each node that is met, and yields those that are sought. -/
theorem Ends.eq_walk {turns : Nat} {found : List Cursor} (h : Ends seeks enters t turns found) :
    turns = (walk enters t.stack.reverse).length ∧
      found = t.yielded ++ (walk enters t.stack.reverse).filter seeks := by
  induction h with
  | finished h =>
      rw [turn?_eq_none_iff] at h
      simp [h, walk]
  | turn h _ ih =>
      obtain ⟨c, hwalk, hyielded⟩ := walk_turn? h
      obtain ⟨hturns, hfound⟩ := ih
      rw [hwalk, hturns, hfound, hyielded]
      refine ⟨rfl, ?_⟩
      rw [List.append_assoc, ← List.filter_append, List.singleton_append]

/-- The loop ends from wherever it is: each turn leaves fewer nodes. -/
theorem exists_ends (seeks enters : Cursor → Bool) (t : Traversal) :
    ∃ turns found, Ends seeks enters t turns found := by
  induction h : stackSize t.stack using Nat.strongRecOn generalizing t with
  | ind size ih =>
      cases hturn : t.turn? seeks enters with
      | none => exact ⟨0, _, .finished hturn⟩
      | some t' =>
          obtain ⟨turns, found, hends⟩ := ih _ (h ▸ stackSize_turn? hturn) t' rfl
          exact ⟨turns + 1, found, .turn hturn hends⟩

/-- A run that starts at a node takes one turn for each node that is met, and yields those that are
sought. -/
theorem ends_walk (seeks enters : Cursor → Bool) (c : Cursor) :
    Ends seeks enters ⟨[c], []⟩ (walk enters [c]).length ((walk enters [c]).filter seeks) := by
  obtain ⟨turns, found, hends⟩ := exists_ends seeks enters ⟨[c], []⟩
  obtain ⟨rfl, rfl⟩ := hends.eq_walk
  exact hends

end Traversal

/-! ### The two traversals -/

namespace Cursor

/-- The node is a literal, and none of its ancestors below `c` is one, `c` included. -/
def IsOutermostLiteral (c d : Cursor) : Prop :=
  d.kind.isLiteral = true ∧ ∀ a ∈ c.preorder, a ∈ d.ancestors → a.kind.isLiteral = false

open scoped Classical in
theorem literals_eq_filter (c : Cursor) :
    c.literals = c.preorder.filter fun d => IsOutermostLiteral c d := by
  rw [literals, walk_singleton_eq_filter, List.filter_filter]
  refine List.filter_congr fun d _ => ?_
  rw [Bool.eq_iff_iff, Bool.and_eq_true, decide_eq_true_eq, decide_eq_true_eq]
  simp only [IsOutermostLiteral, IsReached, Bool.not_eq_true']

theorem mem_literals_iff {c d : Cursor} :
    d ∈ c.literals ↔ d ∈ c.preorder ∧ IsOutermostLiteral c d := by
  classical
  rw [literals_eq_filter, List.mem_filter, decide_eq_true_eq]

/-- A literal does not lie below another one that is outermost with it. -/
theorem not_mem_preorder_of_mem_literals {c d e : Cursor} (hd : d ∈ c.literals)
    (he : e ∈ c.literals) (hne : d ≠ e) : d ∉ e.preorder := by
  intro hde
  rw [mem_literals_iff] at hd he
  rcases mem_preorder.1 hde with rfl | ⟨f, hf, hdf⟩
  · exact hne rfl
  · have habove : e ∈ d.ancestors := mem_ancestors_of_mem_flatMap (List.mem_flatMap.2 ⟨f, hf, hdf⟩)
    have hno := hd.2.2 e he.1 habove
    rw [he.2.1] at hno
    cases hno

open scoped Classical in
/-- **The traversals list pre-order.**  Looking for nodes, by the name of a kind or by the kind itself,
the loop over the stack ends after one turn for each node below `c`, itself included, and yields those
of that kind in pre-order, each once.  Looking for literals it ends after no more turns than that, and
yields the literals with no literal among their ancestors in pre-order, each once, so that none of them
contains another one. -/
theorem traversals_listPreorder (c : Cursor) :
    (∀ name : Text,
        Traversal.Ends (fun d => d.kind.label = name) (fun _ => true) ⟨[c], []⟩ c.preorder.length
            (c.preorder.filter fun d => d.kind.label = name) ∧
          (c.preorder.filter fun d => d.kind.label = name).Nodup) ∧
      (∀ kind : Kind,
        Traversal.Ends (fun d => d.kind = kind) (fun _ => true) ⟨[c], []⟩ c.preorder.length
            (c.nodesOfKind kind) ∧
          c.nodesOfKind kind = c.preorder.filter (fun d => d.kind = kind) ∧
          (c.nodesOfKind kind).Nodup) ∧
      (∃ turns ≤ c.preorder.length,
        Traversal.Ends (fun d => d.kind.isLiteral) (fun d => !d.kind.isLiteral) ⟨[c], []⟩ turns
          c.literals) ∧
      c.literals = c.preorder.filter (fun d => IsOutermostLiteral c d) ∧
      c.literals.Nodup ∧
      c.literals.Pairwise fun d e => d ∉ e.preorder ∧ e ∉ d.preorder := by
  have hall : ∀ seeks : Cursor → Bool, Traversal.Ends seeks (fun _ => true) ⟨[c], []⟩
      c.preorder.length (c.preorder.filter seeks) := by
    intro seeks
    have hends := Traversal.ends_walk seeks (fun _ => true) c
    rwa [walk_true] at hends
  have hnodup : c.literals.Nodup := by
    rw [literals_eq_filter]
    exact (nodup_preorder c).filter _
  refine ⟨fun name => ⟨hall _, (nodup_preorder c).filter _⟩, fun kind => ?_, ?_,
    literals_eq_filter c, hnodup, ?_⟩
  · rw [nodesOfKind_eq]
    exact ⟨hall _, rfl, (nodup_preorder c).filter _⟩
  · refine ⟨_, ?_, Traversal.ends_walk _ _ c⟩
    rw [walk_singleton_eq_filter]
    exact List.length_filter_le _ _
  · refine hnodup.pairwise_of_forall_ne fun d hd e he hne => ⟨?_, ?_⟩
    · exact not_mem_preorder_of_mem_literals hd he hne
    · exact not_mem_preorder_of_mem_literals he hd hne.symm

example :
    ((root (parse (Utf8.encode "f(`a$\x7b'b'\x7d`, [1, \x7bc: /d/\x7d], 'e')"))).literals.map text) =
      ["'b'", "1", "/d/", "'e'"].map Text.ofString := by
  decide +kernel

end Cursor

end ComponentIndex.Script
