/-
**The layout of syntax trees.**

In a tree that is laid out the children of a node lie within it, one after the other.  The nodes of
such a tree come in pre-order by their starts: of two nodes neither of which contains the other, the
one that comes first ends before the other starts.

Main definitions:

* `ComponentIndex.Script.Node.EndsAt`, `ComponentIndex.Script.Fill` — a node up to its end, and
  nodes one after the other;
* `ComponentIndex.Script.Node.IsLaidOut` — a tree is laid out in a source of a given size;
* `ComponentIndex.Script.Node.leastEnd?`, `ComponentIndex.Script.leastFill?` — the first offset at
  which a node can end, by which the layout of a tree is decided.

Main results:

* `ComponentIndex.Script.Cursor.pairwise_preorder` — **pre-order follows the source**.
-/

import ComponentIndex.Proofs.Script.Preorder
import Mathlib.Data.List.Pairwise

set_option relaxedAutoImplicit false
set_option autoImplicit false

namespace ComponentIndex.Script

/-! ### Trees that are laid out -/

mutual

/-- The node ends at an offset, and its children lie within it one after the other. Nodes of the
given kinds are not empty. -/
def Node.EndsAt (solid : Kind → Bool) : Node → Nat → Prop
  | ⟨kind, _, start, _, children⟩, stop =>
    start ≤ stop ∧ (solid kind = true → start < stop) ∧ Fill solid start stop children

/-- The nodes lie between two offsets, one after the other. -/
def Fill (solid : Kind → Bool) : Nat → Nat → List Node → Prop
  | lo, hi, [] => lo ≤ hi
  | lo, hi, n :: ns => ∃ mid, lo ≤ n.start ∧ n.EndsAt solid mid ∧ Fill solid mid hi ns

end

/-- The nodes below the root lie in the source, one after the other and within their parents. -/
def Node.IsLaidOut (solid : Kind → Bool) (size : Nat) (tree : Node) : Prop :=
  Fill solid 0 size tree.children

section

variable {solid : Kind → Bool}

theorem Node.endsAt_iff {n : Node} {stop : Nat} :
    n.EndsAt solid stop ↔
      n.start ≤ stop ∧ (solid n.kind = true → n.start < stop) ∧
        Fill solid n.start stop n.children := by
  obtain ⟨kind, role, start, text, children⟩ := n
  rw [Node.EndsAt]

theorem fill_nil {lo hi : Nat} : Fill solid lo hi [] ↔ lo ≤ hi := by rw [Fill]

theorem fill_cons {lo hi : Nat} {n : Node} {ns : List Node} :
    Fill solid lo hi (n :: ns) ↔
      ∃ mid, lo ≤ n.start ∧ n.EndsAt solid mid ∧ Fill solid mid hi ns := by rw [Fill]

theorem Fill.le {lo hi : Nat} {ns : List Node} (h : Fill solid lo hi ns) : lo ≤ hi := by
  induction ns generalizing lo with
  | nil => exact fill_nil.1 h
  | cons n ns ih =>
      obtain ⟨mid, hlo, hn, hns⟩ := fill_cons.1 h
      have := (Node.endsAt_iff.1 hn).1
      have := ih hns
      omega

/-- Each of some nodes that lie one after the other lies between the two offsets. -/
theorem Fill.endsAt_of_mem {lo hi : Nat} {ns : List Node} (h : Fill solid lo hi ns) {n : Node}
    (hn : n ∈ ns) : lo ≤ n.start ∧ ∃ stop ≤ hi, n.EndsAt solid stop := by
  induction ns generalizing lo with
  | nil => simp at hn
  | cons m ns ih =>
      obtain ⟨mid, hlo, hm, hns⟩ := fill_cons.1 h
      rcases List.mem_cons.1 hn with rfl | hn
      · exact ⟨hlo, mid, hns.le, hm⟩
      · obtain ⟨hmid, hstop⟩ := ih hns hn
        have := (Node.endsAt_iff.1 hm).1
        exact ⟨by omega, hstop⟩

end

/-! ### Deciding the layout -/

mutual

/-- The first offset at which the node can end, if its children can lie within it. -/
def Node.leastEnd? (solid : Kind → Bool) : Node → Option Nat
  | ⟨kind, _, start, _, children⟩ =>
    (leastFill? solid start children).map fun stop =>
      if solid kind then max (start + 1) stop else stop

/-- The first offset at which nodes can end that lie one after the other from an offset on. -/
def leastFill? (solid : Kind → Bool) : Nat → List Node → Option Nat
  | lo, [] => some lo
  | lo, n :: ns =>
    if lo ≤ n.start then (Node.leastEnd? solid n).bind fun mid => leastFill? solid mid ns else none

end

theorem leastFill?_mono (solid : Kind → Bool) {lo lo' stop : Nat} {ns : List Node} (hlo : lo' ≤ lo)
    (h : leastFill? solid lo ns = some stop) :
    ∃ stop' ≤ stop, leastFill? solid lo' ns = some stop' := by
  cases ns with
  | nil =>
      rw [leastFill?, Option.some.injEq] at h
      exact ⟨lo', h ▸ hlo, by rw [leastFill?]⟩
  | cons n ns =>
      rw [leastFill?] at h ⊢
      by_cases hstart : lo ≤ n.start
      · rw [if_pos hstart] at h
        exact ⟨stop, Nat.le_refl _, by rw [if_pos (Nat.le_trans hlo hstart), h]⟩
      · simp [hstart] at h

mutual

theorem Node.endsAt_iff_leastEnd? (solid : Kind → Bool) (stop : Nat) :
    ∀ n : Node, n.EndsAt solid stop ↔ ∃ least ≤ stop, Node.leastEnd? solid n = some least
  | ⟨kind, role, start, text, children⟩ => by
    rw [Node.EndsAt, Node.leastEnd?, fill_iff_leastFill? solid start stop children]
    constructor
    · rintro ⟨hstart, hsolid, least, hleast, hfill⟩
      refine ⟨_, ?_, by rw [hfill, Option.map_some]⟩
      split
      · have := hsolid ‹_›
        omega
      · exact hleast
    · rintro ⟨least, hleast, hmap⟩
      obtain ⟨stop', hfill, rfl⟩ := Option.map_eq_some_iff.1 hmap
      have hstart : start ≤ stop' :=
        ((fill_iff_leastFill? solid start stop' children).2 ⟨stop', Nat.le_refl _, hfill⟩).le
      split at hleast
      · exact ⟨by omega, fun _ => by omega, stop', by omega, hfill⟩
      · exact ⟨by omega, fun hsolid => absurd hsolid ‹_›, stop', hleast, hfill⟩

theorem fill_iff_leastFill? (solid : Kind → Bool) (lo hi : Nat) :
    ∀ ns : List Node, Fill solid lo hi ns ↔ ∃ least ≤ hi, leastFill? solid lo ns = some least
  | [] => by simp [fill_nil, leastFill?]
  | n :: ns => by
    rw [fill_cons, leastFill?]
    constructor
    · -- A node may end later than it has to, so what follows it can only end earlier.
      rintro ⟨mid, hlo, hn, hns⟩
      obtain ⟨least, hleast, hend⟩ := (Node.endsAt_iff_leastEnd? solid mid n).1 hn
      obtain ⟨stop, hstop, hfill⟩ := (fill_iff_leastFill? solid mid hi ns).1 hns
      obtain ⟨stop', hstop', hfill'⟩ := leastFill?_mono solid hleast hfill
      exact ⟨stop', by omega, by rw [if_pos hlo, hend, Option.bind_some, hfill']⟩
    · rintro ⟨stop, hstop, h⟩
      by_cases hlo : lo ≤ n.start
      · rw [if_pos hlo] at h
        obtain ⟨mid, hend, hfill⟩ := Option.bind_eq_some_iff.1 h
        exact ⟨mid, hlo, (Node.endsAt_iff_leastEnd? solid mid n).2 ⟨mid, Nat.le_refl _, hend⟩,
          (fill_iff_leastFill? solid mid hi ns).2 ⟨stop, hstop, hfill⟩⟩
      · simp [hlo] at h

end

/-- The layout of a tree is decided by the first offset at which its nodes can end. -/
instance (solid : Kind → Bool) (size : Nat) (tree : Node) : Decidable (tree.IsLaidOut solid size) :=
  decidable_of_iff ((leastFill? solid 0 tree.children).any (· ≤ size) = true) (by
    simp only [Node.IsLaidOut, fill_iff_leastFill?, Option.any_eq_true, decide_eq_true_eq]
    exact exists_congr fun least => and_comm)

/-! ### Pre-order in a tree that is laid out -/

namespace Cursor

section

variable {solid : Kind → Bool}

/-- A node ends before another one starts. -/
def EndsBefore (solid : Kind → Bool) (c d : Cursor) : Prop :=
  ∃ stop ≤ d.node.start, c.node.EndsAt solid stop

theorem EndsBefore.start_lt {c d : Cursor} (h : EndsBefore solid c d)
    (hsolid : solid c.kind = true) : c.node.start < d.node.start := by
  obtain ⟨stop, hstop, hends⟩ := h
  have := (Node.endsAt_iff.1 hends).2.1 hsolid
  omega

theorem mem_children_node {c d : Cursor} (h : d ∈ c.children) : d.node ∈ c.node.children := by
  obtain ⟨i, n, hn, rfl⟩ := mem_children_iff.1 h
  exact List.mem_of_getElem? hn

/-- All nodes below a node lie within it. -/
theorem endsAt_of_mem_preorder {c d : Cursor} {stop : Nat} (hc : c.node.EndsAt solid stop)
    (hd : d ∈ c.preorder) :
    c.node.start ≤ d.node.start ∧ ∃ stop' ≤ stop, d.node.EndsAt solid stop' := by
  induction c using inductionOn generalizing stop with
  | step c ih =>
      rcases mem_preorder.1 hd with rfl | ⟨e, he, hde⟩
      · exact ⟨Nat.le_refl _, stop, Nat.le_refl _, hc⟩
      · obtain ⟨hstart, mid, hmid, hends⟩ :=
          (Node.endsAt_iff.1 hc).2.2.endsAt_of_mem (mem_children_node he)
        obtain ⟨hstart', stop', hstop', hends'⟩ := ih e he hends hde
        exact ⟨by omega, stop', by omega, hends'⟩

/-- Of two nodes below some nodes that lie one after the other, the first one contains the second or
ends before it starts. -/
theorem pairwise_flatMap_childrenFrom {c : Cursor} {index lo hi : Nat} {ns : List Node}
    (hfill : Fill solid lo hi ns)
    (h : ∀ d ∈ c.childrenFrom index ns, ∀ stop, d.node.EndsAt solid stop →
      d.preorder.Pairwise fun d e => d ∈ e.ancestors ∨ EndsBefore solid d e) :
    ((c.childrenFrom index ns).flatMap preorder).Pairwise fun d e =>
      d ∈ e.ancestors ∨ EndsBefore solid d e := by
  induction ns generalizing index lo with
  | nil => simp [childrenFrom]
  | cons n ns ih =>
      obtain ⟨mid, -, hn, hns⟩ := fill_cons.1 hfill
      rw [childrenFrom, List.forall_mem_cons] at h
      rw [childrenFrom, List.flatMap_cons, List.pairwise_append]
      -- What lies below the first child ends at `mid`, and all that follows starts there or later.
      refine ⟨h.1 mid hn, ih hns h.2, fun d hd e he => Or.inr ?_⟩
      obtain ⟨f, hf, hef⟩ := List.mem_flatMap.1 he
      obtain ⟨i, m, hm, rfl⟩ := mem_childrenFrom_iff.1 hf
      obtain ⟨-, stop, hstop, hends⟩ := endsAt_of_mem_preorder (c := c.child index n) hn hd
      obtain ⟨hmid, stop', -, hm'⟩ := hns.endsAt_of_mem (List.mem_of_getElem? hm)
      have hstart : m.start ≤ e.node.start := (endsAt_of_mem_preorder hm' hef).1
      exact ⟨stop, by omega, hends⟩

theorem pairwise_preorder_of_endsAt {c : Cursor} {stop : Nat} (hc : c.node.EndsAt solid stop) :
    c.preorder.Pairwise fun d e => d ∈ e.ancestors ∨ EndsBefore solid d e := by
  induction c using inductionOn generalizing stop with
  | step c ih =>
      rw [preorder_eq, List.pairwise_cons]
      exact ⟨fun d hd => Or.inl (mem_ancestors_of_mem_flatMap hd),
        pairwise_flatMap_childrenFrom (Node.endsAt_iff.1 hc).2.2 fun d hd _ hends => ih d hd hends⟩

/-- **Pre-order follows the source**: of two nodes of a tree, the one that comes first contains the
other or ends before it starts. -/
theorem pairwise_preorder {size : Nat} {tree : Node} (h : tree.IsLaidOut solid size) :
    (root tree).preorder.Pairwise fun d e => d ∈ e.ancestors ∨ EndsBefore solid d e := by
  rw [preorder_eq, List.pairwise_cons]
  exact ⟨fun d hd => Or.inl (mem_ancestors_of_mem_flatMap hd),
    pairwise_flatMap_childrenFrom h fun d _ _ hends => pairwise_preorder_of_endsAt hends⟩

/-- Of two different nodes of a tree, one contains the other or ends before it starts. -/
theorem comparable {size : Nat} {tree : Node} (h : tree.IsLaidOut solid size) {c d : Cursor}
    (hc : c.IsIn tree) (hd : d.IsIn tree) (hne : c ≠ d) :
    (c ∈ d.ancestors ∨ EndsBefore solid c d) ∨ (d ∈ c.ancestors ∨ EndsBefore solid d c) := by
  let ordered (c d : Cursor) : Prop :=
    (c ∈ d.ancestors ∨ EndsBefore solid c d) ∨ (d ∈ c.ancestors ∨ EndsBefore solid d c)
  have hsymm : Std.Symm ordered := ⟨fun _ _ h => h.symm⟩
  have hpair : (root tree).preorder.Pairwise ordered := (pairwise_preorder h).imp Or.inl
  exact hpair.forall (mem_preorder_iff.2 hc) (mem_preorder_iff.2 hd) hne

/-- Each node below the root lies in the source. -/
theorem endsAt_of_mem_children {size : Nat} {tree : Node} (h : tree.IsLaidOut solid size)
    {c d : Cursor} (hc : c.IsIn tree) (hd : d ∈ c.children) :
    ∃ stop ≤ size, d.node.EndsAt solid stop := by
  rcases mem_preorder.1 (mem_preorder_iff.2 (hc.of_mem_children hd)) with rfl | ⟨e, he, hde⟩
  · cases parent?_of_mem_children hd
  · obtain ⟨-, stop, hstop, hends⟩ := Fill.endsAt_of_mem h (mem_children_node he)
    obtain ⟨-, stop', hstop', hends'⟩ := endsAt_of_mem_preorder hends hde
    exact ⟨stop', by omega, hends'⟩

end

end Cursor

end ComponentIndex.Script
