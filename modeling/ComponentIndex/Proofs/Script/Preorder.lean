/-
**Pre-order, and the traversals with a stack.**

The cursors of a tree are those that can be reached from its root by going to children.  Pre-order
lists each of them once, and a cursor is determined by the indices on the way to it.  A traversal
with a stack that enters some nodes only meets, in pre-order, the nodes all of whose ancestors it
enters.

Main definitions:

* `ComponentIndex.Script.Cursor.IsIn` — a cursor stands at a node of a tree.

Main results:

* `ComponentIndex.Script.Cursor.preorder_eq` — pre-order by recursion on cursors;
* `ComponentIndex.Script.Cursor.mem_preorder_iff`, `ComponentIndex.Script.Cursor.nodup_preorder` —
  pre-order lists the cursors of a tree, each once;
* `ComponentIndex.Script.Cursor.IsIn.eq_of_path` — a cursor is determined by its path;
* `ComponentIndex.Script.Cursor.walk_eq_filter` — what a traversal with a stack meets.
-/

import ComponentIndex.Script.Traversal

set_option relaxedAutoImplicit false
set_option autoImplicit false

namespace ComponentIndex.Script.Cursor

/-! ### Children -/

theorem mem_childrenFrom_iff {c d : Cursor} {index : Nat} {ns : List Node} :
    d ∈ c.childrenFrom index ns ↔ ∃ i n, ns[i]? = some n ∧ d = c.child (index + i) n := by
  induction ns generalizing index with
  | nil => simp [childrenFrom]
  | cons m ns ih =>
      rw [childrenFrom, List.mem_cons, ih]
      constructor
      · rintro (rfl | ⟨i, n, hn, rfl⟩)
        · exact ⟨0, m, rfl, rfl⟩
        · exact ⟨i + 1, n, hn, by rw [Nat.add_right_comm, Nat.add_assoc]⟩
      · rintro ⟨i, n, hn, rfl⟩
        cases i with
        | zero =>
            obtain rfl : m = n := Option.some.inj hn
            exact Or.inl rfl
        | succ i => exact Or.inr ⟨i, n, hn, by rw [Nat.add_right_comm, Nat.add_assoc]⟩

/-- The children of a node are its child nodes, each with its index. -/
theorem mem_children_iff {c d : Cursor} :
    d ∈ c.children ↔ ∃ i n, c.node.children[i]? = some n ∧ d = c.child i n := by
  simp [children, mem_childrenFrom_iff]

theorem crumbs_of_mem_children {c d : Cursor} (h : d ∈ c.children) :
    ∃ i, d.crumbs = ⟨c.node, i⟩ :: c.crumbs := by
  obtain ⟨i, n, -, rfl⟩ := mem_children_iff.1 h
  exact ⟨i, rfl⟩

theorem parent?_of_mem_children {c d : Cursor} (h : d ∈ c.children) : d.parent? = some c := by
  obtain ⟨i, n, -, rfl⟩ := mem_children_iff.1 h
  rfl

theorem ancestors_of_mem_children {c d : Cursor} (h : d ∈ c.children) :
    d.ancestors = c :: c.ancestors := by
  obtain ⟨i, n, -, rfl⟩ := mem_children_iff.1 h
  rfl

/-- No two children of a node have the same index. -/
theorem nodup_children (c : Cursor) : c.children.Nodup := by
  rw [children]
  generalize 0 = index
  induction c.node.children generalizing index with
  | nil => exact List.nodup_nil
  | cons n ns ih =>
      rw [childrenFrom, List.nodup_cons]
      refine ⟨fun hmem => ?_, ih (index + 1)⟩
      obtain ⟨i, m, -, heq⟩ := mem_childrenFrom_iff.1 hmem
      simp only [child, mk.injEq, List.cons.injEq, Crumb.mk.injEq, true_and, and_true] at heq
      omega

theorem size_lt_of_mem_children {c d : Cursor} (h : d ∈ c.children) :
    d.node.size < c.node.size := by
  obtain ⟨s, t, hst⟩ := List.append_of_mem h
  have hsize := stackSize_children c
  rw [hst, stackSize_append, stackSize_cons] at hsize
  omega

/-- Induction on a tree, from the children of a cursor to the cursor. -/
theorem inductionOn {motive : Cursor → Prop} (c : Cursor)
    (step : ∀ c, (∀ d ∈ c.children, motive d) → motive c) : motive c := by
  induction h : c.node.size using Nat.strongRecOn generalizing c with
  | ind size ih =>
      refine step c fun d hd => ?_
      have := size_lt_of_mem_children hd
      exact ih d.node.size (h ▸ this) d rfl

/-! ### Pre-order -/

theorem preorderOfChildren_eq (parent : Node) (crumbs : List Crumb) (index : Nat)
    (ns : List Node) :
    preorderOfChildren parent crumbs index ns =
      (childrenFrom ⟨parent, crumbs⟩ index ns).flatMap preorder := by
  induction ns generalizing index with
  | nil => rw [preorderOfChildren, childrenFrom, List.flatMap_nil]
  | cons n ns ih =>
      rw [preorderOfChildren, childrenFrom, List.flatMap_cons, ih]
      rfl

/-- A node comes before the nodes below its children, child by child. -/
theorem preorder_eq (c : Cursor) : c.preorder = c :: c.children.flatMap preorder := by
  obtain ⟨⟨kind, role, start, text, ns⟩, crumbs⟩ := c
  rw [preorder, preorderAt, preorderOfChildren_eq]
  rfl

theorem self_mem_preorder (c : Cursor) : c ∈ c.preorder := by
  rw [preorder_eq]
  exact List.mem_cons_self

theorem mem_preorder {c d : Cursor} :
    d ∈ c.preorder ↔ d = c ∨ ∃ e ∈ c.children, d ∈ e.preorder := by
  rw [preorder_eq, List.mem_cons, List.mem_flatMap]

/-! ### The cursors of a tree -/

/-- The steps lead from the root of a tree to a node, each one from a node to one of its
children. -/
def Leads (root : Node) : List Crumb → Node → Prop
  | [], n => n = root
  | crumb :: crumbs, n =>
    crumb.parent.children[crumb.index]? = some n ∧ Leads root crumbs crumb.parent

/-- The cursor stands at a node of a tree. -/
def IsIn (tree : Node) (c : Cursor) : Prop := Leads tree c.crumbs c.node

section

variable {tree : Node} {c d : Cursor}

theorem isIn_root (tree : Node) : (root tree).IsIn tree := rfl

theorem IsIn.of_mem_children (hc : c.IsIn tree) (h : d ∈ c.children) : d.IsIn tree := by
  obtain ⟨i, n, hn, rfl⟩ := mem_children_iff.1 h
  exact ⟨hn, hc⟩

/-- Below the root each cursor is a child of its parent. -/
theorem IsIn.parent (hd : d.IsIn tree) (h : d.parent? = some c) : c.IsIn tree ∧ d ∈ c.children := by
  obtain ⟨n, crumbs⟩ := d
  cases crumbs with
  | nil => simp [parent?] at h
  | cons crumb crumbs =>
      obtain rfl : (⟨crumb.parent, crumbs⟩ : Cursor) = c := Option.some.inj h
      exact ⟨hd.2, mem_children_iff.2 ⟨crumb.index, n, hd.1, rfl⟩⟩

/-- A cursor of a tree is determined by the indices on the way to it. -/
theorem IsIn.eq_of_path (hc : c.IsIn tree) (hd : d.IsIn tree) (h : c.path = d.path) : c = d := by
  obtain ⟨n, crumbs⟩ := c
  obtain ⟨m, crumbs'⟩ := d
  induction crumbs generalizing n m crumbs' with
  | nil =>
      cases crumbs' with
      | nil =>
          obtain rfl : n = tree := hc
          obtain rfl : m = n := hd
          rfl
      | cons _ _ => simp [path] at h
  | cons crumb crumbs ih =>
      cases crumbs' with
      | nil => simp [path] at h
      | cons crumb' crumbs' =>
          simp only [path, List.map_cons, List.cons.injEq] at h
          -- The parents are the same by their own paths, so the index picks the same child.
          have hparent := ih crumb.parent hc.2 crumb'.parent crumbs' hd.2 h.2
          obtain ⟨p, i⟩ := crumb
          obtain ⟨q, j⟩ := crumb'
          obtain ⟨rfl, rfl⟩ := Cursor.mk.injEq .. ▸ hparent
          obtain rfl : i = j := h.1
          have hn : (some n : Option Node) = some m := hc.1.symm.trans hd.1
          rw [Option.some.inj hn]

theorem isSame_iff (hc : c.IsIn tree) (hd : d.IsIn tree) : c.isSame d = true ↔ c = d := by
  rw [isSame, beq_iff_eq]
  exact ⟨hc.eq_of_path hd, fun h => h ▸ rfl⟩

/-- To look for a node among the nodes of a tree is to compare cursors. -/
theorem any_isSame_iff (hc : c.IsIn tree) {found? : Option Cursor}
    (hfound : ∀ d, found? = some d → d.IsIn tree) :
    found?.any c.isSame = true ↔ found? = some c := by
  cases found? with
  | none => simp
  | some d => rw [Option.any_some, isSame_iff hc (hfound d rfl), Option.some.injEq, eq_comm]

theorem IsIn.of_mem_preorder (hc : c.IsIn tree) (h : d ∈ c.preorder) : d.IsIn tree := by
  induction c using inductionOn with
  | step c ih =>
      rcases mem_preorder.1 h with rfl | ⟨e, he, hde⟩
      · exact hc
      · exact ih e he (hc.of_mem_children he) hde

theorem mem_preorder_of_mem_children (hc : d ∈ c.preorder) {e : Cursor} (he : e ∈ d.children) :
    e ∈ c.preorder := by
  induction c using inductionOn with
  | step c ih =>
      rcases mem_preorder.1 hc with rfl | ⟨f, hf, hdf⟩
      · exact mem_preorder.2 (Or.inr ⟨e, he, self_mem_preorder e⟩)
      · exact mem_preorder.2 (Or.inr ⟨f, hf, ih f hf hdf⟩)

/-- A node lies below each of its ancestors. -/
theorem IsIn.mem_preorder_of_mem_ancestors (hc : c.IsIn tree) (h : d ∈ c.ancestors) :
    c ∈ d.preorder := by
  obtain ⟨n, crumbs⟩ := c
  induction crumbs generalizing n with
  | nil => cases h
  | cons crumb crumbs ih =>
      -- The ancestors of a node are its parent and the ancestors of the parent.
      obtain ⟨hparent, hmem⟩ := hc.parent (c := ⟨crumb.parent, crumbs⟩) rfl
      rcases List.mem_cons.1 h with rfl | h
      · exact mem_preorder_of_mem_children (self_mem_preorder _) hmem
      · exact mem_preorder_of_mem_children (ih _ hparent h) hmem

/-- Pre-order lists all cursors of a tree. -/
theorem mem_preorder_iff : c ∈ (root tree).preorder ↔ c.IsIn tree := by
  constructor
  · exact (isIn_root tree).of_mem_preorder
  · intro h
    obtain ⟨n, crumbs⟩ := c
    induction crumbs generalizing n with
    | nil =>
        obtain rfl : n = tree := h
        exact self_mem_preorder _
    | cons crumb crumbs ih =>
        exact mem_preorder_of_mem_children (ih crumb.parent h.2)
          (mem_children_iff.2 ⟨crumb.index, n, h.1, rfl⟩)

end

/-! ### No cursor twice -/

/-- The way to a node below a cursor goes on from the way to the cursor. -/
theorem suffix_of_mem_preorder {c d : Cursor} (h : d ∈ c.preorder) : c.crumbs <:+ d.crumbs := by
  induction c using inductionOn with
  | step c ih =>
      rcases mem_preorder.1 h with rfl | ⟨e, he, hde⟩
      · exact List.suffix_refl _
      · obtain ⟨i, hi⟩ := crumbs_of_mem_children he
        have hsuffix := ih e he hde
        rw [hi] at hsuffix
        exact (List.suffix_cons _ _).trans hsuffix

theorem nodup_flatMap_childrenFrom (c : Cursor) (index : Nat) (ns : List Node)
    (h : ∀ d ∈ c.childrenFrom index ns, d.preorder.Nodup) :
    ((c.childrenFrom index ns).flatMap preorder).Nodup := by
  induction ns generalizing index with
  | nil => simp [childrenFrom]
  | cons n ns ih =>
      rw [childrenFrom, List.forall_mem_cons] at h
      rw [childrenFrom, List.flatMap_cons, List.nodup_append]
      refine ⟨h.1, ih (index + 1) h.2, ?_⟩
      rintro d hd e he rfl
      -- The ways to the two occurrences leave `c` by children with different indices.
      obtain ⟨f, hf, hdf⟩ := List.mem_flatMap.1 he
      obtain ⟨i, m, -, rfl⟩ := mem_childrenFrom_iff.1 hf
      have h₁ := suffix_of_mem_preorder hd
      have h₂ := suffix_of_mem_preorder hdf
      have hcrumbs := (List.suffix_of_suffix_length_le h₁ h₂ (by simp [child])).eq_of_length
        (by simp [child])
      simp [child] at hcrumbs
      omega

/-- Pre-order lists no cursor twice. -/
theorem nodup_preorder (c : Cursor) : c.preorder.Nodup := by
  induction c using inductionOn with
  | step c ih =>
      rw [preorder_eq, List.nodup_cons]
      refine ⟨fun hmem => ?_, nodup_flatMap_childrenFrom c 0 c.node.children ih⟩
      obtain ⟨d, hd, hcd⟩ := List.mem_flatMap.1 hmem
      obtain ⟨i, hi⟩ := crumbs_of_mem_children hd
      have hlength := (suffix_of_mem_preorder hcd).length_le
      rw [hi, List.length_cons] at hlength
      omega

/-- A node is an ancestor of all nodes below its children. -/
theorem mem_ancestors_of_mem_flatMap {c d : Cursor} (h : d ∈ c.children.flatMap preorder) :
    c ∈ d.ancestors := by
  obtain ⟨e, he, hde⟩ := List.mem_flatMap.1 h
  obtain ⟨i, hi⟩ := crumbs_of_mem_children he
  obtain ⟨above, habove⟩ := suffix_of_mem_preorder hde
  rw [ancestors, ← habove, hi]
  clear habove
  induction above with
  | nil => exact List.mem_cons_self
  | cons crumb above ih => exact List.mem_cons_of_mem _ ih

/-! ### What a traversal with a stack meets -/

/-- Below a node that is not entered nothing is met. -/
theorem filter_preorder_of_not_enters {enters : Cursor → Bool} {c : Cursor}
    (hc : enters c = false) :
    (c.children.flatMap preorder).filter (fun d => d.ancestors.all enters) = [] := by
  rw [List.filter_eq_nil_iff]
  intro d hd
  rw [List.all_eq_true]
  intro hall
  rw [hall c (mem_ancestors_of_mem_flatMap hd)] at hc
  exact Bool.noConfusion hc

/-- A traversal that enters some nodes only meets, in pre-order, those nodes all of whose ancestors
it enters. -/
theorem walk_eq_filter {enters : Cursor → Bool} (stack : List Cursor)
    (h : ∀ c ∈ stack, c.ancestors.all enters) :
    walk enters stack =
      (stack.flatMap preorder).filter fun d => d.ancestors.all enters := by
  induction stack using walk.induct enters with
  | case1 => rw [walk, List.flatMap_nil, List.filter_nil]
  | case2 c stack hc ih =>
      obtain ⟨hself, hrest⟩ := List.forall_mem_cons.1 h
      have hnext : ∀ d ∈ c.children ++ stack, d.ancestors.all enters := by
        intro d hd
        rcases List.mem_append.1 hd with hd | hd
        · rw [ancestors_of_mem_children hd, List.all_cons, hc, hself]
          rfl
        · exact hrest d hd
      rw [walk, if_pos hc, ih hnext, List.flatMap_cons, preorder_eq c, List.cons_append,
        List.filter_cons_of_pos (p := fun d : Cursor => d.ancestors.all enters) hself,
        List.flatMap_append]
  | case3 c stack hc ih =>
      obtain ⟨hself, hrest⟩ := List.forall_mem_cons.1 h
      rw [walk, if_neg hc, ih hrest, List.flatMap_cons, preorder_eq c, List.cons_append,
        List.filter_cons_of_pos (p := fun d : Cursor => d.ancestors.all enters) hself,
        List.filter_append,
        filter_preorder_of_not_enters (by simpa using hc), List.nil_append]

/-- A traversal that enters all nodes meets all nodes, in pre-order. -/
theorem walk_true (c : Cursor) : walk (fun _ => true) [c] = c.preorder := by
  have hall : ∀ d : Cursor, (d.ancestors.all fun _ => true) = true := by simp
  rw [walk_eq_filter [c] (fun d _ => hall d), List.flatMap_cons, List.flatMap_nil,
    List.append_nil, List.filter_eq_self]
  exact fun d _ => hall d

/-- The nodes of one kind, in pre-order. -/
theorem nodesOfKind_eq (kind : Kind) (c : Cursor) :
    c.nodesOfKind kind = c.preorder.filter fun d => d.kind = kind := by
  rw [nodesOfKind, walk_true]

/-- The literals of a tree that lie in no other literal, in pre-order. -/
theorem literals_root (tree : Node) :
    (root tree).literals =
      (root tree).preorder.filter fun d =>
        d.kind.isLiteral && d.ancestors.all fun a => !a.kind.isLiteral := by
  have hroot : ∀ c ∈ [root tree], c.ancestors.all fun a => !a.kind.isLiteral := by
    simp [root, ancestors, ancestors.go]
  rw [literals, walk_eq_filter _ hroot, List.flatMap_cons, List.flatMap_nil, List.append_nil,
    List.filter_filter]

end ComponentIndex.Script.Cursor
