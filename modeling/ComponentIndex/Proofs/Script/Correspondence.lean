/-
**Nodes of a tree and of the tree with comments inserted.**

Each node of a tree stands in the tree with comments inserted as well, only further on among the
children of its parent.  The two nodes *correspond*, and what is looked up from one of them corresponds
to what is looked up from the other, as no look-up stops at a comment.

Main definitions:

* `ComponentIndex.Script.Node.sprinkled` — a tree with a comment before each child;
* `ComponentIndex.Script.Cursor.Corresponds` — a node, found again among comments;
* `ComponentIndex.Script.Cursor.findProperty?` — the pair with a given key, with the way to it.

Main results:

* `ComponentIndex.Script.Cursor.exists_corresponds`,
  `ComponentIndex.Script.Cursor.exists_corresponds_of_stays` — **each node corresponds** to one of the
  other tree;
* `ComponentIndex.Script.Cursor.Corresponds.callArguments`,
  `ComponentIndex.Script.Cursor.Corresponds.findProperty?`,
  `ComponentIndex.Script.Cursor.Corresponds.namedChildren` — look-ups from corresponding nodes;
* `ComponentIndex.Script.Cursor.allProperties_corresponds`,
  `ComponentIndex.Script.Cursor.literals_corresponds` — the traversals.
-/

import ComponentIndex.Proofs.Lists
import ComponentIndex.Proofs.Script.Faithful

set_option relaxedAutoImplicit false
set_option autoImplicit false

namespace ComponentIndex.Script

section

variable {opens : Kind → Bool}

namespace Node

/-! ### The children of a tree with comments inserted -/

theorem Commented.children {n n' : Node} (h : Commented opens n n') :
    CommentedAll opens (opens n.kind && !n.children.isEmpty) n.children n'.children := by
  cases h with
  | node htext hchildren => exact hchildren

/-- A tree is found again behind as many trees that are no comments. -/
theorem CommentedAll.exists_getElem? :
    ∀ {isOpen : Bool} {ns ns' : List Node}, CommentedAll opens isOpen ns ns' →
      ∀ {i : Nat} {n : Node}, ns[i]? = some n →
        ∃ i' n', ns'[i']? = some n' ∧ Commented opens n n' ∧
          (ns'.take i').countP stays = (ns.take i).countP stays
  | _, _, _, .nil, _, _, hn => by cases hn
  | _, _, _, .cons hhead _, 0, _, hn => by
    obtain rfl := Option.some.inj hn
    exact ⟨0, _, rfl, hhead, rfl⟩
  | _, _, _, .cons hhead htail, i + 1, _, hn => by
    obtain ⟨i', n', hn', hcommented, hcount⟩ := htail.exists_getElem? hn
    refine ⟨i' + 1, n', hn', hcommented, ?_⟩
    rw [List.take_succ_cons, List.take_succ_cons, List.countP_cons, List.countP_cons,
      hhead.stays_eq, hcount]
  | _, _, _, .insert _ hcomment htail, _, _, hn => by
    obtain ⟨i', n', hn', hcommented, hcount⟩ := htail.exists_getElem? hn
    refine ⟨i' + 1, n', hn', hcommented, ?_⟩
    rw [List.take_succ_cons, List.countP_cons_of_neg (by simp [stays, hcomment]), hcount]

/-- A tree that is no comment was there before comments were inserted. -/
theorem CommentedAll.exists_getElem?_of_stays :
    ∀ {isOpen : Bool} {ns ns' : List Node}, CommentedAll opens isOpen ns ns' →
      ∀ {i' : Nat} {n' : Node}, ns'[i']? = some n' → n'.stays = true →
        ∃ i n, ns[i]? = some n ∧ Commented opens n n' ∧
          (ns'.take i').countP stays = (ns.take i).countP stays
  | _, _, _, .nil, _, _, hn', _ => by cases hn'
  | _, _, _, .cons hhead _, 0, _, hn', _ => by
    obtain rfl := Option.some.inj hn'
    exact ⟨0, _, rfl, hhead, rfl⟩
  | _, _, _, .cons hhead htail, i' + 1, _, hn', hstays => by
    obtain ⟨i, n, hn, hcommented, hcount⟩ := htail.exists_getElem?_of_stays hn' hstays
    refine ⟨i + 1, n, hn, hcommented, ?_⟩
    rw [List.take_succ_cons, List.take_succ_cons, List.countP_cons, List.countP_cons,
      hhead.stays_eq, hcount]
  | _, _, _, .insert _ hcomment _, 0, _, hn', hstays => by
    obtain rfl := Option.some.inj hn'
    rw [stays, hcomment] at hstays
    cases hstays
  | _, _, _, .insert _ hcomment htail, i' + 1, _, hn', hstays => by
    obtain ⟨i, n, hn, hcommented, hcount⟩ := htail.exists_getElem?_of_stays hn' hstays
    refine ⟨i, n, hn, hcommented, ?_⟩
    rw [List.take_succ_cons, List.countP_cons_of_neg (by simp [stays, hcomment]), hcount]

/-- Where no comments are inserted between them, trees stay side by side. -/
theorem CommentedAll.forall₂ : ∀ {ns ns' : List Node}, CommentedAll opens false ns ns' →
    List.Forall₂ (Commented opens) ns ns'
  | _, _, .nil => .nil
  | _, _, .cons hhead htail => .cons hhead htail.forall₂

theorem countP_stays_of_forall₂ {ns ns' : List Node} (h : List.Forall₂ (Commented opens) ns ns') :
    ns'.countP stays = ns.countP stays := by
  induction h with
  | nil => rfl
  | cons hhead _ ih => rw [List.countP_cons, List.countP_cons, hhead.stays_eq, ih]

/-! ### A tree with comments everywhere -/

mutual

/-- The tree with a comment before each child of the inner nodes that are open to comments. -/
def sprinkled (opens : Kind → Bool) (comment : Node) : Node → Node
  | ⟨kind, role, start, text, children⟩ =>
    ⟨kind, role, start, text,
      sprinkledAll opens comment (opens kind && !children.isEmpty) children⟩

/-- The trees with comments inside and, if told so, with one before each of them. -/
def sprinkledAll (opens : Kind → Bool) (comment : Node) (isOpen : Bool) : List Node → List Node
  | [] => []
  | n :: ns =>
    if isOpen then comment :: sprinkled opens comment n :: sprinkledAll opens comment isOpen ns
    else sprinkled opens comment n :: sprinkledAll opens comment isOpen ns

end

mutual

theorem commented_sprinkled {comment : Node} (hcomment : comment.isPlainComment = true) :
    ∀ n : Node, n.Commented opens (sprinkled opens comment n)
  | ⟨kind, _, _, _, children⟩ => by
    rw [sprinkled]
    exact .node (fun _ => rfl)
      (commentedAll_sprinkledAll hcomment (opens kind && !children.isEmpty) children)

theorem commentedAll_sprinkledAll {comment : Node} (hcomment : comment.isPlainComment = true)
    (isOpen : Bool) :
    ∀ ns : List Node, CommentedAll opens isOpen ns (sprinkledAll opens comment isOpen ns)
  | [] => by
    rw [sprinkledAll]
    exact .nil
  | n :: ns => by
    have hnext := CommentedAll.cons (commented_sprinkled hcomment n)
      (commentedAll_sprinkledAll hcomment isOpen ns)
    rw [sprinkledAll]
    split
    next hopen => exact .insert hopen hcomment hnext
    · exact hnext

end

end Node

namespace Cursor

/-! ### Corresponding nodes -/

/-- A node of a tree, found again in the tree with comments inserted. -/
structure Corresponds (opens : Kind → Bool) (tree tree' : Node) (c c' : Cursor) : Prop where
  /-- The first node stands in the first tree. -/
  isIn : c.IsIn tree
  /-- The second node stands in the second tree. -/
  isIn' : c'.IsIn tree'
  /-- Below the second node stands what stands below the first one, with comments inserted. -/
  commented : c.node.Commented opens c'.node
  /-- The ways to the nodes lead past the same nodes, comments not counted. -/
  crumbs : c'.crumbs.map Crumb.bare = c.crumbs.map Crumb.bare

section

variable {tree tree' : Node} {c c' : Cursor}

/-- Corresponding nodes have one place in the bare form of their trees. -/
theorem Corresponds.bare_eq (h : Corresponds opens tree tree' c c') : c'.bare = c.bare := by
  rw [bare, bare, Node.bare_eq_of_commented h.commented, h.crumbs]

theorem Corresponds.kind_eq (h : Corresponds opens tree tree' c c') : c'.kind = c.kind :=
  h.commented.kind_eq

theorem Corresponds.stays_eq (h : Corresponds opens tree tree' c c') :
    c'.node.stays = c.node.stays := h.commented.stays_eq

/-- What is read off the bare form of a node is read off corresponding nodes alike. -/
theorem Corresponds.read (h : Corresponds opens tree tree' c c') {α : Type} {f : Node → α}
    (hf : ∀ n : Node, f n.bare = f n) : f c'.node = f c.node := by
  rw [← hf c'.node, Node.bare_eq_of_commented h.commented, hf]

/-- The step to a child, and the step to it when comments are inserted before it. -/
theorem Corresponds.child (h : Corresponds opens tree tree' c c') {i i' : Nat} {n n' : Node}
    (hn : c.node.children[i]? = some n) (hn' : c'.node.children[i']? = some n')
    (hcommented : n.Commented opens n')
    (hcount : (c'.node.children.take i').countP Node.stays =
      (c.node.children.take i).countP Node.stays) :
    Corresponds opens tree tree' (c.child i n) (c'.child i' n') where
  isIn := h.isIn.of_mem_children (mem_children_iff.2 ⟨i, n, hn, rfl⟩)
  isIn' := h.isIn'.of_mem_children (mem_children_iff.2 ⟨i', n', hn', rfl⟩)
  commented := hcommented
  crumbs := by
    rw [Cursor.child, Cursor.child, List.map_cons, List.map_cons, Crumb.bare, Crumb.bare, hcount,
      Node.bare_eq_of_commented h.commented, h.crumbs]

variable (htree : tree.Commented opens tree')

include htree

theorem corresponds_root : Corresponds opens tree tree' (root tree) (root tree') :=
  ⟨isIn_root tree, isIn_root tree', htree, rfl⟩

/-- **Each node is found again** in the tree with comments inserted. -/
theorem exists_corresponds (hc : c.IsIn tree) : ∃ c', Corresponds opens tree tree' c c' := by
  obtain ⟨n, crumbs⟩ := c
  induction crumbs generalizing n with
  | nil =>
      obtain rfl : n = tree := hc
      exact ⟨root tree', corresponds_root htree⟩
  | cons crumb crumbs ih =>
      obtain ⟨hn, hparent⟩ := hc
      obtain ⟨p', hp⟩ := ih crumb.parent hparent
      obtain ⟨i', n', hn', hcommented, hcount⟩ := hp.commented.children.exists_getElem? hn
      exact ⟨p'.child i' n', hp.child hn hn' hcommented hcount⟩

/-- Each node of the tree with comments inserted that is no comment was there before. -/
theorem exists_corresponds_of_stays (hc' : c'.IsIn tree') (hstays : c'.node.stays = true) :
    ∃ c, Corresponds opens tree tree' c c' := by
  obtain ⟨n', crumbs'⟩ := c'
  induction crumbs' generalizing n' with
  | nil =>
      obtain rfl : n' = tree' := hc'
      exact ⟨root tree, corresponds_root htree⟩
  | cons crumb' crumbs' ih =>
      obtain ⟨hn', hparent'⟩ := hc'
      obtain ⟨p, hp⟩ :=
        ih crumb'.parent hparent' (Node.stays_of_mem_children (List.mem_of_getElem? hn'))
      obtain ⟨i, n, hn, hcommented, hcount⟩ :=
        hp.commented.children.exists_getElem?_of_stays hn' hstays
      exact ⟨p.child i n, hp.child hn hn' hcommented hcount⟩

/-- Nodes that have one place in the bare form, and are no comments, correspond. -/
theorem corresponds_of_bare (hc : c.IsIn tree) (hc' : c'.IsIn tree') (hstays : c.node.stays = true)
    (hstays' : c'.node.stays = true) (h : c'.bare = c.bare) :
    Corresponds opens tree tree' c c' := by
  obtain ⟨d, hd⟩ := exists_corresponds htree hc
  have hdstays : d.node.stays = true := hd.stays_eq.trans hstays
  have hpath : c'.bare.path = d.bare.path := by rw [h, hd.bare_eq]
  rw [hc'.eq_of_path_bare hd.isIn' hstays' hdstays hpath]
  exact hd

/-- Lists of nodes that have the same places in the bare form, and hold no comments, correspond node
by node. -/
theorem forall₂_corresponds {cs cs' : List Cursor} (hcs : ∀ c ∈ cs, c.IsIn tree ∧ c.kind ≠ .comment)
    (hcs' : ∀ c ∈ cs', c.IsIn tree' ∧ c.kind ≠ .comment) (h : cs'.map bare = cs.map bare) :
    List.Forall₂ (Corresponds opens tree tree') cs cs' := by
  induction cs generalizing cs' with
  | nil =>
      rw [List.map_nil, List.map_eq_nil_iff] at h
      rw [h]
      exact .nil
  | cons c cs ih =>
      cases cs' with
      | nil => cases h
      | cons c' cs' =>
          rw [List.map_cons, List.map_cons, List.cons.injEq] at h
          rw [List.forall_mem_cons] at hcs hcs'
          obtain ⟨⟨hc, hkind⟩, hcs⟩ := hcs
          obtain ⟨⟨hc', hkind'⟩, hcs'⟩ := hcs'
          have hhead : Corresponds opens tree tree' c c' :=
            corresponds_of_bare htree hc hc' (Node.stays_of_kind hkind) (Node.stays_of_kind hkind')
              h.1
          exact .cons hhead (ih hcs hcs' h.2)

end

/-! ### Look-ups from corresponding nodes -/

/-- The pair of an object literal with a given key, with the way to it. -/
def findProperty? (name : Text) (c : Cursor) : Option Cursor :=
  c.properties.find? fun d => d.node.hasKey name

theorem map_node_childrenFrom (c : Cursor) (index : Nat) (ns : List Node) :
    (c.childrenFrom index ns).map node = ns := by
  induction ns generalizing index with
  | nil => rfl
  | cons n ns ih =>
      rw [childrenFrom, List.map_cons, ih]
      rfl

/-- The pair is the one that is found below the node. -/
theorem map_node_findProperty? (c : Cursor) (name : Text) :
    (c.findProperty? name).map node = c.node.findProperty? name := by
  have hproperties : c.properties.map node = c.node.properties := by
    rw [properties, Node.properties, ← c.map_node_childrenFrom 0 c.node.children, List.filter_map]
    rfl
  rw [findProperty?, Node.findProperty?, ← hproperties, List.find?_map]
  rfl

theorem significantChildren_bare (c : Cursor) :
    c.bare.significantChildren = c.significantChildren.map bare := by
  rw [significantChildren_eq_filter, significantChildren_eq_filter]
  exact c.filter_children_bare (p := fun kind _ => kind.isNamed && kind ≠ .comment) rfl

theorem callArguments_bare (c : Cursor) : c.bare.callArguments = c.callArguments.map bare := by
  have hargs : c.bare.childIn? .arguments = (c.childIn? .arguments).map bare := by
    rw [childIn?, childIn?, ← List.head?_filter, ← List.head?_filter, ← List.head?_map]
    exact congrArg List.head? (c.filter_children_bare (p := fun _ r => r = some .arguments) rfl)
  rw [callArguments, callArguments, hargs]
  cases c.childIn? .arguments with
  | none => rfl
  | some args =>
      rw [Option.map_some]
      simp only [kind_bare]
      split
      · exact significantChildren_bare args
      · rfl

section

variable {tree tree' : Node} {c c' : Cursor}

/-- Where no comments are inserted between them, children correspond side by side. -/
theorem Corresponds.children (h : Corresponds opens tree tree' c c')
    (hkind : opens c.kind = false) :
    List.Forall₂ (Corresponds opens tree tree') c.children c'.children := by
  have hchildren := h.commented.children
  rw [← kind, hkind, Bool.false_and] at hchildren
  have hnodes := hchildren.forall₂
  have hcount : ∀ i, (c'.node.children.take i).countP Node.stays =
      (c.node.children.take i).countP Node.stays :=
    fun i => Node.countP_stays_of_forall₂ (List.forall₂_take i hnodes)
  have hfrom : ∀ {ns ns' : List Node} (index : Nat), c.node.children.drop index = ns →
      c'.node.children.drop index = ns' → List.Forall₂ (Node.Commented opens) ns ns' →
        List.Forall₂ (Corresponds opens tree tree') (c.childrenFrom index ns)
          (c'.childrenFrom index ns') := by
    intro ns ns' index hns hns' hforall
    induction hforall generalizing index with
    | nil => exact .nil
    | @cons n n' ns ns' hhead _ ih =>
        have hn : c.node.children[index]? = some n := by
          rw [← List.head?_drop, hns]
          rfl
        have hn' : c'.node.children[index]? = some n' := by
          rw [← List.head?_drop, hns']
          rfl
        refine .cons (h.child hn hn' hhead (hcount index)) (ih (index + 1) ?_ ?_)
        · rw [← List.tail_drop, hns, List.tail_cons]
        · rw [← List.tail_drop, hns', List.tail_cons]
  exact hfrom 0 List.drop_zero List.drop_zero hnodes

theorem Corresponds.namedChildren (h : Corresponds opens tree tree' c c')
    (hkind : opens c.kind = false) :
    List.Forall₂ (Corresponds opens tree tree') c.namedChildren c'.namedChildren :=
  forall₂_filter (fun _ _ hd => by rw [hd.kind_eq]) (h.children hkind)

variable (htree : tree.Commented opens tree')

include htree

/-- **Children that are no comments** correspond, wherever comments are inserted. -/
theorem Corresponds.significantChildren (h : Corresponds opens tree tree' c c') :
    List.Forall₂ (Corresponds opens tree tree') c.significantChildren c'.significantChildren := by
  refine forall₂_corresponds htree (fun _ => isIn_of_mem_significantChildren h.isIn)
    (fun _ => isIn_of_mem_significantChildren h.isIn') ?_
  rw [← significantChildren_bare, ← significantChildren_bare, h.bare_eq]

/-- **The arguments** of corresponding calls correspond. -/
theorem Corresponds.callArguments (h : Corresponds opens tree tree' c c') :
    List.Forall₂ (Corresponds opens tree tree') c.callArguments c'.callArguments := by
  refine forall₂_corresponds htree (fun _ => isIn_of_mem_callArguments h.isIn)
    (fun _ => isIn_of_mem_callArguments h.isIn') ?_
  rw [← callArguments_bare, ← callArguments_bare, h.bare_eq]

theorem Corresponds.properties (h : Corresponds opens tree tree' c c') :
    List.Forall₂ (Corresponds opens tree tree') c.properties c'.properties := by
  have hmem : ∀ {whole : Node} {c : Cursor}, c.IsIn whole →
      ∀ d ∈ c.properties, d.IsIn whole ∧ d.kind ≠ .comment := by
    intro whole c hc d hd
    obtain ⟨hin, hkind⟩ := isIn_of_mem_properties hc hd
    exact ⟨hin, Kind.ne_of_test hkind rfl⟩
  refine forall₂_corresponds htree (hmem h.isIn) (hmem h.isIn') ?_
  rw [← properties_bare, ← properties_bare, h.bare_eq]

/-- **The pair with a given key** corresponds to the pair with that key. -/
theorem Corresponds.findProperty? (h : Corresponds opens tree tree' c c') (name : Text) :
    Option.Rel (Corresponds opens tree tree') (c.findProperty? name) (c'.findProperty? name) := by
  refine forall₂_find? (fun d d' hd => ?_) (h.properties htree)
  exact hd.read fun n => Node.hasKey_bare n name

/-- **The properties of all object literals** correspond. -/
theorem allProperties_corresponds :
    List.Forall₂ (Corresponds opens tree tree') (root tree).allProperties
      (root tree').allProperties := by
  have hmem : ∀ {whole : Node}, ∀ d ∈ (root whole).allProperties,
      d.IsIn whole ∧ d.kind ≠ .comment := by
    intro whole d hd
    obtain ⟨hin, hkind⟩ := isIn_of_mem_allProperties hd
    exact ⟨hin, Kind.ne_of_test hkind rfl⟩
  refine forall₂_corresponds htree hmem hmem ?_
  rw [← allProperties_bare, ← allProperties_bare, (corresponds_root htree).bare_eq]

/-- **The outermost literals** correspond. -/
theorem literals_corresponds :
    List.Forall₂ (Corresponds opens tree tree') (root tree).literals (root tree').literals := by
  have hmem : ∀ {whole : Node}, ∀ d ∈ (root whole).literals,
      d.IsIn whole ∧ d.kind ≠ .comment := by
    intro whole d hd
    obtain ⟨hin, hkind⟩ := isIn_of_mem_literals hd
    exact ⟨hin, Kind.ne_of_test hkind rfl⟩
  refine forall₂_corresponds htree hmem hmem ?_
  rw [← literals_bare, ← literals_bare, Node.bare_eq_of_commented htree]

end

end Cursor

end

end ComponentIndex.Script
