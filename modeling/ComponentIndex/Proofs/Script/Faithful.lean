/-
**Faithful maps of the nodes of a tree.**

A decision about a node looks at its surroundings: it climbs to the parent, goes to children that it
selects by kind and role, and asks whether it came back to the node.  A map into another tree that
keeps these steps, and the bare forms of nodes, keeps all decisions.  The root of a program may be
mapped to one with more statements, as no decision goes down from it.

Main definitions:

* `ComponentIndex.Script.Cursor.IsFaithful` — a map keeps what decisions look at;
* `ComponentIndex.Script.Cursor.bare` — the place of a node in the bare form of its tree.

Main results:

* `ComponentIndex.Script.Cursor.IsFaithful.callArguments`,
  `ComponentIndex.Script.Cursor.IsFaithful.ancestors` — moving along a faithful map;
* `ComponentIndex.Script.Cursor.isFaithful_bare` — **leaving out comments** is faithful;
* `ComponentIndex.Script.Cursor.allProperties_bare`, `ComponentIndex.Script.Cursor.literals_bare` —
  the traversals of a bare tree.
-/

import ComponentIndex.Proofs.Script.Comment
import ComponentIndex.Proofs.Script.Preorder

set_option relaxedAutoImplicit false
set_option autoImplicit false

namespace ComponentIndex.Script

/-- The node looks like a comment among its siblings. -/
def Node.isAside (n : Node) : Bool := n.kind = .comment && n.role = none

namespace Cursor

/-! ### Faithful maps -/

/-- The map keeps what decisions about the nodes of a tree look at. -/
structure IsFaithful (tree : Node) (φ : Cursor → Cursor) : Prop where
  /-- Nodes keep their kinds. -/
  kind : ∀ {c : Cursor}, c.IsIn tree → (φ c).kind = c.kind
  /-- Nodes stay as they are or become bare, but for the root of a program. -/
  node : ∀ {c : Cursor}, c.IsIn tree → c.kind ≠ .program →
    (φ c).node = c.node ∨ (φ c).node = c.node.bare
  /-- Parents are mapped to parents. -/
  parent? : ∀ {c : Cursor}, c.IsIn tree → (φ c).parent? = c.parent?.map φ
  /-- Children that are selected by kind and role, comments left out, are mapped to the children
  that are selected. -/
  filter_children : ∀ {c : Cursor}, c.IsIn tree → c.kind ≠ .program →
    ∀ {p : Kind → Option Role → Bool}, p .comment none = false →
      (φ c).children.filter (fun d => p d.kind d.node.role) =
        (c.children.filter fun d => p d.kind d.node.role).map φ
  /-- Nodes that are not comments are told apart as before. -/
  isSame : ∀ {c d : Cursor}, c.IsIn tree → d.IsIn tree → c.node.isAside = false →
    d.node.isAside = false → (φ c).isSame (φ d) = c.isSame d

section

variable {tree : Node} {φ : Cursor → Cursor} {c : Cursor}

/-- What is read off the bare form of a node is kept. -/
theorem IsFaithful.read (hφ : IsFaithful tree φ) (hc : c.IsIn tree) (hkind : c.kind ≠ .program)
    {α : Type} {f : Node → α} (hf : ∀ n, f n.bare = f n) : f (φ c).node = f c.node := by
  rcases hφ.node hc hkind with h | h
  · rw [h]
  · rw [h, hf]

theorem IsFaithful.childIn? (hφ : IsFaithful tree φ) (hc : c.IsIn tree)
    (hkind : c.kind ≠ .program) (role : Role) :
    (φ c).childIn? role = (c.childIn? role).map φ := by
  have hfilter := hφ.filter_children hc hkind (p := fun _ r => r = some role) rfl
  rw [Cursor.childIn?, Cursor.childIn?, ← List.head?_filter, hfilter, List.head?_map,
    List.head?_filter]

theorem IsFaithful.properties (hφ : IsFaithful tree φ) (hc : c.IsIn tree)
    (hkind : c.kind ≠ .program) : (φ c).properties = c.properties.map φ :=
  hφ.filter_children hc hkind (p := fun kind _ => kind.isProperty) rfl

theorem significantChildren_eq_filter (c : Cursor) :
    c.significantChildren = c.children.filter fun d => d.kind.isNamed && d.kind ≠ .comment := by
  rw [significantChildren, namedChildren, List.filter_filter]
  exact List.filter_congr fun d _ => Bool.and_comm _ _

theorem IsFaithful.significantChildren (hφ : IsFaithful tree φ) (hc : c.IsIn tree)
    (hkind : c.kind ≠ .program) : (φ c).significantChildren = c.significantChildren.map φ := by
  rw [significantChildren_eq_filter, significantChildren_eq_filter]
  exact hφ.filter_children hc hkind (p := fun kind _ => kind.isNamed && kind ≠ .comment) rfl

theorem isIn_of_childIn? {role : Role} {d : Cursor} (hc : c.IsIn tree)
    (h : c.childIn? role = some d) : d.IsIn tree :=
  hc.of_mem_children (List.mem_of_find?_eq_some h)

theorem role_of_childIn? {role : Role} {d : Cursor} (h : c.childIn? role = some d) :
    d.node.role = some role :=
  of_decide_eq_true (List.find?_some (p := fun d : Cursor => d.node.role = some role) h)

theorem isIn_of_mem_significantChildren {d : Cursor} (hc : c.IsIn tree)
    (h : d ∈ c.significantChildren) : d.IsIn tree ∧ d.kind ≠ .comment := by
  rw [significantChildren_eq_filter, List.mem_filter, Bool.and_eq_true] at h
  exact ⟨hc.of_mem_children h.1, of_decide_eq_true h.2.2⟩

/-- The arguments of a call are nodes of its tree, and none is a comment. -/
theorem isIn_of_mem_callArguments {d : Cursor} (hc : c.IsIn tree) (h : d ∈ c.callArguments) :
    d.IsIn tree ∧ d.kind ≠ .comment := by
  rw [Cursor.callArguments] at h
  cases hargs : c.childIn? .arguments with
  | none =>
      rw [hargs] at h
      cases h
  | some args =>
      simp only [hargs] at h
      split at h
      · exact isIn_of_mem_significantChildren (isIn_of_childIn? hc hargs) h
      · cases h

theorem isIn_of_mem_properties {d : Cursor} (hc : c.IsIn tree) (h : d ∈ c.properties) :
    d.IsIn tree ∧ d.kind.isProperty = true := by
  obtain ⟨hmem, hkind⟩ := List.mem_filter.1 h
  exact ⟨hc.of_mem_children hmem, hkind⟩

theorem isIn_of_mem_allProperties (h : c ∈ (root tree).allProperties) :
    c.IsIn tree ∧ c.kind.isProperty = true := by
  obtain ⟨object, hobject, hc⟩ := List.mem_flatMap.1 h
  rw [nodesOfKind_eq, List.mem_filter, mem_preorder_iff] at hobject
  exact isIn_of_mem_properties hobject.1 hc

theorem isIn_of_mem_literals (h : c ∈ (root tree).literals) :
    c.IsIn tree ∧ c.kind.isLiteral = true := by
  rw [literals_root, List.mem_filter, mem_preorder_iff, Bool.and_eq_true] at h
  exact ⟨h.1, h.2.1⟩

/-- **The arguments of a call** are mapped to the arguments of the call that it is mapped to. -/
theorem IsFaithful.callArguments (hφ : IsFaithful tree φ) (hc : c.IsIn tree)
    (hkind : c.kind ≠ .program) : (φ c).callArguments = c.callArguments.map φ := by
  rw [Cursor.callArguments, Cursor.callArguments, hφ.childIn? hc hkind]
  cases hargs : c.childIn? .arguments with
  | none => rfl
  | some args =>
      have hin : args.IsIn tree := isIn_of_childIn? hc hargs
      simp only [Option.map_some, hφ.kind hin]
      by_cases harguments : args.kind = .arguments
      · rw [if_pos harguments, if_pos harguments,
          hφ.significantChildren hin (by rw [harguments]; decide)]
      · rw [if_neg harguments, if_neg harguments, List.map_nil]

theorem ancestors_eq (c : Cursor) :
    c.ancestors = (c.parent?.map fun d => d :: d.ancestors).getD [] := by
  obtain ⟨n, crumbs⟩ := c
  cases crumbs with
  | nil => rfl
  | cons crumb crumbs => rfl

theorem IsIn.of_mem_ancestors {d : Cursor} (hc : c.IsIn tree) (h : d ∈ c.ancestors) :
    d.IsIn tree := by
  obtain ⟨n, crumbs⟩ := c
  induction crumbs generalizing n with
  | nil => cases h
  | cons crumb crumbs ih =>
      have hin := (hc.parent (c := ⟨crumb.parent, crumbs⟩) rfl).1
      rcases List.mem_cons.1 h with rfl | h
      · exact hin
      · exact ih _ hin h

/-- The ancestors of a node are mapped to its ancestors. -/
theorem IsFaithful.ancestors (hφ : IsFaithful tree φ) (hc : c.IsIn tree) :
    (φ c).ancestors = c.ancestors.map φ := by
  obtain ⟨n, crumbs⟩ := c
  induction crumbs generalizing n with
  | nil =>
      rw [ancestors_eq, hφ.parent? hc]
      rfl
  | cons crumb crumbs ih =>
      have hparent : Cursor.parent? ⟨n, crumb :: crumbs⟩ = some ⟨crumb.parent, crumbs⟩ := rfl
      have hin := (hc.parent hparent).1
      rw [ancestors_eq, hφ.parent? hc, hparent, Option.map_some, Option.map_some, Option.getD_some,
        ih _ hin]
      rfl

/-- To look for a node that is found on the way is the same after the map. -/
theorem IsFaithful.any_isSame (hφ : IsFaithful tree φ) (hc : c.IsIn tree)
    (haside : c.node.isAside = false) {found? : Option Cursor}
    (hfound : ∀ d, found? = some d → d.IsIn tree ∧ d.node.isAside = false) :
    (found?.map φ).any (φ c).isSame = found?.any c.isSame := by
  cases found? with
  | none => rfl
  | some d =>
      obtain ⟨hd, hdaside⟩ := hfound d rfl
      exact hφ.isSame hc hd haside hdaside

end

/-! ### Leaving out comments -/

end Cursor

/-- The step in the bare form of a tree: the comments before a child are not counted. -/
def Crumb.bare (crumb : Crumb) : Crumb :=
  ⟨crumb.parent.bare, (crumb.parent.children.take crumb.index).countP Node.stays⟩

namespace Cursor

/-- The place of a node in the bare form of its tree. A comment stands where the next node does. -/
def bare (c : Cursor) : Cursor := ⟨c.node.bare, c.crumbs.map Crumb.bare⟩

@[simp] theorem node_bare (c : Cursor) : c.bare.node = c.node.bare := rfl

@[simp] theorem kind_bare (c : Cursor) : c.bare.kind = c.kind := Node.kind_bare c.node

theorem bare_root (tree : Node) : (root tree).bare = root tree.bare := rfl

theorem parent?_bare (c : Cursor) : c.bare.parent? = c.parent?.map bare := by
  obtain ⟨n, crumbs⟩ := c
  cases crumbs with
  | nil => rfl
  | cons crumb crumbs => rfl

theorem childrenFrom_bare (c : Cursor) {before after : List Node}
    (h : c.node.children = before ++ after) :
    c.bare.childrenFrom (before.countP Node.stays) (Node.bareAll after) =
      ((c.childrenFrom before.length after).filter fun d => d.node.stays).map bare := by
  induction after generalizing before with
  | nil => rw [Node.bareAll, childrenFrom, childrenFrom, List.filter_nil, List.map_nil]
  | cons n after ih =>
      have happend : c.node.children = (before ++ [n]) ++ after := by
        rw [h, List.append_assoc, List.singleton_append]
      have hnext := ih happend
      rw [List.countP_append, List.length_append, List.length_singleton] at hnext
      rw [Node.bareAll, childrenFrom, List.filter_cons]
      have hnode : (c.child before.length n).node = n := rfl
      rw [hnode]
      cases hn : n.stays with
      | true =>
          have hchild : (c.child before.length n).bare =
              c.bare.child (before.countP Node.stays) n.bare := by
            rw [child, child, bare, List.map_cons, Crumb.bare, h, List.take_left]
            rfl
          rw [List.countP_singleton, hn, if_pos rfl] at hnext
          rw [if_pos rfl, if_pos rfl, childrenFrom, List.map_cons, hchild, hnext]
      | false =>
          rw [List.countP_singleton, hn, if_neg Bool.false_ne_true, Nat.add_zero] at hnext
          rw [if_neg Bool.false_ne_true, if_neg Bool.false_ne_true, hnext]

/-- The children of a node in the bare form are its children that are not comments. -/
theorem children_bare (c : Cursor) :
    c.bare.children = (c.children.filter fun d => d.node.stays).map bare := by
  have h := c.childrenFrom_bare (List.nil_append c.node.children).symm
  rwa [Node.bareAll_eq, ← Node.children_bare] at h

/-- Children that are selected by kind and role, comments left out, are selected in the bare form. -/
theorem filter_children_bare (c : Cursor) {p : Kind → Option Role → Bool}
    (hp : p .comment none = false) :
    c.bare.children.filter (fun d => p d.kind d.node.role) =
      (c.children.filter fun d => p d.kind d.node.role).map bare := by
  have hstays : ∀ d : Cursor,
      (p d.bare.kind d.bare.node.role && d.node.stays) = p d.kind d.node.role := by
    intro d
    rw [kind_bare, node_bare, Node.role_bare]
    cases hd : d.node.stays with
    | true => rw [Bool.and_true]
    | false =>
        rw [kind, Node.kind_of_not_stays hd, Node.role_of_not_stays hd, hp]
        rfl
  rw [children_bare, List.filter_map, List.filter_filter]
  simp only [Function.comp_apply, hstays]

/-- A node that is no comment is found again by the number of such nodes before it. -/
theorem index_eq_of_countP {ns : List Node} {i j : Nat} {n m : Node} (hn : ns[i]? = some n)
    (hm : ns[j]? = some m) (hnstays : n.stays = true) (hmstays : m.stays = true)
    (h : (ns.take i).countP Node.stays = (ns.take j).countP Node.stays) : i = j := by
  induction ns generalizing i j with
  | nil => cases hn
  | cons k ns ih =>
      cases i with
      | zero =>
          cases j with
          | zero => rfl
          | succ j =>
              obtain rfl : k = n := Option.some.inj hn
              rw [List.take_zero, List.countP_nil, List.take_succ_cons,
                List.countP_cons_of_pos hnstays] at h
              omega
      | succ i =>
          cases j with
          | zero =>
              obtain rfl : k = m := Option.some.inj hm
              rw [List.take_zero, List.countP_nil, List.take_succ_cons,
                List.countP_cons_of_pos hmstays] at h
              omega
          | succ j =>
              rw [List.take_succ_cons, List.take_succ_cons, List.countP_cons, List.countP_cons] at h
              rw [ih hn hm (by omega)]

/-- A node that is no comment is determined by its place in the bare form. -/
theorem IsIn.eq_of_path_bare {tree : Node} {c d : Cursor} (hc : c.IsIn tree) (hd : d.IsIn tree)
    (hcstays : c.node.stays = true) (hdstays : d.node.stays = true)
    (h : c.bare.path = d.bare.path) : c = d := by
  obtain ⟨n, crumbs⟩ := c
  obtain ⟨m, crumbs'⟩ := d
  induction crumbs generalizing n m crumbs' with
  | nil =>
      cases crumbs' with
      | nil =>
          obtain rfl : n = tree := hc
          obtain rfl : m = n := hd
          rfl
      | cons _ _ => simp [path, bare] at h
  | cons crumb crumbs ih =>
      cases crumbs' with
      | nil => simp [path, bare] at h
      | cons crumb' crumbs' =>
          simp only [path, bare, List.map_cons, List.cons.injEq] at h
          -- A parent has a child, and so is no comment.
          have hparent := ih crumb.parent hc.2
            (Node.stays_of_mem_children (List.mem_of_getElem? hc.1)) crumb'.parent crumbs' hd.2
            (Node.stays_of_mem_children (List.mem_of_getElem? hd.1)) h.2
          obtain ⟨p, i⟩ := crumb
          obtain ⟨q, j⟩ := crumb'
          obtain ⟨rfl, rfl⟩ := Cursor.mk.injEq .. ▸ hparent
          obtain rfl : i = j := index_eq_of_countP hc.1 hd.1 hcstays hdstays h.1
          have hn : (some n : Option Node) = some m := hc.1.symm.trans hd.1
          rw [Option.some.inj hn]

theorem stays_of_isAside {n : Node} (h : n.isAside = false) : n.stays = true := by
  rw [Node.stays, Node.isPlainComment, ← Node.isAside, h]
  rfl

/-- **Leaving out comments** keeps what decisions look at. -/
theorem isFaithful_bare (tree : Node) : IsFaithful tree bare where
  kind := fun _ => kind_bare _
  node := fun _ _ => Or.inr rfl
  parent? := fun _ => parent?_bare _
  filter_children := fun _ _ _ hp => filter_children_bare _ hp
  isSame := by
    intro c d hc hd hcaside hdaside
    have hpath : c.bare.path = d.bare.path ↔ c.path = d.path := by
      constructor
      · intro h
        rw [hc.eq_of_path_bare hd (stays_of_isAside hcaside) (stays_of_isAside hdaside) h]
      · intro h
        rw [hc.eq_of_path hd h]
    rw [isSame, isSame, Bool.eq_iff_iff, beq_iff_eq, beq_iff_eq, hpath]

/-! ### Traversals of a bare tree -/

theorem properties_bare (c : Cursor) : c.bare.properties = c.properties.map bare :=
  c.filter_children_bare (p := fun kind _ => kind.isProperty) rfl

theorem ancestors_bare (c : Cursor) : c.bare.ancestors = c.ancestors.map bare := by
  obtain ⟨n, crumbs⟩ := c
  rw [ancestors, ancestors, bare]
  induction crumbs with
  | nil => rfl
  | cons crumb crumbs ih =>
      rw [List.map_cons, ancestors.go, ancestors.go, List.map_cons]
      exact congrArg (List.cons _) ih

theorem preorder_of_not_stays {c : Cursor} (h : c.node.stays = false) : c.preorder = [c] := by
  have hchildren : c.node.children = [] := by
    cases hcs : c.node.children with
    | nil => rfl
    | cons d ds =>
        rw [Node.stays_of_mem_children (c := d) (by rw [hcs]; exact List.mem_cons_self)] at h
        cases h
  rw [preorder_eq, children, hchildren, childrenFrom, List.flatMap_nil]

/-- Nodes that are selected in pre-order, comments left out, are selected in the bare form. -/
theorem filter_preorder_bare {p q : Cursor → Bool} (hpq : ∀ d, q d.bare = p d)
    (hstays : ∀ d, p d = true → d.node.stays = true) (c : Cursor) :
    c.bare.preorder.filter q = (c.preorder.filter p).map bare := by
  induction c using inductionOn with
  | step c ih =>
      have hbelow : ∀ ds : List Cursor, (∀ d ∈ ds, d ∈ c.children) →
          (((ds.filter fun d => d.node.stays).map bare).flatMap preorder).filter q =
            ((ds.flatMap preorder).filter p).map bare := by
        intro ds hds
        induction ds with
        | nil => rfl
        | cons d ds ihds =>
            rw [List.forall_mem_cons] at hds
            rw [List.flatMap_cons, List.filter_append, List.map_append, ← ihds hds.2,
              List.filter_cons]
            cases hd : d.node.stays with
            | true =>
                rw [if_pos rfl, List.map_cons, List.flatMap_cons, List.filter_append, ih d hds.1]
            | false =>
                have hnot : p d = false := by
                  cases hpd : p d with
                  | false => rfl
                  | true =>
                      rw [hstays d hpd] at hd
                      cases hd
                rw [if_neg Bool.false_ne_true, preorder_of_not_stays hd,
                  List.filter_cons_of_neg (by rw [hnot]; exact Bool.false_ne_true)]
                rfl
      rw [preorder_eq, preorder_eq, children_bare, List.filter_cons, List.filter_cons, hpq,
        hbelow c.children fun d hd => hd]
      split
      · rw [List.map_cons]
      · rfl

/-- **The properties of all object literals** are those of the bare form. -/
theorem allProperties_bare (c : Cursor) : c.bare.allProperties = c.allProperties.map bare := by
  have hobjects : c.bare.nodesOfKind .object = (c.nodesOfKind .object).map bare := by
    rw [nodesOfKind_eq, nodesOfKind_eq]
    refine filter_preorder_bare (fun d => by rw [kind_bare]) (fun d hd => ?_) c
    have hkind : d.node.kind = .object := of_decide_eq_true hd
    exact Node.stays_of_kind (by rw [hkind]; decide)
  rw [allProperties, allProperties, hobjects, List.flatMap_map, List.map_flatMap]
  simp only [properties_bare]

/-- **The outermost literals** are those of the bare form. -/
theorem literals_bare (tree : Node) : (root tree.bare).literals = (root tree).literals.map bare := by
  rw [literals_root, literals_root, ← bare_root]
  refine filter_preorder_bare (fun d => ?_) (fun d hd => ?_) _
  · rw [kind_bare, ancestors_bare, List.all_map]
    simp only [Function.comp_def, kind_bare]
  · rw [Bool.and_eq_true] at hd
    exact Node.stays_of_kind (Kind.ne_of_test hd.1 rfl)

end Cursor

end ComponentIndex.Script
