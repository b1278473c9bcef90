/-
**Reading markup trees.**

The traversal with a stack meets the nodes of a tree in pre-order, and the value of an attribute is
that of the first attribute of its name.

Main definitions:

* `ComponentIndex.Markup.Node.IsAttribute`, `ComponentIndex.Markup.Node.HasAttribute` — an attribute
  with a given name, and the value of the first one;
* `ComponentIndex.Markup.Node.templateNodes` — the nodes of the template of a document.

Main results:

* `ComponentIndex.Markup.Node.walk_eq_preorderAll` — the traversal is pre-order;
* `ComponentIndex.Markup.Node.attribute?_eq_some_iff` — the value of an attribute;
* `ComponentIndex.Markup.loopsIn_eq` — the loops of a document.
-/

import ComponentIndex.Markup.Section

set_option relaxedAutoImplicit false
set_option autoImplicit false

namespace ComponentIndex.Markup

namespace Node

/-! ### The traversal with a stack -/

theorem preorderAll_cons (n : Node) (ns : List Node) :
    preorderAll (n :: ns) = n :: (preorderAll n.children ++ preorderAll ns) := by
  cases n
  rw [preorderAll, preorder, List.cons_append]

theorem preorderAll_append (ns ms : List Node) :
    preorderAll (ns ++ ms) = preorderAll ns ++ preorderAll ms := by
  induction ns with
  | nil => rw [preorderAll, List.nil_append, List.nil_append]
  | cons n ns ih =>
      rw [List.cons_append, preorderAll_cons, preorderAll_cons, ih, List.cons_append,
        List.append_assoc]

/-- The traversal with a stack meets the nodes of the trees on it in pre-order. -/
theorem walk_eq_preorderAll (stack : List Node) : walk stack = preorderAll stack := by
  induction stack using walk.induct with
  | case1 => rw [walk, preorderAll]
  | case2 n stack ih => rw [walk, ih, preorderAll_append, preorderAll_cons]

theorem walk_singleton (n : Node) : walk [n] = n.preorder := by
  rw [walk_eq_preorderAll, preorderAll, preorderAll, List.append_nil]

/-! ### Attributes -/

/-- The node is an attribute with the given name. -/
def IsAttribute (name : Text) (n : Node) : Prop :=
  n.kind = .attribute ∧ ∃ label, n.childOf? .attributeName = some label ∧ label.text = name

theorem IsAttribute.entry {name : Text} {n : Node} (h : n.IsAttribute name) :
    attributeEntry? n = some (name, attributeValueIn? n.children) := by
  obtain ⟨hkind, label, hlabel, rfl⟩ := h
  unfold attributeEntry?
  rw [if_pos hkind, hlabel, Option.map_some]

theorem name_ne_of_entry {name : Text} {n : Node} (h : ¬n.IsAttribute name)
    {entry : Text × Option Text} (hentry : attributeEntry? n = some entry) : name ≠ entry.1 := by
  unfold attributeEntry? at hentry
  split at hentry
  · obtain ⟨label, hlabel, rfl⟩ := Option.map_eq_some_iff.1 hentry
    intro hname
    exact h ⟨‹_›, label, hlabel, hname.symm⟩
  · cases hentry

/-- The first attribute with the given name among some nodes has the given value. -/
def HasAttribute (ns : List Node) (name value : Text) : Prop :=
  ∃ before found after, ns = before ++ found :: after ∧ (∀ a ∈ before, ¬a.IsAttribute name) ∧
    found.IsAttribute name ∧ attributeValueIn? found.children = some value

/-- The value that is looked up under a name is that of the first attribute of that name. -/
theorem lookup_attributes_eq_some_iff {name value : Text} {ns : List Node} :
    ((ns.filterMap attributeEntry?).lookup name).join = some value ↔
      HasAttribute ns name value := by
  unfold HasAttribute
  induction ns with
  | nil => simp
  | cons n ns ih =>
      by_cases hn : n.IsAttribute name
      · -- The first attribute of that name decides, whether it has a value or not.
        rw [List.filterMap_cons_some hn.entry, List.lookup_cons_self, Option.join_some]
        constructor
        · intro hvalue
          exact ⟨[], n, ns, rfl, by simp, hn, hvalue⟩
        · rintro ⟨before, found, after, hsplit, hbefore, -, hvalue⟩
          cases before with
          | nil =>
              obtain rfl := (List.cons.inj hsplit).1
              exact hvalue
          | cons b before =>
              obtain rfl := (List.cons.inj hsplit).1
              exact absurd hn (hbefore n List.mem_cons_self)
      · have hskip : ((n :: ns).filterMap attributeEntry?).lookup name =
            (ns.filterMap attributeEntry?).lookup name := by
          cases hentry : attributeEntry? n with
          | none => rw [List.filterMap_cons_none hentry]
          | some entry =>
              rw [List.filterMap_cons_some hentry, List.lookup_cons,
                beq_false_of_ne (name_ne_of_entry hn hentry)]
        rw [hskip, ih]
        constructor
        · rintro ⟨before, found, after, rfl, hbefore, hfound, hvalue⟩
          refine ⟨n :: before, found, after, rfl, ?_, hfound, hvalue⟩
          rw [List.forall_mem_cons]
          exact ⟨hn, hbefore⟩
        · rintro ⟨before, found, after, hsplit, hbefore, hfound, hvalue⟩
          cases before with
          | nil =>
              obtain rfl := (List.cons.inj hsplit).1
              exact absurd hfound hn
          | cons b before =>
              rw [List.forall_mem_cons] at hbefore
              exact ⟨before, found, after, (List.cons.inj hsplit).2, hbefore.2, hfound,
                hvalue⟩

/-- The value of an attribute of an element is that of the first attribute of its name in the tag
that opens the element. -/
theorem attribute?_eq_some_iff {name value : Text} {n : Node} :
    n.attribute? name = some value ↔
      ∃ tag, n.openingTag? = some tag ∧ HasAttribute tag.children name value := by
  rw [attribute?, attributes]
  cases n.openingTag? with
  | none => simp
  | some tag => simp [lookup_attributes_eq_some_iff]

/-- The nodes of the first element at the top of a document whose name is `template`, in pre-order;
none if there is no such element. -/
def templateNodes (document : Node) : List Node :=
  match document.children.find? isTemplate with
  | some template => template.preorder
  | none => []

end Node

/-- The loops of a document are those of the elements of its template. -/
theorem loopsIn_eq (bytes : List UInt8) (document : Node) :
    loopsIn bytes document = document.templateNodes.filterMap (Node.loop? bytes) := by
  rw [loopsIn, Node.templateNodes]
  cases document.children.find? Node.isTemplate with
  | none => rfl
  | some template => simp only [Node.loops, Node.walk_singleton]

end ComponentIndex.Markup
