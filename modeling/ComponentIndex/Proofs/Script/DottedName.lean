/-
**Dotted names.**

A dotted name is written as accesses, each to a member of what is written before its dot.  Going from an
access to its object, again and again, leads along the *spine* of an expression to what its evaluation
starts with.  The expression is a plain reference exactly if nothing on the spine is in the way: one call,
one optional, computed or private access, or anything else than an identifier at the end is enough for it
to have no names at all.

Main definitions:

* `ComponentIndex.Script.Node.ofNames` — the expression that is written with given names;
* `ComponentIndex.Script.Node.OnSpine` — a node stands on the spine of another one;
* `ComponentIndex.Script.Node.IsObstacle` — a node is in the way of a reference.

Main results:

* `ComponentIndex.Script.Node.isReference_ofNames` — what is written with names is their reference;
* `ComponentIndex.Script.Node.referenceChain?_eq_none_iff` — what has no names;
* `ComponentIndex.Script.Node.referenceChain?_isExact` — **the names of an expression**.
-/

import ComponentIndex.Proofs.Script.Reference
import ComponentIndex.Script.Program
import Mathlib.Data.List.Induction

set_option relaxedAutoImplicit false
set_option autoImplicit false

namespace ComponentIndex.Script.Node

/-! ### Expressions that are written with names -/

/-- The identifier that a name is written as, at the beginning of a script. -/
def ofName (name : Text) : Node := ⟨.identifier, none, 0, name, []⟩

/-- The access to a member of an object by its name. -/
def access (object : Node) (name : Text) : Node :=
  let dot := object.start + Utf8.byteLength object.text
  ⟨.memberExpression, none, object.start, object.text ++ ('.' : CodePoint) :: name,
    [object.withRole .object, ⟨.token ".", none, dot, ".", []⟩,
      ⟨.propertyIdentifier, some .property, dot + 1, name, []⟩]⟩

/-- The expression that is written with some names, the first one of which is an identifier. -/
def ofNames (first : Text) (rest : List Text) : Node := rest.foldl access (ofName first)

theorem ofNames_concat (first : Text) (rest : List Text) (name : Text) :
    ofNames first (rest ++ [name]) = access (ofNames first rest) name := List.foldl_append

theorem IsReference.kind_ne_optionalChain {n : Node} {names : List Text} (h : n.IsReference names) :
    n.kind ≠ .optionalChain := by
  cases h with
  | identifier hkind => simp [hkind]
  | member hkind => simp [hkind]

theorem IsReference.withRole {n : Node} {names : List Text} (h : n.IsReference names) (role : Role) :
    (n.withRole role).IsReference names := by
  cases h with
  | identifier hkind => exact .identifier (n := n.withRole role) hkind
  | member hkind hlink hproperty hname hobject hchain =>
      exact .member (n := n.withRole role) hkind hlink hproperty hname hobject hchain

/-- What is written with names is the reference with these names. -/
theorem isReference_ofNames (first : Text) (rest : List Text) :
    (ofNames first rest).IsReference (first :: rest) := by
  induction rest using List.reverseRecOn with
  | nil => exact .identifier (n := ofName first) rfl
  | append_singleton rest name ih =>
      rw [ofNames_concat]
      have hlink : ∀ c ∈ (access (ofNames first rest) name).children, c.kind ≠ .optionalChain := by
        intro c hc
        simp only [access, List.mem_cons, List.not_mem_nil, or_false] at hc
        rcases hc with rfl | rfl | rfl
        · exact ih.kind_ne_optionalChain
        · simp
        · simp
      exact .member rfl hlink rfl rfl rfl (ih.withRole .object)

/-! ### What is in the way of a reference -/

/-- The second node stands on the spine of the first one: it is that node, or stands on the spine of the
object if that node is an access. -/
inductive OnSpine : Node → Node → Prop
  | here (n : Node) : OnSpine n n
  | object {n object m : Node} (hkind : n.kind = .memberExpression)
      (hobject : n.childIn? .object = some object) (h : OnSpine object m) : OnSpine n m

/-- The node is in the way of a reference on whose spine it would stand. -/
inductive IsObstacle (m : Node) : Prop
  /-- It is neither an identifier nor an access by a name: a call, a computed access, `this`, something in
  parentheses, a literal or any other expression. -/
  | foreign (hidentifier : m.kind ≠ .identifier) (hmember : m.kind ≠ .memberExpression)
  /-- It is an access that is left out if there is no object. -/
  | optional {link : Node} (hkind : m.kind = .memberExpression) (hlink : link ∈ m.children)
      (hchain : link.kind = .optionalChain)
  /-- It is an access, but not to a public member. -/
  | unnamed (hkind : m.kind = .memberExpression)
      (hproperty : ∀ property, m.childIn? .property = some property →
        property.kind ≠ .propertyIdentifier)
  /-- It is an access to a member of nothing. -/
  | bare (hkind : m.kind = .memberExpression) (hobject : m.childIn? .object = none)

theorem IsReference.not_isObstacle {n : Node} {names : List Text} (h : n.IsReference names) :
    ¬n.IsObstacle := by
  intro hobstacle
  cases h with
  | identifier hkind =>
      cases hobstacle with
      | foreign hidentifier => exact hidentifier hkind
      | optional hmember => simp [hkind] at hmember
      | unnamed hmember => simp [hkind] at hmember
      | bare hmember => simp [hkind] at hmember
  | member hkind hlink hproperty hname hobject =>
      cases hobstacle with
      | foreign _ hmember => exact hmember hkind
      | optional _ hchild hchain => exact hlink _ hchild hchain
      | unnamed _ hunnamed => exact hunnamed _ hproperty hname
      | bare _ hnone => simp [hobject] at hnone

/-- Nothing on the spine of a reference is in its way. -/
theorem IsReference.not_isObstacle_of_onSpine {n m : Node} {names : List Text}
    (h : n.IsReference names) (hm : OnSpine n m) : ¬m.IsObstacle := by
  induction hm generalizing names with
  | here n => exact h.not_isObstacle
  | object hkind hobject _ ih =>
      cases h with
      | identifier hidentifier => simp [hkind] at hidentifier
      | member _ _ _ _ hobject' hchain =>
          obtain rfl := Option.some.inj (hobject.symm.trans hobject')
          exact ih hchain

/-- An access that is not in the way of a reference has a name and an object. -/
theorem exists_of_not_isObstacle {n : Node} (hkind : n.kind = .memberExpression)
    (h : ¬n.IsObstacle) :
    (∀ c ∈ n.children, c.kind ≠ .optionalChain) ∧
      (∃ property, n.childIn? .property = some property ∧ property.kind = .propertyIdentifier) ∧
      ∃ object, n.childIn? .object = some object := by
  refine ⟨fun c hc hchain => h (.optional hkind hc hchain), ?_, ?_⟩
  · by_contra hnone
    push Not at hnone
    exact h (.unnamed hkind hnone)
  · rw [← Option.ne_none_iff_exists']
    exact fun hnone => h (.bare hkind hnone)

theorem exists_isReference {n : Node} (h : ∀ m, OnSpine n m → ¬m.IsObstacle) :
    ∃ names, n.IsReference names := by
  -- The object of an access is found by its role, so the recursion goes down by size.
  induction hsize : n.size using Nat.strongRecOn generalizing n with
  | ind size ih =>
      by_cases hidentifier : n.kind = .identifier
      · exact ⟨_, .identifier hidentifier⟩
      · by_cases hkind : n.kind = .memberExpression
        · obtain ⟨hlink, ⟨property, hproperty, hname⟩, object, hobject⟩ :=
            exists_of_not_isObstacle hkind (h n (.here n))
          have hlt := size_lt_of_mem_children (mem_children_of_childIn? hobject)
          obtain ⟨names, hnames⟩ := ih object.size (hsize ▸ hlt)
            (fun m hm => h m (.object hkind hobject hm)) rfl
          exact ⟨_, .member hkind hlink hproperty hname hobject hnames⟩
        · exact absurd (.foreign hidentifier hkind) (h n (.here n))

/-- An expression has no names exactly if something on its spine is in the way. -/
theorem referenceChain?_eq_none_iff {n : Node} :
    n.referenceChain? = none ↔ ∃ m, OnSpine n m ∧ m.IsObstacle := by
  rw [Option.eq_none_iff_forall_ne_some]
  constructor
  · intro h
    by_contra hnone
    push Not at hnone
    obtain ⟨names, hnames⟩ := exists_isReference hnone
    exact h names hnames.referenceChain?
  · rintro ⟨m, hspine, hobstacle⟩ names hnames
    exact (isReference_of_referenceChain? hnames).not_isObstacle_of_onSpine hspine hobstacle

/-! ### The names of an expression -/

/-- The names of an access are those of its object, and its own one behind them. -/
theorem referenceChain?_eq_some_iff_step {n : Node} {names : List Text} :
    n.referenceChain? = some names ↔
      n.kind = .identifier ∧ names = [n.text] ∨
        ∃ object before property, n.kind = .memberExpression ∧
          (∀ c ∈ n.children, c.kind ≠ .optionalChain) ∧
          n.childIn? .property = some property ∧ property.kind = .propertyIdentifier ∧
          n.childIn? .object = some object ∧ object.referenceChain? = some before ∧
          names = before ++ [property.text] := by
  rw [referenceChain?_eq_some_iff]
  constructor
  · intro h
    cases h with
    | identifier hkind => exact .inl ⟨hkind, rfl⟩
    | member hkind hlink hproperty hname hobject hchain =>
        exact .inr ⟨_, _, _, hkind, hlink, hproperty, hname, hobject, hchain.referenceChain?, rfl⟩
  · rintro (⟨hkind, rfl⟩ |
      ⟨object, before, property, hkind, hlink, hproperty, hname, hobject, hchain, rfl⟩)
    · exact .identifier hkind
    · exact .member hkind hlink hproperty hname hobject (isReference_of_referenceChain? hchain)

/-- **The names of an expression** are those of the plain reference it is.  An identifier has one name, and
an access that is not optional the names of its object and its own one, if it is to a public member.  What
is written with names has these names, and an expression refers to names exactly if it is the reference
with them.  It has none exactly if something on its spine is in the way, however far down. -/
theorem referenceChain?_isExact (n : Node) (names : List Text) :
    (n.referenceChain? = some names ↔
      n.kind = .identifier ∧ names = [n.text] ∨
        ∃ object before property, n.kind = .memberExpression ∧
          (∀ c ∈ n.children, c.kind ≠ .optionalChain) ∧
          n.childIn? .property = some property ∧ property.kind = .propertyIdentifier ∧
          n.childIn? .object = some object ∧ object.referenceChain? = some before ∧
          names = before ++ [property.text]) ∧
      (∀ first rest, (ofNames first rest).referenceChain? = some (first :: rest)) ∧
      (n.referenceChain? = none ↔ ∃ m, OnSpine n m ∧ m.IsObstacle) ∧
      (n.refersTo names = true ↔ n.IsReference names) := by
  refine ⟨referenceChain?_eq_some_iff_step, fun first rest => ?_, referenceChain?_eq_none_iff, ?_⟩
  · exact (isReference_ofNames first rest).referenceChain?
  · rw [refersTo, decide_eq_true_iff, referenceChain?_eq_some_iff]

example :
    ((parse (Utf8.encode "a.b.c; a.b().c; a?.b.c; (a).b; this.b")).children.map fun statement =>
      statement.children.head?.bind referenceChain?) =
      [some (["a", "b", "c"].map Text.ofString), none, none, none, none] := by
  decide +kernel

end ComponentIndex.Script.Node
